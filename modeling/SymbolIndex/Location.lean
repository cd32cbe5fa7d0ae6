import SymbolIndex.FilePath

/-!
# Source locations

A location is a file, a line and a column. It is shown with the file relative to the project root
when the file is absolute and lies below it; in every other case the file text is shown untouched.
-/

namespace SymbolIndex

/-- A position in a source file; lines count from one, columns from zero. -/
structure Location where
  /-- The file, as it was recorded. -/
  file : Text
  /-- The line. -/
  line : Int
  /-- The column. -/
  col : Int
  deriving DecidableEq

namespace Location

/-- The file relative to the project root, when there is one and the file lies below it. -/
def relativeFile? (root : Option FilePath) (file : Text) : Option FilePath :=
  let path := FilePath.ofText file
  if path.isAbsolute then root.bind path.relativeTo? else none

/-- The file as it is shown. -/
def displayFile (l : Location) (root : Option FilePath) : Text :=
  match relativeFile? root l.file with
  | some p => p.toText
  | none   => l.file

/-- The location as `file:line:col`. -/
def render (l : Location) (root : Option FilePath) : Text :=
  l.displayFile root ++ ':' :: Text.ofInt l.line ++ ':' :: Text.ofInt l.col

end Location

end SymbolIndex
