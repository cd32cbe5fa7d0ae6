import SymbolIndex.Text.Basic

/-!
# File paths

Paths are texts read by their slashes alone; no file system is consulted. A path is its root part
and its parts, with empty parts and single dots left out and `..` kept. `relativeTo?` compares
part by part; `resolve` also folds `..`.
-/

namespace SymbolIndex

/-- How a path starts: exactly two slashes are a root of their own, any other number of leading
slashes is the root. -/
inductive RootPart where
  | relative
  | root
  | doubleRoot
  deriving DecidableEq, Repr

/-- A path as its root part and its parts. -/
structure FilePath where
  /-- How the path starts. -/
  root : RootPart
  /-- The names between the slashes. -/
  parts : List Text
  deriving DecidableEq

namespace RootPart

/-- The root part of a path text. -/
def ofText (t : Text) : RootPart :=
  match (t.takeWhile (· == '/')).length with
  | 0 => .relative
  | 2 => .doubleRoot
  | _ => .root

/-- The slashes that a root part is written with. -/
def toText : RootPart → Text
  | .relative   => []
  | .root       => ['/']
  | .doubleRoot => ['/', '/']

end RootPart

namespace FilePath

/-- Empty parts and single dots do not count. -/
def isPart (p : Text) : Bool := !p.isEmpty && p != ['.']

/-- The parts of a path text. -/
def partsOf (t : Text) : List Text := (t.splitOn '/').filter isPart

/-- Read a path text. -/
def ofText (t : Text) : FilePath := ⟨.ofText t, partsOf t⟩

/-- Write a path; the relative path without parts is a single dot. -/
def toText (p : FilePath) : Text :=
  match p.root.toText ++ Text.joinWith '/' p.parts with
  | [] => ['.']
  | t  => t

/-- Whether a path starts at a root. -/
def isAbsolute (p : FilePath) : Bool := p.root != .relative

/-- What leads from `base` to `p`, when both have the same root part and the parts of `p` start
with those of `base`. -/
def relativeTo? (p base : FilePath) : Option FilePath :=
  if p.root = base.root then
    (base.parts.isPrefixOf? p.parts).map (⟨.relative, ·⟩)
  else none

/-- Parts after one more part, where `..` takes back the last one and stays at the root. -/
def descend (parts : List Text) (p : Text) : List Text :=
  if p = ['.', '.'] then parts.dropLast else parts ++ [p]

/-- The path without parts at the root. -/
def rootDirectory : FilePath := ⟨.root, []⟩

/-- The absolute path that `p` stands for in `directory`, which is absolute itself. -/
def resolve (p directory : FilePath) : FilePath :=
  ⟨.root, p.parts.foldl descend (if p.isAbsolute then [] else directory.parts)⟩

end FilePath

end SymbolIndex
