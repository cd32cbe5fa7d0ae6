import SymbolIndex.Text.Basic

/-!
# The common margin of a block of lines

Lines end at the line break only. A line made of spaces and tabs counts as empty; the margin of a
block is the longest string of spaces and tabs that all its other lines start with, a tab and a
space being different, and `withoutMargin` removes it from each of them.
-/

namespace SymbolIndex.Text

/-- The lines of a text; there is always at least one. -/
def lines (t : Text) : List Text := t.splitOn '\n'

/-- The text made of the given lines. -/
def unlines (ls : List Text) : Text := joinWith '\n' ls

/-- Spaces and tabs indent a line. -/
def isIndent (c : Char) : Bool := c == ' ' || c == '\t'

/-- The longest text that both texts start with. -/
def commonStart : Text → Text → Text
  | a :: s, b :: t => if a = b then a :: commonStart s t else []
  | _, _           => []

/-- A line made of spaces and tabs is written as an empty one. -/
def clearBlankLine (l : Text) : Text := if l.all isIndent then [] else l

/-- The margin shared by the lines that are not empty; none when all are. -/
def margin? : List Text → Option Text
  | []      => none
  | l :: ls =>
    if l.isEmpty then margin? ls
    else
      match margin? ls with
      | none   => some (l.takeWhile isIndent)
      | some m => some (commonStart (l.takeWhile isIndent) m)

/-- A block of lines without its margin. -/
def withoutMargin (ls : List Text) : List Text :=
  let cleared := ls.map clearBlankLine
  cleared.map (·.drop ((margin? cleared).getD []).length)

end SymbolIndex.Text
