import SymbolIndex.Text.Blank

/-!
# Texts cut to a width

A text that has to fit on a line is first put on one line; when it is longer than the width its
end gives way to three dots, which are written even where the width leaves no room for them.
-/

namespace SymbolIndex.Text

/-- Three dots, the sign that a text was cut. -/
def ellipsis : Text := ['.', '.', '.']

/-- The text on one line of at most `width` characters. -/
def shorten (t : Text) (width : Int) : Text :=
  let line := t.singleSpaced
  if (line.length : Int) ≤ width then line
  else line.take (width - 3).toNat ++ ellipsis

end SymbolIndex.Text
