import SymbolIndex.Text.Basic

/-!
# Blank characters

The blank characters are the 29 code points of the Unicode whitespace property together with the
four information separators. `trim` removes them from both ends of a text and `singleSpaced`
puts a text on one line, with one space for each run of blanks inside it.
-/

namespace SymbolIndex.Text

/-- The closed ranges of code points that are blank. -/
def blankRanges : List (Nat × Nat) :=
  [(0x09, 0x0D), (0x1C, 0x20), (0x85, 0x85), (0xA0, 0xA0), (0x1680, 0x1680), (0x2000, 0x200A),
    (0x2028, 0x2029), (0x202F, 0x202F), (0x205F, 0x205F), (0x3000, 0x3000)]

/-- Whether a character is blank. -/
def isBlank (c : Char) : Bool :=
  blankRanges.any fun r => r.1 ≤ c.toNat && c.toNat ≤ r.2

/-- The text without the blanks it starts with. -/
def trimStart (t : Text) : Text := t.dropWhile isBlank

/-- The text without the blanks it ends with. -/
def trimEnd (t : Text) : Text := (t.reverse.dropWhile isBlank).reverse

/-- The text without the blanks at either end. -/
def trim (t : Text) : Text := (trimStart t).trimEnd

/-- Write one space for each maximal run of blanks: a blank is kept, as a space, exactly when the
next character is not blank. -/
def squeeze : Text → Text
  | []     => []
  | c :: r =>
    if isBlank c then
      if r.head?.any isBlank then squeeze r else ' ' :: squeeze r
    else c :: squeeze r

/-- The text on one line: runs of blanks become single spaces, and none is left at the ends. -/
def singleSpaced (t : Text) : Text := (squeeze t).trim

/-- Whether a text consists of blanks only. -/
def allBlank (t : Text) : Bool := t.all isBlank

end SymbolIndex.Text
