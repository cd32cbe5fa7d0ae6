/-!
# Text

A text is a list of code points, so lengths, offsets and cuts all count code points, and every
operation on texts is a recursion over a list.
-/

namespace SymbolIndex

/-- A sequence of code points. -/
abbrev Text := List Char

namespace Text

/-- The decimal spelling of an integer, with a minus sign in front of a negative one. -/
def ofInt : Int → Text
  | .ofNat n   => Nat.toDigits 10 n
  | .negSucc n => '-' :: Nat.toDigits 10 (n + 1)

/-- The decimal spelling of a natural number. -/
def ofNat (n : Nat) : Text := Nat.toDigits 10 n

/-- The texts of `ts` in order, with `sep` between neighbours. -/
def joinWith (sep : Char) (ts : List Text) : Text := [sep].intercalate ts

/-- The dotted spelling of a path of segments. -/
def dotted (segments : List Text) : Text := joinWith '.' segments

end Text

end SymbolIndex
