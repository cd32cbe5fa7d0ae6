import SymbolIndex.Sexp.Literal

/-!
# S-expression tokens

The words of an s-expression: parentheses, dots, string literals and atoms. A dot is a word of its
own only where a word begins; inside an atom it is a character like any other.
-/

namespace SymbolIndex.Sexp

/-- A word of an s-expression. -/
inductive Token where
  | openParen
  | closeParen
  | dot
  | str (t : Text)
  | atom (t : Text)
  deriving DecidableEq

/-- Blanks, parentheses and quotes end an atom. -/
def endsAtom (c : Char) : Bool := Text.isBlank c || c == '(' || c == ')' || c == '"'

/-- The tokens of a text whose first character has offset `i`. -/
def tokensFrom (i : Nat) : Text → Except Fault (List Token)
  | []     => .ok []
  | c :: r =>
    if Text.isBlank c then tokensFrom (i + 1) r
    else if c = '(' then (tokensFrom (i + 1) r).map (.openParen :: ·)
    else if c = ')' then (tokensFrom (i + 1) r).map (.closeParen :: ·)
    else if c = '.' then (tokensFrom (i + 1) r).map (.dot :: ·)
    else if c = '"' then
      match _h : readBody i (i + 1) r with
      | .error f      => .error f
      | .ok (t, rest) =>
        (tokensFrom (i + 1 + (r.length - rest.length)) rest).map (.str t :: ·)
    else
      let tail := r.takeWhile (!endsAtom ·)
      (tokensFrom (i + 1 + tail.length) (r.dropWhile (!endsAtom ·))).map (.atom (c :: tail) :: ·)
termination_by t => t.length
decreasing_by
  all_goals simp only [List.length_cons]
  · omega
  · omega
  · omega
  · omega
  · have := length_of_readBody _h
    omega
  · have := (List.dropWhile_sublist (!endsAtom ·) : (r.dropWhile _).Sublist r).length_le
    omega

/-- The tokens of a text. -/
def tokens (t : Text) : Except Fault (List Token) := tokensFrom 0 t

end SymbolIndex.Sexp
