import SymbolIndex.Sexp.Fault
import SymbolIndex.Text.Blank

/-!
# String literals

A literal is a text between double quotes. Quotes, backslashes and control characters are escaped
in it, so a literal is printable and ends at its first bare quote. `readBody` is the way back; it
counts offsets, because faults are reported with the place where they lie.
-/

namespace SymbolIndex.Sexp

/-- The three octal digits of a code point below 512. -/
def octalDigits (n : Nat) : Text :=
  [Nat.digitChar (n / 64 % 8), Nat.digitChar (n / 8 % 8), Nat.digitChar (n % 8)]

/-- A character as it is written in a literal. -/
def escape (c : Char) : Text :=
  if c = '\\' then ['\\', '\\']
  else if c = '"' then ['\\', '"']
  else if c = '\n' then ['\\', 'n']
  else if c = '\t' then ['\\', 't']
  else if c = '\r' then ['\\', 'r']
  else if c.toNat < 0x20 ∨ c.toNat = 0x7F then '\\' :: octalDigits c.toNat
  else [c]

/-- The literal of a text. -/
def quote (t : Text) : Text := '"' :: t.flatMap escape ++ ['"']

/-- The character that a letter after a backslash stands for. -/
def unescape? : Char → Option Char
  | '\\' => some '\\'
  | '"'  => some '"'
  | 'n'  => some '\n'
  | 't'  => some '\t'
  | 'r'  => some '\r'
  | _    => none

/-- The value of an octal digit. -/
def octalDigit? (c : Char) : Option Nat :=
  if '0' ≤ c ∧ c ≤ '7' then some (c.toNat - '0'.toNat) else none

/-- The character that three octal digits stand for. -/
def octal? (a b c : Char) : Option Char :=
  match octalDigit? a, octalDigit? b, octalDigit? c with
  | some x, some y, some z => some (Char.ofNat ((x * 8 + y) * 8 + z))
  | _, _, _                => none

/-- The text of a literal that opens at the offset `start`, read from the offset `i` inside it,
and what follows its closing quote. -/
def readBody (start : Nat) : Nat → Text → Except Fault (Text × Text)
  | _, []     => .error (.unterminated start)
  | i, c :: r =>
    if c = '"' then .ok ([], r)
    else if c = '\\' then
      match r with
      | []      => .error (.unterminated start)
      | e :: r' =>
        match unescape? e with
        | some d => (readBody start (i + 2) r').map fun (t, rest) => (d :: t, rest)
        | none   =>
          match r' with
          | f :: g :: r'' =>
            match octal? e f g with
            | some d => (readBody start (i + 4) r'').map fun (t, rest) => (d :: t, rest)
            | none   => .error (.badEscape e i)
          | _ => .error (.badEscape e i)
    else (readBody start (i + 1) r).map fun (t, rest) => (c :: t, rest)

/-- The text of the literal that opens at the offset `i`, and what follows it. -/
def readLiteral (i : Nat) : Text → Except Fault (Text × Text)
  | '"' :: r => readBody i (i + 1) r
  | _        => .error .noOpeningQuote

/-- The text of a single literal, blanks around it not counting. -/
def unquote (t : Text) : Except Fault Text :=
  let literal := t.trim
  match readLiteral 0 literal with
  | .error f        => .error f
  | .ok (value, []) => .ok value
  | .ok (_, rest)   => .error (.trailingText (literal.length - rest.length))

theorem length_of_readBody {start i : Nat} {s t rest : Text}
    (h : readBody start i s = .ok (t, rest)) : rest.length < s.length := by
  fun_induction readBody start i s generalizing t rest with
  | case1 | case3 | case6 | case7 => cases h
  | case2 =>
    cases h
    simp
  | case4 i e r' d _ _ ih | case5 i e f g r'' _ d _ _ ih | case8 i c r _ _ ih =>
    revert h
    generalize readBody start _ _ = result at ih
    intro h
    cases result with
    | error f => cases h
    | ok p =>
      cases h
      have := ih rfl
      simp only [List.length_cons]
      omega

end SymbolIndex.Sexp
