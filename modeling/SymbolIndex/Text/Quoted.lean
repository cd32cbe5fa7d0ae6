import SymbolIndex.Text.Unprintable

/-!
# Texts quoted in messages

Messages and log records show a text between single quotes, or between double quotes when it has
a single quote and no double one. Inside, the backslash, the line break, the tab, the carriage
return and the delimiter itself are escaped, and unprintable characters are written by their code.
-/

namespace SymbolIndex.Text

/-- The quotation mark that delimits `t`. -/
def delimiter (t : Text) : Char :=
  if t.contains '\'' && !t.contains '"' then '"' else '\''

/-- The last `n` hexadecimal digits of a number. -/
def hexDigits (n code : Nat) : Text :=
  ((List.range n).map fun i => Nat.digitChar (code / Nat.pow 16 i % 16)).reverse

/-- A character written by its code, with two, four or eight digits as it needs. -/
def byCode (c : Char) : Text :=
  if c.toNat < 0x100 then '\\' :: 'x' :: hexDigits 2 c.toNat
  else if c.toNat < 0x10000 then '\\' :: 'u' :: hexDigits 4 c.toNat
  else '\\' :: 'U' :: hexDigits 8 c.toNat

/-- A character as it is written between two marks `q`. -/
def escapeFor (q c : Char) : Text :=
  if c == '\\' then ['\\', '\\']
  else if c == '\n' then ['\\', 'n']
  else if c == '\t' then ['\\', 't']
  else if c == '\r' then ['\\', 'r']
  else if c == q then ['\\', q]
  else if isUnprintable c then byCode c
  else [c]

/-- A text between quotation marks. -/
def quoted (t : Text) : Text :=
  let q := delimiter t
  q :: t.flatMap (escapeFor q) ++ [q]

end SymbolIndex.Text
