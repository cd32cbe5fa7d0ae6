import SymbolIndex.Text.Quoted

/-!
# What can be wrong with an s-expression

The faults of a text that should hold string literals, one expression, or a list of records.
-/

namespace SymbolIndex.Sexp

/-- Why a text does not read as an s-expression. -/
inductive Fault where
  /-- A literal does not begin with a quote. -/
  | noOpeningQuote
  /-- Something follows a literal. -/
  | trailingText (offset : Nat)
  /-- A backslash starts no escape. -/
  | badEscape (c : Char) (offset : Nat)
  /-- A literal has no closing quote. -/
  | unterminated (offset : Nat)
  /-- There is nothing to read. -/
  | empty
  /-- A value is missing at the end. -/
  | unexpectedEnd
  /-- A closing parenthesis or a dot stands where a value should. -/
  | unexpected (c : Char)
  /-- A dot follows no value, or several. -/
  | dottedHead
  /-- A dotted pair does not end after its second value. -/
  | dottedEnd
  /-- A list is not closed. -/
  | unbalanced
  /-- Something follows the expression. -/
  | trailingData
  /-- The expression is no list. -/
  | topLevel
  /-- A record is no list, or an empty one. -/
  | record
  /-- A field of a record is no pair. -/
  | field
  deriving DecidableEq

/-- The wording of a fault. -/
def Fault.message : Fault → Text
  | .noOpeningQuote  => "string literal must start with '\"'".toList
  | .trailingText i  => "trailing data after string at offset ".toList ++ Text.ofNat i
  | .badEscape c i   => "bad escape \\".toList ++ c :: " at offset ".toList ++ Text.ofNat i
  | .unterminated i  => "unterminated string at offset ".toList ++ Text.ofNat i
  | .empty           => "empty input".toList
  | .unexpectedEnd   => "unexpected end of input".toList
  | .unexpected c    => "unexpected ".toList ++ Text.quoted [c]
  | .dottedHead      => "dotted pair needs exactly one head".toList
  | .dottedEnd       => "dotted pair must end with ')'".toList
  | .unbalanced      => "unbalanced parentheses".toList
  | .trailingData    => "trailing data after list".toList
  | .topLevel        => "top-level value must be a list".toList
  | .record          => "record must be a non-empty list".toList
  | .field           => "record field must be a dotted pair".toList

end SymbolIndex.Sexp
