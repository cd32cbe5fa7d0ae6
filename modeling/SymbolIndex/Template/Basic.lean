import SymbolIndex.Text.Basic

/-!
# Templates

A template is a text with directives, a percent sign followed by a letter. Reading one gives its
tokens: directives, and the longest literal texts between them. A percent sign that starts no
directive is literal. `written` gives back the template that was read.
-/

namespace SymbolIndex

/-- What a template can ask for. -/
inductive Directive where
  | name
  | qualified
  | fullPath
  | kind
  | type
  | doc
  | implementation
  | signature
  | artifact
  | summary
  | percent
  deriving DecidableEq, Repr

namespace Directive

/-- Every directive. -/
def all : List Directive :=
  [.name, .qualified, .fullPath, .kind, .type, .doc, .implementation, .signature, .artifact,
    .summary, .percent]

/-- The letter of a directive. -/
def letter : Directive → Char
  | .name           => 'n'
  | .qualified      => 'q'
  | .fullPath       => 'p'
  | .kind           => 'k'
  | .type           => 't'
  | .doc            => 'd'
  | .implementation => 'l'
  | .signature      => 's'
  | .artifact       => 'f'
  | .summary        => 'i'
  | .percent        => '%'

/-- The directive with the given letter. -/
def ofLetter? (c : Char) : Option Directive := all.find? (·.letter == c)

theorem ofLetter?_letter (d : Directive) : ofLetter? d.letter = some d := by cases d <;> decide

theorem letter_of_ofLetter? {c : Char} {d : Directive} (h : ofLetter? c = some d) :
    d.letter = c := by
  have := List.find?_some h
  simpa using this

end Directive

namespace Template

/-- A piece of a template. -/
inductive Token where
  | literal (t : Text)
  | directive (d : Directive)
  deriving DecidableEq

/-- Put a literal character in front. -/
def consLiteral (c : Char) : List Token → List Token
  | .literal t :: ts => .literal (c :: t) :: ts
  | ts               => .literal [c] :: ts

/-- The tokens of a template. -/
def parse : Text → List Token
  | []          => []
  | [c]         => [.literal [c]]
  | c :: d :: r =>
    if c = '%' then
      match Directive.ofLetter? d with
      | some directive => .directive directive :: parse r
      | none           => consLiteral c (parse (d :: r))
    else consLiteral c (parse (d :: r))

/-- A token as it is written. -/
def Token.written : Token → Text
  | .literal t   => t
  | .directive d => ['%', d.letter]

/-- The template that the tokens were read from. -/
def written (ts : List Token) : Text := ts.flatMap Token.written

end Template

end SymbolIndex
