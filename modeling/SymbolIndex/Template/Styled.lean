import SymbolIndex.Kind
import SymbolIndex.Text.Terminal

/-!
# Styled text

A styled text is a plain text with spans that carry a style. It is put together from pieces; each
loses its control characters on the way in, and empty pieces leave no trace.
-/

namespace SymbolIndex

/-- The styles that kinds are shown in. -/
inductive Style where
  | cyan
  | green
  | red
  | yellow
  | boldBlue
  | blue
  | magenta
  | bold
  deriving DecidableEq, Repr

namespace Style

/-- The name of a style. -/
def name : Style → Text
  | .cyan     => "cyan".toList
  | .green    => "green".toList
  | .red      => "red".toList
  | .yellow   => "yellow".toList
  | .boldBlue => "bold blue".toList
  | .blue     => "blue".toList
  | .magenta  => "magenta".toList
  | .bold     => "bold".toList

/-- The parameters that switch a style on at a terminal. -/
def parameters : Style → Text
  | .cyan     => "36".toList
  | .green    => "32".toList
  | .red      => "31".toList
  | .yellow   => "33".toList
  | .boldBlue => "1;34".toList
  | .blue     => "34".toList
  | .magenta  => "35".toList
  | .bold     => "1".toList

/-- A text in a style, as a terminal takes it. -/
def wrap (s : Style) (t : Text) : Text :=
  [Text.escapeChar, '['] ++ s.parameters ++ 'm' :: t ++ [Text.escapeChar, '[', '0', 'm']

end Style

/-- The style of each kind. -/
def Kind.Tag.style : Kind.Tag → Style
  | .type        => .cyan
  | .value       => .green
  | .exception   => .red
  | .field       => .yellow
  | .constructor => .yellow
  | .method      => .green
  | .module      => .boldBlue
  | .moduleType  => .blue
  | .objectClass => .magenta
  | .classType   => .magenta
  | .keyword     => .bold

/-- A stretch of a text, from the offset `start` up to the offset `stop`, in a style. -/
structure Span where
  start : Nat
  stop : Nat
  style : Style
  deriving DecidableEq

/-- A text with styles. -/
structure StyledText where
  /-- The text. -/
  plain : Text
  /-- The styled stretches, in order. -/
  spans : List Span
  deriving DecidableEq

namespace StyledText

/-- The empty text. -/
def empty : StyledText := ⟨[], []⟩

/-- Put a piece at the end. -/
def append (s : StyledText) (piece : Text) (style : Option Style) : StyledText :=
  if piece.isEmpty then s
  else
    let clean := piece.withoutControls
    let span := style.map fun st => ⟨s.plain.length, s.plain.length + clean.length, st⟩
    ⟨s.plain ++ clean, s.spans ++ span.toList⟩

/-- Write the rest of a text, whose first character has offset `i`, as a terminal takes it. -/
def toTerminalFrom : Nat → Text → List Span → Text
  | _, t, []      => t
  | i, t, s :: ss =>
    t.take (s.start - i) ++ s.style.wrap ((t.drop (s.start - i)).take (s.stop - s.start))
      ++ toTerminalFrom s.stop (t.drop (s.stop - i)) ss

/-- The text as a terminal takes it. -/
def toTerminal (s : StyledText) : Text := toTerminalFrom 0 s.plain s.spans

end StyledText

end SymbolIndex
