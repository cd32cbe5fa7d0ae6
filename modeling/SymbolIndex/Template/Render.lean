import SymbolIndex.Entry.Reading
import SymbolIndex.Template.Basic
import SymbolIndex.Template.Styled
import SymbolIndex.Text.Shortened

/-!
# Rendering templates

A template is rendered for an entry token by token, from left to right, so it computes the cells
that its directives ask for and no others, and fails with the first that fails. The result is a
list of pieces, which is read as plain text or as styled text.
-/

namespace SymbolIndex

/-- How entries are shown, whatever the template. -/
structure Presentation where
  /-- Whether summaries are styled. -/
  color : Bool
  /-- The project root that files are shown relative to. -/
  root : Option FilePath
  /-- The width that the types in summaries are cut to. -/
  typeWidth : Int

/-- The width of types in summaries unless another is asked for. -/
def defaultTypeWidth : Int := 60

/-- A piece of rendered text; the written form of a kind carries the kind. -/
structure Piece where
  /-- The text. -/
  text : Text
  /-- The kind that the text is the written form of. -/
  kind : Option Kind
  deriving DecidableEq

namespace Piece

/-- A piece of text that is no kind. -/
def plain (t : Text) : Piece := ⟨t, none⟩

/-- The written form of a kind. -/
def ofKind (k : Kind) : Piece := ⟨k.toText, some k⟩

/-- A location as it is shown, also where there is none. -/
def ofLocation (p : Presentation) : Option Location → Piece
  | none   => plain "<no location>".toList
  | some l => plain (l.render p.root)

end Piece

namespace Directive

/-- The access path, the kind and the beginning of the type. -/
def summaryPieces (p : Presentation) : Reading (List Piece) := do
  let o ← Reading.getOccurrence
  let type ← Reading.getType
  let short := type.shorten p.typeWidth
  let lead := [Piece.plain o.qualified, .plain [' '], .ofKind o.kind]
  return if short.isEmpty then lead else lead ++ [.plain (' ' :: short)]

/-- What a directive stands for. -/
def pieces (p : Presentation) : Directive → Reading (List Piece)
  | .name           => return [.plain (← Reading.getOccurrence).name]
  | .qualified      => return [.plain (← Reading.getOccurrence).qualified]
  | .fullPath       => return [.plain (← Reading.getOccurrence).fullPath]
  | .kind           => return [.ofKind (← Reading.getOccurrence).kind]
  | .type           => return [.plain (← Reading.getType)]
  | .doc            => return [.plain ((← Reading.getDoc).getD [])]
  | .implementation => return [.ofLocation p (← Reading.getLocation .implementation)]
  | .signature      => return [.ofLocation p (← Reading.getLocation .interface)]
  | .artifact       => return [.plain (← Reading.getOccurrence).artifact]
  | .summary        => summaryPieces p
  | .percent        => return [.plain ['%']]

end Directive

namespace Template

/-- What a token stands for. -/
def Token.pieces (p : Presentation) : Token → Reading (List Piece)
  | .literal t   => return [.plain t]
  | .directive d => d.pieces p

/-- What a list of tokens stands for. -/
def pieces (p : Presentation) : List Token → Reading (List Piece)
  | []      => return []
  | t :: ts => do
    let first ← t.pieces p
    let rest ← pieces p ts
    return first ++ rest

/-- The text of some pieces. -/
def plainText (ps : List Piece) : Text := ps.flatMap Piece.text

/-- The style of a piece: the style of its kind, when kinds are styled. -/
def styleOf (color : Bool) (piece : Piece) : Option Style :=
  if color then piece.kind.map (·.tag.style) else none

/-- The styled text of some pieces. -/
def styledText (color : Bool) (ps : List Piece) : StyledText :=
  ps.foldl (fun s piece => s.append piece.text (styleOf color piece)) .empty

/-- Render tokens as plain text. -/
def render (p : Presentation) (ts : List Token) : Reading Text :=
  return plainText (← pieces p ts)

/-- Render tokens as styled text. -/
def renderStyled (p : Presentation) (ts : List Token) : Reading StyledText :=
  return styledText p.color (← pieces p ts)

end Template

end SymbolIndex
