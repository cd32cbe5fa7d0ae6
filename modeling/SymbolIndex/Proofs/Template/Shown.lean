import SymbolIndex.Proofs.Entry.Outcome
import SymbolIndex.Template.Render

/-!
# What templates show

`Entry.shown` is the text that a template gives for an entry. A template that is a single directive
shows what the directive stands for.
-/

namespace SymbolIndex

/-- The text that a template gives for an entry. -/
def Entry.shown (p : Presentation) (template : Text) (e : Entry) : Except Failure Text :=
  ((Template.render p (Template.parse template)).on e).1

lemma Template.parse_directive (d : Directive) :
    Template.parse ['%', d.letter] = [.directive d] := by
  cases d <;> rfl

/-- Tokens show the texts of the pieces that they stand for. -/
lemma Template.render_of_pieces {p : Presentation} {e : Entry} {ts : List Template.Token}
    {ps : List Piece} (given : (Template.pieces p ts).outcome e = .ok ps) :
    ((Template.render p ts).on e).1 = .ok (Template.plainText ps) := by
  rw [Reading.on_fst, Template.render, Reading.outcome_bind_of_ok given]
  rfl

namespace Entry

variable (p : Presentation) {e f : Entry}

lemma shown_congr (template : Text) (h : e.Agrees f) : e.shown p template = f.shown p template := by
  simp only [shown, Reading.on_fst]
  exact Reading.outcome_congr _ h

lemma shown_directive (d : Directive) (e : Entry) :
    e.shown p ['%', d.letter] = ((d.pieces p).outcome e).map Template.plainText := by
  simp only [shown, Reading.on_fst, Template.parse_directive, Template.render, Template.pieces,
    Template.Token.pieces, Reading.outcome_bind, Reading.pure_eq, Reading.outcome_done]
  cases (d.pieces p).outcome e with
  | error g => rfl
  | ok ps => simp [bind, Except.bind, Except.map]

/-- A directive that stands for one piece shows the text of that piece. -/
lemma shown_of_piece {d : Directive} {piece : Piece} (h : (d.pieces p).outcome e = .ok [piece]) :
    e.shown p ['%', d.letter] = .ok piece.text := by
  rw [shown_directive, h]
  simp [Except.map, Template.plainText]

lemma shown_qualified (e : Entry) : e.shown p "%q".toList = .ok e.qualified :=
  shown_of_piece (d := .qualified) p rfl

lemma shown_fullPath (e : Entry) : e.shown p "%p".toList = .ok e.fullPath :=
  shown_of_piece (d := .fullPath) p rfl

lemma shown_kind (e : Entry) : e.shown p "%k".toList = .ok e.kind.toText :=
  shown_of_piece (d := .kind) p rfl

lemma shown_type {t : Text} (h : e.typeCell.outcome = .ok (some t)) :
    e.shown p "%t".toList = .ok t := by
  have asked : (Directive.type.pieces p).outcome e = .ok [.plain t] :=
    Reading.outcome_bind_of_ok (Reading.outcome_getType h) _
  exact shown_of_piece p asked

lemma shown_doc {d : Option Text} (h : e.docCell.outcome = .ok d) :
    e.shown p "%d".toList = .ok (d.getD []) := by
  have asked : (Directive.doc.pieces p).outcome e = .ok [.plain (d.getD [])] :=
    Reading.outcome_bind_of_ok ((Reading.outcome_getDoc e).trans h) _
  exact shown_of_piece p asked

end Entry

end SymbolIndex
