import SymbolIndex.Index.Symbol
import SymbolIndex.Proofs.Template.Shown
import SymbolIndex.Proofs.Text.Words

/-!
# Types in summaries

A summary cuts the type to a width. It makes no difference whether the type was put on one line
before, as an index does, or was cut to a larger width.
-/

namespace SymbolIndex

namespace Entry

/-- The entry with another type. -/
def withType (e : Entry) (t : Text) : Entry := { e with typeCell := .of (some t) }

/-- A summary shows the access path, the kind, and the shortened type unless that is empty. -/
lemma shown_summary (p : Presentation) {e : Entry} {t : Text}
    (h : e.typeCell.outcome = .ok (some t)) :
    e.shown p "%i".toList = .ok (e.qualified ++ ' ' :: e.kind.toText
      ++ if (t.shorten p.typeWidth).isEmpty then [] else ' ' :: t.shorten p.typeWidth) := by
  have known : (Directive.summaryPieces p).outcome e
      = .ok (let lead := [.plain e.qualified, .plain [' '], .ofKind e.kind]
          if (t.shorten p.typeWidth).isEmpty then lead
          else lead ++ [.plain (' ' :: t.shorten p.typeWidth)]) := by
    rw [Directive.summaryPieces, Reading.outcome_bind_of_ok (Reading.outcome_getOccurrence e),
      Reading.outcome_bind_of_ok (Reading.outcome_getType h)]
    rfl
  refine (shown_directive p .summary e).trans ?_
  rw [Directive.pieces, known]
  split
  · simp [Except.map, Template.plainText, Piece.plain, Piece.ofKind]
  · simp [Except.map, Template.plainText, Piece.plain, Piece.ofKind]

lemma shown_summary_withType (p : Presentation) (e : Entry) {t u : Text}
    (h : u.shorten p.typeWidth = t.shorten p.typeWidth) :
    (e.withType u).shown p "%i".toList = (e.withType t).shown p "%i".toList := by
  rw [shown_summary p (t := u) rfl, shown_summary p (t := t) rfl, h]
  rfl

end Entry

/-- Putting a text on one line joins its words, and doing so again changes nothing. Shortening a
text gives the same as shortening it on one line, or already shortened to a larger width; what is
left has single blanks and fits the width, or is the three dots where these do not fit. So the
summaries of an entry do not tell whether its type was put on one line or shortened before. -/
theorem shorten_absorbs (t : Text) :
    Symbol.typeText (some t) = Text.joinWith ' ' t.words ∧
      Symbol.typeText (some (Symbol.typeText (some t))) = Symbol.typeText (some t) ∧
      (∀ width : Int,
        (Symbol.typeText (some t)).shorten width = t.shorten width ∧
        (t.shorten width).SingleBlanks ∧
        ((t.shorten width).length : Int) ≤ max width 3 ∧
        ∀ wider : Int, width ≤ wider → (t.shorten wider).shorten width = t.shorten width) ∧
      ∀ (p : Presentation) (e : Entry),
        (e.withType (Symbol.typeText (some t))).shown p "%i".toList
          = (e.withType t).shown p "%i".toList ∧
        ∀ wider : Int, p.typeWidth ≤ wider →
          (e.withType (t.shorten wider)).shown p "%i".toList
            = (e.withType t).shown p "%i".toList := by
  refine ⟨t.singleSpaced_eq_joinWith, t.singleSpaced_singleSpaced, ?_, ?_⟩
  · intro width
    refine ⟨t.shorten_singleSpaced width, t.singleBlanks_shorten width, t.length_shorten_le width, ?_⟩
    intro wider h
    exact t.shorten_shorten h
  · intro p e
    refine ⟨e.shown_summary_withType p (t.shorten_singleSpaced p.typeWidth), ?_⟩
    intro wider h
    exact e.shown_summary_withType p (t.shorten_shorten h)

theorem shorten_absorbs_afterBlank :
    (5 : Int) ≤ 6 ∧ Text.shorten "aa \t bb\u00a0cc".toList 6 = "aa ...".toList ∧
      Text.shorten "aa ...".toList 5 = Text.shorten "aa \t bb\u00a0cc".toList 5 := by
  have cut : Text.shorten "aa \t bb\u00a0cc".toList 6 = "aa ...".toList := by decide
  have composed := ((shorten_absorbs "aa \t bb\u00a0cc".toList).2.2.1 5).2.2.2 6 (by decide)
  rw [cut] at composed
  exact ⟨by decide, cut, composed⟩

end SymbolIndex
