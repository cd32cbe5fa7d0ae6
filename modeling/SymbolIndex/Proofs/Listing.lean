import SymbolIndex.Listing
import SymbolIndex.Proofs.Candidates.Located
import SymbolIndex.Proofs.Index.Hits
import SymbolIndex.Proofs.Sexp.RoundTrip

/-!
# Listings of sound entries

An entry is sound when its cells give what readings ask of them. Nothing that a listing reads fails
on a sound entry, so a listing of sound entries goes through to its end; and an index gives sound
entries only.
-/

namespace SymbolIndex

/-! ### Readings that succeed -/

/-- The cells of an entry do not fail, and give a type. -/
structure Entry.Sound (e : Entry) : Prop where
  type : ∃ t, e.typeCell.outcome = .ok (some t)
  doc : ∃ d, e.docCell.outcome = .ok d
  implementation : ∃ l, e.implCell.outcome = .ok l

namespace Reading

variable {α β : Type}

/-- A reading gives a value on an entry. -/
def Succeeds (r : Reading α) (e : Entry) : Prop := ∃ a, r.outcome e = .ok a

namespace Succeeds

variable {r : Reading α} {e : Entry}

lemma done (a : α) (e : Entry) : (Reading.done a).Succeeds e := ⟨a, rfl⟩

lemma bind {f : α → Reading β} (first : r.Succeeds e) (rest : ∀ a, (f a).Succeeds e) :
    (r >>= f).Succeeds e := by
  obtain ⟨a, given⟩ := first
  rw [Succeeds, outcome_bind_of_ok given]
  exact rest a

lemma getOccurrence (e : Entry) : Reading.getOccurrence.Succeeds e := ⟨_, rfl⟩

lemma getType (h : ∃ t, e.typeCell.outcome = .ok (some t)) : Reading.getType.Succeeds e :=
  h.imp fun _ => outcome_getType

lemma getDoc (h : ∃ d, e.docCell.outcome = .ok d) : Reading.getDoc.Succeeds e :=
  h.imp fun _ => (outcome_getDoc e).trans

lemma getSignature (e : Entry) : (Reading.getLocation .interface).Succeeds e := ⟨_, rfl⟩

lemma getImplementation (h : e.isKeyword = false → ∃ l, e.implCell.outcome = .ok l) :
    (Reading.getLocation .implementation).Succeeds e := by
  simp only [Succeeds, Reading.getLocation, outcome]
  cases keyword : e.isKeyword with
  | true => exact ⟨none, rfl⟩
  | false =>
    obtain ⟨l, given⟩ := h keyword
    exact ⟨l, by rw [given]; rfl⟩

end Succeeds

lemma exists_onEach {r : Reading α} {es : List Entry} (h : ∀ e ∈ es, r.Succeeds e) :
    ∃ as now, r.onEach es = ((as, none), now) := by
  induction es with
  | nil => exact ⟨[], [], rfl⟩
  | cons e es ih =>
    obtain ⟨⟨a, first⟩, others⟩ := List.forall_mem_cons.mp h
    obtain ⟨as, now, rest⟩ := ih others
    exact ⟨a :: as, (r.on e).2 :: now, by rw [onEach_cons, first, rest]⟩

end Reading

/-! ### Templates and records -/

/-- The cells that a directive needs give what it asks for. -/
def Directive.Answered (e : Entry) : Directive → Prop
  | .type | .summary => ∃ t, e.typeCell.outcome = .ok (some t)
  | .doc             => ∃ d, e.docCell.outcome = .ok d
  | .implementation  => e.isKeyword = false → ∃ l, e.implCell.outcome = .ok l
  | _                => True

lemma Entry.Sound.answered {e : Entry} (h : e.Sound) (d : Directive) : d.Answered e := by
  cases d with
  | type | summary => exact h.type
  | doc => exact h.doc
  | implementation => exact fun _ => h.implementation
  | _ => trivial

open Reading (Succeeds)

section Answered

variable (p : Presentation) {e : Entry}

lemma Directive.succeeds_pieces {d : Directive} (h : d.Answered e) : (d.pieces p).Succeeds e := by
  cases d with
  | name           => exact (Succeeds.getOccurrence e).bind fun _ => .done _ e
  | qualified      => exact (Succeeds.getOccurrence e).bind fun _ => .done _ e
  | fullPath       => exact (Succeeds.getOccurrence e).bind fun _ => .done _ e
  | kind           => exact (Succeeds.getOccurrence e).bind fun _ => .done _ e
  | type           => exact (Succeeds.getType h).bind fun _ => .done _ e
  | doc            => exact (Succeeds.getDoc h).bind fun _ => .done _ e
  | implementation => exact (Succeeds.getImplementation h).bind fun _ => .done _ e
  | signature      => exact (Succeeds.getSignature e).bind fun _ => .done _ e
  | artifact       => exact (Succeeds.getOccurrence e).bind fun _ => .done _ e
  | summary        =>
    exact (Succeeds.getOccurrence e).bind fun _ => (Succeeds.getType h).bind fun _ => .done _ e
  | percent        => exact .done _ e

lemma Template.succeeds_pieces {ts : List Template.Token}
    (h : ∀ d, .directive d ∈ ts → d.Answered e) : (Template.pieces p ts).Succeeds e := by
  induction ts with
  | nil => exact .done [] e
  | cons t ts ih =>
    have first : (t.pieces p).Succeeds e := by
      cases t with
      | literal t   => exact .done _ e
      | directive d => exact d.succeeds_pieces p (h d List.mem_cons_self)
    have rest := ih fun d hd => h d (List.mem_cons_of_mem t hd)
    exact first.bind fun _ => rest.bind fun _ => .done _ e

end Answered

section Sound

variable (p : Presentation) {e : Entry} (h : e.Sound)
include h

lemma Listing.succeeds_templateLine (ts : List Template.Token) :
    (Listing.templateLine p ts).Succeeds e := by
  have rendered : (Template.render p ts).Succeeds e :=
    (Template.succeeds_pieces p fun d _ => h.answered d).bind fun _ => .done _ e
  exact rendered.bind fun _ => .done _ e

lemma Listing.succeeds_summaryLine : (Listing.summaryLine p).Succeeds e := by
  have styled : (Template.renderStyled p Listing.summaryTemplate).Succeeds e :=
    (Template.succeeds_pieces p fun d _ => h.answered d).bind fun _ => .done _ e
  unfold Listing.summaryLine
  split
  · exact styled.bind fun _ => .done _ e
  · exact Listing.succeeds_templateLine p h _

lemma Sexp.succeeds_recordLine : Sexp.recordLine.Succeeds e := by
  obtain ⟨type, typed⟩ := h.type
  obtain ⟨doc, documented⟩ := h.doc
  have record : Sexp.recordText.Succeeds e := ⟨_, Sexp.recordText_outcome typed documented⟩
  exact record.bind fun _ => .done _ e

end Sound

/-! ### Listings -/

lemma Listing.ofOptions_eq_error {sexp : Bool} {format : Option Text} (p : Presentation)
    (h : sexp = true ∧ format.isSome = true) :
    Listing.ofOptions sexp format p = .error .incompatible := by
  obtain ⟨rfl, given⟩ := h
  obtain ⟨f, rfl⟩ := Option.isSome_iff_exists.mp given
  rfl

lemma Listing.exists_ofOptions {sexp : Bool} {format : Option Text} (p : Presentation)
    (h : ¬ (sexp = true ∧ format.isSome = true)) :
    ∃ listing, Listing.ofOptions sexp format p = .ok listing := by
  cases sexp <;> cases format
  · exact ⟨.summary p, rfl⟩
  · next f => exact ⟨.plain (Template.parse f) p, rfl⟩
  · exact ⟨.sexp, rfl⟩
  · exact absurd ⟨rfl, rfl⟩ h

section Listings

variable {es : List Entry} (h : ∀ e ∈ es, e.Sound)
include h

lemma Sexp.exists_recordLines : ∃ ls now, Sexp.recordLines es = ((ls, none), now) := by
  obtain ⟨ls, now, each⟩ := Reading.exists_onEach fun e he => Sexp.succeeds_recordLine (h e he)
  exact ⟨_, now, by rw [Sexp.recordLines, each]⟩

lemma Sexp.exists_printEntries : ∃ t, (Sexp.printEntries es).1 = .ok t := by
  obtain ⟨ls, now, lines⟩ := Sexp.exists_recordLines h
  exact ⟨_, by rw [Sexp.printEntries, lines]⟩

/-- A listing of sound entries has all its lines. -/
lemma Listing.exists_lines (listing : Listing) :
    ∃ ls now, listing.lines es = ((ls, none), now) := by
  cases listing with
  | plain template p =>
    exact Reading.exists_onEach fun e he => Listing.succeeds_templateLine p (h e he) template
  | summary p => exact Reading.exists_onEach fun e he => Listing.succeeds_summaryLine p (h e he)
  | sexp =>
    obtain ⟨ls, now, lines⟩ := Sexp.exists_recordLines h
    exact ⟨ls.map .plain, now, by rw [Listing.lines, lines]⟩

end Listings

/-! ### Entries of an index -/

lemma Symbol.sound_entry (s : Symbol) (scope : Scope) : (s.entry scope).Sound where
  type := ⟨_, rfl⟩
  doc := ⟨_, rfl⟩
  implementation := by
    simp only [Symbol.entry]
    split
    · exact ⟨_, rfl⟩
    · exact ⟨_, rfl⟩

lemma Symbol.sound_keywordEntry (keyword : Text) : (Symbol.keywordEntry keyword).Sound :=
  ⟨⟨_, rfl⟩, ⟨_, rfl⟩, ⟨_, rfl⟩⟩

namespace Index

variable {idx : Index} {query : Text} {e : Entry}

lemma sound_of_mem_lookup (h : e ∈ idx.lookup query) : e.Sound := by
  rw [lookup_eq_map_found] at h
  obtain ⟨k, -, rfl⟩ := List.mem_map.mp h
  exact Symbol.sound_entry _ k.scope

lemma sound_of_mem_complete (h : e ∈ idx.complete query) : e.Sound := by
  rcases mem_complete h with ⟨k, -, rfl⟩ | ⟨keyword, -, rfl⟩
  · exact Symbol.sound_entry _ k.scope
  · exact Symbol.sound_keywordEntry keyword

end Index

end SymbolIndex
