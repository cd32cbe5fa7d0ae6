import Mathlib.Tactic.Lemma
import SymbolIndex.Entry.Reading

/-!
# What readings give

A reading runs on an entry and computes cells on the way, but what it gives depends only on what
each cell gives when asked. `Reading.outcome` is the answer without the cells; running a reading
gives that answer and leaves an entry behind that gives the same answers.
-/

namespace SymbolIndex

/-- Two entries are of one occurrence and their cells give the same, computed or not. -/
structure Entry.Agrees (e f : Entry) : Prop where
  occurrence : e.toOccurrence = f.toOccurrence
  type : e.typeCell.outcome = f.typeCell.outcome
  doc : e.docCell.outcome = f.docCell.outcome
  implementation : e.implCell.outcome = f.implCell.outcome

namespace Entry.Agrees

variable {e f g : Entry}

lemma refl (e : Entry) : e.Agrees e := ⟨rfl, rfl, rfl, rfl⟩

lemma symm (h : e.Agrees f) : f.Agrees e :=
  ⟨h.occurrence.symm, h.type.symm, h.doc.symm, h.implementation.symm⟩

lemma trans (h : e.Agrees f) (h' : f.Agrees g) : e.Agrees g :=
  ⟨h.occurrence.trans h'.occurrence, h.type.trans h'.type, h.doc.trans h'.doc,
    h.implementation.trans h'.implementation⟩

end Entry.Agrees

namespace Reading

variable {α β : Type}

/-- What a reading gives on an entry. -/
def outcome : Reading α → Entry → Except Failure α
  | .done a, _              => .ok a
  | .fail f, _              => .error f
  | .occurrence next, e     => (next e.toOccurrence).outcome e
  | .type next, e           => e.typeCell.outcome >>= fun t => (next t).outcome e
  | .doc next, e            => e.docCell.outcome >>= fun d => (next d).outcome e
  | .implementation next, e =>
    if e.isKeyword then (next none).outcome e
    else e.implCell.outcome >>= fun l => (next l).outcome e

/-- Entries that agree cannot be told apart by reading them. -/
lemma outcome_congr (r : Reading α) {e f : Entry} (h : e.Agrees f) : r.outcome e = r.outcome f := by
  induction r with
  | done a => rfl
  | fail g => rfl
  | occurrence next ih =>
    simp only [outcome, h.occurrence]
    exact ih _
  | type next ih => simp only [outcome, h.type, ih]
  | doc next ih => simp only [outcome, h.doc, ih]
  | implementation next ih => simp only [outcome, h.occurrence, h.implementation, ih]

/-- Running a reading gives its outcome and leaves an entry that agrees with the one before. -/
lemma on_outcome (r : Reading α) (e : Entry) :
    (r.on e).1 = r.outcome e ∧ (r.on e).2.Agrees e := by
  induction r generalizing e with
  | done a => exact ⟨rfl, .refl e⟩
  | fail g => exact ⟨rfl, .refl e⟩
  | occurrence next ih => exact ih _ e
  | type next ih =>
    have agrees : { e with typeCell := e.typeCell.force.2 }.Agrees e :=
      ⟨rfl, e.typeCell.outcome_force, rfl, rfl⟩
    simp only [on, outcome, ← e.typeCell.force_fst]
    generalize e.typeCell.force = asked at agrees ⊢
    obtain ⟨_ | t, cell⟩ := asked
    · exact ⟨rfl, agrees⟩
    · obtain ⟨value, left⟩ := ih t { e with typeCell := cell }
      exact ⟨value.trans (outcome_congr _ agrees), left.trans agrees⟩
  | doc next ih =>
    have agrees : { e with docCell := e.docCell.force.2 }.Agrees e :=
      ⟨rfl, rfl, e.docCell.outcome_force, rfl⟩
    simp only [on, outcome, ← e.docCell.force_fst]
    generalize e.docCell.force = asked at agrees ⊢
    obtain ⟨_ | d, cell⟩ := asked
    · exact ⟨rfl, agrees⟩
    · obtain ⟨value, left⟩ := ih d { e with docCell := cell }
      exact ⟨value.trans (outcome_congr _ agrees), left.trans agrees⟩
  | implementation next ih =>
    have agrees : { e with implCell := e.implCell.force.2 }.Agrees e :=
      ⟨rfl, rfl, rfl, e.implCell.outcome_force⟩
    simp only [on, outcome, ← e.implCell.force_fst]
    by_cases keyword : e.isKeyword = true
    · rw [if_pos keyword, if_pos keyword]
      exact ih none e
    · rw [if_neg keyword, if_neg keyword]
      generalize e.implCell.force = asked at agrees ⊢
      obtain ⟨_ | l, cell⟩ := asked
      · exact ⟨rfl, agrees⟩
      · obtain ⟨value, left⟩ := ih l { e with implCell := cell }
        exact ⟨value.trans (outcome_congr _ agrees), left.trans agrees⟩

@[simp] lemma on_fst (r : Reading α) (e : Entry) : (r.on e).1 = r.outcome e := (on_outcome r e).1

lemma agrees_on (r : Reading α) (e : Entry) : (r.on e).2.Agrees e := (on_outcome r e).2

/-! ### Outcomes of the questions -/

@[simp] lemma outcome_bind (r : Reading α) (f : α → Reading β) (e : Entry) :
    (r >>= f).outcome e = r.outcome e >>= fun a => (f a).outcome e := by
  induction r with
  | done a => rfl
  | fail g => rfl
  | occurrence next ih => exact ih _
  | type next ih =>
    change (e.typeCell.outcome >>= fun t => (next t >>= f).outcome e) = _
    simp only [ih, outcome, bind_assoc]
  | doc next ih =>
    change (e.docCell.outcome >>= fun d => (next d >>= f).outcome e) = _
    simp only [ih, outcome, bind_assoc]
  | implementation next ih =>
    change (if e.isKeyword then (next none >>= f).outcome e
      else e.implCell.outcome >>= fun l => (next l >>= f).outcome e) = _
    by_cases keyword : e.isKeyword = true
    · simp only [outcome, if_pos keyword, ih]
    · simp only [outcome, if_neg keyword, ih, bind_assoc]

lemma outcome_bind_of_ok {r : Reading α} {e : Entry} {a : α} (h : r.outcome e = .ok a)
    (f : α → Reading β) : (r >>= f).outcome e = (f a).outcome e := by
  rw [outcome_bind, h]
  rfl

@[simp] lemma map_done (f : α → β) (a : α) : f <$> done a = done (f a) := rfl

@[simp] lemma outcome_done (a : α) (e : Entry) : (done a).outcome e = .ok a := rfl

@[simp] lemma outcome_getOccurrence (e : Entry) :
    getOccurrence.outcome e = .ok e.toOccurrence := rfl

lemma outcome_getType {e : Entry} {t : Text} (h : e.typeCell.outcome = .ok (some t)) :
    getType.outcome e = .ok t := by
  simp only [getType, outcome, h]
  rfl

lemma outcome_getDoc (e : Entry) : getDoc.outcome e = e.docCell.outcome := by
  simp only [getDoc, outcome]
  exact bind_pure e.docCell.outcome

/-! ### Reading every entry of a list -/

lemma onEach_cons (read : Reading α) (e : Entry) (es : List Entry) :
    read.onEach (e :: es) =
      match read.outcome e with
      | .error f => (([], some f), (read.on e).2 :: es)
      | .ok a    =>
        ((a :: (read.onEach es).1.1, (read.onEach es).1.2),
          (read.on e).2 :: (read.onEach es).2) := by
  rw [← on_fst, onEach]
  rcases read.on e with ⟨_ | a, e'⟩ <;> rfl

lemma onEach_eq_map (read : Reading α) (give : Entry → α) (es : List Entry)
    (h : ∀ e ∈ es, read.outcome e = .ok (give e)) :
    read.onEach es = ((es.map give, none), es.map fun e => (read.on e).2) := by
  induction es with
  | nil => rfl
  | cons e es ih =>
    have first := h e List.mem_cons_self
    have rest := ih fun f hf => h f (List.mem_cons_of_mem e hf)
    simp [onEach_cons, first, rest]

lemma onEach_map (f : α → β) (r : Reading α) (es : List Entry) :
    (f <$> r).onEach es = (((r.onEach es).1.1.map f, (r.onEach es).1.2), (r.onEach es).2) := by
  induction es with
  | nil => rfl
  | cons e es ih =>
    have mapped : (f <$> r).on e = ((r.on e).1.map f, (r.on e).2) := by
      rw [← bind_pure_comp, on_bind]
      rcases r.on e with ⟨_ | a, e'⟩ <;> rfl
    rw [onEach, onEach, mapped, ih]
    rcases r.on e with ⟨_ | a, e'⟩ <;> rfl

end Reading

end SymbolIndex
