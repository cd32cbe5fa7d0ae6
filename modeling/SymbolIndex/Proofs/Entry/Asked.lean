import Mathlib.Data.List.Forall2
import SymbolIndex.Proofs.Entry.Outcome

/-!
# Asking cells again and again

Whatever is done with an entry, its cells are asked some number of times and nothing else changes:
`Later` relates a cell, and an entry, to what is left of it then. A cell `Remembers` its value from
the first question on, and meets its failure anew with each question.
-/

namespace SymbolIndex

/-! ### Cells -/

namespace Cell

variable {α : Type}

/-- The cell after it was asked `n` times. -/
def asked : Nat → Cell α → Cell α
  | 0, c     => c
  | n + 1, c => c.force.2.asked n

@[simp] lemma asked_zero (c : Cell α) : c.asked 0 = c := rfl

@[simp] lemma asked_succ (n : Nat) (c : Cell α) : c.asked (n + 1) = c.force.2.asked n := rfl

lemma asked_asked (m n : Nat) (c : Cell α) : (c.asked m).asked n = c.asked (m + n) := by
  induction m generalizing c with
  | zero => simp
  | succ m ih =>
    rw [Nat.succ_add]
    exact ih c.force.2

@[simp] lemma outcome_asked (n : Nat) (c : Cell α) : (c.asked n).outcome = c.outcome := by
  induction n generalizing c with
  | zero => rfl
  | succ n ih => simp [ih]

lemma asked_computed (n : Nat) (a : α) (runs : Nat) :
    (computed a runs).asked n = computed a runs := by
  induction n with
  | zero => rfl
  | succ n ih => exact ih

lemma asked_pending_of_ok {f : Unit → Except Failure α} {a : α} (h : f () = .ok a)
    (n runs : Nat) : (pending f runs).asked (n + 1) = computed a (runs + 1) := by
  simp [force, h, asked_computed]

lemma asked_pending_of_error {f : Unit → Except Failure α} {g : Failure} (h : f () = .error g)
    (n runs : Nat) : (pending f runs).asked n = pending f (runs + n) := by
  induction n generalizing runs with
  | zero => rfl
  | succ n ih =>
    simp only [asked_succ, force, h]
    rw [ih, Nat.add_assoc, Nat.add_comm 1 n]

lemma forced_asked (n : Nat) (c : Cell α) :
    (c.asked n).forced = (c.forced || (n != 0 && c.outcome.isOk)) := by
  induction n generalizing c with
  | zero => simp
  | succ n ih => cases hc : c.forced <;> simp [ih, hc]

/-- The cell `d` is what some number of questions leaves of `c`. -/
def Later (c d : Cell α) : Prop := ∃ n, d = c.asked n

namespace Later

variable {c d b : Cell α}

lemma refl (c : Cell α) : c.Later c := ⟨0, rfl⟩

lemma force (c : Cell α) : c.Later c.force.2 := ⟨1, rfl⟩

lemma trans (h : c.Later d) (h' : d.Later b) : c.Later b := by
  obtain ⟨m, rfl⟩ := h
  obtain ⟨n, rfl⟩ := h'
  exact ⟨m + n, asked_asked m n c⟩

lemma outcome (h : c.Later d) : c.outcome = d.outcome := by
  obtain ⟨n, rfl⟩ := h
  simp

lemma forced (h : c.Later d) (computed : c.forced = true) : d.forced = true := by
  obtain ⟨n, rfl⟩ := h
  simp [forced_asked, computed]

end Later

/-- How a cell may stand after some use of it. -/
structure Remembers (c now : Cell α) : Prop where
  forced : c.forced = true → now.forced = true
  runs : ∀ a, c.outcome = .ok a →
    now.runs = c.runs + if c.forced = false ∧ now.forced = true then 1 else 0
  failing : ∀ f, c.outcome = .error f →
    now.forced = false ∧ now.force.1 = .error f ∧ now.force.2.forced = false ∧
      now.force.2.runs = now.runs + 1

namespace Remembers

lemma computed (a : α) (runs : Nat) : (computed a runs).Remembers (.computed a runs) := by
  refine ⟨id, ?_, ?_⟩
  · intro b _
    rfl
  · intro f hf
    cases hf

lemma pending_of_ok {f : Unit → Except Failure α} {a : α} (h : f () = .ok a) (n runs : Nat) :
    (pending f runs).Remembers ((pending f runs).asked n) := by
  refine ⟨?_, ?_, ?_⟩
  · intro forced
    cases forced
  · intro b _
    cases n with
    | zero => rfl
    | succ n =>
      rw [asked_pending_of_ok h]
      rfl
  · intro g hg
    cases h.symm.trans hg

lemma pending_of_error {f : Unit → Except Failure α} {g : Failure} (h : f () = .error g)
    (n runs : Nat) : (pending f runs).Remembers ((pending f runs).asked n) := by
  rw [asked_pending_of_error h]
  refine ⟨?_, ?_, ?_⟩
  · intro forced
    cases forced
  · intro b hb
    cases h.symm.trans hb
  · intro g' hg'
    obtain rfl : g = g' := Except.error.inj (h.symm.trans hg')
    simp [force, h, Cell.forced, Cell.runs]

end Remembers

lemma Later.remembers {c d : Cell α} (h : c.Later d) : c.Remembers d := by
  obtain ⟨n, rfl⟩ := h
  cases c with
  | computed a runs =>
    rw [asked_computed]
    exact .computed a runs
  | pending f runs =>
    cases given : f () with
    | ok a => exact .pending_of_ok given n runs
    | error g => exact .pending_of_error given n runs

end Cell

/-! ### Entries -/

namespace Entry

/-- The entry `f` is what some questions leave of `e`. -/
structure Later (e f : Entry) : Prop where
  occurrence : e.toOccurrence = f.toOccurrence
  type : e.typeCell.Later f.typeCell
  doc : e.docCell.Later f.docCell
  implementation : e.implCell.Later f.implCell

namespace Later

variable {e f g : Entry}

lemma refl (e : Entry) : e.Later e := ⟨rfl, .refl _, .refl _, .refl _⟩

lemma trans (h : e.Later f) (h' : f.Later g) : e.Later g :=
  ⟨h.occurrence.trans h'.occurrence, h.type.trans h'.type, h.doc.trans h'.doc,
    h.implementation.trans h'.implementation⟩

lemma agrees (h : e.Later f) : e.Agrees f :=
  ⟨h.occurrence, h.type.outcome, h.doc.outcome, h.implementation.outcome⟩

end Later

/-- How an entry may stand after some use of it. -/
structure Remembers (e now : Entry) : Prop where
  occurrence : e.toOccurrence = now.toOccurrence
  type : e.typeCell.Remembers now.typeCell
  doc : e.docCell.Remembers now.docCell
  implementation : e.implCell.Remembers now.implCell

lemma Later.remembers {e f : Entry} (h : e.Later f) : e.Remembers f :=
  ⟨h.occurrence, h.type.remembers, h.doc.remembers, h.implementation.remembers⟩

/-- What is computed in `e` is computed in `f`. -/
structure StaysForced (e f : Entry) : Prop where
  type : e.typeCell.forced = true → f.typeCell.forced = true
  doc : e.docCell.forced = true → f.docCell.forced = true
  implementation : e.implCell.forced = true → f.implCell.forced = true

lemma Later.staysForced {e f : Entry} (h : e.Later f) : e.StaysForced f :=
  ⟨h.type.forced, h.doc.forced, h.implementation.forced⟩

end Entry

namespace Reading

variable {α : Type}

/-- A reading leaves of an entry what is left when some of its cells are asked. -/
lemma later_on (r : Reading α) (e : Entry) : e.Later (r.on e).2 := by
  induction r generalizing e with
  | done a => exact .refl e
  | fail g => exact .refl e
  | occurrence next ih => exact ih _ e
  | type next ih =>
    have once : e.Later { e with typeCell := e.typeCell.force.2 } :=
      ⟨rfl, .force _, .refl _, .refl _⟩
    simp only [on]
    generalize e.typeCell.force = asked at once ⊢
    obtain ⟨_ | t, cell⟩ := asked
    · exact once
    · exact once.trans (ih t _)
  | doc next ih =>
    have once : e.Later { e with docCell := e.docCell.force.2 } :=
      ⟨rfl, .refl _, .force _, .refl _⟩
    simp only [on]
    generalize e.docCell.force = asked at once ⊢
    obtain ⟨_ | d, cell⟩ := asked
    · exact once
    · exact once.trans (ih d _)
  | implementation next ih =>
    have once : e.Later { e with implCell := e.implCell.force.2 } :=
      ⟨rfl, .refl _, .refl _, .force _⟩
    simp only [on]
    split
    · exact ih none e
    · generalize e.implCell.force = asked at once ⊢
      obtain ⟨_ | l, cell⟩ := asked
      · exact once
      · exact once.trans (ih l _)

end Reading

end SymbolIndex
