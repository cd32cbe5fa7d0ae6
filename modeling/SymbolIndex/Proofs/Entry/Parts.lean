import Mathlib.Tactic.Lemma
import Mathlib.Tactic.Tauto
import SymbolIndex.Proofs.Entry.Asked

/-!
# Parts of entries

What an entry computes on demand are its parts. A reading `Asks` for a list of parts when all that
it does to an entry is to ask for them from left to right, up to the first that fails, and when that
is the only way for it to fail. What was asked for before a failure is computed afterwards, and
nothing else is that was not.
-/

namespace SymbolIndex

/-- What an entry computes on demand. -/
inductive Part where
  | type
  | doc
  | implementation
  deriving DecidableEq

namespace Cell

variable {α : Type}

/-- The failure of a cell that fails. -/
def failure? (c : Cell α) : Option Failure :=
  match c.outcome with
  | .ok _    => none
  | .error f => some f

lemma failure?_force (c : Cell α) : c.force.2.failure? = c.failure? := by
  rw [failure?, failure?, outcome_force]

/-- Asking computes a cell exactly if it does not fail. -/
lemma forced_force_iff (c : Cell α) :
    c.force.2.forced = true ↔ c.forced = true ∨ c.failure? = none := by
  rw [forced_force, Bool.or_eq_true, failure?]
  cases c.outcome <;> simp [Except.isOk, Except.toBool]

lemma failure?_eq_some_iff {c : Cell α} {f : Failure} :
    c.failure? = some f ↔ c.outcome = .error f := by
  rw [failure?]
  cases c.outcome <;> simp

/-- A cell that is asked fails, or it gives a value. -/
lemma force_cases (c : Cell α) :
    (∃ f, c.failure? = some f ∧ c.force = (.error f, c.force.2)) ∨
      ∃ a, c.failure? = none ∧ c.outcome = .ok a ∧ c.force = (.ok a, c.force.2) := by
  cases given : c.outcome with
  | error f =>
    left
    exact ⟨f, failure?_eq_some_iff.mpr given, Prod.ext (c.force_fst.trans given) rfl⟩
  | ok a =>
    right
    exact ⟨a, by rw [failure?, given], rfl, Prod.ext (c.force_fst.trans given) rfl⟩

end Cell

namespace Entry

/-- The failure of a part whose cell fails. -/
def failure? (e : Entry) : Part → Option Failure
  | .type           => e.typeCell.failure?
  | .doc            => e.docCell.failure?
  | .implementation => e.implCell.failure?

/-- Whether a part is computed. -/
def isForced (e : Entry) : Part → Bool
  | .type           => e.typeCell.forced
  | .doc            => e.docCell.forced
  | .implementation => e.implCell.forced

/-- The entry after a part was asked for. -/
def ask (e : Entry) : Part → Entry
  | .type           => { e with typeCell := e.typeCell.force.2 }
  | .doc            => { e with docCell := e.docCell.force.2 }
  | .implementation => { e with implCell := e.implCell.force.2 }

@[simp] lemma failure?_ask (e : Entry) (p q : Part) : (e.ask p).failure? q = e.failure? q := by
  cases p <;> cases q <;> simp [ask, failure?, Cell.failure?_force]

lemma isForced_ask (e : Entry) (p q : Part) :
    (e.ask p).isForced q = true ↔ e.isForced q = true ∨ q = p ∧ e.failure? p = none := by
  cases p <;> cases q <;>
    simp [ask, isForced, failure?, Cell.forced_force_iff, -Cell.forced_force]

@[simp] lemma isKeyword_ask (e : Entry) (p : Part) : (e.ask p).isKeyword = e.isKeyword := by
  cases p <;> rfl

@[simp] lemma outcome_typeCell_ask (e : Entry) (p : Part) :
    (e.ask p).typeCell.outcome = e.typeCell.outcome := by
  cases p <;> simp [ask]

/-- Ask for parts from left to right, up to the first that fails: its failure, and the entry
afterwards. -/
def askEach (e : Entry) : List Part → Option Failure × Entry
  | []      => (none, e)
  | p :: ps =>
    match e.failure? p with
    | some f => (some f, e.ask p)
    | none   => (e.ask p).askEach ps

lemma askEach_append (e : Entry) (ps qs : List Part) :
    e.askEach (ps ++ qs) =
      match e.askEach ps with
      | (some f, now) => (some f, now)
      | (none, now)   => now.askEach qs := by
  induction ps generalizing e with
  | nil => rfl
  | cons p ps ih =>
    simp only [List.cons_append, askEach]
    cases e.failure? p with
    | some f => rfl
    | none => exact ih (e.ask p)

/-- Asking changes neither the symbol nor what its type cell gives. -/
lemma askEach_keeps (e : Entry) (ps : List Part) :
    (e.askEach ps).2.isKeyword = e.isKeyword ∧
      (e.askEach ps).2.typeCell.outcome = e.typeCell.outcome := by
  induction ps generalizing e with
  | nil => exact ⟨rfl, rfl⟩
  | cons p ps ih =>
    rw [askEach]
    cases e.failure? p with
    | some f => simp
    | none => simpa using ih (e.ask p)

/-- When nothing fails, the parts that were asked for are sound, and computed afterwards. -/
lemma sound_of_askEach {e : Entry} {ps : List Part} (h : (e.askEach ps).1 = none) :
    (∀ q ∈ ps, e.failure? q = none) ∧
      ∀ q, (e.askEach ps).2.isForced q = true ↔ e.isForced q = true ∨ q ∈ ps := by
  induction ps generalizing e with
  | nil => simp [askEach]
  | cons p ps ih =>
    rw [askEach] at h ⊢
    cases first : e.failure? p with
    | some f =>
      rw [first] at h
      cases h
    | none =>
      rw [first] at h
      obtain ⟨sound, forced⟩ := ih h
      constructor
      · simpa [first] using sound
      · intro q
        simp only [forced, isForced_ask, first, List.mem_cons]
        tauto

/-- A part that is not asked for stays as it is. -/
lemma implCell_askEach {e : Entry} {ps : List Part} (h : .implementation ∉ ps) :
    (e.askEach ps).2.implCell = e.implCell := by
  induction ps generalizing e with
  | nil => rfl
  | cons p ps ih =>
    rw [List.mem_cons, not_or] at h
    obtain ⟨other, others⟩ := h
    have kept : (e.ask p).implCell = e.implCell := by
      cases p with
      | implementation => exact absurd rfl other
      | _ => rfl
    rw [askEach]
    cases e.failure? p with
    | some f => exact kept
    | none => exact (ih others).trans kept

/-- When a part fails, those in front of it are computed. -/
lemma exists_of_askEach {e : Entry} {ps : List Part} {f : Failure}
    (h : (e.askEach ps).1 = some f) :
    ∃ front p back, ps = front ++ p :: back ∧ e.failure? p = some f ∧
      (∀ q ∈ front, e.failure? q = none) ∧
      ∀ q, (e.askEach ps).2.isForced q = true ↔ e.isForced q = true ∨ q ∈ front := by
  induction ps generalizing e with
  | nil => cases h
  | cons p ps ih =>
    rw [askEach] at h ⊢
    cases failing : e.failure? p with
    | some g =>
      rw [failing] at h
      obtain rfl : g = f := Option.some.inj h
      refine ⟨[], p, ps, rfl, failing, by simp, ?_⟩
      intro q
      simp [isForced_ask, failing]
    | none =>
      rw [failing] at h
      obtain ⟨front, r, back, rfl, fails, sound, forced⟩ := ih h
      rw [failure?_ask] at fails
      refine ⟨p :: front, r, back, rfl, fails, ?_, ?_⟩
      · simpa [failing] using sound
      · intro q
        simp only [forced, isForced_ask, failing, List.mem_cons]
        tauto

end Entry

/-! ### Readings that ask for parts -/

namespace Reading

variable {α β : Type} {r : Reading α} {e : Entry} {ps qs : List Part}

/-- The failure that a reading ends with. -/
def failureOf : Except Failure α → Option Failure
  | .ok _    => none
  | .error f => some f

/-- On an entry, a reading asks for some parts from left to right, up to the first that fails, and
fails only with that. -/
def Asks (r : Reading α) (e : Entry) (ps : List Part) : Prop :=
  (failureOf (r.on e).1, (r.on e).2) = e.askEach ps

namespace Asks

lemma failureOf_on (h : r.Asks e ps) : failureOf (r.on e).1 = (e.askEach ps).1 :=
  congrArg Prod.fst h

lemma snd_on (h : r.Asks e ps) : (r.on e).2 = (e.askEach ps).2 := congrArg Prod.snd h

lemma done (a : α) (e : Entry) : (Reading.done a).Asks e [] := rfl

lemma bind {f : α → Reading β} (first : r.Asks e ps)
    (rest : ∀ a, (f a).Asks (e.askEach ps).2 qs) : (r >>= f).Asks e (ps ++ qs) := by
  rw [Asks, on_bind, Entry.askEach_append]
  rw [← first] at rest ⊢
  generalize r.on e = given at rest ⊢
  obtain ⟨g | a, now⟩ := given
  · rfl
  · exact rest a

lemma getOccurrence (e : Entry) : Reading.getOccurrence.Asks e [] := rfl

lemma getDoc (e : Entry) : Reading.getDoc.Asks e [.doc] := by
  simp only [Asks, Reading.getDoc, on, Entry.askEach, Entry.failure?]
  rcases e.docCell.force_cases with ⟨f, failing, forced⟩ | ⟨d, sound, -, forced⟩
  · rw [failing, forced]
    rfl
  · rw [sound, forced]
    rfl

lemma getType (typed : e.typeCell.outcome ≠ .ok none) : Reading.getType.Asks e [.type] := by
  simp only [Asks, Reading.getType, on, Entry.askEach, Entry.failure?]
  rcases e.typeCell.force_cases with ⟨f, failing, forced⟩ | ⟨_ | t, sound, given, forced⟩
  · rw [failing, forced]
    rfl
  · exact absurd given typed
  · rw [sound, forced]
    rfl

/-- Keywords are never asked where they are implemented. -/
lemma getImplementation (e : Entry) :
    (Reading.getLocation .implementation).Asks e
      (if e.isKeyword then [] else [.implementation]) := by
  simp only [Asks, Reading.getLocation, on]
  cases e.isKeyword with
  | true => rfl
  | false =>
    simp only [Bool.false_eq_true, ↓reduceIte, Entry.askEach, Entry.failure?]
    rcases e.implCell.force_cases with ⟨f, failing, forced⟩ | ⟨l, sound, -, forced⟩
    · rw [failing, forced]
      rfl
    · rw [sound, forced]
      rfl

end Asks

end Reading

end SymbolIndex
