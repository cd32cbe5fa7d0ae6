import Mathlib.Data.List.Forall2
import Mathlib.Tactic.Lemma

/-!
# Computations that may fail

A computation made of two gives what the second one gives, or the first failure of the two. A
traversal of a list gives the results of all members, or fails with the first member that fails.
-/

namespace SymbolIndex

variable {ε α β : Type}

lemma map_eq_ok_iff {x : Except ε α} {f : α → β} {b : β} :
    x.map f = .ok b ↔ ∃ a, x = .ok a ∧ f a = b := by
  cases x <;> simp [Except.map]

lemma map_eq_error_iff {x : Except ε α} {f : α → β} {e : ε} :
    x.map f = .error e ↔ x = .error e := by
  cases x <;> simp [Except.map]

lemma bind_eq_ok_iff {x : Except ε α} {f : α → Except ε β} {b : β} :
    (x >>= f) = .ok b ↔ ∃ a, x = .ok a ∧ f a = .ok b := by
  cases x <;> simp [bind, Except.bind]

lemma mapM_eq_ok_iff {f : α → Except ε β} {as : List α} {bs : List β} :
    as.mapM f = .ok bs ↔ List.Forall₂ (fun a b => f a = .ok b) as bs := by
  induction as generalizing bs with
  | nil => cases bs <;> simp [pure, Except.pure]
  | cons a as ih =>
    rw [List.mapM_cons, bind_eq_ok_iff, List.forall₂_cons_left_iff]
    constructor
    · rintro ⟨b, first, others⟩
      obtain ⟨bs', rest, made⟩ := bind_eq_ok_iff.mp others
      cases made
      exact ⟨b, bs', first, ih.mp rest, rfl⟩
    · rintro ⟨b, bs', first, rest, rfl⟩
      exact ⟨b, first, bind_eq_ok_iff.mpr ⟨bs', ih.mpr rest, rfl⟩⟩

lemma bind_eq_error_iff {x : Except ε α} {f : α → Except ε β} {e : ε} :
    (x >>= f) = .error e ↔ x = .error e ∨ ∃ a, x = .ok a ∧ f a = .error e := by
  cases x <;> simp [bind, Except.bind]

/-- A traversal fails with the first member that fails. -/
lemma mapM_eq_error_iff {f : α → Except ε β} {as : List α} {e : ε} :
    as.mapM f = .error e ↔ ∃ front a back, as = front ++ a :: back ∧
      (∀ a' ∈ front, ∃ b, f a' = .ok b) ∧ f a = .error e := by
  induction as with
  | nil => simp [pure, Except.pure]
  | cons a as ih =>
    rw [List.mapM_cons, bind_eq_error_iff]
    constructor
    · rintro (first | ⟨b, first, others⟩)
      · exact ⟨[], a, as, rfl, by simp, first⟩
      · obtain rest | ⟨bs, -, made⟩ := bind_eq_error_iff.mp others
        · obtain ⟨front, a', back, rfl, sound, failing⟩ := ih.mp rest
          refine ⟨a :: front, a', back, rfl, ?_, failing⟩
          rw [List.forall_mem_cons]
          exact ⟨⟨b, first⟩, sound⟩
        · cases made
    · rintro ⟨front, a', back, parts, sound, failing⟩
      cases front with
      | nil =>
        cases parts
        exact .inl failing
      | cons c front =>
        cases parts
        obtain ⟨⟨b, first⟩, sound⟩ := List.forall_mem_cons.mp sound
        exact .inr ⟨b, first, bind_eq_error_iff.mpr (.inl (ih.mpr ⟨_, _, _, rfl, sound, failing⟩))⟩

end SymbolIndex
