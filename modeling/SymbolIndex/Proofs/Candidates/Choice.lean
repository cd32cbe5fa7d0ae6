import Mathlib.Data.Prod.Lex
import Mathlib.Tactic.Lemma
import Mathlib.Tactic.SplitIfs
import SymbolIndex.Candidates.Choice

/-!
# What a rule chooses

A rule prefers one candidate to another by their tags and by the places that they stand at. From
candidates in the order of their places it chooses the one that it prefers to all others.
-/

namespace SymbolIndex

variable {α β : Type}

/-! ### The lowest rank -/

lemma lowest?_map (f : α → β) (rank : β → Nat) (as : List α) :
    lowest? rank (as.map f) = (lowest? (fun a => rank (f a)) as).map f := by
  induction as with
  | nil => rfl
  | cons a as ih =>
    simp only [List.map_cons, lowest?, ih]
    cases lowest? (fun a => rank (f a)) as with
    | none => rfl
    | some b =>
      simp only [Option.map_some]
      split_ifs <;> rfl

lemma lowest?_eq_none_iff (rank : α → Nat) (as : List α) : lowest? rank as = none ↔ as = [] := by
  cases as with
  | nil => simp [lowest?]
  | cons a as => cases h : lowest? rank as <;> simp [lowest?, h]

/-- What stands in front of the first element of the lowest rank has a higher one, and what stands
behind it has no lower one. -/
lemma exists_append_of_lowest? {rank : α → Nat} {as : List α} {a : α}
    (h : lowest? rank as = some a) :
    ∃ front back, as = front ++ a :: back ∧ (∀ b ∈ front, rank a < rank b) ∧
      ∀ b ∈ back, rank a ≤ rank b := by
  induction as generalizing a with
  | nil => cases h
  | cons first as ih =>
    cases rest : lowest? rank as with
    | none =>
      obtain rfl := (lowest?_eq_none_iff rank as).mp rest
      obtain rfl : first = a := by simpa [lowest?] using h
      exact ⟨[], [], rfl, by simp, by simp⟩
    | some b =>
      obtain ⟨front, back, rfl, above, notBelow⟩ := ih rest
      simp only [lowest?, rest, Option.some.injEq] at h
      split_ifs at h with lower
      · obtain rfl := h
        refine ⟨first :: front, back, rfl, ?_, notBelow⟩
        rw [List.forall_mem_cons]
        exact ⟨lower, above⟩
      · obtain rfl := h
        have least : rank first ≤ rank b := Nat.le_of_not_lt lower
        refine ⟨[], front ++ b :: back, rfl, by simp, ?_⟩
        intro c hc
        rcases List.mem_append.mp hc with hc | hc
        · exact least.trans (above c hc).le
        · rcases List.mem_cons.mp hc with rfl | hc
          · exact least
          · exact least.trans (notBelow c hc)

namespace ChoiceRule

/-! ### Rules -/

lemma choose?_map (f : α → β) (tag : β → Kind.Tag) (rule : ChoiceRule) (as : List α) :
    rule.choose? tag (as.map f) = (rule.choose? (fun a => tag (f a)) as).map f := by
  cases rule with
  | first => simp [choose?]
  | kind => exact lowest?_map f _ as

lemma choose?_eq_none_iff (tag : α → Kind.Tag) (rule : ChoiceRule) (as : List α) :
    rule.choose? tag as = none ↔ as = [] := by
  cases rule with
  | first => simp [choose?]
  | kind => exact lowest?_eq_none_iff _ as

/-- Whether a rule prefers a candidate to another one, by the tag and the place of each. -/
def Prefers {π : Type} [LT π] (rule : ChoiceRule) (c d : Kind.Tag × π) : Prop :=
  match rule with
  | .first => c.2 < d.2
  | .kind  => toLex (c.1.rank, c.2) < toLex (d.1.rank, d.2)

lemma mem_of_choose? {tag : α → Kind.Tag} {rule : ChoiceRule} {as : List α} {a : α}
    (h : rule.choose? tag as = some a) : a ∈ as := by
  cases rule with
  | first => exact List.mem_of_head? h
  | kind =>
    obtain ⟨front, back, rfl, -, -⟩ := exists_append_of_lowest? h
    exact List.mem_append_right front List.mem_cons_self

/-- The candidate that is chosen is preferred to all others. -/
lemma prefers_of_choose? {π : Type} [LT π] {tag : α → Kind.Tag} {place : α → π}
    {rule : ChoiceRule} {as : List α} (ordered : as.Pairwise fun a b => place a < place b) {a : α}
    (h : rule.choose? tag as = some a) :
    ∀ b ∈ as, b ≠ a → rule.Prefers (tag a, place a) (tag b, place b) := by
  cases rule with
  | first =>
    obtain ⟨back, rfl⟩ := List.head?_eq_some_iff.mp h
    rw [List.pairwise_cons] at ordered
    intro b hb other
    exact ordered.1 b (List.mem_of_ne_of_mem other hb)
  | kind =>
    obtain ⟨front, back, rfl, above, notBelow⟩ := exists_append_of_lowest? h
    rw [List.pairwise_append, List.pairwise_cons] at ordered
    intro b hb other
    rw [Prefers, Prod.Lex.toLex_lt_toLex]
    rcases List.mem_append.mp hb with before | behind
    · exact .inl (above b before)
    · have hb := List.mem_of_ne_of_mem other behind
      exact (notBelow b hb).lt_or_eq.imp id fun same => ⟨same, ordered.2.1.1 b hb⟩

end ChoiceRule

lemma chosen_map (f : α → β) (tag : β → Kind.Tag) (rule : ChoiceRule) (query : Text)
    (as : List α) :
    chosen tag rule query (as.map f) = (chosen (fun a => tag (f a)) rule query as).map f := by
  rw [chosen, chosen, rule.choose?_map]
  cases rule.choose? (fun a => tag (f a)) as <;> rfl

lemma chosen_eq_error_iff {tag : α → Kind.Tag} {rule : ChoiceRule} {query : Text} {as : List α} :
    chosen tag rule query as = .error ⟨query⟩ ↔ as = [] := by
  rw [chosen, ← rule.choose?_eq_none_iff tag]
  cases rule.choose? tag as <;> simp

lemma chosen_eq_ok_iff {tag : α → Kind.Tag} {rule : ChoiceRule} {query : Text} {as : List α}
    {a : α} : chosen tag rule query as = .ok a ↔ rule.choose? tag as = some a := by
  rw [chosen]
  cases rule.choose? tag as <;> simp

lemma exists_chosen {as : List α} (h : as ≠ []) (tag : α → Kind.Tag) (rule : ChoiceRule)
    (query : Text) : ∃ a, chosen tag rule query as = .ok a := by
  simp only [chosen_eq_ok_iff]
  rw [← Option.ne_none_iff_exists', Ne, rule.choose?_eq_none_iff]
  exact h

end SymbolIndex
