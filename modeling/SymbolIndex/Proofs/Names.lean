import Mathlib.Data.Finset.Card
import SymbolIndex.Proofs.Trie
import SymbolIndex.Text.Basic

/-!
# What was added under names

However additions to the names are ordered and repeated, what is found under the names with a given
start is a sorted list of what was added there, each as often as it was added under different names.
-/

namespace SymbolIndex.Names

open List

universe u

variable {ι : Type u} {t : Names ι}

/-! ### All that is held -/

/-- All that is held, each under its name. -/
def pairs (t : Names ι) : List (Text × ι) := t.items.flatMap fun p => p.2.map (p.1, ·)

/-- What every addition keeps: siblings are distinct, and nothing is listed twice under a name. -/
structure Proper (t : Names ι) : Prop where
  distinct : t.Distinct
  nodup : ∀ name, (t.find name).Nodup

lemma flatten_values (t : Names ι) : t.values.flatten = t.pairs.map Prod.snd := by
  rw [Trie.values_eq_map_items, pairs, map_flatMap, ← flatMap_def]
  simp [Function.comp_def]

lemma pairwise_startingWith [LE ι] [DecidableLE ι] [Std.IsLinearOrder ι] (t : Names ι)
    (start : Text) : (t.startingWith start).Pairwise (· ≤ ·) := by
  rw [startingWith]
  split
  · exact .nil
  · next s hs =>
    have sorted : s.values.flatten.mergeSort.Pairwise fun a b => decide (a ≤ b) = true := by
      apply pairwise_mergeSort
      · intro a b c hab hbc
        rw [decide_eq_true_eq] at hab hbc ⊢
        exact Std.le_trans hab hbc
      · intro a b
        rw [Bool.or_eq_true, decide_eq_true_eq, decide_eq_true_eq]
        exact Std.le_total
    exact sorted.imp decide_eq_true_eq.mp

namespace Proper

lemma empty : Proper (∅ : Names ι) where
  distinct := trivial
  nodup name := by
    rw [Trie.find_empty]
    exact nodup_nil

lemma mem_pairs (h : Proper t) {name : Text} {i : ι} : (name, i) ∈ t.pairs ↔ i ∈ t.find name := by
  simp only [pairs, mem_flatMap, mem_map, Prod.mk.injEq]
  constructor
  · rintro ⟨⟨ks, ids⟩, mem, j, hj, rfl, rfl⟩
    rwa [h.distinct.find_of_mem_items mem]
  · intro hi
    cases hs : Trie.descend? name t with
    | none =>
      rw [Trie.find, hs] at hi
      cases hi
    | some s =>
      rw [Trie.find, hs] at hi
      exact ⟨(name, s.value), Trie.mem_items_of_descend? hs, i, hi, rfl, rfl⟩

lemma nodup_pairs (h : Proper t) : t.pairs.Nodup := by
  rw [pairs, nodup_flatMap]
  constructor
  · rintro ⟨ks, ids⟩ mem
    have listed := h.nodup ks
    rw [h.distinct.find_of_mem_items mem] at listed
    exact listed.map fun i j same => congrArg Prod.snd same
  · have apart : t.items.Pairwise fun p q => p.1 ≠ q.1 := pairwise_map.mp h.distinct.nodup_items
    refine apart.imp ?_
    intro p q different a hp hq
    obtain ⟨i, -, rfl⟩ := mem_map.mp hp
    obtain ⟨j, -, same⟩ := mem_map.mp hq
    exact different (congrArg Prod.fst same).symm

/-! ### What is held under the names with one start -/

lemma descend? (h : Proper t) {start : Text} {s : Names ι}
    (hs : Trie.descend? start t = some s) : Proper s where
  distinct := h.distinct.descend? hs
  nodup name := by
    have below := Trie.find_append start name t
    rw [hs, Option.getD_some] at below
    exact below ▸ h.nodup (start ++ name)

variable [LE ι] [DecidableLE ι]

/-- Any list of the different pairs whose names have the start lists what is found there. -/
lemma startingWith_perm (h : Proper t) (start : Text) {found : List (Text × ι)}
    (nodup : found.Nodup)
    (mem : ∀ name i, (name, i) ∈ found ↔ start <+: name ∧ i ∈ t.find name) :
    t.startingWith start ~ found.map Prod.snd := by
  have below := fun name => Trie.find_append start name t
  cases hs : Trie.descend? start t with
  | none =>
    simp only [hs, Option.getD_none, Trie.find_empty] at below
    have nothing : found = [] := by
      refine eq_nil_iff_forall_not_mem.mpr ?_
      rintro ⟨name, i⟩ hi
      obtain ⟨⟨rest, rfl⟩, hi⟩ := (mem name i).mp hi
      rw [below] at hi
      cases hi
    simp [startingWith, hs, nothing]
  | some s =>
    simp only [hs, Option.getD_some] at below
    have proper := h.descend? hs
    have same : (pairs s).map (Prod.map (start ++ ·) id) ~ found := by
      have apart : ((pairs s).map (Prod.map (start ++ ·) id)).Nodup :=
        proper.nodup_pairs.map ((append_right_injective start).prodMap Function.injective_id)
      refine (perm_ext_iff_of_nodup apart nodup).mpr ?_
      rintro ⟨name, i⟩
      rw [mem, mem_map]
      constructor
      · rintro ⟨⟨rest, j⟩, hj, same⟩
        cases same
        exact ⟨prefix_append start rest, below rest ▸ proper.mem_pairs.mp hj⟩
      · rintro ⟨⟨rest, rfl⟩, hi⟩
        exact ⟨(rest, i), proper.mem_pairs.mpr (below rest ▸ hi), rfl⟩
    have listed := same.map Prod.snd
    simp only [startingWith, hs]
    refine (mergeSort_perm _ _).trans ?_
    rw [flatten_values]
    simpa [Function.comp_def] using listed

/-- When the pairs come in ascending order, they are found in their order. -/
lemma startingWith_eq [Std.IsLinearOrder ι] (h : Proper t) (start : Text)
    {found : List (Text × ι)} (nodup : found.Nodup)
    (mem : ∀ name i, (name, i) ∈ found ↔ start <+: name ∧ i ∈ t.find name)
    (ascending : (found.map Prod.snd).Pairwise (· ≤ ·)) :
    t.startingWith start = found.map Prod.snd := by
  refine Perm.eq_of_pairwise (fun a b _ _ => Std.le_antisymm) ?_ ascending
    (h.startingWith_perm start nodup mem)
  exact pairwise_startingWith t start

end Proper

/-! ### One addition -/

section Adding

variable [DecidableEq ι]

lemma find_add (t : Names ι) (name other : Text) (i : ι) :
    (t.add name i).find other
      = if name = other then (if i ∈ t.find name then t.find name else t.find name ++ [i])
        else t.find other :=
  Trie.find_modify _ name other t

lemma mem_find_add (t : Names ι) (name other : Text) (i j : ι) :
    j ∈ (t.add name i).find other ↔ (other, j) = (name, i) ∨ j ∈ t.find other := by
  rw [find_add]
  by_cases h : name = other
  · subst h
    by_cases mem : i ∈ t.find name
    · simp only [if_pos, if_pos mem, Prod.mk.injEq, true_and]
      exact ⟨.inr, fun h => h.elim (fun same => same ▸ mem) id⟩
    · simp only [if_pos, if_neg mem, mem_append, mem_singleton, Prod.mk.injEq, true_and]
      exact or_comm
  · simp [h, Ne.symm h]

lemma Proper.add (h : Proper t) (name : Text) (i : ι) : Proper (t.add name i) where
  distinct := h.distinct.modify _ name
  nodup other := by
    rw [find_add]
    split
    · split
      · exact h.nodup name
      · next fresh =>
        rw [nodup_append]
        refine ⟨h.nodup name, nodup_singleton i, ?_⟩
        intro a ha b hb same
        rw [mem_singleton] at hb
        exact fresh (hb ▸ same ▸ ha)
    · exact h.nodup other

/-! ### Many additions -/

/-- Make several additions, one after another. -/
def addAll (t : Names ι) (adds : List (Text × ι)) : Names ι :=
  adds.foldl (fun t a => t.add a.1 a.2) t

lemma Proper.addAll (h : Proper t) (adds : List (Text × ι)) : Proper (t.addAll adds) := by
  induction adds generalizing t with
  | nil => exact h
  | cons a adds ih => exact ih (h.add a.1 a.2)

lemma mem_find_addAll (t : Names ι) (adds : List (Text × ι)) (name : Text) (i : ι) :
    i ∈ (t.addAll adds).find name ↔ (name, i) ∈ adds ∨ i ∈ t.find name := by
  induction adds generalizing t with
  | nil => simp [addAll]
  | cons a adds ih =>
    have rest := ih (t.add a.1 a.2)
    rw [mem_find_add] at rest
    simp only [addAll, foldl_cons, mem_cons] at rest ⊢
    rw [rest, or_left_comm, or_assoc]

lemma mem_find_addAll_empty (adds : List (Text × ι)) (name : Text) (i : ι) :
    i ∈ (addAll ∅ adds).find name ↔ (name, i) ∈ adds := by
  rw [mem_find_addAll, Trie.find_empty]
  exact or_iff_left not_mem_nil

/-- Different things that were added are listed under a name in the order of their addition. -/
lemma find_addAll_map (key : ι → Text) {is : List ι} (nodup : is.Nodup) (name : Text) :
    (addAll ∅ (is.map fun i => (key i, i))).find name = is.filter fun i => key i = name := by
  induction is using List.reverseRecOn with
  | nil => exact Trie.find_empty name
  | append_singleton is i ih =>
    have fresh : i ∉ is := fun mem => (nodup_append.mp nodup).2.2 i mem i (mem_singleton_self i) rfl
    have before := ih (nodup_append.mp nodup).1
    have last : addAll ∅ ((is ++ [i]).map fun i => (key i, i))
        = (addAll ∅ (is.map fun i => (key i, i))).add (key i) i := by
      simp [addAll]
    rw [last, find_add, filter_append, filter_singleton]
    by_cases h : key i = name
    · subst h
      have unlisted : i ∉ is.filter fun j => key j = key i := fun mem =>
        fresh (mem_of_mem_filter mem)
      simp [before, unlisted]
    · simp [before, h]

variable [LE ι] [DecidableLE ι]

/-- Different things that were added in ascending order are found in that order. -/
lemma startingWith_addAll_map [Std.IsLinearOrder ι] (key : ι → Text) {is : List ι}
    (nodup : is.Nodup) (ascending : is.Pairwise (· ≤ ·)) (start : Text) :
    (addAll ∅ (is.map fun i => (key i, i))).startingWith start
      = is.filter fun i => start <+: key i := by
  have same : ((is.filter fun i => start <+: key i).map fun i => (key i, i)).map Prod.snd
      = is.filter fun i => start <+: key i := by
    simp [Function.comp_def]
  rw [← same]
  apply (Proper.empty.addAll _).startingWith_eq start
  · exact (nodup.filter _).map fun i j h => congrArg Prod.snd h
  · intro name i
    rw [mem_find_addAll_empty]
    simp only [mem_map, mem_filter, decide_eq_true_eq, Prod.mk.injEq]
    constructor
    · rintro ⟨j, ⟨mem, begins⟩, rfl, rfl⟩
      exact ⟨begins, j, mem, rfl, rfl⟩
    · rintro ⟨begins, j, mem, rfl, rfl⟩
      exact ⟨j, ⟨mem, begins⟩, rfl, rfl⟩
  · rw [same]
    exact ascending.filter _

/-- What was added is found once for each of its different names with the start. -/
lemma count_startingWith_addAll (adds : List (Text × ι)) (start : Text) (i : ι) :
    ((addAll ∅ adds).startingWith start).count i
      = (adds.toFinset.filter fun a => start <+: a.1 ∧ a.2 = i).card := by
  have mem : ∀ name j, (name, j) ∈ adds.dedup.filter (fun a => start <+: a.1) ↔
      start <+: name ∧ j ∈ (addAll ∅ adds).find name := by
    intro name j
    rw [mem_find_addAll_empty, mem_filter, mem_dedup, decide_eq_true_eq]
    exact and_comm
  have found := (Proper.empty.addAll adds).startingWith_perm start
    ((nodup_dedup adds).filter _) mem
  have distinct : adds.toFinset.filter (fun a => start <+: a.1 ∧ a.2 = i)
      = (adds.dedup.filter fun a => start <+: a.1 ∧ a.2 = i).toFinset := by
    ext a
    simp
  rw [found.count_eq, distinct, toFinset_card_of_nodup ((nodup_dedup adds).filter _), count,
    countP_map, countP_eq_length_filter, filter_filter]
  congr 1
  apply filter_congr
  intro a _
  rw [Bool.eq_iff_iff]
  simp [and_comm]

/-- Neither the order nor the repetition of additions matters. -/
lemma startingWith_addAll_congr [Std.IsLinearOrder ι] {adds others : List (Text × ι)}
    (same : ∀ a, a ∈ others ↔ a ∈ adds) (start : Text) :
    (addAll ∅ others).startingWith start = (addAll ∅ adds).startingWith start := by
  have equal : others.toFinset = adds.toFinset := by
    ext a
    rw [mem_toFinset, mem_toFinset, same]
  have counts : (addAll ∅ others).startingWith start ~ (addAll ∅ adds).startingWith start := by
    rw [perm_iff_count]
    intro i
    rw [count_startingWith_addAll, count_startingWith_addAll, equal]
  exact counts.eq_of_pairwise (fun a b _ _ => Std.le_antisymm) (pairwise_startingWith _ start)
    (pairwise_startingWith _ start)

/-- What was added under exactly two names with the start is found twice. -/
lemma count_startingWith_addAll_eq_two {adds : List (Text × ι)} {start name name' : Text} {i : ι}
    (different : name ≠ name')
    (names : ∀ n, (n, i) ∈ adds ∧ start <+: n ↔ n = name ∨ n = name') :
    ((addAll ∅ adds).startingWith start).count i = 2 := by
  have two : adds.toFinset.filter (fun a => start <+: a.1 ∧ a.2 = i)
      = {(name, i), (name', i)} := by
    ext ⟨n, j⟩
    have here := names n
    simp only [Finset.mem_filter, mem_toFinset, Finset.mem_insert, Finset.mem_singleton,
      Prod.mk.injEq]
    constructor
    · rintro ⟨mem, begins, rfl⟩
      exact (here.mp ⟨mem, begins⟩).imp (⟨·, rfl⟩) (⟨·, rfl⟩)
    · rintro (⟨named, rfl⟩ | ⟨named, rfl⟩)
      · exact ⟨(here.mpr (.inl named)).1, (here.mpr (.inl named)).2, rfl⟩
      · exact ⟨(here.mpr (.inr named)).1, (here.mpr (.inr named)).2, rfl⟩
  have apart : (name, i) ≠ (name', i) := fun same => different (congrArg Prod.fst same)
  rw [count_startingWith_addAll, two, Finset.card_pair apart]

end Adding

/-- What is found under the names with a start after any additions is in ascending order, and
each thing is there once for each different name with the start under which it was added. So
neither the order nor the repetition of additions matters, and what was added under two such names
is found twice. -/
theorem startingWith_addAll (adds : List (Text × Int)) (start : Text) :
    ((addAll ∅ adds).startingWith start).Pairwise (· ≤ ·) ∧
    (∀ i, ((addAll ∅ adds).startingWith start).count i
      = (adds.toFinset.filter fun a => start <+: a.1 ∧ a.2 = i).card) ∧
    (∀ others : List (Text × Int), (∀ a, a ∈ others ↔ a ∈ adds) →
      (addAll ∅ others).startingWith start = (addAll ∅ adds).startingWith start) ∧
    ∀ i name name', name ≠ name' →
      (∀ n, (n, i) ∈ adds ∧ start <+: n ↔ n = name ∨ n = name') →
      ((addAll ∅ adds).startingWith start).count i = 2 := by
  refine ⟨pairwise_startingWith _ start, count_startingWith_addAll adds start, ?_, ?_⟩
  · intro others same
    exact startingWith_addAll_congr same start
  · intro i name name' different names
    exact count_startingWith_addAll_eq_two different names

end SymbolIndex.Names
