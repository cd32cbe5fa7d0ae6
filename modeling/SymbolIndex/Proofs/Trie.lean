import Mathlib.Data.List.Nodup
import SymbolIndex.Trie

/-!
# What tries hold

A trie is used through `find`, the value at each list of keys. Changing the value at one list of
keys changes no other, and the trie below a list of keys has the values at its extensions. The
values of a trie are read off its nodes; when no two siblings have one key, every list of keys has
at most one node, and the nodes list each value of `find` once.
-/

namespace SymbolIndex

universe u v

variable {κ : Type u} {ν : Type v}

/-! ### Nodes -/

namespace Branches

/-- The keys of the branches. -/
def keys : Branches κ ν → List κ
  | none              => []
  | branch k _ _ next => k :: next.keys

/-- At no node do two branches hang from one key. -/
def Distinct : Branches κ ν → Prop
  | none                  => True
  | branch k _ below next => k ∉ next.keys ∧ below.Distinct ∧ next.Distinct

/-- The lists of keys at which nodes lie below the branches, each with the value at its node. -/
def items : Branches κ ν → List (List κ × ν)
  | none                  => []
  | branch k v below next => ([k], v) :: (below.items.map (Prod.map (k :: ·) id) ++ next.items)

end Branches

namespace Trie

/-- At no node do two branches hang from one key. -/
def Distinct (t : Trie κ ν) : Prop := t.branches.Distinct

/-- The lists of keys at which nodes lie, each with the value at its node. -/
def items (t : Trie κ ν) : List (List κ × ν) := ([], t.value) :: t.branches.items

end Trie

namespace Branches

lemma items_branch (k : κ) (v : ν) (below next : Branches κ ν) :
    (branch k v below next).items
      = (Trie.mk v below).items.map (Prod.map (k :: ·) id) ++ next.items := rfl

lemma values_eq_map_items (bs : Branches κ ν) : bs.values = bs.items.map Prod.snd := by
  induction bs with
  | none => rfl
  | branch k v below next ihb ihn => simp [values, items, ihb, ihn, Function.comp_def]

lemma head_of_mem_items {bs : Branches κ ν} {ks : List κ} (h : ks ∈ bs.items.map Prod.fst) :
    ∃ k ∈ bs.keys, ∃ ls, ks = k :: ls := by
  induction bs with
  | none => cases h
  | branch k v below next _ ih =>
    rw [items_branch, List.map_append, List.mem_append] at h
    rcases h with h | h
    · simp only [List.map_map, List.mem_map, Function.comp_apply, Prod.map_fst] at h
      obtain ⟨p, -, rfl⟩ := h
      exact ⟨k, List.mem_cons_self, p.1, rfl⟩
    · obtain ⟨j, hj, ls, rfl⟩ := ih h
      exact ⟨j, List.mem_cons_of_mem k hj, ls, rfl⟩

/-- Distinct siblings lie at distinct lists of keys. -/
lemma Distinct.nodup_items {bs : Branches κ ν} (h : bs.Distinct) :
    (bs.items.map Prod.fst).Nodup := by
  induction bs with
  | none => exact List.nodup_nil
  | branch k v below next ihb ihn =>
    obtain ⟨first, inside, rest⟩ := h
    have root : [] ∉ below.items.map Prod.fst := by
      intro mem
      obtain ⟨j, -, ls, hj⟩ := head_of_mem_items mem
      cases hj
    have own : ((Trie.mk v below).items.map Prod.fst).Nodup :=
      List.nodup_cons.mpr ⟨root, ihb inside⟩
    have moved : ((Trie.mk v below).items.map (Prod.map (k :: ·) id)).map Prod.fst
        = ((Trie.mk v below).items.map Prod.fst).map (k :: ·) := by
      simp [Function.comp_def]
    rw [items_branch, List.map_append, moved]
    refine (own.map (List.cons_injective)).append (ihn rest) ?_
    intro ks below_k beside
    obtain ⟨ls, -, rfl⟩ := List.mem_map.mp below_k
    obtain ⟨j, hj, ls', same⟩ := head_of_mem_items beside
    cases same
    exact first hj

end Branches

namespace Trie

lemma values_eq_map_items (t : Trie κ ν) : t.values = t.items.map Prod.snd := by
  rw [values, items, List.map_cons, Branches.values_eq_map_items]

lemma Distinct.nodup_items {t : Trie κ ν} (h : t.Distinct) : (t.items.map Prod.fst).Nodup := by
  refine List.nodup_cons.mpr ⟨?_, Branches.Distinct.nodup_items h⟩
  intro mem
  obtain ⟨j, -, ls, hj⟩ := Branches.head_of_mem_items mem
  cases hj

end Trie

/-! ### Finding and changing values -/

namespace Branches

variable [DecidableEq κ] [EmptyCollection ν]

lemma child?_adjust (j k : κ) (f : Trie κ ν → Trie κ ν) (bs : Branches κ ν) :
    (bs.adjust k f).child? j
      = if k = j then some (f ((bs.child? k).getD ∅)) else bs.child? j := by
  induction bs with
  | none =>
    by_cases h : k = j
    · subst h; simp [adjust, child?, EmptyCollection.emptyCollection]
    · simp [adjust, child?, h]
  | branch key v below next _ ih =>
    by_cases hkey : key = k
    · subst hkey
      by_cases h : key = j
      · subst h; simp [adjust, child?]
      · simp [adjust, child?, h]
    · by_cases h : key = j
      · subst h
        simp [adjust, child?, hkey, Ne.symm hkey]
      · simp [adjust, child?, hkey, h, ih]

lemma mem_keys_adjust (j k : κ) (f : Trie κ ν → Trie κ ν) (bs : Branches κ ν) :
    j ∈ (bs.adjust k f).keys ↔ j = k ∨ j ∈ bs.keys := by
  induction bs with
  | none => simp [adjust, keys]
  | branch key v below next _ ih =>
    by_cases h : key = k
    · subst h; simp [adjust, keys]
    · simp only [adjust, if_neg h, keys, List.mem_cons, ih]
      exact or_left_comm

lemma Distinct.adjust {k : κ} {f : Trie κ ν → Trie κ ν} (keeps : ∀ t, t.Distinct → (f t).Distinct)
    {bs : Branches κ ν} (h : bs.Distinct) : (bs.adjust k f).Distinct := by
  induction bs with
  | none => exact ⟨List.not_mem_nil, keeps _ trivial, trivial⟩
  | branch key v below next _ ih =>
    obtain ⟨first, inside, rest⟩ := h
    by_cases hkey : key = k
    · subst hkey
      simp only [Branches.adjust, if_pos]
      exact ⟨first, keeps ⟨v, below⟩ inside, rest⟩
    · simp only [Branches.adjust, if_neg hkey]
      refine ⟨?_, inside, ih rest⟩
      rw [mem_keys_adjust, not_or]
      exact ⟨hkey, first⟩

omit [EmptyCollection ν] in
lemma Distinct.child? {k : κ} {bs : Branches κ ν} {t : Trie κ ν} (h : bs.Distinct)
    (ht : bs.child? k = some t) : t.Distinct := by
  induction bs with
  | none => cases ht
  | branch key v below next _ ih =>
    obtain ⟨-, inside, rest⟩ := h
    by_cases hkey : key = k
    · rw [Branches.child?, if_pos hkey] at ht
      cases ht
      exact inside
    · rw [Branches.child?, if_neg hkey] at ht
      exact ih rest ht

omit [EmptyCollection ν] in
lemma mem_items_of_child? {k : κ} {ks : List κ} {w : ν} {bs : Branches κ ν} {t : Trie κ ν}
    (ht : bs.child? k = some t) (mem : (ks, w) ∈ t.items) : (k :: ks, w) ∈ bs.items := by
  induction bs with
  | none => cases ht
  | branch key v below next _ ih =>
    rw [items_branch, List.mem_append]
    by_cases hkey : key = k
    · subst hkey
      rw [child?, if_pos rfl] at ht
      cases ht
      exact .inl (List.mem_map.mpr ⟨(ks, w), mem, rfl⟩)
    · rw [child?, if_neg hkey] at ht
      exact .inr (ih ht)

end Branches

namespace Trie

variable [DecidableEq κ]

lemma descend?_append (ks ls : List κ) (t : Trie κ ν) :
    descend? (ks ++ ls) t = (descend? ks t).bind (descend? ls) := by
  induction ks generalizing t with
  | nil => rfl
  | cons k ks ih =>
    simp only [List.cons_append, descend?, Option.bind_assoc]
    exact congrArg _ (funext ih)

variable [EmptyCollection ν]

@[simp] lemma find_nil (t : Trie κ ν) : t.find [] = t.value := rfl

@[simp] lemma find_empty (ks : List κ) : (∅ : Trie κ ν).find ks = ∅ := by
  cases ks <;> rfl

lemma find_cons (k : κ) (ks : List κ) (t : Trie κ ν) :
    t.find (k :: ks) = ((t.branches.child? k).getD ∅).find ks := by
  cases h : t.branches.child? k with
  | none =>
    have nothing : t.find (k :: ks) = ∅ := by simp [find, descend?, h]
    rw [nothing, Option.getD_none, find_empty]
  | some s => simp [find, descend?, h]

/-- Below a list of keys lie the values at its extensions. -/
lemma find_append (ks ls : List κ) (t : Trie κ ν) :
    t.find (ks ++ ls) = ((descend? ks t).getD ∅).find ls := by
  cases h : descend? ks t with
  | none =>
    have nothing : t.find (ks ++ ls) = ∅ := by simp [find, descend?_append, h]
    rw [nothing, Option.getD_none, find_empty]
  | some s => simp [find, descend?_append, h]

/-- Changing the value at one list of keys changes it there and nowhere else. -/
lemma find_modify (f : ν → ν) (ks ls : List κ) (t : Trie κ ν) :
    (t.modify f ks).find ls = if ks = ls then f (t.find ks) else t.find ls := by
  induction ks generalizing ls t with
  | nil =>
    cases ls with
    | nil => simp [modify]
    | cons l ls => simp [modify, find_cons]
  | cons k ks ih =>
    cases ls with
    | nil => simp [modify]
    | cons l ls =>
      by_cases h : k = l
      · subst h
        simp [modify, find_cons, Branches.child?_adjust, ih]
      · simp [modify, find_cons, Branches.child?_adjust, h]

/-- After changes at the keys of several things, each list of keys has seen the changes of the
things whose keys it is, in their order. -/
lemma find_foldl_modify {α : Type u} (key : α → List κ) (f : α → ν → ν) (as : List α)
    (t : Trie κ ν) (ks : List κ) :
    (as.foldl (fun t a => t.modify (f a) (key a)) t).find ks
      = (as.filter fun a => key a = ks).foldl (fun v a => f a v) (t.find ks) := by
  induction as generalizing t with
  | nil => rfl
  | cons a as ih =>
    rw [List.foldl_cons, ih, find_modify]
    by_cases h : key a = ks
    · subst h; simp
    · simp [h]

end Trie

lemma Branches.Distinct.find_of_mem_items [DecidableEq κ] [EmptyCollection ν] {bs : Branches κ ν}
    (h : bs.Distinct) {ks : List κ} {w : ν} (mem : (ks, w) ∈ bs.items) (v : ν) :
    (Trie.mk v bs).find ks = w := by
  induction bs generalizing ks v with
  | none => cases mem
  | branch key v' below next ihb ihn =>
    obtain ⟨first, inside, rest⟩ := h
    rw [items_branch, List.mem_append] at mem
    rcases mem with own | beside
    · obtain ⟨⟨ls, w'⟩, mem, same⟩ := List.mem_map.mp own
      cases same
      have here : (Trie.mk v (branch key v' below next)).find (key :: ls)
          = (Trie.mk v' below).find ls := by
        simp [Trie.find_cons, Branches.child?]
      rw [here]
      rcases List.mem_cons.mp mem with root | deeper
      · cases root
        rfl
      · exact ihb inside deeper v'
    · obtain ⟨j, hj, ls, rfl⟩ := head_of_mem_items (List.mem_map.mpr ⟨(ks, w), beside, rfl⟩)
      have passed : key ≠ j := fun same => first (same ▸ hj)
      have further : (Trie.mk v (branch key v' below next)).find (j :: ls)
          = (Trie.mk v next).find (j :: ls) := by
        simp [Trie.find_cons, Branches.child?, passed]
      rw [further]
      exact ihn rest beside v

namespace Trie

variable [DecidableEq κ] [EmptyCollection ν]

lemma Distinct.modify (f : ν → ν) (ks : List κ) {t : Trie κ ν} (h : t.Distinct) :
    (t.modify f ks).Distinct := by
  induction ks generalizing t with
  | nil => exact h
  | cons k ks ih => exact Branches.Distinct.adjust (fun _ => ih) h

omit [EmptyCollection ν] in
lemma Distinct.descend? {ks : List κ} {t s : Trie κ ν} (h : t.Distinct)
    (hs : Trie.descend? ks t = some s) : s.Distinct := by
  induction ks generalizing t with
  | nil =>
    cases hs
    exact h
  | cons k ks ih =>
    obtain ⟨u, hu, hs⟩ := Option.bind_eq_some_iff.mp hs
    exact ih (Branches.Distinct.child? h hu) hs

omit [EmptyCollection ν] in
/-- Every list of keys that leads to a node has that node among the items. -/
lemma mem_items_of_descend? {ks : List κ} {t s : Trie κ ν} (hs : Trie.descend? ks t = some s) :
    (ks, s.value) ∈ t.items := by
  induction ks generalizing t with
  | nil =>
    cases hs
    exact List.mem_cons_self
  | cons k ks ih =>
    obtain ⟨u, hu, hs⟩ := Option.bind_eq_some_iff.mp hs
    exact List.mem_cons_of_mem _ (Branches.mem_items_of_child? hu (ih hs))

/-- An item is the value that is found at its list of keys. -/
lemma Distinct.find_of_mem_items {t : Trie κ ν} (h : t.Distinct) {ks : List κ} {w : ν}
    (mem : (ks, w) ∈ t.items) : t.find ks = w := by
  rcases List.mem_cons.mp mem with root | below
  · cases root
    rfl
  · exact Branches.Distinct.find_of_mem_items h below t.value

end Trie

end SymbolIndex
