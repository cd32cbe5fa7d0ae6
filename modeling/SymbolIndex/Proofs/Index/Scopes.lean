import SymbolIndex.Proofs.Index.Scan

/-!
# Scopes in order

The scopes of an index are the modules that are opened, each of them once, and then the root.
Opening a module moves it to the front and leaves the order of the others, so of two modules the
one whose last opening comes later is the inner one. The modules that a file opens and those that
are opened besides count as one list.
-/

namespace SymbolIndex

/-! ### Last occurrences -/

section LastOccurrence

variable {α : Type} {as : List α} {a b c : α} {i : Nat}

/-- The last place in a list where `a` stands is `i`. -/
def LastAt (as : List α) (a : α) (i : Nat) : Prop :=
  as[i]? = some a ∧ a ∉ as.drop (i + 1)

/-- The last place where `a` stands is behind the last place where `b` stands. -/
def LastAfter (as : List α) (a b : α) : Prop :=
  ∃ i j, LastAt as a i ∧ LastAt as b j ∧ j < i

lemma LastAt.lt_length (h : LastAt as a i) : i < as.length :=
  (List.getElem?_eq_some_iff.mp h.1).1

lemma LastAt.mem (h : LastAt as a i) : a ∈ as := List.mem_of_getElem? h.1

lemma LastAt.le_length (h : LastAt (as ++ [b]) a i) : i ≤ as.length := by
  have place := h.lt_length
  rw [List.length_append, List.length_singleton] at place
  exact Nat.le_of_lt_succ place

lemma lastAt_concat_self : LastAt (as ++ [a]) a i ↔ i = as.length := by
  constructor
  · intro h
    apply h.le_length.eq_of_not_lt
    intro earlier
    apply h.2
    rw [List.drop_append_of_le_length earlier]
    exact List.mem_append_right _ List.mem_cons_self
  · rintro rfl
    simp [LastAt]

lemma lastAt_concat_of_ne (other : a ≠ b) : LastAt (as ++ [b]) a i ↔ LastAt as a i := by
  by_cases inside : i < as.length
  · simp [LastAt, List.getElem?_append_left inside, List.drop_append_of_le_length inside, other]
  · constructor
    · intro h
      have found := h.1
      rw [h.le_length.eq_of_not_lt inside, List.getElem?_concat_length] at found
      exact absurd (Option.some.inj found).symm other
    · intro h
      exact absurd h.lt_length inside

lemma exists_lastAt (h : a ∈ as) : ∃ i, LastAt as a i := by
  induction as using List.reverseRecOn with
  | nil => exact absurd h List.not_mem_nil
  | append_singleton as b ih =>
    by_cases same : a = b
    · exact ⟨as.length, same ▸ lastAt_concat_self.mpr rfl⟩
    · have earlier : a ∈ as := by simpa [same] using h
      obtain ⟨i, last⟩ := ih earlier
      exact ⟨i, (lastAt_concat_of_ne same).mpr last⟩

/-- What stands at the end is behind everything else. -/
lemma lastAfter_concat_self (other : b ≠ c) : LastAfter (as ++ [c]) c b ↔ b ∈ as := by
  constructor
  · rintro ⟨i, j, -, hj, -⟩
    exact ((lastAt_concat_of_ne other).mp hj).mem
  · intro h
    obtain ⟨j, hj⟩ := exists_lastAt h
    exact ⟨as.length, j, lastAt_concat_self.mpr rfl, (lastAt_concat_of_ne other).mpr hj,
      hj.lt_length⟩

lemma lastAfter_concat_of_ne (ha : a ≠ c) (hb : b ≠ c) :
    LastAfter (as ++ [c]) a b ↔ LastAfter as a b := by
  simp only [LastAfter, lastAt_concat_of_ne ha, lastAt_concat_of_ne hb]

lemma not_lastAfter_concat : ¬ LastAfter (as ++ [b]) a b := by
  rintro ⟨i, j, hi, hj, behind⟩
  rw [lastAt_concat_self.mp hj] at behind
  exact absurd behind hi.le_length.not_gt

end LastOccurrence

/-! ### The order of scopes -/

namespace Index

/-- The paths of the modules that a list of texts opens, in the order of the list. -/
def openedPaths (opened : List Text) : List Scope :=
  (opened.filter (!Text.allBlank ·)).map fun m => m.trim.splitOn '.'

/-- The order in which modules that are opened one after another shadow each other: each of them
has one place, and a module stands in front of another when its last opening comes later. -/
structure InnermostFirst (paths scopes : List Scope) : Prop where
  nodup : scopes.Nodup
  mem_iff (s : Scope) : s ∈ scopes ↔ s ∈ paths
  before_iff (s t : Scope) : [s, t].Sublist scopes ↔ LastAfter paths s t

lemma InnermostFirst.nil : InnermostFirst [] [] where
  nodup := List.nodup_nil
  mem_iff _ := Iff.rfl
  before_iff s t := by simp [LastAfter, LastAt]

/-- Two scopes keep their order when another is moved to the front. -/
lemma pair_sublist_moved_iff {scopes : List Scope} {s t u : Scope} (ht : t ≠ s) (hu : u ≠ s) :
    [t, u].Sublist (s :: scopes.filter (· ≠ s)) ↔ [t, u].Sublist scopes := by
  constructor
  · intro h
    exact (h.of_cons_of_ne ht).trans List.filter_sublist
  · intro h
    have kept : [t, u].Sublist (scopes.filter (· ≠ s)) := by
      simpa [ht, hu] using h.filter (· ≠ s)
    exact kept.cons s

/-- Opening a module moves it to the front. -/
lemma InnermostFirst.concat {paths scopes : List Scope} (h : InnermostFirst paths scopes)
    (s : Scope) : InnermostFirst (paths ++ [s]) (s :: scopes.filter (· ≠ s)) where
  nodup := by
    rw [List.nodup_cons]
    exact ⟨by simp, h.nodup.filter _⟩
  mem_iff t := by
    by_cases same : t = s <;> simp [same, h.mem_iff]
  before_iff t u := by
    have moved : s ∉ scopes.filter (· ≠ s) := by simp
    by_cases hu : u = s
    · subst hu
      apply iff_of_false _ not_lastAfter_concat
      intro behind
      exact moved (List.singleton_sublist.mp behind.tail)
    by_cases ht : t = s
    · subst ht
      rw [List.cons_sublist_cons, List.singleton_sublist, lastAfter_concat_self hu, ← h.mem_iff]
      simp [hu]
    · rw [pair_sublist_moved_iff ht hu, h.before_iff, lastAfter_concat_of_ne ht hu]

/-! ### The scopes of a list of modules -/

lemma openedPaths_concat_blank (opened : List Text) {m : Text} (blank : m.allBlank = true) :
    openedPaths (opened ++ [m]) = openedPaths opened := by
  simp [openedPaths, blank]

lemma openedPaths_concat (opened : List Text) {m : Text} (named : m.allBlank = false) :
    openedPaths (opened ++ [m]) = openedPaths opened ++ [m.trim.splitOn '.'] := by
  simp [openedPaths, named]

lemma root_not_mem_openedPaths (opened : List Text) : [] ∉ openedPaths opened := by
  intro root
  obtain ⟨m, -, split⟩ := List.mem_map.mp root
  exact List.splitOn_ne_nil _ _ split

/-- The modules that are opened come first, and then the root. -/
lemma exists_scopesOf_eq_concat (opened : List Text) :
    ∃ inner, scopesOf opened = inner ++ [[]] ∧ InnermostFirst (openedPaths opened) inner := by
  induction opened using List.reverseRecOn with
  | nil => exact ⟨[], rfl, .nil⟩
  | append_singleton opened m ih =>
    obtain ⟨inner, scopes, order⟩ := ih
    cases named : m.allBlank with
    | true =>
      rw [scopesOf_concat_blank opened named, openedPaths_concat_blank opened named]
      exact ⟨inner, scopes, order⟩
    | false =>
      have root : m.trim.splitOn '.' ≠ [] := List.splitOn_ne_nil _ _
      rw [scopesOf_concat opened named, openedPaths_concat opened named, scopes]
      refine ⟨_, ?_, order.concat (m.trim.splitOn '.')⟩
      simp [root.symm]

variable {idx : Index} {file : IndexFile} {opened : List Text}

/-- The scopes of an index are the modules that are opened, the one whose last opening is the last
of all in front, and at the end, and nowhere else, the root. It plays no part where the list of the
file ends and that of the caller begins: a module that is moved from the one to the other leaves
the index as it is. -/
theorem scopes_innermostFirst (built : build file opened = .ok idx) :
    (∃ inner, idx.scopes = inner ++ [[]] ∧ [] ∉ inner ∧
      InnermostFirst (openedPaths (file.opened ++ opened)) inner) ∧
    ∀ front back, front ++ back = file.opened ++ opened →
      build { file with opened := front } back = .ok idx := by
  constructor
  · obtain ⟨inner, scopes, order⟩ := exists_scopesOf_eq_concat (file.opened ++ opened)
    refine ⟨inner, (ofFile_of_build built).scopes.trans scopes, ?_, order⟩
    rw [order.mem_iff]
    exact root_not_mem_openedPaths _
  · intro front back same
    rw [← built]
    simp only [build, same]

theorem scopes_innermostFirst_nestedFile :
    ∃ idx, build nestedFile ["c".toList, " ".toList, " a ".toList] = .ok idx ∧
      idx.scopes = [["a".toList], ["c".toList], ["a".toList, "b".toList]] ++ [[]] ∧
      [] ∉ [["a".toList], ["c".toList], ["a".toList, "b".toList]] ∧
      InnermostFirst [["a".toList], ["a".toList, "b".toList], ["c".toList], ["a".toList]]
        [["a".toList], ["c".toList], ["a".toList, "b".toList]] ∧
      ["a".toList] ++ ["a.b".toList, "c".toList, " ".toList, " a ".toList]
        = nestedFile.opened ++ ["c".toList, " ".toList, " a ".toList] ∧
      build { nestedFile with opened := ["a".toList] }
        ["a.b".toList, "c".toList, " ".toList, " a ".toList] = .ok idx := by
  obtain ⟨idx, built⟩ :
      ∃ idx, build nestedFile ["c".toList, " ".toList, " a ".toList] = .ok idx := ⟨_, rfl⟩
  obtain ⟨⟨inner, scopes, root, order⟩, moved⟩ := scopes_innermostFirst built
  have shown : idx.scopes = [["a".toList], ["c".toList], ["a".toList, "b".toList]] ++ [[]] := by
    cases built
    decide
  obtain rfl := List.append_cancel_right (shown.symm.trans scopes)
  exact ⟨idx, built, shown, root, order, rfl, moved _ _ rfl⟩

end Index

end SymbolIndex
