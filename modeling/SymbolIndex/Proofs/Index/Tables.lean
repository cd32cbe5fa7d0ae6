import SymbolIndex.Index.Search
import SymbolIndex.Proofs.Index.Build
import SymbolIndex.Proofs.Names

/-!
# Tables of an index

What the tables of an index list for a module is what a filter of its symbols leaves, in the order
of the file. Through distinct scopes no symbol is met twice, so the search through all scopes keeps
everything that it meets.
-/

namespace SymbolIndex

/-! ### Hits -/

lemma Hit.firstSightings_eq_self {n : Nat} {hits : List (Hit n)}
    (h : (hits.map Hit.ordinal).Nodup) : firstSightings hits = hits := by
  induction hits with
  | nil => rfl
  | cons hit hits ih =>
    rw [List.map_cons, List.nodup_cons] at h
    obtain ⟨first, rest⟩ := h
    have kept : hits.filter (fun k => (k.ordinal == hit.ordinal) = false) = hits := by
      apply List.filter_eq_self.mpr
      intro k hk
      have other : k.ordinal ≠ hit.ordinal := fun same =>
        first (same ▸ List.mem_map_of_mem hk)
      simp [other]
    have others := ih rest
    rw [firstSightings] at others ⊢
    rw [List.eraseDupsBy_cons, kept, others]

namespace Index

variable (idx : Index)

/-! ### One module -/

lemma find_modules (modulePath : List Text) :
    idx.modules.find modulePath
      = Names.addAll ∅ (((List.finRange idx.symbols.size).filter fun i =>
          idx.symbols[i].modulePath = modulePath).map fun i => (idx.symbols[i].name, i)) := by
  rw [idx.modules_eq, moduleTable, Trie.find_foldl_modify, Trie.find_empty, Names.addAll,
    List.foldl_map]

lemma declared_eq_filter (modulePath : List Text) (name : Text) :
    idx.declared modulePath name
      = (List.finRange idx.symbols.size).filter fun i =>
          idx.symbols[i].path = modulePath ++ [name] := by
  rw [declared, find_modules, Names.find_addAll_map _ ((List.nodup_finRange _).filter _),
    List.filter_filter]
  apply List.filter_congr
  intro i _
  rw [Bool.eq_iff_iff, ← idx.symbols[i].modulePath_append_name]
  simp [and_comm]

lemma declaredUnder_eq_filter (modulePath : List Text) (start : Text) :
    idx.declaredUnder modulePath start
      = (List.finRange idx.symbols.size).filter fun i =>
          idx.symbols[i].path.dropLast = modulePath ∧
            start <+: idx.symbols[i].path.getLastD [] := by
  have ascending := (List.pairwise_lt_finRange idx.symbols.size).imp fun h => Fin.le_of_lt h
  rw [declaredUnder, find_modules,
    Names.startingWith_addAll_map _ ((List.nodup_finRange _).filter _) (ascending.filter _),
    List.filter_filter]
  apply List.filter_congr
  intro i _
  rw [Bool.eq_iff_iff, ← idx.symbols[i].name_eq_getLastD, Bool.and_eq_true, decide_eq_true_eq,
    decide_eq_true_eq, decide_eq_true_eq, and_comm]
  rfl

/-! ### Keywords -/

lemma completeKeywords_eq_filter (n : DottedName) :
    idx.completeKeywords n
      = if n.qualifier = [] then idx.keywords.toList.filter (n.last <+: ·) else [] := by
  have ascending := (List.pairwise_lt_finRange idx.keywords.size).imp fun h => Fin.le_of_lt h
  have table : idx.keywordNames
      = Names.addAll ∅ ((List.finRange idx.keywords.size).map fun i => (idx.keywords[i], i)) := by
    rw [idx.keywordNames_eq, keywordTable, Names.addAll, List.foldl_map]
  have listed : (List.finRange idx.keywords.size).map (idx.keywords[·]) = idx.keywords.toList := by
    apply List.ext_getElem <;> simp
  rw [completeKeywords, table, Names.startingWith_addAll_map _ (List.nodup_finRange _) ascending,
    ← listed, List.filter_map]
  simp only [List.isEmpty_iff]
  rfl

/-! ### All scopes -/

/-- The symbols whose path fits, in the order of the file, as they are met from one scope. -/
def metFrom (scope : Scope) (fits : List Text → Bool) : List (Hit idx.symbols.size) :=
  ((List.finRange idx.symbols.size).filter fun i => fits idx.symbols[i].path).map (⟨·, scope⟩)

/-- The symbols whose path fits a scope: scope after scope, in the order of the file. -/
def met (fits : Scope → List Text → Bool) : List (Hit idx.symbols.size) :=
  idx.scopes.flatMap fun scope =>
    ((List.finRange idx.symbols.size).filter fun i => fits scope idx.symbols[i].path).map
      (⟨·, scope⟩)

lemma met_eq_flatMap (fits : Scope → List Text → Bool) :
    idx.met fits = idx.scopes.flatMap fun scope => idx.metFrom scope (fits scope) := rfl

variable {idx} in
lemma fits_of_mem_met {fits : Scope → List Text → Bool} {k : Hit idx.symbols.size}
    (h : k ∈ idx.met fits) : fits k.scope (idx.entry k).path := by
  obtain ⟨scope, -, hk⟩ := List.mem_flatMap.mp h
  obtain ⟨i, hi, rfl⟩ := List.mem_map.mp hk
  exact (List.mem_filter.mp hi).2

/-- When the scopes are distinct and no path fits two of them, the search through the scopes
drops nothing of what it meets. -/
lemma throughScopes_eq_met (scopes : idx.scopes.Nodup) (fits : Scope → List Text → Bool)
    (apart : ∀ path scope scope', fits scope path → fits scope' path → scope = scope') :
    (idx.throughScopes fun scope =>
        (List.finRange idx.symbols.size).filter fun i => fits scope idx.symbols[i].path)
      = idx.met fits ∧ ((idx.met fits).map Hit.ordinal).Nodup := by
  have distinct : ((idx.met fits).map Hit.ordinal).Nodup := by
    simp only [met, List.map_flatMap, List.map_map, Function.comp_def, List.map_id']
    rw [List.nodup_flatMap]
    refine ⟨fun _ _ => (List.nodup_finRange _).filter _, scopes.imp ?_⟩
    intro scope scope' different i hi hi'
    rw [List.mem_filter] at hi hi'
    exact different (apart _ scope scope' hi.2 hi'.2)
  exact ⟨Hit.firstSightings_eq_self distinct, distinct⟩

lemma lookupHits_eq_met (scopes : idx.scopes.Nodup) (n : DottedName) :
    let fits := fun scope path => decide (path = scope ++ n.segments)
    idx.lookupHits n = idx.met fits ∧ ((idx.met fits).map Hit.ordinal).Nodup := by
  have found : (fun scope => idx.declared (scope ++ n.qualifier) n.last) = fun scope =>
      (List.finRange idx.symbols.size).filter fun i =>
        idx.symbols[i].path = scope ++ n.segments := by
    funext scope
    rw [declared_eq_filter, List.append_assoc]
    rfl
  rw [lookupHits, found]
  refine throughScopes_eq_met idx scopes (fun scope path => path = scope ++ n.segments) ?_
  intro path scope scope' h h'
  rw [decide_eq_true_eq] at h h'
  exact List.append_cancel_right (h.symm.trans h')

lemma completeHits_eq_met (scopes : idx.scopes.Nodup) (n : DottedName) :
    let fits := fun scope path =>
      decide (path.dropLast = scope ++ n.qualifier ∧ n.last <+: path.getLastD [])
    idx.completeHits n = idx.met fits ∧ ((idx.met fits).map Hit.ordinal).Nodup := by
  simp only [completeHits, declaredUnder_eq_filter]
  refine throughScopes_eq_met idx scopes (fun scope path =>
    path.dropLast = scope ++ n.qualifier ∧ n.last <+: path.getLastD []) ?_
  intro path scope scope' h h'
  rw [decide_eq_true_eq] at h h'
  exact List.append_cancel_right (h.1.symm.trans h'.1)

end Index

end SymbolIndex
