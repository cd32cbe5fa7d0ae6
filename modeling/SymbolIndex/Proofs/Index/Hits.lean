import SymbolIndex.Proofs.Index.Scan

/-!
# Hits behind entries

A lookup and a completion show the hits that they find. The hits tell what the entries do not: which
symbol of the index each of them is, and through which scope it was found.
-/

namespace SymbolIndex.Index

variable {idx : Index} {file : IndexFile} {opened : List Text}

/-- The hits that a lookup shows. -/
def found (idx : Index) (query : Text) : List (Hit idx.symbols.size) :=
  match lookupName? query with
  | none   => []
  | some n => idx.lookupHits n

/-- The hits that a completion shows, before the keywords. -/
def completing (idx : Index) (query : Text) : List (Hit idx.symbols.size) :=
  match completeName? query with
  | none   => []
  | some n => idx.completeHits n

lemma lookup_eq_map_found (idx : Index) (query : Text) :
    idx.lookup query = (idx.found query).map idx.entry := by
  unfold lookup found
  cases lookupName? query <;> rfl

lemma OfFile.complete_eq_map_completing (h : idx.OfFile file opened) (query : Text) :
    idx.complete query = (idx.completing query).map idx.entry
      ++ (file.keywordScan query).map Symbol.keywordEntry := by
  rw [← h.completeKeywords_eq_scan, complete_eq_ite]
  unfold completing completeName?
  by_cases empty : [] ∈ (DottedName.ofText query).qualifier
  · have dotted : (DottedName.ofText query).qualifier ≠ [] := List.ne_nil_of_mem empty
    simp [all_not_isEmpty, empty, completeKeywords_eq_filter, dotted]
  · simp [all_not_isEmpty, empty]

/-! ### Which hits there are -/

lemma mem_met {fits : Scope → List Text → Bool} {k : Hit idx.symbols.size} :
    k ∈ idx.met fits ↔ k.scope ∈ idx.scopes ∧ fits k.scope (idx.entry k).path = true := by
  constructor
  · intro h
    refine ⟨?_, fits_of_mem_met h⟩
    obtain ⟨scope, hscope, hk⟩ := List.mem_flatMap.mp h
    obtain ⟨i, -, rfl⟩ := List.mem_map.mp hk
    exact hscope
  · rintro ⟨hscope, fit⟩
    apply List.mem_flatMap.mpr
    refine ⟨k.scope, hscope, List.mem_map.mpr ⟨k.ordinal, ?_, rfl⟩⟩
    exact List.mem_filter.mpr ⟨List.mem_finRange _, fit⟩

lemma found_eq_met (scopes : idx.scopes.Nodup) (query : Text) :
    idx.found query = idx.met (lookupFits query) := by
  have hits := (idx.lookupHits_eq_met scopes (.ofText query)).1
  rw [DottedName.segments_ofText] at hits
  unfold found lookupFits
  by_cases empty : [] ∈ query.trim.splitOn '.'
  · simp [lookupName?, all_not_isEmpty, DottedName.segments_ofText, empty, met]
  · simp [lookupName?, all_not_isEmpty, DottedName.segments_ofText, empty, hits]

lemma completing_eq_met (scopes : idx.scopes.Nodup) (query : Text) :
    idx.completing query = idx.met (completeFits query) := by
  have hits := (idx.completeHits_eq_met scopes (.ofText query)).1
  have qualifier : (DottedName.ofText query).qualifier = (query.trim.splitOn '.').dropLast := rfl
  have last : (DottedName.ofText query).last = (query.trim.splitOn '.').getLastD [] := rfl
  rw [qualifier, last] at hits
  unfold completing completeFits
  by_cases empty : [] ∈ (query.trim.splitOn '.').dropLast
  · simp [completeName?, all_not_isEmpty, qualifier, empty, met]
  · simp [completeName?, all_not_isEmpty, qualifier, empty, hits]

lemma mem_found (scopes : idx.scopes.Nodup) {query : Text} {k : Hit idx.symbols.size} :
    k ∈ idx.found query ↔ k.scope ∈ idx.scopes ∧ [] ∉ query.trim.splitOn '.' ∧
      (idx.entry k).path = k.scope ++ query.trim.splitOn '.' := by
  rw [found_eq_met scopes, mem_met, lookupFits, decide_eq_true_eq]

lemma access_of_mem_found (scopes : idx.scopes.Nodup) {query : Text} {k : Hit idx.symbols.size}
    (h : k ∈ idx.found query) : (idx.entry k).access = query.trim.splitOn '.' := by
  obtain ⟨-, -, path⟩ := (mem_found scopes).mp h
  rw [access_entry, path, List.drop_left]

/-- A completion is found through a scope and shows what its path has behind that scope. -/
lemma of_mem_completing (scopes : idx.scopes.Nodup) {query : Text} {k : Hit idx.symbols.size}
    (h : k ∈ idx.completing query) :
    k.scope ∈ idx.scopes ∧ (idx.entry k).access ≠ [] ∧
      (idx.entry k).path = k.scope ++ (idx.entry k).access := by
  rw [completing_eq_met scopes, mem_met, completeFits, decide_eq_true_eq] at h
  obtain ⟨hscope, -, module, -⟩ := h
  have access := access_of_dropLast module
  refine ⟨hscope, by simp [access], ?_⟩
  rw [access, ← List.append_assoc, ← module, getLastD_of_ne_nil (idx.entry k).path_ne_nil]
  exact (List.dropLast_concat_getLast _).symm

end SymbolIndex.Index

namespace SymbolIndex.IndexFile

variable (file : IndexFile) (scopes : List Scope) (query : Text)

lemma lookupScan_eq_scan :
    file.lookupScan scopes query = file.scan scopes (Index.lookupFits query) := by
  unfold lookupScan Index.lookupFits
  by_cases empty : [] ∈ query.trim.splitOn '.'
  · simp [empty, scan]
  · simp [empty]

lemma completeScan_eq_scan :
    file.completeScan scopes query = file.scan scopes (Index.completeFits query) := by
  unfold completeScan Index.completeFits
  by_cases empty : [] ∈ (query.trim.splitOn '.').dropLast
  · simp [empty, scan]
  · simp [empty]

end SymbolIndex.IndexFile

namespace SymbolIndex.Index

variable {idx : Index} {file : IndexFile} {opened : List Text}

/-! ### The plain scan behind a query -/

lemma OfFile.entries_lookup (h : idx.OfFile file opened) (query : Text) :
    (idx.lookup query).map .ok = (file.lookupScan idx.scopes query).map Sighting.entry := by
  rw [lookup_eq_map_found, found_eq_met h.nodup_scopes, h.entries_met_eq_scan,
    file.lookupScan_eq_scan]

lemma OfFile.entries_completing (h : idx.OfFile file opened) (query : Text) :
    ((idx.completing query).map idx.entry).map .ok
      = (file.completeScan idx.scopes query).map Sighting.entry := by
  rw [completing_eq_met h.nodup_scopes, h.entries_met_eq_scan, file.completeScan_eq_scan]

end SymbolIndex.Index
