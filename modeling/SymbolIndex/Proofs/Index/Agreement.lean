import SymbolIndex.Proofs.Index.Hits
import SymbolIndex.Proofs.Text.Dotted

/-!
# Looking up completions

A completion is shown under its qualified name. Looking that name up leads back to the completion
unless the name cannot be read as it was meant: a segment of the access path is empty or holds a
dot, or a blank stands at an end of the name. Then the name leads to other symbols or to none, and
no other opened module makes up for it.
-/

namespace SymbolIndex.Index

variable {idx : Index} {file : IndexFile} {opened : List Text}

/-- A path that is read back from the text it is shown as. -/
structure Legible (access : List Text) : Prop where
  segments : ∀ s ∈ access, s ≠ [] ∧ '.' ∉ s
  unpadded : (Text.dotted access).Unpadded

/-- A legible name leads back to the completion, through the same scope. -/
lemma mem_found_of_legible (scopes : idx.scopes.Nodup) {query : Text}
    {k : Hit idx.symbols.size} (h : k ∈ idx.completing query)
    (legible : Legible (idx.entry k).access) : k ∈ idx.found (idx.entry k).qualified := by
  obtain ⟨hscope, ne_nil, path⟩ := of_mem_completing scopes h
  have read : (idx.entry k).qualified.trim.splitOn '.' = (idx.entry k).access := by
    rw [Occurrence.qualified, (Text.trim_eq_self_iff _).mpr legible.unpadded]
    exact Text.splitOn_dotted ne_nil fun s hs => (legible.segments s hs).2
  rw [mem_found scopes, read]
  exact ⟨hscope, fun empty => (legible.segments [] empty).1 rfl, path⟩

/-- A name that leads back to the completion, through whatever scope, is read as it was meant. -/
lemma segments_eq_access_of_mem_found (scopes : idx.scopes.Nodup) {query : Text}
    {k h : Hit idx.symbols.size} (hk : k ∈ idx.completing query)
    (hh : h ∈ idx.found (idx.entry k).qualified) (same : h.ordinal = k.ordinal) :
    (idx.entry k).qualified.trim.splitOn '.' = (idx.entry k).access := by
  obtain ⟨-, ne_nil, path⟩ := of_mem_completing scopes hk
  obtain ⟨-, -, path'⟩ := (mem_found scopes).mp hh
  have onePath : (idx.entry h).path = (idx.entry k).path :=
    congrArg (fun i : Fin idx.symbols.size => idx.symbols[i].path) same
  have asked : (idx.entry k).qualified.trim.splitOn '.' <:+ (idx.entry k).path :=
    ⟨h.scope, path'.symm.trans onePath⟩
  have shown : (idx.entry k).access <:+ (idx.entry k).path := ⟨k.scope, path.symm⟩
  apply Text.eq_of_dotted_eq_trim asked shown
  · exact List.splitOn_ne_nil _ _
  · exact ne_nil
  · rw [Text.dotted, Text.joinWith, List.intercalate_splitOn]
    rfl

lemma legible_of_mem_found (scopes : idx.scopes.Nodup) {query : Text}
    {k h : Hit idx.symbols.size} (hk : k ∈ idx.completing query)
    (hh : h ∈ idx.found (idx.entry k).qualified) (same : h.ordinal = k.ordinal) :
    Legible (idx.entry k).access := by
  have read := segments_eq_access_of_mem_found scopes hk hh same
  constructor
  · intro s hs
    rw [← read] at hs
    refine ⟨?_, Text.not_mem_of_mem_splitOn hs⟩
    rintro rfl
    exact ((mem_found scopes).mp hh).2.1 hs
  · rw [← Text.trim_eq_self_iff]
    have shown := congrArg Text.dotted read
    rwa [Text.dotted, Text.joinWith, List.intercalate_splitOn] at shown

/-- The entries of a completion are those of its hits and then keywords, and the entries of a lookup
are those of its hits. A completion is found again under its qualified name, with the same access
path, exactly when that name is legible; under no other access path is it found there. -/
theorem found_qualified_iff (built : build file opened = .ok idx) (query : Text) :
    idx.complete query = (idx.completing query).map idx.entry
        ++ (file.keywordScan query).map Symbol.keywordEntry ∧
      (∀ name, idx.lookup name = (idx.found name).map idx.entry) ∧
      ∀ k ∈ idx.completing query,
        ((∃ h ∈ idx.found (idx.entry k).qualified,
            h.ordinal = k.ordinal ∧ (idx.entry h).access = (idx.entry k).access) ↔
          (∀ s ∈ (idx.entry k).access, s ≠ [] ∧ '.' ∉ s) ∧ (idx.entry k).qualified.Unpadded) ∧
        ∀ h ∈ idx.found (idx.entry k).qualified,
          h.ordinal = k.ordinal → (idx.entry h).access = (idx.entry k).access := by
  have made := ofFile_of_build built
  have scopes := made.nodup_scopes
  refine ⟨made.complete_eq_map_completing query, idx.lookup_eq_map_found, ?_⟩
  intro k hk
  refine ⟨⟨?_, ?_⟩, ?_⟩
  · rintro ⟨h, hh, same, -⟩
    have legible := legible_of_mem_found scopes hk hh same
    exact ⟨legible.segments, legible.unpadded⟩
  · rintro ⟨segments, unpadded⟩
    exact ⟨k, mem_found_of_legible scopes hk ⟨segments, unpadded⟩, rfl, rfl⟩
  · intro h hh same
    rw [access_of_mem_found scopes hh]
    exact segments_eq_access_of_mem_found scopes hk hh same

theorem found_qualified_iff_nestedFile :
    ∃ idx, build nestedFile ["a".toList] = .ok idx ∧
      (idx.completing " x".toList).map (·.ordinal.val) = [0, 3, 5, 1] ∧
      (idx.found "x".toList).map (·.ordinal.val) = [0, 3, 1] ∧
      (idx.found "x.y".toList).map (·.ordinal.val) = [] ∧
      idx.complete " x".toList = (idx.completing " x".toList).map idx.entry
        ++ (nestedFile.keywordScan " x".toList).map Symbol.keywordEntry ∧
      (∀ name, idx.lookup name = (idx.found name).map idx.entry) ∧
      ∀ k ∈ idx.completing " x".toList,
        ((∃ h ∈ idx.found (idx.entry k).qualified,
            h.ordinal = k.ordinal ∧ (idx.entry h).access = (idx.entry k).access) ↔
          (∀ s ∈ (idx.entry k).access, s ≠ [] ∧ '.' ∉ s) ∧ (idx.entry k).qualified.Unpadded) ∧
        ∀ h ∈ idx.found (idx.entry k).qualified,
          h.ordinal = k.ordinal → (idx.entry h).access = (idx.entry k).access := by
  refine ⟨_, rfl, ?_, ?_, ?_, found_qualified_iff rfl " x".toList⟩
  · rw [completing_eq_met (by decide)]
    decide
  · rw [found_eq_met (by decide)]
    decide
  · rw [found_eq_met (by decide)]
    decide

end SymbolIndex.Index
