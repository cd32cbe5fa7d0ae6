import Mathlib.Data.List.Perm.Subperm
import SymbolIndex.Proofs.Index.Hits

/-!
# Opening one more module

An index whose file is read with one more module opened answers every query with the members of
that module first, then with what it found before through the other scopes. Nothing is lost, and
opening a module again moves what is found through it to the front.
-/

namespace SymbolIndex.Index

/-! ### Indexes with one more module -/

/-- The index with a module opened in front of all others. -/
def opening (idx : Index) (s : Scope) : Index :=
  { idx with scopes := s :: idx.scopes.filter (· ≠ s) }

variable {idx : Index} {file : IndexFile} {opened : List Text}

lemma build_concat_blank {m : Text} (blank : m.allBlank = true) :
    build file (opened ++ [m]) = build file opened := by
  rw [build, build, ← List.append_assoc, scopesOf_concat_blank _ blank]

lemma build_concat (built : build file opened = .ok idx) {m : Text} (named : m.allBlank = false) :
    build file (opened ++ [m]) = .ok (idx.opening (m.trim.splitOn '.')) := by
  obtain ⟨ss, symbols, rfl⟩ := map_eq_ok_iff.mp built
  rw [build, ← List.append_assoc, scopesOf_concat _ named, symbols]
  rfl

/-! ### What is met -/

lemma scope_of_mem_metFrom {scope : Scope} {fits : List Text → Bool} {k : Hit idx.symbols.size}
    (h : k ∈ idx.metFrom scope fits) : k.scope = scope := by
  obtain ⟨i, -, rfl⟩ := List.mem_map.mp h
  rfl

variable (idx) in
/-- What is met from some of the scopes is what is met from all and lies in them. -/
lemma flatMap_metFrom_filter (scopes : List Scope) (p : Scope → Bool)
    (fits : Scope → List Text → Bool) :
    ((scopes.filter p).flatMap fun scope => idx.metFrom scope (fits scope))
      = (scopes.flatMap fun scope => idx.metFrom scope (fits scope)).filter fun k => p k.scope := by
  induction scopes with
  | nil => rfl
  | cons scope scopes ih =>
    have here : ∀ k ∈ idx.metFrom scope (fits scope), p k.scope = p scope := by
      intro k hk
      rw [scope_of_mem_metFrom hk]
    rw [List.filter_cons, List.flatMap_cons, List.filter_append, ← ih, List.filter_congr here]
    cases p scope <;> simp

/-- A new innermost scope is met first, and nothing else changes its place. -/
lemma met_opening (s : Scope) (fits : Scope → List Text → Bool) :
    (idx.opening s).met fits
      = idx.metFrom s (fits s) ++ (idx.met fits).filter (·.scope ≠ s) := by
  rw [met_eq_flatMap idx, ← flatMap_metFrom_filter idx idx.scopes (· ≠ s)]
  rfl

/-- What is met from a scope that is open already. -/
lemma filter_met_eq_metFrom (scopes : idx.scopes.Nodup) {s : Scope} (hs : s ∈ idx.scopes)
    (fits : Scope → List Text → Bool) :
    (idx.met fits).filter (·.scope = s) = idx.metFrom s (fits s) := by
  have single : idx.scopes.filter (· = s) = [s] := by
    rw [List.filter_eq, List.count_eq_one_of_mem scopes hs]
    rfl
  rw [met_eq_flatMap, ← flatMap_metFrom_filter idx idx.scopes (· = s), single,
    List.flatMap_singleton]

lemma filter_met_sublist_metFrom (scopes : idx.scopes.Nodup) (s : Scope)
    (fits : Scope → List Text → Bool) :
    ((idx.met fits).filter (·.scope = s)).Sublist (idx.metFrom s (fits s)) := by
  by_cases hs : s ∈ idx.scopes
  · rw [filter_met_eq_metFrom scopes hs]
  · have none : (idx.met fits).filter (·.scope = s) = [] := by
      apply List.filter_eq_nil_iff.mpr
      intro k hk same
      exact hs (of_decide_eq_true same ▸ (mem_met.mp hk).1)
    rw [none]
    exact List.nil_sublist _

/-- Results that come in groups stay results when the first group grows. -/
lemma subperm_map_append_filter {α β : Type} (f : α → β) (p : α → Prop) [DecidablePred p]
    {as front : List α} (h : (as.filter (p ·)).Sublist front) :
    (as.map f).Subperm ((front ++ as.filter (¬ p ·)).map f) := by
  have parted : (as.filter (p ·) ++ as.filter (¬ p ·)).Perm as := by
    simpa using List.filter_append_perm (p ·) as
  have grown := (h.append_right (as.filter (¬ p ·))).map f
  exact (parted.map f).symm.subperm.trans grown.subperm

lemma OfFile.entries_metFrom_eq_scan (h : idx.OfFile file opened) (s : Scope)
    (fits : Scope → List Text → Bool) :
    (idx.metFrom s (fits s)).map (fun k => .ok (idx.entry k))
      = (file.scan [s] fits).map Sighting.entry := by
  have firsts := congrArg (List.map Prod.fst) (h.map_metFrom_eq_scan s fits)
  rw [List.map_map, List.map_map] at firsts
  exact firsts

/-! ### Answers -/

/-- The answers to a query before and after the module `s` is opened last: `idx'` shows the members
of the module as a scan through that one scope meets them, then what `idx` shows through the other
scopes, and then the same keywords. -/
structure OpensInFront (file : IndexFile) (idx idx' : Index) (s : Scope) (query : Text) :
    Prop where
  lookup_before : idx.lookup query = (idx.found query).map idx.entry
  lookup : (idx'.lookup query).map .ok
    = (file.lookupScan [s] query).map Sighting.entry
      ++ ((idx.found query).filter (·.scope ≠ s)).map fun k => .ok (idx.entry k)
  lookup_access : ∀ e ∈ idx'.lookup query, e.access = query.trim.splitOn '.'
  lookup_kept : (idx.lookup query).Subperm (idx'.lookup query)
  lookup_again : s ∈ idx.scopes → idx'.lookup query
    = ((idx.found query).filter (·.scope = s) ++ (idx.found query).filter (·.scope ≠ s)).map
      idx.entry
  complete_before : idx.complete query = (idx.completing query).map idx.entry
    ++ (file.keywordScan query).map Symbol.keywordEntry
  complete : (idx'.complete query).map .ok
    = (file.completeScan [s] query).map Sighting.entry
      ++ ((idx.completing query).filter (·.scope ≠ s)).map (fun k => .ok (idx.entry k))
      ++ (file.keywordScan query).map fun keyword => .ok (Symbol.keywordEntry keyword)
  complete_kept : (idx.complete query).Subperm (idx'.complete query)
  complete_again : s ∈ idx.scopes → idx'.complete query
    = ((idx.completing query).filter (·.scope = s)
        ++ (idx.completing query).filter (·.scope ≠ s)).map idx.entry
      ++ (file.keywordScan query).map Symbol.keywordEntry

section

variable {opened' : List Text} {s : Scope} (h : idx.OfFile file opened)
  (h' : (idx.opening s).OfFile file opened') (query : Text)

include h h'

lemma OfFile.lookup_opening :
    (idx.opening s).lookup query
      = (idx.metFrom s (lookupFits query s) ++ (idx.found query).filter (·.scope ≠ s)).map
          idx.entry := by
  rw [lookup_eq_map_found, found_eq_met h'.nodup_scopes, found_eq_met h.nodup_scopes, met_opening]
  rfl

lemma OfFile.complete_opening :
    (idx.opening s).complete query
      = (idx.metFrom s (completeFits query s)
            ++ (idx.completing query).filter (·.scope ≠ s)).map idx.entry
          ++ (file.keywordScan query).map Symbol.keywordEntry := by
  rw [h'.complete_eq_map_completing, completing_eq_met h'.nodup_scopes,
    completing_eq_met h.nodup_scopes, met_opening]
  rfl

/-- The index of a file answers so when a module is opened in front. -/
lemma OfFile.opensInFront : OpensInFront file idx (idx.opening s) s query := by
  have lookup := h.lookup_opening h' query
  have complete := h.complete_opening h' query
  have scopes := h.nodup_scopes
  constructor
  case lookup_before => exact lookup_eq_map_found idx query
  case lookup =>
    rw [lookup, List.map_map, List.map_append, file.lookupScan_eq_scan,
      ← h.entries_metFrom_eq_scan]
    rfl
  case lookup_access =>
    intro e he
    rw [lookup_eq_map_found] at he
    obtain ⟨k, hk, rfl⟩ := List.mem_map.mp he
    exact access_of_mem_found h'.nodup_scopes hk
  case lookup_kept =>
    rw [lookup, lookup_eq_map_found]
    apply subperm_map_append_filter
    rw [found_eq_met scopes]
    exact filter_met_sublist_metFrom scopes s _
  case lookup_again =>
    intro hs
    rw [lookup, found_eq_met scopes, filter_met_eq_metFrom scopes hs]
  case complete_before => exact h.complete_eq_map_completing query
  case complete =>
    rw [complete, List.map_append, List.map_map, List.map_map, List.map_append,
      file.completeScan_eq_scan, ← h.entries_metFrom_eq_scan]
    rfl
  case complete_kept =>
    rw [complete, h.complete_eq_map_completing, List.subperm_append_right]
    apply subperm_map_append_filter
    rw [completing_eq_met scopes]
    exact filter_met_sublist_metFrom scopes s _
  case complete_again =>
    intro hs
    rw [complete, completing_eq_met scopes, filter_met_eq_metFrom scopes hs]

end

/-- A text that names a module opens it in front of all others, whatever is asked; a blank text
opens nothing. -/
theorem build_concat_opened (built : build file opened = .ok idx) (m : Text) :
    (m.allBlank = true → build file (opened ++ [m]) = .ok idx) ∧
      (m.allBlank = false →
        ∃ idx', build file (opened ++ [m]) = .ok idx' ∧
          idx'.scopes = m.trim.splitOn '.' :: idx.scopes.filter (· ≠ m.trim.splitOn '.') ∧
          ∀ query, OpensInFront file idx idx' (m.trim.splitOn '.') query) := by
  constructor
  · intro blank
    rw [build_concat_blank blank, built]
  · intro named
    have reopened := build_concat built named
    exact ⟨_, reopened, rfl, (ofFile_of_build built).opensInFront (ofFile_of_build reopened)⟩

theorem build_concat_opened_nestedFile :
    ∃ idx idx', build nestedFile ["a".toList] = .ok idx ∧
      idx.scopes = [["a".toList], ["a".toList, "b".toList], []] ∧
      Text.allBlank "a.b ".toList = false ∧
      build nestedFile ["a".toList, "a.b ".toList] = .ok idx' ∧
      idx'.scopes = [["a".toList, "b".toList], ["a".toList], []] ∧
      (∀ query, OpensInFront nestedFile idx idx' ["a".toList, "b".toList] query) ∧
      Text.allBlank " ".toList = true ∧ build nestedFile ["a".toList, " ".toList] = .ok idx := by
  obtain ⟨idx, built⟩ : ∃ idx, build nestedFile ["a".toList] = .ok idx := ⟨_, rfl⟩
  have blank := (build_concat_opened built " ".toList).1 (by decide)
  obtain ⟨idx', reopened, scopes, answers⟩ :=
    (build_concat_opened built "a.b ".toList).2 (by decide)
  have before : idx.scopes = [["a".toList], ["a".toList, "b".toList], []] := by
    cases built
    decide
  refine ⟨idx, idx', built, before, by decide, reopened, ?_, answers, by decide, blank⟩
  rw [scopes, before]
  decide

end SymbolIndex.Index
