import SymbolIndex.Proofs.Index.Tables
import SymbolIndex.Proofs.Text.Dotted

/-!
# Scanning a file

The declarations of a file can be searched without an index: for each scope, go through all of
them and keep those that fit. A lookup and a completion of the index of a file give what such a
scan gives, in the same order, and the scan meets no declaration twice.
-/

namespace SymbolIndex

/-- A declaration of a file, met from an opened module. -/
structure Sighting where
  /-- The position of the declaration. -/
  ordinal : Nat
  /-- The declaration. -/
  declaration : Declaration
  /-- The opened module. -/
  scope : Scope

/-- The entry that a sighting is shown as, if the declaration makes a symbol. -/
def Sighting.entry (x : Sighting) : Except DeclarationFault Entry :=
  x.declaration.symbol.map (·.entry x.scope)

lemma Sighting.scope_append_access {x : Sighting} {e : Entry} (shown : x.entry = .ok e)
    (within : x.scope <+: x.declaration.path) : x.scope ++ e.access = x.declaration.path := by
  obtain ⟨s, made, rfl⟩ := map_eq_ok_iff.mp shown
  change x.scope ++ s.path.drop x.scope.length = _
  rw [Declaration.path_of_symbol made]
  exact List.prefix_iff_eq_append.mp within

namespace IndexFile

/-- The declarations whose path fits a scope: scope after scope, in the order of the file. -/
def scan (file : IndexFile) (scopes : List Scope) (fits : Scope → List Text → Bool) :
    List Sighting :=
  scopes.flatMap fun scope =>
    (file.entries.zipIdx.filter fun d => fits scope d.1.path).map fun d => ⟨d.2, d.1, scope⟩

lemma fits_of_mem_scan {file : IndexFile} {scopes : List Scope}
    {fits : Scope → List Text → Bool} {x : Sighting} (h : x ∈ file.scan scopes fits) :
    fits x.scope x.declaration.path := by
  obtain ⟨scope, -, hx⟩ := List.mem_flatMap.mp h
  obtain ⟨d, hd, rfl⟩ := List.mem_map.mp hx
  exact (List.mem_filter.mp hd).2

/-- The declarations whose path is a scope followed by the segments of the query. -/
def lookupScan (file : IndexFile) (scopes : List Scope) (query : Text) : List Sighting :=
  let segments := query.trim.splitOn '.'
  if [] ∈ segments then [] else file.scan scopes fun scope path => path = scope ++ segments

/-- The declarations of the module that a scope and the segments before the last name, whose own
name starts with the last segment. -/
def completeScan (file : IndexFile) (scopes : List Scope) (query : Text) : List Sighting :=
  let segments := query.trim.splitOn '.'
  if [] ∈ segments.dropLast then []
  else file.scan scopes fun scope path =>
    path.dropLast = scope ++ segments.dropLast ∧ segments.getLastD [] <+: path.getLastD []

/-- The keywords that start with the query; a dotted query is completed by none. -/
def keywordScan (file : IndexFile) (query : Text) : List Text :=
  let segments := query.trim.splitOn '.'
  if segments.length = 1 then file.keywords.filter (segments.getLastD [] <+: ·) else []

end IndexFile

namespace Index

/-- A path that a query stands for in a scope; a query with an empty segment stands for none. -/
def lookupFits (query : Text) (scope : Scope) (path : List Text) : Bool :=
  [] ∉ query.trim.splitOn '.' ∧ path = scope ++ query.trim.splitOn '.'

/-- A path that completes a query in a scope; only the last segment may be empty. -/
def completeFits (query : Text) (scope : Scope) (path : List Text) : Bool :=
  [] ∉ (query.trim.splitOn '.').dropLast ∧
    path.dropLast = scope ++ (query.trim.splitOn '.').dropLast ∧
      (query.trim.splitOn '.').getLastD [] <+: path.getLastD []

end Index

namespace Index

variable {idx : Index} {file : IndexFile} {opened : List Text}

/-! ### From symbols to declarations -/

lemma map_finRange_eq_zipIdx {α : Type} (as : Array α) :
    (List.finRange as.size).map (fun i => (as[i], i.val)) = as.toList.zipIdx := by
  apply List.ext_getElem <;> simp

lemma map_filter_zipIdx {ds : List Declaration} {ss : List Symbol}
    (h : List.Forall₂ (fun d s => d.symbol = .ok s) ds ss) (k : Nat) (scope : Scope)
    (fits : List Text → Bool) :
    ((ss.zipIdx k).filter fun s => fits s.1.path).map (fun s => (.ok (s.1.entry scope), s.2))
      = (((ds.zipIdx k).filter fun d => fits d.1.path).map fun d =>
          (⟨d.2, d.1, scope⟩ : Sighting)).map fun x => (x.entry, x.ordinal) := by
  induction h generalizing k with
  | nil => rfl
  | @cons d s ds ss made _ ih =>
    have path := Declaration.path_of_symbol made
    rw [List.zipIdx_cons, List.zipIdx_cons, List.filter_cons, List.filter_cons, path]
    split
    · simp only [List.map_cons, ih, Sighting.entry, made]
      rfl
    · exact ih (k + 1)

/-- What is met among the symbols of an index is what is met among the declarations. -/
lemma OfFile.map_metFrom_eq_scan (h : idx.OfFile file opened) (scope : Scope)
    (fits : Scope → List Text → Bool) :
    (idx.metFrom scope (fits scope)).map (fun k => (.ok (idx.entry k), k.ordinal.val))
      = (file.scan [scope] fits).map fun x => (x.entry, x.ordinal) := by
  rw [IndexFile.scan, List.flatMap_singleton, ← map_filter_zipIdx h.symbols 0 scope (fits scope),
    ← map_finRange_eq_zipIdx, List.filter_map, metFrom, List.map_map, List.map_map]
  rfl

lemma OfFile.map_met_eq_scan (h : idx.OfFile file opened) (fits : Scope → List Text → Bool) :
    (idx.met fits).map (fun k => (.ok (idx.entry k), k.ordinal.val))
      = (file.scan idx.scopes fits).map fun x => (x.entry, x.ordinal) := by
  rw [met_eq_flatMap, IndexFile.scan, List.map_flatMap, List.map_flatMap]
  congr 1
  funext scope
  rw [h.map_metFrom_eq_scan, IndexFile.scan, List.flatMap_singleton]

lemma OfFile.entries_met_eq_scan (h : idx.OfFile file opened) (fits : Scope → List Text → Bool) :
    ((idx.met fits).map idx.entry).map .ok = (file.scan idx.scopes fits).map Sighting.entry := by
  have firsts := congrArg (List.map Prod.fst) (h.map_met_eq_scan fits)
  rw [List.map_map, List.map_map] at firsts
  rw [List.map_map]
  exact firsts

lemma OfFile.nodup_scan (h : idx.OfFile file opened) {fits : Scope → List Text → Bool}
    (once : ((idx.met fits).map Hit.ordinal).Nodup) :
    ((file.scan idx.scopes fits).map Sighting.ordinal).Nodup := by
  have seconds := congrArg (List.map Prod.snd) (h.map_met_eq_scan fits)
  rw [List.map_map, List.map_map] at seconds
  have ordinals : (file.scan idx.scopes fits).map Sighting.ordinal
      = ((idx.met fits).map Hit.ordinal).map Fin.val := by
    rw [List.map_map]
    exact seconds.symm
  rw [ordinals]
  exact once.map fun _ _ => Fin.ext

/-! ### Lookups -/

lemma all_not_isEmpty (ts : List Text) : (ts.all (!·.isEmpty)) = decide ([] ∉ ts) := by
  rw [Bool.eq_iff_iff, List.all_eq_true, decide_eq_true_eq]
  constructor
  · intro h empty
    exact absurd (h [] empty) (by decide)
  · intro h t ht
    cases t with
    | nil => exact absurd ht h
    | cons c t => rfl

variable (idx) in
lemma lookup_eq_ite (query : Text) :
    idx.lookup query
      = if [] ∈ (DottedName.ofText query).segments then []
        else (idx.lookupHits (.ofText query)).map idx.entry := by
  by_cases empty : [] ∈ (DottedName.ofText query).segments
  · simp [lookup, lookupName?, all_not_isEmpty, empty]
  · simp [lookup, lookupName?, all_not_isEmpty, empty]

lemma access_entry (k : Hit idx.symbols.size) :
    (idx.entry k).access = (idx.entry k).path.drop k.scope.length := rfl

/-- A lookup gives the entries of the plain scan for the scopes of the index, which meets no
declaration twice. Every entry is reached by the query, and its qualified name is the query. -/
theorem lookup_eq_scan (built : build file opened = .ok idx) (query : Text) :
    (idx.lookup query).map .ok = (file.lookupScan idx.scopes query).map Sighting.entry ∧
      ((file.lookupScan idx.scopes query).map Sighting.ordinal).Nodup ∧
      ∀ e ∈ idx.lookup query,
        e.access = query.trim.splitOn '.' ∧ e.qualified = query.trim := by
  have made := ofFile_of_build built
  have reached := DottedName.dotted_segments_ofText query
  rw [lookup_eq_ite, IndexFile.lookupScan, ← DottedName.segments_ofText]
  by_cases empty : [] ∈ (DottedName.ofText query).segments
  · simp [empty]
  · obtain ⟨hits, once⟩ := idx.lookupHits_eq_met made.nodup_scopes (DottedName.ofText query)
    rw [if_neg empty, if_neg empty, hits]
    refine ⟨made.entries_met_eq_scan _, made.nodup_scan once, ?_⟩
    intro e he
    obtain ⟨k, hk, rfl⟩ := List.mem_map.mp he
    have path := of_decide_eq_true (fits_of_mem_met hk)
    have access : (idx.entry k).access = (DottedName.ofText query).segments := by
      rw [access_entry, path, List.drop_left]
    refine ⟨access, ?_⟩
    rw [Occurrence.qualified, access, reached]

/-- A file that opens a module and a module inside it, declares a path twice and lists a keyword
twice. -/
def nestedFile : IndexFile where
  version  := []
  metadata := []
  opened   := ["a".toList, "a.b".toList]
  keywords := ["x".toList, "b".toList, "x".toList]
  entries  :=
    [["a", "b", "x"], ["x"], ["b", "x"], ["a", "b", "x"], ["a", ""], ["a", "b", "x.y"]].map
      fun path => ⟨path.map String.toList, "val".toList, none, none, none, none, none, []⟩

theorem lookup_eq_scan_nestedFile :
    ∃ idx, build nestedFile ["a".toList] = .ok idx ∧
      (nestedFile.lookupScan idx.scopes "b.x ".toList).map Sighting.ordinal = [0, 3, 2] ∧
      (idx.lookup "b.x ".toList).map .ok
        = (nestedFile.lookupScan idx.scopes "b.x ".toList).map Sighting.entry ∧
      ((nestedFile.lookupScan idx.scopes "b.x ".toList).map Sighting.ordinal).Nodup ∧
      ∀ e ∈ idx.lookup "b.x ".toList,
        e.access = ["b".toList, "x".toList] ∧ e.qualified = "b.x".toList :=
  ⟨_, rfl, by decide, lookup_eq_scan rfl "b.x ".toList⟩

/-! ### Completions -/

variable (idx) in
lemma complete_eq_ite (query : Text) :
    idx.complete query
      = if [] ∈ (DottedName.ofText query).qualifier then []
        else (idx.completeHits (.ofText query)).map idx.entry
          ++ (idx.completeKeywords (.ofText query)).map Symbol.keywordEntry := by
  by_cases empty : [] ∈ (DottedName.ofText query).qualifier
  · simp [complete, completeName?, all_not_isEmpty, empty]
  · simp [complete, completeName?, all_not_isEmpty, empty]

lemma OfFile.completeKeywords_eq_scan (h : idx.OfFile file opened) (query : Text) :
    idx.completeKeywords (DottedName.ofText query) = file.keywordScan query := by
  have pieces : 0 < (query.trim.splitOn '.').length :=
    List.length_pos_of_ne_nil (List.splitOn_ne_nil _ _)
  have single : (DottedName.ofText query).qualifier = [] ↔ (query.trim.splitOn '.').length = 1 := by
    rw [DottedName.ofText, ← List.length_eq_zero_iff, List.length_dropLast]
    omega
  rw [completeKeywords_eq_filter, h.keywords, IndexFile.keywordScan]
  simp only [single]
  rfl

/-- Where a scope and a qualifier stand in front of the last segment of a path, the access path is
the qualifier and that segment. -/
lemma access_of_dropLast {k : Hit idx.symbols.size} {qualifier : List Text}
    (module : (idx.entry k).path.dropLast = k.scope ++ qualifier) :
    (idx.entry k).access = qualifier ++ [(idx.entry k).path.getLastD []] := by
  have path := List.dropLast_concat_getLast (idx.entry k).path_ne_nil
  rw [module, List.append_assoc, ← getLastD_of_ne_nil _ []] at path
  rw [access_entry, congrArg (List.drop k.scope.length) path.symm, List.drop_left]

/-- What stands in front of the last segment is the scope and what the query names, so the access
path differs from the query in its last segment only. -/
lemma access_of_mem_met {n : DottedName} {k : Hit idx.symbols.size}
    (h : k ∈ idx.met fun scope path =>
      path.dropLast = scope ++ n.qualifier ∧ n.last <+: path.getLastD []) :
    ∃ name, (idx.entry k).access = n.qualifier ++ [name] ∧ n.last <+: name := by
  obtain ⟨module, start⟩ := of_decide_eq_true (fits_of_mem_met h)
  exact ⟨_, access_of_dropLast module, start⟩

lemma mem_complete {query : Text} {e : Entry} (h : e ∈ idx.complete query) :
    (∃ k ∈ idx.completeHits (.ofText query), idx.entry k = e) ∨
      ∃ keyword ∈ idx.completeKeywords (.ofText query), Symbol.keywordEntry keyword = e := by
  rw [complete_eq_ite] at h
  split at h
  · cases h
  · exact (List.mem_append.mp h).imp List.mem_map.mp List.mem_map.mp

lemma prefix_qualified_of_mem_complete {query : Text} {e : Entry} (scopes : idx.scopes.Nodup)
    (h : e ∈ idx.complete query) : query.trim <+: e.qualified := by
  have extended : ∃ name, e.access = (DottedName.ofText query).qualifier ++ [name] ∧
      (DottedName.ofText query).last <+: name := by
    rcases mem_complete h with ⟨k, hk, rfl⟩ | ⟨keyword, hkeyword, rfl⟩
    · rw [(idx.completeHits_eq_met scopes _).1] at hk
      exact access_of_mem_met hk
    · rw [completeKeywords_eq_filter] at hkeyword
      split at hkeyword
      · next single =>
        rw [single]
        exact ⟨keyword, rfl, of_decide_eq_true (List.mem_filter.mp hkeyword).2⟩
      · cases hkeyword
  obtain ⟨name, access, start⟩ := extended
  rw [← DottedName.dotted_segments_ofText, Occurrence.qualified, access]
  exact (Text.dotted_concat_prefix_iff _).mpr start

/-- A completion gives the entries of the plain scan for the scopes of the index, which meets no
declaration twice and removes the scope from each path, and then the keywords of the file. Every
qualified name starts with the query. -/
theorem complete_eq_scan (built : build file opened = .ok idx) (query : Text) :
    (idx.complete query).map .ok
        = (file.completeScan idx.scopes query).map Sighting.entry
          ++ (file.keywordScan query).map (fun keyword => .ok (Symbol.keywordEntry keyword)) ∧
      ((file.completeScan idx.scopes query).map Sighting.ordinal).Nodup ∧
      (∀ x ∈ file.completeScan idx.scopes query, ∀ e, x.entry = .ok e →
        x.scope ++ e.access = x.declaration.path) ∧
      ∀ e ∈ idx.complete query, query.trim <+: e.qualified := by
  have made := ofFile_of_build built
  have keywords := made.completeKeywords_eq_scan query
  have qualified : ∀ e ∈ idx.complete query, query.trim <+: e.qualified := fun _ =>
    prefix_qualified_of_mem_complete made.nodup_scopes
  by_cases empty : [] ∈ (DottedName.ofText query).qualifier
  · have unscanned : file.completeScan idx.scopes query = [] := if_pos empty
    have unfit : file.keywordScan query = [] := by
      rw [← keywords, completeKeywords_eq_filter, if_neg (List.ne_nil_of_mem empty)]
    simp [complete_eq_ite, empty, unscanned, unfit]
  · obtain ⟨hits, once⟩ := idx.completeHits_eq_met made.nodup_scopes (.ofText query)
    have scanned : file.completeScan idx.scopes query
        = file.scan idx.scopes fun scope path =>
            path.dropLast = scope ++ (DottedName.ofText query).qualifier ∧
              (DottedName.ofText query).last <+: path.getLastD [] := if_neg empty
    rw [scanned]
    refine ⟨?_, made.nodup_scan once, ?_, qualified⟩
    · rw [complete_eq_ite, if_neg empty, hits, keywords, List.map_append,
        made.entries_met_eq_scan, List.map_map]
      rfl
    · intro x hx e shown
      have fit := of_decide_eq_true (IndexFile.fits_of_mem_scan hx)
      apply Sighting.scope_append_access shown
      calc x.scope <+: x.scope ++ (DottedName.ofText query).qualifier := List.prefix_append _ _
        _ = x.declaration.path.dropLast := fit.1.symm
        _ <+: x.declaration.path := List.dropLast_prefix _

theorem complete_eq_scan_nestedFile :
    ∃ idx, build nestedFile ["a".toList] = .ok idx ∧
      (nestedFile.completeScan idx.scopes " x".toList).map Sighting.ordinal = [0, 3, 5, 1] ∧
      nestedFile.keywordScan " x".toList = ["x".toList, "x".toList] ∧
      (idx.complete " x".toList).map .ok
        = (nestedFile.completeScan idx.scopes " x".toList).map Sighting.entry
          ++ (nestedFile.keywordScan " x".toList).map
            (fun keyword => .ok (Symbol.keywordEntry keyword)) ∧
      ((nestedFile.completeScan idx.scopes " x".toList).map Sighting.ordinal).Nodup ∧
      (∀ x ∈ nestedFile.completeScan idx.scopes " x".toList, ∀ e, x.entry = .ok e →
        x.scope ++ e.access = x.declaration.path) ∧
      ∀ e ∈ idx.complete " x".toList, "x".toList <+: e.qualified :=
  ⟨_, rfl, by decide, by decide, complete_eq_scan rfl " x".toList⟩

end Index

end SymbolIndex
