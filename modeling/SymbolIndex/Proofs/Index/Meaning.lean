import SymbolIndex.Catalogue
import SymbolIndex.Proofs.Candidates.Choice
import SymbolIndex.Proofs.Index.Hits

/-!
# What a query means

A query matches the declarations whose path is a scope followed by its segments. The entries that a
lookup gives are those of the matches, in the order of their places: by scope, and then by the
order of the file. The one entry that is meant is that of the match which the rule of choice prefers
to all others, and a query without matches means nothing.
-/

namespace SymbolIndex

/-- Where a sighting comes in a search: by the position of its scope, then by that of the
declaration. -/
def Sighting.place (scopes : List Scope) (x : Sighting) : ℕ ×ₗ ℕ :=
  toLex (scopes.idxOf x.scope, x.ordinal)

namespace IndexFile

variable {file : IndexFile} {scopes : List Scope} {query : Text}

/-- A declaration of a file whose path is a scope followed by the segments of the query, none of
which is empty. -/
structure Matches (file : IndexFile) (scopes : List Scope) (query : Text) (x : Sighting) :
    Prop where
  scope : x.scope ∈ scopes
  declared : file.entries[x.ordinal]? = some x.declaration
  named : [] ∉ query.trim.splitOn '.'
  path : x.declaration.path = x.scope ++ query.trim.splitOn '.'

/-! ### Order of a scan -/

lemma mem_scan {fits : Scope → List Text → Bool} {x : Sighting} :
    x ∈ file.scan scopes fits ↔ x.scope ∈ scopes ∧
      file.entries[x.ordinal]? = some x.declaration ∧ fits x.scope x.declaration.path := by
  simp only [scan, List.mem_flatMap, List.mem_map, List.mem_filter, List.mem_zipIdx_iff_getElem?]
  constructor
  · rintro ⟨scope, hscope, d, ⟨declared, fit⟩, rfl⟩
    exact ⟨hscope, declared, fit⟩
  · rintro ⟨hscope, declared, fit⟩
    exact ⟨x.scope, hscope, (x.declaration, x.ordinal), ⟨declared, fit⟩, rfl⟩

lemma mem_lookupScan {x : Sighting} :
    x ∈ file.lookupScan scopes query ↔ file.Matches scopes query x := by
  rw [lookupScan_eq_scan, mem_scan, Index.lookupFits, decide_eq_true_eq]
  constructor
  · rintro ⟨scope, declared, named, path⟩
    exact ⟨scope, declared, named, path⟩
  · rintro ⟨scope, declared, named, path⟩
    exact ⟨scope, declared, named, path⟩

lemma not_exists_matches_iff :
    (¬ ∃ x, file.Matches scopes query x) ↔ [] ∈ query.trim.splitOn '.' ∨
      ∀ d ∈ file.entries, ∀ scope ∈ scopes, d.path ≠ scope ++ query.trim.splitOn '.' := by
  constructor
  · intro unmatched
    rw [or_iff_not_imp_left]
    intro named d hd scope hscope path
    obtain ⟨i, declared⟩ := List.mem_iff_getElem?.mp hd
    exact unmatched ⟨⟨i, d, scope⟩, hscope, declared, named, path⟩
  · rintro (empty | unmatched) ⟨x, matched⟩
    · exact matched.named empty
    · exact unmatched _ (List.mem_of_getElem? matched.declared) _ matched.scope matched.path

lemma pairwise_snd_zipIdx {α : Type} (as : List α) (k : Nat) :
    (as.zipIdx k).Pairwise fun a b => a.2 < b.2 := by
  have positions : ((as.zipIdx k).map Prod.snd).Pairwise (· < ·) := by
    rw [List.zipIdx_map_snd]
    exact List.pairwise_lt_range'
  exact List.pairwise_map.mp positions

lemma pairwise_idxOf {α : Type} [BEq α] [LawfulBEq α] {as : List α} (h : as.Nodup) :
    as.Pairwise fun a b => as.idxOf a < as.idxOf b := by
  rw [List.pairwise_iff_getElem]
  intro i j hi hj earlier
  rwa [h.idxOf_getElem, h.idxOf_getElem]

/-- A scan goes through the places in order. -/
lemma pairwise_place_scan (distinct : scopes.Nodup) (fits : Scope → List Text → Bool) :
    (file.scan scopes fits).Pairwise fun x y => x.place scopes < y.place scopes := by
  simp only [Sighting.place, Prod.Lex.toLex_lt_toLex]
  rw [scan, List.pairwise_flatMap]
  constructor
  · intro scope _
    rw [List.pairwise_map]
    exact ((pairwise_snd_zipIdx file.entries 0).filter _).imp fun earlier => .inr ⟨rfl, earlier⟩
  · apply (pairwise_idxOf distinct).imp
    intro scope scope' earlier x hx y hy
    obtain ⟨d, -, rfl⟩ := List.mem_map.mp hx
    obtain ⟨d', -, rfl⟩ := List.mem_map.mp hy
    exact .inl earlier

end IndexFile

namespace Index

variable {idx : Index} {file : IndexFile} {opened : List Text}

/-! ### Entries of the matches -/

/-- A lookup shows its matches in order. -/
lemma OfFile.exists_shown (h : idx.OfFile file opened) (query : Text) :
    ∃ shown : Sighting → Entry,
      (∀ x ∈ file.lookupScan idx.scopes query, x.entry = .ok (shown x)) ∧
      idx.lookup query = (file.lookupScan idx.scopes query).map shown := by
  have entries := h.entries_lookup query
  have made : ∀ x ∈ file.lookupScan idx.scopes query, ∃ e, x.entry = .ok e := by
    intro x hx
    have given := List.mem_map_of_mem (f := Sighting.entry) hx
    rw [← entries] at given
    obtain ⟨e, -, shown⟩ := List.mem_map.mp given
    exact ⟨e, shown.symm⟩
  have : Nonempty Entry := ⟨Symbol.keywordEntry []⟩
  choose! shown hshown using made
  refine ⟨shown, hshown, ?_⟩
  rw [List.map_congr_left hshown, ← Function.comp_def, ← List.map_map] at entries
  exact List.map_injective_iff.mpr (fun _ _ => Except.ok.inj) entries

lemma OfFile.mem_lookup (h : idx.OfFile file opened) {query : Text} {e : Entry} :
    e ∈ idx.lookup query ↔ ∃ x, file.Matches idx.scopes query x ∧ x.entry = .ok e := by
  obtain ⟨shown, hshown, lookup⟩ := h.exists_shown query
  rw [lookup, List.mem_map]
  constructor
  · rintro ⟨x, hx, rfl⟩
    exact ⟨x, IndexFile.mem_lookupScan.mp hx, hshown x hx⟩
  · rintro ⟨x, matched, made⟩
    have hx := IndexFile.mem_lookupScan.mpr matched
    exact ⟨x, hx, Except.ok.inj ((hshown x hx).symm.trans made)⟩

lemma OfFile.exists_mem_lookup_iff (h : idx.OfFile file opened) {query : Text} {P : Entry → Prop} :
    (∃ e ∈ idx.lookup query, P e) ↔
      ∃ x e, file.Matches idx.scopes query x ∧ x.entry = .ok e ∧ P e := by
  simp only [h.mem_lookup]
  constructor
  · rintro ⟨e, ⟨x, matched, made⟩, holds⟩
    exact ⟨x, e, matched, made, holds⟩
  · rintro ⟨x, e, matched, made, holds⟩
    exact ⟨e, ⟨x, matched, made⟩, holds⟩

lemma OfFile.lookup_eq_nil_iff (h : idx.OfFile file opened) (query : Text) :
    idx.lookup query = [] ↔ ¬ ∃ x, file.Matches idx.scopes query x := by
  obtain ⟨shown, -, lookup⟩ := h.exists_shown query
  rw [lookup, List.map_eq_nil_iff, List.eq_nil_iff_forall_not_mem, not_exists]
  simp only [IndexFile.mem_lookupScan]

/-! ### The entry that is meant -/

lemma meant_fst (c : Catalogue) (rule : ChoiceRule) (query : Text) :
    (c.meant rule query).1
      = chosen (fun e : Entry => e.kind.tag) rule query (c.candidates query).1 := by
  simp only [Catalogue.meant]
  cases chosen (fun e : Entry => e.kind.tag) rule query (c.candidates query).1 <;> rfl

/-- A query means nothing exactly when no declaration matches it. Else it means one of its
candidates, the entry of that match which the rule prefers to all others. -/
theorem meant_eq_preferred (built : build file opened = .ok idx) (rule : ChoiceRule)
    (query : Text) :
    ((idx.catalogue.meant rule query).1 = .error ⟨query⟩ ↔
      [] ∈ query.trim.splitOn '.' ∨
        ∀ d ∈ file.entries, ∀ scope ∈ idx.scopes, d.path ≠ scope ++ query.trim.splitOn '.') ∧
    ((idx.catalogue.meant rule query).1 ≠ .error ⟨query⟩ →
      ∃ e x, (idx.catalogue.meant rule query).1 = .ok e ∧
        e ∈ (idx.catalogue.candidates query).1 ∧
        file.Matches idx.scopes query x ∧ x.entry = .ok e ∧
        ∀ y f, file.Matches idx.scopes query y → y.entry = .ok f → y ≠ x →
          rule.Prefers (e.kind.tag, x.place idx.scopes) (f.kind.tag, y.place idx.scopes)) := by
  have made := ofFile_of_build built
  obtain ⟨shown, hshown, lookup⟩ := made.exists_shown query
  have unmeant : chosen (fun e : Entry => e.kind.tag) rule query (idx.lookup query)
      = .error ⟨query⟩ ↔ ¬ ∃ x, file.Matches idx.scopes query x :=
    chosen_eq_error_iff.trans (made.lookup_eq_nil_iff query)
  have answer : (idx.catalogue.candidates query).1 = idx.lookup query := rfl
  rw [meant_fst, answer]
  refine ⟨unmeant.trans IndexFile.not_exists_matches_iff, ?_⟩
  intro meant
  obtain ⟨e, he⟩ := exists_chosen (mt chosen_eq_error_iff.mpr meant)
    (fun e : Entry => e.kind.tag) rule query
  have choice := chosen_eq_ok_iff.mp he
  rw [lookup, rule.choose?_map] at choice
  obtain ⟨x, hx, rfl⟩ := Option.map_eq_some_iff.mp choice
  have ordered := file.pairwise_place_scan made.nodup_scopes (lookupFits query)
  rw [← IndexFile.lookupScan_eq_scan] at ordered
  have mem := ChoiceRule.mem_of_choose? hx
  refine ⟨shown x, x, he, ?_, IndexFile.mem_lookupScan.mp mem, hshown x mem, ?_⟩
  · rw [lookup]
    exact List.mem_map_of_mem mem
  · intro y f matched shownAs other
    have hy := IndexFile.mem_lookupScan.mpr matched
    obtain rfl : shown y = f := Except.ok.inj ((hshown y hy).symm.trans shownAs)
    exact ChoiceRule.prefers_of_choose? ordered hx y hy other

/-- A file in which what is nearest has the highest rank, and the lowest rank occurs twice. -/
def rankedFile : IndexFile where
  version  := []
  metadata := []
  opened   := ["a".toList]
  keywords := ["x".toList]
  entries  :=
    [(["a", "x"], "module"), (["x"], "val"), (["a", "x"], "type"), (["x"], "val"),
      (["b", "x"], "val")].map fun d =>
        ⟨d.1.map String.toList, d.2.toList, none, none, none, none, none, []⟩

theorem meant_eq_preferred_rankedFile :
    ∃ idx, build rankedFile [] = .ok idx ∧
      (idx.catalogue.meant .kind "x ".toList).1 ≠ .error ⟨"x ".toList⟩ ∧
      ∃ e x, (idx.catalogue.meant .kind "x ".toList).1 = .ok e ∧
        e ∈ (idx.catalogue.candidates "x ".toList).1 ∧
        rankedFile.Matches idx.scopes "x ".toList x ∧ x.entry = .ok e ∧
        ∀ y f, rankedFile.Matches idx.scopes "x ".toList y → y.entry = .ok f → y ≠ x →
          ChoiceRule.kind.Prefers (e.kind.tag, x.place idx.scopes)
            (f.kind.tag, y.place idx.scopes) := by
  obtain ⟨idx, built, tag⟩ : ∃ idx, build rankedFile [] = .ok idx ∧
      (idx.catalogue.meant .kind "x ".toList).1.map (·.kind.tag) = .ok .value :=
    ⟨_, rfl, by decide⟩
  have meant : (idx.catalogue.meant .kind "x ".toList).1 ≠ .error ⟨"x ".toList⟩ := by
    intro unmeant
    rw [unmeant] at tag
    cases tag
  exact ⟨idx, built, meant, (meant_eq_preferred built .kind "x ".toList).2 meant⟩

end Index

end SymbolIndex
