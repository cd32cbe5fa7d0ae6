import SymbolIndex.Catalogue
import SymbolIndex.Proofs.Index.Hits

/-!
# Narrowing completions

Typing more of the last segment narrows a completion: what completes the longer text is what
completes the shorter one and is shown under a name that starts with the longer one. The order, the
access paths and the kinds that pass are left as they were, so a list of completions can be
filtered as its query grows.
-/

namespace SymbolIndex

/-! ### Longer names -/

lemma DottedName.eq_dotted_of_unpadded {t : Text} (h : t.Unpadded) :
    t = Text.dotted ((ofText t).qualifier ++ [(ofText t).last]) := by
  have shown := dotted_segments_ofText t
  rw [(Text.trim_eq_self_iff t).mpr h] at shown
  exact shown.symm

/-- What is added to a dotted name without a dot is added to its last segment. -/
lemma DottedName.ofText_append {p s : Text} (undotted : '.' ∉ s) (hp : p.Unpadded)
    (hps : (p ++ s).Unpadded) :
    ofText (p ++ s) = ⟨(ofText p).qualifier, (ofText p).last ++ s⟩ := by
  have whole : Text.dotted ((ofText p).qualifier ++ [(ofText p).last ++ s]) = p ++ s := by
    rw [Text.dotted_concat_append, ← eq_dotted_of_unpadded hp]
  have single : ∀ t ∈ (ofText p).qualifier ++ [(ofText p).last ++ s], '.' ∉ t := by
    have pieces : ∀ t ∈ (ofText p).qualifier ++ [(ofText p).last], '.' ∉ t := by
      intro t ht
      rw [← segments, segments_ofText] at ht
      exact Text.not_mem_of_mem_splitOn ht
    rw [List.forall_mem_append, List.forall_mem_singleton] at pieces ⊢
    exact ⟨pieces.1, List.not_mem_append pieces.2 undotted⟩
  have read : (p ++ s).trim.splitOn '.' = (ofText p).qualifier ++ [(ofText p).last ++ s] := by
    rw [(Text.trim_eq_self_iff _).mpr hps, ← whole]
    exact Text.splitOn_dotted (by simp) single
  rw [ofText, read]
  simp

namespace Index

variable {idx : Index} {file : IndexFile} {opened : List Text} {p s : Text}

/-! ### Hits -/

/-- What is met and passes a test is met by a stricter fit. -/
lemma filter_met {fits fits' : Scope → List Text → Bool} (test : Hit idx.symbols.size → Bool)
    (h : ∀ k : Hit idx.symbols.size,
      fits' k.scope (idx.entry k).path = (fits k.scope (idx.entry k).path && test k)) :
    (idx.met fits).filter test = idx.met fits' := by
  rw [met, met, List.filter_flatMap]
  congr 1
  funext scope
  rw [List.filter_map, List.filter_filter]
  congr 1
  apply List.filter_congr
  intro i _
  rw [Bool.and_comm]
  exact (h ⟨i, scope⟩).symm

/-- Among the paths that complete a text, those that complete a longer one are told by the name that
they are shown under. -/
lemma completeFits_append (undotted : '.' ∉ s) (hp : p.Unpadded) (hps : (p ++ s).Unpadded)
    (k : Hit idx.symbols.size) :
    completeFits (p ++ s) k.scope (idx.entry k).path
      = (completeFits p k.scope (idx.entry k).path
        && decide ((p ++ s) <+: (idx.entry k).qualified)) := by
  have longer := DottedName.ofText_append undotted hp hps
  have spelled := DottedName.eq_dotted_of_unpadded hps
  rw [longer] at spelled
  have unfolded : ∀ query, completeFits query k.scope (idx.entry k).path
      = decide ([] ∉ (DottedName.ofText query).qualifier ∧
          (idx.entry k).path.dropLast = k.scope ++ (DottedName.ofText query).qualifier ∧
            (DottedName.ofText query).last <+: (idx.entry k).path.getLastD []) := fun _ => rfl
  rw [unfolded, unfolded, longer, ← Bool.decide_and, decide_eq_decide]
  constructor
  · rintro ⟨full, module, start⟩
    refine ⟨⟨full, module, (List.prefix_append _ s).trans start⟩, ?_⟩
    rw [spelled, Occurrence.qualified, access_of_dropLast module, Text.dotted_concat_prefix_iff]
    exact start
  · rintro ⟨⟨full, module, -⟩, shown⟩
    rw [spelled, Occurrence.qualified, access_of_dropLast module,
      Text.dotted_concat_prefix_iff] at shown
    exact ⟨full, module, shown⟩

lemma completing_append (scopes : idx.scopes.Nodup) (undotted : '.' ∉ s) (hp : p.Unpadded)
    (hps : (p ++ s).Unpadded) :
    idx.completing (p ++ s)
      = (idx.completing p).filter fun k => (p ++ s) <+: (idx.entry k).qualified := by
  rw [completing_eq_met scopes, completing_eq_met scopes, filter_met]
  exact completeFits_append undotted hp hps

/-! ### Keywords -/

lemma qualified_keywordEntry (keyword : Text) :
    (Symbol.keywordEntry keyword).qualified = keyword := by
  simp [Occurrence.qualified, Symbol.keywordEntry, Text.dotted, Text.joinWith]

variable (idx) in
lemma completeKeywords_append (undotted : '.' ∉ s) (hp : p.Unpadded) (hps : (p ++ s).Unpadded) :
    idx.completeKeywords (.ofText (p ++ s))
      = (idx.completeKeywords (.ofText p)).filter ((p ++ s) <+: ·) := by
  rw [completeKeywords_eq_filter, completeKeywords_eq_filter,
    DottedName.ofText_append undotted hp hps]
  by_cases single : (DottedName.ofText p).qualifier = []
  · have whole := DottedName.eq_dotted_of_unpadded hp
    rw [single, List.nil_append, Text.dotted, Text.joinWith, List.intercalate_singleton] at whole
    rw [if_pos single, if_pos single, ← whole, List.filter_filter]
    apply List.filter_congr
    intro keyword _
    rw [← Bool.decide_and, decide_eq_decide]
    constructor
    · intro start
      exact ⟨start, (List.prefix_append p s).trans start⟩
    · exact And.left
  · rw [if_neg single, if_neg single, List.filter_nil]

/-! ### Completions -/

/-- A completion of a longer text gives the entries of the shorter one whose qualified name starts
with it, and so it does under every set of kinds. -/
theorem complete_append (built : build file opened = .ok idx) (p s : Text) (undotted : '.' ∉ s)
    (hp : p.Unpadded) (hps : (p ++ s).Unpadded) :
    idx.complete (p ++ s) = (idx.complete p).filter (fun e => (p ++ s) <+: e.qualified) ∧
      ∀ kinds, (idx.catalogue.completions kinds (p ++ s)).1
        = (idx.catalogue.completions kinds p).1.filter fun e => (p ++ s) <+: e.qualified := by
  have made := ofFile_of_build built
  have narrowed : idx.complete (p ++ s)
      = (idx.complete p).filter fun e => (p ++ s) <+: e.qualified := by
    rw [made.complete_eq_map_completing, made.complete_eq_map_completing, List.filter_append,
      List.filter_map, List.filter_map, ← made.completeKeywords_eq_scan,
      ← made.completeKeywords_eq_scan, completeKeywords_append idx undotted hp hps,
      completing_append made.nodup_scopes undotted hp hps]
    simp only [Function.comp_def, qualified_keywordEntry]
  refine ⟨narrowed, ?_⟩
  intro kinds
  change (idx.complete (p ++ s)).filter _ = ((idx.complete p).filter _).filter _
  rw [narrowed, List.filter_comm]

theorem complete_append_nestedFile :
    ∃ idx, build nestedFile ["a".toList] = .ok idx ∧
      '.' ∉ "x".toList ∧ Text.Unpadded [] ∧ Text.Unpadded "x".toList ∧
      (idx.completing []).map (·.ordinal.val) = [4, 0, 3, 5, 1] ∧
      (idx.completing "x".toList).map (·.ordinal.val) = [0, 3, 5, 1] ∧
      idx.complete "x".toList = (idx.complete []).filter (fun e => "x".toList <+: e.qualified) ∧
      ∀ kinds, (idx.catalogue.completions kinds "x".toList).1
        = (idx.catalogue.completions kinds []).1.filter fun e => "x".toList <+: e.qualified := by
  have built : build nestedFile ["a".toList] = .ok _ := rfl
  have first : Text.Unpadded [] := by simp [Text.Unpadded]
  have second : Text.Unpadded "x".toList := by simp [Text.Unpadded, Text.isBlank, Text.blankRanges]
  refine ⟨_, built, by decide, first, second, ?_, ?_, ?_⟩
  · rw [completing_eq_met (by decide)]
    decide
  · rw [completing_eq_met (by decide)]
    decide
  · exact complete_append built [] "x".toList (by decide) first second

end Index

end SymbolIndex
