import Mathlib.Data.List.Induction
import Mathlib.Data.List.Nodup
import SymbolIndex.Index.Basic
import SymbolIndex.Proofs.Traversal

/-!
# Built indexes

An index that is built from a file has one symbol for each declaration, in the order of the file,
the keywords of the file, and every scope once.
-/

namespace SymbolIndex

lemma getLastD_of_ne_nil {α : Type} {as : List α} (h : as ≠ []) (d : α) :
    as.getLastD d = as.getLast h := by
  rw [List.getLastD_eq_getLast?, List.getLast?_eq_getLast_of_ne_nil h]
  rfl

/-! ### Dotted names -/

namespace DottedName

/-- The segments of a dotted name are the pieces of its text between dots. -/
lemma segments_ofText (t : Text) : (ofText t).segments = t.trim.splitOn '.' := by
  have ne_nil : t.trim.splitOn '.' ≠ [] := List.splitOn_ne_nil _ _
  simp only [segments, ofText, getLastD_of_ne_nil ne_nil]
  exact List.dropLast_concat_getLast ne_nil

lemma dotted_segments_ofText (t : Text) : Text.dotted (ofText t).segments = t.trim := by
  rw [segments_ofText, Text.dotted, Text.joinWith, List.intercalate_splitOn]

end DottedName

/-! ### Symbols -/

lemma Symbol.name_eq_getLastD (s : Symbol) : s.name = s.path.getLastD [] :=
  (getLastD_of_ne_nil s.path_ne_nil []).symm

lemma Declaration.path_of_symbol {d : Declaration} {s : Symbol} (h : d.symbol = .ok s) :
    s.path = d.path := by
  rw [Declaration.symbol] at h
  split at h
  · split at h
    · cases h
    · cases h
      rfl
  · cases h

namespace Index

/-- The index is that of a file with further modules opened. -/
structure OfFile (idx : Index) (file : IndexFile) (opened : List Text) : Prop where
  symbols : List.Forall₂ (fun d s => d.symbol = .ok s) file.entries idx.symbols.toList
  keywords : idx.keywords.toList = file.keywords
  scopes : idx.scopes = scopesOf (file.opened ++ opened)

lemma forall₂_of_symbolsOf {i : Nat} {ds : List Declaration} {ss : List Symbol}
    (h : symbolsOf i ds = .ok ss) : List.Forall₂ (fun d s => d.symbol = .ok s) ds ss := by
  induction ds generalizing i ss with
  | nil =>
    cases h
    exact .nil
  | cons d ds ih =>
    rw [symbolsOf] at h
    split at h
    · cases h
    · next s hs =>
      obtain ⟨ss, rest, rfl⟩ := map_eq_ok_iff.mp h
      exact .cons hs (ih rest)

lemma ofFile_of_build {file : IndexFile} {opened : List Text} {idx : Index}
    (built : build file opened = .ok idx) : idx.OfFile file opened := by
  obtain ⟨ss, symbols, rfl⟩ := map_eq_ok_iff.mp built
  exact ⟨forall₂_of_symbolsOf symbols, rfl, rfl⟩

/-! ### Scopes -/

lemma eraseDups_filter {α : Type} [BEq α] [LawfulBEq α] (p : α → Bool) (as : List α) :
    (as.filter p).eraseDups = as.eraseDups.filter p := by
  match as with
  | [] => rfl
  | a :: as =>
    have shorter : (as.filter fun b => !b == a).length < (a :: as).length :=
      Nat.lt_succ_of_le (List.length_filter_le _ as)
    have rest := eraseDups_filter p (as.filter fun b => !b == a)
    rw [List.eraseDups_cons, List.filter_cons, List.filter_cons, ← rest, List.filter_filter]
    by_cases h : p a = true
    · rw [if_pos h, if_pos h, List.eraseDups_cons, List.filter_filter]
      simp only [Bool.and_comm]
    · rw [if_neg h, if_neg h]
      congr 1
      apply List.filter_congr
      intro b _
      by_cases same : b = a
      · simp [same, h]
      · simp [same]
termination_by as.length
decreasing_by exact shorter

lemma scopesOf_concat_blank (opened : List Text) {m : Text} (blank : m.allBlank = true) :
    scopesOf (opened ++ [m]) = scopesOf opened := by
  simp [scopesOf, blank]

/-- The module that is opened last is innermost, and the other scopes keep their order. -/
lemma scopesOf_concat (opened : List Text) {m : Text} (named : m.allBlank = false) :
    scopesOf (opened ++ [m])
      = m.trim.splitOn '.' :: (scopesOf opened).filter (· ≠ m.trim.splitOn '.') := by
  have root : m.trim.splitOn '.' ≠ [] := List.splitOn_ne_nil _ _
  have opens : [m].filter (!Text.allBlank ·) = [m] := by simp [named]
  rw [scopesOf, scopesOf, List.filter_append, opens, List.map_append, List.map_singleton,
    List.reverse_append, List.reverse_singleton, List.singleton_append, List.eraseDups_cons,
    eraseDups_filter, DottedName.segments_ofText, List.filter_append]
  simp [root.symm, beq_eq_decide]

lemma nodup_scopesOf (opened : List Text) : (scopesOf opened).Nodup := by
  induction opened using List.reverseRecOn with
  | nil => exact List.nodup_singleton []
  | append_singleton opened m ih =>
    cases named : m.allBlank with
    | true => rwa [scopesOf_concat_blank opened named]
    | false =>
      rw [scopesOf_concat opened named, List.nodup_cons]
      exact ⟨by simp, ih.filter _⟩

lemma OfFile.nodup_scopes {idx : Index} {file : IndexFile} {opened : List Text}
    (h : idx.OfFile file opened) : idx.scopes.Nodup :=
  h.scopes ▸ nodup_scopesOf _

end Index

end SymbolIndex
