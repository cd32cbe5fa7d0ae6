import Mathlib.Data.List.TakeWhile
import Mathlib.Tactic.SplitIfs
import Mathlib.Tactic.Lemma
import SymbolIndex.Text.Blank

/-!
# Dotted texts

A path is shown with dots between its segments, and read back by cutting the trimmed text at its
dots. The way back leads to the same path when no segment is empty or holds a dot and no blank
stands at the ends. Where it leads to another path, the two are no ends of one longer path.
-/

namespace SymbolIndex.Text

/-! ### Trimming -/

/-- No blank stands at either end. -/
def Unpadded (t : Text) : Prop :=
  (∀ c ∈ t.head?, isBlank c = false) ∧ ∀ c ∈ t.getLast?, isBlank c = false

/-- Trimming takes blanks from both ends and nothing else. -/
lemma exists_blanks_trim (t : Text) :
    ∃ lead trail : Text, t = lead ++ t.trim ++ trail ∧
      (∀ c ∈ lead, isBlank c = true) ∧ ∀ c ∈ trail, isBlank c = true := by
  refine ⟨t.takeWhile isBlank, (t.trimStart.reverse.takeWhile isBlank).reverse, ?_, ?_, ?_⟩
  · have back := congrArg List.reverse
      (List.takeWhile_append_dropWhile (p := isBlank) (l := t.trimStart.reverse))
    rw [List.reverse_append, List.reverse_reverse] at back
    rw [trim, trimEnd, List.append_assoc, back]
    exact List.takeWhile_append_dropWhile.symm
  · intro c hc
    exact List.mem_takeWhile_imp hc
  · intro c hc
    exact List.mem_takeWhile_imp (List.mem_reverse.mp hc)

lemma trim_isInfix (t : Text) : t.trim <:+: t := by
  obtain ⟨lead, trail, parts, -, -⟩ := exists_blanks_trim t
  exact ⟨lead, trail, parts.symm⟩

lemma count_dot_of_blank {t : Text} (blank : ∀ c ∈ t, isBlank c = true) : t.count '.' = 0 := by
  apply List.count_eq_zero.mpr
  intro mem
  exact absurd (blank '.' mem) (by decide)

/-- Dots are not blank, so trimming keeps them. -/
lemma count_dot_trim (t : Text) : t.trim.count '.' = t.count '.' := by
  obtain ⟨lead, trail, parts, blankLead, blankTrail⟩ := exists_blanks_trim t
  have counts := congrArg (List.count '.') parts
  simp only [List.count_append, count_dot_of_blank blankLead, count_dot_of_blank blankTrail]
    at counts
  omega

lemma trimStart_eq_self_iff (t : Text) :
    t.trimStart = t ↔ ∀ c ∈ t.head?, isBlank c = false := by
  cases t with
  | nil => simp [trimStart]
  | cons c t => simp [trimStart, List.dropWhile_eq_self_iff]

lemma trimEnd_eq_self_iff (t : Text) :
    t.trimEnd = t ↔ ∀ c ∈ t.getLast?, isBlank c = false := by
  rw [← List.head?_reverse, ← trimStart_eq_self_iff, trimEnd, trimStart]
  exact List.reverse_eq_iff

lemma trim_eq_self_iff (t : Text) : t.trim = t ↔ t.Unpadded := by
  rw [Unpadded, ← trimStart_eq_self_iff, ← trimEnd_eq_self_iff]
  constructor
  · intro same
    have inner : t.trim.length ≤ t.trimStart.length := by
      rw [trim, trimEnd, List.length_reverse, ← t.trimStart.length_reverse]
      exact (List.dropWhile_suffix isBlank).length_le
    rw [same] at inner
    have start : t.trimStart = t := (List.dropWhile_suffix isBlank).eq_of_length_le inner
    exact ⟨start, by rwa [trim, start] at same⟩
  · rintro ⟨start, stop⟩
    rw [trim, start, stop]

lemma trimEnd_prefix (t : Text) : t.trimEnd <+: t := by
  have suffix := List.dropWhile_suffix (l := t.reverse) isBlank
  rwa [← List.reverse_prefix, List.reverse_reverse] at suffix

lemma unpadded_trim (t : Text) : t.trim.Unpadded := by
  constructor
  · intro c hc
    have first := List.head?_dropWhile_not isBlank t
    obtain ⟨r, rest⟩ := List.head?_eq_some_iff.mp hc
    obtain ⟨trail, parts⟩ := t.trimStart.trimEnd_prefix
    rw [← trimStart, ← parts, ← trim, rest] at first
    simpa using first
  · intro c hc
    have last := List.head?_dropWhile_not isBlank t.trimStart.reverse
    rw [trim, trimEnd, List.getLast?_reverse] at hc
    rw [hc] at last
    simpa using last

/-! ### Dots -/

lemma dotted_append {ss ts : List Text} (hs : ss ≠ []) (ht : ts ≠ []) :
    dotted (ss ++ ts) = dotted ss ++ '.' :: dotted ts := by
  obtain ⟨t, ts, rfl⟩ := List.exists_cons_of_ne_nil ht
  induction ss with
  | nil => exact absurd rfl hs
  | cons s ss ih =>
    cases ss with
    | nil => simp [dotted, joinWith]
    | cons s' ss =>
      have rest := ih (List.cons_ne_nil s' ss)
      simp only [dotted, joinWith, List.cons_append] at rest ⊢
      simp only [List.intercalate_cons_cons, rest, List.append_assoc]

/-- The last segment stands at the end of what is shown, behind a part that it has no share in. -/
lemma dotted_concat (segments : List Text) (t : Text) :
    dotted (segments ++ [t]) = dotted (segments ++ [[]]) ++ t := by
  cases segments with
  | nil => simp [dotted, joinWith]
  | cons s segments =>
    have lead : s :: segments ≠ [] := List.cons_ne_nil s segments
    rw [dotted_append lead (List.cons_ne_nil t []), dotted_append lead (List.cons_ne_nil [] [])]
    simp [dotted, joinWith]

lemma dotted_concat_append (segments : List Text) (s t : Text) :
    dotted (segments ++ [s ++ t]) = dotted (segments ++ [s]) ++ t := by
  rw [dotted_concat, dotted_concat segments s, List.append_assoc]

lemma dotted_concat_prefix_iff (segments : List Text) {s t : Text} :
    dotted (segments ++ [s]) <+: dotted (segments ++ [t]) ↔ s <+: t := by
  rw [dotted_concat, dotted_concat segments t, List.prefix_append_right_inj]

lemma splitOn_dotted {segments : List Text} (ne_nil : segments ≠ [])
    (h : ∀ s ∈ segments, '.' ∉ s) : (dotted segments).splitOn '.' = segments :=
  List.splitOn_intercalate '.' h ne_nil

lemma not_mem_of_mem_splitOn {sep : Char} {t s : Text} (h : s ∈ t.splitOn sep) : sep ∉ s := by
  induction t generalizing s with
  | nil =>
    obtain rfl : s = [] := by simpa using h
    exact List.not_mem_nil
  | cons c t ih =>
    rw [List.splitOn_cons_eq_if_modifyHead] at h
    split_ifs at h with same
    · rcases List.mem_cons.mp h with rfl | h
      · exact List.not_mem_nil
      · exact ih h
    · obtain ⟨u, us, cut⟩ := List.exists_cons_of_ne_nil (List.splitOn_ne_nil sep t)
      rw [cut] at h ih
      rcases List.mem_cons.mp h with rfl | h
      · rw [List.mem_cons, not_or]
        exact ⟨fun equal => same (beq_iff_eq.mpr equal.symm), ih List.mem_cons_self⟩
      · exact ih (List.mem_cons_of_mem u h)

/-- Of two ends of one path, one shown and the other read from what is shown, neither is longer. -/
lemma eq_of_dotted_eq_trim {path segments access : List Text} (hs : segments <:+ path)
    (ha : access <:+ path) (segments_ne_nil : segments ≠ []) (access_ne_nil : access ≠ [])
    (read : dotted segments = (dotted access).trim) : segments = access := by
  rcases List.suffix_or_suffix_of_suffix hs ha with ⟨extra, rfl⟩ | ⟨extra, rfl⟩
  · -- A dot too many is shown.
    by_cases h : extra = []
    · simp [h]
    · have dots := congrArg (List.count '.') read
      rw [count_dot_trim, dotted_append h segments_ne_nil, List.count_append,
        List.count_cons_self] at dots
      omega
  · -- More is read than shown.
    by_cases h : extra = []
    · simp [h]
    · have lengths := congrArg List.length read
      have shorter := (trim_isInfix (dotted access)).length_le
      rw [dotted_append h access_ne_nil, List.length_append, List.length_cons] at lengths
      omega

end SymbolIndex.Text
