import Mathlib.Data.List.Forall2
import Mathlib.Data.List.Infix
import Mathlib.Data.List.TakeWhile
import Mathlib.Tactic.Lemma
import SymbolIndex.Text.Margin

/-!
# What the margin takes away

Taking the margin off a block of lines takes nothing but indentation off each of them. The margin
of lines that are all indented further is indented as far, so what is left of them is the same.
-/

namespace SymbolIndex.Text

variable {w : Text} {ls : List Text}

/-! ### Lines -/

lemma unlines_nil : unlines [] = [] := rfl

lemma unlines_singleton (l : Text) : unlines [l] = l := by simp [unlines, joinWith]

lemma unlines_cons_cons (l m : Text) (ls : List Text) :
    unlines (l :: m :: ls) = l ++ '\n' :: unlines (m :: ls) := by
  simp [unlines, joinWith]

lemma exists_lines (t : Text) : ∃ (first : Text) (rest : List Text), t.lines = first :: rest :=
  List.exists_cons_of_ne_nil (List.splitOn_ne_nil '\n' t)

lemma lines_newline (t : Text) : lines ('\n' :: t) = [] :: t.lines :=
  List.splitOn_append_cons_self [] t

/-- What stands in front of a text on the same line belongs to its first line. -/
lemma lines_append {s t first : Text} {rest : List Text} (hs : '\n' ∉ s)
    (h : t.lines = first :: rest) : lines (s ++ t) = (s ++ first) :: rest := by
  induction s with
  | nil => exact h
  | cons c s ih =>
    rw [List.mem_cons, not_or] at hs
    have other : (c == '\n') = false := beq_eq_false_iff_ne.mpr (Ne.symm hs.1)
    have later : (s ++ t).splitOn '\n' = (s ++ first) :: rest := ih hs.2
    rw [List.cons_append, lines, List.splitOn_cons_eq_if_modifyHead, other, later]
    rfl

/-! ### The margin is indentation -/

lemma commonStart_prefix (s t : Text) : commonStart s t <+: s ∧ commonStart s t <+: t := by
  fun_induction commonStart s t with
  | case1 s a t ih =>
    exact ⟨List.cons_prefix_cons.mpr ⟨rfl, ih.1⟩, List.cons_prefix_cons.mpr ⟨rfl, ih.2⟩⟩
  | case2 => exact ⟨List.nil_prefix, List.nil_prefix⟩
  | case3 => exact ⟨List.nil_prefix, List.nil_prefix⟩

lemma margin?_eq_none_iff : margin? ls = none ↔ ∀ l ∈ ls, l = [] := by
  induction ls with
  | nil => simp [margin?]
  | cons l ls ih =>
    rw [margin?, List.forall_mem_cons, ← ih]
    split
    · next empty => simp [List.isEmpty_iff.mp empty]
    · next full =>
      have ne_nil : l ≠ [] := fun empty => full (List.isEmpty_iff.mpr empty)
      split <;> simp [ne_nil]

/-- Every line that is not empty starts with the margin, which is part of its indentation. -/
lemma margin_prefix {m l : Text} (h : margin? ls = some m) (mem : l ∈ ls) (full : l ≠ []) :
    m <+: l.takeWhile isIndent := by
  induction ls generalizing m with
  | nil => cases mem
  | cons first rest ih =>
    rw [margin?] at h
    split at h
    · next empty =>
      rcases List.mem_cons.mp mem with rfl | later
      · exact absurd (List.isEmpty_iff.mp empty) full
      · exact ih h later
    · split at h
      · next none =>
        obtain rfl := Option.some.inj h
        rcases List.mem_cons.mp mem with rfl | later
        · exact List.prefix_rfl
        · exact absurd (margin?_eq_none_iff.mp none l later) full
      · next m' some =>
        obtain rfl := Option.some.inj h
        obtain ⟨here, there⟩ := commonStart_prefix (first.takeWhile isIndent) m'
        rcases List.mem_cons.mp mem with rfl | later
        · exact here
        · exact there.trans (ih some later)

/-- Taking the margin off a block takes indentation off its lines. -/
lemma forall₂_withoutMargin (ls : List Text) :
    List.Forall₂ (fun l l' => ∃ lead : Text, (∀ c ∈ lead, isIndent c = true) ∧ l = lead ++ l') ls
      (withoutMargin ls) := by
  simp only [withoutMargin, List.map_map, List.forall₂_map_right_iff]
  refine List.forall₂_same.mpr fun l mem => ?_
  by_cases bare : l.all isIndent = true
  · refine ⟨l, List.all_eq_true.mp bare, ?_⟩
    simp [clearBlankLine, bare]
  have kept : clearBlankLine l = l := if_neg bare
  simp only [Function.comp_apply, kept]
  cases found : margin? (ls.map clearBlankLine) with
  | none => exact ⟨[], List.forall_mem_nil _, rfl⟩
  | some m =>
    have full : l ≠ [] := by
      rintro rfl
      exact bare rfl
    have start : m <+: l.takeWhile isIndent :=
      margin_prefix found (List.mem_map.mpr ⟨l, mem, kept⟩) full
    refine ⟨m, fun c hc => List.mem_takeWhile_imp (start.subset hc), ?_⟩
    obtain ⟨rest, rfl⟩ := start.trans (List.takeWhile_prefix isIndent)
    simp

/-! ### Lines that are all indented further -/

lemma commonStart_append (w s t : Text) :
    commonStart (w ++ s) (w ++ t) = w ++ commonStart s t := by
  induction w with
  | nil => rfl
  | cons c w ih => simp [commonStart, ih]

/-- A line indented by `w`, unless it is empty. -/
def indentedLine (w l : Text) : Text := if l.isEmpty then [] else w ++ l

variable (hw : ∀ c ∈ w, isIndent c = true)

include hw

lemma clearBlankLine_append (l : Text) :
    clearBlankLine (w ++ l) = indentedLine w (clearBlankLine l) := by
  have indents : w.all isIndent = true := List.all_eq_true.mpr hw
  simp only [clearBlankLine, List.all_append, indents, Bool.true_and]
  split
  · rfl
  · next content =>
    have full : l ≠ [] := by
      rintro rfl
      exact content rfl
    simp [indentedLine, full]

lemma margin?_map_indentedLine (ls : List Text) :
    margin? (ls.map (indentedLine w)) = (margin? ls).map (w ++ ·) := by
  induction ls with
  | nil => rfl
  | cons l ls ih =>
    by_cases empty : l = []
    · simp [margin?, indentedLine, empty, ih]
    · have start : (w ++ l).takeWhile isIndent = w ++ l.takeWhile isIndent :=
        List.takeWhile_append_of_pos hw
      have line : indentedLine w l = w ++ l := by simp [indentedLine, empty]
      rw [List.map_cons, margin?, margin?, ih, line, start]
      cases margin? ls <;> simp [empty, commonStart_append]

/-- Indenting all lines of a block changes nothing once the margin is gone. -/
lemma withoutMargin_map_append (ls : List Text) :
    withoutMargin (ls.map (w ++ ·)) = withoutMargin ls := by
  have cleared : (ls.map (w ++ ·)).map clearBlankLine =
      (ls.map clearBlankLine).map (indentedLine w) := by
    simp [clearBlankLine_append hw]
  simp only [withoutMargin]
  rw [cleared, margin?_map_indentedLine hw, List.map_map]
  refine List.map_congr_left fun l mem => ?_
  cases found : margin? (ls.map clearBlankLine) with
  | none =>
    obtain rfl := margin?_eq_none_iff.mp found l mem
    rfl
  | some m =>
    by_cases empty : l = []
    · simp [indentedLine, empty]
    · simp [indentedLine, empty, List.drop_append]

end SymbolIndex.Text
