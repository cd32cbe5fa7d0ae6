import Mathlib.Tactic.Lemma
import Mathlib.Tactic.SplitIfs
import SymbolIndex.Proofs.Text.Dotted
import SymbolIndex.Text.Margin
import SymbolIndex.Text.Terminal

/-!
# Lines of output

A text on one line holds no blank but the space, so it holds no line break of any kind. Removing
escape sequences adds nothing to a text and never takes away the line break behind it, because a
line break stands in no escape sequence. So texts that are printed one by one, each on its own line,
are found again as the lines of the output.
-/

namespace SymbolIndex.Text

/-! ### Texts on one line -/

/-- The only blank is the space. -/
def OnOneLine (t : Text) : Prop := ∀ c ∈ t, isBlank c = true → c = ' '

lemma OnOneLine.newline_not_mem {t : Text} (h : t.OnOneLine) : '\n' ∉ t := fun mem =>
  absurd (h '\n' mem (by decide)) (by decide)

lemma onOneLine_squeeze (t : Text) : (squeeze t).OnOneLine := by
  fun_induction squeeze t with
  | case1 => exact List.forall_mem_nil _
  | case2 c r _ _ ih => exact ih
  | case3 c r _ _ ih => exact List.forall_mem_cons.mpr ⟨fun _ => rfl, ih⟩
  | case4 c r solid ih => exact List.forall_mem_cons.mpr ⟨fun blank => absurd blank solid, ih⟩

lemma onOneLine_singleSpaced (t : Text) : t.singleSpaced.OnOneLine := fun c hc =>
  onOneLine_squeeze t c ((trim_isInfix _).subset hc)

/-! ### Escape sequences -/

lemma dropWhile_concat {p : Char → Bool} {c : Char} (h : p c = false) (t : Text) :
    (t ++ [c]).dropWhile p = t.dropWhile p ++ [c] := by
  rw [List.dropWhile_append]
  split
  · next none =>
    rw [List.isEmpty_iff.mp none]
    exact List.dropWhile_cons_of_neg (by simp [h])
  · rfl

/-- A line break ends no escape sequence and stands in none. -/
lemma afterSequence?_newline (t : Text) :
    afterSequence? (t ++ ['\n']) = (afterSequence? t).map (· ++ ['\n']) := by
  simp only [afterSequence?]
  rw [dropWhile_concat rfl, dropWhile_concat rfl]
  generalize (List.dropWhile _ (List.dropWhile _ t)) = rest
  cases rest with
  | nil => rfl
  | cons c r =>
    simp only [List.cons_append]
    split_ifs <;> rfl

lemma sublist_of_afterSequence? {t s : Text} (h : afterSequence? t = some s) : s.Sublist t := by
  simp only [afterSequence?] at h
  split at h
  · next c r rest =>
    have suffix : (c :: r).Sublist t := by
      rw [← rest]
      exact (List.dropWhile_sublist _).trans (List.dropWhile_sublist _)
    split_ifs at h
    obtain rfl := Option.some.inj h
    exact (List.sublist_cons_self c _).trans suffix
  · cases h

/-- So what is removed from a line does not depend on the line break behind it. -/
lemma withoutSequences_newline (t : Text) :
    withoutSequences (t ++ ['\n']) = t.withoutSequences ++ ['\n'] := by
  fun_induction withoutSequences t with
  | case1 => simp [withoutSequences]
  | case2 c r escape s after ih =>
    have behind : afterSequence? (r ++ ['\n']) = some (s ++ ['\n']) := by
      rw [afterSequence?_newline, after, Option.map_some]
    rw [List.cons_append, List.cons_append, withoutSequences, if_pos escape, ← ih]
    split
    · next s' found =>
      obtain rfl := Option.some.inj (behind.symm.trans found)
      rfl
    · next missing => cases behind.symm.trans missing
  | case3 c r escape after ih =>
    have behind : afterSequence? (r ++ ['\n']) = none := by
      rw [afterSequence?_newline, after, Option.map_none]
    rw [List.cons_append, List.cons_append, withoutSequences, if_pos escape, List.cons_append, ← ih]
    split
    · next s' found => cases behind.symm.trans found
    · rfl
  | case4 c r other ih =>
    rw [List.cons_append, List.cons_append, withoutSequences, if_neg other, List.cons_append, ← ih]
    rfl
  | case5 c r plain ih =>
    rw [List.cons_append, List.cons_append, ← ih, withoutSequences]
    intro r' opens
    cases r with
    | nil => cases opens
    | cons d r => exact plain r (congrArg (· :: r) (List.cons.inj opens).1)

lemma withoutSequences_sublist (t : Text) : t.withoutSequences.Sublist t := by
  fun_induction withoutSequences t with
  | case1 => exact .slnil
  | case2 c r escape s after ih =>
    exact ((ih.trans (sublist_of_afterSequence? after)).cons '[').cons c
  | case3 c r _ _ ih | case4 c r _ ih | case5 c r _ ih => exact ih.cons_cons c

/-! ### Output -/

/-- The lines of a text that a line break ends. -/
def endedLines (t : Text) : List Text := t.lines.dropLast

/-- Lines are found again in the text where each is ended by a line break. -/
lemma endedLines_flatMap {ls : List Text} (h : ∀ l ∈ ls, '\n' ∉ l) :
    endedLines (ls.flatMap (· ++ ['\n'])) = ls := by
  have joined : ['\n'].intercalate (ls ++ [[]]) = ls.flatMap (· ++ ['\n']) := by
    clear h
    induction ls with
    | nil => rfl
    | cons l ls ih =>
      cases ls with
      | nil => simp
      | cons m ls =>
        rw [List.cons_append, List.cons_append, List.intercalate_cons_cons, ← List.cons_append, ih]
        rfl
  have single : ∀ l ∈ ls ++ [[]], '\n' ∉ l := by
    rw [List.forall_mem_append, List.forall_mem_singleton]
    exact ⟨h, List.not_mem_nil⟩
  rw [endedLines, lines, ← joined, List.splitOn_intercalate _ single (by simp),
    List.dropLast_concat]

end SymbolIndex.Text
