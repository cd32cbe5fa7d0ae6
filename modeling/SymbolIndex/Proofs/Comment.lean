import SymbolIndex.Comment
import SymbolIndex.Proofs.Text.Gaps
import SymbolIndex.Proofs.Text.Margin

/-!
# Cleaned comments

Cleaning a comment respaces its body: no solid character is lost, a gap within a line is kept and
lines are not merged. How far the lines behind the first one are indented makes no difference.
-/

namespace SymbolIndex.Comment

open Text (Blank KeepsGap Respaced SameBreaks blank_newline blank_nil isBlank isIndent
  unlines_cons_cons unlines_singleton)

/-! ### Content -/

lemma blank_of_isIndent {lead : Text} (h : ∀ c ∈ lead, isIndent c = true) :
    Blank lead ∧ '\n' ∉ lead := by
  constructor
  · intro c hc
    have indent := h c hc
    simp only [isIndent, Bool.or_eq_true, beq_iff_eq] at indent
    obtain rfl | rfl := indent <;> decide
  · intro broken
    exact absurd (h '\n' broken) (by decide)

/-- Taking the blanks around the first line and the margin of the others away respaces a body. -/
lemma respaced_bareLines {b first : Text} {rest : List Text} (h : b.lines = first :: rest) :
    Respaced SameBreaks b (Text.unlines (first.trim :: Text.withoutMargin rest)) := by
  have whole : Text.unlines b.lines = b := List.intercalate_splitOn '\n'
  rw [← whole, h]
  refine Respaced.unlines (.cons ?_ ((Text.forall₂_withoutMargin rest).imp ?_))
  · obtain ⟨lead, trail, parts, blankLead, blankTrail⟩ := first.exists_blanks_trim
    have oneLine : '\n' ∉ first := Text.not_mem_of_mem_splitOn (h ▸ List.mem_cons_self)
    rw [parts, List.mem_append, List.mem_append, not_or, not_or] at oneLine
    have trimmed := Respaced.of_padded blankLead blankTrail oneLine.1.1 oneLine.2
      (Text.sameBreaks_append oneLine.1.1) first.trim
    rwa [← parts] at trimmed
  · rintro _ l ⟨lead, indents, rfl⟩
    obtain ⟨blank, oneLine⟩ := blank_of_isIndent indents
    have bare := Respaced.of_padded blank blank_nil oneLine List.not_mem_nil
      (Text.sameBreaks_append oneLine) l
    rwa [List.append_nil] at bare

/-- A line break next to an empty part may be missing, but only at the ends. -/
lemma exists_padded_parts (first : Text) (ls : List Text) :
    ∃ lead trail : Text, Blank lead ∧ Blank trail ∧
      Text.unlines (first :: ls) =
        lead ++ Text.unlines ([first, Text.unlines ls].filter (!·.isEmpty)) ++ trail := by
  cases ls with
  | nil =>
    refine ⟨[], [], blank_nil, blank_nil, ?_⟩
    cases first <;> simp [unlines_singleton, Text.unlines_nil]
  | cons second others =>
    rw [unlines_cons_cons]
    generalize Text.unlines (second :: others) = rest
    match first, rest with
    | [], [] => exact ⟨['\n'], [], blank_newline, blank_nil, rfl⟩
    | [], d :: r => exact ⟨['\n'], [], blank_newline, blank_nil, by simp [unlines_singleton]⟩
    | c :: s, [] => exact ⟨[], ['\n'], blank_nil, blank_newline, by simp [unlines_singleton]⟩
    | c :: s, d :: r =>
      exact ⟨[], [], blank_nil, blank_nil, by simp [unlines_cons_cons, unlines_singleton]⟩

/-- The text `t` holds what the body of a comment holds, from its first solid character to its
last one. -/
structure Cleaned (body t : Text) : Prop where
  opens : ∃ c ∈ t.head?, isBlank c = false
  closes : ∃ c ∈ t.getLast?, isBlank c = false
  solids : t.solids = body.solids
  gaps : List.Forall₂ KeepsGap body.gaps t.gaps

lemma content_trim_undented (b : Text) :
    (undented b).trim.solids = b.solids ∧
      List.Forall₂ KeepsGap b.gaps (undented b).trim.gaps := by
  obtain ⟨first, rest, h⟩ := b.exists_lines
  have respaced := respaced_bareLines h
  obtain ⟨lead, trail, blankLead, blankTrail, padded⟩ :=
    exists_padded_parts first.trim (Text.withoutMargin rest)
  have left : undented b =
      Text.unlines ([first.trim, Text.unlines (Text.withoutMargin rest)].filter (!·.isEmpty)) := by
    rw [undented, h]
  rw [padded, ← left] at respaced
  have solids := respaced.solids
  have gaps := respaced.gaps
  rw [Text.solids_padded blankLead blankTrail] at solids
  rw [Text.gaps_padded blankLead blankTrail] at gaps
  rw [Text.solids_trim, Text.gaps_trim]
  exact ⟨solids, gaps⟩

/-- A comment is cleaned to nothing exactly if its body is blank. What is left of any other body
starts and ends with a solid character and holds the solid characters of the body; between two
neighbours a gap without a line break is kept, and any other keeps its number of line breaks. -/
theorem clean_keeps_content (raw : Text) :
    (clean raw = none ∧ (body raw).allBlank = true) ∨
      ∃ t, clean raw = some t ∧ (body raw).allBlank = false ∧ Cleaned (body raw) t := by
  obtain ⟨solids, gaps⟩ := content_trim_undented (body raw)
  obtain ⟨opens, closes⟩ := (undented (body raw)).unpadded_trim
  rw [clean]
  cases left : (undented (body raw)).trim with
  | nil =>
    rw [left] at solids
    exact .inl ⟨rfl, Text.solids_eq_nil_iff.mp solids.symm⟩
  | cons c r =>
    rw [left] at solids gaps opens closes
    have first : isBlank c = false := opens c rfl
    have content : (body raw).allBlank = false := by
      rw [← Bool.not_eq_true, ← Text.solids_eq_nil_iff, ← solids,
        ← List.nil_append (c :: r), Text.solids_solid blank_nil first]
      exact List.cons_ne_nil _ _
    have last := List.getLast?_eq_some_getLast (List.cons_ne_nil c r)
    exact .inr ⟨c :: r, rfl, content, ⟨c, rfl, first⟩, ⟨_, last, closes _ last⟩, solids, gaps⟩

/-- To the margin a no-break space is content, at the end of a text it is blank. -/
example : clean "(**  First\n   two  words\n \t\n  \u00A0 *)".toList =
    some "First\n two  words".toList := by decide

/-! ### Indentation -/

/-- The text with `w` put in behind each of its line breaks. -/
def indented (w t : Text) : Text := t.flatMap fun c => if c = '\n' then c :: w else [c]

section Indented

variable {w : Text}

lemma indented_append (w s t : Text) : indented w (s ++ t) = indented w s ++ indented w t :=
  List.flatMap_append

lemma indented_newline (w : Text) : indented w ['\n'] = '\n' :: w := by simp [indented]

lemma indented_singleton {c : Char} (h : c ≠ '\n') (w : Text) : indented w [c] = [c] := by
  simp [indented, h]

lemma indented_cons (w t : Text) (c : Char) : indented w (c :: t) = indented w [c] ++ indented w t :=
  indented_append w [c] t

/-- Every line but the first is indented. -/
lemma lines_indented (hw : '\n' ∉ w) {t first : Text} {rest : List Text}
    (h : t.lines = first :: rest) : (indented w t).lines = first :: rest.map (w ++ ·) := by
  induction t generalizing first rest with
  | nil =>
    obtain ⟨rfl, rfl⟩ := List.cons.inj h
    rfl
  | cons c t ih =>
    obtain ⟨second, others, later⟩ := Text.exists_lines t
    rw [indented_cons]
    by_cases newline : c = '\n'
    · subst newline
      rw [Text.lines_newline, later] at h
      obtain ⟨rfl, rfl⟩ := List.cons.inj h
      rw [indented_newline, List.cons_append, Text.lines_newline, Text.lines_append hw (ih later)]
      rfl
    · have oneLine : '\n' ∉ [c] := by simpa [eq_comm] using newline
      rw [← List.singleton_append, Text.lines_append oneLine later] at h
      obtain ⟨rfl, rfl⟩ := List.cons.inj h
      rw [indented_singleton newline, Text.lines_append oneLine (ih later)]

lemma ne_newline_of_solid {c : Char} (h : isBlank c = false) : c ≠ '\n' := by
  rintro rfl
  exact absurd h (by decide)

/-- No indentation is put in at the ends of a trimmed text. -/
lemma trim_indented (w t : Text) : (indented w t.trim).trim = indented w t.trim := by
  obtain ⟨opens, closes⟩ := t.unpadded_trim
  rw [Text.trim_eq_self_iff]
  generalize t.trim = s at opens closes
  constructor
  · cases s with
    | nil => exact opens
    | cons c s =>
      rw [indented_cons, indented_singleton (ne_newline_of_solid (opens c rfl))]
      exact opens
  · obtain rfl | ⟨s, c, rfl⟩ := s.eq_nil_or_concat'
    · exact closes
    · rw [List.getLast?_concat] at closes
      rw [indented_append, indented_singleton (ne_newline_of_solid (closes c rfl)),
        List.getLast?_concat]
      exact closes

lemma prefix_indented_iff {m : Text} (h : '\n' ∉ m) (w t : Text) :
    m <+: indented w t ↔ m <+: t := by
  induction m generalizing t with
  | nil => simp
  | cons c m ih =>
    rw [List.mem_cons, not_or] at h
    cases t with
    | nil => rfl
    | cons d t =>
      rw [indented_cons]
      by_cases newline : d = '\n'
      · subst newline
        rw [indented_newline, List.cons_append, List.cons_prefix_cons, List.cons_prefix_cons]
        exact iff_of_false (fun both => h.1 both.1.symm) fun both => h.1 both.1.symm
      · rw [indented_singleton newline, List.singleton_append, List.cons_prefix_cons,
          List.cons_prefix_cons, ih h.2]

lemma mem_of_concat_suffix {m s u : Text} {c : Char} (h : m ++ [c] <:+ s ++ u) (full : u ≠ []) :
    c ∈ u := by
  obtain ⟨x, same⟩ := h
  have last := congrArg List.getLast? same
  rw [← List.append_assoc, List.getLast?_concat, List.getLast?_append_of_ne_nil s full] at last
  exact List.mem_of_getLast? last.symm

lemma suffix_indented_iff {m : Text} (h : '\n' ∉ m) (hw : ∀ c ∈ w, c ∉ m) (t : Text) :
    m <:+ indented w t ↔ m <:+ t := by
  induction m using List.reverseRecOn generalizing t with
  | nil => simp
  | append_singleton m c ih =>
    simp only [List.mem_append, List.mem_singleton, not_or] at h hw
    obtain rfl | ⟨s, d, rfl⟩ := t.eq_nil_or_concat'
    · rfl
    rw [indented_append]
    by_cases newline : d = '\n'
    · subst newline
      have broken : ¬ m ++ [c] <:+ s ++ ['\n'] := by
        intro suffix
        have mem := mem_of_concat_suffix suffix (List.cons_ne_nil _ _)
        exact h.2 (List.mem_singleton.mp mem).symm
      have shifted : ¬ m ++ [c] <:+ indented w s ++ '\n' :: w := by
        intro suffix
        rcases List.mem_cons.mp (mem_of_concat_suffix suffix (List.cons_ne_nil _ _)) with same | mem
        · exact h.2 same.symm
        · exact (hw c mem).2 rfl
      rw [indented_newline]
      exact iff_of_false shifted broken
    · rw [indented_singleton newline, List.suffix_concat_iff, List.suffix_concat_iff]
      refine or_congr_right (exists_congr fun u => and_congr_right fun eq => ?_)
      obtain ⟨rfl, -⟩ := List.append_inj' eq rfl
      exact ih h.1 (fun c hc => (hw c hc).1) s

lemma dropOpen_indented (w t : Text) : dropOpen (indented w t) = indented w (dropOpen t) := by
  have same := prefix_indented_iff (m := openMark) (by decide) w t
  simp only [dropOpen, List.isPrefixOf_iff_prefix, same]
  split
  · next opened =>
    obtain ⟨r, rfl⟩ := opened
    have mark : indented w openMark = openMark := rfl
    simp [indented_append, mark]
  · rfl

variable (hw : ∀ c ∈ w, isIndent c = true)
include hw

lemma dropClose_indented (t : Text) : dropClose (indented w t) = indented w (dropClose t) := by
  have apart : ∀ c ∈ w, c ∉ closeMark := by
    intro c hc mem
    have marks : ∀ d ∈ closeMark, isIndent d = false := by simp [closeMark, isIndent]
    exact absurd (hw c hc) (by simp [marks c mem])
  have same := suffix_indented_iff (m := closeMark) (by decide) apart t
  simp only [dropClose, List.isSuffixOf_iff_suffix, same]
  split
  · next closed =>
    obtain ⟨r, rfl⟩ := closed
    have mark : indented w closeMark = closeMark := rfl
    simp [indented_append, mark]
  · rfl

lemma body_indented (raw : Text) : body (indented w raw.trim) = indented w (body raw) := by
  rw [body, trim_indented, dropOpen_indented, dropClose_indented hw, body]

lemma undented_indented (b : Text) : undented (indented w b) = undented b := by
  obtain ⟨first, rest, h⟩ := b.exists_lines
  rw [undented, undented, lines_indented (blank_of_isIndent hw).2 h, h]
  simp only [Text.withoutMargin_map_append hw]

end Indented

/-- Cleaning does not depend on how far the lines behind the first one are indented. -/
theorem clean_indented (raw w : Text) (hw : ∀ c ∈ w, c = ' ' ∨ c = '\t') :
    clean (indented w raw.trim) = clean raw := by
  have indents : ∀ c ∈ w, isIndent c = true := by simpa [isIndent] using hw
  rw [clean, body_indented indents, undented_indented indents, clean]

theorem clean_indented_ragged :
    (∀ c ∈ "\t ".toList, c = ' ' ∨ c = '\t') ∧
      clean (indented "\t ".toList (Text.trim " (** One\n  two\n\t\n   three\n *)\n".toList)) =
        some "One\ntwo\n\n three".toList := by
  have indents : ∀ c ∈ "\t ".toList, c = ' ' ∨ c = '\t' := by simp
  exact ⟨indents, (clean_indented _ _ indents).trans (by decide)⟩

end SymbolIndex.Comment
