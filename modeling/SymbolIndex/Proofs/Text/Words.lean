import Mathlib.Data.List.Chain
import SymbolIndex.Proofs.Text.Lines
import SymbolIndex.Text.Shortened

/-!
# Words of a line

A text put on one line is the list of its words with one space between neighbours, so what counts is
the words alone. A text that is spaced that way is left as it is. Cutting a line to a width keeps
this form, and cutting it twice comes to one cut at the smaller width.
-/

namespace SymbolIndex.Text

/-- The words of a text: what stands between its blanks, where that is not empty. -/
def words (t : Text) : List Text := (t.splitOnP isBlank).filter (!·.isEmpty)

/-- The only blank is the space, and no two blanks stand side by side. -/
structure SingleBlanks (t : Text) : Prop where
  spaces : t.OnOneLine
  apart : t.IsChain fun c d => ¬(isBlank c = true ∧ isBlank d = true)

variable {b c : Char} {s t : Text}

/-! ### Words -/

@[simp] lemma words_nil : words [] = [] := by simp [words]

/-- A blank divides the words on its left from those on its right. -/
lemma words_append_blank (hb : isBlank b = true) (s t : Text) :
    words (s ++ b :: t) = s.words ++ t.words := by
  rw [words, List.splitOnP_append_cons s t hb, List.filter_append]
  rfl

@[simp] lemma words_blank (hb : isBlank b = true) (t : Text) : words (b :: t) = t.words := by
  simpa using words_append_blank hb [] t

lemma words_singleton (hc : isBlank c = false) : words [c] = [[c]] := by
  simp [words, List.splitOnP_cons_eq_if_modifyHead, hc]

/-- A solid character begins the first word behind it where another one follows, and else it is a
word of its own. -/
lemma words_solid (hc : isBlank c = false) (t : Text) :
    words (c :: t)
      = if t.head?.map isBlank = some false then t.words.modifyHead (c :: ·)
        else [c] :: t.words := by
  cases t with
  | nil => simp [words_singleton hc]
  | cons d t =>
    by_cases hd : isBlank d = true
    · simpa [hd, words_singleton hc] using words_append_blank hd [c] t
    · obtain ⟨w, ws, cut⟩ := List.exists_cons_of_ne_nil (List.splitOnP_ne_nil isBlank t)
      simp [words, List.splitOnP_cons_eq_if_modifyHead, hc, hd, cut]

lemma words_blanks_append {lead : Text} (h : ∀ c ∈ lead, isBlank c = true) (t : Text) :
    words (lead ++ t) = t.words := by
  induction lead with
  | nil => rfl
  | cons c lead ih =>
    obtain ⟨hc, rest⟩ := List.forall_mem_cons.mp h
    rw [List.cons_append, words_blank hc, ih rest]

lemma words_append_blanks {trail : Text} (h : ∀ c ∈ trail, isBlank c = true) (t : Text) :
    words (t ++ trail) = t.words := by
  cases trail with
  | nil => rw [List.append_nil]
  | cons c trail =>
    obtain ⟨hc, rest⟩ := List.forall_mem_cons.mp h
    have wordless := words_blanks_append rest []
    rw [List.append_nil, words_nil] at wordless
    rw [words_append_blank hc, wordless, List.append_nil]

lemma words_trim (t : Text) : t.trim.words = t.words := by
  obtain ⟨lead, trail, parts, blankLead, blankTrail⟩ := exists_blanks_trim t
  have padded := words_append_blanks blankTrail (lead ++ t.trim)
  rw [← parts, words_blanks_append blankLead] at padded
  exact padded.symm

/-! ### Runs of blanks -/

lemma isBlank_space : isBlank ' ' = true := by decide

/-- A text that is squeezed starts with a blank if it did before. -/
lemma head?_squeeze (t : Text) : (squeeze t).head?.map isBlank = t.head?.map isBlank := by
  fun_induction squeeze t with
  | case1 => rfl
  | case2 c r blank next ih =>
    rw [ih]
    cases r with
    | nil => simp at next
    | cons d r => simpa [blank] using next
  | case3 c r blank _ ih => simp [blank, isBlank_space]
  | case4 c r _ ih => rfl

lemma words_squeeze (t : Text) : (squeeze t).words = t.words := by
  fun_induction squeeze t with
  | case1 => rfl
  | case2 c r blank _ ih => rw [ih, words_blank blank]
  | case3 c r blank _ ih => rw [words_blank isBlank_space, ih, words_blank blank]
  | case4 c r solid ih =>
    have hc : isBlank c = false := eq_false_of_ne_true solid
    rw [words_solid hc, words_solid hc, ih, head?_squeeze]

lemma singleBlanks_squeeze (t : Text) : (squeeze t).SingleBlanks := by
  refine ⟨onOneLine_squeeze t, ?_⟩
  fun_induction squeeze t with
  | case1 => exact .nil
  | case2 c r blank _ ih => exact ih
  | case3 c r blank next ih =>
    have first := head?_squeeze r
    refine List.isChain_cons.mpr ⟨?_, ih⟩
    rintro d hd ⟨-, blank'⟩
    rw [Option.mem_def.mp hd, Option.map_some, blank'] at first
    cases r with
    | nil => cases first
    | cons e r => exact next (Option.some.inj first).symm
  | case4 c r solid ih => exact List.isChain_cons.mpr ⟨fun _ _ both => solid both.1, ih⟩

lemma SingleBlanks.of_isInfix (h : t.SingleBlanks) (within : s <:+: t) : s.SingleBlanks :=
  ⟨fun c hc => h.spaces c (within.subset hc), List.IsChain.infix h.apart within⟩

lemma joinWith_cons {ts : List Text} (h : ts ≠ []) (t : Text) :
    joinWith ' ' (t :: ts) = t ++ ' ' :: joinWith ' ' ts := by
  obtain ⟨u, us, rfl⟩ := List.exists_cons_of_ne_nil h
  simp [joinWith]

lemma joinWith_modifyHead {ts : List Text} (h : ts ≠ []) (c : Char) :
    joinWith ' ' (ts.modifyHead (c :: ·)) = c :: joinWith ' ' ts := by
  obtain ⟨u, us, rfl⟩ := List.exists_cons_of_ne_nil h
  cases us <;> simp [joinWith]

lemma words_ne_nil (h : joinWith ' ' t.words = c :: s) : t.words ≠ [] := by
  intro wordless
  rw [wordless] at h
  cases h

/-- The words of a text with single blanks, joined again, are the text without a blank in front. -/
lemma joinWith_words (h : t.SingleBlanks) (last : ∀ c ∈ t.getLast?, isBlank c = false) :
    joinWith ' ' t.words = t.trimStart := by
  induction t with
  | nil => rfl
  | cons c t ih =>
    cases t with
    | nil =>
      have hc : isBlank c = false := last c rfl
      simp [words_singleton hc, joinWith, trimStart, hc]
    | cons d t =>
      have rest := ih (h.of_isInfix (List.suffix_cons c (d :: t)).isInfix) last
      by_cases hc : isBlank c = true
      · rw [words_blank hc, rest, trimStart, trimStart, List.dropWhile_cons_of_pos hc]
      · have kept : trimStart (c :: d :: t) = c :: d :: t := List.dropWhile_cons_of_neg hc
        rw [kept, words_solid (eq_false_of_ne_true hc)]
        by_cases hd : isBlank d = true
        · -- The blank stands alone, so the text behind it starts with a word.
          cases t with
          | nil => exact absurd (last d rfl) (ne_false_of_eq_true hd)
          | cons e t =>
            have pair := (List.isChain_cons_cons.mp (List.isChain_cons_cons.mp h.apart).2).1
            have he : ¬isBlank e = true := fun he => pair ⟨hd, he⟩
            have begins : trimStart (d :: e :: t) = e :: t := by
              rw [trimStart, List.dropWhile_cons_of_pos hd, List.dropWhile_cons_of_neg he]
            rw [begins] at rest
            obtain rfl : d = ' ' := h.spaces d (by simp) hd
            rw [if_neg (by simp [hd]), joinWith_cons (words_ne_nil rest), rest]
            rfl
        · have begins : trimStart (d :: t) = d :: t := List.dropWhile_cons_of_neg hd
          rw [begins] at rest
          rw [if_pos (by simp [hd]), joinWith_modifyHead (words_ne_nil rest), rest]

/-! ### Texts on one line -/

lemma singleBlanks_singleSpaced (t : Text) : t.singleSpaced.SingleBlanks :=
  (singleBlanks_squeeze t).of_isInfix (trim_isInfix _)

/-- A text is put on one line by joining its words. -/
lemma singleSpaced_eq_joinWith (t : Text) : t.singleSpaced = joinWith ' ' t.words := by
  have unpadded : t.singleSpaced.Unpadded := unpadded_trim _
  have words : t.singleSpaced.words = t.words := by
    rw [singleSpaced, words_trim, words_squeeze]
  rw [← words, joinWith_words (singleBlanks_singleSpaced t) unpadded.2,
    (trimStart_eq_self_iff _).mpr unpadded.1]

lemma singleSpaced_eq_self (h : t.SingleBlanks) (unpadded : t.Unpadded) : t.singleSpaced = t := by
  rw [singleSpaced_eq_joinWith, joinWith_words h unpadded.2,
    (trimStart_eq_self_iff t).mpr unpadded.1]

lemma singleSpaced_singleSpaced (t : Text) : t.singleSpaced.singleSpaced = t.singleSpaced :=
  singleSpaced_eq_self (singleBlanks_singleSpaced t) (unpadded_trim _)

/-! ### Texts cut to a width -/

lemma shorten_of_le {width : Int} (h : t.singleSpaced.length ≤ width) :
    t.shorten width = t.singleSpaced := if_pos h

lemma shorten_of_lt {width : Int} (h : width < t.singleSpaced.length) :
    t.shorten width = t.singleSpaced.take (width - 3).toNat ++ ellipsis :=
  if_neg (Int.not_le.mpr h)

lemma shorten_singleSpaced (t : Text) (width : Int) :
    t.singleSpaced.shorten width = t.shorten width := by
  rw [shorten, shorten, singleSpaced_singleSpaced]

lemma not_blank_of_mem_ellipsis (h : c ∈ ellipsis) : isBlank c = false := by
  obtain rfl : c = '.' := by simpa [ellipsis] using h
  decide

/-- Dots behind a text with single blanks add no blank. -/
lemma SingleBlanks.append_ellipsis (h : s.SingleBlanks) : SingleBlanks (s ++ ellipsis) := by
  constructor
  · intro c hc blank
    rcases List.mem_append.mp hc with hc | hc
    · exact h.spaces c hc blank
    · exact absurd blank (ne_true_of_eq_false (not_blank_of_mem_ellipsis hc))
  · refine List.isChain_append.mpr ⟨h.apart, by decide, ?_⟩
    rintro c - d hd ⟨-, blank⟩
    have dot := not_blank_of_mem_ellipsis (List.mem_of_mem_head? hd)
    exact absurd blank (ne_true_of_eq_false dot)

lemma unpadded_append_ellipsis (h : ∀ c ∈ s.head?, isBlank c = false) :
    Unpadded (s ++ ellipsis) := by
  constructor
  · intro c hc
    cases s with
    | nil => exact not_blank_of_mem_ellipsis (List.mem_of_mem_head? hc)
    | cons d s => exact h c hc
  · intro c hc
    rw [List.getLast?_append_of_ne_nil _ (by decide)] at hc
    exact not_blank_of_mem_ellipsis (List.mem_of_mem_getLast? hc)

/-- A line that was cut is on one line. -/
lemma singleSpaced_cut (t : Text) (n : Nat) :
    singleSpaced (t.singleSpaced.take n ++ ellipsis) = t.singleSpaced.take n ++ ellipsis := by
  have line := (singleBlanks_singleSpaced t).of_isInfix (List.take_prefix n _).isInfix
  apply singleSpaced_eq_self line.append_ellipsis
  apply unpadded_append_ellipsis
  intro c hc
  rw [List.head?_take] at hc
  split_ifs at hc
  · cases hc
  · exact (unpadded_trim (squeeze t)).1 c hc

lemma singleBlanks_shorten (t : Text) (width : Int) : (t.shorten width).SingleBlanks := by
  have line := singleBlanks_singleSpaced t
  rcases Int.lt_or_le width t.singleSpaced.length with long | fits
  · rw [shorten_of_lt long]
    exact (line.of_isInfix (List.take_prefix _ _).isInfix).append_ellipsis
  · rw [shorten_of_le fits]
    exact line

lemma length_ellipsis : ellipsis.length = 3 := rfl

lemma length_shorten_le (t : Text) (width : Int) :
    ((t.shorten width).length : Int) ≤ max width 3 := by
  rcases Int.lt_or_le width t.singleSpaced.length with long | fits
  · rw [shorten_of_lt long, List.length_append, List.length_take, length_ellipsis]
    omega
  · rw [shorten_of_le fits]
    omega

/-- Cutting to a width what was cut to a larger one comes to one cut. -/
lemma shorten_shorten (t : Text) {width wider : Int} (h : width ≤ wider) :
    (t.shorten wider).shorten width = t.shorten width := by
  rcases Int.lt_or_le wider t.singleSpaced.length with long | fits
  · have spaced := singleSpaced_cut t (wider - 3).toNat
    have kept : (t.singleSpaced.take (wider - 3).toNat).length = (wider - 3).toNat := by
      rw [List.length_take]
      omega
    have cut : (t.singleSpaced.take (wider - 3).toNat ++ ellipsis).length
        = (wider - 3).toNat + 3 := by
      rw [List.length_append, kept, length_ellipsis]
    rw [shorten_of_lt long, shorten_of_lt (Int.lt_of_le_of_lt h long)]
    rcases Int.lt_or_le width ((wider - 3).toNat + 3 : Nat) with narrow | same
    · -- The second cut falls into the part of the line that the first one kept.
      rw [shorten_of_lt (by rw [spaced, cut]; exact narrow), spaced,
        List.take_append_of_le_length (by omega), List.take_take, Nat.min_eq_left (by omega)]
    · -- Then both widths are the length of what the first cut left.
      have widths : width = wider := by omega
      rw [shorten_of_le (by rw [spaced, cut]; exact same), spaced, widths]
  · rw [shorten_of_le fits, shorten_singleSpaced]

end SymbolIndex.Text
