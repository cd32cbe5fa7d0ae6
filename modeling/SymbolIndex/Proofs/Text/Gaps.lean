import Mathlib.Data.List.Forall2
import Mathlib.Tactic.Lemma
import SymbolIndex.Proofs.Text.Dotted
import SymbolIndex.Proofs.Text.Margin

/-!
# Solid characters and the gaps between them

A text is a row of solid characters with runs of blanks before, between and behind them; a run
between two neighbours is a gap. A text is respaced when its solid characters stay, each gap
without a line break stays as it is and each other one keeps its number of line breaks. Taking
blanks off the ends of lines respaces a text.
-/

namespace SymbolIndex.Text

/-! ### Solid characters and gaps -/

/-- The characters that are not blank. -/
def solids (t : Text) : Text := t.filter fun c => !isBlank c

/-- The runs of blanks before the first solid character, between neighbours and behind the last
one. -/
def blankRuns (t : Text) : List Text := t.splitOnP fun c => !isBlank c

/-- The runs of blanks between neighbouring solid characters. -/
def gaps (t : Text) : List Text := t.blankRuns.tail.dropLast

/-- All characters are blank. -/
def Blank (t : Text) : Prop := ∀ c ∈ t, isBlank c = true

/-- A text is blank, or it starts with blanks and a solid character. -/
@[elab_as_elim]
lemma solid_induction {motive : Text → Prop} (blank : ∀ g, Blank g → motive g)
    (solid : ∀ g c r, Blank g → isBlank c = false → motive r → motive (g ++ c :: r)) (t : Text) :
    motive t := by
  have lead : Blank (t.takeWhile isBlank) := fun c hc => List.mem_takeWhile_imp hc
  have parts := List.takeWhile_append_dropWhile (p := isBlank) (l := t)
  match rest : t.dropWhile isBlank with
  | [] =>
    rw [rest, List.append_nil] at parts
    rw [← parts]
    exact blank _ lead
  | c :: r =>
    have shorter : r.length < t.length := by
      have := congrArg List.length parts
      rw [rest, List.length_append, List.length_cons] at this
      omega
    have first := List.head?_dropWhile_not isBlank t
    rw [rest] at parts first
    rw [← parts]
    exact solid _ c r lead (by simpa using first) (solid_induction blank solid r)
termination_by t.length

section

variable {g s lead trail : Text} {c : Char}

lemma blank_nil : Blank [] := List.forall_mem_nil _

lemma blank_newline : Blank ['\n'] := List.forall_mem_singleton.mpr (by decide)

lemma Blank.append {g h : Text} (hg : Blank g) (hh : Blank h) : Blank (g ++ h) :=
  List.forall_mem_append.mpr ⟨hg, hh⟩

lemma Blank.solids (h : Blank g) : g.solids = [] := by
  rw [Text.solids, List.filter_eq_nil_iff]
  intro c hc
  simp [h c hc]

lemma Blank.blankRuns (h : Blank g) : g.blankRuns = [g] :=
  List.splitOnP_eq_singleton fun c hc => by simp [h c hc]

lemma solids_solid (hg : Blank g) (hc : isBlank c = false) (s : Text) :
    solids (g ++ c :: s) = c :: s.solids := by
  have first := hg.solids
  simp only [solids] at first ⊢
  simp [first, hc]

lemma blankRuns_solid (hg : Blank g) (hc : isBlank c = false) (s : Text) :
    blankRuns (g ++ c :: s) = g :: s.blankRuns :=
  List.splitOnP_append_cons_of_forall_mem (fun d hd => by simp [hg d hd]) c (by simp [hc]) s

lemma blankRuns_ne_nil (s : Text) : s.blankRuns ≠ [] := List.splitOnP_ne_nil _ s

lemma dropLast_blankRuns_solid (hg : Blank g) (hc : isBlank c = false) (s : Text) :
    (blankRuns (g ++ c :: s)).dropLast = g :: s.blankRuns.dropLast := by
  rw [blankRuns_solid hg hc, List.dropLast_cons_of_ne_nil s.blankRuns_ne_nil]

lemma gaps_solid (hg : Blank g) (hc : isBlank c = false) (s : Text) :
    gaps (g ++ c :: s) = s.blankRuns.dropLast := by
  rw [gaps, blankRuns_solid hg hc, List.tail_cons]

lemma solids_eq_nil_iff {t : Text} : t.solids = [] ↔ t.allBlank = true := by
  simp [solids, allBlank, List.filter_eq_nil_iff]

/-! ### Blanks at the ends -/

lemma solids_padded (hl : Blank lead) (ht : Blank trail) (s : Text) :
    solids (lead ++ s ++ trail) = s.solids := by
  have first := hl.solids
  have last := ht.solids
  simp only [solids] at first last ⊢
  simp [first, last]

lemma dropLast_blankRuns_append (ht : Blank trail) (s : Text) :
    (blankRuns (s ++ trail)).dropLast = s.blankRuns.dropLast := by
  induction s using solid_induction with
  | blank g hg => rw [(hg.append ht).blankRuns, hg.blankRuns]; rfl
  | solid g c r hg hc ih =>
    rw [List.append_assoc, List.cons_append, dropLast_blankRuns_solid hg hc,
      dropLast_blankRuns_solid hg hc, ih]

/-- Blanks at the ends of a text stand in no gap. -/
lemma gaps_padded (hl : Blank lead) (ht : Blank trail) (s : Text) :
    gaps (lead ++ s ++ trail) = s.gaps := by
  induction s using solid_induction with
  | blank g hg =>
    rw [gaps, gaps, ((hl.append hg).append ht).blankRuns, hg.blankRuns]
    rfl
  | solid g c r hg hc _ =>
    have parts : lead ++ (g ++ c :: r) ++ trail = (lead ++ g) ++ c :: (r ++ trail) := by simp
    rw [parts, gaps_solid (hl.append hg) hc, gaps_solid hg hc, dropLast_blankRuns_append ht]

end

lemma solids_trim (t : Text) : t.trim.solids = t.solids := by
  obtain ⟨lead, trail, parts, blankLead, blankTrail⟩ := t.exists_blanks_trim
  have padded := solids_padded blankLead blankTrail t.trim
  rwa [← parts, eq_comm] at padded

lemma gaps_trim (t : Text) : t.trim.gaps = t.gaps := by
  obtain ⟨lead, trail, parts, blankLead, blankTrail⟩ := t.exists_blanks_trim
  have padded := gaps_padded blankLead blankTrail t.trim
  rwa [← parts, eq_comm] at padded

/-! ### Respacing -/

/-- As many line breaks stand in both texts. -/
def SameBreaks (g g' : Text) : Prop := g'.count '\n' = g.count '\n'

/-- A gap without a line break is the same, and another one has as many line breaks. -/
def KeepsGap (g g' : Text) : Prop := SameBreaks g g' ∧ ('\n' ∉ g → g' = g)

lemma sameBreaks_append {lead : Text} (h : '\n' ∉ lead) (g : Text) : SameBreaks (lead ++ g) g := by
  rw [SameBreaks, List.count_append, List.count_eq_zero_of_not_mem h, Nat.zero_add]

lemma KeepsGap.refl (g : Text) : KeepsGap g g := ⟨rfl, fun _ => rfl⟩

/-- The second text is the first one respaced, also at the ends, where only the number of line
breaks counts. The blanks before the first solid character are in the relation `R`. -/
inductive Respaced : (Text → Text → Prop) → Text → Text → Prop
  | blank {R : Text → Text → Prop} {g g' : Text} (hg : Blank g) (hg' : Blank g')
      (breaks : SameBreaks g g') : Respaced R g g'
  | solid {R : Text → Text → Prop} {g g' s s' : Text} {c : Char} (hg : Blank g) (hg' : Blank g')
      (first : R g g') (hc : isBlank c = false) (rest : Respaced KeepsGap s s') :
      Respaced R (g ++ c :: s) (g' ++ c :: s')

namespace Respaced

variable {R : Text → Text → Prop} {s s' u u' : Text}

lemma solids (h : Respaced R s s') : s'.solids = s.solids := by
  induction h with
  | blank hg hg' _ => rw [hg.solids, hg'.solids]
  | solid hg hg' _ hc _ ih => rw [solids_solid hg hc, solids_solid hg' hc, ih]

lemma dropLast_blankRuns (h : Respaced KeepsGap s s') :
    List.Forall₂ KeepsGap s.blankRuns.dropLast s'.blankRuns.dropLast := by
  generalize keeps : KeepsGap = R at h
  induction h with
  | blank hg hg' _ =>
    rw [hg.blankRuns, hg'.blankRuns]
    exact .nil
  | solid hg hg' first hc _ ih =>
    subst keeps
    rw [dropLast_blankRuns_solid hg hc, dropLast_blankRuns_solid hg' hc]
    exact .cons first (ih rfl)

lemma gaps (h : Respaced R s s') : List.Forall₂ KeepsGap s.gaps s'.gaps := by
  cases h with
  | blank hg hg' _ =>
    rw [Text.gaps, Text.gaps, hg.blankRuns, hg'.blankRuns]
    exact .nil
  | solid hg hg' _ hc rest =>
    rw [gaps_solid hg hc, gaps_solid hg' hc]
    exact rest.dropLast_blankRuns

/-- Blanks without a line break may be taken off the ends of a text. -/
lemma of_padded {lead trail : Text} (hl : Blank lead) (ht : Blank trail) (hl' : '\n' ∉ lead)
    (ht' : '\n' ∉ trail) (hR : ∀ g, R (lead ++ g) g) (s : Text) :
    Respaced R (lead ++ s ++ trail) s := by
  induction s using solid_induction generalizing lead R with
  | blank g hg =>
    refine .blank ((hl.append hg).append ht) hg ?_
    rw [SameBreaks, List.count_append, List.count_append, List.count_eq_zero_of_not_mem hl',
      List.count_eq_zero_of_not_mem ht', Nat.zero_add, Nat.add_zero]
  | solid g c r hg hc ih =>
    have parts : lead ++ (g ++ c :: r) ++ trail = (lead ++ g) ++ c :: (r ++ trail) := by simp
    rw [parts]
    refine .solid (hl.append hg) hg (hR g) hc ?_
    exact ih blank_nil List.not_mem_nil KeepsGap.refl

/-- Texts may be respaced on both sides of a line break. -/
lemma newline (h : Respaced R s s') (h' : Respaced SameBreaks u u')
    (hR : ∀ g g', SameBreaks g g' → '\n' ∈ g → R g g') :
    Respaced R (s ++ '\n' :: u) (s' ++ '\n' :: u') := by
  have joined : ∀ {g g' v v'}, SameBreaks g g' → SameBreaks v v' →
      SameBreaks (g ++ '\n' :: v) (g' ++ '\n' :: v') := by
    intro g g' v v' hg hv
    simp only [SameBreaks, List.count_append, List.count_cons_self] at hg hv ⊢
    omega
  induction h with
  | blank hg hg' breaks =>
    cases h' with
    | blank hv hv' breaks' =>
      exact .blank (hg.append (blank_newline.append hv)) (hg'.append (blank_newline.append hv'))
        (joined breaks breaks')
    | @solid _ v v' t t' c hv hv' breaks' hc rest =>
      rw [← List.cons_append, ← List.cons_append, ← List.append_assoc, ← List.append_assoc]
      exact .solid (hg.append (blank_newline.append hv)) (hg'.append (blank_newline.append hv'))
        (hR _ _ (joined breaks breaks') (by simp)) hc rest
  | @solid R g g' t t' c hg hg' first hc _ ih =>
    rw [List.append_assoc, List.append_assoc, List.cons_append, List.cons_append]
    exact .solid hg hg' first hc (ih fun v v' breaks broken => ⟨breaks, (absurd broken ·)⟩)

lemma unlines {ls ls' : List Text} (h : List.Forall₂ (Respaced SameBreaks) ls ls') :
    Respaced SameBreaks (unlines ls) (unlines ls') := by
  induction h with
  | nil => exact .blank blank_nil blank_nil rfl
  | cons first rest ih =>
    cases rest with
    | nil => rwa [unlines_singleton, unlines_singleton]
    | cons second rest =>
      rw [unlines_cons_cons, unlines_cons_cons]
      exact first.newline ih fun _ _ breaks _ => breaks

end Respaced

end SymbolIndex.Text
