import Mathlib.Data.List.Infix
import Mathlib.Tactic.Lemma
import Mathlib.Tactic.MkIffOfInductiveProp
import SymbolIndex.Template.Basic

/-!
# Reading templates

Reading a template loses nothing, and it gives canonical tokens: literals that are as long as they
can be and in which no directive hides. Canonical tokens are those that are read back from what
they are written as.
-/

namespace SymbolIndex.Template

/-- Tokens with a literal between any two directives at most, none of which is empty, holds a
directive or makes one with what follows it. -/
@[mk_iff]
structure Canonical (ts : List Token) : Prop where
  nonempty : .literal [] ∉ ts
  apart : ∀ t u, ¬ [.literal t, .literal u] <:+: ts
  inert : ∀ t, .literal t ∈ ts → ∀ d : Directive, ¬ ['%', d.letter] <:+: t
  closed : ∀ t, .literal t ∈ ts.dropLast → t.getLast? ≠ some '%'

/-! ### Canonical tokens, one by one -/

lemma canonical_nil : Canonical [] := by
  constructor <;> simp

lemma canonical_directive_cons_iff {d : Directive} {ts : List Token} :
    Canonical (.directive d :: ts) ↔ Canonical ts := by
  have infixes : ∀ t u, [.literal t, .literal u] <:+: .directive d :: ts ↔
      [.literal t, .literal u] <:+: ts := by
    simp [List.infix_cons_iff]
  have others : ∀ t, .literal t ∈ (.directive d :: ts).dropLast ↔ .literal t ∈ ts.dropLast := by
    intro t
    cases ts <;> simp
  rw [canonical_iff, canonical_iff]
  simp only [infixes, others]
  simp

lemma canonical_literal_cons_iff {t : Text} {ts : List Token} :
    Canonical (.literal t :: ts) ↔
      t ≠ [] ∧ (∀ u, ts.head? ≠ some (.literal u)) ∧ (∀ d : Directive, ¬ ['%', d.letter] <:+: t) ∧
        (ts ≠ [] → t.getLast? ≠ some '%') ∧ Canonical ts := by
  have full : .literal [] ∉ .literal t :: ts ↔ t ≠ [] ∧ .literal [] ∉ ts := by
    simp [eq_comm]
  have apart : (∀ u v, ¬ [.literal u, .literal v] <:+: .literal t :: ts) ↔
      (∀ u, ts.head? ≠ some (.literal u)) ∧ ∀ u v, ¬ [.literal u, .literal v] <:+: ts := by
    have first : ∀ v, [.literal v] <+: ts ↔ ts.head? = some (.literal v) := by
      intro v
      cases ts <;> simp [eq_comm]
    have here : (∀ u v, ¬ (Token.literal u = .literal t ∧ ts.head? = some (.literal v))) ↔
        ∀ v, ts.head? ≠ some (.literal v) :=
      ⟨fun h v next => h t v ⟨rfl, next⟩, fun h u v next => h v next.2⟩
    simp only [List.infix_cons_iff, List.cons_prefix_cons, first, not_or, forall_and, here]
  have inert : (∀ u, .literal u ∈ .literal t :: ts → ∀ d : Directive, ¬ ['%', d.letter] <:+: u) ↔
      (∀ d : Directive, ¬ ['%', d.letter] <:+: t) ∧
        ∀ u, .literal u ∈ ts → ∀ d : Directive, ¬ ['%', d.letter] <:+: u := by
    simp
  have closed : (∀ u, .literal u ∈ (.literal t :: ts).dropLast → u.getLast? ≠ some '%') ↔
      (ts ≠ [] → t.getLast? ≠ some '%') ∧
        ∀ u, .literal u ∈ ts.dropLast → u.getLast? ≠ some '%' := by
    cases ts <;> simp
  rw [canonical_iff, canonical_iff, full, apart, inert, closed]
  constructor
  · rintro ⟨⟨first, nonempty⟩, ⟨next, apart⟩, ⟨free, inert⟩, last, closed⟩
    exact ⟨first, next, free, last, nonempty, apart, inert, closed⟩
  · rintro ⟨first, next, free, last, nonempty, apart, inert, closed⟩
    exact ⟨⟨first, nonempty⟩, ⟨next, apart⟩, ⟨free, inert⟩, last, closed⟩

/-! ### Reading character by character -/

lemma parse_directive_append (d : Directive) (r : Text) :
    parse ('%' :: d.letter :: r) = .directive d :: parse r := by
  simp [parse, d.ofLetter?_letter]

/-- A character that opens no directive is literal. -/
lemma parse_cons {c : Char} {r : Text}
    (inert : c = '%' → ∀ d : Directive, r.head? ≠ some d.letter) :
    parse (c :: r) = consLiteral c (parse r) := by
  cases r with
  | nil => rfl
  | cons x r =>
    rw [parse]
    split
    · next percent =>
      cases found : Directive.ofLetter? x with
      | none => rfl
      | some d =>
        have letter := Directive.letter_of_ofLetter? found
        exact absurd (congrArg some letter.symm) (inert percent d)
    · rfl

/-- A template is empty, or it starts with a directive, or with a character that opens none. -/
@[elab_as_elim]
lemma text_induction {motive : Text → Prop} (nil : motive [])
    (directive : ∀ (d : Directive) r, motive r → motive ('%' :: d.letter :: r))
    (literal : ∀ c r, (c = '%' → ∀ d : Directive, r.head? ≠ some d.letter) → motive r →
      motive (c :: r)) (t : Text) : motive t := by
  match t with
  | [] => exact nil
  | c :: r =>
    by_cases opens : c = '%' ∧ ∃ d : Directive, r.head? = some d.letter
    · obtain ⟨rfl, d, first⟩ := opens
      obtain ⟨r, rfl⟩ := List.head?_eq_some_iff.mp first
      exact directive d r (text_induction nil directive literal r)
    · refine literal c r ?_ (text_induction nil directive literal r)
      intro percent d first
      exact opens ⟨percent, d, first⟩
termination_by t.length

lemma written_consLiteral (c : Char) (ts : List Token) :
    written (consLiteral c ts) = c :: written ts := by
  cases ts with
  | nil => rfl
  | cons t ts => cases t <;> rfl

/-! ### From templates to tokens -/

/-- A literal character can be put in front unless it makes a directive with what follows. -/
lemma Canonical.consLiteral {c : Char} {ts : List Token} (h : Canonical ts)
    (inert : c = '%' → ∀ d : Directive, (written ts).head? ≠ some d.letter) :
    Canonical (consLiteral c ts) := by
  cases ts with
  | nil =>
    refine canonical_literal_cons_iff.mpr ⟨by simp, by simp, ?_, by simp, canonical_nil⟩
    intro d hidden
    simpa using hidden.length_le
  | cons token ts =>
    cases token with
    | directive d =>
      refine canonical_literal_cons_iff.mpr ⟨by simp, by simp, ?_, ?_, h⟩
      · intro d' hidden
        simpa using hidden.length_le
      · rintro - percent
        exact inert (by simpa using percent) .percent rfl
    | literal t =>
      obtain ⟨full, apart, free, closed, rest⟩ := canonical_literal_cons_iff.mp h
      refine canonical_literal_cons_iff.mpr ⟨by simp, apart, ?_, ?_, rest⟩
      · intro d hidden
        rcases List.infix_cons_iff.mp hidden with first | later
        · obtain ⟨rfl, start⟩ := List.cons_prefix_cons.mp first
          obtain ⟨r, rfl⟩ := start
          exact inert rfl d rfl
        · exact free d later
      · rwa [List.getLast?_cons_of_ne_nil full]

lemma written_parse (t : Text) : written (parse t) = t := by
  induction t using text_induction with
  | nil => rfl
  | directive d r ih =>
    rw [parse_directive_append]
    exact congrArg (['%', d.letter] ++ ·) ih
  | literal c r inert ih => rw [parse_cons inert, written_consLiteral, ih]

lemma canonical_parse (t : Text) : Canonical (parse t) := by
  induction t using text_induction with
  | nil => exact canonical_nil
  | directive d r ih =>
    rw [parse_directive_append]
    exact canonical_directive_cons_iff.mpr ih
  | literal c r inert ih =>
    rw [parse_cons inert]
    apply ih.consLiteral
    rwa [written_parse]

/-! ### From tokens to templates -/

lemma consLiteral_of_apart {ts : List Token} (apart : ∀ u, ts.head? ≠ some (.literal u))
    (c : Char) : consLiteral c ts = .literal [c] :: ts := by
  cases ts with
  | nil => rfl
  | cons token ts =>
    cases token with
    | directive d => rfl
    | literal t => exact absurd rfl (apart t)

/-- A literal is read as such where nothing that follows adds to it. -/
lemma parse_literal_append {t r : Text} (full : t ≠ [])
    (free : ∀ d : Directive, ¬ ['%', d.letter] <:+: t) (closed : r ≠ [] → t.getLast? ≠ some '%')
    (apart : ∀ u, (parse r).head? ≠ some (.literal u)) :
    parse (t ++ r) = .literal t :: parse r := by
  induction t with
  | nil => exact absurd rfl full
  | cons c t ih =>
    cases t with
    | nil =>
      have inert : c = '%' → ∀ d : Directive, r.head? ≠ some d.letter := by
        rintro rfl d first
        refine closed ?_ rfl
        rintro rfl
        cases first
      rw [List.singleton_append, parse_cons inert, consLiteral_of_apart apart]
    | cons x t =>
      have inert : c = '%' → ∀ d : Directive, (x :: t ++ r).head? ≠ some d.letter := by
        rintro rfl d ⟨⟩
        exact free d ⟨[], t, rfl⟩
      have tail : parse (x :: t ++ r) = .literal (x :: t) :: parse r := by
        refine ih (List.cons_ne_nil x t) ?_ ?_
        · intro d hidden
          exact free d (List.infix_cons hidden)
        · rwa [List.getLast?_cons_cons] at closed
      rw [List.cons_append, parse_cons inert, tail]
      rfl

lemma parse_written {ts : List Token} (h : Canonical ts) : parse (written ts) = ts := by
  induction ts with
  | nil => rfl
  | cons token ts ih =>
    cases token with
    | directive d =>
      rw [written, List.flatMap_cons]
      exact (parse_directive_append d _).trans
        (congrArg _ (ih (canonical_directive_cons_iff.mp h)))
    | literal t =>
      obtain ⟨full, apart, free, closed, rest⟩ := canonical_literal_cons_iff.mp h
      have tail := ih rest
      rw [written, List.flatMap_cons]
      refine (parse_literal_append full free ?_ ?_).trans (congrArg _ tail)
      · intro more
        apply closed
        rintro rfl
        exact more rfl
      · rw [← written, tail]
        exact apart

/-- Writing the tokens of a template gives the template back. The tokens are canonical, and the
tokens that are read back when they are written are those that are. -/
theorem parse_written_iff_canonical (template : Text) :
    written (parse template) = template ∧ Canonical (parse template) ∧
      ∀ ts, parse (written ts) = ts ↔ Canonical ts := by
  refine ⟨written_parse template, canonical_parse template, ?_⟩
  intro ts
  constructor
  · intro back
    rw [← back]
    exact canonical_parse (written ts)
  · exact parse_written

end SymbolIndex.Template
