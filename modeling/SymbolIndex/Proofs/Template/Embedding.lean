import SymbolIndex.Proofs.Listing
import SymbolIndex.Proofs.Template.Parsing
import SymbolIndex.Proofs.Template.Shown

/-!
# Templates put together

Two templates that are joined show what each of them shows, unless the first ends in a percent sign
that is still open and makes a directive with the letter that the second starts with. A text whose
percent signs are doubled shows itself, so any text can be put into a template.
-/

namespace SymbolIndex

namespace Template

/-- The last token is a literal that ends in a percent sign. -/
def EndsOpen (a : Text) : Prop :=
  ∃ t, (parse a).getLast? = some (.literal t) ∧ t.getLast? = some '%'

/-- The first character is the letter of a directive. -/
def StartsWithLetter (b : Text) : Prop := ∃ d : Directive, b.head? = some d.letter

/-- The text with each percent sign doubled. -/
def escaped (t : Text) : Text := t.flatMap fun c => if c = '%' then ['%', '%'] else [c]

variable {p : Presentation}

/-! ### Rendering token by token -/

lemma render_directive_cons (d : Directive) (ts : List Token) :
    render p (.directive d :: ts) = do
      let ps ← d.pieces p
      let t ← render p ts
      return plainText ps ++ t := by
  simp [render, pieces, Token.pieces, plainText]

lemma render_literal_cons (t : Text) (ts : List Token) :
    render p (.literal t :: ts) = (t ++ ·) <$> render p ts := by
  simp [render, pieces, Token.pieces, plainText, Piece.plain]

lemma render_consLiteral (c : Char) (ts : List Token) :
    render p (consLiteral c ts) = (c :: ·) <$> render p ts := by
  cases ts with
  | nil => exact render_literal_cons [c] []
  | cons token ts =>
    cases token with
    | literal t => simp [consLiteral, render_literal_cons]
    | directive d => exact render_literal_cons [c] (.directive d :: ts)

/-! ### Joining -/

lemma endsOpen_directive_cons_iff (d : Directive) (r : Text) :
    EndsOpen ('%' :: d.letter :: r) ↔ EndsOpen r := by
  rw [EndsOpen, EndsOpen, parse_directive_append]
  cases parse r with
  | nil => simp
  | cons token ts => rw [List.getLast?_cons_cons]

/-- A literal character in front opens the end only if nothing follows it. -/
lemma endsOpen_cons_iff {c : Char} {r : Text}
    (inert : c = '%' → ∀ d : Directive, r.head? ≠ some d.letter) :
    EndsOpen (c :: r) ↔ EndsOpen r ∨ r = [] ∧ c = '%' := by
  have empty : r = [] ↔ parse r = [] := by
    constructor
    · rintro rfl
      rfl
    · intro none
      rw [← written_parse r, none]
      rfl
  have full := (canonical_parse r).nonempty
  rw [EndsOpen, EndsOpen, parse_cons inert, empty]
  match tokens : parse r with
  | [] => simp [consLiteral]
  | .directive d :: ts =>
    rw [consLiteral_of_apart (by simp), List.getLast?_cons_cons]
    simp
  | [.literal t] =>
    have ne_nil : t ≠ [] := by
      rintro rfl
      exact full (by simp [tokens])
    simp [consLiteral, List.getLast?_cons_of_ne_nil ne_nil]
  | .literal t :: token :: ts =>
    rw [consLiteral, List.getLast?_cons_cons, List.getLast?_cons_cons]
    simp

/-- Joined templates show what each shows, in order. -/
lemma render_parse_append {a b : Text} (h : ¬ (EndsOpen a ∧ StartsWithLetter b)) :
    render p (parse (a ++ b)) = do
      let u ← render p (parse a)
      let v ← render p (parse b)
      return u ++ v := by
  induction a using text_induction with
  | nil => simp [parse, render, pieces, plainText]
  | directive d r ih =>
    have closed : ¬ (EndsOpen r ∧ StartsWithLetter b) := fun both =>
      h ⟨(endsOpen_directive_cons_iff d r).mpr both.1, both.2⟩
    rw [List.cons_append, List.cons_append, parse_directive_append, parse_directive_append,
      render_directive_cons, render_directive_cons, ih closed]
    simp
  | literal c r inert ih =>
    have closed : ¬ (EndsOpen r ∧ StartsWithLetter b) := fun both =>
      h ⟨(endsOpen_cons_iff inert).mpr (.inl both.1), both.2⟩
    have inert' : c = '%' → ∀ d : Directive, (r ++ b).head? ≠ some d.letter := by
      rintro rfl d first
      cases r with
      | nil => exact h ⟨(endsOpen_cons_iff inert).mpr (.inr ⟨rfl, rfl⟩), d, first⟩
      | cons x r => exact inert rfl d first
    rw [List.cons_append, parse_cons inert', parse_cons inert, render_consLiteral,
      render_consLiteral, ih closed]
    simp

/-! ### Texts in templates -/

lemma escaped_cons {c : Char} (h : c ≠ '%') (t : Text) : escaped (c :: t) = c :: escaped t := by
  simp [escaped, h]

lemma parse_escaped_percent (t : Text) :
    parse (escaped ('%' :: t)) = .directive .percent :: parse (escaped t) :=
  parse_directive_append .percent (escaped t)

lemma render_parse_escaped (t : Text) : render p (parse (escaped t)) = .done t := by
  induction t with
  | nil => rfl
  | cons c t ih =>
    by_cases percent : c = '%'
    · subst percent
      rw [parse_escaped_percent, render_directive_cons, ih]
      rfl
    · rw [escaped_cons percent, parse_cons (absurd · percent), render_consLiteral, ih]
      rfl

lemma not_endsOpen_escaped (t : Text) : ¬ EndsOpen (escaped t) := by
  induction t with
  | nil =>
    rintro ⟨t, last, -⟩
    cases last
  | cons c t ih =>
    by_cases percent : c = '%'
    · subst percent
      have same := endsOpen_directive_cons_iff .percent (escaped t)
      exact fun ends => ih (same.mp ends)
    · rw [escaped_cons percent, endsOpen_cons_iff (absurd · percent)]
      rintro (ends | ⟨-, same⟩)
      · exact ih ends
      · exact percent same

lemma head?_escaped_append (t b : Text) : (escaped t ++ b).head? = (t ++ b).head? := by
  cases t with
  | nil => rfl
  | cons c t =>
    by_cases percent : c = '%'
    · subst percent
      rfl
    · rw [escaped_cons percent]
      rfl

lemma render_parse_inert {t : Text} (h : ∀ d : Directive, ¬ ['%', d.letter] <:+: t) :
    render p (parse t) = .done t := by
  by_cases empty : t = []
  · subst empty
    rfl
  · have read := parse_literal_append (r := []) empty h (absurd rfl) (by simp [parse])
    rw [List.append_nil] at read
    rw [read, parse, render_literal_cons]
    simp [render, pieces, plainText]

end Template

open Template

namespace Entry

variable (p : Presentation) {e : Entry}

lemma exists_shown (sound : e.Sound) (template : Text) : ∃ t, e.shown p template = .ok t := by
  have answered : ∀ d, .directive d ∈ parse template → d.Answered e := fun d _ => sound.answered d
  obtain ⟨ps, given⟩ := succeeds_pieces p answered
  exact ⟨plainText ps, render_of_pieces given⟩

lemma shown_append {a b u v : Text} (first : e.shown p a = .ok u) (second : e.shown p b = .ok v)
    (apart : ¬ (EndsOpen a ∧ StartsWithLetter b)) : e.shown p (a ++ b) = .ok (u ++ v) := by
  rw [shown, Reading.on_fst] at first second ⊢
  rw [render_parse_append apart, Reading.outcome_bind_of_ok first,
    Reading.outcome_bind_of_ok second]
  rfl

lemma shown_escaped (e : Entry) (t : Text) : e.shown p (escaped t) = .ok t := by
  rw [shown, Reading.on_fst, render_parse_escaped]
  rfl

/-- Joined templates show what each of them shows, unless a percent sign at the end of the first
makes a directive with the second. A text with doubled percent signs shows itself, as does a text
in which no percent sign makes a directive, and so any text can stand between two templates. -/
theorem shown_append_escaped (sound : e.Sound) :
    (∀ a b, ¬ (EndsOpen a ∧ StartsWithLetter b) →
      ∃ u v, e.shown p a = .ok u ∧ e.shown p b = .ok v ∧ e.shown p (a ++ b) = .ok (u ++ v)) ∧
    (∀ t, e.shown p (escaped t) = .ok t) ∧
    (∀ t, (∀ d : Directive, ¬ ['%', d.letter] <:+: t) → e.shown p t = .ok t) ∧
    ∀ a t b, ¬ (EndsOpen a ∧ StartsWithLetter (t ++ b)) →
      ∃ u v, e.shown p a = .ok u ∧ e.shown p b = .ok v ∧
        e.shown p (a ++ escaped t ++ b) = .ok (u ++ t ++ v) := by
  refine ⟨?_, shown_escaped p e, ?_, ?_⟩
  · intro a b apart
    obtain ⟨u, first⟩ := exists_shown p sound a
    obtain ⟨v, second⟩ := exists_shown p sound b
    exact ⟨u, v, first, second, shown_append p first second apart⟩
  · intro t inert
    rw [shown, Reading.on_fst, render_parse_inert inert]
    rfl
  · intro a t b apart
    obtain ⟨u, first⟩ := exists_shown p sound a
    obtain ⟨v, second⟩ := exists_shown p sound b
    have rest : e.shown p (escaped t ++ b) = .ok (t ++ v) :=
      shown_append p (shown_escaped p e t) second fun both => not_endsOpen_escaped t both.1
    have apart' : ¬ (EndsOpen a ∧ StartsWithLetter (escaped t ++ b)) := by
      rwa [StartsWithLetter, head?_escaped_append]
    refine ⟨u, v, first, second, ?_⟩
    rw [List.append_assoc, List.append_assoc]
    exact shown_append p first rest apart'

/-- A type that is reached through an opened module, of which nothing is computed yet. -/
def openedType : Entry where
  path := ["List".toList, "t".toList]
  kind := ⟨.type, none, rfl⟩
  artifact := []
  signature := none
  access := ["t".toList]
  path_ne_nil := List.cons_ne_nil _ _
  signature_keyword := nofun
  typeCell := .lazy fun _ => .ok (some "'a list".toList)
  docCell := .lazy fun _ => .ok none
  implCell := .lazy fun _ => .ok none

theorem shown_append_escaped_openedType :
    openedType.Sound ∧
      ¬ (EndsOpen "%%q%".toList ∧ StartsWithLetter " %q".toList) ∧
      (∃ u v, openedType.shown ⟨false, none, 60⟩ "%%q%".toList = .ok u ∧
        openedType.shown ⟨false, none, 60⟩ " %q".toList = .ok v ∧
        openedType.shown ⟨false, none, 60⟩ "%%q% %q".toList = .ok (u ++ v)) ∧
      openedType.shown ⟨false, none, 60⟩ "%%q% %q".toList = .ok "%q% t".toList ∧
      openedType.shown ⟨false, none, 60⟩ "50% off%".toList = .ok "50% off%".toList := by
  have sound : openedType.Sound := ⟨⟨_, rfl⟩, ⟨_, rfl⟩, ⟨_, rfl⟩⟩
  have apart : ¬ (EndsOpen "%%q%".toList ∧ StartsWithLetter " %q".toList) := by
    rintro ⟨-, d, first⟩
    cases d <;> cases first
  have inert : ∀ d : Directive, ¬ ['%', d.letter] <:+: "50% off%".toList := by
    intro d
    cases d <;> decide
  obtain ⟨joined, -, same, -⟩ := shown_append_escaped ⟨false, none, 60⟩ sound
  exact ⟨sound, apart, joined _ _ apart, rfl, same _ inert⟩

end Entry

end SymbolIndex
