import SymbolIndex.Proofs.Sexp.Literal

/-!
# What reads as a literal

Every text is a row of pieces up to a place where no piece begins: the end of the text, a quote, or
a backslash. That place decides how the text reads as a literal. `Unquotes` lists the ways, with
the offset of what is wrong where there is a fault.
-/

namespace SymbolIndex.Sexp

/-- No piece of a literal begins the text. -/
def Stuck (r : Text) : Prop := ∀ s c, Denotes s c → ¬ s <+: r

/-- How a text with no blanks around it reads as a literal: what it denotes, or the first fault from
the left. -/
inductive Unquotes : Text → Except Fault Text → Prop
  | closed {s v : Text} (body : DenotesAll s v) : Unquotes ('"' :: s ++ ['"']) (.ok v)
  | noOpeningQuote {t : Text} (h : t.head? ≠ some '"') : Unquotes t (.error .noOpeningQuote)
  | badEscape {s v r : Text} {e : Char} (body : DenotesAll s v) (stuck : Stuck ('\\' :: e :: r)) :
      Unquotes ('"' :: s ++ '\\' :: e :: r) (.error (.badEscape e (s.length + 1)))
  | unterminated {s v : Text} (body : DenotesAll s v) :
      Unquotes ('"' :: s) (.error (.unterminated 0))
  | endsInBackslash {s v : Text} (body : DenotesAll s v) :
      Unquotes ('"' :: s ++ ['\\']) (.error (.unterminated 0))
  | trailingText {s v r : Text} (body : DenotesAll s v) (more : r ≠ []) :
      Unquotes ('"' :: s ++ '"' :: r) (.error (.trailingText (s.length + 2)))

/-! ### Where no piece begins -/

lemma Denotes.length_pos {s : Text} {c : Char} (h : Denotes s c) : 0 < s.length := by
  cases h <;> simp

/-- Every text is a row of pieces and a rest that no piece begins. -/
lemma exists_denotesAll (t : Text) : ∃ s v r, t = s ++ r ∧ DenotesAll s v ∧ Stuck r := by
  by_cases piece : ∃ s c, Denotes s c ∧ s <+: t
  · obtain ⟨s, c, first, t, rfl⟩ := piece
    have shorter : t.length < (s ++ t).length := by
      have := first.length_pos
      rw [List.length_append]
      omega
    obtain ⟨s', v, r, rfl, body, stuck⟩ := exists_denotesAll t
    exact ⟨s ++ s', c :: v, r, (List.append_assoc s s' r).symm, .cons first body, stuck⟩
  · refine ⟨[], [], t, rfl, .nil, ?_⟩
    intro s c first start
    exact piece ⟨s, c, first, start⟩
termination_by t.length

/-- No piece begins the end of a text, a quote, and what a backslash makes no escape with. -/
lemma Stuck.cases {r : Text} (h : Stuck r) :
    r = [] ∨ (∃ r', r = '"' :: r') ∨ r = ['\\'] ∨ ∃ e r', r = '\\' :: e :: r' := by
  match r with
  | [] => simp
  | c :: r =>
    by_cases quote : c = '"'
    · simp [quote]
    by_cases backslash : c = '\\'
    · cases r <;> simp [backslash]
    · exact absurd ⟨r, rfl⟩ (h [c] c (.bare quote backslash))

/-! ### Backslashes that start no escape -/

lemma eq_digitChar_of_octalDigit? {c : Char} {x : Nat} (h : octalDigit? c = some x) :
    x < 8 ∧ c = x.digitChar := by
  have digit : ∀ d < 8, Char.ofNat (48 + d) = d.digitChar := by decide
  unfold octalDigit? at h
  split at h
  · next bounds =>
    obtain ⟨low, high⟩ := bounds
    obtain rfl := Option.some.inj h
    have least : 48 ≤ c.toNat := low
    have most : c.toNat ≤ 55 := high
    have small : c.toNat - 48 < 8 := by omega
    have back : 48 + (c.toNat - 48) = c.toNat := by omega
    have same := digit _ small
    rw [back, Char.ofNat_toNat] at same
    exact ⟨small, same⟩
  · cases h

lemma denotes_of_octal? {a b c d : Char} (h : octal? a b c = some d) :
    Denotes ['\\', a, b, c] d := by
  unfold octal? at h
  split at h
  · next x y z first second third =>
    obtain ⟨hx, rfl⟩ := eq_digitChar_of_octalDigit? first
    obtain ⟨hy, rfl⟩ := eq_digitChar_of_octalDigit? second
    obtain ⟨hz, rfl⟩ := eq_digitChar_of_octalDigit? third
    have value : (x * 8 + y) * 8 + z = 64 * x + 8 * y + z := by omega
    rw [value] at h
    obtain rfl := Option.some.inj h
    exact .octal hx hy hz
  · cases h

lemma readBody_of_stuck {e : Char} {r : Text} (h : Stuck ('\\' :: e :: r)) (start i : Nat) :
    readBody start i ('\\' :: e :: r) = .error (.badEscape e i) := by
  have noLetter : unescape? e = none := by
    cases letter : unescape? e with
    | none => rfl
    | some c =>
      have piece := Denotes.letter (mem_escapeLetters_iff.mpr letter)
      exact absurd ⟨r, rfl⟩ (h _ c piece)
  have noNumber : ∀ f g r', r = f :: g :: r' → octal? e f g = none := by
    rintro f g r' rfl
    cases number : octal? e f g with
    | none => rfl
    | some c => exact absurd ⟨r', rfl⟩ (h _ c (denotes_of_octal? number))
  rw [readBody.eq_def]
  rcases r with _ | ⟨f, _ | ⟨g, r⟩⟩
  · simp [noLetter]
  · simp [noLetter]
  · simp [noLetter, noNumber f g r rfl]

/-! ### Reading a literal -/

/-- A body that runs into the end of the text has no closing quote. -/
lemma readBody_unterminated {s v : Text} (body : DenotesAll s v) (start i : Nat) :
    readBody start i s = .error (.unterminated start) ∧
      readBody start i (s ++ ['\\']) = .error (.unterminated start) := by
  constructor
  · have read := body.readBody start i []
    rw [List.append_nil] at read
    rw [read, readBody]
    rfl
  · rw [body.readBody, readBody.eq_def]
    rfl

lemma unquote_of_unquotes {t : Text} {x : Except Fault Text} (h : Unquotes t.trim x) :
    unquote t = x := by
  simp only [unquote]
  generalize t.trim = l at h ⊢
  cases h with
  | closed body =>
    simp only [List.cons_append, readLiteral, body.readBody_quote]
  | noOpeningQuote other =>
    have unread : readLiteral 0 l = .error .noOpeningQuote := by
      rw [readLiteral]
      rintro r rfl
      exact other rfl
    rw [unread]
  | badEscape body stuck =>
    simp only [List.cons_append, readLiteral, body.readBody, readBody_of_stuck stuck]
    rw [Except.map, Nat.add_comm]
  | unterminated body =>
    simp only [readLiteral, (readBody_unterminated body 0 _).1]
  | endsInBackslash body =>
    simp only [List.cons_append, readLiteral, (readBody_unterminated body 0 _).2]
  | @trailingText s v r body more =>
    have offset : ('"' :: (s ++ '"' :: r)).length - r.length = s.length + 2 := by
      simp only [List.length_cons, List.length_append]
      omega
    simp only [List.cons_append, readLiteral, body.readBody_quote]
    cases r with
    | nil => exact absurd rfl more
    | cons c r => rw [offset]

lemma exists_unquotes (t : Text) : ∃ x, Unquotes t x := by
  by_cases opened : t.head? = some '"'
  · obtain ⟨t, rfl⟩ := List.head?_eq_some_iff.mp opened
    obtain ⟨s, v, r, rfl, body, stuck⟩ := exists_denotesAll t
    obtain rfl | ⟨r, rfl⟩ | rfl | ⟨e, r, rfl⟩ := stuck.cases
    · rw [List.append_nil]
      exact ⟨_, .unterminated body⟩
    · cases r with
      | nil => exact ⟨_, .closed body⟩
      | cons c r => exact ⟨_, .trailingText body (List.cons_ne_nil c r)⟩
    · exact ⟨_, .endsInBackslash body⟩
    · exact ⟨_, .badEscape body stuck⟩
  · exact ⟨_, .noOpeningQuote opened⟩

/-- A text reads as a literal in exactly one of the listed ways, once the blanks around it are
gone. -/
theorem unquote_eq_iff_unquotes (t : Text) (x : Except Fault Text) :
    unquote t = x ↔ Unquotes t.trim x := by
  constructor
  · intro read
    obtain ⟨y, reads⟩ := exists_unquotes t.trim
    rwa [← read, unquote_of_unquotes reads]
  · exact unquote_of_unquotes

/-- Two octal digits are no escape, and the backslash comes before the quote that is missing. -/
example : unquote " \"a\\47 \n".toList = .error (.badEscape '4' 2) := by decide

end SymbolIndex.Sexp
