import SymbolIndex.Proofs.Sexp.Token

/-!
# Layout

Tokens are written with blanks between neighbours. Which blanks, and how many, makes no difference:
the tokens of the text are the tokens that were written.
-/

namespace SymbolIndex.Sexp

/-- A token as it is written. -/
def Token.written : Token → Text
  | .openParen  => ['(']
  | .closeParen => [')']
  | .dot        => ['.']
  | .str t      => quote t
  | .atom a     => a

/-- A token whose written form is a word of its own kind. -/
def Token.IsWritable : Token → Prop
  | .atom a => IsAtom a
  | _       => True

instance : DecidablePred Token.IsWritable
  | .openParen | .closeParen | .dot | .str _ => .isTrue trivial
  | .atom a => inferInstanceAs (Decidable (IsAtom a))

/-- Tokens as they are written, each behind some text, and a text at the end. -/
def laidOut (pieces : List (Text × Token)) (trail : Text) : Text :=
  pieces.flatMap (fun p => p.1 ++ p.2.written) ++ trail

/-- Blanks stand around the tokens, and at least one between neighbours. -/
structure IsLayout (pieces : List (Text × Token)) (trail : Text) : Prop where
  blank : ∀ p ∈ pieces, p.1.all Text.isBlank = true
  apart : ∀ p ∈ pieces.tail, p.1 ≠ []
  trail : trail.all Text.isBlank = true

lemma Reads.blanks {s : Text} (h : s.all Text.isBlank = true) : Reads s [] := by
  induction s with
  | nil => exact .nil
  | cons c s ih =>
    rw [List.all_cons, Bool.and_eq_true] at h
    exact (Reads.blank h.1).append (ih h.2)

lemma tokensFrom_blanks {s : Text} (h : s.all Text.isBlank = true) (i : Nat) (r : Text) :
    tokensFrom i (s ++ r) = tokensFrom (i + s.length) r := by
  rw [Reads.blanks h]
  exact id_map (tokensFrom (i + s.length) r)

/-- A token is read from its written form when a blank or nothing follows. -/
lemma tokensFrom_written {t : Token} (writable : t.IsWritable) {r : Text}
    (ends : ∀ c ∈ r.head?, Text.isBlank c = true) (i : Nat) :
    tokensFrom i (t.written ++ r) = (tokensFrom (i + t.written.length) r).map (t :: ·) := by
  cases t with
  | openParen => exact Reads.openParen i r
  | closeParen => exact Reads.closeParen i r
  | dot => exact Reads.dot i r
  | str t => exact Reads.literal t i r
  | atom a =>
    apply tokensFrom_atom writable
    intro c hc
    simp [endsAtom, ends c hc]

namespace IsLayout

variable {p : Text × Token} {pieces : List (Text × Token)} {trail : Text}

lemma of_cons (h : IsLayout (p :: pieces) trail) : IsLayout pieces trail :=
  ⟨fun q hq => h.blank q (List.mem_cons_of_mem p hq),
    fun q hq => h.apart q (List.mem_of_mem_tail hq), h.trail⟩

/-- What follows a token starts with a blank. -/
lemma ends_of_cons (h : IsLayout (p :: pieces) trail) :
    ∀ c ∈ (laidOut pieces trail).head?, Text.isBlank c = true := by
  intro c hc
  cases pieces with
  | nil => exact List.all_eq_true.mp h.trail c (List.mem_of_mem_head? hc)
  | cons q pieces =>
    have gap := h.blank q (List.mem_cons_of_mem p List.mem_cons_self)
    obtain ⟨d, s, hq⟩ := List.exists_cons_of_ne_nil (h.apart q List.mem_cons_self)
    rw [laidOut, List.flatMap_cons, hq] at hc
    rw [hq] at gap
    cases hc
    exact List.all_eq_true.mp gap c List.mem_cons_self

/-- The tokens of a text that is laid out are the tokens that were written. -/
lemma tokensFrom_eq (h : IsLayout pieces trail) (writable : ∀ p ∈ pieces, p.2.IsWritable)
    (i : Nat) : tokensFrom i (laidOut pieces trail) = .ok (pieces.map Prod.snd) := by
  induction pieces generalizing i with
  | nil =>
    have only := tokensFrom_blanks h.trail i []
    rw [List.append_nil] at only
    rw [laidOut, List.flatMap_nil, List.nil_append, only, tokensFrom]
    rfl
  | cons p pieces ih =>
    have parts : laidOut (p :: pieces) trail = p.1 ++ (p.2.written ++ laidOut pieces trail) := by
      simp [laidOut]
    rw [parts, tokensFrom_blanks (h.blank p List.mem_cons_self),
      tokensFrom_written (writable p List.mem_cons_self) h.ends_of_cons,
      ih h.of_cons fun q hq => writable q (List.mem_cons_of_mem p hq)]
    rfl

end IsLayout

end SymbolIndex.Sexp
