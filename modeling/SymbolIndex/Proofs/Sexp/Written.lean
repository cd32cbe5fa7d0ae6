import Mathlib.Data.List.Forall2
import SymbolIndex.Proofs.Sexp.Grammar
import SymbolIndex.Proofs.Sexp.Token
import SymbolIndex.Sexp.Record

/-!
# Written expressions

`Written s v` joins the two levels of reading: the text `s` is read, whatever follows, as tokens
that are an expression with the value `v`. Literals, fields and lists of written expressions are
written expressions, and a text that is one reads back as its value.
-/

namespace SymbolIndex

/-- Texts with a separator between neighbours and one at the end are texts with a separator behind
each. -/
lemma Text.joinWith_append_sep (sep : Char) {ts : List Text} (h : ts ≠ []) :
    Text.joinWith sep ts ++ [sep] = ts.flatMap (· ++ [sep]) := by
  induction ts with
  | nil => exact absurd rfl h
  | cons t ts ih =>
    cases ts with
    | nil => simp [Text.joinWith]
    | cons u us =>
      have rest := ih (List.cons_ne_nil u us)
      simp only [Text.joinWith] at rest ⊢
      rw [List.intercalate_cons_cons, List.append_assoc, rest]
      rfl

/-- A character of texts with a separator between neighbours is the separator or in one of them. -/
lemma Text.mem_joinWith {sep c : Char} {ts : List Text} (h : c ∈ Text.joinWith sep ts) :
    c = sep ∨ ∃ t ∈ ts, c ∈ t := by
  induction ts with
  | nil => cases h
  | cons t ts ih =>
    cases ts with
    | nil =>
      rw [Text.joinWith, List.intercalate_singleton] at h
      exact .inr ⟨t, List.mem_cons_self, h⟩
    | cons u us =>
      rw [Text.joinWith, List.intercalate_cons_cons, List.mem_append, List.mem_append,
        List.mem_singleton] at h
      rcases h with (first | same) | later
      · exact .inr ⟨t, List.mem_cons_self, first⟩
      · exact .inl same
      · rcases ih later with same | ⟨v, hv, hc⟩
        · exact .inl same
        · exact .inr ⟨v, List.mem_cons_of_mem t hv, hc⟩

namespace Sexp

/-- The text `s` spells the expression `v`, whatever follows. -/
def Written (s : Text) (v : Sexp) : Prop := ∃ ts, Reads s ts ∧ Spells ts v

/-- The text `s` spells the expressions `vs` one after another, whatever follows. -/
def WrittenAll (s : Text) (vs : List Sexp) : Prop := ∃ ts, Reads s ts ∧ SpellsAll ts vs

namespace WrittenAll

variable {s t : Text} {v : Sexp} {vs : List Sexp} {c : Char}

lemma nil : WrittenAll [] [] := ⟨[], .nil, .nil⟩

lemma cons_blank (h : Text.isBlank c = true) (hs : WrittenAll s vs) : WrittenAll (c :: s) vs := by
  obtain ⟨ts, reads, spells⟩ := hs
  exact ⟨ts, (Reads.blank h).append reads, spells⟩

lemma append (hs : Written s v) (ht : WrittenAll t vs) : WrittenAll (s ++ t) (v :: vs) := by
  obtain ⟨ts, reads, spells⟩ := hs
  obtain ⟨us, reads', spells'⟩ := ht
  exact ⟨ts ++ us, reads.append reads', .cons spells spells'⟩

/-- Expressions with a blank between neighbours. -/
lemma joinWith (h : Text.isBlank c = true) {parts : List Text}
    (hs : List.Forall₂ Written parts vs) : WrittenAll (Text.joinWith c parts) vs := by
  induction hs with
  | nil => exact nil
  | @cons s v parts vs first rest ih =>
    cases rest with
    | nil =>
      have single := append first nil
      rw [List.append_nil] at single
      rwa [Text.joinWith, List.intercalate_singleton]
    | cons second rest =>
      rw [Text.joinWith, List.intercalate_cons_cons, List.append_assoc]
      exact append first (cons_blank h ih)

end WrittenAll

namespace Written

variable {s : Text} {v : Sexp} {vs : List Sexp} {c : Char}

lemma literal (t : Text) : Written (quote t) (.text t) := ⟨[.str t], .literal t, .str t⟩

lemma list (h : WrittenAll s vs) : Written ('(' :: s ++ [')']) (.list vs) := by
  obtain ⟨ts, reads, spells⟩ := h
  exact ⟨_, (Reads.openParen.append reads).append .closeParen, .list spells⟩

lemma field {key : Text} (h : IsAtom key) (value : Text) :
    Written (fieldText key value) (.pair (.text key) (.text value)) := by
  have space : Text.isBlank ' ' = true := by decide
  have reads := ((((Reads.openParen.append (h.reads_blank space)).append .dot).append
    (.blank space)).append (.literal value)).append .closeParen
  refine ⟨_, ?_, .pair (.atom key) (.str value)⟩
  simpa [fieldText] using reads

lemma append_blank (hs : Written s v) (h : Text.isBlank c = true) : Written (s ++ [c]) v := by
  obtain ⟨ts, reads, spells⟩ := hs
  refine ⟨ts, ?_, spells⟩
  have read := reads.append (Reads.blank h)
  rwa [List.append_nil] at read

/-- A written expression reads back as its value. -/
lemma ofText_eq (h : Written s v) : ofText s = .ok v := by
  obtain ⟨ts, reads, spells⟩ := h
  have tokenized : tokens s = .ok ts := by
    have read := reads 0 []
    rw [List.append_nil, tokensFrom] at read
    rw [tokens, read]
    simp [Except.map]
  exact ofText_of_spells tokenized spells

end Written

end Sexp

end SymbolIndex
