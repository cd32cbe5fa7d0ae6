import SymbolIndex.Proofs.Sexp.Literal
import SymbolIndex.Sexp.Token

/-!
# Tokens of written texts

`Reads s ts` says that `s` is read as the tokens `ts` whatever follows it. Texts that are read so
can be put one after another, so the tokens of a long text come from those of its parts.
-/

namespace SymbolIndex.Sexp

/-- The text `s` is read as the tokens `ts`, whatever follows. -/
def Reads (s : Text) (ts : List Token) : Prop :=
  ∀ i r, tokensFrom i (s ++ r) = (tokensFrom (i + s.length) r).map (ts ++ ·)

/-- A text that is one word of its own kind: not empty, with no dot in front, and with no character
that ends an atom. -/
structure IsAtom (a : Text) : Prop where
  ne_nil : a ≠ []
  head?_ne_dot : a.head? ≠ some '.'
  not_endsAtom : ∀ c ∈ a, endsAtom c = false

lemma isAtom_iff {a : Text} :
    IsAtom a ↔ a ≠ [] ∧ a.head? ≠ some '.' ∧ a.all (!endsAtom ·) = true := by
  constructor
  · intro ⟨ne_nil, head, inside⟩
    exact ⟨ne_nil, head, by simpa using inside⟩
  · intro ⟨ne_nil, head, inside⟩
    exact ⟨ne_nil, head, by simpa using inside⟩

instance (a : Text) : Decidable (IsAtom a) := decidable_of_iff _ isAtom_iff.symm

namespace Reads

lemma nil : Reads [] [] := by
  intro i r
  simp only [List.nil_append, List.length_nil, Nat.add_zero]
  exact (id_map (tokensFrom i r)).symm

lemma append {s t : Text} {ts us : List Token} (hs : Reads s ts) (ht : Reads t us) :
    Reads (s ++ t) (ts ++ us) := by
  intro i r
  rw [List.append_assoc, hs, ht, List.length_append, ← Nat.add_assoc]
  cases tokensFrom (i + s.length + t.length) r with
  | error f => rfl
  | ok vs => simp [Except.map]

lemma blank {c : Char} (h : Text.isBlank c = true) : Reads [c] [] := by
  intro i r
  rw [List.singleton_append, tokensFrom, if_pos h]
  exact (id_map (tokensFrom (i + 1) r)).symm

lemma openParen : Reads ['('] [.openParen] := by
  intro i r
  rw [List.singleton_append, tokensFrom]
  rfl

lemma closeParen : Reads [')'] [.closeParen] := by
  intro i r
  rw [List.singleton_append, tokensFrom]
  rfl

lemma dot : Reads ['.'] [.dot] := by
  intro i r
  rw [List.singleton_append, tokensFrom]
  rfl

lemma literal (t : Text) : Reads (quote t) [.str t] := by
  intro i r
  have body := readBody_flatMap_escape i (i + 1) t r
  have written : quote t ++ r = '"' :: (t.flatMap escape ++ '"' :: r) := by simp [quote]
  rw [written, tokensFrom]
  simp only [if_neg (by decide : ¬ Text.isBlank '"' = true), if_neg (by decide : '"' ≠ '('),
    if_neg (by decide : '"' ≠ ')'), if_neg (by decide : '"' ≠ '.'), if_pos]
  split
  · next f h =>
    rw [body] at h
    cases h
  · next value rest h =>
    rw [body] at h
    cases h
    have read : i + 1 + ((t.flatMap escape ++ '"' :: r).length - r.length)
        = i + (quote t).length := by
      simp only [quote, List.length_append, List.length_cons, List.length_nil]
      omega
    rw [read]
    rfl

end Reads

lemma tokensFrom_atom {a r : Text} (h : IsAtom a) (ends : ∀ c ∈ r.head?, endsAtom c = true)
    (i : Nat) :
    tokensFrom i (a ++ r) = (tokensFrom (i + a.length) r).map (.atom a :: ·) := by
  obtain ⟨ne_nil, not_dot, inside⟩ := h
  match a with
  | c :: a =>
    have first := inside c List.mem_cons_self
    have rest : ∀ d ∈ a, (!endsAtom d) = true := by
      intro d hd
      rw [inside d (List.mem_cons_of_mem c hd)]
      rfl
    simp only [endsAtom, Bool.or_eq_false_iff, beq_eq_false_iff_ne] at first
    obtain ⟨⟨⟨not_blank, not_open⟩, not_close⟩, not_quote⟩ := first
    have c_ne_dot : c ≠ '.' := fun h => not_dot (congrArg some h)
    rw [List.cons_append, tokensFrom]
    simp only [not_blank, if_neg not_open, if_neg not_close, if_neg c_ne_dot, if_neg not_quote]
    have stops : (a ++ r).takeWhile (!endsAtom ·) = a ∧ (a ++ r).dropWhile (!endsAtom ·) = r := by
      rw [List.takeWhile_append_of_pos rest, List.dropWhile_append_of_pos rest]
      cases r with
      | nil => simp
      | cons d r => simp [ends d rfl]
    rw [stops.1, stops.2, if_neg Bool.false_ne_true, List.length_cons]
    congr 2
    omega

lemma IsAtom.reads_blank {a : Text} {c : Char} (h : IsAtom a) (hc : Text.isBlank c = true) :
    Reads (a ++ [c]) [.atom a] := by
  intro i r
  have ends : ∀ d ∈ (c :: r).head?, endsAtom d = true := by
    rintro d ⟨⟩
    simp [endsAtom, hc]
  have after := Reads.blank hc (i + a.length) r
  rw [List.singleton_append] at after
  rw [List.append_assoc, List.singleton_append, tokensFrom_atom h ends, after, List.length_append,
    ← Nat.add_assoc]
  cases tokensFrom (i + a.length + [c].length) r <;> rfl

end SymbolIndex.Sexp
