import Mathlib.Tactic.Lemma
import SymbolIndex.Json.Quotation
import SymbolIndex.Text.Basic

/-!
# Quoted texts

Between quotation marks a character is written as it is, by a letter behind a backslash, or by the
hexadecimal digits of its code unit or of its two code units. `Quoted t s` says that `s` writes the
text `t` in one of these ways for each character; reading it gives `t` again.
-/

namespace SymbolIndex.Json

variable {c : Char} {n : Nat} {s t u : Text}

/-! ### Code units -/

/-- A hexadecimal digit of either case. -/
def HexDigit (v : Nat) (c : Char) : Prop :=
  "0123456789abcdef".toList[v]? = some c ∨ "0123456789ABCDEF".toList[v]? = some c

/-- The four hexadecimal digits of a code unit. -/
def CodeUnit (n : Nat) : Text → Prop
  | [a, b, c, d] => HexDigit (n / 0x1000) a ∧ HexDigit (n / 0x100 % 0x10) b ∧
    HexDigit (n / 0x10 % 0x10) c ∧ HexDigit (n % 0x10) d
  | _            => False

instance (v : Nat) (c : Char) : Decidable (HexDigit v c) := inferInstanceAs (Decidable (_ ∨ _))

instance (n : Nat) : (t : Text) → Decidable (CodeUnit n t)
  | [_, _, _, _] => inferInstanceAs (Decidable (_ ∧ _ ∧ _ ∧ _))
  | [] | [_] | [_, _] | [_, _, _] | _ :: _ :: _ :: _ :: _ :: _ => inferInstanceAs (Decidable False)

lemma HexDigit.hexDigit? {v : Nat} (h : HexDigit v c) : hexDigit? c = some v := by
  have small : ∀ i : Fin 16, Json.hexDigit? "0123456789abcdef".toList[i] = some i.val := by decide
  have large : ∀ i : Fin 16, Json.hexDigit? "0123456789ABCDEF".toList[i] = some i.val := by decide
  rcases h with h | h
  · obtain ⟨bound, rfl⟩ := List.getElem?_eq_some_iff.mp h
    exact small ⟨v, bound⟩
  · obtain ⟨bound, rfl⟩ := List.getElem?_eq_some_iff.mp h
    exact large ⟨v, bound⟩

lemma CodeUnit.codeUnit? (h : CodeUnit n t) (rest : Source) :
    codeUnit? (Source.ofText t ++ rest) = some (n, rest) := by
  have value : ((n / 0x1000 * 16 + n / 0x100 % 0x10) * 16 + n / 0x10 % 0x10) * 16 + n % 0x10 = n := by
    omega
  match t, h with
  | [a, b, c, d], ⟨ha, hb, hc, hd⟩ =>
    simp only [Source.ofText, List.map_cons, List.map_nil, List.cons_append, List.nil_append,
      Json.codeUnit?, ha.hexDigit?, hb.hexDigit?, hc.hexDigit?, hd.hexDigit?, value]

/-! ### Characters -/

/-- The letters that escape one character each. -/
def escapeLetters : List (Char × Char) :=
  [('"', '"'), ('\\', '\\'), ('/', '/'), ('b', Char.ofNat 0x08), ('f', Char.ofNat 0x0C),
    ('n', Char.ofNat 0x0A), ('r', Char.ofNat 0x0D), ('t', Char.ofNat 0x09)]

/-- A character as it is written between quotation marks. -/
inductive QuotedChar : Char → Text → Prop
  | plain {c : Char} (graphic : 0x20 ≤ c.toNat) (mark : c ≠ '"') (backslash : c ≠ '\\') :
      QuotedChar c [c]
  | letter {l c : Char} (h : (l, c) ∈ escapeLetters) : QuotedChar c ['\\', l]
  | unit {c : Char} {t : Text} (h : CodeUnit c.toNat t) : QuotedChar c ('\\' :: 'u' :: t)
  | pair {c : Char} {t u : Text} (large : 0x10000 ≤ c.toNat)
      (first : CodeUnit (0xD800 + (c.toNat - 0x10000) / 0x400) t)
      (second : CodeUnit (0xDC00 + (c.toNat - 0x10000) % 0x400) u) :
      QuotedChar c ('\\' :: 'u' :: t ++ '\\' :: 'u' :: u)

/-- A text as it is written between quotation marks. -/
inductive Quoted : Text → Text → Prop
  | nil : Quoted [] []
  | cons {c : Char} {s t u : Text} (first : QuotedChar c s) (rest : Quoted t u) :
      Quoted (c :: t) (s ++ u)

lemma simpleEscape?_of_mem : ∀ p ∈ escapeLetters, p.1 ≠ 'u' ∧ simpleEscape? p.1 = some p.2 := by
  decide

/-- A code unit that is a character is no half of a pair. -/
lemma unicodeEscape?_of_unit (h : CodeUnit c.toNat t) (rest : Source) :
    unicodeEscape? (Source.ofText t ++ rest) = some (c, rest) := by
  have valid : c.toNat < 0xD800 ∨ 0xDFFF < c.toNat := by
    rcases c.valid with low | ⟨high, -⟩
    · exact .inl low
    · exact .inr high
  have high : isHighSurrogate c.toNat = false := by
    simp [isHighSurrogate]
    omega
  have low : isLowSurrogate c.toNat = false := by
    simp [isLowSurrogate]
    omega
  simp [unicodeEscape?, h.codeUnit?, high, low]

/-- The two code units of a large character are a pair. -/
lemma unicodeEscape?_of_pair (large : 0x10000 ≤ c.toNat)
    (first : CodeUnit (0xD800 + (c.toNat - 0x10000) / 0x400) t)
    (second : CodeUnit (0xDC00 + (c.toNat - 0x10000) % 0x400) u) (rest : Source) :
    unicodeEscape? (Source.ofText (t ++ '\\' :: 'u' :: u) ++ rest) = some (c, rest) := by
  have bound : c.toNat < 0x110000 := by
    rcases c.valid with low | ⟨-, high⟩
    · exact Nat.lt_trans low (by decide)
    · exact high
  have source : Source.ofText (t ++ '\\' :: 'u' :: u) ++ rest
      = Source.ofText t ++ some '\\' :: some 'u' :: (Source.ofText u ++ rest) := by
    simp [Source.ofText]
  have high : isHighSurrogate (0xD800 + (c.toNat - 0x10000) / 0x400) = true := by
    simp only [isHighSurrogate, Bool.and_eq_true, decide_eq_true_eq]
    omega
  have low : isLowSurrogate (0xDC00 + (c.toNat - 0x10000) % 0x400) = true := by
    simp only [isLowSurrogate, Bool.and_eq_true, decide_eq_true_eq]
    omega
  have value : 0x10000 + (0xD800 + (c.toNat - 0x10000) / 0x400 - 0xD800) * 0x400
      + (0xDC00 + (c.toNat - 0x10000) % 0x400 - 0xDC00) = c.toNat := by
    omega
  simp only [source, unicodeEscape?, first.codeUnit?, if_pos high, secondUnit?, second.codeUnit?,
    if_pos low, value, Char.ofNat_toNat]

/-! ### Reading a quoted text -/

lemma string?_of_escape? {r rest : Source} (h : escape? r = some (c, rest)) :
    string? (some '\\' :: r) = (string? rest).map fun (content, r) => (some c :: content, r) := by
  rw [string?, if_neg (by decide), if_pos rfl]
  split
  · next missing => cases h.symm.trans missing
  · next d r' found =>
    cases h.symm.trans found
    rfl

lemma QuotedChar.string? (h : QuotedChar c s) (rest : Source) :
    string? (Source.ofText s ++ rest)
      = (Json.string? rest).map fun (content, r) => (some c :: content, r) := by
  cases h with
  | plain graphic mark backslash =>
    change Json.string? (some c :: rest) = _
    rw [Json.string?, if_neg mark, if_neg backslash, if_neg (Nat.not_lt.mpr graphic)]
  | @letter l _ mem =>
    obtain ⟨other, escapes⟩ := simpleEscape?_of_mem _ mem
    apply string?_of_escape? (r := some l :: rest)
    rw [escape?, if_neg other, escapes, Option.map_some]
  | unit h =>
    apply string?_of_escape? (r := some 'u' :: (Source.ofText _ ++ rest))
    rw [escape?, if_pos rfl, unicodeEscape?_of_unit h]
  | pair large first second =>
    apply string?_of_escape? (r := some 'u' :: (Source.ofText _ ++ rest))
    rw [escape?, if_pos rfl]
    exact unicodeEscape?_of_pair large first second rest

/-- A quoted text is read as it was, up to its closing mark. -/
lemma Quoted.string? (h : Quoted t s) (rest : Source) :
    string? (Source.ofText s ++ some '"' :: rest) = some (Source.ofText t, rest) := by
  induction h with
  | nil => simp [Source.ofText, Json.string?]
  | @cons c s t u first _ ih =>
    have source : Source.ofText (s ++ u) ++ some '"' :: rest
        = Source.ofText s ++ (Source.ofText u ++ some '"' :: rest) := by
      simp [Source.ofText]
    rw [source, first.string?, ih]
    rfl

end SymbolIndex.Json
