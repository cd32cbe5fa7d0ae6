import Mathlib.Data.List.Infix
import Mathlib.Tactic.Lemma
import SymbolIndex.Proofs.Text.Dotted
import SymbolIndex.Sexp.Literal

/-!
# Reading back string literals

The body of a literal is a row of pieces, each of which denotes one character: the character
itself, an escape letter, or three octal digits. A reader takes a piece as one step whatever
follows it. Each character is written as a piece that denotes it, so a literal is read back up to
its closing quote, and none begins another. No piece that is written holds a control character.
-/

namespace SymbolIndex.Sexp

/-! ### Pieces -/

/-- The letters that stand after a backslash, and what each stands for. -/
def escapeLetters : List (Char × Char) :=
  [('\\', '\\'), ('"', '"'), ('n', '\n'), ('t', '\t'), ('r', '\r')]

/-- The text is one piece of the body of a literal, and denotes the character. -/
inductive Denotes : Text → Char → Prop
  | bare {c : Char} (quote : c ≠ '"') (backslash : c ≠ '\\') : Denotes [c] c
  | letter {e c : Char} (h : (e, c) ∈ escapeLetters) : Denotes ['\\', e] c
  | octal {x y z : Nat} (hx : x < 8) (hy : y < 8) (hz : z < 8) :
      Denotes ['\\', x.digitChar, y.digitChar, z.digitChar] (Char.ofNat (64 * x + 8 * y + z))

/-- The text is a row of pieces, and denotes the text of their characters. -/
inductive DenotesAll : Text → Text → Prop
  | nil : DenotesAll [] []
  | cons {s t u : Text} {c : Char} (first : Denotes s c) (rest : DenotesAll t u) :
      DenotesAll (s ++ t) (c :: u)

lemma mem_escapeLetters_iff {e c : Char} : (e, c) ∈ escapeLetters ↔ unescape? e = some c := by
  constructor
  · intro h
    simp only [escapeLetters, List.mem_cons, Prod.mk.injEq, List.not_mem_nil, or_false] at h
    obtain ⟨rfl, rfl⟩ | ⟨rfl, rfl⟩ | ⟨rfl, rfl⟩ | ⟨rfl, rfl⟩ | ⟨rfl, rfl⟩ := h <;> rfl
  · intro h
    unfold unescape? at h
    split at h <;> cases h <;> decide

/-! ### Octal escapes -/

lemma octalDigit?_digitChar : ∀ d < 8, octalDigit? (Nat.digitChar d) = some d := by decide

lemma unescape?_digitChar : ∀ d < 8, unescape? (Nat.digitChar d) = none := by decide

lemma octal?_digitChar {x y z : Nat} (hx : x < 8) (hy : y < 8) (hz : z < 8) :
    octal? x.digitChar y.digitChar z.digitChar = some (Char.ofNat (64 * x + 8 * y + z)) := by
  have value : (x * 8 + y) * 8 + z = 64 * x + 8 * y + z := by omega
  simp only [octal?, octalDigit?_digitChar _ hx, octalDigit?_digitChar _ hy,
    octalDigit?_digitChar _ hz, value]

/-! ### One character -/

/-- The characters that are written as they are. -/
def IsBare (c : Char) : Prop := c ≠ '\\' ∧ c ≠ '"' ∧ ¬ (c.toNat < 0x20 ∨ c.toNat = 0x7F)

lemma escape_of_isBare {c : Char} (h : IsBare c) : escape c = [c] := by
  obtain ⟨backslash, quote, printable⟩ := h
  have newline : c ≠ '\n' := by rintro rfl; exact printable (by decide)
  have tab : c ≠ '\t' := by rintro rfl; exact printable (by decide)
  have ret : c ≠ '\r' := by rintro rfl; exact printable (by decide)
  simp only [escape, if_neg backslash, if_neg quote, if_neg newline, if_neg tab, if_neg ret,
    if_neg printable]

/-- A character is escaped by a letter, by its number, or not at all. -/
lemma escape_cases (c : Char) :
    (∃ e, unescape? e = some c ∧ escape c = ['\\', e]) ∨
    (c.toNat < 512 ∧ escape c = '\\' :: octalDigits c.toNat) ∨
    (IsBare c ∧ escape c = [c]) := by
  by_cases backslash : c = '\\'
  · subst backslash; exact .inl ⟨'\\', rfl, rfl⟩
  by_cases quote : c = '"'
  · subst quote; exact .inl ⟨'"', rfl, rfl⟩
  by_cases newline : c = '\n'
  · subst newline; exact .inl ⟨'n', rfl, rfl⟩
  by_cases tab : c = '\t'
  · subst tab; exact .inl ⟨'t', rfl, rfl⟩
  by_cases ret : c = '\r'
  · subst ret; exact .inl ⟨'r', rfl, rfl⟩
  by_cases control : c.toNat < 0x20 ∨ c.toNat = 0x7F
  · refine .inr (.inl ⟨by omega, ?_⟩)
    simp only [escape, if_neg backslash, if_neg quote, if_neg newline, if_neg tab, if_neg ret,
      if_pos control]
  · have bare : IsBare c := ⟨backslash, quote, control⟩
    exact .inr (.inr ⟨bare, escape_of_isBare bare⟩)

/-- A character is written as a piece that denotes it. -/
lemma denotes_escape (c : Char) : Denotes (escape c) c := by
  rcases escape_cases c with ⟨e, letter, written⟩ | ⟨small, written⟩ | ⟨bare, written⟩
  · rw [written]
    exact .letter (mem_escapeLetters_iff.mpr letter)
  · have spelled := Denotes.octal (Nat.mod_lt (c.toNat / 64) (by decide : 0 < 8))
      (Nat.mod_lt (c.toNat / 8) (by decide : 0 < 8)) (Nat.mod_lt c.toNat (by decide : 0 < 8))
    have value : 64 * (c.toNat / 64 % 8) + 8 * (c.toNat / 8 % 8) + c.toNat % 8 = c.toNat := by
      omega
    rw [value, Char.ofNat_toNat] at spelled
    rw [written]
    exact spelled
  · rw [written]
    exact .bare bare.2.1 bare.1

lemma denotesAll_flatMap_escape (t : Text) : DenotesAll (t.flatMap escape) t := by
  induction t with
  | nil => exact .nil
  | cons c t ih => exact .cons (denotes_escape c) ih

/-- No control character is written. -/
lemma printable_of_mem_escape {c x : Char} (h : x ∈ escape c) :
    0x20 ≤ x.toNat ∧ x.toNat ≠ 0x7F := by
  rcases escape_cases c with ⟨e, letter, written⟩ | ⟨small, written⟩ | ⟨bare, written⟩
  · have letters : ∀ l ∈ escapeLetters, 0x20 ≤ l.1.toNat ∧ l.1.toNat ≠ 0x7F := by decide
    rw [written, List.mem_pair] at h
    obtain rfl | rfl := h
    · decide
    · exact letters _ (mem_escapeLetters_iff.mpr letter)
  · have digits : ∀ d < 8, 0x20 ≤ (Nat.digitChar d).toNat ∧ (Nat.digitChar d).toNat ≠ 0x7F := by
      decide
    rw [written] at h
    simp only [octalDigits, List.mem_cons, List.not_mem_nil, or_false] at h
    obtain rfl | rfl | rfl | rfl := h
    · decide
    · exact digits _ (Nat.mod_lt _ (by decide))
    · exact digits _ (Nat.mod_lt _ (by decide))
    · exact digits _ (Nat.mod_lt _ (by decide))
  · rw [written, List.mem_singleton] at h
    obtain rfl := h
    have := bare.2.2
    omega

/-! ### Reading pieces -/

lemma readBody_quote (start i : Nat) (r : Text) : readBody start i ('"' :: r) = .ok ([], r) := by
  rw [readBody.eq_def]
  simp

/-- A piece is taken as one step, whatever follows it. -/
lemma Denotes.readBody {s : Text} {c : Char} (h : Denotes s c) (start i : Nat) (r : Text) :
    readBody start i (s ++ r)
      = (readBody start (i + s.length) r).map fun (t, rest) => (c :: t, rest) := by
  cases h with
  | bare quote backslash =>
    rw [List.singleton_append, Sexp.readBody.eq_def]
    simp [backslash, quote]
  | letter letter =>
    rw [List.cons_append, List.singleton_append, Sexp.readBody.eq_def]
    simp [mem_escapeLetters_iff.mp letter]
  | octal hx hy hz =>
    rw [Sexp.readBody.eq_def]
    simp [unescape?_digitChar _ hx, octal?_digitChar hx hy hz]

lemma DenotesAll.readBody {s u : Text} (h : DenotesAll s u) (start i : Nat) (r : Text) :
    readBody start i (s ++ r)
      = (readBody start (i + s.length) r).map fun (t, rest) => (u ++ t, rest) := by
  induction h generalizing i with
  | nil => exact (id_map (Sexp.readBody start i r)).symm
  | @cons s t u c first rest ih =>
    rw [List.append_assoc, first.readBody, ih, List.length_append, Nat.add_assoc]
    cases Sexp.readBody start (i + (s.length + t.length)) r <;> rfl

/-- A body is read up to the quote that closes it. -/
lemma DenotesAll.readBody_quote {s u : Text} (h : DenotesAll s u) (start i : Nat) (r : Text) :
    Sexp.readBody start i (s ++ '"' :: r) = .ok (u, r) := by
  rw [h.readBody, Sexp.readBody_quote]
  simp [Except.map]

/-! ### Whole literals -/

lemma readBody_flatMap_escape (start i : Nat) (t rest : Text) :
    readBody start i (t.flatMap escape ++ '"' :: rest) = .ok (t, rest) :=
  (denotesAll_flatMap_escape t).readBody_quote start i rest

lemma readLiteral_quote_append (i : Nat) (t rest : Text) :
    readLiteral i (quote t ++ rest) = .ok (t, rest) := by
  have written : quote t ++ rest = '"' :: (t.flatMap escape ++ '"' :: rest) := by simp [quote]
  rw [written]
  exact readBody_flatMap_escape i (i + 1) t rest

/-- A literal has quotes at both ends, so there is nothing to trim. -/
lemma trim_quote (t : Text) : (quote t).trim = quote t := by
  have blank : ∀ c ∈ some '"', Text.isBlank c = false := by
    rintro _ ⟨⟩
    rfl
  have last : (quote t).getLast? = some '"' := List.getLast?_concat
  rw [Text.trim_eq_self_iff, Text.Unpadded, last]
  exact ⟨blank, blank⟩

lemma unquote_quote (t : Text) : unquote (quote t) = .ok t := by
  have whole := readLiteral_quote_append 0 t []
  rw [List.append_nil] at whole
  simp only [unquote, trim_quote, whole]

lemma quote_injective : Function.Injective quote := by
  intro t u same
  have back := unquote_quote t
  rw [same, unquote_quote] at back
  exact (Except.ok.inj back).symm

/-- No literal begins another. -/
lemma quote_prefix_quote_iff {t u : Text} : quote t <+: quote u ↔ t = u := by
  constructor
  · rintro ⟨rest, longer⟩
    have whole := readLiteral_quote_append 0 u []
    rw [List.append_nil, ← longer, readLiteral_quote_append] at whole
    cases whole
    rfl
  · rintro rfl
    exact List.prefix_refl (quote t)

lemma printable_of_mem_quote {t : Text} {x : Char} (h : x ∈ quote t) :
    0x20 ≤ x.toNat ∧ x.toNat ≠ 0x7F := by
  simp only [quote, List.cons_append, List.mem_cons, List.mem_append, List.mem_flatMap,
    List.not_mem_nil, or_false] at h
  obtain rfl | ⟨c, -, mem⟩ | rfl := h
  · decide
  · exact printable_of_mem_escape mem
  · decide

lemma newline_not_mem_quote (t : Text) : '\n' ∉ quote t := by
  intro mem
  exact absurd (printable_of_mem_quote mem) (by decide)

/-- A literal is read from where it begins up to where it ends, whatever stands before and after
it. So it is read back alone, no other text has the same literal or one that goes on from it, and
it holds no control character. -/
theorem quote_delimits_itself (v p s : Text) :
    readLiteral p.length ((p ++ quote v ++ s).drop p.length)
        = .ok (v, (p ++ quote v ++ s).drop (p.length + (quote v).length)) ∧
      unquote (quote v) = .ok v ∧ Function.Injective quote ∧
      (∀ w, quote v <+: quote w ↔ v = w) ∧
      ∀ c ∈ quote v, 0x20 ≤ c.toNat ∧ c.toNat ≠ 0x7F := by
  refine ⟨?_, unquote_quote v, quote_injective, fun w => quote_prefix_quote_iff, ?_⟩
  · have ahead : (p ++ quote v ++ s).drop p.length = quote v ++ s := by
      rw [List.append_assoc, List.drop_left]
    have behind : (p ++ quote v ++ s).drop (p.length + (quote v).length) = s := by
      rw [← List.length_append, List.drop_left]
    rw [ahead, behind]
    exact readLiteral_quote_append p.length v s
  · intro c mem
    exact printable_of_mem_quote mem

/-- A control character in front of a digit, a backslash at the end, and quotes on both sides. -/
theorem quote_delimits_itself_digits :
    readLiteral 2 ("x\"\"\\0007\\\\\"7\"".toList.drop 2)
        = .ok ("\x007\\".toList, "7\"".toList) ∧
      '0' ∈ quote "\x007\\".toList ∧ 0x20 ≤ '0'.toNat ∧ '0'.toNat ≠ 0x7F := by
  obtain ⟨read, -, -, -, printable⟩ :=
    quote_delimits_itself "\x007\\".toList "x\"".toList "7\"".toList
  have mem : '0' ∈ quote "\x007\\".toList := by decide
  exact ⟨read, mem, printable '0' mem⟩

end SymbolIndex.Sexp
