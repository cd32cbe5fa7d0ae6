import Mathlib.Algebra.Group.Int.Defs
import Mathlib.Algebra.Group.Nat.Defs
import Mathlib.Tactic.Lemma
import SymbolIndex.Json.Number
import SymbolIndex.Text.Basic

/-!
# Written numbers

An integer is written by its decimal digits, with a minus sign in front of a negative one and
perhaps of zero; any other number has a fraction or an exponent. A number is read as it is written
unless more of it seems to follow.
-/

namespace SymbolIndex.Json

variable {ds s t : Text} {r : Source}

/-! ### What follows -/

/-- No character of some kind follows. -/
def Free (p : Char → Bool) (r : Source) : Prop := ∀ c, r.head? = some (some c) → p c = false

/-- A character that can go on with a number. -/
def extendsNumber (c : Char) : Bool := c.isDigit || c == '.' || c == 'e' || c == 'E'

lemma Free.imp {p q : Char → Bool} (h : Free p r) (narrower : ∀ c, p c = false → q c = false) :
    Free q r := fun c next => narrower c (h c next)

lemma free_cons {p : Char → Bool} {c : Char} (h : p c = false) (r : Source) :
    Free p (some c :: r) := by
  rintro d next
  cases next
  exact h

lemma Free.isDigit (h : Free extendsNumber r) : Free Char.isDigit r :=
  h.imp fun c none => by simp_all [extendsNumber]

/-! ### Digits -/

/-- Decimal digits, at least one. -/
def Digits (ds : Text) : Prop := ds ≠ [] ∧ ∀ d ∈ ds, d.isDigit = true

/-- The digits of an integer part: none begins with a zero but zero itself. -/
def Whole (ds : Text) : Prop := Digits ds ∧ (ds.head? = some '0' → ds = ['0'])

lemma digits_of_free (free : Free Char.isDigit r) : digits r = ([], r) := by
  match r, free with
  | [], _ => rfl
  | none :: r, _ => rfl
  | some c :: r, free => rw [digits, if_neg (by simp [free c rfl])]

lemma Digits.digits (h : Digits ds) (free : Free Char.isDigit r) :
    digits (Source.ofText ds ++ r) = (ds, r) := by
  obtain ⟨-, all⟩ := h
  induction ds with
  | nil => exact digits_of_free free
  | cons d ds ih =>
    obtain ⟨digit, rest⟩ := List.forall_mem_cons.mp all
    change Json.digits (some d :: (Source.ofText ds ++ r)) = _
    rw [Json.digits, if_pos digit, ih rest]

lemma Whole.integerPart? (h : Whole ds) (free : Free Char.isDigit r) :
    integerPart? (Source.ofText ds ++ r) = some (ds, r) := by
  obtain ⟨digits, zero⟩ := h
  rw [Json.integerPart?, digits.digits free]
  split
  · next empty => exact absurd (Prod.mk.inj empty).1 digits.1
  · next superfluous =>
    obtain ⟨rfl, -⟩ := Prod.mk.inj superfluous
    cases zero rfl
  · next same =>
    cases same
    rfl

/-! ### Fractions and exponents -/

/-- A fraction as it is written, if there is one. -/
inductive FractionText : Option Text → Text → Prop
  | absent : FractionText none []
  | present {ds : Text} (h : Digits ds) : FractionText (some ds) ('.' :: ds)

/-- An exponent as it is written, if there is one. -/
inductive ExponentText : Option Int → Text → Prop
  | absent : ExponentText none []
  | unsigned {e : Char} {ds : Text} (letter : e = 'e' ∨ e = 'E') (h : Digits ds) :
      ExponentText (some (ofDigits ds)) (e :: ds)
  | plus {e : Char} {ds : Text} (letter : e = 'e' ∨ e = 'E') (h : Digits ds) :
      ExponentText (some (ofDigits ds)) (e :: '+' :: ds)
  | minus {e : Char} {ds : Text} (letter : e = 'e' ∨ e = 'E') (h : Digits ds) :
      ExponentText (some (-ofDigits ds)) (e :: '-' :: ds)

lemma FractionText.fractionPart? {fraction : Option Text} (h : FractionText fraction s)
    (free : Free Char.isDigit r) (point : Free (· == '.') r) :
    fractionPart? (Source.ofText s ++ r) = some (fraction, r) := by
  cases h with
  | absent =>
    change Json.fractionPart? r = _
    unfold Json.fractionPart?
    split
    · cases point '.' rfl
    · rfl
  | @present ds h =>
    change Json.fractionPart? (some '.' :: (Source.ofText ds ++ r)) = _
    rw [Json.fractionPart?, h.digits free]
    split
    · next empty => exact absurd (Prod.mk.inj empty).1 h.1
    · next same =>
      cases same
      rfl

/-- The digits of an exponent are found behind its letter and its sign. -/
lemma exponentPart?_of_sign (negative : Bool) {e : Char} {behind : Source}
    (letter : e = 'e' ∨ e = 'E') (h : Digits ds) (free : Free Char.isDigit r)
    (sign : exponentSign behind = (negative, Source.ofText ds ++ r)) :
    exponentPart? (some e :: behind) = some (some (signed negative ds), r) := by
  simp only [exponentPart?, if_pos letter, sign, h.digits free]
  split
  · next empty => exact absurd (Prod.mk.inj empty).1 h.1
  · next same =>
    cases same
    rfl

lemma ExponentText.exponentPart? {exponent : Option Int} (h : ExponentText exponent s)
    (free : Free extendsNumber r) :
    exponentPart? (Source.ofText s ++ r) = some (exponent, r) := by
  cases h with
  | absent =>
    change Json.exponentPart? r = _
    unfold Json.exponentPart?
    split
    · next c r =>
      have other : ¬ (c = 'e' ∨ c = 'E') := by
        have := free c rfl
        simp_all [extendsNumber]
      rw [if_neg other]
    · rfl
  | @unsigned e ds letter h =>
    apply exponentPart?_of_sign false letter h free.isDigit
    obtain ⟨d, ds, rfl⟩ := List.exists_cons_of_ne_nil h.1
    have digit := h.2 d List.mem_cons_self
    have other : ¬ (d = '+' ∨ d = '-') := by
      rintro (rfl | rfl) <;> cases digit
    change exponentSign (some d :: (Source.ofText ds ++ r)) = _
    rw [exponentSign, if_neg other]
    rfl
  | plus letter h => exact exponentPart?_of_sign false letter h free.isDigit rfl
  | minus letter h => exact exponentPart?_of_sign true letter h free.isDigit rfl

/-- Neither a digit nor a point begins an exponent. -/
lemma ExponentText.free {exponent : Option Int} (h : ExponentText exponent s)
    (free : Free extendsNumber r) :
    Free (fun c => c.isDigit || c == '.') (Source.ofText s ++ r) := by
  have letters {e : Char} (letter : e = 'e' ∨ e = 'E') : (e.isDigit || e == '.') = false := by
    rcases letter with rfl | rfl <;> rfl
  cases h with
  | absent => exact free.imp fun c none => by simp_all [extendsNumber]
  | unsigned letter _ | plus letter _ | minus letter _ => exact free_cons (letters letter) _

lemma FractionText.free {fraction : Option Text} (h : FractionText fraction s)
    (free : Free Char.isDigit r) : Free Char.isDigit (Source.ofText s ++ r) := by
  cases h with
  | absent => exact free
  | present h => exact free_cons rfl _

/-! ### Numbers -/

/-- The sign of a number as it is written. -/
def signText (negative : Bool) : Text := if negative then ['-'] else []

/-- A number as it is written. -/
inductive NumberText : Number → Text → Prop
  /-- An integer is written by its digits. -/
  | int (n : Int) : NumberText (.int n) (Text.ofInt n)
  /-- Zero may have a sign. -/
  | zero : NumberText (.int 0) ['-', '0']
  /-- Any other number has a fraction or an exponent. -/
  | decimal {negative : Bool} {whole f e : Text} {fraction : Option Text} {exponent : Option Int}
      (h : Whole whole) (hf : FractionText fraction f) (he : ExponentText exponent e)
      (parts : fraction.isSome ∨ exponent.isSome) :
      NumberText (.ofParts negative whole fraction exponent) (signText negative ++ whole ++ f ++ e)

lemma Whole.minus (h : Whole ds) (negative : Bool) (r : Source) :
    minus (Source.ofText (signText negative ++ ds) ++ r) = (negative, Source.ofText ds ++ r) := by
  cases negative with
  | true => rfl
  | false =>
    obtain ⟨d, ds, rfl⟩ := List.exists_cons_of_ne_nil h.1.1
    have digit := h.1.2 d List.mem_cons_self
    change Json.minus (some d :: (Source.ofText ds ++ r)) = _
    unfold Json.minus
    split
    · next same =>
      cases same
      cases digit
    · rfl

lemma number?_of_parts (negative : Bool) {whole f e : Text} {fraction : Option Text}
    {exponent : Option Int} (h : Whole whole) (hf : FractionText fraction f)
    (he : ExponentText exponent e) (free : Free extendsNumber r) :
    number? (Source.ofText (signText negative ++ whole ++ f ++ e) ++ r)
      = some (.ofParts negative whole fraction exponent, r) := by
  have source : Source.ofText (signText negative ++ whole ++ f ++ e) ++ r
      = Source.ofText (signText negative ++ whole)
        ++ (Source.ofText f ++ (Source.ofText e ++ r)) := by
    simp [Source.ofText]
  have behind := he.free free
  have digit : Free Char.isDigit (Source.ofText e ++ r) := behind.imp fun c none => by simp_all
  have point : Free (· == '.') (Source.ofText e ++ r) := behind.imp fun c none => by simp_all
  rw [source, number?, h.minus]
  simp only [h.integerPart? (hf.free digit), hf.fractionPart? digit point,
    he.exponentPart? free, Option.bind_eq_bind, Option.bind_some, Option.pure_def]

/-- No number but zero begins with a zero. -/
lemma head?_toDigits_ne {n : Nat} (h : n ≠ 0) : (Nat.toDigits 10 n).head? ≠ some '0' := by
  induction n using Nat.strongRecOn with
  | _ n ih =>
    by_cases small : n < 10
    · have nonzero : ∀ d : Fin 10, d.val ≠ 0 → d.val.digitChar ≠ '0' := by decide
      rw [Nat.toDigits_of_lt_base small]
      exact fun head => nonzero ⟨n, small⟩ h (Option.some.inj head)
    · have fewer := ih (n / 10) (by omega) (by omega)
      have nonempty : Nat.toDigits 10 (n / 10) ≠ [] := Nat.toDigits_ne_nil
      obtain ⟨d, ds, front⟩ := List.exists_cons_of_ne_nil nonempty
      rw [Nat.toDigits_of_base_le (by omega) (by omega), front]
      rwa [front] at fewer

lemma whole_toDigits (n : Nat) : Whole (Nat.toDigits 10 n) := by
  refine ⟨⟨Nat.toDigits_ne_nil, fun d hd => Nat.isDigit_of_mem_toDigits (by decide) (by decide) hd⟩,
    fun head => ?_⟩
  by_cases zero : n = 0
  · rw [zero, Nat.toDigits_zero]
  · exact absurd head (head?_toDigits_ne zero)

lemma ofDigits_toDigits (n : Nat) : ofDigits (Nat.toDigits 10 n) = n := by
  have same : ofDigits (Nat.toDigits 10 n) = Nat.ofDigitChars 10 (Nat.toDigits 10 n) 0 := by
    simp only [ofDigits, Nat.ofDigitChars, Nat.mul_comm]
  rw [same, Nat.ofDigitChars_ten_toDigits]

/-- An integer as a sign and digits. -/
lemma exists_signText (n : Int) :
    ∃ negative, Text.ofInt n = signText negative ++ Nat.toDigits 10 n.natAbs ∧
      signed negative (Nat.toDigits 10 n.natAbs) = n := by
  cases n with
  | ofNat n => exact ⟨false, rfl, by simp [signed, ofDigits_toDigits]⟩
  | negSucc n =>
    refine ⟨true, rfl, ?_⟩
    change -(ofDigits (Nat.toDigits 10 (n + 1)) : Int) = _
    rw [ofDigits_toDigits]
    rfl

/-- A number is read as it is written. -/
lemma NumberText.number? {n : Number} (h : NumberText n s) (free : Free extendsNumber r) :
    number? (Source.ofText s ++ r) = some (n, r) := by
  cases h with
  | int n =>
    obtain ⟨negative, written, value⟩ := exists_signText n
    have read := number?_of_parts negative (whole_toDigits n.natAbs) .absent .absent free
    have whole : Number.ofParts negative (Nat.toDigits 10 n.natAbs) none none = .int n :=
      congrArg Number.int value
    rwa [List.append_nil, List.append_nil, ← written, whole] at read
  | zero =>
    have zero : Whole ['0'] := whole_toDigits 0
    exact number?_of_parts true zero .absent .absent free
  | decimal h hf he _ => exact number?_of_parts _ h hf he free

lemma Whole.exists_cons (h : Whole ds) (negative : Bool) :
    ∃ c w, signText negative ++ ds = c :: w ∧ (c.isDigit = true ∨ c = '-') := by
  cases negative with
  | true => exact ⟨'-', ds, rfl, .inr rfl⟩
  | false =>
    obtain ⟨d, ds, rfl⟩ := List.exists_cons_of_ne_nil h.1.1
    exact ⟨d, ds, rfl, .inl (h.1.2 d List.mem_cons_self)⟩

/-- A number begins with a digit or a minus sign. -/
lemma NumberText.exists_cons {n : Number} (h : NumberText n s) :
    ∃ c w, s = c :: w ∧ (c.isDigit = true ∨ c = '-') := by
  cases h with
  | int n =>
    obtain ⟨negative, written, -⟩ := exists_signText n
    rw [written]
    exact (whole_toDigits _).exists_cons negative
  | zero => exact ⟨'-', ['0'], rfl, .inr rfl⟩
  | decimal h _ _ _ =>
    obtain ⟨c, w, written, first⟩ := h.exists_cons _
    rw [written]
    exact ⟨c, _, rfl, first⟩

/-! ### Long integers -/

/-- An integer is written with no more characters than an integer that is kept may have. -/
def Short (n : Int) : Prop := (Text.ofInt n).length ≤ maxIntegerLength

lemma intPow_ten (k : Nat) : Int.pow 10 k = ((10 ^ k : Nat) : Int) :=
  (Int.natCast_pow 10 k).symm

/-- The integers that are short lie between two powers of ten. -/
lemma short_iff {n : Int} :
    Short n ↔
      -((10 ^ (maxIntegerLength - 1) : Nat) : Int) < n ∧ n < (10 ^ maxIntegerLength : Nat) := by
  rw [Short]
  cases n with
  | ofNat m =>
    have positive : 0 < maxIntegerLength := by decide
    have small : 0 < 10 ^ (maxIntegerLength - 1) := Nat.pow_pos (by decide)
    rw [Text.ofInt, Nat.length_toDigits_le_iff (by decide) positive, Int.ofNat_eq_natCast]
    generalize 10 ^ maxIntegerLength = big, 10 ^ (maxIntegerLength - 1) = small at *
    omega
  | negSucc m =>
    have positive : 0 < maxIntegerLength - 1 := by decide
    have digits : (Nat.toDigits 10 (m + 1)).length + 1 ≤ maxIntegerLength
        ↔ (Nat.toDigits 10 (m + 1)).length ≤ maxIntegerLength - 1 := by
      omega
    rw [Text.ofInt, List.length_cons, digits, Nat.length_toDigits_le_iff (by decide) positive]
    generalize 10 ^ maxIntegerLength = big, 10 ^ (maxIntegerLength - 1) = small at *
    omega

/-- Short integers are kept, and no others. -/
lemma isTooLong_eq_false_iff {n : Int} : isTooLong n = false ↔ Short n := by
  have word : isWord n = true ↔ -(2 ^ 63 : Nat) ≤ n ∧ n < (2 ^ 64 : Nat) := by
    rw [isWord, Bool.and_eq_true, decide_eq_true_eq, decide_eq_true_eq]
    rfl
  have below : 2 ^ 64 ≤ 10 ^ (maxIntegerLength - 1) := by decide +kernel
  have more : 10 ^ (maxIntegerLength - 1) ≤ 10 ^ maxIntegerLength := by decide +kernel
  rw [short_iff, isTooLong, intPow_ten, intPow_ten, Bool.and_eq_false_iff, Bool.not_eq_false', word,
    Bool.or_eq_false_iff, decide_eq_false_iff_not, decide_eq_false_iff_not]
  generalize 10 ^ maxIntegerLength = big, 10 ^ (maxIntegerLength - 1) = small at *
  omega

end SymbolIndex.Json
