import SymbolIndex.Json.Source

/-!
# JSON numbers

A number is an optional minus sign, an integer part without superfluous zeros, an optional
fraction and an optional exponent. It is read as far as it goes, so a fraction without digits is
malformed and not an integer followed by a point.
-/

namespace SymbolIndex.Json

/-- A number that is written with a fraction or an exponent. -/
structure Decimal where
  /-- Whether there is a minus sign. -/
  negative : Bool
  /-- All digits, the point left out. -/
  digits : List Char
  /-- The power of ten that the digits are multiplied by. -/
  exponent : Int
  deriving DecidableEq

/-- A number: an integer, or anything else. -/
inductive Number where
  | int (n : Int)
  | decimal (d : Decimal)
  deriving DecidableEq

/-- The digits at the start of a source, and what follows them. -/
def digits : Source → List Char × Source
  | some c :: r =>
    if c.isDigit then
      let (ds, rest) := digits r
      (c :: ds, rest)
    else ([], some c :: r)
  | s => ([], s)

/-- The number that decimal digits spell. -/
def ofDigits (ds : List Char) : Nat := ds.foldl (fun n c => n * 10 + (c.toNat - '0'.toNat)) 0

namespace Decimal

/-- The number that the digits spell. -/
def coefficient (d : Decimal) : Nat := ofDigits d.digits

/-- The digits from the first that is not zero. -/
def significant (d : Decimal) : List Char := d.digits.dropWhile (· == '0')

/-- How many significant digits stand before the point; none or fewer when zeros follow it. -/
def places (d : Decimal) : Int := d.significant.length + d.exponent

/-- The least number that is nearer to `2 ^ 1024` than to any double. -/
def bound : Nat := Nat.pow 2 1024 - Nat.pow 2 970

/-- Whether a number is at least `bound`, a number of 309 digits. With another number of places
there is nothing to compute. -/
def isOutOfRange (d : Decimal) : Bool :=
  if d.significant.isEmpty then false
  else if d.places = 309 then
    bound * Nat.pow 10 (-d.exponent).toNat ≤ d.coefficient * Nat.pow 10 d.exponent.toNat
  else 309 < d.places

end Decimal

/-- Whether an integer fits into a machine word, with or without a sign. -/
def isWord (n : Int) : Bool := -Int.pow 2 63 ≤ n && n < Int.pow 2 64

/-- The length of the longest integer that is kept, its sign counted. -/
def maxIntegerLength : Nat := 4300

/-- Whether an integer is longer than that. -/
def isTooLong (n : Int) : Bool :=
  !isWord n && (Int.pow 10 maxIntegerLength ≤ n || n ≤ -Int.pow 10 (maxIntegerLength - 1))

/-- Whether a number is too large for a floating-point number. -/
def Number.isOutOfRange : Number → Bool
  | .int n     => !isWord n && Decimal.bound ≤ n.natAbs
  | .decimal d => d.isOutOfRange

/-- Whether a minus sign stands here, and what follows it. -/
def minus : Source → Bool × Source
  | some '-' :: r => (true, r)
  | s             => (false, s)

/-- The integer part: one digit, or several of which the first is not zero. -/
def integerPart? (s : Source) : Option (List Char × Source) :=
  match digits s with
  | ([], _)            => none
  | ('0' :: _ :: _, _) => none
  | (ds, r)            => some (ds, r)

/-- The digits of a fraction, if there is one. -/
def fractionPart? : Source → Option (Option (List Char) × Source)
  | some '.' :: r =>
    match digits r with
    | ([], _) => none
    | (ds, r) => some (some ds, r)
  | s => some (none, s)

/-- Whether the sign of an exponent is a minus, and what follows the sign, if one stands here. -/
def exponentSign : Source → Bool × Source
  | some c :: r => if c = '+' ∨ c = '-' then (c == '-', r) else (false, some c :: r)
  | s           => (false, s)

/-- The number that digits and a sign spell. -/
def signed (negative : Bool) (ds : List Char) : Int :=
  if negative then -(ofDigits ds : Int) else ofDigits ds

/-- The exponent, if there is one. -/
def exponentPart? : Source → Option (Option Int × Source)
  | some c :: r =>
    if c = 'e' ∨ c = 'E' then
      let (negative, r) := exponentSign r
      match digits r with
      | ([], _) => none
      | (ds, r) => some (some (signed negative ds), r)
    else some (none, some c :: r)
  | s => some (none, s)

/-- The number that its parts spell. -/
def Number.ofParts (negative : Bool) (whole : List Char) (fraction : Option (List Char))
    (exponent : Option Int) : Number :=
  if fraction.isNone && exponent.isNone then .int (signed negative whole)
  else
    let behind := fraction.getD []
    .decimal ⟨negative, whole ++ behind, exponent.getD 0 - behind.length⟩

/-- The number at the start of a source, and what follows it. -/
def number? (s : Source) : Option (Number × Source) := do
  let (negative, r) := minus s
  let (whole, r) ← integerPart? r
  let (fraction, r) ← fractionPart? r
  let (exponent, r) ← exponentPart? r
  return (.ofParts negative whole fraction exponent, r)

theorem length_of_digits (s : Source) : (digits s).2.length + (digits s).1.length = s.length := by
  fun_induction digits s with
  | case1 c r _ ds rest eq ih =>
    simp only [eq] at ih ⊢
    simp only [List.length_cons]
    omega
  | case2 => simp
  | case3 => simp

theorem length_of_minus (s : Source) : (minus s).2.length ≤ s.length := by
  unfold minus
  split <;> simp

theorem length_of_integerPart? {s r : Source} {ds : List Char}
    (h : integerPart? s = some (ds, r)) : r.length < s.length := by
  have bound := length_of_digits s
  unfold integerPart? at h
  split at h
  · cases h
  · cases h
  next ds' r' nonempty _ eq =>
    cases h
    rw [eq] at bound
    cases ds with
    | nil => exact absurd rfl nonempty
    | cons c ds =>
      simp only [List.length_cons] at bound
      omega

theorem length_of_fractionPart? {s r : Source} {fraction : Option (List Char)}
    (h : fractionPart? s = some (fraction, r)) : r.length ≤ s.length := by
  unfold fractionPart? at h
  split at h
  next s' =>
    have bound := length_of_digits s'
    split at h
    · cases h
    next ds' r' _ eq =>
      cases h
      simp only [eq, List.length_cons] at bound ⊢
      omega
  · cases h
    exact Nat.le_refl _

theorem length_of_exponentSign (s : Source) : (exponentSign s).2.length ≤ s.length := by
  unfold exponentSign
  split
  · split <;> simp
  · simp

theorem length_of_exponentPart? {s r : Source} {exponent : Option Int}
    (h : exponentPart? s = some (exponent, r)) : r.length ≤ s.length := by
  unfold exponentPart? at h
  split at h
  next c s' =>
    split at h
    · have signed := length_of_exponentSign s'
      have bound := length_of_digits (exponentSign s').2
      dsimp only at h
      split at h
      · cases h
      next ds' r' _ eq =>
        cases h
        simp only [eq, List.length_cons] at bound ⊢
        omega
    · cases h
      exact Nat.le_refl _
  · cases h
    exact Nat.le_refl _

theorem length_of_number? {s r : Source} {n : Number} (h : number? s = some (n, r)) :
    r.length < s.length := by
  simp only [number?, Option.bind_eq_bind, Option.bind_eq_some_iff, Prod.exists] at h
  obtain ⟨whole, r₁, h₁, fraction, r₂, h₂, exponent, r₃, h₃, h⟩ := h
  have := length_of_minus s
  have := length_of_integerPart? h₁
  have := length_of_fractionPart? h₂
  have := length_of_exponentPart? h₃
  cases h
  omega

end SymbolIndex.Json
