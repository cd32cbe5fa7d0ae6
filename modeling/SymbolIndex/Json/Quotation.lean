import SymbolIndex.Json.Source

/-!
# JSON strings

What stands between two quotation marks: characters, gaps and escapes. `string?` resolves the
escapes and finds the closing mark; it fails on a control character, on an escape that stands for
nothing, on half a surrogate pair and at the end of the source.
-/

namespace SymbolIndex.Json

/-- The character that a letter after a backslash stands for. -/
def simpleEscape? : Char → Option Char
  | '"'  => some '"'
  | '\\' => some '\\'
  | '/'  => some '/'
  | 'b'  => some (Char.ofNat 0x08)
  | 'f'  => some (Char.ofNat 0x0C)
  | 'n'  => some '\n'
  | 'r'  => some '\r'
  | 't'  => some '\t'
  | _    => none

/-- The value of a hexadecimal digit. -/
def hexDigit? (c : Char) : Option Nat :=
  if c.isDigit then some (c.toNat - '0'.toNat)
  else if 'a' ≤ c ∧ c ≤ 'f' then some (c.toNat - 'a'.toNat + 10)
  else if 'A' ≤ c ∧ c ≤ 'F' then some (c.toNat - 'A'.toNat + 10)
  else none

/-- The code unit that four hexadecimal digits spell, and what follows them. -/
def codeUnit? : Source → Option (Nat × Source)
  | some a :: some b :: some c :: some d :: r =>
    match hexDigit? a, hexDigit? b, hexDigit? c, hexDigit? d with
    | some a, some b, some c, some d => some (((a * 16 + b) * 16 + c) * 16 + d, r)
    | _, _, _, _                     => none
  | _ => none

/-- The first half of a surrogate pair. -/
def isHighSurrogate (n : Nat) : Bool := 0xD800 ≤ n && n ≤ 0xDBFF

/-- The second half of a surrogate pair. -/
def isLowSurrogate (n : Nat) : Bool := 0xDC00 ≤ n && n ≤ 0xDFFF

/-- The code unit of a second `\u` escape. -/
def secondUnit? : Source → Option (Nat × Source)
  | some '\\' :: some 'u' :: r => codeUnit? r
  | _                          => none

/-- The character of a `\u` escape, and what follows it: a code unit that is no surrogate, or two
that are a pair. -/
def unicodeEscape? (s : Source) : Option (Char × Source) :=
  match codeUnit? s with
  | none        => none
  | some (n, r) =>
    if isHighSurrogate n then
      match secondUnit? r with
      | none        => none
      | some (m, r) =>
        if isLowSurrogate m then
          some (Char.ofNat (0x10000 + (n - 0xD800) * 0x400 + (m - 0xDC00)), r)
        else none
    else if isLowSurrogate n then none
    else some (Char.ofNat n, r)

/-- The character that an escape stands for, read after its backslash, and what follows it. -/
def escape? : Source → Option (Char × Source)
  | some c :: r => if c = 'u' then unicodeEscape? r else (simpleEscape? c).map (·, r)
  | _           => none

theorem length_of_codeUnit? {s r : Source} {n : Nat} (h : codeUnit? s = some (n, r)) :
    r.length < s.length := by
  unfold codeUnit? at h
  split at h
  · split at h <;> simp at h
    obtain ⟨_, rfl⟩ := h
    simp only [List.length_cons]
    omega
  · cases h

theorem length_of_secondUnit? {s r : Source} {n : Nat} (h : secondUnit? s = some (n, r)) :
    r.length < s.length := by
  unfold secondUnit? at h
  split at h
  · have := length_of_codeUnit? h
    simp only [List.length_cons]
    omega
  · cases h

theorem length_of_unicodeEscape? {s r : Source} {c : Char}
    (h : unicodeEscape? s = some (c, r)) : r.length < s.length := by
  unfold unicodeEscape? at h
  split at h
  · cases h
  next n r₁ h₁ =>
    have := length_of_codeUnit? h₁
    split at h
    · split at h
      · cases h
      next m r₂ h₂ =>
        have := length_of_secondUnit? h₂
        split at h <;> simp at h
        obtain ⟨_, rfl⟩ := h
        omega
    · split at h <;> simp at h
      obtain ⟨_, rfl⟩ := h
      omega

theorem length_of_escape? {s r : Source} {c : Char} (h : escape? s = some (c, r)) :
    r.length < s.length := by
  unfold escape? at h
  split at h
  · split at h
    · have := length_of_unicodeEscape? h
      simp only [List.length_cons]
      omega
    · simp at h
      obtain ⟨_, _, _, rfl⟩ := h
      simp
  · cases h

/-- The content of a string, read after its opening mark, and what follows its closing mark. A
control character must be escaped; a gap is content. -/
def string? : Source → Option (Source × Source)
  | []        => none
  | none :: r => (string? r).map fun (s, rest) => (none :: s, rest)
  | some c :: r =>
    if c = '"' then some ([], r)
    else if c = '\\' then
      match _h : escape? r with
      | none        => none
      | some (d, r) => (string? r).map fun (s, rest) => (some d :: s, rest)
    else if c.toNat < 0x20 then none
    else (string? r).map fun (s, rest) => (some c :: s, rest)
termination_by s => s.length
decreasing_by
  · simp
  · have := length_of_escape? _h
    simp only [List.length_cons]
    omega
  · simp

theorem length_of_string? {s content r : Source} (h : string? s = some (content, r)) :
    r.length < s.length := by
  fun_induction string? s generalizing content r with
  | case1 => cases h
  | case2 s ih =>
    simp only [Option.map_eq_some_iff, Prod.exists, Prod.mk.injEq] at h
    obtain ⟨t, rest, h, rfl, rfl⟩ := h
    have := ih h
    simp only [List.length_cons]
    omega
  | case3 s =>
    cases h
    simp
  | case4 s _ _ => cases h
  | case5 s d s' h' _ ih =>
    simp only [Option.map_eq_some_iff, Prod.exists, Prod.mk.injEq] at h
    obtain ⟨t, rest, h, rfl, rfl⟩ := h
    have := ih h
    have := length_of_escape? h'
    simp only [List.length_cons]
    omega
  | case6 c s _ _ _ => cases h
  | case7 c s _ _ _ ih =>
    simp only [Option.map_eq_some_iff, Prod.exists, Prod.mk.injEq] at h
    obtain ⟨t, rest, h, rfl, rfl⟩ := h
    have := ih h
    simp only [List.length_cons]
    omega

end SymbolIndex.Json
