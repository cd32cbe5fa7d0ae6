import SymbolIndex.Text.Basic

/-!
# Text on a terminal

Three rules for text that is sent to a terminal: styled text loses five control characters, plain
text sent elsewhere loses its escape sequences, and a style is switched on and off by sequences of
its own.
-/

namespace SymbolIndex.Text

/-- Bell, backspace, vertical tab, form feed and carriage return. -/
def isTerminalControl (c : Char) : Bool :=
  c.toNat == 0x07 || c.toNat == 0x08 || c.toNat == 0x0B || c.toNat == 0x0C || c.toNat == 0x0D

/-- The text without the five control characters that styled text never holds. -/
def withoutControls (t : Text) : Text := t.filter fun c => !isTerminalControl c

/-- The character that opens an escape sequence. -/
def escapeChar : Char := Char.ofNat 0x1B

private def between (low high : Nat) (c : Char) : Bool := low ≤ c.toNat && c.toNat ≤ high

/-- What follows the escape sequence whose parameters `t` starts with, when there is one: any
characters from `0` to `?`, then any from the space to `/`, then one from `@` to `~`. -/
def afterSequence? (t : Text) : Option Text :=
  match (t.dropWhile (between 0x30 0x3F)).dropWhile (between 0x20 0x2F) with
  | c :: r => if between 0x40 0x7E c then some r else none
  | []     => none

theorem length_of_afterSequence? {t r : Text} (h : afterSequence? t = some r) :
    r.length < t.length := by
  unfold afterSequence? at h
  have bound : ((t.dropWhile (between 0x30 0x3F)).dropWhile (between 0x20 0x2F)).length
      ≤ t.length :=
    Nat.le_trans (List.dropWhile_sublist _).length_le (List.dropWhile_sublist _).length_le
  split at h
  next c s eq =>
    rw [eq] at bound
    split at h
    · cases h
      exact bound
    · cases h
  next => cases h

/-- The text without its escape sequences. -/
def withoutSequences : Text → Text
  | []           => []
  | c :: '[' :: r =>
    if c == escapeChar then
      match _eq : afterSequence? r with
      | some s => withoutSequences s
      | none   => c :: withoutSequences ('[' :: r)
    else c :: withoutSequences ('[' :: r)
  | c :: r        => c :: withoutSequences r
termination_by t => t.length
decreasing_by
  · have := length_of_afterSequence? _eq
    simp only [List.length_cons]
    omega
  all_goals simp

end SymbolIndex.Text
