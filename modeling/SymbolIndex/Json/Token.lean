import SymbolIndex.Json.Number
import SymbolIndex.Json.Quotation

/-!
# JSON tokens

The words of JSON as RFC 8259 defines them. Each token is as long as it can be; where no token can
stand, the list of tokens ends with `Token.malformed`. Whether a text is malformed is thus known
token by token, before anything is asked about its meaning.
-/

namespace SymbolIndex.Json

/-- A word of JSON. -/
inductive Token where
  | openObject
  | closeObject
  | openArray
  | closeArray
  | colon
  | comma
  | null
  | bool (b : Bool)
  | number (n : Number)
  /-- A string, its escapes resolved. -/
  | str (content : Source)
  /-- The place where the text stops being JSON. -/
  | malformed
  deriving DecidableEq

/-- Space, tab, line feed and carriage return. -/
def isSpace (c : Char) : Bool := c == ' ' || c == '\t' || c == '\n' || c == '\r'

/-- The token for a word, when the source goes on with the rest of the word. -/
def word? (t : Token) : List Char → Source → Option (Token × Source)
  | [], s               => some (t, s)
  | w :: ws, some c :: s => if c = w then word? t ws s else none
  | _ :: _, _           => none

/-- The token that starts with the character `c`, and what follows it. -/
def token? (c : Char) (s : Source) : Option (Token × Source) :=
  match c with
  | '{' => some (.openObject, s)
  | '}' => some (.closeObject, s)
  | '[' => some (.openArray, s)
  | ']' => some (.closeArray, s)
  | ':' => some (.colon, s)
  | ',' => some (.comma, s)
  | '"' => (string? s).map fun (content, r) => (.str content, r)
  | 'n' => word? .null ['u', 'l', 'l'] s
  | 't' => word? (.bool true) ['r', 'u', 'e'] s
  | 'f' => word? (.bool false) ['a', 'l', 's', 'e'] s
  | c   => (number? (some c :: s)).map fun (n, r) => (.number n, r)

theorem length_of_word? {w : List Char} {t u : Token} {s r : Source}
    (h : word? t w s = some (u, r)) : r.length ≤ s.length := by
  fun_induction word? t w s with
  | case1 =>
    cases h
    exact Nat.le_refl _
  | case2 ws c s ih =>
    have := ih h
    simp only [List.length_cons]
    omega
  | case3 => cases h
  | case4 => cases h

theorem length_of_token? {c : Char} {s r : Source} {t : Token} (h : token? c s = some (t, r)) :
    r.length ≤ s.length := by
  unfold token? at h
  split at h
  case h_7 =>
    simp only [Option.map_eq_some_iff, Prod.exists, Prod.mk.injEq] at h
    obtain ⟨_, _, h, _, rfl⟩ := h
    exact Nat.le_of_lt (length_of_string? h)
  case h_8 | h_9 | h_10 => exact length_of_word? h
  case h_11 =>
    simp only [Option.map_eq_some_iff, Prod.exists, Prod.mk.injEq] at h
    obtain ⟨_, _, h, _, rfl⟩ := h
    have := length_of_number? h
    simp only [List.length_cons] at this
    omega
  all_goals
    cases h
    exact Nat.le_refl _

/-- The tokens of a source, up to the first place where none can stand. -/
def tokens : Source → List Token
  | []          => []
  | none :: _   => [.malformed]
  | some c :: s =>
    if isSpace c then tokens s
    else
      match _h : token? c s with
      | none        => [.malformed]
      | some (t, r) => t :: tokens r
termination_by s => s.length
decreasing_by
  · simp
  · have := length_of_token? _h
    simp only [List.length_cons]
    omega

end SymbolIndex.Json
