import Mathlib.Data.List.Chain
import Mathlib.Data.List.ReduceOption
import Mathlib.Tactic.ByContra
import SymbolIndex.Json.Token
import SymbolIndex.Proofs.Json.Number
import SymbolIndex.Proofs.Json.Quotation

/-!
# Laid out tokens

Tokens are written one after another with gaps of white space between them, or with none where
neither of two neighbours is a number. What is written so is read as the same tokens.
-/

namespace SymbolIndex.Json

variable {s g : Text} {t : Token} {ts : List Token} {r : Source}

/-! ### Single tokens -/

/-- The tokens of one character. -/
def punctuation : List (Token × Char) :=
  [(.openObject, '{'), (.closeObject, '}'), (.openArray, '['), (.closeArray, ']'), (.colon, ':'),
    (.comma, ',')]

/-- The tokens that are words. -/
def words : List (Token × Text) :=
  [(.null, "null".toList), (.bool true, "true".toList), (.bool false, "false".toList)]

/-- A text between quotation marks. -/
def inMarks (s : Text) : Text := '"' :: s ++ ['"']

/-- A token as it is written. -/
inductive TokenText : Token → Text → Prop
  | mark {t : Token} {c : Char} (h : (t, c) ∈ punctuation) : TokenText t [c]
  | word {t : Token} {w : Text} (h : (t, w) ∈ words) : TokenText t w
  | number {n : Number} {s : Text} (h : NumberText n s) : TokenText (.number n) s
  | str {t s : Text} (h : Quoted t s) : TokenText (.str (Source.ofText t)) (inMarks s)

/-- Whether a token is a number. -/
def Token.isNumber : Token → Bool
  | .number _ => true
  | _         => false

/-- A source begins with a token, and goes on with the rest. -/
def Begins (s : Source) (t : Token) (r : Source) : Prop :=
  ∃ c s', s = some c :: s' ∧ isSpace c = false ∧ token? c s' = some (t, r)

lemma begins_punctuation (r : Source) : ∀ p ∈ punctuation, Begins (some p.2 :: r) p.1 r := by
  simp only [punctuation, List.forall_mem_cons]
  exact ⟨⟨_, _, rfl, rfl, rfl⟩, ⟨_, _, rfl, rfl, rfl⟩, ⟨_, _, rfl, rfl, rfl⟩,
    ⟨_, _, rfl, rfl, rfl⟩, ⟨_, _, rfl, rfl, rfl⟩, ⟨_, _, rfl, rfl, rfl⟩, List.forall_mem_nil _⟩

lemma begins_words (r : Source) : ∀ p ∈ words, Begins (Source.ofText p.2 ++ r) p.1 r := by
  simp only [words, List.forall_mem_cons]
  exact ⟨⟨_, _, rfl, rfl, rfl⟩, ⟨_, _, rfl, rfl, rfl⟩, ⟨_, _, rfl, rfl, rfl⟩, List.forall_mem_nil _⟩

/-- What begins like a number is read as a number. -/
lemma token?_eq_number? {c : Char} (h : c.isDigit = true ∨ c = '-') (r : Source) :
    token? c r = (number? (some c :: r)).map fun (n, r) => (.number n, r) := by
  unfold token?
  split
  all_goals first | rfl | (rcases h with h | h <;> cases h)

lemma TokenText.begins (h : TokenText t s) (free : t.isNumber = true → Free extendsNumber r) :
    Begins (Source.ofText s ++ r) t r := by
  cases h with
  | mark h => exact begins_punctuation r _ h
  | word h => exact begins_words r _ h
  | number h =>
    obtain ⟨c, w, rfl, first⟩ := h.exists_cons
    refine ⟨c, Source.ofText w ++ r, rfl, ?_, ?_⟩
    · by_contra space
      simp only [isSpace, Bool.not_eq_false, Bool.or_eq_true, beq_iff_eq] at space
      rcases space with ((rfl | rfl) | rfl) | rfl <;> rcases first with h | h <;> cases h
    · rw [token?_eq_number? first]
      exact congrArg (Option.map _) (h.number? (free rfl))
  | @str t s h =>
    refine ⟨'"', Source.ofText s ++ some '"' :: r, ?_, rfl, ?_⟩
    · simp [Source.ofText, inMarks]
    · change (string? (Source.ofText s ++ some '"' :: r)).map _ = _
      rw [h.string?]
      rfl

/-- No token but a number goes on with a number in front of it. -/
lemma TokenText.free (h : TokenText t s) (other : t.isNumber = false) (r : Source) :
    Free extendsNumber (Source.ofText s ++ r) := by
  have marks : ∀ p ∈ punctuation, extendsNumber p.2 = false := by decide
  have letters : ∀ p ∈ words, ∃ c w, p.2 = c :: w ∧ extendsNumber c = false := by
    simp only [words, List.forall_mem_cons]
    exact ⟨⟨_, _, rfl, rfl⟩, ⟨_, _, rfl, rfl⟩, ⟨_, _, rfl, rfl⟩, List.forall_mem_nil _⟩
  cases h with
  | mark h => exact free_cons (marks _ h) r
  | word h =>
    obtain ⟨c, w, rfl, other⟩ := letters _ h
    exact free_cons other _
  | number h => cases other
  | str h => exact free_cons rfl _

/-! ### Tokens without escapes -/

/-- A token as it is written without escapes. -/
def Token.plain : Token → Text
  | .number (.int n) => Text.ofInt n
  | .str s           => inMarks s.reduceOption
  | t                => ((words.lookup t).or ((punctuation.lookup t).map ([·]))).getD []

/-- A character that needs no escape. -/
def isUnescaped (c : Char) : Bool := 0x20 ≤ c.toNat && c != '"' && c != '\\'

/-- Whether a token can be written without escapes. -/
def Token.isPlain : Token → Bool
  | .number (.decimal _) | .malformed => false
  | .str s => s.all (·.any isUnescaped)
  | _      => true

lemma quoted_reduceOption {s : Source} (h : s.all (·.any isUnescaped) = true) :
    Source.ofText s.reduceOption = s ∧ Quoted s.reduceOption s.reduceOption := by
  induction s with
  | nil => exact ⟨rfl, .nil⟩
  | cons c s ih =>
    rw [List.all_cons, Bool.and_eq_true] at h
    obtain ⟨same, quoted⟩ := ih h.2
    cases c with
    | none => cases h.1
    | some c =>
      have unescaped : isUnescaped c = true := h.1
      simp only [isUnescaped, Bool.and_eq_true, decide_eq_true_eq, bne_iff_ne] at unescaped
      obtain ⟨⟨graphic, mark⟩, backslash⟩ := unescaped
      rw [List.reduceOption_cons_of_some]
      exact ⟨congrArg (some c :: ·) same, .cons (.plain graphic mark backslash) quoted⟩

lemma tokenText_plain (h : t.isPlain = true) : TokenText t t.plain := by
  cases t with
  | openObject | closeObject | openArray | closeArray | colon | comma => exact .mark (by decide)
  | null => exact .word (by decide)
  | bool b => cases b <;> exact .word (by decide)
  | number n =>
    cases n with
    | int n => exact .number (.int n)
    | decimal d => cases h
  | str s =>
    obtain ⟨same, quoted⟩ := quoted_reduceOption h
    have written := TokenText.str quoted
    rwa [same] at written
  | malformed => cases h

/-! ### Tokens with gaps -/

/-- White space. -/
def Gap (g : Text) : Prop := ∀ c ∈ g, isSpace c = true

/-- Tokens as they are written, with gaps around them. -/
inductive Laid : List Token → Text → Prop
  | nil {g : Text} (gap : Gap g) : Laid [] g
  | cons {g s u : Text} {t : Token} {ts : List Token} (gap : Gap g) (first : TokenText t s)
      (rest : Laid ts u) : Laid (t :: ts) (g ++ s ++ u)

/-- Tokens without escapes, with no gap in front of any. -/
lemma Laid.plain_append (ts : List Token) {us : List Token} (h : ts.all Token.isPlain = true)
    (rest : Laid us s) : Laid (ts ++ us) (ts.flatMap Token.plain ++ s) := by
  induction ts with
  | nil => exact rest
  | cons t ts ih =>
    rw [List.all_cons, Bool.and_eq_true] at h
    rw [List.flatMap_cons, List.append_assoc]
    exact .cons (g := []) (List.forall_mem_nil _) (tokenText_plain h.1) (ih h.2)

/-- A gap may stand between two tokens but need not. -/
def Apart (t u : Token) : Prop := t.isNumber = true → u.isNumber = false

lemma tokens_gap (gap : Gap g) (r : Source) : tokens (Source.ofText g ++ r) = tokens r := by
  induction g with
  | nil => rfl
  | cons c g ih =>
    obtain ⟨space, rest⟩ := List.forall_mem_cons.mp gap
    change tokens (some c :: (Source.ofText g ++ r)) = _
    rw [tokens, if_pos space, ih rest]

lemma tokens_of_begins {s : Source} (h : Begins s t r) : tokens s = t :: tokens r := by
  obtain ⟨c, s', rfl, solid, read⟩ := h
  rw [tokens, if_neg (by simp [solid])]
  split
  · next none => cases read.symm.trans none
  · next found =>
    cases read.symm.trans found
    rfl

lemma Gap.free (gap : Gap g) (h : Free extendsNumber r) :
    Free extendsNumber (Source.ofText g ++ r) := by
  cases g with
  | nil => exact h
  | cons c g =>
    apply free_cons
    have space := gap c List.mem_cons_self
    simp only [isSpace, Bool.or_eq_true, beq_iff_eq] at space
    rcases space with ((rfl | rfl) | rfl) | rfl <;> rfl

/-- A number is not continued by what is laid out behind it. -/
lemma Laid.free (h : Laid ts s) (other : ∀ t ∈ ts.head?, t.isNumber = false) :
    Free extendsNumber (Source.ofText s) := by
  cases h with
  | nil gap =>
    have free := gap.free (r := []) (by rintro c ⟨⟩)
    rwa [List.append_nil] at free
  | @cons g s u t ts gap first rest =>
    have source : Source.ofText (g ++ s ++ u)
        = Source.ofText g ++ (Source.ofText s ++ Source.ofText u) := by
      simp [Source.ofText]
    rw [source]
    exact gap.free (first.free (other t rfl) _)

/-- Laid out tokens are read one by one. -/
lemma Laid.tokens (h : Laid ts s) (apart : ts.IsChain Apart) : tokens (Source.ofText s) = ts := by
  induction h with
  | @nil g gap =>
    have read := tokens_gap gap []
    rw [List.append_nil] at read
    rw [read, Json.tokens]
  | @cons g s u t ts gap first rest ih =>
    have source : Source.ofText (g ++ s ++ u)
        = Source.ofText g ++ (Source.ofText s ++ Source.ofText u) := by
      simp [Source.ofText]
    rw [List.isChain_cons] at apart
    have free : t.isNumber = true → Free extendsNumber (Source.ofText u) := fun number =>
      rest.free fun u next => apart.1 u next number
    rw [source, tokens_gap gap, tokens_of_begins (first.begins free), ih apart.2]

end SymbolIndex.Json
