import SymbolIndex.Console.Emoji

/-!
# Markup

A console reads what it prints as markup. A word in square brackets that starts with a small
letter or one of three signs is a tag, which switches a style; backslashes in front of a tag count
in pairs, and an odd one makes the tag text. Elsewhere a backslash in front of an opening bracket
is dropped and others stand for themselves. `escape` writes a text as markup for itself, as far as
that goes: backslashes that bear on no tag of the text are not doubled.
-/

namespace SymbolIndex.Console

/-- A stretch of markup. -/
inductive Markup where
  /-- Text without tags. -/
  | text (t : Text)
  /-- A tag with the backslashes in front of it. -/
  | tag (slashes : Nat) (word : Text)
  deriving DecidableEq

/-- Whether a tag can start with a character. -/
def startsTag (c : Char) : Bool := c.isLower || c == '#' || c == '/' || c == '@'

/-- Whether a tag can go on with a character. -/
def continuesTag (c : Char) : Bool := c != '[' && c != ']'

/-- The word of the tag that a text starts with, and what follows the tag. -/
def tag? : Text → Option (Text × Text)
  | '[' :: c :: r =>
    match startsTag c, r.dropWhile continuesTag with
    | true, ']' :: rest => some (c :: r.takeWhile continuesTag, rest)
    | _, _              => none
  | _ => none

theorem length_of_tag? {t word rest : Text} (h : tag? t = some (word, rest)) :
    rest.length < t.length := by
  unfold tag? at h
  split at h
  next c r =>
    have bound := (List.dropWhile_sublist continuesTag : (r.dropWhile _).Sublist r).length_le
    split at h
    next eq =>
      cases h
      rw [eq] at bound
      simp only [List.length_cons] at bound ⊢
      omega
    next => cases h
  next => cases h

namespace Markup

/-- Put a character in front. -/
def consText (c : Char) : List Markup → List Markup
  | .text t :: ms => .text (c :: t) :: ms
  | ms            => .text [c] :: ms

/-- The tags of a text, and the longest texts between them. -/
def parse (t : Text) : List Markup :=
  match _h : tag? (t.dropWhile (· == '\\')) with
  | some (word, rest) => .tag (t.takeWhile (· == '\\')).length word :: parse rest
  | none              =>
    match t with
    | []     => []
    | c :: r => consText c (parse r)
termination_by t.length
decreasing_by
  · have := length_of_tag? _h
    have := (List.dropWhile_sublist (· == '\\') : (t.dropWhile _).Sublist t).length_le
    omega
  · simp

/-- A tag as it is written. -/
def bracketed (word : Text) : Text := '[' :: word ++ [']']

/-- A text without the backslashes in front of its opening brackets. -/
def unescaped : Text → Text
  | '\\' :: '[' :: r => '[' :: unescaped r
  | c :: r           => c :: unescaped r
  | []               => []

/-- What is printed of a stretch of markup. -/
def printed : Markup → Text
  | .text t          => withEmoji (unescaped t)
  | .tag slashes word =>
    List.replicate (slashes / 2) '\\'
      ++ if slashes % 2 = 1 then withEmoji (bracketed word) else []

/-- A stretch of text as markup for itself. -/
def escaped : Markup → Text
  | .text t           => t
  | .tag slashes word => List.replicate (2 * slashes + 1) '\\' ++ bracketed word

end Markup

/-- Whether a text ends with exactly one backslash. -/
def endsWithOneSlash (t : Text) : Bool := (t.reverse.takeWhile (· == '\\')).length == 1

/-- A text as markup for itself. -/
def escape (t : Text) : Text :=
  let s := (Markup.parse t).flatMap Markup.escaped
  if endsWithOneSlash s then s ++ ['\\'] else s

/-- What is printed of some markup, all styles left out. -/
def printedMarkup (t : Text) : Text := (Markup.parse t).flatMap Markup.printed

end SymbolIndex.Console
