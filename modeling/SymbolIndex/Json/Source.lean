/-!
# The characters of a file

A file is a sequence of bytes. Read as UTF-8 it is a sequence of characters, with a gap for each
byte that belongs to no character. No gap ever covers an ASCII character, so the places where
quotation marks and brackets stand do not depend on the rest of the file being well-formed.
-/

namespace SymbolIndex.Json

/-- Characters, and a gap for each byte that belongs to none. -/
abbrev Source := List (Option Char)

namespace Source

/-- The characters from position `i` on. -/
def fromPosition (bytes : ByteArray) (i : Nat) : Source :=
  if _inside : i < bytes.size then
    match bytes.utf8DecodeChar? i with
    | some c => some c :: fromPosition bytes (i + c.utf8Size)
    | none   => none :: fromPosition bytes (i + 1)
  else []
termination_by bytes.size - i
decreasing_by
  · have := c.utf8Size_pos
    omega
  · omega

/-- The characters of a file. -/
def ofBytes (bytes : ByteArray) : Source := fromPosition bytes 0

/-- The source without gaps that spells a text. -/
def ofText (t : List Char) : Source := t.map some

/-- The text of a source, when it has no gap. -/
def text? : Source → Option (List Char)
  | []          => some []
  | none :: _   => none
  | some c :: r => (text? r).map (c :: ·)

end Source

end SymbolIndex.Json
