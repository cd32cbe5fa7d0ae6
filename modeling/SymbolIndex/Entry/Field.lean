import SymbolIndex.Entry.Reading

/-!
# Fields of entries

The fields by name, and what reading one gives.
-/

namespace SymbolIndex

/-- The fields of an entry that can be read. -/
inductive Field where
  | name
  | fullPath
  | qualified
  | kind
  | artifact
  | type
  | doc
  | location (side : Side)
  deriving DecidableEq, Repr

namespace Field

/-- What a field holds. -/
inductive Content where
  | text (t : Text)
  | optionalText (t : Option Text)
  | location (l : Option Location)
  deriving DecidableEq

/-- Read a field. -/
def read : Field → Reading Content
  | .name           => return .text (← Reading.getOccurrence).name
  | .fullPath       => return .text (← Reading.getOccurrence).fullPath
  | .qualified      => return .text (← Reading.getOccurrence).qualified
  | .kind           => return .text (← Reading.getOccurrence).kind.toText
  | .artifact       => return .text (← Reading.getOccurrence).artifact
  | .type           => return .optionalText (← Reading.getType?)
  | .doc            => return .optionalText (← Reading.getDoc)
  | .location side  => return .location (← Reading.getLocation side)

end Field

end SymbolIndex
