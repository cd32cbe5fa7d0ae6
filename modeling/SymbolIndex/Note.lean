import SymbolIndex.Candidates.Choice
import SymbolIndex.Entry.Basic

/-!
# Notes

What a query reports about itself when it is asked to be verbose.
-/

namespace SymbolIndex

/-- A remark on the course of a query. -/
inductive Note where
  /-- An index file was read. -/
  | loaded (entries : Nat) (source : Text)
  /-- A name was looked up. -/
  | lookedUp (query : Text) (matching : Nat)
  /-- A name was completed. -/
  | completed (query : Text) (matching : Nat)
  /-- One of several candidates was chosen. -/
  | chosen (candidates : Nat) (query fullPath : Text) (rule : ChoiceRule)
  /-- No candidate had a location on the preferred side. -/
  | fellBack (query : Text) (preferred : Side)
  deriving DecidableEq

namespace Note

/-- A remark as it is written. -/
def toText : Note → Text
  | .loaded n source =>
    "DEBUG modindex.index.provider: Loaded ".toList ++ Text.ofNat n ++ " entries from ".toList
      ++ source
  | .lookedUp query n =>
    "DEBUG modindex.index.provider: lookup ".toList ++ query.quoted ++ ": ".toList
      ++ Text.ofNat n ++ " match(es)".toList
  | .completed query n =>
    "DEBUG modindex.index.provider: complete ".toList ++ query.quoted ++ ": ".toList
      ++ Text.ofNat n ++ " match(es)".toList
  | .chosen n query fullPath rule =>
    "DEBUG modindex.queries.resolve: ".toList ++ Text.ofNat n ++ " candidates for ".toList
      ++ query.quoted ++ ", picked ".toList ++ fullPath ++ " by ".toList ++ rule.name
  | .fellBack query preferred =>
    "DEBUG modindex.queries.locate: No ".toList ++ preferred.name ++ " location for ".toList
      ++ query.quoted ++ ", using ".toList ++ preferred.other.name ++ " location".toList

end Note

end SymbolIndex
