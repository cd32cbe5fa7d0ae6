import SymbolIndex.Entry.Reading

/-!
# Locating candidates

The candidates of a query are asked for their location on the preferred side, and only when none
has one for that on the other side. The result says which side was used and gives the location of
each candidate on it.
-/

namespace SymbolIndex

/-- Where the candidates of a query are. -/
structure Located where
  /-- The side that was used. -/
  side : Side
  /-- The location of each candidate on that side. -/
  sites : List (Option Location)
  deriving DecidableEq

namespace Located

/-- Whether any candidate has a location. -/
def found (l : Located) : Bool := l.sites.any Option.isSome

/-- Those of the candidates that have a location, with it. -/
def hits {α : Type} (l : Located) (candidates : List α) : List (α × Location) :=
  (candidates.zip l.sites).filterMap fun (a, site) => site.map (a, ·)

end Located

/-- The location of each entry on one side. -/
def sites (side : Side) (es : List Entry) : Except Failure (List (Option Location)) × List Entry :=
  match (Reading.getLocation side).onEach es with
  | ((_, some f), es) => (.error f, es)
  | ((ls, none), es)  => (.ok ls, es)

/-- Locate candidates, on the preferred side if any of them has a location there. -/
def locate (preferred : Side) (es : List Entry) : Except Failure Located × List Entry :=
  match sites preferred es with
  | (.error f, es) => (.error f, es)
  | (.ok ls, es)   =>
    if ls.any Option.isSome then (.ok ⟨preferred, ls⟩, es)
    else
      match sites preferred.other es with
      | (.error f, es) => (.error f, es)
      | (.ok others, es) =>
        if others.any Option.isSome then (.ok ⟨preferred.other, others⟩, es)
        else (.ok ⟨preferred, ls⟩, es)

end SymbolIndex
