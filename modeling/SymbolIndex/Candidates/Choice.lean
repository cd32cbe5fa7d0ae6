import SymbolIndex.Kind

/-!
# Choosing among candidates

Several entries can match one query. A rule says which of them is meant: the first one, or the
first one of the lowest rank. The choice depends on the tags of the candidates and their order
only, so candidates may be of any type that has tags.
-/

namespace SymbolIndex

/-- How one of several candidates is chosen. -/
inductive ChoiceRule where
  /-- The first candidate. -/
  | first
  /-- The candidate of the lowest rank, and the first of these. -/
  | kind
  deriving DecidableEq, Repr

namespace ChoiceRule

/-- The written name of a rule. -/
def name : ChoiceRule → Text
  | .first => "first".toList
  | .kind  => "kind".toList

/-- The rule with the given written name. -/
def ofName? (t : Text) : Option ChoiceRule := [first, kind].find? (·.name == t)

/-- The wording for a name that no rule has. -/
def unknownMessage (t : Text) : Text := t.quoted ++ " is not a valid TieBreak".toList

end ChoiceRule

/-- The first element of the lowest rank. -/
def lowest? {α : Type} (rank : α → Nat) : List α → Option α
  | []      => none
  | a :: as =>
    match lowest? rank as with
    | none   => some a
    | some b => some (if rank b < rank a then b else a)

namespace ChoiceRule

/-- The candidate that a rule chooses. -/
def choose? {α : Type} (tag : α → Kind.Tag) : ChoiceRule → List α → Option α
  | .first, candidates => candidates.head?
  | .kind, candidates  => lowest? (fun a => (tag a).rank) candidates

end ChoiceRule

/-- Whether there are candidates. -/
def isFound {α : Type} (candidates : List α) : Bool := !candidates.isEmpty

/-- Whether there is exactly one candidate, so that nothing has to be chosen. -/
def isUnique {α : Type} (candidates : List α) : Bool := candidates.length == 1

/-- A query that nothing matches. -/
structure NotFound where
  /-- The query, as it was given. -/
  query : Text
  deriving DecidableEq

/-- The wording for a query that nothing matches. -/
def NotFound.message (e : NotFound) : Text := "Symbol not found: ".toList ++ e.query

/-- The one candidate that a query means. -/
def chosen {α : Type} (tag : α → Kind.Tag) (rule : ChoiceRule) (query : Text)
    (candidates : List α) : Except NotFound α :=
  match rule.choose? tag candidates with
  | some a => .ok a
  | none   => .error ⟨query⟩

end SymbolIndex
