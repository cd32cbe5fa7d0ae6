import SymbolIndex.Kind
import SymbolIndex.Text.Blank

/-!
# Sets of kinds

A list of kind names selects a set of kinds. The set is kept in the order of `Kind.Tag.all`, so two
lists that name the same kinds give the same set; a list that names none selects everything.
-/

namespace SymbolIndex

/-- A set of kinds, listed in the order of `Kind.Tag.all`. -/
structure KindSet where
  /-- The tags of the set. -/
  tags : List Kind.Tag
  deriving DecidableEq

namespace KindSet

/-- The set of the tags that a list holds, in whatever order and however often. -/
def ofList (tags : List Kind.Tag) : KindSet := ⟨Kind.Tag.all.filter (tags.contains ·)⟩

/-- The written names of the set, in alphabetical order. -/
def names (s : KindSet) : List Text := s.tags.map Kind.Tag.name

/-- The names in a comma-separated list: blanks around them do not count, nor do empty names. -/
def pieces (spec : Text) : List Text :=
  ((spec.splitOn ',').map Text.trim).filter (!·.isEmpty)

/-- The tags with the given names, or the first name that no tag has. -/
def tagsOfNames : List Text → Except Kind.Fault (List Kind.Tag)
  | []      => .ok []
  | t :: ts =>
    match Kind.Tag.ofName? t with
    | none     => .error (.unknownName t)
    | some tag => (tagsOfNames ts).map (tag :: ·)

/-- The set that a comma-separated list of names selects; no set when it names nothing. -/
def parse (spec : Text) : Except Kind.Fault (Option KindSet) :=
  (tagsOfNames (pieces spec)).map fun tags =>
    if tags.isEmpty then none else some (ofList tags)

/-- The set that an optional list of names selects. -/
def parse? : Option Text → Except Kind.Fault (Option KindSet)
  | none      => .ok none
  | some spec => parse spec

/-- Whether a symbol with the given tag passes an optional set of kinds. -/
def admits (s : Option KindSet) (tag : Kind.Tag) : Bool :=
  match s with
  | none   => true
  | some s => s.tags.contains tag

end KindSet

end SymbolIndex
