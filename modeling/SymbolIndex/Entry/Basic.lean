import SymbolIndex.Cell
import SymbolIndex.Kind
import SymbolIndex.Location

/-!
# Entries

An entry is one occurrence of a symbol together with three cells for what is costly to compute.
The occurrence holds all that is known from the start: the path that declares the symbol, the path
that reaches it, its kind and its place in the interface.
-/

namespace SymbolIndex

/-- The two places where a symbol can be found. -/
inductive Side where
  | interface
  | implementation
  deriving DecidableEq, Repr

namespace Side

/-- The side that is asked next when this one has no location. -/
def other : Side → Side
  | .interface      => .implementation
  | .implementation => .interface

/-- The name of a side. -/
def name : Side → Text
  | .interface      => "interface".toList
  | .implementation => "implementation".toList

end Side

/-- What is known of an entry from the start. -/
structure Occurrence where
  /-- The modules that declare the symbol, and its name. -/
  path : List Text
  /-- What the symbol is. -/
  kind : Kind
  /-- The artifact that the entry was read from. -/
  artifact : Text
  /-- The location in the interface. -/
  signature : Option Location
  /-- The path that reaches the symbol from the opened modules. -/
  access : List Text
  /-- A symbol has a name. -/
  path_ne_nil : path ≠ []
  /-- Keywords are declared nowhere. -/
  signature_keyword : kind.tag = .keyword → signature = none
  deriving DecidableEq

/-- Why a description makes no entry. -/
inductive OccurrenceFault where
  /-- The path is empty. -/
  | emptyPath
  /-- A keyword is given a location. -/
  | keywordLocated
  deriving DecidableEq

/-- The wording of a fault. -/
def OccurrenceFault.message : OccurrenceFault → Text
  | .emptyPath      => "entry path must not be empty".toList
  | .keywordLocated => "keyword entries have no location".toList

namespace Occurrence

/-- The occurrence with the given fields, when they fit; the access path is the path itself unless
one is given. -/
def make? (path : List Text) (kind : Kind) (artifact : Text) (signature : Option Location)
    (access : Option (List Text)) : Except OccurrenceFault Occurrence :=
  if named : path ≠ [] then
    if placed : kind.tag = .keyword → signature = none then
      .ok ⟨path, kind, artifact, signature, access.getD path, named, placed⟩
    else .error .keywordLocated
  else .error .emptyPath

/-- The short name. -/
def name (o : Occurrence) : Text := o.path.getLast o.path_ne_nil

/-- The path, dotted. -/
def fullPath (o : Occurrence) : Text := Text.dotted o.path

/-- The access path, dotted. -/
def qualified (o : Occurrence) : Text := Text.dotted o.access

/-- Whether the occurrence is one of a keyword. -/
def isKeyword (o : Occurrence) : Bool := o.kind.tag = .keyword

end Occurrence

/-- One occurrence of a symbol, with what is computed about it on demand. -/
structure Entry extends Occurrence where
  /-- The type, if it has one. -/
  typeCell : Cell (Option Text)
  /-- The documentation, if there is any. -/
  docCell : Cell (Option Text)
  /-- The location in the implementation, if it has one. -/
  implCell : Cell (Option Location)

namespace Entry

/-- Two entries are of one occurrence when all but their cells agree. -/
def sameOccurrence (e f : Entry) : Bool := e.toOccurrence = f.toOccurrence

/-- Whether the type, the documentation and the implementation location are computed. -/
def forced (e : Entry) : Bool × Bool × Bool :=
  (e.typeCell.forced, e.docCell.forced, e.implCell.forced)

end Entry

end SymbolIndex
