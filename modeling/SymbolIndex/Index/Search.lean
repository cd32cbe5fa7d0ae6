import SymbolIndex.Index.Basic

/-!
# Searching an index

A lookup finds the symbols whose path is a scope followed by the query; a completion finds those
whose name starts with the last segment of the query in a module that the other segments name.
Scopes are searched innermost first, and a symbol found in several scopes counts once, as seen
from the first of them. Completions of a single segment end with the keywords that start with it.
-/

namespace SymbolIndex

/-- A symbol of an index, found through a scope. -/
structure Hit (n : Nat) where
  /-- The position of the symbol. -/
  ordinal : Fin n
  /-- The scope. -/
  scope : Scope
  deriving DecidableEq

namespace Hit

/-- Keep the first hit on each symbol. -/
def firstSightings {n : Nat} (hits : List (Hit n)) : List (Hit n) :=
  hits.eraseDupsBy fun h k => h.ordinal == k.ordinal

end Hit

namespace Index

/-- The symbols declared in a module under a name, in the order of the file. -/
def declared (idx : Index) (modulePath : List Text) (name : Text) :
    List (Fin idx.symbols.size) :=
  (idx.modules.find modulePath).find name

/-- The symbols declared in a module under the names that start with `start`, in the order of the
file. -/
def declaredUnder (idx : Index) (modulePath : List Text) (start : Text) :
    List (Fin idx.symbols.size) :=
  (idx.modules.find modulePath).startingWith start

/-- Search every scope, innermost first. -/
def throughScopes (idx : Index) (search : Scope → List (Fin idx.symbols.size)) :
    List (Hit idx.symbols.size) :=
  Hit.firstSightings (idx.scopes.flatMap fun scope => (search scope).map (⟨·, scope⟩))

/-- The symbols that a dotted name stands for. -/
def lookupHits (idx : Index) (n : DottedName) : List (Hit idx.symbols.size) :=
  idx.throughScopes fun scope => idx.declared (scope ++ n.qualifier) n.last

/-- The symbols that complete a dotted name. -/
def completeHits (idx : Index) (n : DottedName) : List (Hit idx.symbols.size) :=
  idx.throughScopes fun scope => idx.declaredUnder (scope ++ n.qualifier) n.last

/-- The keywords that complete a dotted name. -/
def completeKeywords (idx : Index) (n : DottedName) : List Text :=
  if n.qualifier.isEmpty then (idx.keywordNames.startingWith n.last).map (idx.keywords[·]) else []

/-- The entry that a hit is shown as. -/
def entry (idx : Index) (h : Hit idx.symbols.size) : Entry :=
  idx.symbols[h.ordinal].entry h.scope

/-- A name with an empty segment stands for nothing. -/
def lookupName? (query : Text) : Option DottedName :=
  let n := DottedName.ofText query
  if n.segments.all (!·.isEmpty) then some n else none

/-- A name with an empty segment before the last is completed by nothing. -/
def completeName? (query : Text) : Option DottedName :=
  let n := DottedName.ofText query
  if n.qualifier.all (!·.isEmpty) then some n else none

/-- The entries that a query stands for. -/
def lookup (idx : Index) (query : Text) : List Entry :=
  match lookupName? query with
  | none   => []
  | some n => (idx.lookupHits n).map idx.entry

/-- The entries that complete a query. -/
def complete (idx : Index) (query : Text) : List Entry :=
  match completeName? query with
  | none   => []
  | some n => (idx.completeHits n).map idx.entry ++ (idx.completeKeywords n).map Symbol.keywordEntry

end Index

end SymbolIndex
