import SymbolIndex.Index.Symbol
import SymbolIndex.Trie

/-!
# Indexes

An index holds the symbols of a file, the keywords, and the scopes from which names are looked up.
For each module it keeps the names of the symbols declared there, so that a query visits the
scopes and not the file. The tables are part of the index together with the proof that they are
the tables of its symbols; a lookup therefore needs no assumption on how an index came about.
-/

namespace SymbolIndex

/-- An opened module, as the path of its segments; the empty path is the root. -/
abbrev Scope := List Text

/-- A dotted name: the modules in front, and the last segment. -/
structure DottedName where
  /-- The segments before the last. -/
  qualifier : List Text
  /-- The last segment. -/
  last : Text
  deriving DecidableEq

namespace DottedName

/-- Read a dotted name; blanks around it do not count. -/
def ofText (t : Text) : DottedName :=
  let segments := t.trim.splitOn '.'
  ⟨segments.dropLast, segments.getLastD []⟩

/-- All segments. -/
def segments (n : DottedName) : List Text := n.qualifier ++ [n.last]

end DottedName

/-- For each module path, what is declared there under each name. -/
abbrev ModuleTable (ι : Type) := Trie Text (Names ι)

/-- The symbols of the modules, each by its position. -/
def moduleTable (symbols : Array Symbol) : ModuleTable (Fin symbols.size) :=
  (List.finRange symbols.size).foldl
    (fun table i => table.modify (fun names => names.add symbols[i].name i) symbols[i].modulePath) ∅

/-- The keywords, each by its position. -/
def keywordTable (keywords : Array Text) : Names (Fin keywords.size) :=
  (List.finRange keywords.size).foldl (fun table i => table.add keywords[i] i) ∅

/-- A file made ready for queries. -/
structure Index where
  /-- The symbols, in the order of the file. -/
  symbols : Array Symbol
  /-- The keywords, in the order of the file. -/
  keywords : Array Text
  /-- The scopes, innermost first. -/
  scopes : List Scope
  /-- The names in each module. -/
  modules : ModuleTable (Fin symbols.size)
  /-- The names of the keywords. -/
  keywordNames : Names (Fin keywords.size)
  /-- The names are those of the symbols. -/
  modules_eq : modules = moduleTable symbols := by rfl
  /-- The names are those of the keywords. -/
  keywordNames_eq : keywordNames = keywordTable keywords := by rfl

/-- The first declaration that is no symbol, by its position. -/
structure BuildFault where
  /-- The position of the declaration. -/
  ordinal : Nat
  /-- What is wrong with it. -/
  cause : DeclarationFault
  deriving DecidableEq

namespace BuildFault

/-- The wording of a fault. -/
def message (f : BuildFault) : Text :=
  match f.cause with
  | .emptyPath  => "entry #".toList ++ Text.ofNat f.ordinal ++ " has an empty path".toList
  | .kind fault => fault.message

end BuildFault

namespace Index

/-- The scopes that a list of opened modules gives: the last one is innermost, a module opened
several times counts where it is opened last, and the root is outermost. Blank names open
nothing. -/
def scopesOf (opened : List Text) : List Scope :=
  ((opened.filter (!Text.allBlank ·)).map fun m => (DottedName.ofText m).segments).reverse.eraseDups
    ++ [[]]

/-- The symbols of a list of declarations, the first of which has position `i`. -/
def symbolsOf : Nat → List Declaration → Except BuildFault (List Symbol)
  | _, []      => .ok []
  | i, d :: ds =>
    match d.symbol with
    | .error cause => .error ⟨i, cause⟩
    | .ok s        => (symbolsOf (i + 1) ds).map (s :: ·)

/-- The index of some symbols. -/
def ofSymbols (symbols : Array Symbol) (keywords : Array Text) (scopes : List Scope) : Index where
  symbols      := symbols
  keywords     := keywords
  scopes       := scopes
  modules      := moduleTable symbols
  keywordNames := keywordTable keywords

/-- The index of a file, with further modules opened after those of the file. -/
def build (file : IndexFile) (opened : List Text) : Except BuildFault Index :=
  (symbolsOf 0 file.entries).map fun symbols =>
    ofSymbols symbols.toArray file.keywords.toArray (scopesOf (file.opened ++ opened))

end Index

end SymbolIndex
