import SymbolIndex.Comment
import SymbolIndex.Entry.Basic
import SymbolIndex.Index.File

/-!
# Symbols

A symbol is a declaration that has a name and a kind. `Declaration.symbol` checks both and names
the first thing at fault; `Symbol.entry` presents a symbol as it is seen from an opened module.
-/

namespace SymbolIndex

/-- A declaration with a name and a kind. -/
structure Symbol where
  /-- The modules around the symbol, and its name. -/
  path : List Text
  /-- What the symbol is. -/
  kind : Kind
  /-- Its type, as it was printed. -/
  type : Option Text
  /-- Its documentation comment, with delimiters. -/
  doc : Option Text
  /-- Its location in the implementation. -/
  implementation : Option Location
  /-- Its location in the interface. -/
  signature : Option Location
  /-- The artifact that it was extracted from. -/
  artifact : Text
  /-- A symbol has a name. -/
  path_ne_nil : path ≠ []

/-- Why a declaration is no symbol. -/
inductive DeclarationFault where
  /-- It has no name. -/
  | emptyPath
  /-- It has no kind. -/
  | kind (fault : Kind.Fault)
  deriving DecidableEq

namespace Declaration

/-- The symbol that is declared; the name is checked before the kind. -/
def symbol (d : Declaration) : Except DeclarationFault Symbol :=
  if named : d.path ≠ [] then
    match Kind.parse d.kind d.owner with
    | .error fault => .error (.kind fault)
    | .ok kind     =>
      .ok ⟨d.path, kind, d.type, d.doc, d.implementation, d.signature, d.artifact, named⟩
  else .error .emptyPath

end Declaration

namespace Symbol

/-- The modules around a symbol. -/
def modulePath (s : Symbol) : List Text := s.path.dropLast

/-- The name of a symbol. -/
def name (s : Symbol) : Text := s.path.getLast s.path_ne_nil

theorem modulePath_append_name (s : Symbol) : s.modulePath ++ [s.name] = s.path :=
  List.dropLast_concat_getLast s.path_ne_nil

/-- A printed type on one line. -/
def typeText (printed : Option Text) : Text := (printed.getD []).singleSpaced

/-- The text of a documentation comment. -/
def docText (comment : Option Text) : Option Text := comment.bind Comment.clean

/-- A symbol as it is seen from an opened module. Its costly fields wait to be computed, and a
keyword shows no location whatever the file says. -/
def entry (s : Symbol) (scope : List Text) : Entry where
  path                := s.path
  kind                := s.kind
  artifact            := s.artifact
  signature           := if s.kind.tag = .keyword then none else s.signature
  access              := s.path.drop scope.length
  path_ne_nil         := s.path_ne_nil
  signature_keyword h := if_pos h
  typeCell            := .lazy fun _ => .ok (some (typeText s.type))
  docCell             := .lazy fun _ => .ok (docText s.doc)
  implCell            :=
    if s.kind.tag = .keyword then .of none else .lazy fun _ => .ok s.implementation

/-- A keyword of the language as an entry. -/
def keywordEntry (keyword : Text) : Entry where
  path                := [keyword]
  kind                := .keyword
  artifact            := "<keywords>".toList
  signature           := none
  access              := [keyword]
  path_ne_nil         := List.cons_ne_nil keyword []
  signature_keyword _ := rfl
  typeCell            := .of (some [])
  docCell             := .lazy fun _ => .ok none
  implCell            := .lazy fun _ => .ok none

end Symbol

end SymbolIndex
