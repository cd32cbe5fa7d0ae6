import SymbolIndex.Json.Value
import SymbolIndex.Location

/-!
# Index files

An index file lists declarations as they were extracted, the modules opened by default and the
keywords of the language. It is a JSON object of a fixed schema; `decode` reads the bytes of a
file and checks nothing but that schema.
-/

namespace SymbolIndex

/-- A declaration as the file states it. -/
structure Declaration where
  /-- The modules around the symbol, and its name. -/
  path : List Text
  /-- The name of its kind. -/
  kind : Text
  /-- The type or class that owns it. -/
  owner : Option Text
  /-- Its type, as it was printed. -/
  type : Option Text
  /-- Its documentation comment, with delimiters. -/
  doc : Option Text
  /-- Its location in the implementation. -/
  implementation : Option Location
  /-- Its location in the interface. -/
  signature : Option Location
  /-- The artifact that it was extracted from. -/
  artifact : Text
  deriving DecidableEq

/-- The contents of an index file. -/
structure IndexFile where
  /-- The version of the format. -/
  version : Text
  /-- Values that no query looks at. -/
  metadata : Dictionary Json.Value
  /-- The modules that are open by default. -/
  opened : List Text
  /-- The keywords of the language. -/
  keywords : List Text
  /-- The declarations. -/
  entries : List Declaration

namespace IndexFile

open Json

/-- The file that states nothing. -/
def empty : IndexFile := ⟨['1', '.', '0'], [], [], [], []⟩

/-- A location whose required fields may still be missing. -/
structure LocationDraft where
  file : Option Text
  line : Option Int
  col : Int

/-- The fields of a location. -/
def locationFields : List (FieldDecoder LocationDraft) :=
  [Decoder.field "file".toList Decoder.text fun a d => { d with file := some a },
    Decoder.field "line".toList Decoder.int fun a d => { d with line := some a },
    Decoder.field "col".toList Decoder.int fun a d => { d with col := a }]

/-- The location that a draft amounts to. -/
def LocationDraft.finish (d : LocationDraft) : Except Fault Location := do
  let file ← Decoder.required "file".toList d.file
  let line ← Decoder.required "line".toList d.line
  return ⟨file, line, d.col⟩

/-- A location or null. -/
def location : Decoder (Option Location) :=
  Decoder.optionalObject locationFields ⟨none, none, 0⟩ LocationDraft.finish

/-- A declaration whose required fields may still be missing. -/
structure DeclarationDraft where
  path : Option (List Text)
  kind : Option Text
  owner : Option Text
  type : Option Text
  doc : Option Text
  implementation : Option Location
  signature : Option Location
  artifact : Text

/-- The declaration of which nothing is known. -/
def DeclarationDraft.empty : DeclarationDraft := ⟨none, none, none, none, none, none, none, []⟩

/-- The fields of a declaration. -/
def declarationFields : List (FieldDecoder DeclarationDraft) :=
  [Decoder.field "path".toList (Decoder.array Decoder.text) fun a d => { d with path := some a },
    Decoder.field "kind".toList Decoder.text fun a d => { d with kind := some a },
    Decoder.field "owner".toList Decoder.optionalText fun a d => { d with owner := a },
    Decoder.field "type".toList Decoder.optionalText fun a d => { d with type := a },
    Decoder.field "doc".toList Decoder.optionalText fun a d => { d with doc := a },
    Decoder.field "loc_impl".toList location fun a d => { d with implementation := a },
    Decoder.field "loc_sig".toList location fun a d => { d with signature := a },
    Decoder.field "artifact".toList Decoder.text fun a d => { d with artifact := a }]

/-- The declaration that a draft amounts to. -/
def DeclarationDraft.finish (d : DeclarationDraft) : Except Fault Declaration := do
  let path ← Decoder.required "path".toList d.path
  let kind ← Decoder.required "kind".toList d.kind
  return ⟨path, kind, d.owner, d.type, d.doc, d.implementation, d.signature, d.artifact⟩

/-- A declaration. -/
def declaration : Decoder Declaration :=
  Decoder.object declarationFields .empty DeclarationDraft.finish

/-- The fields of an index file. -/
def fields : List (FieldDecoder IndexFile) :=
  [Decoder.field "version".toList Decoder.text fun a f => { f with version := a },
    Decoder.field "metadata".toList Decoder.dictionary fun a f => { f with metadata := a },
    Decoder.field "opened".toList (Decoder.array Decoder.text) fun a f => { f with opened := a },
    Decoder.field "keywords".toList (Decoder.array Decoder.text) fun a f =>
      { f with keywords := a },
    Decoder.field "entries".toList (Decoder.array declaration) fun a f => { f with entries := a }]

/-- An index file. -/
def file : Decoder IndexFile := Decoder.object fields empty .ok

/-- The contents of the file that a source spells. -/
def decodeSource (s : Source) : Except Fault IndexFile := do
  let (tree, ended) := Tree.ofSource s
  let contents ← file tree
  Decoder.closing ended contents

/-- The contents of a file with the given bytes. -/
def decode (bytes : ByteArray) : Except Fault IndexFile := decodeSource (Source.ofBytes bytes)

end IndexFile

end SymbolIndex
