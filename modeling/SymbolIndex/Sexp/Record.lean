import SymbolIndex.Dictionary
import SymbolIndex.Entry.Reading
import SymbolIndex.Sexp.Basic

/-!
# Records

Entries are exchanged as a list of records, one on a line. A record is the qualified name of an
entry followed by a dotted pair for each of its fields. `printEntries` writes the records of
entries and `readRecords` reads records back.
-/

namespace SymbolIndex.Sexp

/-! ### Writing -/

/-- A dotted pair of a key and a literal. -/
def fieldText (key value : Text) : Text := '(' :: key ++ " . ".toList ++ quote value ++ [')']

/-- The record of an entry. The type is read before the documentation, which has a field only
when there is some. -/
def recordText : Reading Text := do
  let o ← Reading.getOccurrence
  let type ← Reading.getType
  let doc ← Reading.getDoc
  let parts := [quote o.qualified, fieldText ":path".toList o.fullPath,
    fieldText ":type".toList type, fieldText ":kind".toList o.kind.toText]
    ++ (doc.map (fieldText ":doc".toList)).toList
  return '(' :: Text.joinWith ' ' parts ++ [')']

/-- The line of an entry. -/
def recordLine : Reading Text := return [' ', ' '] ++ (← recordText)

/-- The lines of a list of entries up to the first failure, and the entries afterwards. -/
def recordLines (es : List Entry) : (List Text × Option Failure) × List Entry :=
  match recordLine.onEach es with
  | ((ls, some f), es) => ((['('] :: ls, some f), es)
  | ((ls, none), es)   => ((['('] :: ls ++ [[')']], none), es)

/-- The text of a list of entries, and the entries afterwards. -/
def printEntries (es : List Entry) : Except Failure Text × List Entry :=
  match recordLines es with
  | ((_, some f), es) => (.error f, es)
  | ((ls, none), es)  => (.ok (Text.joinWith '\n' ls ++ ['\n']), es)

/-! ### Reading -/

/-- A record that was read: the values of its fields, and under `name` its first value. -/
abbrev Record := Dictionary Sexp

/-- Why a text does not read as a list of records. -/
inductive RecordFault where
  /-- The text has another form. -/
  | malformed (f : Fault)
  /-- The key of a field is no text. -/
  | compositeKey
  deriving DecidableEq

/-- The key of a field without the colons in front. -/
def fieldName (key : Text) : Text := key.dropWhile (· == ':')

/-- A field of a record. -/
def field : Sexp → Except RecordFault (Text × Sexp)
  | .pair (.text key) value => .ok (fieldName key, value)
  | .pair _ _               => .error .compositeKey
  | _                       => .error (.malformed .field)

/-- The fields of a record. -/
def fields : List Sexp → Except RecordFault (List (Text × Sexp))
  | []      => .ok []
  | v :: vs => do
    let first ← field v
    let rest ← fields vs
    return first :: rest

/-- A record. -/
def record : Sexp → Except RecordFault Record
  | .list (name :: vs) => return Dictionary.putAll [("name".toList, name)] (← fields vs)
  | _                  => .error (.malformed .record)

/-- A list of records. -/
def records : List Sexp → Except RecordFault (List Record)
  | []      => .ok []
  | v :: vs => do
    let first ← record v
    let rest ← records vs
    return first :: rest

/-- The records that a text spells. -/
def readRecords (t : Text) : Except RecordFault (List Record) :=
  match ofText t with
  | .error f       => .error (.malformed f)
  | .ok (.list vs) => records vs
  | .ok _          => .error (.malformed .topLevel)

end SymbolIndex.Sexp
