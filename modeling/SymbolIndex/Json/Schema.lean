import SymbolIndex.Json.Fault

/-!
# Decoding against a schema

A decoder reads a tree from left to right and gives a value or the first fault it meets. Objects
are decoded by a list of fields: a known member changes the record that is being built, so the
last of several members with one name counts, and an unknown member has to be well-formed only.
-/

namespace SymbolIndex.Json

/-- Reads a tree of one type. -/
abbrev Decoder (α : Type) := Tree → Except Fault α

/-- A field of the record `σ`. -/
structure FieldDecoder (σ : Type) where
  /-- The name of the field. -/
  name : Text
  /-- Read the field's value and store it. -/
  read : Tree → σ → Except Fault σ

namespace Decoder

variable {α σ : Type}

/-- The text of a string that is kept. -/
def content (s : Source) : Except Fault Text :=
  match s.text? with
  | some t => .ok t
  | none   => .error .notText

/-- A string. -/
def text : Decoder Text
  | .str s => content s
  | t      => .error (t.mismatch .str)

/-- A string or null. -/
def optionalText : Decoder (Option Text)
  | .null  => .ok none
  | .str s => (content s).map some
  | t      => .error (t.mismatch .optionalStr)

/-- An integer that is kept. -/
def integer (n : Int) : Except Fault Int := if isTooLong n then .error (.tooLong []) else .ok n

/-- A number that is kept. -/
def number : Number → Except Fault Number
  | .int n     => (integer n).map .int
  | .decimal d => if d.isOutOfRange then .error (.outOfRange []) else .ok (.decimal d)

/-- An integer. -/
def int : Decoder Int
  | .number (.int n) => integer n
  | t                => .error (t.mismatch .int)

/-- What is read inside of a part. -/
def within (p : Place) (result : Except Fault α) : Except Fault α := result.mapError (·.within p)

/-- The items of an array from position `i` on. -/
def items (item : Decoder α) : Nat → List Tree → Except Fault (List α)
  | _, []      => .ok []
  | i, t :: ts =>
    match within (.position i) (item t) with
    | .error f => .error f
    | .ok a    => (items item (i + 1) ts).map (a :: ·)

/-- Give `a` if the composite it was read from is closed. -/
def closing (closed : Bool) (a : α) : Except Fault α :=
  if closed then .ok a else .error .malformed

/-- An array. -/
def array (item : Decoder α) : Decoder (List α)
  | .arr ts closed => items item 0 ts >>= closing closed
  | t              => .error (t.mismatch .array)

/-- Store the value of one member. -/
def member (fields : List (FieldDecoder σ)) (key : Source) (t : Tree) (record : σ) : Except Fault σ :=
  match fields.find? fun f => Source.ofText f.name == key with
  | some f => within (.field f.name) (f.read t record)
  | none   => closing t.intact record

/-- Store the values of all members. -/
def members (fields : List (FieldDecoder σ)) : List (Source × Tree) → σ → Except Fault σ
  | [], record          => .ok record
  | (k, t) :: ms, record =>
    match member fields k t record with
    | .error f   => .error f
    | .ok record => members fields ms record

/-- The record that the members of an object give, starting with the defaults. -/
def record (fields : List (FieldDecoder σ)) (defaults : σ) (ms : List (Source × Tree)) (closed : Bool) :
    Except Fault σ :=
  members fields ms defaults >>= closing closed

/-- An object. -/
def object (fields : List (FieldDecoder σ)) (defaults : σ) (finish : σ → Except Fault α) : Decoder α
  | .obj ms closed => record fields defaults ms closed >>= finish
  | t              => .error (t.mismatch .object)

/-- An object or null. -/
def optionalObject (fields : List (FieldDecoder σ)) (defaults : σ) (finish : σ → Except Fault α) :
    Decoder (Option α)
  | .null          => .ok none
  | .obj ms closed => (record fields defaults ms closed >>= finish).map some
  | t              => .error (t.mismatch .optionalObject)

/-- The value of a field that must be there. -/
def required (name : Text) : Option α → Except Fault α
  | some a => .ok a
  | none   => .error (.missingField name [])

/-- A field that is read by `decode` and stored by `store`. -/
def field (name : Text) (decode : Decoder α) (store : α → σ → σ) : FieldDecoder σ :=
  ⟨name, fun t record => (decode t).map (store · record)⟩

end Decoder

end SymbolIndex.Json
