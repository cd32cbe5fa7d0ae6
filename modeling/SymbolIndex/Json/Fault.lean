import SymbolIndex.Json.Tree
import SymbolIndex.Text.Basic

/-!
# What can be wrong with a JSON text

A text is malformed, holds a string that is no text, or has a value of another type than the one
expected, or a number beyond all bounds. Faults of the last two kinds say where the value stands.
-/

namespace SymbolIndex.Json

/-- The types that a value can be expected to have. -/
inductive Expected where
  | str
  | int
  | object
  | array
  | optionalStr
  | optionalObject
  deriving DecidableEq

namespace Expected

/-- The name of an expected type. -/
def name : Expected → Text
  | .str            => "str".toList
  | .int            => "int".toList
  | .object         => "object".toList
  | .array          => "array".toList
  | .optionalStr    => "str | null".toList
  | .optionalObject => "object | null".toList

end Expected

/-- The types that values have. -/
inductive Shape where
  | null
  | bool
  | int
  | float
  | str
  | array
  | object
  deriving DecidableEq

namespace Shape

/-- The name of a type. -/
def name : Shape → Text
  | .null   => "null".toList
  | .bool   => "bool".toList
  | .int    => "int".toList
  | .float  => "float".toList
  | .str    => "str".toList
  | .array  => "array".toList
  | .object => "object".toList

end Shape

/-- One step from a value to a part of it. -/
inductive Place where
  /-- A field of a record. -/
  | field (name : Text)
  /-- An item of an array. -/
  | position (i : Nat)
  /-- A value of an object that admits all keys. -/
  | anyKey
  deriving DecidableEq

namespace Place

/-- The written form of a step. -/
def toText : Place → Text
  | .field name => '.' :: name
  | .position i => '[' :: Text.ofNat i ++ [']']
  | .anyKey     => "[...]".toList

end Place

/-- Why a text does not decode. -/
inductive Fault where
  /-- The text is not JSON. -/
  | malformed
  /-- A string holds bytes that belong to no character. -/
  | notText
  /-- A number is too large to be represented. -/
  | outOfRange (place : List Place)
  /-- An integer is too long to be kept. -/
  | tooLong (place : List Place)
  /-- A value has another type than the expected one. -/
  | mismatch (expected : Expected) (got : Shape) (place : List Place)
  /-- An object lacks a field. -/
  | missingField (name : Text) (place : List Place)
  deriving DecidableEq

namespace Fault

/-- The fault of a part, seen from the whole. -/
def within (p : Place) : Fault → Fault
  | .outOfRange place            => .outOfRange (p :: place)
  | .tooLong place               => .tooLong (p :: place)
  | .mismatch expected got place => .mismatch expected got (p :: place)
  | .missingField name place     => .missingField name (p :: place)
  | fault                        => fault

/-- Where a fault lies, written behind its wording; nothing for the whole. -/
def placeSuffix : List Place → Text
  | []    => []
  | place => " - at `$".toList ++ place.flatMap Place.toText ++ ['`']

/-- The wording of a fault against a schema. -/
def message : Fault → Text
  | .malformed => "JSON is malformed".toList
  | .notText   => "a string is not UTF-8".toList
  | .outOfRange place => "Number out of range".toList ++ placeSuffix place
  | .tooLong place => "Integer value out of range".toList ++ placeSuffix place
  | .mismatch expected got place =>
    "Expected `".toList ++ expected.name ++ "`, got `".toList ++ got.name ++ ['`']
      ++ placeSuffix place
  | .missingField name place =>
    "Object missing required field `".toList ++ name ++ ['`'] ++ placeSuffix place

end Fault

namespace Tree

/-- Whether a tree shows a number that is too large to be represented. -/
def isOutOfRange : Tree → Bool
  | .number n => n.isOutOfRange
  | _         => false

/-- The type of the value that a tree shows, if it shows one. An integer that fits into no machine
word counts as a floating-point number. -/
def shape? : Tree → Option Shape
  | .null                => some .null
  | .bool _              => some .bool
  | .number (.int n)     => some (if isWord n then .int else .float)
  | .number (.decimal _) => some .float
  | .str _               => some .str
  | .arr _ _             => some .array
  | .obj _ _             => some .object
  | .missing             => none

/-- The fault of a tree that does not show a value of the expected type. A number is represented
before its type is looked at. -/
def mismatch (t : Tree) (expected : Expected) : Fault :=
  if t.isOutOfRange then .outOfRange []
  else
    match t.shape? with
    | some got => .mismatch expected got []
    | none     => .malformed

end Tree

end SymbolIndex.Json
