import SymbolIndex.Dictionary
import SymbolIndex.Json.Schema

/-!
# JSON values

The values of JSON as they are kept when no schema restricts them. An object has each key once:
a repeated key keeps its first place and takes the last value.
-/

namespace SymbolIndex.Json

/-- A JSON value. -/
inductive Value where
  | null
  | bool (b : Bool)
  | number (n : Number)
  | str (t : Text)
  | arr (items : List Value)
  | obj (members : List (Text × Value))

namespace Decoder

mutual

/-- Any value. -/
def any : Tree → Except Fault Value
  | .null                => .ok .null
  | .bool b              => .ok (.bool b)
  | .number n            => (number n).map .number
  | .str s               => (content s).map .str
  | .arr items closed    => do
    let values ← anyItems 0 items
    closing closed (.arr values)
  | .obj members closed => do
    let values ← anyMembers members
    closing closed (.obj (Dictionary.ofMembers values))
  | .missing             => .error .malformed

/-- The items of an array of any values, from position `i` on. -/
def anyItems : Nat → List Tree → Except Fault (List Value)
  | _, []      => .ok []
  | i, t :: ts => do
    let v ← within (.position i) (any t)
    let vs ← anyItems (i + 1) ts
    .ok (v :: vs)

/-- The members of an object of any values; each key is checked before its value. -/
def anyMembers : List (Source × Tree) → Except Fault (List (Text × Value))
  | []           => .ok []
  | (k, t) :: ms => do
    let k ← content k
    let v ← within .anyKey (any t)
    let vs ← anyMembers ms
    .ok ((k, v) :: vs)

end

/-- An object of any values. -/
def dictionary : Decoder (Dictionary Value)
  | .obj ms closed => do
    let values ← anyMembers ms
    closing closed (Dictionary.ofMembers values)
  | t => .error (t.mismatch .object)

end Decoder

end SymbolIndex.Json
