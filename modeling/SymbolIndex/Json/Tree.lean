import SymbolIndex.Json.Token

/-!
# JSON trees

A tree shows a JSON text as far as the text is well-formed. A composite that is cut off by the
first malformed place is marked as not closed, and `Tree.missing` stands where a value should have
begun, so a reader that walks a tree from left to right meets the malformed place exactly where it
stands in the text.

The tree is built by an automaton with a stack: `State.step` takes one token, and `State.run` goes
on until a value is complete or no step is possible.
-/

namespace SymbolIndex.Json

/-- A JSON text as far as it is well-formed. -/
inductive Tree where
  | null
  | bool (b : Bool)
  | number (n : Number)
  | str (content : Source)
  /-- An array, and whether it was closed. -/
  | arr (items : List Tree) (closed : Bool)
  /-- An object, and whether it was closed. -/
  | obj (members : List (Source × Tree)) (closed : Bool)
  /-- The text is malformed where this value should begin. -/
  | missing

/-- A composite that is still open around the value being read. What it holds so far is listed
latest first. -/
inductive Frame where
  | arr (items : List Tree)
  | obj (members : List (Source × Tree)) (key : Source)

/-- What may come next. -/
inductive State where
  /-- A value. -/
  | value (stack : List Frame)
  /-- The first item of an array, or its end. -/
  | firstItem (stack : List Frame)
  /-- A comma, or the end of an array. -/
  | afterItem (items : List Tree) (stack : List Frame)
  /-- The first key of an object, or its end. -/
  | firstKey (stack : List Frame)
  /-- A key. -/
  | key (members : List (Source × Tree)) (stack : List Frame)
  /-- The colon after a key. -/
  | colon (members : List (Source × Tree)) (key : Source) (stack : List Frame)
  /-- A comma, or the end of an object. -/
  | afterMember (members : List (Source × Tree)) (stack : List Frame)
  /-- Nothing; the value is complete. -/
  | complete (t : Tree)

namespace State

/-- Put a complete value into the innermost open composite. -/
def give (t : Tree) : List Frame → State
  | []                    => .complete t
  | .arr items :: stack   => .afterItem (t :: items) stack
  | .obj members k :: stack => .afterMember ((k, t) :: members) stack

/-- Begin a value with a token. -/
def begin (stack : List Frame) : Token → Option State
  | .null        => some (give .null stack)
  | .bool b      => some (give (.bool b) stack)
  | .number n    => some (give (.number n) stack)
  | .str content => some (give (.str content) stack)
  | .openArray   => some (.firstItem stack)
  | .openObject  => some (.firstKey stack)
  | _            => none

/-- Take one token. -/
def step : State → Token → Option State
  | .value stack, t                          => begin stack t
  | .firstItem stack, .closeArray            => some (give (.arr [] true) stack)
  | .firstItem stack, t                      => begin (.arr [] :: stack) t
  | .afterItem items stack, .comma           => some (.value (.arr items :: stack))
  | .afterItem items stack, .closeArray      => some (give (.arr items.reverse true) stack)
  | .firstKey stack, .closeObject            => some (give (.obj [] true) stack)
  | .firstKey stack, .str k                  => some (.colon [] k stack)
  | .key members stack, .str k               => some (.colon members k stack)
  | .colon members k stack, .colon           => some (.value (.obj members k :: stack))
  | .afterMember members stack, .comma       => some (.key members stack)
  | .afterMember members stack, .closeObject => some (give (.obj members.reverse true) stack)
  | _, _                                     => none

/-- The tree around a value that is cut off: none of the open composites is closed. -/
def cutOff : List Frame → Tree → Tree
  | [], t                      => t
  | .arr items :: stack, t     => cutOff stack (.arr (t :: items).reverse false)
  | .obj members k :: stack, t => cutOff stack (.obj ((k, t) :: members).reverse false)

/-- The tree when nothing more can be read. -/
def tree : State → Tree
  | .value stack               => cutOff stack .missing
  | .firstItem stack           => cutOff stack (.arr [] false)
  | .afterItem items stack     => cutOff stack (.arr items.reverse false)
  | .firstKey stack            => cutOff stack (.obj [] false)
  | .key members stack         => cutOff stack (.obj members.reverse false)
  | .colon members k stack     => cutOff stack (.obj ((k, .missing) :: members).reverse false)
  | .afterMember members stack => cutOff stack (.obj members.reverse false)
  | .complete t                => t

/-- Take tokens until a value is complete or no step is possible: the tree, and the tokens left. -/
def run : State → List Token → Tree × List Token
  | .complete t, ts  => (t, ts)
  | state, []        => (state.tree, [])
  | state, t :: ts   =>
    match state.step t with
    | some next => run next ts
    | none      => (state.tree, t :: ts)

end State

namespace Tree

/-- The tree of a source, and whether nothing follows it. -/
def ofSource (s : Source) : Tree × Bool :=
  let (t, rest) := (State.value []).run (tokens s)
  (t, rest.isEmpty)

mutual

/-- Whether a tree holds no malformed place. -/
def intact : Tree → Bool
  | .arr items closed   => intactItems items && closed
  | .obj members closed => intactMembers members && closed
  | .missing            => false
  | _                   => true

/-- Whether no item of an array holds a malformed place. -/
def intactItems : List Tree → Bool
  | []      => true
  | t :: ts => intact t && intactItems ts

/-- Whether no member of an object holds a malformed place. -/
def intactMembers : List (Source × Tree) → Bool
  | []           => true
  | (_, t) :: ms => intact t && intactMembers ms

end

end Tree

end SymbolIndex.Json
