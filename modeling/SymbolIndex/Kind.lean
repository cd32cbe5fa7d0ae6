import SymbolIndex.Text.Quoted

/-!
# Kinds of symbols

A kind is a tag, and for fields, constructors and methods also the type or class that owns them.
`Kind` carries the proof that the owner fits the tag; `Kind.parse` is the way from written names
to kinds and says which of the two is at fault.
-/

namespace SymbolIndex

/-- What a symbol is, listed in the order of the written names. -/
inductive Kind.Tag where
  | objectClass
  | classType
  | constructor
  | exception
  | field
  | keyword
  | method
  | moduleType
  | module
  | type
  | value
  deriving DecidableEq, Repr

namespace Kind.Tag

/-- Every tag, in the order of the written names. -/
def all : List Tag :=
  [.objectClass, .classType, .constructor, .exception, .field, .keyword, .method, .moduleType, .module,
    .type, .value]

/-- The written name of a tag. -/
def name : Tag → Text
  | .objectClass => "class".toList
  | .classType   => "classtype".toList
  | .constructor => "constr".toList
  | .exception   => "exception".toList
  | .field       => "field".toList
  | .keyword     => "keyword".toList
  | .method      => "method".toList
  | .moduleType  => "modtype".toList
  | .module      => "module".toList
  | .type        => "type".toList
  | .value       => "val".toList

/-- The tag with the given written name. -/
def ofName? (t : Text) : Option Tag := all.find? (·.name == t)

/-- Fields, constructors and methods belong to a type or class. -/
def isOwned : Tag → Bool
  | .field | .constructor | .method => true
  | _                               => false

/-- Whether a symbol with this tag may have the given owner: exactly the owned tags have one, and
it is not empty. -/
def admits (tag : Tag) : Option Text → Bool
  | none   => !tag.isOwned
  | some o => tag.isOwned && !o.isEmpty

/-- The place of a tag among competing symbols; the lower one wins. -/
def rank : Tag → Nat
  | .value       => 0
  | .constructor => 1
  | .exception   => 2
  | .field       => 3
  | .method      => 4
  | .type        => 5
  | .objectClass => 6
  | .classType   => 7
  | .module      => 8
  | .moduleType  => 9
  | .keyword     => 10

theorem mem_all (tag : Tag) : tag ∈ all := by cases tag <;> decide

theorem ofName?_name (tag : Tag) : ofName? tag.name = some tag := by cases tag <;> decide

theorem name_of_ofName? {t : Text} {tag : Tag} (h : ofName? t = some tag) : tag.name = t := by
  simpa using List.find?_some h

end Kind.Tag

/-- A tag together with the owner it asks for. -/
structure Kind where
  /-- What the symbol is. -/
  tag : Kind.Tag
  /-- The owning type or class. -/
  owner : Option Text
  /-- The owner fits the tag. -/
  admitted : tag.admits owner = true
  deriving DecidableEq

namespace Kind

/-- Why two written names make no kind. -/
inductive Fault where
  /-- No tag has this name. -/
  | unknownName (name : Text)
  /-- The tag asks for an owner, and none or an empty one is given. -/
  | ownerMissing (tag : Tag)
  /-- The tag takes no owner, and one is given. -/
  | ownerUnexpected (tag : Tag)
  deriving DecidableEq

/-- The wording of a fault. -/
def Fault.message : Fault → Text
  | .unknownName name    => name.quoted ++ " is not a valid KindTag".toList
  | .ownerMissing tag    => "kind ".toList ++ tag.name ++ " requires an owner".toList
  | .ownerUnexpected tag => "kind ".toList ++ tag.name ++ " takes no owner".toList

/-- The kind with the given tag and owner, when they fit. -/
def make? (tag : Tag) (owner : Option Text) : Except Fault Kind :=
  if h : tag.admits owner = true then .ok ⟨tag, owner, h⟩
  else .error (if tag.isOwned then .ownerMissing tag else .ownerUnexpected tag)

/-- The kind with the given written name and owner; the name is looked up first. -/
def parse (name : Text) (owner : Option Text) : Except Fault Kind :=
  match Tag.ofName? name with
  | none     => .error (.unknownName name)
  | some tag => make? tag owner

/-- The kind of language keywords. -/
def keyword : Kind := ⟨.keyword, none, rfl⟩

/-- The written form of a kind: its name, followed by its owner in parentheses. -/
def toText (k : Kind) : Text :=
  match k.owner with
  | none   => k.tag.name
  | some o => k.tag.name ++ '(' :: o ++ [')']

end Kind

end SymbolIndex
