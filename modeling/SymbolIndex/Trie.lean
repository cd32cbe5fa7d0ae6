/-!
# Tries

A trie keeps a value for each list of keys; a list that was never written has the empty value. The
branches of a node are a chain of siblings, so a trie is a binary tree and all recursion on it is
structural. `Names` is the special case that collects what was added under each name and answers
which of it lies under the names with a given start.
-/

namespace SymbolIndex

universe u v

/-- The branches of a node, one after another: the key that a branch hangs from, the value at its
node, the branches below that node, and the next branch beside it. -/
inductive Branches (κ : Type u) (ν : Type v) where
  | none
  | branch (key : κ) (value : ν) (below next : Branches κ ν)

/-- A value for each list of keys. -/
structure Trie (κ : Type u) (ν : Type v) where
  /-- The value at the empty list. -/
  value : ν
  /-- The values at the lists with a first key. -/
  branches : Branches κ ν

namespace Branches

variable {κ : Type u} {ν : Type v}

/-- The trie below a key. -/
def child? [DecidableEq κ] (k : κ) : Branches κ ν → Option (Trie κ ν)
  | none                   => Option.none
  | branch key v below next => if key = k then some ⟨v, below⟩ else next.child? k

/-- Change the trie below a key; a key without a branch gets one, grown from the empty trie. -/
def adjust [DecidableEq κ] [EmptyCollection ν] (k : κ) (f : Trie κ ν → Trie κ ν) :
    Branches κ ν → Branches κ ν
  | none =>
    let t := f ⟨∅, none⟩
    branch k t.value t.branches none
  | branch key v below next =>
    if key = k then
      let t := f ⟨v, below⟩
      branch key t.value t.branches next
    else branch key v below (next.adjust k f)

/-- All values below the branches. -/
def values : Branches κ ν → List ν
  | none                 => []
  | branch _ v below next => v :: (below.values ++ next.values)

end Branches

namespace Trie

variable {κ : Type u} {ν : Type v}

instance [EmptyCollection ν] : EmptyCollection (Trie κ ν) := ⟨⟨∅, .none⟩⟩

/-- The trie below a list of keys, if anything was written there. -/
def descend? [DecidableEq κ] : List κ → Trie κ ν → Option (Trie κ ν)
  | [], t      => some t
  | k :: ks, t => (t.branches.child? k).bind (descend? ks)

/-- The value at a list of keys. -/
def find [DecidableEq κ] [EmptyCollection ν] (t : Trie κ ν) (ks : List κ) : ν :=
  match t.descend? ks with
  | some t => t.value
  | none   => ∅

/-- Change the value at a list of keys. -/
def modify [DecidableEq κ] [EmptyCollection ν] (f : ν → ν) : List κ → Trie κ ν → Trie κ ν
  | [], t      => { t with value := f t.value }
  | k :: ks, t => { t with branches := t.branches.adjust k (modify f ks) }

/-- All values of a trie. -/
def values (t : Trie κ ν) : List ν := t.value :: t.branches.values

end Trie

/-- What was added under each name. -/
abbrev Names (ι : Type u) := Trie Char (List ι)

namespace Names

variable {ι : Type u}

/-- Add `i` under a name; adding it there again changes nothing. -/
def add [DecidableEq ι] (t : Names ι) (name : List Char) (i : ι) : Names ι :=
  t.modify (fun ids => if i ∈ ids then ids else ids ++ [i]) name

/-- What was added under the names that start with `start`, in ascending order. -/
def startingWith [LE ι] [DecidableLE ι] (t : Names ι) (start : List Char) : List ι :=
  match Trie.descend? start t with
  | none   => []
  | some t => t.values.flatten.mergeSort

end Names

end SymbolIndex
