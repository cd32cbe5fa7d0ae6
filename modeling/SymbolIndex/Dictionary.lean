import SymbolIndex.Text.Basic

/-!
# Dictionaries

A dictionary lists its keys in the order in which they were first set. Setting a key again changes
its value and not its place.
-/

namespace SymbolIndex

/-- Keys with their values, in the order in which the keys were first set. -/
abbrev Dictionary (α : Type) := List (Text × α)

namespace Dictionary

variable {α : Type}

/-- Set the value of a key. -/
def put (k : Text) (a : α) : Dictionary α → Dictionary α
  | []          => [(k, a)]
  | (j, b) :: d => if j = k then (k, a) :: d else (j, b) :: put k a d

/-- Set several keys, one after another. -/
def putAll (d : Dictionary α) (members : List (Text × α)) : Dictionary α :=
  members.foldl (fun d m => put m.1 m.2 d) d

/-- The dictionary that has the given members, the last of several with one key counting. -/
def ofMembers (members : List (Text × α)) : Dictionary α := putAll [] members

theorem lookup_cons_eq (k j : Text) (a : α) (d : Dictionary α) :
    List.lookup k ((j, a) :: d) = if k = j then some a else d.lookup k := by
  by_cases h : k = j
  · subst h
    rw [List.lookup_cons_self, if_pos rfl]
  · rw [List.lookup_cons, beq_false_of_ne h, if_neg h]

theorem lookup_put (k j : Text) (a : α) (d : Dictionary α) :
    (put j a d).lookup k = if k = j then some a else d.lookup k := by
  induction d with
  | nil => rw [put, lookup_cons_eq]
  | cons m d ih =>
    obtain ⟨i, b⟩ := m
    rw [put, lookup_cons_eq]
    split
    · next same =>
      subst same
      rw [lookup_cons_eq]
      split <;> rfl
    · next other =>
      rw [lookup_cons_eq, ih]
      by_cases h : k = i
      · subst h
        simp [other]
      · simp [h]

/-- Of several members with one key the last one counts. -/
theorem lookup_putAll (k : Text) (d : Dictionary α) (members : List (Text × α)) :
    (putAll d members).lookup k = (members.reverse.lookup k).or (d.lookup k) := by
  induction members generalizing d with
  | nil => rfl
  | cons m members ih =>
    obtain ⟨j, a⟩ := m
    change (putAll (put j a d) members).lookup k = _
    rw [ih, lookup_put, List.reverse_cons, List.lookup_append, lookup_cons_eq]
    split <;> cases members.reverse.lookup k <;> rfl

theorem lookup_ofMembers (k : Text) (members : List (Text × α)) :
    (ofMembers members).lookup k = members.reverse.lookup k := by
  rw [ofMembers, lookup_putAll]
  exact Option.or_none

end Dictionary

end SymbolIndex
