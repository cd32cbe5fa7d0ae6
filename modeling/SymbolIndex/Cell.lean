import SymbolIndex.Text.Basic

/-!
# Cells

A cell holds a value that is computed when it is first asked for and kept from then on. A
computation that fails leaves the cell as it was, to be tried again. Each cell counts how often
its computation has run.
-/

namespace SymbolIndex

/-- Why something that was asked for cannot be given. -/
inductive Failure where
  /-- A computation failed. -/
  | raised (message : Text)
  /-- A type is to be written, and there is none. -/
  | noType
  deriving DecidableEq

/-- The wording of a failure. -/
def Failure.message : Failure → Text
  | .raised message => message
  | .noType         => "the entry has no type".toList

/-- A value that is computed at most once. -/
inductive Cell (α : Type) where
  /-- A value that is there, after `runs` runs of its computation. -/
  | computed (value : α) (runs : Nat)
  /-- A computation that has given no value in `runs` runs. -/
  | pending (compute : Unit → Except Failure α) (runs : Nat)

namespace Cell

variable {α : Type}

/-- A cell that holds a value from the start. -/
def of (a : α) : Cell α := .computed a 0

/-- A cell that waits to be computed. -/
def lazy (compute : Unit → Except Failure α) : Cell α := .pending compute 0

/-- Whether the value is there. -/
def forced : Cell α → Bool
  | .computed _ _ => true
  | .pending _ _  => false

/-- How often the computation has run. -/
def runs : Cell α → Nat
  | .computed _ n => n
  | .pending _ n  => n

/-- What the cell gives whenever it is asked. -/
def outcome : Cell α → Except Failure α
  | .computed a _ => .ok a
  | .pending f _  => f ()

/-- Ask a cell for its value: what it gives, and the cell afterwards. -/
def force : Cell α → Except Failure α × Cell α
  | .computed a n => (.ok a, .computed a n)
  | .pending f n  =>
    match f () with
    | .ok a    => (.ok a, .computed a (n + 1))
    | .error e => (.error e, .pending f (n + 1))

/-- The written form of a cell, which never computes it. -/
def toText (write : α → Text) : Cell α → Text
  | .computed a _ => "Lazy(".toList ++ write a ++ [')']
  | .pending _ _  => "Lazy(<uncomputed>)".toList

@[simp] theorem force_fst (c : Cell α) : c.force.1 = c.outcome := by
  cases c with
  | computed a n => rfl
  | pending f n => cases h : f () <;> simp [force, outcome, h]

@[simp] theorem outcome_force (c : Cell α) : c.force.2.outcome = c.outcome := by
  cases c with
  | computed a n => rfl
  | pending f n => cases h : f () <;> simp [force, outcome, h]

@[simp] theorem forced_force (c : Cell α) :
    c.force.2.forced = (c.forced || c.outcome.isOk) := by
  cases c with
  | computed a n => rfl
  | pending f n => cases h : f () <;> simp [force, outcome, forced, h, Except.isOk, Except.toBool]

end Cell

end SymbolIndex
