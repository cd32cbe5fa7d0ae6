import SymbolIndex.Entry.Basic

/-!
# Readings

A reading asks an entry for what it needs, one question at a time, and ends with a value or a
failure. Run on an entry it computes the cells that it asks for and no others; it stops at the first
that fails. The implementation cell of a keyword is never asked, because keywords are implemented
nowhere.
-/

namespace SymbolIndex

/-- A reading: the value or failure it ends with, or a question and what to do with the answer. -/
inductive Reading (α : Type) where
  | done (a : α)
  | fail (f : Failure)
  | occurrence (next : Occurrence → Reading α)
  | type (next : Option Text → Reading α)
  | doc (next : Option Text → Reading α)
  | implementation (next : Option Location → Reading α)

namespace Reading

variable {α β : Type}

/-- Go on with the value that a reading ends with. -/
def bind : Reading α → (α → Reading β) → Reading β
  | .done a, f           => f a
  | .fail g, _           => .fail g
  | .occurrence next, f  => .occurrence fun o => (next o).bind f
  | .type next, f        => .type fun t => (next t).bind f
  | .doc next, f         => .doc fun d => (next d).bind f
  | .implementation next, f => .implementation fun l => (next l).bind f

instance : Monad Reading where
  pure := .done
  bind := bind

/-- Run a reading on an entry: what it gives, and the entry afterwards. -/
def on : Reading α → Entry → Except Failure α × Entry
  | .done a, e          => (.ok a, e)
  | .fail f, e          => (.error f, e)
  | .occurrence next, e => (next e.toOccurrence).on e
  | .type next, e       =>
    match e.typeCell.force with
    | (.ok t, cell)    => (next t).on { e with typeCell := cell }
    | (.error f, cell) => (.error f, { e with typeCell := cell })
  | .doc next, e        =>
    match e.docCell.force with
    | (.ok d, cell)    => (next d).on { e with docCell := cell }
    | (.error f, cell) => (.error f, { e with docCell := cell })
  | .implementation next, e =>
    if e.isKeyword then (next none).on e
    else
      match e.implCell.force with
      | (.ok l, cell)    => (next l).on { e with implCell := cell }
      | (.error f, cell) => (.error f, { e with implCell := cell })

/-- Ask for what is known from the start. -/
def getOccurrence : Reading Occurrence := .occurrence .done

/-- Ask for the type, if there is one. -/
def getType? : Reading (Option Text) := .type .done

/-- Ask for the type, which has to be there. -/
def getType : Reading Text := .type fun t =>
  match t with
  | some t => .done t
  | none   => .fail .noType

/-- Ask for the documentation. -/
def getDoc : Reading (Option Text) := .doc .done

/-- Ask for the location on one side. -/
def getLocation : Side → Reading (Option Location)
  | .interface      => .occurrence fun o => .done o.signature
  | .implementation => .implementation .done

/-- Run a reading on the entries of a list from left to right up to the first failure: the values
read before it, the failure, and all entries afterwards. -/
def onEach (read : Reading α) : List Entry → (List α × Option Failure) × List Entry
  | []      => (([], none), [])
  | e :: es =>
    match read.on e with
    | (.error f, e) => (([], some f), e :: es)
    | (.ok a, e)    =>
      let ((as, f), es) := onEach read es
      ((a :: as, f), e :: es)

@[simp] theorem pure_eq (a : α) : (pure a : Reading α) = .done a := rfl

@[simp] theorem bind_done (a : α) (f : α → Reading β) : (Reading.done a >>= f) = f a := rfl

/-- Running one reading after another runs the second on what the first leaves, unless the first
fails. -/
theorem on_bind (r : Reading α) (f : α → Reading β) (e : Entry) :
    (r >>= f).on e =
      match r.on e with
      | (.ok a, e)    => (f a).on e
      | (.error g, e) => (.error g, e) := by
  induction r generalizing e with
  | done a => rfl
  | fail f => rfl
  | occurrence next ih => exact ih _ _
  | type next ih =>
    change (Reading.type fun t => next t >>= f).on e = _
    simp only [on]
    split
    · exact ih _ _
    · rfl
  | doc next ih =>
    change (Reading.doc fun d => next d >>= f).on e = _
    simp only [on]
    split
    · exact ih _ _
    · rfl
  | implementation next ih =>
    change (Reading.implementation fun l => next l >>= f).on e = _
    simp only [on]
    split
    · exact ih _ _
    · split
      · exact ih _ _
      · rfl

instance : LawfulMonad Reading := LawfulMonad.mk' _
  (fun r => by
    induction r with
    | done a => rfl
    | fail f => rfl
    | occurrence next ih => exact congrArg Reading.occurrence (funext ih)
    | type next ih => exact congrArg Reading.type (funext ih)
    | doc next ih => exact congrArg Reading.doc (funext ih)
    | implementation next ih => exact congrArg Reading.implementation (funext ih))
  (fun _ _ => rfl)
  (fun r _ _ => by
    induction r with
    | done a => rfl
    | fail f => rfl
    | occurrence next ih => exact congrArg Reading.occurrence (funext ih)
    | type next ih => exact congrArg Reading.type (funext ih)
    | doc next ih => exact congrArg Reading.doc (funext ih)
    | implementation next ih => exact congrArg Reading.implementation (funext ih))

end Reading

end SymbolIndex
