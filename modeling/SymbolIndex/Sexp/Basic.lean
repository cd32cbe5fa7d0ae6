import SymbolIndex.Sexp.Token

/-!
# S-expressions

An expression is a text, a list, or a dotted pair of two expressions. Reading goes through an
automaton with a stack: `State.step` takes one token, and `State.run` goes on until an expression
is complete.
-/

namespace SymbolIndex

/-- An s-expression; literals and atoms are both texts. -/
inductive Sexp where
  | text (t : Text)
  | list (items : List Sexp)
  | pair (head tail : Sexp)

namespace Sexp

/-- An expression that is still open around the one being read. -/
inductive Frame where
  /-- A list, with its items so far, latest first. -/
  | items (done : List Sexp)
  /-- A pair, with its head. -/
  | tail (head : Sexp)

/-- What may come next. -/
inductive State where
  /-- An expression. -/
  | value (stack : List Frame)
  /-- An item of a list, a dot, or the end of the list. -/
  | inside (done : List Sexp) (stack : List Frame)
  /-- The end of a pair. -/
  | closing (head tail : Sexp) (stack : List Frame)
  /-- Nothing; the expression is complete. -/
  | complete (v : Sexp)

namespace State

/-- Put a complete expression into the innermost open one. -/
def give (v : Sexp) : List Frame → State
  | []                    => .complete v
  | .items done :: stack  => .inside (v :: done) stack
  | .tail head :: stack   => .closing head v stack

/-- Take one token. -/
def step : State → Token → Except Fault State
  | .value stack, .openParen               => .ok (.inside [] stack)
  | .value _, .closeParen                  => .error (.unexpected ')')
  | .value _, .dot                         => .error (.unexpected '.')
  | .value stack, .str t                   => .ok (give (.text t) stack)
  | .value stack, .atom t                  => .ok (give (.text t) stack)
  | .inside done stack, .openParen         => .ok (.inside [] (.items done :: stack))
  | .inside done stack, .closeParen        => .ok (give (.list done.reverse) stack)
  | .inside [head] stack, .dot             => .ok (.value (.tail head :: stack))
  | .inside _ _, .dot                      => .error .dottedHead
  | .inside done stack, .str t             => .ok (.inside (.text t :: done) stack)
  | .inside done stack, .atom t            => .ok (.inside (.text t :: done) stack)
  | .closing head tail stack, .closeParen  => .ok (give (.pair head tail) stack)
  | .closing _ _ _, _                      => .error .dottedEnd
  | .complete _, _                         => .error .trailingData

/-- What is wrong when no token is left. -/
def endFault : State → Fault
  | .value _       => .unexpectedEnd
  | .inside _ _    => .unbalanced
  | .closing _ _ _ => .dottedEnd
  | .complete _    => .unexpectedEnd

/-- Take tokens until an expression is complete: the expression, and the tokens left. -/
def run : State → List Token → Except Fault (Sexp × List Token)
  | .complete v, ts => .ok (v, ts)
  | state, []       => .error state.endFault
  | state, t :: ts  =>
    match state.step t with
    | .error f  => .error f
    | .ok next  => run next ts

end State

/-- The expression at the start of a list of tokens, and the tokens left. -/
def parse (ts : List Token) : Except Fault (Sexp × List Token) := (State.value []).run ts

/-- The expression that a text spells. -/
def ofText (t : Text) : Except Fault Sexp :=
  match tokens t with
  | .error f => .error f
  | .ok []   => .error .empty
  | .ok ts   =>
    match parse ts with
    | .error f      => .error f
    | .ok (v, [])   => .ok v
    | .ok (_, _)    => .error .trailingData

end Sexp

end SymbolIndex
