import Mathlib.Tactic.Lemma
import SymbolIndex.Sexp.Basic

/-!
# The grammar of s-expressions

An expression is a literal, an atom, a list in parentheses, or a pair in parentheses with a dot
between its two expressions. `Spells ts v` says that the tokens `ts` are an expression of that
grammar with the value `v`. The automaton takes the tokens of an expression as one step: it then
has the value, and what follows is left.
-/

namespace SymbolIndex.Sexp

mutual

/-- The tokens are one expression. -/
inductive Spells : List Token → Sexp → Prop
  | str (t : Text) : Spells [.str t] (.text t)
  | atom (t : Text) : Spells [.atom t] (.text t)
  | list {ts : List Token} {vs : List Sexp} (items : SpellsAll ts vs) :
      Spells (.openParen :: ts ++ [.closeParen]) (.list vs)
  | pair {ts us : List Token} {v w : Sexp} (head : Spells ts v) (tail : Spells us w) :
      Spells (.openParen :: ts ++ .dot :: us ++ [.closeParen]) (.pair v w)

/-- The tokens are expressions one after another. -/
inductive SpellsAll : List Token → List Sexp → Prop
  | nil : SpellsAll [] []
  | cons {ts us : List Token} {v : Sexp} {vs : List Sexp} (first : Spells ts v)
      (rest : SpellsAll us vs) : SpellsAll (ts ++ us) (v :: vs)

end

namespace State

lemma run_complete (v : Sexp) (ts : List Token) : (complete v).run ts = .ok (v, ts) := by
  cases ts <;> rfl

/-- Where an item of a list may stand, an expression is taken as an item. -/
lemma run_inside_of_spells {ts : List Token} {v : Sexp} (h : Spells ts v) (done : List Sexp)
    (stack : List Frame) (rest : List Token) :
    (inside done stack).run (ts ++ rest) = (value (.items done :: stack)).run (ts ++ rest) := by
  cases h <;> rfl

end State

mutual

/-- The automaton takes the tokens of an expression and has its value. -/
theorem Spells.run {ts : List Token} {v : Sexp} (h : Spells ts v) (stack : List Frame)
    (rest : List Token) :
    (State.value stack).run (ts ++ rest) = (State.give v stack).run rest := by
  match h with
  | .str t => rfl
  | .atom t => rfl
  | @Spells.list ts vs items =>
    have taken := items.run [] stack (.closeParen :: rest)
    simp only [List.cons_append, List.append_assoc]
    change (State.inside [] stack).run (ts ++ .closeParen :: rest) = _
    rw [taken]
    simp [State.run, State.step]
  | @Spells.pair ts us v w head tail =>
    have first := head.run (.items [] :: stack) (.dot :: (us ++ .closeParen :: rest))
    have second := tail.run (.tail v :: stack) (.closeParen :: rest)
    simp only [List.cons_append, List.append_assoc]
    change (State.inside [] stack).run (ts ++ .dot :: (us ++ .closeParen :: rest)) = _
    rw [State.run_inside_of_spells head, first]
    change (State.value (.tail v :: stack)).run (us ++ .closeParen :: rest) = _
    rw [second]
    rfl

/-- The automaton takes the tokens of expressions as items of the list that is open. -/
theorem SpellsAll.run {ts : List Token} {vs : List Sexp} (h : SpellsAll ts vs)
    (done : List Sexp) (stack : List Frame) (rest : List Token) :
    (State.inside done stack).run (ts ++ rest)
      = (State.inside (vs.reverse ++ done) stack).run rest := by
  match h with
  | .nil => rfl
  | @SpellsAll.cons ts us v vs first items =>
    have taken := first.run (.items done :: stack) (us ++ rest)
    have others := items.run (v :: done) stack rest
    rw [List.append_assoc, State.run_inside_of_spells first, taken]
    change (State.inside (v :: done) stack).run (us ++ rest) = _
    rw [others, List.reverse_cons, List.append_assoc, List.singleton_append]

end

/-- An expression is read from its tokens, and the tokens behind it are left. -/
lemma parse_of_spells {ts : List Token} {v : Sexp} (h : Spells ts v) (rest : List Token) :
    parse (ts ++ rest) = .ok (v, rest) := by
  rw [parse, h.run]
  exact State.run_complete v rest

lemma Spells.ne_nil {ts : List Token} {v : Sexp} (h : Spells ts v) : ts ≠ [] := by
  cases h <;> simp

lemma ofText_of_spells {t : Text} {ts : List Token} {v : Sexp} (read : tokens t = .ok ts)
    (h : Spells ts v) : ofText t = .ok v := by
  have parsed := parse_of_spells h []
  rw [List.append_nil] at parsed
  obtain ⟨t, us, rfl⟩ := List.exists_cons_of_ne_nil h.ne_nil
  simp only [ofText, read, parsed]

end SymbolIndex.Sexp
