import SymbolIndex.Proofs.Sexp.Grammar

/-!
# What the automaton accepts

Every state of the automaton stands for tokens that were taken on the way to it: open parentheses
with the finished items behind them, and perhaps a dot. `Taken` writes this down. Each step extends
the tokens by one, so an expression that the automaton gives was spelled by the tokens it took.
-/

namespace SymbolIndex.Sexp

/-! ### Lists of expressions -/

lemma SpellsAll.concat {ts us : List Token} {vs : List Sexp} {v : Sexp} (h : SpellsAll ts vs)
    (last : Spells us v) : SpellsAll (ts ++ us) (vs ++ [v]) := by
  cases h with
  | nil =>
    have single := SpellsAll.cons last .nil
    rwa [List.append_nil] at single
  | cons first rest =>
    rw [List.append_assoc]
    exact .cons first (rest.concat last)

lemma spells_of_spellsAll_singleton {ts : List Token} {v : Sexp} (h : SpellsAll ts [v]) :
    Spells ts v := by
  cases h with
  | cons first rest =>
    cases rest
    rwa [List.append_nil]

/-! ### Tokens behind a state -/

/-- The tokens that open the expressions of a stack. -/
inductive Opens : List Token → List Frame → Prop
  | nil : Opens [] []
  | items {us ts : List Token} {done : List Sexp} {stack : List Frame} (outer : Opens us stack)
      (items : SpellsAll ts done.reverse) :
      Opens (us ++ .openParen :: ts) (.items done :: stack)
  | tail {us ts : List Token} {v : Sexp} {stack : List Frame} (outer : Opens us stack)
      (head : Spells ts v) :
      Opens (us ++ .openParen :: ts ++ [.dot]) (.tail v :: stack)

/-- The tokens that lead to a state. -/
inductive Taken : List Token → State → Prop
  | value {us : List Token} {stack : List Frame} (outer : Opens us stack) : Taken us (.value stack)
  | inside {us ts : List Token} {done : List Sexp} {stack : List Frame} (outer : Opens us stack)
      (items : SpellsAll ts done.reverse) :
      Taken (us ++ .openParen :: ts) (.inside done stack)
  | closing {us ts ts' : List Token} {v w : Sexp} {stack : List Frame} (outer : Opens us stack)
      (head : Spells ts v) (tail : Spells ts' w) :
      Taken (us ++ .openParen :: ts ++ .dot :: ts') (.closing v w stack)
  | complete {us : List Token} {v : Sexp} (whole : Spells us v) : Taken us (.complete v)

lemma Opens.give {us ts : List Token} {v : Sexp} {stack : List Frame} (h : Opens us stack)
    (spelled : Spells ts v) : Taken (us ++ ts) (State.give v stack) := by
  cases h with
  | nil => exact .complete spelled
  | items outer items =>
    rw [List.append_assoc]
    apply Taken.inside outer
    rw [List.reverse_cons]
    exact items.concat spelled
  | tail outer head =>
    rw [List.append_assoc, List.singleton_append]
    exact .closing outer head spelled

/-- A step takes one token. -/
lemma Taken.step {us : List Token} {s s' : State} {t : Token} (h : Taken us s)
    (hs : s.step t = .ok s') : Taken (us ++ [t]) s' := by
  cases h with
  | value outer =>
    cases t with
    | openParen =>
      cases hs
      exact .inside outer .nil
    | closeParen => cases hs
    | dot => cases hs
    | str t =>
      cases hs
      exact outer.give (.str t)
    | atom t =>
      cases hs
      exact outer.give (.atom t)
  | @inside us ts done stack outer items =>
    cases t with
    | openParen =>
      cases hs
      exact .inside (.items outer items) .nil
    | closeParen =>
      cases hs
      rw [List.append_assoc]
      exact outer.give (.list items)
    | dot =>
      match done, hs with
      | [v], rfl =>
        exact .value (.tail outer (spells_of_spellsAll_singleton items))
    | str t =>
      cases hs
      exact (Opens.items outer items).give (.str t)
    | atom t =>
      cases hs
      exact (Opens.items outer items).give (.atom t)
  | closing outer head tail =>
    cases t with
    | closeParen =>
      cases hs
      have pair := outer.give (.pair head tail)
      simpa using pair
    | _ => cases hs
  | complete whole => cases hs

/-- A run takes the tokens of an expression. -/
lemma Taken.run {us ts rest : List Token} {s : State} {v : Sexp} (h : Taken us s)
    (hr : s.run ts = .ok (v, rest)) : ∃ xs, xs ++ rest = ts ∧ Spells (us ++ xs) v := by
  fun_induction State.run s ts generalizing us with
  | case1 w ts =>
    cases hr
    cases h with
    | complete whole => exact ⟨[], rfl, by rwa [List.append_nil]⟩
  | case2 s _ => cases hr
  | case3 s t ts _ f hf => cases hr
  | case4 s t ts _ next hn ih =>
    obtain ⟨xs, rfl, spelled⟩ := ih (h.step hn) hr
    refine ⟨t :: xs, rfl, ?_⟩
    rwa [List.append_assoc, List.singleton_append] at spelled

/-- The automaton reads an expression from the start of the tokens exactly when they begin with the
tokens of that expression. -/
lemma parse_eq_ok_iff {ts rest : List Token} {v : Sexp} :
    parse ts = .ok (v, rest) ↔ ∃ us, us ++ rest = ts ∧ Spells us v := by
  constructor
  · intro h
    exact Taken.run (.value .nil) h
  · rintro ⟨us, rfl, spelled⟩
    exact parse_of_spells spelled rest

lemma Spells.unique {ts : List Token} {v w : Sexp} (h : Spells ts v) (h' : Spells ts w) :
    v = w := by
  have read := parse_of_spells h []
  rw [parse_of_spells h' []] at read
  cases read
  rfl

/-- The tokens from the position `i` to the position `j` spell the expression that is read from `i`
when the reading stops at `j`. -/
lemma parse_drop_eq_ok_iff {ts : List Token} {i j : Nat} {v : Sexp} (hj : j ≤ ts.length) :
    parse (ts.drop i) = .ok (v, ts.drop j) ↔ Spells ((ts.take j).drop i) v := by
  rw [parse_eq_ok_iff]
  constructor
  · rintro ⟨us, parts, spelled⟩
    have lengths := congrArg List.length parts
    have us_pos := List.length_pos_iff.mpr spelled.ne_nil
    simp only [List.length_append, List.length_drop] at lengths
    have cut : (ts.take j).drop i = us := by
      rw [List.drop_take, ← parts]
      apply List.take_left'
      omega
    rwa [cut]
  · intro spelled
    have us_pos := List.length_pos_iff.mpr spelled.ne_nil
    simp only [List.length_drop, List.length_take] at us_pos
    refine ⟨_, ?_, spelled⟩
    rw [← List.drop_append_of_le_length, List.take_append_drop]
    rw [List.length_take]
    omega

/-- What is left is a part of the tokens that begins at some position. -/
lemma exists_drop_of_parse {ts rest : List Token} {i : Nat} {v : Sexp}
    (h : parse (ts.drop i) = .ok (v, rest)) : ∃ j ≤ ts.length, rest = ts.drop j := by
  obtain ⟨us, parts, -⟩ := parse_eq_ok_iff.mp h
  have ends : rest <:+ ts := List.IsSuffix.trans ⟨us, parts⟩ (List.drop_suffix i ts)
  exact ⟨_, Nat.sub_le _ _, List.suffix_iff_eq_drop.mp ends⟩

/-- The reading from a position fails exactly when no end makes an expression. -/
lemma parse_drop_eq_error_iff {ts : List Token} {i : Nat} :
    (∃ f, parse (ts.drop i) = .error f) ↔
      ¬ ∃ j v, j ≤ ts.length ∧ Spells ((ts.take j).drop i) v := by
  constructor
  · rintro ⟨f, failed⟩ ⟨j, v, hj, spelled⟩
    rw [(parse_drop_eq_ok_iff hj).mpr spelled] at failed
    cases failed
  · intro none
    cases read : parse (ts.drop i) with
    | error f => exact ⟨f, rfl⟩
    | ok result =>
      obtain ⟨v, rest⟩ := result
      obtain ⟨j, hj, rfl⟩ := exists_drop_of_parse read
      exact absurd ⟨j, v, hj, (parse_drop_eq_ok_iff hj).mp read⟩ none

end SymbolIndex.Sexp
