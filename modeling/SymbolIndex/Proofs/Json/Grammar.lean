import SymbolIndex.Json.Tree
import SymbolIndex.Proofs.Json.Bytes
import SymbolIndex.Proofs.Json.Layout

/-!
# Written trees

The tokens of a tree are those of its values, with brackets around composites, colons behind keys
and commas between neighbours. A text writes a tree if it lays these tokens out; the tree that is
read from the text is then the one that was written, and nothing is left.
-/

namespace SymbolIndex.Json

namespace Tree

mutual

/-- The tokens of a tree. -/
def tokens : Tree → List Token
  | .null                => [.null]
  | .bool b              => [.bool b]
  | .number n            => [.number n]
  | .str s               => [.str s]
  | .arr [] _            => [.openArray, .closeArray]
  | .arr (t :: ts) _     => .openArray :: t.tokens ++ laterItems ts ++ [.closeArray]
  | .obj [] _            => [.openObject, .closeObject]
  | .obj ((k, t) :: ms) _ =>
    .openObject :: .str k :: .colon :: t.tokens ++ laterMembers ms ++ [.closeObject]
  | .missing             => [.malformed]

/-- The tokens of the items behind the first. -/
def laterItems : List Tree → List Token
  | []      => []
  | t :: ts => .comma :: t.tokens ++ laterItems ts

/-- The tokens of the members behind the first. -/
def laterMembers : List (Source × Tree) → List Token
  | []           => []
  | (k, t) :: ms => .comma :: .str k :: .colon :: t.tokens ++ laterMembers ms

end

/-- A text that writes a tree without malformed places. -/
structure Writes (t : Tree) (s : Text) : Prop where
  intact : t.intact = true
  laid : Laid t.tokens s

end Tree

namespace State

lemma run_complete (t : Tree) (ts : List Token) : (complete t).run ts = (t, ts) := by
  cases ts <;> rfl

/-- Where the first item of an array may stand, a tree is taken as an item. -/
lemma run_firstItem {t : Tree} (intact : t.intact = true) (stack : List Frame)
    (rest : List Token) :
    (firstItem stack).run (t.tokens ++ rest) = (value (.arr [] :: stack)).run (t.tokens ++ rest) := by
  match t with
  | .null | .bool _ | .number _ | .str _ | .arr [] _ | .arr (_ :: _) _ | .obj [] _
  | .obj ((_, _) :: _) _ => rfl
  | .missing => cases intact

end State

/-! ### The automaton on the tokens of a tree -/

mutual

/-- The automaton takes the tokens of a tree and has the tree. -/
theorem Tree.run_tokens (t : Tree) (intact : t.intact = true) (stack : List Frame)
    (rest : List Token) :
    (State.value stack).run (t.tokens ++ rest) = (State.give t stack).run rest := by
  match t with
  | .null | .bool _ | .number _ | .str _ => rfl
  | .arr [] closed =>
    obtain rfl : closed = true := by simpa [Tree.intact, Tree.intactItems] using intact
    rfl
  | .arr (t :: ts) closed =>
    simp only [Tree.intact, Tree.intactItems, Bool.and_eq_true] at intact
    obtain ⟨⟨first, later⟩, rfl⟩ := intact
    have item := t.run_tokens first (.arr [] :: stack)
      (Tree.laterItems ts ++ .closeArray :: rest)
    have others := Tree.run_laterItems ts [t] later stack rest
    simp only [Tree.tokens, List.cons_append, List.append_assoc, List.nil_append]
    change (State.firstItem stack).run _ = _
    exact (State.run_firstItem first stack _).trans (item.trans others)
  | .obj [] closed =>
    obtain rfl : closed = true := by simpa [Tree.intact, Tree.intactMembers] using intact
    rfl
  | .obj ((k, t) :: ms) closed =>
    simp only [Tree.intact, Tree.intactMembers, Bool.and_eq_true] at intact
    obtain ⟨⟨first, later⟩, rfl⟩ := intact
    have member := t.run_tokens first (.obj [] k :: stack)
      (Tree.laterMembers ms ++ .closeObject :: rest)
    have others := Tree.run_laterMembers ms [(k, t)] later stack rest
    simp only [Tree.tokens, List.cons_append, List.append_assoc, List.nil_append]
    change (State.value (.obj [] k :: stack)).run _ = _
    exact member.trans others
  | .missing => cases intact

/-- The automaton takes the tokens of the later items of the array that is open. -/
theorem Tree.run_laterItems (ts done : List Tree) (intact : Tree.intactItems ts = true)
    (stack : List Frame) (rest : List Token) :
    (State.afterItem done stack).run (Tree.laterItems ts ++ .closeArray :: rest)
      = (State.give (.arr (done.reverse ++ ts) true) stack).run rest := by
  match ts with
  | [] =>
    rw [List.append_nil]
    rfl
  | t :: ts =>
    simp only [Tree.intactItems, Bool.and_eq_true] at intact
    have item := t.run_tokens intact.1 (.arr done :: stack)
      (Tree.laterItems ts ++ .closeArray :: rest)
    have others := Tree.run_laterItems ts (t :: done) intact.2 stack rest
    simp only [Tree.laterItems, List.cons_append, List.append_assoc]
    change (State.value (.arr done :: stack)).run _ = _
    rw [List.reverse_cons, List.append_assoc] at others
    exact item.trans others

/-- The automaton takes the tokens of the later members of the object that is open. -/
theorem Tree.run_laterMembers (ms done : List (Source × Tree))
    (intact : Tree.intactMembers ms = true) (stack : List Frame) (rest : List Token) :
    (State.afterMember done stack).run (Tree.laterMembers ms ++ .closeObject :: rest)
      = (State.give (.obj (done.reverse ++ ms) true) stack).run rest := by
  match ms with
  | [] =>
    rw [List.append_nil]
    rfl
  | (k, t) :: ms =>
    simp only [Tree.intactMembers, Bool.and_eq_true] at intact
    have member := t.run_tokens intact.1 (.obj done k :: stack)
      (Tree.laterMembers ms ++ .closeObject :: rest)
    have others := Tree.run_laterMembers ms ((k, t) :: done) intact.2 stack rest
    simp only [Tree.laterMembers, List.cons_append, List.append_assoc]
    change (State.value (.obj done k :: stack)).run _ = _
    rw [List.reverse_cons, List.append_assoc] at others
    exact member.trans others

end

/-! ### Neighbours -/

/-- Tokens of which no two neighbours are numbers, and that can follow a number. -/
structure Delimited (ts : List Token) : Prop where
  apart : ts.IsChain Apart
  other : ∀ t ∈ ts.head?, t.isNumber = false

lemma Delimited.append {ts us : List Token} (h : Delimited us) (apart : ts.IsChain Apart) :
    (ts ++ us).IsChain Apart :=
  apart.append h.apart fun _ _ u next _ => h.other u next

lemma delimited_nil : Delimited [] := ⟨.nil, by simp⟩

lemma delimited_cons {t : Token} {ts : List Token} (other : t.isNumber = false)
    (apart : ts.IsChain Apart) : Delimited (t :: ts) where
  apart := List.isChain_cons.mpr ⟨fun u _ number => absurd number (by simp [other]), apart⟩
  other := by
    rintro _ ⟨⟩
    exact other

mutual

/-- No two neighbours in a tree are numbers. -/
theorem Tree.isChain_tokens (t : Tree) : t.tokens.IsChain Apart := by
  have close (t : Token) (other : t.isNumber = false) : Delimited [t] :=
    delimited_cons other .nil
  match t with
  | .null | .bool _ | .number _ | .str _ | .missing => exact .singleton _
  | .arr [] _ => exact (delimited_cons rfl (.singleton _)).apart
  | .arr (t :: ts) _ =>
    have items := (Tree.delimited_laterItems ts).append t.isChain_tokens
    exact (delimited_cons rfl ((close .closeArray rfl).append items)).apart
  | .obj [] _ => exact (delimited_cons rfl (.singleton _)).apart
  | .obj ((k, t) :: ms) _ =>
    have members := (Tree.delimited_laterMembers ms).append t.isChain_tokens
    have closed := (close .closeObject rfl).append members
    have value := (delimited_cons (t := .colon) rfl closed).apart
    exact (delimited_cons rfl (delimited_cons (t := .str k) rfl value).apart).apart

theorem Tree.delimited_laterItems (ts : List Tree) : Delimited (Tree.laterItems ts) := by
  match ts with
  | [] => exact delimited_nil
  | t :: ts => exact delimited_cons rfl ((Tree.delimited_laterItems ts).append t.isChain_tokens)

theorem Tree.delimited_laterMembers (ms : List (Source × Tree)) :
    Delimited (Tree.laterMembers ms) := by
  match ms with
  | [] => exact delimited_nil
  | (k, t) :: ms =>
    have members := (Tree.delimited_laterMembers ms).append t.isChain_tokens
    have value := (delimited_cons (t := .colon) rfl members).apart
    exact delimited_cons rfl (delimited_cons (t := .str k) rfl value).apart

end

/-! ### Reading a written tree -/

/-- A written tree is read as it was, and nothing is left. -/
lemma Tree.Writes.ofSource {t : Tree} {s : Text} (h : t.Writes s) :
    Tree.ofSource (Source.ofText s) = (t, true) := by
  have run := t.run_tokens h.intact [] []
  rw [List.append_nil] at run
  rw [Tree.ofSource, h.laid.tokens t.isChain_tokens, run, State.give, State.run_complete]
  rfl

lemma Tree.Writes.ofBytes {t : Tree} {s : Text} (h : t.Writes s) :
    Tree.ofSource (Source.ofBytes (String.ofList s).toUTF8) = (t, true) := by
  rw [Source.ofBytes_toUTF8, h.ofSource]

end SymbolIndex.Json
