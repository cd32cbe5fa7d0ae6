import Mathlib.Data.List.Nodup
import SymbolIndex.Json.Value
import SymbolIndex.Proofs.Json.Number

/-!
# Values of any kind

A tree shows a value of strings, integers, booleans, null, arrays and objects with distinct keys, the
members of each object in any order. Reading it without a schema gives that value up to the order of
members, unless one of its integers is too long to be kept.
-/

namespace SymbolIndex.Json

/-! ### Values and their trees -/

namespace Value

mutual

/-- Two values differ in the order of members at most. -/
inductive Same : Value → Value → Prop
  | null : Same .null .null
  | bool (b : Bool) : Same (.bool b) (.bool b)
  | number (n : Number) : Same (.number n) (.number n)
  | str (t : Text) : Same (.str t) (.str t)
  | arr {vs ws : List Value} (items : SameItems vs ws) : Same (.arr vs) (.arr ws)
  | obj {ms ns os : Dictionary Value} (members : SameMembers ms ns) (order : ns.Perm os) :
      Same (.obj ms) (.obj os)

/-- Each item differs in the order of members at most. -/
inductive SameItems : List Value → List Value → Prop
  | nil : SameItems [] []
  | cons {v w : Value} {vs ws : List Value} (first : Same v w) (rest : SameItems vs ws) :
      SameItems (v :: vs) (w :: ws)

/-- The value of each key differs in the order of members at most. -/
inductive SameMembers : Dictionary Value → Dictionary Value → Prop
  | nil : SameMembers [] []
  | cons {k : Text} {v w : Value} {ms ns : Dictionary Value} (first : Same v w)
      (rest : SameMembers ms ns) : SameMembers ((k, v) :: ms) ((k, w) :: ns)

end

mutual

/-- The integers in a value. -/
def ints : Value → List Int
  | .number (.int n) => [n]
  | .arr vs          => itemInts vs
  | .obj ms          => memberInts ms
  | _                => []

/-- The integers in the items of an array. -/
def itemInts : List Value → List Int
  | []      => []
  | v :: vs => v.ints ++ itemInts vs

/-- The integers in the members of an object. -/
def memberInts : Dictionary Value → List Int
  | []           => []
  | (_, v) :: ms => v.ints ++ memberInts ms

end

end Value

namespace Tree

mutual

/-- A tree shows a value, with the members of objects in any order. -/
inductive Shows : Tree → Value → Prop
  | null : Shows .null .null
  | bool (b : Bool) : Shows (.bool b) (.bool b)
  | int (n : Int) : Shows (.number (.int n)) (.number (.int n))
  | str (t : Text) : Shows (.str (Source.ofText t)) (.str t)
  | arr {ts : List Tree} {vs : List Value} (items : ShowsItems ts vs) :
      Shows (.arr ts true) (.arr vs)
  | obj {ms : List (Source × Tree)} {vs ws : Dictionary Value}
      (distinct : (ws.map Prod.fst).Nodup) (order : vs.Perm ws) (members : ShowsMembers ms vs) :
      Shows (.obj ms true) (.obj ws)

/-- Trees show values one after another. -/
inductive ShowsItems : List Tree → List Value → Prop
  | nil : ShowsItems [] []
  | cons {t : Tree} {v : Value} {ts : List Tree} {vs : List Value} (first : Shows t v)
      (rest : ShowsItems ts vs) : ShowsItems (t :: ts) (v :: vs)

/-- The members of an object show keys and values one after another. -/
inductive ShowsMembers : List (Source × Tree) → Dictionary Value → Prop
  | nil : ShowsMembers [] []
  | cons {k : Text} {t : Tree} {v : Value} {ms : List (Source × Tree)} {vs : Dictionary Value}
      (first : Shows t v) (rest : ShowsMembers ms vs) :
      ShowsMembers ((Source.ofText k, t) :: ms) ((k, v) :: vs)

end

end Tree

/-! ### Reading a value -/

lemma Source.text?_ofText (t : Text) : (Source.ofText t).text? = some t := by
  induction t with
  | nil => rfl
  | cons c t ih =>
    change ((Source.ofText t).text?).map (c :: ·) = _
    rw [ih, Option.map_some]

namespace Decoder

lemma content_ofText (t : Text) : content (Source.ofText t) = .ok t := by
  rw [content, Source.text?_ofText]

lemma integer_of_short {n : Int} (h : Short n) : integer n = .ok n := by
  rw [integer, isTooLong_eq_false_iff.mpr h, if_neg Bool.false_ne_true]

end Decoder

namespace Value

/-- The integers in a value are short. -/
def AllShort (v : Value) : Prop := ∀ n ∈ v.ints, Short n

lemma mem_memberInts {n : Int} {ms : Dictionary Value} :
    n ∈ memberInts ms ↔ ∃ m ∈ ms, n ∈ m.2.ints := by
  induction ms with
  | nil => simp [memberInts]
  | cons m ms ih =>
    obtain ⟨k, v⟩ := m
    simp [memberInts, ih]

lemma SameMembers.keys {ms ns : Dictionary Value} (h : SameMembers ms ns) :
    ms.map Prod.fst = ns.map Prod.fst := by
  match h with
  | .nil => rfl
  | .cons first rest => rw [List.map_cons, List.map_cons, rest.keys]

end Value

/-! ### Dictionaries without repeated keys -/

end SymbolIndex.Json

namespace SymbolIndex.Dictionary

variable {α : Type}

lemma put_of_not_mem {k : Text} {d : Dictionary α} (h : k ∉ d.map Prod.fst) (a : α) :
    put k a d = d ++ [(k, a)] := by
  induction d with
  | nil => rfl
  | cons m d ih =>
    obtain ⟨j, b⟩ := m
    rw [List.map_cons, List.mem_cons, not_or] at h
    rw [put, if_neg (Ne.symm h.1), ih h.2, List.cons_append]

lemma putAll_of_nodup {d ms : Dictionary α} (h : ((d ++ ms).map Prod.fst).Nodup) :
    putAll d ms = d ++ ms := by
  induction ms generalizing d with
  | nil => exact (List.append_nil d).symm
  | cons m ms ih =>
    obtain ⟨k, a⟩ := m
    have fresh : k ∉ d.map Prod.fst := by
      rw [List.map_append, List.nodup_append] at h
      exact fun mem => h.2.2 k mem k List.mem_cons_self rfl
    have moved : d ++ (k, a) :: ms = d ++ [(k, a)] ++ ms := by simp
    rw [moved] at h ⊢
    rw [← ih h]
    change putAll (put k a d) ms = _
    rw [put_of_not_mem fresh]

lemma ofMembers_of_nodup {ms : Dictionary α} (h : (ms.map Prod.fst).Nodup) :
    ofMembers ms = ms :=
  putAll_of_nodup (d := []) h

end SymbolIndex.Dictionary

namespace SymbolIndex.Json

/-! ### Values that are shown -/

mutual

/-- A value that is shown is read, up to the order of members. -/
theorem Tree.Shows.any {t : Tree} {v : Value} (h : t.Shows v) (short : v.AllShort) :
    ∃ w, Decoder.any t = .ok w ∧ w.Same v := by
  match h with
  | .null => exact ⟨_, rfl, .null⟩
  | .bool b => exact ⟨_, rfl, .bool b⟩
  | .int n =>
    have kept : Decoder.integer n = .ok n :=
      Decoder.integer_of_short (short n List.mem_cons_self)
    refine ⟨.number (.int n), ?_, .number (.int n)⟩
    rw [Decoder.any, Decoder.number, kept]
    rfl
  | .str t =>
    refine ⟨.str t, ?_, .str t⟩
    rw [Decoder.any, Decoder.content_ofText]
    rfl
  | @Tree.Shows.arr ts vs items =>
    obtain ⟨ws, read, same⟩ := items.anyItems short 0
    refine ⟨.arr ws, ?_, .arr same⟩
    rw [Decoder.any, read]
    rfl
  | @Tree.Shows.obj ms vs ws distinct order members =>
    have shortMembers : ∀ n ∈ Value.memberInts vs, Short n := by
      intro n hn
      obtain ⟨m, mem, inside⟩ := Value.mem_memberInts.mp hn
      exact short n (Value.mem_memberInts.mpr ⟨m, order.mem_iff.mp mem, inside⟩)
    obtain ⟨us, read, same⟩ := members.anyMembers shortMembers
    have fresh : (us.map Prod.fst).Nodup := by
      rw [same.keys]
      exact (order.map Prod.fst).nodup_iff.mpr distinct
    refine ⟨.obj us, ?_, .obj same order⟩
    rw [Decoder.any, read]
    change Except.ok (Value.obj (Dictionary.ofMembers us)) = _
    rw [Dictionary.ofMembers_of_nodup fresh]

theorem Tree.ShowsItems.anyItems {ts : List Tree} {vs : List Value} (h : Tree.ShowsItems ts vs)
    (short : ∀ n ∈ Value.itemInts vs, Short n) (i : Nat) :
    ∃ ws, Decoder.anyItems i ts = .ok ws ∧ Value.SameItems ws vs := by
  match h with
  | .nil => exact ⟨[], rfl, .nil⟩
  | @Tree.ShowsItems.cons t v ts vs first rest =>
    rw [Value.itemInts, List.forall_mem_append] at short
    obtain ⟨w, value, same⟩ := first.any short.1
    obtain ⟨ws, values, others⟩ := rest.anyItems short.2 (i + 1)
    refine ⟨w :: ws, ?_, .cons same others⟩
    rw [Decoder.anyItems, value, values]
    rfl

theorem Tree.ShowsMembers.anyMembers {ms : List (Source × Tree)} {vs : Dictionary Value}
    (h : Tree.ShowsMembers ms vs) (short : ∀ n ∈ Value.memberInts vs, Short n) :
    ∃ ws, Decoder.anyMembers ms = .ok ws ∧ Value.SameMembers ws vs := by
  match h with
  | .nil => exact ⟨[], rfl, .nil⟩
  | @Tree.ShowsMembers.cons k t v ms vs first rest =>
    rw [Value.memberInts, List.forall_mem_append] at short
    obtain ⟨w, value, same⟩ := first.any short.1
    obtain ⟨ws, values, others⟩ := rest.anyMembers short.2
    refine ⟨(k, w) :: ws, ?_, .cons same others⟩
    rw [Decoder.anyMembers, Decoder.content_ofText, value, values]
    rfl

end

lemma Decoder.any_obj (ms : List (Source × Tree)) (closed : Bool) :
    any (.obj ms closed) = (dictionary (.obj ms closed)).map .obj := by
  rw [any, dictionary]
  cases anyMembers ms with
  | error f => rfl
  | ok vs => cases closed <;> rfl

/-- A dictionary that is shown is read, up to the order of members. -/
lemma Tree.Shows.dictionary {t : Tree} {d : Dictionary Value} (h : t.Shows (.obj d))
    (short : (Value.obj d).AllShort) :
    ∃ e, Decoder.dictionary t = .ok e ∧ (Value.obj e).Same (.obj d) := by
  obtain ⟨w, read, same⟩ := h.any short
  cases h with
  | @obj ms vs _ distinct order members =>
    rw [Decoder.any_obj] at read
    cases kept : Decoder.dictionary (.obj ms true) with
    | error f =>
      rw [kept] at read
      cases read
    | ok e =>
      rw [kept] at read
      cases read
      exact ⟨e, rfl, same⟩

end SymbolIndex.Json
