import SymbolIndex.Json.Schema
import SymbolIndex.Proofs.Json.Value

/-!
# Records

The members of an object write a record when each field has a member that shows its value, or has a
default and no member. Members with other keys may stand between them and show anything. What the
fields of a record have become depends on the keys that were read, and not on their order.
-/

namespace SymbolIndex.Json

variable {α σ : Type} {ms : List (Source × Tree)} {seen : List Source} {k : Source} {name : Text}

/-! ### Members that write a field -/

/-- The members of a key show the value of a field, and the field may be left out if it has its
default. -/
structure WritesField (ms : List (Source × Tree)) (name : Text) (shows : Tree → Prop)
    (isDefault : Prop) : Prop where
  shown : ∀ t, (Source.ofText name, t) ∈ ms → shows t
  present : Source.ofText name ∈ ms.map Prod.fst ∨ isDefault

lemma WritesField.of_filter {shows : Tree → Prop} {isDefault : Prop} {t : Tree}
    (h : ms.filter (·.1 == Source.ofText name) = [(Source.ofText name, t)]) (shown : shows t) :
    WritesField ms name shows isDefault := by
  have members : ∀ u, (Source.ofText name, u) ∈ ms ↔ u = t := by
    intro u
    have filtered : (Source.ofText name, u) ∈ ms.filter (·.1 == Source.ofText name)
        ↔ (Source.ofText name, u) ∈ ms := by
      simp
    rw [← filtered, h, List.mem_singleton, Prod.mk.injEq, and_iff_right rfl]
  constructor
  · intro u hu
    exact (members u).mp hu ▸ shown
  · exact .inl (List.mem_map.mpr ⟨_, (members t).mpr rfl, rfl⟩)

lemma WritesField.of_default {shows : Tree → Prop} {isDefault : Prop}
    (h : ms.filter (·.1 == Source.ofText name) = []) (default : isDefault) :
    WritesField ms name shows isDefault := by
  constructor
  · intro u hu
    have absent := List.filter_eq_nil_iff.mp h _ hu
    simp at absent
  · exact .inr default

/-- What a field holds when the members of some keys were read: its value if its own key is one of
them, and else its default. -/
def holds (name : Text) (seen : List Source) (value default : α) : α :=
  if Source.ofText name ∈ seen then value else default

@[simp] lemma holds_self (seen : List Source) (a b : α) :
    holds name (Source.ofText name :: seen) a b = a := if_pos List.mem_cons_self

lemma holds_other (h : k ≠ Source.ofText name) (seen : List Source) (a b : α) :
    holds name (k :: seen) a b = holds name seen a b := by
  simp [holds, h.symm]

/-- A field that is written holds its value in the end. -/
lemma WritesField.holds {shows : Tree → Prop} {isDefault : Prop} {a b : α}
    (h : WritesField ms name shows isDefault) (default : isDefault → a = b) :
    holds name (ms.map Prod.fst).reverse a b = a := by
  simp only [Json.holds, List.mem_reverse]
  split
  · rfl
  · next absent => exact (default (h.present.resolve_left absent)).symm

namespace Decoder

/-! ### Trees of one type -/

lemma field_read {decode : Decoder α} {store : α → σ → σ} {t : Tree} {a : α} {d e : σ}
    (h : decode t = .ok a) (stored : store a d = e) :
    (field name decode store).read t d = .ok e := by
  change (decode t).map (store · d) = _
  rw [h, ← stored]
  rfl

lemma items_of_forall₂ {item : Decoder α} {ts : List Tree} {as : List α}
    (h : List.Forall₂ (fun t a => item t = .ok a) ts as) (i : Nat) :
    items item i ts = .ok as := by
  induction h generalizing i with
  | nil => rfl
  | cons first _ ih =>
    rw [items, first, ih]
    rfl

lemma array_of_forall₂ {item : Decoder α} {ts : List Tree} {as : List α}
    (h : List.Forall₂ (fun t a => item t = .ok a) ts as) : array item (.arr ts true) = .ok as := by
  rw [array, items_of_forall₂ h]
  rfl

/-! ### Members -/

variable {fields : List (FieldDecoder σ)}

/-- Reading one member keeps what reading the field of its key keeps. -/
lemma exists_member {t : Tree} {d : σ} {P : σ → Prop} (intact : t.intact = true)
    (known : ∀ f ∈ fields, k = Source.ofText f.name → ∃ e, f.read t d = .ok e ∧ P e)
    (unknown : (∀ f ∈ fields, k ≠ Source.ofText f.name) → P d) :
    ∃ e, member fields k t d = .ok e ∧ P e := by
  rw [member]
  split
  · next f found =>
    have name : k = Source.ofText f.name := (by simpa using List.find?_some found : _ = k).symm
    obtain ⟨e, read, kept⟩ := known f (List.mem_of_find?_eq_some found) name
    exact ⟨e, by rw [read]; rfl, kept⟩
  · next missing =>
    refine ⟨d, by rw [intact]; rfl, unknown fun f hf same => ?_⟩
    have other := List.find?_eq_none.mp missing f hf
    simp [same] at other

/-- Whatever member is read next, what was read before it stays in the relation `P` to the keys that
it was read from. -/
structure Keeps (fields : List (FieldDecoder σ)) (ms : List (Source × Tree))
    (P : List Source → σ → Prop) : Prop where
  known : ∀ f ∈ fields, ∀ t, (Source.ofText f.name, t) ∈ ms → ∀ seen d, P seen d →
    ∃ e, f.read t d = .ok e ∧ P (Source.ofText f.name :: seen) e
  unknown : ∀ k, (∀ f ∈ fields, k ≠ Source.ofText f.name) → ∀ seen d, P seen d → P (k :: seen) d

namespace Keeps

variable {P : List Source → σ → Prop}

lemma tail {m : Source × Tree} (h : Keeps fields (m :: ms) P) : Keeps fields ms P where
  known f hf t ht := h.known f hf t (List.mem_cons_of_mem m ht)
  unknown := h.unknown

lemma exists_head {t : Tree} {d : σ} (h : Keeps fields ((k, t) :: ms) P) (intact : t.intact = true)
    (start : P seen d) : ∃ e, member fields k t d = .ok e ∧ P (k :: seen) e := by
  apply exists_member intact
  · rintro f hf rfl
    exact h.known f hf t List.mem_cons_self seen d start
  · intro other
    exact h.unknown k other seen d start

/-- What each member keeps is kept through all of them. -/
lemma exists_members (h : Keeps fields ms P) (intact : Tree.intactMembers ms = true) {d : σ}
    (start : P seen d) :
    ∃ e, members fields ms d = .ok e ∧ P ((ms.map Prod.fst).reverse ++ seen) e := by
  induction ms generalizing seen d with
  | nil => exact ⟨d, rfl, start⟩
  | cons m ms ih =>
    obtain ⟨k, t⟩ := m
    rw [Tree.intactMembers, Bool.and_eq_true] at intact
    obtain ⟨e, read, kept⟩ := h.exists_head intact.1 start
    obtain ⟨e', others, keptAll⟩ := ih h.tail intact.2 kept
    refine ⟨e', ?_, ?_⟩
    · rw [members, read]
      exact others
    · simpa using keptAll

lemma exists_record (h : Keeps fields ms P) (intact : Tree.intactMembers ms = true) {defaults : σ}
    (start : P [] defaults) :
    ∃ e, record fields defaults ms true = .ok e ∧ P (ms.map Prod.fst).reverse e := by
  obtain ⟨e, read, kept⟩ := h.exists_members intact start
  refine ⟨e, by rw [record, read]; rfl, ?_⟩
  rwa [List.append_nil] at kept

end Keeps

/-- A record that is determined by the keys that were read. -/
lemma record_eq (known : List Source → σ) {defaults : σ} (intact : Tree.intactMembers ms = true)
    (start : known [] = defaults)
    (field : ∀ f ∈ fields, ∀ t, (Source.ofText f.name, t) ∈ ms → ∀ seen,
      f.read t (known seen) = .ok (known (Source.ofText f.name :: seen)))
    (other : ∀ k, (∀ f ∈ fields, k ≠ Source.ofText f.name) → ∀ seen,
      known (k :: seen) = known seen) :
    record fields defaults ms true = .ok (known (ms.map Prod.fst).reverse) := by
  have keeps : Keeps fields ms fun seen d => d = known seen := by
    constructor
    · rintro f hf t ht seen _ rfl
      exact ⟨_, field f hf t ht seen, rfl⟩
    · rintro k unknown seen _ rfl
      exact (other k unknown seen).symm
  obtain ⟨e, read, rfl⟩ := keeps.exists_record intact start.symm
  exact read

end Decoder

end SymbolIndex.Json
