import SymbolIndex.Proofs.Sexp.Reader

/-!
# Keys that are no texts

A key loses its colons before anything has made sure that it is a text. So a text reads as records,
or it is malformed, unless a key that is a list or a pair comes up first: that is neither.
-/

namespace SymbolIndex.Sexp

/-- The expression is a record up to a field, and that field is a pair whose key is no text. -/
def IsCompositelyKeyed (v : Sexp) : Prop :=
  ∃ (name : Sexp) (fields : List (Text × Sexp)) (key value : Sexp) (behind : List Sexp),
    v = .list (name :: fields.map (fun f => .pair (.text f.1) f.2) ++ .pair key value :: behind) ∧
    ∀ k, key ≠ .text k

/-- The text spells a list that holds records up to an item, and a key of that item is no text. -/
def HasCompositeKey (t : Text) : Prop :=
  ∃ ts front v back, tokens t = .ok ts ∧ Spells ts (.list (front ++ v :: back)) ∧
    (∀ u ∈ front, IsRecord u) ∧ IsCompositelyKeyed v

lemma fields_eq_compositeKey_iff {vs : List Sexp} :
    fields vs = .error .compositeKey ↔
      ∃ (written : List (Text × Sexp)) (key value : Sexp) (behind : List Sexp),
        vs = written.map (fun f => .pair (.text f.1) f.2) ++ .pair key value :: behind ∧
        ∀ k, key ≠ .text k := by
  rw [fields_eq_mapM, mapM_eq_error_iff]
  constructor
  · rintro ⟨front, v, behind, rfl, sound, failing⟩
    obtain ⟨key, value, rfl, other⟩ := field_eq_compositeKey_iff.mp failing
    choose! f read using sound
    have made : fields front = .ok (front.map f) := by
      rw [fields_eq_mapM, mapM_eq_ok_iff, List.forall₂_map_right_iff, List.forall₂_same]
      exact read
    obtain ⟨written, rfl, -⟩ := fields_eq_ok_iff.mp made
    exact ⟨written, key, value, behind, rfl, other⟩
  · rintro ⟨written, key, value, behind, rfl, other⟩
    refine ⟨_, _, behind, rfl, ?_, field_eq_compositeKey_iff.mpr ⟨key, value, rfl, other⟩⟩
    intro v hv
    obtain ⟨f, -, rfl⟩ := List.mem_map.mp hv
    exact ⟨_, field_eq_ok_iff.mpr ⟨f.1, f.2, rfl, rfl⟩⟩

lemma record_eq_compositeKey_iff {v : Sexp} :
    record v = .error .compositeKey ↔ IsCompositelyKeyed v := by
  constructor
  · intro h
    match v, h with
    | .list (name :: vs), h =>
      obtain failing | ⟨fs, -, made⟩ := bind_eq_error_iff.mp h
      · obtain ⟨written, key, value, behind, rfl, other⟩ := fields_eq_compositeKey_iff.mp failing
        exact ⟨name, written, key, value, behind, rfl, other⟩
      · cases made
  · rintro ⟨name, written, key, value, behind, rfl, other⟩
    have failing := fields_eq_compositeKey_iff.mpr ⟨written, key, value, behind, rfl, other⟩
    exact bind_eq_error_iff.mpr (.inl failing)

lemma records_eq_compositeKey_iff {vs : List Sexp} :
    records vs = .error .compositeKey ↔ ∃ front v back, vs = front ++ v :: back ∧
      (∀ u ∈ front, IsRecord u) ∧ IsCompositelyKeyed v := by
  have readable : ∀ u, (∃ r, record u = .ok r) ↔ IsRecord u := fun u =>
    ⟨fun ⟨_, made⟩ => isRecord_of_record_eq_ok made, IsRecord.exists_record⟩
  simp only [records_eq_mapM, mapM_eq_error_iff, readable, record_eq_compositeKey_iff]

lemma readRecords_eq_compositeKey_iff {t : Text} :
    readRecords t = .error .compositeKey ↔ HasCompositeKey t := by
  constructor
  · intro h
    obtain ⟨ts, vs, split, spelled⟩ | ⟨f, malformed⟩ := spells_or_malformed t
    · rw [readRecords_of_spells split spelled] at h
      obtain ⟨front, v, back, rfl, formed, keyed⟩ := records_eq_compositeKey_iff.mp h
      exact ⟨ts, front, v, back, split, spelled, formed, keyed⟩
    · cases malformed.symm.trans h
  · rintro ⟨ts, front, v, back, split, spelled, formed, keyed⟩
    rw [readRecords_of_spells split spelled]
    exact records_eq_compositeKey_iff.mpr ⟨front, v, back, rfl, formed, keyed⟩

/-- A text reads as records, or it is malformed, unless a key that is no text comes up before
anything is malformed; the reader then ends in neither way. -/
theorem reads_or_malformed_iff (t : Text) :
    ((∃ rs, readRecords t = .ok rs) ∨ (∃ f, readRecords t = .error (.malformed f)) ↔
      ¬ HasCompositeKey t) ∧
    (readRecords t = .error .compositeKey ↔ HasCompositeKey t) := by
  refine ⟨?_, readRecords_eq_compositeKey_iff⟩
  rw [← readRecords_eq_compositeKey_iff]
  rcases readRecords t with (f | _) | rs <;> simp

/-- The key of the only field is a list. -/
theorem not_reads_or_malformed_listKey :
    ¬ ((∃ rs, readRecords "((a ((b) . c)))".toList = .ok rs) ∨
      ∃ f, readRecords "((a ((b) . c)))".toList = .error (.malformed f)) := by
  have split : tokens "((a ((b) . c)))".toList = .ok
      [.openParen, .openParen, .atom ['a'], .openParen, .openParen, .atom ['b'], .closeParen, .dot,
        .atom ['c'], .closeParen, .closeParen, .closeParen] := by
    decide +kernel
  have key : Spells [.openParen, .atom ['b'], .closeParen] (.list [.text ['b']]) :=
    .list (.cons (.atom _) .nil)
  have item := Spells.list (.cons (.atom ['a']) (.cons (.pair key (.atom ['c'])) .nil))
  have whole := Spells.list (.cons item .nil)
  have keyed := readRecords_eq_compositeKey_iff.mpr ⟨_, [], _, [], split, whole, nofun, _, [],
    .list [.text ['b']], .text ['c'], [], rfl, nofun⟩
  rw [keyed]
  rintro (⟨rs, ⟨⟩⟩ | ⟨f, ⟨⟩⟩)

end SymbolIndex.Sexp
