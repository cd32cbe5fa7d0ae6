import SymbolIndex.Proofs.Traversal
import SymbolIndex.Sexp.Record

/-!
# Expressions of records

A record is read from a list that begins with any value and goes on with dotted pairs whose keys
are texts, and from no other expression.
-/

namespace SymbolIndex

namespace Sexp

/-- The expression of a record with its first value and its fields, keys as they are written. -/
def recordWith (name : Sexp) (fields : List (Text × Sexp)) : Sexp :=
  .list (name :: fields.map fun f => .pair (.text f.1) f.2)

/-- A list that begins with any value and goes on with dotted pairs whose keys are texts. -/
def IsRecord (v : Sexp) : Prop := ∃ name fields, v = recordWith name fields

/-- A record maps `name` to the first value of the expression and the key of each field, without
colons in front, to its value; of several fields with one key the last one counts. -/
def RecordOf (v : Sexp) (r : Record) : Prop :=
  ∃ name fields, v = recordWith name fields ∧
    ∀ key, r.lookup key
      = (("name".toList, name) :: fields.map fun f => (fieldName f.1, f.2)).reverse.lookup key

lemma fields_eq_mapM (vs : List Sexp) : fields vs = vs.mapM field := by
  induction vs with
  | nil => rfl
  | cons v vs ih => rw [fields, List.mapM_cons, ih]

lemma records_eq_mapM (vs : List Sexp) : records vs = vs.mapM record := by
  induction vs with
  | nil => rfl
  | cons v vs ih => rw [records, List.mapM_cons, ih]

lemma field_eq_ok_iff {v : Sexp} {f : Text × Sexp} :
    field v = .ok f ↔ ∃ key value, v = .pair (.text key) value ∧ f = (fieldName key, value) := by
  constructor
  · intro h
    match v, h with
    | .pair (.text key) value, rfl => exact ⟨key, value, rfl, rfl⟩
  · rintro ⟨key, value, rfl, rfl⟩
    rfl

lemma fields_eq_ok_iff {vs : List Sexp} {fs : List (Text × Sexp)} :
    fields vs = .ok fs ↔ ∃ written : List (Text × Sexp),
      vs = (written.map fun f => .pair (.text f.1) f.2) ∧
      fs = written.map fun f => (fieldName f.1, f.2) := by
  rw [fields_eq_mapM, mapM_eq_ok_iff]
  constructor
  · intro h
    induction h with
    | nil => exact ⟨[], rfl, rfl⟩
    | cons first _ ih =>
      obtain ⟨key, value, rfl, rfl⟩ := field_eq_ok_iff.mp first
      obtain ⟨written, rfl, rfl⟩ := ih
      exact ⟨(key, value) :: written, rfl, rfl⟩
  · rintro ⟨written, rfl, rfl⟩
    rw [List.forall₂_map_left_iff, List.forall₂_map_right_iff, List.forall₂_same]
    intro f _
    exact field_eq_ok_iff.mpr ⟨f.1, f.2, rfl, rfl⟩

/-- A field fails with its key where it is a pair whose key is no text. -/
lemma field_eq_compositeKey_iff {v : Sexp} :
    field v = .error .compositeKey ↔ ∃ key value, v = .pair key value ∧ ∀ k, key ≠ .text k := by
  constructor
  · intro h
    match v, h with
    | .pair (.list vs) value, _ => exact ⟨.list vs, value, rfl, fun k => nofun⟩
    | .pair (.pair v w) value, _ => exact ⟨.pair v w, value, rfl, fun k => nofun⟩
  · rintro ⟨key, value, rfl, other⟩
    cases key with
    | text k => exact absurd rfl (other k)
    | _ => rfl

lemma record_recordWith (name : Sexp) (fields : List (Text × Sexp)) :
    record (recordWith name fields) = .ok (Dictionary.ofMembers
      (("name".toList, name) :: fields.map fun f => (fieldName f.1, f.2))) := by
  have read := fields_eq_ok_iff.mpr ⟨fields, rfl, rfl⟩
  rw [recordWith, record, read]
  rfl

lemma isRecord_of_record_eq_ok {v : Sexp} {r : Record} (h : record v = .ok r) : IsRecord v := by
  match v, h with
  | .list (name :: vs), h =>
    obtain ⟨fs, read, -⟩ := bind_eq_ok_iff.mp h
    obtain ⟨written, rfl, -⟩ := fields_eq_ok_iff.mp read
    exact ⟨name, written, rfl⟩

lemma IsRecord.exists_record {v : Sexp} (h : IsRecord v) : ∃ r, record v = .ok r := by
  obtain ⟨name, fields, rfl⟩ := h
  exact ⟨_, record_recordWith name fields⟩

lemma recordOf_of_record_eq_ok {v : Sexp} {r : Record} (h : record v = .ok r) : RecordOf v r := by
  obtain ⟨name, fields, rfl⟩ := isRecord_of_record_eq_ok h
  rw [record_recordWith] at h
  cases h
  exact ⟨name, fields, rfl, fun key => Dictionary.lookup_ofMembers key _⟩

lemma records_eq_ok_iff {vs : List Sexp} {rs : List Record} :
    records vs = .ok rs ↔ List.Forall₂ (fun v r => record v = .ok r) vs rs := by
  rw [records_eq_mapM, mapM_eq_ok_iff]

lemma exists_records_iff {vs : List Sexp} :
    (∃ rs, records vs = .ok rs) ↔ ∀ v ∈ vs, IsRecord v := by
  constructor
  · rintro ⟨rs, made⟩
    have each := (records_eq_ok_iff.mp made).imp fun v r hr =>
      And.intro (isRecord_of_record_eq_ok hr) hr
    exact ((List.forall₂_and_left vs rs).mp each).1
  · intro h
    choose! r made using fun v hv => (h v hv).exists_record
    refine ⟨vs.map r, ?_⟩
    rw [records_eq_ok_iff, List.forall₂_map_right_iff, List.forall₂_same]
    exact made

end Sexp

end SymbolIndex
