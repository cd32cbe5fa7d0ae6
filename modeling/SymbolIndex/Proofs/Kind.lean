import SymbolIndex.Catalogue
import SymbolIndex.Proofs.Traversal

/-!
# Kinds by name

A kind is found by its written name, and a list of names selects the kinds that it names or fails
with the first name that no kind has. How the list is spelled makes no difference: what passes is
told by the names alone.
-/

namespace SymbolIndex

namespace Kind

lemma Tag.isOwned_iff (tag : Tag) : tag.isOwned = true ↔ tag ∈ [.field, .constructor, .method] := by
  cases tag <;> decide

lemma Tag.ofName?_eq_some_iff {t : Text} {tag : Tag} : ofName? t = some tag ↔ tag.name = t := by
  constructor
  · exact name_of_ofName?
  · rintro rfl
    exact ofName?_name tag

lemma Tag.ofName?_eq_none_iff {t : Text} : ofName? t = none ↔ ∀ tag : Tag, tag.name ≠ t := by
  simp only [Option.eq_none_iff_forall_ne_some, Ne, ofName?_eq_some_iff]

lemma make?_eq_error_iff {tag : Tag} {owner : Option Text} {f : Fault} :
    make? tag owner = .error f ↔
      (tag.isOwned = true ∧ (owner = none ∨ owner = some []) ∧ f = .ownerMissing tag) ∨
        (tag.isOwned = false ∧ owner ≠ none ∧ f = .ownerUnexpected tag) := by
  cases owned : tag.isOwned <;> rcases owner with _ | _ | ⟨c, o⟩ <;>
    simp [make?, Tag.admits, owned, eq_comm]

lemma parse_eq_error_iff {name : Text} {owner : Option Text} {f : Fault} :
    parse name owner = .error f ↔
      ((∀ tag : Tag, tag.name ≠ name) ∧ f = .unknownName name) ∨
        ∃ tag : Tag, tag.name = name ∧ make? tag owner = .error f := by
  rw [← Tag.ofName?_eq_none_iff]
  simp only [parse, ← Tag.ofName?_eq_some_iff]
  cases Tag.ofName? name <;> simp [eq_comm]

end Kind

/-- Some kind has the name. -/
def Kind.IsName (t : Text) : Prop := ∃ tag : Kind.Tag, t = tag.name

namespace KindSet

variable {names : List Text} {tags tags' : List Kind.Tag} {f : Kind.Fault}

/-! ### Lists of names -/

/-- The tag with a name, or the name as the fault. -/
def tagOfName (t : Text) : Except Kind.Fault Kind.Tag :=
  match Kind.Tag.ofName? t with
  | none     => .error (.unknownName t)
  | some tag => .ok tag

lemma tagOfName_eq_ok_iff {t : Text} {tag : Kind.Tag} : tagOfName t = .ok tag ↔ t = tag.name := by
  rw [eq_comm (a := t), ← Kind.Tag.ofName?_eq_some_iff, tagOfName]
  cases Kind.Tag.ofName? t <;> simp

lemma tagOfName_eq_error_iff {t : Text} :
    tagOfName t = .error f ↔ ¬Kind.IsName t ∧ f = .unknownName t := by
  have unknown : ¬Kind.IsName t ↔ Kind.Tag.ofName? t = none := by
    rw [Kind.Tag.ofName?_eq_none_iff, Kind.IsName, not_exists]
    simp only [eq_comm, Ne]
  rw [unknown, tagOfName]
  cases Kind.Tag.ofName? t <;> simp [eq_comm]

lemma tagsOfNames_eq_mapM (names : List Text) : tagsOfNames names = names.mapM tagOfName := by
  induction names with
  | nil => rfl
  | cons t names ih =>
    rw [tagsOfNames, List.mapM_cons, ← ih, tagOfName]
    cases Kind.Tag.ofName? t with
    | none => rfl
    | some tag => cases tagsOfNames names <;> rfl

/-- Names give tags when they are the names of these tags. -/
lemma tagsOfNames_eq_ok_iff : tagsOfNames names = .ok tags ↔ names = tags.map Kind.Tag.name := by
  simp only [tagsOfNames_eq_mapM, mapM_eq_ok_iff, tagOfName_eq_ok_iff]
  rw [← List.forall₂_map_right_iff, List.forall₂_eq_eq_eq]

/-- Names fail with the first one that no kind has. -/
lemma tagsOfNames_eq_error_iff :
    tagsOfNames names = .error f ↔ ∃ known t rest, names = known ++ t :: rest ∧
      (∀ n ∈ known, Kind.IsName n) ∧ ¬Kind.IsName t ∧ f = .unknownName t := by
  simp only [tagsOfNames_eq_mapM, mapM_eq_error_iff, tagOfName_eq_ok_iff, tagOfName_eq_error_iff]
  rfl

lemma exists_tagsOfNames (h : ∀ n ∈ names, Kind.IsName n) :
    ∃ tags, tagsOfNames names = .ok tags := by
  cases given : tagsOfNames names with
  | error f =>
    obtain ⟨known, t, rest, parts, -, unknown, -⟩ := tagsOfNames_eq_error_iff.mp given
    exact absurd (h t (parts ▸ List.mem_append_right known List.mem_cons_self)) unknown
  | ok tags => exact ⟨tags, rfl⟩

lemma isName_of_tagsOfNames (given : tagsOfNames names = .ok tags) {n : Text} (h : n ∈ names) :
    Kind.IsName n := by
  rw [tagsOfNames_eq_ok_iff.mp given] at h
  obtain ⟨tag, -, rfl⟩ := List.mem_map.mp h
  exact ⟨tag, rfl⟩

/-- A list of names gives the tags that it names. -/
lemma name_mem_iff (given : tagsOfNames names = .ok tags) {tag : Kind.Tag} :
    tag.name ∈ names ↔ tag ∈ tags := by
  have injective : Function.Injective Kind.Tag.name := by
    intro a b same
    have found := Kind.Tag.ofName?_name a
    rw [same, Kind.Tag.ofName?_name] at found
    exact (Option.some.inj found).symm
  rw [tagsOfNames_eq_ok_iff.mp given, List.mem_map_of_injective injective]

/-! ### What a list selects -/

lemma mem_ofList {tag : Kind.Tag} : tag ∈ (ofList tags).tags ↔ tag ∈ tags := by
  simp [ofList, Kind.Tag.mem_all]

/-- The set that a list of tags amounts to; no set when there is none. -/
def selected (tags : List Kind.Tag) : Option KindSet :=
  if tags.isEmpty then none else some (ofList tags)

lemma parse_eq_map (spec : Text) : parse spec = (tagsOfNames (pieces spec)).map selected := rfl

lemma selected_congr (h : ∀ tag, tag ∈ tags' ↔ tag ∈ tags) : selected tags' = selected tags := by
  have empty : tags' = [] ↔ tags = [] := by
    simp only [List.eq_nil_iff_forall_not_mem, h]
  have same : ofList tags' = ofList tags := by
    simp only [ofList, List.contains_eq_mem, h]
  simp only [selected, List.isEmpty_iff, empty, same]

lemma selected_eq_none_iff : selected tags = none ↔ tags = [] := by
  cases tags <;> simp [selected]

lemma mem_of_mem_selected {s : KindSet} (h : s ∈ selected tags) {tag : Kind.Tag} :
    tag ∈ s.tags ↔ tag ∈ tags := by
  rw [selected] at h
  split at h
  · cases h
  · cases h
    exact mem_ofList

/-- What a set of kinds lets pass is named by the list, unless the list names nothing. -/
lemma admits_selected {tag : Kind.Tag} :
    admits (selected tags) tag = true ↔ tags = [] ∨ tag ∈ tags := by
  cases tags with
  | nil => simp [selected, admits]
  | cons t ts => simp [selected, admits, mem_ofList]

section

variable {spec spec' : Text}

lemma parse_eq_error_iff :
    parse spec = .error f ↔ ∃ known t rest, pieces spec = known ++ t :: rest ∧
      (∀ n ∈ known, Kind.IsName n) ∧ ¬Kind.IsName t ∧ f = .unknownName t := by
  rw [parse_eq_map, map_eq_error_iff, tagsOfNames_eq_error_iff]

lemma parse_eq_selected (given : tagsOfNames (pieces spec) = .ok tags) :
    parse spec = .ok (selected tags) := by
  rw [parse_eq_map, given]
  rfl

lemma exists_parse_eq_error_iff :
    (∃ f, parse spec = .error f) ↔ ∃ t ∈ pieces spec, ¬Kind.IsName t := by
  constructor
  · rintro ⟨f, failed⟩
    obtain ⟨known, t, rest, parts, -, unknown, -⟩ := parse_eq_error_iff.mp failed
    exact ⟨t, parts ▸ List.mem_append_right known List.mem_cons_self, unknown⟩
  · rintro ⟨t, ht, unknown⟩
    cases given : tagsOfNames (pieces spec) with
    | error f => exact ⟨f, by rw [parse_eq_map, given]; rfl⟩
    | ok tags => exact absurd (isName_of_tagsOfNames given ht) unknown

lemma parse_congr (known : ∀ n ∈ pieces spec, Kind.IsName n)
    (same : ∀ n, n ∈ pieces spec' ↔ n ∈ pieces spec) : parse spec' = parse spec := by
  obtain ⟨tags, given⟩ := exists_tagsOfNames known
  obtain ⟨tags', given'⟩ := exists_tagsOfNames fun n hn => known n ((same n).mp hn)
  rw [parse_eq_selected given, parse_eq_selected given']
  congr 1
  apply selected_congr
  intro tag
  rw [← name_mem_iff given, ← name_mem_iff given', same]

/-- Completions pass a list of names when the list names their kind. -/
lemma completions_selected (given : tagsOfNames (pieces spec) = .ok tags) (c : Catalogue)
    (query : Text) :
    (c.completions (selected tags) query).1
      = (c.complete query).1.filter fun e => pieces spec = [] ∨ e.kind.tag.name ∈ pieces spec := by
  have empty : pieces spec = [] ↔ tags = [] := by
    rw [tagsOfNames_eq_ok_iff.mp given, List.map_eq_nil_iff]
  apply List.filter_congr
  intro e _
  rw [Bool.eq_iff_iff, admits_selected, decide_eq_true_eq, name_mem_iff given, empty]

/-- A list of names fails exactly when it holds a name that no kind has, and tells the first one.
Otherwise it selects the kinds that it names, or everything if it names none; another list of the
same names selects the same; and of the completions of any catalogue those pass, in their order,
whose kind is named. -/
theorem parse_selects (spec : Text) :
    (∀ f, parse spec = .error f ↔ ∃ known t rest, pieces spec = known ++ t :: rest ∧
      (∀ n ∈ known, Kind.IsName n) ∧ ¬Kind.IsName t ∧ f = .unknownName t) ∧
      ((∃ f, parse spec = .error f) ↔ ∃ t ∈ pieces spec, ¬Kind.IsName t) ∧
      ((∀ n ∈ pieces spec, Kind.IsName n) → ∃ kinds, parse spec = .ok kinds ∧
        (kinds = none ↔ pieces spec = []) ∧
        (∀ s ∈ kinds, ∀ tag : Kind.Tag, tag ∈ s.tags ↔ tag.name ∈ pieces spec) ∧
        (∀ spec', (∀ n, n ∈ pieces spec' ↔ n ∈ pieces spec) → parse spec' = .ok kinds) ∧
        ∀ (c : Catalogue) (query : Text),
          (c.completions kinds query).1 =
            if pieces spec = [] then (c.complete query).1
            else (c.complete query).1.filter fun e => e.kind.tag.name ∈ pieces spec) := by
  refine ⟨fun _ => parse_eq_error_iff, exists_parse_eq_error_iff, ?_⟩
  intro known
  obtain ⟨tags, given⟩ := exists_tagsOfNames known
  refine ⟨selected tags, parse_eq_selected given, ?_, ?_, ?_, ?_⟩
  · rw [selected_eq_none_iff, tagsOfNames_eq_ok_iff.mp given, List.map_eq_nil_iff]
  · intro s hs tag
    rw [name_mem_iff given, mem_of_mem_selected hs]
  · intro spec' same
    rw [parse_congr known same, parse_eq_selected given]
  · intro c query
    rw [completions_selected given]
    by_cases empty : pieces spec = []
    · simp [empty]
    · simp [empty]

theorem parse_selects_spaced :
    (∀ n ∈ pieces "type,,\u2003val ,type".toList, Kind.IsName n) ∧
      (∀ n, n ∈ pieces " val,type".toList ↔ n ∈ pieces "type,,\u2003val ,type".toList) ∧
      parse " val,type".toList = parse "type,,\u2003val ,type".toList := by
  have listed : pieces "type,,\u2003val ,type".toList
      = ["type".toList, "val".toList, "type".toList] := by decide
  have listed' : pieces " val,type".toList = ["val".toList, "type".toList] := by decide
  have known : ∀ n ∈ pieces "type,,\u2003val ,type".toList, Kind.IsName n := by
    rw [listed]
    simp only [List.forall_mem_cons]
    exact ⟨⟨.type, rfl⟩, ⟨.value, rfl⟩, ⟨.type, rfl⟩, List.forall_mem_nil _⟩
  have same : ∀ n, n ∈ pieces " val,type".toList ↔ n ∈ pieces "type,,\u2003val ,type".toList := by
    intro n
    rw [listed, listed']
    simp only [List.mem_cons, List.not_mem_nil, or_false]
    tauto
  obtain ⟨kinds, read, -, -, others, -⟩ := (parse_selects _).2.2 known
  exact ⟨known, same, (others _ same).trans read.symm⟩

/-- The first name that no kind has is told, whatever stands behind it. -/
example : parse "val, vals,typ".toList = .error (.unknownName "vals".toList) := by decide

end

end KindSet

end SymbolIndex
