import SymbolIndex.Proofs.Sexp.Record
import SymbolIndex.Proofs.Sexp.Written
import SymbolIndex.Proofs.Template.Shown

/-!
# Records read back

The records of entries are read back from their printed text, each with what templates show of its
entry. The printed text has one line for each entry and two for the parentheses around them.
-/

namespace SymbolIndex.Sexp

/-! ### The record of one entry -/

/-- The fields of a record, with their keys as they are written. -/
def shownFields (o : Occurrence) (type : Text) (doc : Option Text) : List (Text × Text) :=
  [(":path".toList, o.fullPath), (":type".toList, type), (":kind".toList, o.kind.toText)]
    ++ (doc.map ((":doc".toList, ·))).toList

/-- The expression that a record is. -/
def recordValue (name : Text) (fields : List (Text × Text)) : Sexp :=
  .list (.text name :: fields.map fun f => .pair (.text f.1) (.text f.2))

/-- The written form of a record. -/
def recordForm (name : Text) (fields : List (Text × Text)) : Text :=
  '(' :: Text.joinWith ' ' (quote name :: fields.map fun f => fieldText f.1 f.2) ++ [')']

lemma recordText_outcome {e : Entry} {type : Text} {doc : Option Text}
    (typed : e.typeCell.outcome = .ok (some type)) (documented : e.docCell.outcome = .ok doc) :
    recordText.outcome e
      = .ok (recordForm e.qualified (shownFields e.toOccurrence type doc)) := by
  rw [recordText, Reading.outcome_bind_of_ok (Reading.outcome_getOccurrence e),
    Reading.outcome_bind_of_ok (Reading.outcome_getType typed),
    Reading.outcome_bind_of_ok ((Reading.outcome_getDoc e).trans documented)]
  cases doc <;> rfl

lemma isAtom_of_mem_shownFields {o : Occurrence} {type : Text} {doc : Option Text}
    {f : Text × Text} (h : f ∈ shownFields o type doc) : IsAtom f.1 := by
  have keys : ∀ key ∈ [":path".toList, ":type".toList, ":kind".toList, ":doc".toList],
      IsAtom key := by decide
  apply keys
  cases doc with
  | none =>
    simp only [shownFields, Option.map_none, Option.toList_none, List.append_nil, List.mem_cons,
      List.not_mem_nil, or_false] at h
    rcases h with rfl | rfl | rfl <;> simp
  | some d =>
    simp only [shownFields, Option.map_some, Option.toList_some, List.cons_append, List.nil_append,
      List.mem_cons, List.not_mem_nil, or_false] at h
    rcases h with rfl | rfl | rfl | rfl <;> simp

lemma written_recordForm (name : Text) {fields : List (Text × Text)}
    (keys : ∀ f ∈ fields, IsAtom f.1) :
    Written (recordForm name fields) (recordValue name fields) := by
  have parts : List.Forall₂ Written (fields.map fun f => fieldText f.1 f.2)
      (fields.map fun f => Sexp.pair (.text f.1) (.text f.2)) := by
    rw [List.forall₂_map_left_iff, List.forall₂_map_right_iff, List.forall₂_same]
    intro f hf
    exact .field (keys f hf) f.2
  exact .list (.joinWith (by decide) (.cons (.literal name) parts))

lemma newline_not_mem_fieldText {key : Text} (h : IsAtom key) (value : Text) :
    '\n' ∉ fieldText key value := by
  have hkey : '\n' ∉ key := fun mem => absurd (h.not_endsAtom '\n' mem) (by decide)
  simp [fieldText, hkey, newline_not_mem_quote]

lemma newline_not_mem_recordForm (name : Text) {fields : List (Text × Text)}
    (keys : ∀ f ∈ fields, IsAtom f.1) : '\n' ∉ recordForm name fields := by
  intro h
  simp only [recordForm, List.cons_append, List.mem_cons, List.mem_append, List.not_mem_nil,
    or_false] at h
  rcases h with h | h | h
  · exact absurd h (by decide)
  · rcases Text.mem_joinWith h with h | ⟨part, hpart, hc⟩
    · exact absurd h (by decide)
    · rcases List.mem_cons.mp hpart with rfl | hpart
      · exact newline_not_mem_quote name hc
      · obtain ⟨f, hf, rfl⟩ := List.mem_map.mp hpart
        exact newline_not_mem_fieldText (keys f hf) f.2 hc
  · exact absurd h (by decide)

lemma record_recordValue (name : Text) (fields : List (Text × Text)) :
    record (recordValue name fields)
      = .ok (Dictionary.putAll [("name".toList, .text name)]
          (fields.map fun f => (fieldName f.1, .text f.2))) := by
  have made := record_recordWith (.text name) (fields.map fun f => (f.1, .text f.2))
  rw [recordWith, List.map_map, List.map_map] at made
  exact made

/-- What a record shows: the qualified name, the path, the type and the kind of an entry, and its
documentation if it has some, each as the template of its directive gives it. -/
def Shows (p : Presentation) (e : Entry) (r : Record) : Prop :=
  ∃ name path type kind doc : Text,
    e.shown p "%q".toList = .ok name ∧ e.shown p "%p".toList = .ok path ∧
    e.shown p "%t".toList = .ok type ∧ e.shown p "%k".toList = .ok kind ∧
    e.shown p "%d".toList = .ok doc ∧
    ∃ comment, e.docCell.outcome = .ok comment ∧
      r = [("name".toList, .text name), ("path".toList, .text path), ("type".toList, .text type),
        ("kind".toList, .text kind)] ++ if comment.isSome then [("doc".toList, .text doc)] else []

/-- Reading the record of an entry gives what templates show of it. -/
lemma exists_record (p : Presentation) {e : Entry} {type : Text} {doc : Option Text}
    (typed : e.typeCell.outcome = .ok (some type)) (documented : e.docCell.outcome = .ok doc) :
    ∃ r, record (recordValue e.qualified (shownFields e.toOccurrence type doc)) = .ok r ∧
      Shows p e r := by
  refine ⟨_, record_recordValue _ _, e.qualified, e.fullPath, type, e.kind.toText, doc.getD [],
    e.shown_qualified p, e.shown_fullPath p, e.shown_type p typed, e.shown_kind p,
    e.shown_doc p documented, doc, documented, ?_⟩
  cases doc <;> rfl

lemma Shows.congr {p : Presentation} {e f : Entry} {r : Record} (h : e.Agrees f)
    (shows : Shows p e r) : Shows p f r := by
  simp only [Shows, Entry.shown_congr p _ h, h.doc] at shows
  exact shows

/-! ### The records of several entries -/

/-- The written form of a list of records. -/
def listForm (rs : List Text) : Text :=
  '(' :: '\n' :: rs.flatMap (fun r => ' ' :: ' ' :: r ++ ['\n']) ++ [')', '\n']

lemma printEntries_eq_listForm {es : List Entry} {form : Entry → Text}
    (h : ∀ e ∈ es, recordText.outcome e = .ok (form e)) :
    printEntries es
      = (.ok (listForm (es.map form)), es.map fun e => (recordLine.on e).2) := by
  have lines : recordLine.onEach es
      = ((es.map fun e => [' ', ' '] ++ form e, none), es.map fun e => (recordLine.on e).2) := by
    apply Reading.onEach_eq_map
    intro e he
    rw [recordLine, Reading.outcome_bind_of_ok (h e he)]
    rfl
  have joined := Text.joinWith_append_sep '\n'
    (List.cons_ne_nil ['('] ((es.map fun e => [' ', ' '] ++ form e) ++ [[')']]))
  simp only [printEntries, recordLines, lines]
  rw [List.cons_append, joined]
  simp [listForm, List.flatMap_map]

lemma written_listForm {rs : List Text} {vs : List Sexp} (h : List.Forall₂ Written rs vs) :
    Written (listForm rs) (.list vs) := by
  have space : Text.isBlank ' ' = true := by decide
  have newline : Text.isBlank '\n' = true := by decide
  have items : WrittenAll (rs.flatMap fun r => ' ' :: ' ' :: r ++ ['\n']) vs := by
    induction h with
    | nil => exact .nil
    | cons first rest ih =>
      rw [List.flatMap_cons]
      exact .cons_blank space (.cons_blank space (.append (first.append_blank newline) ih))
  have whole := (Written.list (.cons_blank newline items)).append_blank newline
  simpa [listForm] using whole

lemma count_newline_listForm {rs : List Text} (h : ∀ r ∈ rs, '\n' ∉ r) :
    (listForm rs).count '\n' = rs.length + 2 := by
  have items : (rs.flatMap fun r => ' ' :: ' ' :: r ++ ['\n']).count '\n' = rs.length := by
    induction rs with
    | nil => rfl
    | cons r rs ih =>
      have none := List.count_eq_zero.mpr (h r List.mem_cons_self)
      have rest := ih fun r' hr' => h r' (List.mem_cons_of_mem r hr')
      rw [List.flatMap_cons, List.count_append, rest]
      simp [none]
      omega
  rw [listForm, List.count_append, List.count_cons, List.count_cons, items]
  rfl

lemma records_map {α : Type} {as : List α} {value : α → Sexp} {r : α → Record}
    (h : ∀ a ∈ as, record (value a) = .ok (r a)) : records (as.map value) = .ok (as.map r) := by
  rw [records_eq_ok_iff, List.forall₂_map_left_iff, List.forall₂_map_right_iff, List.forall₂_same]
  exact h

/-- The cells that a record is made from give a type, and documentation or the lack of it. -/
def Recordable (e : Entry) : Prop :=
  ∃ type doc, e.typeCell.outcome = .ok (some type) ∧ e.docCell.outcome = .ok doc

/-- Printing entries and reading the text gives one record for each entry, which holds what
templates show of that entry, before and after it was printed. -/
theorem readRecords_printEntries (p : Presentation) (es : List Entry)
    (ready : ∀ e ∈ es, Recordable e) :
    ∃ text rs, (printEntries es).1 = .ok text ∧ readRecords text = .ok rs ∧
      List.Forall₂ (Shows p) es rs ∧ List.Forall₂ (Shows p) (printEntries es).2 rs ∧
      text.count '\n' = es.length + 2 := by
  unfold Recordable at ready
  choose! type doc typed documented using ready
  choose! r read shows using fun e he => exists_record p (typed e he) (documented e he)
  let fields := fun e => shownFields e.toOccurrence (type e) (doc e)
  have keys : ∀ e, ∀ f ∈ fields e, IsAtom f.1 := fun e f hf => isAtom_of_mem_shownFields hf
  have printed := printEntries_eq_listForm fun e he =>
    recordText_outcome (typed e he) (documented e he)
  have written : Written (listForm (es.map fun e => recordForm e.qualified (fields e)))
      (.list (es.map fun e => recordValue e.qualified (fields e))) := by
    apply written_listForm
    rw [List.forall₂_map_left_iff, List.forall₂_map_right_iff, List.forall₂_same]
    exact fun e _ => written_recordForm e.qualified (keys e)
  have back : readRecords (listForm (es.map fun e => recordForm e.qualified (fields e)))
      = .ok (es.map r) := by
    simp only [readRecords, written.ofText_eq]
    exact records_map read
  refine ⟨_, es.map r, congrArg Prod.fst printed, back, ?_, ?_, ?_⟩
  · rw [List.forall₂_map_right_iff, List.forall₂_same]
    exact shows
  · rw [printed, List.forall₂_map_left_iff, List.forall₂_map_right_iff, List.forall₂_same]
    exact fun e he => (shows e he).congr (Reading.agrees_on recordLine e).symm
  · rw [count_newline_listForm, List.length_map]
    intro t ht
    obtain ⟨e, -, rfl⟩ := List.mem_map.mp ht
    exact newline_not_mem_recordForm e.qualified (keys e)

/-- An entry with quotes, parentheses, dots and control characters wherever a record shows text,
and with an implementation that no record asks for. -/
def hardEntry : Entry where
  path := ["a.b".toList, "(\" \\\n)".toList]
  kind := ⟨.field, some "t).".toList, rfl⟩
  artifact := []
  signature := none
  access := ["\u0007\t".toList, []]
  path_ne_nil := List.cons_ne_nil _ _
  signature_keyword _ := rfl
  typeCell := .lazy fun _ => .ok (some "int . (".toList)
  docCell := .of (some "say \"hi\"\n".toList)
  implCell := .lazy fun _ => .error (.raised [])

theorem readRecords_printEntries_hardEntry :
    (∀ e ∈ [hardEntry, hardEntry], Recordable e) ∧
    ∃ text rs, (printEntries [hardEntry, hardEntry]).1 = .ok text ∧
      readRecords text = .ok rs ∧
      List.Forall₂ (Shows ⟨false, none, 60⟩) [hardEntry, hardEntry] rs ∧
      List.Forall₂ (Shows ⟨false, none, 60⟩) (printEntries [hardEntry, hardEntry]).2 rs ∧
      text.count '\n' = 4 := by
  have ready : ∀ e ∈ [hardEntry, hardEntry], Recordable e := by
    intro e he
    obtain rfl : e = hardEntry := by simpa using he
    exact ⟨_, _, rfl, rfl⟩
  exact ⟨ready, readRecords_printEntries ⟨false, none, 60⟩ [hardEntry, hardEntry] ready⟩

end SymbolIndex.Sexp
