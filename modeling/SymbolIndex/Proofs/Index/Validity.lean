import SymbolIndex.Proofs.Index.Meaning
import SymbolIndex.Proofs.Kind
import SymbolIndex.Proofs.Listing

/-!
# Files that build

An index is built of a file unless a declaration is at fault, and then the first of these is
reported. Once an index is built nothing fails any more: the parts of every entry that it shows fit
together, whatever the file says of a keyword, and every cell gives what it is asked for.
-/

namespace SymbolIndex

/-! ### Declarations at fault -/

namespace Declaration

/-- A declaration is at fault when it has no name, when no kind has the name that it gives, or when
its owner does not fit its kind: fields, constructors and methods have one that is not empty, and
all other kinds have none. -/
def AtFault (d : Declaration) : Prop :=
  d.path = [] ∨ (∀ tag : Kind.Tag, tag.name ≠ d.kind) ∨
    ∃ tag : Kind.Tag, tag.name = d.kind ∧
      if tag ∈ [.field, .constructor, .method] then d.owner = none ∨ d.owner = some []
      else d.owner ≠ none

/-- The fault that counts is the first one in the order of path, kind and owner. -/
inductive HasFault (d : Declaration) : DeclarationFault → Prop
  | emptyPath (unnamed : d.path = []) : d.HasFault .emptyPath
  | unknownKind (named : d.path ≠ []) (unknown : ∀ tag : Kind.Tag, tag.name ≠ d.kind) :
    d.HasFault (.kind (.unknownName d.kind))
  | ownerMissing (tag : Kind.Tag) (named : d.path ≠ []) (known : tag.name = d.kind)
    (owned : tag ∈ [.field, .constructor, .method]) (lacking : d.owner = none ∨ d.owner = some []) :
    d.HasFault (.kind (.ownerMissing tag))
  | ownerUnexpected (tag : Kind.Tag) (named : d.path ≠ []) (known : tag.name = d.kind)
    (unowned : tag ∉ [.field, .constructor, .method]) (given : d.owner ≠ none) :
    d.HasFault (.kind (.ownerUnexpected tag))

end Declaration

namespace Declaration

variable {d : Declaration}

lemma symbol_of_named (named : d.path ≠ []) {cause : DeclarationFault} :
    d.symbol = .error cause ↔ ∃ f, Kind.parse d.kind d.owner = .error f ∧ cause = .kind f := by
  rw [symbol, dif_pos named]
  cases Kind.parse d.kind d.owner <;> simp [eq_comm]

lemma symbol_eq_error_iff {cause : DeclarationFault} :
    d.symbol = .error cause ↔ d.HasFault cause := by
  by_cases named : d.path = []
  · rw [symbol, dif_neg (not_not_intro named), Except.error.injEq]
    constructor
    · rintro rfl
      exact .emptyPath named
    · rintro (_ | _)
      · rfl
      all_goals contradiction
  · rw [symbol_of_named named]
    constructor
    · rintro ⟨f, unparsed, rfl⟩
      rcases Kind.parse_eq_error_iff.mp unparsed with ⟨unknown, rfl⟩ | ⟨tag, known, unmade⟩
      · exact .unknownKind named unknown
      · rcases Kind.make?_eq_error_iff.mp unmade with ⟨owned, lacking, rfl⟩ | ⟨free, given, rfl⟩
        · exact .ownerMissing tag named known (tag.isOwned_iff.mp owned) lacking
        · refine .ownerUnexpected tag named known ?_ given
          rw [← tag.isOwned_iff, free]
          exact Bool.false_ne_true
    · rintro (unnamed | ⟨-, unknown⟩ | ⟨tag, -, known, owned, lacking⟩ |
        ⟨tag, -, known, unowned, given⟩)
      · exact absurd unnamed named
      · exact ⟨_, Kind.parse_eq_error_iff.mpr (.inl ⟨unknown, rfl⟩), rfl⟩
      · have unmade := Kind.make?_eq_error_iff.mpr
          (.inl ⟨tag.isOwned_iff.mpr owned, lacking, rfl⟩)
        exact ⟨_, Kind.parse_eq_error_iff.mpr (.inr ⟨tag, known, unmade⟩), rfl⟩
      · rw [← tag.isOwned_iff, Bool.not_eq_true] at unowned
        have unmade := Kind.make?_eq_error_iff.mpr (.inr ⟨unowned, given, rfl⟩)
        exact ⟨_, Kind.parse_eq_error_iff.mpr (.inr ⟨tag, known, unmade⟩), rfl⟩

lemma exists_hasFault_iff : (∃ cause, d.HasFault cause) ↔ d.AtFault := by
  constructor
  · rintro ⟨cause, unnamed | ⟨-, unknown⟩ | ⟨tag, -, known, owned, lacking⟩ |
      ⟨tag, -, known, unowned, given⟩⟩
    · exact .inl unnamed
    · exact .inr (.inl unknown)
    · exact .inr (.inr ⟨tag, known, by rwa [if_pos owned]⟩)
    · exact .inr (.inr ⟨tag, known, by rwa [if_neg unowned]⟩)
  · intro fault
    by_cases named : d.path = []
    · exact ⟨_, .emptyPath named⟩
    · rcases fault with unnamed | unknown | ⟨tag, known, unfit⟩
      · exact absurd unnamed named
      · exact ⟨_, .unknownKind named unknown⟩
      · split at unfit
        · next owned => exact ⟨_, .ownerMissing tag named known owned unfit⟩
        · next unowned => exact ⟨_, .ownerUnexpected tag named known unowned unfit⟩

lemma not_atFault_iff : ¬ d.AtFault ↔ ∃ s, d.symbol = .ok s := by
  rw [← exists_hasFault_iff]
  simp only [← symbol_eq_error_iff]
  cases d.symbol <;> simp

end Declaration

/-! ### The first fault -/

namespace Index

lemma symbolsOf_eq_error_iff {k i : Nat} {ds : List Declaration} {cause : DeclarationFault} :
    symbolsOf k ds = .error ⟨i, cause⟩ ↔
      ∃ front d back, ds = front ++ d :: back ∧ i = k + front.length ∧ d.HasFault cause ∧
        ∀ f ∈ front, ¬ f.AtFault := by
  induction ds generalizing k with
  | nil => simp [symbolsOf]
  | cons d ds ih =>
    cases made : d.symbol with
    | error fault =>
      simp only [symbolsOf, made, Except.error.injEq, BuildFault.mk.injEq]
      constructor
      · rintro ⟨rfl, rfl⟩
        exact ⟨[], d, ds, rfl, rfl, Declaration.symbol_eq_error_iff.mp made,
          List.forall_mem_nil _⟩
      · rintro ⟨_ | ⟨f, front⟩, d', back, parts, rfl, has, sound⟩
        · cases parts
          have given := Declaration.symbol_eq_error_iff.mpr has
          exact ⟨rfl, Except.error.inj (made.symm.trans given)⟩
        · cases parts
          obtain ⟨s, given⟩ := Declaration.not_atFault_iff.mp (sound d List.mem_cons_self)
          cases made.symm.trans given
    | ok s =>
      have rest : symbolsOf k (d :: ds) = .error ⟨i, cause⟩ ↔
          symbolsOf (k + 1) ds = .error ⟨i, cause⟩ := by
        simp only [symbolsOf, made]
        cases symbolsOf (k + 1) ds <;> simp [Except.map]
      rw [rest, ih]
      constructor
      · rintro ⟨front, d', back, rfl, rfl, has, sound⟩
        refine ⟨d :: front, d', back, rfl, by simp; omega, has, ?_⟩
        exact List.forall_mem_cons.mpr ⟨Declaration.not_atFault_iff.mpr ⟨s, made⟩, sound⟩
      · rintro ⟨_ | ⟨f, front⟩, d', back, parts, rfl, has, sound⟩
        · cases parts
          cases made.symm.trans (Declaration.symbol_eq_error_iff.mpr has)
        · cases parts
          exact ⟨front, d', back, rfl, by simp; omega, has,
            (List.forall_mem_cons.mp sound).2⟩

lemma build_eq_error_iff {file : IndexFile} {opened : List Text} {i : Nat}
    {cause : DeclarationFault} :
    build file opened = .error ⟨i, cause⟩ ↔
      ∃ front d back, file.entries = front ++ d :: back ∧ i = front.length ∧ d.HasFault cause ∧
        ∀ f ∈ front, ¬ f.AtFault := by
  have scanned : build file opened = .error ⟨i, cause⟩ ↔
      symbolsOf 0 file.entries = .error ⟨i, cause⟩ := by
    rw [build]
    cases symbolsOf 0 file.entries <;> simp [Except.map]
  rw [scanned, symbolsOf_eq_error_iff]
  simp only [Nat.zero_add]

end Index

/-! ### Parts of entries -/

/-- Why the parts of an entry do not fit together. -/
inductive EntryFault where
  /-- The tag and the owner make no kind. -/
  | kind (f : Kind.Fault)
  /-- The path and the location make no occurrence. -/
  | occurrence (f : OccurrenceFault)

/-- Put together what a declaration says of an entry, as it is seen from an opened module, with
every check that there is. A keyword brings no location with it. -/
def Sighting.checked (x : Sighting) : Except EntryFault Occurrence := do
  let d := x.declaration
  let kind ← (Kind.parse d.kind d.owner).mapError .kind
  let signature := if kind.tag = .keyword then none else d.signature
  (Occurrence.make? d.path kind d.artifact signature
    (some (d.path.drop x.scope.length))).mapError .occurrence

/-- Put together what is known of a keyword of the language, with every check that there is. -/
def checkedKeyword (keyword : Text) : Except EntryFault Occurrence := do
  let kind ← (Kind.make? .keyword none).mapError .kind
  (Occurrence.make? [keyword] kind "<keywords>".toList none none).mapError .occurrence

lemma Sighting.checked_of_entry {x : Sighting} {e : Entry} (made : x.entry = .ok e) :
    x.checked = .ok e.toOccurrence := by
  obtain ⟨i, d, scope⟩ := x
  simp only [entry, Declaration.symbol] at made
  split at made
  · next named =>
    cases parsed : Kind.parse d.kind d.owner with
    | error fault =>
      rw [parsed] at made
      cases made
    | ok kind =>
      rw [parsed] at made
      cases made
      have placed : kind.tag = .keyword →
          (if kind.tag = .keyword then none else d.signature) = none := fun keyword => if_pos keyword
      simp only [checked, parsed, Except.mapError, bind, Except.bind, Occurrence.make?, dif_pos named,
        dif_pos placed]
      rfl
  · cases made

lemma checkedKeyword_eq (keyword : Text) :
    checkedKeyword keyword = .ok (Symbol.keywordEntry keyword).toOccurrence := rfl

lemma map_checked_of_entries {xs : List Sighting} {es : List Entry}
    (made : es.map .ok = xs.map Sighting.entry) :
    xs.map Sighting.checked = es.map fun e => .ok e.toOccurrence := by
  induction xs generalizing es with
  | nil => simpa using made
  | cons x xs ih =>
    cases es with
    | nil => cases made
    | cons e es =>
      simp only [List.map_cons, List.cons.injEq] at made ⊢
      exact ⟨Sighting.checked_of_entry made.1.symm, ih made.2⟩

namespace Index

variable {idx : Index} {file : IndexFile} {opened : List Text}

/-- Every declaration of a file that builds is a symbol. -/
lemma OfFile.exists_symbol (h : idx.OfFile file opened) :
    ∀ d ∈ file.entries, ∃ s, d.symbol = .ok s := by
  have each : List.Forall₂ (fun d s => (∃ s, d.symbol = .ok s) ∧ d.symbol = .ok s) file.entries
      idx.symbols.toList := h.symbols.imp fun d s made => ⟨⟨s, made⟩, made⟩
  exact (List.forall₂_and_left _ _ |>.mp each).1

lemma OfFile.exists_entry (h : idx.OfFile file opened) {x : Sighting}
    (declared : file.entries[x.ordinal]? = some x.declaration) : ∃ e, x.entry = .ok e := by
  obtain ⟨s, made⟩ := h.exists_symbol _ (List.mem_of_getElem? declared)
  exact ⟨s.entry x.scope, by rw [Sighting.entry, made]; rfl⟩

/-- Nothing fails in an index of the file: the parts of each declaration fit together from
wherever they are seen, the parts of what a query gives are among them, and the cells of what it
gives have values. -/
structure Unfailing (file : IndexFile) (idx : Index) : Prop where
  declarations : ∀ x : Sighting, file.entries[x.ordinal]? = some x.declaration →
    ∃ o, x.checked = .ok o
  lookup : ∀ query, (file.lookupScan idx.scopes query).map Sighting.checked
    = (idx.lookup query).map fun e => .ok e.toOccurrence
  complete : ∀ query, (file.completeScan idx.scopes query).map Sighting.checked
      ++ (file.keywordScan query).map checkedKeyword
    = (idx.complete query).map fun e => .ok e.toOccurrence
  cells : ∀ query, ∀ e ∈ idx.lookup query ++ idx.complete query,
    (∃ t, e.typeCell.force.1 = .ok (some t)) ∧ (∃ d, e.docCell.force.1 = .ok d) ∧
      ∃ l, e.implCell.force.1 = .ok l

lemma OfFile.unfailing (h : idx.OfFile file opened) : Unfailing file idx where
  declarations x declared := by
    obtain ⟨e, made⟩ := h.exists_entry declared
    exact ⟨e.toOccurrence, Sighting.checked_of_entry made⟩
  lookup query := map_checked_of_entries (h.entries_lookup query)
  complete query := by
    rw [h.complete_eq_map_completing, List.map_append,
      map_checked_of_entries (h.entries_completing query)]
    simp [checkedKeyword_eq]
  cells query e he := by
    have sound : e.Sound :=
      (List.mem_append.mp he).elim sound_of_mem_lookup sound_of_mem_complete
    simp only [Cell.force_fst]
    exact ⟨sound.type, sound.doc, sound.implementation⟩

/-- A file does not build exactly when a declaration is at fault; then the first of these is
reported, with the first of its faults. Nothing fails in an index that is built. -/
theorem build_reports_first_fault (file : IndexFile) (opened : List Text) :
    ((∃ f, build file opened = .error f) ↔ ∃ d ∈ file.entries, d.AtFault) ∧
      (∀ i cause, build file opened = .error ⟨i, cause⟩ ↔
        ∃ front d back, file.entries = front ++ d :: back ∧ i = front.length ∧ d.HasFault cause ∧
          ∀ f ∈ front, ¬ f.AtFault) ∧
      ∀ idx, build file opened = .ok idx → Unfailing file idx := by
  refine ⟨?_, fun _ _ => build_eq_error_iff, fun idx built => (ofFile_of_build built).unfailing⟩
  constructor
  · rintro ⟨⟨i, cause⟩, unbuilt⟩
    obtain ⟨front, d, back, parts, -, has, -⟩ := build_eq_error_iff.mp unbuilt
    exact ⟨d, by simp [parts], Declaration.exists_hasFault_iff.mp ⟨cause, has⟩⟩
  · rintro ⟨d, hd, fault⟩
    cases built : build file opened with
    | error f => exact ⟨f, rfl⟩
    | ok idx =>
      have sound := (ofFile_of_build built).exists_symbol d hd
      exact absurd fault (Declaration.not_atFault_iff.mpr sound)

/-- A file that states two locations of a keyword. -/
def keywordFile : IndexFile where
  version  := []
  metadata := []
  opened   := ["a".toList]
  keywords := ["let".toList]
  entries  :=
    [⟨["a".toList, "let".toList], "keyword".toList, none, none, none,
      some ⟨"f".toList, 1, 0⟩, some ⟨"g".toList, 2, 0⟩, []⟩]

/-- The same file with two more declarations, the first of which has neither a name nor a kind. -/
def faultyFile : IndexFile :=
  { keywordFile with
    entries := keywordFile.entries ++
      [⟨[], "value".toList, none, none, none, none, none, []⟩,
        ⟨["t".toList], "field".toList, some [], none, none, none, none, []⟩] }

theorem build_reports_first_fault_keywordFile :
    (∃ d ∈ faultyFile.entries, d.AtFault) ∧
      build faultyFile [] = .error ⟨1, .emptyPath⟩ ∧
      ∃ idx, build keywordFile [] = .ok idx ∧
        (keywordFile.completeScan idx.scopes "l".toList).map Sighting.ordinal = [0] ∧
        keywordFile.keywordScan "l".toList = ["let".toList] ∧ Unfailing keywordFile idx := by
  have faulty := build_reports_first_fault faultyFile []
  have sound := build_reports_first_fault keywordFile []
  refine ⟨faulty.1.mp ⟨_, rfl⟩, ?_, _, rfl, by decide, by decide, sound.2.2 _ rfl⟩
  rw [faulty.2.1]
  refine ⟨keywordFile.entries, _, _, rfl, rfl, .emptyPath rfl, ?_⟩
  exact List.forall_mem_singleton.mpr (Declaration.not_atFault_iff.mpr ⟨_, rfl⟩)

end Index

end SymbolIndex
