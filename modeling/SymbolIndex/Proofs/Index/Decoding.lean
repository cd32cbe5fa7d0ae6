import SymbolIndex.Index.File
import SymbolIndex.Proofs.Json.Grammar
import SymbolIndex.Proofs.Json.Record

/-!
# Files that are spelled out

A text spells an index file in many ways. The members of its objects come in any order, fields that
hold their default may be left out, members that are no fields may be added, white space may stand
between tokens, and characters may be escaped. All of these texts decode to the file.
-/

namespace SymbolIndex.IndexFile

open Json

/-! ### Trees of the parts of a file -/

/-- A tree shows a text. -/
def ShowsText (s : Text) (t : Tree) : Prop := t = .str (Source.ofText s)

/-- A tree shows an integer. -/
def ShowsInt (n : Int) (t : Tree) : Prop := t = .number (.int n)

/-- A tree shows a text or null. -/
def ShowsOptionalText : Option Text → Tree → Prop
  | none, t   => t = .null
  | some s, t => ShowsText s t

/-- A tree shows a list of texts. -/
def ShowsTexts (ss : List Text) (t : Tree) : Prop :=
  t = .arr (ss.map fun s => .str (Source.ofText s)) true

/-- The members of an object write a location. -/
structure WritesLocation (ms : List (Source × Tree)) (l : Location) : Prop where
  file : WritesField ms "file".toList (ShowsText l.file) False
  line : WritesField ms "line".toList (ShowsInt l.line) False
  col : WritesField ms "col".toList (ShowsInt l.col) (l.col = 0)

/-- A tree shows a location or null. -/
def ShowsLocation : Option Location → Tree → Prop
  | none, t   => t = .null
  | some l, t => ∃ ms, t = .obj ms true ∧ WritesLocation ms l

/-- The members of an object write a declaration. -/
structure WritesDeclaration (ms : List (Source × Tree)) (d : Declaration) : Prop where
  path : WritesField ms "path".toList (ShowsTexts d.path) False
  kind : WritesField ms "kind".toList (ShowsText d.kind) False
  owner : WritesField ms "owner".toList (ShowsOptionalText d.owner) (d.owner = none)
  type : WritesField ms "type".toList (ShowsOptionalText d.type) (d.type = none)
  doc : WritesField ms "doc".toList (ShowsOptionalText d.doc) (d.doc = none)
  implementation :
    WritesField ms "loc_impl".toList (ShowsLocation d.implementation) (d.implementation = none)
  signature : WritesField ms "loc_sig".toList (ShowsLocation d.signature) (d.signature = none)
  artifact : WritesField ms "artifact".toList (ShowsText d.artifact) (d.artifact = [])

/-- A tree shows a declaration. -/
def ShowsDeclaration (t : Tree) (d : Declaration) : Prop :=
  ∃ ms, t = .obj ms true ∧ WritesDeclaration ms d

/-- A tree shows a list of declarations. -/
def ShowsDeclarations (ds : List Declaration) (t : Tree) : Prop :=
  ∃ ts, t = .arr ts true ∧ List.Forall₂ ShowsDeclaration ts ds

/-- The members of an object write an index file. -/
structure WritesFile (ms : List (Source × Tree)) (file : IndexFile) : Prop where
  version : WritesField ms "version".toList (ShowsText file.version) (file.version = "1.0".toList)
  metadata : WritesField ms "metadata".toList (Tree.Shows · (.obj file.metadata))
    (file.metadata = [])
  opened : WritesField ms "opened".toList (ShowsTexts file.opened) (file.opened = [])
  keywords : WritesField ms "keywords".toList (ShowsTexts file.keywords) (file.keywords = [])
  entries : WritesField ms "entries".toList (ShowsDeclarations file.entries) (file.entries = [])

/-- A text spells an index file. -/
def SpelledBy (file : IndexFile) (s : Text) : Prop :=
  ∃ ms, WritesFile ms file ∧ (Tree.obj ms true).Writes s

/-! ### Reading the parts -/

lemma text_of_shows {s : Text} {t : Tree} (h : ShowsText s t) : Decoder.text t = .ok s := by
  rw [h]
  exact Decoder.content_ofText s

lemma int_of_shows {n : Int} {t : Tree} (h : ShowsInt n t) (short : Short n) :
    Decoder.int t = .ok n := by
  rw [h]
  exact Decoder.integer_of_short short

lemma optionalText_of_shows {o : Option Text} {t : Tree} (h : ShowsOptionalText o t) :
    Decoder.optionalText t = .ok o := by
  cases o with
  | none =>
    obtain rfl : t = .null := h
    rfl
  | some s =>
    obtain rfl : t = .str (Source.ofText s) := h
    rw [Decoder.optionalText, Decoder.content_ofText]
    rfl

lemma texts_of_shows {ss : List Text} {t : Tree} (h : ShowsTexts ss t) :
    Decoder.array Decoder.text t = .ok ss := by
  rw [h]
  apply Decoder.array_of_forall₂
  rw [List.forall₂_map_left_iff, List.forall₂_same]
  exact fun s _ => Decoder.content_ofText s

/-! ### Locations -/

/-- What is known of a location when the members of some keys were read. -/
def LocationDraft.known (l : Location) (seen : List Source) : LocationDraft where
  file := holds "file".toList seen (some l.file) none
  line := holds "line".toList seen (some l.line) none
  col  := holds "col".toList seen l.col 0

lemma WritesLocation.record {ms : List (Source × Tree)} {l : Location} (h : WritesLocation ms l)
    (intact : Tree.intactMembers ms = true) (line : Short l.line) (col : Short l.col) :
    Decoder.record locationFields ⟨none, none, 0⟩ ms true
      = .ok ⟨some l.file, some l.line, l.col⟩ := by
  have final : LocationDraft.known l (ms.map Prod.fst).reverse
      = ⟨some l.file, some l.line, l.col⟩ := by
    simp only [LocationDraft.known, h.file.holds False.elim, h.line.holds False.elim, h.col.holds id]
  rw [← final]
  apply Decoder.record_eq (LocationDraft.known l) intact rfl
  · intro f hf t ht seen
    simp only [locationFields, List.mem_cons, List.not_mem_nil, or_false] at hf
    rcases hf with rfl | rfl | rfl
    · apply Decoder.field_read (text_of_shows (h.file.shown t ht))
      simp +decide [LocationDraft.known, Decoder.field, holds_other]
    · apply Decoder.field_read (int_of_shows (h.line.shown t ht) line)
      simp +decide [LocationDraft.known, Decoder.field, holds_other]
    · apply Decoder.field_read (int_of_shows (h.col.shown t ht) col)
      simp +decide [LocationDraft.known, Decoder.field, holds_other]
  · intro k unknown seen
    simp only [locationFields, List.forall_mem_cons, Decoder.field] at unknown
    obtain ⟨file, line, col, -⟩ := unknown
    simp only [LocationDraft.known, holds_other file, holds_other line, holds_other col]

/-- The integers of a location. -/
def locationInts (l : Location) : List Int := [l.line, l.col]

lemma location_of_shows {o : Option Location} {t : Tree} (h : ShowsLocation o t)
    (intact : t.intact = true) (short : ∀ l ∈ o, ∀ n ∈ locationInts l, Short n) :
    location t = .ok o := by
  cases o with
  | none =>
    obtain rfl : t = .null := h
    rfl
  | some l =>
    obtain ⟨ms, rfl, writes⟩ := h
    simp only [locationInts, List.forall_mem_cons] at short
    obtain ⟨line, col, -⟩ := short l rfl
    rw [Tree.intact, Bool.and_true] at intact
    rw [location, Decoder.optionalObject, writes.record intact line col]
    rfl

/-! ### Declarations -/

/-- What is known of a declaration when the members of some keys were read. -/
def DeclarationDraft.known (d : Declaration) (seen : List Source) : DeclarationDraft where
  path           := holds "path".toList seen (some d.path) none
  kind           := holds "kind".toList seen (some d.kind) none
  owner          := holds "owner".toList seen d.owner none
  type           := holds "type".toList seen d.type none
  doc            := holds "doc".toList seen d.doc none
  implementation := holds "loc_impl".toList seen d.implementation none
  signature      := holds "loc_sig".toList seen d.signature none
  artifact       := holds "artifact".toList seen d.artifact []

/-- The integers of a declaration. -/
def declarationInts (d : Declaration) : List Int :=
  (d.implementation.toList ++ d.signature.toList).flatMap locationInts

lemma intact_of_mem {ms : List (Source × Tree)} (h : Tree.intactMembers ms = true)
    {m : Source × Tree} (mem : m ∈ ms) : m.2.intact = true := by
  induction ms with
  | nil => cases mem
  | cons m' ms ih =>
    obtain ⟨k, t⟩ := m'
    rw [Tree.intactMembers, Bool.and_eq_true] at h
    rcases List.mem_cons.mp mem with rfl | mem
    · exact h.1
    · exact ih h.2 mem

lemma WritesDeclaration.record {ms : List (Source × Tree)} {d : Declaration}
    (h : WritesDeclaration ms d) (intact : Tree.intactMembers ms = true)
    (short : ∀ n ∈ declarationInts d, Short n) :
    Decoder.record declarationFields .empty ms true
      = .ok ⟨some d.path, some d.kind, d.owner, d.type, d.doc, d.implementation, d.signature,
          d.artifact⟩ := by
  have shortIn (o : Option Location) (part : o.toList ⊆ d.implementation.toList ++ d.signature.toList) :
      ∀ l ∈ o, ∀ n ∈ locationInts l, Short n := by
    intro l hl n hn
    exact short n (List.mem_flatMap.mpr ⟨l, part (Option.mem_toList.mpr hl), hn⟩)
  have implementation := shortIn d.implementation (List.subset_append_left _ _)
  have signature := shortIn d.signature (List.subset_append_right _ _)
  have final : DeclarationDraft.known d (ms.map Prod.fst).reverse
      = ⟨some d.path, some d.kind, d.owner, d.type, d.doc, d.implementation, d.signature,
          d.artifact⟩ := by
    simp only [DeclarationDraft.known, h.path.holds False.elim, h.kind.holds False.elim,
      h.owner.holds id, h.type.holds id, h.doc.holds id, h.implementation.holds id,
      h.signature.holds id, h.artifact.holds id]
  rw [← final]
  apply Decoder.record_eq (DeclarationDraft.known d) intact rfl
  · intro f hf t ht seen
    have inside : t.intact = true := intact_of_mem intact ht
    simp only [declarationFields, List.mem_cons, List.not_mem_nil, or_false] at hf
    rcases hf with rfl | rfl | rfl | rfl | rfl | rfl | rfl | rfl
    · apply Decoder.field_read (texts_of_shows (h.path.shown t ht))
      simp +decide [DeclarationDraft.known, Decoder.field, holds_other]
    · apply Decoder.field_read (text_of_shows (h.kind.shown t ht))
      simp +decide [DeclarationDraft.known, Decoder.field, holds_other]
    · apply Decoder.field_read (optionalText_of_shows (h.owner.shown t ht))
      simp +decide [DeclarationDraft.known, Decoder.field, holds_other]
    · apply Decoder.field_read (optionalText_of_shows (h.type.shown t ht))
      simp +decide [DeclarationDraft.known, Decoder.field, holds_other]
    · apply Decoder.field_read (optionalText_of_shows (h.doc.shown t ht))
      simp +decide [DeclarationDraft.known, Decoder.field, holds_other]
    · apply Decoder.field_read
        (location_of_shows (h.implementation.shown t ht) inside implementation)
      simp +decide [DeclarationDraft.known, Decoder.field, holds_other]
    · apply Decoder.field_read (location_of_shows (h.signature.shown t ht) inside signature)
      simp +decide [DeclarationDraft.known, Decoder.field, holds_other]
    · apply Decoder.field_read (text_of_shows (h.artifact.shown t ht))
      simp +decide [DeclarationDraft.known, Decoder.field, holds_other]
  · intro k unknown seen
    simp only [declarationFields, List.forall_mem_cons, Decoder.field] at unknown
    obtain ⟨path, kind, owner, type, doc, implementation, signature, artifact, -⟩ := unknown
    simp only [DeclarationDraft.known, holds_other path, holds_other kind, holds_other owner,
      holds_other type, holds_other doc, holds_other implementation, holds_other signature,
      holds_other artifact]

lemma declaration_of_shows {t : Tree} {d : Declaration} (h : ShowsDeclaration t d)
    (intact : t.intact = true) (short : ∀ n ∈ declarationInts d, Short n) :
    declaration t = .ok d := by
  obtain ⟨ms, rfl, writes⟩ := h
  rw [Tree.intact, Bool.and_true] at intact
  rw [declaration, Decoder.object, writes.record intact short]
  rfl

lemma declarations_of_shows {ds : List Declaration} {t : Tree} (h : ShowsDeclarations ds t)
    (intact : t.intact = true) (short : ∀ n ∈ ds.flatMap declarationInts, Short n) :
    Decoder.array declaration t = .ok ds := by
  obtain ⟨ts, rfl, each⟩ := h
  rw [Tree.intact, Bool.and_true] at intact
  apply Decoder.array_of_forall₂
  induction each with
  | nil => exact .nil
  | cons first _ ih =>
    rw [Tree.intactItems, Bool.and_eq_true] at intact
    rw [List.flatMap_cons, List.forall_mem_append] at short
    exact .cons (declaration_of_shows first intact.1 short.1) (ih short.2 intact.2)

/-! ### Files -/

/-- What is known of a file when the members of some keys were read. -/
def known (file : IndexFile) (seen : List Source) : IndexFile where
  version  := holds "version".toList seen file.version "1.0".toList
  metadata := holds "metadata".toList seen file.metadata []
  opened   := holds "opened".toList seen file.opened []
  keywords := holds "keywords".toList seen file.keywords []
  entries  := holds "entries".toList seen file.entries []

/-- The integers of a file. -/
def ints (file : IndexFile) : List Int :=
  (Value.obj file.metadata).ints ++ file.entries.flatMap declarationInts

/-- Two files differ in the order of metadata at most. -/
structure Same (file other : IndexFile) : Prop where
  version : file.version = other.version
  metadata : (Value.obj file.metadata).Same (.obj other.metadata)
  opened : file.opened = other.opened
  keywords : file.keywords = other.keywords
  entries : file.entries = other.entries

lemma known_other {k : Source} (unknown : ∀ f ∈ fields, k ≠ Source.ofText f.name)
    (file : IndexFile) (seen : List Source) : known file (k :: seen) = known file seen := by
  simp only [fields, List.forall_mem_cons, Decoder.field] at unknown
  obtain ⟨version, metadata, opened, keywords, entries, -⟩ := unknown
  simp only [known, holds_other version, holds_other metadata, holds_other opened,
    holds_other keywords, holds_other entries]

/-- Reading the field of a key makes its value known. -/
lemma WritesFile.read {ms : List (Source × Tree)} {file : IndexFile} (h : WritesFile ms file)
    (intact : Tree.intactMembers ms = true) (short : ∀ n ∈ file.ints, Short n)
    {f : FieldDecoder IndexFile} (hf : f ∈ fields) {t : Tree}
    (ht : (Source.ofText f.name, t) ∈ ms) {seen : List Source} {before : IndexFile}
    (same : before.Same (known file seen)) :
    ∃ next, f.read t before = .ok next ∧ next.Same (known file (Source.ofText f.name :: seen)) := by
  rw [ints, List.forall_mem_append] at short
  simp only [fields, List.mem_cons, List.not_mem_nil, or_false] at hf
  rcases hf with rfl | rfl | rfl | rfl | rfl
  · refine ⟨_, Decoder.field_read (text_of_shows (h.version.shown t ht)) rfl, ?_⟩
    have kept : known file (Source.ofText "version".toList :: seen)
        = { known file seen with version := file.version } := by
      simp +decide [known, holds_other]
    exact kept ▸ { same with version := rfl }
  · obtain ⟨metadata, value, alike⟩ := (h.metadata.shown t ht).dictionary short.1
    refine ⟨_, Decoder.field_read value rfl, ?_⟩
    have kept : known file (Source.ofText "metadata".toList :: seen)
        = { known file seen with metadata := file.metadata } := by
      simp +decide [known, holds_other]
    exact kept ▸ { same with metadata := alike }
  · refine ⟨_, Decoder.field_read (texts_of_shows (h.opened.shown t ht)) rfl, ?_⟩
    have kept : known file (Source.ofText "opened".toList :: seen)
        = { known file seen with opened := file.opened } := by
      simp +decide [known, holds_other]
    exact kept ▸ { same with opened := rfl }
  · refine ⟨_, Decoder.field_read (texts_of_shows (h.keywords.shown t ht)) rfl, ?_⟩
    have kept : known file (Source.ofText "keywords".toList :: seen)
        = { known file seen with keywords := file.keywords } := by
      simp +decide [known, holds_other]
    exact kept ▸ { same with keywords := rfl }
  · have inside : t.intact = true := intact_of_mem intact ht
    have entries := declarations_of_shows (h.entries.shown t ht) inside short.2
    refine ⟨_, Decoder.field_read entries rfl, ?_⟩
    have kept : known file (Source.ofText "entries".toList :: seen)
        = { known file seen with entries := file.entries } := by
      simp +decide [known, holds_other]
    exact kept ▸ { same with entries := rfl }

lemma WritesFile.record {ms : List (Source × Tree)} {file : IndexFile} (h : WritesFile ms file)
    (intact : Tree.intactMembers ms = true) (short : ∀ n ∈ file.ints, Short n) :
    ∃ read, Decoder.record fields empty ms true = .ok read ∧ read.Same file := by
  have final : known file (ms.map Prod.fst).reverse = file := by
    simp only [known, h.version.holds id, h.metadata.holds id, h.opened.holds id,
      h.keywords.holds id, h.entries.holds id]
  have start : empty.Same (known file []) := ⟨rfl, .obj .nil (.refl _), rfl, rfl, rfl⟩
  have keeps : Decoder.Keeps fields ms fun seen (read : IndexFile) =>
      read.Same (known file seen) := by
    constructor
    · intro f hf t ht seen before same
      exact h.read intact short hf ht same
    · intro k unknown seen before same
      exact known_other unknown file seen ▸ same
  obtain ⟨read, decoded, same⟩ := keeps.exists_record intact start
  exact ⟨read, decoded, final ▸ same⟩

/-- A text that writes a tree decodes as the tree. -/
lemma decode_of_writes {t : Tree} {s : Text} (h : t.Writes s) :
    decode (String.ofList s).toUTF8 = IndexFile.file t := by
  simp only [decode, decodeSource, h.ofBytes]
  cases IndexFile.file t <;> rfl

/-- Every text that spells a file decodes to the file, if its integers can be kept: each is written
with 4300 characters at most. -/
theorem decode_of_spelledBy {file : IndexFile} {s : Text} (spelled : file.SpelledBy s)
    (short : ∀ n ∈ file.ints, (Text.ofInt n).length ≤ 4300) :
    ∃ read, decode (String.ofList s).toUTF8 = .ok read ∧ read.Same file := by
  obtain ⟨ms, writes, written⟩ := spelled
  have intact : Tree.intactMembers ms = true := by
    simpa [Tree.intact] using written.intact
  obtain ⟨read, decoded, same⟩ := writes.record intact short
  refine ⟨read, ?_, same⟩
  rw [decode_of_writes written, IndexFile.file, Decoder.object, decoded]
  rfl

/-! ### An integer that is too long -/

/-- A file that locates its only declaration at a given line. -/
def atLine (n : Int) : IndexFile where
  version  := "1.0".toList
  metadata := []
  opened   := []
  keywords := []
  entries  := [⟨["a".toList], "val".toList, none, none, none, none, some ⟨"f".toList, n, 0⟩, []⟩]

/-- The members of the only object in the entries of this file. -/
def atLineMembers (n : Int) : List (Source × Tree) :=
  [(Source.ofText "path".toList, .arr [.str (Source.ofText "a".toList)] true),
    (Source.ofText "kind".toList, .str (Source.ofText "val".toList)),
    (Source.ofText "loc_sig".toList,
      .obj [(Source.ofText "line".toList, .number (.int n)),
        (Source.ofText "file".toList, .str (Source.ofText "f".toList))] true)]

/-- The tree of this file. -/
def atLineTree (n : Int) : Tree :=
  .obj [(Source.ofText "entries".toList, .arr [.obj (atLineMembers n) true] true)] true

/-- A text of this file. -/
def atLineText (n : Int) : Text :=
  "\x7b\x22entries\x22:[\x7b\x22path\x22:[\x22a\x22],\x22kind\x22:\x22val\x22,".toList
    ++ "\x22loc_sig\x22:\x7b\x22line\x22:".toList ++ Text.ofInt n
    ++ ",\x22file\x22:\x22f\x22\x7d\x7d]\x7d".toList

lemma writesFile_atLine (n : Int) :
    WritesFile [(Source.ofText "entries".toList, .arr [.obj (atLineMembers n) true] true)]
      (atLine n) := by
  have location : WritesLocation [(Source.ofText "line".toList, .number (.int n)),
      (Source.ofText "file".toList, .str (Source.ofText "f".toList))] ⟨"f".toList, n, 0⟩ :=
    ⟨.of_filter rfl rfl, .of_filter rfl rfl, .of_default rfl rfl⟩
  have declaration : WritesDeclaration (atLineMembers n)
      ⟨["a".toList], "val".toList, none, none, none, none, some ⟨"f".toList, n, 0⟩, []⟩ :=
    ⟨.of_filter rfl rfl, .of_filter rfl rfl, .of_default rfl rfl, .of_default rfl rfl,
      .of_default rfl rfl, .of_default rfl rfl, .of_filter rfl ⟨_, rfl, location⟩,
      .of_default rfl rfl⟩
  exact ⟨.of_default rfl rfl, .of_default rfl rfl, .of_default rfl rfl, .of_default rfl rfl,
    .of_filter rfl ⟨_, rfl, .cons ⟨_, rfl, declaration⟩ .nil⟩⟩

lemma writes_atLineText (n : Int) : (atLineTree n).Writes (atLineText n) := by
  have laid : Laid ((atLineTree n).tokens ++ []) (atLineText n ++ []) :=
    .plain_append _ rfl (.nil (List.forall_mem_nil _))
  rw [List.append_nil, List.append_nil] at laid
  exact ⟨rfl, laid⟩

lemma spelledBy_atLineText (n : Int) : (atLine n).SpelledBy (atLineText n) :=
  ⟨_, writesFile_atLine n, writes_atLineText n⟩

lemma file_atLine {n : Int} (long : isTooLong n = true) :
    IndexFile.file (atLineTree n) = .error (.tooLong [.field "entries".toList, .position 0,
      .field "loc_sig".toList, .field "line".toList]) := by
  simp +decide [atLineTree, IndexFile.file, Decoder.object, Decoder.record, Decoder.members,
    Decoder.member, fields, Decoder.field, Decoder.array, Decoder.items, declaration,
    declarationFields, atLineMembers, location, Decoder.optionalObject, locationFields, Decoder.int,
    Decoder.integer, long, Decoder.within, Except.map, Except.mapError, Decoder.closing,
    Decoder.text, Decoder.content_ofText, Bind.bind, Except.bind, Fault.within]

lemma isTooLong_tenPow : isTooLong (10 ^ 4300) = true := by
  rw [isTooLong, intPow_ten, intPow_ten]
  decide +kernel

/-- An integer of 4301 digits is spelled like any other, but its file does not decode. -/
theorem not_decode_atLine_long :
    (atLine (10 ^ 4300)).SpelledBy (atLineText (10 ^ 4300)) ∧
      ¬ ∃ read, decode (String.ofList (atLineText (10 ^ 4300))).toUTF8 = .ok read ∧
        read.Same (atLine (10 ^ 4300)) := by
  refine ⟨spelledBy_atLineText _, ?_⟩
  rintro ⟨read, decoded, -⟩
  rw [decode_of_writes (writes_atLineText _), file_atLine isTooLong_tenPow] at decoded
  cases decoded

/-! ### A text with many spellings -/

/-- A file with an emoji in a path. -/
def mixedFile : IndexFile where
  version  := "1.0".toList
  metadata := [("a".toList, .null), ("b".toList, .arr [.bool true, .number (.int 12)])]
  opened   := []
  keywords := []
  entries  :=
    [⟨["😀".toList], "val".toList, none, none, none, none, some ⟨"f".toList, 0, 0⟩, []⟩]

/-- The members of the metadata, in another order. -/
def mixedMetadata : List (Source × Tree) :=
  [(Source.ofText "b".toList, .arr [.bool true, .number (.int 12)] true),
    (Source.ofText "a".toList, .null)]

/-- The members of the location. -/
def mixedLocation : List (Source × Tree) :=
  [(Source.ofText "line".toList, .number (.int 0)),
    (Source.ofText "file".toList, .str (Source.ofText "f".toList))]

/-- The members of the declaration. -/
def mixedDeclaration : List (Source × Tree) :=
  [(Source.ofText "kind".toList, .str (Source.ofText "val".toList)),
    (Source.ofText "path".toList, .arr [.str (Source.ofText "😀".toList)] true),
    (Source.ofText "loc_sig".toList, .obj mixedLocation true)]

/-- The members of the file, with a member that is no field. -/
def mixedMembers : List (Source × Tree) :=
  [(Source.ofText "metadata".toList, .obj mixedMetadata true),
    (Source.ofText "x".toList,
      .arr [.number (.ofParts false ['1'] (some ['5']) (some 3)), .obj [] true] true),
    (Source.ofText "entries".toList, .arr [.obj mixedDeclaration true] true)]

/-- A text of this file, with white space and escapes. -/
def mixedText : Text :=
  ("\x7b\x22metadata\x22:\x7b\x22b\x22:[true,12],\x22a\x22:null\x7d,"
    ++ "\n \x22\\u0078\x22:[1.5e3,\x7b\x7d],\x22entries\x22:[\x7b\x22kind\x22:\x22val\x22,"
    ++ "\x22path\x22:[\x22\\ud83d\\uDE00\x22],"
    ++ "\x22loc_sig\x22:\x7b\x22line\x22:-0,\x22file\x22:\x22f\x22\x7d\x7d]\x7d").toList

lemma writesFile_mixedMembers : WritesFile mixedMembers mixedFile := by
  have metadata : Tree.Shows (.obj mixedMetadata true) (.obj mixedFile.metadata) :=
    .obj (by decide) (.swap _ _ _)
      (.cons (.arr (.cons (.bool true) (.cons (.int 12) .nil))) (.cons .null .nil))
  have location : WritesLocation mixedLocation ⟨"f".toList, 0, 0⟩ :=
    ⟨.of_filter rfl rfl, .of_filter rfl rfl, .of_default rfl rfl⟩
  have declaration : WritesDeclaration mixedDeclaration
      ⟨["😀".toList], "val".toList, none, none, none, none, some ⟨"f".toList, 0, 0⟩, []⟩ :=
    ⟨.of_filter rfl rfl, .of_filter rfl rfl, .of_default rfl rfl, .of_default rfl rfl,
      .of_default rfl rfl, .of_default rfl rfl, .of_filter rfl ⟨_, rfl, location⟩,
      .of_default rfl rfl⟩
  exact ⟨.of_default rfl rfl, .of_filter rfl metadata, .of_default rfl rfl, .of_default rfl rfl,
    .of_filter rfl ⟨_, rfl, .cons ⟨_, rfl, declaration⟩ .nil⟩⟩

lemma writes_mixedText : (Tree.obj mixedMembers true).Writes mixedText := by
  have none : Gap [] := List.forall_mem_nil _
  have line : Gap ['\n', ' '] := by simp [Gap, isSpace]
  have key : Quoted "x".toList "\\u0078".toList :=
    .cons (.unit (t := "0078".toList) (by decide)) .nil
  have path : Quoted "😀".toList "\\ud83d\\uDE00".toList :=
    .cons (.pair (t := "d83d".toList) (u := "DE00".toList) (by decide) (by decide) (by decide))
      .nil
  have decimal : NumberText (.ofParts false ['1'] (some ['5']) (some 3)) "1.5e3".toList :=
    .decimal (whole_toDigits 1) (.present (whole_toDigits 5).1)
      (.unsigned (.inl rfl) (whole_toDigits 3).1) (.inl rfl)
  refine ⟨rfl, ?_⟩
  have laid :=
    Laid.plain_append [.openObject, .str (Source.ofText "metadata".toList), .colon, .openObject,
        .str (Source.ofText "b".toList), .colon, .openArray, .bool true, .comma,
        .number (.int 12), .closeArray, .comma, .str (Source.ofText "a".toList), .colon, .null,
        .closeObject, .comma] rfl <|
      .cons line (.str key) <|
      .plain_append [.colon, .openArray] rfl <|
      .cons none (.number decimal) <|
      .plain_append [.comma, .openObject, .closeObject, .closeArray, .comma,
        .str (Source.ofText "entries".toList), .colon, .openArray, .openObject,
        .str (Source.ofText "kind".toList), .colon, .str (Source.ofText "val".toList), .comma,
        .str (Source.ofText "path".toList), .colon, .openArray] rfl <|
      .cons none (.str path) <|
      .plain_append [.closeArray, .comma, .str (Source.ofText "loc_sig".toList), .colon,
        .openObject, .str (Source.ofText "line".toList), .colon] rfl <|
      .cons none (.number .zero) <|
      .plain_append [.comma, .str (Source.ofText "file".toList), .colon,
        .str (Source.ofText "f".toList), .closeObject, .closeObject, .closeArray, .closeObject] rfl
      (.nil none)
  convert laid using 1
  · rfl
  · decide +kernel

theorem decode_of_spelledBy_mixedFile :
    mixedFile.SpelledBy mixedText ∧ (∀ n ∈ mixedFile.ints, (Text.ofInt n).length ≤ 4300) ∧
      ∃ read, decode (String.ofList mixedText).toUTF8 = .ok read ∧ read.Same mixedFile := by
  have spelled : mixedFile.SpelledBy mixedText := ⟨_, writesFile_mixedMembers, writes_mixedText⟩
  have short : ∀ n ∈ mixedFile.ints, (Text.ofInt n).length ≤ 4300 := by decide
  exact ⟨spelled, short, decode_of_spelledBy spelled short⟩

end SymbolIndex.IndexFile
