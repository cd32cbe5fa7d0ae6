import SymbolIndex.CommandLine.Outcome
import SymbolIndex.Proofs.CommandLine.Plan
import SymbolIndex.Proofs.Index.Meaning
import SymbolIndex.Proofs.Listing

/-!
# How runs end

A run that is asked for something has status 0, unless it complains. It complains with status 2 when
nothing in an index that opens answers its command, and with status 1 when it does not get as far as
that. Since the entries of an index are sound, no run ends in a failure, and nothing is printed
before a complaint.
-/

namespace SymbolIndex.CommandLine

variable {files : FilePath → FileNode} {settings : Settings} {file : IndexFile} {idx : Index}
  {command : Command}

/-! ### Endings -/

namespace Ending

/-- A complaint of status 1 that is no failure. -/
def Refuses (e : Ending) : Prop :=
  ∃ c, e = .complaint c ∧ c.status = 1 ∧ ∀ before f, c ≠ .failure before f

/-- Output if there is an answer, and else a complaint that nothing was found. -/
def Tells (unanswered : Prop) : Ending → Prop
  | .output _                => ¬ unanswered
  | .complaint (.notFound _) => unanswered
  | _                        => False

@[simp] lemma tells_output {unanswered : Prop} {t : Text} :
    (output t).Tells unanswered ↔ ¬ unanswered := Iff.rfl

@[simp] lemma tells_notFound {unanswered : Prop} {e : NotFound} :
    (complaint (.notFound e)).Tells unanswered ↔ unanswered := Iff.rfl

lemma Refuses.ne_failure {e : Ending} (h : e.Refuses) (before : Text) (f : Failure) :
    e ≠ .complaint (.failure before f) := by
  obtain ⟨c, rfl, -, unfailing⟩ := h
  exact fun failed => unfailing before f (complaint.inj failed)

lemma Tells.ne_failure {unanswered : Prop} {e : Ending} (h : e.Tells unanswered) (before : Text)
    (f : Failure) : e ≠ .complaint (.failure before f) := by
  rintro rfl
  exact h

end Ending

namespace Outcome

variable {o : Outcome}

lemma status_of_refuses (h : o.ending.Refuses) : o.status = 1 := by
  obtain ⟨c, ending, status, -⟩ := h
  rw [Outcome.status, ending]
  exact status

lemma status_of_tells {unanswered : Prop} (h : o.ending.Tells unanswered) :
    unanswered ∧ o.status = 2 ∨ ¬ unanswered ∧ o.status = 0 := by
  obtain ⟨_ | t | c, notes⟩ := o
  · cases h
  · exact .inr ⟨h, rfl⟩
  · cases c with
    | notFound e => exact .inl ⟨h, rfl⟩
    | _          => cases h

lemma status_mem (o : Outcome) : o.status ∈ [0, 1, 2] := by
  obtain ⟨_ | t | c, notes⟩ := o
  · exact List.mem_cons_self
  · exact List.mem_cons_self
  · cases c with
    | notFound e => simp [status, Complaint.status]
    | _          => simp [status, Complaint.status]

/-- Only a run that fails has printed something before it complains. -/
lemma printed_eq_nil (unfailing : ∀ before f, o.ending ≠ .complaint (.failure before f))
    (h : o.status ≠ 0) : o.printed = [] := by
  obtain ⟨_ | t | c, notes⟩ := o
  · exact absurd rfl h
  · exact absurd rfl h
  · cases c with
    | failure before f => exact absurd rfl (unfailing before f)
    | _                => rfl

end Outcome

/-! ### Opening the index -/

/-- The settings name a file that decodes, and an index is built of it. -/
def Opens (files : FilePath → FileNode) (settings : Settings) (file : IndexFile) (idx : Index) :
    Prop :=
  ∃ path bytes, settings.index = some path ∧ files path = .file bytes ∧
    IndexFile.decode bytes = .ok file ∧ Index.build file settings.opened = .ok idx

lemma Opens.unique {file' : IndexFile} {idx' : Index} (h : Opens files settings file idx)
    (h' : Opens files settings file' idx') : file' = file ∧ idx' = idx := by
  obtain ⟨path, bytes, named, there, decoded, built⟩ := h
  obtain ⟨path', bytes', named', there', decoded', built'⟩ := h'
  obtain rfl : path = path' := Option.some.inj (named.symm.trans named')
  obtain rfl : bytes = bytes' := FileNode.file.inj (there.symm.trans there')
  obtain rfl : file = file' := Except.ok.inj (decoded.symm.trans decoded')
  exact ⟨rfl, Except.ok.inj (built'.symm.trans built)⟩

lemma Opens.loadIndex_eq (h : Opens files settings file idx) :
    (loadIndex files settings).1 = .ok idx := by
  obtain ⟨path, bytes, named, there, decoded, built⟩ := h
  simp only [loadIndex, named, there, decoded, built]

lemma Opens.ofFile (h : Opens files settings file idx) : idx.OfFile file settings.opened := by
  obtain ⟨-, -, -, -, -, built⟩ := h
  exact Index.ofFile_of_build built

lemma opens_or_refuses (files : FilePath → FileNode) (settings : Settings) :
    (∃ file idx, Opens files settings file idx) ∨
      ∃ c, (loadIndex files settings).1 = .error c ∧ (Ending.complaint c).Refuses := by
  fun_cases loadIndex files settings with
  | case1 | case2 | case3 | case4 | case5 => exact .inr ⟨_, rfl, _, rfl, rfl, by simp⟩
  | case6 path named bytes there file decoded notes idx built =>
    exact .inl ⟨file, idx, path, bytes, named, there, decoded, built⟩

lemma ask_ending (files : FilePath → FileNode) (settings : Settings)
    (question : Catalogue → Outcome) :
    (ask files settings question).ending =
      match (loadIndex files settings).1 with
      | .error c => .complaint c
      | .ok idx  => (question idx.catalogue).ending := by
  unfold ask
  rcases loadIndex files settings with ⟨_ | idx, notes⟩ <;> rfl

/-! ### Questions to an index -/

lemma exists_listed {es : List Entry} (h : ∀ e ∈ es, e.Sound) (listing : Listing) :
    ∃ t, listed listing es = .output t := by
  obtain ⟨ls, now, lines⟩ := Listing.exists_lines h listing
  cases listing with
  | plain template p => exact ⟨ls.flatMap echoLine, by simp only [listed, lines]⟩
  | summary p => exact ⟨ls.flatMap echoLine, by simp only [listed, lines]⟩
  | sexp =>
    obtain ⟨t, printed⟩ := Sexp.exists_printEntries h
    exact ⟨t.withoutSequences, by simp only [listed, printed]⟩

variable (idx)

/-- Completions are listed, however many there are. -/
lemma exists_completions (kinds : Option KindSet) (listing : Listing) (query : Text) :
    ∃ t, (completions idx.catalogue kinds listing query).ending = .output t := by
  have sound : ∀ e ∈ (idx.catalogue.completions kinds query).1, e.Sound := fun e he =>
    Index.sound_of_mem_complete (List.mem_filter.mp he).1
  exact exists_listed sound listing

/-- The type of what a query means is printed. -/
lemma typeOf_tells (rule : ChoiceRule) (query : Text) :
    (typeOf idx.catalogue rule query).ending.Tells (idx.lookup query = []) := by
  have meant : (idx.catalogue.meant rule query).1
      = chosen (fun e => e.kind.tag) rule query (idx.lookup query) := Index.meant_fst _ _ _
  unfold typeOf
  generalize idx.catalogue.meant rule query = answer at meant ⊢
  obtain ⟨_ | e, notes⟩ := answer
  · by_contra found
    obtain ⟨e, he⟩ := exists_chosen found (fun e => e.kind.tag) rule query
    rw [he] at meant
    cases meant
  · have mem := ChoiceRule.mem_of_choose? (chosen_eq_ok_iff.mp meant.symm)
    obtain ⟨t, typed⟩ := Reading.Succeeds.getType (Index.sound_of_mem_lookup mem).type
    simp only [Reading.on_fst, typed, Ending.tells_output]
    exact List.ne_nil_of_mem mem

/-- Candidates are printed by their template. -/
lemma printed_tells (p : Presentation) (format query : Text) :
    (printed idx.catalogue p format query).ending.Tells (idx.lookup query = []) := by
  have lookup : (idx.catalogue.candidates query).1 = idx.lookup query := rfl
  simp only [printed, lookup]
  split
  · next found =>
    obtain ⟨t, shown⟩ := exists_listed (fun e he => Index.sound_of_mem_lookup he)
      (.plain (Template.parse format) p)
    rw [shown, Ending.tells_output]
    simpa [isFound] using found
  · next found =>
    rw [Ending.tells_notFound]
    simpa [isFound] using found

/-- The locations of candidates are printed. -/
lemma locationsOf_tells (root : Option FilePath) (preferred : Side) (query : Text) :
    (locationsOf idx.catalogue root preferred query).ending.Tells
      (¬ ∃ e ∈ idx.lookup query, ∃ side, e.site side ≠ none) := by
  have ready : ∀ e ∈ idx.lookup query, ∃ l, e.implCell.outcome = .ok l := fun e he =>
    (Index.sound_of_mem_lookup he).implementation
  obtain ⟨l, now, given, locates⟩ := exists_locates ready preferred
  have located : (idx.catalogue.located preferred query).1 = (.ok l, now) := given
  rw [← locates.found_iff]
  unfold locationsOf
  generalize idx.catalogue.located preferred query = answer at located ⊢
  obtain ⟨⟨result, es⟩, notes⟩ := answer
  cases located
  dsimp only
  split
  · next found => exact not_not_intro found
  · next found => exact found

variable {idx}

/-! ### Commands -/

/-- No declaration of a file answers a command: none matches the query or, if locations are asked
for, none of those that match it has one. A list of completions can be empty, so it always is an
answer. -/
def Unanswered (file : IndexFile) (scopes : List Scope) : Command → Prop
  | .complete _ _ _                => False
  | .type query _ | .print query _ => ¬ ∃ x, file.Matches scopes query x
  | .locate query _                =>
    ¬ ∃ x e, file.Matches scopes query x ∧ x.entry = .ok e ∧ ∃ side, e.site side ≠ none

/-- How a command ends: it is refused for what it asks, refused because there is no index, or
told what the index answers. -/
inductive Command.Ends (files : FilePath → FileNode) (settings : Settings) (command : Command)
    (e : Ending) : Prop
  | conflict (h : command.Conflicts) (refused : e.Refuses)
  | unopened (h : ¬ ∃ file idx, Opens files settings file idx) (refused : e.Refuses)
  | asked {file : IndexFile} {idx : Index} (compatible : ¬ command.Conflicts)
    (opens : Opens files settings file idx) (tells : e.Tells (Unanswered file idx.scopes command))

lemma ends_ask {question : Catalogue → Outcome} (compatible : ¬ command.Conflicts)
    (tells : ∀ file idx, Opens files settings file idx →
      (question idx.catalogue).ending.Tells (Unanswered file idx.scopes command)) :
    command.Ends files settings (ask files settings question).ending := by
  rw [ask_ending]
  rcases opens_or_refuses files settings with ⟨file, idx, opens⟩ | ⟨c, unloaded, refuses⟩
  · rw [opens.loadIndex_eq]
    exact .asked compatible opens (tells file idx opens)
  · rw [unloaded]
    apply Command.Ends.unopened _ refuses
    rintro ⟨file, idx, opens⟩
    rw [opens.loadIndex_eq] at unloaded
    cases unloaded

lemma ends_runCommand (files : FilePath → FileNode) (settings : Settings) (command : Command) :
    command.Ends files settings (runCommand files settings command).ending := by
  cases command with
  | complete query sexp format =>
    by_cases conflict : (Command.complete query sexp format).Conflicts
    · simp only [runCommand, Listing.ofOptions_eq_error settings.presentation conflict]
      exact .conflict conflict ⟨_, rfl, rfl, by simp⟩
    · obtain ⟨listing, formed⟩ := Listing.exists_ofOptions settings.presentation conflict
      simp only [runCommand, formed]
      apply ends_ask conflict
      intro file idx _
      obtain ⟨t, shown⟩ := exists_completions idx settings.kinds listing query
      rw [shown]
      exact id
  | type query rule =>
    rw [runCommand]
    apply ends_ask id
    intro file idx opens
    rw [Unanswered, ← opens.ofFile.lookup_eq_nil_iff]
    exact typeOf_tells idx rule query
  | locate query preferred =>
    rw [runCommand]
    apply ends_ask id
    intro file idx opens
    rw [Unanswered, ← opens.ofFile.exists_mem_lookup_iff]
    exact locationsOf_tells idx settings.presentation.root preferred query
  | print query format =>
    rw [runCommand]
    apply ends_ask id
    intro file idx opens
    rw [Unanswered, ← opens.ofFile.lookup_eq_nil_iff]
    exact printed_tells idx settings.presentation format query

namespace Command.Ends

variable {e : Ending}

lemma refuses (h : command.Ends files settings e) (conflict : command.Conflicts) : e.Refuses := by
  cases h with
  | conflict _ refused | unopened _ refused => exact refused
  | asked compatible _ _ => exact absurd conflict compatible

lemma tells (h : command.Ends files settings e) (compatible : ¬ command.Conflicts)
    (opens : Opens files settings file idx) : e.Tells (Unanswered file idx.scopes command) := by
  cases h with
  | conflict conflict _ => exact absurd conflict compatible
  | unopened unopened _ => exact absurd ⟨file, idx, opens⟩ unopened
  | asked _ opens' tells =>
    obtain ⟨rfl, rfl⟩ := opens.unique opens'
    exact tells

lemma ne_failure (h : command.Ends files settings e) (before : Text) (f : Failure) :
    e ≠ .complaint (.failure before f) := by
  cases h with
  | conflict _ refused | unopened _ refused => exact refused.ne_failure before f
  | asked _ _ tells => exact tells.ne_failure before f

end Command.Ends

lemma Unanswered.compatible {scopes : List Scope} (h : Unanswered file scopes command) :
    ¬ command.Conflicts := by
  cases command with
  | complete query sexp format => exact absurd h id
  | _ => exact id

/-! ### Command lines -/

variable {env : Environment} {words rest : List Text} {globals : List (Use GlobalOption)}
  {kinds : Option KindSet}

lemma ends_outcome (files : FilePath → FileNode) (h : plan env words = .run settings command) :
    command.Ends files settings (outcome files env words).ending := by
  have ends := ends_runCommand files settings command
  simp only [outcome, h, Plan.outcome]
  split
  · exact ends
  · exact ends

/-- A run that does not carry out a command is refused or prints what it was asked for. -/
lemma refuses_or_printed (files : FilePath → FileNode)
    (idle : ∀ settings command, plan env words ≠ .run settings command) :
    (outcome files env words).ending.Refuses ∨
      (outcome files env words).status = 0 ∧
        ∀ c, (outcome files env words).ending ≠ .complaint c := by
  unfold outcome
  cases planned : plan env words with
  | version | help => exact .inr ⟨rfl, by simp [Plan.outcome]⟩
  | misuse | badKinds => exact .inl ⟨_, rfl, rfl, by simp⟩
  | run settings command => exact absurd planned (idle settings command)

lemma outcome_ne_failure (files : FilePath → FileNode) (env : Environment) (words : List Text)
    (before : Text) (f : Failure) :
    (outcome files env words).ending ≠ .complaint (.failure before f) := by
  by_cases running : ∃ settings command, plan env words = .run settings command
  · obtain ⟨settings, command, planned⟩ := running
    exact (ends_outcome files planned).ne_failure before f
  · rcases refuses_or_printed files (by simpa using running) with refused | ⟨-, printed⟩
    · exact refused.ne_failure before f
    · exact printed _

/-- A command that is formed and asks for one form of listing has status 2 if nothing in an index
that opens answers it, and else status 0. -/
lemma status_of_forms (formed : Forms words globals command)
    (shown : KindSet.parse? (valueOf? .show globals) = .ok kinds)
    (compatible : ¬ command.Conflicts)
    (opens : Opens files (settingsOf env globals kinds) file idx) :
    Unanswered file idx.scopes command ∧ (outcome files env words).status = 2 ∨
      ¬ Unanswered file idx.scopes command ∧ (outcome files env words).status = 0 := by
  have planned : plan env words = .run (settingsOf env globals kinds) command :=
    plan_eq_run_iff.mpr ⟨globals, kinds, formed, shown, rfl⟩
  exact Outcome.status_of_tells ((ends_outcome files planned).tells compatible opens)

lemma exists_unanswered_of_status (h : (outcome files env words).status = 2) :
    ∃ settings command file idx, plan env words = .run settings command ∧
      Opens files settings file idx ∧ Unanswered file idx.scopes command := by
  by_cases running : ∃ settings command, plan env words = .run settings command
  · obtain ⟨settings, command, planned⟩ := running
    cases ends_outcome files planned with
    | conflict _ refused | unopened _ refused =>
      rw [Outcome.status_of_refuses refused] at h
      cases h
    | asked _ opens tells =>
      rcases Outcome.status_of_tells tells with ⟨unanswered, -⟩ | ⟨-, status⟩
      · exact ⟨settings, command, _, _, planned, opens, unanswered⟩
      · rw [status] at h
        cases h
  · rcases refuses_or_printed files (by simpa using running) with refused | ⟨status, -⟩
    · rw [Outcome.status_of_refuses refused] at h
      cases h
    · rw [status] at h
      cases h

/-- Completions in two forms are refused before the index is looked at. -/
lemma status_of_conflict (names : Names words globals .complete rest)
    (conflict : ∀ uses arguments,
      scan CommandName.complete.switches true rest = .ok (uses, arguments) →
      isUsed .help uses = false ∧ isUsed .sexp uses = true ∧ isUsed .format uses = true) :
    (outcome files env words).status = 1 := by
  rcases names.plan_of_conflict conflict env with ⟨f, planned⟩ | ⟨m, planned⟩ |
    ⟨settings, command, planned, conflicts⟩
  · simp only [outcome, planned]
    rfl
  · simp only [outcome, planned]
    rfl
  · exact Outcome.status_of_refuses ((ends_outcome files planned).refuses conflicts)

/-- How a command line exits: with status 2 if nothing answers its command, and only then; with
status 1 if it asks for completions in two forms, whatever there is in place of the index file; with
status 0 if it asks for completions in one form of an index that opens. -/
structure Exits (files : FilePath → FileNode) (env : Environment) (words : List Text)
    (o : Outcome) : Prop where
  status : o.status ∈ [0, 1, 2]
  unfailing : ∀ before f, o.ending ≠ .complaint (.failure before f)
  silent : o.status ≠ 0 → o.printed = []
  notFound : o.status = 2 ↔
    ∃ globals command kinds file idx, Forms words globals command ∧
      KindSet.parse? (valueOf? .show globals) = .ok kinds ∧
      Opens files (settingsOf env globals kinds) file idx ∧ Unanswered file idx.scopes command
  conflict : ∀ globals rest, Names words globals .complete rest →
    (∀ uses arguments, scan CommandName.complete.switches true rest = .ok (uses, arguments) →
      isUsed .help uses = false ∧ isUsed .sexp uses = true ∧ isUsed .format uses = true) →
    o.status = 1
  completes : ∀ globals query sexp format kinds file idx,
    Forms words globals (.complete query sexp format) →
    KindSet.parse? (valueOf? .show globals) = .ok kinds →
    Opens files (settingsOf env globals kinds) file idx →
    ¬ (sexp = true ∧ format.isSome = true) → o.status = 0

/-- Every command line exits with one of the three statuses, and without a failure; it prints
something with status 0 only. -/
theorem exits_outcome (files : FilePath → FileNode) (env : Environment) (words : List Text) :
    Exits files env words (outcome files env words) := by
  have unfailing := outcome_ne_failure files env words
  constructor
  case status => exact Outcome.status_mem _
  case unfailing => exact unfailing
  case silent => exact Outcome.printed_eq_nil unfailing
  case notFound =>
    constructor
    · intro notFound
      obtain ⟨settings, command, file, idx, planned, opens, unanswered⟩ :=
        exists_unanswered_of_status notFound
      obtain ⟨globals, kinds, formed, shown, rfl⟩ := plan_eq_run_iff.mp planned
      exact ⟨globals, command, kinds, file, idx, formed, shown, opens, unanswered⟩
    · rintro ⟨globals, command, kinds, file, idx, formed, shown, opens, unanswered⟩
      rcases status_of_forms formed shown unanswered.compatible opens with
        ⟨-, status⟩ | ⟨answered, -⟩
      · exact status
      · exact absurd unanswered answered
  case conflict =>
    intro globals rest names conflict
    exact status_of_conflict names conflict
  case completes =>
    intro globals query sexp format kinds file idx formed shown opens compatible
    rcases status_of_forms formed shown compatible opens with ⟨unanswered, -⟩ | ⟨-, status⟩
    · exact absurd unanswered id
    · exact status

/-- The bytes of a file that declares one symbol. -/
def smallBytes : ByteArray :=
  "\x7b\x22entries\x22:[\x7b\x22path\x22:[\x22x\x22],\x22kind\x22:\x22val\x22\x7d]\x7d".toUTF8

/-- The file that these bytes spell. -/
def smallFile : IndexFile where
  version  := "1.0".toList
  metadata := []
  opened   := []
  keywords := []
  entries  := [⟨["x".toList], "val".toList, none, none, none, none, none, []⟩]

/-- A file without metadata is decoded if its other fields are. -/
lemma decode_eq_of_fields {bytes : ByteArray} {file : IndexFile} (plain : file.metadata = [])
    (fields : (IndexFile.decode bytes).toOption.map
        (fun f => ((f.version, f.metadata.length), f.opened, f.keywords, f.entries))
      = some ((file.version, 0), file.opened, file.keywords, file.entries)) :
    IndexFile.decode bytes = .ok file := by
  generalize IndexFile.decode bytes = read at fields ⊢
  obtain fault | ⟨version, metadata, opened, keywords, entries⟩ := read
  · cases fields
  · obtain ⟨version', metadata', opened', keywords', entries'⟩ := file
    simp only [Except.toOption, Option.map_some, Option.some.injEq, Prod.mk.injEq,
      List.length_eq_zero_iff] at fields plain
    obtain ⟨⟨rfl, rfl⟩, rfl, rfl, rfl⟩ := fields
    rw [plain]

lemma decode_smallBytes : IndexFile.decode smallBytes = .ok smallFile :=
  decode_eq_of_fields rfl (by decide +kernel)

/-- An environment that names an index file. -/
def smallEnvironment : Environment where
  index := some "i".toList
  root  := none

theorem exits_outcome_smallFile :
    (outcome (fun _ => .file smallBytes) smallEnvironment
      ["type".toList, "y".toList]).status = 2 ∧
    (outcome (fun _ => .missing) smallEnvironment
      ["complete".toList, "x".toList, "--sexp".toList, "-f%n".toList]).status = 1 ∧
    (outcome (fun _ => .file smallBytes) smallEnvironment
      ["complete".toList, "x".toList]).status = 0 := by
  obtain ⟨idx, opens, scopes⟩ : ∃ idx, Opens (fun _ => .file smallBytes)
      (settingsOf smallEnvironment [] none) smallFile idx ∧ idx.scopes = [[]] :=
    ⟨_, ⟨_, _, rfl, rfl, decode_smallBytes, rfl⟩, rfl⟩
  refine ⟨?_, ?_, ?_⟩
  · have formed : Forms ["type".toList, "y".toList] [] (.type "y".toList .first) :=
      ⟨.type, _, _, _, ⟨⟨"type".toList, rfl, rfl⟩, rfl, rfl⟩, rfl, rfl, rfl⟩
    have unanswered : Unanswered smallFile idx.scopes (.type "y".toList .first) := by
      rw [Unanswered, IndexFile.not_exists_matches_iff, scopes]
      decide
    have exits := exits_outcome (fun _ => .file smallBytes) smallEnvironment
      ["type".toList, "y".toList]
    exact exits.notFound.mpr ⟨[], _, none, smallFile, idx, formed, rfl, opens, unanswered⟩
  · have names : Names ["complete".toList, "x".toList, "--sexp".toList, "-f%n".toList] [] .complete
        ["x".toList, "--sexp".toList, "-f%n".toList] :=
      ⟨⟨"complete".toList, rfl, rfl⟩, rfl, rfl⟩
    have exits := exits_outcome (fun _ => .missing) smallEnvironment
      ["complete".toList, "x".toList, "--sexp".toList, "-f%n".toList]
    apply exits.conflict [] _ names
    intro uses arguments scanned
    cases scanned
    exact ⟨rfl, rfl, rfl⟩
  · have formed : Forms ["complete".toList, "x".toList] [] (.complete "x".toList false none) :=
      ⟨.complete, _, _, _, ⟨⟨"complete".toList, rfl, rfl⟩, rfl, rfl⟩, rfl, rfl, rfl⟩
    have exits := exits_outcome (fun _ => .file smallBytes) smallEnvironment
      ["complete".toList, "x".toList]
    exact exits.completes [] _ _ _ none smallFile idx formed rfl opens (by decide)

end SymbolIndex.CommandLine
