import SymbolIndex.Proofs.CommandLine.Status
import SymbolIndex.Proofs.Text.Lines

/-!
# Commands that agree

Behind the same global options, a query that has a type can be printed, and one that has a location
can be printed too. Printing types gives one line for each candidate, because a type is on one line;
the type of a query is the line at the place of the candidate that is chosen.
-/

namespace SymbolIndex

/-! ### Positions -/

lemma ChoiceRule.exists_position {rule : ChoiceRule} {es : List Entry} {e : Entry}
    (h : rule.choose? (fun e : Entry => e.kind.tag) es = some e) :
    ∃ i, rule.choose? (fun p : Entry × Nat => p.1.kind.tag) es.zipIdx = some (e, i) ∧
      es[i]? = some e := by
  rw [← List.zipIdx_map_fst 0 es, choose?_map] at h
  obtain ⟨⟨e', i⟩, chosen, rfl⟩ := Option.map_eq_some_iff.mp h
  exact ⟨i, chosen, List.mem_zipIdx_iff_getElem?.mp (mem_of_choose? chosen)⟩

/-! ### Types on one line -/

/-- The type that the cell of an entry gives. -/
def Entry.givenType (e : Entry) : Text :=
  match e.typeCell.outcome with
  | .ok (some t) => t
  | _            => []

/-- The line that the type of an entry is printed on. -/
def Entry.typeLine (e : Entry) : Text := e.givenType.withoutSequences

lemma Entry.Sound.outcome_getType {e : Entry} (h : e.Sound) :
    Reading.getType.outcome e = .ok e.givenType := by
  obtain ⟨t, typed⟩ := h.type
  rw [Reading.outcome_getType typed, Entry.givenType, typed]

/-- A template that asks for the type gives the type. -/
lemma Entry.Sound.outcome_templateLine {e : Entry} (h : e.Sound) (p : Presentation) :
    (Listing.templateLine p [.directive .type]).outcome e = .ok (.plain e.givenType) := by
  simp [Listing.templateLine, Template.render, Template.pieces, Template.Token.pieces,
    Directive.pieces, h.outcome_getType, Template.plainText, Piece.plain]
  rfl

/-- The types that an index gives are on one line. -/
lemma Index.newline_not_mem_typeLine {idx : Index} {query : Text} {e : Entry}
    (h : e ∈ idx.lookup query) : '\n' ∉ e.typeLine := by
  rw [lookup_eq_map_found] at h
  obtain ⟨k, -, rfl⟩ := List.mem_map.mp h
  have line : (idx.entry k).givenType.OnOneLine := Text.onOneLine_singleSpaced _
  exact fun mem => line.newline_not_mem ((Text.withoutSequences_sublist _).subset mem)

namespace CommandLine

lemma echo_givenType (e : Entry) : echo e.givenType = e.typeLine ++ ['\n'] :=
  Text.withoutSequences_newline _

/-! ### What is printed -/

variable {files : FilePath → FileNode} {env : Environment} {words : List Text}
  {globals : List (Use GlobalOption)} {kinds : Option KindSet} {file : IndexFile} {idx : Index}
  {query : Text} {command : Command}

lemma Opens.ask_ending {settings : Settings} (h : Opens files settings file idx)
    (question : Catalogue → Outcome) :
    (ask files settings question).ending = (question idx.catalogue).ending := by
  rw [CommandLine.ask_ending, h.loadIndex_eq]

/-- The types of candidates are printed one by one. -/
lemma printed_types (p : Presentation) (found : idx.lookup query ≠ []) :
    (printed idx.catalogue p "%t".toList query).ending
      = .output (((idx.lookup query).map Entry.typeLine).flatMap (· ++ ['\n'])) := by
  have lookup : (idx.catalogue.candidates query).1 = idx.lookup query := rfl
  have some : isFound (idx.lookup query) = true := by simpa [isFound] using found
  have lines := Reading.onEach_eq_map (Listing.templateLine p [.directive .type])
    (fun e => Line.plain e.givenType) (idx.lookup query)
    fun e he => (Index.sound_of_mem_lookup he).outcome_templateLine p
  have template : Template.parse "%t".toList = [.directive .type] := by decide
  simp only [printed, lookup, if_pos some, listed, Listing.lines, template, lines,
    List.flatMap_map, echoLine, echo_givenType]

/-- The type that is printed is that of the candidate that is chosen. -/
lemma typeOf_chosen {rule : ChoiceRule} {e : Entry}
    (h : rule.choose? (fun e : Entry => e.kind.tag) (idx.lookup query) = some e) :
    (typeOf idx.catalogue rule query).ending = .output (e.typeLine ++ ['\n']) := by
  have meant : (idx.catalogue.meant rule query).1 = .ok e :=
    (Index.meant_fst _ _ _).trans (chosen_eq_ok_iff.mpr h)
  have sound : e.Sound := Index.sound_of_mem_lookup (ChoiceRule.mem_of_choose? h)
  unfold typeOf
  generalize idx.catalogue.meant rule query = answer at meant ⊢
  obtain ⟨result, notes⟩ := answer
  obtain rfl : result = .ok e := meant
  simp only [Reading.on_fst, sound.outcome_getType, echo_givenType]

/-- A command that is formed ends as it does when it is carried out. -/
lemma ending_of_forms (formed : Forms words globals command)
    (shown : KindSet.parse? (valueOf? .show globals) = .ok kinds) (files : FilePath → FileNode)
    (env : Environment) :
    (outcome files env words).ending
      = (runCommand files (settingsOf env globals kinds) command).ending := by
  have planned : plan env words = .run (settingsOf env globals kinds) command :=
    plan_eq_run_iff.mpr ⟨globals, kinds, formed, shown, rfl⟩
  simp only [outcome, planned, Plan.outcome]
  split <;> rfl

/-- A command that is formed exits with status 0 if the index answers it, and only then. -/
lemma status_eq_zero_iff (formed : Forms words globals command)
    (shown : KindSet.parse? (valueOf? .show globals) = .ok kinds)
    (compatible : ¬ command.Conflicts)
    (opens : Opens files (settingsOf env globals kinds) file idx) :
    (outcome files env words).status = 0 ↔ ¬ Unanswered file idx.scopes command := by
  rcases status_of_forms formed shown compatible opens with
    ⟨unanswered, status⟩ | ⟨answered, status⟩
  · simp [unanswered, status]
  · simp [answered, status]

/-- What is printed is found. -/
lemma lookup_ne_nil {format : Text} (prints : Forms words globals (.print query format))
    (shown : KindSet.parse? (valueOf? .show globals) = .ok kinds)
    (opens : Opens files (settingsOf env globals kinds) file idx)
    (status : (outcome files env words).status = 0) : idx.lookup query ≠ [] := by
  have answered := (status_eq_zero_iff prints shown id opens).mp status
  rwa [Ne, opens.ofFile.lookup_eq_nil_iff]

/-- Printing types prints one line for each candidate. -/
lemma printed_of_print (prints : Forms words globals (.print query "%t".toList))
    (shown : KindSet.parse? (valueOf? .show globals) = .ok kinds)
    (opens : Opens files (settingsOf env globals kinds) file idx)
    (found : idx.lookup query ≠ []) :
    (outcome files env words).printed
      = ((idx.lookup query).map Entry.typeLine).flatMap (· ++ ['\n']) := by
  rw [Outcome.printed, ending_of_forms prints shown, runCommand, opens.ask_ending,
    printed_types _ found]

lemma endedLines_of_print (prints : Forms words globals (.print query "%t".toList))
    (shown : KindSet.parse? (valueOf? .show globals) = .ok kinds)
    (opens : Opens files (settingsOf env globals kinds) file idx)
    (found : idx.lookup query ≠ []) :
    (outcome files env words).printed.endedLines = (idx.lookup query).map Entry.typeLine := by
  rw [printed_of_print prints shown opens found]
  exact Text.endedLines_flatMap
    (List.forall_mem_map.mpr fun e => Index.newline_not_mem_typeLine)

lemma printed_of_type {rule : ChoiceRule} (types : Forms words globals (.type query rule))
    (shown : KindSet.parse? (valueOf? .show globals) = .ok kinds)
    (opens : Opens files (settingsOf env globals kinds) file idx) {e : Entry}
    (chosen : rule.choose? (fun e : Entry => e.kind.tag) (idx.lookup query) = some e) :
    (outcome files env words).printed = e.typeLine ++ ['\n'] := by
  rw [Outcome.printed, ending_of_forms types shown, runCommand, opens.ask_ending,
    typeOf_chosen chosen]

/-- The type of a query is the line at the place of the candidate that is chosen. -/
lemma exists_line {typing printing : List Text} {rule : ChoiceRule}
    (types : Forms typing globals (.type query rule))
    (prints : Forms printing globals (.print query "%t".toList))
    (shown : KindSet.parse? (valueOf? .show globals) = .ok kinds)
    (opens : Opens files (settingsOf env globals kinds) file idx)
    (found : idx.lookup query ≠ []) :
    ∃ e i line,
      rule.choose? (fun p : Entry × Nat => p.1.kind.tag) (idx.lookup query).zipIdx = some (e, i) ∧
      (outcome files env printing).printed.endedLines[i]? = some line ∧
      (outcome files env typing).printed = line ++ ['\n'] := by
  obtain ⟨e, chosen⟩ := exists_chosen found (fun e => e.kind.tag) rule query
  rw [chosen_eq_ok_iff] at chosen
  obtain ⟨i, place, there⟩ := ChoiceRule.exists_position chosen
  refine ⟨e, i, e.typeLine, place, ?_, printed_of_type types shown opens chosen⟩
  rw [endedLines_of_print prints shown opens found, List.getElem?_map, there, Option.map_some]

/-- What commands say of a query when they come behind the same global options. -/
structure Agree (files : FilePath → FileNode) (env : Environment) (globals : List (Use GlobalOption))
    (query : Text) (candidates : List Entry) : Prop where
  /-- A type is found, by any rule, exactly if there is something to print, by any template. -/
  typed_iff : ∀ {typing printing rule format}, Forms typing globals (.type query rule) →
    Forms printing globals (.print query format) →
    ((outcome files env typing).status = 0 ↔ (outcome files env printing).status = 0)
  /-- If a location is found, there is something to print. -/
  located : ∀ {locating printing side format}, Forms locating globals (.locate query side) →
    Forms printing globals (.print query format) →
    (outcome files env locating).status = 0 → (outcome files env printing).status = 0
  /-- Types are printed on lines, one for each candidate. -/
  lines : ∀ {printing}, Forms printing globals (.print query "%t".toList) →
    (outcome files env printing).status = 0 →
    (outcome files env printing).printed
      = (outcome files env printing).printed.endedLines.flatMap (· ++ ['\n']) ∧
    (outcome files env printing).printed.endedLines.length = candidates.length
  /-- The type of the first candidate is the first line. -/
  first : ∀ {typing printing}, Forms typing globals (.type query .first) →
    Forms printing globals (.print query "%t".toList) →
    (outcome files env printing).status = 0 →
    ∃ line, (outcome files env printing).printed.endedLines.head? = some line ∧
      (outcome files env typing).printed = line ++ ['\n']
  /-- The type of the candidate of the lowest rank is the line at its place. -/
  kind : ∀ {typing printing}, Forms typing globals (.type query .kind) →
    Forms printing globals (.print query "%t".toList) →
    (outcome files env printing).status = 0 →
    ∃ e i line,
      ChoiceRule.kind.choose? (fun p : Entry × Nat => p.1.kind.tag) candidates.zipIdx
        = some (e, i) ∧
      (outcome files env printing).printed.endedLines[i]? = some line ∧
      (outcome files env typing).printed = line ++ ['\n']

/-- If the index opens and the kinds to show are kinds, commands agree on every query. -/
theorem agree_of_opens (shown : KindSet.parse? (valueOf? .show globals) = .ok kinds)
    (opens : Opens files (settingsOf env globals kinds) file idx) (query : Text) :
    Agree files env globals query (idx.catalogue.candidates query).1 := by
  have lookup : (idx.catalogue.candidates query).1 = idx.lookup query := rfl
  rw [lookup]
  constructor
  case typed_iff =>
    intro typing printing rule format types prints
    rw [status_eq_zero_iff types shown id opens, status_eq_zero_iff prints shown id opens]
    rfl
  case located =>
    intro locating printing side format locates prints status
    rw [status_eq_zero_iff prints shown id opens]
    rintro unmatched
    apply (status_eq_zero_iff locates shown id opens).mp status
    rintro ⟨x, e, matched, -⟩
    exact unmatched ⟨x, matched⟩
  case lines =>
    intro printing prints status
    have found := lookup_ne_nil prints shown opens status
    rw [endedLines_of_print prints shown opens found, List.length_map]
    exact ⟨printed_of_print prints shown opens found, rfl⟩
  case first =>
    intro typing printing types prints status
    have found := lookup_ne_nil prints shown opens status
    obtain ⟨e, i, line, place, there, typed⟩ := exists_line types prints shown opens found
    have head : (idx.lookup query).zipIdx.head? = some (e, i) := place
    obtain ⟨e', -, numbered⟩ := Option.map_eq_some_iff.mp (List.head?_zipIdx ▸ head)
    cases numbered
    exact ⟨line, List.head?_eq_getElem? ▸ there, typed⟩
  case kind =>
    intro typing printing types prints status
    have found := lookup_ne_nil prints shown opens status
    exact exists_line types prints shown opens found

/-- The bytes of a file that declares two symbols of one name. -/
def twinBytes : ByteArray :=
  ("\x7b\x22entries\x22:[\x7b\x22path\x22:[\x22x\x22],\x22kind\x22:\x22type\x22,"
    ++ "\x22type\x22:\x22int\\n list\x22\x7d,"
    ++ "\x7b\x22path\x22:[\x22x\x22],\x22kind\x22:\x22val\x22,"
    ++ "\x22type\x22:\x22int\x22\x7d]\x7d").toUTF8

/-- The file that these bytes spell. -/
def twinFile : IndexFile where
  version  := "1.0".toList
  metadata := []
  opened   := []
  keywords := []
  entries  :=
    [⟨["x".toList], "type".toList, none, "int\n list".toList, none, none, none, []⟩,
      ⟨["x".toList], "val".toList, none, "int".toList, none, none, none, []⟩]

lemma decode_twinBytes : IndexFile.decode twinBytes = .ok twinFile :=
  decode_eq_of_fields rfl (by decide +kernel)

theorem agree_of_opens_twinFile :
    (outcome (fun _ => .file twinBytes) smallEnvironment
      ["print".toList, "x".toList, "%t".toList]).status = 0 ∧
    (outcome (fun _ => .file twinBytes) smallEnvironment
      ["print".toList, "x".toList, "%t".toList]).printed.endedLines.length = 2 ∧
    ∃ line, (outcome (fun _ => .file twinBytes) smallEnvironment
        ["print".toList, "x".toList, "%t".toList]).printed.endedLines[1]? = some line ∧
      (outcome (fun _ => .file twinBytes) smallEnvironment
        ["type".toList, "x".toList, "--tie-break=kind".toList]).printed = line ++ ['\n'] := by
  obtain ⟨idx, opens, scopes, two, second⟩ : ∃ idx, Opens (fun _ => .file twinBytes)
      (settingsOf smallEnvironment [] none) twinFile idx ∧ idx.scopes = [[]] ∧
      (idx.catalogue.candidates "x".toList).1.length = 2 ∧
      (ChoiceRule.kind.choose? (fun p : Entry × Nat => p.1.kind.tag)
        (idx.catalogue.candidates "x".toList).1.zipIdx).map Prod.snd = some 1 :=
    ⟨_, ⟨_, _, rfl, rfl, decode_twinBytes, rfl⟩, rfl, by decide +kernel, by decide +kernel⟩
  have agree : Agree (fun _ => .file twinBytes) smallEnvironment [] "x".toList
      (idx.catalogue.candidates "x".toList).1 := agree_of_opens rfl opens "x".toList
  have prints : Forms ["print".toList, "x".toList, "%t".toList] []
      (.print "x".toList "%t".toList) :=
    ⟨.print, _, _, _, ⟨⟨"print".toList, rfl, rfl⟩, rfl, rfl⟩, rfl, rfl, rfl⟩
  have types : Forms ["type".toList, "x".toList, "--tie-break=kind".toList] []
      (.type "x".toList .kind) :=
    ⟨.type, _, _, _, ⟨⟨"type".toList, rfl, rfl⟩, rfl, rfl⟩, rfl, rfl, rfl⟩
  have status : (outcome (fun _ => .file twinBytes) smallEnvironment
      ["print".toList, "x".toList, "%t".toList]).status = 0 := by
    rw [status_eq_zero_iff prints rfl id opens, Unanswered, IndexFile.not_exists_matches_iff,
      scopes]
    decide
  obtain ⟨e, i, line, chosen, there, typed⟩ := agree.kind types prints status
  rw [chosen, Option.map_some] at second
  obtain rfl : i = 1 := Option.some.inj second
  exact ⟨status, (agree.lines prints status).2.trans two, line, there, typed⟩

end CommandLine

end SymbolIndex
