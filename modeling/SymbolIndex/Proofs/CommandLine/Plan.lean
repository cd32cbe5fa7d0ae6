import SymbolIndex.CommandLine.Request
import SymbolIndex.Proofs.Traversal

/-!
# Command lines that run

A command line runs a command when its words name one, the words behind the name form it, nothing
asks for the version or for help, and the kinds to show are kinds. Whatever the words, an option
is used with a value exactly if it takes one.
-/

namespace SymbolIndex.CommandLine

/-! ### Options and their values -/

section Uses

variable {ο : Type}

/-- One of the options is used, with a value exactly if it takes one. -/
def Use.Declared (switches : List (Switch ο)) (u : Use ο) : Prop :=
  ∃ s ∈ switches, u.option = s.option ∧ u.value.isSome = s.takesValue

/-- The options that a word uses are declared, and so is the one that lacks its value once it has
one. -/
structure WordUses.Declared (switches : List (Switch ο)) (w : WordUses ο) : Prop where
  uses : ∀ u ∈ w.uses, u.Declared switches
  lacking : ∀ o, w.lacking = some o → ∀ v, Use.Declared switches ⟨o, some v⟩

variable {switches : List (Switch ο)} {w : WordUses ο}

lemma WordUses.Declared.of_flag {s : Switch ο} (known : s ∈ switches)
    (flag : s.takesValue = false) : WordUses.Declared switches ⟨[⟨s.option, none⟩], none⟩ where
  uses := List.forall_mem_singleton.mpr ⟨s, known, rfl, flag.symm⟩
  lacking _ h := nomatch h

lemma WordUses.Declared.of_value {s : Switch ο} (known : s ∈ switches)
    (valued : s.takesValue = true) (v : Text) :
    WordUses.Declared switches ⟨[⟨s.option, some v⟩], none⟩ where
  uses := List.forall_mem_singleton.mpr ⟨s, known, rfl, valued.symm⟩
  lacking _ h := nomatch h

lemma WordUses.Declared.of_lacking {s : Switch ο} (known : s ∈ switches)
    (valued : s.takesValue = true) : WordUses.Declared switches ⟨[], some s.option⟩ where
  uses := List.forall_mem_nil _
  lacking o h v := by
    cases h
    exact ⟨s, known, rfl, valued.symm⟩

lemma declared_of_readLetters {t : Text} (h : readLetters switches t = .ok w) :
    w.Declared switches := by
  induction t generalizing w with
  | nil =>
    cases h
    exact ⟨List.forall_mem_nil _, fun o h => nomatch h⟩
  | cons c r ih =>
    rw [readLetters] at h
    split at h
    · cases h
    · next s found =>
      have known := List.mem_of_find?_eq_some found
      split at h
      · next valued =>
        cases h
        split
        · exact .of_lacking known valued
        · exact .of_value known valued r
      · next flag =>
        obtain ⟨rest, read, rfl⟩ := map_eq_ok_iff.mp h
        obtain ⟨uses, lacking⟩ := ih read
        have used := (WordUses.Declared.of_flag known (Bool.eq_false_iff.mpr flag)).uses
        exact ⟨List.forall_mem_append.mpr ⟨used, uses⟩, lacking⟩

lemma declared_of_readOption {t : Text} (h : readOption switches t = .ok w) :
    w.Declared switches := by
  simp only [readOption] at h
  split at h
  · next s found =>
    have known := List.mem_of_find?_eq_some found
    split at h
    · next v valued _ =>
      cases h
      exact .of_value known valued v
    · next valued _ =>
      cases h
      exact .of_lacking known valued
    · cases h
    · next flag _ =>
      cases h
      exact .of_flag known flag
  · split at h
    · cases h
    · exact declared_of_readLetters h

/-- Every use that words report is one of the options, with a value exactly if it takes one. -/
lemma declared_of_scan {interspersed : Bool} {words rest : List Text} {uses : List (Use ο)}
    (h : scan switches interspersed words = .ok (uses, rest)) :
    ∀ u ∈ uses, u.Declared switches := by
  fun_induction scan switches interspersed words generalizing uses rest with
  | case1 | case2 | case8 =>
    cases h
    exact List.forall_mem_nil _
  | case3 | case5 => cases h
  | case4 w ws _ _ first read ih =>
    obtain ⟨⟨more, left⟩, others, made⟩ := map_eq_ok_iff.mp h
    cases made
    exact List.forall_mem_append.mpr ⟨(declared_of_readOption read).uses, ih others⟩
  | case6 w _ _ first o read v ws ih =>
    obtain ⟨⟨more, left⟩, others, made⟩ := map_eq_ok_iff.mp h
    cases made
    have word := declared_of_readOption read
    exact List.forall_mem_append.mpr
      ⟨word.uses, List.forall_mem_cons.mpr ⟨word.lacking o rfl v, ih others⟩⟩
  | case7 w ws _ _ _ ih =>
    obtain ⟨⟨more, left⟩, others, made⟩ := map_eq_ok_iff.mp h
    cases made
    exact ih others

/-- An option that takes a value has one wherever it is used. -/
lemma isSome_valueOf?_of_scan [DecidableEq ο] {interspersed : Bool} {words rest : List Text}
    {uses : List (Use ο)} (h : scan switches interspersed words = .ok (uses, rest)) {o : ο}
    (takes : ∀ s ∈ switches, s.option = o → s.takesValue = true) :
    (valueOf? o uses).isSome = isUsed o uses := by
  have valued : ∀ u ∈ uses, u.option = o → u.value.isSome := by
    rintro u hu rfl
    obtain ⟨s, known, same, value⟩ := declared_of_scan h u hu
    exact value.trans (takes s known same.symm)
  rw [Bool.eq_iff_iff, valueOf?, List.getLast?_isSome, isUsed, List.any_eq_true]
  constructor
  · intro given
    obtain ⟨v, hv⟩ := List.exists_mem_of_ne_nil _ given
    obtain ⟨u, hu, -⟩ := List.mem_filterMap.mp hv
    exact ⟨u, List.mem_filter.mp hu⟩
  · rintro ⟨u, mem, same⟩
    obtain ⟨v, given⟩ := Option.isSome_iff_exists.mp (valued u mem (of_decide_eq_true same))
    exact List.ne_nil_of_mem
      (List.mem_filterMap.mpr ⟨u, List.mem_filter.mpr ⟨mem, same⟩, given⟩)

end Uses

/-! ### What the words say -/

variable {env : Environment} {words rest : List Text} {globals : List (Use GlobalOption)}
  {name : CommandName} {command : Command} {settings : Settings} {kinds : Option KindSet}

/-- The words name a command behind global options that ask neither for the version nor for help. -/
structure Names (words : List Text) (globals : List (Use GlobalOption)) (name : CommandName)
    (rest : List Text) : Prop where
  word : ∃ w, scan globalSwitches false words = .ok (globals, w :: rest) ∧
    CommandName.ofWord? w = some name
  unversioned : isUsed .version globals = false
  unhelped : isUsed .help globals = false

/-- The words form a command, and nothing in them asks for the version or for help. -/
def Forms (words : List Text) (globals : List (Use GlobalOption)) (command : Command) : Prop :=
  ∃ name rest uses arguments, Names words globals name rest ∧
    scan name.switches true rest = .ok (uses, arguments) ∧ isUsed .help uses = false ∧
    commandOf uses arguments name = .ok command

lemma early?_eq_none_iff {uses : List (Use GlobalOption)} :
    early? uses = none ↔ isUsed .version uses = false ∧ isUsed .help uses = false := by
  induction uses with
  | nil => simp [early?, isUsed]
  | cons u us ih =>
    cases h : u.option with
    | version | help => simp [early?, isUsed, h]
    | _              => simpa [early?, isUsed, h] using ih

lemma eq_version_or_help_of_early? {uses : List (Use GlobalOption)} {p : Plan}
    (h : early? uses = some p) : p = .version ∨ p = .help := by
  fun_induction early? uses with
  | case1 => cases h
  | case2 => exact .inl (Option.some.inj h).symm
  | case3 => exact .inr (Option.some.inj h).symm
  | case4 _ _ _ _ ih => exact ih h

lemma Names.early?_eq_none (h : Names words globals name rest) : early? globals = none :=
  early?_eq_none_iff.mpr ⟨h.unversioned, h.unhelped⟩

/-- Once a command is named, its plan depends on the kinds to show and on the words behind it. -/
lemma Names.plan_eq (h : Names words globals name rest) (env : Environment) :
    plan env words =
      match KindSet.parse? (valueOf? .show globals) with
      | .error f  => .badKinds f
      | .ok kinds => planCommand (settingsOf env globals kinds) name rest := by
  obtain ⟨w, scanned, named⟩ := h.word
  cases shown : KindSet.parse? (valueOf? .show globals) with
  | error f  => simp only [plan, scanned, h.early?_eq_none, named, shown]
  | ok kinds => simp only [plan, scanned, h.early?_eq_none, named, shown]

lemma planUnknown_ne_run (w : Text) : planUnknown w rest ≠ .run settings command := by
  unfold planUnknown
  split
  · simp
  · next uses _ _ =>
    cases early : early? uses with
    | none => simp
    | some ending => rcases eq_version_or_help_of_early? early with rfl | rfl <;> simp

lemma exists_names_of_plan_eq_run (h : plan env words = .run settings command) :
    ∃ globals name rest, Names words globals name rest := by
  unfold plan at h
  split at h
  · cases h
  · next globals rest scanned =>
    split at h
    · next ending early =>
      rcases eq_version_or_help_of_early? early with rfl | rfl <;> cases h
    · next early =>
      obtain ⟨unversioned, unhelped⟩ := early?_eq_none_iff.mp early
      split at h
      · split at h <;> cases h
      · next w ws =>
        cases named : CommandName.ofWord? w with
        | none =>
          rw [named] at h
          exact absurd h (planUnknown_ne_run w)
        | some name => exact ⟨globals, name, ws, ⟨w, scanned, named⟩, unversioned, unhelped⟩

lemma planCommand_eq_run_iff {settings' : Settings} :
    planCommand settings name rest = .run settings' command ↔ settings' = settings ∧
      ∃ uses arguments, scan name.switches true rest = .ok (uses, arguments) ∧
        isUsed .help uses = false ∧ commandOf uses arguments name = .ok command := by
  unfold planCommand
  constructor
  · intro h
    split at h
    · cases h
    · next uses arguments scanned =>
      split at h
      · cases h
      · next unhelped =>
        split at h
        · cases h
        · next c formed =>
          cases h
          exact ⟨rfl, uses, arguments, scanned, Bool.eq_false_iff.mpr unhelped, formed⟩
  · rintro ⟨rfl, uses, arguments, scanned, unhelped, formed⟩
    simp [scanned, unhelped, formed]

/-- A command asks for two forms of listing at once. -/
def Command.Conflicts : Command → Prop
  | .complete _ sexp format => sexp = true ∧ format.isSome = true
  | _                       => False

lemma conflicts_of_commandOf {uses : List (Use CommandOption)} {arguments : List Text}
    (formed : commandOf uses arguments .complete = .ok command)
    (sexp : isUsed .sexp uses = true) (format : (valueOf? .format uses).isSome = true) :
    command.Conflicts := by
  unfold commandOf at formed
  cases query : onlyArgument "PREFIX".toList arguments with
  | error m =>
    rw [query] at formed
    cases formed
  | ok q =>
    rw [query] at formed
    cases formed
    exact ⟨sexp, format⟩

/-- Words that ask for completions in two forms are at fault, or else the command they form is. -/
lemma Names.plan_of_conflict (names : Names words globals .complete rest)
    (conflict : ∀ uses arguments,
      scan CommandName.complete.switches true rest = .ok (uses, arguments) →
      isUsed .help uses = false ∧ isUsed .sexp uses = true ∧ isUsed .format uses = true)
    (env : Environment) :
    (∃ f, plan env words = .badKinds f) ∨ (∃ m, plan env words = .misuse m) ∨
      ∃ settings command, plan env words = .run settings command ∧ command.Conflicts := by
  rw [names.plan_eq]
  split
  · exact .inl ⟨_, rfl⟩
  · unfold planCommand
    split
    · exact .inr (.inl ⟨_, rfl⟩)
    · next uses arguments scanned =>
      obtain ⟨unhelped, sexp, format⟩ := conflict uses arguments scanned
      rw [unhelped, if_neg Bool.false_ne_true]
      split
      · exact .inr (.inl ⟨_, rfl⟩)
      · next command formed =>
        have valued := isSome_valueOf?_of_scan scanned (o := .format) (by decide)
        exact .inr (.inr ⟨_, command, rfl,
          conflicts_of_commandOf formed sexp (valued.trans format)⟩)

/-- A command line runs what its words form. -/
theorem plan_eq_run_iff :
    plan env words = .run settings command ↔
      ∃ globals kinds, Forms words globals command ∧
        KindSet.parse? (valueOf? .show globals) = .ok kinds ∧
        settings = settingsOf env globals kinds := by
  constructor
  · intro h
    obtain ⟨globals, name, rest, names⟩ := exists_names_of_plan_eq_run h
    rw [names.plan_eq] at h
    cases shown : KindSet.parse? (valueOf? .show globals) with
    | error f =>
      rw [shown] at h
      cases h
    | ok kinds =>
      rw [shown] at h
      obtain ⟨rfl, formed⟩ := planCommand_eq_run_iff.mp h
      obtain ⟨uses, arguments, formed⟩ := formed
      exact ⟨globals, kinds, ⟨name, rest, uses, arguments, names, formed⟩, shown, rfl⟩
  · rintro ⟨globals, kinds, ⟨name, rest, uses, arguments, names, formed⟩, shown, rfl⟩
    rw [names.plan_eq, shown]
    exact planCommand_eq_run_iff.mpr ⟨rfl, uses, arguments, formed⟩

end SymbolIndex.CommandLine
