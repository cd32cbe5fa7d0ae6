import SymbolIndex.Candidates.Choice
import SymbolIndex.CommandLine.Words
import SymbolIndex.KindSet
import SymbolIndex.Listing

/-!
# What a command line asks for

`plan` reads the words of a command line: the global options, a command, and the arguments of the
command. The result is a request, or one of the endings that need no index. Of several reasons to
end early, the one that comes first in this order counts: the global options do not parse, they
ask for the version or for help, the command does not exist, the kinds to show are no kinds, the
command's arguments do not parse.
-/

namespace SymbolIndex.CommandLine

/-- The global options. -/
inductive GlobalOption where
  | index
  | opened
  | show
  | color
  | noColor
  | root
  | verbose
  | version
  | help
  deriving DecidableEq

/-- The spellings of the global options. -/
def globalSwitches : List (Switch GlobalOption) :=
  [⟨.index, "--index".toList, some 'x', true⟩, ⟨.opened, "--open".toList, some 'O', true⟩,
    ⟨.show, "--show".toList, none, true⟩, ⟨.color, "--color".toList, none, false⟩,
    ⟨.noColor, "--no-color".toList, none, false⟩, ⟨.root, "--root".toList, none, true⟩,
    ⟨.verbose, "--verbose".toList, some 'v', false⟩,
    ⟨.version, "--version".toList, none, false⟩, ⟨.help, "--help".toList, none, false⟩]

/-- The options of commands. -/
inductive CommandOption where
  | sexp
  | format
  | tieBreak
  | interface
  | help
  deriving DecidableEq

/-- The commands. -/
inductive CommandName where
  | complete
  | type
  | locate
  | print
  deriving DecidableEq

namespace CommandName

/-- The command that a word names. -/
def ofWord? (w : Text) : Option CommandName :=
  if w = "complete".toList then some .complete
  else if w = "type".toList then some .type
  else if w = "locate".toList then some .locate
  else if w = "print".toList then some .print
  else none

/-- The spellings of a command's options. -/
def switches : CommandName → List (Switch CommandOption)
  | .complete =>
    [⟨.sexp, "--sexp".toList, none, false⟩, ⟨.format, "--format".toList, some 'f', true⟩,
      ⟨.help, "--help".toList, none, false⟩]
  | .type =>
    [⟨.tieBreak, "--tie-break".toList, none, true⟩, ⟨.help, "--help".toList, none, false⟩]
  | .locate =>
    [⟨.interface, "--interface".toList, some 'i', false⟩, ⟨.help, "--help".toList, none, false⟩]
  | .print => [⟨.help, "--help".toList, none, false⟩]

end CommandName

/-- A command with its arguments. -/
inductive Command where
  /-- List the completions of a name. -/
  | complete (query : Text) (sexp : Bool) (format : Option Text)
  /-- Print the type of a symbol. -/
  | type (query : Text) (rule : ChoiceRule)
  /-- Print where symbols are. -/
  | locate (query : Text) (preferred : Side)
  /-- Print symbols by a template. -/
  | print (query : Text) (format : Text)
  deriving DecidableEq

/-- What the global options and the environment settle. -/
structure Settings where
  /-- The index file. -/
  index : Option FilePath
  /-- The modules opened besides those of the file. -/
  opened : List Text
  /-- The kinds to complete. -/
  kinds : Option KindSet
  /-- How entries are rendered. -/
  presentation : Presentation
  /-- Whether notes are shown. -/
  verbose : Bool

/-- The environment of a command line; a variable that is empty counts as absent. -/
structure Environment where
  /-- The index file. -/
  index : Option Text
  /-- The project root. -/
  root : Option Text
  /-- The directory that a project root is resolved in. -/
  directory : FilePath := FilePath.rootDirectory

/-- What a command line asks for. -/
inductive Plan where
  /-- The version. -/
  | version
  /-- Help. -/
  | help
  /-- Nothing, because the words do not form a command line. -/
  | misuse (m : Misuse)
  /-- Nothing, because the kinds to show are no kinds. -/
  | badKinds (f : Kind.Fault)
  /-- A command. -/
  | run (settings : Settings) (command : Command)

/-- The value of an environment variable, unless it is empty. -/
def nonempty? : Option Text → Option Text
  | some [] => none
  | t       => t

/-- The ending that the first request for the version or for help asks for. -/
def early? : List (Use GlobalOption) → Option Plan
  | []      => none
  | u :: us =>
    match u.option with
    | .version => some .version
    | .help    => some .help
    | _        => early? us

/-- Whether an option is one of the two that speak of color. -/
def isColorOption (u : Use GlobalOption) : Bool := u.option = .color || u.option = .noColor

/-- Whether summaries are styled, as the last of the two options says. -/
def colorOf (uses : List (Use GlobalOption)) : Bool :=
  (uses.filter isColorOption).getLast?.any (·.option = .color)

/-- The settings that the global options and the environment amount to. -/
def settingsOf (env : Environment) (uses : List (Use GlobalOption)) (kinds : Option KindSet) :
    Settings where
  index        := ((valueOf? .index uses).or (nonempty? env.index)).map FilePath.ofText
  opened       := valuesOf .opened uses
  kinds        := kinds
  presentation :=
    { color     := colorOf uses
      root      := ((valueOf? .root uses).or (nonempty? env.root)).map
        fun t => (FilePath.ofText t).resolve env.directory
      typeWidth := defaultTypeWidth }
  verbose      := isUsed .verbose uses

/-- The rule of choice that options ask for. -/
def ruleOf (uses : List (Use CommandOption)) : Except Misuse ChoiceRule :=
  match valueOf? .tieBreak uses with
  | none   => .ok .first
  | some t =>
    match ChoiceRule.ofName? t with
    | some rule => .ok rule
    | none      => .error (.noSuchChoice t)

/-- The only argument of a command. -/
def onlyArgument (name : Text) : List Text → Except Misuse Text
  | []         => .error (.missingArgument name)
  | [a]        => .ok a
  | _ :: b :: _ => .error (.extraArgument b)

/-- The command that its options and arguments describe. -/
def commandOf (uses : List (Use CommandOption)) (arguments : List Text) :
    CommandName → Except Misuse Command
  | .complete => do
    let query ← onlyArgument "PREFIX".toList arguments
    return .complete query (isUsed .sexp uses) (valueOf? .format uses)
  | .type => do
    let rule ← ruleOf uses
    let query ← onlyArgument "QUERY".toList arguments
    return .type query rule
  | .locate => do
    let query ← onlyArgument "QUERY".toList arguments
    return .locate query (if isUsed .interface uses then .interface else .implementation)
  | .print =>
    match arguments with
    | []               => .error (.missingArgument "QUERY".toList)
    | [query]          => .ok (.print query (Template.written Listing.summaryTemplate))
    | [query, format]  => .ok (.print query format)
    | _ :: _ :: a :: _ => .error (.extraArgument a)

/-- The plan of a command, read from the words after its name. -/
def planCommand (settings : Settings) (name : CommandName) (words : List Text) : Plan :=
  match scan name.switches true words with
  | .error m               => .misuse m
  | .ok (uses, arguments) =>
    if isUsed .help uses then .help
    else
      match commandOf uses arguments name with
      | .error m => .misuse m
      | .ok c    => .run settings c

/-- The plan when a word names no command. Where two dashes let an option stand in the place of a
command, it is read as a global option once more, so that it may still ask for the version or for
help. -/
def planUnknown (w : Text) (words : List Text) : Plan :=
  match scan globalSwitches false (w :: words) with
  | .error m      => .misuse m
  | .ok (uses, _) => (early? uses).getD (.misuse (.noSuchCommand w))

/-- What a command line asks for. -/
def plan (env : Environment) (words : List Text) : Plan :=
  match scan globalSwitches false words with
  | .error m         => .misuse m
  | .ok (uses, rest) =>
    match early? uses with
    | some ending => ending
    | none        =>
      match rest with
      | []      =>
        match KindSet.parse? (valueOf? .show uses) with
        | .error f => .badKinds f
        | .ok _    => .help
      | w :: ws =>
        match CommandName.ofWord? w with
        | none      => planUnknown w ws
        | some name =>
          match KindSet.parse? (valueOf? .show uses) with
          | .error f  => .badKinds f
          | .ok kinds => planCommand (settingsOf env uses kinds) name ws

end SymbolIndex.CommandLine
