import SymbolIndex.Catalogue
import SymbolIndex.CommandLine.Request
import SymbolIndex.Console.Message
import SymbolIndex.Text.Terminal

/-!
# What a command line comes to

`outcome` carries out the plan of a command line against a file system, which is asked for nothing
but the index file. A run ends with output, or with a complaint and a status that tells a query
without matches (2) from everything else (1). Only a cell that fails leaves output before a
complaint.
-/

namespace SymbolIndex.CommandLine

/-- What a path leads to. -/
inductive FileNode where
  | missing
  | directory
  | file (bytes : ByteArray)

/-- Why an index file is no index. -/
inductive IndexFault where
  /-- It is a directory. -/
  | directory
  /-- It does not decode. -/
  | decode (f : Json.Fault)
  /-- Its declarations are at fault. -/
  | build (f : BuildFault)

/-- The wording of a fault. -/
def IndexFault.message : IndexFault → Text
  | .directory => "it is a directory".toList
  | .decode f  => f.message
  | .build f   => f.message

/-- Why a run ends without output. -/
inductive Complaint where
  /-- The words do not form a command line. -/
  | misuse (m : Misuse)
  /-- The kinds to show are no kinds. -/
  | badKinds (f : Kind.Fault)
  /-- The options contradict each other. -/
  | options (f : Listing.Fault)
  /-- No index file is named. -/
  | noIndex
  /-- The index file does not exist. -/
  | indexMissing (path : FilePath)
  /-- The index file cannot be read. -/
  | indexUnreadable (path : FilePath) (fault : IndexFault)
  /-- Nothing matches the query. -/
  | notFound (e : NotFound)
  /-- A cell fails when something may have been printed already. -/
  | failure (before : Text) (f : Failure)

namespace Complaint

/-- The exit status of a complaint. -/
def status : Complaint → Nat
  | .notFound _ => 2
  | _           => 1

/-- The wording of a complaint. -/
def message : Complaint → Text
  | .misuse m               => "Error: ".toList ++ m.message
  | .badKinds f             => "Error: invalid --show value: ".toList ++ f.message
  | .options f              => f.message
  | .noIndex                =>
    "Error: no index given (use --index or $MODINDEX_INDEX)".toList
  | .indexMissing path      => "Error: index file not found: ".toList ++ path.toText
  | .indexUnreadable path _ => "Error: cannot read index ".toList ++ path.toText
  | .notFound e             => e.message
  | .failure _ f            => f.message

/-- What is added to the wording of a complaint. -/
def detail : Complaint → Text
  | .indexUnreadable _ fault => ": ".toList ++ fault.message
  | _                        => []

/-- Whether a complaint is printed through a console; misuse of the command line and failures are
printed plainly. -/
def usesConsole : Complaint → Bool
  | .misuse _ | .failure _ _ => false
  | _                        => true

/-- A complaint as it is printed. -/
def shown (c : Complaint) : Text :=
  let t := c.message ++ c.detail
  if c.usesConsole then Console.shown t else t

/-- What was printed before a complaint. -/
def before : Complaint → Text
  | .failure t _ => t
  | _            => []

end Complaint

/-- How a run ends. -/
inductive Ending where
  /-- With help. -/
  | help
  /-- With output. -/
  | output (t : Text)
  /-- With a complaint. -/
  | complaint (c : Complaint)

/-- How a run ends, and the notes that it leaves when it is verbose. -/
structure Outcome where
  ending : Ending
  notes : List Note

/-- The help text. -/
def helpText : Text :=
  ("Usage: modindex [OPTIONS] COMMAND [ARGS]...\n\n"
    ++ "  Explore the interfaces of indexed modules.\n\n"
    ++ "Options:\n"
    ++ "  -x, --index PATH         Path to the index JSON\n"
    ++ "  -O, --open MODULE        Consider MODULE opened (repeatable)\n"
    ++ "  --show TEXT              Comma-separated kinds to complete\n"
    ++ "  --color / --no-color     Colorize summaries\n"
    ++ "  --root PATH              Project root; locations below it are shown relative\n"
    ++ "  -v, --verbose            Log lookups to stderr\n"
    ++ "  --version                Show version and exit\n"
    ++ "  --help                   Show this message and exit\n\n"
    ++ "Commands:\n"
    ++ "  complete PREFIX [--sexp] [-f, --format FORMAT]\n"
    ++ "  type QUERY [--tie-break first|kind]\n"
    ++ "  locate QUERY [-i, --interface]\n"
    ++ "  print QUERY [FORMAT]\n").toList

namespace Outcome

/-- The exit status. -/
def status (o : Outcome) : Nat :=
  match o.ending with
  | .complaint c => c.status
  | _            => 0

/-- What is printed, apart from complaints and notes. -/
def printed (o : Outcome) : Text :=
  match o.ending with
  | .help        => helpText
  | .output t    => t
  | .complaint c => c.before

end Outcome

/-- A text as it is printed: control sequences have no place outside a terminal. -/
def echo (t : Text) : Text := (t ++ ['\n']).withoutSequences

/-- A line as it is printed; a styled line keeps its styles. -/
def echoLine : Line → Text
  | .plain t  => echo t
  | .styled t => t.toTerminal ++ ['\n']

/-- The index that the settings name, and the notes on the way to it. -/
def loadIndex (files : FilePath → FileNode) (settings : Settings) :
    Except Complaint Index × List Note :=
  match settings.index with
  | none      => (.error .noIndex, [])
  | some path =>
    match files path with
    | .missing    => (.error (.indexMissing path), [])
    | .directory  => (.error (.indexUnreadable path .directory), [])
    | .file bytes =>
      match IndexFile.decode bytes with
      | .error f     => (.error (.indexUnreadable path (.decode f)), [])
      | .ok contents =>
        let notes := [.loaded contents.entries.length path.toText]
        match Index.build contents settings.opened with
        | .error f => (.error (.indexUnreadable path (.build f)), notes)
        | .ok idx  => (.ok idx, notes)

/-- The output of a listing. Lines are printed one by one, an s-expression only as a whole. -/
def listed (listing : Listing) (es : List Entry) : Ending :=
  match listing with
  | .sexp =>
    match (Sexp.printEntries es).1 with
    | .ok t    => .output t.withoutSequences
    | .error f => .complaint (.failure [] f)
  | _ =>
    match (listing.lines es).1 with
    | (ls, some f) => .complaint (.failure (ls.flatMap echoLine) f)
    | (ls, none)   => .output (ls.flatMap echoLine)

/-- List the completions of a name. -/
def completions (c : Catalogue) (kinds : Option KindSet) (listing : Listing) (query : Text) :
    Outcome :=
  let (es, notes) := c.completions kinds query
  ⟨listed listing es, notes⟩

/-- Print the type of a symbol. -/
def typeOf (c : Catalogue) (rule : ChoiceRule) (query : Text) : Outcome :=
  match c.meant rule query with
  | (.error e, notes) => ⟨.complaint (.notFound e), notes⟩
  | (.ok e, notes)    =>
    match (Reading.getType.on e).1 with
    | .ok t    => ⟨.output (echo t), notes⟩
    | .error f => ⟨.complaint (.failure [] f), notes⟩

/-- Print where symbols are. -/
def locationsOf (c : Catalogue) (root : Option FilePath) (preferred : Side) (query : Text) :
    Outcome :=
  let ((result, es), notes) := c.located preferred query
  match result with
  | .error f => ⟨.complaint (.failure [] f), notes⟩
  | .ok l    =>
    if l.found then ⟨.output ((l.hits es).flatMap fun h => echo (h.2.render root)), notes⟩
    else ⟨.complaint (.notFound ⟨query⟩), notes⟩

/-- Print symbols by a template. -/
def printed (c : Catalogue) (p : Presentation) (format query : Text) : Outcome :=
  let (es, notes) := c.candidates query
  if isFound es then ⟨listed (.plain (Template.parse format) p) es, notes⟩
  else ⟨.complaint (.notFound ⟨query⟩), notes⟩

/-- Ask a question of the index. -/
def ask (files : FilePath → FileNode) (settings : Settings) (question : Catalogue → Outcome) :
    Outcome :=
  match loadIndex files settings with
  | (.error c, notes) => ⟨.complaint c, notes⟩
  | (.ok idx, notes)  =>
    let answer := question idx.catalogue
    { answer with notes := notes ++ answer.notes }

/-- Carry out a command. -/
def runCommand (files : FilePath → FileNode) (settings : Settings) : Command → Outcome
  | .complete query sexp format =>
    match Listing.ofOptions sexp format settings.presentation with
    | .error f    => ⟨.complaint (.options f), []⟩
    | .ok listing => ask files settings fun c => completions c settings.kinds listing query
  | .type query rule => ask files settings fun c => typeOf c rule query
  | .locate query preferred =>
    ask files settings fun c => locationsOf c settings.presentation.root preferred query
  | .print query format =>
    ask files settings fun c => printed c settings.presentation format query

/-- The program's name and version. -/
def versionText : Text := "modindex 0.3.0".toList

/-- Carry out a plan; notes are kept when they are asked for. -/
def Plan.outcome (files : FilePath → FileNode) : Plan → Outcome
  | .version  => ⟨.output (echo versionText), []⟩
  | .help     => ⟨.help, []⟩
  | .misuse m => ⟨.complaint (.misuse m), []⟩
  | .badKinds f => ⟨.complaint (.badKinds f), []⟩
  | .run settings command =>
    let o := runCommand files settings command
    if settings.verbose then o else { o with notes := [] }

/-- What a command line comes to. -/
def outcome (files : FilePath → FileNode) (env : Environment) (words : List Text) : Outcome :=
  (plan env words).outcome files

/-- A note as it is shown. -/
def noteLine (n : Note) : Text := "[modindex] ".toList ++ n.toText

end SymbolIndex.CommandLine
