import SymbolIndex.Sexp.Record
import SymbolIndex.Template.Render

/-!
# Listings

Entries are listed as the lines of a template, as one summary each, or as an s-expression. A
`Listing` is one of the three, made ready from the options that ask for it.
-/

namespace SymbolIndex

/-- The forms of listings. -/
inductive Listing.Form where
  | plain
  | summary
  | sexp
  deriving DecidableEq, Repr

/-- A way to list entries, ready for use. -/
inductive Listing where
  /-- One line for each entry, by a template. -/
  | plain (template : List Template.Token) (p : Presentation)
  /-- One summary for each entry. -/
  | summary (p : Presentation)
  /-- An s-expression. -/
  | sexp

/-- A line of a listing. -/
inductive Line where
  | plain (t : Text)
  | styled (t : StyledText)
  deriving DecidableEq

namespace Listing

/-- Why options ask for no listing. -/
inductive Fault where
  /-- A template is given where an s-expression is asked for. -/
  | incompatible
  /-- A plain listing has no template. -/
  | formatMissing
  deriving DecidableEq

/-- The wording of a fault. -/
def Fault.message : Fault → Text
  | .incompatible  => "options --format and --sexp are incompatible".toList
  | .formatMissing => "plain output needs a format string".toList

namespace Form

/-- The name of a form. -/
def name : Form → Text
  | .plain   => "plain".toList
  | .summary => "summary".toList
  | .sexp    => "sexp".toList

/-- The form with the given name. -/
def ofName? (t : Text) : Option Form := [plain, summary, sexp].find? (·.name == t)

/-- The form that the options ask for. -/
def ofOptions (sexp : Bool) (format : Option Text) : Except Fault Form :=
  match sexp, format with
  | true, some _  => .error .incompatible
  | true, none    => .ok .sexp
  | false, some _ => .ok .plain
  | false, none   => .ok .summary

end Form

/-- The template of summaries. -/
def summaryTemplate : List Template.Token := [.directive .summary]

/-- The listing of a form. -/
def make? (form : Form) (p : Presentation) (format : Option Text) : Except Fault Listing :=
  match form, format with
  | .plain, some f => .ok (.plain (Template.parse f) p)
  | .plain, none   => .error .formatMissing
  | .summary, _    => .ok (.summary p)
  | .sexp, _       => .ok .sexp

/-- The listing that the options ask for. -/
def ofOptions (sexp : Bool) (format : Option Text) (p : Presentation) : Except Fault Listing := do
  let form ← Form.ofOptions sexp format
  make? form p format

/-- The form of a listing. -/
def form : Listing → Form
  | .plain _ _ => .plain
  | .summary _ => .summary
  | .sexp      => .sexp

/-- The line of an entry in a template. -/
def templateLine (p : Presentation) (template : List Template.Token) : Reading Line :=
  return .plain (← Template.render p template)

/-- The summary of an entry. -/
def summaryLine (p : Presentation) : Reading Line :=
  if p.color then return .styled (← Template.renderStyled p summaryTemplate)
  else templateLine p summaryTemplate

/-- The lines of a list of entries up to the first failure, and the entries afterwards. -/
def lines : Listing → List Entry → (List Line × Option Failure) × List Entry
  | .plain template p, es => (templateLine p template).onEach es
  | .summary p, es        => (summaryLine p).onEach es
  | .sexp, es             =>
    let ((ls, failure), es) := Sexp.recordLines es
    ((ls.map .plain, failure), es)

end Listing

end SymbolIndex
