import SymbolIndex.Candidates.Choice
import SymbolIndex.Candidates.Site
import SymbolIndex.Entry.Field
import SymbolIndex.KindSet
import SymbolIndex.Listing

/-!
# Sessions

A session is a list of entries that many operations share. Every operation gives an answer and
leaves the entries behind, with the cells computed that it asked for.
-/

namespace SymbolIndex

/-- What can be done with shared entries; an entry is named by its position. -/
inductive Operation where
  /-- Read a field of an entry. -/
  | read (i : Nat) (field : Field)
  /-- Render an entry as plain text. -/
  | render (i : Nat) (p : Presentation) (template : List Template.Token)
  /-- Render an entry as pieces. -/
  | pieces (i : Nat) (p : Presentation) (template : List Template.Token)
  /-- Render an entry as styled text. -/
  | styled (i : Nat) (p : Presentation) (template : List Template.Token)
  /-- List all entries. -/
  | list (listing : Listing)
  /-- Print the records of all entries. -/
  | print
  /-- Select the entries of some kinds. -/
  | select (kinds : Option KindSet)
  /-- Choose one entry. -/
  | choose (query : Text) (rule : ChoiceRule)
  /-- Locate the entries. -/
  | locate (preferred : Side)

/-- What an operation gives when it succeeds. -/
inductive Answer where
  | content (c : Field.Content)
  | text (t : Text)
  | pieces (ps : List Piece)
  | styled (t : StyledText)
  | lines (ls : List Line) (failure : Option Failure)
  | positions (is : List Nat)
  | position (i : Nat)
  | located (l : Located)
  deriving DecidableEq

/-- Why an operation gives no answer. -/
inductive OperationFault where
  /-- A cell that it needs fails. -/
  | failure (f : Failure)
  /-- Nothing matches its query. -/
  | notFound (e : NotFound)
  /-- There is no entry at its position. -/
  | noEntry
  deriving DecidableEq

namespace Session

/-- Read the entry at position `i`, and keep it as the reading leaves it. -/
def readAt {α : Type} (read : Reading α) :
    Nat → List Entry → Except OperationFault α × List Entry
  | _, []          => (.error .noEntry, [])
  | 0, e :: es     =>
    match read.on e with
    | (.ok a, e)    => (.ok a, e :: es)
    | (.error f, e) => (.error (.failure f), e :: es)
  | i + 1, e :: es =>
    let (result, es) := readAt read i es
    (result, e :: es)

/-- Every entry with its position. -/
def numbered (es : List Entry) : List (Nat × Entry) := es.zipIdx.map fun (e, i) => (i, e)

/-- The positions of the entries of some kinds. -/
def positionsOf (kinds : Option KindSet) (es : List Entry) : List Nat :=
  ((numbered es).filter fun p => KindSet.admits kinds p.2.kind.tag).map (·.1)

/-- Carry out one operation. -/
def step : Operation → List Entry → Except OperationFault Answer × List Entry
  | .read i field, es =>
    let (result, es) := readAt field.read i es
    (result.map .content, es)
  | .render i p template, es =>
    let (result, es) := readAt (Template.render p template) i es
    (result.map .text, es)
  | .pieces i p template, es =>
    let (result, es) := readAt (Template.pieces p template) i es
    (result.map .pieces, es)
  | .styled i p template, es =>
    let (result, es) := readAt (Template.renderStyled p template) i es
    (result.map .styled, es)
  | .list listing, es =>
    let ((ls, failure), es) := listing.lines es
    (.ok (.lines ls failure), es)
  | .print, es =>
    let (result, es) := Sexp.printEntries es
    ((result.mapError .failure).map .text, es)
  | .select kinds, es => (.ok (.positions (positionsOf kinds es)), es)
  | .choose query rule, es =>
    let result := chosen (fun p : Nat × Entry => p.2.kind.tag) rule query (numbered es)
    ((result.mapError .notFound).map fun p => .position p.1, es)
  | .locate preferred, es =>
    let (result, es) := locate preferred es
    ((result.mapError .failure).map .located, es)

/-- Carry out operations one after another: their answers, and the entries afterwards. -/
def run : List Operation → List Entry → List (Except OperationFault Answer) × List Entry
  | [], es        => ([], es)
  | op :: ops, es =>
    let (answer, es) := step op es
    let (answers, es) := run ops es
    (answer :: answers, es)

end Session

end SymbolIndex
