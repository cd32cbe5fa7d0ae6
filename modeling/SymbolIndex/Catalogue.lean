import SymbolIndex.Candidates.Site
import SymbolIndex.Index.Search
import SymbolIndex.KindSet
import SymbolIndex.Note

/-!
# Catalogues

The questions that commands are made of, asked of any catalogue. A catalogue answers a name with
the entries that it stands for or that complete it, and may remark on its answer; an index is a
catalogue.
-/

namespace SymbolIndex

/-- A source of entries. -/
structure Catalogue where
  /-- The entries that a name stands for. -/
  lookup : Text → List Entry × List Note
  /-- The entries that complete a name. -/
  complete : Text → List Entry × List Note

/-- An index as a catalogue; it does not remark on names that it cannot search for. -/
def Index.catalogue (idx : Index) : Catalogue where
  lookup query :=
    let es := idx.lookup query
    (es, if (Index.lookupName? query).isSome then [.lookedUp query es.length] else [])
  complete query :=
    let es := idx.complete query
    (es, if (Index.completeName? query).isSome then [.completed query es.length] else [])

namespace Catalogue

/-- The completions of a name that pass a set of kinds. -/
def completions (c : Catalogue) (kinds : Option KindSet) (query : Text) :
    List Entry × List Note :=
  let (es, notes) := c.complete query
  (es.filter fun e => KindSet.admits kinds e.kind.tag, notes)

/-- All entries that a name stands for. -/
def candidates (c : Catalogue) (query : Text) : List Entry × List Note := c.lookup query

/-- The one entry that a name stands for, chosen by a rule if there are several. -/
def meant (c : Catalogue) (rule : ChoiceRule) (query : Text) :
    Except NotFound Entry × List Note :=
  let (es, notes) := c.candidates query
  match chosen (fun e : Entry => e.kind.tag) rule query es with
  | .error e => (.error e, notes)
  | .ok e    =>
    (.ok e, if isUnique es then notes
      else notes ++ [.chosen es.length query e.fullPath rule])

/-- The entries that a name stands for, and where they are. -/
def located (c : Catalogue) (preferred : Side) (query : Text) :
    (Except Failure Located × List Entry) × List Note :=
  let (es, notes) := c.candidates query
  let (result, es) := locate preferred es
  let fellBack :=
    match result with
    | .ok l    => l.side != preferred
    | .error _ => false
  ((result, es), if fellBack then notes ++ [.fellBack query preferred] else notes)

end Catalogue

end SymbolIndex
