import SymbolIndex.Index.Symbol
import SymbolIndex.Proofs.Candidates.Choice
import SymbolIndex.Proofs.Entry.Asked
import SymbolIndex.Session

/-!
# Sessions and memory

Operations share their entries, so each of them finds cells that others have computed. `Oblivious`
actions cannot tell: their answer depends on what the cells give, and all that they do to an entry
is to ask its cells. Every operation is oblivious, so each operation of a session answers as it
would alone on entries that were just built.
-/

namespace SymbolIndex

open List (Forall₂)

/-- The answer of an action does not depend on which cells are computed, and the action only asks
cells. -/
structure Oblivious {β : Type} (act : List Entry → β × List Entry) : Prop where
  answer_congr : ∀ {es fs}, Forall₂ Entry.Agrees es fs → (act es).1 = (act fs).1
  later : ∀ es, Forall₂ Entry.Later es (act es).2

lemma forall₂_trans {α : Type} {R : α → α → Prop} (trans : ∀ a b c, R a b → R b c → R a c)
    {as bs cs : List α} (h : Forall₂ R as bs) (h' : Forall₂ R bs cs) : Forall₂ R as cs := by
  induction h generalizing cs with
  | nil => exact h'
  | cons head tail ih =>
    cases h' with
    | cons head' tail' => exact .cons (trans _ _ _ head head') (ih tail')

lemma forall₂_later_refl (es : List Entry) : Forall₂ Entry.Later es es :=
  List.forall₂_same.mpr fun e _ => .refl e

lemma forall₂_later_trans {es fs gs : List Entry} (h : Forall₂ Entry.Later es fs)
    (h' : Forall₂ Entry.Later fs gs) : Forall₂ Entry.Later es gs :=
  forall₂_trans (fun _ _ _ => .trans) h h'

/-- What is left of entries agrees with all that they agreed with. -/
lemma forall₂_agrees_of_later {es fs gs : List Entry} (later : Forall₂ Entry.Later es fs)
    (agree : Forall₂ Entry.Agrees es gs) : Forall₂ Entry.Agrees fs gs := by
  have back : Forall₂ Entry.Agrees fs es := later.flip.imp fun _ _ h => h.agrees.symm
  exact forall₂_trans (fun _ _ _ => .trans) back agree

namespace Oblivious

variable {β γ : Type} {act : List Entry → β × List Entry}

lemma of_eq {act' : List Entry → β × List Entry} (h : Oblivious act)
    (same : ∀ es, act' es = act es) : Oblivious act' := by
  rwa [funext same]

/-- What an oblivious action gives on entries with a past is what it gives on those they were. -/
lemma answer_of_later (h : Oblivious act) {es fs : List Entry} (later : Forall₂ Entry.Later es fs) :
    (act fs).1 = (act es).1 :=
  h.answer_congr (forall₂_agrees_of_later later (List.forall₂_same.mpr fun e _ => .refl e))

lemma map (h : Oblivious act) (f : β → γ) : Oblivious fun es => (f (act es).1, (act es).2) := by
  constructor
  · intro es fs agree
    exact congrArg f (h.answer_congr agree)
  · exact h.later

/-- One action after another, which may depend on the answer of the first. -/
lemma bind (h : Oblivious act) {next : β → List Entry → γ × List Entry}
    (h' : ∀ b, Oblivious (next b)) : Oblivious fun es => next (act es).1 (act es).2 := by
  constructor
  · intro es fs agree
    have first : (act es).1 = (act fs).1 := h.answer_congr agree
    have onward : (next (act es).1 (act es).2).1 = (next (act es).1 es).1 :=
      (h' _).answer_of_later (h.later es)
    have onward' : (next (act fs).1 (act fs).2).1 = (next (act fs).1 fs).1 :=
      (h' _).answer_of_later (h.later fs)
    rw [onward, onward', first]
    exact (h' _).answer_congr agree
  · intro es
    exact forall₂_later_trans (h.later es) ((h' _).later _)

/-- An action that looks at the occurrences only. -/
lemma ofOccurrences (f : List Occurrence → β) :
    Oblivious fun es => (f (es.map Entry.toOccurrence), es) := by
  constructor
  · intro es fs agree
    have same : es.map Entry.toOccurrence = fs.map Entry.toOccurrence := by
      induction agree with
      | nil => rfl
      | cons head _ ih => rw [List.map_cons, List.map_cons, head.occurrence, ih]
    rw [same]
  · exact forall₂_later_refl

lemma pure (b : β) : Oblivious fun es => (b, es) := ofOccurrences fun _ => b

end Oblivious

/-! ### Reading entries -/

namespace Reading

variable {α : Type}

lemma oblivious_onEach (read : Reading α) : Oblivious read.onEach := by
  constructor
  · intro es fs agree
    induction agree with
    | nil => rfl
    | @cons e f es fs head _ ih =>
      rw [onEach_cons, onEach_cons, read.outcome_congr head, ih]
      cases read.outcome f <;> rfl
  · intro es
    induction es with
    | nil => exact .nil
    | cons e es ih =>
      rw [onEach_cons]
      cases read.outcome e with
      | error g => exact .cons (read.later_on e) (forall₂_later_refl es)
      | ok a => exact .cons (read.later_on e) ih

end Reading

/-! ### Locating -/

lemma oblivious_sites (side : Side) : Oblivious (sites side) := by
  have asked := ((Reading.getLocation side).oblivious_onEach).map fun
    | (_, some f) => Except.error f
    | (ls, none)  => Except.ok ls
  apply asked.of_eq
  intro es
  simp only [sites]
  rcases (Reading.getLocation side).onEach es with ⟨⟨ls, _ | f⟩, fs⟩ <;> rfl

/-- What is located when no preferred location was found. -/
def fallback (preferred : Side) (ls others : List (Option Location)) : Located :=
  if others.any Option.isSome then ⟨preferred.other, others⟩ else ⟨preferred, ls⟩

/-- How locating goes on with the locations on the preferred side. -/
def locateFrom (preferred : Side) :
    Except Failure (List (Option Location)) → List Entry → Except Failure Located × List Entry
  | .error f, es => (.error f, es)
  | .ok ls, es   =>
    if ls.any Option.isSome then (.ok ⟨preferred, ls⟩, es)
    else
      ((sites preferred.other es).1.map (fallback preferred ls), (sites preferred.other es).2)

lemma locate_eq_locateFrom (preferred : Side) (es : List Entry) :
    locate preferred es = locateFrom preferred (sites preferred es).1 (sites preferred es).2 := by
  rw [locate]
  rcases sites preferred es with ⟨_ | ls, fs⟩
  · rfl
  · simp only [locateFrom]
    rcases sites preferred.other fs with ⟨_ | others, gs⟩
    · rfl
    · simp only [Except.map, fallback]
      split_ifs <;> rfl

lemma oblivious_locate (preferred : Side) : Oblivious (locate preferred) := by
  have onward : ∀ result, Oblivious (locateFrom preferred result) := by
    rintro (f | ls)
    · exact .pure _
    · by_cases found : ls.any Option.isSome = true
      · apply (Oblivious.pure (Except.ok (Located.mk preferred ls))).of_eq
        intro es
        exact if_pos found
      · apply ((oblivious_sites preferred.other).map (Except.map (fallback preferred ls))).of_eq
        intro es
        exact if_neg found
  exact ((oblivious_sites preferred).bind onward).of_eq (locate_eq_locateFrom preferred)

/-! ### Listing -/

namespace Sexp

lemma oblivious_recordLines : Oblivious recordLines := by
  have asked := recordLine.oblivious_onEach.map fun
    | (ls, some f) => (['('] :: ls, some f)
    | (ls, none)   => (['('] :: ls ++ [[')']], none)
  apply asked.of_eq
  intro es
  simp only [recordLines]
  rcases recordLine.onEach es with ⟨⟨ls, _ | f⟩, fs⟩ <;> rfl

lemma oblivious_printEntries : Oblivious printEntries := by
  have asked := oblivious_recordLines.map fun
    | (_, some f) => Except.error f
    | (ls, none)  => Except.ok (Text.joinWith '\n' ls ++ ['\n'])
  apply asked.of_eq
  intro es
  simp only [printEntries]
  rcases recordLines es with ⟨⟨ls, _ | f⟩, fs⟩ <;> rfl

end Sexp

lemma Listing.oblivious_lines (listing : Listing) : Oblivious listing.lines := by
  cases listing with
  | plain template p => exact Reading.oblivious_onEach _
  | summary p => exact Reading.oblivious_onEach _
  | sexp => exact Sexp.oblivious_recordLines.map fun r => (r.1.map Line.plain, r.2)

namespace Session

/-! ### Choosing -/

lemma zipIdx_occurrences (es : List Entry) :
    (es.map Entry.toOccurrence).zipIdx
      = (numbered es).map fun p => (p.2.toOccurrence, p.1) := by
  rw [numbered, List.zipIdx_map, List.map_map]
  rfl

lemma oblivious_positionsOf (kinds : Option KindSet) :
    Oblivious fun es => (positionsOf kinds es, es) := by
  have looked := Oblivious.ofOccurrences fun os =>
    (os.zipIdx.filter fun p => KindSet.admits kinds p.1.kind.tag).map Prod.snd
  apply looked.of_eq
  intro es
  simp [zipIdx_occurrences, positionsOf, List.filter_map, Function.comp_def]

lemma oblivious_chosen (rule : ChoiceRule) (query : Text) :
    Oblivious fun es =>
      ((chosen (fun p : Nat × Entry => p.2.kind.tag) rule query (numbered es)).map Prod.fst, es) := by
  have looked := Oblivious.ofOccurrences fun os =>
    (chosen (fun p : Occurrence × Nat => p.1.kind.tag) rule query os.zipIdx).map Prod.snd
  apply looked.of_eq
  intro es
  rw [zipIdx_occurrences, chosen_map]
  cases chosen (fun p : Nat × Entry => p.2.kind.tag) rule query (numbered es) <;> rfl

lemma readAt_zero {α : Type} (read : Reading α) (e : Entry) (es : List Entry) :
    readAt read 0 (e :: es) = ((read.outcome e).mapError .failure, (read.on e).2 :: es) := by
  rw [← Reading.on_fst, readAt]
  rcases read.on e with ⟨_ | a, e'⟩ <;> rfl

lemma oblivious_readAt {α : Type} (read : Reading α) (i : Nat) : Oblivious (readAt read i) := by
  constructor
  · intro es fs agree
    induction agree generalizing i with
    | nil => simp [readAt]
    | cons head _ ih =>
      cases i with
      | zero => rw [readAt_zero, readAt_zero, read.outcome_congr head]
      | succ i => exact ih i
  · intro es
    induction es generalizing i with
    | nil => simp [readAt]
    | cons e es ih =>
      cases i with
      | zero =>
        rw [readAt_zero]
        exact .cons (read.later_on e) (forall₂_later_refl es)
      | succ i => exact .cons (.refl e) (ih i)

/-- No operation can tell which cells are computed. -/
lemma oblivious_step (op : Operation) : Oblivious (step op) := by
  cases op with
  | read i field => exact (oblivious_readAt field.read i).map (Except.map Answer.content)
  | render i p template =>
    exact (oblivious_readAt (Template.render p template) i).map (Except.map Answer.text)
  | pieces i p template =>
    exact (oblivious_readAt (Template.pieces p template) i).map (Except.map Answer.pieces)
  | styled i p template =>
    exact (oblivious_readAt (Template.renderStyled p template) i).map (Except.map Answer.styled)
  | list listing => exact listing.oblivious_lines.map fun r => Except.ok (Answer.lines r.1 r.2)
  | print =>
    exact Sexp.oblivious_printEntries.map fun r =>
      (r.mapError OperationFault.failure).map Answer.text
  | select kinds =>
    exact (oblivious_positionsOf kinds).map fun is => Except.ok (Answer.positions is)
  | choose query rule =>
    refine ((oblivious_chosen rule query).map fun r =>
      (r.mapError OperationFault.notFound).map Answer.position).of_eq ?_
    intro es
    simp only [step]
    cases chosen (fun p : Nat × Entry => p.2.kind.tag) rule query (numbered es) <;> rfl
  | locate preferred =>
    exact (oblivious_locate preferred).map fun r =>
      (r.mapError OperationFault.failure).map Answer.located

/-! ### Whole sessions -/

lemma later_run (ops : List Operation) (es : List Entry) :
    Forall₂ Entry.Later es (run ops es).2 := by
  induction ops generalizing es with
  | nil => exact forall₂_later_refl es
  | cons op ops ih => exact forall₂_later_trans ((oblivious_step op).later es) (ih _)

lemma answers_run {es fs : List Entry} (agree : Forall₂ Entry.Agrees es fs)
    (ops : List Operation) : (run ops es).1 = ops.map fun op => (step op fs).1 := by
  induction ops generalizing es with
  | nil => rfl
  | cons op ops ih =>
    have first : (step op es).1 = (step op fs).1 := (oblivious_step op).answer_congr agree
    have rest := ih (forall₂_agrees_of_later ((oblivious_step op).later es) agree)
    rw [List.map_cons, ← first, ← rest]
    rfl

lemma entries_run_append (ops more : List Operation) (es : List Entry) :
    (run (ops ++ more) es).2 = (run more (run ops es).2).2 := by
  induction ops generalizing es with
  | nil => rfl
  | cons op ops ih => exact ih _

/-- Each operation of a session answers as it would alone on entries whose cells give the same,
such as the entries as they were built. What is computed stays computed, a value is computed by one
run, and a failure is never kept. -/
theorem run_of_agrees {es built : List Entry} (agree : Forall₂ Entry.Agrees es built)
    (ops more : List Operation) :
    (run ops es).1 = ops.map (fun op => (step op built).1) ∧
      Forall₂ Entry.StaysForced (run ops es).2 (run (ops ++ more) es).2 ∧
      Forall₂ Entry.Remembers es (run ops es).2 := by
  refine ⟨answers_run agree ops, ?_, ?_⟩
  · rw [entries_run_append]
    exact (later_run more _).imp fun _ _ later => later.staysForced
  · exact (later_run ops es).imp fun _ _ later => later.remembers

/-- An entry whose type waits, whose documentation fails and whose implementation is known. -/
def patchyEntry : Entry where
  path := ["f".toList]
  kind := ⟨.value, none, rfl⟩
  artifact := []
  signature := none
  access := ["f".toList]
  path_ne_nil := List.cons_ne_nil _ _
  signature_keyword _ := rfl
  typeCell := .lazy fun _ => .ok (some "int".toList)
  docCell := .lazy fun _ => .error (.raised "lost".toList)
  implCell := .of (some ⟨"f".toList, 1, 0⟩)

/-- The entry and a keyword. -/
def patchyEntries : List Entry := [patchyEntry, Symbol.keywordEntry "if".toList]

/-- The same entries after the type was read once. -/
def usedEntries : List Entry :=
  [{ patchyEntry with typeCell := .computed (some "int".toList) 1 },
    Symbol.keywordEntry "if".toList]

/-- Operations of which three meet the failure. -/
def patchyOperations : List Operation := [.print, .read 0 .doc, .locate .interface, .list .sexp]

theorem run_of_agrees_usedEntries :
    Forall₂ Entry.Agrees usedEntries patchyEntries ∧
      (run patchyOperations usedEntries).2.map Entry.forced
        = [(true, false, true), (true, false, false)] ∧
      (run patchyOperations usedEntries).2.map (fun e => (e.typeCell.runs, e.docCell.runs))
        = [(1, 3), (0, 0)] ∧
      (run patchyOperations usedEntries).1
        = patchyOperations.map (fun op => (step op patchyEntries).1) ∧
      Forall₂ Entry.StaysForced (run patchyOperations usedEntries).2
        (run (patchyOperations ++ [.read 1 .doc]) usedEntries).2 ∧
      Forall₂ Entry.Remembers usedEntries (run patchyOperations usedEntries).2 := by
  have agree : Forall₂ Entry.Agrees usedEntries patchyEntries :=
    .cons ⟨rfl, rfl, rfl, rfl⟩ (.cons (.refl _) .nil)
  exact ⟨agree, by decide, by decide, run_of_agrees agree patchyOperations [.read 1 .doc]⟩

end Session

end SymbolIndex
