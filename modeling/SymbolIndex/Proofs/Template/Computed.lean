import SymbolIndex.Proofs.Entry.Parts
import SymbolIndex.Proofs.Template.Parsing
import SymbolIndex.Sexp.Record
import SymbolIndex.Template.Render

/-!
# What rendering computes

A template asks an entry for the parts that its directives need, from left to right, and stops at
the first that fails. What was asked before is computed afterwards, and nothing else is: not the
cell that failed, no cell behind it, and none for letters that only look like directives. A record
asks for the type and then for the documentation.
-/

namespace SymbolIndex

/-! ### What directives need -/

namespace Directive

/-- The part that a directive needs, for a keyword or for another symbol. -/
def part? (keyword : Bool) : Directive → Option Part
  | .type           => some .type
  | .summary        => some .type
  | .doc            => some .doc
  | .implementation => if keyword then none else some .implementation
  | _               => none

section

variable {keyword : Bool} {d : Directive}

lemma part?_eq_type_iff : d.part? keyword = some .type ↔ d = .type ∨ d = .summary := by
  cases d <;> simp [part?]

lemma part?_eq_doc_iff : d.part? keyword = some .doc ↔ d = .doc := by
  cases d <;> simp [part?]

lemma part?_eq_implementation_iff :
    d.part? keyword = some .implementation ↔ d = .implementation ∧ keyword = false := by
  cases d <;> simp [part?]

end

/-- The directive needs a cell of the entry that fails. -/
inductive FailsOn (e : Entry) : Directive → Failure → Prop
  | type {f : Failure} (h : e.typeCell.outcome = .error f) : FailsOn e .type f
  | summary {f : Failure} (h : e.typeCell.outcome = .error f) : FailsOn e .summary f
  | doc {f : Failure} (h : e.docCell.outcome = .error f) : FailsOn e .doc f
  | implementation {f : Failure} (symbol : e.isKeyword = false)
      (h : e.implCell.outcome = .error f) : FailsOn e .implementation f

/-- A directive fails with the part that it needs. -/
lemma failsOn_iff {e : Entry} {d : Directive} {f : Failure} :
    d.FailsOn e f ↔ ∃ q, d.part? e.isKeyword = some q ∧ e.failure? q = some f := by
  constructor
  · rintro (h | h | h | ⟨symbol, h⟩)
    · exact ⟨.type, rfl, Cell.failure?_eq_some_iff.mpr h⟩
    · exact ⟨.type, rfl, Cell.failure?_eq_some_iff.mpr h⟩
    · exact ⟨.doc, rfl, Cell.failure?_eq_some_iff.mpr h⟩
    · exact ⟨.implementation, part?_eq_implementation_iff.mpr ⟨rfl, symbol⟩,
        Cell.failure?_eq_some_iff.mpr h⟩
  · rintro ⟨q, needed, failing⟩
    cases q with
    | type =>
      have h := Cell.failure?_eq_some_iff.mp failing
      obtain rfl | rfl := part?_eq_type_iff.mp needed
      · exact .type h
      · exact .summary h
    | doc =>
      obtain rfl := part?_eq_doc_iff.mp needed
      exact .doc (Cell.failure?_eq_some_iff.mp failing)
    | implementation =>
      obtain ⟨rfl, symbol⟩ := part?_eq_implementation_iff.mp needed
      exact .implementation symbol (Cell.failure?_eq_some_iff.mp failing)

/-- A directive asks for the part that it needs. -/
lemma asks_pieces (p : Presentation) {e : Entry} (typed : e.typeCell.outcome ≠ .ok none)
    (d : Directive) : (d.pieces p).Asks e (d.part? e.isKeyword).toList := by
  cases d with
  | type => exact (Reading.Asks.getType typed).bind fun t => .done _ _
  | summary =>
    refine (Reading.Asks.getOccurrence e).bind fun o => ?_
    exact (Reading.Asks.getType typed).bind fun t => .done _ _
  | doc => exact (Reading.Asks.getDoc e).bind fun t => .done _ _
  | implementation =>
    have shown : ∀ l now, Reading.Asks (.done [Piece.ofLocation p l]) now [] := fun l now =>
      .done _ now
    have asked := (Reading.Asks.getImplementation e).bind fun l => shown l _
    rw [List.append_nil] at asked
    rw [part?, apply_ite Option.toList]
    exact asked
  | _ => exact Reading.Asks.done _ e

end Directive

namespace Template

/-! ### What templates need -/

/-- The part that a token needs. -/
def Token.part? (keyword : Bool) : Token → Option Part
  | .literal _   => none
  | .directive d => d.part? keyword

/-- The parts that a template needs, in the order of its directives. -/
def parts (keyword : Bool) (ts : List Token) : List Part := ts.filterMap (Token.part? keyword)

lemma parts_directive_cons (keyword : Bool) (d : Directive) (ts : List Token) :
    parts keyword (.directive d :: ts) = (d.part? keyword).toList ++ parts keyword ts := by
  cases needed : d.part? keyword <;> simp [parts, Token.part?, needed]

lemma mem_parts_iff {keyword : Bool} {ts : List Token} {q : Part} :
    q ∈ parts keyword ts ↔ ∃ d, .directive d ∈ ts ∧ d.part? keyword = some q := by
  rw [parts, List.mem_filterMap]
  constructor
  · rintro ⟨_ | d, present, needed⟩
    · cases needed
    · exact ⟨d, present, needed⟩
  · rintro ⟨d, present, needed⟩
    exact ⟨.directive d, present, needed⟩

/-- A template asks for the parts that its directives need, in the order of the directives. -/
lemma asks_pieces (p : Presentation) {e : Entry} (typed : e.typeCell.outcome ≠ .ok none)
    (ts : List Token) : (pieces p ts).Asks e (parts e.isKeyword ts) := by
  induction ts generalizing e with
  | nil => exact .done [] e
  | cons token ts ih =>
    cases token with
    | literal t =>
      refine (Reading.Asks.done [Piece.plain t] e).bind fun first => ?_
      have asked := (ih typed).bind fun rest => .done (first ++ rest) _
      rwa [List.append_nil] at asked
    | directive d =>
      rw [parts_directive_cons]
      refine (Directive.asks_pieces p typed d).bind fun first => ?_
      -- the rest finds the entry with some cells asked, which is still of the same symbol
      have kept := e.askEach_keeps (d.part? e.isKeyword).toList
      rw [← kept.2] at typed
      have asked := (ih typed).bind fun rest => .done (first ++ rest) _
      rwa [kept.1, List.append_nil] at asked

lemma asks_render (p : Presentation) {e : Entry} (typed : e.typeCell.outcome ≠ .ok none)
    (ts : List Token) : (render p ts).Asks e (parts e.isKeyword ts) := by
  have asked := (asks_pieces p typed ts).bind fun ps => .done (plainText ps) _
  rwa [List.append_nil] at asked

/-- The entry `now` is what is left of `e` when all directives of a template were followed. -/
structure Computed (ts : List Token) (e now : Entry) : Prop where
  later : e.Later now
  type : now.typeCell.forced = true ↔
    e.typeCell.forced = true ∨ .directive .type ∈ ts ∨ .directive .summary ∈ ts
  doc : now.docCell.forced = true ↔ e.docCell.forced = true ∨ .directive .doc ∈ ts
  implementation : now.implCell.forced = true ↔
    e.implCell.forced = true ∨ .directive .implementation ∈ ts ∧ e.isKeyword = false

lemma computed_of_isForced {ts : List Token} {e now : Entry} (later : e.Later now)
    (h : ∀ q, now.isForced q = true ↔ e.isForced q = true ∨ q ∈ parts e.isKeyword ts) :
    Computed ts e now := by
  refine ⟨later, (h .type).trans (or_congr_right ?_), (h .doc).trans (or_congr_right ?_),
    (h .implementation).trans (or_congr_right ?_)⟩
  · simp [mem_parts_iff, Directive.part?_eq_type_iff, and_or_left, exists_or]
  · simp [mem_parts_iff, Directive.part?_eq_doc_iff]
  · simp only [mem_parts_iff, Directive.part?_eq_implementation_iff]
    constructor
    · rintro ⟨_, present, rfl, symbol⟩
      exact ⟨present, symbol⟩
    · rintro ⟨present, symbol⟩
      exact ⟨_, present, rfl, symbol⟩

/-- Where the parts of a template are cut, so is the template. -/
lemma exists_of_parts_eq {keyword : Bool} {ts : List Token} {front back : List Part} {q : Part}
    (h : parts keyword ts = front ++ q :: back) :
    ∃ us d vs, ts = us ++ .directive d :: vs ∧ parts keyword us = front ∧
      d.part? keyword = some q := by
  obtain ⟨us, ws, rfl, before, rest⟩ := List.filterMap_eq_append_iff.mp h
  obtain ⟨idle, token, vs, rfl, none, needed, -⟩ := List.filterMap_eq_cons_iff.mp rest
  cases token with
  | literal t => cases needed
  | directive d =>
    refine ⟨us ++ idle, d, vs, by simp, ?_, needed⟩
    have empty : parts keyword idle = [] := List.filterMap_eq_nil_iff.mpr none
    rw [parts, List.filterMap_append]
    exact (congrArg₂ _ before empty).trans (List.append_nil front)

/-- A directive whose part does not fail does not fail. -/
lemma not_failsOn_of_parts {e : Entry} {ts : List Token}
    (sound : ∀ q ∈ parts e.isKeyword ts, e.failure? q = none) (d : Directive) (f : Failure)
    (present : .directive d ∈ ts) : ¬ d.FailsOn e f := by
  intro fails
  obtain ⟨q, needed, failing⟩ := Directive.failsOn_iff.mp fails
  have none := sound q (mem_parts_iff.mpr ⟨d, present, needed⟩)
  cases failing.symm.trans none

section

variable (p : Presentation) {e : Entry} (typed : e.typeCell.outcome ≠ .ok none) {ts : List Token}

include typed

/-- A template that is rendered has had all its directives followed. -/
lemma computed_of_render_ok {t : Text} (given : ((render p ts).on e).1 = .ok t) :
    Computed ts e ((render p ts).on e).2 ∧ ∀ d f, .directive d ∈ ts → ¬ d.FailsOn e f := by
  have asked := asks_render p typed ts
  have whole : (e.askEach (parts e.isKeyword ts)).1 = none := by
    rw [← asked.failureOf_on, given]
    rfl
  obtain ⟨sound, forced⟩ := Entry.sound_of_askEach whole
  rw [← asked.snd_on] at forced
  exact ⟨computed_of_isForced ((render p ts).later_on e) forced, not_failsOn_of_parts sound⟩

/-- A template that fails has had its directives followed up to the one that fails. -/
lemma computed_of_render_error {f : Failure} (given : ((render p ts).on e).1 = .error f) :
    ∃ front d back, ts = front ++ .directive d :: back ∧ d.FailsOn e f ∧
      (∀ d' g, .directive d' ∈ front → ¬ d'.FailsOn e g) ∧
      Computed front e ((render p ts).on e).2 := by
  have asked := asks_render p typed ts
  have stopped : (e.askEach (parts e.isKeyword ts)).1 = some f := by
    rw [← asked.failureOf_on, given]
    rfl
  obtain ⟨front, q, back, cut, failing, sound, forced⟩ := Entry.exists_of_askEach stopped
  have later := (render p ts).later_on e
  rw [← asked.snd_on] at forced
  obtain ⟨us, d, vs, rfl, rfl, needed⟩ := exists_of_parts_eq cut
  exact ⟨us, d, vs, rfl, Directive.failsOn_iff.mpr ⟨q, needed, failing⟩,
    not_failsOn_of_parts sound, computed_of_isForced later forced⟩

end

/-! ### Letters that look like directives -/

/-- A text that only looks as if it had directives: what its percent signs are followed by is a
percent sign or the letter of no directive. -/
inductive Inert : Text → Prop
  | nil : Inert []
  | plain {c : Char} {s : Text} (h : c ≠ '%') : Inert s → Inert (c :: s)
  | percent {s : Text} : Inert s → Inert ('%' :: '%' :: s)
  | unknown {c : Char} {s : Text} (h : ∀ d : Directive, c ≠ d.letter) :
      Inert s → Inert ('%' :: c :: s)

lemma parts_consLiteral (keyword : Bool) (c : Char) (ts : List Token) :
    parts keyword (consLiteral c ts) = parts keyword ts := by
  cases ts with
  | nil => rfl
  | cons token ts => cases token <;> rfl

lemma parts_parse_cons (keyword : Bool) {c : Char} {r : Text}
    (inert : c = '%' → ∀ d : Directive, r.head? ≠ some d.letter) :
    parts keyword (parse (c :: r)) = parts keyword (parse r) := by
  rw [parse_cons inert, parts_consLiteral]

lemma Inert.parts_parse_append {s : Text} (h : Inert s) (keyword : Bool) (t : Text) :
    parts keyword (parse (s ++ t)) = parts keyword (parse t) := by
  induction h with
  | nil => rfl
  | plain other _ ih => exact (parts_parse_cons keyword fun same => absurd same other).trans ih
  | @percent s _ ih =>
    have read : parse ('%' :: '%' :: (s ++ t)) = .directive .percent :: parse (s ++ t) :=
      parse_directive_append .percent (s ++ t)
    rw [List.cons_append, List.cons_append, read, parts_directive_cons]
    exact ih
  | @unknown c s letter _ ih =>
    have first : parts keyword (parse ('%' :: c :: (s ++ t))) =
        parts keyword (parse (c :: (s ++ t))) := by
      apply parts_parse_cons
      rintro - d same
      exact letter d (Option.some.inj same)
    have second : parts keyword (parse (c :: (s ++ t))) = parts keyword (parse (s ++ t)) := by
      apply parts_parse_cons
      intro same
      exact absurd same (letter .percent)
    exact (first.trans second).trans ih

/-! ### Records -/

lemma asks_recordText {e : Entry} (typed : e.typeCell.outcome ≠ .ok none) :
    Sexp.recordText.Asks e [.type, .doc] := by
  have documented : ∀ now (write : Option Text → Text),
      (do return write (← Reading.getDoc) : Reading Text).Asks now [.doc] := fun now write =>
    (Reading.Asks.getDoc now).bind fun d => .done (write d) _
  refine (Reading.Asks.getOccurrence e).bind fun o => ?_
  exact (Reading.Asks.getType typed).bind fun t => documented _ _

/-- When a template is rendered, the cells that its directives need are computed, up to the first
that fails, and no others; letters that only look like directives ask for nothing. The record of an
entry asks for its type and then for its documentation, and never where it is implemented. -/
theorem render_computes (p : Presentation) (template : Text) (e : Entry)
    (typed : e.typeCell.outcome ≠ .ok none) :
    ((∃ t, ((render p (parse template)).on e).1 = .ok t ∧
        Computed (parse template) e ((render p (parse template)).on e).2 ∧
        ∀ d f, .directive d ∈ parse template → ¬ d.FailsOn e f) ∨
      ∃ front d back f, ((render p (parse template)).on e).1 = .error f ∧
        parse template = front ++ .directive d :: back ∧ d.FailsOn e f ∧
        (∀ d' g, .directive d' ∈ front → ¬ d'.FailsOn e g) ∧
        Computed front e ((render p (parse template)).on e).2) ∧
    (∀ s, Inert s →
      ((render p (parse (s ++ template))).on e).2 = ((render p (parse template)).on e).2) ∧
    Sexp.recordText.Asks e [.type, .doc] ∧ (Sexp.recordText.on e).2.implCell = e.implCell := by
  refine ⟨?_, ?_, asks_recordText typed, ?_⟩
  · cases given : ((render p (parse template)).on e).1 with
    | ok t =>
      left
      exact ⟨t, rfl, computed_of_render_ok p typed given⟩
    | error f =>
      right
      obtain ⟨front, d, back, stopped⟩ := computed_of_render_error p typed given
      exact ⟨front, d, back, f, rfl, stopped⟩
  · intro s inert
    have asked := asks_render p typed (parse (s ++ template))
    rw [inert.parts_parse_append] at asked
    rw [asked.snd_on, (asks_render p typed _).snd_on]
  · rw [(asks_recordText typed).snd_on]
    apply Entry.implCell_askEach
    simp

/-- An entry of which nothing is computed, and whose documentation never will be. -/
def tornEntry : Entry where
  path := ["Torn".toList]
  kind := ⟨.exception, none, rfl⟩
  artifact := []
  signature := none
  access := ["Torn".toList]
  path_ne_nil := List.cons_ne_nil _ _
  signature_keyword _ := rfl
  typeCell := .lazy fun _ => .ok (some "exn".toList)
  docCell := .lazy fun _ => .error (.raised "torn".toList)
  implCell := .lazy fun _ => .ok none

theorem render_computes_tornEntry :
    tornEntry.typeCell.outcome ≠ .ok none ∧
      (∃ front d back f,
        ((render ⟨false, none, 60⟩ (parse "%%t%x%i%d%l".toList)).on tornEntry).1 = .error f ∧
        parse "%%t%x%i%d%l".toList = front ++ .directive d :: back ∧ d.FailsOn tornEntry f ∧
        (∀ d' g, .directive d' ∈ front → ¬ d'.FailsOn tornEntry g) ∧
        Computed front tornEntry
          ((render ⟨false, none, 60⟩ (parse "%%t%x%i%d%l".toList)).on tornEntry).2) ∧
      ((render ⟨false, none, 60⟩ (parse "%%t%x%i%d%l".toList)).on tornEntry).2.forced
        = (true, false, false) := by
  have typed : tornEntry.typeCell.outcome ≠ .ok none := by
    rintro ⟨⟩
  refine ⟨typed, ?_, rfl⟩
  obtain ⟨t, rendered, -⟩ | stopped :=
    (render_computes ⟨false, none, 60⟩ "%%t%x%i%d%l".toList tornEntry typed).1
  · cases rendered
  · exact stopped

end Template

end SymbolIndex
