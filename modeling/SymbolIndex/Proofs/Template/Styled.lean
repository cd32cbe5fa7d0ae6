import Mathlib.Data.List.Forall2
import SymbolIndex.Proofs.Listing
import SymbolIndex.Proofs.Template.Shown

/-!
# Styled templates

The styled text of a template is its plain text without the five control characters, and its spans
are the written forms of the kind: one for each directive that shows the kind, in order and apart.
-/

namespace SymbolIndex

/-! ### Pieces of styled text -/

lemma Text.withoutControls_append (s t : Text) :
    withoutControls (s ++ t) = s.withoutControls ++ t.withoutControls :=
  List.filter_append s t

/-- The stretch of `t` that a span covers. -/
def Span.slice (s : Span) (t : Text) : Text := (t.drop s.start).take (s.stop - s.start)

namespace StyledText

lemma plain_append (s : StyledText) (t : Text) (style : Option Style) :
    (s.append t style).plain = s.plain ++ t.withoutControls := by
  cases t with
  | nil => simp [append, Text.withoutControls]
  | cons c t => rfl

lemma spans_append_none (s : StyledText) (t : Text) : (s.append t none).spans = s.spans := by
  cases t <;> simp [append]

lemma spans_append_some (s : StyledText) {t : Text} (full : t ≠ []) (style : Style) :
    (s.append t (some style)).spans =
      s.spans ++ [⟨s.plain.length, s.plain.length + t.withoutControls.length, style⟩] := by
  cases t with
  | nil => exact absurd rfl full
  | cons c t => rfl

end StyledText

namespace Template

/-- A styled text with more pieces at its end. -/
def extend (color : Bool) (s : StyledText) (ps : List Piece) : StyledText :=
  ps.foldl (fun s piece => s.append piece.text (styleOf color piece)) s

lemma styledText_append (color : Bool) (ps qs : List Piece) :
    styledText color (ps ++ qs) = extend color (styledText color ps) qs :=
  List.foldl_append

lemma plain_extend (color : Bool) (s : StyledText) (ps : List Piece) :
    (extend color s ps).plain = s.plain ++ (plainText ps).withoutControls := by
  induction ps generalizing s with
  | nil => simp [extend, plainText, Text.withoutControls]
  | cons piece ps ih =>
    have rest := ih (s.append piece.text (styleOf color piece))
    rw [StyledText.plain_append, List.append_assoc, ← Text.withoutControls_append] at rest
    exact rest

lemma plain_styledText (color : Bool) (ps : List Piece) :
    (styledText color ps).plain = (plainText ps).withoutControls :=
  plain_extend color .empty ps

lemma spans_extend_of_unstyled {color : Bool} {ps : List Piece}
    (h : ∀ piece ∈ ps, styleOf color piece = none) (s : StyledText) :
    (extend color s ps).spans = s.spans := by
  induction ps generalizing s with
  | nil => rfl
  | cons piece ps ih =>
    obtain ⟨first, others⟩ := List.forall_mem_cons.mp h
    have rest := ih others (s.append piece.text (styleOf color piece))
    rw [first, StyledText.spans_append_none, ← first] at rest
    exact rest

/-- No piece is the written form of a kind. -/
def Kindless (ps : List Piece) : Prop := ∀ piece ∈ ps, piece.kind = none

lemma Kindless.unstyled {ps : List Piece} (h : Kindless ps) (color : Bool) :
    ∀ piece ∈ ps, styleOf color piece = none := by
  intro piece mem
  simp [styleOf, h piece mem]

end Template

lemma Kind.clean_ne_nil (k : Kind) : k.toText.withoutControls ≠ [] := by
  have named : ∀ tag : Kind.Tag, tag.name.withoutControls ≠ [] := by
    intro tag
    cases tag <;> decide
  cases owner : k.owner with
  | none => simpa [Kind.toText, owner] using named k.tag
  | some o => simp [Kind.toText, owner, Text.withoutControls_append, named k.tag]

namespace Template

/-! ### Tokens that show the kind -/

/-- The token shows the kind of the entry. -/
def Token.showsKind : Token → Bool
  | .directive .kind | .directive .summary => true
  | _                                      => false

/-- What a token shows before the kind. -/
def Token.lead (o : Occurrence) : Token → Text
  | .directive .summary => o.qualified ++ [' ']
  | _                   => []

section

variable {p : Presentation} {e : Entry} {token : Token} {ps : List Piece}

lemma kindless_singleton {piece : Piece} (h : piece.kind = none) : Kindless [piece] :=
  List.forall_mem_singleton.mpr h

lemma kindless_of_bind {α : Type} {r : Reading α} {f : α → Piece} (h : ∀ a, (f a).kind = none)
    (given : (r >>= fun a => .done [f a]).outcome e = .ok ps) : Kindless ps := by
  rw [Reading.outcome_bind] at given
  obtain ⟨a, -, made⟩ := bind_eq_ok_iff.mp given
  cases made
  exact kindless_singleton (h a)

lemma kind_ofLocation (p : Presentation) (l : Option Location) :
    (Piece.ofLocation p l).kind = none := by
  cases l <;> rfl

lemma kindless_of_pieces (hidden : token.showsKind = false)
    (given : (token.pieces p).outcome e = .ok ps) : Kindless ps := by
  cases token with
  | literal t =>
    cases given
    exact kindless_singleton rfl
  | directive d =>
    cases d with
    | kind | summary => cases hidden
    | implementation | signature => exact kindless_of_bind (kind_ofLocation p) given
    | percent =>
      cases given
      exact kindless_singleton rfl
    | _ => exact kindless_of_bind (fun _ => rfl) given

lemma exists_pieces_of_showsKind (shows : token.showsKind = true)
    (given : (token.pieces p).outcome e = .ok ps) :
    ∃ before after, ps = before ++ .ofKind e.kind :: after ∧ Kindless before ∧ Kindless after ∧
      plainText before = token.lead e.toOccurrence := by
  cases token with
  | literal t => cases shows
  | directive d =>
    cases d with
    | kind =>
      cases given
      exact ⟨[], [], rfl, List.forall_mem_nil _, List.forall_mem_nil _, rfl⟩
    | summary =>
      simp only [Token.pieces, Directive.pieces, Directive.summaryPieces, Reading.outcome_bind]
        at given
      obtain ⟨o, known, given⟩ := bind_eq_ok_iff.mp given
      obtain ⟨type, -, given⟩ := bind_eq_ok_iff.mp given
      cases known
      cases given
      have lead : Kindless [.plain e.qualified, .plain [' ']] := by simp [Kindless, Piece.plain]
      have text : plainText [.plain e.qualified, .plain [' ']] = e.qualified ++ [' '] := by
        simp [plainText, Piece.plain]
      split
      · exact ⟨_, [], rfl, lead, List.forall_mem_nil _, text⟩
      · exact ⟨_, [.plain (' ' :: _)], rfl, lead, kindless_singleton rfl, text⟩
    | _ => cases shows

lemma pieces_concat (p : Presentation) (ts : List Token) (token : Token) :
    pieces p (ts ++ [token]) = do
      let ps ← pieces p ts
      let new ← token.pieces p
      return ps ++ new := by
  induction ts with
  | nil => simp [pieces]
  | cons first ts ih => simp [pieces, ih]

lemma exists_of_pieces_concat {ts : List Token}
    (given : (pieces p (ts ++ [token])).outcome e = .ok ps) :
    ∃ before new, (pieces p ts).outcome e = .ok before ∧ (token.pieces p).outcome e = .ok new ∧
      ps = before ++ new := by
  rw [pieces_concat, Reading.outcome_bind] at given
  obtain ⟨before, first, given⟩ := bind_eq_ok_iff.mp given
  rw [Reading.outcome_bind] at given
  obtain ⟨new, last, given⟩ := bind_eq_ok_iff.mp given
  cases given
  exact ⟨before, new, first, last, rfl⟩

end

/-! ### Spans -/

/-- The span covers the written form of a kind, in the style of the kind. -/
structure Marks (k : Kind) (t : Text) (span : Span) : Prop where
  start_lt_stop : span.start < span.stop
  stop_le : span.stop ≤ t.length
  slice : span.slice t = k.toText.withoutControls
  style : span.style = k.tag.style

/-- Among the spans is the one of the token that follows `front`: as many stand before it as tokens
of `front` show the kind, and what stands before it in the text is shown by `front` and by the token
itself. -/
def Placed (p : Presentation) (e : Entry) (s : StyledText) (front : List Token) (token : Token) :
    Prop :=
  ∃ t span, ((render p front).on e).1 = .ok t ∧
    s.spans[front.countP Token.showsKind]? = some span ∧
    s.plain.take span.start = (t ++ token.lead e.toOccurrence).withoutControls

/-- The spans of a styled text are one for each token that shows the kind, in their order and
apart. -/
structure Marked (p : Presentation) (e : Entry) (ts : List Token) (s : StyledText) : Prop where
  count : s.spans.length = ts.countP Token.showsKind
  ascending : s.spans.Pairwise fun span later => span.stop ≤ later.start
  marks : ∀ span ∈ s.spans, Marks e.kind s.plain span
  placed : ∀ front token back, ts = front ++ token :: back → token.showsKind = true →
    Placed p e s front token

lemma Marks.append {k : Kind} {t : Text} {span : Span} (h : Marks k t span) (more : Text) :
    Marks k (t ++ more) span := by
  have start := h.start_lt_stop
  have stop := h.stop_le
  refine ⟨start, ?_, ?_, h.style⟩
  · rw [List.length_append]
    omega
  · have inside : span.stop - span.start ≤ (t.drop span.start).length := by
      rw [List.length_drop]
      omega
    rw [Span.slice, List.drop_append_of_le_length (start.le.trans stop),
      List.take_append_of_le_length inside]
    exact h.slice

section

variable {p : Presentation} {e : Entry} {ts : List Token} {token : Token} {s s' : StyledText}

/-- What is put at the end of a text moves no span. -/
lemma Placed.grow {front : List Token} (h : Placed p e s front token)
    (marks : ∀ span ∈ s.spans, Marks e.kind s.plain span) {more : Text} {added : List Span}
    (text : s'.plain = s.plain ++ more) (spans : s'.spans = s.spans ++ added) :
    Placed p e s' front token := by
  obtain ⟨t, span, rendered, found, before⟩ := h
  refine ⟨t, span, rendered, ?_, ?_⟩
  · obtain ⟨inside, -⟩ := List.getElem?_eq_some_iff.mp found
    rw [spans, List.getElem?_append_left inside, found]
  · have mark := marks span (List.mem_of_getElem? found)
    rw [text, List.take_append_of_le_length (mark.start_lt_stop.le.trans mark.stop_le), before]

/-- One more token: it adds a span behind all others if it shows the kind. -/
lemma Marked.snoc (h : Marked p e ts s) (added : Option Span) {more : Text}
    (text : s'.plain = s.plain ++ more) (spans : s'.spans = s.spans ++ added.toList)
    (count : added.isSome = token.showsKind)
    (new : ∀ span ∈ added, s.plain.length ≤ span.start ∧ Marks e.kind s'.plain span)
    (last : token.showsKind = true → Placed p e s' ts token) : Marked p e (ts ++ [token]) s' where
  count := by
    rw [spans, List.length_append, List.countP_append, h.count, List.countP_singleton, ← count]
    cases added <;> rfl
  ascending := by
    rw [spans, List.pairwise_append]
    refine ⟨h.ascending, by cases added <;> simp, ?_⟩
    intro span mem later added
    have := (h.marks span mem).stop_le
    have := (new later (Option.mem_toList.mp added)).1
    omega
  marks span mem := by
    rw [spans, List.mem_append] at mem
    rcases mem with old | added
    · rw [text]
      exact (h.marks span old).append more
    · exact (new span (Option.mem_toList.mp added)).2
  placed front shown back parts shows := by
    obtain rfl | ⟨back, final, rfl⟩ := back.eq_nil_or_concat'
    · obtain ⟨rfl, same⟩ := List.append_inj' parts rfl
      cases same
      exact last shows
    · rw [← List.cons_append, ← List.append_assoc] at parts
      obtain ⟨rfl, -⟩ := List.append_inj' parts rfl
      exact (h.placed front shown back rfl shows).grow h.marks text spans

/-- Pieces among which one is the written form of a kind add the span of that piece. -/
lemma spans_extend_kind {before after : List Piece} (hb : Kindless before) (ha : Kindless after)
    (k : Kind) (s : StyledText) :
    (extend true s (before ++ .ofKind k :: after)).spans =
      s.spans ++ [⟨(s.plain ++ (plainText before).withoutControls).length,
        (s.plain ++ (plainText before).withoutControls).length + k.toText.withoutControls.length,
        k.tag.style⟩] := by
  have full : k.toText ≠ [] := by
    intro empty
    exact k.clean_ne_nil (by rw [empty]; rfl)
  have parts : extend true s (before ++ .ofKind k :: after) =
      extend true ((extend true s before).append k.toText (some k.tag.style)) after :=
    List.foldl_append
  rw [parts, spans_extend_of_unstyled (ha.unstyled true), StyledText.spans_append_some _ full,
    spans_extend_of_unstyled (hb.unstyled true), plain_extend]

lemma marks_append (k : Kind) (t rest : Text) :
    Marks k (t ++ (k.toText.withoutControls ++ rest))
      ⟨t.length, t.length + k.toText.withoutControls.length, k.tag.style⟩ where
  start_lt_stop := Nat.lt_add_of_pos_right (List.length_pos_iff.mpr k.clean_ne_nil)
  stop_le := by
    simp only [List.length_append]
    omega
  slice := by simp [Span.slice]
  style := rfl

/-- Every token of a template leaves its span, and no other. -/
lemma marked_styledText {ps : List Piece} (given : (pieces p ts).outcome e = .ok ps) :
    Marked p e ts (styledText true ps) := by
  -- from the last token on: it puts its span behind those that are there
  induction ts using List.reverseRecOn generalizing ps with
  | nil =>
    cases given
    refine ⟨rfl, .nil, List.forall_mem_nil _, ?_⟩
    intro front token back parts
    simp at parts
  | append_singleton ts token ih =>
    obtain ⟨before, new, first, last, rfl⟩ := exists_of_pieces_concat given
    have text := plain_extend true (styledText true before) new
    rw [styledText_append]
    cases shows : token.showsKind with
    | false =>
      have spans := spans_extend_of_unstyled ((kindless_of_pieces shows last).unstyled true)
        (styledText true before)
      rw [← List.append_nil (styledText true before).spans] at spans
      refine (ih first).snoc none text spans shows.symm ?_ ?_
      · rintro span ⟨⟩
      · intro shown
        cases shows.symm.trans shown
    | true =>
      obtain ⟨front, after, rfl, hf, ha, lead⟩ := exists_pieces_of_showsKind shows last
      -- the text up to the kind, the kind, and the rest of what the token shows
      generalize cut : (styledText true before).plain ++ (plainText front).withoutControls = upTo
      have whole : (extend true (styledText true before) (front ++ .ofKind e.kind :: after)).plain =
          upTo ++ (e.kind.toText.withoutControls ++ (plainText after).withoutControls) := by
        rw [text, ← cut]
        simp [plainText, Text.withoutControls_append, Piece.ofKind]
      have spans := spans_extend_kind hf ha e.kind (styledText true before)
      rw [cut] at spans
      refine (ih first).snoc (some _) text spans shows.symm ?_ ?_
      · rintro span ⟨⟩
        rw [whole]
        refine ⟨?_, marks_append e.kind upTo _⟩
        simp [← cut]
      · intro _
        refine ⟨plainText before, ⟨upTo.length, upTo.length + e.kind.toText.withoutControls.length,
          e.kind.tag.style⟩, render_of_pieces first, ?_, ?_⟩
        · rw [spans, ← (ih first).count, List.getElem?_concat_length]
        · rw [whole, List.take_left, ← cut, plain_styledText, lead, Text.withoutControls_append]

end

/-! ### Styled and plain -/

section

variable (color : Bool) (p : Presentation) {e : Entry} {ts : List Token} {ps : List Piece}

/-- What tokens stand for does not depend on styles. -/
lemma pieces_recolor : pieces { p with color } ts = pieces p ts := by
  have same : ∀ token : Token, token.pieces { p with color } = token.pieces p := by
    intro token
    cases token with
    | literal t => rfl
    | directive d => cases d <;> rfl
  induction ts with
  | nil => rfl
  | cons token ts ih => rw [pieces, pieces, same, ih]

lemma renderStyled_recolor :
    renderStyled { p with color } ts = styledText color <$> pieces p ts := by
  rw [renderStyled, pieces_recolor, bind_pure_comp]

lemma renderStyled_outcome (given : (pieces p ts).outcome e = .ok ps) :
    ((renderStyled { p with color } ts).on e).1 = .ok (styledText color ps) := by
  rw [Reading.on_fst, renderStyled, pieces_recolor, Reading.outcome_bind_of_ok given]
  rfl

lemma spans_unstyled (ps : List Piece) : (styledText false ps).spans = [] :=
  spans_extend_of_unstyled (fun _ _ => rfl) .empty

end

end Template

/-- The first line is styled, and its text is that of the second without the control characters. -/
def Line.Restyles : Line → Line → Prop
  | .styled s, .plain t => s.plain = t.withoutControls
  | _, _                => False

namespace Listing

open Template (parse pieces render renderStyled plainText styledText)

section

variable (p : Presentation) (es : List Entry)

lemma lines_summary_styled :
    (Listing.summary { p with color := true }).lines es =
      ((fun ps => .styled (styledText true ps)) <$> pieces p summaryTemplate).onEach es := by
  rw [lines, summaryLine, if_pos rfl, Template.renderStyled_recolor]
  simp only [pure_bind, bind_assoc, ← bind_pure_comp]

lemma lines_summary_plain :
    (Listing.summary { p with color := false }).lines es =
      ((fun ps => .plain (plainText ps)) <$> pieces p summaryTemplate).onEach es := by
  rw [lines, summaryLine, if_neg Bool.false_ne_true, templateLine, render, Template.pieces_recolor]
  simp only [pure_bind, bind_assoc, ← bind_pure_comp]

/-- Summaries with styles and without have the same texts and stop at the same failure. -/
lemma lines_summary_restyled :
    ∃ styled plain failure now,
      (Listing.summary { p with color := true }).lines es = ((styled, failure), now) ∧
      (Listing.summary { p with color := false }).lines es = ((plain, failure), now) ∧
      List.Forall₂ Line.Restyles styled plain := by
  rw [lines_summary_styled, lines_summary_plain, Reading.onEach_map, Reading.onEach_map]
  refine ⟨_, _, _, _, rfl, rfl, ?_⟩
  rw [List.forall₂_map_left_iff, List.forall₂_map_right_iff, List.forall₂_same]
  exact fun ps _ => Template.plain_styledText true ps

end

end Listing

namespace Template

/-- Where the cells that a template needs give what they are asked for, the styled text of the
template is its plain text without the control characters, with a span for each directive that shows
the kind; without colors it has no spans. Summaries agree in the same way, line by line. -/
theorem styled_agrees_plain (p : Presentation) :
    (∀ (e : Entry) (template : Text), (∀ d, .directive d ∈ parse template → d.Answered e) →
      ∃ t s, e.shown p template = .ok t ∧
        ((renderStyled { p with color := true } (parse template)).on e).1 = .ok s ∧
        s.plain = t.withoutControls ∧ Marked p e (parse template) s ∧
        ((renderStyled { p with color := false } (parse template)).on e).1 =
          .ok ⟨t.withoutControls, []⟩) ∧
    ∀ es : List Entry, ∃ styled plain failure now,
      (Listing.summary { p with color := true }).lines es = ((styled, failure), now) ∧
      (Listing.summary { p with color := false }).lines es = ((plain, failure), now) ∧
      List.Forall₂ Line.Restyles styled plain := by
  refine ⟨?_, Listing.lines_summary_restyled p⟩
  intro e template answered
  obtain ⟨ps, given⟩ := succeeds_pieces p answered
  refine ⟨plainText ps, styledText true ps, render_of_pieces given, renderStyled_outcome true p given,
    plain_styledText true ps, marked_styledText given, ?_⟩
  rw [renderStyled_outcome false p given, ← plain_styledText false ps, ← spans_unstyled ps]

/-- A constructor of a type whose name rings the bell. -/
def bellConstructor : Entry where
  path := ["M".toList, "A".toList]
  kind := ⟨.constructor, some ['t', Char.ofNat 7], rfl⟩
  artifact := "m.cmi".toList
  signature := none
  access := ["M".toList, "A".toList]
  path_ne_nil := List.cons_ne_nil _ _
  signature_keyword := nofun
  typeCell := .lazy fun _ => .ok (some "int ->\r t".toList)
  docCell := .lazy fun _ => .error (.raised "no comment".toList)
  implCell := .lazy fun _ => .error (.raised "no location".toList)

theorem styled_agrees_plain_bellConstructor :
    (∀ d, .directive d ∈ parse "%k\r%i".toList → d.Answered bellConstructor) ∧
      Marked ⟨true, none, 60⟩ bellConstructor
        [.directive .kind, .literal ['\r'], .directive .summary]
        ⟨"constr(t)M.A constr(t) int -> t".toList, [⟨0, 9, .yellow⟩, ⟨13, 22, .yellow⟩]⟩ := by
  have answered : ∀ d, .directive d ∈ parse "%k\r%i".toList → d.Answered bellConstructor := by
    have tokens : parse "%k\r%i".toList =
        [.directive .kind, .literal ['\r'], .directive .summary] := rfl
    intro d mem
    rw [tokens] at mem
    cases d with
    | doc | implementation => simp at mem
    | type | summary => exact ⟨_, rfl⟩
    | _ => trivial
  obtain ⟨t, s, -, styled, -, marked, -⟩ :=
    (styled_agrees_plain ⟨true, none, 60⟩).1 bellConstructor "%k\r%i".toList answered
  cases styled
  exact ⟨answered, marked⟩

end Template

end SymbolIndex
