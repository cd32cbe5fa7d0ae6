import SymbolIndex.Proofs.Candidates.Located
import SymbolIndex.Proofs.Index.Validity
import SymbolIndex.Proofs.Session

/-!
# Keywords have no place

A keyword is declared nowhere, and nothing that is done with its entry brings a location to light:
both sides have none, templates show that there is none, locating passes over it, and its
implementation cell stays as it is, whatever it would give.
-/

namespace SymbolIndex

open List (Forall₂)

/-! ### What readings respect -/

/-- A relation between entries and what is left of them that holds over every reading. -/
structure Respected (R : Entry → Entry → Prop) : Prop where
  refl : ∀ e, R e e
  trans : ∀ e f g, R e f → R f g → R e g
  reads : ∀ {α : Type} (r : Reading α) (e : Entry), R e (r.on e).2

namespace Respected

variable {R : Entry → Entry → Prop} (h : Respected R)
include h

lemma all_refl (es : List Entry) : Forall₂ R es es := List.forall₂_same.mpr fun e _ => h.refl e

lemma all_trans {es fs gs : List Entry} (first : Forall₂ R es fs) (second : Forall₂ R fs gs) :
    Forall₂ R es gs :=
  forall₂_trans h.trans first second

lemma onEach {α : Type} (r : Reading α) (es : List Entry) : Forall₂ R es (r.onEach es).2 := by
  induction es with
  | nil => exact .nil
  | cons e es ih =>
    rw [Reading.onEach_cons]
    cases r.outcome e with
    | error f => exact .cons (h.reads r e) (h.all_refl es)
    | ok a => exact .cons (h.reads r e) ih

lemma sites (side : Side) (es : List Entry) : Forall₂ R es (SymbolIndex.sites side es).2 := by
  have asked := h.onEach (Reading.getLocation side) es
  rw [SymbolIndex.sites]
  generalize (Reading.getLocation side).onEach es = answer at asked ⊢
  obtain ⟨⟨ls, _ | f⟩, now⟩ := answer <;> exact asked

lemma locate (preferred : Side) (es : List Entry) :
    Forall₂ R es (SymbolIndex.locate preferred es).2 := by
  rw [locate_eq_locateFrom]
  have first := h.sites preferred es
  rcases (SymbolIndex.sites preferred es).1 with f | ls
  · exact first
  · rw [locateFrom]
    split
    · exact first
    · exact h.all_trans first (h.sites preferred.other _)

lemma recordLines (es : List Entry) : Forall₂ R es (Sexp.recordLines es).2 := by
  have asked := h.onEach Sexp.recordLine es
  rw [Sexp.recordLines]
  generalize Sexp.recordLine.onEach es = answer at asked ⊢
  obtain ⟨⟨ls, _ | f⟩, now⟩ := answer <;> exact asked

lemma printEntries (es : List Entry) : Forall₂ R es (Sexp.printEntries es).2 := by
  have asked := h.recordLines es
  rw [Sexp.printEntries]
  generalize Sexp.recordLines es = answer at asked ⊢
  obtain ⟨⟨ls, _ | f⟩, now⟩ := answer <;> exact asked

lemma lines (listing : Listing) (es : List Entry) : Forall₂ R es (listing.lines es).2 := by
  cases listing with
  | plain template p => exact h.onEach _ es
  | summary p => exact h.onEach _ es
  | sexp => exact h.recordLines es

lemma readAt {α : Type} (r : Reading α) (i : Nat) (es : List Entry) :
    Forall₂ R es (Session.readAt r i es).2 := by
  induction es generalizing i with
  | nil => simp [Session.readAt]
  | cons e es ih =>
    cases i with
    | zero =>
      rw [Session.readAt_zero]
      exact .cons (h.reads r e) (h.all_refl es)
    | succ i => exact .cons (h.refl e) (ih i)

lemma step (op : Operation) (es : List Entry) : Forall₂ R es (Session.step op es).2 := by
  cases op with
  | read i field => exact h.readAt field.read i es
  | render i p template => exact h.readAt (Template.render p template) i es
  | pieces i p template => exact h.readAt (Template.pieces p template) i es
  | styled i p template => exact h.readAt (Template.renderStyled p template) i es
  | list listing => exact h.lines listing es
  | print => exact h.printEntries es
  | select kinds => exact h.all_refl es
  | choose query rule => exact h.all_refl es
  | locate preferred => exact h.locate preferred es

lemma run (ops : List Operation) (es : List Entry) : Forall₂ R es (Session.run ops es).2 := by
  induction ops generalizing es with
  | nil => exact h.all_refl es
  | cons op ops ih => exact h.all_trans (h.step op es) (ih _)

end Respected

/-! ### Reading keywords -/

namespace Reading

variable {α : Type}

/-- No reading asks a keyword for its implementation. -/
lemma implCell_on (r : Reading α) {e : Entry} (keyword : e.isKeyword = true) :
    (r.on e).2.implCell = e.implCell := by
  induction r generalizing e with
  | done a => rfl
  | fail f => rfl
  | occurrence next ih => exact ih _ keyword
  | type next ih =>
    simp only [on]
    rcases e.typeCell.force with ⟨_ | t, cell⟩
    · rfl
    · exact ih t keyword
  | doc next ih =>
    simp only [on]
    rcases e.docCell.force with ⟨_ | d, cell⟩
    · rfl
    · exact ih d keyword
  | implementation next ih =>
    simp only [on, if_pos keyword]
    exact ih none keyword

lemma isKeyword_on (r : Reading α) {e : Entry} (keyword : e.isKeyword = true) :
    (r.on e).2.isKeyword = true := by
  rwa [← (r.later_on e).occurrence]

/-- Neither side of a keyword has a location, and asking for one computes nothing. -/
lemma getLocation_on_keyword {e : Entry} (keyword : e.isKeyword = true) (side : Side) :
    (getLocation side).on e = (.ok none, e) := by
  cases side with
  | interface =>
    have unplaced : e.signature = none := e.signature_keyword (of_decide_eq_true keyword)
    simp [getLocation, on, unplaced]
  | implementation => simp [getLocation, on, keyword]

end Reading

/-! ### Templates for keywords -/

namespace Template

/-- What a token stands for where there are no locations. -/
def Token.unplaced : Token → Token
  | .directive .implementation => .literal "<no location>".toList
  | .directive .signature      => .literal "<no location>".toList
  | t                          => t

variable {e : Entry} (keyword : e.isKeyword = true) (p : Presentation)
include keyword

lemma Token.pieces_on_keyword (t : Token) : (t.pieces p).on e = (t.unplaced.pieces p).on e := by
  have shown : ∀ side, (do return [Piece.ofLocation p (← Reading.getLocation side)]).on e
      = (.ok [Piece.plain "<no location>".toList], e) := by
    intro side
    rw [Reading.on_bind, Reading.getLocation_on_keyword keyword]
    rfl
  cases t with
  | literal t => rfl
  | directive d =>
    cases d with
    | implementation => exact shown .implementation
    | signature => exact shown .interface
    | _ => rfl

lemma pieces_on_keyword (ts : List Token) :
    (pieces p ts).on e = (pieces p (ts.map Token.unplaced)).on e := by
  induction ts generalizing e with
  | nil => rfl
  | cons t ts ih =>
    simp only [pieces, List.map_cons, Reading.on_bind, t.pieces_on_keyword keyword p]
    have still := Reading.isKeyword_on (t.unplaced.pieces p) keyword
    generalize (t.unplaced.pieces p).on e = answer at still ⊢
    obtain ⟨_ | first, now⟩ := answer
    · rfl
    · simp only [ih still]

end Template

/-! ### Locating keywords -/

/-- None of the sites belongs to a keyword. -/
def PassOver (es : List Entry) (sites : List (Option Location)) : Prop :=
  Forall₂ (fun e site => e.isKeyword = true → site = none) es sites

lemma passOver_of_later {es fs : List Entry} {ls : List (Option Location)}
    (later : Forall₂ Entry.Later es fs) : PassOver es ls ↔ PassOver fs ls := by
  induction later generalizing ls with
  | nil => rfl
  | cons head _ ih =>
    cases ls with
    | nil => simp [PassOver]
    | cons l ls =>
      simp only [PassOver, List.forall₂_cons, head.occurrence] at ih ⊢
      rw [ih]

lemma Reading.forall₂_of_onEach {α : Type} {r : Reading α} {es now : List Entry} {as : List α}
    (h : r.onEach es = ((as, none), now)) : Forall₂ (fun e a => r.outcome e = .ok a) es as := by
  induction es generalizing as now with
  | nil =>
    cases h
    exact .nil
  | cons e es ih =>
    rw [onEach_cons] at h
    cases given : r.outcome e with
    | error f =>
      rw [given] at h
      cases h
    | ok a =>
      simp only [given, Prod.mk.injEq] at h
      obtain ⟨⟨rfl, none⟩, -⟩ := h
      exact .cons given (ih (Prod.ext (Prod.ext rfl none) rfl))

lemma passOver_of_sites {side : Side} {es : List Entry} {ls : List (Option Location)}
    (h : (sites side es).1 = .ok ls) : PassOver es ls := by
  have asked : ∃ now, (Reading.getLocation side).onEach es = ((ls, none), now) := by
    rw [sites] at h
    generalize (Reading.getLocation side).onEach es = answer at h ⊢
    obtain ⟨⟨as, _ | f⟩, now⟩ := answer
    · cases h
      exact ⟨now, rfl⟩
    · cases h
  obtain ⟨now, asked⟩ := asked
  apply (Reading.forall₂_of_onEach asked).imp
  intro e site given keyword
  rw [← Reading.on_fst, Reading.getLocation_on_keyword keyword] at given
  exact (Except.ok.inj given).symm

lemma passOver_of_locate {preferred : Side} {es : List Entry} {l : Located}
    (h : (locate preferred es).1 = .ok l) : PassOver es l.sites := by
  rw [locate_eq_locateFrom] at h
  cases first : (sites preferred es).1 with
  | error f =>
    rw [first] at h
    cases h
  | ok ls =>
    have here := passOver_of_sites first
    rw [first, locateFrom] at h
    split at h
    · cases h
      exact here
    · have again : (sites preferred.other (sites preferred es).2).1 = (sites preferred.other es).1 :=
        (oblivious_sites preferred.other).answer_of_later ((oblivious_sites preferred).later es)
      simp only [again] at h
      obtain ⟨others, second, rfl⟩ := map_eq_ok_iff.mp h
      rw [fallback]
      split
      · exact passOver_of_sites second
      · exact here

lemma not_isKeyword_of_mem_hits {es : List Entry} {l : Located} (passed : PassOver es l.sites) :
    ∀ h ∈ l.hits es, h.1.isKeyword = false := by
  intro h hh
  obtain ⟨⟨e, site⟩, mem, shown⟩ := List.mem_filterMap.mp hh
  obtain ⟨place, placed, rfl⟩ := Option.map_eq_some_iff.mp shown
  rw [Bool.eq_false_iff]
  intro keyword
  have unplaced := (List.forall₂_iff_zip.mp passed).2 mem keyword
  cases placed.symm.trans unplaced

/-! ### Keywords in sessions -/

namespace Entry

/-- No location of the entry is to be had: neither side has one, no template shows one, and nothing
is computed when they are asked for. -/
structure Placeless (e : Entry) : Prop where
  location : ∀ side, (Reading.getLocation side).on e = (.ok none, e)
  pieces : ∀ p ts, (Template.pieces p ts).on e
    = (Template.pieces p (ts.map Template.Token.unplaced)).on e
  text : ∀ p ts, (Template.render p ts).on e
    = (Template.render p (ts.map Template.Token.unplaced)).on e
  styled : ∀ p ts, (Template.renderStyled p ts).on e
    = (Template.renderStyled p (ts.map Template.Token.unplaced)).on e
  line : ∀ p ts, (Listing.templateLine p ts).on e
    = (Listing.templateLine p (ts.map Template.Token.unplaced)).on e

lemma placeless_of_isKeyword {e : Entry} (keyword : e.isKeyword = true) : e.Placeless where
  location := Reading.getLocation_on_keyword keyword
  pieces := Template.pieces_on_keyword keyword
  text p ts := by
    simp only [Template.render, Reading.on_bind, Template.pieces_on_keyword keyword p ts]
  styled p ts := by
    simp only [Template.renderStyled, Reading.on_bind, Template.pieces_on_keyword keyword p ts]
  line p ts := by
    simp only [Listing.templateLine, Template.render, Reading.on_bind,
      Template.pieces_on_keyword keyword p ts]

/-- If `e` is of a keyword, `f` is of the same keyword, its implementation was not asked for, and
its locations are not to be had. -/
def StaysPlaceless (e f : Entry) : Prop :=
  e.isKeyword = true → f.toOccurrence = e.toOccurrence ∧ f.implCell = e.implCell ∧ f.Placeless

lemma respected_staysPlaceless : Respected StaysPlaceless where
  refl e keyword := ⟨rfl, rfl, placeless_of_isKeyword keyword⟩
  trans e f g first second keyword := by
    obtain ⟨occurrence, cell, -⟩ := first keyword
    obtain ⟨occurrence', cell', placeless⟩ := second (by rwa [occurrence])
    exact ⟨occurrence'.trans occurrence, cell'.trans cell, placeless⟩
  reads r e keyword := by
    refine ⟨(r.later_on e).occurrence.symm, r.implCell_on keyword, ?_⟩
    exact placeless_of_isKeyword (r.isKeyword_on keyword)

end Entry

namespace Index

lemma unplaced_of_mem {idx : Index} {query : Text} {e : Entry}
    (h : e ∈ idx.lookup query ++ idx.complete query) (keyword : e.isKeyword = true) :
    e.signature = none ∧ e.implCell.outcome = .ok none := by
  refine ⟨e.signature_keyword (of_decide_eq_true keyword), ?_⟩
  have fromSymbol : ∀ (s : Symbol) (scope : Scope), (s.entry scope).isKeyword = true →
      (s.entry scope).implCell.outcome = .ok none := by
    intro s scope keyword
    have tag : s.kind.tag = .keyword := of_decide_eq_true keyword
    simp only [Symbol.entry, if_pos tag]
    rfl
  rcases List.mem_append.mp h with h | h
  · rw [lookup_eq_map_found] at h
    obtain ⟨k, -, rfl⟩ := List.mem_map.mp h
    exact fromSymbol _ _ keyword
  · rcases mem_complete h with ⟨k, -, rfl⟩ | ⟨keyword, -, rfl⟩
    · exact fromSymbol _ _ keyword
    · rfl

end Index

/-- The entry of a keyword is made without a location, by hand or by an index whatever the file
states. Whatever is done with entries then, those of keywords stay placeless, their implementation
cells are as they were, and locating passes over them. -/
theorem keywords_placeless :
    (∀ path artifact location access, ∃ f,
      Occurrence.make? path .keyword artifact (some location) access = .error f) ∧
    (∀ file opened idx, Index.build file opened = .ok idx →
      ∀ query, ∀ e ∈ idx.lookup query ++ idx.complete query, e.isKeyword = true →
        e.signature = none ∧ e.implCell.outcome = .ok none) ∧
    ∀ (es : List Entry) (ops : List Operation),
      Forall₂ Entry.StaysPlaceless es (Session.run ops es).2 ∧
        ∀ preferred l now, locate preferred (Session.run ops es).2 = (.ok l, now) →
          PassOver es l.sites ∧ ∀ h ∈ l.hits now, h.1.isKeyword = false := by
  refine ⟨?_, ?_, ?_⟩
  · intro path artifact location access
    have placed : ¬ (Kind.keyword.tag = .keyword → some location = none) := by simp [Kind.keyword]
    by_cases named : path = []
    · exact ⟨.emptyPath, dif_neg (not_not_intro named)⟩
    · exact ⟨.keywordLocated, (dif_pos named).trans (dif_neg placed)⟩
  · intro file opened idx _ query e he keyword
    exact Index.unplaced_of_mem he keyword
  · intro es ops
    refine ⟨Entry.respected_staysPlaceless.run ops es, ?_⟩
    intro preferred l now located
    have passed := passOver_of_locate (congrArg Prod.fst located)
    have later := (oblivious_locate preferred).later (Session.run ops es).2
    rw [located] at later
    exact ⟨(passOver_of_later (Session.later_run ops es)).mpr passed,
      not_isKeyword_of_mem_hits ((passOver_of_later later).mp passed)⟩

/-- A keyword whose implementation would fail, in front of an entry that has one. -/
def lockedEntries : List Entry :=
  [{ Symbol.keywordEntry "if".toList with implCell := .lazy fun _ => .error (.raised "lost".toList) },
    Session.patchyEntry]

/-- Operations that ask for locations in all ways that there are. -/
def lockedOperations : List Operation :=
  [.render 0 ⟨false, none, 0⟩ (Template.parse "%l %s".toList), .read 0 (.location .implementation),
    .list (.plain (Template.parse "%l".toList) ⟨false, none, 0⟩), .locate .interface]

theorem keywords_placeless_lockedEntries :
    (∃ idx, Index.build Index.keywordFile [] = .ok idx ∧
      (idx.lookup "let".toList).map (·.isKeyword) = [true] ∧
      ∀ e ∈ idx.lookup "let".toList ++ idx.complete "let".toList, e.isKeyword = true →
        e.signature = none ∧ e.implCell.outcome = .ok none) ∧
    (Session.run lockedOperations lockedEntries).2.map (·.implCell.runs) = [0, 0] ∧
    Forall₂ Entry.StaysPlaceless lockedEntries (Session.run lockedOperations lockedEntries).2 ∧
    ∃ l now, locate .interface (Session.run lockedOperations lockedEntries).2 = (.ok l, now) ∧
      l.sites = [none, some ⟨"f".toList, 1, 0⟩] ∧ PassOver lockedEntries l.sites ∧
      ∀ h ∈ l.hits now, h.1.isKeyword = false := by
  obtain ⟨-, indexed, session⟩ := keywords_placeless
  obtain ⟨stay, located⟩ := session lockedEntries lockedOperations
  obtain ⟨idx, built, keyword⟩ : ∃ idx, Index.build Index.keywordFile [] = .ok idx ∧
      (idx.lookup "let".toList).map (·.isKeyword) = [true] := ⟨_, rfl, by decide⟩
  obtain ⟨l, now, answer, sites⟩ : ∃ l now,
      locate .interface (Session.run lockedOperations lockedEntries).2 = (.ok l, now) ∧
        l.sites = [none, some ⟨"f".toList, 1, 0⟩] := ⟨_, _, rfl, by decide⟩
  exact ⟨⟨idx, built, keyword, indexed _ _ idx built _⟩, by decide, stay, l, now, answer, sites,
    located _ l now answer⟩

end SymbolIndex
