import Mathlib.Data.List.Forall2
import Mathlib.Tactic.SplitIfs
import SymbolIndex.Catalogue
import SymbolIndex.Proofs.Entry.Outcome

/-!
# Where candidates are

`Entry.site` is the location that an entry has on a side, whether it is computed or not. Candidates
whose implementations do not fail are located on the preferred side unless all their locations are
on the other one, and the cells that this computes are none, if they are found in the interface at
once, and else those of all candidates but the keywords.
-/

namespace SymbolIndex

open List (Forall₂)

namespace Entry

/-- The location that an entry has on a side. -/
def site (e : Entry) : Side → Option Location
  | .interface      => e.signature
  | .implementation => if e.isKeyword then none else e.implCell.outcome.toOption.join

/-- What is left of an entry that was asked for its location on a side. -/
def visited (side : Side) (e : Entry) : Entry := ((Reading.getLocation side).on e).2

variable {e f : Entry}

lemma site_congr (h : e.Agrees f) (side : Side) : e.site side = f.site side := by
  cases side <;> simp only [site, h.occurrence, h.implementation]

lemma agrees_visited (side : Side) (e : Entry) : (e.visited side).Agrees e :=
  Reading.agrees_on _ e

lemma agrees_map_visited (side : Side) (es : List Entry) :
    Forall₂ Agrees (es.map (·.visited side)) es :=
  List.forall₂_map_left_iff.mpr (List.forall₂_same.mpr fun e _ => e.agrees_visited side)

lemma visited_of_isKeyword (h : e.isKeyword = true) : e.visited .implementation = e := by
  simp [visited, Reading.getLocation, Reading.on, h]

lemma visited_of_not_isKeyword (h : e.isKeyword = false) :
    e.visited .implementation = { e with implCell := e.implCell.force.2 } := by
  simp only [visited, Reading.getLocation, Reading.on, h]
  rcases e.implCell.force with ⟨_ | l, cell⟩ <;> rfl

lemma outcome_getLocation (ready : ∃ l, e.implCell.outcome = .ok l) (side : Side) :
    (Reading.getLocation side).outcome e = .ok (e.site side) := by
  obtain ⟨l, given⟩ := ready
  cases side with
  | interface => rfl
  | implementation =>
    by_cases keyword : e.isKeyword = true
    · simp [Reading.getLocation, Reading.outcome, site, keyword]
    · simp only [Reading.getLocation, Reading.outcome, site, if_neg keyword, given]
      rfl

end Entry

/-! ### One side -/

lemma sites_eq {es : List Entry} (ready : ∀ e ∈ es, ∃ l, e.implCell.outcome = .ok l)
    (side : Side) : sites side es = (.ok (es.map (·.site side)), es.map (·.visited side)) := by
  have each := Reading.onEach_eq_map (Reading.getLocation side) (·.site side) es fun e he =>
    Entry.outcome_getLocation (ready e he) side
  simp only [sites, each]
  rfl

lemma any_sites_iff (side : Side) (es : List Entry) :
    (es.map (·.site side)).any Option.isSome = true ↔ ∃ e ∈ es, e.site side ≠ none := by
  simp [Option.isSome_iff_ne_none]

lemma map_fst_filterMap {α β : Type} (f : α → Option β) (as : List α) :
    (as.filterMap fun a => (f a).map (a, ·)).map Prod.fst = as.filter fun a => (f a).isSome := by
  rw [List.map_filterMap, ← List.filterMap_eq_filter]
  congr 1
  funext a
  cases h : f a <;> simp [Option.guard, h]

namespace Located

variable (side : Side) (es : List Entry)

lemma hits_eq_filterMap :
    (mk side (es.map (·.site side))).hits es = es.filterMap fun e => (e.site side).map (e, ·) := by
  simp only [hits]
  induction es with
  | nil => rfl
  | cons e es ih => simp [List.filterMap_cons, ih]

lemma map_fst_hits :
    ((mk side (es.map (·.site side))).hits es).map Prod.fst
      = es.filter fun e => (e.site side).isSome := by
  rw [hits_eq_filterMap, map_fst_filterMap]

lemma hits_eq_nil_iff :
    (mk side (es.map (·.site side))).hits es = [] ↔ ∀ o ∈ es.map (·.site side), o = none := by
  rw [hits_eq_filterMap, List.filterMap_eq_nil_iff, List.forall_mem_map]
  simp only [Option.map_eq_none_iff]

variable {side es} in
lemma site_of_mem_hits {h : Entry × Location}
    (hh : h ∈ (mk side (es.map (·.site side))).hits es) : h.1 ∈ es ∧ h.1.site side = some h.2 := by
  rw [hits_eq_filterMap] at hh
  obtain ⟨e, he, shown⟩ := List.mem_filterMap.mp hh
  obtain ⟨l, site, rfl⟩ := Option.map_eq_some_iff.mp shown
  exact ⟨he, site⟩

end Located

namespace Entry

lemma map_site_congr {es fs : List Entry} (h : Forall₂ Agrees es fs) (side : Side) :
    es.map (·.site side) = fs.map (·.site side) := by
  induction h with
  | nil => rfl
  | cons head _ ih => rw [List.map_cons, List.map_cons, site_congr head, ih]

lemma ready_of_agrees {es fs : List Entry} (h : Forall₂ Agrees fs es)
    (ready : ∀ e ∈ es, ∃ l, e.implCell.outcome = .ok l) :
    ∀ f ∈ fs, ∃ l, f.implCell.outcome = .ok l := by
  induction h with
  | nil => exact ready
  | cons head _ ih =>
    rw [List.forall_mem_cons] at ready ⊢
    rw [head.implementation]
    exact ⟨ready.1, ih ready.2⟩

end Entry

/-! ### Both sides -/

/-- The location on the preferred side that some entry has, or else the lack of it. -/
lemma locate_eq {es : List Entry} (ready : ∀ e ∈ es, ∃ l, e.implCell.outcome = .ok l)
    (preferred : Side) :
    locate preferred es =
      if ∃ e ∈ es, e.site preferred ≠ none then
        (.ok ⟨preferred, es.map (·.site preferred)⟩, es.map (·.visited preferred))
      else
        (.ok (if ∃ e ∈ es, e.site preferred.other ≠ none then
            ⟨preferred.other, es.map (·.site preferred.other)⟩
          else ⟨preferred, es.map (·.site preferred)⟩),
          es.map fun e => (e.visited preferred).visited preferred.other) := by
  have same := Entry.agrees_map_visited preferred es
  have readyStill := Entry.ready_of_agrees same ready
  have others := Entry.map_site_congr same preferred.other
  simp only [locate, sites_eq ready, sites_eq readyStill, others, any_sites_iff, List.map_map]
  split_ifs <;> rfl

/-- What locating the candidates `es` comes to, with the entries `now` left of them. -/
structure Locates (preferred : Side) (es : List Entry) (l : Located) (now : List Entry) : Prop where
  candidates : Forall₂ Entry.Agrees now es
  entries : (l.hits now).map Prod.fst = now.filter fun e => (e.site l.side).isSome
  printable : ∀ h ∈ l.hits now, ((Reading.getLocation l.side).on h.1).1 = .ok (some h.2)
  side : l.side =
    if (∀ e ∈ es, e.site preferred = none) ∧ ∃ e ∈ es, e.site preferred.other ≠ none then
      preferred.other
    else preferred
  found : l.found = true ↔ l.hits now ≠ []
  empty : l.hits now = [] ↔ ∀ e ∈ es, ∀ side, e.site side = none
  untouched : preferred = .interface → (∃ e ∈ es, e.signature ≠ none) → now = es
  computed : ¬ (preferred = .interface ∧ ∃ e ∈ es, e.signature ≠ none) →
    Forall₂ (fun e f => if e.isKeyword then f = e else f.implCell.forced = true) es now

namespace Locates

/-- Where nothing is on the side that is used, nothing is on the other. -/
lemma site_eq_none {preferred side : Side} {es : List Entry}
    (used : side =
      if (∀ e ∈ es, e.site preferred = none) ∧ ∃ e ∈ es, e.site preferred.other ≠ none then
        preferred.other
      else preferred)
    (empty : ∀ e ∈ es, e.site side = none) : ∀ e ∈ es, ∀ other, e.site other = none := by
  have both : (∀ e ∈ es, e.site preferred = none) ∧ ∀ e ∈ es, e.site preferred.other = none := by
    split_ifs at used with there
    · subst used
      exact ⟨there.1, empty⟩
    · subst used
      have unplaced := not_and.mp there empty
      exact ⟨empty, by simpa using unplaced⟩
  intro e he other
  cases preferred <;> cases other
  · exact both.1 e he
  · exact both.2 e he
  · exact both.2 e he
  · exact both.1 e he

lemma of_agrees {preferred side : Side} {es now : List Entry}
    (ready : ∀ e ∈ es, ∃ l, e.implCell.outcome = .ok l) (agree : Forall₂ Entry.Agrees now es)
    (used : side =
      if (∀ e ∈ es, e.site preferred = none) ∧ ∃ e ∈ es, e.site preferred.other ≠ none then
        preferred.other
      else preferred)
    (untouched : preferred = .interface → (∃ e ∈ es, e.signature ≠ none) → now = es)
    (computed : ¬ (preferred = .interface ∧ ∃ e ∈ es, e.signature ≠ none) →
      Forall₂ (fun e f => if e.isKeyword then f = e else f.implCell.forced = true) es now) :
    Locates preferred es ⟨side, es.map (·.site side)⟩ now := by
  have sites := Entry.map_site_congr agree side
  have hits : (Located.mk side (es.map (·.site side))).hits now = [] ↔
      ∀ e ∈ es, e.site side = none := by
    rw [← sites, Located.hits_eq_nil_iff, sites, List.forall_mem_map]
  constructor
  case candidates => exact agree
  case entries =>
    rw [← sites]
    exact Located.map_fst_hits side now
  case printable =>
    intro h hh
    rw [← sites] at hh
    obtain ⟨mem, site⟩ := Located.site_of_mem_hits hh
    rw [Reading.on_fst, Entry.outcome_getLocation (Entry.ready_of_agrees agree ready _ mem), site]
  case side => exact used
  case found =>
    rw [Ne, hits, Located.found, any_sites_iff]
    simp
  case empty =>
    rw [hits]
    exact ⟨site_eq_none used, fun none e he => none e he side⟩
  case untouched => exact untouched
  case computed => exact computed

/-- Whether anything is found does not depend on the side that is preferred. -/
lemma found_iff {preferred : Side} {es now : List Entry} {l : Located}
    (h : Locates preferred es l now) :
    l.found = true ↔ ∃ e ∈ es, ∃ side, e.site side ≠ none := by
  rw [h.found, Ne, h.empty]
  simp only [not_forall, exists_prop, Ne]

end Locates

lemma forall₂_map_right {α : Type} {R : α → α → Prop} {f : α → α} (as : List α)
    (h : ∀ a ∈ as, R a (f a)) : Forall₂ R as (as.map f) := by
  rw [List.forall₂_map_right_iff, List.forall₂_same]
  exact h

/-- Asking for the implementation computes it, unless the entry is a keyword. -/
lemma Entry.computed_visited {e : Entry} (ready : ∃ l, e.implCell.outcome = .ok l) :
    if e.isKeyword then e.visited .implementation = e
    else (e.visited .implementation).implCell.forced = true := by
  obtain ⟨l, given⟩ := ready
  split_ifs with keyword
  · exact visited_of_isKeyword keyword
  · rw [visited_of_not_isKeyword (Bool.eq_false_iff.mpr keyword), Cell.forced_force, given]
    simp [Except.isOk, Except.toBool]

lemma exists_locates {es : List Entry} (ready : ∀ e ∈ es, ∃ l, e.implCell.outcome = .ok l)
    (preferred : Side) :
    ∃ l now, locate preferred es = (.ok l, now) ∧ Locates preferred es l now := by
  have computed : Forall₂ (fun e f => if e.isKeyword then f = e else f.implCell.forced = true) es
      (es.map (·.visited .implementation)) :=
    forall₂_map_right es fun e he => Entry.computed_visited (ready e he)
  have located := locate_eq ready preferred
  by_cases here : ∃ e ∈ es, e.site preferred ≠ none
  · rw [if_pos here] at located
    refine ⟨_, _, located, .of_agrees ready (Entry.agrees_map_visited preferred es) ?_ ?_ ?_⟩
    · obtain ⟨e, he, site⟩ := here
      exact (if_neg fun unused => site (unused.1 e he)).symm
    · rintro rfl -
      exact List.map_id es
    · intro far
      cases preferred with
      | interface => exact absurd ⟨rfl, here⟩ far
      | implementation => exact computed
  · have unplaced : ∀ e ∈ es, e.site preferred = none := by simpa using here
    have now : (es.map fun e => (e.visited preferred).visited preferred.other)
        = es.map (·.visited .implementation) := by
      cases preferred <;> rfl
    rw [if_neg here, now] at located
    have untouched : preferred = .interface → (∃ e ∈ es, e.signature ≠ none) →
        es.map (·.visited .implementation) = es := by
      rintro rfl placed
      exact absurd placed here
    have agree := Entry.agrees_map_visited .implementation es
    by_cases there : ∃ e ∈ es, e.site preferred.other ≠ none
    · rw [if_pos there] at located
      exact ⟨_, _, located, .of_agrees ready agree (if_pos ⟨unplaced, there⟩).symm untouched
        fun _ => computed⟩
    · rw [if_neg there] at located
      exact ⟨_, _, located, .of_agrees ready agree (if_neg fun used => there used.2).symm untouched
        fun _ => computed⟩

/-- Candidates whose implementations do not fail are located, and whether they are found does not
depend on the side that is preferred. -/
theorem located_candidates (c : Catalogue) (preferred : Side) (query : Text)
    (ready : ∀ e ∈ (c.candidates query).1, ∃ l, e.implCell.outcome = .ok l) :
    ∃ l now, (c.located preferred query).1 = (.ok l, now) ∧
      Locates preferred (c.candidates query).1 l now ∧
      ∃ l' now', (c.located preferred.other query).1 = (.ok l', now') ∧ l'.found = l.found := by
  obtain ⟨l, now, located, locates⟩ := exists_locates ready preferred
  obtain ⟨l', now', located', locates'⟩ := exists_locates ready preferred.other
  refine ⟨l, now, located, locates, l', now', located', ?_⟩
  rw [Bool.eq_iff_iff, locates.found_iff, locates'.found_iff]

/-- A symbol whose implementation waits, and one without any location. -/
def waitingDeclarations : List Declaration :=
  [⟨["f".toList], "val".toList, none, none, none, some ⟨"f".toList, 1, 0⟩, none, []⟩,
    ⟨["f".toList], "type".toList, none, none, none, none, none, []⟩]

/-- A catalogue that gives a keyword and these symbols, whatever it is asked. -/
def waitingCatalogue : Catalogue where
  lookup _ :=
    (Symbol.keywordEntry "let".toList ::
      waitingDeclarations.filterMap fun d => d.symbol.toOption.map (·.entry []), [])
  complete _ := ([], [])

theorem located_candidates_waitingCatalogue :
    (∀ e ∈ (waitingCatalogue.candidates "f".toList).1, ∃ l, e.implCell.outcome = .ok l) ∧
    (waitingCatalogue.located .interface "f".toList).1.2.map (·.implCell.forced)
      = [false, true, true] ∧
    ∃ l now, (waitingCatalogue.located .interface "f".toList).1 = (.ok l, now) ∧
      Locates .interface (waitingCatalogue.candidates "f".toList).1 l now ∧
      ∃ l' now', (waitingCatalogue.located .implementation "f".toList).1 = (.ok l', now') ∧
        l'.found = l.found := by
  have ready : ∀ e ∈ (waitingCatalogue.candidates "f".toList).1,
      ∃ l, e.implCell.outcome = .ok l :=
    List.forall_mem_cons.mpr ⟨⟨_, rfl⟩, List.forall_mem_cons.mpr ⟨⟨_, rfl⟩,
      List.forall_mem_cons.mpr ⟨⟨_, rfl⟩, List.forall_mem_nil _⟩⟩⟩
  exact ⟨ready, by decide, located_candidates waitingCatalogue .interface "f".toList ready⟩

end SymbolIndex
