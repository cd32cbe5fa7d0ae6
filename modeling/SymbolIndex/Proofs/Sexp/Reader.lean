import SymbolIndex.Proofs.Sexp.Layout
import SymbolIndex.Proofs.Sexp.Record
import SymbolIndex.Proofs.Sexp.Soundness

/-!
# What the reader accepts

A text is read as records exactly when its tokens spell one list of records. Together with
soundness of the automaton and independence of layout, this describes the reader by its grammar.
-/

namespace SymbolIndex.Sexp

/-- A text spells an expression exactly when all of its tokens do. -/
lemma ofText_eq_ok_iff {t : Text} {v : Sexp} :
    ofText t = .ok v ↔ ∃ ts, tokens t = .ok ts ∧ Spells ts v := by
  constructor
  · intro h
    unfold ofText at h
    split at h
    · cases h
    · cases h
    · next ts _ read =>
      split at h
      · cases h
      · next w parsed =>
        cases h
        obtain ⟨us, parts, spelled⟩ := parse_eq_ok_iff.mp parsed
        rw [List.append_nil] at parts
        subst parts
        exact ⟨us, read, spelled⟩
      · cases h
  · rintro ⟨ts, read, spelled⟩
    exact ofText_of_spells read spelled

/-- A text that spells a list is read as the records of the list. -/
lemma readRecords_of_spells {t : Text} {ts : List Token} {vs : List Sexp}
    (split : tokens t = .ok ts) (spelled : Spells ts (.list vs)) : readRecords t = records vs := by
  rw [readRecords, ofText_of_spells split spelled]

/-- A text spells a list, or it is malformed. -/
lemma spells_or_malformed (t : Text) :
    (∃ ts vs, tokens t = .ok ts ∧ Spells ts (.list vs)) ∨
      ∃ f, readRecords t = .error (.malformed f) := by
  rw [readRecords]
  cases whole : ofText t with
  | error f =>
    right
    exact ⟨f, rfl⟩
  | ok v =>
    cases v with
    | list vs =>
      left
      obtain ⟨ts, split, spelled⟩ := ofText_eq_ok_iff.mp whole
      exact ⟨ts, vs, split, spelled⟩
    | _ =>
      right
      exact ⟨.topLevel, rfl⟩

lemma readRecords_eq_ok_iff {t : Text} {rs : List Record} :
    readRecords t = .ok rs ↔
      ∃ ts vs, tokens t = .ok ts ∧ Spells ts (.list vs) ∧ records vs = .ok rs := by
  constructor
  · intro h
    obtain ⟨ts, vs, split, spelled⟩ | ⟨f, malformed⟩ := spells_or_malformed t
    · rw [readRecords_of_spells split spelled] at h
      exact ⟨ts, vs, split, spelled, h⟩
    · cases malformed.symm.trans h
  · rintro ⟨ts, vs, split, spelled, made⟩
    rw [readRecords_of_spells split spelled, made]

/-- One record with a dot inside an atom, a list as a value, and two fields with one key, laid out
over lines and separators of all sorts. -/
def oddPieces : List (Text × Token) :=
  [([], .openParen), ("\u001c".toList, .openParen), ("\n ".toList, .str "n.\"(".toList),
    ("\t".toList, .openParen), (" ".toList, .atom ":a".toList), ("\u2003".toList, .dot),
    (" ".toList, .atom "x.y".toList), (" ".toList, .closeParen), ("\r\n".toList, .openParen),
    (" ".toList, .atom "::a".toList), (" ".toList, .dot), (" ".toList, .openParen),
    (" ".toList, .closeParen), (" ".toList, .closeParen), (" ".toList, .closeParen),
    ("\u0085".toList, .closeParen)]

/-- The record that the pieces spell. -/
def oddRecord : Sexp :=
  recordWith (.text "n.\"(".toList) [(":a".toList, .text "x.y".toList), ("::a".toList, .list [])]

end SymbolIndex.Sexp
