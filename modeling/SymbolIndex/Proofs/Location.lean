import Mathlib.Data.List.Basic
import SymbolIndex.Location
import SymbolIndex.Proofs.Text.Dotted

/-!
# Files below a root

A path is read back from the text that it is written as. A file is shown relative to the project
root exactly when it is absolute and lies below the root, compared part by part; the text shown then
leads from the root to the file. Every other file is shown as it was recorded.
-/

namespace SymbolIndex

/-! ### Reading what was written -/

namespace FilePath

/-- A part of a path is not empty, is no single dot and holds no slash. -/
structure IsName (t : Text) : Prop where
  ne_nil : t ≠ []
  ne_dot : t ≠ ['.']
  undivided : '/' ∉ t

/-- Every part of the path is a name. -/
def Proper (p : FilePath) : Prop := ∀ t ∈ p.parts, IsName t

lemma IsName.isPart {t : Text} (h : IsName t) : isPart t = true := by
  simp [FilePath.isPart, h.ne_nil, h.ne_dot]

lemma proper_ofText (t : Text) : (ofText t).Proper := by
  intro part mem
  obtain ⟨piece, counts⟩ := List.mem_filter.mp mem
  simp only [isPart, Bool.and_eq_true, Bool.not_eq_true', List.isEmpty_eq_false_iff,
    bne_iff_ne] at counts
  exact ⟨counts.1, counts.2, Text.not_mem_of_mem_splitOn piece⟩

lemma partsOf_slash (t : Text) : partsOf ('/' :: t) = partsOf t := by
  simp [partsOf, List.splitOn_cons_eq_if_modifyHead, isPart]

lemma partsOf_root (r : RootPart) (t : Text) : partsOf (r.toText ++ t) = partsOf t := by
  cases r <;> simp [RootPart.toText, partsOf_slash]

lemma partsOf_joinWith {ts : List Text} (h : ∀ t ∈ ts, IsName t) :
    partsOf (Text.joinWith '/' ts) = ts := by
  cases ts with
  | nil => rfl
  | cons t ts =>
    rw [partsOf, Text.joinWith,
      List.splitOn_intercalate '/' (fun t ht => (h t ht).undivided) (List.cons_ne_nil t ts)]
    exact List.filter_eq_self.mpr fun t ht => (h t ht).isPart

lemma head?_joinWith_ne {ts : List Text} (h : ∀ t ∈ ts, IsName t) :
    (Text.joinWith '/' ts).head? ≠ some '/' := by
  cases ts with
  | nil => simp [Text.joinWith]
  | cons t ts =>
    have name := h t List.mem_cons_self
    obtain ⟨c, t, rfl⟩ := List.exists_cons_of_ne_nil name.ne_nil
    have first : c ≠ '/' := fun slash => name.undivided (slash ▸ List.mem_cons_self)
    cases ts <;> simp [Text.joinWith, first]

/-- The slashes in front tell the root part when no further one follows. -/
lemma rootOfText_append (r : RootPart) {t : Text} (h : t.head? ≠ some '/') :
    RootPart.ofText (r.toText ++ t) = r := by
  have stops : t.takeWhile (· == '/') = [] := by
    cases t with
    | nil => rfl
    | cons c t => exact List.takeWhile_cons_of_neg (by simpa using h)
  cases r <;> simp [RootPart.ofText, RootPart.toText, stops]

/-- A path is read back from its text. -/
lemma ofText_toText {p : FilePath} (h : p.Proper) : ofText p.toText = p := by
  have plain : ofText p.toText = ofText (p.root.toText ++ Text.joinWith '/' p.parts) := by
    rw [toText]
    split
    · next empty =>
      rw [empty]
      decide
    · rfl
  rw [plain, ofText, rootOfText_append p.root (head?_joinWith_ne h), partsOf_root,
    partsOf_joinWith h]

/-! ### Paths below others -/

/-- The path that `p` stands for in the directory `base`. -/
def join (base p : FilePath) : FilePath :=
  if p.isAbsolute then p else ⟨base.root, base.parts ++ p.parts⟩

/-- The path is absolute, and it has the root part and starts with the parts of `base`. -/
structure LiesBelow (p base : FilePath) : Prop where
  absolute : p.isAbsolute = true
  root : p.root = base.root
  parts : base.parts <+: p.parts

lemma join_of_relative {base p : FilePath} (h : p.root = .relative) :
    base.join p = ⟨base.root, base.parts ++ p.parts⟩ := by
  simp [join, isAbsolute, h]

/-- What a path is relative to another one is the relative path that leads from there to it. -/
lemma relativeTo?_eq_some_iff {p base r : FilePath} :
    p.relativeTo? base = some r ↔ r.root = .relative ∧ base.join r = p := by
  have leads : p.relativeTo? base = some r ↔
      p.root = base.root ∧ r.root = .relative ∧ base.parts ++ r.parts = p.parts := by
    obtain ⟨_, rest⟩ := r
    by_cases same : p.root = base.root
    · simp [relativeTo?, same, and_comm, eq_comm]
    · simp [relativeTo?, same]
  rw [leads]
  constructor
  · rintro ⟨same, relative, parts⟩
    refine ⟨relative, ?_⟩
    rw [join_of_relative relative, parts, ← same]
  · rintro ⟨relative, rfl⟩
    simp [join_of_relative relative, relative]

lemma liesBelow_iff {p base : FilePath} :
    p.LiesBelow base ↔ p.isAbsolute = true ∧ ∃ r : FilePath, r.root = .relative ∧ base.join r = p := by
  constructor
  · rintro ⟨absolute, root, rest, parts⟩
    refine ⟨absolute, ⟨.relative, rest⟩, rfl, ?_⟩
    rw [join_of_relative rfl, parts, ← root]
  · rintro ⟨absolute, r, relative, rfl⟩
    rw [join_of_relative relative] at absolute ⊢
    exact ⟨absolute, rfl, List.prefix_append base.parts r.parts⟩

/-- What leads from a path to another one has only names as parts, if that other one has. -/
lemma Proper.of_join {base r p : FilePath} (h : p.Proper) (relative : r.root = .relative)
    (joined : base.join r = p) : r.Proper := by
  intro part mem
  apply h part
  rw [← joined, join_of_relative relative]
  exact List.mem_append_right base.parts mem

/-- The text of a relative path is a single dot when it leads nowhere else. -/
lemma toText_eq_dot_iff {base r : FilePath} (read : ofText r.toText = r)
    (relative : r.root = .relative) : r.toText = ['.'] ↔ base.join r = base := by
  rw [join_of_relative relative]
  constructor
  · intro dot
    rw [dot] at read
    rw [← congrArg FilePath.parts read]
    exact congrArg (FilePath.mk base.root) (List.append_nil base.parts)
  · intro same
    have rest : r.parts = [] := List.append_right_eq_self.mp (congrArg FilePath.parts same)
    rw [toText, relative, rest]
    rfl

end FilePath

/-! ### Files as they are shown -/

namespace Location

open FilePath

lemma relativeFile?_eq_some_iff {root : Option FilePath} {file : Text} {r : FilePath} :
    relativeFile? root file = some r ↔ (ofText file).isAbsolute = true ∧
      ∃ base ∈ root, r.root = .relative ∧ base.join r = ofText file := by
  by_cases absolute : (ofText file).isAbsolute = true
  · simp [relativeFile?, absolute, Option.bind_eq_some_iff, relativeTo?_eq_some_iff]
  · simp [relativeFile?, absolute]

/-- A file below the root is shown as the relative path that leads from the root to it. -/
lemma exists_displayFile {l : Location} {root : Option FilePath} {base : FilePath}
    (given : base ∈ root) (below : (ofText l.file).LiesBelow base) : ∃ r : FilePath,
      l.displayFile root = r.toText ∧ ofText r.toText = r ∧ r.root = .relative ∧
        base.join r = ofText l.file := by
  obtain ⟨absolute, r, relative, joined⟩ := liesBelow_iff.mp below
  have found := relativeFile?_eq_some_iff.mpr ⟨absolute, base, given, relative, joined⟩
  have proper : r.Proper := (proper_ofText l.file).of_join relative joined
  exact ⟨r, by simp [displayFile, found], ofText_toText proper, relative, joined⟩

/-- The text shown is not the file as it was recorded exactly when there is a root and the file lies
below it. The text is then a relative path in its plain spelling that leads from the root to the
file, and it is a single dot if the file is the root. -/
theorem displayFile_ne_iff (l : Location) (root : Option FilePath) :
    (l.displayFile root ≠ l.file ↔ ∃ base ∈ root, (ofText l.file).LiesBelow base) ∧
      ∀ base ∈ root, (ofText l.file).LiesBelow base →
        (ofText (l.displayFile root)).root = .relative ∧
        base.join (ofText (l.displayFile root)) = ofText l.file ∧
        (ofText (l.displayFile root)).toText = l.displayFile root ∧
        (l.displayFile root = ['.'] ↔ ofText l.file = base) := by
  refine ⟨⟨?_, ?_⟩, ?_⟩
  · intro changed
    cases found : relativeFile? root l.file with
    | none => simp [displayFile, found] at changed
    | some r =>
      obtain ⟨absolute, base, given, leads⟩ := relativeFile?_eq_some_iff.mp found
      exact ⟨base, given, liesBelow_iff.mpr ⟨absolute, r, leads⟩⟩
  · rintro ⟨base, given, below⟩ same
    obtain ⟨r, text, read, relative, -⟩ := exists_displayFile given below
    have absolute := below.absolute
    rw [← same, text, read, isAbsolute, relative] at absolute
    exact absurd absolute (by decide)
  · intro base given below
    obtain ⟨r, text, read, relative, joined⟩ := exists_displayFile given below
    rw [text, read, ← joined]
    exact ⟨relative, rfl, rfl, toText_eq_dot_iff read relative⟩

theorem displayFile_ne_iff_sharedRoot :
    (ofText "//srv/./a/b/../c//".toList).LiesBelow (ofText "//srv//a/".toList) ∧
      displayFile ⟨"//srv/./a/b/../c//".toList, 1, 0⟩ (some (ofText "//srv//a/".toList))
        = "b/../c".toList ∧
      (ofText "//srv//a/".toList).join (ofText "b/../c".toList)
        = ofText "//srv/./a/b/../c//".toList := by
  have below : (ofText "//srv/./a/b/../c//".toList).LiesBelow (ofText "//srv//a/".toList) :=
    ⟨by decide, by decide, by decide⟩
  have led := (displayFile_ne_iff ⟨"//srv/./a/b/../c//".toList, 1, 0⟩ _).2 _ rfl below
  exact ⟨below, by decide, led.2.1⟩

/-- Parts are compared as a whole, and where a file is not below the root nothing is tidied. -/
example : displayFile ⟨"/project//x".toList, 1, 0⟩ (some (ofText "/proj".toList))
    = "/project//x".toList := by decide

end Location

end SymbolIndex
