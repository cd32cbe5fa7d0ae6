import Mathlib.Tactic.Lemma
import SymbolIndex.Json.Source

/-!
# The bytes of a text

The characters of a file are found again in its bytes: a text that is written in UTF-8 has no gaps.
-/

namespace SymbolIndex.Json.Source

/-- Behind any bytes, the characters of a text are found one by one. -/
lemma fromPosition_utf8Encode (t : List Char) (front : ByteArray) :
    fromPosition (front ++ t.utf8Encode) front.size = ofText t := by
  induction t generalizing front with
  | nil =>
    rw [fromPosition, dif_neg (by simp)]
    rfl
  | cons c t ih =>
    have size : [c].utf8Encode.size = c.utf8Size := by
      simp [List.utf8Encode_singleton]
    have inside : front.size < (front ++ (c :: t).utf8Encode).size := by
      have := c.utf8Size_pos
      rw [List.utf8Encode_cons, ByteArray.size_append, ByteArray.size_append, size]
      omega
    have found : (front ++ (c :: t).utf8Encode).utf8DecodeChar? front.size = some c := by
      rw [ByteArray.utf8DecodeChar?_eq_utf8DecodeChar?_extract, ByteArray.size_append,
        ByteArray.extract_append_eq_right rfl rfl, List.utf8DecodeChar?_utf8Encode_cons]
    have rest := ih (front ++ [c].utf8Encode)
    rw [ByteArray.size_append, size, ByteArray.append_assoc, ← List.utf8Encode_cons] at rest
    rw [fromPosition, dif_pos inside, found]
    exact congrArg (some c :: ·) rest

/-- The characters of a text that is written in UTF-8. -/
lemma ofBytes_toUTF8 (t : List Char) : ofBytes (String.ofList t).toUTF8 = ofText t := by
  have found := fromPosition_utf8Encode t ByteArray.empty
  rw [ByteArray.empty_append] at found
  rw [ofBytes, ← found]
  simp [String.toUTF8]

end SymbolIndex.Json.Source
