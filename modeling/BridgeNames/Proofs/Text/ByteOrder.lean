import Mathlib.Data.String.Basic

/-!
# The order of texts by their bytes

Texts are compared character by character. Their encodings in UTF-8, compared byte by byte, are in
the same order (`utf8_lt_iff`): of two characters, the encoding of the greater one is greater at the
first byte where the two differ, and there is such a byte, since neither encoding starts the other.
-/

namespace BridgeNames.Text

/-- The bytes of a text in UTF-8. -/
def utf8 (s : String) : List UInt8 :=
  s.toUTF8.data.toList

/-- The bytes of a text are those of its characters. -/
theorem utf8_eq_flatMap (s : String) : utf8 s = s.toList.flatMap String.utf8EncodeChar := by
  obtain ⟨l, rfl⟩ := s.exists_eq_ofList
  simp [utf8, List.utf8Encode]

/-- Whatever follows them, the encodings of two characters are in the order of the characters. -/
theorem utf8EncodeChar_append_lt {a b : Char} (h : a < b) (l m : List UInt8) :
    String.utf8EncodeChar a ++ l < String.utf8EncodeChar b ++ m := by
  have hab : a.val.toNat < b.val.toNat := h
  have hb : b.val.toNat < 0x110000 := by
    have := b.valid
    unfold UInt32.isValidChar Nat.isValidChar at this
    omega
  -- A byte carries six bits of the character, so the upper ones are quotients of quotients by 64.
  have hsecond (n : Nat) : n / 4096 = n / 64 / 64 := by rw [Nat.div_div_eq_div_mul]
  have hthird (n : Nat) : n / 262144 = n / 64 / 64 / 64 := by simp only [Nat.div_div_eq_div_mul]
  -- The two lengths are the cases: if they differ, then so do the ranges of the first bytes.
  unfold String.utf8EncodeChar
  dsimp only
  split_ifs <;>
    simp only [List.cons_append, List.nil_append, List.cons_lt_cons_iff, UInt8.lt_iff_toNat_lt,
      ← UInt8.toNat_inj, UInt8.toNat_ofNat', hsecond, hthird] <;>
    simp (disch := omega) only [Nat.reducePow, Nat.mod_eq_of_lt] <;>
    omega

/-- Lists of characters in the order of texts have encodings in the order of bytes. -/
theorem flatMap_utf8EncodeChar_lt {s t : List Char} (h : s < t) :
    s.flatMap String.utf8EncodeChar < t.flatMap String.utf8EncodeChar := by
  induction h with
  | @nil b t =>
    obtain ⟨x, l, hb⟩ := List.exists_cons_of_ne_nil (String.utf8EncodeChar_ne_nil (c := b))
    rw [List.flatMap_nil, List.flatMap_cons, hb]
    exact List.nil_lt_cons x _
  | rel hab => exact utf8EncodeChar_append_lt hab _ _
  | cons _ ih => exact List.append_left_lt ih

/-- One text is before another one if and only if its bytes in UTF-8 are before those of the
other. -/
theorem utf8_lt_iff {s t : String} : utf8 s < utf8 t ↔ s < t := by
  have hlt {s t : String} (h : s < t) : utf8 s < utf8 t := by
    rw [utf8_eq_flatMap, utf8_eq_flatMap]
    exact flatMap_utf8EncodeChar_lt (String.lt_iff_toList_lt.mp h)
  -- Encoding keeps the order of texts, which is total, so the order of bytes tells it.
  refine ⟨fun h => ?_, hlt⟩
  rcases lt_trichotomy s t with hst | rfl | hts
  · exact hst
  · exact absurd h (List.lt_irrefl _)
  · exact absurd (hlt hts) (List.lt_asymm h)

end BridgeNames.Text
