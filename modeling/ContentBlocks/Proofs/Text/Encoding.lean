import ContentBlocks.Text.Utf8

/-!
# Texts and their bytes

The bytes of a text are those of its characters in a row, and bytes are taken for a text just if
they are the bytes of that text. A byte below 128 is a character by itself wherever it stands, so
such characters can be looked for among the bytes.

## Main results

* `ofUtf8?_eq_some_iff`: which text bytes are taken for
* `mem_encodeChar_iff`: a small byte stands for one character, and for no part of another one
-/

namespace ContentBlocks.Text

open String (utf8EncodeChar)

variable {s : String} {bytes : List UInt8} {c : Char} {b : UInt8}

theorem utf8_ofList (cs : List Char) : utf8 (.ofList cs) = cs.flatMap utf8EncodeChar := by
  rw [utf8_eq, String.toByteArray_ofList]
  induction cs with
  | nil => rfl
  | cons c cs ih =>
    rw [List.utf8Encode_cons, ByteArray.data_append, Array.toList_append, ih,
      List.utf8Encode_singleton, List.data_toByteArray, List.flatMap_cons]

/-- **Bytes are taken for a text** if they are the bytes of that text. -/
theorem ofUtf8?_eq_some_iff : ofUtf8? bytes = some s ↔ utf8 s = bytes := by
  unfold ofUtf8? String.fromUTF8?
  rw [utf8_eq]
  constructor
  · intro h
    split at h
    · cases h
      rfl
    · cases h
  · rintro rfl
    have hvalid : (ByteArray.mk s.toByteArray.data.toList.toArray).IsValidUTF8 := s.isValidUTF8
    rw [dif_pos hvalid]
    exact congrArg some (String.toByteArray_inj.mp rfl)

/-! ### Small bytes -/

theorem encodeChar_of_lt (h : c.toNat < 128) : utf8EncodeChar c = [.ofNat c.toNat] :=
  if_pos (Nat.le_of_lt_succ h)

/-- The bytes of a character that takes more than one are all large. -/
theorem le_of_mem_encodeChar (h : 128 ≤ c.toNat) (hb : b ∈ utf8EncodeChar c) : 128 ≤ b.toNat := by
  have hlong : ¬ c.val.toNat ≤ 127 := Nat.not_le_of_lt h
  unfold utf8EncodeChar at hb
  dsimp only at hb
  rw [if_neg hlong] at hb
  -- two, three or four bytes, each a part of the number beside high bits
  split at hb
  · simp only [List.mem_cons, List.not_mem_nil, or_false] at hb
    rcases hb with rfl | rfl <;> rw [UInt8.toNat_ofNat'] <;> omega
  · split at hb
    · simp only [List.mem_cons, List.not_mem_nil, or_false] at hb
      rcases hb with rfl | rfl | rfl <;> rw [UInt8.toNat_ofNat'] <;> omega
    · simp only [List.mem_cons, List.not_mem_nil, or_false] at hb
      rcases hb with rfl | rfl | rfl | rfl <;> rw [UInt8.toNat_ofNat'] <;> omega

/-- **A byte below 128** stands for the character of its number only. -/
theorem mem_encodeChar_iff (hb : b.toNat < 128) : b ∈ utf8EncodeChar c ↔ c.toNat = b.toNat := by
  by_cases hc : c.toNat < 128
  · rw [encodeChar_of_lt hc, List.mem_singleton, ← UInt8.toNat_inj, UInt8.toNat_ofNat',
      Nat.mod_eq_of_lt (by omega), eq_comm]
  · constructor
    · intro hmem
      have hle := le_of_mem_encodeChar (Nat.le_of_not_lt hc) hmem
      omega
    · intro heq
      omega

end ContentBlocks.Text
