/-!
# Texts as bytes

The UTF-8 encoding of characters and texts, and the strict decoding of bytes: a sequence that is not
well formed is refused as a whole.
-/

namespace ContentBlocks.Text

/-- The bytes of a text. -/
def utf8 (s : String) : List UInt8 := s.toUTF8.toList

theorem toList_loop (bs : ByteArray) (i : Nat) (r : List UInt8) :
    ByteArray.toList.loop bs i r = r.reverse ++ bs.data.toList.drop i := by
  fun_induction ByteArray.toList.loop bs i r with
  | case1 i r h ih =>
    have hi : i < bs.data.size := h
    have hget : bs.get! i = bs.data.toList[i] := getElem!_pos bs.data i hi
    have hdrop : bs.data.toList.drop i = bs.data.toList[i] :: bs.data.toList.drop (i + 1) :=
      List.drop_eq_getElem_cons hi
    rw [ih, hdrop, hget, List.reverse_cons, List.append_assoc]
    rfl
  | case2 i r h =>
    have hi : bs.data.toList.length ≤ i := Nat.le_of_not_lt h
    rw [List.drop_eq_nil_of_le hi, List.append_nil]

theorem utf8_eq (s : String) : utf8 s = s.toByteArray.data.toList :=
  toList_loop s.toByteArray 0 []

/-- Texts with the same bytes are the same. -/
theorem utf8_inj {s t : String} : utf8 s = utf8 t ↔ s = t := by
  rw [utf8_eq, utf8_eq, Array.toList_inj, ← String.toByteArray_inj]
  exact ⟨ByteArray.ext, congrArg ByteArray.data⟩

/-- The bytes of a character. -/
def utf8Char (c : Char) : List Nat := (utf8 (.ofList [c])).map UInt8.toNat

/-- The text that bytes encode. -/
def ofUtf8? (bytes : List UInt8) : Option String :=
  String.fromUTF8? (ByteArray.mk bytes.toArray)

end ContentBlocks.Text
