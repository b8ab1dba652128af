import LoadTest.Text.Symbols
import Mathlib
/-!
# The symbols of encoded texts

The bytes of a text are read back as its characters, and as nothing else.
-/

namespace LoadTest.Text

/-- A text has no more characters than bytes. -/
theorem length_le_size_utf8Encode (cs : List Char) : cs.length ≤ cs.utf8Encode.size := by
  induction cs with
  | nil => exact Nat.zero_le _
  | cons c cs ih =>
    have hc := c.utf8Size_pos
    rw [List.utf8Encode_cons, ByteArray.size_append, List.utf8Encode_singleton,
      List.size_toByteArray, String.length_utf8EncodeChar, List.length_cons]
    omega

/-- Behind an encoded text the characters of another one are read. -/
theorem decodeFrom_utf8Encode (before cs : List Char) {fuel : Nat} (h : cs.length ≤ fuel) :
    decodeFrom (before.utf8Encode ++ cs.utf8Encode) fuel before.utf8Encode.size = cs.map some := by
  induction cs generalizing before fuel with
  | nil =>
    cases fuel with
    | zero => rfl
    | succ fuel => simp [decodeFrom]
  | cons c cs ih =>
    cases fuel with
    | zero => cases h
    | succ fuel =>
      have hbytes : before.utf8Encode ++ (c :: cs).utf8Encode =
          (before ++ [c]).utf8Encode ++ cs.utf8Encode := by
        rw [List.utf8Encode_cons, List.utf8Encode_append, ByteArray.append_assoc]
      have hsize : (before ++ [c]).utf8Encode.size = before.utf8Encode.size + c.utf8Size := by
        rw [List.utf8Encode_append, ByteArray.size_append, List.utf8Encode_singleton,
          List.size_toByteArray, String.length_utf8EncodeChar]
      have hchar : (before.utf8Encode ++ (c :: cs).utf8Encode).utf8DecodeChar?
          before.utf8Encode.size = some c := by
        rw [ByteArray.utf8DecodeChar?_eq_utf8DecodeChar?_extract, ByteArray.size_append,
          ByteArray.extract_append_eq_right rfl rfl, List.utf8DecodeChar?_utf8Encode_cons]
      have hlt : before.utf8Encode.size < (before.utf8Encode ++ (c :: cs).utf8Encode).size := by
        have hc := c.utf8Size_pos
        rw [hbytes, ByteArray.size_append, hsize]
        omega
      rw [decodeFrom, if_pos hlt, hchar]
      show some c :: decodeFrom _ fuel (before.utf8Encode.size + c.utf8Size) = _
      rw [hbytes, ← hsize, ih _ (Nat.le_of_succ_le_succ h), List.map_cons]

/-- Listing the bytes from a position on puts them behind those that were listed before. -/
theorem toList_loop (bytes : ByteArray) (i : Nat) (done : List UInt8) :
    ByteArray.toList.loop bytes i done = done.reverse ++ bytes.data.toList.drop i := by
  fun_induction ByteArray.toList.loop bytes i done with
  | case1 i done hlt ih =>
    have hlength : i < bytes.data.toList.length := by simpa using hlt
    have hbyte : bytes.get! i = bytes.data[i]! := by cases bytes; rfl
    rw [ih, List.drop_eq_getElem_cons hlength, hbyte, getElem!_pos bytes.data i hlt]
    simp
  | case2 i done hlt =>
    rw [List.drop_eq_nil_of_le (by simpa using Nat.le_of_not_lt hlt), List.append_nil]

/-- The bytes of an array in their order. -/
theorem toList_eq (bytes : ByteArray) : bytes.toList = bytes.data.toList := by
  rw [ByteArray.toList, toList_loop]
  rfl

/-- The bytes of a text are read as its symbols. -/
theorem decode_toUTF8 (s : String) : decode s.toUTF8.toList = symbols s := by
  have harray : ByteArray.mk s.toUTF8.toList.toArray = s.toList.utf8Encode := by
    rw [toList_eq, Array.toArray_toList, String.utf8Encode_toList]
    rfl
  have hread := decodeFrom_utf8Encode [] s.toList (length_le_size_utf8Encode s.toList)
  show decodeFrom (ByteArray.mk _) (ByteArray.mk _).size 0 = s.toList.map some
  rw [harray]
  simpa using hread

end LoadTest.Text
