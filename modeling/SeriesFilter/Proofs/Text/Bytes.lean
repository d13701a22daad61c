/-!
# The bytes of texts

The UTF-8 bytes of a text as a list, character by character. An ASCII character is one byte, its
own number, and every byte of another character has the high bit.
-/

namespace SeriesFilter.Text

/-- The UTF-8 bytes of a list of characters. -/
def bytes (cs : List Char) : List UInt8 :=
  cs.flatMap String.utf8EncodeChar

/-- No characters, no bytes. -/
@[simp] theorem bytes_nil : bytes [] = [] := rfl

/-- The bytes of the first character come first. -/
theorem bytes_cons (c : Char) (cs : List Char) :
    bytes (c :: cs) = String.utf8EncodeChar c ++ bytes cs := rfl

/-- Bytes of texts put together are put together. -/
@[simp] theorem bytes_append (cs ds : List Char) : bytes (cs ++ ds) = bytes cs ++ bytes ds :=
  List.flatMap_append

private theorem byteList_loop (bs : ByteArray) (i : Nat) (acc : List UInt8) :
    ByteArray.toList.loop bs i acc = acc.reverse ++ bs.data.toList.drop i := by
  fun_induction ByteArray.toList.loop bs i acc with
  | case1 i acc h ih =>
    have hi : i < bs.data.toList.length := by simpa using h
    have hg : bs.get! i = bs.data.toList[i] := by
      change bs.data[i]! = _
      rw [getElem!_pos bs.data i h, Array.getElem_toList]
    rw [ih, List.drop_eq_getElem_cons hi, hg, List.reverse_cons, List.append_assoc,
      List.singleton_append]
  | case2 i acc h =>
    rw [List.drop_eq_nil_of_le (by simpa using Nat.le_of_not_lt h), List.append_nil]

/-- The bytes of a string, listed, are the bytes of its characters. -/
theorem toList_toUTF8 (s : String) : s.toUTF8.toList = bytes s.toList := by
  rw [String.toUTF8_eq_toByteArray, ByteArray.toList, byteList_loop, ← String.utf8Encode_toList]
  simp [List.utf8Encode, bytes]

/-- A string is read back from the bytes of its characters. -/
theorem fromUTF8?_bytes (s : String) :
    String.fromUTF8? (bytes s.toList).toByteArray = some s := by
  have hb : (bytes s.toList).toByteArray = s.toByteArray := String.utf8Encode_toList
  rw [hb, String.fromUTF8?, dif_pos s.isValidUTF8]
  rfl

/-- A string has as many bytes as its characters. -/
theorem length_bytes (s : String) : (bytes s.toList).length = s.utf8ByteSize := by
  have hb : (bytes s.toList).toByteArray = s.toByteArray := String.utf8Encode_toList
  rw [← List.size_toByteArray, hb]
  rfl

/-- An ASCII character is one byte, its own number. -/
theorem utf8EncodeChar_of_ascii {c : Char} (h : c.toNat < 128) :
    String.utf8EncodeChar c = [c.toUInt8] := by
  have hv : c.val.toNat ≤ 0x7f := Nat.le_of_lt_succ h
  rw [String.utf8EncodeChar, if_pos hv]
  rfl

/-- An ASCII text has one byte for each character. -/
theorem bytes_of_ascii {cs : List Char} (h : ∀ c ∈ cs, c.toNat < 128) :
    bytes cs = cs.map Char.toUInt8 := by
  induction cs with
  | nil => rfl
  | cons c cs ih =>
    rw [bytes_cons, utf8EncodeChar_of_ascii (h c List.mem_cons_self),
      ih fun d hd ↦ h d (List.mem_cons_of_mem c hd)]
    rfl

/-- An ASCII character is the character of its byte. -/
theorem ofUInt8_toUInt8 {c : Char} (h : c.toNat < 128) : Char.ofUInt8 c.toUInt8 = c := by
  have hv : c.val.toNat < 256 := Nat.lt_trans h (by decide)
  apply Char.ext
  apply UInt32.toNat.inj
  change (c.val.toUInt8.toUInt32).toNat = c.val.toNat
  rw [UInt8.toNat_toUInt32, UInt32.toNat_toUInt8, Nat.mod_eq_of_lt hv]

/-- Every byte of a character outside ASCII has the high bit. -/
theorem le_of_mem_utf8EncodeChar {c : Char} {b : UInt8} (h : 128 ≤ c.toNat)
    (hb : b ∈ String.utf8EncodeChar c) : 128 ≤ b.toNat := by
  have hv : ¬ c.val.toNat ≤ 0x7f := Nat.not_le_of_lt h
  rw [String.utf8EncodeChar, if_neg hv] at hb
  split at hb
  · simp only [List.mem_cons, List.not_mem_nil, or_false] at hb
    rcases hb with rfl | rfl <;> rw [UInt8.toNat_ofNat'] <;> omega
  · split at hb
    · simp only [List.mem_cons, List.not_mem_nil, or_false] at hb
      rcases hb with rfl | rfl | rfl <;> rw [UInt8.toNat_ofNat'] <;> omega
    · simp only [List.mem_cons, List.not_mem_nil, or_false] at hb
      rcases hb with rfl | rfl | rfl | rfl <;> rw [UInt8.toNat_ofNat'] <;> omega

end SeriesFilter.Text
