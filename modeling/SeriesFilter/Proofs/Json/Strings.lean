import SeriesFilter.Json.Scanner
import SeriesFilter.Json.Value
import SeriesFilter.Proofs.Text.Bytes

/-!
# Strings read back

The scanner takes the written form of a string as one token that holds the string: each character
goes into the content as the bytes it has, or as the code unit of its escape, and both give the
same bytes when the content is put together.
-/

namespace SeriesFilter.Json

open Text

/-- What a character becomes in the content of a string: its bytes, or the code unit of a control
character that has no short escape. -/
def charUnits (c : Char) : List TextUnit :=
  if c.toNat < 0x20 ∧ c ≠ '\x08' ∧ c ≠ '\x0c' ∧ c ≠ '\n' ∧ c ≠ '\r' ∧ c ≠ '\t' then [.code c.toNat]
  else (String.utf8EncodeChar c).map .byte

/-- A byte that stands for itself in a string. -/
def IsPlain (b : UInt8) : Prop :=
  b ≠ 0x22 ∧ b ≠ 0x5C ∧ 0x20 ≤ b.toNat

private theorem scan_plain (ts : List Token) (units : List TextUnit) {b : UInt8} (h : IsPlain b) :
    Scanner.step ⟨ts, .text units .none⟩ b = ⟨ts, .text (.byte b :: units) .none⟩ := by
  obtain ⟨hq, hs, hl⟩ := h
  have hc : ¬ b < 0x20 := by
    intro hlt
    have := UInt8.lt_iff_toNat_lt.mp hlt
    simp at this
    omega
  have inj (c : Char) (hv : c.toNat < 128) (he : Char.ofUInt8 b = c) : b = c.toUInt8 := by
    subst he
    apply UInt8.toNat.inj
    change _ = (b.toUInt32.toUInt8).toNat
    rw [UInt32.toNat_toUInt8, UInt8.toNat_toUInt32, Nat.mod_eq_of_lt b.toNat_lt]
  simp only [Scanner.step, Scanner.stepText]
  split
  · next he => exact absurd (inj '"' (by decide) he) hq
  · next he => exact absurd (inj '\\' (by decide) he) hs
  · rw [if_neg hc]
    rfl

private theorem scan_plains (ts : List Token) {bs : List UInt8} (h : ∀ b ∈ bs, IsPlain b)
    (units : List TextUnit) :
    bs.foldl Scanner.step ⟨ts, .text units .none⟩ =
      ⟨ts, .text ((bs.map .byte).reverse ++ units) .none⟩ := by
  induction bs generalizing units with
  | nil => rfl
  | cons b bs ih =>
    rw [List.foldl_cons, scan_plain ts units (h b List.mem_cons_self),
      ih fun d hd ↦ h d (List.mem_cons_of_mem b hd)]
    simp

private theorem isPlain_of_mem {c : Char} {b : UInt8} (hq : c ≠ '"') (hs : c ≠ '\\')
    (hl : 0x20 ≤ c.toNat) (hb : b ∈ String.utf8EncodeChar c) : IsPlain b := by
  by_cases ha : c.toNat < 128
  · rw [utf8EncodeChar_of_ascii ha, List.mem_singleton] at hb
    subst hb
    have hc := ofUInt8_toUInt8 ha
    have hn : c.toUInt8.toNat = c.toNat := by
      rw [← congrArg Char.toNat hc]
      rfl
    refine ⟨?_, ?_, by omega⟩
    · intro he
      rw [he] at hc
      exact hq hc.symm
    · intro he
      rw [he] at hc
      exact hs hc.symm
  · have hb := le_of_mem_utf8EncodeChar (Nat.le_of_not_lt ha) hb
    refine ⟨?_, ?_, by omega⟩ <;> rintro rfl <;> revert hb <;> decide

private theorem hexUnit?_escape {n : Nat} (h : n < 0x20) :
    hexUnit? [(Nat.digitChar (n % 16)).toUInt8, (Nat.digitChar (n / 16)).toUInt8, 0x30, 0x30] =
      some n := by
  revert n
  decide

private theorem bytes_escape {n : Nat} (h : n < 0x20) :
    bytes ['\\', 'u', '0', '0', Nat.digitChar (n / 16), Nat.digitChar (n % 16)] =
      [0x5C, 0x75, 0x30, 0x30, (Nat.digitChar (n / 16)).toUInt8,
        (Nat.digitChar (n % 16)).toUInt8] := by
  revert n
  decide

private theorem scan_escape (ts : List Token) (units : List TextUnit) {n : Nat} (h : n < 0x20) :
    (bytes ['\\', 'u', '0', '0', Nat.digitChar (n / 16), Nat.digitChar (n % 16)]).foldl
      Scanner.step ⟨ts, .text units .none⟩ = ⟨ts, .text (.code n :: units) .none⟩ := by
  rw [bytes_escape h]
  change Scanner.stepText ⟨ts, .text units (.hex _)⟩ units
    (.hex [(Nat.digitChar (n / 16)).toUInt8, 0x30, 0x30]) (Nat.digitChar (n % 16)).toUInt8 = _
  simp only [Scanner.stepText, hexUnit?_escape h]
  rfl

/-- The scanner takes one written character of a string into the content. -/
theorem scan_escapeChar (ts : List Token) (units : List TextUnit) (c : Char) :
    (bytes (escapeChar c)).foldl Scanner.step ⟨ts, .text units .none⟩ =
      ⟨ts, .text ((charUnits c).reverse ++ units) .none⟩ := by
  unfold escapeChar
  simp only [beq_iff_eq]
  split
  · next h => subst h; rfl
  split
  · next h => subst h; rfl
  split
  · next h => subst h; rfl
  split
  · next h => subst h; rfl
  split
  · next h => subst h; rfl
  split
  · next h => subst h; rfl
  split
  · next h => subst h; rfl
  split
  · next hb hf hn hr ht hl =>
    rw [scan_escape ts units hl, charUnits, if_pos ⟨hl, hb, hf, hn, hr, ht⟩]
    rfl
  · next hq hs _ _ _ _ _ hl =>
    have hp (b : UInt8) : b ∈ bytes [c] → IsPlain b := by
      rw [bytes_cons, bytes_nil, List.append_nil]
      exact isPlain_of_mem hq hs (Nat.le_of_not_lt hl)
    rw [scan_plains ts hp, charUnits, if_neg fun h ↦ hl h.1, bytes_cons, bytes_nil,
      List.append_nil]

private theorem scan_escapes (ts : List Token) (units : List TextUnit) (cs : List Char) :
    (bytes (cs.flatMap escapeChar)).foldl Scanner.step ⟨ts, .text units .none⟩ =
      ⟨ts, .text ((cs.flatMap charUnits).reverse ++ units) .none⟩ := by
  induction cs generalizing units with
  | nil => rfl
  | cons c cs ih =>
    rw [List.flatMap_cons, bytes_append, List.foldl_append, scan_escapeChar, ih,
      List.flatMap_cons, List.reverse_append, List.append_assoc]

private theorem joinUnits_bytes (bs : List UInt8) (units : List TextUnit) :
    joinUnits none (bs.map .byte ++ units) =
      (joinUnits none units).map fun (cs, waits) ↦ (bs ++ cs, waits) := by
  induction bs with
  | nil => simp
  | cons b bs ih =>
    rw [List.map_cons, List.cons_append, joinUnits, ih, Option.map_map]
    rfl

private theorem joinUnits_charUnits (c : Char) (units : List TextUnit) :
    joinUnits none (charUnits c ++ units) =
      (joinUnits none units).map fun (bs, waits) ↦ (String.utf8EncodeChar c ++ bs, waits) := by
  unfold charUnits
  split
  · next h =>
    have hl : isLeading c.toNat = false := by simp [isLeading]; omega
    have ht : isTrailing c.toNat = false := by simp [isTrailing]; omega
    rw [List.singleton_append, joinUnits, if_neg (by simp [hl]), if_neg (by simp [ht]),
      encodeCode, Char.ofNat_toNat]
  · exact joinUnits_bytes _ units

private theorem joinUnits_chars (cs : List Char) :
    joinUnits none (cs.flatMap charUnits) = some (bytes cs, false) := by
  induction cs with
  | nil => rfl
  | cons c cs ih =>
    rw [List.flatMap_cons, joinUnits_charUnits, ih]
    rfl

/-- The content that a written string has is the string. -/
theorem textOf_charUnits (s : String) : textOf (s.toList.flatMap charUnits) = some s := by
  simp only [textOf, joinUnits_chars, fromUTF8?_bytes]

/-- The scanner takes a written string as one token. -/
theorem scan_stringText (ts : List Token) (s : String) :
    (bytes (stringText s)).foldl Scanner.step ⟨ts, .between⟩ =
      ⟨.text (some s) :: ts, .between⟩ := by
  rw [stringText, List.cons_append, bytes_cons, List.foldl_append, bytes_append,
    List.foldl_append]
  change (bytes ['"']).foldl Scanner.step
    ((bytes (s.toList.flatMap escapeChar)).foldl Scanner.step ⟨ts, .text [] .none⟩) = _
  rw [scan_escapes, List.append_nil]
  change (⟨.text (textOf (s.toList.flatMap charUnits).reverse.reverse) :: ts, .between⟩ :
    Scanner) = _
  rw [List.reverse_reverse, textOf_charUnits]

end SeriesFilter.Json
