import SeriesFilter.Base64Url
import SeriesFilter.Proofs.Outcome
import SeriesFilter.Proofs.Text.Bytes

/-!
# Base64 read back

The symbols are ASCII letters, digits, `-` and `_`, and each stands for one six-bit number. What
encoding writes, decoding reads: every list of bytes comes back from its symbols, whether the last
group is full or not.
-/

namespace SeriesFilter.Base64Url

open Text

/-- The characters that may stand in an encoding. -/
def isSymbol (c : Char) : Bool :=
  c.isAlphanum || c == '-' || c == '_'

/-- A symbol is one of the characters of the alphabet. -/
theorem isSymbol_symbol {n : Nat} (h : n < 64) : isSymbol (symbol n) = true := by
  revert n
  decide

/-- Symbols are ASCII characters. -/
theorem ascii_symbol {n : Nat} (h : n < 64) : (symbol n).toNat < 128 := by
  revert n
  decide

/-- The number of a symbol is read back. -/
theorem sextet?_symbol {n : Nat} (h : n < 64) : sextet? (symbol n).toUInt8 = some n := by
  revert n
  decide

/-- No symbol is padding. -/
theorem symbol_ne_pad {n : Nat} (h : n < 64) : (symbol n).toUInt8 ≠ pad := by
  revert n
  decide

/-- The six-bit numbers that encoding makes of a list of bytes. -/
def sextets : List UInt8 → List Nat
  | [] => []
  | [a] => [a.toNat / 4, a.toNat % 4 * 16]
  | [a, b] => [a.toNat / 4, a.toNat % 4 * 16 + b.toNat / 16, b.toNat % 16 * 4]
  | a :: b :: c :: rest =>
    a.toNat / 4 :: (a.toNat % 4 * 16 + b.toNat / 16) :: (b.toNat % 16 * 4 + c.toNat / 64) ::
      c.toNat % 64 :: sextets rest

/-- Encoding writes the symbols of the six-bit numbers. -/
theorem encode_eq_map (bs : List UInt8) : encode bs = (sextets bs).map symbol := by
  fun_induction encode bs with
  | case1 => rfl
  | case2 a => rfl
  | case3 a b => rfl
  | case4 a b c rest ih => rw [ih]; rfl

/-- The six-bit numbers have six bits. -/
theorem lt_of_mem_sextets {bs : List UInt8} {n : Nat} (h : n ∈ sextets bs) : n < 64 := by
  fun_induction sextets bs with
  | case1 => simp at h
  | case2 a =>
    have ha := a.toNat_lt
    simp only [List.mem_cons, List.not_mem_nil, or_false] at h
    omega
  | case3 a b =>
    have ha := a.toNat_lt
    have hb := b.toNat_lt
    simp only [List.mem_cons, List.not_mem_nil, or_false] at h
    omega
  | case4 a b c rest ih =>
    have ha := a.toNat_lt
    have hb := b.toNat_lt
    have hc := c.toNat_lt
    simp only [List.mem_cons] at h
    rcases h with h | h | h | h | h
    · omega
    · omega
    · omega
    · omega
    · exact ih h

/-- An encoding holds characters of the alphabet only. -/
theorem isSymbol_of_mem_encode {bs : List UInt8} {c : Char} (h : c ∈ encode bs) :
    isSymbol c = true := by
  rw [encode_eq_map] at h
  obtain ⟨n, hn, rfl⟩ := List.mem_map.mp h
  exact isSymbol_symbol (lt_of_mem_sextets hn)

/-- The bytes of an encoding are those of its symbols, one each. -/
theorem bytes_encode (bs : List UInt8) :
    bytes (encode bs) = (sextets bs).map fun n ↦ (symbol n).toUInt8 := by
  rw [encode_eq_map, bytes_of_ascii, List.map_map]
  · rfl
  · intro c hc
    obtain ⟨n, hn, rfl⟩ := List.mem_map.mp hc
    exact ascii_symbol (lt_of_mem_sextets hn)

private theorem sextet_symbol (offset : Nat) {n : Nat} (h : n < 64) :
    sextet offset (symbol n).toUInt8 = .ok n := by
  rw [sextet, sextet?_symbol h]

private theorem lastSextets_symbols (offset : Nat) {ns : List Nat} (h : ∀ n ∈ ns, n < 64) :
    lastSextets offset (ns.map fun n ↦ (symbol n).toUInt8) = .ok (ns, false) := by
  have go (index : Nat) :
      lastSextets.go offset index none (ns.map fun n ↦ (symbol n).toUInt8) =
        .ok (ns, false) := by
    induction ns generalizing index with
    | nil => rfl
    | cons n ns ih =>
      have hn : n < 64 := h n List.mem_cons_self
      have hs := ih (fun m hm ↦ h m (List.mem_cons_of_mem n hm)) (index + 1)
      rw [List.map_cons, lastSextets.go, if_neg (symbol_ne_pad hn), sextet_symbol _ hn, hs]
      rfl
  exact go 0

private theorem joinFour_sextets (a b c : UInt8) :
    joinFour (a.toNat / 4) (a.toNat % 4 * 16 + b.toNat / 16) (b.toNat % 16 * 4 + c.toNat / 64)
      (c.toNat % 64) = [a, b, c] := by
  have hb := b.toNat_lt
  have hc := c.toNat_lt
  have h₁ : a.toNat / 4 * 4 + (a.toNat % 4 * 16 + b.toNat / 16) / 16 = a.toNat := by omega
  have h₂ : (a.toNat % 4 * 16 + b.toNat / 16) % 16 * 16 + (b.toNat % 16 * 4 + c.toNat / 64) / 4 =
      b.toNat := by omega
  have h₃ : (b.toNat % 16 * 4 + c.toNat / 64) % 4 * 64 + c.toNat % 64 = c.toNat := by omega
  rw [joinFour, h₁, h₂, h₃]
  simp only [Nat.toUInt8, UInt8.ofNat_toNat]

private theorem decodeLast_one (offset : Nat) (a : UInt8) :
    decodeLast offset ((sextets [a]).map fun n ↦ (symbol n).toUInt8) = .ok [a] := by
  have ha := a.toNat_lt
  have hu : a.toNat % 4 * 16 % 16 = 0 := by omega
  have hv : a.toNat / 4 * 4 + a.toNat % 4 * 16 / 16 = a.toNat := by omega
  rw [decodeLast, lastSextets_symbols offset fun _ ↦ lt_of_mem_sextets]
  change (if a.toNat % 4 * 16 % 16 = 0 then Except.ok [(_ : Nat).toUInt8] else _) = _
  rw [if_pos hu, hv]
  simp only [Nat.toUInt8, UInt8.ofNat_toNat]

private theorem decodeLast_two (offset : Nat) (a b : UInt8) :
    decodeLast offset ((sextets [a, b]).map fun n ↦ (symbol n).toUInt8) = .ok [a, b] := by
  have hb := b.toNat_lt
  have hu : b.toNat % 16 * 4 % 4 = 0 := by omega
  have h₁ : a.toNat / 4 * 4 + (a.toNat % 4 * 16 + b.toNat / 16) / 16 = a.toNat := by omega
  have h₂ : (a.toNat % 4 * 16 + b.toNat / 16) % 16 * 16 + b.toNat % 16 * 4 / 4 = b.toNat := by
    omega
  rw [decodeLast, lastSextets_symbols offset fun _ ↦ lt_of_mem_sextets]
  change (if b.toNat % 16 * 4 % 4 = 0 then
    Except.ok [(_ : Nat).toUInt8, (_ : Nat).toUInt8] else _) = _
  rw [if_pos hu, h₁, h₂]
  simp only [Nat.toUInt8, UInt8.ofNat_toNat]

private theorem decodeLast_three (offset : Nat) (a b c : UInt8) :
    decodeLast offset ((sextets [a, b, c]).map fun n ↦ (symbol n).toUInt8) =
      .ok [a, b, c] := by
  rw [decodeLast, lastSextets_symbols offset fun _ ↦ lt_of_mem_sextets]
  exact congrArg Except.ok (joinFour_sextets a b c)

private theorem sextets_cons (a : UInt8) (rest : List UInt8) :
    ∃ n ns, sextets (a :: rest) = n :: ns := by
  rcases rest with _ | ⟨b, _ | ⟨c, rest⟩⟩ <;> exact ⟨_, _, rfl⟩

private theorem decodeFrom_sextets (bs : List UInt8) (offset : Nat) :
    decodeFrom offset ((sextets bs).map fun n ↦ (symbol n).toUInt8) = .ok bs := by
  fun_induction sextets bs generalizing offset with
  | case1 => rfl
  | case2 a => exact decodeLast_one offset a
  | case3 a b => exact decodeLast_two offset a b
  | case4 a b c rest ih =>
    cases rest with
    | nil => exact decodeLast_three offset a b c
    | cons d rest =>
      have ha := a.toNat_lt
      have hb := b.toNat_lt
      have hc := c.toNat_lt
      -- The rest is not empty, so the group of `a`, `b` and `c` is full and more follows it.
      obtain ⟨n, ns, hn⟩ := sextets_cons d rest
      have hr := ih (offset + 4)
      rw [hn, List.map_cons] at hr
      rw [hn]
      simp only [List.map_cons, decodeFrom]
      rw [sextet_symbol offset (by omega), sextet_symbol (offset + 1) (by omega),
        sextet_symbol (offset + 2) (by omega), sextet_symbol (offset + 3) (by omega), hr]
      change Except.ok (joinFour _ _ _ _ ++ d :: rest) = _
      rw [joinFour_sextets]
      rfl

/-- Decoding reads back the bytes that were encoded. -/
theorem decode_encode (bs : List UInt8) : decode (bytes (encode bs)) = .ok bs := by
  rw [bytes_encode, decode]
  split
  · next stray h =>
    obtain ⟨n, hn, rfl⟩ := List.mem_map.mp (List.mem_of_getLast? h)
    have hs := sextet?_symbol (lt_of_mem_sextets hn)
    rw [if_neg (by simp [hs]), decodeFrom_sextets]
  · next h =>
    have hn : sextets bs = [] := by simpa using h
    cases bs with
    | nil => rfl
    | cons a rest =>
      obtain ⟨n, ns, hs⟩ := sextets_cons a rest
      rw [hs] at hn
      cases hn

/-! ### Four symbols hold three bytes -/

private theorem length_go_le {offset index : Nat} {firstPad : Option Nat} {last : List UInt8}
    {ns : List Nat} {padded : Bool}
    (h : lastSextets.go offset index firstPad last = .ok (ns, padded)) :
    ns.length ≤ last.length := by
  fun_induction lastSextets.go offset index firstPad last generalizing ns padded with
  | case1 =>
    cases h
    exact Nat.le_refl 0
  | case2 => cases h
  | case3 _ _ _ _ ih => exact Nat.le_succ_of_le (ih h)
  | case4 => cases h
  | case5 _ _ _ _ ih =>
    obtain ⟨n, -, h⟩ := bind_eq_ok_iff.mp h
    obtain ⟨⟨more, padded⟩, hm, he⟩ := bind_eq_ok_iff.mp h
    cases he
    exact Nat.succ_le_succ (ih hm)

private theorem length_decodeLast_le {offset : Nat} {last bs : List UInt8}
    (h : decodeLast offset last = .ok bs) : 4 * bs.length ≤ 3 * last.length := by
  obtain ⟨⟨ns, padded⟩, hl, h⟩ := bind_eq_ok_iff.mp h
  have hn : ns.length ≤ last.length := length_go_le hl
  have hu {test : Prop} [Decidable test] {kept : List UInt8} {e : DecodeError}
      (hk : (if test then .ok kept else .error e) = Except.ok bs) : bs = kept := by
    split at hk
    · exact (Except.ok.inj hk).symm
    · cases hk
  dsimp only at h
  split at h
  · cases h
  · split at h
    · cases h
    · split at h
      · rw [hu h]
        simp only [List.length_cons, List.length_nil] at hn ⊢
        omega
      · rw [hu h]
        simp only [List.length_cons, List.length_nil] at hn ⊢
        omega
      · cases h
        simp only [joinFour, List.length_cons, List.length_nil] at hn ⊢
        omega
      · cases h
        exact Nat.zero_le _

private theorem length_decodeFrom_le {offset : Nat} {text bs : List UInt8}
    (h : decodeFrom offset text = .ok bs) : 4 * bs.length ≤ 3 * text.length := by
  fun_induction decodeFrom offset text generalizing bs with
  | case1 =>
    cases h
    exact Nat.le_refl 0
  | case2 offset a b c d e rest ih =>
    obtain ⟨a, -, h⟩ := bind_eq_ok_iff.mp h
    obtain ⟨b, -, h⟩ := bind_eq_ok_iff.mp h
    obtain ⟨c, -, h⟩ := bind_eq_ok_iff.mp h
    obtain ⟨d, -, h⟩ := bind_eq_ok_iff.mp h
    obtain ⟨more, hm, he⟩ := bind_eq_ok_iff.mp h
    cases he
    have hr := ih hm
    simp only [joinFour, List.length_append, List.length_cons, List.length_nil] at hr ⊢
    omega
  | case3 => exact length_decodeLast_le h

/-- Of four symbols come at most three bytes. -/
theorem length_decode_le {text bs : List UInt8} (h : decode text = .ok bs) :
    4 * bs.length ≤ 3 * text.length := by
  rw [decode] at h
  split at h
  · split at h
    · cases h
    · exact length_decodeFrom_le h
  · cases h
    exact Nat.zero_le _

end SeriesFilter.Base64Url
