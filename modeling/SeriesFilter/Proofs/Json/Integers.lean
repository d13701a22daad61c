import SeriesFilter.Json.Scanner
import SeriesFilter.Json.Value
import SeriesFilter.Proofs.Text.Bytes
import SeriesFilter.Proofs.Text.Numerals

/-!
# Integers read back

The scanner knows that a number is over only when it sees what follows. `Scanner.settle` is the
scanner with a number that may end here taken as a token; the next byte and the end of the text
make no difference between the two. Up to that, a written integer is one token, and the token
gives the integer back as long as it fits 64 bits.
-/

namespace SeriesFilter.Json

open Text

/-- The scanner with a number that may end here taken as over. -/
def Scanner.settle (s : Scanner) : Scanner :=
  match s.mode with
  | .numeral draft => if draft.isComplete then s.emit (.number draft.finish) else s
  | _ => s

/-- A byte that does not go on with a number. -/
def EndsNumber (b : UInt8) : Prop :=
  (Char.ofUInt8 b).isDigit = false ∧ Char.ofUInt8 b ≠ '.' ∧ Char.ofUInt8 b ≠ 'e' ∧
    Char.ofUInt8 b ≠ 'E'

private theorem push?_of_endsNumber {draft : NumeralDraft} {b : UInt8} (h : EndsNumber b)
    (hc : draft.isComplete = true) : draft.push? (Char.ofUInt8 b) = none := by
  obtain ⟨hd, hp, he, hE⟩ := h
  have hz : Char.ofUInt8 b ≠ '0' := by
    intro hz
    rw [hz] at hd
    revert hd
    decide
  unfold NumeralDraft.push?
  unfold NumeralDraft.isComplete at hc
  split <;> simp_all

/-- A byte that ends a number finds the same with the number taken as over. -/
theorem step_settle (s : Scanner) {b : UInt8} (h : EndsNumber b) :
    s.settle.step b = s.step b := by
  unfold Scanner.settle
  split
  · next draft hm =>
    split
    · next hc =>
      have hp := push?_of_endsNumber h hc
      have hd : ¬ (draft.part = .zero ∧ (Char.ofUInt8 b).isDigit = true) := by simp [h.1]
      rw [Scanner.step, Scanner.step, hm]
      simp only [hp, if_neg hd, if_pos hc]
      rfl
    · rfl
  · rfl

/-- The end of a text finds the same with the number taken as over. -/
theorem finish_settle (s : Scanner) : s.settle.finish = s.finish := by
  unfold Scanner.settle
  split
  · next draft hm =>
    split
    · next hc =>
      rw [Scanner.finish, Scanner.finish, hm]
      simp only [if_pos hc]
      rfl
    · rfl
  · rfl

/-- The number that an integer is written as. -/
def numeralOf (n : Int) : Numeral :=
  { negative := decide (n < 0), whole := Nat.toDigits 10 n.natAbs }

private theorem bytes_digit {c : Char} (h : c.isDigit = true) :
    bytes [c] = [c.toUInt8] ∧ Char.ofUInt8 c.toUInt8 = c := by
  rcases digit_cases h with rfl | rfl | rfl | rfl | rfl | rfl | rfl | rfl | rfl | rfl <;>
    exact ⟨by decide, by decide⟩

/-- A digit between tokens begins a number. -/
private theorem begin_digit (ts : List Token) {c : Char} (h : c.isDigit = true) :
    Scanner.step ⟨ts, .between⟩ c.toUInt8 =
      Scanner.step ⟨ts, .numeral ⟨.sign, { whole := [] }⟩⟩ c.toUInt8 := by
  rcases digit_cases h with rfl | rfl | rfl | rfl | rfl | rfl | rfl | rfl | rfl | rfl <;> rfl

private theorem scan_firstDigit (ts : List Token) (negative : Bool) {c : Char}
    (h : c.isDigit = true) (hz : c ≠ '0') :
    Scanner.step ⟨ts, .numeral ⟨.sign, { negative, whole := [] }⟩⟩ c.toUInt8 =
      ⟨ts, .numeral ⟨.whole, { negative, whole := [c] }⟩⟩ := by
  rw [Scanner.step, (bytes_digit h).2]
  simp only [NumeralDraft.push?, beq_eq_false_iff_ne.mpr hz, h, Bool.false_eq_true, if_true,
    if_false]
  rfl

private theorem scan_moreDigits (ts : List Token) (negative : Bool) (whole : List Char)
    {cs : List Char} (h : ∀ c ∈ cs, c.isDigit = true) :
    (bytes cs).foldl Scanner.step ⟨ts, .numeral ⟨.whole, { negative, whole }⟩⟩ =
      ⟨ts, .numeral ⟨.whole, { negative, whole := cs.reverse ++ whole }⟩⟩ := by
  induction cs generalizing whole with
  | nil => rfl
  | cons c cs ih =>
    have hc := h c List.mem_cons_self
    have hs : Scanner.step ⟨ts, .numeral ⟨.whole, { negative, whole }⟩⟩ c.toUInt8 =
        ⟨ts, .numeral ⟨.whole, { negative, whole := c :: whole }⟩⟩ := by
      rw [Scanner.step, (bytes_digit hc).2]
      simp only [NumeralDraft.push?, hc, if_true]
      rfl
    rw [← List.singleton_append, bytes_append, (bytes_digit hc).1, List.singleton_append,
      List.foldl_cons, hs, ih (c :: whole) fun d hd ↦ h d (List.mem_cons_of_mem c hd)]
    simp

/-- The digits of a positive number are digits, and the first one is not zero. -/
private theorem toDigits_pos {k : Nat} (hk : 0 < k) :
    ∃ c cs, Nat.toDigits 10 k = c :: cs ∧ c ≠ '0' := by
  induction k using Nat.strongRecOn with
  | ind k ih =>
    by_cases hl : k < 10
    · refine ⟨Nat.digitChar k, [], Nat.toDigits_of_lt_base hl, ?_⟩
      intro hz
      have hn := Nat.toNat_digitChar_sub_48_of_lt_ten hl
      rw [hz] at hn
      have hv : ('0' : Char).toNat - 48 = 0 := by decide
      omega
    · obtain ⟨c, cs, hc, hz⟩ := ih (k / 10) (by omega) (by omega)
      refine ⟨c, cs ++ [Nat.digitChar (k % 10)], ?_, hz⟩
      rw [Nat.toDigits_of_base_le (by decide) (Nat.le_of_not_lt hl), hc, List.cons_append]

/-- The digits of a number after its sign are read to its end. -/
private theorem scan_toDigits (ts : List Token) (negative : Bool) (k : Nat) :
    ((bytes (Nat.toDigits 10 k)).foldl Scanner.step
      ⟨ts, .numeral ⟨.sign, { negative, whole := [] }⟩⟩).settle =
      ⟨.number { negative, whole := Nat.toDigits 10 k } :: ts, .between⟩ := by
  rcases Nat.eq_zero_or_pos k with rfl | hk
  · rfl
  · obtain ⟨c, cs, hc, hz⟩ := toDigits_pos hk
    have hd (d : Char) (hm : d ∈ c :: cs) : d.isDigit = true :=
      isDigit_of_mem_toDigits (n := k) (by rw [hc]; exact hm)
    have hcd := hd c List.mem_cons_self
    rw [hc, ← List.singleton_append, bytes_append, (bytes_digit hcd).1, List.singleton_append,
      List.foldl_cons, scan_firstDigit ts negative hcd hz,
      scan_moreDigits ts negative [c] fun d hm ↦ hd d (List.mem_cons_of_mem c hm)]
    simp [Scanner.settle, NumeralDraft.isComplete, Scanner.emit, NumeralDraft.finish]

/-- The scanner takes a written integer as one token. -/
theorem scan_integerText (ts : List Token) (n : Int) :
    ((bytes (integerText n)).foldl Scanner.step ⟨ts, .between⟩).settle =
      ⟨.number (numeralOf n) :: ts, .between⟩ := by
  cases n with
  | ofNat k =>
    have hne : Nat.toDigits 10 k ≠ [] := Nat.toDigits_ne_nil
    have hs := scan_toDigits ts false k
    change ((bytes (Nat.toDigits 10 k)).foldl Scanner.step ⟨ts, .between⟩).settle = _
    obtain ⟨c, cs, hc⟩ := List.exists_cons_of_ne_nil hne
    have hcd : c.isDigit = true :=
      isDigit_of_mem_toDigits (n := k) (by rw [hc]; exact List.mem_cons_self)
    rw [hc, ← List.singleton_append, bytes_append, (bytes_digit hcd).1, List.singleton_append,
      List.foldl_cons] at hs ⊢
    rw [begin_digit ts hcd, hs, List.singleton_append, ← hc, numeralOf, Int.ofNat_eq_natCast,
      Int.natAbs_natCast, decide_eq_false (Int.not_lt.mpr (Int.natCast_nonneg k))]
  | negSucc k =>
    have hs := scan_toDigits ts true (k + 1)
    change ((bytes (Nat.toDigits 10 (k + 1))).foldl Scanner.step
      ⟨ts, .numeral ⟨.sign, { negative := true, whole := [] }⟩⟩).settle = _
    rw [hs, numeralOf, decide_eq_true (Int.negSucc_lt_zero k)]
    rfl

/-- An integer of at most 64 bits is read back from the number it is written as. -/
theorem integer?_numeralOf {n : Int} (hl : -0x8000000000000000 ≤ n)
    (hg : n ≤ 0xFFFFFFFFFFFFFFFF) : (numeralOf n).integer? = some n := by
  rw [Numeral.integer?, numeralOf]
  simp only [natural?_eq_some_iff.mpr (isDigits_toDigits n.natAbs)]
  by_cases hn : n < 0
  · have ha : ¬ (n.natAbs = 0 ∨ 0x8000000000000000 < n.natAbs) := by omega
    rw [decide_eq_true hn, if_pos rfl, if_neg ha]
    congr 1
    change -(n.natAbs : Int) = n
    omega
  · have ha : n.natAbs ≤ maxNat64 := by
      unfold maxNat64
      omega
    rw [decide_eq_false hn, if_neg (by decide), if_pos ha]
    congr 1
    change (n.natAbs : Int) = n
    omega

end SeriesFilter.Json
