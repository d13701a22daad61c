import SeriesFilter.Text.Blank
import SeriesFilter.Text.Numeral

/-!
# Numerals

Digits denote a number in the decimal system, whatever zeros stand before it, and a numeral is an
optional sign and at least one digit. The readers take exactly the numerals, and those with bounds
the numerals of the integers within them. Digits and signs are neither blanks nor letters.
-/

namespace SeriesFilter.Text

/-! ### Digits -/

section Digits

variable {c : Char} {cs : List Char} {n : Nat}

/-- The codes of the digits follow each other. -/
theorem toNat_of_isDigit (h : c.isDigit = true) : 48 ≤ c.toNat ∧ c.toNat ≤ 57 := by
  simpa [Char.isDigit, UInt32.le_iff_toNat_le] using h

/-- A digit is no blank. -/
theorem isBlank_of_isDigit (h : c.isDigit = true) : isBlank c = false := by
  have hc := toNat_of_isDigit h
  rw [← Bool.not_eq_true]
  simp only [isBlank, Bool.or_eq_true, Bool.and_eq_true, decide_eq_true_eq, beq_iff_eq]
  omega

/-- There are ten digits. -/
theorem digit_cases (h : c.isDigit = true) :
    c = '0' ∨ c = '1' ∨ c = '2' ∨ c = '3' ∨ c = '4' ∨ c = '5' ∨ c = '6' ∨ c = '7' ∨ c = '8' ∨
      c = '9' := by
  have hd := toNat_of_isDigit h
  have hn : c.toNat = 48 ∨ c.toNat = 49 ∨ c.toNat = 50 ∨ c.toNat = 51 ∨ c.toNat = 52 ∨
      c.toNat = 53 ∨ c.toNat = 54 ∨ c.toNat = 55 ∨ c.toNat = 56 ∨ c.toNat = 57 := by omega
  rw [← Char.ofNat_toNat c]
  rcases hn with h | h | h | h | h | h | h | h | h | h <;> rw [h] <;> decide

/-- A digit is no letter. -/
theorem isLetter_of_isDigit (h : c.isDigit = true) : isLetter c = false := by
  rcases digit_cases h with rfl | rfl | rfl | rfl | rfl | rfl | rfl | rfl | rfl | rfl <;> rfl

/-- A number is written in digits. -/
theorem isDigit_of_mem_toDigits (h : c ∈ Nat.toDigits 10 n) : c.isDigit = true :=
  Nat.isDigit_of_mem_toDigits (by decide) (by decide) h

/-- A mark that is no digit stands in no number. -/
theorem notMem_toDigits (h : c.isDigit = false) (n : Nat) : c ∉ Nat.toDigits 10 n := by
  intro hm
  rw [isDigit_of_mem_toDigits hm] at h
  cases h

/-- Digits behind others of some value are read as the number that all of them denote, and nothing
but digits is read. -/
theorem digitsFrom_eq_some_iff {value : Nat} :
    digitsFrom value cs = some n ↔
      (∀ c ∈ cs, c.isDigit = true) ∧ Nat.ofDigitChars 10 cs value = n := by
  induction cs generalizing value with
  | nil => simp [digitsFrom]
  | cons c cs ih =>
    rw [digitsFrom, digit?, List.forall_mem_cons, Nat.ofDigitChars_cons]
    cases hc : c.isDigit with
    | true => simp [ih]
    | false => simp

/-- Decimal digits, at least one, and the number that they denote. -/
structure IsDigits (cs : List Char) (n : Nat) : Prop where
  ne_nil : cs ≠ []
  isDigit : ∀ c ∈ cs, c.isDigit = true
  value : Nat.ofDigitChars 10 cs 0 = n

/-- Digits, at least one, are read as the number that they denote. -/
theorem natural?_eq_some_iff : natural? cs = some n ↔ IsDigits cs n := by
  cases cs with
  | nil => exact iff_of_false nofun fun h ↦ h.ne_nil rfl
  | cons c cs =>
    rw [natural?, digitsFrom_eq_some_iff]
    exact ⟨fun ⟨hd, hv⟩ ↦ ⟨nofun, hd, hv⟩, fun h ↦ ⟨h.isDigit, h.value⟩⟩

/-- The digits in which a number is written denote it. -/
theorem isDigits_toDigits (n : Nat) : IsDigits (Nat.toDigits 10 n) n :=
  ⟨Nat.toDigits_ne_nil, fun _ ↦ isDigit_of_mem_toDigits, Nat.ofDigitChars_ten_toDigits⟩

end Digits

/-! ### Signs -/

/-- A numeral and the integer that it denotes: digits, with a sign before them or without one. -/
inductive IsNumeral : List Char → Int → Prop
  | unsigned {cs : List Char} {n : Nat} (h : IsDigits cs n) : IsNumeral cs n
  | plus {cs : List Char} {n : Nat} (h : IsDigits cs n) : IsNumeral ('+' :: cs) n
  | minus {cs : List Char} {n : Nat} (h : IsDigits cs n) : IsNumeral ('-' :: cs) (-n)

section Numerals

variable {s : List Char} {n : Int}

/-- A numeral holds digits and signs. -/
theorem IsNumeral.mem_cases (h : IsNumeral s n) {c : Char} (hc : c ∈ s) :
    c.isDigit = true ∨ c = '+' ∨ c = '-' := by
  cases h with
  | unsigned h => exact .inl (h.isDigit c hc)
  | plus h => exact (List.mem_cons.mp hc).elim (.inr ∘ .inl) (.inl ∘ h.isDigit c)
  | minus h => exact (List.mem_cons.mp hc).elim (.inr ∘ .inr) (.inl ∘ h.isDigit c)

/-- No character of a numeral is blank. -/
theorem IsNumeral.isBlank_of_mem (h : IsNumeral s n) {c : Char} (hc : c ∈ s) :
    isBlank c = false := by
  rcases h.mem_cases hc with hd | rfl | rfl
  · exact isBlank_of_isDigit hd
  · rfl
  · rfl

/-- No character of a numeral is a letter. -/
theorem IsNumeral.isLetter_of_mem (h : IsNumeral s n) {c : Char} (hc : c ∈ s) :
    isLetter c = false := by
  rcases h.mem_cases hc with hd | rfl | rfl
  · exact isLetter_of_isDigit hd
  · rfl
  · rfl

/-- A numeral is not empty. -/
theorem IsNumeral.ne_nil (h : IsNumeral s n) : s ≠ [] := by
  cases h with
  | unsigned h => exact h.ne_nil
  | plus => exact List.cons_ne_nil _ _
  | minus => exact List.cons_ne_nil _ _

/-- Numerals, and nothing else, are read as the integers that they denote. -/
theorem integer?_eq_some_iff : integer? s = some n ↔ IsNumeral s n := by
  constructor
  · intro h
    unfold integer? at h
    split at h
    · obtain ⟨m, hm, rfl⟩ := Option.map_eq_some_iff.mp h
      exact .plus (natural?_eq_some_iff.mp hm)
    · obtain ⟨m, hm, rfl⟩ := Option.map_eq_some_iff.mp h
      exact .minus (natural?_eq_some_iff.mp hm)
    · obtain ⟨m, hm, rfl⟩ := Option.map_eq_some_iff.mp h
      exact .unsigned (natural?_eq_some_iff.mp hm)
  · intro h
    cases h with
    | unsigned h =>
      have hn := natural?_eq_some_iff.mpr h
      -- Digits begin with no sign, so that the last row of the reader takes them.
      unfold integer?
      split
      · exact absurd (h.isDigit '+' List.mem_cons_self) (by decide)
      · exact absurd (h.isDigit '-' List.mem_cons_self) (by decide)
      · rw [hn]
        rfl
    | plus h =>
      rw [integer?, natural?_eq_some_iff.mpr h]
      rfl
    | minus h =>
      rw [integer?, natural?_eq_some_iff.mpr h]
      rfl

/-- Numerals of the integers from zero to the greatest signed 64-bit integer, and nothing else, are
read as counts. -/
theorem count?_eq_some_iff {count : Nat} :
    count? s = some count ↔ IsNumeral s count ∧ count ≤ maxInt64 := by
  rw [count?, int64?, Option.map_eq_some_iff]
  simp only [Option.filter_eq_some_iff, integer?_eq_some_iff, Bool.and_eq_true, decide_eq_true_eq]
  constructor
  · rintro ⟨n, ⟨⟨hn, -, hg⟩, hz⟩, rfl⟩
    rw [Int.toNat_of_nonneg hz]
    exact ⟨hn, by omega⟩
  · rintro ⟨hn, hg⟩
    exact ⟨count, ⟨⟨hn, by omega, by omega⟩, by omega⟩, Int.toNat_natCast count⟩

end Numerals

end SeriesFilter.Text
