import SeriesFilter.Proofs.Calendar.Days
import SeriesFilter.Proofs.Outcome
import SeriesFilter.Proofs.Text.Numerals

/-!
# Reading what was written

Numbers with zeros before them are read back, whatever stands after them, if no further digit can
be taken for one of theirs. So a date is read back as the number of its day, and its midnight,
written as an instant, as that instant; and the latter is not read as a date.
-/

namespace SeriesFilter.Calendar

open Text

/-! ### Digits -/

section Digits

variable {width n : Nat} {c : Char}

/-- Numbers are written in digits alone. -/
theorem isDigit_of_mem_padded (width n : Nat) : ∀ c ∈ padded width n, c.isDigit = true := by
  intro c h
  rcases List.mem_append.mp h with h | h
  · rw [List.eq_of_mem_replicate h]
    rfl
  · exact isDigit_of_mem_toDigits h

/-- A number begins with a digit. -/
theorem exists_padded_eq_cons (width n : Nat) :
    ∃ c cs, padded width n = c :: cs ∧ c.isDigit = true := by
  have hne : padded width n ≠ [] := List.append_ne_nil_of_right_ne_nil _ Nat.toDigits_ne_nil
  obtain ⟨c, cs, hc⟩ := List.exists_cons_of_ne_nil hne
  have hm : c ∈ padded width n := by
    rw [hc]
    exact List.mem_cons_self
  exact ⟨c, cs, hc, isDigit_of_mem_padded width n c hm⟩

/-- A number that is not too large has the width asked for. -/
theorem length_padded (h : (Nat.toDigits 10 n).length ≤ width) :
    (padded width n).length = width := by
  rw [padded, List.length_append, List.length_replicate]
  omega

/-- Zeros before a number do not count. -/
theorem value_padded : Scan.value (padded width n) = n := by
  change Nat.ofDigitChars 10 (List.replicate _ '0' ++ Nat.toDigits 10 n) 0 = n
  rw [Nat.ofDigitChars_append, Nat.ofDigitChars_replicate_zero, Nat.mul_zero,
    Nat.ofDigitChars_ten_toDigits]

/-- A digit is one byte. -/
theorem utf8Size_of_isDigit (h : c.isDigit = true) : c.utf8Size = 1 := by
  have hc := toNat_of_isDigit h
  rw [Char.utf8Size_eq_one_iff, UInt32.le_iff_toNat_le]
  exact Nat.le_trans hc.2 (by decide)

end Digits

namespace Scan

section Runs

variable {run tail : List Char} {most : Nat} (hd : ∀ c ∈ run, c.isDigit = true)
  (hm : run.length ≤ most)
include hd hm

/-- Digits are taken to their end, when no more are wanted or none follows. -/
theorem digits_append (ht : run.length = most ∨ ∀ c ∈ tail.head?, c.isDigit = false) :
    digits most (run ++ tail) = (run, tail) := by
  have hstop : (tail.take (most - run.length)).takeWhile Char.isDigit = [] := by
    rcases ht with he | ht
    · rw [he, Nat.sub_self]
      rfl
    · cases tail with
      | nil => rw [List.take_nil, List.takeWhile_nil]
      | cons c rest =>
        have hc : ¬ c.isDigit = true := Bool.eq_false_iff.mp (ht c rfl)
        cases most - run.length with
        | zero => rfl
        | succ k => exact List.takeWhile_cons_of_neg hc
  have hrun : ((run ++ tail).take most).takeWhile Char.isDigit = run := by
    rw [List.take_append, List.take_of_length_le hm, List.takeWhile_append_of_pos hd, hstop,
      List.append_nil]
  rw [digits, hrun, List.drop_left]

end Runs

/-- Digits take one byte each. -/
theorem hasBytes_append {run : List Char} (hd : ∀ c ∈ run, c.isDigit = true) (tail : List Char) :
    hasBytes run.length (run ++ tail) = true := by
  have hs : run.foldr (fun c n ↦ c.utf8Size + n) 0 = run.length := by
    induction run with
    | nil => rfl
    | cons c rest ih =>
      have hc : c.utf8Size = 1 := utf8Size_of_isDigit (hd c List.mem_cons_self)
      rw [List.foldr_cons, ih fun c h ↦ hd c (List.mem_cons_of_mem _ h), hc, List.length_cons,
        Nat.add_comm]
  rw [hasBytes, List.take_left, hs]
  exact decide_eq_true (Nat.le_refl _)

section Numbers

variable {width n : Nat} (tail : List Char)

/-- A number in a fixed width is read back, whatever follows. -/
theorem fixed_padded (h : (Nat.toDigits 10 n).length ≤ width) :
    fixed width (padded width n ++ tail) = .ok (n, tail) := by
  have hl := length_padded h
  have hb : hasBytes (padded width n).length (padded width n ++ tail) = true :=
    hasBytes_append (isDigit_of_mem_padded width n) tail
  rw [hl] at hb
  rw [fixed, digits_append (isDigit_of_mem_padded width n) (Nat.le_of_eq hl) (.inl hl)]
  simp [hb, hl, value_padded]

/-- A number is read back when as many digits are taken as it has, or more and none follows. -/
theorem number_padded {most : Nat} (hm : (padded width n).length ≤ most)
    (ht : (padded width n).length = most ∨ ∀ c ∈ tail.head?, c.isDigit = false) :
    number most (padded width n ++ tail) = .ok (n, tail) := by
  rw [number, digits_append (isDigit_of_mem_padded width n) hm ht]
  obtain ⟨c, cs, hc, -⟩ := exists_padded_eq_cons width n
  have hv : value (c :: cs) = n := by rw [← hc, value_padded]
  simp [hc, hv]

/-- No blanks stand before a number. -/
theorem trimStart_padded : trimStart (padded width n ++ tail) = padded width n ++ tail := by
  obtain ⟨c, cs, hc, hd⟩ := exists_padded_eq_cons width n
  rw [hc, List.cons_append]
  refine trimStart_eq_self ?_
  rintro _ ⟨⟩
  exact isBlank_of_isDigit hd

/-- So the looser form of a number reads it as well. -/
theorem loose_padded (h : (Nat.toDigits 10 n).length ≤ width) :
    loose width (padded width n ++ tail) = .ok (n, tail) := by
  have hl := length_padded h
  rw [loose, trimStart_padded, number_padded tail (Nat.le_of_eq hl) (.inl hl)]

/-- A number in a fixed width is read back if it is within bounds. -/
theorem within_fixed_padded {low high : Nat} (h : (Nat.toDigits 10 n).length ≤ width)
    (hn : low ≤ n ∧ n ≤ high) :
    within low high (fixed width) (padded width n ++ tail) = .ok (n, tail) := by
  refine bind_eq_ok_iff.mpr ⟨_, fixed_padded tail h, ?_⟩
  exact if_pos hn

/-- The years that are written without a sign have four digits. -/
theorem length_toDigits_toNat_le {year : Int} (h : 0 ≤ year ∧ year ≤ 9999) :
    (Nat.toDigits 10 year.toNat).length ≤ 4 := by
  rw [Nat.length_toDigits_le_iff (by decide) (by decide)]
  omega

/-- A year without a sign is read by its digits. -/
theorem looseYear_padded (h : (Nat.toDigits 10 n).length ≤ 4) :
    looseYear (padded 4 n ++ tail) = .ok ((n : Int), tail) := by
  have hl := length_padded h
  have hr := number_padded tail (Nat.le_of_eq hl) (.inl hl)
  obtain ⟨c, cs, hc, hd⟩ := exists_padded_eq_cons 4 n
  rw [looseYear, trimStart_padded]
  -- A digit is no sign.
  split
  · next rest he =>
    rw [hc] at he
    cases he
    cases hd
  · next rest he =>
    rw [hc] at he
    cases he
    cases hd
  · rw [hr]
    rfl

/-- After a sign all digits are taken, here up to a hyphen. -/
theorem number_length_padded (width n : Nat) (tail : List Char) :
    number (padded width n ++ '-' :: tail).length (padded width n ++ '-' :: tail) =
      .ok (n, '-' :: tail) := by
  refine number_padded _ (by simp) (.inr ?_)
  rintro _ ⟨⟩
  rfl

/-- A year is read back when a hyphen follows. -/
theorem looseYear_yearText (year : Int) :
    looseYear (yearText year ++ '-' :: tail) = .ok (year, '-' :: tail) := by
  have hr := number_length_padded 4 year.natAbs tail
  have ht {sign : Char} (hs : isBlank sign = false) (rest : List Char) :
      trimStart (sign :: rest) = sign :: rest := trimStart_eq_self (by rintro _ ⟨⟩; exact hs)
  by_cases hy : 0 ≤ year ∧ year ≤ 9999
  · rw [yearText, if_pos hy, looseYear_padded _ (length_toDigits_toNat_le hy),
      Int.toNat_of_nonneg hy.1]
  · rw [yearText, if_neg hy, List.cons_append, looseYear]
    by_cases hneg : year < 0
    · have hv : -(year.natAbs : Int) = year := by omega
      rw [if_pos hneg, ht rfl]
      change (number _ _).map _ = _
      rw [hr]
      exact congrArg (fun y ↦ Except.ok (y, '-' :: tail)) hv
    · have hv : (year.natAbs : Int) = year := by omega
      rw [if_neg hneg, ht rfl]
      change (number _ _).map _ = _
      rw [hr]
      exact congrArg (fun y ↦ Except.ok (y, '-' :: tail)) hv

end Numbers

end Scan

/-! ### Dates and midnights -/

/-- A date as text, by year, month and day. -/
def Date.text (d : Date) : String :=
  String.ofList (yearText d.year ++ '-' :: padded 2 d.month ++ '-' :: padded 2 d.day)

namespace Date

/-- There are no blanks in a date. -/
theorem isBlank_of_mem_text {d : Date} {c : Char} (h : c ∈ d.text.toList) : isBlank c = false := by
  have hdigits {width n : Nat} (hc : c ∈ padded width n) : isBlank c = false :=
    isBlank_of_isDigit (isDigit_of_mem_padded width n c hc)
  have hyear (hc : c ∈ yearText d.year) : isBlank c = false := by
    rw [yearText] at hc
    split at hc
    · exact hdigits hc
    · rcases List.mem_cons.mp hc with rfl | hc
      · split <;> rfl
      · exact hdigits hc
  rw [text, String.toList_ofList, List.mem_append, List.mem_append, List.mem_cons,
    List.mem_cons] at h
  rcases h with (hc | rfl | hc) | rfl | hc
  · exact hyear hc
  · rfl
  · exact hdigits hc
  · rfl
  · exact hdigits hc

variable {d : Date} (h : d.isValid = true)
include h

/-- Months and days are written with two digits. -/
private theorem length_toDigits_le :
    (Nat.toDigits 10 d.month).length ≤ 2 ∧ (Nat.toDigits 10 d.day).length ≤ 2 := by
  have hb := (isValid_iff.mp h).1.le_bounds
  rw [Nat.length_toDigits_le_iff (by decide) (by decide),
    Nat.length_toDigits_le_iff (by decide) (by decide)]
  omega

/-- A date is read back when nothing follows. -/
theorem dayOfText_text_append (tail : List Char) :
    dayOfText (d.text.toList ++ tail) = (finish tail).map fun () ↦ d.number := by
  obtain ⟨hm, hd⟩ := length_toDigits_le h
  have hs : d.text.toList ++ tail =
      yearText d.year ++ '-' :: (padded 2 d.month ++ '-' :: (padded 2 d.day ++ tail)) := by
    simp [text]
  rw [hs, dayOfText, Scan.looseYear_yearText]
  change (Scan.loose 2 (padded 2 d.month ++ _)).bind _ = _
  rw [Scan.loose_padded _ hm]
  change (Scan.loose 2 (padded 2 d.day ++ _)).bind _ = _
  rw [Scan.loose_padded _ hd]
  change (finish tail).bind (fun () ↦ if d.isValid = true then _ else _) = _
  rw [if_pos h]
  cases finish tail <;> rfl

end Date

section Midnight

variable {d : Date}

/-- Midnight is written as the date with the time of day after it. -/
theorem text_start (h : d.OnCalendar) :
    d.start.text = String.ofList (d.text.toList ++ "T00:00:00Z".toList) := by
  have ht : d.start.isLeapSecond = false := rfl
  rw [Instant.text, Date.day_start, h.ofNumber_number, Date.timeOfDay_start, ht]
  simp only [Date.text, String.toList_ofList, List.append_assoc, List.cons_append]
  rfl

/-- A midnight in a year of four digits is read back. -/
theorem instantOfText_text_start (h : d.isValid = true) (hy : 0 ≤ d.year ∧ d.year ≤ 9999) :
    instantOfText d.start.text.toList = .ok d.start := by
  obtain ⟨hc, -⟩ := Date.isValid_iff.mp h
  have hb := hc.le_bounds
  obtain ⟨hm, hd⟩ := Date.length_toDigits_le h
  have hs : d.start.text.toList =
      padded 4 d.year.toNat ++ '-' :: (padded 2 d.month ++ '-' :: (padded 2 d.day ++
        "T00:00:00Z".toList)) := by
    rw [text_start hc, Date.text, yearText, if_pos hy]
    simp only [String.toList_ofList, List.append_assoc, List.cons_append]
  rw [hs]
  refine bind_eq_ok_iff.mpr ⟨_, Scan.fixed_padded _ (Scan.length_toDigits_toNat_le hy), ?_⟩
  refine bind_eq_ok_iff.mpr ⟨_, rfl, ?_⟩
  refine bind_eq_ok_iff.mpr ⟨_, Scan.within_fixed_padded _ hm ⟨hc.month_pos, hb.1⟩, ?_⟩
  refine bind_eq_ok_iff.mpr ⟨_, rfl, ?_⟩
  refine bind_eq_ok_iff.mpr ⟨_, Scan.within_fixed_padded _ hd ⟨hc.day_pos, hb.2⟩, ?_⟩
  -- What follows is the same for every date.
  have hyear : (d.year.toNat : Int) = d.year := Int.toNat_of_nonneg hy.1
  change instantAt ⟨d.year.toNat, d.month, d.day⟩ ⟨0, 0, 0, 0⟩ 0 = .ok d.start
  rw [hyear, instantAt, Date.instantAt?_midnight h]

end Midnight

end SeriesFilter.Calendar
