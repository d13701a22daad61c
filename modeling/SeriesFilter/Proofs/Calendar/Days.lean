import Mathlib.Algebra.Ring.Nat
import SeriesFilter.Calendar.Written

/-!
# Days and their dates

The dates on the calendar and the numbers of days correspond one to one, whatever the year. Numbers
are in the order of dates by year, month and day, and the date after a date has the number after
its number. A date begins at midnight; an instant falls on the date or later when it is not before
that midnight, be it in a leap second or not.
-/

namespace SeriesFilter.Calendar

/-! ### Years -/

/-- The number of days in a year. -/
def yearLength (year : Int) : Nat :=
  if isLeap year then 366 else 365

theorem isLeap_iff {year : Int} :
    isLeap year = true ↔ year % 4 = 0 ∧ (year % 100 ≠ 0 ∨ year % 400 = 0) := by
  simp [isLeap]

/-- A year begins when the year before it is over. -/
theorem daysBeforeYear_add_one (year : Int) :
    daysBeforeYear (year + 1) = daysBeforeYear year + yearLength year := by
  simp only [daysBeforeYear, yearLength]
  split
  · next h =>
    rw [isLeap_iff] at h
    omega
  · next h =>
    rw [isLeap_iff] at h
    omega

/-- Later years begin later. -/
theorem daysBeforeYear_le {a b : Int} (h : a ≤ b) : daysBeforeYear a ≤ daysBeforeYear b := by
  simp only [daysBeforeYear]
  omega

/-- A year is over when a later one begins. -/
theorem daysBeforeYear_add_yearLength_le {a b : Int} (h : a < b) :
    daysBeforeYear a + yearLength a ≤ daysBeforeYear b := by
  rw [← daysBeforeYear_add_one]
  exact daysBeforeYear_le h

/-! ### Months -/

section Months

variable {lengths : List Nat} {i length : Nat}

/-- A month is over when a later one begins. -/
private theorem sum_take_add_le {j : Nat} (h : lengths[i]? = some length) (hij : i < j) :
    (lengths.take i).sum + length ≤ (lengths.take j).sum := by
  induction lengths generalizing i j with
  | nil => cases h
  | cons first rest ih =>
    obtain ⟨j, rfl⟩ := Nat.exists_eq_add_one_of_ne_zero (Nat.ne_zero_of_lt hij)
    cases i with
    | zero =>
      cases h
      simp
    | succ i =>
      rw [List.getElem?_cons_succ] at h
      have hr := ih h (Nat.lt_of_succ_lt_succ hij)
      simp only [List.take_succ_cons, List.sum_cons]
      omega

/-- The month after begins with the next day. -/
private theorem sum_take_add_one (h : lengths[i]? = some length) :
    (lengths.take (i + 1)).sum = (lengths.take i).sum + length := by
  rw [List.take_add_one, h, Option.toList_some, List.sum_append_nat]
  rfl

/-- The month of a day, when the months before it are known. -/
private theorem monthOf_sum_take (first : Nat) {k : Nat} (h : lengths[i]? = some length)
    (hk : k < length) :
    Date.monthOf first ((lengths.take i).sum + k) lengths = (first + i, k + 1) := by
  induction lengths generalizing first i with
  | nil => cases h
  | cons head rest ih =>
    cases i with
    | zero =>
      cases h
      simp [Date.monthOf, hk]
    | succ i =>
      rw [List.getElem?_cons_succ] at h
      have hr := ih (first + 1) h
      have he : head + (rest.take i).sum + k - head = (rest.take i).sum + k := by omega
      have hn : ¬ head + (rest.take i).sum + k < head := by omega
      rw [List.take_succ_cons, List.sum_cons, Date.monthOf, if_neg hn, he, hr]
      congr 1
      omega

/-- Every day of a year is in some month. -/
private theorem exists_month {n : Nat} (h : n < lengths.sum) :
    ∃ (i length k : Nat), lengths[i]? = some length ∧ k < length ∧
      n = (lengths.take i).sum + k := by
  induction lengths generalizing n with
  | nil => cases h
  | cons head rest ih =>
    by_cases hn : n < head
    · exact ⟨0, head, n, rfl, hn, by simp⟩
    · rw [List.sum_cons] at h
      obtain ⟨i, length, k, hi, hk, he⟩ := ih (n := n - head) (by omega)
      refine ⟨i + 1, length, k, hi, hk, ?_⟩
      rw [List.take_succ_cons, List.sum_cons]
      omega

end Months

/-- The months of a year make up the year. -/
theorem sum_monthLengths (year : Int) : (monthLengths year).sum = yearLength year := by
  unfold monthLengths yearLength
  split <;> rfl

/-- Every month has a first day, and none has more than thirty-one. -/
theorem mem_monthLengths_bounds (year : Int) :
    ∀ length ∈ monthLengths year, 1 ≤ length ∧ length ≤ 31 := by
  unfold monthLengths
  cases isLeap year <;> decide

namespace Date

/-! ### Dates and numbers -/

/-- The date is on the calendar, in whatever year. -/
structure OnCalendar (d : Date) : Prop where
  month_pos : 1 ≤ d.month
  day_pos : 1 ≤ d.day
  day_le : ∃ length, (monthLengths d.year)[d.month - 1]? = some length ∧ d.day ≤ length

/-- A date is valid when it is on the calendar and its year is in range. -/
theorem isValid_iff {d : Date} :
    d.isValid = true ↔ d.OnCalendar ∧ minYear ≤ d.year ∧ d.year ≤ maxYear := by
  simp only [isValid, Bool.and_eq_true, decide_eq_true_eq]
  constructor
  · rintro ⟨⟨⟨⟨hmin, hmax⟩, hm⟩, hp⟩, hl⟩
    split at hl
    · next length he => exact ⟨⟨hm, hp, length, he, of_decide_eq_true hl⟩, hmin, hmax⟩
    · cases hl
  · rintro ⟨⟨hm, hp, length, he, hd⟩, hmin, hmax⟩
    rw [he]
    exact ⟨⟨⟨⟨hmin, hmax⟩, hm⟩, hp⟩, decide_eq_true hd⟩

/-- The days of the year before the date. -/
def dayOfYear (d : Date) : Nat :=
  ((monthLengths d.year).take (d.month - 1)).sum + (d.day - 1)

variable {d : Date}

/-- Months go up to twelve, their days up to thirty-one. -/
theorem OnCalendar.le_bounds (h : d.OnCalendar) : d.month ≤ 12 ∧ d.day ≤ 31 := by
  obtain ⟨length, hl, hd⟩ := h.day_le
  have hi : d.month - 1 < 12 := (List.getElem?_eq_some_iff.mp hl).1
  have hb := mem_monthLengths_bounds d.year _ (List.mem_of_getElem? hl)
  omega

/-- A date is counted from the beginning of its year. -/
theorem OnCalendar.number_eq (h : d.OnCalendar) :
    d.number = daysBeforeYear d.year - epoch + d.dayOfYear := by
  have hp := h.day_pos
  change daysBeforeYear d.year - epoch + (((monthLengths d.year).take (d.month - 1)).sum : Nat) +
    ((d.day : Int) - 1) = _
  rw [dayOfYear]
  omega

/-- A date is in its year. -/
theorem OnCalendar.dayOfYear_lt (h : d.OnCalendar) : d.dayOfYear < yearLength d.year := by
  obtain ⟨length, hl, hd⟩ := h.day_le
  have hp := h.day_pos
  have hs := sum_take_add_le hl (List.getElem?_eq_some_iff.mp hl).1
  rw [List.take_length, sum_monthLengths] at hs
  rw [dayOfYear]
  omega

/-- The order of dates: by year, then by month, then by day of the month. -/
def compare (a b : Date) : Ordering :=
  (Ord.compare a.year b.year).then
    ((Ord.compare a.month b.month).then (Ord.compare a.day b.day))

section Order

variable {a b : Date}

/-- The order looks at months within a year only, and at days within a month. -/
theorem compare_eq_lt_iff :
    a.compare b = .lt ↔ a.year < b.year ∨
      a.year = b.year ∧ (a.month < b.month ∨ a.month = b.month ∧ a.day < b.day) := by
  simp only [compare, Ordering.then_eq_lt, Int.compare_eq_lt, Int.compare_eq_eq,
    Nat.compare_eq_lt, Nat.compare_eq_eq]

/-- Dates that no order tells apart are one date. -/
theorem eq_of_compare (h : a.compare b = .eq) : a = b := by
  simp only [compare, Ordering.then_eq_eq, Int.compare_eq_eq, Nat.compare_eq_eq] at h
  obtain ⟨hy, hm, hd⟩ := h
  cases a
  cases b
  cases hy
  cases hm
  cases hd
  rfl

/-- Swapping the dates swaps the order. -/
theorem compare_swap : (a.compare b).swap = b.compare a := by
  simp only [compare, Ordering.swap_then, Int.compare_swap, Nat.compare_swap]

variable (ha : a.OnCalendar) (hb : b.OnCalendar)
include ha hb

/-- Earlier dates have smaller numbers. -/
theorem OnCalendar.number_lt (h : a.compare b = .lt) : a.number < b.number := by
  rw [ha.number_eq, hb.number_eq]
  rcases compare_eq_lt_iff.mp h with hy | ⟨hy, hm | ⟨hm, hd⟩⟩
  · have hyears := daysBeforeYear_add_yearLength_le hy
    have hday := ha.dayOfYear_lt
    omega
  · obtain ⟨length, hl, hd⟩ := ha.day_le
    have hmonth := ha.month_pos
    have hs := sum_take_add_le hl (show a.month - 1 < b.month - 1 by omega)
    have hp := ha.day_pos
    rw [hy] at hs ⊢
    rw [dayOfYear, dayOfYear, hy]
    omega
  · have hp := ha.day_pos
    rw [dayOfYear, dayOfYear, hy, hm]
    omega

/-- Numbers are in the order of dates. -/
theorem OnCalendar.compare_number : Ord.compare a.number b.number = a.compare b := by
  cases h : a.compare b with
  | lt => exact Int.compare_eq_lt.mpr (ha.number_lt hb h)
  | eq => rw [eq_of_compare h, Int.compare_eq_eq]
  | gt =>
    rw [← compare_swap, Ordering.swap_eq_gt] at h
    exact Int.compare_eq_gt.mpr (hb.number_lt ha h)

end Order

section Parts

variable {cycle : Int} {century four single k : Nat}

/-- The days before a year that is told by its cycle, century, four years and single year. -/
private theorem daysBeforeYear_parts (hc : century ≤ 3) (hf : four ≤ 24) (hs : single ≤ 3) :
    daysBeforeYear (400 * cycle + 100 * century + 4 * four + single + 1) =
      146097 * cycle + 36524 * century + 1461 * four + 365 * single := by
  simp only [daysBeforeYear]
  omega

/-- Such a year has a day beyond the usual ones if it is the last of its four years and these are
not the last of their century, or the century is the last of its cycle. -/
private theorem lt_yearLength_parts (hf : four ≤ 24) (hs : single ≤ 3) (hk : k ≤ 365)
    (hl : k = 365 → single = 3 ∧ (four = 24 → century = 3)) :
    k < yearLength (400 * cycle + 100 * century + 4 * four + single + 1) := by
  unfold yearLength
  split
  · omega
  · next h =>
    rw [isLeap_iff] at h
    omega

end Parts

/-- A number is taken apart into a year and a day of that year. -/
private theorem exists_year (n : Int) :
    ∃ (year : Int) (k : Nat), k < yearLength year ∧ n = daysBeforeYear year - epoch + k ∧
      ofNumber n = ⟨year, (monthOf 1 k (monthLengths year)).1,
        (monthOf 1 k (monthLengths year)).2⟩ := by
  refine ⟨_, _, ?_, ?_, rfl⟩
  · exact lt_yearLength_parts (by omega) (by omega) (by omega) (by omega)
  · rw [daysBeforeYear_parts (by omega) (by omega) (by omega)]
    omega

/-- A number is that of a date on the calendar. -/
theorem onCalendar_ofNumber (n : Int) :
    (ofNumber n).OnCalendar ∧ (ofNumber n).number = n := by
  obtain ⟨year, k, hk, hn, he⟩ := exists_year n
  obtain ⟨i, length, day, hi, hd, rfl⟩ := exists_month (by rwa [sum_monthLengths])
  rw [monthOf_sum_take 1 hi hd] at he
  have hm : 1 + i - 1 = i := by omega
  have hc : (ofNumber n).OnCalendar := by
    rw [he]
    refine ⟨Nat.le_add_right 1 i, Nat.le_add_left 1 day, length, ?_, hd⟩
    rw [hm]
    exact hi
  refine ⟨hc, ?_⟩
  rw [hc.number_eq, dayOfYear, he, hm, hn]
  rfl

/-- A date is that of its number. -/
theorem OnCalendar.ofNumber_number (h : d.OnCalendar) : ofNumber d.number = d := by
  obtain ⟨hc, hn⟩ := onCalendar_ofNumber d.number
  apply eq_of_compare
  rw [← hc.compare_number h, hn, Int.compare_eq_eq]

/-- The date of the next day. -/
def next (d : Date) : Date :=
  if d.day < ((monthLengths d.year)[d.month - 1]?).getD 0 then { d with day := d.day + 1 }
  else if d.month < 12 then ⟨d.year, d.month + 1, 1⟩
  else ⟨d.year + 1, 1, 1⟩

/-- The date of the next day is on the calendar and has the next number. -/
theorem OnCalendar.next (h : d.OnCalendar) :
    d.next.OnCalendar ∧ d.next.number = d.number + 1 := by
  obtain ⟨length, hl, hd⟩ := h.day_le
  have hp := h.day_pos
  have hmonth := h.le_bounds.1
  rw [Date.next, hl, Option.getD_some]
  split
  · next hlt =>
    have hc : OnCalendar { d with day := d.day + 1 } :=
      ⟨h.month_pos, Nat.le_add_left 1 d.day, length, hl, hlt⟩
    refine ⟨hc, ?_⟩
    rw [hc.number_eq, h.number_eq]
    simp only [dayOfYear]
    omega
  · next hlast =>
    -- After its last day a month counts among those before, and after the last month the year does.
    have hlast : d.day = length := by omega
    have hs := sum_take_add_one hl
    rw [Nat.sub_add_cancel h.month_pos] at hs
    split
    · next hbefore =>
      have hi : d.month < (monthLengths d.year).length := hbefore
      have hc : OnCalendar ⟨d.year, d.month + 1, 1⟩ := by
        refine ⟨Nat.le_add_left 1 d.month, Nat.le_refl 1, _, List.getElem?_eq_getElem hi, ?_⟩
        exact (mem_monthLengths_bounds d.year _ (List.getElem_mem hi)).1
      refine ⟨hc, ?_⟩
      rw [hc.number_eq, h.number_eq]
      simp only [dayOfYear, Nat.add_sub_cancel, hs]
      omega
    · have hm : d.month = 12 := by omega
      have hc : OnCalendar ⟨d.year + 1, 1, 1⟩ :=
        ⟨Nat.le_refl 1, Nat.le_refl 1, 31, rfl, Nat.le_add_left 1 30⟩
      refine ⟨hc, ?_⟩
      have hy : ((monthLengths d.year).take d.month).sum = yearLength d.year := by
        rw [hm, ← sum_monthLengths]
        rfl
      rw [hc.number_eq, h.number_eq, daysBeforeYear_add_one]
      simp only [dayOfYear, Nat.sub_self, List.take_zero, List.sum_nil]
      omega

end Date

/-! ### Midnights -/

namespace Instant

instance : LT Instant where
  lt a b := a.compare b = .lt

instance : LE Instant where
  le a b := a.compare b ≠ .gt

instance (a b : Instant) : Decidable (a < b) :=
  inferInstanceAs (Decidable (a.compare b = .lt))

instance (a b : Instant) : Decidable (a ≤ b) :=
  inferInstanceAs (Decidable (a.compare b ≠ .gt))

variable {a b : Instant}

/-- Fractions are looked at within a second only. -/
theorem lt_iff :
    a < b ↔ a.seconds < b.seconds ∨ a.seconds = b.seconds ∧ a.nanos < b.nanos := by
  change a.compare b = .lt ↔ _
  simp only [compare, Ordering.then_eq_lt, Int.compare_eq_lt, Int.compare_eq_eq,
    Nat.compare_eq_lt]

/-- Of two instants, one is before the other or not. -/
theorem le_iff : a ≤ b ↔ ¬ b < a := by
  change a.compare b ≠ .gt ↔ ¬ b.compare a = .lt
  have hs : (a.compare b).swap = b.compare a := by
    simp only [compare, Ordering.swap_then, Int.compare_swap, Nat.compare_swap]
  rw [← hs, Ordering.swap_eq_lt]

end Instant

namespace Date

/-- Midnight in universal time, with which a date begins. -/
def start (d : Date) : Instant :=
  ⟨d.number * daySeconds, 0⟩

variable {d : Date} {t : Instant}

/-- The instants before midnight are those of the days before. -/
theorem lt_start_iff : t < d.start ↔ t.day < d.number := by
  rw [Instant.lt_iff, Instant.day, Int.ediv_lt_iff_lt_mul (by decide)]
  exact or_iff_left fun h ↦ Nat.not_lt_zero _ h.2

/-- The instants from midnight on are those of the date and the days after. -/
theorem start_le_iff : d.start ≤ t ↔ d.number ≤ t.day := by
  rw [Instant.le_iff, lt_start_iff, Int.not_lt]

/-- A date begins on its day. -/
@[simp] theorem day_start (d : Date) : d.start.day = d.number :=
  Int.mul_ediv_cancel d.number (by decide)

/-- A date begins with its day. -/
@[simp] theorem timeOfDay_start (d : Date) : d.start.timeOfDay = 0 :=
  Int.mul_emod_left d.number daySeconds

/-- A valid date's day has a number in range. -/
theorem number_mem_range (h : d.isValid = true) : minDay ≤ d.number ∧ d.number ≤ maxDay := by
  obtain ⟨hc, hmin, hmax⟩ := isValid_iff.mp h
  have hlt := hc.dayOfYear_lt
  have hfirst := daysBeforeYear_le hmin
  have hlast := daysBeforeYear_add_yearLength_le (Int.lt_add_one_of_le hmax)
  have hmin : minDay = daysBeforeYear minYear - epoch := by decide
  have hmax : maxDay = daysBeforeYear (maxYear + 1) - epoch - 1 := by decide
  rw [hc.number_eq, hmin, hmax]
  omega

/-- The start of a date is midnight by the clock. -/
theorem instantAt?_midnight (h : d.isValid = true) :
    instantAt? d ⟨0, 0, 0, 0⟩ 0 = some d.start := by
  have hs : (⟨d.number * daySeconds + 0 - 0, 0⟩ : Instant) = d.start := by
    rw [Int.add_zero, Int.sub_zero, start]
  have hr : minDay ≤ d.start.day ∧ d.start.day ≤ maxDay := by
    rw [day_start]
    exact number_mem_range h
  rw [instantAt?, if_pos ⟨h, rfl, by decide⟩]
  change (let t : Instant := ⟨d.number * daySeconds + 0 - 0, 0⟩
    if minDay ≤ t.day ∧ t.day ≤ maxDay then some t else none) = _
  rw [hs]
  exact if_pos hr

end Date

end SeriesFilter.Calendar
