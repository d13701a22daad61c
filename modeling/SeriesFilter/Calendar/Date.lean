/-!
# Calendar dates

Days are counted from 1970-01-01. A date names a day by year, month and day of the month in the
Gregorian calendar, which is taken to hold for all time; there is a year zero.
-/

namespace SeriesFilter.Calendar

/-- A date; `month` and `day` count from one. -/
structure Date where
  year : Int
  month : Nat
  day : Nat
  deriving DecidableEq, Repr

/-- Every fourth year is a leap year, but of the full centuries only every fourth. -/
def isLeap (year : Int) : Bool :=
  year % 4 == 0 && (year % 100 != 0 || year % 400 == 0)

/-- The lengths of the months of a year. -/
def monthLengths (year : Int) : List Nat :=
  [31, if isLeap year then 29 else 28, 31, 30, 31, 30, 31, 31, 30, 31, 30, 31]

/-- The days before a year, counted from the beginning of year one. -/
def daysBeforeYear (year : Int) : Int :=
  let y := year - 1
  365 * y + y / 4 - y / 100 + y / 400

/-- The days from the beginning of year one to 1970-01-01. -/
def epoch : Int := 719162

/-- The first year with dates. -/
def minYear : Int := -262143

/-- The last year with dates. -/
def maxYear : Int := 262142

namespace Date

/-- Whether the date exists and its year is in range. -/
def isValid (d : Date) : Bool :=
  minYear ≤ d.year && d.year ≤ maxYear && 1 ≤ d.month && 1 ≤ d.day &&
    match (monthLengths d.year)[d.month - 1]? with
    | some length => d.day ≤ length
    | none => false

/-- The number of a date's day. -/
def number (d : Date) : Int :=
  let months := (monthLengths d.year).take (d.month - 1)
  let daysBeforeMonth : Nat := months.foldr (· + ·) 0
  daysBeforeYear d.year - epoch + daysBeforeMonth + (d.day - 1)

/-- The month and day of the month of a day counted from the beginning of its year. -/
def monthOf (month dayOfYear : Nat) : List Nat → Nat × Nat
  | [] => (month, dayOfYear + 1)
  | length :: rest =>
    if dayOfYear < length then (month, dayOfYear + 1)
    else monthOf (month + 1) (dayOfYear - length) rest

/-- The date of a day. Cycles of four hundred years, centuries, cycles of four years and years are
taken off one after the other; the last of each may be a day longer than the others. -/
def ofNumber (n : Int) : Date :=
  let n := n + epoch
  let cycle := n / 146097
  let inCycle := (n % 146097).toNat
  let century := min (inCycle / 36524) 3
  let inCentury := inCycle - 36524 * century
  let four := inCentury / 1461
  let inFour := inCentury - 1461 * four
  let single := min (inFour / 365) 3
  let dayOfYear := inFour - 365 * single
  let year := 400 * cycle + 100 * century + 4 * four + single + 1
  let (month, day) := monthOf 1 dayOfYear (monthLengths year)
  ⟨year, month, day⟩

end Date

/-- The number of the first day that has a date. -/
def minDay : Int := Date.number ⟨minYear, 1, 1⟩

/-- The number of the last day that has a date. -/
def maxDay : Int := Date.number ⟨maxYear, 12, 31⟩

end SeriesFilter.Calendar
