import SeriesFilter.Calendar.Instant
import SeriesFilter.Calendar.Scan

/-!
# Dates and instants as text

Three forms are read: a date alone, an instant by RFC 3339, and the looser form of instants that
rows use, with blanks between the parts, short numbers and years of any length. Instants are
written by RFC 3339 in universal time.
-/

namespace SeriesFilter.Calendar

/-- A reading by the clock: hour, minute, second and fraction. Second sixty is a leap second. -/
structure Clock where
  hour : Nat
  minute : Nat
  second : Nat
  nanos : Nat
  deriving DecidableEq, Repr

/-- Whether a clock can show this. -/
def Clock.isValid (c : Clock) : Bool :=
  c.hour ≤ 23 && c.minute ≤ 59 && c.second ≤ 60

/-- The instant of a date and clock at some offset from universal time, if it can be told: the
offset is less than a day, and the date in universal time is in range. -/
def instantAt? (date : Date) (clock : Clock) (offset : Int) : Option Instant :=
  if date.isValid ∧ clock.isValid ∧ offset.natAbs < 86400 then
    let leap := clock.second = 60
    let second : Nat := if leap then 59 else clock.second
    let ofDay : Int := clock.hour * 3600 + clock.minute * 60 + second
    let t : Instant :=
      ⟨date.number * daySeconds + ofDay - offset, clock.nanos + if leap then 1000000000 else 0⟩
    if minDay ≤ t.day ∧ t.day ≤ maxDay then some t else none
  else none

/-- The end of a text. -/
def finish (s : List Char) : Except Misread Unit :=
  if s.isEmpty then .ok () else .error .trailing

/-- The number of the day of a date written as year, month and day, with blanks allowed before
each number. -/
def dayOfText (s : List Char) : Except Misread Int := do
  let (year, s) ← Scan.looseYear s
  let ((), s) ← Scan.char '-' s
  let (month, s) ← Scan.loose 2 s
  let ((), s) ← Scan.char '-' s
  let (day, s) ← Scan.loose 2 s
  finish s
  let date : Date := ⟨year, month, day⟩
  if date.isValid then .ok date.number else .error .outOfRange

/-- The instant of a date and clock that were read, if they name one. -/
def instantAt (date : Date) (clock : Clock) (offset : Int) : Except Misread Instant :=
  match instantAt? date clock offset with
  | some t => .ok t
  | none => .error .outOfRange

/-- The instant of a text by RFC 3339. -/
def instantOfText (s : List Char) : Except Misread Instant := do
  let (year, s) ← Scan.fixed 4 s
  let ((), s) ← Scan.char '-' s
  let (month, s) ← Scan.within 1 12 (Scan.fixed 2) s
  let ((), s) ← Scan.char '-' s
  let (day, s) ← Scan.within 1 31 (Scan.fixed 2) s
  let ((), s) ← Scan.dateTimeMark s
  let (hour, s) ← Scan.within 0 23 (Scan.fixed 2) s
  let ((), s) ← Scan.char ':' s
  let (minute, s) ← Scan.within 0 59 (Scan.fixed 2) s
  let ((), s) ← Scan.char ':' s
  let (second, s) ← Scan.within 0 60 (Scan.fixed 2) s
  let (nanos, s) ← Scan.fraction s
  let (offset, s) ← Scan.offset (Scan.char ':') s
  if daySeconds ≤ offset.natAbs then .error .outOfRange
  finish s
  instantAt ⟨year, month, day⟩ ⟨hour, minute, second, nanos⟩ offset

/-- Any number of colons and blanks. -/
def colonOrBlank : Scan Unit := fun s ↦
  .ok ((), s.dropWhile fun c ↦ c == ':' || Text.isBlank c)

/-- An offset in the looser form: also `UTC` in letters of any case. -/
def looseOffset : Scan Int := fun s ↦
  let name := s.take 3
  if name.map Char.toLower = ['u', 't', 'c'] then .ok (0, s.drop 3)
  else Scan.offset colonOrBlank s

/-- The instant of a text in the looser form. -/
def looseInstantOfText (s : List Char) : Except Misread Instant := do
  let (year, s) ← Scan.looseYear s
  let ((), s) ← Scan.looseChar '-' s
  let (month, s) ← Scan.loose 2 s
  let ((), s) ← Scan.looseChar '-' s
  let (day, s) ← Scan.loose 2 s
  let ((), s) ← Scan.dateTimeMark s
  let (hour, s) ← Scan.loose 2 s
  let ((), s) ← Scan.looseChar ':' s
  let (minute, s) ← Scan.loose 2 s
  let ((), s) ← Scan.looseChar ':' s
  let (second, s) ← Scan.loose 2 s
  let (nanos, s) ← Scan.fraction s
  let (offset, s) ← looseOffset (Text.trimStart s)
  finish (Text.trimStart s)
  instantAt ⟨year, month, day⟩ ⟨hour, minute, second, nanos⟩ offset

/-- A number with zeros before it up to some width. -/
def padded (width n : Nat) : List Char :=
  let digits := Nat.toDigits 10 n
  List.replicate (width - digits.length) '0' ++ digits

/-- A year: four digits, with a sign when it has no four-digit form. -/
def yearText (year : Int) : List Char :=
  if 0 ≤ year ∧ year ≤ 9999 then padded 4 year.toNat
  else (if year < 0 then '-' else '+') :: padded 4 year.natAbs

/-- The fraction of a second: nothing, or three, six or nine digits. -/
def fractionText (nanos : Nat) : List Char :=
  if nanos = 0 then []
  else if nanos % 1000000 = 0 then '.' :: padded 3 (nanos / 1000000)
  else if nanos % 1000 = 0 then '.' :: padded 6 (nanos / 1000)
  else '.' :: padded 9 nanos

/-- An instant in universal time by RFC 3339. -/
def Instant.text (t : Instant) : String :=
  let date := Date.ofNumber t.day
  let time := t.timeOfDay.toNat
  let second := time % 60 + if t.isLeapSecond then 1 else 0
  String.ofList (yearText date.year ++ '-' :: padded 2 date.month ++ '-' :: padded 2 date.day ++
    'T' :: padded 2 (time / 3600) ++ ':' :: padded 2 (time / 60 % 60) ++ ':' :: padded 2 second ++
    fractionText (t.nanos % 1000000000) ++ ['Z'])

end SeriesFilter.Calendar
