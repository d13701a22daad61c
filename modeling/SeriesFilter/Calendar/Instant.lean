import SeriesFilter.Calendar.Date

/-!
# Instants and spans of time

An instant is a number of seconds since 1970-01-01 without leap seconds, and a fraction. In a leap
second the fraction runs on past a whole second. Instants are ordered by seconds, then fraction.
-/

namespace SeriesFilter.Calendar

/-- Seconds in a day. -/
def daySeconds : Int := 86400

/-- Parts of a second in which fractions are counted. -/
def secondParts : Int := 1000000000

/-- An instant; `nanos` is below two thousand million. -/
structure Instant where
  seconds : Int
  nanos : Nat := 0
  deriving DecidableEq, Repr

namespace Instant

/-- The order of instants. -/
def compare (a b : Instant) : Ordering :=
  (Ord.compare a.seconds b.seconds).then (Ord.compare a.nanos b.nanos)

/-- The number of the day in which an instant falls. -/
def day (t : Instant) : Int :=
  t.seconds / daySeconds

/-- The seconds since the beginning of the day. -/
def timeOfDay (t : Instant) : Int :=
  t.seconds % daySeconds

/-- Whether an instant falls in a leap second. -/
def isLeapSecond (t : Instant) : Bool :=
  secondParts ≤ (t.nanos : Int)

/-- The parts of a second from `past` to `now`. A leap second counts when it lies before the later
time of day. -/
def since (now past : Instant) : Int :=
  let days := now.day - past.day
  let seconds := now.timeOfDay - past.timeOfDay
  let leap :=
    if past.timeOfDay < now.timeOfDay ∧ past.isLeapSecond then 1
    else if now.timeOfDay < past.timeOfDay ∧ now.isLeapSecond then -1
    else 0
  (days * daySeconds + seconds + leap) * secondParts + ((now.nanos : Int) - past.nanos)

end Instant

/-- The longest span of time, in seconds. -/
def maxSpan : Int := 0x7FFFFFFFFFFFFFFF / 1000

/-- A span of so many seconds, if it is not too long. -/
def span? (seconds : Int) : Option Int :=
  if -maxSpan ≤ seconds ∧ seconds ≤ maxSpan then some seconds else none

end SeriesFilter.Calendar
