import SeriesFilter.Decimal.Number

/-!
# The shortest decimal of a floating number

A finite floating number stands for the interval of reals that round to it. Among the decimals in
that interval the shortest is sought, digit count by digit count: on the grid of decimals with
`d` digits only the two neighbours of the number need a test. Of two hits the nearer is taken, and
the even one of two equally near.
-/

namespace SeriesFilter.Decimal

/-- A positive number `num / den` with the ends of its rounding interval over the same
denominator; the ends belong to the interval when `closed` holds. -/
structure Interval where
  low : Nat
  num : Nat
  high : Nat
  den : Nat
  closed : Bool
  deriving Repr

/-- A decimal `digits · 10 ^ power`. -/
structure Scaled where
  digits : Nat
  power : Int
  deriving DecidableEq, Repr

/-- The reals that round to the magnitude of a finite number. Just above a power of two the gap
below is half the gap above. -/
def Interval.ofNumber (n : Number) : Interval :=
  let (m, q) := n.parts
  let narrow := m = Number.hiddenBit ∧ -1074 < q
  let up := Nat.pow 2 (q - 2).toNat
  { low := (4 * m - if narrow then 1 else 2) * up
    num := 4 * m * up
    high := (4 * m + 2) * up
    den := Nat.pow 2 (2 - q).toNat
    closed := m % 2 = 0 }

namespace Interval

/-- The sign of `digits · 10 ^ power - n / den`. -/
def compareAt (i : Interval) (d : Scaled) (n : Nat) : Ordering :=
  compare (d.digits * Nat.pow 10 d.power.toNat * i.den) (n * Nat.pow 10 (-d.power).toNat)

/-- Whether a decimal rounds to the number. -/
def contains (i : Interval) (d : Scaled) : Bool :=
  let low := i.compareAt d i.low
  let high := i.compareAt d i.high
  if i.closed then low != .lt && high != .gt else low == .gt && high == .lt

/-- The greatest point not above the number on the grid of step `10 ^ power`. -/
def below (i : Interval) (power : Int) : Scaled :=
  ⟨i.num * Nat.pow 10 (-power).toNat / (i.den * Nat.pow 10 power.toNat), power⟩

/-- The point of the grid after a point. -/
def next (d : Scaled) : Scaled :=
  { d with digits := d.digits + 1 }

/-- Whether the upper of two neighbours on the grid is to be taken, both being in the interval. -/
def prefersUpper (i : Interval) (lower : Scaled) : Bool :=
  let twice := 2 * i.num * Nat.pow 10 (-lower.power).toNat
  let middle := (2 * lower.digits + 1) * Nat.pow 10 lower.power.toNat * i.den
  match compare twice middle with
  | .lt => false
  | .gt => true
  | .eq => lower.digits % 2 = 1

/-- The best point of one grid in the interval. -/
def hit? (i : Interval) (power : Int) : Option Scaled :=
  let lower := i.below power
  let upper := next lower
  match i.contains lower && lower.digits != 0, i.contains upper with
  | true, true => some (if i.prefersUpper lower then upper else lower)
  | true, false => some lower
  | false, true => some upper
  | false, false => none

/-- The power of the first digit, up to one too great. -/
def leadingPower (i : Interval) : Int :=
  ((Nat.toDigits 10 i.num).length : Int) - (Nat.toDigits 10 i.den).length

/-- Tries grids from coarse to fine. -/
def search (i : Interval) (power : Int) : Nat → Scaled
  | 0 => i.below power
  | left + 1 =>
    match i.hit? power with
    | some d => d
    | none => search i (power - 1) left

end Interval

/-- A decimal without trailing zeros among its digits. -/
def Scaled.strip (d : Scaled) : Nat → Scaled
  | 0 => d
  | left + 1 =>
    if d.digits ≠ 0 ∧ d.digits % 10 = 0 then strip ⟨d.digits / 10, d.power + 1⟩ left else d

/-- The shortest decimal that rounds to the magnitude of a finite number other than zero. -/
def shortest (n : Number) : Scaled :=
  let i := Interval.ofNumber n
  (i.search i.leadingPower 20).strip 20

/-- Where positional notation ends: a number with more digits before its point, or more zeros
after it, is written with an exponent. A positive exponent may carry a sign. -/
structure Style where
  maxWhole : Int
  maxZeros : Int
  signedExponent : Bool

/-- The text of a decimal: at least one digit on either side of a point, or an exponent. -/
def Scaled.text (d : Scaled) (style : Style) : List Char :=
  let digits := Nat.toDigits 10 d.digits
  let point := (digits.length : Int) + d.power
  if 0 ≤ d.power ∧ point ≤ style.maxWhole then
    digits ++ List.replicate d.power.toNat '0' ++ ['.', '0']
  else if 0 < point ∧ point ≤ style.maxWhole then
    digits.take point.toNat ++ '.' :: digits.drop point.toNat
  else if point ≤ 0 ∧ -point ≤ style.maxZeros then
    '0' :: '.' :: List.replicate (-point).toNat '0' ++ digits
  else
    let fraction := digits.drop 1
    let sign := if point ≤ 0 then ['-'] else if style.signedExponent then ['+'] else []
    digits.take 1 ++ (if fraction.isEmpty then [] else '.' :: fraction) ++
      'e' :: sign ++ Nat.toDigits 10 (point - 1).natAbs

/-- The shortest text of a finite number; a zero keeps its sign. -/
def Number.text (n : Number) (style : Style) : List Char :=
  let sign := if n.isNegative then ['-'] else []
  sign ++ if n.magnitudeBits = 0 then ['0', '.', '0'] else (shortest n).text style

end SeriesFilter.Decimal
