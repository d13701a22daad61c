import SeriesFilter.Decimal.Number

/-!
# The floating number nearest to a rational

Rounding of a non-negative rational to the nearest floating number of 64 bits, the even one of two
equally near. The quotient is scaled so that its whole part has 53 bits, or fewer at the lower end
of the range.
-/

namespace SeriesFilter.Decimal

/-- The whole number nearest to `num / den`, the even one of two equally near. -/
def nearestNat (num den : Nat) : Nat :=
  let whole := num / den
  match compare (2 * (num % den)) den with
  | .lt => whole
  | .gt => whole + 1
  | .eq => whole + whole % 2

/-- The least power of two that a unit in the last place can have. -/
def minPower : Int := -1074

/-- `num / (den · 2 ^ power)` as numerator and denominator. -/
def scaled (num den : Nat) (power : Int) : Nat × Nat :=
  (num * Nat.pow 2 (-power).toNat, den * Nat.pow 2 power.toNat)

/-- The power of two of the last place of a floating number near `num / den`. -/
def lastPlace (num den : Nat) : Int :=
  let power := (num.log2 : Int) - den.log2 - 53
  let (n, d) := scaled num den power
  max minPower (if n / d < 2 * Number.hiddenBit then power else power + 1)

/-- The floating number nearest to `num / den`; `none` when that would be infinite. -/
def nearest? (num den : Nat) : Option Number :=
  if num = 0 then some .zero
  else
    let power := lastPlace num den
    let (n, d) := scaled num den power
    let mantissa := nearestNat n d
    let bits :=
      if mantissa < Number.hiddenBit then mantissa
      else (power + 1075).toNat * Number.hiddenBit + (mantissa - Number.hiddenBit)
    if bits < 0x7FF0000000000000 then some ⟨bits.toUInt64⟩ else none

/-- The floating number nearest to `significand · 10 ^ power`; `none` when it would be infinite.
Powers far outside the range are answered without being computed. -/
def nearestDecimal? (significand : Nat) (power : Int) : Option Number :=
  if significand = 0 then some .zero
  else
    let size := ((Nat.toDigits 10 significand).length : Int) + power
    if 400 < size then none
    else if size < -400 then some .zero
    else nearest? (significand * Nat.pow 10 power.toNat) (Nat.pow 10 (-power).toNat)

namespace Number

/-- The floating number nearest to an integer. -/
def ofInt (n : Int) : Number :=
  let magnitude := (nearest? n.natAbs 1).getD .zero
  if n < 0 then magnitude.negate else magnitude

/-- The product of the magnitudes of two finite numbers, rounded; `none` when it is infinite. -/
def times? (a b : Number) : Option Number :=
  let (m, p) := a.parts
  let (n, q) := b.parts
  let (num, den) := scaled (m * n) 1 (-(p + q))
  nearest? num den

/-- The quotient of the magnitudes of two finite numbers, rounded; the second is not zero. -/
def over? (a b : Number) : Option Number :=
  let (m, p) := a.parts
  let (n, q) := b.parts
  let (num, den) := scaled m n (q - p)
  nearest? num den

end Number

end SeriesFilter.Decimal
