/-!
# Floating numbers by their bits

A floating number is its 64 bits, so equality is decided and the values that are no number stay
apart. The total order puts negative numbers before positive ones, minus zero before zero, and the
values that are no number at the ends.
-/

namespace SeriesFilter.Decimal

/-- A floating number of 64 bits. -/
structure Number where
  bits : UInt64
  deriving DecidableEq, Repr

namespace Number

/-- The number for arithmetic. -/
def toFloat (n : Number) : Float :=
  Float.ofBits n.bits

/-- Zero, without sign. -/
def zero : Number := ⟨0⟩

instance : Inhabited Number := ⟨zero⟩

/-- The bits without the sign. -/
def magnitudeBits (n : Number) : UInt64 :=
  n.bits &&& 0x7FFFFFFFFFFFFFFF

/-- Whether the sign is set. -/
def isNegative (n : Number) : Bool :=
  n.bits != n.magnitudeBits

/-- The number with the other sign. -/
def negate (n : Number) : Number :=
  ⟨n.bits ^^^ 0x8000000000000000⟩

/-- Whether the number is neither infinite nor no number. -/
def isFinite (n : Number) : Bool :=
  n.magnitudeBits < 0x7FF0000000000000

/-- Whether the number stands for the result of a senseless operation. -/
def isNaN (n : Number) : Bool :=
  0x7FF0000000000000 < n.magnitudeBits

/-- The leading bit of the mantissa of a normal number, which its bits leave out. -/
def hiddenBit : Nat := 0x10000000000000

/-- Mantissa and power of two of the magnitude of a finite number. -/
def parts (n : Number) : Nat × Int :=
  let field := ((n.bits >>> 52) &&& 0x7FF).toNat
  let fraction := (n.bits &&& 0xFFFFFFFFFFFFF).toNat
  if field = 0 then (fraction, -1074) else (fraction + hiddenBit, (field : Int) - 1075)

/-- The place of a number in the total order. -/
def rank (n : Number) : Int :=
  let bits := n.bits.toNat
  if bits < 0x8000000000000000 then bits else 0x7FFFFFFFFFFFFFFF - (bits : Int)

/-- The total order of numbers. -/
def compare (a b : Number) : Ordering :=
  Ord.compare a.rank b.rank

/-- Numbers of the same rank are the same. -/
theorem rank_injective {a b : Number} (h : a.rank = b.rank) : a = b := by
  have ha := a.bits.toNat_lt
  have hb := b.bits.toNat_lt
  have : a.bits.toNat = b.bits.toNat := by
    simp only [rank] at h
    split at h <;> split at h <;> omega
  cases a
  cases b
  simp_all [UInt64.toNat_inj]

/-- Numbers nearer than this count as equal. Values that are no number are neither near nor far. -/
def tolerance : Float := 0.001

/-- The distance between two numbers. -/
def distance (a b : Number) : Float :=
  (a.toFloat - b.toFloat).abs

/-- Whether two numbers count as equal. -/
def isNear (a b : Number) : Bool :=
  decide (a.distance b < tolerance)

/-- Whether two numbers count as different. -/
def isFar (a b : Number) : Bool :=
  decide (tolerance ≤ a.distance b)

end Number

end SeriesFilter.Decimal
