import SeriesFilter.Text.Ascii

/-!
# Decimal numerals

A numeral is an optional sign and at least one ASCII digit. It denotes an integer; a reader then
asks for a range. Unsigned numerals take a plus sign but no minus sign.
-/

namespace SeriesFilter.Text

/-- The value of a list of digits read after a prefix of value `value`; `none` if some character
is no digit. -/
def digitsFrom (value : Nat) : List Char → Option Nat
  | [] => some value
  | c :: rest => (digit? c).bind fun d ↦ digitsFrom (10 * value + d) rest

/-- The value of a non-empty list of digits. -/
def natural? : List Char → Option Nat
  | [] => none
  | c :: rest => digitsFrom 0 (c :: rest)

/-- The value of an optionally signed numeral. -/
def integer? : List Char → Option Int
  | '+' :: digits => (natural? digits).map Int.ofNat
  | '-' :: digits => (natural? digits).map fun n ↦ -Int.ofNat n
  | digits => (natural? digits).map Int.ofNat

/-- The value of a numeral that may carry a plus sign and is at most `max`. -/
def naturalUpTo? (max : Nat) (s : List Char) : Option Nat :=
  let value := match s with
    | '+' :: digits => natural? digits
    | digits => natural? digits
  value.filter (· ≤ max)

/-- The greatest signed 64-bit integer. -/
def maxInt64 : Nat := 0x7FFFFFFFFFFFFFFF

/-- The greatest unsigned 64-bit integer. -/
def maxNat64 : Nat := 0xFFFFFFFFFFFFFFFF

/-- The value of an optionally signed numeral within the signed 64-bit integers. -/
def int64? (s : List Char) : Option Int :=
  (integer? s).filter fun n ↦ -0x8000000000000000 ≤ n && n ≤ maxInt64

/-- The value of an optionally signed numeral within the non-negative signed 64-bit integers. A
minus sign is taken before zero. -/
def count? (s : List Char) : Option Nat :=
  ((int64? s).filter (0 ≤ ·)).map Int.toNat

end SeriesFilter.Text
