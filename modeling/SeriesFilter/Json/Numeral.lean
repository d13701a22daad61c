import SeriesFilter.Decimal.Nearest
import SeriesFilter.Text.Numeral

/-!
# Numbers as a JSON text writes them

A numeral keeps its sign and its digits. It is an integer when it has neither fraction nor
exponent, is not a negative zero and fits 64 bits; every numeral has a floating value unless that
value would be infinite.

The floating value takes the digits that fit an unsigned 64-bit significand and scales them by one
power of ten in floating arithmetic. A short decimal is therefore rounded once, a long one twice.
-/

namespace SeriesFilter.Json

open Decimal Text

/-- A number as written: the digits of its parts. -/
structure Numeral where
  negative : Bool := false
  whole : List Char
  fraction : Option (List Char) := none
  /-- Whether the exponent is negative, and its digits. -/
  exponent : Option (Bool × List Char) := none
  deriving DecidableEq, Repr

namespace Numeral

/-- The integer that a numeral writes: neither fraction nor exponent, no negative zero, at most
64 bits, signed when negative. -/
def integer? (n : Numeral) : Option Int :=
  match n.fraction, n.exponent, natural? n.whole with
  | none, none, some value =>
    if n.negative then
      if value = 0 ∨ 0x8000000000000000 < value then none else some (-Int.ofNat value)
    else if value ≤ maxNat64 then some (Int.ofNat value)
    else none
  | _, _, _ => none

/-- Takes digits into a significand while it fits 64 bits; the second part is the digits left. -/
def absorb (significand : Nat) : List Char → Nat × List Char
  | [] => (significand, [])
  | c :: rest =>
    let next := 10 * significand + (digit? c).getD 0
    if next ≤ maxNat64 then absorb next rest else (significand, c :: rest)

/-- The significand of at most 64 bits and the power of ten, before the written exponent. -/
def significand (n : Numeral) : Nat × Int :=
  let (value, left) := absorb 0 n.whole
  match n.fraction with
  | none => (value, left.length)
  | some digits =>
    let (value, unused) := absorb value digits
    (value, (left.length : Int) - ((digits.length : Int) - unused.length))

/-- The floating number nearest to a power of ten. -/
def powerOfTen (k : Nat) : Number :=
  (Decimal.nearestDecimal? 1 k).getD .zero

/-- Greatest power of ten that is a finite floating number. -/
def maxPower : Nat := 308

/-- Division by `10 ^ k` in steps of the greatest finite power. -/
def scaleDown (n : Number) (k : Nat) : Number :=
  if k ≤ maxPower then (n.over? (powerOfTen k)).getD .zero
  else if n = .zero then n
  else scaleDown ((n.over? (powerOfTen maxPower)).getD .zero) (k - maxPower)
termination_by k
decreasing_by simp only [maxPower] at *; omega

/-- Multiplication by `10 ^ k`; `none` when the product is not finite. -/
def scaleUp? (n : Number) (k : Nat) : Option Number :=
  if k ≤ maxPower then n.times? (powerOfTen k)
  else if n = .zero then some n
  else none

/-- Greatest written exponent that is taken by its value. -/
def maxExponent : Nat := 0x7FFFFFFF

/-- The magnitude of a significand times a power of ten; `none` when it is not finite. -/
def magnitude? (significand : Nat) (power : Int) : Option Number :=
  let n := Number.ofInt significand
  match power with
  | .ofNat k => scaleUp? n k
  | .negSucc k => some (scaleDown n (k + 1))

/-- The floating value of a numeral; `none` when it is not finite. An exponent beyond 31 bits
makes zero of a zero and of a value that it lowers. -/
def float? (n : Numeral) : Option Number :=
  let (significand, power) := n.significand
  let magnitude := match n.exponent with
    | none => magnitude? significand power
    | some (lowers, digits) =>
      let written := (natural? digits).getD 0
      if maxExponent < written then
        if significand ≠ 0 ∧ !lowers then none else some .zero
      else magnitude? significand (if lowers then power - written else power + written)
  magnitude.map fun m ↦ if n.negative then m.negate else m

end Numeral

end SeriesFilter.Json
