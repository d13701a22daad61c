import SeriesFilter.Decimal.Nearest
import SeriesFilter.Text.Numeral

/-!
# Number literals

A literal is an optional sign, digits with at most one point among them, and an optional exponent.
At least one digit is needed before the exponent, and one in it. It denotes the nearest floating
number; a literal beyond the greatest of them denotes none.
-/

namespace SeriesFilter.Decimal

open Text

/-- A text at its first exponent mark: what stands before it, and what stands after it if there is
a mark. -/
def splitExponent (s : List Char) : List Char × Option (List Char) :=
  match s.span fun c ↦ c != 'e' && c != 'E' with
  | (before, []) => (before, none)
  | (before, _ :: after) => (before, some after)

/-- The significand of digits with at most one point, and how many digits follow the point. -/
def mantissa? (s : List Char) : Option (Nat × Nat) :=
  match s.span (· != '.') with
  | (whole, []) => (natural? whole).map fun n ↦ (n, 0)
  | (whole, _ :: fraction) => (natural? (whole ++ fraction)).map fun n ↦ (n, fraction.length)

/-- The magnitude of a literal without sign. -/
def magnitudeOfText? (s : List Char) : Option Number := do
  let (before, after) := splitExponent s
  let (significand, places) ← mantissa? before
  let power ← match after with
    | none => some 0
    | some digits => integer? digits
  nearestDecimal? significand (power - places)

/-- The finite number that a literal denotes. -/
def numberOfText? (s : List Char) : Option Number :=
  match s with
  | '+' :: rest => magnitudeOfText? rest
  | '-' :: rest => (magnitudeOfText? rest).map Number.negate
  | _ => magnitudeOfText? s

end SeriesFilter.Decimal
