/-!
# Letters compared without regard to ASCII case

Names of fields, operators, enumeration members and smart filters are looked up with the letters
`A` to `Z` taken as `a` to `z` and every other character as itself.
-/

namespace SeriesFilter.Text

/-- The characters with ASCII capitals made small. -/
def foldAscii (s : String) : List Char :=
  s.toList.map Char.toLower

/-- Equality up to the case of ASCII letters. -/
def sameName (s t : String) : Bool :=
  foldAscii s == foldAscii t

/-- Two texts are the same name exactly when their folded characters agree. -/
@[simp] theorem sameName_iff {s t : String} : sameName s t = true ↔ foldAscii s = foldAscii t := by
  simp [sameName]

/-- An ASCII letter, of either case. -/
def isLetter (c : Char) : Bool :=
  c.isAlpha

/-- The value of an ASCII decimal digit. -/
def digit? (c : Char) : Option Nat :=
  if c.isDigit then some (c.toNat - '0'.toNat) else none

end SeriesFilter.Text
