import SeriesFilter.Calendar.Date
import SeriesFilter.Decimal.Literal
import SeriesFilter.Toml.Quoted
import SeriesFilter.Toml.Value

/-!
# Words of TOML

The words that stand for truth values, numbers, dates and times.
-/

namespace SeriesFilter.Toml

open Text Decimal

/-! ## Numbers -/

/-- Digits with single underscores between them, the underscores taken out. -/
def grouped? (isDigit : Char → Bool) : List Char → Option (List Char)
  | [] => none
  | [c] => if isDigit c then some [c] else none
  | c :: '_' :: rest => if isDigit c then (grouped? isDigit rest).map (c :: ·) else none
  | c :: rest => if isDigit c then (grouped? isDigit rest).map (c :: ·) else none

/-- Sign and rest of a word. -/
def splitSign : List Char → List Char × List Char
  | '+' :: rest => (['+'], rest)
  | '-' :: rest => (['-'], rest)
  | s => ([], s)

/-- The digits of a whole number in base ten: no zero stands before others. -/
def whole? (s : List Char) : Option (List Char) :=
  (grouped? Char.isDigit s).filter fun digits ↦ digits.length = 1 || digits.head? != some '0'

/-- The value of a natural number with the mark of its base. -/
def marked? : List Char → Option Nat
  | '0' :: 'x' :: rest => (grouped? (fun c ↦ (hexValue? [c]).isSome) rest).bind hexValue?
  | '0' :: 'o' :: rest => valueIn 8 rest
  | '0' :: 'b' :: rest => valueIn 2 rest
  | _ => none
where
  /-- The value of digits in a base up to ten. -/
  valueIn (base : Nat) (s : List Char) : Option Nat :=
    (grouped? (fun c ↦ c.isDigit && c.toNat - '0'.toNat < base) s).map fun digits ↦
      digits.foldl (fun n c ↦ base * n + (c.toNat - '0'.toNat)) 0

/-- The integer of a word, in 128 bits. -/
def integerOfWord? (s : List Char) : Option Int :=
  let value := match marked? s with
    | some n => some (n : Int)
    | none =>
      let (sign, digits) := splitSign s
      (whole? digits).bind fun digits ↦ integer? (sign ++ digits)
  value.filter fun n ↦ -0x80000000000000000000000000000000 ≤ n &&
    n ≤ 0xFFFFFFFFFFFFFFFFFFFFFFFFFFFFFFFF

/-- The exponent of a word: nothing, or a mark and digits. -/
def exponent? (s : List Char) : Option (List Char) :=
  match s with
  | [] => some []
  | mark :: rest =>
    if mark == 'e' || mark == 'E' then
      let (sign, digits) := splitSign rest
      (grouped? Char.isDigit digits).map fun digits ↦ 'e' :: sign ++ digits
    else none

/-- The number of a word with a fraction or an exponent. -/
def decimalOfWord? (s : List Char) : Option Number := do
  let (sign, s) := splitSign s
  let isPart (c : Char) : Bool := c.isDigit || c == '_'
  let digits ← whole? (s.takeWhile isPart)
  match s.dropWhile isPart with
  | '.' :: rest =>
    let fraction ← grouped? Char.isDigit (rest.takeWhile isPart)
    let exponent ← exponent? (rest.dropWhile isPart)
    numberOfText? (sign ++ digits ++ '.' :: fraction ++ exponent)
  | [] => none
  | rest =>
    let exponent ← exponent? rest
    numberOfText? (sign ++ digits ++ exponent)

/-- The number of a word for what is no finite number. -/
def infiniteOfWord? (s : List Char) : Option Number :=
  let (sign, word) := splitSign s
  let bits? : Option UInt64 :=
    if word = ['i', 'n', 'f'] then some 0x7FF0000000000000
    else if word = ['n', 'a', 'n'] then some 0x7FF8000000000000
    else none
  bits?.map fun bits ↦ if sign = ['-'] then Number.negate ⟨bits⟩ else ⟨bits⟩

/-! ## Dates and times -/

/-- A text after a character that has to stand at its beginning. -/
def after (c : Char) : List Char → Option (List Char)
  | d :: rest => if d = c then some rest else none
  | [] => none

/-- A number of exactly so many digits. -/
def fixed (count : Nat) : Scan Nat := fun s ↦ do
  let digits := s.take count
  if digits.length = count then some (← natural? digits, s.drop count) else none

/-- A date: year, month and day. -/
def dateScan : Scan Unit := fun s ↦ do
  let (year, s) ← fixed 4 s
  let s ← after '-' s
  let (month, s) ← fixed 2 s
  let s ← after '-' s
  let (day, s) ← fixed 2 s
  if (Calendar.Date.mk year month day).isValid then some ((), s) else none

/-- The seconds of a time of day, with any number of digits in their fraction. -/
def secondScan : Scan Unit := fun s ↦ do
  let (second, s) ← fixed 2 s
  if 60 < second then none
  else match s with
    | '.' :: c :: rest => if c.isDigit then some ((), rest.dropWhile Char.isDigit) else none
    | s => some ((), s)

/-- A time of day; the seconds may be left out. -/
def timeScan : Scan Unit := fun s ↦ do
  let (hour, s) ← fixed 2 s
  let s ← after ':' s
  let (minute, s) ← fixed 2 s
  if 23 < hour ∨ 59 < minute then none
  else match s with
    | ':' :: rest => secondScan rest
    | s => some ((), s)

/-- Whether a text is an offset from universal time. -/
def isOffset (s : List Char) : Bool :=
  match s with
  | ['Z'] | ['z'] => true
  | '+' :: rest | '-' :: rest =>
    (do
      let (hour, s) ← fixed 2 rest
      let s ← after ':' s
      let (minute, s) ← fixed 2 s
      if hour ≤ 23 ∧ minute ≤ 59 ∧ s.isEmpty then some () else none : Option Unit).isSome
  | _ => false

/-- Whether a word is a date, a time of day, or both; with both there may be an offset. -/
def isTime (s : List Char) : Bool :=
  match dateScan s with
  | some ((), []) => true
  | some ((), mark :: rest) =>
    (mark == 'T' || mark == 't' || mark == ' ') &&
      match timeScan rest with
      | some ((), []) => true
      | some ((), offset) => isOffset offset
      | none => false
  | none =>
    match timeScan s with
    | some ((), []) => true
    | _ => false

/-! ## Words -/

/-- The characters of words. -/
def isWordChar (c : Char) : Bool :=
  c.isAlphanum || c == '_' || c == '+' || c == '-' || c == '.' || c == ':'

/-- The value of a word. -/
def valueOfWord? (s : List Char) : Option Value :=
  if s = ['t', 'r', 'u', 'e'] then some (.boolean true)
  else if s = ['f', 'a', 'l', 's', 'e'] then some (.boolean false)
  else match integerOfWord? s, infiniteOfWord? s, decimalOfWord? s with
    | some n, _, _ => some (.integer n)
    | none, some x, _ => some (.float x)
    | none, none, some x => some (.float x)
    | none, none, none => if isTime s then some (.time (String.ofList s)) else none

/-- The word at the beginning of a text. One space may part a date from a time of day. -/
def word (s : List Char) : List Char × List Char :=
  let first := s.takeWhile isWordChar
  let rest := s.dropWhile isWordChar
  match dateScan first, rest with
  | some ((), []), ' ' :: c :: more =>
    if c.isDigit then
      (first ++ ' ' :: (c :: more).takeWhile isWordChar, (c :: more).dropWhile isWordChar)
    else (first, rest)
  | _, _ => (first, rest)

end SeriesFilter.Toml
