import SeriesFilter.Text.Ascii
import SeriesFilter.Text.Blank

/-!
# Pieces of written dates

Each reader takes the rest of a text and gives a value with what is left, or says why the text is
no date.
-/

namespace SeriesFilter.Calendar

/-- Why a text is no date. -/
inductive Misread where
  /-- The text ends too early. -/
  | short
  /-- Another character stands where the form wants something. -/
  | unexpected
  /-- A number that is not on the calendar or clock. -/
  | outOfRange
  /-- More text after the date. -/
  | trailing
  deriving DecidableEq, Repr

/-- A few words on a text that is no date. -/
def Misread.message : Misread → String
  | .short => "premature end of input"
  | .unexpected => "input contains invalid characters"
  | .outOfRange => "input is out of range"
  | .trailing => "trailing input"

/-- A reader of the beginning of a text. -/
abbrev Scan (α : Type) := List Char → Except Misread (α × List Char)

namespace Scan

/-- The digits at the beginning of a text, at most `most` of them. -/
def digits (most : Nat) (s : List Char) : List Char × List Char :=
  let run := (s.take most).takeWhile Char.isDigit
  (run, s.drop run.length)

/-- The value of digits. -/
def value (digits : List Char) : Nat :=
  digits.foldl (fun n c ↦ 10 * n + (c.toNat - '0'.toNat)) 0

/-- Whether a text has at least so many bytes. -/
def hasBytes (count : Nat) (s : List Char) : Bool :=
  count ≤ (s.take count).foldr (fun c n ↦ c.utf8Size + n) 0

/-- What is wrong where one more character is wanted. -/
def wrongAt (s : List Char) : Misread :=
  if s.isEmpty then .short else .unexpected

/-- A number of at least one and at most `most` digits. -/
def number (most : Nat) : Scan Nat := fun s ↦
  match digits most s with
  | ([], _) => .error (wrongAt s)
  | (run, rest) => .ok (value run, rest)

/-- A number of exactly so many digits. -/
def fixed (count : Nat) : Scan Nat := fun s ↦
  let (run, rest) := digits count s
  if !hasBytes count s then .error .short
  else if run.length = count then .ok (value run, rest)
  else .error .unexpected

/-- A number within bounds. -/
def within (low high : Nat) (scan : Scan Nat) : Scan Nat := fun s ↦ do
  let (n, rest) ← scan s
  if low ≤ n ∧ n ≤ high then .ok (n, rest) else .error .outOfRange

/-- A given character. -/
def char (c : Char) : Scan Unit := fun s ↦
  match s with
  | d :: rest => if d = c then .ok ((), rest) else .error .unexpected
  | [] => .error .short

/-- A fraction of a second in thousand-millionths: digits beyond the ninth are passed over. -/
def fraction : Scan Nat := fun s ↦
  match s with
  | '.' :: rest =>
    match digits 9 rest with
    | ([], _) => .error (wrongAt rest)
    | (run, rest) => .ok (value run * Nat.pow 10 (9 - run.length), rest.dropWhile Char.isDigit)
  | _ => .ok (0, s)

/-- Stands between date and time. -/
def dateTimeMark : Scan Unit := fun s ↦
  match s with
  | 'T' :: rest | 't' :: rest | ' ' :: rest => .ok ((), rest)
  | _ => .error (wrongAt s)

/-- The sign of an offset: whether it is negative. -/
def offsetSign : Scan Bool := fun s ↦
  match s with
  | '+' :: rest => .ok (false, rest)
  | '-' :: rest | '−' :: rest => .ok (true, rest)
  | _ => .error (wrongAt s)

/-- An offset from universal time in seconds: `Z`, or hours and minutes with `between` read
between them. -/
def offset (between : Scan Unit) : Scan Int := fun s ↦
  match s with
  | 'Z' :: rest | 'z' :: rest => .ok (0, rest)
  | s => do
    let (negative, s) ← offsetSign s
    let (hours, s) ← fixed 2 s
    let ((), s) ← between s
    let (minutes, s) ← within 0 59 (fixed 2) s
    let seconds : Int := hours * 3600 + minutes * 60
    .ok (if negative then -seconds else seconds, s)

/-- A number of at most so many digits after blanks. -/
def loose (most : Nat) : Scan Nat := fun s ↦
  number most (Text.trimStart s)

/-- A given character after blanks. -/
def looseChar (c : Char) : Scan Unit := fun s ↦
  char c (Text.trimStart s)

/-- A year after blanks: up to four digits, or any number of them after a sign. -/
def looseYear : Scan Int := fun s ↦
  match Text.trimStart s with
  | '-' :: rest => (number rest.length rest).map fun (n, rest) ↦ (-(n : Int), rest)
  | '+' :: rest => (number rest.length rest).map fun (n, rest) ↦ ((n : Int), rest)
  | s => (number 4 s).map fun (n, rest) ↦ ((n : Int), rest)

end Scan

end SeriesFilter.Calendar
