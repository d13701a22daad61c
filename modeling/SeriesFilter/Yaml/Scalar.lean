import SeriesFilter.Decimal.Literal

/-!
# Scalars of YAML

A text is written plain where a reader gives it back as the same text. Otherwise it stands between
single quotes, where only the quote itself is written twice, or between double quotes, with
escapes. A text of several lines is written as a literal block.
-/

namespace SeriesFilter.Yaml

open Text

/-- The four ways to write a text. -/
inductive Style where
  | plain | single | double | literal
  deriving DecidableEq, Repr

/-! ## Texts that a reader takes for something else -/

/-- Words for truth values and for nothing. -/
def reservedWords : List String :=
  ["", "~", "null", "Null", "NULL", "true", "True", "TRUE", "false", "False", "FALSE"]

/-- Words for what is no finite number. -/
def infiniteWords : List String :=
  [".inf", ".Inf", ".INF", "+.inf", "+.Inf", "+.INF", "-.inf", "-.Inf", "-.INF", ".nan", ".NaN",
    ".NAN"]

/-- The value of a digit in some base. -/
def digitIn? (base : Nat) (c : Char) : Option Nat :=
  let value? :=
    if c.isDigit then some (c.toNat - '0'.toNat)
    else if 'a' ≤ c ∧ c ≤ 'f' then some (c.toNat - 'a'.toNat + 10)
    else if 'A' ≤ c ∧ c ≤ 'F' then some (c.toNat - 'A'.toNat + 10)
    else none
  value?.filter (· < base)

/-- Whether a text has digits in some base, and their value is at most `max`. -/
def isNaturalIn (base max : Nat) (s : List Char) : Bool :=
  match s.mapM (digitIn? base) with
  | some (d :: rest) => (d :: rest).foldl (fun n d ↦ base * n + d) 0 ≤ max
  | _ => false

/-- Whether a text is a natural number with the mark of its base, at most `max`. -/
def isMarked (max : Nat) : List Char → Bool
  | '0' :: 'x' :: rest => isNaturalIn 16 max rest
  | '0' :: 'o' :: rest => isNaturalIn 8 max rest
  | '0' :: 'b' :: rest => isNaturalIn 2 max rest
  | _ => false

/-- Whether a text is an integer with the mark of its base, in 128 bits. -/
def isMarkedInteger : List Char → Bool
  | '-' :: rest => isMarked 0x80000000000000000000000000000000 rest
  | '+' :: rest => isMarked 0xFFFFFFFFFFFFFFFFFFFFFFFFFFFFFFFF rest
  | s => isMarked 0xFFFFFFFFFFFFFFFFFFFFFFFFFFFFFFFF s

/-- Whether a text is a run of digits that begins with a zero and goes on. -/
def isPadded : List Char → Bool
  | '0' :: c :: rest => (c :: rest).all Char.isDigit
  | _ => false

/-- Whether a text looks like a number, though a zero before its other digits makes it none. -/
def isPaddedInteger : List Char → Bool
  | '-' :: rest | '+' :: rest => isPadded rest
  | s => isPadded s

/-- Whether a reader takes a text for something that is no text, or might. -/
def isOther (s : String) : Bool :=
  reservedWords.contains s || infiniteWords.contains s || isMarkedInteger s.toList ||
    isPaddedInteger s.toList || (Decimal.numberOfText? s.toList).isSome

/-! ## What the characters allow -/

/-- The characters that end a line. -/
def isBreak (c : Char) : Bool :=
  c == '\n' || c == '\r' || c == '\u0085' || c == '\u2028' || c == '\u2029'

/-- Whether nothing, a blank, a line break or the null character stands at a place. -/
def isGap : Option Char → Bool
  | none => true
  | some c => c == ' ' || c == '\t' || c == '\x00' || isBreak c

/-- The characters that stand for themselves outside double quotes. -/
def isPrintable (c : Char) : Bool :=
  let n := c.toNat
  c == '\n' || (0x20 ≤ n && n ≤ 0x7E) || (0xA0 ≤ n && n != 0xFEFF && n != 0xFFFE && n != 0xFFFF)

/-- The characters that mean something at the beginning of a plain text. -/
def indicators : List Char :=
  ['#', ',', '[', ']', '\x7b', '\x7d', '&', '*', '!', '|', '>', '\'', '"', '%', '@', '\x60']

/-- Whether the beginning of a text would be read as something else. -/
def opensOther : List Char → Bool
  | '-' :: '-' :: '-' :: _ | '.' :: '.' :: '.' :: _ => true
  | c :: rest =>
    indicators.contains c || ((c == '?' || c == ':' || c == '-') && isGap rest.head?)
  | [] => false

/-- Whether a text after `before` has the mark of a mapping or of a comment. -/
def hasMark (before : Char) : List Char → Bool
  | [] => false
  | c :: rest =>
    (c == ':' && isGap rest.head?) || (c == '#' && isGap (some before)) || hasMark c rest

/-- Whether two neighbouring characters are of the two kinds. -/
def hasPair (first second : Char → Bool) : List Char → Bool
  | c :: d :: rest => (first c && second d) || hasPair first second (d :: rest)
  | _ => false

/-- Whether a character is a space. -/
def isSpace (c : Char) : Bool :=
  c == ' '

/-- Whether a text can stand between single quotes. -/
def allowsSingle (s : List Char) : Bool :=
  s.all isPrintable && !hasPair isSpace isBreak s && !hasPair isBreak isSpace s

/-- Whether a text can stand plain. -/
def allowsPlain (s : List Char) : Bool :=
  match s with
  | [] => true
  | c :: rest =>
    allowsSingle s && !s.any isBreak && !opensOther s && !hasMark c rest && !isSpace c &&
      !(s.getLast?.any isSpace)

/-- Whether a text can be a literal block. -/
def allowsLiteral (s : List Char) : Bool :=
  s.all isPrintable && !hasPair isSpace isBreak s && !(s.getLast?.any isSpace)

/-- The way in which a text is written. -/
def styleOf (s : String) : Style :=
  let chars := s.toList
  if chars.contains '\n' then
    if allowsLiteral chars then .literal else .double
  else if !isOther s && allowsPlain chars then .plain
  else if allowsSingle chars then .single
  else .double

/-! ## Writing -/

/-- One character between double quotes. -/
def escaped (c : Char) : List Char :=
  let n := c.toNat
  let hex (width : Nat) : List Char :=
    let digits := (Nat.toDigits 16 n).map Char.toUpper
    List.replicate (width - digits.length) '0' ++ digits
  if c == '"' then ['\\', '"']
  else if c == '\\' then ['\\', '\\']
  else if isPrintable c && !isBreak c then [c]
  else match n with
    | 0x00 => ['\\', '0']
    | 0x07 => ['\\', 'a']
    | 0x08 => ['\\', 'b']
    | 0x09 => ['\\', 't']
    | 0x0A => ['\\', 'n']
    | 0x0B => ['\\', 'v']
    | 0x0C => ['\\', 'f']
    | 0x0D => ['\\', 'r']
    | 0x1B => ['\\', 'e']
    | 0x85 => ['\\', 'N']
    | 0x2028 => ['\\', 'L']
    | 0x2029 => ['\\', 'P']
    | _ =>
      if n ≤ 0xFF then '\\' :: 'x' :: hex 2
      else if n ≤ 0xFFFF then '\\' :: 'u' :: hex 4
      else '\\' :: 'U' :: hex 8

/-- A text with so many spaces before each line that has something on it; `fresh` tells whether a
line begins. -/
def indentLines (indent : Nat) (fresh : Bool) : List Char → List Char
  | [] => []
  | c :: rest =>
    if isBreak c then c :: indentLines indent true rest
    else (if fresh then List.replicate indent ' ' else []) ++ c :: indentLines indent false rest

/-- A text between single quotes. -/
def singleQuoted (indent : Nat) (s : List Char) : List Char :=
  let quotes := s.flatMap fun c ↦ if c == '\'' then ['\'', '\''] else [c]
  let closing := if s.getLast?.any isBreak then List.replicate indent ' ' else []
  '\'' :: indentLines indent false quotes ++ closing ++ ['\'']

/-- Whether a text of lines ends with a line of nothing, which a reader is told to keep. -/
def keepsEnd (s : List Char) : Bool :=
  match s.reverse with
  | [c] => isBreak c
  | c :: d :: _ => isBreak c && isBreak d
  | [] => false

/-- The head of a literal block: how far it is indented, if the text itself begins with a blank,
and what becomes of the last line break. -/
def literalHead (s : List Char) : List Char :=
  let indent := if s.head?.any fun c ↦ isSpace c || isBreak c then ['2'] else []
  let ending :=
    if keepsEnd s then ['+'] else if s.getLast?.any isBreak then [] else ['-']
  '|' :: indent ++ ending ++ ['\n']

/-- A text whose further lines have so many spaces before them. -/
def scalarChars (indent : Nat) (s : String) : List Char :=
  let chars := s.toList
  match styleOf s with
  | .plain => chars
  | .single => singleQuoted indent chars
  | .double => '"' :: chars.flatMap escaped ++ ['"']
  | .literal => literalHead chars ++ indentLines indent true chars

end SeriesFilter.Yaml
