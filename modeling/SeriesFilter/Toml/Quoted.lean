/-!
# Strings of TOML

Strings in their four forms: with and without escapes, on one line and on several. A reader takes
the rest of a text and gives a value with what is left, or nothing.
-/

namespace SeriesFilter.Toml

/-- A reader of the beginning of a text. -/
abbrev Scan (α : Type) := List Char → Option (α × List Char)

/-- The characters that stand in no text as themselves. -/
def isControl (c : Char) : Bool :=
  (c.toNat < 0x20 && c != '\t') || c == '\x7f'

/-- A blank within a line. -/
def isBlank (c : Char) : Bool :=
  c == ' ' || c == '\t'

/-- A text without the blanks at its beginning. -/
def skipBlanks (s : List Char) : List Char :=
  s.dropWhile isBlank

/-- The value of hexadecimal digits. -/
def hexValue? (s : List Char) : Option Nat :=
  s.foldlM (fun n c ↦
    if c.isDigit then some (16 * n + (c.toNat - '0'.toNat))
    else if 'a' ≤ c.toLower ∧ c.toLower ≤ 'f' then
      some (16 * n + (c.toLower.toNat - 'a'.toNat + 10))
    else none) 0

/-- The character of a number written with so many digits. -/
def codePoint (width : Nat) : Scan Char := fun s ↦ do
  let digits := s.take width
  let n ← hexValue? digits
  if digits.length = width ∧ n.isValidChar then some (Char.ofNat n, s.drop width) else none

/-- What a backslash and the characters after it stand for. -/
def escape : Scan Char
  | 'b' :: rest => some ('\x08', rest)
  | 't' :: rest => some ('\t', rest)
  | 'n' :: rest => some ('\n', rest)
  | 'f' :: rest => some ('\x0c', rest)
  | 'r' :: rest => some ('\r', rest)
  | 'e' :: rest => some ('\x1b', rest)
  | '"' :: rest => some ('"', rest)
  | '\\' :: rest => some ('\\', rest)
  | 'x' :: rest => codePoint 2 rest
  | 'u' :: rest => codePoint 4 rest
  | 'U' :: rest => codePoint 8 rest
  | _ => none

/-- The rest of a string with escapes on one line. The number bounds the characters read. -/
def basic : Nat → Scan (List Char)
  | 0, _ => none
  | fuel + 1, s =>
    match s with
    | '"' :: rest => some ([], rest)
    | '\\' :: rest => do
      let (c, rest) ← escape rest
      let (cs, rest) ← basic fuel rest
      some (c :: cs, rest)
    | c :: rest =>
      if isControl c then none
      else do
        let (cs, rest) ← basic fuel rest
        some (c :: cs, rest)
    | [] => none

/-- The rest of a string without escapes on one line. -/
def verbatim : Scan (List Char)
  | '\'' :: rest => some ([], rest)
  | c :: rest =>
    if isControl c then none
    else do
      let (cs, rest) ← verbatim rest
      some (c :: cs, rest)
  | [] => none

/-- The end of a string of several lines: three quotes, of which up to two more before them belong
to the string. -/
def closing (quote : Char) (s : List Char) : Option (List Char × List Char) :=
  let run := s.takeWhile (· == quote)
  if 3 ≤ run.length then
    let own := min (run.length - 3) 2
    some (List.replicate own quote, s.drop (own + 3))
  else none

/-- A text after a backslash that ends a line, up to the next character that is no blank; nothing
if the backslash ends no line. -/
def continued (s : List Char) : Option (List Char) :=
  let ends := match skipBlanks s with
    | '\n' :: _ | '\r' :: '\n' :: _ => true
    | _ => false
  if ends then skip s else none
where
  /-- Passes over blanks and line ends. -/
  skip : List Char → Option (List Char)
    | '\r' :: '\n' :: rest => skip rest
    | '\r' :: _ => none
    | c :: rest => if isBlank c || c == '\n' then skip rest else some (c :: rest)
    | [] => some []

/-- The rest of a string with escapes on several lines. -/
def basicLines : Nat → Scan (List Char)
  | 0, _ => none
  | fuel + 1, s =>
    match closing '"' s with
    | some done => some done
    | none =>
      match s with
      | '\\' :: rest =>
        match continued rest with
        | some rest => basicLines fuel rest
        | none => do
          let (c, rest) ← escape rest
          let (cs, rest) ← basicLines fuel rest
          some (c :: cs, rest)
      | '\r' :: '\n' :: rest => do
        let (cs, rest) ← basicLines fuel rest
        some ('\n' :: cs, rest)
      | c :: rest =>
        if isControl c && c != '\n' then none
        else do
          let (cs, rest) ← basicLines fuel rest
          some (c :: cs, rest)
      | [] => none

/-- The rest of a string without escapes on several lines. -/
def verbatimLines : Nat → Scan (List Char)
  | 0, _ => none
  | fuel + 1, s =>
    match closing '\'' s with
    | some done => some done
    | none =>
      match s with
      | '\r' :: '\n' :: rest => do
        let (cs, rest) ← verbatimLines fuel rest
        some ('\n' :: cs, rest)
      | c :: rest =>
        if isControl c && c != '\n' then none
        else do
          let (cs, rest) ← verbatimLines fuel rest
          some (c :: cs, rest)
      | [] => none

/-- A text without the line end right after the quotes that open a string of several lines. -/
def dropLineEnd : List Char → List Char
  | '\n' :: rest => rest
  | '\r' :: '\n' :: rest => rest
  | s => s

/-- A string on one line, from its first quote on. -/
def line : Scan String
  | '"' :: rest => (basic (rest.length + 1) rest).map fun (cs, rest) ↦ (String.ofList cs, rest)
  | '\'' :: rest => (verbatim rest).map fun (cs, rest) ↦ (String.ofList cs, rest)
  | _ => none

/-- A string, from its first quote on. -/
def string : Scan String
  | '"' :: '"' :: '"' :: rest =>
    (basicLines (rest.length + 1) (dropLineEnd rest)).map fun (cs, rest) ↦ (String.ofList cs, rest)
  | '\'' :: '\'' :: '\'' :: rest =>
    (verbatimLines (rest.length + 1) (dropLineEnd rest)).map
      fun (cs, rest) ↦ (String.ofList cs, rest)
  | s => line s

end SeriesFilter.Toml
