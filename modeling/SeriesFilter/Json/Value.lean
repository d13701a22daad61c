import SeriesFilter.Decimal.Shortest

/-!
# JSON values and their text

Values to be written. The compact text has no blanks; the indented one puts each item and member
on a line of its own, two spaces deeper than what holds it.
-/

namespace SeriesFilter.Json

/-- A value to be written. Members of a record keep their order. -/
inductive Value where
  | null
  | bool (b : Bool)
  | integer (n : Int)
  | real (n : Decimal.Number)
  | text (s : String)
  | list (items : List Value)
  | record (members : List (String × Value))

/-- The characters of a number in base ten. -/
def integerText (n : Int) : List Char :=
  match n with
  | .ofNat k => Nat.toDigits 10 k
  | .negSucc k => '-' :: Nat.toDigits 10 (k + 1)

/-- One character of a string: quote, backslash and control characters are escaped. -/
def escapeChar (c : Char) : List Char :=
  if c == '"' then ['\\', '"']
  else if c == '\\' then ['\\', '\\']
  else if c == '\x08' then ['\\', 'b']
  else if c == '\x0c' then ['\\', 'f']
  else if c == '\n' then ['\\', 'n']
  else if c == '\r' then ['\\', 'r']
  else if c == '\t' then ['\\', 't']
  else if c.toNat < 0x20 then
    ['\\', 'u', '0', '0', Nat.digitChar (c.toNat / 16), Nat.digitChar (c.toNat % 16)]
  else [c]

/-- A string between quotes. -/
def stringText (s : String) : List Char :=
  '"' :: s.toList.flatMap escapeChar ++ ['"']

/-- Numbers are positional up to sixteen digits before the point and four zeros after it; an
exponent has its sign. -/
def numberStyle : Decimal.Style := ⟨16, 4, true⟩

namespace Value

mutual

/-- The text without blanks. -/
def compactChars : Value → List Char
  | .null => ['n', 'u', 'l', 'l']
  | .bool true => ['t', 'r', 'u', 'e']
  | .bool false => ['f', 'a', 'l', 's', 'e']
  | .integer n => integerText n
  | .real n => if n.isFinite then n.text numberStyle else ['n', 'u', 'l', 'l']
  | .text s => stringText s
  | .list items => '[' :: compactItems items ++ [']']
  | .record members => '\x7b' :: compactMembers members ++ ['\x7d']

/-- Items with commas between them. -/
def compactItems : List Value → List Char
  | [] => []
  | [item] => compactChars item
  | item :: rest => compactChars item ++ ',' :: compactItems rest

/-- Members with commas between them. -/
def compactMembers : List (String × Value) → List Char
  | [] => []
  | [(key, value)] => stringText key ++ ':' :: compactChars value
  | (key, value) :: rest =>
    stringText key ++ ':' :: compactChars value ++ ',' :: compactMembers rest

end

/-- The text without blanks. -/
def compact (v : Value) : String :=
  String.ofList v.compactChars

/-- A new line at some depth. -/
def newLine (depth : Nat) : List Char :=
  '\n' :: List.replicate (2 * depth) ' '

mutual

/-- The indented text of a value that stands at some depth. -/
def indentedChars (depth : Nat) : Value → List Char
  | .list [] => ['[', ']']
  | .list (item :: rest) =>
    '[' :: indentedItems (depth + 1) (item :: rest) ++ newLine depth ++ [']']
  | .record [] => ['\x7b', '\x7d']
  | .record (member :: rest) =>
    '\x7b' :: indentedMembers (depth + 1) (member :: rest) ++ newLine depth ++ ['\x7d']
  | .null => compactChars .null
  | .bool b => compactChars (.bool b)
  | .integer n => compactChars (.integer n)
  | .real n => compactChars (.real n)
  | .text s => compactChars (.text s)

/-- Items, each on its line. -/
def indentedItems (depth : Nat) : List Value → List Char
  | [] => []
  | [item] => newLine depth ++ indentedChars depth item
  | item :: rest => newLine depth ++ indentedChars depth item ++ ',' :: indentedItems depth rest

/-- Members, each on its line. -/
def indentedMembers (depth : Nat) : List (String × Value) → List Char
  | [] => []
  | [(key, value)] =>
    newLine depth ++ stringText key ++ ':' :: ' ' :: indentedChars depth value
  | (key, value) :: rest =>
    newLine depth ++ stringText key ++ ':' :: ' ' :: indentedChars depth value ++
      ',' :: indentedMembers depth rest

end

/-- The indented text. -/
def indented (v : Value) : String :=
  String.ofList (v.indentedChars 0)

/-- A list of texts. -/
def texts (items : List String) : Value :=
  .list (items.map .text)

/-- A value or `null`. -/
def ofOption (f : α → Value) : Option α → Value
  | some a => f a
  | none => .null

end Value

end SeriesFilter.Json
