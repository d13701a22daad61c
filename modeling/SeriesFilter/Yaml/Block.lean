import SeriesFilter.Json.Value
import SeriesFilter.Yaml.Scalar

/-!
# Values in YAML

Each member and each item has a line of its own. The members of a record inside another are two
spaces deeper; the items of a list stand as deep as the name of the list. A record among the items
of a list begins on the line of its dash.
-/

namespace SeriesFilter.Yaml

open Json (Value integerText)

/-- Numbers are positional up to sixteen digits before the point and four zeros after it; a
positive exponent has no sign. -/
def numberStyle : Decimal.Style := ⟨16, 4, false⟩

/-- The text of a number that may be infinite or none. -/
def numberChars (n : Decimal.Number) : List Char :=
  if n.isFinite then n.text numberStyle
  else if n.isNaN then ['.', 'n', 'a', 'n']
  else if n.isNegative then ['-', '.', 'i', 'n', 'f']
  else ['.', 'i', 'n', 'f']

/-- The name of a member. -/
def keyChars (s : String) : List Char :=
  match styleOf s with
  | .literal => '"' :: s.toList.flatMap escaped ++ ['"']
  | _ => scalarChars 0 s

/-- A line, ended unless it ends with a line break already. -/
def endLine (line : List Char) : List Char :=
  if line.getLast?.any isBreak then line else line ++ ['\n']

/-- So many spaces, unless the line has begun. -/
def margin (indent : Nat) (begun : Bool) : List Char :=
  if begun then [] else List.replicate indent ' '

mutual

/-- What follows the name of a member at some depth. -/
def memberChars (indent : Nat) : Value → List Char
  | .list [] => [' ', '[', ']', '\n']
  | .list (item :: rest) => '\n' :: itemsChars indent false (item :: rest)
  | .record [] => [' ', '\x7b', '\x7d', '\n']
  | .record (member :: rest) => '\n' :: membersChars (indent + 2) false (member :: rest)
  | .null => [' ', 'n', 'u', 'l', 'l', '\n']
  | .bool b => ' ' :: (toString b).toList ++ ['\n']
  | .integer n => ' ' :: integerText n ++ ['\n']
  | .real n => ' ' :: numberChars n ++ ['\n']
  | .text s => ' ' :: endLine (scalarChars (indent + 2) s)

/-- What follows the dash of an item at some depth. -/
def itemChars (indent : Nat) : Value → List Char
  | .list [] => [' ', '[', ']', '\n']
  | .list (item :: rest) => ' ' :: itemsChars (indent + 2) true (item :: rest)
  | .record [] => [' ', '\x7b', '\x7d', '\n']
  | .record (member :: rest) => ' ' :: membersChars (indent + 2) true (member :: rest)
  | .null => [' ', 'n', 'u', 'l', 'l', '\n']
  | .bool b => ' ' :: (toString b).toList ++ ['\n']
  | .integer n => ' ' :: integerText n ++ ['\n']
  | .real n => ' ' :: numberChars n ++ ['\n']
  | .text s => ' ' :: endLine (scalarChars (indent + 2) s)

/-- Items at some depth; `begun` tells whether the line of the first has begun. -/
def itemsChars (indent : Nat) (begun : Bool) : List Value → List Char
  | [] => []
  | item :: rest =>
    margin indent begun ++ '-' :: itemChars indent item ++ itemsChars indent false rest

/-- Members at some depth; `begun` tells whether the line of the first has begun. -/
def membersChars (indent : Nat) (begun : Bool) : List (String × Value) → List Char
  | [] => []
  | (key, value) :: rest =>
    margin indent begun ++ keyChars key ++ ':' :: memberChars indent value ++
      membersChars indent false rest

end

/-- The lines of a value. -/
def documentChars : Value → List Char
  | .list (item :: rest) => itemsChars 0 false (item :: rest)
  | .record (member :: rest) => membersChars 0 false (member :: rest)
  | v => (memberChars 0 v).drop 1

/-- The document that holds a value. -/
def document (v : Value) : String :=
  String.ofList (documentChars v)

end SeriesFilter.Yaml
