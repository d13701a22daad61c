import SeriesFilter.Toml.Quoted
import SeriesFilter.Toml.Word

/-!
# Documents of TOML

A document is a list of lines: headings that open tables, and keys with values. The lines are read
first; then the table that they describe is built one line after another, and a line that does not
fit what was said before makes the document invalid.
-/

namespace SeriesFilter.Toml

/-! ## Blanks and comments -/

/-- Passes over blanks, line ends and comments; within a comment only its end counts. -/
def skipLines (inComment : Bool) : List Char → Option (List Char)
  | [] => some []
  | '\n' :: rest => skipLines false rest
  | '\r' :: '\n' :: rest => skipLines false rest
  | c :: rest =>
    if inComment then if isControl c then none else skipLines true rest
    else if c == '#' then skipLines true rest
    else if isBlank c then skipLines false rest
    else some (c :: rest)

/-- Passes over what may follow a value on its line: blanks and a comment. -/
def endLine (inComment : Bool) : List Char → Option (List Char)
  | [] => some []
  | '\n' :: rest => some rest
  | '\r' :: '\n' :: rest => some rest
  | c :: rest =>
    if inComment then if isControl c then none else endLine true rest
    else if c == '#' then endLine true rest
    else if isBlank c then endLine false rest
    else none

/-! ## Keys -/

/-- The characters of keys without quotes. -/
def isKeyChar (c : Char) : Bool :=
  c.isAlphanum || c == '_' || c == '-'

/-- One part of a key. -/
def keyPart : Scan String := fun s ↦
  match s with
  | '"' :: _ | '\'' :: _ => line s
  | _ =>
    match s.takeWhile isKeyChar with
    | [] => none
    | word => some (String.ofList word, s.dropWhile isKeyChar)

/-- A key of at most so many parts with points between them: all but the last part, and the
last. -/
def keyWithin : Nat → Scan (List String × String)
  | 0, _ => none
  | parts + 1, s => do
    let (part, rest) ← keyPart s
    match skipBlanks rest with
    | '.' :: rest => do
      let ((path, last), rest) ← keyWithin parts (skipBlanks rest)
      some ((part :: path, last), rest)
    | rest => some (([], part), rest)

/-- How many parts a key may have. -/
def maxParts : Nat := 80

/-- A key. -/
def key : Scan (List String × String) :=
  keyWithin maxParts

/-! ## Values -/

/-- How deep arrays and inline tables may stand in one another. -/
def maxDepth : Nat := 80

mutual

/-- A value; `depth` is how much deeper values may stand. The first number bounds the steps. -/
def value : Nat → Nat → Scan Value
  | 0, _, _ => none
  | fuel + 1, depth, s =>
    match s with
    | '"' :: _ | '\'' :: _ => (string s).map fun (s, rest) ↦ (.text s, rest)
    | '[' :: rest =>
      if depth = 0 then none
      else (items fuel (depth - 1) rest).map fun (vs, rest) ↦ (.array vs, rest)
    | '\x7b' :: rest =>
      if depth = 0 then none
      else (members fuel (depth - 1) ⟨.inline, []⟩ rest).map fun (t, rest) ↦ (t.toValue, rest)
    | _ =>
      let (word, rest) := word s
      (valueOfWord? word).map fun v ↦ (v, rest)

/-- The items of an array up to its end. -/
def items : Nat → Nat → Scan (List Value)
  | 0, _, _ => none
  | fuel + 1, depth, s => do
    match ← skipLines false s with
    | ']' :: rest => some ([], rest)
    | s => do
      let (v, rest) ← value fuel depth s
      match ← skipLines false rest with
      | ',' :: rest => do
        let (vs, rest) ← items fuel depth rest
        some (v :: vs, rest)
      | ']' :: rest => some ([v], rest)
      | _ => none

/-- The members of an inline table up to its end, added to those before. A table may go on over
several lines, and a comma may stand after its last member. -/
def members : Nat → Nat → Table → Scan Table
  | 0, _, _, _ => none
  | fuel + 1, depth, t, s => do
    match ← skipLines false s with
    | '\x7d' :: rest => some (t, rest)
    | s => do
      let ((path, last), rest) ← key s
      match ← skipLines false rest with
      | '=' :: rest => do
        let (v, rest) ← value fuel depth (← skipLines false rest)
        let t ← t.add path last v
        match ← skipLines false rest with
        | ',' :: rest => members fuel depth t rest
        | '\x7d' :: rest => some (t, rest)
        | _ => none
      | _ => none

end

/-! ## Lines -/

/-- A line of a document. -/
inductive Line where
  /-- The heading of a table. -/
  | opens (path : List String) (key : String)
  /-- The heading of the next table of a list. -/
  | opensNext (path : List String) (key : String)
  /-- A key and its value. -/
  | sets (path : List String) (key : String) (v : Value)

/-- A line that begins with a character other than a blank. -/
def lineScan : Scan Line := fun s ↦
  match s with
  | '[' :: '[' :: rest => do
    let ((path, last), rest) ← key (skipBlanks rest)
    match rest with
    | ']' :: ']' :: rest => some (.opensNext path last, rest)
    | _ => none
  | '[' :: rest => do
    let ((path, last), rest) ← key (skipBlanks rest)
    match rest with
    | ']' :: rest => some (.opens path last, rest)
    | _ => none
  | s => do
    let ((path, last), rest) ← key s
    match rest with
    | '=' :: rest => do
      let (v, rest) ← value (2 * rest.length + 2) maxDepth (skipBlanks rest)
      some (.sets path last v, rest)
    | _ => none

/-- The lines of a text. The number bounds them. -/
def lines : Nat → List Char → Option (List Line)
  | 0, _ => none
  | fuel + 1, s => do
    match ← skipLines false s with
    | [] => some []
    | s => do
      let (line, rest) ← lineScan s
      let rest ← endLine false rest
      return line :: (← lines fuel rest)

/-! ## Documents -/

/-- A document being built: its table, and the path of the heading above. -/
structure Draft where
  root : Table
  heading : List String

/-- Takes in one line. -/
def Draft.take (d : Draft) : Line → Option Draft
  | .opens path key => do
    return ⟨← d.root.openTable path key, path ++ [key]⟩
  | .opensNext path key => do
    return ⟨← d.root.openNext path key, path ++ [key]⟩
  | .sets path key v => do
    return { d with root := ← Table.reach false (Table.add path key v) d.heading d.root }

/-- The table that a document describes. A byte order mark may stand before it. -/
def read? (text : String) : Option Table := do
  let s := match text.toList with
    | '\ufeff' :: rest => rest
    | s => s
  let d ← (← lines (s.length + 1) s).foldlM Draft.take ⟨.empty, []⟩
  return d.root

end SeriesFilter.Toml
