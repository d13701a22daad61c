import SeriesFilter.Decimal.Number

/-!
# Values and tables of TOML

A table remembers how it came to be, because that decides what may still be added to it: a table
under a heading is opened once, a table that only lies on the way to a heading may be opened later,
a table made by a dotted key takes further dotted keys, and an inline table is closed.
-/

namespace SeriesFilter.Toml

/-- How a table came to be. -/
inductive Origin where
  /-- It has a heading of its own, or is the whole document. -/
  | heading
  /-- It lies on the way to a heading. -/
  | implied
  /-- It lies on the way of a dotted key. -/
  | dotted
  /-- It is written between braces. -/
  | inline
  deriving DecidableEq, Repr

/-- A value. -/
inductive Value where
  | boolean (b : Bool)
  | integer (n : Int)
  | float (n : Decimal.Number)
  | text (s : String)
  /-- A date, a time of day, or both. -/
  | time (written : String)
  | array (items : List Value)
  | table (origin : Origin) (members : List (String × Value))
  /-- A list of tables, each with a heading. -/
  | tables (items : List (List (String × Value)))

/-- A table by itself. -/
structure Table where
  origin : Origin
  members : List (String × Value)

namespace Table

/-- The document before its first line. -/
def empty : Table := ⟨.heading, []⟩

/-- The value of a key. -/
def get? (t : Table) (key : String) : Option Value :=
  t.members.lookup key

/-- Gives a key a value, in the place of the one it had. -/
def put (t : Table) (key : String) (v : Value) : Table :=
  if t.members.any (·.1 == key) then
    { t with members := t.members.map fun (k, old) ↦ (k, if k == key then v else old) }
  else { t with members := t.members ++ [(key, v)] }

/-- The value that a table is. -/
def toValue (t : Table) : Value :=
  .table t.origin t.members

/-- Changes the table at the end of a path. Tables that are missing on the way are made; of a list
of tables the last is entered. A dotted key does not enter a table that has a heading. -/
def reach (dotted : Bool) (change : Table → Option Table) : List String → Table → Option Table
  | [], t => change t
  | key :: path, t =>
    match t.get? key with
    | none => do
      let child ← reach dotted change path ⟨if dotted then .dotted else .implied, []⟩
      return t.put key child.toValue
    | some (.table origin members) =>
      if origin = .inline ∨ dotted ∧ origin = .heading then none
      else do
        let child ← reach dotted change path ⟨origin, members⟩
        return t.put key child.toValue
    | some (.tables items) => do
      let child ← reach dotted change path ⟨.heading, ← items.getLast?⟩
      return t.put key (.tables (items.dropLast ++ [child.members]))
    | some _ => none

/-- Adds a value at the end of a path of keys that has none yet. All but the last key are dotted:
they lead through tables made by dotted keys alone. -/
def add (path : List String) (key : String) (v : Value) (t : Table) : Option Table :=
  let change (t : Table) : Option Table :=
    if (t.origin == .dotted) == path.isEmpty then none
    else match t.get? key with
      | none => some (t.put key v)
      | some _ => none
  reach true change path t

/-- Opens the table of a heading. -/
def openTable (path : List String) (key : String) (t : Table) : Option Table :=
  let change (t : Table) : Option Table :=
    match t.get? key with
    | none => some (t.put key (.table .heading []))
    | some (.table .implied members) => some (t.put key (.table .heading members))
    | some _ => none
  reach false change path t

/-- Opens the next table of the list of a heading. -/
def openNext (path : List String) (key : String) (t : Table) : Option Table :=
  let change (t : Table) : Option Table :=
    match t.get? key with
    | none => some (t.put key (.tables [[]]))
    | some (.tables items) => some (t.put key (.tables (items ++ [[]])))
    | some _ => none
  reach false change path t

end Table

end SeriesFilter.Toml
