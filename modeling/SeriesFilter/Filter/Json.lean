import SeriesFilter.Filter.Basic
import SeriesFilter.Json.Value

/-!
# Filters as JSON

The form in which interfaces exchange filters: keys in full, numbers for fields, operators,
combinations and sort fields. Every key of a filter or group may be missing. Writing always gives
all keys.
-/

namespace SeriesFilter

open Json

namespace Statement

/-- The value that writes a statement. -/
def toJson (s : Statement) : Value :=
  .record [("field", .integer s.field.id), ("comparison", .integer s.comparison.id),
    ("value", .text s.value)]

/-- The keys of a statement in order. -/
def keys : List String :=
  ["field", "comparison", "value"]

/-- A statement being read. -/
structure Draft where
  field : Option Field := none
  comparison : Option Comparison := none
  value : Option String := none

/-- Takes one member into a statement being read. -/
def Draft.put (depth : Nat) (d : Draft) (key : String) (t : Tree) : Except Fault Draft :=
  match key with
  | "field" => do return { d with field := ← Reader.fill d.field (Field.reader depth) t }
  | "comparison" => do
    return { d with comparison := ← Reader.fill d.comparison (Comparison.reader depth) t }
  | "value" => do return { d with value := ← Reader.fill d.value (Reader.text depth) t }
  | _ => do
    t.skip
    return d

/-- Reads a statement; the literal may be missing. -/
def reader : Reader Statement
  | 0, t => .error (Reader.tooDeep t)
  | depth + 1, t => do
    let d ← Reader.record keys (Draft.put depth) {} t
    return ⟨← Reader.required d.field, ← Reader.required d.comparison, d.value.getD ""⟩

end Statement

namespace Group

mutual

/-- The value that writes a group. -/
def toJson : Group → Value
  | ⟨statements, and, or⟩ =>
    .record [("statements", .list (statements.map Statement.toJson)),
      ("and", .list (listToJson and)),
      ("or", .list (listToJson or))]

/-- The values that write a list of groups. -/
def listToJson : List Group → List Value
  | [] => []
  | g :: gs => toJson g :: listToJson gs

end

/-- The keys of a group in order. -/
def keys : List String :=
  ["statements", "and", "or"]

/-- A group being read. -/
structure Draft where
  statements : Option (List Statement) := none
  and : Option (List Group) := none
  or : Option (List Group) := none

/-- Takes one member into a group being read; `children` reads a list of groups. -/
def Draft.put (depth : Nat) (children : Tree → Except Fault (List Group)) (d : Draft)
    (key : String) (t : Tree) : Except Fault Draft :=
  match key with
  | "statements" => do
    return { d with
      statements := ← Reader.fill d.statements (Reader.list Statement.reader depth) t }
  | "and" => do return { d with and := ← Reader.fill d.and children t }
  | "or" => do return { d with or := ← Reader.fill d.or children t }
  | _ => do
    t.skip
    return d

/-- Reads a group whose lists of children are read by `children`. -/
def readWith (depth : Nat) (children : Tree → Except Fault (List Group)) (t : Tree) :
    Except Fault Group := do
  let d ← Reader.record keys (Draft.put depth children) {} t
  return ⟨d.statements.getD [], d.and.getD [], d.or.getD []⟩

/-- Reads a group; each step down the tree opens two brackets. -/
def reader : Reader Group
  | 0, t => .error (Reader.tooDeep t)
  | 1, t => readWith 0 (fun t ↦ .error (Reader.tooDeep t)) t
  | depth + 2, t => readWith (depth + 1) (Reader.items (reader depth)) t

end Group

/-- Reads a combination by its number. -/
def Combination.reader : Reader Combination :=
  Reader.refine (Reader.integer 0 255) Combination.ofId?

/-- Reads a sort field by its number. -/
def SortField.reader : Reader SortField :=
  Reader.refine (Reader.integer 0 255) SortField.ofId?

namespace SortOptions

/-- The value that writes an order. -/
def toJson (s : SortOptions) : Value :=
  .record [("sortField", .integer s.field.id), ("isAscending", .bool s.ascending)]

/-- The keys of an order. -/
def keys : List String :=
  ["sortField", "isAscending"]

/-- An order being read. -/
structure Draft where
  field : Option SortField := none
  ascending : Option Bool := none

/-- Takes one member into an order being read. -/
def Draft.put (depth : Nat) (d : Draft) (key : String) (t : Tree) : Except Fault Draft :=
  match key with
  | "sortField" => do return { d with field := ← Reader.fill d.field (SortField.reader depth) t }
  | "isAscending" => do
    return { d with ascending := ← Reader.fill d.ascending (Reader.bool depth) t }
  | _ => do
    t.skip
    return d

/-- Reads an order. -/
def reader : Reader SortOptions
  | 0, t => .error (Reader.tooDeep t)
  | depth + 1, t => do
    let d ← Reader.record keys (Draft.put depth) {} t
    return ⟨← Reader.required d.field, ← Reader.required d.ascending⟩

end SortOptions

namespace Filter

/-- The members that write a filter. -/
def members (f : Filter) : List (String × Value) :=
  [("name", .ofOption .text f.name),
    ("statements", .list (f.statements.map Statement.toJson)),
    ("combination", .integer f.combination.id),
    ("sortOptions", .ofOption SortOptions.toJson f.sort),
    ("limitTo", .integer f.limit.toNat),
    ("group", .ofOption Group.toJson f.group)]

/-- The value that writes a filter. -/
def toJson (f : Filter) : Value :=
  .record f.members

/-- The keys of a filter. -/
def keys : List String :=
  ["name", "statements", "combination", "sortOptions", "limitTo", "group"]

/-- A filter being read. -/
structure Draft where
  name : Option (Option String) := none
  statements : Option (List Statement) := none
  combination : Option Combination := none
  sort : Option (Option SortOptions) := none
  limit : Option UInt32 := none
  group : Option (Option Group) := none

/-- Reads a limit: an unsigned 32-bit integer. -/
def limitReader : Reader UInt32 := fun depth t ↦
  (Reader.natural 0x100000000 depth t).map Nat.toUInt32

/-- Takes one member into a filter being read. -/
def Draft.put (depth : Nat) (d : Draft) (key : String) (t : Tree) : Except Fault Draft :=
  match key with
  | "name" => do
    return { d with name := ← Reader.fill d.name (Reader.optional Reader.text depth) t }
  | "statements" => do
    return { d with
      statements := ← Reader.fill d.statements (Reader.list Statement.reader depth) t }
  | "combination" => do
    return { d with combination := ← Reader.fill d.combination (Combination.reader depth) t }
  | "sortOptions" => do
    return { d with
      sort := ← Reader.fill d.sort (Reader.optional SortOptions.reader depth) t }
  | "limitTo" => do return { d with limit := ← Reader.fill d.limit (limitReader depth) t }
  | "group" => do
    return { d with group := ← Reader.fill d.group (Reader.optional Group.reader depth) t }
  | _ => do
    t.skip
    return d

/-- Reads a filter. -/
def reader : Reader Filter
  | 0, t => .error (Reader.tooDeep t)
  | depth + 1, t => do
    let d ← Reader.record keys (Draft.put depth) {} t
    return {
      name := d.name.join
      statements := d.statements.getD []
      combination := d.combination.getD .and
      sort := d.sort.join
      limit := d.limit.getD 0
      group := d.group.join }

/-- Reads a filter from JSON text. -/
def ofString (text : String) : Except Fault Filter :=
  readString reader text

end Filter

end SeriesFilter
