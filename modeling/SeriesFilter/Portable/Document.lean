import SeriesFilter.Filter.Json

/-!
# The document inside an encoded filter

The stored form of a filter: one-letter keys, numbers that need not mean anything to the running
catalogue, and no key for what is empty. Only the combination is always written.
Spec guidance: `SPEC_FULL.md` §§4.2/12.
-/

namespace SeriesFilter.Portable

open Json

/-- A stored or posted number, unless it lies outside a range that is looked up.
`SPEC_FULL.md:200–201`. -/
def narrow? (least greatest n : Int) : Option Int :=
  if least ≤ n ∧ n ≤ greatest then some n else none

/-- A number as a signed 32-bit one. -/
def int32? : Int → Option Int := narrow? (-0x80000000) 0x7FFFFFFF

/-- A number as an unsigned 8-bit one. -/
def uint8? : Int → Option Int := narrow? 0 0xFF

/-- A statement by its numbers. `SPEC_FULL.md:187–188`. -/
structure Statement where
  field : Int
  comparison : Int
  value : String := ""
  deriving DecidableEq, Repr

/-- A group of such statements. -/
structure Group where
  statements : List Statement := []
  and : List Group := []
  or : List Group := []
  deriving Repr

/-- An order by its number. -/
structure Order where
  field : Int
  ascending : Bool
  deriving DecidableEq, Repr

/-- The number of the combination when none is written: all statements must hold.
`SPEC_FULL.md:172–173`. -/
def defaultCombination : Int := Combination.id .and

/-- A stored filter. `SPEC_FULL.md:187–188`. -/
structure Document where
  name : Option String := none
  statements : List Statement := []
  combination : Int := defaultCombination
  sort : Option Order := none
  limit : UInt32 := 0
  group : Option Group := none
  deriving Repr

/-- A member that is written only when its list has items. -/
def listMember (key : String) (items : List Value) : List (String × Value) :=
  if items.isEmpty then [] else [(key, .list items)]

/-- A member that is written only when there is a value. -/
def optionMember (key : String) (value : Option Value) : List (String × Value) :=
  match value with
  | some v => [(key, v)]
  | none => []

namespace Statement

/-- The statement that stands for one of a filter. -/
def ofStatement (s : SeriesFilter.Statement) : Statement :=
  ⟨s.field.id, s.comparison.id, s.value⟩

/-- The value that writes a statement. -/
def toJson (s : Statement) : Value :=
  .record [("f", .integer s.field), ("c", .integer s.comparison), ("v", .text s.value)]

/-- A statement being read. -/
structure Draft where
  field : Option Int := none
  comparison : Option Int := none
  value : Option String := none

/-- Takes one member into a statement being read. -/
def Draft.put (depth : Nat) (d : Draft) (key : String) (t : Tree) : Except Fault Draft :=
  match key with
  | "f" => do return { d with field := ← Reader.fill d.field (Reader.int64 depth) t }
  | "c" => do return { d with comparison := ← Reader.fill d.comparison (Reader.int64 depth) t }
  | "v" => do return { d with value := ← Reader.fill d.value (Reader.text depth) t }
  | _ => do
    t.skip
    return d

/-- Reads a statement; the literal may be missing. -/
def reader : Reader Statement
  | 0, t => .error (Reader.tooDeep t)
  | depth + 1, t => do
    let d ← Reader.record ["f", "c", "v"] (Draft.put depth) {} t
    return ⟨← Reader.required d.field, ← Reader.required d.comparison, d.value.getD ""⟩

end Statement

namespace Group

mutual

/-- The group that stands for one of a filter. -/
def ofGroup : SeriesFilter.Group → Group
  | ⟨statements, and, or⟩ => ⟨statements.map Statement.ofStatement, ofGroups and, ofGroups or⟩

/-- The groups that stand for some of a filter. -/
def ofGroups : List SeriesFilter.Group → List Group
  | [] => []
  | g :: gs => ofGroup g :: ofGroups gs

end

mutual

/-- The value that writes a group. -/
def toJson : Group → Value
  | ⟨statements, and, or⟩ =>
    .record (listMember "s" (statements.map Statement.toJson) ++ listMember "a" (listToJson and) ++
      listMember "o" (listToJson or))

/-- The values that write a list of groups. -/
def listToJson : List Group → List Value
  | [] => []
  | g :: gs => toJson g :: listToJson gs

end

/-- A group being read. -/
structure Draft where
  statements : Option (List Statement) := none
  and : Option (List Group) := none
  or : Option (List Group) := none

/-- Takes one member into a group being read; `children` reads a list of groups. -/
def Draft.put (depth : Nat) (children : Tree → Except Fault (List Group)) (d : Draft)
    (key : String) (t : Tree) : Except Fault Draft :=
  match key with
  | "s" => do
    return { d with
      statements := ← Reader.fill d.statements (Reader.list Statement.reader depth) t }
  | "a" => do return { d with and := ← Reader.fill d.and children t }
  | "o" => do return { d with or := ← Reader.fill d.or children t }
  | _ => do
    t.skip
    return d

/-- Reads a group whose lists of children are read by `children`. -/
def readWith (depth : Nat) (children : Tree → Except Fault (List Group)) (t : Tree) :
    Except Fault Group := do
  let d ← Reader.record ["s", "a", "o"] (Draft.put depth children) {} t
  return ⟨d.statements.getD [], d.and.getD [], d.or.getD []⟩

/-- Reads a group; each step down the tree opens two brackets. -/
def reader : Reader Group
  | 0, t => .error (Reader.tooDeep t)
  | 1, t => readWith 0 (fun t ↦ .error (Reader.tooDeep t)) t
  | depth + 2, t => readWith (depth + 1) (Reader.items (reader depth)) t

end Group

namespace Order

/-- The order that stands for one of a filter. -/
def ofSortOptions (s : SortOptions) : Order :=
  ⟨s.field.id, s.ascending⟩

/-- The value that writes an order. -/
def toJson (s : Order) : Value :=
  .record [("f", .integer s.field), ("a", .bool s.ascending)]

/-- An order being read. -/
structure Draft where
  field : Option Int := none
  ascending : Option Bool := none

/-- Takes one member into an order being read. -/
def Draft.put (depth : Nat) (d : Draft) (key : String) (t : Tree) : Except Fault Draft :=
  match key with
  | "f" => do return { d with field := ← Reader.fill d.field (Reader.int64 depth) t }
  | "a" => do return { d with ascending := ← Reader.fill d.ascending (Reader.bool depth) t }
  | _ => do
    t.skip
    return d

/-- Reads an order. -/
def reader : Reader Order
  | 0, t => .error (Reader.tooDeep t)
  | depth + 1, t => do
    let d ← Reader.record ["f", "a"] (Draft.put depth) {} t
    return ⟨← Reader.required d.field, ← Reader.required d.ascending⟩

end Order

namespace Document

/-- The document that stores a filter. -/
def ofFilter (f : Filter) : Document where
  name := f.name
  statements := f.statements.map Statement.ofStatement
  combination := f.combination.id
  sort := f.sort.map Order.ofSortOptions
  limit := f.limit
  group := f.group.map Group.ofGroup

/-- The value that writes a document. -/
def toJson (d : Document) : Value :=
  .record (optionMember "n" (d.name.map .text) ++
    listMember "s" (d.statements.map Statement.toJson) ++
    [("c", .integer d.combination)] ++
    optionMember "o" (d.sort.map Order.toJson) ++
    optionMember "l" (if d.limit = 0 then none else some (.integer d.limit.toNat)) ++
    optionMember "g" (d.group.map Group.toJson))

/-- A document being read. -/
structure Draft where
  name : Option (Option String) := none
  statements : Option (List Statement) := none
  combination : Option Int := none
  sort : Option (Option Order) := none
  limit : Option UInt32 := none
  group : Option (Option Group) := none

/-- Takes one member into a document being read. -/
def Draft.put (depth : Nat) (d : Draft) (key : String) (t : Tree) : Except Fault Draft :=
  match key with
  | "n" => do return { d with name := ← Reader.fill d.name (Reader.optional Reader.text depth) t }
  | "s" => do
    return { d with
      statements := ← Reader.fill d.statements (Reader.list Statement.reader depth) t }
  | "c" => do return { d with combination := ← Reader.fill d.combination (Reader.int64 depth) t }
  | "o" => do
    return { d with sort := ← Reader.fill d.sort (Reader.optional Order.reader depth) t }
  | "l" => do return { d with limit := ← Reader.fill d.limit (Filter.limitReader depth) t }
  | "g" => do
    return { d with group := ← Reader.fill d.group (Reader.optional Group.reader depth) t }
  | _ => do
    t.skip
    return d

/-- Reads a document. -/
def reader : Reader Document
  | 0, t => .error (Reader.tooDeep t)
  | depth + 1, t => do
    let d ← Reader.record ["n", "s", "c", "o", "l", "g"] (Draft.put depth) {} t
    return {
      name := d.name.join
      statements := d.statements.getD []
      combination := d.combination.getD defaultCombination
      sort := d.sort.join
      limit := d.limit.getD 0
      group := d.group.join }

end Document

end SeriesFilter.Portable
