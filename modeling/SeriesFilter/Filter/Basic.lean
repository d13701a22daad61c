import SeriesFilter.Catalog.Comparison

/-!
# Filters

A filter holds a flat list of statements under one combination and, besides it, a tree of groups.
A group is true when all its statements and all its `and` children are true, or when some `or`
child is. A filter also carries a name, an order and a limit.
Spec guidance: `SPEC_FULL.md` §§3/11.
-/

namespace SeriesFilter

/-- One condition as it was entered; the literal is kept as text. `SPEC_FULL.md:35–37`. -/
structure Statement where
  field : Field
  comparison : Comparison
  value : String := ""
  deriving DecidableEq, Repr

/-- A node of the tree. `SPEC_FULL.md:39–42`. -/
structure Group where
  statements : List Statement := []
  and : List Group := []
  or : List Group := []
  deriving Repr

namespace Group

mutual

/-- Groups are equal or not, part by part. -/
def decEq : (a b : Group) → Decidable (a = b)
  | ⟨s₁, a₁, o₁⟩, ⟨s₂, a₂, o₂⟩ =>
    match (inferInstance : Decidable (s₁ = s₂)), decEqList a₁ a₂, decEqList o₁ o₂ with
    | isTrue hs, isTrue ha, isTrue ho => isTrue (by rw [hs, ha, ho])
    | isFalse hs, _, _ => isFalse fun h ↦ hs (Group.mk.inj h).1
    | _, isFalse ha, _ => isFalse fun h ↦ ha (Group.mk.inj h).2.1
    | _, _, isFalse ho => isFalse fun h ↦ ho (Group.mk.inj h).2.2

/-- Lists of groups are equal or not, item by item. -/
def decEqList : (a b : List Group) → Decidable (a = b)
  | [], [] => isTrue rfl
  | [], _ :: _ => isFalse nofun
  | _ :: _, [] => isFalse nofun
  | a :: as, b :: bs =>
    match decEq a b, decEqList as bs with
    | isTrue h, isTrue hs => isTrue (by rw [h, hs])
    | isFalse h, _ => isFalse fun e ↦ h (List.cons.inj e).1
    | _, isFalse hs => isFalse fun e ↦ hs (List.cons.inj e).2

end

instance : DecidableEq Group := decEq

/-- Whether a group has neither statements nor children of its own. -/
def isEmpty (g : Group) : Bool :=
  g.statements.isEmpty && g.and.isEmpty && g.or.isEmpty

mutual

/-- How many groups stand one inside the other; a group alone has depth one. -/
def depth : Group → Nat
  | ⟨_, and, or⟩ => 1 + max (maxDepth and) (maxDepth or)

/-- The greatest depth in a list of groups, zero for none. -/
def maxDepth : List Group → Nat
  | [] => 0
  | g :: gs => max (depth g) (maxDepth gs)

end

mutual

/-- The statements of a group and of all groups below it. -/
def statementCount : Group → Nat
  | ⟨statements, and, or⟩ => statements.length + sumStatements and + sumStatements or

/-- The statements of a list of groups. -/
def sumStatements : List Group → Nat
  | [] => 0
  | g :: gs => statementCount g + sumStatements gs

end

mutual

/-- A group and all groups below it. -/
def groupCount : Group → Nat
  | ⟨_, and, or⟩ => 1 + sumGroups and + sumGroups or

/-- The groups of a list of groups. -/
def sumGroups : List Group → Nat
  | [] => 0
  | g :: gs => groupCount g + sumGroups gs

end

/-- A group that asks for all of some statements. -/
def all (statements : List Statement) : Group :=
  { statements }

/-- A group with one more child that must be true. -/
def withAnd (g child : Group) : Group :=
  { g with and := g.and ++ [child] }

/-- A group with one more child that suffices. -/
def withOr (g child : Group) : Group :=
  { g with or := g.or ++ [child] }

end Group

/-- How a flat list of statements combines. `SPEC_FULL.md:45,172–173`. -/
inductive Combination where
  | or | and
  deriving DecidableEq, Repr

namespace Combination

/-- The number that stands for a combination. -/
def id : Combination → Int
  | .or => 0
  | .and => 1

/-- The combination with a given number. -/
def ofId? (n : Int) : Option Combination :=
  [or, and].find? fun c ↦ c.id == n

/-- The name of a combination. -/
def label : Combination → String
  | .or => "Or"
  | .and => "And"

end Combination

/-- What a filter may order its results by. -/
inductive SortField where
  | sortName | createdDate | lastModifiedDate | lastChapterAdded | timeToRead | releaseYear
  | readProgress | averageRating
  deriving DecidableEq, Repr

namespace SortField

/-- All sort fields in the order of their numbers. -/
def all : List SortField :=
  [sortName, createdDate, lastModifiedDate, lastChapterAdded, timeToRead, releaseYear,
    readProgress, averageRating]

/-- The number that stands for a sort field. `SPEC_FULL.md:173–175`. -/
def id : SortField → Int
  | .sortName => 1
  | .createdDate => 2
  | .lastModifiedDate => 3
  | .lastChapterAdded => 4
  | .timeToRead => 5
  | .releaseYear => 6
  | .readProgress => 7
  | .averageRating => 8

/-- The sort field with a given number. -/
def ofId? (n : Int) : Option SortField :=
  all.find? fun f ↦ f.id == n

/-- The name of a sort field in reports. -/
def label : SortField → String
  | .sortName => "SortName"
  | .createdDate => "CreatedDate"
  | .lastModifiedDate => "LastModifiedDate"
  | .lastChapterAdded => "LastChapterAdded"
  | .timeToRead => "TimeToRead"
  | .releaseYear => "ReleaseYear"
  | .readProgress => "ReadProgress"
  | .averageRating => "AverageRating"

end SortField

/-- An order: what to sort by, and in which direction. -/
structure SortOptions where
  field : SortField := .sortName
  ascending : Bool := true
  deriving DecidableEq, Repr

/-- The word for a direction. -/
def directionLabel (ascending : Bool) : String :=
  if ascending then "ascending" else "descending"

/-- A complete filter request. `SPEC_FULL.md:44–46,176–178`. -/
structure Filter where
  name : Option String := none
  statements : List Statement := []
  combination : Combination := .and
  sort : Option SortOptions := none
  /-- The greatest number of results; zero asks for all of them. -/
  limit : UInt32 := 0
  group : Option Group := none
  deriving DecidableEq, Repr

namespace Filter

/-- An empty filter with a name. -/
def named (name : String) : Filter :=
  { name := some name }

/-- A filter with one more flat statement. -/
def withStatement (f : Filter) (s : Statement) : Filter :=
  { f with statements := f.statements ++ [s] }

/-- A filter with this tree. -/
def withGroup (f : Filter) (g : Group) : Filter :=
  { f with group := some g }

/-- Whether a filter has no statement anywhere. -/
def isEmpty (f : Filter) : Bool :=
  f.statements.isEmpty && f.group.all fun g ↦ g.statementCount == 0

end Filter

/-- What a number that means nothing was taken for. -/
inductive IdKind where
  | field | comparison | combination | sortField
  deriving DecidableEq, Repr

/-- A number that stands for nothing of its kind. -/
structure UnknownId where
  kind : IdKind
  id : Int
  deriving DecidableEq, Repr

/-- The message about an unknown number. -/
def UnknownId.message (u : UnknownId) : String :=
  let kind := match u.kind with
    | .field => "filter field"
    | .comparison => "filter comparison"
    | .combination => "combination"
    | .sortField => "sort field"
  s!"unknown {kind} id {u.id}"

end SeriesFilter
