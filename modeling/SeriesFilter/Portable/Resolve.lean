import SeriesFilter.Filter.Location
import SeriesFilter.Portable.Document

/-!
# What a stored filter means to the running catalogue

A stored statement whose numbers the catalogue does not know is dropped and reported, and the rest
of the filter stays. A group is removed when statements were dropped under it and none is left: an
empty group is true of everything, and as an `or` child it would widen the whole filter. A group
that was stored empty stays.
Spec guidance: `SPEC_FULL.md` §§4.2/12.
-/

namespace SeriesFilter.Portable

/-- Why a statement was dropped. `SPEC_FULL.md:58,196–197`. -/
inductive DropReason where
  | unknownField | unknownComparison
  deriving DecidableEq, Repr

namespace DropReason

/-- The name of a reason in JSON. -/
def name : DropReason → String
  | .unknownField => "unknownField"
  | .unknownComparison => "unknownComparison"

/-- The name of a reason in reports. -/
def label : DropReason → String
  | .unknownField => "UnknownField"
  | .unknownComparison => "UnknownComparison"

end DropReason

/-- A statement that the catalogue cannot represent. `SPEC_FULL.md:196–197`. -/
structure Dropped where
  location : Location
  fieldId : Int
  comparisonId : Int
  value : String
  reason : DropReason
  deriving DecidableEq, Repr

/-- The value that writes a dropped statement. -/
def Dropped.toJson (d : Dropped) : Json.Value :=
  .record [("location", .text d.location.text), ("fieldId", .integer d.fieldId),
    ("comparisonId", .integer d.comparisonId), ("value", .text d.value),
    ("reason", .text d.reason.name)]

/-- Everything that was lost. `SPEC_FULL.md:195–204`. -/
structure Losses where
  dropped : List Dropped := []
  /-- The groups left without statements, inner ones first. -/
  removed : List GroupPath := []
  deriving DecidableEq, Repr

/-- One loss after another. -/
def Losses.append (a b : Losses) : Losses :=
  ⟨a.dropped ++ b.dropped, a.removed ++ b.removed⟩

instance : Append Losses := ⟨Losses.append⟩

/-- The statement with these numbers; the field is looked up first.
`SPEC_FULL.md:58,196–197,200–201`. -/
def Statement.resolve (s : Statement) : Except DropReason SeriesFilter.Statement :=
  match (int32? s.field).bind Field.ofId?, (int32? s.comparison).bind Comparison.ofId? with
  | none, _ => .error .unknownField
  | some _, none => .error .unknownComparison
  | some field, some comparison => .ok ⟨field, comparison, s.value⟩

/-- The statements of a list that mean something, and the others with their places. -/
def resolveStatements (place : Nat → Location) (index : Nat) :
    List Statement → List SeriesFilter.Statement × List Dropped
  | [] => ([], [])
  | s :: rest =>
    let (kept, dropped) := resolveStatements place (index + 1) rest
    match s.resolve with
    | .ok statement => (statement :: kept, dropped)
    | .error reason => (kept, ⟨place index, s.field, s.comparison, s.value, reason⟩ :: dropped)

namespace Group

mutual

/-- The group that a stored group means, unless it is removed. `SPEC_FULL.md:202–204`. -/
def resolve (path : GroupPath) : Group → Option SeriesFilter.Group × Losses
  | ⟨statements, and, or⟩ =>
    let (statements, dropped) := resolveStatements (.inGroup path) 0 statements
    let (and, inAnd) := resolveList path Step.and 0 and
    let (or, inOr) := resolveList path Step.or 0 or
    let losses := ⟨dropped, []⟩ ++ inAnd ++ inOr
    let group : SeriesFilter.Group := ⟨statements, and, or⟩
    if !losses.dropped.isEmpty && group.statementCount == 0 then
      (none, losses ++ ⟨[], [path]⟩)
    else (some group, losses)

/-- The children that stay, in order. -/
def resolveList (path : GroupPath) (step : Nat → Step) (index : Nat) :
    List Group → List SeriesFilter.Group × Losses
  | [] => ([], {})
  | g :: gs =>
    let (kept?, losses) := resolve (path ++ [step index]) g
    let (kept, more) := resolveList path step (index + 1) gs
    (kept?.toList ++ kept, losses ++ more)

end

end Group

/-- A filter together with what could not be kept of its stored form. `SPEC_FULL.md:195–199`. -/
structure Decoded where
  filter : Filter := {}
  losses : Losses := {}
  /-- The number of a sort field that nobody knows. -/
  ignoredSort : Option Int := none
  deriving DecidableEq, Repr

/-- Whether the filter may match differently than when it was stored. `SPEC_FULL.md:58,195–196`. -/
def Decoded.isPartial (d : Decoded) : Bool :=
  !d.losses.dropped.isEmpty || !d.losses.removed.isEmpty || d.ignoredSort.isSome

/-- The order with this number, or the number that is ignored. `SPEC_FULL.md:197–201`. -/
def Order.resolve (s : Order) : Option SortOptions × Option Int :=
  match (uint8? s.field).bind SortField.ofId? with
  | some field => (some ⟨field, s.ascending⟩, none)
  | none => (none, some s.field)

/-- The filter that a document means under a known combination. `SPEC_FULL.md:195–204`. -/
def Document.resolve (d : Document) (combination : Combination) : Decoded :=
  let (statements, dropped) := resolveStatements .flat 0 d.statements
  let (group, inGroup) := match d.group with
    | some g => g.resolve []
    | none => (none, {})
  let (sort, ignoredSort) := match d.sort with
    | some s => s.resolve
    | none => (none, none)
  { filter := ⟨d.name, statements, combination, sort, d.limit, group⟩
    losses := ⟨dropped, []⟩ ++ inGroup
    ignoredSort }

end SeriesFilter.Portable
