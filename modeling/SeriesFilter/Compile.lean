import SeriesFilter.Filter.Location
import SeriesFilter.Plan
import SeriesFilter.Settings.Basic

/-!
# From filters to plans

Every statement must be legal and its literal readable, and the filter must keep within the bounds
of the settings. The bounds are checked on the way, so that a huge filter is refused before it is
walked through. The first fault in the order of the filter is reported with its place, and then
there is no plan at all.
Spec guidance: `SPEC_FULL.md` §§4.3/7/13.
-/

namespace SeriesFilter

open Calendar

/-- The bounds on a filter. `SPEC_FULL.md:69,95`. -/
inductive Bound where
  | depth | statements | groups
  deriving DecidableEq, Repr

/-- The name of a bound in messages. -/
def Bound.label : Bound → String
  | .depth => "maximum nesting depth"
  | .statements => "maximum statement count"
  | .groups => "maximum group count"

/-- Why a filter has no plan. `SPEC_FULL.md:64–65,69,288–290`. -/
inductive CompileError where
  /-- The field does not allow the operator. -/
  | illegal (field : Field) (comparison : Comparison) (location : Location)
  /-- The literal cannot be read. -/
  | unreadable (field : Field) (comparison : Comparison) (value : String) (reason : LiteralError)
      (location : Location)
  /-- A bound is exceeded by what was found so far. -/
  | exceeded (bound : Bound) (max actual : Nat)
  deriving DecidableEq, Repr

/-- The message about a filter that has no plan. `SPEC_FULL.md:69,95`. -/
def CompileError.message : CompileError → String
  | .illegal field comparison location =>
    s!"Field {field.label} does not support operator {comparison.label} (at {location.text})"
  | .unreadable field _ value reason location =>
    s!"Field {field.label} cannot use value {Text.quoted value}: {reason.message} " ++
      s!"(at {location.text})"
  | .exceeded bound max actual =>
    s!"Filter exceeds the {bound.label} of {max} (found {actual})"

namespace Compile

/-- What has been walked through so far. `SPEC_FULL.md:69,86`. -/
structure Tally where
  statements : Nat := 0
  groups : Nat := 0
  deriving DecidableEq, Repr

/-- The condition of one statement. `SPEC_FULL.md:64–65,236–237`. -/
def condition (now : Instant) (location : Location) (s : Statement) :
    Except CompileError Condition :=
  if s.field.allows s.comparison then
    match Operand.ofLiteral s.field s.comparison now s.value with
    | .ok operand => .ok ⟨s.field, s.comparison, s.field.kind, operand⟩
    | .error reason => .error (.unreadable s.field s.comparison s.value reason location)
  else .error (.illegal s.field s.comparison location)

/-- The conditions of a list of statements, the first at some index. `SPEC_FULL.md:64–65`. -/
def conditionsFrom (now : Instant) (place : Nat → Location) (index : Nat) :
    List Statement → Except CompileError (List Condition)
  | [] => .ok []
  | s :: rest => do
    let c ← condition now (place index) s
    let cs ← conditionsFrom now place (index + 1) rest
    return c :: cs

/-- The conditions of a list of statements; their number is checked first.
`SPEC_FULL.md:64–65,86`. -/
def conditions (settings : Settings) (now : Instant) (place : Nat → Location)
    (statements : List Statement) (tally : Tally) :
    Except CompileError (List Condition × Tally) := do
  let count := tally.statements + statements.length
  if settings.maxStatements < count then
    .error (.exceeded .statements settings.maxStatements count)
  else
    let cs ← conditionsFrom now place 0 statements
    return (cs, { tally with statements := count })

mutual

/-- The node of a group at some depth. `SPEC_FULL.md:64–66,69,227–231`. -/
def node (settings : Settings) (now : Instant) (combination : Combination) (path : GroupPath)
    (depth : Nat) (tally : Tally) : Group → Except CompileError (Node × Tally)
  | ⟨statements, and, or⟩ => do
    let groups := tally.groups + 1
    if settings.maxDepth < depth then .error (.exceeded .depth settings.maxDepth depth)
    else if settings.maxGroups < groups then .error (.exceeded .groups settings.maxGroups groups)
    else
      let tally := { tally with groups }
      let (cs, tally) ← conditions settings now (.inGroup path) statements tally
      let (and, tally) ← nodes settings now path Step.and 0 (depth + 1) tally and
      let (or, tally) ← nodes settings now path Step.or 0 (depth + 1) tally or
      return (⟨combination, cs, and, or⟩, tally)

/-- The nodes of the children of a group, the first at some index. -/
def nodes (settings : Settings) (now : Instant) (path : GroupPath) (step : Nat → Step)
    (index depth : Nat) (tally : Tally) : List Group → Except CompileError (List Node × Tally)
  | [] => .ok ([], tally)
  | g :: gs => do
    let (n, tally) ← node settings now .and (path ++ [step index]) depth tally g
    let (ns, tally) ← nodes settings now path step (index + 1) depth tally gs
    return (n :: ns, tally)

end

/-- The root of a predicate: the flat conditions with the tree below them. A tree alone is the root
itself. `SPEC_FULL.md:45,228–235`. -/
def root (combination : Combination) (flat : List Condition) : Option Node → Node
  | none => { combination, conditions := flat }
  | some tree => if flat.isEmpty then tree else { combination, conditions := flat, and := [tree] }

end Compile

/-- The predicate of a group alone; the combination joins its own statements.
`SPEC_FULL.md:62,212–213,227–228`. -/
def Group.compile (settings : Settings) (now : Instant) (combination : Combination) (g : Group) :
    Except CompileError Node :=
  (Compile.node settings now combination [] 1 {} g).map Prod.fst

/-- The plan of a filter: its flat statements come before its tree, and both must hold.
`SPEC_FULL.md:62–69,211–215,218–220`. -/
def Filter.compile (settings : Settings) (now : Instant) (f : Filter) :
    Except CompileError Plan := do
  let (flat, tally) ← Compile.conditions settings now .flat f.statements {}
  let tree ← match f.group with
    | none => .ok none
    | some g => (Compile.node settings now .and [] 1 tally g).map (some ·.1)
  return ⟨Compile.root f.combination flat tree, f.sort.getD settings.defaultSort,
    .ofCount f.limit.toNat⟩

end SeriesFilter
