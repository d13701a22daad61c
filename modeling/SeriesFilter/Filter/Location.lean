/-!
# Places in a filter

A statement stands in the flat list or in a group, and a group is reached from the root of the
tree by steps to `and` and `or` children. Reports write these places as paths.
-/

namespace SeriesFilter

/-- A step from a group to one of its children. -/
inductive Step where
  | and (index : Nat)
  | or (index : Nat)
  deriving DecidableEq, Repr

/-- The text of a step. -/
def Step.text : Step → String
  | .and i => s!".and[{i}]"
  | .or i => s!".or[{i}]"

/-- The way from the root of the tree to a group. -/
abbrev GroupPath := List Step

/-- The text of a way. -/
def GroupPath.text (path : GroupPath) : String :=
  "group" ++ String.join (path.map Step.text)

/-- Where a statement stands. -/
inductive Location where
  /-- In the flat list. -/
  | flat (index : Nat)
  /-- Among the statements of a group. -/
  | inGroup (path : GroupPath) (index : Nat)
  deriving DecidableEq, Repr

/-- The text of a place. -/
def Location.text : Location → String
  | .flat i => s!"statements[{i}]"
  | .inGroup path i => s!"{path.text}.statements[{i}]"

end SeriesFilter
