import SeriesFilter.Condition.Basic

/-!
# Predicates

A predicate keeps the shape of the filter it was made from: a tree of nodes with conditions. A node
holds when its conditions and all its `and` children hold, or when some `or` child does. The
combination joins only the node's own conditions, and having none of them is no obstacle.
Spec guidance: `SPEC_FULL.md` §§3/13.
-/

namespace SeriesFilter

/-- A node of a predicate. `SPEC_FULL.md:39,215–217,227`. -/
structure Node where
  combination : Combination := .and
  conditions : List Condition := []
  and : List Node := []
  or : List Node := []
  deriving Repr

namespace Node

variable [Filterable α]

/-- Whether the conditions of a node hold under its combination. `SPEC_FULL.md:227–233`. -/
def conditionsHold (combination : Combination) (conditions : List Condition) (entity : α) : Bool :=
  match combination with
  | .and => conditions.all fun c ↦ c.evaluate entity
  | .or => conditions.isEmpty || conditions.any fun c ↦ c.evaluate entity

mutual

/-- Whether an entity passes a node. `SPEC_FULL.md:40–41,230–231`. -/
def evaluate (entity : α) : Node → Bool
  | ⟨combination, conditions, and, or⟩ =>
    (conditionsHold combination conditions entity && evaluateAll entity and) ||
      evaluateAny entity or

/-- Whether an entity passes all of some nodes. -/
def evaluateAll (entity : α) : List Node → Bool
  | [] => true
  | n :: ns => evaluate entity n && evaluateAll entity ns

/-- Whether an entity passes any of some nodes. -/
def evaluateAny (entity : α) : List Node → Bool
  | [] => false
  | n :: ns => evaluate entity n || evaluateAny entity ns

end

/-- Whether a node has neither conditions nor children. Then it holds of everything. -/
def isEmpty (n : Node) : Bool :=
  n.conditions.isEmpty && n.and.isEmpty && n.or.isEmpty

mutual

/-- The conditions of a node and of all nodes below it: its own first, then those of its `and`
children, then those of its `or` children. -/
def allConditions : Node → List Condition
  | ⟨_, conditions, and, or⟩ => conditions ++ listConditions and ++ listConditions or

/-- The conditions of some nodes in order. -/
def listConditions : List Node → List Condition
  | [] => []
  | n :: ns => allConditions n ++ listConditions ns

end

end Node

end SeriesFilter
