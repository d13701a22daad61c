import SeriesFilter.Predicate

/-!
# Plans

A plan is all that is needed to run a filter: a predicate, an order and a limit. Entities with
equal keys are ordered by identity, in either direction of the order, so that pages stay the same
from one run to the next.
Spec guidance: `SPEC_FULL.md` §§4.3/13.
-/

namespace SeriesFilter

namespace SortOptions

/-- The order of two entities. `SPEC_FULL.md:67,218–219`. -/
def compare [Filterable α] (s : SortOptions) (a b : α) : Ordering :=
  let byKey := (Filterable.sortKey a s.field).compare (Filterable.sortKey b s.field)
  (if s.ascending then byKey else byKey.swap).then
    (Ord.compare (Filterable.id a) (Filterable.id b))

end SortOptions

/-- How many results a plan gives at most. -/
inductive Limit where
  | unlimited
  | upTo (count : Nat)
  deriving DecidableEq, Repr

namespace Limit

/-- The limit of a filter: zero is no limit, not an empty result. `SPEC_FULL.md:46,68,219–220`. -/
def ofCount (count : Nat) : Limit :=
  if count = 0 then .unlimited else .upTo count

/-- How many of so many results the limit lets through. -/
def cap (limit : Limit) (available : Nat) : Nat :=
  match limit with
  | .unlimited => available
  | .upTo count => min available count

end Limit

/-- A filter ready to be run. `SPEC_FULL.md:214–215`. -/
structure Plan where
  root : Node
  sort : SortOptions
  limit : Limit
  deriving Repr

/-- Whether an entity passes a plan's predicate. -/
def Plan.matches [Filterable α] (p : Plan) (entity : α) : Bool :=
  p.root.evaluate entity

end SeriesFilter
