import SeriesFilter.Filter.Location

/-!
# The order of places

A filter is written from the flat list on, and a group before its children, the `and` children
before the `or` children. A walk over a tree meets a group either before its children, as it is
written, or after them. Both are orders of paths that differ only in where the outer group stands.
-/

namespace SeriesFilter

/-- Whether one child of a group stands before another. -/
def Step.before : Step → Step → Prop
  | .and i, .and j => i < j
  | .and _, .or _ => True
  | .or _, .and _ => False
  | .or i, .or j => i < j

namespace GroupPath

/-- Whether one group is met before another when outer groups are met first, or last. -/
def before (outerFirst : Bool) : GroupPath → GroupPath → Prop
  | [], [] => False
  | [], _ :: _ => outerFirst = true
  | _ :: _, [] => outerFirst = false
  | s :: path, t :: other => s.before t ∨ s = t ∧ before outerFirst path other

/-- No group is met before itself. -/
theorem not_before_self (outerFirst : Bool) (path : GroupPath) :
    ¬ path.before outerFirst path := by
  induction path with
  | nil => exact id
  | cons s path ih =>
    rintro (h | h)
    · cases s <;> exact Nat.lt_irrefl _ h
    · exact ih h.2

end GroupPath

/-- Whether one statement is written before another. -/
def Location.before : Location → Location → Prop
  | .flat i, .flat j => i < j
  | .flat _, .inGroup _ _ => True
  | .inGroup _ _, .flat _ => False
  | .inGroup path i, .inGroup other j => path.before true other ∨ path = other ∧ i < j

/-- No statement is written before itself. -/
theorem Location.not_before_self (place : Location) : ¬ place.before place := by
  cases place with
  | flat i => exact Nat.lt_irrefl i
  | inGroup path i =>
    rintro (h | h)
    · exact path.not_before_self true h
    · exact Nat.lt_irrefl i h.2

end SeriesFilter
