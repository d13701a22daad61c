import SeriesFilter.Filter.Basic
import SeriesFilter.Portable.Codec

/-!
# Settings

Bounds on the filters that are accepted, and the order of results when a filter gives none.
-/

namespace SeriesFilter

/-- The settings of the engine. -/
structure Settings where
  /-- Deepest nesting of groups. -/
  maxDepth : Nat := 16
  /-- Statements in a filter, over all groups. -/
  maxStatements : Nat := 256
  /-- Groups in a filter. -/
  maxGroups : Nat := 128
  /-- Longest encoded filter, in bytes. -/
  maxEncodedLength : Nat := Portable.defaultMaxLength
  /-- The number of the sort field for filters that name none. -/
  defaultSortField : Nat := 1
  /-- The direction for filters that name none. -/
  defaultSortAscending : Bool := true
  deriving DecidableEq, Repr

/-- The order for filters that name none. A number that means nothing stands for the sort name. -/
def Settings.defaultSort (s : Settings) : SortOptions :=
  ⟨(SortField.ofId? s.defaultSortField).getD .sortName, s.defaultSortAscending⟩

end SeriesFilter
