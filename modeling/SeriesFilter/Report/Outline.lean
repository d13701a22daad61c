import SeriesFilter.Portable.Resolve
import SeriesFilter.Report.Format
import SeriesFilter.Text.Quoted

/-!
# Filters as outlines

A filter as lines: its name, its statements, its groups each two steps deeper than the one around
it, its order and its limit. What a decoded filter lost has a line for each statement.
-/

namespace SeriesFilter

/-- A statement in words. -/
def Statement.outline (s : Statement) : String :=
  s!"{s.field.label} {s.comparison.label} {Text.quoted s.value}"

/-- So many steps of two spaces. -/
def steps (depth : Nat) : String :=
  String.ofList (List.replicate (2 * depth) ' ')

namespace Group

mutual

/-- The lines of a group at some depth. -/
def outline (depth : Nat) : Group → List String
  | ⟨statements, and, or⟩ =>
    (steps depth ++ "group:") :: statements.map (fun s ↦ steps (depth + 1) ++ s.outline) ++
      outlines depth "and" and ++ outlines depth "or" or

/-- The lines of the groups inside a group, each after a word that tells how it is joined. -/
def outlines (depth : Nat) (word : String) : List Group → List String
  | [] => []
  | g :: rest =>
    (steps (depth + 1) ++ word) :: outline (depth + 2) g ++ outlines depth word rest

end

end Group

/-- How the statements of a filter are joined. -/
def Combination.joiner : Combination → String
  | .and => "all of"
  | .or => "any of"

namespace Filter

/-- The lines about the statements of a filter itself. -/
def statementLines (f : Filter) : List String :=
  if f.statements.isEmpty then []
  else (f.combination.joiner ++ ":") :: f.statements.map fun s ↦ "  " ++ s.outline

/-- The lines about a filter. -/
def outlineLines (f : Filter) : List String :=
  f.name.toList ++ f.statementLines ++
    (match f.group with
      | some g => g.outline 0
      | none => []) ++
    (match f.sort with
      | some s => [s!"sort: {s.field.label} {directionLabel s.ascending}"]
      | none => []) ++
    if f.limit = 0 then [] else [s!"limit: {f.limit}"]

/-- The outline of a filter; one that says nothing matches everything. -/
def outline (f : Filter) : String :=
  match f.outlineLines with
  | [] => "(matches everything)\n"
  | lines => joinLines lines

end Filter

namespace Portable

/-- The line about a dropped statement. -/
def Dropped.line (d : Dropped) : String :=
  s!"dropped {d.location.text} (field {d.fieldId}, operator {d.comparisonId}, " ++
    s!"value {Text.quoted d.value}): {d.reason.label}"

/-- How many statements were dropped. -/
def droppedCount (dropped : List Dropped) : String :=
  s!"partial: {dropped.length} statements dropped"

end Portable

end SeriesFilter
