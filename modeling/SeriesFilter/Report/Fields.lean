import SeriesFilter.Catalog.Comparison
import SeriesFilter.Report.Format

/-!
# The catalogue as a table

A row for each field: its number, its name, the kind of its values and the operators that apply to
it. A field with a fixed set of values has a second line that lists them.
-/

namespace SeriesFilter

namespace Field

/-- The names of the operators of a field. -/
def operatorNames (f : Field) : List String :=
  f.operators.map Comparison.name

/-- The values of a field with a fixed set of them. -/
def valueNames (f : Field) : List String :=
  match f.domain? with
  | some domain => domain.names
  | none => []

/-- The lines of a field; names take up so many characters. -/
def rows (width : Nat) (f : Field) : List String :=
  let first := alignRight 3 (toString f.id) ++ "  " ++ alignLeft width f.name ++ "  " ++
    alignLeft 16 f.kind.label ++ "  " ++ ", ".intercalate f.operatorNames
  let second := "     " ++ alignLeft width "" ++ "  values: " ++ ", ".intercalate f.valueNames
  if f.valueNames.isEmpty then [first] else [first, second]

/-- The value that writes a field. -/
def toJson (f : Field) : Json.Value :=
  .record ([("id", .integer f.id), ("name", .text f.name), ("label", .text f.label),
    ("kind", .text f.kind.label), ("path", .text f.place), ("operators", .texts f.operatorNames)] ++
    if f.valueNames.isEmpty then [] else [("values", .texts f.valueNames)])

/-- The table of some fields. -/
def table (fields : List Field) : String :=
  let width := (fields.map fun f ↦ f.name.length).foldl max 0
  joinLines (fields.flatMap (rows width))

/-- The report on some fields. -/
def report (fields : List Field) (format : ReportFormat) : String :=
  format.write (table fields) (.list (fields.map toJson))

end Field

end SeriesFilter
