import SeriesFilter.Page
import SeriesFilter.Report.Outline
import SeriesFilter.Series

/-!
# Plans and pages in words

The report on a plan counts its conditions and tells order and limit. The report on a page has a
line for each series and a last line with the counts.
-/

namespace SeriesFilter

/-- A limit in words. -/
def Limit.text : Limit → String
  | .unlimited => "unlimited"
  | .upTo n => s!"limit {n}"

/-- The line about a plan. -/
def Plan.line (p : Plan) : String :=
  let conditions := p.root.allConditions
  let joined := conditions.filter Condition.needsJoin
  s!"ok: {conditions.length} conditions ({joined.length} on related records), " ++
    s!"sort {p.sort.field.label} {directionLabel p.sort.ascending}, {p.limit.text}"

/-- The report on a plan and on what was dropped before. -/
def Plan.report (p : Plan) (dropped : List Portable.Dropped) : String :=
  joinLines (p.line ::
    if dropped.isEmpty then []
    else Portable.droppedCount dropped :: dropped.map Portable.Dropped.line)

namespace Page

/-- The lines of a page of series. -/
def text (p : Page Series) : String :=
  joinLines ((p.items.map fun s ↦ alignRight 6 (toString s.id) ++ "  " ++ s.name) ++
    [s!"page {p.page}/{max p.pages 1} ({p.total} matching)"])

/-- The value that writes a page of series. -/
def toJson (p : Page Series) : Json.Value :=
  .record [("items", .list (p.items.map Series.toJson)), ("page", .integer p.page),
    ("pageSize", .integer p.size), ("totalItems", .integer p.total)]

/-- The report on a page of series. -/
def report (p : Page Series) (format : ReportFormat) : String :=
  format.write p.text p.toJson

end Page

end SeriesFilter
