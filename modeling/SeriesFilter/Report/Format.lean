import SeriesFilter.Yaml.Block

/-!
# Forms of reports

A report is text for people, or the value behind it as JSON or YAML.
-/

namespace SeriesFilter

/-- The forms in which a report is written. -/
inductive ReportFormat where
  | text | json | yaml
  deriving DecidableEq, Repr

namespace ReportFormat

/-- The form of a name. -/
def ofName? (name : String) : Option ReportFormat :=
  if name = "text" then some .text
  else if name = "json" then some .json
  else if name = "yaml" then some .yaml
  else none

/-- A report in one of its forms. -/
def write (format : ReportFormat) (text : String) (value : Json.Value) : String :=
  match format with
  | .text => text
  | .json => value.indented ++ "\n"
  | .yaml => Yaml.document value

end ReportFormat

/-- Lines, each with its end. -/
def joinLines (lines : List String) : String :=
  String.join (lines.map (· ++ "\n"))

/-- A text with spaces before it up to some width. -/
def alignRight (width : Nat) (s : String) : String :=
  String.ofList (List.replicate (width - s.length) ' ') ++ s

/-- A text with spaces after it up to some width. -/
def alignLeft (width : Nat) (s : String) : String :=
  s ++ String.ofList (List.replicate (width - s.length) ' ')

end SeriesFilter
