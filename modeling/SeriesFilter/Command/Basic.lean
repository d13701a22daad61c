import SeriesFilter.Command.Failure
import SeriesFilter.Report.Fields
import SeriesFilter.Report.Results
import SeriesFilter.Settings.Template

/-!
# Commands

What each command makes of texts that have been read. A command gives the text to be printed.
-/

namespace SeriesFilter.Command

open Calendar Portable

/-- A filter that was given, and what decoding it dropped. -/
structure Loaded where
  filter : Filter
  dropped : List Dropped := []
  deriving DecidableEq, Repr

/-- The filter that a JSON text writes. -/
def readFilter (text : String) : Except Failure Filter :=
  (Json.readString Filter.reader text).mapError .filterJson

/-- The filter that a text gives, as JSON or encoded. -/
def load (e : Engine) (isJson : Bool) (text : String) : Except Failure Loaded := do
  if isJson then return { filter := ← readFilter text }
  else
    let d ← (e.decode text).mapError .engine
    return ⟨d.filter, d.losses.dropped⟩

/-- Encodes a filter; unless told otherwise, only if it has a plan. -/
def encode (e : Engine) (now : Instant) (skipValidation : Bool) (text : String) :
    Except Failure String := do
  let f ← readFilter text
  if !skipValidation then
    let _ ← (e.validate now f).mapError .engine
  return Portable.encode f ++ "\n"

/-- Shows what an encoded filter stores. -/
def decode (e : Engine) (format : ReportFormat) (encoded : String) : Except Failure String := do
  let d ← (e.decode encoded).mapError .engine
  let outline := d.filter.outline ++ joinLines (d.losses.dropped.map Dropped.line)
  return format.write outline d.toJson

/-- Reports on the plan of a filter. If told to be strict it refuses a filter of which something
was dropped. -/
def check (e : Engine) (now : Instant) (strict : Bool) (given : Loaded) :
    Except Failure String := do
  let plan ← (e.validate now given.filter).mapError .engine
  if strict && !given.dropped.isEmpty then .error (.incomplete given.dropped)
  return plan.report given.dropped

/-- Shows one page of what a filter finds among the series of a JSON text. -/
def query (e : Engine) (now : Instant) (given : Loaded) (rows : String) (request : PageRequest)
    (format : ReportFormat) : Except Failure String := do
  let rows ← (Json.readString Series.listReader rows).mapError .catalogJson
  let page ← (e.query now rows given.filter request).mapError .engine
  return page.report format

/-- Shows the fields that filters can use, or one of them. -/
def fields (name : Option String) (format : ReportFormat) : Except Failure String :=
  match name with
  | none => .ok (Field.report Field.filterable format)
  | some name =>
    match (Field.ofName? name).filter Field.isFilterable with
    | some f => .ok (Field.report [f] format)
    | none => .error (.unknownField name)

/-- Shows the settings, or a file of settings to start from. -/
def config (settings : Settings) (template : Bool) : String :=
  if template then Settings.template else Yaml.document settings.toJson

/-- The time as of which a filter is run. -/
def readNow (written : String) : Except Failure Instant :=
  (instantOfText written.toList).mapError (.now written)

end SeriesFilter.Command
