import SeriesFilter.Calendar.Scan
import SeriesFilter.Engine
import SeriesFilter.Files
import SeriesFilter.Report.Outline
import SeriesFilter.Settings.Load

/-!
# Why a command fails

A failure has a message of its own and the reasons behind it, from the nearest on. The text for the
user joins them all.
-/

namespace SeriesFilter.Command

/-- What a command can report. -/
inductive Failure where
  | settings (error : SettingsError)
  | file (path : String) (fault : FileFault)
  | catalogFile (path : String) (fault : FileFault)
  | standardInput (fault : FileFault)
  | filterJson (fault : Json.Fault)
  | catalogJson (fault : Json.Fault)
  | engine (error : Error)
  | unknownField (name : String)
  | incomplete (dropped : List Portable.Dropped)
  | now (written : String) (reason : Calendar.Misread)
  deriving DecidableEq, Repr

namespace Failure

/-- The message of its own. -/
def message : Failure → String
  | .settings _ => "Failed to load configuration"
  | .file path _ => s!"Failed to read {path}"
  | .catalogFile path _ => s!"Failed to read catalog {path}"
  | .standardInput _ => "Failed to read stdin"
  | .filterJson _ => "Invalid filter JSON"
  | .catalogJson _ => "Catalog must be a JSON array of series rows"
  | .engine error => error.message
  | .unknownField name => s!"No filterable field named {Text.quoted name}"
  | .incomplete dropped =>
    "\n".intercalate (("filter is " ++ Portable.droppedCount dropped) ::
      dropped.map Portable.Dropped.line)
  | .now written _ => s!"Invalid --now {Text.quoted written}, expected RFC 3339"

/-- The reasons behind it. A string that is not base64 and one whose payload is no document name
the reason in the message already, and it comes again. -/
def reasons : Failure → List String
  | .settings error => [error.message]
  | .file _ fault | .catalogFile _ fault | .standardInput fault => [fault.message]
  | .filterJson fault | .catalogJson fault => [Portable.faultText fault]
  | .engine (.decode (.base64 error)) => [error.message]
  | .engine (.decode (.payload fault)) => [Portable.faultText fault]
  | .engine (.store (.undecodable (.base64 error))) => [error.message]
  | .engine (.store (.undecodable (.payload fault))) => [Portable.faultText fault]
  | .engine _ | .unknownField _ | .incomplete _ => []
  | .now _ reason => [reason.message]

/-- The text for the user. -/
def text (f : Failure) : String :=
  ": ".intercalate (f.message :: f.reasons)

end Failure

end SeriesFilter.Command
