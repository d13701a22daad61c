import SeriesFilter.Command.Arguments
import SeriesFilter.Command.Basic

/-!
# Runs of the program

A run reads its arguments, then the settings, then what the command names, and ends with a code and
two texts. Where texts come from is left open, so a run can be followed without a file system.
-/

namespace SeriesFilter.Command

open Calendar

/-- Where a run takes texts and time from. -/
structure Sources (m : Type → Type) where
  /-- The value of a variable of the environment. -/
  lookup : String → m (Option String)
  /-- The text of a file. -/
  file : String → m (Except FileFault String)
  /-- All of standard input. -/
  standardInput : m (Except FileFault String)
  /-- The present time. -/
  now : m Instant
  /-- The file of settings of the user. -/
  userSettings : m (Option String)

/-- The end of a run. -/
structure Output where
  code : Nat
  stdout : String := ""
  stderr : String := ""
  deriving DecidableEq, Repr

/-- The version of the program. -/
def versionText : String := "smartfilter 0.4.0\n"

/-- How the program is used. -/
def usageText : String :=
  "Usage: smartfilter [OPTIONS] <COMMAND>\n\n" ++
    "Commands: encode, decode, check, query, fields, config\n"

/-- The end of a run without a command. -/
def Stop.output : Stop → Output
  | .misused => { code := 2, stderr := usageText }
  | .help => { code := 0, stdout := usageText }
  | .version => { code := 0, stdout := versionText }

/-- The end of a run that prints a text or fails. -/
def outputOf : Except Failure String → Output
  | .ok text => { code := 0, stdout := text }
  | .error failure => { code := 1, stderr := "Error: " ++ failure.text ++ "\n" }

namespace Sources

variable {m : Type → Type} [Monad m]

/-- A result, or the failure that its error means. -/
def orFail (failure : ε → Failure) (result : Except ε α) : ExceptT Failure m α :=
  ExceptT.mk (pure (result.mapError failure))

/-- The text of a file; a hyphen stands for standard input. -/
def fileText (s : Sources m) (path : String) : ExceptT Failure m String := do
  if path = "-" then orFail .standardInput (← s.standardInput)
  else orFail (.file path) (← s.file path)

/-- An argument itself; a hyphen stands for standard input without the blanks around it. -/
def argumentText (s : Sources m) (arg : String) : ExceptT Failure m String := do
  if arg = "-" then return Text.trim (← orFail .standardInput (← s.standardInput))
  else return arg

/-- The settings of a run. -/
def settings (s : Sources m) (named : Option String) : ExceptT Failure m Settings := do
  let table ← Setting.all.mapM fun setting ↦ do
    return (setting.variableName, ← s.lookup setting.variableName)
  let files ← (Settings.filePaths named (← s.userSettings)).mapM fun path ↦ do
    return (path, ← s.file path)
  orFail .settings (Settings.load (fun name ↦ (table.lookup name).join) files)

/-- The filter that a command names. -/
def loaded (s : Sources m) (e : Engine) (input : FilterInput) : ExceptT Failure m Loaded := do
  let text ← if input.isJson then s.fileText input.text else s.argumentText input.text
  load e input.isJson text

/-- The text that a command prints. -/
def perform (s : Sources m) (e : Engine) : Request → ExceptT Failure m String
  | .encode file skipValidation => do
    encode e (← s.now) skipValidation (← s.fileText file)
  | .decode encoded format => do
    decode e format (← s.argumentText encoded)
  | .check input strict => do
    check e (← s.now) strict (← s.loaded e input)
  | .query input catalog page now format => do
    let given ← s.loaded e input
    let rows ← orFail (.catalogFile catalog) (← s.file catalog)
    let now ← match now with
      | some written => readNow written
      | none => s.now
    query e now given rows page format
  | .fields name format => fields name format
  | .config template => return config e.settings template

/-- A whole run. -/
def run (s : Sources m) (args : List String) : m Output := do
  match parse (← s.lookup settingsVariable) args with
  | .error stop => return stop.output
  | .ok invocation =>
    let result ← ExceptT.run do
      let settings ← s.settings invocation.settingsFile
      s.perform { settings } invocation.request
    return outputOf result

end Sources

end SeriesFilter.Command
