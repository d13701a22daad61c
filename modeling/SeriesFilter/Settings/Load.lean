import SeriesFilter.Files
import SeriesFilter.Settings.Setting
import SeriesFilter.Toml.Document

/-!
# Where settings come from

The environment is asked first, then the file that was named, then the file in the working
directory, then the file of the user; what none of them says keeps its usual value. A file that is
missing says nothing; one that exists must be valid, whether or not it is asked.
-/

namespace SeriesFilter

/-- Why settings cannot be loaded. -/
inductive SettingsError where
  /-- A variable holds no value of its setting. -/
  | variableValue (setting : Setting)
  /-- The name of a file does not end like that of a file of settings. -/
  | fileName (path : String)
  /-- A file cannot be read. -/
  | unreadable (path : String) (fault : FileFault)
  /-- A file does not have the form of a file of settings. -/
  | malformed (path : String)
  /-- A file gives a setting no value of its kind. -/
  | fileValue (path : String) (setting : Setting)
  deriving DecidableEq, Repr

/-- The message about settings that cannot be loaded. -/
def SettingsError.message : SettingsError → String
  | .variableValue s =>
    s!"Configuration error: invalid value in environment variable {s.variableName}"
  | .fileName path => s!"Configuration error: {path} does not end in .toml"
  | .unreadable path fault => s!"Configuration error: cannot read {path}: {fault.message}"
  | .malformed path => s!"Configuration error: {path} is not valid TOML"
  | .fileValue path s => s!"Configuration error: invalid value of {s.key} in {path}"

/-- What one source says about the settings. -/
abbrev Layer := Setting → Option SettingValue

namespace Layer

/-- What is said about each setting in turn, or the first trouble with one. -/
def ofEach (f : Setting → Except SettingsError (Option SettingValue)) :
    Except SettingsError Layer := do
  let table ← Setting.all.mapM fun s ↦ do return (s, ← f s)
  return fun s ↦ (table.lookup s).join

/-- What the environment says. An empty variable says nothing. -/
def ofEnvironment (lookup : String → Option String) : Except SettingsError Layer :=
  ofEach fun s ↦
    match lookup s.variableName with
    | none => .ok none
    | some text =>
      match s.valueOfText? text with
      | some v => .ok (some v)
      | none => if text.isEmpty then .ok none else .error (.variableValue s)

/-- The value that a setting takes from a file. -/
def valueOfToml? (s : Setting) : Toml.Value → Option SettingValue
  | .integer n =>
    s.bound?.bind fun bound ↦ if 0 ≤ n ∧ n ≤ bound then some (.count n.toNat) else none
  | .boolean b => if s.bound?.isNone then some (.flag b) else none
  | _ => none

/-- What the text of a file says. Keys of no setting are passed over. -/
def ofText (path text : String) : Except SettingsError Layer :=
  match Toml.read? text with
  | none => .error (.malformed path)
  | some table =>
    ofEach fun s ↦
      match table.get? s.key with
      | none => .ok none
      | some v =>
        match valueOfToml? s v with
        | some v => .ok (some v)
        | none => .error (.fileValue path s)

end Layer

namespace Settings

/-- The settings that layers describe, earlier ones before later ones. -/
def ofLayers (layers : List Layer) : Settings :=
  Setting.all.foldl (fun settings s ↦
    match layers.findSome? (· s) with
    | some v => settings.set s v
    | none => settings) {}

/-- The name of the file in the working directory and in the directory of the user. -/
def fileName : String := "smartfilter.toml"

/-- The last part of the name of a file after its last point, if there is one that does not begin
the name. -/
def extension? (path : String) : Option String := do
  let parts := (path.splitOn "/").filter fun part ↦ part ≠ "" ∧ part ≠ "."
  let name ← parts.getLast?
  if name = ".." then none
  else
    let reversed := name.toList.reverse
    let ending := reversed.takeWhile (· != '.')
    match reversed.drop ending.length with
    | '.' :: _ :: _ => some (String.ofList ending.reverse)
    | _ => none

/-- What a file says. -/
def layerOfFile (path : String) (file : Except FileFault String) : Except SettingsError Layer :=
  if extension? path ≠ some "toml" then .error (.fileName path)
  else match file with
    | .ok text => Layer.ofText path text
    | .error .missing => .ok fun _ ↦ none
    | .error fault => .error (.unreadable path fault)

/-- The settings from the environment and from files in the order in which they are asked. -/
def load (lookup : String → Option String) (files : List (String × Except FileFault String)) :
    Except SettingsError Settings := do
  let first ← Layer.ofEnvironment lookup
  let rest ← files.mapM fun (path, file) ↦ layerOfFile path file
  return ofLayers (first :: rest)

/-- The files that are asked: the one that was named, the one in the working directory and the one
of the user. -/
def filePaths (named user : Option String) : List String :=
  named.toList ++ fileName :: user.toList

/-- The file of settings of the user: in the directory for settings if that is given with its full
path, or else in the usual place within the home directory. -/
def userFile (settingsDirectory home : Option String) : Option String :=
  let directory := (settingsDirectory.filter (·.startsWith "/")).or (home.map (· ++ "/.config"))
  directory.map (· ++ "/smartfilter/" ++ fileName)

end Settings

end SeriesFilter
