import SeriesFilter.Settings.Setting

/-!
# A file of settings to start from

Every setting with a few words, its variable and its usual value; all of it is comment.
-/

namespace SeriesFilter

/-- The text of a value in a file. -/
def SettingValue.text (v : SettingValue) : String :=
  v.toJson.compact

/-- The lines about a setting. -/
def Setting.templateLines (s : Setting) : List String :=
  let value := (({} : Settings).get s).text
  let about := match s.about? with
    | some about => ["# " ++ about, "#"]
    | none => []
  let apart := if s.about?.isSome then ["#"] else []
  about ++ ["# Can also be specified via environment variable \x60" ++ s.variableName ++ "\x60."] ++
    apart ++ ["# Default value: " ++ value, "#" ++ s.key ++ " = " ++ value]

/-- The file; a line of nothing stands between settings. -/
def Settings.template : String :=
  String.intercalate "\n" (Setting.all.map fun s ↦
    String.join (s.templateLines.map (· ++ "\n")))

end SeriesFilter
