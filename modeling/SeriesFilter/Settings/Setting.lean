import SeriesFilter.Json.Value
import SeriesFilter.Settings.Basic
import SeriesFilter.Text.Blank

/-!
# The settings one by one

Each setting has a key in files and a variable in the environment. Values are counts within a
bound, or yes and no.
-/

namespace SeriesFilter

/-- The settings. -/
inductive Setting where
  | maxDepth | maxStatements | maxGroups | maxEncodedLength | defaultSortField
  | defaultSortAscending
  deriving DecidableEq, Repr

/-- The value of a setting. -/
inductive SettingValue where
  | count (n : Nat)
  | flag (b : Bool)
  deriving DecidableEq, Repr

namespace Setting

/-- All settings, in the order in which they are shown. -/
def all : List Setting :=
  [.maxDepth, .maxStatements, .maxGroups, .maxEncodedLength, .defaultSortField,
    .defaultSortAscending]

/-- The key in a file. -/
def key : Setting → String
  | .maxDepth => "max_depth"
  | .maxStatements => "max_statements"
  | .maxGroups => "max_groups"
  | .maxEncodedLength => "max_encoded_len"
  | .defaultSortField => "default_sort_field"
  | .defaultSortAscending => "default_sort_ascending"

/-- The variable in the environment. -/
def variableName : Setting → String
  | .maxDepth => "SMARTFILTER_MAX_DEPTH"
  | .maxStatements => "SMARTFILTER_MAX_STATEMENTS"
  | .maxGroups => "SMARTFILTER_MAX_GROUPS"
  | .maxEncodedLength => "SMARTFILTER_MAX_ENCODED_LEN"
  | .defaultSortField => "SMARTFILTER_DEFAULT_SORT_FIELD"
  | .defaultSortAscending => "SMARTFILTER_DEFAULT_SORT_ASCENDING"

/-- What the setting is for. -/
def about? : Setting → Option String
  | .maxDepth => some "Deepest group nesting a filter may use."
  | .maxStatements => some "Statements per filter, counted across all groups."
  | .maxGroups => some "Groups per filter."
  | .maxEncodedLength => some "Longest encoded filter string the decoder accepts, in bytes."
  | .defaultSortField =>
    some "Sort field id applied when a filter carries no sort (1 = sort name)."
  | .defaultSortAscending => none

/-- The greatest value of a setting that is a count. -/
def bound? : Setting → Option Nat
  | .maxDepth | .maxStatements | .maxGroups | .maxEncodedLength => some Text.maxNat64
  | .defaultSortField => some 255
  | .defaultSortAscending => none

/-- The flag that a word in the environment stands for. -/
def flagOfText? (s : List Char) : Option Bool :=
  if s = ['1'] ∨ s = ['t', 'r', 'u', 'e'] then some true
  else if s = ['0'] ∨ s = ['f', 'a', 'l', 's', 'e'] then some false
  else none

/-- The value that a text in the environment gives; blanks around it do not count. -/
def valueOfText? (s : Setting) (text : String) : Option SettingValue :=
  let chars := Text.trimChars text.toList
  match s.bound? with
  | some bound => (Text.naturalUpTo? bound chars).map .count
  | none => (flagOfText? chars).map .flag

end Setting

namespace Settings

/-- The value of a setting. -/
def get (s : Settings) : Setting → SettingValue
  | .maxDepth => .count s.maxDepth
  | .maxStatements => .count s.maxStatements
  | .maxGroups => .count s.maxGroups
  | .maxEncodedLength => .count s.maxEncodedLength
  | .defaultSortField => .count s.defaultSortField
  | .defaultSortAscending => .flag s.defaultSortAscending

/-- Gives a setting a value; one of the wrong kind changes nothing. -/
def set (s : Settings) (setting : Setting) (value : SettingValue) : Settings :=
  match setting, value with
  | .maxDepth, .count n => { s with maxDepth := n }
  | .maxStatements, .count n => { s with maxStatements := n }
  | .maxGroups, .count n => { s with maxGroups := n }
  | .maxEncodedLength, .count n => { s with maxEncodedLength := n }
  | .defaultSortField, .count n => { s with defaultSortField := n }
  | .defaultSortAscending, .flag b => { s with defaultSortAscending := b }
  | _, _ => s

end Settings

/-- The value that writes the value of a setting. -/
def SettingValue.toJson : SettingValue → Json.Value
  | .count n => .integer n
  | .flag b => .bool b

/-- The value that writes all settings. -/
def Settings.toJson (s : Settings) : Json.Value :=
  .record (Setting.all.map fun setting ↦ (setting.key, (s.get setting).toJson))

end SeriesFilter
