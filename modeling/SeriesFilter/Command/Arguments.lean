import SeriesFilter.Page
import SeriesFilter.Report.Format
import SeriesFilter.Text.Numeral

/-!
# Arguments of the program

An argument is an option, the value of an option or an operand. Options begin with two hyphens and
a name or with one hyphen and letters; a value follows in the next argument, after an equals sign
or, for a letter, directly. Two hyphens alone end the options. Options that every command takes may
stand before the command or after it.
-/

namespace SeriesFilter.Command

/-- An option: its name, its letter, and whether it takes a value. -/
structure OptionForm where
  name : String
  letter : Option Char := none
  takesValue : Bool := false
  deriving DecidableEq, Repr

/-- Why arguments name no command to run. -/
inductive Stop where
  /-- They do not fit the form. -/
  | misused
  /-- They ask how the program is used. -/
  | help
  /-- They ask for the version. -/
  | version
  deriving DecidableEq, Repr

/-- What a list of arguments holds. -/
structure Found where
  /-- The options with the values of those that take one. -/
  options : List (String × String) := []
  operands : List String := []
  deriving DecidableEq, Repr

namespace Found

/-- Whether an option was given. -/
def has (f : Found) (name : String) : Bool :=
  f.options.any (·.1 == name)

/-- The value of an option. -/
def value? (f : Found) (name : String) : Option String :=
  f.options.lookup name

/-- Adds an option, which must not be there yet. -/
def addOption (f : Found) (name value : String) : Except Stop Found :=
  if f.has name then .error .misused else .ok { f with options := f.options ++ [(name, value)] }

end Found

/-! ## One list of arguments -/

/-- What is asked for by an option that no list of options names. -/
def stopOf (hasVersion : Bool) (isHelp isVersion : Bool) : Stop :=
  if isHelp then .help else if isVersion && hasVersion then .version else .misused

/-- How the options of some place are read. -/
structure Grammar where
  forms : List OptionForm
  /-- The commands that may follow. -/
  commands : List String := []
  /-- How many operands there may be. -/
  maxOperands : Nat := 0
  /-- Whether the version can be asked for. -/
  hasVersion : Bool := false

/-- The letters of one argument: options without a value, and at the end perhaps one with a value,
which is what is left of the argument. The result is the option that still wants its value. -/
def letters (g : Grammar) (found : Found) : List Char → Except Stop (Found × Option OptionForm)
  | [] => .ok (found, none)
  | c :: rest =>
    match g.forms.find? fun form ↦ form.letter == some c with
    | none => .error (stopOf g.hasVersion (c == 'h') (c == 'V'))
    | some form =>
      if form.takesValue then
        match rest with
        | [] => .ok (found, some form)
        | '=' :: value => do
          return (← found.addOption form.name (String.ofList value), none)
        | value => do
          return (← found.addOption form.name (String.ofList value), none)
      else do
        letters g (← found.addOption form.name "") rest

/-- An option by its name, with what follows an equals sign. -/
def named (g : Grammar) (found : Found) (s : List Char) :
    Except Stop (Found × Option OptionForm) :=
  let name := String.ofList (s.takeWhile (· != '='))
  let value? := match s.dropWhile (· != '=') with
    | _ :: value => some (String.ofList value)
    | [] => none
  match g.forms.find? fun form ↦ form.name == name, value? with
  | none, _ =>
    .error (stopOf g.hasVersion (name == "help" && value?.isNone)
      (name == "version" && value?.isNone))
  | some form, some value =>
    if form.takesValue then do
      return (← found.addOption form.name value, none)
    else .error .misused
  | some form, none =>
    if form.takesValue then .ok (found, some form)
    else do
      return (← found.addOption form.name "", none)

/-- Adds an operand, if one more is wanted. -/
def operand (g : Grammar) (found : Found) (arg : String) : Except Stop Found :=
  if found.operands.length < g.maxOperands then
    .ok { found with operands := found.operands ++ [arg] }
  else .error .misused

/-- Reads arguments up to a command. `pending` is an option that wants its value, and `ended` tells
whether the options have ended. The result has the command and the arguments after it. -/
def scan (g : Grammar) (found : Found) (pending : Option OptionForm) (ended : Bool) :
    List String → Except Stop (Found × Option (String × List String))
  | [] => if pending.isSome then .error .misused else .ok (found, none)
  | arg :: rest =>
    if ended then do scan g (← operand g found arg) none true rest
    else match pending, arg.toList with
      | some _, '-' :: _ :: _ => .error .misused
      | some form, _ => do scan g (← found.addOption form.name arg) none false rest
      | none, ['-', '-'] => scan g found none true rest
      | none, '-' :: '-' :: s => do
        let (found, pending) ← named g found s
        scan g found pending false rest
      | none, '-' :: c :: s => do
        let (found, pending) ← letters g found (c :: s)
        scan g found pending false rest
      | none, _ =>
        if g.commands.contains arg then .ok (found, some (arg, rest))
        else do scan g (← operand g found arg) none false rest

/-! ## Commands with their arguments -/

/-- A filter that is named: an encoded string, or with `isJson` a file. -/
structure FilterInput where
  text : String
  isJson : Bool
  deriving DecidableEq, Repr

/-- A command with its arguments. -/
inductive Request where
  | encode (file : String) (skipValidation : Bool)
  | decode (encoded : String) (format : ReportFormat)
  | check (input : FilterInput) (strict : Bool)
  | query (input : FilterInput) (catalog : String) (page : PageRequest) (now : Option String)
    (format : ReportFormat)
  | fields (name : Option String) (format : ReportFormat)
  | config (template : Bool)
  deriving DecidableEq, Repr

/-- What the arguments ask for. -/
structure Invocation where
  request : Request
  /-- The file of settings that was named. -/
  settingsFile : Option String := none
  deriving DecidableEq, Repr

/-- The variable that names a file of settings. -/
def settingsVariable : String := "SMARTFILTER_CONFIG"

/-- The options that may stand before the command or after it. -/
def sharedForms : List OptionForm :=
  [⟨"config", some 'c', true⟩, ⟨"verbose", some 'v', false⟩]

/-- The option for the form of a report. -/
def formatForm : OptionForm := ⟨"format", some 'f', true⟩

/-- How the arguments of a command are read. -/
def grammarOf (command : String) : Grammar :=
  let (own, maxOperands) := match command with
    | "encode" => ([⟨"skip-validation", none, false⟩], 1)
    | "decode" => ([formatForm], 1)
    | "check" => ([⟨"json", none, false⟩, ⟨"strict", none, false⟩], 1)
    | "query" =>
      ([⟨"json", none, false⟩, ⟨"catalog", none, true⟩, ⟨"page", none, true⟩,
        ⟨"page-size", none, true⟩, ⟨"now", none, true⟩, formatForm], 1)
    | "fields" => ([formatForm], 1)
    | "config" => ([⟨"template", none, false⟩], 0)
    | _ => ([], 0)
  { forms := sharedForms ++ own, maxOperands }

/-- How the arguments before a command are read. -/
def rootGrammar : Grammar where
  forms := sharedForms
  commands := ["encode", "decode", "check", "query", "fields", "config"]
  hasVersion := true

/-- A value, unless it is missing or empty. -/
def notEmpty : Option String → Except Stop String
  | some s => if s.isEmpty then .error .misused else .ok s
  | none => .error .misused

/-- The form of a report that was asked for. -/
def formatOr (usual : ReportFormat) (f : Found) : Except Stop ReportFormat :=
  match f.value? "format" with
  | none => .ok usual
  | some name =>
    match ReportFormat.ofName? name with
    | some format => .ok format
    | none => .error .misused

/-- A number that was asked for. -/
def numberOr (usual : Nat) (name : String) (f : Found) : Except Stop Nat :=
  match f.value? name with
  | none => .ok usual
  | some text =>
    match Text.naturalUpTo? Text.maxNat64 text.toList with
    | some n => .ok n
    | none => .error .misused

/-- The operand, which has to be there. -/
def theOperand (f : Found) : Except Stop String :=
  match f.operands.head? with
  | some s => .ok s
  | none => .error .misused

/-- What a command is asked for. -/
def requestOf (command : String) (f : Found) : Except Stop Request :=
  match command with
  | "encode" => .ok (.encode (f.operands.headD "-") (f.has "skip-validation"))
  | "decode" => do
    return .decode (← theOperand f) (← formatOr .json f)
  | "check" => do
    return .check ⟨← theOperand f, f.has "json"⟩ (f.has "strict")
  | "query" => do
    let page : PageRequest := {}
    return .query ⟨← theOperand f, f.has "json"⟩ (← notEmpty (f.value? "catalog"))
      ⟨← numberOr page.page "page" f, ← numberOr page.size "page-size" f⟩ (f.value? "now")
      (← formatOr .text f)
  | "fields" => do
    return .fields f.operands.head? (← formatOr .text f)
  | "config" => .ok (.config (f.has "template"))
  | _ => .error .misused

/-- The file of settings that is named at one place: by the option, or else by the variable. -/
def settingsFileAt (fromEnvironment : Option String) (f : Found) : Except Stop (Option String) :=
  match (f.value? "config").or fromEnvironment with
  | none => .ok none
  | some path => do return some (← notEmpty (some path))

/-- Reads all arguments. A file of settings that is named after the command comes before one that
is named in front of it, and either before the variable. -/
def parse (fromEnvironment : Option String) (args : List String) : Except Stop Invocation := do
  let (shared, command?) ← scan rootGrammar {} none false args
  let outer ← settingsFileAt fromEnvironment shared
  match command? with
  | none => .error .misused
  | some (command, rest) =>
    let (found, _) ← scan (grammarOf command) {} none false rest
    let inner ← settingsFileAt fromEnvironment found
    let settingsFile := if found.has "config" then inner else outer
    return ⟨← requestOf command found, settingsFile⟩

end SeriesFilter.Command
