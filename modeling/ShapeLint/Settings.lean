import ShapeLint.Document.Fields
import ShapeLint.Journal

/-!
Settings of registry building, from field values or from the environment. All fields are read
before any problem is reported, in order of the fields.
-/
namespace ShapeLint

structure Settings where
  /-- Check references before the registry is frozen. -/
  selfCheck : Bool := true
  /-- Refuse definitions and extensions once the registry is built. -/
  freeze : Bool := true
  logLevel : LogLevel := .warning
  deriving DecidableEq, Repr

inductive SettingProblem where
  | flag (problem : Field.FlagProblem)
  | notText
  | unknownLevel (text : String)
  deriving DecidableEq, Repr

def SettingProblem.message : SettingProblem → String
  | flag .unclear => "Input should be a valid boolean, unable to interpret input"
  | flag .wrongKind => "Input should be a valid boolean"
  | notText => "Input should be a valid string"
  | unknownLevel text => "Value error, Unknown log level: " ++ text

namespace Settings

/-- Problems of several fields in one text. -/
def problemsText (problems : List SettingProblem) : String :=
  "; ".intercalate (problems.map SettingProblem.message)

/-- Upper case as far as the names of levels are concerned: apart from the ASCII letters, only the
dotless i has one of their letters as its upper case. -/
def levelLetter (c : Char) : Char := if c = 'ı' then 'I' else c.toUpper

/-- A level named in any case, with white space around it. -/
def level? (text : String) : Option LogLevel :=
  let name := String.ofList ((Text.trimBy Text.isBlank text.toList).map levelLetter)
  LogLevel.all.find? fun level => level.name == name

def readFlag (default : Bool) : Option Value → Except SettingProblem Bool
  | none => .ok default
  | some v => (Field.flag v).mapError .flag

def readLevel (default : LogLevel) : Option Value → Except SettingProblem LogLevel
  | none => .ok default
  | some v =>
    match v.text? with
    | none => .error .notText
    | some text => (level? text).elim (.error (.unknownLevel text)) .ok

def problem? {α : Type} : Except SettingProblem α → Option SettingProblem
  | .ok _ => none
  | .error problem => some problem

/-- Settings with the given fields. Fields of other names are ignored. -/
def ofFields (defaults : Settings) (fields : List (String × Value)) :
    Except (List SettingProblem) Settings :=
  let selfCheck := readFlag defaults.selfCheck (fields.lookup "self_check")
  let freeze := readFlag defaults.freeze (fields.lookup "freeze")
  let logLevel := readLevel defaults.logLevel (fields.lookup "log_level")
  match selfCheck, freeze, logLevel with
  | .ok selfCheck, .ok freeze, .ok logLevel => .ok { selfCheck, freeze, logLevel }
  | selfCheck, freeze, logLevel =>
    .error ([problem? selfCheck, problem? freeze, problem? logLevel].filterMap id)

/-- Environment variables with the fields that they set. -/
def environmentFields : List (String × String) :=
  [("API_LINT_TYPES_SELF_CHECK", "self_check"), ("API_LINT_TYPES_FREEZE", "freeze"),
   ("API_LINT_TYPES_LOG_LEVEL", "log_level")]

/-- Settings from an environment. Names of variables are taken exactly. -/
def ofEnvironment (environment : List (String × String)) :
    Except (List SettingProblem) Settings :=
  ofFields {} <| environmentFields.filterMap fun (name, field) =>
    (environment.lookup name).map fun text => (field, Value.text text)

end Settings

end ShapeLint
