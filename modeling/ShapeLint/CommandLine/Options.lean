import ShapeLint.Text.Quoted
import ShapeLint.Text.Similarity
import ShapeLint.Text.Word

/-!
Options and arguments on the command line: options of the program come before the command,
options of a command anywhere among its arguments, and two hyphens end them.
-/
namespace ShapeLint.CommandLine

/-- What is wrong with the way a command is used. -/
inductive UsageProblem where
  | unknownOption (option : String) (alike : List String)
  | missingCommand
  | unknownCommand (name : String)
  | invalidValue (parameter detail : String)
  | missingArgument (parameter : String) (choices : List String)
  | extraArguments (arguments : List String)

namespace UsageProblem

def message : UsageProblem → String
  | unknownOption option alike =>
    "No such option: " ++ option ++ match alike with
      | [] => ""
      | [one] => " Did you mean " ++ one ++ "?"
      | several =>
        " (Possible options: " ++ ", ".intercalate (several.mergeSort fun a b => a ≤ b) ++ ")"
  | missingCommand => "Missing command."
  | unknownCommand name => "No such command " ++ Text.quoted name ++ "."
  | invalidValue parameter detail => "Invalid value for " ++ parameter ++ ": " ++ detail
  | missingArgument parameter choices =>
    "Missing argument '" ++ parameter ++ "'." ++
      if choices.isEmpty then "" else " Choose from:\n\t" ++ ",\n\t".intercalate choices
  | extraArguments [argument] => "Got unexpected extra argument (" ++ argument ++ ")"
  | extraArguments arguments =>
    "Got unexpected extra arguments (" ++ " ".intercalate arguments ++ ")"

end UsageProblem

/-- Whether an argument is an option: a hyphen alone is none. -/
def isOption (argument : String) : Bool := argument.startsWith "-" && 1 < argument.length

/-- The name of an option and the value written after an equals sign. -/
def splitOption (argument : String) : String × Option String :=
  let name := argument.toList.takeWhile (· != '=')
  match argument.toList.drop name.length with
  | _ :: value => (String.ofList name, some (String.ofList value))
  | [] => (argument, none)

/-- An option that is not among the known ones. A single hyphen begins options of one letter. -/
def unknown (argument : String) (known : List String) : UsageProblem :=
  if argument.startsWith "--" then
    let (name, _) := splitOption argument
    .unknownOption name (Text.closest name known)
  else .unknownOption (String.ofList (argument.toList.take 2)) []

/-- The program's own options, and what follows them. -/
structure ProgramOptions where
  logLevel : Option String := none
  help : Bool := false
  rest : List String := []

/-- Why options cannot be read. Only the first kind is answered with the usage of the command. -/
inductive OptionsError where
  | usage (problem : UsageProblem)
  | missingValue (option : String)
  | needlessValue (option : String)

/-- Reads the options before the command. The last value of an option counts. -/
def readOptions : ProgramOptions → List String → Except OptionsError ProgramOptions
  | found, [] => .ok found
  | found, argument :: rest =>
    if argument = "--" then .ok { found with rest }
    else if !isOption argument then .ok { found with rest := argument :: rest }
    else match splitOption argument with
      | ("--help", none) => readOptions { found with help := true } rest
      | ("--help", some _) => .error (.needlessValue "--help")
      | ("--log-level", some value) => readOptions { found with logLevel := some value } rest
      | ("--log-level", none) =>
        match rest with
        | value :: rest => readOptions { found with logLevel := some value } rest
        | [] => .error (.missingValue "--log-level")
      | _ => .error (.usage (unknown argument ["--log-level", "--help"]))

/-- Separates a command's arguments from its one option, `--help`. -/
def readArguments : List String → Except OptionsError (Bool × List String)
  | [] => .ok (false, [])
  | argument :: rest =>
    if argument = "--" then .ok (false, rest)
    else if isOption argument then
      match splitOption argument with
      | ("--help", none) => (readArguments rest).map fun (_, arguments) => (true, arguments)
      | ("--help", some _) => .error (.needlessValue "--help")
      | _ => .error (.usage (unknown argument ["--help"]))
    else (readArguments rest).map fun (help, arguments) => (help, argument :: arguments)

/-- Whether a name that is no command's begins like one, with a letter or a digit. The empty name
counts as one. -/
def isCommandLike (name : String) : Bool :=
  match name.toList with
  | [] => true
  | c :: _ => Text.isWord c && c != '_'

end ShapeLint.CommandLine
