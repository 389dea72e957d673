import ShapeLint.CommandLine.Options
import ShapeLint.Dialect.Build
import ShapeLint.Outline.BlockYaml

/-!
The commands of the program: listing the types of a dialect, describing one of them and checking
that all references resolve. A run takes the arguments and the environment and gives the exit code
and what is written.
-/
namespace ShapeLint.CommandLine

inductive Command where
  | types
  | describe
  | selfCheck
  deriving DecidableEq, Repr

namespace Command

def all : List Command := [describe, selfCheck, types]

def name : Command → String
  | types => "types"
  | describe => "describe"
  | selfCheck => "self-check"

def ofName? (name : String) : Option Command := all.find? fun c => c.name == name

/-- How the dialect argument is shown: the choices, between braces. -/
def choices : String := "\x7b" ++ "|".intercalate (Dialect.all.map Dialect.name) ++ "\x7d"

/-- How an argument that may be repeated or left out is shown. -/
def repeatedChoices : String := "[[" ++ "|".intercalate (Dialect.all.map Dialect.name) ++ "]]..."

/-- The arguments of a command, as its usage shows them. -/
def parameters : Command → String
  | types => choices
  | describe => choices ++ " TYPE_NAME"
  | selfCheck => repeatedChoices

def purpose : Command → String
  | types => "List the type names registered for DIALECT."
  | describe => "Show the descriptor registered as TYPE_NAME in DIALECT."
  | selfCheck => "Build registries and verify every type reference resolves."

end Command

/-- What a run leaves behind. -/
structure Outcome where
  exitCode : Nat := 0
  out : String := ""
  err : String := ""
  deriving DecidableEq, Repr

namespace Outcome

def write (o : Outcome) (text : String) : Outcome := { o with out := o.out ++ text }

def complain (o : Outcome) (text : String) : Outcome := { o with err := o.err ++ text }

def fail (o : Outcome) (exitCode : Nat) (message : String) : Outcome :=
  { o.complain ("Error: " ++ message ++ "\n") with exitCode }

/-- Writes the log records from a level up. -/
def log (o : Outcome) (level : LogLevel) (records : List LogRecord) : Outcome :=
  o.complain (String.join ((records.filter fun r => level.rank ≤ r.level.rank).map fun r =>
    r.line ++ "\n"))

end Outcome

def programUsage : String := "main [OPTIONS] COMMAND [ARGS]..."

/-- What a run leaves that is stopped by the options or arguments of a program or command. -/
def OptionsError.outcome (program usage : String) : OptionsError → Outcome
  | .usage problem =>
    (Outcome.complain {}
      ("Usage: " ++ usage ++ "\nTry '" ++ program ++ " --help' for help.\n\n")).fail
        2 problem.message
  | .missingValue option => Outcome.fail {} 2 ("Option '" ++ option ++ "' requires an argument.")
  | .needlessValue option =>
    Outcome.fail {} 2 ("Option '" ++ option ++ "' does not take a value.")

def programFailure : OptionsError → Outcome := OptionsError.outcome "main" programUsage

def Command.usage (c : Command) : String :=
  "main " ++ c.name ++ " [OPTIONS] " ++ c.parameters

def Command.failure (c : Command) : OptionsError → Outcome :=
  OptionsError.outcome ("main " ++ c.name) c.usage

/-- The help page of the program. -/
def programHelp : String :=
  "Usage: " ++ programUsage ++ "\n\n" ++
  "  API Lint Types: inspect the node type registries of each API dialect.\n\n" ++
  "Options:\n" ++
  "  --log-level TEXT  Logging level (overrides API_LINT_TYPES_LOG_LEVEL).\n" ++
  "  --help            Show this message and exit.\n\n" ++
  "Commands:\n" ++
  String.join (Command.all.map fun c =>
    "  " ++ c.name.pushn ' ' (12 - c.name.length) ++ c.purpose ++ "\n")

def Command.help (c : Command) : String :=
  "Usage: " ++ c.usage ++ "\n\n  " ++ c.purpose ++ "\n\nOptions:\n" ++
  "  --help  Show this message and exit.\n"

/-- A dialect among the choices of a parameter. -/
def readDialect (parameter name : String) : Except UsageProblem Dialect :=
  match Dialect.ofName? name with
  | some d => .ok d
  | none => .error (.invalidValue ("'" ++ parameter ++ "'")
      (Text.quoted name ++ " is not one of "
        ++ ", ".intercalate (Dialect.all.map fun d => Text.quoted d.name) ++ "."))

def readChoice : List String → Except UsageProblem (Dialect × List String)
  | [] => .error (.missingArgument Command.choices (Dialect.all.map Dialect.name))
  | name :: rest => return (← readDialect Command.choices name, rest)

def noMore : List String → Except UsageProblem Unit
  | [] => .ok ()
  | rest => .error (.extraArguments rest)

/-- What is to be done, with its arguments. -/
inductive Task where
  | help
  | types (d : Dialect)
  | describe (d : Dialect) (type : String)
  | selfCheck (ds : List Dialect)

/-- Reads the arguments of a command, without options. -/
def Command.taskOn (c : Command) (arguments : List String) : Except UsageProblem Task := do
  match c with
  | types =>
    let (d, rest) ← readChoice arguments
    noMore rest
    return .types d
  | describe =>
    let (d, rest) ← readChoice arguments
    match rest with
    | [] => .error (.missingArgument "TYPE_NAME" [])
    | type :: rest =>
      noMore rest
      return .describe d type
  | selfCheck =>
    let ds ← arguments.mapM (readDialect Command.repeatedChoices)
    return .selfCheck (if ds.isEmpty then Dialect.all else ds)

/-- Reads what follows a command. -/
def Command.task (c : Command) (arguments : List String) : Except OptionsError Task := do
  let (help, arguments) ← readArguments arguments
  if help then return .help
  (c.taskOn arguments).mapError .usage

/-- How registries are built. -/
abbrev Builder := Dialect → Settings → Journaled Registry

/-- Builds a registry, logs that, and goes on with it. -/
def withRegistry (build : Builder) (settings : Settings) (d : Dialect) (o : Outcome)
    (next : Outcome → Registry → Outcome) : Outcome :=
  let built := build d settings
  let o := o.log settings.logLevel built.records
  match built.outcome with
  | .ok r => next o r
  | .error fault => o.fail 1 fault.message

/-- Checks the dialects in turn, up to the first that fails. -/
def checkAll (build : Builder) (settings : Settings) : List Dialect → Outcome → Outcome
  | [], o => o
  | d :: ds, o =>
    withRegistry build settings d o fun o r =>
      checkAll build settings ds
        (o.write (d.name ++ ": ok (" ++ toString r.size ++ " types)\n"))

def Task.run (build : Builder) (settings : Settings) (c : Command) : Task → Outcome
  | help => Outcome.write {} c.help
  | types d =>
    withRegistry build settings d {} fun o r =>
      o.write (String.join (r.names.map (· ++ "\n")))
  | describe d type =>
    withRegistry build settings d {} fun o r =>
      match r.lookup type with
      | .ok descriptor => o.write (BlockYaml.document descriptor.outline ++ "\n")
      | .error fault => o.fail 1 fault.message
  | selfCheck ds => checkAll build { settings with selfCheck := true } ds {}

/-- The settings of a run: those of the environment, with the level of the option if that is given
and not empty. The environment is looked at first. -/
def settingsOf (environment : List (String × String)) (logLevel : Option String) :
    Except UsageProblem Settings :=
  let settings := do
    let settings ← Settings.ofEnvironment environment
    match nonempty? logLevel with
    | some level => Settings.ofFields settings [("log_level", .text level)]
    | none => return settings
  settings.mapError fun problems =>
    .invalidValue "'--log-level' or API_LINT_TYPES_*" (Settings.problemsText problems)

/-- Runs the program. An unknown command is refused before the settings are read, and the settings
are read before the command's arguments. A name that cannot be a command's shows the help page. -/
def run (build : Builder) (environment : List (String × String)) (arguments : List String) :
    Outcome :=
  if arguments.isEmpty then Outcome.write {} programHelp
  else match readOptions {} arguments with
    | .error e => programFailure e
    | .ok options =>
      if options.help then Outcome.write {} programHelp
      else match options.rest with
        | [] => programFailure (.usage .missingCommand)
        | name :: arguments =>
          match Command.ofName? name with
          | none =>
            if isCommandLike name then programFailure (.usage (.unknownCommand name))
            else Outcome.write {} programHelp
          | some c =>
            match settingsOf environment options.logLevel with
            | .error problem => programFailure (.usage problem)
            | .ok settings =>
              match c.task arguments with
              | .error e => c.failure e
              | .ok task => task.run build settings c

end ShapeLint.CommandLine
