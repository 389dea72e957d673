import ShapeLint.Fault

/-!
Log records, and computations that leave some behind whether they succeed or not.
-/
namespace ShapeLint

inductive LogLevel where
  | debug
  | info
  | warning
  | error
  | critical
  deriving DecidableEq, Repr

namespace LogLevel

def name : LogLevel → String
  | debug => "DEBUG"
  | info => "INFO"
  | warning => "WARNING"
  | error => "ERROR"
  | critical => "CRITICAL"

def all : List LogLevel := [debug, info, warning, error, critical]

def rank : LogLevel → Nat
  | debug => 0
  | info => 1
  | warning => 2
  | error => 3
  | critical => 4

end LogLevel

/-- The parts of the program that write log records. -/
inductive LogSource where
  | childRules
  | keyChecks
  | registry
  | walk
  | assembly
  | protocolBindings
  deriving DecidableEq, Repr

def LogSource.name : LogSource → String
  | childRules => "api_lint_types.model.resolve"
  | keyChecks => "api_lint_types.model.checks"
  | registry => "api_lint_types.model.registry"
  | walk => "api_lint_types.walk"
  | assembly => "api_lint_types.dialects.registries"
  | protocolBindings => "api_lint_types.dialects.asyncapi2_bindings"

structure LogRecord where
  level : LogLevel
  source : LogSource
  message : String
  deriving DecidableEq, Repr

/-- One line for a record. -/
def LogRecord.line (r : LogRecord) : String :=
  r.level.name ++ " " ++ r.source.name ++ ": " ++ r.message

/-- A record whose message shows these values. There is none if one of them cannot be written. -/
def LogRecord.showing (r : LogRecord) (values : List Value) : Option LogRecord :=
  if values.all Value.isWritable then some r else none

/-- An outcome and the log records left on the way to it. -/
structure Journaled (α : Type) where
  outcome : Except Fault α
  records : List LogRecord

namespace Journaled

variable {α β : Type}

def of (outcome : Except Fault α) : Journaled α := ⟨outcome, []⟩

def bind (x : Journaled α) (f : α → Journaled β) : Journaled β :=
  match x.outcome with
  | .ok a => ⟨(f a).outcome, x.records ++ (f a).records⟩
  | .error fault => ⟨.error fault, x.records⟩

instance : Monad Journaled where
  pure a := ⟨.ok a, []⟩
  bind := bind

end Journaled

end ShapeLint
