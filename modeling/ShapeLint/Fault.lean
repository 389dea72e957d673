import ShapeLint.Document.Value

/-!
What can go wrong, by cause. Rule functions may fail in their own ways; those failures that tell
of a value of an unexpected shape are degraded by whoever called the function, the others end the
operation.
-/
namespace ShapeLint

/-- How a rule function fails by itself. -/
inductive Failure where
  | wrongType
  | missingMember
  | missingKey
  | badValue
  | badText
  | brokenState
  | outOfRange
  | failedLookup
  | divisionByZero
  deriving DecidableEq, Repr

/-- Failures that a value of an unexpected shape brings about. -/
def Failure.degrades : Failure → Bool
  | wrongType | missingMember | missingKey | badValue | badText => true
  | brokenState | outOfRange | failedLookup | divisionByZero => false

/-- Why a document or a name stands for no supported dialect. -/
inductive DialectProblem where
  | rootNotMapping
  | version (standard text : String)
  | undeclared
  | unknownName (name : String) (known : List String)
  | reported (text : String)
  deriving DecidableEq, Repr

def DialectProblem.message : DialectProblem → String
  | rootNotMapping => "Document root must be a mapping"
  | version standard text => s!"Unsupported {standard} version: {text}"
  | undeclared => "Document root declares none of `openapi`, `swagger` or `asyncapi`"
  | unknownName name known =>
    s!"Unsupported dialect '{name}', expected one of: " ++ ", ".intercalate known
  | reported text => text

/-- A place where a definition names another type. -/
structure Reference where
  owner : String
  key : String
  target : String
  deriving DecidableEq, Repr

inductive Fault where
  /-- A rule function failed with this text. -/
  | failed (failure : Failure) (text : String)
  | undefinedType (name dialect : String)
  | duplicateType (name dialect : String)
  | extensionConflict (name key dialect : String)
  | registryFrozen (dialect : String)
  | danglingReferences (dialect : String) (references : List Reference)
  | unsupportedDialect (problem : DialectProblem)
  /-- A combinator was given fields that say more than a description. -/
  | nonDescriptive (fields : List String)
  | invalidPattern (pattern : String)
  /-- A field, key or path step holds a value that its type does not admit. -/
  | invalidField (field : String)
  /-- A value of this kind has no keys to list. -/
  | notIterable (kind : String)
  /-- A value of this kind cannot be looked up as a key. -/
  | unhashable (kind : String)
  /-- An integer has too many digits to be written into a text. -/
  | unwritable
  | fixedProperties (name : String)
  | fixedField (name : String)
  | fixedRequired (name : String)
  | nestingTooDeep
  deriving DecidableEq, Repr

namespace Fault

/-- Whether a guarded call of a rule function carries on after this fault. -/
def degrades : Fault → Bool
  | failed failure _ => failure.degrades
  | undefinedType .. | nonDescriptive _ | invalidField _ | notIterable _ | unhashable _
  | unwritable | fixedProperties _ | fixedField _ | fixedRequired _ => true
  | duplicateType .. | extensionConflict .. | registryFrozen _ | danglingReferences ..
  | unsupportedDialect _ | invalidPattern _ | nestingTooDeep => false

def message : Fault → String
  | failed _ text => text
  | undefinedType name dialect => s!"Type '{name}' is not defined in the {dialect} registry"
  | duplicateType name dialect => s!"Type '{name}' is already defined in the {dialect} registry"
  | extensionConflict name key dialect =>
    s!"Cannot extend {dialect} type '{name}': key '{key}' already has a different rule"
  | registryFrozen dialect => s!"The {dialect} registry is frozen"
  | danglingReferences dialect references =>
    s!"{references.length} dangling type reference(s) in the {dialect} registry:\n" ++
      "\n".intercalate (references.map fun r => s!"  {r.owner}.{r.key} -> {r.target}")
  | unsupportedDialect problem => problem.message
  | nonDescriptive fields =>
    "Combinator overrides must be descriptive only, got: " ++ ", ".intercalate fields
  | invalidPattern pattern => s!"`{pattern}` is not a pattern"
  | invalidField field => s!"`{field}` holds a value of the wrong type"
  | notIterable kind => s!"'{kind}' object is not iterable"
  | unhashable kind => s!"unhashable type: '{kind}'"
  | unwritable => "Exceeds the limit (4300 digits) for integer string conversion"
  | fixedProperties name => s!"The properties of '{name}' are fixed"
  | fixedField name => s!"The fields of '{name}' are fixed"
  | fixedRequired name => s!"The required keys of '{name}' are fixed"
  | nestingTooDeep => "The walk is nested too deep"

end Fault

section Writing

variable {α β : Type} {values : List Value} {a b : α} {fault : Fault}

/-- A result for which these values are written into texts. -/
def writing (values : List Value) (a : α) : Except Fault α :=
  if values.all Value.isWritable then .ok a else .error .unwritable

theorem writing_eq_ok :
    writing values a = .ok b ↔ (∀ v ∈ values, v.isWritable) ∧ a = b := by
  rw [← List.all_eq_true, writing]
  cases values.all Value.isWritable <;> simp

theorem writing_eq_error :
    writing values a = .error fault ↔ (¬ ∀ v ∈ values, v.isWritable) ∧ fault = .unwritable := by
  rw [← List.all_eq_true, writing]
  cases values.all Value.isWritable <;> simp [eq_comm]

theorem map_writing (f : α → β) : (writing values a).map f = writing values (f a) := by
  unfold writing
  split <;> rfl

/-- The text of a value in a message, if it can be written. -/
def Value.written (v : Value) : Except Fault String := writing [v] v.plain

end Writing

end ShapeLint
