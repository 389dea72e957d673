import ShapeLint.Fault

/-!
Shape violations and the places they point at.
-/
namespace ShapeLint

/-- A step from a container to one of its members. -/
inductive Step where
  | key (name : String)
  | index (position : Int)
  /-- A key that is a number too long to be written. No path goes on behind it. -/
  | unwritten (number : Int)
  deriving DecidableEq, Repr

abbrev Path := List Step

namespace Step

def text : Step → String
  | key name => name
  | index position | unwritten position => toString position

/-- Takes the step, if its key can be written. -/
def take : Step → Except Fault Unit
  | unwritten _ => .error .unwritable
  | _ => .ok ()

end Step

/-- The step to the value under a key. -/
def Scalar.step (key : Scalar) : Step :=
  match key with
  | .int i => if key.isWritable then .key key.plain else .unwritten i
  | key => .key key.plain

namespace Scalar

@[simp] theorem step_text (name : String) : (text name).step = .key name := rfl

/-- A key that can be written stands for its text, and any other stops whoever goes on behind it. -/
theorem step_of_isWritable {key : Scalar} (h : key.isWritable) : key.step = .key key.plain := by
  cases key with
  | int i => simp [step, h]
  | _ => rfl

theorem step_eq_key_iff {key : Scalar} {name : String} :
    key.step = .key name ↔ key.isWritable ∧ key.plain = name := by
  cases h : key.isWritable with
  | true => simp [step_of_isWritable h]
  | false =>
    cases key with
    | int i => simp [step, h]
    | _ => contradiction

theorem exists_step_eq_unwritten {key : Scalar} (h : key.isWritable = false) :
    ∃ number, key.step = .unwritten number := by
  cases key with
  | int i => exact ⟨i, by simp [step, h]⟩
  | _ => contradiction

theorem step_ne_index (key : Scalar) (position : Int) : key.step ≠ .index position := by
  unfold step
  split
  · split <;> simp
  · simp

theorem take_step {key : Scalar} :
    key.step.take = if key.isWritable then .ok () else .error .unwritable := by
  cases key with
  | int i => cases h : (int i).isWritable <;> simp [step, h, Step.take]
  | _ => rfl

end Scalar

inductive ViolationCode where
  | unknownKey
  | missingRequired
  | missingRequiredOneOf
  | disallowedKey
  | typeMismatch
  | enumMismatch
  | outOfRange
  | patternMismatch
  | cardinality
  | unresolvedRef
  | mappingTargetNotSchema
  deriving DecidableEq, Repr

def ViolationCode.name : ViolationCode → String
  | unknownKey => "unknown-key"
  | missingRequired => "missing-required"
  | missingRequiredOneOf => "missing-required-one-of"
  | disallowedKey => "disallowed-key"
  | typeMismatch => "type-mismatch"
  | enumMismatch => "enum-mismatch"
  | outOfRange => "out-of-range"
  | patternMismatch => "pattern-mismatch"
  | cardinality => "cardinality"
  | unresolvedRef => "unresolved-ref"
  | mappingTargetNotSchema => "mapping-target-not-schema"

structure Violation where
  code : ViolationCode
  /-- The type whose rules are violated. -/
  typeName : String
  key : Option String
  path : Path
  message : String
  deriving DecidableEq, Repr

/-- The key that a violation at the end of a path names. -/
def Path.lastKey? (path : Path) : Option String := path.getLast?.map Step.text

/-- The message for a value of the wrong type, wherever it is found. -/
def typeMismatch (expected : String) (v : Value) (typeName : String) (path : Path) : Violation :=
  { code := .typeMismatch
    typeName
    key := path.lastKey?
    path
    message := "Expected type `" ++ expected ++ "` but got `" ++ v.typeName ++ "`." }

end ShapeLint
