import ShapeLint.Descriptor
import ShapeLint.Leaf.Fields

/-!
Descriptors built from fields whose types are still to be checked.
-/
namespace ShapeLint

/-- What is given where a rule is expected. -/
inductive RuleField where
  /-- A type name, null, a leaf written as a mapping, or a value that is no rule. -/
  | value (v : Value)
  | leaf (leaf : Leaf)
  | computed (resolver : Resolver)

namespace RuleField

/-- A rule as descriptors take it; other values are refused. -/
def toRule (token : Nat) (field : String) : RuleField → Except Fault Rule
  | value (.scalar .null) => .ok .anything
  | value (.scalar (.text type)) => .ok (.reference type)
  | value (.mapping identity entries) =>
    (Leaf.ofValue token (.mapping identity entries)).map Rule.leaf
  | value _ => .error (.invalidField field)
  | leaf l => .ok (.leaf l)
  | computed resolver => .ok (.computed resolver)

/-- A rule put in place without a check; a value that is no rule stays as it is. -/
def toUncheckedRule : RuleField → Rule
  | value (.scalar .null) => .anything
  | value (.scalar (.text type)) => .reference type
  | value v => .fixed (.unsupported v)
  | leaf l => .leaf l
  | computed resolver => .computed resolver

/-- Where no rule and null are the same. -/
def ofRule : Rule → Option Rule
  | .anything => none
  | rule => some rule

end RuleField

/-- What is given where a key list or a function that lists keys is expected. -/
inductive KeysField where
  | value (v : Value)
  | computed (conditional : Conditional)

/-- The fields of a descriptor, before they are checked. -/
structure DescriptorFields where
  name : Option Value := none
  properties : List (String × RuleField) := []
  additional : RuleField := .value .null
  items : RuleField := .value .null
  required : Option KeysField := none
  requiredOneOf : Option Value := none
  allowed : Option KeysField := none
  extensions : Option Value := none
  description : Option Value := none
  documentation : Option Value := none

namespace Descriptor

/-- A text field that is left out or holds a text. -/
def textField (field : String) : Option Value → Except Fault String
  | none => .ok ""
  | some v => Field.expect field Value.text? v

def optionalField {α : Type} (field : String) (read? : Value → Option α) :
    Option Value → Except Fault (Option α)
  | none => .ok none
  | some v => Field.optional field read? v

def requiredField : Option KeysField → Except Fault Requirement
  | none => .ok (.ofKeys [])
  | some (.value v) => (Field.expect "required" Field.texts? v).map .ofKeys
  | some (.computed f) => .ok (.computed f)

def allowedField : Option KeysField → Except Fault (Option Conditional)
  | none | some (.value (.scalar .null)) => .ok none
  | some (.value _) => .error (.invalidField "allowed")
  | some (.computed f) => .ok (some f)

/-- Reads a descriptor. The NaNs of its leaves take the given token. -/
def ofFields (token : Nat) (f : DescriptorFields) : Except Fault Descriptor := do
  let properties ← f.properties.mapM fun (key, rule) => return (key, ← rule.toRule token key)
  return {
    name := ← textField "name" f.name
    table := .growing (entriesOf properties)
    additional := RuleField.ofRule (← f.additional.toRule token "additional_properties")
    items := RuleField.ofRule (← f.items.toRule token "items")
    required := ← requiredField f.required
    group := (← optionalField "required_one_of" Field.texts? f.requiredOneOf).map .growing
    allowed := ← allowedField f.allowed
    extensions := ← optionalField "extensions_prefix" Value.text? f.extensions
    description := ← textField "description" f.description
    documentation := ← optionalField "documentation_link" Value.text? f.documentation }

/-- The overrides that a combinator refuses, in order of their names. -/
def nonDescriptive (overrides : List (String × Value)) : List String :=
  ((overrides.map Prod.fst).filter fun field =>
    field != "description" && field != "documentation_link").mergeSort (fun a b => a ≤ b)

/-- A combinator's descriptor with descriptive overrides. -/
def combined (token : Nat) (fields : DescriptorFields) (overrides : List (String × Value)) :
    Except Fault Descriptor :=
  match nonDescriptive overrides with
  | [] => ofFields token { fields with
      description := overrides.lookup "description"
      documentation := overrides.lookup "documentation_link" }
  | refused => .error (.nonDescriptive refused)

/-- A sequence whose members are governed by the given type. -/
def listOfFields (token : Nat) (type : RuleField) :
    List (String × Value) → Except Fault Descriptor :=
  combined token { name := some (.text "list"), items := type }

/-- A map whose values are governed by the given type. -/
def mapOfFields (token : Nat) (type : RuleField) :
    List (String × Value) → Except Fault Descriptor :=
  combined token { name := some (.text "map"), additional := type }

end Descriptor

end ShapeLint
