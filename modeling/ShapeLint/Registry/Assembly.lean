import ShapeLint.Registry

/-!
Assembling a registry: defining and extending types, the self-check and freezing. An operation that
fails leaves what it had done before it failed, and a frozen registry refuses every further one.
-/
namespace ShapeLint

/-- A registry under construction and the log of its construction. -/
structure Workbench where
  registry : Registry
  records : List LogRecord := []

abbrev Assembly := EStateM Fault Workbench

namespace Assembly

variable {α : Type}

def registry : Assembly Registry := return (← get).registry

def log (level : LogLevel) (source : LogSource) (message : String) : Assembly Unit :=
  modify fun w => { w with records := w.records ++ [⟨level, source, message⟩] }

def setRegistry (r : Registry) : Assembly Unit := modify fun w => { w with registry := r }

def ensureMutable : Assembly Unit := do
  let r ← registry
  if r.frozen then throw (.registryFrozen r.dialect)

def lookup (name : String) : Assembly Descriptor := do ofExcept ((← registry).lookup name)

/-- Defines a name unless the same descriptor already stands under it; another descriptor under
that name is a conflict. The registry takes a copy under that name. -/
def defineSharing (sharesWith name : String) (d : Descriptor) : Assembly Descriptor := do
  ensureMutable
  let r ← registry
  let owned := d.copied name
  match r.find? name with
  | some existing =>
    if existing.descriptor.same owned then return existing.descriptor
    else throw (.duplicateType name r.dialect)
  | none =>
    setRegistry { r with definitions := r.definitions ++ [⟨name, owned, sharesWith⟩] }
    log .debug .registry ("Defined " ++ r.dialect ++ " type " ++ name)
    return owned

def define (name : String) (d : Descriptor) : Assembly Descriptor := defineSharing name name d

/-- Defines the names in order. -/
def defineAll (types : List (String × Descriptor)) : Assembly Unit :=
  types.forM fun (name, d) => discard (define name d)

/-- Defines a name like another one of the registry. Tells whether that one itself was meant. -/
def defineAgain (name other : String) : Assembly Bool := do
  let d ← lookup name
  let sharesWith := (((← registry).find? name).map Definition.sharesWith).getD name
  discard (defineSharing sharesWith other d)
  return name == other

/-- Adds one property unless the same rule already stands under its key. -/
def extendBy (name key : String) (rule : Rule) : Assembly Unit := do
  let r ← registry
  match (← lookup name).properties.lookup key with
  | some current =>
    if current.same rule then pure () else throw (.extensionConflict name key r.dialect)
  | none =>
    if (← lookup name).table.isView then throw (.fixedProperties name)
    setRegistry (r.modify name fun d => d.append [(key, rule)])

/-- Adds properties to a defined type, key by key up to the first conflict. -/
def extend (name : String) (properties : List (String × Rule)) : Assembly Descriptor := do
  ensureMutable
  discard (lookup name)
  let properties := entriesOf properties
  properties.forM fun (key, rule) => extendBy name key rule
  log .debug .registry ("Extended " ++ (← registry).dialect ++ " type " ++ name ++ " with "
    ++ ", ".intercalate (properties.map Prod.fst))
  lookup name

def validate : Assembly Unit := do ofExcept (← registry).validate

/-- Makes the registry and its descriptors read-only, after the self-check if that is asked for. -/
def freeze (selfCheck : Bool) : Assembly Unit := do
  if selfCheck then validate
  let r ← registry
  setRegistry r.freeze
  log .info .registry ("Froze " ++ r.dialect ++ " registry with " ++ toString r.size ++ " types")

/-- Puts a rule under a key of a defined type, whatever stands there. -/
def setProperty (name key : String) (rule : Rule) : Assembly Unit := do
  let d ← lookup name
  if d.table.isView then throw (.fixedProperties name)
  setRegistry ((← registry).modify name fun d =>
    { d with table := .growing (setEntry key rule d.properties) })

/-- Replaces the rule of additional children of a defined type. -/
def setAdditional (name : String) (rule : Option Rule) : Assembly Unit := do
  if (← lookup name).frozen then throw (.fixedField name)
  setRegistry ((← registry).modify name fun d => { d with additional := rule })

/-- Adds a required key to a defined type and to all types that share its list. -/
def appendRequired (name key : String) : Assembly Unit := do
  let d ← lookup name
  let r ← registry
  match d.required, r.find? name with
  | .listed (.growing keys), some definition =>
    let appended (d : Definition) : Definition :=
      if d.sharesWith == definition.sharesWith then
        { d with descriptor := { d.descriptor with required := .ofKeys (keys ++ [key]) } }
      else d
    setRegistry { r with definitions := r.definitions.map appended }
  | _, _ => throw (.fixedRequired name)

end Assembly

end ShapeLint
