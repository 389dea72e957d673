import ShapeLint.Descriptor

/-!
Registries: the named descriptors of one dialect, in order of definition. Names are looked up only
when a child is resolved, so the order of definitions does not matter to look-ups.
-/
namespace ShapeLint

structure Definition where
  name : String
  descriptor : Descriptor
  /-- The definition whose list of required keys this one shares, itself unless it was copied
  from another definition of the registry. -/
  sharesWith : String

structure Registry where
  dialect : String
  definitions : List Definition := []
  frozen : Bool := false

namespace Registry

def find? (r : Registry) (name : String) : Option Definition :=
  r.definitions.find? fun d => d.name == name

def contains (r : Registry) (name : String) : Bool := (r.find? name).isSome

def lookup (r : Registry) (name : String) : Except Fault Descriptor :=
  match r.find? name with
  | some d => .ok d.descriptor
  | none => .error (.undefinedType name r.dialect)

def size (r : Registry) : Nat := r.definitions.length

/-- Names in order of definition. -/
def definedNames (r : Registry) : List String := r.definitions.map Definition.name

/-- Names in order of their code points. -/
def names (r : Registry) : List String := r.definedNames.mergeSort fun a b => a ≤ b

/-- Every place where a definition names a type, in order. -/
def references (r : Registry) : List Reference :=
  r.definitions.flatMap fun d => d.descriptor.references d.name

/-- The references to names that are not defined. -/
def dangling (r : Registry) : List Reference :=
  r.references.filter fun reference => !r.contains reference.target

/-- Checks that every name a rule refers to is defined. Resolvers are not looked into. -/
def validate (r : Registry) : Except Fault Unit :=
  match r.dangling with
  | [] => .ok ()
  | dangling => .error (.danglingReferences r.dialect dangling)

def summary (r : Registry) : String :=
  s!"<TypeRegistry {r.dialect} types={r.size} " ++ (if r.frozen then "frozen>" else "open>")

/-- Changes the descriptor of a definition. -/
def modify (r : Registry) (name : String) (change : Descriptor → Descriptor) : Registry :=
  { r with definitions := r.definitions.map fun d =>
      if d.name == name then { d with descriptor := change d.descriptor } else d }

/-- The registry with all its descriptors, read-only. -/
def freeze (r : Registry) : Registry :=
  { r with
    definitions := r.definitions.map fun d => { d with descriptor := d.descriptor.freeze }
    frozen := true }

end Registry

end ShapeLint
