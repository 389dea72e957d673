import ShapeLint.Rule

/-!
Descriptors: named shapes of nodes. Rules refer to other descriptors by name, so a descriptor may
refer to itself or to one defined later.
-/
namespace ShapeLint

structure Descriptor where
  name : String := ""
  /-- The rules of named children. -/
  table : RuleTable := .growing []
  /-- The rule of children that are not named. Without one they are rejected. -/
  additional : Option Rule := none
  /-- The rule of a sequence's members. Only sequences have one. -/
  items : Option Rule := none
  required : Requirement := .ofKeys []
  /-- Keys of which a node must have one. -/
  group : Option KeyList := none
  allowed : Option Conditional := none
  extensions : Option String := none
  description : String := ""
  documentation : Option String := none
  /-- The fields of a frozen descriptor cannot be set any more. -/
  frozen : Bool := false

namespace Descriptor

/-- Rules of named children, in order, each key once. -/
def properties (d : Descriptor) : List (String × Rule) := d.table.entries

def requiredOneOf (d : Descriptor) : Option (List String) := d.group.map KeyList.toList

/-- The descriptor with properties behind its own. -/
def append (d : Descriptor) (added : List (String × Rule)) : Descriptor :=
  { d with table := d.table.append added }

/-- A copy under a name, with a table of its own that can grow. -/
def copied (d : Descriptor) (name : String) : Descriptor :=
  { d with name, table := .growing d.properties }

@[simp] theorem properties_append (d : Descriptor) (added : List (String × Rule)) :
    (d.append added).properties = d.properties ++ added := d.table.entries_append added

@[simp] theorem additional_append (d : Descriptor) (added : List (String × Rule)) :
    (d.append added).additional = d.additional := rfl

@[simp] theorem items_append (d : Descriptor) (added : List (String × Rule)) :
    (d.append added).items = d.items := rfl

@[simp] theorem properties_copied (d : Descriptor) (name : String) :
    (d.copied name).properties = d.properties := rfl

def isSequence (d : Descriptor) : Bool := d.items.isSome

/-- A key of the extensions that the descriptor admits. -/
def isExtension (d : Descriptor) (key : String) : Bool :=
  (nonempty? d.extensions).any fun mark => key.startsWith mark

@[simp] theorem isExtension_append (d : Descriptor) (added : List (String × Rule)) (key : String) :
    (d.append added).isExtension key = d.isExtension key := rfl

def sameProperties (a b : List (String × Rule)) : Bool :=
  a.length == b.length && a.all fun (key, rule) => (b.lookup key).any rule.same

def sameOptional {α : Type} (same : α → α → Bool) : Option α → Option α → Bool
  | some a, some b => same a b
  | none, none => true
  | _, _ => false

/-- Field by field; the order of properties plays no part, that of lists does. -/
def same (a b : Descriptor) : Bool :=
  a.frozen == b.frozen && a.name == b.name && sameProperties a.properties b.properties
    && sameOptional Rule.same a.additional b.additional && sameOptional Rule.same a.items b.items
    && a.required.same b.required && a.group == b.group
    && sameOptional (fun f g => f.id == g.id) a.allowed b.allowed
    && a.extensions == b.extensions && a.description == b.description
    && a.documentation == b.documentation

/-- The names that the descriptor's rules refer to, property by property, then those of additional
children and of members. -/
def references (d : Descriptor) (owner : String) : List Reference :=
  let of (key : String) (rule : Rule) := rule.targets.map fun target => ⟨owner, key, target⟩
  d.properties.flatMap (fun (key, rule) => of key rule)
    ++ (d.additional.map (of "<additional_properties>")).getD []
    ++ (d.items.map (of "<items>")).getD []

/-- Read-only form of a descriptor: a view of its rules and fixed lists of keys. A function that
lists keys stays as it is. -/
def freeze (d : Descriptor) : Descriptor :=
  { d with
    table := d.table.asView
    required := d.required.fix
    group := d.group.map KeyList.fix
    frozen := true }

/-- A list whose members are of one type. -/
def listOf (type : String) : Descriptor := { name := "list", items := some (.reference type) }

/-- A map whose values are of one type. -/
def mapOf (type : String) : Descriptor := { name := "map", additional := some (.reference type) }

end Descriptor

end ShapeLint
