import ShapeLint.Shapes.Leaves

/-!
Functions that pick the rule for a child in the shapes of several dialects. They take any value
and any key; those that go by the key fail only where it cannot be written.
-/
namespace ShapeLint.Shapes

/-- Beginnings of a text that points somewhere. -/
def pointerStarts : List String := ["#", "https://", "http://", "./", "../"]

/-- Whether a value of a discriminator mapping is a pointer and no plain name. -/
def isPointer (v : Value) : Bool :=
  match v.text? with
  | some s => pointerStarts.any (fun start => s.startsWith start) || s.toList.contains '/'
  | none => false

/-- A plain name in a discriminator mapping. -/
def aliasLeaf : Leaf := .string

/-- A pointer in a discriminator mapping, to be read as a schema. -/
def schemaPointer : Leaf := { type := some "string", resolveAs := some "Schema" }

def mappingEntry (v : Value) : Leaf := if isPointer v then schemaPointer else aliasLeaf

def classifyMappingEntry : Resolver :=
  resolver "shared" "classify_mapping_entry" fun v _ => some (.leaf (mappingEntry v))

/-- One schema or a positional list of schemas. -/
def schemaOrList : Resolver :=
  resolver "shared" "schema_or_list" fun v _ =>
    some (.reference (if isList v then "SchemaList" else "Schema"))

def schemaOrBoolean : Resolver :=
  resolver "shared" "schema_or_boolean" fun v _ =>
    some (if isBool v then .leaf .boolean else .reference "Schema")

def jsonTypeNames : List String :=
  ["object", "array", "string", "number", "integer", "boolean", "null"]

def typeNameOrList : Resolver :=
  resolver "shared" "type_name_or_list" fun v _ =>
    some (.leaf (if isList v then .listOf (.oneOf jsonTypeNames) else .oneOf jsonTypeNames))

/-- A property depends on a list of its siblings or on a schema. -/
def dependency : Resolver :=
  resolver "shared" "dependency" fun v _ =>
    some (if isList v then .leaf .stringList else .reference "Schema")

/-- Paths begin with a slash. -/
def pickPathItem (key : String) : Option FixedRule :=
  if key.startsWith "/" then some (.reference "PathItem") else none

/-- A response code is a digit followed by two digits or letters X. -/
def isResponseCode (key : String) : Bool :=
  match withoutFinalBreak key.toList with
  | [a, b, c] => a.isDigit && [b, c].all fun c => c.isDigit || c == 'X' || c == 'x'
  | _ => false

def pickResponse (key : String) : Option FixedRule :=
  if isResponseCode key then some (.reference "Response") else none

/-- Server names are made of ASCII letters, digits, hyphens and underscores. -/
def isServerName (key : String) : Bool :=
  let name := withoutFinalBreak key.toList
  !name.isEmpty && name.all fun c => c.isAlphanum || c == '_' || c == '-'

def pickServer (key : String) : Option FixedRule :=
  if isServerName key then some (.reference "Server") else none

end ShapeLint.Shapes
