import ShapeLint.Descriptor

/-!
Leaves that the shapes of several dialects share, and the words to write shapes with.
-/
namespace ShapeLint

namespace Leaf

def any : Leaf := {}

def ofType (type : String) : Leaf := { type := some type }

def string : Leaf := ofType "string"
def boolean : Leaf := ofType "boolean"
def integer : Leaf := ofType "integer"
def number : Leaf := ofType "number"
def object : Leaf := ofType "object"
def array : Leaf := ofType "array"

def zero : Binary64 := .ofInt 0

def natural : Leaf := { type := some "integer", minimum := some zero }
def nonNegative : Leaf := { type := some "number", minimum := some zero }

/-- A list whose items are checked against a leaf. -/
def listOf (items : Leaf) : Leaf := { type := some "array", items := some items }

def stringList : Leaf := listOf string

/-- A payload that is shown, not checked. -/
def sample : Leaf := { isExample := true }

def sampleList : Leaf := { type := some "array", isExample := true }

/-- A subtree that is taken as it stands. -/
def verbatim : Leaf := { resolvable := false }

def scopes : Leaf := { type := some "object", entries := some string }

/-- A text with a description of its own. -/
def described (description : String) : Leaf := { type := some "string", description }

/-- One of the given texts. -/
def oneOf (choices : List String) : Leaf := { choices := some (choices.map Value.text) }

/-- One of the given texts, which are expected to be texts. -/
def oneString (choices : List String) : Leaf :=
  { type := some "string", choices := some (choices.map Value.text) }

def oneInteger (choices : List Int) : Leaf :=
  { type := some "integer", choices := some (choices.map Value.int) }

end Leaf

namespace Shapes

/-! The rules that tables of properties are written with. -/

def ref (type : String) : Rule := .reference type
def pickedBy (resolver : Resolver) : Rule := .computed resolver

def anyValue : Rule := .leaf .any
def string : Rule := .leaf .string
def boolean : Rule := .leaf .boolean
def integer : Rule := .leaf .integer
def number : Rule := .leaf .number
def object : Rule := .leaf .object
def array : Rule := .leaf .array
def natural : Rule := .leaf .natural
def nonNegative : Rule := .leaf .nonNegative
def stringList : Rule := .leaf .stringList
def sample : Rule := .leaf .sample
def sampleList : Rule := .leaf .sampleList
def verbatim : Rule := .leaf .verbatim
def scopes : Rule := .leaf .scopes

def described (description : String) : Rule := .leaf (.described description)
def oneOf (choices : List String) : Rule := .leaf (.oneOf choices)
def oneString (choices : List String) : Rule := .leaf (.oneString choices)
def oneInteger (choices : List Int) : Rule := .leaf (.oneInteger choices)
def listOfOne (choices : List String) : Rule := .leaf (.listOf (.oneOf choices))

/-- The text under a field of a mapping, by which kinds of a node are told apart. -/
def discriminant (node : Value) (field : String) : Option String :=
  (node.field? field).bind Value.text?

/-- Keys by kind, and those of every other kind. -/
def keysByKind (cases : List (String × List String)) (others : List String)
    (kind : Option String) : List String :=
  (kind.bind fun kind => cases.lookup kind).getD others

/-- A function of a dialect's shapes that lists keys for a node. -/
def conditional (dialect name : String) (keys : Value → List String) : Conditional :=
  { name, id := .table dialect name, keys := fun node => .ok (Value.texts (keys node)) }

/-- A function of a dialect's shapes that picks the rule for a child. -/
def resolver (dialect name : String) (pick : Value → Value → Option FixedRule) : Resolver :=
  { name, id := .table dialect name, pick := fun v key => .ok (pick v key) }

/-- A function of a dialect's shapes that picks the rule by the text of the key. -/
def resolverByKey (dialect name : String) (pick : String → Option FixedRule) : Resolver :=
  { name, id := .table dialect name, pick := fun _ key => key.written.map pick }

def isList : Value → Bool
  | .list .. => true
  | _ => false

def isBool : Value → Bool
  | .scalar (.bool _) => true
  | _ => false

/-- A text without the line feed that may end it. -/
def withoutFinalBreak (cs : List Char) : List Char :=
  if cs.getLast? = some '\n' then cs.dropLast else cs

end Shapes

end ShapeLint
