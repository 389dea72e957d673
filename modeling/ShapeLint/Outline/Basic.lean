import ShapeLint.Descriptor

/-!
Outlines: descriptors as plain data for display. Only what is set is shown.
-/
namespace ShapeLint

inductive Outline where
  | value (v : Value)
  | list (items : List Outline)
  | fields (entries : List (String × Outline))

namespace Outline

abbrev text (s : String) : Outline := value (.text s)

def texts (items : List String) : Outline := list (items.map text)

/-- One field, if there is something to show. -/
def shown (field : String) (content : Option Outline) : List (String × Outline) :=
  (content.map fun content => (field, content)).toList

/-- A flag, if it is not what it is by default. -/
def flag (field : String) (default b : Bool) : List (String × Outline) :=
  if b == default then [] else [(field, value (.bool b))]

/-- A text, unless it is empty. -/
def nonemptyText (field : String) (s : Option String) : List (String × Outline) :=
  shown field ((nonempty? s).map text)

def bound (x : Binary64) : Outline := value (.scalar (.float x))

def count (n : Int) : Outline := value (.int n)

end Outline

/-- The fields of a leaf that are set, in order. -/
def Leaf.outline : Leaf → List (String × Outline)
  | ⟨facets, items, entries⟩ =>
    Outline.shown "type" (facets.type.map .text)
      ++ Outline.shown "enum" (facets.choices.map fun choices => .list (choices.map .value))
      ++ Outline.shown "minimum" (facets.minimum.map Outline.bound)
      ++ Outline.shown "maximum" (facets.maximum.map Outline.bound)
      ++ Outline.shown "pattern" (facets.pattern.map fun p => .text p.written)
      ++ Outline.shown "min_items" (facets.minItems.map Outline.count)
      ++ Outline.shown "max_items" (facets.maxItems.map Outline.count)
      ++ (match items with
        | some leaf => [("items", .fields leaf.outline)]
        | none => [])
      ++ (match entries with
        | some leaf => [("additional_properties", .fields leaf.outline)]
        | none => [])
      ++ Outline.flag "is_example" false facets.isExample
      ++ Outline.flag "resolvable" true facets.resolvable
      ++ Outline.shown "direct_resolve_as" (facets.resolveAs.map .text)
      ++ Outline.nonemptyText "description" (some facets.description)
      ++ Outline.shown "documentation_link" (facets.documentation.map .text)

/-- A leaf with no field set reads `any`. -/
def Leaf.summary (leaf : Leaf) : Outline :=
  match leaf.outline with
  | [] => .text "any"
  | fields => .fields fields

def Rule.outline : Rule → Outline
  | .anything => .value .null
  | .fixed (.reference type) => .fields [("$type", .text type)]
  | .fixed (.leaf leaf) => leaf.summary
  | .fixed (.unsupported rule) => .text ("<resolver " ++ rule.kindName ++ ">")
  | .computed resolver => .text ("<resolver " ++ resolver.name ++ ">")

/-- A function that lists keys reads as a condition. -/
def Conditional.outline (f : Conditional) : Outline := .text ("<conditional " ++ f.name ++ ">")

def Requirement.outline : Requirement → Option Outline
  | .listed keys => if keys.toList.isEmpty then none else some (.texts keys.toList)
  | .computed f => some f.outline

/-- The fields of a descriptor that are set, in order. -/
def Descriptor.outline (d : Descriptor) : List (String × Outline) :=
  [("name", .text d.name)]
    ++ Outline.nonemptyText "description" (some d.description)
    ++ Outline.nonemptyText "documentationLink" d.documentation
    ++ Outline.shown "items" (d.items.map Rule.outline)
    ++ Outline.shown "properties" (if d.properties.isEmpty then none
      else some (.fields (d.properties.map fun (key, rule) => (key, rule.outline))))
    ++ Outline.shown "additionalProperties" (d.additional.map Rule.outline)
    ++ Outline.shown "required" d.required.outline
    ++ Outline.shown "requiredOneOf" ((d.requiredOneOf.filter (!·.isEmpty)).map .texts)
    ++ Outline.shown "allowed" (d.allowed.map Conditional.outline)
    ++ Outline.nonemptyText "extensionsPrefix" d.extensions

end ShapeLint
