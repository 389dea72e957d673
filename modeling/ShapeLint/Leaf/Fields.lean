import ShapeLint.Document.Fields
import ShapeLint.Leaf

/-!
Leaves written as mappings of their fields. Bounds become binary64 numbers when a leaf is read;
fields of other names are ignored. The NaNs of one reading share a token, as they are never
compared with each other.
-/
namespace ShapeLint.Leaf

/-- Sets one field that holds no leaf. -/
def setFacet (token : Nat) (facets : Facets) (field : String) (v : Value) : Except Fault Facets :=
  let flag? (v : Value) := (Field.flag v).toOption
  match field with
  | "type" => return { facets with type := ← Field.optional field Value.text? v }
  | "enum" => return { facets with choices := ← Field.optional field Field.items? v }
  | "minimum" => return { facets with minimum := ← Field.optional field (Field.number? token) v }
  | "maximum" => return { facets with maximum := ← Field.optional field (Field.number? token) v }
  | "pattern" =>
    return { facets with pattern := (← Field.optional field Value.text? v).map .ofText }
  | "min_items" => return { facets with minItems := ← Field.optional field Field.count? v }
  | "max_items" => return { facets with maxItems := ← Field.optional field Field.count? v }
  | "is_example" => return { facets with isExample := ← Field.expect field flag? v }
  | "resolvable" => return { facets with resolvable := ← Field.expect field flag? v }
  | "direct_resolve_as" => return { facets with resolveAs := ← Field.optional field Value.text? v }
  | "description" => return { facets with description := ← Field.expect field Value.text? v }
  | "documentation_link" =>
    return { facets with documentation := ← Field.optional field Value.text? v }
  | _ => return facets

mutual

/-- Reads a leaf from the mapping of its fields. -/
def ofValue (token : Nat) : Value → Except Fault Leaf
  | .mapping _ entries => ofEntries token {} entries
  | _ => .error (.invalidField "leaf")

def ofEntries (token : Nat) (leaf : Leaf) : List (Scalar × Value) → Except Fault Leaf
  | [] => .ok leaf
  | (.text "items", v) :: rest => do
    match v with
    | .scalar .null => ofEntries token { leaf with items := none } rest
    | v => ofEntries token { leaf with items := some (← ofValue token v) } rest
  | (.text "additional_properties", v) :: rest => do
    match v with
    | .scalar .null => ofEntries token { leaf with entries := none } rest
    | v => ofEntries token { leaf with entries := some (← ofValue token v) } rest
  | (.text field, v) :: rest => do
    ofEntries token { leaf with toFacets := ← setFacet token leaf.toFacets field v } rest
  | _ :: rest => ofEntries token leaf rest

end

end ShapeLint.Leaf
