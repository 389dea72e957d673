import ShapeLint.Fault
import ShapeLint.Pattern.Grammar

/-!
Leaf constraints: the facts that a terminal value is checked against. A leaf with no facet set
admits every value.
-/
namespace ShapeLint

/-- A pattern that texts are searched for: how it is written, and the search that it stands for
unless it cannot be read. Leaves and walks rely on no particular search. -/
structure TextPattern where
  written : String
  search? : Option (String → Bool)

/-- The pattern that a text is read as. -/
def TextPattern.ofText (written : String) : TextPattern :=
  ⟨written, (Pattern.ofText? written).map Pattern.occursIn⟩

/-- The facets of a leaf that concern one value alone. -/
structure Facets where
  /-- `string`, `number`, `integer`, `boolean`, `array`, `object` or `null`. -/
  type : Option String := none
  choices : Option (List Value) := none
  minimum : Option Binary64 := none
  maximum : Option Binary64 := none
  pattern : Option TextPattern := none
  minItems : Option Int := none
  maxItems : Option Int := none
  /-- An example is checked against the type only. -/
  isExample : Bool := false
  /-- A subtree that is not resolvable is accepted as it stands. -/
  resolvable : Bool := true
  /-- The type that the target of a pointer must be read as. -/
  resolveAs : Option String := none
  description : String := ""
  documentation : Option String := none

/-- Facets, with leaves for the items of a list and for the values of a mapping. -/
structure Leaf extends Facets where
  items : Option Leaf := none
  entries : Option Leaf := none

/-- Texts that are set and not empty. -/
def nonempty? (s : Option String) : Option String := s.filter fun s => !s.isEmpty

namespace Leaf

def sameBound (a b : Option Binary64) : Bool :=
  match a, b with
  | some x, some y => Scalar.float x == Scalar.float y
  | none, none => true
  | _, _ => false

def sameFacets (a b : Facets) : Bool :=
  a.type == b.type
    && (match a.choices, b.choices with
      | some xs, some ys => Value.sameItems xs ys
      | none, none => true
      | _, _ => false)
    && sameBound a.minimum b.minimum && sameBound a.maximum b.maximum
    && a.pattern.map TextPattern.written == b.pattern.map TextPattern.written
    && a.minItems == b.minItems && a.maxItems == b.maxItems
    && a.isExample == b.isExample && a.resolvable == b.resolvable && a.resolveAs == b.resolveAs
    && a.description == b.description && a.documentation == b.documentation

/-- Leaves are the same when they are so field by field. -/
def same : Leaf → Leaf → Bool
  | ⟨facets, items, entries⟩, ⟨facets', items', entries'⟩ =>
    sameFacets facets facets'
      && (match items, items' with
        | some leaf, some leaf' => same leaf leaf'
        | none, none => true
        | _, _ => false)
      && (match entries, entries' with
        | some leaf, some leaf' => same leaf leaf'
        | none, none => true
        | _, _ => false)

/-- The types that pointers under this leaf are read as: its own, then those of its item leaf and
of its entry leaf. -/
def targets : Leaf → List String
  | ⟨facets, items, entries⟩ =>
    (nonempty? facets.resolveAs).toList
      ++ (match items with
        | some leaf => targets leaf
        | none => [])
      ++ (match entries with
        | some leaf => targets leaf
        | none => [])

end Leaf

end ShapeLint
