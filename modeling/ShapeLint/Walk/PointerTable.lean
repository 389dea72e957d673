import ShapeLint.Walk.Traversal

/-!
Pointer answers given as data: a table of targets and the document that local pointers are looked
up in. With a table the walk needs no bound from outside, as the number of containers, types and
pointers bounds how deep visits can be nested.
-/
namespace ShapeLint

structure PointerTable where
  /-- Targets by pointer. A null target is none. -/
  targets : List (String × Value) := []
  /-- Whether each question to the table is answered with a new copy of the target. -/
  renewing : Bool := false
  /-- The document that local pointers lead into, if they are to be followed. -/
  document : Option Value := none
  /-- Containers of targets are numbered from here on, those of the document below. -/
  firstIdentity : Nat := 0
  /-- How many identities the targets take up together. -/
  identities : Nat := 0

namespace PointerTable

/-- The table comes before the document; pointers that are no texts lead nowhere. -/
def answers (t : PointerTable) : PointerAnswers := fun asked pointer =>
  match pointer.text? with
  | none => .ok .null
  | some pointer =>
    match t.targets.lookup pointer with
    | some target =>
      .ok (if t.renewing then target.renewed t.firstIdentity ((asked.length + 1) * t.identities)
        else target)
    | none => .ok ((t.document.bind (Value.localTarget? pointer)).getD .null)

end PointerTable

namespace Walk

/-- A bound on the nesting of visits. Along one chain of nested visits a container of the document
is entered once per type, and between two such entries a pointer to a new copy is followed once per
type, unless the copies go on without end. -/
def nestingBound (r : Registry) (node : Value) (table : Option PointerTable) : Nat :=
  let targets := (table.map fun t => t.targets.map Prod.snd).getD []
  let document := ((table.bind PointerTable.document).map Value.containers).getD 0
  let containers := node.containers + document + Value.containersOfItems targets
  let places := (containers + targets.length + 1) * (r.size + 1)
  places * places * places + 2

/-- Walks a node as a type. -/
def walk (r : Registry) (table : Option PointerTable) (node : Value) (type : String)
    (path : Path) : Walk Unit :=
  visit { registry := r, answers := table.map PointerTable.answers }
    (nestingBound r node table) node type path

end Walk

end ShapeLint
