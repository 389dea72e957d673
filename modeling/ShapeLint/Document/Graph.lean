import ShapeLint.Document.Value

/-!
Documents as graphs. Containers stand inside each other by their identities, so that one may stand
at several places, also inside itself. What can be seen of a container is a value: its members,
their members and so on, down to so many containers; the containers there are seen without members.
-/
namespace ShapeLint

/-- What stands at a place inside a container. -/
inductive Part (ι : Type) where
  | scalar (s : Scalar)
  | tuple (parts : List (Part ι))
  | container (identity : ι)

inductive Contents (ι : Type) where
  | list (parts : List (Part ι))
  | mapping (entries : List (Scalar × Part ι))

/-- Finitely many containers. -/
structure Graph where
  size : Nat
  contents : Fin size → Contents (Fin size)

namespace Part

variable {ι : Type}

mutual

/-- A part as a value, given what is seen of the containers. -/
def value (see : ι → Value) : Part ι → Value
  | scalar s => .scalar s
  | tuple parts => .tuple (values see parts)
  | container identity => see identity

def values (see : ι → Value) : List (Part ι) → List Value
  | [] => []
  | part :: parts => value see part :: values see parts

end

end Part

namespace Graph

/-- A container as it is seen down to so many containers below it. -/
def seen (g : Graph) : Nat → Fin g.size → Value
  | 0, i =>
    match g.contents i with
    | .list _ => .list i []
    | .mapping _ => .mapping i []
  | levels + 1, i =>
    match g.contents i with
    | .list parts => .list i (Part.values (g.seen levels) parts)
    | .mapping entries =>
      .mapping i (entries.map fun (key, part) => (key, part.value (g.seen levels)))

/-- A value with its members in view, and so many containers below them, if it is one of the
containers. -/
def opened (g : Graph) (levels : Nat) : Value → Value
  | .list i xs => if h : i < g.size then g.seen (levels + 1) ⟨i, h⟩ else .list i xs
  | .mapping i es => if h : i < g.size then g.seen (levels + 1) ⟨i, h⟩ else .mapping i es
  | v => v

end Graph

end ShapeLint
