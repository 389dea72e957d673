import ShapeLint.Document.Graph
import ShapeLint.Proofs.Document.Containers

/-! What is seen of a container of a graph: it has the container's identity, and so have the
containers inside it, so that each of them can be opened again. -/
namespace ShapeLint

theorem Part.values_eq_map {ι : Type} (see : ι → Value) (parts : List (Part ι)) :
    Part.values see parts = parts.map (Part.value see) := by
  induction parts with
  | nil => rfl
  | cons part parts ih => rw [Part.values, ih, List.map_cons]

namespace Graph

variable {g : Graph} {levels : Nat} {v : Value}

/-- The value is one of the containers of the graph, or no container. -/
def Holds (g : Graph) (v : Value) : Prop :=
  ∀ identity, v.identity? = some identity → identity < g.size

theorem identity?_seen (levels : Nat) (i : Fin g.size) :
    (g.seen levels i).identity? = some ↑i := by
  cases levels <;> rw [seen] <;> cases g.contents i <;> rfl

/-- Whatever stands inside a container, and whatever a pointer leads to. -/
theorem holds_value (levels : Nat) (part : Part (Fin g.size)) :
    g.Holds (part.value (g.seen levels)) := by
  cases part with
  | scalar s => exact nofun
  | tuple parts => exact nofun
  | container i =>
    intro identity h
    rw [Part.value, identity?_seen] at h
    exact Option.some.inj h ▸ i.isLt

/-- A container is opened as it is seen, from wherever it is come to. -/
theorem opened_of_identity {i : Fin g.size} (h : v.identity? = some ↑i) :
    g.opened levels v = g.seen (levels + 1) i := by
  cases v with
  | scalar s => contradiction
  | tuple xs => contradiction
  | list identity xs | mapping identity es =>
    obtain rfl : identity = i := Option.some.inj h
    exact dif_pos i.isLt

theorem opened_of_not_container (h : v.identity? = none) : g.opened levels v = v := by
  cases v with
  | scalar s => rfl
  | tuple xs => rfl
  | list identity xs | mapping identity es => contradiction

theorem identity?_opened (levels : Nat) (v : Value) :
    (g.opened levels v).identity? = v.identity? := by
  cases v with
  | scalar s => rfl
  | tuple xs => rfl
  | list identity xs | mapping identity es =>
    by_cases h : identity < g.size
    · rw [opened, dif_pos h, identity?_seen]
      rfl
    · rw [opened, dif_neg h]

end Graph

end ShapeLint
