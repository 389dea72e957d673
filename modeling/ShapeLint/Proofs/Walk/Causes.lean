import ShapeLint.Proofs.Document.Routes
import ShapeLint.Proofs.Walk.Actions

/-! Why a visit does what it does: from each of its actions back to the node, its members and the
rules that apply to them. Main statement: `does_of_mem`. -/
namespace ShapeLint

namespace Walk

theorem members?_eq {d : Descriptor} {node : Value} {members : List (Step × Value)}
    (h : members? d node = some members) : members = node.members := by
  cases node with
  | list identity xs =>
    simp only [members?, Option.ite_none_right_eq_some] at h
    exact (Option.some.inj h.2).symm
  | mapping identity es =>
    simp only [members?, Option.ite_none_left_eq_some] at h
    exact (Option.some.inj h.2).symm
  | _ => contradiction

/-- A member that a visit of a node as a type looks at, by the rules of a descriptor. -/
structure Child (r : Registry) (node : Value) (type : String) (d : Descriptor) (step : Step)
    (v : Value) : Prop where
  own : pointerOf? node = none
  defined : r.lookup type = .ok d
  shape : members? d node = some node.members
  member : (step, v) ∈ node.members

/-- Why violations are reported in the visit of a node as a type. -/
inductive Cause (r : Registry) (node : Value) (type : String) (path : Path) :
    List Violation → Prop where
  | shape {d : Descriptor} (own : pointerOf? node = none) (defined : r.lookup type = .ok d)
      (misfit : members? d node = none) :
      Cause r node type path [typeMismatch (expectedType d) node d.name path]
  | keys {d : Descriptor} {found : List Violation} (own : pointerOf? node = none)
      (defined : r.lookup type = .ok d) (checked : (d.checkNode node path).outcome = .ok found) :
      Cause r node type path found
  | rejected {d : Descriptor} {step : Step} {v : Value} (child : Child r node type d step v)
      (ruled : rulingAt d step v = .ok .rejected) :
      Cause r node type path [unknownKey d step.text (path ++ [step])]
  | leaf {d : Descriptor} {step : Step} {v : Value} {leaf : Leaf} {found : List Violation}
      (child : Child r node type d step v) (ruled : rulingAt d step v = .ok (.leaf leaf))
      (checked : leaf.check v (path ++ [step]) d.name = .ok found) : Cause r node type path found

/-- What a visit of a node as a type may do, and why. -/
inductive Does (r : Registry) (node : Value) (type : String) (path : Path) : Action → Prop where
  | log (records : List LogRecord) : Does r node type path (.log records)
  | fail (fault : Fault) : Does r node type path (.fail fault)
  | report {found : List Violation} (cause : Cause r node type path found) :
      Does r node type path (.report found)
  | standIn {pointer : String} (stands : pointerOf? node = some pointer) :
      Does r node type path (.follow false (.text pointer) type path)
  | visit {d : Descriptor} {step : Step} {v : Value} {childType : String}
      (child : Child r node type d step v)
      (ruled : rulingAt d step v = .ok (.reference childType)) :
      Does r node type path (.visit v childType (path ++ [step]))
  | direct {d : Descriptor} {step : Step} {v : Value} {leaf : Leaf} {target : String}
      (child : Child r node type d step v) (ruled : rulingAt d step v = .ok (.leaf leaf))
      (accepted : leaf.check v (path ++ [step]) d.name = .ok [])
      (direct : nonempty? leaf.resolveAs = some target) :
      Does r node type path (.follow true v target (path ++ [step]))

section Inversion

variable {r : Registry} {node v : Value} {type : String} {path : Path} {d : Descriptor}
  {step : Step} {a : Action}

theorem does_of_leafActions {leaf : Leaf} (child : Child r node type d step v)
    (ruled : rulingAt d step v = .ok (.leaf leaf))
    (h : a ∈ leafActions d leaf v (path ++ [step])) : Does r node type path a := by
  unfold leafActions at h
  cases checked : leaf.check v (path ++ [step]) d.name with
  | error fault =>
    simp only [checked, List.mem_singleton] at h
    exact h ▸ .fail fault
  | ok found =>
    simp only [checked, List.mem_cons] at h
    rcases h with rfl | h
    · exact .report (.leaf child ruled checked)
    · cases target : nonempty? leaf.resolveAs with
      | none => simp [target] at h
      | some type' =>
        cases found with
        | nil =>
          simp only [target, List.isEmpty_nil, if_true, List.mem_singleton] at h
          exact h ▸ .direct child ruled checked target
        | cons first rest => simp [target] at h

theorem does_of_childActions (child : Child r node type d step v)
    (h : a ∈ childActions d path step v) : Does r node type path a := by
  unfold childActions at h
  cases ruled : rulingAt d step v with
  | error fault =>
    simp only [ruled, List.mem_singleton] at h
    exact h ▸ .fail fault
  | ok ruling =>
    simp only [ruled, List.mem_cons] at h
    rcases h with rfl | h
    · exact .log _
    · cases ruling with
      | rejected =>
        simp only [rulingActions, List.mem_singleton] at h
        exact h ▸ .report (.rejected child ruled)
      | reference childType =>
        simp only [rulingActions, List.mem_singleton] at h
        exact h ▸ .visit child ruled
      | leaf leaf => exact does_of_leafActions child ruled h
      | unvalidated why => simp [rulingActions] at h
      | extension => simp [rulingActions] at h

theorem does_of_checkActions (own : pointerOf? node = none) (defined : r.lookup type = .ok d)
    (h : a ∈ checkActions (d.checkNode node path)) : Does r node type path a := by
  simp only [checkActions, List.mem_cons, List.not_mem_nil, or_false] at h
  rcases h with rfl | rfl
  · exact .log _
  · cases checked : (d.checkNode node path).outcome with
    | error fault => exact .fail fault
    | ok found => exact .report (.keys own defined checked)

/-- Whatever a visit does has one of these reasons. -/
theorem does_of_mem (h : a ∈ nodeActions r node type path) : Does r node type path a := by
  unfold nodeActions at h
  cases stands : pointerOf? node with
  | some pointer =>
    simp only [stands, List.mem_singleton] at h
    exact h ▸ .standIn stands
  | none =>
    simp only [stands] at h
    cases defined : r.lookup type with
    | error fault =>
      simp only [defined, List.mem_singleton] at h
      exact h ▸ .fail fault
    | ok d =>
      simp only [defined, shapeActions] at h
      cases shape : members? d node with
      | none =>
        simp only [shape, List.mem_singleton] at h
        exact h ▸ .report (.shape stands defined shape)
      | some members =>
        obtain rfl := members?_eq shape
        simp only [shape, List.mem_append, List.mem_flatMap] at h
        rcases h with h | ⟨⟨step, v⟩, member, h⟩
        · exact does_of_checkActions stands defined h
        · exact does_of_childActions ⟨stands, defined, shape, member⟩ h

/-- Only containers have members to look at. -/
theorem Child.container (h : Child r node type d step v) : node.isContainer := by
  have shape := h.shape
  cases node <;> simp_all [members?, Value.isContainer, Value.identity?]

end Inversion

end Walk

end ShapeLint
