import ShapeLint.Proofs.Placement
import ShapeLint.Proofs.Walk.Actions

/-! What a walk can come to. With pointers that keep their targets, the containers that can be
reached and the types they are reached as are a relation of their own: it is the one by which the
actions of visits lead on. -/
namespace ShapeLint

/-- Pointers that are answered the same every time. -/
def PointerAnswers.fixed (target : Value → Value) : PointerAnswers :=
  fun _ pointer => .ok (target pointer)

namespace Walk

section Semantics

variable (r : Registry) (resolve : Option (Value → Value))

/-- The containers that a walk goes on to from a container, with their types. -/
inductive Next (node : Value) (type : String) : Value → String → Prop where
  | child {d : Descriptor} {members : List (Step × Value)} {step : Step} {v : Value}
      {childType : String} (own : pointerOf? node = none) (defined : r.lookup type = .ok d)
      (shape : members? d node = some members) (member : (step, v) ∈ members)
      (ruled : rulingAt d step v = .ok (.reference childType))
      (container : v.isContainer) : Next node type v childType
  | pointer {pointer : String} {target : Value → Value} (stands : pointerOf? node = some pointer)
      (answered : resolve = some target) (container : (target (.text pointer)).isContainer) :
      Next node type (target (.text pointer)) type
  | direct {d : Descriptor} {members : List (Step × Value)} {step : Step} {v : Value} {leaf : Leaf}
      {targetType : String} {target : Value → Value} (own : pointerOf? node = none)
      (defined : r.lookup type = .ok d) (shape : members? d node = some members)
      (member : (step, v) ∈ members) (ruled : rulingAt d step v = .ok (.leaf leaf))
      (accepted : leaf.check v [step] d.name = .ok [])
      (direct : nonempty? leaf.resolveAs = some targetType) (answered : resolve = some target)
      (mapping : (target v).isMapping) : Next node type (target v) targetType

/-- The containers, with their types, that can be reached from a start. -/
inductive Reachable (root : Value) (start : String) : Value → String → Prop where
  | start : Reachable root start root start
  | next {node v : Value} {type type' : String} (reached : Reachable root start node type)
      (step : Next r resolve node type v type') : Reachable root start v type'

/-- Identities tell reachable containers apart. -/
def Coherent (root : Value) (start : String) : Prop :=
  ∀ {a b : Value} {type type' : String}, Reachable r resolve root start a type →
    Reachable r resolve root start b type' → a.identity? = b.identity? → a = b

/-- The container that an action leads to, with its type. -/
inductive Action.LeadsTo : Action → Value → String → Prop where
  | visit {v : Value} {type : String} {path : Path} (container : v.isContainer) :
      LeadsTo (.visit v type path) v type
  | follow {direct : Bool} {pointer : Value} {type : String} {path : Path}
      {target : Value → Value} (answered : resolve = some target)
      (container : (target pointer).isContainer)
      (fit : direct = true → (target pointer).isMapping) :
      LeadsTo (.follow direct pointer type path) (target pointer) type

end Semantics

section Links

variable {r : Registry} {resolve : Option (Value → Value)}

/-- Only containers lead on. -/
theorem Next.container {node v : Value} {type type' : String}
    (h : Next r resolve node type v type') : node.isContainer := by
  have of_members : ∀ {d members}, members? d node = some members → node.isContainer := by
    intro d members shape
    cases node <;> simp_all [members?, Value.isContainer, Value.identity?]
  cases h with
  | child own defined shape => exact of_members shape
  | pointer stands => cases node <;> simp_all [pointerOf?, Value.isContainer, Value.identity?]
  | direct own defined shape => exact of_members shape

@[simp] theorem not_leadsTo_log {records : List LogRecord} {v : Value} {type : String} :
    ¬ Action.LeadsTo resolve (.log records) v type := by
  rintro ⟨⟩

@[simp] theorem not_leadsTo_report {found : List Violation} {v : Value} {type : String} :
    ¬ Action.LeadsTo resolve (.report found) v type := by
  rintro ⟨⟩

@[simp] theorem not_leadsTo_fail {fault : Fault} {v : Value} {type : String} :
    ¬ Action.LeadsTo resolve (.fail fault) v type := by
  rintro ⟨⟩

theorem leadsTo_visit {v w : Value} {type type' : String} {path : Path} :
    Action.LeadsTo resolve (.visit v type path) w type' ↔
      w = v ∧ type' = type ∧ v.isContainer := by
  constructor
  · rintro ⟨container⟩
    exact ⟨rfl, rfl, container⟩
  · rintro ⟨rfl, rfl, container⟩
    exact .visit container

theorem leadsTo_follow {direct : Bool} {pointer w : Value} {type type' : String} {path : Path} :
    Action.LeadsTo resolve (.follow direct pointer type path) w type' ↔
      type' = type ∧ ∃ target, resolve = some target ∧ w = target pointer ∧ w.isContainer ∧
        (direct = true → w.isMapping) := by
  constructor
  · rintro ⟨⟩
    rename_i target answered container fit
    exact ⟨rfl, target, answered, rfl, container, fit⟩
  · rintro ⟨rfl, target, answered, rfl, container, fit⟩
    exact .follow answered container fit

theorem leadsTo_leafActions {d : Descriptor} {leaf : Leaf} {v w : Value} {path : Path}
    {type : String} :
    (∃ a ∈ leafActions d leaf v path, Action.LeadsTo resolve a w type) ↔
      leaf.check v path d.name = .ok [] ∧ nonempty? leaf.resolveAs = some type ∧
        ∃ target, resolve = some target ∧ w = target v ∧ w.isMapping := by
  unfold leafActions
  cases leaf.check v path d.name with
  | error fault => simp
  | ok found =>
    cases nonempty? leaf.resolveAs with
    | none => simp
    | some targetType =>
      cases found with
      | cons v found => simp
      | nil =>
        simp only [List.isEmpty_nil, if_true, List.mem_cons, List.not_mem_nil, or_false,
          exists_eq_or_imp, exists_eq_left, not_leadsTo_report, false_or, leadsTo_follow]
        constructor
        · rintro ⟨rfl, target, answered, rfl, container, fit⟩
          exact ⟨trivial, rfl, target, answered, rfl, fit trivial⟩
        · rintro ⟨-, h, target, answered, rfl, mapping⟩
          exact ⟨(Option.some.inj h).symm, target, answered, rfl,
            Value.isContainer_of_isMapping mapping, fun _ => mapping⟩

/-- The containers that a child leads to: the child itself or the target of a direct pointer. -/
theorem leadsTo_childActions {d : Descriptor} {step : Step} {v w : Value} {path : Path}
    {type : String} :
    (∃ a ∈ childActions d path step v, Action.LeadsTo resolve a w type) ↔
      rulingAt d step v = .ok (.reference type) ∧ w = v ∧ v.isContainer ∨
      ∃ leaf, rulingAt d step v = .ok (.leaf leaf) ∧
        leaf.check v [step] d.name = .ok [] ∧ nonempty? leaf.resolveAs = some type ∧
          ∃ target, resolve = some target ∧ w = target v ∧ w.isMapping := by
  unfold childActions
  cases rulingAt d step v with
  | error fault => simp
  | ok ruling =>
    cases ruling with
    | rejected => simp [rulingActions]
    | unvalidated why => simp [rulingActions]
    | extension => simp [rulingActions]
    | reference childType =>
      simp only [rulingActions, List.mem_cons, List.not_mem_nil, or_false, exists_eq_or_imp,
        exists_eq_left, not_leadsTo_log, false_or, leadsTo_visit, Except.ok.injEq,
        Ruling.reference.injEq, reduceCtorEq, false_and, exists_false]
      rw [and_left_comm, eq_comm (a := type)]
    | leaf leaf =>
      have hcheck : leaf.check v (path ++ [step]) d.name = .ok [] ↔
          leaf.check v [step] d.name = .ok [] := by
        rw [leaf.check_append d.name path v (List.cons_ne_nil step [])]
        cases leaf.check v [step] d.name <;> simp [Except.map]
      simp [rulingActions, leadsTo_leafActions, hcheck]

/-- The next containers are those that the actions of a visit lead to. -/
theorem next_iff {node v : Value} {type type' : String} (path : Path) :
    Next r resolve node type v type' ↔
      ∃ a ∈ nodeActions r node type path, Action.LeadsTo resolve a v type' := by
  constructor
  · rintro (⟨own, defined, shape, member, ruled, container⟩ | ⟨stands, answered, container⟩ |
      ⟨own, defined, shape, member, ruled, accepted, direct, answered, mapping⟩)
    · obtain ⟨a, ha, hv⟩ := leadsTo_childActions.mpr
        (.inl ⟨ruled, rfl, container⟩)
      refine ⟨a, ?_, hv⟩
      simp only [nodeActions, own, defined, shapeActions, shape, List.mem_append, List.mem_flatMap]
      exact .inr ⟨_, member, ha⟩
    · refine ⟨_, by simp only [nodeActions, stands]; exact .head _, ?_⟩
      exact .follow answered container (by simp)
    · obtain ⟨a, ha, hv⟩ := leadsTo_childActions.mpr
        (.inr ⟨_, ruled, accepted, direct, _, answered, rfl, mapping⟩)
      refine ⟨a, ?_, hv⟩
      simp only [nodeActions, own, defined, shapeActions, shape, List.mem_append, List.mem_flatMap]
      exact .inr ⟨_, member, ha⟩
  · rintro ⟨a, ha, hv⟩
    unfold nodeActions at ha
    cases stands : pointerOf? node with
    | some pointer =>
      simp only [stands, List.mem_singleton] at ha
      subst ha
      obtain ⟨rfl, target, answered, rfl, container, -⟩ := leadsTo_follow.mp hv
      exact .pointer stands answered container
    | none =>
      simp only [stands] at ha
      cases defined : r.lookup type with
      | error fault =>
        simp only [defined, List.mem_singleton] at ha
        subst ha
        exact absurd hv not_leadsTo_fail
      | ok d =>
        simp only [defined, shapeActions] at ha
        cases shape : members? d node with
        | none =>
          simp only [shape, List.mem_singleton] at ha
          subst ha
          exact absurd hv not_leadsTo_report
        | some members =>
          simp only [shape, List.mem_append, List.mem_flatMap] at ha
          rcases ha with ha | ⟨⟨step, child⟩, member, ha⟩
          · simp only [checkActions, List.mem_cons, List.not_mem_nil, or_false] at ha
            rcases ha with rfl | rfl
            · exact absurd hv not_leadsTo_log
            · cases h : (d.checkNode node path).outcome <;> simp [h] at hv
          · rcases leadsTo_childActions.mp ⟨a, ha, hv⟩ with ⟨ruled, rfl, container⟩ |
              ⟨leaf, ruled, accepted, direct, target, answered, rfl, mapping⟩
            · exact .child stands defined shape member ruled container
            · exact .direct stands defined shape member ruled accepted direct answered mapping

end Links

end Walk

end ShapeLint
