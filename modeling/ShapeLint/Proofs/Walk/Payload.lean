import ShapeLint.Proofs.Walk.Locality
import ShapeLint.Proofs.Walk.Lockstep
import ShapeLint.Proofs.Walk.Verbatim

/-!
Payloads. Two documents that differ only in a value that no rule looks at are walked alike: the
walks report the same and ask for the same pointers, or fail alike. Main statement:
`Holed.outcome_document`.
-/
namespace ShapeLint

/-- What a leaf accepts, it accepts wherever it stands. -/
theorem Leaf.check_eq_nil_of_append {leaf : Leaf} {v : Value} {outer : Path} {step : Step}
    {typeName : String} (h : leaf.check v (outer ++ [step]) typeName = .ok []) :
    leaf.check v [step] typeName = .ok [] := by
  rw [leaf.check_append typeName outer v (List.cons_ne_nil step [])] at h
  cases hown : leaf.check v [step] typeName with
  | error fault => simp [hown, Except.map] at h
  | ok own => simpa [hown, Except.map] using h

namespace Walk

/-- Nodes that a walk may come to, with the types that they are visited as, whatever it has asked
before. -/
inductive Meets (s : Surroundings) (root : Value) (start : String) : Value → String → Prop where
  | start : Meets s root start root start
  | child {node v : Value} {type childType : String} {d : Descriptor} {step : Step}
      (met : Meets s root start node type) (child : Child s.registry node type d step v)
      (ruled : rulingAt d step v = .ok (.reference childType)) :
      Meets s root start v childType
  | pointer {node target : Value} {type pointer : String} {answers : PointerAnswers}
      {asked : List Value} (met : Meets s root start node type)
      (stands : pointerOf? node = some pointer) (given : s.answers = some answers)
      (answered : answers asked (.text pointer) = .ok target) : Meets s root start target type
  | direct {node v target : Value} {type targetType : String} {d : Descriptor} {step : Step}
      {leaf : Leaf} {answers : PointerAnswers} {asked : List Value}
      (met : Meets s root start node type) (child : Child s.registry node type d step v)
      (ruled : rulingAt d step v = .ok (.leaf leaf))
      (accepted : leaf.check v [step] d.name = .ok [])
      (direct : nonempty? leaf.resolveAs = some targetType) (given : s.answers = some answers)
      (answered : answers asked v = .ok target) (mapping : target.isMapping) :
      Meets s root start target targetType

/-- A document one of whose containers has a hole, wherever that container stands in the document
and in the targets of pointers. -/
structure Holed where
  registry : Registry
  answers : Option PointerAnswers := none
  root : Value
  start : String
  frame : Frame

namespace Holed

variable (c : Holed)

/-- The document with a value in the hole. -/
def document (x : Value) : Value := c.frame.filled x c.root

/-- Pointers lead to the same objects, with that value in the hole. -/
def surroundings (x : Value) : Surroundings where
  registry := c.registry
  answers := c.answers.map fun answers => answers.map (c.frame.filled x)

/-- Nodes that the walk of the document may come to. -/
abbrev Met (x : Value) : Value → String → Prop := Meets (c.surroundings x) (c.document x) c.start

/-- No rule looks at what stands in the hole, wherever the walk comes to the container of the hole
or to a value that a leaf checks and that holds the container. -/
structure Overlooks (old new : Value) : Prop where
  key : c.frame.step ≠ .key "$ref"
  ruled : ∀ {type d}, c.Met old (c.frame.fill old) type →
    Child c.registry (c.frame.fill old) type d c.frame.step old → ∀ x ∈ [old, new],
      ∃ ruling, rulingAt d c.frame.step x = .ok ruling ∧ ruling.overlooks
  leaf : ∀ {node type d step v leaf}, c.Met old node type → Child c.registry node type d step v →
    rulingAt d step v = .ok (.leaf leaf) → 0 < v.occurrences c.frame.identity →
      leaf.Overlooks c.frame.identity v ∧
        (leaf.check v [step] d.name = .ok [] → nonempty? leaf.resolveAs = none)

variable {c} {old new node node' v v' : Value} {type : String} {d : Descriptor} {step : Step}
  {below below' : Visit}

/-- Nodes that the two walks come to together. -/
def Together (c : Holed) (old new node node' : Value) (type : String) : Prop :=
  c.Met old node type ∧ c.frame.Alike old new node node'

/-- The visits below go along together. -/
def Accompany (c : Holed) (old new : Value) (below below' : Visit) : Prop :=
  ∀ {node node' type} path, c.Together old new node node' type →
    Lockstep (below node type path) (below' node' type path)

/-- Both walks follow a pointer to what it leads to. -/
theorem lockstep_follow (hbelow : c.Accompany old new below below') {direct : Bool}
    {pointer : Value} (path : Path)
    (met : ∀ a asked target, c.answers = some a → a asked pointer = .ok target →
      (direct = true → (c.frame.filled old target).isMapping) →
        c.Met old (c.frame.filled old target) type) :
    Lockstep (follow (c.surroundings old) below direct pointer type path)
      (follow (c.surroundings new) below' direct pointer type path) := by
  refine Walk.lockstep_follow fun a asked target given answered => ?_
  have alike := c.frame.alike_filled old new target
  refine lockstep_targetActions (Value.eq_null_congr alike.hollow)
    (Value.isMapping_congr alike.hollow) fun fit => ?_
  exact hbelow path ⟨met a asked target given answered fit, alike⟩

theorem answers_surroundings {a : PointerAnswers} {asked : List Value} {pointer target : Value}
    (given : c.answers = some a) (answered : a asked pointer = .ok target) (x : Value) :
    (c.surroundings x).answers = some (a.map (c.frame.filled x)) ∧
      a.map (c.frame.filled x) asked pointer = .ok (c.frame.filled x target) := by
  simp [surroundings, given, PointerAnswers.map, answered, Except.map]

/-- A leaf finds the same in both documents. -/
theorem check_alike (h : c.Overlooks old new) (met : c.Met old node type)
    (child : Child c.registry node type d step v) (alike : c.frame.Alike old new v v') {leaf : Leaf}
    (ruled : rulingAt d step v = .ok (.leaf leaf)) (path : Path) :
    leaf.check v' path d.name = leaf.check v path d.name := by
  by_cases hv : v.occurrences c.frame.identity = 0
  · rw [alike.eq_of_occurrences hv]
  · exact leaf.check_alike (h.leaf met child ruled (Nat.pos_of_ne_zero hv)).1 alike path d.name

theorem lockstep_leafActions (h : c.Overlooks old new) (hbelow : c.Accompany old new below below')
    (met : c.Met old node type) (child : Child c.registry node type d step v)
    (alike : c.frame.Alike old new v v') {leaf : Leaf}
    (ruled : rulingAt d step v = .ok (.leaf leaf)) (path : Path) :
    Lockstep (performAll (c.surroundings old) below (leafActions d leaf v (path ++ [step])))
      (performAll (c.surroundings new) below' (leafActions d leaf v' (path ++ [step]))) := by
  unfold leafActions
  rw [check_alike h met child alike ruled]
  cases checked : leaf.check v (path ++ [step]) d.name with
  | error fault => exact lockstep_cons (lockstep_throw fault) lockstep_nil
  | ok found =>
    refine lockstep_cons (lockstep_report found) ?_
    cases direct : nonempty? leaf.resolveAs with
    | none => exact lockstep_nil
    | some targetType =>
      cases found with
      | cons first rest => exact lockstep_nil
      | nil =>
        have accepted := Leaf.check_eq_nil_of_append checked
        -- A direct pointer is the same in both documents.
        have apart : v.occurrences c.frame.identity = 0 := by
          by_contra hv
          have none := (h.leaf met child ruled (Nat.pos_of_ne_zero hv)).2 accepted
          rw [none] at direct
          contradiction
        rw [alike.eq_of_occurrences apart]
        refine lockstep_cons (lockstep_follow hbelow _ ?_) lockstep_nil
        intro a asked target given answered mapping
        obtain ⟨given, answered⟩ := answers_surroundings given answered old
        exact .direct met child ruled accepted direct given answered (mapping rfl)

/-- Both walks do the same with a child. -/
theorem lockstep_childActions (h : c.Overlooks old new) (discreet : d.Discreet)
    (hbelow : c.Accompany old new below below') (met : c.Met old node type)
    (child : Child c.registry node type d step v) (alike : c.frame.Alike old new v v')
    (path : Path) :
    Lockstep (performAll (c.surroundings old) below (childActions d path step v))
      (performAll (c.surroundings new) below' (childActions d path step v')) := by
  unfold childActions
  rw [← rulingAt_congr (discreet.ruling alike.hollow (stepKey step))]
  cases ruled : rulingAt d step v with
  | error fault => exact lockstep_cons (lockstep_throw fault) lockstep_nil
  | ok ruling =>
    refine lockstep_cons (lockstep_log _ _) ?_
    cases ruling with
    | rejected => exact lockstep_cons (lockstep_report _) lockstep_nil
    | reference childType =>
      exact lockstep_cons (hbelow _ ⟨.child met child ruled, alike⟩) lockstep_nil
    | leaf leaf => exact lockstep_leafActions h hbelow met child alike ruled path
    | unvalidated why => exact lockstep_nil
    | extension => exact lockstep_nil

/-- Both walks do the same with members that pair up. -/
theorem lockstep_members (h : c.Overlooks old new) (discreet : d.Discreet)
    (hbelow : c.Accompany old new below below') (met : c.Met old node type)
    {members members' : List (Step × Value)}
    (children : ∀ m ∈ members, Child c.registry node type d m.1 m.2)
    (alike : List.Forall₂ (fun m m' => m.1 = m'.1 ∧ c.frame.Alike old new m.2 m'.2) members
      members') (path : Path) :
    Lockstep
      (performAll (c.surroundings old) below
        (members.flatMap fun (step, v) => childActions d path step v))
      (performAll (c.surroundings new) below'
        (members'.flatMap fun (step, v) => childActions d path step v)) := by
  induction alike with
  | nil => exact lockstep_nil
  | @cons member member' members members' hmember _ ih =>
    obtain ⟨step, v⟩ := member
    obtain ⟨_, v'⟩ := member'
    obtain ⟨rfl, halike⟩ := hmember
    obtain ⟨hchild, hchildren⟩ := List.forall_mem_cons.mp children
    rw [List.flatMap_cons, List.flatMap_cons]
    exact lockstep_append (lockstep_childActions h discreet hbelow met hchild halike path)
      (ih hchildren)

theorem members?_congr (kind : node.hollow = node'.hollow)
    (shape : members? d node = some node.members) : members? d node' = some node'.members := by
  cases node <;> cases node' <;> simp_all [Value.hollow, members?, Value.members]

/-- Both walks do the same at the container of the hole. -/
theorem lockstep_carrier (h : c.Overlooks old new) (discreet : d.Discreet)
    (hbelow : c.Accompany old new below below') (met : c.Met old (c.frame.fill old) type)
    (child : Child c.registry (c.frame.fill old) type d c.frame.step old) (path : Path) :
    Lockstep
      (performAll (c.surroundings old) below (checkActions (d.checkNode (c.frame.fill old) path)
        ++ (c.frame.fill old).members.flatMap fun (step, v) => childActions d path step v))
      (performAll (c.surroundings new) below' (checkActions (d.checkNode (c.frame.fill new) path)
        ++ (c.frame.fill new).members.flatMap fun (step, v) => childActions d path step v)) := by
  obtain ⟨ruling, ruled, overlooked⟩ := h.ruled met child old (by simp)
  obtain ⟨ruling', ruled', overlooked'⟩ := h.ruled met child new (by simp)
  have checks := discreet.payload (rulingAt_eq_ok.mp ruled).2 overlooked new path
  refine lockstep_append (lockstep_checkActions checks) ?_
  -- The members in front of the hole and behind it are the same in both containers.
  have members : ∀ ms : List (Step × Value), ms ⊆ (c.frame.fill old).members →
      Lockstep
        (performAll (c.surroundings old) below
          (ms.flatMap fun (step, v) => childActions d path step v))
        (performAll (c.surroundings new) below'
          (ms.flatMap fun (step, v) => childActions d path step v)) := by
    intro ms hms
    have children : ∀ m ∈ ms, Child c.registry (c.frame.fill old) type d m.1 m.2 :=
      fun m hm => { child with member := hms hm }
    refine lockstep_members h discreet hbelow met children ?_ path
    exact List.forall₂_same.mpr fun m _ => ⟨rfl, .same m.2⟩
  rw [c.frame.members_fill] at members ⊢
  rw [c.frame.members_fill, List.flatMap_append, List.flatMap_append, List.flatMap_cons,
    List.flatMap_cons]
  refine lockstep_append (members _ (by simp)) (lockstep_append ?_ (members _ (by simp)))
  rw [performAll_overlooked ruled overlooked, performAll_overlooked ruled' overlooked']
  exact lockstep_pure

theorem pointerOf?_alike (key : c.frame.step ≠ .key "$ref")
    (alike : c.frame.Alike old new node node') : pointerOf? node = pointerOf? node' := by
  cases alike with
  | same => rfl
  | carrier => exact pointerOf?_fill (.inl key)
  | around v other =>
    rw [← Value.pointerOf?_outline, Value.outline_exchanged (c.frame.isContainer_fill old),
      ← Value.outline_exchanged (c.frame.isContainer_fill new), Value.pointerOf?_outline]

/-- Both walks do the same at nodes that they come to together. -/
theorem lockstep_nodeActions (h : c.Overlooks old new)
    (discreet : ∀ {type d}, c.registry.lookup type = .ok d → d.Discreet)
    (hbelow : c.Accompany old new below below') (path : Path)
    (together : c.Together old new node node' type) :
    Lockstep (performAll (c.surroundings old) below (nodeActions c.registry node type path))
      (performAll (c.surroundings new) below' (nodeActions c.registry node' type path)) := by
  obtain ⟨met, alike⟩ := together
  unfold nodeActions
  rw [← pointerOf?_alike h.key alike]
  cases own : pointerOf? node with
  | some pointer =>
    refine lockstep_cons (lockstep_follow hbelow path ?_) lockstep_nil
    intro a asked target given answered _
    obtain ⟨given, answered⟩ := answers_surroundings given answered old
    exact .pointer met own given answered
  | none =>
    cases defined : c.registry.lookup type with
    | error fault => exact lockstep_cons (lockstep_throw fault) lockstep_nil
    | ok d =>
      simp only [shapeActions]
      cases shape : members? d node with
      | none =>
        have shape' : members? d node' = none := by
          by_contra hsome
          obtain ⟨members, hmembers⟩ := Option.ne_none_iff_exists'.mp hsome
          obtain rfl := members?_eq hmembers
          rw [members?_congr alike.hollow.symm hmembers] at shape
          contradiction
        rw [shape']
        simp only [typeMismatch, Value.typeName_congr alike.hollow]
        exact lockstep_cons (lockstep_report _) lockstep_nil
      | some members =>
        obtain rfl := members?_eq shape
        rw [members?_congr alike.hollow shape]
        have child : ∀ m ∈ node.members, Child c.registry node type d m.1 m.2 :=
          fun m hm => ⟨own, defined, shape, hm⟩
        -- Only at the container of the hole itself do the children differ at first hand.
        cases alike with
        | same =>
          refine lockstep_append (lockstep_checkActions rfl) ?_
          refine lockstep_members h (discreet defined) hbelow met child ?_ path
          exact List.forall₂_same.mpr fun m _ => ⟨rfl, .same m.2⟩
        | carrier =>
          exact lockstep_carrier h (discreet defined) hbelow met
            (child _ (c.frame.mem_members_fill old)) path
        | around v other =>
          refine lockstep_append (lockstep_checkActions ((discreet defined).keys ?_ path)) ?_
          · rw [Value.outline_exchanged (c.frame.isContainer_fill old),
              Value.outline_exchanged (c.frame.isContainer_fill new)]
          · exact lockstep_members h (discreet defined) hbelow met child
              (Frame.Alike.members_around c.frame old new v) path

/-- The walks of the two documents come to the same: they fail alike or report the same, ask for the
same pointers and mark the same containers. -/
theorem outcome_document (h : c.Overlooks old new)
    (discreet : ∀ {type d}, c.registry.lookup type = .ok d → d.Discreet) (depth : Nat)
    (path : Path) :
    outcome (visit (c.surroundings old) depth (c.document old) c.start path) {} =
      outcome (visit (c.surroundings new) depth (c.document new) c.start path) {} := by
  have hvisit : c.Accompany old new (visit (c.surroundings old) depth)
      (visit (c.surroundings new) depth) := by
    intro node node' type path together
    refine lockstep_visit (fun together => together.2.identity?) ?_ depth path together
    intro below below' hbelow node node' type path together
    exact lockstep_nodeActions h discreet hbelow path together
  exact hvisit path ⟨.start, c.frame.alike_filled old new c.root⟩ rfl

end Holed

end Walk

end ShapeLint
