import ShapeLint.Proofs.Walk.Reachability

/-! What is wrong with a container as a type, apart from the containers it leads to, and that its
place changes nothing but the places of what is wrong. -/
namespace ShapeLint

/-- A violation without its place. The key of a type mismatch belongs to the place. -/
def Violation.unplaced (v : Violation) : Violation :=
  { v with path := [], key := if v.code = .typeMismatch then none else v.key }

@[simp] theorem Violation.unplaced_under (outer : Path) (v : Violation) :
    (v.under outer).unplaced = v.unplaced := rfl

@[simp] theorem unplaced_typeMismatch (expected : String) (v : Value) (typeName : String)
    (path : Path) : (typeMismatch expected v typeName path).unplaced =
      (typeMismatch expected v typeName []).unplaced := rfl

namespace Walk

section Semantics

variable (r : Registry) (resolve : Option (Value → Value))

/-- What is wrong with a value visited as a type if it is no container. -/
def scalarFindings (v : Value) (type : String) (path : Path) : List Violation :=
  if v.isContainer then []
  else match r.lookup type with
    | .ok d => [typeMismatch (expectedType d) v d.name path]
    | .error _ => []

/-- What is wrong with the answer to a pointer, apart from what is wrong with a fit container. -/
def targetFindings (direct : Bool) (pointer : Value) (type : String) (path : Path) :
    Value → List Violation
  | .scalar .null => [unresolved pointer type path]
  | v =>
    if direct && !v.isMapping then [unfitTarget pointer type path]
    else scalarFindings r v type path

theorem targetFindings_of_ne_null {direct : Bool} {pointer : Value} {type : String} {path : Path}
    {v : Value} (h : v ≠ .null) : targetFindings r direct pointer type path v =
      if direct && !v.isMapping then [unfitTarget pointer type path]
      else scalarFindings r v type path := by
  unfold targetFindings
  split
  · contradiction
  · rfl

def pointerFindings (direct : Bool) (pointer : Value) (type : String) (path : Path) :
    List Violation :=
  match resolve with
  | none => []
  | some target => targetFindings r direct pointer type path (target pointer)

/-- What is wrong with a child, apart from what is wrong with a container that stands there. -/
def childFindings (d : Descriptor) (path : Path) (step : Step) (v : Value) : List Violation :=
  match rulingAt d step v with
  | .ok .rejected => [unknownKey d step.text (path ++ [step])]
  | .ok (.reference type) => scalarFindings r v type (path ++ [step])
  | .ok (.leaf leaf) =>
    match leaf.check v (path ++ [step]) d.name, nonempty? leaf.resolveAs with
    | .ok [], some type => pointerFindings r resolve true v type (path ++ [step])
    | .ok found, _ => found
    | .error _, _ => []
  | _ => []

/-- What is wrong with a container as a type, apart from the containers it leads to. -/
def findings (node : Value) (type : String) (path : Path) : List Violation :=
  match pointerOf? node with
  | some pointer => pointerFindings r resolve false (.text pointer) type path
  | none =>
    match r.lookup type with
    | .error _ => []
    | .ok d =>
      match members? d node with
      | none => [typeMismatch (expectedType d) node d.name path]
      | some members => (d.checkNode node path).outcome.toOption.getD []
          ++ members.flatMap fun (step, v) => childFindings r resolve d path step v

end Semantics

section Unplaced

variable (r : Registry) (resolve : Option (Value → Value))

theorem unplaced_scalarFindings (v : Value) (type : String) (path : Path) :
    (scalarFindings r v type path).map Violation.unplaced =
      (scalarFindings r v type []).map Violation.unplaced := by
  unfold scalarFindings
  split
  · rfl
  · split <;> simp [unplaced_typeMismatch _ _ _ path]

theorem unplaced_targetFindings (direct : Bool) (pointer : Value) (type : String) (path : Path)
    (v : Value) :
    (targetFindings r direct pointer type path v).map Violation.unplaced =
      (targetFindings r direct pointer type [] v).map Violation.unplaced := by
  unfold targetFindings
  split
  · rfl
  · split
    · rfl
    · exact unplaced_scalarFindings r _ _ _

theorem unplaced_pointerFindings (direct : Bool) (pointer : Value) (type : String) (path : Path) :
    (pointerFindings r resolve direct pointer type path).map Violation.unplaced =
      (pointerFindings r resolve direct pointer type []).map Violation.unplaced := by
  unfold pointerFindings
  split
  · rfl
  · exact unplaced_targetFindings r direct pointer type path _

theorem map_unplaced_under (outer : Path) (found : List Violation) :
    (found.map (Violation.under outer)).map Violation.unplaced = found.map Violation.unplaced := by
  simp [Function.comp_def]

theorem unplaced_childFindings (d : Descriptor) (path : Path) (step : Step) (v : Value) :
    (childFindings r resolve d path step v).map Violation.unplaced =
      (childFindings r resolve d [] step v).map Violation.unplaced := by
  unfold childFindings
  cases rulingAt d step v with
  | error fault => rfl
  | ok ruling =>
    cases ruling with
    | rejected => rfl
    | reference type =>
      exact (unplaced_scalarFindings r v type _).trans (unplaced_scalarFindings r v type _).symm
    | leaf leaf =>
      have hcheck := leaf.check_append d.name path v (List.cons_ne_nil step [])
      dsimp only [List.nil_append]
      rw [hcheck]
      cases leaf.check v [step] d.name with
      | error fault => rfl
      | ok found =>
        cases found with
        | nil =>
          cases nonempty? leaf.resolveAs with
          | none => rfl
          | some type =>
            exact (unplaced_pointerFindings r resolve true v type _).trans
              (unplaced_pointerFindings r resolve true v type _).symm
        | cons v found => exact map_unplaced_under path (v :: found)
    | unvalidated why => rfl
    | extension => rfl

/-- The place of a container changes nothing but the places of what is wrong with it. -/
theorem unplaced_findings (node : Value) (type : String) (path : Path) :
    (findings r resolve node type path).map Violation.unplaced =
      (findings r resolve node type []).map Violation.unplaced := by
  unfold findings
  split
  · exact unplaced_pointerFindings r resolve false _ type path
  · split
    · rfl
    · rename_i d hd
      split
      · rfl
      · rename_i members hmembers
        have hnode := d.checkNode_append path [] node
        rw [List.append_nil] at hnode
        rw [List.map_append, List.map_append, hnode, List.map_flatMap, List.map_flatMap]
        simp only [unplaced_childFindings r resolve d path]
        congr 1
        cases (d.checkNode node []).outcome with
        | error fault => rfl
        | ok found => exact map_unplaced_under path found

end Unplaced

section Actions

variable (r : Registry) (resolve : Option (Value → Value))

/-- What an action finds wrong, apart from the containers it leads to. -/
def Action.findings : Action → List Violation
  | .report found => found
  | .visit v type path => scalarFindings r v type path
  | .follow direct pointer type path => pointerFindings r resolve direct pointer type path
  | .log _ | .fail _ => []

theorem findings_leafActions (d : Descriptor) (leaf : Leaf) (v : Value) (path : Path) :
    (leafActions d leaf v path).flatMap (Action.findings r resolve) =
      match leaf.check v path d.name, nonempty? leaf.resolveAs with
      | .ok [], some type => pointerFindings r resolve true v type path
      | .ok found, _ => found
      | .error _, _ => [] := by
  unfold leafActions
  cases leaf.check v path d.name with
  | error fault => rfl
  | ok found =>
    cases nonempty? leaf.resolveAs <;> cases found <;> simp [Action.findings]

theorem findings_childActions (d : Descriptor) (path : Path) (step : Step) (v : Value) :
    (childActions d path step v).flatMap (Action.findings r resolve) =
      childFindings r resolve d path step v := by
  unfold childActions childFindings
  cases rulingAt d step v with
  | error fault => rfl
  | ok ruling =>
    cases ruling <;> simp [Action.findings, rulingActions, findings_leafActions]

theorem findings_nodeActions (node : Value) (type : String) (path : Path) :
    (nodeActions r node type path).flatMap (Action.findings r resolve) =
      findings r resolve node type path := by
  unfold nodeActions findings
  cases pointerOf? node with
  | some pointer => simp [Action.findings]
  | none =>
    dsimp only
    cases r.lookup type with
    | error fault => simp [Action.findings]
    | ok d =>
      dsimp only [shapeActions]
      cases members? d node with
      | none => simp [Action.findings]
      | some members =>
        simp only [List.flatMap_append, List.flatMap_assoc, findings_childActions]
        cases h : (d.checkNode node path).outcome <;>
          simp [checkActions, h, Action.findings, Except.toOption]

/-- A value that is no container has no other findings. -/
theorem findings_of_not_container {v : Value} (h : v.isContainer = false) (type : String)
    (path : Path) : findings r resolve v type path = scalarFindings r v type path := by
  cases v with
  | scalar x =>
    simp only [findings, scalarFindings, pointerOf?, h]
    cases r.lookup type <;> rfl
  | tuple xs =>
    simp only [findings, scalarFindings, pointerOf?, h]
    cases r.lookup type <;> rfl
  | list identity xs => simp [Value.isContainer, Value.identity?] at h
  | mapping identity es => simp [Value.isContainer, Value.identity?] at h

end Actions

end Walk

end ShapeLint
