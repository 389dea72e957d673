import ShapeLint.Proofs.Descriptor.KeyFindings
import ShapeLint.Proofs.Leaf.Places
import ShapeLint.Proofs.Placement
import ShapeLint.Proofs.Walk.Survey

/-! Nodes that are moved. Below a further path a visit does the same, with the path put in front of
all places; only a type mismatch of the node itself takes the key of its new place. Main statement:
`Surveys.of_relocated`. -/
namespace ShapeLint

/-- A violation found below a further path, whose last step leads to the node visited. -/
def Violation.relocated (outer : Path) (x : Violation) : Violation :=
  { x with
    path := outer ++ x.path
    key := if x.code = .typeMismatch ∧ x.path = [] then outer.lastKey? else x.key }

theorem Violation.relocated_eq_under {outer : Path} {x : Violation}
    (h : x.code ≠ .typeMismatch ∨ x.path ≠ []) : x.relocated outer = x.under outer := by
  have hkey : ¬ (x.code = .typeMismatch ∧ x.path = []) := fun ⟨hcode, hpath⟩ =>
    h.elim (absurd hcode) (absurd hpath)
  rw [relocated, under, if_neg hkey]

theorem relocated_typeMismatch (expected : String) (v : Value) (typeName : String)
    (outer path : Path) : typeMismatch expected v typeName (outer ++ path) =
      (typeMismatch expected v typeName path).relocated outer := by
  by_cases h : path = []
  · subst h
    simp [typeMismatch, Violation.relocated]
  · rw [typeMismatch_append expected v typeName outer h]
    exact (Violation.relocated_eq_under (.inr h)).symm

theorem map_relocated_of_check {leaf : Leaf} {v : Value} {typeName : String} {outer path : Path}
    {found : List Violation} (hpath : path ≠ []) (h : leaf.check v path typeName = .ok found) :
    found.map (Violation.under outer) = found.map (Violation.relocated outer) := by
  refine List.map_congr_left fun x hx => ?_
  obtain ⟨inner, w, -, hplace⟩ := (Leaf.located_of_check h hx).place
  exact (Violation.relocated_eq_under (.inr (by simp [hplace, hpath]))).symm

namespace Descriptor

variable {d : Descriptor} {node : Value} {outer path : Path}

theorem map_relocated_of_checkNode {found : List Violation}
    (h : (d.checkNode node path).outcome = .ok found) :
    found.map (Violation.under outer) = found.map (Violation.relocated outer) := by
  refine List.map_congr_left fun x hx => (Violation.relocated_eq_under (.inl ?_)).symm
  obtain ⟨identity, entries, -, hfinding⟩ := keyFinding_of_checkNode h hx
  cases hfinding with
  | missing code => simp [code]
  | missingOneOf code => simp [code]
  | disallowed _ _ eq => simp [eq, disallowed]

theorem records_checkRequired (d : Descriptor) (node : Value) (outer path : Path) :
    (d.checkRequired node (outer ++ path)).records = (d.checkRequired node path).records := by
  cases node with
  | mapping identity entries =>
    simp only [checkRequired, Journaled.records_bind]
    rfl
  | _ => rfl

theorem records_checkAllowed (d : Descriptor) (node : Value) (outer path : Path) :
    (d.checkAllowed node (outer ++ path)).records = (d.checkAllowed node path).records := by
  unfold checkAllowed
  split
  · split
    · rfl
    · split <;> rfl
  · rfl

/-- What the checks of a node log has no place in it. -/
theorem records_checkNode (d : Descriptor) (node : Value) (outer path : Path) :
    (d.checkNode node (outer ++ path)).records = (d.checkNode node path).records := by
  simp only [checkNode, Journaled.records_bind, records_checkRequired, records_checkAllowed,
    checkRequired_append, checkAllowed_append]
  cases (d.checkRequired node path).outcome with
  | error fault => rfl
  | ok missing => cases (d.checkAllowed node path).outcome <;> rfl

end Descriptor

namespace Walk

def Action.relocated (outer : Path) : Action → Action
  | .log records => .log records
  | .report found => .report (found.map (Violation.relocated outer))
  | .fail fault => .fail fault
  | .visit node type path => .visit node type (outer ++ path)
  | .follow direct pointer type path => .follow direct pointer type (outer ++ path)

variable {r : Registry} {outer : Path}

theorem leafActions_append (d : Descriptor) (leaf : Leaf) (v : Value) (outer : Path) {path : Path}
    (hpath : path ≠ []) : leafActions d leaf v (outer ++ path) =
      (leafActions d leaf v path).map (Action.relocated outer) := by
  unfold leafActions
  rw [leaf.check_append d.name outer v hpath]
  cases hcheck : leaf.check v path d.name with
  | error fault => rfl
  | ok found =>
    simp only [Except.map, map_relocated_of_check hpath hcheck, List.isEmpty_map, List.map_cons]
    cases nonempty? leaf.resolveAs with
    | none => rfl
    | some type => cases found <;> rfl

theorem childActions_append (d : Descriptor) (outer path : Path) (step : Step) (v : Value) :
    childActions d (outer ++ path) step v =
      (childActions d path step v).map (Action.relocated outer) := by
  unfold childActions
  cases rulingAt d step v with
  | error fault => rfl
  | ok ruling =>
    have hpath : path ++ [step] ≠ [] := by simp
    cases ruling with
    | leaf leaf =>
      simp only [rulingActions, List.append_assoc, List.map_cons, Action.relocated,
        leafActions_append d leaf v outer hpath]
    | rejected =>
      have hkey : unknownKey d step.text (outer ++ (path ++ [step])) =
          (unknownKey d step.text (path ++ [step])).relocated outer := by
        rw [Violation.relocated_eq_under (.inl (by simp [unknownKey]))]
        rfl
      simp [rulingActions, Action.relocated, hkey]
    | _ => simp [rulingActions, Action.relocated]

theorem nodeActions_append (r : Registry) (node : Value) (type : String) (outer path : Path) :
    nodeActions r node type (outer ++ path) =
      (nodeActions r node type path).map (Action.relocated outer) := by
  unfold nodeActions
  cases pointerOf? node with
  | some pointer => rfl
  | none =>
    cases r.lookup type with
    | error fault => rfl
    | ok d =>
      simp only [shapeActions]
      cases members? d node with
      | none => simp [Action.relocated, relocated_typeMismatch]
      | some members =>
        have hchecks : checkActions (d.checkNode node (outer ++ path)) =
            (checkActions (d.checkNode node path)).map (Action.relocated outer) := by
          unfold checkActions
          rw [d.checkNode_append outer path node, d.records_checkNode node outer path]
          cases hcheck : (d.checkNode node path).outcome with
          | error fault => rfl
          | ok found =>
            simp only [Except.map, Descriptor.map_relocated_of_checkNode hcheck]
            rfl
        simp only [hchecks, List.map_append, List.map_flatMap, childActions_append]

/-- What is found below a further path is what is found without it, relocated. -/
theorem Surveys.of_relocated {actions : List Action} {found : List Violation}
    (h : Surveys r (actions.map (Action.relocated outer)) found) :
    ∃ inner, Surveys r actions inner ∧ found = inner.map (Violation.relocated outer) := by
  generalize hmoved : actions.map (Action.relocated outer) = moved at h
  induction h generalizing actions with
  | nil =>
    obtain rfl := List.map_eq_nil_iff.mp hmoved
    exact ⟨[], .nil, rfl⟩
  | log _ ih =>
    obtain ⟨a, rest, rfl, ha, hrest⟩ := List.map_eq_cons_iff.mp hmoved
    cases a <;> simp only [Action.relocated, reduceCtorEq] at ha
    obtain ⟨inner, hinner, rfl⟩ := ih hrest
    exact ⟨inner, .log hinner, rfl⟩
  | report _ ih =>
    obtain ⟨a, rest, rfl, ha, hrest⟩ := List.map_eq_cons_iff.mp hmoved
    cases a <;> simp only [Action.relocated, Action.report.injEq, reduceCtorEq] at ha
    obtain ⟨inner, hinner, rfl⟩ := ih hrest
    exact ⟨_ ++ inner, .report hinner, by rw [← ha, List.map_append]⟩
  | visit _ _ ihnode ih =>
    obtain ⟨a, rest, rfl, ha, hrest⟩ := List.map_eq_cons_iff.mp hmoved
    cases a <;> simp only [Action.relocated, Action.visit.injEq, reduceCtorEq] at ha
    obtain ⟨rfl, rfl, rfl⟩ := ha
    obtain ⟨own, hown, rfl⟩ := ihnode (nodeActions_append r _ _ outer _).symm
    obtain ⟨inner, hinner, rfl⟩ := ih hrest
    exact ⟨own ++ inner, .visit hown hinner, by rw [List.map_append]⟩
  | follow _ ih =>
    obtain ⟨a, rest, rfl, ha, hrest⟩ := List.map_eq_cons_iff.mp hmoved
    cases a <;> simp only [Action.relocated, reduceCtorEq] at ha
    obtain ⟨inner, hinner, rfl⟩ := ih hrest
    exact ⟨inner, .follow hinner, rfl⟩

end Walk

end ShapeLint
