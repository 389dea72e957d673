import ShapeLint.Outline.Basic
import ShapeLint.Proofs.Descriptor.Frozen
import ShapeLint.Proofs.Registry.History
import ShapeLint.Proofs.Walk.Actions

/-!
Freezing changes no answer. Whatever a registry can be asked, about its names, about a child, about
the keys of a node, about the fields of a type or about a whole document, it answers alike before
and after it has been frozen. Main statement: `freeze_answersAlike`.
-/
namespace ShapeLint

/-- Two registries that cannot be told apart by asking them. A failure is an answer. -/
structure Registry.AnswersAlike (r r' : Registry) : Prop where
  names : r'.names = r.names
  validate : r'.validate = r.validate
  resolveChild (type : String) (key v : Value) :
    (r'.lookup type).map (fun d => d.resolveChild key v) =
      (r.lookup type).map fun d => d.resolveChild key v
  requiredKeys (type : String) (node : Value) :
    (r'.lookup type).map (fun d => d.requiredKeys node) =
      (r.lookup type).map fun d => d.requiredKeys node
  checkNode (type : String) (node : Value) (path : Path) :
    (r'.lookup type).map (fun d => d.checkNode node path) =
      (r.lookup type).map fun d => d.checkNode node path
  outline (type : String) :
    (r'.lookup type).map Descriptor.outline = (r.lookup type).map Descriptor.outline
  visit (answers : Option PointerAnswers) (depth : Nat) :
    Walk.visit { registry := r', answers } depth = Walk.visit { registry := r, answers } depth

namespace Registry

variable (r : Registry)

theorem lookup_freeze_eq (type : String) :
    r.freeze.lookup type = (r.lookup type).map Descriptor.freeze := by
  unfold lookup
  rw [find?_freeze]
  cases r.find? type <;> rfl

/-- An answer that does not depend on whether the descriptor is read-only. -/
theorem map_lookup_freeze {α : Type} {answer : Descriptor → α}
    (h : ∀ d : Descriptor, answer d.freeze = answer d) (type : String) :
    (r.freeze.lookup type).map answer = (r.lookup type).map answer := by
  rw [lookup_freeze_eq]
  cases r.lookup type with
  | error fault => rfl
  | ok d => exact congrArg Except.ok (h d)

theorem names_freeze : r.freeze.names = r.names := by
  simp [names, definedNames, freeze, Function.comp_def]

theorem validate_freeze : r.freeze.validate = r.validate := by
  have hreferences : r.freeze.references = r.references := by
    simp only [references, freeze, List.flatMap_map, Descriptor.references_freeze]
  have hdangling : r.freeze.dangling = r.dangling := by
    simp only [dangling, hreferences, contains_freeze]
  unfold validate
  rw [hdangling]
  rfl

end Registry

namespace Walk

theorem shapeActions_freeze (d : Descriptor) (node : Value) (path : Path) :
    shapeActions d.freeze node path = shapeActions d node path := by
  unfold shapeActions
  rw [d.checkNode_freeze]
  rfl

theorem nodeActions_freeze (r : Registry) (node : Value) (type : String) (path : Path) :
    nodeActions r.freeze node type path = nodeActions r node type path := by
  unfold nodeActions
  rw [r.lookup_freeze_eq]
  cases pointerOf? node with
  | some pointer => rfl
  | none =>
    cases r.lookup type with
    | error fault => rfl
    | ok d => exact shapeActions_freeze d node path

/-- The registry counts only for what is done at a node. -/
theorem visit_congr {r r' : Registry}
    (h : ∀ node type path, nodeActions r' node type path = nodeActions r node type path)
    (answers : Option PointerAnswers) (depth : Nat) :
    visit { registry := r', answers } depth = visit { registry := r, answers } depth := by
  induction depth with
  | zero => rfl
  | succ depth ih =>
    funext node type path
    rw [visit_succ, visit_succ, visitNode_eq, visitNode_eq, ih, h]
    rfl

end Walk

theorem Registry.answersAlike_freeze (r : Registry) : r.AnswersAlike r.freeze where
  names := r.names_freeze
  validate := r.validate_freeze
  resolveChild _ key v := r.map_lookup_freeze (fun d => d.resolveChild_freeze key v) _
  requiredKeys _ node := r.map_lookup_freeze (fun d => d.requiredKeys_freeze node) _
  checkNode _ node path := r.map_lookup_freeze (fun d => d.checkNode_freeze node path) _
  outline _ := r.map_lookup_freeze Descriptor.outline_freeze _
  visit := Walk.visit_congr (Walk.nodeActions_freeze r)

namespace Assembly

/-- Freezing that succeeds changes no answer of the registry, and further freezing, which may fail
if the first one went without the self-check, does not change the registry. -/
theorem freeze_answersAlike {w w' : Workbench} {selfCheck : Bool}
    (h : (freeze selfCheck).run w = .ok () w') :
    w.registry.AnswersAlike w'.registry ∧
      ∀ again, ((Call.freeze again).after w').registry = w'.registry := by
  have hfreeze := run_freeze_eq_ok h
  refine ⟨?_, fun again => ?_⟩
  · rw [hfreeze]
    exact w.registry.answersAlike_freeze
  · rw [Call.after_frozen _ hfreeze, hfreeze]

/-- Calls that define a root with a rule for other keys that depends on the value and with
required keys that depend on the node, then extend it by a type that is not defined. -/
def rootCalls : List Call :=
  [.define "Root"
      { additional := some (.computed ⟨"pick", .given 0, fun v _ =>
          .ok (if v.isMapping then some (.reference "Root") else none)⟩)
        required := .computed ⟨"keys", .given 1, fun node =>
          .ok (if (node.field? "info").isSome then .texts ["title"] else .texts ["info"])⟩
        group := some (.growing ["paths", "channels"])
        extensions := some "x-" },
    .extend "Root" [("info", .reference "Info"), ("title", .leaf {})]]

def rootBench : Workbench := after rootCalls (blank "test")

theorem freeze_answersAlike_rootBench : ∃ w',
    (freeze false).run rootBench = .ok () w' ∧ rootBench.registry.size = 1 ∧
      rootBench.registry.AnswersAlike w'.registry ∧
      ∀ again, ((Call.freeze again).after w').registry = w'.registry :=
  ⟨_, rfl, rfl, freeze_answersAlike (show (freeze false).run rootBench = _ from rfl)⟩

end Assembly

end ShapeLint
