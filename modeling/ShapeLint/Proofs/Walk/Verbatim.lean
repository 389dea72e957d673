import ShapeLint.Proofs.Descriptor.Discreet
import ShapeLint.Proofs.Walk.Questions

/-!
Children that are accepted as they stand. A child under a rule that accepts everything is done with
at once. A leaf that is not resolvable accepts everything too, but its value is still followed as a
direct pointer if the leaf names a type for that. Main statement: `silent_visitChild_iff`.
-/
namespace ShapeLint

theorem Leaf.acceptsAll_of_not_resolvable {leaf : Leaf} (h : leaf.resolvable = false) :
    leaf.acceptsAll := by
  simp [acceptsAll, h]

namespace Walk

variable {s : Surroundings} {d : Descriptor} {step : Step} {v : Value} {path : Path}

/-- All that is done with a child that its leaf accepts is to follow it. -/
theorem performAll_checked {below : Visit} {leaf : Leaf}
    (ruled : rulingAt d step v = .ok (.leaf leaf))
    (accepted : leaf.check v (path ++ [step]) d.name = .ok []) :
    performAll s below (childActions d path step v) =
      match nonempty? leaf.resolveAs with
      | some type => follow s below true v type (path ++ [step])
      | none => pure () := by
  unfold childActions
  rw [ruled]
  simp only [rulingActions, leafActions, accepted, Ruling.record?,
    performAll_cons, Action.perform, Option.toList_none, log_nil, report_nil, pure_bind]
  cases nonempty? leaf.resolveAs <;> simp [Action.perform]

theorem performAll_accepted {below : Visit} {leaf : Leaf}
    (ruled : rulingAt d step v = .ok (.leaf leaf)) (h : leaf.acceptsAll) :
    performAll s below (childActions d path step v) =
      match nonempty? leaf.resolveAs with
      | some type => follow s below true v type (path ++ [step])
      | none => pure () :=
  performAll_checked ruled (Leaf.check_of_acceptsAll h v _ _)

/-- Nothing is done with a child that is overlooked. -/
theorem performAll_overlooked {below : Visit} {ruling : Ruling}
    (ruled : rulingAt d step v = .ok ruling) (h : ruling.overlooks) :
    performAll s below (childActions d path step v) = pure () := by
  cases ruling with
  | leaf leaf =>
    simp only [Ruling.overlooks, Bool.and_eq_true, Option.isNone_iff_eq_none] at h
    rw [performAll_accepted ruled h.1, h.2]
  | unvalidated why =>
    cases why with
    | anything => simp [childActions, ruled, rulingActions, Ruling.record?, Action.perform]
    | _ => contradiction
  | extension => simp [childActions, ruled, rulingActions, Ruling.record?, Action.perform]
  | _ => contradiction

/-- A part of a walk that asks for no pointer and reports nothing, from whatever state. -/
def Silent (x : Walk Unit) : Prop :=
  ∀ t, (left x t).asked = t.asked ∧ (left x t).violations = t.violations

/-- A pointer that is followed is asked for. -/
theorem asked_follow {answers : PointerAnswers} (hs : s.answers = some answers) (depth : Nat)
    (direct : Bool) (pointer : Value) (type : String) (path : Path) (t : Traversal) :
    t.asked ++ [pointer] <+:
      (left (follow s (visit s depth) direct pointer type path) t).asked := by
  have own : pointerOf? .null = none := rfl
  have htraces : Traces t (left (follow s (visit s depth) direct pointer type path) t) _ :=
    traces_leaves (visit_traces s depth) own "" (.follow direct pointer type path) t
  rw [htraces.asked]
  simp [toldAt, hs]

/-- A child under a leaf that is not resolvable is left alone if and only if the leaf names no type
to read it as, or no pointers are followed at all. -/
theorem silent_visitChild_iff {leaf : Leaf} (depth : Nat) (path : Path)
    (ruled : rulingAt d step v = .ok (.leaf leaf)) (h : leaf.resolvable = false) :
    Silent (visitChild s (visit s depth) d path step v) ↔
      nonempty? leaf.resolveAs = none ∨ s.answers = none := by
  rw [← performAll_childActions, performAll_accepted ruled (Leaf.acceptsAll_of_not_resolvable h)]
  cases htype : nonempty? leaf.resolveAs with
  | none => simp [Silent, left]
  | some type =>
    cases hs : s.answers with
    | none => simp [Silent, left, run_follow, hs]
    | some answers =>
      refine iff_of_false (fun hsilent => ?_) (by simp)
      have hasked := asked_follow hs depth true v type (path ++ [step]) {}
      rw [(hsilent {}).1] at hasked
      simp at hasked

/-- A leaf that is not resolvable and yet names a type for pointers. -/
def directPayload : Leaf := { resolvable := false, resolveAs := some "Root" }

def payloadType : Descriptor where
  name := "Root"
  table := .growing [("payload", .leaf directPayload)]

/-- One type with such a property, and pointers without targets. -/
def nowhere : Surroundings where
  registry := { dialect := "test", definitions := [⟨"Root", payloadType, "Root"⟩] }
  answers := some fun _ _ => .ok .null

theorem silent_visitChild_iff_payload :
    payloadType.ruling (.text "payload") (.text "#/nowhere") = .ok (.leaf directPayload) ∧
      directPayload.resolvable = false ∧
      (Silent (visitChild nowhere (visit nowhere 1) payloadType [] (.key "payload")
          (.text "#/nowhere")) ↔
        nonempty? directPayload.resolveAs = none ∨ nowhere.answers = none) :=
  ⟨rfl, rfl, silent_visitChild_iff 1 [] rfl rfl⟩

/-- A leaf that is not resolvable does not keep its value from being followed, and the walk of a
document then reports a pointer without a target. -/
theorem not_silent_visitChild :
    (¬ ∀ (s : Surroundings) (depth : Nat) (d : Descriptor) (path : Path) (step : Step) (v : Value)
        (leaf : Leaf), rulingAt d step v = .ok (.leaf leaf) → leaf.resolvable = false →
          Silent (visitChild s (visit s depth) d path step v)) ∧
      ∃ u, (visit nowhere 1 (.mapping 0 [(.text "payload", .text "#/nowhere")]) "Root" []).run {} =
          .ok () u ∧
        u.asked = [.text "#/nowhere"] ∧
        u.violations = [unresolved (.text "#/nowhere") "Root" [.key "payload"]] := by
  refine ⟨fun h => ?_, _, rfl, rfl, rfl⟩
  have hsilent := h nowhere 1 payloadType [] (.key "payload") (.text "#/nowhere") directPayload
    rfl rfl {}
  have hasked : (left (visitChild nowhere (visit nowhere 1) payloadType [] (.key "payload")
      (.text "#/nowhere")) {}).asked = [.text "#/nowhere"] := rfl
  rw [hasked] at hsilent
  exact absurd hsilent.1 (List.cons_ne_nil _ _)

end Walk

end ShapeLint
