import ShapeLint.Proofs.Registry.References
import ShapeLint.Proofs.Walk.Verbatim

/-!
Leaves that name a type for pointers, and leaves inside them that do. The self-check counts the
types that all of them name, but the walk follows a child only for the leaf that governs the child
as a whole: what a leaf inside it governs is checked and then left alone. Main statement:
`follows_iff_outermost`.
-/
namespace ShapeLint

/-- The check of a value against a leaf comes to a leaf inside it, which governs a value inside the
value. The steps lead from the one value to the other. -/
inductive Leaf.Governs : Leaf → Value → Path → Leaf → Value → Prop where
  | here (leaf : Leaf) (v : Value) : Governs leaf v [] leaf v
  | inside {leaf l inner : Leaf} {v w x : Value} {members : List (Step × Value)} {step : Step}
      {route : Path} (resolvable : leaf.resolvable) (checked : leaf.isExample = false)
      (inside : leaf.inner? v = some (l, members)) (member : (step, w) ∈ members)
      (rest : Governs l w route inner x) : Governs leaf v (step :: route) inner x

namespace Leaf

variable {leaf inner : Leaf} {v w : Value} {route : Path} {type : String}

/-- The self-check of a registry counts the types that leaves inside a leaf name. -/
theorem Governs.mem_targets (h : leaf.Governs v route inner w)
    (marked : nonempty? inner.resolveAs = some type) : type ∈ leaf.targets := by
  induction h with
  | here => exact Leaf.mem_targets.mpr (.inl marked)
  | inside _ _ inside _ _ ih =>
    refine Leaf.mem_targets.mpr (.inr ?_)
    exact (inner?_mem inside).imp (fun h => ⟨_, h, ih marked⟩) fun h => ⟨_, h, ih marked⟩

/-- A text has no values inside it. -/
theorem Governs.eq_nil_of_text {pointer : String} (h : leaf.Governs (.text pointer) route inner w) :
    route = [] := by
  cases h with
  | here => rfl
  | inside _ _ inside _ _ => contradiction

end Leaf

namespace Walk

/-- However pointers are answered, the visit of a child asks for a value inside it, and reports it
at its place if there is no target. -/
structure Follows (r : Registry) (d : Descriptor) (path : Path) (step : Step) (v : Value)
    (route : Path) (w : Value) (type : String) : Prop where
  asked (resolve : Value → Value) (depth : Nat) :
    let s : Surroundings :=
      { registry := r, answers := some fun _ pointer => .ok (resolve pointer) }
    w ∈ (left (visitChild s (visit s depth) d path step v) {}).asked
  reported (resolve : Value → Value) (depth : Nat) (nowhere : resolve w = .null) :
    let s : Surroundings :=
      { registry := r, answers := some fun _ pointer => .ok (resolve pointer) }
    unresolved w type (path ++ step :: route) ∈
      (left (visitChild s (visit s depth) d path step v) {}).violations

section Markers

variable {r : Registry} {d : Descriptor} {path : Path} {step : Step} {v : Value} {leaf : Leaf}
  {type : String}

theorem visitChild_of_marked (s : Surroundings) (depth : Nat)
    (ruled : rulingAt d step v = .ok (.leaf leaf))
    (accepted : leaf.check v (path ++ [step]) d.name = .ok [])
    (marked : nonempty? leaf.resolveAs = some type) :
    visitChild s (visit s depth) d path step v =
      follow s (visit s depth) true v type (path ++ [step]) := by
  rw [← performAll_childActions, performAll_checked ruled accepted, marked]

theorem visitChild_of_unmarked (s : Surroundings) (depth : Nat)
    (ruled : rulingAt d step v = .ok (.leaf leaf))
    (accepted : leaf.check v (path ++ [step]) d.name = .ok [])
    (unmarked : nonempty? leaf.resolveAs = none) :
    visitChild s (visit s depth) d path step v = pure () := by
  rw [← performAll_childActions, performAll_checked ruled accepted, unmarked]

/-- The leaf that governs a child sends the walk on. -/
theorem follows_of_marked (r : Registry) (ruled : rulingAt d step v = .ok (.leaf leaf))
    (accepted : leaf.check v (path ++ [step]) d.name = .ok [])
    (marked : nonempty? leaf.resolveAs = some type) (writable : v.isWritable) :
    Follows r d path step v [] v type where
  asked resolve depth := by
    intro s
    rw [visitChild_of_marked s depth ruled accepted marked]
    exact (asked_follow rfl depth true v type (path ++ [step]) {}).subset (by simp)
  reported resolve depth nowhere := by
    intro s
    rw [visitChild_of_marked s depth ruled accepted marked]
    simp [left, run_follow, s, nowhere, targetActions, naming, writable, Action.perform]

/-- Where no pointer has a target, the visit of a child that its leaf accepts asks for nothing but
the child. -/
theorem asked_nowhere (ruled : rulingAt d step v = .ok (.leaf leaf))
    (accepted : leaf.check v (path ++ [step]) d.name = .ok []) {pointer : Value} :
    let s : Surroundings := { registry := r, answers := some fun _ _ => .ok .null }
    pointer ∈ (left (visitChild s (visit s 0) d path step v) {}).asked → pointer = v := by
  intro s h
  cases marked : nonempty? leaf.resolveAs with
  | none =>
    rw [visitChild_of_unmarked s 0 ruled accepted marked] at h
    contradiction
  | some type =>
    rw [visitChild_of_marked s 0 ruled accepted marked] at h
    cases hwritable : v.isWritable <;>
      simpa [left, run_follow, s, targetActions, naming, hwritable, Action.perform, asking] using h

/-- Among the leaves that the check of an accepted child comes to and that name a type for the
pointers they govern, the walk heeds the leaf of the child itself and no leaf inside it, though the
self-check counts the types of them all. -/
theorem follows_iff_outermost {inner : Leaf} {route : Path} {pointer : String}
    (ruled : rulingAt d step v = .ok (.leaf leaf))
    (accepted : leaf.check v (path ++ [step]) d.name = .ok [])
    (governs : leaf.Governs v route inner (.text pointer))
    (marked : nonempty? inner.resolveAs = some type) :
    type ∈ leaf.targets ∧ (Follows r d path step v route (.text pointer) type ↔ route = []) := by
  refine ⟨governs.mem_targets marked, fun follows => ?_, ?_⟩
  · obtain rfl : Value.text pointer = v :=
      asked_nowhere ruled accepted (follows.asked (fun _ => .null) 0)
    exact governs.eq_nil_of_text
  · rintro rfl
    cases governs
    exact follows_of_marked r ruled accepted marked rfl

/-- A list of pointers, each to be read as a root. -/
def pointerList : Leaf where
  type := some "array"
  items := some { type := some "string", resolveAs := some "Root" }

def pointersType : Descriptor where
  name := "Root"
  table := .growing [("roots", .leaf pointerList)]

def pointersRegistry : Registry :=
  { dialect := "test", definitions := [⟨"Root", pointersType, "Root"⟩] }

/-- One pointer, which stands in a list. -/
def pointers : Value := .list 1 [.text "#/nowhere"]

theorem governs_pointers : pointerList.Governs pointers [.index 0]
    { type := some "string", resolveAs := some "Root" } (.text "#/nowhere") :=
  .inside rfl rfl rfl List.mem_cons_self (.here _ _)

theorem ruling_pointers :
    rulingAt pointersType (.key "roots") pointers = .ok (.leaf pointerList) := rfl

theorem check_pointers :
    pointerList.check pointers ([] ++ [.key "roots"]) pointersType.name = .ok [] := rfl

theorem follows_iff_outermost_pointers :
    pointersType.ruling (.text "roots") pointers = .ok (.leaf pointerList) ∧
      pointerList.check pointers [.key "roots"] "Root" = .ok [] ∧
      pointerList.Governs pointers [.index 0]
        { type := some "string", resolveAs := some "Root" } (.text "#/nowhere") ∧
      "Root" ∈ pointerList.targets ∧
      (Follows pointersRegistry pointersType [] (.key "roots") pointers [.index 0]
        (.text "#/nowhere") "Root" ↔ [Step.index 0] = []) :=
  ⟨rfl, rfl, governs_pointers,
    follows_iff_outermost ruling_pointers check_pointers governs_pointers rfl⟩

/-- A type named by a leaf inside the leaf of a child does not make the walk follow the pointers
there, although the self-check counts it: a walk that could ask for a pointer without a target asks
for none and reports nothing. -/
theorem not_follows_inside :
    (¬ ∀ (r : Registry) (d : Descriptor) (path : Path) (step : Step) (v : Value)
        (leaf inner : Leaf) (route : Path) (pointer type : String),
        rulingAt d step v = .ok (.leaf leaf) →
        leaf.check v (path ++ [step]) d.name = .ok [] →
        leaf.Governs v route inner (.text pointer) → inner.type = some "string" →
        inner.resolvable → nonempty? inner.resolveAs = some type →
          Follows r d path step v route (.text pointer) type) ∧
      pointersRegistry.references = [⟨"Root", "roots", "Root"⟩] ∧
      ∃ u, (visit { registry := pointersRegistry, answers := some fun _ _ => .ok .null } 1
          (.mapping 0 [(.text "roots", pointers)]) "Root" []).run {} = .ok () u ∧
        u.asked = [] ∧ u.violations = [] := by
  refine ⟨fun h => ?_, rfl, _, rfl, rfl, rfl⟩
  have follows := h pointersRegistry pointersType [] (.key "roots") pointers pointerList
    { type := some "string", resolveAs := some "Root" } [.index 0] "#/nowhere" "Root" rfl rfl
    governs_pointers rfl rfl rfl
  have hv : Value.text "#/nowhere" = pointers :=
    asked_nowhere ruling_pointers check_pointers (follows.asked (fun _ => .null) 0)
  contradiction

end Markers

end Walk

end ShapeLint
