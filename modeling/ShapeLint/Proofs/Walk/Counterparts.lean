import ShapeLint.Proofs.Descriptor.Outlined
import ShapeLint.Proofs.Placement
import ShapeLint.Proofs.Walk.Simulation

/-! Nodes that look alike. Two nodes of one outline, whose members are ruled alike, lead two walks
to the same actions on counterparts. -/
namespace ShapeLint

namespace Walk

variable (related : Value → Value → String → Prop) (asks : Bool → String → String → Prop)

/-- Children under one step that a descriptor rules and checks alike. -/
structure ChildPair (d : Descriptor) (step : Step) (v v' : Value) : Prop where
  ruling : rulingAt d step v' = rulingAt d step v
  reference : ∀ {type}, rulingAt d step v = .ok (.reference type) → related v v' type
  leaf : ∀ {leaf}, rulingAt d step v = .ok (.leaf leaf) →
    leaf.check v' [step] d.name = leaf.check v [step] d.name
  pointer : ∀ {leaf type}, rulingAt d step v = .ok (.leaf leaf) →
    nonempty? leaf.resolveAs = some type → leaf.check v [step] d.name = .ok [] →
    ∃ pointer, v = .text pointer ∧ v' = .text pointer ∧ asks true pointer type

variable {related asks} {d : Descriptor} {step : Step} {v v' : Value} {type : String}

theorem ChildPair.leafActions (h : ChildPair related asks d step v v') {leaf : Leaf}
    (hleaf : rulingAt d step v = .ok (.leaf leaf)) (path : Path) :
    List.Forall₂ (ActionPair related asks) (leafActions d leaf v (path ++ [step]))
      (leafActions d leaf v' (path ++ [step])) := by
  have hplaced := fun w => leaf.check_append d.name path w (List.cons_ne_nil step [])
  have hcheck : leaf.check v' (path ++ [step]) d.name = leaf.check v (path ++ [step]) d.name := by
    rw [hplaced v', hplaced v, h.leaf hleaf]
  unfold Walk.leafActions
  rw [hcheck]
  cases hfound : leaf.check v (path ++ [step]) d.name with
  | error fault => exact .cons (.fail fault fault) .nil
  | ok found =>
    refine .cons (.report found) ?_
    cases hdirect : nonempty? leaf.resolveAs with
    | none => exact .nil
    | some type =>
      cases found with
      | cons violation found => exact .nil
      | nil =>
        have haccepted : leaf.check v [step] d.name = .ok [] := by
          rw [hplaced v] at hfound
          cases hown : leaf.check v [step] d.name with
          | error fault => simp [hown, Except.map] at hfound
          | ok own => simpa [hown, Except.map] using hfound
        obtain ⟨pointer, rfl, rfl, hasks⟩ := h.pointer hleaf hdirect haccepted
        exact .cons (.follow _ hasks) .nil

theorem ChildPair.actions (h : ChildPair related asks d step v v') (path : Path) :
    List.Forall₂ (ActionPair related asks) (childActions d path step v)
      (childActions d path step v') := by
  unfold childActions
  rw [h.ruling]
  cases hruling : rulingAt d step v with
  | error fault => exact .cons (.fail fault fault) .nil
  | ok ruling =>
    refine .cons (.log _ _) ?_
    cases ruling with
    | rejected => exact .cons (.report _) .nil
    | reference type => exact .cons (.visit _ (h.reference hruling)) .nil
    | leaf leaf => exact h.leafActions hruling path
    | unvalidated why => exact .nil
    | extension => exact .nil

theorem isSome_members?_outline (d : Descriptor) (v : Value) :
    (members? d v.outline).isSome = (members? d v).isSome := by
  cases v <;> simp only [Value.outline, members?] <;> split <;> rfl

/-- Nodes of one outline whose members pair up lead to paired actions. -/
theorem pairs_nodeActions {r : Registry} (path : Path)
    (outlined : ∀ {type d}, r.lookup type = .ok d → d.Outlined) (kind : v.outline = v'.outline)
    (pointer : ∀ {pointer}, pointerOf? v = some pointer → asks false pointer type)
    (children : ∀ {d members}, pointerOf? v = none → r.lookup type = .ok d →
      members? d v = some members → ∃ members', members? d v' = some members' ∧
        List.Forall₂ (fun m m' => m.1 = m'.1 ∧ ChildPair related asks d m.1 m.2 m'.2)
          members members') :
    List.Forall₂ (ActionPair related asks) (nodeActions r v type path)
      (nodeActions r v' type path) := by
  have hpointer : pointerOf? v' = pointerOf? v := by
    rw [← Value.pointerOf?_outline, ← kind, Value.pointerOf?_outline]
  unfold nodeActions
  rw [hpointer]
  cases hown : pointerOf? v with
  | some p => exact .cons (.follow _ (pointer hown)) .nil
  | none =>
    cases hd : r.lookup type with
    | error fault => exact .cons (.fail fault fault) .nil
    | ok d =>
      simp only [shapeActions]
      cases hmembers : members? d v with
      | none =>
        have hmembers' : members? d v' = none := by
          rw [← Option.not_isSome_iff_eq_none, ← isSome_members?_outline, ← kind,
            isSome_members?_outline, hmembers]
          simp
        have htype : v'.typeName = v.typeName := by
          rw [← Value.typeName_outline, ← kind, Value.typeName_outline]
        have hreport : typeMismatch (expectedType d) v' d.name path =
            typeMismatch (expectedType d) v d.name path := by
          simp only [typeMismatch, htype]
        rw [hmembers', hreport]
        exact .cons (.report _) .nil
      | some members =>
        obtain ⟨members', hmembers', hpairs⟩ := children hown hd hmembers
        have hchecks : (d.checkNode v' path).outcome = (d.checkNode v path).outcome := by
          rw [← (outlined hd).keys, ← kind, (outlined hd).keys]
        rw [hmembers']
        refine List.rel_append ?_ ?_
        · unfold checkActions
          rw [hchecks]
          cases (d.checkNode v path).outcome with
          | ok found => exact .cons (.log _ _) (.cons (.report found) .nil)
          | error fault => exact .cons (.log _ _) (.cons (.fail fault fault) .nil)
        · refine List.rel_flatMap hpairs ?_
          rintro ⟨step, x⟩ ⟨_, x'⟩ ⟨rfl, hchild⟩
          exact hchild.actions path

end Walk

end ShapeLint
