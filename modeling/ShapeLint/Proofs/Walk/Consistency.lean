import ShapeLint.Proofs.Descriptor.Consistency
import ShapeLint.Proofs.Leaf.Places
import ShapeLint.Proofs.Walk.Causes
import ShapeLint.Proofs.Walk.Visits

/-!
Walks over descriptors that do not contradict themselves. A key that is demanded of a node or
permitted to it is never reported there as unknown or as disallowed. Main statement:
`reported_not_foreseen`.
-/
namespace ShapeLint.Walk

/-- The types of a registry do not contradict themselves. -/
def Consistent (r : Registry) : Prop :=
  ∀ ⦃type d⦄, r.lookup type = .ok d → d.Consistent

variable {r : Registry} {node : Value} {type : String} {path : Path} {found : List Violation}
  {x : Violation}

/-- A key that is demanded or permitted is not rejected. -/
theorem not_foresees_of_rejected {d : Descriptor} {step : Step} {v : Value}
    (consistent : d.Consistent) (child : Child r node type d step v)
    (ruled : rulingAt d step v = .ok .rejected) : ¬ d.Foresees node step.text := by
  intro foreseen
  have htakes := consistent.taken foreseen
  cases step with
  | key name =>
    obtain ⟨ruling, hruling, haccepted⟩ := Descriptor.accepted_of_takes htakes v
    obtain rfl := Except.ok.inj (hruling.symm.trans ruled)
    contradiction
  | index position =>
    -- Only sequences look at members by their positions, and they take no texts.
    have hmember := child.member
    have hshape := child.shape
    cases node with
    | list identity xs =>
      have hsequence : d.isSequence := by
        by_contra h
        simp [members?, h] at hshape
      simp only [Descriptor.takes, Bool.and_eq_true, Option.isNone_iff_eq_none] at htakes
      simp [Descriptor.isSequence, htakes.1] at hsequence
    | mapping identity es =>
      obtain ⟨⟨key, w⟩, -, heq⟩ := List.mem_map.mp hmember
      exact key.step_ne_index position (Prod.mk.inj heq).1
    | _ => contradiction
  | unwritten number => contradiction

theorem not_foresees_of_cause (consistent : Consistent r) (cause : Cause r node type path found)
    (hx : x ∈ found) (code : x.code = .unknownKey ∨ x.code = .disallowedKey) :
    ∃ d key, r.lookup type = .ok d ∧ x.key = some key ∧ ¬ d.Foresees node key := by
  cases cause with
  | shape own defined misfit =>
    obtain rfl := List.mem_singleton.mp hx
    simp [typeMismatch] at code
  | keys own defined checked =>
    obtain ⟨key, hkey, hforesees⟩ := (consistent defined).not_foresees_of_checkNode checked hx code
    exact ⟨_, key, defined, hkey, hforesees⟩
  | rejected child ruled =>
    obtain rfl := List.mem_singleton.mp hx
    exact ⟨_, _, child.defined, rfl,
      not_foresees_of_rejected (consistent child.defined) child ruled⟩
  | leaf child ruled checked =>
    have hcode := (Leaf.located_of_check checked hx).code
    rcases code with code | code <;> simp [code, ViolationCode.ofLeaf] at hcode

/-- Every key that a walk reports as unknown or disallowed is one that its node was neither demanded
nor permitted to have. -/
theorem reported_not_foreseen {s : Surroundings} (consistent : Consistent s.registry) {depth : Nat}
    {t : Traversal} (hx : x ∈ (left (visit s depth node type path) t).violations)
    (code : x.code = .unknownKey ∨ x.code = .disallowedKey) : x ∈ t.violations ∨
    ∃ e ∈ nodesEntered s depth node type path t,
      (∃ place found, .report found ∈ nodeActions s.registry e.1 e.2 place ∧ x ∈ found) ∧
      ∃ d key, s.registry.lookup e.2 = .ok d ∧ x.key = some key ∧ ¬ d.Foresees e.1 key := by
  have hpointer : ¬ (x.code = .unresolvedRef ∨ x.code = .mappingTargetNotSchema) := by
    rcases code with code | code <;> simp [code]
  rcases exists_report_of_mem hx hpointer with hold | ⟨e, he, place, found, hfound, hx⟩
  · exact .inl hold
  · cases does_of_mem hfound with
    | report cause =>
      exact .inr ⟨e, he, ⟨place, found, hfound, hx⟩, not_foresees_of_cause consistent cause hx code⟩

end ShapeLint.Walk
