import ShapeLint.Descriptor.Keys
import ShapeLint.Proofs.Leaf.Recursion
import ShapeLint.Proofs.Outcome

/-! Violations keep to their place: a check below a longer path finds the same violations, moved
under that path. -/
namespace ShapeLint

/-- A violation found below a further path. -/
def Violation.under (outer : Path) (v : Violation) : Violation := { v with path := outer ++ v.path }

@[simp] theorem Path.lastKey?_append (outer : Path) {path : Path} (h : path ≠ []) :
    Path.lastKey? (outer ++ path) = path.lastKey? := by
  obtain ⟨init, last, rfl⟩ := List.eq_nil_or_concat path |>.resolve_left h
  simp [Path.lastKey?]

theorem typeMismatch_append (expected : String) (v : Value) (typeName : String) (outer : Path)
    {path : Path} (h : path ≠ []) :
    typeMismatch expected v typeName (outer ++ path) =
      (typeMismatch expected v typeName path).under outer := by
  simp [typeMismatch, Violation.under, h]

namespace Leaf

variable (typeName : String) (outer : Path) {path : Path}

theorem violation_append (code : ViolationCode) (message : String) (h : path ≠ []) :
    violation code typeName (outer ++ path) message =
      (violation code typeName path message).under outer := by
  simp [violation, Violation.under, h]

theorem checkChoices_append (facets : Facets) (v : Value) (h : path ≠ []) :
    checkChoices facets v (outer ++ path) typeName =
      (checkChoices facets v path typeName).map (List.map (Violation.under outer)) := by
  unfold checkChoices
  cases facets.choices with
  | none => rfl
  | some choices =>
    dsimp only
    split
    · rfl
    · rw [map_writing, notAmong, violation_append typeName outer _ _ h]
      rfl

theorem checkBounds_append (facets : Facets) (v : Value) (h : path ≠ []) :
    checkBounds facets v (outer ++ path) typeName =
      (checkBounds facets v path typeName).map (Violation.under outer) := by
  unfold checkBounds
  cases boundedQuantity? v with
  | none => rfl
  | some q =>
    cases facets.minimum <;> cases facets.maximum <;>
      simp [violation_append typeName outer _ _ h, apply_ite (List.map (Violation.under outer))]

theorem checkPattern_append (facets : Facets) (v : Value) (h : path ≠ []) :
    checkPattern facets v (outer ++ path) typeName =
      (checkPattern facets v path typeName).map (List.map (Violation.under outer)) := by
  unfold checkPattern
  split
  · split
    · rfl
    · split <;> simp [violation_append typeName outer _ _ h, Except.map]
  · rfl

theorem checkCardinality_append (facets : Facets) (v : Value) (h : path ≠ []) :
    checkCardinality facets v (outer ++ path) typeName =
      (checkCardinality facets v path typeName).map (List.map (Violation.under outer)) := by
  cases v <;> first
    | rfl
    | simp only [checkCardinality, map_writing, miscounted, violation_append typeName outer _ _ h,
        List.map_map, Function.comp_def]

theorem checkFacets_append (facets : Facets) (v : Value) (h : path ≠ []) :
    checkFacets facets v (outer ++ path) typeName =
      (checkFacets facets v path typeName).map (List.map (Violation.under outer)) := by
  unfold checkFacets
  rw [checkPattern_append typeName outer facets v h, checkChoices_append typeName outer facets v h,
    checkBounds_append typeName outer facets v h, checkCardinality_append typeName outer facets v h]
  cases checkChoices facets v path typeName with
  | error fault => rfl
  | ok choices =>
    cases checkPattern facets v path typeName with
    | error fault => rfl
    | ok found =>
      cases checkCardinality facets v path typeName with
      | error fault => rfl
      | ok counted => simp [bind, Except.bind, pure, Except.pure, Except.map]

theorem checkMembers_append {check : Value → Path → Except Fault (List Violation)}
    (members : List (Step × Value))
    (h : ∀ v path, path ≠ [] → check v (outer ++ path) =
      (check v path).map (List.map (Violation.under outer))) :
    checkMembers check members (outer ++ path) =
      (checkMembers check members path).map (List.map (Violation.under outer)) := by
  induction members with
  | nil => rfl
  | cons member members ih =>
    obtain ⟨step, x⟩ := member
    rw [checkMembers_cons, checkMembers_cons, List.append_assoc, h x (path ++ [step]) (by simp), ih]
    cases step.take with
    | error fault => rfl
    | ok _ =>
      cases check x (path ++ [step]) with
      | error fault => rfl
      | ok found =>
        cases checkMembers check members path with
        | error fault => rfl
        | ok rest => simp [bind, Except.bind, pure, Except.pure, Except.map]

/-- A leaf finds the same below any path. -/
theorem check_append (leaf : Leaf) (v : Value) (h : path ≠ []) :
    leaf.check v (outer ++ path) typeName =
      (leaf.check v path typeName).map (List.map (Violation.under outer)) := by
  induction leaf using nested_induction generalizing v path with
  | leaf facets items entries hitems hentries =>
    have hinner : Leaf.checkInner ⟨facets, items, entries⟩ v (outer ++ path) typeName =
        (Leaf.checkInner ⟨facets, items, entries⟩ v path typeName).map
          (List.map (Violation.under outer)) := by
      unfold checkInner
      cases hl : inner? ⟨facets, items, entries⟩ v with
      | none => rfl
      | some found =>
        obtain ⟨l, members⟩ := found
        apply checkMembers_append
        intro x path hpath
        exact (inner?_mem hl).elim (fun h => hitems l h x hpath) fun h => hentries l h x hpath
    rw [check_eq, check_eq, checkFacets_append typeName outer facets v h, hinner]
    dsimp only
    split
    · rfl
    · cases (nonempty? facets.type).filter (!matchesType · v) with
      | some expected => simp [Except.map, typeMismatch_append _ _ _ _ h]
      | none =>
        dsimp only
        split
        · rfl
        · cases checkFacets facets v path typeName with
          | error fault => rfl
          | ok own =>
            cases Leaf.checkInner ⟨facets, items, entries⟩ v path typeName with
            | error fault => rfl
            | ok members => simp [bind, Except.bind, pure, Except.pure, Except.map]

end Leaf

namespace Descriptor

variable (d : Descriptor) (outer path : Path)

theorem missing_append (key : Value) :
    d.missing (outer ++ path) key = (d.missing path key).map (Violation.under outer) := by
  unfold missing
  split
  · rfl
  · rfl
  · cases writing [key] () <;> rfl

theorem missingKeys_append (entries : List (Scalar × Value)) (keys : List Value) :
    d.missingKeys entries (outer ++ path) keys =
      (d.missingKeys entries path keys).map (List.map (Violation.under outer)) := by
  induction keys with
  | nil => rfl
  | cons key keys ih =>
    simp only [missingKeys, ih, missing_append]
    cases key.isKeyOf entries with
    | error fault => rfl
    | ok present =>
      cases present
      · cases d.missing path key with
        | error fault => rfl
        | ok violation => cases d.missingKeys entries path keys <;> rfl
      · rfl

theorem checkRequired_append (node : Value) :
    (d.checkRequired node (outer ++ path)).outcome =
      (d.checkRequired node path).outcome.map (List.map (Violation.under outer)) := by
  cases node with
  | mapping identity entries =>
    simp only [checkRequired, Journaled.outcome_bind, Journaled.outcome_of, missingKeys_append]
    cases (d.requiredKeys (.mapping identity entries)).outcome <;> rfl
  | _ => rfl

theorem checkAllowed_append (node : Value) :
    (d.checkAllowed node (outer ++ path)).outcome =
      (d.checkAllowed node path).outcome.map (List.map (Violation.under outer)) := by
  have hdisallowed : d.disallowed (outer ++ path) =
      fun key => (d.disallowed path key).under outer := by
    funext key
    simp [disallowed, Violation.under]
  unfold checkAllowed
  split
  · rename_i identity entries f hf
    cases allowedKeys f (.mapping identity entries) with
    | ok allowed => simp [disallowedKeys, map_writing, hdisallowed, Function.comp_def]
    | error fault =>
      dsimp only
      split <;> rfl
  · rfl

theorem checkRequiredOneOf_append (node : Value) :
    d.checkRequiredOneOf node (outer ++ path) =
      (d.checkRequiredOneOf node path).map (Violation.under outer) := by
  unfold checkRequiredOneOf
  split
  · split <;> rfl
  · rfl

theorem checkNode_outcome (node : Value) :
    (d.checkNode node path).outcome = (do
      let missing ← (d.checkRequired node path).outcome
      let disallowed ← (d.checkAllowed node path).outcome
      return missing ++ d.checkRequiredOneOf node path ++ disallowed) := by
  simp only [checkNode, Journaled.outcome_bind]
  rfl

/-- The checks of a node find the same below any path. -/
theorem checkNode_append (node : Value) :
    (d.checkNode node (outer ++ path)).outcome =
      (d.checkNode node path).outcome.map (List.map (Violation.under outer)) := by
  rw [checkNode_outcome, checkNode_outcome, checkRequired_append, checkAllowed_append,
    checkRequiredOneOf_append]
  cases (d.checkRequired node path).outcome with
  | error fault => rfl
  | ok missing =>
    cases (d.checkAllowed node path).outcome with
    | error fault => rfl
    | ok disallowed => simp [bind, Except.bind, pure, Except.pure, Except.map]

end Descriptor

end ShapeLint
