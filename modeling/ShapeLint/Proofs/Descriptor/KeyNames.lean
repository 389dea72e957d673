import ShapeLint.Proofs.Descriptor.TextKeys
import ShapeLint.Proofs.Document.Containers

/-! The checks of a node's keys look at the keys alone: nodes with the same keys, for which the
functions of a descriptor list the same, are found wanting in the same way. Main statement:
`Descriptor.checkNode_congr`. -/
namespace ShapeLint

theorem lookup_isSome_eq_any {α : Type} (es : List (Scalar × α)) (key : Scalar) :
    (es.lookup key).isSome = (es.map Prod.fst).any (key == ·) := by
  induction es with
  | nil => rfl
  | cons e es ih =>
    obtain ⟨name, v⟩ := e
    rw [List.lookup_cons, List.map_cons, List.any_cons, ← ih]
    cases key == name <;> rfl

theorem lookup_isSome_congr {α : Type} {es fs : List (Scalar × α)}
    (h : (es.map Prod.fst).Perm (fs.map Prod.fst)) (key : Scalar) :
    (es.lookup key).isSome = (fs.lookup key).isSome := by
  rw [lookup_isSome_eq_any, lookup_isSome_eq_any, h.any_eq]

theorem Value.isKeyOf_congr {es fs : List (Scalar × Value)}
    (h : (es.map Prod.fst).Perm (fs.map Prod.fst)) (key : Value) :
    key.isKeyOf es = key.isKeyOf fs := by
  unfold isKeyOf
  split
  · rfl
  · rw [lookup_isSome_congr h]
  · rfl

namespace Descriptor

variable {d : Descriptor} {node node' : Value}

theorem missingKeys_congr {es fs : List (Scalar × Value)}
    (h : (es.map Prod.fst).Perm (fs.map Prod.fst)) (path : Path) (keys : List Value) :
    d.missingKeys es path keys = d.missingKeys fs path keys := by
  induction keys with
  | nil => rfl
  | cons key keys ih => simp only [missingKeys, Value.isKeyOf_congr h, ih]

theorem requiredKeys_congr (h : ∀ f ∈ d.conditionals, f.keys node = f.keys node') :
    (d.requiredKeys node).outcome = (d.requiredKeys node').outcome := by
  unfold requiredKeys
  cases hrequired : d.required with
  | listed keys => rfl
  | computed f =>
    have hf := h f (by simp [conditionals, hrequired, Requirement.conditional?])
    dsimp only
    rw [hf]
    cases f.keys node' with
    | ok keys => rfl
    | error fault =>
      dsimp only
      cases fault.degrades <;> rfl

theorem checkAllowed_outcome {f : Conditional} (hallowed : d.allowed = some f) (identity : Nat)
    (es : List (Scalar × Value)) (path : Path) :
    (d.checkAllowed (.mapping identity es) path).outcome =
      match allowedKeys f (.mapping identity es) with
      | .ok allowed => d.disallowedKeys es path allowed
      | .error fault => if fault.degrades then .ok [] else .error fault := by
  simp only [checkAllowed, hallowed]
  cases allowedKeys f (.mapping identity es) with
  | ok allowed => rfl
  | error fault =>
    dsimp only
    cases fault.degrades <;> rfl

theorem disallowedKeys_congr {es fs : List (Scalar × Value)}
    (hnames : es.map Prod.fst = fs.map Prod.fst) (path : Path) (allowed : List String) :
    d.disallowedKeys es path allowed = d.disallowedKeys fs path allowed := by
  have hmap {α : Type} (f : Scalar → α) : es.map (fun e => f e.1) = fs.map fun e => f e.1 := by
    simpa [Function.comp_def] using congrArg (List.map f) hnames
  unfold disallowedKeys
  rw [hmap, hmap]

theorem checkAllowed_congr {identity identity' : Nat} {es fs : List (Scalar × Value)}
    (hnames : es.map Prod.fst = fs.map Prod.fst)
    (h : ∀ f ∈ d.conditionals, f.keys (.mapping identity es) = f.keys (.mapping identity' fs))
    (path : Path) : (d.checkAllowed (.mapping identity es) path).outcome =
      (d.checkAllowed (.mapping identity' fs) path).outcome := by
  cases hallowed : d.allowed with
  | none => simp only [checkAllowed, hallowed]
  | some f =>
    have hf := h f (by simp [conditionals, hallowed])
    rw [checkAllowed_outcome hallowed, checkAllowed_outcome hallowed]
    simp only [allowedKeys, hf, disallowedKeys_congr hnames]

section Mappings

variable {identity identity' : Nat} {es fs : List (Scalar × Value)}

theorem checkRequired_congr (hnames : (es.map Prod.fst).Perm (fs.map Prod.fst))
    (h : ∀ f ∈ d.conditionals, f.keys (.mapping identity es) = f.keys (.mapping identity' fs))
    (path : Path) : (d.checkRequired (.mapping identity es) path).outcome =
      (d.checkRequired (.mapping identity' fs) path).outcome := by
  simp only [checkRequired, Journaled.outcome_bind, requiredKeys_congr h, missingKeys_congr hnames]

theorem checkRequiredOneOf_congr (hnames : (es.map Prod.fst).Perm (fs.map Prod.fst)) (path : Path) :
    d.checkRequiredOneOf (.mapping identity es) path =
      d.checkRequiredOneOf (.mapping identity' fs) path := by
  unfold checkRequiredOneOf
  cases d.requiredOneOf with
  | none => rfl
  | some group => simp only [lookup_isSome_congr hnames]

end Mappings

/-- Nodes with the same keys and the same lists of keys pass the same checks. -/
theorem checkNode_congr (hnames : node.keyNames? = node'.keyNames?)
    (h : ∀ f ∈ d.conditionals, f.keys node = f.keys node') (path : Path) :
    (d.checkNode node path).outcome = (d.checkNode node' path).outcome := by
  cases node with
  | mapping identity es =>
    cases node' with
    | mapping identity' fs =>
      have hnames : es.map Prod.fst = fs.map Prod.fst := Option.some.inj hnames
      have hperm := List.Perm.of_eq hnames
      have honeOf : d.checkRequiredOneOf (.mapping identity es) path =
          d.checkRequiredOneOf (.mapping identity' fs) path := checkRequiredOneOf_congr hperm path
      simp only [checkNode, Journaled.outcome_bind, checkRequired_congr hperm h, honeOf,
        checkAllowed_congr hnames h]
    | _ => contradiction
  | _ =>
    cases node' with
    | mapping identity' fs => contradiction
    | _ => rfl

end Descriptor

end ShapeLint
