import ShapeLint.Descriptor.Child
import ShapeLint.Descriptor.Keys
import ShapeLint.Outline.Basic

/-! Freezing puts a view in place of the rules of a descriptor and fixed lists in place of its lists
of keys. Whoever reads a descriptor reads the same from both. -/
namespace ShapeLint

/-- A list of keys is read alike whether it can grow or is fixed. -/
theorem KeyList.keys_value (keys : KeyList) :
    keys.value.keys = .ok (keys.toList.map Value.text) := by
  obtain keys | keys := keys
  all_goals
    cases keys with
    | nil => rfl
    | cons key keys => rfl

theorem Requirement.outline_fix (required : Requirement) :
    required.fix.outline = required.outline := by
  cases required <;> rfl

namespace Descriptor

theorem missingKeys_of_same {d d' : Descriptor} (name : d'.name = d.name)
    (entries : List (Scalar × Value)) (path : Path) (keys : List Value) :
    d'.missingKeys entries path keys = d.missingKeys entries path keys := by
  have hmissing : ∀ key, d'.missing path key = d.missing path key := by
    intro key
    simp only [missing, name]
  induction keys with
  | nil => rfl
  | cons key keys ih => simp only [missingKeys, ih, hmissing]

/-- Required keys are checked by what a descriptor requires, and reported under its name. -/
theorem checkRequired_of_same (d' d : Descriptor) (name : d'.name = d.name)
    (required : ∀ node, d'.requiredKeys node = d.requiredKeys node) (node : Value) (path : Path) :
    d'.checkRequired node path = d.checkRequired node path := by
  cases node with
  | mapping identity entries => simp only [checkRequired, required, missingKeys_of_same name]
  | _ => rfl

variable (d : Descriptor)

/-- Look-ups in a view are those in the table. -/
theorem properties_freeze : d.freeze.properties = d.properties := rfl

theorem requiredOneOf_freeze : d.freeze.requiredOneOf = d.requiredOneOf := by
  simp only [requiredOneOf, freeze, Option.map_map, Function.comp_def, KeyList.toList_fix]

theorem rulingOnOthers_freeze (key v : Value) :
    d.freeze.rulingOnOthers key v = d.rulingOnOthers key v := rfl

theorem ruling_freeze (key v : Value) : d.freeze.ruling key v = d.ruling key v := by
  simp only [ruling, properties_freeze, rulingOnOthers_freeze]
  rfl

theorem resolveChild_freeze (key v : Value) :
    d.freeze.resolveChild key v = d.resolveChild key v := by
  simp only [resolveChild, ruling_freeze]
  rfl

/-- A function that lists keys is kept; a list of keys is fixed and then read alike. -/
theorem requiredKeys_freeze (node : Value) : d.freeze.requiredKeys node = d.requiredKeys node := by
  have hname : d.freeze.name = d.name := rfl
  have hrequired : d.freeze.required = d.required.fix := rfl
  unfold requiredKeys
  rw [hname, hrequired]
  cases d.required with
  | listed keys => simp only [Requirement.fix, KeyList.keys_value, KeyList.toList_fix]
  | computed f => rfl

theorem checkRequired_freeze (node : Value) (path : Path) :
    d.freeze.checkRequired node path = d.checkRequired node path :=
  checkRequired_of_same d.freeze d rfl d.requiredKeys_freeze node path

theorem checkRequiredOneOf_freeze (node : Value) (path : Path) :
    d.freeze.checkRequiredOneOf node path = d.checkRequiredOneOf node path := by
  have hname : d.freeze.name = d.name := rfl
  unfold checkRequiredOneOf
  rw [requiredOneOf_freeze, hname]

theorem checkAllowed_freeze (node : Value) (path : Path) :
    d.freeze.checkAllowed node path = d.checkAllowed node path := rfl

theorem checkNode_freeze (node : Value) (path : Path) :
    d.freeze.checkNode node path = d.checkNode node path := by
  simp only [checkNode, checkRequired_freeze, checkRequiredOneOf_freeze, checkAllowed_freeze]

theorem references_freeze (owner : String) : d.freeze.references owner = d.references owner := by
  simp only [references, properties_freeze]
  rfl

theorem outline_freeze : d.freeze.outline = d.outline := by
  have hrequired : d.freeze.required = d.required.fix := rfl
  simp only [outline, properties_freeze, requiredOneOf_freeze, hrequired,
    Requirement.outline_fix]
  rfl

/-- A descriptor that has been frozen is frozen again into itself. -/
@[simp] theorem freeze_freeze : d.freeze.freeze = d.freeze := by
  have hrequired : d.required.fix.fix = d.required.fix := by
    cases d.required <;> rfl
  have hgroup : (d.group.map KeyList.fix).map KeyList.fix = d.group.map KeyList.fix := by
    cases d.group <;> rfl
  simp only [freeze, hrequired, hgroup]
  rfl

end Descriptor

end ShapeLint
