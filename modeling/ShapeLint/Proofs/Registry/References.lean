import ShapeLint.Descriptor.Child
import ShapeLint.Registry

/-! The types that rules name, and what the self-check of a registry says about them. -/
namespace ShapeLint

/-- The rules of a descriptor, wherever they stand. -/
def Descriptor.rules (d : Descriptor) : List Rule :=
  d.properties.map Prod.snd ++ d.additional.toList ++ d.items.toList

theorem Leaf.mem_targets {leaf : Leaf} {type : String} :
    type ∈ leaf.targets ↔ nonempty? leaf.resolveAs = some type ∨
      (∃ l ∈ leaf.items, type ∈ l.targets) ∨ ∃ l ∈ leaf.entries, type ∈ l.targets := by
  obtain ⟨facets, items, entries⟩ := leaf
  cases items <;> cases entries <;> simp [targets]

namespace Ruling

/-- The types that a ruling leads to. -/
def targets : Ruling → List String
  | reference type => [type]
  | leaf l => l.targets
  | _ => []

theorem targets_ofFixed (rule : FixedRule) : (ofFixed rule).targets = rule.targets := by
  cases rule <;> rfl

end Ruling

/-- Which rule governs a child depends on its key alone. -/
theorem Descriptor.ruling_cases (d : Descriptor) (key : Value) :
    (∀ v, d.ruling key v = .ok .rejected) ∨ (∀ v, d.ruling key v = .ok .extension) ∨
      ∃ rule ∈ d.rules, ∀ v, d.ruling key v = Ruling.ofRule rule key v := by
  have others : (∀ v, d.rulingOnOthers key v = .ok .rejected) ∨
      ∃ rule ∈ d.rules, ∀ v, d.rulingOnOthers key v = Ruling.ofRule rule key v := by
    unfold rulingOnOthers
    cases h : d.additional with
    | none => exact .inl fun _ => rfl
    | some rule => exact .inr ⟨rule, by simp [rules, h], fun _ => rfl⟩
  unfold ruling
  split
  · rename_i rule h
    split
    · exact .inr (.inr ⟨rule, by simp [rules, h], fun _ => rfl⟩)
    · exact .inl fun _ => rfl
  · split
    · rename_i name
      cases h : d.properties.lookup name with
      | some rule =>
        have member : rule ∈ d.rules := by
          obtain ⟨before, after, hproperties, -⟩ := List.lookup_eq_some_iff.mp h
          simp [rules, hproperties]
        exact .inr (.inr ⟨rule, member, fun _ => rfl⟩)
      | none =>
        dsimp only
        split
        · exact .inr (.inl fun _ => rfl)
        · exact others.imp_right .inr
    · exact others.imp_right .inr

/-- A child under a text is resolved to the ruling on it. -/
theorem Descriptor.outcome_resolveChild_text (d : Descriptor) (name : String) (v : Value) :
    (d.resolveChild (.text name) v).outcome =
      (d.ruling (.text name) v).map fun ruling => ⟨.key name, ruling⟩ := by
  unfold resolveChild
  cases d.ruling (.text name) v <;> rfl

theorem Descriptor.map_target_references (d : Descriptor) (owner : String) :
    (d.references owner).map Reference.target = d.rules.flatMap Rule.targets := by
  unfold references rules
  cases d.additional <;> cases d.items <;>
    simp [List.map_flatMap, List.flatMap_map, Function.comp_def]

namespace Registry

variable {r : Registry}

theorem exists_lookup {name : String} (h : r.contains name) : ∃ d, r.lookup name = .ok d := by
  obtain ⟨definition, hdefinition⟩ := Option.isSome_iff_exists.mp h
  exact ⟨definition.descriptor, by simp [lookup, hdefinition]⟩

theorem mem_of_lookup {name : String} {d : Descriptor} (h : r.lookup name = .ok d) :
    ∃ definition ∈ r.definitions, definition.descriptor = d := by
  unfold lookup at h
  split at h
  · rename_i definition hdefinition
    exact ⟨definition, List.mem_of_find?_eq_some hdefinition, Except.ok.inj h⟩
  · contradiction

theorem find?_freeze (name : String) : r.freeze.find? name =
    (r.find? name).map fun d => { d with descriptor := d.descriptor.freeze } := by
  unfold find? freeze
  rw [List.find?_map]
  rfl

theorem contains_freeze (name : String) : r.freeze.contains name = r.contains name := by
  simp [contains, find?_freeze]

theorem lookup_freeze {name : String} {d : Descriptor} (h : r.freeze.lookup name = .ok d) :
    ∃ open', r.lookup name = .ok open' ∧ d = open'.freeze := by
  unfold lookup at h ⊢
  rw [find?_freeze] at h
  cases hfind : r.find? name with
  | none => simp [hfind] at h
  | some definition =>
    simp only [hfind, Option.map_some, Except.ok.injEq] at h
    exact ⟨definition.descriptor, rfl, h.symm⟩

/-- A registry passes its self-check if and only if it defines the targets of all its rules. -/
theorem validate_eq_ok_iff : r.validate = .ok () ↔
    ∀ definition ∈ r.definitions, ∀ rule ∈ definition.descriptor.rules, ∀ target ∈ rule.targets,
      r.contains target := by
  have hdangling : r.dangling = [] ↔ ∀ definition ∈ r.definitions,
      ∀ target ∈ (definition.descriptor.references definition.name).map Reference.target,
        r.contains target := by
    simp only [dangling, references, List.filter_eq_nil_iff, List.mem_flatMap, List.mem_map]
    grind
  have hvalidate : r.validate = .ok () ↔ r.dangling = [] := by
    unfold validate
    split <;> simp_all
  simp only [hvalidate, hdangling, Descriptor.map_target_references, List.mem_flatMap]
  grind

end Registry

end ShapeLint
