import ShapeLint.Descriptor.Fields
import ShapeLint.Proofs.Descriptor.Frozen
import ShapeLint.Proofs.Leaf.Recursion
import ShapeLint.Proofs.Registry.References

/-!
Descriptions, and links to documentation, are there for readers alone. Taking them away, from a
descriptor and from the leaves of its rules at any depth, changes no check, no ruling but for the
descriptions of the leaf that it gives, and no reference to another type. Main statements:
`Leaf.check_undescribed`, `Descriptor.resolveChild_undescribed` and
`Descriptor.references_undescribed`.
-/
namespace ShapeLint

/-- Facets without what they tell readers. -/
def Facets.undescribed (facets : Facets) : Facets :=
  { facets with description := "", documentation := none }

/-- A leaf without what it and the leaves inside it tell readers. -/
def Leaf.undescribed : Leaf → Leaf
  | ⟨facets, items, entries⟩ =>
    { facets.undescribed with
      items := match items with
        | some leaf => some leaf.undescribed
        | none => none
      entries := match entries with
        | some leaf => some leaf.undescribed
        | none => none }

/-- A rule without descriptions. Functions stay as they are, with all that they pick. -/
def Rule.undescribed : Rule → Rule
  | fixed (.leaf l) => leaf l.undescribed
  | rule => rule

/-- A ruling without the descriptions of its leaf. -/
def Ruling.undescribed : Ruling → Ruling
  | leaf l => leaf l.undescribed
  | ruling => ruling

/-- What resolving a child comes to, but for descriptions. -/
def ResolvedChild.undescribed (child : ResolvedChild) : ResolvedChild :=
  { child with ruling := child.ruling.undescribed }

/-- A table of the same kind, with other rules under its keys. -/
def RuleTable.mapRules (f : Rule → Rule) : RuleTable → RuleTable
  | growing entries => growing (entries.map fun (key, rule) => (key, f rule))
  | view entries => view (entries.map fun (key, rule) => (key, f rule))

/-- A descriptor without descriptions, its own and those in its rules. -/
def Descriptor.undescribed (d : Descriptor) : Descriptor :=
  { d with
    table := d.table.mapRules Rule.undescribed
    additional := d.additional.map Rule.undescribed
    items := d.items.map Rule.undescribed
    description := ""
    documentation := none }

namespace Leaf

variable (leaf : Leaf)

theorem undescribed_eq : leaf.undescribed =
    { leaf.toFacets.undescribed with
      items := leaf.items.map undescribed
      entries := leaf.entries.map undescribed } := by
  obtain ⟨facets, items, entries⟩ := leaf
  cases items <;> cases entries <;> rfl

@[simp] theorem undescribed_undescribed : leaf.undescribed.undescribed = leaf.undescribed := by
  induction leaf using nested_induction with
  | leaf facets items entries hitems hentries =>
    have inside {inner : Option Leaf}
        (ih : ∀ l ∈ inner, l.undescribed.undescribed = l.undescribed) :
        (inner.map undescribed).map undescribed = inner.map undescribed := by
      rw [Option.map_map]
      exact Option.map_congr ih
    rw [undescribed_eq, undescribed_eq ⟨facets, items, entries⟩]
    simp only [inside hitems, inside hentries]
    rfl

theorem targets_undescribed : leaf.undescribed.targets = leaf.targets := by
  induction leaf using nested_induction with
  | leaf facets items entries hitems hentries =>
    rw [undescribed_eq]
    cases items <;> cases entries <;> simp_all [targets, Facets.undescribed]

theorem checkInner_undescribed (v : Value) (path : Path) (typeName : String)
    (inside : ∀ l, l ∈ leaf.items ∨ l ∈ leaf.entries → ∀ v path,
      l.undescribed.check v path typeName = l.check v path typeName) :
    leaf.undescribed.checkInner v path typeName = leaf.checkInner v path typeName := by
  have hinner : leaf.undescribed.inner? v =
      (leaf.inner? v).map fun (l, members) => (l.undescribed, members) := by
    rw [undescribed_eq]
    cases v <;> simp [inner?, Function.comp_def]
  unfold checkInner
  rw [hinner]
  cases h : leaf.inner? v with
  | none => rfl
  | some inner =>
    obtain ⟨l, members⟩ := inner
    simp only [Option.map_some, inside l (inner?_mem h)]

/-- Nothing that a leaf finds depends on descriptions. -/
theorem check_undescribed (v : Value) (path : Path) (typeName : String) :
    leaf.undescribed.check v path typeName = leaf.check v path typeName := by
  induction leaf using nested_induction generalizing v path with
  | leaf facets items entries hitems hentries =>
    have hinside := checkInner_undescribed ⟨facets, items, entries⟩ v path typeName
      fun l hl => hl.elim (hitems l) (hentries l)
    rw [check_eq, check_eq, hinside, undescribed_eq]
    rfl

end Leaf

namespace Ruling

@[simp] theorem undescribed_undescribed (ruling : Ruling) :
    ruling.undescribed.undescribed = ruling.undescribed := by
  cases ruling with
  | leaf l => exact congrArg leaf l.undescribed_undescribed
  | _ => rfl

theorem record?_undescribed (ruling : Ruling) (d : Descriptor) (key v : Value) :
    ruling.undescribed.record? d key v = ruling.record? d key v := by
  cases ruling <;> rfl

theorem ofRule_undescribed (rule : Rule) (key v : Value) :
    (ofRule rule.undescribed key v).map undescribed = (ofRule rule key v).map undescribed := by
  cases rule with
  | fixed rule =>
    cases rule with
    | leaf l => exact congrArg (fun l => Except.ok (leaf l)) l.undescribed_undescribed
    | _ => rfl
  | _ => rfl

end Ruling

namespace Rule

theorem targets_undescribed (rule : Rule) : rule.undescribed.targets = rule.targets := by
  cases rule with
  | fixed rule =>
    cases rule with
    | leaf l => exact l.targets_undescribed
    | _ => rfl
  | _ => rfl

end Rule

namespace Descriptor

variable (d : Descriptor)

@[simp] theorem isSequence_undescribed : d.undescribed.isSequence = d.isSequence :=
  Option.isSome_map

theorem properties_undescribed : d.undescribed.properties =
    d.properties.map fun (key, rule) => (key, rule.undescribed) := by
  simp only [properties, undescribed]
  cases d.table <;> rfl

theorem lookup_undescribed (key : String) :
    d.undescribed.properties.lookup key = (d.properties.lookup key).map Rule.undescribed := by
  rw [properties_undescribed]
  induction d.properties with
  | nil => rfl
  | cons entry rest ih =>
    rw [List.map_cons, List.lookup_cons, List.lookup_cons, ih]
    cases key == entry.1 <;> rfl

theorem rulingOnOthers_undescribed (key v : Value) :
    (d.undescribed.rulingOnOthers key v).map Ruling.undescribed =
      (d.rulingOnOthers key v).map Ruling.undescribed := by
  simp only [rulingOnOthers, undescribed]
  cases d.additional with
  | none => rfl
  | some rule => exact Ruling.ofRule_undescribed rule key v

/-- The ruling on a child is the same but for the descriptions of a leaf. -/
theorem ruling_undescribed (key v : Value) :
    (d.undescribed.ruling key v).map Ruling.undescribed =
      (d.ruling key v).map Ruling.undescribed := by
  have hitems : d.undescribed.items = d.items.map Rule.undescribed := rfl
  have hothers := d.rulingOnOthers_undescribed key v
  unfold ruling
  rw [hitems]
  cases d.items with
  | some rule =>
    simp only [Option.map_some]
    split
    · exact Ruling.ofRule_undescribed rule key v
    · rfl
  | none =>
    simp only [Option.map_none]
    split
    · rename_i name
      rw [lookup_undescribed]
      cases d.properties.lookup name with
      | some rule => exact Ruling.ofRule_undescribed rule _ v
      | none =>
        have hextension : d.undescribed.isExtension name = d.isExtension name := rfl
        simp only [Option.map_none, hextension]
        split
        · rfl
        · exact hothers
    · exact hothers

/-- A child is resolved to the same outcome but for the descriptions of a leaf. -/
theorem resolveChild_undescribed (key v : Value) :
    (d.undescribed.resolveChild key v).outcome.map ResolvedChild.undescribed =
      (d.resolveChild key v).outcome.map ResolvedChild.undescribed := by
  unfold resolveChild
  rcases map_eq_map.mp (d.ruling_undescribed key v) with
    ⟨fault, hruling, hruling'⟩ | ⟨a, b, hruling, hruling', hsame⟩
  · rw [hruling, hruling']
  · rw [hruling, hruling']
    cases Step.ofValue? key with
    | none => rfl
    | some step => exact congrArg (fun ruling => Except.ok (ResolvedChild.mk step ruling)) hsame

theorem references_undescribed (owner : String) :
    d.undescribed.references owner = d.references owner := by
  have hadditional : d.undescribed.additional = d.additional.map Rule.undescribed := rfl
  have hitems : d.undescribed.items = d.items.map Rule.undescribed := rfl
  simp only [references, properties_undescribed, hadditional, hitems, List.flatMap_map,
    Option.map_map, Function.comp_def, Rule.targets_undescribed]

theorem requiredKeys_undescribed (node : Value) :
    d.undescribed.requiredKeys node = d.requiredKeys node := rfl

theorem checkNode_undescribed (node : Value) (path : Path) :
    d.undescribed.checkNode node path = d.checkNode node path := by
  have hrequired : d.undescribed.checkRequired node path = d.checkRequired node path :=
    checkRequired_of_same d.undescribed d rfl d.requiredKeys_undescribed node path
  rw [checkNode, hrequired]
  rfl

section Combinators

variable {d} {token : Nat} {type : String} {overrides : List (String × Value)}

/-- Descriptive fields are read last and go nowhere else. -/
theorem ofFields_eq (token : Nat) (fields : DescriptorFields) :
    ofFields token fields = (do
      let plain ← ofFields token { fields with description := none, documentation := none }
      let description ← textField "description" fields.description
      let documentation ← optionalField "documentation_link" Value.text? fields.documentation
      return { plain with description, documentation }) := by
  have hdescription : textField "description" none = pure "" := rfl
  have hdocumentation : optionalField "documentation_link" Value.text? none = pure none := rfl
  unfold ofFields
  simp only [bind_assoc, pure_bind, hdescription, hdocumentation]

/-- Overrides that a combinator takes say nothing but descriptions. -/
theorem undescribed_of_combined {fields : DescriptorFields} {plain : Descriptor}
    (hplain : ofFields token { fields with description := none, documentation := none } = .ok plain)
    (h : combined token fields overrides = .ok d) : d.undescribed = plain.undescribed := by
  unfold combined at h
  split at h
  · rw [ofFields_eq] at h
    obtain ⟨plain', hplain', h⟩ := bind_eq_ok.mp h
    obtain ⟨description, -, h⟩ := bind_eq_ok.mp h
    obtain ⟨documentation, -, h⟩ := bind_eq_ok.mp h
    obtain rfl : plain = plain' := Except.ok.inj (hplain.symm.trans hplain')
    obtain rfl := Except.ok.inj h
    rfl
  · contradiction

theorem undescribed_of_listOfFields
    (h : listOfFields token (.value (.text type)) overrides = .ok d) :
    d.undescribed = listOf type := by
  have hplain : ofFields token { name := some (.text "list"), items := .value (.text type) } =
      .ok (listOf type) := rfl
  exact undescribed_of_combined hplain h

theorem undescribed_of_mapOfFields
    (h : mapOfFields token (.value (.text type)) overrides = .ok d) :
    d.undescribed = mapOf type := by
  have hplain : ofFields token { name := some (.text "map"), additional := .value (.text type) } =
      .ok (mapOf type) := rfl
  exact undescribed_of_combined hplain h

end Combinators

end Descriptor

end ShapeLint
