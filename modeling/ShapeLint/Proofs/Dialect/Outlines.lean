import ShapeLint.Proofs.Descriptor.Frozen
import ShapeLint.Proofs.Descriptor.Outlined
import ShapeLint.Proofs.Dialect.Tables

/-! The functions of the dialects see outlines only: whether a value is a list, a boolean or a text
and which text, and the texts under the keys of a node. -/
namespace ShapeLint

namespace Shapes

theorem isList_outline (v : Value) : isList v.outline = isList v := by
  cases v <;> rfl

theorem isBool_outline (v : Value) : isBool v.outline = isBool v := by
  cases v <;> rfl

theorem isPointer_outline (v : Value) : isPointer v.outline = isPointer v := by
  unfold isPointer
  rw [Value.text?_outline]

theorem discriminant_outline (node : Value) (field : String) :
    discriminant node.outline field = discriminant node field :=
  node.fieldText_outline field

/-- A choice between two rules by a test that sees outlines only. -/
theorem outlined_ite (dialect name : String) {test : Value → Bool} {yes no : FixedRule}
    (htest : ∀ v, test v.outline = test v) (hyes : yes.pointsByText) (hno : no.pointsByText) :
    (resolver dialect name fun v _ => some (if test v then yes else no)).Outlined := by
  constructor
  · intro v key
    simp only [resolver, htest]
  · rintro v key rule ⟨⟩
    split
    · exact hyes
    · exact hno

/-- By the text of the key a reference is picked, or nothing. -/
theorem outlined_resolverByKey (dialect name : String) {type : String} {test : String → Bool}
    {pick : String → Option FixedRule}
    (hpick : ∀ key, pick key = if test key then some (.reference type) else none) :
    (resolverByKey dialect name pick).Outlined := by
  constructor
  · intro v key
    rfl
  · intro v key rule h
    cases hwritten : key.written with
    | error fault => simp [resolverByKey, hwritten, Except.map] at h
    | ok text =>
      simp only [resolverByKey, hwritten, Except.map, Except.ok.injEq, hpick,
        Option.ite_none_right_eq_some, Option.some.injEq] at h
      exact h.2 ▸ rfl

theorem outlined_schemaOrList : schemaOrList.Outlined := by
  constructor
  · intro v key
    simp only [schemaOrList, resolver, isList_outline]
  · rintro v key rule ⟨⟩
    rfl

theorem outlined_classifyMappingEntry : classifyMappingEntry.Outlined := by
  constructor
  · intro v key
    simp only [classifyMappingEntry, resolver, mappingEntry, isPointer_outline]
  · rintro v key rule ⟨⟩
    unfold mappingEntry
    split <;> rfl

theorem outlined_typeNameOrList : typeNameOrList.Outlined := by
  constructor
  · intro v key
    simp only [typeNameOrList, resolver, isList_outline]
  · rintro v key rule ⟨⟩
    split <;> rfl

end Shapes

namespace Dialect

open Shapes

theorem outlined_resolvers (d : Dialect) : ∀ f ∈ d.resolvers, f.Outlined := by
  intro f hf
  cases d <;> simp only [resolvers, List.mem_cons, List.not_mem_nil, or_false] at hf
  · rcases hf with rfl | rfl | rfl | rfl | rfl | rfl
    · exact outlined_resolverByKey _ _ fun _ => rfl
    · exact outlined_resolverByKey _ _ fun _ => rfl
    · exact outlined_schemaOrList
    · exact outlined_ite _ _ isBool_outline rfl rfl
    · exact outlined_classifyMappingEntry
    · exact outlined_ite _ _ isBool_outline rfl rfl
  · rcases hf with rfl | rfl | rfl | rfl
    · exact outlined_resolverByKey _ _ fun _ => rfl
    · exact outlined_resolverByKey _ _ fun _ => rfl
    · exact outlined_schemaOrList
    · exact outlined_ite _ _ isBool_outline rfl rfl
  · rcases hf with rfl | rfl | rfl | rfl | rfl | rfl
    · exact outlined_ite _ _ isBool_outline rfl rfl
    · exact outlined_schemaOrList
    · exact outlined_typeNameOrList
    · exact outlined_ite _ _ isList_outline rfl rfl
    · exact outlined_classifyMappingEntry
    · exact outlined_resolverByKey _ _ fun _ => rfl

theorem outlined_conditionals (d : Dialect) : ∀ f ∈ d.conditionals, f.Outlined := by
  intro f hf node
  cases d <;> simp only [conditionals, List.mem_cons, List.not_mem_nil, or_false] at hf
  · rcases hf with rfl | rfl <;>
      simp only [OpenApi3.securitySchemeRequired, OpenApi3.securitySchemeAllowed, conditional,
        discriminant_outline]
  · rcases hf with rfl | rfl | rfl | rfl | rfl <;>
      simp only [OpenApi2.parameterRequired, OpenApi2.parameterKeys, OpenApi2.itemsRequired,
        OpenApi2.securitySchemeRequired, OpenApi2.securitySchemeAllowed, conditional,
        discriminant_outline]
  · rcases hf with rfl | rfl | rfl
    · simp only [AsyncApi2.securitySchemeRequired, conditional, discriminant_outline]
    · simp only [AsyncApi2.securitySchemeAllowed, conditional, discriminant_outline]
    · rfl

/-- In the tables, leaves that make a value a pointer accept texts only. -/
theorem pointsByText_tables (d : Dialect) :
    d.tables.All fun descriptor => ∀ rule ∈ descriptor.rules, rule.pointsByText := by
  refine d.all_tables ?_ fun protocol _ descriptor type h rule hrule => ?_
  · have hcheck : d.types.all (fun entry => entry.2.rules.all Rule.pointsByText) = true := by
      cases d <;> decide +kernel
    intro entry hentry
    exact List.all_eq_true.mp (List.all_eq_true.mp hcheck entry hentry)
  · rcases descriptor.mem_rules_append hrule with hold | rfl
    · exact h rule hold
    · rfl

theorem outlined_tables (d : Dialect) {type : String} {descriptor : Descriptor}
    (h : d.tables.lookup type = .ok descriptor) : descriptor.Outlined := by
  have huses := (usesOnly_tables d).of_lookup h
  obtain ⟨definition, hdefinition, rfl⟩ := Registry.mem_of_lookup h
  apply Descriptor.outlined
  · intro f hf
    exact d.outlined_resolvers f (huses.resolvers f (List.mem_filterMap.mpr ⟨_, hf, rfl⟩))
  · intro f hf
    exact d.outlined_conditionals f (huses.conditionals f hf)
  · exact d.pointsByText_tables definition hdefinition

theorem outlined_freeze {d : Descriptor} (h : d.Outlined) : d.freeze.Outlined := by
  constructor
  · intro key v
    rw [d.ruling_freeze, d.ruling_freeze, h.ruling]
  · intro node path
    rw [Descriptor.checkNode_freeze, Descriptor.checkNode_freeze, h.keys]
  · intro key v leaf type path hruling
    exact h.pointer (d.ruling_freeze key v ▸ hruling)

/-- The types of a built registry see outlines only. -/
theorem outlined_build (d : Dialect) (settings : Settings) {r : Registry}
    (built : (d.build settings).outcome = .ok r) {type : String} {descriptor : Descriptor}
    (h : r.lookup type = .ok descriptor) : descriptor.Outlined := by
  obtain ⟨original, hlookup, rfl | rfl⟩ := d.lookup_build settings built h
  · exact d.outlined_tables hlookup
  · exact outlined_freeze (d.outlined_tables hlookup)

end Dialect

end ShapeLint
