import ShapeLint.Proofs.Descriptor.Blind
import ShapeLint.Proofs.Dialect.Tables

/-! The rules of the dialects do not look below a node: their functions tell lists from mappings,
and they read texts only under the keys `in`, `type` and `flow`, which no walk goes on to. Main
statement: `Dialect.blind_build`. -/
namespace ShapeLint

theorem Resolver.blind_of_kinds {f : Resolver}
    (list : ∀ i xs j ys key, f.pick (.list i xs) key = f.pick (.list j ys) key)
    (mapping : ∀ i es j fs key, f.pick (.mapping i es) key = f.pick (.mapping j fs) key) :
    f.Blind := by
  intro v w container kind key
  cases v with
  | scalar s => contradiction
  | tuple xs => contradiction
  | list i xs =>
    cases w with
    | list j ys => exact list i xs j ys key
    | scalar s => cases s <;> simp [Value.kindName] at kind
    | _ => simp [Value.kindName] at kind
  | mapping i es =>
    cases w with
    | mapping j fs => exact mapping i es j fs key
    | scalar s => cases s <;> simp [Value.kindName] at kind
    | _ => simp [Value.kindName] at kind

/-- A rule that does not send the walk on to the child. -/
def Rule.stays : Rule → Bool
  | fixed (.reference _) | computed _ => false
  | _ => true

/-- Whether the rule for a key is certain not to send the walk on. -/
def Descriptor.staysAt (d : Descriptor) (key : String) : Bool :=
  d.items.isNone && ((d.properties.lookup key).or d.additional).all Rule.stays

theorem Descriptor.staysAt_append {d : Descriptor} {key other : String} (h : key ≠ other)
    (rule : Rule) :
    staysAt (d.append [(other, rule)]) key = d.staysAt key := by
  have hlookup : (d.properties ++ [(other, rule)]).lookup key = d.properties.lookup key := by
    simp [List.lookup_append, List.lookup_cons, beq_false_of_ne h]
  simp only [staysAt, properties_append, additional_append, items_append, hlookup]

theorem Descriptor.notVisited_of_staysAt {d : Descriptor} {key : String} (h : d.staysAt key) :
    d.NotVisited key := by
  have of_rule : ∀ rule : Rule, rule.stays → ∀ v type,
      Ruling.ofRule rule (.text key) v ≠ .ok (.reference type) := by
    intro rule hrule v type
    cases rule with
    | anything => simp [Ruling.ofRule]
    | fixed rule => cases rule <;> simp_all [Rule.stays, Ruling.ofRule, Ruling.ofFixed]
    | computed f => contradiction
  intro v type
  simp only [staysAt, Bool.and_eq_true, Option.isNone_iff_eq_none] at h
  obtain ⟨hitems, hrule⟩ := h
  simp only [ruling, hitems]
  cases hproperty : d.properties.lookup key with
  | some rule =>
    simp only [hproperty, Option.some_or, Option.all_some] at hrule
    exact of_rule rule hrule v type
  | none =>
    simp only [hproperty, Option.none_or] at hrule
    dsimp only
    split
    · simp
    · unfold rulingOnOthers
      cases hadditional : d.additional with
      | none => simp
      | some rule =>
        simp only [hadditional, Option.all_some] at hrule
        exact of_rule rule hrule v type

namespace Dialect

open Shapes

theorem blind_resolvers (d : Dialect) : ∀ f ∈ d.resolvers, f.Blind := by
  intro f hf
  cases d <;> simp only [resolvers, List.mem_cons, List.not_mem_nil, or_false] at hf
  · rcases hf with rfl | rfl | rfl | rfl | rfl | rfl <;>
      exact Resolver.blind_of_kinds (fun _ _ _ _ _ => rfl) fun _ _ _ _ _ => rfl
  · rcases hf with rfl | rfl | rfl | rfl <;>
      exact Resolver.blind_of_kinds (fun _ _ _ _ _ => rfl) fun _ _ _ _ _ => rfl
  · rcases hf with rfl | rfl | rfl | rfl | rfl | rfl <;>
      exact Resolver.blind_of_kinds (fun _ _ _ _ _ => rfl) fun _ _ _ _ _ => rfl

/-- The keys under which the functions that list keys read texts. -/
def discriminants : List String := ["in", "type", "flow"]

theorem readsOnly_conditionals (d : Dialect) : ∀ f ∈ d.conditionals, f.ReadsOnly discriminants := by
  intro f hf v w h
  have hin : discriminant v "in" = discriminant w "in" := h "in" (by simp [discriminants])
  have htype : discriminant v "type" = discriminant w "type" := h "type" (by simp [discriminants])
  have hflow : discriminant v "flow" = discriminant w "flow" := h "flow" (by simp [discriminants])
  cases d <;> simp only [conditionals, List.mem_cons, List.not_mem_nil, or_false] at hf
  · rcases hf with rfl | rfl <;>
      simp only [OpenApi3.securitySchemeRequired, OpenApi3.securitySchemeAllowed, conditional,
        htype]
  · rcases hf with rfl | rfl | rfl | rfl | rfl <;>
      simp only [OpenApi2.parameterRequired, OpenApi2.parameterKeys, OpenApi2.itemsRequired,
        OpenApi2.securitySchemeRequired, OpenApi2.securitySchemeAllowed, conditional, hin, htype,
        hflow]
  · rcases hf with rfl | rfl | rfl
    · simp only [AsyncApi2.securitySchemeRequired, conditional, htype]
    · simp only [AsyncApi2.securitySchemeAllowed, conditional, htype]
    · rfl

/-- What holds under the discriminants for all types whose required or allowed keys depend on a
node, holds so in the tables, since no protocol is a discriminant. -/
theorem discriminants_tables (d : Dialect) {test : Descriptor → String → Bool}
    (append : ∀ {descriptor key other}, key ≠ other → ∀ rule,
      test (descriptor.append [(other, rule)]) key = test descriptor key)
    (check : (d.types.all fun entry => entry.2.conditionals.isEmpty ||
      discriminants.all (test (entry.2.copied entry.1))) = true) :
    d.tables.All fun descriptor =>
      descriptor.conditionals ≠ [] → ∀ key ∈ discriminants, test descriptor key := by
  refine d.all_tables ?_ fun protocol hprotocol descriptor type h hconditionals key hkey => ?_
  · intro entry hentry hconditionals key hkey
    have hentry := List.all_eq_true.mp check entry hentry
    rw [Bool.or_eq_true, List.isEmpty_iff] at hentry
    exact List.all_eq_true.mp (hentry.resolve_left hconditionals) key hkey
  · have hother : ∀ protocol ∈ AsyncApi2.protocolBindings.map Prod.fst, ∀ key ∈ discriminants,
        key ≠ protocol := by decide
    rw [append (hother protocol hprotocol key hkey)]
    exact h hconditionals key hkey

/-- In the tables, types whose required or allowed keys depend on a node are not visited on under
the keys they depend on. -/
theorem staysAt_tables (d : Dialect) : d.tables.All fun descriptor =>
    descriptor.conditionals ≠ [] → ∀ key ∈ discriminants, descriptor.staysAt key := by
  refine d.discriminants_tables (fun h rule => Descriptor.staysAt_append h rule) ?_
  cases d <;> decide +kernel

theorem blind_tables (d : Dialect) {type : String} {descriptor : Descriptor}
    (h : d.tables.lookup type = .ok descriptor) : descriptor.Blind := by
  have huses := (usesOnly_tables d).of_lookup h
  obtain ⟨definition, hdefinition, rfl⟩ := Registry.mem_of_lookup h
  apply Descriptor.blind
  · intro f hf
    exact d.blind_resolvers f (huses.resolvers f (List.mem_filterMap.mpr ⟨_, hf, rfl⟩))
  · intro f hf
    exact d.readsOnly_conditionals f (huses.conditionals f hf)
  · intro hconditionals key hkey
    exact Descriptor.notVisited_of_staysAt
      (d.staysAt_tables definition hdefinition hconditionals key hkey)

/-- No type of a built registry looks below its nodes. -/
theorem blind_build (d : Dialect) (settings : Settings) {r : Registry}
    (built : (d.build settings).outcome = .ok r) {type : String} {descriptor : Descriptor}
    (h : r.lookup type = .ok descriptor) : descriptor.Blind := by
  obtain ⟨original, hlookup, rfl | rfl⟩ := d.lookup_build settings built h
  · exact d.blind_tables hlookup
  · exact (d.blind_tables hlookup).freeze

end Dialect

end ShapeLint
