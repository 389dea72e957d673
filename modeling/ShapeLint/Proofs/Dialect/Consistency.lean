import ShapeLint.Proofs.Dialect.Repetition
import ShapeLint.Proofs.Walk.Consistency

/-!
The tables of the dialects do not contradict themselves. Most types list their keys; the others have
functions that tell nodes apart by a few texts, and for each of the kinds that they tell apart what
is required is among what is allowed, and has a rule. Main statement: `Dialect.consistent_build`.
-/
namespace ShapeLint

namespace Descriptor

variable {d : Descriptor} {node : Value}

/-- Without functions the lists of keys are all that counts. -/
theorem consistent_of_listed (hconditionals : d.conditionals = [])
    (hrequired : d.required.listedKeys.all d.takes)
    (hchoice : d.requiredOneOf.all fun group => group.all d.takes) : d.Consistent := by
  simp only [conditionals, List.append_eq_nil_iff, Option.toList_eq_nil_iff] at hconditionals
  obtain ⟨hlisted, hallowed⟩ := hconditionals
  refine ⟨fun node => ?_, fun group hgroup => ?_, fun _ => hallowed⟩
  · cases hkeys : d.required with
    | computed f => simp [hkeys, Requirement.conditional?] at hlisted
    | listed keys =>
      rw [hkeys] at hrequired
      refine ⟨keys.toList, ?_, hrequired, by simp [hallowed]⟩
      simp only [requiredKeys, hkeys]
      exact keys.keys_value
  · rw [hgroup] at hchoice
    exact hchoice

/-- The keys that are required are among those that are allowed, and the latter have rules. -/
def fits (d : Descriptor) (required allowed : List String) : Bool :=
  required.all allowed.contains && required.all d.takes && allowed.all d.takes

/-- Functions that list fitting keys for every node. -/
theorem consistent_of_fits {required allowed : Value → List String} {g : Conditional}
    (hrequired : ∀ node, (d.requiredKeys node).outcome = .ok ((required node).map Value.text))
    (hallowed : d.allowed = some g)
    (hkeys : ∀ node, g.keys node = .ok (Value.texts (allowed node)))
    (hchoice : d.requiredOneOf = none) (hfits : ∀ node, d.fits (required node) (allowed node)) :
    d.Consistent where
  node node := by
    have h := hfits node
    simp only [fits, Bool.and_eq_true] at h
    obtain ⟨⟨hsubset, htaken⟩, htaken'⟩ := h
    refine ⟨required node, hrequired node, htaken, fun f hf => ?_⟩
    have hsubset : ∀ key ∈ required node, key ∈ allowed node := by simpa using hsubset
    obtain rfl : g = f := Option.some.inj (hallowed.symm.trans hf)
    exact ⟨allowed node, allowedKeys_of_texts (hkeys node), hsubset, htaken'⟩
  choice group hgroup := by simp [hchoice] at hgroup
  apart h := by simp [hchoice] at h

theorem consistent_of_required {required : Value → List String}
    (hrequired : ∀ node, (d.requiredKeys node).outcome = .ok ((required node).map Value.text))
    (hallowed : d.allowed = none) (hchoice : d.requiredOneOf = none)
    (htaken : ∀ node, (required node).all d.takes) : d.Consistent where
  node node := ⟨required node, hrequired node, htaken node, by simp [hallowed]⟩
  choice group hgroup := by simp [hchoice] at hgroup
  apart h := by simp [hchoice] at h

end Descriptor

namespace Shapes

/-- What holds of two tables for each kind that one of them names, and for the other kinds, holds of
them for the kind that a node is of. -/
theorem forall_keysByKind₂ {P : List String → List String → Prop}
    {cases cases' : List (String × List String)} {others others' : List String}
    (hothers : P others others')
    (hcases : ∀ kind ∈ cases.map Prod.fst ++ cases'.map Prod.fst,
      P (keysByKind cases others (some kind)) (keysByKind cases' others' (some kind)))
    (kind : Option String) : P (keysByKind cases others kind) (keysByKind cases' others' kind) := by
  cases kind with
  | none => exact hothers
  | some kind =>
    by_cases hkind : kind ∈ cases.map Prod.fst ++ cases'.map Prod.fst
    · exact hcases kind hkind
    · rw [List.mem_append, not_or] at hkind
      have hnone {cases : List (String × List String)} (h : kind ∉ cases.map Prod.fst) :
          cases.lookup kind = none := by
        rw [List.lookup_eq_none_iff]
        exact fun entry hentry => bne_iff_ne.mpr fun heq =>
          h (List.mem_map.mpr ⟨entry, hentry, heq.symm⟩)
      simpa [keysByKind, hnone hkind.1, hnone hkind.2] using hothers

theorem consistent_securityScheme₃ : OpenApi3.securityScheme.Consistent := by
  refine Descriptor.consistent_of_fits (fun node => Descriptor.requiredKeys_of_texts rfl rfl) rfl
    (fun node => rfl) rfl fun node => ?_
  exact forall_keysByKind₂ (P := fun required allowed =>
    OpenApi3.securityScheme.fits required allowed = true) (by decide +kernel) (by decide +kernel) _

theorem consistent_securityScheme : AsyncApi2.securityScheme.Consistent := by
  refine Descriptor.consistent_of_fits (fun node => Descriptor.requiredKeys_of_texts rfl rfl) rfl
    (fun node => rfl) rfl fun node => ?_
  exact forall_keysByKind₂ (P := fun required allowed =>
    AsyncApi2.securityScheme.fits required allowed = true) (by decide +kernel) (by decide +kernel) _

/-- Kinds of security schemes, and for one of them kinds of flows. -/
theorem consistent_securityScheme₂ : OpenApi2.securityScheme.Consistent := by
  refine Descriptor.consistent_of_fits (fun node => Descriptor.requiredKeys_of_texts rfl rfl) rfl
    (fun node => rfl) rfl fun node => ?_
  dsimp only
  by_cases htype : discriminant node "type" = some "oauth2"
  · rw [if_pos htype, if_pos htype]
    exact forall_keysByKind₂ (P := fun required allowed => OpenApi2.securityScheme.fits
      (["type", "flow", "scopes"] ++ required)
      (["type", "flow", "scopes", "description"] ++ allowed) = true)
      (by decide +kernel) (by decide +kernel) _
  · rw [if_neg htype, if_neg htype]
    exact forall_keysByKind₂ (P := fun required allowed =>
      OpenApi2.securityScheme.fits required allowed = true)
      (by decide +kernel) (by decide +kernel) _

theorem consistent_parameter : OpenApi2.parameter.Consistent := by
  refine Descriptor.consistent_of_required
    (fun node => Descriptor.requiredKeys_of_texts rfl rfl) rfl rfl fun node => ?_
  unfold OpenApi2.parameterKeys
  split
  · decide +kernel
  · decide +kernel
  · split
    · split <;> decide +kernel
    · decide +kernel
  · decide +kernel

/-- A type whose arrays must say what their items are. -/
theorem consistent_of_itemsRequired {d : Descriptor} {type : String}
    (hrequired : d.required = .computed (OpenApi2.itemsRequired type)) (hallowed : d.allowed = none)
    (hchoice : d.requiredOneOf = none) (htaken : ["type", "items"].all d.takes) : d.Consistent := by
  refine Descriptor.consistent_of_required
    (fun node => Descriptor.requiredKeys_of_texts hrequired rfl) hallowed hchoice fun node => ?_
  split
  · exact htaken
  · simp only [List.all_cons, Bool.and_eq_true] at htaken
    simp [htaken.1]

/-- All protocols are admitted, with a shape of their own or without. -/
theorem consistent_bindings (documentation : String) :
    (AsyncApi2.bindings documentation).Consistent := by
  have hrequired : ∀ node, ((AsyncApi2.bindings documentation).requiredKeys node).outcome =
      .ok (([] : List String).map Value.text) := fun _ => rfl
  refine Descriptor.consistent_of_fits hrequired rfl (fun node => rfl) rfl fun node => ?_
  have htakes : (AsyncApi2.bindings documentation).takes = fun _ => true := rfl
  simp [Descriptor.fits, htakes]

end Shapes

namespace Dialect

open Shapes

/-- The types with functions that list keys. -/
def functionTypes : Dialect → List (String × Descriptor)
  | openApi3 => [("SecurityScheme", OpenApi3.securityScheme)]
  | openApi2 => [("Parameter", OpenApi2.parameter), ("ParameterItems", OpenApi2.parameterItems),
      ("Header", OpenApi2.header), ("SecurityScheme", OpenApi2.securityScheme)]
  | asyncApi2 => [("SecurityScheme", AsyncApi2.securityScheme),
      ("ServerBindings", AsyncApi2.serverBindings), ("ChannelBindings", AsyncApi2.channelBindings),
      ("MessageBindings", AsyncApi2.messageBindings),
      ("OperationBindings", AsyncApi2.operationBindings)]

theorem filter_types (d : Dialect) :
    d.types.filter (fun entry => !entry.2.conditionals.isEmpty) = d.functionTypes := by
  cases d <;> rfl

theorem consistent_functionTypes (d : Dialect) : ∀ entry ∈ d.functionTypes, entry.2.Consistent := by
  intro entry hentry
  cases d <;> simp only [functionTypes, List.mem_cons, List.not_mem_nil, or_false] at hentry
  · obtain rfl := hentry
    exact consistent_securityScheme₃
  · rcases hentry with rfl | rfl | rfl | rfl
    · exact consistent_parameter
    · exact consistent_of_itemsRequired rfl rfl rfl (by decide +kernel)
    · exact consistent_of_itemsRequired rfl rfl rfl (by decide +kernel)
    · exact consistent_securityScheme₂
  · rcases hentry with rfl | rfl | rfl | rfl | rfl
    · exact consistent_securityScheme
    · exact consistent_bindings _
    · exact consistent_bindings _
    · exact consistent_bindings _
    · exact consistent_bindings _

/-- In the types without functions all keys that are listed have rules. -/
theorem taken_listed (d : Dialect) : (d.types.all fun entry =>
    !entry.2.conditionals.isEmpty || (entry.2.required.listedKeys.all entry.2.takes &&
      entry.2.requiredOneOf.all fun group => group.all entry.2.takes)) = true := by
  cases d <;> decide +kernel

theorem consistent_types (d : Dialect) : ∀ entry ∈ d.types, entry.2.Consistent := by
  intro entry hentry
  cases hfunctions : entry.2.conditionals.isEmpty with
  | true =>
    have htaken := List.all_eq_true.mp d.taken_listed entry hentry
    simp only [hfunctions, Bool.not_true, Bool.false_or, Bool.and_eq_true] at htaken
    exact Descriptor.consistent_of_listed (List.isEmpty_iff.mp hfunctions) htaken.1 htaken.2
  | false =>
    refine d.consistent_functionTypes entry ?_
    rw [← filter_types]
    exact List.mem_filter.mpr ⟨hentry, by simp [hfunctions]⟩

theorem consistent_tables (d : Dialect) : d.tables.All Descriptor.Consistent :=
  d.all_tables (fun entry hentry => (d.consistent_types entry hentry).copied entry.1)
    fun protocol _ _ _ h => h.append protocol rfl

theorem consistent_lookup (d : Dialect) (settings : Settings) {r : Registry}
    (built : (d.build settings).outcome = .ok r) : Walk.Consistent r := by
  intro type descriptor h
  obtain ⟨original, hlookup, rfl | rfl⟩ := d.lookup_build settings built h
  · exact d.consistent_tables.of_lookup hlookup
  · exact (d.consistent_tables.of_lookup hlookup).freeze

open Walk in
/-- In the registry of a dialect all that a type requires of a node is among what it allows, if it
has an allow-list, and the node's child under any key that is required, to be chosen from or allowed
is resolved and not rejected, whatever the child. So a walk reports no such key as unknown or
disallowed. -/
theorem consistent_build (d : Dialect) (settings : Settings) {r : Registry}
    (built : (d.build settings).outcome = .ok r) :
    (∀ type descriptor, r.lookup type = .ok descriptor → ∀ node,
      (∃ required : List String,
        (descriptor.requiredKeys node).outcome = .ok (required.map Value.text) ∧
        ∀ f, descriptor.allowed = some f →
          ∃ allowed, Descriptor.allowedKeys f node = .ok allowed ∧ required ⊆ allowed) ∧
      ∀ key, descriptor.Foresees node key → ∀ v, ∃ ruling,
        (descriptor.resolveChild (.text key) v).outcome = .ok ⟨.key key, ruling⟩ ∧
          ruling ≠ .rejected) ∧
    ∀ answers depth node type path, ∀ x ∈
      (left (visit { registry := r, answers } depth node type path) {}).violations,
      x.code = .unknownKey ∨ x.code = .disallowedKey →
        ∃ e ∈ nodesEntered { registry := r, answers } depth node type path {},
          (∃ place found, .report found ∈ nodeActions r e.1 e.2 place ∧ x ∈ found) ∧
          ∃ descriptor key, r.lookup e.2 = .ok descriptor ∧ x.key = some key ∧
            ¬ descriptor.Foresees e.1 key := by
  have consistent := d.consistent_lookup settings built
  refine ⟨fun type descriptor h node => ⟨?_, fun key foreseen v => ?_⟩, ?_⟩
  · obtain ⟨required, listed, -, allowed⟩ := (consistent h).node node
    refine ⟨required, listed, fun f hf => ?_⟩
    obtain ⟨keys, hkeys, hsubset, -⟩ := allowed f hf
    exact ⟨keys, hkeys, hsubset⟩
  · obtain ⟨ruling, hruling, haccepted⟩ :=
      Descriptor.accepted_of_takes ((consistent h).taken foreseen) v
    refine ⟨ruling, ?_, ?_⟩
    · rw [Descriptor.outcome_resolveChild_text, hruling]
      rfl
    · rintro rfl
      contradiction
  · intro answers depth node type path x hx code
    exact (reported_not_foreseen consistent hx code).resolve_left (by simp)

/-- A text is one of the keys that a descriptor requires of a node. -/
def requires (d : Descriptor) (node : Value) (key : String) : Bool :=
  match (d.requiredKeys node).outcome with
  | .ok keys => keys.any fun v => v.text? == some key
  | .error _ => false

theorem foresees_of_requires {d : Descriptor} {node : Value} {key : String}
    (h : requires d node key) : d.Foresees node key := by
  unfold requires at h
  split at h
  · rename_i keys hkeys
    obtain ⟨v, hv, htext⟩ := List.any_eq_true.mp h
    cases v with
    | scalar x =>
      cases x with
      | text name =>
        obtain rfl : name = key := by simpa [Value.text?] using htext
        exact .required hkeys hv
      | _ => simp [Value.text?] at htext
    | _ => simp [Value.text?] at htext
  · contradiction

/-- A scheme that is told by its type and then by its flow, with a key that neither calls for. -/
def flowScheme : Value :=
  .mapping 0 [(.text "type", .text "oauth2"), (.text "flow", .text "accessCode"),
    (.text "in", .int 1)]

theorem consistent_build_flowScheme : ∃ descriptor,
    openApi2.tables.freeze.lookup "SecurityScheme" = .ok descriptor ∧
    descriptor.Foresees flowScheme "tokenUrl" ∧
    (∃ required : List String,
      (descriptor.requiredKeys flowScheme).outcome = .ok (required.map Value.text) ∧
      ∀ f, descriptor.allowed = some f →
        ∃ allowed, Descriptor.allowedKeys f flowScheme = .ok allowed ∧ required ⊆ allowed) ∧
    ∀ v, ∃ ruling, (descriptor.resolveChild (.text "tokenUrl") v).outcome =
      .ok ⟨.key "tokenUrl", ruling⟩ ∧ ruling ≠ .rejected := by
  have tested : (openApi2.tables.freeze.lookup "SecurityScheme").toOption.any fun d =>
      requires d flowScheme "tokenUrl" := by decide +kernel
  obtain ⟨descriptor, h⟩ : ∃ d, openApi2.tables.freeze.lookup "SecurityScheme" = .ok d :=
    Registry.exists_lookup (by decide +kernel)
  have foreseen : descriptor.Foresees flowScheme "tokenUrl" :=
    foresees_of_requires (by simpa [h, Except.toOption] using tested)
  have consistent := (consistent_build openApi2 {} (outcome_build _ _)).1 _ _ h flowScheme
  exact ⟨descriptor, h, foreseen, consistent.1, consistent.2 "tokenUrl" foreseen⟩

end Dialect

end ShapeLint
