import ShapeLint.Dialect.Build
import ShapeLint.Proofs.Descriptor.Faults
import ShapeLint.Proofs.Descriptor.TextKeys
import ShapeLint.Proofs.Registry.Assembly

/-! The registries of the dialects as their tables give them: building them succeeds, their static
rules name defined types only, and their functions are those listed here. -/
namespace ShapeLint

def Rule.resolver? : Rule → Option Resolver
  | computed f => some f
  | _ => none

/-- Whether the leaf of a rule, if it has one, is plain. -/
def FixedRule.isPlain : FixedRule → Bool
  | leaf l => l.isPlain
  | _ => true

def Rule.isPlain : Rule → Bool
  | fixed rule => rule.isPlain
  | _ => true

/-- Whether the leaves of all rules are plain, but for those that functions pick. -/
def Registry.isPlain (r : Registry) : Bool :=
  r.definitions.all fun definition => definition.descriptor.rules.all Rule.isPlain

namespace Descriptor

/-- The functions that pick rules. -/
def resolvers (d : Descriptor) : List Resolver := d.rules.filterMap Rule.resolver?

theorem rules_append (d : Descriptor) (added : List (String × Rule)) :
    (d.append added).rules =
      d.properties.map Prod.snd ++ added.map Prod.snd ++ d.additional.toList ++ d.items.toList := by
  simp only [rules, properties_append, List.map_append]
  rfl

theorem resolvers_append_fixed (d : Descriptor) (key : String) (rule : FixedRule) :
    resolvers (d.append [(key, .fixed rule)]) = d.resolvers := by
  rw [resolvers, rules_append]
  simp [resolvers, rules, List.filterMap_cons_none (rfl : Rule.resolver? (.fixed rule) = none)]

theorem mem_rules_append (d : Descriptor) {key : String} {rule other : Rule}
    (h : rule ∈ rules (d.append [(key, other)])) : rule ∈ d.rules ∨ rule = other := by
  simp only [rules_append, List.map_cons, List.map_nil, List.mem_append, List.mem_singleton] at h
  simp only [rules, List.mem_append]
  rcases h with ((h | h) | h) | h
  · exact .inl (.inl (.inl h))
  · exact .inr h
  · exact .inl (.inl (.inr h))
  · exact .inl (.inr h)

/-- All functions of a descriptor are among the given ones. -/
structure UsesOnly (fs : List Resolver) (gs : List Conditional) (d : Descriptor) : Prop where
  resolvers : ∀ f ∈ d.resolvers, f ∈ fs
  conditionals : ∀ g ∈ d.conditionals, g ∈ gs

end Descriptor

namespace Dialect

open Shapes

/-- The functions of a dialect's tables that pick rules. -/
def resolvers : Dialect → List Resolver
  | openApi3 => [OpenApi3.pathItemForPath, OpenApi3.responseForCode, schemaOrList, schemaOrBoolean,
      classifyMappingEntry, OpenApi3.pkceFlagOrOptions]
  | openApi2 => [OpenApi2.pathItemForPath, OpenApi2.responseForCode, schemaOrList, schemaOrBoolean]
  | asyncApi2 => [schemaOrBoolean, schemaOrList, typeNameOrList, dependency, classifyMappingEntry,
      AsyncApi2.serverForName]

/-- The functions of a dialect's tables that list keys. -/
def conditionals : Dialect → List Conditional
  | openApi3 => [OpenApi3.securitySchemeRequired, OpenApi3.securitySchemeAllowed]
  | openApi2 => [OpenApi2.parameterRequired, OpenApi2.itemsRequired "ParameterItems",
      OpenApi2.itemsRequired "Header", OpenApi2.securitySchemeRequired,
      OpenApi2.securitySchemeAllowed]
  | asyncApi2 => [AsyncApi2.securitySchemeRequired, AsyncApi2.securitySchemeAllowed,
      AsyncApi2.bindingProtocols]

/-- The types that the functions of a dialect's tables pick. -/
def pickedTypes : Dialect → List String
  | openApi3 => ["PathItem", "Response", "Schema", "SchemaList", "XUsePkce"]
  | openApi2 => ["PathItem", "Response", "Schema", "SchemaList"]
  | asyncApi2 => ["Schema", "SchemaList", "Server"]

/-- The workbench with all types of the dialect defined. -/
def bench (d : Dialect) : Workbench :=
  match (defineTypes d).run { registry := { dialect := d.name } } with
  | .ok _ w | .error _ w => w

/-- The types of the dialect, open to changes. -/
def tables (d : Dialect) : Registry := d.bench.registry

/-- The types that a dialect defines, bindings of single protocols included. -/
def types : Dialect → List (String × Descriptor)
  | openApi3 => OpenApi3.types
  | openApi2 => OpenApi2.types
  | asyncApi2 => JsonSchema.types ++ (AsyncApi2.types ++ (AsyncApi2.supportTypes ++
      AsyncApi2.protocolBindings.flatMap fun (protocol, shapes) =>
        AsyncApi2.BindingKind.all.map fun kind =>
          (AsyncApi2.bindingTypeName protocol kind.name, (shapes.lookup kind).getD {})))

section All

open Assembly

theorem keeps_defineTypes {P : Registry → Prop} (d : Dialect)
    (given : ∀ entry ∈ d.types, Keeps P (define entry.1 entry.2))
    (installed : ∀ protocol ∈ AsyncApi2.protocolBindings.map Prod.fst,
      ∀ kind : AsyncApi2.BindingKind, ∀ type,
        Keeps P (extend kind.bindingsType [(protocol, ref type)])) :
    Keeps P d.defineTypes := by
  have hdefineAll : ∀ {types : List (String × Descriptor)},
      (∀ entry ∈ types, Keeps P (define entry.1 entry.2)) → Keeps P (defineAll types) :=
    fun h => keeps_forM fun entry hentry => keeps_discard (h entry hentry)
  cases d with
  | openApi3 => exact hdefineAll given
  | openApi2 => exact hdefineAll given
  | asyncApi2 =>
    simp only [types, List.forall_mem_append] at given
    obtain ⟨hschema, hasync, hsupport, hbindings⟩ := given
    have hinstall : ∀ protocol ∈ AsyncApi2.protocolBindings, ∀ kind ∈ AsyncApi2.BindingKind.all,
        Keeps P (AsyncApi2.installBinding protocol.1 protocol.2 kind) := by
      intro protocol hprotocol kind hkind
      have hshape := hbindings _ (List.mem_flatMap.mpr
        ⟨protocol, hprotocol, List.mem_map_of_mem hkind⟩)
      exact keeps_bind (keeps_discard hshape) fun _ =>
        keeps_discard (installed protocol.1 (List.mem_map_of_mem hprotocol) kind _)
    exact keeps_bind (hdefineAll hschema) fun _ =>
      keeps_bind (hdefineAll hasync) fun _ =>
      keeps_bind (hdefineAll hsupport) fun _ =>
      keeps_bind (keeps_forM fun protocol hprotocol => keeps_forM fun kind hkind =>
        hinstall protocol hprotocol kind hkind) fun _ =>
      keeps_bind keeps_registry fun _ => keeps_log _ _ _

/-- What the definitions and the extensions of a dialect keep holds of its tables. -/
theorem tables_of_keeps {P : Registry → Prop} (d : Dialect)
    (keeps : Keeps P d.defineTypes) (empty : P { dialect := d.name }) : P d.tables := by
  have h := keeps { registry := { dialect := d.name } } empty
  unfold tables bench
  split <;> simp_all

variable {P : Descriptor → Prop}

/-- What holds of the types that a dialect defines holds of its tables, if it goes on to hold when
a protocol becomes a property. -/
theorem all_tables (d : Dialect) (given : ∀ entry ∈ d.types, P (entry.2.copied entry.1))
    (installed : ∀ protocol ∈ AsyncApi2.protocolBindings.map Prod.fst, ∀ descriptor type,
      P descriptor → P (descriptor.append [(protocol, ref type)])) :
    d.tables.All P := by
  refine d.tables_of_keeps (d.keeps_defineTypes (fun entry hentry => ?_) ?_)
    (by simp [Registry.All])
  · exact keeps_all_define (given entry hentry)
  · intro protocol hprotocol kind type
    refine keeps_all_extend fun descriptor h entry hentry => ?_
    obtain rfl := List.mem_singleton.mp hentry
    exact installed protocol hprotocol descriptor type h

end All

/-- The functions of the tables are those listed. -/
theorem usesOnly_tables (d : Dialect) :
    d.tables.All (Descriptor.UsesOnly d.resolvers d.conditionals) := by
  have hresolvers : ∀ f ∈ d.types.flatMap (fun entry => entry.2.resolvers), f ∈ d.resolvers := by
    cases d with
    | openApi3 => exact fun f hf => hf
    | openApi2 => exact fun f hf => hf
    | asyncApi2 =>
      have h : asyncApi2.types.flatMap (fun entry => entry.2.resolvers) =
          [schemaOrBoolean, schemaOrList, schemaOrBoolean, typeNameOrList, dependency,
            classifyMappingEntry, AsyncApi2.serverForName] := rfl
      rw [h]
      simp [resolvers]
  have hconditionals : ∀ g ∈ d.types.flatMap (fun entry => entry.2.conditionals),
      g ∈ d.conditionals := by
    cases d with
    | openApi3 => exact fun g hg => hg
    | openApi2 => exact fun g hg => hg
    | asyncApi2 =>
      have h : asyncApi2.types.flatMap (fun entry => entry.2.conditionals) =
          [AsyncApi2.securitySchemeRequired, AsyncApi2.securitySchemeAllowed,
            AsyncApi2.bindingProtocols, AsyncApi2.bindingProtocols, AsyncApi2.bindingProtocols,
            AsyncApi2.bindingProtocols] := rfl
      rw [h]
      simp [conditionals]
  refine d.all_tables (fun entry hentry => ⟨fun f hf => ?_, fun g hg => ?_⟩)
    fun protocol _ descriptor type h => ⟨?_, h.conditionals⟩
  · exact hresolvers f (List.mem_flatMap.mpr ⟨entry, hentry, hf⟩)
  · exact hconditionals g (List.mem_flatMap.mpr ⟨entry, hentry, hg⟩)
  · rw [ref, Descriptor.resolvers_append_fixed]
    exact h.resolvers

/-- The types are defined without a fault, they refer to each other only, their leaves are plain,
and those that functions pick are among them. -/
theorem defineTypes_check (d : Dialect) :
    (match (defineTypes d).run { registry := { dialect := d.name } } with
      | .ok _ w => w.registry.dangling.isEmpty && w.registry.isPlain
        && d.pickedTypes.all w.registry.contains
      | .error _ _ => false) = true := by
  cases d <;> decide +kernel

theorem run_defineTypes (d : Dialect) :
    (defineTypes d).run { registry := { dialect := d.name } } = .ok () d.bench := by
  have h := defineTypes_check d
  unfold bench
  split at h
  · rename_i hrun
    rw [hrun]
  · contradiction

theorem validate_tables (d : Dialect) : d.tables.validate = .ok () := by
  have h := defineTypes_check d
  rw [run_defineTypes] at h
  have hdangling : d.tables.dangling = [] := by simp_all [tables]
  rw [Registry.validate, hdangling]

theorem isPlain_tables (d : Dialect) : d.tables.isPlain := by
  have h := defineTypes_check d
  rw [run_defineTypes] at h
  simp_all [tables]

theorem contains_pickedTypes (d : Dialect) : ∀ type ∈ d.pickedTypes, d.tables.contains type := by
  have h := defineTypes_check d
  rw [run_defineTypes] at h
  simp_all [tables]

/-- Building the registry of a dialect succeeds, whatever the settings, which only decide whether
it is frozen. -/
theorem outcome_build (d : Dialect) (settings : Settings) :
    (d.build settings).outcome =
      .ok (if settings.freeze then d.tables.freeze else d.tables) := by
  have hvalidate : d.bench.registry.validate = .ok () := d.validate_tables
  unfold build assemble
  simp only [EStateM.run_bind, run_defineTypes]
  cases settings.freeze with
  | true =>
    simp only [if_true, EStateM.run_bind, Assembly.run_freeze, hvalidate, ite_self]
    rfl
  | false =>
    cases settings.selfCheck with
    | true =>
      simp only [Bool.false_eq_true, if_true, if_false, EStateM.run_bind, Assembly.run_validate,
        hvalidate]
      rfl
    | false => rfl

/-- A built registry has the types of the tables, each perhaps frozen. -/
theorem lookup_build (d : Dialect) (settings : Settings) {r : Registry}
    (built : (d.build settings).outcome = .ok r) {type : String} {descriptor : Descriptor}
    (h : r.lookup type = .ok descriptor) :
    ∃ original, d.tables.lookup type = .ok original ∧
      (descriptor = original ∨ descriptor = original.freeze) := by
  rw [outcome_build] at built
  obtain rfl := Except.ok.inj built
  split at h
  · obtain ⟨original, hlookup, rfl⟩ := Registry.lookup_freeze h
    exact ⟨original, hlookup, .inr rfl⟩
  · exact ⟨descriptor, h, .inl rfl⟩

theorem contains_build (d : Dialect) (settings : Settings) {r : Registry}
    (built : (d.build settings).outcome = .ok r) (type : String) :
    r.contains type = d.tables.contains type := by
  rw [outcome_build] at built
  obtain rfl := Except.ok.inj built
  split
  · exact Registry.contains_freeze type
  · rfl

end Dialect

end ShapeLint
