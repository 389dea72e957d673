import ShapeLint.Proofs.Descriptor.Frozen
import ShapeLint.Proofs.Dialect.Tables
import ShapeLint.Proofs.Walk.Definedness
import ShapeLint.Proofs.Walk.Ending

/-! Walks over the registries of the dialects fail on nothing but numbers that cannot be written,
whatever the document: what the functions of the tables pick is defined, and what they list are
texts. Main statement: `Dialect.visit_build`. -/
namespace ShapeLint

/-- A rule that names the given types only and whose leaf, if it has one, is plain. -/
def FixedRule.Plain (types : List String) (rule : FixedRule) : Prop :=
  (∀ target ∈ rule.targets, target ∈ types) ∧ rule.isPlain

/-- A resolver that picks plain rules only, if it does not fail in a way that is degraded. -/
def Resolver.PicksFrom (types : List String) (f : Resolver) : Prop :=
  ∀ v key, (∃ fault, f.pick v key = .error fault ∧ fault.degrades) ∨
    ∃ picked, f.pick v key = .ok picked ∧ ∀ rule ∈ picked, rule.Plain types

theorem Resolver.PicksFrom.mono {types types' : List String} {f : Resolver} (h : f.PicksFrom types)
    (hsub : types ⊆ types') : f.PicksFrom types' := by
  intro v key
  refine (h v key).imp_right ?_
  rintro ⟨picked, hpick, hplain⟩
  exact ⟨picked, hpick, fun rule hrule =>
    ⟨fun target htarget => hsub ((hplain rule hrule).1 target htarget), (hplain rule hrule).2⟩⟩

namespace Shapes

/-- By the text of the key one type is picked, or none. -/
theorem picksFrom_resolverByKey (dialect name : String) {type : String} {test : String → Bool}
    {pick : String → Option FixedRule}
    (hpick : ∀ key, pick key = if test key then some (.reference type) else none) :
    (resolverByKey dialect name pick).PicksFrom [type] := by
  intro v key
  cases hwritten : key.written with
  | error fault =>
    obtain ⟨-, rfl⟩ := writing_eq_error.mp hwritten
    exact .inl ⟨.unwritable, by simp [resolverByKey, hwritten, Except.map], rfl⟩
  | ok text =>
    refine .inr ⟨pick text, by simp [resolverByKey, hwritten, Except.map], ?_⟩
    rw [hpick]
    split
    · rintro _ ⟨⟩
      exact ⟨by simp [FixedRule.targets], rfl⟩
    · simp

/-- A choice between two plain rules. -/
theorem picksFrom_ite {types : List String} (dialect name : String) (test : Value → Bool)
    {yes no : FixedRule} (hyes : yes.Plain types) (hno : no.Plain types) :
    (resolver dialect name fun v _ => some (if test v then yes else no)).PicksFrom types := by
  intro v key
  refine .inr ⟨_, rfl, ?_⟩
  rintro _ ⟨⟩
  split
  · exact hyes
  · exact hno

theorem picksFrom_schemaOrList : schemaOrList.PicksFrom ["Schema", "SchemaList"] := by
  intro v key
  refine .inr ⟨_, rfl, ?_⟩
  rintro _ ⟨⟩
  cases isList v <;> exact ⟨by decide, by decide⟩

theorem picksFrom_classifyMappingEntry : classifyMappingEntry.PicksFrom ["Schema"] := by
  intro v key
  refine .inr ⟨_, rfl, ?_⟩
  rintro _ ⟨⟩
  cases h : isPointer v <;> simp only [mappingEntry, h] <;> exact ⟨by decide, by decide⟩

theorem picksFrom_typeNameOrList : typeNameOrList.PicksFrom [] := by
  intro v key
  refine .inr ⟨_, rfl, ?_⟩
  rintro _ ⟨⟩
  cases isList v <;> exact ⟨by decide, by decide⟩

end Shapes

namespace Dialect

open Shapes Walk

theorem picksFrom_resolvers (d : Dialect) : ∀ f ∈ d.resolvers, f.PicksFrom d.pickedTypes := by
  intro f hf
  cases d <;> simp only [resolvers, List.mem_cons, List.not_mem_nil, or_false] at hf
  · rcases hf with rfl | rfl | rfl | rfl | rfl | rfl
    · exact (picksFrom_resolverByKey _ _ fun _ => rfl).mono (by decide : ["PathItem"] ⊆ _)
    · exact (picksFrom_resolverByKey _ _ fun _ => rfl).mono (by decide : ["Response"] ⊆ _)
    · exact picksFrom_schemaOrList.mono (by decide)
    · exact picksFrom_ite _ _ isBool ⟨by decide, by decide⟩ ⟨by decide, by decide⟩
    · exact picksFrom_classifyMappingEntry.mono (by decide)
    · exact picksFrom_ite _ _ isBool ⟨by decide, by decide⟩ ⟨by decide, by decide⟩
  · rcases hf with rfl | rfl | rfl | rfl
    · exact (picksFrom_resolverByKey _ _ fun _ => rfl).mono (by decide : ["PathItem"] ⊆ _)
    · exact (picksFrom_resolverByKey _ _ fun _ => rfl).mono (by decide : ["Response"] ⊆ _)
    · exact picksFrom_schemaOrList.mono (by decide)
    · exact picksFrom_ite _ _ isBool ⟨by decide, by decide⟩ ⟨by decide, by decide⟩
  · rcases hf with rfl | rfl | rfl | rfl | rfl | rfl
    · exact picksFrom_ite _ _ isBool ⟨by decide, by decide⟩ ⟨by decide, by decide⟩
    · exact picksFrom_schemaOrList.mono (by decide)
    · exact picksFrom_typeNameOrList.mono (by decide)
    · exact picksFrom_ite _ _ isList ⟨by decide, by decide⟩ ⟨by decide, by decide⟩
    · exact picksFrom_classifyMappingEntry.mono (by decide)
    · exact (picksFrom_resolverByKey _ _ fun _ => rfl).mono (by decide : ["Server"] ⊆ _)

theorem listsTexts_conditionals (d : Dialect) : ∀ g ∈ d.conditionals, g.ListsTexts := by
  intro g hg node
  cases d <;> simp only [conditionals, List.mem_cons, List.not_mem_nil, or_false] at hg
  · rcases hg with rfl | rfl <;> exact ⟨_, rfl⟩
  · rcases hg with rfl | rfl | rfl | rfl | rfl <;> exact ⟨_, rfl⟩
  · rcases hg with rfl | rfl | rfl <;> exact ⟨_, rfl⟩

/-- On a type of the tables every ruling is plain, whatever the child and its key. -/
theorem ruling_tables (d : Dialect) {type : String} {descriptor : Descriptor}
    (h : d.tables.lookup type = .ok descriptor) (key v : Value) :
    ∃ ruling, descriptor.ruling key v = .ok ruling ∧
      (∀ target ∈ ruling.targets, d.tables.contains target) ∧
      ∀ leaf, ruling = .leaf leaf → leaf.isPlain := by
  have huses := (usesOnly_tables d).of_lookup h
  obtain ⟨definition, hdefinition, rfl⟩ := Registry.mem_of_lookup h
  have htargets := Registry.validate_eq_ok_iff.mp d.validate_tables definition hdefinition
  have hplain : ∀ rule ∈ definition.descriptor.rules, rule.isPlain :=
    List.all_eq_true.mp (List.all_eq_true.mp d.isPlain_tables definition hdefinition)
  have hfixed : ∀ rule : FixedRule, (∀ target ∈ rule.targets, d.tables.contains target) →
      rule.isPlain → (∀ target ∈ (Ruling.ofFixed rule).targets, d.tables.contains target) ∧
        ∀ leaf, Ruling.ofFixed rule = .leaf leaf → leaf.isPlain := by
    intro rule hrule hrulePlain
    refine ⟨by rwa [Ruling.targets_ofFixed], ?_⟩
    rintro leaf hleaf
    cases rule <;> simp_all [Ruling.ofFixed, FixedRule.isPlain]
  rcases definition.descriptor.ruling_cases key with h | h | ⟨rule, hrule, h⟩
  · exact ⟨_, h v, by simp [Ruling.targets], by simp⟩
  · exact ⟨_, h v, by simp [Ruling.targets], by simp⟩
  · rw [h]
    cases rule with
    | anything => exact ⟨_, rfl, by simp [Ruling.targets], by simp⟩
    | fixed rule => exact ⟨_, rfl, hfixed rule (htargets _ hrule) (hplain _ hrule)⟩
    | computed f =>
      have hf : f ∈ definition.descriptor.resolvers :=
        List.mem_filterMap.mpr ⟨_, hrule, rfl⟩
      rcases picksFrom_resolvers d f (huses.resolvers f hf) v key with
        ⟨fault, hpick, degrades⟩ | ⟨picked, hpick, hpicked⟩
      · exact ⟨.unvalidated (.resolverFailed fault), by simp [Ruling.ofRule, hpick, degrades],
          by simp [Ruling.targets], by simp⟩
      cases picked with
      | none =>
        exact ⟨.rejected, by simp [Ruling.ofRule, hpick], by simp [Ruling.targets], by simp⟩
      | some rule =>
        obtain ⟨hnames, hrulePlain⟩ := hpicked rule rfl
        exact ⟨.ofFixed rule, by simp [Ruling.ofRule, hpick], hfixed rule
          (fun target htarget => d.contains_pickedTypes target (hnames target htarget))
          hrulePlain⟩

/-- From a type of the tables a walk comes to types of the tables only, and it cannot fail but for a
number that cannot be written. -/
theorem confined_tables (d : Dialect) {type : String} {descriptor : Descriptor}
    (h : d.tables.lookup type = .ok descriptor) :
    descriptor.Confined (fun type => d.tables.contains type) fun _ => False := by
  have hruling := d.ruling_tables h
  have hlists : ∀ g ∈ descriptor.conditionals, g.ListsTexts := fun g hg =>
    d.listsTexts_conditionals g (((usesOnly_tables d).of_lookup h).conditionals g hg)
  constructor
  · intro node path fault hfault
    rcases descriptor.checkNode_texts hlists node path with ⟨found, hfound⟩ | ⟨hlong, long⟩
    · rw [hfound] at hfault
      contradiction
    · obtain rfl := Except.error.inj (hlong.symm.trans hfault)
      exact .inr ⟨rfl, long⟩
  · intro key v fault hfault
    obtain ⟨ruling, hok, -⟩ := hruling key v
    rw [hok] at hfault
    contradiction
  · intro key v ruling hok
    obtain ⟨ruling', hok', htargets, -⟩ := hruling key v
    obtain rfl : ruling' = ruling := by simpa [hok'] using hok
    exact htargets
  · intro key v leaf hok path fault hfault
    obtain ⟨ruling', hok', -, hplain⟩ := hruling key v
    obtain rfl : ruling' = .leaf leaf := by simpa [hok'] using hok
    exact .inr (Leaf.check_error_of_isPlain (hplain leaf rfl) hfault)

theorem confined_freeze {defined : String → Prop} {allowed : Fault → Prop} {d : Descriptor}
    (h : d.Confined defined allowed) : d.freeze.Confined defined allowed where
  keys hfault := h.keys (d.checkNode_freeze _ _ ▸ hfault)
  rule hfault := h.rule (d.ruling_freeze _ _ ▸ hfault)
  targets hok := h.targets (d.ruling_freeze _ _ ▸ hok)
  leaf hok := h.leaf (d.ruling_freeze _ _ ▸ hok)

/-- From a type of a built registry a walk comes to types of that registry only, and it cannot
fail but for a number that cannot be written. -/
theorem confined_build (d : Dialect) (settings : Settings) {r : Registry}
    (built : (d.build settings).outcome = .ok r) {type : String} {descriptor : Descriptor}
    (h : r.lookup type = .ok descriptor) :
    descriptor.Confined (fun type => d.tables.contains type) fun _ => False := by
  obtain ⟨original, hlookup, rfl | rfl⟩ := d.lookup_build settings built h
  · exact d.confined_tables hlookup
  · exact confined_freeze (d.confined_tables hlookup)

/-- A walk over the registry of a dialect with answers that never fail comes to a limit of the
runtime if it fails, and to the limit on texts only where a number is beyond it. -/
theorem fault_of_visit (d : Dialect) (settings : Settings) {s : Surroundings}
    (built : (d.build settings).outcome = .ok s.registry)
    (answered : s.AnswersWithin fun _ => False) {start : String}
    (defined : s.registry.contains start) {depth : Nat} {node : Value} {path : Path}
    {t t' : Traversal} {fault : Fault}
    (hrun : (visit s depth node start path).run t = .error fault t') :
    fault = .nestingTooDeep ∨ fault = .unwritable ∧ ¬ (node.isWritable ∧ s.AnswersWritable) := by
  have hdefined : ∀ type, d.tables.contains type → s.registry.contains type := by
    intro type htype
    rwa [d.contains_build settings built]
  have hconfined : ∀ type descriptor, s.registry.lookup type = .ok descriptor →
      descriptor.Confined (fun type => d.tables.contains type) fun _ => False :=
    fun _ _ h => d.confined_build settings built h
  have hstart : d.tables.contains start := by
    rwa [← d.contains_build settings built]
  exact (visit_error hdefined hconfined answered depth hstart hrun).imp_right
    (Or.resolve_left · id)

end Dialect

end ShapeLint
