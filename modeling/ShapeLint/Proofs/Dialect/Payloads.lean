import ShapeLint.Proofs.Dialect.Transparency
import ShapeLint.Proofs.Walk.Payload

/-!
Payloads under the rules of the dialects. The functions that list keys read texts under the keys
`in`, `type` and `flow`, which are looked at wherever such a function is in force, so nothing that
is overlooked has a say in the checks of its node. Main statement: `Dialect.outcome_payload`.
-/
namespace ShapeLint

/-- A rule that is certain not to overlook a child. -/
def Rule.looks : Rule → Bool
  | fixed (.leaf l) => !(Ruling.leaf l).overlooks
  | fixed _ => true
  | anything | computed _ => false

/-- Whether the rule for a key is certain not to overlook a child. -/
def Descriptor.exposes (d : Descriptor) (key : String) : Bool :=
  d.items.isNone && !((d.properties.lookup key).isNone && d.isExtension key)
    && ((d.properties.lookup key).or d.additional).all Rule.looks

theorem Descriptor.exposes_append {d : Descriptor} {key other : String} (h : key ≠ other)
    (rule : Rule) :
    exposes (d.append [(other, rule)]) key = d.exposes key := by
  have hlookup : (d.properties ++ [(other, rule)]).lookup key = d.properties.lookup key := by
    simp [List.lookup_append, List.lookup_cons, beq_false_of_ne h]
  simp only [exposes, properties_append, additional_append, items_append, isExtension_append,
    hlookup]

theorem Descriptor.looksAt_of_exposes {d : Descriptor} {key : String} (h : d.exposes key) :
    d.LooksAt key := by
  have of_rule : ∀ rule : Rule, rule.looks → ∀ {v ruling},
      Ruling.ofRule rule (.text key) v = .ok ruling → ruling.overlooks = false := by
    intro rule hrule v ruling hruling
    cases rule with
    | fixed rule =>
      obtain rfl := Except.ok.inj hruling
      cases rule with
      | leaf l =>
        show (Ruling.leaf l).overlooks = false
        simpa [Rule.looks] using hrule
      | _ => rfl
    | _ => contradiction
  intro v ruling ruled
  simp only [exposes, Bool.and_eq_true, Option.isNone_iff_eq_none] at h
  obtain ⟨⟨hitems, hextension⟩, hrule⟩ := h
  simp only [Descriptor.ruling, hitems] at ruled
  cases hproperty : d.properties.lookup key with
  | some rule =>
    simp only [hproperty, Option.some_or, Option.all_some] at hrule ruled
    exact of_rule rule hrule ruled
  | none =>
    simp only [hproperty, Option.none_or] at hrule ruled
    simp only [hproperty, Option.isNone_none, Bool.true_and, Bool.not_eq_true'] at hextension
    simp only [hextension, Bool.false_eq_true, if_false, rulingOnOthers] at ruled
    cases hadditional : d.additional with
    | none =>
      rw [hadditional] at ruled
      obtain rfl := Except.ok.inj ruled
      rfl
    | some rule =>
      simp only [hadditional, Option.all_some] at hrule ruled
      exact of_rule rule hrule ruled

theorem Descriptor.Discreet.freeze {d : Descriptor} (h : d.Discreet) : d.freeze.Discreet where
  ruling := h.ruling
  keys kind path := by
    rw [checkNode_freeze, checkNode_freeze]
    exact h.keys kind path
  payload ruled overlooked w path := by
    rw [checkNode_freeze, checkNode_freeze]
    exact h.payload ruled overlooked w path

namespace Dialect

open Walk

/-- In the tables, types whose required or allowed keys depend on a node look at what stands under
the keys they depend on. -/
theorem exposes_tables (d : Dialect) : d.tables.All fun descriptor =>
    descriptor.conditionals ≠ [] → ∀ key ∈ discriminants, descriptor.exposes key := by
  refine d.discriminants_tables (fun h rule => Descriptor.exposes_append h rule) ?_
  cases d <;> decide +kernel

theorem discreet_tables (d : Dialect) {type : String} {descriptor : Descriptor}
    (h : d.tables.lookup type = .ok descriptor) : descriptor.Discreet := by
  have huses := (usesOnly_tables d).of_lookup h
  obtain ⟨definition, hdefinition, rfl⟩ := Registry.mem_of_lookup h
  apply Descriptor.discreet
  · intro f hf
    have hf := huses.resolvers f (List.mem_filterMap.mpr ⟨_, hf, rfl⟩)
    exact ⟨d.blind_resolvers f hf, d.outlined_resolvers f hf⟩
  · intro f hf
    exact d.readsOnly_conditionals f (huses.conditionals f hf)
  · intro hconditionals key hkey
    exact Descriptor.looksAt_of_exposes
      (d.exposes_tables definition hdefinition hconditionals key hkey)

/-- No type of a built registry gives away what it overlooks. -/
theorem discreet_build (d : Dialect) (settings : Settings) {r : Registry}
    (built : (d.build settings).outcome = .ok r) {type : String} {descriptor : Descriptor}
    (h : r.lookup type = .ok descriptor) : descriptor.Discreet := by
  obtain ⟨original, hlookup, rfl | rfl⟩ := d.lookup_build settings built h
  · exact d.discreet_tables hlookup
  · exact (d.discreet_tables hlookup).freeze

/-- Over the registry of a dialect, and over every registry without functions, what no rule looks at
makes no difference: whatever stands there, a walk fails alike or finds the same, in the same order,
and asks for the same pointers. -/
theorem outcome_payload {c : Holed} {old new : Value}
    (rules : c.registry.FunctionFree ∨
      ∃ (d : Dialect) (settings : Settings), (d.build settings).outcome = .ok c.registry)
    (overlooks : c.Overlooks old new) (depth : Nat) (path : Path) :
    outcome (visit (c.surroundings old) depth (c.document old) c.start path) {} =
      outcome (visit (c.surroundings new) depth (c.document new) c.start path) {} := by
  refine Holed.outcome_document overlooks (fun h => ?_) depth path
  rcases rules with free | ⟨d, settings, built⟩
  · exact Registry.discreet_of_functionFree free h
  · exact d.discreet_build settings built h

section Samples

/-- Whether no rule looks at a child. -/
def overlooksAt (d : Descriptor) (key v : Value) : Bool :=
  match d.ruling key v with
  | .ok ruling => ruling.overlooks
  | .error _ => false

theorem ruling_of_overlooksAt {d : Descriptor} {key v : Value} (h : overlooksAt d key v) :
    ∃ ruling, d.ruling key v = .ok ruling ∧ ruling.overlooks := by
  unfold overlooksAt at h
  split at h
  · exact ⟨_, ‹_›, h⟩
  · contradiction

/-- What has been tested of the descriptor of a type holds of it. -/
theorem of_any_lookup {r : Registry} {type : String} {d : Descriptor} {test : Descriptor → Bool}
    (h : r.lookup type = .ok d) (tested : (r.lookup type).toOption.any test) : test d := by
  simpa [h, Except.toOption] using tested

/-- A pointer to the whole document. -/
def selfPointer (identity : Nat) : Value := .mapping identity [(.text "$ref", .text "#")]

/-- A schema with a sample in the hole. All pointers but one lead nowhere, and that one leads to the
schema. -/
def sampledSchema (properties : Value) : Holed :=
  let frame : Frame := .mapping 0 [] (.text "example") [(.text "properties", properties)]
  { registry := openApi3.tables.freeze
    answers := some fun _ pointer =>
      .ok (if pointer.text? = some "#" then frame.fill .null else .null)
    root := frame.fill .null
    start := "Schema"
    frame := frame }

theorem build_sampledSchema (properties : Value) :
    (openApi3.build {}).outcome = .ok (sampledSchema properties).registry := by
  rw [outcome_build]
  rfl

/-- The schemas of properties, of which one is the schema again. -/
def selfProperty : Value := .mapping 1 [(.text "self", selfPointer 2)]

/-- A sample in the form of a pointer. -/
def pointedSample : Value := .mapping 3 [(.text "$ref", .text "#/secret")]

theorem rulings_selfProperty {d : Descriptor}
    (h : (sampledSchema selfProperty).registry.lookup "Schema" = .ok d) :
    (∀ x ∈ [pointedSample, .null], ∃ ruling, d.ruling (.text "example") x = .ok ruling ∧
        ruling.overlooks) ∧
      d.ruling (.text "properties") selfProperty = .ok (.reference "SchemaProperties") := by
  have tested : ((sampledSchema selfProperty).registry.lookup "Schema").toOption.any fun d =>
      overlooksAt d (.text "example") pointedSample && overlooksAt d (.text "example") .null &&
        refersTo d "SchemaProperties" (.text "properties") selfProperty := by
    decide +kernel
  have hrulings := of_any_lookup h tested
  simp only [Bool.and_eq_true] at hrulings
  obtain ⟨⟨hold, hnew⟩, hproperties⟩ := hrulings
  refine ⟨?_, ruling_of_refersTo hproperties⟩
  simpa using ⟨ruling_of_overlooksAt hold, ruling_of_overlooksAt hnew⟩

theorem ruling_self {d : Descriptor}
    (h : (sampledSchema selfProperty).registry.lookup "SchemaProperties" = .ok d) :
    d.ruling (.text "self") (selfPointer 2) = .ok (.reference "Schema") := by
  have tested : ((sampledSchema selfProperty).registry.lookup "SchemaProperties").toOption.any
      fun d => refersTo d "Schema" (.text "self") (selfPointer 2) := by decide +kernel
  exact ruling_of_refersTo (of_any_lookup h tested)

theorem members_sampledSchema {properties x v : Value} {step : Step}
    (h : (step, v) ∈ ((sampledSchema properties).frame.fill x).members) :
    step = .key "example" ∧ v = x ∨ step = .key "properties" ∧ v = properties := by
  rw [Frame.members_fill] at h
  rcases List.mem_cons.mp h with h | h
  · exact .inl (Prod.mk.inj h)
  · exact .inr (Prod.mk.inj (List.mem_singleton.mp h))

theorem members_selfProperty {v : Value} {step : Step} (h : (step, v) ∈ selfProperty.members) :
    step = .key "self" ∧ v = selfPointer 2 :=
  Prod.mk.inj (List.mem_singleton.mp h)

/-- The nodes are the schema, its properties and the pointer. -/
theorem met_selfProperty {v : Value} {type : String}
    (h : (sampledSchema selfProperty).Met pointedSample v type) :
    v = (sampledSchema selfProperty).frame.fill pointedSample ∧ type = "Schema" ∨
      v = selfProperty ∧ type = "SchemaProperties" ∨ v = selfPointer 2 ∧ type = "Schema" := by
  induction h with
  | start => exact .inl ⟨rfl, rfl⟩
  | child _ child ruled ih =>
    rcases ih with ⟨rfl, rfl⟩ | ⟨rfl, rfl⟩ | ⟨rfl, rfl⟩
    · obtain ⟨hsample, hproperties⟩ := rulings_selfProperty child.defined
      rcases members_sampledSchema child.member with ⟨rfl, rfl⟩ | ⟨rfl, rfl⟩
      · obtain ⟨ruling, hruling, overlooked⟩ := hsample pointedSample List.mem_cons_self
        obtain rfl := Except.ok.inj (hruling.symm.trans ruled)
        contradiction
      · have htype := hproperties.symm.trans ruled
        exact .inr (.inl ⟨rfl, (Ruling.reference.inj (Except.ok.inj htype)).symm⟩)
    · obtain ⟨rfl, rfl⟩ := members_selfProperty child.member
      have htype := (ruling_self child.defined).symm.trans ruled
      exact .inr (.inr ⟨rfl, (Ruling.reference.inj (Except.ok.inj htype)).symm⟩)
    · exact absurd child.own (by decide)
  | pointer _ stands given answered ih =>
    rcases ih with ⟨rfl, rfl⟩ | ⟨rfl, rfl⟩ | ⟨rfl, rfl⟩
    · contradiction
    · contradiction
    · obtain rfl := Option.some.inj given
      obtain rfl := Option.some.inj stands
      obtain rfl := Except.ok.inj answered
      exact .inl ⟨rfl, rfl⟩
  | direct _ child _ _ _ given answered mapping ih =>
    -- No child is a text, and what is no text leads nowhere.
    exfalso
    obtain rfl := Option.some.inj given
    rcases ih with ⟨rfl, rfl⟩ | ⟨rfl, rfl⟩ | ⟨rfl, rfl⟩
    · rcases members_sampledSchema child.member with ⟨rfl, rfl⟩ | ⟨rfl, rfl⟩
      all_goals
        obtain rfl := Except.ok.inj answered
        contradiction
    · obtain ⟨rfl, rfl⟩ := members_selfProperty child.member
      obtain rfl := Except.ok.inj answered
      contradiction
    · exact absurd child.own (by decide)

theorem overlooks_selfProperty : (sampledSchema selfProperty).Overlooks pointedSample .null where
  key := by decide
  ruled := by
    intro type d met child
    rcases met_selfProperty met with ⟨-, rfl⟩ | ⟨h, -⟩ | ⟨h, -⟩
    · exact (rulings_selfProperty child.defined).1
    · exact absurd (congrArg Value.identity? h) (by decide)
    · exact absurd (congrArg Value.identity? h) (by decide)
  leaf := by
    intro node type d step v leaf met child ruled holds
    -- The container of the hole stands in no child.
    exfalso
    rcases met_selfProperty met with ⟨rfl, -⟩ | ⟨rfl, -⟩ | ⟨rfl, -⟩
    · rcases members_sampledSchema child.member with ⟨rfl, rfl⟩ | ⟨rfl, rfl⟩
      all_goals exact absurd holds (by decide)
    · obtain ⟨rfl, rfl⟩ := members_selfProperty child.member
      exact absurd holds (by decide)
    · exact absurd child.own (by decide)

theorem outcome_payload_selfProperty :
    (openApi3.build {}).outcome = .ok (sampledSchema selfProperty).registry ∧
      (sampledSchema selfProperty).Overlooks pointedSample .null ∧
      (∀ depth path,
        outcome (visit ((sampledSchema selfProperty).surroundings pointedSample) depth
            ((sampledSchema selfProperty).document pointedSample) "Schema" path) {} =
          outcome (visit ((sampledSchema selfProperty).surroundings .null) depth
            ((sampledSchema selfProperty).document .null) "Schema" path) {}) ∧
      (outcome (visit ((sampledSchema selfProperty).surroundings .null) 4
        ((sampledSchema selfProperty).document .null) "Schema" []) {}).1 = none := by
  have built := build_sampledSchema selfProperty
  refine ⟨built, overlooks_selfProperty, ?_, by decide +kernel⟩
  exact outcome_payload (.inr ⟨openApi3, {}, built⟩) overlooks_selfProperty

/-- Samples of a setting, which must be one mapping. -/
def chosenSetting : Leaf where
  choices := some [.mapping 0 [(.text "sample", .int 1)]]
  entries := some { isExample := true }

/-- Samples of a setting, which is followed as a pointer. -/
def pointingSetting : Leaf where
  resolveAs := some "Root"
  entries := some { isExample := true }

def settingType (setting : Leaf) : Descriptor where
  name := "Root"
  table := .growing [("setting", .leaf setting)]

/-- A document with a setting, and a sample in the hole. -/
def sampledSetting (setting : Leaf) : Holed where
  registry := { dialect := "test", definitions := [⟨"Root", settingType setting, "Root"⟩] }
  answers := some fun _ _ => .ok .null
  root := .mapping 0 [(.text "setting", .mapping 1 [(.text "sample", .null)])]
  start := "Root"
  frame := .mapping 1 [] (.text "sample") []

theorem functionFree_sampledSetting (setting : Leaf) :
    (sampledSetting setting).registry.FunctionFree := by
  intro definition hdefinition
  obtain rfl := List.mem_singleton.mp hdefinition
  refine ⟨fun f hf => ?_, rfl⟩
  have hrule := List.mem_singleton.mp hf
  contradiction

/-- What the walk of the document leaves. -/
def remains (c : Holed) (depth : Nat) (x : Value) : Traversal :=
  (outcome (visit (c.surroundings x) depth (c.document x) c.start []) {}).2

/-- Samples are told apart by the choices for the value around them; by the pointer that this value
is; and by another visit of their container, as a type whose children are schemas. -/
theorem not_outcome_payload :
    (∀ setting ∈ [chosenSetting, pointingSetting],
      (sampledSetting setting).registry.FunctionFree ∧
        (settingType setting).ruling (.text "setting") ((sampledSetting setting).frame.fill .null) =
          .ok (.leaf setting) ∧
        setting.inner? ((sampledSetting setting).frame.fill .null) =
          some ({ isExample := true }, [((sampledSetting setting).frame.step, .null)])) ∧
    (remains (sampledSetting chosenSetting) 2 (.int 1)).violations.length = 0 ∧
    (remains (sampledSetting chosenSetting) 2 (.int 2)).violations.length = 1 ∧
    (remains (sampledSetting pointingSetting) 2 (.int 1)).asked =
      [(sampledSetting pointingSetting).frame.fill (.int 1)] ∧
    (remains (sampledSetting pointingSetting) 2 (.int 2)).asked =
      [(sampledSetting pointingSetting).frame.fill (.int 2)] ∧
    (openApi3.build {}).outcome = .ok (sampledSchema (selfPointer 1)).registry ∧
    (∀ x, (sampledSchema (selfPointer 1)).document x =
      (sampledSchema (selfPointer 1)).frame.fill x) ∧
    ((sampledSchema (selfPointer 1)).registry.lookup "Schema").toOption.any (fun d =>
      overlooksAt d (.text "example") (.int 1) &&
        overlooksAt d (.text "example") (.mapping 2 [])) ∧
    (remains (sampledSchema (selfPointer 1)) 6 (.mapping 2 [])).violations.length = 0 ∧
    (remains (sampledSchema (selfPointer 1)) 6 (.int 1)).violations.length = 1 := by
  have built := build_sampledSchema (selfPointer 1)
  refine ⟨?_, ?_, ?_, rfl, rfl, built, fun _ => rfl, ?_, ?_, ?_⟩
  · intro setting hsetting
    refine ⟨functionFree_sampledSetting setting, rfl, ?_⟩
    rcases List.mem_pair.mp hsetting with rfl | rfl <;> rfl
  all_goals decide +kernel

end Samples

end Dialect

end ShapeLint
