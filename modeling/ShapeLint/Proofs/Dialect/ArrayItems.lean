import ShapeLint.Proofs.Descriptor.Consistency
import ShapeLint.Proofs.Dialect.Definitions

/-!
Arrays that must say what their items are. The items of parameters, the headers and the parameters
of three locations must. The keys of a parameter of a path are listed before its type is looked at,
so it need not. Main statement: `requires_items_iff`.
-/
namespace ShapeLint.Dialect

open Shapes

/-- The types whose arrays are looked at. -/
def arrayTypes : List (String × Descriptor) :=
  [("Parameter", OpenApi2.parameter), ("ParameterItems", OpenApi2.parameterItems),
    ("Header", OpenApi2.header)]

theorem lookup_arrayTypes : ∀ entry ∈ arrayTypes,
    openApi2.tables.lookup entry.1 = .ok (entry.2.copied entry.1) := by
  have hlisted : ∀ entry ∈ arrayTypes, entry ∈ openApi2.types := by
    simp [arrayTypes, types, OpenApi2.types]
  have hunextended : ∀ entry ∈ arrayTypes, entry.1 ∉ extendedTypes := by
    simp only [arrayTypes, List.forall_mem_cons]
    exact ⟨by decide, by decide, by decide, by simp⟩
  exact fun entry hentry => lookup_tables (hlisted entry hentry) (hunextended entry hentry)

/-- An array must say what its items are: a parameter in three locations, all else anywhere. -/
def DemandsItems (type : String) (node : Value) : Prop :=
  type = "Parameter" →
    ∃ location ∈ ["query", "header", "formData"], discriminant node "in" = some location

theorem mem_parameterKeys {node : Value} (array : discriminant node "type" = some "array") :
    "items" ∈ OpenApi2.parameterKeys node ↔
      ∃ location ∈ ["query", "header", "formData"], discriminant node "in" = some location := by
  unfold OpenApi2.parameterKeys
  split
  · simp_all
  · simp_all
  · rename_i location _ _ hlocation
    rw [if_pos array, hlocation]
    by_cases h : location ∈ ["query", "header", "formData"]
    · rw [if_pos (List.contains_iff_mem.mpr h)]
      exact iff_of_true (by decide) ⟨location, h, rfl⟩
    · rw [if_neg (mt List.contains_iff_mem.mp h)]
      refine iff_of_false (by decide) ?_
      rintro ⟨_, hmem, heq⟩
      exact h (Option.some.inj heq ▸ hmem)
  · simp_all

/-- What is required of an array, and whether its items are. -/
theorem requiredKeys_array {node : Value} (array : discriminant node "type" = some "array") :
    ∀ entry ∈ arrayTypes, ∃ required : List String,
      (entry.2.requiredKeys node).outcome = .ok (required.map Value.text) ∧
      ("items" ∈ required ↔ DemandsItems entry.1 node) := by
  have hitems {type : String} (htype : type ≠ "Parameter") {d : Descriptor}
      (hrequired : d.required = .computed (OpenApi2.itemsRequired type)) :
      ∃ required : List String, (d.requiredKeys node).outcome = .ok (required.map Value.text) ∧
        ("items" ∈ required ↔ DemandsItems type node) := by
    refine ⟨_, Descriptor.requiredKeys_of_texts hrequired rfl, ?_⟩
    rw [if_pos array]
    exact iff_of_true (by decide) fun h => absurd h htype
  simp only [arrayTypes, List.forall_mem_cons]
  refine ⟨⟨_, Descriptor.requiredKeys_of_texts rfl rfl, ?_⟩, hitems (by decide) rfl,
    hitems (by decide) rfl, by simp⟩
  rw [mem_parameterKeys array]
  exact ⟨fun h _ => h, fun h => h rfl⟩

/-- Arrays among the items of parameters, among headers and among parameters of the query, of the
header or of a form must have items, which is checked; parameters elsewhere need none. -/
theorem requires_items_iff (settings : Settings) {r : Registry}
    (built : (openApi2.build settings).outcome = .ok r) {type : String}
    (htype : type ∈ arrayTypes.map Prod.fst) {identity : Nat} {entries : List (Scalar × Value)}
    (array : discriminant (.mapping identity entries) "type" = some "array") (path : Path) :
    ∃ descriptor required found, r.lookup type = .ok descriptor ∧
      (descriptor.requiredKeys (.mapping identity entries)).outcome =
        .ok (List.map Value.text required) ∧
      ("items" ∈ required ↔ DemandsItems type (.mapping identity entries)) ∧
      (descriptor.checkRequired (.mapping identity entries) path).outcome = .ok found ∧
      ((∃ x ∈ found, x.code = .missingRequired ∧ x.key = some "items") ↔
        DemandsItems type (.mapping identity entries) ∧ entries.lookup (.text "items") = none) := by
  obtain ⟨entry, hentry, rfl⟩ := List.mem_map.mp htype
  have hopen := lookup_arrayTypes entry hentry
  obtain ⟨descriptor, h⟩ : ∃ descriptor, r.lookup entry.1 = .ok descriptor := by
    refine Registry.exists_lookup ?_
    rw [contains_build openApi2 settings built]
    exact Registry.contains_of_lookup hopen
  have hsame : (descriptor.requiredKeys (.mapping identity entries)).outcome =
      (entry.2.requiredKeys (.mapping identity entries)).outcome := by
    obtain ⟨original, hlookup, hdescriptor⟩ := openApi2.lookup_build settings built h
    obtain rfl := Except.ok.inj (hopen.symm.trans hlookup)
    have hcopied : ((entry.2.copied entry.1).requiredKeys (.mapping identity entries)).outcome =
        (entry.2.requiredKeys (.mapping identity entries)).outcome :=
      Descriptor.outcome_requiredKeys_copied entry.1
    rcases hdescriptor with rfl | rfl
    · exact hcopied
    · rw [Descriptor.requiredKeys_freeze]
      exact hcopied
  obtain ⟨required, hrequired, hitems⟩ := requiredKeys_array array entry hentry
  obtain ⟨found, hfound, hmissing⟩ := Descriptor.checkRequired_texts (hsame.trans hrequired) path
  refine ⟨descriptor, required, found, h, hsame.trans hrequired, hitems, hfound, ?_⟩
  rw [hmissing, hitems]

/-- A parameter that is an array and does not say of what. -/
def arrayParameter (location : String) : List (Scalar × Value) :=
  [(.text "name", .text "ids"), (.text "in", .text location), (.text "required", .bool true),
    (.text "type", .text "array")]

theorem requires_items_iff_query :
    "Parameter" ∈ arrayTypes.map Prod.fst ∧
      discriminant (.mapping 0 (arrayParameter "query")) "type" = some "array" ∧
      ∃ descriptor required found, openApi2.tables.freeze.lookup "Parameter" = .ok descriptor ∧
        (descriptor.requiredKeys (.mapping 0 (arrayParameter "query"))).outcome =
          .ok (List.map Value.text required) ∧
        "items" ∈ required ∧
        (descriptor.checkRequired (.mapping 0 (arrayParameter "query")) []).outcome = .ok found ∧
        ∃ x ∈ found, x.code = .missingRequired ∧ x.key = some "items" := by
  have htype : "Parameter" ∈ arrayTypes.map Prod.fst := by simp [arrayTypes]
  have array : discriminant (.mapping 0 (arrayParameter "query")) "type" = some "array" := by
    decide
  obtain ⟨descriptor, required, found, h, hrequired, hitems, hfound, hmissing⟩ :=
    requires_items_iff {} (outcome_build _ _) htype array []
  have demands : DemandsItems "Parameter" (.mapping 0 (arrayParameter "query")) :=
    fun _ => ⟨"query", by simp, by decide⟩
  exact ⟨htype, array, descriptor, required, found, h, hrequired, hitems.mpr demands, hfound,
    hmissing.mpr ⟨demands, by decide⟩⟩

/-- Not in each of the four locations that take a type must an array have items: in a path one
without items passes, since the keys there are listed before the type is looked at. -/
theorem not_requires_items_path :
    (¬ ∀ (descriptor : Descriptor) (identity : Nat) (entries : List (Scalar × Value)),
      openApi2.tables.freeze.lookup "Parameter" = .ok descriptor →
      discriminant (.mapping identity entries) "type" = some "array" →
      (∃ location ∈ ["query", "header", "path", "formData"],
        discriminant (.mapping identity entries) "in" = some location) →
      ∃ required : List String,
        (descriptor.requiredKeys (.mapping identity entries)).outcome =
          .ok (required.map Value.text) ∧
        "items" ∈ required) ∧
      ∃ descriptor, openApi2.tables.freeze.lookup "Parameter" = .ok descriptor ∧
        (descriptor.checkRequired (.mapping 0 (arrayParameter "path")) []).outcome = .ok [] := by
  have h : openApi2.tables.freeze.lookup "Parameter" =
      .ok { OpenApi2.parameter with name := "Parameter" }.freeze := by
    rw [Registry.lookup_freeze_eq, lookup_arrayTypes ("Parameter", OpenApi2.parameter)]
    · rfl
    · simp [arrayTypes]
  refine ⟨fun hall => ?_, _, h, rfl⟩
  obtain ⟨required, hrequired, hitems⟩ :=
    hall _ 0 (arrayParameter "path") h (by decide) ⟨"path", by simp, by decide⟩
  have hkeys : ["name", "in", "type", "required"].map Value.text = required.map Value.text :=
    Except.ok.inj hrequired
  rw [← List.map_injective_iff.mpr (fun _ _ h => by simpa using h) hkeys] at hitems
  exact absurd hitems (by decide)

end ShapeLint.Dialect
