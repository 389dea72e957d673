import ShapeLint.Proofs.Descriptor.Descriptions
import ShapeLint.Proofs.Registry.Order

/-!
Registries that differ in descriptions alone. They resolve children alike but for the descriptions
of leaves, check nodes alike, pass the self-check or fail it with the same list, and lead every walk
the same way. To definitions and extensions, though, a rule with another description is another
rule. Main statement: `descriptions_decide_nothing`.
-/
namespace ShapeLint

namespace Walk

variable (d : Descriptor)

theorem rulingActions_undescribed (step : Step) (v : Value) (path : Path) (ruling : Ruling) :
    rulingActions d step v path ruling.undescribed = rulingActions d step v path ruling := by
  cases ruling with
  | leaf l =>
    have hmarker : l.undescribed.resolveAs = l.resolveAs := by
      rw [l.undescribed_eq]
      rfl
    simp only [Ruling.undescribed, rulingActions, leafActions, l.check_undescribed, hmarker]
  | _ => rfl

theorem rulingAt_undescribed (step : Step) (v : Value) :
    (rulingAt d.undescribed step v).map Ruling.undescribed =
      (rulingAt d step v).map Ruling.undescribed := by
  unfold rulingAt
  cases step.take with
  | error fault => rfl
  | ok => exact d.ruling_undescribed (stepKey step) v

theorem childActions_undescribed (path : Path) (step : Step) (v : Value) :
    childActions d.undescribed path step v = childActions d path step v := by
  unfold childActions
  rcases map_eq_map.mp (rulingAt_undescribed d step v) with
    ⟨fault, hruling, hruling'⟩ | ⟨a, b, hruling, hruling', hsame⟩
  · rw [hruling, hruling']
  · have hrecord : a.record? d.undescribed (stepKey step) v = b.record? d (stepKey step) v := by
      rw [← a.record?_undescribed, hsame, b.record?_undescribed]
      cases b <;> rfl
    have hactions : rulingActions d.undescribed step v (path ++ [step]) a =
        rulingActions d step v (path ++ [step]) b := by
      rw [← rulingActions_undescribed, hsame, rulingActions_undescribed]
      cases b <;> rfl
    simp only [hruling, hruling', hrecord, hactions]

theorem shapeActions_undescribed (node : Value) (path : Path) :
    shapeActions d.undescribed node path = shapeActions d node path := by
  have hmembers : members? d.undescribed node = members? d node := by
    cases node <;> simp [members?]
  have hexpected : expectedType d.undescribed = expectedType d := by
    simp [expectedType]
  unfold shapeActions
  rw [hmembers, hexpected, d.checkNode_undescribed]
  simp only [childActions_undescribed]
  rfl

end Walk

namespace Registry

/-- The types of a registry in order of definition, without descriptions. -/
def undescribed (r : Registry) : List (String × Descriptor) :=
  r.definitions.map fun definition => (definition.name, definition.descriptor.undescribed)

/-- The same names in the same order, with descriptors that differ in descriptions at most, in their
own and in those of leaves at any depth in their rules. -/
structure Redescribed (r r' : Registry) : Prop where
  dialect : r'.dialect = r.dialect
  undescribed : r'.undescribed = r.undescribed

/-- Two registries that decide alike about children, about nodes and about documents. -/
structure DecidesAlike (r r' : Registry) : Prop where
  resolveChild (type : String) (key v : Value) :
    ((r'.lookup type).map fun d =>
        (d.resolveChild key v).outcome.map ResolvedChild.undescribed) =
      (r.lookup type).map fun d => (d.resolveChild key v).outcome.map ResolvedChild.undescribed
  requiredKeys (type : String) (node : Value) :
    (r'.lookup type).map (fun d => d.requiredKeys node) =
      (r.lookup type).map fun d => d.requiredKeys node
  checkNode (type : String) (node : Value) (path : Path) :
    (r'.lookup type).map (fun d => d.checkNode node path) =
      (r.lookup type).map fun d => d.checkNode node path
  visit (answers : Option PointerAnswers) (depth : Nat) :
    Walk.visit { registry := r', answers } depth = Walk.visit { registry := r, answers } depth

/-- Two registries that both pass the self-check, or fail it with the same list but for its
order. -/
def PassesAlike (r r' : Registry) : Prop :=
  (r.validate = .ok () ∧ r'.validate = .ok ()) ∨
    ∃ dangling dangling', r.validate = .error (.danglingReferences r.dialect dangling) ∧
      r'.validate = .error (.danglingReferences r.dialect dangling') ∧ dangling.Perm dangling'

variable {r r' : Registry}

/-- What a descriptor says whatever its descriptions are. -/
theorem map_lookup_undescribed {α : Type} {answer : Descriptor → α}
    (indifferent : ∀ d : Descriptor, answer d.undescribed = answer d) {type : String}
    (h : (r'.lookup type).map Descriptor.undescribed = (r.lookup type).map Descriptor.undescribed) :
    (r'.lookup type).map answer = (r.lookup type).map answer := by
  rcases map_eq_map.mp h with ⟨fault, hd, hd'⟩ | ⟨d', d, hd', hd, hsame⟩
  · rw [hd, hd']
  · have hanswer : answer d' = answer d := by
      rw [← indifferent d', hsame, indifferent d]
    rw [hd', hd]
    exact congrArg Except.ok hanswer

/-- Only what look-ups give counts, and of that no description. -/
theorem decidesAlike_of_lookup (h : ∀ type, (r'.lookup type).map Descriptor.undescribed =
    (r.lookup type).map Descriptor.undescribed) : r.DecidesAlike r' where
  resolveChild type key v :=
    map_lookup_undescribed (fun d => d.resolveChild_undescribed key v) (h type)
  requiredKeys type node :=
    map_lookup_undescribed (fun d => d.requiredKeys_undescribed node) (h type)
  checkNode type node path :=
    map_lookup_undescribed (fun d => d.checkNode_undescribed node path) (h type)
  visit := Walk.visit_congr fun node type path => by
    have hshape : (r'.lookup type).map (fun d => Walk.shapeActions d node path) =
        (r.lookup type).map fun d => Walk.shapeActions d node path :=
      map_lookup_undescribed (fun d => Walk.shapeActions_undescribed d node path) (h type)
    unfold Walk.nodeActions
    cases Walk.pointerOf? node with
    | some pointer => rfl
    | none =>
      rcases map_eq_map.mp hshape with ⟨fault, hd, hd'⟩ | ⟨d', d, hd', hd, hsame⟩
      · rw [hd, hd']
      · rw [hd', hd]
        exact hsame

theorem lookup_undescribed (r : Registry) (type : String) :
    (r.lookup type).map Descriptor.undescribed =
      match r.undescribed.find? fun entry => entry.1 == type with
      | some entry => .ok entry.2
      | none => .error (.undefinedType type r.dialect) := by
  unfold lookup find? undescribed
  rw [List.find?_map]
  simp only [Function.comp_def]
  cases r.definitions.find? fun definition => definition.name == type <;> rfl

theorem contains_undescribed (r : Registry) (name : String) :
    r.contains name = (r.undescribed.find? fun entry => entry.1 == name).isSome := by
  unfold contains find? undescribed
  rw [List.find?_map, Option.isSome_map]
  rfl

theorem references_undescribed (r : Registry) :
    r.references = r.undescribed.flatMap fun entry => entry.2.references entry.1 := by
  simp only [references, undescribed, List.flatMap_map, Descriptor.references_undescribed]

theorem Redescribed.lookup (h : r.Redescribed r') (type : String) :
    (r'.lookup type).map Descriptor.undescribed =
      (r.lookup type).map Descriptor.undescribed := by
  rw [lookup_undescribed, lookup_undescribed, h.undescribed, h.dialect]

theorem Redescribed.validate (h : r.Redescribed r') : r'.validate = r.validate := by
  have hdangling : r'.dangling = r.dangling := by
    simp only [dangling, references_undescribed, contains_undescribed, h.undescribed]
  unfold Registry.validate
  rw [hdangling, h.dialect]

theorem undescribed_modify {name : String} {change : Descriptor → Descriptor} :
    (r.modify name change).undescribed = r.definitions.map fun definition =>
      (definition.name, if definition.name = name then (change definition.descriptor).undescribed
        else definition.descriptor.undescribed) := by
  simp only [undescribed, modify, List.map_map, Function.comp_def]
  refine List.map_congr_left fun definition _ => ?_
  by_cases h : definition.name = name <;> simp [h]

/-- Descriptors without descriptions are interchangeable under a name. -/
theorem redescribed_modify {d d' : Descriptor} (h : d'.undescribed = d.undescribed)
    (r : Registry) (name : String) :
    (r.modify name fun _ => { d with name }).Redescribed
      (r.modify name fun _ => { d' with name }) where
  dialect := rfl
  undescribed := by
    have hnamed (d : Descriptor) :
        Descriptor.undescribed { d with name } = { d.undescribed with name } := rfl
    simp only [undescribed_modify, hnamed, h]

/-- Registries that differ in descriptions alone pass the self-check, or fail it with the same list,
and decide alike. If their types come in another order too, they still decide alike, and at most the
order of the list differs. In particular the lists of a type, and its maps, are interchangeable
whatever their overrides are, in every registry and under every name. -/
theorem descriptions_decide_nothing :
    (∀ r r' : Registry, r.Redescribed r' →
      r'.validate = r.validate ∧ r.DecidesAlike r' ∧
        ∀ turned, r'.Rearranged turned → r.DecidesAlike turned ∧ r.PassesAlike turned) ∧
    ∀ combine ∈ [Descriptor.listOfFields, Descriptor.mapOfFields],
      ∀ (type : String) (token token' : Nat) (overrides overrides' : List (String × Value))
        (d d' : Descriptor),
        combine token (.value (.text type)) overrides = .ok d →
        combine token' (.value (.text type)) overrides' = .ok d' →
        ∀ (r : Registry) (name : String),
          (r.modify name fun _ => { d with name }).DecidesAlike
            (r.modify name fun _ => { d' with name }) := by
  refine ⟨fun r r' h =>
    ⟨h.validate, decidesAlike_of_lookup h.lookup, fun turned hr => ⟨?_, ?_⟩⟩, ?_⟩
  · refine decidesAlike_of_lookup fun type => ?_
    rw [hr.lookup_eq, h.lookup]
  · rw [PassesAlike, ← h.validate, ← h.dialect]
    exact hr.validate_perm
  · intro combine hcombine type token token' overrides overrides' d d' hd hd' r name
    have hsame : d'.undescribed = d.undescribed := by
      rcases List.mem_pair.mp hcombine with rfl | rfl
      · exact (Descriptor.undescribed_of_listOfFields hd').trans
          (Descriptor.undescribed_of_listOfFields hd).symm
      · exact (Descriptor.undescribed_of_mapOfFields hd').trans
          (Descriptor.undescribed_of_mapOfFields hd).symm
    exact decidesAlike_of_lookup (redescribed_modify hsame r name).lookup

/-- Names of pets, each of which points to an owner. -/
def petNames (words : String) (link : Option String) : Leaf where
  type := some "array"
  description := words
  items := some { type := some "string", resolveAs := some "Owner", documentation := link }

/-- Pets and their names, described in these words. No type of owners is defined. -/
def pets (words : String) (link : Option String) : Registry where
  dialect := "test"
  definitions :=
    [⟨"Root",
        { name := "Root"
          table := .growing [("pets", .reference "Pets"), ("names", .leaf (petNames words link))]
          description := words }, "Root"⟩,
     ⟨"Pets", { Descriptor.listOf "Pet" with name := "Pets", documentation := link }, "Pets"⟩,
     ⟨"Pet", { name := "Pet", additional := some .anything }, "Pet"⟩]

/-- A list of pets, with a description that names them. -/
def allPets : Descriptor := { Descriptor.listOf "Pet" with description := "All pets" }

theorem descriptions_decide_nothing_pets :
    let plain := pets "" none
    let worded := pets "All names" (some "names.html")
    let turned := { worded with definitions := worded.definitions.reverse }
    (petNames "" none).same (petNames "All names" (some "names.html")) = false ∧
      plain.Redescribed worded ∧
      plain.validate = .error (.danglingReferences "test" [⟨"Root", "names", "Owner"⟩]) ∧
      worded.validate = plain.validate ∧ plain.DecidesAlike worded ∧
      worded.Rearranged turned ∧ plain.DecidesAlike turned ∧ plain.PassesAlike turned ∧
      (Descriptor.listOf "Pet").same allPets = false ∧
      Descriptor.listOfFields 0 (.value (.text "Pet")) [] = .ok (Descriptor.listOf "Pet") ∧
      Descriptor.listOfFields 0 (.value (.text "Pet")) [("description", .text "All pets")] =
        .ok allPets ∧
      (plain.modify "Pets" fun _ => { Descriptor.listOf "Pet" with name := "Pets" }).DecidesAlike
        (plain.modify "Pets" fun _ => { allPets with name := "Pets" }) := by
  intro plain worded turned
  have hredescribed : plain.Redescribed worded := ⟨rfl, rfl⟩
  have hrearranged : worded.Rearranged turned := ⟨rfl, (List.reverse_perm _).symm, by decide⟩
  have hplain : Descriptor.listOfFields 0 (.value (.text "Pet")) [] =
      .ok (Descriptor.listOf "Pet") := by
    simp only [Descriptor.listOfFields, Descriptor.combined, Descriptor.nonDescriptive,
      List.map_nil, List.filter_nil, List.mergeSort_nil]
    rfl
  have hworded : Descriptor.listOfFields 0 (.value (.text "Pet"))
      [("description", .text "All pets")] = .ok allPets := by
    have htaken : Descriptor.nonDescriptive [("description", .text "All pets")] = [] := by
      simp [Descriptor.nonDescriptive]
    simp only [Descriptor.listOfFields, Descriptor.combined, htaken]
    rfl
  obtain ⟨hregistries, hcombinators⟩ := descriptions_decide_nothing
  obtain ⟨hvalidate, hdecides, horder⟩ := hregistries plain worded hredescribed
  have hlists := hcombinators _ List.mem_cons_self _ _ _ _ _ _ _ hplain hworded plain "Pets"
  obtain ⟨hturned, hpasses⟩ := horder turned hrearranged
  exact ⟨by decide, hredescribed, rfl, hvalidate, hdecides, hrearranged, hturned, hpasses,
    by decide, hplain, hworded, hlists⟩

end Registry

end ShapeLint
