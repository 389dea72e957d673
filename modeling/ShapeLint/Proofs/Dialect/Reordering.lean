import ShapeLint.Proofs.Dialect.Payloads
import ShapeLint.Proofs.Dialect.Safety
import ShapeLint.Proofs.Registry.Growth
import ShapeLint.Proofs.Walk.Reordering

/-! The order of entries makes no difference to walks of trees over the registries of the dialects,
but for the order of what they find. Main statement: `Dialect.finds_reordered`. -/
namespace ShapeLint

namespace Dialect

open Walk

theorem orderless_tables (d : Dialect) {type : String} {descriptor : Descriptor}
    (h : d.tables.lookup type = .ok descriptor) : descriptor.Orderless :=
  Descriptor.orderless (d.discreet_tables h).ruling fun f hf =>
    d.readsOnly_conditionals f ((d.usesOnly_tables.of_lookup h).conditionals f hf)

theorem orderless_build (d : Dialect) (settings : Settings) {r : Registry}
    (built : (d.build settings).outcome = .ok r) {type : String} {descriptor : Descriptor}
    (h : r.lookup type = .ok descriptor) : descriptor.Orderless := by
  obtain ⟨original, hlookup, rfl | rfl⟩ := d.lookup_build settings built h
  · exact d.orderless_tables hlookup
  · exact (d.orderless_tables hlookup).freeze

/-- Without answers to pointers nothing is found where a pointer stands. -/
theorem surveys_of_pointer {r : Registry} {node : Value} {type pointer : String} {path : Path}
    (own : pointerOf? node = some pointer) : Surveys r (nodeActions r node type path) [] := by
  unfold nodeActions
  rw [own]
  exact .follow .nil

theorem fails_of_undefined {s : Surroundings} {node : Value} {type : String} {path : Path}
    {fault : Fault} (own : pointerOf? node = none)
    (undefined : s.registry.lookup type = .error fault) :
    Fails s node type path fault := by
  refine ⟨1, fun depth hdepth => ?_⟩
  obtain ⟨depth, rfl⟩ := Nat.exists_eq_add_of_le' hdepth
  have fresh : ¬ Seen {} node type := by
    rintro ⟨_, -, hm⟩
    contradiction
  rw [run_visit _ fresh]
  unfold nodeActions
  rw [own, undefined]
  exact ⟨_, rfl⟩

/-- A walk of a document that can be written does not fail for what cannot be. -/
theorem not_fails_unwritable (d : Dialect) (settings : Settings) {s : Surroundings}
    (built : (d.build settings).outcome = .ok s.registry) (steady : s.answers = none) {v : Value}
    {start : String} (defined : s.registry.contains start) (writable : v.isWritable) {path : Path} :
    ¬ Fails s v start path .unwritable := by
  rintro ⟨least, h⟩
  obtain ⟨u, hrun⟩ := h least (Nat.le_refl _)
  have hwithin : s.AnswersWithin fun _ => False := fun _ ha => by simp [steady] at ha
  have hanswers : s.AnswersWritable := fun _ ha => by simp [steady] at ha
  rcases d.fault_of_visit settings built hwithin defined hrun with hdeep | ⟨-, long⟩
  · contradiction
  · exact long ⟨writable, hanswers⟩

/-- Trees that differ only in the order of entries are found wanting in the same way by walks over
the registry of a dialect, up to the order and the messages of the violations. If the type to start
with is not defined, the walks fail in the same way, unless a pointer stands for both trees; and so
they do if they come to a number that cannot be written. -/
theorem finds_reordered (d : Dialect) (settings : Settings) {s : Surroundings}
    (built : (d.build settings).outcome = .ok s.registry) (steady : s.answers = none) {v w : Value}
    (tree : ∀ identity, v.occurrences identity ≤ 1)
    (tree' : ∀ identity, w.occurrences identity ≤ 1) (once : v.KeysOnce) (h : v.Reordered w)
    (start : String) (path : Path) :
    (∃ found found', Finds s v start path found ∧ Finds s w start path found' ∧
      Resemble found found') ∨
    ∃ fault, (s.registry.lookup start = .error fault ∨ fault = .unwritable ∧ ¬ v.isWritable) ∧
      Fails s v start path fault ∧ Fails s w start path fault := by
  have hdefined : ∀ type, d.tables.contains type → s.registry.contains type := by
    intro type htype
    rwa [d.contains_build settings built]
  have hconfined : ∀ type descriptor, s.registry.lookup type = .ok descriptor →
      descriptor.Confined (fun type => d.tables.contains type) fun _ => False :=
    fun _ _ h => d.confined_build settings built h
  cases hstart : s.registry.lookup start with
  | ok descriptor =>
    have hcontains : d.tables.contains start := by
      rw [← d.contains_build settings built]
      exact Registry.contains_of_lookup hstart
    rcases surveyedAlike_of_reordered hdefined hconfined
      (fun _ _ h => d.orderless_build settings built h) once h hcontains path with
      ⟨found, found', hv, hw, resemble⟩ | ⟨hv, hw⟩
    · exact .inl ⟨found, found', (finds_iff_surveys steady tree).mpr hv,
        (finds_iff_surveys steady tree').mpr hw, resemble⟩
    · have hfails := fails_of_aborts steady tree hv
      exact .inr ⟨.unwritable,
        .inr ⟨rfl, fun writable => d.not_fails_unwritable settings built steady
          (Registry.contains_of_lookup hstart) writable hfails⟩,
        hfails, fails_of_aborts steady tree' hw⟩
  | error fault =>
    have hpointer := pointerOf?_congr once h
    cases own : pointerOf? v with
    | some pointer =>
      exact .inl ⟨[], [], (finds_iff_surveys steady tree).mpr (surveys_of_pointer own),
        (finds_iff_surveys steady tree').mpr (surveys_of_pointer (hpointer ▸ own)), .refl []⟩
    | none =>
      exact .inr ⟨fault, .inl rfl, fails_of_undefined own hstart,
        fails_of_undefined (hpointer ▸ own) hstart⟩

/-- A document with an untitled description, and the same one with its entries the other way
round. -/
def described : Value :=
  .mapping 0 [(.text "info", .mapping 1 [(.text "title", .int 1), (.text "author", .null)]),
    (.text "paths", .list 2 [])]

def describedBackwards : Value :=
  .mapping 0 [(.text "paths", .list 1 []),
    (.text "info", .mapping 2 [(.text "author", .null), (.text "title", .int 1)])]

theorem reordered_described : described.Reordered describedBackwards := by
  have hinfo : (Value.mapping 1 [(.text "title", .int 1), (.text "author", .null)]).Reordered
      (.mapping 2 [(.text "author", .null), (.text "title", .int 1)]) := by
    refine .mapping ?_ ?_ (List.Perm.swap _ _ _)
    · rfl
    · exact .cons (.scalar _) (.cons (.scalar _) .nil)
  refine .mapping ?_ ?_ (List.Perm.swap _ _ _)
  · rfl
  · exact .cons hinfo (.cons (.list .nil) .nil)

theorem keysOnce_described : described.KeysOnce := by
  have hinfo : (Value.mapping 1 [(.text "title", .int 1), (.text "author", .null)]).KeysOnce := by
    refine .of_members (by simp [Value.keyNames?]) ?_
    simp only [Value.members, Leaf.keyed, List.map_cons, List.map_nil, List.forall_mem_cons]
    exact ⟨.of_no_members rfl rfl, .of_no_members rfl rfl, by simp⟩
  refine .of_members (by simp [described, Value.keyNames?]) ?_
  simp only [described, Value.members, Leaf.keyed, List.map_cons, List.map_nil,
    List.forall_mem_cons]
  exact ⟨hinfo, .of_no_members rfl rfl, by simp⟩

/-- A missing version is found in both documents before what the description does hold, but what
is wrong with its title and with the paths in the order of the entries. -/
theorem finds_reordered_described :
    ∃ found found',
      Finds { registry := openApi3.tables.freeze } described "Root" [] found ∧
      Finds { registry := openApi3.tables.freeze } describedBackwards "Root" [] found' ∧
      Resemble found found' ∧
      found.map Violation.sketch =
        [(.missingRequired, "Root", some "openapi", []),
          (.missingRequired, "Info", some "version", [.key "info"]),
          (.typeMismatch, "Info", some "title", [.key "info", .key "title"]),
          (.unknownKey, "Info", some "author", [.key "info", .key "author"]),
          (.typeMismatch, "Paths", some "paths", [.key "paths"])] ∧
      found'.map Violation.sketch =
        [(.missingRequired, "Root", some "openapi", []),
          (.typeMismatch, "Paths", some "paths", [.key "paths"]),
          (.missingRequired, "Info", some "version", [.key "info"]),
          (.unknownKey, "Info", some "author", [.key "info", .key "author"]),
          (.typeMismatch, "Info", some "title", [.key "info", .key "title"])] := by
  have hbuilt : (openApi3.build {}).outcome = .ok openApi3.tables.freeze := by
    simp [outcome_build]
  have h := finds_reordered openApi3 {} (s := { registry := openApi3.tables.freeze }) hbuilt rfl
    (fun _ => by simp [described, Value.occurrences, Value.occurrencesInEntries,
      Value.occurrencesInItems]; grind)
    (fun _ => by simp [describedBackwards, Value.occurrences, Value.occurrencesInEntries,
      Value.occurrencesInItems]; grind)
    keysOnce_described reordered_described "Root" []
  have hroot : openApi3.tables.freeze.contains "Root" = true := by decide +kernel
  have hwritable : described.isWritable = true := by decide +kernel
  rcases h with ⟨found, found', hfound, hfound', resemble⟩ | ⟨fault, refused, -⟩
  · refine ⟨found, found', hfound, hfound', resemble, ?_, ?_⟩
    · exact hfound.apply_eq 4 (by decide +kernel)
    · exact hfound'.apply_eq 4 (by decide +kernel)
  · obtain ⟨descriptor, hlookup⟩ := Registry.exists_lookup hroot
    simp [hlookup, hwritable] at refused

end Dialect

end ShapeLint
