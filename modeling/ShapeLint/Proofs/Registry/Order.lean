import Mathlib.Data.List.Nodup
import ShapeLint.Proofs.Registry.Batches
import ShapeLint.Proofs.Walk.Freezing

/-!
The order of definitions. Types are looked up by name and only when they are needed, so registries
that define the same types in another order give the same answers; only the self-check lists what
it finds in another order. Main statement: `defineAll_perm`.
-/
namespace ShapeLint

namespace Registry

/-- Two registries that agree in what they say about names and documents. -/
structure Agrees (r r' : Registry) : Prop where
  lookup (name : String) : r'.lookup name = r.lookup name
  names : r'.names = r.names
  validate : (r.validate = .ok () ∧ r'.validate = .ok ()) ∨
    ∃ dangling dangling', r.validate = .error (.danglingReferences r.dialect dangling) ∧
      r'.validate = .error (.danglingReferences r.dialect dangling') ∧ dangling.Perm dangling'
  visit (answers : Option PointerAnswers) (depth : Nat) :
    Walk.visit { registry := r', answers } depth = Walk.visit { registry := r, answers } depth

/-- The same definitions in another order, each name once. -/
structure Rearranged (r r' : Registry) : Prop where
  dialect : r'.dialect = r.dialect
  definitions : r.definitions.Perm r'.definitions
  nodup : r.definedNames.Nodup

section Find

variable {r r' : Registry} {name : String}

/-- A definition is found under its name if no other one has the name. -/
theorem find?_eq_some_iff (nodup : r.definedNames.Nodup) {definition : Definition} :
    r.find? name = some definition ↔ definition ∈ r.definitions ∧ definition.name = name := by
  refine ⟨mem_of_find?, ?_⟩
  rintro ⟨member, rfl⟩
  obtain ⟨found, hfound⟩ : ∃ found, r.find? definition.name = some found :=
    Option.isSome_iff_exists.mp (List.find?_isSome.mpr ⟨definition, member, beq_self_eq_true _⟩)
  have hsame : found = definition :=
    List.inj_on_of_nodup_map nodup (mem_of_find? hfound).1 member (mem_of_find? hfound).2
  rw [hfound, hsame]

namespace Rearranged

variable (h : r.Rearranged r')

include h

theorem definedNames : r.definedNames.Perm r'.definedNames := h.definitions.map _

theorem find?_eq (name : String) : r'.find? name = r.find? name := by
  apply Option.ext
  intro definition
  rw [find?_eq_some_iff (h.definedNames.nodup_iff.mp h.nodup), find?_eq_some_iff h.nodup,
    h.definitions.mem_iff]

theorem lookup_eq (name : String) : r'.lookup name = r.lookup name := by
  simp only [lookup, h.find?_eq, h.dialect]

/-- Sorted names do not tell in which order they were defined. -/
theorem names_eq : r'.names = r.names := by
  have sorted : ∀ names : List String,
      (names.mergeSort fun a b => a ≤ b).Pairwise (· ≤ ·) := by
    intro names
    have hsorted : (names.mergeSort fun a b => a ≤ b).Pairwise fun a b => decide (a ≤ b) := by
      apply List.pairwise_mergeSort
      · intro a b c hab hbc
        simp only [decide_eq_true_eq] at hab hbc ⊢
        exact String.le_trans hab hbc
      · intro a b
        simpa using String.le_total a b
    simpa using hsorted
  have hperm : r'.names.Perm r.names :=
    ((List.mergeSort_perm _ _).trans h.definedNames.symm).trans (List.mergeSort_perm _ _).symm
  exact hperm.eq_of_pairwise (fun _ _ _ _ => String.le_antisymm) (sorted _) (sorted _)

theorem dangling_perm : r.dangling.Perm r'.dangling := by
  have hcontains : r'.contains = r.contains := funext fun name => by
    simp only [contains, h.find?_eq]
  simp only [dangling, references, hcontains]
  exact (h.definitions.flatMap_right _).filter _

theorem validate_perm : (r.validate = .ok () ∧ r'.validate = .ok ()) ∨
    ∃ dangling dangling', r.validate = .error (.danglingReferences r.dialect dangling) ∧
      r'.validate = .error (.danglingReferences r.dialect dangling') ∧ dangling.Perm dangling' := by
  have hperm := h.dangling_perm
  unfold validate
  rw [h.dialect]
  cases hdangling : r.dangling with
  | nil =>
    rw [hdangling] at hperm
    rw [hperm.nil_eq.symm]
    exact .inl ⟨rfl, rfl⟩
  | cons reference rest =>
    cases hdangling' : r'.dangling with
    | nil =>
      rw [hdangling, hdangling'] at hperm
      exact absurd hperm.eq_nil (List.cons_ne_nil _ _)
    | cons reference' rest' =>
      rw [hdangling, hdangling'] at hperm
      exact .inr ⟨_, _, rfl, rfl, hperm⟩

theorem agrees : r.Agrees r' where
  lookup := h.lookup_eq
  names := h.names_eq
  validate := h.validate_perm
  visit := Walk.visit_congr fun node type path => by
    simp only [Walk.nodeActions, h.lookup_eq]

end Rearranged

end Find

end Registry

namespace Assembly

variable {types types' : List (String × Descriptor)}

/-- The definitions of a batch in a new registry. -/
theorem definitions_define_blank (dialect : String) (types : List (String × Descriptor)) :
    ((blank dialect).define types).registry.definitions =
      types.map fun entry => ⟨entry.1, (entry.2.copied entry.1), entry.1⟩ := by
  have hnew : ∀ name, (blank dialect).registry.contains name = false := fun _ => rfl
  simp only [Workbench.define, Registry.added, hnew, Bool.not_false, List.filter_true]
  rfl

/-- A new registry takes every batch of types with different names. -/
theorem run_defineAll_blank (dialect : String) (names : (types.map Prod.fst).Nodup) :
    (defineAll types).run (blank dialect) = .ok () ((blank dialect).define types) := by
  have hends := batchEnds_define (w := blank dialect) rfl names
  generalize (defineAll types).run (blank dialect) = result at hends ⊢
  cases hends with
  | completed => rfl
  | stopped hentries hbefore hentry => contradiction

theorem rearranged_define_blank (dialect : String) (names : (types.map Prod.fst).Nodup)
    (perm : types.Perm types') :
    ((blank dialect).define types).registry.Rearranged
      ((blank dialect).define types').registry where
  dialect := rfl
  definitions := by
    rw [definitions_define_blank, definitions_define_blank]
    exact perm.map _
  nodup := by
    rw [Registry.definedNames, definitions_define_blank, List.map_map]
    exact names

/-- Types of different names can be defined in a new registry in any order. Each is then found under
its name, and the registries agree in every look-up, in their names, in the outcome of the
self-check but for the order of what dangles, and in every visit of every document, however pointers
are answered. -/
theorem defineAll_perm (names : (types.map Prod.fst).Nodup) (perm : types.Perm types')
    (dialect : String) :
    ∃ w w', (defineAll types).run (blank dialect) = .ok () w ∧
      (defineAll types').run (blank dialect) = .ok () w' ∧
      (∀ entry ∈ types, w.registry.lookup entry.1 = .ok (entry.2.copied entry.1)) ∧
      w.registry.Agrees w'.registry := by
  have names' : (types'.map Prod.fst).Nodup := (perm.map _).nodup_iff.mp names
  have hrearranged := rearranged_define_blank dialect names perm
  refine ⟨_, _, run_defineAll_blank dialect names, run_defineAll_blank dialect names', ?_,
    hrearranged.agrees⟩
  intro entry hentry
  have hfind := (Registry.find?_eq_some_iff hrearranged.nodup).mpr
    ⟨definitions_define_blank dialect types ▸ List.mem_map_of_mem hentry, rfl⟩
  simp only [Registry.lookup, hfind]

/-- Types that refer to themselves, to each other and, each of them, to a type that is missing. -/
def crossTypes : List (String × Descriptor) :=
  [("Root", { table := .growing [("root", .reference "Root"), ("links", .reference "Links"),
      ("lost", .reference "Lost")] }),
   ("Links", { Descriptor.listOf "Link" with name := "Links" }),
   ("Link", { table := .growing [
      ("target", .leaf { type := some "string", resolveAs := some "Root" }),
      ("back", .leaf { items := some { resolveAs := some "Gone" } })] })]

theorem defineAll_perm_crossTypes :
    (crossTypes.map Prod.fst).Nodup ∧ crossTypes.Perm crossTypes.reverse ∧
      (∃ w w', (defineAll crossTypes).run (blank "test") = .ok () w ∧
        (defineAll crossTypes.reverse).run (blank "test") = .ok () w' ∧
        (∀ entry ∈ crossTypes, w.registry.lookup entry.1 = .ok (entry.2.copied entry.1)) ∧
        w.registry.Agrees w'.registry) ∧
      ((blank "test").define crossTypes).registry.dangling =
        [⟨"Root", "lost", "Lost"⟩, ⟨"Link", "back", "Gone"⟩] ∧
      ((blank "test").define crossTypes.reverse).registry.dangling =
        [⟨"Link", "back", "Gone"⟩, ⟨"Root", "lost", "Lost"⟩] := by
  have names : (crossTypes.map Prod.fst).Nodup := by decide
  have perm : crossTypes.Perm crossTypes.reverse := (List.reverse_perm crossTypes).symm
  exact ⟨names, perm, defineAll_perm names perm "test", by decide, by decide⟩

end Assembly

end ShapeLint
