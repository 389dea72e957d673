import ShapeLint.Proofs.Dialect.Tables
import ShapeLint.Proofs.Walk.Exploration
import ShapeLint.Proofs.Walk.Repetition

/-! Walks report nothing twice if no key is required twice, and no dialect requires a key twice.
Main statement: `Dialect.finds_distinct`. -/
namespace ShapeLint

/-- A function that lists texts for every node, each once. -/
def Conditional.ListsOnce (f : Conditional) : Prop :=
  ∀ node, ∃ items, f.keys node = .ok (Value.texts items) ∧ items.Nodup

/-- The keys that are required of every node. -/
def Requirement.listedKeys : Requirement → List String
  | listed keys => keys.toList
  | computed _ => []

namespace Descriptor

theorem nodup_map_text {items : List String} (h : items.Nodup) : (items.map Value.text).Nodup :=
  h.map fun _ _ heq => Scalar.text.inj (Value.scalar.inj heq)

theorem requiresOnce {d : Descriptor} (listed : d.required.listedKeys.Nodup)
    (conditionals : ∀ f ∈ d.conditionals, f.ListsOnce) : d.RequiresOnce := by
  intro node keys h
  unfold requiredKeys at h
  cases hrequired : d.required with
  | listed items =>
    simp only [hrequired] at h
    obtain rfl := Except.ok.inj (items.keys_value.symm.trans h)
    rw [hrequired] at listed
    exact nodup_map_text listed
  | computed f =>
    have hf : f ∈ d.conditionals := by
      simp [Descriptor.conditionals, hrequired, Requirement.conditional?]
    obtain ⟨items, hitems, once⟩ := conditionals f hf node
    simp only [hrequired, hitems, keys_texts] at h
    obtain rfl := Except.ok.inj h
    exact nodup_map_text once

end Descriptor

namespace Shapes

theorem listsOnce_conditional (dialect name : String) {keys : Value → List String}
    (h : ∀ node, (keys node).Nodup) : (conditional dialect name keys).ListsOnce :=
  fun node => ⟨keys node, rfl, h node⟩

/-- What holds of the keys of each kind holds of the keys of the kind that a node is of. -/
theorem forall_keysByKind {P : List String → Prop} {cases : List (String × List String)}
    {others : List String} (h : ∀ keys ∈ others :: cases.map Prod.snd, P keys)
    (kind : Option String) : P (keysByKind cases others kind) := by
  unfold keysByKind
  cases hkind : kind.bind fun kind => cases.lookup kind with
  | none => exact h others List.mem_cons_self
  | some keys =>
    obtain ⟨name, -, hlookup⟩ := Option.bind_eq_some_iff.mp hkind
    obtain ⟨before, after, hcases, -⟩ := List.lookup_eq_some_iff.mp hlookup
    exact h keys (List.mem_cons_of_mem _ (by simp [hcases]))

theorem nodup_parameterKeys (parameter : Value) : (OpenApi2.parameterKeys parameter).Nodup := by
  unfold OpenApi2.parameterKeys
  split
  · decide
  · decide
  · split
    · split <;> decide
    · decide
  · decide

end Shapes

namespace Dialect

open Shapes

theorem listsOnce_conditionals (d : Dialect) : ∀ f ∈ d.conditionals, f.ListsOnce := by
  intro f hf
  cases d <;> simp only [conditionals, List.mem_cons, List.not_mem_nil, or_false] at hf
  · rcases hf with rfl | rfl <;>
      exact listsOnce_conditional _ _ fun node => forall_keysByKind (by decide) _
  · rcases hf with rfl | rfl | rfl | rfl | rfl
    · exact listsOnce_conditional _ _ nodup_parameterKeys
    · refine fun node => ⟨_, rfl, ?_⟩
      split <;> decide
    · refine fun node => ⟨_, rfl, ?_⟩
      split <;> decide
    · refine listsOnce_conditional _ _ fun node => ?_
      dsimp only
      split
      · exact forall_keysByKind (P := fun keys => (["type", "flow", "scopes"] ++ keys).Nodup)
          (by decide) _
      · exact forall_keysByKind (by decide) _
    · refine listsOnce_conditional _ _ fun node => ?_
      dsimp only
      split
      · exact forall_keysByKind
          (P := fun keys => (["type", "flow", "scopes", "description"] ++ keys).Nodup) (by decide) _
      · exact forall_keysByKind (by decide) _
  · rcases hf with rfl | rfl | rfl
    · exact listsOnce_conditional _ _ fun node => forall_keysByKind (by decide) _
    · exact listsOnce_conditional _ _ fun node => forall_keysByKind (by decide) _
    · exact listsOnce_conditional _ _ fun node => by decide

theorem nodup_listedKeys_tables (d : Dialect) :
    d.tables.All fun descriptor => descriptor.required.listedKeys.Nodup := by
  have check : (d.types.all fun entry => decide entry.2.required.listedKeys.Nodup) = true := by
    cases d <;> decide +kernel
  refine d.all_tables (fun entry hentry => ?_) fun _ _ _ _ h => h
  exact of_decide_eq_true (List.all_eq_true.mp check entry hentry)

/-- No type of a built registry requires a key twice. -/
theorem requiresOnce_build (d : Dialect) (settings : Settings) {r : Registry}
    (built : (d.build settings).outcome = .ok r) : r.RequiresOnce := by
  have htables : d.tables.RequiresOnce := fun _ _ h => Descriptor.requiresOnce
    (d.nodup_listedKeys_tables.of_lookup h)
    fun f hf => d.listsOnce_conditionals f ((d.usesOnly_tables.of_lookup h).conditionals f hf)
  intro type descriptor h
  obtain ⟨original, hlookup, rfl | rfl⟩ := d.lookup_build settings built h
  · exact htables hlookup
  · intro node keys hkeys
    rw [original.requiredKeys_freeze] at hkeys
    exact htables hlookup hkeys

/-- What a walk finds has no repetitions if no type requires a key twice, as is the case for each
dialect, and if the document and the answers to pointers hold mappings with texts as keys only. -/
theorem finds_distinct {s : Surroundings} {node : Value} {start : String} {path : Path}
    {found : List Violation}
    (requires : s.registry.RequiresOnce ∨
      ∃ (d : Dialect) (settings : Settings), (d.build settings).outcome = .ok s.registry)
    (keyed : s.AnswersTextKeyed) (once : node.KeysOnce) (texts : node.TextKeyed)
    (h : Walk.Finds s node start path found) : Distinct found := by
  rcases requires with requires | ⟨d, settings, built⟩
  · exact Walk.distinct_of_finds keyed requires once texts h
  · exact Walk.distinct_of_finds keyed (d.requiresOnce_build settings built) once texts h

/-- One type, whose nodes have a left and a right node and must have a name. -/
def forks : Registry :=
  { dialect := "forks"
    definitions := [⟨"Fork",
      { name := "Fork"
        table := .growing [("left", .reference "Fork"), ("right", .reference "Fork")]
        required := .ofKeys ["name"] }, "Fork"⟩] }

/-- A pointer back to a fork. -/
def forkEnd : Value := .mapping 1 [(.text "$ref", .text "#")]

/-- A fork without a name, both of whose sides are one container that leads back to it. -/
def fork : Value := .mapping 0 [(.text "left", forkEnd), (.text "right", forkEnd)]

theorem requiresOnce_of_listed {r : Registry} (h : ∀ definition ∈ r.definitions,
    definition.descriptor.required.listedKeys.Nodup ∧ definition.descriptor.conditionals = []) :
    r.RequiresOnce := by
  intro type d hd
  obtain ⟨definition, hdefinition, rfl⟩ := Registry.mem_of_lookup hd
  obtain ⟨once, none⟩ := h definition hdefinition
  exact Descriptor.requiresOnce once (by simp [none])

theorem requiresOnce_forks : forks.RequiresOnce :=
  requiresOnce_of_listed (by simp [forks, Requirement.listedKeys, KeyList.toList,
    Descriptor.conditionals, Requirement.conditional?])

theorem eachMapping_forkEnd {P : List Scalar → Prop} (h : P [.text "$ref"]) :
    forkEnd.EachMapping P := by
  refine .of_members (by simpa [forkEnd, Value.keyNames?] using h) ?_
  simp only [forkEnd, Value.members, Leaf.keyed, List.map_cons, List.map_nil,
    List.forall_mem_singleton]
  exact .of_no_members rfl rfl

theorem eachMapping_fork {P : List Scalar → Prop} (hfork : P [.text "left", .text "right"])
    (hend : P [.text "$ref"]) : fork.EachMapping P := by
  refine .of_members (by simpa [fork, Value.keyNames?] using hfork) ?_
  simpa [fork, Value.members, Leaf.keyed] using eachMapping_forkEnd hend

theorem keysOnce_fork : fork.KeysOnce := eachMapping_fork (by decide) (by decide)

theorem textKeyed_fork : fork.TextKeyed := eachMapping_fork (by simp) (by simp)

/-- What is wrong with a fork is found once. -/
def missingName : Violation :=
  { code := .missingRequired
    typeName := "Fork"
    key := some "name"
    path := []
    message := "The field `name` must be present on this level." }

theorem finds_distinct_fork :
    Walk.Finds (Walk.steady forks (some fun _ => fork)) fork "Fork" [] [missingName] ∧
      Distinct [missingName] := by
  have h : Walk.Finds (Walk.steady forks (some fun _ => fork)) fork "Fork" [] [missingName] :=
    Walk.finds_iff.mpr ⟨3, rfl⟩
  refine ⟨h, finds_distinct (.inl requiresOnce_forks) ?_ keysOnce_fork textKeyed_fork h⟩
  rintro _ asked pointer target ⟨⟩ ⟨⟩
  exact ⟨keysOnce_fork, textKeyed_fork⟩

/-- A target with a number and a text as keys, which look alike in a path. -/
def lookalikes : Value := .mapping 2 [(.int 1, .null), (.text "1", .null)]

def blank : Registry where
  dialect := "blank"
  definitions := [⟨"Root", { name := "Root" }, "Root"⟩]

theorem requiresOnce_blank : blank.RequiresOnce :=
  requiresOnce_of_listed (by simp [blank, Requirement.listedKeys, KeyList.toList,
    Descriptor.conditionals, Requirement.conditional?])

/-- A pointer to a mapping whose keys are not all texts makes a walk report one thing twice, though
the document has no such mapping. -/
theorem not_finds_distinct :
    ¬ ∀ (r : Registry) (resolve : Option (Value → Value)) (node : Value) (start : String)
      (found : List Violation), r.RequiresOnce → node.KeysOnce → node.TextKeyed →
        Walk.Finds (Walk.steady r resolve) node start [] found → Distinct found := by
  intro h
  have once : forkEnd.KeysOnce := eachMapping_forkEnd (by decide)
  have texts : forkEnd.TextKeyed := eachMapping_forkEnd (by simp)
  let unknown := Walk.unknownKey { name := "Root" } "1" [.key "1"]
  have finds : Walk.Finds (Walk.steady blank (some fun _ => lookalikes)) forkEnd "Root" []
      [unknown, unknown] := Walk.finds_iff.mpr ⟨3, rfl⟩
  have distinct := h _ _ _ _ _ (requiresOnce_blank) once texts finds
  exact (List.pairwise_cons.mp distinct).1 _ List.mem_cons_self ⟨rfl, rfl, rfl, rfl⟩

end Dialect

end ShapeLint
