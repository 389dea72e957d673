import ShapeLint.Proofs.Descriptor.Frozen
import ShapeLint.Proofs.Registry.Assembly

/-! How registries grow. A definition adds a type under a new name, an extension adds properties
behind those that are there, and freezing makes descriptors read-only: nothing is ever taken
back. -/
namespace ShapeLint

/-- The same descriptor later on: it may have further properties behind its own and may have become
read-only. -/
structure Descriptor.Grows (d d' : Descriptor) : Prop where
  properties : d.properties <+: d'.properties
  frozen : d.frozen → d'.frozen
  /-- The other fields stay, but that the lists of keys of a read-only descriptor are fixed. -/
  others : d' = { d with table := d'.table } ∨ d' = { d.freeze with table := d'.table }

namespace Descriptor.Grows

theorem refl (d : Descriptor) : d.Grows d := ⟨List.prefix_refl _, id, .inl rfl⟩

theorem trans {d d' d'' : Descriptor} (h : d.Grows d') (h' : d'.Grows d'') : d.Grows d'' where
  properties := h.properties.trans h'.properties
  frozen := h'.frozen ∘ h.frozen
  others := by
    let withTable (x : Descriptor) : Descriptor := { x with table := d''.table }
    rcases h.others, h'.others with ⟨h | h, h' | h'⟩
    · exact .inl (h'.trans (congrArg withTable h :))
    · exact .inr (h'.trans (congrArg (fun x => withTable x.freeze) h :))
    · exact .inr (h'.trans (congrArg withTable h :))
    · have htwice : withTable d.freeze.freeze = withTable d.freeze := by rw [d.freeze_freeze]
      exact .inr ((h'.trans (congrArg (fun x => withTable x.freeze) h :)).trans htwice)

theorem append (d : Descriptor) (added : List (String × Rule)) : d.Grows (d.append added) where
  properties := by simp
  frozen := id
  others := .inl rfl

theorem freeze (d : Descriptor) : d.Grows d.freeze where
  properties := List.prefix_refl _
  frozen _ := rfl
  others := .inr rfl

end Descriptor.Grows

namespace Registry

/-- Descriptors carry the names that they stand under. -/
def Named (r : Registry) : Prop :=
  ∀ definition ∈ r.definitions, definition.descriptor.name = definition.name

variable {r r' : Registry} {name : String}

theorem mem_of_find? {definition : Definition} (h : r.find? name = some definition) :
    definition ∈ r.definitions ∧ definition.name = name :=
  ⟨List.mem_of_find?_eq_some h, by simpa using List.find?_some h⟩

theorem find?_of_lookup {d : Descriptor} (h : r.lookup name = .ok d) :
    ∃ definition, r.find? name = some definition ∧ definition.descriptor = d := by
  unfold lookup at h
  split at h
  · exact ⟨_, ‹_›, Except.ok.inj h⟩
  · contradiction

theorem contains_of_lookup {d : Descriptor} (h : r.lookup name = .ok d) : r.contains name := by
  obtain ⟨definition, hfind, -⟩ := find?_of_lookup h
  simp [contains, hfind]

theorem Named.lookup (h : r.Named) {d : Descriptor} (hd : r.lookup name = .ok d) :
    d.name = name := by
  obtain ⟨definition, hfind, rfl⟩ := find?_of_lookup hd
  obtain ⟨hmem, rfl⟩ := mem_of_find? hfind
  exact h definition hmem

theorem lookup_add (d : Definition) (name : String) :
    lookup { r with definitions := r.definitions ++ [d] } name =
      match r.lookup name with
      | .ok old => .ok old
      | .error fault => if d.name = name then .ok d.descriptor else .error fault := by
  unfold lookup find?
  rw [List.find?_append]
  cases r.definitions.find? fun definition => definition.name == name with
  | some definition => rfl
  | none =>
    by_cases h : d.name = name
    · simp [h]
    · simp [h]

theorem find?_modify (changed : String) (change : Descriptor → Descriptor) (name : String) :
    (r.modify changed change).find? name = (r.find? name).map fun d =>
      if d.name == changed then { d with descriptor := change d.descriptor } else d := by
  have hname : ∀ d : Definition,
      (if d.name == changed then { d with descriptor := change d.descriptor } else d).name =
        d.name := by
    intro d
    split <;> rfl
  unfold find? modify
  rw [List.find?_map]
  simp only [Function.comp_def, hname]

theorem lookup_modify (changed : String) (change : Descriptor → Descriptor) (name : String) :
    (r.modify changed change).lookup name =
      if name = changed then (r.lookup name).map change else r.lookup name := by
  unfold lookup
  rw [find?_modify]
  cases hfind : r.find? name with
  | none => simp [modify, Except.map]
  | some definition =>
    obtain ⟨-, rfl⟩ := mem_of_find? hfind
    by_cases h : definition.name = changed
    · simp [h, Except.map]
    · simp [h]

/-- A registry later on: its types are still there. -/
structure Grows (r r' : Registry) : Prop where
  dialect : r'.dialect = r.dialect
  lookup : ∀ {name d}, r.lookup name = .ok d → ∃ d', r'.lookup name = .ok d' ∧ d.Grows d'

theorem Grows.refl (r : Registry) : r.Grows r := ⟨rfl, fun h => ⟨_, h, .refl _⟩⟩

theorem Grows.trans {r'' : Registry} (h : r.Grows r') (h' : r'.Grows r'') : r.Grows r'' where
  dialect := h'.dialect.trans h.dialect
  lookup := by
    intro name d hd
    obtain ⟨d', hd', hgrows⟩ := h.lookup hd
    obtain ⟨d'', hd'', hgrows'⟩ := h'.lookup hd'
    exact ⟨d'', hd'', hgrows.trans hgrows'⟩

theorem grows_add (r : Registry) (d : Definition) :
    r.Grows { r with definitions := r.definitions ++ [d] } where
  dialect := rfl
  lookup := by
    intro name old h
    exact ⟨old, by rw [lookup_add, h], .refl old⟩

theorem grows_extend (r : Registry) (name : String) (entry : String × Rule) :
    r.Grows (r.modify name fun d => d.append [entry]) where
  dialect := rfl
  lookup := by
    intro other d h
    rw [lookup_modify, h]
    split
    · exact ⟨_, rfl, .append d [entry]⟩
    · exact ⟨d, rfl, .refl d⟩

theorem grows_freeze (r : Registry) : r.Grows r.freeze where
  dialect := rfl
  lookup := by
    intro name d h
    obtain ⟨definition, hfind, rfl⟩ := find?_of_lookup h
    exact ⟨_, by simp [Registry.lookup, find?_freeze, hfind], .freeze _⟩

theorem Named.add (h : r.Named) (d : Descriptor) (name sharesWith : String) :
    Named { r with definitions := r.definitions ++ [⟨name, d.copied name, sharesWith⟩] } := by
  intro definition hdefinition
  rcases List.mem_append.mp hdefinition with hdefinition | hdefinition
  · exact h definition hdefinition
  · obtain rfl := List.mem_singleton.mp hdefinition
    rfl

theorem Named.modify (h : r.Named) (name : String) {change : Descriptor → Descriptor}
    (hchange : ∀ d, (change d).name = d.name) : (r.modify name change).Named := by
  intro definition hdefinition
  obtain ⟨before, hbefore, rfl⟩ := List.mem_map.mp hdefinition
  split
  · exact (hchange _).trans (h before hbefore)
  · exact h before hbefore

theorem Named.freeze (h : r.Named) : r.freeze.Named := by
  intro definition hdefinition
  obtain ⟨before, hbefore, rfl⟩ := List.mem_map.mp hdefinition
  exact h before hbefore

@[simp] theorem freeze_freeze (r : Registry) : r.freeze.freeze = r.freeze := by
  simp [Registry.freeze]

end Registry

end ShapeLint
