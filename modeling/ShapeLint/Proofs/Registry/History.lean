import Mathlib.Data.List.Induction
import ShapeLint.Proofs.Registry.Extensions

/-! Registries under calls that may fail. Whatever is called in whatever order, what has been
defined stays, and a registry that has been frozen stays as it is. Main statement:
`after_calls_appendOnly`. -/
namespace ShapeLint

namespace Assembly

/-- A call on a registry under construction. -/
inductive Call where
  | define (name : String) (d : Descriptor)
  | defineAll (types : List (String × Descriptor))
  | extend (name : String) (properties : List (String × Rule))
  | validate
  | freeze (selfCheck : Bool)

namespace Call

def perform : Call → Assembly Unit
  | define name d => discard (Assembly.define name d)
  | defineAll types => Assembly.defineAll types
  | extend name properties => discard (Assembly.extend name properties)
  | validate => Assembly.validate
  | freeze selfCheck => Assembly.freeze selfCheck

/-- The types that a call is to define. -/
def types : Call → List (String × Descriptor)
  | define name d => [(name, d)]
  | defineAll types => types
  | _ => []

/-- The workbench after a call, whether the call fails or not. -/
def after (c : Call) (w : Workbench) : Workbench :=
  match c.perform.run w with
  | .ok _ w' | .error _ w' => w'

end Call

/-- The workbench after some calls. A call that fails does not keep the later ones from being
made. -/
def after (calls : List Call) (w : Workbench) : Workbench := calls.foldl (fun w c => c.after w) w

/-- A new registry. -/
def blank (dialect : String) : Workbench := { registry := { dialect } }

/-- What a call that is to define these types makes of a registry. -/
structure Develops (types : List (String × Descriptor)) (r r' : Registry) : Prop extends
    r.Grows r' where
  named : r.Named → r'.Named
  new : ∀ {name d'}, r'.lookup name = .ok d' → r.contains name = false →
    ∃ d, (name, d) ∈ types ∧ d' = d.copied name

section Calls

variable {types : List (String × Descriptor)} {r r' : Registry} {w : Workbench}

theorem Develops.refl (r : Registry) : Develops types r r where
  toGrows := .refl r
  named := id
  new := by
    intro name d' h hnew
    simp [Registry.contains_of_lookup h] at hnew

theorem Develops.add (h : Develops types r r') {name : String} {d : Descriptor}
    (hmem : (name, d) ∈ types) :
    Develops types r
      { r' with definitions := r'.definitions ++ [⟨name, d.copied name, name⟩] } where
  toGrows := h.toGrows.trans (r'.grows_add _)
  named hr := (h.named hr).add d name name
  new := by
    intro other d' hd' hnew
    rw [Registry.lookup_add] at hd'
    cases hold : r'.lookup other with
    | ok old =>
      obtain rfl : old = d' := by simpa [hold] using hd'
      exact h.new hold hnew
    | error fault =>
      simp only [hold] at hd'
      split at hd'
      · rename_i heq
        obtain rfl : name = other := heq
        exact ⟨d, hmem, (Except.ok.inj hd').symm⟩
      · contradiction

/-- A change of descriptors defines nothing. -/
theorem Develops.change (h : Develops [] r r') {r'' : Registry} (hgrows : r'.Grows r'')
    (hnamed : r'.Named → r''.Named)
    (hlookup : ∀ {name d}, r''.lookup name = .ok d → ∃ old, r'.lookup name = .ok old) :
    Develops [] r r'' where
  toGrows := h.toGrows.trans hgrows
  named := hnamed ∘ h.named
  new := by
    intro name d' hd' hnew
    obtain ⟨old, hold⟩ := hlookup hd'
    obtain ⟨d, hmem, -⟩ := h.new hold hnew
    contradiction

theorem Develops.extend (h : Develops [] r r') (name : String) (entry : String × Rule) :
    Develops [] r (r'.modify name fun d => d.append [entry]) := by
  refine h.change (r'.grows_extend name entry) (fun hr => hr.modify name fun _ => rfl) ?_
  intro other d hd
  rw [Registry.lookup_modify] at hd
  cases hold : r'.lookup other with
  | ok old => exact ⟨old, rfl⟩
  | error fault =>
    rw [hold] at hd
    split at hd <;> contradiction

theorem Develops.freeze (h : Develops [] r r') : Develops [] r r'.freeze := by
  refine h.change r'.grows_freeze Registry.Named.freeze ?_
  intro name d hd
  obtain ⟨old, hold, -⟩ := Registry.lookup_freeze hd
  exact ⟨old, hold⟩

theorem keeps_develops (c : Call) (r : Registry) : Keeps (Develops c.types r) c.perform := by
  cases c with
  | define name d =>
    exact keeps_discard (keeps_define fun _ _ h => h.add (List.mem_singleton_self _))
  | defineAll types => exact keeps_defineAll fun entry hentry _ _ h => h.add hentry
  | extend name properties =>
    exact keeps_discard (keeps_extend fun entry _ _ h => h.extend name entry)
  | validate => exact keeps_validate
  | freeze selfCheck => exact keeps_freeze (fun _ h => h.freeze) selfCheck

/-- What one call makes of a registry. -/
theorem Call.develops (c : Call) (w : Workbench) :
    Develops c.types w.registry (c.after w).registry := by
  have h := keeps_develops c w.registry w (.refl _)
  unfold Call.after
  split at h <;> simp_all

@[simp] theorem after_append (calls later : List Call) (w : Workbench) :
    after (calls ++ later) w = after later (after calls w) := by
  simp [after, List.foldl_append]

theorem grows_after (calls : List Call) (w : Workbench) :
    w.registry.Grows (after calls w).registry := by
  induction calls generalizing w with
  | nil => exact .refl _
  | cons c calls ih => exact (c.develops w).toGrows.trans (ih (c.after w))

theorem named_after (calls : List Call) (h : w.registry.Named) :
    (after calls w).registry.Named := by
  induction calls generalizing w with
  | nil => exact h
  | cons c calls ih => exact ih ((c.develops w).named h)

/-- A type that came up while some calls were made was defined by one of them, and it still has
the fields that it was given then. -/
theorem exists_call_of_lookup_after {calls : List Call} {name : String} {d : Descriptor}
    (h : (after calls w).registry.lookup name = .ok d) (hnew : w.registry.contains name = false) :
    ∃ before c later first, calls = before ++ c :: later ∧
      (after before w).registry.contains name = false ∧ (name, first) ∈ c.types ∧
      (c.after (after before w)).registry.lookup name = .ok (first.copied name) ∧
      (first.copied name).Grows d := by
  induction calls using List.reverseRecOn generalizing d with
  | nil =>
    have hold : w.registry.contains name := Registry.contains_of_lookup h
    simp [hold] at hnew
  | append_singleton calls c ih =>
    have hc := c.develops (after calls w)
    rw [after_append] at h
    by_cases hold : (after calls w).registry.contains name
    · obtain ⟨old, hlookup⟩ := Registry.exists_lookup hold
      obtain ⟨d', hd', hgrows'⟩ := hc.lookup hlookup
      obtain rfl : d' = d := Except.ok.inj (hd'.symm.trans h)
      obtain ⟨before, c', later, first, rfl, hbefore, hmem, hfirst, hgrows⟩ := ih hlookup
      exact ⟨before, c', later ++ [c], first, by simp, hbefore, hmem, hfirst, hgrows.trans hgrows'⟩
    · have hfresh : (after calls w).registry.contains name = false := by simpa using hold
      obtain ⟨first, hmem, rfl⟩ := hc.new h hfresh
      exact ⟨calls, c, [], first, rfl, hfresh, hmem, h, .refl _⟩

end Calls

section Frozen

variable {r : Registry} {w : Workbench}

theorem Call.after_frozen (c : Call) (h : w.registry = r.freeze) :
    (c.after w).registry = r.freeze := by
  have hfrozen : w.registry.frozen := h ▸ rfl
  unfold Call.after
  cases c with
  | define name d =>
    rw [perform, run_discard, run_define_of_frozen hfrozen]
    exact h
  | defineAll types =>
    cases types with
    | nil => exact h
    | cons entry types =>
      have hentry := run_define_of_frozen hfrozen entry.1 entry.2
      simp only [perform, Assembly.defineAll, List.forM_eq_forM, List.forM_cons, EStateM.run_bind,
        run_discard, hentry]
      exact h
  | extend name properties =>
    rw [perform, run_discard, run_extend_of_frozen hfrozen]
    exact h
  | validate =>
    rw [perform, run_validate]
    cases w.registry.validate <;> exact h
  | freeze selfCheck =>
    rw [perform, run_freeze]
    cases (if selfCheck then w.registry.validate else .ok ()) with
    | ok _ => simp [h]
    | error fault => exact h

theorem after_frozen (calls : List Call) (h : w.registry = r.freeze) :
    (after calls w).registry = r.freeze := by
  induction calls generalizing w with
  | nil => exact h
  | cons c calls ih => exact ih (c.after_frozen h)

end Frozen

section Results

variable {w w' : Workbench} {name : String}

/-- A definition that succeeds leaves what it gives under its name: a copy of the descriptor, or
what stood there and is the same. -/
theorem run_define_eq_ok {d d' : Descriptor} (h : (define name d).run w = .ok d' w') :
    w'.registry.lookup name = .ok d' ∧ (d' = d.copied name ∨ d'.same (d.copied name)) := by
  rw [define, run_defineSharing] at h
  split at h
  · contradiction
  · cases hfind : w.registry.find? name with
    | some existing =>
      rw [hfind] at h
      dsimp only at h
      split at h
      · obtain ⟨rfl, rfl⟩ := EStateM.Result.ok.inj h
        exact ⟨by simp only [Registry.lookup, hfind], .inr ‹_›⟩
      · contradiction
    | none =>
      rw [hfind] at h
      obtain ⟨rfl, rfl⟩ := EStateM.Result.ok.inj h
      refine ⟨?_, .inl rfl⟩
      have hnone : w.registry.lookup name = .error (.undefinedType name w.registry.dialect) := by
        simp only [Registry.lookup, hfind]
      rw [Registry.lookup_add, hnone]
      exact if_pos rfl

/-- An extension that succeeds leaves a rule under each of its keys, its own or one that stood there
and is the same. -/
theorem run_extend_eq_ok {properties : List (String × Rule)} {d' : Descriptor}
    (h : (extend name properties).run w = .ok d' w') :
    w'.registry.lookup name = .ok d' ∧ ∀ entry ∈ entriesOf properties,
      ∃ rule ∈ d'.properties.lookup entry.1, rule = entry.2 ∨ rule.same entry.2 := by
  obtain ⟨d, hd, hclashes, rfl, hregistry⟩ := extend_eq_ok h
  refine ⟨by rw [hregistry, Registry.lookup_appendTo, hd]; rfl, fun entry hentry => ?_⟩
  rcases Descriptor.exists_lookup_extended (nodup_keys_entriesOf properties) hclashes hentry with
    ⟨current, -, hsame, hstanding⟩ | ⟨-, hstanding⟩
  · exact ⟨current, hstanding, .inr hsame⟩
  · exact ⟨entry.2, hstanding, .inl rfl⟩

end Results

section Unchanged

variable {w w' : Workbench} {fault : Fault}

theorem run_define_eq_error {name : String} {d : Descriptor}
    (h : (define name d).run w = .error fault w') : w' = w := by
  rw [define, run_defineSharing] at h
  split at h
  · exact (EStateM.Result.error.inj h).2.symm
  · split at h
    · split at h
      · contradiction
      · exact (EStateM.Result.error.inj h).2.symm
    · contradiction

theorem run_validate_eq_error (h : validate.run w = .error fault w') : w' = w := by
  rw [run_validate] at h
  split at h
  · contradiction
  · exact (EStateM.Result.error.inj h).2.symm

theorem run_freeze_eq_error {selfCheck : Bool} (h : (freeze selfCheck).run w = .error fault w') :
    w' = w := by
  rw [run_freeze] at h
  split at h
  · contradiction
  · exact (EStateM.Result.error.inj h).2.symm

theorem run_freeze_eq_ok {selfCheck : Bool} (h : (freeze selfCheck).run w = .ok () w') :
    w'.registry = w.registry.freeze := by
  rw [run_freeze] at h
  split at h
  · obtain rfl := (EStateM.Result.ok.inj h).2
    rfl
  · contradiction

end Unchanged

/-- In every state that calls lead a new registry to, also calls that fail:
descriptors carry the names that they stand under; a type has the fields that the call gave it that
first defined it, with the properties it had then in front of all later ones; later calls take
nothing away; a definition that succeeds leaves its type and an extension its keys; a definition, a
self-check or a freezing that fails changes nothing; and once freezing has succeeded, definitions
and extensions are refused and the registry stays as it is. -/
theorem after_calls_appendOnly (dialect : String) (calls : List Call) :
    (after calls (blank dialect)).registry.Named ∧
      (∀ name d, (after calls (blank dialect)).registry.lookup name = .ok d →
        ∃ before c later first, calls = before ++ c :: later ∧
          (after before (blank dialect)).registry.contains name = false ∧
          (name, first) ∈ c.types ∧
          (c.after (after before (blank dialect))).registry.lookup name =
            .ok (first.copied name) ∧
          (first.copied name).Grows d) ∧
      (∀ later, (after calls (blank dialect)).registry.Grows
        (after later (after calls (blank dialect))).registry) ∧
      (∀ name d d' w', (define name d).run (after calls (blank dialect)) = .ok d' w' →
        w'.registry.lookup name = .ok d' ∧ (d' = d.copied name ∨ d'.same (d.copied name))) ∧
      (∀ name properties d' w',
        (extend name properties).run (after calls (blank dialect)) = .ok d' w' →
          w'.registry.lookup name = .ok d' ∧ ∀ entry ∈ entriesOf properties,
            ∃ rule ∈ d'.properties.lookup entry.1, rule = entry.2 ∨ rule.same entry.2) ∧
      (∀ fault w', (∃ name d, (define name d).run (after calls (blank dialect)) = .error fault w') ∨
        validate.run (after calls (blank dialect)) = .error fault w' ∨
        (∃ selfCheck, (freeze selfCheck).run (after calls (blank dialect)) = .error fault w') →
          w' = after calls (blank dialect)) ∧
      ∀ selfCheck w', (freeze selfCheck).run (after calls (blank dialect)) = .ok () w' →
        w'.registry.frozen ∧ ∀ later, (after later w').registry = w'.registry ∧
          (∀ name d, (define name d).run (after later w') =
            .error (.registryFrozen dialect) (after later w')) ∧
          ∀ name properties, (extend name properties).run (after later w') =
            .error (.registryFrozen dialect) (after later w') := by
  have hblank : (blank dialect).registry.Named := by simp [blank, Registry.Named]
  refine ⟨named_after calls hblank, ?_, fun later => grows_after later _,
    fun _ _ _ _ => run_define_eq_ok, fun _ _ _ _ => run_extend_eq_ok, ?_, ?_⟩
  · intro name d h
    exact exists_call_of_lookup_after h rfl
  · rintro fault w' (⟨name, d, h⟩ | h | ⟨selfCheck, h⟩)
    · exact run_define_eq_error h
    · exact run_validate_eq_error h
    · exact run_freeze_eq_error h
  · intro selfCheck w' h
    have hfreeze := run_freeze_eq_ok h
    refine ⟨hfreeze ▸ rfl, fun later => ?_⟩
    have hlater := after_frozen later hfreeze
    have hfrozen : (after later w').registry.frozen := hlater ▸ rfl
    have hdialect : (after later w').registry.dialect = dialect := by
      rw [hlater]
      exact (grows_after calls (blank dialect)).dialect
    refine ⟨hlater.trans hfreeze.symm, fun name d => ?_, fun name properties => ?_⟩
    · rw [run_define_of_frozen hfrozen, hdialect]
    · rw [run_extend_of_frozen hfrozen, hdialect]

/-- A type that is defined, extended, defined otherwise, extended otherwise, frozen and extended
once more. -/
def petCalls : List Call :=
  [.define "Pet" { table := .growing [("name", .anything)], required := .ofKeys ["name"] },
    .extend "Pet" [("tag", .reference "Tag")], .define "Pet" {},
    .extend "Pet" [("owner", .anything), ("tag", .anything)], .freeze true, .freeze false,
    .extend "Pet" [("size", .anything)]]

/-- What stays is what succeeded, and the key in front of a conflict. -/
example : (after petCalls (blank "test")).registry.lookup "Pet" =
    .ok
      { name := "Pet"
        table := .view [("name", .anything), ("tag", .reference "Tag"), ("owner", .anything)]
        required := .listed (.fixed ["name"])
        frozen := true } := rfl

end Assembly

end ShapeLint
