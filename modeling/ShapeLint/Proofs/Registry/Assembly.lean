import ShapeLint.Proofs.Registry.References
import ShapeLint.Registry.Assembly

/-! What each assembly operation does to the registry, and what the operations keep: a property of
all descriptors that the defined ones have and that further properties do not break. -/
namespace ShapeLint

namespace Registry

/-- All descriptors of the registry have a property. -/
def All (P : Descriptor → Prop) (r : Registry) : Prop :=
  ∀ definition ∈ r.definitions, P definition.descriptor

variable {P : Descriptor → Prop} {r : Registry}

theorem All.of_lookup (h : r.All P) {name : String} {d : Descriptor} (hd : r.lookup name = .ok d) :
    P d := by
  obtain ⟨definition, hdefinition, rfl⟩ := mem_of_lookup hd
  exact h definition hdefinition

theorem all_append {name sharesWith : String} {d : Descriptor} (h : r.All P) (hd : P d) :
    All P { r with definitions := r.definitions ++ [⟨name, d, sharesWith⟩] } := by
  intro definition hdefinition
  rcases List.mem_append.mp hdefinition with hdefinition | hdefinition
  · exact h definition hdefinition
  · obtain rfl := List.mem_singleton.mp hdefinition
    exact hd

theorem all_modify {name : String} {change : Descriptor → Descriptor} (h : r.All P)
    (hchange : ∀ d, P d → P (change d)) : (r.modify name change).All P := by
  intro definition hdefinition
  obtain ⟨before, hbefore, rfl⟩ := List.mem_map.mp hdefinition
  split
  · exact hchange _ (h before hbefore)
  · exact h before hbefore

end Registry

namespace Assembly

variable {α β : Type} {w : Workbench}

@[simp] theorem run_registry : registry.run w = .ok w.registry w := rfl

@[simp] theorem run_log (level : LogLevel) (source : LogSource) (message : String) :
    (log level source message).run w =
      .ok () { w with records := w.records ++ [⟨level, source, message⟩] } := rfl

@[simp] theorem run_setRegistry (r : Registry) :
    (setRegistry r).run w = .ok () { w with registry := r } := rfl

theorem run_discard (x : Assembly α) :
    (discard x).run w = match x.run w with
      | .ok _ w' => .ok () w'
      | .error fault w' => .error fault w' := by
  show (x >>= fun _ => pure ()).run w = _
  rw [EStateM.run_bind]
  cases x.run w <;> rfl

theorem run_ensureMutable :
    ensureMutable.run w =
      if w.registry.frozen then .error (.registryFrozen w.registry.dialect) w else .ok () w := by
  simp only [ensureMutable, EStateM.run_bind, run_registry]
  split <;> rfl

theorem run_lookup (name : String) :
    (lookup name).run w = match w.registry.lookup name with
      | .ok d => .ok d w
      | .error fault => .error fault w := by
  simp only [lookup, EStateM.run_bind, run_registry]
  cases w.registry.lookup name <;> rfl

theorem run_defineSharing (sharesWith name : String) (d : Descriptor) :
    (defineSharing sharesWith name d).run w =
      if w.registry.frozen then .error (.registryFrozen w.registry.dialect) w
      else match w.registry.find? name with
        | some existing =>
          if existing.descriptor.same (d.copied name) then .ok existing.descriptor w
          else .error (.duplicateType name w.registry.dialect) w
        | none => .ok (d.copied name)
            { registry := { w.registry with
                definitions := w.registry.definitions ++ [⟨name, d.copied name, sharesWith⟩] }
              records := w.records ++ [⟨.debug, .registry,
                "Defined " ++ w.registry.dialect ++ " type " ++ name⟩] } := by
  cases h : w.registry.frozen with
  | true => simp only [defineSharing, EStateM.run_bind, run_ensureMutable, h, if_true]
  | false =>
    simp only [defineSharing, EStateM.run_bind, run_ensureMutable, run_registry, h,
      Bool.false_eq_true, if_false]
    cases w.registry.find? name with
    | none =>
      simp only [EStateM.run_bind, run_setRegistry, run_log]
      rfl
    | some existing =>
      dsimp only
      split <;> rfl

theorem run_extendBy (name key : String) (rule : Rule) :
    (extendBy name key rule).run w = match w.registry.lookup name with
      | .error fault => .error fault w
      | .ok d => match d.properties.lookup key with
        | some current =>
          if current.same rule then .ok () w
          else .error (.extensionConflict name key w.registry.dialect) w
        | none =>
          if d.table.isView then .error (.fixedProperties name) w
          else .ok ()
            { w with registry := w.registry.modify name fun d => d.append [(key, rule)] } := by
  simp only [extendBy, EStateM.run_bind, run_registry, run_lookup]
  cases hd : w.registry.lookup name with
  | error fault => rfl
  | ok d =>
    dsimp only
    cases d.properties.lookup key with
    | none =>
      simp only [EStateM.run_bind, run_lookup, hd]
      split <;> rfl
    | some current => dsimp only; split <;> rfl

theorem run_validate :
    validate.run w = match w.registry.validate with
      | .ok () => .ok () w
      | .error fault => .error fault w := by
  simp only [validate, EStateM.run_bind, run_registry]
  cases w.registry.validate <;> rfl

theorem run_freeze (selfCheck : Bool) :
    (freeze selfCheck).run w =
      match if selfCheck then w.registry.validate else .ok () with
      | .ok () => .ok ()
          { registry := w.registry.freeze
            records := w.records ++ [⟨.info, .registry, "Froze " ++ w.registry.dialect
              ++ " registry with " ++ toString w.registry.size ++ " types"⟩] }
      | .error fault => .error fault w := by
  cases selfCheck with
  | false => rfl
  | true =>
    simp only [freeze, if_true, EStateM.run_bind, run_validate]
    cases w.registry.validate <;> rfl

theorem run_define_of_frozen (h : w.registry.frozen) (name : String) (d : Descriptor) :
    (define name d).run w = .error (.registryFrozen w.registry.dialect) w := by
  rw [define, run_defineSharing, if_pos h]

theorem run_extend_of_frozen (h : w.registry.frozen) (name : String)
    (properties : List (String × Rule)) :
    (extend name properties).run w = .error (.registryFrozen w.registry.dialect) w := by
  simp only [extend, EStateM.run_bind, run_ensureMutable, h, if_true]

/-- An operation keeps a property of the registry, whether it fails or not. -/
def Keeps (P : Registry → Prop) (x : Assembly α) : Prop :=
  ∀ w, P w.registry → match x.run w with
    | .ok _ w' | .error _ w' => P w'.registry

variable {P : Registry → Prop}

theorem keeps_pure (a : α) : Keeps P (pure a : Assembly α) := fun _ h => h

theorem keeps_bind {x : Assembly α} {f : α → Assembly β} (hx : Keeps P x)
    (hf : ∀ a, Keeps P (f a)) : Keeps P (x >>= f) := by
  intro w hw
  have h := hx w hw
  rw [EStateM.run_bind]
  cases hrun : x.run w with
  | ok a w' =>
    rw [hrun] at h
    exact hf a w' h
  | error fault w' =>
    rw [hrun] at h
    exact h

theorem keeps_forM {xs : List α} {f : α → Assembly Unit} (h : ∀ x ∈ xs, Keeps P (f x)) :
    Keeps P (xs.forM f) := by
  induction xs with
  | nil => exact keeps_pure ()
  | cons x xs ih =>
    exact keeps_bind (h x List.mem_cons_self) fun _ =>
      ih fun y hy => h y (List.mem_cons_of_mem x hy)

theorem keeps_discard {x : Assembly α} (h : Keeps P x) : Keeps P (discard x) :=
  keeps_bind h fun _ => keeps_pure _

theorem keeps_log (level : LogLevel) (source : LogSource) (message : String) :
    Keeps P (log level source message) := fun _ h => h

theorem keeps_registry : Keeps P registry := fun _ h => h

theorem keeps_ensureMutable : Keeps P ensureMutable := by
  intro w hw
  rw [run_ensureMutable]
  cases w.registry.frozen <;> exact hw

theorem keeps_lookup (name : String) : Keeps P (lookup name) := by
  intro w hw
  rw [run_lookup]
  cases w.registry.lookup name <;> exact hw

theorem keeps_validate : Keeps P validate := by
  intro w hw
  rw [run_validate]
  cases w.registry.validate <;> exact hw

/-- A definition adds a type that was not there, or nothing. -/
theorem keeps_define {name : String} {d : Descriptor}
    (h : ∀ r : Registry, r.find? name = none → P r →
      P { r with definitions := r.definitions ++ [⟨name, d.copied name, name⟩] }) :
    Keeps P (define name d) := by
  intro w hw
  rw [define, run_defineSharing]
  cases w.registry.frozen with
  | true => exact hw
  | false =>
    cases hfind : w.registry.find? name with
    | none => exact h w.registry hfind hw
    | some existing =>
      simp only [Bool.false_eq_true, if_false]
      cases existing.descriptor.same (d.copied name) <;> exact hw

theorem keeps_defineAll {types : List (String × Descriptor)}
    (h : ∀ entry ∈ types, ∀ r : Registry, r.find? entry.1 = none → P r →
      P { r with definitions :=
        r.definitions ++ [⟨entry.1, entry.2.copied entry.1, entry.1⟩] }) :
    Keeps P (defineAll types) :=
  keeps_forM fun entry hentry => keeps_discard (keeps_define (h entry hentry))

theorem keeps_extendBy {name key : String} {rule : Rule}
    (h : ∀ r : Registry, P r → P (r.modify name fun d => d.append [(key, rule)])) :
    Keeps P (extendBy name key rule) := by
  intro w hw
  rw [run_extendBy]
  cases w.registry.lookup name with
  | error fault => exact hw
  | ok d =>
    dsimp only
    cases d.properties.lookup key with
    | none =>
      dsimp only
      cases d.table.isView with
      | true => exact hw
      | false => exact h w.registry hw
    | some current =>
      dsimp only
      cases current.same rule <;> exact hw

theorem keeps_extend {name : String} {properties : List (String × Rule)}
    (h : ∀ entry ∈ entriesOf properties, ∀ r : Registry, P r →
      P (r.modify name fun d => d.append [entry])) :
    Keeps P (extend name properties) :=
  keeps_bind keeps_ensureMutable fun _ =>
    keeps_bind (keeps_discard (keeps_lookup name)) fun _ =>
      keeps_bind (keeps_forM fun entry hentry => keeps_extendBy (h entry hentry))
        fun _ => keeps_bind keeps_registry fun _ =>
          keeps_bind (keeps_log _ _ _) fun _ => keeps_lookup name

theorem keeps_freeze (h : ∀ r : Registry, P r → P r.freeze) (selfCheck : Bool) :
    Keeps P (freeze selfCheck) := by
  intro w hw
  rw [run_freeze]
  cases (if selfCheck then w.registry.validate else .ok ()) with
  | ok _ => exact h w.registry hw
  | error fault => exact hw

section All

variable {P : Descriptor → Prop}

theorem keeps_all_define {name : String} {d : Descriptor} (h : P (d.copied name)) :
    Keeps (Registry.All P) (define name d) :=
  keeps_define fun _ _ hr => Registry.all_append hr h

theorem keeps_all_extend {name : String} {properties : List (String × Rule)}
    (h : ∀ d, P d → ∀ entry ∈ entriesOf properties, P (d.append [entry])) :
    Keeps (Registry.All P) (extend name properties) :=
  keeps_extend fun entry hentry _ hr => Registry.all_modify hr fun d hd => h d hd entry hentry

end All

end Assembly

end ShapeLint
