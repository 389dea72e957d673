import ShapeLint.Proofs.Descriptor.Faults
import ShapeLint.Proofs.Descriptor.Frozen
import ShapeLint.Proofs.Descriptor.TextKeys

/-!
Functions that list keys and fail. The checks of a node go on as if such a function were not there,
and so they do when an allow-list is no list of keys. A list of required keys is read outside the
guard: when it is none, the checks end. Main statement: `checksDegrade`.
-/
namespace ShapeLint

/-- If the function fails on a node, the fault is one that is degraded. -/
def Conditional.Tolerable (f : Conditional) (node : Value) : Prop :=
  ∀ fault, f.keys node = .error fault → fault.degrades

namespace Descriptor

/-- A required key that is present, or that a violation can name. -/
inductive Reportable (entries : List (Scalar × Value)) : Value → Prop where
  | present {key : Scalar} (h : (entries.lookup key).isSome) : Reportable entries (.scalar key)
  | text (name : String) : Reportable entries (.text name)
  | null : Reportable entries .null

/-- What the function of required keys gives for a mapping can be read as a list of keys. -/
def ListsReportable (d : Descriptor) (node : Value) : Prop :=
  ∀ identity entries, node = .mapping identity entries →
    ∀ f v, d.required = .computed f → f.keys node = .ok v →
      ∃ keys, v.keys = .ok keys ∧ ∀ key ∈ keys, Reportable entries key

/-- If there is an allow-list for a mapping, the keys of the mapping can be written. -/
def ComparesWritable (d : Descriptor) (node : Value) : Prop :=
  ∀ identity entries, node = .mapping identity entries →
    ∀ f allowed, d.allowed = some f → allowedKeys f node = .ok allowed →
      ∀ entry ∈ entries, entry.1.isWritable

/-- How the checks of a node take what its functions do. -/
structure ChecksDegrade (d : Descriptor) (node : Value) (path : Path) : Prop where
  /-- All that can end the checks is a list of required keys that cannot be read, or a key that
  cannot be written where keys are compared with an allow-list. -/
  succeeds_iff : (∃ found, (d.checkNode node path).outcome = .ok found) ↔
    d.ListsReportable node ∧ d.ComparesWritable node
  /-- The fault is then one that the functions themselves could have been forgiven. -/
  fault_degrades : ∀ fault, (d.checkNode node path).outcome = .error fault → fault.degrades
  /-- The findings are those of the three checks, each by itself. -/
  findings : ∀ found, (d.checkNode node path).outcome = .ok found →
    ∃ missing disallowed, (d.checkRequired node path).outcome = .ok missing ∧
      (d.checkAllowed node path).outcome = .ok disallowed ∧
      missing ++ d.checkRequiredOneOf node path ++ disallowed = found
  /-- A failing function of required keys counts as no required keys. -/
  required_fails : ∀ f fault, d.required = .computed f → f.keys node = .error fault →
    (d.checkNode node path).outcome =
      (checkNode { d with required := .ofKeys [] } node path).outcome
  /-- A failing allow-list counts as no allow-list. -/
  allowed_fails : ∀ f fault, d.allowed = some f → f.keys node = .error fault →
    (d.checkNode node path).outcome = (checkNode { d with allowed := none } node path).outcome

variable {d : Descriptor} {node : Value} {path : Path} {entries : List (Scalar × Value)}

/-- A key can be checked just when it is present or can be named. -/
theorem reportable_iff (d : Descriptor) (path : Path) {key : Value} :
    Reportable entries key ↔ key.isKeyOf entries = .ok true ∨
      key.isKeyOf entries = .ok false ∧ ∃ x, d.missing path key = .ok x := by
  have hscalar : ∀ s : Scalar, (∃ x, d.missing path (.scalar s) = .ok x) →
      (Value.scalar s).isKeyOf entries = .ok true ∨
        (Value.scalar s).isKeyOf entries = .ok false ∧
          ∃ x, d.missing path (.scalar s) = .ok x := by
    intro s hx
    cases h : (entries.lookup s).isSome with
    | true => exact .inl (congrArg Except.ok h)
    | false => exact .inr ⟨congrArg Except.ok h, hx⟩
  constructor
  · intro h
    cases h with
    | present h => exact .inl (congrArg Except.ok h)
    | text name => exact hscalar _ ⟨_, rfl⟩
    | null => exact hscalar _ ⟨_, rfl⟩
  · rintro (h | ⟨-, x, hx⟩)
    · unfold Value.isKeyOf at h
      split at h
      · contradiction
      · exact .present (Except.ok.inj h)
      · cases h
    · unfold missing at hx
      split at hx
      · exact .text _
      · exact .null
      · obtain ⟨-, -, hx⟩ := bind_eq_ok.mp hx
        contradiction

theorem exists_missingKeys_iff {keys : List Value} :
    (∃ found, d.missingKeys entries path keys = .ok found) ↔
      ∀ key ∈ keys, Reportable entries key := by
  induction keys with
  | nil => simp [missingKeys]
  | cons key keys ih =>
    rw [List.forall_mem_cons, ← ih, reportable_iff d path]
    constructor
    · rintro ⟨found, h⟩
      obtain ⟨rest, hrest, ⟨hpresent, -⟩ | ⟨habsent, x, hx, -⟩⟩ := missingKeys_cons_eq_ok h
      · exact ⟨.inl hpresent, rest, hrest⟩
      · exact ⟨.inr ⟨habsent, x, hx⟩, rest, hrest⟩
    · rintro ⟨hpresent | ⟨habsent, x, hx⟩, rest, hrest⟩
      · exact ⟨rest, by simp [missingKeys, hpresent, hrest, bind, Except.bind]⟩
      · refine ⟨x :: rest, ?_⟩
        simp [missingKeys, habsent, hx, hrest, bind, Except.bind]
        rfl

/-- Whether the required keys of a mapping can be checked is a matter of the keys. -/
theorem exists_checkRequired_mapping_iff {identity : Nat} {keys : List Value}
    (h : (d.requiredKeys (.mapping identity entries)).outcome = .ok keys) :
    (∃ found, (d.checkRequired (.mapping identity entries) path).outcome = .ok found) ↔
      ∀ key ∈ keys, Reportable entries key := by
  rw [checkRequired, Journaled.outcome_bind, h]
  exact exists_missingKeys_iff

/-- Only what the function of required keys gives can end the check of the required keys. -/
theorem exists_checkRequired_iff (path : Path)
    (tolerable : ∀ f ∈ d.conditionals, f.Tolerable node) :
    (∃ found, (d.checkRequired node path).outcome = .ok found) ↔ d.ListsReportable node := by
  cases node with
  | mapping identity entries =>
    cases hrequired : d.required with
    | listed keys =>
      have hkeys : (d.requiredKeys (.mapping identity entries)).outcome =
          .ok (keys.toList.map Value.text) := by
        simp [requiredKeys, hrequired, keys.keys_value]
      refine iff_of_true ((exists_checkRequired_mapping_iff hkeys).mpr ?_) ?_
      · intro key hkey
        obtain ⟨name, -, rfl⟩ := List.mem_map.mp hkey
        exact .text name
      · intro _ _ _ f v hf
        rw [hrequired] at hf
        contradiction
    | computed f =>
      cases hv : f.keys (.mapping identity entries) with
      | error fault =>
        have hdegrades : fault.degrades :=
          tolerable f (by simp [conditionals, hrequired, Requirement.conditional?]) fault hv
        have hkeys : (d.requiredKeys (.mapping identity entries)).outcome = .ok [] := by
          simp [requiredKeys, hrequired, hv, hdegrades]
        refine iff_of_true ((exists_checkRequired_mapping_iff hkeys).mpr (by simp)) ?_
        intro _ _ _ g v hg hgv
        obtain rfl : f = g := Requirement.computed.inj (hrequired.symm.trans hg)
        rw [hv] at hgv
        contradiction
      | ok v =>
        have hkeys : (d.requiredKeys (.mapping identity entries)).outcome = v.keys := by
          simp [requiredKeys, hrequired, hv]
        constructor
        · rintro ⟨found, hfound⟩ _ _ ⟨⟩ g w hg hw
          obtain rfl : f = g := Requirement.computed.inj (hrequired.symm.trans hg)
          obtain rfl : v = w := Except.ok.inj (hv.symm.trans hw)
          rw [checkRequired, Journaled.outcome_bind] at hfound
          obtain ⟨keys, hlisted, hmissing⟩ := bind_eq_ok.mp hfound
          exact ⟨keys, hkeys.symm.trans hlisted, exists_missingKeys_iff.mp ⟨found, hmissing⟩⟩
        · intro h
          obtain ⟨keys, hlisted, hreportable⟩ := h identity entries rfl f v hrequired hv
          exact (exists_checkRequired_mapping_iff (hkeys.trans hlisted)).mpr hreportable
  | _ => exact iff_of_true ⟨[], rfl⟩ fun _ _ h => by contradiction

theorem checkRequired_error_degrades {fault : Fault}
    (tolerable : ∀ f ∈ d.conditionals, f.Tolerable node)
    (h : (d.checkRequired node path).outcome = .error fault) : fault.degrades := by
  unfold checkRequired at h
  split at h
  · rw [Journaled.outcome_bind] at h
    rcases bind_eq_error.mp h with h | ⟨keys, -, h⟩
    · unfold requiredKeys at h
      split at h
      · obtain ⟨kind, rfl⟩ := keys_error h
        rfl
      · split at h
        · obtain ⟨kind, rfl⟩ := keys_error h
          rfl
        · rename_i f hrequired _ fault' hkeys
          have hdegrades : fault'.degrades :=
            tolerable f (by simp [conditionals, hrequired, Requirement.conditional?]) fault' hkeys
          simp [hdegrades] at h
    · rcases missingKeys_error h with ⟨kind, rfl⟩ | rfl | rfl <;> rfl
  · contradiction

/-- An allow-list that cannot be read is degraded, and so is its function's failure. -/
theorem allowedKeys_error_degrades {f : Conditional} {fault : Fault} (tolerable : f.Tolerable node)
    (h : allowedKeys f node = .error fault) : fault.degrades := by
  rcases bind_eq_error.mp h with h | ⟨v, -, h⟩
  · exact tolerable fault h
  · rcases bind_eq_error.mp h with h | ⟨keys, -, h⟩
    · obtain ⟨kind, rfl⟩ := keys_error h
      rfl
    · split at h
      · obtain rfl := Except.error.inj h
        rfl
      · contradiction

/-- Only a key that cannot be written can end the check of the allow-list. -/
theorem exists_checkAllowed_iff (path : Path) (tolerable : ∀ f ∈ d.conditionals, f.Tolerable node) :
    (∃ found, (d.checkAllowed node path).outcome = .ok found) ↔ d.ComparesWritable node := by
  unfold checkAllowed
  split
  · rename_i identity entries f hallowed
    have htolerable := tolerable f (by simp [conditionals, hallowed])
    cases hkeys : allowedKeys f (.mapping identity entries) with
    | ok allowed =>
      simp only [Journaled.outcome_of, disallowedKeys_eq_ok, exists_and_left, exists_eq', and_true]
      constructor
      · rintro hwritable _ _ ⟨⟩ _ _ _ _
        exact hwritable
      · exact fun h => h identity entries rfl f allowed hallowed hkeys
    | error fault =>
      have hdegrades : fault.degrades := allowedKeys_error_degrades htolerable hkeys
      refine iff_of_true ⟨[], by simp [hdegrades]⟩ ?_
      intro _ _ _ g allowed hg hgkeys
      obtain rfl : f = g := Option.some.inj (hallowed.symm.trans hg)
      simp [hkeys] at hgkeys
  · rename_i hnone
    refine iff_of_true ⟨[], rfl⟩ ?_
    rintro identity entries rfl f _ hf _
    exact absurd hf (hnone identity entries f rfl)

/-- A function of required keys that fails is as good as none. -/
theorem checkRequired_of_error {f : Conditional} {fault : Fault}
    (hrequired : d.required = .computed f) (hfault : f.keys node = .error fault)
    (hdegrades : fault.degrades) : (d.checkRequired node path).outcome = .ok [] := by
  cases node with
  | mapping identity entries =>
    have hkeys : (d.requiredKeys (.mapping identity entries)).outcome = .ok [] := by
      simp [requiredKeys, hrequired, hfault, hdegrades]
    rw [checkRequired, Journaled.outcome_bind, hkeys]
    rfl
  | _ => rfl

/-- An allow-list whose function fails is as good as none. -/
theorem checkAllowed_of_error {f : Conditional} {fault : Fault} (hallowed : d.allowed = some f)
    (hfault : f.keys node = .error fault) (hdegrades : fault.degrades) :
    (d.checkAllowed node path).outcome = .ok [] := by
  cases node with
  | mapping identity entries =>
    have hkeys : allowedKeys f (.mapping identity entries) = .error fault := by
      rw [allowedKeys, hfault]
      rfl
    simp [checkAllowed, hallowed, hkeys, hdegrades]
  | _ => rfl

theorem checkAllowed_error_degrades {fault : Fault}
    (tolerable : ∀ f ∈ d.conditionals, f.Tolerable node)
    (h : (d.checkAllowed node path).outcome = .error fault) : fault.degrades := by
  unfold checkAllowed at h
  split at h
  · rename_i f hallowed
    split at h
    · obtain ⟨-, rfl⟩ := disallowedKeys_eq_error.mp h
      rfl
    · rename_i fault' hkeys
      have hdegrades : fault'.degrades := allowedKeys_error_degrades
        (tolerable f (by simp [conditionals, hallowed])) hkeys
      simp [hdegrades] at h
  · contradiction

/-- The checks are the same if each of the three is. -/
theorem outcome_checkNode_congr {d' : Descriptor}
    (required : (d.checkRequired node path).outcome = (d'.checkRequired node path).outcome)
    (allowed : (d.checkAllowed node path).outcome = (d'.checkAllowed node path).outcome)
    (oneOf : d.checkRequiredOneOf node path = d'.checkRequiredOneOf node path) :
    (d.checkNode node path).outcome = (d'.checkNode node path).outcome := by
  simp only [checkNode, Journaled.outcome_bind, required, allowed, oneOf]

/-- The checks of a node take what its functions give or how they fail, up to a list of required
keys that cannot be read and a key that cannot be written. -/
theorem checksDegrade (d : Descriptor) (node : Value) (path : Path)
    (tolerable : ∀ f ∈ d.conditionals, f.Tolerable node) : d.ChecksDegrade node path := by
  constructor
  · rw [← exists_checkRequired_iff path tolerable, ← exists_checkAllowed_iff path tolerable]
    constructor
    · rintro ⟨found, h⟩
      obtain ⟨missing, disallowed, hmissing, hdisallowed, -⟩ := checkNode_eq_ok.mp h
      exact ⟨⟨missing, hmissing⟩, disallowed, hdisallowed⟩
    · rintro ⟨⟨missing, hmissing⟩, disallowed, hdisallowed⟩
      exact ⟨_, checkNode_eq_ok.mpr ⟨missing, disallowed, hmissing, hdisallowed, rfl⟩⟩
  · intro fault h
    rcases checkNode_eq_error.mp h with h | ⟨-, h⟩
    · exact checkRequired_error_degrades tolerable h
    · exact checkAllowed_error_degrades tolerable h
  · exact fun found h => checkNode_eq_ok.mp h
  · intro f fault hrequired hfault
    have hdegrades : fault.degrades :=
      tolerable f (by simp [conditionals, hrequired, Requirement.conditional?]) fault hfault
    refine outcome_checkNode_congr ?_ rfl rfl
    rw [checkRequired_of_error hrequired hfault hdegrades]
    cases node <;> rfl
  · intro f fault hallowed hfault
    have hdegrades : fault.degrades := tolerable f (by simp [conditionals, hallowed]) fault hfault
    refine outcome_checkNode_congr ?_ ?_ rfl
    · rw [checkRequired_of_same { d with allowed := none } d rfl fun _ => rfl]
    · rw [checkAllowed_of_error hallowed hfault hdegrades]
      cases node <;> rfl

/-- A function that fails on all nodes. -/
def failing (failure : Failure) : Conditional :=
  { name := "failing", id := .given 0, keys := fun _ => .error (.failed failure "no such key") }

/-- A function that gives one value for all nodes. -/
def constantly (v : Value) : Conditional :=
  { name := "constantly", id := .given 1, keys := fun _ => .ok v }

theorem checksDegrade_missingKey :
    let d : Descriptor :=
      { name := "Tagged"
        required := .computed (failing .missingKey)
        group := some (.growing ["a"])
        allowed := some (constantly (.int 5)) }
    (∀ f ∈ d.conditionals, f.Tolerable (.mapping 0 [(.text "b", .int 1)])) ∧
      d.ChecksDegrade (.mapping 0 [(.text "b", .int 1)]) [] ∧
      ∃ x, (d.checkNode (.mapping 0 [(.text "b", .int 1)]) []).outcome = .ok [x] ∧
        x.code = .missingRequiredOneOf := by
  intro d
  have tolerable : ∀ f ∈ d.conditionals, f.Tolerable (.mapping 0 [(.text "b", .int 1)]) := by
    intro f hf fault hfault
    obtain rfl | rfl : f = failing .missingKey ∨ f = constantly (.int 5) := by
      simpa [d, conditionals, Requirement.conditional?] using hf
    · obtain rfl := Except.error.inj hfault
      rfl
    · contradiction
  exact ⟨tolerable, checksDegrade d _ [] tolerable, _, rfl, rfl⟩

/-- A number is no list of keys. As an allow-list it is degraded, as a list of required keys it ends
the checks, with a fault that would be degraded. -/
theorem not_checkNode_constantly :
    (¬ ∀ (d : Descriptor) (node : Value) (path : Path),
      (∀ f ∈ d.conditionals, f.Tolerable node) →
      ∃ found, (d.checkNode node path).outcome = .ok found) ∧
    (checkNode { required := .computed (constantly (.int 5)) }
      (.mapping 0 [(.text "b", .int 1)]) []).outcome = .error (.notIterable "int") ∧
    (checkNode { allowed := some (constantly (.int 5)) }
      (.mapping 0 [(.text "b", .int 1)]) []).outcome = .ok [] := by
  refine ⟨fun hall => ?_, rfl, rfl⟩
  have tolerable : ∀ f ∈ conditionals { required := .computed (constantly (.int 5)) },
      f.Tolerable (.mapping 0 [(.text "b", .int 1)]) := by
    intro f hf fault hfault
    obtain rfl : f = constantly (.int 5) := by
      simpa [conditionals, Requirement.conditional?] using hf
    contradiction
  obtain ⟨found, hfound⟩ := hall _ _ [] tolerable
  contradiction

end Descriptor

end ShapeLint
