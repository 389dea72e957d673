import ShapeLint.Descriptor.Child
import ShapeLint.Proofs.Descriptor.Repetition

/-!
Descriptors that do not contradict themselves. What such a descriptor demands of a node it permits,
and what it demands or permits it has a rule for, whatever the node and whatever stands under the
key; so the checks of a node disallow no such key. Main statements: `Consistent.taken` and
`Consistent.permitted`.
-/
namespace ShapeLint

/-- A rule that rejects no child. -/
def Rule.certain : Rule → Bool
  | computed _ => false
  | _ => true

theorem Rule.accepted_of_certain {rule : Rule} (h : rule.certain) (key v : Value) :
    ∃ ruling, Ruling.ofRule rule key v = .ok ruling ∧ ruling.accepted := by
  cases rule with
  | anything => exact ⟨_, rfl, rfl⟩
  | fixed rule => cases rule <;> exact ⟨_, rfl, rfl⟩
  | computed f => contradiction

namespace Descriptor

/-- The descriptor accepts every child under this text. -/
def takes (d : Descriptor) (key : String) : Bool :=
  d.items.isNone && match d.properties.lookup key with
    | some rule => rule.certain
    | none => d.isExtension key || d.additional.any Rule.certain

variable {d : Descriptor} {key : String} {node : Value}

theorem accepted_of_takes (h : d.takes key) (v : Value) :
    ∃ ruling, d.ruling (.text key) v = .ok ruling ∧ ruling.accepted := by
  simp only [takes, Bool.and_eq_true, Option.isNone_iff_eq_none] at h
  obtain ⟨hitems, h⟩ := h
  simp only [ruling, hitems]
  cases hproperty : d.properties.lookup key with
  | some rule =>
    rw [hproperty] at h
    exact Rule.accepted_of_certain h _ v
  | none =>
    simp only [hproperty, Bool.or_eq_true] at h
    dsimp only
    split
    · exact ⟨_, rfl, rfl⟩
    · rename_i hextension
      have hcertain := h.resolve_left hextension
      unfold rulingOnOthers
      cases hadditional : d.additional with
      | none => simp [hadditional] at hcertain
      | some rule =>
        rw [hadditional, Option.any_some] at hcertain
        exact Rule.accepted_of_certain hcertain _ v

theorem takes_append (h : d.takes key) (other : String) {rule : Rule} (certain : rule.certain) :
    takes (d.append [(other, rule)]) key := by
  simp only [takes, properties_append, additional_append, items_append, Bool.and_eq_true] at h ⊢
  refine ⟨h.1, ?_⟩
  rw [List.lookup_append]
  cases hproperty : d.properties.lookup key with
  | some current => simpa [hproperty] using h.2
  | none =>
    rw [Option.none_or, List.lookup_cons, List.lookup_nil]
    split
    · rename_i hlookup
      split at hlookup
      · exact Option.some.inj hlookup ▸ certain
      · cases hlookup
    · have hothers := h.2
      rw [hproperty] at hothers
      exact hothers

theorem outcome_requiredKeys_copied (name : String) :
    ((d.copied name).requiredKeys node).outcome = (d.requiredKeys node).outcome := by
  have hrequired : (d.copied name).required = d.required := rfl
  unfold requiredKeys
  rw [hrequired]
  cases d.required with
  | listed keys => rfl
  | computed f =>
    dsimp only
    cases f.keys node with
    | ok keys => rfl
    | error fault =>
      dsimp only
      cases fault.degrades <;> rfl

/-- A key that the descriptor demands of a node, by itself or with others to choose from, or that it
permits explicitly. -/
inductive Foresees (d : Descriptor) (node : Value) (key : String) : Prop where
  | required {keys : List Value} (listed : (d.requiredKeys node).outcome = .ok keys)
      (member : .text key ∈ keys)
  | choice {group : List String} (listed : d.requiredOneOf = some group) (member : key ∈ group)
  | allowed {f : Conditional} {keys : List String} (function : d.allowed = some f)
      (listed : allowedKeys f node = .ok keys) (member : key ∈ keys)

/-- What a descriptor demands of a node and what it permits are in accord. -/
structure Accords (d : Descriptor) (node : Value) (required : List String) : Prop where
  listed : (d.requiredKeys node).outcome = .ok (required.map Value.text)
  taken : required.all d.takes
  allowed : ∀ f ∈ d.allowed, ∃ keys, allowedKeys f node = .ok keys ∧ required ⊆ keys ∧
    keys.all d.takes

/-- A descriptor whose demands, permissions and rules are in accord for every node. -/
structure Consistent (d : Descriptor) : Prop where
  node : ∀ node, ∃ required, d.Accords node required
  choice : ∀ group ∈ d.requiredOneOf, group.all d.takes
  apart : d.requiredOneOf.isSome → d.allowed = none

namespace Consistent

/-- A further property contradicts nothing. -/
theorem append (h : d.Consistent) (other : String) {rule : Rule} (certain : rule.certain) :
    Consistent (d.append [(other, rule)]) where
  node node := by
    have grow {keys : List String} (hkeys : keys.all d.takes) :
        keys.all (takes (d.append [(other, rule)])) := by
      rw [List.all_eq_true] at hkeys ⊢
      exact fun key hkey => takes_append (hkeys key hkey) other certain
    obtain ⟨required, listed, taken, allowed⟩ := h.node node
    refine ⟨required, listed, grow taken, fun f hf => ?_⟩
    obtain ⟨keys, hkeys, hsubset, htaken⟩ := allowed f hf
    exact ⟨keys, hkeys, hsubset, grow htaken⟩
  choice group hgroup := by
    have htaken := h.choice group hgroup
    rw [List.all_eq_true] at htaken ⊢
    exact fun key hkey => takes_append (htaken key hkey) other certain
  apart := h.apart

/-- Names play no part. -/
theorem copied (h : d.Consistent) (name : String) : (d.copied name).Consistent where
  node node := by
    obtain ⟨required, listed, taken, allowed⟩ := h.node node
    exact ⟨required, (outcome_requiredKeys_copied name).trans listed, taken, allowed⟩
  choice := h.choice
  apart := h.apart

theorem freeze (h : d.Consistent) : d.freeze.Consistent where
  node node := by
    obtain ⟨required, listed, taken, allowed⟩ := h.node node
    refine ⟨required, ?_, taken, allowed⟩
    rw [d.requiredKeys_freeze]
    exact listed
  choice group hgroup := by
    rw [d.requiredOneOf_freeze] at hgroup
    exact h.choice group hgroup
  apart hsome := by
    rw [d.requiredOneOf_freeze] at hsome
    exact h.apart hsome

/-- Whatever is demanded or permitted is accepted. -/
theorem taken (h : d.Consistent) (foreseen : d.Foresees node key) : d.takes key := by
  obtain ⟨required, listed, taken, allowed⟩ := h.node node
  rw [List.all_eq_true] at taken
  cases foreseen with
  | required listed' member =>
    obtain rfl := Except.ok.inj (listed.symm.trans listed')
    obtain ⟨key', hkey', heq⟩ := List.mem_map.mp member
    obtain rfl : key' = key := Scalar.text.inj (Value.scalar.inj heq)
    exact taken key' hkey'
  | choice listed' member => exact List.all_eq_true.mp (h.choice _ listed') key member
  | allowed function listed' member =>
    obtain ⟨keys, hkeys, -, htaken⟩ := allowed _ function
    obtain rfl := Except.ok.inj (hkeys.symm.trans listed')
    exact List.all_eq_true.mp htaken key member

/-- Where there is an allow-list, whatever is demanded is on it. -/
theorem permitted (h : d.Consistent) (foreseen : d.Foresees node key) {f : Conditional}
    {keys : List String} (function : d.allowed = some f) (listed : allowedKeys f node = .ok keys) :
    key ∈ keys := by
  cases foreseen with
  | required listed' member =>
    obtain ⟨required, hrequired, -, allowed⟩ := h.node node
    obtain rfl := Except.ok.inj (hrequired.symm.trans listed')
    obtain ⟨keys', hkeys', hsubset, -⟩ := allowed f function
    obtain rfl := Except.ok.inj (hkeys'.symm.trans listed)
    obtain ⟨key', hkey', heq⟩ := List.mem_map.mp member
    obtain rfl : key' = key := Scalar.text.inj (Value.scalar.inj heq)
    exact hsubset hkey'
  | choice listed' member =>
    rw [h.apart (by simp [listed'])] at function
    cases function
  | allowed function' listed' member =>
    obtain rfl := Option.some.inj (function.symm.trans function')
    obtain rfl := Except.ok.inj (listed.symm.trans listed')
    exact member

end Consistent

/-- A key that the checks of a node disallow is neither demanded of the node nor permitted. -/
theorem Consistent.not_foresees_of_checkNode (h : d.Consistent) {path : Path}
    {found : List Violation} {x : Violation} (checked : (d.checkNode node path).outcome = .ok found)
    (hx : x ∈ found) (code : x.code = .unknownKey ∨ x.code = .disallowedKey) :
    ∃ key, x.key = some key ∧ ¬ d.Foresees node key := by
  cases node with
  | mapping identity entries =>
    obtain ⟨missing, disallowed, hmissing, hdisallowed, rfl⟩ := checkNode_eq_ok.mp checked
    rcases List.mem_append.mp hx with hx | hx
    · rcases List.mem_append.mp hx with hx | hx
      · rw [checkRequired, Journaled.outcome_bind] at hmissing
        obtain ⟨keys, -, hmissing⟩ := bind_eq_ok.mp hmissing
        have hcode := (absentKey_of_missingKeys hmissing x hx).1
        simp [hcode] at code
      · have hcode := (distinct_checkRequiredOneOf d (.mapping identity entries) path).2 x hx
        simp [hcode] at code
    · cases hallowed : d.allowed with
      | none =>
        simp only [checkAllowed, hallowed] at hdisallowed
        obtain rfl := Except.ok.inj hdisallowed
        contradiction
      | some f =>
        obtain ⟨required, -, -, allowed⟩ := h.node (.mapping identity entries)
        obtain ⟨keys, hkeys, -, -⟩ := allowed f hallowed
        rw [checkAllowed_outcome hallowed, hkeys] at hdisallowed
        obtain ⟨-, rfl⟩ := writing_eq_ok.mp hdisallowed
        obtain ⟨key, hkey, rfl⟩ := List.mem_map.mp hx
        refine ⟨key, rfl, fun foreseen => ?_⟩
        have hpermitted := h.permitted foreseen hallowed hkeys
        simp [hpermitted] at hkey
  | _ =>
    obtain rfl := Except.ok.inj checked
    contradiction

end Descriptor

end ShapeLint
