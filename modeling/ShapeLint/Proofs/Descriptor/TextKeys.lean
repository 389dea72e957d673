import ShapeLint.Proofs.Descriptor.Frozen
import ShapeLint.Proofs.Descriptor.KeyFindings
import ShapeLint.Registry

/-! Checks of keys that are listed as texts. They fail only on keys that cannot be written, and
report just the required texts that are absent. -/
namespace ShapeLint

/-- A function that lists texts for every node. -/
def Conditional.ListsTexts (f : Conditional) : Prop :=
  ∀ node, ∃ items, f.keys node = .ok (Value.texts items)

def Requirement.conditional? : Requirement → Option Conditional
  | computed f => some f
  | _ => none

namespace Descriptor

/-- The functions that list keys. -/
def conditionals (d : Descriptor) : List Conditional :=
  d.required.conditional?.toList ++ d.allowed.toList

theorem keys_texts (items : List String) :
    (Value.texts items).keys = .ok (items.map Value.text) := by
  cases items <;> rfl

theorem allowedKeys_of_texts {f : Conditional} {node : Value} {items : List String}
    (h : f.keys node = .ok (Value.texts items)) : allowedKeys f node = .ok items := by
  have hunhashable : (items.map Value.text).findSome? Value.unhashable? = none := by
    simp [List.findSome?_eq_none_iff, Value.unhashable?]
  have htexts : (items.map Value.text).filterMap Value.text? = items := by
    simp [List.filterMap_map, Function.comp_def, Value.text?]
  simp only [allowedKeys, h, keys_texts, bind, Except.bind, hunhashable, htexts]
  rfl

theorem missingKeys_texts (d : Descriptor) (entries : List (Scalar × Value)) (path : Path)
    (items : List String) :
    ∃ found, d.missingKeys entries path (items.map Value.text) = .ok found := by
  induction items with
  | nil => exact ⟨[], rfl⟩
  | cons item items ih =>
    obtain ⟨found, hfound⟩ := ih
    simp only [List.map_cons, missingKeys, Value.isKeyOf, Value.unhashable?, bind, Except.bind,
      hfound]
    split
    · exact ⟨found, rfl⟩
    · exact ⟨_, rfl⟩

variable {d : Descriptor}

theorem exists_missing_iff {entries : List (Scalar × Value)} {path : Path} {items : List String}
    {found : List Violation} (h : d.missingKeys entries path (items.map Value.text) = .ok found)
    (key : String) : (∃ x ∈ found, x.code = .missingRequired ∧ x.key = some key) ↔
      key ∈ items ∧ entries.lookup (.text key) = none := by
  induction items generalizing found with
  | nil =>
    obtain rfl := Except.ok.inj h
    simp
  | cons item items ih =>
    obtain ⟨rest, hrest, ⟨hpresent, rfl⟩ | ⟨hpresent, violation, hviolation, rfl⟩⟩ :=
      missingKeys_cons_eq_ok h
    · have present : (entries.lookup (.text item)).isSome := by
        simpa [Value.isKeyOf, Value.unhashable?] using hpresent
      rw [ih hrest, List.mem_cons]
      refine and_congr_left fun habsent => (or_iff_right ?_).symm
      rintro rfl
      simp [habsent] at present
    · have absent : entries.lookup (.text item) = none := by
        simpa [Value.isKeyOf, Value.unhashable?] using hpresent
      obtain rfl := Except.ok.inj hviolation
      simp only [List.mem_cons, exists_eq_or_imp, ih hrest, Option.some.injEq, true_and]
      grind

theorem requiredKeys_of_texts {f : Conditional} {node : Value} {items : List String}
    (hrequired : d.required = .computed f) (hitems : f.keys node = .ok (Value.texts items)) :
    (d.requiredKeys node).outcome = .ok (items.map Value.text) := by
  simp [requiredKeys, hrequired, hitems, keys_texts]

theorem requiredKeys_texts (h : ∀ f ∈ d.conditionals, f.ListsTexts) (node : Value) :
    ∃ items : List String, (d.requiredKeys node).outcome = .ok (items.map Value.text) := by
  unfold requiredKeys
  cases hrequired : d.required with
  | listed keys => exact ⟨keys.toList, keys.keys_value⟩
  | computed f =>
    obtain ⟨items, hitems⟩ := h f (by simp [conditionals, hrequired, Requirement.conditional?]) node
    exact ⟨items, by simp [hitems, keys_texts]⟩

/-- A text that is required of a mapping is reported just when it is absent. -/
theorem checkRequired_texts {identity : Nat} {entries : List (Scalar × Value)} {items : List String}
    (h : (d.requiredKeys (.mapping identity entries)).outcome = .ok (items.map Value.text))
    (path : Path) :
    ∃ found, (d.checkRequired (.mapping identity entries) path).outcome = .ok found ∧
      ∀ key, (∃ x ∈ found, x.code = .missingRequired ∧ x.key = some key) ↔
        key ∈ items ∧ entries.lookup (.text key) = none := by
  obtain ⟨found, hfound⟩ := missingKeys_texts d entries path items
  refine ⟨found, ?_, exists_missing_iff hfound⟩
  rw [checkRequired, Journaled.outcome_bind, h]
  exact hfound

theorem checkRequired_ok (h : ∀ f ∈ d.conditionals, f.ListsTexts) (node : Value) (path : Path) :
    ∃ found, (d.checkRequired node path).outcome = .ok found := by
  unfold checkRequired
  split
  · obtain ⟨items, hitems⟩ := requiredKeys_texts h _
    rw [Journaled.outcome_bind, hitems]
    exact missingKeys_texts d _ path items
  · exact ⟨[], rfl⟩

theorem checkAllowed_texts (h : ∀ f ∈ d.conditionals, f.ListsTexts) (node : Value) (path : Path) :
    (∃ found, (d.checkAllowed node path).outcome = .ok found) ∨
      (d.checkAllowed node path).outcome = .error .unwritable ∧ ¬ node.isWritable := by
  unfold checkAllowed
  split
  · rename_i identity entries f hf
    obtain ⟨items, hitems⟩ := h f (by simp [conditionals, hf]) (.mapping identity entries)
    rw [allowedKeys_of_texts hitems]
    by_cases hkeys : ∀ entry ∈ entries, entry.1.isWritable
    · exact .inl ⟨_, disallowedKeys_eq_ok.mpr ⟨hkeys, rfl⟩⟩
    · refine .inr ⟨disallowedKeys_eq_error.mpr ⟨hkeys, rfl⟩, ?_⟩
      rw [Value.isWritable, Value.entriesWritable_eq, List.all_eq_true]
      exact fun hall => hkeys fun entry hentry => (Bool.and_eq_true_iff.mp (hall entry hentry)).1
  · exact .inl ⟨[], rfl⟩

/-- When its functions list texts, the checks of a node fail only on a key that cannot be
written. -/
theorem checkNode_texts (h : ∀ f ∈ d.conditionals, f.ListsTexts) (node : Value) (path : Path) :
    (∃ found, (d.checkNode node path).outcome = .ok found) ∨
      (d.checkNode node path).outcome = .error .unwritable ∧ ¬ node.isWritable := by
  obtain ⟨missing, hmissing⟩ := checkRequired_ok h node path
  refine (checkAllowed_texts h node path).imp ?_ ?_
  · rintro ⟨disallowed, hdisallowed⟩
    exact ⟨_, checkNode_eq_ok.mpr ⟨missing, disallowed, hmissing, hdisallowed, rfl⟩⟩
  · exact And.imp_left fun hfault => checkNode_eq_error.mpr (.inr ⟨⟨missing, hmissing⟩, hfault⟩)

end Descriptor

end ShapeLint
