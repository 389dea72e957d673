import ShapeLint.Descriptor.Keys
import ShapeLint.Proofs.Outcome

/-! What the checks of a node's keys find: keys that the node lacks, and keys that it has but must
not have. Main statement: `Descriptor.keyFinding_of_checkNode`. -/
namespace ShapeLint

/-- The key that a violation says is absent. -/
def Violation.absentKey (x : Violation) : Scalar := (x.key.map Scalar.text).getD .null

namespace Descriptor

/-- What a violation of a node's keys tells of the entries of the node. -/
inductive KeyFinding (d : Descriptor) (entries : List (Scalar × Value)) (path : Path)
    (x : Violation) : Prop where
  | missing (code : x.code = .missingRequired) (type : x.typeName = d.name) (place : x.path = path)
      (absent : entries.lookup x.absentKey = none)
  | missingOneOf {group : List String} (code : x.code = .missingRequiredOneOf)
      (type : x.typeName = d.name) (place : x.path = path) (demanded : d.requiredOneOf = some group)
      (absent : ∀ key ∈ group, entries.lookup (.text key) = none)
  | disallowed {key : Scalar} {v : Value} (member : (key, v) ∈ entries)
      (writable : key.isWritable) (eq : x = d.disallowed path key.plain)

variable {d : Descriptor} {entries : List (Scalar × Value)} {path : Path} {x : Violation}

theorem missing_eq_ok {key : Value} (h : d.missing path key = .ok x) :
    x.code = .missingRequired ∧ x.typeName = d.name ∧ x.path = path ∧
      key = .scalar x.absentKey := by
  unfold missing at h
  split at h
  · obtain rfl := Except.ok.inj h
    exact ⟨rfl, rfl, rfl, rfl⟩
  · obtain rfl := Except.ok.inj h
    exact ⟨rfl, rfl, rfl, rfl⟩
  · obtain ⟨-, -, h⟩ := bind_eq_ok.mp h
    contradiction

theorem disallowedKeys_eq_ok {allowed : List String} {found : List Violation} :
    d.disallowedKeys entries path allowed = .ok found ↔
      (∀ entry ∈ entries, entry.1.isWritable) ∧
        ((entries.map fun (key, _) => key.plain).filter fun key =>
          !(allowed.contains key || d.isExtension key)).map (d.disallowed path) = found := by
  simp only [disallowedKeys, writing_eq_ok, List.forall_mem_map, Value.isWritable]

theorem disallowedKeys_eq_error {allowed : List String} {fault : Fault} :
    d.disallowedKeys entries path allowed = .error fault ↔
      (¬ ∀ entry ∈ entries, entry.1.isWritable) ∧ fault = .unwritable := by
  simp only [disallowedKeys, writing_eq_error, List.forall_mem_map, Value.isWritable]

/-- A key is reported in front of the others just when it is absent. -/
theorem missingKeys_cons_eq_ok {key : Value} {keys : List Value} {found : List Violation}
    (h : d.missingKeys entries path (key :: keys) = .ok found) :
    ∃ rest, d.missingKeys entries path keys = .ok rest ∧
      (key.isKeyOf entries = .ok true ∧ found = rest ∨
        key.isKeyOf entries = .ok false ∧
          ∃ violation, d.missing path key = .ok violation ∧ found = violation :: rest) := by
  rw [missingKeys] at h
  obtain ⟨present, hpresent, h⟩ := bind_eq_ok.mp h
  cases present with
  | true => exact ⟨found, h, .inl ⟨hpresent, rfl⟩⟩
  | false =>
    obtain ⟨violation, hviolation, h⟩ := bind_eq_ok.mp h
    obtain ⟨rest, hrest, h⟩ := bind_eq_ok.mp h
    exact ⟨rest, hrest, .inr ⟨hpresent, violation, hviolation, (Except.ok.inj h).symm⟩⟩

theorem keyFinding_of_missingKeys {keys : List Value} {found : List Violation}
    (h : d.missingKeys entries path keys = .ok found) (hx : x ∈ found) :
    d.KeyFinding entries path x := by
  induction keys generalizing found with
  | nil =>
    obtain rfl := Except.ok.inj h
    contradiction
  | cons key keys ih =>
    obtain ⟨rest, hrest, ⟨-, rfl⟩ | ⟨hpresent, violation, hviolation, rfl⟩⟩ :=
      missingKeys_cons_eq_ok h
    · exact ih hrest hx
    · rcases List.mem_cons.mp hx with rfl | hx
      · obtain ⟨code, type, place, rfl⟩ := missing_eq_ok hviolation
        have absent : entries.lookup x.absentKey = none := by
          simpa [Value.isKeyOf, Value.unhashable?] using hpresent
        exact .missing code type place absent
      · exact ih hrest hx

theorem keyFinding_of_checkRequiredOneOf {identity : Nat}
    (h : x ∈ d.checkRequiredOneOf (.mapping identity entries) path) :
    d.KeyFinding entries path x := by
  unfold checkRequiredOneOf at h
  cases hgroup : d.requiredOneOf with
  | none => simp [hgroup] at h
  | some group =>
    simp only [hgroup] at h
    split at h
    · contradiction
    · rename_i hnone
      obtain rfl := List.mem_singleton.mp h
      refine .missingOneOf rfl rfl rfl hgroup fun key hkey => ?_
      simp only [Bool.or_eq_true, List.any_eq_true, not_or, not_exists, not_and,
        Bool.not_eq_true, Option.isSome_eq_false_iff, Option.isNone_iff_eq_none] at hnone
      exact hnone.2 key hkey

theorem keyFinding_of_checkAllowed {identity : Nat} {found : List Violation}
    (h : (d.checkAllowed (.mapping identity entries) path).outcome = .ok found) (hx : x ∈ found) :
    d.KeyFinding entries path x := by
  unfold checkAllowed at h
  cases hallowed : d.allowed with
  | none =>
    simp only [hallowed] at h
    obtain rfl := Except.ok.inj h
    contradiction
  | some f =>
    simp only [hallowed] at h
    cases hkeys : allowedKeys f (.mapping identity entries) with
    | ok allowed =>
      simp only [hkeys] at h
      obtain ⟨writable, rfl⟩ := disallowedKeys_eq_ok.mp h
      obtain ⟨key, hkey, rfl⟩ := List.mem_map.mp hx
      obtain ⟨⟨scalar, v⟩, hentry, rfl⟩ := List.mem_map.mp (List.mem_filter.mp hkey).1
      exact .disallowed hentry (writable _ hentry) rfl
    | error fault =>
      simp only [hkeys] at h
      split at h
      · obtain rfl := Except.ok.inj h
        contradiction
      · contradiction

theorem checkNode_eq_ok {node : Value} {found : List Violation} :
    (d.checkNode node path).outcome = .ok found ↔
      ∃ missing disallowed, (d.checkRequired node path).outcome = .ok missing ∧
        (d.checkAllowed node path).outcome = .ok disallowed ∧
        missing ++ d.checkRequiredOneOf node path ++ disallowed = found := by
  simp only [checkNode, Journaled.outcome_bind, bind_eq_ok]
  constructor
  · rintro ⟨missing, hmissing, disallowed, hdisallowed, h⟩
    exact ⟨missing, disallowed, hmissing, hdisallowed, Except.ok.inj h⟩
  · rintro ⟨missing, disallowed, hmissing, hdisallowed, rfl⟩
    exact ⟨missing, hmissing, disallowed, hdisallowed, rfl⟩

theorem checkNode_eq_error {node : Value} {fault : Fault} :
    (d.checkNode node path).outcome = .error fault ↔
      (d.checkRequired node path).outcome = .error fault ∨
        (∃ missing, (d.checkRequired node path).outcome = .ok missing) ∧
          (d.checkAllowed node path).outcome = .error fault := by
  simp only [checkNode, Journaled.outcome_bind, bind_eq_error]
  constructor
  · rintro (h | ⟨missing, hmissing, h | ⟨_, -, h⟩⟩)
    · exact .inl h
    · exact .inr ⟨⟨missing, hmissing⟩, h⟩
    · contradiction
  · rintro (h | ⟨⟨missing, hmissing⟩, h⟩)
    · exact .inl h
    · exact .inr ⟨missing, hmissing, .inl h⟩

/-- Only the keys of mappings are checked, and each violation tells what is wrong with them. -/
theorem keyFinding_of_checkNode {node : Value} {found : List Violation}
    (h : (d.checkNode node path).outcome = .ok found) (hx : x ∈ found) :
    ∃ identity entries, node = .mapping identity entries ∧ d.KeyFinding entries path x := by
  cases node with
  | mapping identity entries =>
    refine ⟨identity, entries, rfl, ?_⟩
    obtain ⟨missing, disallowed, hmissing, hdisallowed, rfl⟩ := checkNode_eq_ok.mp h
    rcases List.mem_append.mp hx with hx | hx
    · rcases List.mem_append.mp hx with hx | hx
      · rw [checkRequired, Journaled.outcome_bind] at hmissing
        obtain ⟨keys, hkeys, hmissing⟩ := bind_eq_ok.mp hmissing
        exact keyFinding_of_missingKeys hmissing hx
      · exact keyFinding_of_checkRequiredOneOf hx
    · exact keyFinding_of_checkAllowed hdisallowed hx
  | _ =>
    obtain rfl := Except.ok.inj h
    contradiction

end Descriptor

end ShapeLint
