import ShapeLint.Proofs.Descriptor.KeyFindings
import ShapeLint.Proofs.Descriptor.KeyNames
import ShapeLint.Proofs.Leaf.Repetition

/-! The checks of a node's keys report nothing twice, if no key is required twice. Main statement:
`Descriptor.distinct_checkNode`. -/
namespace ShapeLint.Descriptor

/-- No key is required twice of a node. -/
def RequiresOnce (d : Descriptor) : Prop :=
  ∀ ⦃node keys⦄, (d.requiredKeys node).outcome = .ok keys → keys.Nodup

variable {d : Descriptor} {entries : List (Scalar × Value)} {path : Path} {found : List Violation}

theorem absentKey_of_missingKeys {keys : List Value}
    (h : d.missingKeys entries path keys = .ok found) :
    ∀ x ∈ found, x.code = .missingRequired ∧ Value.scalar x.absentKey ∈ keys := by
  induction keys generalizing found with
  | nil =>
    obtain rfl := Except.ok.inj h
    simp
  | cons key keys ih =>
    intro x hx
    obtain ⟨rest, hrest, ⟨-, rfl⟩ | ⟨-, violation, hviolation, rfl⟩⟩ := missingKeys_cons_eq_ok h
    · exact (ih hrest x hx).imp_right (List.mem_cons_of_mem _)
    · rcases List.mem_cons.mp hx with rfl | hx
      · obtain ⟨code, -, -, rfl⟩ := missing_eq_ok hviolation
        exact ⟨code, List.mem_cons_self⟩
      · exact (ih hrest x hx).imp_right (List.mem_cons_of_mem _)

theorem distinct_missingKeys {keys : List Value} (once : keys.Nodup)
    (h : d.missingKeys entries path keys = .ok found) : Distinct found := by
  induction keys generalizing found with
  | nil =>
    obtain rfl := Except.ok.inj h
    exact .nil
  | cons key keys ih =>
    obtain ⟨hkey, hkeys⟩ := List.nodup_cons.mp once
    obtain ⟨rest, hrest, ⟨-, rfl⟩ | ⟨-, violation, hviolation, rfl⟩⟩ := missingKeys_cons_eq_ok h
    · exact ih hkeys hrest
    · obtain ⟨-, -, -, rfl⟩ := missing_eq_ok hviolation
      refine List.pairwise_cons.mpr ⟨fun y hy repeats => hkey ?_, ih hkeys hrest⟩
      have habsent : violation.absentKey = y.absentKey := by
        rw [Violation.absentKey, Violation.absentKey, repeats.key]
      exact habsent ▸ (absentKey_of_missingKeys hrest y hy).2

theorem distinct_disallowed {keys : List String} (once : keys.Nodup) :
    Distinct (keys.map (d.disallowed path)) :=
  List.pairwise_map.mpr (once.imp fun hne repeats => hne (Option.some.inj repeats.key))

theorem distinct_checkAllowed {identity : Nat} (once : (Value.mapping identity entries).KeysOnce)
    (texts : (Value.mapping identity entries).TextKeyed)
    (h : (d.checkAllowed (.mapping identity entries) path).outcome = .ok found) :
    Distinct found ∧ ∀ x ∈ found, x.code = .disallowedKey := by
  cases hallowed : d.allowed with
  | none =>
    simp only [checkAllowed, hallowed] at h
    obtain rfl := Except.ok.inj h
    exact ⟨.nil, by simp⟩
  | some f =>
    rw [checkAllowed_outcome hallowed] at h
    cases hkeys : allowedKeys f (.mapping identity entries) with
    | ok allowed =>
      simp only [hkeys] at h
      obtain ⟨-, rfl⟩ := writing_eq_ok.mp h
      have hplain : (entries.map fun e => e.1.plain).Nodup := by
        simpa [Function.comp_def] using Value.nodup_plain (once (.here _)) (texts (.here _))
      exact ⟨distinct_disallowed (hplain.filter _), List.forall_mem_map.mpr fun _ _ => rfl⟩
    | error fault =>
      simp only [hkeys] at h
      split at h
      · obtain rfl := Except.ok.inj h
        exact ⟨.nil, by simp⟩
      · contradiction

theorem distinct_checkRequiredOneOf (d : Descriptor) (node : Value) (path : Path) :
    Distinct (d.checkRequiredOneOf node path) ∧
      ∀ x ∈ d.checkRequiredOneOf node path, x.code = .missingRequiredOneOf := by
  unfold checkRequiredOneOf
  split
  · split
    · exact ⟨.nil, by simp⟩
    · exact ⟨.singleton _, by simp⟩
  · exact ⟨.nil, by simp⟩

/-- The three checks of a node report different things. -/
theorem distinct_checkNode {node : Value} (requires : d.RequiresOnce) (once : node.KeysOnce)
    (texts : node.TextKeyed) (h : (d.checkNode node path).outcome = .ok found) :
    Distinct found := by
  cases node with
  | mapping identity entries =>
    obtain ⟨missing, disallowed, hmissing, hdisallowed, rfl⟩ := checkNode_eq_ok.mp h
    rw [checkRequired, Journaled.outcome_bind] at hmissing
    obtain ⟨keys, hkeys, hmissing⟩ := bind_eq_ok.mp hmissing
    have hcodes := fun x hx => (absentKey_of_missingKeys hmissing x hx).1
    have hmissing := distinct_missingKeys (requires hkeys) hmissing
    obtain ⟨honeOf, hcodes'⟩ := distinct_checkRequiredOneOf d (.mapping identity entries) path
    obtain ⟨hdisallowed, hcodes''⟩ := distinct_checkAllowed once texts hdisallowed
    refine (hmissing.append_of_codes [.missingRequired] honeOf ?_ ?_).append_of_codes
      [.missingRequired, .missingRequiredOneOf] hdisallowed ?_ ?_
    · simpa using hcodes
    · simp +contextual [hcodes']
    · simp only [List.forall_mem_append]
      exact ⟨by simp +contextual [hcodes], by simp +contextual [hcodes']⟩
    · simp +contextual [hcodes'']
  | _ =>
    obtain rfl := Except.ok.inj h
    exact .nil

/-- What the checks of a node report stands at the node, or it is a key of the node that is not
allowed. -/
theorem place_of_checkNode {node : Value} {x : Violation}
    (h : (d.checkNode node path).outcome = .ok found) (hx : x ∈ found) :
    (x.path = path ∧ x.code ≠ .disallowedKey) ∨
      ∃ step, x.path = path ++ [step] ∧ x.code = .disallowedKey := by
  obtain ⟨identity, entries, rfl, finding⟩ := keyFinding_of_checkNode h hx
  cases finding with
  | missing code _ place => exact .inl ⟨place, by simp [code]⟩
  | missingOneOf code _ place => exact .inl ⟨place, by simp [code]⟩
  | disallowed _ _ eq =>
    subst eq
    exact .inr ⟨_, rfl, rfl⟩

end ShapeLint.Descriptor
