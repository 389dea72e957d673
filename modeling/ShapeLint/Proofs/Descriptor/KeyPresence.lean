import ShapeLint.Proofs.Descriptor.KeyNames
import ShapeLint.Proofs.Document.Holes

/-!
When the keys of a mapping count as present. Demands are met by texts alone, while allow-lists and
walks go by the texts that keys are written as, so a key that is no text may be walked to and yet be
reported as missing. Main statement: `Descriptor.demanded_by_text_walked_as_written`.
-/
namespace ShapeLint

/-- One of the keys is this text. -/
def HasText (entries : List (Scalar × Value)) (key : String) : Prop :=
  ∃ e ∈ entries, e.1 = .text key

/-- One of the keys is written as this text. -/
def Writes (entries : List (Scalar × Value)) (key : String) : Prop :=
  ∃ e ∈ entries, (Value.scalar e.1).written = .ok key

/-- A walk of the mapping comes to a child under this key: every step before can be taken. -/
def ComesTo (entries : List (Scalar × Value)) (key : String) : Prop :=
  ∃ before v after, Leaf.keyed entries = before ++ (.key key, v) :: after ∧
    ∀ member ∈ before, member.1.take = .ok ()

variable {entries : List (Scalar × Value)} {key : String}

theorem Value.written_scalar_eq_ok {name : Scalar} :
    (Value.scalar name).written = .ok key ↔ name.isWritable ∧ name.plain = key := by
  simp [written, writing_eq_ok, isWritable, plain]

theorem HasText.writes (h : HasText entries key) : Writes entries key := by
  obtain ⟨e, he, hkey⟩ := h
  exact ⟨e, he, by rw [hkey]; rfl⟩

theorem lookup_text_isSome_iff : (entries.lookup (.text key)).isSome ↔ HasText entries key := by
  rw [lookup_isSome_eq_any, List.any_eq_true]
  constructor
  · rintro ⟨name, hname, hsame⟩
    obtain ⟨e, he, rfl⟩ := List.mem_map.mp hname
    exact ⟨e, he, Scalar.eq_text_of_beq hsame⟩
  · rintro ⟨e, he, hkey⟩
    exact ⟨e.1, List.mem_map_of_mem he, by simp [hkey]⟩

theorem lookup_text_eq_none_iff : entries.lookup (.text key) = none ↔ ¬ HasText entries key := by
  rw [← lookup_text_isSome_iff, Bool.not_eq_true, Option.isSome_eq_false_iff,
    Option.isNone_iff_eq_none]

theorem comesTo_cons {e : Scalar × Value} : ComesTo (e :: entries) key ↔
    e.1.step = .key key ∨ e.1.isWritable ∧ ComesTo entries key := by
  constructor
  · rintro ⟨before, v, after, hmembers, htaken⟩
    cases before with
    | nil => exact .inl (congrArg Prod.fst (List.cons.inj hmembers).1)
    | cons member before =>
      obtain ⟨rfl, hrest⟩ := List.cons.inj hmembers
      obtain ⟨htake, htaken⟩ := List.forall_mem_cons.mp htaken
      refine .inr ⟨?_, before, v, after, hrest, htaken⟩
      simpa [Scalar.take_step] using htake
  · rintro (hstep | ⟨hwritable, before, v, after, hmembers, htaken⟩)
    · exact ⟨[], e.2, Leaf.keyed entries, by simp [Leaf.keyed, hstep], by simp⟩
    · refine ⟨(e.1.step, e.2) :: before, v, after, by rw [List.cons_append, ← hmembers]; rfl, ?_⟩
      exact List.forall_mem_cons.mpr ⟨by simp [Scalar.take_step, hwritable], htaken⟩

/-- A walk goes by what keys are written as, up to the first that cannot be written. -/
theorem comesTo_iff : ComesTo entries key ↔ Writes (Value.writtenEntries entries) key := by
  induction entries with
  | nil => simp [ComesTo, Leaf.keyed, Writes, Value.writtenEntries]
  | cons e entries ih =>
    rw [comesTo_cons, ih, Scalar.step_eq_key_iff]
    cases h : e.1.isWritable with
    | true => simp [Writes, Value.writtenEntries, h, Value.written_scalar_eq_ok]
    | false => simp [Writes, Value.writtenEntries, h]

namespace Descriptor

/-- Demands of a descriptor are reported as unmet just when the keys are not present, in the one
sense or the other. -/
structure Demands (d : Descriptor) (identity : Nat) (entries : List (Scalar × Value))
    (required : List String) (path : Path) (Present : String → Prop) : Prop where
  each : ∃ missing, (d.checkRequired (.mapping identity entries) path).outcome = .ok missing ∧
    ∀ key, (∃ x ∈ missing, x.code = .missingRequired ∧ x.key = some key) ↔
      key ∈ required ∧ ¬ Present key
  oneOf : d.checkRequiredOneOf (.mapping identity entries) path ≠ [] ↔
    ∃ group ∈ d.requiredOneOf, group ≠ [] ∧ ∀ key ∈ group, ¬ Present key

variable {d : Descriptor} {identity : Nat} {required : List String} {path : Path}

theorem checkRequiredOneOf_ne_nil_iff :
    d.checkRequiredOneOf (.mapping identity entries) path ≠ [] ↔
      ∃ group ∈ d.requiredOneOf, group ≠ [] ∧ ∀ key ∈ group, ¬ HasText entries key := by
  unfold checkRequiredOneOf
  cases d.requiredOneOf with
  | none => simp
  | some group =>
    have hmet : (group.isEmpty || group.any fun key => (entries.lookup (.text key)).isSome) = true ↔
        ¬ (group ≠ [] ∧ ∀ key ∈ group, ¬ HasText entries key) := by
      simp only [Bool.or_eq_true, List.isEmpty_iff, List.any_eq_true, lookup_text_isSome_iff]
      by_cases hgroup : group = [] <;> simp [hgroup]
    dsimp only
    split
    · rename_i h
      simpa using hmet.mp h
    · rename_i h
      simpa using not_not.mp (mt hmet.mpr h)

/-- Demands are met by keys that are texts. -/
theorem demands_hasText
    (h : (d.requiredKeys (.mapping identity entries)).outcome = .ok (required.map Value.text)) :
    d.Demands identity entries required path (HasText entries) where
  each := by simpa only [lookup_text_eq_none_iff] using checkRequired_texts h path
  oneOf := checkRequiredOneOf_ne_nil_iff

/-- Demands are met by keys as they are written just when keys written as demanded are texts. -/
theorem demands_writes_iff
    (h : (d.requiredKeys (.mapping identity entries)).outcome = .ok (required.map Value.text)) :
    d.Demands identity entries required path (Writes entries) ↔
      (∀ key ∈ required, Writes entries key → HasText entries key) ∧
      ∀ group ∈ d.requiredOneOf, (∃ key ∈ group, Writes entries key) →
        ∃ key ∈ group, HasText entries key := by
  have demands : d.Demands identity entries required path (HasText entries) := demands_hasText h
  obtain ⟨⟨missing, hmissing, heach⟩, honeOf⟩ := demands
  constructor
  · rintro ⟨⟨missing', hmissing', heach'⟩, honeOf'⟩
    obtain rfl := Except.ok.inj (hmissing.symm.trans hmissing')
    refine ⟨fun key hkey written => ?_, fun group hgroup hwritten => ?_⟩
    · by_contra habsent
      exact ((heach' key).mp ((heach key).mpr ⟨hkey, habsent⟩)).2 written
    · by_contra habsent
      obtain ⟨key, hkey, written⟩ := hwritten
      have hreported := honeOf.mpr ⟨group, hgroup, List.ne_nil_of_mem hkey, by simpa using habsent⟩
      obtain ⟨group', hgroup', -, hunwritten⟩ := honeOf'.mp hreported
      obtain rfl := Option.some.inj (hgroup.symm.trans hgroup')
      exact hunwritten key hkey written
  · rintro ⟨hrequired, hgroups⟩
    refine ⟨⟨missing, hmissing, fun key => (heach key).trans ?_⟩, honeOf.trans ?_⟩
    · exact and_congr_right fun hkey => not_congr ⟨HasText.writes, hrequired key hkey⟩
    · refine exists_congr fun group => and_congr_right fun hgroup => and_congr_right fun _ => ?_
      constructor
      · intro habsent key hkey written
        obtain ⟨key, hkey, htext⟩ := hgroups group hgroup ⟨key, hkey, written⟩
        exact habsent key hkey htext
      · exact fun hunwritten key hkey htext => hunwritten key hkey htext.writes

/-- An allow-list goes by the texts that keys are written as. -/
theorem disallowed_iff {f : Conditional} {allowed : List String} (hallowed : d.allowed = some f)
    (hkeys : allowedKeys f (.mapping identity entries) = .ok allowed)
    (hwritable : ∀ e ∈ entries, e.1.isWritable) :
    ∃ found, (d.checkAllowed (.mapping identity entries) path).outcome = .ok found ∧
      ∀ key, (∃ x ∈ found, x.key = some key) ↔
        Writes entries key ∧ key ∉ allowed ∧ d.isExtension key = false := by
  rw [checkAllowed_outcome hallowed, hkeys]
  refine ⟨_, writing_eq_ok.mpr ⟨List.forall_mem_map.mpr hwritable, rfl⟩, fun key => ?_⟩
  constructor
  · rintro ⟨x, hx, hkey⟩
    obtain ⟨name, hname, rfl⟩ := List.mem_map.mp hx
    obtain rfl := Option.some.inj hkey
    obtain ⟨hwritten, houtside⟩ := List.mem_filter.mp hname
    obtain ⟨e, he, rfl⟩ := List.mem_map.mp hwritten
    exact ⟨⟨e, he, Value.written_scalar_eq_ok.mpr ⟨hwritable e he, rfl⟩⟩, by simpa using houtside⟩
  · rintro ⟨⟨e, he, hwritten⟩, houtside⟩
    obtain ⟨-, rfl⟩ := Value.written_scalar_eq_ok.mp hwritten
    refine ⟨_, List.mem_map_of_mem (List.mem_filter.mpr ⟨List.mem_map_of_mem he, ?_⟩), rfl⟩
    simpa using houtside

/-- No key is compared with an allow-list unless all of them can be written. -/
theorem checkAllowed_unwritable {f : Conditional} {allowed : List String}
    (hallowed : d.allowed = some f)
    (hkeys : allowedKeys f (.mapping identity entries) = .ok allowed)
    (hunwritable : ¬ ∀ e ∈ entries, e.1.isWritable) :
    (d.checkAllowed (.mapping identity entries) path).outcome = .error .unwritable := by
  rw [checkAllowed_outcome hallowed, hkeys]
  exact writing_eq_error.mpr ⟨mt List.forall_mem_map.mp hunwritable, rfl⟩

/-- Demands of texts are met by keys that are these texts, though walks and allow-lists go by the
texts that keys are written as, and stop at one that cannot be written. The two senses of presence
agree for a descriptor and a mapping just when a key that is written as demanded is a text. -/
theorem demanded_by_text_walked_as_written
    (h : (d.requiredKeys (.mapping identity entries)).outcome = .ok (required.map Value.text)) :
    d.Demands identity entries required path (HasText entries) ∧
    (∀ key, ComesTo entries key ↔ Writes (Value.writtenEntries entries) key) ∧
    (∀ f ∈ d.allowed, ∀ allowed, allowedKeys f (.mapping identity entries) = .ok allowed →
      (∀ e ∈ entries, e.1.isWritable) ∧
        (∃ found, (d.checkAllowed (.mapping identity entries) path).outcome = .ok found ∧
          ∀ key, (∃ x ∈ found, x.key = some key) ↔
            Writes entries key ∧ key ∉ allowed ∧ d.isExtension key = false) ∨
      (¬ ∀ e ∈ entries, e.1.isWritable) ∧
        (d.checkAllowed (.mapping identity entries) path).outcome = .error .unwritable) ∧
    (d.Demands identity entries required path (Writes entries) ↔
      (∀ key ∈ required, Writes entries key → HasText entries key) ∧
      ∀ group ∈ d.requiredOneOf, (∃ key ∈ group, Writes entries key) →
        ∃ key ∈ group, HasText entries key) := by
  refine ⟨demands_hasText h, fun _ => comesTo_iff, fun f hf allowed hkeys => ?_,
    demands_writes_iff h⟩
  by_cases hwritable : ∀ e ∈ entries, e.1.isWritable
  · exact .inl ⟨hwritable, disallowed_iff hf hkeys hwritable⟩
  · exact .inr ⟨hwritable, checkAllowed_unwritable hf hkeys hwritable⟩

/-- Answers that must describe success or everything else. -/
def answers : Descriptor where
  name := "Answers"
  required := .ofKeys ["200"]
  group := some (.growing ["200", "default"])

theorem demanded_by_text_walked_as_written_answers :
    (answers.requiredKeys (.mapping 0 [(.text "200", .null)])).outcome = .ok [.text "200"] ∧
      answers.Demands 0 [(.text "200", .null)] ["200"] [] (Writes [(.text "200", .null)]) := by
  have hrequired : (answers.requiredKeys (.mapping 0 [(.text "200", .null)])).outcome =
      .ok (["200"].map Value.text) := rfl
  have present : HasText [(.text "200", .null)] "200" := ⟨_, List.mem_singleton.mpr rfl, rfl⟩
  refine ⟨hrequired, (demanded_by_text_walked_as_written hrequired).2.2.2.mpr ⟨?_, ?_⟩⟩
  · rintro key hkey -
    obtain rfl := List.mem_singleton.mp hkey
    exact present
  · rintro group hgroup -
    obtain rfl := Option.some.inj hgroup
    exact ⟨"200", List.mem_cons_self, present⟩

/-- A number is written as demanded, and a walk comes to its child, but it is not what is
demanded. -/
theorem not_demands_writes :
    ComesTo [(.int 200, .null)] "200" ∧
      ¬ Demands { required := .ofKeys ["200"] } 0 [(.int 200, .null)] ["200"] []
        (Writes [(.int 200, .null)]) ∧
      ¬ Demands { group := some (.growing ["200"]) } 0 [(.int 200, .null)] [] []
        (Writes [(.int 200, .null)]) := by
  have written : Writes [(.int 200, .null)] "200" := ⟨_, List.mem_singleton.mpr rfl, rfl⟩
  have absent : ¬ HasText [(.int 200, .null)] "200" := by
    rintro ⟨e, he, hkey⟩
    obtain rfl := List.mem_singleton.mp he
    cases hkey
  refine ⟨comesTo_iff.mpr written, fun h => ?_, fun h => ?_⟩
  · exact absent (((demands_writes_iff rfl).mp h).1 "200" List.mem_cons_self written)
  · obtain ⟨key, hkey, htext⟩ :=
      ((demands_writes_iff rfl).mp h).2 _ rfl ⟨"200", List.mem_cons_self, written⟩
    obtain rfl := List.mem_singleton.mp hkey
    exact absent htext

end Descriptor

end ShapeLint
