import ShapeLint.Proofs.Document.Holes
import ShapeLint.Proofs.Document.Rebuilding

/-! Two fillings of one document. A container with a hole may stand at several places of a document;
what is put into the hole stands there at all of them, and apart from that the two documents are
alike. -/
namespace ShapeLint

namespace Value

/-- The value without what stands inside it: of a container, what kind it is. -/
def hollow : Value → Value
  | scalar s => scalar s
  | tuple _ => tuple []
  | list _ _ => list 0 []
  | mapping _ _ => mapping 0 []

section Hollow

variable {v w : Value}

theorem hollow_outline (v : Value) : v.outline.hollow = v.hollow := by cases v <;> rfl

theorem isMapping_congr (h : v.hollow = w.hollow) : v.isMapping = w.isMapping := by
  cases v <;> cases w <;> simp_all [hollow, isMapping]

theorem typeName_congr (h : v.hollow = w.hollow) : v.typeName = w.typeName := by
  cases v <;> cases w <;> simp_all [hollow, typeName]

theorem kindName_congr (h : v.hollow = w.hollow) : v.kindName = w.kindName := by
  cases v <;> cases w <;> simp_all [hollow, kindName]

theorem eq_null_congr (h : v.hollow = w.hollow) : v = .null ↔ w = .null := by
  cases v <;> cases w <;> simp_all [hollow]

end Hollow

section Members

variable {identity : Nat}

theorem members_exchanged (v t : Value) :
    (v.exchanged identity t).members = v.members.map fun m =>
      (m.1, if m.2.identity? = some identity then t else m.2.exchanged identity t) := by
  simp only [← rebuiltMember_exchanged]
  cases v with
  | scalar s => rfl
  | tuple xs =>
    simp [exchanged, rebuilt, rebuiltItems_eq, members, Leaf.numbered, List.zipIdx_map,
      Function.comp_def]
  | list i xs =>
    simp [exchanged, rebuilt, rebuiltItems_eq, members, Leaf.numbered, List.zipIdx_map,
      Function.comp_def]
  | mapping i es =>
    simp [exchanged, rebuilt, rebuiltEntries_eq, members, Leaf.keyed, Function.comp_def]

/-- Induction over a value by its members. -/
theorem members_induction {motive : Value → Prop}
    (step : ∀ v, (∀ m ∈ v.members, motive m.2) → motive v) (v : Value) : motive v := by
  have of_values : ∀ v : Value, (∀ x ∈ v.members.map Prod.snd, motive x) → motive v :=
    fun v h => step v fun m hm => h m.2 (List.mem_map_of_mem hm)
  induction v using nested_induction with
  | scalar s => exact of_values _ (by simp [members])
  | tuple xs ih => exact of_values _ (by simpa [members, map_snd_numbered] using ih)
  | list i xs ih => exact of_values _ (by simpa [members, map_snd_numbered] using ih)
  | mapping i es ih =>
    refine of_values _ fun x hx => ?_
    rw [members, map_snd_keyed] at hx
    obtain ⟨e, he, rfl⟩ := List.mem_map.mp hx
    exact ih e he

/-- Where a container has come, another one of its identity has given way. -/
theorem occurrences_eq_zero_of_exchanged {t : Value} (ht : t.identity? = some identity) {v : Value}
    (h : (v.exchanged identity t).occurrences identity = 0) : v.occurrences identity = 0 := by
  induction v using members_induction with
  | step v ih =>
    have hown : v.identity? ≠ some identity := by
      rw [← identity?_exchanged identity t v]
      exact identity?_ne_of_occurrences h
    have hmembers : ∀ m ∈ v.members, m.2.occurrences identity = 0 := by
      intro m hm
      have hafter : (m.1, if m.2.identity? = some identity then t else m.2.exchanged identity t) ∈
          (v.exchanged identity t).members := by
        rw [members_exchanged]
        exact List.mem_map_of_mem hm
      have hzero := Nat.eq_zero_of_le_zero (h ▸ occurrences_le_of_member hafter)
      split at hzero
      · exact absurd hzero (Nat.ne_of_gt (occurrences_pos ht))
      · exact ih m hm hzero
    rw [occurrences_eq, if_neg hown, List.map_map, Nat.add_zero]
    refine List.sum_eq_zero fun n hn => ?_
    obtain ⟨m, hm, rfl⟩ := List.mem_map.mp hn
    exact hmembers m hm

end Members

end Value

namespace Frame

/-- The identity of the container. -/
def identity : Frame → Nat
  | list identity _ _ | mapping identity _ _ _ => identity

theorem identity?_fill (frame : Frame) (x : Value) :
    (frame.fill x).identity? = some frame.identity := by
  cases frame <;> rfl

theorem hollow_fill (frame : Frame) (x y : Value) :
    (frame.fill x).hollow = (frame.fill y).hollow := by
  cases frame <;> rfl

/-- What a document comes to with `x` in the hole. A container of the identity of the frame only
keeps the place of the frame. -/
def filled (frame : Frame) (x v : Value) : Value :=
  if v.identity? = some frame.identity then frame.fill x
  else v.exchanged frame.identity (frame.fill x)

/-- Values of two documents that differ in what stands in the hole. -/
inductive Alike (frame : Frame) (old new : Value) : Value → Value → Prop where
  | same (v : Value) : Alike frame old new v v
  | carrier : Alike frame old new (frame.fill old) (frame.fill new)
  | around (v : Value) (other : v.identity? ≠ some frame.identity) :
    Alike frame old new (v.exchanged frame.identity (frame.fill old))
      (v.exchanged frame.identity (frame.fill new))

variable {frame : Frame} {old new v v' : Value}

theorem alike_filled (frame : Frame) (old new v : Value) :
    frame.Alike old new (frame.filled old v) (frame.filled new v) := by
  unfold filled
  split
  · exact .carrier
  · exact .around v ‹_›

namespace Alike

theorem identity? (h : frame.Alike old new v v') : v.identity? = v'.identity? := by
  cases h with
  | same => rfl
  | carrier => rw [identity?_fill, identity?_fill]
  | around v other => rw [Value.identity?_exchanged, Value.identity?_exchanged]

theorem hollow (h : frame.Alike old new v v') : v.hollow = v'.hollow := by
  cases h with
  | same => rfl
  | carrier => exact frame.hollow_fill old new
  | around v other =>
    rw [← Value.hollow_outline, Value.outline_exchanged (frame.isContainer_fill old),
      ← Value.outline_exchanged (frame.isContainer_fill new), Value.hollow_outline]

/-- The members of a value around the container are alike again. -/
theorem members_around (frame : Frame) (old new v : Value) :
    List.Forall₂ (fun m m' => m.1 = m'.1 ∧ frame.Alike old new m.2 m'.2)
      (v.exchanged frame.identity (frame.fill old)).members
      (v.exchanged frame.identity (frame.fill new)).members := by
  rw [Value.members_exchanged, Value.members_exchanged, List.forall₂_map_left_iff,
    List.forall₂_map_right_iff, List.forall₂_same]
  exact fun m _ => ⟨rfl, alike_filled frame old new m.2⟩

/-- Values in which the container does not stand are the same. -/
theorem eq_of_occurrences (h : frame.Alike old new v v')
    (hv : v.occurrences frame.identity = 0) : v' = v := by
  cases h with
  | same => rfl
  | carrier => exact absurd (frame.identity?_fill old) (Value.identity?_ne_of_occurrences hv)
  | around v other =>
    have hzero := Value.occurrences_eq_zero_of_exchanged (frame.identity?_fill old) hv
    rw [Value.exchanged_of_occurrences _ _ hzero, Value.exchanged_of_occurrences _ _ hzero]

end Alike

end Frame

end ShapeLint
