import Mathlib.Algebra.Order.BigOperators.Group.List
import Mathlib.Algebra.Order.Ring.Nat
import Mathlib.Data.Set.Finite.List
import Mathlib.Data.Set.Finite.Lattice
import ShapeLint.Leaf.Check
import ShapeLint.Proofs.Document.Containers

/-! Routes into values: the members of a value, and the steps that lead from a value to the values
inside it. -/
namespace ShapeLint.Value

/-- The members of a sequence or of a mapping, with the steps that lead to them. -/
def members : Value → List (Step × Value)
  | list _ xs | tuple xs => Leaf.numbered xs
  | mapping _ es => Leaf.keyed es
  | scalar _ => []

/-- Steps that lead from a value to a value inside it. -/
inductive Leads : Value → Path → Value → Prop where
  | here (v : Value) : Leads v [] v
  | step {v w u : Value} {step : Step} {path : Path} (member : (step, w) ∈ v.members)
      (rest : Leads w path u) : Leads v (step :: path) u

theorem Leads.append {v w u : Value} {path rest : Path} (h : Leads v path w)
    (hrest : Leads w rest u) : Leads v (path ++ rest) u := by
  induction h with
  | here => exact hrest
  | step member _ ih => exact .step member (ih hrest)

theorem Leads.of_member {v w : Value} {step : Step} (h : (step, w) ∈ v.members) :
    Leads v [step] w := .step h (.here w)

/-- What is not a scalar can be written just when the keys and the values in it can. -/
theorem isWritable_iff {v : Value} (h : ∀ s, v ≠ .scalar s) :
    v.isWritable ↔ ∀ m ∈ v.members, m.1.take = .ok () ∧ m.2.isWritable := by
  have hstep (key : Scalar) : key.step.take = .ok () ↔ key.isWritable := by
    rw [Scalar.take_step]
    cases key.isWritable <;> simp
  have hnumbered (xs : List Value) : xs.all isWritable ↔
      ∀ m ∈ Leaf.numbered xs, m.1.take = .ok () ∧ m.2.isWritable := by
    rw [List.all_eq_true]
    constructor
    · intro hxs m hm
      obtain ⟨⟨x, i⟩, hx, rfl⟩ := List.mem_map.mp hm
      exact ⟨rfl, hxs x (List.fst_mem_of_mem_zipIdx hx)⟩
    · intro hm x hx
      obtain ⟨i, hi, rfl⟩ := List.mem_iff_getElem.mp hx
      exact (hm (.index i, xs[i]) (List.mem_map.mpr
        ⟨(xs[i], i), List.mk_mem_zipIdx_iff_getElem?.mpr (by simp), rfl⟩)).2
  cases v with
  | scalar s => exact absurd rfl (h s)
  | tuple xs => rw [isWritable, itemsWritable_eq]; exact hnumbered xs
  | list identity xs => rw [isWritable, itemsWritable_eq]; exact hnumbered xs
  | mapping identity es =>
    simp only [isWritable, entriesWritable_eq, List.all_eq_true, Bool.and_eq_true, members,
      Leaf.keyed, List.forall_mem_map, hstep]

theorem isWritable_of_member {v : Value} (h : v.isWritable) {m : Step × Value}
    (hm : m ∈ v.members) : m.1.take = .ok () ∧ m.2.isWritable := by
  refine (isWritable_iff ?_).mp h m hm
  rintro s rfl
  contradiction

/-- The entries in front of the first key that cannot be written. -/
def writtenEntries (entries : List (Scalar × Value)) : List (Scalar × Value) :=
  entries.takeWhile fun e => e.1.isWritable

section Occurrences

variable (identity : Nat)

theorem occurrencesInItems_eq (xs : List Value) :
    occurrencesInItems identity xs = (xs.map (occurrences identity)).sum := by
  induction xs with
  | nil => rfl
  | cons x xs ih => rw [occurrencesInItems, ih, List.map_cons, List.sum_cons]

theorem occurrencesInEntries_eq (es : List (Scalar × Value)) :
    occurrencesInEntries identity es = (es.map fun e => e.2.occurrences identity).sum := by
  induction es with
  | nil => rfl
  | cons e es ih => rw [occurrencesInEntries, ih, List.map_cons, List.sum_cons]

theorem map_snd_numbered (xs : List Value) : (Leaf.numbered xs).map Prod.snd = xs := by
  simp [Leaf.numbered, Function.comp_def]

theorem map_snd_keyed (es : List (Scalar × Value)) :
    (Leaf.keyed es).map Prod.snd = es.map Prod.snd := by
  simp [Leaf.keyed, Function.comp_def]

/-- A container stands at its own place and at places in the members. -/
theorem occurrences_eq (v : Value) : v.occurrences identity =
    ((v.members.map Prod.snd).map (occurrences identity)).sum +
      if v.identity? = some identity then 1 else 0 := by
  cases v with
  | scalar s => rfl
  | tuple xs =>
    simp [members, map_snd_numbered, occurrences, occurrencesInItems_eq, identity?]
  | list i xs =>
    simp [members, map_snd_numbered, occurrences, occurrencesInItems_eq, identity?]
  | mapping i es =>
    simp [members, map_snd_keyed, occurrences, occurrencesInEntries_eq, identity?,
      Function.comp_def]

variable {identity}

theorem occurrences_le_of_member {v w : Value} {step : Step} (h : (step, w) ∈ v.members) :
    w.occurrences identity ≤ v.occurrences identity := by
  have hsum : w.occurrences identity ≤
      ((v.members.map Prod.snd).map (occurrences identity)).sum :=
    List.le_sum_of_mem (List.mem_map_of_mem (List.mem_map_of_mem h))
  rw [v.occurrences_eq identity]
  omega

theorem Leads.occurrences_le {v w : Value} {path : Path} (h : Leads v path w) :
    w.occurrences identity ≤ v.occurrences identity := by
  induction h with
  | here => exact Nat.le_refl _
  | step member _ ih => exact le_trans ih (occurrences_le_of_member member)

theorem occurrences_pos {v : Value} (h : v.identity? = some identity) :
    0 < v.occurrences identity := by
  rw [v.occurrences_eq identity, if_pos h]
  omega

end Occurrences

/-- Finitely many containers stand in a value. -/
theorem finite_occurrences (v : Value) : {identity | 0 < v.occurrences identity}.Finite := by
  have of_members : ∀ v : Value, (∀ x ∈ v.members.map Prod.snd,
      {identity | 0 < x.occurrences identity}.Finite) →
      {identity | 0 < v.occurrences identity}.Finite := by
    intro v hmembers
    have hown : {identity | v.identity? = some identity}.Finite := by
      apply Set.Subsingleton.finite
      intro i hi j hj
      exact Option.some.inj (hi.symm.trans hj)
    refine ((Set.Finite.biUnion (List.finite_toSet _) hmembers).union hown).subset ?_
    intro identity hidentity
    by_cases h : v.identity? = some identity
    · exact .inr h
    · refine .inl (Set.mem_iUnion₂.mpr ?_)
      by_contra hnone
      have hzero : ∀ n ∈ (v.members.map Prod.snd).map (occurrences identity), n = 0 := by
        intro n hn
        obtain ⟨x, hx, rfl⟩ := List.mem_map.mp hn
        exact Nat.eq_zero_of_not_pos fun hpos => hnone ⟨x, hx, hpos⟩
      have hpos : 0 < v.occurrences identity := hidentity
      rw [v.occurrences_eq, if_neg h, List.sum_eq_zero hzero] at hpos
      exact absurd hpos (Nat.lt_irrefl 0)
  induction v using nested_induction with
  | scalar s => exact of_members _ (by simp [members])
  | tuple xs ih => exact of_members _ (by simpa [members, map_snd_numbered] using ih)
  | list identity xs ih => exact of_members _ (by simpa [members, map_snd_numbered] using ih)
  | mapping identity es ih =>
    apply of_members
    intro x hx
    rw [members, map_snd_keyed] at hx
    obtain ⟨e, he, rfl⟩ := List.mem_map.mp hx
    exact ih e he

end ShapeLint.Value
