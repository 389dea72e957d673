import ShapeLint.Proofs.Document.Holes

/-! Keys of the mappings in a value. A key stands for one entry, and members under different texts
are reached by different steps. -/
namespace ShapeLint.Value

/-- The keys of each mapping in a value are such. -/
def EachMapping (P : List Scalar → Prop) (v : Value) : Prop :=
  ∀ ⦃path identity es⦄, v.Leads path (.mapping identity es) → P (es.map Prod.fst)

/-- No mapping in a value has the same key twice. -/
def KeysOnce (v : Value) : Prop :=
  v.EachMapping fun keys => keys.Pairwise fun key other => (key == other) = false

/-- All keys of the mappings in a value are texts. -/
def TextKeyed (v : Value) : Prop :=
  v.EachMapping fun keys => ∀ key ∈ keys, ∃ name, key = .text name

section EachMapping

variable {P : List Scalar → Prop} {v w : Value}

theorem EachMapping.of_member {step : Step} (h : v.EachMapping P)
    (member : (step, w) ∈ v.members) : w.EachMapping P :=
  fun _ _ _ leads => h (.step member leads)

theorem EachMapping.of_members (own : ∀ keys, v.keyNames? = some keys → P keys)
    (members : ∀ w ∈ v.members.map Prod.snd, w.EachMapping P) : v.EachMapping P := by
  intro path identity es leads
  cases leads with
  | here => exact own _ rfl
  | step member rest => exact members _ (List.mem_map_of_mem member) rest

theorem EachMapping.of_no_members (own : v.keyNames? = none) (empty : v.members = []) :
    v.EachMapping P :=
  .of_members (by simp [own]) (by simp [empty])

end EachMapping

variable {v : Value}

theorem steps_numbered (xs : List Value) :
    (Leaf.numbered xs).map Prod.fst = (List.range xs.length).map fun i : Nat => Step.index i := by
  have hpositions : xs.zipIdx.map Prod.snd = List.range xs.length := by
    simp [List.range_eq_range']
  rw [← hpositions, Leaf.numbered, List.map_map, List.map_map]
  rfl

theorem nodup_steps_numbered (xs : List Value) : ((Leaf.numbered xs).map Prod.fst).Nodup := by
  rw [steps_numbered]
  exact List.nodup_range.map fun i j h => Int.ofNat_inj.mp (Step.index.inj h)

/-- The keys of a mapping as texts. -/
theorem nodup_plain {es : List (Scalar × Value)}
    (once : (es.map Prod.fst).Pairwise fun key other => (key == other) = false)
    (texts : ∀ key ∈ es.map Prod.fst, ∃ name, key = .text name) :
    ((es.map Prod.fst).map Scalar.plain).Nodup := by
  rw [List.Nodup, List.pairwise_map]
  refine once.imp_of_mem ?_
  intro key other hkey hother hne hplain
  obtain ⟨name, rfl⟩ := texts key hkey
  obtain ⟨name', rfl⟩ := texts other hother
  obtain rfl : name = name' := hplain
  simp at hne

/-- No two members are reached by one step. -/
theorem nodup_steps (once : v.KeysOnce) (texts : v.TextKeyed) : (v.members.map Prod.fst).Nodup := by
  cases v with
  | scalar s => exact List.nodup_nil
  | tuple xs => exact nodup_steps_numbered xs
  | list identity xs => exact nodup_steps_numbered xs
  | mapping identity es =>
    have hplain := nodup_plain (once (.here _)) (texts (.here _))
    have hsteps : (Leaf.keyed es).map Prod.fst =
        ((es.map Prod.fst).map Scalar.plain).map Step.key := by
      simp only [Leaf.keyed, List.map_map, Function.comp_def]
      refine List.map_congr_left fun e he => ?_
      obtain ⟨name, hname⟩ := texts (.here _) e.1 (List.mem_map_of_mem he)
      rw [hname]
      rfl
    rw [members, hsteps]
    exact hplain.map fun a b h => Step.key.inj h

end ShapeLint.Value
