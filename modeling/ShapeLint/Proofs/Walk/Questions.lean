import ShapeLint.Proofs.Walk.Exploration

/-! Who asks for a pointer. The questions of a walk are told along with the node whose visit asks
them. They are the pointers that the walk asks for, whether it ends or fails, and no mapping asks
for its `$ref` twice while it is visited as one type. Main statement: `visit_traces`. -/
namespace ShapeLint

namespace Walk

/-- A pointer that is asked for, with the node whose visit asks and the type of that visit. -/
structure Question where
  node : Value
  type : String
  pointer : Value

/-- The mark of a mapping that asks for its own `$ref`. Pointers in leaves have none. -/
def Question.mark? (q : Question) : Option (Nat × String) :=
  if (pointerOf? q.node).isSome then markOf? q.node q.type else none

/-- The state that a part of a walk leaves behind, whether it ends or fails. -/
def left (x : Walk Unit) (t : Traversal) : Traversal :=
  match x.run t with
  | .ok () u | .error _ u => u

section Telling

variable (s : Surroundings) (below : Visit)

/-- What actions tell one after the other, up to the first that fails. -/
def collect (told : Action → Traversal → List Question) :
    List Action → Traversal → List Question
  | [], _ => []
  | a :: actions, t => told a t ++
      match (a.perform s below).run t with
      | .ok () u => collect told actions u
      | .error _ _ => []

/-- What the visits below tell. -/
def toldBelow (tell : Value → String → Path → Traversal → List Question) :
    Action → Traversal → List Question
  | .visit node type path, t => tell node type path t
  | _, _ => []

/-- What an action tells in the visit of a node as a type. -/
def toldAt (tell : Value → String → Path → Traversal → List Question) (node : Value)
    (type : String) : Action → Traversal → List Question
  | .follow direct pointer target path, t =>
    match s.answers with
    | none => []
    | some answers => ⟨node, type, pointer⟩ ::
        match answers t.asked pointer with
        | .ok v => collect s below (toldBelow tell) (targetActions direct pointer target path v)
            (asking t pointer)
        | .error _ => []
  | a, t => toldBelow tell a t

/-- The questions of a visit. -/
def questions (s : Surroundings) : Nat → Value → String → Path → Traversal → List Question
  | 0, _, _, _, _ => []
  | depth + 1, node, type, path, t =>
    match (mark node type).run t with
    | .ok true u => collect s (visit s depth)
        (toldAt s (visit s depth) (questions s depth) node type)
        (nodeActions s.registry node type path) u
    | _ => []

end Telling

/-- What a part of a walk asked for, and of whom: a mapping that asks for its `$ref` is marked
then, and was not before. -/
structure Traces (t u : Traversal) (qs : List Question) : Prop where
  asked : u.asked = t.asked ++ qs.map Question.pointer
  own : ∀ q ∈ qs, ∀ pointer, pointerOf? q.node = some pointer → q.pointer = .text pointer
  visited : t.visited ⊆ u.visited
  fresh : ∀ m ∈ qs.filterMap Question.mark?, m ∉ t.visited ∧ m ∈ u.visited
  nodup : (qs.filterMap Question.mark?).Nodup

section Traces

variable {t t₁ u : Traversal} {qs qs₁ : List Question}

theorem Traces.of_same (hasked : u.asked = t.asked) (hvisited : t.visited ⊆ u.visited) :
    Traces t u [] where
  asked := by simp [hasked]
  own := by simp
  visited := hvisited
  fresh := by simp
  nodup := List.nodup_nil

theorem Traces.refl (t : Traversal) : Traces t t [] := .of_same rfl (List.Subset.refl _)

theorem Traces.trans (h₁ : Traces t t₁ qs₁) (h : Traces t₁ u qs) : Traces t u (qs₁ ++ qs) where
  asked := by rw [h.asked, h₁.asked, List.map_append, List.append_assoc]
  own := by
    intro q hq
    exact (List.mem_append.mp hq).elim (h₁.own q) (h.own q)
  visited := fun _ hm => h.visited (h₁.visited hm)
  fresh := by
    intro m hm
    rw [List.filterMap_append, List.mem_append] at hm
    rcases hm with hm | hm
    · exact ⟨(h₁.fresh m hm).1, h.visited (h₁.fresh m hm).2⟩
    · exact ⟨fun hold => (h.fresh m hm).1 (h₁.visited hold), (h.fresh m hm).2⟩
  nodup := by
    rw [List.filterMap_append]
    refine List.nodup_append.mpr ⟨h₁.nodup, h.nodup, ?_⟩
    rintro m hm₁ _ hm rfl
    exact (h.fresh m hm).1 (h₁.fresh m hm₁).2

/-- A pointer in a leaf stands for no mapping. -/
theorem Traces.of_leaf {node : Value} (own : pointerOf? node = none) (t : Traversal)
    (type : String) (pointer : Value) : Traces t (asking t pointer) [⟨node, type, pointer⟩] where
  asked := rfl
  own := by simp [own]
  visited := List.Subset.refl _
  fresh := by simp [Question.mark?, own]
  nodup := by simp [Question.mark?, own]

/-- A mapping is marked before it asks for its `$ref`. -/
theorem Traces.of_stand_in {node : Value} {type pointer : String} (fresh : ¬ Seen t node type)
    (stands : pointerOf? node = some pointer) :
    Traces t (asking (marked t node type) (.text pointer)) [⟨node, type, .text pointer⟩] where
  asked := rfl
  own := by simp [stands]
  visited := List.subset_append_left _ _
  fresh := by
    intro m hm
    simp only [Question.mark?, stands, Option.isSome_some, if_true, List.filterMap_cons] at hm
    cases hi : node.identity? with
    | none => simp [markOf?, hi] at hm
    | some identity =>
      obtain rfl : m = (identity, type) := by simpa [markOf?, hi] using hm
      exact ⟨fun hold => fresh ⟨identity, hi, hold⟩, by simp [asking, marked, hi]⟩
  nodup := by
    simp only [List.filterMap_cons]
    split <;> simp

end Traces

section Run

variable {s : Surroundings} {below : Visit}
  {tell : Value → String → Path → Traversal → List Question}

theorem collect_singleton (told : Action → Traversal → List Question) (a : Action)
    (t : Traversal) : collect s below told [a] t = told a t := by
  unfold collect
  cases (a.perform s below).run t <;> simp [collect]

theorem traces_collect {told : Action → Traversal → List Question} {actions : List Action}
    (h : ∀ a ∈ actions, ∀ t, Traces t (left (a.perform s below) t) (told a t)) (t : Traversal) :
    Traces t (left (performAll s below actions) t) (collect s below told actions t) := by
  induction actions generalizing t with
  | nil => exact .refl t
  | cons a actions ih =>
    have ha := h a List.mem_cons_self t
    unfold left at ha ⊢
    rw [performAll_cons, EStateM.run_bind, collect]
    cases hrun : (a.perform s below).run t with
    | error fault u => simpa [hrun] using ha
    | ok _ u =>
      rw [hrun] at ha
      exact ha.trans (ih (fun b hb => h b (List.mem_cons_of_mem a hb)) u)

/-- What the visits below a node are to tell. -/
def Tells (below : Visit) (tell : Value → String → Path → Traversal → List Question) : Prop :=
  ∀ node type path t, Traces t (left (below node type path) t) (tell node type path t)

theorem traces_below (hbelow : Tells below tell) {a : Action}
    (h : ∀ direct pointer type path, a ≠ .follow direct pointer type path) (t : Traversal) :
    Traces t (left (a.perform s below) t) (toldBelow tell a t) := by
  cases a with
  | log records => exact .of_same rfl (List.Subset.refl _)
  | report found => exact .of_same rfl (List.Subset.refl _)
  | fail fault => exact .refl t
  | visit node type path => exact hbelow node type path t
  | follow direct pointer type path => exact absurd rfl (h direct pointer type path)

theorem ne_follow_of_mem_targetActions {direct : Bool} {pointer v : Value} {type : String}
    {path : Path} {a : Action} (h : a ∈ targetActions direct pointer type path v)
    (direct' : Bool) (pointer' : Value) (type' : String) (path' : Path) :
    a ≠ .follow direct' pointer' type' path' := by
  have hnaming (found : Violation) :
      naming pointer found ≠ .follow direct' pointer' type' path' := by
    unfold naming
    split <;> nofun
  rintro rfl
  unfold targetActions at h
  split at h
  · exact hnaming _ (List.mem_singleton.mp h).symm
  · split at h
    · exact hnaming _ (List.mem_singleton.mp h).symm
    · simp at h

/-- After its question a pointer tells what the visit of its target tells. -/
theorem traces_follow (hbelow : Tells below tell) {direct : Bool} {pointer node : Value}
    {target type : String} {path : Path} {t t₀ : Traversal}
    (h : s.answers.isSome → Traces t₀ (asking t pointer) [⟨node, type, pointer⟩])
    (hsame : s.answers = none → Traces t₀ t []) :
    Traces t₀ (left (follow s below direct pointer target path) t)
      (toldAt s below tell node type (.follow direct pointer target path) t) := by
  unfold left toldAt
  rw [run_follow]
  cases hs : s.answers with
  | none => exact hsame hs
  | some answers =>
    have hquestion := h (by simp [hs])
    dsimp only
    cases hanswer : answers t.asked pointer with
    | error fault => exact hquestion
    | ok v =>
      apply hquestion.trans
      apply traces_collect
      exact fun a ha t => traces_below hbelow (ne_follow_of_mem_targetActions ha) t

theorem traces_leaves (hbelow : Tells below tell) {node : Value} (own : pointerOf? node = none)
    (type : String) (a : Action) (t : Traversal) :
    Traces t (left (a.perform s below) t) (toldAt s below tell node type a t) := by
  cases a with
  | follow direct pointer target path =>
    exact traces_follow hbelow (fun _ => .of_leaf own t type pointer) fun _ => .refl t
  | _ => exact traces_below hbelow (by simp) t

end Run

/-- The questions of a visit, however deep, are those it asks, and no mapping asks for its `$ref`
twice as one type. -/
theorem visit_traces (s : Surroundings) (depth : Nat) :
    Tells (visit s depth) (questions s depth) := by
  induction depth with
  | zero => exact fun _ _ _ t => .refl t
  | succ depth ih =>
    intro node type path t
    by_cases hseen : Seen t node type
    · unfold left questions
      rw [run_visit_of_seen s hseen, run_mark_of_seen hseen]
      exact .refl t
    · unfold left questions
      rw [run_visit s hseen, run_mark hseen]
      dsimp only
      cases stands : pointerOf? node with
      | some pointer =>
        have hactions : nodeActions s.registry node type path =
            [.follow false (.text pointer) type path] := by simp only [nodeActions, stands]
        rw [hactions, collect_singleton, performAll_cons, performAll_nil, bind_pure_unit]
        apply traces_follow ih
        · exact fun _ => .of_stand_in hseen stands
        · exact fun _ => .of_same rfl (List.subset_append_left _ _)
      | none =>
        have hmarked : Traces t (marked t node type) [] :=
          .of_same rfl (List.subset_append_left _ _)
        exact hmarked.trans (traces_collect (fun a _ => traces_leaves ih stands type a) _)

section Growth

variable (s : Surroundings) (depth : Nat) (t : Traversal)

/-- Whatever is done leaves a trace, as if a scalar did it, which stands for no other node. -/
theorem exists_traces (a : Action) :
    ∃ qs, Traces t (left (a.perform s (visit s depth)) t) qs :=
  have own : pointerOf? .null = none := rfl
  ⟨_, traces_leaves (visit_traces s depth) own "" a t⟩

/-- Marks are never taken back. -/
theorem visited_perform (a : Action) :
    t.visited ⊆ (left (a.perform s (visit s depth)) t).visited := by
  obtain ⟨qs, h⟩ := exists_traces s depth t a
  exact h.visited

/-- The pointers asked for before stay first. -/
theorem asked_perform (a : Action) :
    t.asked <+: (left (a.perform s (visit s depth)) t).asked := by
  obtain ⟨qs, h⟩ := exists_traces s depth t a
  exact h.asked ▸ List.prefix_append _ _

theorem asked_performAll {actions : List Action} {u : Traversal}
    (h : (performAll s (visit s depth) actions).run t = .ok () u) : t.asked <+: u.asked := by
  induction actions generalizing t with
  | nil =>
    obtain rfl : t = u := by simpa using h
    exact List.prefix_rfl
  | cons a actions ih =>
    obtain ⟨t₁, ha, hrest⟩ := (run_performAll_cons_eq_ok _ _).mp h
    have hfirst := asked_perform s depth t a
    rw [left, ha] at hfirst
    exact hfirst.trans (ih t₁ hrest)

end Growth

end Walk

end ShapeLint
