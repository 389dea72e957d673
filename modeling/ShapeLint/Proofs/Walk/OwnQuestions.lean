import ShapeLint.Proofs.Walk.Visits

/-!
What the visit of a container asks for itself. The container is marked by then, so no visit below
asks in its name, and its own questions are the pointers among its actions, in order. Main
statement: `ownPointers_eq`.
-/
namespace ShapeLint.Walk

/-- The pointer that an action asks for. -/
def Action.pointer? : Action → Option Value
  | .follow _ pointer _ _ => some pointer
  | _ => none

/-- The pointers that actions ask for in front of the first that is bound to fail. -/
def Action.pointers : List Action → List Value
  | [] => []
  | .fail _ :: _ => []
  | a :: actions => a.pointer?.toList ++ Action.pointers actions

theorem Action.pointers_cons {a : Action} (h : ∀ fault, a ≠ .fail fault) (actions : List Action) :
    Action.pointers (a :: actions) = a.pointer?.toList ++ Action.pointers actions := by
  cases a with
  | fail fault => exact absurd rfl (h fault)
  | _ => rfl

theorem Action.pointers_append {first : List Action} (h : ∀ a ∈ first, ∀ fault, a ≠ .fail fault)
    (rest : List Action) : Action.pointers (first ++ rest) =
      first.filterMap Action.pointer? ++ Action.pointers rest := by
  induction first with
  | nil => rfl
  | cons a first ih =>
    obtain ⟨ha, hfirst⟩ := List.forall_mem_cons.mp h
    rw [List.cons_append, Action.pointers_cons ha, ih hfirst, ← List.append_assoc]
    cases hpointer : a.pointer? <;> simp [hpointer]

/-- A question that the visit of a container as a type asks. -/
def Question.askedBy (q : Question) (node : Value) (type : String) : Bool :=
  markOf? q.node q.type == markOf? node type

/-- What the visit of a node asks for, without the visits below it. -/
def ownPointers (s : Surroundings) (depth : Nat) (node : Value) (type : String) (path : Path)
    (t : Traversal) : List Value :=
  ((questions s depth node type path t).filter fun q => q.askedBy node type).map Question.pointer

section Asking

variable {s : Surroundings} {depth : Nat} {node : Value} {type : String} {path : Path}
  {t u : Traversal} {q : Question}

theorem seen_marked (container : node.isContainer) (t : Traversal) (type : String) :
    Seen (marked t node type) node type := by
  obtain ⟨identity, hi⟩ := Value.isContainer_iff.mp container
  exact ⟨identity, hi, by simp [marked, hi]⟩

theorem seen_perform (s : Surroundings) (depth : Nat) (h : Seen t node type) (a : Action) :
    Seen (left (a.perform s (visit s depth)) t) node type :=
  h.mono fun hm => visited_perform s depth t a hm

/-- What actions tell, one of them tells while no mark is taken back. -/
theorem mem_collect {told : Action → Traversal → List Question} {actions : List Action}
    (h : q ∈ collect s (visit s depth) told actions t) :
    ∃ a ∈ actions, ∃ u, t.visited ⊆ u.visited ∧ q ∈ told a u := by
  induction actions generalizing t with
  | nil => contradiction
  | cons a actions ih =>
    rw [collect, List.mem_append] at h
    rcases h with h | h
    · exact ⟨a, List.mem_cons_self, t, List.Subset.refl _, h⟩
    · have hvisited := visited_perform s depth t a
      unfold left at hvisited
      cases hrun : (a.perform s (visit s depth)).run t with
      | error fault u =>
        rw [hrun] at h
        contradiction
      | ok _ u =>
        rw [hrun] at h hvisited
        obtain ⟨b, hb, v, hv, hq⟩ := ih h
        exact ⟨b, List.mem_cons_of_mem a hb, v, fun _ hm => hv (hvisited hm), hq⟩

/-- A question that is told by some visit of the walk from a state on. -/
def ToldLater (s : Surroundings) (depth : Nat) (t : Traversal) (q : Question) : Prop :=
  ∃ node type path u, t.visited ⊆ u.visited ∧ q ∈ questions s depth node type path u

theorem toldLater_of_toldBelow {a : Action} (h : q ∈ toldBelow (questions s depth) a t) :
    ToldLater s depth t q := by
  cases a with
  | visit node type path => exact ⟨node, type, path, t, List.Subset.refl _, h⟩
  | _ => contradiction

/-- In the visit of a node an action asks for its pointer, and the visits below it ask further. -/
theorem exists_toldAt (depth : Nat) (answered : s.answers.isSome) (node : Value) (type : String)
    (a : Action) (t : Traversal) :
    ∃ later, toldAt s (visit s depth) (questions s depth) node type a t =
        (a.pointer?.toList.map fun pointer => ⟨node, type, pointer⟩) ++ later ∧
      ∀ q ∈ later, ToldLater s depth t q := by
  obtain ⟨answers, hs⟩ := Option.isSome_iff_exists.mp answered
  cases a with
  | follow direct pointer target path =>
    unfold toldAt
    rw [hs]
    refine ⟨_, rfl, fun q hq => ?_⟩
    cases hanswer : answers t.asked pointer with
    | error fault =>
      rw [hanswer] at hq
      contradiction
    | ok v =>
      rw [hanswer] at hq
      obtain ⟨a, -, u, hu, hq⟩ := mem_collect hq
      obtain ⟨node', type', path', w, hw, hq⟩ := toldLater_of_toldBelow hq
      exact ⟨node', type', path', w, fun _ hm => hw (hu hm), hq⟩
  | visit node' type' path' =>
    exact ⟨_, rfl, fun q hq => ⟨node', type', path', t, List.Subset.refl _, hq⟩⟩
  | _ => exact ⟨[], rfl, by simp⟩

/-- A visit asks in the name of nodes only that were not marked before. -/
theorem not_seen_of_mem_questions (answered : s.answers.isSome)
    (h : q ∈ questions s depth node type path t) : ¬ Seen t q.node q.type := by
  induction depth generalizing node type path t with
  | zero => contradiction
  | succ depth ih =>
    by_cases hseen : Seen t node type
    · rw [questions, run_mark_of_seen hseen] at h
      contradiction
    · rw [questions, run_mark hseen] at h
      obtain ⟨a, -, u, hu, hq⟩ := mem_collect h
      have hmarked : t.visited ⊆ u.visited := fun _ hm => hu (List.mem_append_left _ hm)
      obtain ⟨later, htold, hlater⟩ := exists_toldAt depth answered node type a u
      rw [htold, List.mem_append] at hq
      rcases hq with hq | hq
      · obtain ⟨pointer, -, rfl⟩ := List.mem_map.mp hq
        exact hseen
      · obtain ⟨node', type', path', v, hv, hq⟩ := hlater q hq
        exact fun h => ih hq (h.mono fun hm => hv (hmarked hm))

/-- Once a container is marked, no visit asks in its name. -/
theorem not_askedBy_of_toldLater (answered : s.answers.isSome) (h : Seen t node type)
    (hq : ToldLater s depth t q) : q.askedBy node type = false := by
  obtain ⟨identity, hi, hm⟩ := h
  obtain ⟨node', type', path', u, hu, hq⟩ := hq
  refine beq_eq_false_iff_ne.mpr fun hsame => not_seen_of_mem_questions answered hq ?_
  have hmark : markOf? q.node q.type = some (identity, type) := by
    rw [hsame, markOf?, hi]
    rfl
  obtain ⟨hqi, hqt⟩ := markOf?_eq_some.mp hmark
  exact ⟨identity, hqi, hqt ▸ hu hm⟩

/-- Of all that is told of an action, only its pointer is asked for in the name of the node. -/
theorem filter_toldAt (depth : Nat) (answered : s.answers.isSome) (h : Seen t node type)
    (a : Action) :
    ((toldAt s (visit s depth) (questions s depth) node type a t).filter
      fun q => q.askedBy node type).map Question.pointer = a.pointer?.toList := by
  obtain ⟨later, htold, hlater⟩ := exists_toldAt depth answered node type a t
  have hnone : later.filter (fun q => q.askedBy node type) = [] :=
    List.filter_eq_nil_iff.mpr fun q hq => by
      simp [not_askedBy_of_toldLater answered h (hlater q hq)]
  rw [htold, List.filter_append, hnone]
  cases a.pointer? <;> simp [Question.askedBy]

/-- The actions of a marked node ask in its name for their pointers, up to the first action that
fails. -/
theorem filter_collect (answered : s.answers.isSome) (actions : List Action)
    (h : Seen t node type) :
    let told := toldAt s (visit s depth) (questions s depth) node type
    let asked := ((collect s (visit s depth) told actions t).filter
      fun q => q.askedBy node type).map Question.pointer
    asked <+: Action.pointers actions ∧
      ∀ u, (performAll s (visit s depth) actions).run t = .ok () u →
        asked = Action.pointers actions := by
  intro told asked
  induction actions generalizing t with
  | nil => exact ⟨List.prefix_rfl, fun _ _ => rfl⟩
  | cons a actions ih =>
    have hfirst := filter_toldAt depth answered h a
    have hseen := seen_perform s depth h a
    unfold left at hseen
    simp only [asked, told, collect, List.filter_append, List.map_append, hfirst]
    cases hrun : (a.perform s (visit s depth)).run t with
    | error fault u =>
      refine ⟨?_, fun u' hall => ?_⟩
      · rw [List.filter_nil, List.map_nil, List.append_nil]
        cases a <;> simp [Action.pointers, Action.pointer?]
      · rw [performAll_cons, EStateM.run_bind, hrun] at hall
        contradiction
    | ok _ u =>
      rw [hrun] at hseen
      obtain ⟨hinitial, hall⟩ := ih hseen
      have hpointers := Action.pointers_cons (a := a) (by rintro fault rfl; cases hrun) actions
      rw [hpointers]
      refine ⟨(List.prefix_append_right_inj _).mpr hinitial, fun u' hrest => ?_⟩
      rw [performAll_cons, EStateM.run_bind, hrun] at hrest
      rw [hall u' hrest]

/-- A visit of a container that is not marked yet asks for the pointers of its own actions, in
order and once each; one that fails may leave out the last of them. -/
theorem ownPointers_eq (depth : Nat) (path : Path) (answered : s.answers.isSome)
    (container : node.isContainer) (fresh : ¬ Seen t node type) :
    ownPointers s (depth + 1) node type path t <+:
        Action.pointers (nodeActions s.registry node type path) ∧
      ∀ u, (visit s (depth + 1) node type path).run t = .ok () u →
        ownPointers s (depth + 1) node type path t =
          Action.pointers (nodeActions s.registry node type path) := by
  unfold ownPointers
  rw [questions, run_mark fresh, run_visit s fresh]
  exact filter_collect answered _ (seen_marked container t type)

/-- A visit of a container that ends has marked it. -/
theorem seen_of_run_visit (container : node.isContainer)
    (h : (visit s depth node type path).run t = .ok () u) : Seen u node type := by
  cases depth with
  | zero => contradiction
  | succ depth =>
    by_cases hseen : Seen t node type
    · rw [run_visit_of_seen s hseen] at h
      obtain rfl : t = u := by simpa using h
      exact hseen
    · obtain ⟨identity, hi⟩ := Value.isContainer_iff.mp container
      have hmarks := marks_visit (s := s) (depth + 1) node type path t
      unfold Marks left at hmarks
      rw [h, nodesEntered_of_not_seen s hseen] at hmarks
      dsimp only at hmarks
      exact ⟨identity, hi, by simp [hmarks, markOf?, hi]⟩

end Asking

end ShapeLint.Walk
