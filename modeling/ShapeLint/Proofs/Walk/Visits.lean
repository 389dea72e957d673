import ShapeLint.Proofs.Walk.Questions

/-!
Which nodes a walk enters. They are told along the run, each with the type that it is visited as:
they are the nodes that the walk marks, and those that have no identity to be marked by. A registry
counts for a walk only by what it has done at these nodes. Main statement: `run_visit_congr`.
-/
namespace ShapeLint.Walk

section Entering

variable (s : Surroundings) (below : Visit)

/-- What actions enter one after the other, up to the first that fails. -/
def gather (enters : Action → Traversal → List (Value × String)) :
    List Action → Traversal → List (Value × String)
  | [], _ => []
  | a :: actions, t => enters a t ++
      match (a.perform s below).run t with
      | .ok () u => gather enters actions u
      | .error _ _ => []

/-- What the visits below enter. -/
def enteredBelow (enters : Value → String → Path → Traversal → List (Value × String)) :
    Action → Traversal → List (Value × String)
  | .visit node type path, t => enters node type path t
  | _, _ => []

/-- What an action enters, the target of a pointer included. -/
def enteredAt (enters : Value → String → Path → Traversal → List (Value × String)) :
    Action → Traversal → List (Value × String)
  | .follow direct pointer type path, t =>
    match s.answers with
    | none => []
    | some answers =>
      match answers t.asked pointer with
      | .ok v => gather s below (enteredBelow enters) (targetActions direct pointer type path v)
          (asking t pointer)
      | .error _ => []
  | a, t => enteredBelow enters a t

/-- The nodes that a visit enters, with their types: its own, unless that has been visited as the
type before, and those below it. -/
def nodesEntered (s : Surroundings) :
    Nat → Value → String → Path → Traversal → List (Value × String)
  | 0, _, _, _, _ => []
  | depth + 1, node, type, path, t =>
    match (mark node type).run t with
    | .ok true u => (node, type) :: gather s (visit s depth)
        (enteredAt s (visit s depth) (nodesEntered s depth))
        (nodeActions s.registry node type path) u
    | _ => []

theorem nodesEntered_of_seen {depth : Nat} {node : Value} {type : String} {path : Path}
    {t : Traversal} (h : Seen t node type) : nodesEntered s (depth + 1) node type path t = [] := by
  rw [nodesEntered, run_mark_of_seen h]

theorem nodesEntered_of_not_seen {depth : Nat} {node : Value} {type : String} {path : Path}
    {t : Traversal} (h : ¬ Seen t node type) : nodesEntered s (depth + 1) node type path t =
      (node, type) :: gather s (visit s depth) (enteredAt s (visit s depth) (nodesEntered s depth))
        (nodeActions s.registry node type path) (marked t node type) := by
  rw [nodesEntered, run_mark h]

end Entering

section Marks

variable {s : Surroundings} {below : Visit}
  {enters : Value → String → Path → Traversal → List (Value × String)}

/-- The marks of the entered nodes are what a part of a walk adds to the marks. -/
def Marks (x : Walk Unit) (t : Traversal) (nodes : List (Value × String)) : Prop :=
  (left x t).visited = t.visited ++ nodes.filterMap fun e => markOf? e.1 e.2

theorem marks_gather {enters : Action → Traversal → List (Value × String)} {actions : List Action}
    (h : ∀ a ∈ actions, ∀ t, Marks (a.perform s below) t (enters a t)) (t : Traversal) :
    Marks (performAll s below actions) t (gather s below enters actions t) := by
  induction actions generalizing t with
  | nil => simp [Marks, gather, left]
  | cons a actions ih =>
    have ha := h a List.mem_cons_self t
    unfold Marks left at ha ⊢
    rw [performAll_cons, EStateM.run_bind, gather]
    cases hrun : (a.perform s below).run t with
    | error fault u => simpa [hrun] using ha
    | ok _ u =>
      have hrest := ih (fun b hb => h b (List.mem_cons_of_mem a hb)) u
      rw [hrun] at ha
      unfold Marks left at hrest
      dsimp only at ha ⊢
      rw [hrest, ha, List.filterMap_append, List.append_assoc]

theorem marks_below (hbelow : ∀ node type path t, Marks (below node type path) t
      (enters node type path t)) {a : Action}
    (h : ∀ direct pointer type path, a ≠ .follow direct pointer type path) (t : Traversal) :
    Marks (a.perform s below) t (enteredBelow enters a t) := by
  cases a with
  | visit node type path => exact hbelow node type path t
  | follow direct pointer type path => exact absurd rfl (h direct pointer type path)
  | _ => exact (List.append_nil _).symm

theorem marks_at (hbelow : ∀ node type path t, Marks (below node type path) t
      (enters node type path t)) (a : Action) (t : Traversal) :
    Marks (a.perform s below) t (enteredAt s below enters a t) := by
  cases a with
  | follow direct pointer type path =>
    unfold Marks left
    rw [Action.perform, run_follow, enteredAt]
    cases s.answers with
    | none => exact (List.append_nil _).symm
    | some answers =>
      dsimp only
      cases answers t.asked pointer with
      | error fault => exact (List.append_nil _).symm
      | ok v =>
        exact marks_gather (fun a ha t => marks_below hbelow (ne_follow_of_mem_targetActions ha) t)
          (asking t pointer)
  | _ => exact marks_below hbelow (by simp) t

/-- A visit marks the nodes that it enters, in this order, and no others. -/
theorem marks_visit (depth : Nat) (node : Value) (type : String) (path : Path) (t : Traversal) :
    Marks (visit s depth node type path) t (nodesEntered s depth node type path t) := by
  induction depth generalizing node type path t with
  | zero => exact (List.append_nil _).symm
  | succ depth ih =>
    by_cases hseen : Seen t node type
    · unfold Marks left
      rw [run_visit_of_seen s hseen, nodesEntered_of_seen s hseen]
      exact (List.append_nil _).symm
    · have hactions : Marks (performAll s (visit s depth) (nodeActions s.registry node type path))
          (marked t node type) (gather s (visit s depth)
            (enteredAt s (visit s depth) (nodesEntered s depth))
            (nodeActions s.registry node type path) (marked t node type)) :=
        marks_gather (fun a _ t => marks_at ih a t) (marked t node type)
      unfold Marks left at hactions ⊢
      rw [run_visit s hseen, nodesEntered_of_not_seen s hseen, hactions, marked]
      cases hmark : node.identity? <;> simp [markOf?, hmark]

end Marks

section Congruence

variable {r r' : Registry} {answers : Option PointerAnswers}

/-- Both registries have a visit do the same at a node. -/
def ActAlike (r r' : Registry) (e : Value × String) : Prop :=
  ∀ path, nodeActions r' e.1 e.2 path = nodeActions r e.1 e.2 path

section Step

variable {s s' : Surroundings} {below below' : Visit} {P : Value × String → Prop}

theorem run_performAll_eq_of_gather {enters : Action → Traversal → List (Value × String)}
    {actions : List Action} {t : Traversal}
    (h : ∀ a ∈ actions, ∀ t, (∀ e ∈ enters a t, P e) →
      (a.perform s' below').run t = (a.perform s below).run t)
    (hall : ∀ e ∈ gather s below enters actions t, P e) :
    (performAll s' below' actions).run t = (performAll s below actions).run t := by
  induction actions generalizing t with
  | nil => rfl
  | cons a actions ih =>
    rw [gather, List.forall_mem_append] at hall
    rw [performAll_cons, performAll_cons, EStateM.run_bind, EStateM.run_bind,
      h a List.mem_cons_self t hall.1]
    cases hrun : (a.perform s below).run t with
    | error fault u => rfl
    | ok _ u =>
      rw [hrun] at hall
      exact ih (fun b hb => h b (List.mem_cons_of_mem a hb)) hall.2

variable {enters : Value → String → Path → Traversal → List (Value × String)}

theorem run_perform_eq_of_enteredBelow
    (h : ∀ node type path t, (∀ e ∈ enters node type path t, P e) →
      (below' node type path).run t = (below node type path).run t) {a : Action} {t : Traversal}
    (hfollow : ∀ direct pointer type path, a ≠ .follow direct pointer type path)
    (hall : ∀ e ∈ enteredBelow enters a t, P e) :
    (a.perform s' below').run t = (a.perform s below).run t := by
  cases a with
  | visit node type path => exact h node type path t hall
  | follow direct pointer type path => exact absurd rfl (hfollow direct pointer type path)
  | _ => rfl

theorem run_perform_eq_of_enteredAt (hanswers : s'.answers = s.answers)
    (h : ∀ node type path t, (∀ e ∈ enters node type path t, P e) →
      (below' node type path).run t = (below node type path).run t) {a : Action} {t : Traversal}
    (hall : ∀ e ∈ enteredAt s below enters a t, P e) :
    (a.perform s' below').run t = (a.perform s below).run t := by
  cases a with
  | follow direct pointer type path =>
    rw [Action.perform, Action.perform, run_follow, run_follow, hanswers]
    rw [enteredAt] at hall
    cases hs : s.answers with
    | none => rfl
    | some answers =>
      rw [hs] at hall
      dsimp only at hall ⊢
      cases hanswer : answers t.asked pointer with
      | error fault => rfl
      | ok v =>
        rw [hanswer] at hall
        exact run_performAll_eq_of_gather (fun a ha t =>
          run_perform_eq_of_enteredBelow h (ne_follow_of_mem_targetActions ha)) hall
  | _ => exact run_perform_eq_of_enteredBelow h (by simp) hall

end Step

/-- A walk is the same over two registries that act alike at the nodes that it enters. -/
theorem run_visit_congr {depth : Nat} {node : Value} {type : String} {path : Path} {t : Traversal}
    (h : ∀ e ∈ nodesEntered { registry := r, answers } depth node type path t, ActAlike r r' e) :
    (visit { registry := r', answers } depth node type path).run t =
      (visit { registry := r, answers } depth node type path).run t := by
  induction depth generalizing node type path t with
  | zero => rfl
  | succ depth ih =>
    by_cases hseen : Seen t node type
    · rw [run_visit_of_seen _ hseen, run_visit_of_seen _ hseen]
    · rw [nodesEntered_of_not_seen _ hseen, List.forall_mem_cons] at h
      rw [run_visit _ hseen, run_visit _ hseen, h.1 path]
      have hbelow : ∀ node type path t,
          (∀ e ∈ nodesEntered { registry := r, answers } depth node type path t, ActAlike r r' e) →
          (visit { registry := r', answers } depth node type path).run t =
            (visit { registry := r, answers } depth node type path).run t := fun _ _ _ _ => ih
      exact run_performAll_eq_of_gather
        (fun _ _ _ => run_perform_eq_of_enteredAt (s := { registry := r, answers }) rfl hbelow) h.2

end Congruence

section Reports

variable {s : Surroundings} {below : Visit} {P : Violation → Prop} {Q : Value × String → Prop}

/-- A part of a walk reports only such violations. -/
def ReportsOnly (P : Violation → Prop) (x : Walk Unit) (t : Traversal) : Prop :=
  ∀ violation ∈ (left x t).violations, violation ∈ t.violations ∨ P violation

theorem reportsOnly_performAll {enters : Action → Traversal → List (Value × String)}
    {actions : List Action} {t : Traversal}
    (h : ∀ a ∈ actions, ∀ t, (∀ e ∈ enters a t, Q e) → ReportsOnly P (a.perform s below) t)
    (hall : ∀ e ∈ gather s below enters actions t, Q e) :
    ReportsOnly P (performAll s below actions) t := by
  induction actions generalizing t with
  | nil => exact fun _ => .inl
  | cons a actions ih =>
    rw [gather, List.forall_mem_append] at hall
    have ha := h a List.mem_cons_self t hall.1
    unfold ReportsOnly left at ha ⊢
    rw [performAll_cons, EStateM.run_bind]
    cases hrun : (a.perform s below).run t with
    | error fault u => simpa [hrun] using ha
    | ok _ u =>
      rw [hrun] at hall ha
      intro x hx
      rcases ih (fun b hb => h b (List.mem_cons_of_mem a hb)) hall.2 x hx with hx | hx
      · exact ha x hx
      · exact .inr hx

variable {enters : Value → String → Path → Traversal → List (Value × String)}

theorem reportsOnly_below
    (hbelow : ∀ node type path t, (∀ e ∈ enters node type path t, Q e) →
      ReportsOnly P (below node type path) t) {a : Action} {t : Traversal}
    (hfollow : ∀ direct pointer type path, a ≠ .follow direct pointer type path)
    (hreport : ∀ found, a = .report found → ∀ x ∈ found, P x)
    (hall : ∀ e ∈ enteredBelow enters a t, Q e) : ReportsOnly P (a.perform s below) t := by
  cases a with
  | visit node type path => exact hbelow node type path t hall
  | follow direct pointer type path => exact absurd rfl (hfollow direct pointer type path)
  | report found =>
    intro x hx
    exact (List.mem_append.mp hx).imp_right (hreport found rfl x)
  | _ => exact fun _ => .inl

/-- What is reported about a pointer has one of two codes. -/
theorem code_of_mem_targetActions {direct : Bool} {pointer v : Value} {type : String} {path : Path}
    {found : List Violation} (h : .report found ∈ targetActions direct pointer type path v) :
    ∀ x ∈ found, x.code = .unresolvedRef ∨ x.code = .mappingTargetNotSchema := by
  unfold targetActions at h
  split at h
  · obtain rfl := eq_of_report_eq_naming (List.mem_singleton.mp h)
    simp [unresolved]
  · split at h
    · obtain rfl := eq_of_report_eq_naming (List.mem_singleton.mp h)
      simp [unfitTarget]
    · simp at h

theorem reportsOnly_at (pointers : ∀ x : Violation,
      x.code = .unresolvedRef ∨ x.code = .mappingTargetNotSchema → P x)
    (hbelow : ∀ node type path t, (∀ e ∈ enters node type path t, Q e) →
      ReportsOnly P (below node type path) t) {a : Action} {t : Traversal}
    (hreport : ∀ found, a = .report found → ∀ x ∈ found, P x)
    (hall : ∀ e ∈ enteredAt s below enters a t, Q e) : ReportsOnly P (a.perform s below) t := by
  cases a with
  | follow direct pointer type path =>
    unfold ReportsOnly left
    rw [Action.perform, run_follow]
    rw [enteredAt] at hall
    cases hs : s.answers with
    | none => exact fun _ => .inl
    | some answers =>
      rw [hs] at hall
      dsimp only at hall ⊢
      cases hanswer : answers t.asked pointer with
      | error fault => exact fun _ => .inl
      | ok v =>
        rw [hanswer] at hall
        refine reportsOnly_performAll (t := asking t pointer) (fun a ha t =>
          reportsOnly_below hbelow (ne_follow_of_mem_targetActions ha) ?_) hall
        rintro found rfl x hx
        exact pointers x (code_of_mem_targetActions ha x hx)
  | _ => exact reportsOnly_below hbelow (by simp) hreport hall

/-- A visit reports what the visits of the nodes that it enters report, and violations about
pointers. -/
theorem reportsOnly_visit (pointers : ∀ x : Violation,
      x.code = .unresolvedRef ∨ x.code = .mappingTargetNotSchema → P x)
    {depth : Nat} {node : Value} {type : String} {path : Path} {t : Traversal}
    (h : ∀ e ∈ nodesEntered s depth node type path t, ∀ place found,
      .report found ∈ nodeActions s.registry e.1 e.2 place → ∀ x ∈ found, P x) :
    ReportsOnly P (visit s depth node type path) t := by
  induction depth generalizing node type path t with
  | zero => exact fun _ => .inl
  | succ depth ih =>
    by_cases hseen : Seen t node type
    · unfold ReportsOnly left
      rw [run_visit_of_seen s hseen]
      exact fun _ => .inl
    · rw [nodesEntered_of_not_seen s hseen, List.forall_mem_cons] at h
      have hactions : ReportsOnly P
          (performAll s (visit s depth) (nodeActions s.registry node type path))
          (marked t node type) := by
        have hbelow : ∀ node type path t,
            (∀ e ∈ nodesEntered s depth node type path t, ∀ place found,
              .report found ∈ nodeActions s.registry e.1 e.2 place → ∀ x ∈ found, P x) →
            ReportsOnly P (visit s depth node type path) t := fun _ _ _ _ => ih
        refine reportsOnly_performAll (fun a ha t => reportsOnly_at pointers hbelow ?_) h.2
        rintro found rfl
        exact h.1 path found ha
      unfold ReportsOnly left at hactions ⊢
      rw [run_visit s hseen]
      exact hactions

/-- What a visit reports, but for violations about pointers, is reported at a node that it
enters. -/
theorem exists_report_of_mem {depth : Nat} {node : Value} {type : String} {path : Path}
    {t : Traversal} {x : Violation} (hx : x ∈ (left (visit s depth node type path) t).violations)
    (code : ¬ (x.code = .unresolvedRef ∨ x.code = .mappingTargetNotSchema)) :
    x ∈ t.violations ∨ ∃ e ∈ nodesEntered s depth node type path t, ∃ place found,
      .report found ∈ nodeActions s.registry e.1 e.2 place ∧ x ∈ found := by
  have hreports : ReportsOnly
      (fun y => (y.code = .unresolvedRef ∨ y.code = .mappingTargetNotSchema) ∨
        ∃ e ∈ nodesEntered s depth node type path t, ∃ place found,
          .report found ∈ nodeActions s.registry e.1 e.2 place ∧ y ∈ found)
      (visit s depth node type path) t :=
    reportsOnly_visit (fun _ => .inl) fun e he place found hfound y hy =>
      .inr ⟨e, he, place, found, hfound, hy⟩
  exact (hreports x hx).imp_right fun h => h.resolve_left code

end Reports

end ShapeLint.Walk
