import ShapeLint.Proofs.Walk.Actions

/-! Walks that end. How deep visits may be nested makes no difference to a walk that ends, so a
visit either ends in one way only, from some depth on, or at no depth at all. -/
namespace ShapeLint

namespace Walk

variable {s : Surroundings} {t t₁ u : Traversal}

/-- A visit ends, if it may be deep enough. -/
def Ends (s : Surroundings) (node : Value) (type : String) (path : Path) (t u : Traversal) : Prop :=
  ∃ depth, (visit s depth node type path).run t = .ok () u

/-- What a walk of a node finds, if it ends. -/
def Finds (s : Surroundings) (node : Value) (type : String) (path : Path)
    (found : List Violation) : Prop :=
  ∃ u, Ends s node type path {} u ∧ u.violations = found

/-- A walk of a node fails in this way, however deep visits may be nested. -/
def Fails (s : Surroundings) (node : Value) (type : String) (path : Path) (fault : Fault) : Prop :=
  ∃ least, ∀ depth, least ≤ depth → ∃ u, (visit s depth node type path).run {} = .error fault u

/-- What a walk finds if visits may be nested so deep. -/
def found? (s : Surroundings) (depth : Nat) (node : Value) (type : String) (path : Path) :
    Option (List Violation) :=
  match (visit s depth node type path).run {} with
  | .ok () u => some u.violations
  | .error _ _ => none

theorem finds_iff {node : Value} {type : String} {path : Path} {found : List Violation} :
    Finds s node type path found ↔ ∃ depth, found? s depth node type path = some found := by
  constructor
  · rintro ⟨u, ⟨depth, h⟩, rfl⟩
    exact ⟨depth, by rw [found?, h]⟩
  · rintro ⟨depth, h⟩
    unfold found? at h
    split at h
    · exact ⟨_, ⟨depth, ‹_›⟩, Option.some.inj h⟩
    · contradiction

/-- All actions end, if the visits below may be deep enough. -/
def Performs (s : Surroundings) (actions : List Action) (t u : Traversal) : Prop :=
  ∃ depth, (performAll s (visit s depth) actions).run t = .ok () u

/-- Visits that end wherever others do. -/
def EndsWith (below below' : Visit) : Prop :=
  ∀ ⦃node type path t u⦄, (below node type path).run t = .ok () u →
    (below' node type path).run t = .ok () u

variable {below below' : Visit}

theorem EndsWith.targetActions (h : EndsWith below below') {direct : Bool} {pointer : Value}
    {type : String} {path : Path} {v : Value}
    (hrun : (performAll s below (targetActions direct pointer type path v)).run t = .ok () u) :
    (performAll s below' (targetActions direct pointer type path v)).run t = .ok () u := by
  by_cases hnull : v = .null
  · subst hnull
    rw [Walk.targetActions, performAll_naming] at hrun ⊢
    exact hrun
  · rw [targetActions_of_ne_null hnull] at hrun ⊢
    split at hrun
    · rw [if_pos ‹_›]
      rw [performAll_naming] at hrun ⊢
      exact hrun
    · rw [if_neg ‹_›]
      obtain ⟨t₁, hlog, hvisit⟩ := (run_performAll_cons_eq_ok _ _).mp hrun
      obtain ⟨t₂, hvisit, hrest⟩ := (run_performAll_cons_eq_ok _ _).mp hvisit
      have hvisit' : ((Action.visit v type path).perform s below').run t₁ = .ok () t₂ := h hvisit
      have hlast : (performAll s below' [.visit v type path]).run t₁ = .ok () u :=
        (run_performAll_cons_eq_ok s below').mpr ⟨t₂, hvisit', hrest⟩
      exact (run_performAll_cons_eq_ok s below').mpr ⟨t₁, hlog, hlast⟩

theorem EndsWith.perform (h : EndsWith below below') {a : Action}
    (hrun : (a.perform s below).run t = .ok () u) : (a.perform s below').run t = .ok () u := by
  cases a with
  | visit node type path => exact h hrun
  | follow direct pointer type path =>
    simp only [Action.perform, run_follow] at hrun ⊢
    cases hs : s.answers with
    | none => simpa [hs] using hrun
    | some answers =>
      cases hanswer : answers t.asked pointer with
      | error fault => simp [hs, hanswer] at hrun
      | ok v =>
        simp only [hs, hanswer] at hrun ⊢
        exact h.targetActions hrun
  | log records => exact hrun
  | report found => exact hrun
  | fail fault => contradiction

theorem EndsWith.actions (h : EndsWith below below') {actions : List Action}
    (hrun : (performAll s below actions).run t = .ok () u) :
    (performAll s below' actions).run t = .ok () u := by
  induction actions generalizing t with
  | nil => exact hrun
  | cons a actions ih =>
    obtain ⟨t₁, ha, hrest⟩ := (run_performAll_cons_eq_ok _ _).mp hrun
    exact (run_performAll_cons_eq_ok _ _).mpr ⟨t₁, h.perform ha, ih hrest⟩

theorem endsWith_succ (s : Surroundings) (depth : Nat) :
    EndsWith (visit s depth) (visit s (depth + 1)) := by
  induction depth with
  | zero =>
    intro node type path t u h
    simp [run_visit_zero] at h
  | succ depth ih =>
    intro node type path t u h
    by_cases hseen : Seen t node type
    · rwa [run_visit_of_seen s hseen] at h ⊢
    · rw [run_visit s hseen] at h ⊢
      exact ih.actions h

/-- A visit that ends does so at every greater depth. -/
theorem endsWith_of_le (s : Surroundings) {depth depth' : Nat} (h : depth ≤ depth') :
    EndsWith (visit s depth) (visit s depth') := by
  induction h with
  | refl => exact fun _ _ _ _ _ h => h
  | step _ ih => exact fun _ _ _ _ _ h => endsWith_succ s _ (ih h)

/-- A visit ends in one way only. -/
theorem Ends.unique {node : Value} {type : String} {path : Path} {u' : Traversal}
    (h : Ends s node type path t u) (h' : Ends s node type path t u') : u = u' := by
  obtain ⟨depth, h⟩ := h
  obtain ⟨depth', h'⟩ := h'
  have hmax := endsWith_of_le s (Nat.le_max_left depth depth') h
  have hmax' := endsWith_of_le s (Nat.le_max_right depth depth') h'
  rw [hmax] at hmax'
  exact (EStateM.Result.ok.inj hmax').2

theorem Finds.unique {node : Value} {type : String} {path : Path} {found found' : List Violation}
    (h : Finds s node type path found) (h' : Finds s node type path found') : found = found' := by
  obtain ⟨u, hu, rfl⟩ := h
  obtain ⟨u', hu', rfl⟩ := h'
  rw [hu.unique hu']

/-- What holds of the findings of one depth holds of the findings of the walk. -/
theorem Finds.apply_eq {node : Value} {type : String} {path : Path} {found : List Violation}
    {α : Type} {f : List Violation → α} {expected : α} (h : Finds s node type path found)
    (depth : Nat)
    (hrun : (found? s depth node type path).map f = some expected) : f found = expected := by
  obtain ⟨found', hfound, rfl⟩ := Option.map_eq_some_iff.mp hrun
  rw [h.unique (finds_iff.mpr ⟨depth, hfound⟩)]

theorem Performs.nil : Performs s [] t t := ⟨0, rfl⟩

theorem Performs.cons {a : Action} {actions : List Action} (ha : Performs s [a] t t₁)
    (h : Performs s actions t₁ u) : Performs s (a :: actions) t u := by
  obtain ⟨depth, ha⟩ := ha
  obtain ⟨depth', h⟩ := h
  have hfirst := (endsWith_of_le s (Nat.le_max_left depth depth')).actions ha
  have hrest := (endsWith_of_le s (Nat.le_max_right depth depth')).actions h
  obtain ⟨t₂, hown, hnil⟩ := (run_performAll_cons_eq_ok _ _).mp hfirst
  obtain rfl : t₂ = t₁ := by simpa using hnil
  exact ⟨max depth depth', (run_performAll_cons_eq_ok _ _).mpr ⟨t₂, hown, hrest⟩⟩

theorem performs_visit {node : Value} {type : String} {path : Path} :
    Performs s [.visit node type path] t u ↔ Ends s node type path t u := by
  simp [Performs, Ends, Action.perform]

end Walk

end ShapeLint
