import Mathlib.Data.List.Forall2
import Mathlib.Order.Basic
import ShapeLint.Proofs.Document.Rebuilding
import ShapeLint.Proofs.Walk.Ending

/-! Two walks that go along together. A visit comes down to what it does after the mappings that
stand for other nodes have been followed, so one walk may follow more of them than the other; what
is known of the two walks may grow as they go on. Main statement: `Simulation.ends`. -/
namespace ShapeLint

namespace Walk

/-- The traversal after a mapping that stands for another node has been left for that node. -/
def forwarded (t : Traversal) (node : Value) (type pointer : String) : Traversal :=
  let t := asking (marked t node type) (.text pointer)
  { t with records :=
      t.records ++ [⟨.debug, .walk, "Following " ++ (Value.text pointer).plain ++ " as " ++ type⟩] }

section Unfolding

variable (s : Surroundings) (type : String) (path : Path)

/-- The visit of a node in a traversal comes down to actions in another traversal. -/
inductive Unfolds : Traversal → Value → List Action → Traversal → Prop where
  | seen {t : Traversal} {node : Value} (h : Seen t node type) : Unfolds t node [] t
  | enters {t : Traversal} {node : Value} (h : ¬ Seen t node type) :
      Unfolds t node (nodeActions s.registry node type path) (marked t node type)
  | forwards {t u : Traversal} {node target : Value} {pointer : String} {answers : PointerAnswers}
      {actions : List Action} (h : ¬ Seen t node type) (stands : pointerOf? node = some pointer)
      (asked : s.answers = some answers)
      (answered : answers t.asked (.text pointer) = .ok target) (present : target ≠ .null)
      (goes : Unfolds (forwarded t node type pointer) target actions u) :
      Unfolds t node actions u

variable {s type path} {t u t' : Traversal} {node : Value} {actions : List Action}

/-- A mapping is left for the node that it stands for, one visit deeper. -/
theorem run_visit_forwarded {target : Value} {pointer : String} {answers : PointerAnswers}
    (h : ¬ Seen t node type) (stands : pointerOf? node = some pointer)
    (asked : s.answers = some answers) (answered : answers t.asked (.text pointer) = .ok target)
    (present : target ≠ .null) (depth : Nat) :
    (visit s (depth + 1) node type path).run t =
      (visit s depth target type path).run (forwarded t node type pointer) := by
  have hactions : nodeActions s.registry node type path =
      [.follow false (.text pointer) type path] := by
    simp [nodeActions, stands]
  have hasked : answers (marked t node type).asked (.text pointer) = .ok target := answered
  rw [run_visit s h, hactions]
  simp only [performAll_cons, performAll_nil, bind_pure_unit, Action.perform, run_follow, asked,
    hasked, targetActions_of_ne_null present, Bool.false_and, Bool.false_eq_true, if_false,
    EStateM.run_bind, run_log]
  rfl

theorem Unfolds.of_run (h : Unfolds s type path t node actions u) {depth : Nat}
    (hrun : (visit s depth node type path).run t = .ok () t') :
    ∃ below < depth, (performAll s (visit s below) actions).run u = .ok () t' := by
  induction h generalizing depth with
  | seen hseen =>
    cases depth with
    | zero => simp [run_visit_zero] at hrun
    | succ depth => exact ⟨depth, depth.lt_succ_self, by rwa [run_visit_of_seen s hseen] at hrun⟩
  | enters hseen =>
    cases depth with
    | zero => simp [run_visit_zero] at hrun
    | succ depth => exact ⟨depth, depth.lt_succ_self, by rwa [run_visit s hseen] at hrun⟩
  | forwards hseen stands asked answered present _ ih =>
    cases depth with
    | zero => simp [run_visit_zero] at hrun
    | succ depth =>
      rw [run_visit_forwarded hseen stands asked answered present] at hrun
      obtain ⟨below, hbelow, hactions⟩ := ih hrun
      exact ⟨below, by omega, hactions⟩

theorem Unfolds.ends (h : Unfolds s type path t node actions u)
    (hactions : Performs s actions u t') : Ends s node type path t t' := by
  induction h with
  | seen hseen =>
    obtain ⟨depth, hactions⟩ := hactions
    exact ⟨depth + 1, by rwa [run_visit_of_seen s hseen]⟩
  | enters hseen =>
    obtain ⟨depth, hactions⟩ := hactions
    exact ⟨depth + 1, by rwa [run_visit s hseen]⟩
  | forwards hseen stands asked answered present _ ih =>
    obtain ⟨depth, hrun⟩ := ih hactions
    exact ⟨depth + 1, by rwa [run_visit_forwarded hseen stands asked answered present]⟩

end Unfolding

section Entering

variable (t : Traversal) (node : Value) (type : String)

instance : Decidable (Seen t node type) :=
  decidable_of_iff (∃ identity ∈ node.identity?, (identity, type) ∈ t.visited) Iff.rfl

/-- The traversal after a node has been marked, if it was not before. -/
def entered : Traversal := if Seen t node type then t else marked t node type

/-- What the visit of a node comes down to if the node stands for no other. -/
def entryActions (r : Registry) (path : Path) : List Action :=
  if Seen t node type then [] else nodeActions r node type path

theorem unfolds_entered (s : Surroundings) (path : Path) :
    Unfolds s type path t node (entryActions t node type s.registry path)
      (entered t node type) := by
  unfold entryActions entered
  by_cases h : Seen t node type
  · rw [if_pos h, if_pos h]
    exact .seen h
  · rw [if_neg h, if_neg h]
    exact .enters h

@[simp] theorem asked_entered : (entered t node type).asked = t.asked := by
  unfold entered
  split <;> rfl

@[simp] theorem violations_entered : (entered t node type).violations = t.violations := by
  unfold entered
  split <;> rfl

variable {t node type}

theorem mem_marked {identity : Nat} {type' : String} :
    (identity, type') ∈ (marked t node type).visited ↔
      (identity, type') ∈ t.visited ∨ node.identity? = some identity ∧ type' = type := by
  unfold marked
  cases node.identity? with
  | none => simp
  | some i => simp [eq_comm]

theorem mem_entered {identity : Nat} {type' : String} :
    (identity, type') ∈ (entered t node type).visited ↔
      (identity, type') ∈ t.visited ∨ node.identity? = some identity ∧ type' = type := by
  unfold entered
  split
  · rename_i h
    constructor
    · exact .inl
    · rintro (hm | ⟨hi, rfl⟩)
      · exact hm
      · obtain ⟨i, hi', hm⟩ := h
        obtain rfl : identity = i := Option.some.inj (hi.symm.trans hi')
        exact hm
  · exact mem_marked

theorem seen_entered (h : node.isContainer) : Seen (entered t node type) node type := by
  obtain ⟨identity, hi⟩ := Value.isContainer_iff.mp h
  exact ⟨identity, hi, mem_entered.mpr (.inr ⟨hi, rfl⟩)⟩

end Entering

/-- Actions of two walks that do the same with related nodes. -/
inductive ActionPair (related : Value → Value → String → Prop)
    (asks : Bool → String → String → Prop) : Action → Action → Prop where
  | log (records records' : List LogRecord) : ActionPair related asks (.log records) (.log records')
  | report (found : List Violation) : ActionPair related asks (.report found) (.report found)
  | fail (fault fault' : Fault) : ActionPair related asks (.fail fault) (.fail fault')
  | visit {node node' : Value} {type : String} (path : Path) (h : related node node' type) :
      ActionPair related asks (.visit node type path) (.visit node' type path)
  | follow {direct : Bool} {pointer type : String} (path : Path) (h : asks direct pointer type) :
      ActionPair related asks (.follow direct (.text pointer) type path)
        (.follow direct (.text pointer) type path)

/-- Two walks of which one can do whatever the other does, as far as violations go: `related` are
the nodes that they may come to together, `state` is what holds of their traversals. Both depend on
what is known of the walks, `W`. -/
structure Simulation {W : Type} [Preorder W] (related : W → Value → Value → String → Prop)
    (asks : Bool → String → String → Prop) (state : W → Traversal → Traversal → Prop)
    (s s' : Surroundings) : Prop where
  grow : ∀ {w w' node node' type}, w ≤ w' → related w node node' type → related w' node node' type
  report : ∀ {w t t'} found, state w t t' →
    state w { t with violations := t.violations ++ found }
      { t' with violations := t'.violations ++ found }
  log : ∀ {w t t'} records records', state w t t' →
    state w { t with records := t.records ++ records } { t' with records := t'.records ++ records' }
  unfold : ∀ {w t t' node node' type} path, related w node node' type → state w t t' →
    ∃ w' actions actions' u u', w ≤ w' ∧ state w' u u' ∧ Unfolds s type path t node actions u ∧
      Unfolds s' type path t' node' actions' u' ∧
      List.Forall₂ (ActionPair (related w') asks) actions actions'
  answer : ∀ {w t t' direct pointer type}, asks direct pointer type → state w t t' →
    ∃ answers answers' target target' w', s.answers = some answers ∧ s'.answers = some answers' ∧
      answers t.asked (.text pointer) = .ok target ∧
      answers' t'.asked (.text pointer) = .ok target' ∧ w ≤ w' ∧
      state w' (asking t (.text pointer)) (asking t' (.text pointer)) ∧
      target.outline = target'.outline ∧
      ((direct = true → target.isMapping) → related w' target target' type)

section Running

variable {W : Type} [Preorder W] {related : W → Value → Value → String → Prop}
  {asks : Bool → String → String → Prop} {state : W → Traversal → Traversal → Prop}
  {s s' : Surroundings} {w : W} {t t' u : Traversal}

theorem ActionPair.mono {R R' : Value → Value → String → Prop} {a a' : Action}
    (h : ∀ node node' type, R node node' type → R' node node' type)
    (ha : ActionPair R asks a a') : ActionPair R' asks a a' := by
  cases ha with
  | log records records' => exact .log records records'
  | report found => exact .report found
  | fail fault fault' => exact .fail fault fault'
  | visit path hnode => exact .visit path (h _ _ _ hnode)
  | follow path hasks => exact .follow path hasks

/-- Whenever the first walk ends its visits at some depth, the second ends related ones. -/
def Matches (related : W → Value → Value → String → Prop)
    (state : W → Traversal → Traversal → Prop) (s' : Surroundings) (below : Visit) : Prop :=
  ∀ ⦃w node node' type path t t' u⦄, related w node node' type → state w t t' →
    (below node type path).run t = .ok () u →
    ∃ w' u', w ≤ w' ∧ state w' u u' ∧ Ends s' node' type path t' u'

variable {below : Visit}

theorem Simulation.target (sim : Simulation related asks state s s')
    (hbelow : Matches related state s' below) {direct : Bool} {pointer type : String} {path : Path}
    {v v' : Value} (hstate : state w t t') (hkind : v.outline = v'.outline)
    (hrelated : (direct = true → v.isMapping) → related w v v' type)
    (h : (performAll s below (targetActions direct (.text pointer) type path v)).run t = .ok () u) :
    ∃ w' u', w ≤ w' ∧ state w' u u' ∧
      Performs s' (targetActions direct (.text pointer) type path v') t' u' := by
  have hmapping : v'.isMapping = v.isMapping := by
    rw [← Value.isMapping_outline, ← hkind, Value.isMapping_outline]
  by_cases hnull : v = .null
  · obtain rfl : v' = .null := Value.eq_scalar_of_outline (hkind ▸ hnull ▸ rfl)
    subst hnull
    obtain rfl : _ = u := by simpa [targetActions, Action.perform] using h
    exact ⟨w, _, le_rfl, sim.report _ hstate, 0, rfl⟩
  · have hnull' : v' ≠ .null := by
      intro hv'
      exact hnull (Value.eq_scalar_of_outline (hkind.trans (hv' ▸ rfl)))
    rw [targetActions_of_ne_null hnull] at h
    rw [targetActions_of_ne_null hnull', hmapping]
    by_cases hunfit : (direct && !v.isMapping) = true
    · rw [if_pos hunfit] at h ⊢
      obtain rfl : _ = u := by simpa [Action.perform] using h
      exact ⟨w, _, le_rfl, sim.report _ hstate, 0, rfl⟩
    · have fit : direct = true → v.isMapping := by
        intro hdirect
        simpa [hdirect] using hunfit
      rw [if_neg hunfit] at h ⊢
      obtain ⟨t₁, hlog, hvisit⟩ := (run_performAll_cons_eq_ok _ _).mp h
      obtain rfl : _ = t₁ := by simpa [Action.perform] using hlog
      simp only [performAll_cons, performAll_nil, Action.perform, bind_pure_unit] at hvisit
      obtain ⟨w', u', hw, hu, hends⟩ := hbelow (hrelated fit) (sim.log _ _ hstate) hvisit
      exact ⟨w', u', hw, hu, Performs.cons ⟨0, rfl⟩ (performs_visit.mpr hends)⟩

theorem Simulation.perform (sim : Simulation related asks state s s')
    (hbelow : Matches related state s' below) {a a' : Action} (hstate : state w t t')
    (ha : ActionPair (related w) asks a a') (h : (a.perform s below).run t = .ok () u) :
    ∃ w' u', w ≤ w' ∧ state w' u u' ∧ Performs s' [a'] t' u' := by
  cases ha with
  | log records records' =>
    obtain rfl : _ = u := by simpa [Action.perform] using h
    exact ⟨w, _, le_rfl, sim.log _ _ hstate, 0, rfl⟩
  | report found =>
    obtain rfl : _ = u := by simpa [Action.perform] using h
    exact ⟨w, _, le_rfl, sim.report _ hstate, 0, rfl⟩
  | fail fault fault' => contradiction
  | visit path hnode =>
    obtain ⟨w', u', hw, hu, hends⟩ := hbelow hnode hstate h
    exact ⟨w', u', hw, hu, performs_visit.mpr hends⟩
  | @follow direct pointer type path hasks =>
    obtain ⟨answers, answers', v, v', w₁, hs, hs', hv, hv', hw₁, hasked, hkind, hrelated⟩ :=
      sim.answer hasks hstate
    simp only [Action.perform, run_follow, hs, hv] at h
    obtain ⟨w', u', hw, hu, depth, hperforms⟩ := sim.target hbelow hasked hkind hrelated h
    refine ⟨w', u', hw₁.trans hw, hu, depth, ?_⟩
    simp only [performAll_cons, performAll_nil, Action.perform, bind_pure_unit, run_follow, hs',
      hv']
    exact hperforms

theorem Simulation.performAll (sim : Simulation related asks state s s')
    (hbelow : Matches related state s' below) {actions actions' : List Action}
    (hstate : state w t t')
    (hactions : List.Forall₂ (ActionPair (related w) asks) actions actions')
    (h : (Walk.performAll s below actions).run t = .ok () u) :
    ∃ w' u', w ≤ w' ∧ state w' u u' ∧ Performs s' actions' t' u' := by
  induction actions generalizing w t t' actions' with
  | nil =>
    obtain rfl := List.forall₂_nil_left_iff.mp hactions
    obtain rfl : t = u := by simpa using h
    exact ⟨w, t', le_rfl, hstate, .nil⟩
  | cons a actions ih =>
    obtain ⟨a', rest, ha, hrest, rfl⟩ := List.forall₂_cons_left_iff.mp hactions
    obtain ⟨t₁, hown, hothers⟩ := (run_performAll_cons_eq_ok _ _).mp h
    obtain ⟨w₁, t₁', hw₁, hstate₁, hown'⟩ := sim.perform hbelow hstate ha hown
    have hrest₁ := hrest.imp fun _ _ => ActionPair.mono fun _ _ _ => sim.grow hw₁
    obtain ⟨w', u', hw, hu, hothers'⟩ := ih hstate₁ hrest₁ hothers
    exact ⟨w', u', hw₁.trans hw, hu, hown'.cons hothers'⟩

/-- What one walk ends, the other ends too. -/
theorem Simulation.matches_visit (sim : Simulation related asks state s s') (depth : Nat) :
    Matches related state s' (visit s depth) := by
  induction depth using Nat.strongRecOn with
  | ind depth ih =>
    intro w node node' type path t t' u hnode hstate h
    obtain ⟨w₁, actions, actions', t₁, t₁', hw₁, hstate₁, hleft, hright, hactions⟩ :=
      sim.unfold path hnode hstate
    obtain ⟨below, hbelow, h⟩ := hleft.of_run h
    obtain ⟨w', u', hw, hu, hperforms⟩ := sim.performAll (ih below hbelow) hstate₁ hactions h
    exact ⟨w', u', hw₁.trans hw, hu, hright.ends hperforms⟩

theorem Simulation.ends (sim : Simulation related asks state s s') {node node' : Value}
    {type : String} {path : Path} (hnode : related w node node' type) (hstate : state w t t')
    (h : Ends s node type path t u) :
    ∃ w' u', w ≤ w' ∧ state w' u u' ∧ Ends s' node' type path t' u' := by
  obtain ⟨depth, h⟩ := h
  exact sim.matches_visit depth hnode hstate h

theorem ActionPair.symm {R : Value → Value → String → Prop} {a a' : Action}
    (ha : ActionPair R asks a a') :
    ActionPair (fun node node' type => R node' node type) asks a' a := by
  cases ha with
  | log records records' => exact .log records' records
  | report found => exact .report found
  | fail fault fault' => exact .fail fault' fault
  | visit path hnode => exact .visit path hnode
  | follow path hasks => exact .follow path hasks

/-- What is asked of two walks is the same either way round. -/
theorem Simulation.symm (sim : Simulation related asks state s s') :
    Simulation (fun w node node' type => related w node' node type) asks
      (fun w t t' => state w t' t) s' s where
  grow hw hnode := sim.grow hw hnode
  report found hstate := sim.report found hstate
  log records records' hstate := sim.log records' records hstate
  unfold path hnode hstate := by
    obtain ⟨w', actions, actions', u, u', hw, hu, hleft, hright, hactions⟩ :=
      sim.unfold path hnode hstate
    have hflip : List.Forall₂ (flip fun a' a => ActionPair
        (fun node node' type => related w' node' node type) asks a' a) actions actions' :=
      hactions.imp fun _ _ => ActionPair.symm
    exact ⟨w', actions', actions, u', u, hw, hu, hright, hleft, hflip.flip⟩
  answer hasks hstate := by
    obtain ⟨answers, answers', v, v', w', hs, hs', hv, hv', hw, hasked, hkind, hrelated⟩ :=
      sim.answer hasks hstate
    have hmapping : v.isMapping = v'.isMapping := by
      rw [← Value.isMapping_outline, hkind, Value.isMapping_outline]
    refine ⟨answers', answers, v', v, w', hs', hs, hv', hv, hw, hasked, hkind.symm, ?_⟩
    intro fit
    exact hrelated fun hdirect => hmapping ▸ fit hdirect

/-- Both walks come to the same findings, or neither ends. -/
theorem Simulation.finds_iff (sim : Simulation related asks state s s')
    (violations : ∀ {w u u'}, state w u u' → u.violations = u'.violations) {node node' : Value}
    {type : String} {path : Path} (hnode : related w node node' type) (hstate : state w {} {})
    (found : List Violation) : Finds s node type path found ↔ Finds s' node' type path found := by
  constructor
  · rintro ⟨u, hu, rfl⟩
    obtain ⟨w', u', -, hends, hu'⟩ := sim.ends hnode hstate hu
    exact ⟨u', hu', (violations hends).symm⟩
  · rintro ⟨u', hu', rfl⟩
    obtain ⟨w', u, -, hends, hu⟩ := sim.symm.ends hnode hstate hu'
    exact ⟨u, hu, violations hends⟩

end Running

end Walk

end ShapeLint
