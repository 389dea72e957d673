import ShapeLint.Proofs.Walk.Actions

/-! Two walks in lockstep: they report the same, ask the same pointers, mark the same containers and
fail alike; only their logs may differ. Nodes that the walks come to together need not be equal, as
long as what is done at them is in lockstep again. Main statement: `lockstep_visit`. -/
namespace ShapeLint

/-- A traversal but for its log. -/
def Traversal.unlogged (t : Traversal) : Traversal := { t with records := [] }

/-- The answers with other values for their targets. -/
def PointerAnswers.map (answers : PointerAnswers) (f : Value → Value) : PointerAnswers :=
  fun asked pointer => (answers asked pointer).map f

namespace Walk

/-- What a part of a walk comes to: how it fails, if it does, and what it leaves but for its log. -/
def outcome (x : Walk Unit) (t : Traversal) : Option Fault × Traversal :=
  match x.run t with
  | .ok () u => (none, u.unlogged)
  | .error fault u => (some fault, u.unlogged)

/-- Parts of two walks that come to the same. -/
def Lockstep (x x' : Walk Unit) : Prop :=
  ∀ ⦃t t' : Traversal⦄, t.unlogged = t'.unlogged → outcome x t = outcome x' t'

section Parts

variable {x x' y y' : Walk Unit} {t t' : Traversal}

theorem visited_eq_of_unlogged (h : t.unlogged = t'.unlogged) : t.visited = t'.visited :=
  show t.unlogged.visited = t'.unlogged.visited from congrArg Traversal.visited h

theorem asked_eq_of_unlogged (h : t.unlogged = t'.unlogged) : t.asked = t'.asked :=
  show t.unlogged.asked = t'.unlogged.asked from congrArg Traversal.asked h

theorem Lockstep.bind (hx : Lockstep x x') (hy : Lockstep y y') :
    Lockstep (do x; y) (do x'; y') := by
  intro t t' h
  have hfirst := hx h
  unfold outcome at hfirst ⊢
  rw [EStateM.run_bind, EStateM.run_bind]
  cases hrun : x.run t with
  | ok _ u =>
    cases hrun' : x'.run t' with
    | ok _ u' =>
      simp only [hrun, hrun', Prod.mk.injEq, true_and] at hfirst
      exact hy hfirst
    | error fault u' => simp [hrun, hrun'] at hfirst
  | error fault u =>
    cases hrun' : x'.run t' with
    | ok _ u' => simp [hrun, hrun'] at hfirst
    | error fault' u' => simpa [hrun, hrun'] using hfirst

theorem lockstep_pure : Lockstep (pure ()) (pure ()) := fun _ _ h => congrArg (Prod.mk none) h

theorem lockstep_log (records records' : List LogRecord) :
    Lockstep (log records) (log records') := fun _ _ h => congrArg (Prod.mk none) h

theorem lockstep_report (found : List Violation) : Lockstep (report found) (report found) :=
  fun _ _ h => congrArg (fun u : Traversal =>
    ((none : Option Fault), { u with violations := u.violations ++ found })) h

theorem lockstep_throw (fault : Fault) : Lockstep (throw fault) (throw fault) :=
  fun _ _ h => congrArg (Prod.mk (some fault)) h

end Parts

section Actions

variable {s s' : Surroundings} {below below' : Visit}

theorem lockstep_append {as as' bs bs' : List Action}
    (has : Lockstep (performAll s below as) (performAll s' below' as'))
    (hbs : Lockstep (performAll s below bs) (performAll s' below' bs')) :
    Lockstep (performAll s below (as ++ bs)) (performAll s' below' (as' ++ bs')) := by
  rw [performAll_append, performAll_append]
  exact has.bind hbs

theorem lockstep_cons {a a' : Action} {as as' : List Action}
    (ha : Lockstep (a.perform s below) (a'.perform s' below'))
    (has : Lockstep (performAll s below as) (performAll s' below' as')) :
    Lockstep (performAll s below (a :: as)) (performAll s' below' (a' :: as')) := by
  rw [performAll_cons, performAll_cons]
  exact ha.bind has

theorem lockstep_nil : Lockstep (performAll s below []) (performAll s' below' []) := lockstep_pure

theorem lockstep_naming (v : Value) (found : Violation) :
    Lockstep ((naming v found).perform s below) ((naming v found).perform s' below') := by
  unfold naming
  split
  · exact lockstep_report [found]
  · exact lockstep_throw .unwritable

/-- The checks of a node's own keys, whatever they log. -/
theorem lockstep_checkActions {checked checked' : Journaled (List Violation)}
    (h : checked.outcome = checked'.outcome) :
    Lockstep (performAll s below (checkActions checked))
      (performAll s' below' (checkActions checked')) := by
  refine lockstep_cons (lockstep_log _ _) (lockstep_cons ?_ lockstep_nil)
  rw [h]
  cases checked'.outcome with
  | ok found => exact lockstep_report found
  | error fault => exact lockstep_throw fault

/-- What is done with targets of one kind that are visited in lockstep. -/
theorem lockstep_targetActions {direct : Bool} {pointer v v' : Value} {type : String} {path : Path}
    (null : v = .null ↔ v' = .null) (mapping : v.isMapping = v'.isMapping)
    (visits : (direct = true → v.isMapping) → Lockstep (below v type path) (below' v' type path)) :
    Lockstep (performAll s below (targetActions direct pointer type path v))
      (performAll s' below' (targetActions direct pointer type path v')) := by
  by_cases hnull : v = .null
  · rw [hnull, null.mp hnull]
    exact lockstep_cons (lockstep_naming _ _) lockstep_nil
  · rw [targetActions_of_ne_null hnull, targetActions_of_ne_null (mt null.mpr hnull), mapping]
    split
    · exact lockstep_cons (lockstep_naming _ _) lockstep_nil
    · rename_i fit
      refine lockstep_cons (lockstep_log _ _)
        (lockstep_cons (visits fun hdirect => ?_) lockstep_nil)
      simpa [hdirect, mapping] using fit

/-- A pointer is followed in lockstep if the targets it may have are. -/
theorem lockstep_follow {r r' : Registry} {answers : Option PointerAnswers} {f f' : Value → Value}
    {direct : Bool} {pointer : Value} {type : String} {path : Path}
    (h : ∀ a asked v, answers = some a → a asked pointer = .ok v →
      Lockstep (performAll { registry := r, answers := answers.map fun a => a.map f } below
          (targetActions direct pointer type path (f v)))
        (performAll { registry := r', answers := answers.map fun a => a.map f' } below'
          (targetActions direct pointer type path (f' v)))) :
    Lockstep
      (follow { registry := r, answers := answers.map fun a => a.map f } below direct pointer type
        path)
      (follow { registry := r', answers := answers.map fun a => a.map f' } below' direct pointer
        type path) := by
  intro t t' ht
  -- The answers may depend on what was asked before, which is the same so far.
  have hasked : t.asked = t'.asked := asked_eq_of_unlogged ht
  have hasking : (asking t pointer).unlogged = (asking t' pointer).unlogged :=
    congrArg (fun u : Traversal => { u with asked := u.asked ++ [pointer] }) ht
  unfold outcome
  rw [run_follow, run_follow]
  cases answers with
  | none => exact lockstep_pure ht
  | some a =>
    simp only [Option.map_some, PointerAnswers.map, ← hasked]
    cases hv : a t.asked pointer with
    | error fault => exact congrArg (Prod.mk (some fault)) hasking
    | ok v => exact h a t.asked v rfl hv hasking

/-- Nodes of one identity are visited in lockstep if what is done at them is. -/
theorem lockstep_node {depth : Nat} {node node' : Value} {type : String} {path : Path}
    (identity : node.identity? = node'.identity?)
    (actions : Lockstep (performAll s (visit s depth) (nodeActions s.registry node type path))
      (performAll s' (visit s' depth) (nodeActions s'.registry node' type path))) :
    Lockstep (visit s (depth + 1) node type path) (visit s' (depth + 1) node' type path) := by
  intro t t' ht
  have hseen : Seen t node type ↔ Seen t' node' type := by
    unfold Seen
    rw [identity, visited_eq_of_unlogged ht]
  unfold outcome
  by_cases h : Seen t node type
  · rw [run_visit_of_seen s h, run_visit_of_seen s' (hseen.mp h)]
    exact congrArg (Prod.mk none) ht
  · rw [run_visit s h, run_visit s' (mt hseen.mpr h)]
    refine actions ?_
    unfold marked
    rw [identity]
    exact congrArg (fun u : Traversal =>
      { u with visited := u.visited ++ (node'.identity?.map fun i => (i, type)).toList }) ht

end Actions

/-- Nodes that two walks come to together are visited in lockstep, if what is done at such nodes is
in lockstep whenever the visits below are. -/
theorem lockstep_visit {s s' : Surroundings} {together : Value → Value → String → Prop}
    (identity : ∀ {node node' type}, together node node' type → node.identity? = node'.identity?)
    (actions : ∀ {below below' : Visit}, (∀ {node node' type} path, together node node' type →
        Lockstep (below node type path) (below' node' type path)) →
      ∀ {node node' type} path, together node node' type →
        Lockstep (performAll s below (nodeActions s.registry node type path))
          (performAll s' below' (nodeActions s'.registry node' type path)))
    (depth : Nat) {node node' : Value} {type : String} (path : Path)
    (h : together node node' type) :
    Lockstep (visit s depth node type path) (visit s' depth node' type path) := by
  induction depth generalizing node node' type path with
  | zero => exact lockstep_throw .nestingTooDeep
  | succ depth ih =>
    refine lockstep_node (identity h) (actions ?_ path h)
    intro node node' type path h
    exact ih path h

end Walk

end ShapeLint
