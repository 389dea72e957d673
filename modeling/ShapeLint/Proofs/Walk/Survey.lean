import ShapeLint.Proofs.Walk.Causes
import ShapeLint.Proofs.Walk.Ending

/-! Walks of trees. Where no pointer is answered and no container stands at two places, marks play
no part: what a walk finds is the relation `Surveys` between actions and findings, and the first
fault that it comes to is `Aborts`. Main statements: `finds_iff_surveys` and `fails_of_aborts`. -/
namespace ShapeLint

namespace Walk

/-- What actions find in a tree whose pointers are not followed. -/
inductive Surveys (r : Registry) : List Action → List Violation → Prop where
  | nil : Surveys r [] []
  | log {records : List LogRecord} {actions : List Action} {rest : List Violation}
      (h : Surveys r actions rest) : Surveys r (.log records :: actions) rest
  | report {found rest : List Violation} {actions : List Action} (h : Surveys r actions rest) :
      Surveys r (.report found :: actions) (found ++ rest)
  | visit {node : Value} {type : String} {path : Path} {actions : List Action}
      {own rest : List Violation} (hnode : Surveys r (nodeActions r node type path) own)
      (h : Surveys r actions rest) : Surveys r (.visit node type path :: actions) (own ++ rest)
  | follow {direct : Bool} {pointer : Value} {type : String} {path : Path}
      {actions : List Action} {rest : List Violation} (h : Surveys r actions rest) :
      Surveys r (.follow direct pointer type path :: actions) rest

/-- Actions that come to this fault first, in a tree whose pointers are not followed. -/
inductive Aborts (r : Registry) (fault : Fault) : List Action → Prop where
  | fail {actions : List Action} : Aborts r fault (.fail fault :: actions)
  | inside {node : Value} {type : String} {path : Path} {actions : List Action}
      (h : Aborts r fault (nodeActions r node type path)) :
      Aborts r fault (.visit node type path :: actions)
  | later {a : Action} {found : List Violation} {actions : List Action}
      (hfirst : Surveys r [a] found) (h : Aborts r fault actions) : Aborts r fault (a :: actions)

section Surveys

variable {r : Registry} {actions later : List Action} {found found' : List Violation}

theorem Surveys.unique (h : Surveys r actions found) (h' : Surveys r actions found') :
    found = found' := by
  induction h generalizing found' with
  | nil => cases h'; rfl
  | log _ ih =>
    cases h' with
    | log h' => exact ih h'
  | report _ ih =>
    cases h' with
    | report h' => rw [ih h']
  | visit _ _ ihnode ih =>
    cases h' with
    | visit hnode' h' => rw [ihnode hnode', ih h']
  | follow _ ih =>
    cases h' with
    | follow h' => exact ih h'

theorem Surveys.append (h : Surveys r actions found) (h' : Surveys r later found') :
    Surveys r (actions ++ later) (found ++ found') := by
  induction h with
  | nil => exact h'
  | log _ ih => exact .log ih
  | report _ ih => exact List.append_assoc _ _ found' ▸ .report ih
  | visit hnode _ _ ih => exact List.append_assoc _ _ found' ▸ .visit hnode ih
  | follow _ ih => exact .follow ih

/-- What actions find is found by the first and then by the later ones. -/
theorem Surveys.exists_append (h : Surveys r (actions ++ later) found) :
    ∃ first rest, Surveys r actions first ∧ Surveys r later rest ∧ found = first ++ rest := by
  induction actions generalizing found with
  | nil => exact ⟨[], found, .nil, h, rfl⟩
  | cons a actions ih =>
    cases h with
    | log h =>
      obtain ⟨first, rest, hfirst, hrest, rfl⟩ := ih h
      exact ⟨first, rest, .log hfirst, hrest, rfl⟩
    | @report own _ _ h =>
      obtain ⟨first, rest, hfirst, hrest, rfl⟩ := ih h
      exact ⟨own ++ first, rest, .report hfirst, hrest, (List.append_assoc _ _ _).symm⟩
    | @visit _ _ _ _ own _ hnode h =>
      obtain ⟨first, rest, hfirst, hrest, rfl⟩ := ih h
      exact ⟨own ++ first, rest, .visit hnode hfirst, hrest, (List.append_assoc _ _ _).symm⟩
    | follow h =>
      obtain ⟨first, rest, hfirst, hrest, rfl⟩ := ih h
      exact ⟨first, rest, .follow hfirst, hrest, rfl⟩

variable {fault : Fault}

theorem Aborts.append (h : Aborts r fault actions) (later : List Action) :
    Aborts r fault (actions ++ later) := by
  induction h with
  | fail => exact .fail
  | inside h => exact .inside h
  | later hfirst _ ih => exact .later hfirst ih

theorem Aborts.behind (hfirst : Surveys r actions found) (h : Aborts r fault later) :
    Aborts r fault (actions ++ later) := by
  induction actions generalizing found with
  | nil => exact h
  | cons a actions ih =>
    have hfirst : Surveys r ([a] ++ actions) found := hfirst
    obtain ⟨own, rest, hown, hrest, -⟩ := hfirst.exists_append
    exact .later hown (ih hrest)

/-- Actions that come to a fault find nothing to the end. -/
theorem Aborts.not_surveys (h : Aborts r fault actions) : ¬ Surveys r actions found := by
  induction h generalizing found with
  | fail => intro h; cases h
  | inside _ ih =>
    intro h
    cases h with
    | visit hnode _ => exact ih hnode
  | @later a _ actions _ _ ih =>
    intro h
    have h : Surveys r ([a] ++ actions) found := h
    obtain ⟨-, rest, -, hrest, -⟩ := h.exists_append
    exact ih hrest

end Surveys

section Places

variable (identity : Nat)

/-- Number of places in the nodes to visit where a container stands. -/
def Action.occurrences : Action → Nat
  | .visit node _ _ => node.occurrences identity
  | _ => 0

def occurrencesInActions (actions : List Action) : Nat :=
  (actions.map (Action.occurrences identity)).sum

@[simp] theorem occurrencesInActions_append (actions later : List Action) :
    occurrencesInActions identity (actions ++ later) =
      occurrencesInActions identity actions + occurrencesInActions identity later := by
  simp [occurrencesInActions]

@[simp] theorem occurrencesInActions_cons (a : Action) (actions : List Action) :
    occurrencesInActions identity (a :: actions) =
      a.occurrences identity + occurrencesInActions identity actions := by
  simp [occurrencesInActions]

@[simp] theorem occurrencesInActions_nil : occurrencesInActions identity [] = 0 := rfl

theorem occurrencesInActions_child (d : Descriptor) (path : Path) (step : Step) (v : Value) :
    occurrencesInActions identity (childActions d path step v) ≤ v.occurrences identity := by
  unfold childActions
  cases rulingAt d step v with
  | error fault => simp [Action.occurrences]
  | ok ruling =>
    cases ruling with
    | leaf leaf =>
      simp only [rulingActions, leafActions]
      cases leaf.check v (path ++ [step]) d.name with
      | error fault => simp [Action.occurrences]
      | ok found =>
        cases nonempty? leaf.resolveAs with
        | none => simp [Action.occurrences]
        | some type => cases found <;> simp [Action.occurrences]
    | _ => simp [rulingActions, Action.occurrences]

theorem occurrencesInActions_children (d : Descriptor) (path : Path)
    (members : List (Step × Value)) :
    occurrencesInActions identity (members.flatMap fun (step, v) => childActions d path step v) ≤
      ((members.map Prod.snd).map (Value.occurrences identity)).sum := by
  induction members with
  | nil => exact Nat.le_refl 0
  | cons member members ih =>
    obtain ⟨step, v⟩ := member
    rw [List.flatMap_cons, occurrencesInActions_append, List.map_cons, List.map_cons,
      List.sum_cons]
    exact Nat.add_le_add (occurrencesInActions_child identity d path step v) ih

/-- A visit goes on to the members of its node only, and to each of them once. -/
theorem occurrencesInActions_node (r : Registry) (node : Value) (type : String) (path : Path) :
    occurrencesInActions identity (nodeActions r node type path) +
      (if node.identity? = some identity then 1 else 0) ≤ node.occurrences identity := by
  rw [node.occurrences_eq]
  apply Nat.add_le_add_right
  unfold nodeActions
  cases pointerOf? node with
  | some pointer => simp [Action.occurrences]
  | none =>
    cases r.lookup type with
    | error fault => simp [Action.occurrences]
    | ok d =>
      simp only [shapeActions]
      cases shape : members? d node with
      | none => simp [Action.occurrences]
      | some members =>
        have hchecks :
            occurrencesInActions identity (checkActions (d.checkNode node path)) = 0 := by
          unfold checkActions
          cases (d.checkNode node path).outcome <;> simp [Action.occurrences]
        obtain rfl := members?_eq shape
        simp only [occurrencesInActions_append, hchecks, Nat.zero_add]
        exact occurrencesInActions_children identity d path node.members

end Places

/-- No container stands at two places of the nodes to visit, and none of theirs is marked. -/
def Fresh (actions : List Action) (t : Traversal) : Prop :=
  ∀ identity, occurrencesInActions identity actions ≤ 1 ∧
    ∀ type, (identity, type) ∈ t.visited → occurrencesInActions identity actions = 0

/-- What is found is added to the findings, and only containers of the nodes visited are marked. -/
structure Surveyed (actions : List Action) (found : List Violation) (t u : Traversal) : Prop where
  violations : u.violations = t.violations ++ found
  visited : ∀ m ∈ u.visited, m ∈ t.visited ∨ 0 < occurrencesInActions m.1 actions

section Run

variable {s : Surroundings} {a : Action} {actions : List Action} {t t₁ u : Traversal}
  {found rest : List Violation} {node : Value} {type : String} {path : Path}

theorem Fresh.head (h : Fresh (a :: actions) t) : Fresh [a] t := by
  intro identity
  have hidentity := h identity
  simp only [occurrencesInActions_cons, occurrencesInActions_nil, Nat.add_zero] at hidentity ⊢
  refine ⟨by omega, fun type hm => ?_⟩
  have hzero := hidentity.2 type hm
  omega

/-- What one action marks is not visited by the later ones. -/
theorem Fresh.tail (h : Fresh (a :: actions) t) (ha : Surveyed [a] found t t₁) :
    Fresh actions t₁ := by
  intro identity
  have hidentity := h identity
  rw [occurrencesInActions_cons] at hidentity
  refine ⟨by omega, fun type hm => ?_⟩
  rcases ha.visited _ hm with hold | hnew
  · have hzero := hidentity.2 type hold
    omega
  · simp only [occurrencesInActions_cons, occurrencesInActions_nil, Nat.add_zero] at hnew
    omega

theorem Surveyed.nil (t : Traversal) : Surveyed [] [] t t := ⟨by simp, fun _ => .inl⟩

theorem Surveyed.log (records : List LogRecord) (t : Traversal) :
    Surveyed [.log records] [] t { t with records := t.records ++ records } :=
  ⟨by simp, fun _ => .inl⟩

theorem Surveyed.report (found : List Violation) (t : Traversal) :
    Surveyed [.report found] found t { t with violations := t.violations ++ found } :=
  ⟨rfl, fun _ => .inl⟩

theorem Surveyed.follow (direct : Bool) (pointer : Value) (type : String) (path : Path)
    (t : Traversal) : Surveyed [.follow direct pointer type path] [] t t :=
  ⟨by simp, fun _ => .inl⟩

theorem Surveyed.cons (ha : Surveyed [a] found t t₁) (h : Surveyed actions rest t₁ u) :
    Surveyed (a :: actions) (found ++ rest) t u where
  violations := by rw [h.violations, ha.violations, List.append_assoc]
  visited := by
    intro m hm
    simp only [occurrencesInActions_cons]
    rcases h.visited m hm with hm | hm
    · refine (ha.visited m hm).imp_right fun hm => ?_
      simp only [occurrencesInActions_cons, occurrencesInActions_nil] at hm
      omega
    · exact .inr (by omega)

theorem Fresh.not_seen (h : Fresh [.visit node type path] t) : ¬ Seen t node type := by
  rintro ⟨identity, hi, hm⟩
  have hzero := (h identity).2 type hm
  have hpos := Value.occurrences_pos hi
  simp only [occurrencesInActions_cons, occurrencesInActions_nil, Action.occurrences] at hzero
  omega

theorem Fresh.inside (h : Fresh [.visit node type path] t) (r : Registry) :
    Fresh (nodeActions r node type path) (marked t node type) := by
  intro identity
  have hidentity := h identity
  have hnode := occurrencesInActions_node identity r node type path
  simp only [occurrencesInActions_cons, occurrencesInActions_nil, Action.occurrences,
    Nat.add_zero] at hidentity
  refine ⟨by omega, fun type' hm => ?_⟩
  simp only [marked, List.mem_append, Option.mem_toList, Option.map_eq_some_iff,
    Prod.mk.injEq] at hm
  rcases hm with hold | ⟨_, hi, rfl, -⟩
  · have hzero := hidentity.2 type' hold
    omega
  · rw [if_pos hi] at hnode
    omega

theorem Surveyed.of_inside {r : Registry}
    (h : Surveyed (nodeActions r node type path) found (marked t node type) u) :
    Surveyed [.visit node type path] found t u where
  violations := h.violations
  visited := by
    rintro ⟨identity, type'⟩ hm
    have hnode := occurrencesInActions_node identity r node type path
    simp only [occurrencesInActions_cons, occurrencesInActions_nil, Action.occurrences]
    rcases h.visited _ hm with hm | hm
    · simp only [marked, List.mem_append, Option.mem_toList, Option.map_eq_some_iff,
        Prod.mk.injEq] at hm
      refine hm.imp_right ?_
      rintro ⟨_, hi, rfl, -⟩
      exact Value.occurrences_pos hi
    · exact .inr (by dsimp only at hm; omega)

/-- What the visits below are to find. -/
def SurveysBelow (s : Surroundings) (below : Visit) : Prop :=
  ∀ {node type path t u}, (below node type path).run t = .ok () u →
    Fresh [.visit node type path] t →
    ∃ found, Surveys s.registry (nodeActions s.registry node type path) found ∧
      Surveyed [.visit node type path] found t u

theorem surveys_of_performAll (steady : s.answers = none) {below : Visit}
    (hbelow : SurveysBelow s below) (h : (performAll s below actions).run t = .ok () u)
    (fresh : Fresh actions t) :
    ∃ found, Surveys s.registry actions found ∧ Surveyed actions found t u := by
  induction actions generalizing t with
  | nil =>
    obtain rfl : t = u := by simpa using h
    exact ⟨[], .nil, .nil t⟩
  | cons a actions ih =>
    obtain ⟨t₁, ha, hrest⟩ := (run_performAll_cons_eq_ok _ _).mp h
    cases a with
    | log records =>
      obtain rfl : _ = t₁ := by simpa [Action.perform] using ha
      have hfirst := Surveyed.log records t
      obtain ⟨rest, hrest, hsurveyed⟩ := ih hrest (fresh.tail hfirst)
      exact ⟨rest, .log hrest, hfirst.cons hsurveyed⟩
    | report found =>
      obtain rfl : _ = t₁ := by simpa [Action.perform] using ha
      have hfirst := Surveyed.report found t
      obtain ⟨rest, hrest, hsurveyed⟩ := ih hrest (fresh.tail hfirst)
      exact ⟨found ++ rest, .report hrest, hfirst.cons hsurveyed⟩
    | fail fault => contradiction
    | visit node type path =>
      obtain ⟨found, hfound, hfirst⟩ := hbelow ha fresh.head
      obtain ⟨rest, hrest, hsurveyed⟩ := ih hrest (fresh.tail hfirst)
      exact ⟨found ++ rest, .visit hfound hrest, hfirst.cons hsurveyed⟩
    | follow direct pointer type path =>
      simp only [Action.perform, run_follow, steady] at ha
      obtain rfl : t = t₁ := by simpa using ha
      have hfirst := Surveyed.follow direct pointer type path t
      obtain ⟨rest, hrest, hsurveyed⟩ := ih hrest (fresh.tail hfirst)
      exact ⟨rest, .follow hrest, hfirst.cons hsurveyed⟩

theorem surveys_of_visit (steady : s.answers = none) (depth : Nat) :
    SurveysBelow s (visit s depth) := by
  induction depth with
  | zero =>
    intro node type path t u h
    simp [run_visit_zero] at h
  | succ depth ih =>
    intro node type path t u h fresh
    rw [run_visit s fresh.not_seen] at h
    obtain ⟨found, hfound, hsurveyed⟩ :=
      surveys_of_performAll steady ih h (fresh.inside s.registry)
    exact ⟨found, hfound, hsurveyed.of_inside⟩

theorem ends_of_performs (h : Performs s (nodeActions s.registry node type path)
    (marked t node type) u) (fresh : ¬ Seen t node type) : Ends s node type path t u := by
  obtain ⟨depth, h⟩ := h
  exact ⟨depth + 1, by rw [run_visit s fresh, h]⟩

/-- Where something is found, the walk ends. -/
theorem performs_of_surveys (steady : s.answers = none)
    (h : Surveys s.registry actions found) (fresh : Fresh actions t) :
    ∃ u, Performs s actions t u ∧ Surveyed actions found t u := by
  induction h generalizing t with
  | nil => exact ⟨t, .nil, .nil t⟩
  | @log records actions rest _ ih =>
    have hfirst := Surveyed.log records t
    obtain ⟨u, hu, hsurveyed⟩ := ih (fresh.tail hfirst)
    exact ⟨u, .cons ⟨0, rfl⟩ hu, hfirst.cons hsurveyed⟩
  | @report found rest actions _ ih =>
    have hfirst := Surveyed.report found t
    obtain ⟨u, hu, hsurveyed⟩ := ih (fresh.tail hfirst)
    exact ⟨u, .cons ⟨0, rfl⟩ hu, hfirst.cons hsurveyed⟩
  | visit _ _ ihnode ih =>
    obtain ⟨t₁, hnode, hfound⟩ := ihnode (fresh.head.inside s.registry)
    have hfirst := hfound.of_inside
    obtain ⟨u, hu, hsurveyed⟩ := ih (fresh.tail hfirst)
    have hvisit := performs_visit.mpr (ends_of_performs hnode fresh.head.not_seen)
    exact ⟨u, .cons hvisit hu, hfirst.cons hsurveyed⟩
  | @follow direct pointer type path actions rest _ ih =>
    have hfirst := Surveyed.follow direct pointer type path t
    obtain ⟨u, hu, hsurveyed⟩ := ih (fresh.tail hfirst)
    have hfollow : Performs s [.follow direct pointer type path] t t :=
      ⟨0, by simp [Action.perform, run_follow, steady]⟩
    exact ⟨u, .cons hfollow hu, hfirst.cons hsurveyed⟩

/-- Where actions come to a fault first, they fail with it from some depth on. -/
theorem performAll_of_aborts {fault : Fault} (steady : s.answers = none)
    (h : Aborts s.registry fault actions) (fresh : Fresh actions t) :
    ∃ least, ∀ depth, least ≤ depth →
      ∃ u, (performAll s (visit s depth) actions).run t = .error fault u := by
  induction h generalizing t with
  | fail => exact ⟨0, fun depth _ => ⟨t, (run_performAll_cons_eq_error _ _).mpr (.inl rfl)⟩⟩
  | inside _ ih =>
    obtain ⟨least, hleast⟩ := ih (fresh.head.inside s.registry)
    refine ⟨least + 1, fun depth hdepth => ?_⟩
    obtain ⟨depth, rfl⟩ := Nat.exists_eq_add_of_le' hdepth
    obtain ⟨u, hu⟩ := hleast (depth + least) (Nat.le_add_left _ _)
    refine ⟨u, (run_performAll_cons_eq_error _ _).mpr (.inl ?_)⟩
    exact (run_visit s fresh.head.not_seen).trans hu
  | later hfirst _ ih =>
    obtain ⟨t₁, ⟨first, hrun⟩, hsurveyed⟩ := performs_of_surveys steady hfirst fresh.head
    obtain ⟨least, hleast⟩ := ih (fresh.tail hsurveyed)
    refine ⟨max first least, fun depth hdepth => ?_⟩
    obtain ⟨u, hu⟩ := hleast depth (le_trans (Nat.le_max_right _ _) hdepth)
    have hrun := (endsWith_of_le s (le_trans (Nat.le_max_left _ _) hdepth)).actions hrun
    obtain ⟨t₂, ha, hnil⟩ := (run_performAll_cons_eq_ok _ _).mp hrun
    obtain rfl : t₂ = t₁ := by simpa using hnil
    exact ⟨u, (run_performAll_cons_eq_error _ _).mpr (.inr ⟨t₂, ha, hu⟩)⟩

theorem fresh_of_tree (tree : ∀ identity, node.occurrences identity ≤ 1) :
    Fresh [.visit node type path] {} := by
  intro identity
  simp [Action.occurrences, tree identity]

/-- A walk of a tree without answers to pointers fails with the first fault that it comes to. -/
theorem fails_of_aborts {fault : Fault} (steady : s.answers = none)
    (tree : ∀ identity, node.occurrences identity ≤ 1)
    (h : Aborts s.registry fault (nodeActions s.registry node type path)) :
    Fails s node type path fault := by
  obtain ⟨least, hleast⟩ := performAll_of_aborts steady (.inside h) (fresh_of_tree tree)
  refine ⟨least, fun depth hdepth => ?_⟩
  obtain ⟨u, hu⟩ := hleast depth hdepth
  exact ⟨u, by simpa [Action.perform] using hu⟩

/-- A walk of a tree without answers to pointers ends with what there is to find. -/
theorem finds_iff_surveys (steady : s.answers = none)
    (tree : ∀ identity, node.occurrences identity ≤ 1) :
    Finds s node type path found ↔
      Surveys s.registry (nodeActions s.registry node type path) found := by
  have fresh : Fresh [.visit node type path] {} := fresh_of_tree tree
  constructor
  · rintro ⟨u, ⟨depth, h⟩, rfl⟩
    obtain ⟨found, hfound, hsurveyed⟩ := surveys_of_visit steady depth h fresh
    simpa [hsurveyed.violations] using hfound
  · intro h
    obtain ⟨u, hu, hsurveyed⟩ := performs_of_surveys steady h (fresh.inside s.registry)
    exact ⟨u, ends_of_performs hu fresh.not_seen, by simpa [marked] using hsurveyed.violations⟩

end Run

end Walk

end ShapeLint
