import ShapeLint.Proofs.Document.Containers
import ShapeLint.Proofs.Outcome
import ShapeLint.Walk.Traversal

/-! A visit as a list of actions. What is done at a node is known before anything below the node
is visited: only the answers to pointers come later. Main statement: `visitNode_eq`. -/
namespace ShapeLint

namespace Walk

/-- The pointer by which a mapping stands for another node. -/
def pointerOf? : Value → Option String
  | .mapping _ entries => pointer? entries
  | _ => none

/-- The members that a visit looks at, if the node has the shape that the descriptor expects. -/
def members? (d : Descriptor) : Value → Option (List (Step × Value))
  | .list _ items => if d.isSequence then some (Leaf.numbered items) else none
  | .mapping _ entries => if d.isSequence then none else some (Leaf.keyed entries)
  | _ => none

/-- One thing that a visit does. -/
inductive Action where
  | log (records : List LogRecord)
  | report (found : List Violation)
  | fail (fault : Fault)
  | visit (node : Value) (type : String) (path : Path)
  | follow (direct : Bool) (pointer : Value) (type : String) (path : Path)

def Action.perform (s : Surroundings) (below : Visit) : Action → Walk Unit
  | .log records => Walk.log records
  | .report found => Walk.report found
  | .fail fault => throw fault
  | .visit node type path => below node type path
  | .follow direct pointer type path => Walk.follow s below direct pointer type path

def performAll (s : Surroundings) (below : Visit) (actions : List Action) : Walk Unit :=
  forM actions (Action.perform s below)

def leafActions (d : Descriptor) (leaf : Leaf) (v : Value) (path : Path) : List Action :=
  match leaf.check v path d.name with
  | .error fault => [.fail fault]
  | .ok found => .report found ::
      match nonempty? leaf.resolveAs with
      | some type => if found.isEmpty then [.follow true v type path] else []
      | none => []

def rulingActions (d : Descriptor) (step : Step) (v : Value) (path : Path) : Ruling → List Action
  | .rejected => [.report [unknownKey d step.text path]]
  | .reference type => [.visit v type path]
  | .leaf leaf => leafActions d leaf v path
  | .unvalidated _ | .extension => []

def childActions (d : Descriptor) (path : Path) (step : Step) (v : Value) : List Action :=
  match rulingAt d step v with
  | .error fault => [.fail fault]
  | .ok ruling => .log (ruling.record? d (stepKey step) v).toList ::
      rulingActions d step v (path ++ [step]) ruling

/-- The checks of a node's own keys. -/
def checkActions (checked : Journaled (List Violation)) : List Action :=
  [.log checked.records, match checked.outcome with
    | .ok found => .report found
    | .error fault => .fail fault]

def shapeActions (d : Descriptor) (node : Value) (path : Path) : List Action :=
  match members? d node with
  | none => [.report [typeMismatch (expectedType d) node d.name path]]
  | some members => checkActions (d.checkNode node path)
      ++ members.flatMap fun (step, v) => childActions d path step v

/-- What a visit of a node does, once the node is marked. -/
def nodeActions (r : Registry) (node : Value) (type : String) (path : Path) : List Action :=
  match pointerOf? node with
  | some pointer => [.follow false (.text pointer) type path]
  | none =>
    match r.lookup type with
    | .error fault => [.fail fault]
    | .ok d => shapeActions d node path

/-- Marks a node that has an identity. Tells whether it is to be visited. -/
def mark (node : Value) (type : String) : Walk Bool :=
  match node.identity? with
  | some identity => enter identity type
  | none => pure true

/-- Reports a violation whose message shows a value. -/
def naming (v : Value) (found : Violation) : Action :=
  if v.isWritable then .report [found] else .fail .unwritable

@[simp] theorem naming_text (pointer : String) (found : Violation) :
    naming (.text pointer) found = .report [found] := rfl

theorem eq_of_report_eq_naming {v : Value} {found : List Violation} {x : Violation}
    (h : .report found = naming v x) : found = [x] := by
  unfold naming at h
  split at h
  · exact Action.report.inj h
  · contradiction

theorem rulingAt_eq_ok {d : Descriptor} {step : Step} {v : Value} {ruling : Ruling} :
    rulingAt d step v = .ok ruling ↔
      step.take = .ok () ∧ d.ruling (stepKey step) v = .ok ruling := by
  rw [rulingAt, bind_eq_ok]
  exact ⟨fun ⟨_, h⟩ => h, fun h => ⟨(), h⟩⟩

theorem rulingAt_congr {d : Descriptor} {step : Step} {v w : Value}
    (h : d.ruling (stepKey step) v = d.ruling (stepKey step) w) :
    rulingAt d step v = rulingAt d step w := by
  simp only [rulingAt, h]

theorem rulingAt_error {d : Descriptor} {step : Step} {v : Value} {fault : Fault}
    (h : rulingAt d step v = .error fault) : step.take = .error fault ∨
      d.ruling (stepKey step) v = .error fault :=
  (bind_eq_error.mp h).imp_right fun ⟨_, _, h⟩ => h

/-- What is done with the answer to a pointer. -/
def targetActions (direct : Bool) (pointer : Value) (type : String) (path : Path) :
    Value → List Action
  | .scalar .null => [naming pointer (unresolved pointer type path)]
  | target =>
    if direct && !target.isMapping then [naming pointer (unfitTarget pointer type path)]
    else [.log (following pointer type).toList, .visit target type path]

theorem targetActions_of_ne_null {direct : Bool} {pointer : Value} {type : String} {path : Path}
    {v : Value} (h : v ≠ .null) : targetActions direct pointer type path v =
      if direct && !v.isMapping then [naming pointer (unfitTarget pointer type path)]
      else [.log (following pointer type).toList, .visit v type path] := by
  unfold targetActions
  split
  · contradiction
  · rfl

section Performing

variable (s : Surroundings) (below : Visit)

@[simp] theorem performAll_nil : performAll s below [] = pure () := rfl

@[simp] theorem performAll_cons (a : Action) (as : List Action) :
    performAll s below (a :: as) = (do a.perform s below; performAll s below as) := rfl

@[simp] theorem performAll_append (as bs : List Action) :
    performAll s below (as ++ bs) = (do performAll s below as; performAll s below bs) :=
  List.forM_append

theorem performAll_flatMap {α : Type} (f : α → List Action) (xs : List α) :
    performAll s below (xs.flatMap f) = forM xs fun x => performAll s below (f x) := by
  induction xs with
  | nil => rfl
  | cons x xs ih => simp [List.flatMap_cons, ih]

@[simp] theorem log_nil : log [] = pure () := by
  funext t
  show EStateM.Result.ok () { t with records := t.records ++ [] } = _
  rw [List.append_nil]
  rfl

@[simp] theorem report_nil : report [] = pure () := by
  funext t
  show EStateM.Result.ok () { t with violations := t.violations ++ [] } = _
  rw [List.append_nil]
  rfl

@[simp] theorem throw_bind {α β : Type} (fault : Fault) (next : α → Walk β) :
    (throw fault >>= next) = throw fault := rfl

theorem perform_naming (v : Value) (found : Violation) :
    (naming v found).perform s below = reportNaming v found := by
  unfold naming reportNaming writing
  cases h : v.isWritable <;> simp [h] <;> rfl

theorem performAll_naming (v : Value) (found : Violation) :
    performAll s below [naming v found] = reportNaming v found := by
  simp [perform_naming]

theorem performAll_leafActions (d : Descriptor) (leaf : Leaf) (v : Value) (path : Path) :
    performAll s below (leafActions d leaf v path) = visitLeaf s below d leaf v path := by
  unfold leafActions visitLeaf
  cases leaf.check v path d.name with
  | error fault => simp [ofExcept, Action.perform]
  | ok found =>
    cases nonempty? leaf.resolveAs with
    | none => simp [ofExcept, Action.perform]
    | some type => cases found <;> simp [ofExcept, Action.perform]

theorem performAll_childActions (d : Descriptor) (path : Path) (step : Step) (v : Value) :
    performAll s below (childActions d path step v) = visitChild s below d path step v := by
  unfold childActions visitChild
  cases rulingAt d step v with
  | error fault => simp [ofExcept, Action.perform]
  | ok ruling =>
    cases ruling <;> simp [ofExcept, Action.perform, rulingActions, performAll_leafActions]

theorem performAll_children (d : Descriptor) (path : Path) (members : List (Step × Value)) :
    performAll s below (members.flatMap fun (step, v) => childActions d path step v) =
      visitChildren s below d path members := by
  simp only [performAll_flatMap, performAll_childActions]
  rfl

theorem performAll_checkActions (checked : Journaled (List Violation)) :
    performAll s below (checkActions checked) = (do report (← ofJournaled checked)) := by
  unfold checkActions ofJournaled
  cases checked.outcome <;> simp [ofExcept, Action.perform]

/-- Only the keys of mappings are checked. -/
theorem checkNode_list (d : Descriptor) (identity : Nat) (items : List Value) (path : Path) :
    d.checkNode (.list identity items) path = ⟨.ok [], []⟩ := rfl

/-- A visit marks its node and then performs the node's actions in order. -/
theorem visitNode_eq (node : Value) (type : String) (path : Path) :
    visitNode s below node type path = (do
      if ← mark node type then performAll s below (nodeActions s.registry node type path)) := by
  unfold visitNode mark nodeActions
  cases node with
  | scalar x =>
    cases s.registry.lookup type <;>
      simp [Value.identity?, pointerOf?, shapeActions, members?, ofExcept, Action.perform]
  | tuple xs =>
    cases s.registry.lookup type <;>
      simp [Value.identity?, pointerOf?, shapeActions, members?, ofExcept, Action.perform]
  | list identity xs =>
    simp only [Value.identity?, pointerOf?]
    congr 1
    funext entered
    cases s.registry.lookup type with
    | error fault => simp [ofExcept, Action.perform]
    | ok d =>
      cases h : d.isSequence <;>
        simp [shapeActions, members?, ofExcept, Action.perform, h, checkNode_list, checkActions,
          performAll_children, expectedType]
  | mapping identity entries =>
    simp only [Value.identity?, pointerOf?]
    congr 1
    funext entered
    cases pointer? entries with
    | some pointer => simp [Action.perform]
    | none =>
      cases s.registry.lookup type with
      | error fault => simp [ofExcept, Action.perform]
      | ok d =>
        cases h : d.isSequence <;>
          simp [shapeActions, members?, ofExcept, Action.perform, h, performAll_checkActions,
            performAll_children, expectedType]

theorem follow_eq (direct : Bool) (pointer : Value) (type : String) (path : Path) :
    follow s below direct pointer type path = (do
      match s.answers with
      | none => pure ()
      | some answers =>
        let target ← ask answers pointer
        performAll s below (targetActions direct pointer type path target)) := by
  unfold follow
  cases s.answers with
  | none => rfl
  | some answers =>
    refine bind_congr fun target => ?_
    unfold targetActions
    split
    · simp [perform_naming]
    · by_cases h : direct && !target.isMapping
      · simp [h, perform_naming]
      · simp [h, Action.perform]

end Performing

/-! The runs of visits and of lists of actions. -/

section Running

variable (s : Surroundings) (below : Visit)

/-- Whether a node is marked as a type. -/
def Seen (t : Traversal) (node : Value) (type : String) : Prop :=
  ∃ identity, node.identity? = some identity ∧ (identity, type) ∈ t.visited

theorem Seen.mono {t u : Traversal} {node : Value} {type : String} (h : Seen t node type)
    (hsub : ∀ {identity type}, (identity, type) ∈ t.visited → (identity, type) ∈ u.visited) :
    Seen u node type := by
  obtain ⟨identity, hi, hm⟩ := h
  exact ⟨identity, hi, hsub hm⟩

def marked (t : Traversal) (node : Value) (type : String) : Traversal :=
  { t with visited := t.visited ++ (node.identity?.map fun i => (i, type)).toList }

def asking (t : Traversal) (pointer : Value) : Traversal :=
  { t with asked := t.asked ++ [pointer] }

@[simp] theorem run_report (found : List Violation) (t : Traversal) :
    (report found).run t = .ok () { t with violations := t.violations ++ found } := rfl

theorem run_reportNaming (v : Value) (found : Violation) (t : Traversal) :
    (reportNaming v found).run t =
      if v.isWritable then .ok () { t with violations := t.violations ++ [found] }
      else .error .unwritable t := by
  unfold reportNaming writing
  cases h : v.isWritable <;> simp [h] <;> rfl

@[simp] theorem run_log (records : List LogRecord) (t : Traversal) :
    (log records).run t = .ok () { t with records := t.records ++ records } := rfl

theorem run_mark_of_seen {t : Traversal} {node : Value} {type : String} (h : Seen t node type) :
    (mark node type).run t = .ok false t := by
  obtain ⟨identity, hi, hm⟩ := h
  simp [mark, hi, enter, hm]

theorem run_mark {t : Traversal} {node : Value} {type : String} (h : ¬ Seen t node type) :
    (mark node type).run t = .ok true (marked t node type) := by
  unfold mark
  cases hi : node.identity? with
  | none => simp [marked, hi]
  | some identity =>
    have hm : t.visited.contains (identity, type) = false := by
      simpa using fun hm => h ⟨identity, hi, hm⟩
    simp only [enter, EStateM.run_bind, EStateM.run_get, hm, Bool.false_eq_true, if_false, marked,
      hi]
    rfl

theorem run_ask (answers : PointerAnswers) (pointer : Value) (t : Traversal) :
    (ask answers pointer).run t =
      match answers t.asked pointer with
      | .ok target => .ok target (asking t pointer)
      | .error fault => .error fault (asking t pointer) := by
  simp only [ask, EStateM.run_bind, EStateM.run_get]
  cases answers t.asked pointer <;> rfl

theorem run_visit_zero (node : Value) (type : String) (path : Path) (t : Traversal) :
    (visit s 0 node type path).run t = .error .nestingTooDeep t := rfl

theorem run_visitNode_of_seen {node : Value} {type : String} {path : Path} {t : Traversal}
    (h : Seen t node type) : (visitNode s below node type path).run t = .ok () t := by
  simp [visitNode_eq, run_mark_of_seen h]

theorem run_visitNode {node : Value} {type : String} {path : Path} {t : Traversal}
    (h : ¬ Seen t node type) :
    (visitNode s below node type path).run t =
      (performAll s below (nodeActions s.registry node type path)).run (marked t node type) := by
  simp [visitNode_eq, run_mark h]

theorem run_visit_of_seen {depth : Nat} {node : Value} {type : String} {path : Path}
    {t : Traversal} (h : Seen t node type) :
    (visit s (depth + 1) node type path).run t = .ok () t :=
  run_visitNode_of_seen s _ h

theorem run_visit {depth : Nat} {node : Value} {type : String} {path : Path} {t : Traversal}
    (h : ¬ Seen t node type) :
    (visit s (depth + 1) node type path).run t =
      (performAll s (visit s depth) (nodeActions s.registry node type path)).run
        (marked t node type) :=
  run_visitNode s _ h

theorem run_follow (direct : Bool) (pointer : Value) (type : String) (path : Path)
    (t : Traversal) :
    (follow s below direct pointer type path).run t =
      match s.answers with
      | none => .ok () t
      | some answers =>
        match answers t.asked pointer with
        | .ok target =>
          (performAll s below (targetActions direct pointer type path target)).run
            (asking t pointer)
        | .error fault => .error fault (asking t pointer) := by
  rw [follow_eq]
  cases s.answers with
  | none => rfl
  | some answers =>
    simp only [EStateM.run_bind, run_ask]
    cases answers t.asked pointer <;> rfl

theorem run_performAll_cons_eq_ok {a : Action} {as : List Action} {t t' : Traversal} :
    (performAll s below (a :: as)).run t = .ok () t' ↔
      ∃ t₁, (a.perform s below).run t = .ok () t₁ ∧ (performAll s below as).run t₁ = .ok () t' := by
  rw [performAll_cons, EStateM.run_bind]
  cases (a.perform s below).run t <;> simp

theorem run_performAll_naming_eq_ok {v : Value} {found : Violation} {t t' : Traversal} :
    (performAll s below [naming v found]).run t = .ok () t' ↔
      v.isWritable ∧ { t with violations := t.violations ++ [found] } = t' := by
  rw [performAll_naming, run_reportNaming]
  split <;> simp [*]

theorem run_performAll_cons_eq_error {a : Action} {as : List Action} {fault : Fault}
    {t t' : Traversal} :
    (performAll s below (a :: as)).run t = .error fault t' ↔
      (a.perform s below).run t = .error fault t' ∨
        ∃ t₁, (a.perform s below).run t = .ok () t₁ ∧
          (performAll s below as).run t₁ = .error fault t' := by
  rw [performAll_cons, EStateM.run_bind]
  cases (a.perform s below).run t <;> simp

end Running

end Walk

end ShapeLint
