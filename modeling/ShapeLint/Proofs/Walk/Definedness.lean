import ShapeLint.Proofs.Descriptor.Faults
import ShapeLint.Proofs.Registry.References
import ShapeLint.Proofs.Walk.Causes

/-! Faults of walks. A walk fails only as the visits of single nodes do, so a registry whose rules
lead from defined types to defined types only is never asked for an undefined one. -/
namespace ShapeLint

/-- Faults that answers to pointers are confined to. -/
def Surroundings.AnswersWithin (s : Surroundings) (allowed : Fault → Prop) : Prop :=
  ∀ answers ∈ s.answers, ∀ asked pointer fault,
    answers asked pointer = .error fault → allowed fault

/-- Every number in an answer to a pointer can be written. -/
def Surroundings.AnswersWritable (s : Surroundings) : Prop :=
  ∀ answers ∈ s.answers, ∀ asked pointer target,
    answers asked pointer = .ok target → target.isWritable

/-- A fault that is allowed, or one of writing a number where not all numbers can be written. -/
def Fault.Excused (allowed : Fault → Prop) (writable : Prop) (fault : Fault) : Prop :=
  allowed fault ∨ fault = .unwritable ∧ ¬ writable

theorem Fault.Excused.mono {allowed : Fault → Prop} {writable writable' : Prop} {fault : Fault}
    (h : fault.Excused allowed writable) (himp : writable' → writable) :
    fault.Excused allowed writable' :=
  h.imp_right (And.imp_right (mt himp))

namespace Descriptor

/-- From nodes of this shape a walk comes to defined types only, and it fails there only in
allowed ways, unless a number cannot be written. -/
structure Confined (defined : String → Prop) (allowed : Fault → Prop) (d : Descriptor) : Prop where
  keys : ∀ {node path fault}, (d.checkNode node path).outcome = .error fault →
    fault.Excused allowed node.isWritable
  rule : ∀ {key v fault}, d.ruling key v = .error fault → allowed fault
  targets : ∀ {key v ruling}, d.ruling key v = .ok ruling → ∀ type ∈ ruling.targets, defined type
  leaf : ∀ {key v leaf}, d.ruling key v = .ok (.leaf leaf) → ∀ {path fault},
    leaf.check v path d.name = .error fault → fault.Excused allowed v.isWritable

end Descriptor

namespace Walk

/-- An action that stays with defined types and allowed faults, whatever pointers lead to, and with
numbers that can be written if all can. -/
def Action.Confined (defined : String → Prop) (allowed : Fault → Prop) (writable : Prop) :
    Action → Prop
  | .log _ | .report _ => True
  | .fail fault => fault.Excused allowed writable
  | .visit v type _ | .follow _ v type _ => defined type ∧ (writable → v.isWritable)

section Confinement

variable {s : Surroundings} {defined : String → Prop} {allowed : Fault → Prop} {writable : Prop}

theorem confined_childActions {d : Descriptor} (hd : d.Confined defined allowed) {path : Path}
    {step : Step} {v : Value} (take : writable → step.take = .ok ())
    (hv : writable → v.isWritable) :
    ∀ a ∈ childActions d path step v, a.Confined defined allowed writable := by
  unfold childActions
  cases h : rulingAt d step v with
  | error fault =>
    suffices fault.Excused allowed writable by simpa [Action.Confined] using this
    rcases rulingAt_error h with htake | h
    · exact .inr ⟨Leaf.take_error htake, fun hw => by simp [take hw] at htake⟩
    · exact .inl (hd.rule h)
  | ok ruling =>
    obtain ⟨-, h⟩ := rulingAt_eq_ok.mp h
    have htargets := hd.targets h
    cases ruling with
    | reference type =>
      have hdefined := htargets type (by simp [Ruling.targets])
      simpa [rulingActions, Action.Confined, hdefined] using hv
    | leaf leaf =>
      simp only [rulingActions, leafActions]
      cases hcheck : leaf.check v (path ++ [step]) d.name with
      | error fault => simpa [Action.Confined] using (hd.leaf h hcheck).mono hv
      | ok found =>
        cases hdirect : nonempty? leaf.resolveAs with
        | none => simp [Action.Confined]
        | some type =>
          have hdefined := htargets type (Leaf.mem_targets.mpr (.inl hdirect))
          cases found with
          | nil => simpa [Action.Confined, hdefined] using hv
          | cons => simp [Action.Confined]
    | rejected => simp [rulingActions, Action.Confined]
    | unvalidated why => simp [rulingActions, Action.Confined]
    | extension => simp [rulingActions, Action.Confined]

theorem confined_nodeActions {r : Registry} (hdefined : ∀ type, defined type → r.contains type)
    (hconfined : ∀ type d, r.lookup type = .ok d → d.Confined defined allowed) {node : Value}
    {type : String} {path : Path} (htype : defined type) (hnode : writable → node.isWritable) :
    ∀ a ∈ nodeActions r node type path, a.Confined defined allowed writable := by
  obtain ⟨d, hd⟩ := r.exists_lookup (hdefined type htype)
  unfold nodeActions
  cases pointerOf? node with
  | some pointer => simp [Action.Confined, htype, Value.isWritable, Scalar.isWritable]
  | none =>
    simp only [hd, shapeActions]
    cases shape : members? d node with
    | none => simp [Action.Confined]
    | some members =>
      intro a ha
      rcases List.mem_append.mp ha with ha | ha
      · cases h : (d.checkNode node path).outcome with
        | ok found =>
          simp only [checkActions, h, List.mem_cons, List.not_mem_nil, or_false] at ha
          rcases ha with rfl | rfl <;> trivial
        | error fault =>
          simp only [checkActions, h, List.mem_cons, List.not_mem_nil, or_false] at ha
          rcases ha with rfl | rfl
          · trivial
          · exact ((hconfined type d hd).keys h).mono hnode
      · obtain rfl := members?_eq shape
        obtain ⟨m, hm, ha⟩ := List.mem_flatMap.mp ha
        exact confined_childActions (hconfined type d hd)
          (fun hw => (Value.isWritable_of_member (hnode hw) hm).1)
          (fun hw => (Value.isWritable_of_member (hnode hw) hm).2) a ha

variable {below : Visit} {t t' : Traversal} {fault : Fault}

/-- Visits that fail by their depth or in allowed ways, unless a number cannot be written. -/
def FailsWithin (s : Surroundings) (defined : String → Prop) (allowed : Fault → Prop)
    (below : Visit) : Prop :=
  ∀ ⦃node : Value⦄ ⦃type : String⦄ ⦃path : Path⦄ ⦃t t' : Traversal⦄ ⦃fault : Fault⦄, defined type →
    (below node type path).run t = .error fault t' →
    fault = .nestingTooDeep ∨ fault.Excused allowed (node.isWritable ∧ s.AnswersWritable)

theorem perform_naming_error {v : Value} {found : Violation}
    (h : ((naming v found).perform s below).run t = .error fault t') :
    fault = .unwritable ∧ ¬ v.isWritable := by
  rw [perform_naming, run_reportNaming] at h
  split at h
  · contradiction
  · rename_i long
    obtain ⟨rfl, -⟩ := by simpa using h
    exact ⟨rfl, long⟩

theorem follow_error (hbelow : FailsWithin s defined allowed below)
    (hanswers : s.AnswersWithin allowed) {direct : Bool} {pointer : Value} {type : String}
    {path : Path} (htype : defined type) (hpointer : writable → pointer.isWritable)
    (hwritable : writable → s.AnswersWritable)
    (h : (follow s below direct pointer type path).run t = .error fault t') :
    fault = .nestingTooDeep ∨ fault.Excused allowed writable := by
  have hnaming {t : Traversal} {found : Violation}
      (h : (performAll s below [naming pointer found]).run t = .error fault t') :
      fault.Excused allowed writable := by
    rw [performAll_cons, performAll_nil] at h
    obtain ⟨rfl, long⟩ := perform_naming_error (by simpa using h)
    exact .inr ⟨rfl, mt hpointer long⟩
  rw [run_follow] at h
  cases hs : s.answers with
  | none => simp [hs] at h
  | some answers =>
    simp only [hs] at h
    cases hanswer : answers t.asked pointer with
    | error fault' =>
      obtain ⟨rfl, -⟩ : fault' = fault ∧ _ := by simpa [hanswer] using h
      exact .inr (.inl (hanswers answers hs _ _ _ hanswer))
    | ok target =>
      simp only [hanswer] at h
      unfold targetActions at h
      split at h
      · exact .inr (hnaming h)
      · split at h
        · exact .inr (hnaming h)
        · rcases (run_performAll_cons_eq_error _ _).mp h with h | ⟨t₁, -, h⟩
          · simp [Action.perform] at h
          · rcases (run_performAll_cons_eq_error _ _).mp h with h | ⟨t₂, -, h⟩
            · exact (hbelow htype h).imp_right fun h => h.mono fun hw =>
                ⟨hwritable hw answers hs _ _ _ hanswer, hwritable hw⟩
            · simp at h

theorem performAll_error (hbelow : FailsWithin s defined allowed below)
    (hanswers : s.AnswersWithin allowed) (hwritable : writable → s.AnswersWritable)
    {actions : List Action} (hactions : ∀ a ∈ actions, a.Confined defined allowed writable)
    (h : (performAll s below actions).run t = .error fault t') :
    fault = .nestingTooDeep ∨ fault.Excused allowed writable := by
  induction actions generalizing t with
  | nil => simp at h
  | cons a actions ih =>
    rcases (run_performAll_cons_eq_error _ _).mp h with h | ⟨t₁, -, h⟩
    · have ha := hactions a List.mem_cons_self
      cases a with
      | log records => simp [Action.perform] at h
      | report found => simp [Action.perform] at h
      | fail fault' =>
        obtain ⟨rfl, -⟩ : fault' = fault ∧ t = t' := by simpa [Action.perform] using h
        exact .inr ha
      | visit v type path =>
        exact (hbelow ha.1 h).imp_right fun h => h.mono fun hw => ⟨ha.2 hw, hwritable hw⟩
      | follow direct pointer type path =>
        exact follow_error hbelow hanswers ha.1 ha.2 hwritable h
    · exact ih (fun b hb => hactions b (List.mem_cons_of_mem a hb)) h

/-- A walk of defined types fails by its depth or in allowed ways, unless a number in the document
or in an answer cannot be written. -/
theorem visit_error (hdefined : ∀ type, defined type → s.registry.contains type)
    (hconfined : ∀ type d, s.registry.lookup type = .ok d → d.Confined defined allowed)
    (hanswers : s.AnswersWithin allowed) (depth : Nat) :
    FailsWithin s defined allowed (visit s depth) := by
  induction depth with
  | zero =>
    intro node type path t t' fault htype h
    obtain ⟨rfl, -⟩ : Fault.nestingTooDeep = fault ∧ t = t' := by
      simpa [run_visit_zero] using h
    exact .inl rfl
  | succ depth ih =>
    intro node type path t t' fault htype h
    by_cases hseen : Seen t node type
    · simp [run_visit_of_seen _ hseen] at h
    · rw [run_visit _ hseen] at h
      exact performAll_error ih hanswers And.right
        (confined_nodeActions hdefined hconfined htype And.left) h

end Confinement

end Walk

/-- A resolver whose results name defined types only, if it does not fail in a way that is
degraded. -/
def Resolver.NamesDefined (defined : String → Prop) (f : Resolver) : Prop :=
  ∀ v key, match f.pick v key with
    | .ok (some rule) => ∀ target ∈ rule.targets, defined target
    | .ok none => True
    | .error fault => fault.degrades

namespace Registry

/-- The resolvers of all rules name defined types only. -/
def ResolversNameDefined (r : Registry) : Prop :=
  ∀ definition ∈ r.definitions, ∀ f, Rule.computed f ∈ definition.descriptor.rules →
    f.NamesDefined fun type => r.contains type

variable {r : Registry}

theorem ofRule_defined (valid : r.validate = .ok ()) (resolvers : r.ResolversNameDefined)
    {definition : Definition} (hdefinition : definition ∈ r.definitions) {rule : Rule}
    (hrule : rule ∈ definition.descriptor.rules) (key v : Value) :
    ∃ ruling, Ruling.ofRule rule key v = .ok ruling ∧ ∀ type ∈ ruling.targets, r.contains type := by
  have hstatic := validate_eq_ok_iff.mp valid definition hdefinition rule hrule
  cases rule with
  | anything => exact ⟨_, rfl, by simp [Ruling.targets]⟩
  | fixed rule => exact ⟨_, rfl, by rwa [Ruling.targets_ofFixed]⟩
  | computed f =>
    have hf := resolvers definition hdefinition f hrule v key
    cases hpick : f.pick v key with
    | error fault =>
      simp only [hpick] at hf
      exact ⟨.unvalidated (.resolverFailed fault), by simp [Ruling.ofRule, hpick, hf],
        by simp [Ruling.targets]⟩
    | ok picked =>
      cases picked with
      | none =>
        exact ⟨.rejected, by simp [Ruling.ofRule, hpick], by simp [Ruling.targets]⟩
      | some rule =>
        simp only [hpick] at hf
        exact ⟨.ofFixed rule, by simp [Ruling.ofRule, hpick], by rwa [Ruling.targets_ofFixed]⟩

/-- In a registry that passes its self-check no ruling fails or leads to an undefined type. -/
theorem ruling_defined (valid : r.validate = .ok ()) (resolvers : r.ResolversNameDefined)
    {definition : Definition} (hdefinition : definition ∈ r.definitions) (key v : Value) :
    ∃ ruling, definition.descriptor.ruling key v = .ok ruling ∧
      ∀ type ∈ ruling.targets, r.contains type := by
  rcases definition.descriptor.ruling_cases key with h | h | ⟨rule, hrule, h⟩
  · exact ⟨_, h v, by simp [Ruling.targets]⟩
  · exact ⟨_, h v, by simp [Ruling.targets]⟩
  · rw [h]
    exact ofRule_defined valid resolvers hdefinition hrule key v

theorem confined_of_validate (valid : r.validate = .ok ()) (resolvers : r.ResolversNameDefined)
    {type : String} {d : Descriptor} (hd : r.lookup type = .ok d) :
    d.Confined (fun type => r.contains type) fun fault => fault.isUndefinedType = false := by
  obtain ⟨definition, hdefinition, rfl⟩ := mem_of_lookup hd
  have hruling := ruling_defined valid resolvers hdefinition
  constructor
  · exact fun h => .inl (Descriptor.checkNode_error h)
  · intro key v fault h
    obtain ⟨ruling, hok, -⟩ := hruling key v
    rw [hok] at h
    contradiction
  · intro key v ruling h
    obtain ⟨ruling', hok, htargets⟩ := hruling key v
    obtain rfl : ruling' = ruling := by simpa [hok] using h
    exact htargets
  · intro key v leaf h path fault hfault
    cases Leaf.check_error hfault <;> exact .inl rfl

end Registry

namespace Walk

/-- A registry that passes its self-check and whose resolvers name defined types only is never
asked for an undefined type by a walk that starts from a defined one. -/
theorem visit_ne_undefinedType {s : Surroundings} (valid : s.registry.validate = .ok ())
    (resolvers : s.registry.ResolversNameDefined)
    (answers : s.AnswersWithin fun fault => fault.isUndefinedType = false) {start : String}
    (defined : s.registry.contains start) (depth : Nat) (node : Value) (path : Path)
    (t : Traversal) (name dialect : String) (t' : Traversal) :
    (visit s depth node start path).run t ≠ .error (.undefinedType name dialect) t' := by
  intro h
  have hconfined := fun type d (hd : s.registry.lookup type = .ok d) =>
    Registry.confined_of_validate valid resolvers hd
  rcases visit_error (fun _ h => h) hconfined answers depth defined h with h | h | ⟨h, -⟩
  all_goals contradiction

/-- A resolver that fails on scalars. -/
def memberResolver : Resolver :=
  { name := "member"
    id := .given 0
    pick := fun v _ => match v with
      | .scalar _ => .error (.failed .wrongType "no members")
      | _ => .ok (some (.reference "Tree")) }

/-- Trees, whose children are trees or anything else. -/
def trees : Registry :=
  { dialect := "trees"
    definitions := [⟨"Tree", { name := "Tree", additional := some (.computed memberResolver) },
      "Tree"⟩] }

theorem resolversNameDefined_trees : trees.ResolversNameDefined := by
  intro definition hdefinition f hf v key
  obtain rfl : definition = _ := List.mem_singleton.mp hdefinition
  obtain rfl : f = memberResolver := by
    simpa [Descriptor.rules, Descriptor.properties, RuleTable.entries] using hf
  cases v <;> simp [memberResolver, Fault.degrades, Failure.degrades, FixedRule.targets] <;> rfl

/-- A tree with a leaf of another kind and a pointer back to itself. -/
def loopedTree : Value :=
  .mapping 0 [(.text "leaf", .int 1), (.text "child", .mapping 1 [(.text "$ref", .text "#")])]

theorem visit_ne_undefinedType_trees :
    trees.validate = .ok () ∧ trees.ResolversNameDefined ∧ trees.contains "Tree" ∧
      ∀ name dialect t',
        (visit { registry := trees, answers := some fun _ _ => .ok loopedTree } 4 loopedTree "Tree"
          []).run {} ≠ .error (.undefinedType name dialect) t' :=
  ⟨rfl, resolversNameDefined_trees, rfl,
    visit_ne_undefinedType (s := { registry := trees, answers := some fun _ _ => .ok loopedTree })
      rfl resolversNameDefined_trees (fun _ h _ _ _ hanswer => by cases h; contradiction) rfl 4
      loopedTree [] {}⟩

end Walk

end ShapeLint
