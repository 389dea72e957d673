import Mathlib.Data.Finset.Prod
import ShapeLint.Proofs.Registry.References
import ShapeLint.Proofs.Walk.Causes
import ShapeLint.Proofs.Walk.Definedness
import ShapeLint.Proofs.Walk.Questions

/-! Walks end. A visit marks its container as its type before it leads on, so with finitely many
containers and types to come to, visits are nested only so deep, however pointers run in circles.
Main statement: `visit_terminates`. -/
namespace ShapeLint

/-- The type that a rule reads a child as, or the target of a pointer that stands there. -/
def FixedRule.next? : FixedRule → Option String
  | reference type => some type
  | leaf l => nonempty? l.resolveAs
  | unsupported _ => none

def Rule.next? : Rule → Option String
  | fixed rule => rule.next?
  | _ => none

def Ruling.next? : Ruling → Option String
  | reference type => some type
  | leaf l => nonempty? l.resolveAs
  | _ => none

theorem Ruling.next?_ofFixed (rule : FixedRule) : (ofFixed rule).next? = rule.next? := by
  cases rule <;> rfl

/-- The functions that pick rules pick types among these names only. -/
def Registry.PicksFrom (r : Registry) (names : Finset String) : Prop :=
  ∀ definition ∈ r.definitions, ∀ f, Rule.computed f ∈ definition.descriptor.rules →
    ∀ v key rule, f.pick v key = .ok (some rule) → ∀ type, rule.next? = some type → type ∈ names

/-- The types that rules which are no functions lead to. -/
def Registry.fixedTypes (r : Registry) : List String :=
  r.definitions.flatMap fun definition => definition.descriptor.rules.filterMap Rule.next?

/-- A registry whose functions pick from finitely many types leads to finitely many types. -/
theorem Registry.PicksFrom.next? {r : Registry} {names : Finset String} (h : r.PicksFrom names)
    {type target : String} {d : Descriptor} (hd : r.lookup type = .ok d) {key v : Value}
    {ruling : Ruling} (hruling : d.ruling key v = .ok ruling) (hnext : ruling.next? = some target) :
    target ∈ names ∪ r.fixedTypes.toFinset := by
  obtain ⟨definition, hdefinition, rfl⟩ := mem_of_lookup hd
  rw [Finset.mem_union, List.mem_toFinset]
  rcases definition.descriptor.ruling_cases key with hall | hall | ⟨rule, hrule, hall⟩
  · obtain rfl := Except.ok.inj ((hall v).symm.trans hruling)
    contradiction
  · obtain rfl := Except.ok.inj ((hall v).symm.trans hruling)
    contradiction
  · rw [hall] at hruling
    cases rule with
    | anything =>
      obtain rfl := Except.ok.inj hruling
      contradiction
    | fixed rule =>
      obtain rfl := Except.ok.inj hruling
      rw [Ruling.next?_ofFixed] at hnext
      exact .inr (List.mem_flatMap.mpr ⟨definition, hdefinition,
        List.mem_filterMap.mpr ⟨_, hrule, hnext⟩⟩)
    | computed f =>
      left
      unfold Ruling.ofRule at hruling
      cases hpick : f.pick v key with
      | error fault =>
        simp only [hpick] at hruling
        split at hruling
        · obtain rfl := Except.ok.inj hruling
          contradiction
        · contradiction
      | ok picked =>
        cases picked with
        | none =>
          simp only [hpick] at hruling
          obtain rfl := Except.ok.inj hruling
          contradiction
        | some rule =>
          simp only [hpick] at hruling
          obtain rfl := Except.ok.inj hruling
          rw [Ruling.next?_ofFixed] at hnext
          exact h definition hdefinition f hrule v key rule hpick target hnext

namespace Walk

/-- Values that stand in one of the roots. -/
def Within (roots : List Value) (v : Value) : Prop := ∃ root ∈ roots, ∃ path, root.Leads path v

/-- Every answer to a pointer is null or stands in one of the objects. -/
def AnswersFrom (s : Surroundings) (objects : List Value) : Prop :=
  ∀ {answers}, s.answers = some answers → ∀ {asked pointer v}, answers asked pointer = .ok v →
    v = .null ∨ Within objects v

/-- Visits that are nested a number of times above others. -/
def visitAbove (s : Surroundings) (below : Visit) : Nat → Visit
  | 0 => below
  | depth + 1 => visitNode s (visitAbove s below depth)

/-- Where a walk can go: to values inside the roots, as one of the types. -/
structure Territory (s : Surroundings) (roots : List Value) (types : Finset String) : Prop where
  ruling : ∀ {type d}, s.registry.lookup type = .ok d → ∀ {key v ruling target},
    d.ruling key v = .ok ruling → ruling.next? = some target → target ∈ types
  answers : AnswersFrom s roots

def Action.Stays (roots : List Value) (types : Finset String) : Action → Prop
  | .visit v type _ => Within roots v ∧ type ∈ types
  | .follow _ _ type _ => type ∈ types
  | _ => True

section Nesting

variable {s : Surroundings} {roots : List Value} {types : Finset String}

theorem Within.member {node v : Value} (h : Within roots node) {step : Step}
    (hv : (step, v) ∈ node.members) : Within roots v := by
  obtain ⟨root, hroot, path, hnode⟩ := h
  exact ⟨root, hroot, path ++ [step], hnode.append (.of_member hv)⟩

/-- A visit does not leave the territory. -/
theorem Territory.stays (h : Territory s roots types) {node : Value} {type : String} {path : Path}
    (hnode : Within roots node) (htype : type ∈ types) {a : Action}
    (ha : a ∈ nodeActions s.registry node type path) : a.Stays roots types := by
  cases does_of_mem ha with
  | log records => trivial
  | fail fault => trivial
  | report cause => trivial
  | standIn stands => exact htype
  | visit child ruled =>
    exact ⟨hnode.member child.member, h.ruling child.defined (rulingAt_eq_ok.mp ruled).2 rfl⟩
  | direct child ruled accepted direct =>
    exact h.ruling child.defined (rulingAt_eq_ok.mp ruled).2 direct

theorem stays_naming (v : Value) (found : Violation) : (naming v found).Stays roots types := by
  unfold naming
  split <;> trivial

theorem stays_target {direct : Bool} {pointer v : Value} {type : String} {path : Path}
    (hv : v = .null ∨ Within roots v) (htype : type ∈ types) {a : Action}
    (ha : a ∈ targetActions direct pointer type path v) : a.Stays roots types := by
  rcases hv with rfl | hv
  · obtain rfl := List.mem_singleton.mp ha
    exact stays_naming _ _
  · unfold targetActions at ha
    split at ha
    · obtain rfl := List.mem_singleton.mp ha
      exact stays_naming _ _
    · split at ha
      · obtain rfl := List.mem_singleton.mp ha
        exact stays_naming _ _
      · simp only [List.mem_cons, List.not_mem_nil, or_false] at ha
        rcases ha with rfl | rfl
        · trivial
        · exact ⟨hv, htype⟩

/-- Only containers lead on. -/
theorem perform_of_not_container {node : Value} (h : node.isContainer = false) {type : String}
    {path : Path} {a : Action} (ha : a ∈ nodeActions s.registry node type path)
    (below below' : Visit) : a.perform s below = a.perform s below' := by
  cases does_of_mem ha with
  | log records => rfl
  | fail fault => rfl
  | report cause => rfl
  | standIn stands =>
    cases node <;> simp_all [pointerOf?, Value.isContainer, Value.identity?]
  | visit child ruled => simp [child.container] at h
  | direct child ruled accepted direct => simp [child.container] at h

theorem performAll_congr {below below' : Visit} {actions : List Action}
    (h : ∀ a ∈ actions, a.perform s below = a.perform s below') :
    performAll s below actions = performAll s below' actions := by
  induction actions with
  | nil => rfl
  | cons a actions ih =>
    rw [performAll_cons, performAll_cons, h a List.mem_cons_self,
      ih fun b hb => h b (List.mem_cons_of_mem a hb)]

/-- How many of the pairs a walk has not marked yet. -/
def pending (pairs : Finset (Nat × String)) (t : Traversal) : Nat :=
  (pairs \ t.visited.toFinset).card

variable {pairs : Finset (Nat × String)} {t u : Traversal}

theorem pending_anti (h : t.visited ⊆ u.visited) : pending pairs u ≤ pending pairs t := by
  refine Finset.card_le_card (Finset.sdiff_subset_sdiff (Finset.Subset.refl pairs) fun m hm => ?_)
  exact List.mem_toFinset.mpr (h (List.mem_toFinset.mp hm))

theorem pending_marked {node : Value} {type : String} {identity : Nat}
    (hi : node.identity? = some identity) (hpair : (identity, type) ∈ pairs)
    (fresh : ¬ Seen t node type) : pending pairs (marked t node type) < pending pairs t := by
  apply Finset.card_lt_card
  refine Finset.ssubset_iff_subset_ne.mpr ⟨fun m hm => ?_, fun heq => ?_⟩
  · obtain ⟨hm, hnew⟩ := Finset.mem_sdiff.mp hm
    refine Finset.mem_sdiff.mpr ⟨hm, fun hold => hnew (List.mem_toFinset.mpr ?_)⟩
    exact List.mem_append_left _ (List.mem_toFinset.mp hold)
  · have hmem : (identity, type) ∈ pairs \ t.visited.toFinset :=
      Finset.mem_sdiff.mpr ⟨hpair, fun hold => fresh ⟨identity, hi, List.mem_toFinset.mp hold⟩⟩
    rw [← heq] at hmem
    exact (Finset.mem_sdiff.mp hmem).2 (by simp [marked, hi])

variable {depth : Nat} {below : Visit}

/-- Visits that do the same as visits of the given depth, as long as there is little to mark. -/
def Agrees (s : Surroundings) (roots : List Value) (types : Finset String)
    (pairs : Finset (Nat × String)) (depth : Nat) (below : Visit) : Prop :=
  ∀ {node type path t}, Within roots node → type ∈ types → pending pairs t < depth →
    (below node type path).run t = (visit s depth node type path).run t

theorem run_performAll_congr {actions : List Action}
    (h : ∀ a ∈ actions, ∀ t, pending pairs t < depth →
      (a.perform s below).run t = (a.perform s (visit s depth)).run t)
    (ht : pending pairs t < depth) :
    (performAll s below actions).run t = (performAll s (visit s depth) actions).run t := by
  induction actions generalizing t with
  | nil => rfl
  | cons a actions ih =>
    have hvisited := visited_perform s depth t a
    rw [performAll_cons, performAll_cons, EStateM.run_bind, EStateM.run_bind,
      h a List.mem_cons_self t ht]
    unfold left at hvisited
    cases hrun : (a.perform s (visit s depth)).run t with
    | error fault u => rfl
    | ok _ u =>
      rw [hrun] at hvisited
      exact ih (fun b hb => h b (List.mem_cons_of_mem a hb))
        (Nat.lt_of_le_of_lt (pending_anti hvisited) ht)

theorem run_perform_congr (hs : Territory s roots types)
    (hbelow : Agrees s roots types pairs depth below) {a : Action} (ha : a.Stays roots types)
    (ht : pending pairs t < depth) :
    (a.perform s below).run t = (a.perform s (visit s depth)).run t := by
  cases a with
  | log records => rfl
  | report found => rfl
  | fail fault => rfl
  | visit v type path => exact hbelow ha.1 ha.2 ht
  | follow direct pointer type path =>
    simp only [Action.perform, run_follow]
    cases hanswers : s.answers with
    | none => rfl
    | some answers =>
      dsimp only
      cases hanswer : answers t.asked pointer with
      | error fault => rfl
      | ok v =>
        dsimp only
        have hasking : pending pairs (asking t pointer) < depth := ht
        apply run_performAll_congr _ hasking
        intro b hb t ht
        cases b with
        | visit w type' path' =>
          have hstays := stays_target (hs.answers hanswers hanswer) ha hb
          exact hbelow hstays.1 hstays.2 ht
        | follow => exact absurd rfl (ne_follow_of_mem_targetActions hb _ _ _ _)
        | _ => rfl

/-- Visits that are nested more often than there are pairs to mark never come to what is below. -/
theorem run_visitAbove (hs : Territory s roots types)
    (hpairs : ∀ {v type identity}, Within roots v → type ∈ types → v.identity? = some identity →
      (identity, type) ∈ pairs) (below : Visit) (depth : Nat) :
    Agrees s roots types pairs depth (visitAbove s below depth) := by
  induction depth with
  | zero => exact fun _ _ h => absurd h (Nat.not_lt_zero _)
  | succ depth ih =>
    intro node type path t hnode htype ht
    rw [visitAbove, visit_succ, visitNode_eq, visitNode_eq, EStateM.run_bind, EStateM.run_bind]
    by_cases hseen : Seen t node type
    · rw [run_mark_of_seen hseen]
      rfl
    · rw [run_mark hseen]
      dsimp only
      rw [if_pos rfl, if_pos rfl]
      by_cases container : node.isContainer
      · obtain ⟨identity, hi⟩ := Value.isContainer_iff.mp container
        have hless := pending_marked hi (hpairs hnode htype hi) hseen
        have hless' : pending pairs (marked t node type) < depth := by omega
        apply run_performAll_congr _ hless'
        intro a ha t ht
        exact run_perform_congr hs ih (hs.stays hnode htype ha) ht
      · have leaf : node.isContainer = false := by simpa using container
        rw [performAll_congr fun a ha => perform_of_not_container leaf ha _ _]

end Nesting

/-- A walk ends wherever its pointers lead: if the functions of the registry pick from finitely
many types and all answers stand in finitely many objects, there is a depth which visits do not
come below. At every depth each mapping asks for its `$ref` at most once per type. -/
theorem visit_terminates {s : Surroundings} {names : Finset String} {objects : List Value}
    (picks : s.registry.PicksFrom names) (answered : AnswersFrom s objects) (root : Value)
    (start : String) (path : Path) :
    (∃ depth, ∀ below : Visit, (visitAbove s below depth root start path).run {} =
      (visit s depth root start path).run {}) ∧
    ∀ depth, let asked := questions s depth root start path {}
      (left (visit s depth root start path) {}).asked = asked.map Question.pointer ∧
      (∀ q ∈ asked, ∀ pointer, pointerOf? q.node = some pointer → q.pointer = .text pointer) ∧
      (asked.filterMap Question.mark?).Nodup := by
  constructor
  · let types : Finset String := insert start (names ∪ s.registry.fixedTypes.toFinset)
    have hs : Territory s (root :: objects) types := by
      constructor
      · intro type d hd key v ruling target hruling hnext
        exact Finset.mem_insert_of_mem (picks.next? hd hruling hnext)
      · intro answers hanswers asked pointer v hv
        refine (answered hanswers hv).imp_right ?_
        rintro ⟨object, hobject, inside⟩
        exact ⟨object, List.mem_cons_of_mem root hobject, inside⟩
    have hfinite : (⋃ object ∈ root :: objects,
        {identity | 0 < Value.occurrences identity object}).Finite :=
      (List.finite_toSet _).biUnion fun object _ => object.finite_occurrences
    have hpairs : ∀ {v type identity}, Within (root :: objects) v → type ∈ types →
        v.identity? = some identity → (identity, type) ∈ hfinite.toFinset ×ˢ types := by
      rintro v type identity ⟨object, hobject, inside, hleads⟩ htype hi
      refine Finset.mem_product.mpr ⟨?_, htype⟩
      rw [Set.Finite.mem_toFinset]
      exact Set.mem_biUnion hobject
        (Nat.lt_of_lt_of_le (Value.occurrences_pos hi) hleads.occurrences_le)
    refine ⟨pending (hfinite.toFinset ×ˢ types) {} + 1, fun below => ?_⟩
    exact run_visitAbove hs hpairs below _ ⟨root, List.mem_cons_self, [], .here root⟩
      (Finset.mem_insert_self _ _) (Nat.lt_succ_self _)
  · intro depth
    have htraces := visit_traces s depth root start path {}
    exact ⟨by simpa using htraces.asked, htraces.own, htraces.nodup⟩

theorem picksFrom_trees : trees.PicksFrom {"Tree"} := by
  intro definition hdefinition f hf v key rule hpick type hnext
  obtain rfl : definition = _ := List.mem_singleton.mp hdefinition
  obtain rfl : f = memberResolver := by
    simpa [Descriptor.rules, Descriptor.properties, RuleTable.entries] using hf
  obtain rfl : rule = .reference "Tree" := by
    cases v <;> simp_all [memberResolver]
  obtain rfl : "Tree" = type := Option.some.inj hnext
  exact Finset.mem_singleton_self _

/-- A tree whose pointer leads back to itself asks for it once. -/
theorem visit_terminates_loopedTree :
    let s : Surroundings := { registry := trees, answers := some fun _ _ => .ok loopedTree }
    s.registry.PicksFrom {"Tree"} ∧ AnswersFrom s [loopedTree] ∧
      (∃ depth, ∀ below : Visit, (visitAbove s below depth loopedTree "Tree" []).run {} =
        (visit s depth loopedTree "Tree" []).run {}) ∧
      ∀ depth, let asked := questions s depth loopedTree "Tree" [] {}
        (left (visit s depth loopedTree "Tree" []) {}).asked = asked.map Question.pointer ∧
        (∀ q ∈ asked, ∀ pointer, pointerOf? q.node = some pointer → q.pointer = .text pointer) ∧
        (asked.filterMap Question.mark?).Nodup := by
  have answered : AnswersFrom
      { registry := trees, answers := some fun _ _ => .ok loopedTree } [loopedTree] := by
    rintro answers ⟨⟩ asked pointer v ⟨⟩
    exact .inr ⟨loopedTree, List.mem_singleton_self _, [], .here loopedTree⟩
  exact ⟨picksFrom_trees, answered, visit_terminates picksFrom_trees answered loopedTree "Tree" []⟩

end Walk

end ShapeLint
