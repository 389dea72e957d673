import Mathlib.Data.List.Nodup
import Mathlib.Tactic.Choose
import ShapeLint.Proofs.Document.Graph
import ShapeLint.Proofs.Walk.Findings

/-!
What a walk does. A walk that ends has dealt with every reachable container and type once and with
no other, and it has reported what is wrong with them. Containers are opened when they are visited,
so they may stand inside themselves. Main statement: `visit_reachable`.
-/
namespace ShapeLint

namespace Walk

/-- A container that a walk dealt with: as which type and at which path. -/
structure Entry where
  node : Value
  type : String
  path : Path

/-- The mark that a visit of a container as a type leaves. -/
def markOf? (v : Value) (type : String) : Option (Nat × String) :=
  v.identity?.map fun identity => (identity, type)

theorem markOf?_eq_some {v : Value} {type : String} {identity : Nat} {type' : String} :
    markOf? v type = some (identity, type') ↔ v.identity? = some identity ∧ type = type' := by
  simp only [markOf?, Option.map_eq_some_iff, Prod.mk.injEq]
  constructor
  · rintro ⟨_, h, rfl, rfl⟩
    exact ⟨h, rfl⟩
  · rintro ⟨h, rfl⟩
    exact ⟨identity, h, rfl, rfl⟩

section Exploration

/-- What a walk can come to if containers are opened when they are visited. A container has its own
identity when it is open, and is opened alike from wherever it is come to. -/
structure Terrain where
  registry : Registry
  resolve : Option (Value → Value)
  opened : Value → Value
  Reaches : Value → String → Prop
  identity?_opened (v : Value) : (opened v).identity? = v.identity?
  opened_of_not_container {v : Value} (other : v.identity? = none) : opened v = v
  next {node v : Value} {type type' : String} (reached : Reaches node type)
    (step : Next registry resolve (opened node) type v type') : Reaches v type'
  coherent {a b : Value} {type type' : String} (left : Reaches a type) (right : Reaches b type')
    (same : a.identity? = b.identity?) : opened a = opened b

/-- The surroundings of a walk with pointers that keep their targets. -/
abbrev steady (r : Registry) (resolve : Option (Value → Value)) : Surroundings :=
  { registry := r, answers := resolve.map PointerAnswers.fixed }

/-- What is wrong with the container that a walk dealt with. -/
def Entry.findings (e : Entry) (T : Terrain) : List Violation :=
  Walk.findings T.registry T.resolve (T.opened e.node) e.type e.path

variable (T : Terrain)

/-- What a part of a walk did: the containers it dealt with, which are come to and all of whose next
containers are marked in the end, and what it reported, of its own or for them. -/
structure Explored (t t' : Traversal) (own : List Violation) (entries : List Entry) : Prop where
  visited : t'.visited = t.visited ++ entries.filterMap fun e => markOf? e.node e.type
  nodup : t.visited.Nodup → t'.visited.Nodup
  violations : t'.violations.Perm
    (t.violations ++ (own ++ entries.flatMap fun e => e.findings T))
  container : ∀ e ∈ entries, e.node.isContainer
  reached : ∀ e ∈ entries, T.Reaches e.node e.type
  closed : ∀ e ∈ entries, ∀ v type,
    Next T.registry T.resolve (T.opened e.node) e.type v type → Seen t' v type

variable {T} {t t₁ t₂ t' : Traversal} {own own₁ own₂ : List Violation}
  {entries entries₁ entries₂ : List Entry}

theorem Explored.seen {v : Value} {type : String}
    (h : Explored T t t' own entries) (hv : Seen t v type) :
    Seen t' v type := by
  obtain ⟨identity, hi, hm⟩ := hv
  exact ⟨identity, hi, by rw [h.visited]; exact List.mem_append_left _ hm⟩

theorem Explored.refl (t : Traversal) : Explored T t t [] [] where
  visited := by simp
  nodup := id
  violations := by simp
  container := by simp
  reached := by simp
  closed := by simp

theorem Explored.trans (h₁ : Explored T t t₁ own₁ entries₁)
    (h₂ : Explored T t₁ t₂ own₂ entries₂) :
    Explored T t t₂ (own₁ ++ own₂) (entries₁ ++ entries₂) where
  visited := by rw [h₂.visited, h₁.visited, List.filterMap_append, List.append_assoc]
  nodup := h₂.nodup ∘ h₁.nodup
  violations := by
    refine h₂.violations.trans ((h₁.violations.append_right _).trans ?_)
    rw [List.perm_iff_count]
    intro a
    simp only [List.flatMap_append, List.count_append]
    omega
  container := by
    intro e he
    exact (List.mem_append.mp he).elim (h₁.container e) (h₂.container e)
  reached := by
    intro e he
    exact (List.mem_append.mp he).elim (h₁.reached e) (h₂.reached e)
  closed := by
    intro e he v type hv
    rcases List.mem_append.mp he with he | he
    · exact h₂.seen (h₁.closed e he v type hv)
    · exact h₂.closed e he v type hv

/-- What is reported, logged or asked for leaves the marks alone. -/
theorem Explored.of_same (hvisited : t'.visited = t.visited)
    (hviolations : t'.violations = t.violations ++ own) :
    Explored T t t' own [] where
  visited := by simp [hvisited]
  nodup := hvisited ▸ id
  violations := by simp [hviolations]
  container := by simp
  reached := by simp
  closed := by simp

/-- What is logged or asked for before plays no part. -/
theorem Explored.of_start (h : Explored T t₁ t' own entries)
    (hvisited : t₁.visited = t.visited) (hviolations : t₁.violations = t.violations) :
    Explored T t t' own entries where
  visited := hvisited ▸ h.visited
  nodup := hvisited ▸ h.nodup
  violations := hviolations ▸ h.violations
  container := h.container
  reached := h.reached
  closed := h.closed

/-- Marking a container and doing what its visit does deals with that container too. -/
theorem Explored.of_marked {node : Value} {type : String} {path : Path}
    (fresh : ¬ Seen t node type) (container : node.isContainer) (reached : T.Reaches node type)
    (h : Explored T (marked t node type) t' (Entry.findings ⟨node, type, path⟩ T) entries)
    (next : ∀ v type', Next T.registry T.resolve (T.opened node) type v type' → Seen t' v type') :
    Explored T t t' [] (⟨node, type, path⟩ :: entries) where
  visited := by
    obtain ⟨identity, hi⟩ := Option.isSome_iff_exists.mp container
    rw [h.visited]
    simp [marked, markOf?, hi]
  nodup := by
    intro hnodup
    apply h.nodup
    obtain ⟨identity, hi⟩ := Option.isSome_iff_exists.mp container
    have hfresh : (identity, type) ∉ t.visited := fun hm => fresh ⟨identity, hi, hm⟩
    simp only [marked, hi, Option.map_some, Option.toList_some]
    exact List.nodup_append.mpr ⟨hnodup, by simp, by simp; grind⟩
  violations := by simpa [marked] using h.violations
  container := by simpa [container] using h.container
  reached := by simpa [reached] using h.reached
  closed := by
    intro e he
    rcases List.mem_cons.mp he with rfl | he
    · exact next
    · exact h.closed e he

/-- What the visits below a node are to do. -/
def Explores (T : Terrain) (below : Visit) : Prop :=
  ∀ ⦃node : Value⦄ ⦃type : String⦄ ⦃path : Path⦄ ⦃t t' : Traversal⦄,
    (below node type path).run t = .ok () t' →
    (node.isContainer → T.Reaches node type) →
    ∃ entries, Explored T t t' (scalarFindings T.registry node type path) entries ∧
      (node.isContainer → Seen t' node type)

variable {below : Visit}

theorem explored_target (hbelow : Explores T below) {direct : Bool} {pointer v : Value}
    {type : String} {path : Path}
    (h : (performAll (steady T.registry T.resolve) below
      (targetActions direct pointer type path v)).run t = .ok () t')
    (hreach : v.isContainer → (direct = true → v.isMapping) → T.Reaches v type) :
    ∃ entries, Explored T t t' (targetFindings T.registry direct pointer type path v) entries ∧
      (v.isContainer → (direct = true → v.isMapping) → Seen t' v type) := by
  by_cases hnull : v = .null
  · subst hnull
    obtain ⟨-, rfl⟩ := (run_performAll_naming_eq_ok _ _).mp h
    exact ⟨[], .of_same rfl rfl, by simp [Value.isContainer, Value.identity?]⟩
  · rw [targetActions_of_ne_null hnull] at h
    rw [targetFindings_of_ne_null T.registry hnull]
    by_cases hunfit : (direct && !v.isMapping) = true
    · simp only [hunfit, if_true] at h ⊢
      obtain ⟨-, rfl⟩ := (run_performAll_naming_eq_ok _ _).mp h
      refine ⟨[], .of_same rfl rfl, fun _ fit => ?_⟩
      simp only [Bool.and_eq_true, Bool.not_eq_true'] at hunfit
      simp [fit hunfit.1] at hunfit
    · have fit : direct = true → v.isMapping := by
        intro hdirect
        simpa [hdirect] using hunfit
      simp only [hunfit, Bool.false_eq_true, if_false] at h ⊢
      obtain ⟨t₁, hlog, hvisit⟩ := (run_performAll_cons_eq_ok _ _).mp h
      obtain rfl : _ = t₁ := by simpa [Action.perform] using hlog
      simp only [performAll_cons, performAll_nil, Action.perform, bind_pure_unit] at hvisit
      obtain ⟨entries, hentries, hseen⟩ := hbelow hvisit fun hv => hreach hv fit
      exact ⟨entries, hentries.of_start rfl rfl, fun hv _ => hseen hv⟩

theorem explored_follow (hbelow : Explores T below) {direct : Bool} {pointer : Value}
    {type : String} {path : Path}
    (h : (follow (steady T.registry T.resolve) below direct pointer type path).run t = .ok () t')
    (hreach : ∀ v type', Action.LeadsTo T.resolve (.follow direct pointer type path) v type' →
      T.Reaches v type') :
    ∃ entries, Explored T t t' (pointerFindings T.registry T.resolve direct pointer type path)
        entries ∧
      ∀ v type', Action.LeadsTo T.resolve (.follow direct pointer type path) v type' →
        Seen t' v type' := by
  rw [run_follow] at h
  cases hresolve : T.resolve with
  | none =>
    obtain rfl : t = t' := by simpa [hresolve] using h
    exact ⟨[], .refl t, by rintro v type' ⟨⟩; contradiction⟩
  | some target =>
    simp only [hresolve, Option.map_some, PointerAnswers.fixed] at h
    rw [← hresolve] at h
    obtain ⟨entries, hentries, hseen⟩ := explored_target hbelow h fun container fit =>
      hreach _ _ (.follow hresolve container fit)
    refine ⟨entries, hentries.of_start rfl rfl, ?_⟩
    intro v type' hv
    obtain ⟨rfl, _, ⟨⟩, rfl, container, fit⟩ := leadsTo_follow.mp hv
    exact hseen container fit

theorem explored_perform (hbelow : Explores T below) {a : Action}
    (h : (a.perform (steady T.registry T.resolve) below).run t = .ok () t')
    (hreach : ∀ v type, a.LeadsTo T.resolve v type → T.Reaches v type) :
    ∃ entries, Explored T t t' (a.findings T.registry T.resolve) entries ∧
      ∀ v type, a.LeadsTo T.resolve v type → Seen t' v type := by
  cases a with
  | log records =>
    obtain rfl : _ = t' := by simpa [Action.perform] using h
    exact ⟨[], .of_same rfl (List.append_nil _).symm, by simp⟩
  | report found =>
    obtain rfl : _ = t' := by simpa [Action.perform] using h
    exact ⟨[], .of_same rfl rfl, by simp⟩
  | fail fault => contradiction
  | visit v type path =>
    obtain ⟨entries, hentries, hseen⟩ := hbelow h fun hv => hreach v type (.visit hv)
    refine ⟨entries, hentries, ?_⟩
    intro w type' hw
    obtain ⟨rfl, rfl, container⟩ := leadsTo_visit.mp hw
    exact hseen container
  | follow direct pointer type path => exact explored_follow hbelow h hreach

theorem explored_performAll (hbelow : Explores T below) {actions : List Action}
    (h : (performAll (steady T.registry T.resolve) below actions).run t = .ok () t')
    (hreach : ∀ a ∈ actions, ∀ v type, a.LeadsTo T.resolve v type → T.Reaches v type) :
    ∃ entries, Explored T t t' (actions.flatMap (Action.findings T.registry T.resolve)) entries ∧
      ∀ a ∈ actions, ∀ v type, a.LeadsTo T.resolve v type → Seen t' v type := by
  induction actions generalizing t with
  | nil =>
    obtain rfl : t = t' := by simpa using h
    exact ⟨[], .refl t, by simp⟩
  | cons a actions ih =>
    obtain ⟨t₁, ha, hrest⟩ := (run_performAll_cons_eq_ok _ _).mp h
    obtain ⟨entries₁, h₁, hseen₁⟩ := explored_perform hbelow ha (hreach a List.mem_cons_self)
    obtain ⟨entries₂, h₂, hseen₂⟩ := ih hrest fun b hb => hreach b (List.mem_cons_of_mem a hb)
    refine ⟨entries₁ ++ entries₂, h₁.trans h₂, ?_⟩
    intro b hb v type hv
    rcases List.mem_cons.mp hb with rfl | hb
    · exact h₂.seen (hseen₁ v type hv)
    · exact hseen₂ b hb v type hv

theorem seen_opened {node : Value} {type : String} :
    Seen t (T.opened node) type ↔ Seen t node type := by
  simp only [Seen, T.identity?_opened]

/-- A visit, however deep, deals with what is new below its node. -/
theorem visitOpened_explores (depth : Nat) :
    Explores T (visitOpened T.opened (steady T.registry T.resolve) depth) := by
  induction depth with
  | zero =>
    intro node type path t t' h
    contradiction
  | succ depth ih =>
    intro node type path t t' h hreach
    by_cases hseen : Seen t node type
    · obtain rfl : t = t' := by
        simpa [visitOpened, run_visitNode_of_seen _ _ (seen_opened.mpr hseen)] using h
      have container : node.isContainer := by
        obtain ⟨identity, hi, -⟩ := hseen
        simp [Value.isContainer, hi]
      refine ⟨[], ?_, fun _ => hseen⟩
      simpa [scalarFindings, container] using Explored.refl t
    · rw [visitOpened, run_visitNode _ _ (mt seen_opened.mp hseen)] at h
      have hidentity := T.identity?_opened node
      have hmarks : marked t (T.opened node) type = marked t node type := by
        simp only [marked, hidentity]
      have hnext : ∀ a ∈ nodeActions T.registry (T.opened node) type path, ∀ v type',
          a.LeadsTo T.resolve v type' → T.Reaches v type' := by
        intro a ha v type' hv
        have next : Next T.registry T.resolve (T.opened node) type v type' :=
          (next_iff path).mpr ⟨a, ha, hv⟩
        have container : node.isContainer := by
          simpa only [Value.isContainer, hidentity] using next.container
        exact T.next (hreach container) next
      obtain ⟨entries, hentries, hclosed⟩ := explored_performAll ih h hnext
      rw [hmarks, findings_nodeActions] at hentries
      by_cases container : node.isContainer
      · have hmarked : Seen (marked t node type) node type := by
          obtain ⟨identity, hi⟩ := Option.isSome_iff_exists.mp container
          exact ⟨identity, hi, by simp [marked, hi]⟩
        refine ⟨⟨node, type, path⟩ :: entries, ?_, fun _ => hentries.seen hmarked⟩
        rw [scalarFindings, if_pos container]
        apply Explored.of_marked hseen container (hreach container) hentries
        intro v type' next
        obtain ⟨a, ha, hv⟩ := (next_iff path).mp next
        exact hclosed a ha v type' hv
      · have hi : node.identity? = none := by simpa [Value.isContainer] using container
        refine ⟨entries, ?_, fun h => absurd h container⟩
        rw [T.opened_of_not_container hi,
          findings_of_not_container T.registry T.resolve (by simpa using container)] at hentries
        exact hentries.of_start (by simp [marked, hi]) rfl

/-- What a whole walk did: it marked each container that it dealt with, once as each type, and among
them the containers that follow. -/
structure Toured (T : Terrain) (root : Value) (start : String) (t : Traversal)
    (entries : List Entry) : Prop where
  nodup : t.visited.Nodup
  visited : t.visited = entries.filterMap fun e => markOf? e.node e.type
  container : ∀ e ∈ entries, e.node.isContainer
  reached : ∀ e ∈ entries, T.Reaches e.node e.type
  violations : (t.violations.map Violation.unplaced).Perm
    (entries.flatMap fun e => (Entry.findings { e with path := [] } T).map Violation.unplaced)
  start : Seen t root start
  next : ∀ {node v type type'}, T.Reaches node type → Seen t node type →
    Next T.registry T.resolve (T.opened node) type v type' → Seen t v type'

theorem toured_of_visitOpened {root : Value} {start : String} {depth : Nat} {path : Path}
    (container : root.isContainer) (reached : T.Reaches root start)
    (h : (visitOpened T.opened (steady T.registry T.resolve) depth root start path).run {} =
      .ok () t) :
    ∃ entries, Toured T root start t entries := by
  obtain ⟨entries, hentries, hseen⟩ := visitOpened_explores depth h fun _ => reached
  have hvisited : t.visited = entries.filterMap fun e => markOf? e.node e.type := by
    simpa using hentries.visited
  refine ⟨entries, hentries.nodup List.nodup_nil, hvisited, hentries.container, hentries.reached,
    ?_, hseen container, fun {node v type type'} hnode hm next => ?_⟩
  · have hviolations := hentries.violations.map Violation.unplaced
    have hplace : ∀ e : Entry, (e.findings T).map Violation.unplaced =
        (Entry.findings { e with path := [] } T).map Violation.unplaced :=
      fun e => unplaced_findings T.registry T.resolve _ _ e.path
    simpa [scalarFindings, container, List.map_flatMap, hplace] using hviolations
  · -- By coherence it is this container that left the mark.
    obtain ⟨identity, hi, hm⟩ := hm
    rw [hvisited, List.mem_filterMap] at hm
    obtain ⟨e, he, hmark⟩ := hm
    obtain ⟨hidentity, rfl⟩ := markOf?_eq_some.mp hmark
    have hopened := T.coherent (hentries.reached e he) hnode (hidentity.trans hi.symm)
    exact hentries.closed e he v type' (hopened ▸ next)

end Exploration

end Walk

namespace Graph

open Walk

variable (g : Graph) (levels : Nat) (r : Registry)
  (resolve : Option (Value → Part (Fin g.size)))

/-- The answers to pointers, as they are seen. -/
def answering : Option (Value → Value) :=
  resolve.map fun target pointer => (target pointer).value (g.seen levels)

/-- The containers of a graph, with their types, that can be reached from a start. -/
inductive Reachable (root : Fin g.size) (start : String) : Fin g.size → String → Prop where
  | start : Reachable root start root start
  | next {i j : Fin g.size} {v : Value} {type type' : String}
      (reached : Reachable root start i type)
      (step : Next r (g.answering levels resolve) (g.seen (levels + 1) i) type v type')
      (stands : v.identity? = some ↑j) : Reachable root start j type'

variable {g levels r resolve}

/-- What stands inside a container of a graph is part of the graph. -/
theorem holds_of_member {d : Descriptor} {i : Fin g.size} {members : List (Step × Value)}
    (shape : members? d (g.seen (levels + 1) i) = some members) {m : Step × Value}
    (hm : m ∈ members) : g.Holds m.2 := by
  rw [seen] at shape
  cases hcontents : g.contents i with
  | list parts =>
    simp only [hcontents, members?, Option.ite_none_right_eq_some, Option.some.injEq,
      Part.values_eq_map] at shape
    obtain ⟨-, rfl⟩ := shape
    obtain ⟨⟨v, position⟩, hmem, rfl⟩ := List.mem_map.mp hm
    obtain ⟨part, -, rfl⟩ := List.mem_map.mp (List.fst_mem_of_mem_zipIdx hmem)
    exact holds_value levels part
  | mapping entries =>
    simp only [hcontents, members?, Option.ite_none_left_eq_some, Option.some.injEq] at shape
    obtain ⟨-, rfl⟩ := shape
    obtain ⟨⟨key, v⟩, hmem, rfl⟩ := List.mem_map.mp hm
    obtain ⟨⟨key, part⟩, -, heq⟩ := List.mem_map.mp hmem
    obtain rfl := (Prod.mk.inj heq).2
    exact holds_value levels part

/-- A walk goes on from a container of a graph to another. -/
theorem exists_of_next {i : Fin g.size} {v : Value} {type type' : String}
    (h : Next r (g.answering levels resolve) (g.seen (levels + 1) i) type v type') :
    ∃ j : Fin g.size, v.identity? = some ↑j := by
  have lift {v : Value} (hv : g.Holds v) (container : v.isContainer) :
      ∃ j : Fin g.size, v.identity? = some ↑j := by
    obtain ⟨identity, hi⟩ := Value.isContainer_iff.mp container
    exact ⟨⟨identity, hv identity hi⟩, hi⟩
  have answer {target : Value → Value} (h : g.answering levels resolve = some target)
      (pointer : Value) : g.Holds (target pointer) := by
    obtain ⟨targetPart, -, rfl⟩ := Option.map_eq_some_iff.mp h
    exact holds_value levels _
  cases h with
  | child own defined shape member ruled container =>
    exact lift (holds_of_member shape member) container
  | pointer stands answered container => exact lift (answer answered _) container
  | direct own defined shape member ruled accepted direct answered mapping =>
    exact lift (answer answered _) (Value.isContainer_of_isMapping mapping)

/-- What a walk of a graph can come to. -/
def terrain (g : Graph) (levels : Nat) (r : Registry)
    (resolve : Option (Value → Part (Fin g.size))) (root : Fin g.size) (start : String) :
    Terrain where
  registry := r
  resolve := g.answering levels resolve
  opened := g.opened levels
  Reaches v type := ∃ i : Fin g.size, v.identity? = some ↑i ∧
    g.Reachable levels r resolve root start i type
  identity?_opened := identity?_opened levels
  opened_of_not_container := opened_of_not_container
  next := by
    rintro node v type type' ⟨i, hi, reached⟩ step
    rw [opened_of_identity hi] at step
    obtain ⟨j, hj⟩ := exists_of_next step
    exact ⟨j, hj, reached.next step hj⟩
  coherent := by
    rintro a b type type' ⟨i, hi, -⟩ - same
    rw [opened_of_identity hi, opened_of_identity (same ▸ hi)]

end Graph

namespace Walk

/-- A walk of a graph from a container that ends has dealt with each container and type that can be
reached exactly once, and with nothing else; it has reported what is wrong with them and nothing
else, up to order and places. Containers may stand at several places and inside themselves; rules
see so many levels of them. -/
theorem visit_reachable {g : Graph} {levels depth : Nat} {r : Registry}
    {resolve : Option (Value → Part (Fin g.size))} {root : Fin g.size} {start : String}
    {path : Path} {t : Traversal}
    (h : (visitOpened (g.opened levels) (steady r (g.answering levels resolve)) depth
      (g.seen levels root) start path).run {} = .ok () t) :
    ∃ pairs : List (Fin g.size × String),
      pairs.Nodup ∧
      (∀ i type, (i, type) ∈ pairs ↔ g.Reachable levels r resolve root start i type) ∧
      t.visited = pairs.map (fun (i, type) => (↑i, type)) ∧
      (t.violations.map Violation.unplaced).Perm (pairs.flatMap fun (i, type) =>
        (findings r (g.answering levels resolve) (g.seen (levels + 1) i) type []).map
          Violation.unplaced) := by
  let T := g.terrain levels r resolve root start
  have hroot := g.identity?_seen levels root
  obtain ⟨entries, toured⟩ := toured_of_visitOpened (T := T)
    (Value.isContainer_iff.mpr ⟨_, hroot⟩) ⟨root, hroot, .start⟩ h
  have : Nonempty (Fin g.size) := ⟨root⟩
  choose! index hindex reached using toured.reached
  have hvisited : t.visited = (entries.map fun e => (index e, e.type)).map fun (i, type) =>
      ((i : Nat), type) := by
    rw [toured.visited, List.map_map]
    refine List.filterMap_eq_map_iff_forall_eq_some.mpr fun e he => ?_
    exact markOf?_eq_some.mpr ⟨hindex e he, rfl⟩
  refine ⟨entries.map fun e => (index e, e.type), List.Nodup.of_map _ (hvisited ▸ toured.nodup),
    fun i type => ⟨fun hmem => ?_, fun hreach => ?_⟩, hvisited, ?_⟩
  · obtain ⟨e, he, ⟨⟩⟩ := List.mem_map.mp hmem
    exact reached e he
  · have seen : ((i : Nat), type) ∈ t.visited := by
      induction hreach with
      | start =>
        obtain ⟨identity, hi, hm⟩ := toured.start
        exact Option.some.inj (hroot.symm.trans hi) ▸ hm
      | @next i j v type type' hi step stands ih =>
        have hseen : Seen t (g.seen levels i) type := ⟨i, g.identity?_seen levels i, ih⟩
        have hopened : g.opened levels (g.seen levels i) = g.seen (levels + 1) i :=
          Graph.opened_of_identity (g.identity?_seen levels i)
        obtain ⟨identity, hj, hm⟩ := toured.next ⟨i, g.identity?_seen levels i, hi⟩ hseen
          (hopened.symm ▸ step)
        exact Option.some.inj (stands.symm.trans hj) ▸ hm
    rw [hvisited] at seen
    obtain ⟨⟨i', type'⟩, hmem, heq⟩ := List.mem_map.mp seen
    obtain ⟨hi, rfl⟩ := Prod.mk.inj heq
    exact Fin.ext hi ▸ hmem
  · refine toured.violations.trans (.of_eq ?_)
    rw [List.flatMap_map]
    refine List.flatMap_congr fun e he => ?_
    rw [Entry.findings, show T.opened e.node = _ from Graph.opened_of_identity (hindex e he)]
    rfl

/-- One type, whose nodes have a name and lead to nodes of the same type. -/
def chain : Registry :=
  { dialect := "chain"
    definitions := [⟨"Node",
      { name := "Node"
        table := .growing
          [("next", .reference "Node"), ("name", .leaf { type := some "string" })] },
      "Node"⟩] }

/-- Two nodes that stand inside each other. The name of the first is no text. -/
def ring : Graph where
  size := 2
  contents
    | 0 => .mapping [(.text "next", .container 1), (.text "name", .scalar (.int 1))]
    | 1 => .mapping [(.text "next", .container 0)]

def ringStart : Fin ring.size := ⟨0, Nat.two_pos⟩

/-- The walk of nodes that stand inside each other ends, and deals with each of them once. -/
theorem visit_reachable_ring :
    ∃ t, (visitOpened (ring.opened 0) (steady chain (ring.answering 0 none)) 3
        (ring.seen 0 ringStart) "Node" []).run {} = .ok () t ∧
      t.visited = [(0, "Node"), (1, "Node")] ∧
      t.violations = [typeMismatch "string" (.int 1) "Node" [.key "name"]] ∧
      ∃ pairs : List (Fin ring.size × String), pairs.Nodup ∧
        (∀ i type, (i, type) ∈ pairs ↔ ring.Reachable 0 chain none ringStart "Node" i type) ∧
        t.visited = pairs.map (fun (i, type) => (↑i, type)) ∧
        (t.violations.map Violation.unplaced).Perm (pairs.flatMap fun (i, type) =>
          (findings chain (ring.answering 0 none) (ring.seen 1 i) type []).map
            Violation.unplaced) := by
  have h : (visitOpened (ring.opened 0) (steady chain (ring.answering 0 none)) 3
      (ring.seen 0 ringStart) "Node" []).run {} = _ := rfl
  exact ⟨_, h, rfl, rfl, visit_reachable h⟩

section Values

variable {r : Registry} {resolve : Option (Value → Value)} {root : Value} {start : String}

/-- What a walk of a value can come to, if identities tell the containers apart. -/
def Terrain.ofCoherent (coherent : Coherent r resolve root start) : Terrain where
  registry := r
  resolve := resolve
  opened := id
  Reaches := Reachable r resolve root start
  identity?_opened _ := rfl
  opened_of_not_container _ := rfl
  next := .next
  coherent := coherent

/-- The same of a document that is a value, whose containers need not be opened. -/
theorem visit_reachable_of_coherent {depth : Nat} {path : Path} {t : Traversal}
    (coherent : Coherent r resolve root start) (container : root.isContainer)
    (h : (visit (steady r resolve) depth root start path).run {} = .ok () t) :
    ∃ pairs : List (Value × String),
      pairs.Nodup ∧ (∀ v type, (v, type) ∈ pairs ↔ Reachable r resolve root start v type) ∧
      t.visited.Nodup ∧ t.visited = pairs.filterMap (fun (v, type) => markOf? v type) ∧
      (t.violations.map Violation.unplaced).Perm
        (pairs.flatMap fun (v, type) => (findings r resolve v type []).map Violation.unplaced) := by
  let T := Terrain.ofCoherent coherent
  obtain ⟨entries, toured⟩ := toured_of_visitOpened (T := T) container .start h
  have hmem : ∀ v type, (v, type) ∈ entries.map (fun e => (e.node, e.type)) ↔
      Reachable r resolve root start v type := by
    refine fun v type => ⟨fun hv => ?_, fun hreach => ?_⟩
    · obtain ⟨e, he, ⟨⟩⟩ := List.mem_map.mp hv
      exact toured.reached e he
    · have seen : Seen t v type := by
        induction hreach with
        | start => exact toured.start
        | next reached step ih => exact toured.next reached ih step
      obtain ⟨identity, hi, hm⟩ := seen
      rw [toured.visited, List.mem_filterMap] at hm
      obtain ⟨e, he, hmark⟩ := hm
      obtain ⟨hidentity, rfl⟩ := markOf?_eq_some.mp hmark
      obtain rfl := coherent (toured.reached e he) hreach (hidentity.trans hi.symm)
      exact List.mem_map.mpr ⟨e, he, rfl⟩
  have hnodup := toured.nodup
  refine ⟨entries.map fun e => (e.node, e.type), ?_, hmem, hnodup, ?_, ?_⟩
  · rw [toured.visited] at hnodup
    refine List.pairwise_map.mpr ((List.pairwise_filterMap.mp hnodup).imp_of_mem ?_)
    intro a b ha hb hne heq
    obtain ⟨hnode, htype⟩ := Prod.mk.inj heq
    obtain ⟨identity, hi⟩ := Option.isSome_iff_exists.mp (toured.container a ha)
    have hmark : markOf? a.node a.type = some (identity, a.type) := by simp [markOf?, hi]
    exact hne _ hmark _ (hnode ▸ htype ▸ hmark) rfl
  · rw [toured.visited, List.filterMap_map]
    rfl
  · have hviolations := toured.violations
    rw [List.flatMap_map]
    exact hviolations

end Values

end Walk

end ShapeLint
