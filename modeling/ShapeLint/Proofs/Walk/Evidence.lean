import ShapeLint.Proofs.Descriptor.KeyFindings
import ShapeLint.Proofs.Leaf.Places
import ShapeLint.Proofs.Registry.History
import ShapeLint.Proofs.Walk.Causes
import ShapeLint.Proofs.Walk.Questions

/-! Violations point at what is wrong. The path of a violation leads from the root to a place of
the document, through members and through the answers to pointers, and that place shows what the
violation says. Main statement: `visit_evident`. -/
namespace ShapeLint

namespace Walk

/-- A pointer was answered in a walk that asked for these pointers in all. -/
def Answered (s : Surroundings) (asked : List Value) (pointer v : Value) : Prop :=
  ∃ answers before, s.answers = some answers ∧ before ++ [pointer] <+: asked ∧
    answers before pointer = .ok v

section Definitions

variable (s : Surroundings) (asked : List Value) (root : Value) (start : String)

mutual

/-- The walk comes to a node as a type, along a path from the root. -/
inductive Arrives : Value → String → Path → Prop where
  | start : Arrives root start []
  | child {node v : Value} {type childType : String} {path : Path} {d : Descriptor} {step : Step}
      (arrived : Arrives node type path) (child : Child s.registry node type d step v)
      (ruled : rulingAt d step v = .ok (.reference childType)) :
      Arrives v childType (path ++ [step])
  | target {direct : Bool} {pointer v : Value} {type : String} {path : Path}
      (read : Reads direct pointer type path) (answered : Answered s asked pointer v) :
      Arrives v type path

/-- A pointer at the end of a path is to be read as a type: the `$ref` of a mapping, or a direct
pointer that its leaf accepts. -/
inductive Reads : Bool → Value → String → Path → Prop where
  | standIn {node : Value} {type pointer : String} {path : Path}
      (arrived : Arrives node type path) (stands : pointerOf? node = some pointer) :
      Reads false (.text pointer) type path
  | direct {node v : Value} {type target : String} {path : Path} {d : Descriptor} {step : Step}
      {leaf : Leaf} (arrived : Arrives node type path)
      (child : Child s.registry node type d step v)
      (ruled : rulingAt d step v = .ok (.leaf leaf))
      (accepted : leaf.check v (path ++ [step]) d.name = .ok [])
      (direct : nonempty? leaf.resolveAs = some target) : Reads true v target (path ++ [step])

end

/-- What the place that a violation points at shows. -/
structure Evident (x : Violation) : Prop where
  /-- The path leads to a node that the walk comes to, or further on to a value inside it. -/
  place : ∃ node type outer inner v, Arrives s asked root start node type outer ∧
    node.Leads inner v ∧ x.path = outer ++ inner
  type : x.code ≠ .unresolvedRef → x.code ≠ .mappingTargetNotSchema →
    s.registry.contains x.typeName
  unresolved : x.code = .unresolvedRef → ∃ direct pointer,
    Reads s asked root start direct pointer x.typeName x.path ∧ Answered s asked pointer .null
  unfit : x.code = .mappingTargetNotSchema → ∃ pointer v,
    Reads s asked root start true pointer x.typeName x.path ∧ Answered s asked pointer v ∧
      v.isMapping = false
  missing : x.code = .missingRequired → ∃ identity entries,
    Arrives s asked root start (.mapping identity entries) x.typeName x.path ∧
      entries.lookup x.absentKey = none
  missingOneOf : x.code = .missingRequiredOneOf → ∃ identity entries d group,
    Arrives s asked root start (.mapping identity entries) x.typeName x.path ∧
      s.registry.lookup x.typeName = .ok d ∧ d.requiredOneOf = some group ∧
      ∀ key ∈ group, entries.lookup (.text key) = none
  key : x.code = .unknownKey ∨ x.code = .disallowedKey →
    ∃ step, x.path.getLast? = some step ∧ x.key = some step.text

end Definitions

section Evidence

variable {s : Surroundings} {asked : List Value} {root node v : Value} {start type : String}
  {path : Path} {d : Descriptor} {step : Step} {x : Violation}

theorem Reads.place {direct : Bool} {pointer : Value}
    (h : Reads s asked root start direct pointer type path) :
    ∃ node type outer inner v, Arrives s asked root start node type outer ∧
      node.Leads inner v ∧ path = outer ++ inner := by
  cases h with
  | standIn arrived stands => exact ⟨_, _, path, [], _, arrived, .here _, (List.append_nil _).symm⟩
  | direct arrived child => exact ⟨_, _, _, [_], _, arrived, .of_member child.member, rfl⟩

theorem evident_unresolved {direct : Bool} {pointer : Value}
    (read : Reads s asked root start direct pointer type path)
    (answered : Answered s asked pointer .null) :
    Evident s asked root start (unresolved pointer type path) where
  place := read.place
  type := by simp [Walk.unresolved]
  unresolved := fun _ => ⟨direct, pointer, read, answered⟩
  unfit := by simp [Walk.unresolved]
  missing := by simp [Walk.unresolved]
  missingOneOf := by simp [Walk.unresolved]
  key := by simp [Walk.unresolved]

theorem evident_unfit {pointer : Value} (read : Reads s asked root start true pointer type path)
    (answered : Answered s asked pointer v) (unfit : v.isMapping = false) :
    Evident s asked root start (unfitTarget pointer type path) where
  place := read.place
  type := by simp [unfitTarget]
  unresolved := by simp [unfitTarget]
  unfit := fun _ => ⟨pointer, v, read, answered, unfit⟩
  missing := by simp [unfitTarget]
  missingOneOf := by simp [unfitTarget]
  key := by simp [unfitTarget]

/-- What a leaf reports needs no more evidence than its place. -/
theorem evident_of_ofLeaf (defined : s.registry.contains x.typeName) (code : x.code.ofLeaf)
    (place : ∃ node type outer inner v, Arrives s asked root start node type outer ∧
      node.Leads inner v ∧ x.path = outer ++ inner) : Evident s asked root start x := by
  cases hcode : x.code <;> simp only [hcode, ViolationCode.ofLeaf, Bool.false_eq_true] at code
  all_goals exact ⟨place, fun _ _ => defined, by simp [hcode], by simp [hcode], by simp [hcode],
    by simp [hcode], by simp [hcode]⟩

theorem evident_unknownKey (defined : s.registry.contains d.name)
    (arrived : Arrives s asked root start node type path) (member : (step, v) ∈ node.members) :
    Evident s asked root start (unknownKey d step.text (path ++ [step])) where
  place := ⟨node, type, path, [step], v, arrived, .of_member member, rfl⟩
  type := fun _ _ => defined
  unresolved := by simp [unknownKey]
  unfit := by simp [unknownKey]
  missing := by simp [unknownKey]
  missingOneOf := by simp [unknownKey]
  key := fun _ => ⟨step, by simp [unknownKey], rfl⟩

theorem evident_keyFinding {identity : Nat} {entries : List (Scalar × Value)}
    (defined : s.registry.lookup d.name = .ok d)
    (arrived : Arrives s asked root start (.mapping identity entries) d.name path)
    (h : d.KeyFinding entries path x) : Evident s asked root start x := by
  have hcontains := Registry.contains_of_lookup defined
  cases h with
  | missing code type place absent =>
    refine ⟨⟨_, _, path, [], _, arrived, .here _, by simp [place]⟩, fun _ _ => type ▸ hcontains,
      by simp [code], by simp [code], fun _ => ?_, by simp [code], by simp [code]⟩
    exact ⟨identity, entries, by rwa [type, place], absent⟩
  | @missingOneOf group code type place demanded absent =>
    refine ⟨⟨_, _, path, [], _, arrived, .here _, by simp [place]⟩, fun _ _ => type ▸ hcontains,
      by simp [code], by simp [code], by simp [code], fun _ => ?_, by simp [code]⟩
    exact ⟨identity, entries, d, group, by rwa [type, place], by rwa [type], demanded, absent⟩
  | @disallowed key v member writable eq =>
    subst eq
    have hmember : (Step.key key.plain, v) ∈ (Value.mapping identity entries).members :=
      List.mem_map.mpr ⟨(key, v), member, by simp [Scalar.step_of_isWritable writable]⟩
    exact ⟨⟨_, _, path, [_], v, arrived, .of_member hmember, rfl⟩, fun _ _ => hcontains,
      by simp [Descriptor.disallowed], by simp [Descriptor.disallowed],
      by simp [Descriptor.disallowed], by simp [Descriptor.disallowed],
      fun _ => ⟨.key key.plain, by simp [Descriptor.disallowed], rfl⟩⟩

/-- Whatever a visit reports of its node is evident. -/
theorem evident_of_cause (named : s.registry.Named)
    (arrived : Arrives s asked root start node type path) {found : List Violation}
    (cause : Cause s.registry node type path found) (hx : x ∈ found) :
    Evident s asked root start x := by
  cases cause with
  | shape own defined misfit =>
    obtain rfl := List.mem_singleton.mp hx
    have hname := named.lookup defined
    refine evident_of_ofLeaf ?_ rfl ⟨node, type, path, [], node, arrived, .here node, ?_⟩
    · exact hname ▸ Registry.contains_of_lookup defined
    · exact (List.append_nil path).symm
  | keys own defined checked =>
    obtain ⟨identity, entries, rfl, h⟩ := Descriptor.keyFinding_of_checkNode checked hx
    obtain rfl := named.lookup defined
    exact evident_keyFinding defined arrived h
  | rejected child ruled =>
    obtain rfl := List.mem_singleton.mp hx
    have hname := named.lookup child.defined
    exact evident_unknownKey (hname ▸ Registry.contains_of_lookup child.defined) arrived
      child.member
  | leaf child ruled checked =>
    have located := Leaf.located_of_check checked hx
    have hname := named.lookup child.defined
    obtain ⟨inner, w, hw, hplace⟩ := located.place
    refine evident_of_ofLeaf ?_ located.code ⟨node, type, path, _ :: inner, w, arrived,
      .step child.member hw, by simp [hplace]⟩
    exact located.type ▸ hname ▸ Registry.contains_of_lookup child.defined

end Evidence

section Run

variable (s : Surroundings) (asked : List Value) (root : Value) (start : String)

/-- What an action may do so that all that is reported is evident. -/
def Action.Sound : Action → Prop
  | .report found => ∀ x ∈ found, Evident s asked root start x
  | .visit v type path => Arrives s asked root start v type path
  | .follow direct pointer type path => Reads s asked root start direct pointer type path
  | _ => True

/-- A part of a walk reports evident violations only. -/
def Shows (t u : Traversal) : Prop :=
  ∀ x ∈ u.violations, x ∈ t.violations ∨ Evident s asked root start x

variable {s asked root start} {node v : Value} {type : String} {path : Path} {t u : Traversal}
  {depth : Nat} {x : Violation}

theorem sound_of_mem (named : s.registry.Named)
    (arrived : Arrives s asked root start node type path) {a : Action}
    (ha : a ∈ nodeActions s.registry node type path) : a.Sound s asked root start := by
  cases does_of_mem ha with
  | log records => trivial
  | fail fault => trivial
  | report cause => exact fun x hx => evident_of_cause named arrived cause hx
  | standIn stands => exact .standIn arrived stands
  | visit child ruled => exact .child arrived child ruled
  | direct child ruled accepted direct => exact .direct arrived child ruled accepted direct

theorem sound_naming (h : Evident s asked root start x) :
    (naming v x).Sound s asked root start := by
  unfold naming
  split
  · exact List.forall_mem_singleton.mpr h
  · trivial

theorem sound_target {direct : Bool} {pointer : Value}
    (read : Reads s asked root start direct pointer type path)
    (answered : Answered s asked pointer v) {a : Action}
    (ha : a ∈ targetActions direct pointer type path v) : a.Sound s asked root start := by
  by_cases hnull : v = .null
  · subst hnull
    obtain rfl := List.mem_singleton.mp ha
    exact sound_naming (evident_unresolved read answered)
  · rw [targetActions_of_ne_null hnull] at ha
    split at ha
    · rename_i hunfit
      rw [Bool.and_eq_true, Bool.not_eq_true'] at hunfit
      obtain ⟨rfl, hunfit⟩ := hunfit
      obtain rfl := List.mem_singleton.mp ha
      exact sound_naming (evident_unfit read answered hunfit)
    · simp only [List.mem_cons, List.not_mem_nil, or_false] at ha
      rcases ha with rfl | rfl
      · trivial
      · exact .target read answered

/-- What the visits below a node are to show. -/
def ShowsBelow (s : Surroundings) (asked : List Value) (root : Value) (start : String)
    (below : Visit) : Prop :=
  ∀ {node type path t u}, (below node type path).run t = .ok () u → u.asked <+: asked →
    Arrives s asked root start node type path → Shows s asked root start t u

theorem shows_performAll {actions : List Action}
    (hperform : ∀ a ∈ actions, ∀ {t u}, (a.perform s (visit s depth)).run t = .ok () u →
      u.asked <+: asked → Shows s asked root start t u)
    (h : (performAll s (visit s depth) actions).run t = .ok () u) (hasked : u.asked <+: asked) :
    Shows s asked root start t u := by
  induction actions generalizing t with
  | nil =>
    obtain rfl : t = u := by simpa using h
    exact fun x hx => .inl hx
  | cons a actions ih =>
    obtain ⟨t₁, ha, hrest⟩ := (run_performAll_cons_eq_ok _ _).mp h
    have hfirst := hperform a List.mem_cons_self ha
      ((asked_performAll s depth t₁ hrest).trans hasked)
    intro x hx
    have hlast := ih (fun b hb => hperform b (List.mem_cons_of_mem a hb)) hrest x hx
    exact hlast.elim (hfirst x) .inr

theorem shows_below (hbelow : ShowsBelow s asked root start (visit s depth)) {a : Action}
    (hsound : a.Sound s asked root start)
    (hfollow : ∀ direct pointer type path, a ≠ .follow direct pointer type path)
    (h : (a.perform s (visit s depth)).run t = .ok () u) (hasked : u.asked <+: asked) :
    Shows s asked root start t u := by
  cases a with
  | log records =>
    obtain rfl : _ = u := by simpa [Action.perform] using h
    exact fun x hx => .inl hx
  | report found =>
    obtain rfl : _ = u := by simpa [Action.perform] using h
    exact fun x hx => (List.mem_append.mp hx).imp_right (hsound x)
  | fail fault => contradiction
  | visit node type path => exact hbelow h hasked hsound
  | follow direct pointer type path => exact absurd rfl (hfollow direct pointer type path)

theorem shows_perform (hbelow : ShowsBelow s asked root start (visit s depth)) {a : Action}
    (hsound : a.Sound s asked root start) (h : (a.perform s (visit s depth)).run t = .ok () u)
    (hasked : u.asked <+: asked) : Shows s asked root start t u := by
  cases a with
  | follow direct pointer type path =>
    simp only [Action.perform, run_follow] at h
    cases hanswers : s.answers with
    | none =>
      simp only [hanswers] at h
      obtain rfl : t = u := by simpa using h
      exact fun x hx => .inl hx
    | some answers =>
      simp only [hanswers] at h
      cases hanswer : answers t.asked pointer with
      | error fault => simp [hanswer] at h
      | ok v =>
        simp only [hanswer] at h
        have answered : Answered s asked pointer v :=
          ⟨answers, t.asked, hanswers, (asked_performAll s depth _ h).trans hasked, hanswer⟩
        have htarget : Shows s asked root start (asking t pointer) u := by
          apply shows_performAll _ h hasked
          intro b hb t u hrun hasked
          exact shows_below hbelow (sound_target hsound answered hb)
            (ne_follow_of_mem_targetActions hb) hrun hasked
        exact htarget
  | _ => exact shows_below hbelow hsound (by simp) h hasked

/-- A visit, however deep, reports evident violations only. -/
theorem shows_visit (named : s.registry.Named) (asked : List Value) (root : Value)
    (start : String) (depth : Nat) : ShowsBelow s asked root start (visit s depth) := by
  induction depth with
  | zero =>
    intro node type path t u h
    simp [run_visit_zero] at h
  | succ depth ih =>
    intro node type path t u h hasked arrived
    by_cases hseen : Seen t node type
    · obtain rfl : t = u := by simpa [run_visit_of_seen s hseen] using h
      exact fun x hx => .inl hx
    · rw [run_visit s hseen] at h
      have hnode : Shows s asked root start (marked t node type) u := by
        apply shows_performAll _ h hasked
        intro a ha t u hrun hasked
        exact shows_perform ih (sound_of_mem named arrived ha) hrun hasked
      exact hnode

/-- Every violation that a walk reports, whatever the answers to pointers, has its path lead to a
place that shows what is wrong. -/
theorem visit_evident {dialect : String} {calls : List Assembly.Call}
    (filled : s.registry = (Assembly.after calls (Assembly.blank dialect)).registry)
    (h : (visit s depth root start []).run {} = .ok () t) :
    ∀ x ∈ t.violations, Evident s t.asked root start x := by
  have hblank : (Assembly.blank dialect).registry.Named := by
    simp [Assembly.blank, Registry.Named]
  have named : s.registry.Named := filled ▸ Assembly.named_after calls hblank
  intro x hx
  have hshown := shows_visit named t.asked root start depth h List.prefix_rfl .start x hx
  simpa using hshown

/-- One type, whose nodes must have a name and lead to others in place or by a direct pointer. -/
def links : List Assembly.Call :=
  [.define "Link"
    { table := .growing [("next", .reference "Link"),
        ("schema", .leaf { type := some "string", resolveAs := some "Link" })]
      required := .ofKeys ["name"] },
    .extend "Link" [("name", .anything)]]

/-- Only `far` has a target, whose direct pointer has none. -/
def linkAnswers : PointerAnswers := fun _ pointer =>
  if pointer.text? == some "far" then
    .ok (.mapping 2 [(.text "schema", .text "lost"), (.text "other", .null)])
  else .ok .null

/-- A node without a name that stands for another one. -/
def linked : Value := .mapping 0 [(.text "next", .mapping 1 [(.text "$ref", .text "far")])]

/-- The walk finds a missing name at the root, and behind the pointer another missing name, a
pointer that leads nowhere and an unknown key. -/
theorem visit_evident_linked :
    let s : Surroundings :=
      { registry := (Assembly.after links (Assembly.blank "links")).registry
        answers := some linkAnswers }
    ∃ t, (visit s 3 linked "Link" []).run {} = .ok () t ∧
      t.violations.map (fun x => (x.code, x.path)) =
        [(.missingRequired, []), (.missingRequired, [.key "next"]),
          (.unresolvedRef, [.key "next", .key "schema"]),
          (.unknownKey, [.key "next", .key "other"])] ∧
      ∀ x ∈ t.violations, Evident s t.asked linked "Link" x :=
  ⟨_, rfl, rfl, visit_evident rfl (rfl : (visit _ 3 linked "Link" []).run {} = _)⟩

end Run

end Walk

end ShapeLint
