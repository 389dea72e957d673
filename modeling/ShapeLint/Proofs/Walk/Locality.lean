import ShapeLint.Proofs.Dialect.Blindness
import ShapeLint.Proofs.Walk.Relocation
import ShapeLint.Proofs.Walk.Survey

/-! Walks of a document with a hole. What stands in the hole adds its own findings, relocated, at
one place between findings that are the same whatever stands there. Main statement:
`finds_fill`. -/
namespace ShapeLint

namespace Walk

/-- Without pointers a walk comes to all containers around a hole, the outermost of them visited as
a type. The rules send it on to the hole as another type, whatever stands there. -/
inductive Enters (r : Registry) (sample : Value) : Surface → String → String → Prop where
  | hole {frame : Frame} {type target : String} {d : Descriptor}
      (child : Child r (frame.fill sample) type d frame.step sample)
      (key : frame.step ≠ .key "$ref")
      (ruled : ∀ v, rulingAt d frame.step v = .ok (.reference target)) :
      Enters r sample [frame] type target
  | inside {frame : Frame} {c : Surface} {type childType target : String} {d : Descriptor}
      (child : Child r (frame.fill (c.fill sample)) type d frame.step (c.fill sample))
      (ruled : rulingAt d frame.step (c.fill sample) = .ok (.reference childType))
      (rest : Enters r sample c childType target) : Enters r sample (frame :: c) type target

section Frame

variable {r : Registry} {d : Descriptor} {frame : Frame} {v w : Value} {type childType : String}
  {path : Path} {found pre post pre' post' : List Violation}

theorem pointerOf?_fill (h : frame.step ≠ .key "$ref" ∨ v.text? = w.text?) :
    pointerOf? (frame.fill v) = pointerOf? (frame.fill w) := by
  cases frame with
  | list identity before after => rfl
  | mapping identity before key after => exact Frame.fieldText_fill _ v w h

theorem members?_fill (h : members? d (frame.fill v) = some (frame.fill v).members) :
    members? d (frame.fill w) = some (frame.fill w).members := by
  cases frame <;> simp_all [Frame.fill, members?, Value.members]

theorem Child.refill (h : Child r (frame.fill v) type d frame.step v)
    (text : frame.step ≠ .key "$ref" ∨ v.text? = w.text?) :
    Child r (frame.fill w) type d frame.step w where
  own := pointerOf?_fill text ▸ h.own
  defined := h.defined
  shape := members?_fill h.shape
  member := frame.mem_members_fill w

/-- What the visit of a container with a hole finds before and after it visits the hole. -/
inductive Around (r : Registry) (d : Descriptor) (frame : Frame) (v : Value) (path : Path) :
    List Violation → List Violation → Prop where
  | intro {own first rest : List Violation}
      (keys : (d.checkNode (frame.fill v) path).outcome = .ok own)
      (before : Surveys r (frame.before.flatMap fun (step, x) => childActions d path step x) first)
      (after : Surveys r (frame.after.flatMap fun (step, x) => childActions d path step x) rest) :
      Around r d frame v path (own ++ first) rest

theorem Around.refill (blind : d.Blind)
    (ruled : rulingAt d frame.step v = .ok (.reference childType))
    (h : Around r d frame w path pre post) : Around r d frame v path pre post := by
  obtain ⟨keys, before, after⟩ := h
  exact ⟨(blind.keys (rulingAt_eq_ok.mp ruled).2 w path).trans keys, before, after⟩

theorem Around.unique (h : Around r d frame v path pre post)
    (h' : Around r d frame v path pre' post') : pre = pre' ∧ post = post' := by
  obtain ⟨keys, before, after⟩ := h
  obtain ⟨keys', before', after'⟩ := h'
  obtain rfl := Except.ok.inj (keys.symm.trans keys')
  obtain rfl := before.unique before'
  exact ⟨rfl, after.unique after'⟩

theorem outcome_of_surveys_checkActions {checked : Journaled (List Violation)}
    (h : Surveys r (checkActions checked) found) : checked.outcome = .ok found := by
  unfold checkActions at h
  cases h with
  | log h =>
    cases houtcome : checked.outcome with
    | error fault =>
      rw [houtcome] at h
      contradiction
    | ok own =>
      rw [houtcome] at h
      cases h with
      | report h =>
        cases h
        rw [List.append_nil]

/-- The visit of a container with a hole finds what it finds around the hole, and between that what
the visit of the hole finds. -/
theorem around_of_surveys (child : Child r (frame.fill v) type d frame.step v)
    (ruled : rulingAt d frame.step v = .ok (.reference childType))
    (h : Surveys r (nodeActions r (frame.fill v) type path) found) :
    ∃ pre post inner, Around r d frame v path pre post ∧
      Surveys r (nodeActions r v childType (path ++ [frame.step])) inner ∧
      found = pre ++ inner ++ post := by
  simp only [nodeActions, child.own, child.defined, shapeActions, child.shape, frame.members_fill,
    List.flatMap_append, List.flatMap_cons] at h
  obtain ⟨own, below, keys, hbelow, rfl⟩ := h.exists_append
  obtain ⟨first, later, before, hlater, rfl⟩ := hbelow.exists_append
  rw [childActions, ruled] at hlater
  cases hlater with
  | log hlater =>
    cases hlater with
    | @visit _ _ _ _ inner rest hinner after =>
      exact ⟨own ++ first, rest, inner, ⟨outcome_of_surveys_checkActions keys, before, after⟩,
        hinner, by simp only [List.append_assoc]⟩

/-- What is found around the hole of one container is the same whatever stands there. -/
theorem surveys_frame (blind : d.Blind) (child : Child r (frame.fill v) type d frame.step v)
    (ruled : rulingAt d frame.step v = .ok (.reference childType)) (path : Path) :
    ∃ pre post, ∀ w, frame.step ≠ .key "$ref" ∨ v.text? = w.text? →
      rulingAt d frame.step w = .ok (.reference childType) →
      ∀ found, Surveys r (nodeActions r (frame.fill w) type path) found →
        ∃ inner, Surveys r (nodeActions r w childType (path ++ [frame.step])) inner ∧
          found = pre ++ inner ++ post := by
  by_cases hsome : ∃ pre post, Around r d frame v path pre post
  · obtain ⟨pre, post, around⟩ := hsome
    refine ⟨pre, post, fun w text hw found h => ?_⟩
    obtain ⟨pre', post', inner, around', hinner, rfl⟩ := around_of_surveys (child.refill text) hw h
    obtain ⟨rfl, rfl⟩ := around.unique (around'.refill blind ruled)
    exact ⟨inner, hinner, rfl⟩
  · -- No walk ends then, so there is nothing to tell apart.
    refine ⟨[], [], fun w text hw found h => ?_⟩
    obtain ⟨pre, post, inner, around, -⟩ := around_of_surveys (child.refill text) hw h
    exact absurd ⟨pre, post, around.refill blind ruled⟩ hsome

end Frame

section Surface

variable {r : Registry} {c : Surface} {sample : Value} {start target : String}

theorem Enters.eq_cons (h : Enters r sample c start target) :
    ∃ frame inner, c = frame :: inner := by
  cases h with
  | hole => exact ⟨_, _, rfl⟩
  | inside => exact ⟨_, _, rfl⟩

/-- What is found around a hole is the same whatever stands there. -/
theorem surveys_surface (blind : ∀ {type d}, r.lookup type = .ok d → d.Blind)
    (h : Enters r sample c start target) (path : Path) :
    ∃ pre post, ∀ v found, Surveys r (nodeActions r (c.fill v) start path) found →
      ∃ inner, Surveys r (nodeActions r v target (path ++ c.path)) inner ∧
        found = pre ++ inner ++ post := by
  induction h generalizing path with
  | hole child key ruled =>
    obtain ⟨pre, post, hframe⟩ := surveys_frame (blind child.defined) child (ruled sample) path
    exact ⟨pre, post, fun v => hframe v (.inl key) (ruled v)⟩
  | @inside frame c type childType target d child ruled rest ih =>
    obtain ⟨pre, post, hframe⟩ := surveys_frame (blind child.defined) child ruled path
    obtain ⟨pre', post', hinside⟩ := ih (path ++ [frame.step])
    obtain ⟨below, c, rfl⟩ := rest.eq_cons
    refine ⟨pre ++ pre', post' ++ post, fun v found h => ?_⟩
    -- The container below changes with the hole, but the rules see only its kind.
    have hruled : rulingAt d frame.step (Surface.fill (below :: c) v) =
        .ok (.reference childType) :=
      (rulingAt_congr
        ((blind child.defined).ruling (below.isContainer_fill _) (below.kindName_fill _ _) _)).trans
        ruled
    obtain ⟨found, hfound, rfl⟩ := hframe _ (.inr (below.text?_fill _ _)) hruled found h
    obtain ⟨inner, hinner, rfl⟩ := hinside v found hfound
    refine ⟨inner, ?_, by simp only [List.append_assoc]⟩
    simpa [Surface.path] using hinner

/-- Locality of walks without answers to pointers. In a tree with a hole, the walk of the whole
finds what the walk of the part in the hole finds, relocated, between findings that depend only on
the tree around the hole. -/
theorem finds_fill
    (blind : r.FunctionFree ∨
      ∃ (d : Dialect) (settings : Settings), (d.build settings).outcome = .ok r)
    (enters : Enters r sample c start target) :
    ∃ pre post, ∀ v, (∀ identity, (c.fill v).occurrences identity ≤ 1) →
      ∀ found, Finds { registry := r } (c.fill v) start [] found →
        ∃ inner, Finds { registry := r } v target [] inner ∧
          found = pre ++ inner.map (Violation.relocated c.path) ++ post := by
  have blind : ∀ {type d}, r.lookup type = .ok d → d.Blind := by
    intro type descriptor h
    rcases blind with free | ⟨d, settings, built⟩
    · exact Registry.blind_of_functionFree free h
    · exact d.blind_build settings built h
  obtain ⟨pre, post, hsurface⟩ := surveys_surface blind enters []
  refine ⟨pre, post, fun v tree found h => ?_⟩
  have hpart : ∀ identity, v.occurrences identity ≤ 1 := fun identity =>
    (Surface.leads_fill c v).occurrences_le.trans (tree identity)
  obtain ⟨moved, hmoved, rfl⟩ := hsurface v found ((finds_iff_surveys rfl tree).mp h)
  have hpath : nodeActions r v target ([] ++ c.path) =
      (nodeActions r v target []).map (Action.relocated c.path) := by
    simpa using nodeActions_append r v target c.path []
  rw [hpath] at hmoved
  obtain ⟨inner, hinner, rfl⟩ := hmoved.of_relocated
  exact ⟨inner, (finds_iff_surveys rfl hpart).mpr hinner, rfl⟩

/-- Whether the rules, none of them a function, send the walk on from a container of a type to its
hole. -/
def sendsOn (r : Registry) (type : String) (frame : Frame) (target : String) (v : Value) : Bool :=
  (pointerOf? (frame.fill v)).isNone && (r.lookup type).toOption.any fun d =>
    (members? d (frame.fill v)).isSome && d.resolvers.isEmpty &&
      match rulingAt d frame.step v with
      | .ok (.reference name) => name == target
      | _ => false

theorem exists_child_of_sendsOn {frame : Frame} {type : String} {v : Value}
    (h : sendsOn r type frame target v) : ∃ d, Child r (frame.fill v) type d frame.step v ∧
      ∀ w, rulingAt d frame.step w = .ok (.reference target) := by
  simp only [sendsOn, Bool.and_eq_true, Option.isNone_iff_eq_none] at h
  obtain ⟨own, h⟩ := h
  cases defined : r.lookup type with
  | error fault => simp [defined, Except.toOption] at h
  | ok d =>
    simp only [defined, Except.toOption, Option.any_some, Bool.and_eq_true, List.isEmpty_iff] at h
    obtain ⟨⟨shape, resolvers⟩, ruled⟩ := h
    obtain ⟨members, shape⟩ := Option.isSome_iff_exists.mp shape
    refine ⟨d, ⟨own, defined, members?_eq shape ▸ shape, frame.mem_members_fill v⟩, fun w => ?_⟩
    have hcongr : rulingAt d frame.step w = rulingAt d frame.step v := by
      refine rulingAt_congr (Descriptor.ruling_congr fun f hf => ?_)
      have hmem : f ∈ d.resolvers := List.mem_filterMap.mpr ⟨_, hf, rfl⟩
      simp [resolvers] at hmem
    rw [hcongr]
    split at ruled
    · rename_i name hname
      rw [hname, eq_of_beq ruled]
    · contradiction

/-- An array whose items are the hole, without a name and with a key that is not expected. -/
def arrayParameter : Frame :=
  .mapping 2 [(.text "in", .text "query"), (.text "type", .text "array")] (.text "items")
    [(.text "other", .null)]

/-- Parameters with a hole in one of them, between others that are wrong. -/
def parameters : Surface :=
  [.list 0 [.mapping 1 [(.text "name", .null)]] [.text "last"], arrayParameter]

theorem enters_parameters :
    Enters Dialect.openApi2.tables.freeze (.int 7) parameters "ParameterList" "ParameterItems" := by
  have houter : sendsOn Dialect.openApi2.tables.freeze "ParameterList"
      (.list 0 [.mapping 1 [(.text "name", .null)]] [.text "last"]) "Parameter"
      (arrayParameter.fill (.int 7)) = true := by decide +kernel
  have hinner : sendsOn Dialect.openApi2.tables.freeze "Parameter" arrayParameter "ParameterItems"
      (.int 7) = true := by decide +kernel
  obtain ⟨_, outer, ruled⟩ := exists_child_of_sendsOn houter
  obtain ⟨_, inner, ruled'⟩ := exists_child_of_sendsOn hinner
  exact .inside outer (ruled _) (.hole inner (by decide) ruled')

/-- The same three findings come before what is found in the hole, and the same two after it,
whether the items are no mapping at all or an array without items of its own. -/
theorem finds_fill_parameters :
    ∃ pre post, ∀ p ∈ [(Value.int 7, ViolationCode.typeMismatch),
      (.mapping 3 [(.text "type", .text "array")], .missingRequired)], ∃ inner,
      Finds { registry := Dialect.openApi2.tables.freeze } p.1 "ParameterItems" [] inner ∧
      inner.map (·.code) = [p.2] ∧
      Finds { registry := Dialect.openApi2.tables.freeze } (parameters.fill p.1) "ParameterList" []
        (pre ++ inner.map (Violation.relocated [.index 1, .key "items"]) ++ post) ∧
      (pre ++ inner.map (Violation.relocated [.index 1, .key "items"]) ++ post).map (·.code) =
        [.missingRequired, .typeMismatch, .missingRequired, p.2, .unknownKey, .typeMismatch] := by
  obtain ⟨pre, post, h⟩ := finds_fill (.inr ⟨.openApi2, {}, Dialect.openApi2.outcome_build {}⟩)
    enters_parameters
  refine ⟨pre, post, fun p hp => ?_⟩
  have tree : ∀ identity, (parameters.fill p.1).occurrences identity ≤ 1 := by
    intro identity
    simp only [List.mem_cons, List.not_mem_nil, or_false] at hp
    rcases hp with rfl | rfl <;>
      simp [parameters, arrayParameter, Surface.fill, Frame.fill, Value.occurrences,
        Value.occurrencesInItems, Value.occurrencesInEntries] <;> grind
  have hparts : ∀ p ∈ [(Value.int 7, ViolationCode.typeMismatch),
      (.mapping 3 [(.text "type", .text "array")], .missingRequired)],
      (found? { registry := Dialect.openApi2.tables.freeze } 1 p.1 "ParameterItems" []).map
        (List.map (·.code)) = some [p.2] := by decide +kernel
  have hwholes : ∀ p ∈ [(Value.int 7, ViolationCode.typeMismatch),
      (.mapping 3 [(.text "type", .text "array")], .missingRequired)],
      (found? { registry := Dialect.openApi2.tables.freeze } 4 (parameters.fill p.1)
        "ParameterList" []).map (List.map (·.code)) =
        some [.missingRequired, .typeMismatch, .missingRequired, p.2, .unknownKey,
          .typeMismatch] := by decide +kernel
  obtain ⟨found, hfound, hcodes⟩ := Option.map_eq_some_iff.mp (hwholes p hp)
  have hwhole := finds_iff.mpr ⟨4, hfound⟩
  obtain ⟨inner, hinner, rfl⟩ := h p.1 tree found hwhole
  exact ⟨inner, hinner, hinner.apply_eq 1 (hparts p hp), hwhole, hcodes⟩

end Surface

end Walk

end ShapeLint
