import ShapeLint.Proofs.Dialect.Definitions
import ShapeLint.Proofs.Walk.OwnQuestions
import ShapeLint.Proofs.Walk.Verbatim

/-!
Mappings of discriminators. Their entries are texts, and the texts that have the shape of a pointer
are asked for, in the order of the document and once each. Main statement: `visitsEntries`.
-/
namespace ShapeLint

namespace Shapes

/-- A text that begins with a hash sign or has a slash in it. -/
def PointerShaped (name : String) : Prop := name.toList.head? = some '#' ∨ '/' ∈ name.toList

instance (name : String) : Decidable (PointerShaped name) := inferInstanceAs (Decidable (_ ∨ _))

/-- The other beginnings of pointers have slashes in them. -/
theorem isPointer_iff {name : String} : isPointer (.text name) ↔ PointerShaped name := by
  have hslashes : ∀ start ∈ ["https://", "http://", "./", "../"], '/' ∈ start.toList := by decide
  have hslash : ∀ start ∈ ["https://", "http://", "./", "../"],
      name.startsWith start → '/' ∈ name.toList :=
    fun start hstart h => (String.startsWith_string_iff.mp h).subset (hslashes start hstart)
  have hhash : name.startsWith "#" ↔ name.toList.head? = some '#' := by
    rw [String.startsWith_string_iff]
    cases name.toList <;> simp [eq_comm]
  have hstarts : isPointer (.text name) ↔ (name.startsWith "#" ∨
      ∃ start ∈ ["https://", "http://", "./", "../"], name.startsWith start) ∨
        '/' ∈ name.toList := by
    simp [isPointer, Value.text?, pointerStarts]
  rw [hstarts, hhash, PointerShaped, or_assoc]
  refine or_congr_right (or_iff_right_of_imp ?_)
  rintro ⟨start, hstart, h⟩
  exact hslash start hstart h

theorem mappingEntry_text (name : String) :
    mappingEntry (.text name) = if PointerShaped name then schemaPointer else aliasLeaf := by
  by_cases h : PointerShaped name
  · rw [mappingEntry, if_pos (isPointer_iff.mpr h), if_pos h]
  · rw [mappingEntry, if_neg (mt isPointer_iff.mp h), if_neg h]

theorem mappingEntry_of_text?_eq_none {v : Value} (h : v.text? = none) :
    mappingEntry v = aliasLeaf := by
  simp [mappingEntry, isPointer, h]

/-- The values of a mapping that have the shape of pointers, in order. -/
def pointersIn (entries : List (Scalar × Value)) : List Value :=
  (entries.map Prod.snd).filter fun v => v.text?.any fun name => PointerShaped name

/-- The type of the mappings of discriminators. -/
def mappingType (frozen : Bool) : Descriptor :=
  let d : Descriptor :=
    { name := "DiscriminatorMapping", additional := some (pickedBy classifyMappingEntry) }
  if frozen then d.freeze else d

end Shapes

namespace Walk

open Shapes

def reporting (t : Traversal) (x : Violation) : Traversal :=
  { t with violations := t.violations ++ [x] }

/-- The state in which the target of a pointer is visited as a schema. -/
def followed (t : Traversal) (pointer : Value) : Traversal :=
  { asking t pointer with records := t.records ++ (following pointer "Schema").toList }

/-- How a walk settles the entries of a discriminator's mapping, one by one, from a state to its
result: entries that are no texts are reported, plain names are left alone, and pointers are asked
for at once. Their targets are reported if there are none or if they are no mappings, and are
visited as schemas otherwise. A key that cannot be written ends the walk. -/
inductive Settles (answers : PointerAnswers) (below : Visit) (path : Path) :
    List (Step × Value) → Traversal → EStateM.Result Fault Traversal Unit → Prop where
  | done (t : Traversal) : Settles answers below path [] t (.ok () t)
  | unwritten {number : Int} {v : Value} {rest : List (Step × Value)} (t : Traversal) :
      Settles answers below path ((.unwritten number, v) :: rest) t (.error .unwritable t)
  | misfit {key : String} {v : Value} {rest : List (Step × Value)} {t : Traversal}
      {result : EStateM.Result Fault Traversal Unit} (noText : v.text? = none)
      (next : Settles answers below path rest
        (reporting t (typeMismatch "string" v "DiscriminatorMapping" (path ++ [.key key])))
        result) :
      Settles answers below path ((.key key, v) :: rest) t result
  | name {key name : String} {rest : List (Step × Value)} {t : Traversal}
      {result : EStateM.Result Fault Traversal Unit} (plain : ¬ PointerShaped name)
      (next : Settles answers below path rest t result) :
      Settles answers below path ((.key key, .text name) :: rest) t result
  | unresolved {key pointer : String} {rest : List (Step × Value)} {t : Traversal}
      {result : EStateM.Result Fault Traversal Unit} (shaped : PointerShaped pointer)
      (answer : answers t.asked (.text pointer) = .ok .null)
      (next : Settles answers below path rest (reporting (asking t (.text pointer))
        (unresolved (.text pointer) "Schema" (path ++ [.key key]))) result) :
      Settles answers below path ((.key key, .text pointer) :: rest) t result
  | unfit {key pointer : String} {target : Value} {rest : List (Step × Value)}
      {t : Traversal} {result : EStateM.Result Fault Traversal Unit}
      (shaped : PointerShaped pointer) (answer : answers t.asked (.text pointer) = .ok target)
      (notNull : target ≠ .null) (notMapping : target.isMapping = false)
      (next : Settles answers below path rest (reporting (asking t (.text pointer))
        (unfitTarget (.text pointer) "Schema" (path ++ [.key key]))) result) :
      Settles answers below path ((.key key, .text pointer) :: rest) t result
  | visited {key pointer : String} {target : Value} {rest : List (Step × Value)}
      {t u : Traversal} {result : EStateM.Result Fault Traversal Unit}
      (shaped : PointerShaped pointer) (answer : answers t.asked (.text pointer) = .ok target)
      (mapping : target.isMapping)
      (ended : (below target "Schema" (path ++ [.key key])).run (followed t (.text pointer)) =
        .ok () u)
      (marked : Seen u target "Schema") (next : Settles answers below path rest u result) :
      Settles answers below path ((.key key, .text pointer) :: rest) t result
  | unanswered {key pointer : String} {rest : List (Step × Value)} {t : Traversal}
      {fault : Fault} (shaped : PointerShaped pointer)
      (answer : answers t.asked (.text pointer) = .error fault) :
      Settles answers below path ((.key key, .text pointer) :: rest) t
        (.error fault (asking t (.text pointer)))
  | broken {key pointer : String} {target : Value} {rest : List (Step × Value)}
      {t u : Traversal} {fault : Fault} (shaped : PointerShaped pointer)
      (answer : answers t.asked (.text pointer) = .ok target) (mapping : target.isMapping)
      (ended : (below target "Schema" (path ++ [.key key])).run (followed t (.text pointer)) =
        .error fault u) :
      Settles answers below path ((.key key, .text pointer) :: rest) t (.error fault u)

section Entries

variable {s : Surroundings} {answers : PointerAnswers} {depth : Nat} {frozen : Bool} {path : Path}
  {key name : String} {v : Value} {t : Traversal}

theorem name_mappingType : (mappingType frozen).name = "DiscriminatorMapping" := by
  cases frozen <;> rfl

theorem rulingAt_mappingType : rulingAt (mappingType frozen) (.key key) v =
    .ok (.leaf (mappingEntry v)) := by
  cases frozen <;> rfl

theorem childActions_unwritten {number : Int} :
    childActions (mappingType frozen) path (.unwritten number) v = [.fail .unwritable] := rfl

/-- An entry that is no text is reported for that. -/
theorem childActions_misfit (h : v.text? = none) :
    childActions (mappingType frozen) path (.key key) v =
      [.log [], .report [typeMismatch "string" v "DiscriminatorMapping" (path ++ [.key key])]] := by
  have hcheck : aliasLeaf.check v (path ++ [.key key]) "DiscriminatorMapping" =
      .ok [typeMismatch "string" v "DiscriminatorMapping" (path ++ [.key key])] := by
    cases v with
    | scalar x => cases x <;> first | rfl | contradiction
    | _ => rfl
  have hactions : leafActions (mappingType frozen) aliasLeaf v (path ++ [.key key]) =
      [.report [typeMismatch "string" v "DiscriminatorMapping" (path ++ [.key key])]] := by
    unfold leafActions
    rw [name_mappingType, hcheck]
    rfl
  unfold childActions
  rw [rulingAt_mappingType, mappingEntry_of_text?_eq_none h]
  simp only [rulingActions, hactions, Ruling.record?, Option.toList_none]

/-- A text passes, and is followed if it has the shape of a pointer. -/
theorem childActions_text : childActions (mappingType frozen) path (.key key) (.text name) =
    [.log [], .report []] ++ if PointerShaped name then
      [.follow true (.text name) "Schema" (path ++ [.key key])] else [] := by
  unfold childActions
  rw [rulingAt_mappingType, mappingEntry_text]
  by_cases h : PointerShaped name
  · rw [if_pos h, if_pos h]
    rfl
  · rw [if_neg h, if_neg h]
    rfl

/-- The target of an entry that is a pointer is reported, or visited as a schema. -/
theorem settles_pointer {rest : List (Step × Value)} {actions : List Action}
    (hs : s.answers = some answers) (shaped : PointerShaped name)
    (next : ∀ t, Settles answers (visit s depth) path rest t
      ((performAll s (visit s depth) actions).run t)) :
    Settles answers (visit s depth) path ((.key key, .text name) :: rest) t
      ((performAll s (visit s depth)
        (.follow true (.text name) "Schema" (path ++ [.key key]) :: actions)).run t) := by
  rw [performAll_cons, EStateM.run_bind, Action.perform, run_follow, hs]
  dsimp only
  cases answer : answers t.asked (.text name) with
  | error fault => exact .unanswered shaped answer
  | ok target =>
    dsimp only
    by_cases hnull : target = .null
    · subst hnull
      exact .unresolved shaped answer (next _)
    · cases mapping : target.isMapping with
      | false =>
        rw [targetActions_of_ne_null hnull, mapping]
        exact .unfit shaped answer hnull mapping (next _)
      | true =>
        have hvisit : (performAll s (visit s depth)
            (targetActions true (.text name) "Schema" (path ++ [.key key]) target)).run
              (asking t (.text name)) =
            (visit s depth target "Schema" (path ++ [.key key])).run (followed t (.text name)) := by
          rw [targetActions_of_ne_null hnull, mapping]
          simp [Action.perform, followed, asking]
        rw [hvisit]
        have container : target.isContainer := by
          cases target <;> first | rfl | contradiction
        cases ended : (visit s depth target "Schema" (path ++ [.key key])).run
            (followed t (.text name)) with
        | error fault u => exact .broken shaped answer mapping ended
        | ok _ u =>
          exact .visited shaped answer mapping ended (seen_of_run_visit container ended) (next u)

theorem keyed_cons (key : Scalar) (v : Value) (entries : List (Scalar × Value)) :
    Leaf.keyed ((key, v) :: entries) = (key.step, v) :: Leaf.keyed entries := rfl

theorem text?_eq_some (h : v.text? = some name) : v = .text name := by
  unfold Value.text? at h
  split at h
  · rw [Option.some.inj h]
  · contradiction

theorem settles_entries (hs : s.answers = some answers) (entries : List (Scalar × Value))
    (t : Traversal) :
    Settles answers (visit s depth) path (Leaf.keyed entries) t
      ((performAll s (visit s depth) ((Leaf.keyed entries).flatMap fun (step, v) =>
        childActions (mappingType frozen) path step v)).run t) := by
  induction entries generalizing t with
  | nil => exact .done t
  | cons entry entries ih =>
    obtain ⟨key, v⟩ := entry
    rw [keyed_cons, List.flatMap_cons]
    dsimp only
    cases hwritable : key.isWritable with
    | false =>
      obtain ⟨number, hstep⟩ := Scalar.exists_step_eq_unwritten hwritable
      rw [hstep, childActions_unwritten]
      exact .unwritten t
    | true =>
      rw [Scalar.step_of_isWritable hwritable]
      cases htext : v.text? with
      | none =>
        rw [childActions_misfit htext]
        simp only [List.cons_append, List.nil_append, performAll_cons, Action.perform, log_nil,
          pure_bind, EStateM.run_bind, run_report]
        exact .misfit htext (ih _)
      | some name =>
        obtain rfl := text?_eq_some htext
        rw [childActions_text]
        simp only [List.cons_append, List.nil_append, performAll_cons, Action.perform, log_nil,
          report_nil, pure_bind]
        by_cases shaped : PointerShaped name
        · rw [if_pos shaped]
          exact settles_pointer hs shaped ih
        · rw [if_neg shaped]
          exact .name shaped (ih t)

/-- The entries of a mapping that are settled without a fault have keys that can be written. -/
theorem writtenEntries_eq_self {below : Visit} {entries : List (Scalar × Value)} {u : Traversal}
    (h : Settles answers below path (Leaf.keyed entries) t (.ok () u)) :
    Value.writtenEntries entries = entries := by
  induction entries generalizing t with
  | nil => rfl
  | cons entry entries ih =>
    obtain ⟨key, v⟩ := entry
    rw [keyed_cons] at h
    cases hwritable : key.isWritable with
    | false =>
      obtain ⟨number, hstep⟩ := Scalar.exists_step_eq_unwritten hwritable
      rw [hstep] at h
      cases h
    | true =>
      rw [Scalar.step_of_isWritable hwritable] at h
      have hrest : ∃ t, Settles answers below path (Leaf.keyed entries) t (.ok () u) := by
        cases h <;> exact ⟨_, ‹_›⟩
      obtain ⟨t, hrest⟩ := hrest
      have hcons : Value.writtenEntries ((key, v) :: entries) =
          (key, v) :: Value.writtenEntries entries := List.takeWhile_cons_of_pos hwritable
      rw [hcons, ih hrest]

/-- The pointers that are asked for at the entries. -/
theorem pointers_entries (entries : List (Scalar × Value)) :
    Action.pointers ((Leaf.keyed entries).flatMap fun (step, v) =>
      childActions (mappingType frozen) path step v) =
        pointersIn (Value.writtenEntries entries) := by
  have hentry : ∀ key v, (∀ a ∈ childActions (mappingType frozen) path (.key key) v,
      ∀ fault, a ≠ .fail fault) ∧
      (childActions (mappingType frozen) path (.key key) v).filterMap Action.pointer? =
        [v].filter fun v => v.text?.any fun name => PointerShaped name := by
    intro key v
    cases htext : v.text? with
    | none =>
      rw [childActions_misfit htext]
      simp [Action.pointer?, htext]
    | some name =>
      obtain rfl := text?_eq_some htext
      rw [childActions_text]
      by_cases shaped : PointerShaped name
      · simp [Value.text?, shaped, List.filterMap_cons, Action.pointer?]
      · simp [Value.text?, shaped, List.filterMap_cons, Action.pointer?]
  induction entries with
  | nil => rfl
  | cons entry entries ih =>
    obtain ⟨key, v⟩ := entry
    rw [keyed_cons, List.flatMap_cons]
    dsimp only
    cases hwritable : key.isWritable with
    | false =>
      obtain ⟨number, hstep⟩ := Scalar.exists_step_eq_unwritten hwritable
      have hnone : Value.writtenEntries ((key, v) :: entries) = [] :=
        List.takeWhile_cons_of_neg (by simp [hwritable])
      rw [hstep, childActions_unwritten, hnone]
      rfl
    | true =>
      have hcons : Value.writtenEntries ((key, v) :: entries) =
          (key, v) :: Value.writtenEntries entries := List.takeWhile_cons_of_pos hwritable
      rw [Scalar.step_of_isWritable hwritable, Action.pointers_append (hentry _ v).1,
        (hentry _ v).2, ih, hcons]
      exact (List.filter_append [v] ((Value.writtenEntries entries).map Prod.snd)).symm

/-- Nothing but the entries of such a mapping is looked at. -/
theorem nodeActions_mappingType (path : Path) {r : Registry} {identity : Nat}
    {entries : List (Scalar × Value)} (own : pointer? entries = none)
    (found : r.lookup "DiscriminatorMapping" = .ok (mappingType frozen)) :
    nodeActions r (.mapping identity entries) "DiscriminatorMapping" path =
      [.log [], .report []] ++ (Leaf.keyed entries).flatMap fun (step, v) =>
        childActions (mappingType frozen) path step v := by
  unfold nodeActions
  rw [show pointerOf? (.mapping identity entries) = none from own, found]
  cases frozen <;> rfl

/-- What the visit of a discriminator's mapping does and asks for. -/
structure VisitsEntries (r : Registry) (answers : PointerAnswers) (depth : Nat) (node : Value)
    (entries : List (Scalar × Value)) (path : Path) (t : Traversal) : Prop where
  /-- The mapping is marked, and then its entries are settled. -/
  settles : Settles answers (visit { registry := r, answers } depth) path (Leaf.keyed entries)
    (marked t node "DiscriminatorMapping")
    ((visit { registry := r, answers } (depth + 1) node "DiscriminatorMapping" path).run t)
  /-- All that is asked for on the way. -/
  asked : (left (visit { registry := r, answers } (depth + 1) node "DiscriminatorMapping" path)
      t).asked = t.asked ++
    (questions { registry := r, answers } (depth + 1) node "DiscriminatorMapping" path t).map
      Question.pointer
  /-- What the mapping itself asks for, up to a fault. -/
  own_prefix : ownPointers { registry := r, answers } (depth + 1) node "DiscriminatorMapping" path t
    <+: pointersIn entries
  own : ∀ u,
    (visit { registry := r, answers } (depth + 1) node "DiscriminatorMapping" path).run t =
      .ok () u →
    ownPointers { registry := r, answers } (depth + 1) node "DiscriminatorMapping" path t =
      pointersIn entries

theorem visitsEntries_of_lookup {r : Registry} (answers : PointerAnswers) (depth : Nat)
    {identity : Nat} {entries : List (Scalar × Value)} (path : Path)
    (found : r.lookup "DiscriminatorMapping" = .ok (mappingType frozen))
    (own : pointer? entries = none)
    (fresh : ¬ Seen t (.mapping identity entries) "DiscriminatorMapping") :
    VisitsEntries r answers depth (.mapping identity entries) entries path t := by
  let s : Surroundings := { registry := r, answers }
  have hactions : nodeActions s.registry (.mapping identity entries) "DiscriminatorMapping" path =
      _ := nodeActions_mappingType path own found
  have hpointers : Action.pointers (nodeActions s.registry (.mapping identity entries)
      "DiscriminatorMapping" path) = pointersIn (Value.writtenEntries entries) := by
    rw [hactions, Action.pointers_append (by simp), pointers_entries]
    rfl
  have hsettles : Settles answers (visit s depth) path (Leaf.keyed entries)
      (marked t (.mapping identity entries) "DiscriminatorMapping")
      ((visit s (depth + 1) (.mapping identity entries) "DiscriminatorMapping" path).run t) := by
    rw [run_visit s fresh, hactions, performAll_append]
    simp only [performAll_cons, performAll_nil, Action.perform, log_nil, report_nil, pure_bind]
    exact settles_entries rfl entries _
  have hown := ownPointers_eq (s := s) depth path rfl rfl fresh
  rw [hpointers] at hown
  refine ⟨hsettles, (visit_traces s (depth + 1) _ _ path t).asked, hown.1.trans ?_,
    fun u hu => ?_⟩
  · exact ((List.takeWhile_prefix _).map Prod.snd).filter _
  · rw [hown.2 u hu, writtenEntries_eq_self (hu ▸ hsettles)]

end Entries

end Walk

namespace Dialect

open Shapes Walk

theorem lookup_mappingType {d : Dialect} (hd : d ∈ [openApi3, asyncApi2]) (settings : Settings)
    {r : Registry} (built : (d.build settings).outcome = .ok r) :
    r.lookup "DiscriminatorMapping" = .ok (mappingType settings.freeze) := by
  have hunextended : "DiscriminatorMapping" ∉ extendedTypes := by decide
  have hlisted : ("DiscriminatorMapping", JsonSchema.discriminatorMapping) ∈ d.types := by
    rcases List.mem_cons.mp hd with rfl | hd
    · exact List.mem_of_getElem? (i := 40) rfl
    · obtain rfl := List.mem_singleton.mp hd
      exact List.mem_of_getElem? (i := 5) rfl
  rw [lookup_build_of_mem settings built hlisted hunextended]
  rfl

/-- In both dialects that have discriminators, and however pointers are answered, a mapping that
stands for no other node has its pointers followed and its other entries checked. -/
theorem visitsEntries {d : Dialect} (hd : d ∈ [openApi3, asyncApi2]) (settings : Settings)
    {r : Registry} (built : (d.build settings).outcome = .ok r) (answers : PointerAnswers)
    (depth identity : Nat) {entries : List (Scalar × Value)} (own : pointer? entries = none)
    (path : Path) {t : Traversal}
    (fresh : ¬ Seen t (.mapping identity entries) "DiscriminatorMapping") :
    VisitsEntries r answers depth (.mapping identity entries) entries path t :=
  visitsEntries_of_lookup answers depth path (lookup_mappingType hd settings built) own fresh

/-- A pointer, a name, a number, and a file in another folder. -/
def animals : List (Scalar × Value) :=
  [(.text "dog", .text "#/Dog"), (.text "cat", .text "Cat"), (.text "legs", .int 4),
    (.text "bird", .text "birds/Bird.yaml")]

theorem visitsEntries_animals :
    openApi3 ∈ [openApi3, asyncApi2] ∧
      (openApi3.build {}).outcome = .ok openApi3.tables.freeze ∧ pointer? animals = none ∧
      ¬ Seen {} (.mapping 0 animals) "DiscriminatorMapping" ∧
      pointersIn animals = [.text "#/Dog", .text "birds/Bird.yaml"] ∧
      VisitsEntries openApi3.tables.freeze (fun _ _ => .ok .null) 0 (.mapping 0 animals) animals
        [.key "mapping"] {} := by
  have member : openApi3 ∈ [openApi3, asyncApi2] := List.mem_cons_self
  have built : (openApi3.build {}).outcome = .ok openApi3.tables.freeze := outcome_build _ _
  have own : pointer? animals = none := rfl
  have fresh : ¬ Seen {} (.mapping 0 animals) "DiscriminatorMapping" :=
    fun ⟨_, _, hm⟩ => List.not_mem_nil hm
  have pointers : pointersIn animals = [.text "#/Dog", .text "birds/Bird.yaml"] := by
    simp [animals, pointersIn, Value.text?, PointerShaped]
  exact ⟨member, built, own, fresh, pointers,
    visitsEntries member {} built (fun _ _ => .ok .null) 0 0 own [.key "mapping"] fresh⟩

end Dialect

end ShapeLint
