import ShapeLint.Proofs.Descriptor.Repetition
import ShapeLint.Proofs.Walk.Causes
import ShapeLint.Proofs.Walk.Ending

/-! Walks report nothing twice. Each path is come to by one chain of pointers at most, and what a
visit reports stands at its path or further on; so neither shared containers nor pointers in a
circle let a walk repeat a violation. Main statement: `Walk.distinct_of_finds`. -/
namespace ShapeLint

/-- A violation at a path or inside it. A key that is not allowed is reported by the container
around it. -/
structure Violation.Within (path : Path) (x : Violation) : Prop where
  place : path <+: x.path
  inside : x.code = .disallowedKey → x.path ≠ path

theorem Violation.within_of_path {path : Path} {x : Violation} (h : x.path = path)
    (code : x.code ≠ .disallowedKey) : x.Within path :=
  ⟨h ▸ List.prefix_rfl, fun hcode => absurd hcode code⟩

/-- Answers hold only mappings with texts as keys, each once. -/
def Surroundings.AnswersTextKeyed (s : Surroundings) : Prop :=
  ∀ ⦃answers asked pointer target⦄, s.answers = some answers →
    answers asked pointer = .ok target → target.KeysOnce ∧ target.TextKeyed

/-- No type of a registry requires a key twice. -/
def Registry.RequiresOnce (r : Registry) : Prop :=
  ∀ ⦃type d⦄, r.lookup type = .ok d → d.RequiresOnce

namespace Walk

/-- A part of a walk adds these violations, none of which repeats another. -/
structure Adds (found : List Violation) (t u : Traversal) : Prop where
  violations : u.violations = t.violations ++ found
  distinct : Distinct found

/-- What a part of a walk adds stands at a path or inside it. -/
def Reports (path : Path) (t u : Traversal) : Prop :=
  ∃ found, Adds found t u ∧ ∀ x ∈ found, x.Within path

/-- What a part of a walk adds stands at members of a node or inside them. -/
def ReportsAtMembers (path : Path) (steps : List Step) (t u : Traversal) : Prop :=
  ∃ found, Adds found t u ∧ ∀ x ∈ found, ∃ step ∈ steps, x.Within (path ++ [step])

section Reports

variable {t t₁ u : Traversal} {path : Path} {step : Step} {steps : List Step}

theorem Reports.of_same (h : u.violations = t.violations) : Reports path t u :=
  ⟨[], ⟨by simp [h], .nil⟩, by simp⟩

theorem Reports.of_start (h : Reports path t₁ u) (same : t₁.violations = t.violations) :
    Reports path t u := by
  obtain ⟨found, adds, hwithin⟩ := h
  exact ⟨found, ⟨same ▸ adds.violations, adds.distinct⟩, hwithin⟩

theorem Reports.singleton {x : Violation} (h : x.Within path)
    (hu : u.violations = t.violations ++ [x]) : Reports path t u :=
  ⟨[x], ⟨hu, .singleton x⟩, by simpa using h⟩

/-- One member after another, each by a step of its own. -/
theorem Reports.cons (h : Reports (path ++ [step]) t t₁) (new : step ∉ steps)
    (h' : ReportsAtMembers path steps t₁ u) : ReportsAtMembers path (step :: steps) t u := by
  obtain ⟨found, adds, hwithin⟩ := h
  obtain ⟨rest, adds', hmembers⟩ := h'
  have hbelow : AtMembers path steps rest := fun x hx =>
    (hmembers x hx).imp fun _ h => h.imp_right Violation.Within.place
  refine ⟨found ++ rest, ⟨?_, ?_⟩, List.forall_mem_append.mpr ⟨?_, ?_⟩⟩
  · rw [adds'.violations, adds.violations, List.append_assoc]
  · exact adds.distinct.append_members adds'.distinct new (fun x hx => (hwithin x hx).place) hbelow
  · exact fun x hx => ⟨step, List.mem_cons_self, hwithin x hx⟩
  · exact fun x hx => (hmembers x hx).imp fun _ h => h.imp_left (List.mem_cons_of_mem _)

/-- What is found wrong with the keys of a node is not reported again at its members. -/
theorem Reports.of_members {found : List Violation} (adds : Adds found t t₁)
    (place : ∀ x ∈ found, (x.path = path ∧ x.code ≠ .disallowedKey) ∨
      ∃ step, x.path = path ++ [step] ∧ x.code = .disallowedKey)
    (h : ReportsAtMembers path steps t₁ u) : Reports path t u := by
  obtain ⟨rest, adds', hmembers⟩ := h
  refine ⟨found ++ rest, ⟨?_, adds.distinct.append adds'.distinct ?_⟩,
    List.forall_mem_append.mpr ⟨?_, ?_⟩⟩
  · rw [adds'.violations, adds.violations, List.append_assoc]
  · intro x hx y hy repeats
    obtain ⟨step, -, hy⟩ := hmembers y hy
    have hplace := repeats.path ▸ hy.place
    rcases place x hx with ⟨hpath, -⟩ | ⟨other, hpath, hcode⟩
    · simpa [hpath] using hplace.length_le
    · have hother : path ++ [other] <+: x.path := ⟨[], by rw [hpath, List.append_nil]⟩
      obtain rfl := step_eq_of_prefix hplace hother
      exact hy.inside (repeats.code ▸ hcode) (repeats.path ▸ hpath)
  · intro x hx
    rcases place x hx with ⟨hpath, hcode⟩ | ⟨step, hpath, -⟩
    · exact Violation.within_of_path hpath hcode
    · exact ⟨⟨[step], hpath.symm⟩, fun _ => by simp [hpath]⟩
  · intro x hx
    obtain ⟨step, -, hx⟩ := hmembers x hx
    have hlength := hx.place.length_le
    refine ⟨(List.prefix_append path [step]).trans hx.place, fun _ heq => ?_⟩
    simp [heq] at hlength

end Reports

/-- What the visits below are to report. -/
def ReportsBelow (below : Visit) : Prop :=
  ∀ ⦃node type path t u⦄, node.KeysOnce → node.TextKeyed →
    (below node type path).run t = .ok () u → Reports path t u

section Run

variable {s : Surroundings} {below : Visit} {t u : Traversal} {path : Path} {type : String}
  {node v : Value} {d : Descriptor} {step : Step}

theorem reports_target (hbelow : ReportsBelow below) {direct : Bool} {pointer : Value}
    (once : v.KeysOnce) (texts : v.TextKeyed)
    (h : (performAll s below (targetActions direct pointer type path v)).run t = .ok () u) :
    Reports path t u := by
  by_cases hnull : v = .null
  · subst hnull
    obtain ⟨-, rfl⟩ := (run_performAll_naming_eq_ok _ _).mp h
    exact .singleton (Violation.within_of_path rfl (by simp [unresolved])) rfl
  · rw [targetActions_of_ne_null hnull] at h
    split at h
    · obtain ⟨-, rfl⟩ := (run_performAll_naming_eq_ok _ _).mp h
      exact .singleton (Violation.within_of_path rfl (by simp [unfitTarget])) rfl
    · obtain ⟨t₁, hlog, hvisit⟩ := (run_performAll_cons_eq_ok _ _).mp h
      obtain rfl : _ = t₁ := by simpa [Action.perform] using hlog
      simp only [performAll_cons, performAll_nil, Action.perform, bind_pure_unit] at hvisit
      exact (hbelow once texts hvisit).of_start rfl

theorem reports_follow (hbelow : ReportsBelow below) (keyed : s.AnswersTextKeyed) {direct : Bool}
    {pointer : Value} (h : (follow s below direct pointer type path).run t = .ok () u) :
    Reports path t u := by
  rw [run_follow] at h
  cases hs : s.answers with
  | none =>
    obtain rfl : t = u := by simpa [hs] using h
    exact .of_same rfl
  | some answers =>
    cases hanswer : answers t.asked pointer with
    | error fault => simp [hs, hanswer] at h
    | ok v =>
      simp only [hs, hanswer] at h
      obtain ⟨once, texts⟩ := keyed hs hanswer
      exact (reports_target hbelow once texts h).of_start rfl

theorem reports_leaf (hbelow : ReportsBelow below) (keyed : s.AnswersTextKeyed) {leaf : Leaf}
    (once : v.KeysOnce) (texts : v.TextKeyed)
    (h : (performAll s below (leafActions d leaf v path)).run t = .ok () u) :
    Reports path t u := by
  unfold leafActions at h
  cases hcheck : leaf.check v path d.name with
  | error fault => simp [hcheck, Action.perform] at h
  | ok found =>
    simp only [hcheck] at h
    obtain ⟨t₁, hreport, h⟩ := (run_performAll_cons_eq_ok _ _).mp h
    obtain rfl : _ = t₁ := by simpa [Action.perform] using hreport
    have hfound : Reports path t { t with violations := t.violations ++ found } := by
      refine ⟨found, ⟨rfl, Leaf.distinct_check once texts hcheck⟩, fun x hx => ?_⟩
      refine ⟨Leaf.prefix_of_check hcheck hx, fun hcode => ?_⟩
      have hleaf := (Leaf.located_of_check hcheck hx).code
      simp [hcode, ViolationCode.ofLeaf] at hleaf
    cases hdirect : nonempty? leaf.resolveAs with
    | none =>
      obtain rfl : _ = u := by simpa [hdirect] using h
      exact hfound
    | some target =>
      cases found with
      | nil =>
        -- The walk goes on only if the leaf has nothing to report.
        simp only [hdirect, List.isEmpty_nil, if_true, performAll_cons, performAll_nil,
          Action.perform, bind_pure_unit] at h
        exact (reports_follow hbelow keyed h).of_start (List.append_nil _)
      | cons x found =>
        obtain rfl : _ = u := by simpa [hdirect] using h
        exact hfound

theorem reports_child (hbelow : ReportsBelow below) (keyed : s.AnswersTextKeyed)
    (once : v.KeysOnce) (texts : v.TextKeyed)
    (h : (performAll s below (childActions d path step v)).run t = .ok () u) :
    Reports (path ++ [step]) t u := by
  unfold childActions at h
  cases hruling : rulingAt d step v with
  | error fault => simp [hruling, Action.perform] at h
  | ok ruling =>
    simp only [hruling] at h
    obtain ⟨t₁, hlog, h⟩ := (run_performAll_cons_eq_ok _ _).mp h
    obtain rfl : _ = t₁ := by simpa [Action.perform] using hlog
    cases ruling with
    | rejected =>
      obtain rfl : _ = u := by simpa [rulingActions, Action.perform] using h
      exact .singleton (Violation.within_of_path rfl (by simp [unknownKey])) rfl
    | reference type =>
      simp only [rulingActions, performAll_cons, performAll_nil, Action.perform,
        bind_pure_unit] at h
      exact (hbelow once texts h).of_start rfl
    | leaf leaf => exact (reports_leaf hbelow keyed once texts h).of_start rfl
    | unvalidated why =>
      obtain rfl : _ = u := by simpa [rulingActions] using h
      exact .of_same rfl
    | extension =>
      obtain rfl : _ = u := by simpa [rulingActions] using h
      exact .of_same rfl

theorem reports_children (hbelow : ReportsBelow below) (keyed : s.AnswersTextKeyed)
    {members : List (Step × Value)} (steps : (members.map Prod.fst).Nodup)
    (hmembers : ∀ step v, (step, v) ∈ members → v.KeysOnce ∧ v.TextKeyed)
    (h : (performAll s below (members.flatMap fun (step, v) => childActions d path step v)).run t =
      .ok () u) : ReportsAtMembers path (members.map Prod.fst) t u := by
  induction members generalizing t with
  | nil =>
    obtain rfl : t = u := by simpa using h
    exact ⟨[], ⟨by simp, .nil⟩, by simp⟩
  | cons member members ih =>
    obtain ⟨step, v⟩ := member
    rw [List.flatMap_cons, performAll_append, EStateM.run_bind] at h
    rw [List.map_cons, List.nodup_cons] at steps
    obtain ⟨once, texts⟩ := hmembers step v List.mem_cons_self
    cases hchild : (performAll s below (childActions d path step v)).run t with
    | error fault t₁ => simp [hchild] at h
    | ok _ t₁ =>
      simp only [hchild] at h
      have hrest := ih steps.2 (fun step v hv => hmembers step v (List.mem_cons_of_mem _ hv)) h
      exact (reports_child hbelow keyed once texts hchild).cons steps.1 hrest

theorem reports_shape (hbelow : ReportsBelow below) (keyed : s.AnswersTextKeyed)
    (requires : d.RequiresOnce) (once : node.KeysOnce) (texts : node.TextKeyed)
    (h : (performAll s below (shapeActions d node path)).run t = .ok () u) :
    Reports path t u := by
  unfold shapeActions at h
  cases shape : members? d node with
  | none =>
    obtain rfl : _ = u := by simpa [shape, Action.perform] using h
    exact .singleton (Violation.within_of_path rfl (by simp [typeMismatch])) rfl
  | some members =>
    simp only [shape, checkActions, List.cons_append, List.nil_append] at h
    obtain ⟨t₁, hlog, h⟩ := (run_performAll_cons_eq_ok _ _).mp h
    obtain ⟨t₂, hreport, h⟩ := (run_performAll_cons_eq_ok _ _).mp h
    obtain rfl : _ = t₁ := by simpa [Action.perform] using hlog
    cases hchecked : (d.checkNode node path).outcome with
    | error fault => simp [hchecked, Action.perform] at hreport
    | ok found =>
      obtain rfl : _ = t₂ := by simpa [hchecked, Action.perform] using hreport
      obtain rfl := members?_eq shape
      have hmembers := reports_children hbelow keyed (Value.nodup_steps once texts)
        (fun step v hv => ⟨once.of_member hv, texts.of_member hv⟩) h
      exact .of_members ⟨rfl, Descriptor.distinct_checkNode requires once texts hchecked⟩
        (fun x hx => Descriptor.place_of_checkNode hchecked hx) hmembers

theorem reports_node (hbelow : ReportsBelow below) (keyed : s.AnswersTextKeyed)
    (requires : s.registry.RequiresOnce) (once : node.KeysOnce) (texts : node.TextKeyed)
    (h : (performAll s below (nodeActions s.registry node type path)).run t = .ok () u) :
    Reports path t u := by
  unfold nodeActions at h
  cases hpointer : pointerOf? node with
  | some pointer =>
    simp only [hpointer, performAll_cons, performAll_nil, Action.perform, bind_pure_unit] at h
    exact reports_follow hbelow keyed h
  | none =>
    cases hd : s.registry.lookup type with
    | error fault => simp [hpointer, hd, Action.perform] at h
    | ok d =>
      simp only [hpointer, hd] at h
      exact reports_shape hbelow keyed (requires hd) once texts h

/-- A visit, however deep, reports nothing twice, and only at its path or inside it. -/
theorem reports_of_visit (keyed : s.AnswersTextKeyed) (requires : s.registry.RequiresOnce)
    (depth : Nat) : ReportsBelow (visit s depth) := by
  induction depth with
  | zero =>
    intro node type path t u _ _ h
    simp [run_visit_zero] at h
  | succ depth ih =>
    intro node type path t u once texts h
    by_cases hseen : Seen t node type
    · obtain rfl : t = u := by simpa [run_visit_of_seen _ hseen] using h
      exact .of_same rfl
    · rw [run_visit _ hseen] at h
      exact (reports_node ih keyed requires once texts h).of_start rfl

/-- What a walk finds has no repetitions. -/
theorem distinct_of_finds {found : List Violation} (keyed : s.AnswersTextKeyed)
    (requires : s.registry.RequiresOnce) (once : node.KeysOnce) (texts : node.TextKeyed)
    (h : Finds s node type path found) : Distinct found := by
  obtain ⟨u, ⟨depth, h⟩, rfl⟩ := h
  obtain ⟨found, adds, -⟩ := reports_of_visit keyed requires depth once texts h
  rw [adds.violations]
  exact adds.distinct

end Run

end Walk

end ShapeLint
