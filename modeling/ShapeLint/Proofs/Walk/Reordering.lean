import ShapeLint.Proofs.Descriptor.Reordering
import ShapeLint.Proofs.Leaf.Reordering
import ShapeLint.Proofs.Walk.Definedness
import ShapeLint.Proofs.Walk.Survey

/-! Walks of trees take no notice of the order of entries. Two documents that differ only in that
order are surveyed node by node: members correspond to each other up to their order, and so do the
violations found at them. Main statement: `Walk.surveyedAlike_of_reordered`. -/
namespace ShapeLint

namespace Walk

/-- Actions that find the same violations, up to their order and their messages, or that all come to
a number that cannot be written. -/
def SurveyedAlike (r : Registry) (actions actions' : List Action) : Prop :=
  (∃ found found', Surveys r actions found ∧ Surveys r actions' found' ∧ Resemble found found') ∨
    Aborts r .unwritable actions ∧ Aborts r .unwritable actions'

section SurveyedAlike

variable {r : Registry} {actions actions' actions'' later later' : List Action}

theorem SurveyedAlike.of_surveys {found : List Violation} (h : Surveys r actions found) :
    SurveyedAlike r actions actions :=
  .inl ⟨found, found, h, h, .refl _⟩

theorem SurveyedAlike.nil : SurveyedAlike r [] [] := .of_surveys .nil

theorem SurveyedAlike.unwritable (rest rest' : List Action) :
    SurveyedAlike r (.fail .unwritable :: rest) (.fail .unwritable :: rest') :=
  .inr ⟨.fail, .fail⟩

theorem SurveyedAlike.append (h : SurveyedAlike r actions actions')
    (h' : SurveyedAlike r later later') :
    SurveyedAlike r (actions ++ later) (actions' ++ later') := by
  rcases h with ⟨found, found', hfirst, hfirst', resemble⟩ | ⟨h, h'⟩
  · rcases h' with ⟨rest, rest', hlater, hlater', resemble'⟩ | ⟨hlater, hlater'⟩
    · exact .inl ⟨_, _, hfirst.append hlater, hfirst'.append hlater', resemble.append resemble'⟩
    · exact .inr ⟨hlater.behind hfirst, hlater'.behind hfirst'⟩
  · exact .inr ⟨h.append later, h'.append later'⟩

theorem SurveyedAlike.trans (h : SurveyedAlike r actions actions')
    (h' : SurveyedAlike r actions' actions'') : SurveyedAlike r actions actions'' := by
  rcases h with ⟨found, found', hfirst, hmiddle, resemble⟩ | ⟨hfirst, hmiddle⟩
  · rcases h' with ⟨found₁, found'', hmiddle', hlast, resemble'⟩ | ⟨hmiddle', -⟩
    · obtain rfl := hmiddle.unique hmiddle'
      exact .inl ⟨_, _, hfirst, hlast, resemble.trans resemble'⟩
    · exact absurd hmiddle hmiddle'.not_surveys
  · rcases h' with ⟨_, _, hmiddle', -, -⟩ | ⟨-, hlast⟩
    · exact absurd hmiddle' hmiddle.not_surveys
    · exact .inr ⟨hfirst, hlast⟩

theorem SurveyedAlike.symm (h : SurveyedAlike r actions actions') :
    SurveyedAlike r actions' actions :=
  h.imp (fun ⟨found, found', hfound, hfound', resemble⟩ =>
    ⟨found', found, hfound', hfound, resemble.symm⟩) And.symm

/-- Two parts that change places. -/
theorem SurveyedAlike.exchange (h : SurveyedAlike r actions actions)
    (h' : SurveyedAlike r later later) : SurveyedAlike r (actions ++ later) (later ++ actions) := by
  rcases h with ⟨found, _, hfirst, -, -⟩ | ⟨h, -⟩
  · rcases h' with ⟨rest, _, hlater, -, -⟩ | ⟨hlater, -⟩
    · exact .inl ⟨_, _, hfirst.append hlater, hlater.append hfirst, .of_perm List.perm_append_comm⟩
    · exact .inr ⟨hlater.behind hfirst, hlater.append actions⟩
  · rcases h' with ⟨rest, _, hlater, -, -⟩ | ⟨hlater, -⟩
    · exact .inr ⟨h.append later, h.behind hlater⟩
    · exact .inr ⟨h.append later, hlater.append actions⟩

variable {α : Type} {f : α → List Action} {xs ys : List α}

/-- Parts that correspond to each other one by one. -/
theorem SurveyedAlike.flatMap
    (h : List.Forall₂ (fun x y => SurveyedAlike r (f x) (f y)) xs ys) :
    SurveyedAlike r (xs.flatMap f) (ys.flatMap f) := by
  induction h with
  | nil => exact .nil
  | cons hxy _ ih => exact hxy.append ih

/-- Parts that change places. -/
theorem SurveyedAlike.flatMap_perm (order : xs.Perm ys)
    (h : ∀ x ∈ xs, SurveyedAlike r (f x) (f x)) :
    SurveyedAlike r (xs.flatMap f) (ys.flatMap f) := by
  induction order with
  | nil => exact .nil
  | cons x _ ih =>
    obtain ⟨hx, hxs⟩ := List.forall_mem_cons.mp h
    exact hx.append (ih hxs)
  | swap x y zs =>
    obtain ⟨hy, hxs⟩ := List.forall_mem_cons.mp h
    obtain ⟨hx, hzs⟩ := List.forall_mem_cons.mp hxs
    have hrest : SurveyedAlike r (zs.flatMap f) (zs.flatMap f) :=
      .flatMap (List.forall₂_same.mpr hzs)
    simp only [List.flatMap_cons, ← List.append_assoc]
    exact (hy.exchange hx).append hrest
  | trans first _ ih ih' => exact (ih h).trans (ih' fun x hx => h x (first.mem_iff.mpr hx))

end SurveyedAlike

section Reordering

variable {r : Registry} {defined : String → Prop} {d : Descriptor} {v w : Value} {path : Path}

theorem surveys_leaf {leaf : Leaf} {found : List Violation}
    (checked : leaf.check v path d.name = .ok found) :
    Surveys r (leafActions d leaf v path) (found ++ []) := by
  unfold leafActions
  simp only [checked]
  refine .report ?_
  cases nonempty? leaf.resolveAs with
  | none => exact .nil
  | some type =>
    dsimp only
    split
    · exact .follow .nil
    · exact .nil

theorem surveyedAlike_leaf (confined : d.Confined defined fun _ => False) (h : v.Reordered w)
    {key : Value} {leaf : Leaf} (hv : d.ruling key v = .ok (.leaf leaf))
    (hw : d.ruling key w = .ok (.leaf leaf)) :
    SurveyedAlike r (leafActions d leaf v path) (leafActions d leaf w path) := by
  cases hcheck : leaf.check v path d.name with
  | error fault =>
    obtain ⟨rfl, -⟩ := (confined.leaf hv hcheck).resolve_left id
    cases hcheck' : leaf.check w path d.name with
    | error fault =>
      obtain ⟨rfl, -⟩ := (confined.leaf hw hcheck').resolve_left id
      simp only [leafActions, hcheck, hcheck']
      exact .unwritable [] []
    | ok found' =>
      obtain ⟨found, hfound, -⟩ := Leaf.resemble_check h.symm hcheck'
      simp [hcheck] at hfound
  | ok found =>
    obtain ⟨found', hcheck', resemble⟩ := Leaf.resemble_check h hcheck
    exact .inl ⟨_, _, surveys_leaf hcheck, surveys_leaf hcheck', resemble.append (.refl [])⟩

/-- What is found in values that differ in the order of entries, wherever they are visited. -/
def VisitedAlike (r : Registry) (defined : String → Prop) (v w : Value) : Prop :=
  ∀ ⦃type⦄, defined type → ∀ path,
    SurveyedAlike r (nodeActions r v type path) (nodeActions r w type path)

theorem SurveyedAlike.log {actions actions' : List Action} (h : SurveyedAlike r actions actions')
    (records records' : List LogRecord) :
    SurveyedAlike r (.log records :: actions) (.log records' :: actions') := by
  rcases h with ⟨found, found', h, h', resemble⟩ | ⟨h, h'⟩
  · exact .inl ⟨found, found', .log h, .log h', resemble⟩
  · exact .inr ⟨.later (.log .nil) h, .later (.log .nil) h'⟩

theorem SurveyedAlike.visit {v w : Value} {type : String}
    (h : SurveyedAlike r (nodeActions r v type path) (nodeActions r w type path)) :
    SurveyedAlike r [.visit v type path] [.visit w type path] := by
  rcases h with ⟨found, found', hv, hw, resemble⟩ | ⟨hv, hw⟩
  · exact .inl ⟨_, _, .visit hv .nil, .visit hw .nil, resemble.append (.refl [])⟩
  · exact .inr ⟨.inside hv, .inside hw⟩

theorem surveyedAlike_child (confined : d.Confined defined fun _ => False)
    (orderless : d.Orderless) (h : v.Reordered w) (visited : VisitedAlike r defined v w)
    (path : Path) (step : Step) :
    SurveyedAlike r (childActions d path step v) (childActions d path step w) := by
  have hrulings : rulingAt d step v = rulingAt d step w := by
    simp only [rulingAt, orderless.ruling h]
  unfold childActions
  rw [hrulings]
  cases hruling : rulingAt d step w with
  | error fault =>
    obtain rfl : fault = .unwritable :=
      (rulingAt_error hruling).elim Leaf.take_error fun h => (confined.rule h).elim
    exact .unwritable [] []
  | ok ruling =>
    refine SurveyedAlike.log ?_ _ _
    obtain ⟨-, hw⟩ := rulingAt_eq_ok.mp hruling
    obtain ⟨-, hv⟩ := rulingAt_eq_ok.mp (hrulings.trans hruling)
    cases ruling with
    | rejected => exact .of_surveys (.report .nil)
    | reference type =>
      exact (visited (confined.targets hw type (by simp [Ruling.targets])) (path ++ [step])).visit
    | leaf leaf => exact surveyedAlike_leaf confined h hv hw
    | unvalidated why => exact .nil
    | extension => exact .nil

theorem surveyedAlike_checks (confined : d.Confined defined fun _ => False)
    (orderless : d.Orderless) (once : v.KeysOnce) (h : v.Reordered w) (path : Path) :
    SurveyedAlike r (checkActions (d.checkNode v path)) (checkActions (d.checkNode w path)) := by
  have hchecks := orderless.keys once h path
  have hfault := fun fault => @confined.keys v path fault
  unfold checkActions
  refine SurveyedAlike.log ?_ _ _
  generalize (d.checkNode v path).outcome = x at hchecks hfault
  generalize (d.checkNode w path).outcome = y at hchecks
  cases hchecks with
  | found order =>
    exact .inl ⟨_, _, .report .nil, .report .nil, (Resemble.of_perm order).append (.refl [])⟩
  | failed fault =>
    obtain ⟨rfl, -⟩ := (hfault fault rfl).resolve_left id
    exact .unwritable [] []

/-- The children of a node, which correspond to those of the other node up to their order. -/
theorem surveyedAlike_children (confined : d.Confined defined fun _ => False)
    (orderless : d.Orderless) (h : v.Reordered w) (path : Path)
    (visited : ∀ m ∈ v.members, ∀ y, m.2.Reordered y → VisitedAlike r defined m.2 y) :
    SurveyedAlike r (v.members.flatMap fun (step, x) => childActions d path step x)
      (w.members.flatMap fun (step, x) => childActions d path step x) := by
  obtain ⟨mid, pairs, order⟩ := h.members
  have children : List.Forall₂ (fun m m' => SurveyedAlike r (childActions d path m.1 m.2)
      (childActions d path m'.1 m'.2)) v.members mid := by
    refine ((List.forall₂_and_left _ _).mpr ⟨visited, pairs⟩).imp ?_
    rintro ⟨step, x⟩ ⟨_, y⟩ ⟨visited, rfl, hxy⟩
    exact surveyedAlike_child confined orderless hxy (visited y hxy) path step
  refine (SurveyedAlike.flatMap children).trans (.flatMap_perm order fun m' hm' => ?_)
  obtain ⟨m, -, hm⟩ := Value.exists_of_forall₂ children.flip hm'
  exact (SurveyedAlike.symm hm).trans hm

theorem isSome_members?_congr (h : v.hollow = w.hollow) :
    (members? d v).isSome = (members? d w).isSome := by
  cases v <;> cases w <;> simp_all [Value.hollow, members?] <;> split <;> rfl

theorem surveyedAlike_shape (confined : d.Confined defined fun _ => False)
    (orderless : d.Orderless) (once : v.KeysOnce) (h : v.Reordered w) (path : Path)
    (visited : ∀ m ∈ v.members, ∀ y, m.2.Reordered y → VisitedAlike r defined m.2 y) :
    SurveyedAlike r (shapeActions d v path) (shapeActions d w path) := by
  have hshape := isSome_members?_congr (d := d) h.hollow
  unfold shapeActions
  cases hv : members? d v with
  | none =>
    have hw : members? d w = none := by simpa [hv] using hshape
    simp only [hw, typeMismatch, Value.typeName_congr h.hollow]
    exact .of_surveys (.report .nil)
  | some members =>
    obtain ⟨members', hw⟩ :=
      Option.isSome_iff_exists.mp (hshape ▸ Option.isSome_iff_exists.mpr ⟨_, hv⟩)
    obtain rfl := members?_eq hv
    obtain rfl := members?_eq hw
    simp only [hw]
    exact (surveyedAlike_checks confined orderless once h path).append
      (surveyedAlike_children confined orderless h path visited)

theorem pointerOf?_congr (once : v.KeysOnce) (h : v.Reordered w) : pointerOf? v = pointerOf? w := by
  have hpointer := h.fieldText once "$ref"
  cases h with
  | mapping => exact hpointer
  | _ => rfl

/-- In a registry whose rules take no notice of the order of entries, documents that differ only in
that order are found wanting in the same way, or a number that cannot be written ends the walks of
both. -/
theorem surveyedAlike_of_reordered (hdefined : ∀ type, defined type → r.contains type)
    (confined : ∀ type d, r.lookup type = .ok d → d.Confined defined fun _ => False)
    (orderless : ∀ type d, r.lookup type = .ok d → d.Orderless) (once : v.KeysOnce)
    (h : v.Reordered w) : VisitedAlike r defined v w := by
  induction v using Value.members_induction generalizing w with
  | step v ih =>
    intro type htype path
    obtain ⟨d, hd⟩ := r.exists_lookup (hdefined type htype)
    unfold nodeActions
    rw [← pointerOf?_congr once h]
    cases pointerOf? v with
    | some pointer => exact .of_surveys (.follow .nil)
    | none =>
      simp only [hd]
      refine surveyedAlike_shape (confined type d hd) (orderless type d hd) once h path ?_
      exact fun m hm y hy => ih m hm (once.of_member hm) hy

end Reordering

end Walk

end ShapeLint
