import ShapeLint.Proofs.Leaf.Renumbering
import ShapeLint.Proofs.Walk.Replacement

/-! A mapping that stands for another node is as good as that node: a walk finds the same whether
it follows the mapping or comes to the node at once. Main statement: `finds_replaced`. -/
namespace ShapeLint

namespace Walk

theorem members?_rebuilt (d : Descriptor) (number : Nat → Nat) (instead : Nat → Option Value)
    (v : Value) : members? d (v.rebuilt number instead) = (members? d v).map fun members =>
      members.map fun m => (m.1, Value.rebuiltMember number instead m.2) := by
  cases v with
  | list identity xs =>
    simp only [Value.rebuilt, members?, Value.rebuiltItems_eq]
    split
    · simp [Leaf.numbered, List.zipIdx_map, Function.comp_def]
    · rfl
  | mapping identity es =>
    simp only [Value.rebuilt, members?, Value.rebuiltEntries_eq]
    split
    · rfl
    · simp [Leaf.keyed, Function.comp_def]
  | _ => rfl

namespace Replacement

variable {c : Replacement} {link : Nat → Nat → Prop} {t t' u' : Traversal} {v v' : Value}
  {type : String}

theorem outline_replaced (hc : c.Fits) (v : Value) : (c.replaced v).outline = v.outline :=
  Value.outline_exchanged hc.container v

theorem outline_targetAfter (hc : c.Fits) (pointer : Value) :
    (c.targetAfter pointer).outline = (c.target pointer).outline := by
  unfold targetAfter
  cases c.delivery with
  | shared => exact outline_replaced hc _
  | copied number => rfl

theorem replaced_replacing (hc : c.Fits) : c.replaced c.replacing = c.replacing :=
  Value.exchanged_of_occurrences c.identity c.replacing hc.apart

theorem replacing_of_shared (hd : c.delivery = .shared) :
    c.replacing = c.target (.text c.pointer) := by
  simp [replacing, hd, Delivery.give]

theorem rebuiltMember_replaced (x : Value) :
    Value.rebuiltMember id (fun i => if i = c.identity then some c.replacing else none) x =
      c.successor x :=
  Value.rebuiltMember_exchanged c.identity c.replacing x

theorem successor_of_ne {x : Value} (h : x.identity? ≠ some c.identity) :
    c.successor x = c.replaced x := if_neg h

variable (c link)

/-- Nodes that look alike in the two walks: one that stays in the document and what has become of
it, or two copies of one target. -/
inductive Alike : Value → Value → String → Prop where
  | kept {v : Value} {type : String} (reached : v.isContainer → c.Reached v type)
      (other : v.identity? ≠ some c.identity) : Alike v (c.replaced v) type
  | copied {v : Value} {type : String} {number : Option Nat → Nat → Nat} {copy copy' : Option Nat}
      (copied : c.delivery = .copied number)
      (linked : ∀ k, link (number copy k) (number copy' k)) :
      Alike (v.renumbered (number copy)) (v.renumbered (number copy')) type

/-- Nodes that the two walks come to together. -/
inductive Counterpart : Value → Value → String → Prop where
  | alike {v v' : Value} {type : String} (h : Alike c link v v' type) : Counterpart v v' type
  /-- The mapping in its place, and what has come there. -/
  | replaced {type : String} (one : c.delivery = .shared ∨ type = c.type)
      (reached : c.Reached c.reference type) : Counterpart c.reference c.replacing type
  /-- The mapping as the target of a pointer. -/
  | returned {type : String} (shared : c.delivery = .shared)
      (reached : c.Reached c.reference type) :
      Counterpart c.reference (c.replaced c.reference) type

/-- The walks may come to the target of this pointer. -/
def Asks (direct : Bool) (pointer type : String) : Prop :=
  ∀ v type', Action.LeadsTo c.resolve (.follow direct (.text pointer) type []) v type' →
    c.Reached v type'

variable {c link}

theorem Alike.mono {link' : Nat → Nat → Prop} (hle : link ≤ link') (h : c.Alike link v v' type) :
    c.Alike link' v v' type := by
  cases h with
  | kept reached other => exact .kept reached other
  | copied hd hlinked => exact .copied hd fun k => hle _ _ (hlinked k)

theorem Counterpart.mono {link' : Nat → Nat → Prop} (hle : link ≤ link')
    (h : c.Counterpart link v v' type) : c.Counterpart link' v v' type := by
  cases h with
  | alike h => exact .alike (h.mono hle)
  | replaced one reached => exact .replaced one reached
  | returned shared reached => exact .returned shared reached

theorem Alike.linked (hc : c.Fits) (hagree : c.Agree link t t') (h : c.Alike link v v' type) :
    Linked link v v' := by
  cases h with
  | kept reached other =>
    unfold Linked
    rw [replaced, Value.identity?_exchanged]
    cases hi : v.identity? with
    | none => exact .none
    | some i =>
      have hreached : c.Reached v type := reached (by simp [Value.isContainer, hi])
      refine .some (hagree.kept ?_ fun copy hgives => (hc.new hgives).2 hreached hi)
      rintro rfl
      exact other hi
  | copied hd hlinked => exact linked_renumbered hlinked _

section Pairs

variable {d : Descriptor} {step : Step}

theorem Rules.reached (h : c.Rules d step v) {type : String}
    (hruling : rulingAt d step v = .ok (.reference type)) (hv : v.isContainer) :
    c.Reached v type := by
  obtain ⟨node, nodeType, members, hnode, hown, hd, hmembers, hmember⟩ := h
  exact hnode.next (.child hown hd hmembers hmember hruling hv)

theorem Rules.asks (h : c.Rules d step v) {leaf : Leaf} {type pointer : String}
    (hruling : rulingAt d step v = .ok (.leaf leaf))
    (hdirect : nonempty? leaf.resolveAs = some type)
    (haccepted : leaf.check v [step] d.name = .ok []) (hv : v = .text pointer) :
    c.Asks true pointer type := by
  obtain ⟨node, nodeType, members, hnode, hown, hd, hmembers, hmember⟩ := h
  intro w type' hleads
  obtain ⟨rfl, target, hanswered, rfl, -, hfit⟩ := leadsTo_follow.mp hleads
  subst hv
  exact hnode.next
    (.direct hown hd hmembers hmember hruling haccepted hdirect hanswered (hfit rfl))

theorem rulingAt_outline (hd : d.Outlined) (step : Step) (v : Value) :
    rulingAt d step v.outline = rulingAt d step v := by
  simp only [rulingAt, hd.ruling]

theorem ruling_successor (hc : c.Fits) (hd : d.Outlined) (h : c.Rules d step v) :
    rulingAt d step (c.successor v) = rulingAt d step v := by
  unfold successor
  split
  · exact hc.ruling h ‹_›
  · rw [← rulingAt_outline hd, outline_replaced hc, rulingAt_outline hd]

theorem childPair_kept (hc : c.Fits) (hd : d.Outlined) (h : c.Rules d step v) :
    ChildPair (c.Counterpart link) c.Asks d step v (c.successor v) where
  ruling := ruling_successor hc hd h
  reference := by
    intro type htype
    by_cases hown : v.identity? = some c.identity
    · have hreached := h.reached htype (by simp [Value.isContainer, hown])
      have hone := hc.type h hown htype
      obtain rfl := hc.unique hreached hown
      rw [successor, if_pos hown]
      exact .replaced hone hreached
    · rw [successor_of_ne hown]
      exact .alike (.kept (h.reached htype) hown)
  leaf := fun hleaf => hc.leaf h hleaf
  pointer := by
    intro leaf type hleaf hdirect haccepted
    obtain ⟨pointer, rfl⟩ := hd.pointer (rulingAt_eq_ok.mp hleaf).2 hdirect haccepted
    exact ⟨pointer, rfl, rfl, h.asks hleaf hdirect haccepted rfl⟩

/-- A node that stays in the document leads on as before. -/
theorem pairs_kept (hc : c.Fits)
    (outlined : ∀ {type d}, c.registry.lookup type = .ok d → d.Outlined) (path : Path)
    (hreached : v.isContainer → c.Reached v type) :
    List.Forall₂ (ActionPair (c.Counterpart link) c.Asks) (nodeActions c.registry v type path)
      (nodeActions c.registry (c.replaced v) type path) := by
  refine pairs_nodeActions path outlined (outline_replaced hc v).symm ?_ ?_
  · intro pointer hpointer w type' hleads
    have hv : v.isContainer := by
      cases v <;> simp_all [pointerOf?, Value.isContainer, Value.identity?]
    obtain ⟨rfl, target, hanswered, rfl, hcontainer, -⟩ := leadsTo_follow.mp hleads
    exact (hreached hv).next (.pointer hpointer hanswered hcontainer)
  · intro d members hown hd hmembers
    have hv : v.isContainer := by
      cases v <;> simp_all [members?, Value.isContainer, Value.identity?]
    refine ⟨_, by rw [replaced, Value.exchanged, members?_rebuilt, hmembers, Option.map_some], ?_⟩
    rw [List.forall₂_map_right_iff, List.forall₂_same]
    rintro ⟨step, x⟩ hmember
    refine ⟨rfl, ?_⟩
    rw [rebuiltMember_replaced]
    exact childPair_kept hc (outlined hd)
      ⟨v, type, members, hreached hv, hown, hd, hmembers, hmember⟩

/-- Two copies of one target lead on to copies. -/
theorem pairs_copied (hc : c.Fits)
    (outlined : ∀ {type d}, c.registry.lookup type = .ok d → d.Outlined)
    (path : Path) {number : Option Nat → Nat → Nat} (hdelivery : c.delivery = .copied number)
    {copy copy' : Option Nat} (hlinked : ∀ k, link (number copy k) (number copy' k)) :
    List.Forall₂ (ActionPair (c.Counterpart link) c.Asks)
      (nodeActions c.registry (v.renumbered (number copy)) type path)
      (nodeActions c.registry (v.renumbered (number copy')) type path) := by
  have hresolve : c.resolve = none := by simp [resolve, hdelivery]
  have houtline : ∀ x : Value,
      (x.renumbered (number copy)).outline = (x.renumbered (number copy')).outline := by
    intro x
    rw [Value.outline_renumbered, Value.outline_renumbered]
  have hasks : ∀ direct pointer type, c.Asks direct pointer type := by
    intro direct pointer type w type' hleads
    obtain ⟨-, target, hanswered, -⟩ := leadsTo_follow.mp hleads
    rw [hresolve] at hanswered
    contradiction
  refine pairs_nodeActions path outlined (houtline v) (fun _ => hasks _ _ _) ?_
  intro d members hown hd hmembers
  rw [Value.renumbered, members?_rebuilt] at hmembers
  obtain ⟨originals, horiginals, rfl⟩ := Option.map_eq_some_iff.mp hmembers
  refine ⟨_, by rw [Value.renumbered, members?_rebuilt, horiginals, Option.map_some], ?_⟩
  rw [List.forall₂_map_left_iff, List.forall₂_map_right_iff, List.forall₂_same]
  rintro ⟨step, x⟩ -
  refine ⟨rfl, ?_⟩
  rw [Value.rebuiltMember_none, Value.rebuiltMember_none]
  constructor
  · rw [← rulingAt_outline (outlined hd), ← houtline, rulingAt_outline (outlined hd)]
  · intro type' hruling
    exact .alike (.copied hdelivery hlinked)
  · intro leaf hleaf
    have hdistinct := (hc.injective2 hdelivery).right
    rw [Leaf.check_renumbered (hdistinct copy), Leaf.check_renumbered (hdistinct copy')]
  · intro leaf type' hleaf hdirect haccepted
    obtain ⟨pointer, hpointer⟩ :=
      (outlined hd).pointer (rulingAt_eq_ok.mp hleaf).2 hdirect haccepted
    have hpointer' : x.renumbered (number copy') = .text pointer := by
      apply Value.eq_scalar_of_outline
      rw [← houtline x]
      exact congrArg Value.outline hpointer
    exact ⟨pointer, hpointer, hpointer', hasks _ _ _⟩

theorem Alike.pairs (hc : c.Fits)
    (outlined : ∀ {type d}, c.registry.lookup type = .ok d → d.Outlined) (path : Path)
    (h : c.Alike link v v' type) :
    List.Forall₂ (ActionPair (c.Counterpart link) c.Asks) (nodeActions c.registry v type path)
      (nodeActions c.registry v' type path) := by
  cases h with
  | kept reached other => exact pairs_kept hc outlined path reached
  | copied hd hlinked => exact pairs_copied hc outlined path hd hlinked

end Pairs

section Steps

theorem Fits.seen_reference (hc : c.Fits) :
    Seen t c.reference type ↔ (c.identity, type) ∈ t.visited := by
  constructor
  · rintro ⟨i, hi, hm⟩
    rwa [Option.some.inj (hc.identity.symm.trans hi)]
  · exact fun hm => ⟨c.identity, hc.identity, hm⟩

theorem Fits.identity?_replaced (hc : c.Fits) :
    (c.replaced c.reference).identity? = some c.identity := by
  rw [replaced, Value.identity?_exchanged, hc.identity]

theorem Fits.seen_replaced (hc : c.Fits) :
    Seen t (c.replaced c.reference) type ↔ (c.identity, type) ∈ t.visited := by
  unfold Seen
  rw [hc.identity?_replaced, ← hc.identity]
  exact hc.seen_reference

theorem Fits.pointerOf?_replaced (hc : c.Fits) :
    pointerOf? (c.replaced c.reference) = some c.pointer := by
  rw [← Value.pointerOf?_outline, outline_replaced hc, Value.pointerOf?_outline, hc.pointer]

theorem ne_null_of_outline {w : Value} (hw : w.isContainer) (h : v.outline = w.outline) :
    v ≠ .null := by
  rintro rfl
  have hcontainer : Value.null.isContainer = w.isContainer := by
    rw [← Value.isContainer_outline, h, Value.isContainer_outline]
  rw [hw] at hcontainer
  contradiction

theorem pairs_entryActions {P : Action → Action → Prop} {r : Registry} (path : Path)
    (hseen : Seen t v type ↔ Seen t' v' type)
    (h : List.Forall₂ P (nodeActions r v type path) (nodeActions r v' type path)) :
    List.Forall₂ P (entryActions t v type r path) (entryActions t' v' type r path) := by
  unfold entryActions
  by_cases hv : Seen t v type
  · rw [if_pos hv, if_pos (hseen.mp hv)]
    exact .nil
  · rw [if_neg hv, if_neg (mt hseen.mpr hv)]
    exact h

/-- Between visits, corresponding nodes may be marked. -/
theorem State.entered (h : c.State link t t') (hv : Linked link v v') :
    c.State link (entered t v type) (entered t' v' type) where
  toAgree := h.toAgree.entered hv
  replaced := by
    intro type' hm
    rcases mem_entered.mp hm with hm | ⟨hi, -⟩
    · exact (h.replaced hm).mono fun hm => mem_entered.mpr (.inl hm)
    · obtain ⟨j, -, hlink⟩ := hv.left hi
      exact absurd rfl (h.apart hlink).1
  own := by
    intro hm j hj
    obtain ⟨hfresh, hlinks⟩ := h.own (fun hm' => hm (mem_entered.mpr (.inl hm'))) hj
    refine ⟨fun type' hm' => ?_, hlinks⟩
    rcases mem_entered.mp hm' with hm' | ⟨hj', -⟩
    · exact hfresh type' hm'
    · obtain ⟨i, -, hlink⟩ := hv.right hj'
      exact hlinks i hlink

/-- Once the mapping is marked, all that is left to say is that its target is. -/
theorem Agree.state (h : c.Agree link t t')
    (hreplaced : ∀ {type}, (c.identity, type) ∈ t.visited → Seen t' c.replacing type)
    (hown : c.delivery = .shared ∨ (c.identity, c.type) ∈ t.visited) : c.State link t t' where
  toAgree := h
  replaced := hreplaced
  own hm := by
    intro i hi
    rcases hown with hd | hm'
    · rw [hd] at hi
      exact hi.elim
    · exact absurd hm' hm

variable {path : Path}

/-- Alike nodes are entered by both walks, or by neither. -/
theorem Alike.unfold (hc : c.Fits)
    (outlined : ∀ {type d}, c.registry.lookup type = .ok d → d.Outlined)
    (h : c.Alike link v v' type) (hagree : c.Agree link t t') (path : Path) :
    List.Forall₂ (ActionPair (c.Counterpart link) c.Asks)
      (entryActions t v type c.registry path) (entryActions t' v' type c.registry path) :=
  pairs_entryActions path (hagree.seen_iff (h.linked hc hagree)) (h.pairs hc outlined path)

/-- A target that is no copy is the same node in both walks. -/
theorem alike_target (hc : c.Fits) (hd : c.delivery = .shared)
    (hreached : c.Reached c.reference type) : c.Alike link c.replacing c.replacing type := by
  have hkept : c.Alike link c.replacing (c.replaced c.replacing) type := by
    refine .kept (fun hcontainer => ?_) (Value.identity?_ne_of_occurrences hc.apart)
    rw [replacing_of_shared hd] at hcontainer ⊢
    exact hreached.next (.pointer hc.pointer (by simp [resolve, hd]) hcontainer)
  rwa [replaced_replacing hc] at hkept

/-- The answer that the first walk gets to the mapping is alike to what the second finds in its
place. -/
theorem Agree.own_copy (hc : c.Fits) (h : c.Agree link t t') {n : Nat} (hn : n < t.asked.length)
    (hcopy : c.Unused link t (some n)) (hown : c.Unused (flip link) t' none)
    (hreached : c.Reached c.reference type) :
    ∃ link', link ≤ link' ∧ c.Agree link' t t' ∧
      c.Alike link' (c.delivery.give (some n) (c.target (.text c.pointer))) c.replacing type := by
  cases hd : c.delivery with
  | shared =>
    refine ⟨link, le_rfl, h, ?_⟩
    rw [Delivery.give, ← replacing_of_shared hd]
    exact alike_target hc hd hreached
  | copied number =>
    have hjoined := h.join hc hd hcopy hown (by simp; omega) (by simp)
    refine ⟨_, fun i j hij => .inl hij, hjoined, ?_⟩
    rw [Delivery.give, replacing, hd, Delivery.give]
    exact .copied hd fun k => .inr ⟨k, rfl, rfl⟩

/-- When both walks go on to the target of the mapping, the first from the mapping itself, what
holds between visits holds again. -/
theorem State.enter_target (hc : c.Fits) {link' : Nat → Nat → Prop} (h : c.State link t t')
    {pointer : String} (hagree : c.Agree link' (forwarded t c.reference type pointer) u')
    (halike : c.Alike link' v c.replacing type)
    (hkeeps : ∀ {i type'}, (i, type') ∈ t'.visited → (i, type') ∈ u'.visited)
    (hown : c.delivery = .shared ∨ type = c.type) :
    c.State link' (Walk.entered (forwarded t c.reference type pointer) v type)
      (Walk.entered u' c.replacing type) := by
  have hlinked := halike.linked hc hagree
  refine (hagree.entered hlinked).state ?_ ?_
  · intro type' hm
    rcases mem_entered.mp hm with hm | ⟨hi, -⟩
    · rcases mem_marked.mp hm with hm | ⟨-, rfl⟩
      · exact (h.replaced hm).mono fun hm => mem_entered.mpr (.inl (hkeeps hm))
      · exact seen_entered hc.container
    · obtain ⟨j, -, hlink⟩ := hlinked.left hi
      exact absurd rfl (hagree.apart hlink).1
  · refine hown.imp_right fun htype => ?_
    exact mem_entered.mpr (.inl (mem_marked.mpr (.inr ⟨hc.identity, htype.symm⟩)))

/-- Where the first walk comes to the mapping, the second comes to what is in its place. -/
theorem unfold_replaced (hc : c.Fits)
    (outlined : ∀ {type d}, c.registry.lookup type = .ok d → d.Outlined) (h : c.State link t t')
    (hone : c.delivery = .shared ∨ type = c.type) (hreached : c.Reached c.reference type)
    (path : Path) :
    ∃ link' actions actions' u u', link ≤ link' ∧ c.State link' u u' ∧
      Unfolds c.before type path t c.reference actions u ∧
      Unfolds c.after type path t' c.replacing actions' u' ∧
      List.Forall₂ (ActionPair (c.Counterpart link') c.Asks) actions actions' := by
  by_cases hm : (c.identity, type) ∈ t.visited
  · exact ⟨link, [], [], t, t', le_rfl, h, .seen (hc.seen_reference.mpr hm),
      .seen (h.replaced hm), .nil⟩
  · have hmarked := h.mark_left hc hc.identity type
    have hforward := h.forward_left hc hc.identity type c.pointer
    have hcopy : c.Unused link (forwarded t c.reference type c.pointer) (some t.asked.length) :=
      hmarked.unused (Nat.le_refl t.asked.length)
    have hlength : t.asked.length < (forwarded t c.reference type c.pointer).asked.length := by
      simp [forwarded, asking, marked]
    have hown : c.Unused (flip link) t' none := by
      intro i hi
      rcases hone with hd | rfl
      · rw [hd] at hi
        exact hi.elim
      · exact h.own hm hi
    obtain ⟨link', hle, hagree, halike⟩ := hforward.own_copy hc hlength hcopy hown hreached
    have hpresent : c.delivery.give (some t.asked.length) (c.target (.text c.pointer)) ≠ .null := by
      refine ne_null_of_outline hc.container ?_
      rw [replacing, Delivery.outline_give, Delivery.outline_give]
    exact ⟨link', _, _, _, _, hle, h.enter_target hc hagree halike id hone,
      .forwards (mt hc.seen_reference.mp hm) hc.pointer rfl rfl hpresent
        (unfolds_entered _ _ _ c.before path),
      unfolds_entered _ _ _ c.after path, halike.unfold hc outlined hagree path⟩

theorem answer_after_of_shared (hc : c.Fits) (hd : c.delivery = .shared) (asked : List Value) :
    c.delivery.answers c.targetAfter asked (.text c.pointer) = .ok c.replacing := by
  have htarget : c.targetAfter (.text c.pointer) = c.replacing := by
    rw [← replaced_replacing hc, replacing_of_shared hd]
    simp [targetAfter, hd]
  simp [Delivery.answers, htarget, hd, Delivery.give]

/-- A pointer may lead to the mapping itself, in both walks. -/
theorem unfold_returned (hc : c.Fits)
    (outlined : ∀ {type d}, c.registry.lookup type = .ok d → d.Outlined) (h : c.State link t t')
    (hd : c.delivery = .shared) (hreached : c.Reached c.reference type) (path : Path) :
    ∃ link' actions actions' u u', link ≤ link' ∧ c.State link' u u' ∧
      Unfolds c.before type path t c.reference actions u ∧
      Unfolds c.after type path t' (c.replaced c.reference) actions' u' ∧
      List.Forall₂ (ActionPair (c.Counterpart link') c.Asks) actions actions' := by
  have hanswer' := answer_after_of_shared hc hd
  have hpresent := ne_null_of_outline hc.container (rfl : c.replacing.outline = _)
  by_cases hm' : (c.identity, type) ∈ t'.visited
  · exact ⟨link, [], [], t, t', le_rfl, h, .seen (hc.seen_reference.mpr (h.returned hm')),
      .seen (hc.seen_replaced.mpr hm'), .nil⟩
  · have hnew' : ¬ Seen t' (c.replaced c.reference) type := mt hc.seen_replaced.mp hm'
    have hkeeps : ∀ {i type'}, (i, type') ∈ t'.visited → (i, type') ∈
        (forwarded t' (c.replaced c.reference) type c.pointer).visited :=
      fun hm => mem_marked.mpr (.inl hm)
    by_cases hm : (c.identity, type) ∈ t.visited
    · -- The first walk has been here, so the second has been at the target.
      have hseen := (h.replaced hm).mono hkeeps
      refine ⟨link, [], [], _, _, le_rfl, ?_, .seen (hc.seen_reference.mpr hm),
        .forwards hnew' hc.pointerOf?_replaced rfl (hanswer' _) hpresent (.seen hseen), .nil⟩
      exact (h.forward_right hc hc.identity?_replaced hm c.pointer).state
        (fun hm => (h.replaced hm).mono hkeeps) (.inl hd)
    · have hnew : ¬ Seen t c.reference type := mt hc.seen_reference.mp hm
      have hmark : (c.identity, type) ∈ (forwarded t c.reference type c.pointer).visited :=
        mem_marked.mpr (.inr ⟨hc.identity, rfl⟩)
      have hagree := (h.forward_left hc hc.identity type c.pointer).forward_right hc
        hc.identity?_replaced hmark c.pointer
      have halike : c.Alike link c.replacing c.replacing type := alike_target hc hd hreached
      have hanswer : c.delivery.answers c.target t.asked (.text c.pointer) = .ok c.replacing := by
        simp [Delivery.answers, replacing_of_shared hd, hd, Delivery.give]
      exact ⟨link, _, _, _, _, le_rfl, h.enter_target hc hagree halike hkeeps (.inl hd),
        .forwards hnew hc.pointer rfl hanswer hpresent (unfolds_entered _ _ _ c.before path),
        .forwards hnew' hc.pointerOf?_replaced rfl (hanswer' _) hpresent
          (unfolds_entered _ _ _ c.after path), halike.unfold hc outlined hagree path⟩

/-- Both walks ask for the target of one pointer. -/
theorem State.ask (hc : c.Fits) (h : c.State link t t') {direct : Bool} {pointer : String}
    (hasks : c.Asks direct pointer type) :
    ∃ link', link ≤ link' ∧
      c.State link' (asking t (.text pointer)) (asking t' (.text pointer)) ∧
      ((direct = true → (c.target (.text pointer)).isMapping) → c.Counterpart link'
        (c.delivery.give (some t.asked.length) (c.target (.text pointer)))
        (c.delivery.give (some t'.asked.length) (c.targetAfter (.text pointer))) type) := by
  have hasked := (h.ask_left (.text pointer)).ask_right (.text pointer)
  cases hd : c.delivery with
  | shared =>
    refine ⟨link, le_rfl, hasked.state h.replaced (.inl hd), fun hfit => ?_⟩
    have hafter : c.targetAfter (.text pointer) = c.replaced (c.target (.text pointer)) := by
      simp [targetAfter, hd]
    have hreached : (c.target (.text pointer)).isContainer →
        c.Reached (c.target (.text pointer)) type := fun hcontainer =>
      hasks _ _ (.follow (by simp [resolve, hd]) hcontainer hfit)
    rw [Delivery.give, Delivery.give, hafter]
    by_cases hi : (c.target (.text pointer)).identity? = some c.identity
    · have hcontainer : (c.target (.text pointer)).isContainer := by simp [Value.isContainer, hi]
      have hreference := hc.unique (hreached hcontainer) hi
      rw [hreference]
      exact .returned hd (hreference ▸ hreached hcontainer)
    · exact .alike (.kept hreached hi)
  | copied number =>
    have hcopy : c.Unused link (asking t (.text pointer)) (some t.asked.length) :=
      h.unused (Nat.le_refl t.asked.length)
    have hcopy' : c.Unused (flip link) (asking t' (.text pointer)) (some t'.asked.length) :=
      h.unused' (Nat.le_refl t'.asked.length)
    have hagree := hasked.join hc hd hcopy hcopy' (by simp [asking]; omega)
      (by simp [asking]; omega)
    have hafter : c.targetAfter = c.target := by simp [targetAfter, hd]
    refine ⟨_, fun i j hij => .inl hij, ⟨hagree, h.replaced, ?_⟩, fun _ => ?_⟩
    · intro hm j hj
      obtain ⟨hfresh, hlinks⟩ := h.own hm hj
      refine ⟨hfresh, ?_⟩
      rintro i (hlink | ⟨k, -, rfl⟩)
      · exact hlinks i hlink
      · have hdistinct := hc.distinct
        rw [hd] at hdistinct hj
        obtain ⟨k', heq⟩ := hj
        have hcopies := (hdistinct heq).1
        contradiction
    · rw [Delivery.give, Delivery.give, hafter]
      exact .alike (.copied hd fun k => .inr ⟨k, rfl, rfl⟩)

/-- The walks before and after the replacement go along together. -/
theorem simulation (hc : c.Fits)
    (outlined : ∀ {type d}, c.registry.lookup type = .ok d → d.Outlined) :
    Simulation c.Counterpart c.Asks c.State c.before c.after where
  grow hle h := h.mono hle
  report found h :=
    { toAgree :=
        { h.toAgree with violations := by rw [h.violations] }
      replaced := h.replaced
      own := h.own }
  log records records' h :=
    { toAgree := h.toAgree.congr rfl rfl rfl rfl rfl rfl
      replaced := h.replaced
      own := h.own }
  unfold path h hstate := by
    cases h with
    | alike halike =>
      have hlinked := halike.linked hc hstate.toAgree
      exact ⟨_, _, _, _, _, le_rfl, hstate.entered hlinked, unfolds_entered _ _ _ c.before path,
        unfolds_entered _ _ _ c.after path, halike.unfold hc outlined hstate.toAgree path⟩
    | replaced one reached => exact unfold_replaced hc outlined hstate one reached path
    | returned shared reached => exact unfold_returned hc outlined hstate shared reached path
  answer hasks hstate := by
    obtain ⟨link', hle, hstate', hcounterpart⟩ := hstate.ask hc hasks
    refine ⟨_, _, _, _, link', rfl, rfl, rfl, rfl, hle, hstate', ?_, fun hfit => hcounterpart ?_⟩
    · rw [Delivery.outline_give, Delivery.outline_give, outline_targetAfter hc]
    · intro hdirect
      have hmapping := hfit hdirect
      rwa [← Value.isMapping_outline, Delivery.outline_give, Value.isMapping_outline] at hmapping

/-- A walk finds the same before and after the replacement, if it ends. -/
theorem finds_replaced (hc : c.Fits)
    (outlined : ∀ {type d}, c.registry.lookup type = .ok d → d.Outlined) (path : Path)
    (found : List Violation) :
    Finds c.before c.root c.start path found ↔
      Finds c.after (c.replaced c.root) c.start path found := by
  have hroot : c.Counterpart c.Kept c.root (c.replaced c.root) c.start :=
    .alike (.kept (fun _ => .start) hc.root)
  exact (simulation hc outlined).finds_iff (fun h => h.violations) hroot state_nil found

end Steps

end Replacement

end Walk

end ShapeLint
