import Mathlib.Data.Nat.Pairing
import ShapeLint.Proofs.Dialect.Outlines
import ShapeLint.Proofs.Walk.Transparency

/-! References over the registries of the dialects. The rules of a type can tell a mapping that
stands for another node from that node, so following the mapping and coming to the node at once are
the same only where no rule looks at the two in that way. -/
namespace ShapeLint

namespace Dialect

open Walk

/-- Over the registry of a dialect a walk finds the same, in the same order and at the same places,
whether it follows a mapping to its target or finds the target, or a copy of it, in its place. -/
theorem finds_iff_replaced (d : Dialect) (settings : Settings) {c : Replacement}
    (built : (d.build settings).outcome = .ok c.registry) (fits : c.Fits) (path : Path)
    (found : List Violation) :
    Finds c.before c.root c.start path found ↔
      Finds c.after (c.replaced c.root) c.start path found :=
  Replacement.finds_replaced fits (fun h => d.outlined_build settings built h) path found

/-- Whether a descriptor makes a child a node of a type. -/
def refersTo (d : Descriptor) (type : String) (key v : Value) : Bool :=
  match d.ruling key v with
  | .ok (.reference name) => name == type
  | _ => false

theorem ruling_of_refersTo {d : Descriptor} {type : String} {key v : Value}
    (h : refersTo d type key v) : d.ruling key v = .ok (.reference type) := by
  unfold refersTo at h
  split at h
  · rename_i name hruling
    rw [hruling, eq_of_beq h]
  · contradiction

section Tag

/-- A tag whose name is no text. -/
def namelessTag : Value := .mapping 2 [(.text "name", .int 3)]

/-- A list of tags with a pointer to that tag. -/
def distantTag (delivery : Delivery) : Replacement :=
  { registry := openApi3.tables.freeze
    delivery := delivery
    target := fun pointer => if pointer.text? = some "#tag" then namelessTag else .null
    root := .list 0 [.mapping 1 [(.text "$ref", .text "#tag")]]
    start := "TagList"
    reference := .mapping 1 [(.text "$ref", .text "#tag")]
    identity := 1
    pointer := "#tag"
    type := "Tag" }

variable {delivery : Delivery}

theorem build_distantTag : (openApi3.build {}).outcome = .ok (distantTag delivery).registry := by
  rw [outcome_build]
  rfl

theorem ruling_distantTag {d : Descriptor}
    (h : (distantTag delivery).registry.lookup "TagList" = .ok d) :
    d.ruling (.int 0) (distantTag delivery).reference = .ok (.reference "Tag") ∧
      d.ruling (.int 0) (distantTag delivery).replacing = .ok (.reference "Tag") := by
  have hcheck : ((openApi3.tables.freeze.lookup "TagList").toOption.any fun d =>
      refersTo d "Tag" (.int 0) (distantTag .shared).reference
        && refersTo d "Tag" (.int 0) namelessTag) = true := by decide +kernel
  have houtlined : d.Outlined := openApi3.outlined_build {} build_distantTag h
  replace h : openApi3.tables.freeze.lookup "TagList" = .ok d := h
  simp only [h, Except.toOption, Option.any_some, Bool.and_eq_true] at hcheck
  have hreplacing : (distantTag delivery).replacing.outline = namelessTag.outline :=
    delivery.outline_give none namelessTag
  refine ⟨ruling_of_refersTo hcheck.1, ?_⟩
  rw [← houtlined.ruling, hreplacing, houtlined.ruling]
  exact ruling_of_refersTo hcheck.2

theorem members_tagList {d : Descriptor} {members : List (Step × Value)} {step : Step} {v : Value}
    (h : members? d (distantTag delivery).root = some members) (hmember : (step, v) ∈ members) :
    step = .index 0 ∧ v = (distantTag delivery).reference := by
  simp only [distantTag, members?] at h
  split at h
  · obtain rfl := Option.some.inj h
    simpa [Leaf.numbered, distantTag] using hmember
  · contradiction

theorem members_tag {d : Descriptor} {members : List (Step × Value)} {step : Step} {v : Value}
    (h : members? d namelessTag = some members) (hmember : (step, v) ∈ members) : v = .int 3 := by
  simp only [namelessTag, members?] at h
  split at h
  · contradiction
  · obtain rfl := Option.some.inj h
    simp only [Leaf.keyed, List.map_cons, List.map_nil, List.mem_singleton, Prod.mk.injEq]
      at hmember
    exact hmember.2

theorem reached_distantTag {v : Value} {type : String} (h : (distantTag delivery).Reached v type) :
    v = (distantTag delivery).root ∧ type = "TagList" ∨
      v = (distantTag delivery).reference ∧ type = "Tag" ∨ v = namelessTag ∧ type = "Tag" := by
  induction h with
  | start => exact .inl ⟨rfl, rfl⟩
  | next reached next ih =>
    rcases ih with ⟨rfl, rfl⟩ | ⟨rfl, rfl⟩ | ⟨rfl, rfl⟩
    · cases next with
      | child own defined shape member ruled container =>
        obtain ⟨rfl, rfl⟩ := members_tagList shape member
        have hruling := (ruling_distantTag defined).1.symm.trans ruled
        exact .inr (.inl ⟨rfl, (Ruling.reference.inj (Except.ok.inj hruling)).symm⟩)
      | pointer stands => contradiction
      | direct own defined shape member ruled =>
        obtain ⟨rfl, rfl⟩ := members_tagList shape member
        have hruling := (ruling_distantTag defined).1.symm.trans ruled
        simp at hruling
    · cases next with
      | child own => contradiction
      | direct own => contradiction
      | pointer stands answered container =>
        obtain rfl := Replacement.eq_of_resolve answered
        obtain rfl := Option.some.inj stands
        exact .inr (.inr ⟨rfl, rfl⟩)
    · cases next with
      | child own defined shape member ruled container =>
        obtain rfl := members_tag shape member
        exact absurd container (by decide)
      | pointer stands => contradiction
      | direct own defined shape member ruled accepted direct answered mapping =>
        obtain rfl := members_tag shape member
        obtain rfl := Replacement.eq_of_resolve answered
        exact absurd mapping Bool.false_ne_true

theorem identity?_distantTag {v : Value} {type : String} {identity : Nat}
    (h : (distantTag delivery).Reached v type) (hv : v.identity? = some identity) :
    identity < 3 := by
  rcases reached_distantTag h with ⟨rfl, -⟩ | ⟨rfl, -⟩ | ⟨rfl, -⟩
  all_goals
    obtain rfl := Option.some.inj hv
    decide

theorem rules_distantTag {d : Descriptor} {step : Step} {v : Value}
    (h : (distantTag delivery).Rules d step v) :
    (distantTag delivery).registry.lookup "TagList" = .ok d ∧ step = .index 0 ∧
      v = (distantTag delivery).reference ∨ v = .int 3 := by
  obtain ⟨node, type, members, hreached, hown, hd, hmembers, hmember⟩ := h
  rcases reached_distantTag hreached with ⟨rfl, rfl⟩ | ⟨rfl, rfl⟩ | ⟨rfl, rfl⟩
  · exact .inl ⟨hd, members_tagList hmembers hmember⟩
  · contradiction
  · exact .inr (members_tag hmembers hmember)

/-- The tag may be the same object every time, or a new one. -/
theorem fits_distantTag (distinct : delivery.Distinct)
    (new : ∀ {copy identity}, delivery.Gives copy identity → 3 ≤ identity) :
    (distantTag delivery).Fits where
  identity := rfl
  pointer := rfl
  container := by
    rw [← Value.isContainer_outline]
    exact congrArg Value.isContainer (delivery.outline_give none namelessTag)
  apart := by
    cases delivery with
    | shared => rfl
    | copied number =>
      have hnumber : 3 ≤ number none 2 := new ⟨2, rfl⟩
      change 0 + 0 + (if number none 2 = 1 then 1 else 0) = 0
      rw [if_neg (by omega)]
  root := by simp [distantTag, Value.identity?]
  unique := by
    intro v type hreached hv
    rcases reached_distantTag hreached with ⟨rfl, -⟩ | ⟨rfl, -⟩ | ⟨rfl, -⟩
    · simp [distantTag, Value.identity?] at hv
    · rfl
    · simp [distantTag, namelessTag, Value.identity?] at hv
  ruling := by
    intro d step v h hv
    rcases rules_distantTag h with ⟨hd, rfl, rfl⟩ | rfl
    · exact (ruling_distantTag hd).2.trans (ruling_distantTag hd).1.symm
    · contradiction
  type := by
    intro d step v type h hv hruling
    rcases rules_distantTag h with ⟨hd, rfl, rfl⟩ | rfl
    · have htype := (ruling_distantTag hd).1.symm.trans hruling
      exact .inr (Ruling.reference.inj (Except.ok.inj htype)).symm
    · contradiction
  leaf := by
    intro d step v leaf h hruling
    rcases rules_distantTag h with ⟨hd, rfl, rfl⟩ | rfl
    · have hleaf := (ruling_distantTag hd).1.symm.trans hruling
      simp at hleaf
    · rfl
  distinct := distinct
  new := by
    intro copy identity hgives
    have hnew : 3 ≤ identity := new hgives
    refine ⟨?_, fun hreached hv => ?_⟩
    · have hidentity : (distantTag delivery).identity = 1 := rfl
      omega
    · have hold := identity?_distantTag hreached hv
      omega

/-- Copies whose containers have numbers of their own. -/
def freshCopies : Delivery := .copied fun copy k => Nat.pair (copy.elim 0 Nat.succ) k + 3

theorem distinct_freshCopies : freshCopies.Distinct := by
  intro copy copy' k k' h
  obtain ⟨hcopy, hidentity⟩ := Nat.pair_eq_pair.mp (Nat.add_right_cancel h)
  refine ⟨?_, hidentity⟩
  cases copy with
  | none =>
    cases copy' with
    | none => rfl
    | some n => simp at hcopy
  | some n =>
    cases copy' with
    | none => simp at hcopy
    | some n' => simpa using hcopy

theorem finds_iff_replaced_distantTag :
    (openApi3.build {}).outcome = .ok (distantTag .shared).registry ∧
      (openApi3.build {}).outcome = .ok (distantTag freshCopies).registry ∧
      ∃ found : List Violation, found.length = 1 ∧
        Finds (distantTag .shared).after
          ((distantTag .shared).replaced (distantTag .shared).root) "TagList" [] found ∧
        Finds (distantTag freshCopies).after
          ((distantTag freshCopies).replaced (distantTag freshCopies).root) "TagList" [] found := by
  have hshared : (distantTag .shared).Fits := by
    refine fits_distantTag trivial ?_
    rintro copy identity ⟨⟩
  have hcopied : (distantTag freshCopies).Fits := by
    refine fits_distantTag distinct_freshCopies ?_
    rintro copy identity ⟨k, rfl⟩
    exact Nat.le_add_left 3 _
  have hlength : ((found? (distantTag .shared).before 4 (distantTag .shared).root "TagList" []).map
      List.length) = some 1 := by decide +kernel
  have hsame : found? (distantTag freshCopies).before 4 (distantTag freshCopies).root "TagList" [] =
      found? (distantTag .shared).before 4 (distantTag .shared).root "TagList" [] := by
    decide +kernel
  obtain ⟨found, hfound, hone⟩ := Option.map_eq_some_iff.mp hlength
  refine ⟨build_distantTag, build_distantTag, found, hone, ?_, ?_⟩
  · exact (finds_iff_replaced openApi3 {} build_distantTag hshared [] found).mp
      (finds_iff.mpr ⟨4, hfound⟩)
  · exact (finds_iff_replaced openApi3 {} build_distantTag hcopied [] found).mp
      (finds_iff.mpr ⟨4, hsame.trans hfound⟩)

end Tag

section Tags

/-- A document that is also read as an operation, whose tags are names and no list of nodes. -/
def taggedRoot : Value :=
  .mapping 0 [
    (.text "paths", .mapping 1 [(.text "/x", .mapping 2 [
      (.text "get", .mapping 3 [(.text "$ref", .text "#root")])])]),
    (.text "tags", .mapping 4 [(.text "$ref", .text "#tags")])]

/-- Its tags, which stand elsewhere. -/
def distantTags : Replacement :=
  { registry := openApi3.tables.freeze
    delivery := .shared
    target := fun pointer =>
      if pointer.text? = some "#root" then taggedRoot
      else if pointer.text? = some "#tags" then .list 5 []
      else .null
    root := taggedRoot
    start := "Root"
    reference := .mapping 4 [(.text "$ref", .text "#tags")]
    identity := 4
    pointer := "#tags"
    type := "TagList" }

/-- A leaf elsewhere can tell the mapping from its target, although the rule of its own place makes
both nodes of one type. -/
theorem not_finds_iff_replaced_distantTags :
    (openApi3.build {}).outcome = .ok distantTags.registry ∧
      distantTags.root.occurrences distantTags.identity = 1 ∧
      distantTags.reference.identity? = some distantTags.identity ∧
      pointerOf? distantTags.reference = some distantTags.pointer ∧
      distantTags.replacing.isContainer ∧
      distantTags.replacing.occurrences distantTags.identity = 0 ∧
      (∃ d step, distantTags.Rules d step distantTags.reference ∧
        rulingAt d step distantTags.reference = .ok (.reference distantTags.type) ∧
        rulingAt d step distantTags.replacing = .ok (.reference distantTags.type)) ∧
      ∃ found, Finds distantTags.before distantTags.root distantTags.start [] found ∧
        ¬ Finds distantTags.after (distantTags.replaced distantTags.root) distantTags.start []
          found := by
  have hbuilt : (openApi3.build {}).outcome = .ok distantTags.registry := by
    rw [outcome_build]
    rfl
  have hcheck : ((openApi3.tables.freeze.lookup "Root").toOption.any fun d =>
      !d.isSequence && refersTo d "TagList" (.text "tags") distantTags.reference
        && refersTo d "TagList" (.text "tags") distantTags.replacing) = true := by decide +kernel
  have hbefore : (found? distantTags.before 9 distantTags.root distantTags.start []).map
      List.length = some 5 := by decide +kernel
  have hafter : (found? distantTags.after 9 (distantTags.replaced distantTags.root)
      distantTags.start []).map List.length = some 4 := by decide +kernel
  refine ⟨hbuilt, by decide, rfl, rfl, rfl, by decide, ?_, ?_⟩
  · cases hd : openApi3.tables.freeze.lookup "Root" with
    | error fault => simp [hd, Except.toOption] at hcheck
    | ok d =>
      simp only [hd, Except.toOption, Option.any_some, Bool.and_eq_true, Bool.not_eq_true']
        at hcheck
      obtain ⟨⟨hsequence, hreference⟩, hreplacing⟩ := hcheck
      obtain ⟨members, hmembers, hmember⟩ : ∃ members, members? d taggedRoot = some members ∧
          (.key "tags", distantTags.reference) ∈ members := by
        refine ⟨_, by rw [taggedRoot, members?, hsequence]; rfl, ?_⟩
        exact List.mem_cons_of_mem _ List.mem_cons_self
      exact ⟨d, .key "tags", ⟨taggedRoot, "Root", members, .start, rfl, hd, hmembers, hmember⟩,
        ruling_of_refersTo hreference, ruling_of_refersTo hreplacing⟩
  · obtain ⟨found, hfound, hfive⟩ := Option.map_eq_some_iff.mp hbefore
    obtain ⟨found', hfound', hfour⟩ := Option.map_eq_some_iff.mp hafter
    refine ⟨found, finds_iff.mpr ⟨9, hfound⟩, fun h => ?_⟩
    rw [h.unique (finds_iff.mpr ⟨9, hfound'⟩), hfour] at hfive
    omega

end Tags

end Dialect

end ShapeLint
