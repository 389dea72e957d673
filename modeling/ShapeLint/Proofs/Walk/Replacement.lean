import Mathlib.Logic.Function.Basic
import ShapeLint.Proofs.Walk.Counterparts
import ShapeLint.Proofs.Walk.Reachability

/-! A mapping that stands for another node, and that node in its place. The walks before and after
the replacement ask different questions and mark different containers; `Agree` says how the marks
correspond, and each thing that a walk does keeps it. -/
namespace ShapeLint

namespace Walk

/-- How the targets of pointers are handed over. -/
inductive Delivery where
  /-- The same object every time. -/
  | shared
  /-- A new copy every time. Copies are told apart by the number of questions asked before; one
  more, that of no number, answers no question. -/
  | copied (number : Option Nat → Nat → Nat)

namespace Delivery

def give : Delivery → Option Nat → Value → Value
  | shared, _, v => v
  | copied number, copy, v => v.renumbered (number copy)

def answers (delivery : Delivery) (target : Value → Value) : PointerAnswers := fun asked pointer =>
  .ok (delivery.give (some asked.length) (target pointer))

/-- The identity is one of a copy. -/
def Gives : Delivery → Option Nat → Nat → Prop
  | shared, _, _ => False
  | copied number, copy, identity => ∃ i, identity = number copy i

/-- No container of a copy is a container of another copy, and none occurs twice in one. -/
def Distinct : Delivery → Prop
  | shared => True
  | copied number => Function.Injective2 number

theorem outline_give (delivery : Delivery) (copy : Option Nat) (v : Value) :
    (delivery.give copy v).outline = v.outline := by
  cases delivery with
  | shared => rfl
  | copied number => exact Value.outline_renumbered _ v

end Delivery

/-- A mapping of a document that stands for another node. -/
structure Replacement where
  registry : Registry
  delivery : Delivery
  target : Value → Value
  root : Value
  start : String
  reference : Value
  identity : Nat
  pointer : String
  /-- The type that the mapping is a reference to. -/
  type : String

namespace Replacement

variable (c : Replacement)

/-- What comes in place of the mapping. -/
def replacing : Value := c.delivery.give none (c.target (.text c.pointer))

def replaced (v : Value) : Value := v.exchanged c.identity c.replacing

/-- What stands afterwards where a value stood. -/
def successor (v : Value) : Value :=
  if v.identity? = some c.identity then c.replacing else c.replaced v

/-- The targets that are objects of the document. -/
def resolve : Option (Value → Value) :=
  match c.delivery with
  | .shared => some c.target
  | .copied _ => none

/-- The targets once the mapping has been replaced wherever it stands. -/
def targetAfter : Value → Value :=
  match c.delivery with
  | .shared => fun pointer => c.replaced (c.target pointer)
  | .copied _ => c.target

def before : Surroundings :=
  { registry := c.registry, answers := some (c.delivery.answers c.target) }

def after : Surroundings :=
  { registry := c.registry, answers := some (c.delivery.answers c.targetAfter) }

/-- The containers of the document that the walk before the replacement comes to. -/
abbrev Reached : Value → String → Prop := Reachable c.registry c.resolve c.root c.start

/-- The walk comes to a child under a step of a node of this shape. -/
def Rules (d : Descriptor) (step : Step) (v : Value) : Prop :=
  ∃ node type members, c.Reached node type ∧ pointerOf? node = none ∧
    c.registry.lookup type = .ok d ∧ members? d node = some members ∧ (step, v) ∈ members

/-- The rules cannot tell the mapping from its target, wherever the walk comes to it or to a value
that holds it. -/
structure Fits : Prop where
  identity : c.reference.identity? = some c.identity
  pointer : pointerOf? c.reference = some c.pointer
  container : c.replacing.isContainer
  /-- The mapping does not stand inside its target. -/
  apart : c.replacing.occurrences c.identity = 0
  root : c.root.identity? ≠ some c.identity
  unique : ∀ {v type}, c.Reached v type → v.identity? = some c.identity → v = c.reference
  ruling : ∀ {d step v}, c.Rules d step v → v.identity? = some c.identity →
    rulingAt d step c.replacing = rulingAt d step v
  /-- Where copies are handed over, rules that visit the mapping visit it as one type. -/
  type : ∀ {d step v type}, c.Rules d step v → v.identity? = some c.identity →
    rulingAt d step v = .ok (.reference type) → c.delivery = .shared ∨ type = c.type
  /-- A leaf finds the same. -/
  leaf : ∀ {d step v leaf}, c.Rules d step v → rulingAt d step v = .ok (.leaf leaf) →
    leaf.check (c.successor v) [step] d.name = leaf.check v [step] d.name
  distinct : c.delivery.Distinct
  new : ∀ {copy i}, c.delivery.Gives copy i →
    i ≠ c.identity ∧ ∀ {v type}, c.Reached v type → v.identity? ≠ some i

theorem Fits.injective2 {c : Replacement} (h : c.Fits) {number : Option Nat → Nat → Nat}
    (hd : c.delivery = .copied number) : Function.Injective2 number := by
  have := h.distinct
  rwa [hd] at this

/-- No container of a copy has been come to. -/
def Unused (link : Nat → Nat → Prop) (t : Traversal) (copy : Option Nat) : Prop :=
  ∀ {i}, c.delivery.Gives copy i → (∀ type, (i, type) ∉ t.visited) ∧ ∀ j, ¬ link i j

/-- How far two walks go together. The link says which containers of the walks correspond; of the
replaced mapping itself the second walk may know less. -/
structure Agree (link : Nat → Nat → Prop) (t t' : Traversal) : Prop where
  violations : t.violations = t'.violations
  visited : ∀ {i j} type, link i j → ((i, type) ∈ t.visited ↔ (j, type) ∈ t'.visited)
  injective : ∀ {i j i' j'}, link i j → link i' j' → (i = i' ↔ j = j')
  kept : ∀ {i}, i ≠ c.identity → (∀ copy, ¬ c.delivery.Gives copy i) → link i i
  apart : ∀ {i j}, link i j → i ≠ c.identity ∧ j ≠ c.identity
  returned : ∀ {type}, (c.identity, type) ∈ t'.visited → (c.identity, type) ∈ t.visited
  unused : ∀ {n}, t.asked.length ≤ n → c.Unused link t (some n)
  unused' : ∀ {n}, t'.asked.length ≤ n → c.Unused (flip link) t' (some n)

/-- What holds between visits: once the first walk has been at the mapping, the second has been at
its target, and until then not at the copy that the target may be. -/
structure State (link : Nat → Nat → Prop) (t t' : Traversal) : Prop extends c.Agree link t t' where
  replaced : ∀ {type}, (c.identity, type) ∈ t.visited → Seen t' c.replacing type
  own : (c.identity, c.type) ∉ t.visited → c.Unused (flip link) t' none

/-- Nodes of the two walks that correspond: containers by the link, other values anyhow. -/
def Linked (link : Nat → Nat → Prop) (v v' : Value) : Prop :=
  Option.Rel link v.identity? v'.identity?

variable {c} {link : Nat → Nat → Prop} {t t' u u' : Traversal} {v v' : Value} {type : String}

theorem eq_of_resolve {target : Value → Value} (h : c.resolve = some target) :
    target = c.target := by
  unfold resolve at h
  split at h
  · exact (Option.some.inj h).symm
  · contradiction

/-- Only marks, questions and violations count. -/
theorem Agree.congr (h : c.Agree link t t') (hviolations : t.violations = u.violations)
    (hvisited : t.visited = u.visited) (hasked : t.asked = u.asked)
    (hviolations' : t'.violations = u'.violations) (hvisited' : t'.visited = u'.visited)
    (hasked' : t'.asked = u'.asked) : c.Agree link u u' where
  violations := by rw [← hviolations, ← hviolations', h.violations]
  visited type hlink := by rw [← hvisited, ← hvisited', h.visited type hlink]
  injective := h.injective
  kept := h.kept
  apart := h.apart
  returned hm := hvisited ▸ h.returned (hvisited'.symm ▸ hm)
  unused hn := by
    intro i hi
    obtain ⟨hfresh, hlink⟩ := h.unused (hasked.symm ▸ hn) hi
    exact ⟨fun type => hvisited ▸ hfresh type, hlink⟩
  unused' hn := by
    intro i hi
    obtain ⟨hfresh, hlink⟩ := h.unused' (hasked'.symm ▸ hn) hi
    exact ⟨fun type => hvisited' ▸ hfresh type, hlink⟩

theorem Linked.left (h : Linked link v v') {i : Nat} (hi : v.identity? = some i) :
    ∃ j, v'.identity? = some j ∧ link i j := by
  unfold Linked at h
  rw [hi] at h
  cases hj : v'.identity? with
  | none => rw [hj] at h; contradiction
  | some j =>
    rw [hj] at h
    obtain ⟨hlink⟩ := h
    exact ⟨j, rfl, hlink⟩

theorem Linked.right (h : Linked link v v') {j : Nat} (hj : v'.identity? = some j) :
    ∃ i, v.identity? = some i ∧ link i j := by
  unfold Linked at h
  rw [hj] at h
  cases hi : v.identity? with
  | none => rw [hi] at h; contradiction
  | some i =>
    rw [hi] at h
    obtain ⟨hlink⟩ := h
    exact ⟨i, rfl, hlink⟩

theorem Agree.seen_iff (h : c.Agree link t t') (hv : Linked link v v') :
    Seen t v type ↔ Seen t' v' type := by
  constructor
  · rintro ⟨i, hi, hm⟩
    obtain ⟨j, hj, hlink⟩ := hv.left hi
    exact ⟨j, hj, (h.visited type hlink).mp hm⟩
  · rintro ⟨j, hj, hm⟩
    obtain ⟨i, hi, hlink⟩ := hv.right hj
    exact ⟨i, hi, (h.visited type hlink).mpr hm⟩

/-- Corresponding nodes are marked in both walks. -/
theorem Agree.entered (h : c.Agree link t t') (hv : Linked link v v') :
    c.Agree link (entered t v type) (entered t' v' type) where
  violations := by rw [violations_entered, violations_entered, h.violations]
  visited := by
    intro i j type' hlink
    have hown : v.identity? = some i ↔ v'.identity? = some j := by
      constructor
      · intro hi
        obtain ⟨j', hj', hlink'⟩ := hv.left hi
        rw [hj', (h.injective hlink' hlink).mp rfl]
      · intro hj
        obtain ⟨i', hi', hlink'⟩ := hv.right hj
        rw [hi', (h.injective hlink' hlink).mpr rfl]
    rw [mem_entered, mem_entered, h.visited type' hlink, hown]
  injective := h.injective
  kept := h.kept
  apart := h.apart
  returned := by
    intro type' hm
    rw [mem_entered] at hm ⊢
    rcases hm with hm | ⟨hj, -⟩
    · exact .inl (h.returned hm)
    · obtain ⟨i, -, hlink⟩ := hv.right hj
      exact absurd rfl (h.apart hlink).2
  unused := by
    intro n hn i hi
    rw [asked_entered] at hn
    obtain ⟨hfresh, hlinks⟩ := h.unused hn hi
    refine ⟨fun type' hm => ?_, hlinks⟩
    rcases mem_entered.mp hm with hm | ⟨hv', -⟩
    · exact hfresh type' hm
    · obtain ⟨j, -, hlink⟩ := hv.left hv'
      exact hlinks j hlink
  unused' := by
    intro n hn j hj
    rw [asked_entered] at hn
    obtain ⟨hfresh, hlinks⟩ := h.unused' hn hj
    refine ⟨fun type' hm => ?_, hlinks⟩
    rcases mem_entered.mp hm with hm | ⟨hv', -⟩
    · exact hfresh type' hm
    · obtain ⟨i, -, hlink⟩ := hv.right hv'
      exact hlinks i hlink

/-- A further question leaves fewer copies unused. -/
theorem Agree.ask_left (h : c.Agree link t t') (pointer : Value) :
    c.Agree link (asking t pointer) t' :=
  { h with
    unused := by
      intro n hn
      simp only [asking, List.length_append] at hn
      exact h.unused (by omega) }

theorem Agree.ask_right (h : c.Agree link t t') (pointer : Value) :
    c.Agree link t (asking t' pointer) :=
  { h with
    unused' := by
      intro n hn
      simp only [asking, List.length_append] at hn
      exact h.unused' (by omega) }

/-- The replaced mapping may be marked in the first walk at any time. -/
theorem Agree.mark_left (hc : c.Fits) (h : c.Agree link t t') (hv : v.identity? = some c.identity)
    (type : String) : c.Agree link (marked t v type) t' :=
  { h with
    visited := by
      intro i j type' hlink
      have hother : ¬ (v.identity? = some i ∧ type' = type) := by
        rintro ⟨hi, -⟩
        exact (h.apart hlink).1 (Option.some.inj (hi.symm.trans hv))
      rw [mem_marked, or_iff_left hother, h.visited type' hlink]
    returned := fun hm => mem_marked.mpr (.inl (h.returned hm))
    unused := by
      intro n hn i hi
      obtain ⟨hfresh, hlinks⟩ := h.unused hn hi
      refine ⟨fun type' hm => ?_, hlinks⟩
      rcases mem_marked.mp hm with hm | ⟨hi', -⟩
      · exact hfresh type' hm
      · exact (hc.new hi).1 (Option.some.inj (hi'.symm.trans hv)) }

/-- In the second walk it is marked only where it has been marked in the first. -/
theorem Agree.mark_right (hc : c.Fits) (h : c.Agree link t t')
    (hv : v.identity? = some c.identity) (hm : (c.identity, type) ∈ t.visited) :
    c.Agree link t (marked t' v type) :=
  { h with
    visited := by
      intro i j type' hlink
      have hother : ¬ (v.identity? = some j ∧ type' = type) := by
        rintro ⟨hj, -⟩
        exact (h.apart hlink).2 (Option.some.inj (hj.symm.trans hv))
      rw [mem_marked, or_iff_left hother, h.visited type' hlink]
    returned := by
      intro type' hm'
      rcases mem_marked.mp hm' with hm' | ⟨-, rfl⟩
      · exact h.returned hm'
      · exact hm
    unused' := by
      intro n hn j hj
      obtain ⟨hfresh, hlinks⟩ := h.unused' hn hj
      refine ⟨fun type' hm' => ?_, hlinks⟩
      rcases mem_marked.mp hm' with hm' | ⟨hj', -⟩
      · exact hfresh type' hm'
      · exact (hc.new hj).1 (Option.some.inj (hj'.symm.trans hv)) }

theorem Agree.forward_left (hc : c.Fits) (h : c.Agree link t t')
    (hv : v.identity? = some c.identity) (type pointer : String) :
    c.Agree link (forwarded t v type pointer) t' :=
  ((h.mark_left hc hv type).ask_left (.text pointer)).congr rfl rfl rfl rfl rfl rfl

theorem Agree.forward_right (hc : c.Fits) (h : c.Agree link t t')
    (hv : v.identity? = some c.identity) (hm : (c.identity, type) ∈ t.visited) (pointer : String) :
    c.Agree link t (forwarded t' v type pointer) :=
  ((h.mark_right hc hv hm).ask_right (.text pointer)).congr rfl rfl rfl rfl rfl rfl

/-- The containers of two copies correspond too. -/
def withCopies (link : Nat → Nat → Prop) (number number' : Nat → Nat) (i j : Nat) : Prop :=
  link i j ∨ ∃ k, i = number k ∧ j = number' k

theorem linked_renumbered {number number' : Nat → Nat} (h : ∀ k, link (number k) (number' k))
    (v : Value) : Linked link (v.renumbered number) (v.renumbered number') := by
  unfold Linked Value.renumbered
  rw [Value.identity?_rebuilt, Value.identity?_rebuilt]
  cases v.identity? with
  | none => exact .none
  | some k => exact .some (h k)

/-- Two copies that nobody has come to may be linked, if they will not be given again. -/
theorem Agree.join (hc : c.Fits) (h : c.Agree link t t') {number : Option Nat → Nat → Nat}
    (hd : c.delivery = .copied number) {copy copy' : Option Nat} (hcopy : c.Unused link t copy)
    (hcopy' : c.Unused (flip link) t' copy')
    (hpast : ∀ n, t.asked.length ≤ n → copy ≠ some n)
    (hpast' : ∀ n, t'.asked.length ≤ n → copy' ≠ some n) :
    c.Agree (withCopies link (number copy) (number copy')) t t' := by
  have hdistinct := hc.injective2 hd
  have hgives : ∀ copy k, c.delivery.Gives copy (number copy k) := by
    intro copy k
    rw [hd]
    exact ⟨k, rfl⟩
  constructor
  · exact h.violations
  · rintro i j type (hlink | ⟨k, rfl, rfl⟩)
    · exact h.visited type hlink
    · exact iff_of_false ((hcopy (hgives copy k)).1 type) ((hcopy' (hgives copy' k)).1 type)
  · rintro i j i' j' (hlink | ⟨k, rfl, rfl⟩) (hlink' | ⟨k', rfl, rfl⟩)
    · exact h.injective hlink hlink'
    · refine iff_of_false ?_ ?_
      · rintro rfl
        exact (hcopy (hgives copy k')).2 j hlink
      · rintro rfl
        exact (hcopy' (hgives copy' k')).2 i hlink
    · refine iff_of_false ?_ ?_
      · rintro rfl
        exact (hcopy (hgives copy k)).2 j' hlink'
      · rintro rfl
        exact (hcopy' (hgives copy' k)).2 i' hlink'
    · constructor
      · intro heq
        rw [(hdistinct heq).2]
      · intro heq
        rw [(hdistinct heq).2]
  · exact fun hi hnew => .inl (h.kept hi hnew)
  · rintro i j (hlink | ⟨k, rfl, rfl⟩)
    · exact h.apart hlink
    · exact ⟨(hc.new (hgives copy k)).1, (hc.new (hgives copy' k)).1⟩
  · exact h.returned
  · intro n hn i hi
    obtain ⟨hfresh, hlinks⟩ := h.unused hn hi
    refine ⟨hfresh, ?_⟩
    rintro j (hlink | ⟨k, rfl, -⟩)
    · exact hlinks j hlink
    · rw [hd] at hi
      obtain ⟨k', heq⟩ := hi
      exact hpast n hn (hdistinct heq).1
  · intro n hn j hj
    obtain ⟨hfresh, hlinks⟩ := h.unused' hn hj
    refine ⟨hfresh, ?_⟩
    rintro i (hlink | ⟨k, -, rfl⟩)
    · exact hlinks i hlink
    · rw [hd] at hj
      obtain ⟨k', heq⟩ := hj
      exact hpast' n hn (hdistinct heq).1

/-- To begin with, containers of the document correspond to themselves. -/
def Kept (c : Replacement) (i j : Nat) : Prop :=
  i = j ∧ i ≠ c.identity ∧ ∀ copy, ¬ c.delivery.Gives copy i

theorem state_nil : c.State c.Kept {} {} where
  violations := rfl
  visited := by simp
  injective := by
    rintro i j i' j' ⟨rfl, -⟩ ⟨rfl, -⟩
    exact Iff.rfl
  kept hi hnew := ⟨rfl, hi, hnew⟩
  apart := by
    rintro i j ⟨rfl, hi, -⟩
    exact ⟨hi, hi⟩
  returned := by simp
  unused := by
    rintro n - i hi
    exact ⟨by simp, fun j hlink => hlink.2.2 _ hi⟩
  unused' := by
    rintro n - i hi
    exact ⟨by simp, fun j hlink => hlink.2.2 _ (hlink.1 ▸ hi)⟩
  replaced := by simp
  own := by
    rintro - i hi
    exact ⟨by simp, fun j hlink => hlink.2.2 _ (hlink.1 ▸ hi)⟩

end Replacement

end Walk

end ShapeLint
