import ShapeLint.Proofs.Document.Sameness
import ShapeLint.Proofs.Leaf.Acceptance

/-!
Leaves that refine others: each facet of the other leaf is set and at least as strict, and so it is
in the leaves inside. A refined leaf accepts no more values. Main statement: `check_of_refines`.
-/
namespace ShapeLint

/-- What is set on the right is set on the left too, at least as strict. What is not set on the
right may be anything on the left. -/
inductive Tightens {α : Type} (stricter : α → α → Prop) : Option α → Option α → Prop where
  | free (x : Option α) : Tightens stricter x none
  | set {x y : α} (h : stricter x y) : Tightens stricter (some x) (some y)

theorem Tightens.of_mem {α : Type} {stricter : α → α → Prop} {a b : Option α}
    (h : Tightens stricter a b) {y : α} (hy : y ∈ b) : ∃ x ∈ a, stricter x y := by
  cases h with
  | free => contradiction
  | set h =>
    obtain rfl := Option.mem_some.mp hy
    exact ⟨_, rfl, h⟩

/-- The same type, or integers among the numbers. -/
def TypeWithin (type' type : String) : Prop := type' = type ∨ type' = "integer" ∧ type = "number"

theorem TypeWithin.matchesType {type' type : String} {v : Value} (h : TypeWithin type' type)
    (hv : matchesType type' v) : matchesType type v := by
  obtain rfl | ⟨rfl, rfl⟩ := h
  · exact hv
  · cases v with
    | scalar s => cases s <;> first | rfl | contradiction
    | _ => contradiction

/-- Each choice is among the others, as it stands or as a value that is the same. -/
def ChoicesWithin (choices' choices : List Value) : Prop :=
  ∀ c' ∈ choices', ∃ c ∈ choices, c' = c ∨ c'.same c

theorem ChoicesWithin.exists_same {choices' choices : List Value}
    (h : ChoicesWithin choices' choices) {v : Value} (chosen : ∃ c ∈ choices', v.same c) :
    ∃ c ∈ choices, v.same c := by
  obtain ⟨c', hc', hsame⟩ := chosen
  obtain ⟨c, hc, rfl | hsame'⟩ := h c' hc'
  · exact ⟨c', hc, hsame⟩
  · exact ⟨c, hc, Value.same_trans hsame hsame'⟩

namespace Bound

/-- A bound that admits no more: both are numbers, and the one lies on the right side of the
other. -/
def Within (b : Bound) (kept' kept : Binary64) : Prop :=
  ∃ limit' limit, (Quantity.ofBinary64 kept').point? = some limit' ∧
    (Quantity.ofBinary64 kept).point? = some limit ∧ b.Admits limit limit'

variable {b : Bound}

theorem Admits.trans {p q r : WithBot (WithTop ℚ)} (h : b.Admits p q) (h' : b.Admits q r) :
    b.Admits p r := by
  cases b with
  | minimum => exact le_trans h h'
  | maximum => exact le_trans h' h

theorem Within.breaks {kept' kept : Binary64} {q : Quantity} (h : b.Within kept' kept)
    (hbreaks : b.breaks q kept) : b.breaks q kept' := by
  obtain ⟨limit', limit, hlimit', hlimit, hadmits⟩ := h
  obtain ⟨p, hp, hnot⟩ := (breaks_iff hlimit).mp hbreaks
  exact (breaks_iff hlimit').mpr ⟨p, hp, fun h => hnot (hadmits.trans h)⟩

end Bound

/-- Facets that are at least as strict as others. Markers are the same. -/
structure Facets.Refine (facets' facets : Facets) : Prop where
  isExample : facets'.isExample = facets.isExample
  resolvable : facets'.resolvable = facets.resolvable
  type : Tightens TypeWithin facets'.type facets.type
  choices : Tightens ChoicesWithin facets'.choices facets.choices
  bounds : ∀ b : Bound, Tightens b.Within (b.of facets') (b.of facets)
  pattern : Tightens (· = ·) facets'.pattern facets.pattern
  minItems : Tightens (· ≥ ·) facets'.minItems facets.minItems
  maxItems : Tightens (· ≤ ·) facets'.maxItems facets.maxItems

theorem Facets.Refine.admits {facets' facets : Facets} (h : facets'.Refine facets) {v : Value}
    (own : facets'.Admit v) : facets.Admit v where
  chosen := by
    intro choices hchoices
    obtain ⟨choices', hchoices', within⟩ := h.choices.of_mem hchoices
    exact within.exists_same (own.chosen choices' hchoices')
  bounded := by
    intro b kept hkept q hq
    obtain ⟨kept', hkept', within⟩ := (h.bounds b).of_mem hkept
    have hfalse := own.bounded b kept' hkept' q hq
    exact Bool.eq_false_iff.mpr fun hbreaks => by simp [within.breaks hbreaks] at hfalse
  matched := by
    intro written hwritten
    obtain ⟨_, hwritten', rfl⟩ := h.pattern.of_mem hwritten
    exact own.matched _ hwritten'
  enough := by
    intro least hleast xs hxs
    obtain ⟨least', hleast', hle⟩ := h.minItems.of_mem hleast
    exact le_trans hle (own.enough least' hleast' xs hxs)
  notTooMany := by
    intro most hmost xs hxs
    obtain ⟨most', hmost', hle⟩ := h.maxItems.of_mem hmost
    exact le_trans (own.notTooMany most' hmost' xs hxs) hle

namespace Leaf

/-- A leaf that is at least as strict as another one, as are the leaves inside it. -/
inductive Refines : Leaf → Leaf → Prop where
  | of {facets' facets : Facets} {items' items entries' entries : Option Leaf}
      (own : facets'.Refine facets) (ofItems : Tightens Refines items' items)
      (ofEntries : Tightens Refines entries' entries) :
      Refines ⟨facets', items', entries'⟩ ⟨facets, items, entries⟩

variable {leaf' leaf l : Leaf} {v : Value}

theorem Refines.own (h : leaf'.Refines leaf) : leaf'.toFacets.Refine leaf.toFacets := by
  cases h with
  | of own => exact own

theorem Refines.typed (h : leaf'.Refines leaf) (typed : leaf'.Typed v) : leaf.Typed v := by
  intro expected hexpected
  obtain ⟨hset, hnonempty⟩ := Option.filter_eq_some_iff.mp hexpected
  obtain ⟨expected', hset', within⟩ := h.own.type.of_mem hset
  refine within.matchesType (typed expected' (Option.filter_eq_some_iff.mpr ⟨hset', ?_⟩))
  obtain rfl | ⟨rfl, -⟩ := within
  · exact hnonempty
  · rfl

/-- Members that the weaker leaf has checked are checked by a leaf that refines its inner leaf. -/
theorem Refines.inner? (h : leaf'.Refines leaf) {members : List (Step × Value)}
    (hl : leaf.inner? v = some (l, members)) :
    ∃ l', leaf'.inner? v = some (l', members) ∧ l'.Refines l := by
  cases h with
  | of own ofItems ofEntries =>
    cases v <;> simp only [Leaf.inner?, Option.map_eq_some_iff, Prod.mk.injEq, reduceCtorEq] at hl ⊢
    case mapping =>
      obtain ⟨_, hentries, rfl, rfl⟩ := hl
      obtain ⟨l', hl', hrefines⟩ := ofEntries.of_mem hentries
      exact ⟨l', ⟨l', hl', rfl, rfl⟩, hrefines⟩
    all_goals
      obtain ⟨_, hitems, rfl, rfl⟩ := hl
      obtain ⟨l', hl', hrefines⟩ := ofItems.of_mem hitems
      exact ⟨l', ⟨l', hl', rfl, rfl⟩, hrefines⟩

theorem Refines.accepts (h : leaf'.Refines leaf) (accepted : leaf'.Accepts v) :
    leaf.Accepts v := by
  induction accepted generalizing leaf with
  | verbatim unresolvable => exact .verbatim (h.own.resolvable ▸ unresolvable)
  | sample typed marked => exact .sample (h.typed typed) (h.own.isExample ▸ marked)
  | checked typed own taken _ ih =>
    refine .checked (h.typed typed) (h.own.admits own) (fun l members hl => ?_)
      fun l members hl member hmember => ?_
    · obtain ⟨l', hl', -⟩ := h.inner? hl
      exact taken l' members hl'
    · obtain ⟨l', hl', hrefines⟩ := h.inner? hl
      exact ih l' members hl' member hmember hrefines

/-- A value in which a leaf finds nothing wrong is found in order by every leaf that it refines. -/
theorem check_of_refines (h : leaf'.Refines leaf) {path : Path} {typeName : String}
    (accepted : leaf'.check v path typeName = .ok []) : leaf.check v path typeName = .ok [] :=
  accepts_iff.mpr (h.accepts (accepts_iff.mp accepted))

/-- Lists of numbers that are not negative, up to five. -/
def ratings : Leaf where
  type := some "array"
  minItems := some 1
  items := some
    { type := some "number", choices := some [.int 0, .int 1, .int 2, .int 3, .int 4, .int 5]
      minimum := some (.finite false 0 0) }

/-- Lists of two or three numbers of stars. -/
def stars : Leaf where
  type := some "array"
  minItems := some 2
  maxItems := some 3
  items := some
    { type := some "integer", choices := some [.int 1, .int 2, .int 3]
      minimum := some (.finite false 1 0) }

theorem refines_stars : stars.Refines ratings := by
  have within : Bound.minimum.Within (.finite false 1 0) (.finite false 0 0) := by
    refine ⟨((1 : ℚ) : WithTop ℚ), ((0 : ℚ) : WithTop ℚ), ?_, ?_, ?_⟩
    · norm_num [Quantity.ofBinary64, Binary64.toRat?, Quantity.point?]
    · norm_num [Quantity.ofBinary64, Binary64.toRat?, Quantity.point?]
    · exact WithBot.coe_le_coe.mpr (WithTop.coe_le_coe.mpr (by norm_num))
  refine .of ⟨rfl, rfl, .set (.inl rfl), .free _, ?_, .free _, .set (by decide), .free _⟩
    (.set (.of ⟨rfl, rfl, .set (.inr ⟨rfl, rfl⟩), .set ?_, ?_, .free _, .free _, .free _⟩
      (.free _) (.free _))) (.free _)
  · rintro (_ | _) <;> exact .free _
  · intro c hc
    exact ⟨c, by simp at hc ⊢; tauto, .inl rfl⟩
  · rintro (_ | _)
    · exact .set within
    · exact .free _

theorem check_of_refines_stars :
    stars.Refines ratings ∧ stars.check (.list 0 [.int 3, .int 1]) [] "Review" = .ok [] ∧
      ratings.check (.list 0 [.int 3, .int 1]) [] "Review" = .ok [] := by
  have accepted : stars.check (.list 0 [.int 3, .int 1]) [] "Review" = .ok [] := by
    decide +kernel
  exact ⟨refines_stars, accepted, check_of_refines refines_stars accepted⟩

end Leaf

end ShapeLint
