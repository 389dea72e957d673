import ShapeLint.Proofs.Document.Keys
import ShapeLint.Proofs.Leaf.Places

/-! Leaves report nothing twice: the facets of a leaf differ in what they say, and the members of a
value in where they are. Main statement: `Leaf.distinct_check`. -/
namespace ShapeLint

/-- A violation that cannot be told from another one, but for the type whose rules are violated. -/
structure Violation.Repeats (x y : Violation) : Prop where
  code : x.code = y.code
  key : x.key = y.key
  path : x.path = y.path
  message : x.message = y.message

/-- No violation repeats another one. -/
def Distinct (found : List Violation) : Prop := found.Pairwise fun x y => ¬ x.Repeats y

/-- Violations at a member of what stands at a path, or inside that member. -/
def AtMembers (path : Path) (steps : List Step) (found : List Violation) : Prop :=
  ∀ x ∈ found, ∃ step ∈ steps, path ++ [step] <+: x.path

section Distinct

variable {found rest : List Violation} {path : Path} {step : Step} {steps : List Step}

theorem Distinct.nil : Distinct [] := List.Pairwise.nil

theorem Distinct.singleton (x : Violation) : Distinct [x] := List.pairwise_singleton _ x

theorem Distinct.append (h : Distinct found) (hrest : Distinct rest)
    (h' : ∀ x ∈ found, ∀ y ∈ rest, ¬ x.Repeats y) : Distinct (found ++ rest) :=
  List.pairwise_append.mpr ⟨h, hrest, h'⟩

/-- Violations of different codes do not repeat each other. -/
theorem Distinct.append_of_codes (codes : List ViolationCode) (h : Distinct found)
    (hrest : Distinct rest) (hfound : ∀ x ∈ found, x.code ∈ codes)
    (hcodes : ∀ y ∈ rest, y.code ∉ codes) : Distinct (found ++ rest) :=
  h.append hrest fun x hx y hy repeats => hcodes y hy (repeats.code ▸ hfound x hx)

theorem step_eq_of_prefix {other : Step} {place : Path} (h : path ++ [step] <+: place)
    (h' : path ++ [other] <+: place) : step = other := by
  obtain ⟨inner, rfl⟩ := h
  obtain ⟨inner', h'⟩ := h'
  simp only [List.append_assoc, List.append_cancel_left_eq, List.singleton_append,
    List.cons.injEq] at h'
  exact h'.1.symm

/-- Violations at a member do not repeat those at other members. -/
theorem Distinct.append_members (h : Distinct found) (hrest : Distinct rest)
    (new : step ∉ steps) (hfound : ∀ x ∈ found, path ++ [step] <+: x.path)
    (hbelow : AtMembers path steps rest) : Distinct (found ++ rest) := by
  refine h.append hrest fun x hx y hy repeats => ?_
  obtain ⟨other, hother, hy⟩ := hbelow y hy
  obtain rfl := step_eq_of_prefix (hfound x hx) (repeats.path ▸ hy)
  exact new hother

theorem AtMembers.cons (h : AtMembers path steps rest)
    (hfound : ∀ x ∈ found, path ++ [step] <+: x.path) :
    AtMembers path (step :: steps) (found ++ rest) := by
  intro x hx
  rcases List.mem_append.mp hx with hx | hx
  · exact ⟨step, List.mem_cons_self, hfound x hx⟩
  · obtain ⟨other, hother, hx⟩ := h x hx
    exact ⟨other, List.mem_cons_of_mem _ hother, hx⟩

/-- Violations of a value itself are not repeated at its members. -/
theorem Distinct.append_below (h : Distinct found) (hhere : ∀ x ∈ found, x.path = path)
    (hrest : Distinct rest) (hbelow : AtMembers path steps rest) : Distinct (found ++ rest) := by
  refine h.append hrest fun x hx y hy repeats => ?_
  obtain ⟨step, -, hy⟩ := hbelow y hy
  rw [← repeats.path, hhere x hx] at hy
  simpa using hy.length_le

end Distinct

/-- Texts that part ways are different. -/
theorem append_ne_append {s t : String} (h : ¬ s.toList <+: t.toList) (h' : ¬ t.toList <+: s.toList)
    (u v : String) : s ++ u ≠ t ++ v := by
  intro heq
  have hchars : s.toList ++ u.toList = t.toList ++ v.toList := by
    rw [← String.toList_append, ← String.toList_append, heq]
  have hboth := List.prefix_or_prefix_of_prefix (List.prefix_append s.toList u.toList)
    (hchars ▸ List.prefix_append t.toList v.toList)
  exact hboth.elim h h'

namespace Leaf

variable {facets : Facets} {v : Value} {path : Path} {typeName : String}

/-- Different violations of one code, all at the same path. -/
structure Own (path : Path) (code : ViolationCode) (found : List Violation) : Prop where
  distinct : Distinct found
  path : ∀ x ∈ found, x.path = path
  code : ∀ x ∈ found, x.code = code

/-- At most one violation, whose message begins in one way. -/
structure AtMostOne (path : Path) (code : ViolationCode) (start : String)
    (found : List Violation) : Prop where
  length : found.length ≤ 1
  path : ∀ x ∈ found, x.path = path
  code : ∀ x ∈ found, x.code = code
  message : ∀ x ∈ found, ∃ rest, x.message = start ++ rest

section Own

variable {code : ViolationCode} {start start' : String} {found found' : List Violation}

theorem Own.nil : Own path code [] := ⟨.nil, by simp, by simp⟩

theorem Own.violation (code : ViolationCode) (typeName : String) (path : Path) (message : String) :
    Own path code [violation code typeName path message] :=
  ⟨.singleton _, by simp [Leaf.violation], by simp [Leaf.violation]⟩

theorem AtMostOne.nil : AtMostOne path code start [] := by constructor <;> simp

theorem AtMostOne.violation (code : ViolationCode) (typeName : String) (path : Path)
    {message : String} (h : ∃ rest, message = start ++ rest) :
    AtMostOne path code start [violation code typeName path message] where
  length := Nat.le_refl 1
  path := by simp [Leaf.violation]
  code := by simp [Leaf.violation]
  message := by simpa [Leaf.violation] using h

theorem AtMostOne.own (h : AtMostOne path code start found) : Own path code found where
  distinct := by
    match found, h.length with
    | [], _ => exact .nil
    | [x], _ => exact .singleton x
  path := h.path
  code := h.code

/-- Messages that begin in different ways belong to different violations. -/
theorem AtMostOne.append (start start' : String) (h : AtMostOne path code start found)
    (h' : AtMostOne path code start' found') (hstart : ¬ start.toList <+: start'.toList)
    (hstart' : ¬ start'.toList <+: start.toList) : Own path code (found ++ found') where
  distinct := by
    refine h.own.distinct.append h'.own.distinct fun x hx y hy repeats => ?_
    obtain ⟨rest, hx⟩ := h.message x hx
    obtain ⟨rest', hy⟩ := h'.message y hy
    exact append_ne_append hstart hstart' rest rest' (hx ▸ hy ▸ repeats.message)
  path x hx := (List.mem_append.mp hx).elim (h.path x) (h'.path x)
  code x hx := (List.mem_append.mp hx).elim (h.code x) (h'.code x)

theorem Own.code_ne {other : ViolationCode} (h : Own path code found) (hne : code ≠ other) :
    ∀ x ∈ found, x.code ≠ other :=
  fun x hx => h.code x hx ▸ hne

/-- Violations of a code that others do not have. -/
theorem Own.append_distinct {rest : List Violation} (h : Own path code found)
    (hrest : Distinct rest) (hcodes : ∀ y ∈ rest, y.code ≠ code) : Distinct (found ++ rest) :=
  h.distinct.append hrest fun x hx y hy repeats =>
    hcodes y hy (repeats.code.symm.trans (h.code x hx))

end Own

section Facets

theorem own_checkChoices {found : List Violation}
    (h : checkChoices facets v path typeName = .ok found) : Own path .enumMismatch found := by
  rcases eq_of_checkChoices h with rfl | ⟨choices, rfl⟩
  · exact .nil
  · exact .violation _ typeName path _

theorem own_checkBounds (facets : Facets) (v : Value) (path : Path) (typeName : String) :
    Own path .outOfRange (checkBounds facets v path typeName) := by
  unfold checkBounds
  split
  · exact .nil
  · refine AtMostOne.append "Value must be greater than or equal to "
      "Value must be less than or equal to " ?_ ?_ (by decide) (by decide)
    · split
      · split
        · exact .violation _ typeName path ⟨_, String.append_assoc ..⟩
        · exact .nil
      · exact .nil
    · split
      · split
        · exact .violation _ typeName path ⟨_, String.append_assoc ..⟩
        · exact .nil
      · exact .nil

theorem own_checkPattern {found : List Violation}
    (h : checkPattern facets v path typeName = .ok found) : Own path .patternMismatch found := by
  unfold checkPattern at h
  split at h
  · split at h
    · contradiction
    · split at h
      · obtain rfl := Except.ok.inj h
        exact .nil
      · obtain rfl := Except.ok.inj h
        exact .violation _ typeName path _
  · obtain rfl := Except.ok.inj h
    exact .nil

theorem atMostOne_miscounted (count : Nat) (side : String) (bound : Option Int) :
    AtMostOne path .cardinality ("Expected " ++ side) ((bound.toList.map fun n => (side, n)).map
      fun (side, n) => miscounted count path typeName side n) := by
  cases bound with
  | none => exact .nil
  | some n =>
    refine .violation _ typeName path
      ⟨" " ++ (toString n ++ (" items but got " ++ (toString count ++ "."))), ?_⟩
    simp only [String.append_assoc]

theorem own_checkCardinality {found : List Violation}
    (h : checkCardinality facets v path typeName = .ok found) : Own path .cardinality found := by
  rcases eq_of_checkCardinality h with rfl | ⟨count, rfl⟩
  · exact .nil
  · rw [exceeded, List.map_append]
    exact (atMostOne_miscounted count "at least" _).append _ _
      (atMostOne_miscounted count "at most" _) (by decide) (by decide)

/-- The facets of a leaf report different things, all at the value itself. -/
theorem distinct_checkFacets {found : List Violation}
    (h : checkFacets facets v path typeName = .ok found) :
    Distinct found ∧ ∀ x ∈ found, x.path = path := by
  obtain ⟨_, _, _, hchoices, hpattern, hcardinality, rfl⟩ := checkFacets_eq_ok.mp h
  have hchoices := own_checkChoices hchoices
  have hbounds := own_checkBounds facets v path typeName
  have hpattern := own_checkPattern hpattern
  have hcardinality := own_checkCardinality hcardinality
  constructor
  · simp only [List.append_assoc]
    refine hchoices.append_distinct (hbounds.append_distinct (hpattern.append_distinct
      hcardinality.distinct (hcardinality.code_ne (by decide))) ?_) ?_ <;>
      simp only [List.forall_mem_append]
    · exact ⟨hpattern.code_ne (by decide), hcardinality.code_ne (by decide)⟩
    · exact ⟨hbounds.code_ne (by decide), hpattern.code_ne (by decide),
        hcardinality.code_ne (by decide)⟩
  · simp only [List.forall_mem_append]
    exact ⟨⟨⟨hchoices.path, hbounds.path⟩, hpattern.path⟩, hcardinality.path⟩

end Facets

/-- Members of a value, each reached by a step of its own, report different things. -/
theorem distinct_checkMembers {check : Value → Path → Except Fault (List Violation)}
    {members : List (Step × Value)} {found : List Violation}
    (steps : (members.map Prod.fst).Nodup)
    (hmember : ∀ step w own, (step, w) ∈ members → check w (path ++ [step]) = .ok own →
      Distinct own ∧ ∀ x ∈ own, path ++ [step] <+: x.path)
    (h : checkMembers check members path = .ok found) :
    Distinct found ∧ AtMembers path (members.map Prod.fst) found := by
  induction members generalizing found with
  | nil =>
    obtain rfl := Except.ok.inj h
    exact ⟨.nil, by simp [AtMembers]⟩
  | cons member members ih =>
    obtain ⟨step, w⟩ := member
    obtain ⟨-, own, rest, hown, hrest, rfl⟩ := checkMembers_cons_eq_ok.mp h
    rw [List.map_cons, List.nodup_cons] at steps
    obtain ⟨distinct, below⟩ := hmember step w own List.mem_cons_self hown
    obtain ⟨hdistinct, hbelow⟩ := ih steps.2
      (fun step w own hw => hmember step w own (List.mem_cons_of_mem _ hw)) hrest
    refine ⟨distinct.append_members hdistinct steps.1 below hbelow, ?_⟩
    exact hbelow.cons below

theorem prefix_of_check {leaf : Leaf} {found : List Violation} {x : Violation}
    (h : leaf.check v path typeName = .ok found) (hx : x ∈ found) : path <+: x.path := by
  obtain ⟨inner, -, -, hplace⟩ := (located_of_check h hx).place
  exact ⟨inner, hplace.symm⟩

/-- A leaf reports nothing twice. -/
theorem distinct_check {leaf : Leaf} {found : List Violation} (once : v.KeysOnce)
    (texts : v.TextKeyed) (h : leaf.check v path typeName = .ok found) : Distinct found := by
  induction leaf using nested_induction generalizing v path found with
  | leaf facets items entries hitems hentries =>
    have hinner {inside : List Violation}
        (h : Leaf.checkInner ⟨facets, items, entries⟩ v path typeName = .ok inside) :
        Distinct inside ∧ AtMembers path (v.members.map Prod.fst) inside := by
      unfold checkInner at h
      split at h
      · rename_i l members hl
        obtain rfl := inner?_members hl
        refine distinct_checkMembers (Value.nodup_steps once texts) ?_ h
        intro step w own hw hown
        refine ⟨?_, fun x hx => prefix_of_check hown hx⟩
        have once := once.of_member hw
        have texts := texts.of_member hw
        exact (inner?_mem hl).elim (fun h => hitems l h once texts hown)
          fun h => hentries l h once texts hown
      · obtain rfl := Except.ok.inj h
        exact ⟨.nil, by simp [AtMembers]⟩
    cases verdict_of_check h with
    | verbatim => exact .nil
    | misfit => exact .singleton _
    | sample => exact .nil
    | looked _ hown hinside =>
      obtain ⟨hown, hhere⟩ := distinct_checkFacets hown
      obtain ⟨hinside, hbelow⟩ := hinner hinside
      exact hown.append_below hhere hinside hbelow

end Leaf

end ShapeLint
