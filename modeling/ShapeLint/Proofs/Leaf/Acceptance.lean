import ShapeLint.Proofs.Leaf.Bounds

/-!
Which values a leaf accepts: what each facet asks of a value, what the leaf inside asks of its
members, and where a leaf stops looking. Main statement: `Leaf.accepts_iff`.
-/
namespace ShapeLint

/-- What the facets of a leaf ask of a value of its type. -/
structure Facets.Admit (facets : Facets) (v : Value) : Prop where
  chosen : ∀ choices ∈ facets.choices, ∃ c ∈ choices, v.same c
  bounded : ∀ b : Bound, ∀ kept ∈ b.of facets, ∀ q ∈ Leaf.boundedQuantity? v,
    b.breaks q kept = false
  matched : ∀ pattern ∈ facets.pattern, ∀ s ∈ v.text?,
    ∃ search, pattern.search? = some search ∧ search s
  enough : ∀ least ∈ facets.minItems, ∀ xs ∈ Field.items? v, least ≤ (xs.length : Int)
  notTooMany : ∀ most ∈ facets.maxItems, ∀ xs ∈ Field.items? v, (xs.length : Int) ≤ most

namespace Leaf

/-- The value is of the type that the leaf expects, if it expects one. -/
def Typed (leaf : Leaf) (v : Value) : Prop :=
  ∀ expected ∈ nonempty? leaf.type, matchesType expected v

/-- A leaf accepts a value: as it stands, or for its type alone, or for its facets and members. -/
inductive Accepts : Leaf → Value → Prop where
  | verbatim {leaf : Leaf} {v : Value} (h : leaf.resolvable = false) : Accepts leaf v
  | sample {leaf : Leaf} {v : Value} (typed : leaf.Typed v) (h : leaf.isExample) : Accepts leaf v
  | checked {leaf : Leaf} {v : Value} (typed : leaf.Typed v) (own : leaf.toFacets.Admit v)
      (taken : ∀ l members, leaf.inner? v = some (l, members) →
        ∀ member ∈ members, member.1.take = .ok ())
      (members : ∀ l members, leaf.inner? v = some (l, members) →
        ∀ member ∈ members, Accepts l member.2) : Accepts leaf v

variable {leaf : Leaf} {facets : Facets} {v : Value} {path : Path} {typeName : String}

theorem typed_iff : leaf.Typed v ↔ (nonempty? leaf.type).filter (!matchesType · v) = none := by
  simp [Typed, Option.filter_eq_none_iff]

section Facets

theorem checkChoices_eq_nil_iff : checkChoices facets v path typeName = .ok [] ↔
    ∀ choices ∈ facets.choices, ∃ c ∈ choices, v.same c := by
  unfold checkChoices
  cases facets.choices with
  | none => simp
  | some choices => by_cases h : choices.any (v.same ·) <;> simp_all [writing_eq_ok]

theorem checkBounds_eq_nil_iff : checkBounds facets v path typeName = [] ↔
    ∀ b : Bound, ∀ kept ∈ b.of facets, ∀ q ∈ boundedQuantity? v, b.breaks q kept = false := by
  cases hq : boundedQuantity? v with
  | none => simp [checkBounds, hq]
  | some q =>
    have hfound (b : Bound) : b.found facets q path typeName = [] ↔
        ∀ kept ∈ b.of facets, b.breaks q kept = false := by
      unfold Bound.found
      cases b.of facets with
      | none => simp
      | some kept => cases h : b.breaks q kept <;> simp [h]
    rw [Bound.checkBounds_eq hq, List.append_eq_nil_iff, hfound, hfound]
    constructor
    · rintro ⟨hminimum, hmaximum⟩ b kept hkept p hp
      obtain rfl := Option.mem_some.mp hp
      cases b with
      | minimum => exact hminimum kept hkept
      | maximum => exact hmaximum kept hkept
    · intro h
      exact ⟨fun kept hkept => h _ kept hkept q rfl, fun kept hkept => h _ kept hkept q rfl⟩

theorem checkPattern_eq_nil_iff : checkPattern facets v path typeName = .ok [] ↔
    ∀ pattern ∈ facets.pattern, ∀ s ∈ v.text?,
      ∃ search, pattern.search? = some search ∧ search s := by
  cases hpattern : facets.pattern with
  | none => simp [checkPattern, hpattern]
  | some pattern =>
    by_cases htext : ∃ s, v = .text s
    · obtain ⟨s, rfl⟩ := htext
      cases hsearch : pattern.search? with
      | none => simp [checkPattern, hpattern, Value.text?, hsearch]
      | some search =>
        cases hoccurs : search s <;>
          simp [checkPattern, hpattern, Value.text?, hsearch, hoccurs]
    · have hnone : v.text? = none := by
        cases v with
        | scalar t => cases t <;> simp_all [Value.text?]
        | _ => rfl
      have hcheck : checkPattern facets v path typeName = .ok [] := by
        unfold checkPattern
        split
        · exact absurd ⟨_, rfl⟩ htext
        · rfl
      simp [hcheck, hnone]

theorem exceeded_eq_nil_iff {count : Nat} : exceeded facets count = [] ↔
    (∀ least ∈ facets.minItems, least ≤ (count : Int)) ∧
      ∀ most ∈ facets.maxItems, (count : Int) ≤ most := by
  unfold exceeded
  rw [List.append_eq_nil_iff]
  refine and_congr ?_ ?_
  · cases facets.minItems with
    | none => simp
    | some least => simp
  · cases facets.maxItems with
    | none => simp
    | some most => simp

theorem checkCardinality_eq_nil_iff : checkCardinality facets v path typeName = .ok [] ↔
    ∀ xs ∈ Field.items? v, (∀ least ∈ facets.minItems, least ≤ (xs.length : Int)) ∧
      ∀ most ∈ facets.maxItems, (xs.length : Int) ≤ most := by
  cases v with
  | list identity xs | tuple xs =>
    simp only [checkCardinality, writing_eq_ok, List.map_eq_nil_iff, Field.items?,
      Option.mem_some, forall_eq', exceeded_eq_nil_iff]
    refine and_iff_right_of_imp fun h => ?_
    rw [exceeded_eq_nil_iff.mpr h]
    exact List.forall_mem_nil _
  | _ => simp [checkCardinality, Field.items?]

theorem checkFacets_eq_nil_iff :
    checkFacets facets v path typeName = .ok [] ↔ facets.Admit v := by
  have hsplit : checkFacets facets v path typeName = .ok [] ↔
      checkChoices facets v path typeName = .ok [] ∧ checkBounds facets v path typeName = [] ∧
        checkPattern facets v path typeName = .ok [] ∧
        checkCardinality facets v path typeName = .ok [] := by
    rw [checkFacets_eq_ok]
    constructor
    · rintro ⟨choices, pattern, cardinality, hchoices, hpattern, hcardinality, h⟩
      obtain ⟨hpatterns, rfl⟩ := List.append_eq_nil_iff.mp h
      obtain ⟨hnumbers, rfl⟩ := List.append_eq_nil_iff.mp hpatterns
      obtain ⟨rfl, hbounds⟩ := List.append_eq_nil_iff.mp hnumbers
      exact ⟨hchoices, hbounds, hpattern, hcardinality⟩
    · rintro ⟨hchoices, hbounds, hpattern, hcardinality⟩
      exact ⟨[], [], [], hchoices, hpattern, hcardinality, by rw [hbounds]; rfl⟩
  rw [hsplit, checkChoices_eq_nil_iff, checkBounds_eq_nil_iff, checkPattern_eq_nil_iff,
    checkCardinality_eq_nil_iff]
  constructor
  · rintro ⟨chosen, bounded, matched, counted⟩
    exact ⟨chosen, bounded, matched, fun least h xs hxs => (counted xs hxs).1 least h,
      fun most h xs hxs => (counted xs hxs).2 most h⟩
  · rintro ⟨chosen, bounded, matched, enough, notTooMany⟩
    exact ⟨chosen, bounded, matched, fun xs hxs =>
      ⟨fun least h => enough least h xs hxs, fun most h => notTooMany most h xs hxs⟩⟩

end Facets

theorem checkMembers_eq_nil_iff {check : Value → Path → Except Fault (List Violation)}
    {members : List (Step × Value)} : checkMembers check members path = .ok [] ↔
      ∀ member ∈ members,
        member.1.take = .ok () ∧ check member.2 (path ++ [member.1]) = .ok [] := by
  induction members with
  | nil => exact iff_of_true rfl (by simp)
  | cons member members ih =>
    obtain ⟨step, w⟩ := member
    rw [checkMembers_cons_eq_ok, List.forall_mem_cons, ← ih, and_assoc]
    refine and_congr_right fun _ => ?_
    constructor
    · rintro ⟨own, rest, hown, hrest, h⟩
      obtain ⟨rfl, rfl⟩ := List.append_eq_nil_iff.mp h
      exact ⟨hown, hrest⟩
    · rintro ⟨hown, hrest⟩
      exact ⟨[], [], hown, hrest, rfl⟩

theorem checkInner_eq_nil_iff : leaf.checkInner v path typeName = .ok [] ↔
    ∀ l members, leaf.inner? v = some (l, members) → ∀ member ∈ members,
      member.1.take = .ok () ∧ l.check member.2 (path ++ [member.1]) typeName = .ok [] := by
  unfold checkInner
  cases h : leaf.inner? v with
  | none => simp
  | some found =>
    obtain ⟨l, members⟩ := found
    simp [checkMembers_eq_nil_iff]

/-- How the check of a value comes to find nothing. -/
theorem check_eq_nil_iff : leaf.check v path typeName = .ok [] ↔
    leaf.resolvable = false ∨ leaf.Typed v ∧ (leaf.isExample ∨
      leaf.toFacets.Admit v ∧ leaf.checkInner v path typeName = .ok []) := by
  rw [check_eq, typed_iff]
  cases hresolvable : leaf.resolvable with
  | false => simp
  | true =>
    cases htype : (nonempty? leaf.type).filter (!matchesType · v) with
    | some expected => simp
    | none =>
      cases hexample : leaf.isExample with
      | true => simp
      | false =>
        have hboth : (do
            let own ← checkFacets leaf.toFacets v path typeName
            let members ← leaf.checkInner v path typeName
            return own ++ members) = .ok [] ↔
            checkFacets leaf.toFacets v path typeName = .ok [] ∧
              leaf.checkInner v path typeName = .ok [] := by
          constructor
          · intro h
            obtain ⟨own, hown, h⟩ := bind_eq_ok.mp h
            obtain ⟨members, hmembers, h⟩ := bind_eq_ok.mp h
            obtain ⟨rfl, rfl⟩ := List.append_eq_nil_iff.mp (Except.ok.inj h)
            exact ⟨hown, hmembers⟩
          · rintro ⟨hown, hmembers⟩
            rw [hown, hmembers]
            rfl
        simpa [checkFacets_eq_nil_iff] using hboth

/-- The check of a value finds nothing, and does not fail, just when the leaf accepts the value,
wherever it stands. -/
theorem accepts_iff : leaf.check v path typeName = .ok [] ↔ leaf.Accepts v := by
  constructor
  · intro h
    induction leaf using nested_induction generalizing v path with
    | leaf facets items entries hitems hentries =>
      rcases check_eq_nil_iff.mp h with h | ⟨typed, h | ⟨own, inside⟩⟩
      · exact .verbatim h
      · exact .sample typed h
      · have hmembers := checkInner_eq_nil_iff.mp inside
        refine .checked typed own (fun l members hl member hmember =>
          (hmembers l members hl member hmember).1) fun l members hl member hmember => ?_
        have haccepted := (hmembers l members hl member hmember).2
        exact (inner?_mem hl).elim (fun h => hitems l h haccepted) fun h => hentries l h haccepted
  · intro h
    induction h generalizing path with
    | verbatim h => exact check_eq_nil_iff.mpr (.inl h)
    | sample typed h => exact check_eq_nil_iff.mpr (.inr ⟨typed, .inl h⟩)
    | checked typed own taken _ ih =>
      refine check_eq_nil_iff.mpr (.inr ⟨typed, .inr ⟨own, ?_⟩⟩)
      exact checkInner_eq_nil_iff.mpr fun l members hl member hmember =>
        ⟨taken l members hl member hmember, ih l members hl member hmember⟩

end Leaf

end ShapeLint
