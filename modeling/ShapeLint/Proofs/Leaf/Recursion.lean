import ShapeLint.Leaf.Check
import ShapeLint.Proofs.Outcome

/-! How the check of a leaf recurses: first the facets of the leaf, then the leaf inside it on the
members of the value. -/
namespace ShapeLint.Leaf

/-- Induction over a leaf and the leaves inside it. -/
@[elab_as_elim] theorem nested_induction {motive : Leaf → Prop}
    (leaf : ∀ (facets : Facets) (items entries : Option Leaf), (∀ l ∈ items, motive l) →
      (∀ l ∈ entries, motive l) → motive ⟨facets, items, entries⟩) (l : Leaf) : motive l :=
  Leaf.rec (motive_2 := fun inner => ∀ l ∈ inner, motive l) leaf (by simp)
    (fun _ ih _ h => Option.mem_some.mp h ▸ ih) l

/-- The leaf for the members of a value, with the members. -/
def inner? (leaf : Leaf) : Value → Option (Leaf × List (Step × Value))
  | .list _ xs | .tuple xs => leaf.items.map fun l => (l, numbered xs)
  | .mapping _ es => leaf.entries.map fun l => (l, keyed es)
  | .scalar _ => none

/-- The checks of the members of a value. -/
def checkInner (leaf : Leaf) (v : Value) (path : Path) (typeName : String) :
    Except Fault (List Violation) :=
  match leaf.inner? v with
  | some (l, members) => checkMembers (fun x path => l.check x path typeName) members path
  | none => .ok []

/-- What the facets of a leaf find, if none of their checks fails. -/
theorem checkFacets_eq_ok {facets : Facets} {v : Value} {path : Path} {typeName : String}
    {found : List Violation} : checkFacets facets v path typeName = .ok found ↔
      ∃ choices pattern cardinality, checkChoices facets v path typeName = .ok choices ∧
        checkPattern facets v path typeName = .ok pattern ∧
        checkCardinality facets v path typeName = .ok cardinality ∧
        choices ++ checkBounds facets v path typeName ++ pattern ++ cardinality = found := by
  constructor
  · intro h
    obtain ⟨choices, hchoices, h⟩ := bind_eq_ok.mp h
    obtain ⟨pattern, hpattern, h⟩ := bind_eq_ok.mp h
    obtain ⟨cardinality, hcardinality, h⟩ := bind_eq_ok.mp h
    exact ⟨choices, pattern, cardinality, hchoices, hpattern, hcardinality, Except.ok.inj h⟩
  · rintro ⟨choices, pattern, cardinality, hchoices, hpattern, hcardinality, rfl⟩
    exact bind_eq_ok.mpr ⟨choices, hchoices, bind_eq_ok.mpr ⟨pattern, hpattern,
      bind_eq_ok.mpr ⟨cardinality, hcardinality, rfl⟩⟩⟩

/-- The facets of a leaf are checked before the members of the value. -/
theorem check_eq (leaf : Leaf) (v : Value) (path : Path) (typeName : String) :
    leaf.check v path typeName =
      if !leaf.resolvable then .ok []
      else match (nonempty? leaf.type).filter (!matchesType · v) with
      | some expected => .ok [typeMismatch expected v typeName path]
      | none =>
        if leaf.isExample then .ok []
        else do
          let own ← checkFacets leaf.toFacets v path typeName
          let members ← leaf.checkInner v path typeName
          return own ++ members := by
  obtain ⟨facets, items, entries⟩ := leaf
  rw [check]
  cases v <;> cases items <;> cases entries <;> rfl

/-- What a check that does not fail finds, and why: nothing, or a value of the wrong type, or what
is wrong with the facets of the value and then with its members. -/
inductive Verdict (leaf : Leaf) (v : Value) (path : Path) (typeName : String) :
    List Violation → Prop where
  | verbatim (unresolvable : leaf.resolvable = false) : Verdict leaf v path typeName []
  | misfit {expected : String} (expects : nonempty? leaf.type = some expected)
      (misfit : matchesType expected v = false) :
      Verdict leaf v path typeName [typeMismatch expected v typeName path]
  | sample (marked : leaf.isExample) : Verdict leaf v path typeName []
  | looked {own inside : List Violation}
      (typed : (nonempty? leaf.type).filter (!matchesType · v) = none)
      (facets : checkFacets leaf.toFacets v path typeName = .ok own)
      (members : leaf.checkInner v path typeName = .ok inside) :
      Verdict leaf v path typeName (own ++ inside)

theorem verdict_of_check {leaf : Leaf} {v : Value} {path : Path} {typeName : String}
    {found : List Violation} (h : leaf.check v path typeName = .ok found) :
    leaf.Verdict v path typeName found := by
  rw [check_eq] at h
  split at h
  · rename_i unresolvable
    obtain rfl := Except.ok.inj h
    exact .verbatim (by simpa using unresolvable)
  · split at h
    · rename_i expected hexpected
      obtain rfl := Except.ok.inj h
      obtain ⟨expects, misfit⟩ := Option.filter_eq_some_iff.mp hexpected
      exact .misfit expects (by simpa using misfit)
    · rename_i typed
      split at h
      · rename_i marked
        obtain rfl := Except.ok.inj h
        exact .sample marked
      · obtain ⟨own, hown, h⟩ := bind_eq_ok.mp h
        obtain ⟨inside, hinside, h⟩ := bind_eq_ok.mp h
        obtain rfl := Except.ok.inj h
        exact .looked typed hown hinside

/-- The leaf inside a leaf is smaller than it. -/
theorem inner?_mem {leaf l : Leaf} {v : Value} {members : List (Step × Value)}
    (h : leaf.inner? v = some (l, members)) : l ∈ leaf.items ∨ l ∈ leaf.entries := by
  cases v <;> simp only [inner?, Option.map_eq_some_iff, Prod.mk.injEq, reduceCtorEq] at h
  all_goals
    obtain ⟨l', hl, rfl, -⟩ := h
    simp [hl]

theorem checkMembers_cons (check : Value → Path → Except Fault (List Violation)) (step : Step)
    (x : Value) (members : List (Step × Value)) (path : Path) :
    checkMembers check ((step, x) :: members) path = (do
      step.take
      let found ← check x (path ++ [step])
      let rest ← checkMembers check members path
      return found ++ rest) := by
  simp only [checkMembers, List.mapM_cons, bind_assoc, pure_bind, List.flatten_cons]

theorem checkMembers_cons_eq_ok {check : Value → Path → Except Fault (List Violation)} {step : Step}
    {x : Value} {members : List (Step × Value)} {path : Path} {found : List Violation} :
    checkMembers check ((step, x) :: members) path = .ok found ↔ step.take = .ok () ∧ ∃ own rest,
      check x (path ++ [step]) = .ok own ∧ checkMembers check members path = .ok rest ∧
        own ++ rest = found := by
  rw [checkMembers_cons, bind_eq_ok]
  constructor
  · rintro ⟨_, htake, h⟩
    obtain ⟨own, hown, h⟩ := bind_eq_ok.mp h
    obtain ⟨rest, hrest, h⟩ := bind_eq_ok.mp h
    exact ⟨htake, own, rest, hown, hrest, Except.ok.inj h⟩
  · rintro ⟨htake, own, rest, hown, hrest, rfl⟩
    exact ⟨(), htake, bind_eq_ok.mpr ⟨own, hown, bind_eq_ok.mpr ⟨rest, hrest, rfl⟩⟩⟩

end ShapeLint.Leaf
