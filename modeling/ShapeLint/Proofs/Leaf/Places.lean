import ShapeLint.Proofs.Document.Routes
import ShapeLint.Proofs.Leaf.Recursion

/-! Where leaves find what is wrong: at the value they check or at a value inside it. Main
statement: `Leaf.located_of_check`. -/
namespace ShapeLint

/-- The codes of violations that leaves report. -/
def ViolationCode.ofLeaf : ViolationCode → Bool
  | typeMismatch | enumMismatch | outOfRange | patternMismatch | cardinality => true
  | _ => false

namespace Leaf

/-- A violation that a leaf reports at a value or inside it. -/
structure Located (v : Value) (path : Path) (typeName : String) (x : Violation) : Prop where
  code : x.code.ofLeaf
  type : x.typeName = typeName
  place : ∃ inner w, v.Leads inner w ∧ x.path = path ++ inner

variable {v : Value} {path : Path} {typeName : String} {x : Violation}

theorem Located.here (code : x.code.ofLeaf) (type : x.typeName = typeName) (place : x.path = path) :
    Located v path typeName x :=
  ⟨code, type, [], v, .here v, by rw [place, List.append_nil]⟩

theorem Located.of_member {w : Value} {step : Step} (hw : (step, w) ∈ v.members)
    (h : Located w (path ++ [step]) typeName x) : Located v path typeName x := by
  obtain ⟨inner, u, hu, hplace⟩ := h.place
  exact ⟨h.code, h.type, step :: inner, u, .step hw hu, by simp [hplace]⟩

section Facets

variable {facets : Facets} {found : List Violation}

/-- The choices report a value once, if at all. -/
theorem eq_of_checkChoices (h : checkChoices facets v path typeName = .ok found) :
    found = [] ∨ ∃ choices, found = [notAmong choices v path typeName] := by
  unfold checkChoices at h
  split at h
  · rename_i choices _
    split at h
    · exact .inl (Except.ok.inj h).symm
    · exact .inr ⟨choices, (writing_eq_ok.mp h).2.symm⟩
  · exact .inl (Except.ok.inj h).symm

/-- The choices fail a value that they refuse and that cannot be told with them. -/
theorem checkChoices_eq_error {fault : Fault} :
    checkChoices facets v path typeName = .error fault ↔
      (∃ choices ∈ facets.choices, ¬ choices.any (v.same ·) ∧
        ¬ ∀ x ∈ v :: choices, x.isWritable) ∧ fault = .unwritable := by
  unfold checkChoices
  cases facets.choices with
  | none => simp
  | some choices =>
    dsimp only
    split
    · rename_i hmember
      exact iff_of_false nofun fun ⟨⟨_, hchoices, refused, _⟩, _⟩ =>
        refused (Option.some.inj hchoices ▸ hmember)
    · rename_i refused
      rw [writing_eq_error]
      refine and_congr_left fun _ => ⟨fun long => ⟨choices, rfl, refused, long⟩, ?_⟩
      rintro ⟨_, hchoices, -, long⟩
      obtain rfl := Option.some.inj hchoices
      exact long

/-- The number of items is reported for each bound that it is on the wrong side of. -/
theorem eq_of_checkCardinality (h : checkCardinality facets v path typeName = .ok found) :
    found = [] ∨ ∃ count, found = (exceeded facets count).map fun (side, bound) =>
      miscounted count path typeName side bound := by
  unfold checkCardinality at h
  split at h
  · exact .inr ⟨_, (writing_eq_ok.mp h).2.symm⟩
  · exact .inr ⟨_, (writing_eq_ok.mp h).2.symm⟩
  · exact .inl (Except.ok.inj h).symm

theorem located_of_checkChoices (h : checkChoices facets v path typeName = .ok found)
    (hx : x ∈ found) : Located v path typeName x := by
  rcases eq_of_checkChoices h with rfl | ⟨choices, rfl⟩
  · contradiction
  · obtain rfl := List.mem_singleton.mp hx
    exact .here rfl rfl rfl

theorem located_of_checkBounds (h : x ∈ checkBounds facets v path typeName) :
    Located v path typeName x := by
  unfold checkBounds at h
  split at h
  · contradiction
  · rcases List.mem_append.mp h with h | h <;> split at h <;> try contradiction
    all_goals
      split at h
      · obtain rfl := List.mem_singleton.mp h
        exact .here rfl rfl rfl
      · contradiction

theorem located_of_checkCardinality (h : checkCardinality facets v path typeName = .ok found)
    (hx : x ∈ found) : Located v path typeName x := by
  rcases eq_of_checkCardinality h with rfl | ⟨count, rfl⟩
  · contradiction
  · obtain ⟨_, -, rfl⟩ := List.mem_map.mp hx
    exact .here rfl rfl rfl

theorem located_of_checkPattern (h : checkPattern facets v path typeName = .ok found)
    (hx : x ∈ found) : Located v path typeName x := by
  unfold checkPattern at h
  split at h
  · split at h
    · contradiction
    · split at h
      · obtain rfl := Except.ok.inj h
        contradiction
      · obtain rfl := Except.ok.inj h
        obtain rfl := List.mem_singleton.mp hx
        exact .here rfl rfl rfl
  · obtain rfl := Except.ok.inj h
    contradiction

theorem located_of_checkFacets (h : checkFacets facets v path typeName = .ok found)
    (hx : x ∈ found) : Located v path typeName x := by
  obtain ⟨_, _, _, hchoices, hpattern, hcardinality, rfl⟩ := checkFacets_eq_ok.mp h
  simp only [List.mem_append] at hx
  rcases hx with ((hx | hx) | hx) | hx
  · exact located_of_checkChoices hchoices hx
  · exact located_of_checkBounds hx
  · exact located_of_checkPattern hpattern hx
  · exact located_of_checkCardinality hcardinality hx

end Facets

theorem inner?_members {leaf l : Leaf} {members : List (Step × Value)}
    (h : leaf.inner? v = some (l, members)) : members = v.members := by
  cases v <;> simp only [inner?, Option.map_eq_some_iff, Prod.mk.injEq, reduceCtorEq] at h
  all_goals
    obtain ⟨_, _, -, rfl⟩ := h
    rfl

theorem exists_member_of_checkMembers {check : Value → Path → Except Fault (List Violation)}
    {members : List (Step × Value)} {found : List Violation}
    (h : checkMembers check members path = .ok found) (hx : x ∈ found) :
    ∃ step w own, (step, w) ∈ members ∧ check w (path ++ [step]) = .ok own ∧ x ∈ own := by
  induction members generalizing found with
  | nil =>
    obtain rfl := Except.ok.inj h
    contradiction
  | cons member members ih =>
    obtain ⟨step, w⟩ := member
    obtain ⟨-, own, rest, hown, hrest, rfl⟩ := checkMembers_cons_eq_ok.mp h
    rcases List.mem_append.mp hx with hx | hx
    · exact ⟨step, w, own, List.mem_cons_self, hown, hx⟩
    · obtain ⟨step', w', own', hmember, hown', hx'⟩ := ih hrest hx
      exact ⟨step', w', own', List.mem_cons_of_mem _ hmember, hown', hx'⟩

/-- What is found at the members of a value is found by the leaf inside at one of them. -/
theorem exists_member_of_checkInner {leaf : Leaf} {found : List Violation}
    (h : leaf.checkInner v path typeName = .ok found) (hx : x ∈ found) :
    ∃ l step w own, (l ∈ leaf.items ∨ l ∈ leaf.entries) ∧ (step, w) ∈ v.members ∧
      l.check w (path ++ [step]) typeName = .ok own ∧ x ∈ own := by
  unfold checkInner at h
  split at h
  · rename_i l members hl
    obtain rfl := inner?_members hl
    obtain ⟨step, w, own, hw, hown, hx⟩ := exists_member_of_checkMembers h hx
    exact ⟨l, step, w, own, inner?_mem hl, hw, hown, hx⟩
  · obtain rfl := Except.ok.inj h
    contradiction

/-- A leaf finds nothing wrong but at the value it checks or inside it. -/
theorem located_of_check {leaf : Leaf} {found : List Violation}
    (h : leaf.check v path typeName = .ok found) (hx : x ∈ found) :
    Located v path typeName x := by
  induction leaf using nested_induction generalizing v path found x with
  | leaf facets items entries hitems hentries =>
    cases verdict_of_check h with
    | verbatim => contradiction
    | misfit =>
      obtain rfl := List.mem_singleton.mp hx
      exact .here rfl rfl rfl
    | sample => contradiction
    | looked _ hown hinside =>
      rcases List.mem_append.mp hx with hx | hx
      · exact located_of_checkFacets hown hx
      · obtain ⟨l, step, w, own, hl, hw, hown, hx⟩ := exists_member_of_checkInner hinside hx
        refine .of_member hw ?_
        exact hl.elim (fun h => hitems l h hown hx) fun h => hentries l h hown hx

end Leaf

end ShapeLint
