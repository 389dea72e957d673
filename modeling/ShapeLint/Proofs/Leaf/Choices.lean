import ShapeLint.Proofs.Document.Likeness
import ShapeLint.Proofs.Leaf.Acceptance
import ShapeLint.Proofs.Leaf.Repetition

/-!
What passes the choices of a leaf. A boolean passes for the number that it is compared as, at any
depth, so choices keep booleans and numbers apart only where the two do not meet. Main statement:
`passes_iff_alike`.
-/
namespace ShapeLint.Leaf

open Value (Alike)

/-- Nothing among what is found says that the value at a path is of the wrong type or not one of
the choices. -/
def Passes (path : Path) (found : List Violation) : Prop :=
  ∀ x ∈ found, x.path = path → x.code ≠ .typeMismatch ∧ x.code ≠ .enumMismatch

variable {leaf : Leaf} {v : Value} {path : Path} {typeName : String} {found : List Violation}

/-- What is found at the members of a value is not found at the value itself. -/
theorem path_ne_of_checkInner {x : Violation} (h : leaf.checkInner v path typeName = .ok found)
    (hx : x ∈ found) : x.path ≠ path := by
  obtain ⟨l, step, w, own, -, -, hown, hx⟩ := exists_member_of_checkInner h hx
  intro hpath
  have hlength := (prefix_of_check hown hx).length_le
  simp [hpath] at hlength

theorem Passes.append_iff {rest : List Violation} :
    Passes path (found ++ rest) ↔ Passes path found ∧ Passes path rest := by
  simp only [Passes, List.forall_mem_append]

theorem passes_of_own {code : ViolationCode} (own : Own path code found)
    (htype : code ≠ .typeMismatch) (hchoices : code ≠ .enumMismatch) : Passes path found :=
  fun x hx _ => ⟨own.code_ne htype x hx, own.code_ne hchoices x hx⟩

theorem passes_checkChoices_iff {facets : Facets}
    (h : checkChoices facets v path typeName = .ok found) :
    Passes path found ↔ checkChoices facets v path typeName = .ok [] := by
  have own := own_checkChoices h
  rw [h, Except.ok.injEq]
  constructor
  · intro hpasses
    refine List.eq_nil_iff_forall_not_mem.mpr fun x hx => ?_
    exact (hpasses x hx (own.path x hx)).2 (own.code x hx)
  · rintro rfl
    exact List.forall_mem_nil _

/-- A value passes just when it is of the leaf's type and its choices find nothing wrong: whatever
else is found has another code or is found deeper. -/
theorem passes_iff (h : leaf.check v path typeName = .ok found) (resolvable : leaf.resolvable)
    (unmarked : leaf.isExample = false) :
    Passes path found ↔
      leaf.Typed v ∧ checkChoices leaf.toFacets v path typeName = .ok [] := by
  cases verdict_of_check h with
  | verbatim unresolvable => simp [unresolvable] at resolvable
  | misfit expects misfit =>
    refine iff_of_false (fun hpasses => (hpasses _ List.mem_cons_self rfl).1 rfl) ?_
    rintro ⟨typed, -⟩
    simp [typed _ expects] at misfit
  | sample marked => simp [unmarked] at marked
  | @looked _ inside typed hown hinside =>
    obtain ⟨choices, pattern, cardinality, hchoices, hpattern, hcardinality, rfl⟩ :=
      checkFacets_eq_ok.mp hown
    have hbounds : Passes path (checkBounds leaf.toFacets v path typeName) :=
      passes_of_own (own_checkBounds ..) (by decide) (by decide)
    have hpattern : Passes path pattern :=
      passes_of_own (own_checkPattern hpattern) (by decide) (by decide)
    have hcardinality : Passes path cardinality :=
      passes_of_own (own_checkCardinality hcardinality) (by decide) (by decide)
    have hinside : Passes path inside := fun x hx hpath =>
      absurd hpath (path_ne_of_checkInner hinside hx)
    simp only [Passes.append_iff, passes_checkChoices_iff hchoices, typed_iff, typed]
    tauto

/-- A value passes the choices of a leaf just when one of them is alike, with booleans taken as
numbers. Where no boolean meets a number that it is compared as, one of them is alike with booleans
and numbers kept apart. -/
theorem passes_iff_alike {choices : List Value} (hchoices : leaf.choices = some choices)
    (resolvable : leaf.resolvable) (unmarked : leaf.isExample = false) (once : v.KeysOnce)
    (choicesOnce : ∀ c ∈ choices, c.KeysOnce) (h : leaf.check v path typeName = .ok found) :
    (Passes path found ↔ leaf.Typed v ∧
      ∃ c ∈ choices, Alike (fun s t => s.asNumber.Like t.asNumber) v c) ∧
    ((∀ c ∈ choices, v.Unmixed c) →
      (Passes path found ↔ leaf.Typed v ∧ ∃ c ∈ choices, Alike Scalar.Like v c)) := by
  have hpasses : Passes path found ↔ leaf.Typed v ∧ ∃ c ∈ choices, v.same c := by
    rw [passes_iff h resolvable unmarked, checkChoices_eq_nil_iff, hchoices]
    simp
  rw [hpasses]
  constructor
  · refine and_congr_right' (exists_congr fun c => and_congr_right fun hc => ?_)
    exact Value.same_iff_alike_asNumber once (choicesOnce c hc)
  · intro unmixed
    refine and_congr_right' (exists_congr fun c => and_congr_right fun hc => ?_)
    exact Value.same_iff_alike_of_unmixed once (choicesOnce c hc) (unmixed c hc)

/-- A leaf that accepts one boolean and one text. -/
def switch : Leaf where
  choices := some [.bool true, .text "auto"]

theorem passes_iff_alike_switch :
    switch.check (.bool true) [] "Device" = .ok [] ∧
      ((.bool true : Value).Unmixed (.bool true) ∧ (.bool true : Value).Unmixed (.text "auto")) ∧
      ∃ c ∈ [Value.bool true, .text "auto"], Alike Scalar.Like (.bool true) c := by
  have once (s : Scalar) : (Value.scalar s).KeysOnce := .of_no_members rfl rfl
  have unmixed (t : Scalar) (h : (Scalar.bool true == t) = true → t.isBoolean) :
      (.bool true : Value).Unmixed (.scalar t) := by
    intro s u hs hu hsame
    obtain rfl := Value.holds_scalar_iff.mp hs
    obtain rfl := Value.holds_scalar_iff.mp hu
    exact (h hsame).symm
  have check : switch.check (.bool true) [] "Device" = .ok [] := rfl
  have same := unmixed (.bool true) fun _ => rfl
  have other := unmixed (.text "auto") fun h => absurd h (by decide)
  have hpasses := passes_iff_alike rfl rfl rfl (once _) (by simp [once]) check
  exact ⟨check, ⟨same, other⟩, ((hpasses.2 (by simp [same, other])).mp (List.forall_mem_nil _)).2⟩

/-- A leaf with such choices lets a value pass only for a choice that is alike with booleans and
numbers kept apart. -/
def KeepsApart (choices : List Value) (v : Value) : Prop :=
  ∀ found, check { choices } v [] "" = .ok found → Passes [] found →
    ∃ c ∈ choices, Alike Scalar.Like v c

theorem not_keepsApart_of_unlike {c : Value}
    (check : check { choices := some [c] } v [] "" = .ok [])
    (unlike : ¬ Alike Scalar.Like v c) : ¬ KeepsApart [c] v := by
  intro h
  obtain ⟨c, hc, halike⟩ := h [] check (List.forall_mem_nil _)
  obtain rfl := List.mem_singleton.mp hc
  exact unlike halike

/-- A boolean passes for a number and a number for a boolean, in lists too. -/
theorem not_keepsApart :
    ¬ KeepsApart [.int 1] (.bool true) ∧ ¬ KeepsApart [.bool true] (.int 1) ∧
      ¬ KeepsApart [.list 0 [.int 1]] (.list 0 [.bool true]) := by
  have unlike {s t : Scalar} (h : s.isBoolean ≠ t.isBoolean) :
      ¬ Alike Scalar.Like (.scalar s) (.scalar t) :=
    fun alike => h (Scalar.like_iff.mp (Value.alike_scalar.mp alike)).2
  refine ⟨not_keepsApart_of_unlike rfl (unlike (by decide)),
    not_keepsApart_of_unlike rfl (unlike (by decide)),
    not_keepsApart_of_unlike rfl fun alike => ?_⟩
  exact unlike (by decide) (List.forall₂_cons.mp (Value.alike_list.mp alike)).1

end ShapeLint.Leaf
