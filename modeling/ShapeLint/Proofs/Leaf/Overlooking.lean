import ShapeLint.Proofs.Document.Fillings
import ShapeLint.Proofs.Leaf.Places

/-! Leaves that accept a value as it stands, and leaves that do not look at what stands in a hole:
those find the same whatever stands there. Main statement: `check_alike`. -/
namespace ShapeLint.Leaf

/-- A leaf that accepts every value, whatever its other facets are. -/
def acceptsAll (leaf : Leaf) : Bool :=
  !leaf.resolvable || leaf.isExample && (nonempty? leaf.type).isNone

variable {leaf : Leaf} {facets : Facets} {v w : Value} {path : Path} {typeName : String}

theorem check_of_acceptsAll (h : leaf.acceptsAll) (v : Value) (path : Path) (typeName : String) :
    leaf.check v path typeName = .ok [] := by
  rw [check_eq]
  cases hresolvable : leaf.resolvable with
  | false => rfl
  | true =>
    simp only [acceptsAll, hresolvable, Bool.not_true, Bool.false_or, Bool.and_eq_true,
      Option.isNone_iff_eq_none] at h
    simp [h.1, h.2]

/-- A leaf that finds the same whatever stands in the hole of the container of this identity: the
container does not stand in the value, or the leaf looks no further than at the kind of the value,
or the leaf inside it that comes to the hole accepts everything. Choices are compared as a whole. -/
inductive Overlooks (identity : Nat) : Leaf → Value → Prop where
  | apart {leaf : Leaf} {v : Value} (h : v.occurrences identity = 0) : Overlooks identity leaf v
  | unresolvable {leaf : Leaf} {v : Value} (h : leaf.resolvable = false) :
    Overlooks identity leaf v
  | sample {leaf : Leaf} {v : Value} (h : leaf.isExample) : Overlooks identity leaf v
  | carrier {leaf : Leaf} {v : Value} (own : v.identity? = some identity)
      (choices : leaf.choices = none)
      (inner : ∀ l members, leaf.inner? v = some (l, members) → l.acceptsAll) :
    Overlooks identity leaf v
  | inside {leaf : Leaf} {v : Value} (other : v.identity? ≠ some identity)
      (choices : leaf.choices = none)
      (inner : ∀ l members, leaf.inner? v = some (l, members) → ∀ m ∈ members,
        Overlooks identity l m.2) :
    Overlooks identity leaf v

theorem matchesType_congr (h : v.hollow = w.hollow) (expected : String) :
    matchesType expected v = matchesType expected w := by
  have hhollow : ∀ v : Value, matchesType expected v.hollow = matchesType expected v := by
    intro v
    cases v <;> unfold matchesType <;> split <;> simp_all [Value.hollow]
  rw [← hhollow v, h, hhollow w]

theorem checkPattern_congr (kind : v.hollow = w.hollow) (facets : Facets) (path : Path)
    (typeName : String) :
    checkPattern facets v path typeName = checkPattern facets w path typeName := by
  cases v <;> cases w <;> simp_all [Value.hollow, checkPattern]

theorem checkBounds_congr (kind : v.hollow = w.hollow) (facets : Facets) (path : Path)
    (typeName : String) :
    checkBounds facets v path typeName = checkBounds facets w path typeName := by
  cases v <;> cases w <;> simp_all [Value.hollow, checkBounds, boundedQuantity?]

theorem checkCardinality_congr (kind : v.hollow = w.hollow)
    (size : v.members.length = w.members.length) (facets : Facets) (path : Path)
    (typeName : String) :
    checkCardinality facets v path typeName = checkCardinality facets w path typeName := by
  cases v <;> cases w <;>
    simp_all [Value.hollow, Value.members, numbered, checkCardinality]

/-- Without choices the facets see of a container its kind and its size. -/
theorem checkFacets_congr (choices : facets.choices = none) (kind : v.hollow = w.hollow)
    (size : v.members.length = w.members.length) (path : Path) (typeName : String) :
    checkFacets facets v path typeName = checkFacets facets w path typeName := by
  unfold checkFacets checkChoices
  rw [checkPattern_congr kind, checkBounds_congr kind, checkCardinality_congr kind size, choices]

/-- Which leaf is for the members depends on the kind of the value. -/
theorem inner?_congr (h : v.hollow = w.hollow) {l : Leaf}
    (hl : leaf.inner? v = some (l, v.members)) : leaf.inner? w = some (l, w.members) := by
  cases v <;> cases w <;> simp_all [Value.hollow, inner?, Value.members]

theorem checkMembers_forall₂ {check : Value → Path → Except Fault (List Violation)}
    {members members' : List (Step × Value)}
    (h : List.Forall₂ (fun m m' => m.1 = m'.1 ∧ ∀ path, check m'.2 path = check m.2 path) members
      members') (path : Path) :
    checkMembers check members' path = checkMembers check members path := by
  induction h with
  | nil => rfl
  | @cons member member' _ _ hmember _ ih =>
    obtain ⟨step, x⟩ := member
    obtain ⟨step', x'⟩ := member'
    obtain ⟨rfl, hcheck⟩ := hmember
    simp only [checkMembers_cons, ih, hcheck]

/-- A leaf that accepts everything finds the same whatever stands in the hole. -/
theorem checkMembers_fill (h : leaf.acceptsAll) (frame : Frame) (old new : Value) (path : Path) :
    checkMembers (fun x path => leaf.check x path typeName) (frame.fill new).members path =
      checkMembers (fun x path => leaf.check x path typeName) (frame.fill old).members path := by
  refine checkMembers_forall₂ ?_ path
  rw [frame.members_fill, frame.members_fill]
  refine List.rel_append (List.forall₂_same.mpr fun m _ => ⟨rfl, fun _ => rfl⟩)
    (.cons ⟨rfl, fun path => ?_⟩ (List.forall₂_same.mpr fun m _ => ⟨rfl, fun _ => rfl⟩))
  rw [check_of_acceptsAll h, check_of_acceptsAll h]

/-- Values of one kind are checked alike if their facets and their members are, where the check
comes to those. -/
theorem check_congr (kind : v.hollow = w.hollow)
    (h : leaf.resolvable = true → leaf.isExample = false →
      checkFacets leaf.toFacets v path typeName = checkFacets leaf.toFacets w path typeName ∧
        leaf.checkInner v path typeName = leaf.checkInner w path typeName) :
    leaf.check v path typeName = leaf.check w path typeName := by
  rw [check_eq, check_eq]
  simp only [matchesType_congr kind, typeMismatch, Value.typeName_congr kind]
  cases hresolvable : leaf.resolvable with
  | false => rfl
  | true =>
    cases hexample : leaf.isExample with
    | true => rfl
    | false =>
      obtain ⟨hfacets, hinner⟩ := h hresolvable hexample
      rw [hfacets, hinner]

/-- Without choices, values of one kind are checked alike if their members are. -/
theorem check_congr_of_members (kind : v.hollow = w.hollow) (choices : leaf.choices = none)
    (size : v.members.length = w.members.length)
    (h : ∀ l, leaf.inner? v = some (l, v.members) →
      checkMembers (fun x path => l.check x path typeName) v.members path =
        checkMembers (fun x path => l.check x path typeName) w.members path) :
    leaf.check v path typeName = leaf.check w path typeName := by
  refine check_congr kind fun _ _ => ⟨checkFacets_congr choices kind size path typeName, ?_⟩
  unfold checkInner
  cases hv : leaf.inner? v with
  | some found =>
    obtain ⟨l, members⟩ := found
    obtain rfl := inner?_members hv
    rw [inner?_congr kind hv]
    exact h l hv
  | none =>
    cases hw : leaf.inner? w with
    | none => rfl
    | some found =>
      obtain ⟨l, members⟩ := found
      obtain rfl := inner?_members hw
      rw [inner?_congr kind.symm hw] at hv
      contradiction

variable {frame : Frame} {old new v' : Value}

/-- A leaf that overlooks the hole finds the same whatever stands there. -/
theorem check_alike (h : leaf.Overlooks frame.identity v) (alike : frame.Alike old new v v')
    (path : Path) (typeName : String) :
    leaf.check v' path typeName = leaf.check v path typeName := by
  -- The induction is on the way down to the hole, which is cut off where the leaf stops looking.
  induction h generalizing v' path with
  | apart h => rw [alike.eq_of_occurrences h]
  | unresolvable h =>
    refine check_congr alike.hollow.symm fun hresolvable => ?_
    simp [h] at hresolvable
  | sample h =>
    refine check_congr alike.hollow.symm fun _ hexample => ?_
    simp [h] at hexample
  | @carrier leaf v own choices inner =>
    cases alike with
    | same => rfl
    | around v other => exact absurd (Value.identity?_exchanged _ _ v ▸ own) other
    | carrier =>
      refine check_congr_of_members (frame.hollow_fill new old) choices ?_ fun l hl => ?_
      · simp [frame.members_fill]
      · exact checkMembers_fill (inner l _ (inner?_congr (frame.hollow_fill new old) hl)) frame
          old new path
  | @inside leaf v other choices inner ih =>
    have kind := alike.hollow.symm
    cases alike with
    | same => rfl
    | carrier => exact absurd (frame.identity?_fill old) other
    | around v =>
      have members := Frame.Alike.members_around frame old new v
      refine check_congr_of_members kind choices members.length_eq.symm fun l hl => ?_
      have pairs := (List.forall₂_and_left _ _).mpr ⟨ih l _ (inner?_congr kind hl), members⟩
      refine checkMembers_forall₂ (pairs.imp ?_) path
      rintro ⟨step, x⟩ ⟨_, x'⟩ ⟨hx, rfl, halike⟩
      exact ⟨rfl, fun path => hx halike path⟩

end ShapeLint.Leaf
