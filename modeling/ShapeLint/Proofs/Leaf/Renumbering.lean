import ShapeLint.Proofs.Document.Rebuilding
import ShapeLint.Proofs.Leaf.Recursion

/-! The check of a leaf takes no notice of identities. -/
namespace ShapeLint

namespace Value

variable (number : Nat → Nat)

@[simp] theorem rebuiltMember_none (x : Value) :
    rebuiltMember number (fun _ => none) x = x.renumbered number := by
  simp [rebuiltMember, renumbered]

@[simp] theorem renumbered_scalar (s : Scalar) : (scalar s).renumbered number = scalar s := rfl

@[simp] theorem renumbered_tuple (xs : List Value) :
    (tuple xs).renumbered number = tuple (xs.map fun x => x.renumbered number) := by
  simp [renumbered, rebuilt, rebuiltItems_eq]

@[simp] theorem renumbered_list (identity : Nat) (xs : List Value) :
    (list identity xs).renumbered number =
      list (number identity) (xs.map fun x => x.renumbered number) := by
  simp [renumbered, rebuilt, rebuiltItems_eq]

@[simp] theorem renumbered_mapping (identity : Nat) (es : List (Scalar × Value)) :
    (mapping identity es).renumbered number =
      mapping (number identity) (es.map fun e => (e.1, e.2.renumbered number)) := by
  simp [renumbered, rebuilt, rebuiltEntries_eq]

theorem sameItems_map {f : Value → Value} {xs : List Value}
    (h : ∀ x ∈ xs, ∀ w, same (f x) w = same x w) (ys : List Value) :
    sameItems (xs.map f) ys = sameItems xs ys := by
  induction xs generalizing ys with
  | nil => rfl
  | cons x xs ih =>
    obtain ⟨hx, hxs⟩ := List.forall_mem_cons.mp h
    cases ys with
    | nil => rfl
    | cons y ys => simp [sameItems, hx, ih hxs]

theorem sameEntries_map {f : Value → Value} {es : List (Scalar × Value)}
    (h : ∀ e ∈ es, ∀ w, same (f e.2) w = same e.2 w) (fs : List (Scalar × Value)) :
    sameEntries (es.map fun e => (e.1, f e.2)) fs = sameEntries es fs := by
  induction es with
  | nil => rfl
  | cons e es ih =>
    obtain ⟨key, x⟩ := e
    obtain ⟨hx, hes⟩ := List.forall_mem_cons.mp h
    simp only [List.map_cons, sameEntries, ih hes]
    congr 1
    cases fs.lookup key with
    | none => rfl
    | some y => exact hx y

theorem same_renumbered (v w : Value) : (v.renumbered number).same w = v.same w := by
  induction v using nested_induction generalizing w with
  | scalar s => rfl
  | tuple xs ih => cases w <;> simp [same, sameItems_map ih]
  | list identity xs ih => cases w <;> simp [same, sameItems_map ih]
  | mapping identity es ih => cases w <;> simp [same, sameEntries_map ih]

theorem shownItems_eq (above : List Nat) (xs : List Value) :
    shownItems above xs = xs.map (shownIn above) := by
  induction xs with
  | nil => rfl
  | cons x xs ih => simp [shownItems, ih]

theorem shownEntries_eq (above : List Nat) (es : List (Scalar × Value)) :
    shownEntries above es = es.map fun e => e.1.shown ++ ": " ++ e.2.shownIn above := by
  induction es with
  | nil => rfl
  | cons e es ih => simp [shownEntries, ih]

theorem shownItems_map {f : Value → Value} {above above' : List Nat} {xs : List Value}
    (h : ∀ x ∈ xs, (f x).shownIn above' = x.shownIn above) :
    shownItems above' (xs.map f) = shownItems above xs := by
  rw [shownItems_eq, shownItems_eq, List.map_map]
  exact List.map_congr_left h

theorem shownEntries_map {f : Value → Value} {above above' : List Nat} {es : List (Scalar × Value)}
    (h : ∀ e ∈ es, (f e.2).shownIn above' = e.2.shownIn above) :
    shownEntries above' (es.map fun e => (e.1, f e.2)) = shownEntries above es := by
  rw [shownEntries_eq, shownEntries_eq, List.map_map]
  refine List.map_congr_left fun e he => ?_
  simp [h e he]

variable {number}

/-- Numbers that tell containers apart also tell whether a container stands inside itself. -/
theorem contains_map_number (distinct : Function.Injective number) (above : List Nat)
    (identity : Nat) : (above.map number).contains (number identity) = above.contains identity := by
  simp [List.contains_eq_mem, distinct.eq_iff]

theorem shownIn_renumbered (distinct : Function.Injective number) (above : List Nat) (v : Value) :
    (v.renumbered number).shownIn (above.map number) = v.shownIn above := by
  induction v using nested_induction generalizing above with
  | scalar s => rfl
  | tuple xs ih =>
    -- A tuple of one value is shown in a way of its own.
    rcases xs with _ | ⟨x, _ | ⟨y, xs⟩⟩
    · rfl
    · simp [shownIn, ih x (by simp)]
    · have hitems := shownItems_map fun x hx => ih x hx above
      simp only [renumbered_tuple, List.map_cons, shownIn] at hitems ⊢
      rw [hitems]
  | list identity xs ih =>
    have hitems := shownItems_map fun x hx => ih x hx (identity :: above)
    simp only [renumbered_list, shownIn, contains_map_number distinct, ← List.map_cons, hitems]
  | mapping identity es ih =>
    have hentries := shownEntries_map fun e he => ih e he (identity :: above)
    simp only [renumbered_mapping, shownIn, contains_map_number distinct, ← List.map_cons, hentries]

variable (number)

theorem typeName_renumbered (v : Value) : (v.renumbered number).typeName = v.typeName := by
  rw [← typeName_outline, outline_renumbered, typeName_outline]

theorem plain_renumbered (distinct : Function.Injective number) (v : Value) :
    (v.renumbered number).plain = v.plain := by
  have h := shownIn_renumbered distinct [] v
  cases v with
  | scalar s => rfl
  | _ => simpa [plain, shown] using h

theorem isWritable_renumbered (v : Value) : (v.renumbered number).isWritable = v.isWritable := by
  induction v using nested_induction with
  | scalar s => rfl
  | tuple xs ih | list identity xs ih =>
    simp only [renumbered_tuple, renumbered_list, isWritable, itemsWritable_eq, List.all_map]
    rw [Bool.eq_iff_iff, List.all_eq_true, List.all_eq_true]
    exact forall₂_congr fun x hx => by rw [Function.comp_apply, ih x hx]
  | mapping identity es ih =>
    simp only [renumbered_mapping, isWritable, entriesWritable_eq, List.all_map]
    rw [Bool.eq_iff_iff, List.all_eq_true, List.all_eq_true]
    exact forall₂_congr fun e he => by rw [Function.comp_apply, ih e he]

end Value

namespace Leaf

variable {number : Nat → Nat} (distinct : Function.Injective number) (path : Path)
  (typeName : String)

theorem matchesType_outline (expected : String) (v : Value) :
    matchesType expected v.outline = matchesType expected v := by
  cases v with
  | scalar s => rfl
  | tuple xs =>
    unfold matchesType
    split <;> simp_all [Value.outline]
  | list identity xs =>
    unfold matchesType
    split <;> simp_all [Value.outline]
  | mapping identity es =>
    unfold matchesType
    split <;> simp_all [Value.outline]

theorem matchesType_renumbered (number : Nat → Nat) (expected : String) (v : Value) :
    matchesType expected (v.renumbered number) = matchesType expected v := by
  rw [← matchesType_outline, Value.outline_renumbered, matchesType_outline]

include distinct in
theorem checkFacets_renumbered (facets : Facets) (v : Value) :
    checkFacets facets (v.renumbered number) path typeName =
      checkFacets facets v path typeName := by
  have hpattern : checkPattern facets (v.renumbered number) path typeName =
      checkPattern facets v path typeName := by
    cases v with
    | scalar s => rfl
    | tuple xs => unfold checkPattern; cases facets.pattern <;> rfl
    | list identity xs => unfold checkPattern; cases facets.pattern <;> rfl
    | mapping identity es => unfold checkPattern; cases facets.pattern <;> rfl
  have hbounds : checkBounds facets (v.renumbered number) path typeName =
      checkBounds facets v path typeName := by
    cases v <;> rfl
  have hchoices : checkChoices facets (v.renumbered number) path typeName =
      checkChoices facets v path typeName := by
    have hwriting : ∀ choices (found : List Violation),
        writing (v.renumbered number :: choices) found = writing (v :: choices) found := by
      intro choices found
      unfold writing
      rw [List.all_cons, List.all_cons, Value.isWritable_renumbered]
    unfold checkChoices notAmong
    simp only [Value.same_renumbered, Value.plain_renumbered number distinct, hwriting]
  have hcardinality : checkCardinality facets (v.renumbered number) path typeName =
      checkCardinality facets v path typeName := by
    cases v <;> simp [checkCardinality]
  unfold checkFacets
  rw [hpattern, hbounds, hchoices, hcardinality]

theorem checkMembers_map {check check' : Value → Path → Except Fault (List Violation)}
    {f : Value → Value} (h : ∀ x path, check (f x) path = check' x path)
    (members : List (Step × Value)) (path : Path) :
    checkMembers check (members.map fun m => (m.1, f m.2)) path =
      checkMembers check' members path := by
  induction members with
  | nil => rfl
  | cons member members ih =>
    obtain ⟨step, x⟩ := member
    simp only [List.map_cons, checkMembers_cons, ih, h]

theorem inner?_renumbered (number : Nat → Nat) (leaf : Leaf) (v : Value) :
    leaf.inner? (v.renumbered number) =
      (leaf.inner? v).map fun found =>
        (found.1, found.2.map fun m => (m.1, m.2.renumbered number)) := by
  have hnumbered : ∀ xs : List Value, numbered (xs.map fun x => x.renumbered number) =
      (numbered xs).map fun m => (m.1, m.2.renumbered number) := by
    intro xs
    simp [numbered, List.zipIdx_map, Function.comp_def]
  have hkeyed : ∀ es : List (Scalar × Value), keyed (es.map fun e => (e.1, e.2.renumbered number)) =
      (keyed es).map fun m => (m.1, m.2.renumbered number) := by
    intro es
    simp [keyed, Function.comp_def]
  cases v with
  | scalar s => rfl
  | tuple xs => simp [inner?, hnumbered, Function.comp_def]
  | list identity xs => simp [inner?, hnumbered, Function.comp_def]
  | mapping identity es => simp [inner?, hkeyed, Function.comp_def]

include distinct in
/-- Renumbering a value changes nothing that a leaf finds. -/
theorem check_renumbered (leaf : Leaf) (v : Value) :
    leaf.check (v.renumbered number) path typeName = leaf.check v path typeName := by
  induction leaf using nested_induction generalizing v path with
  | leaf facets items entries hitems hentries =>
    have hinner : Leaf.checkInner ⟨facets, items, entries⟩ (v.renumbered number) path typeName =
        Leaf.checkInner ⟨facets, items, entries⟩ v path typeName := by
      unfold checkInner
      rw [inner?_renumbered]
      cases hl : inner? ⟨facets, items, entries⟩ v with
      | none => rfl
      | some found =>
        obtain ⟨l, members⟩ := found
        refine checkMembers_map (fun x path => ?_) members path
        exact (inner?_mem hl).elim (fun h => hitems l h path x) fun h => hentries l h path x
    rw [check_eq, check_eq, checkFacets_renumbered distinct, hinner]
    simp only [matchesType_renumbered]
    cases h : (nonempty? facets.type).filter (!matchesType · v) with
    | none => rfl
    | some expected => simp [typeMismatch, Value.typeName_renumbered]

end Leaf

end ShapeLint
