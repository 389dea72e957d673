import ShapeLint.Proofs.Document.Sameness

/-!
Values that are alike but for their scalars, which need only be related. Sameness is likeness up to
scalars that are the same, where a boolean is the same as a number; a closer likeness keeps the two
apart. Main statements: `same_iff_alike_asNumber` and `same_iff_alike_of_unmixed`.
-/
namespace ShapeLint

namespace Scalar

def isBoolean : Scalar → Bool
  | bool _ => true
  | _ => false

/-- The number that a scalar is. A boolean is none. -/
def number? : Scalar → Option Quantity
  | int i => some (.ofInt i)
  | float x => some (.ofBinary64 x)
  | _ => none

/-- A boolean as the number that it is compared as. -/
def asNumber : Scalar → Scalar
  | bool b => int (if b then 1 else 0)
  | s => s

/-- Scalars that are equal, or equal numbers. -/
inductive Like : Scalar → Scalar → Prop where
  | refl (s : Scalar) : Like s s
  | number {s t : Scalar} {q : Quantity} (left : s.number? = some q) (right : t.number? = some q) :
    Like s t

variable {s t : Scalar}

theorem isBoolean_asNumber (s : Scalar) : s.asNumber.isBoolean = false := by
  cases s <;> rfl

theorem beq_asNumber (s t : Scalar) : (s.asNumber == t.asNumber) = (s == t) := by
  cases s <;> cases t <;> rfl

theorem eq_bool_of_isBoolean (h : s.isBoolean) : ∃ b, s = bool b := by
  cases s with
  | bool b => exact ⟨b, rfl⟩
  | _ => contradiction

theorem quantity?_eq_number? (h : s.isBoolean = false) : s.quantity? = s.number? := by
  cases s with
  | bool b => contradiction
  | _ => rfl

theorem isBoolean_of_number? {q : Quantity} (h : s.number? = some q) : s.isBoolean = false := by
  cases s with
  | bool b => contradiction
  | _ => rfl

/-- Likeness is sameness among booleans and among other scalars. -/
theorem like_iff : s.Like t ↔ (s == t) = true ∧ s.isBoolean = t.isBoolean := by
  constructor
  · intro h
    cases h with
    | refl => exact ⟨BEq.rfl, rfl⟩
    | number left right =>
      have hs := isBoolean_of_number? left
      have ht := isBoolean_of_number? right
      refine ⟨beq_iff.mpr ?_, hs.trans ht.symm⟩
      simp [canonical, quantity?_eq_number? hs, quantity?_eq_number? ht, left, right]
  · rintro ⟨hsame, hboolean⟩
    have hcanonical := beq_iff.mp hsame
    cases hs : s.isBoolean with
    | true =>
      obtain ⟨b, rfl⟩ := eq_bool_of_isBoolean hs
      obtain ⟨c, rfl⟩ := eq_bool_of_isBoolean (hboolean ▸ hs)
      obtain rfl : b = c := by cases b <;> cases c <;> first | rfl | contradiction
      exact .refl _
    | false =>
      have ht : t.isBoolean = false := hboolean ▸ hs
      simp only [canonical, quantity?_eq_number? hs, quantity?_eq_number? ht] at hcanonical
      cases hq : s.number? <;> cases hr : t.number? <;>
        simp only [hq, hr, reduceCtorEq] at hcanonical
      · obtain rfl := Sum.inr.inj hcanonical
        exact .refl s
      · obtain rfl := Sum.inl.inj hcanonical
        exact .number hq hr

/-- Scalars are the same if they are equal or equal as numbers, booleans among them. -/
theorem beq_iff_like : (s == t) = true ↔ s.asNumber.Like t.asNumber := by
  rw [like_iff, beq_asNumber, isBoolean_asNumber, isBoolean_asNumber]
  simp

end Scalar

namespace Value

section Lists

variable {α β : Type} {R S : α → β → Prop} {xs : List α} {ys : List β}

theorem forall₂_imp_of_mem (h : ∀ x ∈ xs, ∀ y ∈ ys, R x y → S x y) (hxy : List.Forall₂ R xs ys) :
    List.Forall₂ S xs ys := by
  obtain ⟨hlength, hpairs⟩ := List.forall₂_iff_zip.mp hxy
  refine List.forall₂_iff_zip.mpr ⟨hlength, fun hpair => ?_⟩
  obtain ⟨hx, hy⟩ := List.of_mem_zip hpair
  exact h _ hx _ hy (hpairs hpair)

theorem exists_forall₂ (h : ∀ x ∈ xs, ∃ y, R x y) : ∃ ys, List.Forall₂ R xs ys := by
  induction xs with
  | nil => exact ⟨[], .nil⟩
  | cons x xs ih =>
    obtain ⟨hx, hxs⟩ := List.forall_mem_cons.mp h
    obtain ⟨y, hy⟩ := hx
    obtain ⟨ys, hys⟩ := ih hxs
    exact ⟨y :: ys, .cons hy hys⟩

end Lists

/-- Values of one shape whose scalars, keys included, are related. The entries of mappings may be in
another order, and identities play no part. -/
inductive Alike (like : Scalar → Scalar → Prop) : Value → Value → Prop where
  | scalar {s t : Scalar} (h : like s t) : Alike like (.scalar s) (.scalar t)
  | tuple {xs ys : List Value} (items : List.Forall₂ (Alike like) xs ys) :
    Alike like (.tuple xs) (.tuple ys)
  | list {i j : Nat} {xs ys : List Value} (items : List.Forall₂ (Alike like) xs ys) :
    Alike like (.list i xs) (.list j ys)
  | mapping {i j : Nat} {es mid fs : List (Scalar × Value)}
      (keys : List.Forall₂ like (es.map Prod.fst) (mid.map Prod.fst))
      (values : List.Forall₂ (Alike like) (es.map Prod.snd) (mid.map Prod.snd))
      (order : mid.Perm fs) : Alike like (.mapping i es) (.mapping j fs)

variable {like like' : Scalar → Scalar → Prop} {v w : Value}

theorem alike_scalar {s t : Scalar} : Alike like (scalar s) (scalar t) ↔ like s t := by
  constructor
  · intro h
    cases h with
    | scalar h => exact h
  · exact .scalar

theorem alike_tuple {xs ys : List Value} :
    Alike like (tuple xs) (tuple ys) ↔ List.Forall₂ (Alike like) xs ys := by
  constructor
  · intro h
    cases h with
    | tuple items => exact items
  · exact .tuple

theorem alike_list {i j : Nat} {xs ys : List Value} :
    Alike like (list i xs) (list j ys) ↔ List.Forall₂ (Alike like) xs ys := by
  constructor
  · intro h
    cases h with
    | list items => exact items
  · exact .list

theorem alike_mapping {i j : Nat} {es fs : List (Scalar × Value)} :
    Alike like (mapping i es) (mapping j fs) ↔ ∃ mid, mid.Perm fs ∧
      List.Forall₂ (fun e f => like e.1 f.1 ∧ Alike like e.2 f.2) es mid := by
  constructor
  · intro h
    cases h with
    | @mapping _ _ _ mid _ keys values order =>
      rw [List.forall₂_map_left_iff, List.forall₂_map_right_iff] at keys values
      exact ⟨mid, order, List.Forall₂.mp (fun _ _ => And.intro) keys values⟩
  · rintro ⟨mid, order, entries⟩
    refine .mapping ?_ ?_ order
    · exact List.forall₂_map_left_iff.mpr (List.forall₂_map_right_iff.mpr
        (entries.imp fun _ _ => And.left))
    · exact List.forall₂_map_left_iff.mpr (List.forall₂_map_right_iff.mpr
        (entries.imp fun _ _ => And.right))

theorem sameItems_iff {R : Value → Value → Prop} {xs ys : List Value}
    (h : ∀ x ∈ xs, ∀ y ∈ ys, (x.same y ↔ R x y)) : sameItems xs ys ↔ List.Forall₂ R xs ys := by
  induction xs generalizing ys with
  | nil => cases ys <;> simp [sameItems]
  | cons x xs ih =>
    cases ys with
    | nil => simp [sameItems]
    | cons y ys =>
      have hitems : sameItems xs ys ↔ List.Forall₂ R xs ys := ih fun x hx y hy =>
        h x (List.mem_cons_of_mem _ hx) y (List.mem_cons_of_mem _ hy)
      rw [sameItems, Bool.and_eq_true, hitems, h x List.mem_cons_self y List.mem_cons_self,
        List.forall₂_cons]

/-- Partners of entries with different keys are different. If there are as many of them as there are
entries to choose from, they are all of these. -/
theorem perm_of_partners {es mid fs : List (Scalar × Value)}
    (once : (es.map Prod.fst).Pairwise fun key other => (key == other) = false)
    (hlength : es.length = fs.length)
    (partners : List.Forall₂ (fun e f => f ∈ fs ∧ (e.1 == f.1) = true) es mid) : mid.Perm fs := by
  have hnames : es.map (fun e => e.1.canonical) = mid.map fun f => f.1.canonical :=
    (congrFun₂ List.forall₂_eq_eq_eq _ _).mp <|
      List.forall₂_map_left_iff.mpr <| List.forall₂_map_right_iff.mpr <|
        partners.imp fun _ _ h => Scalar.beq_iff.mp h.2
  have hnodup : mid.Nodup := .of_map _ (hnames ▸ nodup_canonical once)
  have hsubset : mid ⊆ fs := by
    intro f hf
    obtain ⟨e, -, h⟩ := exists_of_forall₂ partners.flip hf
    exact h.1
  refine (List.subperm_of_subset hnodup hsubset).perm_of_length_le ?_
  rw [← partners.length_eq, hlength]

theorem same_mapping_iff {R : Value → Value → Prop} {i j : Nat} {es fs : List (Scalar × Value)}
    (hes : (es.map Prod.fst).Pairwise fun key other => (key == other) = false)
    (hfs : (fs.map Prod.fst).Pairwise fun key other => (key == other) = false)
    (h : ∀ e ∈ es, ∀ f ∈ fs, (e.2.same f.2 ↔ R e.2 f.2)) :
    (mapping i es).same (mapping j fs) ↔ ∃ mid, mid.Perm fs ∧
      List.Forall₂ (fun e f => (e.1 == f.1) = true ∧ R e.2 f.2) es mid := by
  rw [same_mapping]
  constructor
  · rintro ⟨hlength, hlike⟩
    have hpartner : ∀ e ∈ es, ∃ f, f ∈ fs ∧ (e.1 == f.1) = true ∧ e.2.same f.2 := by
      intro e he
      obtain ⟨y, hlookup, hsame⟩ := hasLike_iff.mp (hlike e he)
      obtain ⟨name, hmem, hname⟩ := mem_of_lookup hlookup
      exact ⟨(name, y), hmem, hname, hsame⟩
    obtain ⟨mid, partners⟩ := exists_forall₂ hpartner
    have order := perm_of_partners hes hlength (partners.imp fun _ _ h => ⟨h.1, h.2.1⟩)
    refine ⟨mid, order, forall₂_imp_of_mem (fun e he f hf hef => ⟨hef.2.1, ?_⟩) partners⟩
    exact (h e he f (order.subset hf)).mp hef.2.2
  · rintro ⟨mid, order, entries⟩
    refine ⟨entries.length_eq.trans order.length_eq, fun e he => ?_⟩
    obtain ⟨f, hf, hkey, hvalue⟩ := exists_of_forall₂ entries he
    have hf := order.subset hf
    exact hasLike_iff.mpr ⟨f.2, lookup_of_mem hfs hf hkey, (h e he f hf).mpr hvalue⟩

/-- Two values are the same just when they are alike but for scalars that are the same. -/
theorem same_iff_alike (hv : v.KeysOnce) (hw : w.KeysOnce) :
    v.same w ↔ Alike (fun s t => (s == t) = true) v w := by
  induction v using nested_induction generalizing w with
  | scalar s =>
    cases w with
    | scalar t => rw [alike_scalar, same]
    | _ => exact iff_of_false (by simp [same]) (by rintro ⟨⟩)
  | tuple xs ih =>
    cases w with
    | tuple ys =>
      have hitems := sameItems_iff fun x hx y hy =>
        ih x hx (keysOnce_items hv rfl x hx) (keysOnce_items hw rfl y hy)
      exact hitems.trans alike_tuple.symm
    | _ => exact iff_of_false (by simp [same]) (by rintro ⟨⟩)
  | list identity xs ih =>
    cases w with
    | list _ ys =>
      have hitems := sameItems_iff fun x hx y hy =>
        ih x hx (keysOnce_items hv rfl x hx) (keysOnce_items hw rfl y hy)
      exact hitems.trans alike_list.symm
    | _ => exact iff_of_false (by simp [same]) (by rintro ⟨⟩)
  | mapping identity es ih =>
    cases w with
    | mapping j fs =>
      rw [alike_mapping]
      exact same_mapping_iff (hv (.here _)) (hw (.here _)) fun e he f hf =>
        ih e he (keysOnce_entries hv e he) (keysOnce_entries hw f hf)
    | _ => exact iff_of_false (by simp [same]) (by rintro ⟨⟩)

/-- Values are the same if they are alike up to equal scalars, with booleans taken as numbers. -/
theorem same_iff_alike_asNumber (hv : v.KeysOnce) (hw : w.KeysOnce) :
    v.same w ↔ Alike (fun s t => s.asNumber.Like t.asNumber) v w := by
  rw [same_iff_alike hv hw]
  simp only [Scalar.beq_iff_like]

/-- A scalar stands in a value, at any depth, perhaps as a key. -/
def Holds (v : Value) (s : Scalar) : Prop :=
  ∃ path w, v.Leads path w ∧ (w = .scalar s ∨ ∃ keys ∈ w.keyNames?, s ∈ keys)

theorem holds_scalar_iff {s t : Scalar} : (scalar s).Holds t ↔ t = s := by
  constructor
  · rintro ⟨path, w, leads, hw⟩
    cases leads with
    | here =>
      rcases hw with h | ⟨keys, hkeys, -⟩
      · exact (Value.scalar.inj h).symm
      · contradiction
    | step member => contradiction
  · rintro rfl
    exact ⟨[], _, .here _, .inl rfl⟩

theorem holds_key {identity : Nat} {es : List (Scalar × Value)} {e : Scalar × Value} (he : e ∈ es) :
    (mapping identity es).Holds e.1 :=
  ⟨[], _, .here _, .inr ⟨_, rfl, List.mem_map_of_mem he⟩⟩

theorem Holds.of_mem {s : Scalar} (h : w.Holds s) (hw : w ∈ v.members.map Prod.snd) :
    v.Holds s := by
  obtain ⟨⟨step, _⟩, hmember, rfl⟩ := List.mem_map.mp hw
  obtain ⟨path, u, leads, hu⟩ := h
  exact ⟨step :: path, u, .step hmember leads, hu⟩

theorem Holds.of_item {s : Scalar} {x : Value} (h : x.Holds s) {xs : List Value} (hx : x ∈ xs)
    (hv : v.members = Leaf.numbered xs) : v.Holds s :=
  h.of_mem <| by rwa [hv, map_snd_numbered]

theorem Holds.of_entry {s : Scalar} {e : Scalar × Value} (h : e.2.Holds s) {identity : Nat}
    {es : List (Scalar × Value)} (he : e ∈ es) : (mapping identity es).Holds s :=
  h.of_mem <| by
    rw [members, map_snd_keyed]
    exact List.mem_map_of_mem he

/-- Likeness depends on how the scalars are related that stand in the values. -/
theorem Alike.imp (h : ∀ s t, v.Holds s → w.Holds t → like s t → like' s t)
    (hvw : Alike like v w) : Alike like' v w := by
  induction v using nested_induction generalizing w with
  | scalar s =>
    cases w with
    | scalar t =>
      have hst := alike_scalar.mp hvw
      exact .scalar (h s t (holds_scalar_iff.mpr rfl) (holds_scalar_iff.mpr rfl) hst)
    | _ => cases hvw
  | tuple xs ih =>
    cases hvw with
    | tuple items =>
      refine .tuple (forall₂_imp_of_mem (fun x hx y hy hxy => ?_) items)
      exact ih x hx (fun s t hs ht => h s t (hs.of_item hx rfl) (ht.of_item hy rfl)) hxy
  | list identity xs ih =>
    cases hvw with
    | list items =>
      refine .list (forall₂_imp_of_mem (fun x hx y hy hxy => ?_) items)
      exact ih x hx (fun s t hs ht => h s t (hs.of_item hx rfl) (ht.of_item hy rfl)) hxy
  | mapping identity es ih =>
    cases w with
    | mapping j fs =>
      obtain ⟨mid, order, entries⟩ := alike_mapping.mp hvw
      refine alike_mapping.mpr ⟨mid, order, forall₂_imp_of_mem (fun e he f hf hef => ?_) entries⟩
      have hf := order.subset hf
      refine ⟨h _ _ (holds_key he) (holds_key hf) hef.1, ih e he (fun s t hs ht => ?_) hef.2⟩
      exact h s t (hs.of_entry he) (ht.of_entry hf)
    | _ => cases hvw

/-- No boolean in one of the values is the same as a number in the other. -/
def Unmixed (v w : Value) : Prop :=
  ∀ s t, v.Holds s → w.Holds t → (s == t) = true → s.isBoolean = t.isBoolean

/-- Where booleans and numbers do not meet, the same values are alike with the two kept apart. -/
theorem same_iff_alike_of_unmixed (hv : v.KeysOnce) (hw : w.KeysOnce) (unmixed : v.Unmixed w) :
    v.same w ↔ Alike Scalar.Like v w := by
  rw [same_iff_alike hv hw]
  constructor
  · exact Alike.imp fun s t hs ht h => Scalar.like_iff.mpr ⟨h, unmixed s t hs ht h⟩
  · exact Alike.imp fun s t _ _ h => (Scalar.like_iff.mp h).1

end Value

end ShapeLint
