import Mathlib.Data.List.Forall2
import Mathlib.Data.List.Perm.Basic
import ShapeLint.Proofs.Document.Fillings
import ShapeLint.Proofs.Document.Keys

/-! Documents that differ in the order of entries only. Such documents have the same members, in
another order, and the same texts under their keys; and as choices they are the same values. -/
namespace ShapeLint.Value

/-- Values that differ only in the order of the entries of mappings, at any depth. Identities play
no part. -/
inductive Reordered : Value → Value → Prop where
  | scalar (s : Scalar) : Reordered (.scalar s) (.scalar s)
  | tuple {xs ys : List Value} (items : List.Forall₂ Reordered xs ys) :
    Reordered (.tuple xs) (.tuple ys)
  | list {i j : Nat} {xs ys : List Value} (items : List.Forall₂ Reordered xs ys) :
    Reordered (.list i xs) (.list j ys)
  | mapping {i j : Nat} {es mid fs : List (Scalar × Value)}
      (keys : es.map Prod.fst = mid.map Prod.fst)
      (values : List.Forall₂ Reordered (es.map Prod.snd) (mid.map Prod.snd))
      (order : mid.Perm fs) : Reordered (.mapping i es) (.mapping j fs)

section Lists

variable {α β : Type} {R : α → β → Prop}

theorem forall₂_entries {es : List (Scalar × α)} {fs : List (Scalar × β)}
    (keys : es.map Prod.fst = fs.map Prod.fst)
    (values : List.Forall₂ R (es.map Prod.snd) (fs.map Prod.snd)) :
    List.Forall₂ (fun e f => e.1 = f.1 ∧ R e.2 f.2) es fs := by
  induction es generalizing fs with
  | nil =>
    obtain rfl := List.map_eq_nil_iff.mp keys.symm
    exact .nil
  | cons e es ih =>
    obtain ⟨f, fs, rfl, hf, hfs⟩ := List.map_eq_cons_iff.mp keys.symm
    obtain ⟨hvalue, hvalues⟩ := List.forall₂_cons.mp values
    exact .cons ⟨hf.symm, hvalue⟩ (ih hfs.symm hvalues)

theorem forall_mem_congr {P : α → Prop} {Q : β → Prop} {xs : List α} {ys : List β}
    (h : List.Forall₂ (fun x y => P x ↔ Q y) xs ys) : (∀ x ∈ xs, P x) ↔ ∀ y ∈ ys, Q y := by
  induction h with
  | nil => simp
  | cons hxy _ ih => rw [List.forall_mem_cons, List.forall_mem_cons, hxy, ih]

theorem exists_of_forall₂ {xs : List α} {ys : List β}
    (h : List.Forall₂ R xs ys) {x : α} (hx : x ∈ xs) : ∃ y ∈ ys, R x y := by
  induction h with
  | nil => contradiction
  | cons hxy _ ih =>
    rcases List.mem_cons.mp hx with rfl | hx
    · exact ⟨_, List.mem_cons_self, hxy⟩
    · obtain ⟨y, hy, hxy⟩ := ih hx
      exact ⟨y, List.mem_cons_of_mem _ hy, hxy⟩

theorem forall₂_zipIdx {xs : List α} {ys : List β} (h : List.Forall₂ R xs ys) (start : Nat) :
    List.Forall₂ (fun x y => x.2 = y.2 ∧ R x.1 y.1) (xs.zipIdx start) (ys.zipIdx start) := by
  induction h generalizing start with
  | nil => exact .nil
  | cons hxy _ ih => exact .cons ⟨rfl, hxy⟩ (ih (start + 1))

/-- Look-ups do not depend on the order of entries if at most one of them is under the key. -/
theorem lookup_perm {κ : Type} [BEq κ] {es fs : List (κ × α)} {key : κ} (order : es.Perm fs)
    (once : es.Pairwise fun e f => ¬ ((key == e.1) = true ∧ (key == f.1) = true)) :
    es.lookup key = fs.lookup key := by
  induction order with
  | nil => rfl
  | cons e _ ih =>
    obtain ⟨name, x⟩ := e
    rw [List.lookup_cons, List.lookup_cons, ih once.of_cons]
  | swap e f es =>
    obtain ⟨name, x⟩ := e
    obtain ⟨name', y⟩ := f
    have hdistinct := (List.pairwise_cons.mp once).1 (name, x) List.mem_cons_self
    rw [List.lookup_cons, List.lookup_cons, List.lookup_cons, List.lookup_cons]
    cases h' : key == name' with
    | true =>
      cases h : key == name with
      | true => exact absurd ⟨h', h⟩ hdistinct
      | false => rfl
    | false => rfl
  | trans first _ ih ih' =>
    -- That two entries are not both under the key is said of them in either order.
    have once' := (first.pairwise_iff fun h h' => h h'.symm).mp once
    exact (ih once).trans (ih' once')

end Lists

section Sameness

variable {xs ys : List Value} {es : List (Scalar × Value)}

theorem sameItems_congr (h : List.Forall₂ (fun x y => ∀ c, x.same c = y.same c) xs ys)
    (cs : List Value) : sameItems xs cs = sameItems ys cs := by
  induction h generalizing cs with
  | nil => rfl
  | cons hxy _ ih =>
    cases cs with
    | nil => rfl
    | cons c cs => simp only [sameItems, hxy, ih]

/-- Whether an entry has a like one among these. -/
def hasLike (fs : List (Scalar × Value)) (e : Scalar × Value) : Bool :=
  match fs.lookup e.1 with
  | some y => e.2.same y
  | none => false

theorem sameEntries_eq_all (es fs : List (Scalar × Value)) :
    sameEntries es fs = es.all (hasLike fs) := by
  induction es with
  | nil => rfl
  | cons e es ih =>
    rw [sameEntries, ih, List.all_cons]
    rfl

theorem all_hasLike_congr {es mid : List (Scalar × Value)}
    (h : List.Forall₂ (fun e f => e.1 = f.1 ∧ ∀ c, e.2.same c = f.2.same c) es mid)
    (fs : List (Scalar × Value)) : es.all (hasLike fs) = mid.all (hasLike fs) := by
  induction h with
  | nil => rfl
  | @cons e f _ _ hef _ ih =>
    have hlike : hasLike fs e = hasLike fs f := by
      unfold hasLike
      rw [hef.1]
      cases fs.lookup f.1 with
      | none => rfl
      | some c => exact hef.2 c
    rw [List.all_cons, List.all_cons, hlike, ih]

end Sameness

namespace Reordered

variable {v w : Value}

theorem hollow (h : v.Reordered w) : v.hollow = w.hollow := by
  cases h <;> rfl

theorem text? (h : v.Reordered w) : v.text? = w.text? := by
  cases h <;> rfl

/-- The members of the second value are those of the first, reordered, in another order. -/
theorem members (h : v.Reordered w) :
    ∃ mid, List.Forall₂ (fun m m' => m.1 = m'.1 ∧ m.2.Reordered m'.2) v.members mid ∧
      mid.Perm w.members := by
  have sequence : ∀ {xs ys : List Value}, List.Forall₂ Reordered xs ys →
      List.Forall₂ (fun m m' => m.1 = m'.1 ∧ m.2.Reordered m'.2) (Leaf.numbered xs)
        (Leaf.numbered ys) := by
    intro xs ys items
    refine List.forall₂_map_left_iff.mpr (List.forall₂_map_right_iff.mpr ?_)
    refine (forall₂_zipIdx items 0).imp ?_
    rintro ⟨x, position⟩ ⟨y, _⟩ ⟨rfl, hxy⟩
    exact ⟨rfl, hxy⟩
  cases h with
  | scalar s => exact ⟨[], .nil, .nil⟩
  | tuple items => exact ⟨_, sequence items, .refl _⟩
  | list items => exact ⟨_, sequence items, .refl _⟩
  | @mapping i j es mid fs keys values order =>
    refine ⟨Leaf.keyed mid, ?_, order.map _⟩
    refine List.forall₂_map_left_iff.mpr (List.forall₂_map_right_iff.mpr ?_)
    refine (forall₂_entries keys values).imp ?_
    rintro ⟨key, x⟩ ⟨_, y⟩ ⟨rfl, hxy⟩
    exact ⟨rfl, hxy⟩

theorem symm (h : v.Reordered w) : w.Reordered v := by
  have sequence : ∀ {xs ys : List Value}, (∀ x ∈ xs, ∀ {y}, Reordered x y → Reordered y x) →
      List.Forall₂ Reordered xs ys → List.Forall₂ Reordered ys xs := fun ih items =>
    (((List.forall₂_and_left _ _).mpr ⟨ih, items⟩).imp fun _ _ h => h.1 h.2).flip
  induction v using nested_induction generalizing w with
  | scalar s =>
    cases h
    exact .scalar s
  | tuple xs ih =>
    cases h with
    | tuple items => exact .tuple (sequence ih items)
  | list identity xs ih =>
    cases h with
    | list items => exact .list (sequence ih items)
  | mapping identity es ih =>
    cases h with
    | @mapping _ _ _ mid fs keys values order =>
      have entries :
          List.Forall₂ (fun f e : Scalar × Value => f.1 = e.1 ∧ f.2.Reordered e.2) mid es :=
        (((List.forall₂_and_left _ _).mpr ⟨ih, forall₂_entries keys values⟩).imp fun _ _ h =>
          And.intro h.2.1.symm (h.1 h.2.2)).flip
      obtain ⟨mid', entries', order'⟩ := List.perm_comp_forall₂ order.symm entries
      refine .mapping ?_ ?_ order'
      · exact List.forall₂_eq_eq_eq ▸ List.forall₂_map_left_iff.mpr
          (List.forall₂_map_right_iff.mpr (entries'.imp fun _ _ h => h.1))
      · exact List.forall₂_map_left_iff.mpr
          (List.forall₂_map_right_iff.mpr (entries'.imp fun _ _ h => h.2))

/-- The order of entries makes no difference to whether the numbers in a value can be written. -/
theorem isWritable_iff (h : v.Reordered w) : v.isWritable ↔ w.isWritable := by
  induction v using members_induction generalizing w with
  | step v ih =>
    by_cases hscalar : ∃ s, v = .scalar s
    · obtain ⟨s, rfl⟩ := hscalar
      cases h
      rfl
    · obtain ⟨mid, pairs, order⟩ := h.members
      have hw : ∀ s, w ≠ .scalar s := by
        rintro s rfl
        cases h
        exact hscalar ⟨s, rfl⟩
      rw [Value.isWritable_iff (not_exists.mp hscalar), Value.isWritable_iff hw]
      refine (forall_mem_congr (((List.forall₂_and_left _ _).mpr ⟨ih, pairs⟩).imp ?_)).trans
        (forall_congr' fun m => imp_congr_left order.mem_iff)
      rintro ⟨step, x⟩ ⟨_, y⟩ ⟨hx, rfl, hxy⟩
      exact and_congr_right fun _ => hx hxy

/-- The order of entries makes no difference to whether a value is one of the choices. -/
theorem same (h : v.Reordered w) (c : Value) : v.same c = w.same c := by
  induction v using nested_induction generalizing w c with
  | scalar s =>
    cases h
    rfl
  | tuple xs ih =>
    cases h with
    | tuple items =>
      have hitems := ((List.forall₂_and_left _ _).mpr ⟨ih, items⟩).imp fun x y h => h.1 h.2
      cases c <;> simp only [Value.same, sameItems_congr hitems]
  | list identity xs ih =>
    cases h with
    | list items =>
      have hitems := ((List.forall₂_and_left _ _).mpr ⟨ih, items⟩).imp fun x y h => h.1 h.2
      cases c <;> simp only [Value.same, sameItems_congr hitems]
  | mapping identity es ih =>
    cases h with
    | @mapping _ _ _ mid fs keys values order =>
      have hentries := ((List.forall₂_and_left _ _).mpr ⟨ih, forall₂_entries keys values⟩).imp
        fun e f h => And.intro h.2.1 (h.1 h.2.2)
      cases c with
      | mapping k gs =>
        have hlength : es.length = fs.length := hentries.length_eq.trans order.length_eq
        simp only [Value.same, sameEntries_eq_all, hlength, all_hasLike_congr hentries,
          order.all_eq]
      | _ => rfl

/-- Texts under keys stay where they are if no key stands for two entries. -/
theorem fieldText (once : v.KeysOnce) (h : v.Reordered w) (key : String) :
    (v.field? key).bind Value.text? = (w.field? key).bind Value.text? := by
  cases h with
  | @mapping i j es mid fs keys values order =>
    have hmid : (es.lookup (.text key)).bind Value.text? =
        (mid.lookup (.text key)).bind Value.text? := by
      have hentries := forall₂_entries keys values
      clear once keys values order
      induction hentries with
      | nil => rfl
      | @cons e f _ _ hef _ ih =>
        obtain ⟨name, x⟩ := e
        obtain ⟨_, y⟩ := f
        obtain ⟨rfl, hxy⟩ := hef
        rw [List.lookup_cons, List.lookup_cons]
        cases Scalar.text key == name with
        | true => exact hxy.text?
        | false => exact ih
    have honce : mid.Pairwise fun e f =>
        ¬ ((Scalar.text key == e.1) = true ∧ (Scalar.text key == f.1) = true) := by
      have hkeys := once (.here _)
      rw [keys, List.pairwise_map] at hkeys
      refine hkeys.imp fun hne h => ?_
      rw [Scalar.eq_text_of_beq h.1, Scalar.eq_text_of_beq h.2] at hne
      simp at hne
    show (es.lookup (.text key)).bind Value.text? = (fs.lookup (.text key)).bind Value.text?
    rw [hmid, lookup_perm order honce]
  | _ => rfl

end Reordered

end ShapeLint.Value
