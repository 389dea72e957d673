import Mathlib.Data.List.Perm.Subperm
import ShapeLint.Proofs.Document.Reordering

/-!
Sameness as an equivalence. Scalars are the same when they stand for one number, or else are equal;
values are compared part by part, and mappings by their keys. A mapping is the same as another one
only if they have equally many entries, so if each key stands for one entry the comparison can be
turned round.
-/
namespace ShapeLint

namespace Scalar

/-- The number that a scalar counts as, or else the scalar itself. -/
def canonical (s : Scalar) : Quantity ⊕ Scalar :=
  match s.quantity? with
  | some q => .inl q
  | none => .inr s

theorem beq_iff {a b : Scalar} : (a == b) = true ↔ a.canonical = b.canonical := by
  show same a b = true ↔ _
  cases a <;> cases b <;> simp [same, canonical, quantity?]

instance : EquivBEq Scalar where
  rfl := beq_iff.mpr rfl
  symm h := beq_iff.mpr (beq_iff.mp h).symm
  trans h h' := beq_iff.mpr ((beq_iff.mp h).trans (beq_iff.mp h'))

end Scalar

namespace Value

section Entries

variable {κ α : Type} [BEq κ] {es : List (κ × α)} {key key' : κ} {x : α}

theorem lookup_congr [EquivBEq κ] (h : (key == key') = true) (es : List (κ × α)) :
    es.lookup key = es.lookup key' := by
  induction es with
  | nil => rfl
  | cons e es ih =>
    obtain ⟨name, x⟩ := e
    rw [List.lookup_cons, List.lookup_cons, BEq.congr_left h, ih]

theorem mem_of_lookup (h : es.lookup key = some x) :
    ∃ name, (name, x) ∈ es ∧ (key == name) = true := by
  induction es with
  | nil => cases h
  | cons e es ih =>
    obtain ⟨name, y⟩ := e
    rw [List.lookup_cons] at h
    cases hname : key == name with
    | true =>
      rw [hname] at h
      obtain rfl := Option.some.inj h
      exact ⟨name, List.mem_cons_self, hname⟩
    | false =>
      rw [hname] at h
      obtain ⟨name', hmem, hname'⟩ := ih h
      exact ⟨name', List.mem_cons_of_mem _ hmem, hname'⟩

theorem lookup_of_mem [EquivBEq κ]
    (once : (es.map Prod.fst).Pairwise fun key other => (key == other) = false)
    (hmem : (key', x) ∈ es) (h : (key == key') = true) : es.lookup key = some x := by
  induction es with
  | nil => cases hmem
  | cons e es ih =>
    obtain ⟨name, y⟩ := e
    obtain ⟨hfirst, hrest⟩ := List.pairwise_cons.mp once
    rw [List.lookup_cons]
    rcases List.mem_cons.mp hmem with heq | hmem
    · cases heq
      rw [h]
    · have hname : (key == name) = false := by
        rw [BEq.congr_left h, BEq.comm]
        exact hfirst key' (List.mem_map_of_mem hmem)
      rw [hname]
      exact ih hrest hmem

/-- Keys that are all different have different canonical forms. -/
theorem nodup_canonical {es : List (Scalar × α)}
    (once : (es.map Prod.fst).Pairwise fun key other => (key == other) = false) :
    (es.map fun e => e.1.canonical).Nodup := by
  rw [List.Nodup, List.pairwise_map]
  rw [List.pairwise_map] at once
  refine once.imp fun hne heq => ?_
  rw [Scalar.beq_iff.mpr heq] at hne
  cases hne

/-- The keys of the second mapping are among those of the first if the latter are among the former
and there are as many of them. -/
theorem exists_key_of_length_eq {es fs : List (Scalar × α)}
    (once : (es.map Prod.fst).Pairwise fun key other => (key == other) = false)
    (hlength : es.length = fs.length) (hkeys : ∀ e ∈ es, ∃ f ∈ fs, (e.1 == f.1) = true) :
    ∀ f ∈ fs, ∃ e ∈ es, (e.1 == f.1) = true := by
  have hsubset : (es.map fun e => e.1.canonical) ⊆ fs.map fun f => f.1.canonical := by
    intro c hc
    obtain ⟨e, he, rfl⟩ := List.mem_map.mp hc
    obtain ⟨f, hf, hkey⟩ := hkeys e he
    exact List.mem_map.mpr ⟨f, hf, (Scalar.beq_iff.mp hkey).symm⟩
  have hperm : (es.map fun e => e.1.canonical).Perm (fs.map fun f => f.1.canonical) :=
    (List.subperm_of_subset (nodup_canonical once) hsubset).perm_of_length_le (by simp [hlength])
  intro f hf
  obtain ⟨e, he, hkey⟩ :=
    List.mem_map.mp (hperm.mem_iff.mpr (List.mem_map_of_mem hf))
  exact ⟨e, he, Scalar.beq_iff.mpr hkey⟩

end Entries

theorem KeysOnce.of_mem {v w : Value} (once : v.KeysOnce) (h : w ∈ v.members.map Prod.snd) :
    w.KeysOnce := by
  obtain ⟨⟨step, _⟩, hmember, rfl⟩ := List.mem_map.mp h
  exact once.of_member hmember

theorem keysOnce_items {xs : List Value} {v : Value} (once : v.KeysOnce)
    (h : v.members = Leaf.numbered xs) : ∀ x ∈ xs, x.KeysOnce := by
  rw [← map_snd_numbered xs, ← h]
  exact fun x hx => once.of_mem hx

theorem keysOnce_entries {identity : Nat} {es : List (Scalar × Value)}
    (once : (mapping identity es).KeysOnce) : ∀ e ∈ es, e.2.KeysOnce := fun e he =>
  once.of_mem <| by
    rw [members, map_snd_keyed]
    exact List.mem_map_of_mem he

section Items

variable {xs ys zs : List Value}

theorem sameItems_refl (h : ∀ x ∈ xs, x.same x) : sameItems xs xs := by
  induction xs with
  | nil => rfl
  | cons x xs ih =>
    obtain ⟨hx, hxs⟩ := List.forall_mem_cons.mp h
    simp only [sameItems, hx, ih hxs, Bool.and_self]

theorem sameItems_symm (h : ∀ x ∈ xs, ∀ y ∈ ys, x.same y → y.same x) (hsame : sameItems xs ys) :
    sameItems ys xs := by
  induction xs generalizing ys with
  | nil => cases ys <;> simp_all [sameItems]
  | cons x xs ih =>
    cases ys with
    | nil => simp [sameItems] at hsame
    | cons y ys =>
      simp only [sameItems, Bool.and_eq_true] at hsame ⊢
      refine ⟨h x List.mem_cons_self y List.mem_cons_self hsame.1, ih ?_ hsame.2⟩
      exact fun x hx y hy => h x (List.mem_cons_of_mem _ hx) y (List.mem_cons_of_mem _ hy)

theorem sameItems_trans (h : ∀ x ∈ xs, ∀ y z, x.same y → y.same z → x.same z)
    (hxy : sameItems xs ys) (hyz : sameItems ys zs) : sameItems xs zs := by
  induction xs generalizing ys zs with
  | nil => cases ys <;> simp_all [sameItems]
  | cons x xs ih =>
    obtain ⟨hx, hxs⟩ := List.forall_mem_cons.mp h
    cases ys with
    | nil => simp [sameItems] at hxy
    | cons y ys =>
      cases zs with
      | nil => simp [sameItems] at hyz
      | cons z zs =>
        simp only [sameItems, Bool.and_eq_true] at hxy hyz ⊢
        exact ⟨hx y z hxy.1 hyz.1, ih hxs hxy.2 hyz.2⟩

end Items

theorem hasLike_iff {fs : List (Scalar × Value)} {e : Scalar × Value} :
    hasLike fs e ↔ ∃ y, fs.lookup e.1 = some y ∧ e.2.same y := by
  unfold hasLike
  cases fs.lookup e.1 <;> simp

theorem same_mapping {i j : Nat} {es fs : List (Scalar × Value)} :
    (mapping i es).same (mapping j fs) ↔ es.length = fs.length ∧ ∀ e ∈ es, hasLike fs e := by
  simp [same, sameEntries_eq_all]

variable {u v w : Value}

theorem same_refl (once : v.KeysOnce) : v.same v := by
  induction v using nested_induction with
  | scalar s => exact BEq.refl s
  | tuple xs ih => exact sameItems_refl fun x hx => ih x hx (keysOnce_items once rfl x hx)
  | list identity xs ih => exact sameItems_refl fun x hx => ih x hx (keysOnce_items once rfl x hx)
  | mapping identity es ih =>
    refine same_mapping.mpr ⟨rfl, fun e he => hasLike_iff.mpr ⟨e.2, ?_, ?_⟩⟩
    · exact lookup_of_mem (once (.here _)) he BEq.rfl
    · exact ih e he (keysOnce_entries once e he)

theorem same_symm (hv : v.KeysOnce) (hw : w.KeysOnce) (h : v.same w) : w.same v := by
  have sequence {xs ys : List Value} (ih : ∀ x ∈ xs, ∀ {y : Value}, x.KeysOnce → y.KeysOnce →
      x.same y → y.same x) (hxs : ∀ x ∈ xs, x.KeysOnce) (hys : ∀ y ∈ ys, y.KeysOnce) :
      sameItems xs ys → sameItems ys xs :=
    sameItems_symm fun x hx y hy => ih x hx (hxs x hx) (hys y hy)
  induction v using nested_induction generalizing w with
  | scalar s =>
    cases w with
    | scalar t => exact BEq.symm h
    | _ => cases h
  | tuple xs ih =>
    cases w with
    | tuple ys => exact sequence ih (keysOnce_items hv rfl) (keysOnce_items hw rfl) h
    | _ => cases h
  | list identity xs ih =>
    cases w with
    | list _ ys => exact sequence ih (keysOnce_items hv rfl) (keysOnce_items hw rfl) h
    | _ => cases h
  | mapping identity es ih =>
    cases w with
    | mapping _ fs =>
      obtain ⟨hlength, hlike⟩ := same_mapping.mp h
      have hkeys : ∀ e ∈ es, ∃ f ∈ fs, (e.1 == f.1) = true := by
        intro e he
        obtain ⟨y, hlookup, -⟩ := hasLike_iff.mp (hlike e he)
        obtain ⟨name, hmem, hname⟩ := mem_of_lookup hlookup
        exact ⟨(name, y), hmem, hname⟩
      refine same_mapping.mpr ⟨hlength.symm, fun f hf => ?_⟩
      obtain ⟨e, he, hkey⟩ := exists_key_of_length_eq (hv (.here _)) hlength hkeys f hf
      obtain ⟨y, hlookup, hsame⟩ := hasLike_iff.mp (hlike e he)
      obtain rfl : f.2 = y :=
        Option.some.inj ((lookup_of_mem (hw (.here _)) hf hkey).symm.trans hlookup)
      exact hasLike_iff.mpr ⟨e.2, lookup_of_mem (hv (.here _)) he (BEq.symm hkey),
        ih e he (keysOnce_entries hv e he) (keysOnce_entries hw f hf) hsame⟩
    | _ => cases h

theorem same_trans (h : u.same v) (h' : v.same w) : u.same w := by
  induction u using nested_induction generalizing v w with
  | scalar s =>
    cases v with
    | scalar t =>
      cases w with
      | scalar _ => exact BEq.trans h h'
      | _ => cases h'
    | _ => cases h
  | tuple xs ih =>
    cases v with
    | tuple ys =>
      cases w with
      | tuple zs => exact sameItems_trans (fun x hx _ _ => ih x hx) h h'
      | _ => cases h'
    | _ => cases h
  | list identity xs ih =>
    cases v with
    | list _ ys =>
      cases w with
      | list _ zs => exact sameItems_trans (fun x hx _ _ => ih x hx) h h'
      | _ => cases h'
    | _ => cases h
  | mapping identity es ih =>
    cases v with
    | mapping _ fs =>
      cases w with
      | mapping _ gs =>
        obtain ⟨hlength, hlike⟩ := same_mapping.mp h
        obtain ⟨hlength', hlike'⟩ := same_mapping.mp h'
        refine same_mapping.mpr ⟨hlength.trans hlength', fun e he => ?_⟩
        obtain ⟨y, hlookup, hsame⟩ := hasLike_iff.mp (hlike e he)
        obtain ⟨name, hmem, hname⟩ := mem_of_lookup hlookup
        obtain ⟨z, hlookup', hsame'⟩ := hasLike_iff.mp (hlike' (name, y) hmem)
        exact hasLike_iff.mpr ⟨z, (lookup_congr hname gs).trans hlookup', ih e he hsame hsame'⟩
      | _ => cases h'
    | _ => cases h

end Value

end ShapeLint
