import ShapeLint.Proofs.Document.Reordering
import ShapeLint.Proofs.Leaf.Overlooking

/-! The check of a leaf takes no notice of the order of entries, but for the order of what it finds
and for the texts in messages. Main statement: `Leaf.resemble_check`. -/
namespace ShapeLint

/-- What a violation tells, but for its message. -/
def Violation.sketch (x : Violation) : ViolationCode × String × Option String × Path :=
  (x.code, x.typeName, x.key, x.path)

/-- The same violations up to their order and their messages. -/
def Resemble (found found' : List Violation) : Prop :=
  (found.map Violation.sketch).Perm (found'.map Violation.sketch)

namespace Resemble

variable {found found' found'' rest rest' : List Violation}

theorem refl (found : List Violation) : Resemble found found := List.Perm.refl _

theorem of_perm (h : found.Perm found') : Resemble found found' := h.map _

theorem symm (h : Resemble found found') : Resemble found' found := List.Perm.symm h

theorem trans (h : Resemble found found') (h' : Resemble found' found'') :
    Resemble found found'' :=
  List.Perm.trans h h'

theorem append (h : Resemble found found') (h' : Resemble rest rest') :
    Resemble (found ++ rest) (found' ++ rest') := by
  unfold Resemble
  rw [List.map_append, List.map_append]
  exact List.Perm.append h h'

end Resemble

namespace Leaf

variable {v w : Value} {path : Path} {typeName : String} {found found' : List Violation}

theorem resemble_checkChoices {facets : Facets} (h : v.Reordered w)
    (hv : checkChoices facets v path typeName = .ok found) :
    ∃ found', checkChoices facets w path typeName = .ok found' ∧ Resemble found found' := by
  unfold checkChoices at hv ⊢
  cases hchoices : facets.choices with
  | none =>
    simp only [hchoices] at hv
    exact ⟨found, hv, .refl _⟩
  | some choices =>
    simp only [hchoices, h.same] at hv ⊢
    split at hv
    · rw [if_pos ‹_›]
      exact ⟨found, hv, .refl _⟩
    · rw [if_neg ‹_›]
      obtain ⟨writable, rfl⟩ := writing_eq_ok.mp hv
      obtain ⟨hv, hchoices⟩ := List.forall_mem_cons.mp writable
      -- The message shows the value with its entries in their order.
      have hall : ∀ x ∈ w :: choices, x.isWritable :=
        List.forall_mem_cons.mpr ⟨h.isWritable_iff.mp hv, hchoices⟩
      exact ⟨_, writing_eq_ok.mpr ⟨hall, rfl⟩, .refl _⟩

theorem resemble_checkFacets {facets : Facets} (h : v.Reordered w)
    (hv : checkFacets facets v path typeName = .ok found) :
    ∃ found', checkFacets facets w path typeName = .ok found' ∧ Resemble found found' := by
  obtain ⟨mid, pairs, order⟩ := h.members
  have size : v.members.length = w.members.length := pairs.length_eq.trans order.length_eq
  obtain ⟨choices, pattern, cardinality, hchoices, hpattern, hcardinality, rfl⟩ :=
    checkFacets_eq_ok.mp hv
  obtain ⟨choices', hchoices', resemble⟩ := resemble_checkChoices h hchoices
  refine ⟨_, checkFacets_eq_ok.mpr ⟨choices', pattern, cardinality, hchoices',
    checkPattern_congr h.hollow facets path typeName ▸ hpattern,
    checkCardinality_congr h.hollow size facets path typeName ▸ hcardinality, rfl⟩, ?_⟩
  rw [checkBounds_congr h.hollow]
  exact ((resemble.append (.refl _)).append (.refl _)).append (.refl _)

theorem checkMembers_perm {check : Value → Path → Except Fault (List Violation)}
    {members members' : List (Step × Value)} (order : members.Perm members')
    (h : checkMembers check members path = .ok found) :
    ∃ found', checkMembers check members' path = .ok found' ∧ found.Perm found' := by
  induction order generalizing found with
  | nil => exact ⟨found, h, .refl _⟩
  | @cons member rest rest' _ ih =>
    obtain ⟨htake, own, others, hown, hothers, rfl⟩ := checkMembers_cons_eq_ok.mp h
    obtain ⟨others', hothers', hperm⟩ := ih hothers
    exact ⟨_, checkMembers_cons_eq_ok.mpr ⟨htake, own, others', hown, hothers', rfl⟩,
      hperm.append_left own⟩
  | swap member member' rest =>
    obtain ⟨htake', own', _, hown', hrest, rfl⟩ := checkMembers_cons_eq_ok.mp h
    obtain ⟨htake, own, others, hown, hothers, rfl⟩ := checkMembers_cons_eq_ok.mp hrest
    have hrest' := checkMembers_cons_eq_ok.mpr ⟨htake', own', others, hown', hothers, rfl⟩
    refine ⟨_, checkMembers_cons_eq_ok.mpr ⟨htake, own, _, hown, hrest', rfl⟩, ?_⟩
    rw [← List.append_assoc, ← List.append_assoc]
    exact List.perm_append_comm.append_right others
  | trans _ _ ih ih' =>
    obtain ⟨middle, hmiddle, hperm⟩ := ih h
    obtain ⟨last, hlast, hperm'⟩ := ih' hmiddle
    exact ⟨last, hlast, hperm.trans hperm'⟩

/-- What the check of a value finds, that of another one finds as well. -/
def ChecksAlike (check : Value → Path → Except Fault (List Violation)) (v w : Value) : Prop :=
  ∀ ⦃path found⦄, check v path = .ok found →
    ∃ found', check w path = .ok found' ∧ Resemble found found'

theorem resemble_checkMembers {check : Value → Path → Except Fault (List Violation)}
    {members members' : List (Step × Value)}
    (pairs : List.Forall₂ (fun m m' => m.1 = m'.1 ∧ ChecksAlike check m.2 m'.2) members members')
    (h : checkMembers check members path = .ok found) :
    ∃ found', checkMembers check members' path = .ok found' ∧ Resemble found found' := by
  induction pairs generalizing found with
  | nil => exact ⟨found, h, .refl _⟩
  | @cons member member' _ _ hmember _ ih =>
    obtain ⟨step, x⟩ := member
    obtain ⟨_, x'⟩ := member'
    obtain ⟨rfl, alike⟩ := hmember
    obtain ⟨htake, own, rest, hown, hrest, rfl⟩ := checkMembers_cons_eq_ok.mp h
    obtain ⟨own', hown', resemble⟩ := alike hown
    obtain ⟨rest', hrest', resemble'⟩ := ih hrest
    exact ⟨_, checkMembers_cons_eq_ok.mpr ⟨htake, own', rest', hown', hrest', rfl⟩,
      resemble.append resemble'⟩

theorem resemble_checkInner {leaf : Leaf} (h : v.Reordered w)
    (inside : ∀ l, l ∈ leaf.items ∨ l ∈ leaf.entries → ∀ {x y}, x.Reordered y →
      ChecksAlike (fun x path => l.check x path typeName) x y)
    (hv : leaf.checkInner v path typeName = .ok found) :
    ∃ found', leaf.checkInner w path typeName = .ok found' ∧ Resemble found found' := by
  unfold checkInner at hv ⊢
  cases hinner : leaf.inner? v with
  | none =>
    cases hinner' : leaf.inner? w with
    | none =>
      simp only [hinner] at hv
      exact ⟨found, hv, .refl _⟩
    | some inner =>
      obtain ⟨l, members⟩ := inner
      obtain rfl := inner?_members hinner'
      rw [inner?_congr h.hollow.symm hinner'] at hinner
      contradiction
  | some inner =>
    obtain ⟨l, members⟩ := inner
    obtain rfl := inner?_members hinner
    simp only [hinner] at hv
    simp only [inner?_congr h.hollow hinner]
    obtain ⟨mid, pairs, order⟩ := h.members
    obtain ⟨middle, hmiddle, resemble⟩ := resemble_checkMembers
      (pairs.imp fun m m' h => And.intro h.1 (inside l (inner?_mem hinner) h.2)) hv
    obtain ⟨found', hfound', hperm⟩ := checkMembers_perm order hmiddle
    exact ⟨found', hfound', resemble.trans (.of_perm hperm)⟩

/-- What a leaf finds in a value it finds, up to the order and the messages, in values that differ
from it only in the order of entries. -/
theorem resemble_check {leaf : Leaf} (h : v.Reordered w)
    (hv : leaf.check v path typeName = .ok found) :
    ∃ found', leaf.check w path typeName = .ok found' ∧ Resemble found found' := by
  induction leaf using nested_induction generalizing v w path found with
  | leaf facets items entries hitems hentries =>
    rw [check_eq] at hv ⊢
    simp only [matchesType_congr h.hollow, typeMismatch, Value.typeName_congr h.hollow] at hv
    split at hv
    · rw [if_pos ‹_›]
      exact ⟨found, hv, .refl _⟩
    · rw [if_neg ‹_›]
      cases hmismatch : (nonempty? facets.type).filter (!matchesType · w) with
      | some expected =>
        simp only [hmismatch] at hv ⊢
        exact ⟨found, hv, .refl _⟩
      | none =>
        simp only [hmismatch] at hv ⊢
        split at hv
        · rw [if_pos ‹_›]
          exact ⟨found, hv, .refl _⟩
        · rw [if_neg ‹_›]
          obtain ⟨own, hown, hv⟩ := bind_eq_ok.mp hv
          obtain ⟨inside, hinside, hv⟩ := bind_eq_ok.mp hv
          obtain rfl := Except.ok.inj hv
          obtain ⟨own', hown', resemble⟩ := resemble_checkFacets h hown
          obtain ⟨inside', hinside', resemble'⟩ := resemble_checkInner h
            (fun l hl x y hxy path found hx => hl.elim (fun hl => hitems l hl hxy hx)
              fun hl => hentries l hl hxy hx) hinside
          exact ⟨own' ++ inside',
            bind_eq_ok.mpr ⟨own', hown', bind_eq_ok.mpr ⟨inside', hinside', rfl⟩⟩,
            resemble.append resemble'⟩

end Leaf

end ShapeLint
