import ShapeLint.Descriptor
import ShapeLint.Proofs.Document.Sameness
import ShapeLint.Proofs.Leaf.Recursion

/-!
Sameness of leaves and of rules as an equivalence. It compares choices as values and bounds as
numbers, so leaves that are not equal may be the same; as for values, the choices must be such that
each key of a mapping stands for one entry.
-/
namespace ShapeLint

namespace Descriptor

variable {α : Type} {same : α → α → Bool} {a b c : Option α}

theorem sameOptional_refl (h : ∀ x ∈ a, same x x) : sameOptional same a a := by
  cases a with
  | none => rfl
  | some x => exact h x rfl

theorem sameOptional_symm (h : ∀ x ∈ a, ∀ y ∈ b, same x y → same y x)
    (hab : sameOptional same a b) : sameOptional same b a := by
  cases a with
  | none => cases b <;> simp_all [sameOptional]
  | some x =>
    cases b with
    | none => cases hab
    | some y => exact h x rfl y rfl hab

theorem sameOptional_trans (h : ∀ x ∈ a, ∀ y z, same x y → same y z → same x z)
    (hab : sameOptional same a b) (hbc : sameOptional same b c) : sameOptional same a c := by
  cases a with
  | none => cases b <;> simp_all [sameOptional]
  | some x =>
    cases b with
    | none => cases hab
    | some y =>
      cases c with
      | none => cases hbc
      | some z => exact h x rfl y z hab hbc

end Descriptor

namespace Leaf

open Descriptor (sameOptional sameOptional_refl sameOptional_symm sameOptional_trans)

/-- The values that a leaf and the leaves inside it list as choices have each key once. -/
def KeysOnce : Leaf → Prop
  | ⟨facets, items, entries⟩ =>
    (∀ choices ∈ facets.choices, ∀ v ∈ choices, v.KeysOnce)
      ∧ (match items with
        | some leaf => KeysOnce leaf
        | none => True)
      ∧ (match entries with
        | some leaf => KeysOnce leaf
        | none => True)

variable {facets facets' : Facets} {items items' entries entries' : Option Leaf}

theorem keysOnce_iff : KeysOnce ⟨facets, items, entries⟩ ↔
    (∀ choices ∈ facets.choices, ∀ v ∈ choices, v.KeysOnce) ∧ (∀ l ∈ items, l.KeysOnce) ∧
      ∀ l ∈ entries, l.KeysOnce := by
  cases items <;> cases entries <;> simp [KeysOnce]

/-- The facets that are compared as they stand. Of a pattern that is its text. -/
def Facets.verbatim (facets : Facets) : Facets :=
  { facets with
    choices := none
    minimum := none
    maximum := none
    pattern := facets.pattern.map fun p => ⟨p.written, none⟩ }

def sameNumber (x y : Binary64) : Bool := Scalar.float x == Scalar.float y

theorem sameFacets_iff : sameFacets facets facets' ↔
    Facets.verbatim facets = Facets.verbatim facets' ∧
      sameOptional Value.sameItems facets.choices facets'.choices ∧
      sameOptional sameNumber facets.minimum facets'.minimum ∧
      sameOptional sameNumber facets.maximum facets'.maximum := by
  have hbound : sameBound = sameOptional sameNumber := by
    funext a b
    cases a <;> cases b <;> rfl
  have hchoices : sameFacets facets facets' =
      (facets.type == facets'.type
        && sameOptional Value.sameItems facets.choices facets'.choices
        && sameBound facets.minimum facets'.minimum && sameBound facets.maximum facets'.maximum
        && facets.pattern.map TextPattern.written == facets'.pattern.map TextPattern.written
        && facets.minItems == facets'.minItems && facets.maxItems == facets'.maxItems
        && facets.isExample == facets'.isExample
        && facets.resolvable == facets'.resolvable && facets.resolveAs == facets'.resolveAs
        && facets.description == facets'.description
        && facets.documentation == facets'.documentation) := by
    rw [sameFacets]
    cases facets.choices <;> cases facets'.choices <;> rfl
  have hpattern : facets.pattern.map TextPattern.written = facets'.pattern.map TextPattern.written ↔
      (facets.pattern.map fun p => (⟨p.written, none⟩ : TextPattern)) =
        facets'.pattern.map fun p => ⟨p.written, none⟩ := by
    cases facets.pattern <;> cases facets'.pattern <;> simp
  rw [hchoices, hbound]
  simp only [Bool.and_eq_true, beq_iff_eq, Facets.verbatim, Facets.mk.injEq, true_and, hpattern]
  grind

theorem same_iff : same ⟨facets, items, entries⟩ ⟨facets', items', entries'⟩ ↔
    sameFacets facets facets' ∧ sameOptional same items items' ∧
      sameOptional same entries entries' := by
  have hsame : same ⟨facets, items, entries⟩ ⟨facets', items', entries'⟩ =
      (sameFacets facets facets' && sameOptional same items items'
        && sameOptional same entries entries') := by
    cases items <;> cases items' <;> cases entries <;> cases entries' <;> rfl
  rw [hsame, Bool.and_eq_true, Bool.and_eq_true, and_assoc]

theorem sameFacets_refl (once : ∀ choices ∈ facets.choices, ∀ v ∈ choices, v.KeysOnce) :
    sameFacets facets facets :=
  sameFacets_iff.mpr ⟨rfl,
    sameOptional_refl fun choices h => Value.sameItems_refl fun v hv =>
      Value.same_refl (once choices h v hv),
    sameOptional_refl fun _ _ => BEq.rfl, sameOptional_refl fun _ _ => BEq.rfl⟩

theorem sameFacets_symm (once : ∀ choices ∈ facets.choices, ∀ v ∈ choices, v.KeysOnce)
    (once' : ∀ choices ∈ facets'.choices, ∀ v ∈ choices, v.KeysOnce)
    (h : sameFacets facets facets') : sameFacets facets' facets := by
  obtain ⟨hverbatim, hchoices, hminimum, hmaximum⟩ := sameFacets_iff.mp h
  refine sameFacets_iff.mpr ⟨hverbatim.symm, sameOptional_symm ?_ hchoices,
    sameOptional_symm (fun _ _ _ _ => BEq.symm) hminimum,
    sameOptional_symm (fun _ _ _ _ => BEq.symm) hmaximum⟩
  exact fun choices h choices' h' => Value.sameItems_symm fun v hv w hw =>
    Value.same_symm (once choices h v hv) (once' choices' h' w hw)

theorem sameFacets_trans {facets'' : Facets} (h : sameFacets facets facets')
    (h' : sameFacets facets' facets'') : sameFacets facets facets'' := by
  obtain ⟨hverbatim, hchoices, hminimum, hmaximum⟩ := sameFacets_iff.mp h
  obtain ⟨hverbatim', hchoices', hminimum', hmaximum'⟩ := sameFacets_iff.mp h'
  refine sameFacets_iff.mpr ⟨hverbatim.trans hverbatim', sameOptional_trans ?_ hchoices hchoices',
    sameOptional_trans (fun _ _ _ _ => BEq.trans) hminimum hminimum',
    sameOptional_trans (fun _ _ _ _ => BEq.trans) hmaximum hmaximum'⟩
  exact fun _ _ _ _ => Value.sameItems_trans fun _ _ _ _ => Value.same_trans

variable {a b c : Leaf}

theorem same_refl (once : a.KeysOnce) : a.same a := by
  induction a using nested_induction with
  | leaf facets items entries ihItems ihEntries =>
    obtain ⟨hchoices, hitems, hentries⟩ := keysOnce_iff.mp once
    exact same_iff.mpr ⟨sameFacets_refl hchoices,
      sameOptional_refl fun l hl => ihItems l hl (hitems l hl),
      sameOptional_refl fun l hl => ihEntries l hl (hentries l hl)⟩

theorem same_symm (ha : a.KeysOnce) (hb : b.KeysOnce) (h : a.same b) : b.same a := by
  induction a using nested_induction generalizing b with
  | leaf facets items entries ihItems ihEntries =>
    obtain ⟨facets', items', entries'⟩ := b
    obtain ⟨hchoices, hitems, hentries⟩ := keysOnce_iff.mp ha
    obtain ⟨hchoices', hitems', hentries'⟩ := keysOnce_iff.mp hb
    obtain ⟨hfacets, hsame, hsame'⟩ := same_iff.mp h
    exact same_iff.mpr ⟨sameFacets_symm hchoices hchoices' hfacets,
      sameOptional_symm (fun l hl m hm => ihItems l hl (hitems l hl) (hitems' m hm)) hsame,
      sameOptional_symm (fun l hl m hm => ihEntries l hl (hentries l hl) (hentries' m hm)) hsame'⟩

theorem same_trans (h : a.same b) (h' : b.same c) : a.same c := by
  induction a using nested_induction generalizing b c with
  | leaf facets items entries ihItems ihEntries =>
    obtain ⟨facets', items', entries'⟩ := b
    obtain ⟨facets'', items'', entries''⟩ := c
    obtain ⟨hfacets, hitems, hentries⟩ := same_iff.mp h
    obtain ⟨hfacets', hitems', hentries'⟩ := same_iff.mp h'
    exact same_iff.mpr ⟨sameFacets_trans hfacets hfacets',
      sameOptional_trans (fun l hl _ _ => ihItems l hl) hitems hitems',
      sameOptional_trans (fun l hl _ _ => ihEntries l hl) hentries hentries'⟩

end Leaf

namespace FixedRule

variable {a b c : FixedRule}

/-- The values of a rule have each key once. -/
def KeysOnce : FixedRule → Prop
  | reference _ => True
  | leaf l => l.KeysOnce
  | unsupported v => v.KeysOnce

theorem same_refl (once : a.KeysOnce) : a.same a := by
  cases a with
  | reference type => exact BEq.refl type
  | leaf l => exact Leaf.same_refl once
  | unsupported v => exact Value.same_refl once

theorem same_symm (ha : a.KeysOnce) (hb : b.KeysOnce) (h : a.same b) : b.same a := by
  cases a with
  | reference _ =>
    cases b with
    | reference _ => exact BEq.symm h
    | _ => cases h
  | leaf _ =>
    cases b with
    | leaf _ => exact Leaf.same_symm ha hb h
    | _ => cases h
  | unsupported _ =>
    cases b with
    | unsupported _ => exact Value.same_symm ha hb h
    | _ => cases h

theorem same_trans (h : a.same b) (h' : b.same c) : a.same c := by
  cases a with
  | reference _ =>
    cases b with
    | reference _ =>
      cases c with
      | reference _ => exact BEq.trans h h'
      | _ => cases h'
    | _ => cases h
  | leaf _ =>
    cases b with
    | leaf _ =>
      cases c with
      | leaf _ => exact Leaf.same_trans h h'
      | _ => cases h'
    | _ => cases h
  | unsupported _ =>
    cases b with
    | unsupported _ =>
      cases c with
      | unsupported _ => exact Value.same_trans h h'
      | _ => cases h'
    | _ => cases h

end FixedRule

namespace Rule

variable {a b c : Rule}

/-- The values of a rule have each key once. Resolvers are not looked into. -/
def KeysOnce : Rule → Prop
  | fixed rule => rule.KeysOnce
  | _ => True

@[simp] theorem keysOnce_reference (type : String) : (reference type).KeysOnce := trivial

theorem same_refl (once : a.KeysOnce) : a.same a := by
  cases a with
  | anything => rfl
  | fixed rule => exact FixedRule.same_refl once
  | computed resolver => exact BEq.refl resolver.id

theorem same_symm (ha : a.KeysOnce) (hb : b.KeysOnce) (h : a.same b) : b.same a := by
  cases a with
  | anything =>
    cases b with
    | anything => rfl
    | _ => cases h
  | fixed _ =>
    cases b with
    | fixed _ => exact FixedRule.same_symm ha hb h
    | _ => cases h
  | computed _ =>
    cases b with
    | computed _ => exact BEq.symm h
    | _ => cases h

theorem same_trans (h : a.same b) (h' : b.same c) : a.same c := by
  cases a with
  | anything =>
    cases b with
    | anything =>
      cases c with
      | anything => rfl
      | _ => cases h'
    | _ => cases h
  | fixed _ =>
    cases b with
    | fixed _ =>
      cases c with
      | fixed _ => exact FixedRule.same_trans h h'
      | _ => cases h'
    | _ => cases h
  | computed _ =>
    cases b with
    | computed _ =>
      cases c with
      | computed _ => exact BEq.trans h h'
      | _ => cases h'
    | _ => cases h

end Rule

end ShapeLint
