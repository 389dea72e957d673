import ShapeLint.Proofs.Descriptor.Blind
import ShapeLint.Proofs.Descriptor.KeyFindings
import ShapeLint.Proofs.Document.Reordering

/-! Rules that take no notice of the order of entries: what they say about a node and its children
depends on kinds, on keys and on texts under keys. Main statement: `Descriptor.orderless`. -/
namespace ShapeLint.Descriptor

variable {d : Descriptor} {path : Path}

/-- Checks that fail alike, or that find the same in some order. -/
inductive FoundAlike : Except Fault (List Violation) → Except Fault (List Violation) → Prop where
  | found {found found' : List Violation} (order : found.Perm found') :
    FoundAlike (.ok found) (.ok found')
  | failed (fault : Fault) : FoundAlike (.error fault) (.error fault)

theorem FoundAlike.of_eq {x y : Except Fault (List Violation)} (h : x = y) : FoundAlike x y := by
  subst h
  cases x with
  | ok found => exact .found (.refl found)
  | error fault => exact .failed fault

theorem FoundAlike.behind {x y : Except Fault (List Violation)} (own : List Violation)
    (h : FoundAlike x y) :
    FoundAlike (do let found ← x; return own ++ found) (do let found ← y; return own ++ found) := by
  cases h with
  | found order => exact .found (order.append_left own)
  | failed fault => exact .failed fault

theorem disallowedKeys_perm {es fs : List (Scalar × Value)}
    (hnames : (es.map Prod.fst).Perm (fs.map Prod.fst)) (allowed : List String) :
    FoundAlike (d.disallowedKeys es path allowed) (d.disallowedKeys fs path allowed) := by
  have hwritable : (∀ entry ∈ es, entry.1.isWritable) ↔ ∀ entry ∈ fs, entry.1.isWritable := by
    simp only [← List.forall_mem_map (f := Prod.fst) (P := fun key : Scalar => key.isWritable)]
    exact forall_congr' fun key => imp_congr_left hnames.mem_iff
  by_cases h : ∀ entry ∈ es, entry.1.isWritable
  · rw [disallowedKeys_eq_ok.mpr ⟨h, rfl⟩, disallowedKeys_eq_ok.mpr ⟨hwritable.mp h, rfl⟩]
    refine .found (List.Perm.map _ (List.Perm.filter _ ?_))
    simpa [Function.comp_def] using hnames.map Scalar.plain
  · rw [disallowedKeys_eq_error.mpr ⟨h, rfl⟩, disallowedKeys_eq_error.mpr ⟨mt hwritable.mpr h, rfl⟩]
    exact .failed _

theorem checkAllowed_perm {i j : Nat} {es fs : List (Scalar × Value)}
    (hnames : (es.map Prod.fst).Perm (fs.map Prod.fst))
    (h : ∀ f ∈ d.conditionals, f.keys (.mapping i es) = f.keys (.mapping j fs)) :
    FoundAlike (d.checkAllowed (.mapping i es) path).outcome
      (d.checkAllowed (.mapping j fs) path).outcome := by
  cases hallowed : d.allowed with
  | none => exact .of_eq (by simp only [checkAllowed, hallowed])
  | some f =>
    have hf := h f (by simp [conditionals, hallowed])
    have hallowedKeys : allowedKeys f (.mapping i es) = allowedKeys f (.mapping j fs) := by
      simp only [allowedKeys, hf]
    rw [checkAllowed_outcome hallowed, checkAllowed_outcome hallowed, hallowedKeys]
    cases allowedKeys f (.mapping j fs) with
    | ok allowed => exact disallowedKeys_perm hnames allowed
    | error fault => exact .of_eq rfl

/-- The checks of a node find the same, in an order that may change with the order of its
entries. -/
theorem checkNode_perm {keys : List String} {v w : Value}
    (hconditionals : ∀ f ∈ d.conditionals, f.ReadsOnly keys) (once : v.KeysOnce)
    (h : v.Reordered w) (path : Path) :
    FoundAlike (d.checkNode v path).outcome (d.checkNode w path).outcome := by
  have hkeys : ∀ f ∈ d.conditionals, f.keys v = f.keys w := fun f hf =>
    hconditionals f hf fun key _ => h.fieldText once key
  cases h with
  | @mapping i j es mid fs names values order =>
    have hnames : (es.map Prod.fst).Perm (fs.map Prod.fst) := names ▸ order.map _
    have honeOf : d.checkRequiredOneOf (.mapping i es) path =
        d.checkRequiredOneOf (.mapping j fs) path := checkRequiredOneOf_congr hnames path
    have hallowed : FoundAlike (d.checkAllowed (.mapping i es) path).outcome
        (d.checkAllowed (.mapping j fs) path).outcome := checkAllowed_perm hnames hkeys
    simp only [checkNode, Journaled.outcome_bind, checkRequired_congr hnames hkeys, honeOf]
    cases (d.checkRequired (.mapping j fs) path).outcome with
    | error fault => exact .failed fault
    | ok missing => exact hallowed.behind _
  | _ => exact .of_eq rfl

/-- The order of entries makes no difference to the rulings of a descriptor and to what its checks
of keys find. -/
structure Orderless (d : Descriptor) : Prop where
  ruling : ∀ {v w : Value}, v.Reordered w → ∀ key, d.ruling key v = d.ruling key w
  keys : ∀ {v w : Value}, v.KeysOnce → v.Reordered w → ∀ path,
    FoundAlike (d.checkNode v path).outcome (d.checkNode w path).outcome

theorem orderless {keys : List String}
    (hruling : ∀ {v w : Value}, v.hollow = w.hollow → ∀ key, d.ruling key v = d.ruling key w)
    (hconditionals : ∀ f ∈ d.conditionals, f.ReadsOnly keys) : d.Orderless where
  ruling h := hruling h.hollow
  keys once h := checkNode_perm hconditionals once h

theorem Orderless.freeze (h : d.Orderless) : d.freeze.Orderless where
  ruling reordered key := by
    rw [ruling_freeze, ruling_freeze, h.ruling reordered]
  keys once reordered path := by
    rw [checkNode_freeze, checkNode_freeze]
    exact h.keys once reordered path

end ShapeLint.Descriptor
