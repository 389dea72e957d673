import ShapeLint.Proofs.Descriptor.Frozen
import ShapeLint.Proofs.Descriptor.KeyNames
import ShapeLint.Proofs.Document.Holes
import ShapeLint.Proofs.Registry.References
import ShapeLint.Walk.Traversal

/-! Rules that do not look below a node: of a container they see only what kind it is, and of the
members that they send the walk on to they see nothing. Main statements: `Descriptor.blind` and
`Registry.blind_of_functionFree`. -/
namespace ShapeLint

/-- A function that sees of a container only what kind it is. -/
def Resolver.Blind (f : Resolver) : Prop :=
  ∀ {v w : Value}, v.isContainer → v.kindName = w.kindName → ∀ key, f.pick v key = f.pick w key

/-- A function that sees of a node only the texts under some of its keys. -/
def Conditional.ReadsOnly (keys : List String) (f : Conditional) : Prop :=
  ∀ {v w : Value}, (∀ key ∈ keys, (v.field? key).bind Value.text? =
    (w.field? key).bind Value.text?) → f.keys v = f.keys w

namespace Descriptor

/-- What is visited below a node makes no difference to its rulings and to the checks of its
keys. -/
structure Blind (d : Descriptor) : Prop where
  ruling : ∀ {v w : Value}, v.isContainer → v.kindName = w.kindName →
    ∀ key, d.ruling key v = d.ruling key w
  keys : ∀ {frame : Frame} {v : Value} {type : String},
    d.ruling (Walk.stepKey frame.step) v = .ok (.reference type) → ∀ w path,
      (d.checkNode (frame.fill v) path).outcome = (d.checkNode (frame.fill w) path).outcome

/-- No child under the key is visited. -/
def NotVisited (d : Descriptor) (key : String) : Prop :=
  ∀ v type, d.ruling (.text key) v ≠ .ok (.reference type)

variable {d : Descriptor}

/-- A ruling sees of a child what the functions among the rules see of it. -/
theorem ruling_congr {key v w : Value}
    (h : ∀ f, Rule.computed f ∈ d.rules → f.pick v key = f.pick w key) :
    d.ruling key v = d.ruling key w := by
  rcases d.ruling_cases key with hruling | hruling | ⟨rule, hrule, hruling⟩
  · rw [hruling, hruling]
  · rw [hruling, hruling]
  · rw [hruling, hruling]
    cases rule with
    | anything => rfl
    | fixed rule => rfl
    | computed f => simp only [Ruling.ofRule, h f hrule]

/-- A descriptor does not look below its nodes if its functions see only the kinds of containers
and texts under keys whose children are not visited. -/
theorem blind {keys : List String} (hresolvers : ∀ f, Rule.computed f ∈ d.rules → f.Blind)
    (hconditionals : ∀ f ∈ d.conditionals, f.ReadsOnly keys)
    (hkeys : d.conditionals ≠ [] → ∀ key ∈ keys, d.NotVisited key) : d.Blind where
  ruling := fun container kind key => ruling_congr fun f hf => hresolvers f hf container kind key
  keys := by
    intro frame v type hvisited w path
    refine checkNode_congr (frame.keyNames?_fill v w) (fun f hf => ?_) path
    refine hconditionals f hf fun key hkey => frame.fieldText_fill v w (.inl ?_)
    rintro hstep
    rw [hstep] at hvisited
    exact hkeys (List.ne_nil_of_mem hf) key hkey v type hvisited

theorem Blind.freeze (h : d.Blind) : d.freeze.Blind where
  ruling := h.ruling
  keys := by
    intro frame v type hvisited w path
    rw [checkNode_freeze, checkNode_freeze]
    exact h.keys hvisited w path

end Descriptor

/-- A registry whose rules, required keys and allow-lists are no functions. -/
def Registry.FunctionFree (r : Registry) : Prop :=
  ∀ definition ∈ r.definitions, (∀ f, Rule.computed f ∉ definition.descriptor.rules) ∧
    definition.descriptor.conditionals = []

theorem Registry.blind_of_functionFree {r : Registry} (h : r.FunctionFree) {type : String}
    {d : Descriptor} (hd : r.lookup type = .ok d) : d.Blind := by
  obtain ⟨definition, hdefinition, rfl⟩ := mem_of_lookup hd
  obtain ⟨hrules, hconditionals⟩ := h definition hdefinition
  have none : ∀ key ∈ ([] : List String), definition.descriptor.NotVisited key := by simp
  exact Descriptor.blind (fun f hf => absurd hf (hrules f)) (by simp [hconditionals])
    fun _ => none

end ShapeLint
