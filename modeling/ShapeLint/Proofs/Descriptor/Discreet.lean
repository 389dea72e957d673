import ShapeLint.Proofs.Descriptor.Blind
import ShapeLint.Proofs.Descriptor.Outlined
import ShapeLint.Proofs.Leaf.Overlooking

/-! Descriptors that do not give away what they overlook. A child that is accepted without a look at
it makes no difference to the checks of its node, even if functions list the keys of the node; and
whether a container is accepted so does not depend on what stands inside it. Main statements:
`Descriptor.discreet` and `Registry.discreet_of_functionFree`. -/
namespace ShapeLint

/-- A ruling under which a child is accepted without a look at it. -/
def Ruling.overlooks : Ruling → Bool
  | .extension | .unvalidated .anything => true
  | .leaf l => l.acceptsAll && (nonempty? l.resolveAs).isNone
  | _ => false

/-- A function that sees kinds of containers only, and outlines only, sees of what holds other
values only what kind it is. -/
theorem Resolver.pick_congr {f : Resolver} (blind : f.Blind) (outlined : f.Outlined) {v w : Value}
    (h : v.hollow = w.hollow) (key : Value) : f.pick v key = f.pick w key := by
  have kind := Value.kindName_congr h
  cases v with
  | scalar s => cases w <;> simp_all [Value.hollow]
  | tuple xs =>
    cases w with
    | tuple ys => rw [← outlined.pick, ← outlined.pick (.tuple ys)]; rfl
    | _ => simp [Value.hollow] at h
  | list i xs => exact blind rfl kind key
  | mapping i es => exact blind rfl kind key

namespace Descriptor

/-- What stands inside a container makes no difference to the ruling on it, and what is overlooked
makes none to the checks of its node. -/
structure Discreet (d : Descriptor) : Prop where
  ruling : ∀ {v w : Value}, v.hollow = w.hollow → ∀ key, d.ruling key v = d.ruling key w
  keys : ∀ {v w : Value}, v.outline = w.outline → ∀ path,
    (d.checkNode v path).outcome = (d.checkNode w path).outcome
  payload : ∀ {frame : Frame} {v : Value} {ruling : Ruling},
    d.ruling (Walk.stepKey frame.step) v = .ok ruling → ruling.overlooks → ∀ w path,
      (d.checkNode (frame.fill v) path).outcome = (d.checkNode (frame.fill w) path).outcome

/-- No child under the key is overlooked. -/
def LooksAt (d : Descriptor) (key : String) : Prop :=
  ∀ {v ruling}, d.ruling (.text key) v = .ok ruling → ruling.overlooks = false

variable {d : Descriptor}

/-- A descriptor does not give away what it overlooks if the functions that list its keys read texts
only under keys whose children are looked at. -/
theorem discreet {keys : List String}
    (hresolvers : ∀ f, Rule.computed f ∈ d.rules → f.Blind ∧ f.Outlined)
    (hconditionals : ∀ f ∈ d.conditionals, f.ReadsOnly keys)
    (hkeys : d.conditionals ≠ [] → ∀ key ∈ keys, d.LooksAt key) : d.Discreet where
  ruling := by
    intro v w h key
    refine ruling_congr fun f hf => ?_
    obtain ⟨blind, outlined⟩ := hresolvers f hf
    exact Resolver.pick_congr blind outlined h key
  keys := by
    intro v w h path
    refine checkNode_congr ?_ (fun f hf => hconditionals f hf fun key _ => ?_) path
    · rw [← keyNames?_outline, h, keyNames?_outline]
    · rw [← v.fieldText_outline, h, w.fieldText_outline]
  payload := by
    intro frame v ruling ruled overlooked w path
    refine checkNode_congr (frame.keyNames?_fill v w) (fun f hf => ?_) path
    refine hconditionals f hf fun key hkey => frame.fieldText_fill v w (.inl ?_)
    rintro hstep
    rw [hstep] at ruled
    have hlooks := hkeys (List.ne_nil_of_mem hf) key hkey ruled
    rw [overlooked] at hlooks
    contradiction

end Descriptor

theorem Registry.discreet_of_functionFree {r : Registry} (h : r.FunctionFree) {type : String}
    {d : Descriptor} (hd : r.lookup type = .ok d) : d.Discreet := by
  obtain ⟨definition, hdefinition, rfl⟩ := mem_of_lookup hd
  obtain ⟨hrules, hconditionals⟩ := h definition hdefinition
  have none : ∀ key ∈ ([] : List String), definition.descriptor.LooksAt key := by simp
  exact Descriptor.discreet (fun f hf => absurd hf (hrules f)) (by simp [hconditionals])
    fun _ => none

end ShapeLint
