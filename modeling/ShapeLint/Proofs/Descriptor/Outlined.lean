import Mathlib.Tactic.ByContra
import ShapeLint.Proofs.Descriptor.KeyNames
import ShapeLint.Proofs.Document.Rebuilding
import ShapeLint.Proofs.Leaf.Recursion
import ShapeLint.Proofs.Registry.References

/-! Rules that see outlines only. If the functions of a descriptor do not look further than the
outline of a value, neither do its rulings nor the checks of its keys. -/
namespace ShapeLint

/-- A leaf that accepts texts only, if it makes them pointers. -/
def Leaf.pointsByText (leaf : Leaf) : Bool :=
  (nonempty? leaf.resolveAs).isNone || leaf.resolvable && leaf.type == some "string"

def FixedRule.pointsByText : FixedRule → Bool
  | leaf l => l.pointsByText
  | _ => true

def Rule.pointsByText : Rule → Bool
  | fixed rule => rule.pointsByText
  | _ => true

/-- A function that sees the outline of a child only, and picks no leaf that makes other values
than texts pointers. -/
structure Resolver.Outlined (f : Resolver) : Prop where
  pick : ∀ v key, f.pick v.outline key = f.pick v key
  pointsByText : ∀ {v key rule}, f.pick v key = .ok (some rule) → rule.pointsByText

/-- A function that sees the outline of a node only. -/
def Conditional.Outlined (f : Conditional) : Prop := ∀ node, f.keys node.outline = f.keys node

theorem Leaf.exists_text_of_pointsByText {leaf : Leaf} (hleaf : leaf.pointsByText) {v : Value}
    {path : Path} {typeName type : String} (direct : nonempty? leaf.resolveAs = some type)
    (accepted : leaf.check v path typeName = .ok []) : ∃ pointer, v = .text pointer := by
  have hstring : leaf.resolvable ∧ leaf.type = some "string" := by
    simpa [pointsByText, direct] using hleaf
  have hmatches : matchesType "string" v := by
    by_contra hmatches
    have hnonempty : nonempty? (some "string") = some "string" := rfl
    have hexpected : (some "string").filter (!matchesType · v) = some "string" := by
      rw [Option.filter_some, if_pos]
      simpa using hmatches
    rw [check_eq, hstring.1, hstring.2, hnonempty, hexpected] at accepted
    simp at accepted
  cases v with
  | scalar x => cases x <;> simp_all [matchesType]
  | _ => simp [matchesType] at hmatches

namespace Descriptor

/-- Rulings and checks of keys see outlines only, and pointers in leaves are texts. -/
structure Outlined (d : Descriptor) : Prop where
  ruling : ∀ key v, d.ruling key v.outline = d.ruling key v
  keys : ∀ node path, (d.checkNode node.outline path).outcome = (d.checkNode node path).outcome
  pointer : ∀ {key v leaf type path}, d.ruling key v = .ok (.leaf leaf) →
    nonempty? leaf.resolveAs = some type → leaf.check v path d.name = .ok [] →
    ∃ pointer, v = .text pointer

variable {d : Descriptor}

theorem ruling_outline (h : ∀ f, Rule.computed f ∈ d.rules → f.Outlined) (key v : Value) :
    d.ruling key v.outline = d.ruling key v := by
  rcases d.ruling_cases key with hruling | hruling | ⟨rule, hrule, hruling⟩
  · rw [hruling, hruling]
  · rw [hruling, hruling]
  · rw [hruling, hruling]
    cases rule with
    | anything => rfl
    | fixed rule => rfl
    | computed f => simp only [Ruling.ofRule, (h f hrule).pick v key]

theorem pointsByText_of_ruling (hfunctions : ∀ f, Rule.computed f ∈ d.rules → f.Outlined)
    (hrules : ∀ rule ∈ d.rules, rule.pointsByText) {key v : Value} {leaf : Leaf}
    (h : d.ruling key v = .ok (.leaf leaf)) : leaf.pointsByText := by
  have hfixed : ∀ rule : FixedRule, rule.pointsByText → Ruling.ofFixed rule = .leaf leaf →
      leaf.pointsByText := by
    intro rule hrule hleaf
    cases rule <;> simp_all [Ruling.ofFixed, FixedRule.pointsByText]
  rcases d.ruling_cases key with hruling | hruling | ⟨rule, hrule, hruling⟩
  · simp [hruling] at h
  · simp [hruling] at h
  · rw [hruling] at h
    cases rule with
    | anything => simp [Ruling.ofRule] at h
    | fixed rule => exact hfixed rule (hrules _ hrule) (Except.ok.inj h)
    | computed f =>
      unfold Ruling.ofRule at h
      cases hpick : f.pick v key with
      | error fault =>
        simp only [hpick] at h
        split at h <;> simp at h
      | ok picked =>
        cases picked with
        | none => simp [hpick] at h
        | some rule =>
          simp only [hpick, Except.ok.injEq] at h
          exact hfixed rule ((hfunctions f hrule).pointsByText hpick) h

theorem keyNames?_outline (v : Value) : v.outline.keyNames? = v.keyNames? := by
  cases v with
  | mapping identity es => simp [Value.outline, Value.keyNames?, Function.comp_def]
  | _ => rfl

theorem checkNode_outline (h : ∀ f ∈ d.conditionals, f.Outlined) (node : Value) (path : Path) :
    (d.checkNode node.outline path).outcome = (d.checkNode node path).outcome :=
  checkNode_congr (keyNames?_outline node) (fun f hf => h f hf node) path

theorem outlined (hresolvers : ∀ f, Rule.computed f ∈ d.rules → f.Outlined)
    (hconditionals : ∀ f ∈ d.conditionals, f.Outlined)
    (hrules : ∀ rule ∈ d.rules, rule.pointsByText) : d.Outlined := by
  constructor
  · exact ruling_outline hresolvers
  · exact checkNode_outline hconditionals
  · intro key v leaf type path hruling hdirect haccepted
    have hleaf := pointsByText_of_ruling hresolvers hrules hruling
    exact Leaf.exists_text_of_pointsByText hleaf hdirect haccepted

end Descriptor

end ShapeLint
