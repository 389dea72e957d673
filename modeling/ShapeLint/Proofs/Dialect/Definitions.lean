import Mathlib.Data.List.Nodup
import ShapeLint.Proofs.Dialect.Tables
import ShapeLint.Proofs.Registry.Growth
import ShapeLint.Proofs.Walk.Freezing

/-! The descriptors of a built registry are those that the list of its dialect's types gives. Only
the types that collect the bindings of all protocols have further properties. -/
namespace ShapeLint.Dialect

open Shapes Assembly

/-- Each type is defined once, and all types are there in the end. -/
theorem types_check (d : Dialect) :
    ((d.types.map Prod.fst).Nodup ∧
      d.types.all fun entry => d.tables.contains entry.1) := by
  cases d <;> decide +kernel

/-- The types that collect the bindings of all protocols. -/
def extendedTypes : List String :=
  AsyncApi2.BindingKind.all.map AsyncApi2.BindingKind.bindingsType

theorem bindingsType_mem (kind : AsyncApi2.BindingKind) : kind.bindingsType ∈ extendedTypes :=
  List.mem_map_of_mem (by cases kind <;> decide)

theorem lookup_tables {d : Dialect} {entry : String × Descriptor} (listed : entry ∈ d.types)
    (unextended : entry.1 ∉ extendedTypes) :
    d.tables.lookup entry.1 = .ok (entry.2.copied entry.1) := by
  obtain ⟨distinct, defined⟩ := d.types_check
  -- whatever is found under the name at any time is the descriptor that the list gives
  let Faithful (r : Registry) : Prop :=
    ∀ descriptor, r.lookup entry.1 = .ok descriptor → descriptor = (entry.2.copied entry.1)
  have hdefine : ∀ other ∈ d.types, Keeps Faithful (define other.1 other.2) := by
    intro other hother
    refine keeps_define fun r _ hr descriptor hdescriptor => ?_
    rw [Registry.lookup_add] at hdescriptor
    cases hold : r.lookup entry.1 with
    | ok old =>
      rw [hold] at hdescriptor
      exact hr descriptor (hold.trans hdescriptor)
    | error fault =>
      rw [hold] at hdescriptor
      dsimp only at hdescriptor
      split at hdescriptor
      · rename_i hname
        obtain rfl := List.inj_on_of_nodup_map distinct hother listed hname
        exact (Except.ok.inj hdescriptor).symm
      · contradiction
  have hextend : ∀ protocol ∈ AsyncApi2.protocolBindings.map Prod.fst,
      ∀ kind : AsyncApi2.BindingKind, ∀ type,
        Keeps Faithful (extend kind.bindingsType [(protocol, ref type)]) := by
    intro protocol _ kind type
    refine keeps_extend fun _ _ r hr descriptor hdescriptor => ?_
    have hother : entry.1 ≠ kind.bindingsType := fun h => unextended (h ▸ bindingsType_mem kind)
    rw [Registry.lookup_modify, if_neg hother] at hdescriptor
    exact hr descriptor hdescriptor
  have hfaithful : Faithful d.tables :=
    d.tables_of_keeps (d.keeps_defineTypes hdefine hextend) fun _ h => by contradiction
  obtain ⟨descriptor, hdescriptor⟩ :=
    Registry.exists_lookup (List.all_eq_true.mp defined entry listed)
  rw [hdescriptor, hfaithful descriptor hdescriptor]

/-- A built registry answers for such a type with the descriptor of the list, read-only if the
registry is. -/
theorem lookup_build_of_mem {d : Dialect} (settings : Settings) {r : Registry}
    (built : (d.build settings).outcome = .ok r) {entry : String × Descriptor}
    (listed : entry ∈ d.types) (unextended : entry.1 ∉ extendedTypes) :
    r.lookup entry.1 = .ok (if settings.freeze then (entry.2.copied entry.1).freeze
      else entry.2.copied entry.1) := by
  have hlookup := lookup_tables listed unextended
  rw [outcome_build] at built
  obtain rfl := Except.ok.inj built
  cases settings.freeze with
  | true =>
    rw [if_pos rfl, Registry.lookup_freeze_eq, hlookup]
    rfl
  | false => exact hlookup

end ShapeLint.Dialect
