import ShapeLint.Document.Value

/-! Containers inside values, and induction over them. -/
namespace ShapeLint.Value

/-- Induction over a value and the values inside it. -/
@[elab_as_elim] theorem nested_induction {motive : Value → Prop}
    (scalar : ∀ s, motive (.scalar s)) (tuple : ∀ xs, (∀ x ∈ xs, motive x) → motive (.tuple xs))
    (list : ∀ identity xs, (∀ x ∈ xs, motive x) → motive (.list identity xs))
    (mapping : ∀ identity es, (∀ e ∈ es, motive e.2) → motive (.mapping identity es)) (v : Value) :
    motive v :=
  Value.rec (motive_2 := fun xs => ∀ x ∈ xs, motive x) (motive_3 := fun es => ∀ e ∈ es, motive e.2)
    (motive_4 := fun e => motive e.2) scalar tuple list mapping (by simp)
    (fun _ _ hx hxs => List.forall_mem_cons.mpr ⟨hx, hxs⟩) (by simp)
    (fun _ _ he hes => List.forall_mem_cons.mpr ⟨he, hes⟩) (fun _ _ h => h) v

/-- The identity of a list or a mapping; other values have none. -/
def identity? : Value → Option Nat
  | list identity _ | mapping identity _ => some identity
  | _ => none

def isContainer (v : Value) : Bool := v.identity?.isSome

theorem isContainer_of_isMapping {v : Value} (h : v.isMapping) : v.isContainer := by
  cases v <;> simp_all [isMapping, isContainer, identity?]

theorem isContainer_iff {v : Value} : v.isContainer ↔ ∃ identity, v.identity? = some identity :=
  Option.isSome_iff_exists

/-- The keys of a mapping. -/
def keyNames? : Value → Option (List Scalar)
  | mapping _ es => some (es.map Prod.fst)
  | _ => none

mutual

/-- Number of places in a value where a container stands. -/
def occurrences (identity : Nat) : Value → Nat
  | scalar _ => 0
  | tuple xs => occurrencesInItems identity xs
  | list i xs => occurrencesInItems identity xs + if i = identity then 1 else 0
  | mapping i es => occurrencesInEntries identity es + if i = identity then 1 else 0

def occurrencesInItems (identity : Nat) : List Value → Nat
  | [] => 0
  | x :: xs => occurrences identity x + occurrencesInItems identity xs

def occurrencesInEntries (identity : Nat) : List (Scalar × Value) → Nat
  | [] => 0
  | (_, x) :: es => occurrences identity x + occurrencesInEntries identity es

end

variable {identity : Nat}

theorem occurrencesInItems_eq_zero {xs : List Value} (h : occurrencesInItems identity xs = 0) :
    ∀ x ∈ xs, x.occurrences identity = 0 := by
  induction xs with
  | nil => simp
  | cons x xs ih =>
    rw [occurrencesInItems] at h
    exact List.forall_mem_cons.mpr ⟨by omega, ih (by omega)⟩

theorem occurrencesInEntries_eq_zero {es : List (Scalar × Value)}
    (h : occurrencesInEntries identity es = 0) : ∀ e ∈ es, e.2.occurrences identity = 0 := by
  induction es with
  | nil => simp
  | cons e es ih =>
    rw [occurrencesInEntries] at h
    exact List.forall_mem_cons.mpr ⟨by omega, ih (by omega)⟩

theorem identity?_ne_of_occurrences {v : Value} (h : v.occurrences identity = 0) :
    v.identity? ≠ some identity := by
  intro hi
  cases v with
  | scalar s => contradiction
  | tuple xs => contradiction
  | list i xs =>
    rw [occurrences, if_pos (Option.some.inj hi)] at h
    omega
  | mapping i es =>
    rw [occurrences, if_pos (Option.some.inj hi)] at h
    omega

end ShapeLint.Value
