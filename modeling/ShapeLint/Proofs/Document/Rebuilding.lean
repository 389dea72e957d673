import ShapeLint.Proofs.Document.Containers
import ShapeLint.Proofs.Walk.Actions

/-! Values with other identities and other members. What the rules of a node can see of a child is
its outline: the kind of the value, the keys of a mapping and the texts under them. Rebuilding a
value keeps the outline. -/
namespace ShapeLint.Value

mutual

/-- The value with its containers renumbered and with other values in place of some containers
inside it. -/
def rebuilt (number : Nat → Nat) (instead : Nat → Option Value) : Value → Value
  | scalar s => scalar s
  | tuple xs => tuple (rebuiltItems number instead xs)
  | list identity xs => list (number identity) (rebuiltItems number instead xs)
  | mapping identity es => mapping (number identity) (rebuiltEntries number instead es)

def rebuiltItems (number : Nat → Nat) (instead : Nat → Option Value) : List Value → List Value
  | [] => []
  | x :: xs => (x.identity?.bind instead).getD (rebuilt number instead x)
      :: rebuiltItems number instead xs

def rebuiltEntries (number : Nat → Nat) (instead : Nat → Option Value) :
    List (Scalar × Value) → List (Scalar × Value)
  | [] => []
  | (key, x) :: es => (key, (x.identity?.bind instead).getD (rebuilt number instead x))
      :: rebuiltEntries number instead es

end

/-- The value with its containers renumbered: a copy, if the numbers are new. -/
def renumbered (number : Nat → Nat) (v : Value) : Value := v.rebuilt number fun _ => none

/-- The value with `t` in place of the container of this identity wherever that stands inside
it. -/
def exchanged (identity : Nat) (v t : Value) : Value :=
  v.rebuilt id fun i => if i = identity then some t else none

/-- What becomes of a value inside a rebuilt one. -/
def rebuiltMember (number : Nat → Nat) (instead : Nat → Option Value) (x : Value) : Value :=
  (x.identity?.bind instead).getD (rebuilt number instead x)

section Rebuilding

variable (number : Nat → Nat) (instead : Nat → Option Value)

theorem rebuiltItems_eq (xs : List Value) :
    rebuiltItems number instead xs = xs.map (rebuiltMember number instead) := by
  induction xs with
  | nil => rfl
  | cons x xs ih => simp [rebuiltItems, rebuiltMember, ih]

theorem rebuiltEntries_eq (es : List (Scalar × Value)) :
    rebuiltEntries number instead es =
      es.map fun e => (e.1, rebuiltMember number instead e.2) := by
  induction es with
  | nil => rfl
  | cons e es ih => simp [rebuiltEntries, rebuiltMember, ih]

theorem identity?_rebuilt (v : Value) :
    (v.rebuilt number instead).identity? = v.identity?.map number := by
  cases v <;> simp [rebuilt, identity?]

end Rebuilding

section Exchange

variable (identity : Nat) (t : Value)

/-- What stands in place of a member once the container of this identity has given way. -/
theorem rebuiltMember_exchanged (x : Value) :
    rebuiltMember id (fun i => if i = identity then some t else none) x =
      if x.identity? = some identity then t else x.exchanged identity t := by
  unfold rebuiltMember exchanged
  cases h : x.identity? with
  | none => rfl
  | some i =>
    by_cases hi : i = identity
    · simp [hi]
    · simp [hi]

theorem identity?_exchanged (v : Value) : (v.exchanged identity t).identity? = v.identity? := by
  rw [exchanged, identity?_rebuilt, Option.map_id_fun, id]

/-- Nothing changes in a value in which the container does not stand. -/
theorem exchanged_of_occurrences {v : Value} (h : v.occurrences identity = 0) :
    v.exchanged identity t = v := by
  have hmember : ∀ {x : Value}, x.occurrences identity = 0 → x.exchanged identity t = x →
      rebuiltMember id (fun i => if i = identity then some t else none) x = x := by
    intro x hx hsame
    rw [rebuiltMember_exchanged, if_neg (identity?_ne_of_occurrences hx), hsame]
  induction v using nested_induction with
  | scalar s => rfl
  | tuple xs ih =>
    rw [occurrences] at h
    have hzero := occurrencesInItems_eq_zero h
    have hitems : ∀ x ∈ xs, _ = x := fun x hx => hmember (hzero x hx) (ih x hx (hzero x hx))
    rw [exchanged, rebuilt, rebuiltItems_eq, List.map_congr_left hitems, List.map_id']
  | list i xs ih =>
    rw [occurrences] at h
    have hzero := occurrencesInItems_eq_zero (Nat.eq_zero_of_add_eq_zero_right h)
    have hitems : ∀ x ∈ xs, _ = x := fun x hx => hmember (hzero x hx) (ih x hx (hzero x hx))
    rw [exchanged, rebuilt, rebuiltItems_eq, List.map_congr_left hitems, List.map_id', id]
  | mapping i es ih =>
    rw [occurrences] at h
    have hzero := occurrencesInEntries_eq_zero (Nat.eq_zero_of_add_eq_zero_right h)
    have hentries : ∀ e ∈ es, (e.1, rebuiltMember id
        (fun i => if i = identity then some t else none) e.2) = e := by
      intro e he
      rw [hmember (hzero e he) (ih e he (hzero e he))]
    rw [exchanged, rebuilt, rebuiltEntries_eq, List.map_congr_left hentries, List.map_id', id]

end Exchange

/-- What rules see of a value. -/
def outline : Value → Value
  | scalar s => scalar s
  | tuple _ => tuple []
  | list _ _ => list 0 []
  | mapping _ es => mapping 0 (es.map fun e => (e.1, (e.2.text?.map text).getD null))

section Outline

theorem lookup_map_snd {α β : Type} (f : α → β) (es : List (Scalar × α)) (key : Scalar) :
    (es.map fun e => (e.1, f e.2)).lookup key = (es.lookup key).map f := by
  induction es with
  | nil => rfl
  | cons e es ih =>
    obtain ⟨key', x⟩ := e
    simp only [List.map_cons, List.lookup_cons, ih]
    split <;> rfl

@[simp] theorem isMapping_outline (v : Value) : v.outline.isMapping = v.isMapping := by
  cases v <;> rfl

@[simp] theorem isContainer_outline (v : Value) : v.outline.isContainer = v.isContainer := by
  cases v <;> rfl

@[simp] theorem typeName_outline (v : Value) : v.outline.typeName = v.typeName := by
  cases v <;> rfl

@[simp] theorem text?_outline (v : Value) : v.outline.text? = v.text? := by
  cases v <;> rfl

theorem eq_scalar_of_outline {v : Value} {s : Scalar} (h : v.outline = scalar s) :
    v = scalar s := by
  cases v <;> simp_all [outline]

/-- The text under a key of a mapping belongs to the outline. -/
theorem fieldText_outline (v : Value) (key : String) :
    (v.outline.field? key).bind text? = (v.field? key).bind text? := by
  cases v with
  | mapping identity es =>
    have htext : ∀ x : Value, ((x.text?.map text).getD null).text? = x.text? := by
      intro x
      cases h : x.text? <;> rfl
    rw [outline, field?, lookup_map_snd fun x : Value => (x.text?.map text).getD null,
      Option.bind_map]
    exact congrArg _ (funext htext)
  | _ => rfl

theorem pointerOf?_outline (v : Value) : Walk.pointerOf? v.outline = Walk.pointerOf? v := by
  cases v with
  | mapping identity es => exact fieldText_outline (.mapping identity es) "$ref"
  | _ => rfl

variable {number : Nat → Nat} {instead : Nat → Option Value}

theorem text?_rebuiltMember (h : ∀ i t, instead i = some t → t.isContainer) (x : Value) :
    (rebuiltMember number instead x).text? = x.text? := by
  have hcontainer : ∀ t : Value, t.isContainer → t.text? = none := by
    intro t ht
    cases t <;> simp_all [isContainer, identity?, text?]
  have hsome : ∀ i, ((instead i).getD (rebuilt number instead x)).text? =
      if (instead i).isSome then none else (rebuilt number instead x).text? := by
    intro i
    cases hi : instead i with
    | none => rfl
    | some t => simp [hcontainer t (h i t hi)]
  cases x with
  | scalar s => rfl
  | tuple xs => rfl
  | list identity xs =>
    rw [rebuiltMember, identity?, Option.bind_some, hsome]
    split <;> rfl
  | mapping identity es =>
    rw [rebuiltMember, identity?, Option.bind_some, hsome]
    split <;> rfl

/-- Rebuilding keeps the outline, as long as containers give way to containers. -/
theorem outline_rebuilt (h : ∀ i t, instead i = some t → t.isContainer) (v : Value) :
    (v.rebuilt number instead).outline = v.outline := by
  cases v with
  | mapping identity es =>
    simp [rebuilt, outline, rebuiltEntries_eq, text?_rebuiltMember h]
  | _ => rfl

theorem outline_renumbered (number : Nat → Nat) (v : Value) :
    (v.renumbered number).outline = v.outline :=
  outline_rebuilt (by simp) v

theorem outline_exchanged {identity : Nat} {t : Value} (h : t.isContainer) (v : Value) :
    (v.exchanged identity t).outline = v.outline := by
  unfold exchanged
  apply outline_rebuilt
  intro i t' hi
  split at hi
  · exact Option.some.inj hi ▸ h
  · contradiction

end Outline

end ShapeLint.Value
