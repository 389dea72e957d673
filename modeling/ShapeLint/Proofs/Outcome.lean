import ShapeLint.Journal

/-! Outcomes of computations in two parts. -/
namespace ShapeLint

theorem bind_eq_error {α β ε : Type} {x : Except ε α} {f : α → Except ε β} {e : ε} :
    (do f (← x)) = .error e ↔ x = .error e ∨ ∃ a, x = .ok a ∧ f a = .error e := by
  cases x <;> simp [bind, Except.bind]

theorem bind_eq_ok {α β ε : Type} {x : Except ε α} {f : α → Except ε β} {b : β} :
    (do f (← x)) = .ok b ↔ ∃ a, x = .ok a ∧ f a = .ok b := by
  cases x <;> simp [bind, Except.bind]

theorem map_eq_map {α β ε : Type} {x y : Except ε α} {f : α → β} : x.map f = y.map f ↔
    (∃ e, x = .error e ∧ y = .error e) ∨ ∃ a b, x = .ok a ∧ y = .ok b ∧ f a = f b := by
  cases x <;> cases y <;> simp [Except.map, eq_comm]

namespace Journaled

variable {α β : Type}

@[simp] theorem outcome_of (x : Except Fault α) : (Journaled.of x).outcome = x := rfl

theorem outcome_bind (x : Journaled α) (f : α → Journaled β) :
    (do f (← x)).outcome = (do (f (← x.outcome)).outcome) := by
  show (Journaled.bind x f).outcome = _
  unfold Journaled.bind
  cases x.outcome <;> rfl

theorem records_bind (x : Journaled α) (f : α → Journaled β) :
    (do f (← x)).records = match x.outcome with
      | .ok a => x.records ++ (f a).records
      | .error _ => x.records := by
  show (Journaled.bind x f).records = _
  unfold Journaled.bind
  cases x.outcome <;> rfl

end Journaled

end ShapeLint
