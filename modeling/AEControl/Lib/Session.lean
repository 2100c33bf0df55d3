/-
  Sessions of a transactional store.

  A session is a block of statements on a working copy of the state: what was written before an
  exception is still in the copy when the exception is raised.  `transaction` is what becomes of
  the store: a block that returns is committed, a block that raises is rolled back.
-/
import Mathlib.Init

namespace AEControl.Session

variable {ε σ α β : Type}

/-- `with connect() as connection`. -/
def transaction (block : EStateM ε σ α) (s : σ) : Except ε α × σ :=
  match block s with
  | .ok a s' => (.ok a, s')
  | .error e _ => (.error e, s)

theorem transaction_of_ok {block : EStateM ε σ α} {s s' : σ} {a : α} (h : block s = .ok a s') :
    transaction block s = (.ok a, s') := by
  unfold transaction
  rw [h]

/-- A transaction raises and leaves the store alone, or its block returned. -/
theorem transaction_cases (block : EStateM ε σ α) (s : σ) :
    (∃ e, transaction block s = (.error e, s)) ∨
      ∃ a s', block s = .ok a s' ∧ transaction block s = (.ok a, s') := by
  unfold transaction
  cases block s with
  | ok a s' => exact Or.inr ⟨a, s', rfl, rfl⟩
  | error e s' => exact Or.inl ⟨e, rfl⟩

theorem bind_eq (x : EStateM ε σ α) (f : α → EStateM ε σ β) (s : σ) :
    (x >>= f) s = match x s with
      | .ok a t => f a t
      | .error e t => .error e t := EStateM.run_bind x f

/-- A sequence that returns returned in both parts. -/
theorem bind_ok {x : EStateM ε σ α} {f : α → EStateM ε σ β} {s s' : σ} {b : β}
    (h : (x >>= f) s = .ok b s') : ∃ a t, x s = .ok a t ∧ f a t = .ok b s' := by
  rw [bind_eq] at h
  cases hx : x s with
  | ok a t =>
    rw [hx] at h
    exact ⟨a, t, rfl, h⟩
  | error e t =>
    rw [hx] at h
    cases h

/-- A sequence whose first part returns goes on from there. -/
theorem bind_of_ok {x : EStateM ε σ α} {f : α → EStateM ε σ β} {s t : σ} {a : α}
    (h : x s = .ok a t) : (x >>= f) s = f a t := by
  rw [bind_eq, h]

end AEControl.Session
