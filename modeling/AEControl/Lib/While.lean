/-
  `while` loops over an explicit state.

  The body may raise, so it returns an option; the loop takes its number of turns as fuel and
  returns `none` when the body raises or the fuel runs out, so a state it does return is one where
  the condition is false.  The crux is the variant rule `loop_of_variant`: an invariant the body
  keeps, and a number it makes smaller and that the fuel covers, give a result.
-/
import Mathlib.Data.Nat.Notation

namespace AEControl.While

variable {σ : Type*} {cond : σ → Bool} {body : σ → Option σ}

/-- `while cond: body`, at most `fuel` turns. -/
def loop (cond : σ → Bool) (body : σ → Option σ) : ℕ → σ → Option σ
  | 0, s => if cond s then none else some s
  | fuel + 1, s => if cond s then (body s).bind (loop cond body fuel) else some s

theorem loop_of_done {s : σ} (h : cond s = false) (fuel : ℕ) :
    loop cond body fuel s = some s := by
  cases fuel <;> simp [loop, h]

/-- A loop that has ended stays as it is with more turns. -/
theorem loop_mono {s t : σ} {fuel fuel' : ℕ} (hle : fuel ≤ fuel')
    (h : loop cond body fuel s = some t) : loop cond body fuel' s = some t := by
  induction fuel generalizing s fuel' with
  | zero =>
    cases hc : cond s with
    | false =>
      rw [loop_of_done hc] at h ⊢
      exact h
    | true => simp [loop, hc] at h
  | succ fuel ih =>
    cases hc : cond s with
    | false =>
      rw [loop_of_done hc] at h ⊢
      exact h
    | true =>
      obtain ⟨fuel', rfl⟩ : ∃ n, fuel' = n + 1 := ⟨fuel' - 1, by omega⟩
      rw [loop, if_pos hc] at h ⊢
      obtain ⟨u, hu, hrest⟩ := Option.bind_eq_some_iff.mp h
      rw [hu]
      exact ih (by omega) hrest

/-- **The variant rule.** -/
theorem loop_of_variant (Inv : σ → Prop) (variant : σ → ℕ)
    (hbody : ∀ s, Inv s → cond s = true →
      ∃ t, body s = some t ∧ Inv t ∧ variant t < variant s)
    {s : σ} (hs : Inv s) {fuel : ℕ} (hfuel : variant s ≤ fuel) :
    ∃ t, loop cond body fuel s = some t ∧ Inv t ∧ cond t = false := by
  induction fuel generalizing s with
  | zero =>
    cases hc : cond s with
    | false => exact ⟨s, loop_of_done hc 0, hs, hc⟩
    | true =>
      obtain ⟨t, -, -, hlt⟩ := hbody s hs hc
      omega
  | succ fuel ih =>
    cases hc : cond s with
    | false => exact ⟨s, loop_of_done hc _, hs, hc⟩
    | true =>
      obtain ⟨t, ht, hinv, hlt⟩ := hbody s hs hc
      obtain ⟨u, hu, hdone⟩ := ih hinv (show variant t ≤ fuel by omega)
      refine ⟨u, ?_, hdone⟩
      rw [loop, if_pos hc, ht]
      exact hu

end AEControl.While
