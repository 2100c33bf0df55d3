/-
  Create-only stores: a name is bound once and keeps what it was bound to.

  `Preserves s t` says that `t` still holds whatever `s` holds.  A run whose steps all preserve
  preserves (`run_preserves`), and a name holds at the end of a run what it held at the start or
  what the step that bound it put there (`run_cell`).
-/
import Mathlib.Logic.Function.Basic
import AEControl.Lib.Runs

namespace AEControl.CreateOnly

open Runs

variable {κ ν ι : Type*}

/-- Whatever `s` holds, `t` still holds. -/
def Preserves (s t : κ → Option ν) : Prop := ∀ k v, s k = some v → t k = some v

theorem Preserves.refl (s : κ → Option ν) : Preserves s s := fun _ _ h => h

theorem Preserves.trans {s t u : κ → Option ν} (hst : Preserves s t) (htu : Preserves t u) :
    Preserves s u := fun k v h => htu k v (hst k v h)

/-- The store is as it was at `k`, or `k` was unbound and is now bound to some `P`. -/
def Binds (k : κ) (P : ν → Prop) (s t : κ → Option ν) : Prop :=
  t k = s k ∨ s k = none ∧ ∃ v, t k = some v ∧ P v

theorem Binds.refl (k : κ) (P : ν → Prop) (s : κ → Option ν) : Binds k P s s := .inl rfl

theorem Binds.trans {k : κ} {P : ν → Prop} {s t u : κ → Option ν} (hst : Binds k P s t)
    (htu : Binds k P t u) : Binds k P s u := by
  rcases hst with hst | ⟨hs, v, ht, hv⟩
  · rcases htu with htu | ⟨ht, w, hu, hw⟩
    · exact .inl (htu.trans hst)
    · exact .inr ⟨hst ▸ ht, w, hu, hw⟩
  · rcases htu with htu | ⟨hnone, -⟩
    · exact .inr ⟨hs, v, htu.trans ht, hv⟩
    · rw [ht] at hnone
      cases hnone

section Create

variable [DecidableEq κ]

/-- Bind an unbound name. -/
def create (k : κ) (v : ν) (s : κ → Option ν) : κ → Option ν :=
  if s k = none then Function.update s k (some v) else s

theorem create_of_none {k : κ} {s : κ → Option ν} (h : s k = none) (v : ν) :
    create k v s = Function.update s k (some v) := if_pos h

theorem create_of_some {k : κ} {s : κ → Option ν} {w : ν} (h : s k = some w) (v : ν) :
    create k v s = s := if_neg (by rw [h]; exact Option.some_ne_none w)

theorem create_self_of_none {k : κ} {s : κ → Option ν} (h : s k = none) (v : ν) :
    create k v s k = some v := by
  rw [create_of_none h, Function.update_self]

theorem create_other {k x : κ} (hne : x ≠ k) (v : ν) (s : κ → Option ν) :
    create k v s x = s x := by
  unfold create
  split
  · exact Function.update_of_ne hne _ _
  · rfl

theorem preserves_create (k : κ) (v : ν) (s : κ → Option ν) : Preserves s (create k v s) := by
  intro x w hx
  cases hk : s k with
  | some u => rwa [create_of_some hk]
  | none =>
    have hne : x ≠ k := fun h => by
      rw [h, hk] at hx
      cases hx
    rwa [create_other hne]

theorem binds_create {k x : κ} {v : ν} {P : ν → Prop} (hP : x = k → P v) (s : κ → Option ν) :
    Binds x P s (create k v s) := by
  by_cases hxk : x = k
  · subst hxk
    cases hx : s x with
    | none => exact .inr ⟨hx, v, create_self_of_none hx v, hP rfl⟩
    | some w => exact .inl (by rw [create_of_some hx])
  · exact .inl (create_other hxk v s)

end Create

/-! ## Runs -/

variable {step : (κ → Option ν) → ι → (κ → Option ν)}

/-- A run of steps that preserve preserves. -/
theorem run_preserves (hstep : ∀ s i, Preserves s (step s i)) (s : κ → Option ν) (is : List ι) :
    Preserves s (run step s is) :=
  run_grows step (fun _ => True) Preserves.refl Preserves.trans (fun _ _ _ => trivial)
    (fun s i _ => hstep s i) trivial is

/-- What a name holds after a run of allowed steps it held before, or some step bound it to. -/
theorem run_cell {k : κ} {P : ν → Prop} {allowed : ι → Prop}
    (hstep : ∀ s i, allowed i → Binds k P s (step s i)) (s : κ → Option ν) {is : List ι}
    (his : ∀ i ∈ is, allowed i) : Binds k P s (run step s is) :=
  run_invariant_of_mem step (Binds k P s)
    (fun t i hi ht => ht.trans (hstep t i hi)) (Binds.refl k P s) his

end AEControl.CreateOnly
