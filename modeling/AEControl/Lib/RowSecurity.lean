/-
  Row-level security over keyed tables.

  A table holds the rows of several owners; a session is bound to one of them.  A forced policy
  `owner = session` filters what its statements read, update and delete, so that the session works
  on the `visible` part of the table.  What it does not filter is the primary key, which is checked
  over the rows of all owners.

  The lemmas say what a statement does to the part a given owner sees: to the session's own part
  the plain statement of `Table`, to every other part nothing.
-/
import Mathlib.Algebra.BigOperators.Group.List.Basic
import Mathlib.Algebra.Order.Ring.Nat
import AEControl.Lib.Table

namespace AEControl.RowSecurity

open Table

variable {ρ τ κ : Type*} [DecidableEq τ] (owner : ρ → τ) (key : ρ → κ)

/-- The rows the policy lets a session of `t` see. -/
def visible (t : τ) (rows : List ρ) : List ρ := rows.filter fun r => owner r = t

/-- The rows an `UPDATE … WHERE p` of a session of `t` reaches. -/
def reaches (t : τ) (p : ρ → Bool) (r : ρ) : Bool := owner r = t && p r

variable {owner key}

theorem mem_visible {t : τ} {rows : List ρ} {r : ρ} :
    r ∈ visible owner t rows ↔ r ∈ rows ∧ owner r = t := by
  simp [visible]

theorem visible_append (t : τ) (rows rows' : List ρ) :
    visible owner t (rows ++ rows') = visible owner t rows ++ visible owner t rows' :=
  List.filter_append rows rows'

/-- A row of the session's own is seen by the session. -/
theorem visible_append_own {t : τ} {rows : List ρ} {r : ρ} (hr : owner r = t) :
    visible owner t (rows ++ [r]) = visible owner t rows ++ [r] := by
  rw [visible_append]
  simp [visible, hr]

theorem Keyed.visible {rows : List ρ} (hk : Keyed key rows) (t : τ) :
    Keyed key (visible owner t rows) :=
  hk.sublist List.filter_sublist

/-- Counting owner by owner counts every row once. -/
theorem sum_countP_visible {owners : List τ} (hnodup : owners.Nodup) {rows : List ρ}
    (hall : ∀ r ∈ rows, owner r ∈ owners) (p : ρ → Bool) :
    (owners.map fun t => (visible owner t rows).countP p).sum = rows.countP p := by
  induction rows with
  | nil => simp [visible]
  | cons r rows ih =>
    obtain ⟨hr, hrows⟩ := List.forall_mem_cons.mp hall
    -- the head counts with its owner and with no one else
    have hhead : ∀ t, (visible owner t (r :: rows)).countP p =
        (visible owner t rows).countP p + if owner r = t then (if p r = true then 1 else 0) else 0 := by
      intro t
      unfold visible
      by_cases ht : owner r = t
      · rw [List.filter_cons_of_pos (by simpa using ht), List.countP_cons, if_pos ht]
      · rw [List.filter_cons_of_neg (by simpa using ht), if_neg ht, Nat.add_zero]
    have hone : (owners.map fun t => if owner r = t then (if p r = true then 1 else 0) else 0).sum =
        if p r = true then 1 else 0 := by
      rw [List.sum_map_eq_nsmul_single (owner r) _ fun t ht _ => if_neg (Ne.symm ht),
        List.count_eq_one_of_mem hnodup hr, if_pos rfl, one_nsmul]
    rw [List.countP_cons, ← ih hrows, List.map_congr_left fun t _ => hhead t, List.sum_map_add, hone]

/-- A part is its own part. -/
theorem visible_of_forall {t : τ} {rows : List ρ} (h : ∀ r ∈ rows, owner r = t) :
    visible owner t rows = rows :=
  List.filter_eq_self.mpr fun r hr => by simpa using h r hr

@[simp] theorem visible_visible (owner : ρ → τ) (t : τ) (rows : List ρ) :
    visible owner t (visible owner t rows) = visible owner t rows :=
  visible_of_forall fun _ hr => (mem_visible.mp hr).2

/-- Rewriting rows in place without changing their owners rewrites every owner's part. -/
theorem visible_map {t : τ} {g : ρ → ρ} {rows : List ρ}
    (hg : ∀ r ∈ rows, owner (g r) = owner r) :
    visible owner t (rows.map g) = (visible owner t rows).map g := by
  unfold visible
  rw [List.filter_map]
  congr 1
  refine List.filter_congr fun r hr => ?_
  show decide (owner (g r) = t) = decide (owner r = t)
  rw [hg r hr]

section Statements

variable [DecidableEq κ] {t : τ} {k : κ} {p : ρ → Bool} {f : ρ → ρ} {rows : List ρ}

/-- An update in place of rows that keep their owner updates every owner's part. -/
theorem visible_update_each (hf : ∀ r ∈ rows, key r = k → owner (f r) = owner r) :
    visible owner t (update key k p f rows) = update key k p f (visible owner t rows) := by
  unfold update
  refine visible_map fun r hr => ?_
  split_ifs with h
  · exact hf r hr h.1
  · rfl

/-- An update under the policy is the plain update of the visible rows. -/
theorem visible_update (hf : ∀ r, owner (f r) = owner r) :
    visible owner t (update key k (reaches owner t p) f rows) =
      update key k p f (visible owner t rows) := by
  rw [visible_update_each fun r _ _ => hf r]
  unfold update
  refine List.map_congr_left fun r hr => ?_
  have hown : owner r = t := (mem_visible.mp hr).2
  simp [reaches, hown]

/-- What the update returns is what it returns on the visible rows. -/
theorem returning_reaches :
    returning key k (reaches owner t p) f rows = returning key k p f (visible owner t rows) := by
  unfold returning visible
  rw [List.find?_filter]
  congr 1
  congr 1
  funext r
  cases h₁ : decide (owner r = t) <;> cases h₂ : decide (key r = k) <;> simp [reaches, h₁]

end Statements

end AEControl.RowSecurity
