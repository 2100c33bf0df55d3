/-
  A time axis cut into cells of one width, the cells numbered through.

  `cell w t` is the number of the cell an instant lies in, `ceil w t` the number of the first cell
  that starts at the instant or after it.  `floorIn w o t` is where the instant's cell starts on an
  axis shifted by `o`; the crux is `cell_floorIn`: a shift by anything but whole cells moves an
  instant to the cell before its own, unless the shifted cut falls between the two.

  Cells a period apart share a slot.  The cells of an interval, and whatever is dated by cells,
  are shared out among the slots (`sum_inSlot`, `sum_sumInSlot`).
-/
import Mathlib.Data.Int.Interval
import Mathlib.Data.Int.ModEq
import Mathlib.Algebra.BigOperators.Ring.Finset
import Mathlib.Algebra.Order.BigOperators.Group.Finset
import Mathlib.Tactic.Linarith

namespace AEControl.Grid

variable {w : ℤ}

/-! ## Cells -/

/-- The number of the cell of width `w` an instant lies in. -/
def cell (w t : ℤ) : ℤ := t / w

/-- The number of the first cell that starts at an instant or after it. -/
def ceil (w t : ℤ) : ℤ := -(-t / w)

theorem cell_le_iff (hw : 0 < w) {t n : ℤ} : n ≤ cell w t ↔ n * w ≤ t :=
  Int.le_ediv_iff_mul_le hw

theorem cell_lt_iff (hw : 0 < w) {t n : ℤ} : cell w t < n ↔ t < n * w :=
  Int.ediv_lt_iff_lt_mul hw

/-- `ceil w t` is the first cell that does not start before `t`. -/
theorem ceil_le_iff (hw : 0 < w) {t n : ℤ} : ceil w t ≤ n ↔ t ≤ n * w := by
  have h : -n ≤ -t / w ↔ -n * w ≤ -t := Int.le_ediv_iff_mul_le hw
  unfold ceil
  rw [neg_mul] at h
  constructor
  · intro hle
    have := h.mp (by omega)
    omega
  · intro hle
    have := h.mpr (by omega)
    omega

theorem cell_mul (hw : 0 < w) (n : ℤ) : cell w (n * w) = n := Int.mul_ediv_cancel n (ne_of_gt hw)

/-- A cell's start lies at or before the instants in it … -/
theorem cell_mul_le (hw : 0 < w) (t : ℤ) : cell w t * w ≤ t := (cell_le_iff hw).mp (le_refl _)

/-- … and the next cell's start after them. -/
theorem lt_cell_succ_mul (hw : 0 < w) (t : ℤ) : t < (cell w t + 1) * w :=
  (cell_lt_iff hw).mp (Int.lt_succ _)

theorem cell_of_mem (hw : 0 < w) {t n : ℤ} (h₁ : n * w ≤ t) (h₂ : t < (n + 1) * w) :
    cell w t = n := by
  have hle := (cell_le_iff hw).mpr h₁
  have hlt := (cell_lt_iff hw).mpr h₂
  omega

/-- An instant is the start of its cell, or the first cell after it is the next one. -/
theorem ceil_eq (hw : 0 < w) (t : ℤ) :
    ceil w t = if t = cell w t * w then cell w t else cell w t + 1 := by
  have hle := cell_mul_le hw t
  have hlt := lt_cell_succ_mul hw t
  split
  case isTrue h =>
    refine le_antisymm ((ceil_le_iff hw).mpr (le_of_eq h)) ?_
    by_contra hc
    have := (ceil_le_iff hw (t := t) (n := cell w t - 1)).mp (by omega)
    nlinarith
  case isFalse h =>
    refine le_antisymm ((ceil_le_iff hw).mpr (le_of_lt hlt)) ?_
    by_contra hc
    have := (ceil_le_iff hw (t := t) (n := cell w t)).mp (by omega)
    omega

/-! ## Shifted axes -/

/-- The start of the cell of `t` on the axis shifted by `o`. -/
def floorIn (w o t : ℤ) : ℤ := cell w (t + o) * w - o

/-- **A shifted cut.**  The start of the shifted cell lies in the cell before, if the shift is not
    of whole cells and no shifted cut falls between the start of the cell and the instant. -/
theorem cell_floorIn (hw : 0 < w) (o t : ℤ) :
    cell w (floorIn w o t) =
      if 0 < o % w ∧ t % w + o % w < w then cell w t - 1 else cell w t := by
  have ht : t = cell w t * w + t % w := by
    rw [mul_comm]; exact (Int.mul_ediv_add_emod t w).symm
  have ho : o = cell w o * w + o % w := by
    rw [mul_comm]; exact (Int.mul_ediv_add_emod o w).symm
  have hr := Int.emod_nonneg t (ne_of_gt hw)
  have hr' := Int.emod_lt_of_pos t hw
  have hs := Int.emod_nonneg o (ne_of_gt hw)
  have hs' := Int.emod_lt_of_pos o hw
  generalize t % w = r at *
  generalize o % w = s at *
  generalize hT : cell w t = T at *
  generalize hP : cell w o = P at *
  unfold floorIn
  -- either the shift carries the instant into the next cell or it does not
  by_cases hsum : r + s < w
  · have hcell : cell w (t + o) = T + P := cell_of_mem hw (by linarith) (by linarith)
    rw [hcell]
    by_cases hpos : 0 < s
    · rw [if_pos ⟨hpos, hsum⟩]
      exact cell_of_mem hw (by linarith) (by linarith)
    · rw [if_neg fun h => hpos h.1]
      exact cell_of_mem hw (by linarith) (by linarith)
  · have hcell : cell w (t + o) = T + P + 1 := cell_of_mem hw (by linarith) (by linarith)
    rw [hcell, if_neg fun h => hsum h.2]
    exact cell_of_mem hw (by linarith) (by linarith)

/-! ## Slots -/

/-- The cells from `a` up to `b`. -/
def cells (a b : ℤ) : Finset ℤ := (Finset.range (b - a).toNat).image fun k : ℕ => a + k

theorem mem_cells {a b n : ℤ} : n ∈ cells a b ↔ a ≤ n ∧ n < b := by
  simp only [cells, Finset.mem_image, Finset.mem_range]
  constructor
  · rintro ⟨k, hk, rfl⟩
    omega
  · rintro ⟨ha, hb⟩
    exact ⟨(n - a).toNat, by omega, by omega⟩

theorem card_cells (a b : ℤ) : (cells a b).card = (b - a).toNat := by
  have hinj : Function.Injective fun k : ℕ => a + (k : ℤ) := by
    intro j k h
    have h : a + (j : ℤ) = a + k := h
    omega
  rw [cells, Finset.card_image_of_injective _ hinj, Finset.card_range]

theorem cells_eq_empty {a b : ℤ} (h : ¬a < b) : cells a b = ∅ :=
  Finset.eq_empty_of_forall_notMem fun _ hn => h (lt_of_le_of_lt (mem_cells.mp hn).1
    (mem_cells.mp hn).2)

/-- The cells from `a` up to `b` in the slot of `n`, slots being `p` cells apart. -/
def inSlot (p a b n : ℤ) : Finset ℤ := (cells a b).filter fun h => h ≡ n [ZMOD p]

theorem mem_inSlot {p a b n h : ℤ} : h ∈ inSlot p a b n ↔ (a ≤ h ∧ h < b) ∧ h ≡ n [ZMOD p] := by
  rw [inSlot, Finset.mem_filter, mem_cells]

/-- One more cell joins its own slot. -/
theorem card_inSlot_succ {p a b : ℤ} (hab : a ≤ b) (n : ℤ) :
    ((inSlot p a (b + 1) n).card : ℤ) =
      (inSlot p a b n).card + if b ≡ n [ZMOD p] then 1 else 0 := by
  have hcells : cells a (b + 1) = insert b (cells a b) := by
    ext h
    simp only [Finset.mem_insert, mem_cells]
    omega
  unfold inSlot
  rw [hcells, Finset.filter_insert]
  split
  case isTrue h =>
    have hb : b ∉ (cells a b).filter fun m => m ≡ n [ZMOD p] := fun hmem =>
      absurd (mem_cells.mp (Finset.mem_filter.mp hmem).1).2 (lt_irrefl b)
    rw [Finset.card_insert_of_notMem hb, Nat.cast_succ]
  case isFalse h => rw [add_zero]

/-- A cell is in the slot of one number below the period. -/
theorem sum_ite_slot {p : ℤ} (hp : 0 < p) {M : Type*} [AddCommMonoid M] (h : ℤ) (x : M) :
    (∑ n ∈ cells 0 p, if h ≡ n [ZMOD p] then x else 0) = x := by
  have hmem : h % p ∈ cells 0 p :=
    mem_cells.mpr ⟨Int.emod_nonneg _ (ne_of_gt hp), Int.emod_lt_of_pos _ hp⟩
  rw [Finset.sum_eq_single_of_mem _ hmem]
  · rw [if_pos (Int.mod_modEq h p).symm]
  · intro n hn hne
    obtain ⟨h₁, h₂⟩ := mem_cells.mp hn
    rw [if_neg fun hmod => hne ?_]
    rw [Int.ModEq, Int.emod_eq_of_lt h₁ h₂] at hmod
    exact hmod.symm

/-- The slots share the cells out among them. -/
theorem sum_inSlot {p : ℤ} (hp : 0 < p) (a b : ℤ) :
    ∑ n ∈ cells 0 p, ((inSlot p a b n).card : ℤ) = max 0 (b - a) := by
  have hcard : ∀ n, ((inSlot p a b n).card : ℤ) =
      ∑ h ∈ cells a b, if h ≡ n [ZMOD p] then (1 : ℤ) else 0 := by
    intro n
    rw [inSlot, Finset.card_filter, Nat.cast_sum]
    exact Finset.sum_congr rfl fun _ _ => by split <;> rfl
  calc ∑ n ∈ cells 0 p, ((inSlot p a b n).card : ℤ)
      = ∑ h ∈ cells a b, ∑ n ∈ cells 0 p, if h ≡ n [ZMOD p] then (1 : ℤ) else 0 := by
        rw [Finset.sum_comm]
        exact Finset.sum_congr rfl fun n _ => hcard n
    _ = ∑ _h ∈ cells a b, (1 : ℤ) := Finset.sum_congr rfl fun h _ => sum_ite_slot hp h 1
    _ = max 0 (b - a) := by
        rw [Finset.sum_const, nsmul_eq_mul, mul_one, card_cells, Int.toNat_eq_max, max_comm]

/-- What a list holds for the cells of a slot from `a` up to `b`. -/
def sumInSlot {M : Type*} [AddMonoid M] (p a b n : ℤ) (xs : List (ℤ × M)) : M :=
  ((xs.filter fun x => x.1 ∈ inSlot p a b n).map Prod.snd).sum

theorem sumInSlot_cons {M : Type*} [AddMonoid M] (p a b n : ℤ) (x : ℤ × M) (xs : List (ℤ × M)) :
    sumInSlot p a b n (x :: xs) =
      (if x.1 ∈ inSlot p a b n then x.2 else 0) + sumInSlot p a b n xs := by
  unfold sumInSlot
  by_cases h : x.1 ∈ inSlot p a b n
  · rw [List.filter_cons_of_pos (by simpa using h), if_pos h, List.map_cons, List.sum_cons]
  · rw [List.filter_cons_of_neg (by simpa using h), if_neg h, zero_add]

/-- The slots share what a list holds out among them. -/
theorem sum_sumInSlot {p : ℤ} (hp : 0 < p) {M : Type*} [AddCommMonoid M] (a b : ℤ)
    (xs : List (ℤ × M)) :
    ∑ n ∈ cells 0 p, sumInSlot p a b n xs =
      ((xs.filter fun x => a ≤ x.1 ∧ x.1 < b).map Prod.snd).sum := by
  induction xs with
  | nil => exact Finset.sum_const_zero
  | cons x xs ih =>
    simp only [sumInSlot_cons, Finset.sum_add_distrib, ih]
    by_cases h : a ≤ x.1 ∧ x.1 < b
    · rw [List.filter_cons_of_pos (by simpa using h), List.map_cons, List.sum_cons]
      simp only [mem_inSlot, h, true_and, sum_ite_slot hp]
    · rw [List.filter_cons_of_neg (by simpa using h)]
      have hzero : ∀ n ∈ cells 0 p, (if x.1 ∈ inSlot p a b n then x.2 else 0) = 0 :=
        fun n _ => if_neg fun hmem => h (mem_inSlot.mp hmem).1
      rw [Finset.sum_eq_zero hzero, zero_add]

/-- What a list holds for one cell. -/
def sumAt {M : Type*} [AddMonoid M] (h : ℤ) (xs : List (ℤ × M)) : M :=
  ((xs.filter fun x => x.1 = h).map Prod.snd).sum

theorem sumAt_append {M : Type*} [AddMonoid M] (h : ℤ) (xs ys : List (ℤ × M)) :
    sumAt h (xs ++ ys) = sumAt h xs + sumAt h ys := by
  rw [sumAt, List.filter_append, List.map_append, List.sum_append]
  rfl

/-- A slot holds what its cells hold. -/
theorem sumInSlot_eq {M : Type*} [AddCommMonoid M] (p a b n : ℤ) (xs : List (ℤ × M)) :
    sumInSlot p a b n xs = ∑ h ∈ inSlot p a b n, sumAt h xs := by
  induction xs with
  | nil => exact Finset.sum_const_zero.symm
  | cons x xs ih =>
    have hcons : ∀ h, sumAt h (x :: xs) = (if x.1 = h then x.2 else 0) + sumAt h xs := by
      intro h
      rw [← List.singleton_append, sumAt_append]
      by_cases hx : x.1 = h <;> simp [sumAt, hx]
    simp only [hcons, sumInSlot_cons, Finset.sum_add_distrib, ih, Finset.sum_ite_eq]

/-- A slot that holds anything has a cell. -/
theorem card_inSlot_pos {M : Type*} [AddMonoid M] {p a b n : ℤ} {xs : List (ℤ × M)}
    (h : sumInSlot p a b n xs ≠ 0) : 0 < (inSlot p a b n).card := by
  by_contra hcard
  have hempty : inSlot p a b n = ∅ := Finset.card_eq_zero.mp (by omega)
  refine h ?_
  simp [sumInSlot, hempty]

end AEControl.Grid
