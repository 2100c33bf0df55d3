/-
  Rounding to nearest, ties to even: to an integer, and to a double.

  A double near `x` is a multiple of a power of two (`ulp`), so rounding to one is rounding the
  quotient to an integer (`nearestDouble`).  An integer of 53 bits is a multiple of that power for
  every smaller number, so rounding does not pass it (`nearestDouble_le`).
-/
import Mathlib.Algebra.Order.Field.Power
import Mathlib.Data.Int.Log
import Mathlib.Data.Rat.Floor
import Mathlib.Tactic.Linarith
import Mathlib.Tactic.NormNum

namespace AEControl.Rounding

/-! ## To an integer -/

/-- The integer nearest to `x`, the even one of two. -/
def roundHalfEven (x : ℚ) : ℤ :=
  let rest := x - x.floor
  if rest < 1 / 2 then x.floor
  else if 1 / 2 < rest then x.floor + 1
  else if x.floor % 2 = 0 then x.floor else x.floor + 1

/-- The result is the floor, or the next integer where something was left over. -/
theorem roundHalfEven_cases (x : ℚ) :
    roundHalfEven x = x.floor ∨ (roundHalfEven x = x.floor + 1 ∧ (x.floor : ℚ) < x) := by
  unfold roundHalfEven
  dsimp only
  split_ifs with hdown hup heven
  · exact .inl rfl
  · exact .inr ⟨rfl, by linarith⟩
  · exact .inl rfl
  · exact .inr ⟨rfl, by linarith⟩

/-- Rounding passes no integer upwards … -/
theorem roundHalfEven_le {x : ℚ} {n : ℤ} (h : x ≤ n) : roundHalfEven x ≤ n := by
  rcases roundHalfEven_cases x with hx | ⟨hx, hlt⟩
  · rw [hx]
    exact Int.cast_le.mp ((Rat.floor_le x).trans h)
  · have hfloor : x.floor < n := Int.cast_lt.mp (hlt.trans_le h)
    omega

/-- … nor downwards. -/
theorem le_roundHalfEven {x : ℚ} {n : ℤ} (h : (n : ℚ) ≤ x) : n ≤ roundHalfEven x := by
  have hfloor : n ≤ x.floor := Rat.le_floor_iff.mpr h
  rcases roundHalfEven_cases x with hx | ⟨hx, -⟩
  · omega
  · omega

/-- The result is at most a half away. -/
theorem roundHalfEven_close (x : ℚ) : |(roundHalfEven x : ℚ) - x| ≤ 1 / 2 := by
  have hle := Rat.floor_le x
  have hlt := Rat.lt_floor_add_one x
  push_cast at hlt
  unfold roundHalfEven
  dsimp only
  split_ifs <;> rw [abs_le] <;> push_cast <;> constructor <;> linarith

/-! ## To a double -/

/-- The exponent of the last of 53 bits of `x`; below the normal numbers it stays. -/
def ulpExponent (x : ℚ) : ℤ := max (Int.log 2 |x| - 52) (-1074)

/-- The spacing of the doubles around `x`, a power of two. -/
def ulp (x : ℚ) : ℚ :=
  ((2 ^ (ulpExponent x).toNat : ℕ) : ℚ) / ((2 ^ (-ulpExponent x).toNat : ℕ) : ℚ)

/-- The double nearest to `x`, while it is in their range. -/
def nearestDouble (x : ℚ) : ℚ := roundHalfEven (x / ulp x) * ulp x

theorem ulp_pos (x : ℚ) : 0 < ulp x :=
  div_pos (Nat.cast_pos.mpr (Nat.two_pow_pos _)) (Nat.cast_pos.mpr (Nat.two_pow_pos _))

/-- What is at most an integer of 53 bits has its last bit at the units or below. -/
theorem ulpExponent_nonpos {x : ℚ} {n : ℕ} (hn : n < 2 ^ 53) (hx : |x| ≤ n) :
    ulpExponent x ≤ 0 := by
  refine max_le ?_ (by norm_num)
  rcases (abs_nonneg x).eq_or_lt with hzero | hpos
  · rw [← hzero, Int.log_zero_right]
    norm_num
  · have hmono : Int.log 2 |x| ≤ Int.log 2 (n : ℚ) := Int.log_mono_right hpos hx
    have hbits : Nat.log 2 n < 53 := Nat.log_lt_of_lt_pow' (by norm_num) hn
    rw [Int.log_natCast] at hmono
    omega

/-- An integer is a multiple of the spacing where the last bit is at the units or below. -/
theorem cast_div_ulp {x : ℚ} (h : ulpExponent x ≤ 0) (n : ℕ) :
    (n : ℚ) / ulp x = ((n * 2 ^ (-ulpExponent x).toNat : ℕ) : ℚ) := by
  have hnum : (ulpExponent x).toNat = 0 := Int.toNat_eq_zero.mpr h
  rw [ulp, hnum, pow_zero, Nat.cast_one, div_div_eq_mul_div, div_one, Nat.cast_mul]

/-- Rounding does not pass an integer of 53 bits. -/
theorem nearestDouble_le {x : ℚ} {n : ℕ} (hn : n < 2 ^ 53) (hnonneg : 0 ≤ x) (hx : x ≤ n) :
    nearestDouble x ≤ n := by
  have he := ulpExponent_nonpos hn (by rwa [abs_of_nonneg hnonneg])
  have hquotient : x / ulp x ≤ ((n * 2 ^ (-ulpExponent x).toNat : ℕ) : ℤ) := by
    rw [Int.cast_natCast, ← cast_div_ulp he]
    exact div_le_div_of_nonneg_right hx (ulp_pos x).le
  have hround : (roundHalfEven (x / ulp x) : ℚ) ≤ (n : ℚ) / ulp x := by
    rw [cast_div_ulp he, ← Int.cast_natCast]
    exact Int.cast_le.mpr (roundHalfEven_le hquotient)
  exact (le_div_iff₀ (ulp_pos x)).mp hround

theorem nearestDouble_nonneg {x : ℚ} (hx : 0 ≤ x) : 0 ≤ nearestDouble x := by
  have hquotient : ((0 : ℤ) : ℚ) ≤ x / ulp x := by
    rw [Int.cast_zero]
    exact div_nonneg hx (ulp_pos x).le
  exact mul_nonneg (Int.cast_nonneg (le_roundHalfEven hquotient)) (ulp_pos x).le

/-- A third of a hundred is not a double. -/
example : nearestDouble (100 / 3) = 4691249611844267 / 140737488355328 := by decide +kernel

end AEControl.Rounding
