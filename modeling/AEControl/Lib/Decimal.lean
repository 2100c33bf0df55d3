/-
  Decimal literals: the numbers in a JSON text, `float.__repr__`, and PostgreSQL's `numeric`.

  A literal is a sign, the digits on both sides of the point and an exponent, and is read off its
  text (`read_text`).  A `numeric` is an exact decimal with its scale; it prints as a literal with
  no exponent, and that literal denotes the same `numeric` (`Numeric.numeric_literal`).

  The shortest digits of a float are printed with an exponent from `1e16` on.  The crux is
  `Shortest.scale_eq_zero_iff`: these are exactly the floats whose `numeric` has no digit behind the
  point.
-/
import Mathlib.Algebra.Order.Field.Rat
import Mathlib.Data.List.TakeWhile
import Mathlib.Tactic.FieldSimp
import Mathlib.Tactic.Positivity
import Mathlib.Tactic.NormNum

namespace AEControl.Decimal

/-! ## Literals -/

/-- A decimal literal, taken apart. -/
structure Literal where
  negative : Bool
  integer : List Char
  fraction : List Char
  exponent : Option ℤ
  deriving DecidableEq

/-- An exponent with its sign and at least two digits. -/
def exponentText (e : ℤ) : List Char :=
  (if e < 0 then '-' else '+') :: (Nat.toDigits 10 e.natAbs).leftpad 2 '0'

namespace Literal

/-- The text of a literal; a point stands before a fraction only. -/
def text (l : Literal) : List Char :=
  (if l.negative then ['-'] else []) ++ (l.integer ++
    (if l.fraction = [] then [] else '.' :: l.fraction) ++
    match l.exponent with
    | none => []
    | some e => 'e' :: exponentText e)

/-- There is a digit before the point, and there are digits only. -/
structure Valid (l : Literal) : Prop where
  integer_ne : l.integer ≠ []
  integer_digits : ∀ c ∈ l.integer, c.isDigit = true
  fraction_digits : ∀ c ∈ l.fraction, c.isDigit = true

end Literal

/-- The number behind an `e`. -/
def readExponent : List Char → ℤ
  | '-' :: ds => -(Nat.ofDigitChars 10 ds 0 : ℤ)
  | '+' :: ds => Nat.ofDigitChars 10 ds 0
  | ds => Nat.ofDigitChars 10 ds 0

/-- The literal with a text. -/
def read (t : List Char) : Literal :=
  let body := if t.head? = some '-' then t.tail else t
  let mantissa := body.takeWhile (· ≠ 'e')
  { negative := t.head? = some '-'
    integer := mantissa.takeWhile (· ≠ '.')
    fraction := (mantissa.dropWhile (· ≠ '.')).tail
    exponent := match body.dropWhile (· ≠ 'e') with
      | [] => none
      | _ :: e => some (readExponent e) }

/-- A digit is no other character. -/
theorem ne_of_isDigit {c d : Char} (h : c.isDigit = true) (hd : d.isDigit = false) : c ≠ d := by
  rintro rfl
  rw [hd] at h
  cases h

/-- Zeros on the left do not count. -/
theorem ofDigitChars_leftpad (k n : ℕ) :
    Nat.ofDigitChars 10 ((Nat.toDigits 10 n).leftpad k '0') 0 = n := by
  rw [List.leftpad, Nat.ofDigitChars_append, Nat.ofDigitChars_replicate_zero, Nat.mul_zero,
    Nat.ofDigitChars_ten_toDigits]

/-- A printed exponent is read back. -/
theorem readExponent_text (e : ℤ) : readExponent (exponentText e) = e := by
  unfold exponentText
  split_ifs with hneg
  · rw [readExponent, ofDigitChars_leftpad]
    omega
  · rw [readExponent, ofDigitChars_leftpad]
    omega

/-- A text is cut where its second part begins. -/
theorem cut_append {p : Char → Bool} {a b : List Char} (ha : ∀ c ∈ a, p c = true)
    (hb : ∀ c cs, b = c :: cs → p c = false) :
    (a ++ b).takeWhile p = a ∧ (a ++ b).dropWhile p = b := by
  rw [List.takeWhile_append_of_pos ha, List.dropWhile_append_of_pos ha]
  cases b with
  | nil => simp
  | cons c cs =>
    have hc := hb c cs rfl
    simp [hc]

namespace Literal

variable {l : Literal}

/-- The digits with the point. -/
def mantissa (l : Literal) : List Char :=
  l.integer ++ (if l.fraction = [] then [] else '.' :: l.fraction)

/-- The exponent with its `e`. -/
def suffix (l : Literal) : List Char :=
  match l.exponent with
  | none => []
  | some e => 'e' :: exponentText e

/-- A literal is its sign, its mantissa and its suffix. -/
theorem text_eq (l : Literal) :
    l.text = (if l.negative then ['-'] else []) ++ (l.mantissa ++ l.suffix) := rfl

namespace Valid

/-- The mantissa has no exponent mark. -/
theorem mantissa_ne (h : l.Valid) : ∀ c ∈ l.mantissa, decide (c ≠ 'e') = true := by
  intro c hc
  unfold mantissa at hc
  refine decide_eq_true ?_
  rcases List.mem_append.mp hc with hc | hc
  · exact ne_of_isDigit (h.integer_digits c hc) (by decide)
  · split_ifs at hc
    · cases hc
    · rcases List.mem_cons.mp hc with rfl | hc
      · decide
      · exact ne_of_isDigit (h.fraction_digits c hc) (by decide)

/-- The first exponent mark ends the mantissa. -/
theorem cut_suffix (h : l.Valid) : (l.mantissa ++ l.suffix).takeWhile (· ≠ 'e') = l.mantissa ∧
    (l.mantissa ++ l.suffix).dropWhile (· ≠ 'e') = l.suffix := by
  refine cut_append h.mantissa_ne fun c cs hcs => ?_
  unfold suffix at hcs
  split at hcs
  · cases hcs
  · obtain ⟨rfl, -⟩ := List.cons.inj hcs
    rfl

/-- The point of the mantissa, if there is one, ends the integer. -/
theorem cut_mantissa (h : l.Valid) : l.mantissa.takeWhile (· ≠ '.') = l.integer ∧
    l.mantissa.dropWhile (· ≠ '.') = if l.fraction = [] then [] else '.' :: l.fraction := by
  refine cut_append
    (fun c hc => decide_eq_true (ne_of_isDigit (h.integer_digits c hc) (by decide)))
    fun c cs hcs => ?_
  split_ifs at hcs
  obtain ⟨rfl, -⟩ := List.cons.inj hcs
  rfl

/-- The first digit is no sign. -/
theorem head_ne (h : l.Valid) : (l.mantissa ++ l.suffix).head? ≠ some '-' := by
  obtain ⟨c, cs, hinteger⟩ := List.exists_cons_of_ne_nil h.integer_ne
  have hc : c.isDigit = true := h.integer_digits c (by rw [hinteger]; exact List.mem_cons_self)
  unfold mantissa
  simp only [hinteger, List.cons_append, List.head?_cons, ne_eq, Option.some.injEq]
  exact ne_of_isDigit hc (by decide)

/-- The sign is read off the first character. -/
theorem head_text (h : l.Valid) : decide (l.text.head? = some '-') = l.negative := by
  rw [text_eq]
  cases l.negative with
  | false => simpa using h.head_ne
  | true => rfl

/-- The rest of the numeral stands behind its sign. -/
theorem body_text (h : l.Valid) :
    (if l.text.head? = some '-' then l.text.tail else l.text) = l.mantissa ++ l.suffix := by
  rw [text_eq]
  cases l.negative with
  | false => rw [if_neg Bool.false_ne_true, List.nil_append, if_neg h.head_ne]
  | true => rfl

end Valid

end Literal

/-- **Literals are read off their texts.** -/
theorem read_text {l : Literal} (h : l.Valid) : read l.text = l := by
  unfold read
  simp only [h.body_text, h.head_text, h.cut_suffix.1, h.cut_suffix.2, h.cut_mantissa.1,
    h.cut_mantissa.2]
  obtain ⟨negative, integer, fraction, exponent⟩ := l
  congr 1
  · -- no point stands for no fraction
    split_ifs with hnil
    · exact hnil.symm
    · rfl
  · cases exponent with
    | none => rfl
    | some e => exact congrArg some (readExponent_text e)

/-! ## Exact decimals -/

/-- A `numeric`: `coefficient / 10 ^ scale`, with `scale` digits behind the point. -/
@[ext] structure Numeric where
  coefficient : ℤ
  scale : ℕ
  deriving DecidableEq

/-- The number it is. -/
def Numeric.value (n : Numeric) : ℚ := n.coefficient / 10 ^ n.scale

/-- `numeric_in`: an exponent moves the point, and no digit is lost. -/
def Literal.numeric (l : Literal) : Numeric :=
  let e := l.exponent.getD 0
  let magnitude : ℤ := (Nat.ofDigitChars 10 (l.integer ++ l.fraction) 0 *
    10 ^ (e - l.fraction.length).toNat : ℕ)
  ⟨if l.negative then -magnitude else magnitude, (l.fraction.length - e).toNat⟩

namespace Numeric

/-- The digits `numeric_out` prints: one at least before the point. -/
def digits (n : Numeric) : List Char :=
  (Nat.toDigits 10 n.coefficient.natAbs).leftpad (n.scale + 1) '0'

/-- `numeric_out`. -/
def literal (n : Numeric) : Literal where
  negative := n.coefficient < 0
  integer := n.digits.take (n.digits.length - n.scale)
  fraction := n.digits.drop (n.digits.length - n.scale)
  exponent := none

variable (n : Numeric)

/-- A numeral has a digit before its point. -/
theorem scale_lt_length : n.scale < n.digits.length := by
  unfold digits
  rw [List.length_leftpad]
  omega

/-- A numeral has as many digits behind its point as its scale says. -/
theorem length_fraction : n.literal.fraction.length = n.scale := by
  have := n.scale_lt_length
  unfold literal
  rw [List.length_drop]
  omega

/-- The digits of a numeral are digits. -/
theorem isDigit_digits {c : Char} (hc : c ∈ n.digits) : c.isDigit = true := by
  unfold digits List.leftpad at hc
  rcases List.mem_append.mp hc with hc | hc
  · rw [List.eq_of_mem_replicate hc]
    rfl
  · exact Nat.isDigit_of_mem_toDigits (by decide) (by decide) hc

/-- The literal of a numeral is valid. -/
theorem literal_valid : n.literal.Valid where
  integer_ne := by
    have := n.scale_lt_length
    intro h
    have hlen := congrArg List.length h
    simp only [literal, List.length_take, List.length_nil] at hlen
    omega
  integer_digits _ hc := n.isDigit_digits (List.mem_of_mem_take hc)
  fraction_digits _ hc := n.isDigit_digits (List.mem_of_mem_drop hc)

/-- **A printed `numeric` is read back with its scale.** -/
theorem numeric_literal : n.literal.numeric = n := by
  have hlen := n.length_fraction
  have hdigits : n.literal.integer ++ n.literal.fraction = n.digits := List.take_append_drop _ _
  have hvalue : Nat.ofDigitChars 10 n.digits 0 = n.coefficient.natAbs := ofDigitChars_leftpad _ _
  have hexponent : n.literal.exponent = none := rfl
  have hnegative : n.literal.negative = decide (n.coefficient < 0) := rfl
  unfold Literal.numeric
  simp only [hdigits, hvalue, hlen, hexponent, hnegative, Option.getD_none]
  ext
  · simp only [decide_eq_true_eq]
    rw [show ((0 : ℤ) - n.scale).toNat = 0 by omega, pow_zero, Nat.mul_one]
    split_ifs <;> omega
  · show ((n.scale : ℤ) - 0).toNat = n.scale
    omega

/-- **A printed numeral is read back as itself.** -/
theorem read_literal : (read n.literal.text).numeric = n := by
  rw [read_text n.literal_valid, numeric_literal]

end Numeric

/-- `int.__str__` prints an integer as `numeric_out` does. -/
theorem repr_eq_text (n : ℤ) : n.repr.toList = (Numeric.mk n 0).literal.text := by
  have hdigits : (Numeric.mk n 0).digits = Nat.toDigits 10 n.natAbs := by
    have hpos := Nat.length_toDigits_pos (b := 10) (n := n.natAbs)
    rw [Numeric.digits, List.leftpad, show 0 + 1 - (Nat.toDigits 10 n.natAbs).length = 0 by omega]
    rfl
  have hliteral : (Numeric.mk n 0).literal =
      ⟨decide (n < 0), Nat.toDigits 10 n.natAbs, [], none⟩ := by
    simp [Numeric.literal, hdigits]
  rw [hliteral]
  cases n with
  | ofNat m => simp [Int.repr, Literal.text, Nat.toList_repr]
  | negSucc m =>
    have hneg : decide (Int.negSucc m < 0) = true := decide_eq_true (Int.negSucc_lt_zero m)
    rw [hneg]
    simp [Int.repr, Literal.text, Nat.toList_repr]

/-! ## The shortest digits of a float -/

/-- The digits `d₁d₂…` of the float `0.d₁d₂… · 10 ^ point`, as the interpreter finds them. -/
structure Shortest where
  negative : Bool
  digits : List Char
  point : ℤ
  digits_ne : digits ≠ []
  isDigit : ∀ c ∈ digits, c.isDigit = true
  length_le : digits.length ≤ 17
  /-- No digit is superfluous; zero is `0 · 10 ^ 1`. -/
  normal : (digits.head? ≠ some '0' ∧ digits.getLast? ≠ some '0') ∨ (digits = ['0'] ∧ point = 1)

namespace Shortest

/-- `float.__repr__`: a fraction where the point is near the digits, else an exponent. -/
def literal (s : Shortest) : Literal :=
  if -4 < s.point ∧ s.point ≤ 16 then
    if s.point ≤ 0 then ⟨s.negative, ['0'], List.replicate (-s.point).toNat '0' ++ s.digits, none⟩
    else
      let padded := s.digits.rightpad (s.point.toNat + 1) '0'
      ⟨s.negative, padded.take s.point.toNat, padded.drop s.point.toNat, none⟩
  else ⟨s.negative, s.digits.take 1, s.digits.drop 1, some (s.point - 1)⟩

/-- What the float is. -/
def value (s : Shortest) : ℚ := s.literal.numeric.value

end Shortest

/-- So many digits stay below that power of ten. -/
theorem ofDigitChars_lt {ds : List Char} (h : ∀ c ∈ ds, c.isDigit = true) :
    Nat.ofDigitChars 10 ds 0 < 10 ^ ds.length := by
  induction ds with
  | nil => simp
  | cons c ds ih =>
    have hc : c.toNat - '0'.toNat ≤ 9 := by
      have := h c List.mem_cons_self
      simp only [Char.isDigit, Bool.and_eq_true, decide_eq_true_eq] at this
      have hle : c.toNat ≤ 57 := this.2
      have h0 : '0'.toNat = 48 := rfl
      omega
    have ih := ih fun d hd => h d (List.mem_cons_of_mem _ hd)
    rw [Nat.ofDigitChars_cons, Nat.ofDigitChars_eq_ofDigitChars_zero, Nat.mul_zero, Nat.zero_add,
      List.length_cons, pow_succ]
    calc 10 ^ ds.length * (c.toNat - '0'.toNat) + Nat.ofDigitChars 10 ds 0
        ≤ 10 ^ ds.length * 9 + Nat.ofDigitChars 10 ds 0 :=
          Nat.add_le_add_right (Nat.mul_le_mul_left _ hc) _
      _ < 10 ^ ds.length * 9 + 10 ^ ds.length := Nat.add_lt_add_left ih _
      _ = 10 ^ ds.length * 10 := by omega

/-- A number is as long as its digits if the first one is not zero. -/
theorem le_ofDigitChars {c : Char} {ds : List Char} (hc : c.isDigit = true) (hne : c ≠ '0') :
    10 ^ ds.length ≤ Nat.ofDigitChars 10 (c :: ds) 0 := by
  have hpos : 1 ≤ c.toNat - '0'.toNat := by
    simp only [Char.isDigit, Bool.and_eq_true, decide_eq_true_eq] at hc
    have hge : 48 ≤ c.toNat := hc.1
    have h0 : '0'.toNat = 48 := rfl
    have hne : c.toNat ≠ '0'.toNat := fun h => hne (Char.toNat_inj.mp h)
    omega
  rw [Nat.ofDigitChars_cons, Nat.ofDigitChars_eq_ofDigitChars_zero, Nat.mul_zero, Nat.zero_add]
  exact le_trans (Nat.le_mul_of_pos_right _ hpos) (Nat.le_add_right _ _)

/-- The coefficient of a literal, by its digits. -/
theorem Literal.natAbs_coefficient (l : Literal) : l.numeric.coefficient.natAbs =
    Nat.ofDigitChars 10 (l.integer ++ l.fraction) 0 *
      10 ^ (l.exponent.getD 0 - l.fraction.length).toNat := by
  unfold Literal.numeric
  simp only
  split_ifs
  · rw [Int.natAbs_neg, Int.natAbs_natCast]
  · rw [Int.natAbs_natCast]

/-- A number that is not zero has the sign of its literal. -/
theorem Literal.coefficient_neg_iff (l : Literal) (h : l.numeric.coefficient ≠ 0) :
    l.numeric.coefficient < 0 ↔ l.negative = true := by
  unfold Literal.numeric at h ⊢
  simp only at h ⊢
  generalize Nat.ofDigitChars 10 (l.integer ++ l.fraction) 0 *
    10 ^ (l.exponent.getD 0 - l.fraction.length).toNat = magnitude at h ⊢
  split_ifs at h ⊢ with hnegative
  · exact iff_of_true (by omega) hnegative
  · exact iff_of_false (by omega) hnegative

/-- The absolute value is that of the coefficient, scaled. -/
theorem Numeric.abs_value (n : Numeric) : |n.value| = n.coefficient.natAbs / 10 ^ n.scale := by
  have hpow : (0 : ℚ) < 10 ^ n.scale := by positivity
  rw [Numeric.value, abs_div, abs_of_pos hpow, Nat.cast_natAbs, Int.cast_abs]

/-- A number whose point has at most `k` digits before it is less than `10 ^ k`. -/
theorem Literal.abs_value_lt {l : Literal} (h : l.Valid) {k : ℕ}
    (hpoint : l.integer.length + l.exponent.getD 0 ≤ k)
    (hexponent : l.exponent.getD 0 ≤ l.fraction.length) : |l.numeric.value| < 10 ^ k := by
  have hdigits : ∀ c ∈ l.integer ++ l.fraction, c.isDigit = true := by
    intro c hc
    exact (List.mem_append.mp hc).elim (h.integer_digits c) (h.fraction_digits c)
  have hlt := ofDigitChars_lt hdigits
  have hscale : l.numeric.scale = (l.fraction.length - l.exponent.getD 0).toNat := rfl
  have hlen : (l.integer ++ l.fraction).length ≤ k + l.numeric.scale := by
    rw [List.length_append]
    omega
  have habs : l.numeric.coefficient.natAbs < 10 ^ (k + l.numeric.scale) := by
    rw [l.natAbs_coefficient, show (l.exponent.getD 0 - l.fraction.length).toNat = 0 by omega,
      pow_zero, Nat.mul_one]
    exact lt_of_lt_of_le hlt (Nat.pow_le_pow_right (by decide) hlen)
  rw [Numeric.abs_value, div_lt_iff₀ (by positivity), ← pow_add]
  exact_mod_cast habs

namespace Shortest

variable (s : Shortest)

/-- The sign of a short literal is the float's own. -/
theorem literal_negative : s.literal.negative = s.negative := by
  unfold literal
  split_ifs <;> rfl

theorem literal_valid : s.literal.Valid := by
  have hreplicate : ∀ (k : ℕ), ∀ c ∈ List.replicate k '0', c.isDigit = true := by
    intro k c hc
    rw [List.eq_of_mem_replicate hc]
    rfl
  have hpad : ∀ c ∈ s.digits.rightpad (s.point.toNat + 1) '0', c.isDigit = true := by
    intro c hc
    exact (List.mem_append.mp hc).elim (s.isDigit c) (hreplicate _ c)
  unfold literal
  split_ifs with hfixed hsmall
  · refine ⟨by simp, by simp [Char.isDigit], fun c hc => ?_⟩
    exact (List.mem_append.mp hc).elim (hreplicate _ c) (s.isDigit c)
  · refine ⟨fun h => ?_, fun c hc => hpad c (List.mem_of_mem_take hc),
      fun c hc => hpad c (List.mem_of_mem_drop hc)⟩
    have hlen := congrArg List.length h
    simp only [List.length_take, List.length_rightpad, List.length_nil] at hlen
    omega
  · refine ⟨fun h => ?_, fun c hc => s.isDigit c (List.mem_of_mem_take hc),
      fun c hc => s.isDigit c (List.mem_of_mem_drop hc)⟩
    have hlen := congrArg List.length h
    have hpos := List.length_pos_iff.mpr s.digits_ne
    simp only [List.length_take, List.length_nil] at hlen
    omega

/-- A float below `1e16` has a digit behind its point. -/
theorem scale_pos (h : s.point ≤ 16) : 0 < s.literal.numeric.scale ∧ |s.value| < 10 ^ 16 := by
  have hfraction : s.literal.exponent.getD 0 < s.literal.fraction.length ∧
      s.literal.integer.length + s.literal.exponent.getD 0 ≤ 16 := by
    have hpos := List.length_pos_iff.mpr s.digits_ne
    unfold literal
    split_ifs with hfixed hsmall
    · simp only [Option.getD_none, List.length_append, List.length_replicate, List.length_singleton]
      omega
    · simp only [Option.getD_none, List.length_take, List.length_drop, List.length_rightpad]
      omega
    · simp only [Option.getD_some, List.length_take, List.length_drop]
      omega
  have hscale : s.literal.numeric.scale =
      (s.literal.fraction.length - s.literal.exponent.getD 0).toNat := rfl
  exact ⟨by omega, Literal.abs_value_lt s.literal_valid hfraction.2 hfraction.1.le⟩

/-- A float from `1e16` on has none, whatever its digits. -/
theorem scale_zero (h : 16 < s.point) : s.literal.numeric.scale = 0 ∧ 10 ^ 16 ≤ |s.value| := by
  have hliteral : s.literal =
      ⟨s.negative, s.digits.take 1, s.digits.drop 1, some (s.point - 1)⟩ := by
    rw [literal, if_neg (by omega)]
  have hlen := s.length_le
  have hscale : s.literal.numeric.scale = 0 := by
    rw [hliteral]
    show ((s.digits.drop 1).length - (s.point - 1)).toNat = 0
    rw [List.length_drop]
    omega
  refine ⟨hscale, ?_⟩
  -- zero has its point behind its only digit, so the first digit is not zero
  have hfirst : ∃ c ds, s.digits = c :: ds ∧ c ≠ '0' := by
    obtain ⟨c, ds, hds⟩ := List.exists_cons_of_ne_nil s.digits_ne
    refine ⟨c, ds, hds, ?_⟩
    rcases s.normal with ⟨hhead, -⟩ | ⟨-, hpoint⟩
    · rintro rfl
      exact hhead (by rw [hds]; rfl)
    · omega
  obtain ⟨c, ds, hds, hc⟩ := hfirst
  have hge : 10 ^ ds.length ≤ Nat.ofDigitChars 10 (c :: ds) 0 :=
    le_ofDigitChars (s.isDigit c (hds ▸ List.mem_cons_self)) hc
  have habs : 10 ^ 16 ≤ s.literal.numeric.coefficient.natAbs := by
    rw [Literal.natAbs_coefficient, hliteral]
    simp only [Option.getD_some, hds, List.take_succ_cons, List.take_zero, List.drop_succ_cons,
      List.drop_zero, List.cons_append, List.nil_append]
    have hlen : ds.length ≤ 16 := by
      rw [hds, List.length_cons] at hlen
      omega
    calc 10 ^ 16 ≤ 10 ^ (ds.length + (s.point - 1 - ds.length).toNat) :=
          Nat.pow_le_pow_right (by decide) (by omega)
      _ = 10 ^ ds.length * 10 ^ (s.point - 1 - ds.length).toNat := pow_add _ _ _
      _ ≤ _ := Nat.mul_le_mul_right _ hge
  rw [value, Numeric.abs_value, hscale, pow_zero, div_one]
  exact_mod_cast habs

/-- **Which floats lose their point**: those from `1e16` on. -/
theorem scale_eq_zero_iff : s.literal.numeric.scale = 0 ↔ ¬|s.value| < 10 ^ 16 := by
  rcases le_or_gt s.point 16 with h | h
  · obtain ⟨hpos, hlt⟩ := s.scale_pos h
    exact iff_of_false (by omega) (not_not.mpr hlt)
  · obtain ⟨hzero, hge⟩ := s.scale_zero h
    exact iff_of_true hzero (not_lt.mpr hge)

end Shortest

end AEControl.Decimal
