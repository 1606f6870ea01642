/-
  Arithmetic in a decimal context: the exact result of an operation is rounded to the
  digits of the context, and `decimal.Overflow` is trapped.
-/
import ChartingPlatform.Lib.Outcome
import ChartingPlatform.Lib.Rounding

namespace Lib

/-- How the exact result of an operation is rounded. -/
abbrev Arithmetic := ℚ → Except PyError ℚ

def exactly : Arithmetic := .ok

@[simp] theorem exactly_apply (x : ℚ) : exactly x = .ok x := rfl

/-- The digits of a context, the exponent of the last digit that it has, and that of the
first. -/
structure DecimalContext where
  digits : ℕ
  least : ℤ
  greatest : ℤ
  digits_pos : 1 ≤ digits
  greatest_nonneg : 0 ≤ greatest

namespace DecimalContext

variable (c : DecimalContext)

/-- A number with the digits that the context keeps. -/
def value (x : ℚ) : ℚ := roundTo 10 c.digits c.least x

def Fits (x : ℚ) : Prop := Int.log 10 |x| ≤ c.greatest

instance (x : ℚ) : Decidable (c.Fits x) := inferInstanceAs (Decidable (_ ≤ _))

def round : Arithmetic := fun x =>
  if c.Fits (c.value x) then .ok (c.value x)
  else .error ⟨.overflowError, "[<class 'decimal.Overflow'>]"⟩

end DecimalContext

/-- The default context of Python: 28 digits, halves to even. -/
def pythonContext : DecimalContext where
  digits := 28
  least := -1000026
  greatest := 999999
  digits_pos := by decide
  greatest_nonneg := by decide

section
variable {c : DecimalContext} {x y z : ℚ} {n e : ℤ}

namespace DecimalContext

theorem round_eq_ok : c.round x = .ok y ↔ c.Fits (c.value x) ∧ c.value x = y := by
  unfold round
  split_ifs with h
  · simp [h]
  · simp [h]

theorem value_mono (h : x ≤ y) : c.value x ≤ c.value y :=
  roundTo_mono (by decide) c.digits_pos h

theorem value_neg : c.value (-x) = -c.value x := roundTo_neg

theorem abs_value_sub_le (he : c.least ≤ e) (hx : |x| < 10 ^ (e + c.digits)) :
    |c.value x - x| ≤ 10 ^ e / 2 := by
  have hbound : |x| < ((10 : ℕ) : ℚ) ^ (e + (c.digits : ℤ)) := by exact_mod_cast hx
  have herror := abs_roundTo_sub_le (by decide) he hbound
  exact_mod_cast herror

@[simp] theorem value_zero : c.value 0 = 0 := by
  unfold value roundTo
  exact if_pos rfl

theorem value_nonneg (h : 0 ≤ x) : 0 ≤ c.value x := roundTo_nonneg h

theorem fits_zero : c.Fits 0 := by
  unfold Fits
  simpa using c.greatest_nonneg

theorem Fits.of_abs_le (hy : c.Fits y) (h : |x| ≤ |y|) : c.Fits x := by
  rcases eq_or_ne x 0 with rfl | hx
  · exact fits_zero
  · exact (Int.log_mono_right (abs_pos.2 hx) h).trans hy

theorem Fits.of_mem_Icc (hx : c.Fits x) (hz : c.Fits z) (hxy : x ≤ y) (hyz : y ≤ z) :
    c.Fits y := by
  rcases le_total 0 y with hy | hy
  · refine hz.of_abs_le ?_
    rw [abs_of_nonneg hy, abs_of_nonneg (hy.trans hyz)]
    exact hyz
  · refine hx.of_abs_le ?_
    rw [abs_of_nonpos hy, abs_of_nonpos (hxy.trans hy)]
    exact neg_le_neg hxy

theorem log_lt_of_short {digits : ℕ} (hn0 : n ≠ 0) (hn : |n| < 10 ^ digits) :
    Int.log 10 |(n : ℚ) * 10 ^ e| < digits + e := by
  have hx : (n : ℚ) * 10 ^ e ≠ 0 :=
    mul_ne_zero (by exact_mod_cast hn0) (zpow_ne_zero e (by norm_num))
  have habs : |(n : ℚ) * 10 ^ e| = |n| * 10 ^ e := by
    rw [abs_mul, abs_of_pos (zpow_pos (by norm_num : (0 : ℚ) < 10) e), Int.cast_abs]
  have hlt : |(n : ℚ) * 10 ^ e| < (10 : ℚ) ^ (digits + e) := by
    rw [habs, zpow_add₀ (by norm_num), zpow_natCast]
    refine mul_lt_mul_of_pos_right ?_ (zpow_pos (by norm_num) e)
    exact_mod_cast hn
  exact (Int.lt_zpow_iff_log_lt (by decide) (abs_pos.2 hx)).1 (by exact_mod_cast hlt)

theorem fits_of_short (hn : |n| < 10 ^ c.digits) (he : c.digits + e ≤ c.greatest + 1) :
    c.Fits (n * 10 ^ e) := by
  rcases eq_or_ne n 0 with rfl | hn0
  · rw [Int.cast_zero, zero_mul]
    exact fits_zero
  · have := log_lt_of_short (e := e) hn0 hn
    unfold Fits
    omega

/-- **A number with few enough digits** is kept. -/
theorem value_of_short (hn : |n| < 10 ^ c.digits) (he : c.least ≤ e) :
    c.value (n * 10 ^ e) = n * 10 ^ e := by
  rcases eq_or_ne n 0 with rfl | hn0
  · simp
  have hx : (n : ℚ) * 10 ^ e ≠ 0 :=
    mul_ne_zero (by exact_mod_cast hn0) (zpow_ne_zero e (by norm_num))
  have hlog := log_lt_of_short (e := e) hn0 hn
  have hlast : lastDigit 10 c.digits c.least ((n : ℚ) * 10 ^ e) ≤ e := by
    unfold lastDigit
    omega
  obtain ⟨k, hk⟩ := Int.le.dest hlast
  unfold value roundTo
  rw [if_neg hx]
  generalize lastDigit 10 c.digits c.least ((n : ℚ) * 10 ^ e) = d at hk
  -- the number is a multiple of the last digit that is kept
  have hmul : (n : ℚ) * 10 ^ e = ((n * 10 ^ k : ℤ) : ℚ) * ((10 : ℕ) : ℚ) ^ d := by
    rw [← hk, zpow_add₀ (by norm_num), zpow_natCast]
    push_cast
    ring
  rw [hmul]
  exact roundAt_mul (zpow_ne_zero d (by norm_num))

@[simp] theorem value_value : c.value (c.value x) = c.value x := by
  by_cases hx : x = 0
  · rw [hx, value_zero, value_zero]
  have hbase : (0 : ℚ) < ((10 : ℕ) : ℚ) := by norm_num
  have hvalue : c.value x = roundAt (((10 : ℕ) : ℚ) ^ lastDigit 10 c.digits c.least x) x := by
    unfold value roundTo
    rw [if_neg hx]
  have hleast : c.least ≤ lastDigit 10 c.digits c.least x := le_max_right _ _
  have hlast : Int.log 10 |x| + 1 - c.digits ≤ lastDigit 10 c.digits c.least x := le_max_left _ _
  rw [hvalue]
  generalize lastDigit 10 c.digits c.least x = d at hleast hlast
  -- the digits that are kept are a whole number of the last one
  have hbound : |x / ((10 : ℕ) : ℚ) ^ d| ≤ ((10 ^ c.digits : ℤ) : ℚ) := by
    rw [abs_div, abs_of_pos (zpow_pos hbase d), div_le_iff₀ (zpow_pos hbase d)]
    calc |x| ≤ ((10 : ℕ) : ℚ) ^ (Int.log 10 |x| + 1) :=
          (Int.lt_zpow_succ_log_self (by decide) |x|).le
      _ ≤ ((10 : ℕ) : ℚ) ^ (c.digits + d) := zpow_le_zpow_right₀ (by norm_num) (by omega)
      _ = ((10 ^ c.digits : ℤ) : ℚ) * ((10 : ℕ) : ℚ) ^ d := by
          rw [zpow_add₀ hbase.ne', zpow_natCast]
          push_cast
          rfl
  obtain ⟨hlower, hupper⟩ := abs_le.1 hbound
  have hround : |roundHalfEven (x / ((10 : ℕ) : ℚ) ^ d)| ≤ 10 ^ c.digits := by
    rw [abs_le]
    constructor
    · have := roundHalfEven_mono hlower
      rwa [← Int.cast_neg, roundHalfEven_intCast] at this
    · have := roundHalfEven_mono hupper
      rwa [roundHalfEven_intCast] at this
  unfold roundAt
  generalize roundHalfEven (x / ((10 : ℕ) : ℚ) ^ d) = n at hround
  rw [show (((10 : ℕ) : ℚ)) = 10 by norm_num]
  rcases hround.lt_or_eq with hlt | heq
  · exact value_of_short hlt hleast
  · -- a power of ten has one digit
    have hdigits := c.digits_pos
    have hone : (1 : ℤ) < 10 ^ c.digits := one_lt_pow₀ (by norm_num) (by omega)
    have hshift : (10 : ℚ) ^ (c.digits + d) = 10 ^ c.digits * 10 ^ d := by
      rw [zpow_add₀ (by norm_num), zpow_natCast]
    rcases (abs_eq (by positivity)).1 heq with hpos | hneg
    · have := @value_of_short c 1 (c.digits + d) (by simpa using hone) (by omega)
      rw [hpos]
      push_cast at this ⊢
      rwa [one_mul, hshift] at this
    · have := @value_of_short c (-1) (c.digits + d) (by simpa using hone) (by omega)
      rw [hneg]
      push_cast at this ⊢
      rwa [neg_one_mul, hshift, ← neg_mul] at this

end DecimalContext

end

end Lib
