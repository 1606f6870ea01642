/-
  Rounding to significant digits, halves to even: `roundTo` keeps `digits` digits of a number
  in base `b`, and never a digit below `b ^ least`.
-/
import Mathlib.Data.Int.Log
import Mathlib.Algebra.Order.Round
import Mathlib.Algebra.Ring.Int.Parity

namespace Lib

section
variable {K : Type*} [Field K] [LinearOrder K] [IsStrictOrderedRing K] [FloorRing K]

def roundHalfEven (x : K) : ℤ :=
  if 2 * Int.fract x < 1 then ⌊x⌋
  else if 1 < 2 * Int.fract x then ⌊x⌋ + 1
  else if Even ⌊x⌋ then ⌊x⌋
  else ⌊x⌋ + 1

def roundAt (u x : K) : K := roundHalfEven (x / u) * u

def lastDigit (b digits : ℕ) (least : ℤ) (x : K) : ℤ :=
  max (Int.log b |x| + 1 - digits) least

/-- A number with `digits` digits in base `b`, none of them below `b ^ least`. -/
def roundTo (b digits : ℕ) (least : ℤ) (x : K) : K :=
  if x = 0 then 0 else roundAt ((b : K) ^ lastDigit b digits least x) x

variable {b digits : ℕ} {least e : ℤ} {u x y : K} {n : ℤ}

omit [IsStrictOrderedRing K] in
theorem floor_le_roundHalfEven : ⌊x⌋ ≤ roundHalfEven x := by
  unfold roundHalfEven
  split_ifs <;> omega

omit [IsStrictOrderedRing K] in
theorem roundHalfEven_le_floor_add_one : roundHalfEven x ≤ ⌊x⌋ + 1 := by
  unfold roundHalfEven
  split_ifs <;> omega

theorem roundHalfEven_mono (h : x ≤ y) : roundHalfEven x ≤ roundHalfEven y := by
  rcases (Int.floor_le_floor h).lt_or_eq with hlt | heq
  · calc roundHalfEven x ≤ ⌊x⌋ + 1 := roundHalfEven_le_floor_add_one
      _ ≤ ⌊y⌋ := hlt
      _ ≤ roundHalfEven y := floor_le_roundHalfEven
  · -- the integer parts agree, so the fractions are in the order of the numbers
    have hfract : Int.fract x ≤ Int.fract y := by
      have hx := Int.self_sub_floor x
      have hy := Int.self_sub_floor y
      rw [← heq] at hy
      linarith
    unfold roundHalfEven
    rw [heq]
    split_ifs <;> first | omega | (exfalso; linarith)

@[simp] theorem roundHalfEven_intCast : roundHalfEven (n : K) = n := by
  unfold roundHalfEven
  rw [Int.fract_intCast, mul_zero, if_pos one_pos, Int.floor_intCast]

theorem roundHalfEven_neg : roundHalfEven (-x) = -roundHalfEven x := by
  by_cases hx : Int.fract x = 0
  · obtain ⟨n, rfl⟩ : ∃ n : ℤ, (n : K) = x := ⟨⌊x⌋, by linarith [Int.self_sub_floor x]⟩
    rw [← Int.cast_neg, roundHalfEven_intCast, roundHalfEven_intCast]
  · have hfract : Int.fract (-x) = 1 - Int.fract x := Int.fract_neg hx
    have hfloor : ⌊-x⌋ = -⌊x⌋ - 1 := by
      have h₁ := Int.self_sub_floor x
      have h₂ := Int.self_sub_floor (-x)
      rw [hfract] at h₂
      have : ((⌊-x⌋ : ℤ) : K) = ((-⌊x⌋ - 1 : ℤ) : K) := by
        push_cast
        linarith
      exact_mod_cast this
    have hparity : Even (-⌊x⌋ - 1) ↔ ¬ Even ⌊x⌋ := by
      rw [Int.even_sub_one, even_neg]
    unfold roundHalfEven
    rw [hfract, hfloor]
    split_ifs <;> first | omega | (exfalso; linarith) | (exfalso; tauto)

theorem roundAt_mono (hu : 0 < u) (h : x ≤ y) : roundAt u x ≤ roundAt u y := by
  refine mul_le_mul_of_nonneg_right ?_ hu.le
  exact_mod_cast roundHalfEven_mono ((div_le_div_iff_of_pos_right hu).2 h)

/-- **A multiple of the unit** is its own nearest multiple. -/
theorem roundAt_mul (hu : u ≠ 0) : roundAt u (n * u) = n * u := by
  rw [roundAt, mul_div_cancel_right₀ _ hu, roundHalfEven_intCast]

theorem roundAt_neg : roundAt u (-x) = -roundAt u x := by
  rw [roundAt, neg_div, roundHalfEven_neg, Int.cast_neg, neg_mul, roundAt]

theorem abs_roundHalfEven_sub_le : |(roundHalfEven x : K) - x| ≤ 1 / 2 := by
  have hfract := Int.self_sub_floor x
  have hnonneg := Int.fract_nonneg x
  have hlt := Int.fract_lt_one x
  rw [abs_le]
  unfold roundHalfEven
  split_ifs <;> push_cast <;> constructor <;> linarith

theorem abs_roundAt_sub_le (hu : 0 < u) : |roundAt u x - x| ≤ u / 2 := by
  have hsub : roundAt u x - x = (roundHalfEven (x / u) - x / u) * u := by
    rw [roundAt, sub_mul, div_mul_cancel₀ _ hu.ne']
  rw [hsub, abs_mul, abs_of_pos hu]
  calc |(roundHalfEven (x / u) : K) - x / u| * u ≤ 1 / 2 * u :=
        mul_le_mul_of_nonneg_right abs_roundHalfEven_sub_le hu.le
    _ = u / 2 := by rw [one_div, inv_mul_eq_div]

theorem roundTo_neg : roundTo b digits least (-x) = -roundTo b digits least x := by
  unfold roundTo lastDigit
  rw [abs_neg]
  by_cases hx : x = 0
  · rw [if_pos (neg_eq_zero.2 hx), if_pos hx, neg_zero]
  · rw [if_neg (neg_ne_zero.2 hx), if_neg hx, roundAt_neg]

/-- **The error** is at most half a unit in which the number has few enough digits. -/
theorem abs_roundTo_sub_le (hb : 1 < b) (he : least ≤ e) (hx : |x| < (b : K) ^ (e + digits)) :
    |roundTo b digits least x - x| ≤ (b : K) ^ e / 2 := by
  have hbase : (1 : K) < b := by exact_mod_cast hb
  unfold roundTo
  split_ifs with hzero
  · rw [hzero, sub_zero, abs_zero]
    exact div_nonneg (zpow_nonneg (zero_lt_one.trans hbase).le _) zero_le_two
  · have hlog : Int.log b |x| < e + digits :=
      (Int.lt_zpow_iff_log_lt hb (abs_pos.2 hzero)).1 hx
    have hdigit : lastDigit b digits least x ≤ e := by
      unfold lastDigit
      omega
    refine (abs_roundAt_sub_le (zpow_pos (zero_lt_one.trans hbase) _)).trans ?_
    exact div_le_div_of_nonneg_right (zpow_le_zpow_right₀ hbase.le hdigit) zero_le_two

theorem roundTo_nonneg (h : 0 ≤ x) : 0 ≤ roundTo b digits least x := by
  unfold roundTo
  split_ifs
  · exact le_rfl
  · have hu : (0 : K) ≤ (b : K) ^ lastDigit b digits least x := zpow_nonneg (Nat.cast_nonneg b) _
    have hfloor : (0 : ℤ) ≤ roundHalfEven (x / (b : K) ^ lastDigit b digits least x) :=
      (Int.floor_nonneg.2 (div_nonneg h hu)).trans floor_le_roundHalfEven
    exact mul_nonneg (by exact_mod_cast hfloor) hu

theorem roundTo_mono_of_pos (hb : 1 < b) (hd : 1 ≤ digits) (hx : 0 < x) (h : x ≤ y) :
    roundTo b digits least x ≤ roundTo b digits least y := by
  have hy : 0 < y := hx.trans_le h
  have hbase : (0 : K) < b := by exact_mod_cast hb.le
  have hlog : Int.log b x ≤ Int.log b y := Int.log_mono_right hx h
  unfold roundTo
  rw [if_neg hx.ne', if_neg hy.ne']
  by_cases hsame : lastDigit b digits least x = lastDigit b digits least y
  · rw [hsame]
    exact roundAt_mono (zpow_pos hbase _) h
  · -- the power of the base at the first digit of `y`
    have hlt : lastDigit b digits least x < Int.log b y + 1 - digits ∧ Int.log b x < Int.log b y ∧
        lastDigit b digits least y = Int.log b y + 1 - digits := by
      unfold lastDigit at hsame ⊢
      rw [abs_of_pos hx, abs_of_pos hy] at *
      omega
    obtain ⟨hdigit, hlog', hlast⟩ := hlt
    have hmultiple : ∀ e : ℤ, e ≤ Int.log b y →
        roundAt ((b : K) ^ e) ((b : K) ^ Int.log b y) = (b : K) ^ Int.log b y := by
      intro e he
      obtain ⟨k, hk⟩ := Int.le.dest he
      have hpow : (b : K) ^ Int.log b y = ((b ^ k : ℕ) : ℤ) * (b : K) ^ e := by
        rw [← hk, zpow_add₀ hbase.ne', zpow_natCast, mul_comm]
        push_cast
        rfl
      rw [hpow, roundAt_mul (zpow_pos hbase _).ne']
    have hxle : x ≤ (b : K) ^ Int.log b y := by
      refine (Int.lt_zpow_succ_log_self hb x).le.trans ?_
      exact zpow_le_zpow_right₀ (by exact_mod_cast hb.le) hlog'
    calc roundAt ((b : K) ^ lastDigit b digits least x) x
        ≤ roundAt ((b : K) ^ lastDigit b digits least x) ((b : K) ^ Int.log b y) :=
          roundAt_mono (zpow_pos hbase _) hxle
      _ = (b : K) ^ Int.log b y := hmultiple _ (by omega)
      _ = roundAt ((b : K) ^ lastDigit b digits least y) ((b : K) ^ Int.log b y) :=
          (hmultiple _ (by omega)).symm
      _ ≤ roundAt ((b : K) ^ lastDigit b digits least y) y :=
          roundAt_mono (zpow_pos hbase _) (Int.zpow_log_le_self hb hy)

theorem roundTo_mono (hb : 1 < b) (hd : 1 ≤ digits) (h : x ≤ y) :
    roundTo b digits least x ≤ roundTo b digits least y := by
  rcases lt_or_ge 0 x with hx | hx
  · exact roundTo_mono_of_pos hb hd hx h
  · have hxneg : roundTo b digits least x ≤ 0 := by
      have := @roundTo_nonneg K _ _ _ _ b digits least (-x) (neg_nonneg.2 hx)
      rw [roundTo_neg] at this
      exact neg_nonneg.1 this
    rcases lt_or_ge y 0 with hy | hy
    · have := @roundTo_mono_of_pos K _ _ _ _ b digits least (-y) (-x) hb hd (neg_pos.2 hy)
        (neg_le_neg h)
      rw [roundTo_neg, roundTo_neg] at this
      exact neg_le_neg_iff.1 this
    · exact hxneg.trans (roundTo_nonneg hy)

end

end Lib
