/-
  Whole lots: the multiples of a unit, and a number cut down to them towards zero.
-/
import ChartingPlatform.Lib.Rounding
import Mathlib.Data.Sign.Basic
import Mathlib.Tactic.Ring

namespace Lib

variable {K : Type*} [Field K] [LinearOrder K] [IsStrictOrderedRing K] [FloorRing K]

def IsMultiple (u x : K) : Prop := ∃ n : ℤ, x = n * u

def wholeLots (lot x : K) : K := SignType.sign x * (⌊|x| / lot⌋ * lot)

variable {u lot x y : K}

omit [LinearOrder K] [IsStrictOrderedRing K] [FloorRing K] in
theorem IsMultiple.neg (h : IsMultiple u x) : IsMultiple u (-x) := by
  obtain ⟨n, rfl⟩ := h
  exact ⟨-n, by push_cast; ring⟩

omit [LinearOrder K] [IsStrictOrderedRing K] [FloorRing K] in
theorem IsMultiple.sub (hx : IsMultiple u x) (hy : IsMultiple u y) : IsMultiple u (x - y) := by
  obtain ⟨n, rfl⟩ := hx
  obtain ⟨m, rfl⟩ := hy
  exact ⟨n - m, by push_cast; ring⟩

omit [IsStrictOrderedRing K] [FloorRing K] in
theorem isMultiple_abs : IsMultiple u |x| ↔ IsMultiple u x := by
  rcases abs_choice x with h | h
  · rw [h]
  · rw [h]
    exact ⟨fun hneg => neg_neg x ▸ hneg.neg, IsMultiple.neg⟩

theorem roundAt_eq_self (hu : u ≠ 0) : roundAt u x = x ↔ IsMultiple u x := by
  constructor
  · intro h
    exact ⟨roundHalfEven (x / u), h.symm⟩
  · rintro ⟨n, rfl⟩
    exact roundAt_mul hu

theorem floor_div_eq_iff (hu : u ≠ 0) : (⌊x / u⌋ : K) = x / u ↔ IsMultiple u x := by
  constructor
  · intro h
    exact ⟨⌊x / u⌋, by rw [h, div_mul_cancel₀ _ hu]⟩
  · rintro ⟨n, rfl⟩
    rw [mul_div_cancel_right₀ _ hu, Int.floor_intCast]

theorem isMultiple_wholeLots : IsMultiple lot (wholeLots lot x) := by
  unfold wholeLots
  rcases lt_trichotomy x 0 with hx | rfl | hx
  · rw [sign_neg hx]
    exact ⟨-⌊|x| / lot⌋, by push_cast; simp⟩
  · exact ⟨0, by simp⟩
  · rw [sign_pos hx]
    exact ⟨⌊|x| / lot⌋, by simp⟩

theorem abs_wholeLots_le (hlot : 0 < lot) : |wholeLots lot x| ≤ |x| := by
  have hfloor : (0 : K) ≤ ⌊|x| / lot⌋ * lot := by
    refine mul_nonneg ?_ hlot.le
    exact_mod_cast Int.floor_nonneg.2 (div_nonneg (abs_nonneg x) hlot.le)
  have hle : (⌊|x| / lot⌋ : K) * lot ≤ |x| := by
    rw [← le_div_iff₀ hlot]
    exact Int.floor_le _
  unfold wholeLots
  rcases lt_trichotomy x 0 with hx | rfl | hx
  · rw [sign_neg hx]
    simpa [abs_of_nonneg hfloor] using hle
  · simp
  · rw [sign_pos hx]
    simpa [abs_of_nonneg hfloor] using hle

theorem wholeLots_eq : wholeLots lot x =
    if x < 0 then -(⌊|x| / lot⌋ * lot) else ⌊|x| / lot⌋ * lot := by
  unfold wholeLots
  rcases lt_trichotomy x 0 with hx | rfl | hx
  · rw [if_pos hx, sign_neg hx]
    simp
  · simp
  · rw [if_neg hx.not_gt, sign_pos hx]
    simp

end Lib
