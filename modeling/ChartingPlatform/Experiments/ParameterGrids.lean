/-
  Parameter grids (`experiments.py`) in the decimal context of Python: 28 digits, halves
  to even.
-/
import ChartingPlatform.Experiments.LatinHypercube

namespace ChartingPlatform

open Lib List

def ParameterValue.number : ParameterValue → ℚ
  | .choice _ => 0
  | .integer n => n
  | .decimal x => x

/-- The values of a grid are in order, from the minimum to the maximum and not beyond; those of an
integral grid are distinct. -/
structure GridOf (b : NumericBounds) (vs : List ParameterValue) : Prop where
  nondecreasing : vs.Pairwise fun v w => v.number ≤ w.number
  first : vs.head?.map ParameterValue.number = some b.minimum.value
  last : vs.getLast?.map ParameterValue.number = some b.maximum.value
  within : ∀ v ∈ vs, DimensionRange.Within (.numeric b) v
  distinct : b.integral = true → (vs.map ParameterValue.number).Nodup

def GridInBounds (b : NumericBounds) : Prop :=
  ∃ vs, b.gridValues pythonContext.round = .ok vs ∧ GridOf b vs

/-! ## Integral grids -/

section
variable {b : NumericBounds} {i : ℕ}

theorem NumericBounds.two_le_steps' (b : NumericBounds) : 2 ≤ b.steps := by
  unfold NumericBounds.steps
  cases h : b.gridSteps with
  | none => exact le_rfl
  | some s => exact b.two_le_steps s h

theorem NumericBounds.two_le_gridCount (h : b.integral = true) : 2 ≤ b.gridCount := by
  have hlt := NumericBounds.low_lt_high h
  have := b.two_le_steps'
  unfold NumericBounds.gridCount
  omega

theorem add_one_le_ediv {span m i : ℤ} (hm : 0 < m) (h : m ≤ span) :
    span * i / m + 1 ≤ span * (i + 1) / m := by
  rw [← Int.add_mul_ediv_right _ 1 hm.ne']
  refine Int.ediv_le_ediv hm ?_
  rw [one_mul, mul_add, mul_one]
  omega

def NumericBounds.integralPoint (b : NumericBounds) (index : ℕ) : ℤ :=
  b.low + (b.high - b.low) * index / (b.gridCount - 1 : ℕ)

theorem NumericBounds.integralPoint_strictMono (h : b.integral = true) :
    StrictMono b.integralPoint := by
  have hcount := NumericBounds.two_le_gridCount h
  have hspan : ((b.gridCount - 1 : ℕ) : ℤ) ≤ b.high - b.low := by
    have hlt := NumericBounds.low_lt_high h
    unfold NumericBounds.gridCount at *
    omega
  refine strictMono_nat_of_lt_succ fun i => ?_
  have hstep := @add_one_le_ediv (b.high - b.low) (b.gridCount - 1 : ℕ) i (by omega) hspan
  unfold NumericBounds.integralPoint
  push_cast at hstep ⊢
  omega

theorem NumericBounds.integralPoint_zero (b : NumericBounds) : b.integralPoint 0 = b.low := by
  simp [NumericBounds.integralPoint]

theorem NumericBounds.integralPoint_last (h : b.integral = true) :
    b.integralPoint (b.gridCount - 1) = b.high := by
  have hcount := NumericBounds.two_le_gridCount h
  unfold NumericBounds.integralPoint
  rw [Int.mul_ediv_cancel _ (by omega)]
  omega

theorem map_range_ends {α : Type} (f : ℕ → α) (n : ℕ) :
    ((List.range (n + 1)).map f).head? = some (f 0) ∧
      ((List.range (n + 1)).map f).getLast? = some (f n) := by
  constructor
  · rw [range_succ_eq_map]
    rfl
  · rw [range_succ, map_append]
    simp

theorem gridInBounds_integral (h : b.integral = true) : GridInBounds b := by
  have hcount := NumericBounds.two_le_gridCount h
  obtain ⟨n, hn⟩ : ∃ n, b.gridCount = n + 1 := ⟨b.gridCount - 1, by omega⟩
  have hgrid : b.integralGrid = (List.range (n + 1)).map b.integralPoint := by
    unfold NumericBounds.integralGrid
    rw [if_neg (by omega), ← hn]
    rfl
  have hmono := NumericBounds.integralPoint_strictMono h
  have hlast : b.integralPoint n = b.high := by
    rw [← NumericBounds.integralPoint_last h]
    congr 1
    omega
  refine ⟨(List.range (n + 1)).map fun i => .integer (b.integralPoint i), ?_, ?_⟩
  · unfold NumericBounds.gridValues
    rw [if_pos h, hgrid, map_map]
    rfl
  · obtain ⟨hhead, hgetLast⟩ := map_range_ends (fun i => ParameterValue.integer (b.integralPoint i)) n
    refine ⟨?_, ?_, ?_, ?_, ?_⟩
    · refine pairwise_map.2 (pairwise_lt_range.imp fun {i j} hij => ?_)
      exact Int.cast_le.2 (hmono hij).le
    · rw [hhead, Option.map_some, ← NumericBounds.low_eq h, ← b.integralPoint_zero]
      rfl
    · rw [hgetLast, Option.map_some, ← NumericBounds.high_eq h, ← hlast]
      rfl
    · intro v hv
      obtain ⟨i, hi, rfl⟩ := mem_map.1 hv
      have hi' : i ≤ n := Nat.lt_succ_iff.1 (mem_range.1 hi)
      refine .integer h ?_ ?_
      · rw [← NumericBounds.low_eq h, ← b.integralPoint_zero]
        exact_mod_cast hmono.monotone i.zero_le
      · rw [← NumericBounds.high_eq h, ← hlast]
        exact_mod_cast hmono.monotone hi'
    · intro _
      rw [map_map]
      refine nodup_range.map fun i j hij => ?_
      exact hmono.injective (Int.cast_injective hij)

/-! ## Decimal grids -/

def NumericBounds.span (b : NumericBounds) : ℚ :=
  pythonContext.value (b.maximum.value - b.minimum.value)

/-- The rounded product of the span with an index. -/
def NumericBounds.product (b : NumericBounds) (i : ℕ) : ℚ := pythonContext.value (b.span * i)

/-- The rounded part of the span that an index stands for. -/
def NumericBounds.quotient (b : NumericBounds) (i : ℕ) : ℚ :=
  pythonContext.value (b.product i / (b.steps - 1 : ℕ))

def NumericBounds.point (b : NumericBounds) (i : ℕ) : ℚ :=
  pythonContext.value (b.minimum.value + b.quotient i)

/-- What rounding adds to the span over all steps of the grid. -/
def NumericBounds.spanError (b : NumericBounds) : ℚ :=
  b.quotient (b.steps - 1) - (b.maximum.value - b.minimum.value)

/-- The rounding keeps the bounds: the dimension is integral, or its minimum has no more digits than
the context keeps, its maximum absorbs what rounding adds to the span, and nothing is too large
for the context. -/
def KeepsBounds (b : NumericBounds) : Prop :=
  b.integral = true ∨ pythonContext.value b.minimum.value = b.minimum.value ∧
    pythonContext.value (b.maximum.value + b.spanError) = b.maximum.value ∧
    pythonContext.Fits b.minimum.value ∧ pythonContext.Fits b.maximum.value ∧
    pythonContext.Fits b.span ∧ pythonContext.Fits (b.product (b.steps - 1)) ∧
    pythonContext.Fits (b.quotient (b.steps - 1))

/-- The context keeps all digits of a number. -/
def KeptByContext (x : ℚ) : Prop := pythonContext.round x = .ok x

/-- The dimension is integral, or the context keeps its bounds, their difference and the product
of that with the steps. -/
def DigitsKept (b : NumericBounds) : Prop :=
  b.integral = true ∨ KeptByContext b.minimum.value ∧ KeptByContext b.maximum.value ∧
    KeptByContext (b.maximum.value - b.minimum.value) ∧
    KeptByContext ((b.maximum.value - b.minimum.value) * (b.steps - 1 : ℕ))

theorem NumericBounds.gridPoint_eq_ok {x : ℚ} : b.gridPoint pythonContext.round i = .ok x ↔
    pythonContext.Fits b.span ∧ pythonContext.Fits (b.product i) ∧
      pythonContext.Fits (b.quotient i) ∧ pythonContext.Fits (b.point i) ∧ b.point i = x := by
  unfold NumericBounds.gridPoint
  simp only [bind_eq_ok, DecimalContext.round_eq_ok]
  constructor
  · rintro ⟨-, ⟨hs, rfl⟩, -, ⟨hp, rfl⟩, -, ⟨hq, rfl⟩, hx, rfl⟩
    exact ⟨hs, hp, hq, hx, rfl⟩
  · rintro ⟨hs, hp, hq, hx, rfl⟩
    exact ⟨_, ⟨hs, rfl⟩, _, ⟨hp, rfl⟩, _, ⟨hq, rfl⟩, hx, rfl⟩

theorem NumericBounds.span_nonneg (b : NumericBounds) : 0 ≤ b.span :=
  DecimalContext.value_nonneg (sub_nonneg.2 b.lt.le)

theorem NumericBounds.product_mono (b : NumericBounds) : Monotone b.product := fun _ _ h =>
  DecimalContext.value_mono (mul_le_mul_of_nonneg_left (by exact_mod_cast h) b.span_nonneg)

theorem NumericBounds.quotient_mono (b : NumericBounds) : Monotone b.quotient := fun _ _ h =>
  DecimalContext.value_mono (div_le_div_of_nonneg_right (b.product_mono h) (Nat.cast_nonneg _))

theorem NumericBounds.point_mono (b : NumericBounds) : Monotone b.point := fun _ _ h =>
  DecimalContext.value_mono (add_le_add_right (b.quotient_mono h) _)

theorem NumericBounds.product_zero (b : NumericBounds) : b.product 0 = 0 := by
  simp [NumericBounds.product]

theorem NumericBounds.quotient_zero (b : NumericBounds) : b.quotient 0 = 0 := by
  simp [NumericBounds.quotient, b.product_zero]

theorem NumericBounds.point_zero (b : NumericBounds) :
    b.point 0 = pythonContext.value b.minimum.value := by
  rw [NumericBounds.point, b.quotient_zero, add_zero]

theorem NumericBounds.point_last (b : NumericBounds) :
    b.point (b.steps - 1) = pythonContext.value (b.maximum.value + b.spanError) := by
  unfold NumericBounds.point NumericBounds.spanError
  congr 1
  ring

theorem NumericBounds.gridValues_eq_ok {vs : List ParameterValue} (h : b.integral = false) :
    b.gridValues pythonContext.round = .ok vs ↔
      (∀ i < b.steps, pythonContext.Fits b.span ∧ pythonContext.Fits (b.product i) ∧
        pythonContext.Fits (b.quotient i) ∧ pythonContext.Fits (b.point i)) ∧
      vs = (List.range b.steps).map fun i => .decimal (b.point i) := by
  unfold NumericBounds.gridValues
  rw [if_neg (by simp [h]), map_eq_ok]
  constructor
  · rintro ⟨xs, hxs, rfl⟩
    rw [collect_eq_ok] at hxs
    have hpoint : ∀ i < b.steps, ∃ x, b.gridPoint pythonContext.round i = .ok x := by
      intro i hi
      have hmem := mem_map_of_mem (f := b.gridPoint pythonContext.round) (mem_range.2 hi)
      rw [hxs] at hmem
      obtain ⟨x, -, hx⟩ := mem_map.1 hmem
      exact ⟨x, hx.symm⟩
    have hall : (List.range b.steps).map (b.gridPoint pythonContext.round) =
        ((List.range b.steps).map b.point).map .ok := by
      rw [map_map]
      refine map_congr_left fun i hi => ?_
      obtain ⟨x, hx⟩ := hpoint i (mem_range.1 hi)
      obtain ⟨-, -, -, -, rfl⟩ := NumericBounds.gridPoint_eq_ok.1 hx
      exact hx
    refine ⟨fun i hi => ?_, ?_⟩
    · obtain ⟨x, hx⟩ := hpoint i hi
      obtain ⟨hs, hp, hq, hfits, -⟩ := NumericBounds.gridPoint_eq_ok.1 hx
      exact ⟨hs, hp, hq, hfits⟩
    · have hinj : Function.Injective (Except.ok : ℚ → Except PyError ℚ) := fun x y h => Except.ok.inj h
      rw [← hinj.list_map (hxs.symm.trans hall).symm, map_map]
      rfl
  · rintro ⟨hfits, rfl⟩
    refine ⟨(List.range b.steps).map b.point, ?_, ?_⟩
    · rw [collect_eq_ok, map_map]
      refine map_congr_left fun i hi => ?_
      obtain ⟨hs, hp, hq, hx⟩ := hfits i (mem_range.1 hi)
      exact NumericBounds.gridPoint_eq_ok.2 ⟨hs, hp, hq, hx, rfl⟩
    · rw [map_map]
      rfl

theorem gridInBounds_decimal (h : b.integral = false) : GridInBounds b ↔ KeepsBounds b := by
  have hsteps := b.two_le_steps'
  obtain ⟨n, hn⟩ : ∃ n, b.steps = n + 1 := ⟨b.steps - 1, by omega⟩
  have hlast : b.steps - 1 = n := by omega
  obtain ⟨hhead, hgetLast⟩ := map_range_ends (fun i => ParameterValue.decimal (b.point i)) n
  constructor
  · rintro ⟨vs, hvs, hgrid⟩
    obtain ⟨hfits, rfl⟩ := (NumericBounds.gridValues_eq_ok h).1 hvs
    have hfirst := hgrid.first
    have hend := hgrid.last
    rw [hn, hhead, Option.map_some, Option.some.injEq] at hfirst
    rw [hn, hgetLast, Option.map_some, Option.some.injEq] at hend
    have hmin : b.point 0 = b.minimum.value := hfirst
    have hmax : b.point n = b.maximum.value := hend
    obtain ⟨hs, -, -, hfits0⟩ := hfits 0 (by omega)
    obtain ⟨-, hp, hq, hfitsn⟩ := hfits n (by omega)
    rw [hmin] at hfits0
    rw [hmax] at hfitsn
    rw [b.point_zero] at hmin
    rw [← hlast, b.point_last] at hmax
    exact .inr ⟨hmin, hmax, hfits0, hfitsn, hs, hlast.symm ▸ hp, hlast.symm ▸ hq⟩
  · rintro (hintegral | ⟨hmin, hmax, hfits0, hfitsn, hs, hp, hq⟩)
    · rw [h] at hintegral
      cases hintegral
    · rw [← b.point_zero] at hmin
      rw [← b.point_last, hlast] at hmax
      rw [hlast] at hp hq
      -- every point lies between the first and the last
      have hbetween : ∀ i ≤ n, b.minimum.value ≤ b.point i ∧ b.point i ≤ b.maximum.value := by
        intro i hi
        exact ⟨hmin ▸ b.point_mono i.zero_le, hmax ▸ b.point_mono hi⟩
      have hfits : ∀ i < b.steps, pythonContext.Fits b.span ∧ pythonContext.Fits (b.product i) ∧
          pythonContext.Fits (b.quotient i) ∧ pythonContext.Fits (b.point i) := by
        intro i hi
        have hin : i ≤ n := by omega
        refine ⟨hs, ?_, ?_, ?_⟩
        · exact DecimalContext.fits_zero.of_mem_Icc hp
            (b.product_zero ▸ b.product_mono i.zero_le) (b.product_mono hin)
        · exact DecimalContext.fits_zero.of_mem_Icc hq
            (b.quotient_zero ▸ b.quotient_mono i.zero_le) (b.quotient_mono hin)
        · exact hfits0.of_mem_Icc hfitsn (hbetween i hin).1 (hbetween i hin).2
      refine ⟨_, (NumericBounds.gridValues_eq_ok h).2 ⟨hfits, rfl⟩, ?_, ?_, ?_, ?_, ?_⟩
      · refine pairwise_map.2 (pairwise_lt_range.imp fun {i j} hij => ?_)
        exact b.point_mono hij.le
      · rw [hn, hhead, Option.map_some, ← hmin]
        rfl
      · rw [hn, hgetLast, Option.map_some, ← hmax]
        rfl
      · intro v hv
        obtain ⟨i, hi, rfl⟩ := mem_map.1 hv
        have hin : i ≤ n := by
          have := mem_range.1 hi
          omega
        exact .decimal h (hbetween i hin).1 (hbetween i hin).2
      · intro hintegral
        rw [h] at hintegral
        cases hintegral

theorem keepsBounds_of_digitsKept (h : DigitsKept b) : KeepsBounds b := by
  unfold DigitsKept KeptByContext at h
  simp only [DecimalContext.round_eq_ok] at h
  rcases h with hintegral | ⟨⟨hfmin, hmin⟩, ⟨hfmax, hmax⟩, ⟨hfspan, hspan⟩, hfproduct, hproduct⟩
  · exact .inl hintegral
  · rw [hmin] at hfmin
    rw [hmax] at hfmax
    -- the span, its product with the steps, and the quotient are exact
    have hs : b.span = b.maximum.value - b.minimum.value := hspan
    have hp : b.product (b.steps - 1) =
        (b.maximum.value - b.minimum.value) * (b.steps - 1 : ℕ) := by
      rw [NumericBounds.product, hs, hproduct]
    have hq : b.quotient (b.steps - 1) = b.maximum.value - b.minimum.value := by
      have hne : ((b.steps - 1 : ℕ) : ℚ) ≠ 0 := by
        have := b.two_le_steps'
        exact_mod_cast (by omega : b.steps - 1 ≠ 0)
      rw [NumericBounds.quotient, hp, mul_div_cancel_right₀ _ hne, hspan]
    refine .inr ⟨hmin, ?_, hfmin, hfmax, hfspan, ?_, ?_⟩
    · rw [NumericBounds.spanError, hq, sub_self, add_zero, hmax]
    · rwa [hp, ← hproduct]
    · rwa [hq, ← hspan]

/-- **Bounds of a grid** have no more digits than the context keeps. -/
theorem KeepsBounds.kept (h : KeepsBounds b) :
    b.integral = true ∨ KeptByContext b.minimum.value ∧ KeptByContext b.maximum.value := by
  rcases h with hintegral | ⟨hmin, hmax, hfmin, hfmax, -⟩
  · exact .inl hintegral
  · have hmax' : pythonContext.value b.maximum.value = b.maximum.value := by
      rw [← hmax, DecimalContext.value_value]
    exact .inr ⟨DecimalContext.round_eq_ok.2 ⟨hmin.symm ▸ hfmin, hmin⟩,
      DecimalContext.round_eq_ok.2 ⟨hmax'.symm ▸ hfmax, hmax'⟩⟩

theorem gridInBounds_iff (b : NumericBounds) : GridInBounds b ↔ KeepsBounds b := by
  cases h : b.integral with
  | false => exact gridInBounds_decimal h
  | true => exact ⟨fun _ => .inl h, fun _ => gridInBounds_integral h⟩

end

/-- **Parameter grids.**  The grid of a numeric dimension never decreases, starts at the minimum,
ends at the maximum, stays within them, and is distinct where it is integral, where the context
keeps the digits of the bounds, of their difference and of its product with the steps; it does so
only where the context keeps the bounds. -/
theorem parameter_grid (b : NumericBounds) :
    (DigitsKept b → GridInBounds b) ∧
      (GridInBounds b → b.integral = true ∨ KeptByContext b.minimum.value ∧ KeptByContext b.maximum.value) :=
  ⟨fun h => (gridInBounds_iff b).2 (keepsBounds_of_digitsKept h),
    fun h => ((gridInBounds_iff b).1 h).kept⟩

theorem quarter_lt_one :
    (.finite false 25 (-2) : PyDecimal).value < (.finite false 100 (-2) : PyDecimal).value := by
  norm_num [PyDecimal.value]

/-- From a quarter to one in four steps. -/
def quarterBounds : NumericBounds where
  minimum := .finite false 25 (-2)
  maximum := .finite false 100 (-2)
  gridSteps := some 4
  minimum_finite := rfl
  maximum_finite := rfl
  lt := quarter_lt_one
  two_le_steps _ hs := (by decide : 2 ≤ 4).trans_eq (Option.some.inj hs)
  whole h := absurd h Bool.false_ne_true

theorem parameter_grid_quarters : DigitsKept quarterBounds ∧ GridInBounds quarterBounds := by
  have hkept : DigitsKept quarterBounds := .inr (by
    unfold KeptByContext
    decide +kernel)
  exact ⟨hkept, (parameter_grid quarterBounds).1 hkept⟩

theorem makeNumericBounds_self (b : NumericBounds) :
    makeNumericBounds (some b.minimum) (some b.maximum) (b.gridSteps.map Nat.cast) b.integral =
      .ok b := by
  have hsteps : ∀ s ∈ b.gridSteps.map (Nat.cast : ℕ → ℤ), 2 ≤ s := by
    intro s hs
    obtain ⟨k, hk, rfl⟩ := Option.mem_map.1 hs
    exact_mod_cast b.two_le_steps k hk
  have hback : (b.gridSteps.map (Nat.cast : ℕ → ℤ)).map Int.toNat = b.gridSteps := by
    cases b.gridSteps <;> rfl
  unfold makeNumericBounds
  dsimp only
  rw [dif_pos ⟨b.minimum_finite, b.maximum_finite⟩, dif_pos b.lt, dif_pos hsteps, dif_pos b.whole]
  simp only [hback]

def longBounds : NumericBounds where
  minimum := .finite false 10000000000000000000000000001 0
  maximum := .finite false 2 28
  minimum_finite := rfl
  maximum_finite := rfl
  lt := by norm_num [PyDecimal.value]
  two_le_steps := by simp
  whole := by simp

theorem longBounds_not_kept :
    pythonContext.value longBounds.minimum.value ≠ longBounds.minimum.value := by
  have hvalue : longBounds.minimum.value = 10000000000000000000000000001 := by
    norm_num [longBounds, PyDecimal.value]
  have hlog : Int.log 10 |(10000000000000000000000000001 : ℚ)| = 28 := by
    refine le_antisymm (Int.lt_add_one_iff.1 ?_) ?_
    · exact (Int.lt_zpow_iff_log_lt (by decide) (by norm_num)).1 (by norm_num)
    · exact (Int.zpow_le_iff_le_log (by decide) (by norm_num)).1 (by norm_num)
  have hlast : lastDigit 10 28 (-1000026) (10000000000000000000000000001 : ℚ) = 1 := by
    unfold lastDigit
    rw [hlog]
    decide
  rw [hvalue]
  unfold DecimalContext.value roundTo
  rw [if_neg (by norm_num)]
  change roundAt (((10 : ℕ) : ℚ) ^ lastDigit 10 28 (-1000026) _) _ ≠ _
  rw [hlast]
  unfold roundAt
  generalize roundHalfEven (K := ℚ) _ = k
  -- a multiple of ten does not end in one
  intro heq
  have hint : k * 10 = 10000000000000000000000000001 := by
    have hcast : ((k * 10 : ℤ) : ℚ) = (10000000000000000000000000001 : ℤ) := by
      push_cast
      simpa using heq
    exact_mod_cast hcast
  omega

/-- A grid that starts below the minimum. -/
theorem grid_below_minimum :
    makeSearchDimension "threshold" [] (some (.finite false 10000000000000000000000000001 0))
      (some (.finite false 2 28)) none false =
        .ok ⟨"threshold", .numeric longBounds, by decide⟩ ∧ ¬ GridInBounds longBounds := by
  constructor
  · have hbounds := makeNumericBounds_self longBounds
    unfold makeSearchDimension
    rw [dif_pos (by decide), if_neg (by decide), if_pos isEmpty_nil]
    exact congrArg (Except.map _) hbounds
  · intro hgrid
    rcases (gridInBounds_decimal rfl).1 hgrid with hintegral | ⟨hmin, -⟩
    · cases hintegral
    · exact longBounds_not_kept hmin

end ChartingPlatform
