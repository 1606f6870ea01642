/-
  The buckets that bars are rolled up in (`bar_aggregation.py`, `_bucket_timestamp`).

  Days, weeks, months and years are those of the UTC calendar; the other timeframes count
  their seconds from the epoch.  The seconds of a moment are its timestamp as an integer,
  without the rounding of the float in between.
-/
import ChartingPlatform.Bars.CoverageGaps

namespace ChartingPlatform

open Lib

/-- `TIMEFRAME_SECONDS`. -/
def Timeframe.seconds : Timeframe → ℕ
  | .M1 => 60 | .M5 => 300 | .M15 => 900 | .M30 => 1800
  | .H1 => 3600 | .H2 => 7200 | .H4 => 14400 | .H12 => 43200
  | .D1 => 86400 | .W1 => 604800 | .MN => 2592000 | .Y1 => 365 * 86400

/-- The microseconds from the start of day 1 to 1970. -/
def epochStart : ℤ := 719162 * 86400000000

/-- `int(value.timestamp())`. -/
def epochOf (t : Instant) : ℤ := ((t.val : ℤ) - epochStart).tdiv 1000000

theorem newYear_valid (d : Day) : (Civil.mk d.civil.year 1 1).valid = true := by
  simpa [Civil.valid] using ⟨d.year_pos, by cases isLeap d.civil.year <;> decide⟩

def bucketDay (target : Timeframe) (d : Day) : Day :=
  match target with
  | .W1 => ⟨d.val - weekday d, weekStart_lt d⟩
  | .Y1 => ⟨ymd2ord ⟨d.civil.year, 1, 1⟩ - 1,
      ymd2ord_le (newYear_valid d) d.year_lt⟩
  | .MN => ⟨ymd2ord ⟨d.civil.year, d.civil.month, 1⟩ - 1, monthStart_lt d⟩
  | _ => d

/-- `value.replace(hour=0, minute=0, second=0, microsecond=0)` of a moment of the day. -/
def startOf (d : Day) : Instant := ⟨24 * hourMicros * d.val, by
  have := d.isLt
  unfold instantLimit hourMicros
  omega⟩

/-- `epoch - (epoch % seconds)`, in microseconds since the start of day 1. -/
def intervalStartMicros (secs : ℕ) (t : Instant) : ℤ :=
  epochStart + 1000000 * (epochOf t - epochOf t % secs)

theorem intervalStartMicros_lt (secs : ℕ) (t : Instant) :
    (intervalStartMicros secs t).toNat < instantLimit := by
  have ht := t.isLt
  have hepoch : 1000000 * epochOf t ≤ max 0 (t.val - epochStart) := by
    unfold epochOf
    rcases le_total 0 ((t.val : ℤ) - epochStart) with hle | hle
    · rw [Int.tdiv_eq_ediv_of_nonneg hle]
      omega
    · have hneg := Int.tdiv_nonneg (neg_nonneg.2 hle) (show (0 : ℤ) ≤ 1000000 by decide)
      rw [Int.neg_tdiv] at hneg
      omega
  have hstart : epochOf t - epochOf t % secs ≤ max 0 (epochOf t) := by
    rcases Nat.eq_zero_or_pos secs with rfl | hpos
    · simp
    · have := Int.emod_nonneg (epochOf t) (show (secs : ℤ) ≠ 0 by omega)
      omega
  have hlimit : epochStart < instantLimit := by decide
  unfold intervalStartMicros
  omega

/-- `_bucket_timestamp`. -/
def bucketTimestamp (target : Timeframe) (t : Instant) : Instant :=
  if target ∈ [.D1, .W1, .MN, .Y1] then startOf (bucketDay target (dateOf t))
  else ⟨(intervalStartMicros target.seconds t).toNat, intervalStartMicros_lt _ _⟩

def WholeSecond (t : Instant) : Prop := t.val % 1000000 = 0

instance (t : Instant) : Decidable (WholeSecond t) := inferInstanceAs (Decidable (_ = _))

section
variable {t t' : Instant} {d d' : Day} {target : Timeframe} {secs : ℕ}

/-! ## Intervals from the epoch -/

theorem epochOf_whole (h : WholeSecond t) : 1000000 * epochOf t = t.val - epochStart := by
  have hdvd : (1000000 : ℤ) ∣ t.val - epochStart := by
    unfold WholeSecond at h
    unfold epochStart
    omega
  exact Int.mul_tdiv_cancel' hdvd

theorem intervalStart_val (h : WholeSecond t) (hsecs : secs ∣ 86400) :
    ((intervalStartMicros secs t).toNat : ℤ) = epochStart + 1000000 * (secs * (epochOf t / secs)) := by
  have hpos : 0 < secs := Nat.pos_of_dvd_of_pos hsecs (by decide)
  obtain ⟨n, hn⟩ := hsecs
  have hepoch := epochOf_whole h
  have hstart : intervalStartMicros secs t =
      epochStart + 1000000 * (secs * (epochOf t / secs)) := by
    unfold intervalStartMicros
    rw [Int.emod_def, sub_sub_cancel]
  have hfirst : -(719162 * n : ℤ) ≤ epochOf t / secs := by
    rw [Int.le_ediv_iff_mul_le (by exact_mod_cast hpos)]
    have hday : (secs : ℤ) * n = 86400 := by exact_mod_cast hn.symm
    have hzero : (0 : ℤ) ≤ t.val := Int.natCast_nonneg _
    unfold epochStart at hepoch
    calc -(719162 * n : ℤ) * secs = -(719162 * (secs * n)) := by ring
      _ = -62135596800 := by rw [hday]; norm_num
      _ ≤ epochOf t := by omega
  have hnonneg : 0 ≤ intervalStartMicros secs t := by
    have hmul : (secs : ℤ) * -(719162 * n) ≤ secs * (epochOf t / secs) :=
      mul_le_mul_of_nonneg_left hfirst (by omega)
    have hday : (secs : ℤ) * n = 86400 := by exact_mod_cast hn.symm
    have heq : (secs : ℤ) * -(719162 * n) = -(719162 * 86400) := by rw [← hday]; ring
    rw [hstart]
    unfold epochStart
    omega
  rw [Int.toNat_of_nonneg hnonneg, hstart]

/-! ## Days -/

@[simp] theorem dateOf_startOf (d : Day) : dateOf (startOf d) = d := by
  refine Fin.ext ?_
  exact Nat.mul_div_cancel_left _ (by decide)

theorem startOf_le_iff : startOf d ≤ t ↔ d ≤ dateOf t := by
  rw [Fin.le_def, Fin.le_def]
  unfold startOf dateOf hourMicros
  dsimp only
  omega

theorem startOf_mono (h : d ≤ d') : startOf d ≤ startOf d' := by
  rw [startOf_le_iff, dateOf_startOf]
  exact h

theorem dateOf_mono (h : t ≤ t') : dateOf t ≤ dateOf t' := by
  rw [← startOf_le_iff]
  exact (startOf_le_iff.2 le_rfl).trans h

theorem startOf_whole (d : Day) : WholeSecond (startOf d) := by
  unfold WholeSecond startOf hourMicros
  dsimp only
  omega

theorem month_mono (h : d ≤ d') :
    d.civil.year * 12 + d.civil.month ≤ d'.civil.year * 12 + d'.civil.month := by
  by_contra hlt
  have hmonth := d.month_mem
  have hmonth' := d'.month_mem
  have hnext := ymd2ord_next d'.year_pos hmonth'.1 hmonth'.2
  have hfirst : ymd2ord ⟨d'.civil.year + if d'.civil.month = 12 then 1 else 0,
      d'.civil.month % 12 + 1, 1⟩ ≤ ymd2ord ⟨d.civil.year, d.civil.month, 1⟩ := by
    have hpos := d'.year_pos
    refine ymd2ord_first_mono (by omega) (by omega) (by omega) hmonth.1 hmonth.2 ?_
    split_ifs <;> omega
  have hd := d.val_eq
  have hd' := d'.val_eq
  have hle := Fin.le_def.1 h
  omega

theorem bucketDay_mono (target : Timeframe) (h : d ≤ d') :
    bucketDay target d ≤ bucketDay target d' := by
  have hle := Fin.le_def.1 h
  have hmonths := month_mono h
  have hyears := Day.year_mono h
  have hmonth := d.month_mem
  have hmonth' := d'.month_mem
  unfold bucketDay
  split
  · refine Fin.le_def.2 ?_
    unfold weekday
    dsimp only
    omega
  · refine Fin.le_def.2 (Nat.sub_le_sub_right ?_ 1)
    exact ymd2ord_first_mono d.year_pos (by decide) (by decide) (by decide) (by decide) (by omega)
  · refine Fin.le_def.2 (Nat.sub_le_sub_right ?_ 1)
    exact ymd2ord_first_mono d.year_pos hmonth.1 hmonth.2 hmonth'.1 hmonth'.2 hmonths
  · exact h

theorem bucketDay_le (target : Timeframe) (d : Day) : bucketDay target d ≤ d := by
  have hd := d.val_eq
  have hmonth := d.month_mem
  unfold bucketDay
  split
  · exact Fin.le_def.2 (Nat.sub_le _ _)
  · have hfirst := ymd2ord_first_mono d.year_pos (show 0 < 1 by decide) (by decide) hmonth.1 hmonth.2
      (show d.civil.year * 12 + 1 ≤ d.civil.year * 12 + d.civil.month by omega)
    exact Fin.le_def.2 (by dsimp only; omega)
  · exact Fin.le_def.2 (by dsimp only; omega)
  · exact le_rfl

theorem bucketDay_bucketDay (target : Timeframe) (d : Day) :
    bucketDay target (bucketDay target d) = bucketDay target d := by
  cases target
  case W1 => exact bucketOf_bucketOf .W1 d
  case MN => exact bucketOf_bucketOf .MN d
  case Y1 =>
    have hmake : makeDate ⟨d.civil.year, 1, 1⟩ = .ok (bucketDay .Y1 d) :=
      dif_pos ⟨(newYear_valid d), d.year_lt⟩
    refine Fin.ext ?_
    change ymd2ord ⟨(bucketDay .Y1 d).civil.year, 1, 1⟩ - 1 = _
    rw [makeDate_eq_ok.1 hmake]
    rfl
  all_goals rfl

/-! ## Buckets -/

theorem bucketTimestamp_cases (target : Timeframe) :
    (∀ t, bucketTimestamp target t = startOf (bucketDay target (dateOf t))) ∨
      target.seconds ∣ 86400 ∧ ∀ t, WholeSecond t → ((bucketTimestamp target t).val : ℤ) =
        epochStart + 1000000 * (target.seconds * (epochOf t / target.seconds)) := by
  by_cases h : target ∈ [.D1, .W1, .MN, .Y1]
  · exact .inl fun t => if_pos h
  · have hdvd : target.seconds ∣ 86400 := by cases target <;> first | decide | exact absurd (by decide) h
    refine .inr ⟨hdvd, fun t ht => ?_⟩
    rw [← intervalStart_val ht hdvd]
    unfold bucketTimestamp
    rw [if_neg h]

theorem bucket_whole (target : Timeframe) (h : WholeSecond t) :
    WholeSecond (bucketTimestamp target t) := by
  rcases bucketTimestamp_cases target with hday | ⟨-, hinterval⟩
  · rw [hday]
    exact startOf_whole _
  · have hval := hinterval t h
    unfold WholeSecond
    unfold epochStart at hval
    omega

theorem bucket_le (target : Timeframe) (h : WholeSecond t) : bucketTimestamp target t ≤ t := by
  rcases bucketTimestamp_cases target with hday | ⟨hdvd, hinterval⟩
  · rw [hday, startOf_le_iff]
    exact bucketDay_le target _
  · have hval := hinterval t h
    have hepoch := epochOf_whole h
    have hmul : (target.seconds : ℤ) * (epochOf t / target.seconds) ≤ epochOf t := by
      rw [mul_comm]
      exact Int.ediv_mul_le _ (by
        have := Nat.pos_of_dvd_of_pos hdvd (by decide)
        omega)
    exact Fin.le_def.2 (by omega)

theorem bucket_mono (target : Timeframe) (h : WholeSecond t) (h' : WholeSecond t') (hle : t ≤ t') :
    bucketTimestamp target t ≤ bucketTimestamp target t' := by
  rcases bucketTimestamp_cases target with hday | ⟨hdvd, hinterval⟩
  · rw [hday, hday]
    exact startOf_mono (bucketDay_mono target (dateOf_mono hle))
  · have hval := hinterval t h
    have hval' := hinterval t' h'
    have hepoch : epochOf t ≤ epochOf t' := by
      have := epochOf_whole h
      have := epochOf_whole h'
      have := Fin.le_def.1 hle
      omega
    have hmul : (target.seconds : ℤ) * (epochOf t / target.seconds) ≤
        target.seconds * (epochOf t' / target.seconds) :=
      mul_le_mul_of_nonneg_left (Int.ediv_le_ediv (by
        have := Nat.pos_of_dvd_of_pos hdvd (by decide)
        omega) hepoch) (by omega)
    exact Fin.le_def.2 (by omega)

theorem bucket_bucket (target : Timeframe) (h : WholeSecond t) :
    bucketTimestamp target (bucketTimestamp target t) = bucketTimestamp target t := by
  rcases bucketTimestamp_cases target with hday | ⟨hdvd, hinterval⟩
  · rw [hday, hday, dateOf_startOf, bucketDay_bucketDay]
  · have hwhole := bucket_whole target h
    have hval := hinterval t h
    have hval' := hinterval _ hwhole
    have hepoch := epochOf_whole hwhole
    have hpos : (target.seconds : ℤ) ≠ 0 := by
      have := Nat.pos_of_dvd_of_pos hdvd (by decide)
      omega
    have hstart : epochOf (bucketTimestamp target t) =
        target.seconds * (epochOf t / target.seconds) := by omega
    rw [hstart, Int.mul_ediv_cancel_left _ hpos] at hval'
    exact Fin.ext (by omega)

def InBucket (target : Timeframe) (start t : Instant) : Prop :=
  start ≤ t ∧ ∀ t', WholeSecond t' → start < bucketTimestamp target t' →
    t < bucketTimestamp target t'

/-- **The moments of a bucket** are those of its interval. -/
theorem inBucket_iff (h : WholeSecond t) (h' : WholeSecond t') :
    InBucket target (bucketTimestamp target t') t ↔
      bucketTimestamp target t = bucketTimestamp target t' := by
  constructor
  · rintro ⟨hstart, hnext⟩
    refine le_antisymm (not_lt.1 fun hlt => ?_) ?_
    · exact absurd (hnext t h hlt) (not_lt.2 (bucket_le target h))
    · have hle := bucket_mono target (bucket_whole target h') h hstart
      rwa [bucket_bucket target h'] at hle
  · intro heq
    rw [← heq]
    refine ⟨bucket_le target h, fun u hu hlt => not_le.1 fun hle => ?_⟩
    have hback := bucket_mono target (bucket_whole target hu) h hle
    rw [bucket_bucket target hu] at hback
    exact absurd hlt (not_lt.2 hback)

def Nests (fine coarse : Timeframe) : Prop :=
  ∀ t t', WholeSecond t → WholeSecond t' → bucketTimestamp fine t = bucketTimestamp fine t' →
    bucketTimestamp coarse t = bucketTimestamp coarse t'

theorem nests_of_day {coarse : Timeframe} (h : coarse ∈ [.D1, .W1, .MN, .Y1]) :
    Nests .D1 coarse := by
  intro t t' _ _ heq
  have hdays : ∀ u, bucketTimestamp .D1 u = startOf (dateOf u) := fun _ => rfl
  rw [hdays, hdays] at heq
  have hdate := congrArg dateOf heq
  rw [dateOf_startOf, dateOf_startOf] at hdate
  unfold bucketTimestamp
  rw [if_pos h, if_pos h, hdate]

theorem Nests.bucket_eq {fine coarse : Timeframe} (h : Nests fine coarse) (ht : WholeSecond t) :
    bucketTimestamp coarse (bucketTimestamp fine t) = bucketTimestamp coarse t :=
  h _ _ (bucket_whole fine ht) ht (bucket_bucket fine ht)

end

end ChartingPlatform
