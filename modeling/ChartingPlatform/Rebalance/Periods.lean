/-
  The periods of a rebalance cadence (`rebalance.py`): keys, first and last dates.
-/
import ChartingPlatform.Lib.Calendar

namespace ChartingPlatform

open Lib List

/-- `RebalanceCadence`. -/
inductive RebalanceCadence where
  | eachSession | isoWeekly | monthly | quarterly | yearly
  deriving DecidableEq, Repr

def RebalanceCadence.text : RebalanceCadence → String
  | .eachSession => "each_session"
  | .isoWeekly => "iso_weekly"
  | .monthly => "monthly"
  | .quarterly => "quarterly"
  | .yearly => "yearly"

/-- `calendar_period_key`. -/
def calendarPeriodKey (value : Day) : RebalanceCadence → String
  | .eachSession => String.ofList ("session:".toList ++ dateText value)
  | .isoWeekly =>
    let (isoYear, isoWeek) := isoYearWeek value
    String.ofList ("iso-week:".toList ++ (fixedText 10 4 isoYear ++ ("-W".toList ++
      fixedText 10 2 isoWeek)))
  | .monthly => String.ofList ("month:".toList ++ (fixedText 10 4 value.civil.year ++
      ('-' :: fixedText 10 2 value.civil.month)))
  | .quarterly =>
    let quarter := (value.civil.month - 1) / 3 + 1
    String.ofList ("quarter:".toList ++ (fixedText 10 4 value.civil.year ++ ("-Q".toList ++
      natText quarter)))
  | .yearly => String.ofList ("year:".toList ++ fixedText 10 4 value.civil.year)

/-- `_period_start`. -/
def periodStart (value : Day) : RebalanceCadence → Except PyError Day
  | .isoWeekly => shiftDays value (-((isoweekday value - 1 : ℕ) : ℤ))
  | .monthly => makeDate ⟨value.civil.year, value.civil.month, 1⟩
  | .quarterly => makeDate ⟨value.civil.year, (value.civil.month - 1) / 3 * 3 + 1, 1⟩
  | .yearly => makeDate ⟨value.civil.year, 1, 1⟩
  | .eachSession => .ok value

/-- `_period_end`. -/
def periodEnd (value : Day) : RebalanceCadence → Except PyError Day
  | .isoWeekly => do
    let start ← periodStart value .isoWeekly
    shiftDays start 6
  | .monthly => makeDate ⟨value.civil.year, value.civil.month,
      daysInMonth (isLeap value.civil.year) value.civil.month⟩
  | .quarterly => do
    let first ← periodStart value .quarterly
    let lastMonth := first.civil.month + 2
    makeDate ⟨first.civil.year, lastMonth, daysInMonth (isLeap first.civil.year) lastMonth⟩
  | .yearly => makeDate ⟨value.civil.year, 12, 31⟩
  | .eachSession => .ok value

def periodIndex (value : Day) : RebalanceCadence → ℕ
  | .eachSession => value.val
  | .isoWeekly => value.val / 7
  | .monthly => value.civil.year * 12 + (value.civil.month - 1)
  | .quarterly => value.civil.year * 4 + (value.civil.month - 1) / 3
  | .yearly => value.civil.year

section
variable {v v' : Day} {cadence : RebalanceCadence}

theorem calendarPeriodKey_eq_iff :
    calendarPeriodKey v cadence = calendarPeriodKey v' cadence ↔
      periodIndex v cadence = periodIndex v' cadence := by
  have hyear : v.civil.year < 10 ^ 4 := v.year_lt
  have hyear' : v'.civil.year < 10 ^ 4 := v'.year_lt
  have hmonth := v.month_mem
  have hmonth' := v'.month_mem
  cases cadence with
  | eachSession =>
    unfold calendarPeriodKey periodIndex
    rw [String.ofList_inj, append_right_inj]
    rw [dateText_injective.eq_iff, Fin.ext_iff]
  | isoWeekly =>
    have hiso : (isoYearWeek v).1 < 10 ^ 4 ∧ (isoYearWeek v).2 < 10 ^ 2 := isoYearWeek_lt v
    have hiso' : (isoYearWeek v').1 < 10 ^ 4 ∧ (isoYearWeek v').2 < 10 ^ 2 := isoYearWeek_lt v'
    unfold calendarPeriodKey periodIndex
    rw [String.ofList_inj, append_right_inj]
    rw [fixedText_append_inj hiso.1 hiso'.1, append_right_inj,
      fixedText_inj hiso.2 hiso'.2, ← isoYearWeek_eq_iff, Prod.ext_iff]
  | monthly =>
    unfold calendarPeriodKey periodIndex
    rw [String.ofList_inj, append_right_inj]
    rw [fixedText_append_inj hyear hyear', cons_inj_right,
      fixedText_inj (by omega) (by omega)]
    dsimp only
    omega
  | quarterly =>
    unfold calendarPeriodKey periodIndex
    rw [String.ofList_inj, append_right_inj]
    rw [fixedText_append_inj hyear hyear', append_right_inj, natText_injective.eq_iff]
    dsimp only
    omega
  | yearly =>
    unfold calendarPeriodKey periodIndex
    rw [String.ofList_inj, append_right_inj]
    exact fixedText_inj hyear hyear'

theorem exists_periodStart (v : Day) (cadence : RebalanceCadence) : ∃ s, periodStart v cadence = .ok s ∧
    match cadence with
    | .eachSession => s = v
    | .isoWeekly => s.val = v.val / 7 * 7
    | .monthly => s.civil = ⟨v.civil.year, v.civil.month, 1⟩
    | .quarterly => s.civil = ⟨v.civil.year, (v.civil.month - 1) / 3 * 3 + 1, 1⟩
    | .yearly => s.civil = ⟨v.civil.year, 1, 1⟩ := by
  have hmonth := v.month_mem
  have hfirst : ∀ m, 0 < m → m < 13 → (Civil.mk v.civil.year m 1).valid = true := by
    intro m hm hm'
    obtain ⟨hyear, -⟩ := Civil.valid_iff.1 v.civil_valid
    have hdays : ∀ leap : Bool, ∀ m < 13, 0 < m → 1 ≤ daysInMonth leap m := by decide
    exact Civil.valid_iff.2 ⟨hyear, hm, hm', Nat.one_pos, hdays _ m hm' hm⟩
  cases cadence with
  | eachSession => exact ⟨v, rfl, rfl⟩
  | isoWeekly =>
    have hlt := v.isLt
    refine ⟨⟨v.val / 7 * 7, by omega⟩, ?_, rfl⟩
    unfold periodStart shiftDays isoweekday
    dsimp only
    rw [dif_pos (by omega)]
    refine congrArg Except.ok (Fin.ext ?_)
    dsimp only
    omega
  | monthly => exact makeDate_of (hfirst _ hmonth.1 hmonth.2) v.year_lt
  | quarterly => exact makeDate_of (hfirst _ (by omega) (by omega)) v.year_lt
  | yearly => exact makeDate_of (hfirst _ (by decide) (by decide)) v.year_lt

theorem periodStart_eq_iff : periodStart v cadence = periodStart v' cadence ↔
    periodIndex v cadence = periodIndex v' cadence := by
  obtain ⟨s, hs, hspec⟩ := exists_periodStart v cadence
  obtain ⟨s', hs', hspec'⟩ := exists_periodStart v' cadence
  have hmonth := v.month_mem
  have hmonth' := v'.month_mem
  rw [hs, hs', Except.ok.injEq]
  have hcivil : s = s' ↔ s.civil = s'.civil := ⟨congrArg _, Day.eq_of_civil_eq⟩
  cases cadence with
  | eachSession =>
    dsimp only at hspec hspec'
    rw [hspec, hspec', Fin.ext_iff]
    rfl
  | isoWeekly =>
    dsimp only [periodIndex] at hspec hspec' ⊢
    rw [Fin.ext_iff, hspec, hspec']
    omega
  | monthly | quarterly =>
    dsimp only [periodIndex] at hspec hspec' ⊢
    rw [hcivil, hspec, hspec']
    simp only [Civil.mk.injEq, and_true]
    omega
  | yearly =>
    dsimp only [periodIndex] at hspec hspec' ⊢
    rw [hcivil, hspec, hspec']
    simp only [Civil.mk.injEq, and_true]

theorem periodEnd_congr (h : periodIndex v cadence = periodIndex v' cadence) :
    periodEnd v cadence = periodEnd v' cadence := by
  have hstart := periodStart_eq_iff.2 h
  have hmonth := v.month_mem
  have hmonth' := v'.month_mem
  cases cadence with
  | eachSession =>
    unfold periodEnd
    rw [Fin.ext h]
  | isoWeekly =>
    unfold periodEnd
    rw [hstart]
  | monthly =>
    dsimp only [periodIndex] at h
    have hyears : v.civil.year = v'.civil.year := by omega
    have hmonths : v.civil.month = v'.civil.month := by omega
    unfold periodEnd
    rw [hyears, hmonths]
  | quarterly =>
    unfold periodEnd
    rw [hstart]
  | yearly =>
    dsimp only [periodIndex] at h
    unfold periodEnd
    rw [h]

theorem calendarPeriodKey_eq_iff_bounds :
    calendarPeriodKey v cadence = calendarPeriodKey v' cadence ↔
      periodStart v cadence = periodStart v' cadence ∧
        periodEnd v cadence = periodEnd v' cadence := by
  rw [calendarPeriodKey_eq_iff, periodStart_eq_iff]
  exact ⟨fun h => ⟨h, periodEnd_congr h⟩, And.left⟩

end

end ChartingPlatform
