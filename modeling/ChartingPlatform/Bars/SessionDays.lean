/-
  The session days of the exchange calendar (`ohlcv_coverage.py`).

  A window of days generates the holidays of the years it touches.  Only the holiday of a New
  Year's Day on a Saturday is in another year than its own (`holiday_year`).
-/
import ChartingPlatform.Lib.Calendar

namespace ChartingPlatform

open Lib List

/-! ## Holidays -/

/-- `date.weekday()`: day 0 is a Monday. -/
def weekday (d : Day) : ℕ := d.val % 7

/-- `_observed_fixed_holiday`. -/
def observedFixedHoliday (year month day : ℕ) : Except PyError Day := do
  let holiday ← makeDate ⟨year, month, day⟩
  if weekday holiday = 5 then shiftDays holiday (-1)
  else if weekday holiday = 6 then shiftDays holiday 1
  else return holiday

def easterMonthDay (year : ℤ) : ℤ × ℤ :=
  let century := year / 100
  let remainder := year % 100
  let moon := (19 * (year % 19) + century - century / 4 -
    (century - (century + 8) / 25 + 1) / 3 + 15) % 30
  let weekday := (32 + 2 * (century % 4) + 2 * (remainder / 4) - moon - remainder % 4) % 7
  let adjustment := moon + weekday - 7 * ((year % 19 + 11 * moon + 22 * weekday) / 451) + 114
  (adjustment / 31, adjustment % 31)

/-- `_easter_sunday`. -/
def easterSunday (year : ℕ) : Except PyError Day :=
  makeDate ⟨year, (easterMonthDay year).1.toNat, ((easterMonthDay year).2 + 1).toNat⟩

/-- `_first_weekday`. -/
def firstWeekday (year month day : ℕ) : Except PyError Day := do
  let first ← makeDate ⟨year, month, 1⟩
  shiftDays first (((day : ℤ) - weekday first) % 7)

/-- `_nth_weekday`. -/
def nthWeekday (year month day occurrence : ℕ) : Except PyError Day := do
  let first ← firstWeekday year month day
  shiftDays first (7 * ((occurrence : ℤ) - 1))

def lastOfMonth (year month : ℕ) : Except PyError Day :=
  if month < 12 then makeDate ⟨year, month + 1, 1⟩ >>= fun next => shiftDays next (-1)
  else makeDate ⟨year, 12, 31⟩

/-- `_last_weekday`. -/
def lastWeekday (year month day : ℕ) : Except PyError Day := do
  let last ← lastOfMonth year month
  shiftDays last (-(((weekday last : ℤ) - day) % 7))

/-- `_XNYS_AD_HOC_CLOSURES`: the National Day of Mourning of 2025. -/
def xnysAdHocClosures (year : ℕ) : List (Except PyError Day) :=
  if year = 2025 then [makeDate ⟨2025, 1, 9⟩] else []

/-- The holidays of `_xnys_holidays` in the order in which they are computed. -/
def holidayRules (year : ℕ) : List (Except PyError Day) :=
  [observedFixedHoliday year 1 1,
   nthWeekday year 1 0 3,  -- Martin Luther King Jr. Day
   nthWeekday year 2 0 3,  -- Presidents' Day
   lastWeekday year 5 0,  -- Memorial Day
   observedFixedHoliday year 7 4,
   firstWeekday year 9 0,  -- Labor Day
   nthWeekday year 11 3 4,  -- Thanksgiving
   observedFixedHoliday year 12 25,
   easterSunday year >>= fun easter => shiftDays easter (-2)] ++
  (if 2022 ≤ year then [observedFixedHoliday year 6 19] else []) ++  -- Juneteenth
  xnysAdHocClosures year

/-- `_xnys_holidays`. -/
def xnysHolidays (year : ℕ) : Except PyError (Finset Day) := do
  return (← collect (holidayRules year)).toFinset

/-! ## Sessions -/

/-- The `while` loop of `_xnys_session_days`, from `cursor`. -/
def sessionsFrom (holidays : Finset Day) (end_ cursor : Day) (sessions : Finset Day) :
    Except PyError (Finset Day) :=
  if cursor ≤ end_ then
    let sessions :=
      if weekday cursor < 5 ∧ cursor ∉ holidays then insert cursor sessions else sessions
    -- `cursor += timedelta(days=1)`
    if h : cursor.val + 1 < maxOrdinal then sessionsFrom holidays end_ ⟨cursor.val + 1, h⟩ sessions
    else .error ⟨.overflowError, "date value out of range"⟩
  else .ok sessions
termination_by maxOrdinal - cursor.val
decreasing_by omega

/-- `_xnys_session_days`. -/
def xnysSessionDays (start end_ : Day) : Except PyError (Finset Day) := do
  let years := List.range' start.civil.year (end_.civil.year + 1 - start.civil.year)
  let holidays ← collect (years.map xnysHolidays)
  sessionsFrom (holidays.foldl (· ∪ ·) ∅) end_ start ∅

/-! ## Where the holidays are -/

/-- The computation gives a day, from `lo` to `hi` days after the first one of a year. -/
def InYear (year : ℕ) (lo hi : ℤ) (r : Except PyError Day) : Prop :=
  ∃ d, r = .ok d ∧ daysBeforeYear year + lo ≤ d.val ∧ (d.val : ℤ) ≤ daysBeforeYear year + hi

section
variable {year month day occurrence : ℕ} {lo hi a b : ℤ} {r : Except PyError Day}

theorem daysBeforeMonth_mem : ∀ leap : Bool, ∀ m < 13, 1 < m →
    31 ≤ daysBeforeMonth leap m ∧ daysBeforeMonth leap m ≤ 335 := by
  decide

theorem InYear.mono {lo' hi' : ℤ} (h : InYear year lo hi r) (hlo : lo' ≤ lo) (hhi : hi ≤ hi') :
    InYear year lo' hi' r := by
  obtain ⟨d, hd, hmin, hmax⟩ := h
  exact ⟨d, hd, by omega, by omega⟩

theorem observedFixedHoliday_eq : observedFixedHoliday year month day =
    makeDate ⟨year, month, day⟩ >>= fun holiday => shiftDays holiday
      (if weekday holiday = 5 then -1 else if weekday holiday = 6 then 1 else 0) := by
  unfold observedFixedHoliday
  refine congrArg _ (funext fun holiday => ?_)
  split_ifs
  · rfl
  · rfl
  · exact (shiftDays_zero holiday).symm

theorem easterMonthDay_mem (year : ℕ) : (easterMonthDay year).1 = 3 ∧ 0 ≤ (easterMonthDay year).2 ∧
    (easterMonthDay year).2 < 31 ∨ (easterMonthDay year).1 = 4 ∧ 0 ≤ (easterMonthDay year).2 ∧
    (easterMonthDay year).2 < 26 := by
  unfold easterMonthDay
  dsimp only
  generalize ((19 * ((year : ℤ) % 19) + (year : ℤ) / 100 - (year : ℤ) / 100 / 4 -
    ((year : ℤ) / 100 - ((year : ℤ) / 100 + 8) / 25 + 1) / 3 + 15)) = x
  generalize 32 + 2 * ((year : ℤ) / 100 % 4) + 2 * ((year : ℤ) % 100 / 4) - x % 30 -
    (year : ℤ) % 100 % 4 = y
  omega

variable (hyear : 0 < year) (hlt : year < 10000)
include hyear hlt

theorem InYear.shift (h : InYear year lo hi r) (f : Day → ℤ) (hf : ∀ d, a ≤ f d ∧ f d ≤ b)
    (hlo : 0 ≤ lo + a) (hhi : hi + b < 365) :
    InYear year (lo + a) (hi + b) (r >>= fun d => shiftDays d (f d)) := by
  obtain ⟨d, rfl, hmin, hmax⟩ := h
  have hnext := daysBeforeYear_next hyear
  have hle := daysBeforeYear_le hlt
  have hmem := hf d
  refine ⟨⟨((d.val : ℤ) + f d).toNat, by omega⟩, shiftDays_eq_ok.2 ?_, ?_, ?_⟩
  all_goals
    simp only
    omega

theorem makeDate_inYear (hmonth : 0 < month) (hmonth' : month < 13) (hday : 0 < day)
    (hday' : day ≤ daysInMonth (isLeap year) month) :
    InYear year (daysBeforeMonth (isLeap year) month + day - 1)
      (daysBeforeMonth (isLeap year) month + day - 1) (makeDate ⟨year, month, day⟩) := by
  have hvalid : (Civil.mk year month day).valid = true :=
    Civil.valid_iff.2 ⟨hyear, hmonth, hmonth', hday, hday'⟩
  obtain ⟨d, hd, hcivil⟩ := makeDate_of hvalid hlt
  have hord := d.ymd2ord_civil
  rw [hcivil, ymd2ord] at hord
  dsimp only at hord
  exact ⟨d, hd, by omega, by omega⟩

theorem firstOfMonth_inYear (hmonth : 1 < month) (hmonth' : month < 13) (hday : 0 < day)
    (hday' : day ≤ 28) : InYear year 31 362 (makeDate ⟨year, month, day⟩) := by
  have hmin : ∀ leap : Bool, ∀ m < 13, 1 < m → 28 ≤ daysInMonth leap m := by decide
  have hmem := daysBeforeMonth_mem (isLeap year) month hmonth' hmonth
  exact (makeDate_inYear hyear hlt (by omega) hmonth' hday
    (hday'.trans (hmin _ _ hmonth' hmonth))).mono (by omega) (by omega)

theorem observedFixedHoliday_inYear (hmonth : 1 < month) (hmonth' : month < 13) (hday : 0 < day)
    (hday' : day ≤ 28) : InYear year 0 363 (observedFixedHoliday year month day) := by
  rw [observedFixedHoliday_eq]
  refine ((firstOfMonth_inYear hyear hlt hmonth hmonth' hday hday').shift hyear hlt _
    (a := -1) (b := 1) (fun d => ?_) (by omega) (by omega)).mono (by omega) (by omega)
  split_ifs <;> omega

theorem firstWeekday_inYear (hmonth : 0 < month) (hmonth' : month < 12) :
    InYear year 0 340 (firstWeekday year month day) := by
  have hmax : ∀ leap : Bool, ∀ m < 12, 0 < m →
      daysBeforeMonth leap m ≤ 305 ∧ 1 ≤ daysInMonth leap m := by decide
  have hmem := hmax (isLeap year) month hmonth' hmonth
  refine ((makeDate_inYear hyear hlt hmonth (by omega) Nat.one_pos hmem.2).shift hyear hlt _
    (a := 0) (b := 6) (fun d => ?_) (by omega) (by omega)).mono (by omega) (by omega)
  omega

theorem nthWeekday_inYear (hmonth : 0 < month) (hmonth' : month < 12) (hoccurrence : 0 < occurrence)
    (hoccurrence' : occurrence < 5) : InYear year 0 363 (nthWeekday year month day occurrence) := by
  refine ((firstWeekday_inYear hyear hlt hmonth hmonth').shift hyear hlt _
    (a := 0) (b := 21) (fun d => ?_) (by omega) (by omega)).mono (by omega) (by omega)
  omega

theorem lastWeekday_inYear (hmonth : 0 < month) (hmonth' : month < 12) :
    InYear year 0 363 (lastWeekday year month day) := by
  have hlast : InYear year 30 361 (lastOfMonth year month) := by
    rw [lastOfMonth, if_pos hmonth']
    exact ((firstOfMonth_inYear hyear hlt (by omega) (by omega) Nat.one_pos (by omega)).shift hyear
      hlt _ (a := -1) (b := -1) (fun _ => by omega) (by omega) (by omega)).mono (by omega) (by omega)
  exact (hlast.shift hyear hlt (fun last => -(((weekday last : ℤ) - day) % 7)) (a := -6) (b := 0)
    (fun last => by omega) (by omega) (by omega)).mono (by omega) (by omega)

theorem goodFriday_inYear :
    InYear year 0 363 (easterSunday year >>= fun easter => shiftDays easter (-2)) := by
  have hmonths : ∀ leap : Bool, 58 < daysBeforeMonth leap 3 ∧ daysBeforeMonth leap 3 < 61 ∧
      89 < daysBeforeMonth leap 4 ∧ daysBeforeMonth leap 4 < 92 ∧ daysInMonth leap 3 = 31 ∧
      daysInMonth leap 4 = 30 := by decide
  have hmem := hmonths (isLeap year)
  have heaster : InYear year 2 363 (easterSunday year) := by
    unfold easterSunday
    rcases easterMonthDay_mem year with ⟨hm, hlo, hhi⟩ | ⟨hm, hlo, hhi⟩
    · rw [hm, show (3 : ℤ).toNat = 3 from rfl]
      exact (makeDate_inYear hyear hlt (by decide) (by decide) (by omega) (by omega)).mono
        (by omega) (by omega)
    · rw [hm, show (4 : ℤ).toNat = 4 from rfl]
      exact (makeDate_inYear hyear hlt (by decide) (by decide) (by omega) (by omega)).mono
        (by omega) (by omega)
  exact (heaster.shift hyear hlt _ (a := -2) (b := -2) (fun _ => by omega) (by omega)
    (by omega)).mono (by omega) (by omega)

theorem newYearsDay : ∃ d, observedFixedHoliday year 1 1 = .ok d ∧
    (d.val + 1 = daysBeforeYear year ∧ weekday d = 4 ∨
      daysBeforeYear year ≤ d.val ∧ d.val ≤ daysBeforeYear year + 1 ∧
        (daysBeforeYear year) % 7 ≠ 5) := by
  obtain ⟨first, hfirst, hlo, hhi⟩ := makeDate_inYear hyear hlt Nat.one_pos (by decide : 1 < 13)
    Nat.one_pos (show 1 ≤ daysInMonth (isLeap year) 1 by cases isLeap year <;> decide)
  have hjan : daysBeforeMonth (isLeap year) 1 = 0 := by cases isLeap year <;> rfl
  rw [hjan] at hlo hhi
  have hnext := daysBeforeYear_next hyear
  have hle := daysBeforeYear_le hlt
  rw [observedFixedHoliday_eq, hfirst, ok_bind]
  unfold weekday
  split_ifs with hsat hsun
  · refine ⟨⟨first.val - 1, by omega⟩, shiftDays_eq_ok.2 ?_, .inl ?_⟩
    all_goals
      simp only
      omega
  · refine ⟨⟨first.val + 1, by omega⟩, shiftDays_eq_ok.2 ?_, .inr ?_⟩
    all_goals
      simp only
      omega
  · exact ⟨first, shiftDays_zero first, .inr (by omega)⟩

theorem otherHolidays_inYear : ∀ r ∈ (holidayRules year).tail, InYear year 0 363 r := by
  unfold holidayRules xnysAdHocClosures
  simp only [cons_append, nil_append, tail_cons, forall_mem_cons,
    forall_mem_append]
  refine ⟨nthWeekday_inYear hyear hlt (by decide) (by decide) (by decide) (by decide),
    nthWeekday_inYear hyear hlt (by decide) (by decide) (by decide) (by decide),
    lastWeekday_inYear hyear hlt (by decide) (by decide),
    observedFixedHoliday_inYear hyear hlt (by decide) (by decide) (by decide) (by decide),
    (firstWeekday_inYear hyear hlt (by decide) (by decide)).mono le_rfl (by decide),
    nthWeekday_inYear hyear hlt (by decide) (by decide) (by decide) (by decide),
    observedFixedHoliday_inYear hyear hlt (by decide) (by decide) (by decide) (by decide),
    goodFriday_inYear hyear hlt, ?_, ?_⟩
  · split_ifs
    · simpa using observedFixedHoliday_inYear hyear hlt (by decide) (by decide) (by decide)
        (by decide)
    · simp
  · split_ifs with hyear'
    · subst hyear'
      simpa using (makeDate_inYear hyear hlt (by decide : 0 < 1) (by decide) (by decide : 0 < 9)
        (by decide)).mono (by decide) (by decide)
    · simp

theorem xnysHolidays_spec : ∃ hs, xnysHolidays year = .ok hs ∧
    (∀ d ∈ hs, d.val + 1 = daysBeforeYear year ∧ weekday d = 4 ∨
      daysBeforeYear year ≤ d.val ∧ d.val ≤ daysBeforeYear year + 363) ∧
    ∀ d : Day, d.val + 1 = daysBeforeYear year → weekday d = 4 → d ∈ hs := by
  obtain ⟨first, hfirst, hday⟩ := newYearsDay hyear hlt
  have htail := otherHolidays_inYear hyear hlt
  obtain ⟨rest, hrest⟩ := exists_map_ok (f := id) fun r hr =>
    (htail r hr).imp fun _ h => h.1
  rw [map_id] at hrest
  have hall : collect (holidayRules year) = .ok (first :: rest) := by
    rw [collect_eq_ok, map_cons, ← hrest, ← hfirst]
    rfl
  refine ⟨(first :: rest).toFinset, ?_, fun d hd => ?_, fun d hd hfri => ?_⟩
  · rw [xnysHolidays, hall]
    rfl
  · rcases mem_cons.1 (mem_toFinset.1 hd) with rfl | hd
    · exact hday.imp_right fun h => ⟨h.1, h.2.1.trans (by omega)⟩
    · obtain ⟨d', hok, hlo, hhi⟩ := htail (.ok d) (hrest ▸ mem_map_of_mem hd)
      obtain rfl := Except.ok.inj hok
      exact .inr ⟨by omega, by omega⟩
  · rcases hday with ⟨hval, -⟩ | ⟨-, -, hnot⟩
    · have hsame : d = first := Fin.ext (by omega)
      rw [hsame]
      exact mem_toFinset.2 mem_cons_self
    · unfold weekday at hfri
      omega

end

/-! ## Sessions of a window -/

def IsHoliday (year : ℕ) (d : Day) : Prop := ∃ hs, xnysHolidays year = .ok hs ∧ d ∈ hs

def fridayBeforeNewYear (d : Day) : Bool :=
  d.civil.month = 12 && d.civil.day = 31 && weekday d = 4

section
variable {start end_ cursor d : Day} {holidays sessions : Finset Day}

theorem sessionsFrom_spec (holidays : Finset Day) (cursor : Day) (sessions : Finset Day)
    (hend : end_.val + 1 < maxOrdinal) :
    ∃ s, sessionsFrom holidays end_ cursor sessions = .ok s ∧ ∀ d, d ∈ s ↔
      d ∈ sessions ∨ cursor ≤ d ∧ d ≤ end_ ∧ weekday d < 5 ∧ d ∉ holidays := by
  fun_induction sessionsFrom holidays end_ cursor sessions with
  | case1 cursor sessions hle sessions' hlast ih =>
    obtain ⟨s, hs, hmem⟩ := ih
    refine ⟨s, hs, fun d => ?_⟩
    rw [hmem]
    have hnext : cursor ≤ d ↔ d = cursor ∨ (⟨cursor.val + 1, hlast⟩ : Day) ≤ d := by
      rw [Fin.ext_iff, Fin.le_def, Fin.le_def]
      simp only
      omega
    have hkept : d ∈ sessions' ↔
        d ∈ sessions ∨ d = cursor ∧ weekday d < 5 ∧ d ∉ holidays := by
      simp only [sessions']
      split_ifs with hopen
      · rw [Finset.mem_insert]
        constructor
        · rintro (rfl | h)
          · exact .inr ⟨rfl, hopen⟩
          · exact .inl h
        · rintro (h | ⟨rfl, -⟩)
          · exact .inr h
          · exact .inl rfl
      · refine ⟨.inl, ?_⟩
        rintro (h | ⟨rfl, h⟩)
        · exact h
        · exact absurd h hopen
    rw [hkept, hnext]
    constructor
    · rintro ((h | ⟨rfl, h⟩) | ⟨h, hrest⟩)
      · exact .inl h
      · exact .inr ⟨.inl rfl, hle, h⟩
      · exact .inr ⟨.inr h, hrest⟩
    · rintro (h | ⟨rfl | h, hrest⟩)
      · exact .inl (.inl h)
      · exact .inl (.inr ⟨rfl, hrest.2⟩)
      · exact .inr ⟨h, hrest⟩
  | case2 cursor sessions hle hlast =>
    exact absurd (hend.trans_le' (Nat.succ_le_succ hle)) hlast
  | case3 cursor sessions hlt =>
    refine ⟨sessions, rfl, fun d => ⟨.inl, ?_⟩⟩
    rintro (h | ⟨hfrom, hto, -⟩)
    · exact h
    · exact absurd (hfrom.trans hto) hlt

theorem sessionsFrom_last (h : cursor ≤ end_) (hend : end_.val + 1 = maxOrdinal) :
    sessionsFrom holidays end_ cursor sessions =
      .error ⟨.overflowError, "date value out of range"⟩ := by
  fun_induction sessionsFrom holidays end_ cursor sessions with
  | case1 cursor sessions hle sessions' hlast ih =>
    refine ih (Fin.le_def.2 ?_)
    simp only
    omega
  | case2 cursor sessions hle hlast => rfl
  | case3 cursor sessions hlt => exact absurd h hlt

theorem mem_foldl_union {hss : List (Finset Day)} {s : Finset Day} :
    d ∈ hss.foldl (· ∪ ·) s ↔ d ∈ s ∨ ∃ hs ∈ hss, d ∈ hs := by
  induction hss generalizing s with
  | nil => simp
  | cons hs hss ih => rw [foldl_cons, ih]; simp [or_assoc]

theorem collect_holidays (start end_ : Day) : ∃ hss, collect
    ((List.range' start.civil.year (end_.civil.year + 1 - start.civil.year)).map xnysHolidays) =
      .ok hss ∧ ∀ d, (∃ hs ∈ hss, d ∈ hs) ↔
        ∃ y, start.civil.year ≤ y ∧ y ≤ end_.civil.year ∧ IsHoliday y d := by
  have hyears : ∀ y ∈ List.range' start.civil.year (end_.civil.year + 1 - start.civil.year),
      ∃ hs, xnysHolidays y = .ok hs := by
    intro y hy
    have hmem := List.mem_range'_1.1 hy
    have hpos := start.year_pos
    have hlt := end_.year_lt
    have hy' : y < 10000 := by omega
    exact (xnysHolidays_spec (by omega) hy').imp fun _ h => h.1
  obtain ⟨hss, hhss⟩ := exists_map_ok hyears
  refine ⟨hss, collect_eq_ok.2 hhss, fun d => ?_⟩
  constructor
  · rintro ⟨hs, hmem, hd⟩
    have hok : Except.ok hs ∈ List.map xnysHolidays _ := hhss ▸ mem_map_of_mem hmem
    obtain ⟨y, hy, hyok⟩ := mem_map.1 hok
    have hmem := List.mem_range'_1.1 hy
    exact ⟨y, by omega, by omega, hs, hyok, hd⟩
  · rintro ⟨y, hlo, hhi, hs, hok, hd⟩
    have hy : y ∈ List.range' start.civil.year (end_.civil.year + 1 - start.civil.year) :=
      List.mem_range'_1.2 (by omega)
    have hmem : (.ok hs : Except PyError _) ∈ hss.map .ok := by
      rw [← hhss, ← hok]
      exact mem_map_of_mem hy
    exact ⟨hs, ok_mem_map_ok.1 hmem, hd⟩

theorem xnysSessionDays_spec (start : Day) (hend : end_.val + 1 < maxOrdinal) :
    ∃ s, xnysSessionDays start end_ = .ok s ∧ ∀ d, d ∈ s ↔
      start ≤ d ∧ d ≤ end_ ∧ weekday d < 5 ∧
        ¬ ∃ y, start.civil.year ≤ y ∧ y ≤ end_.civil.year ∧ IsHoliday y d := by
  obtain ⟨hss, hok, hhss⟩ := collect_holidays start end_
  obtain ⟨s, hs, hmem⟩ := sessionsFrom_spec (hss.foldl (· ∪ ·) ∅) start ∅ hend
  refine ⟨s, ?_, fun d => ?_⟩
  · rw [xnysSessionDays, hok, ok_bind, hs]
  · rw [hmem, mem_foldl_union, hhss]
    simp

theorem fridayBeforeNewYear_iff : fridayBeforeNewYear d = true ↔
    d.val + 1 = daysBeforeYear (d.civil.year + 1) ∧ weekday d = 4 := by
  rw [Day.last_iff]
  simp [fridayBeforeNewYear]

theorem isHoliday_iff {y : ℕ} (hpos : 0 < y) (hy : y < 10000) : IsHoliday y d ↔
    y = d.civil.year ∧ IsHoliday y d ∨ y = d.civil.year + 1 ∧ fridayBeforeNewYear d = true := by
  obtain ⟨hs, hok, hmem, hnew⟩ := xnysHolidays_spec hpos hy
  have hord := ymd2ord_mem d.civil_valid
  rw [d.ymd2ord_civil] at hord
  constructor
  · rintro ⟨hs', hok', hdmem⟩
    obtain rfl := Except.ok.inj (hok.symm.trans hok')
    have hnext := daysBeforeYear_next hpos
    rcases hmem d hdmem with ⟨hval, hfri⟩ | ⟨hlo, hhi⟩
    · have hbefore : y = d.civil.year + 1 := by
        rcases lt_trichotomy y (d.civil.year + 1) with hlt | heq | hgt
        · have := daysBeforeYear_mono (show y ≤ d.civil.year by omega)
          omega
        · exact heq
        · have := daysBeforeYear_mono (show d.civil.year + 1 + 1 ≤ y from hgt)
          have := daysBeforeYear_next (show 0 < d.civil.year + 1 by omega)
          omega
      subst hbefore
      exact .inr ⟨rfl, fridayBeforeNewYear_iff.2 ⟨hval, hfri⟩⟩
    · have hyear : d.civil.year = y := Day.year_eq_of_mem hlo (by omega)
      exact .inl ⟨hyear.symm, hs, hok, hdmem⟩
  · rintro (⟨-, h⟩ | ⟨rfl, heve⟩)
    · exact h
    · obtain ⟨hval, hfri⟩ := fridayBeforeNewYear_iff.1 heve
      exact ⟨hs, hok, hnew d hval hfri⟩

theorem not_isHoliday_of_friday (h : fridayBeforeNewYear d = true) : ¬ IsHoliday d.civil.year d := by
  rintro ⟨hs, hok, hd⟩
  have hpos := d.year_pos
  obtain ⟨hs', hok', hmem, -⟩ := xnysHolidays_spec hpos d.year_lt
  obtain rfl := Except.ok.inj (hok.symm.trans hok')
  have hval := (fridayBeforeNewYear_iff.1 h).1
  have hnext := daysBeforeYear_next hpos
  rcases hmem d hd with ⟨hbefore, -⟩ | ⟨-, hlate⟩ <;> omega

/-- **The session days of a window**: its weekdays that are no holidays of their year, but for the
    Friday before a New Year's Day that a later year of the window observes. -/
theorem xnysSessionDays_eq (start end_ : Day) (hend : end_.val + 1 < maxOrdinal) :
    ∃ s, xnysSessionDays start end_ = .ok s ∧ ∀ d, d ∈ s ↔ start ≤ d ∧ d ≤ end_ ∧
      weekday d < 5 ∧ ¬ IsHoliday d.civil.year d ∧
      ¬ (fridayBeforeNewYear d = true ∧ d.civil.year < end_.civil.year) := by
  obtain ⟨s, hs, hmem⟩ := xnysSessionDays_spec start hend
  refine ⟨s, hs, fun d => ?_⟩
  rw [hmem]
  refine and_congr_right fun hfrom => and_congr_right fun hto => and_congr_right fun _ => ?_
  have hyears := Day.year_mono hfrom
  have hyears' := Day.year_mono hto
  have hlt := end_.year_lt
  rw [← not_or, not_iff_not]
  constructor
  · rintro ⟨y, hlo, hy, hholiday⟩
    have hpos := start.year_pos
    rcases (isHoliday_iff (by omega) (by omega)).1 hholiday with ⟨rfl, h⟩ | ⟨rfl, heve⟩
    · exact .inl h
    · exact .inr ⟨heve, by omega⟩
  · rintro (h | ⟨heve, hnext⟩)
    · exact ⟨_, hyears, hyears', h⟩
    · exact ⟨d.civil.year + 1, by omega, by omega,
        (isHoliday_iff (by omega) (by omega)).2 (.inr ⟨rfl, heve⟩)⟩

theorem xnysSessionDays_last (h : start ≤ end_) (hend : end_.val + 1 = maxOrdinal) :
    xnysSessionDays start end_ = .error ⟨.overflowError, "date value out of range"⟩ := by
  obtain ⟨hss, hok, -⟩ := collect_holidays start end_
  rw [xnysSessionDays, hok, ok_bind, sessionsFrom_last h hend]

end

/-! ## Windows that meet -/

/-- The sessions of a window and of the one after it, up to `c`. -/
def sessionsOfBoth (a b c : Day) : Except PyError (Finset Day) := do
  let before ← xnysSessionDays a b
  let next ← shiftDays b 1
  let after ← xnysSessionDays next c
  return before ∪ after

/-- All windows that have the day, and whose sessions can be computed, agree on it. -/
def SameInEveryWindow (d : Day) : Prop :=
  ∀ a c a' c' s s', a ≤ d → d ≤ c → a' ≤ d → d ≤ c' →
    xnysSessionDays a c = .ok s → xnysSessionDays a' c' = .ok s' → (d ∈ s ↔ d ∈ s')

section
variable {a b c d : Day}

theorem sessionsOfBoth_iff (hab : a ≤ b) (hbc : b < c) : xnysSessionDays a c = sessionsOfBoth a b c ↔
    c.val + 1 = maxOrdinal ∨ fridayBeforeNewYear b = false := by
  have hblt : b.val + 1 < maxOrdinal := by
    have := c.isLt
    have := Fin.lt_def.1 hbc
    omega
  have hnext : shiftDays b 1 = .ok ⟨b.val + 1, hblt⟩ := shiftDays_eq_ok.2 (by simp)
  have hnextc : (⟨b.val + 1, hblt⟩ : Day) ≤ c := Fin.le_def.2 (Fin.lt_def.1 hbc)
  obtain ⟨before, hbefore, hmemb⟩ := xnysSessionDays_eq a _ hblt
  rcases (Nat.succ_le_of_lt c.isLt).eq_or_lt with hlast | hclt
  · have hboth : sessionsOfBoth a b c = .error ⟨.overflowError, "date value out of range"⟩ := by
      rw [sessionsOfBoth, hbefore, ok_bind, hnext, ok_bind, xnysSessionDays_last hnextc hlast]
      rfl
    rw [xnysSessionDays_last (hab.trans hbc.le) hlast, hboth]
    simp only [true_iff]
    exact .inl hlast
  · obtain ⟨whole, hwhole, hmemw⟩ := xnysSessionDays_eq a _ hclt
    obtain ⟨after, hafter, hmema⟩ := xnysSessionDays_eq ⟨b.val + 1, hblt⟩ c hclt
    have hboth : sessionsOfBoth a b c = .ok (before ∪ after) := by
      rw [sessionsOfBoth, hbefore, ok_bind, hnext, ok_bind, hafter]
      rfl
    rw [hwhole, hboth, Except.ok.injEq]
    constructor
    · -- a session on that Friday is one of the first window only
      intro h
      refine .inr (Bool.eq_false_iff.2 fun heve => ?_)
      have hval := (fridayBeforeNewYear_iff.1 heve).1
      have hmem : b ∈ whole := by
        rw [h, Finset.mem_union, hmemb]
        refine .inl ⟨hab, le_rfl, ?_, not_isHoliday_of_friday heve, fun hlt => ?_⟩
        · rw [(fridayBeforeNewYear_iff.1 heve).2]
          decide
        · exact lt_irrefl _ hlt.2
      refine ((hmemw b).1 hmem).2.2.2.2 ⟨heve, ?_⟩
      by_contra hyear
      have hord := ymd2ord_mem c.civil_valid
      rw [c.ymd2ord_civil] at hord
      have := daysBeforeYear_mono (show c.civil.year + 1 ≤ b.civil.year + 1 by omega)
      have := Fin.lt_def.1 hbc
      omega
    · rintro (hlast | heve)
      · omega
      · ext d
        rw [Finset.mem_union, hmemw, hmemb, hmema]
        have hsplit : (⟨b.val + 1, hblt⟩ : Day) ≤ d ↔ b < d := by
          rw [Fin.le_def, Fin.lt_def]
          simp only
          omega
        rw [hsplit]
        rcases le_or_gt d b with hle | hgt
        · have hlater : fridayBeforeNewYear d = true → d.civil.year < c.civil.year →
              d.civil.year < b.civil.year := by
            intro hd _
            by_contra hyear
            have hval := (fridayBeforeNewYear_iff.1 hd).1
            have hord := ymd2ord_mem b.civil_valid
            rw [b.ymd2ord_civil] at hord
            have := daysBeforeYear_mono (show b.civil.year + 1 ≤ d.civil.year + 1 by omega)
            have hsame : d = b := Fin.ext (by have := Fin.le_def.1 hle; omega)
            rw [hsame, heve] at hd
            cases hd
          have hyears := Day.year_mono hbc.le
          constructor
          · rintro ⟨hfrom, -, hweek, hholiday, hnot⟩
            exact .inl ⟨hfrom, hle, hweek, hholiday, fun h => hnot ⟨h.1, h.2.trans_le hyears⟩⟩
          · rintro (⟨hfrom, -, hweek, hholiday, hnot⟩ | ⟨hlt, -⟩)
            · exact ⟨hfrom, hle.trans hbc.le, hweek, hholiday,
                fun h => hnot ⟨h.1, hlater h.1 h.2⟩⟩
            · exact absurd hle (not_le.2 hlt)
        · constructor
          · rintro ⟨-, hto, hrest⟩
            exact .inr ⟨hgt, hto, hrest⟩
          · rintro (⟨-, hto, -⟩ | ⟨-, hto, hrest⟩)
            · exact absurd hto (not_le.2 hgt)
            · exact ⟨hab.trans hgt.le, hto, hrest⟩

theorem sameInEveryWindow_iff : SameInEveryWindow d ↔
    d.val + 1 = maxOrdinal ∨ fridayBeforeNewYear d = false := by
  constructor
  · intro h
    rcases (Nat.succ_le_of_lt d.isLt).eq_or_lt with hlast | hlt
    · exact .inl hlast
    · refine .inr (Bool.eq_false_iff.2 fun heve => ?_)
      obtain ⟨hval, hfri⟩ := fridayBeforeNewYear_iff.1 heve
      -- the window of the day alone, and the one with New Year's Day
      obtain ⟨next, hnext⟩ : ∃ next : Day, next.val = d.val + 1 := ⟨⟨d.val + 1, hlt⟩, rfl⟩
      have hafter := daysBeforeYear_next (show 0 < d.civil.year + 1 by omega)
      have hnew : next.val + 1 < maxOrdinal := by
        have hyear : d.civil.year + 1 < 10000 := by
          by_contra hge
          have := daysBeforeYear_mono (show 10000 ≤ d.civil.year + 1 by omega)
          have hmax : daysBeforeYear 10000 = maxOrdinal := by decide
          omega
        have := daysBeforeYear_le hyear
        omega
      obtain ⟨s, hs, hmem⟩ := xnysSessionDays_eq d d hlt
      obtain ⟨s', hs', hmem'⟩ := xnysSessionDays_eq d next hnew
      have hd : d ∈ s := (hmem d).2 ⟨le_rfl, le_rfl, by rw [hfri]; decide,
        not_isHoliday_of_friday heve, fun h => lt_irrefl _ h.2⟩
      have hle : d ≤ next := Fin.le_def.2 (by omega)
      have hyear : next.civil.year = d.civil.year + 1 := Day.year_eq_of_mem (by omega) (by omega)
      exact ((hmem' d).1 ((h d d d next s s' le_rfl le_rfl le_rfl hle hs hs').1 hd)).2.2.2.2
        ⟨heve, by omega⟩
  · rintro h a c a' c' s s' ha hc ha' hc' hs hs'
    have hmem : ∀ {a c s}, a ≤ d → d ≤ c → xnysSessionDays a c = .ok s →
        (d ∈ s ↔ weekday d < 5 ∧ ¬ IsHoliday d.civil.year d) := by
      intro a c s ha hc hs
      rcases (Nat.succ_le_of_lt c.isLt).eq_or_lt with hlast | hlt
      · rw [xnysSessionDays_last (ha.trans hc) hlast] at hs
        cases hs
      · obtain ⟨s', hs', hmem⟩ := xnysSessionDays_eq a _ hlt
        obtain rfl := Except.ok.inj (hs.symm.trans hs')
        rw [hmem]
        have hnot : ¬ (fridayBeforeNewYear d = true ∧ d.civil.year < c.civil.year) := by
          rintro ⟨heve, -⟩
          rcases h with hlast | hno
          · have := Fin.le_def.1 hc
            omega
          · rw [heve] at hno
            cases hno
        simp only [ha, hc, hnot, true_and, not_false_iff, and_true]
    rw [hmem ha hc hs, hmem ha' hc' hs']

/-- **When exchange sessions do not depend on the query window.**  A window has the sessions of two
    that meet in it exactly when the first one does not end on the Friday before a New Year's Day
    on a Saturday, or when the last day of the calendar keeps both from being computed; and the
    windows of a day agree on it exactly when it is not such a Friday. -/
theorem session_days_of_windows (a b c d : Day) :
    (a ≤ b → b < c → (xnysSessionDays a c = sessionsOfBoth a b c ↔
      c.val + 1 = maxOrdinal ∨ fridayBeforeNewYear b = false)) ∧
    (SameInEveryWindow d ↔ d.val + 1 = maxOrdinal ∨ fridayBeforeNewYear d = false) :=
  ⟨sessionsOfBoth_iff, sameInEveryWindow_iff⟩

/-- Friday, December 31, 2021, is a session of the window that ends on it, and not of the one that
    ends the day after. -/
theorem session_days_new_year : ∃ d next : Day,
    d.civil = ⟨2021, 12, 31⟩ ∧ next.civil = ⟨2022, 1, 1⟩ ∧
    (∃ s, xnysSessionDays d d = .ok s ∧ d ∈ s) ∧ (∃ s, xnysSessionDays d next = .ok s ∧ d ∉ s) ∧
    xnysSessionDays d next ≠ sessionsOfBoth d d next := by
  have heve : fridayBeforeNewYear ⟨738154, by decide⟩ = true := by decide
  obtain ⟨s, hs, hmem⟩ := xnysSessionDays_eq ⟨738154, by decide⟩
    ⟨738154, by decide⟩ (by decide)
  obtain ⟨s', hs', hmem'⟩ := xnysSessionDays_eq ⟨738154, by decide⟩
    ⟨738155, by decide⟩ (by decide)
  refine ⟨⟨738154, by decide⟩, ⟨738155, by decide⟩, by decide, by decide, ⟨s, hs, ?_⟩,
    ⟨s', hs', ?_⟩, ?_⟩
  · exact (hmem _).2 ⟨le_rfl, le_rfl, by decide, not_isHoliday_of_friday heve,
      fun h => lt_irrefl _ h.2⟩
  · intro hd
    exact ((hmem' _).1 hd).2.2.2.2 ⟨heve, by decide⟩
  · intro h
    rcases (sessionsOfBoth_iff le_rfl (by decide)).1 h with hlast | hno
    · exact absurd hlast (by decide)
    · rw [heve] at hno
      cases hno

end

end ChartingPlatform
