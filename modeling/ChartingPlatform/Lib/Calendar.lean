/-
  Dates by their civil parts, and ISO weeks.
-/
import ChartingPlatform.Lib.Gregorian
import ChartingPlatform.Lib.Outcome

namespace Lib

/-! ## Numerals of one width -/

section
variable {m n w : ℕ}

theorem fixedText_inj (hm : m < 10 ^ w) (hn : n < 10 ^ w) :
    fixedText 10 w m = fixedText 10 w n ↔ m = n := by
  refine ⟨fun h => ?_, congrArg _⟩
  have hread := fixed?_fixedText (b := 10) (by decide) (by decide) hm
  rw [h, fixed?_fixedText (by decide) (by decide) hn] at hread
  exact (Option.some.inj hread).symm

theorem fixedText_append_inj {r r' : List Char} (hm : m < 10 ^ w) (hn : n < 10 ^ w) :
    fixedText 10 w m ++ r = fixedText 10 w n ++ r' ↔ m = n ∧ r = r' := by
  constructor
  · intro h
    obtain ⟨hfixed, hrest⟩ := List.append_inj h (by simp)
    exact ⟨(fixedText_inj hm hn).1 hfixed, hrest⟩
  · rintro ⟨rfl, rfl⟩
    rfl

end

/-! ## Civil dates -/

theorem succ_div_of {a m : ℕ} (h : (a + 1) % m = 0) : (a + 1) / m = a / m + 1 := by
  rw [Nat.succ_div, if_pos (Nat.dvd_of_mod_eq_zero h)]

theorem succ_div_of_not {a m : ℕ} (h : (a + 1) % m ≠ 0) : (a + 1) / m = a / m := by
  rw [Nat.succ_div, if_neg fun hdvd => h (Nat.mod_eq_zero_of_dvd hdvd), Nat.add_zero]

theorem daysBeforeYear_succ {y : ℕ} (hy : 0 < y) :
    daysBeforeYear (y + 1) = daysBeforeYear y + 365 + if isLeap y then 1 else 0 := by
  obtain ⟨a, rfl⟩ : ∃ a, y = a + 1 := ⟨y - 1, by omega⟩
  have hle : a / 100 ≤ a / 4 := Nat.div_le_div_left (by decide) (by decide)
  unfold daysBeforeYear isLeap
  simp only [Nat.add_sub_cancel]
  by_cases h₄ : (a + 1) % 4 = 0
  · by_cases h₁₀₀ : (a + 1) % 100 = 0
    · by_cases h₄₀₀ : (a + 1) % 400 = 0
      · rw [succ_div_of h₄, succ_div_of h₁₀₀, succ_div_of h₄₀₀]
        simp only [h₄, h₄₀₀, decide_true, Bool.or_true, Bool.and_true, if_true]
        omega
      · rw [succ_div_of h₄, succ_div_of h₁₀₀, succ_div_of_not h₄₀₀]
        simp only [h₁₀₀, h₄₀₀, bne_self_eq_false, decide_false, Bool.or_false, Bool.and_false]
        simp only [Bool.false_eq_true, if_false]
        omega
    · have h₄₀₀ : (a + 1) % 400 ≠ 0 := by omega
      rw [succ_div_of h₄, succ_div_of_not h₁₀₀, succ_div_of_not h₄₀₀]
      simp only [h₄, decide_true, bne_iff_ne.2 h₁₀₀, Bool.true_or, Bool.and_true, if_true]
      omega
  · have h₁₀₀ : (a + 1) % 100 ≠ 0 := by omega
    have h₄₀₀ : (a + 1) % 400 ≠ 0 := by omega
    rw [succ_div_of_not h₄, succ_div_of_not h₁₀₀, succ_div_of_not h₄₀₀]
    simp only [h₄, decide_false, Bool.false_and, Bool.false_eq_true, if_false]
    omega

theorem daysBeforeYear_mono : Monotone daysBeforeYear := by
  refine monotone_nat_of_le_succ fun y => ?_
  rcases Nat.eq_zero_or_pos y with rfl | hy
  · decide
  · rw [daysBeforeYear_succ hy]
    omega

theorem month_le : ∀ leap : Bool, ∀ m < 13, 0 < m →
    daysBeforeMonth leap m + daysInMonth leap m ≤ 365 + (if leap then 1 else 0) ∧
      ∀ m' < 13, m < m' →
        daysBeforeMonth leap m + daysInMonth leap m ≤ daysBeforeMonth leap m' := by
  decide

variable {c : Civil}

theorem Civil.valid_iff : c.valid = true ↔ 0 < c.year ∧ 0 < c.month ∧ c.month < 13 ∧
    0 < c.day ∧ c.day ≤ daysInMonth (isLeap c.year) c.month := by
  simp only [Civil.valid, Bool.and_eq_true, decide_eq_true_eq, and_assoc]

theorem ymd2ord_mem (hc : c.valid = true) :
    daysBeforeYear c.year < ymd2ord c ∧ ymd2ord c ≤ daysBeforeYear (c.year + 1) := by
  obtain ⟨hyear, hmonth, hmonth', hday, hday'⟩ := Civil.valid_iff.1 hc
  have hle := (month_le (isLeap c.year) c.month hmonth' hmonth).1
  rw [daysBeforeYear_succ hyear]
  unfold ymd2ord
  omega

theorem eq_of_ymd2ord_eq {c' : Civil} (hc : c.valid = true) (hc' : c'.valid = true)
    (h : ymd2ord c = ymd2ord c') : c = c' := by
  have hmem := ymd2ord_mem hc
  have hmem' := ymd2ord_mem hc'
  have hyear : c.year = c'.year := by
    rcases lt_trichotomy c.year c'.year with hlt | heq | hlt
    · have : daysBeforeYear (c.year + 1) ≤ daysBeforeYear c'.year := daysBeforeYear_mono hlt
      omega
    · exact heq
    · have : daysBeforeYear (c'.year + 1) ≤ daysBeforeYear c.year := daysBeforeYear_mono hlt
      omega
  obtain ⟨-, hmonth, hmonth', hday, hday'⟩ := Civil.valid_iff.1 hc
  obtain ⟨-, hm, hm', hd, hd'⟩ := Civil.valid_iff.1 hc'
  obtain ⟨y, m, d⟩ := c
  obtain ⟨y', m', d'⟩ := c'
  dsimp only at *
  subst hyear
  unfold ymd2ord at h
  dsimp only at h
  have hmonths : m = m' := by
    rcases lt_trichotomy m m' with hlt | heq | hlt
    · have := (month_le (isLeap y) m hmonth' hmonth).2 m' hm' hlt
      omega
    · exact heq
    · have := (month_le (isLeap y) m' hm' hm).2 m hmonth' hlt
      omega
  subst hmonths
  have hdays : d = d' := by omega
  rw [hdays]

def Day.civil (d : Day) : Civil := ord2ymd (d.val + 1)

theorem Day.civil_valid (d : Day) : d.civil.valid = true := (ord2ymd_spec d.val.succ_pos).2

theorem Day.ymd2ord_civil (d : Day) : ymd2ord d.civil = d.val + 1 := (ord2ymd_spec d.val.succ_pos).1

theorem Day.year_lt (d : Day) : d.civil.year < 10000 := Lib.year_lt d.val.succ_pos d.isLt

theorem ymd2ord_le (hc : c.valid = true) (hyear : c.year < 10000) :
    ymd2ord c - 1 < maxOrdinal := by
  have hmem := ymd2ord_mem hc
  have hmono : daysBeforeYear (c.year + 1) ≤ daysBeforeYear 10000 := daysBeforeYear_mono hyear
  have hlast : daysBeforeYear 10000 = maxOrdinal := by decide
  omega

/-- `date(year, month, day)`. -/
def makeDate (c : Civil) : Except PyError Day :=
  if h : c.valid = true ∧ c.year < 10000 then .ok ⟨ymd2ord c - 1, ymd2ord_le h.1 h.2⟩
  else if c.year = 0 ∨ 10000 ≤ c.year then .error (valueError "year is out of range")
  else if c.month = 0 ∨ 13 ≤ c.month then .error (valueError "month must be in 1..12")
  else .error (valueError "day is out of range for month")

theorem makeDate_of (hc : c.valid = true) (hyear : c.year < 10000) :
    ∃ d, makeDate c = .ok d ∧ d.civil = c := by
  refine ⟨⟨ymd2ord c - 1, ymd2ord_le hc hyear⟩, dif_pos ⟨hc, hyear⟩, ?_⟩
  refine eq_of_ymd2ord_eq (Day.civil_valid _) hc ?_
  rw [Day.ymd2ord_civil]
  have := (ymd2ord_mem hc).1
  dsimp only
  omega

theorem makeDate_eq_ok {d : Day} : makeDate c = .ok d ↔ d.civil = c := by
  constructor
  · intro h
    unfold makeDate at h
    split_ifs at h with hc
    obtain ⟨d', hd', hcivil⟩ := makeDate_of hc.1 hc.2
    rw [makeDate, dif_pos hc, h] at hd'
    rw [Except.ok.inj hd', hcivil]
  · rintro rfl
    obtain ⟨d', hd', hcivil⟩ := makeDate_of d.civil_valid d.year_lt
    have hord := d'.ymd2ord_civil
    rw [hcivil, d.ymd2ord_civil] at hord
    rw [hd', Fin.ext (show d'.val = d.val by omega)]

theorem Day.eq_of_civil_eq {d d' : Day} (h : d.civil = d'.civil) : d = d' := by
  have hord := d.ymd2ord_civil
  rw [h, d'.ymd2ord_civil] at hord
  exact Fin.ext (by omega)

theorem Day.first_valid (d : Day) : (Civil.mk d.civil.year d.civil.month 1).valid = true := by
  obtain ⟨hyear, hmonth, hmonth', hday, hday'⟩ := Civil.valid_iff.1 d.civil_valid
  exact Civil.valid_iff.2 ⟨hyear, hmonth, hmonth', Nat.one_pos, hday.trans_le hday'⟩

theorem Day.month_mem (v : Day) : 0 < v.civil.month ∧ v.civil.month < 13 := by
  obtain ⟨-, hmonth, hmonth', -⟩ := Civil.valid_iff.1 v.civil_valid
  exact ⟨hmonth, hmonth'⟩

/-- `d + timedelta(days=n)`. -/
def shiftDays (d : Day) (n : ℤ) : Except PyError Day :=
  if h : 0 ≤ (d.val : ℤ) + n ∧ (d.val : ℤ) + n < maxOrdinal then
    .ok ⟨((d.val : ℤ) + n).toNat, by omega⟩
  else .error ⟨.overflowError, "date value out of range"⟩

section
variable {year : ℕ} {n : ℤ} {d d' : Day}

theorem daysBeforeYear_next (hyear : 0 < year) :
    daysBeforeYear year + 365 ≤ daysBeforeYear (year + 1) := by
  rw [daysBeforeYear_succ hyear]
  omega

theorem daysBeforeYear_le (hlt : year < 10000) : daysBeforeYear (year + 1) ≤ maxOrdinal := by
  have hlast : daysBeforeYear 10000 = maxOrdinal := by decide
  exact (daysBeforeYear_mono hlt).trans_eq hlast

theorem Day.year_pos (d : Day) : 0 < d.civil.year := (Civil.valid_iff.1 d.civil_valid).1

theorem Day.year_eq_of_mem (hlo : daysBeforeYear year ≤ d.val)
    (hhi : d.val < daysBeforeYear (year + 1)) : d.civil.year = year := by
  have hmem := ymd2ord_mem d.civil_valid
  rw [d.ymd2ord_civil] at hmem
  rcases lt_trichotomy d.civil.year year with hlt | heq | hgt
  · have := daysBeforeYear_mono (show d.civil.year + 1 ≤ year from hlt)
    omega
  · exact heq
  · have := daysBeforeYear_mono (show year + 1 ≤ d.civil.year from hgt)
    omega

theorem Day.year_mono (h : d ≤ d') : d.civil.year ≤ d'.civil.year := by
  by_contra hlt
  have hmem := ymd2ord_mem d.civil_valid
  have hmem' := ymd2ord_mem d'.civil_valid
  rw [Day.ymd2ord_civil] at hmem hmem'
  have := daysBeforeYear_mono (show d'.civil.year + 1 ≤ d.civil.year by omega)
  have := Fin.le_def.1 h
  omega

theorem Day.last_iff : d.val + 1 = daysBeforeYear (d.civil.year + 1) ↔
    d.civil.month = 12 ∧ d.civil.day = 31 := by
  have hpos := d.year_pos
  obtain ⟨-, hmonth, hmonth', hday, hday'⟩ := Civil.valid_iff.1 d.civil_valid
  have hbefore : ∀ leap : Bool, ∀ m < 12, 0 < m →
      daysBeforeMonth leap m + daysInMonth leap m ≤ daysBeforeMonth leap 12 := by decide
  have hdec : ∀ leap : Bool, daysBeforeMonth leap 12 = 334 + (if leap then 1 else 0) ∧
      daysInMonth leap 12 = 31 := by decide
  rw [← d.ymd2ord_civil, ymd2ord, daysBeforeYear_succ hpos]
  have hyear := hdec (isLeap d.civil.year)
  generalize d.civil.month = m at *
  rcases (show m ≤ 12 by omega).lt_or_eq with hlt | rfl
  · have := hbefore (isLeap d.civil.year) m hlt hmonth
    constructor <;> intro h <;> omega
  · constructor <;> intro h <;> omega

theorem ymd2ord_next {m : ℕ} (hyear : 0 < year) (hm : 0 < m) (hm' : m < 13) :
    ymd2ord ⟨year + if m = 12 then 1 else 0, m % 12 + 1, 1⟩ =
      ymd2ord ⟨year, m, 1⟩ + daysInMonth (isLeap year) m := by
  have hnext : ∀ leap : Bool, ∀ m < 12, 0 < m →
      daysBeforeMonth leap (m + 1) = daysBeforeMonth leap m + daysInMonth leap m := by decide
  have hfirst : ∀ leap : Bool, daysBeforeMonth leap 1 = 0 := by decide
  have hlast : ∀ leap : Bool, daysBeforeMonth leap 12 + daysInMonth leap 12 =
      365 + if leap then 1 else 0 := by decide
  unfold ymd2ord
  dsimp only
  rcases (show m ≤ 12 by omega).lt_or_eq with hlt | rfl
  · rw [if_neg (by omega), Nat.mod_eq_of_lt hlt, Nat.add_zero year, hnext _ m hlt hm]
    omega
  · rw [if_pos rfl, Nat.mod_self, Nat.zero_add, hfirst, daysBeforeYear_succ hyear]
    have := hlast (isLeap year)
    omega

theorem ymd2ord_first_mono {y m y' m' : ℕ} (hy : 0 < y) (hm : 0 < m) (hm' : m < 13)
    (hm₁ : 0 < m') (hm₁' : m' < 13) (h : y * 12 + m ≤ y' * 12 + m') :
    ymd2ord ⟨y, m, 1⟩ ≤ ymd2ord ⟨y', m', 1⟩ := by
  have hdays : ∀ leap : Bool, ∀ m < 13, 0 < m → 1 ≤ daysInMonth leap m := by decide
  have hmonths := month_le (isLeap y) m hm' hm
  have hone := hdays (isLeap y) m hm' hm
  rcases (show y ≤ y' by omega).lt_or_eq with hlt | rfl
  · have hyears : daysBeforeYear (y + 1) ≤ daysBeforeYear y' := daysBeforeYear_mono hlt
    rw [daysBeforeYear_succ hy] at hyears
    unfold ymd2ord
    dsimp only
    omega
  · rcases (show m ≤ m' by omega).lt_or_eq with hlt | rfl
    · have := hmonths.2 m' hm₁' hlt
      unfold ymd2ord
      dsimp only
      omega
    · exact le_rfl

theorem Day.val_eq (d : Day) :
    d.val + 2 = ymd2ord ⟨d.civil.year, d.civil.month, 1⟩ + d.civil.day ∧
    0 < ymd2ord ⟨d.civil.year, d.civil.month, 1⟩ ∧
    1 ≤ d.civil.day ∧ d.civil.day ≤ daysInMonth (isLeap d.civil.year) d.civil.month := by
  obtain ⟨-, -, -, hday, hday'⟩ := Civil.valid_iff.1 d.civil_valid
  have hord := d.ymd2ord_civil
  unfold ymd2ord at hord ⊢
  dsimp only
  refine ⟨by omega, by omega, hday, hday'⟩

theorem shiftDays_eq_ok : shiftDays d n = .ok d' ↔ (d'.val : ℤ) = d.val + n := by
  unfold shiftDays
  split_ifs with h
  · rw [Except.ok.injEq, Fin.ext_iff]
    simp only
    omega
  · have := d'.isLt
    simp only [false_iff]
    omega

theorem shiftDays_zero (d : Day) : shiftDays d 0 = .ok d := shiftDays_eq_ok.2 (by omega)

end

/-- `d.isoweekday()`: day 1 is a Monday. -/
def isoweekday (d : Day) : ℕ := d.val % 7 + 1

/-! ## ISO weeks -/

/-- The ordinal of the Monday of the first week of a year, which is the week of its first
Thursday. -/
def isoWeek1Monday (y : ℕ) : ℤ :=
  let firstDay : ℤ := daysBeforeYear y + 1
  let firstWeekday := (firstDay + 6) % 7
  let monday := firstDay - firstWeekday
  if 3 < firstWeekday then monday + 7 else monday

/-- The year and the week of `date.isocalendar()`. -/
def isoYearWeek (d : Day) : ℕ × ℕ :=
  let year := d.civil.year
  let today : ℤ := d.val + 1
  let week := (today - isoWeek1Monday year) / 7
  if week < 0 then (year - 1, ((today - isoWeek1Monday (year - 1)) / 7 + 1).toNat)
  else if 52 ≤ week ∧ isoWeek1Monday (year + 1) ≤ today then (year + 1, 1)
  else (year, (week + 1).toNat)

section
variable {y y' : ℕ} {d d' : Day}

theorem isoWeek1Monday_mem (y : ℕ) : isoWeek1Monday y % 7 = 1 ∧
    (daysBeforeYear y : ℤ) - 2 ≤ isoWeek1Monday y ∧ isoWeek1Monday y ≤ daysBeforeYear y + 4 := by
  unfold isoWeek1Monday
  dsimp only
  split_ifs with h <;> omega

theorem isoWeek1Monday_lt (h : y < y') (hy : 0 < y) : isoWeek1Monday y < isoWeek1Monday y' := by
  have hsucc := daysBeforeYear_succ hy
  have hmono : daysBeforeYear (y + 1) ≤ daysBeforeYear y' := daysBeforeYear_mono h
  have hmem := isoWeek1Monday_mem y
  have hmem' := isoWeek1Monday_mem y'
  split_ifs at hsucc <;> omega

theorem isoWeek1Monday_succ (hy : 0 < y) : isoWeek1Monday (y + 1) = isoWeek1Monday y + 364 ∨
    isoWeek1Monday (y + 1) = isoWeek1Monday y + 371 := by
  have hsucc := daysBeforeYear_succ hy
  have hmem := isoWeek1Monday_mem y
  have hmem' := isoWeek1Monday_mem (y + 1)
  split_ifs at hsucc <;> omega

theorem isoYearWeek_spec (d : Day) : ∃ y, 0 < y ∧ isoWeek1Monday y ≤ d.val + 1 ∧
    (d.val : ℤ) + 1 < isoWeek1Monday (y + 1) ∧
      isoYearWeek d = (y, ((d.val + 1 - isoWeek1Monday y) / 7 + 1).toNat) := by
  have hmem := ymd2ord_mem d.civil_valid
  rw [d.ymd2ord_civil] at hmem
  have hyear : 0 < d.civil.year := (Civil.valid_iff.1 d.civil_valid).1
  have hmonday := isoWeek1Monday_mem d.civil.year
  unfold isoYearWeek
  dsimp only
  generalize d.civil.year = y at *
  split_ifs with hbefore hafter
  · -- the first days of a year in the last week of the year before
    have hy : 2 ≤ y := by
      by_contra hlt
      obtain rfl : y = 1 := by omega
      have hfirst : isoWeek1Monday 1 = 1 := by decide
      omega
    obtain ⟨p, rfl⟩ : ∃ p, y = p + 1 := ⟨y - 1, by omega⟩
    have hsucc := daysBeforeYear_succ (y := p) (by omega)
    have hp := isoWeek1Monday_mem p
    refine ⟨p, by omega, ?_, by omega, rfl⟩
    split_ifs at hsucc <;> omega
  · -- the last days of a year in the first week of the next one
    have hsucc := daysBeforeYear_succ (y := y + 1) (by omega)
    have hnext := isoWeek1Monday_mem (y + 1)
    have hnext' := isoWeek1Monday_mem (y + 1 + 1)
    refine ⟨y + 1, by omega, hafter.2, ?_, ?_⟩
    · split_ifs at hsucc <;> omega
    · have hweek : ((d.val : ℤ) + 1 - isoWeek1Monday (y + 1)) / 7 = 0 := by omega
      rw [hweek]
      rfl
  · refine ⟨y, hyear, by omega, ?_, rfl⟩
    rcases isoWeek1Monday_succ hyear with h | h <;> omega

theorem isoYearWeek_lt (d : Day) : (isoYearWeek d).1 < 10000 ∧ (isoYearWeek d).2 < 100 := by
  obtain ⟨y, hy, hlow, hhigh, heq⟩ := isoYearWeek_spec d
  have hlt : d.val < maxOrdinal := d.isLt
  have hmax : isoWeek1Monday 10000 = maxOrdinal + 3 := by decide
  rw [heq]
  constructor
  · by_contra hge
    rcases (show 10000 ≤ y from not_lt.1 hge).lt_or_eq with hlt' | rfl
    · have := isoWeek1Monday_lt hlt' (by decide)
      omega
    · omega
  · dsimp only
    rcases isoWeek1Monday_succ hy with h | h <;> omega

/-- **The number of a week** tells the weeks from Monday to Sunday apart. -/
theorem isoYearWeek_eq_iff : isoYearWeek d = isoYearWeek d' ↔ d.val / 7 = d'.val / 7 := by
  obtain ⟨y, hy, hlow, hhigh, heq⟩ := isoYearWeek_spec d
  obtain ⟨y', hy', hlow', hhigh', heq'⟩ := isoYearWeek_spec d'
  have hmonday := (isoWeek1Monday_mem y).1
  have hmonday' := (isoWeek1Monday_mem (y + 1)).1
  have hmonday'' := (isoWeek1Monday_mem (y' + 1)).1
  rw [heq, heq', Prod.mk.injEq]
  constructor
  · rintro ⟨rfl, hweek⟩
    omega
  · intro hweek
    have hyears : y = y' := by
      rcases lt_trichotomy y y' with hlt | heq | hlt
      · have hle : isoWeek1Monday (y + 1) ≤ isoWeek1Monday y' := by
          rcases (Nat.succ_le_of_lt hlt).lt_or_eq with hlt' | heq'
          · exact (isoWeek1Monday_lt hlt' (by omega)).le
          · exact heq' ▸ le_rfl
        omega
      · exact heq
      · have hle : isoWeek1Monday (y' + 1) ≤ isoWeek1Monday y := by
          rcases (Nat.succ_le_of_lt hlt).lt_or_eq with hlt' | heq'
          · exact (isoWeek1Monday_lt hlt' (by omega)).le
          · exact heq' ▸ le_rfl
        omega
    subst hyears
    refine ⟨rfl, ?_⟩
    omega

end

end Lib
