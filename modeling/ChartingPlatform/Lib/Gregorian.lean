/-
  The proleptic Gregorian calendar of the years 1 to 9999, and ISO-8601 texts
  of dates and of instants.

  A day is its ordinal (day 1 is 0001-01-01), an instant the number of
  microseconds since the start of day 1, in UTC.
-/
import ChartingPlatform.Lib.Text

namespace Lib

/-! ## Civil dates -/

structure Civil where
  year : ℕ
  month : ℕ
  day : ℕ
  deriving DecidableEq

def isLeap (y : ℕ) : Bool := y % 4 = 0 && (y % 100 != 0 || y % 400 = 0)

/-- The number of days before January 1st of year `y`. -/
def daysBeforeYear (y : ℕ) : ℕ := (y - 1) * 365 + (y - 1) / 4 - (y - 1) / 100 + (y - 1) / 400

/-- The number of days of a year before the first day of month `m`. -/
def daysBeforeMonth (leap : Bool) (m : ℕ) : ℕ :=
  [0, 0, 31, 59, 90, 120, 151, 181, 212, 243, 273, 304, 334].getD m 0 +
    if 2 < m && leap then 1 else 0

def daysInMonth (leap : Bool) (m : ℕ) : ℕ :=
  [0, 31, 28, 31, 30, 31, 30, 31, 31, 30, 31, 30, 31].getD m 0 + if m = 2 && leap then 1 else 0

def Civil.valid (c : Civil) : Bool :=
  0 < c.year && 0 < c.month && c.month < 13 && 0 < c.day &&
    c.day ≤ daysInMonth (isLeap c.year) c.month

def ymd2ord (c : Civil) : ℕ :=
  daysBeforeYear c.year + daysBeforeMonth (isLeap c.year) c.month + c.day

/-- Month and day of the `n`-th day (from zero) of a year. -/
def monthDay (leap : Bool) (n : ℕ) : ℕ × ℕ :=
  let m := (n + 50) / 32
  if n < daysBeforeMonth leap m then (m - 1, n - daysBeforeMonth leap (m - 1) + 1)
  else (m, n - daysBeforeMonth leap m + 1)

def ord2ymd (n : ℕ) : Civil :=
  let n := n - 1
  let n400 := n / 146097
  let n := n % 146097
  let n100 := n / 36524
  let n := n % 36524
  let n4 := n / 1461
  let n := n % 1461
  let n1 := n / 365
  let n := n % 365
  let year := n400 * 400 + 1 + n100 * 100 + n4 * 4 + n1
  if n1 = 4 ∨ n100 = 4 then ⟨year - 1, 12, 31⟩
  else
    let md := monthDay (n1 = 3 && (n4 != 24 || n100 = 3)) n
    ⟨year, md.1, md.2⟩

theorem monthDay_spec : ∀ leap : Bool, ∀ n < 365,
    0 < (monthDay leap n).1 ∧ (monthDay leap n).1 < 13 ∧ 0 < (monthDay leap n).2 ∧
      (monthDay leap n).2 ≤ daysInMonth leap (monthDay leap n).1 ∧
      daysBeforeMonth leap (monthDay leap n).1 + (monthDay leap n).2 = n + 1 := by
  decide +kernel

theorem isLeap_cycle {a b c d : ℕ} (hb : b < 4) (hc : c < 25) (hd : d < 4) :
    isLeap (a * 400 + 1 + b * 100 + c * 4 + d) = (decide (d = 3) && (c != 24 || b = 3)) := by
  rw [Bool.eq_iff_iff]
  simp only [isLeap, Bool.and_eq_true, Bool.or_eq_true, bne_iff_ne, ne_eq, decide_eq_true_eq]
  omega

theorem daysBeforeYear_cycle {a b c d : ℕ} (hb : b < 4) (hc : c < 25) (hd : d < 4) :
    daysBeforeYear (a * 400 + 1 + b * 100 + c * 4 + d) =
      146097 * a + 36524 * b + 1461 * c + 365 * d := by
  have hy : a * 400 + 1 + b * 100 + c * 4 + d - 1 = a * 400 + b * 100 + c * 4 + d := by omega
  have h₄ : (a * 400 + b * 100 + c * 4 + d) / 4 = 100 * a + 25 * b + c := by omega
  have h₁₀₀ : (a * 400 + b * 100 + c * 4 + d) / 100 = 4 * a + b := by omega
  have h₄₀₀ : (a * 400 + b * 100 + c * 4 + d) / 400 = a := by omega
  rw [daysBeforeYear, hy, h₄, h₁₀₀, h₄₀₀]; omega

theorem ord2ymd_spec {n : ℕ} (hn : 0 < n) : ymd2ord (ord2ymd n) = n ∧ (ord2ymd n).valid = true := by
  have ha := Nat.div_add_mod (n - 1) 146097
  have hr := Nat.mod_lt (n - 1) (show 0 < 146097 by decide)
  simp only [ord2ymd]
  generalize (n - 1) / 146097 = a at *
  generalize (n - 1) % 146097 = r at *
  have hb := Nat.div_add_mod r 36524
  have hr₂ := Nat.mod_lt r (show 0 < 36524 by decide)
  generalize r / 36524 = b at *
  generalize r % 36524 = r₂ at *
  have hc := Nat.div_add_mod r₂ 1461
  have hr₃ := Nat.mod_lt r₂ (show 0 < 1461 by decide)
  generalize r₂ / 1461 = c at *
  generalize r₂ % 1461 = r₃ at *
  have hd := Nat.div_add_mod r₃ 365
  have hr₄ := Nat.mod_lt r₃ (show 0 < 365 by decide)
  generalize r₃ / 365 = d at *
  generalize r₃ % 365 = r₄ at *
  by_cases hend : d = 4 ∨ b = 4
  · -- the last day of a cycle is December 31st of a leap year
    rw [if_pos hend]
    obtain ⟨b', c', hb', hc', hy, hcd⟩ : ∃ b' c', b' < 4 ∧ c' < 25 ∧
        a * 400 + 1 + b * 100 + c * 4 + d - 1 = a * 400 + 1 + b' * 100 + c' * 4 + 3 ∧
        (c' ≠ 24 ∨ b' = 3) := by
      rcases hend with hd4 | hb4
      · exact ⟨b, c, by omega, by omega, by omega, by omega⟩
      · exact ⟨3, 24, by omega, by omega, by omega, by omega⟩
    have hleap := isLeap_cycle (a := a) hb' hc' (show 3 < 4 by decide)
    have hcd' : (decide (3 = 3) && (c' != 24 || decide (b' = 3))) = true := by simpa using hcd
    have hm : daysBeforeMonth true 12 = 335 := by decide
    have hi : daysInMonth true 12 = 31 := by decide
    rw [hcd'] at hleap
    rw [hy]
    constructor
    · simp only [ymd2ord, hleap, hm, daysBeforeYear_cycle hb' hc' (show 3 < 4 by decide)]; omega
    · simp only [Civil.valid, hleap, hi]; simp
  · rw [if_neg hend]
    have hb4 : b < 4 := by omega
    have hc25 : c < 25 := by omega
    have hd4 : d < 4 := by omega
    have hleap := isLeap_cycle (a := a) hb4 hc25 hd4
    have hyear := daysBeforeYear_cycle (a := a) hb4 hc25 hd4
    obtain ⟨h₁, h₂, h₃, h₄, h₅⟩ := monthDay_spec (decide (d = 3) && (c != 24 || b = 3)) r₄ hr₄
    generalize (decide (d = 3) && (c != 24 || b = 3)) = leap at *
    constructor
    · simp only [ymd2ord, hleap, hyear]; omega
    · simp only [Civil.valid, hleap, Bool.and_eq_true, decide_eq_true_eq]
      exact ⟨⟨⟨⟨by omega, h₁⟩, h₂⟩, h₃⟩, h₄⟩

def maxOrdinal : ℕ := 3652059

theorem year_lt {n : ℕ} (hn : 0 < n) (h : n ≤ maxOrdinal) : (ord2ymd n).year < 10000 := by
  obtain ⟨hord, hv⟩ := ord2ymd_spec hn
  simp only [Civil.valid, Bool.and_eq_true, decide_eq_true_eq] at hv
  simp only [ymd2ord, daysBeforeYear, maxOrdinal] at hord h
  omega

/-! ## Dates as text -/

/-- `YYYY-MM-DD`. -/
def civilText (c : Civil) : List Char :=
  fixedText 10 4 c.year ++ '-' :: fixedText 10 2 c.month ++ '-' :: fixedText 10 2 c.day

/-- Read `YYYY-MM-DD` off the front of a text; the date must exist. -/
def readCivil (cs : List Char) : Option (Civil × List Char) := do
  let (y, cs) ← field? 10 4 cs
  let cs ← expect? '-' cs
  let (m, cs) ← field? 10 2 cs
  let cs ← expect? '-' cs
  let (d, cs) ← field? 10 2 cs
  if (Civil.mk y m d).valid then some (⟨y, m, d⟩, cs) else none

/-- The day with an ordinal from 1 to 3652059, counted from zero. -/
abbrev Day := Fin maxOrdinal

instance : LawfulBEq Day := inferInstance

/-- `date.isoformat()`. -/
def dateText (d : Day) : List Char := civilText (ord2ymd (d.val + 1))

/-- `date.fromisoformat()` on `YYYY-MM-DD`. -/
def dateOfText? (cs : List Char) : Option Day :=
  match readCivil cs with
  | some (c, []) => if h : ymd2ord c - 1 < maxOrdinal then some ⟨ymd2ord c - 1, h⟩ else none
  | _ => none

theorem readCivil_civilText {c : Civil} (hv : c.valid = true) (hy : c.year < 10000)
    (r : List Char) : readCivil (civilText c ++ r) = some (c, r) := by
  have hv' := hv
  simp only [Civil.valid, Bool.and_eq_true, decide_eq_true_eq] at hv'
  have hdim : ∀ leap, ∀ m < 13, daysInMonth leap m ≤ 31 := by decide
  have hd := hdim (isLeap c.year) c.month hv'.1.1.2
  simp [readCivil, civilText, List.append_assoc,
    field?_fixedText (show 0 < 10 by decide) (show 10 ≤ 16 by decide)
      (show c.year < 10 ^ 4 by omega),
    field?_fixedText (show 0 < 10 by decide) (show 10 ≤ 16 by decide)
      (show c.month < 10 ^ 2 by omega),
    field?_fixedText (show 0 < 10 by decide) (show 10 ≤ 16 by decide)
      (show c.day < 10 ^ 2 by omega), hv]

theorem readCivil_ord {n : ℕ} (h : n < maxOrdinal) (r : List Char) :
    readCivil (civilText (ord2ymd (n + 1)) ++ r) = some (ord2ymd (n + 1), r) :=
  readCivil_civilText (ord2ymd_spec (by omega)).2 (year_lt (by omega) (by omega)) r

@[simp] theorem dateOfText?_dateText (d : Day) : dateOfText? (dateText d) = some d := by
  have h := readCivil_ord d.isLt []
  rw [List.append_nil] at h
  simp [dateOfText?, dateText, h, (ord2ymd_spec (Nat.succ_pos d.val)).1]

theorem dateText_injective : Function.Injective dateText := fun a b h => by
  have := dateOfText?_dateText a
  rw [h, dateOfText?_dateText] at this
  exact (Option.some.inj this).symm

/-! ## Instants as text -/

/-- The number of microseconds of the years 1 to 9999. -/
def instantLimit : ℕ := maxOrdinal * 86400000000

abbrev Instant := Fin instantLimit

instance : NeZero instantLimit := ⟨by decide⟩

instance neZero_seven : NeZero (7 : ℕ) := ⟨by decide⟩

/-- `YYYY-MM-DDTHH:MM:SS.ffffffZ`. -/
def instantText (t : Instant) : List Char :=
  civilText (ord2ymd (t.val / 86400000000 + 1)) ++ 'T' ::
    fixedText 10 2 (t.val % 86400000000 / 3600000000) ++ ':' ::
    fixedText 10 2 (t.val % 3600000000 / 60000000) ++ ':' ::
    fixedText 10 2 (t.val % 60000000 / 1000000) ++ '.' ::
    fixedText 10 6 (t.val % 1000000) ++ ['Z']

/-- Read `YYYY-MM-DDTHH:MM:SS.ffffffZ`. -/
def instantOfText? (cs : List Char) : Option Instant := do
  let (c, cs) ← readCivil cs
  let cs ← expect? 'T' cs
  let (h, cs) ← field? 10 2 cs
  let cs ← expect? ':' cs
  let (m, cs) ← field? 10 2 cs
  let cs ← expect? ':' cs
  let (s, cs) ← field? 10 2 cs
  let cs ← expect? '.' cs
  let (f, cs) ← field? 10 6 cs
  let cs ← expect? 'Z' cs
  if cs = [] ∧ h < 24 ∧ m < 60 ∧ s < 60 then
    let us := (ymd2ord c - 1) * 86400000000 + h * 3600000000 + m * 60000000 + s * 1000000 + f
    if hlt : us < instantLimit then some ⟨us, hlt⟩ else none
  else none

@[simp] theorem instantOfText?_instantText (t : Instant) :
    instantOfText? (instantText t) = some t := by
  have hday : t.val / 86400000000 < maxOrdinal :=
    Nat.div_lt_of_lt_mul (by rw [Nat.mul_comm]; exact t.isLt)
  have hus : (t.val / 86400000000 + 1 - 1) * 86400000000 +
      t.val % 86400000000 / 3600000000 * 3600000000 + t.val % 3600000000 / 60000000 * 60000000 +
      t.val % 60000000 / 1000000 * 1000000 + t.val % 1000000 = t.val := by omega
  have hf : ∀ {w n : ℕ}, n < 10 ^ w → ∀ r, field? 10 w (fixedText 10 w n ++ r) = some (n, r) :=
    fun h r => field?_fixedText (by decide) (by decide) h r
  simp only [instantOfText?, instantText, List.append_assoc, List.cons_append, readCivil_ord hday,
    hf (show t.val % 86400000000 / 3600000000 < 10 ^ 2 by omega),
    hf (show t.val % 3600000000 / 60000000 < 10 ^ 2 by omega),
    hf (show t.val % 60000000 / 1000000 < 10 ^ 2 by omega),
    hf (show t.val % 1000000 < 10 ^ 6 by omega), expect?_cons,
    Option.bind_eq_bind, Option.bind_some, (ord2ymd_spec (Nat.succ_pos _)).1, hus]
  rw [if_pos ⟨trivial, by omega, by omega, by omega⟩, dif_pos t.isLt]

theorem instantText_injective : Function.Injective instantText := fun a b h => by
  have := instantOfText?_instantText a
  rw [h, instantOfText?_instantText] at this
  exact (Option.some.inj this).symm

end Lib
