/-
  Planning of the gaps of a range on the exchange calendar (`ohlcv_coverage.py`,
  `_calendar_missing_slices`).

  Days have sessions in New York time, weeks and months are buckets in UTC with the
  sessions of their days.  A moment is the number of microseconds since the start of
  day 1; the rules of the time zone are a parameter, since the tz database is not part
  of the repository.
-/
import ChartingPlatform.Bars.SessionDays
import ChartingPlatform.Bars.Tables
import ChartingPlatform.Lib.Stretches

namespace ChartingPlatform

open Lib List

/-! ## Moments -/

def hourMicros : ℕ := 3600000000

/-- `America/New_York`: what its clock is behind UTC, at a moment and at a wall-clock time. -/
structure ExchangeZone where
  behind : ℤ → ℤ
  behindWall : ℤ → ℤ
  behind_mem : ∀ t, 4 * hourMicros ≤ behind t ∧ behind t ≤ 5 * hourMicros
  behindWall_mem : ∀ w, 4 * hourMicros ≤ behindWall w ∧ behindWall w ≤ 5 * hourMicros

/-- `t.date()`. -/
def dateOf (t : Instant) : Day := ⟨t.val / (24 * hourMicros), by
  have := t.isLt
  unfold instantLimit at this
  unfold hourMicros
  omega⟩

/-- `datetime.combine(d, time.min, tzinfo=UTC)`. -/
def dayStart (d : Day) : ℤ := 24 * hourMicros * d.val

/-- `t.astimezone(_XNYS_TZ).date()`. -/
def ExchangeZone.localDate (zone : ExchangeZone) (t : Instant) : Except PyError Day :=
  if h : zone.behind t.val ≤ t.val then
    .ok (dateOf ⟨(t.val - zone.behind t.val).toNat, by
      have := t.isLt
      have := (zone.behind_mem t.val).1
      omega⟩)
  else .error ⟨.overflowError, "date value out of range"⟩

/-- `datetime.combine(d, time(hour), tzinfo=_XNYS_TZ).astimezone(UTC)`. -/
def ExchangeZone.localTime (zone : ExchangeZone) (d : Day) (hour : ℕ) : ℤ :=
  dayStart d + hourMicros * hour + zone.behindWall (dayStart d + hourMicros * hour)

/-! ## Periods -/

/-- An entry of `periods`. -/
structure CalendarPeriod where
  bucket : Day
  start : ℤ
  stop : ℤ
  deriving DecidableEq

def sessionPeriod (zone : ExchangeZone) (start end_ : Instant) (session : Day) :
    Except PyError (Option CalendarPeriod) :=
  if zone.localTime session 0 < start.val ∨ (end_.val : ℤ) < zone.localTime session 16 then .ok none
  else do
    let next ← shiftDays session 1
    return some ⟨session, zone.localTime session 0, min (zone.localTime next 0 - 1) end_.val⟩

def periodsOfSessions (zone : ExchangeZone) (start end_ : Instant) :
    List Day → Except PyError (List CalendarPeriod)
  | [] => .ok []
  | session :: sessions => do
    let period ← sessionPeriod zone start end_ session
    let periods ← periodsOfSessions zone start end_ sessions
    return period.toList ++ periods

def sessionPeriods (zone : ExchangeZone) (start end_ : Instant) :
    Except PyError (List CalendarPeriod) := do
  let first ← zone.localDate start
  let last ← zone.localDate end_
  let sessions ← xnysSessionDays first last
  periodsOfSessions zone start end_ sessions.sort

theorem weekStart_lt (d : Day) : d.val - weekday d < maxOrdinal := by
  have := d.isLt
  omega

theorem monthStart_lt (d : Day) :
    ymd2ord ⟨d.civil.year, d.civil.month, 1⟩ - 1 < maxOrdinal :=
  ymd2ord_le d.first_valid d.year_lt

/-- `bucket.replace(day=1)` or the Monday of its week. -/
def bucketOf (timeframe : Timeframe) (d : Day) : Day :=
  if timeframe = .W1 then ⟨d.val - weekday d, weekStart_lt d⟩
  else ⟨ymd2ord ⟨d.civil.year, d.civil.month, 1⟩ - 1, monthStart_lt d⟩

def nextBucket (timeframe : Timeframe) (bucket : Day) : Except PyError Day :=
  if timeframe = .W1 then shiftDays bucket 7
  else makeDate ⟨bucket.civil.year + if bucket.civil.month = 12 then 1 else 0,
    bucket.civil.month % 12 + 1, 1⟩

def lastSession (bucket next : Day) : Except PyError (Option Day) := do
  let last ← shiftDays next (-1)
  let sessions ← xnysSessionDays bucket last
  return if h : sessions.Nonempty then some (sessions.max' h) else none

theorem nextBucket_gt {timeframe : Timeframe} {bucket next : Day}
    (h : nextBucket timeframe bucket = .ok next) : bucket < next := by
  unfold nextBucket at h
  by_cases hweek : timeframe = .W1
  · rw [if_pos hweek] at h
    have := shiftDays_eq_ok.1 h
    exact Fin.lt_def.2 (by omega)
  · rw [if_neg hweek] at h
    have hmonth := bucket.month_mem
    have hnext := next.ymd2ord_civil
    rw [makeDate_eq_ok.1 h, ymd2ord_next bucket.year_pos hmonth.1 hmonth.2] at hnext
    have := bucket.val_eq
    exact Fin.lt_def.2 (by omega)

/-- The `while` loop over the weeks or months of a range, from `bucket`. -/
def bucketPeriods (zone : ExchangeZone) (timeframe : Timeframe) (end_ : Instant) (bucket : Day) :
    Except PyError (List CalendarPeriod) :=
  match _hnext : nextBucket timeframe bucket with
  | .error e => .error e
  | .ok next =>
    if (end_.val : ℤ) < dayStart bucket then .ok []
    else match lastSession bucket next with
      | .error e => .error e
      | .ok none => bucketPeriods zone timeframe end_ next
      | .ok (some session) =>
        if (end_.val : ℤ) < zone.localTime session 16 then .ok []
        else (bucketPeriods zone timeframe end_ next).map
          (⟨bucket, dayStart bucket, min (dayStart next - 1) end_.val⟩ :: ·)
termination_by maxOrdinal - bucket.val
decreasing_by all_goals exact Nat.sub_lt_sub_left bucket.isLt (nextBucket_gt ‹_›)

def firstBucket (timeframe : Timeframe) (start : Instant) : Except PyError Day :=
  let bucket := bucketOf timeframe (dateOf start)
  if dayStart bucket < start.val then nextBucket timeframe bucket else .ok bucket

def calendarPeriods (zone : ExchangeZone) (timeframe : Timeframe) (start end_ : Instant) :
    Except PyError (List CalendarPeriod) :=
  if timeframe = .D1 then sessionPeriods zone start end_
  else do
    let bucket ← firstBucket timeframe start
    bucketPeriods zone timeframe end_ bucket

/-- The period of a bar, as a member of `present`. -/
def presentKey (timeframe : Timeframe) (value : Instant) : Day :=
  if timeframe = .D1 then dateOf value else bucketOf timeframe (dateOf value)

/-! ## Slices -/

/-- The loop over the missing periods with their indices; `first` and `previous` are the ends of
    the slice that is open. -/
def slicesFrom (first : CalendarPeriod) (previousIndex : ℕ) (previous : CalendarPeriod) :
    List (CalendarPeriod × ℕ) → List (ℤ × ℤ)
  | [] => [(first.start, previous.stop)]
  | (current, index) :: rest =>
    if index ≠ previousIndex + 1 then
      (first.start, previous.stop) :: slicesFrom current index current rest
    else slicesFrom first index current rest

def sliceMissing : List (CalendarPeriod × ℕ) → List (ℤ × ℤ)
  | [] => []
  | (first, index) :: rest => slicesFrom first index first rest

/-- `_calendar_missing_slices` for the calendar `"XNYS"`. -/
def calendarMissingSlices (zone : ExchangeZone) (ordered : List Instant) (timeframe : Timeframe)
    (start end_ : Instant) : Except PyError (Option (List (ℤ × ℤ))) :=
  if timeframe ∉ [.D1, .W1, .MN] then .ok none
  else do
    let periods ← calendarPeriods zone timeframe start end_
    let present := ordered.map (presentKey timeframe)
    return some (sliceMissing (periods.zipIdx.filter fun p => decide (p.1.bucket ∉ present)))

/-! ## Slices are stretches -/

def CalendarPeriod.span (p : CalendarPeriod) : ℤ × ℤ := (p.start, p.stop)

section
variable {first previous : CalendarPeriod} {n i : ℕ} {periods : List CalendarPeriod}

theorem slicesFrom_apart (keep : CalendarPeriod → Bool) (h : n < i) :
    slicesFrom first n previous ((periods.zipIdx (i + 1)).filter fun p => keep p.1) =
      (first.start, previous.stop) ::
        sliceMissing ((periods.zipIdx (i + 1)).filter fun p => keep p.1) := by
  generalize hrest : (periods.zipIdx (i + 1)).filter (fun p => keep p.1) = rest
  cases rest with
  | nil => rfl
  | cons head rest =>
    obtain ⟨p, j⟩ := head
    have hmem : (p, j) ∈ (periods.zipIdx (i + 1)).filter fun p => keep p.1 :=
      hrest ▸ mem_cons_self
    have hj := mem_zipIdx (mem_of_mem_filter hmem)
    unfold slicesFrom
    rw [if_pos (by omega)]
    rfl

theorem slices_eq (keep : CalendarPeriod → Bool) (periods : List CalendarPeriod) : ∀ n,
    sliceMissing ((periods.zipIdx n).filter fun p => keep p.1) =
      stretches CalendarPeriod.span keep periods ∧
    ∀ first previous, slicesFrom first n previous
      ((periods.zipIdx (n + 1)).filter fun p => keep p.1) =
        stretchesFrom CalendarPeriod.span keep (some (first.start, previous.stop)) periods := by
  induction periods with
  | nil =>
    intro n
    exact ⟨rfl, fun _ _ => rfl⟩
  | cons p periods ih =>
    intro n
    rw [zipIdx_cons, zipIdx_cons]
    cases hp : keep p with
    | false =>
      rw [filter_cons_of_neg (by simp [hp]), filter_cons_of_neg (by simp [hp])]
      refine ⟨?_, fun first previous => ?_⟩
      · rw [(ih (n + 1)).1, stretches, stretches, stretchesFrom, hp]
        rfl
      · rw [slicesFrom_apart keep (Nat.lt_succ_self n), (ih (n + 1 + 1)).1, stretchesFrom, hp]
        rfl
    | true =>
      rw [filter_cons_of_pos (by simp [hp]), filter_cons_of_pos (by simp [hp])]
      refine ⟨?_, fun first previous => ?_⟩
      · rw [sliceMissing, (ih n).2, stretches, stretchesFrom, if_pos hp]
        rfl
      · rw [slicesFrom, if_neg (by simp), (ih (n + 1)).2, stretchesFrom, if_pos hp]
        rfl

end

/-! ## Times of the exchange -/

section
variable {zone : ExchangeZone} {d d' : Day} {t : Instant}

theorem localTime_mem (zone : ExchangeZone) (d : Day) (hour : ℕ) :
    dayStart d + hourMicros * hour + 4 * hourMicros ≤ zone.localTime d hour ∧
      zone.localTime d hour ≤ dayStart d + hourMicros * hour + 5 * hourMicros := by
  have := zone.behindWall_mem (dayStart d + hourMicros * hour)
  unfold ExchangeZone.localTime
  omega

theorem dayStart_add (h : d.val + 1 ≤ d'.val) : dayStart d + 24 * hourMicros ≤ dayStart d' := by
  unfold dayStart hourMicros
  omega

theorem dateOf_mem (t : Instant) :
    dayStart (dateOf t) ≤ t.val ∧ (t.val : ℤ) < dayStart (dateOf t) + 24 * hourMicros := by
  unfold dayStart dateOf hourMicros
  dsimp only
  omega

end

/-! ## Expected periods -/

/-- A session of the dates of the range in New York that starts and closes within it. -/
def ExpectedSession (zone : ExchangeZone) (start end_ : Instant) (p : CalendarPeriod) : Prop :=
  ∃ first last sessions next, zone.localDate start = .ok first ∧ zone.localDate end_ = .ok last ∧
    xnysSessionDays first last = .ok sessions ∧ p.bucket ∈ sessions ∧
    shiftDays p.bucket 1 = .ok next ∧
    start.val ≤ zone.localTime p.bucket 0 ∧ zone.localTime p.bucket 16 ≤ end_.val ∧
    p.start = zone.localTime p.bucket 0 ∧ p.stop = min (zone.localTime next 0 - 1) end_.val

/-- A week or month with sessions, the last of which closes within the range. -/
def CompletedBucket (zone : ExchangeZone) (timeframe : Timeframe) (end_ : Instant)
    (p : CalendarPeriod) : Prop :=
  bucketOf timeframe p.bucket = p.bucket ∧ ∃ next session,
    nextBucket timeframe p.bucket = .ok next ∧ lastSession p.bucket next = .ok (some session) ∧
    zone.localTime session 16 ≤ end_.val ∧
    p.start = dayStart p.bucket ∧ p.stop = min (dayStart next - 1) end_.val

/-- The expected periods of a range: its completed sessions, or the completed weeks or months that
    start in it. -/
def ExpectedPeriod (zone : ExchangeZone) (timeframe : Timeframe) (start end_ : Instant)
    (p : CalendarPeriod) : Prop :=
  if timeframe = .D1 then ExpectedSession zone start end_ p
  else CompletedBucket zone timeframe end_ p ∧ start.val ≤ p.start

/-- The periods stand in order, and are those that `expected` names. -/
structure PeriodsAre (expected : CalendarPeriod → Prop) (periods : List CalendarPeriod) : Prop where
  mem_iff : ∀ p, p ∈ periods ↔ expected p
  le : ∀ p ∈ periods, p.start ≤ p.stop
  ordered : periods.Pairwise fun p q => p.stop < q.start

/-! ## The periods of sessions -/

section
variable {zone : ExchangeZone} {start end_ : Instant} {p q : CalendarPeriod} {session : Day}
  {sessions : List Day} {periods : List CalendarPeriod}

theorem sessionPeriod_eq_some : sessionPeriod zone start end_ session = .ok (some p) ↔
    p.bucket = session ∧ ∃ next, shiftDays session 1 = .ok next ∧
      start.val ≤ zone.localTime session 0 ∧ zone.localTime session 16 ≤ end_.val ∧
      p.start = zone.localTime session 0 ∧
      p.stop = min (zone.localTime next 0 - 1) end_.val := by
  unfold sessionPeriod
  split_ifs with hout
  · simp only [Except.ok.injEq, reduceCtorEq, false_iff]
    rintro ⟨-, next, -, hstart, hclose, -⟩
    omega
  · rw [bind_eq_ok]
    constructor
    · rintro ⟨next, hnext, h⟩
      obtain rfl := Option.some.inj (Except.ok.inj h)
      exact ⟨rfl, next, hnext, by omega, by omega, rfl, rfl⟩
    · rintro ⟨hbucket, next, hnext, -, -, hstart, hstop⟩
      refine ⟨next, hnext, ?_⟩
      obtain ⟨bucket, first, last⟩ := p
      dsimp only at hbucket hstart hstop
      rw [hbucket, hstart, hstop]
      rfl

theorem sessionPeriod_mem (h : sessionPeriod zone start end_ p.bucket = .ok (some p)) :
    start.val ≤ p.start ∧ p.start ≤ p.stop ∧ p.stop ≤ end_.val ∧
      dayStart p.bucket + 4 * hourMicros ≤ p.start ∧
      p.stop < dayStart p.bucket + 29 * hourMicros := by
  obtain ⟨-, next, hnext, hstart, hclose, hp, hq⟩ := sessionPeriod_eq_some.1 h
  have hval := shiftDays_eq_ok.1 hnext
  have hday : dayStart next = dayStart p.bucket + 24 * hourMicros := by
    unfold dayStart
    rw [hval]
    ring
  have hopen := localTime_mem zone p.bucket 0
  have hclosed := localTime_mem zone p.bucket 16
  have hmidnight := localTime_mem zone next 0
  have hhour : 0 < (hourMicros : ℤ) := by decide
  rw [hp, hq]
  simp only [Nat.cast_zero, mul_zero, add_zero] at hopen hmidnight
  rcases min_cases (zone.localTime next 0 - 1) (end_.val : ℤ) with ⟨hmin, hle⟩ | ⟨hmin, hle⟩
  · rw [hmin]
    push_cast at hclosed
    refine ⟨hstart, ?_, hle, hopen.1, ?_⟩ <;> omega
  · rw [hmin]
    push_cast at hclosed
    refine ⟨hstart, ?_, le_rfl, hopen.1, ?_⟩ <;> omega

theorem sessionPeriod_before (hp : sessionPeriod zone start end_ p.bucket = .ok (some p))
    (hq : sessionPeriod zone start end_ q.bucket = .ok (some q)) (h : p.bucket < q.bucket) :
    p.stop < q.start := by
  obtain ⟨-, next, hnext, -, -, -, hstop⟩ := sessionPeriod_eq_some.1 hp
  obtain ⟨-, -, -, -, -, hstart, -⟩ := sessionPeriod_eq_some.1 hq
  have hval := shiftDays_eq_ok.1 hnext
  have hle : p.stop ≤ zone.localTime next 0 - 1 := hstop ▸ min_le_left _ _
  have hlt := Fin.lt_def.1 h
  rcases (show next.val ≤ q.bucket.val by omega).lt_or_eq with hlater | hsame
  · have hdays := dayStart_add hlater
    have hmidnight := localTime_mem zone next 0
    have hopen := localTime_mem zone q.bucket 0
    have hhour : 0 < (hourMicros : ℤ) := by decide
    omega
  · have heq : q.bucket = next := Fin.ext hsame.symm
    rw [hstart, heq]
    omega

theorem periodsOfSessions_are (hsorted : sessions.Pairwise (· < ·))
    (h : periodsOfSessions zone start end_ sessions = .ok periods) :
    PeriodsAre (fun p => p.bucket ∈ sessions ∧
      sessionPeriod zone start end_ p.bucket = .ok (some p)) periods := by
  induction sessions generalizing periods with
  | nil =>
    obtain rfl := Except.ok.inj h
    exact ⟨by simp, by simp, .nil⟩
  | cons session sessions ih =>
    obtain ⟨period, hperiod, h⟩ := bind_eq_ok.1 h
    obtain ⟨rest, hrest, h⟩ := bind_eq_ok.1 h
    obtain rfl := Except.ok.inj h
    obtain ⟨hfirst, hsorted⟩ := pairwise_cons.1 hsorted
    have hi := ih hsorted hrest
    have hmem : ∀ p, p ∈ period.toList ++ rest ↔ p.bucket ∈ session :: sessions ∧
        sessionPeriod zone start end_ p.bucket = .ok (some p) := by
      intro p
      rw [mem_append, Option.mem_toList, hi.mem_iff, mem_cons]
      constructor
      · rintro (hp | ⟨hp, hok⟩)
        · rw [hp] at hperiod
          have hbucket := (sessionPeriod_eq_some.1 hperiod).1
          exact ⟨.inl hbucket, hbucket ▸ hperiod⟩
        · exact ⟨.inr hp, hok⟩
      · rintro ⟨rfl | hp, hok⟩
        · exact .inl (Except.ok.inj (hperiod.symm.trans hok))
        · exact .inr ⟨hp, hok⟩
    refine ⟨hmem, fun p hp => (sessionPeriod_mem ((hmem p).1 hp).2).2.1, ?_⟩
    refine pairwise_append.2 ⟨?_, hi.ordered, fun p hp q hq => ?_⟩
    · cases period with
      | none => exact .nil
      | some p => exact pairwise_singleton _ _
    · have hpok := ((hmem p).1 (mem_append_left _ hp)).2
      have hqok := (hi.mem_iff q).1 hq
      rw [Option.mem_toList] at hp
      rw [hp] at hperiod
      have hbucket := (sessionPeriod_eq_some.1 hperiod).1
      exact sessionPeriod_before hpok hqok.2 (hbucket ▸ hfirst _ hqok.1)

theorem sessionPeriods_are (h : sessionPeriods zone start end_ = .ok periods) :
    PeriodsAre (ExpectedSession zone start end_) periods := by
  obtain ⟨first, hfirst, h⟩ := bind_eq_ok.1 h
  obtain ⟨last, hlast, h⟩ := bind_eq_ok.1 h
  obtain ⟨sessions, hsessions, h⟩ := bind_eq_ok.1 h
  have hare := periodsOfSessions_are (Finset.sortedLT_sort sessions).pairwise h
  refine ⟨fun p => (hare.mem_iff p).trans ?_, hare.le, hare.ordered⟩
  rw [Finset.mem_sort, sessionPeriod_eq_some]
  constructor
  · rintro ⟨hmem, -, next, hnext, hrest⟩
    exact ⟨first, last, sessions, next, hfirst, hlast, hsessions, hmem, hnext, hrest⟩
  · rintro ⟨first', last', sessions', next, hfirst', hlast', hsessions', hmem, hnext, hrest⟩
    obtain rfl := Except.ok.inj (hfirst.symm.trans hfirst')
    obtain rfl := Except.ok.inj (hlast.symm.trans hlast')
    obtain rfl := Except.ok.inj (hsessions.symm.trans hsessions')
    exact ⟨hmem, rfl, next, hnext, hrest⟩

end

/-! ## The periods of weeks and months -/

section
variable {zone : ExchangeZone} {timeframe : Timeframe} {start end_ : Instant}
  {p q : CalendarPeriod} {d bucket next session : Day} {periods : List CalendarPeriod}

theorem nextBucket_val (h : nextBucket timeframe bucket = .ok next) :
    if timeframe = .W1 then next.val = bucket.val + 7 else
      next.val + bucket.civil.day = bucket.val + 1 +
        daysInMonth (isLeap bucket.civil.year) bucket.civil.month ∧ next.civil.day = 1 := by
  unfold nextBucket at h
  by_cases hweek : timeframe = .W1
  · rw [if_pos hweek] at h ⊢
    have := shiftDays_eq_ok.1 h
    omega
  · rw [if_neg hweek] at h ⊢
    have hmonth := bucket.month_mem
    have hnext := next.ymd2ord_civil
    have hcivil := makeDate_eq_ok.1 h
    rw [hcivil, ymd2ord_next bucket.year_pos hmonth.1 hmonth.2] at hnext
    have := bucket.val_eq
    refine ⟨by omega, by rw [hcivil]⟩

theorem bucketOf_eq_iff : bucketOf timeframe d = d ↔
    if timeframe = .W1 then d.val % 7 = 0 else d.civil.day = 1 := by
  unfold bucketOf
  by_cases hweek : timeframe = .W1
  · rw [if_pos hweek, if_pos hweek, Fin.ext_iff]
    simp only [weekday]
    omega
  · have := d.val_eq
    rw [if_neg hweek, if_neg hweek, Fin.ext_iff]
    simp only
    omega

theorem bucketOf_bucketOf (timeframe : Timeframe) (d : Day) :
    bucketOf timeframe (bucketOf timeframe d) = bucketOf timeframe d := by
  rw [bucketOf_eq_iff]
  unfold bucketOf
  by_cases hweek : timeframe = .W1
  · rw [if_pos hweek, if_pos hweek]
    simp only [weekday]
    omega
  · rw [if_neg hweek, if_neg hweek]
    have hmake : makeDate ⟨d.civil.year, d.civil.month, 1⟩ =
        .ok ⟨ymd2ord ⟨d.civil.year, d.civil.month, 1⟩ - 1, ymd2ord_le d.first_valid d.year_lt⟩ :=
      dif_pos ⟨d.first_valid, d.year_lt⟩
    rw [makeDate_eq_ok.1 hmake]

theorem bucketOf_le (timeframe : Timeframe) (d : Day) : bucketOf timeframe d ≤ d := by
  unfold bucketOf
  have := d.val_eq
  split_ifs
  · exact Fin.le_def.2 (Nat.sub_le _ _)
  · exact Fin.le_def.2 (by simp only; omega)

theorem bucketOf_mem (h : nextBucket timeframe (bucketOf timeframe d) = .ok next) :
    bucketOf timeframe d ≤ d ∧ d < next := by
  have hval := nextBucket_val h
  unfold bucketOf at *
  by_cases hweek : timeframe = .W1
  · rw [if_pos hweek] at hval
    simp only [hweek, if_true, weekday] at *
    exact ⟨Fin.le_def.2 (by simp only; omega), Fin.lt_def.2 (by omega)⟩
  · simp only [hweek, if_false] at *
    have hmake : makeDate ⟨d.civil.year, d.civil.month, 1⟩ =
        .ok ⟨ymd2ord ⟨d.civil.year, d.civil.month, 1⟩ - 1, ymd2ord_le d.first_valid d.year_lt⟩ :=
      dif_pos ⟨d.first_valid, d.year_lt⟩
    rw [makeDate_eq_ok.1 hmake] at hval
    have := d.val_eq
    exact ⟨Fin.le_def.2 (by simp only; omega), Fin.lt_def.2 (by simp only at hval; omega)⟩

theorem bucketOf_next (hbucket : bucketOf timeframe bucket = bucket)
    (h : nextBucket timeframe bucket = .ok next) : bucketOf timeframe next = next := by
  have hval := nextBucket_val h
  rw [bucketOf_eq_iff] at hbucket ⊢
  split_ifs at * with hweek
  · omega
  · exact hval.2

theorem next_le_bucket (hbucket : bucketOf timeframe bucket = bucket)
    (hd : bucketOf timeframe d = d) (h : nextBucket timeframe bucket = .ok next)
    (hlt : bucket < d) : next ≤ d := by
  have hval := nextBucket_val h
  have hlt := Fin.lt_def.1 hlt
  refine Fin.le_def.2 ?_
  rw [bucketOf_eq_iff] at hbucket hd
  by_cases hweek : timeframe = .W1
  · rw [if_pos hweek] at hval hbucket hd
    omega
  · rw [if_neg hweek] at hbucket hd
    unfold nextBucket at h
    rw [if_neg hweek] at h
    have hmonth := bucket.month_mem
    have hmonth' := d.month_mem
    have hb := bucket.val_eq
    have hd' := d.val_eq
    have hn := next.ymd2ord_civil
    rw [makeDate_eq_ok.1 h] at hn
    rcases le_or_gt (d.civil.year * 12 + d.civil.month)
      (bucket.civil.year * 12 + bucket.civil.month) with hle | hgt
    · have := ymd2ord_first_mono d.year_pos hmonth'.1 hmonth'.2 hmonth.1 hmonth.2 hle
      omega
    · have hpos := bucket.year_pos
      have hmono : ymd2ord ⟨bucket.civil.year + if bucket.civil.month = 12 then 1 else 0,
          bucket.civil.month % 12 + 1, 1⟩ ≤ ymd2ord ⟨d.civil.year, d.civil.month, 1⟩ := by
        refine ymd2ord_first_mono (by omega) (by omega) (by omega) hmonth'.1 hmonth'.2 ?_
        split_ifs <;> omega
      omega

theorem lastSession_mem (h : lastSession bucket next = .ok (some session)) :
    bucket ≤ session ∧ session < next := by
  obtain ⟨last, hlast, h⟩ := bind_eq_ok.1 h
  obtain ⟨sessions, hsessions, h⟩ := bind_eq_ok.1 h
  have hval := shiftDays_eq_ok.1 hlast
  have hlt : last.val + 1 < maxOrdinal := by
    have := next.isLt
    omega
  obtain ⟨s, hs, hmem⟩ := xnysSessionDays_eq bucket last hlt
  obtain rfl := Except.ok.inj (hsessions.symm.trans hs)
  have h := Except.ok.inj h
  split_ifs at h with hne
  obtain rfl := Option.some.inj h
  obtain ⟨hfrom, hto, -⟩ := (hmem _).1 (sessions.max'_mem hne)
  have := Fin.le_def.1 hto
  exact ⟨hfrom, Fin.lt_def.2 (by omega)⟩

theorem localTime_lt (zone : ExchangeZone) {d' : Day} (h : d < d') :
    zone.localTime d 16 < zone.localTime d' 16 := by
  have hdays := dayStart_add (Fin.lt_def.1 h)
  have hclose := localTime_mem zone d 16
  have hclose' := localTime_mem zone d' 16
  have hhour : 0 < (hourMicros : ℤ) := by decide
  omega

theorem dayStart_le_iff {d' : Day} : dayStart d ≤ dayStart d' ↔ d ≤ d' := by
  unfold dayStart hourMicros
  rw [Fin.le_def]
  omega

theorem CompletedBucket.start_le (h : CompletedBucket zone timeframe end_ p) :
    p.start ≤ p.stop ∧ p.stop ≤ end_.val ∧ dayStart p.bucket ≤ end_.val := by
  obtain ⟨-, next, session, hnext, hsession, hclose, hstart, hstop⟩ := h
  have hmem := lastSession_mem hsession
  have hday := dayStart_le_iff.2 hmem.1
  have hlocal := localTime_mem zone session 16
  have hafter := dayStart_add (Fin.lt_def.1 (nextBucket_gt hnext))
  have hhour : 0 < (hourMicros : ℤ) := by decide
  have hend : dayStart p.bucket ≤ end_.val := by omega
  rw [hstart, hstop]
  exact ⟨le_min (by omega) hend, min_le_right _ _, hend⟩

theorem bucketPeriods_are (hbucket : bucketOf timeframe bucket = bucket)
    (h : bucketPeriods zone timeframe end_ bucket = .ok periods) :
    PeriodsAre (fun p => CompletedBucket zone timeframe end_ p ∧ bucket ≤ p.bucket) periods := by
  fun_induction bucketPeriods zone timeframe end_ bucket generalizing periods with
  | case1 bucket e hnext => cases h
  | case2 bucket next hnext hend =>
    obtain rfl := Except.ok.inj h
    refine ⟨fun p => ⟨fun hp => absurd hp not_mem_nil, ?_⟩, by simp, .nil⟩
    rintro ⟨hp, hle⟩
    have := dayStart_le_iff.2 hle
    have := hp.start_le.2.2
    omega
  | case3 bucket next hnext hend e hsession => cases h
  | case4 bucket next hnext hend hsession ih =>
    have hi := ih (bucketOf_next hbucket hnext) h
    refine ⟨fun p => (hi.mem_iff p).trans (and_congr_right fun hp => ?_), hi.le, hi.ordered⟩
    refine ⟨(nextBucket_gt hnext).le.trans, fun hle => ?_⟩
    refine next_le_bucket hbucket hp.1 hnext (lt_of_le_of_ne hle ?_)
    rintro rfl
    -- a bucket without sessions is not completed
    obtain ⟨-, next', session, hnext', hsession', -⟩ := hp
    obtain rfl := Except.ok.inj (hnext.symm.trans hnext')
    rw [hsession] at hsession'
    cases hsession'
  | case5 bucket next hnext hend session hsession hclose =>
    obtain rfl := Except.ok.inj h
    refine ⟨fun p => ⟨fun hp => absurd hp not_mem_nil, ?_⟩, by simp, .nil⟩
    rintro ⟨⟨hp, next', session', hnext', hsession', hclose', -⟩, hle⟩
    rcases hle.eq_or_lt with heq | hlt
    · rw [← heq] at hnext' hsession'
      obtain rfl := Except.ok.inj (hnext.symm.trans hnext')
      rw [hsession] at hsession'
      obtain rfl := Option.some.inj (Except.ok.inj hsession')
      omega
    · -- later buckets close later
      have hlater := (lastSession_mem hsession).2.trans_le
        ((next_le_bucket hbucket hp hnext hlt).trans (lastSession_mem hsession').1)
      have := localTime_lt zone hlater
      omega
  | case6 bucket next hnext hend session hsession hclose ih =>
    obtain ⟨rest, hrest, rfl⟩ := map_eq_ok.1 h
    have hi := ih (bucketOf_next hbucket hnext) hrest
    have hfirst : CompletedBucket zone timeframe end_
        ⟨bucket, dayStart bucket, min (dayStart next - 1) end_.val⟩ :=
      ⟨hbucket, next, session, hnext, hsession, not_lt.1 hclose, rfl, rfl⟩
    refine ⟨fun p => ?_, ?_, pairwise_cons.2 ⟨fun q hq => ?_, hi.ordered⟩⟩
    · rw [mem_cons, hi.mem_iff]
      constructor
      · rintro (rfl | ⟨hp, hle⟩)
        · exact ⟨hfirst, le_rfl⟩
        · exact ⟨hp, (nextBucket_gt hnext).le.trans hle⟩
      · rintro ⟨hp, hle⟩
        rcases hle.eq_or_lt with heq | hlt
        · obtain ⟨-, next', session', hnext', -, -, hstart, hstop⟩ := hp
          rw [← heq] at hnext' hstart
          obtain rfl := Except.ok.inj (hnext.symm.trans hnext')
          obtain ⟨b, first, last⟩ := p
          dsimp only at heq hstart hstop
          rw [← heq, hstart, hstop]
          exact .inl rfl
        · exact .inr ⟨hp, next_le_bucket hbucket hp.1 hnext hlt⟩
    · rintro p hp
      rcases mem_cons.1 hp with rfl | hp
      · exact hfirst.start_le.1
      · exact hi.le p hp
    · obtain ⟨hq, hle⟩ := (hi.mem_iff q).1 hq
      obtain ⟨-, -, -, -, -, -, hstart, -⟩ := hq
      have hday := dayStart_le_iff.2 hle
      have hmin : min (dayStart next - 1) (end_.val : ℤ) ≤ dayStart next - 1 := min_le_left _ _
      rw [hstart]
      dsimp only
      omega

theorem firstBucket_spec (h : firstBucket timeframe start = .ok bucket) :
    bucketOf timeframe bucket = bucket ∧
      ∀ d, bucketOf timeframe d = d → (bucket ≤ d ↔ start.val ≤ dayStart d) := by
  have hdate := dateOf_mem start
  unfold firstBucket at h
  dsimp only at h
  split_ifs at h with hlate
  · refine ⟨bucketOf_next (bucketOf_bucketOf _ _) h, fun d hd => ⟨fun hle => ?_, fun hle => ?_⟩⟩
    · have hmem := bucketOf_mem h
      have := dayStart_add (Fin.lt_def.1 hmem.2)
      have := dayStart_le_iff.2 hle
      omega
    · refine next_le_bucket (bucketOf_bucketOf _ _) hd h (lt_of_not_ge fun hge => ?_)
      have := dayStart_le_iff.2 hge
      omega
  · obtain rfl := Except.ok.inj h
    have := dayStart_le_iff.2 (bucketOf_le timeframe (dateOf start))
    refine ⟨bucketOf_bucketOf _ _, fun d _ => ?_⟩
    rw [← dayStart_le_iff]
    omega

/-- **The periods of a range** are the expected ones. -/
theorem calendarPeriods_are (h : calendarPeriods zone timeframe start end_ = .ok periods) :
    PeriodsAre (ExpectedPeriod zone timeframe start end_) periods := by
  unfold calendarPeriods at h
  unfold ExpectedPeriod
  split_ifs at h ⊢ with hday
  · exact sessionPeriods_are h
  · obtain ⟨bucket, hbucket, h⟩ := bind_eq_ok.1 h
    obtain ⟨haligned, hfirst⟩ := firstBucket_spec hbucket
    have hi := bucketPeriods_are haligned h
    refine ⟨fun p => (hi.mem_iff p).trans (and_congr_right fun hp => ?_), hi.le, hi.ordered⟩
    obtain ⟨hp, -, -, -, -, -, hstart, -⟩ := hp
    rw [hfirst _ hp, hstart]

end

/-! ## The slices of a range -/

/-- The slices hold the expected periods without a bar, and are apart from those with one. -/
structure ExactPlan (expected present : CalendarPeriod → Prop) (start end_ : Instant)
    (slices : List (ℤ × ℤ)) : Prop where
  ordered : slices.Pairwise fun s t => s.2 < t.1
  inside : ∀ s ∈ slices, start.val ≤ s.1 ∧ s.1 ≤ s.2 ∧ s.2 ≤ end_.val
  held : ∀ p, expected p → ¬ present p →
    ∃! s, s ∈ slices ∧ s.1 ≤ p.start ∧ p.stop ≤ s.2
  apart : ∀ p, expected p → present p → ∀ s ∈ slices, p.stop < s.1 ∨ s.2 < p.start
  ends : ∀ s ∈ slices, (∃ p, expected p ∧ ¬ present p ∧ s.1 = p.start) ∧
    ∃ p, expected p ∧ ¬ present p ∧ s.2 = p.stop

section
variable {zone : ExchangeZone} {timeframe : Timeframe} {start end_ : Instant}
  {ordered : List Instant} {slices : List (ℤ × ℤ)} {p : CalendarPeriod} {d bucket next : Day}

theorem ExpectedPeriod.inside (h : ExpectedPeriod zone timeframe start end_ p) :
    start.val ≤ p.start ∧ p.stop ≤ end_.val := by
  unfold ExpectedPeriod at h
  split_ifs at h
  · obtain ⟨_, _, _, next, _, _, _, _, hnext, hstart, hclose, hp, hq⟩ := h
    have := sessionPeriod_mem (sessionPeriod_eq_some.2 ⟨rfl, next, hnext, hstart, hclose, hp, hq⟩)
    exact ⟨this.1, this.2.2.1⟩
  · exact ⟨h.2, h.1.start_le.2.1⟩

def HasBar (timeframe : Timeframe) (ordered : List Instant) (p : CalendarPeriod) : Prop :=
  ∃ value ∈ ordered, presentKey timeframe value = p.bucket

theorem calendarMissingSlices_exact
    (h : calendarMissingSlices zone ordered timeframe start end_ = .ok (some slices)) :
    ExactPlan (ExpectedPeriod zone timeframe start end_) (HasBar timeframe ordered) start end_
      slices := by
  unfold calendarMissingSlices at h
  by_cases hgrid : timeframe ∉ [.D1, .W1, .MN]
  · rw [if_pos hgrid] at h
    cases h
  rw [if_neg hgrid] at h
  obtain ⟨periods, hperiods, h⟩ := bind_eq_ok.1 h
  have hi := calendarPeriods_are hperiods
  have hslices := Option.some.inj (Except.ok.inj h)
  rw [(slices_eq (fun p => decide (p.bucket ∉ ordered.map (presentKey timeframe))) periods 0).1]
    at hslices
  have horder : InOrder CalendarPeriod.span none periods :=
    ⟨hi.le, hi.ordered, fun s hs => by cases hs⟩
  have hpresent : ∀ p : CalendarPeriod, HasBar timeframe ordered p ↔
      p.bucket ∈ ordered.map (presentKey timeframe) := fun p => mem_map.symm
  have hends : ∀ s ∈ slices, (∃ p, ExpectedPeriod zone timeframe start end_ p ∧
      ¬ HasBar timeframe ordered p ∧ s.1 = p.start) ∧
      ∃ p, ExpectedPeriod zone timeframe start end_ p ∧ ¬ HasBar timeframe ordered p ∧
        s.2 = p.stop := by
    intro s hs
    rw [← hslices] at hs
    obtain ⟨hstart, hstop⟩ := ends_of_mem hs
    obtain ⟨p, hp, hkeep, hstart⟩ := hstart.resolve_left (by simp)
    obtain ⟨q, hq, hkeep', hstop⟩ := hstop.resolve_left (by simp)
    exact ⟨⟨p, (hi.mem_iff p).1 hp,
        fun hbar => of_decide_eq_true hkeep ((hpresent p).1 hbar), hstart⟩,
      q, (hi.mem_iff q).1 hq, fun hbar => of_decide_eq_true hkeep' ((hpresent q).1 hbar), hstop⟩
  refine ⟨hslices ▸ pairwise_stretchesFrom horder, fun s hs => ?_, fun p hp hbar => ?_,
    fun p hp hbar s hs => ?_, hends⟩
  · obtain ⟨⟨p, hp, -, hstart⟩, q, hq, -, hstop⟩ := hends s hs
    rw [← hslices] at hs
    exact ⟨hstart ▸ hp.inside.1, le_of_mem_stretchesFrom horder hs, hstop ▸ hq.inside.2⟩
  · rw [← hslices]
    exact existsUnique_stretch horder ((hi.mem_iff p).2 hp)
      (decide_eq_true fun hmem => hbar ((hpresent p).2 hmem))
  · rw [← hslices] at hs
    exact apart_of_memFrom horder ((hi.mem_iff p).2 hp)
      (decide_eq_false (not_not.2 ((hpresent p).1 hbar))) hs

/-! ## Ranges that can be planned -/

/-- A moment after the first day and before the year 9999. -/
def Plannable (t : Instant) : Prop :=
  24 * hourMicros ≤ t.val ∧ (t.val : ℤ) < 24 * hourMicros * daysBeforeYear 9999

theorem localDate_of_plannable (zone : ExchangeZone) {t : Instant} (h : Plannable t) :
    ∃ d, zone.localDate t = .ok d ∧ d.val < daysBeforeYear 9999 := by
  obtain ⟨hlo, hhi⟩ := h
  have hmem := zone.behind_mem t.val
  have hhour : 0 < hourMicros := by decide
  have hle : zone.behind t.val ≤ t.val := by omega
  refine ⟨_, dif_pos hle, ?_⟩
  unfold dateOf
  dsimp only
  rw [Nat.div_lt_iff_lt_mul (by omega)]
  have hcast : (24 * hourMicros * daysBeforeYear 9999 : ℤ) =
      ((daysBeforeYear 9999 * (24 * hourMicros) : ℕ) : ℤ) := by
    push_cast
    ring
  omega

theorem periodsOfSessions_ok (zone : ExchangeZone) (start end_ : Instant) {sessions : List Day}
    (h : ∀ d ∈ sessions, d.val + 1 < maxOrdinal) :
    ∃ periods, periodsOfSessions zone start end_ sessions = .ok periods := by
  induction sessions with
  | nil => exact ⟨[], rfl⟩
  | cons session sessions ih =>
    obtain ⟨rest, hrest⟩ := ih fun d hd => h d (mem_cons_of_mem _ hd)
    have hperiod : ∃ period, sessionPeriod zone start end_ session = .ok period := by
      have hlt := h session mem_cons_self
      unfold sessionPeriod
      split_ifs
      · exact ⟨_, rfl⟩
      · have hnext : shiftDays session 1 = .ok ⟨session.val + 1, hlt⟩ :=
          shiftDays_eq_ok.2 (by simp)
        rw [hnext]
        exact ⟨_, rfl⟩
    obtain ⟨period, hperiod⟩ := hperiod
    refine ⟨period.toList ++ rest, ?_⟩
    rw [periodsOfSessions, hperiod, ok_bind, hrest]
    rfl

theorem lastYear : daysBeforeYear 9999 + 365 = maxOrdinal := by decide

theorem sessionPeriods_ok (zone : ExchangeZone) (hstart : Plannable start) (hend : Plannable end_) :
    ∃ periods, sessionPeriods zone start end_ = .ok periods := by
  obtain ⟨first, hfirst, -⟩ := localDate_of_plannable zone hstart
  obtain ⟨last, hlast, hlt⟩ := localDate_of_plannable zone hend
  have hyear := lastYear
  obtain ⟨sessions, hsessions, hmem⟩ := xnysSessionDays_eq first last (by omega)
  obtain ⟨periods, hperiods⟩ := periodsOfSessions_ok zone start end_ fun d
      (hd : d ∈ sessions.sort) => by
    have hle := Fin.le_def.1 ((hmem d).1 ((Finset.mem_sort _).1 hd)).2.1
    omega
  refine ⟨periods, ?_⟩
  rw [sessionPeriods, hfirst, ok_bind, hlast, ok_bind, hsessions, ok_bind, hperiods]

theorem nextBucket_ok (timeframe : Timeframe) (hlt : bucket.val < daysBeforeYear 9999 + 7) :
    ∃ next, nextBucket timeframe bucket = .ok next := by
  have hyear := lastYear
  unfold nextBucket
  by_cases hweek : timeframe = .W1
  · rw [if_pos hweek]
    exact ⟨⟨bucket.val + 7, by omega⟩, shiftDays_eq_ok.2 (by simp)⟩
  · rw [if_neg hweek]
    have hmonth := bucket.month_mem
    have hdays : ∀ leap : Bool, ∀ m < 13, 0 < m → 1 ≤ daysInMonth leap m := by decide
    have hvalid : ∀ y m, 0 < y → 0 < m → m < 13 → (Civil.mk y m 1).valid = true :=
      fun y m hy hm hm' => Civil.valid_iff.2 ⟨hy, hm, hm', Nat.one_pos, hdays _ m hm' hm⟩
    have hnext : bucket.civil.year + (if bucket.civil.month = 12 then 1 else 0) < 10000 := by
      have hlast := bucket.year_lt
      split_ifs with hdec
      · by_contra hge
        have hval := bucket.val_eq
        have hdec' : ymd2ord ⟨9999, 12, 1⟩ = daysBeforeYear 9999 + 335 := by decide
        rw [hdec, show bucket.civil.year = 9999 by omega, hdec'] at hval
        omega
      · exact hlast
    have hpos := bucket.year_pos
    have hfirst := hvalid (bucket.civil.year + if bucket.civil.month = 12 then 1 else 0)
      (bucket.civil.month % 12 + 1) (by omega) (by omega) (by omega)
    exact (makeDate_of hfirst hnext).imp fun _ h => h.1

theorem next_lt_lastYear (hbucket : bucketOf timeframe bucket = bucket)
    (h : nextBucket timeframe bucket = .ok next) (hlt : bucket.val < daysBeforeYear 9999) :
    next.val < daysBeforeYear 9999 + 7 := by
  by_cases hweek : timeframe = .W1
  · have hval := nextBucket_val h
    rw [if_pos hweek] at hval
    omega
  · -- the year 9999 starts a month
    have hfirst : (Day.civil ⟨daysBeforeYear 9999, by decide⟩).day = 1 := by decide
    have haligned : bucketOf timeframe ⟨daysBeforeYear 9999, by decide⟩ =
        ⟨daysBeforeYear 9999, by decide⟩ := by
      rw [bucketOf_eq_iff, if_neg hweek]
      exact hfirst
    have hle := Fin.le_def.1 (next_le_bucket hbucket haligned h (Fin.lt_def.2 hlt))
    simp only at hle
    omega

theorem lastSession_ok (h : nextBucket timeframe bucket = .ok next) :
    ∃ session, lastSession bucket next = .ok session := by
  have hgt := Fin.lt_def.1 (nextBucket_gt h)
  have hlt := next.isLt
  have hlast : shiftDays next (-1) = .ok ⟨next.val - 1, by omega⟩ :=
    shiftDays_eq_ok.2 (by simp only; omega)
  obtain ⟨sessions, hsessions, -⟩ := xnysSessionDays_eq bucket ⟨next.val - 1, by omega⟩
    (by simp only; omega)
  rw [lastSession, hlast, ok_bind, hsessions]
  exact ⟨_, rfl⟩

theorem bucketPeriods_ok (zone : ExchangeZone)
    (hend : (end_.val : ℤ) < 24 * hourMicros * daysBeforeYear 9999)
    (hbucket : bucketOf timeframe bucket = bucket) (hlt : bucket.val < daysBeforeYear 9999 + 7) :
    ∃ periods, bucketPeriods zone timeframe end_ bucket = .ok periods := by
  have hbefore : ∀ d : Day, ¬ (end_.val : ℤ) < dayStart d → d.val < daysBeforeYear 9999 := by
    intro d hd
    have hhour : 0 < (24 * hourMicros : ℤ) := by decide
    have hlt : (24 * hourMicros : ℤ) * d.val < 24 * hourMicros * daysBeforeYear 9999 :=
      (not_lt.1 hd).trans_lt hend
    exact_mod_cast lt_of_mul_lt_mul_left hlt hhour.le
  fun_induction bucketPeriods zone timeframe end_ bucket with
  | case1 bucket e hnext =>
    obtain ⟨next, hok⟩ := nextBucket_ok timeframe hlt
    rw [hnext] at hok
    cases hok
  | case2 bucket next hnext hlate => exact ⟨[], rfl⟩
  | case3 bucket next hnext hlate e hsession =>
    obtain ⟨session, hok⟩ := lastSession_ok hnext
    rw [hsession] at hok
    cases hok
  | case4 bucket next hnext hlate hsession ih =>
    exact ih (bucketOf_next hbucket hnext) (next_lt_lastYear hbucket hnext (hbefore _ hlate))
  | case5 bucket next hnext hlate session hsession hclose => exact ⟨[], rfl⟩
  | case6 bucket next hnext hlate session hsession hclose ih =>
    obtain ⟨rest, hrest⟩ := ih (bucketOf_next hbucket hnext)
      (next_lt_lastYear hbucket hnext (hbefore _ hlate))
    exact ⟨_, congrArg (Except.map _) hrest⟩

theorem calendarPeriods_ok (zone : ExchangeZone) (timeframe : Timeframe) (hstart : Plannable start)
    (hend : Plannable end_) :
    ∃ periods, calendarPeriods zone timeframe start end_ = .ok periods := by
  unfold calendarPeriods
  split_ifs with hday
  · exact sessionPeriods_ok zone hstart hend
  · have hdate := dateOf_mem start
    have hlt : (dateOf start).val < daysBeforeYear 9999 := by
      have hhour : 0 < (24 * hourMicros : ℤ) := by decide
      have hlt : (24 * hourMicros : ℤ) * (dateOf start).val <
          24 * hourMicros * daysBeforeYear 9999 := hdate.1.trans_lt hstart.2
      exact_mod_cast lt_of_mul_lt_mul_left hlt hhour.le
    have hle := Fin.le_def.1 (bucketOf_le timeframe (dateOf start))
    obtain ⟨next, hnext⟩ := nextBucket_ok timeframe
      (show (bucketOf timeframe (dateOf start)).val < daysBeforeYear 9999 + 7 by omega)
    have hfirst : ∃ bucket, firstBucket timeframe start = .ok bucket ∧
        bucket.val < daysBeforeYear 9999 + 7 := by
      unfold firstBucket
      dsimp only
      split_ifs
      · exact ⟨next, hnext, next_lt_lastYear (bucketOf_bucketOf _ _) hnext (by omega)⟩
      · exact ⟨_, rfl, by omega⟩
    obtain ⟨bucket, hbucket, hbefore⟩ := hfirst
    obtain ⟨periods, hperiods⟩ := bucketPeriods_ok zone hend.2
      (firstBucket_spec hbucket).1 hbefore
    exact ⟨periods, by rw [hbucket, ok_bind, hperiods]⟩

theorem calendarMissingSlices_ok (zone : ExchangeZone) (ordered : List Instant)
    (hgrid : timeframe ∈ [Timeframe.D1, .W1, .MN]) (hstart : Plannable start)
    (hend : Plannable end_) :
    ∃ slices, calendarMissingSlices zone ordered timeframe start end_ = .ok (some slices) := by
  obtain ⟨periods, hperiods⟩ := calendarPeriods_ok zone timeframe hstart hend
  have hok : calendarMissingSlices zone ordered timeframe start end_ =
      .ok (some (sliceMissing (periods.zipIdx.filter fun p =>
        decide (p.1.bucket ∉ ordered.map (presentKey timeframe))))) := by
    rw [calendarMissingSlices, if_neg (not_not.2 hgrid), hperiods]
    rfl
  exact ⟨_, hok⟩

/-- **Calendar gap planning is exact.**  Of a range, days, weeks or months, and any bars, the slices
    are in order, disjoint and within the range; an expected period without a bar is in one slice
    and one with a bar is apart from all; and the plan of every range that ends before the last
    year of the calendar is found. -/
theorem calendar_gaps (zone : ExchangeZone) (ordered : List Instant) {timeframe : Timeframe}
    (hgrid : timeframe ∈ [Timeframe.D1, .W1, .MN]) (start end_ : Instant) :
    (∀ slices, calendarMissingSlices zone ordered timeframe start end_ = .ok (some slices) →
      ExactPlan (ExpectedPeriod zone timeframe start end_) (HasBar timeframe ordered) start end_
        slices) ∧
    (Plannable start → Plannable end_ →
      ∃ slices, calendarMissingSlices zone ordered timeframe start end_ = .ok (some slices)) :=
  ⟨fun _ => calendarMissingSlices_exact, calendarMissingSlices_ok zone ordered hgrid⟩

def easternStandard : ExchangeZone :=
  ⟨fun _ => 5 * hourMicros, fun _ => 5 * hourMicros, fun _ => by decide, fun _ => by decide⟩

/-- The sessions of January 8 to 12, 2024, with a bar of the 10th. -/
theorem calendar_gaps_january : ∃ slices,
    calendarMissingSlices easternStandard [⟨63840441600000000, by decide⟩] .D1
      ⟨63840268800000000, by decide⟩ ⟨63840700800000000, by decide⟩ = .ok (some slices) ∧
    slices.Pairwise fun s t => s.2 < t.1 := by
  have hplan := calendar_gaps easternStandard [⟨63840441600000000, by decide⟩]
    (show Timeframe.D1 ∈ _ by decide) ⟨63840268800000000, by decide⟩ ⟨63840700800000000, by decide⟩
  obtain ⟨slices, hslices⟩ := hplan.2 ⟨by decide, by decide⟩ ⟨by decide, by decide⟩
  exact ⟨slices, hslices, (hplan.1 slices hslices).ordered⟩

end

end ChartingPlatform
