/-
  Coverage of a range by cached bars (`ohlcv_coverage.py`): `missing_range_slices` and
  `assess_ohlcv_coverage`.  Of the cached bars only their UTC times are read.
-/
import ChartingPlatform.Bars.Buckets

namespace ChartingPlatform

open Lib List

/-! ## Slices of a range -/

/-- `CalendarName`. -/
inductive CalendarName where
  | XNYS
  deriving DecidableEq

/-- `t + timedelta(microseconds=n)`. -/
def shiftInstant (t : Instant) (n : ℤ) : Except PyError Instant :=
  if h : 0 ≤ (t.val : ℤ) + n ∧ (t.val : ℤ) + n < instantLimit then
    .ok ⟨((t.val : ℤ) + n).toNat, by omega⟩
  else .error ⟨.overflowError, "date value out of range"⟩

/-- `ordered`: the bars within the range. -/
def barsWithin (cached : List Instant) (start end_ : Instant) : List Instant :=
  sortBy id (cached.filter fun t => start ≤ t ∧ t ≤ end_)

/-- `timedelta(seconds=TIMEFRAME_SECONDS[timeframe])`, in microseconds. -/
def Timeframe.step (timeframe : Timeframe) : ℤ := 1000000 * timeframe.seconds

/-- The gap between neighbours that are too far apart. -/
def interiorGap (step tolerance : ℤ) (previous current : Instant) : Option (ℤ × ℤ) :=
  if step * tolerance < current.val - previous.val ∧
      (previous.val : ℤ) + step ≤ current.val - step then
    some (previous.val + step, current.val - step)
  else none

/-- The conservative slices of a range with at least one bar. -/
def intervalSlices (timeframe : Timeframe) (start end_ first last : Instant)
    (ordered : List Instant) : Except PyError (List (ℤ × ℤ)) := do
  let tolerance := if timeframe = .D1 then 4 else 2
  let next ← shiftInstant start timeframe.step
  let leading : List (ℤ × ℤ) :=
    if next < first then [(start.val, first.val - timeframe.step)]
    else if start < first then [(start.val, first.val)] else []
  let gaps := (ordered.zip ordered.tail).filterMap fun p =>
    interiorGap timeframe.step tolerance p.1 p.2
  let previous ← shiftInstant end_ (-timeframe.step)
  let trailing : List (ℤ × ℤ) :=
    if last < previous then [(last.val + timeframe.step, end_.val)]
    else if last < end_ then [(last.val, end_.val)] else []
  return leading ++ gaps ++ trailing

/-- `missing_range_slices`. -/
def missingRangeSlices (zone : ExchangeZone) (cached : List Instant) (timeframe : Timeframe)
    (start end_ : Instant) (calendar : Option CalendarName) : Except PyError (List (ℤ × ℤ)) :=
  let ordered := barsWithin cached start end_
  match ordered.head?, ordered.getLast? with
  -- no bar at all, or none within the range
  | some first, some last => do
    let calendarSlices ← match calendar with
      | some .XNYS => calendarMissingSlices zone ordered timeframe start end_
      | none => .ok none
    match calendarSlices with
    | some slices => return slices
    | none => intervalSlices timeframe start end_ first last ordered
  | _, _ => .ok [(start.val, end_.val)]

/-! ## Assessments -/

/-- `CoverageStatus`. -/
inductive CoverageStatus where
  | ready | partial_ | missing | stale
  deriving DecidableEq

/-- `CoverageMode`. -/
inductive CoverageMode where
  | historical | latest
  deriving DecidableEq

/-- `OhlcvCoverageAssessment`. -/
structure OhlcvCoverageAssessment where
  status : CoverageStatus
  coveredStart : Option Instant
  coveredEnd : Option Instant
  barCount : ℕ
  missingSlices : List (ℤ × ℤ)
  explanation : String

/-- `assess_ohlcv_coverage`; `now` is that of the caller or of the clock. -/
def assessOhlcvCoverage (zone : ExchangeZone) (cached : List Instant) (timeframe : Timeframe)
    (start end_ : Instant) (mode : CoverageMode) (freshnessSeconds : Option ℤ) (now : Instant)
    (calendar : Option CalendarName) : Except PyError OhlcvCoverageAssessment := do
  let ordered := barsWithin cached start end_
  let slices ← missingRangeSlices zone cached timeframe start end_ calendar
  let assessment (status : CoverageStatus) (explanation : String) : OhlcvCoverageAssessment :=
    ⟨status, ordered.head?, ordered.getLast?, ordered.length, slices, explanation⟩
  if ordered = [] then
    return assessment .missing "No local bars cover the requested range."
  else if slices ≠ [] then
    return assessment .partial_
      "Local bars leave one or more bounded range slices unavailable."
  else
    let stale ← match mode, freshnessSeconds with
      | .latest, some seconds => do
        let cutoff ← shiftInstant now (-(1000000 * seconds))
        pure (ordered.getLast?.any fun last => decide (last < cutoff))
      | _, _ => pure false
    if stale then
      return assessment .stale
        "The latest local bar is older than the requested freshness policy."
    else return assessment .ready "The requested range is locally covered."

/-! ## Complete ranges -/

section
variable (zone : ExchangeZone) (prior cached : List Instant) (start end_ : Instant)

/-- A bar of the session, labelled at midnight in UTC or in New York. -/
def Labelled (p : CalendarPeriod) : Prop :=
  ∃ v ∈ cached, (v.val : ℤ) = dayStart p.bucket ∨ (v.val : ℤ) = zone.localTime p.bucket 0

/-- Every completed session that starts in the range has its bar. -/
def FullyCached : Prop := ∀ p, ExpectedSession zone start end_ p → Labelled zone cached p

/-- The cache holds what it held before, and one bar for each session in the slices that were
    reported then. -/
structure Refetched : Prop where
  kept : ∀ v ∈ prior, v ∈ cached
  fetched : ∃ slices,
    missingRangeSlices zone prior .D1 start end_ (some .XNYS) = .ok slices ∧
      ∀ p, ExpectedSession zone start end_ p →
        (∃ s ∈ slices, s.1 ≤ p.start ∧ p.stop ≤ s.2) → Labelled zone cached p

/-- The cache has a bar within the range, and each session's by itself or after a fetch. -/
structure Supplied : Prop where
  bar : ∃ v ∈ cached, start ≤ v ∧ v ≤ end_
  sessions : FullyCached zone cached start end_ ∨ ∃ prior, Refetched zone prior cached start end_

def Fresh (mode : CoverageMode) (freshnessSeconds : Option ℤ) (now : Instant) : Prop :=
  mode = .latest → ∀ seconds ∈ freshnessSeconds, ∃ cutoff,
    shiftInstant now (-(1000000 * seconds)) = .ok cutoff ∧
      ∃ v ∈ cached, start ≤ v ∧ v ≤ end_ ∧ cutoff ≤ v

/-- **A complete range**: no slice is reported, and what is fresh is ready. -/
structure CompleteRange : Prop where
  slices : missingRangeSlices zone cached .D1 start end_ (some .XNYS) = .ok []
  ready : ∀ mode freshnessSeconds now, Fresh cached start end_ mode freshnessSeconds now →
    ∃ a, assessOhlcvCoverage zone cached .D1 start end_ mode freshnessSeconds now (some .XNYS) =
      .ok a ∧ a.status = .ready

/-- The dates of the range in New York are in the calendar, before its last day. -/
def InCalendar : Prop :=
  ∃ first last, zone.localDate start = .ok first ∧ zone.localDate end_ = .ok last ∧
    last.val + 1 < maxOrdinal

/-- The range can be planned, and each session whose UTC midnight lies before it has a bar of
    its date within it. -/
structure SessionsVisible : Prop where
  inCalendar : InCalendar zone start end_
  visible : ∀ p, ExpectedSession zone start end_ p → (start.val : ℤ) ≤ dayStart p.bucket ∨
    ∃ v ∈ cached, start ≤ v ∧ v ≤ end_ ∧ dateOf v = p.bucket

end

/-! ## The plan of a daily range -/

section
variable {zone : ExchangeZone} {prior cached : List Instant} {start end_ v : Instant}
  {p : CalendarPeriod} {slices : List (ℤ × ℤ)} {ordered : List Instant}

@[simp] theorem mem_barsWithin :
    v ∈ barsWithin cached start end_ ↔ v ∈ cached ∧ start ≤ v ∧ v ≤ end_ := by
  rw [barsWithin, mem_sortBy, mem_filter, decide_eq_true_iff]

theorem sessionPeriods_ok_iff :
    (∃ periods, sessionPeriods zone start end_ = .ok periods) ↔ InCalendar zone start end_ := by
  constructor
  · rintro ⟨periods, h⟩
    obtain ⟨first, hfirst, h⟩ := bind_eq_ok.1 h
    obtain ⟨last, hlast, h⟩ := bind_eq_ok.1 h
    obtain ⟨sessions, hsessions, -⟩ := bind_eq_ok.1 h
    refine ⟨first, last, hfirst, hlast, ?_⟩
    by_contra hend
    have hlt := last.isLt
    have hlt' := first.isLt
    have hle : first ≤ last := Fin.le_def.2 (by omega)
    rw [xnysSessionDays_last hle (by omega)] at hsessions
    cases hsessions
  · rintro ⟨first, last, hfirst, hlast, hend⟩
    obtain ⟨sessions, hsessions, hmem⟩ := xnysSessionDays_eq first last hend
    have hbefore : ∀ d ∈ sessions.sort, d.val + 1 < maxOrdinal := by
      intro d hd
      have hle := Fin.le_def.1 ((hmem d).1 ((Finset.mem_sort _).1 hd)).2.1
      omega
    obtain ⟨periods, hperiods⟩ := periodsOfSessions_ok zone start end_ hbefore
    refine ⟨periods, ?_⟩
    rw [sessionPeriods, hfirst, ok_bind, hlast, ok_bind, hsessions, ok_bind, hperiods]

theorem calendarMissingSlices_day {r : Option (List (ℤ × ℤ))}
    (h : calendarMissingSlices zone ordered .D1 start end_ = .ok r) :
    ∃ slices, r = some slices := by
  rw [calendarMissingSlices, if_neg (by decide)] at h
  obtain ⟨periods, -, h⟩ := bind_eq_ok.1 h
  exact ⟨_, (Except.ok.inj h).symm⟩

theorem calendarMissingSlices_nil_iff :
    calendarMissingSlices zone ordered .D1 start end_ = .ok (some []) ↔
      InCalendar zone start end_ ∧
        ∀ p, ExpectedSession zone start end_ p → HasBar .D1 ordered p := by
  have hplan : ∀ periods, sessionPeriods zone start end_ = .ok periods →
      ∃ slices, calendarMissingSlices zone ordered .D1 start end_ = .ok (some slices) := by
    intro periods h
    have hperiods : calendarPeriods zone .D1 start end_ = .ok periods := h
    rw [calendarMissingSlices, if_neg (by decide), hperiods]
    exact ⟨_, rfl⟩
  constructor
  · intro h
    refine ⟨?_, fun p hp => ?_⟩
    · rw [← sessionPeriods_ok_iff]
      rw [calendarMissingSlices, if_neg (by decide)] at h
      obtain ⟨periods, hperiods, -⟩ := bind_eq_ok.1 h
      exact ⟨periods, hperiods⟩
    · by_contra hbar
      obtain ⟨s, ⟨hs, -⟩, -⟩ := (calendarMissingSlices_exact h).held p hp hbar
      exact not_mem_nil hs
  · rintro ⟨hcalendar, hbars⟩
    obtain ⟨periods, hperiods⟩ := sessionPeriods_ok_iff.2 hcalendar
    obtain ⟨slices, hslices⟩ := hplan periods hperiods
    rw [hslices]
    cases slices with
    | nil => rfl
    | cons s slices =>
      obtain ⟨⟨p, hp, hbar, -⟩, -⟩ :=
        (calendarMissingSlices_exact hslices).ends s mem_cons_self
      exact absurd (hbars p hp) hbar

theorem missingRangeSlices_eq_ok (hbar : ∃ v ∈ cached, start ≤ v ∧ v ≤ end_) :
    missingRangeSlices zone cached .D1 start end_ (some .XNYS) = .ok slices ↔
      calendarMissingSlices zone (barsWithin cached start end_) .D1 start end_ =
        .ok (some slices) := by
  have hne : barsWithin cached start end_ ≠ [] := by
    obtain ⟨v, hv⟩ := hbar
    exact ne_nil_of_mem (mem_barsWithin.2 hv)
  unfold missingRangeSlices
  dsimp only
  rw [head?_eq_some_head hne, getLast?_eq_some_getLast hne]
  dsimp only
  rw [bind_eq_ok]
  constructor
  · rintro ⟨r, hr, h⟩
    obtain ⟨planned, rfl⟩ := calendarMissingSlices_day hr
    rw [hr, Except.ok.inj h]
  · intro h
    exact ⟨_, h, rfl⟩

/-! ## The label of a session -/

theorem Labelled.visible (hp : ExpectedSession zone start end_ p) (hlabel : Labelled zone cached p)
    (hstart : (start.val : ℤ) ≤ dayStart p.bucket) :
    ∃ v ∈ cached, start ≤ v ∧ v ≤ end_ ∧ dateOf v = p.bucket := by
  obtain ⟨-, -, -, -, -, -, -, -, -, -, hclose, -⟩ := hp
  obtain ⟨v, hv, hat⟩ := hlabel
  have hmidnight := localTime_mem zone p.bucket 0
  have hclosed := localTime_mem zone p.bucket 16
  have hday : dayStart p.bucket ≤ v.val ∧ (v.val : ℤ) ≤ dayStart p.bucket + 5 * hourMicros := by
    unfold hourMicros at *
    omega
  refine ⟨v, hv, Fin.le_def.2 ?_, Fin.le_def.2 ?_, Fin.ext ?_⟩
  · omega
  · unfold hourMicros at *
    omega
  · have hdate := dateOf_mem v
    unfold dayStart hourMicros at *
    omega

theorem Supplied.labelled_or (h : Supplied zone cached start end_)
    (hp : ExpectedSession zone start end_ p) :
    Labelled zone cached p ∨ ∃ v ∈ cached, start ≤ v ∧ v ≤ end_ ∧ dateOf v = p.bucket := by
  rcases h.sessions with hfull | ⟨prior, hkept, slices, hslices, hfetched⟩
  · exact .inl (hfull p hp)
  by_cases hbar : ∃ v ∈ prior, start ≤ v ∧ v ≤ end_
  · have hplan := calendarMissingSlices_exact ((missingRangeSlices_eq_ok hbar).1 hslices)
    by_cases hheld : HasBar .D1 (barsWithin prior start end_) p
    · obtain ⟨v, hv, hdate⟩ := hheld
      obtain ⟨hmem, hrange⟩ := mem_barsWithin.1 hv
      exact .inr ⟨v, hkept v hmem, hrange.1, hrange.2, hdate⟩
    · obtain ⟨s, ⟨hs, hinside⟩, -⟩ := hplan.held p hp hheld
      exact .inl (hfetched p hp ⟨s, hs, hinside⟩)
  · -- nothing was cached: the whole range is one slice
    have hnil : barsWithin prior start end_ = [] :=
      eq_nil_iff_forall_not_mem.2 fun v hv => hbar ⟨v, mem_barsWithin.1 hv⟩
    have hwhole : slices = [((start.val : ℤ), (end_.val : ℤ))] := by
      unfold missingRangeSlices at hslices
      rw [hnil] at hslices
      exact (Except.ok.inj hslices).symm
    have hday : ExpectedPeriod zone .D1 start end_ p := hp
    refine .inl (hfetched p hp ⟨((start.val : ℤ), (end_.val : ℤ)), ?_, hday.inside⟩)
    rw [hwhole]
    exact mem_singleton.2 rfl

/-! ## Complete ranges are visible -/

theorem assessOhlcvCoverage_ready {mode : CoverageMode} {freshnessSeconds : Option ℤ}
    {now : Instant} (hbar : ∃ v ∈ cached, start ≤ v ∧ v ≤ end_)
    (hslices : missingRangeSlices zone cached .D1 start end_ (some .XNYS) = .ok [])
    (hfresh : Fresh cached start end_ mode freshnessSeconds now) :
    ∃ a, assessOhlcvCoverage zone cached .D1 start end_ mode freshnessSeconds now (some .XNYS) =
      .ok a ∧ a.status = .ready := by
  have hne : barsWithin cached start end_ ≠ [] := by
    obtain ⟨v, hv⟩ := hbar
    exact ne_nil_of_mem (mem_barsWithin.2 hv)
  unfold assessOhlcvCoverage
  rw [hslices]
  simp only [ok_bind, if_neg hne, ne_eq, not_true_eq_false, if_false]
  cases mode with
  | historical => exact ⟨_, rfl, rfl⟩
  | latest =>
    cases freshnessSeconds with
    | none => exact ⟨_, rfl, rfl⟩
    | some seconds =>
      obtain ⟨cutoff, hcutoff, v, hv, hrange⟩ := hfresh rfl seconds rfl
      have hlast : cutoff ≤ (barsWithin cached start end_).getLast hne := by
        have hmem : v ∈ barsWithin cached start end_ := mem_barsWithin.2 ⟨hv, hrange.1, hrange.2.1⟩
        exact hrange.2.2.trans ((pairwise_sortBy id _).rel_getLast hmem)
      have hstale : ((barsWithin cached start end_).getLast?.any fun last =>
          decide (last < cutoff)) = false := by
        rw [getLast?_eq_some_getLast hne]
        exact decide_eq_false (not_lt.2 hlast)
      dsimp only
      rw [hcutoff, ok_bind, hstale]
      exact ⟨_, rfl, rfl⟩

/-- **When a fully cached daily range is complete**: exactly when its sessions are visible.  A
    session is expected by its midnight in New York, and its bar is looked up by a label that may
    be up to five hours earlier: where the range starts in between, the session is missing for
    good. -/
theorem missingRangeSlices_complete_iff (zone : ExchangeZone) (cached : List Instant)
    (start end_ : Instant) (h : Supplied zone cached start end_) :
    CompleteRange zone cached start end_ ↔ SessionsVisible zone cached start end_ := by
  have hiff : missingRangeSlices zone cached .D1 start end_ (some .XNYS) = .ok [] ↔
      InCalendar zone start end_ ∧ ∀ p, ExpectedSession zone start end_ p →
        HasBar .D1 (barsWithin cached start end_) p :=
    (missingRangeSlices_eq_ok h.bar).trans calendarMissingSlices_nil_iff
  constructor
  · intro hcomplete
    obtain ⟨hcalendar, hbars⟩ := hiff.1 hcomplete.slices
    refine ⟨hcalendar, fun p hp => .inr ?_⟩
    obtain ⟨v, hv, hdate⟩ := hbars p hp
    obtain ⟨hmem, hlo, hhi⟩ := mem_barsWithin.1 hv
    exact ⟨v, hmem, hlo, hhi, hdate⟩
  · intro hvisible
    have hbars : ∀ p, ExpectedSession zone start end_ p →
        HasBar .D1 (barsWithin cached start end_) p := by
      intro p hp
      have hfound : ∃ v ∈ cached, start ≤ v ∧ v ≤ end_ ∧ dateOf v = p.bucket := by
        rcases hvisible.visible p hp with hstart | hfound
        · rcases h.labelled_or hp with hlabel | hfound
          · exact hlabel.visible hp hstart
          · exact hfound
        · exact hfound
      obtain ⟨v, hv, hlo, hhi, hdate⟩ := hfound
      exact ⟨v, mem_barsWithin.2 ⟨hv, hlo, hhi⟩, hdate⟩
    have hslices := hiff.2 ⟨hvisible.inCalendar, hbars⟩
    exact ⟨hslices, fun mode freshnessSeconds now hfresh =>
      assessOhlcvCoverage_ready h.bar hslices hfresh⟩

theorem ExpectedSession.window (h : ExpectedSession zone start end_ p) (first last : Day)
    (hfirst : zone.localDate start = .ok first) (hlast : zone.localDate end_ = .ok last)
    (hend : last.val + 1 < maxOrdinal) : first ≤ p.bucket ∧ p.bucket ≤ last := by
  obtain ⟨first', last', sessions, -, hfirst', hlast', hsessions, hmem, -⟩ := h
  obtain rfl := Except.ok.inj (hfirst.symm.trans hfirst')
  obtain rfl := Except.ok.inj (hlast.symm.trans hlast')
  obtain ⟨s, hs, hwindow⟩ := xnysSessionDays_eq first last hend
  obtain rfl := Except.ok.inj (hs.symm.trans hsessions)
  have hin := (hwindow p.bucket).1 hmem
  exact ⟨hin.1, hin.2.1⟩

theorem ExpectedSession.january (h : ExpectedSession easternStandard
    ⟨63840286800000000, by decide⟩ ⟨63840434400000000, by decide⟩ p) :
    p.bucket.val = 738892 ∨ p.bucket.val = 738893 := by
  have hwindow := h.window ⟨738892, by decide⟩ ⟨738893, by decide⟩ (by decide) (by decide)
    (by decide)
  have hlo := Fin.le_def.1 hwindow.1
  have hhi := Fin.le_def.1 hwindow.2
  simp only at hlo hhi
  omega

/-- The sessions of January 8 and 9, 2024, labelled at midnight in New York. -/
theorem missingRangeSlices_january :
    CompleteRange easternStandard [⟨63840286800000000, by decide⟩, ⟨63840373200000000, by decide⟩]
      ⟨63840286800000000, by decide⟩ ⟨63840434400000000, by decide⟩ := by
  refine (missingRangeSlices_complete_iff easternStandard _ _ _ ⟨?_, .inl fun p hp => ?_⟩).2
    ⟨?_, fun p hp => .inr ?_⟩
  · exact ⟨_, mem_cons_self, by decide, by decide⟩
  · rcases hp.january with hday | hday
    · exact ⟨_, mem_cons_self, .inr (by
        simp [ExchangeZone.localTime, easternStandard, dayStart, hday, hourMicros])⟩
    · exact ⟨_, mem_cons_of_mem _ mem_cons_self, .inr (by
        simp [ExchangeZone.localTime, easternStandard, dayStart, hday, hourMicros])⟩
  · exact ⟨⟨738892, by decide⟩, ⟨738893, by decide⟩, by decide, by decide, by decide⟩
  · rcases hp.january with hday | hday
    · exact ⟨_, mem_cons_self, by decide, by decide, Fin.ext (hday ▸ by decide)⟩
    · exact ⟨_, mem_cons_of_mem _ mem_cons_self, by decide, by decide,
        Fin.ext (hday ▸ by decide)⟩

/-- The same sessions labelled at midnight in UTC: the first is missing from a range that starts at
    its midnight in New York. -/
theorem missingRangeSlices_january_lost :
    Supplied easternStandard [⟨63840268800000000, by decide⟩, ⟨63840355200000000, by decide⟩]
      ⟨63840286800000000, by decide⟩ ⟨63840434400000000, by decide⟩ ∧
    ¬ CompleteRange easternStandard
      [⟨63840268800000000, by decide⟩, ⟨63840355200000000, by decide⟩]
      ⟨63840286800000000, by decide⟩ ⟨63840434400000000, by decide⟩ := by
  have hbar : ∃ v ∈ [⟨63840268800000000, by decide⟩, (⟨63840355200000000, by decide⟩ : Instant)],
      (⟨63840286800000000, by decide⟩ : Instant) ≤ v ∧ v ≤ ⟨63840434400000000, by decide⟩ :=
    ⟨_, mem_cons_of_mem _ mem_cons_self, by decide, by decide⟩
  refine ⟨⟨hbar, .inl fun p hp => ?_⟩, fun hcomplete => ?_⟩
  · rcases hp.january with hday | hday
    · exact ⟨_, mem_cons_self, .inl (by simp [dayStart, hday, hourMicros])⟩
    · exact ⟨_, mem_cons_of_mem _ mem_cons_self, .inl (by
        simp [dayStart, hday, hourMicros])⟩
  · have hbars := (calendarMissingSlices_nil_iff.1
      ((missingRangeSlices_eq_ok hbar).1 hcomplete.slices)).2
    obtain ⟨sessions, hsessions, hmem⟩ := xnysSessionDays_eq ⟨738892, by decide⟩
      ⟨738893, by decide⟩ (by decide)
    have hopen : ¬ IsHoliday 2024 ⟨738892, by decide⟩ := by
      have hrules : ∀ r ∈ holidayRules 2024, r ≠ .ok ⟨738892, by decide⟩ := by decide
      rintro ⟨hs, hok, hd⟩
      obtain ⟨ds, hds, hok⟩ := bind_eq_ok.1 hok
      obtain rfl := Except.ok.inj hok
      refine hrules _ ?_ rfl
      rw [collect_eq_ok.1 hds]
      exact mem_map_of_mem (mem_toFinset.1 hd)
    have hsession : ExpectedSession easternStandard ⟨63840286800000000, by decide⟩
        ⟨63840434400000000, by decide⟩
        ⟨⟨738892, by decide⟩, 63840286800000000, 63840373199999999⟩ :=
      ⟨_, _, sessions, ⟨738893, by decide⟩, by decide, by decide, hsessions,
        (hmem _).2 ⟨by decide, by decide, by decide, hopen, by decide⟩, by decide, by decide,
        by decide, by decide, by decide⟩
    obtain ⟨v, hv, hdate⟩ := hbars _ hsession
    obtain ⟨hmem, hlo, -⟩ := mem_barsWithin.1 hv
    rcases mem_pair.1 hmem with rfl | rfl
    · exact absurd hlo (by decide)
    · exact absurd hdate (by decide)

end

end ChartingPlatform
