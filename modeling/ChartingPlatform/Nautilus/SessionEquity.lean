/-
  The equity intervals between session closes (`nautilus_session_equity.py`).

  Intervals report no external cash flow, so the checks on flows hold; the JSON text of the
  payload and its artifact are left out.
-/
import ChartingPlatform.Lib.Neighbours
import ChartingPlatform.Nautilus.EquityTrace
import ChartingPlatform.Rebalance.Schedule

namespace ChartingPlatform

open Lib List

/-! ## Observations -/

/-- `NautilusSessionCloseEquityObservation`. -/
structure SessionCloseObservation where
  sessionLabel : Day
  eventTimeNs : ℕ
  eventIndex : ℕ
  accountEquity : PyDecimal
  accountCashBalance : PyDecimal
  equity_finite : accountEquity.isFinite = true
  equity_nonneg : 0 ≤ accountEquity.value
  cash_finite : accountCashBalance.isFinite = true

/-- A `NautilusAccountEquityObservation` that has passed its checks. -/
abbrev NativeObservation := { o : EquityObservation // 0 ≤ o.eventTimeNs ∧ 0 ≤ o.eventIndex }

/-- `ObservationPoint`. -/
structure ObservationPoint where
  eventTime : Instant
  eventSequence : ℤ
  sequence_nonneg : 0 ≤ eventSequence
  deriving DecidableEq

/-- `ObservationPoint.__post_init__`. -/
def makeObservationPoint (eventTime : Instant) (eventSequence : ℤ) :
    Except PyError ObservationPoint :=
  if h : 0 ≤ eventSequence then .ok ⟨eventTime, eventSequence, h⟩
  else .error (valueError "event_sequence must be a non-negative integer")

/-- `a < b`. -/
def ObservationPoint.Before (a b : ObservationPoint) : Prop :=
  a.eventTime < b.eventTime ∨ a.eventTime = b.eventTime ∧ a.eventSequence < b.eventSequence

instance (a b : ObservationPoint) : Decidable (a.Before b) := inferInstanceAs (Decidable (_ ∨ _))

/-- `AccountEquityIntervalObservation`, with a complete report of no external cash flow. -/
structure EquityInterval where
  portfolioFingerprint : Digest
  runAttemptId : String
  calendarFingerprint : Digest
  sessionLabel : Day
  startPoint : ObservationPoint
  endPoint : ObservationPoint
  startingEquity : PyDecimal
  endingEquity : PyDecimal
  baseCurrency : String
  engineEvidenceDigest : Digest
  deriving DecidableEq

/-! ## The projection -/

/-- `_timestamp_ns(session.close_time)`. -/
def TradingSession.closeNs (s : TradingSession) : ℤ := eventTimeNs s.closeTime

/-- `_datetime_from_ns`. -/
def datetimeFromNs (value : ℤ) : Except PyError Instant :=
  if value < 0 ∨ value % 1000 ≠ 0 then
    .error (valueError "session-close timestamps must be non-negative microsecond instants")
  else if h : (unixEpoch + value / 1000).toNat < instantLimit then
    .ok ⟨(unixEpoch + value / 1000).toNat, h⟩
  else .error ⟨.overflowError, "date value out of range"⟩

/-- `NautilusSessionEquityIntervalsArtifact`, with the values of its payload. -/
structure SessionEquityIntervals where
  reference : TraceIdentity
  window : ScoringWindow
  calendarId : String
  calendarFingerprint : Digest
  engineEvidenceDigest : Digest
  sessionPeriodsPerYear : ℤ
  expectedSessionLabels : List Day
  observedSessionLabels : List Day
  missingSessionLabels : List Day
  intervals : List EquityInterval

/-- `previous_label`, `previous_time_ns`, `previous_index` and `previous_equity`. -/
structure PreviousClose where
  label : Day
  timeNs : ℤ
  index : ℤ
  equity : PyDecimal

section
variable (upper : String → String) (isAlpha : String → Bool) (sha256 : String → Digest)

/-- `AccountEquityIntervalObservation.__post_init__`. -/
def makeEquityInterval (i : EquityInterval) : Except PyError EquityInterval := do
  ensure (notBlank i.runAttemptId = true) (valueError "run_attempt_id must not be empty")
  ensure (i.startPoint.Before i.endPoint)
    (valueError "equity interval end_point must follow start_point")
  ensure (i.startingEquity.isFinite = true) (valueError "starting_equity must be a finite Decimal")
  ensure (i.endingEquity.isFinite = true) (valueError "ending_equity must be a finite Decimal")
  ensure (0 < i.startingEquity.value ∧ 0 ≤ i.endingEquity.value)
    (valueError "starting_equity must be positive and ending_equity non-negative")
  ensure (i.baseCurrency.length = 3 ∧ i.baseCurrency.toList.all (fun c => c.toNat < 128) = true ∧
      isAlpha i.baseCurrency = true)
    (valueError "base_currency must be a three-letter currency code")
  return { i with baseCurrency := upper i.baseCurrency }

variable (calendar : SessionCalendarSnapshot)

/-- The session of `opening_label`. -/
def openingSession (window : ScoringWindow) : Option TradingSession :=
  calendar.sessions.find? fun s => s.closeNs = window.startNs

/-- The sessions of `expected_labels`. -/
def expectedSessions (window : ScoringWindow) (opening : TradingSession) : List TradingSession :=
  (sortBy (·.sessionLabel) calendar.sessions).filter fun s =>
    opening.sessionLabel < s.sessionLabel ∧ window.startNs < s.closeNs ∧ s.closeNs < window.endNs

/-- The loop over the closes, which collects `close_by_label`. -/
def checkCloses (expected : List Day) (seen : List SessionCloseObservation) :
    ℤ → ℤ → List SessionCloseObservation → Except PyError (List SessionCloseObservation)
  | _, _, [] => .ok seen
  | priorTime, priorIndex, close :: closes => do
    ensure ((rowWith (·.sessionLabel) close.sessionLabel calendar.sessions).any (fun s =>
        decide (close.sessionLabel ∈ expected ∧ (close.eventTimeNs : ℤ) = s.closeNs)) = true)
      (valueError "native session-close observation differs from the frozen calendar")
    ensure (close.sessionLabel ∉ seen.map (·.sessionLabel))
      (valueError "native session-close observations repeat a calendar session")
    ensure (priorTime < close.eventTimeNs ∧ priorIndex < close.eventIndex)
      (valueError "native session-close observations are not in event order")
    checkCloses expected (seen ++ [close]) close.eventTimeNs close.eventIndex closes

variable (reference : TraceReference) (engineEvidenceDigest : Digest)

def intervalTo (previous : PreviousClose) (label : Day) (close : SessionCloseObservation) :
    Except PyError EquityInterval := do
  let startTime ← datetimeFromNs previous.timeNs
  let startPoint ← makeObservationPoint startTime previous.index
  let endTime ← datetimeFromNs close.eventTimeNs
  let endPoint ← makeObservationPoint endTime close.eventIndex
  makeEquityInterval upper isAlpha {
    portfolioFingerprint := reference.portfolioFingerprint
    runAttemptId := reference.attemptId
    calendarFingerprint := calendar.fingerprint sha256
    sessionLabel := label
    startPoint := startPoint
    endPoint := endPoint
    startingEquity := previous.equity
    endingEquity := close.accountEquity
    baseCurrency := reference.baseCurrency
    engineEvidenceDigest := engineEvidenceDigest }

def linkTo (previous : PreviousClose) (label : Day) (close : SessionCloseObservation) :
    Except PyError (List EquityInterval) :=
  if 0 ≤ previous.index ∧ previous.label ∈ calendar.sessions.map (·.sessionLabel) then
    (intervalTo upper isAlpha sha256 calendar reference engineEvidenceDigest previous label
      close).map ([·])
  else .ok []

def intervalsFrom (closes : List SessionCloseObservation) :
    PreviousClose → List TradingSession → Except PyError (List EquityInterval)
  | _, [] => .ok []
  | previous, s :: rest =>
    match rowWith (·.sessionLabel) s.sessionLabel closes with
    -- a missing close is forgotten: no interval starts at it
    | none => intervalsFrom closes ⟨s.sessionLabel, s.closeNs, -1, .finite false 0 0⟩ rest
    | some close => do
      let linked ← linkTo upper isAlpha sha256 calendar reference engineEvidenceDigest previous
        s.sessionLabel close
      let others ← intervalsFrom closes
        ⟨s.sessionLabel, close.eventTimeNs, close.eventIndex, close.accountEquity⟩ rest
      return linked ++ others

/-- `build_nautilus_session_equity_intervals_artifact`. -/
def buildSessionEquityIntervals (observations : List NativeObservation)
    (closes : List SessionCloseObservation) (sessionPeriodsPerYear : ℤ) :
    Except PyError SessionEquityIntervals :=
  match reference.window with
  | none => .error (valueError "session equity intervals require a bounded OOS trace")
  | some window => do
    ensure (1 ≤ sessionPeriodsPerYear)
      (valueError "session_periods_per_year must be a positive integer")
    match openingSession calendar window with
    | none => .error (valueError "OOS opening valuation must equal an actual session close")
    | some first => do
      let expected := expectedSessions calendar window first
      ensure (observations.length = reference.observationCount)
        (valueError "verified OOS equity observations differ from their trace receipt")
      match observations.find? fun o => o.val.eventTimeNs = window.startNs with
      | none =>
        .error (valueError "native OOS trace omitted the exact opening session-close valuation")
      | some opening => do
        ensure (closes.length ≤ 100000)
          (valueError "native session-close observations exceed their count bound")
        let closeByLabel ← checkCloses calendar (expected.map (·.sessionLabel)) [] window.startNs
          opening.val.eventIndex closes
        let intervals ← intervalsFrom upper isAlpha sha256 calendar reference engineEvidenceDigest
          closeByLabel ⟨first.sessionLabel, window.startNs, opening.val.eventIndex,
            opening.val.accountEquity.toDecimal⟩ expected
        let observed := intervals.map (·.sessionLabel)
        return {
          reference := reference.toTraceIdentity
          window := window
          calendarId := calendar.calendarId
          calendarFingerprint := calendar.fingerprint sha256
          engineEvidenceDigest := engineEvidenceDigest
          sessionPeriodsPerYear := sessionPeriodsPerYear
          expectedSessionLabels := expected.map (·.sessionLabel)
          observedSessionLabels := observed
          missingSessionLabels := (expected.map (·.sessionLabel)).filter (· ∉ observed)
          intervals := intervals }

end

/-! ## Consecutive closes -/

structure CloseMark where
  timeNs : ℤ
  index : ℤ
  equity : PyDecimal

def markAt (window : ScoringWindow) (observations : List NativeObservation)
    (closes : List SessionCloseObservation) (s : TradingSession) : Option CloseMark :=
  if s.closeNs = window.startNs then
    (observations.find? fun o => o.val.eventTimeNs = window.startNs).map fun o =>
      ⟨window.startNs, o.val.eventIndex, o.val.accountEquity.toDecimal⟩
  else
    (rowWith (·.sessionLabel) s.sessionLabel closes).map fun c =>
      ⟨c.eventTimeNs, c.eventIndex, c.accountEquity⟩

/-- The opening session and the expected ones, by their labels. -/
def closeChain (calendar : SessionCalendarSnapshot) (window : ScoringWindow) :
    List TradingSession :=
  match openingSession calendar window with
  | none => []
  | some first => first :: expectedSessions calendar window first

def Consecutive (chain : List TradingSession) (s t : TradingSession) : Prop :=
  s ∈ chain ∧ t ∈ chain ∧ s.closeNs < t.closeNs ∧
    ∀ u ∈ chain, ¬ (s.closeNs < u.closeNs ∧ u.closeNs < t.closeNs)

structure EquityInterval.Links (i : EquityInterval) (a : CloseMark) (label : Day) (b : CloseMark) :
    Prop where
  label : i.sessionLabel = label
  startTime : eventTimeNs i.startPoint.eventTime = a.timeNs
  startIndex : i.startPoint.eventSequence = a.index
  startingEquity : i.startingEquity = a.equity
  endTime : eventTimeNs i.endPoint.eventTime = b.timeNs
  endIndex : i.endPoint.eventSequence = b.index
  endingEquity : i.endingEquity = b.equity

/-- **The intervals of a trace**: each links two consecutive closes, none bridges a missing one,
    each starts with the equity that the one before ended with, and there is exactly one for every
    two consecutive closes that were observed. -/
structure SoundIntervals (chain : List TradingSession) (mark : TradingSession → Option CloseMark)
    (intervals : List EquityInterval) : Prop where
  links : ∀ i ∈ intervals, ∃ s t a b, Consecutive chain s t ∧ mark s = some a ∧ mark t = some b ∧
    i.Links a t.sessionLabel b
  unbridged : ∀ i ∈ intervals, ∀ u ∈ chain, mark u = none →
    ¬ (eventTimeNs i.startPoint.eventTime < u.closeNs ∧
      u.closeNs < eventTimeNs i.endPoint.eventTime)
  chained : ∀ i ∈ intervals, ∀ j ∈ intervals, j.startPoint = i.endPoint →
    j.startingEquity = i.endingEquity
  complete : ∀ s t a b, Consecutive chain s t → mark s = some a → mark t = some b →
    ExactlyOne (fun i => i.Links a t.sessionLabel b) intervals

def linkOf (mark : TradingSession → Option CloseMark) (pair : TradingSession × TradingSession) :
    Option (CloseMark × Day × CloseMark) :=
  match mark pair.1, mark pair.2 with
  | some a, some b => some (a, pair.2.sessionLabel, b)
  | _, _ => none

section
variable {mark : TradingSession → Option CloseMark} {a b : CloseMark} {label : Day}
  {s t : TradingSession} {chain : List TradingSession} {intervals : List EquityInterval}

theorem linkOf_eq_some {pair : TradingSession × TradingSession} :
    linkOf mark pair = some (a, label, b) ↔
      mark pair.1 = some a ∧ mark pair.2 = some b ∧ pair.2.sessionLabel = label := by
  unfold linkOf
  cases mark pair.1 with
  | none => simp
  | some a' =>
    cases mark pair.2 with
    | none => simp
    | some b' =>
      simp only [Option.some.injEq, Prod.mk.injEq]
      exact ⟨fun h => ⟨h.1, h.2.2, h.2.1⟩, fun h => ⟨h.1, h.2.2, h.2.1⟩⟩

/-- The intervals of the pairs of neighbours that were both observed. -/
def LinkedByLabel (chain : List TradingSession) (mark : TradingSession → Option CloseMark)
    (intervals : List EquityInterval) : Prop :=
  List.Forall₂ (fun i l => i.Links l.1 l.2.1 l.2.2) intervals
    ((neighbours chain).filterMap (linkOf mark))

/-- The neighbours by label that were observed are consecutive, and the other way round. -/
def NeighboursConsecutive (chain : List TradingSession)
    (mark : TradingSession → Option CloseMark) : Prop :=
  ∀ s ∈ chain, ∀ t ∈ chain, mark s ≠ none → mark t ≠ none →
    ((s, t) ∈ neighbours chain ↔ Consecutive chain s t)

theorem LinkedByLabel.exists_pair (h : LinkedByLabel chain mark intervals) {i : EquityInterval}
    (hi : i ∈ intervals) : ∃ s t a b, (s, t) ∈ neighbours chain ∧ mark s = some a ∧
      mark t = some b ∧ i.Links a t.sessionLabel b := by
  obtain ⟨n, hn, rfl⟩ := getElem_of_mem hi
  have hlink := h.get hn (h.length_eq ▸ hn)
  obtain ⟨⟨s, t⟩, hpair, hof⟩ := mem_filterMap.1 (get_mem _ ⟨n, h.length_eq ▸ hn⟩)
  obtain ⟨ha, hb, hlabel⟩ := linkOf_eq_some.1 hof
  exact ⟨s, t, _, _, hpair, ha, hb, hlabel ▸ hlink⟩

theorem LinkedByLabel.exists_interval (h : LinkedByLabel chain mark intervals)
    (hpair : (s, t) ∈ neighbours chain) (ha : mark s = some a) (hb : mark t = some b) :
    ∃ i ∈ intervals, i.Links a t.sessionLabel b := by
  have hmem : (a, t.sessionLabel, b) ∈ (neighbours chain).filterMap (linkOf mark) :=
    mem_filterMap.2 ⟨_, hpair, linkOf_eq_some.2 ⟨ha, hb, rfl⟩⟩
  obtain ⟨n, hn, heq⟩ := getElem_of_mem hmem
  have hlink := h.get (h.length_eq ▸ hn) hn
  rw [get_eq_getElem, get_eq_getElem] at hlink
  dsimp only at hlink
  rw [heq] at hlink
  exact ⟨_, getElem_mem _, hlink⟩

theorem map_snd_neighbours : ∀ chain : List TradingSession,
    (neighbours chain).map Prod.snd = chain.tail
  | [] => rfl
  | s :: chain => by
    unfold neighbours
    rw [map_snd_zip]
    exact Nat.le_succ _

theorem LinkedByLabel.nodup_labels (h : LinkedByLabel chain mark intervals)
    (hn : (chain.map (·.sessionLabel)).Nodup) : (intervals.map (·.sessionLabel)).Nodup := by
  have hlabels : intervals.map (·.sessionLabel) =
      ((neighbours chain).filterMap (linkOf mark)).map (·.2.1) := by
    rw [← List.forall₂_eq_eq_eq, List.forall₂_map_left_iff, List.forall₂_map_right_iff]
    exact h.imp fun _ _ hlink => hlink.label
  have hsub : (((neighbours chain).filterMap (linkOf mark)).map (·.2.1)).Sublist
      (((neighbours chain).map Prod.snd).map (·.sessionLabel)) := by
    induction neighbours chain with
    | nil => exact .refl _
    | cons pair pairs ih =>
      rw [filterMap_cons, map_cons, map_cons]
      cases hlink : linkOf mark pair with
      | none => exact ih.cons _
      | some l =>
        rw [map_cons, (linkOf_eq_some.1 hlink).2.2]
        exact ih.cons_cons _
  rw [hlabels]
  rw [map_snd_neighbours] at hsub
  exact hn.sublist (hsub.trans ((tail_sublist _).map _))

structure ExactMarks (chain : List TradingSession) (mark : TradingSession → Option CloseMark) :
    Prop where
  labels : (chain.map (·.sessionLabel)).Nodup
  times : ∀ s ∈ chain, ∀ a, mark s = some a → a.timeNs = s.closeNs
  closes : ∀ s ∈ chain, ∀ t ∈ chain, s.closeNs = t.closeNs → s = t

/-- **Linked by label**, the intervals are sound exactly when observed neighbours by label are
    consecutive closes, and the other way round. -/
theorem sound_iff (h : LinkedByLabel chain mark intervals) (hm : ExactMarks chain mark) :
    SoundIntervals chain mark intervals ↔ NeighboursConsecutive chain mark := by
  -- an interval between marks of `s` and `t` is the one of the neighbours `s` and `t`
  have hsame {i : EquityInterval} {s t s' t' : TradingSession} {a b a' b' : CloseMark}
      (hs : s ∈ chain) (ht : t ∈ chain) (hs' : s' ∈ chain) (ht' : t' ∈ chain)
      (ha : mark s = some a) (hb : mark t = some b) (ha' : mark s' = some a')
      (hb' : mark t' = some b') (hi : i.Links a t.sessionLabel b)
      (hi' : i.Links a' t'.sessionLabel b') : s = s' ∧ t = t' := by
    refine ⟨hm.closes s hs s' hs' ?_, hm.closes t ht t' ht' ?_⟩
    · rw [← hm.times s hs a ha, ← hm.times s' hs' a' ha', ← hi.startTime, ← hi'.startTime]
    · rw [← hm.times t ht b hb, ← hm.times t' ht' b' hb', ← hi.endTime, ← hi'.endTime]
  constructor
  · intro hsound s hs t ht hms hmt
    obtain ⟨a, ha⟩ := Option.ne_none_iff_exists'.1 hms
    obtain ⟨b, hb⟩ := Option.ne_none_iff_exists'.1 hmt
    constructor
    · intro hpair
      obtain ⟨i, hi, hlink⟩ := h.exists_interval hpair ha hb
      obtain ⟨s', t', a', b', hcons, ha', hb', hlink'⟩ := hsound.links i hi
      obtain ⟨rfl, rfl⟩ := hsame hs ht hcons.1 hcons.2.1 ha hb ha' hb' hlink hlink'
      exact hcons
    · intro hcons
      obtain ⟨pre, i, post, hsplit, hlink, -⟩ := hsound.complete s t a b hcons ha hb
      obtain ⟨s', t', a', b', hpair, ha', hb', hlink'⟩ := h.exists_pair (i := i)
        (hsplit ▸ mem_append_right _ mem_cons_self)
      have hmem := mem_of_mem_neighbours hpair
      obtain ⟨rfl, rfl⟩ := hsame hs ht hmem.1 hmem.2 ha hb ha' hb' hlink hlink'
      exact hpair
  · intro hcond
    have hlinks (i : EquityInterval) (hi : i ∈ intervals) : ∃ s t a b, Consecutive chain s t ∧
        mark s = some a ∧ mark t = some b ∧ i.Links a t.sessionLabel b := by
      obtain ⟨s, t, a, b, hpair, ha, hb, hlink⟩ := h.exists_pair hi
      have hmem := mem_of_mem_neighbours hpair
      exact ⟨s, t, a, b, (hcond s hmem.1 t hmem.2 (by simp [ha]) (by simp [hb])).1 hpair, ha, hb,
        hlink⟩
    refine ⟨hlinks, fun i hi u hu hnone => ?_, fun i hi j hj hpoint => ?_,
      fun s t a b hcons ha hb => ?_⟩
    · obtain ⟨s, t, a, b, hcons, ha, hb, hlink⟩ := hlinks i hi
      rw [hlink.startTime, hlink.endTime, hm.times s hcons.1 a ha, hm.times t hcons.2.1 b hb]
      exact hcons.2.2.2 u hu
    · obtain ⟨s, t, a, b, hcons, ha, hb, hlink⟩ := hlinks i hi
      obtain ⟨s', t', a', b', hcons', ha', hb', hlink'⟩ := hlinks j hj
      have heq : t = s' := by
        refine hm.closes t hcons.2.1 s' hcons'.1 ?_
        rw [← hm.times t hcons.2.1 b hb, ← hm.times s' hcons'.1 a' ha', ← hlink.endTime,
          ← hlink'.startTime, hpoint]
      subst heq
      rw [hlink'.startingEquity, hlink.endingEquity, Option.some.inj (hb.symm.trans ha')]
    · have hpair := (hcond s hcons.1 t hcons.2.1 (by simp [ha]) (by simp [hb])).2 hcons
      obtain ⟨i, hi, hlink⟩ := h.exists_interval hpair ha hb
      exact exactlyOne_of_nodup (h.nodup_labels hm.labels) hi hlink
        fun j _ hj => hj.label.trans hlink.label.symm

end

/-! ## The loop over the sessions -/

section
variable {upper : String → String} {isAlpha : String → Bool} {sha256 : String → Digest}
  {calendar : SessionCalendarSnapshot} {reference : TraceReference} {engineEvidenceDigest : Digest}
  {previous : PreviousClose} {closes : List SessionCloseObservation} {s : TradingSession}

theorem datetimeFromNs_eq_ok {value : ℤ} {t : Instant} (h : datetimeFromNs value = .ok t) :
    eventTimeNs t = value := by
  unfold datetimeFromNs at h
  split_ifs at h with hbad hlt
  cases h
  unfold eventTimeNs
  unfold unixEpoch at *
  dsimp only
  omega

theorem makeObservationPoint_eq_ok {eventTime : Instant} {sequence : ℤ} {point : ObservationPoint}
    (h : makeObservationPoint eventTime sequence = .ok point) :
    point.eventTime = eventTime ∧ point.eventSequence = sequence := by
  unfold makeObservationPoint at h
  split_ifs at h
  cases h
  exact ⟨rfl, rfl⟩

theorem makeEquityInterval_eq_ok {i j : EquityInterval}
    (h : makeEquityInterval upper isAlpha i = .ok j) :
    j = { i with baseCurrency := upper i.baseCurrency } := by
  simp only [makeEquityInterval, bind_eq_ok, pure_eq_ok, Except.ok.injEq] at h
  obtain ⟨-, -, -, -, -, -, -, -, -, -, -, -, rfl⟩ := h
  rfl

theorem intervalTo_eq_ok {label : Day} {close : SessionCloseObservation} {i : EquityInterval}
    (h : intervalTo upper isAlpha sha256 calendar reference engineEvidenceDigest previous label
      close = .ok i) :
    i.Links ⟨previous.timeNs, previous.index, previous.equity⟩ label
      ⟨close.eventTimeNs, close.eventIndex, close.accountEquity⟩ := by
  simp only [intervalTo, bind_eq_ok] at h
  obtain ⟨start, hstart, point, hpoint, finish, hfinish, point', hpoint', h⟩ := h
  obtain ⟨htime, hindex⟩ := makeObservationPoint_eq_ok hpoint
  obtain ⟨htime', hindex'⟩ := makeObservationPoint_eq_ok hpoint'
  rw [makeEquityInterval_eq_ok h]
  constructor
  · rfl
  · exact (congrArg eventTimeNs htime).trans (datetimeFromNs_eq_ok hstart)
  · exact hindex
  · rfl
  · exact (congrArg eventTimeNs htime').trans (datetimeFromNs_eq_ok hfinish)
  · exact hindex'
  · rfl

/-- What the loop keeps of the session before: its mark, where there is one. -/
def PreviousClose.Keeps (previous : PreviousClose) (m : Option CloseMark) : Prop :=
  match m with
  | none => previous.index < 0
  | some a =>
    0 ≤ previous.index ∧ (⟨previous.timeNs, previous.index, previous.equity⟩ : CloseMark) = a

theorem intervalsFrom_linked {mark : TradingSession → Option CloseMark}
    {rest : List TradingSession} {intervals : List EquityInterval}
    (hs : previous.label = s.sessionLabel) (hkeeps : previous.Keeps (mark s))
    (hmem : ∀ t ∈ s :: rest, t ∈ calendar.sessions)
    (hmark : ∀ t ∈ rest, mark t = (rowWith (·.sessionLabel) t.sessionLabel closes).map fun c =>
      ⟨c.eventTimeNs, c.eventIndex, c.accountEquity⟩)
    (h : intervalsFrom upper isAlpha sha256 calendar reference engineEvidenceDigest closes previous
      rest = .ok intervals) :
    LinkedByLabel (s :: rest) mark intervals := by
  induction rest generalizing previous s intervals with
  | nil =>
    cases h
    exact List.Forall₂.nil
  | cons t rest ih =>
    unfold LinkedByLabel
    rw [neighbours_cons_cons, filterMap_cons]
    have htail : ∀ u ∈ t :: rest, u ∈ calendar.sessions :=
      fun u hu => hmem u (mem_cons_of_mem _ hu)
    have hmarks := fun u hu => hmark u (mem_cons_of_mem t hu)
    have hmt := hmark t mem_cons_self
    unfold intervalsFrom at h
    cases hclose : rowWith (·.sessionLabel) t.sessionLabel closes with
    | none =>
      rw [hclose] at h hmt
      have hnone : linkOf mark (s, t) = none := by
        unfold linkOf
        rw [hmt]
        cases mark s <;> rfl
      rw [hnone]
      exact ih rfl (by rw [hmt]; exact neg_one_lt_zero) htail hmarks h
    | some close =>
      rw [hclose] at h hmt
      simp only [bind_eq_ok, pure_eq_ok, Except.ok.injEq] at h
      obtain ⟨linked, hlinked, others, hothers, rfl⟩ := h
      have hrest : LinkedByLabel (t :: rest) mark others := by
        refine ih rfl ?_ htail hmarks hothers
        rw [hmt]
        exact ⟨Int.natCast_nonneg _, rfl⟩
      have hlabel : previous.label ∈ calendar.sessions.map (·.sessionLabel) := by
        rw [hs]
        exact mem_map_of_mem (hmem s mem_cons_self)
      cases hms : mark s with
      | none =>
        rw [hms] at hkeeps
        have hnone : linkOf mark (s, t) = none := by
          unfold linkOf
          rw [hms]
        unfold linkTo at hlinked
        rw [if_neg fun hbad => absurd hkeeps (not_lt.2 hbad.1)] at hlinked
        cases hlinked
        rw [hnone]
        exact hrest
      | some a =>
        rw [hms] at hkeeps
        obtain ⟨hindex, rfl⟩ := hkeeps
        unfold linkTo at hlinked
        rw [if_pos ⟨hindex, hlabel⟩, map_eq_ok] at hlinked
        obtain ⟨i, hi, rfl⟩ := hlinked
        have hsome : linkOf mark (s, t) = some (⟨previous.timeNs, previous.index, previous.equity⟩,
            t.sessionLabel, ⟨close.eventTimeNs, close.eventIndex, close.accountEquity⟩) :=
          linkOf_eq_some.2 ⟨hms, hmt, rfl⟩
        rw [hsome]
        exact List.Forall₂.cons (intervalTo_eq_ok hi) hrest

theorem checkCloses_eq_ok {expected : List Day} {seen out : List SessionCloseObservation}
    {priorTime priorIndex : ℤ}
    (h : checkCloses calendar expected seen priorTime priorIndex closes = .ok out) :
    out = seen ++ closes ∧ ∀ c ∈ closes, ∃ s ∈ calendar.sessions,
      s.sessionLabel = c.sessionLabel ∧ c.eventTimeNs = s.closeNs := by
  induction closes generalizing seen priorTime priorIndex with
  | nil =>
    cases h
    exact ⟨(append_nil _).symm, fun _ hc => absurd hc not_mem_nil⟩
  | cons c closes ih =>
    simp only [checkCloses, bind_eq_ok, ensure_eq_ok] at h
    obtain ⟨-, hsession, -, -, -, -, h⟩ := h
    obtain ⟨rfl, hrest⟩ := ih h
    refine ⟨by rw [append_assoc, singleton_append], forall_mem_cons.2 ⟨?_, hrest⟩⟩
    obtain ⟨s, hs, hok⟩ := (Option.any_eq_true ..).1 hsession
    obtain ⟨hmem, hlabel⟩ := mem_of_rowWith hs
    exact ⟨s, hmem, hlabel, (of_decide_eq_true hok).2⟩

theorem closeNs_injOn {t : TradingSession} (hs : s ∈ calendar.sessions)
    (ht : t ∈ calendar.sessions) (h : s.closeNs = t.closeNs) : s = t := by
  by_contra hne
  have hdiffer : calendar.sessions.Pairwise fun s t => s.closeTime ≠ t.closeTime :=
    calendar.segments_ne.imp fun {s t} hst =>
      (hst _ (getLast_mem s.nonempty) _ (getLast_mem t.nonempty)).2
  have : Std.Symm fun s t : TradingSession => s.closeTime ≠ t.closeTime := ⟨fun _ _ hab => hab.symm⟩
  refine hdiffer.forall hs ht hne ?_
  unfold TradingSession.closeNs eventTimeNs at h
  exact Fin.ext (by omega)

theorem label_injOn {t : TradingSession} (hs : s ∈ calendar.sessions)
    (ht : t ∈ calendar.sessions) (h : s.sessionLabel = t.sessionLabel) : s = t := by
  have hn := nodup_map_of_pairwise_lt calendar.labels_lt
  exact inj_on_of_nodup_map hn hs ht h

structure Projected (calendar : SessionCalendarSnapshot) (window : ScoringWindow)
    (observations : List NativeObservation) (closes : List SessionCloseObservation)
    (intervals : List EquityInterval) : Prop where
  linked : LinkedByLabel (closeChain calendar window) (markAt window observations closes) intervals
  exact_marks : ExactMarks (closeChain calendar window) (markAt window observations closes)

/-- **The intervals by label**: the pairs of neighbours that were both observed. -/
theorem buildSessionEquityIntervals_eq_ok {observations : List NativeObservation} {periods : ℤ} {window : ScoringWindow}
    {r : SessionEquityIntervals} (hwindow : reference.window = some window)
    (h : buildSessionEquityIntervals upper isAlpha sha256 calendar reference engineEvidenceDigest
      observations closes periods = .ok r) :
    Projected calendar window observations closes r.intervals := by
  unfold buildSessionEquityIntervals at h
  rw [hwindow] at h
  obtain ⟨-, -, h⟩ := bind_eq_ok.1 h
  cases hfirst : openingSession calendar window with
  | none =>
    rw [hfirst] at h
    cases h
  | some first =>
    rw [hfirst] at h
    obtain ⟨-, -, h⟩ := bind_eq_ok.1 h
    cases hopening : observations.find? fun o => o.val.eventTimeNs = window.startNs with
    | none =>
      rw [hopening] at h
      cases h
    | some opening =>
      rw [hopening] at h
      simp only [bind_eq_ok, pure_eq_ok, Except.ok.injEq] at h
      obtain ⟨-, -, byLabel, hbyLabel, intervals, hintervals, rfl⟩ := h
      obtain ⟨hby, hcloses⟩ := checkCloses_eq_ok hbyLabel
      rw [hby, nil_append] at hintervals
      have hchain : closeChain calendar window =
          first :: expectedSessions calendar window first := by
        unfold closeChain
        rw [hfirst]
      have hstart : first.closeNs = window.startNs := by
        simpa using find?_some hfirst
      have hexpected (s : TradingSession) (hs : s ∈ expectedSessions calendar window first) :
          s ∈ calendar.sessions ∧ first.sessionLabel < s.sessionLabel ∧
            window.startNs < s.closeNs := by
        obtain ⟨hmem, hbounds⟩ := mem_filter.1 hs
        have hbounds := of_decide_eq_true hbounds
        exact ⟨(mem_sortBy _).1 hmem, hbounds.1, hbounds.2.1⟩
      have hmem : ∀ s ∈ first :: expectedSessions calendar window first, s ∈ calendar.sessions :=
        forall_mem_cons.2 ⟨mem_of_find?_eq_some hfirst, fun s hs => (hexpected s hs).1⟩
      have hfirstMark : markAt window observations closes first = some
          ⟨window.startNs, opening.val.eventIndex, opening.val.accountEquity.toDecimal⟩ := by
        unfold markAt
        rw [if_pos hstart, hopening]
        rfl
      have hmark (s : TradingSession) (hs : s ∈ expectedSessions calendar window first) :
          markAt window observations closes s = (rowWith (·.sessionLabel) s.sessionLabel
            closes).map fun c => ⟨c.eventTimeNs, c.eventIndex, c.accountEquity⟩ :=
        if_neg (hexpected s hs).2.2.ne'
      constructor
      · rw [hchain]
        refine intervalsFrom_linked rfl ?_ hmem hmark hintervals
        rw [hfirstMark]
        exact ⟨opening.property.2, rfl⟩
      · rw [hchain]
        refine ⟨?_, forall_mem_cons.2 ⟨fun a ha => ?_, fun s hs a ha => ?_⟩,
          fun s hs t ht heq => closeNs_injOn (hmem s hs) (hmem t ht) heq⟩
        · have hsorted : (expectedSessions calendar window first).Pairwise
              fun s t => s.sessionLabel < t.sessionLabel := by
            unfold expectedSessions
            rw [sortBy_of_pairwise calendar.labels_lt]
            exact calendar.labels_lt.filter _
          exact nodup_map_of_pairwise_lt
            (pairwise_cons.2 ⟨fun s hs => (hexpected s hs).2.1, hsorted⟩)
        · cases hfirstMark.symm.trans ha
          exact hstart.symm
        · rw [hmark s hs] at ha
          obtain ⟨c, hc, rfl⟩ := Option.map_eq_some_iff.1 ha
          obtain ⟨hclose, hlabel⟩ := mem_of_rowWith hc
          obtain ⟨s', hs', hlabel', htime⟩ := hcloses c hclose
          rw [htime, label_injOn hs' (hexpected s hs).1 (hlabel'.trans hlabel)]

end

/-- **The intervals of a trace are sound** exactly when two observed closes are neighbours in the
    order of the labels if and only if they are consecutive. -/
theorem session_intervals_sound_iff (upper : String → String) (isAlpha : String → Bool)
    (sha256 : String → Digest) (calendar : SessionCalendarSnapshot) (reference : TraceReference)
    (engineEvidenceDigest : Digest) (observations : List NativeObservation)
    (closes : List SessionCloseObservation) (periods : ℤ) (window : ScoringWindow)
    (r : SessionEquityIntervals) (hwindow : reference.window = some window)
    (h : buildSessionEquityIntervals upper isAlpha sha256 calendar reference engineEvidenceDigest
      observations closes periods = .ok r) :
    SoundIntervals (closeChain calendar window) (markAt window observations closes) r.intervals ↔
      NeighboursConsecutive (closeChain calendar window) (markAt window observations closes) :=
  have hprojected := buildSessionEquityIntervals_eq_ok hwindow h
  sound_iff hprojected.linked hprojected.exact_marks

variable {calendar : SessionCalendarSnapshot}

def windowBetween (s t : TradingSession) (hs : 0 ≤ s.closeNs := by decide)
    (hst : s.closeNs < t.closeNs + 1 := by decide) : ScoringWindow where
  fingerprint := ⟨"window"⟩
  startNs := s.closeNs
  endNs := t.closeNs + 1
  start_nonneg := hs
  start_lt_end := hst

def windowReference (window : ScoringWindow) : TraceReference where
  trialId := "trial"
  attemptId := "attempt"
  portfolioFingerprint := ⟨"portfolio"⟩
  snapshotFingerprint := ⟨"snapshot"⟩
  sourceTapeFingerprint := ⟨"tape"⟩
  window := some window
  baseCurrency := "USD"
  initialCapital := ⟨false, 1000, 0, by decide, by decide⟩
  artifact := {
    contentDigest := ⟨"trace"⟩
    byteLength := 1
    mediaType := accountEquityTraceMediaType
    schemaVersion := accountEquityTraceProtocol
    storageKey := ⟨"trace"⟩
    storage_key := rfl }
  observationCount := 1

def openingAt (window : ScoringWindow) : NativeObservation :=
  ⟨⟨window.startNs, ⟨false, 1000, 0, by decide, by decide⟩, 0, ⟨false, 500, 0, by decide,
    by decide⟩, none⟩, window.start_nonneg, le_rfl⟩

def closeOf (s : TradingSession) : SessionCloseObservation where
  sessionLabel := s.sessionLabel
  eventTimeNs := s.closeNs.toNat
  eventIndex := 1
  accountEquity := .finite false 1100 0
  accountCashBalance := .finite false 500 0
  equity_finite := rfl
  equity_nonneg := by norm_num [PyDecimal.value]
  cash_finite := rfl

def oneClose (calendar : SessionCalendarSnapshot) (window : ScoringWindow) (s : TradingSession) :
    Except PyError SessionEquityIntervals :=
  buildSessionEquityIntervals id (fun _ => true) (fun _ => ⟨"digest"⟩) calendar
    (windowReference window) ⟨"engine"⟩ [openingAt window] [closeOf s] 252

/-- The window from Tuesday's close to Wednesday's. -/
def weekWindow : ScoringWindow :=
  windowBetween (sessionOn "tue" (weekDay 1) (weekDay 1)) (sessionOn "wed" (weekDay 2) (weekDay 2))

theorem session_intervals_week :
    ∃ r, oneClose weekCalendar weekWindow (sessionOn "wed" (weekDay 2) (weekDay 2)) = .ok r ∧
      (SoundIntervals (closeChain weekCalendar weekWindow)
          (markAt weekWindow [openingAt weekWindow]
            [closeOf (sessionOn "wed" (weekDay 2) (weekDay 2))]) r.intervals ↔
        NeighboursConsecutive (closeChain weekCalendar weekWindow)
          (markAt weekWindow [openingAt weekWindow]
            [closeOf (sessionOn "wed" (weekDay 2) (weekDay 2))])) := by
  have hcount : (oneClose weekCalendar weekWindow (sessionOn "wed" (weekDay 2)
      (weekDay 2))).toOption.map (fun r => r.intervals.length) = some 1 := by
    decide +kernel
  obtain ⟨r, h, -⟩ := toOption_map_eq_some.1 hcount
  exact ⟨r, h, session_intervals_sound_iff _ _ _ _ (windowReference weekWindow) _ _ _ _
    weekWindow r rfl h⟩

/-- A calendar whose Tuesday trades on Wednesday, and whose Wednesday trades on Tuesday, after a
    Monday. -/
def crossedCalendar : SessionCalendarSnapshot where
  calendarId := "XNYS"
  definitionVersion := "1"
  timezoneName := "America/New_York"
  timezoneDatabaseVersion := "2024a"
  coverageStart := weekDay 0
  coverageEnd := weekDay 2
  days := [tradingDay (sessionOn "mon" (weekDay 0) (weekDay 0)),
    tradingDay (sessionOn "tue" (weekDay 1) (weekDay 2)),
    tradingDay (sessionOn "wed" (weekDay 2) (weekDay 1))]
  sourceEvidenceDigest := ⟨"evidence"⟩
  start_le_end := by decide
  covered := by decide
  contiguous := by decide
  unique_ids := by decide
  disjoint := by decide +kernel

/-- The window from Monday's close to the last one, on Wednesday. -/
def crossedWindow : ScoringWindow :=
  windowBetween (sessionOn "mon" (weekDay 0) (weekDay 0)) (sessionOn "tue" (weekDay 1) (weekDay 2))

/-- The interval from Monday to Wednesday bridges the close on Tuesday, which is missing. -/
theorem session_interval_bridges :
    ∃ r, oneClose crossedCalendar crossedWindow (sessionOn "tue" (weekDay 1) (weekDay 2)) = .ok r ∧
      ¬ SoundIntervals (closeChain crossedCalendar crossedWindow)
        (markAt crossedWindow [openingAt crossedWindow]
          [closeOf (sessionOn "tue" (weekDay 1) (weekDay 2))]) r.intervals := by
  have hpoints : (oneClose crossedCalendar crossedWindow (sessionOn "tue" (weekDay 1)
      (weekDay 2))).toOption.map (fun r => r.intervals.map fun i =>
        (eventTimeNs i.startPoint.eventTime, eventTimeNs i.endPoint.eventTime)) =
      some [(crossedWindow.startNs, crossedWindow.endNs - 1)] := by
    decide +kernel
  obtain ⟨r, h, hpoints⟩ := toOption_map_eq_some.1 hpoints
  obtain ⟨i, hi, hpoint⟩ := mem_map.1 (hpoints ▸ mem_singleton_self _)
  obtain ⟨hstart, hend⟩ := Prod.mk.inj hpoint
  refine ⟨r, h, fun hsound => ?_⟩
  refine hsound.unbridged i hi (sessionOn "wed" (weekDay 2) (weekDay 1)) (by decide +kernel)
    (by rfl) ?_
  rw [hstart, hend]
  decide +kernel

end ChartingPlatform
