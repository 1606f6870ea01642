/-
  Session calendars and rebalance policies (`rebalance.py`).

  The segments of a session, the days of a calendar and a policy carry the proofs of the
  checks that their constructors make.
-/
import ChartingPlatform.Canonical.MarketEvent
import ChartingPlatform.Rebalance.Periods

namespace ChartingPlatform

open Lib List

/-! ## Sessions -/

/-- `SessionSegment`, in UTC. -/
structure SessionSegment where
  openTime : Instant
  closeTime : Instant
  open_lt_close : openTime < closeTime
  deriving DecidableEq

def SessionSegment.Before (a b : SessionSegment) : Prop := a.closeTime ≤ b.openTime

instance : DecidableRel SessionSegment.Before := fun _ _ => inferInstanceAs (Decidable (_ ≤ _))

theorem SessionSegment.Before.trans {a b c : SessionSegment} (hab : a.Before b) (hbc : b.Before c) :
    a.Before c := LE.le.trans hab (b.open_lt_close.le.trans hbc)

instance : IsTrans SessionSegment SessionSegment.Before := ⟨fun _ _ _ => .trans⟩

/-- `TradingSession`. -/
@[ext]
structure TradingSession where
  sessionId : String
  sessionLabel : Day
  segments : List SessionSegment
  sessionId_notBlank : notBlank sessionId = true
  nonempty : segments ≠ []
  disjoint : segments.Pairwise SessionSegment.Before

instance : DecidableEq TradingSession := fun _ _ => decidable_of_iff' _ TradingSession.ext_iff

namespace TradingSession

/-- `open_time`. -/
def openTime (s : TradingSession) : Instant := (s.segments.head s.nonempty).openTime

/-- `close_time`. -/
def closeTime (s : TradingSession) : Instant := (s.segments.getLast s.nonempty).closeTime

end TradingSession

/-! ## Calendars -/

/-- `CalendarDayStatus`. -/
inductive CalendarDayStatus where
  | trading | closed
  deriving DecidableEq, Repr

def CalendarDayStatus.text : CalendarDayStatus → String
  | .trading => "trading"
  | .closed => "closed"

/-- `CalendarDay`. -/
structure CalendarDay where
  label : Day
  status : CalendarDayStatus
  session : Option TradingSession
  trading : status = .trading ↔ session.isSome = true
  label_eq : ∀ s ∈ session, s.sessionLabel = label
  deriving DecidableEq

def daySessions (days : List CalendarDay) : List TradingSession :=
  days.filterMap CalendarDay.session

def daySegments (days : List CalendarDay) : List SessionSegment :=
  sortBy SessionSegment.openTime ((daySessions days).flatMap TradingSession.segments)

def checkLabels : Day → List CalendarDay → Except PyError Unit
  | _, [] => .ok ()
  | expected, d :: ds => do
    ensure (d.label = expected)
      (valueError "calendar days must be unique and contiguous across coverage")
    let next ← shiftDays expected 1
    checkLabels next ds

/-- `SessionCalendarSnapshot`. -/
structure SessionCalendarSnapshot where
  calendarId : String
  definitionVersion : String
  timezoneName : String
  timezoneDatabaseVersion : String
  coverageStart : Day
  coverageEnd : Day
  days : List CalendarDay
  sourceEvidenceDigest : Digest
  start_le_end : coverageStart ≤ coverageEnd
  covered : days.length = coverageEnd.val - coverageStart.val + 1
  contiguous : checkLabels coverageStart days = .ok ()
  unique_ids : ((daySessions days).map TradingSession.sessionId).Nodup
  disjoint : (daySegments days).Pairwise SessionSegment.Before

/-- `SessionCalendarSnapshot.__post_init__`. -/
def makeSessionCalendarSnapshot (calendarId definitionVersion timezoneName
    timezoneDatabaseVersion : String) (coverageStart coverageEnd : Day) (days : List CalendarDay)
    (sourceEvidenceDigest : Digest) : Except PyError SessionCalendarSnapshot := do
  ensure (notBlank calendarId = true) (valueError "calendar_id must not be empty")
  ensure (notBlank definitionVersion = true) (valueError "definition_version must not be empty")
  ensure (notBlank timezoneName = true) (valueError "timezone_name must not be empty")
  ensure (notBlank timezoneDatabaseVersion = true)
    (valueError "timezone_database_version must not be empty")
  if hle : coverageStart ≤ coverageEnd then
    if hcovered : (sortBy CalendarDay.label days).length =
        coverageEnd.val - coverageStart.val + 1 then
      match hlabels : checkLabels coverageStart (sortBy CalendarDay.label days) with
      | .error e => .error e
      | .ok () =>
        if hids : ((daySessions (sortBy CalendarDay.label days)).map
            TradingSession.sessionId).Nodup then
          if hsegments : (daySegments (sortBy CalendarDay.label days)).IsChain
              SessionSegment.Before then
            .ok {
              calendarId := calendarId
              definitionVersion := definitionVersion
              timezoneName := timezoneName
              timezoneDatabaseVersion := timezoneDatabaseVersion
              coverageStart := coverageStart
              coverageEnd := coverageEnd
              days := sortBy CalendarDay.label days
              sourceEvidenceDigest := sourceEvidenceDigest
              start_le_end := hle
              covered := hcovered
              contiguous := hlabels
              unique_ids := hids
              disjoint := isChain_iff_pairwise.1 hsegments }
          else .error (valueError "sessions in one calendar must not overlap in UTC time")
        else .error (valueError "session ids must be unique within a calendar")
    else .error (valueError "calendar must explicitly cover every date in its inclusive range")
  else .error (valueError "calendar coverage_end must not precede coverage_start")

def SessionSegment.toPy (s : SessionSegment) : PyValue :=
  .dataclass "app.strategy_lab_v2.rebalance.SessionSegment"
    [({ name := "open_time" }, .datetime (.utc s.openTime)),
      ({ name := "close_time" }, .datetime (.utc s.closeTime))]

def TradingSession.toPy (s : TradingSession) : PyValue :=
  .dataclass "app.strategy_lab_v2.rebalance.TradingSession"
    [({ name := "session_id" }, .str s.sessionId),
      ({ name := "session_label" }, .date s.sessionLabel),
      ({ name := "segments" }, .tuple (s.segments.map SessionSegment.toPy))]

def CalendarDay.toPy (d : CalendarDay) : PyValue :=
  .dataclass "app.strategy_lab_v2.rebalance.CalendarDay"
    [({ name := "label" }, .date d.label),
      ({ name := "status" },
        .enum "app.strategy_lab_v2.rebalance.CalendarDayStatus" (.str d.status.text)),
      ({ name := "session" }, d.session.elim .none TradingSession.toPy)]

namespace SessionCalendarSnapshot

/-- `SessionCalendarSnapshot.fingerprint`. -/
def fingerprint (sha256 : String → Digest) (c : SessionCalendarSnapshot) : Digest :=
  digest sha256 (.mapping [(.str "schema", .str "strategy-lab.session-calendar.v1"),
    (.str "calendar_id", .str c.calendarId),
    (.str "definition_version", .str c.definitionVersion),
    (.str "timezone_name", .str c.timezoneName),
    (.str "timezone_database_version", .str c.timezoneDatabaseVersion),
    (.str "coverage_start", .date c.coverageStart), (.str "coverage_end", .date c.coverageEnd),
    (.str "days", .tuple (c.days.map CalendarDay.toPy)),
    (.str "source_evidence_digest", .str c.sourceEvidenceDigest.text)])

def sessions (c : SessionCalendarSnapshot) : List TradingSession := daySessions c.days

end SessionCalendarSnapshot

section
variable {expected : Day} {ds : List CalendarDay} {c : SessionCalendarSnapshot}

theorem checkLabels_eq_ok (h : checkLabels expected ds = .ok ()) :
    (∀ d ∈ ds, expected ≤ d.label) ∧ ds.Pairwise fun a b => a.label < b.label := by
  induction ds generalizing expected with
  | nil => exact ⟨nofun, List.Pairwise.nil⟩
  | cons d ds ih =>
    simp only [checkLabels, bind_eq_ok, ensure_eq_ok] at h
    obtain ⟨-, rfl, next, hnext, h⟩ := h
    obtain ⟨hle, hpairwise⟩ := ih h
    have hlt : d.label < next := by
      unfold shiftDays at hnext
      split_ifs at hnext
      cases hnext
      rw [Fin.lt_def]
      dsimp only
      omega
    refine ⟨forall_mem_cons.2 ⟨le_rfl, fun b hb => hlt.le.trans (hle b hb)⟩, ?_⟩
    exact pairwise_cons.2 ⟨fun b hb => hlt.trans_le (hle b hb), hpairwise⟩

theorem SessionCalendarSnapshot.labels_lt (c : SessionCalendarSnapshot) :
    c.sessions.Pairwise fun s t => s.sessionLabel < t.sessionLabel := by
  unfold SessionCalendarSnapshot.sessions daySessions
  rw [pairwise_filterMap]
  refine (checkLabels_eq_ok c.contiguous).2.imp fun {a b} hab s hs t ht => ?_
  rw [a.label_eq s hs, b.label_eq t ht]
  exact hab

theorem SessionCalendarSnapshot.segments_ne (c : SessionCalendarSnapshot) :
    c.sessions.Pairwise fun s t => ∀ a ∈ s.segments, ∀ b ∈ t.segments,
      a.openTime ≠ b.openTime ∧ a.closeTime ≠ b.closeTime := by
  have hne : (daySegments c.days).Pairwise fun a b =>
      a.openTime ≠ b.openTime ∧ a.closeTime ≠ b.closeTime :=
    c.disjoint.imp fun {a b} hab =>
      ⟨(a.open_lt_close.trans_le hab).ne, (LE.le.trans_lt hab b.open_lt_close).ne⟩
  have hflat := (perm_sortBy SessionSegment.openTime _).pairwise hne
    fun hab => ⟨hab.1.symm, hab.2.symm⟩
  exact (pairwise_flatMap.1 hflat).2

end

/-! ## Policies -/

/-- `RebalanceSelection`. -/
inductive RebalanceSelection where
  | firstSession | lastSession
  deriving DecidableEq, Repr

def RebalanceSelection.text : RebalanceSelection → String
  | .firstSession => "first_session"
  | .lastSession => "last_session"

/-- `RebalanceTrigger`. -/
inductive RebalanceTrigger where
  | sessionOpenBeforeEvents | sessionCloseAfterEvents
  deriving DecidableEq, Repr

def RebalanceTrigger.text : RebalanceTrigger → String
  | .sessionOpenBeforeEvents => "session_open_before_events"
  | .sessionCloseAfterEvents => "session_close_after_events"

/-- `RebalanceMisfirePolicy`. -/
inductive RebalanceMisfirePolicy where
  | failRun | skipOccurrence
  deriving DecidableEq, Repr

def RebalanceMisfirePolicy.text : RebalanceMisfirePolicy → String
  | .failRun => "fail_run"
  | .skipOccurrence => "skip_occurrence"

/-- `CalendarRebalancePolicy`. -/
structure CalendarRebalancePolicy where
  calendarId : String
  calendarFingerprint : Digest
  cadence : RebalanceCadence
  trigger : RebalanceTrigger
  selection : RebalanceSelection := .firstSession
  misfirePolicy : RebalanceMisfirePolicy := .failRun
  definitionVersion : String := "strategy-lab.rebalance-policy.v1"
  each_first : cadence = .eachSession → selection = .firstSession

/-- `CalendarRebalancePolicy.fingerprint`. -/
def CalendarRebalancePolicy.fingerprint (sha256 : String → Digest) (p : CalendarRebalancePolicy) :
    Digest :=
  digest sha256 (.dataclass "app.strategy_lab_v2.rebalance.CalendarRebalancePolicy"
    [({ name := "calendar_id" }, .str p.calendarId),
      ({ name := "calendar_fingerprint" }, .str p.calendarFingerprint.text),
      ({ name := "cadence" },
        .enum "app.strategy_lab_v2.rebalance.RebalanceCadence" (.str p.cadence.text)),
      ({ name := "trigger" },
        .enum "app.strategy_lab_v2.rebalance.RebalanceTrigger" (.str p.trigger.text)),
      ({ name := "selection" },
        .enum "app.strategy_lab_v2.rebalance.RebalanceSelection" (.str p.selection.text)),
      ({ name := "misfire_policy" },
        .enum "app.strategy_lab_v2.rebalance.RebalanceMisfirePolicy" (.str p.misfirePolicy.text)),
      ({ name := "definition_version" }, .str p.definitionVersion)])

end ChartingPlatform
