/-
  Rebalance schedules (`rebalance.py`): one session of each period of a calendar, clipped
  to a range of labels and to an interval of times.
-/
import ChartingPlatform.Forward.AdmissionRuns
import ChartingPlatform.Lib.Batches
import ChartingPlatform.Lib.Groups
import ChartingPlatform.Rebalance.Calendars

namespace ChartingPlatform

open Lib List

/-! ## Occurrences -/

/-- `ScheduledRebalance`. -/
structure ScheduledRebalance where
  occurrenceId : Digest
  policyFingerprint : Digest
  calendarFingerprint : Digest
  sessionId : String
  sessionLabel : Day
  eventTime : Instant
  trigger : RebalanceTrigger
  cadencePeriod : String
  misfirePolicy : RebalanceMisfirePolicy
  deriving DecidableEq

def RebalanceTrigger.boundary : RebalanceTrigger → TradingSession → Instant
  | .sessionOpenBeforeEvents, s => s.openTime
  | .sessionCloseAfterEvents, s => s.closeTime

def CalendarRebalancePolicy.period (policy : CalendarRebalancePolicy) (s : TradingSession) : String :=
  calendarPeriodKey s.sessionLabel policy.cadence

section
variable (sha256 : String → Digest) (calendar : SessionCalendarSnapshot)
  (policy : CalendarRebalancePolicy)

/-- The `identity` of an occurrence. -/
def occurrenceIdentity (period : String) (s : TradingSession) : PyValue :=
  .mapping [(.str "policy_fingerprint", .str (policy.fingerprint sha256).text),
    (.str "calendar_fingerprint", .str (calendar.fingerprint sha256).text),
    (.str "session_id", .str s.sessionId), (.str "session_label", .date s.sessionLabel),
    (.str "event_time", .datetime (.utc (policy.trigger.boundary s))),
    (.str "trigger",
      .enum "app.strategy_lab_v2.rebalance.RebalanceTrigger" (.str policy.trigger.text)),
    (.str "cadence_period", .str period)]

def occurrence (period : String) (s : TradingSession) : ScheduledRebalance where
  occurrenceId := digest sha256 (occurrenceIdentity sha256 calendar policy period s)
  policyFingerprint := policy.fingerprint sha256
  calendarFingerprint := calendar.fingerprint sha256
  sessionId := s.sessionId
  sessionLabel := s.sessionLabel
  eventTime := policy.trigger.boundary s
  trigger := policy.trigger
  cadencePeriod := period
  misfirePolicy := policy.misfirePolicy

/-! ## Schedules -/

/-- `require_complete_calendar_period_coverage`. -/
def requireCompleteCalendarPeriodCoverage (cadence : RebalanceCadence) : Except PyError Unit :=
  let incomplete := valueError ("calendar coverage must include complete cadence periods so " ++
    "omitted sessions cannot be mistaken for holidays")
  if cadence = .eachSession then .ok ()
  else do
    let start ← periodStart calendar.coverageStart cadence
    ensure (calendar.coverageStart = start) incomplete
    let finish ← periodEnd calendar.coverageEnd cadence
    ensure (calendar.coverageEnd = finish) incomplete

/-- `sessions_by_period`. -/
def sessionsByPeriod : List (String × List TradingSession) :=
  calendar.days.foldl (fun groups day =>
    match day.session with
    | none => groups
    | some s => addTo groups (calendarPeriodKey day.label policy.cadence) s) []

def selectSession (sessions : List TradingSession) : Option TradingSession :=
  if policy.cadence = .eachSession then sessions.head?
  else match policy.selection with
    | .firstSession => sessions.head?
    | .lastSession => sessions.getLast?

/-- `selected`, sorted by the labels. -/
def selectedSessions : List (String × TradingSession) :=
  sortBy (fun item => item.2.sessionLabel) <| (sessionsByPeriod calendar policy).filterMap fun g =>
    (selectSession policy g.2).map fun s => (g.1, s)

def TradingSession.inRange (fromLabel throughLabel : Day) (s : TradingSession) : Bool :=
  decide (fromLabel ≤ s.sessionLabel ∧ s.sessionLabel ≤ throughLabel)

/-- `schedule_rebalances`. -/
def scheduleRebalances (fromLabel throughLabel : Day) : Except PyError (List ScheduledRebalance) := do
  ensure (policy.calendarId = calendar.calendarId)
    (valueError "rebalance policy calendar_id does not match the supplied calendar")
  ensure (policy.calendarFingerprint = calendar.fingerprint sha256)
    (valueError "rebalance policy calendar fingerprint is stale or mismatched")
  ensure (fromLabel ≤ throughLabel)
    (valueError "from_session_label must not follow through_session_label")
  ensure (calendar.coverageStart ≤ fromLabel ∧ throughLabel ≤ calendar.coverageEnd)
    (valueError "requested rebalance range is outside calendar coverage")
  requireCompleteCalendarPeriodCoverage calendar policy.cadence
  return ((selectedSessions calendar policy).filter fun item =>
    item.2.inRange fromLabel throughLabel).map fun item =>
      occurrence sha256 calendar policy item.1 item.2

def inInterval (start finish t : Instant) : Bool := decide (start ≤ t ∧ t < finish)

/-- `schedule_rebalances_for_interval`. -/
def scheduleRebalancesForInterval (fromLabel throughLabel : Day)
    (intervalStart intervalEnd : Instant) : Except PyError (List ScheduledRebalance) := do
  ensure (intervalStart < intervalEnd) (valueError "interval_end must be after interval_start")
  let scheduled ← scheduleRebalances sha256 calendar policy fromLabel throughLabel
  return scheduled.filter fun o => inInterval intervalStart intervalEnd o.eventTime

end

/-! ## Selected sessions -/

def CalendarRebalancePolicy.Selects (policy : CalendarRebalancePolicy)
    (calendar : SessionCalendarSnapshot) (s : TradingSession) : Prop :=
  ∀ t ∈ calendar.sessions, policy.period t = policy.period s →
    match policy.selection with
    | .firstSession => s.sessionLabel ≤ t.sessionLabel
    | .lastSession => t.sessionLabel ≤ s.sessionLabel

instance (policy : CalendarRebalancePolicy) (calendar : SessionCalendarSnapshot)
    (s : TradingSession) : Decidable (policy.Selects calendar s) :=
  @List.decidableBAll _ _ (fun t => by
    cases policy.selection <;> exact inferInstanceAs (Decidable (_ → _))) _

section
variable {sha256 : String → Digest} {calendar : SessionCalendarSnapshot}
  {policy : CalendarRebalancePolicy} {s t : TradingSession} {l : List TradingSession}

theorem sessionsByPeriod_eq :
    sessionsByPeriod calendar policy = groupsBy policy.period calendar.sessions := by
  have hfold : ∀ (days : List CalendarDay) (groups : List (String × List TradingSession)),
      days.foldl (fun groups day => match day.session with
        | none => groups
        | some s => addTo groups (calendarPeriodKey day.label policy.cadence) s) groups =
      (daySessions days).foldl (fun groups s => addTo groups (policy.period s) s) groups := by
    intro days
    induction days with
    | nil => exact fun _ => rfl
    | cons day days ih =>
      intro groups
      rw [foldl_cons, ih]
      cases h : day.session with
      | none => rw [daySessions, daySessions, filterMap_cons_none h]
      | some s =>
        rw [daySessions, daySessions, filterMap_cons_some h, foldl_cons]
        unfold CalendarRebalancePolicy.period
        rw [day.label_eq s h]
  exact hfold _ _

theorem head?_eq_some_iff (h : l.Pairwise fun s t => s.sessionLabel < t.sessionLabel) :
    l.head? = some s ↔ s ∈ l ∧ ∀ t ∈ l, s.sessionLabel ≤ t.sessionLabel := by
  cases l with
  | nil => simp
  | cons a l =>
    have hlt := (pairwise_cons.1 h).1
    rw [head?_cons, Option.some.injEq]
    constructor
    · rintro rfl
      exact ⟨mem_cons_self, forall_mem_cons.2 ⟨le_rfl, fun t ht => (hlt t ht).le⟩⟩
    · rintro ⟨hs, hle⟩
      rcases mem_cons.1 hs with rfl | hs
      · rfl
      · exact absurd (hlt s hs) (not_lt.2 (hle a mem_cons_self))

theorem getLast?_eq_some_iff (h : l.Pairwise fun s t => s.sessionLabel < t.sessionLabel) :
    l.getLast? = some s ↔ s ∈ l ∧ ∀ t ∈ l, t.sessionLabel ≤ s.sessionLabel := by
  induction l using List.reverseRecOn with
  | nil => simp
  | append_singleton l a _ =>
    have hlt : ∀ t ∈ l, t.sessionLabel < a.sessionLabel := fun t ht =>
      (pairwise_append.1 h).2.2 t ht a mem_cons_self
    rw [getLast?_concat, Option.some.injEq]
    constructor
    · rintro rfl
      refine ⟨mem_append_right _ mem_cons_self, fun t ht => ?_⟩
      rcases mem_append.1 ht with ht | ht
      · exact (hlt t ht).le
      · rw [mem_singleton.1 ht]
    · rintro ⟨hs, hle⟩
      rcases mem_append.1 hs with hs | hs
      · exact absurd (hlt s hs) (not_lt.2 (hle a (mem_append_right _ mem_cons_self)))
      · exact (mem_singleton.1 hs).symm

theorem selectSession_period {period : String} :
    selectSession policy (calendar.sessions.filter fun t => policy.period t = period) = some s ↔
      s ∈ calendar.sessions ∧ policy.period s = period ∧ policy.Selects calendar s := by
  have hlt := calendar.labels_lt.filter fun t => decide (policy.period t = period)
  have hsorted : selectSession policy (calendar.sessions.filter fun t => policy.period t = period) =
      some s ↔ s ∈ calendar.sessions.filter (fun t => policy.period t = period) ∧
        ∀ t ∈ calendar.sessions.filter (fun t => policy.period t = period),
          match policy.selection with
          | .firstSession => s.sessionLabel ≤ t.sessionLabel
          | .lastSession => t.sessionLabel ≤ s.sessionLabel := by
    unfold selectSession
    by_cases heach : policy.cadence = .eachSession
    · rw [if_pos heach, policy.each_first heach]
      exact head?_eq_some_iff hlt
    · rw [if_neg heach]
      cases policy.selection with
      | firstSession => exact head?_eq_some_iff hlt
      | lastSession => exact getLast?_eq_some_iff hlt
  rw [hsorted]
  unfold CalendarRebalancePolicy.Selects
  simp only [mem_filter, decide_eq_true_eq]
  constructor
  · rintro ⟨⟨hs, rfl⟩, hall⟩
    exact ⟨hs, rfl, fun t ht hperiod => hall t ⟨ht, hperiod⟩⟩
  · rintro ⟨hs, rfl, hall⟩
    exact ⟨⟨hs, rfl⟩, fun t ht => hall t ht.1 ht.2⟩

theorem mem_filterMap_period {item : String × TradingSession} :
    item ∈ (sessionsByPeriod calendar policy).filterMap (fun g =>
        (selectSession policy g.2).map fun s => (g.1, s)) ↔
      item.2 ∈ calendar.sessions ∧ policy.period item.2 = item.1 ∧
        policy.Selects calendar item.2 := by
  rw [sessionsByPeriod_eq, mem_filterMap, ← selectSession_period]
  constructor
  · rintro ⟨g, hg, hitem⟩
    obtain ⟨s, hs, rfl⟩ := Option.map_eq_some_iff.1 hitem
    rwa [(mem_groupsBy.1 hg).1] at hs
  · intro hselect
    refine ⟨(item.1, _), mem_groupsBy.2 ⟨rfl, ?_⟩, Option.map_eq_some_iff.2 ⟨item.2, hselect, rfl⟩⟩
    obtain ⟨hmem, hperiod, -⟩ := selectSession_period.1 hselect
    exact ne_nil_of_mem (mem_filter.2 ⟨hmem, decide_eq_true hperiod⟩)

theorem selectedSessions_eq : selectedSessions calendar policy =
    (calendar.sessions.filter fun s => policy.Selects calendar s).map fun s =>
      (policy.period s, s) := by
  have hlt : ((calendar.sessions.filter fun s => policy.Selects calendar s).map fun s =>
      (policy.period s, s)).Pairwise fun a b => a.2.sessionLabel < b.2.sessionLabel :=
    pairwise_map.2 (calendar.labels_lt.filter _)
  have hkeys : (sessionsByPeriod calendar policy).Pairwise fun g g' => g.1 ≠ g'.1 := by
    rw [sessionsByPeriod_eq]
    exact pairwise_map.1 nodup_groupsBy
  have hnodup : ((sessionsByPeriod calendar policy).filterMap fun g =>
      (selectSession policy g.2).map fun s => (g.1, s)).Nodup := by
    refine pairwise_filterMap.2 (hkeys.imp fun {g g'} hne item hitem item' hitem' heq => ?_)
    obtain ⟨s, -, rfl⟩ := Option.map_eq_some_iff.1 hitem
    obtain ⟨s', -, rfl⟩ := Option.map_eq_some_iff.1 hitem'
    exact hne (Prod.mk.inj heq).1
  have hperm : ((sessionsByPeriod calendar policy).filterMap fun g =>
      (selectSession policy g.2).map fun s => (g.1, s)) ~
        (calendar.sessions.filter fun s => policy.Selects calendar s).map fun s =>
          (policy.period s, s) := by
    refine (perm_ext_iff_of_nodup hnodup (hlt.imp fun {a b} hab heq => ?_)).2 fun item => ?_
    · rw [heq] at hab
      exact lt_irrefl _ hab
    · rw [mem_filterMap_period, mem_map]
      constructor
      · rintro ⟨hmem, hperiod, hselects⟩
        exact ⟨item.2, mem_filter.2 ⟨hmem, decide_eq_true hselects⟩, Prod.ext hperiod rfl⟩
      · rintro ⟨s, hs, rfl⟩
        obtain ⟨hmem, hselects⟩ := mem_filter.1 hs
        exact ⟨hmem, rfl, of_decide_eq_true hselects⟩
  have hinj := inj_on_of_nodup_map (nodup_map_of_pairwise_lt hlt)
  unfold selectedSessions
  rw [← sortBy_eq_of_perm hperm.symm fun a ha b hb hab => hinj ha hb hab, sortBy_of_pairwise hlt]

structure Schedulable (sha256 : String → Digest) (calendar : SessionCalendarSnapshot)
    (policy : CalendarRebalancePolicy) (fromLabel throughLabel : Day) : Prop where
  calendar_id : policy.calendarId = calendar.calendarId
  fingerprint : policy.calendarFingerprint = calendar.fingerprint sha256
  from_le_through : fromLabel ≤ throughLabel
  start_le_from : calendar.coverageStart ≤ fromLabel
  through_le_end : throughLabel ≤ calendar.coverageEnd
  complete : requireCompleteCalendarPeriodCoverage calendar policy.cadence = .ok ()

def scheduledSessions (calendar : SessionCalendarSnapshot) (policy : CalendarRebalancePolicy)
    (fromLabel throughLabel : Day) (intervalStart intervalEnd : Instant) : List TradingSession :=
  calendar.sessions.filter fun s => decide (policy.Selects calendar s) &&
    (s.inRange fromLabel throughLabel &&
      inInterval intervalStart intervalEnd (policy.trigger.boundary s))

variable {fromLabel throughLabel : Day} {intervalStart intervalEnd : Instant}
  {os : List ScheduledRebalance}

theorem scheduleRebalancesForInterval_eq_ok :
    scheduleRebalancesForInterval sha256 calendar policy fromLabel throughLabel intervalStart
        intervalEnd = .ok os ↔
      intervalStart < intervalEnd ∧
      Schedulable sha256 calendar policy fromLabel throughLabel ∧
      os = (scheduledSessions calendar policy fromLabel throughLabel intervalStart
        intervalEnd).map fun s => occurrence sha256 calendar policy (policy.period s) s := by
  have hfilter : ((((selectedSessions calendar policy).filter fun item =>
      item.2.inRange fromLabel throughLabel).map fun item =>
        occurrence sha256 calendar policy item.1 item.2).filter fun o =>
          inInterval intervalStart intervalEnd o.eventTime) =
      (scheduledSessions calendar policy fromLabel throughLabel intervalStart intervalEnd).map
        fun s => occurrence sha256 calendar policy (policy.period s) s := by
    rw [selectedSessions_eq, filter_map, filter_map, filter_map, map_map,
      filter_filter, filter_filter]
    refine congrArg _ (filter_congr fun s _ => ?_)
    simp only [Function.comp_apply, occurrence]
    ac_rfl
  unfold scheduleRebalancesForInterval scheduleRebalances
  simp only [bind_eq_ok, ensure_eq_ok, pure_eq_ok, Except.ok.injEq]
  constructor
  · rintro ⟨-, hlt, xs, ⟨-, hid, -, hfp, -, hle, -, hcover, ⟨⟩, hcomplete, rfl⟩, rfl⟩
    exact ⟨hlt, ⟨hid, hfp, hle, hcover.1, hcover.2, hcomplete⟩, hfilter⟩
  · rintro ⟨hlt, h, rfl⟩
    exact ⟨(), hlt, _, ⟨(), h.calendar_id, (), h.fingerprint, (), h.from_le_through, (),
      ⟨h.start_le_from, h.through_le_end⟩, (), h.complete, rfl⟩, hfilter⟩

/-! ## One session for each period -/

theorem Selects.unique (hs : policy.Selects calendar s) (ht : policy.Selects calendar t)
    (hs' : s ∈ calendar.sessions) (ht' : t ∈ calendar.sessions)
    (h : policy.period s = policy.period t) : s = t := by
  have hlabel : s.sessionLabel = t.sessionLabel := by
    have hst := hs t ht' h.symm
    have hts := ht s hs' h
    cases hselection : policy.selection with
    | firstSession =>
      rw [hselection] at hst hts
      exact le_antisymm hst hts
    | lastSession =>
      rw [hselection] at hst hts
      exact le_antisymm hts hst
  exact inj_on_of_nodup_map (nodup_map_of_pairwise_lt calendar.labels_lt) hs' ht' hlabel

theorem exists_selects (ht : t ∈ calendar.sessions) :
    ∃ s ∈ calendar.sessions, policy.period s = policy.period t ∧ policy.Selects calendar s := by
  have hne : calendar.sessions.filter (fun u => policy.period u = policy.period t) ≠ [] :=
    ne_nil_of_mem (mem_filter.2 ⟨ht, decide_eq_true rfl⟩)
  have hselect : ∃ s, selectSession policy
      (calendar.sessions.filter fun u => policy.period u = policy.period t) = some s := by
    unfold selectSession
    by_cases heach : policy.cadence = .eachSession
    · rw [if_pos heach]
      exact ⟨_, head?_eq_some_head hne⟩
    · rw [if_neg heach]
      cases policy.selection with
      | firstSession => exact ⟨_, head?_eq_some_head hne⟩
      | lastSession => exact ⟨_, getLast?_eq_some_getLast hne⟩
  obtain ⟨s, hs⟩ := hselect
  exact ⟨s, selectSession_period.1 hs⟩

theorem filter_period (h : scheduleRebalancesForInterval sha256 calendar policy fromLabel
      throughLabel intervalStart intervalEnd = .ok os)
    (hs : s ∈ calendar.sessions) (hselects : policy.Selects calendar s) :
    os.filter (fun o => o.cadencePeriod = policy.period s) =
      if s.inRange fromLabel throughLabel &&
          inInterval intervalStart intervalEnd (policy.trigger.boundary s) then
        [occurrence sha256 calendar policy (policy.period s) s]
      else [] := by
  obtain ⟨-, -, rfl⟩ := scheduleRebalancesForInterval_eq_ok.1 h
  have hnodup : calendar.sessions.Nodup := calendar.labels_lt.imp fun {a b} hab heq => by
    rw [heq] at hab
    exact lt_irrefl _ hab
  have hone : calendar.sessions.filter (fun t => decide (t = s)) = [s] := by
    rw [List.filter_eq, count_eq_one_of_mem hnodup hs]
    rfl
  have hfilter : (scheduledSessions calendar policy fromLabel throughLabel intervalStart
      intervalEnd).filter (fun t => policy.period t = policy.period s) =
        [s].filter fun t => t.inRange fromLabel throughLabel &&
          inInterval intervalStart intervalEnd (policy.trigger.boundary t) := by
    unfold scheduledSessions
    rw [← hone, filter_filter, filter_filter]
    refine filter_congr fun t ht => ?_
    have hiff : (policy.period t = policy.period s ∧ policy.Selects calendar t) ↔ t = s := by
      constructor
      · rintro ⟨hperiod, ht'⟩
        exact Selects.unique ht' hselects ht hs hperiod
      · rintro rfl
        exact ⟨rfl, hselects⟩
    rw [← Bool.and_assoc, ← Bool.decide_and, decide_eq_decide.2 hiff, Bool.and_comm]
  rw [filter_map]
  refine (congrArg _ hfilter).trans ?_
  rw [filter_cons, filter_nil]
  split_ifs with hin
  · rfl
  · rfl

/-! ## Ranges of labels -/

theorem scheduledSessions_split {a b b' c : Day} (hab : a ≤ b) (hb' : b'.val = b.val + 1)
    (hbc : b < c) : scheduledSessions calendar policy a c intervalStart intervalEnd =
      scheduledSessions calendar policy a b intervalStart intervalEnd ++
        scheduledSessions calendar policy b' c intervalStart intervalEnd := by
  have hsorted : (scheduledSessions calendar policy a c intervalStart intervalEnd).Pairwise
      fun s t => decide (t.sessionLabel ≤ b) = true → decide (s.sessionLabel ≤ b) = true := by
    refine (calendar.labels_lt.filter _).imp fun {s t} hst ht => ?_
    exact decide_eq_true (hst.le.trans (of_decide_eq_true ht))
  rw [← filter_append_filter_not hsorted]
  unfold scheduledSessions
  rw [filter_filter, filter_filter]
  congr 1
  · refine filter_congr fun s _ => ?_
    have hrange : (decide (s.sessionLabel ≤ b) && s.inRange a c) = s.inRange a b := by
      unfold TradingSession.inRange
      rw [← Bool.decide_and, decide_eq_decide]
      exact ⟨fun h => ⟨h.2.1, h.1⟩, fun h => ⟨h.2, h.1, h.2.trans hbc.le⟩⟩
    rw [← hrange]
    ac_rfl
  · refine filter_congr fun s _ => ?_
    have hrange : ((!decide (s.sessionLabel ≤ b)) && s.inRange a c) = s.inRange b' c := by
      unfold TradingSession.inRange
      rw [← decide_not, ← Bool.decide_and, decide_eq_decide]
      simp only [Fin.le_def, Fin.lt_def] at hab hbc ⊢
      omega
    rw [← hrange]
    ac_rfl

end

/-- **Rebalance schedules.**  Two dates have one period key exactly when their periods have the same
first and last date.  A schedule has exactly one occurrence for each period whose selected session
(the first or the last one of the period) has its label in the range and its boundary in the
interval, and none for any other period.  The schedule of a range is the schedule of its dates up
to any date in it, followed by that of the rest. -/
theorem rebalance_schedule (sha256 : String → Digest) (calendar : SessionCalendarSnapshot)
    (policy : CalendarRebalancePolicy) (intervalStart intervalEnd : Instant) :
    (∀ cadence v v', calendarPeriodKey v cadence = calendarPeriodKey v' cadence ↔
      periodStart v cadence = periodStart v' cadence ∧
        periodEnd v cadence = periodEnd v' cadence) ∧
    (∀ fromLabel throughLabel os, scheduleRebalancesForInterval sha256 calendar policy fromLabel
        throughLabel intervalStart intervalEnd = .ok os →
      (∀ t ∈ calendar.sessions, ∃ s ∈ calendar.sessions, policy.period s = policy.period t ∧
        policy.Selects calendar s ∧ os.filter (fun o => o.cadencePeriod = policy.period t) =
          if s.inRange fromLabel throughLabel &&
              inInterval intervalStart intervalEnd (policy.trigger.boundary s) then
            [occurrence sha256 calendar policy (policy.period s) s]
          else []) ∧
      ∀ o ∈ os, ∃ t ∈ calendar.sessions, o.cadencePeriod = policy.period t) ∧
    ∀ a b b' c : Day, a ≤ b → b'.val = b.val + 1 → b < c → ∀ os,
      scheduleRebalancesForInterval sha256 calendar policy a c intervalStart intervalEnd = .ok os ↔
        ∃ xs ys,
          scheduleRebalancesForInterval sha256 calendar policy a b intervalStart intervalEnd =
            .ok xs ∧
          scheduleRebalancesForInterval sha256 calendar policy b' c intervalStart intervalEnd =
            .ok ys ∧ os = xs ++ ys := by
  refine ⟨fun _ _ _ => calendarPeriodKey_eq_iff_bounds, fun fromLabel throughLabel os h => ⟨?_, ?_⟩,
    ?_⟩
  · intro t ht
    obtain ⟨s, hs, hperiod, hselects⟩ := @exists_selects calendar policy t ht
    exact ⟨s, hs, hperiod, hselects, hperiod ▸ filter_period h hs hselects⟩
  · intro o ho
    obtain ⟨-, -, rfl⟩ := scheduleRebalancesForInterval_eq_ok.1 h
    obtain ⟨s, hs, rfl⟩ := mem_map.1 ho
    exact ⟨s, (mem_filter.1 hs).1, rfl⟩
  · intro a b b' c hab hb' hbc os
    simp only [scheduleRebalancesForInterval_eq_ok]
    rw [scheduledSessions_split hab hb' hbc, map_append]
    have hbb' : b ≤ b' := by
      rw [Fin.le_def]
      omega
    have hb'c : b' ≤ c := by
      rw [Fin.lt_def] at hbc
      rw [Fin.le_def]
      omega
    constructor
    · rintro ⟨hlt, h, rfl⟩
      have hleft : Schedulable sha256 calendar policy a b :=
        ⟨h.calendar_id, h.fingerprint, hab, h.start_le_from, hbc.le.trans h.through_le_end, h.complete⟩
      have hright : Schedulable sha256 calendar policy b' c :=
        ⟨h.calendar_id, h.fingerprint, hb'c, h.start_le_from.trans (hab.trans hbb'),
          h.through_le_end, h.complete⟩
      exact ⟨_, _, ⟨hlt, hleft, rfl⟩, ⟨hlt, hright, rfl⟩, rfl⟩
    · rintro ⟨xs, ys, ⟨hlt, hleft, rfl⟩, ⟨-, hright, rfl⟩, rfl⟩
      exact ⟨hlt, ⟨hleft.calendar_id, hleft.fingerprint, hab.trans hbc.le, hleft.start_le_from,
        hright.through_le_end, hleft.complete⟩, rfl⟩

def weekDay (i : Fin 7) : Day := ⟨738885 + i.val, by unfold maxOrdinal; omega⟩

def sessionOn (id : String) (label date : Day) (h : notBlank id = true := by exact Eq.refl true) :
    TradingSession where
  sessionId := id
  sessionLabel := label
  segments := [{
    openTime := ⟨date.val * 86400000000 + 52200000000, by
      have := date.isLt
      unfold instantLimit
      omega⟩
    closeTime := ⟨date.val * 86400000000 + 75600000000, by
      have := date.isLt
      unfold instantLimit
      omega⟩
    open_lt_close := by
      rw [Fin.lt_def]
      dsimp only
      omega }]
  sessionId_notBlank := h
  nonempty := cons_ne_nil _ _
  disjoint := pairwise_singleton _ _

def closedDay (label : Day) : CalendarDay where
  label := label
  status := .closed
  session := none
  trading := by simp
  label_eq := nofun

def tradingDay (s : TradingSession) : CalendarDay where
  label := s.sessionLabel
  status := .trading
  session := some s
  trading := by simp
  label_eq := by
    rintro t ⟨⟩
    rfl

def weekCalendar : SessionCalendarSnapshot where
  calendarId := "XNYS"
  definitionVersion := "1"
  timezoneName := "America/New_York"
  timezoneDatabaseVersion := "2024a"
  coverageStart := weekDay 0
  coverageEnd := weekDay 6
  days := [closedDay (weekDay 0), tradingDay (sessionOn "tue" (weekDay 1) (weekDay 1)),
    tradingDay (sessionOn "wed" (weekDay 2) (weekDay 2)), closedDay (weekDay 3),
    closedDay (weekDay 4), closedDay (weekDay 5), closedDay (weekDay 6)]
  sourceEvidenceDigest := ⟨"evidence"⟩
  start_le_end := by decide
  covered := by decide
  contiguous := by decide
  unique_ids := by decide
  disjoint := by decide +kernel

def weeklyPolicy : CalendarRebalancePolicy where
  calendarId := "XNYS"
  calendarFingerprint := weekCalendar.fingerprint plainDigest
  cadence := .isoWeekly
  trigger := .sessionOpenBeforeEvents
  each_first := nofun

def weekStart : Instant := ⟨738885 * 86400000000, by decide⟩

def weekEnd : Instant := ⟨738892 * 86400000000, by decide⟩

/-- From Wednesday on, a week with a session has no occurrence. -/
theorem week_without_occurrence :
    scheduleRebalancesForInterval plainDigest weekCalendar weeklyPolicy (weekDay 2) (weekDay 6)
      weekStart weekEnd = .ok [] ∧
    ∃ s ∈ weekCalendar.sessions, s.inRange (weekDay 2) (weekDay 6) = true ∧
      inInterval weekStart weekEnd (weeklyPolicy.trigger.boundary s) = true := by
  constructor
  · refine scheduleRebalancesForInterval_eq_ok.2 ⟨by decide, ⟨rfl, rfl, by decide, by decide,
      by decide, by decide⟩, ?_⟩
    have hnone : scheduledSessions weekCalendar weeklyPolicy (weekDay 2) (weekDay 6) weekStart
        weekEnd = [] := by decide +kernel
    rw [hnone]
    rfl
  · exact ⟨sessionOn "wed" (weekDay 2) (weekDay 2), by decide, by decide, by decide⟩

theorem weekly_schedulable :
    Schedulable plainDigest weekCalendar weeklyPolicy (weekDay 1) (weekDay 6) :=
  ⟨rfl, rfl, by decide, by decide, by decide, by decide⟩

theorem rebalance_schedule_week :
    ∃ os xs ys, scheduleRebalancesForInterval plainDigest weekCalendar weeklyPolicy (weekDay 1)
        (weekDay 6) weekStart weekEnd = .ok os ∧
      scheduleRebalancesForInterval plainDigest weekCalendar weeklyPolicy (weekDay 1) (weekDay 1)
        weekStart weekEnd = .ok xs ∧
      scheduleRebalancesForInterval plainDigest weekCalendar weeklyPolicy (weekDay 2) (weekDay 6)
        weekStart weekEnd = .ok ys ∧ os = xs ++ ys ∧
      ∃ s ∈ weekCalendar.sessions, weeklyPolicy.Selects weekCalendar s ∧
        os.filter (fun o => o.cadencePeriod =
            weeklyPolicy.period (sessionOn "wed" (weekDay 2) (weekDay 2))) =
          if s.inRange (weekDay 1) (weekDay 6) &&
              inInterval weekStart weekEnd (weeklyPolicy.trigger.boundary s) then
            [occurrence plainDigest weekCalendar weeklyPolicy (weeklyPolicy.period s) s]
          else [] := by
  obtain ⟨-, hperiods, hsplit⟩ :=
    rebalance_schedule plainDigest weekCalendar weeklyPolicy weekStart weekEnd
  obtain ⟨os, hos⟩ : ∃ os, scheduleRebalancesForInterval plainDigest weekCalendar weeklyPolicy
      (weekDay 1) (weekDay 6) weekStart weekEnd = .ok os :=
    ⟨_, scheduleRebalancesForInterval_eq_ok.2 ⟨by decide, weekly_schedulable, rfl⟩⟩
  obtain ⟨xs, ys, hxs, hys, heq⟩ :=
    (hsplit (weekDay 1) (weekDay 1) (weekDay 2) (weekDay 6) le_rfl rfl (by decide) os).1 hos
  obtain ⟨s, hs, -, hselects, hfilter⟩ := (hperiods _ _ _ hos).1
    (sessionOn "wed" (weekDay 2) (weekDay 2)) (by decide)
  exact ⟨os, xs, ys, hos, hxs, hys, heq, s, hs, hselects, hfilter⟩

end ChartingPlatform
