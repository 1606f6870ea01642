/-
  Rebalance execution plans (`rebalance.py`): a schedule is frozen if its occurrences are
  in the order of their times.
-/
import ChartingPlatform.Forward.Fingerprints
import ChartingPlatform.Rebalance.Schedule

namespace ChartingPlatform

open Lib List

/-- `RebalanceExecutionPlan`. -/
structure RebalanceExecutionPlan where
  policyFingerprint : Digest
  calendarFingerprint : Digest
  occurrences : List ScheduledRebalance
  same_sources : ∀ o ∈ occurrences, o.policyFingerprint = policyFingerprint ∧
    o.calendarFingerprint = calendarFingerprint
  sorted : sortBy ScheduledRebalance.eventTime occurrences = occurrences
  unique_ids : (occurrences.map ScheduledRebalance.occurrenceId).Nodup
  unique_times : (occurrences.map ScheduledRebalance.eventTime).Nodup

/-- `RebalanceExecutionPlan.__post_init__`. -/
def makeRebalanceExecutionPlan (policyFingerprint calendarFingerprint : Digest)
    (occurrences : List ScheduledRebalance) : Except PyError RebalanceExecutionPlan :=
  if hsources : ∀ o ∈ occurrences, o.policyFingerprint = policyFingerprint ∧
      o.calendarFingerprint = calendarFingerprint then
    if hsorted : sortBy ScheduledRebalance.eventTime occurrences = occurrences then
      if hids : (occurrences.map ScheduledRebalance.occurrenceId).Nodup then
        if htimes : (occurrences.map ScheduledRebalance.eventTime).Nodup then
          .ok ⟨policyFingerprint, calendarFingerprint, occurrences, hsources, hsorted, hids, htimes⟩
        else .error (valueError "rebalance occurrences must not share an event boundary")
      else .error (valueError "rebalance occurrence ids must be unique")
    else .error (valueError "rebalance occurrences must be ordered by event time")
  else .error (valueError "rebalance occurrences differ from their frozen plan identity")

/-- `compile_rebalance_execution_plan`. -/
def compileRebalanceExecutionPlan (sha256 : String → Digest) (calendar : SessionCalendarSnapshot)
    (policy : CalendarRebalancePolicy) (fromLabel throughLabel : Day)
    (intervalStart intervalEnd : Instant) : Except PyError RebalanceExecutionPlan := do
  let occurrences ← scheduleRebalancesForInterval sha256 calendar policy fromLabel throughLabel
    intervalStart intervalEnd
  makeRebalanceExecutionPlan (policy.fingerprint sha256) (calendar.fingerprint sha256) occurrences

/-- Of the selected sessions of a range and an interval, the one with the later label has no
earlier boundary. -/
def BoundariesInOrder (calendar : SessionCalendarSnapshot) (policy : CalendarRebalancePolicy)
    (fromLabel throughLabel : Day) (intervalStart intervalEnd : Instant) : Prop :=
  ∀ s ∈ calendar.sessions, ∀ t ∈ calendar.sessions,
    policy.Selects calendar s → policy.Selects calendar t →
    s.inRange fromLabel throughLabel = true → t.inRange fromLabel throughLabel = true →
    inInterval intervalStart intervalEnd (policy.trigger.boundary s) = true →
    inInterval intervalStart intervalEnd (policy.trigger.boundary t) = true →
    s.sessionLabel < t.sessionLabel → policy.trigger.boundary s ≤ policy.trigger.boundary t

section
variable {sha256 : String → Digest} {calendar : SessionCalendarSnapshot}
  {policy : CalendarRebalancePolicy} {s t : TradingSession} {fromLabel throughLabel : Day}
  {intervalStart intervalEnd : Instant} {os : List ScheduledRebalance}

theorem boundaries_ne (calendar : SessionCalendarSnapshot) (trigger : RebalanceTrigger) :
    calendar.sessions.Pairwise fun s t => trigger.boundary s ≠ trigger.boundary t := by
  refine calendar.segments_ne.imp fun {s t} hst => ?_
  cases trigger with
  | sessionOpenBeforeEvents =>
    exact (hst _ (head_mem s.nonempty) _ (head_mem t.nonempty)).1
  | sessionCloseAfterEvents =>
    exact (hst _ (getLast_mem s.nonempty) _ (getLast_mem t.nonempty)).2

theorem accepted_occurrenceIdentity {period : String} :
    Accepted (occurrenceIdentity sha256 calendar policy period s) := by
  have hdate : ∀ d, Accepted (.date d) := fun d => ⟨_, rfl⟩
  unfold occurrenceIdentity
  refine accepted_mapping fun i hi => ?_
  simp only [mem_cons, not_mem_nil, or_false] at hi
  rcases hi with rfl | rfl | rfl | rfl | rfl | rfl | rfl
  · exact ⟨nofun, accepted_str _⟩
  · exact ⟨nofun, accepted_str _⟩
  · exact ⟨nofun, accepted_str _⟩
  · exact ⟨nofun, hdate _⟩
  · exact ⟨nofun, accepted_utc _⟩
  · exact ⟨nofun, accepted_enum _ (accepted_str _)⟩
  · exact ⟨nofun, accepted_str _⟩

theorem sessionId_eq_of_id_eq (hsha : Function.Injective sha256) {period period' : String}
    (h : (occurrence sha256 calendar policy period s).occurrenceId =
      (occurrence sha256 calendar policy period' t).occurrenceId) : s.sessionId = t.sessionId := by
  simp only [occurrence] at h
  have hsame := same_of_digest hsha accepted_occurrenceIdentity accepted_occurrenceIdentity h
  unfold occurrenceIdentity at hsame
  cases hsame with
  | mapping hentries hperm =>
    -- the third entry is the session's id, whatever the order of the keys
    obtain _ | ⟨-, hentries⟩ := hentries
    obtain _ | ⟨-, hentries⟩ := hentries
    obtain _ | ⟨hid, -⟩ := hentries
    cases hid
    have hmem := hperm.mem_iff.1
      (mem_cons_of_mem _ (mem_cons_of_mem _ mem_cons_self))
    simpa using hmem

theorem nodup_schedule (hsha : Function.Injective sha256)
    (h : scheduleRebalancesForInterval sha256 calendar policy fromLabel throughLabel intervalStart
      intervalEnd = .ok os) :
    (os.map ScheduledRebalance.occurrenceId).Nodup ∧
      (os.map ScheduledRebalance.eventTime).Nodup := by
  obtain ⟨-, -, rfl⟩ := scheduleRebalancesForInterval_eq_ok.1 h
  have hids : (scheduledSessions calendar policy fromLabel throughLabel intervalStart
      intervalEnd).Pairwise fun s t => s.sessionId ≠ t.sessionId :=
    (pairwise_map.1 calendar.unique_ids).filter _
  have htimes : (scheduledSessions calendar policy fromLabel throughLabel intervalStart
      intervalEnd).Pairwise fun s t => policy.trigger.boundary s ≠ policy.trigger.boundary t :=
    (boundaries_ne calendar policy.trigger).filter _
  rw [map_map, map_map, List.Nodup, List.Nodup, pairwise_map, pairwise_map]
  constructor
  · refine hids.imp fun {s t} hne heq => ?_
    rw [Function.comp_apply, Function.comp_apply] at heq
    exact hne (sessionId_eq_of_id_eq hsha heq)
  · refine htimes.imp fun {s t} hne => ?_
    simpa only [Function.comp_apply, occurrence] using hne

theorem pairwise_times_iff
    (h : scheduleRebalancesForInterval sha256 calendar policy fromLabel throughLabel intervalStart
      intervalEnd = .ok os) :
    os.Pairwise (fun a b => a.eventTime ≤ b.eventTime) ↔
      BoundariesInOrder calendar policy fromLabel throughLabel intervalStart intervalEnd := by
  obtain ⟨-, -, rfl⟩ := scheduleRebalancesForInterval_eq_ok.1 h
  rw [pairwise_map]
  have hlabels : (scheduledSessions calendar policy fromLabel throughLabel intervalStart
      intervalEnd).Pairwise fun s t => s.sessionLabel < t.sessionLabel :=
    calendar.labels_lt.filter _
  have hmem : ∀ s, s ∈ scheduledSessions calendar policy fromLabel throughLabel intervalStart
      intervalEnd ↔ s ∈ calendar.sessions ∧ policy.Selects calendar s ∧
        s.inRange fromLabel throughLabel = true ∧
        inInterval intervalStart intervalEnd (policy.trigger.boundary s) = true := by
    intro s
    unfold scheduledSessions
    rw [mem_filter, Bool.and_eq_true, Bool.and_eq_true, decide_eq_true_eq]
  constructor
  · intro hpairwise s hs t ht hs' ht' hsrange htrange hsin htin hlt
    obtain ⟨i, hi, rfl⟩ := getElem_of_mem ((hmem s).2 ⟨hs, hs', hsrange, hsin⟩)
    obtain ⟨j, hj, rfl⟩ := getElem_of_mem ((hmem t).2 ⟨ht, ht', htrange, htin⟩)
    rcases lt_trichotomy i j with hij | rfl | hij
    · exact pairwise_iff_getElem.1 hpairwise i j hi hj hij
    · exact le_rfl
    · exact absurd (pairwise_iff_getElem.1 hlabels j i hj hi hij) hlt.not_gt
  · intro horder
    refine hlabels.imp_of_mem fun {s t} hs ht hlt => ?_
    obtain ⟨hs, hs', hsrange, hsin⟩ := (hmem s).1 hs
    obtain ⟨ht, ht', htrange, htin⟩ := (hmem t).1 ht
    exact horder s hs t ht hs' ht' hsrange htrange hsin htin hlt

theorem makeRebalanceExecutionPlan_of {policyFingerprint calendarFingerprint : Digest}
    (hsources : ∀ o ∈ os, o.policyFingerprint = policyFingerprint ∧
      o.calendarFingerprint = calendarFingerprint)
    (hids : (os.map ScheduledRebalance.occurrenceId).Nodup)
    (htimes : (os.map ScheduledRebalance.eventTime).Nodup) :
    (∃ plan, makeRebalanceExecutionPlan policyFingerprint calendarFingerprint os = .ok plan) ↔
      os.Pairwise fun a b => a.eventTime ≤ b.eventTime := by
  unfold makeRebalanceExecutionPlan
  rw [dif_pos hsources]
  constructor
  · rintro ⟨plan, hplan⟩
    split_ifs at hplan with hsorted
    exact hsorted ▸ pairwise_sortBy ScheduledRebalance.eventTime os
  · intro hpairwise
    have hsorted : sortBy ScheduledRebalance.eventTime os = os :=
      List.Pairwise.insertionSort_eq hpairwise
    exact ⟨_, by rw [dif_pos hsorted, dif_pos hids, dif_pos htimes]⟩

theorem exists_plan_iff (hsha : Function.Injective sha256)
    (h : scheduleRebalancesForInterval sha256 calendar policy fromLabel throughLabel intervalStart
      intervalEnd = .ok os) :
    (∃ plan, compileRebalanceExecutionPlan sha256 calendar policy fromLabel throughLabel
        intervalStart intervalEnd = .ok plan) ↔
      BoundariesInOrder calendar policy fromLabel throughLabel intervalStart intervalEnd := by
  obtain ⟨hids, htimes⟩ := nodup_schedule hsha h
  have hsources : ∀ o ∈ os, o.policyFingerprint = policy.fingerprint sha256 ∧
      o.calendarFingerprint = calendar.fingerprint sha256 := by
    obtain ⟨-, -, rfl⟩ := scheduleRebalancesForInterval_eq_ok.1 h
    intro o ho
    obtain ⟨s, -, rfl⟩ := mem_map.1 ho
    simp only [occurrence, and_self]
  unfold compileRebalanceExecutionPlan
  rw [h, ok_bind, makeRebalanceExecutionPlan_of hsources hids htimes, pairwise_times_iff h]

theorem makeSessionCalendarSnapshot_self (c : SessionCalendarSnapshot)
    (hid : notBlank c.calendarId = true) (hversion : notBlank c.definitionVersion = true)
    (hname : notBlank c.timezoneName = true)
    (hdatabase : notBlank c.timezoneDatabaseVersion = true) :
    makeSessionCalendarSnapshot c.calendarId c.definitionVersion c.timezoneName
      c.timezoneDatabaseVersion c.coverageStart c.coverageEnd c.days c.sourceEvidenceDigest =
        .ok c := by
  have hsorted : sortBy CalendarDay.label c.days = c.days :=
    sortBy_of_pairwise (checkLabels_eq_ok c.contiguous).2
  unfold makeSessionCalendarSnapshot
  rw [ensure_of hid, ok_bind, ensure_of hversion, ok_bind, ensure_of hname, ok_bind,
    ensure_of hdatabase, ok_bind, dif_pos c.start_le_end]
  simp only [hsorted]
  rw [dif_pos c.covered]
  split
  · rename_i e he
    rw [hsorted, c.contiguous] at he
    cases he
  · rw [dif_pos c.unique_ids, dif_pos (isChain_iff_pairwise.2 c.disjoint)]

end

/-- **Execution plans.**  Where there is a schedule, there is an execution plan exactly when the
boundaries of the selected sessions are in the order of their labels. -/
theorem rebalance_plan (sha256 : String → Digest) (hsha : Function.Injective sha256)
    (calendar : SessionCalendarSnapshot) (policy : CalendarRebalancePolicy)
    (fromLabel throughLabel : Day) (intervalStart intervalEnd : Instant)
    (os : List ScheduledRebalance)
    (h : scheduleRebalancesForInterval sha256 calendar policy fromLabel throughLabel intervalStart
      intervalEnd = .ok os) :
    (∃ plan, compileRebalanceExecutionPlan sha256 calendar policy fromLabel throughLabel
        intervalStart intervalEnd = .ok plan) ↔
      BoundariesInOrder calendar policy fromLabel throughLabel intervalStart intervalEnd :=
  exists_plan_iff hsha h

def sessionPolicy (calendar : SessionCalendarSnapshot) : CalendarRebalancePolicy where
  calendarId := "XNYS"
  calendarFingerprint := calendar.fingerprint plainDigest
  cadence := .eachSession
  trigger := .sessionOpenBeforeEvents
  each_first := fun _ => rfl

/-- Two sessions of a week, each with its occurrence. -/
theorem rebalance_plan_week :
    ∃ os, scheduleRebalancesForInterval plainDigest weekCalendar (sessionPolicy weekCalendar)
        (weekDay 1) (weekDay 6) weekStart weekEnd = .ok os ∧ os.length = 2 ∧
      ((∃ plan, compileRebalanceExecutionPlan plainDigest weekCalendar (sessionPolicy weekCalendar)
          (weekDay 1) (weekDay 6) weekStart weekEnd = .ok plan) ↔
        BoundariesInOrder weekCalendar (sessionPolicy weekCalendar) (weekDay 1) (weekDay 6)
          weekStart weekEnd) := by
  have hschedulable : Schedulable plainDigest weekCalendar (sessionPolicy weekCalendar) (weekDay 1)
      (weekDay 6) := ⟨rfl, rfl, by decide, by decide, by decide, rfl⟩
  have hschedule := scheduleRebalancesForInterval_eq_ok.2
    ⟨(by decide : weekStart < weekEnd), hschedulable, rfl⟩
  refine ⟨_, hschedule, ?_, rebalance_plan plainDigest plainDigest_injective _ _ _ _ _ _ _ hschedule⟩
  rw [length_map]
  decide +kernel

/-- A calendar whose Tuesday trades on Wednesday, and whose Wednesday trades on Tuesday. -/
def swappedCalendar : SessionCalendarSnapshot where
  calendarId := "XNYS"
  definitionVersion := "1"
  timezoneName := "America/New_York"
  timezoneDatabaseVersion := "2024a"
  coverageStart := weekDay 1
  coverageEnd := weekDay 2
  days := [tradingDay (sessionOn "tue" (weekDay 1) (weekDay 2)),
    tradingDay (sessionOn "wed" (weekDay 2) (weekDay 1))]
  sourceEvidenceDigest := ⟨"evidence"⟩
  start_le_end := by decide
  covered := by decide
  contiguous := by decide
  unique_ids := by decide
  disjoint := by decide +kernel

/-- A calendar that passes its checks, with a schedule and no plan. -/
theorem swapped_sessions_have_no_plan :
    makeSessionCalendarSnapshot "XNYS" "1" "America/New_York" "2024a" (weekDay 1) (weekDay 2)
      swappedCalendar.days ⟨"evidence"⟩ = .ok swappedCalendar ∧
    (∃ os, scheduleRebalancesForInterval plainDigest swappedCalendar
      (sessionPolicy swappedCalendar) (weekDay 1) (weekDay 2) weekStart weekEnd = .ok os) ∧
    ¬ ∃ plan, compileRebalanceExecutionPlan plainDigest swappedCalendar
      (sessionPolicy swappedCalendar) (weekDay 1) (weekDay 2) weekStart weekEnd = .ok plan := by
  have hschedulable : Schedulable plainDigest swappedCalendar (sessionPolicy swappedCalendar)
      (weekDay 1) (weekDay 2) := ⟨rfl, rfl, by decide, by decide, by decide, rfl⟩
  have hschedule := scheduleRebalancesForInterval_eq_ok.2
    ⟨(by decide : weekStart < weekEnd), hschedulable, rfl⟩
  have hmake := makeSessionCalendarSnapshot_self swappedCalendar (by decide) (by decide)
    (by decide) (by decide)
  refine ⟨hmake, ⟨_, hschedule⟩, ?_⟩
  intro hplan
  have horder := (exists_plan_iff plainDigest_injective hschedule).1 hplan
  have hle := horder (sessionOn "tue" (weekDay 1) (weekDay 2)) (by decide)
    (sessionOn "wed" (weekDay 2) (weekDay 1)) (by decide) (by decide +kernel) (by decide +kernel)
    (by decide) (by decide) (by decide) (by decide) (by decide)
  exact absurd hle (by decide)

end ChartingPlatform
