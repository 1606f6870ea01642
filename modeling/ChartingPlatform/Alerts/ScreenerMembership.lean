/-
  What follows a screener run (`process_screener_post_run`): the alerts of the screener and its
  managed watchlists.

  Alerts and watchlists do not touch each other, so the model has one of each; errors are logged
  and swallowed, and the messages sent to the user are left out.
-/
import ChartingPlatform.Alerts.CrossingAlerts
import ChartingPlatform.Lib.Gregorian
import ChartingPlatform.Lib.Sorting
import ChartingPlatform.Lib.Table

namespace ChartingPlatform

open Lib List

/-! ## Results, alerts and watchlists -/

/-- `ScreenerResult`. -/
structure ScreenerResult where
  id : ℕ
  runAt : Instant
  matchedIds : List ℕ
  deriving DecidableEq

/-- The values of `trigger_type`. -/
inductive TriggerType where
  | entered | left | both

/-- The values of `event_kind`. -/
inductive FiringKind where
  | entered | left
  deriving DecidableEq

/-- `alert.trigger_type in (event_kind, "both")`. -/
def TriggerType.fires : TriggerType → FiringKind → Bool
  | .both, _ | .entered, .entered | .left, .left => true
  | _, _ => false

/-- `ScreenerAlert`. -/
structure ScreenerAlert where
  triggerType : TriggerType
  repeats : Bool
  status : AlertStatus
  lastCheckedRunId : Option ℕ
  triggeredAt : Option Instant

/-- `AlertFiringEvent` of a screener alert. -/
structure MembershipEvent where
  kind : FiringKind
  instrumentId : ℕ
  firedAt : Instant
  runId : ℕ

/-- `WatchlistItem`. -/
structure WatchlistItem where
  instrumentId : ℕ
  addedAt : Instant
  leftScreenerAt : Option Instant

/-! ## Handling a result -/

def ScreenerResult.matched (r : ScreenerResult) : Finset ℕ := r.matchedIds.toFinset

/-- `prev_ids`. -/
def previousIds (results : List ScreenerResult) : Option ℕ → Finset ℕ
  | none => ∅
  | some runId => ((rowWith (·.id) runId results).map ScreenerResult.matched).getD ∅

/-- The events of one kind. -/
def membershipEvents (result : ScreenerResult) (kind : FiringKind) (ids : Finset ℕ) :
    List MembershipEvent :=
  (sortedList ids).map fun instrumentId => ⟨kind, instrumentId, result.runAt, result.id⟩

/-- `_process_screener_alerts` for an alert. -/
def processScreenerAlert (results : List ScreenerResult) (alert : ScreenerAlert)
    (result : ScreenerResult) : ScreenerAlert × List MembershipEvent :=
  if alert.status = .active then
    let prevIds := previousIds results alert.lastCheckedRunId
    let entered := if alert.triggerType.fires .entered then result.matched \ prevIds else ∅
    let left := if alert.triggerType.fires .left then prevIds \ result.matched else ∅
    if entered.Nonempty ∨ left.Nonempty then
      ({ alert with
          lastCheckedRunId := some result.id
          triggeredAt := some result.runAt
          status := statusFired alert.repeats },
        membershipEvents result .entered entered ++ membershipEvents result .left left)
    else ({ alert with lastCheckedRunId := some result.id }, [])
  else (alert, [])

/-- `GRACE_PERIOD_DAYS`, in microseconds. -/
def gracePeriod : ℕ := 7 * 86400 * 10 ^ 6

/-- What becomes of an item: an item that is back loses its mark, one that has left is marked, and
one that was marked longer ago than the grace period is deleted. -/
def syncItem (result : ScreenerResult) (item : WatchlistItem) : Option WatchlistItem :=
  if item.instrumentId ∈ result.matched then some { item with leftScreenerAt := none }
  else match item.leftScreenerAt with
    | none => some { item with leftScreenerAt := some result.runAt }
    | some leftAt =>
      if leftAt.val + gracePeriod < result.runAt.val then none else some item

/-- `_sync_managed_watchlists` for a watchlist. -/
def syncManagedWatchlist (items : List WatchlistItem) (result : ScreenerResult) :
    List WatchlistItem :=
  items.filterMap (syncItem result) ++
    (sortedList (result.matched \ (items.map (·.instrumentId)).toFinset)).map fun instrumentId =>
      ⟨instrumentId, result.runAt, none⟩

/-- An alert with its events, and the items of a watchlist. -/
structure PostRun where
  alert : ScreenerAlert
  events : List MembershipEvent
  items : List WatchlistItem

/-- `process_screener_post_run`. -/
def processScreenerPostRun (results : List ScreenerResult) (s : PostRun)
    (result : ScreenerResult) : PostRun where
  alert := (processScreenerAlert results s.alert result).1
  events := s.events ++ (processScreenerAlert results s.alert result).2
  items := syncManagedWatchlist s.items result

/-! ## Membership -/

/-- A new repeating alert on both entering and leaving, and a new watchlist. -/
def newPostRun : PostRun where
  alert := ⟨.both, true, .active, none, none⟩
  events := []
  items := []

/-- The results of a screener, and some of them in the order in which they are handled. -/
structure ScreenerHistory where
  results : List ScreenerResult
  handled : List ScreenerResult
  nodup_ids : (results.map (·.id)).Nodup
  handled_subset : ∀ r ∈ handled, r ∈ results

def postRunAfter (results handled : List ScreenerResult) : PostRun :=
  handled.foldl (processScreenerPostRun results) newPostRun

/-- The result with the latest `run_at`; of several ones that handled last. -/
def latestResult (handled : List ScreenerResult) : Option ScreenerResult :=
  handled.foldl (fun latest r =>
    if latest.any (fun l => decide (r.runAt < l.runAt)) then latest else some r) none

/-- The matches of the result that was handled last. -/
def lastMatched (handled : List ScreenerResult) : Finset ℕ :=
  (handled.getLast?.map ScreenerResult.matched).getD ∅

/-- The kinds of the events of an instrument, in order. -/
def kindsOf (instrumentId : ℕ) (events : List MembershipEvent) : List FiringKind :=
  (events.filter (·.instrumentId = instrumentId)).map (·.kind)

/-- Entered, left, entered, and so on. -/
def alternating (n : ℕ) : List FiringKind :=
  (List.range n).map fun k => if k % 2 = 0 then .entered else .left

/-- Whether a result lacks an instrument that none after it has, by `run_at`. -/
def InAbsence (handled : List ScreenerResult) (instrumentId : ℕ) (r : ScreenerResult) : Prop :=
  r ∈ handled ∧ instrumentId ∉ r.matched ∧
    ∀ q ∈ handled, r.runAt < q.runAt → instrumentId ∉ q.matched

/-- After each step the items without a mark are the matches of the latest result, an item is
removed only after an absence longer than the grace period, and the events of an instrument
alternate and end with its membership in the latest result. -/
structure TracksMembership (h : ScreenerHistory) : Prop where
  unmarked : ∀ soFar, soFar <+: h.handled → ∀ latest, latestResult soFar = some latest → ∀ i,
    (∃ item ∈ (postRunAfter h.results soFar).items,
      item.instrumentId = i ∧ item.leftScreenerAt = none) ↔ i ∈ latest.matched
  removed : ∀ soFar r, soFar ++ [r] <+: h.handled →
    ∀ item ∈ (postRunAfter h.results soFar).items,
      (∀ kept ∈ (postRunAfter h.results (soFar ++ [r])).items,
        kept.instrumentId ≠ item.instrumentId) →
      item.instrumentId ∉ r.matched ∧
        ∃ a, InAbsence (soFar ++ [r]) item.instrumentId a ∧ a.runAt.val + gracePeriod < r.runAt.val
  alternates : ∀ soFar, soFar <+: h.handled → ∀ i,
    ∃ n, kindsOf i (postRunAfter h.results soFar).events = alternating n
  last : ∀ soFar, soFar <+: h.handled → ∀ latest, latestResult soFar = some latest → ∀ i,
    (kindsOf i (postRunAfter h.results soFar).events).getLast? = some .entered ↔ i ∈ latest.matched

section
variable {results handled soFar : List ScreenerResult} {r latest : ScreenerResult} {i n : ℕ}
  {items : List WatchlistItem} {item : WatchlistItem} {alert : ScreenerAlert}

/-! ## The latest result -/

theorem latestResult_append_singleton :
    latestResult (handled ++ [r]) =
      if (latestResult handled).any (fun l => decide (r.runAt < l.runAt)) then latestResult handled
      else some r := by
  unfold latestResult
  rw [foldl_append]
  rfl

theorem latestResult_eq_none : latestResult handled = none ↔ handled = [] := by
  cases handled using List.reverseRecOn with
  | nil => exact iff_of_true rfl rfl
  | append_singleton handled r =>
    refine iff_of_false ?_ (by simp)
    rw [latestResult_append_singleton]
    cases latestResult handled with
    | none => simp
    | some l => split_ifs <;> simp

theorem latestResult_le (h : latestResult handled = some latest) :
    ∀ q ∈ handled, q.runAt ≤ latest.runAt := by
  induction handled using List.reverseRecOn generalizing latest with
  | nil => cases h
  | append_singleton handled r ih =>
    rw [latestResult_append_singleton] at h
    intro q hq
    rcases mem_append.1 hq with hq | hq
    · obtain ⟨l, hl⟩ := Option.ne_none_iff_exists'.1
        (latestResult_eq_none.not.2 (ne_nil_of_mem hq))
      rw [hl, Option.any_some] at h
      split_ifs at h with hlater
      · exact Option.some.inj h ▸ ih hl q hq
      · rw [decide_eq_true_eq, not_lt] at hlater
        exact Option.some.inj h ▸ (ih hl q hq).trans hlater
    · obtain rfl := mem_singleton.1 hq
      split_ifs at h with hlater
      · rw [h, Option.any_some, decide_eq_true_eq] at hlater
        exact hlater.le
      · exact (Option.some.inj h ▸ le_rfl)

/-! ## Watchlists -/

theorem syncItem_id {kept : WatchlistItem} (h : syncItem r item = some kept) :
    kept.instrumentId = item.instrumentId := by
  unfold syncItem at h
  split_ifs at h with hmatched
  · exact (Option.some.inj h) ▸ rfl
  · split at h
    · exact (Option.some.inj h) ▸ rfl
    · split_ifs at h
      exact (Option.some.inj h) ▸ rfl

/-- **The items without a mark** are the matches of the result. -/
theorem unmarked_sync :
    (∃ item ∈ syncManagedWatchlist items r,
      item.instrumentId = i ∧ item.leftScreenerAt = none) ↔ i ∈ r.matched := by
  unfold syncManagedWatchlist
  constructor
  · rintro ⟨item, hitem, rfl, hleft⟩
    rcases mem_append.1 hitem with hkept | hnew
    · obtain ⟨old, -, hold⟩ := mem_filterMap.1 hkept
      rw [syncItem_id hold]
      unfold syncItem at hold
      by_contra hnot
      rw [if_neg hnot] at hold
      split at hold
      · rw [← Option.some.inj hold] at hleft
        cases hleft
      · next leftAt hmark =>
        split_ifs at hold
        rw [← Option.some.inj hold, hmark] at hleft
        cases hleft
    · obtain ⟨j, hj, rfl⟩ := mem_map.1 hnew
      exact (Finset.mem_sdiff.1 (mem_sortedList.1 hj)).1
  · intro hi
    by_cases hold : i ∈ (items.map (·.instrumentId)).toFinset
    · obtain ⟨item, hitem, rfl⟩ := mem_map.1 (mem_toFinset.1 hold)
      refine ⟨{ item with leftScreenerAt := none }, mem_append_left _ ?_, rfl, rfl⟩
      exact mem_filterMap.2 ⟨item, hitem, if_pos hi⟩
    · refine ⟨⟨i, r.runAt, none⟩, mem_append_right _ (mem_map.2 ⟨i, ?_, rfl⟩), rfl, rfl⟩
      exact mem_sortedList.2 (Finset.mem_sdiff.2 ⟨hi, hold⟩)

/-- An item that is not kept has been absent longer than the grace period since it was marked. -/
theorem removed_sync (hitem : item ∈ items)
    (hgone : ∀ kept ∈ syncManagedWatchlist items r, kept.instrumentId ≠ item.instrumentId) :
    item.instrumentId ∉ r.matched ∧ ∃ leftAt, item.leftScreenerAt = some leftAt ∧
      leftAt.val + gracePeriod < r.runAt.val := by
  have hnone : syncItem r item = none := by
    cases hkept : syncItem r item with
    | none => rfl
    | some kept =>
      exact absurd (syncItem_id hkept) (hgone kept
        (mem_append_left _ (mem_filterMap.2 ⟨item, hitem, hkept⟩)))
  unfold syncItem at hnone
  split_ifs at hnone with hmatched
  refine ⟨hmatched, ?_⟩
  split at hnone
  · cases hnone
  · next leftAt hmark =>
    split_ifs at hnone with hlong
    exact ⟨leftAt, hmark, hlong⟩

/-- A marked item lacks in the result, and has its mark from it or from before. -/
theorem marked_sync {leftAt : Instant} (hitem : item ∈ syncManagedWatchlist items r)
    (hmark : item.leftScreenerAt = some leftAt) :
    item.instrumentId ∉ r.matched ∧ ∃ old ∈ items, old.instrumentId = item.instrumentId ∧
      (old.leftScreenerAt = none ∧ leftAt = r.runAt ∨ old.leftScreenerAt = some leftAt) := by
  rcases mem_append.1 hitem with hkept | hnew
  · obtain ⟨old, hold, hsync⟩ := mem_filterMap.1 hkept
    rw [syncItem_id hsync]
    unfold syncItem at hsync
    split_ifs at hsync with hmatched
    · rw [← Option.some.inj hsync] at hmark
      cases hmark
    · refine ⟨hmatched, old, hold, rfl, ?_⟩
      split at hsync
      · next hnone =>
        rw [← Option.some.inj hsync] at hmark
        exact .inl ⟨hnone, (Option.some.inj hmark).symm⟩
      · split_ifs at hsync
        exact .inr (Option.some.inj hsync ▸ hmark)
  · obtain ⟨j, -, rfl⟩ := mem_map.1 hnew
    cases hmark

/-! ## Events -/

theorem alternating_succ :
    alternating (n + 1) = alternating n ++ [if n % 2 = 0 then .entered else .left] := by
  simp [alternating, range_succ]

theorem getLast?_alternating : (alternating n).getLast? = some .entered ↔ n % 2 = 1 := by
  cases n with
  | zero => simp [alternating]
  | succ n =>
    rw [alternating_succ, getLast?_concat]
    split_ifs with hn <;> simp <;> omega

theorem kindsOf_append (events more : List MembershipEvent) :
    kindsOf i (events ++ more) = kindsOf i events ++ kindsOf i more := by
  simp [kindsOf]

theorem kindsOf_membershipEvents {kind : FiringKind} {ids : Finset ℕ} :
    kindsOf i (membershipEvents r kind ids) = if i ∈ ids then [kind] else [] := by
  have hone : (sortedList ids).filter (· = i) = if i ∈ ids then [i] else [] := by
    rw [List.filter_eq]
    split_ifs with hi
    · rw [count_eq_one_of_mem (nodup_sortedList ids) (mem_sortedList.2 hi)]
      rfl
    · rw [count_eq_zero_of_not_mem (mem_sortedList.not.2 hi)]
      rfl
  unfold kindsOf membershipEvents
  rw [filter_map, map_map]
  change ((sortedList ids).filter (· = i)).map _ = _
  rw [hone]
  split_ifs <;> rfl

/-- What an alert on both entering and leaving holds after some results. -/
structure ComparesWithLast (results handled : List ScreenerResult) (s : PostRun) : Prop where
  both : s.alert.triggerType = .both
  repeats : s.alert.repeats = true
  active : s.alert.status = .active
  previous : previousIds results s.alert.lastCheckedRunId = lastMatched handled
  kinds : ∀ i, ∃ n, kindsOf i s.events = alternating n ∧ (n % 2 = 1 ↔ i ∈ lastMatched handled)

theorem previousIds_of_mem (hids : (results.map (·.id)).Nodup) (hr : r ∈ results) :
    previousIds results (some r.id) = r.matched := by
  rw [previousIds, (rowWith_eq_some hids).2 ⟨hr, rfl⟩]
  rfl

/-- **One step of an alert** on both entering and leaving. -/
theorem processScreenerAlert_both (results : List ScreenerResult) (r : ScreenerResult)
    (hboth : alert.triggerType = .both)
    (hrepeat : alert.repeats = true) (hactive : alert.status = .active) :
    (processScreenerAlert results alert r).2 =
        membershipEvents r .entered (r.matched \ previousIds results alert.lastCheckedRunId) ++
          membershipEvents r .left (previousIds results alert.lastCheckedRunId \ r.matched) ∧
      ∃ t, (processScreenerAlert results alert r).1 =
        { alert with lastCheckedRunId := some r.id, triggeredAt := t } := by
  unfold processScreenerAlert
  rw [if_pos hactive, hboth]
  simp only [TriggerType.fires, if_true]
  split_ifs with hfires
  · exact ⟨rfl, some r.runAt, by simp [statusFired, hrepeat, hactive]⟩
  · rw [not_or, Finset.not_nonempty_iff_eq_empty, Finset.not_nonempty_iff_eq_empty] at hfires
    rw [hfires.1, hfires.2]
    exact ⟨rfl, alert.triggeredAt, rfl⟩

theorem compares_step {s : PostRun} (hids : (results.map (·.id)).Nodup) (hr : r ∈ results)
    (hs : ComparesWithLast results handled s) :
    ComparesWithLast results (handled ++ [r]) (processScreenerPostRun results s r) := by
  have hlast : lastMatched (handled ++ [r]) = r.matched := by simp [lastMatched]
  obtain ⟨hevents, t, halert⟩ :=
    processScreenerAlert_both results r hs.both hs.repeats hs.active
  rw [hs.previous] at hevents
  refine ⟨by simp [processScreenerPostRun, halert, hs.both],
    by simp [processScreenerPostRun, halert, hs.repeats],
    by simp [processScreenerPostRun, halert, hs.active],
    by simpa [processScreenerPostRun, halert, hlast] using previousIds_of_mem hids hr, fun i => ?_⟩
  obtain ⟨n, hn, hodd⟩ := hs.kinds i
  simp only [processScreenerPostRun, hevents, kindsOf_append, hn, kindsOf_membershipEvents,
    Finset.mem_sdiff, hlast]
  by_cases hbefore : i ∈ lastMatched handled <;> by_cases hnow : i ∈ r.matched
  · exact ⟨n, by simp [hbefore, hnow], by simp [hodd, hbefore, hnow]⟩
  · have hn1 : n % 2 = 1 := hodd.2 hbefore
    exact ⟨n + 1, by simp [hbefore, hnow, alternating_succ, hn1], by simp [hnow]; omega⟩
  · have hn0 : n % 2 = 0 := by have := hodd.not.2 hbefore; omega
    exact ⟨n + 1, by simp [hbefore, hnow, alternating_succ, hn0], by simp [hnow]; omega⟩
  · exact ⟨n, by simp [hbefore, hnow], by simp [hodd, hbefore, hnow]⟩

/-! ## Runs -/

@[simp] theorem lastMatched_append_singleton : lastMatched (handled ++ [r]) = r.matched := by
  simp [lastMatched]

theorem postRunAfter_append_singleton :
    postRunAfter results (handled ++ [r]) =
      processScreenerPostRun results (postRunAfter results handled) r := by
  simp [postRunAfter]

theorem compares_after (hids : (results.map (·.id)).Nodup) (hsub : ∀ r ∈ soFar, r ∈ results) :
    ComparesWithLast results soFar (postRunAfter results soFar) := by
  induction soFar using List.reverseRecOn with
  | nil => exact ⟨rfl, rfl, rfl, rfl, fun i => ⟨0, rfl, by simp [lastMatched]⟩⟩
  | append_singleton soFar r ih =>
    rw [postRunAfter_append_singleton]
    exact compares_step hids (hsub r (by simp)) (ih fun q hq => hsub q (mem_append_left _ hq))

theorem unmarked_after :
    (∃ item ∈ (postRunAfter results soFar).items,
      item.instrumentId = i ∧ item.leftScreenerAt = none) ↔ i ∈ lastMatched soFar := by
  cases soFar using List.reverseRecOn with
  | nil => simp [postRunAfter, newPostRun, lastMatched]
  | append_singleton soFar r =>
    rw [postRunAfter_append_singleton, lastMatched_append_singleton]
    exact unmarked_sync

/-- Whether every result has, when it is handled, the matches of the latest one by then. -/
def LastIsLatest (handled : List ScreenerResult) : Prop :=
  ∀ soFar, soFar <+: handled → ∀ latest, latestResult soFar = some latest →
    lastMatched soFar = latest.matched

theorem InAbsence.append {a : ScreenerResult} (h : InAbsence soFar i a) (hr : i ∉ r.matched) :
    InAbsence (soFar ++ [r]) i a := by
  refine ⟨mem_append_left _ h.1, h.2.1, fun q hq hlater => ?_⟩
  rcases mem_append.1 hq with hq | hq
  · exact h.2.2 q hq hlater
  · exact mem_singleton.1 hq ▸ hr

/-- A mark is the time of a result in the current absence of its item. -/
theorem marked_after (hlast : LastIsLatest soFar) (hitem : item ∈ (postRunAfter results soFar).items)
    {leftAt : Instant} (hmark : item.leftScreenerAt = some leftAt) :
    ∃ a, InAbsence soFar item.instrumentId a ∧ a.runAt = leftAt := by
  induction soFar using List.reverseRecOn generalizing item with
  | nil => cases hitem
  | append_singleton soFar r ih =>
    have hpre : LastIsLatest soFar := fun pre hpre => hlast pre (hpre.trans (prefix_append ..))
    rw [postRunAfter_append_singleton] at hitem
    obtain ⟨hlacks, old, hold, hid, ⟨hnone, rfl⟩ | hsome⟩ := marked_sync hitem hmark
    · -- no result is later than this one, which would otherwise have the matches of the latest
      refine ⟨r, ⟨by simp, hlacks, fun q hq hlater => absurd ?_ hlacks⟩, rfl⟩
      have hq : q ∈ soFar := (mem_append.1 hq).resolve_right fun h =>
        hlater.ne' (mem_singleton.1 h ▸ rfl)
      obtain ⟨l, hl⟩ := Option.ne_none_iff_exists'.1
        (latestResult_eq_none.not.2 (ne_nil_of_mem hq))
      have hkeeps : latestResult (soFar ++ [r]) = some l := by
        rw [latestResult_append_singleton, hl, Option.any_some,
          decide_eq_true (hlater.trans_le (latestResult_le hl q hq)), if_pos rfl]
      have hmatches : r.matched = lastMatched soFar := by
        rw [hpre soFar prefix_rfl l hl, ← hlast _ prefix_rfl l hkeeps,
          lastMatched_append_singleton]
      rw [hmatches]
      exact unmarked_after.1 ⟨old, hold, hid, hnone⟩
    · obtain ⟨a, ha, hat⟩ := ih hpre hold hsome
      exact ⟨a, hid ▸ ha.append (hid ▸ hlacks), hat⟩

end

/-- **Membership is tracked** exactly when every result has, when it is handled, the matches of the
latest one by then. -/
theorem screener_membership_iff (h : ScreenerHistory) :
    TracksMembership h ↔ ∀ soFar, soFar <+: h.handled → ∀ latest,
      latestResult soFar = some latest → lastMatched soFar = latest.matched := by
  have hcompares : ∀ soFar, soFar <+: h.handled →
      ComparesWithLast h.results soFar (postRunAfter h.results soFar) := fun soFar hpre =>
    compares_after h.nodup_ids fun r hr => h.handled_subset r (hpre.subset hr)
  constructor
  · intro ht soFar hpre latest hlatest
    ext i
    exact unmarked_after.symm.trans (ht.unmarked soFar hpre latest hlatest i)
  · intro hlast
    refine ⟨fun soFar hpre latest hlatest i => ?_, fun soFar r hpre item hitem hgone => ?_,
      fun soFar hpre i => ?_, fun soFar hpre latest hlatest i => ?_⟩
    · rw [← hlast soFar hpre latest hlatest]
      exact unmarked_after
    · rw [postRunAfter_append_singleton] at hgone
      obtain ⟨hlacks, leftAt, hmark, hlong⟩ := removed_sync hitem hgone
      have hpre' : soFar <+: h.handled := (prefix_append ..).trans hpre
      obtain ⟨a, ha, rfl⟩ := marked_after (fun pre hp => hlast pre (hp.trans hpre')) hitem hmark
      exact ⟨hlacks, a, ha.append hlacks, hlong⟩
    · obtain ⟨n, hn, -⟩ := (hcompares soFar hpre).kinds i
      exact ⟨n, hn⟩
    · obtain ⟨n, hn, hodd⟩ := (hcompares soFar hpre).kinds i
      rw [hn, getLast?_alternating, hodd, hlast soFar hpre latest hlatest]

/-- Two results of a screener; the one that was started first, with a match, is handled last. -/
def lateHistory : ScreenerHistory where
  results := [⟨1, 0, [5]⟩, ⟨2, 1, []⟩]
  handled := [⟨2, 1, []⟩, ⟨1, 0, [5]⟩]
  nodup_ids := by decide
  handled_subset := by decide

/-- Instrument 5 is on the watchlist without a mark, though the latest result lacks it. -/
theorem late_result_tracked : ¬ TracksMembership lateHistory := by
  intro h
  have hmem := (h.unmarked lateHistory.handled prefix_rfl ⟨2, ⟨1, by decide⟩, []⟩
    (by decide) 5).1 ⟨⟨5, ⟨0, by decide⟩, none⟩, mem_cons_self .., rfl, rfl⟩
  exact absurd hmem (by decide)

end ChartingPlatform
