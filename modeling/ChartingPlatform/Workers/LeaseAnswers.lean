/-
  Which lease observations are answered (`apply_lease_observation`).
-/
import ChartingPlatform.Attempts.Recovery
import ChartingPlatform.Workers.Leases

namespace ChartingPlatform

open Lib List

/-! ## Fresh leases -/

/-- `acquire_attempt_lease`, its duration in microseconds. -/
def acquireAttemptLease (attempt : RunAttempt) (workerId leaseId : String) (now : Instant)
    (leaseDuration : ℤ) : Except PyError ExecutionAttemptLease := do
  ensure (attempt.state = .running) (valueError "only a running attempt can acquire a worker lease")
  ensure (0 < leaseDuration) (valueError "lease duration must be positive")
  let expiresAt ← addDelay now leaseDuration.toNat
  if hworker : notBlank workerId = true then
    if hlease : notBlank leaseId = true then
      if h : now < expiresAt then
        return {
          attemptId := attempt.attemptId
          workerId := workerId
          leaseId := leaseId
          leasedAt := now
          heartbeatAt := now
          expiresAt := expiresAt
          releasedAt := none
          attemptId_notBlank := attempt.attemptId_notBlank
          workerId_notBlank := hworker
          leaseId_notBlank := hlease
          leasedAt_le := Fin.le_refl _
          heartbeatAt_lt := h
          heartbeatAt_le := nofun }
      else .error (valueError "lease expiry must follow the latest heartbeat")
    else .error (valueError "lease lease_id must not be empty")
  else .error (valueError "lease worker_id must not be empty")

inductive LeaseReached (sha256 : String → Digest) : LeaseObservationState → Prop
  | fresh {attempt workerId leaseId now leaseDuration l s} :
      acquireAttemptLease attempt workerId leaseId now leaseDuration = .ok l →
      makeLeaseObservationState l [] = .ok s → LeaseReached sha256 s
  | observed {s o res} : LeaseReached sha256 s → applyLeaseObservation sha256 s o = .ok res →
      LeaseReached sha256 res.state

variable {sha256 : String → Digest} {s t : LeaseObservationState} {o : LeaseObservation}
  {l m : ExecutionAttemptLease} {res : LeaseObservationResolution}

theorem acquireAttemptLease_eq_ok {attempt : RunAttempt} {workerId leaseId : String} {now : Instant}
    {leaseDuration : ℤ}
    (h : acquireAttemptLease attempt workerId leaseId now leaseDuration = .ok l) :
    l.heartbeatAt = l.leasedAt ∧ l.releasedAt = none := by
  obtain ⟨_, -, h⟩ := bind_eq_ok.1 h
  obtain ⟨_, -, h⟩ := bind_eq_ok.1 h
  obtain ⟨_, -, h⟩ := bind_eq_ok.1 h
  split_ifs at h
  obtain rfl := Except.ok.inj h
  exact ⟨rfl, rfl⟩

/-- What is reached from a fresh lease: only a heartbeat moves the lease's, and only a last
    release releases it. -/
structure OrderedLease (s : LeaseObservationState) : Prop where
  first : s.appliedObservations = [] → s.lease.heartbeatAt = s.lease.leasedAt
  released : ∀ r ∈ s.lease.releasedAt, ∃ o ∈ s.appliedObservations.getLast?, o.kind = .release

theorem LeaseReached.ordered (h : LeaseReached sha256 s) : OrderedLease s := by
  induction h with
  | fresh hl hs =>
    obtain ⟨hbeat, hrel⟩ := acquireAttemptLease_eq_ok hl
    obtain ⟨hlease, -⟩ := makeLeaseObservationState_eq_ok hs
    rw [← hlease] at hbeat hrel
    refine ⟨fun _ => hbeat, fun r hr => ?_⟩
    rw [hrel] at hr
    exact absurd hr (by simp)
  | @observed s o res _ hres ih =>
    rcases applyLeaseObservation_cases hres with ⟨-, hstate⟩ | ⟨-, hobs⟩
    · rwa [hstate]
    · constructor
      · intro hnil
        rw [hobs.applied] at hnil
        exact absurd hnil (by simp)
      · intro r hr
        refine ⟨o, by rw [hobs.applied, getLast?_concat]; rfl, ?_⟩
        cases hkind : o.kind with
        | release => rfl
        | heartbeat =>
          -- a heartbeat cannot follow a release
          rw [hobs.heartbeat hkind] at hr
          obtain ⟨x, hx, hrelease⟩ := ih.released r hr
          refine absurd hrelease (res.state.release_last x ?_)
          rw [hobs.applied, dropLast_concat]
          exact mem_of_mem_getLast? hx

/-! ## Skewed observations -/

/-- The time of an observation lies before what the lease already records. -/
def ExecutionAttemptLease.Precedes (l : ExecutionAttemptLease) (o : LeaseObservation) : Prop :=
  match l.releasedAt, o.kind with
  | none, _ => o.observedAt < l.heartbeatAt
  | some r, .heartbeat => o.observedAt < r ∧ o.observedAt < l.expiresAt
  | some _, .release => o.observedAt < l.leasedAt

theorem precedes_unreleased (h : l.releasedAt = none) :
    l.Precedes o ↔ o.observedAt < l.heartbeatAt := by
  rw [ExecutionAttemptLease.Precedes, h]

structure NextObservation (s : LeaseObservationState) (o : LeaseObservation) : Prop where
  references : o.References s.lease
  fresh : o.observationId ∉ s.ids
  sequence : o.sequence = s.lastSequence + 1

/-- **A skewed observation** is the next one, at a time before what the lease records. -/
def Skewed (s : LeaseObservationState) (o : LeaseObservation) : Prop :=
  NextObservation s o ∧ s.lease.Precedes o

theorem answered_of_not_next (h : ¬ NextObservation s o) :
    ∃ res, applyLeaseObservation sha256 s o = .ok res := by
  unfold applyLeaseObservation
  by_cases href : o.References s.lease
  · rw [if_neg (not_not.2 href)]
    cases hfind : s.appliedObservations.find? fun x =>
        decide (x.observationId = o.observationId) with
    | some x =>
      dsimp only
      split_ifs <;> exact ⟨_, rfl⟩
    | none =>
      dsimp only
      split_ifs with hgap hstale
      · exact ⟨_, rfl⟩
      · exact ⟨_, rfl⟩
      · exact absurd ⟨href, find_eq_none_iff.1 hfind, by omega⟩ h
  · rw [if_pos href]
    exact ⟨_, rfl⟩

theorem answered_next_iff (h : NextObservation s o) :
    (∃ res, applyLeaseObservation sha256 s o = .ok res) ↔
      (∃ reason, s.lease.observe o = .ok (.inl reason)) ∨
        ∃ m t, s.lease.observe o = .ok (.inr m) ∧
          makeLeaseObservationState m (s.appliedObservations ++ [o]) = .ok t := by
  have hfind := find_eq_none_iff.2 h.fresh
  have hseq := h.sequence
  unfold applyLeaseObservation
  rw [if_neg (not_not.2 h.references)]
  simp only [hfind]
  rw [if_neg (by omega), if_neg (by omega)]
  cases hobserve : s.lease.observe o with
  | error e =>
    rw [error_bind]
    simp
  | ok next =>
    rw [ok_bind]
    cases next with
    | inl reason => exact iff_of_true ⟨_, rfl⟩ (.inl ⟨reason, rfl⟩)
    | inr m =>
      constructor
      · rintro ⟨res, hres⟩
        obtain ⟨t, ht, -⟩ := bind_eq_ok.1 hres
        exact .inr ⟨m, t, rfl, ht⟩
      · rintro (⟨reason, hreason⟩ | ⟨m', t, hm, ht⟩)
        · cases Except.ok.inj hreason
        · obtain rfl := Sum.inr.inj (Except.ok.inj hm)
          dsimp only
          rw [ht]
          exact ⟨_, rfl⟩

/-! ## The lease -/

theorem statusAt_of_lt (h : o.observedAt < l.leasedAt) : l.statusAt o.observedAt =
    .error (valueError "lease status time cannot precede lease acquisition") := by
  rw [ExecutionAttemptLease.statusAt, ensure_of_not (not_le.2 h)]
  rfl

theorem statusAt_of_le {now : Instant} (h : l.leasedAt ≤ now) : l.statusAt now =
    .ok (if l.releasedAt.any (fun t => decide (t ≤ now)) = true then .released
      else if now < l.expiresAt then .active else .expired) := by
  rw [ExecutionAttemptLease.statusAt, ensure_of h, ok_bind]
  split_ifs <;> rfl

theorem observe_of_lt (h : o.observedAt < l.leasedAt) : l.observe o =
    .error (valueError "lease status time cannot precede lease acquisition") := by
  rw [ExecutionAttemptLease.observe, statusAt_of_lt h]
  rfl

theorem observe_heartbeat (h : l.leasedAt ≤ o.observedAt) (hkind : o.kind = .heartbeat)
    (hexpires : o.observedAt < l.expiresAt) (hrel : ∀ r ∈ l.releasedAt, o.observedAt < r) :
    ∃ m, l.observe o = .ok (.inr m) ∧ l.Same m ∧ m.heartbeatAt = o.observedAt ∧
      some m.expiresAt = o.expiresAt ∧ m.releasedAt = l.releasedAt := by
  have hactive : ¬ l.releasedAt.any (fun t => decide (t ≤ o.observedAt)) = true := by
    rw [Option.any_eq_true]
    rintro ⟨r, hr, hle⟩
    exact absurd (hrel r hr) (not_lt.2 (of_decide_eq_true hle))
  obtain ⟨e, he⟩ := Option.isSome_iff_exists.1 (o.expiresAt_iff.1 hkind)
  have hget : o.expiresAt.get (o.expiresAt_iff.1 hkind) = e := by simp [he]
  have hall : l.releasedAt.all (fun t => decide (o.observedAt ≤ t)) = true := by
    rw [Option.all_eq_true]
    exact fun r hr => decide_eq_true (hrel r hr).le
  obtain ⟨m, hm⟩ : ∃ m, l.withTimes o.observedAt e l.releasedAt = .ok m := by
    unfold ExecutionAttemptLease.withTimes
    rw [dif_pos h, dif_pos (o.observedAt_lt e he), dif_pos hall]
    exact ⟨_, rfl⟩
  refine ⟨m, ?_, ?_⟩
  · rw [ExecutionAttemptLease.observe, statusAt_of_le h, if_neg hactive, if_pos hexpires, ok_bind,
      dif_pos hkind, if_neg (not_not.2 rfl), hget, hm]
    rfl
  · obtain ⟨hsame, hbeat, hexp, hreleased⟩ := ExecutionAttemptLease.withTimes_eq_ok hm
    exact ⟨hsame, hbeat, by rw [hexp, he], hreleased⟩

theorem observe_inactive (h : l.leasedAt ≤ o.observedAt) (hkind : o.kind = .heartbeat)
    (hinactive : (∃ r ∈ l.releasedAt, r ≤ o.observedAt) ∨ l.expiresAt ≤ o.observedAt) :
    ∃ reason, l.observe o = .ok (.inl reason) := by
  rw [ExecutionAttemptLease.observe, statusAt_of_le h, ok_bind, dif_pos hkind]
  have hstatus : (if l.releasedAt.any (fun t => decide (t ≤ o.observedAt)) = true then
      AttemptLeaseStatus.released
      else if o.observedAt < l.expiresAt then .active else .expired) ≠ .active := by
    rcases hinactive with ⟨r, hr, hle⟩ | hle
    · rw [if_pos ((Option.any_eq_true _ _).2 ⟨r, hr, decide_eq_true hle⟩)]
      decide
    · rw [if_neg (not_lt.2 hle)]
      split_ifs <;> decide
  rw [if_pos hstatus]
  exact ⟨_, rfl⟩

theorem observe_released (h : l.leasedAt ≤ o.observedAt) (hkind : o.kind = .release)
    (hrel : l.releasedAt ≠ none) : ∃ reason, l.observe o = .ok (.inl reason) := by
  rw [ExecutionAttemptLease.observe, statusAt_of_le h, ok_bind,
    dif_neg (by rw [hkind]; decide), if_pos hrel]
  exact ⟨_, rfl⟩

/-! ## Answers -/

theorem latestHeartbeat_concat {os : List LeaseObservation} (h : o.kind = .heartbeat) :
    latestHeartbeat (os ++ [o]) = some o := by
  have hpos : [o].filter (fun x => decide (x.kind = .heartbeat)) = [o] :=
    filter_cons_of_pos (decide_eq_true h)
  rw [latestHeartbeat, filter_append, hpos, getLast?_concat]

/-- A lease that is not released answers the next observation unless it precedes the heartbeat. -/
theorem answered_unreleased (hs : OrderedLease s) (hnext : NextObservation s o)
    (hrel : s.lease.releasedAt = none) :
    (∃ res, applyLeaseObservation sha256 s o = .ok res) ↔
      s.lease.heartbeatAt ≤ o.observedAt := by
  constructor
  · rintro ⟨res, hres⟩
    by_contra hlt
    rw [not_le] at hlt
    rcases (answered_next_iff hnext).1 ⟨res, hres⟩ with ⟨reason, hreason⟩ | ⟨m, t, hm, ht⟩
    · -- a rejected observation comes late
      by_cases hleased : o.observedAt < s.lease.leasedAt
      · rw [observe_of_lt hleased] at hreason
        cases hreason
      · cases hkind : o.kind with
        | heartbeat =>
          obtain ⟨m, hm, -⟩ := observe_heartbeat (not_lt.1 hleased) hkind
            (hlt.trans s.lease.heartbeatAt_lt) (fun r hr => by rw [hrel] at hr; cases hr)
          cases hreason.symm.trans hm
        | release =>
          rw [ExecutionAttemptLease.observe, statusAt_of_le (not_lt.1 hleased), ok_bind,
            dif_neg (by rw [hkind]; decide), if_neg (not_not.2 hrel),
            ExecutionAttemptLease.release, ensure_of_not (not_le.2 hlt)] at hreason
          cases hreason
    · obtain ⟨-, happlied⟩ := makeLeaseObservationState_eq_ok ht
      rw [sortBy_append_next hnext.sequence] at happlied
      cases hlast : s.appliedObservations.getLast? with
      | none =>
        -- the first observation comes after the acquisition
        rw [hs.first (getLast?_eq_none_iff.1 hlast)] at hlt
        rw [observe_of_lt hlt] at hm
        cases hm
      | some x =>
        have hmono := t.monotonic
        rw [happlied, isChain_append] at hmono
        have hle := hmono.2.2 x hlast o rfl
        rw [heartbeatAt_of_unreleased hrel hlast] at hlt
        exact absurd hlt (not_lt.2 hle)
  · intro hbeat
    have hleased := s.lease.leasedAt_le.trans hbeat
    cases hkind : o.kind with
    | release =>
      obtain ⟨res, hres, -⟩ := applyLeaseObservation_release hnext.references hkind
        hnext.sequence hnext.fresh hrel hbeat
      exact ⟨res, hres⟩
    | heartbeat =>
      rw [answered_next_iff hnext]
      by_cases hexpires : o.observedAt < s.lease.expiresAt
      · obtain ⟨m, hm, hsame, hmbeat, hmexp, -⟩ := observe_heartbeat hleased hkind hexpires
          (fun r hr => by rw [hrel] at hr; cases hr)
        have hheart : ∀ x ∈ latestHeartbeat (s.appliedObservations ++ [o]),
            m.heartbeatAt = x.observedAt ∧ some m.expiresAt = x.expiresAt := by
          intro x hx
          rw [latestHeartbeat_concat hkind] at hx
          obtain rfl := Option.some.inj hx
          exact ⟨hmbeat, hmexp⟩
        obtain ⟨t, ht⟩ := makeLeaseObservationState_next hnext.references hnext.sequence
          hnext.fresh hrel (fun _ => hbeat) hsame hheart
          (fun hk => by rw [hkind] at hk; cases hk)
        exact .inr ⟨m, t, hm, ht⟩
      · exact .inl (observe_inactive hleased hkind (.inr (not_lt.1 hexpires)))

theorem answered_released (hs : OrderedLease s) (hnext : NextObservation s o) {r : Instant}
    (hrel : s.lease.releasedAt = some r) :
    (∃ res, applyLeaseObservation sha256 s o = .ok res) ↔ ¬ s.lease.Precedes o := by
  have hbounds : s.lease.leasedAt ≤ r ∧ s.lease.leasedAt < s.lease.expiresAt :=
    ⟨s.lease.leasedAt_le.trans (s.lease.heartbeatAt_le r hrel),
      s.lease.leasedAt_le.trans_lt s.lease.heartbeatAt_lt⟩
  -- nothing is applied after a release
  have hclosed : ∀ m, ¬ ∃ t, makeLeaseObservationState m (s.appliedObservations ++ [o]) =
      .ok t := by
    rintro m ⟨t, ht⟩
    obtain ⟨-, happlied⟩ := makeLeaseObservationState_eq_ok ht
    rw [sortBy_append_next hnext.sequence] at happlied
    obtain ⟨x, hx, hkind⟩ := hs.released r hrel
    refine t.release_last x ?_ hkind
    rw [happlied, dropLast_concat]
    exact mem_of_mem_getLast? hx
  have hanswered : (∃ res, applyLeaseObservation sha256 s o = .ok res) ↔
      ∃ reason, s.lease.observe o = .ok (.inl reason) := by
    rw [answered_next_iff hnext]
    constructor
    · rintro (h | ⟨m, t, -, ht⟩)
      · exact h
      · exact absurd ⟨t, ht⟩ (hclosed m)
    · exact .inl
  rw [hanswered, ExecutionAttemptLease.Precedes, hrel]
  cases hkind : o.kind with
  | heartbeat =>
    dsimp only
    constructor
    · rintro ⟨reason, hreason⟩ ⟨hlt, hexpires⟩
      by_cases hleased : o.observedAt < s.lease.leasedAt
      · rw [observe_of_lt hleased] at hreason
        cases hreason
      · obtain ⟨m, hm, -⟩ := observe_heartbeat (not_lt.1 hleased) hkind hexpires
          (fun t ht => by rw [hrel] at ht; rwa [← Option.some.inj ht])
        cases hreason.symm.trans hm
    · intro h
      rw [not_and_or, not_lt, not_lt] at h
      have hleased : s.lease.leasedAt ≤ o.observedAt := by
        rcases h with h | h
        · exact hbounds.1.trans h
        · exact hbounds.2.le.trans h
      refine observe_inactive hleased hkind ?_
      rcases h with h | h
      · exact .inl ⟨r, hrel, h⟩
      · exact .inr h
  | release =>
    dsimp only
    constructor
    · rintro ⟨reason, hreason⟩ hlt
      rw [observe_of_lt hlt] at hreason
      cases hreason
    · intro h
      exact observe_released (not_lt.1 h) hkind (by rw [hrel]; simp)

theorem answered_iff (hs : OrderedLease s) :
    (∃ res, applyLeaseObservation sha256 s o = .ok res) ↔ ¬ Skewed s o := by
  by_cases hnext : NextObservation s o
  · have hskewed : Skewed s o ↔ s.lease.Precedes o := and_iff_right hnext
    rw [hskewed]
    cases hrel : s.lease.releasedAt with
    | none =>
      rw [answered_unreleased hs hnext hrel, precedes_unreleased hrel, not_lt]
    | some r => exact answered_released hs hnext hrel
  · exact iff_of_true (answered_of_not_next hnext) fun h => hnext h.1

/-- What is expected of every observation: an answer that changes nothing unless it applies the
    observation, extends no lease that is expired or released, and keeps the times in order. -/
structure LeaseAnswered (sha256 : String → Digest) (s : LeaseObservationState)
    (o : LeaseObservation) : Prop where
  answered : ∃ res, applyLeaseObservation sha256 s o = .ok res
  unchanged : ∀ res, applyLeaseObservation sha256 s o = .ok res → res.decision ≠ .apply →
    res.state = s
  notExtended : ∀ res, applyLeaseObservation sha256 s o = .ok res →
    s.lease.releasedAt ≠ none ∨ s.lease.expiresAt ≤ o.observedAt →
    res.state.lease.heartbeatAt = s.lease.heartbeatAt ∧
      res.state.lease.expiresAt = s.lease.expiresAt
  monotonic : ∀ res, applyLeaseObservation sha256 s o = .ok res →
    res.state.appliedObservations.Pairwise fun a b => a.observedAt ≤ b.observedAt

theorem observe_not_extended (h : l.observe o = .ok (.inr m))
    (hclosed : l.releasedAt ≠ none ∨ l.expiresAt ≤ o.observedAt)
    (hheart : o.kind = .heartbeat → l.releasedAt = none) :
    m.heartbeatAt = l.heartbeatAt ∧ m.expiresAt = l.expiresAt := by
  have hleased : l.leasedAt ≤ o.observedAt := by
    by_contra hlt
    rw [observe_of_lt (not_le.1 hlt)] at h
    cases h
  cases hkind : o.kind with
  | heartbeat =>
    have hexpired := hclosed.resolve_left (not_not.2 (hheart hkind))
    obtain ⟨reason, hreason⟩ := observe_inactive hleased hkind (.inr hexpired)
    cases hreason.symm.trans h
  | release =>
    by_cases hrel : l.releasedAt = none
    · rw [ExecutionAttemptLease.observe, statusAt_of_le hleased, ok_bind,
        dif_neg (by rw [hkind]; decide), if_neg (not_not.2 hrel)] at h
      obtain ⟨lease, hlease, h⟩ := bind_eq_ok.1 h
      obtain rfl := Sum.inr.inj (Except.ok.inj h)
      obtain ⟨-, -, -, hbeat, hexp, -⟩ := ExecutionAttemptLease.release_eq_ok hlease
      exact ⟨hbeat, hexp⟩
    · obtain ⟨reason, hreason⟩ := observe_released hleased hkind hrel
      cases hreason.symm.trans h

theorem observe_of_apply (h : applyLeaseObservation sha256 s o = .ok res)
    (hobs : ObservedLease s o res.state) : s.lease.observe o = .ok (.inr res.state.lease) := by
  have hfind := find_eq_none_iff.2 hobs.fresh
  have hseq := hobs.sequence
  unfold applyLeaseObservation at h
  rw [if_neg (not_not.2 hobs.references)] at h
  simp only [hfind] at h
  rw [if_neg (by omega), if_neg (by omega)] at h
  obtain ⟨next, hnext, h⟩ := bind_eq_ok.1 h
  cases next with
  | inl reason =>
    obtain rfl := Except.ok.inj h
    have := congrArg List.length hobs.applied
    simp at this
  | inr lease =>
    obtain ⟨t, ht, h⟩ := bind_eq_ok.1 h
    obtain rfl := Except.ok.inj h
    rw [(makeLeaseObservationState_eq_ok ht).1]
    exact hnext

/-- **Lease observations are answered**, with all that is expected, exactly where they are not
    skewed: in every state that is reached from a fresh lease. -/
theorem applyLeaseObservation_answered_iff (sha256 : String → Digest) (s : LeaseObservationState)
    (h : LeaseReached sha256 s) (o : LeaseObservation) :
    LeaseAnswered sha256 s o ↔ ¬ Skewed s o := by
  have hiff : (∃ res, applyLeaseObservation sha256 s o = .ok res) ↔ ¬ Skewed s o :=
    answered_iff h.ordered
  rw [← hiff]
  refine ⟨LeaseAnswered.answered, fun hanswered => ⟨hanswered, ?_, ?_, ?_⟩⟩
  · intro res hres hdecision
    rcases applyLeaseObservation_cases hres with ⟨-, hstate⟩ | ⟨happly, -⟩
    · exact hstate
    · exact absurd happly hdecision
  · intro res hres hclosed
    rcases applyLeaseObservation_cases hres with ⟨-, hstate⟩ | ⟨-, hobs⟩
    · rw [hstate]
      exact ⟨rfl, rfl⟩
    · refine observe_not_extended (observe_of_apply hres hobs) hclosed fun hkind => ?_
      -- after a release there is no next state
      cases hrel : s.lease.releasedAt with
      | none => rfl
      | some r =>
        obtain ⟨x, hx, hrelease⟩ := h.ordered.released r hrel
        refine absurd hrelease (res.state.release_last x ?_)
        rw [hobs.applied, dropLast_concat]
        exact mem_of_mem_getLast? hx
  · intro res _
    exact isChain_iff_pairwise.1 res.state.monotonic

theorem leasedAttempt_times : (0 : Instant) ≤ 0 := le_rfl

def leasedAttempt : RunAttempt where
  attemptId := "attempt-1"
  trialId := "trial-1"
  ordinal := 1
  state := .running
  createdAt := 0
  updatedAt := 0
  attemptId_notBlank := Eq.refl true
  trialId_notBlank := Eq.refl true
  ordinal_pos := Nat.one_pos
  createdAt_le := leasedAttempt_times

def firstHeartbeat (observedAt expiresAt : Instant) (h : observedAt < expiresAt) :
    LeaseObservation where
  observationId := ⟨"heartbeat-1"⟩
  leaseId := "lease-1"
  workerId := "worker-1"
  attemptId := "attempt-1"
  sequence := 1
  kind := .heartbeat
  observedAt := observedAt
  expiresAt := some expiresAt
  leaseId_notBlank := Eq.refl true
  workerId_notBlank := Eq.refl true
  attemptId_notBlank := Eq.refl true
  sequence_pos := Nat.one_pos
  observedAt_lt := fun _ h' => Option.some.inj h' ▸ h
  expiresAt_iff := iff_of_true rfl rfl

theorem exists_freshLease : ∃ s, LeaseReached Digest.mk s ∧ s.lease.heartbeatAt = 1 ∧
    s.lease.releasedAt = none ∧ s.appliedObservations = [] ∧
    ∀ t e h, (firstHeartbeat t e h).References s.lease := by
  obtain ⟨l, s, hl, hs, hbeat, hrel, hnil, hids⟩ : ∃ l s,
      acquireAttemptLease leasedAttempt "worker-1" "lease-1" 1 10 = .ok l ∧
      makeLeaseObservationState l [] = .ok s ∧ s.lease.heartbeatAt = 1 ∧
      s.lease.releasedAt = none ∧ s.appliedObservations = [] ∧
      s.lease.leaseId = "lease-1" ∧ s.lease.workerId = "worker-1" ∧
      s.lease.attemptId = "attempt-1" :=
    ⟨_, _, rfl, rfl, rfl, rfl, rfl, rfl, rfl, rfl⟩
  exact ⟨s, .fresh hl hs, hbeat, hrel, hnil, fun _ _ _ =>
    ⟨hids.1.symm, hids.2.1.symm, hids.2.2.symm⟩⟩

/-- A heartbeat after the acquisition is answered. -/
theorem applyLeaseObservation_answered_heartbeat : ∃ s, LeaseReached Digest.mk s ∧
    LeaseAnswered Digest.mk s (firstHeartbeat 2 12 (by decide)) := by
  obtain ⟨s, hs, hbeat, hrel, -, -⟩ := exists_freshLease
  refine ⟨s, hs, (applyLeaseObservation_answered_iff Digest.mk s hs
    (firstHeartbeat 2 12 (by decide))).2 fun h => ?_⟩
  have hprecedes := (precedes_unreleased hrel).1 h.2
  rw [hbeat] at hprecedes
  exact absurd hprecedes (show ¬ (2 : Instant) < 1 by decide)

/-- **A heartbeat from a clock that lags** behind the acquisition is not answered. -/
theorem applyLeaseObservation_skewed : ∃ s, LeaseReached Digest.mk s ∧
    ¬ LeaseAnswered Digest.mk s (firstHeartbeat 0 12 (by decide)) := by
  obtain ⟨s, hs, hbeat, hrel, hnil, href⟩ := exists_freshLease
  refine ⟨s, hs, fun h => (answered_iff hs.ordered).1 h.answered ⟨⟨href _ _ _, ?_, ?_⟩, ?_⟩⟩
  · rw [LeaseObservationState.ids, hnil]
    exact not_mem_nil
  · rw [LeaseObservationState.lastSequence, hnil]
    rfl
  · rw [precedes_unreleased hrel, hbeat]
    exact (show (0 : Instant) < 1 by decide)

end ChartingPlatform
