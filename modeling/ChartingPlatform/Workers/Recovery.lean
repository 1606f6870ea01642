/-
  Recoveries (`worker_recovery.py`): the release of a worker slot and its lease together
  with the plan that retries the attempt.
-/
import ChartingPlatform.Attempts.Recovery
import ChartingPlatform.Workers.Settlement

namespace ChartingPlatform

open Lib

/-! ## Plans as values -/

def RecoveryReason.value : RecoveryReason → String
  | .workerCrash => "worker_crash"
  | .leaseExpired => "lease_expired"
  | .transientEngineError => "transient_engine_error"
  | .artifactPublishFailure => "artifact_publish_failure"
  | .cancelled => "cancelled"

def RecoveryReason.toPy (r : RecoveryReason) : PyValue :=
  .enum "app.strategy_lab_v2.recovery.RecoveryReason" (.str r.value)

def RecoveryDisposition.value : RecoveryDisposition → String
  | .retry => "retry"
  | .terminal => "terminal"
  | .noop => "noop"

def RecoveryDisposition.toPy (d : RecoveryDisposition) : PyValue :=
  .enum "app.strategy_lab_v2.recovery.RecoveryDisposition" (.str d.value)

/-- `int | None`. -/
def optionNat : Option ℕ → PyValue
  | some n => .int n
  | none => .none

def RecoveryPlan.toPy (plan : RecoveryPlan) : PyValue :=
  .dataclass "app.strategy_lab_v2.recovery.RecoveryPlan"
    [({ name := "disposition" }, plan.disposition.toPy),
      ({ name := "reason" }, plan.reason.toPy),
      ({ name := "trial_id" }, .str plan.trialId),
      ({ name := "prior_attempt_id" }, .str plan.priorAttemptId),
      ({ name := "prior_ordinal" }, .int plan.priorOrdinal),
      ({ name := "next_ordinal" }, optionNat plan.nextOrdinal),
      ({ name := "retry_at" }, optionInstant plan.retryAt),
      ({ name := "rationale" }, .str plan.rationale)]

/-- `RecoveryPlan.fingerprint`. -/
def RecoveryPlan.fingerprint (sha256 : String → Digest) (plan : RecoveryPlan) : Digest :=
  digest sha256 plan.toPy

/-! ## Receipts -/

/-- `WorkerRecoveryDecision`. -/
inductive WorkerRecoveryDecision where
  | retryScheduled | terminal | noop | replayExisting | conflict | reject
  deriving DecidableEq, Repr

/-- `WorkerRecoveryRecord`. -/
@[ext]
structure WorkerRecoveryRecord where
  recoveryFingerprint : Digest
  attemptId : String
  reservationId : Digest
  decision : WorkerRecoveryDecision
  reason : RecoveryReason
  planFingerprint : Digest
  nextAttemptId : Option String
  leaseObservationFingerprint : Digest
  leaseObservationSequence : ℕ
  releasedAt : Instant
  attemptId_notBlank : notBlank attemptId = true
  nextAttemptId_notBlank : ∀ id ∈ nextAttemptId, notBlank id = true
  leaseObservationSequence_pos : 0 < leaseObservationSequence

def WorkerRecoveryRecord.closing (x : WorkerRecoveryRecord) : ClosingReceipt :=
  ⟨x.attemptId, x.reservationId, x.leaseObservationFingerprint, x.releasedAt⟩

def WorkerRecoveryRecord.identity : ReceiptIdentity WorkerRecoveryRecord where
  fingerprint := recoveryFingerprint
  attemptId := attemptId
  reservationId := reservationId

/-- `WorkerRecoveryLedger`. -/
abbrev WorkerRecoveryLedger := ReceiptLedger WorkerRecoveryRecord.identity

/-- `WorkerRecoveryLedger.__post_init__`. -/
def makeWorkerRecoveryLedger : List WorkerRecoveryRecord → Except PyError WorkerRecoveryLedger :=
  makeReceiptLedger WorkerRecoveryRecord.identity "recovery fingerprints must be unique"
    "an attempt may have only one recovery receipt"
    "a reservation may have only one recovery receipt"

/-! ## Recoveries -/

/-- `WorkerRecoveryResolution`. -/
structure WorkerRecoveryResolution where
  decision : WorkerRecoveryDecision
  plan : Option RecoveryPlan
  pool : WorkerPoolState
  leaseState : LeaseObservationState
  nextAttempt : Option RunAttempt := none
  releasedReservationId : Option Digest := none
  rejectionReason : Option String := none
  ledger : WorkerRecoveryLedger
  releaseObservation : Option LeaseObservation := none
  plan_iff : plan.isSome = true ↔ decision ≠ .conflict ∧ decision ≠ .reject := by simp
  reason_iff : rejectionReason.isSome = true ↔ decision = .conflict ∨ decision = .reject := by simp

/-- The latest attempt, the first one where several have the highest ordinal. -/
def latestAttempt (attempts : List RunAttempt) : Option RunAttempt :=
  attempts.argmax RunAttempt.ordinal

/-- `recovery_fingerprint`. -/
def recoveryFingerprint (sha256 : String → Digest) (nextAttemptId : Option String)
    (plan : RecoveryPlan) (attemptId : String) (reason : RecoveryReason)
    (reservationId : Digest) : Digest :=
  digest sha256 (.mapping
    [(.str "next_attempt_id", optionText nextAttemptId),
      (.str "plan_fingerprint", .str (plan.fingerprint sha256).text),
      (.str "prior_attempt_id", .str attemptId),
      (.str "reason", reason.toPy),
      (.str "reservation_id", .str reservationId.text)])

/-- The `observation_id` of a recovery's release. -/
def recoveryObservationId (sha256 : String → Digest) (leaseId : String) (fingerprint : Digest) :
    Digest :=
  digest sha256 (.mapping
    [(.str "kind", LeaseObservationKind.release.toPy),
      (.str "lease_id", .str leaseId),
      (.str "recovery_fingerprint", .str fingerprint.text)])

/-- `_release_observation`. -/
def recoveryReleaseObservation (sha256 : String → Digest) (l : ExecutionAttemptLease)
    (fingerprint : Digest) (observedAt : Instant) (sequence : ℕ) (hpos : 0 < sequence) :
    LeaseObservation :=
  releaseObservation l (recoveryObservationId sha256 l.leaseId fingerprint) sequence hpos observedAt

/-- `_reject`. -/
def rejectRecovery (p : WorkerPoolState) (ledger : WorkerRecoveryLedger)
    (s : LeaseObservationState) (reason : String) : WorkerRecoveryResolution :=
  { decision := .reject, plan := none, pool := p, leaseState := s, ledger := ledger
    rejectionReason := some reason }

def plannedAttempt (plan : RecoveryPlan) (attempts : List RunAttempt) :
    Option String → Except PyError (Option RunAttempt)
  | some id => (plan.materializeRetryAttempt attempts id).map some
  | none => .ok none

def WorkerRecoveryRecord.observation (sha256 : String → Digest) (x : WorkerRecoveryRecord)
    (l : ExecutionAttemptLease) : LeaseObservation :=
  recoveryReleaseObservation sha256 l x.recoveryFingerprint x.releasedAt x.leaseObservationSequence
    x.leaseObservationSequence_pos

def WorkerRecoveryRecord.persisted (sha256 : String → Digest) (x : WorkerRecoveryRecord)
    (s : LeaseObservationState) : Bool :=
  s.appliedObservations.any fun o => decide (o.fingerprint sha256 = x.leaseObservationFingerprint)

/-- What a crash left out of pool and lease, or the reason why it cannot be resumed. -/
def resumeRecovery (sha256 : String → Digest) (p : WorkerPoolState) (s : LeaseObservationState)
    (r : WorkerReservation) (x : WorkerRecoveryRecord) :
    Except PyError (String ⊕ WorkerPoolState × LeaseObservationState) :=
  if r.active = true then
    if x.persisted sha256 s = false ∧ s.lastSequence + 1 ≠ x.leaseObservationSequence then
      .ok (.inl "recovery receipt cannot resume from the current lease sequence")
    else do
      let res ← applyLeaseObservation sha256 s (x.observation sha256 s.lease)
      if res.decision ≠ .apply ∧ res.decision ≠ .replayExisting then
        return .inl (res.rejectionReason.getD
          "recovery receipt release observation cannot be replayed")
      else
        match releaseWorkerSlot p r.reservationId x.releasedAt with
        | .error e => return .inl e.message
        | .ok pool => return .inr (pool, res.state)
  else if r.releasedAt ≠ some x.releasedAt then
    .ok (.inl "worker reservation release time differs from recovery receipt")
  else if x.persisted sha256 s = false then
    .ok (.inl "recovery receipt exists but lease release observation is missing")
  else .ok (.inr (p, s))

/-- The answer to an attempt that has its receipt. -/
def replayRecovery (sha256 : String → Digest) (attempts : List RunAttempt) (p : WorkerPoolState)
    (ledger : WorkerRecoveryLedger) (s : LeaseObservationState) (plan : RecoveryPlan)
    (r : WorkerReservation) (fingerprint : Digest) (x : WorkerRecoveryRecord) :
    Except PyError WorkerRecoveryResolution :=
  if x.recoveryFingerprint ≠ fingerprint then
    .ok
      { decision := .conflict, plan := none, pool := p, leaseState := s, ledger := ledger
        rejectionReason := some "attempt is already bound to different recovery content" }
  else if (x.observation sha256 s.lease).fingerprint sha256 ≠ x.leaseObservationFingerprint then
    .ok (rejectRecovery p ledger s
      "recovery receipt release observation does not match its fingerprint")
  else do
    match ← resumeRecovery sha256 p s r x with
    | .inl reason => return rejectRecovery p ledger s reason
    | .inr (pool, state) =>
      let next ← plannedAttempt plan attempts x.nextAttemptId
      ensure (plan.disposition = .retry → next ≠ none)
        (valueError "replayed retry decisions require a queued attempt and released reservation")
      return { decision := .replayExisting, plan := some plan, pool := pool, leaseState := state
               nextAttempt := next, releasedReservationId := some x.reservationId
               ledger := ledger
               releaseObservation := some (x.observation sha256 s.lease) }

def RecoveryDisposition.decision : RecoveryDisposition → WorkerRecoveryDecision
  | .retry => .retryScheduled
  | .noop => .noop
  | .terminal => .terminal

def recoveryRecord (sha256 : String → Digest) (latest : RunAttempt) (plan : RecoveryPlan)
    (reason : RecoveryReason) (next : Option RunAttempt) (r : WorkerReservation)
    (fingerprint : Digest) (o : LeaseObservation) (observedAt : Instant) :
    WorkerRecoveryRecord where
  recoveryFingerprint := fingerprint
  attemptId := latest.attemptId
  reservationId := r.reservationId
  decision := plan.disposition.decision
  reason := reason
  planFingerprint := plan.fingerprint sha256
  nextAttemptId := next.map RunAttempt.attemptId
  leaseObservationFingerprint := o.fingerprint sha256
  leaseObservationSequence := o.sequence
  releasedAt := observedAt
  attemptId_notBlank := latest.attemptId_notBlank
  nextAttemptId_notBlank := by
    intro id hid
    obtain ⟨a, -, rfl⟩ := Option.mem_map.1 hid
    exact a.attemptId_notBlank
  leaseObservationSequence_pos := o.sequence_pos

def expiryHolds (reason : RecoveryReason) (l : ExecutionAttemptLease) (observedAt : Instant) :
    Except PyError Bool :=
  if reason = .leaseExpired then (l.statusAt observedAt).map fun status => decide (status = .expired)
  else .ok true

def releaseRecoveredWorker (sha256 : String → Digest) (p : WorkerPoolState)
    (ledger : WorkerRecoveryLedger) (s : LeaseObservationState) (latest : RunAttempt)
    (plan : RecoveryPlan) (reason : RecoveryReason) (next : Option RunAttempt)
    (r : WorkerReservation) (fingerprint : Digest) (observedAt : Instant) :
    Except PyError WorkerRecoveryResolution := do
  let expired ← expiryHolds reason s.lease observedAt
  if expired = false then
    return rejectRecovery p ledger s "lease-expired recovery requires an expired lease"
  else if r.active = false then
    return rejectRecovery p ledger s
      "worker reservation is already released without a recovery receipt"
  else
    let o := recoveryReleaseObservation sha256 s.lease fingerprint observedAt (s.lastSequence + 1)
      s.next_pos
    let res ← applyLeaseObservation sha256 s o
    if res.decision ≠ .apply then
      return rejectRecovery p ledger s
        (res.rejectionReason.getD "lease release observation was rejected")
    else
      let pool ← releaseWorkerSlot p r.reservationId observedAt
      let ledger' ← makeWorkerRecoveryLedger (ledger.records ++
        [recoveryRecord sha256 latest plan reason next r fingerprint o observedAt])
      return { decision := plan.disposition.decision, plan := some plan, pool := pool
               leaseState := res.state, nextAttempt := next
               releasedReservationId := some r.reservationId, ledger := ledger'
               releaseObservation := some o
               plan_iff := by cases plan.disposition <;> simp [RecoveryDisposition.decision]
               reason_iff := by cases plan.disposition <;> simp [RecoveryDisposition.decision] }

/-- The recovery of an attempt that holds, or held, the reservation `r`. -/
def recoverReservation (sha256 : String → Digest) (attempts : List RunAttempt)
    (latest : RunAttempt) (s : LeaseObservationState) (p : WorkerPoolState)
    (ledger : WorkerRecoveryLedger) (reason : RecoveryReason) (observedAt : Instant)
    (policy : RetryPolicy) (nextAttemptId : Option String) (r : WorkerReservation) :
    Except PyError WorkerRecoveryResolution := do
  let plan ← planAttemptRecovery attempts reason observedAt policy
  if plan.disposition = .retry ∧ nextAttemptId.all (fun id => !notBlank id) = true then
    return rejectRecovery p ledger s "retry recovery requires a next attempt identity"
  else
    let next ← plannedAttempt plan attempts
      (if plan.disposition = .retry then nextAttemptId else none)
    let fingerprint := recoveryFingerprint sha256 (next.map RunAttempt.attemptId) plan
      latest.attemptId reason r.reservationId
    match ledger.receipt latest.attemptId with
    | some x => replayRecovery sha256 attempts p ledger s plan r fingerprint x
    | none =>
      releaseRecoveredWorker sha256 p ledger s latest plan reason next r fingerprint observedAt

/-- `resolve_worker_recovery`. -/
def resolveWorkerRecovery (sha256 : String → Digest) (attempts : List RunAttempt)
    (admissions : ExecutionAdmissionLedger) (s : LeaseObservationState) (p : WorkerPoolState)
    (ledger : WorkerRecoveryLedger) (reason : RecoveryReason) (observedAt : Instant)
    (policy : RetryPolicy) (nextAttemptId : Option String) :
    Except PyError WorkerRecoveryResolution :=
  match latestAttempt attempts with
  | none => .error (typeError "prior_attempts must contain RunAttempt values")
  | some latest =>
    match admissions.receipt latest.attemptId with
    | none =>
      .ok (rejectRecovery p ledger s "latest attempt has no execution admission receipt")
    | some admission =>
      if latest.attemptId ≠ s.lease.attemptId then
        .ok (rejectRecovery p ledger s "latest attempt does not match the lease")
      else if admission.workerId ≠ s.lease.workerId then
        .ok (rejectRecovery p ledger s "admission and lease reference different workers")
      else if s.lease.workerId ≠ p.profile.workerId then
        .ok (rejectRecovery p ledger s "lease is bound to a different worker pool")
      else
        match p.reservationOf admission.reservationId latest.attemptId with
        | none => .ok (rejectRecovery p ledger s "admission has no active worker reservation")
        | some r =>
          recoverReservation sha256 attempts latest s p ledger reason observedAt policy
            nextAttemptId r

/-! ## Everything a recovery can do -/

section
variable {sha256 : String → Digest} {attempts : List RunAttempt} {latest : RunAttempt}
  {admissions : ExecutionAdmissionLedger} {s : LeaseObservationState} {p : WorkerPoolState}
  {ledger : WorkerRecoveryLedger} {reason : RecoveryReason} {observedAt : Instant}
  {policy : RetryPolicy} {nextAttemptId : Option String} {plan : RecoveryPlan}
  {next : Option RunAttempt} {r r' : WorkerReservation} {res : WorkerRecoveryResolution}
  {x : WorkerRecoveryRecord} {fingerprint : Digest}

def WorkerRecoveryResolution.Unchanged (res : WorkerRecoveryResolution) (p : WorkerPoolState)
    (s : LeaseObservationState) (ledger : WorkerRecoveryLedger) : Prop :=
  (res.decision = .conflict ∨ res.decision = .reject) ∧ res.pool = p ∧ res.leaseState = s ∧
    res.ledger = ledger ∧ res.nextAttempt = none

theorem rejectRecovery_unchanged (text : String) :
    (rejectRecovery p ledger s text).Unchanged p s ledger := ⟨.inr rfl, rfl, rfl, rfl, rfl⟩

/-- The recovery gets as far as its plan: the latest attempt was admitted, holds the lease and
    holds, or held, the reservation `r`. -/
structure PlannedRecovery (attempts : List RunAttempt) (admissions : ExecutionAdmissionLedger)
    (s : LeaseObservationState) (p : WorkerPoolState) (reason : RecoveryReason)
    (observedAt : Instant) (policy : RetryPolicy) (nextAttemptId : Option String)
    (latest : RunAttempt) (r : WorkerReservation) (plan : RecoveryPlan)
    (next : Option RunAttempt) : Prop where
  latest_eq : latestAttempt attempts = some latest
  admission : ∃ a ∈ admissions.records, a.attemptId = latest.attemptId ∧
    a.workerId = s.lease.workerId ∧ r.reservationId = a.reservationId
  lease : s.lease.attemptId = latest.attemptId
  pool : s.lease.workerId = p.profile.workerId
  reservation : r ∈ p.reservations
  attemptId : r.attemptId = latest.attemptId
  plan_eq : planAttemptRecovery attempts reason observedAt policy = .ok plan
  identified : ¬ (plan.disposition = .retry ∧
    nextAttemptId.all (fun id => !notBlank id) = true)
  next_eq : plannedAttempt plan attempts (if plan.disposition = .retry then nextAttemptId else none) =
    .ok next

def plannedFingerprint (sha256 : String → Digest) (latest : RunAttempt) (r : WorkerReservation)
    (plan : RecoveryPlan) (reason : RecoveryReason) (next : Option RunAttempt) : Digest :=
  recoveryFingerprint sha256 (next.map RunAttempt.attemptId) plan latest.attemptId reason
    r.reservationId

theorem resolveWorkerRecovery_of
    (h : PlannedRecovery attempts admissions s p reason observedAt policy nextAttemptId latest r
      plan next) :
    resolveWorkerRecovery sha256 attempts admissions s p ledger reason observedAt policy
        nextAttemptId =
      match ledger.receipt latest.attemptId with
      | some x => replayRecovery sha256 attempts p ledger s plan r
          (plannedFingerprint sha256 latest r plan reason next) x
      | none => releaseRecoveredWorker sha256 p ledger s latest plan reason next r
          (plannedFingerprint sha256 latest r plan reason next) observedAt := by
  obtain ⟨a, ha, hattempt, hworker, hid⟩ := h.admission
  have hreceipt : admissions.receipt latest.attemptId = some a := receipt_eq_some.2 ⟨ha, hattempt⟩
  have hres : p.reservationOf a.reservationId latest.attemptId = some r :=
    reservationOf_eq_some.2 ⟨h.reservation, hid, h.attemptId⟩
  unfold resolveWorkerRecovery
  rw [h.latest_eq]
  simp only [hreceipt]
  rw [if_neg (not_not.2 h.lease.symm), if_neg (not_not.2 hworker), if_neg (not_not.2 h.pool)]
  simp only [hres]
  unfold recoverReservation
  rw [h.plan_eq, ok_bind, if_neg h.identified, h.next_eq, ok_bind]
  rfl

theorem resolveWorkerRecovery_planned
    (h : resolveWorkerRecovery sha256 attempts admissions s p ledger reason observedAt policy
      nextAttemptId = .ok res) : res.Unchanged p s ledger ∨
      ∃ latest r plan next, PlannedRecovery attempts admissions s p reason observedAt policy
        nextAttemptId latest r plan next := by
  unfold resolveWorkerRecovery at h
  cases hlatest : latestAttempt attempts with
  | none =>
    rw [hlatest] at h
    cases h
  | some latest =>
    rw [hlatest] at h
    cases hreceipt : admissions.receipt latest.attemptId with
    | none =>
      simp only [hreceipt] at h
      exact .inl (Except.ok.inj h ▸ rejectRecovery_unchanged _)
    | some a =>
      obtain ⟨ha, hattempt⟩ := receipt_eq_some.1 hreceipt
      simp only [hreceipt] at h
      by_cases hlease : latest.attemptId ≠ s.lease.attemptId
      · rw [if_pos hlease] at h
        exact .inl (Except.ok.inj h ▸ rejectRecovery_unchanged _)
      by_cases hworker : a.workerId ≠ s.lease.workerId
      · rw [if_neg hlease, if_pos hworker] at h
        exact .inl (Except.ok.inj h ▸ rejectRecovery_unchanged _)
      by_cases hpool : s.lease.workerId ≠ p.profile.workerId
      · rw [if_neg hlease, if_neg hworker, if_pos hpool] at h
        exact .inl (Except.ok.inj h ▸ rejectRecovery_unchanged _)
      rw [if_neg hlease, if_neg hworker, if_neg hpool] at h
      cases hres : p.reservationOf a.reservationId latest.attemptId with
      | none =>
        simp only [hres] at h
        exact .inl (Except.ok.inj h ▸ rejectRecovery_unchanged _)
      | some r =>
        obtain ⟨hr, hid, hrattempt⟩ := reservationOf_eq_some.1 hres
        simp only [hres] at h
        obtain ⟨plan, hplan, h⟩ := bind_eq_ok.1 h
        by_cases hblank : plan.disposition = .retry ∧
            nextAttemptId.all (fun id => !notBlank id) = true
        · rw [if_pos hblank] at h
          exact .inl (Except.ok.inj h ▸ rejectRecovery_unchanged _)
        rw [if_neg hblank] at h
        obtain ⟨next, hnext, -⟩ := bind_eq_ok.1 h
        exact .inr ⟨latest, r, plan, next, hlatest,
          ⟨a, ha, hattempt, not_not.1 hworker, hid⟩, (not_not.1 hlease).symm, not_not.1 hpool, hr,
          hrattempt, hplan, hblank, hnext⟩

/-! ### New recoveries -/

/-- The recovery released the slot `r` and recorded it. -/
structure RecoveredSlot (sha256 : String → Digest) (p : WorkerPoolState)
    (ledger : WorkerRecoveryLedger) (s : LeaseObservationState) (latest : RunAttempt)
    (plan : RecoveryPlan) (reason : RecoveryReason) (next : Option RunAttempt)
    (r r' : WorkerReservation) (fingerprint : Digest) (observedAt : Instant)
    (o : LeaseObservation) (res : WorkerRecoveryResolution) : Prop where
  decision : res.decision = plan.disposition.decision
  plan_eq : res.plan = some plan
  next_eq : res.nextAttempt = next
  closed : SlotClosed p s r r' o observedAt res.pool res.leaseState
  release : releaseWorkerSlot p r.reservationId observedAt = .ok res.pool
  observation : ∃ hpos, o = recoveryReleaseObservation sha256 s.lease fingerprint observedAt
    (s.lastSequence + 1) hpos
  applied : ∃ a, applyLeaseObservation sha256 s o = .ok a ∧ a.decision = .apply ∧
    a.state = res.leaseState
  ledger_iff : ∀ y, y ∈ res.ledger.records ↔ y ∈ ledger.records ∨
    y = recoveryRecord sha256 latest plan reason next r fingerprint o observedAt

theorem releaseRecoveredWorker_cases (hr : r ∈ p.reservations)
    (hlease : s.lease.attemptId = r.attemptId) (hworker : s.lease.workerId = p.profile.workerId)
    (h : releaseRecoveredWorker sha256 p ledger s latest plan reason next r fingerprint
      observedAt = .ok res) : res.Unchanged p s ledger ∨
      ∃ r' o, RecoveredSlot sha256 p ledger s latest plan reason next r r' fingerprint observedAt
        o res := by
  obtain ⟨expired, -, h⟩ := bind_eq_ok.1 h
  by_cases hexpired : expired = false
  · rw [if_pos hexpired] at h
    exact .inl (Except.ok.inj h ▸ rejectRecovery_unchanged _)
  by_cases hactive : r.active = false
  · rw [if_neg hexpired, if_pos hactive] at h
    exact .inl (Except.ok.inj h ▸ rejectRecovery_unchanged _)
  rw [if_neg hexpired, if_neg hactive] at h
  rw [WorkerReservation.active, Bool.not_eq_false, Option.isNone_iff_eq_none] at hactive
  obtain ⟨a, hobserve, h⟩ := bind_eq_ok.1 h
  by_cases happly : a.decision ≠ .apply
  · rw [if_pos happly] at h
    exact .inl (Except.ok.inj h ▸ rejectRecovery_unchanged _)
  rw [if_neg happly] at h
  obtain ⟨pool, hpool, h⟩ := bind_eq_ok.1 h
  obtain ⟨ledger', hledger, h⟩ := bind_eq_ok.1 h
  obtain rfl := Except.ok.inj h
  obtain ⟨r', hreleased⟩ := releaseWorkerSlot_active hr hactive hpool
  rcases applyLeaseObservation_cases hobserve with ⟨hne, -⟩ | ⟨-, hobserved⟩
  · exact absurd hne happly
  · exact .inr ⟨r', _, rfl, rfl, rfl, ⟨hreleased, hobserved, rfl, rfl, hlease, hworker⟩, hpool,
      ⟨Nat.succ_pos _, rfl⟩, ⟨a, hobserve, not_not.1 happly, rfl⟩,
      (makeReceiptLedger_eq_ok hledger).1⟩

/-! ### Recoveries with a receipt -/

theorem replayRecovery_cases
    (h : replayRecovery sha256 attempts p ledger s plan r fingerprint x = .ok res) :
    res.Unchanged p s ledger ∨
      res.decision = .replayExisting ∧ res.ledger = ledger ∧ x.recoveryFingerprint = fingerprint ∧
        resumeRecovery sha256 p s r x = .ok (.inr (res.pool, res.leaseState)) ∧
        plannedAttempt plan attempts x.nextAttemptId = .ok res.nextAttempt := by
  unfold replayRecovery at h
  by_cases hfp : x.recoveryFingerprint ≠ fingerprint
  · rw [if_pos hfp] at h
    exact .inl (Except.ok.inj h ▸ ⟨.inl rfl, rfl, rfl, rfl, rfl⟩)
  rw [if_neg hfp] at h
  by_cases hobs : (x.observation sha256 s.lease).fingerprint sha256 ≠ x.leaseObservationFingerprint
  · rw [if_pos hobs] at h
    exact .inl (Except.ok.inj h ▸ rejectRecovery_unchanged _)
  rw [if_neg hobs] at h
  obtain ⟨resumed, hresumed, h⟩ := bind_eq_ok.1 h
  cases resumed with
  | inl text => exact .inl (Except.ok.inj h ▸ rejectRecovery_unchanged _)
  | inr states =>
    obtain ⟨next, hnext, h⟩ := bind_eq_ok.1 h
    obtain ⟨_, -, h⟩ := bind_eq_ok.1 h
    obtain rfl := Except.ok.inj h
    exact .inr ⟨rfl, rfl, not_not.1 hfp, hresumed, hnext⟩

/-- The recovery was answered from the receipt `x`. -/
structure RepeatedRecovery (sha256 : String → Digest) (attempts : List RunAttempt)
    (p : WorkerPoolState) (ledger : WorkerRecoveryLedger) (s : LeaseObservationState)
    (latest : RunAttempt) (plan : RecoveryPlan) (r : WorkerReservation) (fingerprint : Digest)
    (x : WorkerRecoveryRecord) (res : WorkerRecoveryResolution) : Prop where
  mem : x ∈ ledger.records
  attemptId : x.attemptId = latest.attemptId
  decision : res.decision = .replayExisting
  ledger_eq : res.ledger = ledger
  fingerprint_eq : x.recoveryFingerprint = fingerprint
  resume : resumeRecovery sha256 p s r x = .ok (.inr (res.pool, res.leaseState))
  next_eq : plannedAttempt plan attempts x.nextAttemptId = .ok res.nextAttempt

theorem resolveWorkerRecovery_cases
    (h : resolveWorkerRecovery sha256 attempts admissions s p ledger reason observedAt policy
      nextAttemptId = .ok res) : res.Unchanged p s ledger ∨
      ∃ latest r plan next, PlannedRecovery attempts admissions s p reason observedAt policy
        nextAttemptId latest r plan next ∧
        ((∃ x, RepeatedRecovery sha256 attempts p ledger s latest plan r
            (plannedFingerprint sha256 latest r plan reason next) x res) ∨
          ∃ r' o, RecoveredSlot sha256 p ledger s latest plan reason next r r'
            (plannedFingerprint sha256 latest r plan reason next) observedAt o res) := by
  rcases resolveWorkerRecovery_planned h with hun | ⟨latest, r, plan, next, hplanned⟩
  · exact .inl hun
  rw [resolveWorkerRecovery_of hplanned] at h
  cases hreceipt : ledger.receipt latest.attemptId with
  | some x =>
    obtain ⟨hx, hattempt⟩ := receipt_eq_some.1 hreceipt
    simp only [hreceipt] at h
    rcases replayRecovery_cases h with hun | ⟨hd, hledger, hfp, hresume, hnext⟩
    · exact .inl hun
    · exact .inr ⟨latest, r, plan, next, hplanned,
        .inl ⟨x, hx, hattempt, hd, hledger, hfp, hresume, hnext⟩⟩
  | none =>
    simp only [hreceipt] at h
    rcases releaseRecoveredWorker_cases hplanned.reservation
      (hplanned.lease.trans hplanned.attemptId.symm) hplanned.pool h with hun | hslot
    · exact .inl hun
    · exact .inr ⟨latest, r, plan, next, hplanned, .inr hslot⟩

end

end ChartingPlatform
