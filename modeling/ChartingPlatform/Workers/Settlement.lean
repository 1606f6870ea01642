/-
  Settlements (`worker_settlement.py`): the release of a worker slot and its lease after
  the execution was handed off.
-/
import ChartingPlatform.Workers.Admission

namespace ChartingPlatform

open Lib List

/-! ## Closing a slot -/

/-- What the receipts of settlements and recoveries record of the release. -/
structure ClosingReceipt where
  attemptId : String
  reservationId : Digest
  leaseObservationFingerprint : Digest
  releasedAt : Instant
  deriving DecidableEq

/-- The active slot `r` of `p` and the lease of `s` are released at `time`: the slot is `r'` now,
    and the lease carries the observation `o`. -/
structure SlotClosed (p : WorkerPoolState) (s : LeaseObservationState)
    (r r' : WorkerReservation) (o : LeaseObservation) (time : Instant) (q : WorkerPoolState)
    (t : LeaseObservationState) : Prop where
  released : Released p r r' time q
  observed : ObservedLease s o t
  kind : o.kind = .release
  observedAt : o.observedAt = time
  attemptId : s.lease.attemptId = r.attemptId
  workerId : s.lease.workerId = p.profile.workerId

def closingReceipt (sha256 : String → Digest) (r : WorkerReservation) (o : LeaseObservation)
    (time : Instant) : ClosingReceipt :=
  ⟨r.attemptId, r.reservationId, o.fingerprint sha256, time⟩

def WorkerPoolState.reservationOf (p : WorkerPoolState) (id : Digest) (attempt : String) :
    Option WorkerReservation :=
  p.reservations.find? fun r => decide (r.reservationId = id ∧ r.attemptId = attempt)

theorem reservationOf_eq_some {p : WorkerPoolState} {id : Digest} {attempt : String}
    {r : WorkerReservation} : p.reservationOf id attempt = some r ↔
      r ∈ p.reservations ∧ r.reservationId = id ∧ r.attemptId = attempt := by
  unfold WorkerPoolState.reservationOf
  constructor
  · intro h
    exact ⟨mem_of_find?_eq_some h, by simpa using find?_some h⟩
  · rintro ⟨hr, hid, hattempt⟩
    obtain ⟨x, hx⟩ : ∃ x, (p.reservations.find? fun r =>
        decide (r.reservationId = id ∧ r.attemptId = attempt)) = some x := by
      rw [← Option.isSome_iff_exists, find?_isSome]
      exact ⟨r, hr, decide_eq_true ⟨hid, hattempt⟩⟩
    have hxid : x.reservationId = id ∧ x.attemptId = attempt := by simpa using find?_some hx
    rw [hx, inj_on_of_nodup_map p.unique_ids (mem_of_find?_eq_some hx) hr
      (hxid.1.trans hid.symm)]

/-! ## Receipts -/

/-- `ExecutionOrchestrationPlan`: what binds it to an admission. -/
structure ExecutionOrchestrationPlan where
  admissionFingerprint : Digest
  attemptId : String
  workerId : String
  deriving DecidableEq

/-- `WorkerExecutionResolution`, with its `fingerprint`. -/
structure WorkerExecutionResolution where
  orchestrationPlan : ExecutionOrchestrationPlan
  fingerprint : Digest
  deriving DecidableEq

/-- `WorkerSettlementRecord`. -/
@[ext]
structure WorkerSettlementRecord where
  settlementFingerprint : Digest
  admissionFingerprint : Digest
  workerExecutionFingerprint : Digest
  attemptId : String
  reservationId : Digest
  workerId : String
  leaseObservationFingerprint : Digest
  releasedAt : Instant
  attemptId_notBlank : notBlank attemptId = true
  workerId_notBlank : notBlank workerId = true

def WorkerSettlementRecord.closing (x : WorkerSettlementRecord) : ClosingReceipt :=
  ⟨x.attemptId, x.reservationId, x.leaseObservationFingerprint, x.releasedAt⟩

def WorkerSettlementRecord.identity : ReceiptIdentity WorkerSettlementRecord where
  fingerprint := settlementFingerprint
  attemptId := attemptId
  reservationId := reservationId

/-- `WorkerSettlementLedger`. -/
abbrev WorkerSettlementLedger := ReceiptLedger WorkerSettlementRecord.identity

/-- `WorkerSettlementLedger.__post_init__`. -/
def makeWorkerSettlementLedger : List WorkerSettlementRecord →
    Except PyError WorkerSettlementLedger :=
  makeReceiptLedger WorkerSettlementRecord.identity "settlement fingerprints must be unique"
    "an attempt may have only one worker settlement"
    "a reservation may have only one worker settlement"

/-! ## Settlements -/

/-- `WorkerSettlementDecision`. -/
inductive WorkerSettlementDecision where
  | released | replayExisting | conflict | reject
  deriving DecidableEq, Repr

/-- `WorkerSettlementResolution`. -/
structure WorkerSettlementResolution where
  decision : WorkerSettlementDecision
  ledger : WorkerSettlementLedger
  pool : WorkerPoolState
  leaseState : LeaseObservationState
  settlementFingerprint : Digest
  record : Option WorkerSettlementRecord := none
  rejectionReason : Option String := none
  observation : Option LeaseObservation := none
  record_of : decision = .released ∨ decision = .replayExisting →
    record ≠ none ∧ observation ≠ none := by simp
  reason_iff : rejectionReason.isSome = true ↔ decision = .conflict ∨ decision = .reject := by simp

/-- The first gate that a settlement of a bound plan fails. -/
def settlementGate (p : WorkerPoolState) (admission : ExecutionAdmission)
    (execution : WorkerExecutionResolution) (l : ExecutionAttemptLease) : Option String :=
  if execution.orchestrationPlan.attemptId ≠ admission.attemptId then
    some "orchestration plan and admission reference different attempts"
  else if execution.orchestrationPlan.workerId ≠ admission.workerId then
    some "orchestration plan and admission reference different workers"
  else if admission.workerId ≠ p.profile.workerId then
    some "admission is bound to a different worker pool"
  else if admission.workerKind ≠ p.profile.kind then
    some "admission kind does not match the worker pool"
  else if admission.workerProfileFingerprint ≠ p.profile.runtimeProfileFingerprint then
    some "admission profile does not match the worker pool"
  else if l.attemptId ≠ admission.attemptId then
    some "lease and admission reference different attempts"
  else if l.workerId ≠ admission.workerId then
    some "lease and admission reference different workers"
  else none

/-- `settlement_fingerprint`. -/
def settlementFingerprint (sha256 : String → Digest) (admission : ExecutionAdmission)
    (execution : WorkerExecutionResolution) (releasedAt : Instant) : Digest :=
  digest sha256 (.mapping
    [(.str "admission_fingerprint", .str (admission.fingerprint sha256).text),
      (.str "attempt_id", .str admission.attemptId),
      (.str "released_at", .datetime (.utc releasedAt)),
      (.str "reservation_id", .str admission.reservationId.text),
      (.str "worker_execution_fingerprint", .str execution.fingerprint.text)])

/-- `_release_observation`. -/
def settlementReleaseObservation (sha256 : String → Digest) (s : LeaseObservationState)
    (fingerprint : Digest) (releasedAt : Instant) : LeaseObservation :=
  releaseObservation s.lease
    (digest sha256 (.mapping
      [(.str "kind", LeaseObservationKind.release.toPy),
        (.str "lease_id", .str s.lease.leaseId),
        (.str "settlement_fingerprint", .str fingerprint.text)]))
    (s.lastSequence + 1) s.next_pos releasedAt

/-- `_reject`. -/
def rejectSettlement (sha256 : String → Digest) (ledger : WorkerSettlementLedger)
    (p : WorkerPoolState) (reason : String) (s : LeaseObservationState) :
    WorkerSettlementResolution :=
  { decision := .reject, ledger := ledger, pool := p, leaseState := s
    settlementFingerprint := digest sha256 (.mapping [(.str "reason", .str reason)])
    rejectionReason := some reason }

/-- The answer to an attempt that has its receipt. -/
def replaySettlement (sha256 : String → Digest) (ledger : WorkerSettlementLedger)
    (p : WorkerPoolState) (r : WorkerReservation) (fingerprint : Digest)
    (s : LeaseObservationState) (existing : WorkerSettlementRecord) : WorkerSettlementResolution :=
  if existing.settlementFingerprint ≠ fingerprint then
    { decision := .conflict, ledger := ledger, pool := p, leaseState := s
      settlementFingerprint := fingerprint
      rejectionReason := some "attempt is already bound to different worker settlement content" }
  else if r.active = true then
    rejectSettlement sha256 ledger p
      "settlement receipt exists but worker reservation is still active" s
  else if r.releasedAt ≠ some existing.releasedAt then
    rejectSettlement sha256 ledger p
      "worker reservation release time differs from settlement receipt" s
  else
    match s.appliedObservations.find? fun o =>
      decide (o.fingerprint sha256 = existing.leaseObservationFingerprint) with
    | none =>
      rejectSettlement sha256 ledger p
        "settlement receipt exists but lease release observation is missing" s
    | some o =>
      { decision := .replayExisting, ledger := ledger, pool := p, leaseState := s
        settlementFingerprint := fingerprint, record := some existing, observation := some o }

def settlementRecord (sha256 : String → Digest) (admission : ExecutionAdmission)
    (execution : WorkerExecutionResolution) (fingerprint : Digest) (o : LeaseObservation)
    (releasedAt : Instant) : WorkerSettlementRecord where
  settlementFingerprint := fingerprint
  admissionFingerprint := admission.fingerprint sha256
  workerExecutionFingerprint := execution.fingerprint
  attemptId := admission.attemptId
  reservationId := admission.reservationId
  workerId := admission.workerId
  leaseObservationFingerprint := o.fingerprint sha256
  releasedAt := releasedAt
  attemptId_notBlank := admission.attemptId_notBlank
  workerId_notBlank := admission.workerId_notBlank

def releaseSettledWorker (sha256 : String → Digest) (ledger : WorkerSettlementLedger)
    (p : WorkerPoolState) (admission : ExecutionAdmission) (execution : WorkerExecutionResolution)
    (r : WorkerReservation) (fingerprint : Digest) (s : LeaseObservationState)
    (releasedAt : Instant) : Except PyError WorkerSettlementResolution :=
  match s.lease.statusAt releasedAt with
  | .error e => .ok (rejectSettlement sha256 ledger p e.message s)
  | .ok .expired =>
    .ok (rejectSettlement sha256 ledger p "expired leases require worker recovery" s)
  | .ok .released =>
    .ok (rejectSettlement sha256 ledger p
      "lease is already released without a settlement receipt" s)
  | .ok .active => do
    let o := settlementReleaseObservation sha256 s fingerprint releasedAt
    let res ← applyLeaseObservation sha256 s o
    if res.decision ≠ .apply then
      return rejectSettlement sha256 ledger p
        (res.rejectionReason.getD "lease release observation was rejected") s
    else
      let pool ← releaseWorkerSlot p r.reservationId releasedAt
      let record := settlementRecord sha256 admission execution fingerprint o releasedAt
      let next ← makeWorkerSettlementLedger (ledger.records ++ [record])
      return { decision := .released, ledger := next, pool := pool, leaseState := res.state
               settlementFingerprint := fingerprint, record := some record
               observation := some o }

def settleReservation (sha256 : String → Digest) (ledger : WorkerSettlementLedger)
    (p : WorkerPoolState) (admission : ExecutionAdmission) (execution : WorkerExecutionResolution)
    (r : WorkerReservation) (s : LeaseObservationState) (releasedAt : Instant) :
    Except PyError WorkerSettlementResolution :=
  if releasedAt < r.acquiredAt then
    .ok (rejectSettlement sha256 ledger p "release cannot precede reservation acquisition" s)
  else
    match ledger.receipt admission.attemptId with
    | some existing =>
      .ok (replaySettlement sha256 ledger p r
        (settlementFingerprint sha256 admission execution releasedAt) s existing)
    | none =>
      if r.active = false then
        .ok (rejectSettlement sha256 ledger p
          "worker reservation is already released without a settlement receipt" s)
      else
        releaseSettledWorker sha256 ledger p admission execution r
          (settlementFingerprint sha256 admission execution releasedAt) s releasedAt

/-- `settle_worker_execution`. -/
def settleWorkerExecution (sha256 : String → Digest) (ledger : WorkerSettlementLedger)
    (p : WorkerPoolState) (admission : ExecutionAdmission) (execution : WorkerExecutionResolution)
    (s : LeaseObservationState) (releasedAt : Instant) :
    Except PyError WorkerSettlementResolution :=
  if execution.orchestrationPlan.admissionFingerprint ≠ admission.fingerprint sha256 then
    .ok (rejectSettlement sha256 ledger p "orchestration plan is not bound to the admission" s)
  else
    match settlementGate p admission execution s.lease with
    | some reason => .ok (rejectSettlement sha256 ledger p reason s)
    | none =>
      match p.reservationOf admission.reservationId admission.attemptId with
      | none =>
        .ok (rejectSettlement sha256 ledger p "admission has no matching worker reservation" s)
      | some r => settleReservation sha256 ledger p admission execution r s releasedAt

/-! ## Everything a settlement can do -/

section
variable {sha256 : String → Digest} {ledger : WorkerSettlementLedger} {p : WorkerPoolState}
  {admission : ExecutionAdmission} {execution : WorkerExecutionResolution}
  {s : LeaseObservationState} {releasedAt : Instant} {res : WorkerSettlementResolution}
  {r : WorkerReservation} {fingerprint : Digest} {existing : WorkerSettlementRecord}

def WorkerSettlementResolution.Unchanged (res : WorkerSettlementResolution)
    (ledger : WorkerSettlementLedger) (p : WorkerPoolState) (s : LeaseObservationState) : Prop :=
  res.decision ≠ .released ∧ res.pool = p ∧ res.leaseState = s ∧ res.ledger = ledger

theorem rejectSettlement_unchanged (reason : String) :
    (rejectSettlement sha256 ledger p reason s).Unchanged ledger p s :=
  ⟨nofun, rfl, rfl, rfl⟩

theorem replaySettlement_unchanged :
    (replaySettlement sha256 ledger p r fingerprint s existing).Unchanged ledger p s := by
  unfold replaySettlement
  split_ifs
  · exact ⟨nofun, rfl, rfl, rfl⟩
  · exact rejectSettlement_unchanged _
  · exact rejectSettlement_unchanged _
  · split
    · exact rejectSettlement_unchanged _
    · exact ⟨nofun, rfl, rfl, rfl⟩

/-- The settlement released the slot `r` and recorded it. -/
structure SettledSlot (sha256 : String → Digest) (ledger : WorkerSettlementLedger)
    (p : WorkerPoolState) (s : LeaseObservationState) (res : WorkerSettlementResolution)
    (r r' : WorkerReservation) (o : LeaseObservation) (time : Instant)
    (x : WorkerSettlementRecord) : Prop where
  closed : SlotClosed p s r r' o time res.pool res.leaseState
  closing : x.closing = closingReceipt sha256 r o time
  ledger_iff : ∀ y, y ∈ res.ledger.records ↔ y ∈ ledger.records ∨ y = x
  attempt_new : ∀ y ∈ ledger.records, y.attemptId ≠ r.attemptId

theorem releaseSettledWorker_cases (hr : r ∈ p.reservations) (hid : r.reservationId =
      admission.reservationId) (hattempt : r.attemptId = admission.attemptId)
    (hactive : r.releasedAt = none)
    (hlease : s.lease.attemptId = admission.attemptId ∧ s.lease.workerId = p.profile.workerId)
    (hnew : ∀ x ∈ ledger.records, x.attemptId ≠ admission.attemptId)
    (h : releaseSettledWorker sha256 ledger p admission execution r fingerprint s releasedAt =
      .ok res) : res.Unchanged ledger p s ∨
      res.decision = .released ∧ ∃ r' o x, SettledSlot sha256 ledger p s res r r' o releasedAt x := by
  unfold releaseSettledWorker at h
  split at h
  · exact .inl (Except.ok.inj h ▸ rejectSettlement_unchanged _)
  · exact .inl (Except.ok.inj h ▸ rejectSettlement_unchanged _)
  · exact .inl (Except.ok.inj h ▸ rejectSettlement_unchanged _)
  · obtain ⟨lease, hobserve, h⟩ := bind_eq_ok.1 h
    by_cases happly : lease.decision ≠ .apply
    · rw [if_pos happly] at h
      exact .inl (Except.ok.inj h ▸ rejectSettlement_unchanged _)
    · rw [if_neg happly] at h
      obtain ⟨pool, hpool, h⟩ := bind_eq_ok.1 h
      obtain ⟨next, hnext, h⟩ := bind_eq_ok.1 h
      obtain rfl := Except.ok.inj h
      obtain ⟨r', hreleased⟩ := releaseWorkerSlot_active hr hactive hpool
      obtain ⟨hledger, -⟩ := makeReceiptLedger_eq_ok hnext
      rcases applyLeaseObservation_cases hobserve with ⟨hne, -⟩ | ⟨-, hobserved⟩
      · exact absurd hne happly
      · have hclosing : (settlementRecord sha256 admission execution fingerprint
            (settlementReleaseObservation sha256 s fingerprint releasedAt) releasedAt).closing =
              closingReceipt sha256 r (settlementReleaseObservation sha256 s fingerprint releasedAt)
                releasedAt := by
          rw [closingReceipt, hid, hattempt, WorkerSettlementRecord.closing, settlementRecord]
        exact .inr ⟨rfl, r', _, _, ⟨hreleased, hobserved, rfl, rfl,
          hlease.1.trans hattempt.symm, hlease.2⟩, hclosing, hledger,
          fun y hy => hattempt ▸ hnew y hy⟩

theorem settleReservation_cases (hr : r ∈ p.reservations) (hid : r.reservationId =
      admission.reservationId) (hattempt : r.attemptId = admission.attemptId)
    (hlease : s.lease.attemptId = admission.attemptId ∧ s.lease.workerId = p.profile.workerId)
    (h : settleReservation sha256 ledger p admission execution r s releasedAt = .ok res) :
    res.Unchanged ledger p s ∨
      res.decision = .released ∧ ∃ r' o x, SettledSlot sha256 ledger p s res r r' o releasedAt x := by
  unfold settleReservation at h
  by_cases hearly : releasedAt < r.acquiredAt
  · rw [if_pos hearly] at h
    exact .inl (Except.ok.inj h ▸ rejectSettlement_unchanged _)
  rw [if_neg hearly] at h
  cases hreceipt : ledger.receipt admission.attemptId with
  | some existing =>
    simp only [hreceipt] at h
    exact .inl (Except.ok.inj h ▸ replaySettlement_unchanged)
  | none =>
    simp only [hreceipt] at h
    by_cases hactive : r.active = false
    · rw [if_pos hactive] at h
      exact .inl (Except.ok.inj h ▸ rejectSettlement_unchanged _)
    · rw [if_neg hactive] at h
      rw [WorkerReservation.active, Bool.not_eq_false, Option.isNone_iff_eq_none] at hactive
      exact releaseSettledWorker_cases hr hid hattempt hactive hlease
        (receipt_eq_none.1 hreceipt) h

theorem lease_of_settlementGate
    (h : settlementGate p admission execution s.lease = none) :
    s.lease.attemptId = admission.attemptId ∧ s.lease.workerId = p.profile.workerId := by
  unfold settlementGate at h
  split_ifs at h with _ _ hpool _ _ hattempt hworker
  exact ⟨not_not.1 hattempt, (not_not.1 hworker).trans (not_not.1 hpool)⟩

theorem settleWorkerExecution_cases
    (h : settleWorkerExecution sha256 ledger p admission execution s releasedAt = .ok res) :
    res.Unchanged ledger p s ∨
      res.decision = .released ∧
        ∃ r r' o x, SettledSlot sha256 ledger p s res r r' o releasedAt x := by
  unfold settleWorkerExecution at h
  by_cases hbound : execution.orchestrationPlan.admissionFingerprint ≠ admission.fingerprint sha256
  · rw [if_pos hbound] at h
    exact .inl (Except.ok.inj h ▸ rejectSettlement_unchanged _)
  rw [if_neg hbound] at h
  cases hgate : settlementGate p admission execution s.lease with
  | some reason =>
    simp only [hgate] at h
    exact .inl (Except.ok.inj h ▸ rejectSettlement_unchanged _)
  | none =>
    simp only [hgate] at h
    cases hres : p.reservationOf admission.reservationId admission.attemptId with
    | none =>
      simp only [hres] at h
      exact .inl (Except.ok.inj h ▸ rejectSettlement_unchanged _)
    | some r =>
      obtain ⟨hr, hid, hattempt⟩ := reservationOf_eq_some.1 hres
      simp only [hres] at h
      rcases settleReservation_cases hr hid hattempt (lease_of_settlementGate hgate) h with
        hsame | ⟨hd, hsettled⟩
      · exact .inl hsame
      · exact .inr ⟨hd, r, hsettled⟩

end

end ChartingPlatform
