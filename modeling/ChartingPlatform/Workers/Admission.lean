/-
  The admission of an authorized attempt onto a worker (`admission.py`), and the
  ledgers of receipts.

  The admission, settlement and recovery ledgers differ in the receipts they hold and
  in their messages; they are one structure with parameters.
-/
import ChartingPlatform.Workers.Leases
import ChartingPlatform.Workers.Slots

namespace ChartingPlatform

open Lib List

/-! ## Ledgers -/

structure ReceiptIdentity (α : Type) where
  fingerprint : α → Digest
  attemptId : α → String
  reservationId : α → Digest

def ReceiptIdentity.order {α : Type} (key : ReceiptIdentity α) (record : α) : String :=
  (key.fingerprint record).text

structure ReceiptLedger {α : Type} (key : ReceiptIdentity α) where
  records : List α
  unique_fingerprints : (records.map key.fingerprint).Nodup
  unique_attempts : (records.map key.attemptId).Nodup
  unique_reservations : (records.map key.reservationId).Nodup
  sorted : records.Pairwise fun a b => key.order a < key.order b
  deriving DecidableEq

section
variable {α : Type} {key : ReceiptIdentity α} {rs : List α} {ledger next : ReceiptLedger key}
  {record : α} {m₁ m₂ m₃ : String}

theorem nodup_order (h : (rs.map key.fingerprint).Nodup) : (rs.map key.order).Nodup := by
  have hinj : Function.Injective Digest.text := fun a b h => Digest.text_inj.1 h
  have := h.map hinj
  rwa [map_map] at this

/-- The `__post_init__` of a ledger, with its messages. -/
def makeReceiptLedger (key : ReceiptIdentity α) (fingerprints attempts reservations : String)
    (records : List α) : Except PyError (ReceiptLedger key) :=
  if h₁ : (records.map key.fingerprint).Nodup then
    if h₂ : (records.map key.attemptId).Nodup then
      if h₃ : (records.map key.reservationId).Nodup then
        .ok
          { records := sortBy key.order records
            unique_fingerprints := ((perm_sortBy key.order records).map _).nodup_iff.2 h₁
            unique_attempts := ((perm_sortBy key.order records).map _).nodup_iff.2 h₂
            unique_reservations := ((perm_sortBy key.order records).map _).nodup_iff.2 h₃
            sorted := pairwise_lt_sortBy (nodup_order h₁) }
      else .error (valueError reservations)
    else .error (valueError attempts)
  else .error (valueError fingerprints)

def ReceiptLedger.empty (key : ReceiptIdentity α) : ReceiptLedger key where
  records := []
  unique_fingerprints := nodup_nil
  unique_attempts := nodup_nil
  unique_reservations := nodup_nil
  sorted := List.Pairwise.nil

/-- `next((item for item in records if item.attempt_id == attempt), None)`. -/
def ReceiptLedger.receipt (ledger : ReceiptLedger key) (attempt : String) : Option α :=
  rowWith key.attemptId attempt ledger.records

theorem receipt_eq_some {attempt : String} : ledger.receipt attempt = some record ↔
    record ∈ ledger.records ∧ key.attemptId record = attempt :=
  rowWith_eq_some ledger.unique_attempts

theorem receipt_eq_none {attempt : String} :
    ledger.receipt attempt = none ↔ ∀ r ∈ ledger.records, key.attemptId r ≠ attempt := by
  rw [ReceiptLedger.receipt, rowWith_eq_none, mem_map]
  exact ⟨fun h r hr hid => h ⟨r, hr, hid⟩, fun h ⟨r, hr, hid⟩ => h r hr hid⟩

/-- **A receipt joins a ledger** under a new reservation. -/
theorem makeReceiptLedger_eq_ok
    (h : makeReceiptLedger key m₁ m₂ m₃ (ledger.records ++ [record]) = .ok next) :
    (∀ r, r ∈ next.records ↔ r ∈ ledger.records ∨ r = record) ∧
      ∀ r ∈ ledger.records, key.reservationId r ≠ key.reservationId record := by
  unfold makeReceiptLedger at h
  split_ifs at h with _ _ h₃
  obtain rfl := Except.ok.inj h
  refine ⟨fun r => by rw [mem_sortBy, mem_append, mem_singleton], fun r hr heq => ?_⟩
  rw [map_append, nodup_append] at h₃
  exact h₃.2.2 _ (mem_map_of_mem hr) _ (mem_singleton_self _) heq

theorem makeReceiptLedger_of
    (hf : ∀ r ∈ ledger.records, key.fingerprint r ≠ key.fingerprint record)
    (ha : ∀ r ∈ ledger.records, key.attemptId r ≠ key.attemptId record)
    (hr : ∀ r ∈ ledger.records, key.reservationId r ≠ key.reservationId record) :
    ∃ next, makeReceiptLedger key m₁ m₂ m₃ (ledger.records ++ [record]) = .ok next := by
  have hnodup : ∀ {κ : Type} (f : α → κ), (ledger.records.map f).Nodup →
      (∀ r ∈ ledger.records, f r ≠ f record) → ((ledger.records ++ [record]).map f).Nodup := by
    intro κ f hn hne
    rw [map_append, nodup_append]
    refine ⟨hn, nodup_singleton _, ?_⟩
    rintro a ha b hb rfl
    obtain ⟨r, hr, rfl⟩ := mem_map.1 ha
    exact hne r hr (mem_singleton.1 hb)
  unfold makeReceiptLedger
  rw [dif_pos (hnodup _ ledger.unique_fingerprints hf),
    dif_pos (hnodup _ ledger.unique_attempts ha), dif_pos (hnodup _ ledger.unique_reservations hr)]
  exact ⟨_, rfl⟩

end

/-! ## What an admission reads -/

/-- `ExecutionAuthorization`. -/
@[ext]
structure ExecutionAuthorization where
  trialId : String
  attemptId : String
  sourceDigest : Digest
  trialPreflightFingerprint : Digest
  capabilityPreflightFingerprint : Digest
  leaseId : String
  leaseWorkerId : String
  authorizedAt : Instant
  authoritative : Bool
  trialId_notBlank : notBlank trialId = true
  attemptId_notBlank : notBlank attemptId = true
  leaseId_notBlank : notBlank leaseId = true
  leaseWorkerId_notBlank : notBlank leaseWorkerId = true

/-- `ExecutionAuthorization.fingerprint`. -/
def ExecutionAuthorization.fingerprint (sha256 : String → Digest) (a : ExecutionAuthorization) :
    Digest :=
  digest sha256 (.dataclass "app.strategy_lab_v2.execution.ExecutionAuthorization"
    [({ name := "trial_id" }, .str a.trialId),
      ({ name := "attempt_id" }, .str a.attemptId),
      ({ name := "source_digest" }, .str a.sourceDigest.text),
      ({ name := "trial_preflight_fingerprint" }, .str a.trialPreflightFingerprint.text),
      ({ name := "capability_preflight_fingerprint" }, .str a.capabilityPreflightFingerprint.text),
      ({ name := "lease_id" }, .str a.leaseId),
      ({ name := "lease_worker_id" }, .str a.leaseWorkerId),
      ({ name := "authorized_at" }, .datetime (.utc a.authorizedAt)),
      ({ name := "authoritative" }, .bool a.authoritative)])

/-- `StrategyRuntimeRequest`, with its `fingerprint`. -/
structure StrategyRuntimeRequest where
  fingerprint : Digest
  attemptId : String
  sourceDigest : Digest
  runtimeProfileFingerprint : Digest
  submittedAt : Instant
  deriving DecidableEq

/-- `StrategyRuntimePreflight`; `accepted` is that its decision allows the request. -/
structure StrategyRuntimePreflight where
  requestFingerprint : Digest
  profileFingerprint : Digest
  accepted : Bool
  deriving DecidableEq

def WorkerKind.value : WorkerKind → String
  | .backtest => "backtest"
  | .forward => "forward"

def WorkerKind.toPy (k : WorkerKind) : PyValue :=
  .enum "app.strategy_lab_v2.workers.WorkerKind" (.str k.value)

/-- `ExecutionAdmissionRequest`. -/
@[ext]
structure ExecutionAdmissionRequest where
  authorizationFingerprint : Digest
  runtimeRequestFingerprint : Digest
  attemptId : String
  workerId : String
  workerKind : WorkerKind
  workerProfileFingerprint : Digest
  reservationId : Digest
  requestedAt : Instant
  attemptId_notBlank : notBlank attemptId = true
  workerId_notBlank : notBlank workerId = true

/-- `ExecutionAdmissionRequest.fingerprint`, which leaves the time out. -/
def ExecutionAdmissionRequest.fingerprint (sha256 : String → Digest)
    (r : ExecutionAdmissionRequest) : Digest :=
  digest sha256 (.mapping
    [(.str "attempt_id", .str r.attemptId),
      (.str "authorization_fingerprint", .str r.authorizationFingerprint.text),
      (.str "reservation_id", .str r.reservationId.text),
      (.str "runtime_request_fingerprint", .str r.runtimeRequestFingerprint.text),
      (.str "worker_id", .str r.workerId),
      (.str "worker_kind", r.workerKind.toPy),
      (.str "worker_profile_fingerprint", .str r.workerProfileFingerprint.text)])

/-! ## Receipts -/

/-- `ExecutionAdmission`. -/
@[ext]
structure ExecutionAdmission where
  requestFingerprint : Digest
  authorizationFingerprint : Digest
  runtimeRequestFingerprint : Digest
  attemptId : String
  workerId : String
  workerKind : WorkerKind
  workerProfileFingerprint : Digest
  reservationId : Digest
  admittedAt : Instant
  authoritative : Bool
  attemptId_notBlank : notBlank attemptId = true
  workerId_notBlank : notBlank workerId = true

/-- `ExecutionAdmission.fingerprint`. -/
def ExecutionAdmission.fingerprint (sha256 : String → Digest) (a : ExecutionAdmission) : Digest :=
  digest sha256 (.dataclass "app.strategy_lab_v2.admission.ExecutionAdmission"
    [({ name := "request_fingerprint" }, .str a.requestFingerprint.text),
      ({ name := "authorization_fingerprint" }, .str a.authorizationFingerprint.text),
      ({ name := "runtime_request_fingerprint" }, .str a.runtimeRequestFingerprint.text),
      ({ name := "attempt_id" }, .str a.attemptId),
      ({ name := "worker_id" }, .str a.workerId),
      ({ name := "worker_kind" }, a.workerKind.toPy),
      ({ name := "worker_profile_fingerprint" }, .str a.workerProfileFingerprint.text),
      ({ name := "reservation_id" }, .str a.reservationId.text),
      ({ name := "admitted_at" }, .datetime (.utc a.admittedAt)),
      ({ name := "authoritative" }, .bool a.authoritative)])

def ExecutionAdmission.identity : ReceiptIdentity ExecutionAdmission where
  fingerprint := requestFingerprint
  attemptId := attemptId
  reservationId := reservationId

/-- `ExecutionAdmissionLedger`; its `records` are the `admissions`. -/
abbrev ExecutionAdmissionLedger := ReceiptLedger ExecutionAdmission.identity

/-- `ExecutionAdmissionLedger.__post_init__`. -/
def makeExecutionAdmissionLedger : List ExecutionAdmission →
    Except PyError ExecutionAdmissionLedger :=
  makeReceiptLedger ExecutionAdmission.identity "admission request fingerprints must be unique"
    "an attempt may have only one admission receipt" "admission reservation ids must be unique"

/-! ## Admissions -/

/-- `ExecutionAdmissionDecision`. -/
inductive ExecutionAdmissionDecision where
  | admit_ | replayExisting | saturated | conflict | reject
  deriving DecidableEq, Repr

/-- `ExecutionAdmissionResolution`. -/
structure ExecutionAdmissionResolution where
  decision : ExecutionAdmissionDecision
  ledger : ExecutionAdmissionLedger
  pool : WorkerPoolState
  requestFingerprint : Digest
  admission : Option ExecutionAdmission := none
  rejectionReason : Option String := none
  admission_of : decision = .admit_ ∨ decision = .replayExisting → admission ≠ none := by simp
  reason_iff : rejectionReason.isSome = true ↔ decision = .conflict ∨ decision = .reject := by simp

def admissionRequest (sha256 : String → Digest) (authorization : ExecutionAuthorization)
    (request : StrategyRuntimeRequest) (p : WorkerPoolState) (reservationId : Digest)
    (now : Instant) : ExecutionAdmissionRequest where
  authorizationFingerprint := authorization.fingerprint sha256
  runtimeRequestFingerprint := request.fingerprint
  attemptId := authorization.attemptId
  workerId := p.profile.workerId
  workerKind := p.profile.kind
  workerProfileFingerprint := p.profile.runtimeProfileFingerprint
  reservationId := reservationId
  requestedAt := now
  attemptId_notBlank := authorization.attemptId_notBlank
  workerId_notBlank := p.profile.workerId_notBlank

def admissionGate (authorization : ExecutionAuthorization) (request : StrategyRuntimeRequest)
    (preflight : StrategyRuntimePreflight) (p : WorkerPoolState) (now : Instant) : Option String :=
  if now < authorization.authorizedAt then
    some "admission time cannot precede authorization"
  else if now < request.submittedAt then
    some "admission time cannot precede runtime submission"
  else if authorization.attemptId ≠ request.attemptId then
    some "authorization and runtime request reference different attempts"
  else if authorization.sourceDigest ≠ request.sourceDigest then
    some "authorization and runtime source digests differ"
  else if authorization.leaseWorkerId ≠ p.profile.workerId then
    some "authorization lease is bound to a different worker"
  else if request.runtimeProfileFingerprint ≠ p.profile.runtimeProfileFingerprint then
    some "runtime request profile does not match worker profile"
  else if preflight.requestFingerprint ≠ request.fingerprint then
    some "runtime preflight references a different request"
  else if preflight.profileFingerprint ≠ p.profile.runtimeProfileFingerprint then
    some "runtime preflight profile does not match worker profile"
  else if preflight.accepted = false then some "runtime preflight is not accepted"
  else none

def ExecutionAdmissionRequest.admission (r : ExecutionAdmissionRequest) (reservationId : Digest)
    (authoritative : Bool) (fingerprint : Digest) : ExecutionAdmission where
  requestFingerprint := fingerprint
  authorizationFingerprint := r.authorizationFingerprint
  runtimeRequestFingerprint := r.runtimeRequestFingerprint
  attemptId := r.attemptId
  workerId := r.workerId
  workerKind := r.workerKind
  workerProfileFingerprint := r.workerProfileFingerprint
  reservationId := reservationId
  admittedAt := r.requestedAt
  authoritative := authoritative
  attemptId_notBlank := r.attemptId_notBlank
  workerId_notBlank := r.workerId_notBlank

/-- `resolve_execution_admission`. -/
def resolveExecutionAdmission (sha256 : String → Digest) (ledger : ExecutionAdmissionLedger)
    (authorization : ExecutionAuthorization) (request : StrategyRuntimeRequest)
    (preflight : StrategyRuntimePreflight) (p : WorkerPoolState) (reservationId : Digest)
    (now : Instant) : Except PyError ExecutionAdmissionResolution :=
  let r := admissionRequest sha256 authorization request p reservationId now
  let fingerprint := r.fingerprint sha256
  match admissionGate authorization request preflight p now with
  | some reason =>
    .ok
      { decision := .reject, ledger := ledger, pool := p, requestFingerprint := fingerprint
        rejectionReason := some reason }
  | none =>
    match ledger.receipt r.attemptId with
    | some existing =>
      if existing.requestFingerprint ≠ fingerprint then
        .ok
          { decision := .conflict, ledger := ledger, pool := p, requestFingerprint := fingerprint
            rejectionReason := some "attempt is already bound to different admission content" }
      else if p.activeReservations.any (fun x => decide (x.reservationId = existing.reservationId ∧
          x.attemptId = existing.attemptId)) = false then
        .ok
          { decision := .reject, ledger := ledger, pool := p, requestFingerprint := fingerprint
            rejectionReason := some "admission receipt is missing its active worker reservation" }
      else
        .ok
          { decision := .replayExisting, ledger := ledger, pool := p
            requestFingerprint := fingerprint, admission := some existing }
    | none => do
      let res ← reserveWorkerSlot p r.attemptId r.reservationId now
      if res.decision = .saturated then
        return { decision := .saturated, ledger := ledger, pool := p
                 requestFingerprint := fingerprint }
      else if res.decision = .reject then
        return { decision := .reject, ledger := ledger, pool := p
                 requestFingerprint := fingerprint
                 rejectionReason :=
                   some (res.rejectionReason.getD "worker reservation rejected") }
      else if res.decision = .replayExisting then
        return { decision := .reject, ledger := ledger, pool := p
                 requestFingerprint := fingerprint
                 rejectionReason :=
                   some "worker reservation exists without an admission receipt" }
      else
        match res.reservation with
        | none => .error (valueError "accepted and replay resolutions require a reservation")
        | some x =>
          let admission := r.admission x.reservationId authorization.authoritative fingerprint
          let next ← makeExecutionAdmissionLedger (ledger.records ++ [admission])
          return { decision := .admit_, ledger := next, pool := res.pool
                   requestFingerprint := fingerprint, admission := some admission }

/-! ## Everything an admission can do -/

section
variable {sha256 : String → Digest} {ledger : ExecutionAdmissionLedger}
  {authorization : ExecutionAuthorization} {request : StrategyRuntimeRequest}
  {preflight : StrategyRuntimePreflight} {p : WorkerPoolState} {reservationId : Digest}
  {now : Instant} {res : ExecutionAdmissionResolution}

/-- The attempt was admitted: the receipt `a` joins the ledger, and the active reservation `r` of
    the receipt joins the pool. -/
structure AdmittedAttempt (ledger : ExecutionAdmissionLedger) (p : WorkerPoolState)
    (res : ExecutionAdmissionResolution) (a : ExecutionAdmission) (r : WorkerReservation) :
    Prop where
  admission : res.admission = some a
  ledger_iff : ∀ x, x ∈ res.ledger.records ↔ x ∈ ledger.records ∨ x = a
  attempt_new : ∀ x ∈ ledger.records, x.attemptId ≠ a.attemptId
  reservation_new : ∀ x ∈ ledger.records, x.reservationId ≠ a.reservationId
  poolWorkerId : res.pool.profile.workerId = p.profile.workerId
  pool_iff : ∀ x, x ∈ res.pool.reservations ↔ x ∈ p.reservations ∨ x = r
  workerId : a.workerId = p.profile.workerId
  attemptId : r.attemptId = a.attemptId
  reservationId : r.reservationId = a.reservationId
  releasedAt : r.releasedAt = none

theorem resolveExecutionAdmission_cases
    (h : resolveExecutionAdmission sha256 ledger authorization request preflight p reservationId
      now = .ok res) :
    (res.decision ≠ .admit_ ∧ res.ledger = ledger ∧ res.pool = p) ∨
      res.decision = .admit_ ∧ ∃ a r, AdmittedAttempt ledger p res a r := by
  unfold resolveExecutionAdmission at h
  cases hgate : admissionGate authorization request preflight p now with
  | some reason =>
    simp only [hgate] at h
    exact .inl (Except.ok.inj h ▸ ⟨nofun, rfl, rfl⟩)
  | none =>
    simp only [hgate] at h
    cases hreceipt : ledger.receipt (admissionRequest sha256 authorization request p reservationId
        now).attemptId with
    | some existing =>
      simp only [hreceipt] at h
      split_ifs at h
      · exact .inl (Except.ok.inj h ▸ ⟨nofun, rfl, rfl⟩)
      · exact .inl (Except.ok.inj h ▸ ⟨nofun, rfl, rfl⟩)
      · exact .inl (Except.ok.inj h ▸ ⟨nofun, rfl, rfl⟩)
    | none =>
      simp only [hreceipt] at h
      obtain ⟨slot, hslot, h⟩ := bind_eq_ok.1 h
      by_cases hsat : slot.decision = .saturated
      · rw [if_pos hsat] at h
        exact .inl (Except.ok.inj h ▸ ⟨nofun, rfl, rfl⟩)
      by_cases hrej : slot.decision = .reject
      · rw [if_neg hsat, if_pos hrej] at h
        exact .inl (Except.ok.inj h ▸ ⟨nofun, rfl, rfl⟩)
      by_cases hrep : slot.decision = .replayExisting
      · rw [if_neg hsat, if_neg hrej, if_pos hrep] at h
        exact .inl (Except.ok.inj h ▸ ⟨nofun, rfl, rfl⟩)
      rw [if_neg hsat, if_neg hrej, if_neg hrep] at h
      rcases reserveWorkerSlot_cases hslot with ⟨hne, -⟩ | ⟨-, r, hr⟩
      · cases hd : slot.decision <;> simp_all
      · rw [hr.reservation] at h
        obtain ⟨next, hnext, h⟩ := bind_eq_ok.1 h
        obtain rfl := Except.ok.inj h
        obtain ⟨hledger, hnew⟩ := makeReceiptLedger_eq_ok hnext
        have hworker : slot.pool.profile.workerId = p.profile.workerId := by
          rw [← (slot.pool.matches_profile r ((hr.mem_iff r).2 (.inr rfl))).1, hr.workerId]
        exact .inr ⟨rfl, _, r, rfl, hledger, receipt_eq_none.1 hreceipt, hnew,
          hworker, hr.mem_iff, rfl, hr.attemptId, rfl, hr.releasedAt⟩

end

end ChartingPlatform
