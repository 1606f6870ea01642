/-
  Worker pools (`workers.py`): the serial slot of one worker process, its
  reservations, and the rankings that pick a free slot for an attempt.

  The two rankings differ in the worker kind, the purpose text under the
  tie-break digest and two messages; they are one definition with parameters.
-/
import ChartingPlatform.Dispatch.Outbox

namespace ChartingPlatform

open Lib

/-! ## Profiles and reservations -/

/-- `WorkerKind`. -/
inductive WorkerKind where
  | backtest | forward
  deriving DecidableEq, Repr

/-- `WorkerProfile`. -/
@[ext]
structure WorkerProfile where
  workerId : String
  kind : WorkerKind
  runtimeProfileFingerprint : Digest
  isolationRequired : Bool := true
  engineDisposalRequired : Bool := true
  maxConcurrentNodes : ℕ := 1
  workerId_notBlank : notBlank workerId = true
  maxConcurrentNodes_eq : maxConcurrentNodes = 1 := by rfl

instance : DecidableEq WorkerProfile := fun _ _ => decidable_of_iff' _ WorkerProfile.ext_iff

/-- `WorkerReservation`. -/
@[ext]
structure WorkerReservation where
  reservationId : Digest
  workerId : String
  kind : WorkerKind
  attemptId : String
  acquiredAt : Instant
  releasedAt : Option Instant
  workerId_notBlank : notBlank workerId = true
  attemptId_notBlank : notBlank attemptId = true
  acquiredAt_le : ∀ t ∈ releasedAt, acquiredAt ≤ t

instance : DecidableEq WorkerReservation := fun _ _ => decidable_of_iff' _ WorkerReservation.ext_iff

/-- `WorkerReservation.active`. -/
def WorkerReservation.active (r : WorkerReservation) : Bool := r.releasedAt.isNone

theorem le_of_all {s : Instant} {o : Option Instant}
    (h : o.all (fun t => decide (s ≤ t)) = true) : ∀ t ∈ o, s ≤ t := by
  simpa [Option.all_eq_true] using h

/-- `WorkerReservation.__post_init__`. -/
def makeWorkerReservation (id : Digest) (worker : String) (kind : WorkerKind) (attempt : String)
    (acquiredAt : Instant) (releasedAt : Option Instant) : Except PyError WorkerReservation :=
  if hw : notBlank worker = true then
    if ha : notBlank attempt = true then
      if ht : releasedAt.all (fun t => decide (acquiredAt ≤ t)) = true then
        .ok
          { reservationId := id
            workerId := worker
            kind := kind
            attemptId := attempt
            acquiredAt := acquiredAt
            releasedAt := releasedAt
            workerId_notBlank := hw
            attemptId_notBlank := ha
            acquiredAt_le := le_of_all ht }
      else .error (valueError "reservation release cannot precede acquisition")
    else .error (valueError "attempt_id must not be empty")
  else .error (valueError "worker_id must not be empty")

theorem makeWorkerReservation_eq_ok {id : Digest} {worker : String} {kind : WorkerKind}
    {attempt : String} {acquiredAt : Instant} {releasedAt : Option Instant} {r : WorkerReservation}
    (h : makeWorkerReservation id worker kind attempt acquiredAt releasedAt = .ok r) :
    r.reservationId = id ∧ r.workerId = worker ∧ r.kind = kind ∧ r.attemptId = attempt ∧
      r.acquiredAt = acquiredAt ∧ r.releasedAt = releasedAt := by
  unfold makeWorkerReservation at h
  split_ifs at h
  obtain rfl := Except.ok.inj h
  exact ⟨rfl, rfl, rfl, rfl, rfl, rfl⟩

/-! ## Pools -/

/-- The order that `WorkerPoolState.__post_init__` establishes. -/
def reservationKey (r : WorkerReservation) : String := r.reservationId.text

/-- `WorkerPoolState`. -/
structure WorkerPoolState where
  profile : WorkerProfile
  reservations : List WorkerReservation
  matches_profile : ∀ r ∈ reservations, r.workerId = profile.workerId ∧ r.kind = profile.kind
  unique_ids : (reservations.map (·.reservationId)).Nodup
  serial : (reservations.filter (·.active)).length ≤ profile.maxConcurrentNodes
  sorted : reservations.Pairwise fun a b => reservationKey a < reservationKey b
  deriving DecidableEq

namespace WorkerPoolState

/-- `WorkerPoolState.active_reservations`. -/
def activeReservations (p : WorkerPoolState) : List WorkerReservation :=
  p.reservations.filter (·.active)

def empty (profile : WorkerProfile) : WorkerPoolState where
  profile := profile
  reservations := []
  matches_profile := by simp
  unique_ids := List.nodup_nil
  serial := Nat.zero_le _
  sorted := List.Pairwise.nil

def holds (p : WorkerPoolState) (attempt : String) : Bool :=
  p.reservations.any fun r => r.active && decide (r.attemptId = attempt)

/-- The worker isolates its runs and disposes of their engines. -/
def safe (p : WorkerPoolState) : Bool :=
  p.profile.isolationRequired && p.profile.engineDisposalRequired

end WorkerPoolState

variable {rs : List WorkerReservation}

theorem reservationKey_nodup
    (h : (rs.map (·.reservationId)).Nodup) : (rs.map reservationKey).Nodup := by
  have hinj : Function.Injective Digest.text := fun a b h => Digest.text_inj.1 h
  have := h.map hinj
  rwa [List.map_map] at this

/-- `WorkerPoolState.__post_init__`. -/
def makeWorkerPoolState (profile : WorkerProfile) (reservations : List WorkerReservation) :
    Except PyError WorkerPoolState :=
  if hm : ∀ r ∈ reservations, r.workerId = profile.workerId ∧ r.kind = profile.kind then
    if hu : (reservations.map (·.reservationId)).Nodup then
      if hs : (reservations.filter (·.active)).length ≤ profile.maxConcurrentNodes then
        if ((reservations.filter (·.active)).map (·.attemptId)).Nodup then
          .ok
            { profile := profile
              reservations := sortBy reservationKey reservations
              matches_profile := fun r hr => hm r ((mem_sortBy _).1 hr)
              unique_ids := ((perm_sortBy reservationKey reservations).map _).nodup_iff.2 hu
              serial := ((perm_sortBy reservationKey reservations).filter _).length_eq ▸ hs
              sorted := pairwise_lt_sortBy (reservationKey_nodup hu) }
        else .error (valueError "an attempt cannot hold multiple active worker reservations")
      else .error (valueError "worker pool exceeds its serial capacity")
    else .error (valueError "reservation ids must be unique")
  else .error (valueError "reservations must reference the pool worker and kind")

theorem makeWorkerPoolState_eq_ok {profile : WorkerProfile}
    {p : WorkerPoolState} (h : makeWorkerPoolState profile rs = .ok p) :
    p.profile = profile ∧ ∀ r, r ∈ p.reservations ↔ r ∈ rs := by
  unfold makeWorkerPoolState at h
  split_ifs at h
  obtain rfl := Except.ok.inj h
  exact ⟨rfl, fun r => mem_sortBy _⟩

/-! ## Reserving and releasing -/

/-- `WorkerReservationDecision`. -/
inductive WorkerReservationDecision where
  | accept | replayExisting | saturated | reject
  deriving DecidableEq, Repr

/-- `WorkerReservationResolution`. -/
structure WorkerReservationResolution where
  decision : WorkerReservationDecision
  pool : WorkerPoolState
  reservation : Option WorkerReservation := none
  rejectionReason : Option String := none
  reservation_of : decision = .accept ∨ decision = .replayExisting → reservation ≠ none := by simp
  reason_iff : rejectionReason.isSome = true ↔ decision = .reject := by simp

def WorkerPoolState.rejected (p : WorkerPoolState) (reason : String) :
    WorkerReservationResolution :=
  { decision := .reject, pool := p, rejectionReason := some reason }

/-- `reserve_worker_slot`. -/
def reserveWorkerSlot (p : WorkerPoolState) (attempt : String) (id : Digest)
    (acquiredAt : Instant) : Except PyError WorkerReservationResolution := do
  ensure (notBlank attempt = true) (valueError "attempt_id must not be empty")
  if p.profile.isolationRequired = false then
    return p.rejected "worker isolation is required"
  else if p.profile.engineDisposalRequired = false then
    return p.rejected "engine disposal is required"
  else
    match p.reservations.find? fun r => decide (r.reservationId = id) with
    | some r =>
      if r.attemptId ≠ attempt ∨ r.active = false then
        return p.rejected "reservation id is already bound"
      else
        return { decision := .replayExisting, pool := p, reservation := some r }
    | none =>
      match p.activeReservations.find? fun r => decide (r.attemptId = attempt) with
      | some r => return { decision := .replayExisting, pool := p, reservation := some r }
      | none =>
        if p.profile.maxConcurrentNodes ≤ p.activeReservations.length then
          return { decision := .saturated, pool := p }
        else do
          let r ← makeWorkerReservation id p.profile.workerId p.profile.kind attempt acquiredAt none
          let next ← makeWorkerPoolState p.profile (p.reservations ++ [r])
          return { decision := .accept, pool := next, reservation := some r }

/-- `release_worker_slot`.  The ids are unique, so the reservation with the id is the one at the
    index where the loop stops. -/
def releaseWorkerSlot (p : WorkerPoolState) (id : Digest) (releasedAt : Instant) :
    Except PyError WorkerPoolState :=
  match p.reservations.find? fun r => decide (r.reservationId = id) with
  | none => .error (valueError "reservation_id is not present in the worker pool")
  | some r =>
    if r.active = false then .ok p
    else do
      let updated ← makeWorkerReservation r.reservationId r.workerId r.kind r.attemptId r.acquiredAt
        (some releasedAt)
      makeWorkerPoolState p.profile
        (p.reservations.map fun x => if x.reservationId = id then updated else x)

/-! ## Ranking free slots -/

def stableTieBreak (sha256 : String → Digest) (purpose attempt worker : String) : Digest :=
  digest sha256
    (textMapping [("attempt_id", attempt), ("purpose", purpose), ("worker_id", worker)])

/-- `rank`: the last use, with `datetime.min` where there is none, and the tie-break. -/
def rankKey (sha256 : String → Digest) (purpose attempt : String) (p : WorkerPoolState) :
    Instant ×ₗ String :=
  toLex ((p.reservations.map (·.acquiredAt)).foldr max 0,
    (stableTieBreak sha256 purpose attempt p.profile.workerId).text)

def WorkerPoolState.available (kind : WorkerKind) (p : WorkerPoolState) : Bool :=
  decide (p.profile.kind = kind) && p.safe && p.activeReservations.isEmpty

def rankAvailableWorkerPools (sha256 : String → Digest) (kind : WorkerKind)
    (purpose several misplaced : String) (pools : List WorkerPoolState) (attempt : String) :
    Except PyError (List WorkerPoolState) := do
  ensure (notBlank attempt = true) (valueError "attempt_id must not be empty")
  ensure (pools.map (·.profile.workerId)).Nodup
    (valueError "worker pools must have unique profile identities")
  match pools.filter (·.holds attempt) with
  | [] => .ok (sortBy (rankKey sha256 purpose attempt) (pools.filter (·.available kind)))
  | [p] =>
    if p.profile.kind = kind ∧ p.safe = true then .ok [p] else .error (valueError misplaced)
  | _ :: _ :: _ => .error (valueError several)

/-- `rank_available_backtest_worker_pools`. -/
def rankAvailableBacktestWorkerPools (sha256 : String → Digest) :
    List WorkerPoolState → String → Except PyError (List WorkerPoolState) :=
  rankAvailableWorkerPools sha256 .backtest "strategy-lab-v2-worker-profile-selection-v1"
    "an attempt cannot be reserved on multiple worker profiles"
    "existing attempt reservation is not on a safe backtest worker"

/-- `rank_available_forward_worker_pools`. -/
def rankAvailableForwardWorkerPools (sha256 : String → Digest) :
    List WorkerPoolState → String → Except PyError (List WorkerPoolState) :=
  rankAvailableWorkerPools sha256 .forward "strategy-lab-v2-forward-worker-profile-selection-v1"
    "a forward instance cannot be reserved on multiple worker profiles"
    "existing forward reservation is not on a safe forward worker"

end ChartingPlatform
