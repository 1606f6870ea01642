/-
  Warm-up receipts (`forward_warmup.py`): the evidence that the historical
  warm-up completed, and the one-time handoff that activates an instance.
-/
import ChartingPlatform.Forward.Lifecycle

namespace ChartingPlatform

open Lib

/-- `ForwardWarmupReceipt`. -/
@[ext]
structure ForwardWarmupReceipt where
  instanceId : String
  warmupSnapshotFingerprint : Digest
  carryInMode : CarryInMode
  warmupResultFingerprint : Digest
  completedAt : Instant
  finalEventId : Option String := none
  finalEventSequence : ℕ := 0
  finalEventFingerprint : Option Digest := none
  instanceId_notBlank : notBlank instanceId = true
  sequence_of_none : finalEventId = none → finalEventSequence = 0
  finalEventId_notBlank : ∀ id ∈ finalEventId, notBlank id = true
  fingerprint_iff : finalEventFingerprint.isSome = finalEventId.isSome

def ForwardWarmupReceipt.toPy (r : ForwardWarmupReceipt) : PyValue :=
  .dataclass "app.strategy_lab_v2.forward_warmup.ForwardWarmupReceipt"
    [({ name := "instance_id" }, .str r.instanceId),
      ({ name := "warmup_snapshot_fingerprint" }, .str r.warmupSnapshotFingerprint.text),
      ({ name := "carry_in_mode" },
        .enum "app.strategy_lab_v2.contracts.CarryInMode" (.str r.carryInMode.text)),
      ({ name := "warmup_result_fingerprint" }, .str r.warmupResultFingerprint.text),
      ({ name := "completed_at" }, .datetime (.utc r.completedAt)),
      ({ name := "final_event_id" }, optionText r.finalEventId),
      ({ name := "final_event_sequence" }, .int r.finalEventSequence),
      ({ name := "final_event_fingerprint" },
        optionText (r.finalEventFingerprint.map Digest.text))]

/-- `ForwardWarmupReceipt.fingerprint`. -/
def ForwardWarmupReceipt.fingerprint (sha256 : String → Digest) (r : ForwardWarmupReceipt) :
    Digest := digest sha256 r.toPy

/-- `ForwardWarmupDecision`. -/
inductive ForwardWarmupDecision where
  | complete | replayExisting | conflict | reject
  deriving DecidableEq, Repr

/-- `ForwardWarmupResolution`. -/
structure ForwardWarmupResolution where
  decision : ForwardWarmupDecision
  instance_ : ForwardInstance
  receipt : Option ForwardWarmupReceipt := none
  rejectionReason : Option String := none
  receipt_of_success : decision = .complete ∨ decision = .replayExisting → receipt.isSome = true
  reason_iff : rejectionReason.isSome = true ↔ decision = .conflict ∨ decision = .reject

def ForwardInstance.warmedUp (i : ForwardInstance) (r : ForwardWarmupReceipt)
    (h : i.updatedAt ≤ r.completedAt) : ForwardInstance :=
  { i with
    state := .active
    lastEventId := r.finalEventId
    lastEventSequence := r.finalEventSequence
    updatedAt := r.completedAt
    sequence_of_none := r.sequence_of_none
    createdAt_le_updatedAt := i.createdAt_le_updatedAt.trans h }

def rejectWarmup (i : ForwardInstance) (r : ForwardWarmupReceipt) (reason : String) :
    ForwardWarmupResolution where
  decision := .reject
  instance_ := i
  receipt := some r
  rejectionReason := some reason
  receipt_of_success := by simp
  reason_iff := by simp

/-- `resolve_forward_warmup`. -/
def resolveForwardWarmup (sha256 : String → Digest) (i : ForwardInstance)
    (r : ForwardWarmupReceipt) (existing : Option ForwardWarmupReceipt) :
    ForwardWarmupResolution :=
  match existing with
  | some e =>
    if e.fingerprint sha256 = r.fingerprint sha256 then
      { decision := .replayExisting, instance_ := i, receipt := some e,
        receipt_of_success := by simp, reason_iff := by simp }
    else
      { decision := .conflict, instance_ := i,
        rejectionReason :=
          some "warm-up receipt identity is already bound to different content",
        receipt_of_success := by simp, reason_iff := by simp }
  | none =>
    if r.instanceId ≠ i.instanceId then
      rejectWarmup i r "warm-up receipt instance does not match the forward instance"
    else if r.warmupSnapshotFingerprint ≠ i.warmupSnapshotFingerprint then
      rejectWarmup i r "warm-up receipt snapshot does not match the forward instance"
    else if r.carryInMode ≠ i.carryInMode then
      rejectWarmup i r "warm-up receipt carry-in mode does not match the forward instance"
    else if i.state ≠ .warmingUp then
      rejectWarmup i r "forward instance must be warming_up for first warm-up completion"
    else if i.lastEventId ≠ none ∨ i.lastEventSequence ≠ 0 then
      rejectWarmup i r "warm-up completion cannot overwrite an existing live cursor"
    else if h : i.updatedAt ≤ r.completedAt then
      { decision := .complete, instance_ := i.warmedUp r h, receipt := some r,
        receipt_of_success := by simp, reason_iff := by simp }
    else rejectWarmup i r "warm-up completion time cannot move backwards"

end ChartingPlatform
