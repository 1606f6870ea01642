/-
  The rows of the forward-state tables (`postgres_forward_state.py`): what each
  column holds, how a row is read back, and how a live state is loaded.

  The rows of one owner and one instance are kept together (`ForwardRows`): every
  statement of the adapter selects by both.  A column with JSON ids holds the
  JSON tree; `transition_json` and `result_instance_json` hold the record they are
  the text of; a table with a primary key on the two ids holds at most one row.
-/
import ChartingPlatform.Canonical.Decode
import ChartingPlatform.Forward.Corrections
import ChartingPlatform.Lib.Table

namespace ChartingPlatform

open Lib List

/-! ## Rows -/

/-- A row of `strategy_lab_v2_forward_instances`. -/
structure InstanceRow where
  ownerId : String
  instanceId : String
  portfolioFingerprint : Digest
  warmupSnapshotFingerprint : Digest
  carryInMode : String
  state : String
  lastEventId : Option String
  lastEventSequence : ℕ
  correctionCount : ℕ
  createdAt : String
  updatedAt : String
  processedEventIdsJson : Json
  bufferedEventIdsJson : Json
  correctionEventIdsJson : Json
  duplicateCount : ℕ
  outOfOrderCount : ℕ
  instanceFingerprint : Digest
  checkpointFingerprint : Digest
  deriving DecidableEq

/-- A row of `strategy_lab_v2_forward_warmups`. -/
structure WarmupRow where
  ownerId : String
  instanceId : String
  warmupSnapshotFingerprint : Digest
  carryInMode : String
  warmupResultFingerprint : Digest
  completedAt : String
  finalEventId : Option String
  finalEventSequence : ℕ
  finalEventFingerprint : Option Digest
  receiptFingerprint : Digest
  deriving DecidableEq

/-- A row of `strategy_lab_v2_forward_seen_events`. -/
structure SeenRow where
  ownerId : String
  instanceId : String
  eventId : String
  eventFingerprint : Digest
  sequence : ℕ
  seenFingerprint : Digest
  deriving DecidableEq

/-- A row of `strategy_lab_v2_forward_replays`. -/
structure ReplayRow where
  ownerId : String
  instanceId : String
  replayId : Digest
  correctionEventId : String
  originalEventId : String
  baseCheckpointFingerprint : Digest
  warmupReceiptFingerprint : Digest
  plannedAt : String
  replayFingerprint : Digest
  deriving DecidableEq

/-- A row of `strategy_lab_v2_forward_lifecycle_requests`. -/
structure LifecycleRow where
  ownerId : String
  instanceId : String
  idempotencyKeyDigest : Digest
  requestFingerprint : Digest
  resolutionDecision : String
  resultInstance : ForwardInstance
  resultInstanceFingerprint : Digest
  acceptedAt : String
  receiptFingerprint : Digest
  deriving DecidableEq

/-- A row of `strategy_lab_v2_forward_checkpoint_history`. -/
structure HistoryRow where
  ownerId : String
  instanceId : String
  checkpointFingerprint : Digest
  previousCheckpointFingerprint : Option Digest
  transition : ForwardCheckpointTransition
  transitionFingerprint : Digest
  deriving DecidableEq

structure ForwardRows where
  instanceRow : Option InstanceRow := none
  warmupRow : Option WarmupRow := none
  seenRows : List SeenRow := []
  replayRows : List ReplayRow := []
  lifecycleRows : List LifecycleRow := []
  historyRows : List HistoryRow := []

/-! ## Writing rows -/

/-- `_encode_datetime`. -/
def encodeDatetime (t : Instant) : String := String.ofList (instantText t)

/-- `_encode_ids`. -/
def encodeIds (ids : Finset String) : Json := .arr ((sortedList ids).map .str)

/-- `_checkpoint_values`. -/
def checkpointValues (sha256 : String → Digest) (ownerId : String) (c : ForwardStateCheckpoint) :
    InstanceRow where
  ownerId := ownerId
  instanceId := c.instance_.instanceId
  portfolioFingerprint := c.instance_.portfolioFingerprint
  warmupSnapshotFingerprint := c.instance_.warmupSnapshotFingerprint
  carryInMode := c.instance_.carryInMode.text
  state := c.instance_.state.text
  lastEventId := c.instance_.lastEventId
  lastEventSequence := c.instance_.lastEventSequence
  correctionCount := c.instance_.correctionCount
  createdAt := encodeDatetime c.instance_.createdAt
  updatedAt := encodeDatetime c.instance_.updatedAt
  processedEventIdsJson := encodeIds c.processedEventIds
  bufferedEventIdsJson := encodeIds c.bufferedEventIds
  correctionEventIdsJson := encodeIds c.correctionEventIds
  duplicateCount := c.duplicateCount
  outOfOrderCount := c.outOfOrderCount
  instanceFingerprint := digest sha256 c.instance_.toPy
  checkpointFingerprint := c.fingerprint sha256

/-- `_receipt_values`. -/
def receiptValues (sha256 : String → Digest) (ownerId : String) (r : ForwardWarmupReceipt) :
    WarmupRow where
  ownerId := ownerId
  instanceId := r.instanceId
  warmupSnapshotFingerprint := r.warmupSnapshotFingerprint
  carryInMode := r.carryInMode.text
  warmupResultFingerprint := r.warmupResultFingerprint
  completedAt := encodeDatetime r.completedAt
  finalEventId := r.finalEventId
  finalEventSequence := r.finalEventSequence
  finalEventFingerprint := r.finalEventFingerprint
  receiptFingerprint := r.fingerprint sha256

/-- The values of `_insert_seen_event`. -/
def seenValues (sha256 : String → Digest) (ownerId instanceId : String) (e : ForwardSeenEvent) :
    SeenRow where
  ownerId := ownerId
  instanceId := instanceId
  eventId := e.eventId
  eventFingerprint := e.eventFingerprint
  sequence := e.sequence
  seenFingerprint := digest sha256 e.toPy

/-- `_replay_values`. -/
def replayValues (sha256 : String → Digest) (ownerId : String) (p : CounterfactualReplayPlan) :
    ReplayRow where
  ownerId := ownerId
  instanceId := p.instanceId
  replayId := p.replayId
  correctionEventId := p.correctionEventId
  originalEventId := p.originalEventId
  baseCheckpointFingerprint := p.baseCheckpointFingerprint
  warmupReceiptFingerprint := p.warmupReceiptFingerprint
  plannedAt := encodeDatetime p.plannedAt
  replayFingerprint := p.fingerprint sha256

/-- `ForwardStateMutationDecision`. -/
inductive ForwardStateMutationDecision where
  | applied | replayExisting | conflict | notFound
  deriving DecidableEq, Repr

def ForwardStateMutationDecision.text : ForwardStateMutationDecision → String
  | .applied => "applied"
  | .replayExisting => "replay_existing"
  | .conflict => "conflict"
  | .notFound => "not_found"

/-- `_lifecycle_receipt_fingerprint`. -/
def lifecycleReceiptFingerprint (sha256 : String → Digest) (ownerId instanceId : String)
    (idempotencyKeyDigest requestFingerprint : Digest) (decision : ForwardStateMutationDecision)
    (i : ForwardInstance) (acceptedAt : Instant) : Digest :=
  digest sha256 (.mapping
    [(.str "schema", .str "strategy-lab.forward-lifecycle-receipt.v1"),
      (.str "owner_id", .str ownerId),
      (.str "instance_id", .str instanceId),
      (.str "idempotency_key_digest", .str idempotencyKeyDigest.text),
      (.str "request_fingerprint", .str requestFingerprint.text),
      (.str "decision", .enum
        "app.strategy_lab_v2.postgres_forward_state.ForwardStateMutationDecision"
        (.str decision.text)),
      (.str "result_instance_fingerprint", .str (digest sha256 i.toPy).text),
      (.str "accepted_at", .str (encodeDatetime acceptedAt))])

/-- `_lifecycle_request_values`. -/
def lifecycleRequestValues (sha256 : String → Digest) (ownerId instanceId : String)
    (idempotencyKeyDigest requestFingerprint : Digest) (decision : ForwardStateMutationDecision)
    (i : ForwardInstance) (acceptedAt : Instant) : LifecycleRow where
  ownerId := ownerId
  instanceId := instanceId
  idempotencyKeyDigest := idempotencyKeyDigest
  requestFingerprint := requestFingerprint
  resolutionDecision := decision.text
  resultInstance := i
  resultInstanceFingerprint := digest sha256 i.toPy
  acceptedAt := encodeDatetime acceptedAt
  receiptFingerprint := lifecycleReceiptFingerprint sha256 ownerId instanceId idempotencyKeyDigest
    requestFingerprint decision i acceptedAt

/-! ## Reading rows -/

/-- `_decode_datetime`. -/
def decodeDatetime (value fieldName : String) : Except PyError Instant :=
  orRaise (instantOfText? value.toList) (fieldName ++ " is malformed")

/-- `CarryInMode(value)`. -/
def carryInModeOf (value : String) : Except PyError CarryInMode :=
  orRaise ([CarryInMode.flat, .syntheticHistorical].find? fun m => decide (m.text = value))
    (value ++ " is not a valid CarryInMode")

/-- `ForwardState(value)`. -/
def forwardStateOf (value : String) : Except PyError ForwardState :=
  orRaise ([ForwardState.created, .warmingUp, .active, .paused, .stopped].find?
    fun m => decide (m.text = value)) (value ++ " is not a valid ForwardState")

def idItem? : Json → Option String
  | .str s => if notBlank s = true then some s else none
  | _ => none

/-- `_decode_ids`. -/
def decodeIds (value : Json) (fieldName : String) : Except PyError (Finset String) :=
  match value with
  | .arr items => do
    let ids ← orRaise (items.mapM idItem?) (fieldName ++ " must contain a JSON string list")
    ensure ids.Nodup (valueError (fieldName ++ " must not contain duplicates"))
    return ids.toFinset
  | _ => .error (valueError (fieldName ++ " must contain a JSON string list"))

/-- `ForwardInstance.__post_init__`. -/
def makeInstance (instanceId : String) (portfolioFingerprint warmupSnapshotFingerprint : Digest)
    (carryInMode : CarryInMode) (state : ForwardState) (lastEventId : Option String)
    (lastEventSequence correctionCount : ℕ) (createdAt updatedAt : Instant) :
    Except PyError ForwardInstance :=
  if hid : notBlank instanceId = true then
    if hs : lastEventId = none → lastEventSequence = 0 then
      if ht : createdAt ≤ updatedAt then
        .ok ⟨instanceId, portfolioFingerprint, warmupSnapshotFingerprint, carryInMode, state,
          lastEventId, lastEventSequence, correctionCount, createdAt, updatedAt, hid, hs, ht⟩
      else .error (valueError "updated_at must not precede created_at")
    else .error (valueError "a forward event sequence requires its last_event_id")
  else .error (valueError "instance_id must not be empty")

/-- `_decode_checkpoint`. -/
def decodeCheckpoint (row : InstanceRow) : Except PyError ForwardStateCheckpoint :=
  rewrap (do
    let mode ← carryInModeOf row.carryInMode
    let state ← forwardStateOf row.state
    let createdAt ← decodeDatetime row.createdAt "created_at"
    let updatedAt ← decodeDatetime row.updatedAt "updated_at"
    let i ← makeInstance row.instanceId row.portfolioFingerprint row.warmupSnapshotFingerprint
      mode state row.lastEventId row.lastEventSequence row.correctionCount createdAt updatedAt
    let processed ← decodeIds row.processedEventIdsJson "processed_event_ids_json"
    let buffered ← decodeIds row.bufferedEventIdsJson "buffered_event_ids_json"
    let corrections ← decodeIds row.correctionEventIdsJson "correction_event_ids_json"
    makeCheckpoint i processed buffered corrections row.duplicateCount row.outOfOrderCount)
    "PostgreSQL forward instance row is malformed"

/-- `ForwardWarmupReceipt.__post_init__`. -/
def makeReceipt (instanceId : String) (warmupSnapshotFingerprint : Digest)
    (carryInMode : CarryInMode) (warmupResultFingerprint : Digest) (completedAt : Instant)
    (finalEventId : Option String) (finalEventSequence : ℕ)
    (finalEventFingerprint : Option Digest) : Except PyError ForwardWarmupReceipt :=
  if hid : notBlank instanceId = true then
    if hs : finalEventId = none → finalEventSequence = 0 then
      if hb : ∀ id ∈ finalEventId, notBlank id = true then
        if hf : finalEventFingerprint.isSome = finalEventId.isSome then
          .ok ⟨instanceId, warmupSnapshotFingerprint, carryInMode, warmupResultFingerprint,
            completedAt, finalEventId, finalEventSequence, finalEventFingerprint, hid, hs, hb, hf⟩
        else if finalEventId = none then
          .error (valueError "final_event_fingerprint requires final_event_id")
        else .error (valueError "final_event_id requires final_event_fingerprint")
      else .error (valueError "final_event_id must not be empty")
    else .error (valueError "a non-zero final event sequence requires final_event_id")
  else .error (valueError "instance_id must not be empty")

/-- `_decode_receipt`. -/
def decodeReceipt (row : WarmupRow) : Except PyError ForwardWarmupReceipt :=
  rewrap (do
    let mode ← carryInModeOf row.carryInMode
    let completedAt ← decodeDatetime row.completedAt "completed_at"
    makeReceipt row.instanceId row.warmupSnapshotFingerprint mode row.warmupResultFingerprint
      completedAt row.finalEventId row.finalEventSequence row.finalEventFingerprint)
    "PostgreSQL warm-up row is malformed"

/-- `_decode_seen_event`. -/
def decodeSeenEvent (row : SeenRow) : Except PyError ForwardSeenEvent :=
  if h : notBlank row.eventId = true then
    .ok ⟨row.eventId, row.eventFingerprint, row.sequence, h⟩
  else .error (valueError "PostgreSQL seen event row is malformed")

/-- `_decode_replay`. -/
def decodeReplay (row : ReplayRow) : Except PyError CounterfactualReplayPlan :=
  rewrap (do
    let plannedAt ← decodeDatetime row.plannedAt "planned_at"
    if hi : notBlank row.instanceId = true then
      if hc : notBlank row.correctionEventId = true then
        if ho : notBlank row.originalEventId = true then
          .ok ⟨row.replayId, row.instanceId, row.correctionEventId, row.originalEventId,
            row.baseCheckpointFingerprint, row.warmupReceiptFingerprint, plannedAt, hi, hc, ho⟩
        else .error (valueError "original_event_id must not be empty")
      else .error (valueError "correction_event_id must not be empty")
    else .error (valueError "instance_id must not be empty"))
    "PostgreSQL replay row is malformed"

/-! ## Loading -/

/-- `_load_checkpoint`; the instance is that of the checkpoint. -/
def loadCheckpoint (sha256 : String → Digest) (ownerId instanceId : String) (rows : ForwardRows) :
    Except PyError (Option ForwardStateCheckpoint) :=
  match rows.instanceRow with
  | none => .ok none
  | some row => do
    let c ← decodeCheckpoint row
    ensure (row.ownerId = ownerId ∧ row.instanceId = instanceId)
      (valueError "PostgreSQL forward instance owner/identity drifted")
    ensure (row.instanceFingerprint = digest sha256 c.instance_.toPy)
      (valueError "PostgreSQL forward instance fingerprint does not match bytes")
    ensure (row.checkpointFingerprint = c.fingerprint sha256)
      (valueError "PostgreSQL forward checkpoint fingerprint does not match bytes")
    return some c

/-- `_load_warmup`. -/
def loadWarmup (sha256 : String → Digest) (ownerId instanceId : String) (rows : ForwardRows) :
    Except PyError (Option ForwardWarmupReceipt) :=
  match rows.warmupRow with
  | none => .ok none
  | some row => do
    let r ← decodeReceipt row
    ensure (row.ownerId = ownerId ∧ row.instanceId = instanceId)
      (valueError "PostgreSQL warm-up owner/identity drifted")
    ensure (row.receiptFingerprint = r.fingerprint sha256)
      (valueError "PostgreSQL warm-up fingerprint does not match bytes")
    return some r

/-- One seen event of `_load_live_state`. -/
def loadSeenEvent (sha256 : String → Digest) (ownerId instanceId : String) (row : SeenRow) :
    Except PyError ForwardSeenEvent := do
  let e ← decodeSeenEvent row
  ensure (row.ownerId = ownerId ∧ row.instanceId = instanceId)
    (valueError "PostgreSQL seen event owner/identity drifted")
  ensure (row.eventId = e.eventId)
    (valueError "PostgreSQL seen event identity does not match bytes")
  ensure (row.seenFingerprint = digest sha256 e.toPy)
    (valueError "PostgreSQL seen event fingerprint does not match bytes")
  return e

/-- The seen events of `_load_live_state`, ordered by their ids. -/
def loadSeen (sha256 : String → Digest) (ownerId instanceId : String) (rows : ForwardRows) :
    Except PyError (List ForwardSeenEvent) :=
  collect ((sortBy SeenRow.eventId rows.seenRows).map (loadSeenEvent sha256 ownerId instanceId))

def cursorSeen (i : ForwardInstance) (events : List ForwardSeenEvent) : Prop :=
  ∀ id ∈ i.lastEventId, ∃ e ∈ events, e.eventId = id ∧ e.sequence = i.lastEventSequence

instance (i : ForwardInstance) (events : List ForwardSeenEvent) : Decidable (cursorSeen i events) :=
  inferInstanceAs (Decidable (∀ id ∈ i.lastEventId, _))

def warmupSeen (r : ForwardWarmupReceipt) (events : List ForwardSeenEvent) : Prop :=
  ∀ id ∈ r.finalEventId, ∃ e ∈ events, e.eventId = id ∧
    some e.eventFingerprint = r.finalEventFingerprint

instance (r : ForwardWarmupReceipt) (events : List ForwardSeenEvent) :
    Decidable (warmupSeen r events) :=
  inferInstanceAs (Decidable (∀ id ∈ r.finalEventId, _))

def accountedFor (c : ForwardStateCheckpoint) (events : List ForwardSeenEvent) :
    List ForwardSeenEvent :=
  sortBy ForwardSeenEvent.eventId (events.filter fun e => decide (e.eventId ∈ c.ids))

/-- `_load_live_state` at a checkpoint, beside the current one. -/
def liveStateAt (sha256 : String → Digest) (ownerId instanceId : String) (rows : ForwardRows)
    (current c : ForwardStateCheckpoint) : Except PyError ForwardLiveAdmissionState := do
  ensure (c.instance_.instanceId = instanceId)
    (valueError "PostgreSQL checkpoint history belongs to another instance")
  match ← loadWarmup sha256 ownerId instanceId rows with
  | none => .error (valueError "active forward instance is missing its warm-up receipt")
  | some r =>
    let events ← loadSeen sha256 ownerId instanceId rows
    let ordered := accountedFor c events
    ensure (events = ordered ∨ c.fingerprint sha256 ≠ current.fingerprint sha256)
      (valueError "PostgreSQL seen events are not deterministically ordered")
    ensure (∀ id ∈ c.ids, id ∈ ordered.map ForwardSeenEvent.eventId)
      (valueError "PostgreSQL checkpoint references missing seen events")
    ensure (cursorSeen c.instance_ ordered)
      (valueError "PostgreSQL forward cursor does not match seen event")
    ensure (warmupSeen r ordered)
      (valueError "PostgreSQL warm-up cursor does not match seen event")
    makeLiveState c (r.fingerprint sha256) ordered

/-- `_load_live_state` with the keyword `checkpoint`, the current one unless another is given. -/
def loadLiveStateAt (sha256 : String → Digest) (ownerId instanceId : String) (rows : ForwardRows)
    (checkpoint : Option ForwardStateCheckpoint) :
    Except PyError (Option ForwardLiveAdmissionState) := do
  match ← loadCheckpoint sha256 ownerId instanceId rows with
  | none => return none
  | some current =>
    return some (← liveStateAt sha256 ownerId instanceId rows current (checkpoint.getD current))

/-- `_load_live_state`. -/
def loadLiveState (sha256 : String → Digest) (ownerId instanceId : String) (rows : ForwardRows) :
    Except PyError (Option ForwardLiveAdmissionState) :=
  loadLiveStateAt sha256 ownerId instanceId rows none

/-- One plan of `_load_replays`. -/
def loadReplay (sha256 : String → Digest) (ownerId instanceId : String) (row : ReplayRow) :
    Except PyError CounterfactualReplayPlan := do
  let p ← decodeReplay row
  ensure (row.ownerId = ownerId ∧ row.instanceId = instanceId)
    (valueError "PostgreSQL replay owner/identity drifted")
  ensure (row.replayId = p.replayId)
    (valueError "PostgreSQL replay identity does not match bytes")
  ensure (row.replayFingerprint = p.fingerprint sha256)
    (valueError "PostgreSQL replay fingerprint does not match bytes")
  return p

/-- `_load_replays`, ordered by replay id. -/
def loadReplays (sha256 : String → Digest) (ownerId instanceId : String) (rows : ForwardRows) :
    Except PyError (List CounterfactualReplayPlan) :=
  collect ((sortBy (fun row => row.replayId.text) rows.replayRows).map
    (loadReplay sha256 ownerId instanceId))

/-- `ForwardStateMutationDecision(value)`. -/
def mutationDecisionOf (value : String) : Except PyError ForwardStateMutationDecision :=
  orRaise ([ForwardStateMutationDecision.applied, .replayExisting, .conflict, .notFound].find?
    fun m => decide (m.text = value)) (value ++ " is not a valid ForwardStateMutationDecision")

/-- `_load_lifecycle_request`. -/
def loadLifecycleRequest (sha256 : String → Digest) (ownerId instanceId : String)
    (idempotencyKeyDigest : Digest) (rows : ForwardRows) :
    Except PyError (Option (Digest × ForwardInstance)) :=
  match rowWith LifecycleRow.idempotencyKeyDigest idempotencyKeyDigest rows.lifecycleRows with
  | none => .ok none
  | some row => rewrap (do
    let i := row.resultInstance
    let decision ← mutationDecisionOf row.resolutionDecision
    let acceptedAt ← decodeDatetime row.acceptedAt "accepted_at"
    ensure (decision = .applied ∨ decision = .replayExisting)
      (valueError "persisted lifecycle request has a failed decision")
    ensure (row.ownerId = ownerId ∧ row.instanceId = instanceId ∧ i.instanceId = instanceId ∧
        row.resultInstanceFingerprint = digest sha256 i.toPy)
      (valueError "persisted lifecycle request owner or identity differs")
    ensure (row.receiptFingerprint = lifecycleReceiptFingerprint sha256 ownerId instanceId
        idempotencyKeyDigest row.requestFingerprint decision i acceptedAt)
      (valueError "persisted lifecycle request fingerprint does not match bytes")
    return some (row.requestFingerprint, i))
    "PostgreSQL forward lifecycle request row is malformed"

/-! ## Reading back what was written -/

section
variable {sha256 : String → Digest} {ownerId : String} {rows : ForwardRows}

theorem decodeDatetime_encode (t : Instant) (fieldName : String) :
    decodeDatetime (encodeDatetime t) fieldName = .ok t := by
  rw [decodeDatetime, encodeDatetime, String.toList_ofList, instantOfText?_instantText]
  rfl

theorem carryInModeOf_text (m : CarryInMode) : carryInModeOf m.text = .ok m := by
  cases m <;> rfl

theorem forwardStateOf_text (m : ForwardState) : forwardStateOf m.text = .ok m := by
  cases m <;> rfl

theorem decodeIds_encode {ids : Finset String} (h : NotBlankIds ids) (fieldName : String) :
    decodeIds (encodeIds ids) fieldName = .ok ids := by
  have hitems : ((sortedList ids).map Json.str).mapM idItem? = some (sortedList ids) := by
    have hall : ∀ l : List String, (∀ id ∈ l, notBlank id = true) →
        (l.map Json.str).mapM idItem? = some l := by
      intro l
      induction l with
      | nil => intro _; rfl
      | cons id l ih =>
        intro hl
        rw [map_cons, mapM_cons, ih fun x hx => hl x (mem_cons_of_mem _ hx), idItem?,
          if_pos (hl id mem_cons_self)]
        rfl
    exact hall _ fun id hid => h id (mem_sortedList.1 hid)
  simp only [decodeIds, encodeIds, hitems, orRaise, ok_bind]
  rw [ensure_of (nodup_sortedList ids), ok_bind, toFinset_sortedList]
  rfl

theorem decodeCheckpoint_values (c : ForwardStateCheckpoint) :
    decodeCheckpoint (checkpointValues sha256 ownerId c) = .ok c := by
  have hi : makeInstance c.instance_.instanceId c.instance_.portfolioFingerprint
      c.instance_.warmupSnapshotFingerprint c.instance_.carryInMode c.instance_.state
      c.instance_.lastEventId c.instance_.lastEventSequence c.instance_.correctionCount
      c.instance_.createdAt c.instance_.updatedAt = .ok c.instance_ := by
    rw [makeInstance, dif_pos c.instance_.instanceId_notBlank,
      dif_pos c.instance_.sequence_of_none, dif_pos c.instance_.createdAt_le_updatedAt]
  simp only [decodeCheckpoint, checkpointValues, carryInModeOf_text, forwardStateOf_text,
    decodeDatetime_encode, hi, decodeIds_encode c.processed_notBlank,
    decodeIds_encode c.buffered_notBlank, decodeIds_encode c.corrections_notBlank, ok_bind,
    makeCheckpoint_self, rewrap]

/-- **An instance row comes back** as the checkpoint it was written from. -/
theorem loadCheckpoint_values {c : ForwardStateCheckpoint}
    (h : rows.instanceRow = some (checkpointValues sha256 ownerId c)) :
    loadCheckpoint sha256 ownerId c.instance_.instanceId rows = .ok (some c) := by
  rw [loadCheckpoint, h]
  simp only [decodeCheckpoint_values, ok_bind]
  simp only [checkpointValues, ensure, and_self, if_true, ok_bind, pure_eq_ok]

theorem decodeReceipt_values (r : ForwardWarmupReceipt) :
    decodeReceipt (receiptValues sha256 ownerId r) = .ok r := by
  have hr : makeReceipt r.instanceId r.warmupSnapshotFingerprint r.carryInMode
      r.warmupResultFingerprint r.completedAt r.finalEventId r.finalEventSequence
      r.finalEventFingerprint = .ok r := by
    rw [makeReceipt, dif_pos r.instanceId_notBlank, dif_pos r.sequence_of_none,
      dif_pos r.finalEventId_notBlank, dif_pos r.fingerprint_iff]
  simp only [decodeReceipt, receiptValues, carryInModeOf_text, decodeDatetime_encode, ok_bind, hr,
    rewrap]

/-- **A warm-up row comes back** as the receipt it was written from. -/
theorem loadWarmup_values {r : ForwardWarmupReceipt}
    (h : rows.warmupRow = some (receiptValues sha256 ownerId r)) :
    loadWarmup sha256 ownerId r.instanceId rows = .ok (some r) := by
  rw [loadWarmup, h]
  simp only [decodeReceipt_values, ok_bind]
  simp only [receiptValues, ensure, and_self, if_true, ok_bind, pure_eq_ok]

theorem loadSeenEvent_values {instanceId : String} (e : ForwardSeenEvent) :
    loadSeenEvent sha256 ownerId instanceId (seenValues sha256 ownerId instanceId e) = .ok e := by
  have hd : decodeSeenEvent (seenValues sha256 ownerId instanceId e) = .ok e :=
    dif_pos e.eventId_notBlank
  rw [loadSeenEvent, hd]
  simp only [seenValues, ensure, and_self, if_true, ok_bind, pure_eq_ok]

/-- **Seen rows come back** in the order of their ids. -/
theorem loadSeen_values {instanceId : String} {s : ForwardLiveAdmissionState}
    (h : rows.seenRows.Perm (s.seenEvents.map (seenValues sha256 ownerId instanceId))) :
    loadSeen sha256 ownerId instanceId rows = .ok s.seenEvents := by
  have hsorted : (s.seenEvents.map (seenValues sha256 ownerId instanceId)).Pairwise
      fun a b => a.eventId < b.eventId := by
    rw [pairwise_map]
    exact s.sorted
  have hinj : ∀ a ∈ rows.seenRows, ∀ b ∈ rows.seenRows, a.eventId = b.eventId → a = b := by
    intro a ha b hb hab
    obtain ⟨x, hx, rfl⟩ := mem_map.1 (h.mem_iff.1 ha)
    obtain ⟨y, hy, rfl⟩ := mem_map.1 (h.mem_iff.1 hb)
    rw [seenEvent_unique hx hy hab]
  rw [loadSeen, sortBy_eq_of_perm h hinj, sortBy_of_pairwise hsorted, collect_eq_ok, map_map]
  refine map_congr_left fun e _ => ?_
  exact loadSeenEvent_values e

end

/-! ## Stored states -/

/-- The rows hold a live state: its checkpoint, its warm-up and its seen events, and the
    checkpoint knows only seen events. -/
structure Stored (sha256 : String → Digest) (ownerId : String) (rows : ForwardRows)
    (s : ForwardLiveAdmissionState) : Prop where
  instanceRow : rows.instanceRow = some (checkpointValues sha256 ownerId s.checkpoint)
  warmupRow : ∃ w, rows.warmupRow = some (receiptValues sha256 ownerId w) ∧
    w.instanceId = s.checkpoint.instance_.instanceId ∧
    w.fingerprint sha256 = s.warmupReceiptFingerprint ∧ warmupSeen w s.seenEvents
  seenRows : rows.seenRows.Perm
    (s.seenEvents.map (seenValues sha256 ownerId s.checkpoint.instance_.instanceId))
  known : Known s
  cursor : cursorSeen s.checkpoint.instance_ s.seenEvents

def Settled (s : ForwardLiveAdmissionState) : Prop := s.seenIds ⊆ s.checkpoint.ids

section
variable {sha256 : String → Digest} {ownerId : String} {rows : ForwardRows}
  {s t : ForwardLiveAdmissionState}

theorem accountedFor_eq_iff : s.seenEvents = accountedFor s.checkpoint s.seenEvents ↔ Settled s := by
  constructor
  · intro h id hid
    obtain ⟨x, hx, rfl⟩ := mem_seenIds.1 hid
    rw [h, accountedFor, mem_sortBy, mem_filter] at hx
    exact of_decide_eq_true hx.2
  · intro h
    have hall : s.seenEvents.filter (fun e => decide (e.eventId ∈ s.checkpoint.ids)) =
        s.seenEvents :=
      filter_eq_self.2 fun e he => decide_eq_true (h (mem_seenIds.2 ⟨e, he, rfl⟩))
    rw [accountedFor, hall, sortBy_of_pairwise s.sorted]

theorem makeLiveState_self (s : ForwardLiveAdmissionState) :
    makeLiveState s.checkpoint s.warmupReceiptFingerprint s.seenEvents = .ok s := by
  have hs : sortBy ForwardSeenEvent.eventId s.seenEvents = s.seenEvents :=
    sortBy_of_pairwise s.sorted
  rw [makeLiveState, dif_neg (not_not.2 s.active), dif_neg (not_not.2 (nodup_seenEvents s))]
  congr

theorem liveStateAt_stored (h : Stored sha256 ownerId rows s) :
    liveStateAt sha256 ownerId s.checkpoint.instance_.instanceId rows s.checkpoint s.checkpoint =
      if s.seenEvents = accountedFor s.checkpoint s.seenEvents then .ok s
      else .error (valueError "PostgreSQL seen events are not deterministically ordered") := by
  obtain ⟨w, hw, hwid, hwfp, hwseen⟩ := h.warmupRow
  have hload := loadWarmup_values hw
  rw [hwid] at hload
  rw [liveStateAt, ensure_of rfl, ok_bind, hload, ok_bind]
  simp only [loadSeen_values h.seenRows, ok_bind]
  by_cases hacc : s.seenEvents = accountedFor s.checkpoint s.seenEvents
  · have hids : ∀ id ∈ s.checkpoint.ids, id ∈ s.seenEvents.map ForwardSeenEvent.eventId :=
      fun id hid => mem_toFinset.1 (h.known hid)
    rw [if_pos hacc, ensure_of (Or.inl hacc), ok_bind, ← hacc, ensure_of hids, ok_bind,
      ensure_of h.cursor, ok_bind, ensure_of hwseen, ok_bind, hwfp, makeLiveState_self]
  · rw [if_neg hacc, ensure_of_not, error_bind]
    rintro (h | h)
    exacts [hacc h, h rfl]

theorem loadLiveState_stored (h : Stored sha256 ownerId rows s) :
    loadLiveState sha256 ownerId s.checkpoint.instance_.instanceId rows =
      if s.seenEvents = accountedFor s.checkpoint s.seenEvents then .ok (some s)
      else .error (valueError "PostgreSQL seen events are not deterministically ordered") := by
  rw [loadLiveState, loadLiveStateAt, loadCheckpoint_values h.instanceRow, ok_bind]
  simp only [Option.getD_none, liveStateAt_stored h]
  split_ifs <;> rfl

/-- **A stored live state is loaded** exactly when its checkpoint accounts for every seen event. -/
theorem loadLiveState_iff (h : Stored sha256 ownerId rows s) :
    loadLiveState sha256 ownerId s.checkpoint.instance_.instanceId rows = .ok (some s) ↔
      Settled s := by
  rw [loadLiveState_stored h, ← accountedFor_eq_iff]
  split_ifs with hacc
  · exact iff_of_true rfl hacc
  · exact iff_of_false (by simp) hacc

theorem loaded_eq_stored (h : Stored sha256 ownerId rows s)
    (hl : loadLiveState sha256 ownerId s.checkpoint.instance_.instanceId rows = .ok (some t)) :
    t = s ∧ Settled s := by
  rw [loadLiveState_stored h] at hl
  split_ifs at hl with hacc
  obtain rfl := Option.some.inj (Except.ok.inj hl)
  exact ⟨rfl, accountedFor_eq_iff.1 hacc⟩

end

end ChartingPlatform
