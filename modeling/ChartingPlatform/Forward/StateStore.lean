/-
  The forward-state adapter (`postgres_forward_state.py`): the checkpoint
  history, the compare-and-set of an instance row, and the calls that write.

  A call returns its resolution with the rows it commits; where it raises, the
  transaction is rolled back and there are no new rows.
-/
import ChartingPlatform.Forward.StateRows

namespace ChartingPlatform

open Lib

/-! ## Checkpoint history -/

def historyTransition (sha256 : String → Digest) (ownerId instanceId : String) (row : HistoryRow) :
    Except PyError ForwardCheckpointTransition := do
  let t := row.transition
  ensure (row.ownerId = ownerId ∧ row.instanceId = instanceId ∧
      t.instance_.instanceId = instanceId ∧ row.checkpointFingerprint = t.checkpointFingerprint ∧
      row.previousCheckpointFingerprint = t.previousCheckpointFingerprint ∧
      row.transitionFingerprint = t.fingerprint sha256)
    (valueError "PostgreSQL checkpoint-history identity does not match bytes")
  return t

/-- The table `transitions` of `_load_archived_checkpoint`, row by row. -/
def historyTransitions (sha256 : String → Digest) (ownerId instanceId : String) :
    List HistoryRow → List ForwardCheckpointTransition →
      Except PyError (List ForwardCheckpointTransition)
  | [], transitions => .ok transitions
  | row :: rows, transitions => do
    let t ← historyTransition sha256 ownerId instanceId row
    ensure (t.checkpointFingerprint ∉
        transitions.map ForwardCheckpointTransition.checkpointFingerprint)
      (valueError "PostgreSQL checkpoint history contains duplicate fingerprints")
    historyTransitions sha256 ownerId instanceId rows (transitions ++ [t])

/-- The chain from a transition to its root.  The fuel is the number of
    transitions that were not visited: without any, the next one was visited. -/
def parentChain (transitions : List ForwardCheckpointTransition) :
    ℕ → List Digest → ForwardCheckpointTransition →
      Except PyError (List ForwardCheckpointTransition)
  | 0, _, _ => .error (valueError "PostgreSQL checkpoint history contains a cycle")
  | fuel + 1, visited, cursor => do
    ensure (cursor.checkpointFingerprint ∉ visited)
      (valueError "PostgreSQL checkpoint history contains a cycle")
    match cursor.previousCheckpointFingerprint with
    | none => return [cursor]
    | some parent =>
      match rowWith ForwardCheckpointTransition.checkpointFingerprint parent transitions with
      | none => .error (valueError "PostgreSQL checkpoint history is missing a parent")
      | some next =>
        return cursor ::
          (← parentChain transitions fuel (cursor.checkpointFingerprint :: visited) next)

/-- `for transition in reversed(reverse_chain)`. -/
def applyChain (sha256 : String → Digest) :
    List ForwardCheckpointTransition → Except PyError (Option ForwardStateCheckpoint)
  | [] => .ok none
  | t :: chain => do
    let previous ← applyChain sha256 chain
    return some (← t.apply sha256 previous)

/-- `_load_archived_checkpoint`. -/
def loadArchivedCheckpoint (sha256 : String → Digest) (ownerId instanceId : String)
    (checkpointFingerprint : Digest) (rows : ForwardRows) :
    Except PyError (Option ForwardStateCheckpoint) := do
  let transitions ← historyTransitions sha256 ownerId instanceId
    (sortBy (fun row => row.checkpointFingerprint.text) rows.historyRows) []
  match rowWith ForwardCheckpointTransition.checkpointFingerprint checkpointFingerprint
      transitions with
  | none => return none
  | some target =>
    let chain ← parentChain transitions transitions.length [] target
    match ← applyChain sha256 chain with
    | none => .error (valueError "PostgreSQL checkpoint history did not resolve its target")
    | some c =>
      ensure (c.fingerprint sha256 = checkpointFingerprint)
        (valueError "PostgreSQL checkpoint history did not resolve its target")
      return some c

/-- The values of `_insert_checkpoint_transition`. -/
def historyValues (sha256 : String → Digest) (ownerId : String) (t : ForwardCheckpointTransition) :
    HistoryRow where
  ownerId := ownerId
  instanceId := t.instance_.instanceId
  checkpointFingerprint := t.checkpointFingerprint
  previousCheckpointFingerprint := t.previousCheckpointFingerprint
  transition := t
  transitionFingerprint := t.fingerprint sha256

/-- `_insert_checkpoint_transition`: a checkpoint that is archived already must have arisen the
    same way. -/
def insertCheckpointTransition (sha256 : String → Digest) (ownerId : String)
    (t : ForwardCheckpointTransition) (rows : ForwardRows) : Except PyError ForwardRows :=
  match insertNew HistoryRow.checkpointFingerprint (historyValues sha256 ownerId t)
      rows.historyRows with
  | some historyRows => .ok { rows with historyRows := historyRows }
  | none =>
    match rowWith HistoryRow.checkpointFingerprint t.checkpointFingerprint rows.historyRows with
    | none =>
      .error (valueError "PostgreSQL checkpoint transition insert conflicted with other bytes")
    | some row => do
      ensure (row.transition = t ∧ row.transitionFingerprint = t.fingerprint sha256)
        (valueError "PostgreSQL checkpoint transition insert conflicted with other bytes")
      return rows

/-- `_ensure_checkpoint_history_base`. -/
def ensureCheckpointHistoryBase (sha256 : String → Digest) (ownerId : String)
    (c : ForwardStateCheckpoint) (rows : ForwardRows) : Except PyError ForwardRows := do
  match ← loadArchivedCheckpoint sha256 ownerId c.instance_.instanceId (c.fingerprint sha256)
      rows with
  | some archived =>
    ensure (archived = c)
      (valueError "PostgreSQL archived checkpoint differs from current state")
    return rows
  | none =>
    ensure (rows.historyRows = [])
      (valueError "PostgreSQL checkpoint history is missing the current checkpoint")
    insertCheckpointTransition sha256 ownerId
      (← ForwardCheckpointTransition.between sha256 none c) rows

/-! ## Instance rows -/

/-- `_insert_instance`. -/
def insertInstance (sha256 : String → Digest) (ownerId : String) (c : ForwardStateCheckpoint)
    (rows : ForwardRows) : Except PyError ForwardRows := do
  ensure (rows.instanceRow = none)
    (valueError "PostgreSQL forward instance insert lost a uniqueness race")
  insertCheckpointTransition sha256 ownerId (← ForwardCheckpointTransition.between sha256 none c)
    { rows with instanceRow := some (checkpointValues sha256 ownerId c) }

/-- The `UPDATE` of `_update_instance` finds the row it expects. -/
def casMatches (sha256 : String → Digest) (ownerId : String)
    (current next : ForwardStateCheckpoint) (row : InstanceRow) : Prop :=
  row.ownerId = ownerId ∧ row.instanceId = next.instance_.instanceId ∧
    row.instanceFingerprint = digest sha256 current.instance_.toPy ∧
    row.checkpointFingerprint = current.fingerprint sha256

instance (sha256 : String → Digest) (ownerId : String) (current next : ForwardStateCheckpoint)
    (row : InstanceRow) : Decidable (casMatches sha256 ownerId current next row) :=
  inferInstanceAs (Decidable (_ ∧ _ ∧ _ ∧ _))

/-- `_update_instance` to a checkpoint. -/
def updateInstance (sha256 : String → Digest) (ownerId : String)
    (current next : ForwardStateCheckpoint) (rows : ForwardRows) : Except PyError ForwardRows := do
  ensure (next.instance_.instanceId = current.instance_.instanceId)
    (valueError "forward checkpoint update cannot change instance identity")
  let rows ← ensureCheckpointHistoryBase sha256 ownerId current rows
  ensure (∃ row ∈ rows.instanceRow, casMatches sha256 ownerId current next row)
    (valueError "PostgreSQL forward instance compare-and-set lost a race")
  let rows := { rows with instanceRow := some (checkpointValues sha256 ownerId next) }
  if next = current then return rows
  else
    insertCheckpointTransition sha256 ownerId
      (← ForwardCheckpointTransition.between sha256 (some current) next) rows

/-- `_insert_seen_event`. -/
def insertSeenEvent (sha256 : String → Digest) (ownerId instanceId : String)
    (e : ForwardSeenEvent) (rows : ForwardRows) : Except PyError ForwardRows := do
  let seenRows ← orRaise
    (insertNew SeenRow.eventId (seenValues sha256 ownerId instanceId e) rows.seenRows)
    "PostgreSQL seen event insert lost a uniqueness race"
  return { rows with seenRows := seenRows }

/-- `_insert_seen_event` for each of several events. -/
def insertSeenEvents (sha256 : String → Digest) (ownerId instanceId : String) :
    List ForwardSeenEvent → ForwardRows → Except PyError ForwardRows
  | [], rows => .ok rows
  | e :: es, rows => do
    insertSeenEvents sha256 ownerId instanceId es
      (← insertSeenEvent sha256 ownerId instanceId e rows)

/-- `_insert_warmup`. -/
def insertWarmup (sha256 : String → Digest) (ownerId : String) (r : ForwardWarmupReceipt)
    (rows : ForwardRows) : Except PyError ForwardRows := do
  ensure (rows.warmupRow = none) (valueError "PostgreSQL warm-up insert lost a uniqueness race")
  insertSeenEvents sha256 ownerId r.instanceId r.seen
    { rows with warmupRow := some (receiptValues sha256 ownerId r) }

/-- `_insert_replay`. -/
def insertReplay (sha256 : String → Digest) (ownerId : String) (p : CounterfactualReplayPlan)
    (rows : ForwardRows) : Except PyError ForwardRows := do
  let replayRows ← orRaise
    (insertNew ReplayRow.replayId (replayValues sha256 ownerId p) rows.replayRows)
    "PostgreSQL replay insert lost a uniqueness race"
  return { rows with replayRows := replayRows }

/-! ## Installing an instance -/

/-- `ForwardInstanceDecision`. -/
inductive ForwardInstanceDecision where
  | registered | replayExisting | conflict | notFound
  deriving DecidableEq, Repr

/-- `ForwardInstanceResolution`. -/
structure ForwardInstanceResolution where
  decision : ForwardInstanceDecision
  instance_ : Option ForwardInstance
  rejectionReason : Option String := none
  deriving DecidableEq

def instanceConflict (i : ForwardInstance) : ForwardInstanceResolution where
  decision := .conflict
  instance_ := some i
  rejectionReason := some "forward instance identity is already bound to different content"

/-- `_initial_checkpoint`. -/
def initialCheckpoint (i : ForwardInstance) : Except PyError ForwardStateCheckpoint := do
  ensure (i.correctionCount = 0)
    (valueError "a new persisted instance cannot infer prior correction event identities")
  makeCheckpoint i i.lastEventId.toFinset ∅ ∅ 0 0

/-- `ensure_instance`. -/
def ensureInstance (sha256 : String → Digest) (ownerId : String) (i : ForwardInstance)
    (rows : ForwardRows) : Except PyError (ForwardInstanceResolution × ForwardRows) := do
  let c ← initialCheckpoint i
  match ← loadCheckpoint sha256 ownerId i.instanceId rows with
  | some current =>
    if current.instance_ = i then
      return ({ decision := .replayExisting, instance_ := some current.instance_ }, rows)
    else return (instanceConflict current.instance_, rows)
  | none =>
    return ({ decision := .registered, instance_ := some i },
      ← insertInstance sha256 ownerId c rows)

/-- `ForwardStateMutationResolution`. -/
structure ForwardStateMutationResolution where
  decision : ForwardStateMutationDecision
  instance_ : Option ForwardInstance
  rejectionReason : Option String := none
  deriving DecidableEq

def mutationConflict (i : ForwardInstance) (reason : String) : ForwardStateMutationResolution where
  decision := .conflict
  instance_ := some i
  rejectionReason := some reason

/-- `_validate_lifecycle_idempotency_key`. -/
def validateLifecycleIdempotencyKey (value : String) : Except PyError String := do
  let normalized := strip value
  ensure (normalized ≠ "" ∧ normalized.toList.length ≤ 256)
    (valueError "idempotency_key must be non-empty and at most 256 characters")
  ensure (∀ c ∈ normalized.toList, 32 ≤ c.toNat ∧ c.toNat ≠ 127)
    (valueError "idempotency_key must not contain control characters")
  return normalized

/-- The request fingerprint of `transition`. -/
def transitionRequestFingerprint (sha256 : String → Digest) (ownerId instanceId : String)
    (target : ForwardState) (now : Instant) : Digest :=
  digest sha256 (.mapping
    [(.str "owner_id", .str ownerId),
      (.str "instance_id", .str instanceId),
      (.str "target", .enum "app.strategy_lab_v2.contracts.ForwardState" (.str target.text)),
      (.str "now", .str (encodeDatetime now))])

/-- `_insert_lifecycle_request`. -/
def insertLifecycleRequest (row : LifecycleRow) (rows : ForwardRows) :
    Except PyError ForwardRows := do
  let lifecycleRows ← orRaise
    (insertNew LifecycleRow.idempotencyKeyDigest row rows.lifecycleRows)
    "PostgreSQL lifecycle request insert lost a uniqueness race"
  return { rows with lifecycleRows := lifecycleRows }

/-- The instance row with another instance around the same event ids. -/
def moveInstance (sha256 : String → Digest) (ownerId : String) (c : ForwardStateCheckpoint)
    (next : ForwardInstance) (rows : ForwardRows) : Except PyError ForwardRows := do
  updateInstance sha256 ownerId c
    (← makeCheckpoint next c.processedEventIds c.bufferedEventIds c.correctionEventIds
      c.duplicateCount c.outOfOrderCount) rows

/-- `transition`. -/
def transition (sha256 : String → Digest) (ownerId instanceId : String) (target : ForwardState)
    (now : Instant) (idempotencyKey : String) (rows : ForwardRows) :
    Except PyError (ForwardStateMutationResolution × ForwardRows) := do
  ensure (notBlank instanceId = true) (valueError "instance_id must not be empty")
  let key ← validateLifecycleIdempotencyKey idempotencyKey
  let keyDigest := digest sha256 (textMapping [("idempotency_key", key)])
  let request := transitionRequestFingerprint sha256 ownerId instanceId target now
  match ← loadCheckpoint sha256 ownerId instanceId rows with
  | none =>
    return ({ decision := .notFound, instance_ := none,
              rejectionReason := some "forward instance was not found" }, rows)
  | some c =>
    match ← loadLifecycleRequest sha256 ownerId instanceId keyDigest rows with
    | some (existing, i) =>
      if existing ≠ request then
        return (mutationConflict i
          "Idempotency-Key is already bound to different lifecycle content", rows)
      else return ({ decision := .replayExisting, instance_ := some i }, rows)
    | none =>
      if c.instance_.state = target then
        let row := lifecycleRequestValues sha256 ownerId instanceId keyDigest request
          .replayExisting c.instance_ now
        return ({ decision := .replayExisting, instance_ := some c.instance_ },
          ← insertLifecycleRequest row rows)
      else
        match transitionForwardInstance c.instance_ target now with
        | .error e => return (mutationConflict c.instance_ e.message, rows)
        | .ok next =>
          let rows ← moveInstance sha256 ownerId c next rows
          let row := lifecycleRequestValues sha256 ownerId instanceId keyDigest request .applied
            next now
          return ({ decision := .applied, instance_ := some next },
            ← insertLifecycleRequest row rows)

/-- `complete_warmup`. -/
def completeWarmup (sha256 : String → Digest) (ownerId : String) (r : ForwardWarmupReceipt)
    (rows : ForwardRows) : Except PyError (ForwardWarmupResolution × ForwardRows) := do
  match ← loadCheckpoint sha256 ownerId r.instanceId rows with
  | none => .error (valueError "forward instance was not found")
  | some c =>
    let existing ← loadWarmup sha256 ownerId r.instanceId rows
    let res := resolveForwardWarmup sha256 c.instance_ r existing
    if res.decision = .complete then
      match res.receipt with
      | none => .error (valueError "warm-up resolution omitted its receipt")
      | some receipt =>
        let s ← fromWarmup sha256 res.instance_ receipt
        let rows ← updateInstance sha256 ownerId c s.checkpoint rows
        return (res, ← insertWarmup sha256 ownerId receipt rows)
    else return (res, rows)

/-! ## Admitting events -/

/-- The seen events of `next` that are new. -/
def newSeenEvents (s next : ForwardLiveAdmissionState) : List ForwardSeenEvent :=
  next.seenEvents.filter fun e => decide (e.eventId ∉ s.seenIds)

/-- The writes of `admit` and of `transact` for a changed state. -/
def persistState (sha256 : String → Digest) (ownerId instanceId : String)
    (current : ForwardStateCheckpoint) (s next : ForwardLiveAdmissionState) (rows : ForwardRows) :
    Except PyError ForwardRows := do
  let rows ← updateInstance sha256 ownerId current next.checkpoint rows
  insertSeenEvents sha256 ownerId instanceId (newSeenEvents s next) rows

/-- `admit`. -/
def admitEvent (sha256 : String → Digest) (ownerId instanceId : String) (event : CanonicalForwardEvent)
    (o : ForwardEventObservation) (rows : ForwardRows) :
    Except PyError (ForwardAdmissionResolution × ForwardRows) := do
  ensure (notBlank instanceId = true) (valueError "instance_id must not be empty")
  match ← loadLiveState sha256 ownerId instanceId rows with
  | none => .error (valueError "active forward instance was not found")
  | some s =>
    let res ← admitForwardEvent sha256 s event o
    if res.state = s then return (res, rows)
    else
      let id := s.checkpoint.instance_.instanceId
      match ← loadCheckpoint sha256 ownerId id rows with
      | none => .error (valueError "forward instance disappeared during admission")
      | some c => return (res, ← persistState sha256 ownerId id c s res.state rows)

/-- `if resolution.state != state` of `transact`. -/
def stageState (sha256 : String → Digest) (ownerId instanceId : String)
    (s next : ForwardLiveAdmissionState) (rows : ForwardRows) : Except PyError ForwardRows :=
  if next = s then .ok rows
  else persistState sha256 ownerId instanceId s.checkpoint s next rows

/-- The plan that `transact` finds for a command. -/
def existingReplayPlan (sha256 : String → Digest) (s : ForwardLiveAdmissionState)
    (command : Option ForwardCorrectionCommand) (plans : List CounterfactualReplayPlan) :
    Option CounterfactualReplayPlan :=
  match command with
  | none => none
  | some c => rowWith CounterfactualReplayPlan.replayId
      (replayId sha256 s.warmupReceiptFingerprint c) plans

/-- `transact`. -/
def transact (sha256 : String → Digest) (ownerId instanceId : String)
    (event : CanonicalForwardEvent) (o : ForwardEventObservation)
    (command : Option ForwardCorrectionCommand) (rows : ForwardRows) :
    Except PyError (ForwardEventTransactionResolution × ForwardRows) := do
  ensure (notBlank instanceId = true) (valueError "instance_id must not be empty")
  match ← loadLiveState sha256 ownerId instanceId rows with
  | none => .error (valueError "active forward instance was not found")
  | some s =>
    let plans ← loadReplays sha256 ownerId instanceId rows
    let res ← resolveForwardEventTransaction sha256 s event o command
      (existingReplayPlan sha256 s command plans)
    let rows ← stageState sha256 ownerId instanceId s res.state rows
    match res.replayPlan with
    | some p =>
      if res.decision = .correctionAccepted then
        return (res, ← insertReplay sha256 ownerId p rows)
      else return (res, rows)
    | none => return (res, rows)

end ChartingPlatform
