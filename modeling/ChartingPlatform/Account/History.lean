/-
  The stored account and its history (`postgres_forward_account.py`): history
  entries, the two tables, and the calls that write them.

  A column with JSON holds the record that it is the text of.  A call returns
  its resolution with the tables it commits; where it raises, the transaction
  is rolled back.
-/
import ChartingPlatform.Account.Conservation
import ChartingPlatform.Forward.Fingerprints

namespace ChartingPlatform

open Lib

/-! ## History entries -/

structure HistoryFields where
  revision : ℕ
  previousStateFingerprint : Option Digest
  stateFingerprint : Digest
  snapshot : Option ForwardAccountState := none
  event : Option ForwardAccountEvent := none
  executionReceipt : Option ForwardRuntimeExecutionReceipt := none
  baselineCheckpoint : Option ForwardStateCheckpoint := none
  baselineWarmupReceiptFingerprint : Option Digest := none
  deriving DecidableEq

def HistoryFields.checkRoot (enc : AccountEncoding) (f : HistoryFields) : Except PyError Unit := do
  ensure (f.previousStateFingerprint = none)
    (valueError "account history root cannot have a previous state")
  match f.snapshot with
  | none => .error (typeError "account history root requires a ForwardAccountState snapshot")
  | some s =>
    ensure (f.event = none ∧ f.executionReceipt = none)
      (valueError "account history root cannot contain an event")
    ensure (f.stateFingerprint = s.fingerprint enc)
      (valueError "account history root fingerprint differs from its snapshot")
    ensure (∀ c ∈ f.baselineCheckpoint, c.instance_.instanceId = s.instanceId)
      (valueError "account history checkpoint belongs to another instance")
    ensure (f.baselineCheckpoint = none ↔ f.baselineWarmupReceiptFingerprint = none)
      (valueError "account history baseline checkpoint and warm-up receipt are paired")

def HistoryFields.checkTransition (f : HistoryFields) : Except PyError Unit := do
  ensure (f.previousStateFingerprint ≠ none)
    (valueError "account history transition requires its previous state fingerprint")
  match f.event with
  | none => .error (typeError "account history transition requires a ForwardAccountEvent")
  | some e =>
    ensure (f.snapshot = none ∧ f.baselineCheckpoint = none)
      (valueError "account history transitions cannot contain a snapshot")
    ensure (f.baselineWarmupReceiptFingerprint = none)
      (valueError "account history transitions cannot replace their baseline")
    ensure (∀ r ∈ f.executionReceipt, r.Binds e)
      (valueError "account history receipt does not match its event")

/-- `ForwardAccountHistoryEntry.__post_init__`. -/
def HistoryFields.check (enc : AccountEncoding) (f : HistoryFields) : Except PyError Unit :=
  if f.revision = 0 then f.checkRoot enc else f.checkTransition

/-- `ForwardAccountHistoryEntry`. -/
structure ForwardAccountHistoryEntry (enc : AccountEncoding) extends HistoryFields where
  checked : toHistoryFields.check enc = .ok ()

def makeHistoryEntry (enc : AccountEncoding) (f : HistoryFields) :
    Except PyError (ForwardAccountHistoryEntry enc) :=
  match h : f.check enc with
  | .error e => .error e
  | .ok () => .ok ⟨f, h⟩

variable {enc : AccountEncoding}

/-- A field that holds a record or `None`. -/
def optionRecord {α : Type} (toPy : α → PyValue) : Option α → PyValue
  | some a => toPy a
  | none => .none

def ForwardAccountHistoryEntry.toPy (x : ForwardAccountHistoryEntry enc) : PyValue :=
  .dataclass "app.strategy_lab_v2.forward_account.ForwardAccountHistoryEntry"
    [({ name := "revision" }, .int x.revision),
      ({ name := "previous_state_fingerprint" },
        optionText (x.previousStateFingerprint.map Digest.text)),
      ({ name := "state_fingerprint" }, .str x.stateFingerprint.text),
      ({ name := "snapshot" }, optionRecord (ForwardAccountState.toPy enc) x.snapshot),
      ({ name := "event" }, optionRecord (ForwardAccountEvent.toPy enc) x.event),
      ({ name := "execution_receipt" },
        optionRecord ForwardRuntimeExecutionReceipt.toPy x.executionReceipt),
      ({ name := "baseline_checkpoint" },
        optionRecord ForwardStateCheckpoint.toPy x.baselineCheckpoint),
      ({ name := "baseline_warmup_receipt_fingerprint" },
        optionText (x.baselineWarmupReceiptFingerprint.map Digest.text))]

/-- `ForwardAccountHistoryEntry.fingerprint`. -/
def ForwardAccountHistoryEntry.fingerprint (x : ForwardAccountHistoryEntry enc) : Digest :=
  digest enc.sha256 x.toPy

/-! ## The tables -/

/-- A row of `strategy_lab_v2_forward_accounts`. -/
structure AccountRow where
  ownerId : String
  instanceId : String
  state : ForwardAccountState
  stateFingerprint : Digest

/-- A row of `strategy_lab_v2_forward_account_history`. -/
structure AccountHistoryRow (enc : AccountEncoding) where
  ownerId : String
  instanceId : String
  revision : ℕ
  entry : ForwardAccountHistoryEntry enc
  entryFingerprint : Digest

structure AccountRows (enc : AccountEncoding) where
  account : Option AccountRow := none
  history : List (AccountHistoryRow enc) := []

abbrev AccountDb (enc : AccountEncoding) := String × String → AccountRows enc

def emptyAccounts : AccountDb enc := fun _ => {}

/-- `_load`. -/
def loadAccount (db : AccountDb enc) (ownerId instanceId : String) :
    Except PyError (Option ForwardAccountState) :=
  match (db (ownerId, instanceId)).account with
  | none => .ok none
  | some row => do
    ensure (row.ownerId = ownerId ∧ row.instanceId = row.state.instanceId)
      (valueError "PostgreSQL forward account owner/identity drifted")
    ensure (row.stateFingerprint = row.state.fingerprint enc)
      (valueError "PostgreSQL forward account fingerprint does not match bytes")
    return some row.state

/-- The loop of `_load_history` over the rows. -/
def readHistory (ownerId instanceId : String) :
    ℕ → List (AccountHistoryRow enc) → Except PyError (List (ForwardAccountHistoryEntry enc))
  | _, [] => .ok []
  | expected, row :: rows => do
    ensure (row.ownerId = ownerId ∧ row.instanceId = instanceId ∧ row.revision = expected ∧
        row.entry.revision = expected ∧ row.entry.fingerprint = row.entryFingerprint)
      (valueError "PostgreSQL forward account history identity drifted")
    let entries ← readHistory ownerId instanceId (expected + 1) rows
    return row.entry :: entries

/-- `_load_history`. -/
def loadAccountHistory (db : AccountDb enc) (ownerId instanceId : String) :
    Except PyError (List (ForwardAccountHistoryEntry enc)) :=
  readHistory ownerId instanceId 0 (sortBy (·.revision) (db (ownerId, instanceId)).history)

/-- The instance that `_insert_history` files an entry under. -/
def ForwardAccountHistoryEntry.filedUnder (x : ForwardAccountHistoryEntry enc) : Option String :=
  match x.snapshot with
  | some s => some s.instanceId
  | none => x.event.map (·.instanceId)

/-- `_insert_history`. -/
def insertHistory (db : AccountDb enc) (ownerId : String) (x : ForwardAccountHistoryEntry enc) :
    Except PyError (AccountDb enc) :=
  match x.filedUnder with
  -- an entry has a snapshot or an event, by its constructor
  | none => .error (typeError "entry.event is not None")
  | some instanceId =>
    let rows := db (ownerId, instanceId)
    match insertNew (·.revision) ⟨ownerId, instanceId, x.revision, x, x.fingerprint⟩ rows.history with
    | some history => .ok (Function.update db (ownerId, instanceId) { rows with history := history })
    | none =>
      match rowWith (·.revision) x.revision rows.history with
      | none => .error (valueError "PostgreSQL forward account history conflicted with other bytes")
      | some row => do
        ensure (canonicalJson row.entry.toPy = canonicalJson x.toPy ∧
            row.entryFingerprint = x.fingerprint)
          (valueError "PostgreSQL forward account history conflicted with other bytes")
        return db

/-- `_insert`: the primary key admits one row. -/
def insertAccount (db : AccountDb enc) (ownerId : String) (s : ForwardAccountState) :
    Except PyError (AccountDb enc) :=
  let rows := db (ownerId, s.instanceId)
  match rows.account with
  | some _ => .error ⟨.integrityError, "duplicate key value violates unique constraint"⟩
  | none => .ok (Function.update db (ownerId, s.instanceId)
      { rows with account := some ⟨ownerId, s.instanceId, s, s.fingerprint enc⟩ })

/-- `_update`. -/
def updateAccount (db : AccountDb enc) (ownerId : String) (s : ForwardAccountState)
    (expected : Digest) : Except PyError (AccountDb enc) :=
  let rows := db (ownerId, s.instanceId)
  match rows.account with
  | none => .error (valueError "forward account update lost its compare-and-set row")
  | some row =>
    if row.stateFingerprint = expected then
      .ok (Function.update db (ownerId, s.instanceId)
        { rows with account := some { row with state := s, stateFingerprint := s.fingerprint enc } })
    else .error (valueError "forward account update lost its compare-and-set row")

/-! ## Replay -/

/-- Apply a retained event again; the journal fixes what has to come out. -/
def reapply (enc : AccountEncoding) (message : String) (s : ForwardAccountState)
    (e : ForwardAccountEvent) (receipt : Option ForwardRuntimeExecutionReceipt)
    (fingerprint : Digest) : Except PyError ForwardAccountState := do
  let r ← applyForwardAccountEvent unrounded enc s e receipt
  ensure (r.decision = .applied ∧ r.state.fingerprint enc = fingerprint) (valueError message)
  return r.state

/-- The loop of `_replay_history` over the transitions. -/
def replayTransitions : ℕ → ForwardAccountState → List (ForwardAccountHistoryEntry enc) →
    Except PyError ForwardAccountState
  | _, s, [] => .ok s
  | expected, s, x :: xs => do
    ensure (x.revision = expected ∧ x.previousStateFingerprint = some (s.fingerprint enc))
      (valueError "PostgreSQL forward account history chain is discontinuous")
    match x.event with
    | none => .error (valueError "PostgreSQL forward account history transition omitted its event")
    | some e =>
      let s ← reapply enc "PostgreSQL forward account history replay is inconsistent" s e
        x.executionReceipt x.stateFingerprint
      replayTransitions (expected + 1) s xs

/-- `_replay_history`. -/
def replayHistory : List (ForwardAccountHistoryEntry enc) → Except PyError ForwardAccountState
  | [] => .error (valueError "PostgreSQL forward account history is missing its root")
  | root :: transitions =>
    match root.snapshot with
    | none => .error (valueError "PostgreSQL forward account history is missing its root")
    | some s =>
      if root.revision ≠ 0 then
        .error (valueError "PostgreSQL forward account history is missing its root")
      else replayTransitions 1 s transitions

/-! ## Calls -/

/-- `ForwardAccountStateDecision`. -/
inductive ForwardAccountStateDecision where
  | registered | applied | replayExisting | conflict | notFound | outOfOrder | reject
  deriving DecidableEq, Repr

def ForwardAccountStateDecision.failed : ForwardAccountStateDecision → Bool
  | .conflict | .notFound | .outOfOrder | .reject => true
  | .registered | .applied | .replayExisting => false

/-- `ForwardAccountStateResolution`. -/
structure ForwardAccountStateResolution where
  decision : ForwardAccountStateDecision
  state : Option ForwardAccountState
  eventFingerprint : Option Digest := none
  rejectionReason : Option String := none
  executionReceiptFingerprint : Option Digest := none
  reason_iff : rejectionReason.isSome = decision.failed
  confirmed : executionReceiptFingerprint.isSome = true →
    decision = .applied ∨ decision = .replayExisting := by simp

/-- `ForwardAccountStateDecision(resolution.decision.value)`. -/
def ForwardAccountDecision.stored : ForwardAccountDecision → ForwardAccountStateDecision
  | .applied => .applied
  | .replayExisting => .replayExisting
  | .conflict => .conflict
  | .outOfOrder => .outOfOrder
  | .reject => .reject

theorem failed_stored (d : ForwardAccountDecision) : d.stored.failed = d.failed := by
  cases d <;> rfl

def rootFields (enc : AccountEncoding) (s : ForwardAccountState)
    (admission : Option ForwardLiveAdmissionState) : HistoryFields where
  revision := 0
  previousStateFingerprint := none
  stateFingerprint := s.fingerprint enc
  snapshot := some s
  baselineCheckpoint := admission.map (·.checkpoint)
  baselineWarmupReceiptFingerprint := admission.map (·.warmupReceiptFingerprint)

def transitionFields (enc : AccountEncoding) (revision : ℕ) (s t : ForwardAccountState)
    (e : ForwardAccountEvent) (receipt : Option ForwardRuntimeExecutionReceipt) :
    HistoryFields where
  revision := revision
  previousStateFingerprint := some (s.fingerprint enc)
  stateFingerprint := t.fingerprint enc
  event := some e
  executionReceipt := receipt

def fileHistory (db : AccountDb enc) (ownerId : String) (f : HistoryFields) :
    Except PyError (AccountDb enc) := do
  insertHistory db ownerId (← makeHistoryEntry enc f)

/-- `initialize`. -/
def initializeAccount (db : AccountDb enc) (ownerId : String) (s : ForwardAccountState)
    (admission : Option ForwardLiveAdmissionState) :
    Except PyError (ForwardAccountStateResolution × AccountDb enc) := do
  ensure (s.lastEventSequence = -1) (valueError "account initialization requires an empty state")
  ensure (∀ a ∈ admission, a.checkpoint.instance_.instanceId = s.instanceId)
    (valueError "account baseline checkpoint belongs to another instance")
  match ← loadAccount db ownerId s.instanceId with
  | some current =>
    if current = s then do
      let history ← loadAccountHistory db ownerId s.instanceId
      let db ← if history.isEmpty then fileHistory db ownerId (rootFields enc s admission)
        else .ok db
      return ({ decision := .replayExisting, state := some current, reason_iff := rfl }, db)
    else
      return (
        { decision := .conflict
          state := some current
          rejectionReason := some "forward account is already bound to different state"
          reason_iff := rfl }, db)
  | none => do
    let db ← insertAccount db ownerId s
    let db ← fileHistory db ownerId (rootFields enc s admission)
    return ({ decision := .registered, state := some s, reason_iff := rfl }, db)

/-- The history that `apply` continues: a missing root is filed first. -/
def rootedHistory (db : AccountDb enc) (ownerId instanceId : String)
    (current : ForwardAccountState) :
    Except PyError (AccountDb enc × List (ForwardAccountHistoryEntry enc)) := do
  let history ← loadAccountHistory db ownerId instanceId
  if history.isEmpty then
    let db ← fileHistory db ownerId (rootFields enc current none)
    let history ← loadAccountHistory db ownerId instanceId
    return (db, history)
  else return (db, history)

/-- What `apply` writes for an event that was applied to the current state. -/
def storeApplied (db : AccountDb enc) (ownerId : String) (current next : ForwardAccountState)
    (e : ForwardAccountEvent) (receipt : Option ForwardRuntimeExecutionReceipt) :
    Except PyError (AccountDb enc) := do
  let (db, history) ← rootedHistory db ownerId e.instanceId current
  let replayed ← replayHistory history
  ensure (replayed = current) (valueError "forward account history differs from stored state")
  let db ← updateAccount db ownerId next (current.fingerprint enc)
  fileHistory db ownerId (transitionFields enc history.length current next e receipt)

/-- `apply`. -/
def applyAccount (db : AccountDb enc) (ownerId : String) (e : ForwardAccountEvent)
    (receipt : Option ForwardRuntimeExecutionReceipt) :
    Except PyError (ForwardAccountStateResolution × AccountDb enc) := do
  ensure (∀ r ∈ receipt, r.Binds e) (valueError "execution receipt does not match the account event")
  match ← loadAccount db ownerId e.instanceId with
  | none =>
    return (
      { decision := .notFound
        state := none
        eventFingerprint := some e.eventFingerprint
        rejectionReason := some "forward account was not initialized"
        reason_iff := rfl }, db)
  | some current => do
    let r ← applyForwardAccountEvent unrounded enc current e receipt
    let db ← if r.decision = .applied then storeApplied db ownerId current r.state e receipt
      else .ok db
    return (
      { decision := r.decision.stored
        state := some r.state
        eventFingerprint := some e.eventFingerprint
        rejectionReason := r.rejectionReason
        executionReceiptFingerprint :=
          if r.decision.failed then none else receipt.map fun x => digest enc.sha256 x.toPy
        reason_iff := by
          rw [failed_stored]
          exact Bool.eq_iff_iff.2 r.reason_iff
        confirmed := by cases r.decision <;> simp [ForwardAccountDecision.failed,
          ForwardAccountDecision.stored] }, db)

end ChartingPlatform
