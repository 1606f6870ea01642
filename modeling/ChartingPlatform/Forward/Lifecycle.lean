/-
  Forward instances and canonical forward events (`contracts.py`,
  `lifecycle.py`): the instance record, the event, the cursor, the observation
  that classifies an event, and the pure transitions on them.

  Every record carries the facts its `__post_init__` checks, so an observation
  a caller makes up (a forged one) is still an arbitrary value of
  `ForwardEventObservation`.  Datetimes are UTC instants: the constructors
  normalise them.
-/
import ChartingPlatform.Canonical.Injective

namespace ChartingPlatform

open Lib

/-! ## Instances -/

/-- `ForwardState`. -/
inductive ForwardState where
  | created | warmingUp | active | paused | stopped
  deriving DecidableEq, Repr

def ForwardState.text : ForwardState → String
  | .created => "created"
  | .warmingUp => "warming_up"
  | .active => "active"
  | .paused => "paused"
  | .stopped => "stopped"

/-- `CarryInMode`. -/
inductive CarryInMode where
  | flat | syntheticHistorical
  deriving DecidableEq, Repr

def CarryInMode.text : CarryInMode → String
  | .flat => "flat"
  | .syntheticHistorical => "synthetic_historical"

/-- `str | None`. -/
def optionText : Option String → PyValue
  | some s => .str s
  | none => .none

/-- `ForwardInstance`. -/
@[ext]
structure ForwardInstance where
  instanceId : String
  portfolioFingerprint : Digest
  warmupSnapshotFingerprint : Digest
  carryInMode : CarryInMode
  state : ForwardState
  lastEventId : Option String
  lastEventSequence : ℕ
  correctionCount : ℕ
  createdAt : Instant
  updatedAt : Instant
  instanceId_notBlank : notBlank instanceId = true
  sequence_of_none : lastEventId = none → lastEventSequence = 0
  createdAt_le_updatedAt : createdAt ≤ updatedAt

instance : DecidableEq ForwardInstance := fun _ _ => decidable_of_iff' _ ForwardInstance.ext_iff

/-- The sequence number of the live cursor: `-1` before the first event. -/
def ForwardInstance.cursorSequence (i : ForwardInstance) : ℤ :=
  if i.lastEventId = none then -1 else i.lastEventSequence

def ForwardInstance.toPy (i : ForwardInstance) : PyValue :=
  .dataclass "app.strategy_lab_v2.contracts.ForwardInstance"
    [({ name := "instance_id" }, .str i.instanceId),
      ({ name := "portfolio_fingerprint" }, .str i.portfolioFingerprint.text),
      ({ name := "warmup_snapshot_fingerprint" }, .str i.warmupSnapshotFingerprint.text),
      ({ name := "carry_in_mode" },
        .enum "app.strategy_lab_v2.contracts.CarryInMode" (.str i.carryInMode.text)),
      ({ name := "state" },
        .enum "app.strategy_lab_v2.contracts.ForwardState" (.str i.state.text)),
      ({ name := "last_event_id" }, optionText i.lastEventId),
      ({ name := "last_event_sequence" }, .int i.lastEventSequence),
      ({ name := "correction_count" }, .int i.correctionCount),
      ({ name := "created_at" }, .datetime (.utc i.createdAt)),
      ({ name := "updated_at" }, .datetime (.utc i.updatedAt))]

/-- `_FORWARD_TRANSITIONS`. -/
def forwardTransitions : ForwardState → List ForwardState
  | .created => [.warmingUp, .stopped]
  | .warmingUp => [.active, .stopped]
  | .active => [.paused, .stopped]
  | .paused => [.active, .stopped]
  | .stopped => []

/-- `transition_forward_instance`. -/
def transitionForwardInstance (i : ForwardInstance) (target : ForwardState) (now : Instant) :
    Except PyError ForwardInstance :=
  if target ∉ forwardTransitions i.state then
    .error (valueError ("illegal forward transition: " ++ i.state.text ++ " -> " ++ target.text))
  else if h : i.updatedAt ≤ now then
    .ok { i with
      state := target
      updatedAt := now
      createdAt_le_updatedAt := i.createdAt_le_updatedAt.trans h }
  else .error (valueError "forward transition time cannot move backwards")

/-! ## Events, cursors and observations -/

/-- `ForwardEventDisposition`. -/
inductive ForwardEventDisposition where
  | accepted | gap | duplicate | outOfOrder | correction
  deriving DecidableEq, Repr

/-- `CanonicalForwardEvent`. -/
@[ext]
structure CanonicalForwardEvent where
  eventId : String
  sequence : ℕ
  eventTime : Instant
  arrivedAt : Instant
  sourceDigest : Digest
  correctionOf : Option String := none
  eventId_notBlank : notBlank eventId = true
  correctionOf_notBlank : ∀ s ∈ correctionOf, notBlank s = true

def CanonicalForwardEvent.toPy (e : CanonicalForwardEvent) : PyValue :=
  .dataclass "app.strategy_lab_v2.lifecycle.CanonicalForwardEvent"
    [({ name := "event_id" }, .str e.eventId),
      ({ name := "sequence" }, .int e.sequence),
      ({ name := "event_time" }, .datetime (.utc e.eventTime)),
      ({ name := "arrived_at" }, .datetime (.utc e.arrivedAt)),
      ({ name := "source_digest" }, .str e.sourceDigest.text),
      ({ name := "correction_of" }, optionText e.correctionOf)]

/-- `content_digest(event)`. -/
def CanonicalForwardEvent.fingerprint (sha256 : String → Digest) (e : CanonicalForwardEvent) :
    Digest := digest sha256 e.toPy

/-- `ForwardCursor`. -/
structure ForwardCursor where
  lastSequence : ℤ := -1
  lastEventId : Option String := none
  lastEventTime : Option Instant := none
  lower : -1 ≤ lastSequence := by decide
  empty : lastSequence = -1 → lastEventId = none ∧ lastEventTime = none := by simp
  nonempty : 0 ≤ lastSequence →
    (∃ s, lastEventId = some s ∧ s ≠ "") ∧ lastEventTime.isSome = true := by simp
  deriving DecidableEq

def ForwardCursor.at (e : CanonicalForwardEvent) : ForwardCursor where
  lastSequence := e.sequence
  lastEventId := some e.eventId
  lastEventTime := some e.eventTime
  lower := by omega
  empty := by intro h; omega
  nonempty := fun _ => ⟨⟨e.eventId, rfl, ne_empty_of_notBlank e.eventId_notBlank⟩, rfl⟩

/-- `ForwardEventObservation`. -/
structure ForwardEventObservation where
  disposition : ForwardEventDisposition
  stale : Bool
  missingSequenceStart : Option ℕ
  missingSequenceEnd : Option ℕ
  correctionRequiresCounterfactualReplay : Bool
  nextCursor : ForwardCursor
  bufferEvent : Bool := false
  bounds_together : missingSequenceStart.isSome = missingSequenceEnd.isSome
  bounds_ordered : ∀ a ∈ missingSequenceStart, ∀ b ∈ missingSequenceEnd, a ≤ b
  gap_fields : disposition = .gap → missingSequenceStart.isSome = true ∧ bufferEvent = true
  only_gap : disposition ≠ .gap → missingSequenceStart = none ∧ bufferEvent = false
  correction_iff : disposition = .correction ↔ correctionRequiresCounterfactualReplay = true
  deriving DecidableEq

def plainObservation (disposition : ForwardEventDisposition) (stale : Bool) (next : ForwardCursor)
    (h : disposition ≠ .gap) : ForwardEventObservation where
  disposition := disposition
  stale := stale
  missingSequenceStart := none
  missingSequenceEnd := none
  correctionRequiresCounterfactualReplay := decide (disposition = .correction)
  nextCursor := next
  bounds_together := rfl
  bounds_ordered := by simp
  gap_fields := fun hg => absurd hg h
  only_gap := by simp
  correction_iff := by simp

/-- `event.arrived_at - event.event_time > stale_after`, in microseconds. -/
def CanonicalForwardEvent.isStale (e : CanonicalForwardEvent) (staleAfter : ℤ) : Bool :=
  decide (staleAfter < (e.arrivedAt.val : ℤ) - e.eventTime.val)

def ForwardCursor.isLater (c : ForwardCursor) (e : CanonicalForwardEvent) : Bool :=
  c.lastEventTime.any fun t => decide (e.eventTime < t)

def gapObservation (c : ForwardCursor) (e : CanonicalForwardEvent) (stale : Bool)
    (h : c.lastSequence + 1 < e.sequence) : ForwardEventObservation where
  disposition := .gap
  stale := stale
  missingSequenceStart := some (c.lastSequence + 1).toNat
  missingSequenceEnd := some (e.sequence - 1)
  correctionRequiresCounterfactualReplay := false
  nextCursor := c
  bufferEvent := true
  bounds_together := rfl
  bounds_ordered := by
    have := c.lower
    intro a ha b hb
    obtain rfl := Option.some.inj ha
    obtain rfl := Option.some.inj hb
    omega
  gap_fields := by simp
  only_gap := by simp
  correction_iff := by simp

/-- `observe_forward_event`. -/
def observeForwardEvent (cursor : ForwardCursor) (event : CanonicalForwardEvent)
    (processedEventIds : Finset String) (staleAfter : ℤ) :
    Except PyError ForwardEventObservation :=
  if staleAfter < 0 then .error (valueError "stale_after must not be negative")
  else
    let stale := event.isStale staleAfter
    if event.correctionOf ≠ none then
      .ok (plainObservation .correction stale cursor (by decide))
    else if event.eventId ∈ processedEventIds ∨ cursor.lastEventId = some event.eventId then
      .ok (plainObservation .duplicate stale cursor (by decide))
    else if event.sequence ≤ cursor.lastSequence ∨ cursor.isLater event = true then
      .ok (plainObservation .outOfOrder stale cursor (by decide))
    else if h : cursor.lastSequence + 1 < event.sequence then
      .ok (gapObservation cursor event stale h)
    else .ok (plainObservation .accepted stale (.at event) (by decide))

def ForwardInstance.advance (i : ForwardInstance) (event : CanonicalForwardEvent)
    (h : i.updatedAt ≤ event.arrivedAt) : ForwardInstance :=
  { i with
    lastEventId := some event.eventId
    lastEventSequence := event.sequence
    updatedAt := event.arrivedAt
    sequence_of_none := by simp
    createdAt_le_updatedAt := i.createdAt_le_updatedAt.trans h }

def ForwardInstance.corrected (i : ForwardInstance) (event : CanonicalForwardEvent) :
    ForwardInstance :=
  { i with
    correctionCount := i.correctionCount + 1
    updatedAt := max i.updatedAt event.arrivedAt
    createdAt_le_updatedAt := i.createdAt_le_updatedAt.trans (le_max_left _ _) }

/-- `apply_forward_event_observation`. -/
def applyForwardEventObservation (i : ForwardInstance) (event : CanonicalForwardEvent)
    (o : ForwardEventObservation) : Except PyError ForwardInstance :=
  match o.disposition with
  | .accepted =>
    if o.nextCursor.lastSequence ≠ event.sequence then
      .error (valueError "accepted observation cursor must end at the event sequence")
    else if o.nextCursor.lastEventId ≠ some event.eventId then
      .error (valueError "accepted observation cursor must end at the event identity")
    else if i.lastEventId ≠ none ∧ event.sequence ≤ i.lastEventSequence then
      .error (valueError "accepted event sequence must advance the instance cursor")
    else if h : i.updatedAt ≤ event.arrivedAt then .ok (i.advance event h)
    else .error (valueError "event arrival time cannot move instance time backwards")
  | .correction =>
    if event.correctionOf = none ∨ o.correctionRequiresCounterfactualReplay = false then
      .error (valueError "correction observations require counterfactual replay evidence")
    else .ok (i.corrected event)
  | _ =>
    if o.nextCursor.lastEventId = i.lastEventId ∧
        (o.nextCursor.lastSequence = i.lastEventSequence ∨
          (i.lastEventId = none ∧ o.nextCursor.lastSequence = -1)) then .ok i
    else .error (valueError "non-accepted observation must not advance the instance cursor")

/-! ## Fields after a transition -/

section
variable {i : ForwardInstance} {event : CanonicalForwardEvent} {h : i.updatedAt ≤ event.arrivedAt}

@[simp] theorem instanceId_advance : (i.advance event h).instanceId = i.instanceId := rfl

@[simp] theorem state_advance : (i.advance event h).state = i.state := rfl

@[simp] theorem lastEventId_advance : (i.advance event h).lastEventId = some event.eventId := rfl

@[simp] theorem updatedAt_advance : (i.advance event h).updatedAt = event.arrivedAt := rfl

@[simp] theorem cursorSequence_advance : (i.advance event h).cursorSequence = event.sequence := by
  simp [ForwardInstance.cursorSequence, ForwardInstance.advance]

@[simp] theorem instanceId_corrected : (i.corrected event).instanceId = i.instanceId := rfl

@[simp] theorem state_corrected : (i.corrected event).state = i.state := rfl

@[simp] theorem cursorSequence_corrected :
    (i.corrected event).cursorSequence = i.cursorSequence := rfl

end

/-- Everything a successful `apply_forward_event_observation` can do. -/
inductive InstanceStep (i : ForwardInstance) (event : CanonicalForwardEvent)
    (o : ForwardEventObservation) : ForwardInstance → Prop
  | accepted (h : i.updatedAt ≤ event.arrivedAt) : o.disposition = .accepted →
      InstanceStep i event o (i.advance event h)
  | correction : o.disposition = .correction → event.correctionOf ≠ none →
      InstanceStep i event o (i.corrected event)
  | unchanged : o.disposition ≠ .accepted → o.disposition ≠ .correction → InstanceStep i event o i

theorem applyForwardEventObservation_cases {i i' : ForwardInstance} {event : CanonicalForwardEvent}
    {o : ForwardEventObservation} (h : applyForwardEventObservation i event o = .ok i') :
    InstanceStep i event o i' := by
  unfold applyForwardEventObservation at h
  split at h
  · next hd =>
    split_ifs at h with h₁ h₂ h₃ h₄
    obtain rfl := Except.ok.inj h
    exact .accepted h₄ hd
  · next hd =>
    split_ifs at h with h₁
    obtain rfl := Except.ok.inj h
    exact .correction hd fun hn => h₁ (.inl hn)
  · next ha hc =>
    split_ifs at h with h₁
    obtain rfl := Except.ok.inj h
    exact .unchanged ha hc

end ChartingPlatform
