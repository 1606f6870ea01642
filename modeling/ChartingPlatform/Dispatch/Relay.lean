/-
  The relay of the outbox to Redis Streams (`dispatch.py`, `redis_transport.py`,
  `outbox_relay.py`, `outbox_application.py`).

  Redis keeps a hash of idempotency keys and the entries of its streams; the script of the
  transport touches both at once.  `Pipeline.step` is the code of the relays cut at its awaits,
  for any number of relays beside the writers of the outbox; the persistence is the state that
  it stores.
-/
import ChartingPlatform.Dispatch.Outbox

namespace ChartingPlatform

open Lib

/-! ## Envelopes -/

/-- `DispatchRequest`. -/
structure DispatchRequest where
  idempotencyKey : String
  attemptId : String
  payloadDigest : Digest
  queueName : String
  createdAt : Instant

def DispatchRequest.toPy (r : DispatchRequest) : PyValue :=
  .dataclass "app.strategy_lab_v2.dispatch.DispatchRequest"
    [({ name := "idempotency_key" }, .str r.idempotencyKey),
      ({ name := "attempt_id" }, .str r.attemptId),
      ({ name := "payload_digest" }, .str r.payloadDigest.text),
      ({ name := "queue_name" }, .str r.queueName),
      ({ name := "created_at" }, .datetime (.utc r.createdAt))]

/-- `DispatchRequest.fingerprint`. -/
def DispatchRequest.fingerprint (sha256 : String → Digest) (r : DispatchRequest) : Digest :=
  digest sha256 r.toPy

/-- `DispatchEnvelope`, not delivered yet. -/
structure DispatchEnvelope where
  messageId : Digest
  request : DispatchRequest

/-- `build_dispatch_envelope`. -/
def buildDispatchEnvelope (sha256 : String → Digest) (r : DispatchRequest) : DispatchEnvelope where
  messageId := r.fingerprint sha256
  request := r

/-- `build_outbox_dispatch_envelope`. -/
def buildOutboxDispatchEnvelope (sha256 : String → Digest) (m : OutboxMessage) : DispatchEnvelope :=
  buildDispatchEnvelope sha256
    { idempotencyKey := (m.messageId sha256).text
      attemptId := m.eventId.text
      payloadDigest := m.payloadDigest
      queueName := m.topic
      createdAt := m.createdAt }

/-! ## Redis -/

/-- The fields of one `XADD`. -/
structure StreamRecord where
  streamKey : String
  messageId : String
  attemptId : String
  payloadDigest : String
  requestFingerprint : String

/-- The idempotency hash and the streams, in the order of their entries. -/
structure RedisState where
  idempotency : List (String × String) := []
  entries : List StreamRecord := []

def DispatchEnvelope.record (sha256 : String → Digest) (e : DispatchEnvelope) (streamKey : String) :
    StreamRecord where
  streamKey := streamKey
  messageId := e.messageId.text
  attemptId := e.request.attemptId
  payloadDigest := e.request.payloadDigest.text
  requestFingerprint := (e.request.fingerprint sha256).text

theorem DispatchEnvelope.record_messageId (sha256 : String → Digest) (e : DispatchEnvelope)
    (streamKey : String) : (e.record sha256 streamKey).messageId = e.messageId.text := rfl

/-- `_ENQUEUE_SCRIPT`, where `appends` says whether `XADD` succeeds. -/
def enqueueScript (r : RedisState) (key : String) (e : StreamRecord) (appends : Bool) :
    RedisState × ℤ :=
  match rowWith Prod.fst key r.idempotency with
  | some existing => if existing.2 = e.messageId then (r, 0) else (r, -1)
  | none =>
    let bound := upsert Prod.fst (key, e.messageId) r.idempotency
    if appends then ({ idempotency := bound, entries := r.entries ++ [e] }, 1)
    else ({ r with idempotency := bound.filter fun i => decide (i.1 ≠ key) }, -2)

/-- What the caller sees of an answer. -/
inductive RedisReply where
  | lost (errorName : String)
  | unreadable
  | read

/-- What becomes of one call of the script. -/
inductive RedisDelivery where
  | refused (errorName : String)
  | ran (appends : Bool) (reply : RedisReply)

/-! ## The transport -/

/-- `RedisTransportDecision`. -/
inductive RedisTransportDecision where
  | enqueued | replayExisting | conflict | reject
  deriving DecidableEq

/-- `RedisTransportResolution`. -/
structure RedisTransportResolution where
  decision : RedisTransportDecision
  messageId : Digest
  requestFingerprint : Digest
  streamKey : String
  rejectionReason : Option String := none

/-- One of the characters that a queue name must not contain. -/
def hasControlCharacter (text : String) : Bool :=
  text.toList.any fun c => c = '\x00' || c = '\r' || c = '\n'

/-- `RedisDispatchTransport`, by its namespace. -/
structure RedisDispatchTransport where
  namespaceText : String

namespace RedisDispatchTransport

/-- `stream_key`. -/
def streamKey (tr : RedisDispatchTransport) (queueName : String) : Except PyError String := do
  ensure (notBlank queueName = true) (valueError "queue_name must not be empty")
  ensure (hasControlCharacter queueName = false)
    (valueError "queue_name must not contain control characters")
  return tr.namespaceText ++ ":stream:" ++ queueName

/-- `enqueue`. -/
def enqueue (sha256 : String → Digest) (tr : RedisDispatchTransport) (r : RedisState)
    (e : DispatchEnvelope) (d : RedisDelivery) :
    Except PyError (RedisState × RedisTransportResolution) := do
  let key ← tr.streamKey e.request.queueName
  let resolution (decision : RedisTransportDecision) (reason : Option String) :
      RedisTransportResolution :=
    { decision
      messageId := e.messageId
      requestFingerprint := e.request.fingerprint sha256
      streamKey := key
      rejectionReason := reason }
  match d with
  | .refused name => return (r, resolution .reject (some ("Redis enqueue failed: " ++ name)))
  | .ran appends reply =>
    let (r', code) := enqueueScript r e.request.idempotencyKey (e.record sha256 key) appends
    return (r', match reply with
      | .lost name => resolution .reject (some ("Redis enqueue failed: " ++ name))
      | .unreadable => resolution .reject (some "Redis enqueue returned an invalid result")
      | .read =>
        if code = 1 then resolution .enqueued none
        else if code = 0 then resolution .replayExisting none
        else if code = -1 then
          resolution .conflict
            (some "Redis idempotency key is already bound to different content")
        else
          resolution .reject (some "Redis could not atomically append the dispatch envelope"))

end RedisDispatchTransport

/-! ## Relaying one message -/

/-- `OutboxRelayDecision`. -/
inductive OutboxRelayDecision where
  | published | replayExisting | conflict | reject
  deriving DecidableEq

/-- `OutboxRelayResolution`. -/
structure OutboxRelayResolution (sha256 : String → Digest) where
  decision : OutboxRelayDecision
  state : OutboxState sha256
  outboxMessageId : Digest
  envelope : Option DispatchEnvelope := none
  transport : Option RedisTransportResolution := none
  rejectionReason : Option String := none

/-- The decisions after which `relay_pending` acknowledges the message. -/
def OutboxRelayDecision.sent (d : OutboxRelayDecision) : Bool :=
  decide (d = .published ∨ d = .replayExisting)

section
variable (sha256 : String → Digest) (tr : RedisDispatchTransport)

/-- `relay_outbox_message`. -/
def relayOutboxMessage (r : RedisState) (s : OutboxState sha256) (m : OutboxMessage)
    (d : RedisDelivery) : Except PyError (RedisState × OutboxRelayResolution sha256) :=
  let id := m.messageId sha256
  let resolution (decision : OutboxRelayDecision) (state : OutboxState sha256)
      (envelope : Option DispatchEnvelope) (transport : Option RedisTransportResolution)
      (reason : Option String) : OutboxRelayResolution sha256 :=
    { decision
      state
      outboxMessageId := id
      envelope
      transport
      rejectionReason := reason }
  if id ∉ s.messages.map (OutboxMessage.messageId sha256) then
    .ok (r, resolution .reject s none none (some "message is not present in the outbox"))
  else if id ∈ s.publishedMessageIds then .ok (r, resolution .replayExisting s none none none)
  else do
    let envelope := buildOutboxDispatchEnvelope sha256 m
    let (r', result) ← tr.enqueue sha256 r envelope d
    if result.decision = .conflict ∨ result.decision = .reject then
      return (r', resolution (if result.decision = .conflict then .conflict else .reject) s envelope
        result (some (result.rejectionReason.getD "Redis transport rejected the outbox message")))
    else
      let acknowledged ← acknowledgeOutboxMessage sha256 s id
      if acknowledged.decision ≠ .acknowledged then
        return (r', resolution .reject s envelope result
          (some "outbox publication acknowledgement could not be staged"))
      else
        return (r', resolution (if result.decision = .enqueued then .published
          else .replayExisting) acknowledged.state envelope result none)

end

/-! ## The persistence -/

section
variable {sha256 : String → Digest}

def OutboxMessage.toPy (m : OutboxMessage) : PyValue :=
  .dataclass "app.strategy_lab_v2.outbox.OutboxMessage"
    [({ name := "request_id" }, .str m.requestId.text),
      ({ name := "aggregate_type" }, .str m.aggregateType),
      ({ name := "aggregate_id" }, .str m.aggregateId),
      ({ name := "event_id" }, .str m.eventId.text),
      ({ name := "topic" }, .str m.topic),
      ({ name := "payload_digest" }, .str m.payloadDigest.text),
      ({ name := "created_at" }, .datetime (.utc m.createdAt)),
      ({ name := "available_at" }, .datetime (.utc m.availableAt))]

/-- `OutboxState.fingerprint`. -/
def OutboxState.fingerprint (s : OutboxState sha256) : Digest :=
  digest sha256 (.dataclass "app.strategy_lab_v2.outbox.OutboxState"
    [({ name := "messages" }, .tuple (s.messages.map OutboxMessage.toPy)),
      ({ name := "published_message_ids" }, idsToPy (s.publishedMessageIds.image Digest.text))])

/-- `acknowledge_outbox`: the answer's state is the one that is stored. -/
def OutboxState.acknowledgeOutbox (s : OutboxState sha256)
    (messageId expectedStateFingerprint : Digest) :
    Except PyError (OutboxAcknowledgeResolution sha256) :=
  if s.fingerprint ≠ expectedStateFingerprint then
    .ok
      { decision := .reject
        state := s
        messageId := messageId
        rejectionReason := some "outbox state compare-and-set precondition failed" }
  else acknowledgeOutboxMessage sha256 s messageId

/-- `OutboxState.pending_messages`. -/
def OutboxState.pendingMessages (s : OutboxState sha256) : List OutboxMessage :=
  sortBy (fun m => toLex (m.availableAt, (m.messageId sha256).text))
    (s.messages.filter fun m => decide (m.messageId sha256 ∉ s.publishedMessageIds))

/-- The messages of one cycle of `relay_pending`. -/
def OutboxState.available (s : OutboxState sha256) (now : Instant) (limit : ℕ) :
    List OutboxMessage :=
  (s.pendingMessages.filter fun m => decide (m.availableAt ≤ now)).take limit

/-! ## The pipeline -/

/-- Where a relay is in the loop of `relay_pending`: about to relay the first message of `todo`,
    or about to acknowledge `m`, which was sent. -/
inductive RelayProcess (sha256 : String → Digest) where
  | idle
  | relaying (s : OutboxState sha256) (todo : List OutboxMessage)
  | acknowledging (s : OutboxState sha256) (m : OutboxMessage) (todo : List OutboxMessage)

/-- The outbox, Redis, and every relay. -/
structure Pipeline (sha256 : String → Digest) where
  outbox : OutboxState sha256 := .empty sha256
  redis : RedisState := {}
  relays : ℕ → RelayProcess sha256 := fun _ => .idle

/-- A writer stages a message, a relay does its next step, or it crashes. -/
inductive PipelineEvent where
  | enqueue (m : OutboxMessage) (prior : List OutboxMessage)
  | start (relay : ℕ) (now : Instant) (limit : ℕ)
  | relay (relay : ℕ) (d : RedisDelivery)
  | acknowledge (relay : ℕ)
  | crash (relay : ℕ)

def Pipeline.setRelay (p : Pipeline sha256) (i : ℕ) (q : RelayProcess sha256) : Pipeline sha256 :=
  { p with relays := Function.update p.relays i q }

/-- One event, which does nothing where it is not enabled. -/
def Pipeline.step (tr : RedisDispatchTransport) (p : Pipeline sha256) :
    PipelineEvent → Pipeline sha256
  | .enqueue m prior =>
    match resolveOutboxEnqueue sha256 p.outbox m prior with
    | .error _ => p
    | .ok res => { p with outbox := res.state }
  | .start i now limit =>
    if 1 ≤ limit ∧ limit ≤ 100 then
      p.setRelay i (.relaying p.outbox (p.outbox.available now limit))
    else p.setRelay i .idle
  | .relay i d =>
    match p.relays i with
    | .relaying s (m :: todo) =>
      match relayOutboxMessage sha256 tr p.redis s m d with
      | .error _ => p.setRelay i .idle
      | .ok (r', relay) =>
        { p with redis := r' }.setRelay i
          (if relay.decision.sent then .acknowledging s m todo else .relaying s todo)
    | _ => p
  | .acknowledge i =>
    match p.relays i with
    | .acknowledging s m todo =>
      match p.outbox.acknowledgeOutbox (m.messageId sha256) s.fingerprint with
      | .error _ => p.setRelay i .idle
      | .ok ack =>
        -- after a refused acknowledgement the cycle goes on with its old state
        { p with outbox := ack.state }.setRelay i
          (.relaying
            (if ack.decision = OutboxAcknowledgeDecision.reject then s else ack.state) todo)
    | _ => p
  | .crash i => p.setRelay i .idle

/-- The pipeline after a history of events. -/
def Pipeline.run (tr : RedisDispatchTransport) (p : Pipeline sha256) (es : List PipelineEvent) :
    Pipeline sha256 :=
  es.foldl (step tr) p

end

end ChartingPlatform
