/-
  The rolling window of a forward strategy (`forward_context.py`): an event is prepared against
  the committed window, and committed or discarded when its outputs are settled.
-/
import ChartingPlatform.Forward.Fingerprints
import ChartingPlatform.Lib.Windows
import ChartingPlatform.Strategy.History

namespace ChartingPlatform

open Lib List

/-! ## Deliveries -/

inductive DeliveryDecision where
  | enqueue | buffered | correctionEnqueue
  deriving DecidableEq, Repr

def DeliveryDecision.value : DeliveryDecision → String
  | .enqueue => "enqueue"
  | .buffered => "buffered"
  | .correctionEnqueue => "correction_enqueue"

/-- `NautilusForwardDeliveryBinding`. -/
structure NautilusForwardDeliveryBinding where
  instanceId : String
  eventFingerprint : Digest
  redisStreamId : String
  redisEntryFingerprint : Digest
  dispatchRecordFingerprint : Digest
  requestFingerprint : Digest
  preEventCheckpointFingerprint : Digest
  warmupReceiptFingerprint : Digest
  admissionDecision : DeliveryDecision
  replayPlanFingerprint : Option Digest
  instanceId_notBlank : notBlank instanceId = true
  redisStreamId_notBlank : notBlank redisStreamId = true
  replayPlan_iff : replayPlanFingerprint.isSome = true ↔ admissionDecision = .correctionEnqueue

def NautilusForwardDeliveryBinding.toPy (b : NautilusForwardDeliveryBinding) : PyValue :=
  .dataclass "app.strategy_lab_v2.nautilus_event_adapter.NautilusForwardDeliveryBinding"
    [({ name := "instance_id" }, .str b.instanceId),
      ({ name := "event_fingerprint" }, .str b.eventFingerprint.text),
      ({ name := "redis_stream_id" }, .str b.redisStreamId),
      ({ name := "redis_entry_fingerprint" }, .str b.redisEntryFingerprint.text),
      ({ name := "dispatch_record_fingerprint" }, .str b.dispatchRecordFingerprint.text),
      ({ name := "request_fingerprint" }, .str b.requestFingerprint.text),
      ({ name := "pre_event_checkpoint_fingerprint" }, .str b.preEventCheckpointFingerprint.text),
      ({ name := "warmup_receipt_fingerprint" }, .str b.warmupReceiptFingerprint.text),
      ({ name := "admission_decision" }, .str b.admissionDecision.value),
      ({ name := "replay_plan_fingerprint" },
        optionText (b.replayPlanFingerprint.map Digest.text))]

/-- `NautilusForwardDeliveryBinding.fingerprint`. -/
def NautilusForwardDeliveryBinding.fingerprint (sha256 : String → Digest)
    (b : NautilusForwardDeliveryBinding) : Digest := digest sha256 b.toPy

/-! ## Preparations -/

/-- `ForwardStrategyContextPreparation`. -/
structure ForwardStrategyContextPreparation where
  instanceId : String
  payloadFingerprint : Digest
  baseWindowFingerprint : Digest
  nextWindowFingerprint : Digest
  context : StrategyContext
  deliveryBindingFingerprint : Option Digest := none
  dispatchFingerprint : Option Digest := none
  preEventCheckpointFingerprint : Option Digest := none
  warmupReceiptFingerprint : Option Digest := none
  instanceId_notBlank : notBlank instanceId = true
  binding_complete : dispatchFingerprint.isSome = deliveryBindingFingerprint.isSome ∧
    preEventCheckpointFingerprint.isSome = deliveryBindingFingerprint.isSome ∧
    warmupReceiptFingerprint.isSome = deliveryBindingFingerprint.isSome

namespace ForwardStrategyContextPreparation

def toPy (p : ForwardStrategyContextPreparation) : PyValue :=
  .dataclass "app.strategy_lab_v2.forward_context.ForwardStrategyContextPreparation"
    [({ name := "instance_id" }, .str p.instanceId),
      ({ name := "payload_fingerprint" }, .str p.payloadFingerprint.text),
      ({ name := "base_window_fingerprint" }, .str p.baseWindowFingerprint.text),
      ({ name := "next_window_fingerprint" }, .str p.nextWindowFingerprint.text),
      ({ name := "context" }, p.context.toPy),
      ({ name := "delivery_binding_fingerprint" },
        optionText (p.deliveryBindingFingerprint.map Digest.text)),
      ({ name := "dispatch_fingerprint" }, optionText (p.dispatchFingerprint.map Digest.text)),
      ({ name := "pre_event_checkpoint_fingerprint" },
        optionText (p.preEventCheckpointFingerprint.map Digest.text)),
      ({ name := "warmup_receipt_fingerprint" },
        optionText (p.warmupReceiptFingerprint.map Digest.text))]

/-- `==` on preparations. -/
def Equal (p q : ForwardStrategyContextPreparation) : Prop := eqKey p.toPy = eqKey q.toPy

instance (p q : ForwardStrategyContextPreparation) : Decidable (p.Equal q) :=
  inferInstanceAs (Decidable (_ = _))

/-- `_same_delivery_binding`. -/
def SameDelivery (sha256 : String → Digest) (p : ForwardStrategyContextPreparation) :
    Option NautilusForwardDeliveryBinding → Prop
  | none => p.deliveryBindingFingerprint = none
  | some b => p.deliveryBindingFingerprint = some (b.fingerprint sha256) ∧
      p.dispatchFingerprint = some b.dispatchRecordFingerprint ∧
      p.preEventCheckpointFingerprint = some b.preEventCheckpointFingerprint ∧
      p.warmupReceiptFingerprint = some b.warmupReceiptFingerprint

instance (sha256 : String → Digest) (p : ForwardStrategyContextPreparation)
    (b : Option NautilusForwardDeliveryBinding) : Decidable (p.SameDelivery sha256 b) :=
  match b with
  | none => inferInstanceAs (Decidable (_ = _))
  | some _ => inferInstanceAs (Decidable (_ ∧ _ ∧ _ ∧ _))

end ForwardStrategyContextPreparation

/-! ## Windows -/

/-- What a `ForwardStrategyContextWindow` is constructed with. -/
structure ForwardContextSession where
  instanceId : String
  manifest : StrategySdkManifest
  parameters : List (PyKey × PyValue)
  randomSeed : ℤ
  studyArtifacts : Option StudyArtifacts
  instanceId_notBlank : notBlank instanceId = true
  parameters_accepted : Accepted (.mapping parameters)
  parameters_frozen : Frozen (.mapping parameters)
  pinned : pinnedStudyArtifacts manifest studyArtifacts = .ok studyArtifacts

/-- `(event_time, sequence)`. -/
abbrev EventKey := Instant ×ₗ ℕ

/-- What a `ForwardStrategyContextWindow` holds between calls. -/
structure ForwardStrategyContextWindow where
  events : ContextEvents := fun _ => []
  pending : Option (ForwardStrategyContextPreparation × ContextEvents × EventKey) := none
  lastCommitted : Option ForwardStrategyContextPreparation := none
  lastEventKey : Option EventKey := none

namespace ForwardContextSession

theorem pinned_again {m : StrategySdkManifest} {artifacts pinned : Option StudyArtifacts}
    (h : pinnedStudyArtifacts m artifacts = .ok pinned) :
    pinnedStudyArtifacts m pinned = .ok pinned := by
  unfold pinnedStudyArtifacts at h ⊢
  cases hselected : m.selectedStudyArtifact with
  | none =>
    simp only [hselected] at h ⊢
    obtain ⟨_, -, h⟩ := bind_eq_ok.1 h
    rw [← Except.ok.inj h]
    rfl
  | some selected =>
    simp only [hselected] at h ⊢
    split at h
    · obtain ⟨_, hpin, h⟩ := bind_eq_ok.1 h
      rw [← Except.ok.inj h]
      simp only [ensure_of (ensure_eq_ok.1 hpin), ok_bind]
      rfl
    · cases h

/-- `ForwardStrategyContextWindow.__init__`. -/
def make (instanceId : String) (manifest : StrategySdkManifest)
    (parameters : List (PyKey × PyValue)) (randomSeed : ℤ)
    (studyArtifacts : Option StudyArtifacts) : Except PyError ForwardContextSession :=
  if h : notBlank instanceId = true then
    match hf : freezeMapping parameters with
    | .error e => .error e
    | .ok frozen =>
      match hp : pinnedStudyArtifacts manifest studyArtifacts with
      | .error e => .error e
      | .ok pinned =>
        .ok ⟨instanceId, manifest, frozen, randomSeed, pinned, h, (freezeMapping_eq_ok hf).1,
          (freezeMapping_eq_ok hf).2, pinned_again hp⟩
  else .error (valueError "instance_id must not be empty")

variable (sha256 : String → Digest) (c : ForwardContextSession)

def bound (id : String) : ℕ := c.manifest.bound id

def parametersDigest : Digest := digest sha256 (.mapping c.parameters)

/-- `_fingerprint_for_state`. -/
def fingerprintForState (lastEventKey : Option EventKey) (events : ContextEvents) : Digest :=
  digest sha256 (.mapping
    ([(.str "instance_id", .str c.instanceId),
      (.str "manifest_fingerprint", .str c.manifest.fingerprint.text),
      (.str "parameters_digest", .str (c.parametersDigest sha256).text),
      (.str "random_seed", .int c.randomSeed),
      (.str "last_event_key", (lastEventKey.map fun k =>
        .tuple [.datetime (.utc (ofLex k).1), .int (ofLex k).2]).getD .none),
      (.str "events", textDict (fun es => .tuple (es.map MarketEvent.toPy))
        (c.manifest.series events))] ++
    (c.studyArtifacts.map fun s =>
      (.str "study_artifacts", textDict ResolvedStudyArtifactOutput.toPy s)).toList))

/-- `window_fingerprint`. -/
def windowFingerprint (w : ForwardStrategyContextWindow) : Digest :=
  c.fingerprintForState sha256 w.lastEventKey w.events

/-- The checks of `prepare` on a delivery. -/
def checkDelivery (payload : VerifiedForwardMarketPayload) :
    Option NautilusForwardDeliveryBinding → Except PyError Unit
  | none => .ok ()
  | some b => do
    ensure (b.admissionDecision = .enqueue)
      (valueError "forward contexts require an accepted enqueue binding")
    ensure (b.instanceId = c.instanceId)
      (valueError "forward delivery belongs to a different context instance")
    ensure (b.eventFingerprint = payload.canonicalEvent.fingerprint sha256)
      (valueError "forward delivery does not bind the resolved canonical event")

def preparation (w : ForwardStrategyContextWindow) (payload : VerifiedForwardMarketPayload)
    (binding : Option NautilusForwardDeliveryBinding) (candidate : ContextEvents)
    (context : StrategyContext) : ForwardStrategyContextPreparation where
  instanceId := c.instanceId
  payloadFingerprint := payload.fingerprint sha256
  baseWindowFingerprint := c.windowFingerprint sha256 w
  nextWindowFingerprint := c.fingerprintForState sha256 (some payload.key) candidate
  context := context
  deliveryBindingFingerprint := binding.map (·.fingerprint sha256)
  dispatchFingerprint := binding.map (·.dispatchRecordFingerprint)
  preEventCheckpointFingerprint := binding.map (·.preEventCheckpointFingerprint)
  warmupReceiptFingerprint := binding.map (·.warmupReceiptFingerprint)
  instanceId_notBlank := c.instanceId_notBlank
  binding_complete := by cases binding <;> simp

/-- What `prepare` stages for an event that is neither pending nor the last committed one. -/
def stage (w : ForwardStrategyContextWindow) (payload : VerifiedForwardMarketPayload)
    (positions : Option (List (String × SdkPositionSnapshot)))
    (binding : Option NautilusForwardDeliveryBinding) :
    Except PyError (ForwardStrategyContextPreparation × ContextEvents × EventKey) :=
  match c.manifest.dependency payload.dependencyId with
  | none => .error (valueError "forward event dependency is not declared by the strategy")
  | some d => do
    checkDeclaration "forward event instrument differs from its declared dependency"
      "forward event is outside its declared dependency interval"
      "forward event fields differ from its declared dependency" d payload.marketEvent
    ensure (w.lastEventKey.all (fun k => decide (k < payload.key)) = true)
      (valueError "forward context events must advance strictly by time and sequence")
    let candidate := observe MarketEvent.dependencyId c.bound w.events payload.marketEvent
    let context ← buildStrategyContext c.manifest payload.canonicalEvent.eventTime
      payload.canonicalEvent.sequence c.randomSeed c.parameters
      (c.manifest.series fun id => (candidate id).filter fun e => decide (e.key ≤ payload.key))
      positions c.studyArtifacts
    ensure (digest sha256 (.mapping context.parameters) = c.parametersDigest sha256)
      (valueError "forward strategy parameters changed during context construction")
    return (c.preparation sha256 w payload binding candidate context, candidate, payload.key)

def Repeats (p : ForwardStrategyContextPreparation) (payload : VerifiedForwardMarketPayload)
    (binding : Option NautilusForwardDeliveryBinding) : Prop :=
  p.payloadFingerprint = payload.fingerprint sha256 ∧ p.SameDelivery sha256 binding

instance (p : ForwardStrategyContextPreparation) (payload : VerifiedForwardMarketPayload)
    (binding : Option NautilusForwardDeliveryBinding) :
    Decidable (Repeats sha256 p payload binding) := inferInstanceAs (Decidable (_ ∧ _))

/-- `prepare`. -/
def prepare (w : ForwardStrategyContextWindow) (payload : VerifiedForwardMarketPayload)
    (instanceId : String) (positions : Option (List (String × SdkPositionSnapshot)))
    (binding : Option NautilusForwardDeliveryBinding) :
    Except PyError (ForwardStrategyContextPreparation × ForwardStrategyContextWindow) := do
  ensure (instanceId = c.instanceId)
    (valueError "forward event belongs to a different instance")
  c.checkDelivery sha256 payload binding
  match w.pending with
  | some (pending, _, _) =>
    ensure (Repeats sha256 pending payload binding)
      (valueError "a forward context event is already awaiting settlement")
    return (pending, w)
  | none =>
    match w.lastCommitted.filter fun p => decide (Repeats sha256 p payload binding) with
    | some last => return (last, w)
    | none =>
      let staged ← c.stage sha256 w payload positions binding
      return (staged.1, { w with pending := some staged })

/-- `commit`. -/
def commit (w : ForwardStrategyContextWindow) (p : ForwardStrategyContextPreparation) :
    Except PyError (Digest × ForwardStrategyContextWindow) := do
  ensure (p.instanceId = c.instanceId)
    (valueError "forward context preparation belongs to a different instance")
  if w.lastCommitted.any (fun last => decide (p.Equal last)) = true then do
    ensure (c.windowFingerprint sha256 w = p.nextWindowFingerprint)
      (valueError "forward context preparation is no longer the latest commit")
    return (c.windowFingerprint sha256 w, w)
  else
    match w.pending with
    | none => .error (valueError "forward context preparation is not the pending event")
    | some (pending, candidate, key) => do
      ensure (p.Equal pending)
        (valueError "forward context preparation is not the pending event")
      ensure (p.baseWindowFingerprint = c.windowFingerprint sha256 w)
        (valueError "forward context preparation was built from a stale history window")
      ensure (c.fingerprintForState sha256 (some key) candidate = p.nextWindowFingerprint)
        (valueError "prepared forward context history changed before commit")
      return (c.fingerprintForState sha256 (some key) candidate,
        { events := candidate, pending := none, lastCommitted := some p, lastEventKey := some key })

/-- `discard`. -/
def discard (w : ForwardStrategyContextWindow) (p : ForwardStrategyContextPreparation) :
    Except PyError ForwardStrategyContextWindow :=
  if w.lastCommitted.any (fun last => decide (p.Equal last)) = true then do
    ensure (c.windowFingerprint sha256 w = p.nextWindowFingerprint)
      (valueError "committed preparation is no longer the latest history window")
    return w
  else
    match w.pending with
    | none => .error (valueError "forward context preparation is not the pending event")
    | some (pending, _, _) => do
      ensure (p.Equal pending)
        (valueError "forward context preparation is not the pending event")
      return { w with pending := none }

/-- `append`. -/
def append (w : ForwardStrategyContextWindow) (payload : VerifiedForwardMarketPayload)
    (instanceId : String) (positions : Option (List (String × SdkPositionSnapshot))) :
    Except PyError (StrategyContext × ForwardStrategyContextWindow) := do
  let prepared ← c.prepare sha256 w payload instanceId positions none
  let committed ← c.commit sha256 prepared.2 prepared.1
  return (prepared.1.context, committed.2)

/-- The loop of `replay_verified_history`, with the events seen of each dependency. -/
def replayEvents (instanceId : String) : List VerifiedForwardMarketPayload → (String → ℕ) →
    ForwardStrategyContextWindow → Except PyError ForwardStrategyContextWindow
  | [], _, w => .ok w
  | payload :: rest, counts, w =>
    match c.manifest.dependency payload.dependencyId with
    | none => .error (valueError "forward context history contains an undeclared dependency")
    | some d => do
      ensure (counts d.dependencyId + 1 ≤ d.lookbackPeriods + 1)
        (valueError "forward context history exceeds a dependency lookback window")
      let appended ← c.append sha256 w payload instanceId none
      replayEvents instanceId rest
        (Function.update counts d.dependencyId (counts d.dependencyId + 1)) appended.2

end ForwardContextSession

/-- `replay_verified_history`. -/
def replayVerifiedHistory (sha256 : String → Digest) (history : ForwardStrategyContextHistory)
    (manifest : StrategySdkManifest) (parameters : List (PyKey × PyValue)) (randomSeed : ℤ)
    (expectedPreEventCheckpointFingerprint expectedWarmupReceiptFingerprint : Digest)
    (studyArtifacts : Option StudyArtifacts) :
    Except PyError (ForwardContextSession × ForwardStrategyContextWindow) := do
  ensure (history.manifestFingerprint = manifest.fingerprint)
    (valueError "forward context history belongs to a different strategy manifest")
  ensure (history.preEventCheckpointFingerprint = expectedPreEventCheckpointFingerprint)
    (valueError "forward context history is not at the requested pre-event checkpoint")
  ensure (history.warmupReceiptFingerprint = expectedWarmupReceiptFingerprint)
    (valueError "forward context history belongs to a different warm-up receipt")
  let c ← ForwardContextSession.make history.instanceId manifest parameters randomSeed studyArtifacts
  let w ← c.replayEvents sha256 history.instanceId history.events (fun _ => 0) {}
  return (c, w)

/-! ## Equal preparations -/

section
variable {sha256 : String → Digest} {p q : ForwardStrategyContextPreparation}
  {fs gs : List (Field × PyValue)}

theorem eqKey_optionText_inj {s t : Option String} (h : eqKey (optionText s) = eqKey (optionText t)) :
    s = t := by
  cases s <;> cases t <;> simp_all [optionText, eqKey, tagged]

theorem eqKey_utc_inj {s t : Instant} (h : eqKey (.datetime (.utc s)) = eqKey (.datetime (.utc t))) :
    s = t := by
  rw [eqKey_datetime (instant_utc s), eqKey_datetime (instant_utc t)] at h
  simpa [tagged, Fin.ext_iff] using h

theorem eqKey_int_inj {m n : ℤ} (h : eqKey (.int m) = eqKey (.int n)) : m = n := by
  simpa [eqKey, numberKey, tagged] using h

theorem eqKey_dataclass_inj {cls : String}
    (h : eqKey (.dataclass cls fs) = eqKey (.dataclass cls gs)) : eqKeyFields fs = eqKeyFields gs := by
  simpa [eqKey, tagged] using h

theorem eqKeyFields_cons_inj {f : Field} {v w : PyValue}
    (h : eqKeyFields ((f, v) :: fs) = eqKeyFields ((f, w) :: gs)) (hv : omitted f v = false)
    (hw : omitted f w = false) : eqKey v = eqKey w ∧ eqKeyFields fs = eqKeyFields gs := by
  simpa [eqKeyFields, hv, hw, entry] using h

theorem digest_text_map_inj {a b : Option Digest} (h : a.map Digest.text = b.map Digest.text) :
    a = b := Option.map_injective (fun _ _ h => Digest.text_inj.1 h) h

theorem eqKey_context {a b : StrategyContext} (h : eqKey a.toPy = eqKey b.toPy) :
    a.eventTime = b.eventTime ∧ a.eventSequence = b.eventSequence := by
  have hfields := eqKey_dataclass_inj h
  obtain ⟨htime, hfields⟩ := eqKeyFields_cons_inj hfields rfl rfl
  obtain ⟨hsequence, -⟩ := eqKeyFields_cons_inj hfields rfl rfl
  exact ⟨eqKey_utc_inj htime, Int.ofNat.inj (eqKey_int_inj hsequence)⟩

structure SharedFields (p q : ForwardStrategyContextPreparation) : Prop where
  instanceId : p.instanceId = q.instanceId
  payloadFingerprint : p.payloadFingerprint = q.payloadFingerprint
  baseWindowFingerprint : p.baseWindowFingerprint = q.baseWindowFingerprint
  nextWindowFingerprint : p.nextWindowFingerprint = q.nextWindowFingerprint
  deliveryBindingFingerprint : p.deliveryBindingFingerprint = q.deliveryBindingFingerprint
  dispatchFingerprint : p.dispatchFingerprint = q.dispatchFingerprint
  preEventCheckpointFingerprint :
    p.preEventCheckpointFingerprint = q.preEventCheckpointFingerprint
  warmupReceiptFingerprint : p.warmupReceiptFingerprint = q.warmupReceiptFingerprint
  eventTime : p.context.eventTime = q.context.eventTime
  eventSequence : p.context.eventSequence = q.context.eventSequence

theorem ForwardStrategyContextPreparation.Equal.shared (h : p.Equal q) : SharedFields p q := by
  unfold ForwardStrategyContextPreparation.Equal ForwardStrategyContextPreparation.toPy at h
  simp [eqKey, eqKeyFields, omitted, Field.isPrivate, tagged, entry] at h
  obtain ⟨hid, hpayload, hbase, hnext, hcontext, hdelivery, hdispatch, hpre, hwarmup⟩ := h
  obtain ⟨htime, hsequence⟩ := eqKey_context hcontext
  exact ⟨hid, Digest.text_inj.1 hpayload, Digest.text_inj.1 hbase, Digest.text_inj.1 hnext,
    digest_text_map_inj (eqKey_optionText_inj hdelivery),
    digest_text_map_inj (eqKey_optionText_inj hdispatch),
    digest_text_map_inj (eqKey_optionText_inj hpre),
    digest_text_map_inj (eqKey_optionText_inj hwarmup), htime, hsequence⟩

theorem SharedFields.sameDelivery (h : SharedFields p q)
    {binding : Option NautilusForwardDeliveryBinding} :
    p.SameDelivery sha256 binding ↔ q.SameDelivery sha256 binding := by
  cases binding with
  | none =>
    unfold ForwardStrategyContextPreparation.SameDelivery
    rw [h.deliveryBindingFingerprint]
  | some b =>
    unfold ForwardStrategyContextPreparation.SameDelivery
    rw [h.deliveryBindingFingerprint, h.dispatchFingerprint, h.preEventCheckpointFingerprint,
      h.warmupReceiptFingerprint]

end

/-! ## Staging -/

namespace ForwardContextSession

section
variable {sha256 : String → Digest} {c : ForwardContextSession}
  {w w' : ForwardStrategyContextWindow} {payload : VerifiedForwardMarketPayload}
  {positions : Option (List (String × SdkPositionSnapshot))}
  {binding : Option NautilusForwardDeliveryBinding} {es : List MarketEvent} {e : MarketEvent}
  {d : StrategyDataDependency} {t : Instant} {n : ℕ} {instanceId : String}
  {p : ForwardStrategyContextPreparation}
  {x : ForwardStrategyContextPreparation × ContextEvents × EventKey}

structure ValidEvents (c : ForwardContextSession) (es : List MarketEvent) : Prop where
  declared : ∀ e ∈ es, ∃ d, c.manifest.dependency e.dependencyId = some d ∧ d.Declares e
  increasing : es.Pairwise fun a b => a.key < b.key

theorem ValidEvents.sublist {es' : List MarketEvent} (h : c.ValidEvents es)
    (hsub : es'.Sublist es) : c.ValidEvents es' :=
  ⟨fun e he => h.declared e (hsub.subset he), h.increasing.sublist hsub⟩

theorem bound_of_mem (h : d ∈ c.manifest.dataDependencies) :
    c.bound d.dependencyId = d.lookbackPeriods + 1 := c.manifest.bound_of_mem h

theorem ValidEvents.declaredWindow (h : c.ValidEvents es)
    (hd : d ∈ c.manifest.dataDependencies) (hkey : ∀ e ∈ es, e.key ≤ toLex (t, n)) :
    DeclaredWindow d t n (windows MarketEvent.dependencyId c.bound es d.dependencyId) where
  length_le := bound_of_mem hd ▸ length_windows_le
  declared e he := by
    obtain ⟨hmem, hid⟩ := mem_of_mem_windows he
    obtain ⟨d', hd', hdeclares⟩ := h.declared e hmem
    rw [hid, dependency_of_mem hd] at hd'
    exact Option.some.inj hd' ▸ hdeclares
  dependency e he := (mem_of_mem_windows he).2
  no_lookahead e he := hkey e (mem_of_mem_windows he).1
  chronological := (h.increasing.imp fun hlt => hlt.le).sublist windows_sublist

theorem ValidEvents.le_last (h : c.ValidEvents (es ++ [e])) : ∀ a ∈ es ++ [e], a.key ≤ e.key := by
  intro a ha
  rcases mem_append.1 ha with ha | ha
  · exact ((pairwise_append.1 h.increasing).2.2 a ha e (mem_singleton_self e)).le
  · rw [mem_singleton.1 ha]

/-- **A valid next event is staged**, and joins its window. -/
theorem stage_of (h : c.ValidEvents (es ++ [payload.marketEvent]))
    (hevents : w.events = windows MarketEvent.dependencyId c.bound es)
    (hlast : w.lastEventKey = es.getLast?.map MarketEvent.key) :
    ∃ context, c.stage sha256 w payload none binding =
      .ok (c.preparation sha256 w payload binding
        (windows MarketEvent.dependencyId c.bound (es ++ [payload.marketEvent])) context,
        windows MarketEvent.dependencyId c.bound (es ++ [payload.marketEvent]), payload.key) := by
  obtain ⟨d, hd, hdeclares⟩ := h.declared payload.marketEvent
    (mem_append_right _ (mem_singleton_self _))
  have hd : c.manifest.dependency payload.dependencyId = some d := hd
  have hle := h.le_last
  have hafter : w.lastEventKey.all (fun k => decide (k < payload.key)) = true := by
    rw [hlast]
    cases hes : es.getLast? with
    | none => rfl
    | some a =>
      have hlt := (pairwise_append.1 h.increasing).2.2 a (mem_of_getLast? hes)
        payload.marketEvent (mem_singleton_self _)
      rw [payload.key_marketEvent] at hlt
      exact decide_eq_true hlt
  have hvisible : (fun id => (windows MarketEvent.dependencyId c.bound
      (es ++ [payload.marketEvent]) id).filter fun e => decide (e.key ≤ payload.key)) =
      windows MarketEvent.dependencyId c.bound (es ++ [payload.marketEvent]) := by
    funext id
    refine filter_eq_self.2 fun a ha => decide_eq_true ?_
    rw [← payload.key_marketEvent]
    exact hle a (mem_of_mem_windows ha).1
  have hfreeze : freezeMapping c.parameters = .ok c.parameters :=
    freezeMapping_of_frozen c.parameters_accepted c.parameters_frozen
  have hkey : payload.marketEvent.key =
      toLex (payload.canonicalEvent.eventTime, payload.canonicalEvent.sequence) :=
    payload.key_marketEvent
  obtain ⟨context, hcontext⟩ : ∃ context, buildStrategyContext c.manifest
      payload.canonicalEvent.eventTime payload.canonicalEvent.sequence c.randomSeed c.parameters
      (c.manifest.series
        (windows MarketEvent.dependencyId c.bound (es ++ [payload.marketEvent])))
      none c.studyArtifacts = .ok context :=
    buildStrategyContext_of c.pinned hfreeze (fun i hi => absurd hi not_mem_nil)
      (fun i hi => absurd hi not_mem_nil)
      (fun d hd => h.declaredWindow hd fun a ha => hkey ▸ hle a ha)
  obtain ⟨-, -, -, -, -, hparameters⟩ := buildStrategyContext_eq_ok hcontext
  have hsame : digest sha256 (.mapping context.parameters) = c.parametersDigest sha256 := by
    rw [Except.ok.inj (hparameters.symm.trans hfreeze)]
    rfl
  refine ⟨context, ?_⟩
  unfold stage
  simp only [hd]
  rw [(checkDeclaration_eq_ok (u := ())).2 hdeclares, ok_bind, ensure_of hafter, ok_bind, hevents,
    ← windows_append_singleton, hvisible, hcontext, ok_bind, ensure_of hsame, ok_bind]
  rfl

theorem stage_eq_ok (h : c.stage sha256 w payload positions binding = .ok x) :
    (∃ d, c.manifest.dependency payload.dependencyId = some d ∧ d.Declares payload.marketEvent) ∧
      (∀ k ∈ w.lastEventKey, k < payload.key) ∧
      ∃ context, x = (c.preparation sha256 w payload binding
        (observe MarketEvent.dependencyId c.bound w.events payload.marketEvent) context,
        observe MarketEvent.dependencyId c.bound w.events payload.marketEvent, payload.key) ∧
        toLex (context.eventTime, context.eventSequence) = payload.key ∧
        context.marketEvents = c.manifest.series fun id =>
          (observe MarketEvent.dependencyId c.bound w.events payload.marketEvent id).filter
            fun e => decide (e.key ≤ payload.key) := by
  unfold stage at h
  cases hd : c.manifest.dependency payload.dependencyId with
  | none =>
    simp only [hd] at h
    cases h
  | some d =>
    simp only [hd] at h
    obtain ⟨_, hdeclares, h⟩ := bind_eq_ok.1 h
    obtain ⟨_, hlast, h⟩ := bind_eq_ok.1 h
    obtain ⟨context, hcontext, h⟩ := bind_eq_ok.1 h
    obtain ⟨_, -, h⟩ := bind_eq_ok.1 h
    obtain rfl := Except.ok.inj h
    obtain ⟨htime, hsequence, -, hseries, -⟩ := buildStrategyContext_eq_ok hcontext
    refine ⟨⟨d, rfl, checkDeclaration_eq_ok.1 hdeclares⟩, fun k hk => ?_, context, rfl, ?_,
      hseries⟩
    swap
    · rw [htime, hsequence]
      rfl
    have hall := ensure_eq_ok.1 hlast
    rw [Option.mem_def.1 hk, Option.all_some] at hall
    exact of_decide_eq_true hall

/-! ## Calls -/

theorem prepare_pending (hid : instanceId = c.instanceId)
    (hdelivery : c.checkDelivery sha256 payload binding = .ok ()) (hw : w.pending = some x)
    (hrepeats : Repeats sha256 x.1 payload binding) :
    c.prepare sha256 w payload instanceId positions binding = .ok (x.1, w) := by
  unfold prepare
  rw [ensure_of hid, ok_bind, hdelivery, ok_bind, hw]
  dsimp only
  rw [ensure_of hrepeats]
  rfl

theorem prepare_committed (hid : instanceId = c.instanceId)
    (hdelivery : c.checkDelivery sha256 payload binding = .ok ()) (hw : w.pending = none)
    (hlast : w.lastCommitted = some p) (hrepeats : Repeats sha256 p payload binding) :
    c.prepare sha256 w payload instanceId positions binding = .ok (p, w) := by
  have hfilter : (w.lastCommitted.filter fun p => decide (Repeats sha256 p payload binding)) =
      some p := by
    rw [hlast, Option.filter_some, if_pos (decide_eq_true hrepeats)]
  unfold prepare
  rw [ensure_of hid, ok_bind, hdelivery, ok_bind, hw]
  simp only [hfilter]
  rfl

theorem prepare_fresh (hid : instanceId = c.instanceId)
    (hdelivery : c.checkDelivery sha256 payload binding = .ok ()) (hw : w.pending = none)
    (hfresh : ∀ last ∈ w.lastCommitted, ¬ Repeats sha256 last payload binding) :
    c.prepare sha256 w payload instanceId positions binding =
      (c.stage sha256 w payload positions binding).map
        fun x => (x.1, { w with pending := some x }) := by
  have hfilter : (w.lastCommitted.filter fun p => decide (Repeats sha256 p payload binding)) =
      none := by
    rw [Option.filter_eq_none_iff]
    intro last hlast
    simpa using hfresh last hlast
  unfold prepare
  rw [ensure_of hid, ok_bind, hdelivery, ok_bind, hw]
  simp only [hfilter]
  cases c.stage sha256 w payload positions binding <;> rfl

/-- What a call of `prepare` found. -/
inductive Prepared (sha256 : String → Digest) (c : ForwardContextSession)
    (w : ForwardStrategyContextWindow) (payload : VerifiedForwardMarketPayload)
    (positions : Option (List (String × SdkPositionSnapshot)))
    (binding : Option NautilusForwardDeliveryBinding) :
    ForwardStrategyContextPreparation → ForwardStrategyContextWindow → Prop
  | pending {x : ForwardStrategyContextPreparation × ContextEvents × EventKey} :
      w.pending = some x → Repeats sha256 x.1 payload binding →
      Prepared sha256 c w payload positions binding x.1 w
  | committed {p : ForwardStrategyContextPreparation} :
      w.pending = none → w.lastCommitted = some p → Repeats sha256 p payload binding →
      Prepared sha256 c w payload positions binding p w
  | staged {x : ForwardStrategyContextPreparation × ContextEvents × EventKey} : w.pending = none →
      (∀ last ∈ w.lastCommitted, ¬ Repeats sha256 last payload binding) →
      c.stage sha256 w payload positions binding = .ok x →
      Prepared sha256 c w payload positions binding x.1 { w with pending := some x }

theorem prepare_cases
    (h : c.prepare sha256 w payload instanceId positions binding = .ok (p, w')) :
    instanceId = c.instanceId ∧ c.checkDelivery sha256 payload binding = .ok () ∧
      Prepared sha256 c w payload positions binding p w' := by
  unfold prepare at h
  obtain ⟨_, hid, h⟩ := bind_eq_ok.1 h
  obtain ⟨_, hdelivery, h⟩ := bind_eq_ok.1 h
  refine ⟨ensure_eq_ok.1 hid, hdelivery, ?_⟩
  cases hw : w.pending with
  | some x =>
    simp only [hw] at h
    obtain ⟨_, hrepeats, h⟩ := bind_eq_ok.1 h
    cases Except.ok.inj h
    exact .pending hw (ensure_eq_ok.1 hrepeats)
  | none =>
    simp only [hw] at h
    cases hfilter : w.lastCommitted.filter fun p => decide (Repeats sha256 p payload binding) with
    | some last =>
      simp only [hfilter] at h
      cases Except.ok.inj h
      obtain ⟨hlast, hrepeats⟩ := Option.filter_eq_some_iff.1 hfilter
      exact .committed hw hlast (of_decide_eq_true hrepeats)
    | none =>
      simp only [hfilter] at h
      obtain ⟨x, hx, h⟩ := bind_eq_ok.1 h
      cases Except.ok.inj h
      refine .staged hw (fun last hlast hrepeats => ?_) hx
      exact Option.filter_eq_none_iff.1 hfilter last hlast (decide_eq_true hrepeats)

theorem any_equal_iff : w.lastCommitted.any (fun last => decide (p.Equal last)) = true ↔
    ∃ last, w.lastCommitted = some last ∧ p.Equal last := by
  cases w.lastCommitted <;> simp

theorem commit_cases {fingerprint : Digest} (h : c.commit sha256 w p = .ok (fingerprint, w')) :
    (∃ last, w.lastCommitted = some last ∧ p.Equal last ∧ w' = w) ∨
      ∃ x, w.pending = some x ∧ p.Equal x.1 ∧
        c.fingerprintForState sha256 (some x.2.2) x.2.1 = p.nextWindowFingerprint ∧
        w' = { events := x.2.1, pending := none, lastCommitted := some p,
               lastEventKey := some x.2.2 } := by
  unfold commit at h
  obtain ⟨_, -, h⟩ := bind_eq_ok.1 h
  by_cases hlast : w.lastCommitted.any (fun last => decide (p.Equal last)) = true
  · rw [if_pos hlast] at h
    obtain ⟨_, -, h⟩ := bind_eq_ok.1 h
    cases Except.ok.inj h
    obtain ⟨last, hmem, hequal⟩ := any_equal_iff.1 hlast
    exact .inl ⟨last, hmem, hequal, rfl⟩
  · rw [if_neg hlast] at h
    cases hw : w.pending with
    | none =>
      simp only [hw] at h
      cases h
    | some x =>
      simp only [hw] at h
      obtain ⟨_, hequal, h⟩ := bind_eq_ok.1 h
      obtain ⟨_, -, h⟩ := bind_eq_ok.1 h
      obtain ⟨_, hnext, h⟩ := bind_eq_ok.1 h
      cases Except.ok.inj h
      exact .inr ⟨x, rfl, ensure_eq_ok.1 hequal, ensure_eq_ok.1 hnext, rfl⟩

theorem discard_cases (h : c.discard sha256 w p = .ok w') :
    w' = w ∨ ∃ x, w.pending = some x ∧ p.Equal x.1 ∧ w' = { w with pending := none } := by
  unfold discard at h
  by_cases hlast : w.lastCommitted.any (fun last => decide (p.Equal last)) = true
  · rw [if_pos hlast] at h
    obtain ⟨_, -, h⟩ := bind_eq_ok.1 h
    exact .inl (Except.ok.inj h).symm
  · rw [if_neg hlast] at h
    cases hw : w.pending with
    | none =>
      simp only [hw] at h
      cases h
    | some x =>
      simp only [hw] at h
      obtain ⟨_, hequal, h⟩ := bind_eq_ok.1 h
      exact .inr ⟨x, rfl, ensure_eq_ok.1 hequal, (Except.ok.inj h).symm⟩

end

end ForwardContextSession

end ChartingPlatform
