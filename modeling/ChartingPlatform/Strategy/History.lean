/-
  Verified payloads (`nautilus_forward_input.py`) and the bounded histories of them that
  a forward window is rebuilt from (`forward_context.py`).
-/
import ChartingPlatform.Forward.AdmissionRuns
import ChartingPlatform.Strategy.Sdk

namespace ChartingPlatform

open Lib List

/-! ## Payloads -/

/-- `VerifiedForwardMarketPayload`. -/
structure VerifiedForwardMarketPayload where
  canonicalEvent : CanonicalForwardEvent
  marketEvent : MarketEvent
  verifiedSourceDigest : Digest
  source_eq : verifiedSourceDigest = canonicalEvent.sourceDigest
  eventId_eq : marketEvent.eventId = canonicalEvent.eventId
  sequence_eq : marketEvent.sequence = canonicalEvent.sequence
  eventTime_eq : marketEvent.eventTime = canonicalEvent.eventTime

namespace VerifiedForwardMarketPayload

def toPy (p : VerifiedForwardMarketPayload) : PyValue :=
  .dataclass "app.strategy_lab_v2.nautilus_forward_input.VerifiedForwardMarketPayload"
    [({ name := "canonical_event" }, p.canonicalEvent.toPy),
      ({ name := "market_event" }, p.marketEvent.toPy),
      ({ name := "verified_source_digest" }, .str p.verifiedSourceDigest.text)]

/-- `VerifiedForwardMarketPayload.fingerprint`. -/
def fingerprint (sha256 : String → Digest) (p : VerifiedForwardMarketPayload) : Digest :=
  digest sha256 p.toPy

/-- `(canonical_event.event_time, canonical_event.sequence)`. -/
def key (p : VerifiedForwardMarketPayload) : Instant ×ₗ ℕ :=
  toLex (p.canonicalEvent.eventTime, p.canonicalEvent.sequence)

/-- `canonical_event.event_id`. -/
def eventId (p : VerifiedForwardMarketPayload) : String := p.canonicalEvent.eventId

/-- `market_event.dependency_id`. -/
def dependencyId (p : VerifiedForwardMarketPayload) : String := p.marketEvent.dependencyId

@[simp] theorem key_marketEvent (p : VerifiedForwardMarketPayload) : p.marketEvent.key = p.key := by
  rw [MarketEvent.key, key, p.eventTime_eq, p.sequence_eq]

end VerifiedForwardMarketPayload

def checkDeclaration (instrument interval fields : String) (d : StrategyDataDependency)
    (e : MarketEvent) : Except PyError Unit := do
  ensure (e.instrumentId = d.requirement.instrumentId) (valueError instrument)
  ensure (d.requirement.start ≤ e.eventTime ∧ e.eventTime < d.requirement.stop)
    (valueError interval)
  ensure ((∀ f ∈ e.fieldNames, f ∈ d.fields) ∧ ∀ f ∈ d.fields, f ∈ e.fieldNames)
    (valueError fields)

theorem checkDeclaration_eq_ok {m₁ m₂ m₃ : String} {d : StrategyDataDependency} {e : MarketEvent}
    {u : Unit} : checkDeclaration m₁ m₂ m₃ d e = .ok u ↔ d.Declares e := by
  unfold checkDeclaration
  simp only [bind_eq_ok, ensure_eq_ok]
  constructor
  · rintro ⟨_, hinstrument, _, hinterval, hextra, hmissing⟩
    exact ⟨hinstrument, hinterval, hextra, hmissing⟩
  · intro h
    exact ⟨(), h.instrument, (), h.interval, h.extra, h.missing⟩

/-! ## Histories -/

/-- `ForwardStrategyContextHistory`. -/
structure ForwardStrategyContextHistory where
  instanceId : String
  manifestFingerprint : Digest
  preEventCheckpointFingerprint : Digest
  warmupReceiptFingerprint : Digest
  events : List VerifiedForwardMarketPayload
  beforeEventFingerprint : Option Digest := none
  warmupSnapshotFingerprint : Option Digest := none
  warmupTapeFingerprint : Option Digest := none
  warmupSourceArtifactDigests : List Digest := []
  warmupEventIds : List String := []
  processedPrefixFingerprint : Option Digest := none
  instanceId_notBlank : notBlank instanceId = true
  digests_sorted : (warmupSourceArtifactDigests.map Digest.text).Pairwise (· < ·)
  digests_tape : warmupTapeFingerprint = none → warmupSourceArtifactDigests = []
  eventIds_notBlank : ∀ id ∈ warmupEventIds, notBlank id = true
  unique_ids : (events.map (·.eventId)).Nodup
  increasing : events.IsChain fun a b => a.key < b.key
  eventIds_mem : ∀ id ∈ warmupEventIds, id ∈ events.map (·.eventId)

/-! ## One dependency -/

def sampleManifest (lookback : ℕ) : StrategySdkManifest where
  fingerprint := ⟨"manifest"⟩
  dataDependencies := [{
    dependencyId := "spy"
    requirement := ⟨"SPY", clock 0, clock 900, Eq.refl true, by decide⟩
    fields := ["close"]
    lookbackPeriods := lookback
    dependencyId_notBlank := Eq.refl true
    fields_nonempty := by decide
    fields_notBlank := by decide
    fields_sorted := pairwise_singleton _ _ }]
  nonempty := cons_ne_nil _ _
  sorted := pairwise_singleton _ _

def sampleMarketEvent (field id : String) (sequence : ℕ) (h : notBlank id = true := by exact Eq.refl true) :
    MarketEvent where
  dependencyId := "spy"
  eventId := id
  instrumentId := "SPY"
  eventTime := clock 10
  sequence := sequence
  values := [(.str field, .int 1)]
  dependencyId_notBlank := Eq.refl true
  eventId_notBlank := h
  instrumentId_notBlank := Eq.refl true
  values_accepted := ⟨_, rfl⟩
  values_frozen := .mapping fun i hi => mem_singleton.1 hi ▸ .int

def samplePayload (id : String) (sequence : ℕ) (h : notBlank id = true := by exact Eq.refl true) :
    VerifiedForwardMarketPayload where
  canonicalEvent := sampleEvent id sequence (clock 10) (clock 11) h
  marketEvent := sampleMarketEvent "close" id sequence h
  verifiedSourceDigest := ⟨"source"⟩
  source_eq := rfl
  eventId_eq := rfl
  sequence_eq := rfl
  eventTime_eq := rfl

theorem declares_sampleMarketEvent {id : String} {n lookback : ℕ} (h : notBlank id = true) :
    ∃ d, (sampleManifest lookback).dependency (sampleMarketEvent "close" id n h).dependencyId =
      some d ∧ d.Declares (sampleMarketEvent "close" id n h) := by
  have hinterval : clock 0 ≤ clock 10 ∧ clock 10 < clock 900 := by decide
  refine ⟨_, dependency_of_mem (m := sampleManifest lookback) mem_cons_self, ?_⟩
  exact ⟨rfl, hinterval, fun _ hf => hf, fun _ hf => hf⟩

end ChartingPlatform
