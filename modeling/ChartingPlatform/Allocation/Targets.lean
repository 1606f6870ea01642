/-
  The shared-account allocator (`allocation.py`): the targets that components request at
  one event are resolved against the positions of a snapshot, and pass or fail the limits
  of the portfolio's policy together.
-/
import ChartingPlatform.Allocation.Portfolios
import ChartingPlatform.Lib.Groups
import ChartingPlatform.Strategy.Sdk

namespace ChartingPlatform

open Lib

abbrev TargetKey := String × String

instance : LawfulBEq TargetKey := inferInstance

/-- The order of the pairs of a component and an instrument. -/
def keyOrder (k : TargetKey) : String ×ₗ String := toLex k

/-! ## Snapshots -/

/-- `ComponentPositionExposure`. -/
@[ext]
structure ComponentPositionExposure where
  componentId : String
  instrumentId : String
  signedBaseRiskExposure : ℚ
  componentId_notBlank : notBlank componentId = true
  instrumentId_notBlank : notBlank instrumentId = true

def ComponentPositionExposure.key (p : ComponentPositionExposure) : TargetKey :=
  (p.componentId, p.instrumentId)

def ComponentPositionExposure.toPy (enc : AccountEncoding) (p : ComponentPositionExposure) :
    PyValue :=
  .dataclass "app.strategy_lab_v2.allocation.ComponentPositionExposure"
    [({ name := "component_id" }, .str p.componentId),
      ({ name := "instrument_id" }, .str p.instrumentId),
      ({ name := "signed_base_risk_exposure" }, .decimal (enc.decimal p.signedBaseRiskExposure))]

/-- `InstrumentRiskBinding`. -/
@[ext]
structure InstrumentRiskBinding where
  instrumentId : String
  riskModel : ProductRiskModel
  instrumentId_notBlank : notBlank instrumentId = true

def InstrumentRiskBinding.toPy (b : InstrumentRiskBinding) : PyValue :=
  .dataclass "app.strategy_lab_v2.allocation.InstrumentRiskBinding"
    [({ name := "instrument_id" }, .str b.instrumentId),
      ({ name := "risk_model" }, b.riskModel.toPy)]

/-- `PortfolioExposureSnapshot`. -/
structure PortfolioExposureSnapshot where
  portfolioFingerprint : Digest
  runAttemptId : String
  eventTime : Instant
  eventSequence : ℕ
  accountEquity : ℚ
  accountCashBalance : ℚ
  baseCurrency : String
  valuationEvidenceDigest : Digest
  positions : List ComponentPositionExposure
  instrumentRiskModels : List InstrumentRiskBinding
  runAttemptId_notBlank : notBlank runAttemptId = true
  equity_pos : 0 < accountEquity
  sorted : positions.Pairwise fun p q => keyOrder p.key < keyOrder q.key
  unique_instruments : (instrumentRiskModels.map InstrumentRiskBinding.instrumentId).Nodup

/-- `PortfolioExposureSnapshot.__post_init__`. -/
def makePortfolioExposureSnapshot (portfolioFingerprint : Digest) (runAttemptId : String)
    (eventTime : Instant) (eventSequence : ℕ) (accountEquity accountCashBalance : ℚ)
    (baseCurrency : String) (valuationEvidenceDigest : Digest)
    (positions : List ComponentPositionExposure) (riskModels : List InstrumentRiskBinding) :
    Except PyError PortfolioExposureSnapshot :=
  if hid : notBlank runAttemptId = true then
    if hequity : 0 < accountEquity then
      if IsCurrency baseCurrency then
        if hkeys : (positions.map fun p => keyOrder p.key).Nodup then
          if hinstruments : (riskModels.map InstrumentRiskBinding.instrumentId).Nodup then
            .ok {
              portfolioFingerprint := portfolioFingerprint
              runAttemptId := runAttemptId
              eventTime := eventTime
              eventSequence := eventSequence
              accountEquity := accountEquity
              accountCashBalance := accountCashBalance
              baseCurrency := String.ofList (baseCurrency.toList.map Char.toUpper)
              valuationEvidenceDigest := valuationEvidenceDigest
              positions := sortBy (fun p => keyOrder p.key) positions
              instrumentRiskModels := sortBy InstrumentRiskBinding.instrumentId riskModels
              runAttemptId_notBlank := hid
              equity_pos := hequity
              sorted := pairwise_lt_sortBy hkeys
              unique_instruments :=
                ((perm_sortBy InstrumentRiskBinding.instrumentId riskModels).map _).nodup_iff.2
                  hinstruments }
          else .error (valueError "instrument risk models must be unique per instrument")
        else .error (valueError "position exposures must be unique per component and instrument")
      else .error (valueError "base_currency must be a three-letter code")
    else .error (valueError "account_equity must be a finite positive Decimal")
  else .error (valueError "run_attempt_id must not be empty")

/-- `PortfolioExposureSnapshot.fingerprint`. -/
def PortfolioExposureSnapshot.fingerprint (enc : AccountEncoding) (s : PortfolioExposureSnapshot) :
    Digest :=
  digest enc.sha256 (.dataclass "app.strategy_lab_v2.allocation.PortfolioExposureSnapshot"
    [({ name := "portfolio_fingerprint" }, .str s.portfolioFingerprint.text),
      ({ name := "run_attempt_id" }, .str s.runAttemptId),
      ({ name := "event_time" }, .datetime (.utc s.eventTime)),
      ({ name := "event_sequence" }, .int s.eventSequence),
      ({ name := "account_equity" }, .decimal (enc.decimal s.accountEquity)),
      ({ name := "account_cash_balance" }, .decimal (enc.decimal s.accountCashBalance)),
      ({ name := "base_currency" }, .str s.baseCurrency),
      ({ name := "valuation_evidence_digest" }, .str s.valuationEvidenceDigest.text),
      ({ name := "positions" }, .tuple (s.positions.map fun p => p.toPy enc)),
      ({ name := "instrument_risk_models" },
        .tuple (s.instrumentRiskModels.map InstrumentRiskBinding.toPy))])

/-! ## Requests -/

/-- `ComponentTargetRequest`. -/
@[ext]
structure ComponentTargetRequest where
  componentId : String
  instrumentId : String
  targetFractionOfComponentBudget : ℚ
  eventTime : Instant
  eventSequence : ℕ
  componentId_notBlank : notBlank componentId = true
  instrumentId_notBlank : notBlank instrumentId = true

instance : DecidableEq ComponentTargetRequest := fun _ _ =>
  decidable_of_iff' _ ComponentTargetRequest.ext_iff

def ComponentTargetRequest.key (r : ComponentTargetRequest) : TargetKey :=
  (r.componentId, r.instrumentId)

def requestOrder (r : ComponentTargetRequest) : String ×ₗ String :=
  toLex (r.instrumentId, r.componentId)

/-! ## Decisions -/

/-- `AllocationRejectionCode`. -/
inductive AllocationRejectionCode where
  | lowerPriority | targetConflict | priorityTie
  deriving DecidableEq, Repr

def AllocationRejectionCode.text : AllocationRejectionCode → String
  | .lowerPriority => "lower_priority"
  | .targetConflict => "target_conflict"
  | .priorityTie => "priority_tie"

/-- `RiskBreach`. -/
inductive RiskBreach where
  | grossExposure | netExposure | instrumentConcentration | componentConcentration
  | componentLeverage | openInstrumentCount | shortPosition
  deriving DecidableEq, Repr

/-- `TargetRejection`. -/
structure TargetRejection where
  componentId : String
  instrumentId : String
  code : AllocationRejectionCode
  deriving DecidableEq

/-- `ComponentTargetExposure`. -/
structure ComponentTargetExposure where
  componentId : String
  instrumentId : String
  targetFractionOfEquity : ℚ
  deriving DecidableEq

/-- `InstrumentTargetExposure`. -/
structure InstrumentTargetExposure where
  instrumentId : String
  targetFractionOfEquity : ℚ
  targetSignedBaseNotional : ℚ
  deriving DecidableEq

/-- `ALLOCATION_DEFINITION_VERSION`. -/
def allocationDefinitionVersion : String := "strategy-lab.allocation.v1.decimal34-half-even"

/-- `AllocationDecision`. -/
structure AllocationDecision where
  definitionVersion : String
  portfolioFingerprint : Digest
  exposureSnapshotFingerprint : Digest
  policyFingerprint : Digest
  eventTime : Instant
  eventSequence : ℕ
  riskLimitsSatisfied : Bool
  proposedComponentExposures : List ComponentTargetExposure
  proposedInstrumentTargets : List InstrumentTargetExposure
  riskApprovedInstrumentTargets : List InstrumentTargetExposure
  rejectedTargets : List TargetRejection
  riskBreaches : List RiskBreach
  grossExposureFraction : ℚ
  netExposureFraction : ℚ
  maxInstrumentGrossExposureFraction : ℚ
  maxComponentGrossExposureFraction : ℚ
  openInstrumentCount : ℕ
  deriving DecidableEq

def TargetRejection.key (r : TargetRejection) : TargetKey := (r.componentId, r.instrumentId)

def ComponentTargetExposure.key (e : ComponentTargetExposure) : TargetKey :=
  (e.componentId, e.instrumentId)

/-! ## Current exposures -/

/-- A share of the account's equity under a component and an instrument. -/
abbrev Exposure := TargetKey × ℚ

section
variable (enc : AccountEncoding) (arith : Arithmetic) (portfolio : PortfolioComposition)

def currentExposure (equity : ℚ) (p : ComponentPositionExposure) :
    Except PyError (Option Exposure) :=
  match portfolio.component p.componentId with
  | none => .error (valueError ("unknown position component " ++ reprText p.componentId))
  | some component => do
    ensure (p.instrumentId ∈ component.instrumentIds)
      (valueError ("component " ++ reprText p.componentId ++ " holds undeclared instrument " ++
        reprText p.instrumentId))
    let fraction ← arith (p.signedBaseRiskExposure / equity)
    return if fraction = 0 then none else some (p.key, fraction)

/-- `current`. -/
def currentExposures (snapshot : PortfolioExposureSnapshot) : Except PyError (List Exposure) := do
  let exposures ← collect (snapshot.positions.map
    (currentExposure arith portfolio snapshot.accountEquity))
  return exposures.reduceOption

/-! ## Admission -/

structure ReadRequests where
  keys : List TargetKey := []
  byInstrument : List (String × List ComponentTargetRequest) := []

def readRequest (read : ReadRequests) (r : ComponentTargetRequest) : Except PyError ReadRequests :=
  match portfolio.component r.componentId with
  | none => .error (valueError ("unknown target component " ++ reprText r.componentId))
  | some component => do
    ensure (r.instrumentId ∈ component.instrumentIds)
      (valueError ("component " ++ reprText r.componentId ++ " targets undeclared instrument " ++
        reprText r.instrumentId))
    ensure (r.key ∉ read.keys)
      (valueError "a component may target each instrument only once per event")
    return ⟨r.key :: read.keys, addTo read.byInstrument r.instrumentId r⟩

/-- `by_instrument`. -/
def requestsByInstrument (requests : List ComponentTargetRequest) :
    Except PyError (List (String × List ComponentTargetRequest)) :=
  (requests.foldlM (readRequest portfolio) {}).map ReadRequests.byInstrument

def checkRiskModel (snapshot : PortfolioExposureSnapshot) (instrumentId : String) :
    Except PyError Unit :=
  match rowWith InstrumentRiskBinding.instrumentId instrumentId snapshot.instrumentRiskModels with
  | none =>
    .error (valueError ("instrument " ++ reprText instrumentId ++ " has no risk-model evidence"))
  | some binding => do
    ensure (binding.riskModel ∈ supportedProductRiskModels enc.sha256)
      (valueError ("instrument " ++ reprText instrumentId ++
        " uses an unsupported product risk model"))
    ensure (rowWith ProductRiskModel.productClass binding.riskModel.productClass
        portfolio.sharedRiskPolicy.riskModels = some binding.riskModel)
      (valueError ("instrument " ++ reprText instrumentId ++
        " risk model is not allowed by the portfolio policy"))

/-- `required_instruments`. -/
def requiredInstruments (current : List Exposure) (requests : List ComponentTargetRequest) :
    Finset String :=
  (current.map fun e => e.1.2).toFinset ∪ (requests.map fun r => r.instrumentId).toFinset

/-! ## Conflicts -/

def ComponentTargetRequest.reject (code : AllocationRejectionCode) (r : ComponentTargetRequest) :
    TargetRejection :=
  ⟨r.componentId, r.instrumentId, code⟩

/-- `highest_priority`. -/
def highestPriority (requests : List ComponentTargetRequest) : ℕ :=
  ((requests.map fun r => portfolio.priority r.componentId).max?).getD 0

def resolveInstrument (requests : List ComponentTargetRequest) :
    List TargetRejection × List ComponentTargetRequest :=
  match portfolio.sharedRiskPolicy.targetConflictPolicy with
  | .reject =>
    if 1 < requests.length then (requests.map (·.reject .targetConflict), [])
    else ([], requests)
  | .highestPriority =>
    if 1 < requests.length then
      match requests.filter fun r =>
        portfolio.priority r.componentId = highestPriority portfolio requests with
      | [winner] => ((requests.filter (· ≠ winner)).map (·.reject .lowerPriority), [winner])
      | _ => (requests.map (·.reject .priorityTie), [])
    else ([], requests)
  | .sumComponentTargets => ([], requests)

/-- The requests in the order in which they are resolved. -/
def sortedRequests (byInstrument : List (String × List ComponentTargetRequest)) :
    List (List ComponentTargetRequest) :=
  (sortBy Prod.fst byInstrument).map fun g => sortBy ComponentTargetRequest.componentId g.2

def placeTarget (exposures : List Exposure) (r : ComponentTargetRequest) :
    Except PyError (List Exposure) := do
  let fraction ← arith (portfolio.capitalWeight r.componentId * r.targetFractionOfComponentBudget)
  return upsert Prod.fst (r.key, fraction) exposures

/-! ## Limits -/

/-- `abs(value)`. -/
def magnitude (e : Exposure) : Except PyError ℚ := arith |e.2|

structure GrossExposures where
  instruments : List (String × ℚ) := []
  components : List (String × ℚ) := []

/-- The loop of `_risk_breaches`. -/
def addHeld (totals : GrossExposures) (e : Exposure) : Except PyError GrossExposures :=
  if e.2 = 0 then .ok totals
  else do
    let x ← magnitude arith e
    let instruments ← addAt arith totals.instruments e.1.2 x
    let components ← addAt arith totals.components e.1.1 x
    return ⟨instruments, components⟩

/-- A component's gross exposure is over its leverage. -/
def overLeverage (total : String × ℚ) : Except PyError Bool := do
  let bound ← arith (portfolio.capitalWeight total.1 *
    portfolio.sharedRiskPolicy.maxComponentLeverage)
  return decide (bound < total.2)

/-- `_risk_breaches`. -/
def riskBreaches (exposures : List Exposure) : Except PyError (List RiskBreach) := do
  let policy := portfolio.sharedRiskPolicy
  let gross ← totalFrom arith (magnitude arith) 0 exposures
  let net ← totalFrom arith (fun e => .ok e.2) 0 exposures
  let totals ← exposures.foldlM (addHeld arith) {}
  let netMagnitude ← arith |net|
  let leveraged ← totals.components.anyM (overLeverage arith portfolio)
  return (if policy.maxGrossExposureFraction < gross then [.grossExposure] else []) ++
    (if policy.maxNetExposureFraction < netMagnitude then [.netExposure] else []) ++
    (if totals.instruments.any (fun t => policy.maxInstrumentGrossExposureFraction < t.2) then
      [.instrumentConcentration] else []) ++
    (if totals.components.any (fun t => policy.maxComponentGrossExposureFraction < t.2) then
      [.componentConcentration] else []) ++
    (if leveraged then [.componentLeverage] else []) ++
    (if policy.maxOpenInstruments.any (fun n => n < totals.instruments.length) then
      [.openInstrumentCount] else []) ++
    (if policy.allowShortPositions = false ∧ exposures.any (fun e => e.2 < 0) then
      [.shortPosition] else [])

/-! ## The decision -/

structure ReportedTotals extends GrossExposures where
  fractions : List (String × ℚ) := []

/-- The loop of `allocate_component_targets`. -/
def addReported (totals : ReportedTotals) (e : Exposure) : Except PyError ReportedTotals := do
  let fractions ← addAt arith totals.fractions e.1.2 e.2
  let x ← magnitude arith e
  let instruments ← addAt arith totals.instruments e.1.2 x
  let components ← addAt arith totals.components e.1.1 x
  return ⟨⟨instruments, components⟩, fractions⟩

/-- `max(totals.values(), default=Decimal(0))`. -/
def maxTotal (totals : List (String × ℚ)) : ℚ := ((totals.map Prod.snd).max?).getD 0

def proposedExposures (resolved : List Exposure) (selected : List TargetKey) : List Exposure :=
  (sortBy (fun e => keyOrder e.1) resolved).filter fun e => e.2 ≠ 0 ∨ e.1 ∈ selected

def instrumentTarget (equity : ℚ) (fraction : String × ℚ) :
    Except PyError InstrumentTargetExposure := do
  let notional ← arith (fraction.2 * equity)
  return ⟨fraction.1, fraction.2, notional⟩

/-- The rest of `allocate_component_targets`, once the conflicts are resolved. -/
def decideAllocation (snapshot : PortfolioExposureSnapshot) (rejected : List TargetRejection)
    (selected : List ComponentTargetRequest) (current : List Exposure) :
    Except PyError AllocationDecision := do
  let resolved ← selected.foldlM (placeTarget arith portfolio) current
  let breaches ← riskBreaches arith portfolio resolved
  let exposures := proposedExposures resolved (selected.map ComponentTargetRequest.key)
  let totals ← exposures.foldlM (addReported arith) {}
  let targets ← collect (((sortBy Prod.fst totals.fractions).filter fun f =>
    0 < totalOf totals.instruments f.1 ∨
      f.1 ∈ selected.map ComponentTargetRequest.instrumentId).map
        (instrumentTarget arith snapshot.accountEquity))
  let gross ← totalFrom arith (magnitude arith) 0 resolved
  let net ← totalFrom arith (fun e => .ok e.2) 0 resolved
  return {
    definitionVersion := allocationDefinitionVersion
    portfolioFingerprint := portfolio.fingerprint
    exposureSnapshotFingerprint := snapshot.fingerprint enc
    policyFingerprint := portfolio.sharedRiskPolicy.fingerprint
    eventTime := snapshot.eventTime
    eventSequence := snapshot.eventSequence
    riskLimitsSatisfied := decide (breaches = [])
    proposedComponentExposures := exposures.map fun e => ⟨e.1.1, e.1.2, e.2⟩
    proposedInstrumentTargets := targets
    riskApprovedInstrumentTargets := if breaches = [] then targets else []
    rejectedTargets := sortBy (fun r : TargetRejection =>
      toLex (r.instrumentId, toLex (r.componentId, r.code.text))) rejected
    riskBreaches := breaches
    grossExposureFraction := gross
    netExposureFraction := net
    maxInstrumentGrossExposureFraction := maxTotal totals.instruments
    maxComponentGrossExposureFraction := maxTotal totals.components
    openInstrumentCount := totals.instruments.countP fun t => 0 < t.2 }

/-- `allocate_component_targets`. -/
def allocateComponentTargets (snapshot : PortfolioExposureSnapshot)
    (requests : List ComponentTargetRequest) : Except PyError AllocationDecision := do
  ensure (snapshot.portfolioFingerprint = portfolio.fingerprint)
    (valueError "exposure snapshot does not belong to this portfolio version")
  ensure (snapshot.baseCurrency = portfolio.baseCurrency)
    (valueError "exposure snapshot base currency does not match the portfolio")
  let current ← currentExposures arith portfolio snapshot
  ensure (∀ r ∈ requests, r.eventTime = snapshot.eventTime ∧
      r.eventSequence = snapshot.eventSequence)
    (valueError "all target requests must match the exposure snapshot event")
  let byInstrument ← requestsByInstrument portfolio requests
  discard (collect ((sortedList (requiredInstruments current requests)).map
    (checkRiskModel enc portfolio snapshot)))
  let outcomes := (sortedRequests byInstrument).map (resolveInstrument portfolio)
  decideAllocation enc arith portfolio snapshot (outcomes.flatMap Prod.fst)
    (outcomes.flatMap Prod.snd) current

end

end ChartingPlatform
