/-
  Capability preflight (`capabilities.py`): `preflight_capabilities`.

  Requirements are matched with the best capability cell of their instrument.  Datetimes are
  UTC instants, dates of substitutions are read by a parameter (`datetime.fromisoformat`).
  Checks that the types already make are left out, as are those of the digests' format.
-/
import ChartingPlatform.Allocation.Portfolios
import ChartingPlatform.Snapshots.FrozenCoverage
import ChartingPlatform.Strategy.Sdk

namespace ChartingPlatform

open Lib

/-! ## Requirements and cells -/

/-- `CapabilityRequirement`. -/
@[ext]
structure PreflightRequirement where
  instrumentId : String
  productClass : ProductClass
  eventGranularity : EventGranularity
  eventType : String
  timeframe : String
  start : Instant
  stop : Instant
  adjustment : AdjustmentMode
  session : String
  feed : String
  executionModel : String
  accountModel : String
  corporateActionSemantics : String
  texts_notBlank : ∀ text ∈ [instrumentId, eventType, timeframe, session, feed, executionModel,
    accountModel, corporateActionSemantics], notBlank text = true
  start_lt_stop : start < stop

instance : DecidableEq PreflightRequirement := fun _ _ =>
  decidable_of_iff' _ PreflightRequirement.ext_iff

/-- `CapabilityCell`. -/
@[ext]
structure CapabilityCell where
  instrumentId : String
  productClass : ProductClass
  eventGranularities : Finset EventGranularity
  eventTypes : Finset String
  timeframes : Finset String
  adjustments : Finset AdjustmentMode
  sessions : Finset String
  feeds : Finset String
  executionModels : Finset String
  accountModels : Finset String
  corporateActionSemantics : Finset String
  historyStart : Instant
  historyEnd : Instant
  evidenceDigest : Digest
  instrument_notBlank : notBlank instrumentId = true
  start_lt_end : historyStart < historyEnd
  nonempty : eventGranularities ≠ ∅ ∧ adjustments ≠ ∅ ∧ ∀ texts ∈ [eventTypes, timeframes,
    sessions, feeds, executionModels, accountModels, corporateActionSemantics],
    texts ≠ ∅ ∧ ∀ text ∈ texts, notBlank text = true

instance : DecidableEq CapabilityCell := fun _ _ => decidable_of_iff' _ CapabilityCell.ext_iff

/-- The value of the field in `allowed_fields`. -/
def DegradedField.text : DegradedField → String
  | .eventGranularity => "event_granularity"
  | .eventType => "event_type"
  | .timeframe => "timeframe"
  | .historyStart => "history_start"
  | .historyEnd => "history_end"
  | .adjustment => "adjustment"
  | .session => "session"
  | .feed => "feed"
  | .executionModel => "execution_model"
  | .accountModel => "account_model"
  | .corporateActionSemantics => "corporate_action_semantics"

def membersToPy (cls : String) (texts : Finset String) : PyValue :=
  .set true ((sortedList texts).map fun text => .enum cls (.str text))

namespace PreflightRequirement

def sortKey (r : PreflightRequirement) :=
  toLex (r.instrumentId, toLex (r.productClass.text, toLex (r.eventGranularity.text,
    toLex (r.eventType, toLex (r.timeframe, toLex (r.start, toLex (r.stop,
      toLex (r.adjustment.text, toLex (r.session, toLex (r.feed, toLex (r.executionModel,
        toLex (r.accountModel, r.corporateActionSemantics))))))))))))

def toPy (r : PreflightRequirement) : PyValue :=
  .dataclass "app.strategy_lab_v2.capabilities.CapabilityRequirement"
    [({ name := "instrument_id" }, .str r.instrumentId),
      ({ name := "product_class" }, .enum "app.strategy_lab_v2.contracts.ProductClass"
        (.str r.productClass.text)),
      ({ name := "event_granularity" }, .enum "app.strategy_lab_v2.contracts.EventGranularity"
        (.str r.eventGranularity.text)),
      ({ name := "event_type" }, .str r.eventType), ({ name := "timeframe" }, .str r.timeframe),
      ({ name := "start" }, .datetime (.utc r.start)),
      ({ name := "end" }, .datetime (.utc r.stop)),
      ({ name := "adjustment" }, .enum "app.strategy_lab_v2.contracts.AdjustmentMode"
        (.str r.adjustment.text)),
      ({ name := "session" }, .str r.session), ({ name := "feed" }, .str r.feed),
      ({ name := "execution_model" }, .str r.executionModel),
      ({ name := "account_model" }, .str r.accountModel),
      ({ name := "corporate_action_semantics" }, .str r.corporateActionSemantics)]

end PreflightRequirement

def CapabilityCell.toPy (c : CapabilityCell) : PyValue :=
  .dataclass "app.strategy_lab_v2.capabilities.CapabilityCell"
    [({ name := "instrument_id" }, .str c.instrumentId),
      ({ name := "product_class" }, .enum "app.strategy_lab_v2.contracts.ProductClass"
        (.str c.productClass.text)),
      ({ name := "event_granularities" }, membersToPy
        "app.strategy_lab_v2.contracts.EventGranularity"
        (c.eventGranularities.image EventGranularity.text)),
      ({ name := "event_types" }, idsToPy c.eventTypes),
      ({ name := "timeframes" }, idsToPy c.timeframes),
      ({ name := "adjustments" }, membersToPy "app.strategy_lab_v2.contracts.AdjustmentMode"
        (c.adjustments.image AdjustmentMode.text)),
      ({ name := "sessions" }, idsToPy c.sessions), ({ name := "feeds" }, idsToPy c.feeds),
      ({ name := "execution_models" }, idsToPy c.executionModels),
      ({ name := "account_models" }, idsToPy c.accountModels),
      ({ name := "corporate_action_semantics" }, idsToPy c.corporateActionSemantics),
      ({ name := "history_start" }, .datetime (.utc c.historyStart)),
      ({ name := "history_end" }, .datetime (.utc c.historyEnd)),
      ({ name := "evidence_digest" }, .str c.evidenceDigest.text)]

namespace Degradation

def key (d : Degradation) : String × DegradedField := (d.instrumentId, d.field)

def sortKey (d : Degradation) :=
  toLex (d.instrumentId, toLex (d.field.text, toLex (d.substitutedValue, d.reason)))

def toPy (d : Degradation) : PyValue :=
  .dataclass "app.strategy_lab_v2.capabilities.Degradation"
    [({ name := "instrument_id" }, .str d.instrumentId), ({ name := "field" }, .str d.field.text),
      ({ name := "substituted_value" }, .str d.substitutedValue),
      ({ name := "reason" }, .str d.reason)]

end Degradation

/-! ## Decisions and reports -/

/-- `CapabilityDecision`. -/
structure PreflightDecision where
  requirement : PreflightRequirement
  classification : PreflightClass
  evidenceDigest : Option Digest
  gaps : List String
  degradations : List Degradation
  rankingEligible : Bool

def PreflightDecision.toPy (d : PreflightDecision) : PyValue :=
  .dataclass "app.strategy_lab_v2.capabilities.CapabilityDecision"
    [({ name := "requirement" }, d.requirement.toPy),
      ({ name := "classification" }, .enum "app.strategy_lab_v2.capabilities.PreflightClass"
        (.str d.classification.text)),
      ({ name := "evidence_digest" }, optionText (d.evidenceDigest.map Digest.text)),
      ({ name := "gaps" }, .tuple (d.gaps.map .str)),
      ({ name := "degradations" }, .tuple (d.degradations.map Degradation.toPy)),
      ({ name := "ranking_eligible" }, .bool d.rankingEligible)]

/-- `CapabilityDecision.__post_init__`. -/
def makePreflightDecision (d : PreflightDecision) : Except PyError PreflightDecision := do
  ensure (∀ gap ∈ d.gaps, notBlank gap = true)
    (valueError "capability gaps must be non-empty strings")
  ensure d.gaps.Nodup (valueError "capability gaps must be unique")
  ensure (d.degradations.map (·.field)).Nodup
    (valueError "decision degradations must be unique by field")
  ensure (∀ x ∈ d.degradations, x.instrumentId = d.requirement.instrumentId)
    (valueError "decision degradations must belong to its requirement instrument")
  ensure (∀ x ∈ d.degradations, x.field.text ∈ d.gaps)
    (valueError "decision degradations must correspond to capability gaps")
  ensure (d.classification = .rigorous →
      d.gaps = [] ∧ d.rankingEligible = true ∧ d.degradations.isEmpty = true)
    (valueError "rigorous decisions must be gap-free and ranking eligible")
  ensure (d.classification ≠ .unsupported → d.evidenceDigest ≠ none)
    (valueError "executable decisions require capability evidence")
  ensure (d.classification = .degraded → d.gaps ≠ [] ∧ d.rankingEligible = false ∧
      (d.degradations.map (·.field.text)).toFinset = d.gaps.toFinset)
    (valueError "degraded decisions require explicit substitutions for every gap")
  ensure (d.classification = .unsupported → d.gaps ≠ [] ∧ d.rankingEligible = false)
    (valueError "unsupported decisions require gaps and cannot be ranking eligible")
  return d

/-- `PreflightReport`. -/
structure CapabilityReport where
  decisions : List PreflightDecision
  fingerprint : Digest
  allowDegraded : Bool
  degradations : List Degradation

/-- The data that a report's fingerprint is taken of. -/
def fingerprintOf (sha256 : String → Digest) (decisions : List PreflightDecision)
    (allowDegraded : Bool) (degradations : List Degradation) : Digest :=
  digest sha256 (.mapping [(.str "decisions", .tuple (decisions.map PreflightDecision.toPy)),
    (.str "allow_degraded", .bool allowDegraded),
    (.str "degradations", .tuple (degradations.map Degradation.toPy))])

def usedKeys (decisions : List PreflightDecision) : Finset (String × DegradedField) :=
  (decisions.flatMap fun d => d.degradations.map Degradation.key).toFinset

/-- `PreflightReport.__post_init__`. -/
def makeCapabilityReport (sha256 : String → Digest) (report : CapabilityReport) :
    Except PyError CapabilityReport := do
  ensure (report.decisions.isEmpty = false) (valueError "preflight reports require decisions")
  ensure (report.decisions.map (·.requirement)).Nodup
    (valueError "preflight decisions must have unique requirements")
  ensure (report.degradations.map Degradation.key).Nodup
    (valueError "preflight degradations must be unique by instrument and field")
  ensure (usedKeys report.decisions = (report.degradations.map Degradation.key).toFinset)
    (valueError "preflight degradations must match the decision substitutions")
  ensure (report.allowDegraded = false → ∀ d ∈ report.decisions, d.classification ≠ .degraded)
    (valueError "degraded decisions require allow_degraded")
  ensure (report.fingerprint =
      fingerprintOf sha256 report.decisions report.allowDegraded report.degradations)
    (valueError "preflight fingerprint does not match its decisions")
  return report

/-! ## Gaps and substitutions -/

/-- `_gaps`. -/
def capabilityGaps (r : PreflightRequirement) (c : CapabilityCell) : List DegradedField :=
  let checks : List (DegradedField × Bool) :=
    [(.eventGranularity, decide (r.eventGranularity ∈ c.eventGranularities)),
      (.eventType, decide (r.eventType ∈ c.eventTypes)),
      (.timeframe, decide (r.timeframe ∈ c.timeframes)),
      (.historyStart, decide (c.historyStart ≤ r.start)),
      (.historyEnd, decide (r.stop ≤ c.historyEnd)),
      (.adjustment, decide (r.adjustment ∈ c.adjustments)),
      (.session, decide (r.session ∈ c.sessions)),
      (.feed, decide (r.feed ∈ c.feeds)),
      (.executionModel, decide (r.executionModel ∈ c.executionModels)),
      (.accountModel, decide (r.accountModel ∈ c.accountModels)),
      (.corporateActionSemantics,
        decide (r.corporateActionSemantics ∈ c.corporateActionSemantics))]
  (checks.filter fun check => !check.2).map Prod.fst

section
variable (fromisoformat : String → Except PyError PyDateTime)

/-- `datetime.fromisoformat(value.replace("Z", "+00:00"))`, none where it fails or is naive. -/
def replacementMoment (value : String) : Option ℤ :=
  match fromisoformat (value.replace "Z" "+00:00") with
  | .error _ => none
  | .ok d => d.moment

/-- `_substitution_is_supported`. -/
def substitutionIsSupported (c : CapabilityCell) (d : Degradation) : Bool :=
  match d.field with
  | .eventGranularity => d.substitutedValue ∈ c.eventGranularities.image EventGranularity.text
  | .eventType => d.substitutedValue ∈ c.eventTypes
  | .timeframe => d.substitutedValue ∈ c.timeframes
  | .adjustment => d.substitutedValue ∈ c.adjustments.image AdjustmentMode.text
  | .session => d.substitutedValue ∈ c.sessions
  | .feed => d.substitutedValue ∈ c.feeds
  | .executionModel => d.substitutedValue ∈ c.executionModels
  | .accountModel => d.substitutedValue ∈ c.accountModels
  | .corporateActionSemantics => d.substitutedValue ∈ c.corporateActionSemantics
  | .historyStart =>
    replacementMoment fromisoformat d.substitutedValue = some (c.historyStart.val : ℤ)
  | .historyEnd =>
    replacementMoment fromisoformat d.substitutedValue = some (c.historyEnd.val : ℤ)

end

/-! ## The preflight -/

structure PreflightRequest where
  cells : List CapabilityCell
  allowDegraded : Bool
  degradations : List Degradation

namespace PreflightRequest

variable (q : PreflightRequest) (r : PreflightRequirement)

/-- `matching_cells`. -/
def matchingCells : List CapabilityCell :=
  q.cells.filter fun c => c.instrumentId = r.instrumentId ∧ c.productClass = r.productClass

/-- `declared`. -/
def declared (c : CapabilityCell) : List Degradation :=
  q.degradations.filter fun d =>
    d.instrumentId = r.instrumentId ∧ d.field ∈ capabilityGaps r c

/-- `classification`. -/
def classify (c : CapabilityCell) : PreflightClass :=
  if capabilityGaps r c = [] then .rigorous
  else if q.allowDegraded = true ∧
      ((q.declared r c).map (·.field)).toFinset = (capabilityGaps r c).toFinset then .degraded
  else .unsupported

end PreflightRequest

/-- `rank`. -/
def PreflightClass.rank : PreflightClass → ℕ
  | .rigorous => 0
  | .degraded => 1
  | .unsupported => 2

def PreflightRequest.candidateKey (sha256 : String → Digest) (q : PreflightRequest)
    (r : PreflightRequirement) (c : CapabilityCell) : ℕ ×ₗ ℕ ×ₗ String ×ₗ String :=
  toLex ((q.classify r c).rank, toLex ((capabilityGaps r c).length,
    toLex (c.evidenceDigest.text, (digest sha256 c.toPy).text)))

section
variable (fromisoformat : String → Except PyError PyDateTime) (sha256 : String → Digest)

def decideRequirement (q : PreflightRequest) (r : PreflightRequirement) :
    Except PyError PreflightDecision :=
  match (q.matchingCells r).argmin (q.candidateKey sha256 r) with
  | none => makePreflightDecision ⟨r, .unsupported, none, ["instrument_coverage"], [], false⟩
  | some c => do
    let invalid := (q.declared r c).filter fun d => !substitutionIsSupported fromisoformat c d
    ensure (invalid.isEmpty = true)
      (valueError ("degradation substitutions must match values supported by the selected cell: "
        ++ ", ".intercalate (invalid.map fun d => d.instrumentId ++ "." ++ d.field.text)))
    makePreflightDecision ⟨r, q.classify r c, some c.evidenceDigest,
      (capabilityGaps r c).map DegradedField.text, q.declared r c,
      decide (q.classify r c = .rigorous)⟩

/-- `preflight_capabilities`.  The keys in use are read off the decisions. -/
def preflightCapabilities (requirements : List PreflightRequirement)
    (cells : List CapabilityCell) (allowDegraded : Bool) (degradations : List Degradation) :
    Except PyError CapabilityReport := do
  ensure (requirements ≠ []) (valueError "preflight requires at least one capability requirement")
  ensure requirements.Nodup (valueError "capability requirements must not contain duplicates")
  let requirements := sortBy PreflightRequirement.sortKey requirements
  let degradations := sortBy Degradation.sortKey degradations
  ensure (degradations.map Degradation.key).Nodup
    (valueError "only one degradation may be declared for an instrument field")
  let decisions ← collect (requirements.map
    (decideRequirement fromisoformat sha256 ⟨cells, allowDegraded, degradations⟩))
  let unused := (degradations.map Degradation.key).toFinset \ usedKeys decisions
  ensure (unused = ∅)
    (valueError ("degradations do not correspond to capability gaps: [" ++
      ", ".intercalate ((sortedList (unused.image fun k => toLex (k.1, k.2.text))).map fun k =>
        "(" ++ reprText (ofLex k).1 ++ ", " ++ reprText (ofLex k).2 ++ ")") ++ "]"))
  makeCapabilityReport sha256
    ⟨decisions, fingerprintOf sha256 decisions allowDegraded degradations, allowDegraded,
      degradations⟩

end

end ChartingPlatform
