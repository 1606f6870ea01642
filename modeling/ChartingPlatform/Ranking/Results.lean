/-
  Descriptive ranking (`ranking.py`): the results that are compared, and
  `descriptive_rank_results`.

  Of a result manifest the model has what the ranking reads; its fingerprint
  and those of its snapshot and portfolio are given.  Negating a `Decimal`
  rounds it to the 28 digits of the default context, whose limits on exponents
  are not modelled.
-/
import ChartingPlatform.Canonical.Value
import ChartingPlatform.Lib.Firsts

namespace ChartingPlatform

open Lib

/-! ## Results -/

/-- `PreflightClass`. -/
inductive PreflightClass where
  | rigorous | degraded | unsupported
  deriving DecidableEq, Repr

def PreflightClass.text : PreflightClass → String
  | .rigorous => "rigorous"
  | .degraded => "degraded"
  | .unsupported => "unsupported"

/-- `CapabilityDecision`. -/
structure CapabilityDecision where
  classification : PreflightClass
  rankingEligible : Bool
  eligible_iff : rankingEligible = true ↔ classification = .rigorous

/-- `PreflightReport`. -/
structure PreflightReport where
  decisions : List CapabilityDecision
  decisions_ne_nil : decisions ≠ []

namespace PreflightReport

def classification (p : PreflightReport) : PreflightClass :=
  if .unsupported ∈ p.decisions.map (·.classification) then .unsupported
  else if .degraded ∈ p.decisions.map (·.classification) then .degraded
  else .rigorous

def executable (p : PreflightReport) : Bool := p.classification ≠ .unsupported

def rankingEligible (p : PreflightReport) : Bool :=
  p.executable && p.decisions.all (·.rankingEligible)

end PreflightReport

def rigorousPreflight : PreflightReport := ⟨[⟨.rigorous, true, by decide⟩], by simp⟩

/-- `ScientificTrial`. -/
structure ScientificTrial where
  trialId : Digest
  experimentFingerprint : Digest
  snapshotFingerprint : Digest
  preflightReport : PreflightReport
  executable : preflightReport.executable = true

/-- `MetricBasis`. -/
inductive MetricBasis where
  | gross | net
  deriving DecidableEq, Repr

def MetricBasis.text : MetricBasis → String
  | .gross => "gross"
  | .net => "net"

/-- `MetricCalculationDefinition`. -/
structure MetricCalculationDefinition where
  formulaId : String
  contractVersion : String
  parameters : List (PyKey × PyValue)

def MetricCalculationDefinition.toPy (c : MetricCalculationDefinition) : PyValue :=
  .dataclass "app.strategy_lab_v2.contracts.MetricCalculationDefinition"
    [({ name := "formula_id" }, .str c.formulaId),
      ({ name := "contract_version" }, .str c.contractVersion),
      ({ name := "parameters" }, .mapping c.parameters)]

/-- `MetricValue`. -/
structure MetricValue where
  name : String
  value : Option PyDecimal
  unit : String
  definitionVersion : String
  basis : MetricBasis
  sampleSize : ℕ
  nullReason : Option String
  calculationDefinition : Option MetricCalculationDefinition
  /-- A value is finite and has no null reason; a null value has one. -/
  value_valid : match value with
    | some d => d.isFinite = true ∧ nullReason = none
    | none => ∃ reason, nullReason = some reason ∧ notBlank reason = true

/-- `MetricValue.calculation_fingerprint`. -/
def MetricValue.calculationFingerprint (sha256 : String → Digest) (m : MetricValue) :
    Option Digest :=
  m.calculationDefinition.map fun c => digest sha256 (.mapping
    [(.str "metric_name", .str m.name), (.str "unit", .str m.unit),
      (.str "basis", .enum "app.strategy_lab_v2.contracts.MetricBasis" (.str m.basis.text)),
      (.str "definition_version", .str m.definitionVersion),
      (.str "calculation_definition", c.toPy)])

/-- `MetricSet`. -/
structure MetricSet where
  definitionVersion : String
  values : List MetricValue
  keys_nodup : (values.map fun m => (m.name, m.basis)).Nodup

/-- `RunResultManifest`. -/
structure RunResultManifest where
  trial : ScientificTrial
  attemptId : String
  fingerprint : Digest
  snapshotFingerprint : Digest
  portfolioFingerprint : Digest
  engineBuildDigest : Digest
  allocationDefinitionVersion : String
  metricSet : MetricSet
  engineAuthoritative : Bool
  snapshot_trial : snapshotFingerprint = trial.snapshotFingerprint

def RunResultManifest.trialId (r : RunResultManifest) : Digest := r.trial.trialId

def RunResultManifest.experimentFingerprint (r : RunResultManifest) : Digest :=
  r.trial.experimentFingerprint

/-! ## Entries and exclusions -/

/-- `RankingDirection`. -/
inductive RankingDirection where
  | maximize | minimize
  deriving DecidableEq, Repr

/-- `RankingExclusionReason`. -/
inductive RankingExclusionReason where
  | nonAuthoritativeEngine | ineligiblePreflight | missingMetric | nullMetric
  | unversionedMetric | incompatibleContext | duplicateTrial
  deriving DecidableEq, Repr

def RankingExclusionReason.text : RankingExclusionReason → String
  | .nonAuthoritativeEngine => "non_authoritative_engine"
  | .ineligiblePreflight => "ineligible_preflight"
  | .missingMetric => "missing_metric"
  | .nullMetric => "null_metric"
  | .unversionedMetric => "unversioned_metric"
  | .incompatibleContext => "incompatible_context"
  | .duplicateTrial => "duplicate_trial"

/-- `RankingExclusion`. -/
structure RankingExclusion where
  trialId : Digest
  attemptId : String
  resultFingerprint : Digest
  reason : RankingExclusionReason
  detail : String
  deriving DecidableEq

/-- `RankingEntry`. -/
structure RankingEntry where
  position : ℕ
  trialId : Digest
  attemptId : String
  resultFingerprint : Digest
  metricName : String
  metricBasis : MetricBasis
  value : PyDecimal
  sampleSize : ℕ
  preflightLabel : String
  position_pos : 1 ≤ position
  sampleSize_pos : 1 ≤ sampleSize
  deriving DecidableEq

def RankingEntry.at (e : RankingEntry) (index : ℕ) : RankingEntry :=
  { e with position := index + 1, position_pos := Nat.le_add_left 1 index }

def numbered (entries : List RankingEntry) : List RankingEntry :=
  entries.mapIdx fun index e => e.at index

@[simp] theorem length_numbered (entries : List RankingEntry) :
    (numbered entries).length = entries.length := by
  simp [numbered]

theorem positions_numbered (entries : List RankingEntry) :
    (numbered entries).map (·.position) = List.range' 1 entries.length := by
  refine List.ext_getElem (by simp) fun i h₁ h₂ => ?_
  simp [numbered, RankingEntry.at, Nat.add_comm]

structure RankingPolicy where
  metricName : String
  metricBasis : MetricBasis := .net
  direction : RankingDirection := .maximize
  includeDegraded : Bool := false
  includeNonAuthoritative : Bool := false

/-- `_context_key`. -/
def contextKey (r : RunResultManifest) : Digest × Digest × Digest × String × String :=
  (r.snapshotFingerprint, r.portfolioFingerprint, r.engineBuildDigest,
    r.allocationDefinitionVersion, r.metricSet.definitionVersion)

/-- `DescriptiveRanking`. -/
structure DescriptiveRanking where
  experimentFingerprint : Digest
  snapshotFingerprint : Digest
  portfolioFingerprint : Digest
  policy : RankingPolicy
  metricCalculationFingerprint : Digest
  totalResults : ℕ
  eligibleResults : ℕ
  entries : List RankingEntry
  exclusions : List RankingExclusion
  positions : entries.map (·.position) = List.range' 1 entries.length
  eligible_eq : eligibleResults = entries.length
  total_eq : totalResults = entries.length + exclusions.length

/-! ## The ranking -/

/-- `_metric`. -/
def metric (r : RunResultManifest) (name : String) (basis : MetricBasis) :
    Except PyError (Option MetricValue) :=
  let values := r.metricSet.values.filter fun m => m.name = name ∧ m.basis = basis
  if 1 < values.length then
    .error (valueError "metric set contains duplicate ranking metric values")
  else .ok values.head?

/-- The context, calculation and unit of the baseline. -/
structure RankingBaseline where
  context : Digest × Digest × Digest × String × String
  calculation : Digest
  unit : String
  deriving DecidableEq

def selectBaseline (sha256 : String → Digest) (p : RankingPolicy) :
    List RunResultManifest → Except PyError (Option RankingBaseline)
  | [] => .ok none
  | r :: rs => do
    match ← metric r p.metricName p.metricBasis with
    | some m =>
      match m.calculationFingerprint sha256 with
      | some calculation => .ok (some ⟨contextKey r, calculation, m.unit⟩)
      | none => selectBaseline sha256 p rs
    | none => selectBaseline sha256 p rs

inductive RankingOutcome where
  | entry (e : RankingEntry)
  | exclusion (x : RankingExclusion)

def exclude (r : RunResultManifest) (reason : RankingExclusionReason) (detail : String) :
    RankingOutcome :=
  .exclusion ⟨r.trialId, r.attemptId, r.fingerprint, reason, detail⟩

/-- The body of the loop after `seen_trials.add`. -/
def judge (sha256 : String → Digest) (p : RankingPolicy) (b : RankingBaseline)
    (r : RunResultManifest) : Except PyError RankingOutcome :=
  if p.includeDegraded = false ∧ r.trial.preflightReport.rankingEligible = false then
    .ok (exclude r .ineligiblePreflight "degraded or unsupported preflight is excluded by default")
  else if contextKey r ≠ b.context then
    .ok (exclude r .incompatibleContext
      "snapshot, portfolio, engine, allocation, metric-set, or unit context differs")
  else do
    match ← metric r p.metricName p.metricBasis with
    | none => .ok (exclude r .missingMetric "requested metric and basis are absent")
    | some m =>
      match m.value with
      | none => .ok (exclude r .nullMetric (m.nullReason.getD "metric value is unavailable"))
      | some value =>
        if m.unit ≠ b.unit then
          .ok (exclude r .incompatibleContext "metric unit differs from the ranking baseline")
        else if m.calculationFingerprint sha256 ≠ some b.calculation then
          .ok (exclude r .unversionedMetric
            "metric calculation identity differs from the ranking baseline")
        else if h : 1 ≤ m.sampleSize then
          .ok (.entry
            { position := 1
              trialId := r.trialId
              attemptId := r.attemptId
              resultFingerprint := r.fingerprint
              metricName := m.name
              metricBasis := m.basis
              value := value
              sampleSize := m.sampleSize
              preflightLabel := r.trial.preflightReport.classification.text
              position_pos := le_rfl
              sampleSize_pos := h })
        else .error (valueError "ranking sample_size must be positive")

/-- The result is not left out as non-authoritative. -/
def counted (p : RankingPolicy) (r : RunResultManifest) : Bool :=
  p.includeNonAuthoritative || r.engineAuthoritative

/-- One iteration: what is appended, and `seen_trials` after it. -/
def rankResult (sha256 : String → Digest) (p : RankingPolicy) (b : RankingBaseline)
    (seen : Finset Digest) (r : RunResultManifest) :
    Except PyError (RankingOutcome × Finset Digest) :=
  if counted p r = false then
    .ok (exclude r .nonAuthoritativeEngine
      "non-authoritative engine output is excluded from official rankings", seen)
  else if r.trialId ∈ seen then
    .ok (exclude r .duplicateTrial
      "multiple successful attempts cannot rank one scientific trial twice", seen)
  else do
    let outcome ← judge sha256 p b r
    return (outcome, insert r.trialId seen)

def rankLoop (sha256 : String → Digest) (p : RankingPolicy) (b : RankingBaseline) :
    Finset Digest → List RunResultManifest → Except PyError (List RankingOutcome)
  | _, [] => .ok []
  | seen, r :: rs => do
    let step ← rankResult sha256 p b seen r
    let outcomes ← rankLoop sha256 p b step.2 rs
    return step.1 :: outcomes

def RankingOutcome.entry? : RankingOutcome → Option RankingEntry
  | .entry e => some e
  | .exclusion _ => none

def RankingOutcome.exclusion? : RankingOutcome → Option RankingExclusion
  | .entry _ => none
  | .exclusion x => some x

section
variable (e : RankingEntry) (x : RankingExclusion) (os : List RankingOutcome)

@[simp] theorem filterMap_entry_cons : (.entry e :: os : List RankingOutcome).filterMap
    RankingOutcome.entry? = e :: os.filterMap RankingOutcome.entry? := rfl

@[simp] theorem filterMap_entry_skip : (.exclusion x :: os : List RankingOutcome).filterMap
    RankingOutcome.entry? = os.filterMap RankingOutcome.entry? := rfl

@[simp] theorem filterMap_exclusion_cons : (.exclusion x :: os : List RankingOutcome).filterMap
    RankingOutcome.exclusion? = x :: os.filterMap RankingOutcome.exclusion? := rfl

@[simp] theorem filterMap_exclusion_skip : (.entry e :: os : List RankingOutcome).filterMap
    RankingOutcome.exclusion? = os.filterMap RankingOutcome.exclusion? := rfl

end

theorem length_outcomes (outcomes : List RankingOutcome) :
    outcomes.length = (outcomes.filterMap RankingOutcome.entry?).length +
      (outcomes.filterMap RankingOutcome.exclusion?).length := by
  induction outcomes with
  | nil => rfl
  | cons o os ih =>
    cases o with
    | entry e | exclusion x => simp [ih]; omega

def roundCoefficient (c : ℕ) (e : ℤ) : ℕ × ℤ :=
  let digits := (natText c).length
  if digits ≤ 28 then (c, e)
  else
    let unit := 10 ^ (digits - 28)
    let q := c / unit
    let rest := 2 * (c % unit)
    let q := if unit < rest ∨ (rest = unit ∧ q % 2 = 1) then q + 1 else q
    if q = 10 ^ 28 then (10 ^ 27, e + (digits - 28 : ℕ) + 1) else (q, e + (digits - 28 : ℕ))

/-- `-d`, of a `Decimal` in the default context. -/
def PyDecimal.negate : PyDecimal → PyDecimal
  | .finite negative c e =>
    let rounded := roundCoefficient c e
    .finite (if c = 0 then false else !negative) rounded.1 rounded.2
  | .special => .special

def entryKey (direction : RankingDirection) (e : RankingEntry) : ℚ ×ₗ String :=
  toLex (match direction with
    | .maximize => e.value.negate.value
    | .minimize => e.value.value, e.trialId.text)

def exclusionKey (x : RankingExclusion) : String ×ₗ String ×ₗ String :=
  toLex (x.trialId.text, toLex (x.attemptId, x.reason.text))

def rankedEntries (p : RankingPolicy) (outcomes : List RankingOutcome) : List RankingEntry :=
  numbered (sortBy (entryKey p.direction) (outcomes.filterMap RankingOutcome.entry?))

def makeRanking (p : RankingPolicy) (experiment : Digest) (b : RankingBaseline)
    (outcomes : List RankingOutcome) : DescriptiveRanking where
  experimentFingerprint := experiment
  snapshotFingerprint := b.context.1
  portfolioFingerprint := b.context.2.1
  policy := p
  metricCalculationFingerprint := b.calculation
  totalResults := outcomes.length
  eligibleResults := (rankedEntries p outcomes).length
  entries := rankedEntries p outcomes
  exclusions := sortBy exclusionKey (outcomes.filterMap RankingOutcome.exclusion?)
  positions := by rw [rankedEntries, positions_numbered, length_numbered]
  eligible_eq := rfl
  total_eq := by
    rw [length_outcomes, rankedEntries, length_numbered, (perm_sortBy _ _).length_eq,
      (perm_sortBy _ _).length_eq]

/-- `descriptive_rank_results`. -/
def descriptiveRankResults (sha256 : String → Digest) (p : RankingPolicy)
    (results : List RunResultManifest) : Except PyError DescriptiveRanking := do
  ensure (notBlank p.metricName = true) (valueError "metric_name must not be empty")
  match results with
  | [] => .error (valueError "ranking requires at least one result")
  | first :: rest => do
    ensure (∀ r ∈ rest, r.experimentFingerprint = first.experimentFingerprint)
      (valueError "ranking results must belong to one experiment")
    match ← selectBaseline sha256 p results with
    | none =>
      .error (valueError "the ranking metric requires a structured calculation definition")
    | some b => do
      let outcomes ← rankLoop sha256 p b ∅ results
      return makeRanking p first.experimentFingerprint b outcomes

end ChartingPlatform
