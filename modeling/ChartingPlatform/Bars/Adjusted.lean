/-
  Locally adjusted views (`adjustment_factors.py`): rebuilding adjusted bars from
  raw bars and factor observations, and `_materialize_local_adjusted_view`.

  The split view and the provider-factor view are one operation with different
  rebuilders and labels (`ViewContract`).
-/
import ChartingPlatform.Bars.Tables

namespace ChartingPlatform

open Lib

/-! ## Observations -/

/-- `AdjustmentFactorObservation`. -/
structure AdjustmentFactorObservation where
  instrumentId : ℤ
  dataSourceId : ℤ
  factorType : String
  effectiveAt : Instant
  factor : Option ℚ
  factorKind : Option String
  sourceEventKey : String
  factorVersion : Option String
  deriving DecidableEq

namespace AdjustmentFactorObservation

def relevant (o : AdjustmentFactorObservation) : Bool := o.factorType ∈ ["split", "dividend"]

def orderKey (o : AdjustmentFactorObservation) : Instant ×ₗ String :=
  toLex (o.effectiveAt, o.sourceEventKey)

/-- `not observation.source_event_key or not observation.factor_version`. -/
def unidentified (o : AdjustmentFactorObservation) : Bool :=
  o.sourceEventKey = "" || o.factorVersion.all (· = "")

/-- `_observation_factor`. -/
def observationFactor (o : AdjustmentFactorObservation) : Option ℚ :=
  if o.factorType ≠ "split" then none
  else if o.factorKind ∉ [none, some "split_ratio"] then none
  else if o.unidentified then none
  else o.factor.filter (0 < ·)

def providerFactor (o : AdjustmentFactorObservation) : Option ℚ :=
  if o.unidentified then none else o.factor.filter (0 < ·)

end AdjustmentFactorObservation

/-! ## Rebuilding -/

/-- `RebuiltOHLCVBar`. -/
structure RebuiltBar where
  ts : Instant
  open_ : ℚ
  high : ℚ
  low : ℚ
  close : ℚ
  volume : Option ℚ
  vwap : Option ℚ
  derivationMethod : String

/-- The bar with its prices scaled, and its volume the other way. -/
def rebuiltBar (method : String) (cumulative : ℚ) (b : OHLCVBar) : RebuiltBar where
  ts := b.ts
  open_ := b.open_ * cumulative
  high := b.high * cumulative
  low := b.low * cumulative
  close := b.close * cumulative
  volume := b.volume.map (· / cumulative)
  vwap := b.vwap.map (· * cumulative)
  derivationMethod := method

/-- `AdjustmentRebuildResult`. -/
structure RebuildResult where
  status : String
  factorVersion : Option String := none
  eventCount : ℕ := 0
  appliedEventCount : ℕ := 0
  bars : List RebuiltBar := []
  reason : Option String := none

def cumulativeFactor (apply : ℚ → ℚ → ℚ) (factors : List (AdjustmentFactorObservation × ℚ))
    (ts : Instant) : ℚ :=
  factors.foldl (fun c f => if ts < f.1.effectiveAt then apply c f.2 else c) 1

def orderedFactors (factor : AdjustmentFactorObservation → Option ℚ)
    (relevant : List AdjustmentFactorObservation) :
    Option (List (AdjustmentFactorObservation × ℚ)) :=
  (relevant.mapM fun o => (factor o).map fun q => (o, q)).map
    (sortBy fun f => f.1.orderKey)

def appliedEventKeys (bars : List OHLCVBar) (factors : List (AdjustmentFactorObservation × ℚ)) :
    List String :=
  ((factors.filter fun f => bars.any fun b => decide (b.ts < f.1.effectiveAt)).map
    fun f => f.1.sourceEventKey).dedup

def rebuildWith (apply : ℚ → ℚ → ℚ) (method inconsistent : String) (bars : List OHLCVBar)
    (relevant : List AdjustmentFactorObservation)
    (factors : List (AdjustmentFactorObservation × ℚ)) : RebuildResult :=
  match (relevant.map (·.factorVersion)).dedup with
  | [version] =>
    { status := "applied"
      factorVersion := version
      eventCount := relevant.length
      appliedEventCount := (appliedEventKeys bars factors).length
      bars := bars.map fun b => rebuiltBar method (cumulativeFactor apply factors b.ts) b }
  | _ =>
    { status := "provider_native_opaque_inconsistent_factor_set"
      eventCount := relevant.length
      reason := some inconsistent }

/-- `rebuild_split_adjusted_bars`. -/
def rebuildSplitAdjustedBars (bars : List OHLCVBar)
    (observations : List AdjustmentFactorObservation) : RebuildResult :=
  let relevant := observations.filter (·.relevant)
  if relevant = [] then
    { status := "not_observed", reason := some "no_split_or_dividend_factor_observations" }
  else if relevant.any (·.factorType = "dividend") then
    { status := "unsupported_dividend_factors", eventCount := relevant.length
      reason := some "dividend_adjustment_convention_requires_provider_semantics" }
  else if relevant.any (·.factorKind = some "provider_supplied") then
    { status := "unsupported_provider_factors", eventCount := relevant.length
      reason := some "provider_factor_orientation_requires_source_contract" }
  else
    match orderedFactors (·.observationFactor) relevant with
    | none =>
      { status := "provider_native_opaque_incomplete_factor_set", eventCount := relevant.length
        reason := some "every_split_observation_needs_a_positive_ratio_and_version" }
    | some factors =>
      rebuildWith (· / ·) "local_split_ratio"
        "all_split_observations_must_share_one_factor_version" bars relevant factors

/-- `rebuild_provider_adjusted_bars`. -/
def rebuildProviderAdjustedBars (bars : List OHLCVBar)
    (observations : List AdjustmentFactorObservation) : RebuildResult :=
  let relevant := observations.filter (·.relevant)
  if relevant = [] then
    { status := "not_observed", reason := some "no_split_or_dividend_factor_observations" }
  else if relevant.any (·.factorKind ≠ some "provider_supplied") then
    { status := "provider_native_opaque_mixed_factor_kinds", eventCount := relevant.length
      reason := some "provider_adjustment_application_requires_explicit_provider_factors" }
  else
    match orderedFactors (·.providerFactor) relevant with
    | none =>
      { status := "provider_native_opaque_incomplete_factor_set", eventCount := relevant.length
        reason := some "every_provider_factor_needs_a_positive_factor_and_version" }
    | some factors =>
      rebuildWith (· * ·) "provider_adjustment_factor"
        "all_provider_factors_must_share_one_factor_version" bars relevant factors

/-! ## Views -/

structure ViewContract where
  rebuilder : List OHLCVBar → List AdjustmentFactorObservation → RebuildResult
  sourceKind : String
  datasetKeySuffix : String
  adjustmentLabel : String
  sourceRequirementReason : String

/-- `materialize_local_split_adjusted_view`. -/
def splitView : ViewContract where
  rebuilder := rebuildSplitAdjustedBars
  sourceKind := "local_split_ratio"
  datasetKeySuffix := "local_split_ratio"
  adjustmentLabel := "split_adjusted"
  sourceRequirementReason := "local_split_view_requires_one_identified_raw_provider_source"

/-- `materialize_local_provider_adjusted_view`. -/
def providerView : ViewContract where
  rebuilder := rebuildProviderAdjustedBars
  sourceKind := "provider_adjustment_factor"
  datasetKeySuffix := "provider_adjustment_factor"
  adjustmentLabel := "provider_adjusted"
  sourceRequirementReason := "local_provider_view_requires_one_identified_raw_provider_source"

structure ViewCall where
  instrumentId : ℤ
  timeframe : Timeframe := .D1
  start : Option Instant := none
  stop : Option Instant := none
  now : Instant
  deriving DecidableEq

/-- `PersistedAdjustmentViewResult`. -/
structure ViewResult where
  status : String
  factorVersion : Option String := none
  rawBarCount : ℕ := 0
  persistedBarCount : ℕ := 0
  updatedBarCount : ℕ := 0
  skippedProviderBarCount : ℕ := 0
  reason : Option String := none
  deriving DecidableEq

/-- The unique index `uq_ohlcv_bar`. -/
def OHLCVBar.uniqueKey (b : OHLCVBar) : BarSeries × Instant × String := (b.series, b.ts, b.scopeKey)

namespace ViewCall

def series (c : ViewCall) (adjusted : Bool) : BarSeries := ⟨c.instrumentId, c.timeframe, adjusted⟩

def inWindow (c : ViewCall) (ts : Instant) : Bool :=
  (c.start.all fun s => decide (s ≤ ts)) && withinBound c.stop ts

/-- The raw provider bars of the window, in the order of their timestamps. -/
def rawBars (c : ViewCall) (bars : List OHLCVBar) : List OHLCVBar :=
  sortBy OHLCVBar.ts (bars.filter fun b =>
    decide (b.series = c.series false) && !b.isDerived && c.inWindow b.ts)

/-- The values of the row of a rebuilt bar, over those of the row `prior`. -/
def overwrite (c : ViewCall) (d : RebuiltBar) (prior : OHLCVBar) : OHLCVBar :=
  { prior with
    instrumentId := c.instrumentId
    dataSourceId := none
    timeframe := c.timeframe
    ts := d.ts
    open_ := d.open_
    high := d.high
    low := d.low
    close := d.close
    volume := d.volume
    vwap := d.vwap
    isAdjusted := true
    isDerived := true
    sourceTimeframe := some c.timeframe.text
    derivationMethod := some d.derivationMethod
    derivedAt := some c.now
    sourceBarCount := some 1
    sourceStart := some d.ts
    sourceEnd := some d.ts }

def newRow (c : ViewCall) (d : RebuiltBar) : OHLCVBar where
  instrumentId := c.instrumentId
  dataSourceId := none
  marketSeriesId := none
  timeframe := c.timeframe
  ts := d.ts
  open_ := d.open_
  high := d.high
  low := d.low
  close := d.close
  volume := d.volume
  vwap := d.vwap
  isAdjusted := true
  isDerived := true
  sourceTimeframe := some c.timeframe.text
  derivationMethod := some d.derivationMethod
  derivedAt := some c.now
  sourceBarCount := some 1
  sourceStart := some d.ts
  sourceEnd := some d.ts

/-- `existing_by_ts.get(ts)`: the last adjusted row at the timestamp. -/
def priorAt (c : ViewCall) (bars : List OHLCVBar) (ts : Instant) : Option OHLCVBar :=
  (bars.filter fun b => decide (b.series = c.series true) && decide (b.ts = ts)).getLast?

end ViewCall

/-- The view leaves the prior row alone: a provider's, or one of another contract. -/
def ViewContract.keeps (k : ViewContract) (prior : OHLCVBar) : Bool :=
  !prior.isDerived ||
    !(decide (prior.derivationMethod = some k.sourceKind) ||
      (decide (k.sourceKind = "provider_adjustment_factor") &&
        decide (prior.derivationMethod = some "local_split_ratio")))

/-- The loop over the rebuilt bars: the table and what was counted. -/
structure ViewProgress where
  bars : List OHLCVBar
  persisted : ℕ := 0
  updated : ℕ := 0
  skippedProvider : ℕ := 0
  timestamps : List Instant := []

/-- One round of the loop; prior rows are those of the table before the loop. -/
def ViewContract.persistBar (k : ViewContract) (c : ViewCall) (existing : List OHLCVBar)
    (v : ViewProgress) (d : RebuiltBar) : ViewProgress :=
  match c.priorAt existing d.ts with
  | none =>
    { v with
      bars := v.bars ++ [c.newRow d]
      persisted := v.persisted + 1
      timestamps := v.timestamps ++ [d.ts] }
  | some prior =>
    if k.keeps prior then { v with skippedProvider := v.skippedProvider + 1 }
    else
      { v with
        bars := updateRow OHLCVBar.uniqueKey prior.uniqueKey (c.overwrite d) v.bars
        updated := v.updated + 1
        timestamps := v.timestamps ++ [d.ts] }

def ViewContract.writtenState (k : ViewContract) (c : ViewCall) (key : DatasetKey)
    (state : Option DatasetState) (source : ℤ) (timestamps : List Instant)
    (version : Option String) : DatasetState where
  key := key
  status := .fresh
  coverageStart := timestamps.min?
  coverageEnd := timestamps.max?
  observedAt := some c.now
  fetchedAt := some c.now
  version := match state with
    | some s => max 1 s.version + 1
    | none => 1
  snapshotHash := version
  extraData := some {
    barCount := some timestamps.length
    adjusted := some true
    adjustment := some k.adjustmentLabel
    sourceKind := some k.sourceKind
    providerSourceId := some source
    sourceTimeframe := some c.timeframe.text
    derivationMethod := some k.sourceKind
    adjustmentProvenance := some {
      mode := k.adjustmentLabel
      sourceKind := k.sourceKind
      factorStatus := if k.sourceKind = "provider_adjustment_factor"
        then "rebuildable_provider_factors" else "rebuildable_split_factors"
      factorVersion := version
      contractVersion := 1 } }

def ViewCall.observed (c : ViewCall) (source : ℤ) (raw : List OHLCVBar)
    (observations : List AdjustmentFactorObservation) : List AdjustmentFactorObservation :=
  sortBy (·.orderKey) (observations.filter fun o =>
    decide (o.instrumentId = c.instrumentId) && decide (o.dataSourceId = source) &&
      ((raw.map (·.ts)).max?.any fun m => decide (o.effectiveAt ≤ m)))

/-- `_materialize_local_adjusted_view`. -/
def ViewContract.materialize (k : ViewContract) (observations : List AdjustmentFactorObservation)
    (c : ViewCall) (t : MarketTables) : MarketTables × ViewResult :=
  let raw := c.rawBars t.bars
  if raw = [] then
    (t, { status := "not_observed"
          reason := some "no_unadjusted_provider_bars_for_requested_view" })
  else
    match (raw.map (·.dataSourceId)).dedup with
    | [some source] =>
      let rebuilt := k.rebuilder raw (c.observed source raw observations)
      if rebuilt.status ≠ "applied" then
        (t, { status := rebuilt.status, factorVersion := rebuilt.factorVersion
              rawBarCount := raw.length, reason := rebuilt.reason })
      else
        let done := rebuilt.bars.foldl (k.persistBar c t.bars) { bars := t.bars }
        let key : DatasetKey := {
          instrumentId := c.instrumentId
          dataSourceId := none
          datasetKey := c.timeframe.text ++ ":adj:" ++ k.datasetKeySuffix }
        let states := if done.timestamps = [] then t.states
          else upsert DatasetState.key (k.writtenState c key (rowWith DatasetState.key key t.states)
            source done.timestamps rebuilt.factorVersion) t.states
        ({ bars := done.bars, states := states },
          { status := "applied", factorVersion := rebuilt.factorVersion
            rawBarCount := raw.length, persistedBarCount := done.persisted
            updatedBarCount := done.updated
            skippedProviderBarCount := done.skippedProvider })
    | _ =>
      (t, { status := "ambiguous_raw_source", rawBarCount := raw.length
            reason := some k.sourceRequirementReason })

end ChartingPlatform
