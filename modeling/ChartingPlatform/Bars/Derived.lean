/-
  Derived weekly and monthly bars (`derived_timeframes.py`):
  `aggregate_d1_bars` and `materialize_derived_timeframes`.
-/
import ChartingPlatform.Bars.Tables
import ChartingPlatform.Lib.Firsts

namespace ChartingPlatform

open Lib

/-- `DERIVATION_METHOD`. -/
def derivationMethod : String := "d1_ohlcv_xnys_calendar_aggregation"

inductive CoarseTimeframe where
  | W1 | MN
  deriving DecidableEq, Repr

def CoarseTimeframe.timeframe : CoarseTimeframe → Timeframe
  | .W1 => .W1
  | .MN => .MN

theorem CoarseTimeframe.timeframe_injective : Function.Injective CoarseTimeframe.timeframe := by
  intro a b h
  cases a <;> cases b <;> first | rfl | cases h

theorem CoarseTimeframe.timeframe_ne_D1 (tf : CoarseTimeframe) : tf.timeframe ≠ .D1 := by
  cases tf <;> exact Timeframe.noConfusion

/-! ## Calendar periods -/

def dateOrdinal (t : Instant) : ℕ := t.val / 86400000000 + 1

/-- `_isoweek1monday`: the ordinal of the Monday of week 1. -/
def isoWeek1Monday (year : ℕ) : ℤ :=
  let firstday : ℤ := ymd2ord ⟨year, 1, 1⟩
  let firstweekday := (firstday + 6) % 7
  let week1monday := firstday - firstweekday
  if firstweekday > 3 then week1monday + 7 else week1monday

/-- Year and week of `date.isocalendar()`. -/
def isoCalendar (ordinal : ℕ) : ℕ × ℤ :=
  let year := (ord2ymd ordinal).year
  let week := (ordinal - isoWeek1Monday year) / 7
  if week < 0 then (year - 1, (ordinal - isoWeek1Monday (year - 1)) / 7 + 1)
  else if 52 ≤ week ∧ isoWeek1Monday (year + 1) ≤ ordinal then (year + 1, 1)
  else (year, week + 1)

instance lawfulBEq_periodKey : LawfulBEq (ℕ × ℤ) := inferInstance

/-- `_period_key`. -/
def periodKey (tf : CoarseTimeframe) (ts : Instant) : ℕ × ℤ :=
  match tf with
  | .W1 => isoCalendar (dateOrdinal ts)
  | .MN => ((ord2ymd (dateOrdinal ts)).year, (ord2ymd (dateOrdinal ts)).month)

/-! ## Aggregation -/

/-- A payload of `aggregate_d1_bars`. -/
structure DerivedPayload where
  ts : Instant
  open_ : ℚ
  high : ℚ
  low : ℚ
  close : ℚ
  volume : Option ℚ
  vwap : Option ℚ
  sourceBarCount : ℕ
  sourceStart : Instant
  sourceEnd : Instant
  periodKey : ℕ × ℤ

/-- `bar.vwap or bar.close`. -/
def OHLCVBar.typicalPrice (b : OHLCVBar) : ℚ :=
  match b.vwap with
  | some v => if v = 0 then b.close else v
  | none => b.close

/-- The payload of the members of one period, of which `b` is one. -/
def periodPayload (tf : CoarseTimeframe) (b : OHLCVBar) (members : List OHLCVBar) :
    DerivedPayload :=
  let ordered := sortBy OHLCVBar.ts members
  let first := ordered.head?.getD b
  let last := ordered.getLast?.getD b
  let volumes := ordered.filterMap (·.volume)
  let complete := volumes.length = ordered.length
  { ts := first.ts
    open_ := first.open_
    high := (ordered.map (·.high)).foldl max b.high
    low := (ordered.map (·.low)).foldl min b.low
    close := last.close
    volume := if complete then some volumes.sum else none
    vwap := if volumes ≠ [] ∧ complete ∧ 0 < volumes.sum then
        some ((ordered.map fun m => m.typicalPrice * m.volume.getD 0).sum / volumes.sum)
      else none
    sourceBarCount := ordered.length
    sourceStart := first.ts
    sourceEnd := last.ts
    periodKey := periodKey tf first.ts }

/-- The bars of the same period as `b`. -/
def periodMembers (tf : CoarseTimeframe) (b : OHLCVBar) (bars : List OHLCVBar) : List OHLCVBar :=
  bars.filter fun m => decide (periodKey tf m.ts = periodKey tf b.ts)

/-- `aggregate_d1_bars`. -/
def aggregateD1Bars (bars : List OHLCVBar) (tf : CoarseTimeframe) : List DerivedPayload :=
  sortBy DerivedPayload.ts
    ((firsts (fun b : OHLCVBar => periodKey tf b.ts) bars).map fun b =>
      periodPayload tf b (periodMembers tf b bars))

/-! ## What is read -/

def d1Series (instrumentId : ℤ) (adjusted : Bool) : BarSeries := ⟨instrumentId, .D1, adjusted⟩

def d1Bars (t : MarketTables) (instrumentId : ℤ) (adjusted : Bool) (bound : Option Instant) :
    List OHLCVBar :=
  sortBy OHLCVBar.ts (t.bars.filter fun b =>
    decide (b.series = d1Series instrumentId adjusted) && withinBound bound b.ts)

/-- `_state_has_historical_provenance`. -/
def DatasetState.hasHistoricalProvenance (s : DatasetState) (bound : Option Instant) : Bool :=
  bound.all fun e =>
    [s.coverageEnd, s.fetchedAt].all fun value => value.any fun t => decide (t ≤ e)

def DatasetState.factorVersion (s : DatasetState) (bound : Option Instant) : Option String :=
  if s.hasHistoricalProvenance bound then
    (s.extraData.bind (·.adjustmentProvenance)).bind fun p =>
      if p.factorStatus ∈ ["rebuildable_split_factors", "rebuildable_provider_factors"] then
        p.factorVersion.filter (· ≠ "")
      else none
  else none

def factorVersions (states : List DatasetState) (bound : Option Instant) : Option (List String) :=
  states.mapM (·.factorVersion bound)

/-- `_canonical_d1_factor_version`. -/
def canonicalD1FactorVersion (t : MarketTables) (instrumentId : ℤ) (adjusted : Bool)
    (bound : Option Instant) : Option String :=
  if adjusted then do
    let d1 := t.bars.filter fun b =>
      decide (b.series = d1Series instrumentId true) && withinBound bound b.ts
    let sourceIds := ((d1.filter fun b => !b.isDerived).filterMap (·.dataSourceId)).dedup
    let states := t.states.filter fun s => decide (s.key.instrumentId = instrumentId) &&
      decide (s.key.datasetKey = "D1:adj") && s.key.dataSourceId.any fun id => decide (id ∈ sourceIds)
    if states.length ≠ sourceIds.length then none
    let versions ← factorVersions states bound
    let methods := (d1.filter (·.isDerived)).filterMap (·.derivationMethod) |>.filter
      (· ∈ ["local_split_ratio", "provider_adjustment_factor"])
    let localStates := if methods = [] then [] else t.states.filter fun s =>
      decide (s.key.instrumentId = instrumentId) && decide (s.key.dataSourceId = none) &&
        decide (s.key.datasetKey ∈ ["D1:adj:local_split_ratio", "D1:adj:provider_adjustment_factor"])
    if (localStates.map (·.key.datasetKey)).toFinset ≠
        (methods.map fun m => "D1:adj:" ++ m).toFinset then none
    let localVersions ← factorVersions localStates bound
    match (versions ++ localVersions).dedup with
    | [version] => some version
    | _ => none
  else none

def coverage (bars : List OHLCVBar) : Option Instant × Option Instant :=
  ((bars.map (·.ts)).min?, (bars.map (·.ts)).max?)

/-- `sorted({int(id) for id in ids if id is not None})`. -/
def sortedIds (ids : List (Option ℤ)) : List ℤ := sortBy id (ids.filterMap id).dedup

def DatasetState.watermark (s : DatasetState) : SourceWatermark where
  dataSourceId := s.key.dataSourceId
  version := s.version
  status := s.status
  fetchedAt := s.fetchedAt
  coverageStart := s.coverageStart
  coverageEnd := s.coverageEnd

/-- `_canonical_d1_signature`. -/
def canonicalD1Signature (t : MarketTables) (instrumentId : ℤ) (adjusted : Bool) : D1Signature :=
  let d1 := t.bars.filter fun b => decide (b.series = d1Series instrumentId adjusted)
  let sourceIds := sortedIds (d1.map (·.dataSourceId))
  let states := t.states.filter fun s => decide (s.key.instrumentId = instrumentId) &&
    (if sourceIds = [] then s.key.dataSourceId.isNone
      else s.key.dataSourceId.any fun id => decide (id ∈ sourceIds)) &&
    decide (s.key.datasetKey = "D1:" ++ adjustmentText adjusted)
  { adjusted := adjusted
    barCount := d1.length
    coverageStart := (coverage d1).1
    coverageEnd := (coverage d1).2
    dataSourceIds := sourceIds
    marketSeriesIds := sortedIds (d1.map (·.marketSeriesId))
    sourceWatermarks := sortBy (fun w => w.dataSourceId.getD (-1)) (states.map (·.watermark)) }

/-! ## Materialisation -/

/-- The arguments of `materialize_derived_timeframes`, and its clock. -/
structure DeriveCall where
  instrumentId : ℤ
  adjusted : Bool := true
  bound : Option Instant := none
  now : Instant
  deriving DecidableEq

namespace DeriveCall

def series (c : DeriveCall) (tf : CoarseTimeframe) : BarSeries :=
  ⟨c.instrumentId, tf.timeframe, c.adjusted⟩

def deletes (c : DeriveCall) (tf : CoarseTimeframe) (b : OHLCVBar) : Bool :=
  decide (b.series = c.series tf) && b.isDerived && withinBound c.bound b.ts

/-- `provider_periods`. -/
def providerPeriods (c : DeriveCall) (tf : CoarseTimeframe) (bars : List OHLCVBar) :
    List (ℕ × ℤ) :=
  (bars.filter fun b => decide (b.series = c.series tf) && !b.isDerived && withinBound c.bound b.ts).map
    fun b => periodKey tf b.ts

def row (c : DeriveCall) (tf : CoarseTimeframe) (p : DerivedPayload) : OHLCVBar where
  instrumentId := c.instrumentId
  dataSourceId := none
  marketSeriesId := none
  timeframe := tf.timeframe
  ts := p.ts
  open_ := p.open_
  high := p.high
  low := p.low
  close := p.close
  volume := p.volume
  vwap := p.vwap
  isAdjusted := c.adjusted
  isDerived := true
  sourceTimeframe := some Timeframe.D1.text
  derivationMethod := some ChartingPlatform.derivationMethod
  derivedAt := some c.now
  sourceBarCount := some p.sourceBarCount
  sourceStart := some p.sourceStart
  sourceEnd := some p.sourceEnd

/-- The payloads whose periods no provider row takes. -/
def payloads (c : DeriveCall) (tf : CoarseTimeframe) (d1 bars : List OHLCVBar) :
    List DerivedPayload :=
  (aggregateD1Bars d1 tf).filter fun p => decide (p.periodKey ∉ c.providerPeriods tf bars)

def rebuild (c : DeriveCall) (tf : CoarseTimeframe) (d1 bars : List OHLCVBar) : List OHLCVBar :=
  (bars.filter fun b => !c.deletes tf b) ++ (c.payloads tf d1 bars).map (c.row tf)

/-- `derived_rows`. -/
def derivedRows (c : DeriveCall) (tf : CoarseTimeframe) (bars : List OHLCVBar) : List OHLCVBar :=
  sortBy OHLCVBar.ts (bars.filter fun b => decide (b.series = c.series tf) && b.isDerived)

def stateKey (c : DeriveCall) (tf : CoarseTimeframe) : DatasetKey where
  instrumentId := c.instrumentId
  dataSourceId := none
  datasetKey := tf.timeframe.text ++ ":" ++ adjustmentText c.adjusted

/-- `preserve_existing_state`. -/
def preservesState (c : DeriveCall) (state : Option DatasetState) (rows : List OHLCVBar) : Bool :=
  state.isSome && c.bound.isSome && rows.any fun b => !withinBound c.bound b.ts

def writtenState (c : DeriveCall) (tf : CoarseTimeframe) (state : Option DatasetState)
    (rows : List OHLCVBar) (excluded : ℕ) (signature : Option D1Signature)
    (factorVersion : Option String) : DatasetState where
  key := c.stateKey tf
  status := if rows = [] then .pending else .fresh
  coverageStart := rows.head?.map (·.ts)
  coverageEnd := rows.getLast?.map (·.ts)
  observedAt := some c.now
  fetchedAt := some c.now
  version := match state with
    | some s => max 1 s.version + 1
    | none => 1
  snapshotHash := state.bind (·.snapshotHash)
  extraData := some {
    sourceTimeframe := some Timeframe.D1.text
    derivationMethod := some ChartingPlatform.derivationMethod
    adjusted := some c.adjusted
    derivedBarCount := some rows.length
    providerPeriodsExcluded := some excluded
    sourceD1Signature := signature
    adjustmentProvenance := some {
      mode := if c.adjusted then "split_adjusted" else "raw"
      sourceKind := "derived_from_canonical_d1"
      factorStatus := "inherited_from_canonical_d1"
      factorVersion := factorVersion
      contractVersion := 1 } }

def deriveTimeframe (c : DeriveCall) (d1 : List OHLCVBar) (signature : Option D1Signature)
    (factorVersion : Option String) (t : MarketTables) (tf : CoarseTimeframe) : MarketTables :=
  let excluded := (c.providerPeriods tf t.bars).dedup.length
  let bars := c.rebuild tf d1 t.bars
  let rows := c.derivedRows tf bars
  let state := rowWith DatasetState.key (c.stateKey tf) t.states
  if c.preservesState state rows then { t with bars := bars }
  else
    { bars := bars
      states := upsert DatasetState.key
        (c.writtenState tf state rows excluded signature factorVersion) t.states }

/-- `materialize_derived_timeframes`; the counts it returns are those of
    `payloads`. -/
def materializeDerivedTimeframes (c : DeriveCall) (t : MarketTables) : MarketTables :=
  let d1 := d1Bars t c.instrumentId c.adjusted c.bound
  let factorVersion := canonicalD1FactorVersion t c.instrumentId c.adjusted c.bound
  let signature := if c.bound.isNone then some (canonicalD1Signature t c.instrumentId c.adjusted)
    else none
  [CoarseTimeframe.W1, CoarseTimeframe.MN].foldl (c.deriveTimeframe d1 signature factorVersion) t

end DeriveCall

end ChartingPlatform
