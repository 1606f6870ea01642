/-
  Ingestion of daily bars (`market_data.py`) and the check whether derived
  timeframes need a refresh (`derived_timeframes.py`).

  The check reads a signature: counts, bounds, identities and the states of the
  sources.  Moments in a signature are compared as instants; the source compares
  their ISO texts in UTC, which are ordered alike.
-/
import ChartingPlatform.Bars.Adjusted
import ChartingPlatform.Bars.Derived

namespace ChartingPlatform

open Lib

/-! ## Provider bars -/

/-- `persist_price_history_bars` for the timeframe D1: its arguments, where the bars
    are those of the instrument, the source and the adjustment mode. -/
structure IngestCall where
  instrumentId : ℤ
  dataSourceId : ℤ
  adjusted : Bool := true
  bars : List OHLCVBar
  fetchedAt : Instant
  useUpsert : Bool := true
  series : ∀ b ∈ bars, b.series = d1Series instrumentId adjusted
  source : ∀ b ∈ bars, b.dataSourceId = some dataSourceId

/-- `_bar_as_dict`: the columns of derived bars have their defaults. -/
def OHLCVBar.asDict (b : OHLCVBar) : OHLCVBar :=
  { b with
    isDerived := false
    sourceTimeframe := none
    derivationMethod := none
    derivedAt := none
    sourceBarCount := none
    sourceStart := none
    sourceEnd := none }

/-- `ON CONFLICT DO UPDATE SET ...`: what the new bar changes in the old row. -/
def OHLCVBar.excluded (b old : OHLCVBar) : OHLCVBar :=
  { old with
    open_ := b.open_
    high := b.high
    low := b.low
    close := b.close
    volume := b.volume
    vwap := b.vwap
    dataSourceId := b.dataSourceId
    marketSeriesId := b.marketSeriesId }

namespace IngestCall

def insertBar (c : IngestCall) (bars : List OHLCVBar) (b : OHLCVBar) : List OHLCVBar :=
  if b.uniqueKey ∈ bars.map OHLCVBar.uniqueKey then
    if c.useUpsert then updateRow OHLCVBar.uniqueKey b.uniqueKey b.excluded bars else bars
  else bars ++ [b.asDict]

def stateKey (c : IngestCall) : DatasetKey where
  instrumentId := c.instrumentId
  dataSourceId := some c.dataSourceId
  datasetKey := "D1:" ++ adjustmentText c.adjusted

/-- The state after `_touch_ohlcv_dataset_state`. -/
def touched (c : IngestCall) (state : Option DatasetState) : DatasetState :=
  { state.getD { key := c.stateKey } with
    key := c.stateKey
    status := if c.bars = [] then .pending else .fresh
    observedAt := some c.fetchedAt
    fetchedAt := some c.fetchedAt
    coverageStart := if c.bars = [] then (state.getD { key := c.stateKey }).coverageStart
      else (coverage c.bars).1
    coverageEnd := if c.bars = [] then (state.getD { key := c.stateKey }).coverageEnd
      else (coverage c.bars).2
    extraData := if c.bars = [] then (state.getD { key := c.stateKey }).extraData
      else some { barCount := some c.bars.length, adjusted := some c.adjusted } }

/-- `persist_price_history_bars`. -/
def persistPriceHistoryBars (c : IngestCall) (t : MarketTables) : MarketTables :=
  if c.bars = [] then t
  else
    { bars := c.bars.foldl c.insertBar t.bars
      states := upsert DatasetState.key
        (c.touched (rowWith DatasetState.key c.stateKey t.states)) t.states }

end IngestCall

/-! ## The check -/

def Timeframe.coarse : Timeframe → Option CoarseTimeframe
  | .W1 => some .W1
  | .MN => some .MN
  | _ => none

def derivedIn (S : BarSeries) (bars : List OHLCVBar) : List OHLCVBar :=
  bars.filter fun b => decide (b.series = S) && b.isDerived

def derivedKey (instrumentId : ℤ) (adjusted : Bool) (tf : CoarseTimeframe) : DatasetKey where
  instrumentId := instrumentId
  dataSourceId := none
  datasetKey := tf.timeframe.text ++ ":" ++ adjustmentText adjusted

/-- `stored_signature`. -/
def DatasetState.storedSignature (s : DatasetState) : Option D1Signature :=
  s.extraData.bind (·.sourceD1Signature)

def legacyNeedsRefresh (signature : D1Signature) (state : DatasetState)
    (derived : List OHLCVBar) : Bool :=
  let newestSourceFetch := (signature.sourceWatermarks.filterMap (·.fetchedAt)).max?
  if (newestSourceFetch.any fun newest => state.fetchedAt.any fun fetched =>
      decide (fetched < newest)) = true then true
  else
    match (derived.filterMap (·.sourceStart)).min?, (derived.filterMap (·.sourceEnd)).max? with
    | some sourceStart, some sourceEnd =>
      (signature.coverageStart.any fun s => decide (s < sourceStart)) ||
        signature.coverageEnd.any fun e => decide (sourceEnd < e)
    | _, _ => true

/-- `derived_timeframe_needs_refresh`. -/
def derivedTimeframeNeedsRefresh (t : MarketTables) (instrumentId : ℤ) (timeframe : Timeframe)
    (adjusted : Bool) : Bool :=
  match timeframe.coarse with
  | none => false
  | some tf =>
    let signature := canonicalD1Signature t instrumentId adjusted
    let derived := derivedIn ⟨instrumentId, tf.timeframe, adjusted⟩ t.bars
    let state := rowWith DatasetState.key (derivedKey instrumentId adjusted tf) t.states
    if signature.barCount = 0 then false
    else if derived = [] then true
    else
      match state.bind (·.storedSignature), state with
      | some stored, _ => decide (stored ≠ signature)
      | none, none => true
      | none, some state => legacyNeedsRefresh signature state derived

end ChartingPlatform
