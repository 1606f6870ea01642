/-
  Market-data tables (`models/ohlcv.py`, `models/provider_observation.py`): bars
  and the states of the datasets they belong to.

  Moments are UTC instants.  Numbers are exact rationals: neither the rounding of
  the `Numeric` columns nor that of the decimal context is modelled.  A table is
  the list of its rows in the order in which the database gives them.
-/
import ChartingPlatform.Lib.Gregorian
import ChartingPlatform.Lib.Sorting
import ChartingPlatform.Lib.Updates

namespace ChartingPlatform

open Lib

/-! ## Bars -/

/-- `Timeframe`. -/
inductive Timeframe where
  | M1 | M5 | M15 | M30 | H1 | H2 | H4 | H12 | D1 | W1 | MN | Y1
  deriving DecidableEq, Repr

def Timeframe.text : Timeframe → String
  | .M1 => "M1" | .M5 => "M5" | .M15 => "M15" | .M30 => "M30"
  | .H1 => "H1" | .H2 => "H2" | .H4 => "H4" | .H12 => "H12"
  | .D1 => "D1" | .W1 => "W1" | .MN => "MN" | .Y1 => "Y1"

/-- `OHLCVBar`. -/
structure OHLCVBar where
  instrumentId : ℤ
  dataSourceId : Option ℤ
  marketSeriesId : Option ℤ
  timeframe : Timeframe
  ts : Instant
  scopeKey : String := "legacy:regular"
  open_ : ℚ
  high : ℚ
  low : ℚ
  close : ℚ
  volume : Option ℚ
  vwap : Option ℚ
  isAdjusted : Bool
  isDerived : Bool
  sourceTimeframe : Option String := none
  derivationMethod : Option String := none
  derivedAt : Option Instant := none
  sourceBarCount : Option ℕ := none
  sourceStart : Option Instant := none
  sourceEnd : Option Instant := none
  deriving DecidableEq

/-- One instrument's bars of a timeframe in one adjustment mode. -/
structure BarSeries where
  instrumentId : ℤ
  timeframe : Timeframe
  isAdjusted : Bool
  deriving DecidableEq

def OHLCVBar.series (b : OHLCVBar) : BarSeries := ⟨b.instrumentId, b.timeframe, b.isAdjusted⟩

/-- `ts <= end`, where there is a bound. -/
def withinBound (bound : Option Instant) (ts : Instant) : Bool := bound.all fun e => decide (ts ≤ e)

@[simp] theorem withinBound_none (ts : Instant) : withinBound none ts = true := rfl

@[simp] theorem withinBound_some {e ts : Instant} : withinBound (some e) ts = true ↔ ts ≤ e := by
  simp [withinBound]

/-! ## Dataset states -/

/-- `DatasetStatus`. -/
inductive DatasetStatus where
  | fresh | stale | pending | failed
  deriving DecidableEq, Repr

/-- One entry of `source_watermarks`. -/
structure SourceWatermark where
  dataSourceId : Option ℤ
  version : ℤ
  status : DatasetStatus
  fetchedAt : Option Instant
  coverageStart : Option Instant
  coverageEnd : Option Instant
  deriving DecidableEq

/-- `source_d1_signature`. -/
structure D1Signature where
  adjusted : Bool
  barCount : ℕ
  coverageStart : Option Instant
  coverageEnd : Option Instant
  dataSourceIds : List ℤ
  marketSeriesIds : List ℤ
  sourceWatermarks : List SourceWatermark
  deriving DecidableEq

/-- `adjustment_provenance`. -/
structure AdjustmentProvenance where
  mode : String
  sourceKind : String
  factorStatus : String
  factorVersion : Option String
  contractVersion : ℕ
  deriving DecidableEq

/-- `InstrumentDatasetState.extra_data`; which entries there are depends on who
    wrote the state. -/
structure StateExtra where
  sourceTimeframe : Option String := none
  derivationMethod : Option String := none
  adjusted : Option Bool := none
  adjustment : Option String := none
  sourceKind : Option String := none
  providerSourceId : Option ℤ := none
  barCount : Option ℕ := none
  derivedBarCount : Option ℕ := none
  providerPeriodsExcluded : Option ℕ := none
  sourceD1Signature : Option D1Signature := none
  adjustmentProvenance : Option AdjustmentProvenance := none
  deriving DecidableEq

/-- The unique key of a dataset state; the dataset type is always `ohlcv`. -/
structure DatasetKey where
  instrumentId : ℤ
  dataSourceId : Option ℤ
  datasetKey : String
  deriving DecidableEq

/-- `InstrumentDatasetState`. -/
structure DatasetState where
  key : DatasetKey
  status : DatasetStatus := .pending
  coverageStart : Option Instant := none
  coverageEnd : Option Instant := none
  observedAt : Option Instant := none
  fetchedAt : Option Instant := none
  version : ℤ := 1
  snapshotHash : Option String := none
  extraData : Option StateExtra := none
  deriving DecidableEq

structure MarketTables where
  bars : List OHLCVBar := []
  states : List DatasetState := []
  deriving DecidableEq

/-- `adj` or `raw`, as in the keys of datasets. -/
def adjustmentText (adjusted : Bool) : String := if adjusted then "adj" else "raw"

end ChartingPlatform
