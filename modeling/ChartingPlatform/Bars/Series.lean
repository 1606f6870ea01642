/-
  Market series (`models/market_data_foundation.py`) and the bars that compatibility
  reads select (`market_data.py`): the mapped series, else the first canonical series
  with bars, else the rows without a series.

  The tables carry the proofs of their unique constraints.  Whatever is selected for an
  instrument and timeframe is one series (`selected_series`).
-/
import ChartingPlatform.Bars.Tables
import ChartingPlatform.Lib.Latest

namespace ChartingPlatform

open Lib

/-! ## Tables -/

/-- A row of `ohlcv_bar` with the columns of its scope. -/
structure MarketBar extends OHLCVBar where
  id : ℤ
  session : String := "regular"
  adjustmentBasis : String := "raw"
  adjustmentVersion : String := "legacy"
  deriving DecidableEq

/-- `uq_ohlcv_bar`. -/
def MarketBar.uqOhlcvBar (b : MarketBar) : ℤ × Timeframe × Instant × Bool × String :=
  (b.instrumentId, b.timeframe, b.ts, b.isAdjusted, b.scopeKey)

/-- `AdjustmentBasis`. -/
inductive AdjustmentBasis where
  | raw | splitAdjusted | totalReturn | providerAdjusted
  deriving DecidableEq, Repr

/-- `uq_market_series_scope`; `SeriesScope` has the same fields. -/
structure SeriesScope where
  instrumentId : ℤ
  timeframe : String
  exchangeId : Option ℤ := none
  dataSourceId : Option ℤ := none
  feedScope : String := "consolidated"
  sessionCode : String := "regular"
  adjustmentBasis : AdjustmentBasis := .raw
  adjustmentVersion : String := "v1"
  deriving DecidableEq

/-- `MarketSeries`. -/
structure MarketSeries where
  id : ℤ
  scope : SeriesScope
  isCanonical : Bool := false
  isActive : Bool := true
  deriving DecidableEq

/-- `uq_market_series_default_scope`. -/
structure DefaultScope where
  instrumentId : ℤ
  timeframe : String
  isAdjusted : Bool
  deriving DecidableEq

/-- `MarketSeriesDefault`. -/
structure MarketSeriesDefault where
  scope : DefaultScope
  marketSeriesId : Option ℤ
  deriving DecidableEq

/-- `DataSource`. -/
structure DataSource where
  id : ℤ
  name : String
  deriving DecidableEq

structure SeriesTables where
  bars : List MarketBar
  series : List MarketSeries
  defaults : List MarketSeriesDefault
  dataSources : List DataSource
  bar_ids : (bars.map (·.id)).Nodup
  bar_keys : (bars.map MarketBar.uqOhlcvBar).Nodup
  series_ids : (series.map (·.id)).Nodup
  default_scopes : (defaults.map (·.scope)).Nodup
  source_names : (dataSources.map (·.name)).Nodup

/-! ## The selected series -/

/-- `a = b` in a `WHERE` clause: a comparison with `NULL` selects nothing. -/
def sqlEq (a b : Option ℤ) : Bool := a.isSome && decide (a = b)

section
variable (T : SeriesTables) (instrumentId : ℤ) (timeframe : Timeframe) (adjusted : Bool)

def MarketBar.inMode (b : MarketBar) : Bool :=
  decide (b.instrumentId = instrumentId ∧ b.timeframe = timeframe ∧ b.isAdjusted = adjusted)

/-- The default mapping of an instrument, timeframe and adjustment mode. -/
def defaultMapping : Option MarketSeriesDefault :=
  rowWith (·.scope) ⟨instrumentId, timeframe.text, adjusted⟩ T.defaults

/-- `mapped_id`. -/
def mappedId : Option ℤ := (defaultMapping T instrumentId timeframe adjusted).bind (·.marketSeriesId)

/-- `mapping_target_has_bars`. -/
def mappingTargetHasBars : Bool :=
  T.series.any fun s => sqlEq (some s.id) (mappedId T instrumentId timeframe adjusted) &&
    s.isActive && T.bars.any fun b =>
      sqlEq b.marketSeriesId (some s.id) && b.inMode instrumentId timeframe adjusted

/-- `adjustment_predicate`. -/
def adjustmentPredicate (s : MarketSeries) : Bool :=
  if adjusted then decide (s.scope.adjustmentBasis ≠ .raw)
  else decide (s.scope.adjustmentBasis = .raw)

/-- `canonical_id`. -/
def canonicalId : Option ℤ :=
  ((T.series.filter fun s => decide (s.scope.instrumentId = instrumentId) &&
    decide (s.scope.timeframe = timeframe.text) && s.isCanonical && s.isActive &&
      adjustmentPredicate adjusted s).map (·.id)).min?

/-- `canonical_has_bars`. -/
def canonicalHasBars : Bool :=
  T.bars.any fun b => b.inMode instrumentId timeframe adjusted &&
    sqlEq b.marketSeriesId (canonicalId T instrumentId timeframe adjusted)

/-- `_default_series_bar_condition`. -/
def defaultSeriesBarCondition (b : MarketBar) : Bool :=
  let mapped := mappingTargetHasBars T instrumentId timeframe adjusted
  let canonical := canonicalHasBars T instrumentId timeframe adjusted
  (mapped && sqlEq b.marketSeriesId (mappedId T instrumentId timeframe adjusted)) ||
    (!mapped && canonical && sqlEq b.marketSeriesId (canonicalId T instrumentId timeframe adjusted)) ||
    (!mapped && !canonical && b.marketSeriesId.isNone)

def selectedSeries : Option ℤ :=
  if mappingTargetHasBars T instrumentId timeframe adjusted then
    mappedId T instrumentId timeframe adjusted
  else if canonicalHasBars T instrumentId timeframe adjusted then
    canonicalId T instrumentId timeframe adjusted
  else none

end

theorem eq_of_sqlEq {a b : Option ℤ} (h : sqlEq a b = true) : a = b := by
  rw [sqlEq, Bool.and_eq_true] at h
  exact of_decide_eq_true h.2

section
variable {T : SeriesTables} {instrumentId : ℤ} {timeframe : Timeframe} {adjusted : Bool}
  {b : MarketBar}

theorem selected_series (h : defaultSeriesBarCondition T instrumentId timeframe adjusted b = true) :
    b.marketSeriesId = selectedSeries T instrumentId timeframe adjusted := by
  unfold defaultSeriesBarCondition at h
  unfold selectedSeries
  dsimp only at h
  split <;> rename_i hmapped
  · simp only [hmapped, Bool.true_and, Bool.not_true, Bool.false_and, Bool.or_false] at h
    exact eq_of_sqlEq h
  · rw [Bool.not_eq_true] at hmapped
    split <;> rename_i hcanonical
    · simp only [hmapped, hcanonical, Bool.false_and, Bool.false_or, Bool.not_false, Bool.true_and,
        Bool.not_true, Bool.or_false] at h
      exact eq_of_sqlEq h
    · rw [Bool.not_eq_true] at hcanonical
      simp only [hmapped, hcanonical, Bool.false_and, Bool.false_or, Bool.not_false,
        Bool.and_false, Bool.true_and] at h
      exact Option.isNone_iff_eq_none.1 h

end

/-! ## Reading the latest bars -/

/-- `Instrument`, as far as reads of bars use it. -/
structure Instrument where
  id : ℤ
  assetClassId : ℤ
  isActive : Bool
  isSynthetic : Bool
  deriving DecidableEq

/-- `_e2e_fixture_bar_condition`. -/
def e2eFixtureBarCondition (T : SeriesTables) (b : MarketBar) : Bool :=
  sqlEq b.dataSourceId ((rowWith (·.name) "e2e_reference" T.dataSources).map (·.id))

section
variable (e2eSeedMarketData : Bool) (T : SeriesTables) (instrumentId : ℤ) (timeframe : Timeframe)
  (adjusted : Bool)

def readPredicates (b : MarketBar) : Bool :=
  b.inMode instrumentId timeframe adjusted &&
    defaultSeriesBarCondition T instrumentId timeframe adjusted b &&
    (!e2eSeedMarketData || e2eFixtureBarCondition T b)

/-- `_fetch_ohlcv_latest_impl` with `allow_provider_fetch` off.  A synthetic instrument's bars are
    recomputed from its constituents. -/
def fetchOhlcvLatest (recompute : SeriesTables → Instrument → Timeframe → List MarketBar)
    (instrument : Instrument) (limit : ℕ) : List MarketBar :=
  if instrument.isSynthetic then (recompute T instrument timeframe).rtake limit
  else sortBy (·.ts) (latest (·.ts) limit
    (T.bars.filter (readPredicates e2eSeedMarketData T instrument.id timeframe adjusted)))

end

end ChartingPlatform
