/-
  The bars that a screener evaluates (`screener_engine.py`): the latest rows of an instrument
  and timeframe, whatever their adjustment mode and series.
-/
import ChartingPlatform.Bars.Series

namespace ChartingPlatform

open Lib List

/-! ## The universe -/

/-- Which instruments a screener runs on, with the members that its list refers to. -/
inductive ScreenerUniverse where
  | custom (instrumentIds : List ℤ)
  | watchlist (items : List ℤ)
  | basket (members : List ℤ)
  | assetClass (assetClassId : ℤ)
  | everything

def eligible (i : Instrument) : Bool := i.isActive && !i.isSynthetic

/-- `_get_universe`, as the rows of its instruments. -/
def getUniverse (instruments : List Instrument) : ScreenerUniverse → List Instrument
  | .custom ids => instruments.filter fun i => decide (i.id ∈ ids) && eligible i
  | .watchlist items => items.flatMap fun k => instruments.filter fun i => decide (i.id = k) && eligible i
  | .basket members => members.flatMap fun k => instruments.filter fun i => decide (i.id = k) && eligible i
  | .assetClass c => instruments.filter fun i => decide (i.assetClassId = c) && eligible i
  | .everything => instruments.filter eligible

theorem eligible_of_mem {instruments : List Instrument} {u : ScreenerUniverse} {i : Instrument}
    (h : i ∈ getUniverse instruments u) : eligible i = true := by
  have hmem : ∀ {q : Instrument → Bool}, (i ∈ instruments.filter fun i => q i && eligible i) →
      eligible i = true := by
    intro q hi
    exact (Bool.and_eq_true _ _ ▸ (mem_filter.1 hi).2).2
  cases u with
  | custom ids => exact hmem h
  | watchlist items | basket members =>
    obtain ⟨k, -, hk⟩ := mem_flatMap.1 h
    exact hmem hk
  | assetClass c => exact hmem h
  | everything => exact (mem_filter.1 h).2

/-! ## Loading bars -/

/-- `SCREENER_LOOKBACK_BARS`. -/
def screenerLookbackBars : ℕ := 300

def latestRows (T : SeriesTables) (instrumentId : ℤ) (timeframe : Timeframe) : List MarketBar :=
  latest (·.ts) screenerLookbackBars
    (T.bars.filter fun b => decide (b.instrumentId = instrumentId ∧ b.timeframe = timeframe))

/-- `_load_bars`, before the conversion to a series. -/
def loadBars (T : SeriesTables) (instrumentId : ℤ) (timeframe : Timeframe) : List MarketBar :=
  (latestRows T instrumentId timeframe).reverse

/-- `_load_bars_and_rows_by_instrument`: the rows of each instrument and timeframe. -/
def loadBarsAndRowsByInstrument (T : SeriesTables) (instrumentIds : List ℤ)
    (timeframes : List Timeframe) (instrumentId : ℤ) (timeframe : Timeframe) : List MarketBar :=
  if instrumentId ∈ instrumentIds ∧ timeframe ∈ timeframes then
    sortBy (·.ts) (latestRows T instrumentId timeframe)
  else []

/-! ## The screener against the chart -/

section
variable {e2eSeedMarketData : Bool} {T : SeriesTables} {timeframe : Timeframe} {instrumentId : ℤ}

theorem filter_readPredicates :
    T.bars.filter (readPredicates e2eSeedMarketData T instrumentId timeframe true) =
      (T.bars.filter fun b => decide (b.instrumentId = instrumentId ∧ b.timeframe = timeframe)).filter
        (readPredicates e2eSeedMarketData T instrumentId timeframe true) := by
  rw [filter_filter]
  refine filter_congr fun b _ => ?_
  rw [Bool.eq_iff_iff, Bool.and_eq_true]
  refine ⟨fun h => ⟨h, ?_⟩, And.left⟩
  simp only [readPredicates, MarketBar.inMode, Bool.and_eq_true, decide_eq_true_eq] at h
  exact decide_eq_true ⟨h.1.1.1, h.1.1.2.1⟩

theorem nodup_bars (T : SeriesTables) : T.bars.Nodup := T.bar_ids.of_map

theorem latestRows_iff :
    (latestRows T instrumentId timeframe).reverse =
        sortBy (·.ts) (latest (·.ts) screenerLookbackBars (T.bars.filter
          (readPredicates e2eSeedMarketData T instrumentId timeframe true))) ∧
      sortBy (·.ts) (latestRows T instrumentId timeframe) =
        sortBy (·.ts) (latest (·.ts) screenerLookbackBars (T.bars.filter
          (readPredicates e2eSeedMarketData T instrumentId timeframe true))) ↔
    (∀ b ∈ latestRows T instrumentId timeframe,
      readPredicates e2eSeedMarketData T instrumentId timeframe true b = true) ∧
      ((latestRows T instrumentId timeframe).map (·.ts)).Nodup := by
  have hnodup : (T.bars.filter fun b =>
      decide (b.instrumentId = instrumentId ∧ b.timeframe = timeframe)).Nodup :=
    (nodup_bars T).filter _
  constructor
  · rintro ⟨hreverse, hsorted⟩
    refine ⟨?_, (reverse_latest_iff hnodup).1 (hreverse.trans hsorted.symm)⟩
    intro b hb
    have hmem : b ∈ sortBy (·.ts) (latest (·.ts) screenerLookbackBars (T.bars.filter
        (readPredicates e2eSeedMarketData T instrumentId timeframe true))) := by
      rw [← hsorted, mem_sortBy]
      exact hb
    exact (mem_filter.1 (latest_subset b ((mem_sortBy _).1 hmem))).2
  · rintro ⟨hread, hts⟩
    rw [filter_readPredicates, latest_filter hread]
    exact ⟨(reverse_latest_iff hnodup).2 hts, rfl⟩

end

/-- **The screener evaluates the chart's bars** exactly when each of the latest rows of the
    instrument and timeframe is one that the chart reads and their timestamps differ; the bars
    that the chart reads are of one adjustment mode and one series. -/
theorem screener_shows_chart (e2eSeedMarketData : Bool) (T : SeriesTables)
    (recompute : SeriesTables → Instrument → Timeframe → List MarketBar)
    (instruments : List Instrument) (chosen : ScreenerUniverse) (instrument : Instrument)
    (timeframe : Timeframe) (hi : instrument ∈ getUniverse instruments chosen) :
    ((loadBars T instrument.id timeframe =
          fetchOhlcvLatest e2eSeedMarketData T timeframe true recompute instrument
            screenerLookbackBars ∧
        ∀ instrumentIds timeframes, instrument.id ∈ instrumentIds → timeframe ∈ timeframes →
          loadBarsAndRowsByInstrument T instrumentIds timeframes instrument.id timeframe =
            fetchOhlcvLatest e2eSeedMarketData T timeframe true recompute instrument
              screenerLookbackBars) ↔
      (∀ b ∈ latestRows T instrument.id timeframe,
        readPredicates e2eSeedMarketData T instrument.id timeframe true b = true) ∧
        ((latestRows T instrument.id timeframe).map (·.ts)).Nodup) ∧
    ∀ b ∈ fetchOhlcvLatest e2eSeedMarketData T timeframe true recompute instrument
        screenerLookbackBars,
      b.isAdjusted = true ∧ b.marketSeriesId = selectedSeries T instrument.id timeframe true := by
  have hsynthetic : instrument.isSynthetic = false := by
    have := eligible_of_mem hi
    rw [eligible, Bool.and_eq_true, Bool.not_eq_true'] at this
    exact this.2
  have hfetch : fetchOhlcvLatest e2eSeedMarketData T timeframe true recompute instrument
      screenerLookbackBars = sortBy (·.ts) (latest (·.ts) screenerLookbackBars (T.bars.filter
        (readPredicates e2eSeedMarketData T instrument.id timeframe true))) := by
    rw [fetchOhlcvLatest, hsynthetic]
    rfl
  rw [hfetch]
  refine ⟨?_, ?_⟩
  · rw [← latestRows_iff]
    refine and_congr_right fun _ => ?_
    constructor
    · intro h
      have := h [instrument.id] [timeframe] mem_cons_self mem_cons_self
      rwa [loadBarsAndRowsByInstrument, if_pos ⟨mem_cons_self, mem_cons_self⟩] at this
    · intro h ids tfs hid htf
      rw [loadBarsAndRowsByInstrument, if_pos ⟨hid, htf⟩, h]
  · intro b hb
    have hread := (mem_filter.1 (latest_subset b ((mem_sortBy _).1 hb))).2
    simp only [readPredicates, MarketBar.inMode, Bool.and_eq_true, decide_eq_true_eq] at hread
    exact ⟨hread.1.1.2.2, selected_series hread.1.2⟩

/-! ## Raw and adjusted rows -/

def shownBar (id : ℤ) (ts : Instant) (adjusted : Bool) (close : ℚ) : MarketBar where
  id := id
  instrumentId := 1
  dataSourceId := some 1
  marketSeriesId := none
  timeframe := .D1
  ts := ts
  open_ := close
  high := close
  low := close
  close := close
  volume := none
  vwap := none
  isAdjusted := adjusted
  isDerived := false

/-- An adjusted bar and the raw one of the next day. -/
def mixedTables : SeriesTables where
  bars := [shownBar 1 86400000000 true 50, shownBar 2 172800000000 false 100]
  series := []
  defaults := []
  dataSources := [⟨1, "massive"⟩]
  bar_ids := by decide
  bar_keys := by decide
  series_ids := by decide
  default_scopes := by decide
  source_names := by decide

def sampleInstrument : Instrument := ⟨1, 1, true, false⟩

theorem screener_mixes_modes : ¬ ∀ (T : SeriesTables) (instrument : Instrument),
    instrument ∈ getUniverse [sampleInstrument] .everything →
      loadBars T instrument.id .D1 =
        fetchOhlcvLatest false T .D1 true (fun _ _ _ => []) instrument screenerLookbackBars := by
  intro h
  have heq := h mixedTables sampleInstrument (by decide)
  have hlen : (loadBars mixedTables sampleInstrument.id .D1).length = 2 := by decide
  rw [heq] at hlen
  exact absurd hlen (by decide)

def chartTables : SeriesTables where
  bars := [shownBar 1 86400000000 true 50]
  series := []
  defaults := []
  dataSources := []
  bar_ids := by decide
  bar_keys := by decide
  series_ids := by decide
  default_scopes := by decide
  source_names := by decide

/-- Three days of adjusted bars, the rows in another order. -/
def weekTables : SeriesTables :=
  { chartTables with
    bars := [shownBar 1 172800000000 true 60, shownBar 2 259200000000 true 70,
      shownBar 3 86400000000 true 50]
    bar_ids := by decide
    bar_keys := by decide }

theorem screener_shows_chart_week : loadBars weekTables 1 .D1 =
      fetchOhlcvLatest false weekTables .D1 true (fun _ _ _ => []) sampleInstrument
        screenerLookbackBars ∧
    loadBarsAndRowsByInstrument weekTables [1, 2] [.D1] 1 .D1 =
      fetchOhlcvLatest false weekTables .D1 true (fun _ _ _ => []) sampleInstrument
        screenerLookbackBars ∧
    (loadBars weekTables 1 .D1).map (·.close) = [50, 60, 70] := by
  obtain ⟨hload, hgrouped⟩ := (screener_shows_chart false weekTables (fun _ _ _ => [])
    [sampleInstrument] .everything sampleInstrument .D1 (by decide)).1.2 ⟨by decide, by decide⟩
  exact ⟨hload, hgrouped [1, 2] [.D1] (by decide) (by decide), by decide⟩

end ChartingPlatform
