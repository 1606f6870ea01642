/-
  Consistency of locally split-adjusted views over runs of calls: rows that were written
  through different windows have different baselines and one recorded version of the splits.
-/
import ChartingPlatform.Bars.Baselines
import ChartingPlatform.Bars.Periods

namespace ChartingPlatform

open Lib List

section
variable {observations : List AdjustmentFactorObservation} {instrument source : ℤ}
  {version : String} {tf : Timeframe} {m m₁ m₂ ts : Instant} {b b₁ b₂ r r₁ r₂ : OHLCVBar}
  {t t' t₀ : MarketTables} {a : ViewRequest} {as as' : List ViewRequest} {rows₀ : List OHLCVBar}

/-! ## Scaled rows -/

def OHLCVBar.prices : List (OHLCVBar → ℚ) := [(·.open_), (·.high), (·.low), (·.close)]

/-- The row is a local one of the raw bar, with the baseline `m`. -/
structure ScaledTo (observations : List AdjustmentFactorObservation) (instrument source : ℤ)
    (m : Instant) (b r : OHLCVBar) : Prop where
  ts : r.ts = b.ts
  through : b.ts ≤ m
  isLocal : r.isLocalSplit = true
  price : ∀ p ∈ OHLCVBar.prices, p r = p b * (splitRatio observations instrument source b.ts m)⁻¹

theorem ScaledTo.consistent_iff (h₁ : ScaledTo observations instrument source m₁ b₁ r₁)
    (h₂ : ScaledTo observations instrument source m₂ b₂ r₂)
    (hsplits : CompleteSplits observations instrument source version) (hts : b₁.ts ≤ b₂.ts)
    {p : OHLCVBar → ℚ} (hp : p ∈ OHLCVBar.prices) (hp₁ : p b₁ ≠ 0) (hp₂ : p b₂ ≠ 0) :
    p r₁ / p b₁ / (p r₂ / p b₂) = (splitRatio observations instrument source b₁.ts b₂.ts)⁻¹ ↔
      splitRatio observations instrument source (min m₁ m₂) (max m₁ m₂) = 1 := by
  have hpos : ∀ lo hi, splitRatio observations instrument source lo hi ≠ 0 := fun lo hi =>
    (hsplits.splitRatio_pos).ne'
  have hquotient : p r₁ / p b₁ / (p r₂ / p b₂) =
      splitRatio observations instrument source b₂.ts m₂ /
        splitRatio observations instrument source b₁.ts m₁ := by
    rw [h₁.price p hp, h₂.price p hp]
    have h₁' := hpos b₁.ts m₁
    have h₂' := hpos b₂.ts m₂
    field_simp
  have hthrough : splitRatio observations instrument source b₁.ts b₂.ts *
      splitRatio observations instrument source b₂.ts m₂ =
        splitRatio observations instrument source b₁.ts m₂ := splitRatio_mul hts h₂.through
  have hratio : p r₁ / p b₁ / (p r₂ / p b₂) =
      (splitRatio observations instrument source b₁.ts b₂.ts)⁻¹ ↔
        splitRatio observations instrument source b₁.ts m₂ =
          splitRatio observations instrument source b₁.ts m₁ := by
    rw [hquotient, ← hthrough, div_eq_iff (hpos _ _), inv_mul_eq_div, eq_div_iff (hpos _ _),
      mul_comm]
  rw [hratio]
  rcases le_total m₁ m₂ with hle | hle
  · rw [min_eq_left hle, max_eq_right hle, ← splitRatio_mul h₁.through hle]
    exact mul_eq_left₀ (hpos _ _)
  · rw [min_eq_right hle, max_eq_left hle, ← splitRatio_mul (h₂.through.trans' hts) hle]
    exact left_eq_mul₀ (hpos _ _)

theorem ScaledTo.same_iff (h₁ : ScaledTo observations instrument source m₁ b r₁)
    (h₂ : ScaledTo observations instrument source m₂ b r₂)
    (hsplits : CompleteSplits observations instrument source version)
    {p : OHLCVBar → ℚ} (hp : p ∈ OHLCVBar.prices) (hpb : p b ≠ 0) :
    p r₁ = p r₂ ↔ splitRatio observations instrument source (min m₁ m₂) (max m₁ m₂) = 1 := by
  have hpos : ∀ lo hi, splitRatio observations instrument source lo hi ≠ 0 := fun lo hi =>
    (hsplits.splitRatio_pos).ne'
  have hone : splitRatio observations instrument source b.ts b.ts = 1 := by
    refine mul_left_cancel₀ (hpos b.ts b.ts) ?_
    rw [splitRatio_mul le_rfl le_rfl, mul_one]
  have hp₂ : p r₂ ≠ 0 := by
    rw [h₂.price p hp]
    exact mul_ne_zero hpb (inv_ne_zero (hpos _ _))
  rw [← h₁.consistent_iff h₂ hsplits le_rfl hp hpb hpb, hone, inv_one,
    div_div_div_cancel_right₀ hpb, div_eq_one_iff_eq hp₂]

/-! ## Runs of calls -/

def ViewStep (observations : List AdjustmentFactorObservation) (t : MarketTables)
    (a : ViewRequest) (t' : MarketTables) : Prop := t' = a.materialize observations t

/-- The baseline of the row of a raw bar's timestamp after the calls: that of the
    last call that has one. -/
def baseline (observations : List AdjustmentFactorObservation) (instrument : ℤ) (tf : Timeframe)
    (source : ℤ) (bars : List OHLCVBar) (ts : Instant) (as : List ViewRequest) : Option Instant :=
  as.foldl (fun m a => (a.baseline observations instrument tf source bars ts).or m) none

theorem baseline_snoc : baseline observations instrument tf source t.bars ts (as ++ [a]) =
    (a.baseline observations instrument tf source t.bars ts).or
      (baseline observations instrument tf source t.bars ts as) := by
  rw [baseline, foldl_append]
  rfl

/-- `ViewAt … b rows₀ m rows`: at the timestamp of the raw bar `b` the adjusted series
    had the rows `rows₀`, and has `rows` after calls with the baseline `m` there. -/
inductive ViewAt (observations : List AdjustmentFactorObservation) (instrument source : ℤ)
    (b : OHLCVBar) : List OHLCVBar → Option Instant → List OHLCVBar → Prop
  | unwritten : ViewAt observations instrument source b [] none []
  | written {m : Instant} {r : OHLCVBar} : ScaledTo observations instrument source m b r →
      ViewAt observations instrument source b [] (some m) [r]
  | kept {rows : List OHLCVBar} {m : Option Instant} : rows ≠ [] →
      ViewAt observations instrument source b rows m rows

theorem rawOf_view : rawOf instrument tf (a.materialize observations t).bars =
    rawOf instrument tf t.bars := rawOf_materialize instrument tf

theorem baseline_congr (h : rawOf instrument tf t.bars = rawOf instrument tf t'.bars) :
    a.baseline observations instrument tf source t.bars ts =
      a.baseline observations instrument tf source t'.bars ts := by
  rw [ViewRequest.baseline, ViewRequest.baseline]
  by_cases hof : a.call.instrumentId = instrument ∧ a.call.timeframe = tf
  · have hbars : a.call.rawBars t.bars = a.call.rawBars t'.bars := by
      rw [rawBars_eq, rawBars_eq, hof.1, hof.2, h]
    rw [ViewCall.seesSplit, ViewCall.seesSplit, ViewCall.lastRaw, ViewCall.lastRaw, hbars]
  · rw [if_neg fun h => hof ⟨h.2.1, h.2.2.1⟩, if_neg fun h => hof ⟨h.2.1, h.2.2.1⟩]

theorem baseline_through (hb : b ∈ rawOf instrument tf t.bars)
    (hraw : RawSeries t.bars instrument tf source)
    (h : a.baseline observations instrument tf source t.bars b.ts = some m) : b.ts ≤ m := by
  rw [ViewRequest.baseline] at h
  split_ifs at h with hwrites
  obtain ⟨-, rfl, rfl, -, hany⟩ := hwrites
  obtain ⟨b', hb', hts⟩ := any_eq_true.1 hany
  obtain rfl : b' = b := inj_on_of_nodup_map hraw.nodup (mem_rawBars.1 hb').1 hb
    (of_decide_eq_true hts)
  obtain ⟨m', hlast, hle⟩ := le_lastRaw hb'
  rw [hlast] at h
  exact Option.some.inj h ▸ hle

theorem scaledTo_splitBar {c : ViewCall} {row : OHLCVBar} (hm : b.ts ≤ m)
    (hrow : row = c.newRow (splitBar observations instrument source m b) ∨
      ∃ prior, row = c.overwrite (splitBar observations instrument source m b) prior) :
    ScaledTo observations instrument source m b row := by
  rcases hrow with rfl | ⟨prior, rfl⟩
  · exact ⟨rfl, hm, rfl, by simp [OHLCVBar.prices, ViewCall.newRow, splitBar, rebuiltBar]⟩
  · exact ⟨rfl, hm, rfl, by simp [OHLCVBar.prices, ViewCall.overwrite, splitBar, rebuiltBar]⟩

theorem ViewAt.viewed {rows : List OHLCVBar} {m₀ : Option Instant} {c : ViewCall}
    (h : ViewAt observations instrument source b rows₀ m₀ rows)
    (hnew : ∀ r ∈ rows₀, r.isLocalSplit = false) (hm : b.ts ≤ m) :
    ViewAt observations instrument source b rows₀ (some m)
      (viewedRows splitView c (splitBar observations instrument source m b) rows) := by
  rw [viewedRows]
  cases h with
  | unwritten => exact .written (scaledTo_splitBar hm (.inl rfl))
  | @written _ r hscaled =>
    rw [getLast?_singleton]
    dsimp only
    rw [keeps_splitView, hscaled.isLocal, updateRow, map_cons, if_pos rfl]
    exact .written (scaledTo_splitBar hm (.inr ⟨r, rfl⟩))
  | kept hrows =>
    cases hlast : rows₀.getLast? with
    | none => exact absurd (getLast?_eq_none_iff.1 hlast) hrows
    | some prior =>
      dsimp only
      rw [keeps_splitView, hnew prior (mem_of_getLast? hlast)]
      exact .kept hrows

theorem ViewAt.step {m₀ : Option Instant} (h : ViewAt observations instrument source b rows₀ m₀
      (rowsAt ⟨instrument, tf, true⟩ b.ts t.bars))
    (hnew : ∀ r ∈ rows₀, r.isLocalSplit = false)
    (hraw : RawSeries t.bars instrument tf source)
    (hsplits : CompleteSplits observations instrument source version)
    (hb : b ∈ rawOf instrument tf t.bars) :
    ViewAt observations instrument source b rows₀
      ((a.baseline observations instrument tf source t.bars b.ts).or m₀)
      (rowsAt ⟨instrument, tf, true⟩ b.ts (a.materialize observations t).bars) := by
  rw [rowsAt_materialize hraw hsplits hb]
  cases hm : a.baseline observations instrument tf source t.bars b.ts with
  | none => exact h
  | some m => exact h.viewed hnew (baseline_through hb hraw hm)

/-- What holds of the tables `t` after the calls `as` from `t₀`. -/
structure ViewRun (observations : List AdjustmentFactorObservation) (instrument : ℤ)
    (tf : Timeframe) (source : ℤ) (t₀ : MarketTables) (as : List ViewRequest) (t : MarketTables) :
    Prop where
  raw : rawOf instrument tf t.bars = rawOf instrument tf t₀.bars
  view : ∀ b ∈ rawOf instrument tf t₀.bars, ViewAt observations instrument source b
    (rowsAt ⟨instrument, tf, true⟩ b.ts t₀.bars)
    (baseline observations instrument tf source t₀.bars b.ts as)
    (rowsAt ⟨instrument, tf, true⟩ b.ts t.bars)
  other : ∀ ts, (∀ b ∈ rawOf instrument tf t₀.bars, b.ts ≠ ts) →
    rowsAt ⟨instrument, tf, true⟩ ts t.bars = rowsAt ⟨instrument, tf, true⟩ ts t₀.bars

theorem ViewRun.rawSeries (h : ViewRun observations instrument tf source t₀ as t)
    (hraw : RawSeries t₀.bars instrument tf source) : RawSeries t.bars instrument tf source where
  source := by
    rw [h.raw]
    exact hraw.source
  nodup := by
    rw [h.raw]
    exact hraw.nodup

theorem rowsAt_materialize_other (hraw : RawSeries t.bars instrument tf source)
    (hsplits : CompleteSplits observations instrument source version)
    (h : ∀ b ∈ rawOf instrument tf t.bars, b.ts ≠ ts) :
    rowsAt ⟨instrument, tf, true⟩ ts (a.materialize observations t).bars =
      rowsAt ⟨instrument, tf, true⟩ ts t.bars := by
  obtain ⟨kind, c⟩ := a
  refine rowsAt_materialize_of_not_mem fun d hd hS => ?_
  obtain rfl : c.instrumentId = instrument := congrArg BarSeries.instrumentId hS
  obtain rfl : c.timeframe = tf := congrArg BarSeries.timeframe hS
  obtain ⟨-, b, hb, hts⟩ := rebuilt_from_raw hraw hsplits hd
  exact hts ▸ h b (mem_rawBars.1 hb).1

theorem viewRun (hrun : Run (ViewStep observations) t₀ as t)
    (hraw : RawSeries t₀.bars instrument tf source)
    (hsplits : CompleteSplits observations instrument source version)
    (hnew : ∀ r ∈ t₀.bars, r.series = ⟨instrument, tf, true⟩ → r.isLocalSplit = false) :
    ViewRun observations instrument tf source t₀ as t := by
  induction hrun with
  | nil =>
    refine ⟨rfl, fun b _ => ?_, fun _ _ => rfl⟩
    by_cases hrows : rowsAt ⟨instrument, tf, true⟩ b.ts t₀.bars = []
    · rw [hrows]
      exact .unwritten
    · exact .kept hrows
  | @snoc t u as a _ hstep ih =>
    obtain rfl := hstep
    have hrawt := ih.rawSeries hraw
    refine ⟨rawOf_view.trans ih.raw, fun b hb => ?_, fun ts hts => ?_⟩
    · rw [baseline_snoc, baseline_congr ih.raw.symm]
      refine (ih.view b hb).step (fun r hr => ?_) hrawt hsplits (ih.raw ▸ hb)
      obtain ⟨hr, hseries, -⟩ := mem_rowsAt.1 hr
      exact hnew r hr hseries
    · rw [rowsAt_materialize_other hrawt hsplits (ih.raw ▸ hts)]
      exact ih.other ts hts

def localRows (instrument : ℤ) (tf : Timeframe) (bars : List OHLCVBar) : List OHLCVBar :=
  bars.filter fun b => decide (b.series = ⟨instrument, tf, true⟩) && b.isLocalSplit

theorem mem_localRows : r ∈ localRows instrument tf t.bars ↔
    r ∈ t.bars ∧ r.series = ⟨instrument, tf, true⟩ ∧ r.isLocalSplit = true := by
  rw [localRows, mem_filter, Bool.and_eq_true, decide_eq_true_iff]

theorem ViewRun.scaled (h : ViewRun observations instrument tf source t₀ as t)
    (hnew : ∀ r ∈ t₀.bars, r.series = ⟨instrument, tf, true⟩ → r.isLocalSplit = false)
    (hr : r ∈ localRows instrument tf t.bars) (hb : b ∈ rawOf instrument tf t₀.bars)
    (hts : b.ts = r.ts) :
    ∃ m, baseline observations instrument tf source t₀.bars b.ts as = some m ∧
      ScaledTo observations instrument source m b r := by
  obtain ⟨hr, hseries, hlocal⟩ := mem_localRows.1 hr
  have hrow : r ∈ rowsAt ⟨instrument, tf, true⟩ b.ts t.bars := mem_rowsAt.2 ⟨hr, hseries, hts.symm⟩
  have hview := h.view b hb
  generalize rowsAt ⟨instrument, tf, true⟩ b.ts t.bars = rows at hview hrow
  generalize hrows₀ : rowsAt ⟨instrument, tf, true⟩ b.ts t₀.bars = rows₀ at hview
  generalize baseline observations instrument tf source t₀.bars b.ts as = last at hview ⊢
  cases hview with
  | unwritten => cases hrow
  | @written m _ hscaled => exact ⟨m, rfl, mem_singleton.1 hrow ▸ hscaled⟩
  | kept _ =>
    obtain ⟨hr₀, hseries₀, -⟩ := mem_rowsAt.1 (hrows₀ ▸ hrow)
    exact absurd hlocal (by rw [hnew r hr₀ hseries₀]; decide)

theorem ViewRun.exists_raw (h : ViewRun observations instrument tf source t₀ as t)
    (hnew : ∀ r ∈ t₀.bars, r.series = ⟨instrument, tf, true⟩ → r.isLocalSplit = false)
    (hr : r ∈ localRows instrument tf t.bars) :
    ∃ b ∈ rawOf instrument tf t₀.bars, b.ts = r.ts := by
  by_contra hnone
  push Not at hnone
  obtain ⟨hr, hseries, hlocal⟩ := mem_localRows.1 hr
  have hrow : r ∈ rowsAt ⟨instrument, tf, true⟩ r.ts t.bars := mem_rowsAt.2 ⟨hr, hseries, rfl⟩
  rw [h.other r.ts hnone] at hrow
  obtain ⟨hr₀, hseries₀, -⟩ := mem_rowsAt.1 hrow
  exact absurd hlocal (by rw [hnew r hr₀ hseries₀]; decide)

theorem ViewRun.exists_row (h : ViewRun observations instrument tf source t₀ as t)
    (hb : b ∈ rawOf instrument tf t₀.bars)
    (hrows : rowsAt ⟨instrument, tf, true⟩ b.ts t₀.bars = []) :
    (∃ r ∈ localRows instrument tf t.bars, r.ts = b.ts) ↔
      (baseline observations instrument tf source t₀.bars b.ts as).isSome = true := by
  have hview := h.view b hb
  rw [hrows] at hview
  have hmem : (∃ r ∈ localRows instrument tf t.bars, r.ts = b.ts) ↔
      ∃ r ∈ rowsAt ⟨instrument, tf, true⟩ b.ts t.bars, r.isLocalSplit = true := by
    simp only [mem_localRows, mem_rowsAt]
    exact exists_congr fun r => by tauto
  rw [hmem]
  generalize rowsAt ⟨instrument, tf, true⟩ b.ts t.bars = rows at hview ⊢
  generalize baseline observations instrument tf source t₀.bars b.ts as = last at hview ⊢
  cases hview with
  | unwritten =>
    refine iff_of_false ?_ (by decide)
    rintro ⟨_, hr, -⟩
    cases hr
  | written hscaled => exact iff_of_true ⟨_, mem_singleton_self _, hscaled.isLocal⟩ rfl
  | kept hne => exact absurd rfl hne

/-- **When local views are consistent.**  Every local row after a run has a raw bar
    and a baseline.  Two rows of a run stand to their raw bars as the splits between
    them say exactly if the splits between their baselines multiply to one.  After
    another run from the same tables, the row of a raw bar is there exactly if it has
    a baseline in that run, and the same exactly if the splits between the two
    baselines multiply to one. -/
theorem local_views_consistent_iff (hraw : RawSeries t₀.bars instrument tf source)
    (hsplits : CompleteSplits observations instrument source version)
    (hnew : ∀ r ∈ t₀.bars, r.series = ⟨instrument, tf, true⟩ → r.isLocalSplit = false)
    (hrun : Run (ViewStep observations) t₀ as t) :
    (∀ r ∈ localRows instrument tf t.bars, ∃ b ∈ rawOf instrument tf t₀.bars, b.ts = r.ts) ∧
      (∀ r₁ ∈ localRows instrument tf t.bars, ∀ r₂ ∈ localRows instrument tf t.bars,
        ∀ b₁ ∈ rawOf instrument tf t₀.bars, ∀ b₂ ∈ rawOf instrument tf t₀.bars,
        b₁.ts = r₁.ts → b₂.ts = r₂.ts → b₁.ts ≤ b₂.ts →
        ∃ m₁ m₂ : Instant,
          baseline observations instrument tf source t₀.bars b₁.ts as = some m₁ ∧
          baseline observations instrument tf source t₀.bars b₂.ts as = some m₂ ∧
          ∀ p ∈ OHLCVBar.prices, p b₁ ≠ 0 → p b₂ ≠ 0 →
            (p r₁ / p b₁ / (p r₂ / p b₂) =
                (splitRatio observations instrument source b₁.ts b₂.ts)⁻¹ ↔
              splitRatio observations instrument source (min m₁ m₂) (max m₁ m₂) = 1)) ∧
      (∀ b ∈ rawOf instrument tf t₀.bars, rowsAt ⟨instrument, tf, true⟩ b.ts t₀.bars = [] →
        ((∃ r ∈ localRows instrument tf t.bars, r.ts = b.ts) ↔
          (baseline observations instrument tf source t₀.bars b.ts as).isSome = true)) ∧
      ∀ (as' : List ViewRequest) (t' : MarketTables), Run (ViewStep observations) t₀ as' t' →
        ∀ b ∈ rawOf instrument tf t₀.bars,
        ∀ r ∈ localRows instrument tf t.bars, ∀ r' ∈ localRows instrument tf t'.bars,
        b.ts = r.ts → b.ts = r'.ts →
        ∃ m m' : Instant,
          baseline observations instrument tf source t₀.bars b.ts as = some m ∧
          baseline observations instrument tf source t₀.bars b.ts as' = some m' ∧
          ∀ p ∈ OHLCVBar.prices, p b ≠ 0 →
            (p r = p r' ↔
              splitRatio observations instrument source (min m m') (max m m') = 1) := by
  have hview := viewRun hrun hraw hsplits hnew
  refine ⟨fun r hr => hview.exists_raw hnew hr, ?_, fun b hb hrows => hview.exists_row hb hrows, ?_⟩
  · intro r₁ hr₁ r₂ hr₂ b₁ hb₁ b₂ hb₂ hts₁ hts₂ hle
    obtain ⟨m₁, hm₁, hscaled₁⟩ := hview.scaled hnew hr₁ hb₁ hts₁
    obtain ⟨m₂, hm₂, hscaled₂⟩ := hview.scaled hnew hr₂ hb₂ hts₂
    exact ⟨m₁, m₂, hm₁, hm₂, fun p hp hp₁ hp₂ =>
      hscaled₁.consistent_iff hscaled₂ hsplits hle hp hp₁ hp₂⟩
  · intro as' t' hrun' b hb r hr r' hr' hts hts'
    obtain ⟨m, hm, hscaled⟩ := hview.scaled hnew hr hb hts
    obtain ⟨m', hm', hscaled'⟩ := (viewRun hrun' hraw hsplits hnew).scaled hnew hr' hb hts'
    exact ⟨m, m', hm, hm', fun p hp hpb => hscaled.same_iff hscaled' hsplits hp hpb⟩

end

/-! ## Two windows around a split -/

def januarySplit (day : ℕ) (ratio : ℚ) : AdjustmentFactorObservation where
  instrumentId := 1
  dataSourceId := 1
  factorType := "split"
  effectiveAt := january day
  factor := some ratio
  factorKind := some "split_ratio"
  sourceEventKey := "split-" ++ toString day
  factorVersion := some "v1"

/-- A three-for-one split on the 6th and a two-for-one split on the 8th. -/
def januarySplits : List AdjustmentFactorObservation := [januarySplit 6 3, januarySplit 8 2]

def rawBar (day : ℕ) (close : ℚ) : OHLCVBar :=
  { dailyBar day close with isAdjusted := false }

def rawWeek : MarketTables := { bars := [rawBar 5 60, rawBar 6 20, rawBar 7 20, rawBar 8 10] }

/-- A call for the days from `first` through `last`. -/
def viewOf (first last : ℕ) : ViewRequest where
  call := {
    instrumentId := 1
    start := some (january first)
    stop := some (january last)
    now := january 20 }

theorem januarySplits_complete : CompleteSplits januarySplits 1 1 "v1" := by
  refine ⟨by decide, fun o ho _ => ?_⟩
  simp only [januarySplits, mem_cons, not_mem_nil, or_false] at ho
  rcases ho with rfl | rfl
  · exact ⟨rfl, .inr rfl, ⟨3, rfl, by decide⟩, by decide, rfl⟩
  · exact ⟨rfl, .inr rfl, ⟨2, rfl, by decide⟩, by decide, rfl⟩

theorem rawWeek_series : RawSeries rawWeek.bars 1 .D1 1 := ⟨by decide +kernel, by decide +kernel⟩

/-- One window: the rows of the 6th and the 7th are consistent. -/
theorem local_views_one_window : ∃ t : MarketTables,
    Run (ViewStep januarySplits) rawWeek [viewOf 5 8] t ∧
      ∃ r₁ ∈ localRows 1 .D1 t.bars, ∃ r₂ ∈ localRows 1 .D1 t.bars,
        r₁.ts = january 6 ∧ r₂.ts = january 7 ∧
        r₁.close / 20 / (r₂.close / 20) =
          (splitRatio januarySplits 1 1 (january 6) (january 7))⁻¹ := by
  have hrun : Run (ViewStep januarySplits) rawWeek [viewOf 5 8]
      ((viewOf 5 8).materialize januarySplits rawWeek) := .snoc .nil rfl
  have hrow : ∀ day ∈ [6, 7], ∃ r ∈ localRows 1 .D1
      ((viewOf 5 8).materialize januarySplits rawWeek).bars, r.ts = january day := by
    decide +kernel
  obtain ⟨r₁, hr₁, hts₁⟩ := hrow 6 (by decide)
  obtain ⟨r₂, hr₂, hts₂⟩ := hrow 7 (by decide)
  refine ⟨_, hrun, r₁, hr₁, r₂, hr₂, hts₁, hts₂, ?_⟩
  obtain ⟨m₁, m₂, hm₁, hm₂, hiff⟩ := (local_views_consistent_iff rawWeek_series
    januarySplits_complete (by decide +kernel) hrun).2.1 r₁ hr₁ r₂ hr₂
    (rawBar 6 20) (by decide +kernel) (rawBar 7 20) (by decide +kernel)
    hts₁.symm hts₂.symm (by decide +kernel)
  have hlast : ∀ day ∈ [6, 7], baseline januarySplits 1 .D1 1 rawWeek.bars (january day)
      [viewOf 5 8] = some (january 8) := by decide +kernel
  obtain rfl := Option.some.inj (hm₁.symm.trans (hlast 6 (by decide)))
  obtain rfl := Option.some.inj (hm₂.symm.trans (hlast 7 (by decide)))
  exact (hiff (·.close) (by simp [OHLCVBar.prices]) (by decide) (by decide)).2 (by decide +kernel)

/-- **Two windows**: after the windows through the 6th and from the 7th the row of
    the 6th has the price 20 and that of the 7th the price 10, with no split between
    them; in one window both have the price 10. -/
theorem two_windows_jump :
    let two := (viewOf 7 8).materialize januarySplits ((viewOf 5 6).materialize januarySplits rawWeek)
    let one := (viewOf 5 8).materialize januarySplits rawWeek
    Run (ViewStep januarySplits) rawWeek [viewOf 5 6, viewOf 7 8] two ∧
      Run (ViewStep januarySplits) rawWeek [viewOf 5 8] one ∧
      (localRows 1 .D1 two.bars).map (fun r => (r.ts, r.close)) =
        [(january 5, 20), (january 6, 20), (january 7, 10), (january 8, 10)] ∧
      (localRows 1 .D1 one.bars).map (fun r => (r.ts, r.close)) =
        [(january 5, 10), (january 6, 10), (january 7, 10), (january 8, 10)] ∧
      (20 / 20 / (10 / 20) : ℚ) ≠ (splitRatio januarySplits 1 1 (january 6) (january 7))⁻¹ :=
  ⟨.snoc (.snoc .nil rfl) rfl, .snoc .nil rfl, by decide +kernel, by decide +kernel,
    by decide +kernel⟩

end ChartingPlatform
