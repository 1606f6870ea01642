/-
  Runs of derivations, ingestion and local views.
-/
import ChartingPlatform.Bars.Consistency
import ChartingPlatform.Bars.Freshness

namespace ChartingPlatform

open Lib List

section
variable {i source : ℤ} {adj : Bool} {tf : CoarseTimeframe} {t t' t₀ : MarketTables}
  {c : DeriveCall} {b r d : OHLCVBar} {bars : List OHLCVBar} {bound : Option Instant}
  {states : List DatasetState} {v v' : CoarseView}

/-! ## Ingestion -/

/-- The fetch moves the state of the source on. -/
def IngestCall.Bumps (e : IngestCall) (t : MarketTables) : Prop :=
  ∀ s ∈ t.states, s.key = e.stateKey → ∀ f, s.fetchedAt = some f → f < e.fetchedAt

variable {e : IngestCall}

variable {q : OHLCVBar → Bool}

theorem filter_insertBar (hb : b ∈ e.bars)
    (hq : ∀ r, r.series = d1Series e.instrumentId e.adjusted → q r = false) :
    (e.insertBar bars b).filter q = bars.filter q := by
  have hseries := e.series b hb
  rw [IngestCall.insertBar]
  split_ifs
  · refine filter_updateRow fun r hr => ?_
    have hr' : r.series = d1Series e.instrumentId e.adjusted := (Prod.mk.inj hr).1.trans hseries
    exact ⟨hq r hr', hq _ hr'⟩
  · rfl
  · rw [filter_append, filter_cons_of_neg (by rw [hq b.asDict hseries]; decide), filter_nil,
      append_nil]

theorem filter_insertBars {new : List OHLCVBar} (hnew : ∀ b ∈ new, b ∈ e.bars)
    (hq : ∀ r, r.series = d1Series e.instrumentId e.adjusted → q r = false) :
    (new.foldl e.insertBar bars).filter q = bars.filter q := by
  induction new generalizing bars with
  | nil => rfl
  | cons b new ih =>
    rw [foldl_cons, ih fun b hb => hnew b (mem_cons_of_mem _ hb),
      filter_insertBar (hnew b mem_cons_self) hq]

def d1Rows (i : ℤ) (adj : Bool) (bars : List OHLCVBar) : List OHLCVBar :=
  bars.filter fun b => decide (b.series = d1Series i adj)

theorem mem_d1Rows : r ∈ d1Rows i adj bars ↔ r ∈ bars ∧ r.series = d1Series i adj := by
  rw [d1Rows, mem_filter, decide_eq_true_iff]

theorem d1Rows_insertBar (bars : List OHLCVBar) (hb : b ∈ e.bars) :
    (d1Rows e.instrumentId e.adjusted bars).length ≤
        (d1Rows e.instrumentId e.adjusted (e.insertBar bars b)).length ∧
      (∃ r, r ∈ d1Rows e.instrumentId e.adjusted (e.insertBar bars b)) ∧
      (e.insertBar bars b = bars ∨
        ∃ r ∈ d1Rows e.instrumentId e.adjusted (e.insertBar bars b),
          r.dataSourceId = some e.dataSourceId) ∧
      ((∃ r ∈ d1Rows e.instrumentId e.adjusted bars, r.dataSourceId = some e.dataSourceId) →
        ∃ r ∈ d1Rows e.instrumentId e.adjusted (e.insertBar bars b),
          r.dataSourceId = some e.dataSourceId) := by
  have hseries := e.series b hb
  have hsource := e.source b hb
  rw [IngestCall.insertBar]
  split_ifs with htaken hupsert
  · obtain ⟨old, hold, hkey⟩ := mem_map.1 htaken
    have hrows : d1Rows e.instrumentId e.adjusted
        (updateRow OHLCVBar.uniqueKey b.uniqueKey b.excluded bars) =
        updateRow OHLCVBar.uniqueKey b.uniqueKey b.excluded
          (d1Rows e.instrumentId e.adjusted bars) := by
      rw [d1Rows, d1Rows, updateRow, updateRow, filter_map]
      refine congrArg _ (filter_congr fun r _ => ?_)
      rw [Function.comp_apply]
      split_ifs
      · rfl
      · rfl
    have hold' : old ∈ d1Rows e.instrumentId e.adjusted bars :=
      mem_d1Rows.2 ⟨hold, (Prod.mk.inj hkey).1.trans hseries⟩
    have hnew : b.excluded old ∈ updateRow OHLCVBar.uniqueKey b.uniqueKey b.excluded
        (d1Rows e.instrumentId e.adjusted bars) := mem_updateRow.2 ⟨old, hold', .inl ⟨hkey, rfl⟩⟩
    rw [hrows]
    refine ⟨?_, ⟨_, hnew⟩, .inr ⟨_, hnew, hsource⟩, fun _ => ⟨_, hnew, hsource⟩⟩
    rw [updateRow, length_map]
  · obtain ⟨old, hold, hkey⟩ := mem_map.1 htaken
    exact ⟨le_rfl, ⟨old, mem_d1Rows.2 ⟨hold, (Prod.mk.inj hkey).1.trans hseries⟩⟩, .inl rfl, id⟩
  · have hnew : b.asDict ∈ d1Rows e.instrumentId e.adjusted (bars ++ [b.asDict]) :=
      mem_d1Rows.2 ⟨mem_append_right _ (mem_singleton_self _), hseries⟩
    refine ⟨?_, ⟨_, hnew⟩, .inr ⟨_, hnew, hsource⟩, fun _ => ⟨_, hnew, hsource⟩⟩
    rw [d1Rows, d1Rows, filter_append, length_append]
    exact Nat.le_add_right _ _

/-- **What ingestion does to the daily rows**: none is lost, and if one is written
    there is one of the source. -/
theorem d1Rows_insertBars (bars : List OHLCVBar) {new : List OHLCVBar} (hnew : ∀ b ∈ new, b ∈ e.bars) :
    (d1Rows e.instrumentId e.adjusted bars).length ≤
        (d1Rows e.instrumentId e.adjusted (new.foldl e.insertBar bars)).length ∧
      (new.foldl e.insertBar bars = bars ∨
        ∃ r ∈ d1Rows e.instrumentId e.adjusted (new.foldl e.insertBar bars),
          r.dataSourceId = some e.dataSourceId) ∧
      ((∃ r ∈ d1Rows e.instrumentId e.adjusted bars, r.dataSourceId = some e.dataSourceId) →
        ∃ r ∈ d1Rows e.instrumentId e.adjusted (new.foldl e.insertBar bars),
          r.dataSourceId = some e.dataSourceId) := by
  induction new generalizing bars with
  | nil => exact ⟨le_rfl, .inl rfl, id⟩
  | cons b new ih =>
    obtain ⟨hlen, -, hsource, hkeeps⟩ := d1Rows_insertBar bars (hnew b mem_cons_self)
    obtain ⟨hlen', hsource', hkeeps'⟩ :=
      ih (e.insertBar bars b) fun b hb => hnew b (mem_cons_of_mem _ hb)
    rw [foldl_cons]
    refine ⟨hlen.trans hlen', ?_, fun h => hkeeps' (hkeeps h)⟩
    rcases hsource with hsame | hsource
    · rw [hsame] at hsource' ⊢
      exact hsource'
    · exact .inr (hkeeps' hsource)

theorem d1Rows_ingest_ne_nil (hne : e.bars ≠ []) :
    d1Rows e.instrumentId e.adjusted (e.bars.foldl e.insertBar bars) ≠ [] := by
  obtain ⟨b, new, hbars⟩ := exists_cons_of_ne_nil hne
  obtain ⟨-, ⟨r, hr⟩, -⟩ :=
    d1Rows_insertBar (e := e) (b := b) bars (hbars ▸ mem_cons_self)
  have hlen := (d1Rows_insertBars (e := e) (e.insertBar bars b)
    fun b (hb : b ∈ new) => hbars ▸ mem_cons_of_mem _ hb).1
  rw [hbars, foldl_cons, ← length_pos_iff]
  exact (length_pos_of_mem hr).trans_le hlen

/-- The states of derived timeframes are those of no source. -/
theorem storedSignature_touched {state : Option DatasetState} :
    storedSignature i adj tf (upsert DatasetState.key (e.touched state) states) =
      storedSignature i adj tf states := by
  have hne : (e.touched state).key ≠ derivedKey i adj tf := fun heq =>
    nomatch (show some e.dataSourceId = none from congrArg DatasetKey.dataSourceId heq)
  rw [storedSignature, rowWith_upsert, if_neg hne]
  rfl

theorem coarse_ingest_ne (h : e.adjusted ≠ adj ∨ e.bars = []) :
    (e.persistPriceHistoryBars t).coarse e.instrumentId adj tf = t.coarse e.instrumentId adj tf := by
  rw [IngestCall.persistPriceHistoryBars]
  by_cases hnil : e.bars = []
  · rw [if_pos hnil]
  have hne := h.resolve_right hnil
  have hd1 : ∀ r : OHLCVBar, r.series = d1Series e.instrumentId e.adjusted →
      r.series ≠ d1Series e.instrumentId adj := fun r hr heq =>
    hne (BarSeries.mk.inj (hr.symm.trans heq)).2.2
  have htf : ∀ r : OHLCVBar, r.series = d1Series e.instrumentId e.adjusted →
      r.series ≠ ⟨e.instrumentId, tf.timeframe, adj⟩ := fun r hr heq =>
    tf.timeframe_ne_D1 (BarSeries.mk.inj (hr.symm.trans heq)).2.1.symm
  rw [if_neg hnil]
  simp only [MarketTables.coarse, CoarseView.mk.injEq]
  refine ⟨filter_insertBars (fun _ => id) fun r hr => decide_eq_false (hd1 r hr), ?_, ?_,
    filter_insertBars (fun _ => id) fun r hr => ?_, filter_insertBars (fun _ => id) fun r hr => ?_⟩
  · refine filter_upsert fun s hs => ?_
    have hkey : s.key.datasetKey ≠ "D1:" ++ adjustmentText adj := by
      rw [hs]
      change "D1:" ++ adjustmentText e.adjusted ≠ "D1:" ++ adjustmentText adj
      revert hne
      cases e.adjusted <;> cases adj <;> decide
    rw [decide_eq_false hkey, Bool.and_false]
  · exact storedSignature_touched
  · rw [decide_eq_false (htf r hr), Bool.false_and]
  · rw [decide_eq_false (htf r hr), Bool.false_and]

theorem coarse_ingest (hne : e.bars ≠ []) (v : CoarseView)
    (hv : t.coarse e.instrumentId e.adjusted tf = v) :
    (e.persistPriceHistoryBars t).coarse e.instrumentId e.adjusted tf =
      { v with
        d1 := d1Rows e.instrumentId e.adjusted (e.bars.foldl e.insertBar t.bars)
        d1States := d1SourceStates e.instrumentId e.adjusted (upsert DatasetState.key
          (e.touched (rowWith DatasetState.key e.stateKey t.states)) t.states) } := by
  have htf : ∀ r : OHLCVBar, r.series = d1Series e.instrumentId e.adjusted →
      r.series ≠ ⟨e.instrumentId, tf.timeframe, e.adjusted⟩ := fun r hr heq =>
    tf.timeframe_ne_D1 (BarSeries.mk.inj (hr.symm.trans heq)).2.1.symm
  rw [IngestCall.persistPriceHistoryBars, if_neg hne, ← hv]
  simp only [MarketTables.coarse, CoarseView.mk.injEq]
  refine ⟨rfl, trivial, storedSignature_touched, filter_insertBars (fun _ => id) fun r hr => ?_,
    filter_insertBars (fun _ => id) fun r hr => ?_⟩
  · rw [decide_eq_false (htf r hr), Bool.false_and]
  · rw [decide_eq_false (htf r hr), Bool.false_and]

theorem mem_d1States {s : DatasetState} : s ∈ d1SourceStates i adj states ↔
    s ∈ states ∧ s.key.instrumentId = i ∧ s.key.datasetKey = "D1:" ++ adjustmentText adj := by
  rw [d1SourceStates, mem_filter, Bool.and_eq_true, decide_eq_true_iff, decide_eq_true_iff]

theorem mem_sortedIds {ids : List (Option ℤ)} {x : ℤ} : x ∈ sortedIds ids ↔ some x ∈ ids := by
  rw [sortedIds, mem_sortBy, mem_dedup, mem_filterMap]
  exact ⟨fun ⟨y, hy, hyx⟩ => by rw [← show y = some x from hyx]; exact hy, fun h => ⟨some x, h, rfl⟩⟩

/-- The watermark of a source that has daily rows. -/
theorem watermark_mem {state : DatasetState} (hstate : state ∈ v.d1States)
    (hid : state.key.dataSourceId = some source) (hr : r ∈ v.d1)
    (hsource : r.dataSourceId = some source) :
    state.watermark ∈ (v.signature adj).sourceWatermarks := by
  have hmem : source ∈ sortedIds (v.d1.map (·.dataSourceId)) :=
    mem_sortedIds.2 (hsource ▸ mem_map_of_mem (f := (·.dataSourceId)) hr)
  refine (mem_sortBy _).2 (mem_map_of_mem (mem_filter.2 ⟨hstate, ?_⟩))
  rw [if_neg (ne_nil_of_mem hmem), hid, Option.any_some]
  exact decide_eq_true hmem

/-- **Ingestion that bumps the state of its source keeps a view fresh.** -/
theorem CoarseView.Fresh.ingest (h : (t.coarse e.instrumentId adj tf).Fresh e.instrumentId adj tf)
    (hbumps : e.Bumps t) :
    ((e.persistPriceHistoryBars t).coarse e.instrumentId adj tf).Fresh e.instrumentId adj tf := by
  by_cases hother : e.adjusted ≠ adj ∨ e.bars = []
  · rw [coarse_ingest_ne hother]
    exact h
  rw [not_or, not_not] at hother
  obtain ⟨rfl, hne⟩ := hother
  generalize hv : t.coarse e.instrumentId e.adjusted tf = v at h
  rw [coarse_ingest hne v hv]
  set touched := e.touched (rowWith DatasetState.key e.stateKey t.states) with htouched
  have htouchedMem : touched ∈ d1SourceStates e.instrumentId e.adjusted
      (upsert DatasetState.key touched t.states) :=
    mem_d1States.2 ⟨mem_upsert.2 (.inl rfl), rfl, rfl⟩
  have hbefore : ∀ state ∈ v.d1States, state.key.dataSourceId = some e.dataSourceId →
      ∀ f, state.fetchedAt = some f → f < e.fetchedAt := by
    intro state hstate hid
    rw [← hv] at hstate
    obtain ⟨hstate, hi, hkey⟩ := mem_d1States.1 hstate
    refine hbumps state hstate ?_
    rw [IngestCall.stateKey, ← hi, ← hid, ← hkey]
  have hafter : ∀ state ∈ v.d1States, state.key.dataSourceId ≠ some e.dataSourceId →
      state ∈ d1SourceStates e.instrumentId e.adjusted (upsert DatasetState.key touched t.states) := by
    intro state hstate hid
    rw [← hv] at hstate
    obtain ⟨hstate, hi, hkey⟩ := mem_d1States.1 hstate
    refine mem_d1States.2 ⟨mem_upsert.2 (.inr ⟨hstate, fun heq => hid ?_⟩), hi, hkey⟩
    rw [heq]
    rfl
  have hlen : v.d1.length ≤
      (d1Rows e.instrumentId e.adjusted (e.bars.foldl e.insertBar t.bars)).length := by
    rw [← hv]
    exact (d1Rows_insertBars _ fun _ => id).1
  intro s hs
  obtain ⟨hpast, hfresh⟩ := h s hs
  refine ⟨⟨hpast.barCount.trans hlen, fun hnil => absurd hnil (d1Rows_ingest_ne_nil hne), ?_⟩, ?_⟩
  · -- The watermark of the source moves on, the others stay.
    intro w hw id hid
    obtain ⟨state, hstate, hstateId, hle⟩ := hpast.watermarks w hw id hid
    by_cases hsource : id = e.dataSourceId
    · subst hsource
      refine ⟨touched, htouchedMem, rfl, fun f hf => ⟨e.fetchedAt, rfl, ?_⟩⟩
      obtain ⟨g, hg, hfg⟩ := hle f hf
      exact hfg.trans (hbefore state hstate hstateId g hg).le
    · refine ⟨state, hafter state hstate ?_, hstateId, hle⟩
      rw [hstateId]
      exact fun heq => hsource (Option.some.inj heq)
  · intro hcurrent
    by_cases hsource : ∃ r ∈ d1Rows e.instrumentId e.adjusted (e.bars.foldl e.insertBar t.bars),
        r.dataSourceId = some e.dataSourceId
    · -- The stored signature would know the new watermark already.
      obtain ⟨r, hr, hid⟩ := hsource
      have hmem : touched.watermark ∈ s.sourceWatermarks := by
        rw [hcurrent]
        exact watermark_mem htouchedMem rfl hr hid
      obtain ⟨state, hstate, hstateId, hle⟩ := hpast.watermarks _ hmem e.dataSourceId rfl
      obtain ⟨g, hg, hle⟩ := hle e.fetchedAt rfl
      exact absurd hle (not_le.2 (hbefore state hstate hstateId g hg))
    · -- Nothing was written, and the source has no rows.
      have hsame : e.bars.foldl e.insertBar t.bars = t.bars :=
        (d1Rows_insertBars (e := e) _ fun _ => id).2.1.resolve_right hsource
      have hd1 : d1Rows e.instrumentId e.adjusted (e.bars.foldl e.insertBar t.bars) = v.d1 := by
        rw [hsame, ← hv]
        rfl
      rw [hd1] at hcurrent hsource ⊢
      refine hfresh (hcurrent.trans ?_)
      have hid : e.dataSourceId ∉ sortedIds (v.d1.map (·.dataSourceId)) := fun hmem => by
        obtain ⟨r, hr, hid⟩ := mem_map.1 (mem_sortedIds.1 hmem)
        exact hsource ⟨r, hr, hid⟩
      rw [CoarseView.signature, CoarseView.signature]
      dsimp only
      congr 3
      rw [← hv, MarketTables.coarse, d1SourceStates, d1SourceStates, filter_filter,
        filter_filter]
      refine filter_upsert fun state hstate => ?_
      rw [show state.key = e.stateKey from hstate, Bool.and_eq_false_iff]
      refine .inl ?_
      rw [← hv] at hid
      split_ifs
      · rfl
      · exact decide_eq_false hid

/-! ## Local views -/

variable {a : ViewRequest} {observations : List AdjustmentFactorObservation} {k : ViewContract}
  {w : ViewCall} {ds : List RebuiltBar} {x : RebuiltBar} {progress : ViewProgress}

theorem coarse_timeframe : tf.timeframe.coarse = some tf := by
  cases tf
  · rfl
  · rfl

def ViewRequest.Adds (a : ViewRequest) (observations : List AdjustmentFactorObservation)
    (t : MarketTables) : Prop :=
  ∃ d ∈ a.kind.contract.rebuilt observations a.call t, a.call.priorAt t.bars d.ts = none

def ViewRequest.Overwrites (a : ViewRequest) (observations : List AdjustmentFactorObservation)
    (t : MarketTables) (d : RebuiltBar) (r : OHLCVBar) : Prop :=
  d ∈ a.kind.contract.rebuilt observations a.call t ∧ r ∈ t.bars ∧
    ∃ prior, a.call.priorAt t.bars d.ts = some prior ∧ a.kind.contract.keeps prior = false ∧
      r.uniqueKey = prior.uniqueKey

structure OHLCVBar.Shows (r : OHLCVBar) (d : RebuiltBar) : Prop where
  open_ : r.open_ = d.open_
  high : r.high = d.high
  low : r.low = d.low
  close : r.close = d.close
  volume : r.volume = d.volume
  vwap : r.vwap = d.vwap

def StoresCurrent (i : ℤ) (adj : Bool) (tf : CoarseTimeframe) (t : MarketTables) : Prop :=
  storedSignature i adj tf t.states = some (canonicalD1Signature t i adj)

/-- A view of the daily rows adds one, or overwrites rows of no source with the
    values that they have, unless no stored signature is current.  A view of a
    derived timeframe writes nothing while its stored signature is current. -/
def ViewRequest.Quiet (a : ViewRequest) (observations : List AdjustmentFactorObservation)
    (t : MarketTables) : Prop :=
  match a.call.timeframe.coarse with
  | some tf => StoresCurrent a.call.instrumentId true tf t →
      ¬ a.Adds observations t ∧ ∀ d r, ¬ a.Overwrites observations t d r
  | none => a.call.timeframe = .D1 → a.Adds observations t ∨
      ∀ d r, a.Overwrites observations t d r → r.dataSourceId = none ∧
        (r.Shows d ∨ ∀ tf, ¬ StoresCurrent a.call.instrumentId true tf t)

theorem map_persistBars {γ : Type} {g : OHLCVBar → γ} {existing : List OHLCVBar}
    (hkey : ∀ x y, g x = g y → x.uniqueKey = y.uniqueKey)
    (hadds : ∀ d ∈ ds, w.priorAt existing d.ts ≠ none)
    (hover : ∀ d ∈ ds, ∀ prior, w.priorAt existing d.ts = some prior → k.keeps prior = false →
      ∀ r ∈ existing, r.uniqueKey = prior.uniqueKey → ∀ y, g y = g r → g (w.overwrite d y) = g y)
    (h : progress.bars.map g = existing.map g) :
    (ds.foldl (k.persistBar w existing) progress).bars.map g = existing.map g := by
  induction ds generalizing progress with
  | nil => exact h
  | cons d ds ih =>
    rw [foldl_cons]
    refine ih (fun d hd => hadds d (mem_cons_of_mem _ hd))
      (fun d hd => hover d (mem_cons_of_mem _ hd)) ?_
    rw [ViewContract.persistBar]
    cases hprior : w.priorAt existing d.ts with
    | none => exact absurd hprior (hadds d mem_cons_self)
    | some prior =>
      dsimp only
      split_ifs with hkeeps
      · exact h
      · rw [← h, updateRow, map_map]
        refine map_congr_left fun y hy => ?_
        rw [Function.comp_apply]
        split_ifs with hyk
        · obtain ⟨r, hr, hry⟩ := mem_map.1 (h ▸ mem_map_of_mem (f := g) hy)
          exact hover d mem_cons_self prior hprior (Bool.not_eq_true _ ▸ hkeeps) r hr
            ((hkey r y hry).trans hyk) y hry.symm
        · rfl

theorem length_persistBar (k : ViewContract) (w : ViewCall) (existing : List OHLCVBar)
    (progress : ViewProgress) (x : RebuiltBar) :
    (progress.bars.filter fun b => decide (b.series = w.series true)).length ≤
        ((k.persistBar w existing progress x).bars.filter
          fun b => decide (b.series = w.series true)).length ∧
      (w.priorAt existing x.ts = none →
        (progress.bars.filter fun b => decide (b.series = w.series true)).length <
          ((k.persistBar w existing progress x).bars.filter
            fun b => decide (b.series = w.series true)).length) := by
  rw [ViewContract.persistBar]
  cases hprior : w.priorAt existing x.ts with
  | none =>
    dsimp only
    rw [filter_append, length_append,
      filter_cons_of_pos (by exact decide_eq_true rfl), filter_nil, length_singleton]
    exact ⟨Nat.le_succ _, fun _ => Nat.lt_succ_self _⟩
  | some prior =>
    dsimp only
    refine ⟨?_, fun h => absurd h (Option.some_ne_none _)⟩
    split_ifs
    · exact le_rfl
    · rw [updateRow, filter_map, length_map]
      refine le_of_eq (congrArg _ (filter_congr fun b _ => ?_))
      rw [Function.comp_apply]
      split_ifs with hb
      · have hseries : b.series = w.series true :=
          (Prod.mk.inj hb).1.trans (series_of_priorAt hprior).2.1
        rw [decide_eq_true hseries]
        exact (decide_eq_true rfl).symm
      · rfl

theorem length_persistBars (existing : List OHLCVBar) (progress : ViewProgress) :
    (progress.bars.filter fun b => decide (b.series = w.series true)).length ≤
        ((ds.foldl (k.persistBar w existing) progress).bars.filter
          fun b => decide (b.series = w.series true)).length ∧
      ((∃ d ∈ ds, w.priorAt existing d.ts = none) →
        (progress.bars.filter fun b => decide (b.series = w.series true)).length <
          ((ds.foldl (k.persistBar w existing) progress).bars.filter
            fun b => decide (b.series = w.series true)).length) := by
  induction ds generalizing progress with
  | nil => exact ⟨le_rfl, fun ⟨_, hd, _⟩ => absurd hd not_mem_nil⟩
  | cons d ds ih =>
    obtain ⟨hle, hlt⟩ := length_persistBar k w existing progress d
    obtain ⟨hle', hlt'⟩ := ih (k.persistBar w existing progress d)
    rw [foldl_cons]
    refine ⟨hle.trans hle', ?_⟩
    rintro ⟨d', hd', hnone⟩
    rcases mem_cons.1 hd' with rfl | hd'
    · exact (hlt hnone).trans_le hle'
    · exact hle.trans_lt (hlt' ⟨d', hd', hnone⟩)

theorem states_materialize (a : ViewRequest) (observations : List AdjustmentFactorObservation)
    (t : MarketTables) : (a.materialize observations t).states = t.states ∨
    ∃ state : DatasetState, (a.materialize observations t).states =
        upsert DatasetState.key state t.states ∧
      state.key = ⟨a.call.instrumentId, none,
        a.call.timeframe.text ++ ":adj:" ++ a.kind.contract.datasetKeySuffix⟩ := by
  rw [ViewRequest.materialize, ViewContract.materialize]
  dsimp only
  split_ifs with hraw
  · exact .inl rfl
  · generalize ((a.call.rawBars t.bars).map (·.dataSourceId)).dedup = sources
    rcases sources with _ | ⟨_ | source, _ | ⟨second, rest⟩⟩
    · exact .inl rfl
    · exact .inl rfl
    · exact .inl rfl
    · dsimp only
      split_ifs
      · exact .inl rfl
      · exact .inl rfl
      · exact .inr ⟨_, rfl, rfl⟩
    · exact .inl rfl

theorem coarse_states_materialize (a : ViewRequest)
    (observations : List AdjustmentFactorObservation) (t : MarketTables) (i : ℤ) (adj : Bool)
    (tf : CoarseTimeframe) : d1SourceStates i adj (a.materialize observations t).states =
      d1SourceStates i adj t.states ∧
    storedSignature i adj tf (a.materialize observations t).states =
      storedSignature i adj tf t.states := by
  have hd1 : a.call.timeframe.text ++ ":adj:" ++ a.kind.contract.datasetKeySuffix ≠
      "D1:" ++ adjustmentText adj := by
    cases a.call.timeframe <;> cases a.kind <;> cases adj <;> decide
  have htf : a.call.timeframe.text ++ ":adj:" ++ a.kind.contract.datasetKeySuffix ≠
      tf.timeframe.text ++ ":" ++ adjustmentText adj := by
    cases a.call.timeframe <;> cases a.kind <;> cases adj <;> cases tf <;> decide
  rcases states_materialize a observations t with
    hsame | ⟨state, hstates, hkey⟩
  · rw [hsame]
    exact ⟨rfl, rfl⟩
  · rw [hstates]
    constructor
    · refine filter_upsert fun s hs => ?_
      rw [hs, hkey, Bool.and_eq_false_iff]
      exact .inr (decide_eq_false hd1)
    · have hne : state.key ≠ derivedKey i adj tf := fun heq => by
        rw [hkey] at heq
        exact htf (DatasetKey.mk.inj heq).2.2
      rw [storedSignature, rowWith_upsert, if_neg hne]
      rfl

theorem filter_view (hq : ∀ b, b.series = a.call.series true → q b = false) :
    (a.materialize observations t).bars.filter q = t.bars.filter q := filter_materialize hq

theorem map_eq_of_map_eq {α β γ : Type} {f : α → β} {g : α → γ} {l l' : List α}
    (hf : ∀ x y, g x = g y → f x = f y) (h : l.map g = l'.map g) : l.map f = l'.map f := by
  induction l generalizing l' with
  | nil => rw [map_eq_nil_iff.1 h.symm]
  | cons x l ih =>
    cases l' with
    | nil => cases h
    | cons y l' =>
      obtain ⟨hxy, hrest⟩ := List.cons.inj h
      rw [map_cons, map_cons, hf x y hxy, ih hrest]

theorem signature_congr {γ : Type} {g : OHLCVBar → γ}
    (hg : ∀ x y, g x = g y → x.ts = y.ts ∧ x.dataSourceId = y.dataSourceId ∧
      x.marketSeriesId = y.marketSeriesId)
    (hd1 : v'.d1.map g = v.d1.map g) (hstates : v'.d1States = v.d1States) :
    v'.signature adj = v.signature adj := by
  have hlength : v'.d1.length = v.d1.length := by simpa using congrArg List.length hd1
  rw [CoarseView.signature, CoarseView.signature, coverage, coverage, hstates, hlength,
    map_eq_of_map_eq (f := (·.dataSourceId)) (fun x y h => (hg x y h).2.1) hd1,
    map_eq_of_map_eq (f := (·.marketSeriesId)) (fun x y h => (hg x y h).2.2) hd1,
    map_eq_of_map_eq (f := (·.ts)) (fun x y h => (hg x y h).1) hd1]

theorem aggregate_asDict {l : List OHLCVBar} :
    aggregateD1Bars (l.map OHLCVBar.asDict) tf = aggregateD1Bars l tf := by
  have hmembers : ∀ b : OHLCVBar, periodMembers tf b.asDict (l.map OHLCVBar.asDict) =
      (periodMembers tf b l).map OHLCVBar.asDict := by
    intro b
    rw [periodMembers, periodMembers, filter_map]
    rfl
  have hpayload : ∀ (b : OHLCVBar) (members : List OHLCVBar),
      periodPayload tf b.asDict (members.map OHLCVBar.asDict) = periodPayload tf b members := by
    intro b members
    have hsort : sortBy OHLCVBar.ts (members.map OHLCVBar.asDict) =
        (sortBy OHLCVBar.ts members).map OHLCVBar.asDict :=
      (map_sortBy OHLCVBar.asDict OHLCVBar.ts members).symm
    rw [periodPayload, periodPayload, hsort]
    generalize sortBy OHLCVBar.ts members = ordered
    have hgetD : ∀ o : Option OHLCVBar, (o.map OHLCVBar.asDict).getD b.asDict =
        (o.getD b).asDict := by
      rintro (_ | _) <;> rfl
    simp only [head?_map, getLast?_map, hgetD, map_map, filterMap_map,
      length_map]
    rfl
  have hfirsts : firsts (fun b : OHLCVBar => periodKey tf b.ts) (l.map OHLCVBar.asDict) =
      (firsts (fun b : OHLCVBar => periodKey tf b.ts) l).map OHLCVBar.asDict := firsts_map fun _ => rfl
  rw [aggregateD1Bars, aggregateD1Bars, hfirsts, map_map]
  refine congrArg _ (map_congr_left fun b _ => ?_)
  rw [Function.comp_apply, hmembers, hpayload]

theorem payloads_asDict : v.payloads tf bound =
    { v with d1 := v.d1.map OHLCVBar.asDict }.payloads tf bound := by
  rw [CoarseView.payloads, CoarseView.payloads]
  dsimp only
  have hfilter : (v.d1.map OHLCVBar.asDict).filter (fun b => withinBound bound b.ts) =
      (v.d1.filter fun b => withinBound bound b.ts).map OHLCVBar.asDict := by
    rw [filter_map]
    rfl
  have hsort : sortBy OHLCVBar.ts ((v.d1.filter fun b => withinBound bound b.ts).map
      OHLCVBar.asDict) =
      (sortBy OHLCVBar.ts (v.d1.filter fun b => withinBound bound b.ts)).map OHLCVBar.asDict :=
    (map_sortBy OHLCVBar.asDict OHLCVBar.ts _).symm
  rw [hfilter, hsort, aggregate_asDict]

theorem map_materialize {γ : Type} {g : OHLCVBar → γ}
    (hkey : ∀ x y, g x = g y → x.uniqueKey = y.uniqueKey) (hadds : ¬ a.Adds observations t)
    (hover : ∀ d r, a.Overwrites observations t d r → ∀ y, y.series = a.call.series true →
      y.ts = d.ts → g y = g r → g (a.call.overwrite d y) = g y) :
    (a.materialize observations t).bars.map g = t.bars.map g := by
  rw [ViewRequest.materialize, bars_materialize_view]
  refine map_persistBars hkey (fun d hd hnone => hadds ⟨d, hd, hnone⟩) ?_ rfl
  intro d hd prior hprior hkeeps r hr hrk y hy
  obtain ⟨-, hseries, hts⟩ := series_of_priorAt hprior
  have hyk : y.uniqueKey = prior.uniqueKey := (hkey y r hy).trans hrk
  exact hover d r ⟨hd, hr, prior, hprior, hkeeps, hrk⟩ y ((Prod.mk.inj hyk).1.trans hseries)
    ((Prod.mk.inj (Prod.mk.inj hyk).2).1.trans hts) hy

theorem shows_asDict {y : OHLCVBar} (hseries : y.series = a.call.series true) (hts : y.ts = x.ts)
    (hsource : y.dataSourceId = none) (hshows : y.Shows x) :
    (a.call.overwrite x y).asDict = y.asDict := by
  obtain ⟨hi, htf, hadj⟩ := BarSeries.mk.inj hseries
  obtain ⟨hopen, hhigh, hlow, hclose, hvolume, hvwap⟩ := hshows
  cases y
  simp only at hi htf hadj hts hsource hopen hhigh hlow hclose hvolume hvwap
  subst hi htf hadj hts hsource hopen hhigh hlow hclose hvolume hvwap
  rfl

theorem CoarseView.Fresh.materialize_d1 (hS : d1Series i adj = a.call.series true)
    (h : v.Fresh i adj tf) (hv : t.coarse i adj tf = v)
    (hquiet : a.Adds observations t ∨ ∀ d r, a.Overwrites observations t d r →
      r.dataSourceId = none ∧ (r.Shows d ∨ ¬ StoresCurrent i adj tf t))
    (hv' : (a.materialize observations t).coarse i adj tf =
      { v with d1 := d1Rows i adj (a.materialize observations t).bars }) :
    ((a.materialize observations t).coarse i adj tf).Fresh i adj tf := by
  rw [hv']
  have hd1 : v.d1 = d1Rows i adj t.bars := by
    rw [← hv]
    rfl
  intro s hs
  obtain ⟨hpast, hfresh⟩ := h s hs
  by_cases hadds : a.Adds observations t
  · -- There are more daily rows than any stored signature counts.
    have hlt : v.d1.length < (d1Rows i adj (a.materialize observations t).bars).length := by
      rw [hd1, d1Rows, d1Rows, hS, ViewRequest.materialize, bars_materialize_view]
      exact (length_persistBars t.bars { bars := t.bars }).2 hadds
    refine ⟨⟨hpast.barCount.trans hlt.le, fun hnil => ?_, hpast.watermarks⟩, fun hcurrent => ?_⟩
    · rw [show d1Rows i adj (a.materialize observations t).bars = [] from hnil] at hlt
      exact absurd hlt (Nat.not_lt_zero _)
    · have hcount : s.barCount = (d1Rows i adj (a.materialize observations t).bars).length := by
        rw [hcurrent]
        rfl
      exact absurd hpast.barCount (by rw [hcount]; exact not_le.2 hlt)
  · have hquiet := hquiet.resolve_left hadds
    have hrows : ∀ {γ : Type} {g : OHLCVBar → γ} (series : γ → BarSeries),
        (∀ y, series (g y) = y.series) →
        (a.materialize observations t).bars.map g = t.bars.map g →
        (d1Rows i adj (a.materialize observations t).bars).map g = v.d1.map g := by
      intro γ g series hg hbars
      have hfilter : ∀ l : List OHLCVBar, (d1Rows i adj l).map g =
          (l.map g).filter fun y => decide (series y = d1Series i adj) := by
        intro l
        rw [filter_map]
        refine congrArg _ (filter_congr fun y _ => ?_)
        rw [Function.comp_apply, hg]
      rw [hd1, hfilter, hfilter, hbars]
    -- Nothing that the signature reads was changed.
    have hread := hrows (g := fun y => (y.uniqueKey, y.dataSourceId, y.marketSeriesId)) (·.1.1)
      (fun _ => rfl) <| map_materialize (fun x y hxy => (Prod.mk.inj hxy).1) hadds
        fun d r hover y hseries hts hyr => by
          have hsource : y.dataSourceId = none :=
            (Prod.mk.inj (Prod.mk.inj hyr).2).1.trans (hquiet d r hover).1
          refine Prod.ext ?_ (Prod.ext hsource.symm rfl)
          exact Prod.ext hseries.symm (Prod.ext hts.symm rfl)
    have hsignature : ({ v with d1 := d1Rows i adj (a.materialize observations t).bars } :
        CoarseView).signature adj = v.signature adj := by
      refine signature_congr (fun x y hxy => ?_) hread rfl
      obtain ⟨hkey, hids⟩ := Prod.mk.inj hxy
      exact ⟨(Prod.mk.inj (Prod.mk.inj hkey).2).1, (Prod.mk.inj hids).1, (Prod.mk.inj hids).2⟩
    have hlength : (d1Rows i adj (a.materialize observations t).bars).length = v.d1.length := by
      simpa using congrArg List.length hread
    refine ⟨⟨hlength ▸ hpast.barCount, fun hnil => ?_, hpast.watermarks⟩, fun hcurrent => ?_⟩
    · rw [hsignature]
      refine hpast.empty (length_eq_zero_iff.1 ?_)
      rw [← hlength]
      exact length_eq_zero_iff.2 hnil
    · rw [hsignature] at hcurrent
      have hstores : StoresCurrent i adj tf t := by
        rw [StoresCurrent, canonicalD1Signature_eq tf, hv, ← hcurrent, ← hs, ← hv]
        rfl
      have hvalues := hrows (g := OHLCVBar.asDict) (·.series) (fun _ => rfl) <|
        map_materialize (fun x y hxy => show x.asDict.uniqueKey = y.asDict.uniqueKey from
          congrArg OHLCVBar.uniqueKey hxy) hadds
          fun d r hover y hseries hts hyr => by
            obtain ⟨hsource, hshows⟩ := hquiet d r hover
            have hshows := hshows.resolve_right fun hnot => hnot hstores
            refine shows_asDict hseries hts ((congrArg OHLCVBar.dataSourceId hyr).trans hsource) ?_
            exact ⟨(congrArg OHLCVBar.open_ hyr).trans hshows.open_,
              (congrArg OHLCVBar.high hyr).trans hshows.high,
              (congrArg OHLCVBar.low hyr).trans hshows.low,
              (congrArg OHLCVBar.close hyr).trans hshows.close,
              (congrArg OHLCVBar.volume hyr).trans hshows.volume,
              (congrArg OHLCVBar.vwap hyr).trans hshows.vwap⟩
      refine (hfresh hcurrent).trans (List.Perm.of_eq ?_)
      rw [CoarseView.full, CoarseView.full, payloads_asDict,
        payloads_asDict (v := { v with d1 := d1Rows i adj (a.materialize observations t).bars })]
      dsimp only
      rw [hvalues]

/-- **A quiet local view keeps a view fresh.** -/
theorem CoarseView.Fresh.materialize
    (h : (t.coarse a.call.instrumentId adj tf).Fresh a.call.instrumentId adj tf)
    (hquiet : a.Quiet observations t) :
    ((a.materialize observations t).coarse a.call.instrumentId adj tf).Fresh
      a.call.instrumentId adj tf := by
  obtain ⟨hd1States, hstored⟩ := coarse_states_materialize a observations t a.call.instrumentId adj tf
  by_cases hd1 : d1Series a.call.instrumentId adj = a.call.series true
  · obtain ⟨-, htf, rfl⟩ := BarSeries.mk.inj hd1
    refine h.materialize_d1 hd1 rfl ?_ ?_
    · rw [ViewRequest.Quiet, ← htf] at hquiet
      refine (hquiet rfl).imp_right fun hover d r hdr => ?_
      obtain ⟨hsource, hshows⟩ := hover d r hdr
      exact ⟨hsource, hshows.imp_right fun hnone => hnone tf⟩
    · have hother : ∀ b : OHLCVBar, b.series = a.call.series true →
          b.series ≠ ⟨a.call.instrumentId, tf.timeframe, true⟩ := fun b hb heq =>
        tf.timeframe_ne_D1 (BarSeries.mk.inj (heq.symm.trans (hb.trans hd1.symm))).2.1
      simp only [MarketTables.coarse, CoarseView.mk.injEq]
      refine ⟨rfl, hd1States, hstored, filter_view fun b hb => ?_, filter_view fun b hb => ?_⟩
      · rw [decide_eq_false (hother b hb), Bool.false_and]
      · rw [decide_eq_false (hother b hb), Bool.false_and]
  · have hd1Rows : ((a.materialize observations t).coarse a.call.instrumentId adj tf).d1 =
        (t.coarse a.call.instrumentId adj tf).d1 :=
      filter_view fun b hb => decide_eq_false fun heq => hd1 (heq.symm.trans hb)
    by_cases htf : (⟨a.call.instrumentId, tf.timeframe, adj⟩ : BarSeries) = a.call.series true
    · -- The call is for the derived timeframe: it writes nothing while that is fresh.
      obtain ⟨-, htimeframe, rfl⟩ := BarSeries.mk.inj htf
      have hsignature : ((a.materialize observations t).coarse a.call.instrumentId true tf).signature
          true = (t.coarse a.call.instrumentId true tf).signature true :=
        signature_congr (g := id) (fun x y hxy => by rw [show x = y from hxy]; exact ⟨rfl, rfl, rfl⟩)
          (congrArg _ hd1Rows) hd1States
      intro s hs
      obtain ⟨hpast, hfresh⟩ := h s (hstored.symm.trans hs)
      refine ⟨hpast.congr hd1Rows hd1States, fun hcurrent => ?_⟩
      rw [hsignature] at hcurrent
      have hstores : StoresCurrent a.call.instrumentId true tf t := by
        rw [StoresCurrent, canonicalD1Signature_eq tf, ← hcurrent, ← hstored]
        exact hs
      rw [ViewRequest.Quiet, ← htimeframe, coarse_timeframe] at hquiet
      obtain ⟨hadds, hover⟩ := hquiet hstores
      have hbars : (a.materialize observations t).bars = t.bars := by
        have hmap := map_materialize (g := id) (fun x y hxy => congrArg OHLCVBar.uniqueKey hxy) hadds
          fun d r hdr => absurd hdr (hover d r)
        rwa [map_id, map_id] at hmap
      have hrows := hfresh hcurrent
      have hviews : ((a.materialize observations t).coarse a.call.instrumentId true tf) =
          t.coarse a.call.instrumentId true tf := by
        simp only [MarketTables.coarse, CoarseView.mk.injEq, hbars]
        exact ⟨trivial, hd1States, hstored, trivial, trivial⟩
      rw [hviews]
      exact hrows
    · have hviews : ((a.materialize observations t).coarse a.call.instrumentId adj tf) =
          t.coarse a.call.instrumentId adj tf := by
        have hother : ∀ b : OHLCVBar, b.series = a.call.series true →
            b.series ≠ ⟨a.call.instrumentId, tf.timeframe, adj⟩ := fun b hb heq =>
          htf (heq.symm.trans hb)
        simp only [MarketTables.coarse, CoarseView.mk.injEq]
        refine ⟨hd1Rows, hd1States, hstored, filter_view fun b hb => ?_, filter_view fun b hb => ?_⟩
        · rw [decide_eq_false (hother b hb), Bool.false_and]
        · rw [decide_eq_false (hother b hb), Bool.false_and]
      rw [hviews]
      exact h

/-! ## Runs -/

inductive MarketCall where
  | derive (call : DeriveCall)
  | ingest (call : IngestCall)
  | view (observations : List AdjustmentFactorObservation) (call : ViewRequest)

namespace MarketCall

def instrumentId : MarketCall → ℤ
  | derive c => c.instrumentId
  | ingest e => e.instrumentId
  | view _ a => a.call.instrumentId

def apply (t : MarketTables) : MarketCall → MarketTables
  | derive c => c.materializeDerivedTimeframes t
  | ingest e => e.persistPriceHistoryBars t
  | view observations a => a.materialize observations t

/-- A derivation cuts no period of a timeframe whose signature it keeps and that is
    the current one; ingestion bumps the state of its source; a local view is quiet. -/
def Harmless (t : MarketTables) : MarketCall → Prop
  | derive c => ∀ tf, StoresCurrent c.instrumentId c.adjusted tf t →
      (∃ r ∈ (t.coarse c.instrumentId c.adjusted tf).derived, withinBound c.bound r.ts = false) →
        (t.coarse c.instrumentId c.adjusted tf).Uncut tf c.bound
  | ingest e => e.Bumps t
  | view observations a => a.Quiet observations t

end MarketCall

def MarketStep (i : ℤ) (t : MarketTables) (call : MarketCall) (t' : MarketTables) : Prop :=
  call.instrumentId = i ∧ call.Harmless t ∧ t' = call.apply t

theorem fresh_step {call : MarketCall} (h : ∀ adj tf, (t.coarse i adj tf).Fresh i adj tf)
    (hstep : MarketStep i t call t') : ∀ adj tf, (t'.coarse i adj tf).Fresh i adj tf := by
  obtain ⟨rfl, hharmless, rfl⟩ := hstep
  intro adj tf
  cases call with
  | derive c =>
    by_cases hadj : c.adjusted = adj
    · subst hadj
      obtain ⟨stored, hview, hstored⟩ :=
        coarse_materialize tf (t.coarse c.instrumentId c.adjusted tf) rfl
      refine (h c.adjusted tf).derive (fun hcurrent => hharmless tf ?_) hview hstored
      rw [StoresCurrent, canonicalD1Signature_eq tf]
      exact hcurrent
    · change ((c.materializeDerivedTimeframes t).coarse c.instrumentId adj tf).Fresh _ _ _
      rw [coarse_materialize_ne hadj]
      exact h adj tf
  | ingest e => exact (h adj tf).ingest hharmless
  | view observations a => exact (h adj tf).materialize hharmless

/-- **When the check is right.**  In a run of harmless calls, from tables without
    stored signatures, a timeframe with a stored signature that needs no refresh has
    the rows that a full derivation makes. -/
theorem check_sound_of_run {calls : List MarketCall} (hrun : Run (MarketStep i) t₀ calls t)
    (h₀ : ∀ adj tf, storedSignature i adj tf t₀.states = none)
    (hstored : storedSignature i adj tf t.states ≠ none)
    (hcheck : derivedTimeframeNeedsRefresh t i tf.timeframe adj = false) :
    UpToDate i adj tf t := by
  have hfresh : ∀ adj tf, (t.coarse i adj tf).Fresh i adj tf := by
    refine hrun.invariant (fun h hstep => fresh_step h hstep) fun adj tf s hs => ?_
    exact absurd (hs.symm.trans (h₀ adj tf)) (nomatch ·)
  obtain ⟨s, hs⟩ := Option.ne_none_iff_exists'.1 hstored
  obtain ⟨hpast, hrows⟩ := hfresh adj tf s hs
  refine upToDate_iff.2 (hrows ?_)
  rw [derivedTimeframeNeedsRefresh, coarse_timeframe] at hcheck
  dsimp only at hcheck
  rw [show (rowWith DatasetState.key (derivedKey i adj tf) t.states).bind (·.storedSignature) =
    some s from hs, canonicalD1Signature_eq tf] at hcheck
  split_ifs at hcheck with hcount
  · exact hpast.empty (length_eq_zero_iff.1 hcount)
  · exact not_not.1 (of_decide_eq_false hcheck)

end

/-! ## Stale weeks -/

def twoWeeks : MarketTables :=
  { bars := [dailyBar 6 9, dailyBar 7 10, dailyBar 8 11, dailyBar 13 12] }

/-- A full derivation in between is harmless. -/
theorem check_sound_two_weeks : UpToDate 1 true .W1 (fullDerivation.materializeDerivedTimeframes
    twoWeeks) := by
  have hrun : Run (MarketStep 1) twoWeeks [.derive fullDerivation]
      (fullDerivation.materializeDerivedTimeframes twoWeeks) := by
    refine .snoc .nil ⟨rfl, fun tf hcurrent => ?_, rfl⟩
    cases tf
    · exact absurd hcurrent (nomatch ·)
    · exact absurd hcurrent (nomatch ·)
  exact check_sound_of_run hrun (fun adj tf => rfl) (by decide +kernel) (by decide +kernel)

/-- The tables after a full derivation and one through the 7th. -/
def cutWeek : MarketTables :=
  [MarketCall.derive fullDerivation, .derive boundedDerivation].foldl MarketCall.apply twoWeeks

/-- The tables after a derivation from a local view, and another view of more splits. -/
def rescaledWeek : MarketTables :=
  [MarketCall.view [januarySplit 6 3] (viewOf 5 8), .derive fullDerivation,
    .view januarySplits (viewOf 5 8)].foldl MarketCall.apply rawWeek

/-- **Stale weeks that need no refresh**: a week with two of its three days, and a
    week with the prices of the first view. -/
theorem stale_without_refresh :
    (derivedTimeframeNeedsRefresh cutWeek 1 .W1 true = false ∧
      storedSignature 1 true .W1 cutWeek.states ≠ none ∧ ¬ UpToDate 1 true .W1 cutWeek) ∧
    derivedTimeframeNeedsRefresh rescaledWeek 1 .W1 true = false ∧
      storedSignature 1 true .W1 rescaledWeek.states ≠ none ∧ ¬ UpToDate 1 true .W1 rescaledWeek := by
  refine ⟨⟨by decide +kernel, by decide +kernel, fun h => ?_⟩,
    by decide +kernel, by decide +kernel, fun h => ?_⟩
  · exact absurd (h 0) (by decide +kernel)
  · exact absurd (h 0) (by decide +kernel)

end ChartingPlatform
