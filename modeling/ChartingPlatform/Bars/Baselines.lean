/-
  Baselines of locally split-adjusted views: a call divides a raw bar by the ratios of the
  splits after the bar and through the last raw bar of the call's window.
-/
import ChartingPlatform.Bars.Adjusted

namespace ChartingPlatform

open Lib List

section
variable {observations os : List AdjustmentFactorObservation} {o : AdjustmentFactorObservation}
  {instrument source : ℤ} {version : String} {lo mid hi ts m : Instant} {raw bars : List OHLCVBar}
  {b : OHLCVBar} {c : ViewCall} {t : MarketTables} {k : ViewContract} {S : BarSeries}
  {d : RebuiltBar} {v : ViewProgress}

/-! ## Complete sets of splits -/

def AdjustmentFactorObservation.of (o : AdjustmentFactorObservation) (instrument source : ℤ) :
    Bool :=
  decide (o.instrumentId = instrument) && decide (o.dataSourceId = source) && o.relevant

structure AdjustmentFactorObservation.SplitUnder (o : AdjustmentFactorObservation)
    (version : String) : Prop where
  factorType : o.factorType = "split"
  factorKind : o.factorKind = none ∨ o.factorKind = some "split_ratio"
  factor : ∃ q, o.factor = some q ∧ 0 < q
  sourceEventKey : o.sourceEventKey ≠ ""
  factorVersion : o.factorVersion = some version

structure CompleteSplits (observations : List AdjustmentFactorObservation)
    (instrument source : ℤ) (version : String) : Prop where
  version_ne : version ≠ ""
  split : ∀ o ∈ observations, o.of instrument source = true → o.SplitUnder version

def AdjustmentFactorObservation.ratio (o : AdjustmentFactorObservation) : ℚ := o.factor.getD 1

/-- The product of the ratios of the splits after `lo` and through `hi`. -/
def splitRatio (observations : List AdjustmentFactorObservation) (instrument source : ℤ)
    (lo hi : Instant) : ℚ :=
  ((observations.filter fun o => o.of instrument source && decide (lo < o.effectiveAt) &&
    decide (o.effectiveAt ≤ hi)).map (·.ratio)).prod

theorem splitRatio_mul (hlo : lo ≤ mid) (hhi : mid ≤ hi) :
    splitRatio observations instrument source lo mid *
        splitRatio observations instrument source mid hi =
      splitRatio observations instrument source lo hi := by
  induction observations with
  | nil => simp [splitRatio]
  | cons o observations ih =>
    simp only [splitRatio, filter_cons] at ih ⊢
    by_cases hof : o.of instrument source = true
    · rcases le_or_gt o.effectiveAt lo with h₁ | h₁
      · simp [not_lt.2 h₁, not_lt.2 (h₁.trans hlo), ih]
      · rcases le_or_gt o.effectiveAt mid with h₂ | h₂
        · simp [hof, h₁, h₂, not_lt.2 h₂, h₂.trans hhi, mul_assoc, ih]
        · rcases le_or_gt o.effectiveAt hi with h₃ | h₃
          · simp only [hof, h₁, h₂, h₃, not_le.2 h₂, decide_true, decide_false, Bool.and_true,
              Bool.and_false, Bool.false_eq_true, if_true, if_false, map_cons, prod_cons]
            rw [← ih]
            ring
          · simp [hof, h₂, not_le.2 h₂, not_le.2 h₃, ih]
    · simp [hof, ih]

theorem AdjustmentFactorObservation.SplitUnder.ratio_pos (h : o.SplitUnder version) :
    0 < o.ratio := by
  obtain ⟨q, hq, hpos⟩ := h.factor
  rw [AdjustmentFactorObservation.ratio, hq]
  exact hpos

theorem CompleteSplits.splitRatio_pos
    (h : CompleteSplits observations instrument source version) :
    0 < splitRatio observations instrument source lo hi := by
  refine prod_pos fun q hq => ?_
  obtain ⟨o, ho, rfl⟩ := mem_map.1 hq
  obtain ⟨ho, hcond⟩ := mem_filter.1 ho
  rw [Bool.and_assoc, Bool.and_eq_true_iff] at hcond
  exact (h.split o ho hcond.1).ratio_pos

/-! ## Rebuilding with a complete set -/

theorem mapM_eq_some {α β : Type} {f : α → Option β} {g : α → β} {l : List α}
    (h : ∀ a ∈ l, f a = some (g a)) : l.mapM f = some (l.map g) := by
  induction l with
  | nil => rfl
  | cons a l ih =>
    rw [mapM_cons, h a mem_cons_self, ih fun a ha => h a (mem_cons_of_mem _ ha)]
    rfl

theorem observationFactor_of_split (h : o.SplitUnder version) (hv : version ≠ "") :
    o.observationFactor = some o.ratio := by
  obtain ⟨q, hq, hpos⟩ := h.factor
  have hkind : o.factorKind ∈ [none, some "split_ratio"] := by
    rcases h.factorKind with hk | hk
    · simp [hk]
    · simp [hk]
  have hident : o.unidentified = false := by
    simp [AdjustmentFactorObservation.unidentified, h.sourceEventKey, h.factorVersion, hv]
  rw [AdjustmentFactorObservation.observationFactor, if_neg (by simp [h.factorType]),
    if_neg (not_not.2 hkind), hident, AdjustmentFactorObservation.ratio, hq]
  simp [Option.filter, hpos]

theorem cumulativeFactor_div (factors : List (AdjustmentFactorObservation × ℚ)) (q : ℚ) :
    factors.foldl (fun c f => if ts < f.1.effectiveAt then c / f.2 else c) q =
      q * (((factors.filter fun f => decide (ts < f.1.effectiveAt)).map Prod.snd).prod)⁻¹ := by
  induction factors generalizing q with
  | nil => simp
  | cons f factors ih =>
    rw [foldl_cons, ih]
    by_cases hf : ts < f.1.effectiveAt
    · rw [if_pos hf, filter_cons_of_pos (by simpa using hf), map_cons, prod_cons,
        mul_inv, div_eq_mul_inv, mul_assoc]
    · rw [if_neg hf, filter_cons_of_neg (by simpa using hf)]

theorem dedup_of_forall_eq {α : Type} [DecidableEq α] {l : List α} {a : α} (hne : l ≠ [])
    (h : ∀ x ∈ l, x = a) : l.dedup = [a] := by
  rw [eq_replicate_of_mem h]
  exact replicate_dedup fun hlen => hne (length_eq_zero_iff.1 hlen)

/-- **Rebuilding with splits of one version.** -/
theorem rebuildSplit_complete (raw : List OHLCVBar) (hv : version ≠ "")
    (hsplit : ∀ o ∈ os, o.relevant = true → o.SplitUnder version)
    (hne : os.filter (·.relevant) ≠ []) :
    (rebuildSplitAdjustedBars raw os).status = "applied" ∧
      (rebuildSplitAdjustedBars raw os).factorVersion = some version ∧
      (rebuildSplitAdjustedBars raw os).bars = raw.map fun b => rebuiltBar "local_split_ratio"
        ((((os.filter (·.relevant)).filter fun o => decide (b.ts < o.effectiveAt)).map
          (·.ratio)).prod)⁻¹ b := by
  have hall : ∀ o ∈ os.filter (·.relevant), o.SplitUnder version := fun o ho =>
    hsplit o (mem_of_mem_filter ho) (of_mem_filter ho)
  have hdividend : ((os.filter (·.relevant)).any fun o => o.factorType = "dividend") = false :=
    any_eq_false.2 fun o ho => by simp [(hall o ho).factorType]
  have hsupplied : ((os.filter (·.relevant)).any fun o =>
      o.factorKind = some "provider_supplied") = false :=
    any_eq_false.2 fun o ho => by
      rcases (hall o ho).factorKind with hk | hk
      · simp [hk]
      · simp [hk]
  have hfactors : orderedFactors (·.observationFactor) (os.filter (·.relevant)) =
      some (sortBy (fun f => f.1.orderKey) ((os.filter (·.relevant)).map fun o => (o, o.ratio))) := by
    rw [orderedFactors, mapM_eq_some (g := fun o => (o, o.ratio)) fun o ho => by
      rw [observationFactor_of_split (hall o ho) hv]
      rfl]
    rfl
  have hversions : ((os.filter (·.relevant)).map (·.factorVersion)).dedup = [some version] :=
    dedup_of_forall_eq (by simpa using hne) fun x hx => by
      obtain ⟨o, ho, rfl⟩ := mem_map.1 hx
      exact (hall o ho).factorVersion
  rw [rebuildSplitAdjustedBars, if_neg hne, if_neg (by rw [hdividend]; decide), if_neg (by rw [hsupplied]; decide), hfactors]
  dsimp only
  rw [rebuildWith, hversions]
  refine ⟨rfl, rfl, ?_⟩
  refine map_congr_left fun b _ => ?_
  rw [cumulativeFactor, cumulativeFactor_div, one_mul]
  congr 2
  have hperm := ((perm_sortBy (fun f : AdjustmentFactorObservation × ℚ => f.1.orderKey)
    ((os.filter (·.relevant)).map fun o => (o, o.ratio))).filter
      fun f => decide (b.ts < f.1.effectiveAt)).map Prod.snd
  rw [hperm.prod_eq, filter_map, map_map]
  rfl

/-! ## The loop over the rebuilt bars -/

def rowsAt (S : BarSeries) (ts : Instant) (bars : List OHLCVBar) : List OHLCVBar :=
  bars.filter fun b => decide (b.series = S) && decide (b.ts = ts)

theorem priorAt_eq : c.priorAt bars ts = (rowsAt (c.series true) ts bars).getLast? := rfl

theorem mem_rowsAt : b ∈ rowsAt S ts bars ↔ b ∈ bars ∧ b.series = S ∧ b.ts = ts := by
  rw [rowsAt, mem_filter, Bool.and_eq_true, decide_eq_true_iff, decide_eq_true_iff]

theorem overwrite_spec (prior : OHLCVBar) : (c.overwrite d prior).series = c.series true ∧
    (c.overwrite d prior).ts = d.ts ∧ (c.overwrite d prior).scopeKey = prior.scopeKey :=
  ⟨rfl, rfl, rfl⟩

theorem series_of_priorAt {prior : OHLCVBar} (h : c.priorAt bars ts = some prior) :
    prior ∈ bars ∧ prior.series = c.series true ∧ prior.ts = ts :=
  mem_rowsAt.1 (mem_of_getLast? h)

variable {q : OHLCVBar → Bool}

theorem filter_persistBar (hq : ∀ b, b.series = c.series true → b.ts = d.ts → q b = false) :
    (k.persistBar c bars v d).bars.filter q = v.bars.filter q := by
  rw [ViewContract.persistBar]
  cases hprior : c.priorAt bars d.ts with
  | none =>
    dsimp only
    rw [filter_append, filter_cons_of_neg (by rw [hq _ rfl rfl]; decide), filter_nil,
      append_nil]
  | some prior =>
    obtain ⟨-, hseries, hts⟩ := series_of_priorAt hprior
    dsimp only
    split_ifs
    · rfl
    · refine filter_updateRow fun b hb => ⟨?_, hq _ rfl rfl⟩
      obtain ⟨hbs, hbt⟩ := Prod.mk.inj hb
      exact hq b (hbs.trans hseries) ((Prod.mk.inj hbt).1.trans hts)

theorem filter_persistBars {ds : List RebuiltBar}
    (hq : ∀ d ∈ ds, ∀ b, b.series = c.series true → b.ts = d.ts → q b = false) :
    (ds.foldl (k.persistBar c bars) v).bars.filter q = v.bars.filter q := by
  induction ds generalizing v with
  | nil => rfl
  | cons d ds ih =>
    rw [foldl_cons, ih fun d' hd' => hq d' (mem_cons_of_mem _ hd'),
      filter_persistBar (hq d mem_cons_self)]

theorem rowsAt_persistBar_ne (h : c.series true ≠ S ∨ d.ts ≠ ts) :
    rowsAt S ts (k.persistBar c bars v d).bars = rowsAt S ts v.bars := by
  refine filter_persistBar fun b hb hbt => ?_
  rw [Bool.and_eq_false_iff, decide_eq_false_iff_not, decide_eq_false_iff_not, hb, hbt]
  exact h

/-- What a round makes of the rows at its timestamp. -/
def viewedRows (k : ViewContract) (c : ViewCall) (d : RebuiltBar) (rows : List OHLCVBar) :
    List OHLCVBar :=
  match rows.getLast? with
  | none => [c.newRow d]
  | some prior =>
    if k.keeps prior then rows else updateRow OHLCVBar.uniqueKey prior.uniqueKey (c.overwrite d) rows

theorem rowsAt_updateRow {x : BarSeries × Instant × String}
    (hx : x.1 = c.series true ∧ x.2.1 = d.ts) :
    rowsAt (c.series true) d.ts (updateRow OHLCVBar.uniqueKey x (c.overwrite d) bars) =
      updateRow OHLCVBar.uniqueKey x (c.overwrite d) (rowsAt (c.series true) d.ts bars) := by
  rw [rowsAt, rowsAt, updateRow, updateRow, filter_map]
  congr 1
  refine filter_congr fun b _ => ?_
  rw [Function.comp_apply]
  split_ifs with hb
  · obtain ⟨hbs, hbt⟩ := Prod.mk.inj hb
    rw [(overwrite_spec b).1, (overwrite_spec b).2.1, hbs.trans hx.1,
      (Prod.mk.inj hbt).1.trans hx.2]
  · rfl

theorem rowsAt_persistBar_self
    (h : rowsAt (c.series true) d.ts v.bars = rowsAt (c.series true) d.ts bars) :
    rowsAt (c.series true) d.ts (k.persistBar c bars v d).bars =
      viewedRows k c d (rowsAt (c.series true) d.ts bars) := by
  rw [ViewContract.persistBar, viewedRows]
  cases hprior : c.priorAt bars d.ts with
  | none =>
    have hnone := priorAt_eq.symm.trans hprior
    rw [hnone]
    dsimp only
    have hempty : rowsAt (c.series true) d.ts v.bars = [] :=
      h.trans (getLast?_eq_none_iff.1 hnone)
    rw [rowsAt] at hempty ⊢
    rw [filter_append, hempty, nil_append]
    exact filter_eq_self.2 fun b hb => by
      rw [mem_singleton.1 hb]
      exact Bool.and_eq_true_iff.2 ⟨decide_eq_true rfl, decide_eq_true rfl⟩
  | some prior =>
    obtain ⟨-, hseries, hts⟩ := series_of_priorAt hprior
    rw [priorAt_eq.symm.trans hprior]
    dsimp only
    split_ifs
    · exact h
    · rw [rowsAt_updateRow ⟨hseries, hts⟩, h]

/-- **The rows of a timestamp after the loop.** -/
theorem rowsAt_persistBars {ds : List RebuiltBar} (hn : (ds.map RebuiltBar.ts).Nodup) (hd : d ∈ ds)
    (h : rowsAt (c.series true) d.ts v.bars = rowsAt (c.series true) d.ts bars) :
    rowsAt (c.series true) d.ts (ds.foldl (k.persistBar c bars) v).bars =
      viewedRows k c d (rowsAt (c.series true) d.ts bars) := by
  induction ds generalizing v with
  | nil => cases hd
  | cons e ds ih =>
    rw [map_cons, nodup_cons] at hn
    rw [foldl_cons]
    rcases mem_cons.1 hd with rfl | hd
    · rw [rowsAt, filter_persistBars (fun e he b hb hbt => ?_)]
      · exact rowsAt_persistBar_self h
      · have hne : b.ts ≠ d.ts := fun heq =>
          hn.1 (mem_map.2 ⟨e, he, hbt.symm.trans heq⟩)
        rw [decide_eq_false hne, Bool.and_false]
    · have hne : e.ts ≠ d.ts := fun heq => hn.1 (mem_map.2 ⟨d, hd, heq.symm⟩)
      exact ih hn.2 hd ((rowsAt_persistBar_ne (.inr hne)).trans h)

/-! ## Calls -/

def ViewContract.rebuilt (k : ViewContract) (observations : List AdjustmentFactorObservation)
    (c : ViewCall) (t : MarketTables) : List RebuiltBar :=
  match ((c.rawBars t.bars).map (·.dataSourceId)).dedup with
  | [some source] =>
    let result := k.rebuilder (c.rawBars t.bars) (c.observed source (c.rawBars t.bars) observations)
    if result.status ≠ "applied" then [] else result.bars
  | _ => []

theorem bars_materialize_view : (k.materialize observations c t).1.bars =
    ((k.rebuilt observations c t).foldl (k.persistBar c t.bars) { bars := t.bars }).bars := by
  rw [ViewContract.materialize, ViewContract.rebuilt]
  dsimp only
  split_ifs with hraw
  · rw [hraw]
    rfl
  · generalize ((c.rawBars t.bars).map (·.dataSourceId)).dedup = sources
    rcases sources with _ | ⟨_ | source, _ | ⟨second, rest⟩⟩
    · rfl
    · rfl
    · rfl
    · dsimp only
      split_ifs
      all_goals rfl
    · rfl

theorem filter_materialize (hq : ∀ b, b.series = c.series true → q b = false) :
    (k.materialize observations c t).1.bars.filter q = t.bars.filter q := by
  rw [bars_materialize_view]
  exact filter_persistBars fun d _ b hb _ => hq b hb

def rawOf (instrument : ℤ) (tf : Timeframe) (bars : List OHLCVBar) : List OHLCVBar :=
  bars.filter fun b => decide (b.series = ⟨instrument, tf, false⟩) && !b.isDerived

theorem rawOf_materialize (instrument : ℤ) (tf : Timeframe) :
    rawOf instrument tf (k.materialize observations c t).1.bars = rawOf instrument tf t.bars := by
  refine filter_materialize fun b hb => ?_
  have hne : b.series ≠ ⟨instrument, tf, false⟩ := fun heq =>
    Bool.noConfusion (congrArg BarSeries.isAdjusted (heq.symm.trans hb))
  rw [decide_eq_false hne, Bool.false_and]

theorem rawBars_eq : c.rawBars bars =
    sortBy OHLCVBar.ts ((rawOf c.instrumentId c.timeframe bars).filter fun b => c.inWindow b.ts) := by
  rw [ViewCall.rawBars, rawOf, filter_filter]
  congr 1
  exact filter_congr fun b _ => Bool.and_comm _ _

theorem mem_rawBars : b ∈ c.rawBars bars ↔
    b ∈ rawOf c.instrumentId c.timeframe bars ∧ c.inWindow b.ts = true := by
  rw [rawBars_eq, mem_sortBy, mem_filter]

def ViewCall.lastRaw (c : ViewCall) (bars : List OHLCVBar) : Option Instant :=
  ((c.rawBars bars).map (·.ts)).max?

theorem le_lastRaw (hb : b ∈ c.rawBars bars) : ∃ m, c.lastRaw bars = some m ∧ b.ts ≤ m := by
  have hmem : b.ts ∈ (c.rawBars bars).map (·.ts) := mem_map_of_mem hb
  cases hlast : c.lastRaw bars with
  | none => exact absurd (max?_eq_none_iff.1 hlast ▸ hmem) not_mem_nil
  | some m => exact ⟨m, rfl, (max?_eq_some_iff.1 hlast).2 _ hmem⟩

structure RawSeries (bars : List OHLCVBar) (instrument : ℤ) (tf : Timeframe) (source : ℤ) : Prop
    where
  source : ∀ b ∈ rawOf instrument tf bars, b.dataSourceId = some source
  nodup : ((rawOf instrument tf bars).map (·.ts)).Nodup

def ViewCall.seesSplit (c : ViewCall) (observations : List AdjustmentFactorObservation)
    (source : ℤ) (bars : List OHLCVBar) : Bool :=
  (c.lastRaw bars).any fun m => observations.any fun o =>
    o.of c.instrumentId source && decide (o.effectiveAt ≤ m)

theorem relevant_observed (observations : List AdjustmentFactorObservation) (source : ℤ)
    (hm : c.lastRaw t.bars = some m) :
    ((c.observed source (c.rawBars t.bars) observations).filter (·.relevant)).Perm
      (observations.filter fun o => o.of c.instrumentId source && decide (o.effectiveAt ≤ m)) := by
  refine ((perm_sortBy _ _).filter _).trans ?_
  rw [show ((c.rawBars t.bars).map (·.ts)).max? = some m from hm, filter_filter]
  refine List.Perm.of_eq (filter_congr fun o _ => ?_)
  simp only [AdjustmentFactorObservation.of, Option.any_some]
  cases o.relevant <;> simp [Bool.and_assoc]

theorem dedup_sources (hraw : RawSeries t.bars c.instrumentId c.timeframe source)
    (hne : c.rawBars t.bars ≠ []) :
    ((c.rawBars t.bars).map (·.dataSourceId)).dedup = [some source] :=
  dedup_of_forall_eq (by simpa using hne) fun x hx => by
    obtain ⟨b, hb, rfl⟩ := mem_map.1 hx
    exact hraw.source b (mem_rawBars.1 hb).1

theorem rebuilt_provider (hraw : RawSeries t.bars c.instrumentId c.timeframe source)
    (hsplits : CompleteSplits observations c.instrumentId source version) :
    providerView.rebuilt observations c t = [] := by
  rw [ViewContract.rebuilt]
  by_cases hne : c.rawBars t.bars = []
  · rw [hne]
    rfl
  rw [dedup_sources hraw hne]
  refine if_pos ?_
  rw [show providerView.rebuilder = rebuildProviderAdjustedBars from rfl,
    rebuildProviderAdjustedBars]
  split_ifs with hrel hkind
  · decide
  · exact (by decide : "provider_native_opaque_mixed_factor_kinds" ≠ "applied")
  · obtain ⟨o, ho⟩ := exists_mem_of_ne_nil _ hrel
    have hof : o.of c.instrumentId source = true := by
      have hobserved := (mem_sortBy _).1 (mem_of_mem_filter ho)
      have hcond := of_mem_filter hobserved
      simp only [Bool.and_eq_true] at hcond
      simp only [AdjustmentFactorObservation.of, Bool.and_eq_true]
      exact ⟨hcond.1, of_mem_filter ho⟩
    have hmem : o ∈ observations :=
      mem_of_mem_filter ((mem_sortBy _).1 (mem_of_mem_filter ho))
    refine absurd ?_ hkind
    refine any_eq_true.2 ⟨o, ho, ?_⟩
    rcases (hsplits.split o hmem hof).factorKind with hk | hk
    · simp [hk]
    · simp [hk]

theorem rebuilt_split (hraw : RawSeries t.bars c.instrumentId c.timeframe source)
    (hsplits : CompleteSplits observations c.instrumentId source version)
    (hm : c.lastRaw t.bars = some m) :
    splitView.rebuilt observations c t =
      if c.seesSplit observations source t.bars then
        (c.rawBars t.bars).map fun b => rebuiltBar "local_split_ratio"
          (splitRatio observations c.instrumentId source b.ts m)⁻¹ b
      else [] := by
  have hne : c.rawBars t.bars ≠ [] := fun hnil => by
    rw [ViewCall.lastRaw, hnil] at hm
    cases hm
  set os := c.observed source (c.rawBars t.bars) observations with hos
  have hperm := relevant_observed observations source hm
  have hsees : c.seesSplit observations source t.bars = true ↔ os.filter (·.relevant) ≠ [] := by
    rw [ViewCall.seesSplit, hm, Option.any_some, any_eq_true]
    rw [← hos] at hperm
    constructor
    · rintro ⟨o, ho, hcond⟩ hnil
      exact absurd (hnil ▸ hperm.mem_iff.2 (mem_filter.2 ⟨ho, hcond⟩)) not_mem_nil
    · intro hsome
      obtain ⟨o, ho⟩ := exists_mem_of_ne_nil _ hsome
      exact ⟨o, mem_filter.1 (hperm.mem_iff.1 ho)⟩
  rw [ViewContract.rebuilt, dedup_sources hraw hne]
  change (if (rebuildSplitAdjustedBars (c.rawBars t.bars) os).status ≠ "applied" then []
    else (rebuildSplitAdjustedBars (c.rawBars t.bars) os).bars) = _
  by_cases hseen : c.seesSplit observations source t.bars = true
  · have hsplit : ∀ o ∈ os, o.relevant = true → o.SplitUnder version := fun o ho hrel => by
      have hmem := hperm.mem_iff.1 (mem_filter.2 ⟨ho, hrel⟩)
      have hcond := of_mem_filter hmem
      exact hsplits.split o (mem_of_mem_filter hmem) (Bool.and_eq_true_iff.1 hcond).1
    obtain ⟨hstatus, -, hbars⟩ := rebuildSplit_complete (c.rawBars t.bars)
      hsplits.version_ne hsplit (hsees.1 hseen)
    rw [if_neg (by rw [hstatus]; decide), if_pos hseen, hbars]
    refine map_congr_left fun b _ => ?_
    congr 2
    have hratio := ((hperm.filter fun o => decide (b.ts < o.effectiveAt)).map
      fun o => o.ratio).prod_eq
    rw [hratio, filter_filter, splitRatio]
    congr 2
    refine filter_congr fun o _ => ?_
    cases o.of c.instrumentId source <;> simp [Bool.and_comm]
  · have hnone : os.filter (·.relevant) = [] := not_not.1 fun h => hseen (hsees.2 h)
    rw [if_neg hseen, rebuildSplitAdjustedBars]
    rw [if_pos hnone]
    exact if_pos (by decide)

/-! ## What a call writes -/

inductive ViewKind where
  | split | provider
  deriving DecidableEq, Repr

def ViewKind.contract : ViewKind → ViewContract
  | .split => splitView
  | .provider => providerView

structure ViewRequest where
  kind : ViewKind := .split
  call : ViewCall
  deriving DecidableEq

def ViewRequest.materialize (a : ViewRequest) (observations : List AdjustmentFactorObservation)
    (t : MarketTables) : MarketTables := (a.kind.contract.materialize observations a.call t).1

/-- The baseline of the row that the call writes for the raw bar of a timestamp:
    the last raw bar of its window. -/
def ViewRequest.baseline (a : ViewRequest) (observations : List AdjustmentFactorObservation)
    (instrument : ℤ) (tf : Timeframe) (source : ℤ) (bars : List OHLCVBar) (ts : Instant) :
    Option Instant :=
  if a.kind = .split ∧ a.call.instrumentId = instrument ∧ a.call.timeframe = tf ∧
      a.call.seesSplit observations source bars = true ∧
      (a.call.rawBars bars).any (·.ts = ts) = true then a.call.lastRaw bars
  else none

def OHLCVBar.isLocalSplit (b : OHLCVBar) : Bool :=
  b.isDerived && decide (b.derivationMethod = some "local_split_ratio")

theorem keeps_splitView (b : OHLCVBar) : splitView.keeps b = !b.isLocalSplit := by
  simp only [ViewContract.keeps, splitView, OHLCVBar.isLocalSplit, String.reduceEq, decide_false,
    Bool.false_and, Bool.or_false, Bool.not_and]
  congr

def splitBar (observations : List AdjustmentFactorObservation) (instrument source : ℤ)
    (m : Instant) (b : OHLCVBar) : RebuiltBar :=
  rebuiltBar "local_split_ratio" (splitRatio observations instrument source b.ts m)⁻¹ b

variable {tf : Timeframe} {a : ViewRequest}

theorem rowsAt_materialize_of_not_mem
    (h : ∀ d ∈ a.kind.contract.rebuilt observations a.call t, a.call.series true = S → d.ts ≠ ts) :
    rowsAt S ts (a.materialize observations t).bars = rowsAt S ts t.bars := by
  rw [ViewRequest.materialize, bars_materialize_view]
  refine filter_persistBars fun d hd b hb hbt => ?_
  rw [Bool.and_eq_false_iff, decide_eq_false_iff_not, decide_eq_false_iff_not]
  by_cases hS : b.series = S
  · exact .inr fun heq => h d hd (hb.symm.trans hS) (hbt.symm.trans heq)
  · exact .inl hS

theorem rebuilt_from_raw {kind : ViewKind} (hraw : RawSeries t.bars c.instrumentId c.timeframe source)
    (hsplits : CompleteSplits observations c.instrumentId source version)
    (hd : d ∈ kind.contract.rebuilt observations c t) :
    c.seesSplit observations source t.bars = true ∧ ∃ b ∈ c.rawBars t.bars, b.ts = d.ts := by
  cases kind with
  | provider =>
    rw [show ViewKind.contract .provider = providerView from rfl,
      rebuilt_provider hraw hsplits] at hd
    cases hd
  | split =>
    cases hlast : c.lastRaw t.bars with
    | none =>
      have hnil : c.rawBars t.bars = [] :=
        map_eq_nil_iff.1 (max?_eq_none_iff.1 hlast)
      rw [ViewContract.rebuilt, hnil] at hd
      cases hd
    | some m =>
      rw [show ViewKind.contract .split = splitView from rfl,
        rebuilt_split hraw hsplits hlast] at hd
      split_ifs at hd with hsees
      · obtain ⟨b, hb, rfl⟩ := mem_map.1 hd
        exact ⟨hsees, b, hb, rfl⟩
      · cases hd

/-- **The rows of a raw bar's timestamp after a call**: of the call's own bar, if
    the call has a baseline there. -/
theorem rowsAt_materialize (hraw : RawSeries t.bars instrument tf source)
    (hsplits : CompleteSplits observations instrument source version)
    (hb : b ∈ rawOf instrument tf t.bars) :
    rowsAt ⟨instrument, tf, true⟩ b.ts (a.materialize observations t).bars =
      match a.baseline observations instrument tf source t.bars b.ts with
      | none => rowsAt ⟨instrument, tf, true⟩ b.ts t.bars
      | some m => viewedRows splitView a.call (splitBar observations instrument source m b)
          (rowsAt ⟨instrument, tf, true⟩ b.ts t.bars) := by
  obtain ⟨kind, c⟩ := a
  by_cases hof : c.instrumentId = instrument ∧ c.timeframe = tf
  swap
  · rw [ViewRequest.baseline, if_neg fun h => hof ⟨h.2.1, h.2.2.1⟩]
    refine rowsAt_materialize_of_not_mem fun d _ hS => absurd ?_ hof
    exact ⟨congrArg BarSeries.instrumentId hS, congrArg BarSeries.timeframe hS⟩
  obtain ⟨rfl, rfl⟩ := hof
  cases kind with
  | provider =>
    rw [ViewRequest.baseline, if_neg fun h => ViewKind.noConfusion h.1]
    refine rowsAt_materialize_of_not_mem fun d hd => ?_
    rw [show ViewKind.contract .provider = providerView from rfl,
      rebuilt_provider hraw hsplits] at hd
    cases hd
  | split =>
    by_cases hwrites : c.seesSplit observations source t.bars = true ∧
        (c.rawBars t.bars).any (·.ts = b.ts) = true
    swap
    · rw [ViewRequest.baseline, if_neg fun h => hwrites h.2.2.2]
      refine rowsAt_materialize_of_not_mem fun d hd _ hts => hwrites ?_
      obtain ⟨hsees, b', hb', hts'⟩ := rebuilt_from_raw hraw hsplits hd
      exact ⟨hsees, any_eq_true.2 ⟨b', hb', decide_eq_true (hts'.trans hts)⟩⟩
    obtain ⟨b', hb', hts⟩ := any_eq_true.1 hwrites.2
    obtain rfl : b' = b := inj_on_of_nodup_map hraw.nodup (mem_rawBars.1 hb').1 hb
      (of_decide_eq_true hts)
    obtain ⟨m, hlast, -⟩ := le_lastRaw hb'
    rw [ViewRequest.baseline, if_pos ⟨rfl, rfl, rfl, hwrites⟩, hlast]
    dsimp only
    rw [ViewRequest.materialize, bars_materialize_view,
      show ViewKind.contract .split = splitView from rfl, rebuilt_split hraw hsplits hlast,
      if_pos hwrites.1]
    refine rowsAt_persistBars (d := splitBar observations c.instrumentId source m b') ?_ ?_ rfl
    · rw [map_map]
      have hnodup : ((c.rawBars t.bars).map (·.ts)).Nodup := by
        rw [rawBars_eq]
        exact (((perm_sortBy _ _).map _).nodup_iff).2
          (hraw.nodup.sublist (filter_sublist.map _))
      exact hnodup
    · exact mem_map.2 ⟨b', hb', rfl⟩

end

end ChartingPlatform
