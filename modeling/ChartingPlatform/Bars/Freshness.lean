/-
  Freshness of the derived timeframes: what decides about the derived rows of a timeframe is a
  `CoarseView` of the tables.
-/
import ChartingPlatform.Bars.Baselines
import ChartingPlatform.Bars.Ingestion
import ChartingPlatform.Bars.Periods

namespace ChartingPlatform

open Lib List

section
variable {i source : ℤ} {adj adj' : Bool} {tf tf' : CoarseTimeframe} {t t₀ : MarketTables}
  {c : DeriveCall} {b r d : OHLCVBar} {bars : List OHLCVBar} {p : DerivedPayload}
  {bound : Option Instant} {now : Instant} {sig : Option D1Signature}
  {factorVersion : Option String} {states : List DatasetState} {d1 : List OHLCVBar} {v : CoarseView}

/-! ## Views -/

/-- What the derived rows of a timeframe depend on, and these rows. -/
structure CoarseView where
  d1 : List OHLCVBar
  d1States : List DatasetState
  stored : Option D1Signature
  derived : List OHLCVBar
  providers : List OHLCVBar

def d1SourceStates (i : ℤ) (adj : Bool) (states : List DatasetState) : List DatasetState :=
  states.filter fun s => decide (s.key.instrumentId = i) &&
    decide (s.key.datasetKey = "D1:" ++ adjustmentText adj)

def storedSignature (i : ℤ) (adj : Bool) (tf : CoarseTimeframe) (states : List DatasetState) :
    Option D1Signature :=
  (rowWith DatasetState.key (derivedKey i adj tf) states).bind (·.storedSignature)

def MarketTables.coarse (t : MarketTables) (i : ℤ) (adj : Bool) (tf : CoarseTimeframe) :
    CoarseView where
  d1 := t.bars.filter fun b => decide (b.series = d1Series i adj)
  d1States := d1SourceStates i adj t.states
  stored := storedSignature i adj tf t.states
  derived := derivedIn ⟨i, tf.timeframe, adj⟩ t.bars
  providers := t.bars.filter fun b => decide (b.series = ⟨i, tf.timeframe, adj⟩) && !b.isDerived

def CoarseView.signature (v : CoarseView) (adj : Bool) : D1Signature :=
  let sourceIds := sortedIds (v.d1.map (·.dataSourceId))
  { adjusted := adj
    barCount := v.d1.length
    coverageStart := (coverage v.d1).1
    coverageEnd := (coverage v.d1).2
    dataSourceIds := sourceIds
    marketSeriesIds := sortedIds (v.d1.map (·.marketSeriesId))
    sourceWatermarks := sortBy (fun w => w.dataSourceId.getD (-1))
      ((v.d1States.filter fun s => if sourceIds = [] then s.key.dataSourceId.isNone
        else s.key.dataSourceId.any fun id => decide (id ∈ sourceIds)).map (·.watermark)) }

theorem canonicalD1Signature_eq (tf : CoarseTimeframe) : canonicalD1Signature t i adj = (t.coarse i adj tf).signature adj := by
  rw [canonicalD1Signature, CoarseView.signature, MarketTables.coarse, d1SourceStates, filter_filter]
  dsimp only
  congr 3
  refine filter_congr fun s _ => ?_
  simp only [Bool.and_assoc, Bool.and_comm, Bool.and_left_comm]

/-- The payloads of the periods that the daily rows through the bound make. -/
def CoarseView.payloads (v : CoarseView) (tf : CoarseTimeframe) (bound : Option Instant) :
    List DerivedPayload :=
  (aggregateD1Bars (sortBy OHLCVBar.ts (v.d1.filter fun b => withinBound bound b.ts)) tf).filter
    fun p => decide (p.periodKey ∉
      (v.providers.filter fun b => withinBound bound b.ts).map fun b => periodKey tf b.ts)

theorem payloads_coarse : c.payloads tf (d1Bars t c.instrumentId c.adjusted c.bound) t.bars =
    (t.coarse c.instrumentId c.adjusted tf).payloads tf c.bound := by
  have hd1 : t.bars.filter (fun b => decide (b.series = d1Series c.instrumentId c.adjusted) &&
      withinBound c.bound b.ts) =
      (t.coarse c.instrumentId c.adjusted tf).d1.filter fun b => withinBound c.bound b.ts := by
    rw [MarketTables.coarse, filter_filter]
    exact filter_congr fun b _ => Bool.and_comm _ _
  have hproviders : c.providerPeriods tf t.bars =
      ((t.coarse c.instrumentId c.adjusted tf).providers.filter
        fun b => withinBound c.bound b.ts).map fun b => periodKey tf b.ts := by
    rw [MarketTables.coarse, filter_filter, DeriveCall.providerPeriods]
    refine congrArg _ (filter_congr fun b _ => Bool.and_comm _ _)
  rw [DeriveCall.payloads, CoarseView.payloads, d1Bars, hd1, hproviders]

def OHLCVBar.timeless (b : OHLCVBar) : OHLCVBar := { b with derivedAt := none }

def fullCall (i : ℤ) (adj : Bool) (now : Instant) : DeriveCall :=
  { instrumentId := i, adjusted := adj, now := now }

/-- The derived rows are those of a full derivation, up to the clock. -/
def UpToDate (i : ℤ) (adj : Bool) (tf : CoarseTimeframe) (t : MarketTables) : Prop :=
  ∀ now, ((t.coarse i adj tf).derived.map OHLCVBar.timeless).Perm
    ((((fullCall i adj now).materializeDerivedTimeframes t).coarse i adj tf).derived.map
      OHLCVBar.timeless)

/-- The rows that a full derivation makes, without its clock. -/
def CoarseView.full (v : CoarseView) (i : ℤ) (adj : Bool) (tf : CoarseTimeframe) :
    List OHLCVBar :=
  (v.payloads tf none).map fun p => ((fullCall i adj 0).row tf p).timeless

/-! ## What a derivation does to a view -/

theorem derivedKey_inj {i' : ℤ} (h : derivedKey i adj tf = derivedKey i' adj' tf') :
    i = i' ∧ adj = adj' ∧ tf = tf' := by
  obtain ⟨hi, -, hkey⟩ := DatasetKey.mk.inj h
  refine ⟨hi, ?_⟩
  cases adj <;> cases adj' <;> cases tf <;> cases tf' <;> revert hkey <;> decide

theorem derivedKey_datasetKey_ne (i : ℤ) (adj adj' : Bool) (tf : CoarseTimeframe) : (derivedKey i adj tf).datasetKey ≠ "D1:" ++ adjustmentText adj' := by
  change tf.timeframe.text ++ ":" ++ adjustmentText adj ≠ "D1:" ++ adjustmentText adj'
  cases adj <;> cases adj' <;> cases tf <;> decide

theorem d1States_deriveTimeframe :
    d1SourceStates i adj (c.deriveTimeframe d1 sig factorVersion t tf).states = d1SourceStates i adj t.states := by
  rw [DeriveCall.deriveTimeframe]
  split_ifs
  · rfl
  · refine filter_upsert fun s hs => ?_
    have hne : s.key.datasetKey ≠ "D1:" ++ adjustmentText adj := by
      rw [hs]
      exact derivedKey_datasetKey_ne c.instrumentId c.adjusted adj tf
    rw [decide_eq_false hne, Bool.and_false]

theorem filter_deriveTimeframe {q : OHLCVBar → Bool}
    (hq : ∀ b, b.series = c.series tf → b.isDerived = true → q b = false) :
    (c.deriveTimeframe d1 sig factorVersion t tf).bars.filter q = t.bars.filter q := by
  rw [bars_deriveTimeframe]
  exact filter_rebuild (fun p => hq _ rfl rfl) fun b hb =>
    hq b (deletes_iff.1 hb).1 (deletes_iff.1 hb).2.1

theorem d1_deriveTimeframe (tf : CoarseTimeframe) :
    ((c.deriveTimeframe d1 sig factorVersion t tf').coarse i adj tf).d1 = (t.coarse i adj tf).d1 := by
  refine filter_deriveTimeframe fun b hb _ => decide_eq_false fun heq => ?_
  exact tf'.timeframe_ne_D1 (BarSeries.mk.inj (hb.symm.trans heq)).2.1

theorem providers_deriveTimeframe (tf : CoarseTimeframe) :
    ((c.deriveTimeframe d1 sig factorVersion t tf').coarse i adj tf).providers =
      (t.coarse i adj tf).providers := by
  refine filter_deriveTimeframe fun b _ hb => ?_
  rw [hb, Bool.not_true, Bool.and_false]

theorem coarse_deriveTimeframe_ne (h : c.adjusted ≠ adj ∨ tf' ≠ tf) :
    (c.deriveTimeframe d1 sig factorVersion t tf').coarse i adj tf = t.coarse i adj tf := by
  have hderived : derivedIn ⟨i, tf.timeframe, adj⟩
      (c.deriveTimeframe d1 sig factorVersion t tf').bars = derivedIn ⟨i, tf.timeframe, adj⟩ t.bars := by
    refine filter_deriveTimeframe fun b hb _ => ?_
    have hne : b.series ≠ ⟨i, tf.timeframe, adj⟩ := fun heq => by
      obtain ⟨-, htf, hadj⟩ := BarSeries.mk.inj (hb.symm.trans heq)
      rcases h with h | h
      · exact h hadj
      · exact h (CoarseTimeframe.timeframe_injective htf)
    rw [decide_eq_false hne, Bool.false_and]
  have hstored : storedSignature i adj tf (c.deriveTimeframe d1 sig factorVersion t tf').states =
      storedSignature i adj tf t.states := by
    rw [DeriveCall.deriveTimeframe]
    split_ifs
    · rfl
    · have hne : c.stateKey tf' ≠ derivedKey i adj tf := fun heq => by
        obtain ⟨-, hadj, htf⟩ := derivedKey_inj
          (show derivedKey c.instrumentId c.adjusted tf' = derivedKey i adj tf from heq)
        rcases h with h | h
        · exact h hadj
        · exact h htf
      rw [storedSignature, rowWith_upsert, show (c.writtenState tf' _ _ _ _ _).key = c.stateKey tf'
        from rfl, if_neg hne]
      rfl
  simp only [MarketTables.coarse, CoarseView.mk.injEq]
  exact ⟨d1_deriveTimeframe tf, d1States_deriveTimeframe, hstored, hderived,
    providers_deriveTimeframe tf⟩

theorem CoarseView.within (hp : p ∈ v.payloads tf bound) :
    withinBound bound p.ts = true := by
  obtain ⟨d, hd, hts, -⟩ := exists_bar_of_payload (mem_of_mem_filter hp)
  have hwithin := of_mem_filter ((mem_sortBy _).1 hd)
  exact hts ▸ hwithin

theorem derivedIn_rebuild : derivedIn (c.series tf) (c.rebuild tf d1 bars) =
    ((derivedIn (c.series tf) bars).filter fun b => !withinBound c.bound b.ts) ++
      (c.payloads tf d1 bars).map (c.row tf) := by
  rw [DeriveCall.rebuild, derivedIn, filter_append]
  congr 1
  · rw [derivedIn, filter_filter, filter_filter]
    refine filter_congr fun b _ => ?_
    rw [DeriveCall.deletes]
    cases decide (b.series = c.series tf) && b.isDerived <;> simp
  · refine filter_eq_self.2 fun b hb => ?_
    obtain ⟨p, -, rfl⟩ := mem_map.1 hb
    exact Bool.and_eq_true_iff.2 ⟨decide_eq_true rfl, rfl⟩

/-- The round of the timeframe itself: the rows through the bound are replaced, and
    the signature too, unless rows after the bound stay. -/
theorem coarse_deriveTimeframe (hv : t.coarse c.instrumentId c.adjusted tf = v)
    (hpayloads : c.payloads tf (d1Bars t₀ c.instrumentId c.adjusted c.bound) t.bars =
      v.payloads tf c.bound) :
    ∃ stored, (c.deriveTimeframe (d1Bars t₀ c.instrumentId c.adjusted c.bound) sig factorVersion t
        tf).coarse c.instrumentId c.adjusted tf =
        { v with
          stored := stored
          derived := (v.derived.filter fun b => !withinBound c.bound b.ts) ++
            (v.payloads tf c.bound).map (c.row tf) } ∧
      (stored = sig ∨ stored = v.stored ∧ ∃ r ∈ v.derived, withinBound c.bound r.ts = false) := by
  have hderived : derivedIn (c.series tf) (c.deriveTimeframe
      (d1Bars t₀ c.instrumentId c.adjusted c.bound) sig factorVersion t tf).bars =
      (v.derived.filter fun b => !withinBound c.bound b.ts) ++
        (v.payloads tf c.bound).map (c.row tf) := by
    rw [bars_deriveTimeframe, derivedIn_rebuild, hpayloads, ← hv]
    rfl
  refine ⟨storedSignature c.instrumentId c.adjusted tf (c.deriveTimeframe
    (d1Bars t₀ c.instrumentId c.adjusted c.bound) sig factorVersion t tf).states, ?_, ?_⟩
  · rw [MarketTables.coarse, d1States_deriveTimeframe, ← hv]
    simp only [CoarseView.mk.injEq]
    refine ⟨d1_deriveTimeframe tf, rfl, trivial, ?_, providers_deriveTimeframe tf⟩
    rw [hv]
    exact hderived
  · rw [bars_deriveTimeframe] at hderived
    rw [DeriveCall.deriveTimeframe]
    split_ifs with hkeeps
    · -- Rows after the bound stay, and with them the state.
      refine .inr ⟨by rw [← hv]; rfl, ?_⟩
      rw [DeriveCall.preservesState, Bool.and_eq_true, any_eq_true] at hkeeps
      obtain ⟨-, r, hr, hafter⟩ := hkeeps
      have hmem : r ∈ derivedIn (c.series tf)
          (c.rebuild tf (d1Bars t₀ c.instrumentId c.adjusted c.bound) t.bars) := (mem_sortBy _).1 hr
      rw [hderived, mem_append] at hmem
      rw [Bool.not_eq_true'] at hafter
      rcases hmem with hmem | hmem
      · exact ⟨r, mem_of_mem_filter hmem, hafter⟩
      · obtain ⟨p, hp, rfl⟩ := mem_map.1 hmem
        exact absurd (CoarseView.within hp) (by rw [show p.ts = (c.row tf p).ts from rfl, hafter]; decide)
    · refine .inl ?_
      rw [storedSignature, rowWith_upsert, if_pos]
      · rfl
      · rfl

/-- **What a derivation does to the views of its adjustment mode.** -/
theorem coarse_materialize (tf : CoarseTimeframe) (v : CoarseView) (hv : t.coarse c.instrumentId c.adjusted tf = v) :
    ∃ stored, (c.materializeDerivedTimeframes t).coarse c.instrumentId c.adjusted tf =
        { v with
          stored := stored
          derived := (v.derived.filter fun b => !withinBound c.bound b.ts) ++
            (v.payloads tf c.bound).map (c.row tf) } ∧
      (stored = (if c.bound.isNone then some (v.signature c.adjusted) else none) ∨
        stored = v.stored ∧ ∃ r ∈ v.derived, withinBound c.bound r.ts = false) := by
  have hpayloads : c.payloads tf (d1Bars t c.instrumentId c.adjusted c.bound) t.bars =
      v.payloads tf c.bound := hv ▸ payloads_coarse
  have hsignature : canonicalD1Signature t c.instrumentId c.adjusted = v.signature c.adjusted :=
    hv ▸ canonicalD1Signature_eq tf
  rw [DeriveCall.materializeDerivedTimeframes, ← hsignature]
  dsimp only [foldl_cons, foldl_nil]
  cases tf with
  | W1 =>
    rw [coarse_deriveTimeframe_ne (.inr (by decide))]
    exact coarse_deriveTimeframe hv hpayloads
  | MN =>
    refine coarse_deriveTimeframe ((coarse_deriveTimeframe_ne (.inr (by decide))).trans hv) ?_
    rw [← hpayloads, DeriveCall.payloads, DeriveCall.payloads, bars_deriveTimeframe,
      providerPeriods_rebuild]

theorem coarse_materialize_ne (h : c.adjusted ≠ adj) :
    (c.materializeDerivedTimeframes t).coarse i adj tf = t.coarse i adj tf := by
  rw [DeriveCall.materializeDerivedTimeframes]
  dsimp only [foldl_cons, foldl_nil]
  rw [coarse_deriveTimeframe_ne (.inl h), coarse_deriveTimeframe_ne (.inl h)]

theorem timeless_row (h : c.instrumentId = i ∧ c.adjusted = adj) :
    (c.row tf p).timeless = ((fullCall i adj 0).row tf p).timeless := by
  obtain ⟨rfl, rfl⟩ := h
  rfl

theorem upToDate_iff : UpToDate i adj tf t ↔
    ((t.coarse i adj tf).derived.map OHLCVBar.timeless).Perm ((t.coarse i adj tf).full i adj tf) := by
  have hfull : ∀ now, (((fullCall i adj now).materializeDerivedTimeframes t).coarse i adj
      tf).derived.map OHLCVBar.timeless = (t.coarse i adj tf).full i adj tf := by
    intro now
    obtain ⟨stored, hview, -⟩ := coarse_materialize (c := fullCall i adj now) tf _ rfl
    rw [show ((fullCall i adj now).materializeDerivedTimeframes t).coarse i adj tf = _ from hview]
    dsimp only
    rw [map_append, map_map, CoarseView.full]
    have hnone : ((t.coarse i adj tf).derived.filter fun b =>
        !withinBound (fullCall i adj now).bound b.ts) = [] :=
      filter_eq_nil_iff.2 fun b _ => by simp [fullCall]
    rw [show (t.coarse (fullCall i adj now).instrumentId (fullCall i adj now).adjusted tf) =
      t.coarse i adj tf from rfl, hnone]
    rfl
  constructor
  · intro h
    exact hfull 0 ▸ h 0
  · intro h now
    rw [hfull now]
    exact h

/-! ## The invariant -/

/-- The signature may be that of earlier daily rows and states. -/
structure D1Signature.Past (s : D1Signature) (adj : Bool) (v : CoarseView) : Prop where
  barCount : s.barCount ≤ v.d1.length
  empty : v.d1 = [] → s = v.signature adj
  watermarks : ∀ w ∈ s.sourceWatermarks, ∀ source, w.dataSourceId = some source →
    ∃ state ∈ v.d1States, state.key.dataSourceId = some source ∧
      ∀ f, w.fetchedAt = some f → ∃ g, state.fetchedAt = some g ∧ f ≤ g

/-- A stored signature that is the current one stands for rows that are up to date. -/
def CoarseView.Fresh (v : CoarseView) (i : ℤ) (adj : Bool) (tf : CoarseTimeframe) : Prop :=
  ∀ s, v.stored = some s → s.Past adj v ∧
    (s = v.signature adj → (v.derived.map OHLCVBar.timeless).Perm (v.full i adj tf))

theorem past_self : (v.signature adj).Past adj v where
  barCount := le_rfl
  empty _ := rfl
  watermarks w hw source hsource := by
    obtain ⟨state, hstate, rfl⟩ := mem_map.1 ((mem_sortBy _).1 hw)
    exact ⟨state, mem_of_mem_filter hstate, hsource, fun f hf => ⟨f, hf, le_rfl⟩⟩

theorem D1Signature.Past.congr {s : D1Signature} {v' : CoarseView} (h : s.Past adj v)
    (hd1 : v'.d1 = v.d1) (hstates : v'.d1States = v.d1States) : s.Past adj v' where
  barCount := hd1 ▸ h.barCount
  empty hnil := by
    rw [h.empty (hd1 ▸ hnil), CoarseView.signature, CoarseView.signature, hd1, hstates]
  watermarks := hstates ▸ h.watermarks

/-! ## Derivations -/

/-- A rebuild through the bound cuts no period: a period of which it makes a row has
    no daily bar and no provider row after the bound. -/
def CoarseView.Uncut (v : CoarseView) (tf : CoarseTimeframe) (bound : Option Instant) : Prop :=
  ∀ d ∈ v.d1, withinBound bound d.ts = true →
    (∀ b ∈ v.providers, withinBound bound b.ts = true → periodKey tf b.ts ≠ periodKey tf d.ts) →
    ∀ b ∈ v.d1 ++ v.providers, periodKey tf b.ts = periodKey tf d.ts → withinBound bound b.ts = true

theorem mem_aggregate {l : List OHLCVBar} : p ∈ aggregateD1Bars l tf ↔
    ∃ b, (l.filter fun m => decide (periodKey tf m.ts = p.periodKey)).head? = some b ∧
      p = periodPayload tf b (l.filter fun m => decide (periodKey tf m.ts = p.periodKey)) := by
  rw [aggregateD1Bars, mem_sortBy, mem_map]
  refine exists_congr fun b => ?_
  rw [mem_firsts, firstWith, head?_filter]
  constructor
  · rintro ⟨hb, rfl⟩
    have hkey : (periodPayload tf b (periodMembers tf b l)).periodKey = periodKey tf b.ts :=
      periodKey_periodPayload (mem_of_find?_eq_some hb)
    rw [hkey]
    exact ⟨hb, rfl⟩
  · rintro ⟨hb, hp⟩
    have hkey : periodKey tf b.ts = p.periodKey := by simpa using find?_some hb
    rw [periodMembers, hkey]
    exact ⟨hb, hp.symm⟩

theorem nodup_payloads : (v.payloads tf bound).Nodup :=
  (List.Nodup.of_map _ nodup_aggregate).sublist filter_sublist

theorem CoarseView.Uncut.payloads (h : v.Uncut tf bound) :
    (v.payloads tf bound).Perm ((v.payloads tf none).filter fun p => withinBound bound p.ts) := by
  rw [perm_ext_iff_of_nodup nodup_payloads (nodup_payloads.sublist filter_sublist)]
  intro p
  -- The bars of a period with a bar, but no provider row, within the bound.
  have hmembers : ∀ d ∈ v.d1, withinBound bound d.ts = true → periodKey tf d.ts = p.periodKey →
      (∀ b ∈ v.providers, withinBound bound b.ts = true → periodKey tf b.ts ≠ p.periodKey) →
      (sortBy OHLCVBar.ts (v.d1.filter fun b => withinBound bound b.ts)).filter
          (fun m => decide (periodKey tf m.ts = p.periodKey)) =
        (sortBy OHLCVBar.ts (v.d1.filter fun b => withinBound none b.ts)).filter
          fun m => decide (periodKey tf m.ts = p.periodKey) := by
    intro d hd hwithin hkey hfree
    rw [← hkey] at hfree ⊢
    rw [← filter_sortBy, ← filter_sortBy, filter_filter, filter_filter]
    refine filter_congr fun m hm => ?_
    by_cases hmkey : periodKey tf m.ts = periodKey tf d.ts
    · have hm' : withinBound bound m.ts = true :=
        h d hd hwithin hfree m (mem_append_left _ ((mem_sortBy _).1 hm)) hmkey
      rw [hm', withinBound_none]
    · rw [decide_eq_false hmkey, Bool.false_and, Bool.false_and]
  have hproviders : ∀ bound', p.periodKey ∉
      ((v.providers.filter fun b => withinBound bound' b.ts).map fun b => periodKey tf b.ts) ↔
      ∀ b ∈ v.providers, withinBound bound' b.ts = true → periodKey tf b.ts ≠ p.periodKey := by
    intro bound'
    simp only [mem_map, mem_filter, not_exists, not_and, and_imp]
  rw [CoarseView.payloads, CoarseView.payloads, mem_filter, mem_filter, mem_filter,
    decide_eq_true_iff, decide_eq_true_iff, hproviders, hproviders]
  constructor
  · rintro ⟨hp, hfree⟩
    obtain ⟨d, hd, hts, hkey⟩ := exists_bar_of_payload hp
    obtain ⟨hd, hwithin⟩ := mem_filter.1 ((mem_sortBy _).1 hd)
    refine ⟨⟨?_, fun b hb _ hbkey => ?_⟩, hts ▸ hwithin⟩
    · rw [mem_aggregate, ← hmembers d hd hwithin hkey.symm hfree, ← mem_aggregate]
      exact hp
    · have hb' := h d hd hwithin (hkey ▸ hfree) b (mem_append_right _ hb) (hbkey.trans hkey)
      exact hfree b hb hb' hbkey
  · rintro ⟨⟨hp, hfree⟩, hwithin⟩
    have hfree' : ∀ b ∈ v.providers, withinBound bound b.ts = true →
        periodKey tf b.ts ≠ p.periodKey := fun b hb _ => hfree b hb (withinBound_none _)
    obtain ⟨d, hd, hts, hkey⟩ := exists_bar_of_payload hp
    have hd := mem_of_mem_filter ((mem_sortBy _).1 hd)
    refine ⟨?_, hfree'⟩
    rw [mem_aggregate, hmembers d hd (hts ▸ hwithin) hkey.symm hfree', ← mem_aggregate]
    exact hp

/-- **A derivation keeps a view fresh** that is cut by no rebuild. -/
theorem CoarseView.Fresh.derive {v' : CoarseView} {stored : Option D1Signature}
    (h : v.Fresh c.instrumentId c.adjusted tf)
    (hcut : v.stored = some (v.signature c.adjusted) →
      (∃ r ∈ v.derived, withinBound c.bound r.ts = false) → v.Uncut tf c.bound)
    (hv' : v' = { v with
      stored := stored
      derived := (v.derived.filter fun b => !withinBound c.bound b.ts) ++
        (v.payloads tf c.bound).map (c.row tf) })
    (hstored : stored = (if c.bound.isNone then some (v.signature c.adjusted) else none) ∨
      stored = v.stored ∧ ∃ r ∈ v.derived, withinBound c.bound r.ts = false) :
    v'.Fresh c.instrumentId c.adjusted tf := by
  have hnew : ((v.payloads tf c.bound).map (c.row tf)).map OHLCVBar.timeless =
      (v.payloads tf c.bound).map fun p =>
        ((fullCall c.instrumentId c.adjusted 0).row tf p).timeless := by
    rw [map_map]
    exact map_congr_left fun p _ => timeless_row ⟨rfl, rfl⟩
  subst hv'
  intro s hs
  rcases hstored with rfl | ⟨rfl, hafter⟩
  · cases hbound : c.bound with
    | some e =>
      rw [hbound] at hs
      cases hs
    | none =>
      rw [hbound] at hs
      obtain rfl := Option.some.inj hs
      refine ⟨past_self.congr rfl rfl, fun _ => ?_⟩
      have hnone : (v.derived.filter fun b => !withinBound none b.ts) = [] :=
        filter_eq_nil_iff.2 fun b _ => by simp
      rw [hnone, nil_append, ← hbound, hnew, hbound]
      exact List.Perm.refl _
  · obtain ⟨hpast, hfresh⟩ := h s hs
    refine ⟨hpast.congr rfl rfl, fun hcurrent => ?_⟩
    have hrows := hfresh hcurrent
    have huncut := (hcut (hs.trans (congrArg some hcurrent)) hafter).payloads
    -- The rows after the bound, and the payloads that begin within it.
    rw [map_append, hnew]
    have hkept : ((v.derived.filter fun b => !withinBound c.bound b.ts).map
        OHLCVBar.timeless).Perm
        ((v.full c.instrumentId c.adjusted tf).filter fun b => !withinBound c.bound b.ts) := by
      have hfilter := hrows.filter fun b => !withinBound c.bound b.ts
      rw [filter_map] at hfilter
      exact hfilter
    refine (hkept.append (huncut.map _)).trans ?_
    have hsplit : (v.full c.instrumentId c.adjusted tf).filter (fun b => withinBound c.bound b.ts) =
        ((v.payloads tf none).filter fun p => withinBound c.bound p.ts).map fun p =>
          ((fullCall c.instrumentId c.adjusted 0).row tf p).timeless := by
      rw [CoarseView.full, filter_map]
      rfl
    rw [← hsplit]
    refine perm_append_comm.trans ?_
    exact filter_append_perm _ _

end

end ChartingPlatform
