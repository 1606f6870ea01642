/-
  One derived bar per calendar period: a bounded rebuild deletes the derived rows through its
  bound and inserts one row for every period in which it sees D1 bars.
-/
import ChartingPlatform.Bars.Derived
import ChartingPlatform.Lib.Runs

namespace ChartingPlatform

open Lib List

section
variable {tf tf' : CoarseTimeframe} {b d m r : OHLCVBar} {bars d1 : List OHLCVBar}
  {p : DerivedPayload} {c : DeriveCall} {t t' : MarketTables} {k : ℕ × ℤ}
  {signature : Option D1Signature} {factorVersion : Option String}

/-! ## Payloads -/

theorem mem_periodMembers : m ∈ periodMembers tf b bars ↔
    m ∈ bars ∧ periodKey tf m.ts = periodKey tf b.ts := by
  rw [periodMembers, mem_filter, decide_eq_true_iff]

theorem first_mem (hb : b ∈ bars) :
    (sortBy OHLCVBar.ts (periodMembers tf b bars)).head?.getD b ∈ periodMembers tf b bars := by
  cases hfirst : (sortBy OHLCVBar.ts (periodMembers tf b bars)).head? with
  | none => exact mem_periodMembers.2 ⟨hb, rfl⟩
  | some f => exact (mem_sortBy _).1 (mem_of_mem_head? hfirst)

theorem exists_bar_of_payload (hp : p ∈ aggregateD1Bars d1 tf) :
    ∃ d ∈ d1, p.ts = d.ts ∧ p.periodKey = periodKey tf d.ts := by
  obtain ⟨b, hb, rfl⟩ := mem_map.1 ((mem_sortBy _).1 hp)
  have hmem : b ∈ d1 := mem_of_find?_eq_some (mem_firsts.1 hb)
  exact ⟨_, (mem_periodMembers.1 (first_mem hmem)).1, rfl, rfl⟩

theorem periodKey_payload (hp : p ∈ aggregateD1Bars d1 tf) : periodKey tf p.ts = p.periodKey := by
  obtain ⟨d, -, hts, hkey⟩ := exists_bar_of_payload hp
  rw [hts, hkey]

theorem periodKey_periodPayload (hb : b ∈ d1) :
    (periodPayload tf b (periodMembers tf b d1)).periodKey = periodKey tf b.ts :=
  (mem_periodMembers.1 (first_mem hb)).2

theorem map_periodKey_payloads :
    ((firsts (fun b : OHLCVBar => periodKey tf b.ts) d1).map fun b =>
        periodPayload tf b (periodMembers tf b d1)).map DerivedPayload.periodKey =
      (firsts (fun b : OHLCVBar => periodKey tf b.ts) d1).map fun b => periodKey tf b.ts := by
  rw [map_map]
  refine map_congr_left fun b hb => ?_
  exact periodKey_periodPayload (mem_of_find?_eq_some (mem_firsts.1 hb))

theorem nodup_aggregate : ((aggregateD1Bars d1 tf).map DerivedPayload.periodKey).Nodup := by
  rw [aggregateD1Bars, ((perm_sortBy _ _).map _).nodup_iff, map_periodKey_payloads]
  exact nodup_firsts

theorem mem_periods_aggregate : k ∈ (aggregateD1Bars d1 tf).map DerivedPayload.periodKey ↔
    ∃ d ∈ d1, periodKey tf d.ts = k := by
  rw [aggregateD1Bars, ((perm_sortBy _ _).map _).mem_iff, map_periodKey_payloads, mem_map]
  constructor
  · rintro ⟨b, hb, rfl⟩
    exact ⟨b, mem_of_find?_eq_some (mem_firsts.1 hb), rfl⟩
  · rintro ⟨d, hd, rfl⟩
    have hsome : (firstWith (fun b : OHLCVBar => periodKey tf b.ts) (periodKey tf d.ts) d1).isSome :=
      find?_isSome.2 ⟨d, hd, by simp⟩
    obtain ⟨b, hb⟩ := Option.isSome_iff_exists.1 hsome
    have hkey : periodKey tf b.ts = periodKey tf d.ts := by simpa using find?_some hb
    exact ⟨b, mem_firsts.2 (hkey.symm ▸ hb), hkey⟩

theorem mem_payloads : p ∈ c.payloads tf d1 bars ↔
    p ∈ aggregateD1Bars d1 tf ∧ p.periodKey ∉ c.providerPeriods tf bars := by
  rw [DeriveCall.payloads, mem_filter, decide_eq_true_iff]

theorem mem_periods_payloads : k ∈ (c.payloads tf d1 bars).map DerivedPayload.periodKey ↔
    (∃ d ∈ d1, periodKey tf d.ts = k) ∧ k ∉ c.providerPeriods tf bars := by
  rw [← mem_periods_aggregate]
  constructor
  · intro h
    obtain ⟨p, hp, rfl⟩ := mem_map.1 h
    obtain ⟨hp, hkey⟩ := mem_payloads.1 hp
    exact ⟨mem_map_of_mem hp, hkey⟩
  · rintro ⟨h, hkey⟩
    obtain ⟨p, hp, rfl⟩ := mem_map.1 h
    exact mem_map_of_mem (mem_payloads.2 ⟨hp, hkey⟩)

theorem mem_providerPeriods : k ∈ c.providerPeriods tf bars ↔ ∃ b ∈ bars, b.series = c.series tf ∧
    b.isDerived = false ∧ withinBound c.bound b.ts = true ∧ periodKey tf b.ts = k := by
  rw [DeriveCall.providerPeriods, mem_map]
  refine exists_congr fun b => ?_
  rw [mem_filter]
  simp only [Bool.and_eq_true, decide_eq_true_eq, Bool.not_eq_true', and_assoc]

/-! ## What a rebuild leaves -/

theorem deletes_iff : c.deletes tf b = true ↔
    b.series = c.series tf ∧ b.isDerived = true ∧ withinBound c.bound b.ts = true := by
  simp only [DeriveCall.deletes, Bool.and_eq_true, decide_eq_true_eq, and_assoc]

theorem mem_rebuild : b ∈ c.rebuild tf d1 bars ↔
    (b ∈ bars ∧ c.deletes tf b = false) ∨ ∃ p ∈ c.payloads tf d1 bars, c.row tf p = b := by
  rw [DeriveCall.rebuild, mem_append, mem_filter, mem_map, Bool.not_eq_true']

theorem filter_rebuild {q : OHLCVBar → Bool} (hrow : ∀ p, q (c.row tf p) = false)
    (hdel : ∀ b, c.deletes tf b = true → q b = false) :
    (c.rebuild tf d1 bars).filter q = bars.filter q := by
  rw [DeriveCall.rebuild, filter_append, filter_filter]
  have hnew : ((c.payloads tf d1 bars).map (c.row tf)).filter q = [] :=
    filter_eq_nil_iff.2 fun b hb => by
      obtain ⟨p, -, rfl⟩ := mem_map.1 hb
      simp [hrow p]
  rw [hnew, append_nil]
  refine filter_congr fun b _ => ?_
  cases hd : c.deletes tf b with
  | true => simp [hdel b hd]
  | false => simp

def DeriveCall.result (c : DeriveCall) (t : MarketTables) : List OHLCVBar :=
  let d1 := d1Bars t c.instrumentId c.adjusted c.bound
  c.rebuild .MN d1 (c.rebuild .W1 d1 t.bars)

theorem bars_deriveTimeframe :
    (c.deriveTimeframe d1 signature factorVersion t tf).bars = c.rebuild tf d1 t.bars := by
  rw [DeriveCall.deriveTimeframe]
  split_ifs
  · rfl
  · rfl

theorem bars_materialize : (c.materializeDerivedTimeframes t).bars = c.result t := by
  rw [DeriveCall.materializeDerivedTimeframes]
  simp only [foldl_cons, foldl_nil, bars_deriveTimeframe]
  rfl

theorem provider_rows_kept : (c.result t).filter (fun b => !b.isDerived) =
    t.bars.filter fun b => !b.isDerived := by
  rw [DeriveCall.result, filter_rebuild (fun _ => rfl), filter_rebuild (fun _ => rfl)]
  · exact fun b hb => by simp [(deletes_iff.1 hb).2.1]
  · exact fun b hb => by simp [(deletes_iff.1 hb).2.1]

def derivedOf (tf : CoarseTimeframe) (bars : List OHLCVBar) : List OHLCVBar :=
  bars.filter fun b => decide (b.timeframe = tf.timeframe) && b.isDerived

theorem mem_derivedOf : b ∈ derivedOf tf bars ↔
    b ∈ bars ∧ b.timeframe = tf.timeframe ∧ b.isDerived = true := by
  rw [derivedOf, mem_filter, Bool.and_eq_true, decide_eq_true_iff]

theorem derivedOf_rebuild_ne (h : tf ≠ tf') :
    derivedOf tf (c.rebuild tf' d1 bars) = derivedOf tf bars := by
  have hne : tf'.timeframe ≠ tf.timeframe := fun heq =>
    h (CoarseTimeframe.timeframe_injective heq.symm)
  refine filter_rebuild (fun p => ?_) fun b hb => ?_
  · rw [show (c.row tf' p).timeframe = tf'.timeframe from rfl, decide_eq_false hne, Bool.false_and]
  · have hseries : b.timeframe = tf'.timeframe :=
      congrArg BarSeries.timeframe (deletes_iff.1 hb).1
    rw [hseries, decide_eq_false hne, Bool.false_and]

theorem providerPeriods_rebuild :
    c.providerPeriods tf (c.rebuild tf' d1 bars) = c.providerPeriods tf bars := by
  rw [DeriveCall.providerPeriods, DeriveCall.providerPeriods]
  refine congrArg _ (filter_rebuild (fun p => ?_) fun b hb => ?_)
  · rw [show (c.row tf' p).isDerived = true from rfl]
    simp
  · rw [(deletes_iff.1 hb).2.1]
    simp

/-! ## One row per period -/

def OHLCVBar.periodIn (tf : CoarseTimeframe) (b : OHLCVBar) : BarSeries × (ℕ × ℤ) :=
  (b.series, periodKey tf b.ts)

/-- **At most one derived row** per instrument, adjustment mode, timeframe and
    calendar period. -/
def OnePerPeriod (bars : List OHLCVBar) : Prop :=
  ∀ tf, ((derivedOf tf bars).map (OHLCVBar.periodIn tf)).Nodup

/-- A derived row that shares its period with a provider row comes before it. -/
def BeforeProviders (bars : List OHLCVBar) : Prop :=
  ∀ tf, ∀ r ∈ derivedOf tf bars, ∀ b ∈ bars, b.isDerived = false →
    b.periodIn tf = r.periodIn tf → r.ts < b.ts

/-- No derived row of the call's series shares a period with a provider row that
    is visible at its bound. -/
def NotBeside (c : DeriveCall) (bars : List OHLCVBar) : Prop :=
  ∀ tf, ∀ r ∈ bars, r.isDerived = true → r.series = c.series tf →
    ∀ b ∈ bars, b.isDerived = false → b.series = c.series tf → withinBound c.bound b.ts = true →
      periodKey tf b.ts ≠ periodKey tf r.ts

/-- No derived row after the bound lies in a period of which the call makes a row:
    one with a D1 bar through the bound and no visible provider row. -/
def DeriveCall.LeavesNoRemnant (c : DeriveCall) (t : MarketTables) : Prop :=
  ∀ tf, ∀ r ∈ t.bars, r.isDerived = true → r.series = c.series tf →
    withinBound c.bound r.ts = false →
    ∀ d ∈ d1Bars t c.instrumentId c.adjusted c.bound, periodKey tf d.ts = periodKey tf r.ts →
      periodKey tf r.ts ∈ c.providerPeriods tf t.bars

theorem derivedOf_rebuild : derivedOf tf (c.rebuild tf d1 bars) =
    (derivedOf tf bars).filter (fun b => !c.deletes tf b) ++
      (c.payloads tf d1 bars).map (c.row tf) := by
  rw [DeriveCall.rebuild, derivedOf, filter_append, filter_filter]
  congr 1
  · rw [derivedOf, filter_filter]
    exact filter_congr fun b _ => Bool.and_comm _ _
  · refine filter_eq_self.2 fun b hb => ?_
    obtain ⟨p, -, rfl⟩ := mem_map.1 hb
    exact Bool.and_eq_true_iff.2 ⟨decide_eq_true rfl, rfl⟩

theorem periodIn_row (hp : p ∈ aggregateD1Bars d1 tf) :
    (c.row tf p).periodIn tf = (c.series tf, p.periodKey) := by
  rw [OHLCVBar.periodIn, show (c.row tf p).ts = p.ts from rfl, periodKey_payload hp]
  rfl

theorem map_periodIn_payloads : ((c.payloads tf d1 bars).map (c.row tf)).map (OHLCVBar.periodIn tf) =
    ((c.payloads tf d1 bars).map DerivedPayload.periodKey).map fun k => (c.series tf, k) := by
  rw [map_map, map_map]
  exact map_congr_left fun p hp => periodIn_row (mem_payloads.1 hp).1

theorem nodup_rebuild_iff (h : ((derivedOf tf bars).map (OHLCVBar.periodIn tf)).Nodup) :
    ((derivedOf tf (c.rebuild tf d1 bars)).map (OHLCVBar.periodIn tf)).Nodup ↔
      ∀ r ∈ bars, r.isDerived = true → r.series = c.series tf → withinBound c.bound r.ts = false →
        ∀ d ∈ d1, periodKey tf d.ts = periodKey tf r.ts →
          periodKey tf r.ts ∈ c.providerPeriods tf bars := by
  have hkept : (((derivedOf tf bars).filter fun b => !c.deletes tf b).map
      (OHLCVBar.periodIn tf)).Nodup := h.sublist (filter_sublist.map _)
  have hnew : (((c.payloads tf d1 bars).map DerivedPayload.periodKey).map
      fun k => (c.series tf, k)).Nodup :=
    (nodup_aggregate.sublist (filter_sublist.map _)).map fun _ _ hkk => (Prod.mk.inj hkk).2
  rw [derivedOf_rebuild, map_append, map_periodIn_payloads, nodup_append]
  constructor
  · rintro ⟨-, -, hdisj⟩ r hr hder hseries hafter d hd hkey
    by_contra hfree
    have hstays : r ∈ (derivedOf tf bars).filter fun b => !c.deletes tf b := by
      refine mem_filter.2 ⟨mem_derivedOf.2 ⟨hr, congrArg BarSeries.timeframe hseries, hder⟩, ?_⟩
      rw [Bool.not_eq_true', ← Bool.not_eq_true]
      exact fun hdel => Bool.noConfusion (hafter.symm.trans (deletes_iff.1 hdel).2.2)
    refine hdisj _ (mem_map_of_mem hstays) _
      (mem_map_of_mem (mem_periods_payloads.2 ⟨⟨d, hd, hkey⟩, hfree⟩)) ?_
    rw [OHLCVBar.periodIn, hseries]
  · intro hclear
    refine ⟨hkept, hnew, fun x hx y hy hxy => ?_⟩
    obtain ⟨r, hr, rfl⟩ := mem_map.1 hx
    obtain ⟨k, hk, rfl⟩ := mem_map.1 hy
    obtain ⟨hseries, rfl⟩ := Prod.mk.inj hxy
    obtain ⟨hr, hstays⟩ := mem_filter.1 hr
    obtain ⟨hmem, -, hder⟩ := mem_derivedOf.1 hr
    obtain ⟨⟨d, hd, hkey⟩, hfree⟩ := mem_periods_payloads.1 hk
    have hafter : withinBound c.bound r.ts = false := by
      by_contra hin
      rw [Bool.not_eq_false] at hin
      rw [deletes_iff.2 ⟨hseries, hder, hin⟩] at hstays
      cases hstays
    exact hfree (hclear r hmem hder hseries hafter d hd hkey)

theorem mem_rebuild_of_ne (h : b.series ≠ c.series tf ∨ b.isDerived = false) :
    b ∈ c.rebuild tf d1 bars ↔ b ∈ bars := by
  rw [mem_rebuild]
  have hdel : c.deletes tf b = false := by
    rw [← Bool.not_eq_true]
    intro hdel
    obtain ⟨hseries, hder, -⟩ := deletes_iff.1 hdel
    rcases h with h | h
    · exact h hseries
    · exact Bool.noConfusion (h.symm.trans hder)
  constructor
  · rintro (⟨hb, -⟩ | ⟨p, -, rfl⟩)
    · exact hb
    · rcases h with h | h
      · exact absurd rfl h
      · cases h
  · exact fun hb => .inl ⟨hb, hdel⟩

theorem derivedOf_result : ∀ tf, derivedOf tf (c.result t) =
    derivedOf tf (c.rebuild tf (d1Bars t c.instrumentId c.adjusted c.bound) t.bars)
  | .W1 => derivedOf_rebuild_ne (by decide)
  | .MN => by
    rw [DeriveCall.result, derivedOf_rebuild, derivedOf_rebuild,
      derivedOf_rebuild_ne (by decide : CoarseTimeframe.MN ≠ .W1)]
    rw [DeriveCall.payloads, DeriveCall.payloads, providerPeriods_rebuild]

/-- **A call keeps one row per period exactly if it leaves no remnant.** -/
theorem onePerPeriod_iff (h : OnePerPeriod t.bars) :
    OnePerPeriod (c.result t) ↔ c.LeavesNoRemnant t := by
  refine forall_congr' fun tf => ?_
  rw [derivedOf_result]
  exact nodup_rebuild_iff (h tf)

/-! ## Provider rows -/

theorem mem_derivedOf_result (hr : r ∈ derivedOf tf (c.result t)) :
    (r ∈ derivedOf tf t.bars ∧ (r.series = c.series tf → withinBound c.bound r.ts = false)) ∨
      ∃ p ∈ c.payloads tf (d1Bars t c.instrumentId c.adjusted c.bound) t.bars, c.row tf p = r := by
  rw [derivedOf_result, derivedOf_rebuild] at hr
  rcases mem_append.1 hr with hr | hr
  · obtain ⟨hmem, hstays⟩ := mem_filter.1 hr
    refine .inl ⟨hmem, fun hseries => ?_⟩
    rw [← Bool.not_eq_true]
    intro hin
    rw [deletes_iff.2 ⟨hseries, (mem_derivedOf.1 hmem).2.2, hin⟩] at hstays
    cases hstays
  · exact .inr (mem_map.1 hr)

theorem provider_mem_result (hb : b.isDerived = false) : b ∈ c.result t ↔ b ∈ t.bars := by
  rw [DeriveCall.result, mem_rebuild_of_ne (.inr hb), mem_rebuild_of_ne (.inr hb)]

theorem withinBound_payload
    (hp : p ∈ c.payloads tf (d1Bars t c.instrumentId c.adjusted c.bound) t.bars) :
    withinBound c.bound p.ts = true := by
  obtain ⟨d, hd, hts, -⟩ := exists_bar_of_payload (mem_payloads.1 hp).1
  have hfilter := of_mem_filter ((mem_sortBy _).1 hd)
  rw [hts]
  exact (Bool.and_eq_true_iff.1 hfilter).2

theorem payload_before_provider
    (hp : p ∈ c.payloads tf (d1Bars t c.instrumentId c.adjusted c.bound) t.bars) (hb : b ∈ t.bars)
    (hprovider : b.isDerived = false) (hseries : b.series = c.series tf)
    (hkey : periodKey tf b.ts = p.periodKey) : withinBound c.bound b.ts = false := by
  rw [← Bool.not_eq_true]
  intro hin
  exact (mem_payloads.1 hp).2 (mem_providerPeriods.2 ⟨b, hb, hseries, hprovider, hin, hkey⟩)

theorem BeforeProviders.call (h : BeforeProviders t.bars) : BeforeProviders (c.result t) := by
  intro tf r hr b hb hprovider hperiod
  rw [provider_mem_result hprovider] at hb
  rcases mem_derivedOf_result hr with ⟨hmem, -⟩ | ⟨p, hp, rfl⟩
  · exact h tf r hmem b hb hprovider hperiod
  · rw [periodIn_row (mem_payloads.1 hp).1] at hperiod
    obtain ⟨hseries, hkey⟩ := Prod.mk.inj hperiod
    have hafter := payload_before_provider hp hb hprovider hseries hkey
    have hin := withinBound_payload hp
    -- the provider row is after the bound, the new row is not
    cases hbound : c.bound with
    | none =>
      rw [hbound] at hafter
      cases hafter
    | some e =>
      rw [hbound, withinBound_some] at hin
      rw [hbound, ← Bool.not_eq_true, withinBound_some, not_le] at hafter
      exact lt_of_le_of_lt hin hafter

/-- **No derived row beside a visible provider row.** -/
theorem notBeside_call (h : BeforeProviders t.bars) : NotBeside c (c.result t) := by
  intro tf r hr hder hseries b hb hprovider hbseries hin hkey
  rw [provider_mem_result hprovider] at hb
  have hrmem : r ∈ derivedOf tf (c.result t) :=
    mem_derivedOf.2 ⟨hr, congrArg BarSeries.timeframe hseries, hder⟩
  rcases mem_derivedOf_result hrmem with ⟨hmem, hafter⟩ | ⟨p, hp, rfl⟩
  · have hlt := h tf r hmem b hb hprovider
      (show (b.series, periodKey tf b.ts) = (r.series, periodKey tf r.ts) by
        rw [hbseries, hseries, hkey])
    have hrafter := hafter hseries
    cases hbound : c.bound with
    | none =>
      rw [hbound] at hrafter
      cases hrafter
    | some e =>
      rw [hbound, withinBound_some] at hin
      rw [hbound, ← Bool.not_eq_true, withinBound_some, not_le] at hrafter
      exact absurd (lt_trans hrafter hlt) (not_lt.2 hin)
  · rw [show (c.row tf p).ts = p.ts from rfl, periodKey_payload (mem_payloads.1 hp).1] at hkey
    have hafter := payload_before_provider hp hb hprovider hbseries hkey
    rw [hin] at hafter
    cases hafter

/-! ## Runs -/

inductive BarCall where
  | insertD1 (bar : OHLCVBar)
  | derive (call : DeriveCall)

/-- One step, where a derivation leaves no remnant. -/
def BarStep (t : MarketTables) (a : BarCall) (t' : MarketTables) : Prop :=
  match a with
  | .insertD1 bar => bar.timeframe = .D1 ∧ t' = { t with bars := t.bars ++ [bar] }
  | .derive call => call.LeavesNoRemnant t ∧ t' = call.materializeDerivedTimeframes t

structure PeriodInvariant (t : MarketTables) : Prop where
  one : OnePerPeriod t.bars
  before : BeforeProviders t.bars

theorem PeriodInvariant.initial (h : ∀ tf, derivedOf tf t.bars = []) : PeriodInvariant t where
  one tf := by
    rw [h tf]
    exact nodup_nil
  before tf r hr := by
    rw [h tf] at hr
    cases hr

theorem PeriodInvariant.insertD1 (h : PeriodInvariant t) (hd : d.timeframe = .D1) :
    PeriodInvariant { t with bars := t.bars ++ [d] } := by
  have hderived : ∀ tf, derivedOf tf (t.bars ++ [d]) = derivedOf tf t.bars := by
    intro tf
    have hne : d.timeframe ≠ tf.timeframe := fun heq => tf.timeframe_ne_D1 (heq.symm.trans hd)
    rw [derivedOf, filter_append, filter_cons_of_neg (by simp [hne]), filter_nil,
      append_nil]
    rfl
  refine ⟨fun tf => ?_, fun tf r hr b hb hprovider hperiod => ?_⟩
  · rw [hderived]
    exact h.one tf
  · rw [hderived] at hr
    rcases mem_append.1 hb with hb | hb
    · exact h.before tf r hr b hb hprovider hperiod
    · rw [mem_singleton.1 hb] at hperiod
      have htf : d.timeframe = r.timeframe :=
        congrArg BarSeries.timeframe (Prod.mk.inj hperiod).1
      exact absurd ((mem_derivedOf.1 hr).2.1.symm.trans (htf.symm.trans hd)) tf.timeframe_ne_D1

theorem PeriodInvariant.step {a : BarCall} (h : PeriodInvariant t) (hs : BarStep t a t') :
    PeriodInvariant t' := by
  cases a with
  | insertD1 bar =>
    obtain ⟨hbar, rfl⟩ := hs
    exact h.insertD1 hbar
  | derive call =>
    obtain ⟨hclear, rfl⟩ := hs
    constructor
    · rw [bars_materialize]
      exact (onePerPeriod_iff h.one).2 hclear
    · rw [bars_materialize]
      exact h.before.call

/-- **One derived bar per period.**  In a run whose derivations leave no remnants,
    from bars of which nothing was derived yet, the next derivation keeps one
    derived row per period exactly if it leaves no remnant; no derived row of its
    series then shares a period with a provider row that is visible at its bound,
    and provider rows are what they were. -/
theorem one_derived_bar_per_period {t₀ : MarketTables} {as : List BarCall}
    (h : Run BarStep t₀ as t) (h₀ : ∀ tf, derivedOf tf t₀.bars = []) (c : DeriveCall) :
    OnePerPeriod t.bars ∧
      (OnePerPeriod (c.materializeDerivedTimeframes t).bars ↔ c.LeavesNoRemnant t) ∧
      NotBeside c (c.materializeDerivedTimeframes t).bars ∧
      (c.materializeDerivedTimeframes t).bars.filter (fun b => !b.isDerived) =
        t.bars.filter fun b => !b.isDerived := by
  have hinv : PeriodInvariant t :=
    h.invariant (fun hinv hstep => hinv.step hstep) (PeriodInvariant.initial h₀)
  rw [bars_materialize]
  exact ⟨hinv.one, onePerPeriod_iff hinv.one, notBeside_call hinv.before, provider_rows_kept⟩

end

/-! ## A week that is back-filled -/

def january (day : ℕ) : Instant :=
  Fin.ofNat instantLimit ((ymd2ord ⟨2025, 1, day⟩ - 1) * 86400000000)

def dailyBar (day : ℕ) (close : ℚ) : OHLCVBar where
  instrumentId := 1
  dataSourceId := some 1
  marketSeriesId := none
  timeframe := .D1
  ts := january day
  open_ := close
  high := close
  low := close
  close := close
  volume := none
  vwap := none
  isAdjusted := true
  isDerived := false

def fullDerivation : DeriveCall := { instrumentId := 1, now := january 20 }

def boundedDerivation : DeriveCall :=
  { instrumentId := 1, bound := some (january 7), now := january 20 }

/-- The weekly bar was derived from the Wednesday; then the Monday came in. -/
def backfilled : MarketTables :=
  let wednesday := fullDerivation.materializeDerivedTimeframes { bars := [dailyBar 8 10] }
  { wednesday with bars := wednesday.bars ++ [dailyBar 6 9] }

theorem one_derived_bar_wednesday : OnePerPeriod
    (fullDerivation.materializeDerivedTimeframes { bars := [dailyBar 8 10] }).bars := by
  have h₀ : ∀ tf, derivedOf tf ({ bars := [dailyBar 8 10] } : MarketTables).bars = [] := by
    rintro (_ | _)
    · rfl
    · rfl
  refine (one_derived_bar_per_period .nil h₀ fullDerivation).2.1.2 ?_
  intro tf r hr hder
  rw [mem_singleton.1 hr] at hder
  cases hder

/-- **Two weekly bars of one week**: the row of the Wednesday is after the bound,
    so the derivation through the Tuesday leaves it and adds one of the Monday. -/
theorem two_bars_of_one_week :
    Run BarStep { bars := [dailyBar 8 10] } [.derive fullDerivation, .insertD1 (dailyBar 6 9)]
        backfilled ∧
      (derivedOf .W1 (boundedDerivation.materializeDerivedTimeframes backfilled).bars).map
          (fun b => (b.ts, periodKey .W1 b.ts)) =
        [(january 8, (2025, 2)), (january 6, (2025, 2))] ∧
      ¬ OnePerPeriod (boundedDerivation.materializeDerivedTimeframes backfilled).bars := by
  refine ⟨?_, by decide +kernel, fun h => absurd (h .W1) (by decide +kernel)⟩
  refine Run.snoc (Run.snoc .nil (show BarStep _ (.derive fullDerivation) _ from ⟨?_, rfl⟩))
    ⟨rfl, rfl⟩
  intro tf r hr hder
  rw [mem_singleton.1 hr] at hder
  cases hder

end ChartingPlatform
