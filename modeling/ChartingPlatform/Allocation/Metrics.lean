/-
  The metrics of a decision and its breaches: the limits are checked on the shares in the
  order of the dictionary, and the metrics are reported in the order of the keys.
-/
import ChartingPlatform.Allocation.Decisions

namespace ChartingPlatform

open Lib List

/-! ## Shares of the equity -/

def positionShare (snapshot : PortfolioExposureSnapshot) (p : ComponentPositionExposure) :
    Exposure :=
  (p.key, decimalMath.value (p.signedBaseRiskExposure / snapshot.accountEquity))

def heldShares (snapshot : PortfolioExposureSnapshot) : List Exposure :=
  (snapshot.positions.map (positionShare snapshot)).filter fun e => e.2 ≠ 0

def targetShare (portfolio : PortfolioComposition) (r : ComponentTargetRequest) : Exposure :=
  (r.key, decimalMath.value
    (portfolio.capitalWeight r.componentId * r.targetFractionOfComponentBudget))

def targetShares (portfolio : PortfolioComposition) (requests : List ComponentTargetRequest) :
    List Exposure :=
  (selectedRequests portfolio requests).map (targetShare portfolio)

/-- What is held, with the targets in the places of what they replace, and then the targets
under new keys. -/
def sharesAfter (portfolio : PortfolioComposition) (snapshot : PortfolioExposureSnapshot)
    (requests : List ComponentTargetRequest) : List Exposure :=
  (heldShares snapshot).map (fun e =>
      (rowWith Prod.fst e.1 (targetShares portfolio requests)).getD e) ++
    (targetShares portfolio requests).filter fun e => e.1 ∉ (heldShares snapshot).map Prod.fst

def grossOf (es : List Exposure) : ℚ := decimalMath.sum (es.map fun e => |e.2|)

/-- A limit on the gross share of an instrument, or of a component, is passed in the order of a
list exactly when it is in the order of the keys. -/
def SameSide (limit : ℚ) (part : TargetKey → String) (es : List Exposure) : Prop :=
  (∃ k, limit < grossOf (es.filter fun e => part e.1 = k)) ↔
    ∃ k, limit < grossOf ((sortBy (fun e => keyOrder e.1) es).filter fun e => part e.1 = k)

/-- The shares of one instrument, or of one component, are on one side of a limit whatever the
order they are added in: they are held in the order of their keys; or they are whole numbers of
one decimal unit that fill no more than 34 digits; or their exact total is farther from the limit
than the additions can lose. -/
def OrderFree (limit : ℚ) (es : List Exposure) : Prop :=
  es.Pairwise (fun a b => keyOrder a.1 < keyOrder b.1) ∨
    ∃ unit : ℤ, decimalMath.least ≤ unit ∧
      ((∃ digits : Exposure → ℤ, (∀ e ∈ es, 0 ≤ digits e ∧ |e.2| = digits e * 10 ^ unit) ∧
          (es.map digits).sum < 10 ^ 34) ∨
        limit < 10 ^ (unit + 34) ∧
          es.length * 10 ^ unit < 2 * |(es.map fun e => |e.2|).sum - limit|)

/-- A breach is listed exactly when the metric that is reported exceeds its limit. -/
structure MetricsAgree (policy : SharedRiskPolicy) (d : AllocationDecision) : Prop where
  gross : .grossExposure ∈ d.riskBreaches ↔
    policy.maxGrossExposureFraction < d.grossExposureFraction
  net : .netExposure ∈ d.riskBreaches ↔
    policy.maxNetExposureFraction < |d.netExposureFraction|
  instrument : .instrumentConcentration ∈ d.riskBreaches ↔
    policy.maxInstrumentGrossExposureFraction < d.maxInstrumentGrossExposureFraction
  component : .componentConcentration ∈ d.riskBreaches ↔
    policy.maxComponentGrossExposureFraction < d.maxComponentGrossExposureFraction

section
variable {arith : Arithmetic} {portfolio : PortfolioComposition}
  {snapshot : PortfolioExposureSnapshot} {rs : List ComponentTargetRequest}
  {current resolved es : List Exposure} {totals : ReportedTotals} {held : GrossExposures}
  {d : AllocationDecision} {e : Exposure} {limit : ℚ} {part : TargetKey → String}
  {digits : Exposure → ℤ}

/-! ## The exposures of the decision -/

theorem current_eq_heldShares
    (h : currentExposures decimalMath.round portfolio snapshot = .ok current) :
    current = heldShares snapshot := by
  obtain ⟨os, hos, rfl⟩ := currentExposures_eq_ok h
  clear h
  unfold heldShares positionShare
  generalize snapshot.positions = ps at hos
  induction ps generalizing os with
  | nil =>
    rw [map_nil, eq_comm, map_eq_nil_iff] at hos
    rw [hos]
    rfl
  | cons p ps ih =>
    cases os with
    | nil => cases hos
    | cons o os =>
      rw [map_cons, map_cons, List.cons.injEq] at hos
      obtain ⟨-, f, hf, rfl⟩ := currentExposure_eq_ok hos.1
      obtain ⟨-, rfl⟩ := DecimalContext.round_eq_ok.1 hf
      rw [map_cons]
      split_ifs with hzero
      · rw [reduceOption_cons_of_none, filter_cons_of_neg (by simpa using hzero),
          ih os hos.2]
      · rw [reduceOption_cons_of_some, filter_cons_of_pos (by simpa using hzero),
          ih os hos.2]

theorem targets_eq_targetShares (h : rs.map (target decimalMath.round portfolio) = es.map .ok) :
    es = rs.map (targetShare portfolio) := by
  rw [← map_id es]
  refine map_of_map_ok h fun r _ e he => ?_
  obtain ⟨hkey, hf⟩ := target_eq_ok.1 he
  exact Prod.ext hkey (DecimalContext.round_eq_ok.1 hf).2.symm

theorem DecidedBy.resolved_eq_sharesAfter
    (h : DecidedBy decimalMath.round portfolio snapshot rs current resolved totals d) :
    resolved = sharesAfter portfolio snapshot rs := by
  obtain ⟨es, hes, hfold⟩ := placeTargets_eq_ok.1 h.resolved_eq
  have hn : (es.map Prod.fst).Nodup := map_fst_targets hes ▸ nodup_selectedKeys h.admissible
  rw [hfold, foldl_upsert_eq hn, targets_eq_targetShares hes, current_eq_heldShares h.current_eq]
  unfold sharesAfter targetShares
  exact congrArg₂ (· ++ ·) rfl (filter_congr fun _ _ => decide_eq_decide.2 Iff.rfl)

theorem value_share (he : e ∈ sharesAfter portfolio snapshot rs) :
    decimalMath.value e.2 = e.2 := by
  have htarget : ∀ x ∈ targetShares portfolio rs, decimalMath.value x.2 = x.2 := by
    intro x hx
    obtain ⟨r, -, rfl⟩ := mem_map.1 hx
    exact DecimalContext.value_value
  rcases mem_append.1 he with he | he
  · obtain ⟨x, hx, rfl⟩ := mem_map.1 he
    cases hrow : rowWith Prod.fst x.1 (targetShares portfolio rs) with
    | none =>
      obtain ⟨p, -, rfl⟩ := mem_map.1 (mem_of_mem_filter hx)
      exact DecimalContext.value_value
    | some y => exact htarget y (mem_of_rowWith hrow).1
  · exact htarget e (mem_of_mem_filter he)

/-! ## Totals -/

theorem foldlM_addHeld (h : es.foldlM (addHeld arith) {} = .ok held) :
    Totals arith (magnitude arith) (fun e => e.1.2) (es.filter fun e => e.2 ≠ 0)
        held.instruments ∧
      Totals arith (magnitude arith) (fun e => e.1.1) (es.filter fun e => e.2 ≠ 0)
        held.components := by
  induction es using List.reverseRecOn generalizing held with
  | nil =>
    cases h
    exact ⟨.nil, .nil⟩
  | append_singleton es e ih =>
    obtain ⟨before, hbefore, hadd⟩ := foldlM_concat_eq_ok.1 h
    obtain ⟨hinstruments, hcomponents⟩ := ih hbefore
    rw [filter_append]
    unfold addHeld at hadd
    split_ifs at hadd with hzero
    · cases hadd
      rw [filter_cons_of_neg (by simpa using hzero), filter_nil, append_nil]
      exact ⟨hinstruments, hcomponents⟩
    · simp only [bind_eq_ok, pure_eq_ok, Except.ok.injEq] at hadd
      obtain ⟨x, hx, is, his, cs, hcs, rfl⟩ := hadd
      rw [filter_cons_of_pos (by simpa using hzero), filter_nil]
      exact ⟨hinstruments.add hx his, hcomponents.add hx hcs⟩

theorem foldlM_addReported (h : es.foldlM (addReported arith) {} = .ok totals) :
    Totals arith (magnitude arith) (fun e => e.1.2) es totals.instruments ∧
      Totals arith (magnitude arith) (fun e => e.1.1) es totals.components := by
  induction es using List.reverseRecOn generalizing totals with
  | nil =>
    cases h
    exact ⟨.nil, .nil⟩
  | append_singleton es e ih =>
    obtain ⟨before, hbefore, hadd⟩ := foldlM_concat_eq_ok.1 h
    obtain ⟨hinstruments, hcomponents⟩ := ih hbefore
    unfold addReported at hadd
    simp only [bind_eq_ok, pure_eq_ok, Except.ok.injEq] at hadd
    obtain ⟨-, -, x, hx, is, his, cs, hcs, rfl⟩ := hadd
    exact ⟨hinstruments.add hx his, hcomponents.add hx hcs⟩

theorem lt_maxTotal_iff {totals : List (String × ℚ)} (hlimit : 0 ≤ limit) :
    limit < maxTotal totals ↔ ∃ e ∈ totals, limit < e.2 := by
  unfold maxTotal
  cases hmax : (totals.map Prod.snd).max? with
  | none =>
    rw [max?_eq_none_iff, map_eq_nil_iff] at hmax
    rw [hmax]
    simpa using hlimit
  | some m =>
    obtain ⟨hmem, hle⟩ := max?_eq_some_iff.1 hmax
    constructor
    · intro hlt
      obtain ⟨e, he, rfl⟩ := mem_map.1 hmem
      exact ⟨e, he, hlt⟩
    · rintro ⟨e, he, hlt⟩
      exact hlt.trans_le (hle _ (mem_map_of_mem he))

theorem grossOf_filter : grossOf (es.filter fun e => e.2 ≠ 0) = grossOf es := by
  unfold grossOf DecimalContext.sum
  have hzero : decimalMath.sumFrom 0 ((es.map fun e => |e.2|).filter fun x => x ≠ 0) =
      decimalMath.sumFrom 0 (es.map fun e => |e.2|) :=
    DecimalContext.sumFrom_filter DecimalContext.value_zero
  rw [← hzero, filter_map]
  refine congrArg (fun l => decimalMath.sumFrom 0 (List.map (fun e : Exposure => |e.2|) l)) ?_
  exact filter_congr fun e _ => decide_eq_decide.2 (by simp)

theorem totalOf_eq_grossOf {totals : List (String × ℚ)}
    (h : Totals decimalMath.round (magnitude decimalMath.round) (fun e : Exposure => part e.1) es
      totals) (hes : ∀ e ∈ es, decimalMath.value e.2 = e.2) (k : String) :
    totalOf totals k = grossOf (es.filter fun e => part e.1 = k) := by
  refine DecimalContext.eq_sumFrom (fun e he x hx => ?_) (h.total k)
  unfold magnitude at hx
  obtain ⟨-, rfl⟩ := DecimalContext.round_eq_ok.1 hx
  have hvalue := hes e (mem_of_mem_filter he)
  rcases abs_choice e.2 with habs | habs
  · rw [habs, hvalue]
  · rw [habs, DecimalContext.value_neg, hvalue]

/-! ## Breaches -/

theorem riskBreaches_eq_ok {bs : List RiskBreach}
    (h : riskBreaches arith portfolio es = .ok bs) :
    ∃ gross net netMagnitude held, totalFrom arith (magnitude arith) 0 es = .ok gross ∧
      totalFrom arith (fun e => .ok e.2) 0 es = .ok net ∧ arith |net| = .ok netMagnitude ∧
      es.foldlM (addHeld arith) {} = .ok held ∧
      (.grossExposure ∈ bs ↔ portfolio.sharedRiskPolicy.maxGrossExposureFraction < gross) ∧
      (.netExposure ∈ bs ↔ portfolio.sharedRiskPolicy.maxNetExposureFraction < netMagnitude) ∧
      (.instrumentConcentration ∈ bs ↔ ∃ t ∈ held.instruments,
        portfolio.sharedRiskPolicy.maxInstrumentGrossExposureFraction < t.2) ∧
      (.componentConcentration ∈ bs ↔ ∃ t ∈ held.components,
        portfolio.sharedRiskPolicy.maxComponentGrossExposureFraction < t.2) := by
  unfold riskBreaches at h
  simp only [bind_eq_ok, pure_eq_ok, Except.ok.injEq] at h
  obtain ⟨gross, hgross, net, hnet, held, hheld, netMagnitude, hmagnitude, leveraged, -, rfl⟩ := h
  refine ⟨gross, net, netMagnitude, held, hgross, hnet, hmagnitude, hheld, ?_, ?_, ?_, ?_⟩ <;>
    simp [mem_ite_nil_right]

theorem exceeds_iff {totals : List (String × ℚ)}
    (h : Totals decimalMath.round (magnitude decimalMath.round) (fun e : Exposure => part e.1) es
      totals) (hes : ∀ e ∈ es, decimalMath.value e.2 = e.2) (hlimit : 0 ≤ limit) :
    (∃ t ∈ totals, limit < t.2) ↔ ∃ k, limit < grossOf (es.filter fun e => part e.1 = k) := by
  rw [h.exists_lt_iff hlimit]
  exact exists_congr fun k => by rw [totalOf_eq_grossOf h hes k]

theorem grossOf_filter_part (k : String) {q : Exposure → Bool}
    (hq : ∀ e ∈ es, e.2 ≠ 0 → q e = true) :
    grossOf ((es.filter q).filter fun e => part e.1 = k) =
      grossOf (es.filter fun e => part e.1 = k) := by
  have hdrop : ∀ l : List Exposure, (∀ e ∈ l, e.2 ≠ 0 → q e = true) →
      (l.filter q).filter (fun e => e.2 ≠ 0) = l.filter fun e => e.2 ≠ 0 := by
    intro l hl
    rw [filter_filter]
    refine filter_congr fun e he => ?_
    by_cases hzero : e.2 = 0
    · simp [hzero]
    · simp [hl e he hzero]
  rw [filter_comm, ← grossOf_filter, hdrop _ fun e he => hq e (mem_of_mem_filter he),
    grossOf_filter]

namespace DecidedBy

variable (h : DecidedBy decimalMath.round portfolio snapshot rs current resolved totals d)

include h

theorem value_resolved (he : e ∈ resolved) : decimalMath.value e.2 = e.2 := by
  rw [h.resolved_eq_sharesAfter] at he
  exact value_share he

/-- **The metrics agree** with the breaches exactly when the two orders do. -/
theorem metricsAgree_iff : MetricsAgree portfolio.sharedRiskPolicy d ↔
    SameSide portfolio.sharedRiskPolicy.maxInstrumentGrossExposureFraction Prod.snd
        (sharesAfter portfolio snapshot rs) ∧
      SameSide portfolio.sharedRiskPolicy.maxComponentGrossExposureFraction Prod.fst
        (sharesAfter portfolio snapshot rs) := by
  obtain ⟨gross, net, netMagnitude, held, hgross, hnet, hmagnitude, hheld, hgrossMem, hnetMem,
    hinstrumentMem, hcomponentMem⟩ := riskBreaches_eq_ok h.breaches_eq
  -- the gross and net exposures are added twice in one order
  rw [h.gross_eq, Except.ok.injEq] at hgross
  rw [h.net_eq, Except.ok.injEq] at hnet
  subst hgross hnet
  have hnetMagnitude : netMagnitude = |d.netExposureFraction| := by
    obtain ⟨-, rfl⟩ := DecimalContext.round_eq_ok.1 hmagnitude
    have hvalue := DecimalContext.value_of_totalFrom DecimalContext.value_zero h.net_eq
    rcases abs_choice d.netExposureFraction with habs | habs
    · rw [habs, hvalue]
    · rw [habs, DecimalContext.value_neg, hvalue]
  subst hnetMagnitude
  obtain ⟨hinstruments, hcomponents⟩ := foldlM_addHeld hheld
  obtain ⟨hinstruments', hcomponents'⟩ := foldlM_addReported h.totals_eq
  have hresolved : ∀ e ∈ resolved.filter fun e => e.2 ≠ 0, decimalMath.value e.2 = e.2 :=
    fun e he => h.value_resolved (mem_of_mem_filter he)
  have hproposed : ∀ e ∈ proposedExposures resolved ((selectedRequests portfolio rs).map
      ComponentTargetRequest.key), decimalMath.value e.2 = e.2 := by
    intro e he
    exact h.value_resolved ((mem_sortBy _).1 (mem_of_mem_filter he))
  have hside : ∀ {limit : ℚ} {part : TargetKey → String} {breach : RiskBreach}
      {ts ts' : List (String × ℚ)}, 0 < limit →
      Totals decimalMath.round (magnitude decimalMath.round) (fun e : Exposure => part e.1)
        (resolved.filter fun e => e.2 ≠ 0) ts →
      Totals decimalMath.round (magnitude decimalMath.round) (fun e : Exposure => part e.1)
        (proposedExposures resolved ((selectedRequests portfolio rs).map
          ComponentTargetRequest.key)) ts' →
      (breach ∈ d.riskBreaches ↔ ∃ t ∈ ts, limit < t.2) →
      ((breach ∈ d.riskBreaches ↔ limit < maxTotal ts') ↔
        SameSide limit part (sharesAfter portfolio snapshot rs)) := by
    intro limit part breach ts ts' hlimit hts hts' hmem
    rw [hmem, lt_maxTotal_iff hlimit.le, exceeds_iff hts hresolved hlimit.le,
      exceeds_iff hts' hproposed hlimit.le]
    unfold SameSide proposedExposures
    rw [← h.resolved_eq_sharesAfter]
    refine iff_congr (exists_congr fun k => ?_) (exists_congr fun k => ?_)
    · rw [grossOf_filter_part k fun e _ hne => by simpa using hne]
    · rw [grossOf_filter_part k fun e _ hne => by simpa using .inl hne]
  have hinstrument := hside portfolio.sharedRiskPolicy.instrument_pos hinstruments hinstruments'
    hinstrumentMem
  have hcomponent := hside portfolio.sharedRiskPolicy.component_pos hcomponents hcomponents'
    hcomponentMem
  rw [← h.maxInstrument_eq] at hinstrument
  rw [← h.maxComponent_eq] at hcomponent
  rw [← hinstrument, ← hcomponent]
  exact ⟨fun hagree => ⟨hagree.instrument, hagree.component⟩,
    fun hagree => ⟨hgrossMem, hnetMem, hagree.1, hagree.2⟩⟩

end DecidedBy

/-! ## When the orders agree -/

theorem grossOf_of_short {unit : ℤ} (hunit : decimalMath.least ≤ unit)
    (hdigits : ∀ e ∈ es, 0 ≤ digits e ∧ |e.2| = digits e * 10 ^ unit)
    (hshort : (es.map digits).sum < 10 ^ 34) :
    grossOf es = ((es.map digits).sum : ℤ) * 10 ^ unit := by
  have hmap : es.map (fun e => |e.2|) =
      (es.map digits).map fun n : ℤ => (n : ℚ) * 10 ^ unit := by
    rw [map_map]
    exact map_congr_left fun e he => (hdigits e he).2
  have hnonneg : ∀ n ∈ es.map digits, 0 ≤ n := by
    intro n hn
    obtain ⟨e, he, rfl⟩ := mem_map.1 hn
    exact (hdigits e he).1
  have hsum := DecimalContext.sumFrom_of_short (c := decimalMath) (m := 0) le_rfl hnonneg
    (by rwa [zero_add]) hunit
  unfold grossOf DecimalContext.sum
  rw [hmap]
  simpa using hsum

/-- **A total that is far from the limit** is rounded to its own side of it. -/
theorem lt_grossOf_iff {unit : ℤ} (hunit : decimalMath.least ≤ unit)
    (hlimit : limit < 10 ^ (unit + 34))
    (hfar : es.length * 10 ^ unit < 2 * |(es.map fun e => |e.2|).sum - limit|) :
    limit < grossOf es ↔ limit < (es.map fun e => |e.2|).sum := by
  have hnonneg : ∀ x ∈ es.map fun e => |e.2|, 0 ≤ x := by
    intro x hx
    obtain ⟨e, -, rfl⟩ := mem_map.1 hx
    exact abs_nonneg e.2
  unfold grossOf DecimalContext.sum
  rcases lt_or_ge limit (es.map fun e => |e.2|).sum with habove | hbelow
  · rw [abs_of_pos (sub_pos.2 habove)] at hfar
    refine iff_of_true (lt_of_not_ge fun hle => ?_) habove
    have herror := DecimalContext.sum_le_of_sumFrom_le hunit hlimit le_rfl hnonneg hle
    rw [length_map] at herror
    linarith
  · rw [abs_of_nonpos (sub_nonpos.2 hbelow)] at hfar
    refine iff_of_false (not_lt_of_ge ?_) (not_lt_of_ge hbelow)
    refine DecimalContext.sumFrom_le hunit hlimit le_rfl hnonneg ?_
    rw [length_map]
    linarith

/-- **Order-free shares** pass the limit in both orders or in none. -/
theorem OrderFree.exceeds_iff (h : OrderFree limit es) :
    limit < grossOf (sortBy (fun e => keyOrder e.1) es) ↔ limit < grossOf es := by
  have hperm := perm_sortBy (fun e : Exposure => keyOrder e.1) es
  rcases h with hsorted | ⟨unit, hunit, ⟨digits, hdigits, hshort⟩ | ⟨hlimit, hfar⟩⟩
  · rw [sortBy_of_pairwise hsorted]
  · have hsum := (hperm.map digits).sum_eq
    rw [grossOf_of_short hunit hdigits hshort,
      grossOf_of_short hunit (fun e he => hdigits e (hperm.mem_iff.1 he)) (hsum ▸ hshort), hsum]
  · have hsum := (hperm.map fun e => |e.2|).sum_eq
    rw [lt_grossOf_iff hunit hlimit hfar,
      lt_grossOf_iff hunit hlimit (by rwa [hsum, hperm.length_eq]), hsum]

theorem OrderFree.filter_of_short {unit : ℤ} (hunit : decimalMath.least ≤ unit)
    (hdigits : ∀ e ∈ es, 0 ≤ digits e ∧ |e.2| = digits e * 10 ^ unit)
    (hshort : (es.map digits).sum < 10 ^ 34) (p : Exposure → Bool) :
    OrderFree limit (es.filter p) := by
  have hsub : ((es.filter p).map digits).sum ≤ (es.map digits).sum := by
    refine (filter_sublist.map digits).sum_le_sum fun n hn => ?_
    obtain ⟨e, he, rfl⟩ := mem_map.1 hn
    exact (hdigits e he).1
  exact .inr ⟨unit, hunit, .inl ⟨digits, fun e he => hdigits e (mem_of_mem_filter he),
    hsub.trans_lt hshort⟩⟩

theorem sameSide_of_orderFree (h : ∀ k, OrderFree limit (es.filter fun e => part e.1 = k)) :
    SameSide limit part es := by
  unfold SameSide
  refine exists_congr fun k => ?_
  rw [filter_sortBy]
  exact (h k).exceeds_iff.symm

end

/-! ## The metrics -/

/-- **Metrics.**  The breaches of a decision agree with its metrics where the shares of every
instrument and of every component are order-free. -/
theorem allocation_metrics (enc : AccountEncoding) (portfolio : PortfolioComposition)
    (snapshot : PortfolioExposureSnapshot) (rs : List ComponentTargetRequest)
    (d : AllocationDecision)
    (h : allocateComponentTargets enc decimalMath.round portfolio snapshot rs = .ok d)
    (hinstrument : ∀ instrument, OrderFree
      portfolio.sharedRiskPolicy.maxInstrumentGrossExposureFraction
      ((sharesAfter portfolio snapshot rs).filter fun e => e.1.2 = instrument))
    (hcomponent : ∀ component, OrderFree
      portfolio.sharedRiskPolicy.maxComponentGrossExposureFraction
      ((sharesAfter portfolio snapshot rs).filter fun e => e.1.1 = component)) :
    MetricsAgree portfolio.sharedRiskPolicy d := by
  obtain ⟨_, _, _, hdecided⟩ := allocateComponentTargets_eq_ok h
  exact hdecided.metricsAgree_iff.2
    ⟨sameSide_of_orderFree hinstrument, sameSide_of_orderFree hcomponent⟩

/-- Three quarters of the account in one stock. -/
def quarterSnapshot : PortfolioExposureSnapshot :=
  stockSnapshot [stockPosition "b" (1 / 4), stockPosition "c" (1 / 2)]

/-- A new target whose key comes before those that are held. -/
theorem allocation_metrics_stock :
    sharesAfter stockPortfolio quarterSnapshot [stockRequest "a" 1] =
      [(("b", "AAPL"), 1 / 4), (("c", "AAPL"), 1 / 2), (("a", "AAPL"), 1 / 10)] ∧
    ∃ d, allocateComponentTargets sampleEncoding decimalMath.round stockPortfolio quarterSnapshot
        [stockRequest "a" 1] = .ok d ∧
      MetricsAgree stockPortfolio.sharedRiskPolicy d := by
  have hshares : sharesAfter stockPortfolio quarterSnapshot [stockRequest "a" 1] =
      [(("b", "AAPL"), 1 / 4), (("c", "AAPL"), 1 / 2), (("a", "AAPL"), 1 / 10)] := by
    decide +kernel
  have hfree : ∀ (limit : ℚ) (p : Exposure → Bool), OrderFree limit
      ((sharesAfter stockPortfolio quarterSnapshot [stockRequest "a" 1]).filter p) := by
    intro limit p
    rw [hshares]
    have hcents : ∀ e ∈ [(("b", "AAPL"), (1 / 4 : ℚ)), (("c", "AAPL"), 1 / 2),
        (("a", "AAPL"), 1 / 10)], 0 ≤ ⌊e.2 * 100⌋ ∧ |e.2| = ⌊e.2 * 100⌋ * 10 ^ (-2 : ℤ) := by
      simp only [forall_mem_cons]
      norm_num [abs_of_pos]
    exact OrderFree.filter_of_short (by decide) hcents (by norm_num) p
  have hok : (allocateComponentTargets sampleEncoding decimalMath.round stockPortfolio
      quarterSnapshot [stockRequest "a" 1]).isOk = true := by
    decide +kernel
  obtain ⟨d, hd⟩ := isOk_iff.1 hok
  exact ⟨hshares, d, hd,
    allocation_metrics _ _ _ _ d hd (fun _ => hfree _ _) fun _ => hfree _ _⟩

/-- Two positions of one stock, the second as large as the whole account. -/
def heldSnapshot : PortfolioExposureSnapshot :=
  stockSnapshot [stockPosition "b" (4 / 10 ^ 34), stockPosition "c" 1]

def smallRequest : ComponentTargetRequest := stockRequest "a" (4 / 10 ^ 33)

/-- A decision that is approved and reports more than the limit of an instrument. -/
theorem approved_over_the_limit :
    ∃ d, allocateComponentTargets sampleEncoding decimalMath.round stockPortfolio heldSnapshot
        [smallRequest] = .ok d ∧
      d.riskBreaches = [] ∧ d.maxInstrumentGrossExposureFraction = 1 + 1 / 10 ^ 33 ∧
      ¬ MetricsAgree stockPortfolio.sharedRiskPolicy d := by
  have heval : (allocateComponentTargets sampleEncoding decimalMath.round stockPortfolio
      heldSnapshot [smallRequest]).toOption.map (fun d =>
        (d.riskBreaches, d.maxInstrumentGrossExposureFraction)) =
      some ([], 1 + 1 / 10 ^ 33) := by
    decide +kernel
  obtain ⟨d, hd, heq⟩ := toOption_map_eq_some.1 heval
  obtain ⟨hbreaches, hmetric⟩ := Prod.mk.inj heq
  refine ⟨d, hd, hbreaches, hmetric, fun hagree => ?_⟩
  have hlisted := hagree.instrument.2 (by
    rw [hmetric]
    change (1 : ℚ) < _
    norm_num)
  rw [hbreaches] at hlisted
  cases hlisted

end ChartingPlatform
