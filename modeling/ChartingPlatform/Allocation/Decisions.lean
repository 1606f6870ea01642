/-
  What a decision says: every request is selected or rejected, exactly once, and every
  position keeps its share unless a selected request has its key.
-/
import ChartingPlatform.Account.Conservation
import ChartingPlatform.Allocation.Order
import ChartingPlatform.Forward.AdmissionRuns

namespace ChartingPlatform

open Lib List

/-! ## The parts of a decision -/

/-- The parts of a decision: the exposures after the targets are placed, and the totals that
are reported. -/
structure DecidedBy (arith : Arithmetic) (portfolio : PortfolioComposition)
    (snapshot : PortfolioExposureSnapshot) (requests : List ComponentTargetRequest)
    (current resolved : List Exposure) (totals : ReportedTotals) (d : AllocationDecision) :
    Prop where
  current_eq : currentExposures arith portfolio snapshot = .ok current
  admissible : Admissible portfolio requests
  resolved_eq : (selectedRequests portfolio requests).foldlM (placeTarget arith portfolio) current =
    .ok resolved
  breaches_eq : riskBreaches arith portfolio resolved = .ok d.riskBreaches
  totals_eq : (proposedExposures resolved ((selectedRequests portfolio requests).map
    ComponentTargetRequest.key)).foldlM (addReported arith) {} = .ok totals
  targets_eq : collect (((sortBy Prod.fst totals.fractions).filter fun f =>
    0 < totalOf totals.instruments f.1 ∨
      f.1 ∈ (selectedRequests portfolio requests).map ComponentTargetRequest.instrumentId).map
        (instrumentTarget arith snapshot.accountEquity)) = .ok d.proposedInstrumentTargets
  gross_eq : totalFrom arith (magnitude arith) 0 resolved = .ok d.grossExposureFraction
  net_eq : totalFrom arith (fun e => .ok e.2) 0 resolved = .ok d.netExposureFraction
  proposed_eq : d.proposedComponentExposures = (proposedExposures resolved
    ((selectedRequests portfolio requests).map ComponentTargetRequest.key)).map
      fun e => ⟨e.1.1, e.1.2, e.2⟩
  approved_eq : d.riskApprovedInstrumentTargets =
    if d.riskBreaches = [] then d.proposedInstrumentTargets else []
  rejected_perm : d.rejectedTargets ~ rejections portfolio requests
  satisfied_eq : d.riskLimitsSatisfied = decide (d.riskBreaches = [])
  maxInstrument_eq : d.maxInstrumentGrossExposureFraction = maxTotal totals.instruments
  maxComponent_eq : d.maxComponentGrossExposureFraction = maxTotal totals.components

section
variable {enc : AccountEncoding} {arith : Arithmetic} {portfolio : PortfolioComposition}
  {snapshot : PortfolioExposureSnapshot} {rs : List ComponentTargetRequest}
  {r : ComponentTargetRequest} {current resolved : List Exposure} {totals : ReportedTotals}
  {d : AllocationDecision} {p : ComponentPositionExposure} {e : Exposure}

theorem allocateComponentTargets_eq_ok
    (h : allocateComponentTargets enc arith portfolio snapshot rs = .ok d) :
    ∃ current resolved totals, DecidedBy arith portfolio snapshot rs current resolved totals d := by
  unfold allocateComponentTargets at h
  simp only [bind_eq_ok, requestsByInstrument_eq_ok] at h
  obtain ⟨-, -, -, -, current, hcurrent, -, -, _, ⟨hadmissible, rfl⟩, -, -, h⟩ := h
  rw [(outcomes_eq hadmissible).1, (outcomes_eq hadmissible).2] at h
  unfold decideAllocation at h
  simp only [bind_eq_ok, pure_eq_ok, Except.ok.injEq] at h
  obtain ⟨resolved, hresolved, breaches, hbreaches, totals, htotals, targets, htargets, gross,
    hgross, net, hnet, rfl⟩ := h
  exact ⟨current, resolved, totals, hcurrent, hadmissible, hresolved, hbreaches, htotals, htargets,
    hgross, hnet, rfl, rfl, perm_sortBy _ _, rfl, rfl, rfl⟩

/-! ## Current exposures -/

theorem currentExposure_eq_ok {equity : ℚ} {o : Option Exposure}
    (h : currentExposure arith portfolio equity p = .ok o) :
    portfolio.Declares p.key ∧ ∃ f, arith (p.signedBaseRiskExposure / equity) = .ok f ∧
      o = if f = 0 then none else some (p.key, f) := by
  unfold currentExposure at h
  split at h
  · cases h
  · rename_i c hc
    simp only [bind_eq_ok, ensure_eq_ok, pure_eq_ok, Except.ok.injEq] at h
    obtain ⟨-, hdeclared, f, hf, rfl⟩ := h
    exact ⟨⟨c, hc, hdeclared⟩, f, hf, rfl⟩

theorem currentExposure_key {equity : ℚ}
    (h : currentExposure arith portfolio equity p = .ok (some e)) : e.1 = p.key := by
  obtain ⟨-, f, -, hsome⟩ := currentExposure_eq_ok h
  split_ifs at hsome
  rw [Option.some.injEq] at hsome
  rw [hsome]

theorem PortfolioExposureSnapshot.nodup_keys (snapshot : PortfolioExposureSnapshot) :
    (snapshot.positions.map ComponentPositionExposure.key).Nodup := by
  rw [List.Nodup, pairwise_map]
  exact snapshot.sorted.imp fun hlt heq => hlt.ne (congrArg keyOrder heq)

theorem currentExposures_eq_ok (h : currentExposures arith portfolio snapshot = .ok current) :
    ∃ os : List (Option Exposure), snapshot.positions.map
      (currentExposure arith portfolio snapshot.accountEquity) = os.map .ok ∧
        current = os.reduceOption := by
  unfold currentExposures at h
  simp only [bind_eq_ok, collect_eq_ok, pure_eq_ok, Except.ok.injEq] at h
  obtain ⟨os, hos, rfl⟩ := h
  exact ⟨os, hos, rfl⟩

theorem mem_currentExposures (h : currentExposures arith portfolio snapshot = .ok current) :
    e ∈ current ↔ ∃ p ∈ snapshot.positions,
      currentExposure arith portfolio snapshot.accountEquity p = .ok (some e) := by
  obtain ⟨os, hos, rfl⟩ := currentExposures_eq_ok h
  rw [reduceOption_mem_iff]
  rw [← ok_mem_map_ok, ← hos, mem_map]

theorem sublist_currentKeys (h : currentExposures arith portfolio snapshot = .ok current) :
    current.map Prod.fst <+ snapshot.positions.map ComponentPositionExposure.key := by
  obtain ⟨os, hos, rfl⟩ := currentExposures_eq_ok h
  clear h
  generalize snapshot.positions = ps at hos
  induction ps generalizing os with
  | nil =>
    rw [map_nil, eq_comm, map_eq_nil_iff] at hos
    rw [hos]
    exact nil_sublist _
  | cons p ps ih =>
    cases os with
    | nil => cases hos
    | cons o os =>
      rw [map_cons, map_cons, List.cons.injEq] at hos
      obtain ⟨-, f, -, rfl⟩ := currentExposure_eq_ok hos.1
      split_ifs
      · rw [reduceOption_cons_of_none]
        exact (ih os hos.2).cons _
      · rw [reduceOption_cons_of_some]
        exact (ih os hos.2).cons_cons _

theorem pairwise_currentKeys (h : currentExposures arith portfolio snapshot = .ok current) :
    current.Pairwise fun a b => keyOrder a.1 < keyOrder b.1 := by
  have hpositions := pairwise_map.2 snapshot.sorted
  have hkeys := hpositions.sublist ((sublist_currentKeys h).map keyOrder |>.trans (by
    rw [map_map]
    rfl))
  rwa [map_map, pairwise_map] at hkeys

theorem nodup_currentKeys (h : currentExposures arith portfolio snapshot = .ok current) :
    (current.map Prod.fst).Nodup := by
  rw [List.Nodup, pairwise_map]
  exact (pairwise_currentKeys h).imp fun hlt heq => hlt.ne (congrArg keyOrder heq)

/-! ## Placing the targets -/

def target (arith : Arithmetic) (portfolio : PortfolioComposition) (r : ComponentTargetRequest) :
    Except PyError Exposure :=
  (arith (portfolio.capitalWeight r.componentId * r.targetFractionOfComponentBudget)).map
    fun f => (r.key, f)

theorem target_eq_ok : target arith portfolio r = .ok e ↔ e.1 = r.key ∧
    arith (portfolio.capitalWeight r.componentId * r.targetFractionOfComponentBudget) = .ok e.2 := by
  unfold target
  rw [map_eq_ok]
  constructor
  · rintro ⟨f, hf, rfl⟩
    exact ⟨rfl, hf⟩
  · rintro ⟨hkey, hf⟩
    exact ⟨_, hf, Prod.ext hkey.symm rfl⟩

theorem placeTargets_eq_ok : rs.foldlM (placeTarget arith portfolio) current = .ok resolved ↔
    ∃ es : List Exposure, rs.map (target arith portfolio) = es.map .ok ∧
      resolved = es.foldl (fun rows e => upsert Prod.fst e rows) current := by
  induction rs generalizing current with
  | nil =>
    rw [foldlM_nil, pure_eq_ok, Except.ok.injEq, map_nil]
    constructor
    · rintro rfl
      exact ⟨[], rfl, rfl⟩
    · rintro ⟨es, hes, rfl⟩
      rw [eq_comm, map_eq_nil_iff] at hes
      rw [hes]
      rfl
  | cons r rs ih =>
    have hplace : ∀ rows, placeTarget arith portfolio current r = .ok rows ↔
        ∃ e, target arith portfolio r = .ok e ∧ rows = upsert Prod.fst e current := by
      intro rows
      unfold placeTarget target
      simp only [bind_eq_ok, map_eq_ok, pure_eq_ok, Except.ok.injEq]
      constructor
      · rintro ⟨f, hf, rfl⟩
        exact ⟨_, ⟨f, hf, rfl⟩, rfl⟩
      · rintro ⟨_, ⟨f, hf, rfl⟩, rfl⟩
        exact ⟨f, hf, rfl⟩
    rw [foldlM_cons, bind_eq_ok]
    simp only [hplace, ih]
    constructor
    · rintro ⟨_, ⟨e, he, rfl⟩, es, hes, rfl⟩
      exact ⟨e :: es, by rw [map_cons, map_cons, he, hes], rfl⟩
    · rintro ⟨es, hes, rfl⟩
      cases es with
      | nil => cases hes
      | cons e es =>
        rw [map_cons, map_cons, List.cons.injEq] at hes
        exact ⟨_, ⟨e, hes.1, rfl⟩, es, hes.2, rfl⟩

theorem mem_selectedRequests : r ∈ selectedRequests portfolio rs ↔
    r ∈ rs ∧ Selected portfolio rs r := by
  unfold selectedRequests
  rw [mem_filter, mem_sortBy, decide_eq_true_eq]

theorem nodup_selectedKeys (h : Admissible portfolio rs) :
    ((selectedRequests portfolio rs).map ComponentTargetRequest.key).Nodup :=
  (((perm_sortBy requestOrder rs).map _).nodup_iff.2 h.unique).sublist
    (filter_sublist.map _)

theorem map_fst_targets {es : List Exposure} (h : rs.map (target arith portfolio) = es.map .ok) :
    es.map Prod.fst = rs.map ComponentTargetRequest.key :=
  map_of_map_ok h fun _ _ _ ht => (target_eq_ok.1 ht).1

theorem mem_resolved (h : Admissible portfolio rs)
    (hresolved : (selectedRequests portfolio rs).foldlM (placeTarget arith portfolio) current =
      .ok resolved) :
    e ∈ resolved ↔ (∃ r ∈ selectedRequests portfolio rs, target arith portfolio r = .ok e) ∨
      e ∈ current ∧ e.1 ∉ (selectedRequests portfolio rs).map ComponentTargetRequest.key := by
  obtain ⟨es, hes, rfl⟩ := placeTargets_eq_ok.1 hresolved
  have hkeys := map_fst_targets hes
  have hn : (es.map fun e => e.1).Nodup := hkeys ▸ nodup_selectedKeys h
  have hmem : e ∈ es.foldl (fun rows e => upsert Prod.fst e rows) current ↔
      (∃ b ∈ es, e = b) ∨ e ∈ current ∧ e.1 ∉ es.map Prod.fst := mem_foldl_upsert hn
  have htargets : e ∈ es ↔ ∃ r ∈ selectedRequests portfolio rs, target arith portfolio r = .ok e := by
    rw [← ok_mem_map_ok, ← hes, mem_map]
  rw [← htargets, ← hkeys, hmem]
  refine or_congr_left ?_
  exact ⟨fun ⟨_, hb, heq⟩ => heq ▸ hb, fun h => ⟨e, h, rfl⟩⟩

theorem nodup_resolvedKeys (hcurrent : (current.map Prod.fst).Nodup)
    (hresolved : rs.foldlM (placeTarget arith portfolio) current = .ok resolved) :
    (resolved.map Prod.fst).Nodup := by
  obtain ⟨es, -, rfl⟩ := placeTargets_eq_ok.1 hresolved
  exact nodup_foldl_upsert hcurrent

/-! ## Requests and positions in a decision -/

structure Complete (arith : Arithmetic) (portfolio : PortfolioComposition)
    (snapshot : PortfolioExposureSnapshot) (requests : List ComponentTargetRequest)
    (d : AllocationDecision) : Prop where
  selected : ∀ r ∈ requests, Selected portfolio requests r →
    d.rejectedTargets.filter (fun t => t.key = r.key) = [] ∧
      ∃ f, arith (portfolio.capitalWeight r.componentId * r.targetFractionOfComponentBudget) = .ok f ∧
        d.proposedComponentExposures.filter (fun e => e.key = r.key) =
          [⟨r.componentId, r.instrumentId, f⟩]
  rejected : ∀ r ∈ requests, ¬ Selected portfolio requests r →
    d.rejectedTargets.filter (fun t => t.key = r.key) =
      [r.reject (rejectionCode portfolio requests r)]
  requested : ∀ t ∈ d.rejectedTargets, ∃ r ∈ requests, r.key = t.key
  preserved : ∀ p ∈ snapshot.positions,
    (∀ r ∈ requests, Selected portfolio requests r → r.key ≠ p.key) →
      ∃ f, arith (p.signedBaseRiskExposure / snapshot.accountEquity) = .ok f ∧
        d.proposedComponentExposures.filter (fun e => e.key = p.key) =
          if f = 0 then [] else [⟨p.componentId, p.instrumentId, f⟩]
  gated : d.riskApprovedInstrumentTargets ≠ [] → d.riskBreaches = []

namespace DecidedBy

variable (h : DecidedBy arith portfolio snapshot rs current resolved totals d)

include h

theorem mem_proposed {x : ComponentTargetExposure} : x ∈ d.proposedComponentExposures ↔
    (x.key, x.targetFractionOfEquity) ∈ resolved ∧ (x.targetFractionOfEquity ≠ 0 ∨
      x.key ∈ (selectedRequests portfolio rs).map ComponentTargetRequest.key) := by
  rw [h.proposed_eq, mem_map]
  unfold proposedExposures
  constructor
  · rintro ⟨e, he, rfl⟩
    rw [mem_filter, mem_sortBy, decide_eq_true_eq] at he
    exact he
  · intro hx
    refine ⟨(x.key, x.targetFractionOfEquity), ?_, rfl⟩
    rw [mem_filter, mem_sortBy, decide_eq_true_eq]
    exact hx

theorem nodup_proposed :
    (d.proposedComponentExposures.map ComponentTargetExposure.key).Nodup := by
  have hresolved := nodup_resolvedKeys (nodup_currentKeys h.current_eq) h.resolved_eq
  have hsorted := ((perm_sortBy (fun e : Exposure => keyOrder e.1) resolved).map
    Prod.fst).nodup_iff.2 hresolved
  rw [h.proposed_eq, map_map]
  unfold proposedExposures
  exact hsorted.sublist (filter_sublist.map Prod.fst)

theorem filter_proposed_eq_nil {k : TargetKey} (hk : k ∉ resolved.map Prod.fst) :
    d.proposedComponentExposures.filter (fun e => e.key = k) = [] := by
  refine filter_eq_nil_iff.2 fun x hx heq => hk ?_
  rw [decide_eq_true_eq] at heq
  exact heq ▸ mem_map_of_mem (h.mem_proposed.1 hx).1

theorem mem_resolved_iff : e ∈ resolved ↔
    (∃ r ∈ rs, Selected portfolio rs r ∧ target arith portfolio r = .ok e) ∨
      e ∈ current ∧ ∀ r ∈ rs, Selected portfolio rs r → r.key ≠ e.1 := by
  rw [mem_resolved h.admissible h.resolved_eq]
  refine or_congr ?_ (and_congr_right fun _ => ?_)
  · simp only [mem_selectedRequests, and_assoc]
  · rw [mem_map, not_exists]
    simp only [mem_selectedRequests, not_and, and_imp]

theorem exists_target (hr : r ∈ selectedRequests portfolio rs) :
    ∃ e, target arith portfolio r = .ok e := by
  obtain ⟨es, hes, -⟩ := placeTargets_eq_ok.1 h.resolved_eq
  have hmem : target arith portfolio r ∈ es.map .ok := hes ▸ mem_map_of_mem hr
  obtain ⟨e, -, he⟩ := mem_map.1 hmem
  exact ⟨e, he.symm⟩

theorem mem_rejected {t : TargetRejection} : t ∈ d.rejectedTargets ↔
    ∃ r ∈ rs, ¬ Selected portfolio rs r ∧ r.reject (rejectionCode portfolio rs r) = t := by
  rw [h.rejected_perm.mem_iff]
  unfold rejections
  simp only [mem_map, mem_filter, mem_sortBy, decide_eq_true_eq, and_assoc]

theorem nodup_rejected : (d.rejectedTargets.map TargetRejection.key).Nodup := by
  rw [(h.rejected_perm.map TargetRejection.key).nodup_iff]
  unfold rejections
  rw [map_map]
  exact (((perm_sortBy requestOrder rs).map ComponentTargetRequest.key).nodup_iff.2
    h.admissible.unique).sublist (filter_sublist.map _)

theorem eq_of_key {q : ComponentTargetRequest} (hr : r ∈ rs) (hq : q ∈ rs) (hkey : r.key = q.key) :
    r = q :=
  inj_on_of_nodup_map h.admissible.unique hr hq hkey

theorem selected_in_decision (hr : r ∈ rs) (hselected : Selected portfolio rs r) :
    d.rejectedTargets.filter (fun t => t.key = r.key) = [] ∧
      ∃ f, arith (portfolio.capitalWeight r.componentId * r.targetFractionOfComponentBudget) = .ok f ∧
        d.proposedComponentExposures.filter (fun e => e.key = r.key) =
          [⟨r.componentId, r.instrumentId, f⟩] := by
  constructor
  · refine filter_eq_nil_iff.2 fun t ht hkey => ?_
    obtain ⟨q, hq, hrejected, rfl⟩ := h.mem_rejected.1 ht
    rw [decide_eq_true_eq] at hkey
    exact hrejected (h.eq_of_key hr hq hkey.symm ▸ hselected)
  · have hmem := mem_selectedRequests.2 ⟨hr, hselected⟩
    obtain ⟨e, he⟩ := h.exists_target hmem
    obtain ⟨hkey, hf⟩ := target_eq_ok.1 he
    refine ⟨e.2, hf, ?_⟩
    have hproposed : (⟨r.componentId, r.instrumentId, e.2⟩ : ComponentTargetExposure) ∈
        d.proposedComponentExposures := by
      refine h.mem_proposed.2 ⟨h.mem_resolved_iff.2 (.inl ⟨r, hr, hselected, ?_⟩), .inr ?_⟩
      · rw [he]
        exact congrArg Except.ok (Prod.ext hkey rfl)
      · exact mem_map_of_mem (f := ComponentTargetRequest.key) hmem
    exact filter_key_eq h.nodup_proposed hproposed

theorem rejected_in_decision (hr : r ∈ rs) (hselected : ¬ Selected portfolio rs r) :
    d.rejectedTargets.filter (fun t => t.key = r.key) =
      [r.reject (rejectionCode portfolio rs r)] :=
  filter_key_eq h.nodup_rejected (h.mem_rejected.2 ⟨r, hr, hselected, rfl⟩)

theorem position_in_decision (hp : p ∈ snapshot.positions)
    (hfree : ∀ r ∈ rs, Selected portfolio rs r → r.key ≠ p.key) :
    ∃ f, arith (p.signedBaseRiskExposure / snapshot.accountEquity) = .ok f ∧
      d.proposedComponentExposures.filter (fun e => e.key = p.key) =
        if f = 0 then [] else [⟨p.componentId, p.instrumentId, f⟩] := by
  obtain ⟨os, hos, -⟩ := currentExposures_eq_ok h.current_eq
  have hmem : currentExposure arith portfolio snapshot.accountEquity p ∈ os.map .ok :=
    hos ▸ mem_map_of_mem hp
  obtain ⟨o, -, ho⟩ := mem_map.1 hmem
  obtain ⟨-, f, hf, rfl⟩ := currentExposure_eq_ok ho.symm
  refine ⟨f, hf, ?_⟩
  split_ifs with hzero
  · -- nothing is held under the key of a share of zero
    rw [if_pos hzero] at ho
    refine h.filter_proposed_eq_nil fun hk => ?_
    obtain ⟨e, he, hkey⟩ := mem_map.1 hk
    rcases h.mem_resolved_iff.1 he with ⟨r, hr, hselected, htarget⟩ | ⟨hcurrent, -⟩
    · exact hfree r hr hselected ((target_eq_ok.1 htarget).1 ▸ hkey)
    · obtain ⟨q, hq, hcurrent⟩ := (mem_currentExposures h.current_eq).1 hcurrent
      have hqp : q = p := inj_on_of_nodup_map snapshot.nodup_keys hq hp
        ((currentExposure_key hcurrent).symm.trans hkey)
      rw [hqp, ← ho] at hcurrent
      cases hcurrent
  · rw [if_neg hzero] at ho
    have hresolved : (p.key, f) ∈ resolved :=
      h.mem_resolved_iff.2 (.inr ⟨(mem_currentExposures h.current_eq).2 ⟨p, hp, ho.symm⟩, hfree⟩)
    have hproposed : (⟨p.componentId, p.instrumentId, f⟩ : ComponentTargetExposure) ∈
        d.proposedComponentExposures := h.mem_proposed.2 ⟨hresolved, .inl hzero⟩
    exact filter_key_eq h.nodup_proposed hproposed

theorem complete : Complete arith portfolio snapshot rs d where
  selected := fun _ => h.selected_in_decision
  rejected := fun _ => h.rejected_in_decision
  requested := by
    intro t ht
    obtain ⟨r, hr, -, rfl⟩ := h.mem_rejected.1 ht
    exact ⟨r, hr, rfl⟩
  preserved := fun _ => h.position_in_decision
  gated := by
    intro hne
    by_contra hbreaches
    rw [h.approved_eq, if_neg hbreaches] at hne
    exact hne rfl

end DecidedBy

end

/-! ## The allocation -/

/-- **Allocation.**  Requests in any order give the same outcome; only where they are not all
admitted may it be another failure.  A decision selects or rejects every request, exactly once. -/
theorem target_allocation (enc : AccountEncoding) (arith : Arithmetic)
    (portfolio : PortfolioComposition) (snapshot : PortfolioExposureSnapshot)
    (rs : List ComponentTargetRequest) :
    (∀ rs', rs ~ rs' →
      allocateComponentTargets enc arith portfolio snapshot rs' =
        allocateComponentTargets enc arith portfolio snapshot rs ∨
      ¬ Admissible portfolio rs ∧
        (∃ e, allocateComponentTargets enc arith portfolio snapshot rs = .error e) ∧
        ∃ e, allocateComponentTargets enc arith portfolio snapshot rs' = .error e) ∧
    ∀ d, allocateComponentTargets enc arith portfolio snapshot rs = .ok d →
      Complete arith portfolio snapshot rs d := by
  constructor
  · intro rs' hp
    by_cases hadmissible : Admissible portfolio rs
    · exact .inl (allocateComponentTargets_eq_of_perm hadmissible hp).symm
    · have hfails : ∀ qs, ¬ Admissible portfolio qs →
          ∃ e, allocateComponentTargets enc arith portfolio snapshot qs = .error e := by
        intro qs hqs
        cases h : allocateComponentTargets enc arith portfolio snapshot qs with
        | error e => exact ⟨e, rfl⟩
        | ok d =>
          obtain ⟨_, _, _, hd⟩ := allocateComponentTargets_eq_ok h
          exact absurd hd.admissible hqs
      exact .inr ⟨hadmissible, hfails rs hadmissible,
        hfails rs' fun h => hadmissible (h.perm hp.symm)⟩
  · intro d hd
    obtain ⟨_, _, _, hdecided⟩ := allocateComponentTargets_eq_ok hd
    exact hdecided.complete

def stockComponent (id : String) (weight : ℚ) (hid : notBlank id = true := by exact Eq.refl true)
    (hweight : 0 < weight ∧ weight ≤ 1 := by norm_num) : PortfolioComponent where
  componentId := id
  instrumentIds := ["AAPL"]
  capitalWeight := weight
  componentId_notBlank := hid
  instrumentIds_nonempty := by decide
  instrumentIds_notBlank := by decide
  unique_instruments := by decide
  weight_mem := hweight

def stockPolicy : SharedRiskPolicy where
  fingerprint := ⟨"policy"⟩
  maxComponentLeverage := 10
  targetConflictPolicy := .sumComponentTargets
  riskModels := [cashEquityNotionalRiskModel sampleEncoding.sha256]

/-- Three components that trade one stock, with room for leverage. -/
def stockPortfolio : PortfolioComposition where
  fingerprint := ⟨"portfolio"⟩
  baseCurrency := "USD"
  components := [stockComponent "a" (1 / 10), stockComponent "b" (1 / 10),
    stockComponent "c" (1 / 2)]
  sharedRiskPolicy := stockPolicy
  nonempty := by decide
  unique_ids := by decide
  reserved_id := by decide
  weights_le := ⟨7 / 10, by decide +kernel, by norm_num⟩

/-- A request at the event of the snapshots below. -/
def stockRequest (id : String) (fraction : ℚ) (hid : notBlank id = true := by exact Eq.refl true) :
    ComponentTargetRequest where
  componentId := id
  instrumentId := "AAPL"
  targetFractionOfComponentBudget := fraction
  eventTime := clock 1
  eventSequence := 0
  componentId_notBlank := hid
  instrumentId_notBlank := Eq.refl true

def stockPosition (id : String) (exposure : ℚ) (hid : notBlank id = true := by exact Eq.refl true) :
    ComponentPositionExposure where
  componentId := id
  instrumentId := "AAPL"
  signedBaseRiskExposure := exposure
  componentId_notBlank := hid
  instrumentId_notBlank := Eq.refl true

/-- A snapshot of an account with an equity of one. -/
def stockSnapshot (positions : List ComponentPositionExposure)
    (sorted : positions.Pairwise fun p q => keyOrder p.key < keyOrder q.key := by decide) :
    PortfolioExposureSnapshot where
  portfolioFingerprint := ⟨"portfolio"⟩
  runAttemptId := "attempt-1"
  eventTime := clock 1
  eventSequence := 0
  accountEquity := 1
  accountCashBalance := 1
  baseCurrency := "USD"
  valuationEvidenceDigest := ⟨"evidence"⟩
  positions := positions
  instrumentRiskModels :=
    [⟨"AAPL", cashEquityNotionalRiskModel sampleEncoding.sha256, Eq.refl true⟩]
  runAttemptId_notBlank := Eq.refl true
  equity_pos := by decide
  sorted := sorted
  unique_instruments := by decide

theorem target_allocation_stock :
    allocateComponentTargets sampleEncoding decimalMath.round stockPortfolio (stockSnapshot [])
        [stockRequest "b" 1, stockRequest "a" (1 / 2)] =
      allocateComponentTargets sampleEncoding decimalMath.round stockPortfolio (stockSnapshot [])
        [stockRequest "a" (1 / 2), stockRequest "b" 1] ∧
    ∃ d, allocateComponentTargets sampleEncoding decimalMath.round stockPortfolio (stockSnapshot [])
        [stockRequest "a" (1 / 2), stockRequest "b" 1] = .ok d ∧
      Complete decimalMath.round stockPortfolio (stockSnapshot [])
        [stockRequest "a" (1 / 2), stockRequest "b" 1] d := by
  obtain ⟨horder, hcomplete⟩ := target_allocation sampleEncoding decimalMath.round stockPortfolio
    (stockSnapshot []) [stockRequest "a" (1 / 2), stockRequest "b" 1]
  have hok : (allocateComponentTargets sampleEncoding decimalMath.round stockPortfolio
      (stockSnapshot []) [stockRequest "a" (1 / 2), stockRequest "b" 1]).isOk = true := by
    decide +kernel
  obtain ⟨d, hd⟩ := isOk_iff.1 hok
  refine ⟨?_, d, hd, hcomplete d hd⟩
  have hswap := horder [stockRequest "b" 1, stockRequest "a" (1 / 2)] (List.Perm.swap _ _ _)
  rcases hswap with heq | ⟨-, ⟨e, he⟩, -⟩
  · exact heq
  · rw [hd] at he
    cases he

/-- Two unknown components: the failure names the one that comes first. -/
theorem unknown_components_in_both_orders :
    [stockRequest "x" 1, stockRequest "y" 1] ~ [stockRequest "y" 1, stockRequest "x" 1] ∧
    allocateComponentTargets sampleEncoding decimalMath.round stockPortfolio (stockSnapshot [])
        [stockRequest "x" 1, stockRequest "y" 1] =
      .error (valueError "unknown target component 'x'") ∧
    allocateComponentTargets sampleEncoding decimalMath.round stockPortfolio (stockSnapshot [])
        [stockRequest "y" 1, stockRequest "x" 1] =
      .error (valueError "unknown target component 'y'") := by
  refine ⟨List.Perm.swap _ _ _, ?_, ?_⟩ <;> decide +kernel

end ChartingPlatform
