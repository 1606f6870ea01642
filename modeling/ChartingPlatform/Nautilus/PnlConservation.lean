/-
  What the attribution accounts for: the sums over the components and what is left are those
  of the portfolio.

  A fill may be claimed by a row that lists its trade and by an older row with its position.
-/
import ChartingPlatform.Allocation.Decisions
import ChartingPlatform.Lib.Parts
import ChartingPlatform.Nautilus.ComponentPnl

namespace ChartingPlatform

open Lib List

theorem raising_eq_ok {α : Type} {x : Except PyError α} {a : α} : raising x = .ok a ↔ x = .ok a := by
  cases x with
  | ok b => rw [raising, Except.ok.injEq, Except.ok.injEq]
  | error e => exact ⟨fun h => (nomatch h), fun h => (nomatch h)⟩

/-! ## The fills of a report -/

section
variable {env : PnlEnv} {window : ScoringWindow} {baseCurrency : String} {rows : List ReportRow}
  {index : FillIndex}

def joined (fills : List NativeFill) : List NativeFill :=
  fills.filter fun f => f.clientOrderId ≠ none

structure Indexes (fills : List NativeFill) (index : FillIndex) : Prop where
  table : index.fills = joined fills
  costs : index.costs = (fills.map NativeFill.costs).sum
  rebates : index.rebates = (fills.map NativeFill.rebates).sum

theorem Indexes.add {fills : List NativeFill} (h : Indexes fills index) (f : NativeFill) :
    Indexes (fills ++ [f]) (index.add f) := by
  refine ⟨?_, ?_, ?_⟩
  · unfold FillIndex.add joined
    rw [filter_append]
    dsimp only
    split_ifs with hnone
    · rw [filter_cons_of_neg (by simpa using hnone), filter_nil, append_nil]
      exact h.table
    · rw [filter_cons_of_pos (by simpa using hnone), filter_nil, h.table]
      rfl
  · unfold FillIndex.add
    rw [map_append, sum_append, map_singleton, sum_singleton]
    dsimp only
    split_ifs with hamount
    · rw [h.costs, NativeFill.costs, max_eq_left hamount]
    · rw [h.costs, NativeFill.costs, max_eq_right (not_le.1 hamount).le, add_zero]
  · unfold FillIndex.add
    rw [map_append, sum_append, map_singleton, sum_singleton]
    dsimp only
    split_ifs with hamount
    · rw [h.rebates, NativeFill.rebates, max_eq_right (neg_nonpos.2 hamount), add_zero]
    · rw [h.rebates, NativeFill.rebates, abs_of_neg (not_le.1 hamount),
        max_eq_left (neg_nonneg.2 (not_le.1 hamount).le)]

theorem indexNativeFillsAndCosts_eq_ok
    (h : indexNativeFillsAndCosts env window baseCurrency rows = .ok index) :
    ∃ fills, rows.map (readFill env window baseCurrency) = fills.map .ok ∧ Indexes fills index := by
  unfold indexNativeFillsAndCosts at h
  induction rows using List.reverseRecOn generalizing index with
  | nil =>
    cases h
    exact ⟨[], rfl, rfl, rfl, rfl⟩
  | append_singleton rows row ih =>
    obtain ⟨before, hbefore, hrow⟩ := foldlM_concat_eq_ok.1 h
    simp only [bind_eq_ok, pure_eq_ok, Except.ok.injEq] at hrow
    obtain ⟨fill, hfill, rfl⟩ := hrow
    obtain ⟨fills, hfills, hindexes⟩ := ih hbefore
    refine ⟨fills ++ [fill], ?_, hindexes.add fill⟩
    rw [map_append, map_append, hfills, map_singleton, map_singleton, hfill]

end

/-! ## Orders -/

section
variable {portfolio : PortfolioComposition} {orders : OrderIndex} {rows : List ReportRow}
  {clientOrderId componentId : String}

theorem componentIdFromTags_eq_ok {tags : ReportValue}
    (h : componentIdFromTags portfolio tags = .ok (some componentId)) :
    componentId ∈ portfolio.components.map PortfolioComponent.componentId := by
  have htags : ∀ items, componentOfTags portfolio items = .ok (some componentId) →
      componentId ∈ portfolio.components.map PortfolioComponent.componentId := by
    intro items h
    unfold componentOfTags at h
    split at h
    · simp only [bind_eq_ok, ensure_eq_ok, pure_eq_ok, Except.ok.injEq, Option.some.injEq] at h
      obtain ⟨_, hmem, rfl⟩ := h
      exact hmem
    · cases h
  unfold componentIdFromTags at h
  split at h
  · exact htags _ h
  · exact htags _ h
  · cases h

theorem declared_of_orderComponent (h : indexNativeOrders portfolio rows = .ok orders)
    (hc : orderComponent orders clientOrderId = some componentId) :
    componentId ∈ portfolio.components.map PortfolioComponent.componentId := by
  have hall : ∀ e ∈ orders, ∀ c ∈ e.2,
      c ∈ portfolio.components.map PortfolioComponent.componentId := by
    clear hc
    unfold indexNativeOrders at h
    induction rows using List.reverseRecOn generalizing orders with
    | nil =>
      cases h
      exact fun e he => (nomatch he)
    | append_singleton rows row ih =>
      obtain ⟨before, hbefore, hrow⟩ := foldlM_concat_eq_ok.1 h
      unfold indexOrder at hrow
      split at hrow
      · cases hrow
        exact ih hbefore
      · simp only [bind_eq_ok, pure_eq_ok, Except.ok.injEq] at hrow
        obtain ⟨c, hc, -, -, rfl⟩ := hrow
        intro e he
        rcases mem_append.1 he with he | he
        · exact ih hbefore e he
        · obtain rfl := mem_singleton.1 he
          intro c' hc'
          obtain rfl : c = some c' := hc'
          exact componentIdFromTags_eq_ok hc
  unfold orderComponent at hc
  rw [Option.bind_eq_some_iff] at hc
  obtain ⟨e, he, hc⟩ := hc
  exact hall e (mem_of_rowWith he).1 componentId hc

end

/-! ## Cycles -/

/-- A cycle of a report: its fills count, they are of orders of its component, and they are those
of its trades or, in an older report, those with its position. -/
structure CycleOf (window : ScoringWindow) (baseCurrency : String) (orders : OrderIndex)
    (table : List NativeFill) (c : PositionCycle) : Prop where
  counts : ∀ f ∈ c.fills, FillCounts window baseCurrency f
  component : ∀ f ∈ c.fills, ∃ o, f.clientOrderId = some o ∧
    orderComponent orders o = some c.componentId
  unique_trades : c.tradeIds.Nodup
  nonempty : c.fills ≠ []
  fills : c.fills ~ (c.tradeIds.flatMap fun t => table.filter fun f => f.tradeId = some t) ++
    if c.tradeIds = [] then table.filter fun f => f.positionId = some c.positionId else []

section
variable {env : PnlEnv} {window : ScoringWindow} {baseCurrency : String} {orders : OrderIndex}
  {table cycleFills : List NativeFill} {row : ReportRow} {positionId componentId : String}
  {orderIds tradeIds : List String} {c : PositionCycle}

theorem orderComponent_of_common (h : commonComponent orders orderIds = some componentId)
    {o : String} (ho : o ∈ orderIds) : orderComponent orders o = some componentId := by
  unfold commonComponent at h
  split at h
  · rename_i c hfirsts
    have hmem : orderComponent orders o ∈ firsts id (orderIds.map (orderComponent orders)) :=
      mem_firsts_id.2 (mem_map_of_mem ho)
    rw [hfirsts, mem_singleton] at hmem
    rw [hmem, h]
  · cases h

theorem tradeFill_eq_some {tradeId : String} {f : NativeFill} (h : tradeFill table tradeId = some f) :
    (table.filter fun f => f.tradeId = some tradeId) = [f] := by
  unfold tradeFill at h
  split at h
  · rename_i heq
    rw [heq, Option.some.inj h]
  · cases h

theorem filterMap_tradeFill
    (h : (tradeIds.filterMap (tradeFill table)).length = tradeIds.length) :
    tradeIds.filterMap (tradeFill table) =
      tradeIds.flatMap fun t => table.filter fun f => f.tradeId = some t := by
  induction tradeIds with
  | nil => rfl
  | cons t tradeIds ih =>
    have hle := length_filterMap_le (tradeFill table) tradeIds
    cases hfill : tradeFill table t with
    | none =>
      rw [filterMap_cons_none hfill, length_cons] at h
      omega
    | some f =>
      rw [filterMap_cons_some hfill, length_cons, length_cons,
        Nat.add_right_cancel_iff] at h
      rw [filterMap_cons_some hfill, ih h, flatMap_cons, tradeFill_eq_some hfill]
      rfl

theorem nodup_eventTrades {identities : List String × List String}
    (h : positionEventIdentities row = some identities) : identities.2.Nodup := by
  unfold positionEventIdentities at h
  split at h
  · dsimp only at h
    split_ifs at h with hvalid
    cases h
    exact hvalid.2.2
  · cases h

theorem positionTrades_listed (h : positionTrades row = .listed tradeIds) :
    tradeIds ≠ [] ∧ tradeIds.Nodup := by
  unfold positionTrades at h
  split at h
  · split_ifs at h
    split at h
    · cases h
    · split_ifs at h with hvalid
      cases h
      exact ⟨hvalid.1, hvalid.2.1⟩
  · rename_i hevents
    split_ifs at h with hnil
    cases h
    exact ⟨hnil, nodup_eventTrades hevents⟩
  · split_ifs at h
  · cases h

theorem positionCycleFills_eq_some (hn : orderIds.Nodup)
    (h : positionCycleFills table row positionId orderIds = some (cycleFills, tradeIds)) :
    tradeIds.Nodup ∧ (∀ f ∈ cycleFills, ∃ o ∈ orderIds, f.clientOrderId = some o) ∧
      cycleFills ~ (tradeIds.flatMap fun t => table.filter fun f => f.tradeId = some t) ++
        if tradeIds = [] then table.filter fun f => f.positionId = some positionId else [] := by
  have horder : ∀ (fs : List NativeFill),
      (fs.map NativeFill.clientOrderId).toFinset = (orderIds.map some).toFinset →
        ∀ f ∈ fs, ∃ o ∈ orderIds, f.clientOrderId = some o := by
    intro fs heq f hf
    have hmem : f.clientOrderId ∈ (orderIds.map some).toFinset :=
      heq ▸ mem_toFinset.2 (mem_map_of_mem hf)
    obtain ⟨o, ho, heq⟩ := mem_map.1 (mem_toFinset.1 hmem)
    exact ⟨o, ho, heq.symm⟩
  unfold positionCycleFills at h
  split at h
  · cases h
  · rename_i listed hlisted
    dsimp only at h
    split_ifs at h with hvalid
    cases h
    obtain ⟨hne, hnodup⟩ := positionTrades_listed hlisted
    refine ⟨hnodup, horder _ hvalid.2, ?_⟩
    rw [filterMap_tradeFill hvalid.1, if_neg hne, append_nil]
  · dsimp only at h
    split_ifs at h with hvalid
    cases h
    refine ⟨nodup_nil, ?_, ?_⟩
    · intro f hf
      obtain ⟨o, ho, hf⟩ := mem_flatMap.1 hf
      rw [mem_filter, decide_eq_true_eq] at hf
      exact ⟨o, ho, hf.2.2⟩
    · rw [flatMap_nil, nil_append, if_pos rfl]
      have hsplit : (orderIds.flatMap fun o => table.filter fun f =>
          f.positionId = some positionId ∧ f.clientOrderId = some o) =
          (orderIds.map some).flatMap fun k => (table.filter fun f =>
            f.positionId = some positionId).filter fun f => f.clientOrderId = k := by
        rw [flatMap_map]
        refine flatMap_congr fun o _ => ?_
        rw [filter_filter]
        exact filter_congr fun f _ => by simp [Bool.and_comm]
      rw [hsplit]
      refine perm_flatMap_filter_all (hn.map (Option.some_injective _)) fun f hf => ?_
      obtain ⟨o, ho, heq⟩ := horder _ hvalid f hf
      exact heq ▸ mem_map_of_mem ho

theorem cycleOf_parts {realized : ℚ} (h : cycleParts window baseCurrency orders table row =
      some (positionId, cycleFills, tradeIds, componentId)) :
    CycleOf window baseCurrency orders table
      ⟨positionId, tradeIds, cycleFills, componentId, realized⟩ := by
  unfold cycleParts at h
  split at h
  · rename_i orderIds _ _
    split_ifs at h with hn
    split at h
    · rename_i hcycle
      split_ifs at h with hcounts
      rw [Option.map_eq_some_iff] at h
      obtain ⟨c, hcommon, heq⟩ := h
      cases heq
      obtain ⟨hnodup, horders, hfills⟩ := positionCycleFills_eq_some hn hcycle
      refine ⟨hcounts.2, fun f hf => ?_, hnodup, hcounts.1, hfills⟩
      obtain ⟨o, ho, heq⟩ := horders f hf
      exact ⟨o, heq, orderComponent_of_common hcommon ho⟩
    · cases h
  · cases h

theorem positionCycle_eq_ok
    (h : positionCycle env window baseCurrency orders table row = .ok (some c)) :
    CycleOf window baseCurrency orders table c := by
  unfold positionCycle at h
  simp only [bind_eq_ok] at h
  obtain ⟨opened, -, closed, -, h⟩ := h
  split_ifs at h with hwindow
  · split at h
    · cases h
    · rename_i positionId cycleFills tradeIds componentId hparts
      simp only [bind_eq_ok] at h
      obtain ⟨money, -, h⟩ := h
      split at h
      · cases h
      · split_ifs at h
        · cases h
          exact cycleOf_parts hparts
        · cases h
  · cases h

end

/-! ## Claims -/

def cyclesOf (cycles : List PositionCycle) (componentId : String) : List PositionCycle :=
  cycles.filter fun c => c.componentId = componentId

/-- The net result, the costs and the rebates of cycles. -/
def cycleTotals (cycles : List PositionCycle) : ℚ × ℚ × ℚ :=
  ((cycles.map PositionCycle.realized).sum, (cycles.map PositionCycle.costs).sum,
    (cycles.map PositionCycle.rebates).sum)

/-- Cycles are claimed: their positions and trades are distinct, and the components have their
totals. -/
structure Claimed (portfolio : PortfolioComposition) (cycles : List PositionCycle)
    (s : ClaimState) : Prop where
  positions : s.claimedPositions = cycles.map PositionCycle.positionId
  unique_positions : (cycles.map PositionCycle.positionId).Nodup
  trades : s.claimedTrades = cycles.flatMap PositionCycle.tradeIds
  unique_trades : (cycles.flatMap PositionCycle.tradeIds).Nodup
  attributed : ∀ id ∈ portfolio.components.map PortfolioComponent.componentId,
    s.attributed.get id = some (cycleTotals (cyclesOf cycles id))

section
variable {env : PnlEnv} {window : ScoringWindow} {portfolio : PortfolioComposition}
  {orders : OrderIndex} {table : List NativeFill} {rows : List ReportRow}
  {cycles : List PositionCycle} {c : PositionCycle} {s s' : ClaimState}

theorem claimed_nil : Claimed portfolio [] { attributed := zeroTotals portfolio } := by
  refine ⟨rfl, nodup_nil, rfl, nodup_nil, fun id hid => ?_⟩
  obtain ⟨component, hcomponent, rfl⟩ := mem_map.1 hid
  have hmem : (component.componentId, ((0, 0, 0) : ℚ × ℚ × ℚ)) ∈ (zeroTotals portfolio).entries :=
    mem_map_of_mem (f := fun c : PortfolioComponent => (c.componentId, ((0, 0, 0) : ℚ × ℚ × ℚ)))
      hcomponent
  unfold Doc.get
  rw [(rowWith_eq_some (zeroTotals portfolio).nodup).2 ⟨hmem, rfl⟩]
  rfl

theorem Claimed.claim (h : Claimed portfolio cycles s) (hn : c.tradeIds.Nodup)
    (hc : claimCycle s c = .ok s') : Claimed portfolio (cycles ++ [c]) s' := by
  unfold claimCycle at hc
  split_ifs at hc with hclaimed
  cases hc
  rw [not_or, not_exists] at hclaimed
  obtain ⟨hposition, htrades⟩ := hclaimed
  rw [h.positions] at hposition
  refine ⟨?_, ?_, ?_, ?_, fun id hid => ?_⟩
  · rw [map_append, h.positions]
    rfl
  · rw [map_append, map_singleton, nodup_append]
    refine ⟨h.unique_positions, nodup_singleton _, fun a ha b hb hab => ?_⟩
    rw [mem_singleton] at hb
    exact hposition (hb ▸ hab ▸ ha)
  · rw [flatMap_append, h.trades, flatMap_singleton]
  · rw [flatMap_append, flatMap_singleton, nodup_append]
    refine ⟨h.unique_trades, hn, fun t ht t' ht' heq => ?_⟩
    exact htrades t' ⟨ht', h.trades ▸ heq ▸ ht⟩
  · rw [Doc.get_set]
    unfold cyclesOf
    rw [filter_append]
    split_ifs with heq
    · subst heq
      rw [filter_cons_of_pos (by simp), filter_nil, h.attributed _ hid]
      unfold cycleTotals cyclesOf
      simp only [map_append, sum_append, map_singleton, sum_singleton,
        Option.getD_some]
    · rw [filter_cons_of_neg (by simpa using heq), filter_nil, append_nil]
      exact h.attributed id hid

theorem attributeClosedPositions_eq_ok
    (h : attributeClosedPositions env window portfolio orders table rows = .ok s) :
    ∃ cycles : List (Option PositionCycle),
      rows.map (positionCycle env window portfolio.baseCurrency orders table) = cycles.map .ok ∧
      (∀ c ∈ cycles.reduceOption, CycleOf window portfolio.baseCurrency orders table c) ∧
      Claimed portfolio cycles.reduceOption s := by
  unfold attributeClosedPositions at h
  induction rows using List.reverseRecOn generalizing s with
  | nil =>
    cases h
    exact ⟨[], rfl, fun c hc => (nomatch hc), claimed_nil⟩
  | append_singleton rows row ih =>
    obtain ⟨before, hbefore, hrow⟩ := foldlM_concat_eq_ok.1 h
    obtain ⟨cycles, hcycles, hof, hclaimed⟩ := ih hbefore
    unfold attributeRow at hrow
    rw [bind_eq_ok] at hrow
    obtain ⟨o, ho, hrow⟩ := hrow
    rw [raising_eq_ok] at ho
    refine ⟨cycles ++ [o], ?_, ?_⟩
    · rw [map_append, map_append, hcycles, map_singleton, map_singleton, ho]
    cases o with
    | none =>
      cases hrow
      rw [reduceOption_append, reduceOption_singleton, Option.toList_none, append_nil]
      exact ⟨hof, hclaimed⟩
    | some c =>
      have hc := positionCycle_eq_ok ho
      rw [reduceOption_append, reduceOption_singleton, Option.toList_some]
      refine ⟨fun c' hc' => ?_, hclaimed.claim hc.unique_trades hrow⟩
      rcases mem_append.1 hc' with hc' | hc'
      · exact hof c' hc'
      · rwa [mem_singleton.1 hc']

end

/-! ## Fills that are claimed -/

def PositionCycle.ByTrade (c : PositionCycle) (f : NativeFill) : Prop :=
  ∃ t ∈ c.tradeIds, f.tradeId = some t

def PositionCycle.ByPosition (c : PositionCycle) (f : NativeFill) : Prop :=
  c.tradeIds = [] ∧ f.positionId = some c.positionId

instance (c : PositionCycle) (f : NativeFill) : Decidable (c.ByTrade f) :=
  inferInstanceAs (Decidable (∃ t ∈ c.tradeIds, _))

instance (c : PositionCycle) (f : NativeFill) : Decidable (c.ByPosition f) :=
  inferInstanceAs (Decidable (_ ∧ _))

section
variable {window : ScoringWindow} {baseCurrency : String} {orders : OrderIndex}
  {table : List NativeFill} {cycles : List PositionCycle} {c : PositionCycle} {f : NativeFill}
  {w : NativeFill → ℚ}

/-- **The fills of the cycles** are those that are claimed by a trade, and those that are claimed
by a position. -/
theorem perm_fills (hof : ∀ c ∈ cycles, CycleOf window baseCurrency orders table c)
    (hpositions : (cycles.map PositionCycle.positionId).Nodup)
    (htrades : (cycles.flatMap PositionCycle.tradeIds).Nodup) :
    cycles.flatMap PositionCycle.fills ~
      (table.filter fun f => ∃ c ∈ cycles, c.ByTrade f) ++
        table.filter fun f => ∃ c ∈ cycles, c.ByPosition f := by
  have hsplit : cycles.flatMap PositionCycle.fills ~
      (cycles.flatMap fun c =>
        c.tradeIds.flatMap fun t => table.filter fun f => f.tradeId = some t) ++
        cycles.flatMap fun c =>
          if c.tradeIds = [] then table.filter fun f => f.positionId = some c.positionId else [] :=
    (List.Perm.flatMap_left _ fun c hc => (hof c hc).fills).trans
      (flatMap_append_perm _ _ _).symm
  refine hsplit.trans (List.Perm.append ?_ ?_)
  · have hkeys : (cycles.flatMap fun c => c.tradeIds.flatMap fun t =>
        table.filter fun f => f.tradeId = some t) =
        ((cycles.flatMap PositionCycle.tradeIds).map some).flatMap fun k =>
          table.filter fun f => f.tradeId = k := by
      rw [flatMap_map, flatMap_assoc]
    rw [hkeys]
    refine (perm_flatMap_filter (htrades.map (Option.some_injective _))).trans ?_
    refine List.Perm.of_eq (filter_congr fun f _ => decide_eq_decide.2 ?_)
    rw [mem_map]
    simp only [mem_flatMap]
    unfold PositionCycle.ByTrade
    constructor
    · rintro ⟨t, ⟨c, hc, ht⟩, heq⟩
      exact ⟨c, hc, t, ht, heq.symm⟩
    · rintro ⟨c, hc, t, ht, heq⟩
      exact ⟨t, ⟨c, hc, ht⟩, heq.symm⟩
  · have hkeys : (cycles.flatMap fun c =>
        if c.tradeIds = [] then table.filter fun f => f.positionId = some c.positionId else []) =
        ((cycles.filter fun c => c.tradeIds = []).map fun c => some c.positionId).flatMap fun k =>
          table.filter fun f => f.positionId = k := by
      rw [flatMap_map]
      clear hof hpositions htrades hsplit
      induction cycles with
      | nil => rfl
      | cons c cycles ih =>
        rw [flatMap_cons, ih]
        split_ifs with hnil
        · rw [filter_cons_of_pos (by simpa using hnil), flatMap_cons]
        · rw [filter_cons_of_neg (by simpa using hnil), nil_append]
    have hnodup : ((cycles.filter fun c => c.tradeIds = []).map fun c =>
        some c.positionId).Nodup := by
      have hpart : ((cycles.filter fun c => c.tradeIds = []).map
          PositionCycle.positionId).Nodup :=
        hpositions.sublist (filter_sublist.map _)
      have hsome := hpart.map (Option.some_injective _)
      rwa [map_map] at hsome
    rw [hkeys]
    refine (perm_flatMap_filter hnodup).trans ?_
    refine List.Perm.of_eq (filter_congr fun f _ => decide_eq_decide.2 ?_)
    rw [mem_map]
    simp only [mem_filter, decide_eq_true_eq]
    unfold PositionCycle.ByPosition
    constructor
    · rintro ⟨c, ⟨hc, hnil⟩, heq⟩
      exact ⟨c, hc, hnil, heq.symm⟩
    · rintro ⟨c, hc, hnil, heq⟩
      exact ⟨c, ⟨hc, hnil⟩, heq.symm⟩

theorem sum_cycles (hof : ∀ c ∈ cycles, CycleOf window baseCurrency orders table c)
    (hpositions : (cycles.map PositionCycle.positionId).Nodup)
    (htrades : (cycles.flatMap PositionCycle.tradeIds).Nodup) :
    (cycles.map fun c => (c.fills.map w).sum).sum =
      ((table.filter fun f => ∃ c ∈ cycles, c.ByTrade f).map w).sum +
        ((table.filter fun f => ∃ c ∈ cycles, c.ByPosition f).map w).sum := by
  rw [← sum_map_flatMap, ((perm_fills hof hpositions htrades).map w).sum_eq, map_append,
    sum_append]

theorem component_of_claims {c' : PositionCycle}
    (h : CycleOf window baseCurrency orders table c)
    (h' : CycleOf window baseCurrency orders table c') (hf : f ∈ c.fills) (hf' : f ∈ c'.fills) :
    c.componentId = c'.componentId := by
  obtain ⟨o, ho, hcomponent⟩ := h.component f hf
  obtain ⟨o', ho', hcomponent'⟩ := h'.component f hf'
  rw [ho, Option.some.injEq] at ho'
  rw [ho', hcomponent', Option.some.injEq] at hcomponent
  exact hcomponent.symm

end

/-! ## Sums over the components -/

section
variable {portfolio : PortfolioComposition} {cycles : List PositionCycle}

theorem sum_components {f : PositionCycle → ℚ}
    (hdeclared : ∀ c ∈ cycles,
      c.componentId ∈ portfolio.components.map PortfolioComponent.componentId) :
    (portfolio.components.map fun p => ((cyclesOf cycles p.componentId).map f).sum).sum =
      (cycles.map f).sum := by
  have hperm : ((portfolio.components.map PortfolioComponent.componentId).flatMap fun id =>
      cycles.filter fun c => c.componentId = id) ~ cycles :=
    perm_flatMap_filter_all portfolio.unique_ids hdeclared
  rw [← (hperm.map f).sum_eq, flatMap_map, sum_map_flatMap]
  rfl

theorem NativeFill.costs_nonneg (f : NativeFill) : 0 ≤ f.costs := le_max_right _ _

theorem NativeFill.rebates_nonneg (f : NativeFill) : 0 ≤ f.rebates := le_max_right _ _

theorem cycleTotals_nonneg : 0 ≤ (cycleTotals cycles).2.1 ∧ 0 ≤ (cycleTotals cycles).2.2 := by
  constructor
  · refine sum_nonneg fun x hx => ?_
    obtain ⟨c, -, rfl⟩ := mem_map.1 hx
    refine sum_nonneg fun y hy => ?_
    obtain ⟨f, -, rfl⟩ := mem_map.1 hy
    exact f.costs_nonneg
  · refine sum_nonneg fun x hx => ?_
    obtain ⟨c, -, rfl⟩ := mem_map.1 hx
    refine sum_nonneg fun y hy => ?_
    obtain ⟨f, -, rfl⟩ := mem_map.1 hy
    exact f.rebates_nonneg

end

/-! ## Observations -/

structure Observes (scope : PnlScope) (componentId : String) (totals : ℚ × ℚ × ℚ)
    (o : ComponentPnlObservation) : Prop where
  scope : o.scope = scope
  componentId : o.componentId = componentId
  gross : o.grossPnl = totals.1 + totals.2.1 - totals.2.2
  costs : o.costDeductions = totals.2.1
  rebates : o.rebates = totals.2.2
  net : o.netPnl = totals.1

structure Conserves (attribution : PnlAttribution) (portfolioPnl : PortfolioPnlObservation)
    (componentPnl : List ComponentPnlObservation) : Prop where
  gross : (componentPnl.map ComponentPnlObservation.grossPnl).sum = portfolioPnl.grossPnl
  costs : (componentPnl.map ComponentPnlObservation.costDeductions).sum = attribution.totalCosts
  rebates : (componentPnl.map ComponentPnlObservation.rebates).sum = attribution.totalRebates
  net : (componentPnl.map ComponentPnlObservation.netPnl).sum = portfolioPnl.netPnl

section
variable {env : PnlEnv} {reports : NativeReports} {portfolio : PortfolioComposition}
  {scope : PnlScope} {attribution : PnlAttribution} {cycles : List PositionCycle}
  {o : ComponentPnlObservation} {accountNetPnl : ℚ} {portfolioPnl : PortfolioPnlObservation}
  {componentPnl os : List ComponentPnlObservation} {componentId : String}
  {grossPnl costDeductions rebates netPnl : ℚ} {method evidence : Digest}

theorem makeComponentPnl_ok (hid : notBlank componentId = true)
    (hnet : netPnl = grossPnl - costDeductions + rebates) :
    (∃ o, makeComponentPnl scope componentId grossPnl costDeductions rebates netPnl method evidence =
      .ok o) ↔ 0 ≤ costDeductions ∧ 0 ≤ rebates := by
  unfold makeComponentPnl
  rw [dif_pos hid]
  split_ifs with hdeductions
  · exact ⟨fun _ => hdeductions, fun _ => ⟨_, rfl⟩⟩
  · exact ⟨fun ⟨_, h⟩ => (nomatch h), fun h => absurd h hdeductions⟩

theorem makeComponentPnl_eq_ok
    (h : makeComponentPnl scope componentId grossPnl costDeductions rebates netPnl method evidence =
      .ok o) :
    o.scope = scope ∧ o.componentId = componentId ∧ o.grossPnl = grossPnl ∧
      o.costDeductions = costDeductions ∧ o.rebates = rebates ∧ o.netPnl = netPnl := by
  unfold makeComponentPnl at h
  split_ifs at h
  cases h
  exact ⟨rfl, rfl, rfl, rfl, rfl, rfl⟩

theorem exists_component {component : PortfolioComponent}
    (h : attribution.attributed.get component.componentId = some (cycleTotals cycles)) :
    ∃ o, componentObservation env reports scope attribution component = .ok o ∧
      Observes scope component.componentId (cycleTotals cycles) o := by
  unfold componentObservation
  rw [h, Option.getD_some]
  have hnet : (cycleTotals cycles).1 = (cycleTotals cycles).1 + (cycleTotals cycles).2.1 -
      (cycleTotals cycles).2.2 - (cycleTotals cycles).2.1 + (cycleTotals cycles).2.2 := by
    ring
  obtain ⟨o, ho⟩ : ∃ o, makeComponentPnl scope component.componentId ((cycleTotals cycles).1 +
      (cycleTotals cycles).2.1 - (cycleTotals cycles).2.2) (cycleTotals cycles).2.1
      (cycleTotals cycles).2.2 (cycleTotals cycles).1 (attributionMethodDigest env.sha256)
      reports.contentDigest = .ok o :=
    (makeComponentPnl_ok component.componentId_notBlank hnet).2 cycleTotals_nonneg
  obtain ⟨hscope, hid, hgross, hcosts, hrebates, hnet⟩ := makeComponentPnl_eq_ok ho
  exact ⟨o, ho, hscope, hid, hgross, hcosts, hrebates, hnet⟩

variable (env reports scope) in
theorem exists_components
    (hattributed : ∀ id ∈ portfolio.components.map PortfolioComponent.componentId,
      attribution.attributed.get id = some (cycleTotals (cyclesOf cycles id))) :
    ∃ os : List ComponentPnlObservation,
      collect (portfolio.components.map (componentObservation env reports scope attribution)) =
        .ok os ∧
      (∀ o ∈ os, o.scope = scope) ∧
      os.map ComponentPnlObservation.componentId =
        portfolio.components.map PortfolioComponent.componentId ∧
      os.map ComponentPnlObservation.costDeductions = (portfolio.components.map fun p =>
        ((cyclesOf cycles p.componentId).map PositionCycle.costs).sum) ∧
      os.map ComponentPnlObservation.rebates = portfolio.components.map fun p =>
        ((cyclesOf cycles p.componentId).map PositionCycle.rebates).sum := by
  have hobserves : ∀ p ∈ portfolio.components, ∃ o,
      componentObservation env reports scope attribution p = .ok o ∧
        Observes scope p.componentId (cycleTotals (cyclesOf cycles p.componentId)) o :=
    fun p hp => exists_component (hattributed p.componentId (mem_map_of_mem hp))
  have hread : ∀ p ∈ portfolio.components, ∀ o,
      componentObservation env reports scope attribution p = .ok o →
        Observes scope p.componentId (cycleTotals (cyclesOf cycles p.componentId)) o := by
    intro p hp o ho
    obtain ⟨o', ho', hobserve⟩ := hobserves p hp
    rw [ho, Except.ok.injEq] at ho'
    exact ho' ▸ hobserve
  obtain ⟨os, hos⟩ := exists_map_ok fun p hp =>
    (hobserves p hp).imp fun _ ho => ho.1
  refine ⟨os, collect_eq_ok.2 hos, fun o ho => ?_,
    map_of_map_ok hos fun p hp o ho => (hread p hp o ho).componentId,
    map_of_map_ok hos fun p hp o ho => (hread p hp o ho).costs,
    map_of_map_ok hos fun p hp o ho => (hread p hp o ho).rebates⟩
  obtain ⟨p, hp, hok⟩ := mem_map.1 (hos ▸ ok_mem_map_ok.2 ho)
  exact (hread p hp o hok).scope

theorem makePortfolioPnl_eq_ok {componentIds : List String}
    (h : makePortfolioPnl scope grossPnl netPnl componentIds evidence = .ok portfolioPnl) :
    portfolioPnl = ⟨scope, grossPnl, netPnl, sortBy id componentIds, evidence⟩ := by
  unfold makePortfolioPnl at h
  simp only [bind_eq_ok, pure_eq_ok, Except.ok.injEq] at h
  obtain ⟨-, -, -, -, rfl⟩ := h
  rfl

theorem exists_portfolio : ∃ p, makePortfolioPnl scope grossPnl netPnl
    (portfolio.components.map PortfolioComponent.componentId) evidence = .ok p := by
  have hids : portfolio.components.map PortfolioComponent.componentId ≠ [] ∧
      ∀ c ∈ portfolio.components.map PortfolioComponent.componentId,
        notBlank c = true ∧ c ≠ unallocatedComponentId := by
    refine ⟨fun h => portfolio.nonempty (map_eq_nil_iff.1 h), fun c hc => ⟨?_, ?_⟩⟩
    · obtain ⟨p, -, rfl⟩ := mem_map.1 hc
      exact p.componentId_notBlank
    · exact fun heq => portfolio.reserved_id (heq ▸ hc)
  unfold makePortfolioPnl
  rw [ensure_of hids, ok_bind, ensure_of portfolio.unique_ids, ok_bind]
  exact ⟨_, rfl⟩

theorem pnlObservations_ok_iff
    (hattributed : ∀ id ∈ portfolio.components.map PortfolioComponent.componentId,
      attribution.attributed.get id = some (cycleTotals (cyclesOf cycles id)))
    (hdeclared : ∀ c ∈ cycles,
      c.componentId ∈ portfolio.components.map PortfolioComponent.componentId) :
    (∃ r, pnlObservations env reports portfolio scope attribution accountNetPnl = .ok r) ↔
      (cycles.map PositionCycle.costs).sum ≤ attribution.totalCosts ∧
        (cycles.map PositionCycle.rebates).sum ≤ attribution.totalRebates := by
  obtain ⟨os, hos, -, -, hcosts, hrebates⟩ := exists_components env reports scope hattributed
  obtain ⟨p, hp⟩ : ∃ p, makePortfolioPnl scope
      (accountNetPnl + attribution.totalCosts - attribution.totalRebates) accountNetPnl
      (portfolio.components.map PortfolioComponent.componentId) scope.resultBundleDigest = .ok p :=
    exists_portfolio
  have hleft : (∃ o, makeComponentPnl scope unallocatedComponentId
      (accountNetPnl + attribution.totalCosts - attribution.totalRebates -
        (os.map ComponentPnlObservation.grossPnl).sum)
      (attribution.totalCosts - (os.map ComponentPnlObservation.costDeductions).sum)
      (attribution.totalRebates - (os.map ComponentPnlObservation.rebates).sum) _
      (attributionMethodDigest env.sha256) reports.contentDigest = .ok o) ↔ _ :=
    makeComponentPnl_ok (by decide) rfl
  rw [sub_nonneg, sub_nonneg] at hleft
  rw [← sum_components hdeclared, ← sum_components hdeclared, ← hcosts, ← hrebates, ← hleft]
  unfold pnlObservations
  dsimp only
  rw [hp, ok_bind, hos, ok_bind]
  constructor
  · rintro ⟨r, hr⟩
    rw [bind_eq_ok] at hr
    obtain ⟨o, ho, -⟩ := hr
    exact ⟨o, ho⟩
  · rintro ⟨o, ho⟩
    refine ⟨(p, os ++ [o]), ?_⟩
    rw [ho]
    rfl

theorem conserves_of_ok
    (h : pnlObservations env reports portfolio scope attribution accountNetPnl =
      .ok (portfolioPnl, componentPnl)) :
    Conserves attribution portfolioPnl componentPnl ∧ portfolioPnl.netPnl = accountNetPnl ∧
      portfolioPnl.grossPnl = accountNetPnl + attribution.totalCosts - attribution.totalRebates := by
  unfold pnlObservations at h
  simp only [bind_eq_ok, pure_eq_ok, Except.ok.injEq, Prod.mk.injEq] at h
  obtain ⟨p, hp, os, -, u, hu, rfl, rfl⟩ := h
  obtain ⟨-, -, hgross, hcosts, hrebates, hnet⟩ := makeComponentPnl_eq_ok hu
  obtain rfl := makePortfolioPnl_eq_ok hp
  have hsum : ∀ f : ComponentPnlObservation → ℚ,
      ((os ++ [u]).map f).sum = (os.map f).sum + f u := by
    intro f
    rw [map_append, sum_append, map_singleton, sum_singleton]
  -- the net results are what is left of the gross ones
  have hos : (os.map ComponentPnlObservation.netPnl).sum =
      (os.map ComponentPnlObservation.grossPnl).sum -
        (os.map ComponentPnlObservation.costDeductions).sum +
          (os.map ComponentPnlObservation.rebates).sum := by
    clear hu hgross hcosts hrebates hnet hsum
    induction os with
    | nil => simp
    | cons o os ih =>
      rw [map_cons, map_cons, map_cons, map_cons, sum_cons, sum_cons,
        sum_cons, sum_cons, ih, o.net_eq]
      ring
  refine ⟨⟨?_, ?_, ?_, ?_⟩, rfl, rfl⟩
  · rw [hsum, hgross]
    ring
  · rw [hsum, hcosts]
    ring
  · rw [hsum, hrebates]
    ring
  · rw [hsum, hnet, hos]
    ring

theorem calculate_ok
    (hattributed : ∀ id ∈ portfolio.components.map PortfolioComponent.componentId,
      attribution.attributed.get id = some (cycleTotals (cyclesOf cycles id)))
    (h : pnlObservations env reports portfolio scope attribution accountNetPnl =
      .ok (portfolioPnl, componentPnl)) :
    ∃ metrics, calculateComponentAttributionMetrics portfolioPnl componentPnl = .ok metrics := by
  obtain ⟨hconserves, -, -⟩ := conserves_of_ok h
  obtain ⟨os, hos, hscopes, hids, -, -⟩ := exists_components env reports scope hattributed
  unfold pnlObservations at h
  simp only [bind_eq_ok, pure_eq_ok, Except.ok.injEq, Prod.mk.injEq] at h
  obtain ⟨p, hp, os', hos', u, hu, rfl, rfl⟩ := h
  rw [hos, Except.ok.injEq] at hos'
  subst hos'
  obtain ⟨hscope, hid, -, -, -, -⟩ := makeComponentPnl_eq_ok hu
  obtain rfl := makePortfolioPnl_eq_ok hp
  have hcomponentIds : (os ++ [u]).map ComponentPnlObservation.componentId =
      portfolio.components.map PortfolioComponent.componentId ++ [unallocatedComponentId] := by
    rw [map_append, hids, map_singleton, hid]
  have hnodup : ((os ++ [u]).map ComponentPnlObservation.componentId).Nodup := by
    rw [hcomponentIds, nodup_append]
    refine ⟨portfolio.unique_ids, nodup_singleton _, fun a ha b hb heq => ?_⟩
    rw [mem_singleton] at hb
    exact portfolio.reserved_id (hb ▸ heq ▸ ha)
  have hperm : ∀ f : ComponentPnlObservation → ℚ,
      ((sortBy ComponentPnlObservation.componentId (os ++ [u])).map f).sum =
        ((os ++ [u]).map f).sum :=
    fun f => ((perm_sortBy _ _).map f).sum_eq
  obtain ⟨us, hus⟩ : ∃ us : List Unit, (sortBy ComponentPnlObservation.componentId (os ++ [u])).map
      (checkBound ⟨scope, accountNetPnl + attribution.totalCosts - attribution.totalRebates,
        accountNetPnl, sortBy id (portfolio.components.map PortfolioComponent.componentId),
        scope.resultBundleDigest⟩) = us.map .ok := by
    refine exists_map_ok fun o ho => ⟨(), ?_⟩
    have hbound : o.scope = scope := by
      rw [mem_sortBy, mem_append, mem_singleton] at ho
      rcases ho with ho | rfl
      · exact hscopes o ho
      · exact hscope
    unfold checkBound
    rw [hbound, ensure_of rfl, ok_bind, ensure_of rfl, ok_bind, ensure_of rfl, ok_bind,
      ensure_of rfl, ok_bind, ensure_of rfl]
  unfold calculateComponentAttributionMetrics
  rw [ensure_of (by simp), ok_bind]
  dsimp only
  rw [ensure_of hnodup, ok_bind, ensure_of ?hexpected, ok_bind, ensure_of ?hdeclared, ok_bind,
    collect_eq_ok.2 hus, ok_bind, ensure_of ?hgross, ok_bind, ensure_of ?hnet, ok_bind]
  · exact ⟨_, rfl⟩
  case hexpected =>
    intro c hc
    rw [mem_sortBy] at hc
    rw [hcomponentIds]
    exact mem_append_left _ hc
  case hdeclared =>
    intro c hc
    rw [hcomponentIds, mem_append, mem_singleton] at hc
    rwa [mem_sortBy]
  case hgross =>
    rw [hperm]
    exact hconserves.gross
  case hnet =>
    rw [hperm]
    exact hconserves.net

end

/-! ## The attribution -/

def ClaimedByTrade (cycles : List PositionCycle) (f : NativeFill) : Prop :=
  f.clientOrderId ≠ none ∧ ∃ c ∈ cycles, c.ByTrade f

def ClaimedByPosition (cycles : List PositionCycle) (f : NativeFill) : Prop :=
  f.clientOrderId ≠ none ∧ ∃ c ∈ cycles, c.ByPosition f

instance (cycles : List PositionCycle) (f : NativeFill) : Decidable (ClaimedByTrade cycles f) :=
  inferInstanceAs (Decidable (_ ∧ _))

instance (cycles : List PositionCycle) (f : NativeFill) : Decidable (ClaimedByPosition cycles f) :=
  inferInstanceAs (Decidable (_ ∧ _))

/-- What is claimed twice weighs at most what is not claimed. -/
def CoversOverlap (w : NativeFill → ℚ) (fills : List NativeFill) (cycles : List PositionCycle) :
    Prop :=
  ((fills.filter fun f => ClaimedByTrade cycles f ∧ ClaimedByPosition cycles f).map w).sum ≤
    ((fills.filter fun f => ¬ ClaimedByTrade cycles f ∧ ¬ ClaimedByPosition cycles f).map w).sum

instance (w : NativeFill → ℚ) (fills : List NativeFill) (cycles : List PositionCycle) :
    Decidable (CoversOverlap w fills cycles) :=
  inferInstanceAs (Decidable (_ ≤ _))

/-- Metrics are built of observations that conserve the sums of the portfolio. -/
def PnlBalanced (env : PnlEnv) (equity : EquityScope) (reports : NativeReports)
    (portfolio : PortfolioComposition) (scope : PnlScope) (attribution : PnlAttribution)
    (accountNetPnl : PyDecimal) : Prop :=
  ∃ portfolioPnl componentPnl metrics,
    pnlObservations env reports portfolio scope attribution accountNetPnl.value =
      .ok (portfolioPnl, componentPnl) ∧
    Conserves attribution portfolioPnl componentPnl ∧
    portfolioPnl.netPnl = accountNetPnl.value ∧
    portfolioPnl.grossPnl =
      accountNetPnl.value + attribution.totalCosts - attribution.totalRebates ∧
    buildComponentPnlMetrics env equity reports portfolio accountNetPnl = .ok metrics

section
variable {env : PnlEnv} {equity : EquityScope} {reports : NativeReports}
  {portfolio : PortfolioComposition} {window : ScoringWindow} {scope : PnlScope}
  {attribution : PnlAttribution} {orders : OrderIndex} {fills : List NativeFill}
  {cycles : List PositionCycle} {rows : List ReportRow} {baseCurrency : String}

theorem sum_le_iff {w : NativeFill → ℚ}
    (hof : ∀ c ∈ cycles, CycleOf window baseCurrency orders (joined fills) c)
    (hpositions : (cycles.map PositionCycle.positionId).Nodup)
    (htrades : (cycles.flatMap PositionCycle.tradeIds).Nodup) :
    (cycles.map fun c => (c.fills.map w).sum).sum ≤ (fills.map w).sum ↔
      CoversOverlap w fills cycles := by
  have hjoined : ∀ (q : NativeFill → Prop) [DecidablePred q],
      ((joined fills).filter fun f => q f) = fills.filter fun f => f.clientOrderId ≠ none ∧ q f := by
    intro q _
    unfold joined
    rw [filter_filter]
    exact filter_congr fun f _ => by simp [Bool.and_comm]
  rw [sum_cycles hof hpositions htrades, hjoined, hjoined]
  exact add_le_sum_iff

theorem declared_of_cycle {c : PositionCycle}
    (horders : indexNativeOrders portfolio rows = .ok orders)
    (hc : CycleOf window baseCurrency orders (joined fills) c) :
    c.componentId ∈ portfolio.components.map PortfolioComponent.componentId := by
  obtain ⟨f, hf⟩ := exists_mem_of_ne_nil _ hc.nonempty
  obtain ⟨o, -, hcomponent⟩ := hc.component f hf
  exact declared_of_orderComponent horders hcomponent

/-- **The attribution** that is accepted gives a fill to one component; and it is built, with the
sums of the portfolio, exactly when the fills that are claimed by their trade and by their position
have no more costs, and no more rebates, than those that are not claimed. -/
theorem component_pnl {negative : Bool} {coefficient : ℕ} {exponent : ℤ}
    (hscope : pnlScope env equity reports portfolio = .ok (window, scope))
    (hjoin : joinReports env reports portfolio window = .ok attribution) :
    ∃ (orders : OrderIndex) (fills : List NativeFill) (cycles : List (Option PositionCycle)),
      indexNativeOrders portfolio (reports.rows .orders) = .ok orders ∧
      (reports.rows .fills).map (readFill env window portfolio.baseCurrency) = fills.map .ok ∧
      (reports.rows .positions).map
        (positionCycle env window portfolio.baseCurrency orders (joined fills)) =
          cycles.map .ok ∧
      (cycles.reduceOption.map PositionCycle.positionId).Nodup ∧
      (∀ f, ∀ c ∈ cycles.reduceOption, ∀ c' ∈ cycles.reduceOption, f ∈ c.fills → f ∈ c'.fills →
        c.componentId = c'.componentId) ∧
      (PnlBalanced env equity reports portfolio scope attribution
          (.finite negative coefficient exponent) ↔
        CoversOverlap NativeFill.costs fills cycles.reduceOption ∧
          CoversOverlap NativeFill.rebates fills cycles.reduceOption) := by
  have hbuild : buildComponentPnlMetrics env equity reports portfolio
      (.finite negative coefficient exponent) =
      pnlObservations env reports portfolio scope attribution
        (PyDecimal.finite negative coefficient exponent).value >>= fun r =>
          calculateComponentAttributionMetrics r.1 r.2 := by
    unfold buildComponentPnlMetrics
    dsimp only
    rw [hscope, ok_bind]
    dsimp only
    rw [hjoin]
  unfold joinReports at hjoin
  simp only [bind_eq_ok, pure_eq_ok, Except.ok.injEq, raising_eq_ok] at hjoin
  obtain ⟨orders, horders, index, hindex, claims, hclaims, rfl⟩ := hjoin
  obtain ⟨fills, hfills, hindexes⟩ := indexNativeFillsAndCosts_eq_ok hindex
  rw [hindexes.table] at hclaims
  obtain ⟨cycles, hcycles, hof, hclaimed⟩ := attributeClosedPositions_eq_ok hclaims
  have hdeclared := fun c hc => declared_of_cycle horders (hof c hc)
  refine ⟨orders, fills, cycles, horders, hfills, hcycles, hclaimed.unique_positions,
    fun f c hc c' hc' hf hf' => component_of_claims (hof c hc) (hof c' hc') hf hf', ?_⟩
  rw [← sum_le_iff hof hclaimed.unique_positions hclaimed.unique_trades,
    ← sum_le_iff hof hclaimed.unique_positions hclaimed.unique_trades, ← hindexes.costs,
    ← hindexes.rebates]
  have hok : (∃ r, pnlObservations env reports portfolio scope
      ⟨index.costs, index.rebates, claims.attributed⟩
      (PyDecimal.finite negative coefficient exponent).value = .ok r) ↔ _ :=
    pnlObservations_ok_iff hclaimed.attributed hdeclared
  refine Iff.trans ?_ hok
  constructor
  · rintro ⟨portfolioPnl, componentPnl, -, hobservations, -⟩
    exact ⟨_, hobservations⟩
  · rintro ⟨⟨portfolioPnl, componentPnl⟩, hobservations⟩
    obtain ⟨hconserves, hnet, hgross⟩ := conserves_of_ok hobservations
    obtain ⟨metrics, hmetrics⟩ := calculate_ok hclaimed.attributed hobservations
    refine ⟨portfolioPnl, componentPnl, metrics, hobservations, hconserves, hnet, hgross, ?_⟩
    rw [hbuild, hobservations]
    exact hmetrics

end

/-! ## A fill and two positions -/

def samplePnlEnv : PnlEnv where
  sha256 := sampleEncoding.sha256
  parseDecimal := fun _ => none
  fromIsoFormat := fun _ => none

def tenNanoseconds : ScoringWindow := ⟨⟨"window"⟩, 0, 10, by decide, by decide⟩

def sampleEquityScope : EquityScope where
  attemptId := "attempt-1"
  portfolioFingerprint := stockPortfolio.fingerprint
  window := some tenNanoseconds
  contentDigest := ⟨"trace"⟩
  attemptId_notBlank := Eq.refl true

def orderRow : ReportRow :=
  ⟨[("client_order_id", .text "O-1"), ("tags", .list [.text "strategy-lab-v2:component:a"])],
    by simp⟩

def fillRow : ReportRow :=
  ⟨[("client_order_id", .text "O-1"), ("position_id", .text "P-1"), ("trade_id", .text "T-1"),
    ("ts_event", .int 5), ("commission", .int 2), ("commission_currency", .text "USD")], by simp⟩

def olderPositionRow : ReportRow :=
  ⟨[("position_id", .text "P-1"), ("client_order_ids", .list [.text "O-1"]),
    ("ts_opened", .int 5), ("ts_closed", .int 6), ("realized_pnl", .int 10),
    ("realized_pnl_currency", .text "USD")], by simp⟩

def tradePositionRow : ReportRow :=
  ⟨[("position_id", .text "P-2"), ("client_order_ids", .list [.text "O-1"]),
    ("trade_ids", .list [.text "T-1"]), ("ts_opened", .int 5), ("ts_closed", .int 6),
    ("realized_pnl", .int 3), ("realized_pnl_currency", .text "USD")], by simp⟩

def sampleReports (positions : List ReportRow) : NativeReports where
  portfolioFingerprint := stockPortfolio.fingerprint
  contentDigest := ⟨"reports"⟩
  records := [(.orders, orderRow), (.fills, fillRow)] ++ positions.map fun p => (.positions, p)

def samplePnlScope (positions : List ReportRow) : PnlScope where
  portfolioFingerprint := stockPortfolio.fingerprint
  runAttemptId := "attempt-1"
  eventTime := ⟨62135596800000000, by decide⟩
  baseCurrency := "USD"
  resultBundleDigest := resultBundleDigest samplePnlEnv sampleEquityScope
    (sampleReports positions) stockPortfolio
  runAttemptId_notBlank := Eq.refl true

def twoDollarFill : NativeFill := ⟨some "P-1", some "O-1", some "T-1", 5, some ("USD", 2)⟩

def sampleCycle (positionId : String) (tradeIds : List String) (realized : ℚ) : PositionCycle :=
  ⟨positionId, tradeIds, [twoDollarFill], "a", realized⟩

theorem pnlScope_sample (positions : List ReportRow) :
    pnlScope samplePnlEnv sampleEquityScope (sampleReports positions) stockPortfolio =
      .ok (tenNanoseconds, samplePnlScope positions) := by
  rfl

/-- One position accounts for the fill. -/
theorem component_pnl_one_position : ∃ attribution,
    joinReports samplePnlEnv (sampleReports [olderPositionRow]) stockPortfolio tenNanoseconds =
      .ok attribution ∧
    PnlBalanced samplePnlEnv sampleEquityScope (sampleReports [olderPositionRow]) stockPortfolio
      (samplePnlScope [olderPositionRow]) attribution (.finite false 7 0) := by
  have hjoin : (joinReports samplePnlEnv (sampleReports [olderPositionRow]) stockPortfolio
      tenNanoseconds).map (fun a => a.totalCosts) = .ok 2 := by
    decide +kernel
  obtain ⟨attribution, hjoin, -⟩ := map_eq_ok.1 hjoin
  obtain ⟨orders, fills, cycles, horders, hfills, hcycles, -, -, hbalanced⟩ :=
    component_pnl (pnlScope_sample [olderPositionRow]) hjoin
  have horders' : indexNativeOrders stockPortfolio
      ((sampleReports [olderPositionRow]).rows .orders) = .ok [("O-1", some "a")] := by
    decide +kernel
  rw [horders', Except.ok.injEq] at horders
  subst horders
  have hfills' : ((sampleReports [olderPositionRow]).rows .fills).map
      (readFill samplePnlEnv tenNanoseconds stockPortfolio.baseCurrency) =
        [twoDollarFill].map .ok := by
    decide +kernel
  obtain rfl := map_injective_iff.2 (fun _ _ h => Except.ok.inj h) (hfills'.symm.trans hfills)
  have hcycles' : ((sampleReports [olderPositionRow]).rows .positions).map
      (positionCycle samplePnlEnv tenNanoseconds stockPortfolio.baseCurrency [("O-1", some "a")]
        (joined [twoDollarFill])) = [some (sampleCycle "P-1" [] 10)].map .ok := by
    decide +kernel
  obtain rfl := map_injective_iff.2 (fun _ _ h => Except.ok.inj h) (hcycles'.symm.trans hcycles)
  exact ⟨attribution, hjoin, hbalanced.2 (by decide +kernel)⟩

/-- A fill that is claimed by an older row with its position and by a row with its trade: the
reports are accepted, and what is left of the costs is negative. -/
theorem fill_claimed_twice : ∃ attribution,
    joinReports samplePnlEnv (sampleReports [olderPositionRow, tradePositionRow]) stockPortfolio
      tenNanoseconds = .ok attribution ∧
    attribution.totalCosts = 2 ∧
    buildComponentPnlMetrics samplePnlEnv sampleEquityScope
        (sampleReports [olderPositionRow, tradePositionRow]) stockPortfolio (.finite false 7 0) =
      .error (valueError "cost deductions and rebates must be non-negative") ∧
    ¬ PnlBalanced samplePnlEnv sampleEquityScope (sampleReports [olderPositionRow, tradePositionRow])
      stockPortfolio (samplePnlScope [olderPositionRow, tradePositionRow]) attribution
      (.finite false 7 0) := by
  have hjoin : (joinReports samplePnlEnv (sampleReports [olderPositionRow, tradePositionRow])
      stockPortfolio tenNanoseconds).map (fun a => a.totalCosts) = .ok 2 := by
    decide +kernel
  have hbuild : buildComponentPnlMetrics samplePnlEnv sampleEquityScope
      (sampleReports [olderPositionRow, tradePositionRow]) stockPortfolio (.finite false 7 0) =
      .error (valueError "cost deductions and rebates must be non-negative") := by
    decide +kernel
  obtain ⟨attribution, hjoin, hcosts⟩ := map_eq_ok.1 hjoin
  refine ⟨attribution, hjoin, hcosts, hbuild, ?_⟩
  rintro ⟨-, -, metrics, -, -, -, -, hmetrics⟩
  rw [hbuild] at hmetrics
  cases hmetrics

end ChartingPlatform
