/-
  What the orders for target positions do.

  The single-component resolver sizes every approved target, those of instruments that are
  held and not requested included; the batch resolver sizes the requested ones.
-/
import ChartingPlatform.Allocation.Decisions
import ChartingPlatform.Nautilus.TargetAllocation

namespace ChartingPlatform

open Lib List

/-! ## One order -/

def OrderIntent.signed (o : OrderIntent) : ℚ :=
  match o.side with
  | .buy => o.quantity
  | .sell => -o.quantity

structure MovesTo (lot target current : ℚ) (o : OrderIntent) : Prop where
  moves : current + o.signed = wholeLots lot target
  bounded : |current + o.signed| ≤ |target|
  side : o.side = .buy ↔ current < wholeLots lot target
  positive : 0 < o.quantity
  lots : IsMultiple lot o.quantity

section
variable {env : TargetEnv} {portfolio : PortfolioComposition} {account : NativeAccount}
  {definition : NativeInstrument} {terms : SizingTerms} {instrumentId : String}
  {notional markPrice current target : ℚ} {o : Option OrderIntent} {order : OrderIntent}

structure Sized (instrumentId : String) (terms : SizingTerms) (target current : ℚ)
    (o : OrderIntent) : Prop where
  instrument : o.instrumentId = instrumentId
  side : o.side = if current < wholeLots terms.sizeIncrement target then .buy else .sell
  quantity : o.quantity = roundAt (10 ^ (-terms.sizePrecision))
    |wholeLots terms.sizeIncrement target - current|
  distinct : wholeLots terms.sizeIncrement target ≠ current
  held : IsMultiple terms.sizeIncrement current

theorem marketOrder_eq_ok {side : OrderSide} {quantity : ℚ}
    (h : marketOrder instrumentId side quantity = .ok order) :
    order.instrumentId = instrumentId ∧ order.side = side ∧ order.quantity = quantity := by
  unfold marketOrder at h
  split_ifs at h
  cases h
  exact ⟨rfl, rfl, rfl⟩

theorem sizeOrder_eq_ok
    (h : sizeOrder env definition terms instrumentId notional markPrice current = .ok o) :
    wholeLots terms.sizeIncrement (notional / (markPrice * terms.multiplier)) = current ∧ o = none ∨
      ∃ order, o = some order ∧
        Sized instrumentId terms (notional / (markPrice * terms.multiplier)) current order := by
  unfold sizeOrder at h
  dsimp only at h
  rw [← wholeLots_eq] at h
  rw [bind_eq_ok] at h
  obtain ⟨_, hheld, h⟩ := h
  rw [ensure_eq_ok] at hheld
  have hmultiple := (floor_div_eq_iff terms.sizeIncrement_pos.ne').1 hheld
  split_ifs at h with hdelta hside
  · cases h
    exact .inl ⟨sub_eq_zero.1 hdelta, rfl⟩
  all_goals
    simp only [bind_eq_ok, pure_eq_ok, Except.ok.injEq] at h
    obtain ⟨-, -, -, -, -, -, order, horder, rfl⟩ := h
    obtain ⟨hinstrument, hsides, hquantity⟩ := marketOrder_eq_ok horder
    refine .inr ⟨order, rfl, hinstrument, ?_, hquantity, sub_ne_zero.1 hdelta, hmultiple⟩
  · rw [hsides, if_pos (sub_pos.1 hside)]
  · rw [hsides, if_neg fun hlt => hside (sub_pos.2 hlt)]

/-- **An order moves to its target** exactly when the distance fits the decimal places. -/
theorem movesTo_iff (h : Sized instrumentId terms target current order) :
    MovesTo terms.sizeIncrement target current order ↔
      IsMultiple (10 ^ (-terms.sizePrecision))
        (wholeLots terms.sizeIncrement target - current) := by
  have hunit : (10 : ℚ) ^ (-terms.sizePrecision) ≠ 0 := zpow_ne_zero _ (by norm_num)
  have hround : order.quantity = |wholeLots terms.sizeIncrement target - current| ↔
      IsMultiple (10 ^ (-terms.sizePrecision)) (wholeLots terms.sizeIncrement target - current) := by
    rw [h.quantity, roundAt_eq_self hunit, isMultiple_abs]
  have hsigned : current + order.signed = wholeLots terms.sizeIncrement target ↔
      order.quantity = |wholeLots terms.sizeIncrement target - current| := by
    unfold OrderIntent.signed
    rw [h.side]
    split_ifs with hlt
    · rw [abs_of_pos (sub_pos.2 hlt)]
      exact ⟨fun heq => by linarith, fun heq => by linarith⟩
    · rw [abs_of_nonpos (sub_nonpos.2 (not_lt.1 hlt))]
      exact ⟨fun heq => by linarith, fun heq => by linarith⟩
  rw [← hround, ← hsigned]
  constructor
  · exact fun hmoves => hmoves.moves
  · intro hmoves
    refine ⟨hmoves, ?_, ?_, order.quantity_pos, ?_⟩
    · rw [hmoves]
      exact abs_wholeLots_le terms.sizeIncrement_pos
    · rw [h.side]
      split_ifs with hlt
      · exact ⟨fun _ => hlt, fun _ => rfl⟩
      · exact ⟨fun heq => (nomatch heq), fun hlt' => absurd hlt' hlt⟩
    · rw [hsigned.1 hmoves, isMultiple_abs]
      exact isMultiple_wholeLots.sub h.held

/-! ## The order for a share -/

def sizingTermsOf (env : TargetEnv) (portfolio : PortfolioComposition) (account : NativeAccount)
    (instrumentId : String) : Option (SizingTerms × ℚ) :=
  match account.instruments.get instrumentId, account.markPrices.get instrumentId with
  | some definition, some markPrice =>
    match productClass definition with
    | .ok c => (sizingTerms env definition c (rowWith ProductRiskModel.productClass c
        portfolio.sharedRiskPolicy.riskModels) portfolio.baseCurrency).map fun t => (t, markPrice)
    | .error _ => none
  | _, _ => none

def shareQuantity (account : NativeAccount) (terms : SizingTerms) (markPrice share : ℚ) : ℚ :=
  share * account.accountEquity / (markPrice * terms.multiplier)

def PlacedAs (env : TargetEnv) (portfolio : PortfolioComposition) (account : NativeAccount)
    (instrumentId : String) (share current : ℚ) (o : Option OrderIntent) : Prop :=
  ∃ terms markPrice, sizingTermsOf env portfolio account instrumentId = some (terms, markPrice) ∧
    (wholeLots terms.sizeIncrement (shareQuantity account terms markPrice share) = current ∧
        o = none ∨
      ∃ order, o = some order ∧
        Sized instrumentId terms (shareQuantity account terms markPrice share) current order)

def orderFor (env : TargetEnv) (portfolio : PortfolioComposition) (account : NativeAccount)
    (instrumentId : String) (share current : ℚ) : Except PyError (Option OrderIntent) :=
  match account.instruments.get instrumentId, account.markPrices.get instrumentId with
  | some definition, some markPrice => do
    ensure (0 < markPrice) (valueError "target order requires verified instrument marks")
    sizeTarget env portfolio definition instrumentId (share * account.accountEquity) markPrice current
  | _, _ => .error (valueError "target order requires verified instrument marks")

theorem orderFor_eq_ok {share : ℚ}
    (h : orderFor env portfolio account instrumentId share current = .ok o) :
    PlacedAs env portfolio account instrumentId share current o := by
  unfold orderFor at h
  split at h
  · rename_i definition markPrice hdefinition hmark
    simp only [bind_eq_ok] at h
    obtain ⟨-, -, h⟩ := h
    unfold sizeTarget at h
    simp only [bind_eq_ok] at h
    obtain ⟨c, hc, h⟩ := h
    split at h
    · cases h
    · rename_i terms hterms
      refine ⟨terms, markPrice, ?_, sizeOrder_eq_ok h⟩
      unfold sizingTermsOf
      rw [hdefinition, hmark]
      dsimp only
      rw [hc]
      dsimp only
      rw [hterms, Option.map_some]
  · cases h

theorem PlacedAs.order_ne {share : ℚ}
    (h : PlacedAs env portfolio account instrumentId share current (some order)) :
    ∃ terms markPrice, sizingTermsOf env portfolio account instrumentId = some (terms, markPrice) ∧
      Sized instrumentId terms (shareQuantity account terms markPrice share) current order := by
  obtain ⟨terms, markPrice, hterms, ⟨-, hnone⟩ | ⟨_, hsome, hsized⟩⟩ := h
  · cases hnone
  · cases hsome
    exact ⟨terms, markPrice, hterms, hsized⟩

/-! ## Requests and positions -/

section
variable {eventTime : Instant} {eventSequence : ℕ} {component : PortfolioComponent}
  {batches : Doc (List StrategyIntent)} {requests : List ComponentTargetRequest}
  {r : ComponentTargetRequest} {componentId : String} {exposures : Doc ℚ}
  {positions : List ComponentPositionExposure} {p : ComponentPositionExposure}

structure Requests (portfolio : PortfolioComposition) (batches : Doc (List StrategyIntent))
    (r : ComponentTargetRequest) (t : TargetPositionIntent) : Prop where
  emitted : ∃ batch ∈ batches.entries, batch.1 = r.componentId ∧ .target t ∈ batch.2
  instrument : t.instrumentId = r.instrumentId
  fraction : t.targetFraction = r.targetFractionOfComponentBudget

theorem targetRequest_eq_ok {i : StrategyIntent}
    (h : targetRequest eventTime eventSequence component i = .ok r) :
    ∃ t, i = .target t ∧ r.componentId = component.componentId ∧ t.instrumentId = r.instrumentId ∧
      t.targetFraction = r.targetFractionOfComponentBudget := by
  unfold targetRequest at h
  split at h
  · cases h
  · rename_i t
    simp only [bind_eq_ok, pure_eq_ok, Except.ok.injEq] at h
    obtain ⟨-, -, rfl⟩ := h
    exact ⟨t, rfl, rfl, rfl, rfl⟩

theorem component_id (h : portfolio.component componentId = some component) :
    component ∈ portfolio.components ∧ component.componentId = componentId :=
  mem_of_rowWith h

theorem componentTargetsFromIntents_eq_ok
    (h : componentTargetsFromIntents portfolio eventTime eventSequence batches = .ok requests) :
    (∀ r ∈ requests, ∃ t, Requests portfolio batches r t) ∧
      ∀ batch ∈ batches.entries, ∀ i ∈ batch.2, ∃ t, i = .target t ∧
        ∃ r ∈ requests, r.componentId = batch.1 ∧ t.instrumentId = r.instrumentId ∧
          t.targetFraction = r.targetFractionOfComponentBudget := by
  unfold componentTargetsFromIntents at h
  simp only [bind_eq_ok, collect_eq_ok, pure_eq_ok, Except.ok.injEq] at h
  obtain ⟨groups, hgroups, -, -, rfl⟩ := h
  -- the groups are the requests of the batches
  have hbatch : ∀ batch g, componentRequests portfolio eventTime eventSequence batch = .ok g →
      (∀ r ∈ g, ∃ t, .target t ∈ batch.2 ∧ r.componentId = batch.1 ∧
          t.instrumentId = r.instrumentId ∧ t.targetFraction = r.targetFractionOfComponentBudget) ∧
        ∀ i ∈ batch.2, ∃ t, i = .target t ∧ ∃ r ∈ g, r.componentId = batch.1 ∧
          t.instrumentId = r.instrumentId ∧
            t.targetFraction = r.targetFractionOfComponentBudget := by
    intro batch g hg
    unfold componentRequests at hg
    split at hg
    · cases hg
    · rename_i component hcomponent
      rw [collect_eq_ok] at hg
      have hid := (component_id hcomponent).2
      constructor
      · intro r hr
        obtain ⟨i, hi, hir⟩ := mem_map.1 (hg ▸ ok_mem_map_ok.2 hr)
        obtain ⟨t, rfl, hcomponentId, hinstrument, hfraction⟩ := targetRequest_eq_ok hir
        exact ⟨t, hi, hcomponentId.trans hid, hinstrument, hfraction⟩
      · intro i hi
        obtain ⟨r, hr, hir⟩ := mem_map.1 (hg ▸ mem_map_of_mem hi)
        obtain ⟨t, rfl, hcomponentId, hinstrument, hfraction⟩ := targetRequest_eq_ok hir.symm
        exact ⟨t, rfl, r, hr, hcomponentId.trans hid, hinstrument, hfraction⟩
  constructor
  · intro r hr
    rw [mem_sortBy] at hr
    obtain ⟨g, hg, hr⟩ := mem_flatten.1 hr
    obtain ⟨batch, hmem, hok⟩ := mem_map.1 (hgroups ▸ ok_mem_map_ok.2 hg)
    obtain ⟨t, ht, hcomponentId, hinstrument, hfraction⟩ := (hbatch batch g hok).1 r hr
    exact ⟨t, ⟨batch, (mem_sortBy _).1 hmem, hcomponentId.symm, ht⟩, hinstrument, hfraction⟩
  · intro batch hmem i hi
    obtain ⟨g, hg, hok⟩ := mem_map.1
      (hgroups ▸ mem_map_of_mem ((mem_sortBy Prod.fst).2 hmem))
    obtain ⟨t, rfl, r, hr, hrest⟩ := (hbatch batch g hok.symm).2 i hi
    exact ⟨t, rfl, r, (mem_sortBy _).2 (mem_flatten.2 ⟨g, hg, hr⟩), hrest⟩

def Exposes (componentId : String) (x : String × ℚ) (p : ComponentPositionExposure) : Prop :=
  p.key = (componentId, x.1) ∧ p.signedBaseRiskExposure = x.2

theorem positionExposures_eq_ok (h : positionExposures componentId exposures = .ok positions) :
    (∀ p ∈ positions, ∃ x ∈ exposures.entries, x.2 ≠ 0 ∧ Exposes componentId x p) ∧
      ∀ x ∈ exposures.entries, x.2 ≠ 0 → ∃ p ∈ positions, Exposes componentId x p := by
  unfold positionExposures at h
  simp only [bind_eq_ok, collect_eq_ok, pure_eq_ok, Except.ok.injEq] at h
  obtain ⟨os, hos, rfl⟩ := h
  have hposition : ∀ x o, positionExposure componentId x = .ok o →
      o = none ∧ x.2 = 0 ∨ ∃ p, o = some p ∧ x.2 ≠ 0 ∧ Exposes componentId x p := by
    intro x o ho
    unfold positionExposure at ho
    split_ifs at ho with hzero hblank
    · cases ho
      exact .inl ⟨rfl, hzero⟩
    · cases ho
      exact .inr ⟨_, rfl, hzero, rfl, rfl⟩
  constructor
  · intro p hp
    rw [reduceOption_mem_iff, ← ok_mem_map_ok, ← hos, mem_map] at hp
    obtain ⟨x, hx, ho⟩ := hp
    rcases hposition x _ ho with ⟨hnone, -⟩ | ⟨_, hsome, hne, hexposes⟩
    · cases hnone
    · cases hsome
      exact ⟨x, (mem_sortBy _).1 hx, hne, hexposes⟩
  · intro x hx hne
    obtain ⟨o, ho, heq⟩ := mem_map.1
      (hos ▸ mem_map_of_mem ((mem_sortBy Prod.fst).2 hx))
    rcases hposition x o heq.symm with ⟨-, hzero⟩ | ⟨p, rfl, -, hexposes⟩
    · exact absurd hzero hne
    · exact ⟨p, reduceOption_mem_iff.2 ho, hexposes⟩

end

/-! ## Exact allocations -/

section
variable {snapshot : PortfolioExposureSnapshot} {rs : List ComponentTargetRequest}
  {current resolved es : List Exposure} {totals : ReportedTotals} {d : AllocationDecision}
  {positions : List ComponentPositionExposure} {bindings : List InstrumentRiskBinding}
  {evidenceDigest : Digest} {componentId : String} {e : Exposure}

theorem accountSnapshot_eq_ok
    (h : accountSnapshot portfolio account evidenceDigest positions bindings = .ok snapshot) :
    snapshot.positions = sortBy (fun p => keyOrder p.key) positions ∧
      snapshot.accountEquity = account.accountEquity := by
  unfold accountSnapshot makePortfolioExposureSnapshot at h
  split_ifs at h
  cases h
  exact ⟨rfl, rfl⟩

theorem rewrapped_eq_ok {α : Type} {message : String} {y : Except PyError α} {a : α} :
    rewrapped message y = .ok a ↔ y = .ok a := by
  cases y with
  | ok b => exact Iff.rfl
  | error error =>
    unfold rewrapped
    dsimp only
    split_ifs
    · exact ⟨fun h => (nomatch h), fun h => (nomatch h)⟩
    · exact Iff.rfl

theorem mem_resolved_exactly
    (h : DecidedBy exactly portfolio snapshot rs current resolved totals d) : e ∈ resolved ↔
      (∃ r ∈ rs, Selected portfolio rs r ∧ e = (r.key, portfolio.capitalWeight r.componentId *
        r.targetFractionOfComponentBudget)) ∨
      (∃ p ∈ snapshot.positions, e.2 ≠ 0 ∧
        e = (p.key, p.signedBaseRiskExposure / snapshot.accountEquity)) ∧
        ∀ r ∈ rs, Selected portfolio rs r → r.key ≠ e.1 := by
  rw [h.mem_resolved_iff]
  refine or_congr ?_ (and_congr_left fun _ => ?_)
  · refine exists_congr fun r => and_congr_right fun _ => and_congr_right fun _ => ?_
    rw [target_eq_ok, exactly_apply, Except.ok.injEq]
    exact ⟨fun ⟨hkey, hshare⟩ => Prod.ext hkey hshare.symm, fun heq => heq ▸ ⟨rfl, rfl⟩⟩
  · rw [mem_currentExposures h.current_eq]
    constructor
    · rintro ⟨p, hp, hcurrent⟩
      obtain ⟨-, f, hf, hsome⟩ := currentExposure_eq_ok hcurrent
      rw [exactly_apply, Except.ok.injEq] at hf
      split_ifs at hsome with hzero
      cases hsome
      exact ⟨p, hp, hzero, by rw [hf]⟩
    · rintro ⟨p, hp, hne, heq⟩
      obtain ⟨os, hos, -⟩ := currentExposures_eq_ok h.current_eq
      obtain ⟨o, -, ho⟩ := mem_map.1 (hos ▸ mem_map_of_mem hp)
      obtain ⟨-, f, hf, rfl⟩ := currentExposure_eq_ok ho.symm
      rw [exactly_apply, Except.ok.injEq] at hf
      have hshare : e.2 = f := by rw [heq, hf]
      refine ⟨p, hp, ?_⟩
      rw [← ho, if_neg (hshare ▸ hne), heq, hf]

theorem foldlM_addReported_exactly (hn : (es.map fun e => e.1.2).Nodup)
    (h : es.foldlM (addReported exactly) {} = .ok totals) :
    totals.fractions = es.map (fun e => (e.1.2, e.2)) ∧
      totals.instruments = es.map fun e => (e.1.2, |e.2|) := by
  induction es using List.reverseRecOn generalizing totals with
  | nil =>
    cases h
    exact ⟨rfl, rfl⟩
  | append_singleton es e ih =>
    rw [map_append, map_singleton, nodup_append] at hn
    obtain ⟨before, hbefore, hadd⟩ := foldlM_concat_eq_ok.1 h
    obtain ⟨hfractions, hinstruments⟩ := ih hn.1 hbefore
    have hnew : e.1.2 ∉ es.map fun e => e.1.2 :=
      fun hmem => hn.2.2 _ hmem _ mem_cons_self rfl
    -- the key is new, so its total starts from zero
    have hadded : ∀ (f : Exposure → ℚ) (ts ts' : List (String × ℚ)) (y : ℚ),
        ts = es.map (fun e => (e.1.2, f e)) → addAt exactly ts e.1.2 y = .ok ts' →
          ts' = es.map (fun e => (e.1.2, f e)) ++ [(e.1.2, y)] := by
      rintro f _ ts' y rfl hts
      obtain ⟨t, ht, rfl⟩ := addAt_eq_ok.1 hts
      have hkeys : e.1.2 ∉ (es.map fun e => (e.1.2, f e)).map Prod.fst := by
        rwa [map_map]
      rw [exactly_apply, Except.ok.injEq, totalOf_of_notMem hkeys, zero_add] at ht
      unfold upsert
      rw [if_neg hkeys, ht]
    unfold addReported magnitude at hadd
    simp only [bind_eq_ok, pure_eq_ok, exactly_apply, Except.ok.injEq] at hadd
    obtain ⟨fs, hfs, _, rfl, is, his, -, -, rfl⟩ := hadd
    rw [map_append, map_append]
    exact ⟨hadded (fun e => e.2) _ _ _ hfractions hfs, hadded (fun e => |e.2|) _ _ _ hinstruments his⟩

theorem DecidedBy.pairwise_proposed {arith : Arithmetic}
    (h : DecidedBy arith portfolio snapshot rs current resolved totals d) :
    (proposedExposures resolved ((selectedRequests portfolio rs).map
      ComponentTargetRequest.key)).Pairwise fun a b => keyOrder a.1 < keyOrder b.1 := by
  have hn := nodup_resolvedKeys (nodup_currentKeys h.current_eq) h.resolved_eq
  have hkeys : (resolved.map fun e => keyOrder e.1).Nodup := by
    have := hn.map (f := keyOrder) fun a b hab => hab
    rwa [map_map] at this
  unfold proposedExposures
  exact (pairwise_lt_sortBy hkeys).filter _

theorem instrumentTargets_of_one
    (h : DecidedBy exactly portfolio snapshot rs current resolved totals d)
    (hone : ∀ e ∈ resolved, e.1.1 = componentId) :
    d.proposedInstrumentTargets = (proposedExposures resolved ((selectedRequests portfolio rs).map
      ComponentTargetRequest.key)).map fun e =>
        ⟨e.1.2, e.2, e.2 * snapshot.accountEquity⟩ := by
  have hpairwise := h.pairwise_proposed
  have htargets := h.targets_eq
  have htotals := h.totals_eq
  have hmem : ∀ e ∈ proposedExposures resolved ((selectedRequests portfolio rs).map
      ComponentTargetRequest.key), e ∈ resolved ∧ (e.2 ≠ 0 ∨
        e.1 ∈ (selectedRequests portfolio rs).map ComponentTargetRequest.key) := by
    intro e he
    unfold proposedExposures at he
    rwa [mem_filter, mem_sortBy, decide_eq_true_eq] at he
  generalize proposedExposures resolved ((selectedRequests portfolio rs).map
    ComponentTargetRequest.key) = es at hpairwise htargets htotals hmem ⊢
  have hinstruments : es.Pairwise fun a b => a.1.2 < b.1.2 := by
    refine hpairwise.imp_of_mem fun {a b} ha hb hlt => ?_
    have hcomponents : a.1.1 = b.1.1 :=
      (hone a (hmem a ha).1).trans (hone b (hmem b hb).1).symm
    rcases Prod.Lex.toLex_lt_toLex.1 hlt with hfirst | ⟨-, hsecond⟩
    · exact absurd hcomponents hfirst.ne
    · exact hsecond
  have hn : (es.map fun e => e.1.2).Nodup := nodup_map_of_pairwise_lt hinstruments
  obtain ⟨hfractions, hgross⟩ := foldlM_addReported_exactly hn htotals
  have hsorted : sortBy Prod.fst (es.map fun e => (e.1.2, e.2)) = es.map fun e => (e.1.2, e.2) :=
    sortBy_of_pairwise (pairwise_map.2 hinstruments)
  have hkeep : ∀ f ∈ es.map (fun e => (e.1.2, e.2)),
      0 < totalOf (es.map fun e => (e.1.2, |e.2|)) f.1 ∨
        f.1 ∈ (selectedRequests portfolio rs).map ComponentTargetRequest.instrumentId := by
    intro f hf
    obtain ⟨e, he, rfl⟩ := mem_map.1 hf
    rcases (hmem e he).2 with hne | hselected
    · have htotal : totalOf (es.map fun e => (e.1.2, |e.2|)) e.1.2 = |e.2| :=
        totalOf_eq (by rwa [map_map]) (mem_map_of_mem he)
      exact .inl (htotal ▸ abs_pos.2 hne)
    · obtain ⟨r, hr, hkey⟩ := mem_map.1 hselected
      exact .inr (mem_map.2 ⟨r, hr, congrArg Prod.snd hkey⟩)
  rw [hfractions, hgross, hsorted, filter_eq_self.2 (by simpa using hkeep), map_map]
    at htargets
  have hok : es.map (instrumentTarget exactly snapshot.accountEquity ∘ fun e => (e.1.2, e.2)) =
      (es.map fun e => (⟨e.1.2, e.2, e.2 * snapshot.accountEquity⟩ :
        InstrumentTargetExposure)).map .ok := by
    rw [map_map]
    exact map_congr_left fun e _ => rfl
  rw [hok, collect_map_ok, Except.ok.injEq] at htargets
  exact htargets.symm

end

/-! ## The single-component resolver -/

def NativeAccount.heldQuantity (account : NativeAccount) (instrumentId : String) : ℚ :=
  (account.currentQuantities.get instrumentId).getD 0

theorem oneBatch_nodup (componentId : String) (intents : List StrategyIntent) :
    ([(componentId, intents)].map Prod.fst).Nodup :=
  nodup_singleton _

def oneBatch (componentId : String) (intents : List StrategyIntent) : Doc (List StrategyIntent) :=
  ⟨[(componentId, intents)], oneBatch_nodup componentId intents⟩

/-- The distance from a quantity to the whole lots of a share has no more decimal places than
the instrument. -/
def FitsPrecision (env : TargetEnv) (portfolio : PortfolioComposition) (account : NativeAccount)
    (instrumentId : String) (share current : ℚ) : Prop :=
  ∀ terms markPrice, sizingTermsOf env portfolio account instrumentId = some (terms, markPrice) →
    IsMultiple (10 ^ (-terms.sizePrecision))
      (wholeLots terms.sizeIncrement (shareQuantity account terms markPrice share) - current)

/-- A quantity is that of the whole lots of a share. -/
def AtTarget (env : TargetEnv) (portfolio : PortfolioComposition) (account : NativeAccount)
    (instrumentId : String) (share current : ℚ) : Prop :=
  ∀ terms markPrice, sizingTermsOf env portfolio account instrumentId = some (terms, markPrice) →
    wholeLots terms.sizeIncrement (shareQuantity account terms markPrice share) = current

def MovesToShare (env : TargetEnv) (portfolio : PortfolioComposition) (account : NativeAccount)
    (share current : ℚ) (o : OrderIntent) : Prop :=
  ∃ terms markPrice, sizingTermsOf env portfolio account o.instrumentId = some (terms, markPrice) ∧
    MovesTo terms.sizeIncrement (shareQuantity account terms markPrice share) current o

def OrdersAreRight (env : TargetEnv) (portfolio : PortfolioComposition) (account : NativeAccount)
    (componentId : String) (intents : List StrategyIntent) (orders : List OrderIntent) : Prop :=
  ∀ o ∈ orders, ∃ t, .target t ∈ intents ∧ t.instrumentId = o.instrumentId ∧
    MovesToShare env portfolio account (portfolio.capitalWeight componentId * t.targetFraction)
      (account.heldQuantity o.instrumentId) o

def HeldAtTarget (env : TargetEnv) (portfolio : PortfolioComposition) (account : NativeAccount)
    (intents : List StrategyIntent) : Prop :=
  ∀ x ∈ account.currentBaseExposures.entries, x.2 ≠ 0 →
    (∀ t, .target t ∈ intents → t.instrumentId ≠ x.1) →
      AtTarget env portfolio account x.1 (x.2 / account.accountEquity) (account.heldQuantity x.1)

section
variable {share : ℚ}

theorem PlacedAs.fits_iff (h : PlacedAs env portfolio account instrumentId share current o) :
    FitsPrecision env portfolio account instrumentId share current ↔
      ∀ order, o = some order → MovesToShare env portfolio account share current order := by
  obtain ⟨terms, markPrice, hterms, houtcome⟩ := h
  have hfits : FitsPrecision env portfolio account instrumentId share current ↔
      IsMultiple (10 ^ (-terms.sizePrecision))
        (wholeLots terms.sizeIncrement (shareQuantity account terms markPrice share) - current) := by
    constructor
    · exact fun hfits => hfits terms markPrice hterms
    · intro hmultiple terms' markPrice' hterms'
      rw [hterms, Option.some.injEq, Prod.mk.injEq] at hterms'
      obtain ⟨rfl, rfl⟩ := hterms'
      exact hmultiple
  rw [hfits]
  rcases houtcome with ⟨heq, rfl⟩ | ⟨order, rfl, hsized⟩
  · rw [heq, sub_self]
    exact ⟨fun _ _ hnone => (nomatch hnone), fun _ => ⟨0, by simp⟩⟩
  · rw [← movesTo_iff hsized]
    constructor
    · rintro hmoves _ ⟨⟩
      exact ⟨terms, markPrice, hsized.instrument ▸ hterms, hmoves⟩
    · intro hmoves
      obtain ⟨terms', markPrice', hterms', hmoves⟩ := hmoves order rfl
      rw [hsized.instrument, hterms, Option.some.injEq, Prod.mk.injEq] at hterms'
      obtain ⟨rfl, rfl⟩ := hterms'
      exact hmoves

theorem PlacedAs.atTarget_iff (h : PlacedAs env portfolio account instrumentId share current o) :
    AtTarget env portfolio account instrumentId share current ↔ o = none := by
  obtain ⟨terms, markPrice, hterms, houtcome⟩ := h
  rcases houtcome with ⟨heq, rfl⟩ | ⟨order, rfl, hsized⟩
  · refine ⟨fun _ => rfl, fun _ terms' markPrice' hterms' => ?_⟩
    rw [hterms, Option.some.injEq, Prod.mk.injEq] at hterms'
    obtain ⟨rfl, rfl⟩ := hterms'
    exact heq
  · exact ⟨fun hat => absurd (hat terms markPrice hterms) hsized.distinct, fun hnone => (nomatch hnone)⟩

theorem PlacedAs.instrument (h : PlacedAs env portfolio account instrumentId share current
    (some order)) : order.instrumentId = instrumentId := by
  obtain ⟨_, _, _, hsized⟩ := h.order_ne
  exact hsized.instrument

end

section
variable {componentId : String} {intents : List StrategyIntent} {res : TargetAllocationResolution}
  {e : Exposure} {requests : List ComponentTargetRequest}

theorem resolveTargetPositionIntents_eq_ok
    (h : resolveTargetPositionIntents env portfolio account componentId intents = .ok res) :
    ∃ snapshot requests current resolved totals orders,
      (∀ p ∈ snapshot.positions, ∃ x ∈ account.currentBaseExposures.entries, x.2 ≠ 0 ∧
        Exposes componentId x p) ∧
      (∀ x ∈ account.currentBaseExposures.entries, x.2 ≠ 0 →
        ∃ p ∈ snapshot.positions, Exposes componentId x p) ∧
      snapshot.accountEquity = account.accountEquity ∧
      componentTargetsFromIntents portfolio account.eventTime account.eventSequence
        (oneBatch componentId intents) = .ok requests ∧
      DecidedBy exactly portfolio snapshot requests current resolved totals res.allocation ∧
      res.allocation.riskApprovedInstrumentTargets = res.allocation.proposedInstrumentTargets ∧
      collect (res.allocation.riskApprovedInstrumentTargets.map
        (approvedOrder env portfolio account)) = .ok orders ∧
      res.orderIntents = orders.reduceOption := by
  unfold resolveTargetPositionIntents at h
  split at h
  · cases h
  · simp only [bind_eq_ok, ensure_eq_ok, pure_eq_ok, Except.ok.injEq, rewrapped_eq_ok] at h
    obtain ⟨-, -, -, -, bindings, -, positions, hpositions, snapshot, hsnapshot, requests, hrequests,
      allocation, hallocation, -, hsatisfied, -, -, orders, horders, rfl⟩ := h
    obtain ⟨hsnapshotPositions, hequity⟩ := accountSnapshot_eq_ok hsnapshot
    obtain ⟨current, resolved, totals, hdecided⟩ := allocateComponentTargets_eq_ok hallocation
    have hbreaches : allocation.riskBreaches = [] := by
      rw [hdecided.satisfied_eq, decide_eq_true_eq] at hsatisfied
      exact hsatisfied
    obtain ⟨hread, hexposed⟩ := positionExposures_eq_ok hpositions
    refine ⟨snapshot, requests, current, resolved, totals, orders, fun p hp => hread p ?_,
      fun x hx hne => ?_, hequity, hrequests, hdecided,
      by rw [hdecided.approved_eq, if_pos hbreaches], horders, rfl⟩
    · rwa [hsnapshotPositions, mem_sortBy] at hp
    · obtain ⟨p, hp, hexposes⟩ := hexposed x hx hne
      exact ⟨p, by rwa [hsnapshotPositions, mem_sortBy], hexposes⟩

theorem requests_of_one
    (h : componentTargetsFromIntents portfolio account.eventTime account.eventSequence
      (oneBatch componentId intents) = .ok requests) :
    (∀ r ∈ requests, r.componentId = componentId ∧ ∃ t, .target t ∈ intents ∧
      t.instrumentId = r.instrumentId ∧ t.targetFraction = r.targetFractionOfComponentBudget) ∧
    ∀ t, .target t ∈ intents → ∃ r ∈ requests, r.componentId = componentId ∧
      t.instrumentId = r.instrumentId ∧ t.targetFraction = r.targetFractionOfComponentBudget := by
  obtain ⟨hread, hemitted⟩ := componentTargetsFromIntents_eq_ok h
  constructor
  · intro r hr
    obtain ⟨t, ⟨batch, hbatch, hid, ht⟩, hinstrument, hfraction⟩ := hread r hr
    rw [oneBatch, mem_singleton] at hbatch
    subst hbatch
    exact ⟨hid.symm, t, ht, hinstrument, hfraction⟩
  · intro t ht
    obtain ⟨t', heq, hrest⟩ := hemitted _ mem_cons_self _ ht
    cases heq
    exact hrest

theorem selected_of_one {r : ComponentTargetRequest}
    (hadmissible : Admissible portfolio requests) (hone : ∀ q ∈ requests, q.componentId = componentId)
    (hr : r ∈ requests) : Selected portfolio requests r := by
  intro q hq hinstrument
  refine .inl (inj_on_of_nodup_map hadmissible.unique hq hr ?_)
  exact Prod.ext ((hone q hq).trans (hone r hr).symm) hinstrument

theorem exists_singleShares
    (h : resolveTargetPositionIntents env portfolio account componentId intents = .ok res) :
    ∃ shares : List Exposure, ∃ orders,
      shares.Pairwise (fun a b => keyOrder a.1 < keyOrder b.1) ∧
      (∀ e, e ∈ shares ↔
        (∃ t, .target t ∈ intents ∧
          e = ((componentId, t.instrumentId), portfolio.capitalWeight componentId * t.targetFraction)) ∨
        ∃ x ∈ account.currentBaseExposures.entries, x.2 ≠ 0 ∧
          (∀ t, .target t ∈ intents → t.instrumentId ≠ x.1) ∧
            e = ((componentId, x.1), x.2 / account.accountEquity)) ∧
      collect (shares.map fun e => orderFor env portfolio account e.1.2 e.2
        (account.heldQuantity e.1.2)) = .ok orders ∧
      res.orderIntents = orders.reduceOption := by
  obtain ⟨snapshot, requests, current, resolved, totals, orders, hpositions, hexposed, hequity,
    hrequests, hdecided, happroved, horders, hres⟩ := resolveTargetPositionIntents_eq_ok h
  obtain ⟨hread, hemitted⟩ := requests_of_one hrequests
  have hselected : ∀ r ∈ requests, Selected portfolio requests r :=
    fun r hr => selected_of_one hdecided.admissible (fun q hq => (hread q hq).1) hr
  have hmem : ∀ e, e ∈ resolved ↔
      (∃ t, .target t ∈ intents ∧
        e = ((componentId, t.instrumentId), portfolio.capitalWeight componentId * t.targetFraction)) ∨
      ∃ x ∈ account.currentBaseExposures.entries, x.2 ≠ 0 ∧
        (∀ t, .target t ∈ intents → t.instrumentId ≠ x.1) ∧
          e = ((componentId, x.1), x.2 / account.accountEquity) := by
    intro e
    rw [mem_resolved_exactly hdecided, hequity]
    refine or_congr ?_ ?_
    · constructor
      · rintro ⟨r, hr, -, rfl⟩
        obtain ⟨hid, t, ht, hinstrument, hfraction⟩ := hread r hr
        refine ⟨t, ht, ?_⟩
        rw [hinstrument, hfraction, ← hid]
        rfl
      · rintro ⟨t, ht, rfl⟩
        obtain ⟨r, hr, hid, hinstrument, hfraction⟩ := hemitted t ht
        refine ⟨r, hr, hselected r hr, ?_⟩
        rw [hinstrument, hfraction, ← hid]
        rfl
    · constructor
      · rintro ⟨⟨p, hp, -, rfl⟩, hfree⟩
        obtain ⟨x, hx, hxne, hkey, hexposure⟩ := hpositions p hp
        refine ⟨x, hx, hxne, fun t ht heq => ?_, by rw [hkey, hexposure]⟩
        obtain ⟨r, hr, hid, hinstrument, -⟩ := hemitted t ht
        refine hfree r hr (hselected r hr) ?_
        rw [hkey, ← hid, ← heq, hinstrument]
        rfl
      · rintro ⟨x, hx, hxne, hfree, rfl⟩
        obtain ⟨p, hp, hkey, hexposure⟩ := hexposed x hx hxne
        have hequity_pos : account.accountEquity ≠ 0 := hequity ▸ snapshot.equity_pos.ne'
        refine ⟨⟨p, hp, div_ne_zero hxne hequity_pos, by rw [hkey, hexposure]⟩, fun r hr _ heq => ?_⟩
        obtain ⟨-, t, ht, hinstrument, -⟩ := hread r hr
        exact hfree t ht (hinstrument.trans (congrArg Prod.snd heq))
  have hone : ∀ e ∈ resolved, e.1.1 = componentId := by
    intro e he
    rcases (hmem e).1 he with ⟨_, _, rfl⟩ | ⟨_, _, _, _, rfl⟩ <;> rfl
  refine ⟨proposedExposures resolved ((selectedRequests portfolio requests).map
    ComponentTargetRequest.key), orders, hdecided.pairwise_proposed, fun e => ?_, ?_, hres⟩
  · unfold proposedExposures
    rw [mem_filter, mem_sortBy, decide_eq_true_eq, ← hmem]
    refine and_iff_left_of_imp fun he => ?_
    -- a share of zero is a target
    rcases (hmem e).1 he with ⟨t, ht, rfl⟩ | ⟨x, -, hxne, -, rfl⟩
    · obtain ⟨r, hr, hid, hinstrument, -⟩ := hemitted t ht
      refine .inr (mem_map.2 ⟨r, mem_selectedRequests.2 ⟨hr, hselected r hr⟩, ?_⟩)
      exact Prod.ext hid hinstrument.symm
    · exact .inl (div_ne_zero hxne (hequity ▸ snapshot.equity_pos.ne'))
  · rw [happroved, instrumentTargets_of_one hdecided hone, map_map] at horders
    rw [← horders, hequity]
    rfl

theorem mem_outcomes {β : Type} {l : List β} {f : β → Except PyError (Option OrderIntent)}
    {orders : List (Option OrderIntent)} (h : collect (l.map f) = .ok orders) :
    order ∈ orders.reduceOption ↔ ∃ b ∈ l, f b = .ok (some order) := by
  rw [collect_eq_ok] at h
  rw [reduceOption_mem_iff, ← ok_mem_map_ok, ← h, mem_map]

theorem exists_outcome {β γ : Type} {l : List β} {f : β → Except PyError γ} {orders : List γ}
    (h : collect (l.map f) = .ok orders) {b : β} (hb : b ∈ l) : ∃ c, f b = .ok c := by
  rw [collect_eq_ok] at h
  obtain ⟨c, -, hc⟩ := mem_map.1 (h ▸ mem_map_of_mem hb)
  exact ⟨c, hc.symm⟩

theorem eq_of_key_eq {l : List Exposure} (h : l.Pairwise fun a b => keyOrder a.1 < keyOrder b.1)
    {a b : Exposure} (ha : a ∈ l) (hb : b ∈ l) (hkey : a.1 = b.1) : a = b :=
  inj_on_of_nodup_map (nodup_map_of_pairwise_lt h) ha hb (congrArg keyOrder hkey)

theorem ordersAreRight_iff
    (h : resolveTargetPositionIntents env portfolio account componentId intents = .ok res) :
    OrdersAreRight env portfolio account componentId intents res.orderIntents ↔
      (∀ t, .target t ∈ intents → FitsPrecision env portfolio account t.instrumentId
        (portfolio.capitalWeight componentId * t.targetFraction)
        (account.heldQuantity t.instrumentId)) ∧
      HeldAtTarget env portfolio account intents := by
  obtain ⟨shares, orders, hpairwise, hshares, horders, hres⟩ := exists_singleShares h
  have hmem : ∀ o, o ∈ res.orderIntents ↔ ∃ e ∈ shares, orderFor env portfolio account e.1.2 e.2
      (account.heldQuantity e.1.2) = .ok (some o) := fun o => hres ▸ mem_outcomes horders
  constructor
  · intro hright
    constructor
    · intro t ht
      have hshare := (hshares _).2 (.inl ⟨t, ht, rfl⟩)
      obtain ⟨o, ho⟩ := exists_outcome horders hshare
      refine (orderFor_eq_ok ho).fits_iff.2 fun order horder => ?_
      rw [horder] at ho
      obtain ⟨t', ht', hinstrument, hmoves⟩ := hright order ((hmem order).2 ⟨_, hshare, ho⟩)
      have horderInstrument := (orderFor_eq_ok ho).instrument
      -- the order is that of a target of the same instrument, and so of the same share
      have hsame : portfolio.capitalWeight componentId * t.targetFraction =
          portfolio.capitalWeight componentId * t'.targetFraction :=
        congrArg Prod.snd (eq_of_key_eq hpairwise hshare ((hshares _).2 (.inl ⟨t', ht', rfl⟩))
          (congrArg (componentId, ·) (horderInstrument.symm.trans hinstrument.symm)))
      rw [← hsame, horderInstrument] at hmoves
      exact hmoves
    · intro x hx hne hfree
      have hshare := (hshares _).2 (.inr ⟨x, hx, hne, hfree, rfl⟩)
      obtain ⟨o, ho⟩ := exists_outcome horders hshare
      refine (orderFor_eq_ok ho).atTarget_iff.2 ?_
      cases o with
      | none => rfl
      | some order =>
        obtain ⟨t, ht, hinstrument, -⟩ := hright order ((hmem order).2 ⟨_, hshare, ho⟩)
        exact absurd (hinstrument.trans (orderFor_eq_ok ho).instrument) (hfree t ht)
  · rintro ⟨hfits, hheld⟩ order horder
    obtain ⟨e, he, ho⟩ := (hmem order).1 horder
    have hplaced := orderFor_eq_ok ho
    rcases (hshares e).1 he with ⟨t, ht, rfl⟩ | ⟨x, hx, hne, hfree, rfl⟩
    · refine ⟨t, ht, hplaced.instrument.symm, ?_⟩
      rw [hplaced.instrument]
      exact hplaced.fits_iff.1 (hfits t ht) order rfl
    · cases hplaced.atTarget_iff.1 (hheld x hx hne hfree)

end

/-! ## The batch resolver -/

def ComponentLedgers.quantity (ledgers : ComponentLedgers) (componentId instrumentId : String) : ℚ :=
  ((ledgers.currentComponentQuantities.get componentId).bind fun held =>
    held.get instrumentId).getD 0

def BatchesAreRight (env : TargetEnv) (portfolio : PortfolioComposition) (account : NativeAccount)
    (ledgers : ComponentLedgers) (batches : Doc (List StrategyIntent))
    (orders : List (String × List OrderIntent)) : Prop :=
  ∀ batch ∈ orders, ∀ o ∈ batch.2, ∃ t, (∃ b ∈ batches.entries, b.1 = batch.1 ∧ .target t ∈ b.2) ∧
    t.instrumentId = o.instrumentId ∧
      MovesToShare env portfolio account (portfolio.capitalWeight batch.1 * t.targetFraction)
        (ledgers.quantity batch.1 o.instrumentId) o

section
variable {ledgers : ComponentLedgers} {batches : Doc (List StrategyIntent)} {defer : Bool}
  {res : ComponentTargetAllocationResolution} {requests : List ComponentTargetRequest}
  {snapshot : PortfolioExposureSnapshot} {current resolved : List Exposure}
  {totals : ReportedTotals} {d : AllocationDecision} {e : Exposure}
  {orders : List (Exposure × Option OrderIntent)} {component : PortfolioComponent}
  {f : Exposure → Except PyError (Option OrderIntent)}

theorem componentOrder_eq_ok
    (h : componentOrder env portfolio account ledgers.currentComponentQuantities e = .ok o) :
    orderFor env portfolio account e.1.2 e.2 (ledgers.quantity e.1.1 e.1.2) = .ok o := by
  unfold componentOrder at h
  unfold orderFor ComponentLedgers.quantity
  split at h
  · rename_i definition held hdefinition hheld
    split at h
    · cases h
    · rename_i markPrice hmark
      rw [hdefinition, hmark, hheld]
      exact h
  · cases h

theorem mem_resolvedTargets
    (hrequests : componentTargetsFromIntents portfolio account.eventTime account.eventSequence
      batches = .ok requests)
    (hdecided : DecidedBy exactly portfolio snapshot requests current resolved totals d) :
    e ∈ resolvedTargets batches d ↔ ∃ r ∈ requests, Selected portfolio requests r ∧
      e = (r.key, portfolio.capitalWeight r.componentId * r.targetFractionOfComponentBudget) := by
  obtain ⟨hread, hemitted⟩ := componentTargetsFromIntents_eq_ok hrequests
  have hrejected : ∀ r ∈ requests, (r.key ∉ d.rejectedTargets.map TargetRejection.key ↔
      Selected portfolio requests r) := by
    intro r hr
    constructor
    · intro hnot
      by_contra hselected
      exact hnot (mem_map.2 ⟨_, hdecided.mem_rejected.2 ⟨r, hr, hselected, rfl⟩, rfl⟩)
    · intro hselected hmem
      obtain ⟨t, ht, hkey⟩ := mem_map.1 hmem
      obtain ⟨q, hq, hnot, rfl⟩ := hdecided.mem_rejected.1 ht
      exact hnot (hdecided.eq_of_key hq hr hkey ▸ hselected)
  unfold resolvedTargets
  rw [mem_sortBy, mem_map]
  constructor
  · rintro ⟨x, hx, rfl⟩
    rw [mem_filter, decide_eq_true_eq] at hx
    obtain ⟨hproposed, ⟨batch, hbatch, i, hi, hkey⟩, hnot⟩ := hx
    obtain ⟨t, rfl, r, hr, hid, hinstrument, -⟩ := hemitted batch hbatch i hi
    have hrkey : r.key = x.key := by
      rw [hkey, ← hid]
      exact Prod.ext rfl hinstrument.symm
    have hselected := (hrejected r hr).1 (hrkey ▸ hnot)
    rcases (mem_resolved_exactly hdecided).1 (hdecided.mem_proposed.1 hproposed).1 with hr' | hheld
    · exact hr'
    · exact absurd hrkey (hheld.2 r hr hselected)
  · rintro ⟨r, hr, hselected, rfl⟩
    obtain ⟨t, ⟨batch, hbatch, hid, ht⟩, hinstrument, -⟩ := hread r hr
    refine ⟨⟨r.componentId, r.instrumentId,
      portfolio.capitalWeight r.componentId * r.targetFractionOfComponentBudget⟩, ?_, rfl⟩
    rw [mem_filter, decide_eq_true_eq]
    refine ⟨hdecided.mem_proposed.2 ⟨(mem_resolved_exactly hdecided).2
      (.inl ⟨r, hr, hselected, rfl⟩), .inr ?_⟩, ⟨batch, hbatch, _, ht, ?_⟩, (hrejected r hr).2 hselected⟩
    · exact mem_map.2 ⟨r, mem_selectedRequests.2 ⟨hr, hselected⟩, rfl⟩
    · rw [hid]
      exact Prod.ext rfl hinstrument.symm

theorem exists_batchTargets
    (h : resolveComponentTargetPositionBatches env portfolio account batches ledgers defer =
      .ok res) :
    ∃ requests, ∃ targets : List Exposure, ∃ orders,
      componentTargetsFromIntents portfolio account.eventTime account.eventSequence batches =
        .ok requests ∧
      Admissible portfolio requests ∧
      targets.Pairwise (fun a b => keyOrder a.1 < keyOrder b.1) ∧
      (∀ e, e ∈ targets ↔ ∃ r ∈ requests, Selected portfolio requests r ∧
        e = (r.key, portfolio.capitalWeight r.componentId * r.targetFractionOfComponentBudget)) ∧
      collect (targets.map fun target =>
        (componentOrder env portfolio account ledgers.currentComponentQuantities target).map
          fun order => (target, order)) = .ok orders ∧
      res.componentOrderIntents = ordersByComponent portfolio orders := by
  unfold resolveComponentTargetPositionBatches at h
  simp only [bind_eq_ok, ensure_eq_ok, pure_eq_ok, Except.ok.injEq, rewrapped_eq_ok] at h
  obtain ⟨-, -, -, -, -, -, -, -, -, -, positions, -, bindings, -, snapshot, -, allocation,
    ⟨requests, hrequests, hallocation⟩, -, -, -, -, orders, horders, rfl⟩ := h
  obtain ⟨current, resolved, totals, hdecided⟩ := allocateComponentTargets_eq_ok hallocation
  refine ⟨requests, resolvedTargets batches allocation, orders, hrequests, hdecided.admissible, ?_,
    fun e => mem_resolvedTargets hrequests hdecided, horders, rfl⟩
  unfold resolvedTargets
  refine pairwise_lt_sortBy ?_
  rw [map_map]
  have hkeys := (hdecided.nodup_proposed.map (f := keyOrder) fun a b hab => hab)
  rw [map_map] at hkeys
  exact hkeys.sublist (filter_sublist.map _)

theorem mem_ordersByComponent {c : String} :
    (∃ batch ∈ ordersByComponent portfolio orders, batch.1 = c ∧ order ∈ batch.2) ↔
      c ∈ portfolio.components.map PortfolioComponent.componentId ∧
        ∃ e, e.1.1 = c ∧ (e, some order) ∈ orders := by
  unfold ordersByComponent
  simp only [mem_filter, mem_map, mem_sortedList, mem_toFinset, decide_eq_true_eq]
  have hmem : order ∈ (orders.filter fun o => o.1.1.1 = c).filterMap Prod.snd ↔
      ∃ e, e.1.1 = c ∧ (e, some order) ∈ orders := by
    rw [mem_filterMap]
    constructor
    · rintro ⟨⟨e, o⟩, hmem, rfl⟩
      rw [mem_filter, decide_eq_true_eq] at hmem
      exact ⟨e, hmem.2, hmem.1⟩
    · rintro ⟨e, hc, hmem⟩
      exact ⟨(e, some order), mem_filter.2 ⟨hmem, by simpa using hc⟩, rfl⟩
  constructor
  · rintro ⟨_, ⟨⟨c', hc', rfl⟩, -⟩, rfl, horder⟩
    exact ⟨hc', hmem.1 horder⟩
  · rintro ⟨hc, horder⟩
    exact ⟨_, ⟨⟨c, hc, rfl⟩, ne_nil_of_mem (hmem.2 horder)⟩, rfl, hmem.2 horder⟩

theorem batchesAreRight_iff
    (h : resolveComponentTargetPositionBatches env portfolio account batches ledgers defer =
      .ok res) :
    BatchesAreRight env portfolio account ledgers batches res.componentOrderIntents ↔
      ∀ requests, componentTargetsFromIntents portfolio account.eventTime account.eventSequence
          batches = .ok requests →
        ∀ r ∈ requests, Selected portfolio requests r →
          FitsPrecision env portfolio account r.instrumentId
            (portfolio.capitalWeight r.componentId * r.targetFractionOfComponentBudget)
            (ledgers.quantity r.componentId r.instrumentId) := by
  obtain ⟨requests, targets, orders, hrequests, hadmissible, hpairwise, htargets, horders, hres⟩ :=
    exists_batchTargets h
  obtain ⟨hread, hemitted⟩ := componentTargetsFromIntents_eq_ok hrequests
  have hpair : ∀ e o, (e, o) ∈ orders ↔ e ∈ targets ∧ componentOrder env portfolio account
      ledgers.currentComponentQuantities e = .ok o := by
    intro e o
    rw [← ok_mem_map_ok, ← collect_eq_ok.1 horders, mem_map]
    simp only [map_eq_ok, Prod.mk.injEq]
    constructor
    · rintro ⟨e', he', o', ho', rfl, rfl⟩
      exact ⟨he', ho'⟩
    · rintro ⟨he, ho⟩
      exact ⟨e, he, o, ho, rfl, rfl⟩
  have hmem : ∀ c order, (∃ batch ∈ res.componentOrderIntents, batch.1 = c ∧ order ∈ batch.2) ↔
      c ∈ portfolio.components.map PortfolioComponent.componentId ∧
        ∃ e ∈ targets, e.1.1 = c ∧ componentOrder env portfolio account
          ledgers.currentComponentQuantities e = .ok (some order) := by
    intro c order
    rw [hres, mem_ordersByComponent]
    simp only [hpair]
    exact and_congr_right fun _ => exists_congr fun e => by tauto
  constructor
  · intro hright requests' hrequests' r hr hselected
    rw [hrequests, Except.ok.injEq] at hrequests'
    subst hrequests'
    have htarget := (htargets _).2 ⟨r, hr, hselected, rfl⟩
    obtain ⟨pair, hpairOk⟩ := exists_outcome horders htarget
    obtain ⟨o, ho, -⟩ := map_eq_ok.1 hpairOk
    have hplaced := orderFor_eq_ok (componentOrder_eq_ok ho)
    refine hplaced.fits_iff.2 fun order horder => ?_
    rw [horder] at ho hplaced
    obtain ⟨c, hc, -⟩ := hadmissible.declared r hr
    obtain ⟨batch, hbatch, hid, horderMem⟩ := (hmem r.componentId order).2
      ⟨mem_map.2 ⟨c, component_id hc⟩, _, htarget, rfl, ho⟩
    obtain ⟨t, ⟨b, hb, hbid, ht⟩, hinstrument, hmoves⟩ := hright batch hbatch order horderMem
    obtain ⟨t', heq, q, hq, hqid, hqinstrument, hqfraction⟩ := hemitted b hb _ ht
    cases heq
    have hsame : q = r := by
      refine inj_on_of_nodup_map hadmissible.unique hq hr (Prod.ext ?_ ?_)
      · exact hqid.trans (hbid.trans hid)
      · exact hqinstrument.symm.trans (hinstrument.trans hplaced.instrument)
    rw [hid, hqfraction, hsame, hplaced.instrument] at hmoves
    exact hmoves
  · intro hfits batch hbatch order horder
    obtain ⟨-, e, he, hid, ho⟩ := (hmem batch.1 order).1 ⟨batch, hbatch, rfl, horder⟩
    obtain ⟨r, hr, hselected, rfl⟩ := (htargets e).1 he
    have hplaced := orderFor_eq_ok (componentOrder_eq_ok ho)
    obtain ⟨t, ⟨b, hb, hbid, ht⟩, hinstrument, hfraction⟩ := hread r hr
    refine ⟨t, ⟨b, hb, hbid.trans hid, ht⟩, hinstrument.trans hplaced.instrument.symm, ?_⟩
    rw [hplaced.instrument, hfraction, ← hid]
    exact hplaced.fits_iff.1 (hfits requests hrequests r hr hselected) order rfl

/-! ## One component in both resolvers -/

theorem foldlM_addLedgerValue {fieldName : String}
    {entries totals : List (String × ℚ)} (hn : (entries.map Prod.fst).Nodup)
    (h : entries.foldlM (addLedgerValue fieldName component) [] = .ok totals) :
    totals = entries.filter fun e => e.2 ≠ 0 := by
  induction entries using List.reverseRecOn generalizing totals with
  | nil =>
    cases h
    rfl
  | append_singleton entries e ih =>
    rw [map_append, map_singleton, nodup_append] at hn
    obtain ⟨before, hbefore, hadd⟩ := foldlM_concat_eq_ok.1 h
    obtain rfl := ih hn.1 hbefore
    unfold addLedgerValue at hadd
    simp only [bind_eq_ok, pure_eq_ok, Except.ok.injEq] at hadd
    obtain ⟨-, -, rfl⟩ := hadd
    rw [filter_append]
    have hnew : e.1 ∉ (entries.filter fun e => e.2 ≠ 0).map Prod.fst := by
      intro hmem
      exact hn.2.2 _ ((filter_sublist.map Prod.fst).subset hmem) _ mem_cons_self rfl
    split_ifs with hzero
    · rw [filter_cons_of_neg (by simpa using hzero), filter_nil, append_nil]
    · rw [filter_cons_of_pos (by simpa using hzero), filter_nil, upsert, if_neg hnew,
        totalOf_of_notMem hnew, zero_add]

theorem quantity_of_one (hone : portfolio.components = [component])
    (h : resolveComponentTargetPositionBatches env portfolio account batches ledgers defer =
      .ok res) (instrumentId : String) :
    ledgers.quantity component.componentId instrumentId = account.heldQuantity instrumentId := by
  unfold resolveComponentTargetPositionBatches at h
  simp only [bind_eq_ok, ensure_eq_ok] at h
  obtain ⟨-, -, -, ⟨-, hkeys⟩, -, -, totals, hreconciled, -⟩ := h
  rcases hledger : ledgers.currentComponentQuantities with ⟨entries, hn⟩
  have hentries : ∃ held, entries = [(component.componentId, held)] := by
    rw [hledger, hone] at hkeys
    have hmem : ∀ k, k ∈ entries.map Prod.fst ↔ k = component.componentId := by
      intro k
      rw [← mem_toFinset, hkeys]
      simp
    cases entries with
    | nil => simpa using (hmem component.componentId).2 rfl
    | cons a rest =>
      have ha := (hmem a.1).1 (by simp)
      cases rest with
      | nil => exact ⟨a.2, by rw [← ha]⟩
      | cons b rest =>
        have hb := (hmem b.1).1 (by simp)
        rw [map_cons, map_cons, nodup_cons] at hn
        exact absurd (by rw [ha, ← hb]; exact mem_cons_self) hn.1
  obtain ⟨held, rfl⟩ := hentries
  have hcomponent : portfolio.component component.componentId = some component := by
    unfold PortfolioComposition.component
    rw [hone]
    simp [rowWith]
  unfold reconcileComponentLedger at hreconciled
  rw [hledger] at hreconciled
  simp only [bind_eq_ok, ensure_eq_ok, foldlM_cons, foldlM_nil, bind_pure] at hreconciled
  obtain ⟨sums, hsums, -, hperm, -⟩ := hreconciled
  unfold addLedger at hsums
  rw [hcomponent] at hsums
  dsimp only at hsums
  rw [foldlM_addLedgerValue held.nodup hsums] at hperm
  have hquantity : ledgers.quantity component.componentId instrumentId =
      totalOf held.entries instrumentId := by
    unfold ComponentLedgers.quantity
    rw [hledger]
    unfold Doc.get
    rw [show rowWith Prod.fst component.componentId [(component.componentId, held)] =
      some (component.componentId, held) by simp [rowWith]]
    rfl
  calc ledgers.quantity component.componentId instrumentId
      = totalOf held.entries instrumentId := hquantity
    _ = totalOf (held.entries.filter fun e => e.2 ≠ 0) instrumentId :=
        (totalOf_filter held.nodup).symm
    _ = totalOf (account.currentQuantities.entries.filter fun e => e.2 ≠ 0) instrumentId :=
        totalOf_perm (held.nodup.sublist (filter_sublist.map _)) hperm
    _ = account.heldQuantity instrumentId := totalOf_filter account.currentQuantities.nodup

theorem ordersByComponent_of_one (hone : portfolio.components = [component])
    (hall : ∀ o ∈ orders, o.1.1.1 = component.componentId) :
    (ordersByComponent portfolio orders).flatMap Prod.snd = orders.filterMap Prod.snd := by
  have hids : sortedList (portfolio.components.map PortfolioComponent.componentId).toFinset =
      [component.componentId] := by
    rw [hone, map_singleton, toFinset_cons, toFinset_nil, insert_empty_eq]
    rfl
  have hfilter : (orders.filter fun o => o.1.1.1 = component.componentId) = orders :=
    filter_eq_self.2 fun o ho => decide_eq_true (hall o ho)
  unfold ordersByComponent
  rw [hids, map_singleton, hfilter]
  by_cases hnil : orders.filterMap Prod.snd = []
  · rw [hnil]
    rfl
  · rw [filter_cons_of_pos (by simpa using hnil), filter_nil, flatMap_singleton]

theorem map_snd_pairs {l : List Exposure} {pairs : List (Exposure × Option OrderIntent)}
    (h : l.map (fun e => (f e).map fun o => (e, o)) = pairs.map .ok) :
    l.map f = (pairs.map Prod.snd).map .ok ∧ pairs.map Prod.fst = l := by
  induction l generalizing pairs with
  | nil =>
    rw [map_nil, eq_comm, map_eq_nil_iff] at h
    subst h
    exact ⟨rfl, rfl⟩
  | cons e l ih =>
    cases pairs with
    | nil => cases h
    | cons pair pairs =>
      rw [map_cons, map_cons, List.cons.injEq, map_eq_ok] at h
      obtain ⟨⟨o, ho, rfl⟩, hrest⟩ := h
      obtain ⟨houtcomes, htargets⟩ := ih hrest
      rw [map_cons, map_cons, map_cons, map_cons, ho, houtcomes, htargets]
      exact ⟨rfl, rfl⟩

theorem reduceOption_filter {l : List Exposure} {q : Exposure → Bool} {os os' : List (Option OrderIntent)}
    (h : l.map f = os.map .ok) (h' : (l.filter q).map f = os'.map .ok)
    (hnone : ∀ e ∈ l, q e = false → f e = .ok none) : os.reduceOption = os'.reduceOption := by
  induction l generalizing os os' with
  | nil =>
    rw [map_nil, eq_comm, map_eq_nil_iff] at h
    rw [filter_nil, map_nil, eq_comm, map_eq_nil_iff] at h'
    rw [h, h']
  | cons e l ih =>
    cases os with
    | nil => cases h
    | cons o os =>
      rw [map_cons, map_cons, List.cons.injEq] at h
      have hrest := fun e he => hnone e (mem_cons_of_mem _ he)
      by_cases hq : q e = true
      · rw [filter_cons_of_pos hq] at h'
        cases os' with
        | nil => cases h'
        | cons o' os' =>
          rw [map_cons, map_cons, List.cons.injEq, h.1, Except.ok.injEq] at h'
          obtain ⟨rfl, h'⟩ := h'
          have htail := ih h.2 h' hrest
          cases o with
          | none => exact htail
          | some order => exact congrArg (order :: ·) htail
      · rw [filter_cons_of_neg hq] at h'
        have ho := hnone e mem_cons_self (by simpa using hq)
        rw [h.1, Except.ok.injEq] at ho
        have htail := ih h.2 h' hrest
        rw [ho]
        exact htail

theorem sameOrders_iff {intents : List StrategyIntent}
    {one : TargetAllocationResolution} {several : ComponentTargetAllocationResolution}
    (hone : portfolio.components = [component])
    (h : resolveTargetPositionIntents env portfolio account component.componentId intents = .ok one)
    (h' : resolveComponentTargetPositionBatches env portfolio account
      (oneBatch component.componentId intents) ledgers defer = .ok several) :
    several.orderIntents = one.orderIntents ↔ HeldAtTarget env portfolio account intents := by
  obtain ⟨shares, outcomes, hpairwise, hshares, houtcomes, horders⟩ := exists_singleShares h
  obtain ⟨requests, targets, pairs, hrequests, hadmissible, htargetsPairwise, htargets, hpairs,
    hbatches⟩ := exists_batchTargets h'
  obtain ⟨hread, hemitted⟩ := requests_of_one hrequests
  have htarget : ∀ e, e ∈ targets ↔ ∃ t, .target t ∈ intents ∧
      e = ((component.componentId, t.instrumentId),
        portfolio.capitalWeight component.componentId * t.targetFraction) := by
    intro e
    rw [htargets]
    constructor
    · rintro ⟨r, hr, -, rfl⟩
      obtain ⟨hid, t, ht, hinstrument, hfraction⟩ := hread r hr
      refine ⟨t, ht, ?_⟩
      rw [hinstrument, hfraction, ← hid]
      rfl
    · rintro ⟨t, ht, rfl⟩
      obtain ⟨r, hr, hid, hinstrument, hfraction⟩ := hemitted t ht
      refine ⟨r, hr, selected_of_one hadmissible (fun q hq => (hread q hq).1) hr, ?_⟩
      rw [hinstrument, hfraction, ← hid]
      rfl
  -- the targets are the shares that are requested
  have hfilter : shares.filter (fun e => e ∈ targets) = targets := by
    have hsorted := hpairwise.filter fun e => decide (e ∈ targets)
    have hmem : ∀ e, e ∈ shares.filter (fun e => e ∈ targets) ↔ e ∈ targets := by
      intro e
      rw [mem_filter, decide_eq_true_eq]
      exact and_iff_right_of_imp fun he => (hshares e).2 (.inl ((htarget e).1 he))
    have hperm := (perm_ext_iff_of_nodup
      (nodup_map_of_pairwise_lt hsorted).of_map (nodup_map_of_pairwise_lt htargetsPairwise).of_map).2
      hmem
    exact hperm.eq_of_pairwise (fun _ _ _ _ hab hba => absurd hab hba.not_gt) hsorted htargetsPairwise
  have hquantity := quantity_of_one hone h'
  have hsized : targets.map (fun e => orderFor env portfolio account e.1.2 e.2
      (account.heldQuantity e.1.2)) = (pairs.map Prod.snd).map .ok ∧
        ∀ o ∈ pairs, o.1.1.1 = component.componentId := by
    obtain ⟨houtcomes, hfst⟩ := map_snd_pairs (collect_eq_ok.1 hpairs)
    have hcomponent : ∀ e ∈ targets, e.1.1 = component.componentId := by
      intro e he
      obtain ⟨t, -, rfl⟩ := (htarget e).1 he
      rfl
    constructor
    · rw [← houtcomes]
      refine map_congr_left fun e he => ?_
      obtain ⟨o, -, ho⟩ := mem_map.1 (houtcomes ▸ mem_map_of_mem he)
      rw [← ho, ← hquantity, ← hcomponent e he]
      exact componentOrder_eq_ok ho.symm
    · exact fun o ho => hcomponent o.1 (hfst ▸ mem_map_of_mem ho)
  have hseveral : several.orderIntents = (pairs.map Prod.snd).reduceOption := by
    unfold ComponentTargetAllocationResolution.orderIntents
    rw [hbatches, ordersByComponent_of_one hone hsized.2, List.reduceOption, filterMap_map]
    rfl
  rw [collect_eq_ok] at houtcomes
  constructor
  · intro hsame x hx hne hfree
    have hshare := (hshares _).2 (.inr ⟨x, hx, hne, hfree, rfl⟩)
    obtain ⟨o, ho⟩ := exists_outcome (collect_eq_ok.2 houtcomes) hshare
    refine (orderFor_eq_ok ho).atTarget_iff.2 ?_
    cases o with
    | none => rfl
    | some order =>
      have hmem : order ∈ several.orderIntents := by
        rw [hsame, horders]
        exact (mem_outcomes (collect_eq_ok.2 houtcomes)).2 ⟨_, hshare, ho⟩
      rw [hseveral] at hmem
      obtain ⟨e, he, hplaced⟩ := (mem_outcomes (collect_eq_ok.2 hsized.1)).1 hmem
      obtain ⟨t, ht, rfl⟩ := (htarget e).1 he
      have hinstrument := (orderFor_eq_ok hplaced).instrument.symm.trans (orderFor_eq_ok ho).instrument
      exact absurd hinstrument (hfree t ht)
  · intro hheld
    rw [hseveral, horders]
    refine (reduceOption_filter houtcomes (hfilter.symm ▸ hsized.1) fun e he hnot => ?_).symm
    rcases (hshares e).1 he with ht | ⟨x, hx, hne, hfree, rfl⟩
    · exact absurd ((htarget e).2 ht) (of_decide_eq_false hnot)
    · obtain ⟨o, ho⟩ := exists_outcome (collect_eq_ok.2 houtcomes) he
      have hnone := (orderFor_eq_ok ho).atTarget_iff.1 (hheld x hx hne hfree)
      rw [hnone] at ho
      exact ho

end

end

/-- **The orders of both resolvers** are right exactly when the distances fit the decimal places;
and what is held and not requested must be at its target, for the single-component resolver and
for the two to agree. -/
theorem target_orders (env : TargetEnv) (portfolio : PortfolioComposition)
    (account : NativeAccount) :
    (∀ componentId intents one,
      resolveTargetPositionIntents env portfolio account componentId intents = .ok one →
        (OrdersAreRight env portfolio account componentId intents one.orderIntents ↔
          (∀ t, .target t ∈ intents → FitsPrecision env portfolio account t.instrumentId
            (portfolio.capitalWeight componentId * t.targetFraction)
            (account.heldQuantity t.instrumentId)) ∧
          HeldAtTarget env portfolio account intents)) ∧
    (∀ batches ledgers defer several,
      resolveComponentTargetPositionBatches env portfolio account batches ledgers defer =
          .ok several →
        (BatchesAreRight env portfolio account ledgers batches several.componentOrderIntents ↔
          ∀ requests, componentTargetsFromIntents portfolio account.eventTime
              account.eventSequence batches = .ok requests →
            ∀ r ∈ requests, Selected portfolio requests r →
              FitsPrecision env portfolio account r.instrumentId
                (portfolio.capitalWeight r.componentId * r.targetFractionOfComponentBudget)
                (ledgers.quantity r.componentId r.instrumentId))) ∧
    ∀ component intents ledgers defer one several, portfolio.components = [component] →
      resolveTargetPositionIntents env portfolio account component.componentId intents =
          .ok one →
      resolveComponentTargetPositionBatches env portfolio account
          (oneBatch component.componentId intents) ledgers defer = .ok several →
        (several.orderIntents = one.orderIntents ↔ HeldAtTarget env portfolio account intents) := by
  refine ⟨?_, ?_, ?_⟩
  · intro componentId intents one h
    exact ordersAreRight_iff h
  · intro batches ledgers defer several h
    exact batchesAreRight_iff h
  · intro component intents ledgers defer one several hone h h'
    exact sameOrders_iff hone h h'

/-! ## An account with two stocks -/

/-- An environment whose definitions hold decimals. -/
def sampleTargetEnv : TargetEnv where
  encoding := sampleEncoding
  parseDecimal := fun _ => none

theorem half_mem : 0 < (1 / 2 : ℚ) ∧ (1 / 2 : ℚ) ≤ 1 := by norm_num

def twoStockComponent : PortfolioComponent where
  componentId := "a"
  instrumentIds := ["AAPL", "MSFT"]
  capitalWeight := 1 / 2
  componentId_notBlank := Eq.refl true
  instrumentIds_nonempty := by decide
  instrumentIds_notBlank := by decide
  unique_instruments := by decide
  weight_mem := half_mem

def twoStockPortfolio : PortfolioComposition where
  fingerprint := ⟨"portfolio"⟩
  baseCurrency := "USD"
  components := [twoStockComponent]
  sharedRiskPolicy := stockPolicy
  nonempty := by decide
  unique_ids := by decide
  reserved_id := by decide
  weights_le := ⟨1 / 2, by decide +kernel, by norm_num⟩

def stockDefinition (sizeIncrement : PyDecimal) (sizePrecision : ℤ) : NativeInstrument where
  productClass := .text "equity"
  quoteCurrency := .text "USD"
  multiplier := .decimal (.finite false 1 0)
  sizeIncrement := .decimal sizeIncrement
  sizePrecision := .int sizePrecision

def stockExposures (exposure : ℚ) : Doc ℚ := ⟨[("MSFT", exposure)], nodup_singleton _⟩

/-- An equity of 100, with a unit of the other stock, whose mark is 3. -/
def stockAccount (definition : NativeInstrument) (exposure : ℚ) : NativeAccount where
  runAttemptId := "attempt-1"
  eventTime := clock 1
  eventSequence := 0
  accountEquity := 100
  accountCashBalance := 100
  currentBaseExposures := stockExposures exposure
  currentQuantities := stockExposures 1
  markPrices := ⟨[("AAPL", 1), ("MSFT", 3)], by decide⟩
  instruments := ⟨[("AAPL", definition), ("MSFT", stockDefinition (.finite false 1 0) 0)], by simp⟩

def stockLedgers (exposure : ℚ) : ComponentLedgers where
  currentComponentExposures := ⟨[("a", stockExposures exposure)], nodup_singleton _⟩
  currentComponentQuantities := ⟨[("a", stockExposures 1)], nodup_singleton _⟩

def stockTarget (fraction : ℚ) : TargetPositionIntent where
  instrumentId := "AAPL"
  targetFraction := fraction
  instrumentId_notBlank := Eq.refl true

def OrderIntent.brief (o : OrderIntent) : String × OrderSide × ℚ :=
  (o.instrumentId, o.side, o.quantity)

/-- The first stock trades in whole units, and the other is exposed by its mark. -/
def unitAccount : NativeAccount := stockAccount (stockDefinition (.finite false 1 0) 0) 3

/-- The first stock trades in quarters, and the other is exposed by less than its mark. -/
def quarterAccount : NativeAccount := stockAccount (stockDefinition (.finite false 25 (-2)) 1) 2

def unitTerms : SizingTerms := ⟨1, 1, 0, by norm_num, by norm_num⟩

/-- Sizing in lots that have more decimal places than the instrument. -/
def quarterTerms : SizingTerms := ⟨1, 1 / 4, 1, by norm_num, by norm_num⟩

/-- Five units are bought, and the other stock is at its target. -/
theorem target_orders_five :
    ∃ one several,
      resolveTargetPositionIntents sampleTargetEnv twoStockPortfolio
        unitAccount twoStockComponent.componentId
        [.target (stockTarget (1 / 10))] = .ok one ∧
      resolveComponentTargetPositionBatches sampleTargetEnv twoStockPortfolio
        unitAccount
        (oneBatch twoStockComponent.componentId [.target (stockTarget (1 / 10))]) (stockLedgers 3)
        false = .ok several ∧
      one.orderIntents.map OrderIntent.brief = [("AAPL", .buy, 5)] ∧
      OrdersAreRight sampleTargetEnv twoStockPortfolio
        unitAccount twoStockComponent.componentId
        [.target (stockTarget (1 / 10))] one.orderIntents ∧
      several.orderIntents = one.orderIntents := by
  obtain ⟨hone, -, hsame⟩ := target_orders sampleTargetEnv twoStockPortfolio
    unitAccount
  have heval : ((resolveTargetPositionIntents sampleTargetEnv twoStockPortfolio
      unitAccount twoStockComponent.componentId
      [.target (stockTarget (1 / 10))]).map fun one =>
        one.orderIntents.map OrderIntent.brief) = .ok [("AAPL", .buy, 5)] := by
    decide +kernel
  have heval' : ((resolveComponentTargetPositionBatches sampleTargetEnv twoStockPortfolio unitAccount
      (oneBatch twoStockComponent.componentId [.target (stockTarget (1 / 10))]) (stockLedgers 3)
      false).map fun several => several.orderIntents.map OrderIntent.brief) =
        .ok [("AAPL", .buy, 5)] := by
    decide +kernel
  obtain ⟨one, h, hbrief⟩ := map_eq_ok.1 heval
  obtain ⟨several, h', -⟩ := map_eq_ok.1 heval'
  have hfirst : sizingTermsOf sampleTargetEnv twoStockPortfolio
      unitAccount "AAPL" = some (unitTerms, 1) := by
    decide +kernel
  have hsecond : sizingTermsOf sampleTargetEnv twoStockPortfolio
      unitAccount "MSFT" = some (unitTerms, 3) := by
    decide +kernel
  have hheld : HeldAtTarget sampleTargetEnv twoStockPortfolio
      unitAccount [.target (stockTarget (1 / 10))] := by
    intro x hx _ _ terms markPrice hterms
    obtain rfl : x = ("MSFT", 3) := mem_singleton.1 hx
    rw [hsecond, Option.some.injEq, Prod.mk.injEq] at hterms
    obtain ⟨rfl, rfl⟩ := hterms
    decide +kernel
  refine ⟨one, several, h, h', hbrief, (hone _ _ _ h).2 ⟨?_, hheld⟩,
    (hsame twoStockComponent _ _ _ _ _ rfl h h').2 hheld⟩
  intro t ht terms markPrice hterms
  obtain rfl : t = stockTarget (1 / 10) := by simpa using ht
  rw [show (stockTarget (1 / 10)).instrumentId = "AAPL" from rfl, hfirst, Option.some.injEq,
    Prod.mk.injEq] at hterms
  obtain ⟨rfl, rfl⟩ := hterms
  exact ⟨5, by decide +kernel⟩

/-- A quarter of a unit is a lot, and the instrument has one decimal place: the order is no
multiple of the lot. What is held of the other stock is exposed by less than its mark, so that one
resolver sells it and the other does not. -/
theorem order_outside_the_lot :
    ∃ one several,
      resolveTargetPositionIntents sampleTargetEnv twoStockPortfolio
        quarterAccount "a"
        [.target (stockTarget (1 / 200))] = .ok one ∧
      resolveComponentTargetPositionBatches sampleTargetEnv twoStockPortfolio
        quarterAccount
        (oneBatch "a" [.target (stockTarget (1 / 200))]) (stockLedgers 2) false = .ok several ∧
      one.orderIntents.map OrderIntent.brief = [("AAPL", .buy, 1 / 5), ("MSFT", .sell, 1)] ∧
      several.orderIntents.map OrderIntent.brief = [("AAPL", .buy, 1 / 5)] ∧
      ¬ OrdersAreRight sampleTargetEnv twoStockPortfolio
        quarterAccount "a"
        [.target (stockTarget (1 / 200))] one.orderIntents ∧
      ¬ BatchesAreRight sampleTargetEnv twoStockPortfolio
        quarterAccount (stockLedgers 2)
        (oneBatch "a" [.target (stockTarget (1 / 200))]) several.componentOrderIntents ∧
      several.orderIntents ≠ one.orderIntents := by
  have heval : ((resolveTargetPositionIntents sampleTargetEnv twoStockPortfolio
      quarterAccount "a"
      [.target (stockTarget (1 / 200))]).map fun one =>
        one.orderIntents.map OrderIntent.brief) =
          .ok [("AAPL", .buy, 1 / 5), ("MSFT", .sell, 1)] := by
    decide +kernel
  have heval' : ((resolveComponentTargetPositionBatches sampleTargetEnv twoStockPortfolio
      quarterAccount
      (oneBatch "a" [.target (stockTarget (1 / 200))]) (stockLedgers 2) false).map fun several =>
        several.componentOrderIntents.map fun batch =>
          (batch.1, batch.2.map OrderIntent.brief)) = .ok [("a", [("AAPL", .buy, 1 / 5)])] := by
    decide +kernel
  obtain ⟨one, h, hbrief⟩ := map_eq_ok.1 heval
  obtain ⟨several, h', hbatches⟩ := map_eq_ok.1 heval'
  have hterms : sizingTermsOf sampleTargetEnv twoStockPortfolio
      quarterAccount "AAPL" =
        some (quarterTerms, 1) := by
    decide +kernel
  -- a fifth is no multiple of a quarter
  have hfifth : ∀ (o : OrderIntent) (share current : ℚ), o.brief = ("AAPL", .buy, 1 / 5) →
      ¬ MovesToShare sampleTargetEnv twoStockPortfolio
        quarterAccount share current o := by
    rintro o share current hbrief ⟨terms, markPrice, hsized, hmoves⟩
    have hinstrument : o.instrumentId = "AAPL" := congrArg Prod.fst hbrief
    have hquantity : o.quantity = 1 / 5 := congrArg (fun b => b.2.2) hbrief
    rw [hinstrument, hterms, Option.some.injEq, Prod.mk.injEq] at hsized
    obtain ⟨rfl, -⟩ := hsized
    obtain ⟨n, hn⟩ := hmoves.lots
    have hn' : (4 : ℚ) = 5 * n := by
      rw [hquantity, show quarterTerms.sizeIncrement = 1 / 4 from rfl] at hn
      linarith
    have hn'' : (4 : ℤ) = 5 * n := by exact_mod_cast hn'
    omega
  have hsecond : several.orderIntents.map OrderIntent.brief = [("AAPL", .buy, 1 / 5)] := by
    have := congrArg (List.flatMap Prod.snd) hbatches
    rwa [flatMap_map, ← map_flatMap] at this
  refine ⟨one, several, h, h', hbrief, hsecond, ?_, ?_, ?_⟩
  · intro hright
    obtain ⟨o, ho, hobrief⟩ := mem_map.1 (hbrief ▸ mem_cons_self)
    obtain ⟨t, -, -, hmoves⟩ := hright o ho
    exact hfifth o _ _ hobrief hmoves
  · intro hright
    obtain ⟨o, ho, hobrief⟩ := mem_map.1 (hsecond ▸ mem_cons_self)
    obtain ⟨batch, hbatch, ho⟩ := mem_flatMap.1 ho
    obtain ⟨t, -, -, hmoves⟩ := hright batch hbatch o ho
    exact hfifth o _ _ hobrief hmoves
  · intro hsame
    rw [hsame, hbrief] at hsecond
    cases hsecond

end ChartingPlatform
