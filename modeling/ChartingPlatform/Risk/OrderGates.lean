/-
  The liquidity gate and the settlement gate of routed orders (`liquidity_risk.py`,
  `settlement_risk.py`).

  Arithmetic is exact.  Decisions, snapshots and policies are their fields that a gate reads,
  with their fingerprints, and a decision keeps what its checks say as proofs.
-/
import ChartingPlatform.Lib.Firsts
import ChartingPlatform.Lib.KeyedTotals
import ChartingPlatform.Canonical.Value

namespace ChartingPlatform

open Lib List

/-! ## Decisions -/

/-- `RoutedOrder`. -/
@[ext]
structure RoutedOrder where
  fingerprint : Digest
  instrumentId : String
  quantity : ℚ
  estimatedSignedBaseNotional : ℚ
  quantity_pos : 0 < quantity

structure UpstreamDecision where
  fingerprint : Digest
  routingFingerprint : Digest
  portfolioFingerprint : Digest
  exposureSnapshotFingerprint : Digest
  eventTime : Instant
  eventSequence : ℕ
  riskLimitsSatisfied : Bool
  proposedOrders : List RoutedOrder

structure SnapshotBinding where
  fingerprint : Digest
  portfolioFingerprint : Digest
  exposureSnapshotFingerprint : Digest
  eventTime : Instant
  eventSequence : ℕ

/-- `LiquidityRiskDecisionKind`, `SettlementRiskDecisionKind`. -/
inductive GateDecisionKind where
  | approved | riskRejected
  deriving DecidableEq, Repr

/-- `LiquidityRiskDecision`, `SettlementRiskDecision`: a decision with its breaches and what it
    measured. -/
structure GateDecision (β μ : Type) where
  definitionVersion : String
  routingFingerprint : Digest
  upstreamFingerprint : Digest
  portfolioFingerprint : Digest
  exposureSnapshotFingerprint : Digest
  snapshotFingerprint : Digest
  policyFingerprint : Digest
  eventTime : Instant
  eventSequence : ℕ
  kind : GateDecisionKind
  upstreamRiskLimitsSatisfied : Bool
  riskLimitsSatisfied : Bool
  proposedOrders : List RoutedOrder
  riskApprovedOrders : List RoutedOrder
  breaches : List β
  measures : μ
  kind_matches : riskLimitsSatisfied = decide (kind = .approved)
  upstream_first : riskLimitsSatisfied = true → upstreamRiskLimitsSatisfied = true
  all_or_nothing : riskApprovedOrders = if riskLimitsSatisfied then proposedOrders else []
  breach_named : upstreamRiskLimitsSatisfied = true → breaches = [] → riskLimitsSatisfied = true

def checkBinding (own upstream : String) (d : UpstreamDecision) (s : SnapshotBinding) :
    Except PyError Unit := do
  ensure (d.portfolioFingerprint = s.portfolioFingerprint)
    (valueError (own ++ " snapshot does not belong to the " ++ upstream ++ " portfolio"))
  ensure (d.exposureSnapshotFingerprint = s.exposureSnapshotFingerprint)
    (valueError (own ++ " snapshot does not belong to the " ++ upstream ++ " exposure snapshot"))
  ensure (d.eventTime = s.eventTime)
    (valueError (own ++ " snapshot event time does not match the " ++ upstream ++ " decision"))
  ensure (d.eventSequence = s.eventSequence)
    (valueError (own ++ " snapshot event sequence does not match the " ++ upstream ++ " decision"))

def gateDecision {β μ : Type} [DecidableEq β] (version : String) (d : UpstreamDecision)
    (s : SnapshotBinding) (policyFingerprint : Digest) (found : List β) (measures : μ) :
    GateDecision β μ where
  definitionVersion := version
  routingFingerprint := d.routingFingerprint
  upstreamFingerprint := d.fingerprint
  portfolioFingerprint := d.portfolioFingerprint
  exposureSnapshotFingerprint := d.exposureSnapshotFingerprint
  snapshotFingerprint := s.fingerprint
  policyFingerprint := policyFingerprint
  eventTime := d.eventTime
  eventSequence := d.eventSequence
  kind := if d.riskLimitsSatisfied && found.isEmpty then .approved else .riskRejected
  upstreamRiskLimitsSatisfied := d.riskLimitsSatisfied
  riskLimitsSatisfied := d.riskLimitsSatisfied && found.isEmpty
  proposedOrders := d.proposedOrders
  riskApprovedOrders := if d.riskLimitsSatisfied && found.isEmpty then d.proposedOrders else []
  breaches := firsts id found
  measures := measures
  kind_matches := by cases d.riskLimitsSatisfied && found.isEmpty <;> rfl
  upstream_first := fun h => (Bool.and_eq_true_iff.1 h).1
  all_or_nothing := rfl
  breach_named := fun h hnone => by
    have hempty : found = [] := eq_nil_iff_forall_not_mem.2 fun b hb => by
      rw [← mem_firsts_id, hnone] at hb
      cases hb
    simp [h, hempty]

/-! ## Settlement -/

/-- `SettlementOrderEstimate`. -/
structure SettlementOrderEstimate where
  orderFingerprint : Digest
  currency : String
  cashDelta : ℚ
  deriving DecidableEq

/-- `CurrencySettlementCapacity`. -/
structure CurrencySettlementCapacity where
  currency : String
  availableCash : ℚ
  nonneg : 0 ≤ availableCash
  deriving DecidableEq

/-- `SettlementCapacitySnapshot`. -/
structure SettlementCapacitySnapshot where
  binding : SnapshotBinding
  capacities : List CurrencySettlementCapacity
  orderEstimates : List SettlementOrderEstimate
  unique_capacities : (capacities.map (·.currency)).Nodup
  unique_estimates : (orderEstimates.map (·.orderFingerprint)).Nodup

/-- `SettlementRiskPolicy`. -/
structure SettlementRiskPolicy where
  fingerprint : Digest
  minimumRemainingCash : ℚ := 0
  nonneg : 0 ≤ minimumRemainingCash

/-- `SettlementBreach`. -/
inductive SettlementBreach where
  | missingCapacity | missingOrderEstimate | settlementDebit | minimumRemainingCash
  deriving DecidableEq, Repr

structure SettlementMeasures where
  maxGrossSettlementDebit : ℚ
  minimumRemainingCash : ℚ
  deriving DecidableEq

namespace SettlementCapacitySnapshot

variable (s : SettlementCapacitySnapshot)

/-- `estimates.get(order.fingerprint)`. -/
def estimateOf (order : RoutedOrder) : Option SettlementOrderEstimate :=
  rowWith (·.orderFingerprint) order.fingerprint s.orderEstimates

/-- `capacities[currency]`. -/
def capacityOf (currency : String) : Option CurrencySettlementCapacity :=
  rowWith (·.currency) currency s.capacities

end SettlementCapacitySnapshot

/-- The dictionaries and the breaches of the loop over the orders. -/
structure SettlementTotals where
  debits : List (String × ℚ) := []
  deltas : List (String × ℚ) := []
  breaches : List SettlementBreach := []

def SettlementTotals.add (s : SettlementCapacitySnapshot) (t : SettlementTotals)
    (order : RoutedOrder) : SettlementTotals :=
  match s.estimateOf order with
  | none => { t with breaches := t.breaches ++ [.missingOrderEstimate] }
  | some estimate =>
    if (s.capacityOf estimate.currency).isNone then
      { t with breaches := t.breaches ++ [.missingCapacity] }
    else
      { t with
        deltas := addTotal t.deltas estimate.currency estimate.cashDelta
        debits :=
          if estimate.cashDelta < 0 then addTotal t.debits estimate.currency (-estimate.cashDelta)
          else t.debits }

def SettlementCapacitySnapshot.tally (s : SettlementCapacitySnapshot) (orders : List RoutedOrder) :
    SettlementTotals := orders.foldl (SettlementTotals.add s) {}

/-- `sorted(set(deltas) | set(debits))`. -/
def SettlementTotals.currencies (t : SettlementTotals) : List String :=
  sortedList ((t.deltas.map Prod.fst).toFinset ∪ (t.debits.map Prod.fst).toFinset)

def SettlementTotals.currencyBreaches (s : SettlementCapacitySnapshot)
    (policy : SettlementRiskPolicy) (t : SettlementTotals) (currency : String) :
    List SettlementBreach :=
  match s.capacityOf currency with
  | none => []
  | some capacity =>
    (if capacity.availableCash < totalOf t.debits currency then [.settlementDebit] else []) ++
      if capacity.availableCash + totalOf t.deltas currency < policy.minimumRemainingCash then
        [.minimumRemainingCash]
      else []

/-- `apply_settlement_risk_gate`. -/
def applySettlementRiskGate (d : UpstreamDecision) (s : SettlementCapacitySnapshot)
    (policy : SettlementRiskPolicy) :
    Except PyError (GateDecision SettlementBreach SettlementMeasures) := do
  checkBinding "settlement" "liquidity" d s.binding
  let t := s.tally d.proposedOrders
  return gateDecision "strategy-lab.settlement-risk.v1.decimal34-half-even" d s.binding
    policy.fingerprint (t.breaches ++ t.currencies.flatMap (t.currencyBreaches s policy))
    { maxGrossSettlementDebit :=
        t.currencies.foldl (fun most currency => max most (totalOf t.debits currency)) 0
      minimumRemainingCash := policy.minimumRemainingCash }

/-! ## Liquidity -/

/-- `InstrumentLiquidityCapacity`. -/
@[ext]
structure InstrumentLiquidityCapacity where
  instrumentId : String
  availableQuantity : ℚ
  availableBaseNotional : ℚ
  estimatedSlippageBps : ℚ
  quantity_pos : 0 < availableQuantity
  notional_pos : 0 < availableBaseNotional
  slippage_nonneg : 0 ≤ estimatedSlippageBps

/-- `LiquidityCapacitySnapshot`. -/
structure LiquidityCapacitySnapshot where
  binding : SnapshotBinding
  capacities : List InstrumentLiquidityCapacity
  unique_capacities : (capacities.map (·.instrumentId)).Nodup

/-- `LiquidityRiskPolicy`. -/
structure LiquidityRiskPolicy where
  fingerprint : Digest
  maxQuantityParticipation : ℚ := 1
  maxNotionalParticipation : ℚ := 1
  maxEstimatedSlippageBps : ℚ := 100

/-- `LiquidityBreach`. -/
inductive LiquidityBreach where
  | missingCapacity | quantityParticipation | notionalParticipation | estimatedSlippage
  deriving DecidableEq, Repr

structure LiquidityMeasures where
  maxQuantityParticipation : ℚ
  maxNotionalParticipation : ℚ
  maxEstimatedSlippageBps : ℚ
  deriving DecidableEq

/-- `capacities.get(instrument_id)`. -/
def LiquidityCapacitySnapshot.capacityOf (s : LiquidityCapacitySnapshot) (instrumentId : String) :
    Option InstrumentLiquidityCapacity := rowWith (·.instrumentId) instrumentId s.capacities

def participations (orders : List RoutedOrder) (capacity : InstrumentLiquidityCapacity) :
    LiquidityMeasures where
  maxQuantityParticipation := totalOf (totalsBy (·.instrumentId) (·.quantity) orders)
    capacity.instrumentId / capacity.availableQuantity
  maxNotionalParticipation := totalOf (totalsBy (·.instrumentId)
    (fun order => |order.estimatedSignedBaseNotional|) orders) capacity.instrumentId /
      capacity.availableBaseNotional
  maxEstimatedSlippageBps := capacity.estimatedSlippageBps

def instrumentBreaches (s : LiquidityCapacitySnapshot) (policy : LiquidityRiskPolicy)
    (orders : List RoutedOrder) (instrumentId : String) : List LiquidityBreach :=
  match s.capacityOf instrumentId with
  | none => [.missingCapacity]
  | some capacity =>
    let m := participations orders capacity
    (if policy.maxQuantityParticipation < m.maxQuantityParticipation then [.quantityParticipation]
      else []) ++
    (if policy.maxNotionalParticipation < m.maxNotionalParticipation then [.notionalParticipation]
      else []) ++
    if policy.maxEstimatedSlippageBps < capacity.estimatedSlippageBps then [.estimatedSlippage]
    else []

/-- `sorted(set(quantities))`. -/
def orderInstruments (orders : List RoutedOrder) : List String :=
  sortedList ((totalsBy (·.instrumentId) (·.quantity) orders).map Prod.fst).toFinset

/-- `max(values, default=Decimal(0))`. -/
def maxDefault : List ℚ → ℚ
  | [] => 0
  | x :: xs => xs.foldl max x

/-- `apply_liquidity_risk_gate`. -/
def applyLiquidityRiskGate (d : UpstreamDecision) (s : LiquidityCapacitySnapshot)
    (policy : LiquidityRiskPolicy) :
    Except PyError (GateDecision LiquidityBreach LiquidityMeasures) := do
  checkBinding "liquidity" "stress" d s.binding
  let instruments := orderInstruments d.proposedOrders
  let known := (instruments.filterMap s.capacityOf).map (participations d.proposedOrders)
  return gateDecision "strategy-lab.liquidity-risk.v1.decimal34-half-even" d s.binding
    policy.fingerprint (instruments.flatMap (instrumentBreaches s policy d.proposedOrders))
    { maxQuantityParticipation := maxDefault (known.map (·.maxQuantityParticipation))
      maxNotionalParticipation := maxDefault (known.map (·.maxNotionalParticipation))
      maxEstimatedSlippageBps := maxDefault (known.map (·.maxEstimatedSlippageBps)) }

/-! ## What an approval says -/

section
variable {β μ : Type} [DecidableEq β] {version : String} {d : UpstreamDecision}
  {s : SnapshotBinding} {policyFingerprint : Digest} {found : List β} {m : μ}

theorem gateDecision_approved :
    (gateDecision version d s policyFingerprint found m).kind = .approved ↔
      d.riskLimitsSatisfied = true ∧ found = [] := by
  show (if d.riskLimitsSatisfied && found.isEmpty then GateDecisionKind.approved
    else .riskRejected) = .approved ↔ _
  split_ifs with h
  · rw [Bool.and_eq_true, List.isEmpty_iff] at h
    exact ⟨fun _ => h, fun _ => rfl⟩
  · rw [Bool.and_eq_true, List.isEmpty_iff] at h
    exact ⟨fun hk => (nomatch hk), fun hk => absurd hk h⟩

end

namespace SettlementCapacitySnapshot

variable (s : SettlementCapacitySnapshot) (orders : List RoutedOrder) (currency : String)

def estimatesIn : List SettlementOrderEstimate :=
  (orders.filterMap s.estimateOf).filter fun e => e.currency = currency

def grossDebit : ℚ := ((s.estimatesIn orders currency).map fun e => max (-e.cashDelta) 0).sum

/-- All that the orders take out of a currency and bring in. -/
def netChange : ℚ := ((s.estimatesIn orders currency).map (·.cashDelta)).sum

def fundedOf (order : RoutedOrder) : Option SettlementOrderEstimate :=
  (s.estimateOf order).filter fun e => (s.capacityOf e.currency).isSome

def missingOf (order : RoutedOrder) : Option SettlementBreach :=
  match s.estimateOf order with
  | none => some .missingOrderEstimate
  | some e => if (s.capacityOf e.currency).isNone then some .missingCapacity else none

variable {s orders currency} {capacity : CurrencySettlementCapacity}

theorem missingOf_eq_none {order : RoutedOrder} : s.missingOf order = none ↔
    ∃ e capacity, s.estimateOf order = some e ∧ s.capacityOf e.currency = some capacity := by
  unfold missingOf
  cases hestimate : s.estimateOf order with
  | none => simp
  | some e =>
    cases hcapacity : s.capacityOf e.currency with
    | none | some capacity => simp [hcapacity]

theorem tally_eq : s.tally orders =
    { debits := totalsBy (·.currency) (fun e => -e.cashDelta)
        ((orders.filterMap s.fundedOf).filter fun e => e.cashDelta < 0)
      deltas := totalsBy (·.currency) (·.cashDelta) (orders.filterMap s.fundedOf)
      breaches := orders.filterMap s.missingOf } := by
  unfold tally
  induction orders using List.reverseRecOn with
  | nil => rfl
  | append_singleton orders order ih =>
    rw [foldl_append, ih, foldl_cons, foldl_nil, filterMap_append,
      filterMap_append, SettlementTotals.add]
    cases hestimate : s.estimateOf order with
    | none => simp [fundedOf, missingOf, hestimate]
    | some e =>
      cases hcapacity : s.capacityOf e.currency with
      | none => simp [fundedOf, missingOf, hestimate, hcapacity]
      | some capacity =>
        have hfunded : s.fundedOf order = some e := by simp [fundedOf, hestimate, hcapacity]
        have hmissing : s.missingOf order = none := missingOf_eq_none.2 ⟨e, capacity, hestimate,
          hcapacity⟩
        simp only [hcapacity, filterMap_cons, hfunded, hmissing, filterMap_nil,
          append_nil, filter_append, totalsBy_append_singleton]
        by_cases hdebit : e.cashDelta < 0
        · rw [filter_cons_of_pos (by simpa using hdebit), filter_nil,
            totalsBy_append_singleton]
          simp [hdebit]
        · rw [filter_cons_of_neg (by simpa using hdebit), filter_nil, append_nil]
          simp [hdebit]

theorem filter_funded (hcapacity : s.capacityOf currency = some capacity) :
    ((orders.filterMap s.fundedOf).filter fun e => e.currency = currency) =
      s.estimatesIn orders currency := by
  unfold estimatesIn
  induction orders with
  | nil => rfl
  | cons order orders ih =>
    rw [filterMap_cons, filterMap_cons]
    cases hestimate : s.estimateOf order with
    | none =>
      simp only [fundedOf, hestimate, Option.filter_none]
      exact ih
    | some e =>
      by_cases hcurrency : e.currency = currency
      · have hfunded : s.fundedOf order = some e := by simp [fundedOf, hestimate, hcurrency,
          hcapacity]
        rw [hfunded, filter_cons_of_pos (by simpa using hcurrency),
          filter_cons_of_pos (by simpa using hcurrency), ih]
      · rw [filter_cons_of_neg (by simpa using hcurrency), ← ih]
        cases hfunded : s.fundedOf order with
        | none => rfl
        | some e' =>
          obtain rfl : e = e' := Option.some.inj (hestimate.symm.trans (Option.filter_eq_some_iff.1
            hfunded).1)
          exact filter_cons_of_neg (by simpa using hcurrency)

theorem sum_debits (l : List SettlementOrderEstimate) :
    ((l.filter fun e => e.cashDelta < 0).map fun e => -e.cashDelta).sum =
      (l.map fun e => max (-e.cashDelta) 0).sum := by
  induction l with
  | nil => rfl
  | cons e l ih =>
    rw [map_cons, sum_cons, ← ih]
    by_cases hdebit : e.cashDelta < 0
    · rw [filter_cons_of_pos (by simpa using hdebit), map_cons, sum_cons,
        max_eq_left (by linarith)]
    · rw [filter_cons_of_neg (by simpa using hdebit), max_eq_right (by linarith), zero_add]

theorem totalOf_debits (hcapacity : s.capacityOf currency = some capacity) :
    totalOf (s.tally orders).debits currency = s.grossDebit orders currency := by
  rw [tally_eq, totalOf_totalsBy, filter_comm, filter_funded hcapacity, sum_debits]
  rfl

theorem totalOf_deltas (hcapacity : s.capacityOf currency = some capacity) :
    totalOf (s.tally orders).deltas currency = s.netChange orders currency := by
  rw [tally_eq, totalOf_totalsBy, filter_funded hcapacity]
  rfl

theorem mem_currencies : currency ∈ (s.tally orders).currencies ↔
    ∃ e ∈ orders.filterMap s.fundedOf, e.currency = currency := by
  rw [SettlementTotals.currencies, mem_sortedList, Finset.mem_union, mem_toFinset,
    mem_toFinset, tally_eq, mem_keys_totalsBy, mem_keys_totalsBy, mem_map, mem_map]
  constructor
  · rintro (h | ⟨e, he, heq⟩)
    · exact h
    · exact ⟨e, mem_of_mem_filter he, heq⟩
  · exact .inl

theorem currencyBreaches_eq_nil {policy : SettlementRiskPolicy} (hcapacity : s.capacityOf currency = some capacity) :
    (s.tally orders).currencyBreaches s policy currency = [] ↔
      s.grossDebit orders currency ≤ capacity.availableCash ∧
        policy.minimumRemainingCash ≤ capacity.availableCash + s.netChange orders currency := by
  unfold SettlementTotals.currencyBreaches
  rw [hcapacity, totalOf_debits hcapacity, totalOf_deltas hcapacity]
  dsimp only
  rw [append_eq_nil_iff, ite_eq_right_iff, ite_eq_right_iff, ← not_lt, ← not_lt]
  simp

/-- **What a settlement approval says**: the upstream decision is an approval, every order has an
    estimate and a capacity, and each of these currencies can pay all debits and keeps the minimum
    after debits and credits. -/
structure Settles (d : UpstreamDecision) (policy : SettlementRiskPolicy)
    (s : SettlementCapacitySnapshot) : Prop where
  upstream : d.riskLimitsSatisfied = true
  estimated : ∀ order ∈ d.proposedOrders, ∃ e capacity, s.estimateOf order = some e ∧
    s.capacityOf e.currency = some capacity ∧
    s.grossDebit d.proposedOrders e.currency ≤ capacity.availableCash ∧
    policy.minimumRemainingCash ≤ capacity.availableCash + s.netChange d.proposedOrders e.currency

end SettlementCapacitySnapshot

variable {d : UpstreamDecision}

open SettlementCapacitySnapshot in
theorem settlement_approved_iff {s : SettlementCapacitySnapshot}
    {policy : SettlementRiskPolicy} {r : GateDecision SettlementBreach SettlementMeasures}
    (h : applySettlementRiskGate d s policy = .ok r) :
    r.kind = .approved ↔ s.Settles d policy := by
  unfold applySettlementRiskGate at h
  obtain ⟨-, -, h⟩ := bind_eq_ok.1 h
  cases h
  rw [gateDecision_approved, append_eq_nil_iff, flatMap_eq_nil_iff]
  have hbreaches : (s.tally d.proposedOrders).breaches = [] ↔
      ∀ order ∈ d.proposedOrders, s.missingOf order = none := by
    rw [tally_eq, filterMap_eq_nil_iff]
  constructor
  · rintro ⟨hup, hmissing, hlimits⟩
    refine ⟨hup, fun order horder => ?_⟩
    obtain ⟨e, capacity, he, hcapacity⟩ := missingOf_eq_none.1 (hbreaches.1 hmissing order horder)
    refine ⟨e, capacity, he, hcapacity, ?_⟩
    have hmem : e ∈ d.proposedOrders.filterMap s.fundedOf :=
      mem_filterMap.2 ⟨order, horder, by simp [fundedOf, he, hcapacity]⟩
    exact (currencyBreaches_eq_nil hcapacity).1 (hlimits _ (mem_currencies.2 ⟨e, hmem, rfl⟩))
  · rintro ⟨hup, horders⟩
    refine ⟨hup, hbreaches.2 fun order horder => ?_, fun currency hcurrency => ?_⟩
    · obtain ⟨e, capacity, he, hcapacity, -⟩ := horders order horder
      exact missingOf_eq_none.2 ⟨e, capacity, he, hcapacity⟩
    · obtain ⟨e, hmem, rfl⟩ := mem_currencies.1 hcurrency
      obtain ⟨order, horder, hfunded⟩ := mem_filterMap.1 hmem
      obtain ⟨e', capacity, he, hcapacity, hlimits⟩ := horders order horder
      obtain rfl : e' = e := Option.some.inj (he.symm.trans (Option.filter_eq_some_iff.1 hfunded).1)
      exact (currencyBreaches_eq_nil hcapacity).2 hlimits

namespace LiquidityCapacitySnapshot

variable (orders : List RoutedOrder) (instrumentId : String)

def quantityOf : ℚ := ((orders.filter fun o => o.instrumentId = instrumentId).map (·.quantity)).sum

/-- The value that the orders trade of an instrument. -/
def notionalOf : ℚ := ((orders.filter fun o => o.instrumentId = instrumentId).map
  fun o => |o.estimatedSignedBaseNotional|).sum

/-- **What a liquidity approval says**: the upstream decision is an approval and every order is in
    an instrument with a capacity, within all three limits. -/
structure Absorbs (d : UpstreamDecision) (policy : LiquidityRiskPolicy)
    (s : LiquidityCapacitySnapshot) : Prop where
  upstream : d.riskLimitsSatisfied = true
  within : ∀ order ∈ d.proposedOrders, ∃ capacity, s.capacityOf order.instrumentId = some capacity ∧
    quantityOf d.proposedOrders order.instrumentId / capacity.availableQuantity ≤
      policy.maxQuantityParticipation ∧
    notionalOf d.proposedOrders order.instrumentId / capacity.availableBaseNotional ≤
      policy.maxNotionalParticipation ∧
    capacity.estimatedSlippageBps ≤ policy.maxEstimatedSlippageBps

variable {orders instrumentId} {s : LiquidityCapacitySnapshot} {policy : LiquidityRiskPolicy}

theorem mem_orderInstruments : instrumentId ∈ orderInstruments orders ↔
    ∃ order ∈ orders, order.instrumentId = instrumentId := by
  rw [orderInstruments, mem_sortedList, mem_toFinset, mem_keys_totalsBy, mem_map]

theorem instrumentBreaches_eq_nil : instrumentBreaches s policy orders instrumentId = [] ↔
    ∃ capacity, s.capacityOf instrumentId = some capacity ∧
      quantityOf orders instrumentId / capacity.availableQuantity ≤
        policy.maxQuantityParticipation ∧
      notionalOf orders instrumentId / capacity.availableBaseNotional ≤
        policy.maxNotionalParticipation ∧
      capacity.estimatedSlippageBps ≤ policy.maxEstimatedSlippageBps := by
  unfold instrumentBreaches
  cases hcapacity : s.capacityOf instrumentId with
  | none => simp
  | some capacity =>
    obtain rfl : capacity.instrumentId = instrumentId := (mem_of_rowWith hcapacity).2
    dsimp only [participations]
    rw [totalOf_totalsBy, totalOf_totalsBy, append_eq_nil_iff, append_eq_nil_iff,
      ite_eq_right_iff, ite_eq_right_iff, ite_eq_right_iff]
    simp only [reduceCtorEq, imp_false, not_lt, Option.some.injEq, exists_eq_left']
    rw [and_assoc]
    rfl

theorem le_quantityOf {order : RoutedOrder} (h : order ∈ orders) :
    order.quantity ≤ quantityOf orders order.instrumentId := by
  refine single_le_sum (fun x hx => ?_) _ (mem_map.2
    ⟨order, mem_filter.2 ⟨h, by simp⟩, rfl⟩)
  obtain ⟨o, -, rfl⟩ := mem_map.1 hx
  exact o.quantity_pos.le

theorem le_notionalOf {order : RoutedOrder} (h : order ∈ orders) :
    |order.estimatedSignedBaseNotional| ≤ notionalOf orders order.instrumentId := by
  refine single_le_sum (fun x hx => ?_) _ (mem_map.2
    ⟨order, mem_filter.2 ⟨h, by simp⟩, rfl⟩)
  obtain ⟨o, -, rfl⟩ := mem_map.1 hx
  exact abs_nonneg _

theorem Absorbs.each {d : UpstreamDecision} (h : s.Absorbs d policy) :
    ∀ order ∈ d.proposedOrders, ∃ capacity, s.capacityOf order.instrumentId = some capacity ∧
      order.quantity / capacity.availableQuantity ≤ policy.maxQuantityParticipation ∧
      |order.estimatedSignedBaseNotional| / capacity.availableBaseNotional ≤
        policy.maxNotionalParticipation := by
  intro order horder
  obtain ⟨capacity, hcapacity, hquantity, hnotional, -⟩ := h.within order horder
  refine ⟨capacity, hcapacity, ?_, ?_⟩
  · calc order.quantity / capacity.availableQuantity
        ≤ quantityOf d.proposedOrders order.instrumentId / capacity.availableQuantity := by
          have := capacity.quantity_pos.le
          gcongr
          exact le_quantityOf horder
      _ ≤ policy.maxQuantityParticipation := hquantity
  · calc |order.estimatedSignedBaseNotional| / capacity.availableBaseNotional
        ≤ notionalOf d.proposedOrders order.instrumentId / capacity.availableBaseNotional := by
          have := capacity.notional_pos.le
          gcongr
          exact le_notionalOf horder
      _ ≤ policy.maxNotionalParticipation := hnotional

end LiquidityCapacitySnapshot

theorem liquidity_approved_iff {s : LiquidityCapacitySnapshot}
    {policy : LiquidityRiskPolicy} {r : GateDecision LiquidityBreach LiquidityMeasures}
    (h : applyLiquidityRiskGate d s policy = .ok r) :
    r.kind = .approved ↔ s.Absorbs d policy := by
  unfold applyLiquidityRiskGate at h
  obtain ⟨-, -, h⟩ := bind_eq_ok.1 h
  cases h
  rw [gateDecision_approved, flatMap_eq_nil_iff]
  constructor
  · rintro ⟨hup, hnone⟩
    exact ⟨hup, fun order horder => LiquidityCapacitySnapshot.instrumentBreaches_eq_nil.1
      (hnone _ (LiquidityCapacitySnapshot.mem_orderInstruments.2 ⟨order, horder, rfl⟩))⟩
  · rintro ⟨hup, hwithin⟩
    refine ⟨hup, fun instrumentId hid => ?_⟩
    obtain ⟨order, horder, rfl⟩ := LiquidityCapacitySnapshot.mem_orderInstruments.1 hid
    exact LiquidityCapacitySnapshot.instrumentBreaches_eq_nil.2 (hwithin order horder)

/-! ## The order of the batch -/

/-- The same decision about a batch in another order. -/
structure UpstreamDecision.Reorders (d d' : UpstreamDecision) : Prop where
  portfolioFingerprint : d.portfolioFingerprint = d'.portfolioFingerprint
  exposureSnapshotFingerprint : d.exposureSnapshotFingerprint = d'.exposureSnapshotFingerprint
  eventTime : d.eventTime = d'.eventTime
  eventSequence : d.eventSequence = d'.eventSequence
  riskLimitsSatisfied : d.riskLimitsSatisfied = d'.riskLimitsSatisfied
  proposedOrders : d.proposedOrders ~ d'.proposedOrders

/-- Decisions that say the same, but for the order of what they list and for the fingerprints of
    what they are layered on. -/
structure GateDecision.Agrees {β μ : Type} (r r' : GateDecision β μ) : Prop where
  definitionVersion : r.definitionVersion = r'.definitionVersion
  portfolioFingerprint : r.portfolioFingerprint = r'.portfolioFingerprint
  exposureSnapshotFingerprint : r.exposureSnapshotFingerprint = r'.exposureSnapshotFingerprint
  snapshotFingerprint : r.snapshotFingerprint = r'.snapshotFingerprint
  policyFingerprint : r.policyFingerprint = r'.policyFingerprint
  eventTime : r.eventTime = r'.eventTime
  eventSequence : r.eventSequence = r'.eventSequence
  kind : r.kind = r'.kind
  upstreamRiskLimitsSatisfied : r.upstreamRiskLimitsSatisfied = r'.upstreamRiskLimitsSatisfied
  riskLimitsSatisfied : r.riskLimitsSatisfied = r'.riskLimitsSatisfied
  proposedOrders : r.proposedOrders ~ r'.proposedOrders
  riskApprovedOrders : r.riskApprovedOrders ~ r'.riskApprovedOrders
  breaches : r.breaches ~ r'.breaches
  measures : r.measures = r'.measures

def SameOutcome {β μ : Type} : Except PyError (GateDecision β μ) →
    Except PyError (GateDecision β μ) → Prop
  | .ok r, .ok r' => r.Agrees r'
  | .error e, .error e' => e = e'
  | _, _ => False

section
variable {β μ : Type} [DecidableEq β] {d d' : UpstreamDecision}

theorem checkBinding_reorders (h : d.Reorders d') (own upstream : String) (s : SnapshotBinding) :
    checkBinding own upstream d s = checkBinding own upstream d' s := by
  unfold checkBinding
  rw [h.portfolioFingerprint, h.exposureSnapshotFingerprint, h.eventTime, h.eventSequence]

theorem firsts_perm {found found' : List β} (h : found ~ found') :
    firsts id found ~ firsts id found' := by
  have hn (bs : List β) : (firsts id bs).Nodup := by
    have hmap : ((firsts id bs).map id).Nodup := nodup_firsts
    rwa [map_id] at hmap
  rw [perm_ext_iff_of_nodup (hn _) (hn _)]
  intro b
  rw [mem_firsts_id, mem_firsts_id, h.mem_iff]

theorem gateDecision_reorders (h : d.Reorders d') (version : String) (s : SnapshotBinding)
    (policyFingerprint : Digest) {found found' : List β} (hfound : found ~ found') (m : μ) :
    (gateDecision version d s policyFingerprint found m).Agrees
      (gateDecision version d' s policyFingerprint found' m) := by
  have hok : (d.riskLimitsSatisfied && found.isEmpty) =
      (d'.riskLimitsSatisfied && found'.isEmpty) := by
    rw [h.riskLimitsSatisfied, hfound.isEmpty_eq]
  refine ⟨rfl, h.portfolioFingerprint, h.exposureSnapshotFingerprint, rfl, rfl, h.eventTime,
    h.eventSequence, ?_, h.riskLimitsSatisfied, hok, h.proposedOrders, ?_, firsts_perm hfound, rfl⟩
  · show ite _ _ _ = ite _ _ _
    rw [hok]
  · show ite _ _ _ ~ ite _ _ _
    rw [hok]
    split_ifs
    · exact h.proposedOrders
    · exact .refl _

end

open SettlementCapacitySnapshot in
/-- **The settlement gate** does not see the order of the batch. -/
theorem settlement_reorders {d' : UpstreamDecision} (h : d.Reorders d')
    (s : SettlementCapacitySnapshot) (policy : SettlementRiskPolicy) :
    SameOutcome (applySettlementRiskGate d s policy) (applySettlementRiskGate d' s policy) := by
  have hfunded : d.proposedOrders.filterMap s.fundedOf ~ d'.proposedOrders.filterMap s.fundedOf :=
    h.proposedOrders.filterMap _
  have hdebit (currency : String) : totalOf (s.tally d.proposedOrders).debits currency =
      totalOf (s.tally d'.proposedOrders).debits currency := by
    rw [tally_eq, tally_eq]
    exact totalOf_totalsBy_perm (hfunded.filter _)
  have hdelta (currency : String) : totalOf (s.tally d.proposedOrders).deltas currency =
      totalOf (s.tally d'.proposedOrders).deltas currency := by
    rw [tally_eq, tally_eq]
    exact totalOf_totalsBy_perm hfunded
  have hcurrencies : (s.tally d.proposedOrders).currencies =
      (s.tally d'.proposedOrders).currencies := by
    refine congrArg sortedList (Finset.ext fun currency => ?_)
    rw [← mem_sortedList, ← mem_sortedList]
    show currency ∈ (s.tally _).currencies ↔ currency ∈ (s.tally _).currencies
    simp only [mem_currencies, hfunded.mem_iff]
  have hbreaches : (s.tally d.proposedOrders).breaches ~ (s.tally d'.proposedOrders).breaches := by
    rw [tally_eq, tally_eq]
    exact h.proposedOrders.filterMap _
  have hof : (s.tally d.proposedOrders).currencyBreaches s policy =
      (s.tally d'.proposedOrders).currencyBreaches s policy := by
    funext currency
    unfold SettlementTotals.currencyBreaches
    rw [hdebit, hdelta]
  unfold applySettlementRiskGate
  rw [← checkBinding_reorders h]
  cases checkBinding "settlement" "liquidity" d s.binding with
  | error e => rfl
  | ok _ =>
    simp only [ok_bind, pure_eq_ok, hcurrencies, hdebit, hof]
    exact gateDecision_reorders h _ _ _ (hbreaches.append_right _) _

open LiquidityCapacitySnapshot in
/-- **The liquidity gate** does not see the order of the batch. -/
theorem liquidity_reorders {d' : UpstreamDecision} (h : d.Reorders d')
    (s : LiquidityCapacitySnapshot) (policy : LiquidityRiskPolicy) :
    SameOutcome (applyLiquidityRiskGate d s policy) (applyLiquidityRiskGate d' s policy) := by
  have hinstruments : orderInstruments d.proposedOrders = orderInstruments d'.proposedOrders := by
    refine congrArg sortedList (Finset.ext fun instrumentId => ?_)
    rw [← mem_sortedList, ← mem_sortedList]
    show instrumentId ∈ orderInstruments _ ↔ instrumentId ∈ orderInstruments _
    simp only [mem_orderInstruments, h.proposedOrders.mem_iff]
  have hpart : participations d.proposedOrders = participations d'.proposedOrders := by
    funext capacity
    unfold participations
    rw [totalOf_totalsBy_perm h.proposedOrders, totalOf_totalsBy_perm h.proposedOrders]
  have hof : instrumentBreaches s policy d.proposedOrders =
      instrumentBreaches s policy d'.proposedOrders := by
    funext instrumentId
    unfold instrumentBreaches
    rw [hpart]
  unfold applyLiquidityRiskGate
  rw [← checkBinding_reorders h]
  cases checkBinding "liquidity" "stress" d s.binding with
  | error e => rfl
  | ok _ =>
    simp only [ok_bind, pure_eq_ok, hinstruments, hpart, hof]
    exact gateDecision_reorders h _ _ _ (.refl _) _

/-- **Both gates are sound** and do not see the order of the batch. -/
theorem risk_gates_sound :
    (∀ d s policy r, applySettlementRiskGate d s policy = .ok r →
      (r.kind = .approved ↔ s.Settles d policy)) ∧
    (∀ d s policy r, applyLiquidityRiskGate d s policy = .ok r →
      (r.kind = .approved ↔ s.Absorbs d policy) ∧
      (r.kind = .approved → ∀ order ∈ d.proposedOrders, ∃ capacity,
        s.capacityOf order.instrumentId = some capacity ∧
        order.quantity / capacity.availableQuantity ≤ policy.maxQuantityParticipation ∧
        |order.estimatedSignedBaseNotional| / capacity.availableBaseNotional ≤
          policy.maxNotionalParticipation)) ∧
    (∀ d d' : UpstreamDecision, d.Reorders d' →
      (∀ s policy, SameOutcome (applySettlementRiskGate d s policy)
        (applySettlementRiskGate d' s policy)) ∧
      ∀ s policy, SameOutcome (applyLiquidityRiskGate d s policy)
        (applyLiquidityRiskGate d' s policy)) := by
  refine ⟨fun d s policy r h => settlement_approved_iff h, fun d s policy r h => ?_,
    fun d d' h => ⟨settlement_reorders h, liquidity_reorders h⟩⟩
  have hiff := liquidity_approved_iff h
  exact ⟨hiff, fun hk => (hiff.1 hk).each⟩

/-! ### A credit that pays for a debit -/

def plainOrder (fingerprint : Digest) : RoutedOrder where
  fingerprint := fingerprint
  instrumentId := "AAPL"
  quantity := 1
  estimatedSignedBaseNotional := 1
  quantity_pos := one_pos

def twoOrders (first second : Digest) : UpstreamDecision where
  fingerprint := ⟨"decision"⟩
  routingFingerprint := ⟨"routing"⟩
  portfolioFingerprint := ⟨"portfolio"⟩
  exposureSnapshotFingerprint := ⟨"exposure"⟩
  eventTime := 0
  eventSequence := 0
  riskLimitsSatisfied := true
  proposedOrders := [plainOrder first, plainOrder second]

/-- A hundred dollars, a debit of eighty and a credit of sixty, and a debit in euros. -/
def dollarSettlement : SettlementCapacitySnapshot where
  binding := ⟨⟨"snapshot"⟩, ⟨"portfolio"⟩, ⟨"exposure"⟩, 0, 0⟩
  capacities := [⟨"USD", 100, by norm_num⟩]
  orderEstimates := [⟨⟨"buy"⟩, "USD", -80⟩, ⟨⟨"sell"⟩, "USD", 60⟩, ⟨⟨"euro"⟩, "EUR", -10⟩]
  unique_capacities := by decide
  unique_estimates := by decide

def fiftyRemains : SettlementRiskPolicy where
  fingerprint := ⟨"policy"⟩
  minimumRemainingCash := 50
  nonneg := by norm_num

/-- The buy takes eighty of a hundred dollars and is approved with fifty to remain, since the sell
    brings in sixty; and the breaches of two orders without evidence are listed in the order of the
    batch. -/
theorem settlement_nets_credits :
    ((applySettlementRiskGate (twoOrders ⟨"buy"⟩ ⟨"sell"⟩) dollarSettlement fiftyRemains).map
      (·.kind) = .ok .approved ∧
      100 - dollarSettlement.grossDebit [plainOrder ⟨"buy"⟩, plainOrder ⟨"sell"⟩] "USD" <
        fiftyRemains.minimumRemainingCash) ∧
    (applySettlementRiskGate (twoOrders ⟨"euro"⟩ ⟨"none"⟩) dollarSettlement fiftyRemains).map
      (·.breaches) ≠
      (applySettlementRiskGate (twoOrders ⟨"none"⟩ ⟨"euro"⟩) dollarSettlement fiftyRemains).map
        (·.breaches) := by
  decide +kernel

end ChartingPlatform
