/-
  The forward shadow account (`forward_account.py`): its state and
  `apply_forward_account_event`.
-/
import ChartingPlatform.Account.Events

namespace ChartingPlatform

open Lib

/-! ## States -/

/-- `PositionSnapshot`. -/
@[ext]
structure PositionSnapshot where
  instrumentId : String
  quantity : ℚ
  averagePrice : Option ℚ
  marketValue : Option ℚ
  instrumentId_notBlank : notBlank instrumentId = true

instance : DecidableEq PositionSnapshot := fun _ _ => decidable_of_iff' _ PositionSnapshot.ext_iff

def PositionSnapshot.toPy (enc : AccountEncoding) (p : PositionSnapshot) : PyValue :=
  .dataclass "app.strategy_lab_v2.sdk.PositionSnapshot"
    [({ name := "instrument_id" }, .str p.instrumentId),
      ({ name := "quantity" }, .decimal (enc.decimal p.quantity)),
      ({ name := "average_price" }, optionDecimal enc p.averagePrice),
      ({ name := "market_value" }, optionDecimal enc p.marketValue)]

structure AccountFields where
  instanceId : String
  baseCurrency : String
  lastEventId : Option String := none
  lastEventSequence : ℤ := -1
  lastEventFingerprint : Option Digest := none
  cash : List ShadowCashBalance := []
  positions : List PositionSnapshot := []
  orders : List ShadowOrder := []
  fills : List ShadowFill := []
  appliedEvents : List ForwardAppliedAccountEvent := []
  deriving DecidableEq

abbrev ShadowOrder.key (o : ShadowOrder) : String := o.orderId.text

abbrev ShadowFill.key (f : ShadowFill) : String := f.fillId.text

/-- `max(applied, key=lambda item: item.sequence)`: the first one with the largest sequence. -/
def latestApplied (applied : List ForwardAppliedAccountEvent) :
    Option ForwardAppliedAccountEvent :=
  applied.foldl (fun best a =>
    match best with
    | none => some a
    | some b => if b.sequence < a.sequence then some a else some b) none

/-- The checks of `ForwardAccountState.__post_init__` after the base currency. -/
def AccountFields.check (f : AccountFields) : Except PyError Unit := do
  ensure (-1 ≤ f.lastEventSequence) (valueError "last_event_sequence must be at least -1")
  ensure (f.lastEventSequence = -1 → f.lastEventId = none ∧ f.lastEventFingerprint = none)
    (valueError "an empty account cursor cannot contain an event")
  ensure (0 ≤ f.lastEventSequence →
      (f.lastEventId ≠ none ∧ f.lastEventId ≠ some "") ∧ f.lastEventFingerprint ≠ none)
    (valueError "a non-empty account cursor requires event identity")
  ensure (0 ≤ f.lastEventSequence → f.appliedEvents ≠ [])
    (valueError "a non-empty account cursor requires applied event evidence")
  ensure (f.cash.map (·.currency)).Nodup (valueError "cash currencies must be unique")
  ensure (f.positions.map (·.instrumentId)).Nodup
    (valueError "position instruments must be unique")
  ensure (f.orders.map ShadowOrder.key).Nodup (valueError "order ids must be unique")
  ensure (f.fills.map ShadowFill.key).Nodup (valueError "fill ids must be unique")
  ensure (f.appliedEvents.map (·.eventId)).Nodup (valueError "applied event ids must be unique")
  ensure (∀ x ∈ f.fills, x.orderId ∈ f.orders.map (·.orderId))
    (valueError "every fill must reference a retained order")
  ensure (∀ latest ∈ latestApplied f.appliedEvents,
      (latest.sequence : ℤ) = f.lastEventSequence ∧ some latest.eventId = f.lastEventId)
    (valueError "account cursor must reference the latest applied event")
  ensure (∀ a ∈ f.appliedEvents, ∀ r ∈ a.executionReceipt, r.instanceId = f.instanceId)
    (valueError "execution receipt instance differs from account state")

def AccountFields.normalized (f : AccountFields) : AccountFields :=
  { f with
    cash := sortBy (·.currency) f.cash
    positions := sortBy (·.instrumentId) f.positions
    orders := sortBy ShadowOrder.key f.orders
    fills := sortBy ShadowFill.key f.fills
    appliedEvents := sortBy (·.sequence) f.appliedEvents }

/-- `ForwardAccountState`. -/
structure ForwardAccountState extends AccountFields where
  instanceId_notBlank : notBlank instanceId = true
  empty : lastEventSequence = -1 → lastEventId = none ∧ lastEventFingerprint = none
  cash_sorted : cash.Pairwise fun a b => a.currency < b.currency
  positions_sorted : positions.Pairwise fun a b => a.instrumentId < b.instrumentId
  orders_sorted : orders.Pairwise fun a b => a.key < b.key
  fills_sorted : fills.Pairwise fun a b => a.key < b.key
  applied_sorted : appliedEvents.Pairwise fun a b => a.sequence ≤ b.sequence
  applied_nodup : (appliedEvents.map (·.eventId)).Nodup
  fills_retained : ∀ x ∈ fills, x.orderId ∈ orders.map (·.orderId)
  receipts_instance : ∀ a ∈ appliedEvents, ∀ r ∈ a.executionReceipt, r.instanceId = instanceId
  deriving DecidableEq

theorem AccountFields.check_eq_ok {f : AccountFields} (h : f.check = .ok ()) :
    (f.lastEventSequence = -1 → f.lastEventId = none ∧ f.lastEventFingerprint = none) ∧
      (f.cash.map (·.currency)).Nodup ∧ (f.positions.map (·.instrumentId)).Nodup ∧
      (f.orders.map ShadowOrder.key).Nodup ∧ (f.fills.map ShadowFill.key).Nodup ∧
      (f.appliedEvents.map (·.eventId)).Nodup ∧
      (∀ x ∈ f.fills, x.orderId ∈ f.orders.map (·.orderId)) ∧
      ∀ a ∈ f.appliedEvents, ∀ r ∈ a.executionReceipt, r.instanceId = f.instanceId := by
  unfold AccountFields.check at h
  obtain ⟨_, -, h⟩ := bind_eq_ok.1 h
  obtain ⟨_, hempty, h⟩ := bind_eq_ok.1 h
  obtain ⟨_, -, h⟩ := bind_eq_ok.1 h
  obtain ⟨_, -, h⟩ := bind_eq_ok.1 h
  obtain ⟨_, hcash, h⟩ := bind_eq_ok.1 h
  obtain ⟨_, hpositions, h⟩ := bind_eq_ok.1 h
  obtain ⟨_, horders, h⟩ := bind_eq_ok.1 h
  obtain ⟨_, hfills, h⟩ := bind_eq_ok.1 h
  obtain ⟨_, happlied, h⟩ := bind_eq_ok.1 h
  obtain ⟨_, hretained, h⟩ := bind_eq_ok.1 h
  obtain ⟨_, -, hreceipts⟩ := bind_eq_ok.1 h
  exact ⟨ensure_eq_ok.1 hempty, ensure_eq_ok.1 hcash, ensure_eq_ok.1 hpositions,
    ensure_eq_ok.1 horders, ensure_eq_ok.1 hfills, ensure_eq_ok.1 happlied,
    ensure_eq_ok.1 hretained, ensure_eq_ok.1 hreceipts⟩

/-- `ForwardAccountState.__post_init__`. -/
def makeForwardAccountState (f : AccountFields) : Except PyError ForwardAccountState :=
  if hid : notBlank f.instanceId = true then
    match currency f.baseCurrency "base_currency" with
    | .error e => .error e
    | .ok base =>
      match h : f.check with
      | .error e => .error e
      | .ok () =>
        have hv := AccountFields.check_eq_ok h
        .ok
          { toAccountFields := { f.normalized with baseCurrency := base }
            instanceId_notBlank := hid
            empty := hv.1
            cash_sorted := pairwise_lt_sortBy hv.2.1
            positions_sorted := pairwise_lt_sortBy hv.2.2.1
            orders_sorted := pairwise_lt_sortBy hv.2.2.2.1
            fills_sorted := pairwise_lt_sortBy hv.2.2.2.2.1
            applied_sorted := pairwise_sortBy _ _
            applied_nodup := ((perm_sortBy _ _).map _).nodup_iff.2 hv.2.2.2.2.2.1
            fills_retained := fun x hx => ((perm_sortBy _ _).map _).mem_iff.2
              (hv.2.2.2.2.2.2.1 x ((mem_sortBy _).1 hx))
            receipts_instance := fun a ha =>
              hv.2.2.2.2.2.2.2 a ((mem_sortBy _).1 ha) }
  else .error (valueError "instance_id must not be empty")

theorem makeForwardAccountState_eq_ok {f : AccountFields} {s : ForwardAccountState}
    (h : makeForwardAccountState f = .ok s) :
    ∃ base, currency f.baseCurrency "base_currency" = .ok base ∧
      s.toAccountFields = { f.normalized with baseCurrency := base } := by
  unfold makeForwardAccountState at h
  split_ifs at h with hid
  cases hbase : currency f.baseCurrency "base_currency" with
  | error e =>
    simp only [hbase] at h
    cases h
  | ok base =>
    simp only [hbase] at h
    split at h
    · cases h
    · obtain rfl := Except.ok.inj h
      exact ⟨base, rfl, rfl⟩

def ForwardAccountState.toPy (enc : AccountEncoding) (s : ForwardAccountState) : PyValue :=
  .dataclass "app.strategy_lab_v2.forward_account.ForwardAccountState"
    [({ name := "instance_id" }, .str s.instanceId),
      ({ name := "base_currency" }, .str s.baseCurrency),
      ({ name := "last_event_id" }, optionText s.lastEventId),
      ({ name := "last_event_sequence" }, .int s.lastEventSequence),
      ({ name := "last_event_fingerprint" },
        optionText (s.lastEventFingerprint.map Digest.text)),
      ({ name := "cash" }, .tuple (s.cash.map (·.toPy enc))),
      ({ name := "positions" }, .tuple (s.positions.map (·.toPy enc))),
      ({ name := "orders" }, .tuple (s.orders.map (·.toPy enc))),
      ({ name := "fills" }, .tuple (s.fills.map (·.toPy enc))),
      ({ name := "applied_events" }, .tuple (s.appliedEvents.map (·.toPy)))]

/-- `ForwardAccountState.fingerprint`. -/
def ForwardAccountState.fingerprint (enc : AccountEncoding) (s : ForwardAccountState) : Digest :=
  digest enc.sha256 (s.toPy enc)

/-- `initial_forward_account_state`. -/
def initialForwardAccountState (instanceId baseCurrency : String)
    (initialCash : List (String × ℚ)) : Except PyError ForwardAccountState := do
  let balances ← collect (initialCash.map fun c =>
    (currency c.1 "currency").map fun code => (⟨code, c.2⟩ : ShadowCashBalance))
  makeForwardAccountState { instanceId := instanceId, baseCurrency := baseCurrency, cash := balances }

/-! ## Applying an event -/

/-- `ForwardAccountDecision`. -/
inductive ForwardAccountDecision where
  | applied | replayExisting | conflict | outOfOrder | reject
  deriving DecidableEq, Repr

def ForwardAccountDecision.failed : ForwardAccountDecision → Bool
  | .conflict | .outOfOrder | .reject => true
  | .applied | .replayExisting => false

/-- `ForwardAccountResolution`. -/
structure ForwardAccountResolution where
  decision : ForwardAccountDecision
  state : ForwardAccountState
  eventFingerprint : Digest
  rejectionReason : Option String := none
  reason_iff : rejectionReason.isSome = true ↔ decision.failed = true
  deriving DecidableEq

/-- `_reject`, with the decision that it is given. -/
def rejectAccountEvent (s : ForwardAccountState) (e : ForwardAccountEvent)
    (decision : ForwardAccountDecision) (reason : String) (h : decision.failed = true) :
    ForwardAccountResolution where
  decision := decision
  state := s
  eventFingerprint := e.eventFingerprint
  rejectionReason := some reason
  reason_iff := by simp [h]

/-! Every result of a `Decimal` operation, negation and `abs` included, is rounded: `round` is
what the context makes of the exact result. -/

/-- Exact arithmetic. -/
def unrounded (x : ℚ) : ℚ := x

@[simp] theorem unrounded_apply (x : ℚ) : unrounded x = x := rfl

def signedQuantity (round : ℚ → ℚ) (intent : OrderIntent) (fill : ShadowFill) : ℚ :=
  match intent.side with
  | .buy => fill.quantity
  | .sell => round (-fill.quantity)

def nextAverage (round : ℚ → ℚ) (quantity signed price : ℚ) (average : Option ℚ) : Option ℚ :=
  let next := round (quantity + signed)
  if next = 0 then none
  else if quantity = 0 ∨ (0 < quantity ↔ 0 < signed) then
    let oldWeight := round (round |quantity| * average.getD 0)
    some (round (round (oldWeight + round (round |signed| * price)) / round |next|))
  else if 0 < quantity ↔ 0 < next then average
  else some price

/-- `_apply_fill`. -/
def applyFill (round : ℚ → ℚ) (positions : List PositionSnapshot) (intent : OrderIntent)
    (fill : ShadowFill) : List PositionSnapshot :=
  let signed := signedQuantity round intent fill
  let current := rowWith (·.instrumentId) intent.instrumentId positions
  let quantity := (current.map (·.quantity)).getD 0
  let average := current.bind (·.averagePrice)
  upsert (·.instrumentId)
    { instrumentId := intent.instrumentId
      quantity := round (quantity + signed)
      averagePrice := nextAverage round quantity signed fill.price average
      marketValue := none
      instrumentId_notBlank := intent.instrumentId_notBlank } positions

/-- The loop over the orders of the event: the order map, unless an id is bound. -/
def addOrders : List ShadowOrder → List ShadowOrder → Option (List ShadowOrder)
  | orders, [] => some orders
  | orders, o :: os =>
    match insertNew (·.orderId) o orders with
    | none => none
    | some orders => addOrders orders os

/-- `filled_quantities`, with its default. -/
def filledQuantities (round : ℚ → ℚ) (fills : List ShadowFill) : Digest → ℚ :=
  fills.foldl (fun filled f =>
    Function.update filled f.orderId (round (filled f.orderId + f.quantity))) fun _ => 0

structure FillBook where
  fills : List ShadowFill
  positions : List PositionSnapshot
  filled : Digest → ℚ

structure FillRefusal where
  decision : ForwardAccountDecision
  reason : String
  failed : decision.failed = true

def addFill (round : ℚ → ℚ) (orders : List ShadowOrder) (book : FillBook) (f : ShadowFill) :
    Except FillRefusal FillBook :=
  match insertNew (·.fillId) f book.fills with
  | none => .error ⟨.conflict, "account fill identity is already bound", rfl⟩
  | some fills =>
    match rowWith (·.orderId) f.orderId orders with
    | none => .error ⟨.reject, "account fill references an unknown order", rfl⟩
    | some order =>
      let filled := round (book.filled f.orderId + f.quantity)
      if order.intent.quantity < filled then
        .error ⟨.reject, "account fills exceed the retained order quantity", rfl⟩
      else .ok
        { fills := fills
          positions := applyFill round book.positions order.intent f
          filled := Function.update book.filled f.orderId filled }

def addFills (round : ℚ → ℚ) (orders : List ShadowOrder) :
    FillBook → List ShadowFill → Except FillRefusal FillBook
  | book, [] => .ok book
  | book, f :: fs => do
    let book ← addFill round orders book f
    addFills round orders book fs

def addCash (round : ℚ → ℚ) (cash : List ShadowCashBalance) (delta : ShadowCashBalance) :
    List ShadowCashBalance :=
  let amount := ((rowWith (·.currency) delta.currency cash).map (·.amount)).getD 0
  upsert (·.currency) ⟨delta.currency, round (amount + delta.amount)⟩ cash

def ForwardAccountEvent.applied (enc : AccountEncoding) (e : ForwardAccountEvent)
    (receipt : Option ForwardRuntimeExecutionReceipt) (h : ∀ r ∈ receipt, r.Binds e) :
    ForwardAppliedAccountEvent where
  eventId := e.eventId
  eventFingerprint := e.eventFingerprint
  eventContentFingerprint := e.fingerprint enc
  sequence := e.sequence
  executionReceipt := receipt
  eventId_notBlank := e.eventId_notBlank
  receipt_binds r hr := (h r hr).2

def nextFields (round : ℚ → ℚ) (s : ForwardAccountState) (e : ForwardAccountEvent)
    (a : ForwardAppliedAccountEvent) (orders : List ShadowOrder) (book : FillBook) :
    AccountFields where
  instanceId := s.instanceId
  baseCurrency := s.baseCurrency
  lastEventId := some e.eventId
  lastEventSequence := e.sequence
  lastEventFingerprint := some e.eventFingerprint
  cash := e.cashDeltas.foldl (addCash round) s.cash
  positions := book.positions
  orders := orders
  fills := book.fills
  appliedEvents := s.appliedEvents ++ [a]

/-- The loops and the next state, for an event that is new and advances the cursor. -/
def settleEvent (round : ℚ → ℚ) (s : ForwardAccountState) (e : ForwardAccountEvent)
    (a : ForwardAppliedAccountEvent) : Except PyError ForwardAccountResolution :=
  match addOrders s.orders e.orders with
  | none => .ok (rejectAccountEvent s e .conflict "account order identity is already bound" rfl)
  | some orders =>
    match addFills round orders ⟨s.fills, s.positions, filledQuantities round s.fills⟩ e.fills with
    | .error refusal => .ok (rejectAccountEvent s e refusal.decision refusal.reason refusal.failed)
    | .ok book => do
      let next ← makeForwardAccountState (nextFields round s e a orders book)
      return { decision := .applied, state := next, eventFingerprint := e.eventFingerprint
               reason_iff := by decide }

def ForwardAccountState.existing (s : ForwardAccountState) (id : String) :
    Option ForwardAppliedAccountEvent :=
  rowWith (·.eventId) id s.appliedEvents

/-- `apply_forward_account_event`. -/
def applyForwardAccountEvent (round : ℚ → ℚ) (enc : AccountEncoding) (s : ForwardAccountState)
    (e : ForwardAccountEvent) (receipt : Option ForwardRuntimeExecutionReceipt) :
    Except PyError ForwardAccountResolution :=
  if hr : ∀ r ∈ receipt, r.Binds e then
    if e.instanceId ≠ s.instanceId then
      .ok (rejectAccountEvent s e .reject "account event references a different forward instance"
        rfl)
    else
      match s.existing e.eventId with
      | some x =>
        if x.eventFingerprint ≠ e.eventFingerprint ∨
            x.eventContentFingerprint ≠ e.fingerprint enc ∨ x.executionReceipt ≠ receipt then
          .ok (rejectAccountEvent s e .conflict
            "account event identity is already bound to different content" rfl)
        else
          .ok { decision := .replayExisting, state := s, eventFingerprint := e.eventFingerprint
                reason_iff := by decide }
      | none =>
        if (e.sequence : ℤ) ≤ s.lastEventSequence then
          .ok (rejectAccountEvent s e .outOfOrder
            "account event sequence does not advance the account cursor" rfl)
        else settleEvent round s e (e.applied enc receipt hr)
  else .error (valueError "execution receipt does not match the account event")

/-! ## What an application does -/

section
variable {round : ℚ → ℚ} {enc : AccountEncoding} {s : ForwardAccountState}
  {e : ForwardAccountEvent} {receipt : Option ForwardRuntimeExecutionReceipt}
  {r : ForwardAccountResolution}

inductive AccountStep (round : ℚ → ℚ) (enc : AccountEncoding) (s : ForwardAccountState)
    (e : ForwardAccountEvent) (receipt : Option ForwardRuntimeExecutionReceipt)
    (r : ForwardAccountResolution) : Prop
  | failed : r.decision.failed = true → r.state = s → AccountStep round enc s e receipt r
  | replay {x} : s.existing e.eventId = some x → x.eventFingerprint = e.eventFingerprint →
      x.eventContentFingerprint = e.fingerprint enc → x.executionReceipt = receipt →
      r.decision = .replayExisting → r.state = s → AccountStep round enc s e receipt r
  | applied {orders book} (hr : ∀ r ∈ receipt, r.Binds e) : e.instanceId = s.instanceId →
      s.existing e.eventId = none → s.lastEventSequence < e.sequence →
      addOrders s.orders e.orders = some orders →
      addFills round orders ⟨s.fills, s.positions, filledQuantities round s.fills⟩ e.fills =
        .ok book →
      makeForwardAccountState (nextFields round s e (e.applied enc receipt hr) orders book) =
        .ok r.state →
      r.decision = .applied → AccountStep round enc s e receipt r

theorem applyForwardAccountEvent_cases (h : applyForwardAccountEvent round enc s e receipt = .ok r) :
    AccountStep round enc s e receipt r := by
  unfold applyForwardAccountEvent at h
  by_cases hr : ∀ r ∈ receipt, r.Binds e
  swap
  · rw [dif_neg hr] at h
    cases h
  rw [dif_pos hr] at h
  by_cases hinstance : e.instanceId ≠ s.instanceId
  · rw [if_pos hinstance] at h
    cases h
    exact .failed rfl rfl
  rw [if_neg hinstance] at h
  cases hx : s.existing e.eventId with
  | some x =>
    simp only [hx] at h
    by_cases hother : x.eventFingerprint ≠ e.eventFingerprint ∨
        x.eventContentFingerprint ≠ e.fingerprint enc ∨ x.executionReceipt ≠ receipt
    · rw [if_pos hother] at h
      cases h
      exact .failed rfl rfl
    · rw [if_neg hother] at h
      cases h
      rw [not_or, not_or, not_not, not_not, not_not] at hother
      exact .replay hx hother.1 hother.2.1 hother.2.2 rfl rfl
  | none =>
    simp only [hx] at h
    by_cases hseq : (e.sequence : ℤ) ≤ s.lastEventSequence
    · rw [if_pos hseq] at h
      cases h
      exact .failed rfl rfl
    rw [if_neg hseq] at h
    unfold settleEvent at h
    cases horders : addOrders s.orders e.orders with
    | none =>
      simp only [horders] at h
      cases h
      exact .failed rfl rfl
    | some orders =>
      simp only [horders] at h
      cases hfills : addFills round orders ⟨s.fills, s.positions, filledQuantities round s.fills⟩
          e.fills with
      | error refusal =>
        simp only [hfills] at h
        cases h
        exact .failed refusal.failed rfl
      | ok book =>
        simp only [hfills] at h
        obtain ⟨next, hnext, h⟩ := bind_eq_ok.1 h
        cases h
        exact .applied hr (not_not.1 hinstance) hx (lt_of_not_ge hseq) horders hfills hnext rfl

theorem applyForwardAccountEvent_replay {x : ForwardAppliedAccountEvent}
    (hr : ∀ r ∈ receipt, r.Binds e) (hinstance : e.instanceId = s.instanceId)
    (hx : s.existing e.eventId = some x) (hfp : x.eventFingerprint = e.eventFingerprint)
    (hcontent : x.eventContentFingerprint = e.fingerprint enc)
    (hreceipt : x.executionReceipt = receipt) :
    ∃ r, applyForwardAccountEvent round enc s e receipt = .ok r ∧ r.decision = .replayExisting ∧
      r.state = s := by
  unfold applyForwardAccountEvent
  rw [dif_pos hr, if_neg (not_not.2 hinstance)]
  simp only [hx]
  rw [if_neg (by simp [hfp, hcontent, hreceipt])]
  exact ⟨_, rfl, rfl, rfl⟩

end

end ChartingPlatform
