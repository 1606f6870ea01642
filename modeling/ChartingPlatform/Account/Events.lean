/-
  The events of a forward account (`forward_account.py`): orders, fills, the
  effects of one canonical event, and the receipts of the runtime.

  Decimals are exact rationals.  The encoding of records for their digests has
  the printing of a number as a parameter.
-/
import ChartingPlatform.Forward.Admission
import ChartingPlatform.Lib.Table

namespace ChartingPlatform

open Lib

/-- How records are hashed: the digest, and the `Decimal` that stands for a number. -/
structure AccountEncoding where
  sha256 : String → Digest
  decimal : ℚ → PyDecimal

/-! ## Currencies -/

def IsCurrency (value : String) : Prop := value.length = 3 ∧ value.toList.all Char.isAlpha = true

instance (value : String) : Decidable (IsCurrency value) :=
  inferInstanceAs (Decidable (_ ∧ _))

/-- `_currency`. -/
def currency (value fieldName : String) : Except PyError String :=
  if IsCurrency value then .ok (String.ofList (value.toList.map Char.toUpper))
  else .error (valueError (fieldName ++ " must be a three-letter currency code"))

/-- `ShadowCashBalance`. -/
structure ShadowCashBalance where
  currency : String
  amount : ℚ
  deriving DecidableEq

def ShadowCashBalance.toPy (enc : AccountEncoding) (b : ShadowCashBalance) : PyValue :=
  .dataclass "app.strategy_lab_v2.forward_account.ShadowCashBalance"
    [({ name := "currency" }, .str b.currency),
      ({ name := "amount" }, .decimal (enc.decimal b.amount))]

/-! ## Orders and fills -/

/-- `OrderSide`. -/
inductive OrderSide where
  | buy | sell
  deriving DecidableEq, Repr

def OrderSide.text : OrderSide → String
  | .buy => "buy"
  | .sell => "sell"

/-- `OrderType`. -/
inductive OrderType where
  | market | limit | stopMarket | stopLimit
  deriving DecidableEq, Repr

def OrderType.text : OrderType → String
  | .market => "market"
  | .limit => "limit"
  | .stopMarket => "stop_market"
  | .stopLimit => "stop_limit"

/-- `TimeInForce`. -/
inductive TimeInForce where
  | day | gtc | ioc | fok
  deriving DecidableEq, Repr

def TimeInForce.text : TimeInForce → String
  | .day => "day"
  | .gtc => "gtc"
  | .ioc => "ioc"
  | .fok => "fok"

/-- `OrderIntent`. -/
@[ext]
structure OrderIntent where
  instrumentId : String
  side : OrderSide
  quantity : ℚ
  orderType : OrderType := .market
  timeInForce : TimeInForce := .day
  limitPrice : Option ℚ := none
  stopPrice : Option ℚ := none
  clientTag : Option String := none
  instrumentId_notBlank : notBlank instrumentId = true
  quantity_pos : 0 < quantity
  limit_iff : limitPrice.isSome = true ↔ orderType = .limit ∨ orderType = .stopLimit := by decide
  stop_iff : stopPrice.isSome = true ↔ orderType = .stopMarket ∨ orderType = .stopLimit := by decide
  limit_pos : ∀ x ∈ limitPrice, 0 < x := by simp
  stop_pos : ∀ x ∈ stopPrice, 0 < x := by simp
  clientTag_notBlank : ∀ s ∈ clientTag, notBlank s = true := by simp

instance : DecidableEq OrderIntent := fun _ _ => decidable_of_iff' _ OrderIntent.ext_iff

/-- A market order for the day: the defaults of `OrderIntent`. -/
@[reducible] def OrderIntent.market (instrumentId : String) (side : OrderSide) (quantity : ℚ)
    (hid : notBlank instrumentId = true) (hquantity : 0 < quantity) : OrderIntent :=
  { instrumentId := instrumentId, side := side, quantity := quantity,
    instrumentId_notBlank := hid, quantity_pos := hquantity }

/-- `Decimal | None`. -/
def optionDecimal (enc : AccountEncoding) : Option ℚ → PyValue
  | some x => .decimal (enc.decimal x)
  | none => .none

def OrderIntent.toPy (enc : AccountEncoding) (o : OrderIntent) : PyValue :=
  .dataclass "app.strategy_lab_v2.sdk.OrderIntent"
    [({ name := "instrument_id" }, .str o.instrumentId),
      ({ name := "side" }, .enum "app.strategy_lab_v2.sdk.OrderSide" (.str o.side.text)),
      ({ name := "quantity" }, .decimal (enc.decimal o.quantity)),
      ({ name := "order_type" }, .enum "app.strategy_lab_v2.sdk.OrderType" (.str o.orderType.text)),
      ({ name := "time_in_force" },
        .enum "app.strategy_lab_v2.sdk.TimeInForce" (.str o.timeInForce.text)),
      ({ name := "limit_price" }, optionDecimal enc o.limitPrice),
      ({ name := "stop_price" }, optionDecimal enc o.stopPrice),
      ({ name := "client_tag" }, optionText o.clientTag),
      ({ name := "kind", init := false },
        .enum "app.strategy_lab_v2.sdk.IntentKind" (.str "order"))]

/-- `ShadowOrder`. -/
@[ext]
structure ShadowOrder where
  orderId : Digest
  eventId : String
  intent : OrderIntent
  eventId_notBlank : notBlank eventId = true

instance : DecidableEq ShadowOrder := fun _ _ => decidable_of_iff' _ ShadowOrder.ext_iff

def ShadowOrder.toPy (enc : AccountEncoding) (o : ShadowOrder) : PyValue :=
  .dataclass "app.strategy_lab_v2.forward_account.ShadowOrder"
    [({ name := "order_id" }, .str o.orderId.text), ({ name := "event_id" }, .str o.eventId),
      ({ name := "intent" }, o.intent.toPy enc)]

/-- `ShadowFill`. -/
@[ext]
structure ShadowFill where
  fillId : Digest
  orderId : Digest
  quantity : ℚ
  price : ℚ
  fee : ℚ
  feeCurrency : String
  filledAt : Instant
  quantity_pos : 0 < quantity
  price_pos : 0 < price

instance : DecidableEq ShadowFill := fun _ _ => decidable_of_iff' _ ShadowFill.ext_iff

def ShadowFill.toPy (enc : AccountEncoding) (f : ShadowFill) : PyValue :=
  .dataclass "app.strategy_lab_v2.forward_account.ShadowFill"
    [({ name := "fill_id" }, .str f.fillId.text), ({ name := "order_id" }, .str f.orderId.text),
      ({ name := "quantity" }, .decimal (enc.decimal f.quantity)),
      ({ name := "price" }, .decimal (enc.decimal f.price)),
      ({ name := "fee" }, .decimal (enc.decimal f.fee)),
      ({ name := "fee_currency" }, .str f.feeCurrency),
      ({ name := "filled_at" }, .datetime (.utc f.filledAt))]

/-! ## Events and receipts -/

/-- `ForwardAccountEvent`: the orders, fills and cash deltas are sorted by their distinct keys. -/
@[ext]
structure ForwardAccountEvent where
  instanceId : String
  eventId : String
  eventFingerprint : Digest
  sequence : ℕ
  eventTime : Instant
  orders : List ShadowOrder := []
  fills : List ShadowFill := []
  cashDeltas : List ShadowCashBalance := []
  instanceId_notBlank : notBlank instanceId = true
  eventId_notBlank : notBlank eventId = true
  orders_sorted : orders.Pairwise fun a b => a.orderId.text < b.orderId.text := by simp
  fills_sorted : fills.Pairwise fun a b => a.fillId.text < b.fillId.text := by simp
  orders_event : ∀ o ∈ orders, o.eventId = eventId := by simp
  cash_sorted : cashDeltas.Pairwise fun a b => a.currency < b.currency := by simp
  cash_currency : ∀ d ∈ cashDeltas, currency d.currency "cash delta currency" = .ok d.currency := by
    simp

instance : DecidableEq ForwardAccountEvent := fun _ _ =>
  decidable_of_iff' _ ForwardAccountEvent.ext_iff

def ForwardAccountEvent.toPy (enc : AccountEncoding) (e : ForwardAccountEvent) : PyValue :=
  .dataclass "app.strategy_lab_v2.forward_account.ForwardAccountEvent"
    [({ name := "instance_id" }, .str e.instanceId), ({ name := "event_id" }, .str e.eventId),
      ({ name := "event_fingerprint" }, .str e.eventFingerprint.text),
      ({ name := "sequence" }, .int e.sequence),
      ({ name := "event_time" }, .datetime (.utc e.eventTime)),
      ({ name := "orders" }, .tuple (e.orders.map (·.toPy enc))),
      ({ name := "fills" }, .tuple (e.fills.map (·.toPy enc))),
      ({ name := "cash_deltas" }, .mapping (e.cashDeltas.map fun d =>
        (.str d.currency, .decimal (enc.decimal d.amount))))]

/-- `ForwardAccountEvent.fingerprint`. -/
def ForwardAccountEvent.fingerprint (enc : AccountEncoding) (e : ForwardAccountEvent) : Digest :=
  digest enc.sha256 (e.toPy enc)

/-- `ForwardRuntimeExecutionReceipt`. -/
@[ext]
structure ForwardRuntimeExecutionReceipt where
  instanceId : String
  eventId : String
  eventFingerprint : Digest
  deliveryBindingFingerprint : Digest
  contextPreparationFingerprint : Digest
  preEventCheckpointFingerprint : Digest
  runtimeSessionFingerprint : Digest
  nativeOutputFingerprint : Digest
  instanceId_notBlank : notBlank instanceId = true
  eventId_notBlank : notBlank eventId = true

instance : DecidableEq ForwardRuntimeExecutionReceipt := fun _ _ =>
  decidable_of_iff' _ ForwardRuntimeExecutionReceipt.ext_iff

def ForwardRuntimeExecutionReceipt.toPy (r : ForwardRuntimeExecutionReceipt) : PyValue :=
  .dataclass "app.strategy_lab_v2.forward_account.ForwardRuntimeExecutionReceipt"
    [({ name := "instance_id" }, .str r.instanceId), ({ name := "event_id" }, .str r.eventId),
      ({ name := "event_fingerprint" }, .str r.eventFingerprint.text),
      ({ name := "delivery_binding_fingerprint" }, .str r.deliveryBindingFingerprint.text),
      ({ name := "context_preparation_fingerprint" }, .str r.contextPreparationFingerprint.text),
      ({ name := "pre_event_checkpoint_fingerprint" }, .str r.preEventCheckpointFingerprint.text),
      ({ name := "runtime_session_fingerprint" }, .str r.runtimeSessionFingerprint.text),
      ({ name := "native_output_fingerprint" }, .str r.nativeOutputFingerprint.text)]

def ForwardRuntimeExecutionReceipt.Binds (r : ForwardRuntimeExecutionReceipt)
    (e : ForwardAccountEvent) : Prop :=
  r.instanceId = e.instanceId ∧ r.eventId = e.eventId ∧ r.eventFingerprint = e.eventFingerprint

instance (r : ForwardRuntimeExecutionReceipt) (e : ForwardAccountEvent) : Decidable (r.Binds e) :=
  inferInstanceAs (Decidable (_ ∧ _))

/-- `ForwardAppliedAccountEvent` and, with a receipt, `ForwardAppliedAccountExecutionEvent`. -/
@[ext]
structure ForwardAppliedAccountEvent where
  eventId : String
  eventFingerprint : Digest
  eventContentFingerprint : Digest
  sequence : ℕ
  executionReceipt : Option ForwardRuntimeExecutionReceipt
  eventId_notBlank : notBlank eventId = true
  receipt_binds : ∀ r ∈ executionReceipt, r.eventId = eventId ∧ r.eventFingerprint = eventFingerprint

instance : DecidableEq ForwardAppliedAccountEvent := fun _ _ =>
  decidable_of_iff' _ ForwardAppliedAccountEvent.ext_iff

def ForwardAppliedAccountEvent.toPy (a : ForwardAppliedAccountEvent) : PyValue :=
  let fields : List (Field × PyValue) :=
    [({ name := "event_id" }, .str a.eventId),
      ({ name := "event_fingerprint" }, .str a.eventFingerprint.text),
      ({ name := "event_content_fingerprint" }, .str a.eventContentFingerprint.text),
      ({ name := "sequence" }, .int a.sequence)]
  match a.executionReceipt with
  | none => .dataclass "app.strategy_lab_v2.forward_account.ForwardAppliedAccountEvent" fields
  | some r => .dataclass "app.strategy_lab_v2.forward_account.ForwardAppliedAccountExecutionEvent"
      (fields ++ [({ name := "execution_receipt" }, r.toPy)])

end ChartingPlatform
