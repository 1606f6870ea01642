/-
  Native orders for target positions (`nautilus_target_allocation.py`): the targets of one
  component, or of several at one event, are allocated and sized in whole lots.

  The sizing is in exact arithmetic, and the quantities of the account are finite decimals.
-/
import ChartingPlatform.Allocation.Targets
import ChartingPlatform.Lib.Documents
import ChartingPlatform.Lib.Lots

namespace ChartingPlatform

open Lib

open scoped List

/-! ## Intents -/

/-- `TargetPositionIntent`. -/
@[ext]
structure TargetPositionIntent where
  instrumentId : String
  targetFraction : ℚ
  instrumentId_notBlank : notBlank instrumentId = true

instance : DecidableEq TargetPositionIntent := fun _ _ =>
  decidable_of_iff' _ TargetPositionIntent.ext_iff

/-- `StrategyIntent`. -/
inductive StrategyIntent where
  | order (intent : OrderIntent)
  | target (intent : TargetPositionIntent)
  deriving DecidableEq

namespace StrategyIntent

def instrumentId : StrategyIntent → String
  | .order o => o.instrumentId
  | .target t => t.instrumentId

/-- `isinstance(intent, TargetPositionIntent)`. -/
def isTarget : StrategyIntent → Bool
  | .order _ => false
  | .target _ => true

end StrategyIntent

section
variable (portfolio : PortfolioComposition) (eventTime : Instant) (eventSequence : ℕ)

def targetRequest (component : PortfolioComponent) :
    StrategyIntent → Except PyError ComponentTargetRequest
  | .order _ => .error (valueError ("raw OrderIntent sizing requires engine-native instrument " ++
      "economics and is not supported by the engine-neutral allocator"))
  | .target t => do
    ensure (t.instrumentId ∈ component.instrumentIds)
      (valueError ("component " ++ reprText component.componentId ++
        " emitted undeclared instrument " ++ reprText t.instrumentId))
    return {
      componentId := component.componentId
      instrumentId := t.instrumentId
      targetFractionOfComponentBudget := t.targetFraction
      eventTime := eventTime
      eventSequence := eventSequence
      componentId_notBlank := component.componentId_notBlank
      instrumentId_notBlank := t.instrumentId_notBlank }

def componentRequests (batch : String × List StrategyIntent) :
    Except PyError (List ComponentTargetRequest) :=
  match portfolio.component batch.1 with
  | none => .error (valueError ("unknown portfolio component " ++ reprText batch.1))
  | some component => collect (batch.2.map (targetRequest eventTime eventSequence component))

/-- `component_targets_from_intents`. -/
def componentTargetsFromIntents (intentsByComponent : Doc (List StrategyIntent)) :
    Except PyError (List ComponentTargetRequest) := do
  let requests ← collect ((sortBy Prod.fst intentsByComponent.entries).map
    (componentRequests portfolio eventTime eventSequence))
  ensure ((requests.flatten.map ComponentTargetRequest.key).Nodup)
    (valueError "a component may target each instrument only once per event")
  return sortBy requestOrder requests.flatten

end

/-! ## Instrument definitions -/

inductive NativeValue where
  | none
  | text (s : String)
  | decimal (d : PyDecimal)
  | int (n : ℤ)
  | bool (b : Bool)
  | object
  deriving DecidableEq

/-- What is read of an instrument definition; a missing field reads as `none`. -/
structure NativeInstrument where
  productClass : NativeValue
  quoteCurrency : NativeValue
  baseCurrency : NativeValue := .none
  multiplier : NativeValue
  sizeIncrement : NativeValue
  sizePrecision : NativeValue
  priceIncrement : NativeValue := .none
  minQuantity : NativeValue := .none
  maxQuantity : NativeValue := .none
  marginInit : NativeValue := .none
  marginMaint : NativeValue := .none
  deriving DecidableEq

/-- `_product_class`. -/
def productClass (definition : NativeInstrument) : Except PyError ProductClass :=
  match definition.productClass with
  | .text s =>
    match ProductClass.ofText s with
    | some c => .ok c
    | none => .error (valueError "native product class is unsupported")
  | _ => .error (valueError "native product class is invalid")

/-- How a resolver reads decimals from texts, and what it is told of digests. -/
structure TargetEnv where
  encoding : AccountEncoding
  /-- `Decimal(text)`, or none where it raises. -/
  parseDecimal : String → Option PyDecimal

def finiteValue : PyDecimal → Option ℚ
  | .finite negative c e => some (PyDecimal.finite negative c e).value
  | .special => none

/-- How an order of an instrument is sized: base notional for each unit of price, the lot, and
the decimal places. -/
@[ext]
structure SizingTerms where
  multiplier : ℚ
  sizeIncrement : ℚ
  sizePrecision : ℤ
  multiplier_pos : 0 < multiplier
  sizeIncrement_pos : 0 < sizeIncrement

instance : DecidableEq SizingTerms := fun _ _ => decidable_of_iff' _ SizingTerms.ext_iff

section
variable (env : TargetEnv)

/-- `_decimal_field`, and `_optional_decimal_field`. -/
def decimalField : NativeValue → Option ℚ
  | .decimal d => finiteValue d
  | .text s => (env.parseDecimal s).bind finiteValue
  | _ => none

def futureTermsComplete (definition : NativeInstrument) (terms : SizingTerms) : Bool :=
  match decimalField env definition.marginInit, decimalField env definition.marginMaint,
    decimalField env definition.priceIncrement with
  | some initial, some maintenance, some increment =>
    decide (definition.baseCurrency = .none ∧ terms.sizeIncrement = 1 ∧ terms.sizePrecision = 0 ∧
      0 < initial ∧ 0 < maintenance ∧ maintenance ≤ initial ∧ 0 < increment)
  | _, _, _ => false

/-- `_target_quantity_value_multiplier`, with the lot and the decimal places that the callers
read besides. -/
def sizingTerms (definition : NativeInstrument) (productClass : ProductClass)
    (riskModel : Option ProductRiskModel) (baseCurrency : String) : Option SizingTerms :=
  match decimalField env definition.multiplier, decimalField env definition.sizeIncrement,
    definition.sizePrecision with
  | some multiplier, some sizeIncrement, .int sizePrecision =>
    if h : definition.quoteCurrency = .text baseCurrency ∧ 0 < multiplier ∧ 0 < sizeIncrement then
      let terms : SizingTerms := ⟨multiplier, sizeIncrement, sizePrecision, h.2.1, h.2.2⟩
      if productClass = .equity ∧ riskModel = some (cashEquityNotionalRiskModel env.encoding.sha256) ∨
          productClass = .crypto ∧
            riskModel = some (cryptoSpotNotionalRiskModel env.encoding.sha256) then
        if multiplier = 1 then some terms else none
      else if productClass = .future ∧
          riskModel = some (futureContractNotionalRiskModel env.encoding.sha256) ∧
          futureTermsComplete env definition terms then
        some terms
      else none
    else none
  | _, _, _ => none

/-! ## Sizing -/

def marketOrder (instrumentId : String) (side : OrderSide) (quantity : ℚ) :
    Except PyError OrderIntent :=
  if hid : notBlank instrumentId = true then
    if hquantity : 0 < quantity then
      .ok (.market instrumentId side quantity hid hquantity)
    else .error (valueError "order quantity must be finite and positive")
  else .error (valueError "order instrument_id must not be empty")

def IsIntegral (x : ℚ) : Prop := (⌊x⌋ : ℚ) = x

instance (x : ℚ) : Decidable (IsIntegral x) := inferInstanceAs (Decidable (_ = _))

/-- The order that moves a quantity to a target, if there is one: the end of both loops. -/
def sizeOrder (definition : NativeInstrument) (terms : SizingTerms) (instrumentId : String)
    (targetNotional markPrice currentQuantity : ℚ) : Except PyError (Option OrderIntent) := do
  let targetQuantity := targetNotional / (markPrice * terms.multiplier)
  let lotCount := ⌊|targetQuantity| / terms.sizeIncrement⌋
  let sizedTarget := if targetQuantity < 0 then -(lotCount * terms.sizeIncrement)
    else lotCount * terms.sizeIncrement
  ensure (IsIntegral (currentQuantity / terms.sizeIncrement))
    (valueError "native position quantity is outside instrument lot size")
  let delta := sizedTarget - currentQuantity
  if delta = 0 then return none
  ensure (IsIntegral (|delta| / terms.sizeIncrement))
    (valueError "target delta is outside instrument lot size")
  ensure (∀ minimum ∈ decimalField env definition.minQuantity, minimum ≤ |delta|)
    (valueError "target delta is below native minimum quantity")
  ensure (∀ maximum ∈ decimalField env definition.maxQuantity, |delta| ≤ maximum)
    (valueError "target delta exceeds native maximum quantity")
  -- `quantity.quantize(Decimal(1).scaleb(-size_precision))`
  let quantity := roundAt (10 ^ (-terms.sizePrecision)) |delta|
  let order ← marketOrder instrumentId (if 0 < delta then .buy else .sell) quantity
  return some order

def sizeTarget (portfolio : PortfolioComposition) (definition : NativeInstrument)
    (instrumentId : String) (targetNotional markPrice currentQuantity : ℚ) :
    Except PyError (Option OrderIntent) := do
  let productClass ← productClass definition
  let riskModel := rowWith ProductRiskModel.productClass productClass
    portfolio.sharedRiskPolicy.riskModels
  match sizingTerms env definition productClass riskModel portfolio.baseCurrency with
  | none => .error (valueError ("target order economics require supported base-quoted linear spot " ++
      "or complete futures terms"))
  | some terms =>
    sizeOrder env definition terms instrumentId targetNotional markPrice currentQuantity

end

/-! ## The state of the account -/

structure NativeAccount where
  runAttemptId : String
  eventTime : Instant
  eventSequence : ℕ
  accountEquity : ℚ
  accountCashBalance : ℚ
  currentBaseExposures : Doc ℚ
  currentQuantities : Doc ℚ
  markPrices : Doc ℚ
  instruments : Doc NativeInstrument

section
variable (env : TargetEnv) (portfolio : PortfolioComposition) (account : NativeAccount)

/-- No quantity of the account is of an instrument that is not declared. -/
def checkDeclared (declared : List String) : Except PyError Unit := do
  ensure (∀ e ∈ account.currentBaseExposures.entries, e.1 ∈ declared)
    (valueError "current exposure contains an undeclared instrument")
  ensure (∀ e ∈ account.currentQuantities.entries, e.1 ∈ declared)
    (valueError "current quantity contains an undeclared instrument")
  ensure (∀ e ∈ account.markPrices.entries, e.1 ∈ declared)
    (valueError "mark price contains an undeclared instrument")

def riskBinding (instrumentId : String) : Except PyError (Option InstrumentRiskBinding) :=
  match account.instruments.get instrumentId with
  | none => .error (valueError "portfolio instrument is missing native economics")
  | some definition => do
    let productClass ← productClass definition
    match rowWith ProductRiskModel.productClass productClass
        portfolio.sharedRiskPolicy.riskModels with
    | none => return none
    | some model =>
      if h : notBlank instrumentId = true then return some ⟨instrumentId, model, h⟩
      else .error (valueError "instrument_id must not be empty")

def riskBindings (declared : List String) : Except PyError (List InstrumentRiskBinding) := do
  let bindings ← collect ((sortedList declared.toFinset).map (riskBinding portfolio account))
  return bindings.reduceOption

def positionExposure (componentId : String) (e : String × ℚ) :
    Except PyError (Option ComponentPositionExposure) :=
  if e.2 = 0 then .ok none
  else if h : notBlank componentId = true ∧ notBlank e.1 = true then
    .ok (some ⟨componentId, e.1, e.2, h.1, h.2⟩)
  else .error (valueError "position exposure component and instrument ids must not be empty")

def positionExposures (componentId : String) (exposures : Doc ℚ) :
    Except PyError (List ComponentPositionExposure) := do
  let positions ← collect ((sortBy Prod.fst exposures.entries).map (positionExposure componentId))
  return positions.reduceOption

def decimalsToPy (d : Doc ℚ) : PyValue :=
  .mapping (d.entries.map fun e => (.str e.1, .decimal (env.encoding.decimal e.2)))

def evidence : List (PyKey × PyValue) :=
  [(.str "attempt_id", .str account.runAttemptId),
    (.str "event_time", .datetime (.utc account.eventTime)),
    (.str "event_sequence", .int account.eventSequence),
    (.str "account_equity", .decimal (env.encoding.decimal account.accountEquity)),
    (.str "account_cash_balance", .decimal (env.encoding.decimal account.accountCashBalance)),
    (.str "current_base_exposures", decimalsToPy env account.currentBaseExposures),
    (.str "current_quantities", decimalsToPy env account.currentQuantities),
    (.str "mark_prices", decimalsToPy env account.markPrices),
    (.str "portfolio_fingerprint", .str portfolio.fingerprint.text)]

def accountSnapshot (evidenceDigest : Digest) (positions : List ComponentPositionExposure)
    (bindings : List InstrumentRiskBinding) : Except PyError PortfolioExposureSnapshot :=
  makePortfolioExposureSnapshot portfolio.fingerprint account.runAttemptId account.eventTime
    account.eventSequence account.accountEquity account.accountCashBalance portfolio.baseCurrency
    evidenceDigest positions bindings

/-- `except (TypeError, ValueError)`. -/
def rewrapped {α : Type} (message : String) : Except PyError α → Except PyError α
  | .ok a => .ok a
  | .error e =>
    if e.kind = .typeError ∨ e.kind = .valueError then .error (valueError message) else .error e

/-! ## One component -/

/-- `NautilusTargetAllocationResolution`. -/
structure TargetAllocationResolution where
  exposureSnapshot : PortfolioExposureSnapshot
  allocation : AllocationDecision
  orderIntents : List OrderIntent

def approvedOrder (target : InstrumentTargetExposure) : Except PyError (Option OrderIntent) :=
  match account.instruments.get target.instrumentId, account.markPrices.get target.instrumentId with
  | some definition, some markPrice => do
    ensure (0 < markPrice) (valueError "target order requires verified instrument marks")
    sizeTarget env portfolio definition target.instrumentId target.targetSignedBaseNotional
      markPrice ((account.currentQuantities.get target.instrumentId).getD 0)
  | _, _ => .error (valueError "target order requires verified instrument marks")

/-- `resolve_nautilus_target_position_intents`. -/
def resolveTargetPositionIntents (componentId : String) (intents : List StrategyIntent) :
    Except PyError TargetAllocationResolution :=
  match portfolio.component componentId with
  | none => .error (valueError "target-position component is outside the portfolio")
  | some component => do
    ensure (∀ i ∈ intents, i.isTarget = true)
      (valueError "target-position allocation accepts only target intents")
    checkDeclared account component.instrumentIds
    let bindings ← riskBindings portfolio account component.instrumentIds
    let positions ← positionExposures componentId account.currentBaseExposures
    let snapshot ← accountSnapshot portfolio account
      (digest env.encoding.sha256 (.mapping (evidence env portfolio account))) positions bindings
    let requests ← componentTargetsFromIntents portfolio account.eventTime account.eventSequence
      ⟨[(componentId, intents)], List.nodup_singleton _⟩
    let allocation ← rewrapped "target-position allocation could not be validated"
      (allocateComponentTargets env.encoding exactly portfolio snapshot requests)
    ensure (allocation.riskLimitsSatisfied = true)
      (valueError "target-position allocation breaches shared portfolio risk")
    ensure (allocation.rejectedTargets = [])
      (valueError "target-position allocation contains rejected targets")
    let orders ← collect (allocation.riskApprovedInstrumentTargets.map
      (approvedOrder env portfolio account))
    return ⟨snapshot, allocation, orders.reduceOption⟩

/-! ## Several components -/

/-- `NautilusComponentTargetAllocationResolution`. -/
structure ComponentTargetAllocationResolution where
  exposureSnapshot : PortfolioExposureSnapshot
  allocation : AllocationDecision
  componentOrderIntents : List (String × List OrderIntent)

/-- `order_intents`. -/
def ComponentTargetAllocationResolution.orderIntents (r : ComponentTargetAllocationResolution) :
    List OrderIntent :=
  r.componentOrderIntents.flatMap Prod.snd

structure ComponentLedgers where
  currentComponentExposures : Doc (Doc ℚ)
  currentComponentQuantities : Doc (Doc ℚ)

def addLedgerValue (fieldName : String) (component : PortfolioComponent)
    (totals : List (String × ℚ)) (e : String × ℚ) : Except PyError (List (String × ℚ)) := do
  ensure (e.1 ∈ component.instrumentIds)
    (valueError ("native " ++ fieldName ++ " attribution contains an undeclared instrument"))
  return if e.2 = 0 then totals else upsert Prod.fst (e.1, totalOf totals e.1 + e.2) totals

def addLedger (fieldName : String) (totals : List (String × ℚ)) (ledger : String × Doc ℚ) :
    Except PyError (List (String × ℚ)) :=
  match portfolio.component ledger.1 with
  | none => .error (valueError ("native " ++ fieldName ++ " attribution is invalid"))
  | some component => ledger.2.entries.foldlM (addLedgerValue fieldName component) totals

/-- `reconcile_component_ledger`. -/
def reconcileComponentLedger (ledger : Doc (Doc ℚ)) (accountValues : Doc ℚ) (fieldName : String) :
    Except PyError (List (String × ℚ)) := do
  let totals ← ledger.entries.foldlM (addLedger portfolio fieldName) []
  -- dicts are equal if they have the same entries
  ensure (totals ~ accountValues.entries.filter fun e => e.2 ≠ 0)
    (valueError ("component-attributed " ++ fieldName ++
      " do not reconcile to the native account"))
  return totals

def ledgerToPy (ledger : Doc (Doc ℚ)) : PyValue :=
  .mapping (ledger.entries.map fun e => (.str e.1, decimalsToPy env e.2))

def componentOrder (quantities : Doc (Doc ℚ)) (target : Exposure) :
    Except PyError (Option OrderIntent) :=
  match account.instruments.get target.1.2, quantities.get target.1.1 with
  | some definition, some held =>
    match account.markPrices.get target.1.2 with
    | none => .error (valueError "target order requires verified instrument marks")
    | some markPrice => do
      ensure (0 < markPrice) (valueError "target order requires verified instrument marks")
      sizeTarget env portfolio definition target.1.2 (target.2 * account.accountEquity) markPrice
        ((held.get target.1.2).getD 0)
  | _, _ => .error (keyError (reprText target.1.2))

/-- `resolved_targets`, sorted by the keys. -/
def resolvedTargets (intentsByComponent : Doc (List StrategyIntent))
    (allocation : AllocationDecision) : List Exposure :=
  sortBy (fun e : Exposure => keyOrder e.1) <| (allocation.proposedComponentExposures.filter fun e =>
    (∃ batch ∈ intentsByComponent.entries, ∃ i ∈ batch.2, e.key = (batch.1, i.instrumentId)) ∧
      e.key ∉ allocation.rejectedTargets.map TargetRejection.key).map fun e =>
        (e.key, e.targetFractionOfEquity)

def ordersByComponent (orders : List (Exposure × Option OrderIntent)) :
    List (String × List OrderIntent) :=
  ((sortedList (portfolio.components.map PortfolioComponent.componentId).toFinset).map fun c =>
    (c, (orders.filter fun o => o.1.1.1 = c).filterMap Prod.snd)).filter fun batch => batch.2 ≠ []

/-- `resolve_nautilus_component_target_position_batches`. -/
def resolveComponentTargetPositionBatches (intentsByComponent : Doc (List StrategyIntent))
    (ledgers : ComponentLedgers) (deferSharedRiskValidation : Bool) :
    Except PyError ComponentTargetAllocationResolution := do
  ensure (intentsByComponent.entries ≠ [])
    (valueError "native component target batches are required")
  let componentIds := portfolio.components.map PortfolioComponent.componentId
  ensure ((ledgers.currentComponentExposures.entries.map Prod.fst).toFinset =
        componentIds.toFinset ∧
      (ledgers.currentComponentQuantities.entries.map Prod.fst).toFinset = componentIds.toFinset)
    (valueError "native component exposure and quantity ledgers must cover the portfolio")
  let _ ← reconcileComponentLedger portfolio ledgers.currentComponentExposures
    account.currentBaseExposures "exposures"
  let _ ← reconcileComponentLedger portfolio ledgers.currentComponentQuantities
    account.currentQuantities "quantities"
  let declared := portfolio.components.flatMap PortfolioComponent.instrumentIds
  checkDeclared account declared
  let positions ← collect ((sortBy Prod.fst ledgers.currentComponentExposures.entries).map fun e =>
    positionExposures e.1 e.2)
  let bindings ← riskBindings portfolio account declared
  let snapshot ← accountSnapshot portfolio account
    (digest env.encoding.sha256 (.mapping (evidence env portfolio account ++
      [(.str "current_component_exposures", ledgerToPy env ledgers.currentComponentExposures),
        (.str "current_component_quantities", ledgerToPy env ledgers.currentComponentQuantities)])))
    positions.flatten bindings
  let allocation ← rewrapped "component target allocation could not be validated" (do
    let requests ← componentTargetsFromIntents portfolio account.eventTime account.eventSequence
      intentsByComponent
    allocateComponentTargets env.encoding exactly portfolio snapshot requests)
  ensure (allocation.riskLimitsSatisfied = true ∨ deferSharedRiskValidation = true)
    (valueError "target-position allocation breaches shared portfolio risk")
  ensure (∀ t ∈ allocation.rejectedTargets, t.code = .lowerPriority)
    (valueError "component target allocation contains rejected targets")
  let orders ← collect ((resolvedTargets intentsByComponent allocation).map fun target =>
    (componentOrder env portfolio account ledgers.currentComponentQuantities target).map fun order =>
      (target, order))
  return ⟨snapshot, allocation, ordersByComponent portfolio orders⟩

end

end ChartingPlatform
