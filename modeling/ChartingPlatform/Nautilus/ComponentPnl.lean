/-
  The profit and loss of the components (`nautilus_component_pnl.py`): the orders, the fills
  and the closed positions of the native reports are joined, and what no position accounts
  for is left unallocated.

  The arithmetic is exact.  The report file is read before: a report is the list of its
  rows, and a row is what `json.loads` gives of its text.
-/
import ChartingPlatform.Allocation.Portfolios
import ChartingPlatform.Lib.Documents
import ChartingPlatform.Nautilus.EquityTrace
import ChartingPlatform.Ranking.Results

namespace ChartingPlatform

open Lib

/-! ## Report rows -/

/-- A value of a report row; canonical JSON has no infinite number. -/
inductive ReportValue where
  | null
  | bool (b : Bool)
  | int (n : ℤ)
  | float (x : ℚ)
  | text (s : String)
  | list (items : List ReportValue)
  | object (fields : List (String × ReportValue))

/-- `isinstance(value, str) and value`. -/
def ReportValue.name : ReportValue → Option String
  | .text s => if s = "" then none else some s
  | _ => none

abbrev ReportRow := Doc ReportValue

namespace ReportRow

/-- `row.get(key)`. -/
def field (row : ReportRow) (key : String) : ReportValue := (row.get key).getD .null

/-- `key in row`. -/
def has (row : ReportRow) (key : String) : Bool := (row.get key).isSome

def name (row : ReportRow) (key : String) : Option String := (row.field key).name

end ReportRow

/-- `NAUTILUS_NATIVE_REPORT_KINDS`. -/
inductive ReportKind where
  | account | fills | orders | positions
  deriving DecidableEq, Repr

structure PnlEnv where
  sha256 : String → Digest
  /-- `Decimal(text)`, or none where it raises. -/
  parseDecimal : String → Option PyDecimal
  /-- `datetime.fromisoformat(text)`, or none where it raises. -/
  fromIsoFormat : String → Option PyDateTime

inductive PnlFailure where
  /-- `_AttributionUnavailable` -/
  | unavailable (reason : String)
  | raised (error : PyError)
  deriving DecidableEq, Repr

def raising {α : Type} : Except PyError α → Except PnlFailure α
  | .ok a => .ok a
  | .error e => .error (.raised e)

/-! ## Timestamps -/

/-- The zone at the end of an ISO timestamp, and what is before it. -/
def splitZone (cs : List Char) : Option (List Char × List Char) :=
  if cs.getLast? = some 'Z' then some (cs.dropLast, ['+', '0', '0', ':', '0', '0'])
  else match cs.drop (cs.length - 6) with
  | [sign, a, b, ':', c, d] =>
    if (sign = '+' ∨ sign = '-') ∧ [a, b, c, d].all (isDigitOf 10) = true then
      some (cs.take (cs.length - 6), [sign, a, b, ':', c, d])
    else none
  | _ => none

/-- The digits after the last point, if the text ends with them. -/
def splitFraction (cs : List Char) : List Char × List Char :=
  match cs.reverse.dropWhile (isDigitOf 10) with
  | '.' :: rest =>
    let digits := (cs.reverse.takeWhile (isDigitOf 10)).reverse
    if digits ≠ [] ∧ rest ≠ [] then (rest.reverse, digits) else (cs, [])
  | _ => (cs, [])

section
variable (env : PnlEnv)

def isoTimestampNs (fieldName text : String) : Except PyError ℤ :=
  let malformed := valueError
    (fieldName ++ " must be Unix nanoseconds or an offset-aware ISO timestamp")
  match splitZone text.toList with
  | none => .error malformed
  | some (beforeZone, zone) => do
    let (whole, fraction) := splitFraction beforeZone
    ensure (whole ≠ [] ∧ '\n' ∉ whole) malformed
    match env.fromIsoFormat (String.ofList (whole ++ zone)) with
    | none => .error (valueError (fieldName ++ " is not a valid ISO timestamp"))
    | some parsed =>
      match parsed.utcoffset with
      | none => .error (valueError (fieldName ++ " timestamp must include a timezone"))
      | some offset => do
        let utc ← parsed.astimezone offset
        let fractionNs := readDigits 10 ((fraction ++ List.replicate 9 '0').take 9)
        return (utc.val - unixEpoch) / 1000000 * 1000000000 + fractionNs

/-- `_timestamp_ns`. -/
def timestampNs (fieldName : String) : ReportValue → Except PyError ℤ
  | .int n =>
    if 0 ≤ n then .ok n
    else .error (valueError
      (fieldName ++ " must be Unix nanoseconds or an offset-aware ISO timestamp"))
  | .float x =>
    if (⌊x⌋ : ℚ) = x ∧ 0 ≤ x ∧ x ≤ 9007199254740991 then .ok ⌊x⌋
    else .error (valueError
      (fieldName ++ " must be Unix nanoseconds or an offset-aware ISO timestamp"))
  | .text s =>
    match textNat? s.toList with
    | some n => .ok n
    | none => isoTimestampNs env fieldName s
  | _ => .error (valueError
      (fieldName ++ " must be Unix nanoseconds or an offset-aware ISO timestamp"))

/-- `_row_timestamp_ns`. -/
def rowTimestampNs (row : ReportRow) (fieldName : String) : Except PyError (Option ℤ) :=
  match row.field fieldName with
  | .null => .ok none
  | value => (timestampNs env fieldName value).map some

/-! ## Money -/

/-- `value.split()`. -/
def splitSpaces (cs : List Char) : List (List Char) := (cs.splitOnP isSpace).filter (· ≠ [])

/-- The amount of a report value and the currency that stands in its text, checked against the
currency field. -/
def moneyParts (fieldName : String) (currency : ReportValue) :
    ReportValue → Except PyError (Option PyDecimal × ReportValue)
  | .text s =>
    match splitSpaces s.toList with
    | [amount, code] =>
      let parsed := ReportValue.text (String.ofList code)
      match currency with
      | .null => .ok (env.parseDecimal (String.ofList amount), parsed)
      | .text t =>
        if t = String.ofList code then .ok (env.parseDecimal (String.ofList amount), parsed)
        else .error (valueError (fieldName ++ " currency fields disagree"))
      | _ => .error (valueError (fieldName ++ " currency fields disagree"))
    | [amount] => .ok (env.parseDecimal (String.ofList amount), currency)
    | _ => .error (valueError
        (fieldName ++ " must be a decimal amount with an explicit currency"))
  | .int n => .ok (some (.finite (n < 0) n.natAbs 0), currency)
  | _ => .error (valueError (fieldName ++ " must be an exact decimal report value"))

/-- `_reported_money`. -/
def reportedMoney (row : ReportRow) (fieldName : String) :
    Except PyError (Option (String × ℚ)) :=
  match row.field fieldName with
  | .null => .ok none
  | value => do
    let (amount, currency) ← moneyParts env fieldName (row.field (fieldName ++ "_currency")) value
    match currency with
    | .text code => do
      ensure (code.toList.length = 3 ∧ code.toList.all Char.isAlpha = true)
        (valueError (fieldName ++ " must include its native currency"))
      match amount with
      | none => .error (valueError (fieldName ++ " must be an exact decimal report value"))
      | some .special => .error (valueError (fieldName ++ " must be finite"))
      | some (.finite negative c e) =>
        return some (String.ofList (code.toList.map Char.toUpper),
          (PyDecimal.finite negative c e).value)
    | _ => .error (valueError (fieldName ++ " must include its native currency"))

/-! ## Orders -/

/-- `_COMPONENT_ORDER_TAG_PREFIX`. -/
def componentOrderTagPrefix : String := "strategy-lab-v2:component:"

def componentTag : ReportValue → Option String
  | .text s =>
    if componentOrderTagPrefix.toList.isPrefixOf s.toList then
      some (String.ofList (s.toList.drop componentOrderTagPrefix.toList.length))
    else none
  | _ => none

end

section
variable (portfolio : PortfolioComposition)

def componentOfTags (tags : List ReportValue) : Except PyError (Option String) :=
  match tags.filterMap componentTag with
  | [componentId] => do
    ensure (componentId ∈ portfolio.components.map PortfolioComponent.componentId)
      (valueError "native order tag names an undeclared portfolio component")
    return some componentId
  | _ => .ok none

/-- `_component_id_from_tags`. -/
def componentIdFromTags : ReportValue → Except PyError (Option String)
  | .text s => componentOfTags portfolio [.text s]
  | .list tags => componentOfTags portfolio tags
  | _ => .ok none

/-- `orders`: the component of each order, if its tags name one. -/
abbrev OrderIndex := List (String × Option String)

/-- One row of `_index_native_orders`. -/
def indexOrder (orders : OrderIndex) (row : ReportRow) : Except PyError OrderIndex :=
  match row.name "client_order_id" with
  | none => .ok orders
  | some clientOrderId => do
    let componentId ← componentIdFromTags portfolio (row.field "tags")
    ensure (clientOrderId ∉ orders.map Prod.fst)
      (valueError "native order report repeats a client_order_id")
    return orders ++ [(clientOrderId, componentId)]

/-- `_index_native_orders`. -/
def indexNativeOrders (rows : List ReportRow) : Except PyError OrderIndex :=
  rows.foldlM (indexOrder portfolio) []

def orderComponent (orders : OrderIndex) (clientOrderId : String) : Option String :=
  (rowWith Prod.fst clientOrderId orders).bind Prod.snd

end

/-! ## Fills -/

/-- A fill; those without an order are counted and not joined. -/
structure NativeFill where
  positionId : Option String
  clientOrderId : Option String
  tradeId : Option String
  eventTimeNs : ℤ
  /-- The commission, which is read of the fills in the window. -/
  commission : Option (String × ℚ)
  deriving DecidableEq

namespace NativeFill

variable (f : NativeFill)

def amount : ℚ := (f.commission.map Prod.snd).getD 0

/-- `max(commission, 0)`. -/
def costs : ℚ := max f.amount 0

/-- `max(-commission, 0)`. -/
def rebates : ℚ := max (-f.amount) 0

end NativeFill

/-- The fills of a report, with their commissions. -/
structure FillIndex where
  fills : List NativeFill := []
  costs : ℚ := 0
  rebates : ℚ := 0

def ScoringWindow.Contains (window : ScoringWindow) (timeNs : ℤ) : Prop :=
  window.startNs ≤ timeNs ∧ timeNs < window.endNs

instance (window : ScoringWindow) (timeNs : ℤ) : Decidable (window.Contains timeNs) :=
  inferInstanceAs (Decidable (_ ∧ _))

section
variable (env : PnlEnv) (window : ScoringWindow) (baseCurrency : String)

def windowCommission (row : ReportRow) (timestamp : ℤ) :
    Except PnlFailure (Option (String × ℚ)) :=
  if window.Contains timestamp then do
    match ← raising (reportedMoney env row "commission") with
    | none => .error (.unavailable
        "one or more OOS native fills lack an explicit commission amount and currency")
    | some money =>
      if money.1 = baseCurrency then return some money
      else .error (.unavailable ("OOS fill commissions are not all in the account base currency; " ++
        "no FX conversion is inferred"))
  else return none

def readFill (row : ReportRow) : Except PnlFailure NativeFill := do
  match ← raising (rowTimestampNs env row "ts_event") with
  | none => .error (.unavailable
      "native fill timestamps are incomplete; gross commission scope is unknown")
  | some timestamp => do
    let commission ← windowCommission env window baseCurrency row timestamp
    let clientOrderId := row.name "client_order_id"
    -- an INTEGER column has 64 bits
    raising (ensure (clientOrderId = none ∨ -2 ^ 63 ≤ timestamp ∧ timestamp < 2 ^ 63)
      ⟨.overflowError, "Python int too large to convert to SQLite INTEGER"⟩)
    return ⟨row.name "position_id", clientOrderId, row.name "trade_id", timestamp, commission⟩

/-- The commission of a fill is a cost or a rebate, and the fill is inserted if it has an
order. -/
def FillIndex.add (index : FillIndex) (fill : NativeFill) : FillIndex where
  fills := if fill.clientOrderId = none then index.fills else index.fills ++ [fill]
  costs := if 0 ≤ fill.amount then index.costs + fill.amount else index.costs
  rebates := if 0 ≤ fill.amount then index.rebates else index.rebates + |fill.amount|

/-- `_index_native_fills_and_costs`. -/
def indexNativeFillsAndCosts (rows : List ReportRow) : Except PnlFailure FillIndex :=
  rows.foldlM (fun index row => do return index.add (← readFill env window baseCurrency row)) {}

end

/-! ## Positions -/

/-- The order and the trade of an event of a position. -/
def eventIdentity : ReportValue → Option (String × String)
  | .object fields =>
    let get := fun key => ((rowWith Prod.fst key fields).map Prod.snd).getD .null
    match get "type", (get "client_order_id").name, (get "trade_id").name with
    | .text "OrderFilled", some clientOrderId, some tradeId => some (clientOrderId, tradeId)
    | _, _, _ => none
  | _ => none

/-- `_position_event_identities`: the orders and the trades of the events. -/
def positionEventIdentities (row : ReportRow) : Option (List String × List String) :=
  match row.field "events" with
  | .list events =>
    let identities := events.filterMap eventIdentity
    if events ≠ [] ∧ identities.length = events.length ∧ (identities.map Prod.snd).Nodup then
      some (firsts id (identities.map Prod.fst), identities.map Prod.snd)
    else none
  | _ => none

def names (items : List ReportValue) : Option (List String) :=
  if (items.filterMap ReportValue.name).length = items.length then
    some (items.filterMap ReportValue.name)
  else none

/-- `client_order_ids` of a row, which may be missing. -/
def rawOrderIds (row : ReportRow) : Option (List String) :=
  match row.field "client_order_ids" with
  | .text s => names [.text s]
  | .list items => names items
  | .null => some []
  | _ => none

/-- `_position_order_ids`. -/
def positionOrderIds (row : ReportRow) : Option (List String) :=
  match rawOrderIds row with
  | none => none
  | some orderIds =>
    match positionEventIdentities row with
    | some (eventOrderIds, _) =>
      if orderIds ≠ [] ∧ orderIds.toFinset ≠ eventOrderIds.toFinset then none
      else if eventOrderIds = [] then none else some eventOrderIds
    | none =>
      if row.has "events" = true then none
      else if orderIds = [] then none else some orderIds

inductive PositionTrades where
  | invalid
  /-- An older report without trades. -/
  | missing
  | listed (tradeIds : List String)

/-- `trade_ids`, as `_position_cycle_fills` takes them. -/
def positionTrades (row : ReportRow) : PositionTrades :=
  match row.field "trade_ids", positionEventIdentities row with
  | .list items, identities =>
    if row.has "events" = true ∧ identities.isNone = true then .invalid
    else match names items with
    | none => .invalid
    | some tradeIds =>
      if tradeIds ≠ [] ∧ tradeIds.Nodup ∧
          ∀ i ∈ identities, i.2.toFinset = tradeIds.toFinset then .listed tradeIds
      else .invalid
  | .null, some (_, tradeIds) => if tradeIds = [] then .invalid else .listed tradeIds
  | .null, none => if row.has "events" = true then .invalid else .missing
  | _, _ => .invalid

def tradeFill (fills : List NativeFill) (tradeId : String) : Option NativeFill :=
  match fills.filter fun f => f.tradeId = some tradeId with
  | [fill] => some fill
  | _ => none

/-- `_position_cycle_fills`: the fills of a position, and the trades that name them. -/
def positionCycleFills (fills : List NativeFill) (row : ReportRow) (positionId : String)
    (orderIds : List String) : Option (List NativeFill × List String) :=
  match positionTrades row with
  | .invalid => none
  | .listed tradeIds =>
    let matched := tradeIds.filterMap (tradeFill fills)
    if matched.length = tradeIds.length ∧
        (matched.map NativeFill.clientOrderId).toFinset = (orderIds.map some).toFinset then
      some (matched, tradeIds)
    else none
  | .missing =>
    let held := fills.filter fun f => f.positionId = some positionId
    if (held.map NativeFill.clientOrderId).toFinset = (orderIds.map some).toFinset then
      some (orderIds.flatMap fun o => fills.filter fun f =>
        f.positionId = some positionId ∧ f.clientOrderId = some o, [])
    else none

def commonComponent (orders : OrderIndex) (orderIds : List String) : Option String :=
  match firsts id (orderIds.map (orderComponent orders)) with
  | [some componentId] => some componentId
  | _ => none

structure PositionCycle where
  positionId : String
  tradeIds : List String
  fills : List NativeFill
  componentId : String
  realized : ℚ
  deriving DecidableEq

namespace PositionCycle

variable (c : PositionCycle)

/-- `position_costs`. -/
def costs : ℚ := (c.fills.map NativeFill.costs).sum

/-- `position_rebates`. -/
def rebates : ℚ := (c.fills.map NativeFill.rebates).sum

end PositionCycle

section
variable (env : PnlEnv) (window : ScoringWindow) (baseCurrency : String) (orders : OrderIndex)
  (fills : List NativeFill)

/-- A fill is in the window, with a commission in the base currency. -/
def FillCounts (f : NativeFill) : Prop :=
  window.Contains f.eventTimeNs ∧ f.commission.map Prod.fst = some baseCurrency

instance (f : NativeFill) : Decidable (FillCounts window baseCurrency f) :=
  inferInstanceAs (Decidable (_ ∧ _))

/-- The position of a row, its fills, its trades and its component, without its result. -/
def cycleParts (row : ReportRow) : Option (String × List NativeFill × List String × String) :=
  match row.name "position_id", positionOrderIds row with
  | some positionId, some orderIds =>
    if orderIds.Nodup then
      match positionCycleFills fills row positionId orderIds with
      | some (cycleFills, tradeIds) =>
        if cycleFills ≠ [] ∧ ∀ f ∈ cycleFills, FillCounts window baseCurrency f then
          (commonComponent orders orderIds).map fun c => (positionId, cycleFills, tradeIds, c)
        else none
      | none => none
    else none
  | _, _ => none

/-- The cycle of a row of `_attribute_closed_positions`, or none where it goes on with the next
row. -/
def positionCycle (row : ReportRow) : Except PyError (Option PositionCycle) := do
  let opened ← rowTimestampNs env row "ts_opened"
  let closed ← rowTimestampNs env row "ts_closed"
  if (∀ t ∈ opened, window.Contains t) ∧ (∀ t ∈ closed, window.Contains t) ∧
      opened.isSome = true ∧ closed.isSome = true then
    match cycleParts window baseCurrency orders fills row with
    | none => return none
    | some (positionId, cycleFills, tradeIds, componentId) =>
      match ← reportedMoney env row "realized_pnl" with
      | none => return none
      | some (currency, realized) =>
        if currency = baseCurrency then
          return some ⟨positionId, tradeIds, cycleFills, componentId, realized⟩
        else return none
  else return none

end

/-- What is attributed, and what is claimed: net results, costs and rebates of the components. -/
structure ClaimState where
  attributed : Doc (ℚ × ℚ × ℚ)
  claimedPositions : List String := []
  claimedTrades : List String := []

def claimCycle (s : ClaimState) (c : PositionCycle) : Except PnlFailure ClaimState :=
  if c.positionId ∈ s.claimedPositions ∨ ∃ t ∈ c.tradeIds, t ∈ s.claimedTrades then
    .error (.unavailable "native position rows overlap on position or fill identity")
  else
    let previous := (s.attributed.get c.componentId).getD (0, 0, 0)
    .ok {
      attributed := s.attributed.set c.componentId
        (previous.1 + c.realized, previous.2.1 + c.costs, previous.2.2 + c.rebates)
      claimedPositions := s.claimedPositions ++ [c.positionId]
      claimedTrades := s.claimedTrades ++ c.tradeIds }

def zeroTotals (portfolio : PortfolioComposition) : Doc (ℚ × ℚ × ℚ) :=
  ⟨portfolio.components.map fun c => (c.componentId, 0, 0, 0), by
    rw [List.map_map]
    exact portfolio.unique_ids⟩

/-- One row of `_attribute_closed_positions`. -/
def attributeRow (env : PnlEnv) (window : ScoringWindow) (baseCurrency : String)
    (orders : OrderIndex) (fills : List NativeFill) (s : ClaimState) (row : ReportRow) :
    Except PnlFailure ClaimState := do
  match ← raising (positionCycle env window baseCurrency orders fills row) with
  | none => return s
  | some c => claimCycle s c

/-- `_attribute_closed_positions`. -/
def attributeClosedPositions (env : PnlEnv) (window : ScoringWindow)
    (portfolio : PortfolioComposition) (orders : OrderIndex) (fills : List NativeFill)
    (rows : List ReportRow) : Except PnlFailure ClaimState :=
  rows.foldlM (attributeRow env window portfolio.baseCurrency orders fills)
    { attributed := zeroTotals portfolio }

/-! ## Observations -/

/-- What binds the observations of a run: `portfolio_fingerprint`, `run_attempt_id`, `point` (at
sequence zero), `base_currency` and `result_bundle_digest`. -/
@[ext]
structure PnlScope where
  portfolioFingerprint : Digest
  runAttemptId : String
  eventTime : Instant
  baseCurrency : String
  resultBundleDigest : Digest
  runAttemptId_notBlank : notBlank runAttemptId = true

/-- `PortfolioPnlObservation`. -/
structure PortfolioPnlObservation where
  scope : PnlScope
  grossPnl : ℚ
  netPnl : ℚ
  componentIds : List String
  engineEvidenceDigest : Digest

/-- `ComponentPnlObservation`. -/
@[ext]
structure ComponentPnlObservation where
  scope : PnlScope
  componentId : String
  grossPnl : ℚ
  costDeductions : ℚ
  rebates : ℚ
  netPnl : ℚ
  attributionMethodDigest : Digest
  engineEvidenceDigest : Digest
  componentId_notBlank : notBlank componentId = true
  deductions_nonneg : 0 ≤ costDeductions ∧ 0 ≤ rebates
  net_eq : netPnl = grossPnl - costDeductions + rebates

/-- `_ATTRIBUTION_METHOD_DIGEST`. -/
def attributionMethodDigest (sha256 : String → Digest) : Digest :=
  digest sha256 (.mapping
    [(.str "method", .str "nautilus-native-position-cycle-pnl-plus-fill-commission-v1"),
      (.str "scope", .str "closed-position-cycles-opened-and-closed-inside-oos-window"),
      (.str "position_currency",
        .str "attribute-only-when-native-realized-pnl-is-in-account-base-currency"),
      (.str "mixed_component_position", .str "unallocated"),
      (.str "non_position_and_open_pnl", .str "unallocated-account-equity-residual"),
      (.str "costs", .str "complete-native-fill-commissions-in-account-base-currency-only")])

/-- `PortfolioPnlObservation.__post_init__`. -/
def makePortfolioPnl (scope : PnlScope) (grossPnl netPnl : ℚ) (componentIds : List String)
    (engineEvidenceDigest : Digest) : Except PyError PortfolioPnlObservation := do
  ensure (componentIds ≠ [] ∧ ∀ c ∈ componentIds, notBlank c = true ∧ c ≠ unallocatedComponentId)
    (valueError "component_ids must list declared portfolio components")
  ensure componentIds.Nodup (valueError "portfolio component_ids must be unique")
  return ⟨scope, grossPnl, netPnl, sortBy id componentIds, engineEvidenceDigest⟩

/-- `ComponentPnlObservation.__post_init__`. -/
def makeComponentPnl (scope : PnlScope) (componentId : String)
    (grossPnl costDeductions rebates netPnl : ℚ)
    (attributionMethodDigest engineEvidenceDigest : Digest) : Except PyError ComponentPnlObservation :=
  if hid : notBlank componentId = true then
    if hdeductions : 0 ≤ costDeductions ∧ 0 ≤ rebates then
      if hnet : netPnl = grossPnl - costDeductions + rebates then
        .ok ⟨scope, componentId, grossPnl, costDeductions, rebates, netPnl,
          attributionMethodDigest, engineEvidenceDigest, hid, hdeductions, hnet⟩
      else .error (valueError "net_pnl must equal gross_pnl less costs plus rebates")
    else .error (valueError "cost deductions and rebates must be non-negative")
  else .error (valueError
    "component_id must not be empty; use the unallocated sentinel explicitly")

/-! ## Metrics -/

structure AttributionMetric where
  name : String
  value : Option ℚ
  unit : String
  basis : MetricBasis
  sampleSize : ℕ
  calculationBasis : String
  nullReason : Option String
  deriving DecidableEq

def decimalContextBasis : String := "; Decimal precision=34; rounding=ROUND_HALF_EVEN"

def componentMetrics (portfolioPnl : PortfolioPnlObservation) (item : ComponentPnlObservation) :
    List AttributionMetric :=
  let unit := "currency:" ++ portfolioPnl.scope.baseCurrency
  [{ name := "component_gross_pnl:" ++ item.componentId
     value := some item.grossPnl
     unit := unit
     basis := .gross
     sampleSize := 1
     calculationBasis := "engine-reported run-level gross P&L using attribution method " ++
       item.attributionMethodDigest.text ++ "; evidence " ++ item.engineEvidenceDigest.text ++
         decimalContextBasis
     nullReason := none },
    { name := "component_net_pnl:" ++ item.componentId
      value := some item.netPnl
      unit := unit
      basis := .net
      sampleSize := 1
      calculationBasis := "engine-reported run-level net P&L after the explicitly attributed " ++
        "costs and rebates; method " ++ item.attributionMethodDigest.text ++ "; evidence " ++
          item.engineEvidenceDigest.text ++ decimalContextBasis
      nullReason := none },
    { name := "component_net_pnl_contribution:" ++ item.componentId
      value := if portfolioPnl.netPnl = 0 then none else some (item.netPnl / portfolioPnl.netPnl)
      unit := "fraction"
      basis := .net
      sampleSize := 1
      calculationBasis := "engine-attributed component net P&L divided by reconciled " ++
        "portfolio net P&L" ++ decimalContextBasis
      nullReason := if portfolioPnl.netPnl = 0 then some "portfolio net P&L is zero" else none }]

def checkBound (portfolioPnl : PortfolioPnlObservation) (item : ComponentPnlObservation) :
    Except PyError Unit := do
  ensure (item.scope.portfolioFingerprint = portfolioPnl.scope.portfolioFingerprint)
    (valueError "component P&L must belong to the account portfolio version")
  ensure (item.scope.runAttemptId = portfolioPnl.scope.runAttemptId)
    (valueError "component P&L must belong to the same run attempt")
  ensure (item.scope.eventTime = portfolioPnl.scope.eventTime)
    (valueError "component and portfolio P&L must use the same result event point")
  ensure (item.scope.baseCurrency = portfolioPnl.scope.baseCurrency)
    (valueError "component P&L must use the portfolio account base currency")
  ensure (item.scope.resultBundleDigest = portfolioPnl.scope.resultBundleDigest)
    (valueError "component P&L must bind the portfolio result evidence bundle")

/-- `calculate_component_attribution_metrics`. -/
def calculateComponentAttributionMetrics (portfolioPnl : PortfolioPnlObservation)
    (componentPnl : List ComponentPnlObservation) : Except PyError (List AttributionMetric) := do
  ensure (componentPnl ≠ []) (valueError "component P&L attribution observations are required")
  let componentIds := componentPnl.map ComponentPnlObservation.componentId
  ensure componentIds.Nodup
    (valueError "run-level component attribution must be unique per component")
  let components := sortBy ComponentPnlObservation.componentId componentPnl
  ensure (∀ c ∈ portfolioPnl.componentIds, c ∈ componentIds)
    (valueError "component P&L attribution is missing declared portfolio components")
  ensure (∀ c ∈ componentIds, c ∈ portfolioPnl.componentIds ∨ c = unallocatedComponentId)
    (valueError "component P&L attribution contains an undeclared portfolio component")
  let _ ← collect (components.map (checkBound portfolioPnl))
  let componentGross := (components.map ComponentPnlObservation.grossPnl).sum
  let componentNet := (components.map ComponentPnlObservation.netPnl).sum
  ensure (componentGross = portfolioPnl.grossPnl)
    (valueError "component gross P&L does not reconcile to portfolio gross P&L")
  ensure (componentNet = portfolioPnl.netPnl)
    (valueError "component net P&L does not reconcile to portfolio net P&L")
  let evidence := portfolioPnl.engineEvidenceDigest.text ++ "; result bundle " ++
    portfolioPnl.scope.resultBundleDigest.text ++ decimalContextBasis
  let unit := "currency:" ++ portfolioPnl.scope.baseCurrency
  return ⟨"portfolio_attributed_gross_pnl", some componentGross, unit, .gross, 1,
      "sum of engine-attributed component gross P&L, exactly reconciled to " ++
        "portfolio result evidence " ++ evidence, none⟩ ::
    ⟨"portfolio_attributed_net_pnl", some componentNet, unit, .net, 1,
      "sum of engine-attributed component net P&L, exactly reconciled to " ++
        "portfolio result evidence " ++ evidence, none⟩ ::
    components.flatMap (componentMetrics portfolioPnl)

def nullMetric (reason name unit : String) (basis : MetricBasis) : AttributionMetric :=
  ⟨name, none, unit, basis, 0, "Nautilus component P&L attribution v1 could not be verified",
    some reason⟩

/-- `_null_attribution_metrics`. -/
def nullAttributionMetrics (portfolio : PortfolioComposition) (reason : String) :
    List AttributionMetric :=
  let unit := "currency:" ++ portfolio.baseCurrency
  let componentIds := sortBy id
    (portfolio.components.map PortfolioComponent.componentId ++ [unallocatedComponentId])
  nullMetric reason "portfolio_attributed_gross_pnl" unit .gross ::
    nullMetric reason "portfolio_attributed_net_pnl" unit .net ::
    componentIds.flatMap fun componentId =>
      [nullMetric reason ("component_gross_pnl:" ++ componentId) unit .gross,
        nullMetric reason ("component_net_pnl:" ++ componentId) unit .net,
        nullMetric reason ("component_net_pnl_contribution:" ++ componentId) "fraction" .net]

/-! ## The attribution -/

/-- What is read of a `NautilusAccountEquityTraceReference`. -/
structure EquityScope where
  attemptId : String
  portfolioFingerprint : Digest
  window : Option ScoringWindow
  contentDigest : Digest
  attemptId_notBlank : notBlank attemptId = true

/-- What is read of a `NautilusNativeReportsReference`, with the rows of its file. -/
structure NativeReports where
  portfolioFingerprint : Digest
  contentDigest : Digest
  records : List (ReportKind × ReportRow)

def NativeReports.rows (reports : NativeReports) (kind : ReportKind) : List ReportRow :=
  (reports.records.filter fun r => r.1 = kind).map Prod.snd

/-- `_result_point`. -/
def resultPoint (endNs : ℤ) : Except PyError Instant :=
  let us := unixEpoch + endNs / 1000
  if h : 0 ≤ us ∧ us < instantLimit then .ok ⟨us.toNat, by omega⟩
  else .error (valueError "year is out of range")

structure PnlAttribution where
  totalCosts : ℚ
  totalRebates : ℚ
  attributed : Doc (ℚ × ℚ × ℚ)

section
variable (env : PnlEnv) (equity : EquityScope) (reports : NativeReports)
  (portfolio : PortfolioComposition)

def joinReports (window : ScoringWindow) : Except PnlFailure PnlAttribution := do
  let orders ← raising (indexNativeOrders portfolio (reports.rows .orders))
  let index ← indexNativeFillsAndCosts env window portfolio.baseCurrency (reports.rows .fills)
  let claims ← attributeClosedPositions env window portfolio orders index.fills
    (reports.rows .positions)
  return ⟨index.costs, index.rebates, claims.attributed⟩

/-- `result_bundle_digest`. -/
def resultBundleDigest : Digest :=
  digest env.sha256 (.mapping
    [(.str "equity_trace_digest", .str equity.contentDigest.text),
      (.str "native_reports_digest", .str reports.contentDigest.text),
      (.str "portfolio_fingerprint", .str portfolio.fingerprint.text)])

def pnlScope : Except PyError (ScoringWindow × PnlScope) := do
  ensure (equity.portfolioFingerprint = portfolio.fingerprint ∧
      reports.portfolioFingerprint = portfolio.fingerprint)
    (valueError "component P&L portfolio differs from the verified result scope")
  match equity.window with
  | none => .error (valueError "component P&L requires an explicit OOS window")
  | some window => do
    let point ← resultPoint window.endNs
    return (window, ⟨portfolio.fingerprint, equity.attemptId, point, portfolio.baseCurrency,
      resultBundleDigest env equity reports portfolio, equity.attemptId_notBlank⟩)

def componentObservation (scope : PnlScope) (attribution : PnlAttribution)
    (component : PortfolioComponent) : Except PyError ComponentPnlObservation :=
  let (netPnl, costs, rebates) := (attribution.attributed.get component.componentId).getD (0, 0, 0)
  makeComponentPnl scope component.componentId (netPnl + costs - rebates) costs rebates netPnl
    (attributionMethodDigest env.sha256) reports.contentDigest

def pnlObservations (scope : PnlScope) (attribution : PnlAttribution) (accountNetPnl : ℚ) :
    Except PyError (PortfolioPnlObservation × List ComponentPnlObservation) := do
  let portfolioGross := accountNetPnl + attribution.totalCosts - attribution.totalRebates
  let portfolioObservation ← makePortfolioPnl scope portfolioGross accountNetPnl
    (portfolio.components.map PortfolioComponent.componentId) scope.resultBundleDigest
  let components ← collect
    (portfolio.components.map (componentObservation env reports scope attribution))
  let unallocatedCosts := attribution.totalCosts -
    (components.map ComponentPnlObservation.costDeductions).sum
  let unallocatedRebates := attribution.totalRebates -
    (components.map ComponentPnlObservation.rebates).sum
  let unallocatedGross := portfolioGross - (components.map ComponentPnlObservation.grossPnl).sum
  let unallocated ← makeComponentPnl scope unallocatedComponentId unallocatedGross unallocatedCosts
    unallocatedRebates (unallocatedGross - unallocatedCosts + unallocatedRebates)
    (attributionMethodDigest env.sha256) reports.contentDigest
  return (portfolioObservation, components ++ [unallocated])

/-- `build_nautilus_component_pnl_metrics`. -/
def buildComponentPnlMetrics (accountNetPnl : PyDecimal) :
    Except PyError (List AttributionMetric) :=
  match accountNetPnl with
  | .special => .error (valueError "account_net_pnl must be a finite Decimal")
  | .finite negative c e => do
    let (window, scope) ← pnlScope env equity reports portfolio
    match joinReports env reports portfolio window with
    | .error (.unavailable reason) => return nullAttributionMetrics portfolio reason
    | .error (.raised error) => .error error
    | .ok attribution => do
      let (portfolioPnl, componentPnl) ← pnlObservations env reports portfolio scope attribution
        (PyDecimal.finite negative c e).value
      calculateComponentAttributionMetrics portfolioPnl componentPnl

end

end ChartingPlatform
