/-
  Portfolios and their shared risk policy (`contracts.py`), as the allocator reads them.

  A fingerprint is that of the whole record; the fields that only it covers are left out.
-/
import ChartingPlatform.Account.Events
import ChartingPlatform.Lib.KeyedTotals

namespace ChartingPlatform

open Lib

/-- `decimal_math._DECIMAL_CONTEXT`: 34 digits, halves to even. -/
def decimalMath : DecimalContext where
  digits := 34
  least := -1000032
  greatest := 999999
  digits_pos := by decide
  greatest_nonneg := pythonContext.greatest_nonneg

/-! ## Risk models -/

/-- `ProductClass`. -/
inductive ProductClass where
  | equity | crypto | future | option | fx | other
  deriving DecidableEq, Repr

def ProductClass.text : ProductClass → String
  | .equity => "equity"
  | .crypto => "crypto"
  | .future => "future"
  | .option => "option"
  | .fx => "fx"
  | .other => "other"

/-- `ProductClass(value)`. -/
def ProductClass.ofText (value : String) : Option ProductClass :=
  [ProductClass.equity, .crypto, .future, .option, .fx, .other].find? fun c => c.text = value

/-- `RiskExposureMeasure`. -/
inductive RiskExposureMeasure where
  | signedBaseNotional | signedContractNotional | deltaAdjustedBaseNotional
  | signedBaseCurrencyNotional
  deriving DecidableEq, Repr

def RiskExposureMeasure.text : RiskExposureMeasure → String
  | .signedBaseNotional => "signed_base_notional"
  | .signedContractNotional => "signed_contract_notional"
  | .deltaAdjustedBaseNotional => "delta_adjusted_base_notional"
  | .signedBaseCurrencyNotional => "signed_base_currency_notional"

/-- `ProductRiskModel`. -/
structure ProductRiskModel where
  productClass : ProductClass
  exposureMeasure : RiskExposureMeasure
  definitionDigest : Digest
  deriving DecidableEq

def ProductRiskModel.toPy (m : ProductRiskModel) : PyValue :=
  .dataclass "app.strategy_lab_v2.contracts.ProductRiskModel"
    [({ name := "product_class" },
        .enum "app.strategy_lab_v2.contracts.ProductClass" (.str m.productClass.text)),
      ({ name := "exposure_measure" },
        .enum "app.strategy_lab_v2.contracts.RiskExposureMeasure" (.str m.exposureMeasure.text)),
      ({ name := "definition_digest" }, .str m.definitionDigest.text)]

section
variable (sha256 : String → Digest)

def platformRiskModel (productClass : ProductClass) (measure : RiskExposureMeasure)
    (model : String) : ProductRiskModel :=
  ⟨productClass, measure,
    digest sha256 (.mapping [(.str "model", .str model), (.str "version", .int 1)])⟩

/-- `CASH_EQUITY_NOTIONAL_RISK_MODEL`. -/
def cashEquityNotionalRiskModel : ProductRiskModel :=
  platformRiskModel sha256 .equity .signedBaseNotional
    "cash-equity-market-value-as-signed-base-notional"

/-- `CRYPTO_SPOT_NOTIONAL_RISK_MODEL`. -/
def cryptoSpotNotionalRiskModel : ProductRiskModel :=
  platformRiskModel sha256 .crypto .signedBaseNotional
    "crypto-spot-market-value-as-signed-base-notional"

/-- `FUTURE_CONTRACT_NOTIONAL_RISK_MODEL`. -/
def futureContractNotionalRiskModel : ProductRiskModel :=
  platformRiskModel sha256 .future .signedContractNotional
    "future-contract-notional-as-signed-base-notional"

/-- `OPTION_DELTA_NOTIONAL_RISK_MODEL`. -/
def optionDeltaNotionalRiskModel : ProductRiskModel :=
  platformRiskModel sha256 .option .deltaAdjustedBaseNotional
    "option-delta-adjusted-underlying-notional"

/-- `FX_BASE_NOTIONAL_RISK_MODEL`. -/
def fxBaseNotionalRiskModel : ProductRiskModel :=
  platformRiskModel sha256 .fx .signedBaseCurrencyNotional "fx-pair-base-currency-notional"

/-- `SUPPORTED_PRODUCT_RISK_MODELS`. -/
def supportedProductRiskModels : List ProductRiskModel :=
  [cashEquityNotionalRiskModel sha256, cryptoSpotNotionalRiskModel sha256,
    futureContractNotionalRiskModel sha256, optionDeltaNotionalRiskModel sha256,
    fxBaseNotionalRiskModel sha256]

end

/-! ## Components -/

/-- `PortfolioComponent`. -/
@[ext]
structure PortfolioComponent where
  componentId : String
  instrumentIds : List String
  capitalWeight : ℚ
  priority : ℕ := 0
  componentId_notBlank : notBlank componentId = true
  instrumentIds_nonempty : instrumentIds ≠ []
  instrumentIds_notBlank : ∀ i ∈ instrumentIds, notBlank i = true
  unique_instruments : instrumentIds.Nodup
  weight_mem : 0 < capitalWeight ∧ capitalWeight ≤ 1

/-- `TargetConflictPolicy`. -/
inductive TargetConflictPolicy where
  | reject | highestPriority | sumComponentTargets
  deriving DecidableEq, Repr

/-- `SharedRiskPolicy`. -/
structure SharedRiskPolicy where
  fingerprint : Digest
  maxGrossExposureFraction : ℚ := 1
  maxNetExposureFraction : ℚ := 1
  maxInstrumentGrossExposureFraction : ℚ := 1
  maxComponentGrossExposureFraction : ℚ := 1
  maxComponentLeverage : ℚ := 1
  maxOpenInstruments : Option ℕ := none
  allowShortPositions : Bool := false
  targetConflictPolicy : TargetConflictPolicy := .reject
  riskModels : List ProductRiskModel := []
  gross_pos : 0 < maxGrossExposureFraction := by decide
  net_nonneg : 0 ≤ maxNetExposureFraction := by decide
  instrument_pos : 0 < maxInstrumentGrossExposureFraction := by decide
  component_pos : 0 < maxComponentGrossExposureFraction := by decide
  leverage_pos : 0 < maxComponentLeverage := by decide
  open_pos : ∀ n ∈ maxOpenInstruments, 1 ≤ n := by simp
  unique_classes : (riskModels.map ProductRiskModel.productClass).Nodup := by decide

/-- `UNALLOCATED_COMPONENT_ID`. -/
def unallocatedComponentId : String := "__unallocated__"

/-- `PortfolioComposition`. -/
structure PortfolioComposition where
  fingerprint : Digest
  baseCurrency : String
  components : List PortfolioComponent
  sharedRiskPolicy : SharedRiskPolicy
  nonempty : components ≠ []
  unique_ids : (components.map PortfolioComponent.componentId).Nodup
  reserved_id : unallocatedComponentId ∉ components.map PortfolioComponent.componentId
  weights_le : ∃ w, totalFrom decimalMath.round (fun c => .ok c.capitalWeight) 0 components = .ok w ∧
    w ≤ 1

namespace PortfolioComposition

variable (p : PortfolioComposition)

/-- `components.get(component_id)`. -/
def component (componentId : String) : Option PortfolioComponent :=
  rowWith PortfolioComponent.componentId componentId p.components

def priority (componentId : String) : ℕ := ((p.component componentId).map (·.priority)).getD 0

def capitalWeight (componentId : String) : ℚ :=
  ((p.component componentId).map (·.capitalWeight)).getD 0

end PortfolioComposition

end ChartingPlatform
