/-
  Conditions of a screener (`screener_engine.py`) over the indicators of a series.

  An evaluation is a program that asks for indicators.  The branches that ask for none
  are a parameter, as are the operations on floats and the computation of an indicator.
-/
import ChartingPlatform.Lib.Calls
import ChartingPlatform.Lib.Documents
import ChartingPlatform.Screener.Snapshots
import ChartingPlatform.Strategy.Sdk

namespace ChartingPlatform

open Lib

/-! ## Series -/

/-- The operations of floats that are not `nan`. -/
structure FloatOps (F : Type) where
  ofDecimal : ℚ → F
  lt : F → F → Bool
  le : F → F → Bool
  /-- `abs(a - b) < 1e-9` -/
  near : F → F → Bool

inductive NpFloat (F : Type) where
  | nan
  | val (x : F)
  deriving DecidableEq

/-- `OHLCVSeries`. -/
structure OHLCVSeries (F : Type) where
  timestamps : List ℤ
  opens : List F
  highs : List F
  lows : List F
  closes : List F
  volumes : List F
  deriving DecidableEq

/-- `int(ts.timestamp())`. -/
def unixSeconds (ts : Instant) : ℤ := (ts.val - 62135596800000000 : ℤ).tdiv 1000000

/-- `OHLCVSeries.from_orm_bars`. -/
def OHLCVSeries.fromOrmBars {F : Type} (ops : FloatOps F) (bars : List MarketBar) : OHLCVSeries F where
  timestamps := bars.map fun b => unixSeconds b.ts
  opens := bars.map fun b => ops.ofDecimal b.open_
  highs := bars.map fun b => ops.ofDecimal b.high
  lows := bars.map fun b => ops.ofDecimal b.low
  closes := bars.map fun b => ops.ofDecimal b.close
  volumes := bars.map fun b => ops.ofDecimal (b.volume.getD 0)

abbrev Outputs (F : Type) := List (String × List (NpFloat F))

structure IndicatorRef (V : Type) where
  type : String
  params : Doc V
  deriving DecidableEq

/-! ## Conditions -/

/-- A value of `computed`. -/
inductive ComputedValue (F : Type) where
  | number (value : Option F)
  | text (value : String)
  | warning (code message : String)
  deriving DecidableEq

/-- A condition; `plain` stands for the branches that ask for no indicator. -/
inductive Condition (F V K : Type) where
  | group (operator : String) (conditions : List (Condition F V K))
  | indicatorThreshold (indicator : IndicatorRef V) (output op : String) (value : F)
  | indicatorCross (a : IndicatorRef V) (outputA : String) (b : IndicatorRef V) (outputB op : String)
  | priceIndicator (field : String) (indicator : IndicatorRef V) (output op : String)
  | plain (kind : K)

/-- What an evaluation returns: whether the condition matches, and the computed values. -/
abbrev Evaluated (F : Type) := Bool × Doc (ComputedValue F)

/-- What an evaluation may raise: an exception of an indicator or a branch, or an `IndexError`. -/
inductive EvaluationError where
  | raised (error : PyError)
  | indexError (message : String)
  deriving DecidableEq

/-- An evaluation, as a program that asks for indicators. -/
abbrev Evaluation (F V : Type) := Calls (IndicatorRef V) (Outputs F) EvaluationError

/-- `_pick_indicator_output`. -/
def pickIndicatorOutput {F : Type} (result : Outputs F) (preferred : String) :
    Option (String × List (NpFloat F)) :=
  if preferred ≠ "" then result.find? fun o => decide (o.1 = preferred)
  else
    match result with
    | [o] => some o
    | _ => none

/-- `_indicator_output_warning`. -/
def indicatorOutputWarning {F : Type} (indicatorType preferred : String) (result : Outputs F) :
    Doc (ComputedValue F) :=
  let options := if result = [] then "none" else ", ".intercalate (result.map Prod.fst)
  if preferred ≠ "" then
    Doc.empty.set "_warning" (.warning "invalid_indicator_output"
      s!"Indicator {reprText indicatorType} output {reprText preferred} is unavailable; choose one of: {options}.")
  else
    Doc.empty.set "_warning" (.warning "explicit_indicator_output_required"
      s!"Indicator {reprText indicatorType} returns multiple outputs; choose one of: {options}.")

section
variable {F V K : Type} (ops : FloatOps F)

/-- `_compare`. -/
def compare_ (val : F) (op : String) (threshold : F) : Bool :=
  match op with
  | "gt" => ops.lt threshold val
  | "lt" => ops.lt val threshold
  | "gte" => ops.le threshold val
  | "lte" => ops.le val threshold
  | "eq" => ops.near val threshold
  | _ => false

/-- `field_map.get(field, data.closes)`. -/
def priceSeries (data : OHLCVSeries F) (field : String) : List F :=
  match field with
  | "open" => data.opens
  | "high" => data.highs
  | "low" => data.lows
  | "volume" => data.volumes
  | _ => data.closes

/-- `float(v) if not np.isnan(v) else None`. -/
def NpFloat.toOption : NpFloat F → Option F
  | .nan => none
  | .val x => some x

/-- The branch `indicator_threshold`. -/
def evaluateThreshold (indicator : IndicatorRef V) (output op : String) (value : F) :
    Evaluation F V (Evaluated F) := do
  let result ← Calls.ask indicator
  match pickIndicatorOutput result output with
  | none => return (false, indicatorOutputWarning indicator.type output result)
  | some (key, series) =>
    let val := series.reverse.findSome? NpFloat.toOption
    let computed := Doc.empty.set (indicator.type ++ "_" ++ key) (.number val)
    match val with
    | none => return (false, computed)
    | some x => return (compare_ ops x op value, computed)

/-- The branch `indicator_cross`. -/
def evaluateCross (a : IndicatorRef V) (outputA : String) (b : IndicatorRef V) (outputB op : String) :
    Evaluation F V (Evaluated F) := do
  let resA ← Calls.ask a
  let resB ← Calls.ask b
  match pickIndicatorOutput resA outputA, pickIndicatorOutput resB outputB with
  | none, _ => return (false, indicatorOutputWarning a.type outputA resA)
  | some _, none => return (false, indicatorOutputWarning b.type outputB resB)
  | some (_, arrA), some (_, arrB) =>
    let n := min arrA.length arrB.length
    if n < 2 then return (false, Doc.empty)
    else
      let curA := arrA.getD (n - 1) .nan
      let curB := arrB.getD (n - 1) .nan
      let computed := (Doc.empty.set (a.type ++ "_latest") (.number curA.toOption)).set
        (b.type ++ "_latest") (.number curB.toOption)
      match curA, curB, arrA.getD (n - 2) .nan, arrB.getD (n - 2) .nan with
      | .val curA, .val curB, .val prevA, .val prevB =>
        match op with
        | "crosses_above" => return (ops.le prevA prevB && ops.lt curB curA, computed)
        | "crosses_below" => return (ops.le prevB prevA && ops.lt curA curB, computed)
        | "gt" => return (ops.lt curB curA, computed)
        | "lt" => return (ops.lt curA curB, computed)
        | _ => return (false, computed)
      | _, _, _, _ => return (false, computed)

/-- The branch `price_indicator`. -/
def evaluatePriceIndicator (data : OHLCVSeries F) (field : String) (indicator : IndicatorRef V)
    (output op : String) : Evaluation F V (Evaluated F) := do
  let prices := priceSeries data field
  if prices.length < 2 then return (false, Doc.empty)
  else
    let result ← Calls.ask indicator
    match pickIndicatorOutput result output with
    | none => return (false, indicatorOutputWarning indicator.type output result)
    | some (key, series) =>
      let n := min prices.length series.length
      match prices[n - 1]?, prices[n - 2]?, decide (2 ≤ n) with
      | some curPrice, some prevPrice, true =>
        let curIndicator := series.getD (n - 1) .nan
        let computed := (Doc.empty.set field (.number (some curPrice))).set
          (indicator.type ++ "_" ++ key) (.number curIndicator.toOption)
        match curIndicator, series.getD (n - 2) .nan with
        | .nan, _ => return (false, computed)
        | .val cur, .nan =>
          if op = "crosses_above" ∨ op = "crosses_below" then return (false, computed)
          else return (compare_ ops curPrice op cur, computed)
        | .val cur, .val prev =>
          match op with
          | "crosses_above" => return (ops.le prevPrice prev && ops.lt cur curPrice, computed)
          | "crosses_below" => return (ops.le prev prevPrice && ops.lt curPrice cur, computed)
          | _ => return (compare_ ops curPrice op cur, computed)
      | _, _, _ => return (false, Doc.empty)

def groupResult (operator : String) (results : List (Evaluated F)) : Except EvaluationError (Evaluated F) :=
  let computed := results.foldl (fun d r => d.merge r.2) Doc.empty
  let booleans := results.map Prod.fst
  match operator.map Char.toUpper with
  | "AND" => .ok (booleans.all id, computed)
  | "OR" => .ok (booleans.any id, computed)
  | "NOT" =>
    match booleans with
    | b :: _ => .ok (!b, computed)
    | [] => .error (.indexError "list index out of range")
  | _ => .ok (false, computed)

mutual

/-- `_evaluate_condition`. -/
def evaluateCondition (plain : K → OHLCVSeries F → Except EvaluationError (Evaluated F))
    (data : OHLCVSeries F) : Condition F V K → Evaluation F V (Evaluated F)
  | .group operator conditions => do
    let results ← evaluateConditions plain data conditions
    .done (groupResult operator results)
  | .indicatorThreshold indicator output op value => evaluateThreshold ops indicator output op value
  | .indicatorCross a outputA b outputB op => evaluateCross ops a outputA b outputB op
  | .priceIndicator field indicator output op =>
    evaluatePriceIndicator ops data field indicator output op
  | .plain kind => .done (plain kind data)

def evaluateConditions (plain : K → OHLCVSeries F → Except EvaluationError (Evaluated F))
    (data : OHLCVSeries F) : List (Condition F V K) → Evaluation F V (List (Evaluated F))
  | [] => return []
  | c :: cs => do
    let r ← evaluateCondition plain data c
    let rs ← evaluateConditions plain data cs
    return r :: rs

end

end

end ChartingPlatform
