/-
  Option exposure (`services/options_exposure.py`): the strike ladder with its key levels,
  and the summaries of the expirations.

  Numbers are exact rationals.  An expiration is keyed by its date instead of the date's
  ISO text, which is one-to-one and keeps the order.  The estimator of missing greeks
  (`calculate_greeks`) and the valuation date are parameters.
-/
import ChartingPlatform.Lib.Accumulators
import ChartingPlatform.Lib.Gregorian
import ChartingPlatform.Lib.Rounding
import ChartingPlatform.Lib.Sorting
import Mathlib.Data.List.MinMax
import Mathlib.Data.Rat.Floor

namespace ChartingPlatform

open Lib

/-! ## Quotes -/

/-- `OptionRight`. -/
inductive OptionRight where
  | call | put
  deriving DecidableEq

/-- `_ContractQuote`. -/
structure ContractQuote where
  strike : ℚ
  right : OptionRight
  expiryDate : Day
  contractSize : ℚ
  gamma : Option ℚ
  delta : Option ℚ
  openInterest : Option ℚ
  volume : Option ℚ
  impliedVol : Option ℚ
  mark : Option ℚ
  deriving DecidableEq

/-- What `calculate_greeks` gives. -/
structure Greeks where
  delta : ℚ
  gamma : ℚ
  deriving DecidableEq

/-- The arguments of `calculate_greeks`. -/
structure GreekInputs where
  spot : ℚ
  strike : ℚ
  expiry : Day
  impliedVol : ℚ
  riskFreeRate : ℚ
  isCall : Bool
  valuationDate : Day

/-- What a computation is made with: the estimator, the valuation date, the price of the
    underlying and the risk-free rate. -/
structure Valuation where
  calculateGreeks : GreekInputs → Greeks
  today : Day
  spot : ℚ
  rfr : ℚ

namespace ContractQuote

variable (v : Valuation) (q : ContractQuote)

/-- `oi_f`. -/
def oi : ℚ := q.openInterest.getD 0

/-- `vol_f`. -/
def vol : ℚ := q.volume.getD 0

/-- `(q.expiry_date - today).days / 365.25`, not below zero. -/
def tte : ℚ := max 0 ((((q.expiryDate : ℕ) : ℚ) - (v.today : ℕ)) / (1461 / 4))

/-- The estimate of a quote that lacks a greek and can be priced. -/
def estimated : Option Greeks :=
  match q.impliedVol with
  | some iv =>
    if (q.gamma = none ∨ q.delta = none) ∧ 0 < v.spot ∧ 0 < q.tte v then
      some (v.calculateGreeks
        ⟨v.spot, q.strike, q.expiryDate, iv, v.rfr, decide (q.right = .call), v.today⟩)
    else none
  | none => none

/-- `gamma_f`: the quoted gamma, else the estimate, else zero. -/
def gammaF : ℚ := q.gamma.getD (((q.estimated v).map Greeks.gamma).getD 0)

/-- `delta_f`. -/
def deltaF : ℚ := q.delta.getD (((q.estimated v).map Greeks.delta).getD 0)

/-- `base_gex`. -/
def baseGex : ℚ := q.gammaF v * q.oi * q.contractSize * (v.spot * v.spot)

/-- `base_dex`. -/
def baseDex : ℚ := |q.deltaF v| * q.oi * q.contractSize

end ContractQuote

/-! ## Accumulators -/

/-- An entry of `by_se`. -/
structure Sums where
  callGex : ℚ := 0
  putGex : ℚ := 0
  callDex : ℚ := 0
  putDex : ℚ := 0
  callOi : ℚ := 0
  putOi : ℚ := 0
  deriving DecidableEq

def Sums.add (v : Valuation) (s : Sums) (q : ContractQuote) : Sums :=
  match q.right with
  | .call => { s with
      callGex := s.callGex + q.baseGex v
      callDex := s.callDex + q.baseDex v
      callOi := s.callOi + q.oi }
  | .put => { s with
      putGex := s.putGex + -q.baseGex v
      putDex := s.putDex + -q.baseDex v
      putOi := s.putOi + q.oi }

/-- An entry of `by_s`. -/
structure StrikeSums extends Sums where
  callIvSum : ℚ := 0
  callIvN : ℕ := 0
  putIvSum : ℚ := 0
  putIvN : ℕ := 0
  callMark : Option ℚ := none
  putMark : Option ℚ := none
  deriving DecidableEq

/-- The mean of implied volatilities, none without one. -/
def meanIv (sum : ℚ) (n : ℕ) : Option ℚ := if n = 0 then none else some (sum / n)

/-- The exposures of a quote, its implied volatility and its mark are taken on its side. -/
def StrikeSums.add (v : Valuation) (s : StrikeSums) (q : ContractQuote) : StrikeSums :=
  match q.right with
  | .call => { s with
      toSums := s.toSums.add v q
      callIvSum := s.callIvSum + q.impliedVol.getD 0
      callIvN := if q.impliedVol = none then s.callIvN else s.callIvN + 1
      callMark := if q.mark = none then s.callMark else q.mark }
  | .put => { s with
      toSums := s.toSums.add v q
      putIvSum := s.putIvSum + q.impliedVol.getD 0
      putIvN := if q.impliedVol = none then s.putIvN else s.putIvN + 1
      putMark := if q.mark = none then s.putMark else q.mark }

/-- The local variables of the loop of `_compute_exposure`. -/
structure ExposureLoop where
  bySe : List ((ℚ × Day) × Sums) := []
  byS : List (ℚ × StrikeSums) := []
  totalCallOi : ℚ := 0
  totalPutOi : ℚ := 0
  totalCallVol : ℚ := 0
  totalPutVol : ℚ := 0
  allExpirations : Finset Day := ∅
  anyEstimated : Bool := false

def exposureQuote (v : Valuation) (s : ExposureLoop) (q : ContractQuote) : ExposureLoop :=
  let s := { s with
    anyEstimated := s.anyEstimated || (q.estimated v).isSome
    allExpirations := insert q.expiryDate s.allExpirations
    byS := updateEntry {} (fun b => b.add v q) s.byS q.strike
    bySe := updateEntry {} (fun b => b.add v q) s.bySe (q.strike, q.expiryDate) }
  match q.right with
  | .call => { s with
      totalCallOi := s.totalCallOi + q.oi
      totalCallVol := s.totalCallVol + q.vol }
  | .put => { s with
      totalPutOi := s.totalPutOi + q.oi
      totalPutVol := s.totalPutVol + q.vol }

/-! ## The ladder -/

/-- `ExpiryBreakdown`. -/
structure ExpiryBreakdown where
  callGex : ℚ
  putGex : ℚ
  netGex : ℚ
  callDex : ℚ
  putDex : ℚ
  netDex : ℚ
  callOi : ℚ
  putOi : ℚ
  deriving DecidableEq

def Sums.breakdown (s : Sums) : ExpiryBreakdown :=
  ⟨s.callGex, s.putGex, s.callGex + s.putGex, s.callDex, s.putDex, s.callDex + s.putDex,
    s.callOi, s.putOi⟩

/-- `ExposureLadderRow`. -/
structure ExposureLadderRow extends ExpiryBreakdown where
  strike : ℚ
  callIv : Option ℚ
  putIv : Option ℚ
  callMark : Option ℚ
  putMark : Option ℚ
  byExpiry : List (Day × ExpiryBreakdown)
  deriving DecidableEq

def ladderRow (s : ExposureLoop) (strike : ℚ) : ExposureLadderRow :=
  let bs := entryOf {} s.byS strike
  { toExpiryBreakdown := bs.toSums.breakdown
    strike := strike
    callIv := meanIv bs.callIvSum bs.callIvN
    putIv := meanIv bs.putIvSum bs.putIvN
    callMark := bs.callMark
    putMark := bs.putMark
    byExpiry := (sortedList s.allExpirations).filterMap fun expiry =>
      (rowWith Prod.fst (strike, expiry) s.bySe).map fun entry =>
        (expiry, entry.2.breakdown) }

def exposureLadder (s : ExposureLoop) : List ExposureLadderRow :=
  (sortBy id (s.byS.map Prod.fst)).map (ladderRow s)

/-! ## Key levels -/

/-- `KeyLevels`. -/
structure KeyLevels where
  callWall : Option ℚ := none
  putWall : Option ℚ := none
  gammaFlip : Option ℚ := none
  maxPain : Option ℚ := none
  deriving DecidableEq

def flipBetween (prev curr : ExposureLadderRow) : ℚ :=
  prev.strike + |prev.netGex| / (|prev.netGex| + |curr.netGex|) * (curr.strike - prev.strike)

/-- `_find_gamma_flip`. -/
def findGammaFlip : List ExposureLadderRow → Option ℚ
  | prev :: curr :: rest =>
    if prev.netGex * curr.netGex < 0 then
      some (if curr.strike - prev.strike = 0 then prev.strike
        else roundAt (1 / 100) (flipBetween prev curr))
    else findGammaFlip (curr :: rest)
  | _ => none

/-- The intrinsic value of the open contracts when the underlying ends at a price. -/
def totalIntrinsic (quotes : List ContractQuote) (testK : ℚ) : ℚ :=
  quotes.foldl (fun total q =>
    match q.right with
    | .call => total + max 0 (testK - q.strike) * q.oi * q.contractSize
    | .put => total + max 0 (q.strike - testK) * q.oi * q.contractSize) 0

/-- `_find_max_pain`; the smallest value so far is none while it is infinite. -/
def findMaxPain (quotes : List ContractQuote) : Option ℚ :=
  match sortedList (quotes.map ContractQuote.strike).toFinset with
  | [] => none
  | first :: rest =>
    some ((first :: rest).foldl (fun (s : Option ℚ × ℚ) testK =>
      let total := totalIntrinsic quotes testK
      if s.1.all (fun minValue => decide (total < minValue)) then (some total, testK) else s)
      (none, first)).2

/-- `_compute_key_levels`. -/
def computeKeyLevels (ladder : List ExposureLadderRow) (quotes : List ContractQuote) :
    KeyLevels :=
  match ladder with
  | [] => {}
  | _ :: _ =>
    { callWall := (ladder.argmax fun r => r.callOi).bind fun r =>
        if 0 < r.callOi then some r.strike else none
      putWall := (ladder.argmax fun r => r.putOi).bind fun r =>
        if 0 < r.putOi then some r.strike else none
      gammaFlip := findGammaFlip ladder
      maxPain := findMaxPain quotes }

/-- `_compute_implied_move`. -/
def computeImpliedMove (ladder : List ExposureLadderRow) (spot : ℚ) : Option ℚ :=
  if spot ≤ 0 then none
  else do
    let atm ← ladder.argmin fun r => |r.strike - spot|
    return ((← atm.callMark) + (← atm.putMark)) / spot

/-- What `_compute_exposure` returns. -/
structure ExposureResult where
  ladder : List ExposureLadderRow
  keyLevels : KeyLevels
  totalGex : ℚ
  totalNetDex : ℚ
  pcrOi : Option ℚ
  pcrVolume : Option ℚ
  impliedMovePct : Option ℚ
  expirations : List Day
  anyEstimated : Bool

/-- `_compute_exposure`. -/
def computeExposure (v : Valuation) (quotes : List ContractQuote) : ExposureResult :=
  let s := quotes.foldl (exposureQuote v) {}
  let ladder := exposureLadder s
  { ladder := ladder
    keyLevels := computeKeyLevels ladder quotes
    totalGex := (ladder.map fun r => r.netGex).sum
    totalNetDex := (ladder.map fun r => r.netDex).sum
    pcrOi := if 0 < s.totalCallOi then some (s.totalPutOi / s.totalCallOi) else none
    pcrVolume := if 0 < s.totalCallVol then some (s.totalPutVol / s.totalCallVol) else none
    impliedMovePct := computeImpliedMove ladder v.spot
    expirations := sortedList s.allExpirations
    anyEstimated := s.anyEstimated }

/-! ## Summaries of the expirations -/

/-- An entry of `by_expiry`. -/
structure ExpirySums where
  callGex : ℚ := 0
  putGex : ℚ := 0
  callOi : ℚ := 0
  putOi : ℚ := 0
  deriving DecidableEq

def ExpirySums.add (spotSq : ℚ) (s : ExpirySums) (q : ContractQuote) : ExpirySums :=
  let baseGex := q.gamma.getD 0 * q.oi * q.contractSize * spotSq
  match q.right with
  | .call => { s with callGex := s.callGex + baseGex, callOi := s.callOi + q.oi }
  | .put => { s with putGex := s.putGex - baseGex, putOi := s.putOi + q.oi }

/-- `ExpirationSummary`. -/
structure ExpirationSummary where
  expiration : Day
  dte : ℕ
  totalCallOi : ℚ
  totalPutOi : ℚ
  pcrOi : Option ℚ
  totalGex : ℚ
  deriving DecidableEq

/-- `list_exposure_expirations` on the quotes, the price and the provider's expirations that
    it has read. -/
def listExposureExpirations (providerExpirations : Finset Day) (quotes : List ContractQuote)
    (spot : Option ℚ) (today : Day) : List ExpirationSummary :=
  let byExpiry : List (Day × ExpirySums) := quotes.foldl (fun d q =>
    updateEntry {} (fun b => b.add (spot.getD 0 ^ 2) q) d q.expiryDate) []
  ((sortBy id (byExpiry.map Prod.fst)).filter fun expiry =>
      providerExpirations = ∅ ∨ expiry ∈ providerExpirations).map fun expiry =>
    let s := entryOf {} byExpiry expiry
    { expiration := expiry
      dte := (expiry : ℕ) - (today : ℕ)
      totalCallOi := s.callOi
      totalPutOi := s.putOi
      pcrOi := if 0 < s.callOi then some (s.putOi / s.callOi) else none
      totalGex := s.callGex + s.putGex }

end ChartingPlatform
