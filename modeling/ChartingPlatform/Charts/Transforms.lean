/-
  Bar transforms (`services/bar_transforms.py`): Renko bricks, Kagi lines and
  point-and-figure columns.

  Prices are exact rationals.  A transform's local variables are a state, a bar is one
  step of it; the `while True` of a Renko bar is a loop with fuel.
-/
import ChartingPlatform.Bars.Tables
import ChartingPlatform.Lib.Loops
import ChartingPlatform.Lib.Rounding
import ChartingPlatform.Lib.Zigzags
import Mathlib.Data.Rat.Floor

namespace ChartingPlatform

open Lib

/-! ## Bars of a chart -/

/-- `_bar_dict`. -/
structure BarDict where
  ts : Instant
  open_ : ℚ
  high : ℚ
  low : ℚ
  close : ℚ
  volume : ℚ
  isAdjusted : Bool
  deriving DecidableEq

/-- `float(bar.volume or 0)`. -/
def OHLCVBar.vol (bar : OHLCVBar) : ℚ := bar.volume.getD 0

/-- The size in use: a given one, unless it is none or not positive; else a share of the
    first close. -/
def sizeInUse (share firstClose : ℚ) : Option ℚ → ℚ
  | some size => if size ≤ 0 then max (firstClose * share) (1 / 100) else size
  | none => max (firstClose * share) (1 / 100)

theorem sizeInUse_pos (share firstClose : ℚ) (size : Option ℚ) :
    0 < sizeInUse share firstClose size := by
  have auto : 0 < max (firstClose * share) (1 / 100) := lt_max_of_lt_right (by norm_num)
  cases size with
  | none => exact auto
  | some size =>
    rw [sizeInUse]
    split
    case isTrue => exact auto
    case isFalse h => exact not_le.1 h

def closingAt (close : ℚ) : OHLCVBar where
  instrumentId := 1
  dataSourceId := none
  marketSeriesId := none
  timeframe := .D1
  ts := 0
  open_ := close
  high := close
  low := close
  close := close
  volume := none
  vwap := none
  isAdjusted := false
  isDerived := false

/-! ## Renko -/

/-- `brick_size`. -/
def renkoBrickSize (firstClose : ℚ) (size : Option ℚ) : ℚ := sizeInUse (3 / 1000) firstClose size

/-- The local variables of `transform_renko`. -/
structure Renko where
  result : List BarDict
  currentHigh : ℚ
  currentLow : ℚ
  direction : SignType
  deriving DecidableEq

def renkoStart (firstClose brickSize : ℚ) : Renko where
  result := []
  currentHigh := firstClose + brickSize
  currentLow := firstClose - brickSize
  direction := 0

/-- One round of `while True`, none where it breaks.  The bounds of a brick that depend on
    the direction are overwritten before they are read. -/
def renkoRound (brickSize : ℚ) (bar : OHLCVBar) (s : Renko) : Option Renko :=
  if s.currentHigh ≤ bar.close then
    let brickOpen := s.currentHigh - brickSize
    let brickClose := s.currentHigh
    some {
      result := s.result ++
        [⟨bar.ts, brickOpen, brickClose, brickOpen, brickClose, bar.vol, bar.isAdjusted⟩]
      currentLow := s.currentHigh - brickSize
      currentHigh := s.currentHigh + brickSize
      direction := 1 }
  else if bar.close ≤ s.currentLow then
    let brickOpen := s.currentLow + brickSize
    let brickClose := s.currentLow
    some {
      result := s.result ++
        [⟨bar.ts, brickOpen, brickOpen, brickClose, brickClose, bar.vol, bar.isAdjusted⟩]
      currentHigh := s.currentLow + brickSize
      currentLow := s.currentLow - brickSize
      direction := -1 }
  else none

def renkoBars (fuel : ℕ) (brickSize : ℚ) (s : Renko) (bars : List OHLCVBar) : Option Renko :=
  bars.foldlM (fun s bar => loop (renkoRound brickSize bar) fuel s) s

/-- `transform_renko`, none when the fuel of a bar runs out. -/
def transformRenko (fuel : ℕ) (bars : List OHLCVBar) (brickSize : Option ℚ) :
    Option (List BarDict) :=
  match bars with
  | [] => some []
  | first :: _ =>
    let b := renkoBrickSize first.close brickSize
    (renkoBars fuel b (renkoStart first.close b) bars).map Renko.result

/-! ## Kagi -/

/-- The local variables of `transform_kagi`. -/
structure Kagi where
  result : List BarDict
  direction : SignType
  lastPrice : ℚ
  segmentStart : ℚ
  segmentTs : Instant
  deriving DecidableEq

def Kagi.segment (s : Kagi) (volume : ℚ) (isAdjusted : Bool) : BarDict :=
  ⟨s.segmentTs, s.segmentStart, max s.segmentStart s.lastPrice, min s.segmentStart s.lastPrice,
    s.lastPrice, volume, isAdjusted⟩

/-- `reversal_amt`. -/
def kagiReversalAmt (firstClose reversalPct : ℚ) : ℚ := firstClose * (reversalPct / 100)

def kagiStart (first : OHLCVBar) : Kagi where
  result := []
  direction := 1
  lastPrice := first.close
  segmentStart := first.close
  segmentTs := first.ts

/-- The segment is recorded, and one in the other direction begins where it ended. -/
def Kagi.reverse (s : Kagi) (bar : OHLCVBar) (direction : SignType) : Kagi where
  result := s.result ++ [s.segment bar.vol bar.isAdjusted]
  direction := direction
  lastPrice := bar.close
  segmentStart := s.lastPrice
  segmentTs := bar.ts

/-- One bar of `transform_kagi`. -/
def kagiBar (reversalAmt : ℚ) (s : Kagi) (bar : OHLCVBar) : Kagi :=
  if s.direction = 1 then
    if bar.close < s.lastPrice - reversalAmt then s.reverse bar (-1)
    else { s with lastPrice := bar.close }
  else
    if s.lastPrice + reversalAmt < bar.close then s.reverse bar 1
    else { s with lastPrice := bar.close }

/-- `transform_kagi`. -/
def transformKagi (bars : List OHLCVBar) (reversalPct : ℚ) : List BarDict :=
  match bars with
  | [] => []
  | first :: rest =>
    let s := rest.foldl (kagiBar (kagiReversalAmt first.close reversalPct)) (kagiStart first)
    s.result ++ [s.segment 0 false]

/-! ## Point and figure -/

/-- `box_size`. -/
def pointFigureBoxSize (firstClose : ℚ) (size : Option ℚ) : ℚ :=
  sizeInUse (5 / 1000) firstClose size

/-- `_floor_box`. -/
def floorBox (boxSize price : ℚ) : ℚ := ⌊price / boxSize⌋ * boxSize

/-- The local variables of `transform_point_figure`. -/
structure PointFigure where
  result : List BarDict
  currentPrice : ℚ
  direction : SignType
  columnStart : ℚ
  columnTs : Instant
  deriving DecidableEq

/-- The column from its start to the current price. -/
def PointFigure.column (s : PointFigure) (volume : ℚ) (isAdjusted : Bool) : BarDict :=
  ⟨s.columnTs, s.columnStart, max s.columnStart s.currentPrice, min s.columnStart s.currentPrice,
    s.currentPrice, volume, isAdjusted⟩

def pointFigureStart (boxSize : ℚ) (first : OHLCVBar) : PointFigure where
  result := []
  currentPrice := floorBox boxSize first.close
  direction := 0
  columnStart := floorBox boxSize first.close
  columnTs := first.ts

def PointFigure.begin (s : PointFigure) (bar : OHLCVBar) (newPrice : ℚ) (direction : SignType) :
    PointFigure where
  result := s.result
  currentPrice := newPrice
  direction := direction
  columnStart := s.currentPrice
  columnTs := bar.ts

def PointFigure.record (s : PointFigure) (bar : OHLCVBar) : PointFigure :=
  { s with result := s.result ++ [s.column bar.vol bar.isAdjusted] }

/-- One bar of `transform_point_figure`. -/
def pointFigureBar (boxSize : ℚ) (reversal : ℤ) (s : PointFigure) (bar : OHLCVBar) :
    PointFigure :=
  let newPrice := floorBox boxSize bar.close
  let boxes := roundHalfEven ((newPrice - s.currentPrice) / boxSize)
  match s.direction with
  | .zero =>
    if 1 ≤ boxes then s.begin bar newPrice 1
    else if boxes ≤ -1 then s.begin bar newPrice (-1)
    else s
  | .pos =>
    if 1 ≤ boxes then { s with currentPrice := newPrice }
    else if boxes ≤ -reversal then (s.record bar).begin bar newPrice (-1)
    else s
  | .neg =>
    if boxes ≤ -1 then { s with currentPrice := newPrice }
    else if reversal ≤ boxes then (s.record bar).begin bar newPrice 1
    else s

/-- `transform_point_figure`. -/
def transformPointFigure (bars : List OHLCVBar) (boxSize : Option ℚ) (reversal : ℤ) :
    List BarDict :=
  match bars with
  | [] => []
  | first :: rest =>
    let box := pointFigureBoxSize first.close boxSize
    let s := rest.foldl (pointFigureBar box reversal) (pointFigureStart box first)
    s.result ++ if s.direction = 0 then [] else [s.column 0 false]

end ChartingPlatform
