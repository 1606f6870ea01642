/-
  Search dimensions and the expansion of a search design (`experiments.py`): grids,
  random samples, and Latin hypercubes.

  Decimal operations go through an `Arithmetic`; the hash of a text is a parameter.
-/
import ChartingPlatform.Canonical.MarketEvent
import ChartingPlatform.Lib.DecimalContexts

namespace ChartingPlatform

open Lib

/-! ## Dimensions -/

/-- `ExpansionMethod`. -/
inductive ExpansionMethod where
  | grid | random | latinHypercube
  deriving DecidableEq, Repr

def IsWhole (x : ℚ) : Prop := (⌊x⌋ : ℚ) = x

instance (x : ℚ) : Decidable (IsWhole x) := inferInstanceAs (Decidable (_ = _))

structure NumericBounds where
  minimum : PyDecimal
  maximum : PyDecimal
  gridSteps : Option ℕ := none
  integral : Bool := false
  minimum_finite : minimum.isFinite = true
  maximum_finite : maximum.isFinite = true
  lt : minimum.value < maximum.value
  two_le_steps : ∀ s ∈ gridSteps, 2 ≤ s
  whole : integral = true → IsWhole minimum.value ∧ IsWhole maximum.value

inductive DimensionRange where
  | choices (values : List PyValue) (nonempty : values ≠ [])
  | numeric (bounds : NumericBounds)

/-- `SearchDimension`. -/
structure SearchDimension where
  name : String
  range : DimensionRange
  name_notBlank : notBlank name = true

/-- The choices of `SearchDimension.__post_init__`, frozen. -/
def frozenChoices (choices : List PyValue) (gridSteps : Option ℤ) :
    Except PyError (List PyValue) := do
  let frozen ← collect (choices.map freezeJson)
  ensure (frozen.map canonicalKey).Nodup (valueError "search dimension choices must be unique")
  ensure (gridSteps = none) (valueError "grid_steps applies only to numeric dimensions")
  return frozen

theorem two_le_toNat {steps : Option ℤ} (h : ∀ s ∈ steps, 2 ≤ s) :
    ∀ s ∈ steps.map Int.toNat, 2 ≤ s := by
  intro s hs
  obtain ⟨k, hk, rfl⟩ := Option.mem_map.1 hs
  have := h k hk
  omega

/-- The bounds of `SearchDimension.__post_init__`. -/
def makeNumericBounds (minimum maximum : Option PyDecimal) (gridSteps : Option ℤ)
    (integral : Bool) : Except PyError NumericBounds :=
  match minimum, maximum with
  | some low, some high =>
    if hfinite : low.isFinite = true ∧ high.isFinite = true then
      if hlt : low.value < high.value then
        if hsteps : ∀ s ∈ gridSteps, 2 ≤ s then
          if hwhole : integral = true → IsWhole low.value ∧ IsWhole high.value then
            .ok {
              minimum := low
              maximum := high
              gridSteps := gridSteps.map Int.toNat
              integral := integral
              minimum_finite := hfinite.1
              maximum_finite := hfinite.2
              lt := hlt
              two_le_steps := two_le_toNat hsteps
              whole := hwhole }
          else .error (valueError "integral search bounds must be whole numbers")
        else .error (valueError "numeric grid_steps must be at least two")
      else .error (valueError "minimum must be lower than maximum")
    else .error (valueError "search bounds must be finite")
  | _, _ => .error (valueError "both numeric bounds are required")

/-- `SearchDimension.__post_init__`. -/
def makeSearchDimension (name : String) (choices : List PyValue) (minimum maximum : Option PyDecimal)
    (gridSteps : Option ℤ) (integral : Bool) : Except PyError SearchDimension :=
  if hname : notBlank name = true then
    if (!choices.isEmpty) = (minimum.isSome || maximum.isSome) then
      .error (valueError "dimension must define either choices or numeric bounds")
    else if choices.isEmpty then
      (makeNumericBounds minimum maximum gridSteps integral).map fun bounds =>
        ⟨name, .numeric bounds, hname⟩
    else
      frozenChoices choices gridSteps >>= fun frozen =>
        if hne : frozen ≠ [] then .ok ⟨name, .choices frozen hne, hname⟩
        else .error (valueError "dimension must define either choices or numeric bounds")
  else .error (valueError "search dimension name must not be empty")

/-! ## Values -/

inductive ParameterValue where
  | choice (v : PyValue)
  | integer (n : ℤ)
  | decimal (x : ℚ)

namespace NumericBounds

variable (round : Arithmetic) (b : NumericBounds)

/-- `int(minimum)`. -/
def low : ℤ := ⌊b.minimum.value⌋

/-- `int(maximum)`. -/
def high : ℤ := ⌊b.maximum.value⌋

/-- `grid_steps or 2`. -/
def steps : ℕ := b.gridSteps.getD 2

def gridCount : ℕ := min b.steps (b.high - b.low + 1).toNat

def integralGrid : List ℤ :=
  if b.gridCount = 1 then [b.low]
  else (List.range b.gridCount).map fun index : ℕ =>
    b.low + (b.high - b.low) * index / (b.gridCount - 1 : ℕ)

def gridPoint (index : ℕ) : Except PyError ℚ := do
  let span ← round (b.maximum.value - b.minimum.value)
  let product ← round (span * index)
  let quotient ← round (product / (b.steps - 1 : ℕ))
  round (b.minimum.value + quotient)

/-- The numeric branches of `SearchDimension.grid_values`. -/
def gridValues : Except PyError (List ParameterValue) :=
  if b.integral then .ok (b.integralGrid.map .integer)
  else (collect ((List.range b.steps).map (b.gridPoint round))).map (List.map .decimal)

/-- The numeric branches of `SearchDimension.sample`. -/
def sample (unitInterval : ℚ) : Except PyError ParameterValue :=
  if b.integral then do
    let product ← round (unitInterval * (b.high - b.low + 1 : ℤ))
    return .integer (min b.high (b.low + ⌊product⌋))
  else do
    let span ← round (b.maximum.value - b.minimum.value)
    let product ← round (span * unitInterval)
    let x ← round (b.minimum.value + product)
    return .decimal x

end NumericBounds

namespace SearchDimension

variable (round : Arithmetic) (d : SearchDimension)

/-- `SearchDimension.grid_values`. -/
def gridValues : Except PyError (List ParameterValue) :=
  match d.range with
  | .choices values _ => .ok (values.map .choice)
  | .numeric b => b.gridValues round

/-- `SearchDimension.sample`. -/
def sample (unitInterval : ℚ) : Except PyError ParameterValue := do
  ensure (0 ≤ unitInterval ∧ unitInterval < 1) (valueError "sample coordinate must be in [0, 1)")
  match d.range with
  | .choices values hne =>
    let product ← round (unitInterval * values.length)
    return .choice (values.getD (min ⌊product⌋.toNat (values.length - 1)) (values.head hne))
  | .numeric b => b.sample round unitInterval

end SearchDimension

/-! ## Designs -/

/-- `SearchDesign`. -/
structure SearchDesign where
  dimensions : List SearchDimension
  nonempty : dimensions ≠ []
  sorted : dimensions.Pairwise fun a b => a.name < b.name

/-! ## Hashing -/

section
variable (round : Arithmetic) (sha256 : String → Fin (2 ^ 256))

/-- `_hash_integer`. -/
def hashInteger (seed : ℤ) (parts : List PyValue) : ℕ :=
  sha256 (canonicalKey (.list (.int seed :: parts)))

/-- `_unit_interval`. -/
def unitInterval (seed : ℤ) (parts : List PyValue) : Except PyError ℚ :=
  round (hashInteger sha256 seed parts / (2 ^ 256 : ℕ))

/-- `values[i], values[j] = values[j], values[i]`. -/
def swapAt (values : List ℕ) (i j : ℕ) : List ℕ :=
  (values.set i (values.getD j 0)).set j (values.getD i 0)

/-- `_permutation`. -/
def permutation (length : ℕ) (seed : ℤ) (dimension : String) : List ℕ :=
  (List.range' 1 (length - 1)).reverse.foldl
    (fun values index => swapAt values index
      (hashInteger sha256 seed [.str "lhs-permutation", .str dimension, .int index] % (index + 1)))
    (List.range length)

def randomCoordinate (seed : ℤ) (dimension : String) (trialIndex : ℕ) : Except PyError ℚ :=
  unitInterval round sha256 seed [.str "random", .int trialIndex, .str dimension]

def latinCoordinate (count : ℕ) (seed : ℤ) (dimension : String) (trialIndex : ℕ) :
    Except PyError ℚ := do
  let jitter ← unitInterval round sha256 seed
    [.str "lhs-jitter", .str dimension, .int trialIndex]
  let place ← round ((permutation sha256 count seed dimension).getD trialIndex 0 + jitter)
  round (place / count)

/-! ## Expansion -/

/-- The values of one trial, by the names of the dimensions. -/
abbrev ParameterSet := List (String × ParameterValue)

/-- `product(*value_sets)`. -/
def cartesian : List (List ParameterValue) → List (List ParameterValue)
  | [] => [[]]
  | values :: rest => values.flatMap fun v => (cartesian rest).map (v :: ·)

def growGrid (maxTrials : ℤ) (total : ℕ) (values : List ParameterValue) : Except PyError ℕ :=
  if total * values.length ≤ maxTrials then .ok (total * values.length)
  else .error (valueError
    ("grid contains more than max_trials=" ++ toString maxTrials ++ " combinations"))

/-- The grid branch of `expand_parameter_sets`. -/
def expandGrid (design : SearchDesign) (count : Option ℤ) (maxTrials : ℤ) :
    Except PyError (List ParameterSet) := do
  ensure (count = none) (valueError "grid expansion does not accept a sample count")
  let valueSets ← collect (design.dimensions.map (SearchDimension.gridValues round))
  let _ ← valueSets.foldlM (growGrid maxTrials) 1
  return (cartesian valueSets).map fun row => (design.dimensions.map SearchDimension.name).zip row

def expandSamples (design : SearchDesign) (coordinate : String → ℕ → Except PyError ℚ) (count : ℕ) :
    Except PyError (List ParameterSet) :=
  collect ((List.range count).map fun trialIndex =>
    collect (design.dimensions.map fun d => do
      let u ← coordinate d.name trialIndex
      let v ← d.sample round u
      return (d.name, v)))

def checkedCount (count : Option ℤ) (maxTrials : ℤ) : Except PyError ℕ :=
  match count with
  | none => .error (valueError "random and Latin-hypercube expansion require positive count")
  | some n => do
    ensure (1 ≤ n) (valueError "random and Latin-hypercube expansion require positive count")
    ensure (n ≤ maxTrials) (valueError ("count exceeds max_trials=" ++ toString maxTrials))
    return n.toNat

/-- `expand_parameter_sets`. -/
def expandParameterSets (design : SearchDesign) (method : ExpansionMethod) (count : Option ℤ)
    (seed : ℤ) (maxTrials : ℤ) : Except PyError (List ParameterSet) := do
  ensure (1 ≤ maxTrials) (valueError "max_trials must be positive")
  match method with
  | .grid => expandGrid round design count maxTrials
  | .random => do
    let n ← checkedCount count maxTrials
    expandSamples round design (randomCoordinate round sha256 seed) n
  | .latinHypercube => do
    let n ← checkedCount count maxTrials
    expandSamples round design (latinCoordinate round sha256 n seed) n

end

end ChartingPlatform
