/-
  Price and indicator alerts (`alert_engine.py`).

  Prices and thresholds are decimals that a condition compares as floats; the values of indicators
  are floats, which the stored ones read back as.  An alert on two indicators keeps their last
  values apart: that of the second one is kept from the latest pass that had both, that of the
  first one from the latest pass that had it at all.
-/
import ChartingPlatform.Lib.Machines
import ChartingPlatform.Lib.Outcome
import ChartingPlatform.Lib.Rounding
import Mathlib.Tactic.NormNum

namespace ChartingPlatform

open Lib

/-! ## Alerts -/

/-- `AlertStatus`. -/
inductive AlertStatus where
  | active | triggered | paused | expired
  deriving DecidableEq

/-- `AlertCondition`. -/
inductive AlertCondition where
  | crossesAbove | crossesBelow | touches | percentChangeUp | percentChangeDown | withinPercent

/-- `IndicatorAlertCondition`. -/
inductive IndicatorCondition where
  | gt | lt | gte | lte | crossesAbove | crossesBelow

/-- `PriceAlert`. -/
structure PriceAlert where
  condition : AlertCondition
  thresholdPrice : ℚ
  withinPercent : Option ℚ
  repeats : Bool
  status : AlertStatus
  triggerCount : ℕ
  lastKnownPrice : Option ℚ

/-- `IndicatorAlert`; `indicatorB` says whether there is a second indicator. -/
structure IndicatorAlert where
  condition : IndicatorCondition
  thresholdValue : Option ℚ
  indicatorB : Bool
  repeats : Bool
  status : AlertStatus
  triggerCount : ℕ
  lastValueA : Option ℚ
  lastValueB : Option ℚ

/-- `AlertFiringEvent`. -/
structure AlertFiring where
  triggerValue : ℚ
  valueB : Option ℚ
  threshold : Option ℚ

/-- The status of an alert that has fired. -/
def statusFired (repeats : Bool) : AlertStatus := if repeats then .active else .triggered

/-! ## Conditions -/

/-- `float` of a number in the range of floats. -/
def toFloat (x : ℚ) : ℚ := roundTo 2 53 (-1074) x

/-- `_price_condition_met`. -/
def priceConditionMet (condition : AlertCondition) (threshold : ℚ) (lastPrice : Option ℚ)
    (currentPrice : ℚ) (withinPercent : Option ℚ) : Bool :=
  let cp := toFloat currentPrice
  let tp := toFloat threshold
  let last := lastPrice.map toFloat
  match condition with
  | .touches => toFloat (|toFloat (cp - tp)| / max tp (toFloat (1 / 10 ^ 9))) < toFloat (1 / 1000)
  | .crossesAbove => match last with
    | none => tp < cp
    | some lp => lp ≤ tp ∧ tp < cp
  | .crossesBelow => match last with
    | none => cp < tp
    | some lp => tp ≤ lp ∧ cp < tp
  | .percentChangeUp => tp ≤ cp
  | .percentChangeDown => cp ≤ tp
  | .withinPercent => match withinPercent with
    | none => false
    | some percent => tp ≠ 0 ∧ toFloat (|toFloat (toFloat (cp - tp) / tp)| * 100) ≤ toFloat percent

/-- A comparison with `threshold if threshold is not None else val_b`. -/
def compareWith (holds : ℚ → Bool) (threshold valB : Option ℚ) : Except PyError Bool :=
  match threshold.or valB with
  | some ref => .ok (holds ref)
  | none => .error ⟨.typeError, "comparison not supported between instances of 'float' and 'NoneType'"⟩

/-- The two crossings: `before` holds of the last value and its reference, `now` of the values of
this pass. -/
def crosses (before now : ℚ → ℚ → Bool) (valA : ℚ) (lastA threshold valB lastB : Option ℚ) : Bool :=
  match lastA, threshold.or lastB, threshold.or valB with
  | some lastA, some refPrev, some refCur => before lastA refPrev && now valA refCur
  | _, _, _ => false

/-- `_indicator_condition_met`. -/
def indicatorConditionMet (condition : IndicatorCondition) (valA : ℚ)
    (lastA threshold valB lastB : Option ℚ) : Except PyError Bool :=
  match condition with
  | .gt => compareWith (fun ref => ref < valA) threshold valB
  | .lt => compareWith (fun ref => valA < ref) threshold valB
  | .gte => compareWith (fun ref => ref ≤ valA) threshold valB
  | .lte => compareWith (fun ref => valA ≤ ref) threshold valB
  | .crossesAbove =>
    .ok (crosses (fun a ref => a ≤ ref) (fun a ref => ref < a) valA lastA threshold valB lastB)
  | .crossesBelow =>
    .ok (crosses (fun a ref => ref ≤ a) (fun a ref => a < ref) valA lastA threshold valB lastB)

/-! ## A pass -/

/-- `_fire_price_alert`. -/
def firePriceAlert (alert : PriceAlert) (currentPrice : ℚ) : PriceAlert × Option AlertFiring :=
  ({ alert with
      triggerCount := alert.triggerCount + 1
      lastKnownPrice := some currentPrice
      status := statusFired alert.repeats },
    some ⟨toFloat currentPrice, none, some (toFloat alert.thresholdPrice)⟩)

/-- `run_alert_check` for a price alert. -/
def checkPriceAlert (alert : PriceAlert) (price : Option ℚ) : PriceAlert × Option AlertFiring :=
  match alert.status, price with
  | .active, some currentPrice =>
    if priceConditionMet alert.condition alert.thresholdPrice alert.lastKnownPrice currentPrice
        alert.withinPercent then
      firePriceAlert alert currentPrice
    else ({ alert with lastKnownPrice := some currentPrice }, none)
  | _, _ => (alert, none)

/-- The values of `get_latest_value` at a pass. -/
structure IndicatorReading where
  valA : Option ℚ
  valB : Option ℚ

/-- `_fire_indicator_alert`. -/
def fireIndicatorAlert (alert : IndicatorAlert) (valA : ℚ) (valB : Option ℚ) :
    IndicatorAlert × Option AlertFiring :=
  ({ alert with
      triggerCount := alert.triggerCount + 1
      lastValueA := some valA
      lastValueB := valB.or alert.lastValueB
      status := statusFired alert.repeats },
    some ⟨valA, valB, (alert.thresholdValue.map toFloat).or valB⟩)

/-- `run_alert_check` for an indicator alert. -/
def checkIndicatorAlert (alert : IndicatorAlert) (reading : IndicatorReading) :
    IndicatorAlert × Option AlertFiring :=
  match alert.status, reading.valA with
  | .active, some valA =>
    let valB := if alert.indicatorB then reading.valB else none
    match indicatorConditionMet alert.condition valA alert.lastValueA
        (alert.thresholdValue.map toFloat) valB alert.lastValueB with
    | .error _ => (alert, none)
    | .ok met =>
      let fired := if met then fireIndicatorAlert alert valA valB else (alert, none)
      ({ fired.1 with lastValueA := some valA, lastValueB := valB.or fired.1.lastValueB }, fired.2)
  | _, _ => (alert, none)

/-! ## Crossings -/

/-- The side that a crossing leads to. -/
inductive CrossingSide where
  | above | below
  deriving DecidableEq

/-- Whether a value is beyond a reference. -/
def CrossingSide.Beyond : CrossingSide → ℚ → ℚ → Prop
  | above, x, ref => ref < x
  | below, x, ref => x < ref

instance (side : CrossingSide) (x ref : ℚ) : Decidable (side.Beyond x ref) := by
  cases side <;> exact inferInstanceAs (Decidable (_ < _))

/-- A new alert on a price that crosses a threshold. -/
def newPriceAlert (side : CrossingSide) (threshold : ℚ) (withinPercent : Option ℚ)
    (repeats : Bool) : PriceAlert where
  condition := match side with
    | .above => .crossesAbove
    | .below => .crossesBelow
  thresholdPrice := threshold
  withinPercent := withinPercent
  repeats := repeats
  status := .active
  triggerCount := 0
  lastKnownPrice := none

/-- A new alert on an indicator that crosses another one. -/
def newIndicatorAlert (side : CrossingSide) (repeats : Bool) : IndicatorAlert where
  condition := match side with
    | .above => .crossesAbove
    | .below => .crossesBelow
  thresholdValue := none
  indicatorB := true
  repeats := repeats
  status := .active
  triggerCount := 0
  lastValueA := none
  lastValueB := none

/-- The values of a reading that has both. -/
def IndicatorReading.pair (r : IndicatorReading) : Option (ℚ × ℚ) :=
  match r.valA, r.valB with
  | some a, some b => some (a, b)
  | _, _ => none

/-- The alerts fire where the values of one moment cross: at the prices and the pairs of values
that go beyond the reference, the latest one before having not, and once where they do not
repeat. -/
structure CrossingsOfOneMoment (side : CrossingSide) (threshold : ℚ) (within : Option ℚ)
    (prices : List (Option ℚ)) (readings : List IndicatorReading) : Prop where
  price : ∀ earlier price later, prices = earlier ++ price :: later →
    ((checkPriceAlert (stateAfter checkPriceAlert (newPriceAlert side threshold within true)
        earlier) price).2.isSome ↔
      ∃ cp, price = some cp ∧ side.Beyond cp threshold ∧
        ∀ lp, lastSeen id earlier = some lp → ¬ side.Beyond lp threshold)
  indicator : ∀ earlier reading later, readings = earlier ++ reading :: later →
    ((checkIndicatorAlert (stateAfter checkIndicatorAlert (newIndicatorAlert side true)
        earlier) reading).2.isSome ↔
      ∃ a b, reading.pair = some (a, b) ∧ side.Beyond a b ∧
        ∃ a₀ b₀, lastSeen IndicatorReading.pair earlier = some (a₀, b₀) ∧ ¬ side.Beyond a₀ b₀)
  priceOnce : (answers checkPriceAlert (newPriceAlert side threshold within false) prices).length ≤ 1
  indicatorOnce : (answers checkIndicatorAlert (newIndicatorAlert side false) readings).length ≤ 1

/-- A price is beyond the threshold, and is the same float. -/
def CrossingSide.Blurred (side : CrossingSide) (threshold x : ℚ) : Prop :=
  side.Beyond x threshold ∧ toFloat x = toFloat threshold

instance (side : CrossingSide) (threshold x : ℚ) : Decidable (side.Blurred threshold x) :=
  inferInstanceAs (Decidable (_ ∧ _))

/-- Floats tell the crossings apart: at a price beyond the threshold, the price before it is beyond
as well where this one is blurred, and is not blurred where this one is not. -/
def ToldApart (side : CrossingSide) (threshold : ℚ) (prices : List (Option ℚ)) : Prop :=
  ∀ earlier cp later, prices = earlier ++ some cp :: later → side.Beyond cp threshold →
    if side.Blurred threshold cp then
      ∃ lp, lastSeen id earlier = some lp ∧ side.Beyond lp threshold
    else ∀ lp, lastSeen id earlier = some lp → ¬ side.Blurred threshold lp

/-- The latest value of the first indicator is on the side of the one that was read with the last
value of the second indicator. -/
def ReadTogether (side : CrossingSide) (readings : List IndicatorReading) : Prop :=
  ∀ earlier reading later, readings = earlier ++ reading :: later →
    ∀ a b a₀ b₀ a₁, reading.pair = some (a, b) → side.Beyond a b →
      lastSeen IndicatorReading.pair earlier = some (a₀, b₀) →
      lastSeen IndicatorReading.valA earlier = some a₁ →
      (side.Beyond a₁ b₀ ↔ side.Beyond a₀ b₀)

section
variable {side : CrossingSide} {threshold cp a : ℚ} {within lp price lastA valB lastB : Option ℚ}
  {repeats met : Bool} {prices : List (Option ℚ)} {readings : List IndicatorReading}
  {reading : IndicatorReading}

/-! ## A pass over an active alert -/

/-- An alert with another trigger count and last price. -/
def PriceAlert.kept (alert : PriceAlert) (n : ℕ) (last : Option ℚ) : PriceAlert :=
  { alert with triggerCount := n, lastKnownPrice := last }

/-- An alert with another trigger count and last values. -/
def IndicatorAlert.kept (alert : IndicatorAlert) (n : ℕ) (lastA lastB : Option ℚ) :
    IndicatorAlert :=
  { alert with triggerCount := n, lastValueA := lastA, lastValueB := lastB }

theorem checkPriceAlert_some (alert : PriceAlert) (hactive : alert.status = .active) :
    ((checkPriceAlert alert (some cp)).2.isSome ↔
        priceConditionMet alert.condition alert.thresholdPrice alert.lastKnownPrice cp
          alert.withinPercent = true) ∧
      (alert.repeats = true →
        ∃ n, (checkPriceAlert alert (some cp)).1 = alert.kept n (some cp)) := by
  unfold checkPriceAlert
  rw [hactive]
  dsimp only
  split_ifs with hmet
  · refine ⟨iff_of_true rfl hmet, fun hrepeat => ⟨alert.triggerCount + 1, ?_⟩⟩
    simp [firePriceAlert, statusFired, hrepeat, PriceAlert.kept, hactive]
  · exact ⟨iff_of_false Bool.false_ne_true hmet, fun _ => ⟨alert.triggerCount, by
      simp [PriceAlert.kept, hactive]⟩⟩

theorem checkIndicatorAlert_some (alert : IndicatorAlert) (hactive : alert.status = .active)
    (htwo : alert.indicatorB = true)
    (hmet : indicatorConditionMet alert.condition a alert.lastValueA
      (alert.thresholdValue.map toFloat) valB alert.lastValueB = .ok met) :
    ((checkIndicatorAlert alert ⟨some a, valB⟩).2.isSome ↔ met = true) ∧
      (alert.repeats = true → ∃ n, (checkIndicatorAlert alert ⟨some a, valB⟩).1 =
        alert.kept n (some a) (valB.or alert.lastValueB)) := by
  unfold checkIndicatorAlert
  rw [hactive]
  dsimp only
  rw [if_pos htwo, hmet]
  cases met with
  | true =>
    refine ⟨iff_of_true rfl rfl, fun hrepeat => ⟨alert.triggerCount + 1, ?_⟩⟩
    cases valB <;>
      simp [fireIndicatorAlert, statusFired, hrepeat, IndicatorAlert.kept, hactive]
  | false =>
    exact ⟨by simp, fun _ => ⟨alert.triggerCount, by simp [IndicatorAlert.kept, hactive]⟩⟩

theorem priceConditionMet_crosses (repeats : Bool) :
    priceConditionMet (newPriceAlert side threshold within repeats).condition threshold lp cp
        within = true ↔ side.Beyond (toFloat cp) (toFloat threshold) ∧
      ∀ x, lp = some x → ¬ side.Beyond (toFloat x) (toFloat threshold) := by
  cases side <;> cases lp <;>
    simp [newPriceAlert, priceConditionMet, CrossingSide.Beyond, and_comm]

theorem indicatorConditionMet_crosses (side : CrossingSide) (repeats : Bool) (a : ℚ)
    (lastA valB lastB : Option ℚ) :
    ∃ met, indicatorConditionMet (newIndicatorAlert side repeats).condition a lastA none valB lastB =
        .ok met ∧
      (met = true ↔ ∃ b, valB = some b ∧ side.Beyond a b ∧
        ∃ a₁ b₀, lastA = some a₁ ∧ lastB = some b₀ ∧ ¬ side.Beyond a₁ b₀) := by
  cases side <;> refine ⟨_, rfl, ?_⟩ <;> cases lastA <;> cases lastB <;> cases valB <;>
    simp [crosses, CrossingSide.Beyond, and_comm]

theorem checkIndicatorAlert_kept (side : CrossingSide) (n : ℕ) (a : ℚ)
    (lastA valB lastB : Option ℚ) :
    ((checkIndicatorAlert ((newIndicatorAlert side true).kept n lastA lastB)
        ⟨some a, valB⟩).2.isSome ↔
      ∃ b, valB = some b ∧ side.Beyond a b ∧
        ∃ a₁ b₀, lastA = some a₁ ∧ lastB = some b₀ ∧ ¬ side.Beyond a₁ b₀) ∧
      ∃ m, (checkIndicatorAlert ((newIndicatorAlert side true).kept n lastA lastB)
        ⟨some a, valB⟩).1 = (newIndicatorAlert side true).kept m (some a) (valB.or lastB) := by
  obtain ⟨met, hmet, hiff⟩ := indicatorConditionMet_crosses side true a lastA valB lastB
  have h := checkIndicatorAlert_some ((newIndicatorAlert side true).kept n lastA lastB) rfl rfl hmet
  exact ⟨h.1.trans hiff, h.2 rfl⟩

/-! ## What an alert keeps -/

/-- **A price alert keeps the latest price** that it has seen. -/
theorem price_after (side : CrossingSide) (threshold : ℚ) (within : Option ℚ)
    (prices : List (Option ℚ)) :
    ∃ n, stateAfter checkPriceAlert (newPriceAlert side threshold within true) prices =
      (newPriceAlert side threshold within true).kept n (lastSeen id prices) := by
  induction prices using List.reverseRecOn with
  | nil => exact ⟨0, rfl⟩
  | append_singleton prices price ih =>
    obtain ⟨n, hn⟩ := ih
    rw [stateAfter_append_singleton, hn, lastSeen_append_singleton]
    cases price with
    | none => exact ⟨n, rfl⟩
    | some cp => exact (checkPriceAlert_some _ rfl).2 rfl

/-- **An alert on two indicators** keeps the latest value of the first one, and that of the second
one from the latest reading that had both. -/
theorem indicator_after (side : CrossingSide) (readings : List IndicatorReading) :
    ∃ n, stateAfter checkIndicatorAlert (newIndicatorAlert side true) readings =
      (newIndicatorAlert side true).kept n (lastSeen IndicatorReading.valA readings)
        ((lastSeen IndicatorReading.pair readings).map Prod.snd) := by
  induction readings using List.reverseRecOn with
  | nil => exact ⟨0, rfl⟩
  | append_singleton readings reading ih =>
    obtain ⟨n, hn⟩ := ih
    rw [stateAfter_append_singleton, hn, lastSeen_append_singleton, lastSeen_append_singleton]
    obtain ⟨valA, valB⟩ := reading
    cases valA with
    | none => exact ⟨n, rfl⟩
    | some a =>
      obtain ⟨m, hm⟩ := (checkIndicatorAlert_kept side n a _ valB _).2
      refine ⟨m, hm.trans ?_⟩
      cases valB <;> rfl

/-! ## Firings -/

theorem price_fires (earlier : List (Option ℚ)) :
    (checkPriceAlert (stateAfter checkPriceAlert (newPriceAlert side threshold within true)
        earlier) price).2.isSome ↔
      ∃ cp, price = some cp ∧ side.Beyond (toFloat cp) (toFloat threshold) ∧
        ∀ lp, lastSeen id earlier = some lp → ¬ side.Beyond (toFloat lp) (toFloat threshold) := by
  obtain ⟨n, hn⟩ := price_after side threshold within earlier
  rw [hn]
  cases price with
  | none => simp [checkPriceAlert, PriceAlert.kept, newPriceAlert]
  | some cp =>
    simp only [Option.some.injEq, exists_eq_left']
    exact (checkPriceAlert_some _ rfl).1.trans (priceConditionMet_crosses true)

theorem toFloat_mono : Monotone toFloat := fun _ _ h => roundTo_mono one_lt_two (by decide) h

theorem beyond_toFloat : side.Beyond (toFloat cp) (toFloat threshold) ↔
    side.Beyond cp threshold ∧ ¬ side.Blurred threshold cp := by
  unfold CrossingSide.Blurred
  rw [not_and]
  cases side with
  | above =>
    exact ⟨fun h => ⟨toFloat_mono.reflect_lt h, fun _ => h.ne'⟩,
      fun ⟨h, hne⟩ => lt_of_le_of_ne (toFloat_mono h.le) (Ne.symm (hne h))⟩
  | below =>
    exact ⟨fun h => ⟨toFloat_mono.reflect_lt h, fun _ => h.ne⟩,
      fun ⟨h, hne⟩ => lt_of_le_of_ne (toFloat_mono h.le) (hne h)⟩

/-- A pass fires as the exact prices say exactly when floats tell its crossing apart. -/
theorem crossing_toFloat_iff {last : Option ℚ} :
    ((side.Beyond (toFloat cp) (toFloat threshold) ∧
        ∀ lp, last = some lp → ¬ side.Beyond (toFloat lp) (toFloat threshold)) ↔
      side.Beyond cp threshold ∧ ∀ lp, last = some lp → ¬ side.Beyond lp threshold) ↔
    (side.Beyond cp threshold →
      if side.Blurred threshold cp then ∃ lp, last = some lp ∧ side.Beyond lp threshold
      else ∀ lp, last = some lp → ¬ side.Blurred threshold lp) := by
  simp only [beyond_toFloat]
  by_cases hcp : side.Beyond cp threshold
  · by_cases hblurred : side.Blurred threshold cp
    · simp [hcp, hblurred]
    · cases last with
      | none => simp [hcp, hblurred]
      | some lp =>
        have hbeyond : side.Blurred threshold lp → side.Beyond lp threshold := And.left
        simp only [hcp, hblurred, Option.some.injEq, forall_eq', not_false_eq_true, true_and,
          if_false, true_imp_iff]
        tauto
  · simp [hcp]

theorem indicator_fires (earlier : List IndicatorReading) :
    (checkIndicatorAlert (stateAfter checkIndicatorAlert (newIndicatorAlert side true) earlier)
        reading).2.isSome ↔
      ∃ a b, reading.pair = some (a, b) ∧ side.Beyond a b ∧
        ∃ a₁ p, lastSeen IndicatorReading.valA earlier = some a₁ ∧
          lastSeen IndicatorReading.pair earlier = some p ∧ ¬ side.Beyond a₁ p.2 := by
  obtain ⟨n, hn⟩ := indicator_after side earlier
  rw [hn]
  obtain ⟨valA, valB⟩ := reading
  cases valA with
  | none => simp [checkIndicatorAlert, IndicatorAlert.kept, newIndicatorAlert, IndicatorReading.pair]
  | some a =>
    rw [(checkIndicatorAlert_kept side n a _ valB _).1]
    cases valB <;> cases lastSeen IndicatorReading.pair earlier <;> simp [IndicatorReading.pair]

theorem lastSeen_valA_of_pair {p : ℚ × ℚ}
    (h : lastSeen IndicatorReading.pair readings = some p) :
    ∃ a₁, lastSeen IndicatorReading.valA readings = some a₁ := by
  induction readings using List.reverseRecOn with
  | nil => cases h
  | append_singleton readings reading ih =>
    rw [lastSeen_append_singleton] at h ⊢
    obtain ⟨valA, valB⟩ := reading
    cases valA with
    | none => exact ih h
    | some a => exact ⟨a, rfl⟩

theorem price_answers_le_one {alert : PriceAlert} (hrepeat : alert.repeats = false) :
    (answers checkPriceAlert alert prices).length ≤ 1 := by
  refine length_answers_le_one (fun s => s.repeats = false) (fun s => s.status ≠ .active)
    (fun s price hs => ?_) (fun s price hs => ?_) (fun s price hs h => ?_) hrepeat
  · unfold checkPriceAlert
    split <;> simp_all
  · unfold checkPriceAlert
    split
    · split_ifs <;> exact hs
    · exact hs
  · unfold checkPriceAlert at h ⊢
    split at h
    · split_ifs at h ⊢
      · simp [firePriceAlert, statusFired, hs]
      · exact absurd rfl h
    · exact absurd rfl h

theorem indicator_answers_le_one {alert : IndicatorAlert} (hrepeat : alert.repeats = false) :
    (answers checkIndicatorAlert alert readings).length ≤ 1 := by
  refine length_answers_le_one (fun s => s.repeats = false) (fun s => s.status ≠ .active)
    (fun s reading hs => ?_) (fun s reading hs => ?_) (fun s reading hs h => ?_) hrepeat
  · unfold checkIndicatorAlert
    split <;> simp_all
  · unfold checkIndicatorAlert
    split
    · dsimp only
      split
      · exact hs
      · split_ifs <;> exact hs
    · exact hs
  · unfold checkIndicatorAlert at h ⊢
    split at h
    · dsimp only at h ⊢
      generalize (if s.indicatorB then reading.valB else none) = valB at h ⊢
      split at h
      · exact absurd rfl h
      · split_ifs at h ⊢
        · simp [fireIndicatorAlert, statusFired, hs]
        · exact absurd rfl h
    · exact absurd rfl h

theorem indicator_crossings_iff :
    (∀ earlier reading later, readings = earlier ++ reading :: later →
      ((checkIndicatorAlert (stateAfter checkIndicatorAlert (newIndicatorAlert side true)
          earlier) reading).2.isSome ↔
        ∃ a b, reading.pair = some (a, b) ∧ side.Beyond a b ∧
          ∃ a₀ b₀, lastSeen IndicatorReading.pair earlier = some (a₀, b₀) ∧
            ¬ side.Beyond a₀ b₀)) ↔ ReadTogether side readings := by
  constructor
  · intro h earlier reading later hr a b a₀ b₀ a₁ hpair hbeyond hlast hlastA
    have hfires := (indicator_fires earlier).symm.trans (h earlier reading later hr)
    simpa [hpair, hlast, hlastA, hbeyond, not_iff_not] using hfires
  · intro h earlier reading later hr
    rw [indicator_fires]
    constructor
    · rintro ⟨a, b, hpair, hbeyond, a₁, ⟨a₀, b₀⟩, hlastA, hlast, hnot⟩
      exact ⟨a, b, hpair, hbeyond, a₀, b₀, hlast,
        (h earlier reading later hr a b a₀ b₀ a₁ hpair hbeyond hlast hlastA).not.1 hnot⟩
    · rintro ⟨a, b, hpair, hbeyond, a₀, b₀, hlast, hnot⟩
      obtain ⟨a₁, hlastA⟩ := lastSeen_valA_of_pair hlast
      exact ⟨a, b, hpair, hbeyond, a₁, (a₀, b₀), hlastA, hlast,
        (h earlier reading later hr a b a₀ b₀ a₁ hpair hbeyond hlast hlastA).not.2 hnot⟩

theorem price_crossings_iff :
    (∀ earlier price later, prices = earlier ++ price :: later →
      ((checkPriceAlert (stateAfter checkPriceAlert (newPriceAlert side threshold within true)
          earlier) price).2.isSome ↔
        ∃ cp, price = some cp ∧ side.Beyond cp threshold ∧
          ∀ lp, lastSeen id earlier = some lp → ¬ side.Beyond lp threshold)) ↔
    ToldApart side threshold prices := by
  simp only [price_fires]
  constructor
  · intro h earlier cp later hprices
    have hfires := h earlier (some cp) later hprices
    simp only [Option.some.injEq, exists_eq_left'] at hfires
    exact crossing_toFloat_iff.1 hfires
  · intro h earlier price later hprices
    cases price with
    | none => simp
    | some cp =>
      simp only [Option.some.injEq, exists_eq_left']
      exact crossing_toFloat_iff.2 (h earlier cp later hprices)

/-- **Crossings of one moment**: alerts fire as they should exactly when floats tell the crossings
of the prices apart and, at each reading that is beyond and has a pair before it, the latest value
of the first indicator is on the same side of the last value of the second one as the one it was
read with. -/
theorem crossing_alerts_iff (side : CrossingSide) (threshold : ℚ) (within : Option ℚ)
    (prices : List (Option ℚ)) (readings : List IndicatorReading) :
    CrossingsOfOneMoment side threshold within prices readings ↔
      ToldApart side threshold prices ∧ ReadTogether side readings := by
  constructor
  · exact fun h => ⟨price_crossings_iff.1 h.price, indicator_crossings_iff.1 h.indicator⟩
  · exact fun ⟨hprices, hreadings⟩ => ⟨price_crossings_iff.2 hprices,
      indicator_crossings_iff.2 hreadings, price_answers_le_one rfl, indicator_answers_le_one rfl⟩

end

/-- The first indicator is under the second one, then alone, then over it. -/
def crossingReadings : List IndicatorReading :=
  [⟨some 1, some 2⟩, ⟨some 3, none⟩, ⟨some 4, some 2⟩]

/-- The crossing from 1 under 2 to 4 over 2 is missed, since 3 is compared with 2. -/
theorem crossing_missed : ¬ CrossingsOfOneMoment .above 0 none [] crossingReadings := by
  intro h
  have hfires := (h.indicator [⟨some 1, some 2⟩, ⟨some 3, none⟩] ⟨some 4, some 2⟩ [] rfl).2
    ⟨4, 2, rfl, by decide, 1, 2, rfl, by decide⟩
  exact absurd hfires (by decide)

end ChartingPlatform
