/-
  The parabolic stop and reverse of a bar series (`_compute_psar`), in exact arithmetic.

  The case of a falling trend is that of a rising one in the mirror (`sarStep_mirror`).
-/
import Mathlib.Algebra.Order.Group.MinMax
import Mathlib.Algebra.Order.Ring.Rat
import Mathlib.Tactic.Linarith
import Mathlib.Tactic.Ring

namespace ChartingPlatform

open List

/-! ## The loop -/

/-- The range of a bar. -/
structure PriceRange where
  low : ℚ
  high : ℚ
  low_le_high : low ≤ high

/-- `af_start`, `af_step` and `af_max`. -/
structure SarFactors where
  afStart : ℚ
  afStep : ℚ
  afMax : ℚ
  start_pos : 0 < afStart
  start_le_max : afStart ≤ afMax
  max_le_one : afMax ≤ 1
  step_pos : 0 < afStep

/-- The variables of the loop after a bar, and the value there. -/
structure SarState where
  bull : Bool
  ep : ℚ
  af : ℚ
  psar : ℚ

/-- `psar[i]` before it is held to the bars before. -/
def SarState.next (s : SarState) : ℚ := s.psar + s.af * (s.ep - s.psar)

/-- `min(psar[i], low[i - 1], low[i - 2])`, from the third bar on. -/
def clampLow (prev : PriceRange) : Option PriceRange → ℚ → ℚ
  | none, x => x
  | some prev2, x => min (min x prev.low) prev2.low

/-- `max(psar[i], high[i - 1], high[i - 2])`, from the third bar on. -/
def clampHigh (prev : PriceRange) : Option PriceRange → ℚ → ℚ
  | none, x => x
  | some prev2, x => max (max x prev.high) prev2.high

/-- Whether a bar after the bars `prev2` and `prev` crosses the value and reverses the trend. -/
def SarState.Crossed (s : SarState) (prev2 : Option PriceRange) (prev bar : PriceRange) : Prop :=
  if s.bull then bar.low < clampLow prev prev2 s.next else clampHigh prev prev2 s.next < bar.high

instance (s : SarState) (prev2 : Option PriceRange) (prev bar : PriceRange) :
    Decidable (s.Crossed prev2 prev bar) := by
  unfold SarState.Crossed
  infer_instance

/-- One pass of the loop. -/
def sarStep (f : SarFactors) (prev2 : Option PriceRange) (prev : PriceRange) (s : SarState)
    (bar : PriceRange) : SarState :=
  if s.bull then
    if s.Crossed prev2 prev bar then ⟨false, bar.low, f.afStart, s.ep⟩
    else if s.ep < bar.high then
      ⟨true, bar.high, min (s.af + f.afStep) f.afMax, clampLow prev prev2 s.next⟩
    else ⟨true, s.ep, s.af, clampLow prev prev2 s.next⟩
  else
    if s.Crossed prev2 prev bar then ⟨true, bar.high, f.afStart, s.ep⟩
    else if bar.low < s.ep then
      ⟨false, bar.low, min (s.af + f.afStep) f.afMax, clampHigh prev prev2 s.next⟩
    else ⟨false, s.ep, s.af, clampHigh prev prev2 s.next⟩

/-- A bar from the second one on, with the bars and the state before it. -/
structure SarMove where
  prev2 : Option PriceRange
  prev : PriceRange
  before : SarState
  bar : PriceRange

def SarMove.after (f : SarFactors) (m : SarMove) : SarState :=
  sarStep f m.prev2 m.prev m.before m.bar

/-- The passes of the loop over the bars that follow `prev`. -/
def sarLoop (f : SarFactors) :
    Option PriceRange → PriceRange → SarState → List PriceRange → List SarMove
  | _, _, _, [] => []
  | prev2, prev, s, bar :: bars =>
    ⟨prev2, prev, s, bar⟩ :: sarLoop f (some prev) bar (sarStep f prev2 prev s bar) bars

/-- The first bar opens a rising trend. -/
def sarStart (f : SarFactors) (bar : PriceRange) : SarState := ⟨true, bar.high, f.afStart, bar.low⟩

def sarMoves (f : SarFactors) : List PriceRange → List SarMove
  | [] => []
  | bar :: bars => sarLoop f none bar (sarStart f bar) bars

/-- `_compute_psar`, with `none` for NaN. -/
def computePsar (f : SarFactors) (data : List PriceRange) : List (Option ℚ) :=
  match data with
  | bar :: _ :: _ => some bar.low :: (sarMoves f data).map fun m => some (m.after f).psar
  | _ => List.replicate data.length none

/-! ## The stop side -/

/-- Whether a value is below a bar of a rising trend, or above one of a falling trend. -/
def SarState.StopSide (s : SarState) (bar : PriceRange) : Prop :=
  if s.bull then s.psar ≤ bar.low else bar.high ≤ s.psar

/-- Whether the bar reverses the trend. -/
def SarMove.Reverses (m : SarMove) : Prop := m.before.Crossed m.prev2 m.prev m.bar

/-- Whether the bar goes beyond the extreme point that the trend had before it. -/
def SarMove.Beyond (m : SarMove) : Prop :=
  if m.before.bull then m.before.ep < m.bar.high else m.bar.low < m.before.ep

/-- Whether the value goes with the trend. -/
def SarMove.WithTrend (f : SarFactors) (m : SarMove) : Prop :=
  if (m.after f).bull then m.before.psar ≤ (m.after f).psar
  else (m.after f).psar ≤ m.before.psar

/-- The acceleration factor keeps its bounds, each value from the second bar on is on the stop side
of its bar, and after a reversal the values go with the trend up to the next one. -/
structure OnStopSide (f : SarFactors) (bars : List PriceRange) : Prop where
  accelerates : ∀ m ∈ sarMoves f bars, (f.afStart ≤ m.before.af ∧ m.before.af ≤ f.afMax) ∧
    f.afStart ≤ (m.after f).af ∧ (m.after f).af ≤ f.afMax
  stopSide : ∀ i bar, bars[i + 1]? = some bar → ∃ m x, (sarMoves f bars)[i]? = some m ∧
    (computePsar f bars)[i + 1]? = some (some x) ∧
    if (m.after f).bull then x ≤ bar.low else bar.high ≤ x
  withTrend : ∀ i m, (sarMoves f bars)[i]? = some m →
    (∃ r ∈ (sarMoves f bars).take i, r.Reverses) → ¬ m.Reverses → ∃ x y,
      (computePsar f bars)[i]? = some (some x) ∧ (computePsar f bars)[i + 1]? = some (some y) ∧
      if (m.after f).bull then x ≤ y else y ≤ x

/-! ## The mirror -/

/-- Whether the extreme point of the trend has been reached by a bar. -/
def SarState.Reaches (s : SarState) (bar : PriceRange) : Prop :=
  if s.bull then bar.high ≤ s.ep else s.ep ≤ bar.low

/-- Whether the value is on the stop side of the last two bars. -/
def SarState.Clear (s : SarState) (prev2 : Option PriceRange) (prev : PriceRange) : Prop :=
  s.StopSide prev ∧ ∃ p, prev2 = some p ∧ s.StopSide p

def PriceRange.mirror (b : PriceRange) : PriceRange := ⟨-b.high, -b.low, neg_le_neg b.low_le_high⟩

def SarState.mirror (s : SarState) : SarState := ⟨!s.bull, -s.ep, s.af, -s.psar⟩

section
variable {f : SarFactors} {prev2 : Option PriceRange} {prev bar : PriceRange} {s : SarState}
  {x : ℚ}

theorem next_mirror : s.mirror.next = -s.next := by
  simp only [SarState.next, SarState.mirror]
  ring

theorem clampLow_mirror :
    clampLow prev.mirror (prev2.map PriceRange.mirror) (-x) = -clampHigh prev prev2 x := by
  cases prev2 with
  | none => rfl
  | some p => simp [clampLow, clampHigh, PriceRange.mirror, min_neg_neg]

theorem clampHigh_mirror :
    clampHigh prev.mirror (prev2.map PriceRange.mirror) (-x) = -clampLow prev prev2 x := by
  cases prev2 with
  | none => rfl
  | some p => simp [clampLow, clampHigh, PriceRange.mirror, max_neg_neg]

theorem crossed_mirror :
    s.mirror.Crossed (prev2.map PriceRange.mirror) prev.mirror bar.mirror ↔
      s.Crossed prev2 prev bar := by
  unfold SarState.Crossed
  rw [next_mirror, clampLow_mirror, clampHigh_mirror]
  cases hb : s.bull <;> simp [SarState.mirror, PriceRange.mirror, hb]

/-- **The mirror**: the loop takes a falling trend as it takes a rising one. -/
theorem sarStep_mirror (f : SarFactors) (prev2 : Option PriceRange) (prev : PriceRange)
    (s : SarState) (bar : PriceRange) :
    sarStep f (prev2.map PriceRange.mirror) prev.mirror s.mirror bar.mirror =
      (sarStep f prev2 prev s bar).mirror := by
  unfold sarStep
  simp only [crossed_mirror, next_mirror, clampLow_mirror, clampHigh_mirror]
  cases hb : s.bull <;>
    simp only [SarState.mirror, PriceRange.mirror, hb, Bool.not_true, Bool.not_false,
      Bool.false_eq_true, if_true, if_false, neg_lt_neg_iff] <;> split_ifs <;> rfl

theorem stopSide_mirror : s.mirror.StopSide bar.mirror ↔ s.StopSide bar := by
  cases hb : s.bull <;> simp [SarState.StopSide, SarState.mirror, PriceRange.mirror, hb]

theorem reaches_mirror : s.mirror.Reaches bar.mirror ↔ s.Reaches bar := by
  cases hb : s.bull <;> simp [SarState.Reaches, SarState.mirror, PriceRange.mirror, hb]

theorem clear_mirror (h : s.Clear prev2 prev) :
    s.mirror.Clear (prev2.map PriceRange.mirror) prev.mirror := by
  obtain ⟨hprev, p, rfl, hp⟩ := h
  exact ⟨stopSide_mirror.2 hprev, p.mirror, rfl, stopSide_mirror.2 hp⟩

end

/-! ## One pass -/

section
variable {f : SarFactors} {prev2 : Option PriceRange} {prev bar : PriceRange} {s : SarState}
  {m : SarMove} {bars : List PriceRange}

theorem bull_sarStep : (sarStep f prev2 prev s bar).bull = s.bull ↔ ¬ s.Crossed prev2 prev bar := by
  unfold sarStep
  split_ifs with hbull hrev hext hrev hext <;> simp_all

theorem psar_of_crossed (h : s.Crossed prev2 prev bar) :
    (sarStep f prev2 prev s bar).psar = s.ep := by
  unfold sarStep
  rw [if_pos h, if_pos h]
  split_ifs <;> rfl

theorem af_sarStep (h : f.afStart ≤ s.af ∧ s.af ≤ f.afMax) :
    f.afStart ≤ (sarStep f prev2 prev s bar).af ∧ (sarStep f prev2 prev s bar).af ≤ f.afMax := by
  have hfaster : f.afStart ≤ min (s.af + f.afStep) f.afMax :=
    le_min (h.1.trans (le_add_of_nonneg_right f.step_pos.le)) f.start_le_max
  unfold sarStep
  split_ifs
  · exact ⟨le_rfl, f.start_le_max⟩
  · exact ⟨hfaster, min_le_right _ _⟩
  · exact h
  · exact ⟨le_rfl, f.start_le_max⟩
  · exact ⟨hfaster, min_le_right _ _⟩
  · exact h

theorem reaches_sarStep : (sarStep f prev2 prev s bar).Reaches bar := by
  unfold sarStep
  split_ifs with hbull hrev hext hrev hext
  · exact le_refl bar.low
  · exact le_refl bar.high
  · exact not_lt.1 hext
  · exact le_refl bar.high
  · exact le_refl bar.low
  · exact not_lt.1 hext

/-- **The stop side of a bar** is missed exactly by a reversal beyond the extreme point. -/
theorem stopSide_after : (m.after f).StopSide m.bar ↔ ¬ (m.Reverses ∧ m.Beyond) := by
  unfold SarMove.after SarMove.Reverses SarMove.Beyond sarStep
  split_ifs with hbull hrev hext hrev hext
  · simp [hrev, SarState.StopSide]
  · exact iff_of_true (by simpa [SarState.Crossed, hbull, SarState.StopSide] using hrev)
      fun h => hrev h.1
  · exact iff_of_true (by simpa [SarState.Crossed, hbull, SarState.StopSide] using hrev)
      fun h => hrev h.1
  · simp [hrev, SarState.StopSide]
  · exact iff_of_true (by simpa [SarState.Crossed, hbull, SarState.StopSide] using hrev)
      fun h => hrev h.1
  · exact iff_of_true (by simpa [SarState.Crossed, hbull, SarState.StopSide] using hrev)
      fun h => hrev h.1

/-- A pass over a rising trend that is clear of the last two bars. -/
theorem rising_sarStep (hbull : s.bull = true) (haf : 0 ≤ s.af) (hreach : s.Reaches prev)
    (hclear : s.Clear prev2 prev) (hkeep : ¬ s.Crossed prev2 prev bar) :
    s.psar ≤ (sarStep f prev2 prev s bar).psar ∧ (sarStep f prev2 prev s bar).psar ≤ prev.low := by
  obtain ⟨hprev, p, rfl, hp⟩ := hclear
  simp only [SarState.StopSide, SarState.Reaches, hbull, if_true] at hreach hprev hp
  have hvalue : (sarStep f (some p) prev s bar).psar = clampLow prev (some p) s.next := by
    unfold sarStep
    rw [if_pos hbull, if_neg hkeep]
    split_ifs <;> rfl
  have hep : s.psar ≤ s.ep := (hprev.trans prev.low_le_high).trans hreach
  have hnext : s.psar ≤ s.next := le_add_of_nonneg_right (mul_nonneg haf (sub_nonneg.2 hep))
  rw [hvalue]
  exact ⟨le_min (le_min hnext hprev) hp, (min_le_left _ _).trans (min_le_right _ _)⟩

/-- A pass that does not reverse a trend that is clear of the last two bars. -/
theorem clear_sarStep (haf : 0 ≤ s.af) (hreach : s.Reaches prev) (hclear : s.Clear prev2 prev)
    (hkeep : ¬ s.Crossed prev2 prev bar) :
    SarMove.WithTrend f ⟨prev2, prev, s, bar⟩ ∧ (sarStep f prev2 prev s bar).StopSide prev := by
  have hbull := bull_sarStep (f := f).2 hkeep
  simp only [SarMove.WithTrend, SarMove.after, SarState.StopSide, hbull]
  cases hs : s.bull with
  | true => exact rising_sarStep hs haf hreach hclear hkeep
  | false =>
    have h := rising_sarStep (f := f) (s := s.mirror) (by simp [SarState.mirror, hs]) haf
      (reaches_mirror.2 hreach) (clear_mirror hclear) (crossed_mirror.not.2 hkeep)
    rw [sarStep_mirror] at h
    exact ⟨neg_le_neg_iff.1 h.1, neg_le_neg_iff.1 h.2⟩

/-- Once the trend has reversed, a pass leaves the value clear of the last two bars where the bar
does not miss its stop side. -/
theorem clear_of_crossed (haf : 0 ≤ s.af) (hreach : s.Reaches prev)
    (hdone : s.Clear prev2 prev ∨ s.Crossed prev2 prev bar)
    (hside : (sarStep f prev2 prev s bar).StopSide bar) :
    (sarStep f prev2 prev s bar).Clear (some prev) bar := by
  refine ⟨hside, prev, rfl, ?_⟩
  by_cases hrev : s.Crossed prev2 prev bar
  · have hflip := (bull_sarStep (f := f)).not.2 (not_not.2 hrev)
    unfold SarState.StopSide SarState.Reaches at *
    rw [psar_of_crossed hrev]
    cases hs : s.bull <;> simp_all
  · exact (clear_sarStep haf hreach (hdone.resolve_right hrev) hrev).2

/-! ## Runs -/

theorem sarLoop_af (h : f.afStart ≤ s.af ∧ s.af ≤ f.afMax) (hm : m ∈ sarLoop f prev2 prev s bars) :
    f.afStart ≤ m.before.af ∧ m.before.af ≤ f.afMax := by
  induction bars generalizing prev2 prev s with
  | nil => cases hm
  | cons bar bars ih =>
    rcases mem_cons.1 hm with rfl | hm
    · exact h
    · exact ih (af_sarStep h) hm

theorem sarLoop_withTrend (haf : f.afStart ≤ s.af ∧ s.af ≤ f.afMax) (hreach : s.Reaches prev)
    (hside : ∀ m ∈ sarLoop f prev2 prev s bars, (m.after f).StopSide m.bar)
    {earlier later : List SarMove} (hm : sarLoop f prev2 prev s bars = earlier ++ m :: later)
    (hdone : s.Clear prev2 prev ∨ ∃ r ∈ earlier, r.Reverses) (hkeep : ¬ m.Reverses) :
    m.WithTrend f := by
  have hpos : 0 ≤ s.af := f.start_pos.le.trans haf.1
  induction bars generalizing prev2 prev s earlier with
  | nil => cases earlier <;> cases hm
  | cons bar bars ih =>
    cases earlier with
    | nil =>
      obtain ⟨rfl, -⟩ := List.cons.inj hm
      exact (clear_sarStep hpos hreach (hdone.resolve_right (by simp)) hkeep).1
    | cons r earlier =>
      obtain ⟨rfl, hrest⟩ := List.cons.inj hm
      have hfirst := hside _ (mem_cons_self ..)
      refine ih (af_sarStep haf) reaches_sarStep (fun m hm => hside m (mem_cons_of_mem _ hm))
        hrest ?_ (f.start_pos.le.trans (af_sarStep haf).1)
      rcases hdone with hclear | ⟨r, hr, hrev⟩
      · exact .inl (clear_of_crossed hpos hreach (.inl hclear) hfirst)
      · rcases mem_cons.1 hr with rfl | hr
        · exact .inl (clear_of_crossed hpos hreach (.inr hrev) hfirst)
        · exact .inr ⟨r, hr, hrev⟩

variable (f bars)

theorem sarMoves_af (hm : m ∈ sarMoves f bars) :
    f.afStart ≤ m.before.af ∧ m.before.af ≤ f.afMax := by
  cases bars with
  | nil => cases hm
  | cons bar bars => exact sarLoop_af ⟨le_rfl, f.start_le_max⟩ hm

end

/-! ## The values -/

section
variable {f : SarFactors} {prev2 : Option PriceRange} {prev bar : PriceRange} {s : SarState}
  {m : SarMove} {bars : List PriceRange} {i : ℕ}

theorem length_sarLoop : (sarLoop f prev2 prev s bars).length = bars.length := by
  induction bars generalizing prev2 prev s with
  | nil => rfl
  | cons bar bars ih => exact congrArg Nat.succ ih

theorem length_sarMoves : (sarMoves f bars).length = bars.length - 1 := by
  cases bars with
  | nil => rfl
  | cons bar bars => exact length_sarLoop

theorem sarLoop_getElem? (h : (sarLoop f prev2 prev s bars)[i]? = some m) :
    bars[i]? = some m.bar ∧
      (s.psar :: (sarLoop f prev2 prev s bars).map fun m => (m.after f).psar)[i]? =
        some m.before.psar := by
  induction bars generalizing prev2 prev s i with
  | nil => cases h
  | cons bar bars ih =>
    cases i with
    | zero =>
      obtain rfl := Option.some.inj h
      exact ⟨rfl, rfl⟩
    | succ i => exact ih h

/-- **The values of a pass**: the one before it and its own, at the place of its bar. -/
theorem computePsar_getElem? (h : (sarMoves f bars)[i]? = some m) :
    bars[i + 1]? = some m.bar ∧ (computePsar f bars)[i]? = some (some m.before.psar) ∧
      (computePsar f bars)[i + 1]? = some (some (m.after f).psar) := by
  match bars with
  | [] => cases h
  | [_] => cases h
  | bar :: bar' :: bars =>
    obtain ⟨hbar, hbefore⟩ := sarLoop_getElem? h
    have hvalues : computePsar f (bar :: bar' :: bars) = ((sarStart f bar).psar ::
        (sarMoves f (bar :: bar' :: bars)).map fun m => (m.after f).psar).map some := by
      rw [map_cons, map_map]
      rfl
    refine ⟨hbar, ?_, ?_⟩
    · rw [hvalues, getElem?_map]
      exact congrArg (Option.map some) hbefore
    · rw [hvalues, getElem?_map, getElem?_cons_succ, getElem?_map, h]
      rfl

theorem exists_sarMove (h : bars[i + 1]? = some bar) : ∃ m, (sarMoves f bars)[i]? = some m := by
  obtain ⟨hlt, -⟩ := List.getElem?_eq_some_iff.1 h
  have hmove : i < (sarMoves f bars).length := by
    rw [length_sarMoves]
    omega
  exact ⟨_, getElem?_eq_getElem hmove⟩

variable (f bars)

/-- **The stop side**: the values stay on it, and go with the trend between two reversals, exactly
when no bar that reverses a trend goes beyond its extreme point. -/
theorem computePsar_stop_side_iff :
    OnStopSide f bars ↔ ∀ m ∈ sarMoves f bars, ¬ (m.Reverses ∧ m.Beyond) := by
  constructor
  · intro h m hm
    obtain ⟨i, hi⟩ := mem_iff_getElem?.1 hm
    obtain ⟨hbar, -, hvalue⟩ := computePsar_getElem? hi
    obtain ⟨m', x, hm', hx, hside⟩ := h.stopSide i m.bar hbar
    obtain rfl := Option.some.inj (hi.symm.trans hm')
    obtain rfl := Option.some.inj (Option.some.inj (hvalue.symm.trans hx))
    exact stopSide_after.1 hside
  · intro h
    have hside : ∀ m ∈ sarMoves f bars, (m.after f).StopSide m.bar :=
      fun m hm => stopSide_after.2 (h m hm)
    refine ⟨fun m hm => ⟨sarMoves_af f bars hm, af_sarStep (sarMoves_af f bars hm)⟩, ?_, ?_⟩
    · intro i bar hbar
      obtain ⟨m, hm⟩ := exists_sarMove (f := f) hbar
      obtain ⟨hbar', -, hvalue⟩ := computePsar_getElem? hm
      obtain rfl := Option.some.inj (hbar.symm.trans hbar')
      exact ⟨m, _, hm, hvalue, hside m (mem_of_getElem? hm)⟩
    · intro i m hm hrev hkeep
      obtain ⟨-, hbefore, hvalue⟩ := computePsar_getElem? hm
      obtain ⟨hlt, hmi⟩ := List.getElem?_eq_some_iff.1 hm
      have hsplit : sarMoves f bars = (sarMoves f bars).take i ++ m ::
          (sarMoves f bars).drop (i + 1) := by
        rw [← hmi, ← drop_eq_getElem_cons hlt, take_append_drop]
      refine ⟨_, _, hbefore, hvalue, ?_⟩
      cases bars with
      | nil => cases hm
      | cons bar bars =>
        have hreach : (sarStart f bar).Reaches bar := le_refl bar.high
        exact sarLoop_withTrend ⟨le_rfl, f.start_le_max⟩ hreach hside hsplit (.inr hrev) hkeep

end

/-- The factors that `_compute_psar` has by default. -/
def defaultFactors : SarFactors where
  afStart := 2 / 100
  afStep := 2 / 100
  afMax := 20 / 100
  start_pos := by norm_num
  start_le_max := by norm_num
  max_le_one := by norm_num
  step_pos := by norm_num

/-- A second bar whose range is wider than that of the first one on both sides. -/
def outsideBars : List PriceRange := [⟨10, 12, by norm_num⟩, ⟨9, 15, by norm_num⟩]

/-- The outside bar turns the trend down, with a value of 12 under its high of 15. -/
theorem computePsar_outside : ¬ OnStopSide defaultFactors outsideBars := by
  intro h
  obtain ⟨m, x, hm, hx, hside⟩ := h.stopSide 0 ⟨9, 15, by norm_num⟩ rfl
  have hstart : m = ⟨none, ⟨10, 12, by norm_num⟩, ⟨true, 12, 2 / 100, 10⟩, ⟨9, 15, by norm_num⟩⟩ :=
    (Option.some.inj hm).symm
  have hafter : m.after defaultFactors = ⟨false, 9, 2 / 100, 12⟩ := by
    rw [hstart]
    norm_num [SarMove.after, sarStep, SarState.Crossed, clampLow, SarState.next, defaultFactors]
  obtain ⟨-, -, hvalue⟩ := computePsar_getElem? hm
  obtain rfl := Option.some.inj (Option.some.inj (hvalue.symm.trans hx))
  rw [hafter] at hside
  norm_num at hside

end ChartingPlatform
