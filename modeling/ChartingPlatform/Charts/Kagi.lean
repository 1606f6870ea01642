/-
  Kagi lines: `transform_kagi` reverses against the previous close, so it misses a drift back
  in steps that are each within the reversal amount.
-/
import ChartingPlatform.Charts.Transforms
import Mathlib.Tactic.Linarith

namespace ChartingPlatform

open Lib List

/-! ## What Kagi lines are -/

def openSegment (bars : List OHLCVBar) (reversalPct : ℚ) : ℕ :=
  (transformKagi bars reversalPct).length - 1

def lastClose (first : OHLCVBar) (rest : List OHLCVBar) : ℚ :=
  lastStop OHLCVBar.close first.close rest

/-- Kagi lines over a first bar and the bars after it: a chain of segments that rise and
    fall in turn, each completed one up to the extreme close it was open for, from which the
    next close retraces at least the reversal amount. -/
structure KagiLines (first : OHLCVBar) (rest : List OHLCVBar) (reversalPct : ℚ) : Prop where
  connected : Connected BarDict.open_ BarDict.close first.close
    (transformKagi (first :: rest) reversalPct)
  alternates : Alternates (fun d seg => 0 ≤ (d : ℚ) * (seg.close - seg.open_)) 1
    (transformKagi (first :: rest) reversalPct)
  extreme : ∀ k seg, (transformKagi (first :: rest) reversalPct)[k]? = some seg →
    k < openSegment (first :: rest) reversalPct →
    ∀ pre, pre <+: rest → openSegment (first :: pre) reversalPct = k →
      (turned 1 k : ℚ) * lastClose first pre ≤ turned 1 k * seg.close
  retraced : ∀ k seg, (transformKagi (first :: rest) reversalPct)[k]? = some seg →
    k < openSegment (first :: rest) reversalPct →
    ∃ pre bar, pre ++ [bar] <+: rest ∧ openSegment (first :: pre) reversalPct = k ∧
      lastClose first pre = seg.close ∧
      (turned 1 k : ℚ) * bar.close + kagiReversalAmt first.close reversalPct ≤
        turned 1 k * seg.close

/-- Whether closes turn at extremes only: a close that goes back by more than the amount
    from the one before finds that one at the extreme since the last turn, and the last
    close is not behind the last turn. -/
def TurnsAtExtremes (amt : ℚ) : SignType → ℚ → ℚ → ℚ → List ℚ → Prop
  | d, start, _, last, [] => 0 ≤ (d : ℚ) * (last - start)
  | d, start, best, last, c :: cs =>
    if (d : ℚ) * c < d * last - amt then
      (d : ℚ) * best ≤ d * last ∧ TurnsAtExtremes amt (-d) last c c cs
    else TurnsAtExtremes amt d start (if (d : ℚ) * best ≤ d * c then c else best) c cs

/-! ## Runs -/

variable {amt : ℚ} {first bar : OHLCVBar} {pre rest : List OHLCVBar} {s : Kagi}
  {reversalPct best : ℚ}

def kagiRun (amt : ℚ) (first : OHLCVBar) (rest : List OHLCVBar) : Kagi :=
  rest.foldl (kagiBar amt) (kagiStart first)

/-- The close is more than the reversal amount back. -/
def Kagi.Turns (amt : ℚ) (s : Kagi) (bar : OHLCVBar) : Prop :=
  (s.direction : ℚ) * bar.close < s.direction * s.lastPrice - amt

instance : Decidable (s.Turns amt bar) := inferInstanceAs (Decidable (_ < _))

theorem kagiRun_concat :
    kagiRun amt first (rest ++ [bar]) = kagiBar amt (kagiRun amt first rest) bar :=
  foldl_concat _ _ _ _

theorem kagiBar_eq (hs : s.direction = 1 ∨ s.direction = -1) :
    kagiBar amt s bar =
      if s.Turns amt bar then s.reverse bar (-s.direction)
      else { s with lastPrice := bar.close } := by
  rcases hs with h | h
  · rw [kagiBar, if_pos h, h]
    refine if_congr ?_ rfl rfl
    rw [Kagi.Turns, h, SignType.coe_one, one_mul, one_mul]
  · rw [kagiBar, if_neg (by rw [h]; decide), h, neg_neg]
    refine if_congr ?_ rfl rfl
    rw [Kagi.Turns, h, SignType.coe_neg, SignType.coe_one]
    constructor <;> intro <;> linarith

structure Kagi.Drawn (first : OHLCVBar) (rest : List OHLCVBar) (s : Kagi) : Prop where
  direction : s.direction = turned 1 s.result.length
  lastPrice : s.lastPrice = lastClose first rest
  connected : Connected BarDict.open_ BarDict.close first.close s.result
  start : s.segmentStart = lastStop BarDict.close first.close s.result

theorem turned_one (n : ℕ) : turned 1 n = 1 ∨ turned 1 n = -1 := by
  rcases SignType.trichotomy (turned 1 n) with h | h | h
  · exact .inr h
  · exact absurd h (turned_ne_zero (by decide) n)
  · exact .inl h

theorem Kagi.Drawn.sign (h : s.Drawn first rest) : s.direction = 1 ∨ s.direction = -1 := by
  rw [h.direction]
  exact turned_one _

theorem kagiRun_drawn (amt : ℚ) (first : OHLCVBar) (rest : List OHLCVBar) :
    (kagiRun amt first rest).Drawn first rest := by
  induction rest using List.reverseRecOn with
  | nil => exact ⟨rfl, rfl, trivial, rfl⟩
  | append_singleton rest bar ih =>
    have hlast : bar.close = lastClose first (rest ++ [bar]) := by rw [lastClose, lastStop_concat]
    rw [kagiRun_concat, kagiBar_eq ih.sign]
    split
    · refine ⟨?_, hlast, (connected_concat _ _).2 ⟨ih.connected, ih.start⟩, ?_⟩
      · simp only [Kagi.reverse, length_append, length_singleton, turned_succ]
        rw [ih.direction]
      · simp only [Kagi.reverse, lastStop_concat]
        rfl
    · exact ⟨ih.direction, hlast, ih.connected, ih.start⟩

theorem kagiRun_turn (h : (kagiRun amt first rest).Turns amt bar) :
    kagiRun amt first (rest ++ [bar]) =
      (kagiRun amt first rest).reverse bar (-(kagiRun amt first rest).direction) := by
  rw [kagiRun_concat, kagiBar_eq (kagiRun_drawn amt first rest).sign, if_pos h]

theorem kagiRun_same (h : ¬ (kagiRun amt first rest).Turns amt bar) :
    kagiRun amt first (rest ++ [bar]) =
      { kagiRun amt first rest with lastPrice := bar.close } := by
  rw [kagiRun_concat, kagiBar_eq (kagiRun_drawn amt first rest).sign, if_neg h]

theorem isPrefix_result (h : pre <+: rest) :
    (kagiRun amt first pre).result <+: (kagiRun amt first rest).result := by
  induction rest using List.reverseRecOn with
  | nil => rw [prefix_nil.1 h]
  | append_singleton rest bar ih =>
    rcases prefix_concat_iff.1 h with rfl | h
    · exact prefix_rfl
    · refine (ih h).trans ?_
      by_cases hturn : (kagiRun amt first rest).Turns amt bar
      · rw [kagiRun_turn hturn]
        exact prefix_append _ _
      · rw [kagiRun_same hturn]

theorem transformKagi_cons :
    transformKagi (first :: rest) reversalPct =
      (kagiRun (kagiReversalAmt first.close reversalPct) first rest).result ++
        [(kagiRun (kagiReversalAmt first.close reversalPct) first rest).segment 0 false] := rfl

theorem openSegment_cons :
    openSegment (first :: rest) reversalPct =
      (kagiRun (kagiReversalAmt first.close reversalPct) first rest).result.length := by
  rw [openSegment, transformKagi_cons, length_append, length_singleton]
  rfl

/-! ## Extremes -/

def OpenAt (amt : ℚ) (first : OHLCVBar) (rest pre : List OHLCVBar) : Prop :=
  pre <+: rest ∧ (kagiRun amt first pre).result.length = (kagiRun amt first rest).result.length

/-- The last close is the extreme one of the open segment. -/
def AtExtreme (amt : ℚ) (first : OHLCVBar) (rest : List OHLCVBar) : Prop :=
  ∀ pre, OpenAt amt first rest pre → ((kagiRun amt first rest).direction : ℚ) *
    lastClose first pre ≤ (kagiRun amt first rest).direction * lastClose first rest

def Extremes (amt : ℚ) (first : OHLCVBar) (rest : List OHLCVBar) : Prop :=
  ∀ k seg, (kagiRun amt first rest).result[k]? = some seg →
    ∀ pre, pre <+: rest → (kagiRun amt first pre).result.length = k →
      (turned 1 k : ℚ) * lastClose first pre ≤ turned 1 k * seg.close

structure BestClose (amt : ℚ) (first : OHLCVBar) (rest : List OHLCVBar) (best : ℚ) : Prop where
  reached : ∃ pre, OpenAt amt first rest pre ∧ lastClose first pre = best
  best : ∀ pre, OpenAt amt first rest pre → ((kagiRun amt first rest).direction : ℚ) *
    lastClose first pre ≤ (kagiRun amt first rest).direction * best

theorem BestClose.atExtreme_iff (h : BestClose amt first rest best) :
    AtExtreme amt first rest ↔ ((kagiRun amt first rest).direction : ℚ) * best ≤
      (kagiRun amt first rest).direction * (kagiRun amt first rest).lastPrice := by
  rw [(kagiRun_drawn amt first rest).lastPrice]
  constructor
  · intro hext
    obtain ⟨pre, hpre, rfl⟩ := h.reached
    exact hext pre hpre
  · intro hle pre hpre
    exact (h.best pre hpre).trans hle

theorem BestClose.turn (h : (kagiRun amt first rest).Turns amt bar) :
    BestClose amt first (rest ++ [bar]) bar.close := by
  refine ⟨⟨_, ⟨prefix_rfl, rfl⟩, lastStop_concat _ _ _ _⟩, ?_⟩
  rintro pre ⟨hpre, hlen⟩
  rcases prefix_concat_iff.1 hpre with rfl | hpre
  · rw [lastClose, lastStop_concat]
  · have := (@isPrefix_result amt first _ _ hpre).length_le
    rw [kagiRun_turn h] at hlen
    simp only [Kagi.reverse, length_append, length_singleton] at hlen
    omega

theorem BestClose.same (hbest : BestClose amt first rest best)
    (h : ¬ (kagiRun amt first rest).Turns amt bar) :
    BestClose amt first (rest ++ [bar])
      (if ((kagiRun amt first rest).direction : ℚ) * best ≤
        (kagiRun amt first rest).direction * bar.close then bar.close else best) := by
  have hrun := kagiRun_same h
  have hopen : ∀ pre, OpenAt amt first rest pre → OpenAt amt first (rest ++ [bar]) pre := by
    rintro pre ⟨hpre, hlen⟩
    exact ⟨hpre.trans (prefix_append _ _), by rw [hlen, hrun]⟩
  constructor
  · split
    · exact ⟨_, ⟨prefix_rfl, rfl⟩, lastStop_concat _ _ _ _⟩
    · obtain ⟨pre, hpre, hlast⟩ := hbest.reached
      exact ⟨pre, hopen pre hpre, hlast⟩
  · rintro pre ⟨hpre, hlen⟩
    rw [hrun] at hlen ⊢
    rcases prefix_concat_iff.1 hpre with rfl | hpre
    · rw [lastClose, lastStop_concat]
      split <;> linarith
    · have := hbest.best pre ⟨hpre, hlen⟩
      split <;> linarith

theorem extremes_concat :
    Extremes amt first (rest ++ [bar]) ↔ Extremes amt first rest ∧
      ((kagiRun amt first rest).Turns amt bar → AtExtreme amt first rest) := by
  have hdir := (kagiRun_drawn amt first rest).direction
  have hlast := (kagiRun_drawn amt first rest).lastPrice
  have hgrow := @isPrefix_result amt first _ _ (prefix_append rest [bar])
  have hleft : Extremes amt first (rest ++ [bar]) → Extremes amt first rest := by
    intro h k seg hk pre hpre
    obtain ⟨t, ht⟩ := hgrow
    refine h k seg ?_ pre (hpre.trans (prefix_append _ _))
    rw [← ht, getElem?_append_left (List.getElem?_eq_some_iff.1 hk).1, hk]
  by_cases hturn : (kagiRun amt first rest).Turns amt bar
  · have hres := congrArg Kagi.result (kagiRun_turn hturn)
    simp only [Kagi.reverse] at hres
    constructor
    · intro h
      refine ⟨hleft h, ?_⟩
      rintro - pre ⟨hpre, hlen⟩
      have := h _ _ (by rw [hres, getElem?_concat_length]) pre
        (hpre.trans (prefix_append _ _)) hlen
      rwa [← hdir, Kagi.segment, hlast] at this
    · rintro ⟨h, hext⟩ k seg hk pre hpre hlen
      have hkn := (List.getElem?_eq_some_iff.1 hk).1
      rcases prefix_concat_iff.1 hpre with rfl | hpre
      · omega
      · rw [hres, length_append, length_singleton] at hkn
        rcases Nat.lt_or_ge k (kagiRun amt first rest).result.length with hlt | hge
        · rw [hres, getElem?_append_left hlt] at hk
          exact h k seg hk pre hpre hlen
        · obtain rfl : k = (kagiRun amt first rest).result.length := by omega
          rw [hres, getElem?_concat_length, Option.some.injEq] at hk
          subst hk
          rw [← hdir, Kagi.segment, hlast]
          exact hext hturn pre ⟨hpre, hlen⟩
  · have hres := congrArg Kagi.result (kagiRun_same hturn)
    simp only at hres
    constructor
    · exact fun h => ⟨hleft h, fun ht => absurd ht hturn⟩
    · rintro ⟨h, -⟩ k seg hk pre hpre hlen
      have hkn := (List.getElem?_eq_some_iff.1 hk).1
      rcases prefix_concat_iff.1 hpre with rfl | hpre
      · omega
      · rw [hres] at hk
        exact h k seg hk pre hpre hlen

def Kagi.Forward (s : Kagi) : Prop := 0 ≤ (s.direction : ℚ) * (s.lastPrice - s.segmentStart)

theorem extremes_append (rest : List OHLCVBar) (hbest : BestClose amt first pre best) :
    (Extremes amt first (pre ++ rest) ∧ (kagiRun amt first (pre ++ rest)).Forward) ↔
      Extremes amt first pre ∧
        TurnsAtExtremes amt (kagiRun amt first pre).direction (kagiRun amt first pre).segmentStart
          best (kagiRun amt first pre).lastPrice (rest.map OHLCVBar.close) := by
  induction rest generalizing pre best with
  | nil => rw [append_nil, map_nil, TurnsAtExtremes, Kagi.Forward]
  | cons bar rest ih =>
    rw [← singleton_append, ← append_assoc, singleton_append, map_cons,
      TurnsAtExtremes]
    by_cases hturn : (kagiRun amt first pre).Turns amt bar
    · have hlt := hturn
      rw [Kagi.Turns] at hlt
      rw [ih (BestClose.turn hturn), extremes_concat, kagiRun_turn hturn, if_pos hlt,
        hbest.atExtreme_iff]
      simp only [hturn, true_imp_iff, Kagi.reverse, and_assoc]
    · have hge := hturn
      rw [Kagi.Turns] at hge
      rw [ih (hbest.same hturn), extremes_concat, kagiRun_same hturn, if_neg hge]
      simp only [hturn, false_imp_iff, and_true]

/-! ## The lines of a chart -/

theorem retraced {k : ℕ} {seg : BarDict} (h : (kagiRun amt first rest).result[k]? = some seg) :
    ∃ pre bar, pre ++ [bar] <+: rest ∧ (kagiRun amt first pre).result.length = k ∧
      lastClose first pre = seg.close ∧
      (turned 1 k : ℚ) * bar.close + amt ≤ turned 1 k * seg.close := by
  induction rest using List.reverseRecOn with
  | nil => exact absurd h (by simp [kagiRun, kagiStart])
  | append_singleton rest bar ih =>
    have hkeep : (kagiRun amt first rest).result[k]? = some seg →
        ∃ pre b, pre ++ [b] <+: rest ++ [bar] ∧ (kagiRun amt first pre).result.length = k ∧
          lastClose first pre = seg.close ∧
          (turned 1 k : ℚ) * b.close + amt ≤ turned 1 k * seg.close := by
      intro hk
      obtain ⟨pre, b, hpre, hrest⟩ := ih hk
      exact ⟨pre, b, hpre.trans (prefix_append _ _), hrest⟩
    by_cases hturn : (kagiRun amt first rest).Turns amt bar
    · have hkn := (List.getElem?_eq_some_iff.1 h).1
      rw [kagiRun_turn hturn] at h hkn
      simp only [Kagi.reverse, length_append, length_singleton] at h hkn
      rcases Nat.lt_or_ge k (kagiRun amt first rest).result.length with hlt | hge
      · rw [getElem?_append_left hlt] at h
        exact hkeep h
      · obtain rfl : k = (kagiRun amt first rest).result.length := by omega
        rw [getElem?_concat_length, Option.some.injEq] at h
        subst h
        refine ⟨rest, bar, prefix_rfl, rfl, (kagiRun_drawn amt first rest).lastPrice.symm, ?_⟩
        rw [Kagi.Turns] at hturn
        rw [← (kagiRun_drawn amt first rest).direction, Kagi.segment]
        linarith
    · rw [kagiRun_same hturn] at h
      exact hkeep h

theorem Extremes.alternates (hamt : 0 < amt) (h : Extremes amt first rest) :
    Alternates (fun d seg => 0 ≤ (d : ℚ) * (seg.close - seg.open_)) 1
        (kagiRun amt first rest).result ∧
      ∃ pre, OpenAt amt first rest pre ∧
        ((kagiRun amt first rest).direction : ℚ) * (kagiRun amt first rest).segmentStart ≤
          (kagiRun amt first rest).direction * lastClose first pre := by
  induction rest using List.reverseRecOn with
  | nil => exact ⟨trivial, [], ⟨prefix_rfl, rfl⟩, le_rfl⟩
  | append_singleton rest bar ih =>
    obtain ⟨h, hext⟩ := extremes_concat.1 h
    obtain ⟨halt, pre, ⟨hpre, hlen⟩, hstart⟩ := ih h
    by_cases hturn : (kagiRun amt first rest).Turns amt bar
    · have hmax := hext hturn pre ⟨hpre, hlen⟩
      rw [← (kagiRun_drawn amt first rest).lastPrice] at hmax
      have hlt := hturn
      rw [Kagi.Turns] at hlt
      rw [kagiRun_turn hturn]
      refine ⟨alternates_concat.2 ⟨halt, ?_⟩, _, ⟨prefix_rfl, by rw [kagiRun_turn hturn]⟩, ?_⟩
      · rw [← (kagiRun_drawn amt first rest).direction, Kagi.segment]
        linarith
      · rw [lastClose, lastStop_concat]
        simp only [Kagi.reverse, SignType.coe_neg, neg_mul]
        linarith
    · rw [kagiRun_same hturn]
      exact ⟨halt, pre, ⟨hpre.trans (prefix_append _ _), by rw [hlen, kagiRun_same hturn]⟩,
        hstart⟩

theorem BestClose.start (amt : ℚ) (first : OHLCVBar) : BestClose amt first [] first.close := by
  refine ⟨⟨[], ⟨prefix_rfl, rfl⟩, rfl⟩, ?_⟩
  rintro pre ⟨hpre, -⟩
  rw [prefix_nil.1 hpre]
  rfl

theorem extremes_nil : Extremes amt first [] := by
  intro k seg hk
  exact absurd hk (by simp [kagiRun, kagiStart])

theorem kagiLines_iff (hamt : 0 < kagiReversalAmt first.close reversalPct) :
    KagiLines first rest reversalPct ↔
      Extremes (kagiReversalAmt first.close reversalPct) first rest ∧
        (kagiRun (kagiReversalAmt first.close reversalPct) first rest).Forward := by
  have hdrawn := kagiRun_drawn (kagiReversalAmt first.close reversalPct) first rest
  constructor
  · intro h
    refine ⟨?_, ?_⟩
    · intro k seg hk pre hpre hlen
      have hlt := (List.getElem?_eq_some_iff.1 hk).1
      refine h.extreme k seg ?_ ?_ pre hpre ?_
      · rw [transformKagi_cons, getElem?_append_left hlt, hk]
      · rwa [openSegment_cons]
      · rw [openSegment_cons, hlen]
    · have := h.alternates
      rw [transformKagi_cons, alternates_concat, ← hdrawn.direction] at this
      exact this.2
  · rintro ⟨hext, hforward⟩
    constructor
    · rw [transformKagi_cons, connected_concat]
      exact ⟨hdrawn.connected, hdrawn.start⟩
    · rw [transformKagi_cons, alternates_concat, ← hdrawn.direction]
      exact ⟨(hext.alternates hamt).1, hforward⟩
    all_goals
      intro k seg hk hlt
      rw [openSegment_cons] at hlt
      rw [transformKagi_cons, getElem?_append_left hlt] at hk
    · intro pre hpre hlen
      rw [openSegment_cons] at hlen
      exact hext k seg hk pre hpre hlen
    · obtain ⟨pre, bar, hpre, hlen, hrest⟩ := retraced hk
      exact ⟨pre, bar, hpre, by rw [openSegment_cons, hlen], hrest⟩

/-- **Kagi lines.**  The segments are Kagi lines exactly where the closes turn at extremes
    only. -/
theorem transformKagi_lines (first : OHLCVBar) (rest : List OHLCVBar) (reversalPct : ℚ)
    (hamt : 0 < kagiReversalAmt first.close reversalPct) :
    KagiLines first rest reversalPct ↔
      TurnsAtExtremes (kagiReversalAmt first.close reversalPct) 1 first.close first.close
        first.close (rest.map OHLCVBar.close) := by
  have := extremes_append rest (BestClose.start (kagiReversalAmt first.close reversalPct) first)
  rw [nil_append] at this
  rw [kagiLines_iff hamt, this]
  exact and_iff_right extremes_nil

/-- Closes that rise and fall back at once are Kagi lines. -/
theorem transformKagi_lines_peak :
    KagiLines (closingAt 100) [closingAt 105, closingAt 102] 1 ↔
      TurnsAtExtremes (kagiReversalAmt 100 1) 1 100 100 100 [105, 102] :=
  transformKagi_lines (closingAt 100) [closingAt 105, closingAt 102] 1
    (by simp [kagiReversalAmt, closingAt])

/-- A drift of three halves in steps of a half is one segment that ends below its start. -/
theorem transformKagi_drift :
    ¬ KagiLines (closingAt 100) [closingAt (199 / 2), closingAt 99, closingAt (197 / 2)] 1 := by
  intro h
  have hlast := h.alternates
  rw [transformKagi_cons, alternates_concat] at hlast
  exact absurd hlast.2 (by decide +kernel)

end ChartingPlatform
