/-
  Renko bricks: `transform_renko` ends on every list of bars, with a gap-free chain.
-/
import ChartingPlatform.Charts.Transforms
import Mathlib.Algebra.Order.Floor.Semiring
import Mathlib.Tactic.Linarith
import Mathlib.Tactic.FieldSimp

namespace ChartingPlatform

open Lib List

/-! ## Bricks -/

variable {c b : ℚ} {s t : Renko} {bar : OHLCVBar} {bars : List OHLCVBar} {fuel : ℕ}

theorem renkoBrickSize_pos (c : ℚ) (size : Option ℚ) : 0 < renkoBrickSize c size :=
  sizeInUse_pos _ c size

/-- A brick of the grid: as high as the brick size, open and close at its two ends. -/
structure BarDict.IsBrick (c b : ℚ) (d : BarDict) : Prop where
  height : d.high - d.low = b
  ends : (d.open_ = d.low ∧ d.close = d.high) ∨ (d.open_ = d.high ∧ d.close = d.low)
  grid : ∃ k : ℤ, d.low = c + k * b

def lastBrickClose (c : ℚ) (bricks : List BarDict) : ℚ := lastStop BarDict.close c bricks

structure Renko.Laid (c b : ℚ) (s : Renko) : Prop where
  connected : Connected BarDict.open_ BarDict.close c s.result
  bricks : ∀ d ∈ s.result, d.IsBrick c b
  high : s.currentHigh = lastBrickClose c s.result + b
  low : s.currentLow = lastBrickClose c s.result - b
  grid : ∃ k : ℤ, lastBrickClose c s.result = c + k * b

theorem renkoStart_laid : (renkoStart c b).Laid c b where
  connected := trivial
  bricks d hd := absurd hd not_mem_nil
  high := rfl
  low := rfl
  grid := ⟨0, by simp [renkoStart, lastBrickClose]⟩

theorem Renko.Laid.concat {d : BarDict} (h : s.Laid c b) (hres : t.result = s.result ++ [d])
    (hd : d.IsBrick c b) (hopen : d.open_ = lastBrickClose c s.result)
    (hhigh : t.currentHigh = d.close + b) (hlow : t.currentLow = d.close - b)
    (hgrid : ∃ k : ℤ, d.close = c + k * b) : t.Laid c b := by
  have hlast : lastBrickClose c t.result = d.close := by
    rw [hres, lastBrickClose, lastStop_concat]
  constructor
  · rw [hres, connected_concat]
    exact ⟨h.connected, hopen⟩
  · intro e he
    rw [hres, mem_append, mem_singleton] at he
    rcases he with he | rfl
    · exact h.bricks e he
    · exact hd
  · rw [hlast, hhigh]
  · rw [hlast, hlow]
  · rwa [hlast]

/-- **One round** lays a brick towards the close of the bar. -/
theorem renkoRound_laid (hb : 0 < b) (h : s.Laid c b) (hround : renkoRound b bar s = some t) :
    t.Laid c b ∧ s.result <+: t.result ∧
      |bar.close - lastBrickClose c t.result| + b = |bar.close - lastBrickClose c s.result| := by
  have hhigh := h.high
  have hlow := h.low
  obtain ⟨k, hk⟩ := h.grid
  rw [renkoRound] at hround
  split at hround
  case isTrue hup =>
    obtain rfl := Option.some.inj hround
    refine ⟨h.concat rfl ⟨?_, .inl ⟨rfl, rfl⟩, k, ?_⟩ ?_ rfl rfl ⟨k + 1, ?_⟩,
      prefix_append _ _, ?_⟩
    · simp
    · simp only
      rw [hhigh, hk]
      ring
    · simp only
      rw [hhigh]
      ring
    · simp only
      rw [hhigh, hk]
      push_cast
      ring
    · simp only [lastBrickClose, lastStop_concat]
      rw [lastBrickClose] at hhigh
      rw [abs_of_nonneg (by linarith), abs_of_nonneg (by linarith)]
      linarith
  case isFalse hup =>
    split at hround
    case isFalse => exact absurd hround (by simp)
    case isTrue hdown =>
      obtain rfl := Option.some.inj hround
      refine ⟨h.concat rfl ⟨?_, .inr ⟨rfl, rfl⟩, k - 1, ?_⟩ ?_ rfl rfl ⟨k - 1, ?_⟩,
        prefix_append _ _, ?_⟩
      · simp
      · simp only
        rw [hlow, hk]
        push_cast
        ring
      · simp only
        rw [hlow]
        ring
      · simp only
        rw [hlow, hk]
        push_cast
        ring
      · simp only [lastBrickClose, lastStop_concat]
        rw [lastBrickClose] at hlow
        rw [abs_of_nonpos (by linarith), abs_of_nonpos (by linarith)]
        linarith

theorem renkoRound_eq_none (h : s.Laid c b) (hround : renkoRound b bar s = none) :
    |bar.close - lastBrickClose c s.result| < b := by
  rw [renkoRound] at hround
  split at hround
  case isTrue => exact absurd hround (by simp)
  case isFalse hup =>
    split at hround
    case isTrue => exact absurd hround (by simp)
    case isFalse hdown =>
      rw [h.high, not_le] at hup
      rw [h.low, not_le] at hdown
      rw [abs_lt]
      constructor <;> linarith

/-! ## Bars -/

theorem renkoBar_laid (hb : 0 < b) (h : s.Laid c b)
    (hloop : loop (renkoRound b bar) fuel s = some t) :
    t.Laid c b ∧ s.result <+: t.result ∧ |bar.close - lastBrickClose c t.result| < b := by
  have hround : ∀ u v, (u.Laid c b ∧ s.result <+: u.result) → renkoRound b bar u = some v →
      v.Laid c b ∧ s.result <+: v.result := by
    rintro u v ⟨hu, hpre⟩ huv
    obtain ⟨hv, huv, -⟩ := renkoRound_laid hb hu huv
    exact ⟨hv, hpre.trans huv⟩
  obtain ⟨⟨ht, hpre⟩, hnone⟩ := loop_spec hround ⟨h, prefix_rfl⟩ hloop
  exact ⟨ht, hpre, renkoRound_eq_none ht hnone⟩

def bricksLeft (c b : ℚ) (bar : OHLCVBar) (s : Renko) : ℕ :=
  ⌊|bar.close - lastBrickClose c s.result| / b⌋₊

theorem bricksLeft_lt (hb : 0 < b) (h : s.Laid c b) (hround : renkoRound b bar s = some t) :
    bricksLeft c b bar t < bricksLeft c b bar s := by
  obtain ⟨-, -, habs⟩ := renkoRound_laid hb h hround
  have hdiv : |bar.close - lastBrickClose c s.result| / b =
      |bar.close - lastBrickClose c t.result| / b + 1 := by
    rw [← habs]
    field_simp
  rw [bricksLeft, bricksLeft, hdiv, Nat.floor_add_one (by positivity)]
  exact Nat.lt_succ_self _

theorem renkoBar_total (bar : OHLCVBar) (hb : 0 < b) (h : s.Laid c b) :
    ∃ n t, ∀ fuel, n ≤ fuel → loop (renkoRound b bar) fuel s = some t := by
  obtain ⟨t, ht⟩ := loop_total (bricksLeft c b bar)
    (fun u v hu huv => ⟨(renkoRound_laid hb hu huv).1, bricksLeft_lt hb hu huv⟩) h
    (Nat.lt_succ_self (bricksLeft c b bar s))
  exact ⟨_, t, fun fuel hfuel => loop_mono hfuel ht⟩

theorem renkoBars_append {post : List OHLCVBar} :
    renkoBars fuel b s (bars ++ post) =
      (renkoBars fuel b s bars).bind fun u => renkoBars fuel b u post :=
  foldlM_append

theorem renkoBars_laid (hb : 0 < b) (h : s.Laid c b) (hrun : renkoBars fuel b s bars = some t) :
    t.Laid c b ∧ s.result <+: t.result ∧
      ∀ bar ∈ bars.getLast?, |bar.close - lastBrickClose c t.result| < b := by
  induction bars using List.reverseRecOn generalizing t with
  | nil =>
    obtain rfl : s = t := Option.some.inj hrun
    exact ⟨h, prefix_rfl, by simp⟩
  | append_singleton bars bar ih =>
    rw [renkoBars_append, Option.bind_eq_some_iff] at hrun
    obtain ⟨u, hu, hbar⟩ := hrun
    simp only [renkoBars, foldlM_cons, foldlM_nil, bind_pure] at hbar
    obtain ⟨hu, hpre, -⟩ := ih hu
    obtain ⟨ht, hut, hwithin⟩ := renkoBar_laid hb hu hbar
    refine ⟨ht, hpre.trans hut, ?_⟩
    intro last hlast
    rw [getLast?_concat, Option.mem_some_iff] at hlast
    rwa [← hlast]

theorem renkoBars_total (hb : 0 < b) (h : s.Laid c b) (bars : List OHLCVBar) :
    ∃ n t, ∀ fuel, n ≤ fuel → renkoBars fuel b s bars = some t := by
  induction bars generalizing s with
  | nil => exact ⟨0, s, fun _ _ => rfl⟩
  | cons bar bars ih =>
    obtain ⟨n, u, hn⟩ := renkoBar_total bar hb h
    obtain ⟨hu, -⟩ := renkoBar_laid hb h (hn n le_rfl)
    obtain ⟨m, t, hm⟩ := ih hu
    refine ⟨max n m, t, ?_⟩
    intro fuel hfuel
    rw [renkoBars, foldlM_cons, hn fuel (le_trans (le_max_left _ _) hfuel)]
    exact hm fuel (le_trans (le_max_right _ _) hfuel)

/-- **Renko bricks.**  The transform ends on every list of bars.  Its bricks are of the brick
    size, on the grid of the first close, each from the close of the one before; and after
    each bar the bricks so far end within one brick of its close. -/
theorem transformRenko_bricks (bars : List OHLCVBar) (size : Option ℚ) :
    ∃ n bricks, ∀ fuel, n ≤ fuel → transformRenko fuel bars size = some bricks ∧
      ∀ first ∈ bars.head?, ∀ b, b = renkoBrickSize first.close size →
        0 < b ∧ (∀ d ∈ bricks, d.IsBrick first.close b) ∧
        Connected BarDict.open_ BarDict.close first.close bricks ∧
        ∀ pre bar post, bars = pre ++ bar :: post →
          ∃ laid, transformRenko fuel (pre ++ [bar]) size = some laid ∧ laid <+: bricks ∧
            |bar.close - lastBrickClose first.close laid| < b := by
  cases bars with
  | nil => exact ⟨0, [], fun fuel _ => ⟨rfl, fun first h => absurd h (by simp)⟩⟩
  | cons first rest =>
    have hb := renkoBrickSize_pos first.close size
    obtain ⟨n, t, hn⟩ := renkoBars_total hb renkoStart_laid (first :: rest)
    refine ⟨n, t.result, ?_⟩
    intro fuel hfuel
    have hrun := hn fuel hfuel
    refine ⟨by rw [transformRenko, hrun, Option.map_some], ?_⟩
    rintro head hhead b rfl
    obtain rfl : first = head := by simpa using hhead
    obtain ⟨ht, -⟩ := renkoBars_laid hb renkoStart_laid hrun
    refine ⟨hb, ht.bricks, ht.connected, ?_⟩
    intro pre bar post hsplit
    -- the bars up to this one are a run that the rest continues
    rw [hsplit, ← singleton_append, ← append_assoc, renkoBars_append,
      Option.bind_eq_some_iff] at hrun
    obtain ⟨u, hu, hpost⟩ := hrun
    obtain ⟨hu', -, hwithin⟩ := renkoBars_laid hb renkoStart_laid hu
    obtain ⟨-, hpre, -⟩ := renkoBars_laid hb hu' hpost
    refine ⟨u.result, ?_, hpre, hwithin bar (by simp)⟩
    cases pre with
    | nil =>
      obtain ⟨rfl, -⟩ := List.cons.inj hsplit
      rw [nil_append] at hu ⊢
      rw [transformRenko, hu, Option.map_some]
    | cons head pre =>
      obtain ⟨rfl, -⟩ := List.cons.inj hsplit
      rw [cons_append] at hu ⊢
      rw [transformRenko, hu, Option.map_some]

end ChartingPlatform
