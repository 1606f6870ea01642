/-
  Point-and-figure columns: `transform_point_figure`.

  The bars after the first fall into a run in which the first box is not left and one run
  for each column.
-/
import ChartingPlatform.Charts.Transforms
import Mathlib.Tactic.Linarith
import Mathlib.Tactic.FieldSimp

namespace ChartingPlatform

open Lib List

variable {box c : ℚ} {reversal : ℤ} {s : PointFigure} {bar : OHLCVBar}
  {idle span rest : List OHLCVBar} {seen : List (OHLCVBar × ℕ)} {first : OHLCVBar}
  {size : Option ℚ}

/-! ## Columns -/

structure IsColumn (box : ℚ) (d : SignType) (start stop : ℚ) (span : List OHLCVBar) : Prop where
  goes : 0 < (d : ℚ) * (stop - start)
  grid : ∃ m n : ℤ, start = m * box ∧ stop = n * box
  extreme : ∀ bar ∈ span, (d : ℚ) * floorBox box bar.close ≤ d * stop
  reached : ∃ bar ∈ span, floorBox box bar.close = stop

abbrev Drawn : Type := BarDict × List OHLCVBar

/-- Columns from a first price: one goes up and the next down, each from where the one
    before ended, and only the first may be shorter than a reversal. -/
structure Columns (box : ℚ) (reversal : ℤ) (c : ℚ) (d : SignType) (drawn : List Drawn) :
    Prop where
  alternates :
    Alternates (fun d (p : Drawn) => IsColumn box d p.1.open_ p.1.close p.2) d drawn
  connected : Connected (fun p : Drawn => p.1.open_) (fun p => p.1.close) c drawn
  spans : ∀ p ∈ drawn.tail, reversal * box ≤ |p.1.close - p.1.open_|

theorem Columns.nil : Columns box reversal c d [] where
  alternates := trivial
  connected := trivial
  spans _ hp := absurd hp not_mem_nil

theorem Columns.concat {drawn : List Drawn} {p : Drawn} (h : Columns box reversal c d drawn)
    (hp : IsColumn box (turned d drawn.length) p.1.open_ p.1.close p.2)
    (hopen : p.1.open_ = lastStop (fun p : Drawn => p.1.close) c drawn)
    (hspan : drawn ≠ [] → reversal * box ≤ |p.1.close - p.1.open_|) :
    Columns box reversal c d (drawn ++ [p]) where
  alternates := alternates_concat.2 ⟨h.alternates, hp⟩
  connected := (connected_concat _ _).2 ⟨h.connected, hopen⟩
  spans q hq := by
    rcases eq_or_ne drawn [] with rfl | hne
    · exact absurd hq (by simp)
    · rw [tail_append_of_ne_nil hne, mem_append, mem_singleton] at hq
      rcases hq with hq | rfl
      · exact h.spans q hq
      · exact hspan hne

/-! ## What has been drawn -/

/-- The bars after the first, each with the number of columns that are drawn when it has been
    seen. -/
def seenBars (first : OHLCVBar) (rest : List OHLCVBar) (size : Option ℚ) (reversal : ℤ) :
    List (OHLCVBar × ℕ) :=
  rest.zipIdx.map fun p =>
    (p.1, (transformPointFigure (first :: rest.take (p.2 + 1)) size reversal).length)

/-- Bars before the first column, and then the bars that each column was open for. -/
def spans (idle : List OHLCVBar) (drawn : List Drawn) : List (OHLCVBar × ℕ) :=
  idle.map (·, 0) ++ drawn.zipIdx.flatMap fun q => q.1.2.map (·, q.2 + 1)

theorem spans_concat (idle : List OHLCVBar) (drawn : List Drawn) (p : Drawn) :
    spans idle (drawn ++ [p]) = spans idle drawn ++ p.2.map (·, drawn.length + 1) := by
  simp [spans, zipIdx_append]

theorem seenBars_concat (rest : List OHLCVBar) (bar : OHLCVBar) :
    seenBars first (rest ++ [bar]) size reversal = seenBars first rest size reversal ++
      [(bar, (transformPointFigure (first :: (rest ++ [bar])) size reversal).length)] := by
  have hpre : ∀ p ∈ rest.zipIdx, (rest ++ [bar]).take (p.2 + 1) = rest.take (p.2 + 1) := by
    intro p hp
    have := snd_lt_of_mem_zipIdx hp
    exact take_append_of_le_length (by omega)
  unfold seenBars
  rw [zipIdx_append, map_append]
  refine congrArg₂ (· ++ ·) (map_congr_left fun p hp => by rw [hpre p hp]) ?_
  rw [zipIdx_singleton, map_cons, map_nil, zero_add,
    take_of_length_le (by simp)]

/-- The number of columns drawn in a state. -/
def PointFigure.drawn (s : PointFigure) : ℕ :=
  s.result.length + if s.direction = 0 then 0 else 1

theorem length_transformPointFigure : (transformPointFigure (first :: rest) size reversal).length =
    (rest.foldl (pointFigureBar (pointFigureBoxSize first.close size) reversal)
      (pointFigureStart (pointFigureBoxSize first.close size) first)).drawn := by
  simp only [transformPointFigure, PointFigure.drawn, length_append]
  split <;> rfl

/-! ## Boxes -/

theorem floorBox_grid (box price : ℚ) : ∃ n : ℤ, floorBox box price = n * box := ⟨_, rfl⟩

theorem boxes_mul (bar : OHLCVBar) (hbox : 0 < box) (hs : ∃ n : ℤ, s.currentPrice = n * box) :
    (roundHalfEven ((floorBox box bar.close - s.currentPrice) / box) : ℚ) * box =
      floorBox box bar.close - s.currentPrice := by
  obtain ⟨n, hn⟩ := hs
  have hdiv : (floorBox box bar.close - s.currentPrice) / box =
      ((⌊bar.close / box⌋ - n : ℤ) : ℚ) := by
    rw [hn, floorBox]
    push_cast
    field_simp
  rw [hdiv, roundHalfEven_intCast, ← hdiv, div_mul_cancel₀ _ hbox.ne']

/-! ## Bars -/

/-- The state in the middle of a column: the columns before it, and its own bars. -/
structure PointFigure.Open (box : ℚ) (reversal : ℤ) (c : ℚ) (seen : List (OHLCVBar × ℕ))
    (s : PointFigure) (d : SignType) (idle : List OHLCVBar) (closed : List Drawn)
    (span : List OHLCVBar) : Prop where
  result : s.result = closed.map Prod.fst
  bars : seen = spans idle closed ++ span.map (·, closed.length + 1)
  idled : ∀ bar ∈ idle, floorBox box bar.close = c
  columns : Columns box reversal c d closed
  direction : s.direction = turned d closed.length
  column : IsColumn box s.direction s.columnStart s.currentPrice span
  start : s.columnStart = lastStop (fun p : Drawn => p.1.close) c closed
  wide : closed ≠ [] → reversal * box ≤ |s.currentPrice - s.columnStart|

variable {d : SignType} {closed : List Drawn}

theorem IsColumn.direction {e : SignType} {start stop : ℚ} (h : IsColumn box e start stop span) :
    e = 1 ∨ e = -1 := by
  have := h.goes
  rcases SignType.trichotomy e with he | he | he
  · exact .inr he
  · subst he
    simp at this
  · exact .inl he

theorem PointFigure.Open.drawn_eq (h : s.Open box reversal c seen d idle closed span) :
    s.drawn = closed.length + 1 := by
  have hne : s.direction ≠ 0 := by
    intro hzero
    rcases h.column.direction with he | he <;> simp [hzero] at he
  rw [PointFigure.drawn, if_neg hne, h.result, length_map]

theorem PointFigure.Open.stay (bar : OHLCVBar) (h : s.Open box reversal c seen d idle closed span)
    (hle : (s.direction : ℚ) * floorBox box bar.close ≤ s.direction * s.currentPrice) :
    s.Open box reversal c (seen ++ [(bar, closed.length + 1)]) d idle closed (span ++ [bar]) where
  result := h.result
  bars := by rw [h.bars, map_append, append_assoc]; rfl
  idled := h.idled
  columns := h.columns
  direction := h.direction
  column := {
    goes := h.column.goes
    grid := h.column.grid
    extreme := by
      intro b hb
      rcases mem_append.1 hb with hb | hb
      · exact h.column.extreme b hb
      · rwa [mem_singleton.1 hb]
    reached := by
      obtain ⟨b, hb, hstop⟩ := h.column.reached
      exact ⟨b, mem_append_left _ hb, hstop⟩ }
  start := h.start
  wide := h.wide

theorem PointFigure.Open.extend (bar : OHLCVBar) (h : s.Open box reversal c seen d idle closed span)
    (hlt : 0 < (s.direction : ℚ) * (floorBox box bar.close - s.currentPrice)) :
    ({ s with currentPrice := floorBox box bar.close } : PointFigure).Open box reversal c
      (seen ++ [(bar, closed.length + 1)]) d idle closed (span ++ [bar]) := by
  have hgoes := h.column.goes
  obtain ⟨m, -, hm, -⟩ := h.column.grid
  refine ⟨h.result, by rw [h.bars, map_append, append_assoc]; rfl, h.idled, h.columns,
    h.direction, ⟨?_, ⟨m, _, hm, rfl⟩, ?_, ⟨bar, by simp, rfl⟩⟩, h.start, ?_⟩
  · linarith
  · intro b hb
    rcases mem_append.1 hb with hb | hb
    · have := h.column.extreme b hb
      linarith
    · rw [mem_singleton.1 hb]
  · intro hne
    refine (h.wide hne).trans ?_
    rcases h.column.direction with he | he
    all_goals
      rw [he] at hlt hgoes
      simp only [SignType.coe_one, SignType.coe_neg, one_mul, neg_mul] at hlt hgoes
    · rw [abs_of_pos hgoes]
      exact le_abs.2 (.inl (by simp only; linarith))
    · rw [abs_of_neg (by linarith)]
      exact le_abs.2 (.inr (by simp only; linarith))

theorem PointFigure.Open.turn (bar : OHLCVBar) (hbox : 0 < box) (hrev : 1 ≤ reversal)
    (h : s.Open box reversal c seen d idle closed span)
    (hle : reversal * box ≤ -s.direction * (floorBox box bar.close - s.currentPrice)) :
    ((s.record bar).begin bar (floorBox box bar.close) (-s.direction)).Open box reversal c
      (seen ++ [(bar, (closed ++ [(s.column bar.vol bar.isAdjusted, span)]).length + 1)]) d idle
      (closed ++ [(s.column bar.vol bar.isAdjusted, span)]) [bar] := by
  have hpos : 0 < reversal * box := by
    have : (1 : ℚ) ≤ reversal := by exact_mod_cast hrev
    positivity
  obtain ⟨-, n, -, hn⟩ := h.column.grid
  have hcolumn : IsColumn box (turned d closed.length) s.columnStart s.currentPrice span := by
    rw [← h.direction]
    exact h.column
  refine ⟨?_, ?_, h.idled, h.columns.concat hcolumn h.start h.wide, ?_,
    ⟨?_, ⟨n, _, hn, rfl⟩, ?_, ⟨bar, by simp, rfl⟩⟩, ?_, ?_⟩
  · simp [PointFigure.begin, PointFigure.record, h.result]
  · rw [h.bars, spans_concat]
    rfl
  · rw [length_append, length_singleton, turned_succ, ← h.direction]
    rfl
  · simp only [PointFigure.begin, PointFigure.record, SignType.coe_neg]
    linarith
  · intro b hb
    rw [mem_singleton.1 hb]
    rfl
  · rw [lastStop_concat]
    rfl
  · intro _
    refine hle.trans ?_
    rcases h.column.direction with he | he
    · rw [he]
      exact le_abs.2 (.inr (by simp [PointFigure.begin, PointFigure.record]))
    · rw [he]
      exact le_abs.2 (.inl (by simp [PointFigure.begin, PointFigure.record]))

structure PointFigure.Idle (box c : ℚ) (seen : List (OHLCVBar × ℕ)) (s : PointFigure)
    (idle : List OHLCVBar) : Prop where
  result : s.result = []
  bars : seen = idle.map (·, 0)
  direction : s.direction = 0
  price : s.currentPrice = c
  idled : ∀ bar ∈ idle, floorBox box bar.close = c

def PointFigure.Drawing (box : ℚ) (reversal : ℤ) (c : ℚ) (seen : List (OHLCVBar × ℕ))
    (s : PointFigure) : Prop :=
  (∃ idle, s.Idle box c seen idle) ∨
    ∃ d idle closed span, s.Open box reversal c seen d idle closed span

theorem PointFigure.Open.drawing
    (h : s.Open box reversal c (seen ++ [(bar, closed.length + 1)]) d idle closed span) :
    s.Drawing box reversal c (seen ++ [(bar, s.drawn)]) := by
  rw [h.drawn_eq]
  exact .inr ⟨d, idle, closed, span, h⟩

theorem PointFigure.Idle.begin (h : s.Idle box c seen idle) {e : SignType}
    (hc : ∃ n : ℤ, c = n * box) (hlt : 0 < (e : ℚ) * (floorBox box bar.close - s.currentPrice)) :
    (s.begin bar (floorBox box bar.close) e).Open box reversal c
      (seen ++ [(bar, ([] : List Drawn).length + 1)]) e idle [] [bar] where
  result := h.result
  bars := by
    rw [h.bars]
    simp [spans]
  idled := h.idled
  columns := Columns.nil
  direction := rfl
  column := {
    goes := hlt
    grid := by
      obtain ⟨n, hn⟩ := hc
      exact ⟨n, _, h.price.trans hn, rfl⟩
    extreme := by
      intro b hb
      rw [mem_singleton.1 hb]
      rfl
    reached := ⟨bar, mem_singleton_self bar, rfl⟩ }
  start := h.price
  wide hne := absurd rfl hne

theorem pointFigureBar_drawing (hbox : 0 < box) (hrev : 1 ≤ reversal)
    (hc : ∃ n : ℤ, c = n * box) (h : s.Drawing box reversal c seen) :
    (pointFigureBar box reversal s bar).Drawing box reversal c
      (seen ++ [(bar, (pointFigureBar box reversal s bar).drawn)]) := by
  rcases h with ⟨idle, h⟩ | ⟨d, idle, closed, span, h⟩
  · obtain ⟨n, hn⟩ := hc
    have hboxes := boxes_mul bar hbox ⟨n, h.price.trans hn⟩
    rw [pointFigureBar, h.direction]
    simp only
    set boxes := roundHalfEven ((floorBox box bar.close - s.currentPrice) / box)
    split
    case isTrue hup =>
      have hup : (1 : ℚ) ≤ boxes := by exact_mod_cast hup
      refine (h.begin ⟨n, hn⟩ ?_).drawing
      rw [SignType.coe_one, one_mul, ← hboxes]
      positivity
    case isFalse hup =>
      split
      case isTrue hdown =>
        have hdown : (boxes : ℚ) ≤ -1 := by exact_mod_cast hdown
        refine (h.begin ⟨n, hn⟩ ?_).drawing
        rw [SignType.coe_neg, SignType.coe_one, neg_one_mul, ← hboxes]
        nlinarith
      case isFalse hdown =>
        -- no box is left: the bar's price is in the first one
        have hzero : boxes = 0 := by omega
        rw [hzero, Int.cast_zero, zero_mul, h.price] at hboxes
        refine .inl ⟨idle ++ [bar], h.result, ?_, h.direction, h.price, ?_⟩
        · rw [h.bars, PointFigure.drawn, h.result, h.direction, map_append]
          rfl
        intro b hb
        rcases mem_append.1 hb with hb | hb
        · exact h.idled b hb
        · rw [mem_singleton.1 hb]
          linarith
  · obtain ⟨-, n, -, hn⟩ := h.column.grid
    have hboxes := boxes_mul bar hbox ⟨n, hn⟩
    have hstay := h.stay bar
    have hextend := h.extend bar
    have hturn := h.turn bar hbox hrev
    rcases h.column.direction with he | he
    all_goals
      rw [he] at hstay hextend hturn
      rw [pointFigureBar, he]
      simp only [SignType.coe_one, SignType.coe_neg, neg_neg, one_mul, neg_mul] at *
      set boxes := roundHalfEven ((floorBox box bar.close - s.currentPrice) / box)
    · split
      case isTrue hup =>
        have hup : (1 : ℚ) ≤ boxes := by exact_mod_cast hup
        refine (hextend ?_).drawing
        rw [← hboxes]
        positivity
      case isFalse hup =>
        split
        case isTrue hdown =>
          have hdown : (boxes : ℚ) ≤ -reversal := by exact_mod_cast hdown
          refine (hturn ?_).drawing
          nlinarith
        case isFalse hdown =>
          have hup : (boxes : ℚ) ≤ 0 := by exact_mod_cast (by omega : boxes ≤ 0)
          refine (hstay ?_).drawing
          nlinarith
    · split
      case isTrue hdown =>
        have hdown : (boxes : ℚ) ≤ -1 := by exact_mod_cast hdown
        refine (hextend ?_).drawing
        nlinarith
      case isFalse hdown =>
        split
        case isTrue hup =>
          have hup : (reversal : ℚ) ≤ boxes := by exact_mod_cast hup
          refine (hturn ?_).drawing
          nlinarith
        case isFalse hup =>
          have hdown : (0 : ℚ) ≤ boxes := by exact_mod_cast (by omega : 0 ≤ boxes)
          refine (hstay ?_).drawing
          nlinarith

theorem pointFigureBars_drawing (hrev : 1 ≤ reversal) (first : OHLCVBar) (size : Option ℚ)
    (rest : List OHLCVBar) :
    (rest.foldl (pointFigureBar (pointFigureBoxSize first.close size) reversal)
      (pointFigureStart (pointFigureBoxSize first.close size) first)).Drawing
      (pointFigureBoxSize first.close size) reversal
      (floorBox (pointFigureBoxSize first.close size) first.close)
      (seenBars first rest size reversal) := by
  induction rest using List.reverseRecOn with
  | nil => exact .inl ⟨[], rfl, rfl, rfl, rfl, fun _ hb => absurd hb not_mem_nil⟩
  | append_singleton rest bar ih =>
    rw [seenBars_concat, length_transformPointFigure, foldl_append]
    exact pointFigureBar_drawing (sizeInUse_pos _ _ _) hrev (floorBox_grid _ _) ih

/-- **Point-and-figure columns.**  The bars after the first are those in its box, while no column
    is drawn, and then for one column after the other the bars it is the last one drawn for; the
    columns are in alternating directions, on the grid and connected, each ends at the extreme
    box of its bars, and each one after the first spans a reversal. -/
theorem transformPointFigure_columns (first : OHLCVBar) (rest : List OHLCVBar) (size : Option ℚ)
    (reversal : ℤ) (hrev : 1 ≤ reversal) :
    transformPointFigure [] size reversal = [] ∧
    ∃ d idle drawn, transformPointFigure (first :: rest) size reversal = drawn.map Prod.fst ∧
      seenBars first rest size reversal = spans idle drawn ∧
      0 < pointFigureBoxSize first.close size ∧
      (∀ bar ∈ idle, floorBox (pointFigureBoxSize first.close size) bar.close =
        floorBox (pointFigureBoxSize first.close size) first.close) ∧
      Columns (pointFigureBoxSize first.close size) reversal
        (floorBox (pointFigureBoxSize first.close size) first.close) d drawn := by
  have hbox : 0 < pointFigureBoxSize first.close size := sizeInUse_pos _ _ _
  refine ⟨rfl, ?_⟩
  simp only [transformPointFigure]
  rcases pointFigureBars_drawing hrev first size rest with
    ⟨idle, h⟩ | ⟨d, idle, closed, span, h⟩
  · refine ⟨1, idle, [], ?_, ?_, hbox, h.idled, Columns.nil⟩
    · rw [h.result, if_pos h.direction]
      rfl
    · rw [h.bars]
      simp [spans]
  · set s := rest.foldl (pointFigureBar (pointFigureBoxSize first.close size) reversal)
      (pointFigureStart (pointFigureBoxSize first.close size) first)
    have hne : s.direction ≠ 0 := by
      intro hzero
      rcases h.column.direction with he | he <;> simp [hzero] at he
    refine ⟨d, idle, closed ++ [(s.column 0 false, span)], ?_, ?_, hbox, h.idled,
      h.columns.concat ?_ h.start h.wide⟩
    · rw [h.result, if_neg hne, map_append]
      rfl
    · rw [h.bars, spans_concat]
    · rw [← h.direction]
      exact h.column

/-- Three boxes up, one more, and three down. -/
theorem transformPointFigure_columns_three :
    seenBars (closingAt 10) [closingAt 13, closingAt 14, closingAt 11] (some 1) 3 =
        [(closingAt 13, 1), (closingAt 14, 1), (closingAt 11, 2)] ∧
      ∃ d idle drawn, transformPointFigure
          [closingAt 10, closingAt 13, closingAt 14, closingAt 11] (some 1) 3 =
          drawn.map Prod.fst ∧
        seenBars (closingAt 10) [closingAt 13, closingAt 14, closingAt 11] (some 1) 3 =
          spans idle drawn ∧
        0 < pointFigureBoxSize (closingAt 10).close (some 1) ∧
        (∀ bar ∈ idle, floorBox (pointFigureBoxSize (closingAt 10).close (some 1)) bar.close =
          floorBox (pointFigureBoxSize (closingAt 10).close (some 1)) (closingAt 10).close) ∧
        Columns (pointFigureBoxSize (closingAt 10).close (some 1)) 3
          (floorBox (pointFigureBoxSize (closingAt 10).close (some 1)) (closingAt 10).close) d
          drawn :=
  ⟨by decide +kernel,
    (transformPointFigure_columns (closingAt 10) _ (some 1) 3 (by decide)).2⟩

end ChartingPlatform
