/-
  Rolling bars up to a coarser timeframe (`bar_aggregation.py`, `aggregate_bars`).

  Prices and volumes are the exact values of their decimals; sums of volumes are rounded in
  the decimal context.
-/
import ChartingPlatform.Bars.Buckets
import ChartingPlatform.Lib.DecimalContexts
import ChartingPlatform.Lib.RollUps

namespace ChartingPlatform

open Lib List

/-! ## Rows -/

/-- What a bar says beside its time, session and volume. -/
structure Quote where
  open_ : ℚ
  high : ℚ
  low : ℚ
  close : ℚ
  isAdjusted : Bool
  adjustmentBasis : String
  adjustmentVersion : String
  deriving DecidableEq

/-- A bar, as far as `aggregate_bars` reads it. -/
structure SourceBar extends Quote where
  ts : Instant
  session : String
  volume : Option ℚ
  deriving DecidableEq

/-- A row of `aggregate_bars`, with the two entries of its provenance. -/
structure AggregatedBar extends SourceBar where
  vwap : Option ℚ := none
  derivedFrom : ℕ
  aggregation : Timeframe
  deriving DecidableEq

/-- The key of `grouped`: the start of the bucket, and the session. -/
abbrev BucketKey := Instant ×ₗ String

def bucketKey (target : Timeframe) (bar : SourceBar) : BucketKey :=
  toLex (bucketTimestamp target bar.ts, bar.session)

/-- `sum(volumes, Decimal("0"))`, where there are any. -/
def totalVolume (round : Arithmetic) (rows : List SourceBar) : Except PyError (Option ℚ) :=
  let volumes := rows.filterMap (·.volume)
  if volumes = [] then .ok none
  else (volumes.foldlM (fun total value => round (total + value)) 0).map some

def aggregateGroup (round : Arithmetic) (target : Timeframe) (g : BucketKey × List SourceBar) :
    Except PyError AggregatedBar :=
  match g.2 with
  -- no group is empty
  | [] => .error (valueError "list index out of range")
  | first :: rest =>
    let last := rest.getLastD first
    (totalVolume round (first :: rest)).map fun volume =>
      { ts := (ofLex g.1).1
        session := (ofLex g.1).2
        open_ := first.open_
        high := (rest.map (·.high)).foldl max first.high
        low := (rest.map (·.low)).foldl min first.low
        close := last.close
        volume := volume
        isAdjusted := last.isAdjusted
        adjustmentBasis := last.adjustmentBasis
        adjustmentVersion := last.adjustmentVersion
        derivedFrom := rest.length + 1
        aggregation := target }

/-- `aggregate_bars`. -/
def aggregateBars (round : Arithmetic) (bars : List SourceBar) (target : Timeframe) :
    Except PyError (List AggregatedBar) :=
  collect ((sortedGroups (·.ts) (bucketKey target) bars).map (aggregateGroup round target))

/-! ## Joining quotes -/

def Quote.join (q q' : Quote) : Quote :=
  { q' with open_ := q.open_, high := max q.high q'.high, low := min q.low q'.low }

instance : Std.Associative Quote.join where
  assoc a b c := by simp [Quote.join, max_assoc, min_assoc]

theorem foldl_join (first : Quote) (rest : List Quote) :
    rest.foldl Quote.join first =
      { open_ := first.open_
        high := (rest.map (·.high)).foldl max first.high
        low := (rest.map (·.low)).foldl min first.low
        close := (rest.getLastD first).close
        isAdjusted := (rest.getLastD first).isAdjusted
        adjustmentBasis := (rest.getLastD first).adjustmentBasis
        adjustmentVersion := (rest.getLastD first).adjustmentVersion } := by
  induction rest generalizing first with
  | nil => rfl
  | cons q rest ih =>
    rw [foldl_cons, ih]
    cases rest with
    | nil | cons q' rest => rfl

section
variable {round : Arithmetic} {target fine coarse : Timeframe} {g : BucketKey × List SourceBar}
  {row : AggregatedBar} {bars rows : List SourceBar} {k : BucketKey} {out : List AggregatedBar}
  {bar : SourceBar} {fineRows : List AggregatedBar}

/-- **The row of a bucket**: the key, the quotes joined, and the volume. -/
theorem aggregateGroup_eq_ok : aggregateGroup round target g = .ok row ↔
    ∃ quote volume, joined Quote.join (g.2.map (·.toQuote)) = some quote ∧
      totalVolume round g.2 = .ok volume ∧
      row = { quote with
        ts := (ofLex g.1).1, session := (ofLex g.1).2, volume := volume,
        derivedFrom := g.2.length, aggregation := target } := by
  obtain ⟨k, rows⟩ := g
  cases rows with
  | nil => simp [aggregateGroup, joined]
  | cons first rest =>
    have hlast : (rest.map (·.toQuote)).getLastD first.toQuote = (rest.getLastD first).toQuote :=
      getLastD_map
    unfold aggregateGroup
    dsimp only
    rw [map_eq_ok, map_cons]
    constructor
    · rintro ⟨volume, hvolume, rfl⟩
      refine ⟨_, volume, rfl, hvolume, ?_⟩
      rw [foldl_join, hlast, map_map, map_map]
      rfl
    · rintro ⟨quote, volume, hquote, hvolume, rfl⟩
      refine ⟨volume, hvolume, ?_⟩
      obtain rfl := Option.some.inj hquote
      rw [foldl_join, hlast, map_map, map_map]
      rfl

theorem aggregateBars_eq_ok :
    aggregateBars round bars target = .ok out ↔
      (sortedGroups (·.ts) (bucketKey target) bars).map (aggregateGroup round target) =
        out.map .ok := collect_eq_ok

/-- The bar that a bucket becomes, where its volume can be added up. -/
def barOf (round : Arithmetic) (target : Timeframe) (g : BucketKey × List SourceBar) : SourceBar :=
  match aggregateGroup round target g with
  | .ok row => row.toSourceBar
  | .error _ =>
    ⟨⟨0, 0, 0, 0, false, "", ""⟩, (ofLex g.1).1, (ofLex g.1).2, none⟩

theorem barOf_eq (h : aggregateGroup round target g = .ok row) :
    barOf round target g = row.toSourceBar := by
  unfold barOf
  rw [h]

theorem barOf_ts (round : Arithmetic) (target : Timeframe) (g : BucketKey × List SourceBar) :
    (barOf round target g).ts = (ofLex g.1).1 ∧
      (barOf round target g).session = (ofLex g.1).2 := by
  unfold barOf
  split
  next row h =>
    obtain ⟨quote, volume, -, -, rfl⟩ := aggregateGroup_eq_ok.1 h
    exact ⟨rfl, rfl⟩
  next => exact ⟨rfl, rfl⟩

/-! ## Two levels -/

def WholeSeconds (bars : List SourceBar) : Prop := ∀ bar ∈ bars, WholeSecond bar.ts

instance (bars : List SourceBar) : Decidable (WholeSeconds bars) :=
  inferInstanceAs (Decidable (∀ bar ∈ bars, WholeSecond bar.ts))

theorem key_of_mem (hg : g ∈ sortedGroups (·.ts) (bucketKey target) bars) :
    ∃ bar ∈ bars, bucketKey target bar = g.1 := by
  obtain ⟨heq, hne⟩ := mem_sortedGroups.1 hg
  obtain ⟨bar, hbar⟩ := exists_mem_of_ne_nil _ hne
  rw [heq] at hbar
  obtain ⟨hmem, hkey⟩ := mem_filter.1 hbar
  exact ⟨bar, (mem_sortBy _).1 hmem, of_decide_eq_true hkey⟩

def coarseKey (coarse : Timeframe) (k : BucketKey) : BucketKey :=
  toLex (bucketTimestamp coarse (ofLex k).1, (ofLex k).2)

theorem bucketKey_coarse (hnests : Nests fine coarse) (h : WholeSecond bar.ts) :
    bucketKey coarse bar = coarseKey coarse (bucketKey fine bar) := by
  unfold bucketKey coarseKey
  rw [ofLex_toLex, hnests.bucket_eq h]

theorem bucketKey_mono {bar' : SourceBar} (h : WholeSecond bar.ts) (h' : WholeSecond bar'.ts)
    (hsession : bar.session = bar'.session) (hle : bar.ts ≤ bar'.ts) :
    bucketKey fine bar ≤ bucketKey fine bar' := by
  unfold bucketKey
  rw [Prod.Lex.toLex_le_toLex, hsession]
  exact (bucket_mono fine h h' hle).lt_or_eq.imp id fun heq => ⟨heq, le_rfl⟩

/-- **The buckets of rows** of a finer timeframe are those of the bars, in pieces. -/
theorem groups_of_rows (round : Arithmetic) (hwhole : WholeSeconds bars)
    (hnests : Nests fine coarse) :
    sortedGroups (·.ts) (bucketKey coarse)
        ((sortedGroups (·.ts) (bucketKey fine) bars).map (barOf round fine)) =
      (sortedGroups (·.ts) (bucketKey coarse) bars).map fun G =>
        (G.1, (piecesOf (·.ts) (bucketKey fine) (coarseKey coarse) bars G.1).map
          (barOf round fine)) := by
  refine sortedGroups_regroup (fun bar hbar => bucketKey_coarse hnests (hwhole bar hbar))
    (fun bar hbar bar' hbar' hkey hle => ?_) (fun g _ => ?_) fun g _ g' _ hlt => ?_
  · exact bucketKey_mono (hwhole bar hbar) (hwhole bar' hbar')
      (congrArg Prod.snd (toLex_inj.1 hkey)) hle
  · unfold bucketKey coarseKey
    rw [(barOf_ts round fine g).1, (barOf_ts round fine g).2]
  · rw [(barOf_ts round fine g).1, (barOf_ts round fine g').1]
    exact (Prod.Lex.le_iff.1 hlt.le).elim le_of_lt fun h => h.1.le

theorem bars_of_pieces (hwhole : WholeSeconds bars) (hnests : Nests fine coarse)
    {G : BucketKey × List SourceBar} (hG : G ∈ sortedGroups (·.ts) (bucketKey coarse) bars) :
    (piecesOf (·.ts) (bucketKey fine) (coarseKey coarse) bars G.1).flatMap Prod.snd = G.2 := by
  rw [(mem_sortedGroups.1 hG).1]
  exact flatMap_piecesOf (fun bar hbar => bucketKey_coarse hnests (hwhole bar hbar))
    (fun bar hbar bar' hbar' hkey hle => bucketKey_mono (hwhole bar hbar) (hwhole bar' hbar')
      (congrArg Prod.snd (toLex_inj.1 hkey)) hle) G.1

/-! ## Volumes -/

def exactVolume (rows : List SourceBar) : Option ℚ := joined (· + ·) (rows.filterMap (·.volume))

/-- No sum of the numbers is rounded: they are multiples of one power of ten, which all of them
    together exceed by less than the digits of the context. -/
def FitTogether (vs : List ℚ) : Prop :=
  ∃ e : ℤ, -1000026 ≤ e ∧ e ≤ 999972 ∧ (∀ v ∈ vs, ∃ n : ℤ, v = n * 10 ^ e) ∧
    (vs.map (|·|)).sum < 10 ^ 28 * 10 ^ e

theorem joined_add (vs : List ℚ) :
    joined (· + ·) vs = if vs = [] then none else some vs.sum := by
  cases vs with
  | nil => rfl
  | cons v vs =>
    rw [if_neg (cons_ne_nil v vs), sum_eq_foldl, foldl_cons, zero_add]
    rfl

theorem sum_abs_nonneg (vs : List ℚ) : 0 ≤ (vs.map (|·|)).sum :=
  sum_nonneg fun _ hx => by
    obtain ⟨v, -, rfl⟩ := mem_map.1 hx
    exact abs_nonneg v

theorem abs_sum_le (vs : List ℚ) : |vs.sum| ≤ (vs.map (|·|)).sum := by
  induction vs with
  | nil => simp
  | cons v vs ih =>
    rw [sum_cons, map_cons, sum_cons]
    exact (abs_add_le _ _).trans (add_le_add_right ih _)

theorem FitTogether.of_subperm {vs vs' : List ℚ} (h : FitTogether vs) (hsub : vs' <+~ vs) :
    FitTogether vs' := by
  obtain ⟨e, hlo, hhi, hmul, hsum⟩ := h
  refine ⟨e, hlo, hhi, fun v hv => hmul v (hsub.subset hv), lt_of_le_of_lt ?_ hsum⟩
  obtain ⟨ws, hperm, hws⟩ := hsub
  rw [← (hperm.map (|·|)).sum_eq]
  refine (hws.map _).sum_le_sum fun x hx => ?_
  obtain ⟨v, -, rfl⟩ := mem_map.1 hx
  exact abs_nonneg v

theorem foldlM_exact {vs : List ℚ} {e m : ℤ} (hlo : -1000026 ≤ e) (hhi : e ≤ 999972)
    (hmul : ∀ v ∈ vs, ∃ n : ℤ, v = n * 10 ^ e)
    (hsum : |(m : ℚ) * 10 ^ e| + (vs.map (|·|)).sum < 10 ^ 28 * 10 ^ e) :
    vs.foldlM (fun total value => pythonContext.round (total + value)) ((m : ℚ) * 10 ^ e) =
      .ok ((m : ℚ) * 10 ^ e + vs.sum) := by
  induction vs generalizing m with
  | nil => simp
  | cons v vs ih =>
    obtain ⟨n, rfl⟩ := hmul v mem_cons_self
    have hadd : (m : ℚ) * 10 ^ e + n * 10 ^ e = ((m + n : ℤ) : ℚ) * 10 ^ e := by
      push_cast
      ring
    rw [map_cons, sum_cons, ← add_assoc] at hsum
    have hnext : |((m + n : ℤ) : ℚ) * 10 ^ e| + (vs.map (|·|)).sum < 10 ^ 28 * 10 ^ e := by
      rw [← hadd]
      exact (add_le_add_left (abs_add_le _ _) _).trans_lt hsum
    have hshort : |m + n| < 10 ^ 28 := by
      have hlt := (le_add_of_nonneg_right (sum_abs_nonneg vs)).trans_lt hnext
      have hpow : (0 : ℚ) < 10 ^ e := zpow_pos (by norm_num) e
      rw [abs_mul, abs_of_pos hpow] at hlt
      have := lt_of_mul_lt_mul_right hlt hpow.le
      rw [← Int.cast_abs] at this
      exact_mod_cast this
    have hround : pythonContext.round (((m + n : ℤ) : ℚ) * 10 ^ e) =
        .ok (((m + n : ℤ) : ℚ) * 10 ^ e) := by
      have hvalue := DecimalContext.value_of_short (c := pythonContext) hshort hlo
      refine DecimalContext.round_eq_ok.2 ⟨?_, hvalue⟩
      rw [hvalue]
      exact DecimalContext.fits_of_short hshort (by change (28 : ℤ) + e ≤ 999999 + 1; omega)
    rw [foldlM_cons, hadd, hround, ok_bind,
      ih (fun v hv => hmul v (mem_cons_of_mem _ hv)) hnext, sum_cons, ← hadd, add_assoc]

theorem totalVolume_exact (h : FitTogether (rows.filterMap (·.volume))) :
    totalVolume pythonContext.round rows = .ok (exactVolume rows) := by
  obtain ⟨e, hlo, hhi, hmul, hsum⟩ := h
  have hfold := foldlM_exact (m := 0) hlo hhi hmul (by simpa using hsum)
  rw [Int.cast_zero, zero_mul, zero_add] at hfold
  unfold totalVolume exactVolume
  rw [joined_add]
  dsimp only
  split_ifs
  · rfl
  · rw [hfold]
    rfl

theorem FitTogether.pieces {vss : List (List ℚ)} (h : FitTogether vss.flatten) :
    FitTogether (vss.filterMap (joined (· + ·))) := by
  obtain ⟨e, hlo, hhi, hmul, hsum⟩ := h
  refine ⟨e, hlo, hhi, fun v hv => ?_, lt_of_le_of_lt ?_ hsum⟩
  · obtain ⟨vs, hvs, hjoined⟩ := mem_filterMap.1 hv
    rw [joined_add] at hjoined
    split_ifs at hjoined
    obtain rfl := Option.some.inj hjoined
    have hall : ∀ v ∈ vs, ∃ n : ℤ, v = n * 10 ^ e := fun v hv =>
      hmul v (mem_flatten.2 ⟨vs, hvs, hv⟩)
    clear hvs hv hmul hsum hjoined
    induction vs with
    | nil => exact ⟨0, by simp⟩
    | cons v vs ih =>
      obtain ⟨n, hn⟩ := hall v mem_cons_self
      by_cases hnil : vs = []
      · exact ⟨n, by simp [hnil, hn]⟩
      · obtain ⟨k, hk⟩ := ih hnil fun v hv => hall v (mem_cons_of_mem _ hv)
        refine ⟨n + k, ?_⟩
        rw [sum_cons, hn, hk]
        push_cast
        ring
  · clear hmul hsum
    induction vss with
    | nil => simp
    | cons vs vss ih =>
      rw [flatten_cons, map_append, sum_append, filterMap_cons, joined_add]
      split_ifs with hnil
      · rw [hnil]
        simpa using ih
      · rw [map_cons, sum_cons]
        exact add_le_add (abs_sum_le vs) ih

/-! ## Composition -/

def SourceBar.outline (bar : SourceBar) : Instant × String × Quote :=
  (bar.ts, bar.session, bar.toQuote)

theorem exists_row (h : aggregateBars round bars target = .ok out)
    (hg : g ∈ sortedGroups (·.ts) (bucketKey target) bars) :
    ∃ row ∈ out, aggregateGroup round target g = .ok row := by
  have hmem := mem_map_of_mem (f := aggregateGroup round target) hg
  rw [aggregateBars_eq_ok.1 h] at hmem
  obtain ⟨row, hrow, heq⟩ := mem_map.1 hmem
  exact ⟨row, hrow, heq.symm⟩

theorem rows_as_bars (h : aggregateBars round bars target = .ok out) :
    out.map (·.toSourceBar) =
      (sortedGroups (·.ts) (bucketKey target) bars).map (barOf round target) := by
  exact map_of_map_ok (aggregateBars_eq_ok.1 h) fun g _ row hrow => (barOf_eq hrow).symm

abbrev pieceBars (round : Arithmetic) (fine coarse : Timeframe) (bars : List SourceBar)
    (k : BucketKey) : List SourceBar :=
  (piecesOf (·.ts) (bucketKey fine) (coarseKey coarse) bars k).map (barOf round fine)

theorem joined_pieces (hwhole : WholeSeconds bars) (hnests : Nests fine coarse) (hfine : aggregateBars round bars fine = .ok out)
    (hg : g ∈ sortedGroups (·.ts) (bucketKey coarse) bars) :
    joined Quote.join ((pieceBars round fine coarse bars g.1).map (·.toQuote)) =
      joined Quote.join (g.2.map (·.toQuote)) := by
  have hquotes : ∀ piece ∈ piecesOf (·.ts) (bucketKey fine) (coarseKey coarse) bars g.1,
      joined Quote.join (piece.2.map (·.toQuote)) = some (barOf round fine piece).toQuote := by
    intro piece hpiece
    obtain ⟨row, -, hrow⟩ := exists_row hfine (mem_of_mem_filter hpiece)
    obtain ⟨quote, volume, hquote, -, heq⟩ := aggregateGroup_eq_ok.1 hrow
    rw [hquote, barOf_eq hrow, heq]
  rw [← bars_of_pieces hwhole hnests hg, map_flatMap, joined_flatMap, map_map,
    filterMap_congr hquotes]
  exact congrArg _ (congrFun filterMap_eq_map _).symm

theorem exactVolume_pieces (hwhole : WholeSeconds bars) (hnests : Nests fine coarse)
    (hvolume : ∀ piece ∈ sortedGroups (·.ts) (bucketKey fine) bars,
      (barOf round fine piece).volume = exactVolume piece.2)
    (hg : g ∈ sortedGroups (·.ts) (bucketKey coarse) bars) :
    exactVolume (pieceBars round fine coarse bars g.1) = exactVolume g.2 := by
  unfold exactVolume
  rw [← bars_of_pieces hwhole hnests hg, filterMap_flatMap, joined_flatMap, filterMap_map]
  exact congrArg _ (filterMap_congr fun piece hpiece =>
    hvolume piece (mem_of_mem_filter hpiece))

theorem outlines_compose (hwhole : WholeSeconds bars) (hnests : Nests fine coarse) {rows direct : List AggregatedBar}
    (hfine : aggregateBars round bars fine = .ok fineRows)
    (hcoarse : aggregateBars round (fineRows.map (·.toSourceBar)) coarse = .ok rows)
    (hdirect : aggregateBars round bars coarse = .ok direct) :
    rows.map (·.outline) = direct.map (·.outline) := by
  have hrows := aggregateBars_eq_ok.1 hcoarse
  rw [rows_as_bars hfine, groups_of_rows _ hwhole hnests, map_map] at hrows
  calc rows.map (·.outline)
      = (sortedGroups (·.ts) (bucketKey coarse) bars).map fun g => (barOf round coarse g).outline :=
        map_of_map_ok hrows fun g hg row hrow => by
          obtain ⟨row', -, hrow'⟩ := exists_row hdirect hg
          obtain ⟨quote, volume, hquote, -, rfl⟩ := aggregateGroup_eq_ok.1 hrow
          obtain ⟨quote', volume', hquote', -, heq⟩ := aggregateGroup_eq_ok.1 hrow'
          rw [joined_pieces hwhole hnests hfine hg, hquote'] at hquote
          obtain rfl := Option.some.inj hquote
          rw [barOf_eq hrow', heq]
          rfl
    _ = direct.map (·.outline) :=
        (map_of_map_ok (aggregateBars_eq_ok.1 hdirect) fun g _ row hrow => by
          rw [barOf_eq hrow]).symm

/-! ## Each bar in one row -/

theorem aggregatedRow_key (h : aggregateBars round bars target = .ok out) :
    out.map (fun row => toLex (row.ts, row.session)) =
      (sortedGroups (·.ts) (bucketKey target) bars).map Prod.fst :=
  map_of_map_ok (aggregateBars_eq_ok.1 h) fun g _ row hrow => by
    obtain ⟨quote, volume, -, -, rfl⟩ := aggregateGroup_eq_ok.1 hrow
    rfl

theorem exists_unique_row (hwhole : WholeSeconds bars)
    (h : aggregateBars round bars target = .ok out) (hbar : bar ∈ bars) :
    ∃! row, row ∈ out ∧ row.session = bar.session ∧ InBucket target row.ts bar.ts := by
  have hgroup : ∃ g ∈ sortedGroups (·.ts) (bucketKey target) bars, g.1 = bucketKey target bar := by
    have hmem : bar ∈ (sortBy (·.ts) bars).filter fun b => bucketKey target b = bucketKey target bar :=
      mem_filter.2 ⟨(mem_sortBy _).2 hbar, decide_eq_true rfl⟩
    exact ⟨(_, _), mem_sortedGroups.2 ⟨rfl, ne_nil_of_mem hmem⟩, rfl⟩
  obtain ⟨g, hg, hkey⟩ := hgroup
  obtain ⟨row, hrow, hok⟩ := exists_row h hg
  have hrowKey : toLex (row.ts, row.session) = bucketKey target bar := by
    obtain ⟨quote, volume, -, -, rfl⟩ := aggregateGroup_eq_ok.1 hok
    exact hkey
  obtain ⟨hts, hsession⟩ := Prod.mk.inj (toLex_inj.1 hrowKey)
  refine ⟨row, ⟨hrow, hsession, ?_⟩, ?_⟩
  · rw [hts]
    exact (inBucket_iff (hwhole bar hbar) (hwhole bar hbar)).2 rfl
  · rintro row' ⟨hrow', hsession', hin⟩
    have hnodup : (out.map fun row => toLex (row.ts, row.session)).Nodup := by
      rw [aggregatedRow_key h]
      exact nodup_map_of_pairwise_lt pairwise_sortedGroups
    refine inj_on_of_nodup_map hnodup hrow' hrow ?_
    -- the row starts at the bucket of some bar
    have hmem : toLex (row'.ts, row'.session) ∈
        (sortedGroups (·.ts) (bucketKey target) bars).map Prod.fst :=
      aggregatedRow_key h ▸ mem_map_of_mem hrow'
    obtain ⟨g', hg', hkey'⟩ := mem_map.1 hmem
    obtain ⟨bar', hbar', hsame⟩ := key_of_mem hg'
    have hts' : bucketTimestamp target bar'.ts = row'.ts :=
      (Prod.mk.inj (toLex_inj.1 (hsame.trans hkey'))).1
    rw [← hts'] at hin
    have hbucket := (inBucket_iff (hwhole bar hbar) (hwhole bar' hbar')).1 hin
    rw [← hts', ← hbucket, hsession', hts, hsession]

theorem derivedFrom_eq (h : aggregateBars round bars target = .ok out) (hrow : row ∈ out) : row.derivedFrom =
      bars.countP fun bar => bar.session = row.session ∧ bucketTimestamp target bar.ts = row.ts := by
  have hmem := mem_map_of_mem (f := Except.ok (ε := PyError)) hrow
  rw [← aggregateBars_eq_ok.1 h] at hmem
  obtain ⟨g, hg, hok⟩ := mem_map.1 hmem
  obtain ⟨quote, volume, -, -, rfl⟩ := aggregateGroup_eq_ok.1 hok
  dsimp only
  rw [(mem_sortedGroups.1 hg).1, ← countP_eq_length_filter, (perm_sortBy _ bars).countP_eq]
  refine countP_congr fun bar _ => ?_
  rw [decide_eq_true_iff, decide_eq_true_iff, ← toLex_ofLex g.1]
  unfold bucketKey
  rw [toLex_inj, Prod.ext_iff]
  exact and_comm

/-! ## Volumes of a session -/

def sessionVolume (session : String) (rows : List SourceBar) : ℚ :=
  ((rows.filter fun row => row.session = session).map fun row => row.volume.getD 0).sum

theorem exactVolume_getD (rows : List SourceBar) :
    (exactVolume rows).getD 0 = (rows.map fun row => row.volume.getD 0).sum := by
  have hsum : (exactVolume rows).getD 0 = (rows.filterMap (·.volume)).sum := by
    unfold exactVolume
    rw [joined_add]
    split_ifs with h
    · rw [h]
      rfl
    · rfl
  rw [hsum]
  clear hsum
  induction rows with
  | nil => rfl
  | cons row rows ih =>
    rw [filterMap_cons, map_cons, sum_cons, ← ih]
    cases row.volume <;> simp

theorem sum_volumes (gs : List (BucketKey × List SourceBar)) :
    (gs.map fun g => (exactVolume g.2).getD 0).sum =
      ((gs.flatMap Prod.snd).map fun row => row.volume.getD 0).sum := by
  induction gs with
  | nil => rfl
  | cons g gs ih =>
    rw [map_cons, sum_cons, flatMap_cons, map_append, sum_append, ih,
      exactVolume_getD]

theorem sessionVolume_rows (h : aggregateBars round bars target = .ok out)
    (hvolume : ∀ g ∈ sortedGroups (·.ts) (bucketKey target) bars,
      (barOf round target g).volume = exactVolume g.2) (session : String) :
    sessionVolume session (out.map (·.toSourceBar)) = sessionVolume session bars := by
  have hsession : ∀ g ∈ sortedGroups (·.ts) (bucketKey target) bars, ∀ bar ∈ g.2,
      decide (bar.session = session) = decide ((ofLex g.1).2 = session) := by
    intro g hg bar hbar
    rw [(mem_sortedGroups.1 hg).1] at hbar
    rw [← of_decide_eq_true (mem_filter.1 hbar).2]
    rfl
  unfold sessionVolume
  rw [rows_as_bars h, filter_map, map_map]
  have hfilter : (sortedGroups (·.ts) (bucketKey target) bars).filter
      ((fun row : SourceBar => decide (row.session = session)) ∘ barOf round target) =
      (sortedGroups (·.ts) (bucketKey target) bars).filter fun g => (ofLex g.1).2 = session :=
    filter_congr fun g _ => by rw [Function.comp_apply, (barOf_ts round target g).2]
  rw [hfilter, map_congr_left fun g hg => by
    rw [Function.comp_apply, hvolume g (mem_of_mem_filter hg)], sum_volumes,
    flatMap_filter hsession]
  exact ((perm_sortedGroups.filter _).map _).sum_eq

/-! ## Volumes that fit together -/

theorem aggregateBars_exact (hfit : FitTogether (bars.filterMap (·.volume))) (target : Timeframe) :
    (∃ out, aggregateBars pythonContext.round bars target = .ok out) ∧
      ∀ g ∈ sortedGroups (·.ts) (bucketKey target) bars,
        (barOf pythonContext.round target g).volume = exactVolume g.2 := by
  have hrow : ∀ g ∈ sortedGroups (·.ts) (bucketKey target) bars, ∃ row,
      aggregateGroup pythonContext.round target g = .ok row ∧ row.volume = exactVolume g.2 := by
    intro g hg
    obtain ⟨heq, hne⟩ := mem_sortedGroups.1 hg
    have hsub : g.2.filterMap (·.volume) <+~ bars.filterMap (·.volume) := by
      rw [heq]
      exact (filter_sublist.filterMap _).subperm.trans
        ((perm_sortBy _ bars).filterMap _).subperm
    obtain ⟨quote, hquote⟩ : ∃ quote, joined Quote.join (g.2.map (·.toQuote)) = some quote :=
      Option.ne_none_iff_exists'.1 fun hnone => hne (map_eq_nil_iff.1 (joined_eq_none.1 hnone))
    exact ⟨_, aggregateGroup_eq_ok.2
      ⟨quote, _, hquote, totalVolume_exact (hfit.of_subperm hsub), rfl⟩, rfl⟩
  refine ⟨?_, fun g hg => ?_⟩
  · refine exists_collect fun x hx => ?_
    obtain ⟨g, hg, rfl⟩ := mem_map.1 hx
    exact (hrow g hg).imp fun _ h => h.1
  · obtain ⟨row, hok, hvolume⟩ := hrow g hg
    rw [barOf_eq hok, hvolume]

theorem fitTogether_rows (hfit : FitTogether (bars.filterMap (·.volume))) (target : Timeframe) :
    FitTogether (((sortedGroups (·.ts) (bucketKey target) bars).map
      (barOf pythonContext.round target)).filterMap (·.volume)) := by
  have hvolumes : ((sortedGroups (·.ts) (bucketKey target) bars).map
      (barOf pythonContext.round target)).filterMap (·.volume) =
      ((sortedGroups (·.ts) (bucketKey target) bars).map fun g =>
        g.2.filterMap (·.volume)).filterMap (joined (· + ·)) := by
    rw [filterMap_map, filterMap_map]
    exact filterMap_congr fun g hg => (aggregateBars_exact hfit target).2 g hg
  rw [hvolumes]
  refine (hfit.of_subperm ?_).pieces
  rw [← flatMap_def, ← filterMap_flatMap]
  exact (perm_sortedGroups.filterMap _).subperm

theorem barOf_pieces (hwhole : WholeSeconds bars) (hnests : Nests fine coarse)
    (hfit : FitTogether (bars.filterMap (·.volume))) (hfine : aggregateBars pythonContext.round bars fine = .ok fineRows)
    (hg : g ∈ sortedGroups (·.ts) (bucketKey coarse) bars)
    (hpieces : ∃ row, aggregateGroup pythonContext.round coarse
      (g.1, pieceBars pythonContext.round fine coarse bars g.1) = .ok row ∧
        row.volume = exactVolume (pieceBars pythonContext.round fine coarse bars g.1)) :
    barOf pythonContext.round coarse (g.1, pieceBars pythonContext.round fine coarse bars g.1) =
      barOf pythonContext.round coarse g := by
  obtain ⟨⟨direct, hdirect⟩, hvolume⟩ := aggregateBars_exact hfit coarse
  obtain ⟨row, hrow, hrowVolume⟩ := hpieces
  obtain ⟨row', -, hrow'⟩ := exists_row hdirect hg
  have hsame := hvolume g hg
  obtain ⟨quote, volume, hquote, -, rfl⟩ := aggregateGroup_eq_ok.1 hrow
  obtain ⟨quote', volume', hquote', -, heq⟩ := aggregateGroup_eq_ok.1 hrow'
  rw [joined_pieces hwhole hnests hfine hg, hquote'] at hquote
  obtain rfl := Option.some.inj hquote
  rw [barOf_eq hrow', heq] at hsame
  rw [exactVolume_pieces hwhole hnests (aggregateBars_exact hfit fine).2 hg] at hrowVolume
  rw [barOf_eq hrow, barOf_eq hrow', heq]
  dsimp only at hsame hrowVolume ⊢
  rw [hsame, hrowVolume]

/-- **Roll-ups compose.**  For bars at whole seconds, in any order, and timeframes whose buckets
    nest: a roll-up to the coarser one from the finer has the same times, sessions, prices and
    adjustments as one from the bars; in every roll-up each bar has exactly one row of its session
    whose interval contains it, and a row counts the bars of its bucket; and where no sum of volumes
    is rounded, the roll-ups exist, have the same volumes, and keep the volume of each session. -/
theorem roll_ups_compose (hwhole : WholeSeconds bars) (hnests : Nests fine coarse) :
    (∀ fineRows rows direct, aggregateBars pythonContext.round bars fine = .ok fineRows →
      aggregateBars pythonContext.round (fineRows.map (·.toSourceBar)) coarse = .ok rows →
      aggregateBars pythonContext.round bars coarse = .ok direct →
      rows.map (·.outline) = direct.map (·.outline)) ∧
    (∀ target out, aggregateBars pythonContext.round bars target = .ok out →
      (∀ bar ∈ bars, ∃! row, row ∈ out ∧ row.session = bar.session ∧
        InBucket target row.ts bar.ts) ∧
      ∀ row ∈ out, row.derivedFrom = bars.countP fun bar =>
        bar.session = row.session ∧ bucketTimestamp target bar.ts = row.ts) ∧
    (FitTogether (bars.filterMap (·.volume)) → ∃ fineRows rows direct,
      aggregateBars pythonContext.round bars fine = .ok fineRows ∧
      aggregateBars pythonContext.round (fineRows.map (·.toSourceBar)) coarse = .ok rows ∧
      aggregateBars pythonContext.round bars coarse = .ok direct ∧
      rows.map (·.toSourceBar) = direct.map (·.toSourceBar) ∧
      ∀ session, sessionVolume session (fineRows.map (·.toSourceBar)) = sessionVolume session bars ∧
        sessionVolume session (direct.map (·.toSourceBar)) = sessionVolume session bars) := by
  refine ⟨fun _ _ _ => outlines_compose hwhole hnests, fun target out h =>
    ⟨fun bar hbar => exists_unique_row hwhole h hbar, fun row hrow => derivedFrom_eq h hrow⟩,
    fun hfit => ?_⟩
  obtain ⟨⟨fineRows, hfine⟩, hfineVolume⟩ := aggregateBars_exact hfit fine
  obtain ⟨⟨direct, hdirect⟩, hvolume⟩ := aggregateBars_exact hfit coarse
  have hfit' := fitTogether_rows hfit fine
  rw [← rows_as_bars hfine] at hfit'
  obtain ⟨⟨rows, hrows⟩, hrowsVolume⟩ := aggregateBars_exact hfit' coarse
  refine ⟨fineRows, rows, direct, hfine, hrows, hdirect, ?_, fun session =>
    ⟨sessionVolume_rows hfine hfineVolume session, sessionVolume_rows hdirect hvolume session⟩⟩
  have hgroups := groups_of_rows pythonContext.round hwhole hnests
  rw [← rows_as_bars hfine] at hgroups
  rw [rows_as_bars hrows, rows_as_bars hdirect, hgroups, map_map]
  refine map_congr_left fun g hg => ?_
  have hmem : (g.1, pieceBars pythonContext.round fine coarse bars g.1) ∈ sortedGroups (·.ts)
      (bucketKey coarse) (fineRows.map (·.toSourceBar)) :=
    hgroups ▸ mem_map.2 ⟨g, hg, rfl⟩
  obtain ⟨row, -, hrow⟩ := exists_row hrows hmem
  refine barOf_pieces hwhole hnests hfit hfine hg ⟨row, hrow, ?_⟩
  rw [← hrowsVolume _ hmem, barOf_eq hrow]

end

def januaryBar (day : ℕ) (second : ℕ) (price volume : ℚ) : SourceBar where
  open_ := price
  high := price
  low := price
  close := price
  isAdjusted := false
  adjustmentBasis := "raw"
  adjustmentVersion := "legacy"
  ts := Fin.ofNat instantLimit ((738884 + day) * 86400000000 + second * 1000000)
  session := "regular"
  volume := some volume

/-- Three bars of two days, the first of a very large volume. -/
def largeVolumes : List SourceBar :=
  [januaryBar 1 0 5 (10 ^ 28), januaryBar 2 0 7 6, januaryBar 2 60 6 6]

def smallVolumes : List SourceBar :=
  [januaryBar 1 0 5 (5 / 2), januaryBar 2 0 7 6, januaryBar 2 60 6 6]

/-- **The volume depends on the way**: each of the small volumes is rounded away or up on its own,
    and together they are not. -/
theorem roll_ups_round : Nests .D1 .MN ∧ WholeSeconds largeVolumes ∧
    (aggregateBars pythonContext.round largeVolumes .MN).map (fun rows => rows.map (·.volume)) =
      .ok [some (10 ^ 28 + 20)] ∧
    ((aggregateBars pythonContext.round largeVolumes .D1) >>= fun rows =>
        aggregateBars pythonContext.round (rows.map (·.toSourceBar)) .MN).map
      (fun rows => rows.map (·.volume)) = .ok [some (10 ^ 28 + 10)] := by
  refine ⟨nests_of_day (by decide), by decide +kernel, by decide +kernel, by decide +kernel⟩

theorem smallVolumes_fit : FitTogether (smallVolumes.filterMap (·.volume)) := by
  refine ⟨-1, by decide, by decide, ?_, ?_⟩
  · change ∀ v ∈ [(5 / 2 : ℚ), 6, 6], _
    simp only [forall_mem_cons]
    exact ⟨⟨25, by norm_num⟩, ⟨60, by norm_num⟩, ⟨60, by norm_num⟩, nofun⟩
  · change ([(5 / 2 : ℚ), 6, 6].map (|·|)).sum < _
    norm_num

theorem roll_ups_compose_january : ∃ fineRows rows direct,
    aggregateBars pythonContext.round smallVolumes .D1 = .ok fineRows ∧
    aggregateBars pythonContext.round (fineRows.map (·.toSourceBar)) .MN = .ok rows ∧
    aggregateBars pythonContext.round smallVolumes .MN = .ok direct ∧
    rows.map (·.toSourceBar) = direct.map (·.toSourceBar) ∧
    ∀ session,
      sessionVolume session (fineRows.map (·.toSourceBar)) = sessionVolume session smallVolumes ∧
        sessionVolume session (direct.map (·.toSourceBar)) = sessionVolume session smallVolumes :=
  (roll_ups_compose (by decide +kernel) (nests_of_day (by decide))).2.2 smallVolumes_fit

end ChartingPlatform
