/-
  Exposure levels: `_compute_exposure` adds every quote up once, and finds its levels.
-/
import ChartingPlatform.Lib.Neighbours
import ChartingPlatform.Options.Exposure

namespace ChartingPlatform

open Lib List

variable {v : Valuation} {quotes : List ContractQuote} {ladder : List ExposureLadderRow}

/-! ## Sums over quotes -/

def ExpiryBreakdown.amounts : List (ExpiryBreakdown → ℚ) :=
  [ExpiryBreakdown.callGex, ExpiryBreakdown.putGex, ExpiryBreakdown.netGex,
    ExpiryBreakdown.callDex, ExpiryBreakdown.putDex, ExpiryBreakdown.netDex,
    ExpiryBreakdown.callOi, ExpiryBreakdown.putOi]

def ContractQuote.term (v : Valuation) (f : ExpiryBreakdown → ℚ) (q : ContractQuote) : ℚ :=
  f (({} : Sums).add v q).breakdown

section
variable {f : ExpiryBreakdown → ℚ}

theorem amount_zero (hf : f ∈ ExpiryBreakdown.amounts) : f ({} : Sums).breakdown = 0 := by
  simp only [ExpiryBreakdown.amounts, mem_cons, not_mem_nil, or_false] at hf
  rcases hf with rfl | rfl | rfl | rfl | rfl | rfl | rfl | rfl <;> simp [Sums.breakdown]

theorem amount_add (hf : f ∈ ExpiryBreakdown.amounts) (s : Sums) (q : ContractQuote) :
    f (s.add v q).breakdown = f s.breakdown + q.term v f := by
  simp only [ExpiryBreakdown.amounts, mem_cons, not_mem_nil, or_false] at hf
  unfold ContractQuote.term Sums.add
  rcases hf with rfl | rfl | rfl | rfl | rfl | rfl | rfl | rfl
  all_goals
    cases q.right
    all_goals
      simp only [Sums.breakdown]
      ring

theorem amount_foldl (hf : f ∈ ExpiryBreakdown.amounts) (l : List ContractQuote) :
    f (l.foldl (Sums.add v) {}).breakdown = (l.map (ContractQuote.term v f)).sum := by
  rw [foldl_sum (fun s : Sums => f s.breakdown) _ (amount_add hf), amount_zero hf, zero_add]

end

theorem toSums_foldl (l : List ContractQuote) (s : StrikeSums) :
    (l.foldl (StrikeSums.add v) s).toSums = l.foldl (Sums.add v) s.toSums := by
  induction l generalizing s with
  | nil => rfl
  | cons q l ih =>
    rw [foldl_cons, foldl_cons, ih]
    congr 1
    rw [StrikeSums.add]
    cases q.right <;> rfl

/-! ## The loop -/

structure ExposureLoop.Summed (v : Valuation) (quotes : List ContractQuote) (s : ExposureLoop) :
    Prop where
  byS : Accumulates {} (StrikeSums.add v) ContractQuote.strike quotes s.byS
  bySe : Accumulates {} (Sums.add v) (fun q => (q.strike, q.expiryDate)) quotes s.bySe
  expirations : s.allExpirations = (quotes.map ContractQuote.expiryDate).toFinset
  totalCallOi : s.totalCallOi =
    (quotes.map (ContractQuote.term v ExpiryBreakdown.callOi)).sum
  totalPutOi : s.totalPutOi = (quotes.map (ContractQuote.term v ExpiryBreakdown.putOi)).sum

theorem exposureLoop_summed (v : Valuation) (quotes : List ContractQuote) :
    (quotes.foldl (exposureQuote v) {}).Summed v quotes := by
  induction quotes using List.reverseRecOn with
  | nil => exact ⟨Accumulates.nil, Accumulates.nil, rfl, rfl, rfl⟩
  | append_singleton quotes q ih =>
    rw [foldl_concat]
    set s := quotes.foldl (exposureQuote v) {}
    have hfin : insert q.expiryDate s.allExpirations =
        ((quotes ++ [q]).map ContractQuote.expiryDate).toFinset := by
      rw [ih.expirations]
      ext d
      simp
    unfold exposureQuote
    cases hq : q.right with
    | call | put =>
      refine ⟨ih.byS.add, ih.bySe.add, hfin, ?_, ?_⟩
      · simp [ih.totalCallOi, ContractQuote.term, Sums.add, Sums.breakdown, hq]
      · simp [ih.totalPutOi, ContractQuote.term, Sums.add, Sums.breakdown, hq]

def ladderOf (v : Valuation) (quotes : List ContractQuote) : List ExposureLadderRow :=
  exposureLadder (quotes.foldl (exposureQuote v) {})

/-! ## Rows -/

section
variable {f : ExpiryBreakdown → ℚ} {row : ExposureLadderRow}

/-- **A row's amount** is the sum over the quotes of its strike. -/
theorem row_amount (hf : f ∈ ExpiryBreakdown.amounts) (hrow : row ∈ ladderOf v quotes) :
    f row.toExpiryBreakdown =
      ((quotes.filter fun q => q.strike = row.strike).map (ContractQuote.term v f)).sum := by
  obtain ⟨k, -, rfl⟩ := mem_map.1 hrow
  rw [← amount_foldl hf, ladderRow]
  simp only
  rw [(exposureLoop_summed v quotes).byS.entry, toSums_foldl]

theorem breakdowns_sum (hf : f ∈ ExpiryBreakdown.amounts) (hrow : row ∈ ladderOf v quotes) :
    (row.byExpiry.map fun e => f e.2).sum = f row.toExpiryBreakdown := by
  have hrun := exposureLoop_summed v quotes
  rw [row_amount hf hrow]
  obtain ⟨k, -, rfl⟩ := mem_map.1 hrow
  set s := quotes.foldl (exposureQuote v) {}
  suffices h : ((ladderRow s k).byExpiry.map fun e => f e.2).sum =
      ((quotes.filter fun q => q.strike = k).map (ContractQuote.term v f)).sum from h
  rw [← sum_map_sum_filter ContractQuote.expiryDate (nodup_sortedList s.allExpirations)]
  · rw [ladderRow]
    -- an expiration that the strike is not quoted in adds nothing
    induction sortedList s.allExpirations with
    | nil => rfl
    | cons e es ih =>
      have hfilter : (quotes.filter fun q => (q.strike, q.expiryDate) = (k, e)) =
          (quotes.filter fun q => q.strike = k).filter fun q => q.expiryDate = e := by
        rw [filter_filter]
        refine filter_congr fun q _ => ?_
        simp [Prod.ext_iff, Bool.and_comm]
      have hentry : f (entryOf {} s.bySe (k, e)).breakdown =
          (((quotes.filter fun q => q.strike = k).filter fun q => q.expiryDate = e).map
            (ContractQuote.term v f)).sum := by
        rw [hrun.bySe.entry, amount_foldl hf, hfilter]
      have hget : entryOf {} s.bySe (k, e) =
          ((rowWith Prod.fst (k, e) s.bySe).map Prod.snd).getD {} := rfl
      rw [map_cons, sum_cons, ← hentry, ← ih, filterMap_cons, hget]
      cases rowWith Prod.fst (k, e) s.bySe with
      | none => simp [amount_zero hf]
      | some entry => simp
  · intro q hq
    rw [mem_sortedList, hrun.expirations, mem_toFinset]
    exact mem_map_of_mem (mem_of_mem_filter hq)

theorem ladder_strikes :
    (ladderOf v quotes).map ExposureLadderRow.strike =
      sortBy id ((quotes.foldl (exposureQuote v) {}).byS.map Prod.fst) := by
  rw [ladderOf, exposureLadder, map_map]
  exact map_id _

theorem pairwise_ladder :
    (ladderOf v quotes).Pairwise fun a b => a.strike < b.strike := by
  have h : ((ladderOf v quotes).map ExposureLadderRow.strike).Pairwise fun a b => id a < id b := by
    rw [ladder_strikes]
    refine pairwise_lt_sortBy ?_
    simpa using (exposureLoop_summed v quotes).byS.nodup
  rwa [pairwise_map] at h

theorem mem_strikes {k : ℚ} :
    k ∈ (ladderOf v quotes).map ExposureLadderRow.strike ↔
      k ∈ quotes.map ContractQuote.strike := by
  rw [ladder_strikes, mem_sortBy, (exposureLoop_summed v quotes).byS.mem_keys]

theorem rows_sum (hf : f ∈ ExpiryBreakdown.amounts) :
    ((ladderOf v quotes).map fun r => f r.toExpiryBreakdown).sum =
      (quotes.map (ContractQuote.term v f)).sum := by
  have hrows : ((ladderOf v quotes).map fun r => f r.toExpiryBreakdown) =
      ((ladderOf v quotes).map ExposureLadderRow.strike).map fun k =>
        ((quotes.filter fun q => q.strike = k).map (ContractQuote.term v f)).sum := by
    rw [map_map]
    exact map_congr_left fun r hr => row_amount hf hr
  rw [hrows, sum_map_sum_filter ContractQuote.strike]
  · exact pairwise_map.2 (pairwise_ladder.imp fun h => h.ne)
  · intro q hq
    exact mem_strikes.2 (mem_map_of_mem hq)

end

/-! ## Max pain -/

def painStep (quotes : List ContractQuote) (s : Option ℚ × ℚ) (testK : ℚ) : Option ℚ × ℚ :=
  let total := totalIntrinsic quotes testK
  if s.1.all (fun minValue => decide (total < minValue)) then (some total, testK) else s

theorem foldl_painStep (quotes : List ContractQuote) {ks : List ℚ} (hks : ks ≠ []) (first : ℚ) :
    ∃ pre k post, ks = pre ++ k :: post ∧
      ks.foldl (painStep quotes) (none, first) = (some (totalIntrinsic quotes k), k) ∧
      (∀ j ∈ pre, totalIntrinsic quotes k < totalIntrinsic quotes j) ∧
      ∀ j ∈ post, totalIntrinsic quotes k ≤ totalIntrinsic quotes j := by
  induction ks using List.reverseRecOn with
  | nil => exact absurd rfl hks
  | append_singleton ks c ih =>
    rw [foldl_concat]
    rcases eq_or_ne ks [] with rfl | hne
    · exact ⟨[], c, [], rfl, rfl, by simp, by simp⟩
    · obtain ⟨pre, k, post, rfl, hrun, hpre, hpost⟩ := ih hne
      rw [hrun, painStep]
      simp only [Option.all_some]
      split
      case isTrue hlt =>
        rw [decide_eq_true_eq] at hlt
        refine ⟨pre ++ k :: post, c, [], rfl, rfl, ?_, by simp⟩
        intro j hj
        rcases mem_append.1 hj with hj | hj
        · exact hlt.trans (hpre j hj)
        · rcases mem_cons.1 hj with rfl | hj
          · exact hlt
          · exact hlt.trans_le (hpost j hj)
      case isFalse hge =>
        rw [decide_eq_true_eq, not_lt] at hge
        refine ⟨pre, k, post ++ [c], by simp, rfl, hpre, ?_⟩
        intro j hj
        rcases mem_append.1 hj with hj | hj
        · exact hpost j hj
        · rwa [mem_singleton.1 hj]

/-- A listed strike of least intrinsic value, and the lowest of them. -/
structure IsMaxPain (quotes : List ContractQuote) (k : ℚ) : Prop where
  listed : k ∈ quotes.map ContractQuote.strike
  least : ∀ j ∈ quotes.map ContractQuote.strike, totalIntrinsic quotes k ≤ totalIntrinsic quotes j
  lowest : ∀ j ∈ quotes.map ContractQuote.strike, j < k →
    totalIntrinsic quotes k < totalIntrinsic quotes j

theorem findMaxPain_isMaxPain (h : quotes ≠ []) :
    ∃ k, findMaxPain quotes = some k ∧ IsMaxPain quotes k := by
  have hmem : ∀ k, k ∈ sortedList (quotes.map ContractQuote.strike).toFinset ↔
      k ∈ quotes.map ContractQuote.strike := by
    intro k
    rw [mem_sortedList, mem_toFinset]
  have hsorted := pairwise_sortedList (quotes.map ContractQuote.strike).toFinset
  rw [findMaxPain]
  generalize sortedList (quotes.map ContractQuote.strike).toFinset = ks at hmem hsorted
  cases ks with
  | nil =>
    obtain ⟨q, hq⟩ := exists_mem_of_ne_nil _ h
    exact absurd ((hmem q.strike).2 (mem_map_of_mem hq)) not_mem_nil
  | cons first rest =>
    obtain ⟨pre, k, post, hks, hrun, hpre, hpost⟩ :=
      foldl_painStep quotes (cons_ne_nil first rest) first
    refine ⟨k, congrArg (fun s => some s.2) hrun, ?_⟩
    rw [hks] at hmem hsorted
    refine ⟨(hmem k).1 (by simp), ?_, ?_⟩
    · intro j hj
      rcases mem_append.1 ((hmem j).2 hj) with hj | hj
      · exact (hpre j hj).le
      · rcases mem_cons.1 hj with rfl | hj
        · exact le_rfl
        · exact hpost j hj
    · intro j hj hlt
      rcases mem_append.1 ((hmem j).2 hj) with hj | hj
      · exact hpre j hj
      · rcases mem_cons.1 hj with rfl | hj
        · exact absurd hlt (lt_irrefl _)
        · have := (pairwise_cons.1 (pairwise_append.1 hsorted).2.1).1 j hj
          exact absurd hlt this.asymm

/-! ## The gamma flip -/

def netGamma (v : Valuation) (quotes : List ContractQuote) (k : ℚ) : ℚ :=
  ((quotes.filter fun q => q.strike = k).map fun q =>
    match q.right with
    | .call => q.baseGex v
    | .put => -q.baseGex v).sum

/-- Where net gamma exposures of both signs are listed, two neighbouring strikes have
    opposite ones: no strikes of net exposure zero keep the signs apart. -/
def SignsMeet (v : Valuation) (quotes : List ContractQuote) : Prop :=
  (∃ k ∈ quotes.map ContractQuote.strike, netGamma v quotes k < 0) →
  (∃ k ∈ quotes.map ContractQuote.strike, 0 < netGamma v quotes k) →
  ∃ k ∈ quotes.map ContractQuote.strike, ∃ j ∈ quotes.map ContractQuote.strike, k < j ∧
    (∀ i ∈ quotes.map ContractQuote.strike, ¬ (k < i ∧ i < j)) ∧
    netGamma v quotes k * netGamma v quotes j < 0

theorem flipBetween_mem {prev curr : ExposureLadderRow} (hlt : prev.netGex * curr.netGex < 0)
    (hspan : prev.strike < curr.strike) :
    prev.strike < flipBetween prev curr ∧ flipBetween prev curr < curr.strike := by
  have hprev : 0 < |prev.netGex| := abs_pos.2 (left_ne_zero_of_mul hlt.ne)
  have hcurr : 0 < |curr.netGex| := abs_pos.2 (right_ne_zero_of_mul hlt.ne)
  have hspan' : 0 < curr.strike - prev.strike := sub_pos.2 hspan
  have hfrac : |prev.netGex| / (|prev.netGex| + |curr.netGex|) < 1 := by
    rw [div_lt_one (by positivity)]
    linarith
  rw [flipBetween]
  constructor
  · have : 0 < |prev.netGex| / (|prev.netGex| + |curr.netGex|) * (curr.strike - prev.strike) := by
      positivity
    linarith
  · have := mul_lt_mul_of_pos_right hfrac hspan'
    linarith

theorem findGammaFlip_eq_some {x : ℚ} (hsorted : ladder.Pairwise fun a b => a.strike < b.strike)
    (h : findGammaFlip ladder = some x) :
    ∃ p ∈ neighbours ladder, p.1.netGex * p.2.netGex < 0 ∧ ∃ y, p.1.strike < y ∧
      y < p.2.strike ∧ x = roundAt (1 / 100) y := by
  induction ladder using findGammaFlip.induct with
  | case1 prev curr rest hlt =>
    have hspan : prev.strike < curr.strike :=
      (pairwise_cons.1 hsorted).1 curr mem_cons_self
    obtain ⟨hlow, hhigh⟩ := flipBetween_mem hlt hspan
    rw [findGammaFlip, if_pos hlt, if_neg (sub_pos.2 hspan).ne', Option.some.injEq] at h
    refine ⟨(prev, curr), ?_, hlt, flipBetween prev curr, hlow, hhigh, h.symm⟩
    rw [neighbours_cons_cons]
    exact mem_cons_self
  | case2 prev curr rest hge ih =>
    rw [findGammaFlip, if_neg hge] at h
    obtain ⟨p, hp, hrest⟩ := ih (pairwise_cons.1 hsorted).2 h
    refine ⟨p, ?_, hrest⟩
    rw [neighbours_cons_cons]
    exact mem_cons_of_mem _ hp
  | case3 ladder hne =>
    rcases ladder with _ | ⟨a, _ | ⟨b, rest⟩⟩
    · exact absurd h (by simp [findGammaFlip])
    · exact absurd h (by simp [findGammaFlip])
    · exact absurd rfl (hne a b rest)

theorem findGammaFlip_eq_none :
    findGammaFlip ladder = none ↔ ∀ p ∈ neighbours ladder, ¬ p.1.netGex * p.2.netGex < 0 := by
  induction ladder using findGammaFlip.induct with
  | case1 prev curr rest hlt =>
    rw [findGammaFlip, if_pos hlt, neighbours_cons_cons]
    refine ⟨fun h => absurd h (by simp), fun h => absurd hlt (h _ mem_cons_self)⟩
  | case2 prev curr rest hge ih =>
    rw [findGammaFlip, if_neg hge, ih, neighbours_cons_cons, forall_mem_cons]
    exact (and_iff_right hge).symm
  | case3 ladder hne =>
    rcases ladder with _ | ⟨a, _ | ⟨b, rest⟩⟩
    · simp [findGammaFlip, neighbours]
    · simp [findGammaFlip, neighbours]
    · exact absurd rfl (hne a b rest)

theorem row_netGex {row : ExposureLadderRow} (hrow : row ∈ ladderOf v quotes) :
    row.netGex = netGamma v quotes row.strike := by
  have hf : ExpiryBreakdown.netGex ∈ ExpiryBreakdown.amounts := by simp [ExpiryBreakdown.amounts]
  rw [row_amount hf hrow, netGamma]
  congr 1
  refine map_congr_left fun q _ => ?_
  rw [ContractQuote.term, Sums.add]
  cases q.right <;> simp [Sums.breakdown]

theorem signsMeet_iff :
    SignsMeet v quotes ↔ ((∃ r ∈ ladderOf v quotes, r.netGex < 0) →
      (∃ r ∈ ladderOf v quotes, 0 < r.netGex) →
      ∃ p ∈ neighbours (ladderOf v quotes), p.1.netGex * p.2.netGex < 0) := by
  have hstrikes : ∀ P : ℚ → Prop, (∃ k ∈ quotes.map ContractQuote.strike, P k) ↔
      ∃ r ∈ ladderOf v quotes, P r.strike := by
    intro P
    constructor
    · rintro ⟨k, hk, hP⟩
      obtain ⟨r, hr, rfl⟩ := mem_map.1 (mem_strikes.2 hk)
      exact ⟨r, hr, hP⟩
    · rintro ⟨r, hr, hP⟩
      exact ⟨r.strike, mem_strikes.1 (mem_map_of_mem hr), hP⟩
  have hneg : (∃ k ∈ quotes.map ContractQuote.strike, netGamma v quotes k < 0) ↔
      ∃ r ∈ ladderOf v quotes, r.netGex < 0 := by
    rw [hstrikes]
    exact exists_congr fun r => and_congr_right fun hr => by rw [row_netGex hr]
  have hpos : (∃ k ∈ quotes.map ContractQuote.strike, 0 < netGamma v quotes k) ↔
      ∃ r ∈ ladderOf v quotes, 0 < r.netGex := by
    rw [hstrikes]
    exact exists_congr fun r => and_congr_right fun hr => by rw [row_netGex hr]
  rw [SignsMeet, hneg, hpos]
  refine imp_congr_right fun _ => imp_congr_right fun _ => ?_
  rw [hstrikes]
  constructor
  · rintro ⟨r, hr, j, hj, hlt, hbetween, hsign⟩
    obtain ⟨c, hc, rfl⟩ := mem_map.1 (mem_strikes.2 hj)
    refine ⟨(r, c), (mem_neighbours_iff pairwise_ladder).2 ⟨hr, hc, hlt, ?_⟩, ?_⟩
    · intro i hi
      exact hbetween i.strike (mem_strikes.1 (mem_map_of_mem hi))
    · rwa [row_netGex hr, row_netGex hc]
  · rintro ⟨⟨r, c⟩, hp, hsign⟩
    obtain ⟨hr, hc, hlt, hbetween⟩ := (mem_neighbours_iff pairwise_ladder).1 hp
    refine ⟨r, hr, c.strike, mem_strikes.1 (mem_map_of_mem hc), hlt, ?_, ?_⟩
    · intro i hi
      obtain ⟨row, hrow, rfl⟩ := mem_map.1 (mem_strikes.2 hi)
      exact hbetween row hrow
    · rwa [← row_netGex hr, ← row_netGex hc]

/-! ## Levels -/

structure ExposureLevels (v : Valuation) (quotes : List ContractQuote) : Prop where
  breakdowns : ∀ row ∈ (computeExposure v quotes).ladder, ∀ f ∈ ExpiryBreakdown.amounts,
    (row.byExpiry.map fun e => f e.2).sum = f row.toExpiryBreakdown
  totalGex : (computeExposure v quotes).totalGex =
    ((computeExposure v quotes).ladder.map fun r => r.netGex).sum
  totalNetDex : (computeExposure v quotes).totalNetDex =
    ((computeExposure v quotes).ladder.map fun r => r.netDex).sum
  pcrOi : (computeExposure v quotes).pcrOi =
    if 0 < ((computeExposure v quotes).ladder.map fun r => r.callOi).sum then
      some (((computeExposure v quotes).ladder.map fun r => r.putOi).sum /
        ((computeExposure v quotes).ladder.map fun r => r.callOi).sum)
    else none
  maxPain : quotes ≠ [] →
    ∃ k, (computeExposure v quotes).keyLevels.maxPain = some k ∧ IsMaxPain quotes k
  flipBetween : ∀ x, (computeExposure v quotes).keyLevels.gammaFlip = some x →
    ∃ prev ∈ (computeExposure v quotes).ladder, ∃ curr ∈ (computeExposure v quotes).ladder,
      prev.netGex * curr.netGex < 0 ∧
      ∃ y, prev.strike < y ∧ y < curr.strike ∧ x = roundAt (1 / 100) y
  flip : (∃ r ∈ (computeExposure v quotes).ladder, r.netGex < 0) →
    (∃ r ∈ (computeExposure v quotes).ladder, 0 < r.netGex) →
    (computeExposure v quotes).keyLevels.gammaFlip ≠ none

theorem gammaFlip_eq :
    (computeExposure v quotes).keyLevels.gammaFlip = findGammaFlip (ladderOf v quotes) := by
  change (computeKeyLevels (ladderOf v quotes) quotes).gammaFlip = _
  cases ladderOf v quotes <;> rfl

theorem maxPain_eq (h : quotes ≠ []) :
    (computeExposure v quotes).keyLevels.maxPain = findMaxPain quotes := by
  obtain ⟨q, hq⟩ := exists_mem_of_ne_nil _ h
  obtain ⟨row, hrow, -⟩ := mem_map.1 (mem_strikes.2 (mem_map_of_mem hq))
  change (computeKeyLevels (ladderOf v quotes) quotes).maxPain = _
  revert hrow
  cases ladderOf v quotes with
  | nil => exact fun h => absurd h not_mem_nil
  | cons r rest => exact fun _ => rfl

/-- **Exposure levels** are as expected exactly where the signs of the exposures meet. -/
theorem computeExposure_levels (v : Valuation) (quotes : List ContractQuote) :
    ExposureLevels v quotes ↔ SignsMeet v quotes := by
  have hcall : ExpiryBreakdown.callOi ∈ ExpiryBreakdown.amounts := by
    simp [ExpiryBreakdown.amounts]
  have hput : ExpiryBreakdown.putOi ∈ ExpiryBreakdown.amounts := by
    simp [ExpiryBreakdown.amounts]
  have hrun := exposureLoop_summed v quotes
  rw [signsMeet_iff]
  constructor
  · intro h hneg hpos
    have hflip := h.flip hneg hpos
    rw [gammaFlip_eq, Ne, findGammaFlip_eq_none, not_forall₂] at hflip
    obtain ⟨p, hp, hlt⟩ := hflip
    exact ⟨p, hp, not_not.1 hlt⟩
  · intro h
    constructor
    · exact fun row hrow f hf => breakdowns_sum hf hrow
    · rfl
    · rfl
    · change (if 0 < _ then some (_ / _) else none) = _
      rw [hrun.totalCallOi, hrun.totalPutOi, ← rows_sum hcall, ← rows_sum hput]
      rfl
    · intro hne
      rw [maxPain_eq hne]
      exact findMaxPain_isMaxPain hne
    · intro x hx
      rw [gammaFlip_eq] at hx
      obtain ⟨⟨prev, curr⟩, hp, hlt, hy⟩ := findGammaFlip_eq_some pairwise_ladder hx
      obtain ⟨hprev, hcurr⟩ := mem_of_mem_neighbours hp
      exact ⟨prev, hprev, curr, hcurr, hlt, hy⟩
    · intro hneg hpos
      obtain ⟨p, hp, hlt⟩ := h hneg hpos
      rw [gammaFlip_eq, Ne, findGammaFlip_eq_none]
      exact fun hall => hall p hp hlt

def quoteOf (right : OptionRight) (strike gamma oi : ℚ) : ContractQuote where
  strike := strike
  right := right
  expiryDate := ⟨738000, by decide⟩
  contractSize := 100
  gamma := some gamma
  delta := some 0
  openInterest := some oi
  volume := none
  impliedVol := none
  mark := none

/-- A strike whose call and put cancel hides the flip between its neighbours. -/
theorem computeExposure_levels_hidden :
    ¬ ExposureLevels ⟨fun _ => ⟨0, 0⟩, ⟨737000, by decide⟩, 100, 0⟩
      [quoteOf .put 90 1 1, quoteOf .call 100 1 1, quoteOf .put 100 1 1, quoteOf .call 110 1 1] := by
  intro h
  refine h.flip ?_ ?_ (by decide +kernel)
  · decide +kernel
  · decide +kernel

end ChartingPlatform
