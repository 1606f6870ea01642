/-
  Expiration summaries: `list_exposure_expirations`, without estimates of missing gammas,
  against `_compute_exposure`.
-/
import ChartingPlatform.Options.Levels

namespace ChartingPlatform

open Lib List

variable {v : Valuation} {quotes : List ContractQuote}

/-! ## Sums -/

def ContractQuote.signedGex (v : Valuation) (q : ContractQuote) (gamma : ℚ) : ℚ :=
  match q.right with
  | .call => gamma * q.oi * q.contractSize * (v.spot * v.spot)
  | .put => -(gamma * q.oi * q.contractSize * (v.spot * v.spot))

def ContractQuote.oiOn (right : OptionRight) (q : ContractQuote) : ℚ :=
  if q.right = right then q.oi else 0

def ContractQuote.estimatedGamma (v : Valuation) (q : ContractQuote) : ℚ :=
  if q.gamma = none then ((q.estimated v).map Greeks.gamma).getD 0 else 0

theorem ContractQuote.gammaF_eq (q : ContractQuote) :
    q.gammaF v = q.gamma.getD 0 + q.estimatedGamma v := by
  rw [gammaF, estimatedGamma]
  cases q.gamma <;> simp

theorem ContractQuote.signedGex_add (q : ContractQuote) (x y : ℚ) :
    q.signedGex v (x + y) = q.signedGex v x + q.signedGex v y := by
  rw [signedGex, signedGex, signedGex]
  cases q.right <;> simp only <;> ring

theorem term_netGex (q : ContractQuote) :
    q.term v ExpiryBreakdown.netGex = q.signedGex v (q.gammaF v) := by
  rw [ContractQuote.term, Sums.add, ContractQuote.signedGex]
  cases q.right <;> simp [Sums.breakdown, ContractQuote.baseGex]

theorem term_callOi (q : ContractQuote) :
    q.term v ExpiryBreakdown.callOi = q.oiOn .call := by
  rw [ContractQuote.term, Sums.add, ContractQuote.oiOn]
  cases q.right <;> simp [Sums.breakdown]

theorem term_putOi (q : ContractQuote) :
    q.term v ExpiryBreakdown.putOi = q.oiOn .put := by
  rw [ContractQuote.term, Sums.add, ContractQuote.oiOn]
  cases q.right <;> simp [Sums.breakdown]

/-! ## Summaries -/

def quotesOf (quotes : List ContractQuote) (expiry : Day) : List ContractQuote :=
  quotes.filter fun q => q.expiryDate = expiry

def byExpiryOf (v : Valuation) (quotes : List ContractQuote) : List (Day × ExpirySums) :=
  quotes.foldl (fun d q => updateEntry {} (fun b => b.add (v.spot ^ 2) q) d q.expiryDate) []

theorem byExpiryOf_accumulates (v : Valuation) (quotes : List ContractQuote) :
    Accumulates {} (ExpirySums.add (v.spot ^ 2)) ContractQuote.expiryDate quotes
      (byExpiryOf v quotes) := by
  induction quotes using List.reverseRecOn with
  | nil => exact Accumulates.nil
  | append_singleton quotes q ih =>
    rw [byExpiryOf, foldl_concat]
    exact ih.add

theorem expirySums_foldl (v : Valuation) (l : List ContractQuote) :
    let s := l.foldl (ExpirySums.add (v.spot ^ 2)) {}
    s.callGex + s.putGex = (l.map fun q => q.signedGex v (q.gamma.getD 0)).sum ∧
      s.callOi = (l.map (ContractQuote.oiOn .call)).sum ∧
      s.putOi = (l.map (ContractQuote.oiOn .put)).sum := by
  refine ⟨?_, ?_, ?_⟩
  · rw [foldl_sum (fun s : ExpirySums => s.callGex + s.putGex)
      fun q => q.signedGex v (q.gamma.getD 0)]
    · simp
    · intro s q
      rw [ExpirySums.add, ContractQuote.signedGex]
      cases q.right <;> simp only <;> ring
  · rw [foldl_sum ExpirySums.callOi (ContractQuote.oiOn .call)]
    · simp
    · intro s q
      rw [ExpirySums.add, ContractQuote.oiOn]
      cases q.right <;> simp
  · rw [foldl_sum ExpirySums.putOi (ContractQuote.oiOn .put)]
    · simp
    · intro s q
      rw [ExpirySums.add, ContractQuote.oiOn]
      cases q.right <;> simp

structure SummaryAgrees (v : Valuation) (quotes : List ContractQuote) (s : ExpirationSummary) :
    Prop where
  totalGex : s.totalGex = (computeExposure v (quotesOf quotes s.expiration)).totalGex
  totalCallOi : s.totalCallOi =
    ((computeExposure v (quotesOf quotes s.expiration)).ladder.map fun r => r.callOi).sum
  totalPutOi : s.totalPutOi =
    ((computeExposure v (quotesOf quotes s.expiration)).ladder.map fun r => r.putOi).sum

def Reported (providerExpirations : Finset Day) (quotes : List ContractQuote) (expiry : Day) :
    Prop :=
  expiry ∈ quotes.map ContractQuote.expiryDate ∧
    (providerExpirations = ∅ ∨ expiry ∈ providerExpirations)

def summaryOf (v : Valuation) (quotes : List ContractQuote) (expiry : Day) : ExpirationSummary :=
  let s := entryOf {} (byExpiryOf v quotes) expiry
  { expiration := expiry
    dte := (expiry : ℕ) - (v.today : ℕ)
    totalCallOi := s.callOi
    totalPutOi := s.putOi
    pcrOi := if 0 < s.callOi then some (s.putOi / s.callOi) else none
    totalGex := s.callGex + s.putGex }

theorem mem_listExposureExpirations (v : Valuation) {provider : Finset Day} {spot : Option ℚ}
    (hspot : spot.getD 0 = v.spot) {s : ExpirationSummary} :
    s ∈ listExposureExpirations provider quotes spot v.today ↔
      ∃ expiry, Reported provider quotes expiry ∧ summaryOf v quotes expiry = s := by
  rw [listExposureExpirations, hspot, mem_map]
  simp only [mem_filter, mem_sortBy, decide_eq_true_eq]
  refine exists_congr fun expiry => and_congr_left fun _ => and_congr_left fun _ => ?_
  exact (byExpiryOf_accumulates v quotes).mem_keys expiry

theorem summaryOf_agrees {expiry : Day} :
    SummaryAgrees v quotes (summaryOf v quotes expiry) ↔
      ((quotesOf quotes expiry).map fun q => q.signedGex v (q.estimatedGamma v)).sum = 0 := by
  have hentry := (byExpiryOf_accumulates v quotes).entry expiry
  have hsums := expirySums_foldl v (quotesOf quotes expiry)
  dsimp only at hsums
  rw [quotesOf, ← hentry, ← quotesOf] at hsums
  obtain ⟨hgex, hcall, hput⟩ := hsums
  have hcallOi : ExpiryBreakdown.callOi ∈ ExpiryBreakdown.amounts := by
    simp [ExpiryBreakdown.amounts]
  have hputOi : ExpiryBreakdown.putOi ∈ ExpiryBreakdown.amounts := by
    simp [ExpiryBreakdown.amounts]
  have hnet : ExpiryBreakdown.netGex ∈ ExpiryBreakdown.amounts := by
    simp [ExpiryBreakdown.amounts]
  have htotal : (computeExposure v (quotesOf quotes expiry)).totalGex =
      (summaryOf v quotes expiry).totalGex +
        ((quotesOf quotes expiry).map fun q => q.signedGex v (q.estimatedGamma v)).sum := by
    change ((ladderOf v (quotesOf quotes expiry)).map fun r => r.netGex).sum = _
    rw [rows_sum hnet, summaryOf, hgex, ← sum_map_add]
    congr 1
    refine map_congr_left fun q _ => ?_
    rw [term_netGex, q.gammaF_eq, q.signedGex_add]
  constructor
  · intro h
    have := h.totalGex.trans htotal
    linarith
  · intro h
    refine ⟨?_, ?_, ?_⟩
    · rw [h, add_zero] at htotal
      exact htotal.symm
    · change _ = ((ladderOf v (quotesOf quotes expiry)).map fun r => r.callOi).sum
      rw [rows_sum hcallOi, summaryOf, hcall]
      exact congrArg List.sum (map_congr_left fun q _ => (term_callOi q).symm)
    · change _ = ((ladderOf v (quotesOf quotes expiry)).map fun r => r.putOi).sum
      rw [rows_sum hputOi, summaryOf, hput]
      exact congrArg List.sum (map_congr_left fun q _ => (term_putOi q).symm)

/-- **The summaries agree** with the exposures of their expirations exactly where, in each
    reported expiration, the estimated exposures of the quotes without a gamma cancel. -/
theorem listExposureExpirations_agrees (calculateGreeks : GreekInputs → Greeks) (today : Day)
    (rfr : ℚ) (spot : Option ℚ) (provider : Finset Day) (quotes : List ContractQuote) :
    (∀ s ∈ listExposureExpirations provider quotes spot today,
      SummaryAgrees ⟨calculateGreeks, today, spot.getD 0, rfr⟩ quotes s) ↔
    ∀ expiry, Reported provider quotes expiry →
      ((quotesOf quotes expiry).map fun q =>
        q.signedGex ⟨calculateGreeks, today, spot.getD 0, rfr⟩
          (q.estimatedGamma ⟨calculateGreeks, today, spot.getD 0, rfr⟩)).sum = 0 := by
  set v : Valuation := ⟨calculateGreeks, today, spot.getD 0, rfr⟩
  have hmem : ∀ s, s ∈ listExposureExpirations provider quotes spot today ↔
      ∃ expiry, Reported provider quotes expiry ∧ summaryOf v quotes expiry = s :=
    fun s => mem_listExposureExpirations v rfl
  constructor
  · intro h expiry hexpiry
    exact summaryOf_agrees.1 (h _ ((hmem _).2 ⟨expiry, hexpiry, rfl⟩))
  · intro h s hs
    obtain ⟨expiry, hexpiry, rfl⟩ := (hmem s).1 hs
    exact summaryOf_agrees.2 (h expiry hexpiry)

/-- A quoted call without a gamma counts with its estimate in one of the two. -/
theorem listExposureExpirations_estimated :
    ¬ ∀ s ∈ listExposureExpirations ∅
        [{ quoteOf .call 100 0 1 with gamma := none, impliedVol := some (1 / 5) }] (some 100)
        ⟨737000, by decide⟩,
      SummaryAgrees ⟨fun _ => ⟨1 / 2, 1 / 50⟩, ⟨737000, by decide⟩, 100, 0⟩
        [{ quoteOf .call 100 0 1 with gamma := none, impliedVol := some (1 / 5) }] s := by
  intro h
  have hgex := fun s hs => (h s hs).totalGex
  revert hgex
  decide +kernel

end ChartingPlatform
