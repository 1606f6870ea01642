/-
  Exact inference over paired observations (`paired_inference.py`).

  The deltas are added in the order of their keys under every assignment of signs, and each
  addition rounds to 34 digits.  Metric names, digests and the pairing receipt are left out.
-/
import ChartingPlatform.Allocation.Portfolios

namespace ChartingPlatform

open Lib List

/-! ## The calculation -/

/-- `PairedMetricObservation`. -/
structure PairedMetricObservation where
  observationKey : String
  baselineValue : ℚ
  variantValue : ℚ
  key_notBlank : notBlank observationKey = true

def PairedMetricObservation.delta (o : PairedMetricObservation) : Except PyError ℚ :=
  decimalMath.round (o.variantValue - o.baselineValue)

/-- `ExactPairedInference`. -/
structure ExactPairedInference where
  sampleSize : ℕ
  meanDelta : ℚ
  observedAbsoluteSum : ℚ
  extremePermutationCount : ℕ
  permutationCount : ℕ
  maximumExactObservations : ℕ

/-- `ExactPairedInference.__post_init__`. -/
def makeExactPairedInference (r : ExactPairedInference) : Except PyError ExactPairedInference := do
  ensure (1 ≤ r.sampleSize) (valueError "sample_size must be a positive integer")
  ensure (1 ≤ r.extremePermutationCount)
    (valueError "extreme_permutation_count must be a positive integer")
  ensure (1 ≤ r.permutationCount) (valueError "permutation_count must be a positive integer")
  ensure (r.extremePermutationCount ≤ r.permutationCount)
    (valueError "extreme permutations cannot exceed total permutations")
  ensure (r.permutationCount = 2 ^ r.sampleSize)
    (valueError "permutation_count must equal two to the sample_size")
  ensure (1 ≤ r.maximumExactObservations) (valueError "maximum_exact_observations must be positive")
  ensure (r.sampleSize ≤ r.maximumExactObservations)
    (valueError "sample_size exceeds maximum_exact_observations")
  return r

/-- `PairedInferenceOutcome`. -/
inductive PairedInferenceOutcome where
  | exact (r : ExactPairedInference)
  | unavailable (sampleSize maximumExactObservations : ℕ)

/-- `_validated_observations`. -/
def validatedObservations (observations : List PairedMetricObservation) (maximum : ℕ) :
    Except PyError (List PairedMetricObservation) := do
  ensure (1 ≤ maximum ∧ maximum ≤ 20)
    (valueError "maximum_exact_observations must be an integer between 1 and 20")
  ensure (observations ≠ []) (valueError "at least one paired metric observation is required")
  ensure (observations.map (·.observationKey)).Nodup
    (valueError "paired metric observation keys must be unique")
  return sortBy (·.observationKey) observations

/-- `delta if mask & (1 << index) else -delta`. -/
def signedDelta (mask : ℕ) (p : ℚ × ℕ) : Except PyError ℚ :=
  if mask.testBit p.2 then .ok p.1 else decimalMath.round (-p.1)

/-- `abs(signed_sum)`. -/
def absoluteSum (mask : ℕ) (deltas : List ℚ) : Except PyError ℚ := do
  let signedSum ← totalFrom decimalMath.round (signedDelta mask) 0 deltas.zipIdx
  decimalMath.round |signedSum|

/-- `infer_paired_mean`. -/
def inferPairedMean (observations : List PairedMetricObservation) (maximum : ℕ) :
    Except PyError PairedInferenceOutcome := do
  let ordered ← validatedObservations observations maximum
  if maximum < ordered.length then return .unavailable ordered.length maximum
  let deltas ← collect (ordered.map (·.delta))
  let observedSum ← totalFrom decimalMath.round .ok 0 deltas
  let observedAbsoluteSum ← decimalMath.round |observedSum|
  let sums ← collect ((List.range (2 ^ ordered.length)).map fun mask => absoluteSum mask deltas)
  let meanDelta ← decimalMath.round (observedSum / ordered.length)
  let r ← makeExactPairedInference {
    sampleSize := ordered.length
    meanDelta := meanDelta
    observedAbsoluteSum := observedAbsoluteSum
    extremePermutationCount := sums.countP fun s => observedAbsoluteSum ≤ s
    permutationCount := 2 ^ ordered.length
    maximumExactObservations := maximum }
  return .exact r

/-! ## Exact sums -/

/-- The sums under every assignment of signs. -/
def signings : List ℚ → List ℚ
  | [] => [0]
  | d :: ds => (signings ds).map (d + ·) ++ (signings ds).map (-d + ·)

/-- The number of assignments whose absolute sum is at least that of the deltas. -/
def extremeCount (ds : List ℚ) : ℕ := (signings ds).countP fun s => |ds.sum| ≤ |s|

/-- A sample that is small enough. -/
structure PairedSample where
  observations : List PairedMetricObservation
  maximum : ℕ
  nonempty : observations ≠ []
  nodup_keys : (observations.map (·.observationKey)).Nodup
  length_le : observations.length ≤ maximum
  maximum_le : maximum ≤ 20

/-- The exact difference of the two sides. -/
def PairedMetricObservation.difference (o : PairedMetricObservation) : ℚ :=
  o.variantValue - o.baselineValue

def PairedSample.differences (p : PairedSample) : List ℚ := p.observations.map (·.difference)

def KeepsDigits (x : ℚ) : Prop := decimalMath.round x = .ok x

instance (x : ℚ) : Decidable (KeepsDigits x) := inferInstanceAs (Decidable (_ = _))

/-- No signed sum of some of the differences has more digits than the context keeps. -/
def KeepsSums (ds : List ℚ) : Prop := ∀ es ∈ ds.sublists, ∀ s ∈ signings es, KeepsDigits s

instance (ds : List ℚ) : Decidable (KeepsSums ds) := by unfold KeepsSums; infer_instance

section
variable {α : Type} {ds es done : List ℚ} {d s x : ℚ} {mask n : ℕ}

theorem signings_perm (h : ds.Perm es) : (signings ds).Perm (signings es) := by
  induction h with
  | nil => exact .rfl
  | cons d _ ih => exact (ih.map _).append (ih.map _)
  | swap a b l =>
    simp only [signings, map_append, map_map, ← Multiset.coe_eq_coe,
      ← Multiset.coe_add, ← Multiset.map_coe, Function.comp_def, add_left_comm]
    abel
  | trans _ _ ih₁ ih₂ => exact ih₁.trans ih₂

theorem signings_neg : (signings (ds.map (-·))).Perm (signings ds) := by
  induction ds with
  | nil => exact .rfl
  | cons d ds ih =>
    simp only [map_cons, signings, neg_neg]
    exact perm_append_comm.trans ((ih.map _).append (ih.map _))

theorem extremeCount_perm (h : es.Perm ds) : extremeCount es = extremeCount ds := by
  unfold extremeCount
  rw [h.sum_eq]
  exact (signings_perm h).countP_eq _

theorem extremeCount_neg : extremeCount (ds.map (-·)) = extremeCount ds := by
  unfold extremeCount
  rw [← sum_neg, abs_neg]
  exact signings_neg.countP_eq _

/-- The sum under the signs of a mask. -/
def maskedSum (mask : ℕ) (ds : List ℚ) : ℚ :=
  (ds.zipIdx.map fun p => if mask.testBit p.2 then p.1 else -p.1).sum

theorem maskedSum_cons :
    maskedSum mask (d :: ds) = (if mask.testBit 0 then d else -d) + maskedSum (mask / 2) ds := by
  unfold maskedSum
  rw [zipIdx_cons, map_cons, sum_cons, zero_add, zipIdx_succ, map_map]
  simp [Function.comp_def, Nat.testBit_add_one]

theorem map_range_two_mul (f : ℕ → ℚ) :
    ((List.range (2 * n)).map f).Perm
      ((List.range n).map (fun m => f (2 * m + 1)) ++ (List.range n).map fun m => f (2 * m)) := by
  induction n with
  | zero => exact .rfl
  | succ n ih =>
    rw [← Multiset.coe_eq_coe, ← Multiset.coe_add] at ih ⊢
    simp only [Nat.mul_succ, range_succ, map_append, ← Multiset.coe_add, ih,
      map_cons, map_nil]
    abel

/-- **The masks** are the assignments of signs. -/
theorem perm_signings (ds : List ℚ) :
    ((List.range (2 ^ ds.length)).map fun mask => maskedSum mask ds).Perm (signings ds) := by
  induction ds with
  | nil => exact .of_eq (by simp [maskedSum, signings])
  | cons d ds ih =>
    rw [length_cons, pow_succ']
    refine (map_range_two_mul _).trans ?_
    have hodd : ∀ m, maskedSum (2 * m + 1) (d :: ds) = d + maskedSum m ds := fun m => by
      rw [maskedSum_cons, show (2 * m + 1) / 2 = m by omega]
      simp
    have heven : ∀ m, maskedSum (2 * m) (d :: ds) = -d + maskedSum m ds := fun m => by
      rw [maskedSum_cons, show 2 * m / 2 = m by omega]
      simp
    simp only [hodd, heven]
    have hd := ih.map (d + ·)
    have hneg := ih.map (-d + ·)
    rw [map_map] at hd hneg
    exact hd.append hneg

/-! ## Sums that keep their digits -/

theorem KeepsSums.subperm (h : KeepsSums ds) (hes : es.Subperm ds) (hs : s ∈ signings es) :
    KeepsDigits s := by
  obtain ⟨l, hl, hsub⟩ := hes
  exact h l (mem_sublists.2 hsub) s ((signings_perm hl).mem_iff.2 hs)

theorem KeepsSums.perm (h : KeepsSums ds) (hes : es.Perm ds) : KeepsSums es := fun _ hl _ hs =>
  h.subperm ((mem_sublists.1 hl).subperm.trans hes.subperm) hs

theorem KeepsSums.neg (h : KeepsSums ds) : KeepsSums (ds.map (-·)) := by
  intro es hes s hs
  have hsub := (mem_sublists.1 hes).map (-·)
  rw [map_map, show (fun x : ℚ => -x) ∘ (fun x => -x) = id from funext neg_neg,
    map_id] at hsub
  exact h _ (mem_sublists.2 hsub) s (signings_neg.mem_iff.2 hs)

theorem KeepsSums.keepsDigits (h : KeepsSums ds) (hd : d ∈ ds) : KeepsDigits d :=
  h [d] (mem_sublists.2 (singleton_sublist.2 hd)) d (by simp [signings])

theorem KeepsDigits.neg (h : KeepsDigits x) : KeepsDigits (-x) := by
  obtain ⟨hfits, hvalue⟩ := DecimalContext.round_eq_ok.1 h
  refine DecimalContext.round_eq_ok.2 ⟨?_, by rw [DecimalContext.value_neg, hvalue]⟩
  rw [DecimalContext.value_neg]
  exact hfits.of_abs_le (abs_neg _).le

theorem KeepsDigits.abs (h : KeepsDigits x) : KeepsDigits |x| := by
  rcases abs_choice x with hx | hx
  · rwa [hx]
  · rw [hx]
    exact h.neg

/-- A sum under signs is exact where no signed sum loses a digit: what is added so far is a sum of
the numbers before. -/
theorem total_of_keeps {f : α → ℚ} (term : α → Except PyError ℚ) (g : α → ℚ) {l : List α}
    (hterm : ∀ a ∈ l, term a = .ok (f a)) (hsign : ∀ a ∈ l, f a = g a ∨ f a = -g a)
    (hs : s ∈ signings done) (hkeeps : KeepsSums (done ++ l.map g)) :
    totalFrom decimalMath.round term s l = .ok (s + (l.map f).sum) ∧
      KeepsDigits (s + (l.map f).sum) := by
  induction l generalizing s done with
  | nil =>
    rw [map_nil, append_nil] at hkeeps
    exact ⟨by simp [totalFrom], by simpa using hkeeps.subperm (.refl _) hs⟩
  | cons a l ih =>
    have hnext : s + f a ∈ signings (g a :: done) := by
      rw [signings, mem_append, mem_map, mem_map]
      rcases hsign a mem_cons_self with hf | hf
      · exact .inl ⟨s, hs, by rw [hf, add_comm]⟩
      · exact .inr ⟨s, hs, by rw [hf, add_comm]⟩
    have hkeeps' : KeepsSums ((g a :: done) ++ l.map g) := hkeeps.perm perm_middle.symm
    have hdigits : decimalMath.round (s + f a) = .ok (s + f a) :=
      hkeeps'.subperm (sublist_append_left _ _).subperm hnext
    rw [totalFrom_cons, hterm a mem_cons_self, ok_bind, map_cons, sum_cons,
      ← add_assoc, hdigits, ok_bind]
    exact ih (fun b hb => hterm b (mem_cons_of_mem _ hb))
      (fun b hb => hsign b (mem_cons_of_mem _ hb)) hnext hkeeps'

theorem absoluteSum_of_keeps (hkeeps : KeepsSums ds) :
    absoluteSum mask ds = .ok |maskedSum mask ds| := by
  have hterm : ∀ p ∈ ds.zipIdx, signedDelta mask p =
      .ok (if mask.testBit p.2 then p.1 else -p.1) := by
    intro p hp
    unfold signedDelta
    split_ifs
    · rfl
    · exact (hkeeps.keepsDigits (fst_mem_of_mem_zipIdx hp)).neg
  have hmap : ds.zipIdx.map Prod.fst = ds := zipIdx_map_fst 0 ds
  have hstart : (0 : ℚ) ∈ signings [] := mem_singleton_self 0
  obtain ⟨htotal, hkept⟩ := total_of_keeps (signedDelta mask) Prod.fst hterm
    (fun p _ => by split_ifs <;> simp) hstart (by rwa [hmap])
  rw [zero_add] at htotal hkept
  rw [absoluteSum, htotal, ok_bind]
  exact hkept.abs

/-- The mean of a sum that fits the context fits it. -/
theorem exists_mean (h : KeepsDigits x) (hn : 1 ≤ n) : ∃ m, decimalMath.round (x / n) = .ok m := by
  obtain ⟨hfits, hvalue⟩ := DecimalContext.round_eq_ok.1 h.abs
  rw [hvalue] at hfits
  have habs : |x / n| ≤ |x| := by
    rw [abs_div, Nat.abs_cast]
    exact div_le_self (abs_nonneg x) (by exact_mod_cast hn)
  obtain ⟨hlower, hupper⟩ := abs_le.1 habs
  refine ⟨_, DecimalContext.round_eq_ok.2 ⟨?_, rfl⟩⟩
  refine (hfits.of_abs_le (x := -|x|) (abs_neg _).le).of_mem_Icc hfits ?_ ?_
  · have := DecimalContext.value_mono (c := decimalMath) hlower
    rwa [DecimalContext.value_neg, hvalue] at this
  · have := DecimalContext.value_mono (c := decimalMath) hupper
    rwa [hvalue] at this

theorem sum_mem_signings : ds.sum ∈ signings ds := by
  induction ds with
  | nil => exact mem_singleton_self 0
  | cons d ds ih => exact mem_append_left _ (mem_map.2 ⟨ds.sum, ih, sum_cons.symm⟩)

theorem extremeCount_mem : 1 ≤ extremeCount ds ∧ extremeCount ds ≤ 2 ^ ds.length := by
  constructor
  · exact countP_pos_iff.2 ⟨ds.sum, sum_mem_signings, by simp⟩
  · have hlength := (perm_signings ds).length_eq
    rw [length_map, length_range] at hlength
    exact hlength ▸ countP_le_length

theorem countP_masks :
    ((List.range (2 ^ ds.length)).map fun mask => |maskedSum mask ds|).countP
      (fun s => |ds.sum| ≤ s) = extremeCount ds := by
  have hcount := (perm_signings ds).countP_eq fun s => |ds.sum| ≤ |s|
  rw [countP_map] at hcount ⊢
  exact hcount

/-- The run on a sample whose sums keep their digits. -/
theorem inferPairedMean_of_keeps (p : PairedSample) (hkeeps : KeepsSums p.differences) :
    ∃ r, inferPairedMean p.observations p.maximum = .ok (.exact r) ∧
      r.extremePermutationCount = extremeCount p.differences := by
  have hperm : ((sortBy (·.observationKey) p.observations).map (·.difference)).Perm
      p.differences := (perm_sortBy _ _).map _
  rw [← extremeCount_perm hperm]
  replace hkeeps := hkeeps.perm hperm
  have hlength : (sortBy (·.observationKey) p.observations).length =
      ((sortBy (·.observationKey) p.observations).map (·.difference)).length :=
    (length_map _).symm
  have hdeltas : collect ((sortBy (·.observationKey) p.observations).map (·.delta)) =
      .ok ((sortBy (·.observationKey) p.observations).map (·.difference)) := by
    rw [collect_eq_ok, map_map]
    exact map_congr_left fun o ho => hkeeps.keepsDigits (mem_map_of_mem ho)
  have hle : (sortBy (·.observationKey) p.observations).length ≤ p.maximum :=
    (perm_sortBy _ _).length_eq.trans_le p.length_le
  have hpos : 1 ≤ (sortBy (·.observationKey) p.observations).length := by
    rw [(perm_sortBy _ _).length_eq]
    exact length_pos_iff.2 p.nonempty
  have hvalid : validatedObservations p.observations p.maximum =
      .ok (sortBy (·.observationKey) p.observations) := by
    simp [validatedObservations, ensure_of, p.nonempty, p.nodup_keys, p.maximum_le,
      hpos.trans hle]
  generalize (sortBy (·.observationKey) p.observations).map (·.difference) = ds at *
  rw [hlength] at hle hpos
  have hterm : ∀ x ∈ ds, (.ok x : Except PyError ℚ) = .ok (id x) := fun _ _ => rfl
  have hstart : (0 : ℚ) ∈ signings [] := mem_singleton_self 0
  obtain ⟨htotal, hsum⟩ := total_of_keeps .ok id hterm (fun _ _ => .inl rfl) hstart
    (by rwa [map_id])
  rw [map_id, zero_add] at htotal hsum
  obtain ⟨mean, hmean⟩ := exists_mean hsum hpos
  have hsums : collect ((List.range (2 ^ ds.length)).map fun mask => absoluteSum mask ds) =
      .ok ((List.range (2 ^ ds.length)).map fun mask => |maskedSum mask ds|) := by
    rw [collect_eq_ok, map_map]
    exact map_congr_left fun mask _ => absoluteSum_of_keeps hkeeps
  refine ⟨⟨ds.length, mean, |ds.sum|, extremeCount ds, 2 ^ ds.length, p.maximum⟩, ?_, rfl⟩
  unfold inferPairedMean
  rw [hvalid, ok_bind, hlength, if_neg hle.not_gt, hdeltas, ok_bind, htotal,
    ok_bind, show decimalMath.round |ds.sum| = .ok |ds.sum| from hsum.abs, ok_bind, hsums, ok_bind,
    hmean, ok_bind, countP_masks]
  simp [makeExactPairedInference, ensure_of, hpos, hle, hpos.trans hle, extremeCount_mem,
    Nat.one_le_two_pow]

end

/-- **The count is exact** for a sample in which no signed sum of differences loses a digit, and it
is the same for every sample with these differences: under other keys, in another order, and with
the two sides of every pair swapped. -/
theorem inferPairedMean_exact (p : PairedSample) (hkeeps : KeepsSums p.differences) :
    (∃ r, inferPairedMean p.observations p.maximum = .ok (.exact r) ∧
        r.extremePermutationCount = extremeCount p.differences) ∧
      ∀ q : PairedSample, q.differences.Perm p.differences ∨
          q.differences.Perm (p.differences.map (-·)) →
        ∃ r, inferPairedMean q.observations q.maximum = .ok (.exact r) ∧
          r.extremePermutationCount = extremeCount p.differences := by
  refine ⟨inferPairedMean_of_keeps p hkeeps, fun q hq => ?_⟩
  rcases hq with hq | hq
  · rw [← extremeCount_perm hq]
    exact inferPairedMean_of_keeps q (hkeeps.perm hq)
  · rw [← extremeCount_neg, ← extremeCount_perm hq]
    exact inferPairedMean_of_keeps q (hkeeps.neg.perm hq)

/-- A sample of two observations with given deltas. -/
def pairedSample (x y : ℚ) : PairedSample where
  observations := [⟨"a", 0, x, Eq.refl true⟩, ⟨"b", 0, y, Eq.refl true⟩]
  maximum := 20
  nonempty := by simp
  nodup_keys := by simp
  length_le := by simp
  maximum_le := le_rfl

/-- One and two, under the keys of each other and with the other sign. -/
theorem inferPairedMean_small :
    KeepsSums (pairedSample 1 2).differences ∧ extremeCount [1, 2] = 2 ∧
      (∃ r, inferPairedMean (pairedSample 1 2).observations 20 = .ok (.exact r) ∧
        r.extremePermutationCount = extremeCount [1, 2]) ∧
      (∃ r, inferPairedMean (pairedSample 2 1).observations 20 = .ok (.exact r) ∧
        r.extremePermutationCount = extremeCount [1, 2]) ∧
      ∃ r, inferPairedMean (pairedSample (-1) (-2)).observations 20 = .ok (.exact r) ∧
        r.extremePermutationCount = extremeCount [1, 2] := by
  have hkeeps : KeepsSums (pairedSample 1 2).differences := by decide +kernel
  have hones : (pairedSample 1 2).differences = [1, 2] := by decide +kernel
  obtain ⟨hrun, hothers⟩ := inferPairedMean_exact (pairedSample 1 2) hkeeps
  rw [hones] at hrun hothers
  exact ⟨hkeeps, by decide +kernel, hrun,
    hothers (pairedSample 2 1) (.inl (by decide +kernel)),
    hothers (pairedSample (-1) (-2)) (.inr (by decide +kernel))⟩

/-- The sum of a large and a small difference loses the small one: all four signings tie. -/
theorem inferPairedMean_rounded :
    (pairedSample (10 ^ 40) 1).differences = [10 ^ 40, 1] ∧
      ¬ ∃ r, inferPairedMean (pairedSample (10 ^ 40) 1).observations 20 = .ok (.exact r) ∧
        r.extremePermutationCount = extremeCount [10 ^ 40, 1] := by
  refine ⟨by decide +kernel, ?_⟩
  rintro ⟨r, hr, hcount⟩
  have heval : (inferPairedMean (pairedSample (10 ^ 40) 1).observations 20).toOption.map
      (fun | .exact r => r.extremePermutationCount | .unavailable _ _ => 0) = some 4 := by
    decide +kernel
  have htwo : extremeCount [10 ^ 40, 1] = 2 := by decide +kernel
  rw [hr] at heval
  rw [htwo] at hcount
  have hfour : r.extremePermutationCount = 4 := Option.some.inj heval
  omega

end ChartingPlatform
