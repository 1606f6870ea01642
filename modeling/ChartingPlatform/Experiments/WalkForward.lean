/-
  Walk-forward folds (`experiments.py`): the specification, the folds of a history, and
  the aggregation of the out-of-sample observations.
-/
import ChartingPlatform.Lib.Scans
import ChartingPlatform.Lib.Windows
import ChartingPlatform.Lib.Sorting

namespace ChartingPlatform

open Lib List

/-! ## Specifications and folds -/

/-- `WalkForwardMode`. -/
inductive WalkForwardMode where
  | anchored | rolling
  deriving DecidableEq, Repr

/-- `WalkForwardSpec`. -/
structure WalkForwardSpec where
  trainPeriods : ℕ
  testPeriods : ℕ
  stepPeriods : ℕ
  mode : WalkForwardMode
  gapPeriods : ℕ := 0
  embargoPeriods : ℕ := 0
  train_pos : 1 ≤ trainPeriods
  test_pos : 1 ≤ testPeriods
  step_pos : 1 ≤ stepPeriods
  test_le_step : testPeriods ≤ stepPeriods

/-- `WalkForwardFold`. -/
structure WalkForwardFold where
  foldIndex : ℕ
  trainIndices : List ℕ
  testIndices : List ℕ
  excludedIndices : List ℕ
  train_nonempty : trainIndices ≠ []
  train_increasing : trainIndices.Pairwise (· < ·)
  test_nonempty : testIndices ≠ []
  test_increasing : testIndices.Pairwise (· < ·)
  excluded_increasing : excludedIndices.Pairwise (· < ·)
  precedes : trainIndices.getLast train_nonempty < testIndices.head test_nonempty
  disjoint : (∀ i ∈ trainIndices, i ∉ testIndices ∧ i ∉ excludedIndices) ∧
    ∀ i ∈ testIndices, i ∉ excludedIndices
  covered : ∀ i ∈ List.range (testIndices.head test_nonempty),
    trainIndices.head train_nonempty ≤ i → i ∈ trainIndices ∨ i ∈ excludedIndices
  deriving DecidableEq

namespace WalkForwardFold

/-- `test_start`. -/
def testStart (f : WalkForwardFold) : ℕ := f.testIndices.head f.test_nonempty

/-- `test_end`. -/
def testEnd (f : WalkForwardFold) : ℕ := f.testIndices.getLast f.test_nonempty + 1

end WalkForwardFold

/-- `WalkForwardFold.__post_init__`. -/
def makeWalkForwardFold (foldIndex : ℕ) (train test excluded : List ℕ) :
    Except PyError WalkForwardFold :=
  if h₁ : train = [] then .error (valueError "train_indices must not be empty")
  else if h₂ : train.Pairwise (· < ·) then
    if h₃ : test = [] then .error (valueError "test_indices must not be empty")
    else if h₄ : test.Pairwise (· < ·) then
      if h₅ : excluded.Pairwise (· < ·) then
        if h₆ : train.getLast h₁ < test.head h₃ then
          if h₇ : (∀ i ∈ train, i ∉ test ∧ i ∉ excluded) ∧ ∀ i ∈ test, i ∉ excluded then
            if h₈ : ∀ i ∈ List.range (test.head h₃),
                train.head h₁ ≤ i → i ∈ train ∨ i ∈ excluded then
              .ok ⟨foldIndex, train, test, excluded, h₁, h₂, h₃, h₄, h₅, h₆, h₇, h₈⟩
            else .error (valueError
              "every pre-test observation in the fold span must be trained or excluded")
          else .error (valueError "train, test, and excluded indices must be disjoint")
        else .error (valueError "training observations must precede the OOS test window")
      else .error (valueError "excluded_indices must be strictly increasing")
    else .error (valueError "test_indices must be strictly increasing")
  else .error (valueError "train_indices must be strictly increasing")

/-! ## Building folds -/

/-- `range(start, stop, step)`. -/
def stepRange (start stop step : ℕ) : List ℕ :=
  (List.range ((stop - start + (step - 1)) / step)).map fun k => start + k * step

/-- The folds so far, and the observations that no later fold may train on. -/
structure FoldBook where
  folds : List WalkForwardFold := []
  forbidden : Finset ℕ := ∅

def trainingCandidates (spec : WalkForwardSpec) (forbidden : Finset ℕ) (testStart : ℕ) : List ℕ :=
  (List.range (testStart - spec.gapPeriods)).filter fun i => decide (i ∉ forbidden)

def trainingWindow (spec : WalkForwardSpec) (candidates : List ℕ) : List ℕ :=
  match spec.mode with
  | .anchored => candidates
  | .rolling => candidates.rtake spec.trainPeriods

def excludedBefore (spec : WalkForwardSpec) (forbidden : Finset ℕ) (testStart : ℕ) : List ℕ :=
  sortedList ((forbidden ∪ Finset.Ico (testStart - spec.gapPeriods) testStart).filter (· < testStart))

def addFold (observationCount : ℕ) (spec : WalkForwardSpec) (book : FoldBook) (testStart : ℕ) :
    Except PyError FoldBook :=
  let candidates := trainingCandidates spec book.forbidden testStart
  if candidates.length < spec.trainPeriods then .ok book
  else do
    let fold ← makeWalkForwardFold book.folds.length (trainingWindow spec candidates)
      (List.range' testStart spec.testPeriods) (excludedBefore spec book.forbidden testStart)
    let embargoEnd := min observationCount (testStart + spec.testPeriods + spec.embargoPeriods)
    return ⟨book.folds ++ [fold], book.forbidden ∪ Finset.Ico testStart embargoEnd⟩

def testStarts (observationCount : ℕ) (spec : WalkForwardSpec) : List ℕ :=
  stepRange (spec.trainPeriods + spec.gapPeriods) (observationCount + 1 - spec.testPeriods)
    spec.stepPeriods

/-- `build_walk_forward_folds`. -/
def buildWalkForwardFolds (observationCount : ℕ) (spec : WalkForwardSpec) :
    Except PyError (List WalkForwardFold) := do
  ensure (1 ≤ observationCount) (valueError "observation_count must be a positive integer")
  let book ← (testStarts observationCount spec).foldlM (addFold observationCount spec) {}
  ensure (book.folds ≠ [])
    (valueError "history is too short for one complete walk-forward fold")
  return book.folds

/-- `aggregate_out_of_sample`. -/
def aggregateOutOfSample {α : Type} (folds : List WalkForwardFold) (observations : List α) :
    Except PyError (List α) := do
  ensure (folds ≠ []) (valueError "at least one walk-forward fold is required")
  let testIndices := sortBy id (folds.flatMap (·.testIndices))
  ensure testIndices.Nodup
    (valueError "walk-forward test windows overlap; OOS aggregation would double count")
  let referenced := folds.flatMap fun f => f.trainIndices ++ f.testIndices ++ f.excludedIndices
  ensure (∀ i ∈ referenced, i < observations.length)
    (valueError "walk-forward fold references observations outside the input series")
  return testIndices.filterMap fun i => observations[i]?

/-! ## Ranges with a step -/

section
variable {start stop step s : ℕ}

theorem pairwise_stepRange : (stepRange start stop step).Pairwise fun a b => a + step ≤ b := by
  rw [stepRange, pairwise_map]
  refine pairwise_lt_range.imp ?_
  intro a b h
  have : (a + 1) * step ≤ b * step := Nat.mul_le_mul_right step h
  rw [Nat.add_mul, Nat.one_mul] at this
  omega

theorem mem_stepRange (hstep : 1 ≤ step) (h : s ∈ stepRange start stop step) :
    start ≤ s ∧ s < stop := by
  obtain ⟨k, hk, rfl⟩ := mem_map.1 h
  rw [mem_range] at hk
  have hmul : (k + 1) * step ≤ stop - start + (step - 1) :=
    (Nat.mul_le_mul_right step hk).trans (Nat.div_mul_le_self _ _)
  rw [Nat.add_mul, Nat.one_mul] at hmul
  omega

theorem length_stepRange :
    (stepRange start stop step).length = (stop - start + (step - 1)) / step := by
  rw [stepRange, length_map, length_range]

end

/-! ## One fold -/

section
variable {spec : WalkForwardSpec} {forbidden : Finset ℕ} {s i : ℕ} {candidates : List ℕ}

theorem mem_trainingCandidates :
    i ∈ trainingCandidates spec forbidden s ↔ i < s - spec.gapPeriods ∧ i ∉ forbidden := by
  rw [trainingCandidates, mem_filter, mem_range, decide_eq_true_eq]

theorem pairwise_trainingCandidates : (trainingCandidates spec forbidden s).Pairwise (· < ·) :=
  pairwise_lt_range.filter _

theorem length_trainingCandidates (hs : spec.trainPeriods + spec.gapPeriods ≤ s)
    (h : ∀ i ∈ forbidden, spec.trainPeriods ≤ i) :
    spec.trainPeriods ≤ (trainingCandidates spec forbidden s).length := by
  have hsub : List.range spec.trainPeriods ⊆ trainingCandidates spec forbidden s := by
    intro i hi
    rw [mem_range] at hi
    rw [mem_trainingCandidates]
    refine ⟨by omega, ?_⟩
    intro hf
    have := h i hf
    omega
  have := (nodup_range.subperm hsub).length_le
  rwa [length_range] at this

theorem trainingWindow_suffix : trainingWindow spec candidates <:+ candidates := by
  unfold trainingWindow
  split
  · exact suffix_refl _
  · exact rtake_suffix _ _

theorem trainingWindow_ne_nil (h : spec.trainPeriods ≤ candidates.length) :
    trainingWindow spec candidates ≠ [] := by
  have hpos := spec.train_pos
  rw [← length_pos_iff]
  unfold trainingWindow
  split
  · omega
  · rw [length_rtake]
    omega

theorem mem_suffix_of_head_le {l w : List ℕ} (hl : l.Pairwise (· < ·)) (hw : w <:+ l)
    (hne : w ≠ []) (hi : i ∈ l) (hle : w.head hne ≤ i) : i ∈ w := by
  obtain ⟨pre, rfl⟩ := hw
  rcases mem_append.1 hi with hpre | hmem
  · have hlt := (pairwise_append.1 hl).2.2 i hpre _ (head_mem hne)
    omega
  · exact hmem

theorem mem_excludedBefore : i ∈ excludedBefore spec forbidden s ↔
    i < s ∧ (i ∈ forbidden ∨ s - spec.gapPeriods ≤ i) := by
  rw [excludedBefore, mem_sortedList, Finset.mem_filter, Finset.mem_union, Finset.mem_Ico]
  constructor
  · rintro ⟨h | ⟨h, -⟩, hs⟩
    exacts [⟨hs, .inl h⟩, ⟨hs, .inr h⟩]
  · rintro ⟨hs, h | h⟩
    exacts [⟨.inl h, hs⟩, ⟨.inr ⟨h, hs⟩, hs⟩]

theorem makeWalkForwardFold_of (k : ℕ)
    (hlen : spec.trainPeriods ≤ (trainingCandidates spec forbidden s).length) :
    ∃ f, makeWalkForwardFold k (trainingWindow spec (trainingCandidates spec forbidden s))
        (List.range' s spec.testPeriods) (excludedBefore spec forbidden s) = .ok f ∧
      f.trainIndices = trainingWindow spec (trainingCandidates spec forbidden s) ∧
      f.testIndices = List.range' s spec.testPeriods ∧
      f.excludedIndices = excludedBefore spec forbidden s := by
  have hsub : ∀ i ∈ trainingWindow spec (trainingCandidates spec forbidden s),
      i < s - spec.gapPeriods ∧ i ∉ forbidden := by
    intro i hi
    exact mem_trainingCandidates.1 (trainingWindow_suffix.subset hi)
  have hpos := spec.test_pos
  have h₁ := trainingWindow_ne_nil hlen
  have h₂ : (trainingWindow spec (trainingCandidates spec forbidden s)).Pairwise (· < ·) :=
    pairwise_trainingCandidates.sublist trainingWindow_suffix.sublist
  have h₃ : List.range' s spec.testPeriods ≠ [] := by
    rw [Ne, range'_eq_nil_iff]
    omega
  have h₄ : (List.range' s spec.testPeriods).Pairwise (· < ·) := pairwise_lt_range'
  have h₅ : (excludedBefore spec forbidden s).Pairwise (· < ·) := pairwise_sortedList _
  have hhead : (List.range' s spec.testPeriods).head h₃ = s := head_range' h₃
  have h₆ : (trainingWindow spec (trainingCandidates spec forbidden s)).getLast h₁ <
      (List.range' s spec.testPeriods).head h₃ := by
    rw [hhead]
    have := (hsub _ (getLast_mem h₁)).1
    omega
  have h₇ : (∀ i ∈ trainingWindow spec (trainingCandidates spec forbidden s),
      i ∉ List.range' s spec.testPeriods ∧ i ∉ excludedBefore spec forbidden s) ∧
      ∀ i ∈ List.range' s spec.testPeriods, i ∉ excludedBefore spec forbidden s := by
    refine ⟨?_, ?_⟩
    · intro i hi
      obtain ⟨hlt, hnot⟩ := hsub i hi
      rw [List.mem_range'_1, mem_excludedBefore]
      refine ⟨by omega, ?_⟩
      rintro ⟨-, h | h⟩
      exacts [hnot h, by omega]
    · intro i hi
      rw [List.mem_range'_1] at hi
      rw [mem_excludedBefore]
      omega
  have h₈ : ∀ i ∈ List.range ((List.range' s spec.testPeriods).head h₃),
      (trainingWindow spec (trainingCandidates spec forbidden s)).head h₁ ≤ i →
        i ∈ trainingWindow spec (trainingCandidates spec forbidden s) ∨
          i ∈ excludedBefore spec forbidden s := by
    intro i hi hle
    rw [hhead, mem_range] at hi
    rw [mem_excludedBefore]
    by_cases hf : i ∈ forbidden ∨ s - spec.gapPeriods ≤ i
    · exact .inr ⟨hi, hf⟩
    · push Not at hf
      refine .inl (mem_suffix_of_head_le pairwise_trainingCandidates trainingWindow_suffix h₁
        (mem_trainingCandidates.2 ⟨hf.2, hf.1⟩) hle)
  refine ⟨⟨k, _, _, _, h₁, h₂, h₃, h₄, h₅, h₆, h₇, h₈⟩, ?_, rfl, rfl, rfl⟩
  rw [makeWalkForwardFold, dif_neg h₁, dif_pos h₂, dif_neg h₃, dif_pos h₄, dif_pos h₅, dif_pos h₆,
    dif_pos h₇, dif_pos h₈]

end

/-! ## All folds -/

theorem WalkForwardFold.testStart_eq {f : WalkForwardFold} {s k : ℕ}
    (h : f.testIndices = List.range' s k) : f.testStart = s := by
  have : ∀ hne : f.testIndices ≠ [], f.testIndices.head hne = s := by
    rw [h]
    exact head_range'
  exact this f.test_nonempty

theorem WalkForwardFold.testEnd_eq {f : WalkForwardFold} {s k : ℕ}
    (h : f.testIndices = List.range' s k) : f.testEnd = s + k := by
  have hlast : ∀ hne : f.testIndices ≠ [], f.testIndices.getLast hne + 1 = s + k := by
    rw [h]
    intro hne
    rw [getLast_range']
    rw [Ne, range'_eq_nil_iff] at hne
    omega
  exact hlast f.test_nonempty

section
variable {n : ℕ} {spec : WalkForwardSpec} {done : List ℕ} {book : FoldBook} {s : ℕ}

/-- What holds of the folds after some of the test starts. -/
structure FoldsBuilt (n : ℕ) (spec : WalkForwardSpec) (done : List ℕ) (book : FoldBook) : Prop where
  windows : book.folds.map (·.testIndices) = done.map fun s => List.range' s spec.testPeriods
  forbidden : ∀ i, i ∈ book.forbidden ↔
    ∃ s ∈ done, s ≤ i ∧ i < min n (s + spec.testPeriods + spec.embargoPeriods)
  gap : ∀ f ∈ book.folds, ∀ i ∈ f.trainIndices, i + spec.gapPeriods < f.testStart
  excluded : ∀ f ∈ book.folds, ∀ i ∈ f.excludedIndices, i < f.testStart
  clean : book.folds.Pairwise fun e f => ∀ i ∈ f.trainIndices,
    i < e.testStart ∨ e.testEnd + spec.embargoPeriods ≤ i

theorem FoldsBuilt.exists_start (hb : FoldsBuilt n spec done book) {f : WalkForwardFold}
    (hf : f ∈ book.folds) : ∃ s ∈ done, f.testIndices = List.range' s spec.testPeriods := by
  have hmem : f.testIndices ∈ book.folds.map (·.testIndices) := mem_map_of_mem hf
  rw [hb.windows] at hmem
  obtain ⟨s, hs, hs'⟩ := mem_map.1 hmem
  exact ⟨s, hs, hs'.symm⟩

theorem mem_testStarts (h : s ∈ testStarts n spec) :
    spec.trainPeriods + spec.gapPeriods ≤ s ∧ s + spec.testPeriods ≤ n := by
  obtain ⟨hle, hlt⟩ := mem_stepRange spec.step_pos h
  exact ⟨hle, by omega⟩

theorem foldsBuilt_step (hs : s ∈ testStarts n spec) (hdone : ∀ a ∈ done, a ∈ testStarts n spec)
    (hb : FoldsBuilt n spec done book) :
    ∃ book', addFold n spec book s = .ok book' ∧ FoldsBuilt n spec (done ++ [s]) book' := by
  obtain ⟨hstart, hend⟩ := mem_testStarts hs
  have hlen : spec.trainPeriods ≤ (trainingCandidates spec book.forbidden s).length := by
    refine length_trainingCandidates hstart ?_
    intro i hi
    obtain ⟨a, ha, hle, -⟩ := (hb.forbidden i).1 hi
    have := (mem_testStarts (hdone a ha)).1
    omega
  obtain ⟨f, hf, htrain, htest, hexcl⟩ := makeWalkForwardFold_of book.folds.length hlen
  have hfs : f.testStart = s := WalkForwardFold.testStart_eq htest
  have hmem : ∀ i ∈ f.trainIndices, i < s - spec.gapPeriods ∧ i ∉ book.forbidden := by
    intro i hi
    rw [htrain] at hi
    exact mem_trainingCandidates.1 (trainingWindow_suffix.subset hi)
  refine ⟨⟨book.folds ++ [f], book.forbidden ∪
    Finset.Ico s (min n (s + spec.testPeriods + spec.embargoPeriods))⟩, ?_, ?_, ?_, ?_, ?_, ?_⟩
  · unfold addFold
    dsimp only
    rw [if_neg (not_lt.2 hlen), hf]
    rfl
  · rw [map_append, hb.windows, map_append, map_singleton, map_singleton, htest]
  · intro i
    rw [Finset.mem_union, hb.forbidden, Finset.mem_Ico]
    simp only [mem_append, mem_singleton, or_and_right, exists_or, exists_eq_left]
  · intro g hg i hi
    rcases mem_append.1 hg with hg | hg
    · exact hb.gap g hg i hi
    · rw [mem_singleton.1 hg] at hi ⊢
      have := (hmem i hi).1
      omega
  · intro g hg i hi
    rcases mem_append.1 hg with hg | hg
    · exact hb.excluded g hg i hi
    · rw [mem_singleton.1 hg] at hi ⊢
      rw [hexcl, mem_excludedBefore] at hi
      exact hfs ▸ hi.1
  · refine pairwise_append.2 ⟨hb.clean, pairwise_singleton _ _, ?_⟩
    intro e he g hg i hi
    rw [mem_singleton.1 hg] at hi
    obtain ⟨a, ha, hwindow⟩ := hb.exists_start he
    rw [WalkForwardFold.testStart_eq hwindow, WalkForwardFold.testEnd_eq hwindow]
    obtain ⟨hlt, hfree⟩ := hmem i hi
    by_contra hcon
    refine hfree ((hb.forbidden i).2 ⟨a, ha, ?_, ?_⟩)
    · omega
    · omega

/-- **The folds of all test starts** are built, and what their steps keep holds of them. -/
theorem folds_built (n : ℕ) (spec : WalkForwardSpec) : ∃ book,
    (testStarts n spec).foldlM (addFold n spec) {} = .ok book ∧
      FoldsBuilt n spec (testStarts n spec) book := by
  refine foldlM_spec ⟨rfl, ?_, ?_, ?_, List.Pairwise.nil⟩ ?_
  · intro i
    simp
  · intro f hf
    exact absurd hf not_mem_nil
  · intro f hf
    exact absurd hf not_mem_nil
  · intro pre s post book hl hb
    refine foldsBuilt_step ?_ ?_ hb
    · rw [hl]
      exact mem_append_right pre mem_cons_self
    · intro a ha
      rw [hl]
      exact mem_append_left _ ha

theorem length_testStarts (n : ℕ) (spec : WalkForwardSpec) : (testStarts n spec).length =
    if n < spec.trainPeriods + spec.gapPeriods + spec.testPeriods then 0
    else (n - spec.trainPeriods - spec.gapPeriods - spec.testPeriods) / spec.stepPeriods + 1 := by
  have hpos := spec.step_pos
  rw [testStarts, length_stepRange]
  split
  · rw [Nat.div_eq_of_lt]
    omega
  · rename_i h
    have hsum : n + 1 - spec.testPeriods - (spec.trainPeriods + spec.gapPeriods) +
        (spec.stepPeriods - 1) =
      n - spec.trainPeriods - spec.gapPeriods - spec.testPeriods + spec.stepPeriods := by omega
    rw [hsum, Nat.add_div_right _ hpos]

theorem pairwise_tested (hb : FoldsBuilt n spec (testStarts n spec) book) :
    (book.folds.flatMap (·.testIndices)).Pairwise (· < ·) := by
  have hflat : book.folds.flatMap (·.testIndices) =
      (testStarts n spec).flatMap fun s => List.range' s spec.testPeriods := by
    rw [flatMap_def, hb.windows, ← flatMap_def]
  rw [hflat, pairwise_flatMap]
  refine ⟨fun s _ => pairwise_lt_range', ?_⟩
  refine pairwise_stepRange.imp ?_
  intro a b hab i hi j hj
  rw [List.mem_range'_1] at hi hj
  have := spec.test_le_step
  omega

theorem indices_lt (hb : FoldsBuilt n spec (testStarts n spec) book) {f : WalkForwardFold}
    (hf : f ∈ book.folds) :
    ∀ i ∈ f.trainIndices ++ f.testIndices ++ f.excludedIndices, i < n := by
  obtain ⟨s, hs, hwindow⟩ := hb.exists_start hf
  have hstart := WalkForwardFold.testStart_eq hwindow
  have hend := (mem_testStarts hs).2
  intro i hi
  rcases mem_append.1 hi with hi | hi
  · rcases mem_append.1 hi with hi | hi
    · have := hb.gap f hf i hi
      omega
    · rw [hwindow, List.mem_range'_1] at hi
      omega
  · have := hb.excluded f hf i hi
    omega

end

theorem filterMap_getElem? {α : Type} {l : List α} :
    ∀ {is : List ℕ}, (∀ i ∈ is, i < l.length) →
      (is.filterMap fun i => l[i]?).map some = is.map fun i => l[i]?
  | [], _ => rfl
  | i :: is, h => by
    have hi := h i mem_cons_self
    have ih := filterMap_getElem? fun j hj => h j (mem_cons_of_mem i hj)
    rw [filterMap_cons, map_cons, getElem?_eq_getElem hi, map_cons, ih]

variable {folds : List WalkForwardFold}

theorem aggregateOutOfSample_of {α : Type} {observations : List α}
    (hne : folds ≠ []) (hsorted : (folds.flatMap (·.testIndices)).Pairwise (· < ·))
    (hlt : ∀ f ∈ folds, ∀ i ∈ f.trainIndices ++ f.testIndices ++ f.excludedIndices,
      i < observations.length) :
    ∃ out, aggregateOutOfSample folds observations = .ok out ∧
      out.map some = (folds.flatMap (·.testIndices)).map fun i => observations[i]? := by
  have htested : ∀ i ∈ folds.flatMap (·.testIndices), i < observations.length := by
    intro i hi
    obtain ⟨f, hf, hi⟩ := mem_flatMap.1 hi
    exact hlt f hf i (mem_append_left _ (mem_append_right _ hi))
  have hid : sortBy id (folds.flatMap (·.testIndices)) = folds.flatMap (·.testIndices) :=
    sortBy_of_pairwise hsorted
  refine ⟨_, ?_, filterMap_getElem? htested⟩
  unfold aggregateOutOfSample
  dsimp only
  rw [hid, ensure_of hne, ensure_of hsorted.nodup, ensure_of]
  · rfl
  · intro i hi
    obtain ⟨f, hf, hi⟩ := mem_flatMap.1 hi
    exact hlt f hf i hi

theorem buildWalkForwardFolds_eq_ok {n : ℕ} {spec : WalkForwardSpec} : buildWalkForwardFolds n spec = .ok folds ↔
      spec.trainPeriods + spec.gapPeriods + spec.testPeriods ≤ n ∧
        ∃ book, FoldsBuilt n spec (testStarts n spec) book ∧
          (testStarts n spec).foldlM (addFold n spec) {} = .ok book ∧ book.folds = folds := by
  obtain ⟨book, hbook, hb⟩ := folds_built n spec
  have hlen : book.folds.length = (testStarts n spec).length := by
    rw [← length_map (·.testIndices), hb.windows, length_map]
  have hne : book.folds ≠ [] ↔ spec.trainPeriods + spec.gapPeriods + spec.testPeriods ≤ n := by
    rw [← length_pos_iff, hlen, length_testStarts]
    split
    · omega
    · rename_i h
      exact iff_of_true (Nat.succ_pos _) (not_lt.1 h)
  have hpos := spec.train_pos
  rw [buildWalkForwardFolds, hbook]
  simp only [bind_eq_ok, ensure_eq_ok, ok_bind, pure_eq_ok, Except.ok.injEq, exists_and_left,
    exists_const]
  constructor
  · rintro ⟨-, hfolds, rfl⟩
    exact ⟨hne.1 hfolds, book, hb, rfl, rfl⟩
  · rintro ⟨hn, _, -, rfl, rfl⟩
    exact ⟨by omega, hne.2 hn, rfl⟩

/-- **Walk-forward folds.**  The folds of a history exist exactly when one training window,
one gap and one test window fit; they leave the gap before each test window, train on no
observation of an earlier test window or its embargo, and aggregate every tested
observation once and in order. -/
theorem walk_forward_folds (n : ℕ) (spec : WalkForwardSpec) :
    ((∃ e, buildWalkForwardFolds n spec = .error e) ↔
      n < spec.trainPeriods + spec.gapPeriods + spec.testPeriods) ∧
    ∀ folds, buildWalkForwardFolds n spec = .ok folds →
      folds.length =
        (n - spec.trainPeriods - spec.gapPeriods - spec.testPeriods) / spec.stepPeriods + 1 ∧
      (∀ f ∈ folds, ∀ i ∈ f.trainIndices, i + spec.gapPeriods < f.testStart) ∧
      (folds.Pairwise fun e f => ∀ i ∈ f.trainIndices, i ∉ e.testIndices ∧
        ¬ (e.testStart ≤ i ∧ i < e.testEnd + spec.embargoPeriods)) ∧
      (folds.Pairwise fun e f => e.testIndices.Disjoint f.testIndices) ∧
      (folds.flatMap (·.testIndices)).Pairwise (· < ·) ∧
      ∀ (α : Type) (observations : List α), observations.length = n →
        ∃ out, aggregateOutOfSample folds observations = .ok out ∧
          out.map some = (folds.flatMap (·.testIndices)).map fun i => observations[i]? := by
  refine ⟨?_, ?_⟩
  · cases hbuild : buildWalkForwardFolds n spec with
    | error e =>
      obtain ⟨book, hbook, hb⟩ := folds_built n spec
      refine iff_of_true ⟨e, rfl⟩ ?_
      by_contra hn
      have := buildWalkForwardFolds_eq_ok.2 ⟨not_lt.1 hn, book, hb, hbook, rfl⟩
      rw [hbuild] at this
      cases this
    | ok folds =>
      have := (buildWalkForwardFolds_eq_ok.1 hbuild).1
      refine iff_of_false ?_ (by omega)
      rintro ⟨e, he⟩
      cases he
  · intro folds hbuild
    obtain ⟨hn, book, hb, -, rfl⟩ := buildWalkForwardFolds_eq_ok.1 hbuild
    have htested := pairwise_tested hb
    have hlen : book.folds.length = (testStarts n spec).length := by
      rw [← length_map (·.testIndices), hb.windows, length_map]
    refine ⟨?_, hb.gap, ?_, ?_, htested, ?_⟩
    · rw [hlen, length_testStarts, if_neg (not_lt.2 hn)]
    · refine hb.clean.imp_of_mem ?_
      intro e f he hf hclean i hi
      obtain ⟨s, -, hwindow⟩ := hb.exists_start he
      have hstart := WalkForwardFold.testStart_eq hwindow
      have hend := WalkForwardFold.testEnd_eq hwindow
      have := hclean i hi
      rw [hwindow, List.mem_range'_1]
      omega
    · rw [pairwise_flatMap] at htested
      refine htested.2.imp ?_
      intro e f hef i hi hi'
      exact absurd (hef i hi i hi') (lt_irrefl i)
    · intro α observations hobs
      have hne : book.folds ≠ [] := by
        rw [← length_pos_iff, hlen, length_testStarts, if_neg (not_lt.2 hn)]
        exact Nat.succ_pos _
      exact aggregateOutOfSample_of hne htested fun f hf i hi => hobs ▸ indices_lt hb hf i hi

/-- Two training and two tested observations a fold, a gap of one and an embargo of two. -/
def sampleWalkForward : WalkForwardSpec where
  trainPeriods := 2
  testPeriods := 2
  stepPeriods := 2
  mode := .rolling
  gapPeriods := 1
  embargoPeriods := 2
  train_pos := Nat.two_pos
  test_pos := Nat.two_pos
  step_pos := Nat.two_pos
  test_le_step := by decide

theorem walk_forward_folds_seven : ∃ folds, buildWalkForwardFolds 7 sampleWalkForward = .ok folds ∧
    folds.length = 2 ∧ ∃ out, aggregateOutOfSample folds ["a", "b", "c", "d", "e", "f", "g"] =
      .ok out := by
  have h := walk_forward_folds 7 sampleWalkForward
  cases hbuild : buildWalkForwardFolds 7 sampleWalkForward with
  | error e => exact absurd (h.1.1 ⟨e, hbuild⟩) (by decide)
  | ok folds =>
    obtain ⟨hlen, -, -, -, -, hout⟩ := h.2 folds hbuild
    obtain ⟨out, hagg, -⟩ := hout String ["a", "b", "c", "d", "e", "f", "g"] rfl
    exact ⟨folds, rfl, hlen, out, hagg⟩

end ChartingPlatform
