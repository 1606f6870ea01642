/-
  The selection of walk-forward candidates (`walk_forward_search.py`): training plans,
  training scores, and `select_walk_forward_oos_tasks`.
-/
import ChartingPlatform.Experiments.WalkForward
import ChartingPlatform.Forward.Fingerprints
import ChartingPlatform.Lib.Rounding
import ChartingPlatform.Lib.Table

namespace ChartingPlatform

open Lib List Function

/-! ## Training plans -/

/-- `SelectionDirection`. -/
inductive SelectionDirection where
  | maximize | minimize
  deriving DecidableEq, Repr

def SelectionDirection.text : SelectionDirection → String
  | .maximize => "maximize"
  | .minimize => "minimize"

def indicesToPy (l : List ℕ) : PyValue := .tuple (l.map fun i => .int i)

def WalkForwardFold.toPy (f : WalkForwardFold) : PyValue :=
  .dataclass "app.strategy_lab_v2.experiments.WalkForwardFold"
    [({ name := "fold_index" }, .int f.foldIndex),
      ({ name := "train_indices" }, indicesToPy f.trainIndices),
      ({ name := "test_indices" }, indicesToPy f.testIndices),
      ({ name := "excluded_indices" }, indicesToPy f.excludedIndices)]

/-- `content_digest(fold)`. -/
def WalkForwardFold.fingerprint (sha256 : String → Digest) (f : WalkForwardFold) : Digest :=
  digest sha256 f.toPy

/-- `WalkForwardTrainingTask`. -/
@[ext]
structure WalkForwardTrainingTask where
  foldIndex : ℕ
  candidateIndex : ℕ
  candidateFingerprint : Digest
  trainingIndices : List ℕ
  indices_nonempty : trainingIndices ≠ []
  indices_increasing : trainingIndices.Pairwise (· < ·)

namespace WalkForwardTrainingTask

/-- The fold and the candidate that a task is about. -/
def pair (t : WalkForwardTrainingTask) : ℕ × ℕ := (t.foldIndex, t.candidateIndex)

def toPy (t : WalkForwardTrainingTask) : PyValue :=
  .dataclass "app.strategy_lab_v2.walk_forward_search.WalkForwardTrainingTask"
    [({ name := "fold_index" }, .int t.foldIndex),
      ({ name := "candidate_index" }, .int t.candidateIndex),
      ({ name := "candidate_fingerprint" }, .str t.candidateFingerprint.text),
      ({ name := "training_indices" }, indicesToPy t.trainingIndices)]

def identity (t : WalkForwardTrainingTask) : PyValue :=
  .mapping
    [(.str "schema", .str "strategy-lab.walk-forward-training-task.v1"),
      (.str "fold_index", .int t.foldIndex),
      (.str "candidate_index", .int t.candidateIndex),
      (.str "candidate_fingerprint", .str t.candidateFingerprint.text),
      (.str "training_indices", indicesToPy t.trainingIndices)]

/-- `WalkForwardTrainingTask.fingerprint`. -/
def fingerprint (sha256 : String → Digest) (t : WalkForwardTrainingTask) : Digest :=
  digest sha256 t.identity

end WalkForwardTrainingTask

/-- `WalkForwardTrainingPlan`. -/
structure WalkForwardTrainingPlan where
  experimentFingerprint : Digest
  metricId : String
  direction : SelectionDirection
  candidateFingerprints : List Digest
  foldFingerprints : List Digest
  tasks : List WalkForwardTrainingTask
  metricId_notBlank : notBlank metricId = true
  candidates_nodup : candidateFingerprints.Nodup
  folds_nodup : foldFingerprints.Nodup
  pairs_nodup : (tasks.map (·.pair)).Nodup
  mem_pairs : ∀ f c, (f, c) ∈ tasks.map (·.pair) ↔
    f < foldFingerprints.length ∧ c < candidateFingerprints.length
  candidates_named : ∀ t ∈ tasks, candidateFingerprints[t.candidateIndex]? =
    some t.candidateFingerprint

/-- `WalkForwardTrainingPlan.__post_init__`. -/
def makeWalkForwardTrainingPlan (experiment : Digest) (metricId : String)
    (direction : SelectionDirection) (candidates folds : List Digest)
    (tasks : List WalkForwardTrainingTask) : Except PyError WalkForwardTrainingPlan :=
  if hmetric : notBlank metricId = true then
    if candidates = [] ∨ folds = [] ∨ tasks = [] then
      .error (valueError "walk-forward training plan requires candidates, folds, and tasks")
    else if hcandidates : candidates.Nodup then
      if hfolds : folds.Nodup then
        if hpairs : (tasks.map (·.pair)).toFinset =
            Finset.range folds.length ×ˢ Finset.range candidates.length ∧
            (tasks.map (·.pair)).Nodup then
          if hnamed : ∀ t ∈ tasks, candidates[t.candidateIndex]? = some t.candidateFingerprint then
            .ok
              { experimentFingerprint := experiment
                metricId := metricId
                direction := direction
                candidateFingerprints := candidates
                foldFingerprints := folds
                tasks := sortBy (fun t => toLex t.pair) tasks
                metricId_notBlank := hmetric
                candidates_nodup := hcandidates
                folds_nodup := hfolds
                pairs_nodup := ((perm_sortBy _ tasks).map _).nodup_iff.2 hpairs.2
                mem_pairs := fun f c => by
                  rw [((perm_sortBy (fun t : WalkForwardTrainingTask => toLex t.pair) tasks).map
                    _).mem_iff, ← mem_toFinset, hpairs.1, Finset.mem_product,
                    Finset.mem_range, Finset.mem_range]
                candidates_named := fun t ht => hnamed t ((mem_sortBy _).1 ht) }
          else .error (valueError "training task candidate identity differs from its plan")
        else .error (valueError "training tasks must cover every unique fold/candidate pair")
      else .error (valueError "walk-forward fold fingerprints must be unique")
    else .error (valueError "candidate trial fingerprints must be unique")
  else .error (valueError "metric_id must not be empty")

def WalkForwardTrainingPlan.toPy (p : WalkForwardTrainingPlan) : PyValue :=
  .dataclass "app.strategy_lab_v2.walk_forward_search.WalkForwardTrainingPlan"
    [({ name := "experiment_fingerprint" }, .str p.experimentFingerprint.text),
      ({ name := "metric_id" }, .str p.metricId),
      ({ name := "direction" },
        .enum "app.strategy_lab_v2.walk_forward_search.SelectionDirection"
          (.str p.direction.text)),
      ({ name := "candidate_fingerprints" },
        .tuple (p.candidateFingerprints.map fun d => .str d.text)),
      ({ name := "fold_fingerprints" }, .tuple (p.foldFingerprints.map fun d => .str d.text)),
      ({ name := "tasks" }, .tuple (p.tasks.map (·.toPy)))]

/-- `WalkForwardTrainingPlan.fingerprint`. -/
def WalkForwardTrainingPlan.fingerprint (sha256 : String → Digest) (p : WalkForwardTrainingPlan) :
    Digest := digest sha256 p.toPy

def WalkForwardFold.trainingTask (f : WalkForwardFold) (candidateIndex : ℕ) (candidate : Digest) :
    WalkForwardTrainingTask where
  foldIndex := f.foldIndex
  candidateIndex := candidateIndex
  candidateFingerprint := candidate
  trainingIndices := f.trainIndices
  indices_nonempty := f.train_nonempty
  indices_increasing := f.train_increasing

/-- `build_walk_forward_training_plan`. -/
def buildWalkForwardTrainingPlan (sha256 : String → Digest) (experiment : Digest)
    (candidates : List Digest) (folds : List WalkForwardFold) (metricId : String)
    (direction : SelectionDirection) (maxTasks : ℤ) : Except PyError WalkForwardTrainingPlan := do
  ensure (candidates ≠ []) (valueError "candidate_fingerprints must be a non-empty tuple")
  ensure (folds ≠ []) (valueError "folds must be a non-empty tuple")
  ensure (folds.map (·.foldIndex) = List.range folds.length)
    (valueError "walk-forward fold indices must be contiguous and ordered")
  ensure (1 ≤ maxTasks) (valueError "max_tasks must be a positive integer")
  ensure ((candidates.length * folds.length : ℕ) ≤ maxTasks)
    (valueError ("walk-forward training plan exceeds max_tasks=" ++ toString maxTasks))
  makeWalkForwardTrainingPlan experiment metricId direction candidates
    (folds.map (·.fingerprint sha256))
    (folds.flatMap fun f => candidates.mapIdx fun i c => f.trainingTask i c)

/-! ## Scores and selections -/

/-- `WalkForwardTrainingScore`. -/
@[ext]
structure WalkForwardTrainingScore where
  trainingTaskFingerprint : Digest
  metricId : String
  value : PyDecimal
  resultFingerprint : Digest
  metricId_notBlank : notBlank metricId = true
  value_finite : value.isFinite = true

/-- `WalkForwardTrainingScore.fingerprint`. -/
def WalkForwardTrainingScore.fingerprint (sha256 : String → Digest)
    (s : WalkForwardTrainingScore) : Digest :=
  digest sha256
    (.dataclass "app.strategy_lab_v2.walk_forward_search.WalkForwardTrainingScore"
      [({ name := "training_task_fingerprint" }, .str s.trainingTaskFingerprint.text),
        ({ name := "metric_id" }, .str s.metricId),
        ({ name := "value" }, .decimal s.value),
        ({ name := "result_fingerprint" }, .str s.resultFingerprint.text)])

/-- `WalkForwardOosTask`. -/
@[ext]
structure WalkForwardOosTask where
  foldIndex : ℕ
  foldFingerprint : Digest
  candidateIndex : ℕ
  candidateFingerprint : Digest
  testIndices : List ℕ
  trainingSelectionFingerprint : Digest
  indices_nonempty : testIndices ≠ []
  indices_increasing : testIndices.Pairwise (· < ·)

instance : DecidableEq WalkForwardOosTask := fun _ _ =>
  decidable_of_iff' _ WalkForwardOosTask.ext_iff

/-- `WalkForwardOosTask.fingerprint`. -/
def WalkForwardOosTask.fingerprint (sha256 : String → Digest) (t : WalkForwardOosTask) : Digest :=
  digest sha256 (.mapping
    [(.str "schema", .str "strategy-lab.walk-forward-oos-task.v1"),
      (.str "fold_index", .int t.foldIndex),
      (.str "fold_fingerprint", .str t.foldFingerprint.text),
      (.str "candidate_index", .int t.candidateIndex),
      (.str "candidate_fingerprint", .str t.candidateFingerprint.text),
      (.str "test_indices", indicesToPy t.testIndices),
      (.str "training_selection_fingerprint", .str t.trainingSelectionFingerprint.text)])

/-- `WalkForwardSelection`. -/
structure WalkForwardSelection where
  trainingPlanFingerprint : Digest
  scoreEvidenceFingerprint : Digest
  oosTasks : List WalkForwardOosTask
  tasks_nonempty : oosTasks ≠ []
  evidence_bound : ∀ t ∈ oosTasks, t.trainingSelectionFingerprint = scoreEvidenceFingerprint
  deriving DecidableEq

/-- `WalkForwardSelection.__post_init__`. -/
def makeWalkForwardSelection (plan evidence : Digest) (tasks : List WalkForwardOosTask) :
    Except PyError WalkForwardSelection :=
  if hne : tasks ≠ [] then
    if ¬ (tasks.map (·.foldIndex)).Nodup then
      .error (valueError "walk-forward selection must contain exactly one OOS task per fold")
    else if sortBy id (tasks.map (·.foldIndex)) ≠ List.range tasks.length then
      .error (valueError "walk-forward selection fold indices must be contiguous")
    else if hbound : ∀ t ∈ tasks, t.trainingSelectionFingerprint = evidence then
      .ok
        { trainingPlanFingerprint := plan
          scoreEvidenceFingerprint := evidence
          oosTasks := sortBy (·.foldIndex) tasks
          tasks_nonempty := fun h =>
            hne (perm_nil.1 ((perm_sortBy (·.foldIndex) tasks).symm.trans (by rw [h])))
          evidence_bound := fun t ht => hbound t ((mem_sortBy _).1 ht) }
    else .error (valueError "OOS tasks must bind the selection's exact training evidence")
  else .error (valueError "walk-forward selection requires OOS tasks")

/-! ## The selection -/

/-- A number with the digits that the decimal context keeps. -/
def roundedValue (x : ℚ) : ℚ := roundTo 10 28 (-1000026) x

/-- The exponent of the number fits the decimal context. -/
def InContext (x : ℚ) : Prop := Int.log 10 |x| ≤ 999999

instance (x : ℚ) : Decidable (InContext x) := inferInstanceAs (Decidable (_ ≤ _))

/-- `-value`, with the rounding of the decimal context; `decimal.Overflow` is trapped. -/
def negated (value : PyDecimal) : Except PyError ℚ :=
  let x := roundedValue (-value.value)
  if InContext x then .ok x else .error ⟨.overflowError, "[<class 'decimal.Overflow'>]"⟩

/-- The first component of the key that the candidates are compared by. -/
def SelectionDirection.scoreKey : SelectionDirection → PyDecimal → Except PyError ℚ
  | .maximize, value => negated value
  | .minimize, value => .ok value.value

/-- `expected[task_fingerprint]`: a later task with the fingerprint replaces an earlier one. -/
def WalkForwardTrainingPlan.taskOf (sha256 : String → Digest) (plan : WalkForwardTrainingPlan)
    (taskFingerprint : Digest) : Option WalkForwardTrainingTask :=
  rowWith (·.fingerprint sha256) taskFingerprint plan.tasks.reverse

/-- `scores_by_fold[fold_index]`: the candidates of the fold with their scores. -/
def candidateScores (sha256 : String → Digest) (plan : WalkForwardTrainingPlan)
    (scores : List WalkForwardTrainingScore) (foldIndex : ℕ) : List (ℕ × PyDecimal) :=
  scores.filterMap fun s =>
    match plan.taskOf sha256 s.trainingTaskFingerprint with
    | some t => if t.foldIndex = foldIndex then some (t.candidateIndex, s.value) else none
    | none => none

/-- `score_evidence_fingerprint`. -/
def scoreEvidence (sha256 : String → Digest) (scores : List WalkForwardTrainingScore) : Digest :=
  digest sha256 (.tuple ((sortBy (fun p : String × String => toLex p)
    (scores.map fun s => (s.trainingTaskFingerprint.text, (s.fingerprint sha256).text))).map
      fun p => .tuple [.str p.1, .str p.2]))

/-- `min(candidate_scores, key=...)[0]`. -/
def selectedCandidate (direction : SelectionDirection) (candidates : List (ℕ × PyDecimal)) :
    Except PyError (Option ℕ) := do
  let keys ← collect (candidates.map fun c =>
    (direction.scoreKey c.2).map fun key => (toLex (key, c.1) : ℚ ×ₗ ℕ))
  return keys.min?.map fun key => (ofLex key).2

def selectOosTask (sha256 : String → Digest) (plan : WalkForwardTrainingPlan)
    (scores : List WalkForwardTrainingScore) (fold : WalkForwardFold) :
    Except PyError WalkForwardOosTask := do
  let selected ← selectedCandidate plan.direction
    (candidateScores sha256 plan scores fold.foldIndex)
  match selected with
  | none => .error (keyError (toString fold.foldIndex))
  | some candidateIndex =>
    match plan.candidateFingerprints[candidateIndex]? with
    -- never: the tasks of a plan name its candidates
    | none => .error (keyError "tuple index out of range")
    | some candidate =>
      return {
        foldIndex := fold.foldIndex
        foldFingerprint := fold.fingerprint sha256
        candidateIndex := candidateIndex
        candidateFingerprint := candidate
        testIndices := fold.testIndices
        trainingSelectionFingerprint := scoreEvidence sha256 scores
        indices_nonempty := fold.test_nonempty
        indices_increasing := fold.test_increasing }

/-- The fingerprints that are scored are those of the tasks. -/
def Covers (sha256 : String → Digest) (plan : WalkForwardTrainingPlan)
    (scores : List WalkForwardTrainingScore) : Prop :=
  (∀ s ∈ scores, ∃ t ∈ plan.tasks, t.fingerprint sha256 = s.trainingTaskFingerprint) ∧
    ∀ t ∈ plan.tasks, ∃ s ∈ scores, s.trainingTaskFingerprint = t.fingerprint sha256

instance (sha256 : String → Digest) (plan : WalkForwardTrainingPlan)
    (scores : List WalkForwardTrainingScore) : Decidable (Covers sha256 plan scores) :=
  inferInstanceAs (Decidable (_ ∧ _))

/-- `select_walk_forward_oos_tasks`. -/
def selectWalkForwardOosTasks (sha256 : String → Digest) (plan : WalkForwardTrainingPlan)
    (folds : List WalkForwardFold) (scores : List WalkForwardTrainingScore) :
    Except PyError WalkForwardSelection := do
  ensure (folds.map (·.fingerprint sha256) = plan.foldFingerprints)
    (valueError "selection folds differ from the immutable training plan")
  ensure (folds.length = plan.foldFingerprints.length)
    (valueError "selection requires the exact immutable fold sequence")
  ensure (scores ≠ []) (valueError "training selection requires score evidence for every task")
  ensure (scores.map (·.trainingTaskFingerprint)).Nodup
    (valueError "training task scores must be unique")
  ensure (Covers sha256 plan scores)
    (valueError "training evidence must exactly cover the immutable task plan")
  ensure (∀ s ∈ scores, s.metricId = plan.metricId)
    (valueError "training score metric differs from the declared selection metric")
  let selected ← collect (folds.map (selectOosTask sha256 plan scores))
  makeWalkForwardSelection (plan.fingerprint sha256) (scoreEvidence sha256 scores) selected

/-! ## Tasks and their fingerprints -/

section
variable {sha256 : String → Digest} {t u : WalkForwardTrainingTask}

theorem eq_of_sameItems {xs ys : List PyValue} (hr : ∀ x ∈ xs, Rigid x) (h : SameItems xs ys) :
    ys = xs := by
  induction xs generalizing ys with
  | nil =>
    cases h
    rfl
  | cons x xs ih =>
    cases h with
    | cons hx hxs =>
      rw [hr _ mem_cons_self _ hx, ih (fun y hy => hr y (mem_cons_of_mem _ hy)) hxs]

theorem rigid_int (z : ℤ) : Rigid (.int z) := fun w h => by
  cases h
  rfl

theorem rigid_indicesToPy (l : List ℕ) : Rigid (indicesToPy l) := by
  intro w h
  cases h with
  | tuple h =>
    have hr : ∀ x ∈ l.map fun i => PyValue.int i, Rigid x := by
      intro x hx
      obtain ⟨i, -, rfl⟩ := mem_map.1 hx
      exact rigid_int _
    rw [eq_of_sameItems hr h, indicesToPy]

theorem accepted_indicesToPy (l : List ℕ) : Accepted (indicesToPy l) := by
  refine accepted_tuple fun x hx => ?_
  obtain ⟨i, -, rfl⟩ := mem_map.1 hx
  exact accepted_int _

theorem pair_of_fingerprint (hsha : Injective sha256)
    (h : t.fingerprint sha256 = u.fingerprint sha256) : t.pair = u.pair := by
  have hp := perm_of_digest_mapping hsha
    (by simp [rigid_str, rigid_int, rigid_indicesToPy, accepted_indicesToPy])
    (by simp [accepted_indicesToPy]) h
  have hfold := hp.subset (mem_cons_of_mem _ mem_cons_self)
  have hcandidate := hp.subset
    (mem_cons_of_mem _ (mem_cons_of_mem _ mem_cons_self))
  have hf : t.foldIndex = u.foldIndex := by simpa using hfold
  have hc : t.candidateIndex = u.candidateIndex := by simpa using hcandidate
  rw [WalkForwardTrainingTask.pair, WalkForwardTrainingTask.pair, hf, hc]

end

section
variable {sha256 : String → Digest} {plan : WalkForwardTrainingPlan}
  {scores : List WalkForwardTrainingScore} {t : WalkForwardTrainingTask} {f c : ℕ}
  {v w : PyDecimal} {d : Digest}

theorem nodup_fingerprints (hsha : Injective sha256) :
    (plan.tasks.map (·.fingerprint sha256)).Nodup := by
  rw [List.Nodup, pairwise_map]
  have hpairs := plan.pairs_nodup
  rw [List.Nodup, pairwise_map] at hpairs
  exact hpairs.imp fun hne h => hne (pair_of_fingerprint hsha h)

theorem taskOf_eq_some (hsha : Injective sha256) :
    plan.taskOf sha256 d = some t ↔ t ∈ plan.tasks ∧ t.fingerprint sha256 = d := by
  have hn : (plan.tasks.reverse.map (·.fingerprint sha256)).Nodup := by
    rw [map_reverse, nodup_reverse]
    exact nodup_fingerprints hsha
  rw [WalkForwardTrainingPlan.taskOf, rowWith_eq_some hn, mem_reverse]

/-- The candidate `c` has the score `w` in the fold `f`. -/
def ScoredAt (sha256 : String → Digest) (plan : WalkForwardTrainingPlan)
    (scores : List WalkForwardTrainingScore) (f c : ℕ) (w : PyDecimal) : Prop :=
  ∃ t ∈ plan.tasks, ∃ s ∈ scores,
    t.pair = (f, c) ∧ s.trainingTaskFingerprint = t.fingerprint sha256 ∧ s.value = w

theorem mem_candidateScores (hsha : Injective sha256) :
    (c, w) ∈ candidateScores sha256 plan scores f ↔ ScoredAt sha256 plan scores f c w := by
  unfold candidateScores ScoredAt
  rw [mem_filterMap]
  constructor
  · rintro ⟨s, hs, h⟩
    cases ht : plan.taskOf sha256 s.trainingTaskFingerprint with
    | none =>
      simp only [ht] at h
      cases h
    | some t =>
      simp only [ht] at h
      obtain ⟨hmem, hfingerprint⟩ := (taskOf_eq_some hsha).1 ht
      by_cases hf : t.foldIndex = f
      · rw [if_pos hf] at h
        obtain ⟨hc, hw⟩ := Prod.mk.inj (Option.some.inj h)
        exact ⟨t, hmem, s, hs, Prod.ext hf hc, hfingerprint.symm, hw⟩
      · rw [if_neg hf] at h
        cases h
  · rintro ⟨t, hmem, s, hs, hpair, hfingerprint, rfl⟩
    refine ⟨s, hs, ?_⟩
    obtain ⟨hf, hc⟩ := Prod.mk.inj hpair
    rw [(taskOf_eq_some hsha).2 ⟨hmem, hfingerprint.symm⟩]
    dsimp only
    rw [if_pos hf, hc]

theorem scoredAt_unique (hn : (scores.map (·.trainingTaskFingerprint)).Nodup)
    (hv : ScoredAt sha256 plan scores f c v) (hw : ScoredAt sha256 plan scores f c w) : v = w := by
  obtain ⟨t, ht, s, hs, hpair, hfingerprint, rfl⟩ := hv
  obtain ⟨t', ht', s', hs', hpair', hfingerprint', rfl⟩ := hw
  obtain rfl := inj_on_of_nodup_map plan.pairs_nodup ht ht' (hpair.trans hpair'.symm)
  rw [inj_on_of_nodup_map hn hs hs' (hfingerprint.trans hfingerprint'.symm)]

theorem exists_scoredAt (hcovers : Covers sha256 plan scores)
    (hf : f < plan.foldFingerprints.length) (hc : c < plan.candidateFingerprints.length) :
    ∃ w, ScoredAt sha256 plan scores f c w := by
  obtain ⟨t, ht, hpair⟩ := mem_map.1 ((plan.mem_pairs f c).2 ⟨hf, hc⟩)
  obtain ⟨s, hs, hfingerprint⟩ := hcovers.2 t ht
  exact ⟨s.value, t, ht, s, hs, hpair, hfingerprint, rfl⟩

theorem scoredAt_lt (h : ScoredAt sha256 plan scores f c w) :
    f < plan.foldFingerprints.length ∧ c < plan.candidateFingerprints.length := by
  obtain ⟨t, ht, -, -, hpair, -, -⟩ := h
  exact (plan.mem_pairs f c).1 (hpair ▸ mem_map_of_mem ht)

theorem scored_of_mem (hcovers : Covers sha256 plan scores) {s : WalkForwardTrainingScore}
    (hs : s ∈ scores) : ∃ f c, ScoredAt sha256 plan scores f c s.value := by
  obtain ⟨t, ht, hfingerprint⟩ := hcovers.1 s hs
  exact ⟨t.foldIndex, t.candidateIndex, t, ht, s, hs, rfl, hfingerprint.symm, rfl⟩

end

/-! ## The best candidate -/

/-- The candidate `k` with score `v` comes before the candidate `i` with score `w`: a better
score, or the same one and a lower index. -/
def SelectionDirection.Prefers (direction : SelectionDirection) (v : ℚ) (k : ℕ) (w : ℚ) (i : ℕ) :
    Prop :=
  match direction with
  | .maximize => w < v ∨ w = v ∧ k ≤ i
  | .minimize => v < w ∨ v = w ∧ k ≤ i

def BestOf (direction : SelectionDirection) (cs : List (ℕ × PyDecimal)) (k : ℕ) : Prop :=
  ∃ v, (k, v) ∈ cs ∧ ∀ i w, (i, w) ∈ cs → direction.Prefers v.value k w.value i

/-- Comparing after the negation finds the best candidate: no score overflows, and no candidate
before the best one has a score that is rounded to the best score. -/
def Distinct (direction : SelectionDirection) (cs : List (ℕ × PyDecimal)) : Prop :=
  direction = .minimize ∨ (∀ c ∈ cs, InContext (roundedValue c.2.value)) ∧
    ∀ k v, (k, v) ∈ cs → BestOf direction cs k → ∀ i w, (i, w) ∈ cs → i < k →
      roundedValue w.value ≠ roundedValue v.value

section
variable {direction : SelectionDirection} {cs cs' : List (ℕ × PyDecimal)} {k : ℕ}
  {selected : Option ℕ} {v w : PyDecimal} {x y : ℚ}

theorem roundedValue_neg : roundedValue (-x) = -roundedValue x := roundTo_neg

theorem roundedValue_mono (h : x ≤ y) : roundedValue x ≤ roundedValue y :=
  roundTo_mono (by decide) (by decide) h

theorem inContext_neg : InContext (-x) ↔ InContext x := by
  unfold InContext
  rw [abs_neg]

theorem negated_eq_ok :
    negated v = .ok x ↔ InContext (roundedValue v.value) ∧ x = -roundedValue v.value := by
  unfold negated
  dsimp only
  rw [roundedValue_neg]
  by_cases h : InContext (roundedValue v.value)
  · rw [if_pos (inContext_neg.2 h), Except.ok.injEq]
    exact ⟨fun hx => ⟨h, hx.symm⟩, fun hx => hx.2.symm⟩
  · rw [if_neg (mt inContext_neg.1 h)]
    exact ⟨fun hx => (nomatch hx), fun hx => absurd hx.1 h⟩

theorem mem_keys {keys : List (ℚ ×ₗ ℕ)}
    (h : collect (cs.map fun c => (direction.scoreKey c.2).map fun key =>
      (toLex (key, c.1) : ℚ ×ₗ ℕ)) = .ok keys) :
    (∀ c ∈ cs, ∃ x, direction.scoreKey c.2 = .ok x) ∧ keys.length = cs.length ∧
      ∀ x i, toLex (x, i) ∈ keys ↔ ∃ v, (i, v) ∈ cs ∧ direction.scoreKey v = .ok x := by
  have hmap := collect_eq_ok.1 h
  refine ⟨?_, ?_, ?_⟩
  · intro c hc
    have hmem := mem_map_of_mem (f := fun c : ℕ × PyDecimal =>
      (direction.scoreKey c.2).map fun key => (toLex (key, c.1) : ℚ ×ₗ ℕ)) hc
    rw [hmap] at hmem
    obtain ⟨key, -, hkey⟩ := mem_map.1 hmem
    obtain ⟨x, hx, -⟩ := map_eq_ok.1 hkey.symm
    exact ⟨x, hx⟩
  · have hlength := congrArg List.length hmap
    rw [length_map, length_map] at hlength
    exact hlength.symm
  · intro x i
    have hiff : toLex (x, i) ∈ keys ↔
        (Except.ok (toLex (x, i)) : Except PyError (ℚ ×ₗ ℕ)) ∈ keys.map Except.ok := by
      rw [mem_map]
      exact ⟨fun hk => ⟨_, hk, rfl⟩, fun ⟨key, hk, hkey⟩ => Except.ok.inj hkey ▸ hk⟩
    rw [hiff, ← hmap, mem_map]
    constructor
    · rintro ⟨⟨i', v⟩, hc, hkey⟩
      obtain ⟨x', hx', hkey⟩ := map_eq_ok.1 hkey
      obtain ⟨rfl, rfl⟩ := Prod.mk.inj (toLex.injective hkey)
      exact ⟨v, hc, hx'⟩
    · rintro ⟨v, hc, hx⟩
      exact ⟨(i, v), hc, map_eq_ok.2 ⟨x, hx, rfl⟩⟩

theorem selectedCandidate_spec (h : selectedCandidate direction cs = .ok selected) :
    (∀ c ∈ cs, ∃ x, direction.scoreKey c.2 = .ok x) ∧ (selected = none ↔ cs = []) ∧
      ∀ k ∈ selected, ∃ v x, (k, v) ∈ cs ∧ direction.scoreKey v = .ok x ∧
        ∀ i w y, (i, w) ∈ cs → direction.scoreKey w = .ok y → x < y ∨ x = y ∧ k ≤ i := by
  obtain ⟨keys, hkeys, h⟩ := bind_eq_ok.1 h
  obtain ⟨hok, hlength, hmem⟩ := mem_keys hkeys
  obtain rfl := Except.ok.inj h
  refine ⟨hok, ?_, ?_⟩
  · rw [Option.map_eq_none_iff, min?_eq_none_iff, ← length_eq_zero_iff, hlength,
      length_eq_zero_iff]
  · intro k hk
    obtain ⟨key, hmin, rfl⟩ := Option.map_eq_some_iff.1 hk
    obtain ⟨hin, hle⟩ := min?_eq_some_iff.1 hmin
    obtain ⟨v, hv, hx⟩ := (hmem (ofLex key).1 (ofLex key).2).1 hin
    refine ⟨v, (ofLex key).1, hv, hx, fun i w y hw hy => ?_⟩
    exact Prod.Lex.toLex_le_toLex.1 (hle _ ((hmem y i).2 ⟨w, hw, hy⟩))

theorem exists_selectedCandidate (h : ∀ c ∈ cs, ∃ x, direction.scoreKey c.2 = .ok x) :
    ∃ selected, selectedCandidate direction cs = .ok selected := by
  have hkeys : ∀ c ∈ cs, ∃ key, ((direction.scoreKey c.2).map fun key =>
      (toLex (key, c.1) : ℚ ×ₗ ℕ)) = .ok key := by
    intro c hc
    obtain ⟨x, hx⟩ := h c hc
    exact ⟨_, map_eq_ok.2 ⟨x, hx, rfl⟩⟩
  obtain ⟨keys, hkeys⟩ := exists_map_ok hkeys
  exact ⟨_, bind_eq_ok.2 ⟨keys, collect_eq_ok.2 hkeys, rfl⟩⟩

theorem exists_bestOf (hne : cs ≠ []) : ∃ k, BestOf direction cs k := by
  have hkeys : (cs.map fun c => (toLex (match direction with
      | .maximize => -c.2.value
      | .minimize => c.2.value, c.1) : ℚ ×ₗ ℕ)) ≠ [] := fun h => hne (map_eq_nil_iff.1 h)
  obtain ⟨key, hmin⟩ := Option.ne_none_iff_exists'.1 (mt min?_eq_none_iff.1 hkeys)
  obtain ⟨hin, hle⟩ := min?_eq_some_iff.1 hmin
  obtain ⟨⟨k, v⟩, hv, rfl⟩ := mem_map.1 hin
  refine ⟨k, v, hv, fun i w hw => ?_⟩
  have h := Prod.Lex.toLex_le_toLex.1 (hle _ (mem_map_of_mem hw))
  cases direction with
  | maximize => exact h.imp neg_lt_neg_iff.1 fun h => ⟨(neg_injective h.1).symm, h.2⟩
  | minimize => exact h

theorem bestOf_unique {k' : ℕ} (h : BestOf direction cs k) (h' : BestOf direction cs k') : k = k' := by
  obtain ⟨v, hv, hbest⟩ := h
  obtain ⟨v', hv', hbest'⟩ := h'
  have h₁ := hbest k' v' hv'
  have h₂ := hbest' k v hv
  cases direction with
  | maximize | minimize =>
    rcases h₁ with h₁ | ⟨h₁, hk⟩
    · rcases h₂ with h₂ | ⟨h₂, -⟩
      · exact absurd h₁ h₂.not_gt
      · exact absurd h₂ h₁.ne'
    · rcases h₂ with h₂ | ⟨-, hk'⟩
      · exact absurd h₁ h₂.ne'
      · exact le_antisymm hk hk'

/-- **The selected candidate is the best one** exactly where the negation distinguishes it. -/
theorem selects_iff (hfunction : ∀ i v w, (i, v) ∈ cs → (i, w) ∈ cs → v = w) (hne : cs ≠ []) :
    (∃ k, selectedCandidate direction cs = .ok (some k) ∧ BestOf direction cs k) ↔
      Distinct direction cs := by
  cases direction with
  | minimize =>
    refine iff_of_true ?_ (.inl rfl)
    have hok : ∀ c ∈ cs, ∃ x, SelectionDirection.minimize.scoreKey c.2 = .ok x := fun c _ =>
      ⟨c.2.value, rfl⟩
    obtain ⟨selected, hselected⟩ := exists_selectedCandidate hok
    obtain ⟨-, hnone, hsome⟩ := selectedCandidate_spec hselected
    obtain ⟨k, rfl⟩ := Option.ne_none_iff_exists'.1 fun h => hne (hnone.1 h)
    obtain ⟨v, x, hv, hx, hle⟩ := hsome k rfl
    obtain rfl := Except.ok.inj hx
    exact ⟨k, hselected, v, hv, fun i w hw => hle i w w.value hw rfl⟩
  | maximize =>
    constructor
    · rintro ⟨k, hselected, hbest⟩
      obtain ⟨hok, -, hsome⟩ := selectedCandidate_spec hselected
      obtain ⟨v, x, hv, hx, hle⟩ := hsome k rfl
      refine .inr ⟨fun c hc => ?_, ?_⟩
      · obtain ⟨y, hy⟩ := hok c hc
        exact (negated_eq_ok.1 hy).1
      · intro k' v' hv' hbest' i w hw hik hrounded
        obtain rfl := bestOf_unique hbest hbest'
        obtain rfl := hfunction k v v' hv hv'
        obtain ⟨y, hy⟩ := hok (i, w) hw
        have hxy : x = y := by
          rw [(negated_eq_ok.1 hx).2, (negated_eq_ok.1 hy).2, hrounded]
        rcases hle i w y hw hy with hlt | ⟨-, hki⟩
        · exact hlt.ne hxy
        · exact absurd hki hik.not_ge
    · rintro (h | ⟨hcontext, hrounded⟩)
      · cases h
      · have hok : ∀ c ∈ cs, SelectionDirection.maximize.scoreKey c.2 =
            .ok (-roundedValue c.2.value) := fun c hc => negated_eq_ok.2 ⟨hcontext c hc, rfl⟩
        obtain ⟨selected, hselected⟩ := exists_selectedCandidate fun c hc => ⟨_, hok c hc⟩
        obtain ⟨-, hnone, hsome⟩ := selectedCandidate_spec hselected
        obtain ⟨k, rfl⟩ := Option.ne_none_iff_exists'.1 fun h => hne (hnone.1 h)
        obtain ⟨v, x, hv, hx, hle⟩ := hsome k rfl
        obtain ⟨b, vb, hvb, hbest⟩ : ∃ b, BestOf .maximize cs b := exists_bestOf hne
        -- the best score has the least key, so the selected one has the same key
        have hvle : v.value ≤ vb.value := by
          rcases hbest k v hv with h | ⟨h, -⟩
          · exact h.le
          · exact h.le
        have hmono := roundedValue_mono hvle
        have hxeq := (negated_eq_ok.1 hx).2
        have hkey : SelectionDirection.maximize.scoreKey vb = .ok (-roundedValue vb.value) :=
          hok (b, vb) hvb
        rcases hle b vb _ hvb hkey with hlt | ⟨heq, hkb⟩
        · rw [hxeq] at hlt
          exact absurd (neg_lt_neg_iff.1 hlt) hmono.not_gt
        · rcases hkb.lt_or_eq with hkb | rfl
          · rw [hxeq] at heq
            exact absurd (neg_injective heq) (hrounded b vb hvb ⟨vb, hvb, hbest⟩ k v hv hkb)
          · exact ⟨k, hselected, vb, hvb, hbest⟩

theorem selectedCandidate_perm (hp : cs ~ cs') :
    selectedCandidate direction cs = selectedCandidate direction cs' := by
  by_cases hok : ∀ c ∈ cs, ∃ x, direction.scoreKey c.2 = .ok x
  · obtain ⟨selected, h⟩ := exists_selectedCandidate hok
    obtain ⟨selected', h'⟩ := exists_selectedCandidate fun c hc => hok c (hp.mem_iff.2 hc)
    obtain ⟨keys, hkeys, hmin⟩ := bind_eq_ok.1 h
    obtain ⟨keys', hkeys', hmin'⟩ := bind_eq_ok.1 h'
    have hsame : keys.min? = keys'.min? := by
      refine Option.ext fun key => ?_
      rw [min?_eq_some_iff, min?_eq_some_iff]
      have hmem : ∀ key : ℚ ×ₗ ℕ, key ∈ keys ↔ key ∈ keys' := by
        intro key
        have hiff := (mem_keys hkeys).2.2 (ofLex key).1 (ofLex key).2
        have hiff' := (mem_keys hkeys').2.2 (ofLex key).1 (ofLex key).2
        exact hiff.trans ((exists_congr fun v => and_congr_left' hp.mem_iff).trans hiff'.symm)
      simp only [hmem]
    rw [h, h', ← hmin, ← hmin', hsame]
  · push Not at hok
    obtain ⟨c, hc, hraises⟩ := hok
    have herror : ∀ v e, direction.scoreKey v = .error e →
        e = ⟨.overflowError, "[<class 'decimal.Overflow'>]"⟩ := by
      intro v e he
      cases direction with
      | minimize => cases he
      | maximize =>
        change negated v = _ at he
        unfold negated at he
        dsimp only at he
        split_ifs at he
        exact (Except.error.inj he).symm
    have hfails : ∀ l, l ~ cs → selectedCandidate direction l =
        .error ⟨.overflowError, "[<class 'decimal.Overflow'>]"⟩ := by
      intro l hl
      unfold selectedCandidate
      rw [collect_eq_error, error_bind]
      · cases hkey : direction.scoreKey c.2 with
        | ok x => exact absurd hkey (hraises x)
        | error e =>
          refine mem_map.2 ⟨c, hl.mem_iff.2 hc, ?_⟩
          rw [hkey, herror _ _ hkey]
          rfl
      · intro e he
        obtain ⟨c', -, hc'⟩ := mem_map.1 he
        cases hkey : direction.scoreKey c'.2 with
        | ok x =>
          rw [hkey] at hc'
          cases hc'
        | error e' =>
          rw [hkey] at hc'
          cases hc'
          exact herror _ _ hkey
    rw [hfails cs (List.Perm.refl _), hfails cs' hp.symm]

end

/-! ## The selection of a plan -/

structure ScoresOf (sha256 : String → Digest) (plan : WalkForwardTrainingPlan)
    (scores : List WalkForwardTrainingScore) : Prop where
  unique : (scores.map (·.trainingTaskFingerprint)).Nodup
  covers : Covers sha256 plan scores
  metric : ∀ s ∈ scores, s.metricId = plan.metricId

/-- The candidate `k` has the best score of the fold, and the lowest index of those that do. -/
def IsBestCandidate (sha256 : String → Digest) (plan : WalkForwardTrainingPlan)
    (scores : List WalkForwardTrainingScore) (f k : ℕ) : Prop :=
  ∃ v, ScoredAt sha256 plan scores f k v ∧ ∀ i w, ScoredAt sha256 plan scores f i w →
    plan.direction.Prefers v.value k w.value i

def SelectsBest (sha256 : String → Digest) (plan : WalkForwardTrainingPlan)
    (folds : List WalkForwardFold) (scores : List WalkForwardTrainingScore)
    (selection : WalkForwardSelection) : Prop :=
  selection.oosTasks.map (·.foldIndex) = folds.map (·.foldIndex) ∧
    ∀ t ∈ selection.oosTasks, IsBestCandidate sha256 plan scores t.foldIndex t.candidateIndex ∧
      plan.candidateFingerprints[t.candidateIndex]? = some t.candidateFingerprint

/-- The negation of the scores distinguishes the best candidates: the metric is minimized, or no
score overflows the decimal context and no candidate with a lower index than the best one has a
score that is rounded to the best score. -/
def DistinguishesBest (sha256 : String → Digest) (plan : WalkForwardTrainingPlan)
    (scores : List WalkForwardTrainingScore) : Prop :=
  plan.direction = .minimize ∨ (∀ s ∈ scores, InContext (roundedValue s.value.value)) ∧
    ∀ f k v i w, IsBestCandidate sha256 plan scores f k → ScoredAt sha256 plan scores f k v →
      ScoredAt sha256 plan scores f i w → i < k → roundedValue w.value ≠ roundedValue v.value

section
variable {sha256 : String → Digest} {experiment : Digest} {candidates : List Digest}
  {folds : List WalkForwardFold} {metricId : String} {direction : SelectionDirection}
  {maxTasks : ℤ} {plan : WalkForwardTrainingPlan} {scores scores' : List WalkForwardTrainingScore}
  {selection : WalkForwardSelection} {fold : WalkForwardFold} {t : WalkForwardOosTask} {f k : ℕ}
  {planFingerprint evidence : Digest} {tasks : List WalkForwardOosTask}

theorem makeWalkForwardTrainingPlan_eq_ok {foldFingerprints : List Digest}
    {tasks : List WalkForwardTrainingTask}
    (h : makeWalkForwardTrainingPlan experiment metricId direction candidates foldFingerprints
      tasks = .ok plan) :
    plan.direction = direction ∧ plan.candidateFingerprints = candidates ∧
      plan.foldFingerprints = foldFingerprints := by
  unfold makeWalkForwardTrainingPlan at h
  split_ifs at h
  obtain rfl := Except.ok.inj h
  exact ⟨rfl, rfl, rfl⟩

theorem buildWalkForwardTrainingPlan_eq_ok
    (h : buildWalkForwardTrainingPlan sha256 experiment candidates folds metricId direction
      maxTasks = .ok plan) :
    candidates ≠ [] ∧ folds ≠ [] ∧ folds.map (·.foldIndex) = List.range folds.length ∧
      plan.candidateFingerprints = candidates ∧
      plan.foldFingerprints = folds.map (·.fingerprint sha256) := by
  obtain ⟨_, hcandidates, h⟩ := bind_eq_ok.1 h
  obtain ⟨_, hfolds, h⟩ := bind_eq_ok.1 h
  obtain ⟨_, hindices, h⟩ := bind_eq_ok.1 h
  obtain ⟨_, -, h⟩ := bind_eq_ok.1 h
  obtain ⟨_, -, h⟩ := bind_eq_ok.1 h
  obtain ⟨-, hc, hf⟩ := makeWalkForwardTrainingPlan_eq_ok h
  exact ⟨ensure_eq_ok.1 hcandidates, ensure_eq_ok.1 hfolds, ensure_eq_ok.1 hindices, hc, hf⟩

theorem makeWalkForwardSelection_eq_ok
    (h : makeWalkForwardSelection planFingerprint evidence tasks = .ok selection) :
    selection.trainingPlanFingerprint = planFingerprint ∧
      selection.scoreEvidenceFingerprint = evidence ∧
      selection.oosTasks = sortBy (·.foldIndex) tasks := by
  unfold makeWalkForwardSelection at h
  split_ifs at h
  obtain rfl := Except.ok.inj h
  exact ⟨rfl, rfl, rfl⟩

theorem exists_makeWalkForwardSelection (hne : tasks ≠ [])
    (hindices : tasks.map (·.foldIndex) = List.range tasks.length)
    (hbound : ∀ t ∈ tasks, t.trainingSelectionFingerprint = evidence) :
    ∃ selection, makeWalkForwardSelection planFingerprint evidence tasks = .ok selection := by
  unfold makeWalkForwardSelection
  have hsorted : sortBy id (tasks.map (·.foldIndex)) = List.range tasks.length := by
    rw [hindices]
    exact sortBy_of_pairwise pairwise_lt_range
  rw [dif_pos hne, if_neg (not_not.2 (hindices ▸ nodup_range)), if_neg (not_not.2 hsorted),
    dif_pos hbound]
  exact ⟨_, rfl⟩

theorem selectOosTask_eq_ok : selectOosTask sha256 plan scores fold = .ok t ↔
    ∃ k c, selectedCandidate plan.direction (candidateScores sha256 plan scores fold.foldIndex) =
        .ok (some k) ∧ plan.candidateFingerprints[k]? = some c ∧
      t = ⟨fold.foldIndex, fold.fingerprint sha256, k, c, fold.testIndices,
        scoreEvidence sha256 scores, fold.test_nonempty, fold.test_increasing⟩ := by
  unfold selectOosTask
  cases hselected : selectedCandidate plan.direction
      (candidateScores sha256 plan scores fold.foldIndex) with
  | error e =>
    refine iff_of_false (fun h => (nomatch h)) ?_
    rintro ⟨k, c, h, -⟩
    cases h
  | ok selected =>
    rw [ok_bind]
    cases selected with
    | none =>
      refine iff_of_false (fun h => (nomatch h)) ?_
      rintro ⟨k, c, h, -⟩
      cases h
    | some k =>
      dsimp only
      cases hc : plan.candidateFingerprints[k]? with
      | none =>
        refine iff_of_false (fun h => (nomatch h)) ?_
        rintro ⟨k', c, h, hc', -⟩
        cases h
        rw [hc] at hc'
        cases hc'
      | some c =>
        dsimp only
        constructor
        · intro h
          exact ⟨k, c, rfl, hc, (Except.ok.inj h).symm⟩
        · rintro ⟨k', c', h, hc', rfl⟩
          cases h
          rw [hc] at hc'
          cases hc'
          rfl

theorem isBestCandidate_iff (hsha : Injective sha256) :
    IsBestCandidate sha256 plan scores f k ↔
      BestOf plan.direction (candidateScores sha256 plan scores f) k := by
  simp only [IsBestCandidate, BestOf, mem_candidateScores hsha]

theorem candidateScores_ne_nil (hsha : Injective sha256)
    (hcovers : Covers sha256 plan scores) (hf : f < plan.foldFingerprints.length)
    (hne : plan.candidateFingerprints ≠ []) : candidateScores sha256 plan scores f ≠ [] := by
  obtain ⟨w, hw⟩ := exists_scoredAt hcovers hf (length_pos_of_ne_nil hne)
  exact ne_nil_of_mem ((mem_candidateScores hsha).2 hw)

theorem distinguishesBest_iff (hsha : Injective sha256) (h : ScoresOf sha256 plan scores) :
    DistinguishesBest sha256 plan scores ↔ ∀ f < plan.foldFingerprints.length,
      Distinct plan.direction (candidateScores sha256 plan scores f) := by
  constructor
  · rintro (hmin | ⟨hcontext, hrounded⟩) f -
    · exact .inl hmin
    · refine .inr ⟨?_, ?_⟩
      · rintro ⟨c, w⟩ hc
        obtain ⟨-, -, s, hs, -, -, rfl⟩ := (mem_candidateScores hsha).1 hc
        exact hcontext s hs
      · intro k v hv hbest i w hw
        exact hrounded f k v i w ((isBestCandidate_iff hsha).2 hbest)
          ((mem_candidateScores hsha).1 hv) ((mem_candidateScores hsha).1 hw)
  · intro hall
    by_cases hmin : plan.direction = .minimize
    · exact .inl hmin
    · refine .inr ⟨fun s hs => ?_, ?_⟩
      · obtain ⟨f, c, hscored⟩ := scored_of_mem h.covers hs
        rcases hall f (scoredAt_lt hscored).1 with hdirection | ⟨hcontext, -⟩
        · exact absurd hdirection hmin
        · exact hcontext (c, s.value) ((mem_candidateScores hsha).2 hscored)
      · intro f k v i w hbest hv hw
        rcases hall f (scoredAt_lt hv).1 with hdirection | ⟨-, hrounded⟩
        · exact absurd hdirection hmin
        · exact hrounded k v ((mem_candidateScores hsha).2 hv)
            ((isBestCandidate_iff hsha).1 hbest) i w ((mem_candidateScores hsha).2 hw)

theorem selectWalkForwardOosTasks_eq_ok : selectWalkForwardOosTasks sha256 plan folds scores =
      .ok selection ↔ folds.map (·.fingerprint sha256) = plan.foldFingerprints ∧ scores ≠ [] ∧
        ScoresOf sha256 plan scores ∧ ∃ selected,
          folds.map (selectOosTask sha256 plan scores) = selected.map .ok ∧
            makeWalkForwardSelection (plan.fingerprint sha256) (scoreEvidence sha256 scores)
              selected = .ok selection := by
  unfold selectWalkForwardOosTasks
  constructor
  · intro h
    obtain ⟨_, hfolds, h⟩ := bind_eq_ok.1 h
    obtain ⟨_, -, h⟩ := bind_eq_ok.1 h
    obtain ⟨_, hne, h⟩ := bind_eq_ok.1 h
    obtain ⟨_, hunique, h⟩ := bind_eq_ok.1 h
    obtain ⟨_, hcovers, h⟩ := bind_eq_ok.1 h
    obtain ⟨_, hmetric, h⟩ := bind_eq_ok.1 h
    obtain ⟨selected, hselected, h⟩ := bind_eq_ok.1 h
    exact ⟨ensure_eq_ok.1 hfolds, ensure_eq_ok.1 hne, ⟨ensure_eq_ok.1 hunique,
      ensure_eq_ok.1 hcovers, ensure_eq_ok.1 hmetric⟩, selected, collect_eq_ok.1 hselected, h⟩
  · rintro ⟨hfolds, hne, hscores, selected, hselected, h⟩
    have hlength : folds.length = plan.foldFingerprints.length := by
      rw [← hfolds, length_map]
    rw [ensure_of hfolds, ensure_of hlength, ensure_of hne, ensure_of hscores.unique,
      ensure_of hscores.covers, ensure_of hscores.metric, collect_eq_ok.2 hselected]
    exact h

theorem selectsBest_iff (hsha : Injective sha256)
    (hplan : buildWalkForwardTrainingPlan sha256 experiment candidates folds metricId direction
      maxTasks = .ok plan) (hscores : ScoresOf sha256 plan scores) :
    (∃ selection, selectWalkForwardOosTasks sha256 plan folds scores = .ok selection ∧
      SelectsBest sha256 plan folds scores selection) ↔ DistinguishesBest sha256 plan scores := by
  obtain ⟨hcandidates, hfolds, hindices, hpc, hpf⟩ := buildWalkForwardTrainingPlan_eq_ok hplan
  have hlength : plan.foldFingerprints.length = folds.length := by rw [hpf, length_map]
  have hne : plan.candidateFingerprints ≠ [] := hpc ▸ hcandidates
  have hlt : ∀ f, f < plan.foldFingerprints.length ↔ ∃ fold ∈ folds, fold.foldIndex = f := by
    intro f
    rw [hlength, ← mem_range, ← hindices, mem_map]
  have hfunction : ∀ f i v w, (i, v) ∈ candidateScores sha256 plan scores f →
      (i, w) ∈ candidateScores sha256 plan scores f → v = w := fun f i v w hv hw =>
    scoredAt_unique hscores.unique ((mem_candidateScores hsha).1 hv)
      ((mem_candidateScores hsha).1 hw)
  rw [distinguishesBest_iff hsha hscores]
  have hselects : ∀ f < plan.foldFingerprints.length,
      ((∃ k, selectedCandidate plan.direction (candidateScores sha256 plan scores f) =
        .ok (some k) ∧ BestOf plan.direction (candidateScores sha256 plan scores f) k) ↔
          Distinct plan.direction (candidateScores sha256 plan scores f)) := fun f hf =>
    selects_iff (hfunction f) (candidateScores_ne_nil hsha hscores.covers hf hne)
  constructor
  · rintro ⟨selection, hselection, -, hbest⟩ f hf
    obtain ⟨-, -, -, selected, hselected, hmake⟩ := selectWalkForwardOosTasks_eq_ok.1 hselection
    obtain ⟨fold, hfold, rfl⟩ := (hlt f).1 hf
    have hmem := mem_map_of_mem (f := selectOosTask sha256 plan scores) hfold
    rw [hselected] at hmem
    obtain ⟨t, ht, htask⟩ := mem_map.1 hmem
    obtain ⟨k, c, hk, -, rfl⟩ := selectOosTask_eq_ok.1 htask.symm
    have htasks := (makeWalkForwardSelection_eq_ok hmake).2.2
    have hin := (perm_sortBy (fun t : WalkForwardOosTask => t.foldIndex) selected).mem_iff.2 ht
    rw [← htasks] at hin
    exact (hselects _ hf).1 ⟨k, hk, (isBestCandidate_iff hsha).1 (hbest _ hin).1⟩
  · intro hdistinct
    have hok : ∀ fold ∈ folds, ∃ t, selectOosTask sha256 plan scores fold = .ok t := by
      intro fold hfold
      obtain ⟨k, hk, v, hv, -⟩ := (hselects _ ((hlt _).2 ⟨fold, hfold, rfl⟩)).2
        (hdistinct _ ((hlt _).2 ⟨fold, hfold, rfl⟩))
      have hklt := (scoredAt_lt ((mem_candidateScores hsha).1 hv)).2
      exact ⟨_, selectOosTask_eq_ok.2 ⟨k, _, hk, getElem?_eq_getElem hklt, rfl⟩⟩
    obtain ⟨selected, hselected⟩ := exists_map_ok hok
    have hmem : ∀ t ∈ selected, ∃ fold ∈ folds, selectOosTask sha256 plan scores fold = .ok t := by
      intro t ht
      have hin := mem_map_of_mem (f := (Except.ok : _ → Except PyError WalkForwardOosTask)) ht
      rw [← hselected] at hin
      exact mem_map.1 hin
    have hlen : selected.length = folds.length := by
      have := congrArg List.length hselected
      rw [length_map, length_map] at this
      exact this.symm
    have hfoldIndices : selected.map (·.foldIndex) = folds.map (·.foldIndex) := by
      refine ext_getElem (by rw [length_map, length_map, hlen]) ?_
      intro n h₁ h₂
      rw [length_map] at h₁ h₂
      rw [getElem_map, getElem_map]
      have hn : selectOosTask sha256 plan scores folds[n] = .ok selected[n] := by
        have := congrArg (·[n]?) hselected
        simpa [h₁, h₂] using this
      obtain ⟨k, c, -, -, heq⟩ := selectOosTask_eq_ok.1 hn
      rw [heq]
    have hnonempty : selected ≠ [] := by
      rw [← length_pos_iff, hlen, length_pos_iff]
      exact hfolds
    have hscoresne : scores ≠ [] := by
      intro hnil
      obtain ⟨fold, hfold⟩ := exists_mem_of_ne_nil _ hfolds
      refine candidateScores_ne_nil hsha hscores.covers ((hlt _).2 ⟨fold, hfold, rfl⟩) hne ?_
      rw [hnil, candidateScores, filterMap_nil]
    have hbound : ∀ t ∈ selected,
        t.trainingSelectionFingerprint = scoreEvidence sha256 scores := by
      intro t ht
      obtain ⟨fold, -, htask⟩ := hmem t ht
      obtain ⟨k, c, -, -, rfl⟩ := selectOosTask_eq_ok.1 htask
      rfl
    obtain ⟨selection, hmake⟩ : ∃ selection, makeWalkForwardSelection (plan.fingerprint sha256)
        (scoreEvidence sha256 scores) selected = .ok selection :=
      exists_makeWalkForwardSelection hnonempty (by rw [hfoldIndices, hindices, hlen]) hbound
    have htasks : selection.oosTasks = selected := by
      rw [(makeWalkForwardSelection_eq_ok hmake).2.2]
      refine sortBy_of_pairwise ?_
      rw [← pairwise_map (f := fun t : WalkForwardOosTask => t.foldIndex), hfoldIndices,
        hindices]
      exact pairwise_lt_range
    refine ⟨selection, selectWalkForwardOosTasks_eq_ok.2
      ⟨hpf.symm, hscoresne, hscores, selected, hselected, hmake⟩, ?_, ?_⟩
    · rw [htasks, hfoldIndices]
    · intro t ht
      rw [htasks] at ht
      obtain ⟨fold, hfold, htask⟩ := hmem t ht
      obtain ⟨k, c, hk, hc, rfl⟩ := selectOosTask_eq_ok.1 htask
      have hf := (hlt _).2 ⟨fold, hfold, rfl⟩
      obtain ⟨k', hk', hbest⟩ := (hselects _ hf).2 (hdistinct _ hf)
      rw [hk] at hk'
      cases hk'
      exact ⟨(isBestCandidate_iff hsha).2 hbest, hc⟩

theorem candidateScores_perm (hp : scores ~ scores') :
    candidateScores sha256 plan scores f ~ candidateScores sha256 plan scores' f :=
  hp.filterMap _

theorem scoreEvidence_perm (hp : scores ~ scores') :
    scoreEvidence sha256 scores = scoreEvidence sha256 scores' := by
  unfold scoreEvidence
  rw [sortBy_eq_of_perm (hp.map _) fun a _ b _ h => toLex.injective h]

theorem covers_perm (hp : scores ~ scores') (h : Covers sha256 plan scores) :
    Covers sha256 plan scores' := by
  refine ⟨fun s hs => h.1 s (hp.mem_iff.2 hs), fun t ht => ?_⟩
  obtain ⟨s, hs, hfingerprint⟩ := h.2 t ht
  exact ⟨s, hp.mem_iff.1 hs, hfingerprint⟩

theorem selectWalkForwardOosTasks_perm (hp : scores ~ scores') :
    selectWalkForwardOosTasks sha256 plan folds scores =
      selectWalkForwardOosTasks sha256 plan folds scores' := by
  have htask : selectOosTask sha256 plan scores = selectOosTask sha256 plan scores' := by
    funext fold
    unfold selectOosTask
    rw [selectedCandidate_perm (candidateScores_perm hp), scoreEvidence_perm hp]
  have hnil : scores ≠ [] ↔ scores' ≠ [] := by
    rw [← length_pos_iff, hp.length_eq, length_pos_iff]
  have hunique := (hp.map fun s : WalkForwardTrainingScore => s.trainingTaskFingerprint).nodup_iff
  have hcovers : Covers sha256 plan scores ↔ Covers sha256 plan scores' :=
    ⟨covers_perm hp, covers_perm hp.symm⟩
  have hmetric : (∀ s ∈ scores, s.metricId = plan.metricId) ↔
      ∀ s ∈ scores', s.metricId = plan.metricId :=
    forall_congr' fun s => by rw [hp.mem_iff]
  unfold selectWalkForwardOosTasks
  simp only [ensure, hnil, hunique, hcovers, hmetric, htask, scoreEvidence_perm hp]

end

end ChartingPlatform
