/-
  The walk-forward phases in the search queue (`walk_forward_trials.py`,
  `walk_forward_queue.py`): the training queue of a plan, the training scores that are
  read back from it, and the append of the selected out-of-sample trials.
-/
import ChartingPlatform.Experiments.Selection
import ChartingPlatform.Ranking.TrialIdentity
import ChartingPlatform.Search.Retries

namespace ChartingPlatform

open Lib List

/-! ## Trials -/

inductive WalkForwardPurpose where
  | training | outOfSample
  deriving DecidableEq, Repr

def WalkForwardPurpose.text : WalkForwardPurpose → String
  | .training => "training"
  | .outOfSample => "out_of_sample"

/-- `WalkForwardTrialBinding`. -/
structure WalkForwardTrialBinding where
  taskFingerprint : Digest
  trialFingerprint : Digest
  foldIndex : ℕ
  candidateIndex : ℕ
  purpose : WalkForwardPurpose
  windowFingerprint : Digest
  deriving DecidableEq

/-- `MaterializedWalkForwardTrials`: its trials, by their ids, and its bindings. -/
structure MaterializedWalkForwardTrials where
  trialIds : List Digest
  bindings : List WalkForwardTrialBinding
  trials_nonempty : trialIds ≠ []
  trials_bound : trialIds = bindings.map (·.trialFingerprint)
  tasks_nodup : (bindings.map (·.taskFingerprint)).Nodup
  one_purpose : ∀ b ∈ bindings, ∀ b' ∈ bindings, b.purpose = b'.purpose

/-- `tuple(binding.trial_fingerprint for binding in trials.bindings)`. -/
def MaterializedWalkForwardTrials.fingerprints (m : MaterializedWalkForwardTrials) : List Digest :=
  m.bindings.map (·.trialFingerprint)

/-- `tuple(dict.fromkeys(...))` of them. -/
def MaterializedWalkForwardTrials.distinct (m : MaterializedWalkForwardTrials) : List Digest :=
  firsts id m.fingerprints

/-- The fields of a `RunResultManifest` that walk-forward results read. -/
structure WalkForwardManifest extends RunResultManifest where
  evaluationWindow : Option EvaluationWindow
  engineName : String

/-- `training_score_from_result_manifest`, with the checks of
`_verify_authoritative_walk_forward_result` and `_selection_metric`. -/
def trainingScoreFromResultManifest (sha256 : String → Digest) (b : WalkForwardTrialBinding)
    (result : WalkForwardManifest) (metricId : String) : Except PyError WalkForwardTrainingScore := do
  ensure (b.purpose = .training) (valueError "result binding purpose must be training")
  match result.evaluationWindow with
  | none => .error (valueError "walk-forward result trial must bind an evaluation window")
  | some window => do
    ensure (result.trialId = b.trialFingerprint ∧ digest sha256 window.toPy = b.windowFingerprint ∧
        window.purpose = b.purpose.text)
      (valueError "native result evidence differs from the exact walk-forward trial window")
    ensure (result.engineAuthoritative = true ∧
        result.engineName.toList.map Char.toLower = "nautilus".toList)
      (valueError "walk-forward selection requires an authoritative Nautilus result")
    if hmetric : notBlank metricId = true then
      match result.metricSet.values.filter fun m => decide (m.name = metricId) with
      | [m] =>
        match hvalue : m.value with
        | none => .error (valueError "a null metric cannot be used for training selection")
        | some value =>
          return {
            trainingTaskFingerprint := b.taskFingerprint
            metricId := metricId
            value := value
            resultFingerprint := result.fingerprint
            metricId_notBlank := hmetric
            value_finite := by
              have hvalid := m.value_valid
              rw [hvalue] at hvalid
              exact hvalid.1 }
      | _ => .error (valueError "selection metric must resolve to exactly one result metric")
    else .error (valueError "metric_id must not be empty")

/-! ## The training queue -/

/-- `WalkForwardQueueTaskBinding`. -/
structure WalkForwardQueueTaskBinding where
  candidateIndex : ℕ
  taskFingerprint : Digest
  trialFingerprint : Digest
  foldIndex : ℕ
  parameterCandidateIndex : ℕ
  purpose : WalkForwardPurpose
  deriving DecidableEq

/-- `WalkForwardQueueResultEvidence`. -/
structure WalkForwardQueueResultEvidence where
  searchResultFingerprint : Digest
  manifest : WalkForwardManifest

/-- `_validate_training_materialization`. -/
def validateTrainingMaterialization (sha256 : String → Digest) (plan : WalkForwardTrainingPlan)
    (trials : MaterializedWalkForwardTrials) : Except PyError Unit := do
  ensure (trials.bindings.map (·.taskFingerprint) = plan.tasks.map (·.fingerprint sha256))
    (valueError "training trial bindings differ from the exact immutable task order")
  ensure (∀ b ∈ trials.bindings, b.purpose = .training)
    (valueError "training materialization contains a non-training binding")

/-- `_validate_oos_materialization`. -/
def validateOosMaterialization (sha256 : String → Digest) (selection : WalkForwardSelection)
    (trials : MaterializedWalkForwardTrials) : Except PyError Unit := do
  ensure (trials.bindings.map (·.taskFingerprint) =
      selection.oosTasks.map (·.fingerprint sha256))
    (valueError "OOS trial bindings differ from the exact selected task order")
  ensure (∀ b ∈ trials.bindings, b.purpose = .outOfSample)
    (valueError "OOS materialization contains a non-OOS binding")

/-- The index that `setdefault(trial, len(index))` gives a trial: its place among the trials in
the order of their first occurrences. -/
def queueIndex (trials : List Digest) (trial : Digest) : ℕ := (firsts id trials).idxOf trial

/-- `initialize_walk_forward_training_queue`. -/
def initializeWalkForwardTrainingQueue (sha256 : String → Digest) (plan : WalkForwardTrainingPlan)
    (trials : MaterializedWalkForwardTrials) (now : Option Instant) :
    Except PyError (SearchExecutionState × List WalkForwardQueueTaskBinding) := do
  validateTrainingMaterialization sha256 plan trials
  let bindings := (plan.tasks.zip trials.trialIds).map fun p =>
    ({ candidateIndex := queueIndex trials.trialIds p.2
       taskFingerprint := p.1.fingerprint sha256
       trialFingerprint := p.2
       foldIndex := p.1.foldIndex
       parameterCandidateIndex := p.1.candidateIndex
       purpose := .training } : WalkForwardQueueTaskBinding)
  let state ← newSearchExecutionState plan.experimentFingerprint (firsts id trials.trialIds) now
  return (state, bindings)

/-- The body of the loop over the queue bindings: the binding agrees with the trial that its
task was given. -/
def Agrees (bindings : List WalkForwardTrialBinding) (trials : List Digest)
    (q : WalkForwardQueueTaskBinding) : Prop :=
  ∃ b ∈ rowWith (·.taskFingerprint) q.taskFingerprint bindings,
    q.candidateIndex = queueIndex trials q.trialFingerprint ∧
      q.trialFingerprint = b.trialFingerprint ∧ q.foldIndex = b.foldIndex ∧
      q.parameterCandidateIndex = b.candidateIndex

instance (bindings : List WalkForwardTrialBinding) (trials : List Digest)
    (q : WalkForwardQueueTaskBinding) : Decidable (Agrees bindings trials q) :=
  decidable_of_iff ((rowWith (·.taskFingerprint) q.taskFingerprint bindings).any fun b =>
      decide (q.candidateIndex = queueIndex trials q.trialFingerprint ∧
        q.trialFingerprint = b.trialFingerprint ∧ q.foldIndex = b.foldIndex ∧
        q.parameterCandidateIndex = b.candidateIndex) = true)
    (by simp [Agrees, Option.any_eq_true])

def scoreOfBinding (sha256 : String → Digest) (plan : WalkForwardTrainingPlan)
    (candidates : List SearchCandidateState)
    (results : List (String × WalkForwardQueueResultEvidence))
    (p : WalkForwardQueueTaskBinding × WalkForwardTrialBinding) :
    Except PyError WalkForwardTrainingScore :=
  match candidates[p.1.candidateIndex]? with
  -- never: the training candidates have succeeded, and their attempts have results
  | none => .error (keyError "tuple index out of range")
  | some candidate =>
    match candidate.attemptId.bind fun id => rowWith (·.1) id results with
    | none => .error (keyError "attempt_id")
    | some (id, evidence) => do
      ensure (evidence.manifest.attemptId = id ∧
          evidence.manifest.trialId = p.1.trialFingerprint ∧
          evidence.manifest.experimentFingerprint = plan.experimentFingerprint ∧
          some evidence.searchResultFingerprint = candidate.resultFingerprint)
        (valueError "resolved result manifest differs from the persisted search receipt")
      trainingScoreFromResultManifest sha256 p.2 evidence.manifest plan.metricId

/-- `training_scores_from_search_queue`; the results are keyed by attempt. -/
def trainingScoresFromSearchQueue (sha256 : String → Digest) (plan : WalkForwardTrainingPlan)
    (trials : MaterializedWalkForwardTrials) (bindings : List WalkForwardQueueTaskBinding)
    (s : SearchExecutionState) (results : List (String × WalkForwardQueueResultEvidence)) :
    Except PyError (List WalkForwardTrainingScore) := do
  validateTrainingMaterialization sha256 plan trials
  ensure (s.experimentFingerprint = plan.experimentFingerprint)
    (valueError "search state differs from the walk-forward experiment")
  ensure (bindings.map (·.taskFingerprint) = plan.tasks.map (·.fingerprint sha256))
    (valueError "queue bindings differ from the exact walk-forward task order")
  ensure (∀ q ∈ bindings, q.purpose = .training)
    (valueError "training queue contains a non-training task binding")
  ensure (∀ q ∈ bindings, Agrees trials.bindings (bindings.map (·.trialFingerprint)) q)
    (valueError "queue task binding differs from its fold trial binding")
  let planned : List Digest := firsts id (bindings.map (·.trialFingerprint))
  ensure (planned.length ≤ s.candidates.length)
    (valueError "durable search queue is missing planned training candidates")
  let training := s.candidates.take planned.length
  ensure (training.map (·.trialFingerprint) = planned)
    (valueError "durable training candidate order differs from the walk-forward plan")
  ensure (∀ c ∈ training, c.phase = .succeeded ∧ c.attemptId ≠ none)
    (valueError "every training candidate must have a successful durable attempt")
  ensure ((results.map (·.1)).toFinset = (training.filterMap (·.attemptId)).toFinset)
    (valueError "resolved training manifests must exactly cover successful attempts")
  collect ((bindings.zip trials.bindings).map
    (scoreOfBinding sha256 plan s.candidates results))

/-! ## The append of the selected trials -/

/-- `WalkForwardQueueTransition`. -/
structure WalkForwardQueueTransition where
  resolution : SearchStateResolution
  oosTaskBindings : List WalkForwardQueueTaskBinding
  rejected : resolution.decision = .reject → oosTaskBindings = []
  bindings_nodup : (oosTaskBindings.map (·.taskFingerprint)).Nodup

def WalkForwardQueueTransition.only (resolution : SearchStateResolution) :
    WalkForwardQueueTransition where
  resolution := resolution
  oosTaskBindings := []
  rejected _ := rfl
  bindings_nodup := nodup_nil

/-- The bindings of the selected tasks, from the index `start`. -/
def oosBindings (sha256 : String → Digest) (start : ℕ) (selection : WalkForwardSelection)
    (trials : MaterializedWalkForwardTrials) : List WalkForwardQueueTaskBinding :=
  (selection.oosTasks.zip trials.trialIds).mapIdx fun i p =>
    { candidateIndex := start + i
      taskFingerprint := p.1.fingerprint sha256
      trialFingerprint := p.2
      foldIndex := p.1.foldIndex
      parameterCandidateIndex := p.1.candidateIndex
      purpose := .outOfSample }

/-- A replay where the queue holds both phases, or else the append of the second one. -/
def oosResolution (s : SearchExecutionState) (training oos : List Digest) (now : Instant) :
    Except PyError SearchStateResolution :=
  if s.trials = training ++ oos then .ok (s.replayed (some training.length))
  else appendSearchCandidates s oos now

def makeQueueTransition (resolution : SearchStateResolution)
    (bindings : List WalkForwardQueueTaskBinding) : Except PyError WalkForwardQueueTransition :=
  if hrejected : resolution.decision = .reject → bindings = [] then
    if hnodup : (bindings.map (·.taskFingerprint)).Nodup then
      .ok ⟨resolution, bindings, hrejected, hnodup⟩
    else .error (valueError "OOS queue task bindings must be unique")
  else .error (valueError "rejected queue transitions cannot expose task assignments")

/-- `append_selected_oos_queue`. -/
def appendSelectedOosQueue (sha256 : String → Digest) (s : SearchExecutionState)
    (plan : WalkForwardTrainingPlan) (folds : List WalkForwardFold)
    (trainingTrials : MaterializedWalkForwardTrials)
    (trainingBindings : List WalkForwardQueueTaskBinding)
    (results : List (String × WalkForwardQueueResultEvidence)) (selection : WalkForwardSelection)
    (oosTrials : MaterializedWalkForwardTrials) (now : Instant) :
    Except PyError WalkForwardQueueTransition := do
  ensure (s.experimentFingerprint = plan.experimentFingerprint)
    (valueError "search state differs from the walk-forward experiment")
  validateTrainingMaterialization sha256 plan trainingTrials
  ensure (selection.trainingPlanFingerprint = plan.fingerprint sha256)
    (valueError "selection differs from the immutable training plan")
  ensure oosTrials.fingerprints.Nodup
    (valueError "each selected OOS fold must materialize a unique immutable trial")
  if ¬ (s.trials = trainingTrials.distinct ∨
      s.trials = trainingTrials.distinct ++ oosTrials.fingerprints) then
    return .only (s.rejected none
      "persisted search queue does not match the exact walk-forward phase trials")
  else if s.trials = trainingTrials.distinct ∧
      (¬ s.complete ∨ ∃ c ∈ s.candidates, c.phase ≠ .succeeded) then
    return .only (s.rejected none "all training candidates must succeed before OOS dispatch")
  else do
    let scores ← trainingScoresFromSearchQueue sha256 plan trainingTrials trainingBindings s results
    let expected ← selectWalkForwardOosTasks sha256 plan folds scores
    ensure (selection = expected)
      (valueError "OOS selection differs from the complete deterministic training evidence")
    validateOosMaterialization sha256 selection oosTrials
    let resolution ← oosResolution s trainingTrials.distinct oosTrials.fingerprints now
    if resolution.decision = .reject then
      return .only resolution
    else
      makeQueueTransition resolution
        (oosBindings sha256 trainingTrials.distinct.length selection oosTrials)

/-! ## Places in the queue -/

section
variable {trials : List Digest} {trial : Digest}

theorem getElem?_queueIndex (h : trial ∈ trials) :
    (firsts id trials)[queueIndex trials trial]? = some trial := by
  have hlt : (firsts id trials).idxOf trial < (firsts id trials).length :=
    idxOf_lt_length_of_mem (mem_firsts_id.2 h)
  rw [queueIndex, getElem?_eq_getElem hlt, getElem_idxOf hlt]

theorem queueIndex_lt (h : trial ∈ trials) : queueIndex trials trial < (firsts id trials).length :=
  idxOf_lt_length_of_mem (mem_firsts_id.2 h)

end

section
variable {s : SearchExecutionState} {n : ℕ} {trial : Digest}

theorem candidate_of_trial (h : s.trials[n]? = some trial) :
    ∃ c, s.candidates[n]? = some c ∧ c.trialFingerprint = trial := by
  rw [SearchExecutionState.trials, getElem?_map] at h
  exact Option.map_eq_some_iff.1 h

theorem length_trials : s.trials.length = s.candidates.length := length_map _

theorem appendSearchCandidates_experiment {trials : List Digest} {now : Instant}
    {res : SearchStateResolution} (h : appendSearchCandidates s trials now = .ok res) :
    res.state.experimentFingerprint = s.experimentFingerprint := by
  unfold appendSearchCandidates at h
  obtain ⟨_, -, h⟩ := bind_eq_ok.1 h
  obtain ⟨_, -, h⟩ := bind_eq_ok.1 h
  split_ifs at h
  · exact Except.ok.inj h ▸ rfl
  · exact Except.ok.inj h ▸ rfl
  · exact Except.ok.inj h ▸ rfl
  · exact Except.ok.inj h ▸ rfl
  · obtain ⟨next, hnext, h⟩ := bind_eq_ok.1 h
    obtain rfl := Except.ok.inj h
    exact (makeSearchExecutionState_eq_ok hnext).1
  · exact Except.ok.inj h ▸ rfl

end

theorem initialize_bound {sha256 : String → Digest} {plan : WalkForwardTrainingPlan}
    {trials : MaterializedWalkForwardTrials} {now : Option Instant} {s : SearchExecutionState}
    {bindings : List WalkForwardQueueTaskBinding}
    (h : initializeWalkForwardTrainingQueue sha256 plan trials now = .ok (s, bindings)) :
    bindings.map (·.taskFingerprint) = plan.tasks.map (·.fingerprint sha256) ∧
      s.trials = firsts id trials.trialIds ∧ ∀ q ∈ bindings, ∃ c,
        s.candidates[q.candidateIndex]? = some c ∧ c.trialFingerprint = q.trialFingerprint := by
  unfold initializeWalkForwardTrainingQueue at h
  obtain ⟨_, hvalid, h⟩ := bind_eq_ok.1 h
  obtain ⟨state, hstate, h⟩ := bind_eq_ok.1 h
  obtain ⟨rfl, rfl⟩ := Prod.mk.inj (Except.ok.inj h)
  have htrials : state.trials = firsts id trials.trialIds := by
    unfold newSearchExecutionState at hstate
    obtain ⟨_, -, hstate⟩ := bind_eq_ok.1 hstate
    obtain ⟨_, -, hstate⟩ := bind_eq_ok.1 hstate
    rw [SearchExecutionState.trials, (makeSearchExecutionState_eq_ok hstate).2.1,
      trials_pendingFrom]
  have hlength : plan.tasks.length = trials.trialIds.length := by
    obtain ⟨_, htasks, -⟩ := bind_eq_ok.1 hvalid
    have := congrArg List.length (ensure_eq_ok.1 htasks)
    rw [length_map, length_map] at this
    rw [trials.trials_bound, length_map, this]
  refine ⟨?_, htrials, fun q hq => ?_⟩
  · rw [map_map]
    have hmap : (plan.tasks.zip trials.trialIds).map Prod.fst = plan.tasks :=
      map_fst_zip hlength.le
    conv_rhs => rw [← hmap, map_map]
    rfl
  · obtain ⟨p, hp, rfl⟩ := mem_map.1 hq
    refine candidate_of_trial ?_
    rw [htrials]
    exact getElem?_queueIndex (of_mem_zip hp).2

/-! ## The training scores -/

section
variable {sha256 : String → Digest} {plan : WalkForwardTrainingPlan}
  {trials : MaterializedWalkForwardTrials} {bindings : List WalkForwardQueueTaskBinding}
  {s t : SearchExecutionState} {results : List (String × WalkForwardQueueResultEvidence)}
  {scores : List WalkForwardTrainingScore}

theorem trials_of_agrees
    (htasks : bindings.map (·.taskFingerprint) = trials.bindings.map (·.taskFingerprint))
    (hagrees : ∀ q ∈ bindings, Agrees trials.bindings (bindings.map (·.trialFingerprint)) q) :
    bindings.map (·.trialFingerprint) = trials.bindings.map (·.trialFingerprint) := by
  have hlength : bindings.length = trials.bindings.length := by
    have := congrArg List.length htasks
    rwa [length_map, length_map] at this
  refine ext_getElem (by rw [length_map, length_map, hlength]) ?_
  intro n h₁ h₂
  rw [length_map] at h₁ h₂
  rw [getElem_map, getElem_map]
  obtain ⟨b, hb, -, htrial, -⟩ := hagrees bindings[n] (getElem_mem h₁)
  obtain ⟨hmem, hkey⟩ := mem_of_rowWith hb
  have htask : bindings[n].taskFingerprint = trials.bindings[n].taskFingerprint := by
    have := congrArg (·[n]?) htasks
    simpa [h₁, h₂] using this
  obtain rfl := inj_on_of_nodup_map trials.tasks_nodup hmem (getElem_mem h₂)
    (hkey.trans htask)
  exact htrial

theorem trainingScores_congr (hexperiment : t.experimentFingerprint = s.experimentFingerprint)
    (hlength : (firsts id (trials.bindings.map (·.trialFingerprint))).length ≤ t.candidates.length)
    (htake : t.candidates.take (firsts id (trials.bindings.map (·.trialFingerprint))).length =
      s.candidates.take (firsts id (trials.bindings.map (·.trialFingerprint))).length)
    (h : trainingScoresFromSearchQueue sha256 plan trials bindings s results = .ok scores) :
    trainingScoresFromSearchQueue sha256 plan trials bindings t results = .ok scores := by
  unfold trainingScoresFromSearchQueue at h ⊢
  obtain ⟨_, hvalid, h⟩ := bind_eq_ok.1 h
  obtain ⟨_, hplan, h⟩ := bind_eq_ok.1 h
  obtain ⟨_, htasks, h⟩ := bind_eq_ok.1 h
  obtain ⟨_, hpurpose, h⟩ := bind_eq_ok.1 h
  obtain ⟨_, hagrees, h⟩ := bind_eq_ok.1 h
  obtain ⟨_, -, h⟩ := bind_eq_ok.1 h
  obtain ⟨_, horder, h⟩ := bind_eq_ok.1 h
  obtain ⟨_, hsucceeded, h⟩ := bind_eq_ok.1 h
  obtain ⟨_, hresults, h⟩ := bind_eq_ok.1 h
  rw [ensure_eq_ok] at hplan htasks hpurpose hagrees horder hsucceeded hresults
  obtain ⟨_, hvalidTasks, -⟩ := bind_eq_ok.1 hvalid
  have htrials : bindings.map (·.trialFingerprint) = trials.bindings.map (·.trialFingerprint) :=
    trials_of_agrees (htasks.trans (ensure_eq_ok.1 hvalidTasks).symm) hagrees
  rw [← htrials] at hlength htake
  -- a training binding reads a candidate that both queues have
  have hsame : (bindings.zip trials.bindings).map
      (scoreOfBinding sha256 plan t.candidates results) =
        (bindings.zip trials.bindings).map (scoreOfBinding sha256 plan s.candidates results) := by
    refine map_congr_left fun p hp => ?_
    have hq := (of_mem_zip hp).1
    obtain ⟨b, -, hindex, -⟩ := hagrees p.1 hq
    have hlt : p.1.candidateIndex < (firsts id (bindings.map (·.trialFingerprint))).length :=
      hindex ▸ queueIndex_lt (mem_map_of_mem hq)
    have hget := congrArg (·[p.1.candidateIndex]?) htake
    rw [getElem?_take_of_lt hlt, getElem?_take_of_lt hlt] at hget
    rw [scoreOfBinding, scoreOfBinding, hget]
  rw [hvalid, ok_bind, ensure_of (hexperiment.trans hplan), ok_bind, ensure_of htasks, ok_bind,
    ensure_of hpurpose, ok_bind, ensure_of hagrees, ok_bind]
  dsimp only at horder hsucceeded hresults h ⊢
  rw [← htake] at horder hsucceeded hresults
  rw [ensure_of hlength, ok_bind, ensure_of horder, ok_bind, ensure_of hsucceeded, ok_bind,
    ensure_of hresults, ok_bind, hsame]
  exact h

end

/-! ## The append -/

/-- What an append is called with, apart from the state and the time. -/
structure OosPhase where
  plan : WalkForwardTrainingPlan
  folds : List WalkForwardFold
  trainingTrials : MaterializedWalkForwardTrials
  trainingBindings : List WalkForwardQueueTaskBinding
  results : List (String × WalkForwardQueueResultEvidence)
  selection : WalkForwardSelection
  oosTrials : MaterializedWalkForwardTrials

namespace OosPhase

def append (sha256 : String → Digest) (p : OosPhase) (s : SearchExecutionState) (now : Instant) :
    Except PyError WalkForwardQueueTransition :=
  appendSelectedOosQueue sha256 s p.plan p.folds p.trainingTrials p.trainingBindings p.results
    p.selection p.oosTrials now

/-- `training_fingerprints`. -/
abbrev training (p : OosPhase) : List Digest := p.trainingTrials.distinct

/-- `oos_fingerprints`. -/
abbrev oos (p : OosPhase) : List Digest := p.oosTrials.fingerprints

def trainingPart (p : OosPhase) (s : SearchExecutionState) : List SearchCandidateState :=
  s.candidates.take p.training.length

/-- Two queues that an append does not tell apart: the same trials of one experiment, and the
same training candidates. -/
def Alike (p : OosPhase) (s t : SearchExecutionState) : Prop :=
  t.experimentFingerprint = s.experimentFingerprint ∧ t.trials = s.trials ∧
    p.trainingPart t = p.trainingPart s

/-- **The append does what it should**: the training candidates stay a prefix, every selected task
is bound to the candidate that holds its trial, and from then on the append is a replay. -/
structure Appends (sha256 : String → Digest) (p : OosPhase) (s : SearchExecutionState)
    (r : WalkForwardQueueTransition) : Prop where
  prefix_trials : p.training <+: r.resolution.state.trials
  prefix_candidates : p.trainingPart r.resolution.state = p.trainingPart s
  tasks : r.oosTaskBindings.map (·.taskFingerprint) =
    p.selection.oosTasks.map (·.fingerprint sha256)
  bound : ∀ q ∈ r.oosTaskBindings, ∃ c, r.resolution.state.candidates[q.candidateIndex]? = some c ∧
    c.trialFingerprint = q.trialFingerprint
  replays : ∀ t now, p.Alike r.resolution.state t → ∃ r', p.append sha256 t now = .ok r' ∧
    r'.resolution.decision = .replayExisting ∧ r'.resolution.state = t ∧
      r'.oosTaskBindings = r.oosTaskBindings

/-- The out-of-sample trials are the last training trials, and the queue holds no others. -/
def Tail (p : OosPhase) (s : SearchExecutionState) : Prop :=
  s.trials = p.training ∧ p.oos <:+ p.training

/-- What an append checks of its arguments, whatever the queue is. -/
structure Checked (sha256 : String → Digest) (p : OosPhase) : Prop where
  training : validateTrainingMaterialization sha256 p.plan p.trainingTrials = .ok ()
  selection : p.selection.trainingPlanFingerprint = p.plan.fingerprint sha256
  oos_nodup : p.oos.Nodup
  oos : validateOosMaterialization sha256 p.selection p.oosTrials = .ok ()
  bindings_nodup :
    ((oosBindings sha256 p.training.length p.selection p.oosTrials).map (·.taskFingerprint)).Nodup

def Selects (sha256 : String → Digest) (p : OosPhase) (s : SearchExecutionState) : Prop :=
  ∃ scores, trainingScoresFromSearchQueue sha256 p.plan p.trainingTrials p.trainingBindings s
      p.results = .ok scores ∧
    selectWalkForwardOosTasks sha256 p.plan p.folds scores = .ok p.selection

section
variable {sha256 : String → Digest} {p : OosPhase} {s t : SearchExecutionState} {now : Instant}
  {r : WalkForwardQueueTransition} {resolution : SearchStateResolution}

theorem makeQueueTransition_eq_ok {bindings : List WalkForwardQueueTaskBinding}
    (h : makeQueueTransition resolution bindings = .ok r) :
    r.resolution = resolution ∧ r.oosTaskBindings = bindings ∧
      (bindings.map (·.taskFingerprint)).Nodup := by
  unfold makeQueueTransition at h
  split_ifs at h with hrejected hnodup
  obtain rfl := Except.ok.inj h
  exact ⟨rfl, rfl, hnodup⟩

theorem append_cases (h : p.append sha256 s now = .ok r)
    (hd : r.resolution.decision ≠ .reject) :
    s.experimentFingerprint = p.plan.experimentFingerprint ∧ p.Checked sha256 ∧
      p.Selects sha256 s ∧
      r.oosTaskBindings = oosBindings sha256 p.training.length p.selection p.oosTrials ∧
      ((s.trials = p.training ++ p.oos ∧ r.resolution = s.replayed (some p.training.length)) ∨
        (s.trials = p.training ∧ (∀ c ∈ s.candidates, c.phase = .succeeded) ∧
          appendSearchCandidates s p.oos now = .ok r.resolution)) := by
  unfold append appendSelectedOosQueue at h
  obtain ⟨_, hexperiment, h⟩ := bind_eq_ok.1 h
  obtain ⟨_, htraining, h⟩ := bind_eq_ok.1 h
  obtain ⟨_, hplan, h⟩ := bind_eq_ok.1 h
  obtain ⟨_, hnodup, h⟩ := bind_eq_ok.1 h
  rw [ensure_eq_ok] at hexperiment hplan hnodup
  by_cases hphase : s.trials = p.training ∨ s.trials = p.training ++ p.oos
  swap
  · rw [if_pos hphase] at h
    obtain rfl := Except.ok.inj h
    exact absurd rfl hd
  rw [if_neg (not_not.2 hphase)] at h
  by_cases hopen : s.trials = p.training ∧ (¬ s.complete ∨ ∃ c ∈ s.candidates, c.phase ≠ .succeeded)
  · rw [if_pos hopen] at h
    obtain rfl := Except.ok.inj h
    exact absurd rfl hd
  rw [if_neg hopen] at h
  obtain ⟨scores, hscores, h⟩ := bind_eq_ok.1 h
  obtain ⟨expected, hexpected, h⟩ := bind_eq_ok.1 h
  obtain ⟨_, hsame, h⟩ := bind_eq_ok.1 h
  obtain ⟨_, hoos, h⟩ := bind_eq_ok.1 h
  obtain ⟨resolution, hresolution, h⟩ := bind_eq_ok.1 h
  rw [← ensure_eq_ok.1 hsame] at hexpected
  by_cases hreject : resolution.decision = .reject
  · rw [if_pos hreject] at h
    obtain rfl := Except.ok.inj h
    exact absurd hreject hd
  rw [if_neg hreject] at h
  obtain ⟨rfl, hbindings, hbnodup⟩ := makeQueueTransition_eq_ok h
  refine ⟨hexperiment, ⟨htraining, hplan, hnodup, hoos, hbnodup⟩, ⟨scores, hscores, hexpected⟩,
    hbindings, ?_⟩
  unfold oosResolution at hresolution
  by_cases hall : s.trials = p.training ++ p.oos
  · rw [if_pos hall] at hresolution
    exact .inl ⟨hall, (Except.ok.inj hresolution).symm⟩
  · rw [if_neg hall] at hresolution
    have htrials : s.trials = p.training := hphase.resolve_right hall
    refine .inr ⟨htrials, fun c hc => ?_, hresolution⟩
    by_contra hne
    exact hopen ⟨htrials, .inr ⟨c, hc, hne⟩⟩

theorem oos_eq : p.oos = p.oosTrials.trialIds := p.oosTrials.trials_bound.symm

theorem oos_ne_nil : p.oos ≠ [] := by
  rw [oos_eq]
  exact p.oosTrials.trials_nonempty

theorem append_of (hexperiment : s.experimentFingerprint = p.plan.experimentFingerprint)
    (hchecked : p.Checked sha256) (hselects : p.Selects sha256 s)
    (hphase : s.trials = p.training ∧ (∀ c ∈ s.candidates, c.phase = .succeeded) ∨
      s.trials = p.training ++ p.oos)
    (hresolution : oosResolution s p.training p.oos now = .ok resolution)
    (hd : resolution.decision ≠ .reject) :
    ∃ r, p.append sha256 s now = .ok r ∧ r.resolution = resolution ∧
      r.oosTaskBindings = oosBindings sha256 p.training.length p.selection p.oosTrials := by
  obtain ⟨scores, hscores, hexpected⟩ := hselects
  have hopen : ¬ (s.trials = p.training ∧
      (¬ s.complete ∨ ∃ c ∈ s.candidates, c.phase ≠ .succeeded)) := by
    rintro ⟨htrials, hopen⟩
    rcases hphase with ⟨-, hsucceeded⟩ | hall
    · rcases hopen with hopen | ⟨c, hc, hne⟩
      · refine hopen fun c hc => ?_
        rw [hsucceeded c hc]
        rfl
      · exact hne (hsucceeded c hc)
    · rw [hall] at htrials
      exact oos_ne_nil (append_right_eq_self.1 htrials)
  have htransition : makeQueueTransition resolution
      (oosBindings sha256 p.training.length p.selection p.oosTrials) =
        .ok ⟨resolution, oosBindings sha256 p.training.length p.selection p.oosTrials,
          fun h => absurd h hd, hchecked.bindings_nodup⟩ := by
    rw [makeQueueTransition, dif_pos fun h => absurd h hd, dif_pos hchecked.bindings_nodup]
  refine ⟨⟨resolution, oosBindings sha256 p.training.length p.selection p.oosTrials,
    fun h => absurd h hd, hchecked.bindings_nodup⟩, ?_, rfl, rfl⟩
  unfold append appendSelectedOosQueue
  rw [ensure_of hexperiment, ok_bind, hchecked.training, ok_bind, ensure_of hchecked.selection,
    ok_bind, ensure_of hchecked.oos_nodup, ok_bind, if_neg (not_not.2 (hphase.imp And.left id)),
    if_neg hopen, hscores, ok_bind, hexpected, ok_bind, ensure_of rfl, ok_bind, hchecked.oos,
    ok_bind, hresolution, ok_bind, if_neg hd, htransition]

theorem append_replayed (hexperiment : s.experimentFingerprint = p.plan.experimentFingerprint)
    (hchecked : p.Checked sha256) (hselects : p.Selects sha256 s)
    (hall : s.trials = p.training ++ p.oos) :
    ∃ r, p.append sha256 s now = .ok r ∧ r.resolution.decision = .replayExisting ∧
      r.resolution.state = s ∧
      r.oosTaskBindings = oosBindings sha256 p.training.length p.selection p.oosTrials := by
  have hresolution : oosResolution s p.training p.oos now =
      .ok (s.replayed (some p.training.length)) := if_pos hall
  obtain ⟨r, hr, hres, hbindings⟩ := append_of hexperiment hchecked hselects (.inr hall)
    hresolution nofun
  exact ⟨r, hr, by rw [hres]; rfl, by rw [hres]; rfl, hbindings⟩

theorem tasks_oosBindings (hchecked : p.Checked sha256) (start : ℕ) :
    (oosBindings sha256 start p.selection p.oosTrials).map (·.taskFingerprint) =
      p.selection.oosTasks.map (·.fingerprint sha256) ∧
      (oosBindings sha256 start p.selection p.oosTrials).length = p.oos.length := by
  obtain ⟨_, htasks, -⟩ := bind_eq_ok.1 hchecked.oos
  have hlength : p.selection.oosTasks.length = p.oosTrials.trialIds.length := by
    have := congrArg List.length (ensure_eq_ok.1 htasks)
    rw [length_map, length_map] at this
    rw [p.oosTrials.trials_bound, length_map, this]
  have hzip : (p.selection.oosTasks.zip p.oosTrials.trialIds).map Prod.fst = p.selection.oosTasks :=
    map_fst_zip hlength.le
  refine ⟨?_, ?_⟩
  · conv_rhs => rw [← hzip, map_map]
    unfold oosBindings
    refine ext_getElem (by simp) fun n h₁ h₂ => ?_
    simp
  · rw [oosBindings, length_mapIdx, length_zip, hlength, min_self, oos_eq]

theorem bound_oosBindings (hall : s.trials = p.training ++ p.oos) {q : WalkForwardQueueTaskBinding}
    (hq : q ∈ oosBindings sha256 p.training.length p.selection p.oosTrials) :
    ∃ c, s.candidates[q.candidateIndex]? = some c ∧ c.trialFingerprint = q.trialFingerprint := by
  obtain ⟨i, hi, rfl⟩ := mem_mapIdx.1 hq
  refine candidate_of_trial ?_
  rw [hall]
  dsimp only
  rw [getElem?_append_right (Nat.le_add_right _ _), Nat.add_sub_cancel_left, oos_eq,
    getElem_zip]
  exact getElem?_eq_getElem _

theorem trials_of_apply {res : SearchStateResolution} {trials : List Digest}
    (h : appendSearchCandidates s trials now = .ok res) (hd : res.decision = .apply) :
    res.state.trials = s.trials ++ trials ∧ s.candidates <+: res.state.candidates := by
  rcases (appendSearchCandidates_cases h).2 with ⟨-, rfl⟩ | ⟨-, hreject, -⟩ | ⟨-, -, hmove⟩
  · cases hd
  · rw [hd] at hreject
    cases hreject
  · cases hmove with
    | append hcall _ _ _ _ hcandidates _ _ =>
      cases hcall
      refine ⟨?_, hcandidates ▸ prefix_append _ _⟩
      rw [SearchExecutionState.trials, hcandidates, map_append, trials_pendingFrom]
      rfl

/-- **An accepted append does what it should** exactly when the out-of-sample trials are not the
last training trials. -/
theorem append_iff (h : p.append sha256 s now = .ok r) (hd : r.resolution.decision ≠ .reject) :
    p.Appends sha256 s r ↔ ¬ p.Tail s := by
  obtain ⟨hexperiment, hchecked, hselects, hbindings, hcases⟩ := append_cases h hd
  constructor
  · rintro happends ⟨htrials, htail⟩
    have hstate : r.resolution.state = s := by
      rcases hcases with ⟨hall, -⟩ | ⟨-, -, happend⟩
      · exact absurd (append_right_eq_self.1 (hall.symm.trans htrials)) oos_ne_nil
      · rcases (appendSearchCandidates_cases happend).2 with ⟨-, hres⟩ | ⟨hs, -⟩ | ⟨hs, -⟩
        · rw [hres]
          rfl
        · exact absurd (htrials ▸ htail) hs
        · exact absurd (htrials ▸ htail) hs
    -- the first task is bound to a place after the last candidate
    have hpos : 0 < r.oosTaskBindings.length := by
      rw [hbindings, (tasks_oosBindings hchecked _).2]
      exact length_pos_iff.2 oos_ne_nil
    obtain ⟨c, hc, -⟩ := happends.bound _ (getElem_mem hpos)
    have hindex : r.oosTaskBindings[0].candidateIndex = p.training.length := by
      simp only [hbindings, oosBindings, getElem_mapIdx, Nat.add_zero]
    have hlt := (List.getElem?_eq_some_iff.1 hc).1
    rw [hindex, hstate, ← length_trials, htrials] at hlt
    exact lt_irrefl _ hlt
  · intro htail
    have hafter : r.resolution.state.experimentFingerprint = p.plan.experimentFingerprint ∧
        r.resolution.state.trials = p.training ++ p.oos ∧
        p.trainingPart r.resolution.state = p.trainingPart s := by
      rcases hcases with ⟨hall, hres⟩ | ⟨htrials, -, happend⟩
      · rw [hres]
        exact ⟨hexperiment, hall, rfl⟩
      · have happly : r.resolution.decision = .apply := by
          rcases (appendSearchCandidates_cases happend).2 with ⟨hs, -⟩ | ⟨-, hreject, -⟩ | ⟨-, hd, -⟩
          · exact absurd ⟨htrials, htrials ▸ hs⟩ htail
          · exact absurd hreject hd
          · exact hd
        obtain ⟨hall, hprefix⟩ := trials_of_apply happend happly
        refine ⟨(appendSearchCandidates_experiment happend).trans hexperiment, htrials ▸ hall, ?_⟩
        have hlength : p.training.length = s.candidates.length := by rw [← htrials, length_trials]
        obtain ⟨rest, hrest⟩ := hprefix
        rw [trainingPart, trainingPart, ← hrest, hlength, take_left, take_length]
    obtain ⟨hexperiment', hall, hpart⟩ := hafter
    have hreplays : ∀ t now, p.Alike r.resolution.state t → ∃ r', p.append sha256 t now = .ok r' ∧
        r'.resolution.decision = .replayExisting ∧ r'.resolution.state = t ∧
          r'.oosTaskBindings = r.oosTaskBindings := by
      rintro t now' ⟨htexperiment, httrials, htpart⟩
      rw [hbindings]
      refine append_replayed (htexperiment.trans hexperiment') hchecked ?_ (httrials.trans hall)
      obtain ⟨scores, hscores, hselection⟩ := hselects
      refine ⟨scores, trainingScores_congr ?_ ?_ (htpart.trans hpart) hscores, hselection⟩
      · exact (htexperiment.trans hexperiment').trans hexperiment.symm
      · change p.training.length ≤ _
        rw [← length_trials, httrials, hall, length_append]
        exact Nat.le_add_right _ _
    exact
      { prefix_trials := hall ▸ prefix_append _ _
        prefix_candidates := hpart
        tasks := hbindings ▸ (tasks_oosBindings hchecked _).1
        bound := fun q hq => bound_oosBindings hall (hbindings ▸ hq)
        replays := hreplays }

end

end OosPhase

/-- **Walk-forward selection**: the selection of a plan, in any order of its scores, and the
append of the selected tasks to the queue of the plan. -/
theorem walk_forward_selection (sha256 : String → Digest) (hsha : Function.Injective sha256) :
    (∀ experiment candidates folds metricId direction maxTasks plan,
      buildWalkForwardTrainingPlan sha256 experiment candidates folds metricId direction maxTasks =
          .ok plan →
        ∀ scores, ScoresOf sha256 plan scores →
          ((∃ selection, selectWalkForwardOosTasks sha256 plan folds scores = .ok selection ∧
            SelectsBest sha256 plan folds scores selection) ↔
              DistinguishesBest sha256 plan scores)) ∧
      (∀ plan folds scores scores', scores ~ scores' →
        selectWalkForwardOosTasks sha256 plan folds scores =
          selectWalkForwardOosTasks sha256 plan folds scores') ∧
      (∀ plan trials now s bindings,
        initializeWalkForwardTrainingQueue sha256 plan trials now = .ok (s, bindings) →
          bindings.map (·.taskFingerprint) = plan.tasks.map (·.fingerprint sha256) ∧
            s.trials = firsts id trials.trialIds ∧ ∀ q ∈ bindings, ∃ c,
              s.candidates[q.candidateIndex]? = some c ∧
                c.trialFingerprint = q.trialFingerprint) ∧
      ∀ (p : OosPhase) s now r, p.append sha256 s now = .ok r →
        r.resolution.decision ≠ .reject → (p.Appends sha256 s r ↔ ¬ p.Tail s) :=
  ⟨fun _ _ _ _ _ _ _ hplan _ hscores => selectsBest_iff hsha hplan hscores,
    fun _ _ _ _ => selectWalkForwardOosTasks_perm, fun _ _ _ _ _ => initialize_bound,
    fun _ _ _ _ => OosPhase.append_iff⟩

/-! ## Two candidates -/

/-- One fold: an observation to train on and one to test on. -/
def pairFold : WalkForwardFold where
  foldIndex := 0
  trainIndices := [0]
  testIndices := [1]
  excludedIndices := []
  train_nonempty := by decide
  train_increasing := by decide
  test_nonempty := by decide
  test_increasing := by decide
  excluded_increasing := by decide
  precedes := by decide
  disjoint := by decide
  covered := by decide

theorem pairPlan_pairs (f c : ℕ) : (f, c) ∈ [(0, 0), (0, 1)] ↔ f < 1 ∧ c < 2 := by
  rw [mem_pair, Prod.mk.injEq, Prod.mk.injEq]
  omega

def pairPlan : WalkForwardTrainingPlan where
  experimentFingerprint := ⟨"experiment"⟩
  metricId := "sharpe"
  direction := .maximize
  candidateFingerprints := [⟨"first"⟩, ⟨"second"⟩]
  foldFingerprints := [pairFold.fingerprint Digest.mk]
  tasks := [pairFold.trainingTask 0 ⟨"first"⟩, pairFold.trainingTask 1 ⟨"second"⟩]
  metricId_notBlank := by decide
  candidates_nodup := by decide
  folds_nodup := nodup_singleton _
  pairs_nodup := by decide
  mem_pairs := pairPlan_pairs
  candidates_named := by decide

theorem pairPlan_built : buildWalkForwardTrainingPlan Digest.mk ⟨"experiment"⟩
    [⟨"first"⟩, ⟨"second"⟩] [pairFold] "sharpe" .maximize 10 = .ok pairPlan := rfl

/-- The score of the candidate `c`, which is read from the result `result`. -/
def pairScore (c : ℕ) (candidate result : Digest) (value : PyDecimal)
    (h : value.isFinite = true) : WalkForwardTrainingScore where
  trainingTaskFingerprint := (pairFold.trainingTask c candidate).fingerprint Digest.mk
  metricId := "sharpe"
  value := value
  resultFingerprint := result
  metricId_notBlank := by decide
  value_finite := h

def pairScores (v w : PyDecimal) (hv : v.isFinite = true) (hw : w.isFinite = true) :
    List WalkForwardTrainingScore :=
  [pairScore 0 ⟨"first"⟩ ⟨"result-0"⟩ v hv, pairScore 1 ⟨"second"⟩ ⟨"result-1"⟩ w hw]

section
variable {v w x : PyDecimal} {hv : v.isFinite = true} {hw : w.isFinite = true} {f c : ℕ}

theorem scoresOf_pair : ScoresOf Digest.mk pairPlan (pairScores v w hv hw) where
  unique :=
    (nodup_fingerprints digestMk_injective : (pairPlan.tasks.map (·.fingerprint Digest.mk)).Nodup)
  covers := ⟨by simp [pairScores, pairPlan, pairScore], by simp [pairScores, pairPlan, pairScore]⟩
  metric := by simp [pairScores, pairPlan, pairScore]

theorem scoredAt_pair : ScoredAt Digest.mk pairPlan (pairScores v w hv hw) f c x ↔
    f = 0 ∧ (c = 0 ∧ x = v ∨ c = 1 ∧ x = w) := by
  constructor
  · rintro ⟨t, ht, s, hs, hpair, hfingerprint, rfl⟩
    rcases mem_cons.1 ht with rfl | ht
    · obtain ⟨rfl, rfl⟩ := Prod.mk.inj hpair
      rcases mem_cons.1 hs with rfl | hs
      · exact ⟨rfl, .inl ⟨rfl, rfl⟩⟩
      · rw [mem_singleton.1 hs] at hfingerprint
        exact absurd (pair_of_fingerprint (t := pairFold.trainingTask 1 ⟨"second"⟩)
          (u := pairFold.trainingTask 0 ⟨"first"⟩) digestMk_injective hfingerprint) (by decide)
    · rw [mem_singleton.1 ht] at hpair hfingerprint
      obtain ⟨rfl, rfl⟩ := Prod.mk.inj hpair
      rcases mem_cons.1 hs with rfl | hs
      · exact absurd (pair_of_fingerprint (t := pairFold.trainingTask 0 ⟨"first"⟩)
          (u := pairFold.trainingTask 1 ⟨"second"⟩) digestMk_injective hfingerprint) (by decide)
      · rw [mem_singleton.1 hs]
        exact ⟨rfl, .inr ⟨rfl, rfl⟩⟩
  · rintro ⟨rfl, ⟨rfl, rfl⟩ | ⟨rfl, rfl⟩⟩
    · exact ⟨_, mem_cons_self, _, mem_cons_self, rfl, rfl, rfl⟩
    · exact ⟨_, mem_cons_of_mem _ mem_cons_self, _,
        mem_cons_of_mem _ mem_cons_self, rfl, rfl, rfl⟩

end

def closeScores : List WalkForwardTrainingScore :=
  pairScores (.finite false 1 0) (.finite false 100000000000000000000000000001 (-29)) (Eq.refl true) (Eq.refl true)

theorem close_scores_unselected : ¬ ∀ sha256, Function.Injective sha256 →
    ∀ experiment candidates folds metricId direction maxTasks plan,
      buildWalkForwardTrainingPlan sha256 experiment candidates folds metricId direction maxTasks =
          .ok plan →
        ∀ scores, ScoresOf sha256 plan scores →
          ∃ selection, selectWalkForwardOosTasks sha256 plan folds scores = .ok selection ∧
            SelectsBest sha256 plan folds scores selection := by
  intro h
  have hselects := h Digest.mk digestMk_injective _ _ _ _ _ _ _ pairPlan_built closeScores
    scoresOf_pair
  rcases (selectsBest_iff digestMk_injective pairPlan_built scoresOf_pair).1 hselects with
    hmin | ⟨-, hrounded⟩
  · cases hmin
  · refine hrounded 0 1 _ 0 _ ⟨_, scoredAt_pair.2 ⟨rfl, .inr ⟨rfl, rfl⟩⟩, ?_⟩
      (scoredAt_pair.2 ⟨rfl, .inr ⟨rfl, rfl⟩⟩) (scoredAt_pair.2 ⟨rfl, .inl ⟨rfl, rfl⟩⟩)
      Nat.zero_lt_one (by decide +kernel)
    intro i x hx
    rcases (scoredAt_pair.1 hx).2 with ⟨rfl, rfl⟩ | ⟨rfl, rfl⟩
    · exact .inl (by decide +kernel)
    · exact .inr ⟨rfl, le_rfl⟩

def apartScores : List WalkForwardTrainingScore :=
  pairScores (.finite false 2 0) (.finite false 1 0) (Eq.refl true) (Eq.refl true)

def pairWindow : EvaluationWindow where
  start := 0
  stop := 1
  purpose := "training"
  warmupStart := none
  start_lt := by decide
  warmup_le := by simp
  purpose_nonempty := by decide

def pairTrials : MaterializedWalkForwardTrials where
  trialIds := [⟨"trial-0"⟩, ⟨"trial-1"⟩]
  bindings :=
    [⟨(pairFold.trainingTask 0 ⟨"first"⟩).fingerprint Digest.mk, ⟨"trial-0"⟩, 0, 0, .training,
        digest Digest.mk pairWindow.toPy⟩,
      ⟨(pairFold.trainingTask 1 ⟨"second"⟩).fingerprint Digest.mk, ⟨"trial-1"⟩, 0, 1, .training,
        digest Digest.mk pairWindow.toPy⟩]
  trials_nonempty := by simp
  trials_bound := rfl
  tasks_nodup :=
    (nodup_fingerprints digestMk_injective : (pairPlan.tasks.map (·.fingerprint Digest.mk)).Nodup)
  one_purpose := by simp

def pairBindings : List WalkForwardQueueTaskBinding :=
  [⟨0, (pairFold.trainingTask 0 ⟨"first"⟩).fingerprint Digest.mk, ⟨"trial-0"⟩, 0, 0, .training⟩,
    ⟨1, (pairFold.trainingTask 1 ⟨"second"⟩).fingerprint Digest.mk, ⟨"trial-1"⟩, 0, 1, .training⟩]

theorem pairResult_snapshot : Digest.mk "snapshot" = ⟨"snapshot"⟩ := rfl

def pairResult (attempt : String) (trial result : Digest) (value : ℕ) :
    String × WalkForwardQueueResultEvidence :=
  (attempt,
    { searchResultFingerprint := result
      manifest :=
        { trial :=
            { trialId := trial
              experimentFingerprint := ⟨"experiment"⟩
              snapshotFingerprint := ⟨"snapshot"⟩
              preflightReport := rigorousPreflight
              executable := Eq.refl true }
          attemptId := attempt
          fingerprint := result
          snapshotFingerprint := ⟨"snapshot"⟩
          portfolioFingerprint := ⟨"portfolio"⟩
          engineBuildDigest := ⟨"build"⟩
          allocationDefinitionVersion := "v1"
          metricSet :=
            { definitionVersion := "v1"
              values :=
                [{ name := "sharpe"
                   value := some (.finite false value 0)
                   unit := "ratio"
                   definitionVersion := "v1"
                   basis := .net
                   sampleSize := 1
                   nullReason := none
                   calculationDefinition := none
                   value_valid := ⟨rfl, rfl⟩ }]
              keys_nodup := by simp }
          engineAuthoritative := true
          snapshot_trial := pairResult_snapshot
          evaluationWindow := some pairWindow
          engineName := "nautilus" } })

def pairResults : List (String × WalkForwardQueueResultEvidence) :=
  [pairResult "attempt-0" ⟨"trial-0"⟩ ⟨"result-0"⟩ 2,
    pairResult "attempt-1" ⟨"trial-1"⟩ ⟨"result-1"⟩ 1]

def succeededCandidate (index : ℕ) (trial : Digest) (attempt : String) (result : Digest)
    (h : notBlank attempt = true) : SearchCandidateState where
  candidateIndex := index
  trialFingerprint := trial
  phase := .succeeded
  attemptId := some attempt
  attemptCount := 1
  resultFingerprint := some result
  updatedAt := none
  attemptId_notBlank := by simpa using h
  fits := ⟨by simp, le_rfl, by simp⟩

def pairQueue : SearchExecutionState where
  experimentFingerprint := ⟨"experiment"⟩
  candidates :=
    [succeededCandidate 0 ⟨"trial-0"⟩ "attempt-0" ⟨"result-0"⟩ (Eq.refl true),
      succeededCandidate 1 ⟨"trial-1"⟩ "attempt-1" ⟨"result-1"⟩ (Eq.refl true)]
  cancellationRequested := false
  cancellationRequestId := none
  updatedAt := none
  candidates_ne_nil := by simp
  contiguous := by decide
  unique_trials := by decide
  request_iff := sampleQueue.request_iff

theorem pairTrials_valid :
    validateTrainingMaterialization Digest.mk pairPlan pairTrials = .ok () := by
  unfold validateTrainingMaterialization
  rw [ensure_of (by rfl), ok_bind, ensure_of (by simp [pairTrials])]

theorem score_of_pairResult {attempt : String} {trial result : Digest} {value c : ℕ}
    {candidate : Digest} : trainingScoreFromResultManifest Digest.mk
      ⟨(pairFold.trainingTask c candidate).fingerprint Digest.mk, trial, 0, c, .training,
        digest Digest.mk pairWindow.toPy⟩ (pairResult attempt trial result value).2.manifest
        "sharpe" = .ok (pairScore c candidate result (.finite false value 0) rfl) := by
  unfold trainingScoreFromResultManifest
  rw [ensure_of (by rfl), ok_bind]
  change (ensure _ _ >>= fun _ => _) = _
  have hname : "nautilus".toList.map Char.toLower = "nautilus".toList := by decide
  rw [ensure_of (by exact ⟨rfl, rfl, rfl⟩), ok_bind, ensure_of (by exact ⟨rfl, hname⟩), ok_bind]
  rfl

theorem pairScores_read : trainingScoresFromSearchQueue Digest.mk pairPlan pairTrials pairBindings
    pairQueue pairResults = .ok apartScores := by
  have hagrees : ∀ q ∈ pairBindings,
      Agrees pairTrials.bindings (pairBindings.map (·.trialFingerprint)) q := by
    intro q hq
    have hn := pairTrials.tasks_nodup
    rcases mem_cons.1 hq with rfl | hq
    · exact ⟨_, (rowWith_eq_some hn).2 ⟨mem_cons_self, rfl⟩, by decide, rfl, rfl, rfl⟩
    · rw [mem_singleton.1 hq]
      exact ⟨_, (rowWith_eq_some hn).2 ⟨mem_cons_of_mem _ mem_cons_self, rfl⟩,
        by decide, rfl, rfl, rfl⟩
  unfold trainingScoresFromSearchQueue
  rw [pairTrials_valid, ok_bind, ensure_of (by rfl), ok_bind, ensure_of (by rfl), ok_bind,
    ensure_of (by simp [pairBindings]), ok_bind, ensure_of hagrees, ok_bind]
  dsimp only
  rw [ensure_of (by decide), ok_bind, ensure_of (by decide), ok_bind, ensure_of (by decide),
    ok_bind, ensure_of (by decide), ok_bind]
  refine collect_eq_ok.2 ?_
  change [scoreOfBinding _ _ _ _ _, scoreOfBinding _ _ _ _ _] = [_, _]
  have hscore : ∀ n trial attempt result candidate value (h : notBlank attempt = true),
      pairQueue.candidates[n]? = some (succeededCandidate n trial attempt result h) →
        rowWith (·.1) attempt pairResults = some (pairResult attempt trial result value) →
          scoreOfBinding Digest.mk pairPlan pairQueue.candidates pairResults
            (⟨n, (pairFold.trainingTask n candidate).fingerprint Digest.mk, trial, 0, n, .training⟩,
              ⟨(pairFold.trainingTask n candidate).fingerprint Digest.mk, trial, 0, n, .training,
                digest Digest.mk pairWindow.toPy⟩) =
            .ok (pairScore n candidate result (.finite false value 0) rfl) := by
    intro n trial attempt result candidate value h hcandidate hresult
    unfold scoreOfBinding
    rw [hcandidate]
    change (match rowWith (·.1) attempt pairResults with
      | none => _
      | some (id, evidence) => _) = _
    rw [hresult]
    change (ensure _ _ >>= fun _ => _) = _
    rw [ensure_of (by exact ⟨rfl, rfl, rfl, rfl⟩), ok_bind]
    exact score_of_pairResult
  exact congrArg₂ (fun a b => [a, b])
    (hscore 0 ⟨"trial-0"⟩ "attempt-0" ⟨"result-0"⟩ ⟨"first"⟩ 2 (by decide) rfl rfl)
    (hscore 1 ⟨"trial-1"⟩ "attempt-1" ⟨"result-1"⟩ ⟨"second"⟩ 1 (by decide) rfl rfl)

theorem apartScores_distinguished : DistinguishesBest Digest.mk pairPlan apartScores := by
  refine .inr ⟨?_, ?_⟩
  · intro s hs
    rcases mem_cons.1 hs with rfl | hs
    · decide +kernel
    · rw [mem_singleton.1 hs]
      decide +kernel
  · rintro f k v i w ⟨v', hv', hbest⟩ - hw hik
    -- the first candidate is the best one, and no index is lower
    rcases (scoredAt_pair.1 hv').2 with ⟨rfl, rfl⟩ | ⟨rfl, rfl⟩
    · exact absurd hik (Nat.not_lt_zero _)
    · have hf := (scoredAt_pair.1 hv').1
      have hprefers := hbest 0 _ (scoredAt_pair.2 ⟨hf, .inl ⟨rfl, rfl⟩⟩)
      rcases hprefers with hlt | ⟨-, hle⟩
      · exact absurd hlt (by decide +kernel)
      · exact absurd hle (by decide)

def pairPhase (selection : WalkForwardSelection) (oosTrials : MaterializedWalkForwardTrials) :
    OosPhase :=
  ⟨pairPlan, [pairFold], pairTrials, pairBindings, pairResults, selection, oosTrials⟩

def selectedTrial (task : Digest) : MaterializedWalkForwardTrials where
  trialIds := [⟨"trial-2"⟩]
  bindings := [⟨task, ⟨"trial-2"⟩, 0, 0, .outOfSample, ⟨"window"⟩⟩]
  trials_nonempty := by simp
  trials_bound := rfl
  tasks_nodup := nodup_singleton _
  one_purpose := by simp

theorem walk_forward_selection_pair : ∃ selection oosTrials r,
    selectWalkForwardOosTasks Digest.mk pairPlan [pairFold] apartScores = .ok selection ∧
      SelectsBest Digest.mk pairPlan [pairFold] apartScores selection ∧
      selectWalkForwardOosTasks Digest.mk pairPlan [pairFold] apartScores.reverse =
        .ok selection ∧
      (pairPhase selection oosTrials).append Digest.mk pairQueue 0 = .ok r ∧
      r.resolution.decision = .apply ∧
      (pairPhase selection oosTrials).Appends Digest.mk pairQueue r := by
  obtain ⟨hbest, hperm, -, happend⟩ := walk_forward_selection Digest.mk digestMk_injective
  obtain ⟨selection, hselection, hselects⟩ := (hbest _ _ _ _ _ _ _ pairPlan_built apartScores
    scoresOf_pair).2 apartScores_distinguished
  have hone : ∃ t, selection.oosTasks = [t] := by
    have hlength := congrArg List.length hselects.1
    rw [length_map, length_map] at hlength
    exact length_eq_one_iff.1 hlength
  obtain ⟨t, ht⟩ := hone
  let p := pairPhase selection (selectedTrial (t.fingerprint Digest.mk))
  have hchecked : p.Checked Digest.mk :=
    { training := pairTrials_valid
      selection := by
        obtain ⟨-, -, -, _, -, hmake⟩ := selectWalkForwardOosTasks_eq_ok.1 hselection
        exact (makeWalkForwardSelection_eq_ok hmake).1
      oos_nodup := nodup_singleton _
      oos := by
        unfold validateOosMaterialization
        rw [ensure_of (by
          change [_] = selection.oosTasks.map _
          rw [ht]
          rfl), ok_bind, ensure_of (by simp [p, pairPhase, selectedTrial])]
      bindings_nodup := by
        change ((oosBindings Digest.mk _ selection (selectedTrial _)).map _).Nodup
        unfold oosBindings
        rw [ht]
        exact nodup_singleton _ }
  have hresolution : ∃ res, oosResolution pairQueue p.training p.oos 0 = .ok res ∧
      res.decision = .apply := ⟨_, rfl, rfl⟩
  obtain ⟨res, hres, happly⟩ := hresolution
  obtain ⟨r, hr, hrres, -⟩ := OosPhase.append_of (p := p) rfl hchecked
    ⟨apartScores, pairScores_read, hselection⟩ (.inl ⟨rfl, by decide⟩) hres (by rw [happly]; decide)
  have hdecision : r.resolution.decision = .apply := by rw [hrres, happly]
  refine ⟨selection, _, r, hselection, hselects, ?_, hr, hdecision, ?_⟩
  · rw [← hselection]
    exact hperm _ _ _ _ (reverse_perm _)
  · refine (happend p _ _ _ hr (by rw [hdecision]; decide)).2 ?_
    rintro ⟨-, htail⟩
    have hmem : (⟨"trial-2"⟩ : Digest) ∈ pairTrials.distinct := htail.subset mem_cons_self
    exact absurd hmem (by decide)

end ChartingPlatform
