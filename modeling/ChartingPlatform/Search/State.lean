/-
  The search queue (`search_state.py`): candidates with their attempts, the
  queue checkpoint, and the operations that start, close, cancel and extend it.
-/
import ChartingPlatform.Forward.Lifecycle

namespace ChartingPlatform

open Lib

/-! ## Candidates -/

/-- `SearchCandidatePhase`. -/
inductive SearchCandidatePhase where
  | pending | running | succeeded | failed | cancelled
  deriving DecidableEq, Repr

namespace SearchCandidatePhase

def text : SearchCandidatePhase → String
  | pending => "pending"
  | running => "running"
  | succeeded => "succeeded"
  | failed => "failed"
  | cancelled => "cancelled"

/-- `_TERMINAL_PHASES`. -/
def isTerminal : SearchCandidatePhase → Bool
  | succeeded | failed | cancelled => true
  | pending | running => false

def Fits (phase : SearchCandidatePhase) (attempt : Option String) (count : ℕ)
    (result : Option Digest) : Prop :=
  match phase with
  | pending => attempt = none ∧ count = 0 ∧ result = none
  | succeeded => attempt ≠ none ∧ 1 ≤ count ∧ result ≠ none
  | running | failed | cancelled => attempt ≠ none ∧ 1 ≤ count ∧ result = none

instance {phase : SearchCandidatePhase} {attempt : Option String} {count : ℕ}
    {result : Option Digest} : Decidable (phase.Fits attempt count result) :=
  match phase with
  | pending => inferInstanceAs (Decidable (_ ∧ _ ∧ _))
  | succeeded => inferInstanceAs (Decidable (_ ∧ _ ∧ _))
  | running | failed | cancelled => inferInstanceAs (Decidable (_ ∧ _ ∧ _))

def misfit : SearchCandidatePhase → String
  | pending => "pending candidates cannot contain attempts or results"
  | running => "running candidates require one active attempt and no result"
  | succeeded => "successful candidates require an attempt and result"
  | failed | cancelled => "failed or cancelled candidates require an attempt and no result"

end SearchCandidatePhase

/-- `SearchCandidateState`. -/
@[ext]
structure SearchCandidateState where
  candidateIndex : ℕ
  trialFingerprint : Digest
  phase : SearchCandidatePhase
  attemptId : Option String
  attemptCount : ℕ
  resultFingerprint : Option Digest
  updatedAt : Option Instant
  attemptId_notBlank : ∀ id ∈ attemptId, notBlank id = true
  fits : phase.Fits attemptId attemptCount resultFingerprint

instance : DecidableEq SearchCandidateState := fun _ _ =>
  decidable_of_iff' _ SearchCandidateState.ext_iff

/-- `SearchCandidateState.__post_init__`. -/
def makeSearchCandidateState (index : ℕ) (trial : Digest) (phase : SearchCandidatePhase)
    (attempt : Option String) (count : ℕ) (result : Option Digest) (updatedAt : Option Instant) :
    Except PyError SearchCandidateState :=
  if hid : ∀ id ∈ attempt, notBlank id = true then
    if hfits : phase.Fits attempt count result then
      .ok
        { candidateIndex := index
          trialFingerprint := trial
          phase := phase
          attemptId := attempt
          attemptCount := count
          resultFingerprint := result
          updatedAt := updatedAt
          attemptId_notBlank := hid
          fits := hfits }
    else .error (valueError phase.misfit)
  else .error (valueError "attempt_id must not be empty")

def SearchCandidateState.pending (index : ℕ) (trial : Digest) (now : Option Instant) :
    SearchCandidateState where
  candidateIndex := index
  trialFingerprint := trial
  phase := .pending
  attemptId := none
  attemptCount := 0
  resultFingerprint := none
  updatedAt := now
  attemptId_notBlank := none_notBlank
  fits := ⟨rfl, rfl, rfl⟩

def optionDigest (d : Option Digest) : PyValue := optionText (d.map Digest.text)

/-- `datetime | None`. -/
def optionInstant : Option Instant → PyValue
  | some t => .datetime (.utc t)
  | none => .none

theorem accepted_optionInstant (t : Option Instant) : Accepted (optionInstant t) := by
  cases t
  · exact accepted_none
  · exact accepted_utc _

def SearchCandidateState.toPy (c : SearchCandidateState) : PyValue :=
  .dataclass "app.strategy_lab_v2.search_state.SearchCandidateState"
    [({ name := "candidate_index" }, .int c.candidateIndex),
      ({ name := "trial_fingerprint" }, .str c.trialFingerprint.text),
      ({ name := "phase" },
        .enum "app.strategy_lab_v2.search_state.SearchCandidatePhase" (.str c.phase.text)),
      ({ name := "attempt_id" }, optionText c.attemptId),
      ({ name := "attempt_count" }, .int c.attemptCount),
      ({ name := "result_fingerprint" }, optionDigest c.resultFingerprint),
      ({ name := "updated_at" }, optionInstant c.updatedAt)]

variable {phase : SearchCandidatePhase} {attempt : Option String} {result : Option Digest}
  {updatedAt : Option Instant} {candidates : List SearchCandidateState} {requestId : Option Digest}

theorem makeSearchCandidateState_eq_ok {index : ℕ} {trial : Digest} {count : ℕ}
    {c : SearchCandidateState}
    (h : makeSearchCandidateState index trial phase attempt count result updatedAt = .ok c) :
    c.candidateIndex = index ∧ c.trialFingerprint = trial ∧ c.phase = phase ∧
      c.attemptId = attempt ∧ c.attemptCount = count ∧ c.resultFingerprint = result ∧
      c.updatedAt = updatedAt := by
  unfold makeSearchCandidateState at h
  split_ifs at h
  obtain rfl := Except.ok.inj h
  exact ⟨rfl, rfl, rfl, rfl, rfl, rfl, rfl⟩

theorem makeSearchCandidateState_of
    {count : ℕ} (index : ℕ) (trial : Digest) (updatedAt : Option Instant)
    (hid : ∀ id ∈ attempt, notBlank id = true) (hfits : phase.Fits attempt count result) :
    ∃ c, makeSearchCandidateState index trial phase attempt count result updatedAt = .ok c := by
  unfold makeSearchCandidateState
  rw [dif_pos hid, dif_pos hfits]
  exact ⟨_, rfl⟩

/-! ## The queue -/

/-- `SearchExecutionState`. -/
structure SearchExecutionState where
  experimentFingerprint : Digest
  candidates : List SearchCandidateState
  cancellationRequested : Bool
  cancellationRequestId : Option Digest
  updatedAt : Option Instant
  candidates_ne_nil : candidates ≠ []
  contiguous : candidates.map (·.candidateIndex) = List.range candidates.length
  unique_trials : (candidates.map (·.trialFingerprint)).Nodup
  request_iff : cancellationRequested = true ↔ cancellationRequestId ≠ none
  deriving DecidableEq

/-- `SearchExecutionState.__post_init__`. -/
def makeSearchExecutionState (experiment : Digest) (candidates : List SearchCandidateState)
    (requested : Bool) (requestId : Option Digest) (updatedAt : Option Instant) :
    Except PyError SearchExecutionState :=
  if hne : candidates ≠ [] then
    if hidx : candidates.map (·.candidateIndex) = List.range candidates.length then
      if huniq : (candidates.map (·.trialFingerprint)).Nodup then
        if hreq : requested = true ↔ requestId ≠ none then
          .ok
            { experimentFingerprint := experiment
              candidates := candidates
              cancellationRequested := requested
              cancellationRequestId := requestId
              updatedAt := updatedAt
              candidates_ne_nil := hne
              contiguous := hidx
              unique_trials := huniq
              request_iff := hreq }
        else if requested = true then
          .error (valueError "cancelled searches require a cancellation request identity")
        else
          .error
            (valueError "uncancelled searches cannot contain a cancellation request identity")
      else .error (valueError "search trial fingerprints must be unique")
    else .error (valueError "search candidate indices must be contiguous")
  else .error (valueError "search execution requires at least one candidate")

theorem makeSearchExecutionState_eq_ok {experiment : Digest} {requested : Bool} {s : SearchExecutionState}
    (h : makeSearchExecutionState experiment candidates requested requestId updatedAt = .ok s) :
    s.experimentFingerprint = experiment ∧ s.candidates = candidates ∧
      s.cancellationRequested = requested ∧ s.cancellationRequestId = requestId ∧
      s.updatedAt = updatedAt := by
  unfold makeSearchExecutionState at h
  split_ifs at h
  obtain rfl := Except.ok.inj h
  exact ⟨rfl, rfl, rfl, rfl, rfl⟩

theorem makeSearchExecutionState_of {requested : Bool} (experiment : Digest) (updatedAt : Option Instant)
    (hne : candidates ≠ [])
    (hidx : candidates.map (·.candidateIndex) = List.range candidates.length)
    (huniq : (candidates.map (·.trialFingerprint)).Nodup)
    (hreq : requested = true ↔ requestId ≠ none) :
    ∃ s, makeSearchExecutionState experiment candidates requested requestId updatedAt = .ok s := by
  unfold makeSearchExecutionState
  rw [dif_pos hne, dif_pos hidx, dif_pos huniq, dif_pos hreq]
  exact ⟨_, rfl⟩

/-- The trial fingerprints in the order of the candidates. -/
def SearchExecutionState.trials (s : SearchExecutionState) : List Digest :=
  s.candidates.map (·.trialFingerprint)

/-- `SearchExecutionState.complete`. -/
def SearchExecutionState.complete (s : SearchExecutionState) : Prop :=
  ∀ c ∈ s.candidates, c.phase.isTerminal = true

instance {s : SearchExecutionState} : Decidable s.complete :=
  inferInstanceAs (Decidable (∀ c ∈ s.candidates, c.phase.isTerminal = true))

/-- The time `now` is not before the last update. -/
def SearchExecutionState.NotAfter (s : SearchExecutionState) (now : Instant) : Prop :=
  ∀ u ∈ s.updatedAt, u ≤ now

instance {s : SearchExecutionState} {now : Instant} : Decidable (s.NotAfter now) :=
  decidable_of_iff (s.updatedAt.all (fun u => decide (u ≤ now)) = true)
    (by simp [SearchExecutionState.NotAfter, Option.all_eq_true])

/-- `SearchExecutionState.fingerprint`. -/
def SearchExecutionState.fingerprint (sha256 : String → Digest) (s : SearchExecutionState) :
    Digest :=
  digest sha256
    (.dataclass "app.strategy_lab_v2.search_state.SearchExecutionState"
      [({ name := "experiment_fingerprint" }, .str s.experimentFingerprint.text),
        ({ name := "candidates" }, .tuple (s.candidates.map SearchCandidateState.toPy)),
        ({ name := "cancellation_requested" }, .bool s.cancellationRequested),
        ({ name := "cancellation_request_id" }, optionDigest s.cancellationRequestId),
        ({ name := "updated_at" }, optionInstant s.updatedAt)])

/-- `enumerate(trials, start=start)` as pending candidates. -/
def pendingFrom (start : ℕ) (trials : List Digest) (now : Option Instant) :
    List SearchCandidateState :=
  trials.mapIdx fun i trial => .pending (start + i) trial now

/-- `new_search_execution_state`. -/
def newSearchExecutionState (experiment : Digest) (trials : List Digest) (now : Option Instant) :
    Except PyError SearchExecutionState := do
  ensure (trials ≠ []) (valueError "trial_fingerprints must be a non-empty tuple")
  ensure trials.Nodup (valueError "trial_fingerprints must be unique")
  makeSearchExecutionState experiment (pendingFrom 0 trials now) false none now

/-! ## Resolutions -/

/-- `SearchStateDecision`. -/
inductive SearchStateDecision where
  | apply | replayExisting | reject
  deriving DecidableEq, Repr

/-- `SearchStateResolution`. -/
structure SearchStateResolution where
  decision : SearchStateDecision
  state : SearchExecutionState
  candidateIndex : Option ℤ := none
  rejectionReason : Option String := none
  reason_iff : rejectionReason.isSome = true ↔ decision = .reject := by simp
  deriving DecidableEq

def SearchExecutionState.rejected (s : SearchExecutionState) (index : Option ℤ) (reason : String) :
    SearchStateResolution :=
  { decision := .reject, state := s, candidateIndex := index, rejectionReason := some reason }

def SearchExecutionState.replayed (s : SearchExecutionState) (index : Option ℤ) :
    SearchStateResolution :=
  { decision := .replayExisting, state := s, candidateIndex := index }

/-- `_candidate`. -/
def SearchExecutionState.candidate (s : SearchExecutionState) (index : ℤ) :
    Except PyError SearchCandidateState :=
  if index < 0 then .error (valueError "candidate_index is outside the search")
  else
    match s.candidates[index.toNat]? with
    | some c => .ok c
    | none => .error (valueError "candidate_index is outside the search")

/-- `_replace_candidate`, of a candidate with the given fields. -/
def SearchExecutionState.replaceCandidate (s : SearchExecutionState) (c : SearchCandidateState)
    (now : Instant) : Except PyError SearchExecutionState := do
  ensure (s.NotAfter now) (valueError "search transition time cannot move backwards")
  let next ← makeSearchCandidateState c.candidateIndex c.trialFingerprint c.phase c.attemptId
    c.attemptCount c.resultFingerprint (some now)
  makeSearchExecutionState s.experimentFingerprint (s.candidates.set c.candidateIndex next)
    s.cancellationRequested s.cancellationRequestId (some now)

/-! ## The operations -/

/-- `start_search_candidate`. -/
def startSearchCandidate (s : SearchExecutionState) (index : ℤ) (attempt : String)
    (now : Instant) : Except PyError SearchStateResolution := do
  ensure (notBlank attempt = true) (valueError "attempt_id must not be empty")
  let c ← s.candidate index
  if s.cancellationRequested = true then
    return s.rejected (some index) "search cancellation has been requested"
  else if c.phase = .running then
    if c.attemptId = some attempt then
      return s.replayed (some index)
    else
      return s.rejected (some index) "candidate already has a different active attempt"
  else if c.phase = .succeeded ∨ c.phase = .cancelled then
    return s.rejected (some index) "terminal candidate cannot be started"
  else if ¬ s.NotAfter now then
    return s.rejected (some index) "candidate start time cannot move backwards"
  else do
    let running ← makeSearchCandidateState c.candidateIndex c.trialFingerprint .running
      (some attempt) (c.attemptCount + 1) none c.updatedAt
    let next ← s.replaceCandidate running now
    return { decision := .apply, state := next, candidateIndex := some index }

/-- `record_search_candidate_terminal`. -/
def recordSearchCandidateTerminal (s : SearchExecutionState) (index : ℤ) (attempt : String)
    (phase : SearchCandidatePhase) (now : Instant) (result : Option Digest) :
    Except PyError SearchStateResolution := do
  ensure (notBlank attempt = true) (valueError "attempt_id must not be empty")
  ensure (phase.isTerminal = true)
    (valueError "terminal candidate records require a terminal phase")
  ensure (phase = .succeeded → result ≠ none)
    (valueError "result_fingerprint must be a sha256 content digest")
  ensure (phase ≠ .succeeded → result = none)
    (valueError "failed or cancelled candidates cannot contain a result")
  let c ← s.candidate index
  if c.phase.isTerminal = true then
    if c.attemptId = some attempt ∧ c.phase = phase ∧ c.resultFingerprint = result then
      return s.replayed (some index)
    else
      return s.rejected (some index)
        "terminal candidate content conflicts with the existing receipt"
  else if c.phase ≠ .running ∨ c.attemptId ≠ some attempt then
    return s.rejected (some index) "terminal receipt must match the active candidate attempt"
  else if s.cancellationRequested = true ∧ phase ≠ .cancelled then
    return s.rejected (some index) "cancelled searches require cancelled candidate receipts"
  else do
    let terminal ← makeSearchCandidateState c.candidateIndex c.trialFingerprint phase c.attemptId
      c.attemptCount result c.updatedAt
    let next ← s.replaceCandidate terminal now
    return { decision := .apply, state := next, candidateIndex := some index }

/-- `request_search_cancellation`. -/
def requestSearchCancellation (s : SearchExecutionState) (requestId : Digest) (now : Instant) :
    Except PyError SearchStateResolution :=
  if s.cancellationRequested = true then
    if s.cancellationRequestId = some requestId then .ok (s.replayed none)
    else .ok (s.rejected none "search cancellation is already bound to another request")
  else if s.complete then .ok (s.rejected none "completed searches cannot be cancelled")
  else if ¬ s.NotAfter now then .ok (s.rejected none "cancellation time cannot move backwards")
  else do
    let next ← makeSearchExecutionState s.experimentFingerprint s.candidates true (some requestId)
      (some now)
    return { decision := .apply, state := next }

/-- `append_search_candidates`. -/
def appendSearchCandidates (s : SearchExecutionState) (trials : List Digest) (now : Instant) :
    Except PyError SearchStateResolution := do
  ensure (trials ≠ []) (valueError "trial_fingerprints must be a non-empty tuple")
  ensure trials.Nodup (valueError "appended trial fingerprints must be unique")
  if trials.length ≤ s.trials.length ∧ s.trials.drop (s.trials.length - trials.length) = trials then
    return s.replayed none
  else if s.cancellationRequested = true then
    return s.rejected none "cancelled searches cannot append candidate phases"
  else if ¬ s.complete ∨ ∃ c ∈ s.candidates, c.phase ≠ .succeeded then
    return s.rejected none "candidate phases can append only after every prior candidate succeeds"
  else if ∃ trial ∈ s.trials, trial ∈ trials then
    return s.rejected none "appended trials must not reuse an existing trial identity"
  else if ¬ s.NotAfter now then
    return s.rejected none "candidate phase append time cannot move backwards"
  else do
    let next ← makeSearchExecutionState s.experimentFingerprint
      (s.candidates ++ pendingFrom s.candidates.length trials (some now))
      s.cancellationRequested s.cancellationRequestId (some now)
    return { decision := .apply, state := next, candidateIndex := some s.candidates.length }

/-- `PostgresSearchStateAdapter.append_candidates` on the state it loads. -/
def appendCandidates (sha256 : String → Digest) (current : SearchExecutionState)
    (expected : Digest) (trials : List Digest) (now : Instant) :
    Except PyError SearchStateResolution := do
  let replay ← appendSearchCandidates current trials now
  if current.fingerprint sha256 ≠ expected then
    if replay.decision = .replayExisting then
      return replay
    else
      return current.rejected none "search state changed before phase append"
  else
    return replay

inductive SearchCall where
  | start (index : ℤ) (attempt : String) (now : Instant)
  | terminal (index : ℤ) (attempt : String) (phase : SearchCandidatePhase) (now : Instant)
      (result : Option Digest)
  | cancel (requestId : Digest) (now : Instant)
  | append (trials : List Digest) (now : Instant)
  /-- The append of the adapter, for an expected state fingerprint. -/
  | appendExpected (expected : Digest) (trials : List Digest) (now : Instant)

def SearchCall.resolve (sha256 : String → Digest) (s : SearchExecutionState) :
    SearchCall → Except PyError SearchStateResolution
  | start index attempt now => startSearchCandidate s index attempt now
  | terminal index attempt phase now result =>
    recordSearchCandidateTerminal s index attempt phase now result
  | cancel requestId now => requestSearchCancellation s requestId now
  | append trials now => appendSearchCandidates s trials now
  | appendExpected expected trials now => appendCandidates sha256 s expected trials now

end ChartingPlatform
