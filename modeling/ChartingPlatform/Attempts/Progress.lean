/-
  Progress and cancellation of an execution attempt (`progress.py`).
-/
import ChartingPlatform.Lib.Gregorian
import ChartingPlatform.Lib.Outcome
import ChartingPlatform.Lib.Runs

namespace ChartingPlatform

open Lib

/-! ## States and requests -/

/-- `ProgressPhase`. -/
inductive ProgressPhase where
  | queued | preparing | running | finalizing | succeeded | failed | cancelled
  deriving DecidableEq, Repr

/-- `_TERMINAL_PHASES`. -/
def ProgressPhase.terminal : ProgressPhase → Bool
  | .succeeded | .failed | .cancelled => true
  | .queued | .preparing | .running | .finalizing => false

/-- `ExecutionProgressUpdate`. -/
structure ExecutionProgressUpdate where
  attemptId : String
  sequence : ℕ
  phase : ProgressPhase
  completedUnits : ℕ
  totalUnits : ℕ
  emittedAt : Instant
  detail : String := ""
  attemptId_notBlank : notBlank attemptId = true
  sequence_pos : 0 < sequence
  completed_le : completedUnits ≤ totalUnits
  deriving DecidableEq

/-- `CancellationRequest`. -/
structure CancellationRequest where
  requestId : String
  attemptId : String
  requestedAt : Instant
  reason : String
  requestId_notBlank : notBlank requestId = true
  attemptId_notBlank : notBlank attemptId = true
  reason_notBlank : notBlank reason = true
  deriving DecidableEq

/-- `ExecutionProgressState`. -/
structure ExecutionProgressState where
  attemptId : String
  sequence : ℕ
  phase : ProgressPhase
  completedUnits : ℕ
  totalUnits : ℕ
  cancellationRequested : Bool
  updatedAt : Instant
  attemptId_notBlank : notBlank attemptId = true
  completed_le : completedUnits ≤ totalUnits
  deriving DecidableEq

/-- `new_progress_state`. -/
def newProgressState (attemptId : String) (totalUnits : ℕ) (now : Instant) :
    Except PyError ExecutionProgressState :=
  if h : notBlank attemptId = true then .ok
    { attemptId := attemptId
      sequence := 0
      phase := .queued
      completedUnits := 0
      totalUnits := totalUnits
      cancellationRequested := false
      updatedAt := now
      attemptId_notBlank := h
      completed_le := Nat.zero_le _ }
  else .error (valueError "progress state attempt_id must not be empty")

/-- `apply_progress_update`. -/
def applyProgressUpdate (state : ExecutionProgressState) (update : ExecutionProgressUpdate) :
    Except PyError ExecutionProgressState := do
  ensure (update.attemptId = state.attemptId)
    (valueError "progress update must reference the same attempt")
  ensure (state.sequence < update.sequence)
    (valueError "progress sequence must be strictly increasing")
  ensure (state.phase.terminal = false)
    (valueError "terminal progress state cannot receive updates")
  if htotal : update.totalUnits = state.totalUnits then
    ensure (state.completedUnits ≤ update.completedUnits)
      (valueError "progress completed_units cannot move backwards")
    ensure (state.cancellationRequested = true → update.phase = .cancelled)
      (valueError "cancelled attempts can only publish a cancelled terminal update")
    ensure (update.phase = .succeeded → update.completedUnits = update.totalUnits)
      (valueError "successful progress must complete all units")
    return { state with
      sequence := update.sequence
      phase := update.phase
      completedUnits := update.completedUnits
      updatedAt := update.emittedAt
      completed_le := htotal ▸ update.completed_le }
  else .error (valueError "progress total_units cannot change")

/-- `request_cancellation`. -/
def requestCancellation (state : ExecutionProgressState) (request : CancellationRequest) :
    Except PyError ExecutionProgressState := do
  ensure (request.attemptId = state.attemptId)
    (valueError "cancellation must reference the same attempt")
  if state.phase.terminal = true then return state
  else do
    ensure (state.updatedAt ≤ request.requestedAt)
      (valueError "cancellation time cannot move backwards")
    if state.cancellationRequested = true then return state
    else return { state with cancellationRequested := true, updatedAt := request.requestedAt }

/-! ## Calls -/

inductive ProgressCall where
  | update (u : ExecutionProgressUpdate)
  | cancel (r : CancellationRequest)

/-- The call does not raise in `s`, and leads to `s'`. -/
def ProgressStep (s : ExecutionProgressState) (c : ProgressCall)
    (s' : ExecutionProgressState) : Prop :=
  match c with
  | .update u => applyProgressUpdate s u = .ok s'
  | .cancel r => requestCancellation s r = .ok s'

def ProgressCall.time : ProgressCall → Instant
  | .update u => u.emittedAt
  | .cancel r => r.requestedAt

def ProgressCall.Backdated (s : ExecutionProgressState) : ProgressCall → Prop
  | .update u => u.emittedAt < s.updatedAt
  | .cancel _ => False

def latestTime (created : Instant) (calls : List ProgressCall) : Instant :=
  (calls.getLast?.map ProgressCall.time).getD created

section
variable {s s' t : ExecutionProgressState} {u : ExecutionProgressUpdate}
  {r : CancellationRequest} {c : ProgressCall} {calls : List ProgressCall}

theorem applyProgressUpdate_spec (h : applyProgressUpdate s u = .ok s') :
    s.sequence < u.sequence ∧ s.phase.terminal = false ∧
      s.completedUnits ≤ u.completedUnits ∧
      (s.cancellationRequested = true → u.phase = .cancelled) ∧
      s'.attemptId = s.attemptId ∧ s'.sequence = u.sequence ∧ s'.phase = u.phase ∧
      s'.completedUnits = u.completedUnits ∧ s'.totalUnits = s.totalUnits ∧
      s'.cancellationRequested = s.cancellationRequested ∧ s'.updatedAt = u.emittedAt := by
  obtain ⟨_, -, h⟩ := bind_eq_ok.1 h
  obtain ⟨_, hsequence, h⟩ := bind_eq_ok.1 h
  obtain ⟨_, hphase, h⟩ := bind_eq_ok.1 h
  split_ifs at h with htotal
  obtain ⟨_, hcompleted, h⟩ := bind_eq_ok.1 h
  obtain ⟨_, hcancelled, h⟩ := bind_eq_ok.1 h
  obtain ⟨_, -, h⟩ := bind_eq_ok.1 h
  cases h
  exact ⟨ensure_eq_ok.1 hsequence, ensure_eq_ok.1 hphase, ensure_eq_ok.1 hcompleted,
    ensure_eq_ok.1 hcancelled, rfl, rfl, rfl, rfl, rfl, rfl, rfl⟩

theorem requestCancellation_cases (h : requestCancellation s r = .ok s') :
    r.attemptId = s.attemptId ∧
      ((s.phase.terminal = true ∧ s' = s) ∨
        s.phase.terminal = false ∧ s.updatedAt ≤ r.requestedAt ∧
          ((s.cancellationRequested = true ∧ s' = s) ∨
            s.cancellationRequested = false ∧
              s' = { s with cancellationRequested := true, updatedAt := r.requestedAt })) := by
  obtain ⟨_, hattempt, h⟩ := bind_eq_ok.1 h
  refine ⟨ensure_eq_ok.1 hattempt, ?_⟩
  by_cases hterminal : s.phase.terminal = true
  · rw [if_pos hterminal] at h
    cases h
    exact .inl ⟨hterminal, rfl⟩
  · rw [if_neg hterminal] at h
    obtain ⟨_, htime, h⟩ := bind_eq_ok.1 h
    refine .inr ⟨by simpa using hterminal, ensure_eq_ok.1 htime, ?_⟩
    split_ifs at h with hcancelled
    · cases h
      exact .inl ⟨hcancelled, rfl⟩
    · cases h
      exact .inr ⟨by simpa using hcancelled, rfl⟩

theorem requestCancellation_of (hattempt : r.attemptId = s.attemptId)
    (htime : s.phase.terminal = false → s.updatedAt ≤ r.requestedAt) :
    ∃ s', requestCancellation s r = .ok s' ∧
      (s.phase.terminal = false → s'.cancellationRequested = true) := by
  rw [requestCancellation, ensure_of hattempt, ok_bind]
  by_cases hterminal : s.phase.terminal = true
  · rw [if_pos hterminal]
    exact ⟨s, rfl, fun h => absurd hterminal (by rw [h]; decide)⟩
  · have hfalse : s.phase.terminal = false := by simpa using hterminal
    rw [if_neg hterminal, ensure_of (htime hfalse), ok_bind]
    by_cases hcancelled : s.cancellationRequested = true
    · rw [if_pos hcancelled]
      exact ⟨s, rfl, fun _ => hcancelled⟩
    · rw [if_neg hcancelled]
      exact ⟨_, rfl, fun _ => rfl⟩

theorem requestCancellation_again (hattempt : r.attemptId = s.attemptId)
    (h : s.phase.terminal = true ∨ s.cancellationRequested = true ∧ s.updatedAt ≤ r.requestedAt) :
    requestCancellation s r = .ok s := by
  rw [requestCancellation, ensure_of hattempt, ok_bind]
  by_cases hterminal : s.phase.terminal = true
  · rw [if_pos hterminal]
    rfl
  · obtain ⟨hcancelled, htime⟩ := h.resolve_left hterminal
    rw [if_neg hterminal, ensure_of htime, ok_bind, if_pos hcancelled]
    rfl

/-! ## Laws -/

structure Progressed (s t : ExecutionProgressState) : Prop where
  attemptId : t.attemptId = s.attemptId
  totalUnits : t.totalUnits = s.totalUnits
  sequence : s.sequence ≤ t.sequence
  completedUnits : s.completedUnits ≤ t.completedUnits
  terminal : s.phase.terminal = true → t.phase = s.phase
  cancelled : s.cancellationRequested = true →
    t.cancellationRequested = true ∧ (t.phase = s.phase ∨ t.phase = .cancelled)

theorem Progressed.refl (s : ExecutionProgressState) : Progressed s s :=
  ⟨rfl, rfl, le_rfl, le_rfl, fun _ => rfl, fun h => ⟨h, .inl rfl⟩⟩

theorem Progressed.trans (h : Progressed s s') (h' : Progressed s' t) : Progressed s t where
  attemptId := h'.attemptId.trans h.attemptId
  totalUnits := h'.totalUnits.trans h.totalUnits
  sequence := h.sequence.trans h'.sequence
  completedUnits := h.completedUnits.trans h'.completedUnits
  terminal hs := by
    have hphase := h.terminal hs
    rw [h'.terminal (hphase ▸ hs), hphase]
  cancelled hs := by
    obtain ⟨hreq, hphase⟩ := h.cancelled hs
    obtain ⟨hreq', hphase'⟩ := h'.cancelled hreq
    refine ⟨hreq', ?_⟩
    rcases hphase' with heq | heq
    · rwa [heq]
    · exact .inr heq

/-- **What one call does**: the laws, a strictly larger sequence for an update, and a later
    time exactly where the call is not backdated. -/
theorem progress_step (h : ProgressStep s c s') :
    Progressed s s' ∧ (∀ u, c = .update u → s.sequence < s'.sequence) ∧
      (s.updatedAt ≤ s'.updatedAt ↔ ¬ c.Backdated s) ∧
      (s'.phase.terminal = false → s'.updatedAt ≤ c.time) := by
  cases c with
  | update u =>
    obtain ⟨hsequence, hphase, hcompleted, hcancelled, hattempt, hseq, hphase', hcomp, htotal, hreq,
      htime⟩ := applyProgressUpdate_spec h
    refine ⟨⟨hattempt, htotal, ?_, ?_, ?_, ?_⟩, ?_, ?_, ?_⟩
    · rw [hseq]
      exact hsequence.le
    · rwa [hcomp]
    · rw [hphase]
      exact fun hfalse => by cases hfalse
    · exact fun hs => ⟨hreq.trans hs, .inr (hphase'.trans (hcancelled hs))⟩
    · exact fun _ _ => hseq ▸ hsequence
    · rw [htime]
      exact not_lt.symm
    · exact fun _ => htime.le
  | cancel r =>
    obtain ⟨-, ⟨hterminal, rfl⟩ | ⟨hphase, htime, ⟨hreq, rfl⟩ | ⟨hreq, rfl⟩⟩⟩ :=
      requestCancellation_cases h
    · refine ⟨.refl _, ?_, iff_of_true le_rfl id, ?_⟩
      · exact fun _ hc => by cases hc
      · rw [hterminal]
        exact fun hfalse => by cases hfalse
    · exact ⟨.refl _, fun _ hc => (by cases hc), iff_of_true le_rfl id, fun _ => htime⟩
    · refine ⟨⟨rfl, rfl, le_rfl, le_rfl, fun _ => rfl, fun _ => ⟨rfl, .inl rfl⟩⟩, ?_,
        iff_of_true htime id, fun _ => le_rfl⟩
      exact fun _ hc => by cases hc

theorem Progressed.run (h : Run ProgressStep s calls t) : Progressed s t :=
  h.invariant (fun hp hstep => hp.trans (progress_step hstep).1) (.refl s)

def CancellationSettled (r : CancellationRequest) (s : ExecutionProgressState) : Prop :=
  r.attemptId = s.attemptId ∧
    (s.phase.terminal = true ∨ s.cancellationRequested = true ∧ s.updatedAt ≤ r.requestedAt)

theorem CancellationSettled.of_cancel (h : requestCancellation s r = .ok s') :
    CancellationSettled r s' := by
  obtain ⟨hattempt, ⟨hterminal, rfl⟩ | ⟨-, htime, ⟨hreq, rfl⟩ | ⟨-, rfl⟩⟩⟩ :=
    requestCancellation_cases h
  · exact ⟨hattempt, .inl hterminal⟩
  · exact ⟨hattempt, .inr ⟨hreq, htime⟩⟩
  · exact ⟨hattempt, .inr ⟨rfl, le_rfl⟩⟩

theorem CancellationSettled.step (hs : CancellationSettled r s) (h : ProgressStep s c s') :
    CancellationSettled r s' := by
  obtain ⟨hattempt, hs⟩ := hs
  cases c with
  | update u =>
    obtain ⟨-, hphase, -, hcancelled, hattempt', -, hphase', -⟩ := applyProgressUpdate_spec h
    obtain ⟨hreq, -⟩ := hs.resolve_left (by rw [hphase]; decide)
    refine ⟨hattempt.trans hattempt'.symm, .inl ?_⟩
    rw [hphase', hcancelled hreq]
    rfl
  | cancel r' =>
    obtain ⟨-, ⟨-, rfl⟩ | ⟨hphase, -, ⟨-, rfl⟩ | ⟨hreq, -⟩⟩⟩ := requestCancellation_cases h
    · exact ⟨hattempt, hs⟩
    · exact ⟨hattempt, hs⟩
    · obtain ⟨hreq', -⟩ := hs.resolve_left (by rw [hphase]; decide)
      rw [hreq] at hreq'
      cases hreq'

theorem updatedAt_le_latest {now : Instant} (hnow : s.updatedAt = now)
    (h : Run ProgressStep s calls t) (hrunning : t.phase.terminal = false) :
    t.updatedAt ≤ latestTime now calls := by
  cases calls using List.reverseRecOn with
  | nil =>
    rw [Run.nil_iff] at h
    subst h
    exact hnow.le
  | append_singleton calls c =>
    obtain ⟨w, -, hstep⟩ := Run.snoc_iff.1 h
    rw [latestTime, List.getLast?_concat, Option.map_some, Option.getD_some]
    exact (progress_step hstep).2.2.2 hrunning

/-- **The laws of progress**, from any state of any run: what later states keep, what the next
    call does (time moves backwards exactly at a backdated update), that an accepted cancellation
    can be repeated at any later time, and that one not before the latest call is accepted. -/
theorem execution_progress_run {attemptId : String} {total : ℕ} {now : Instant}
    {created : ExecutionProgressState} (hnew : newProgressState attemptId total now = .ok created)
    (hrun : Run ProgressStep created calls s) :
    s.totalUnits = total ∧ s.completedUnits ≤ total ∧
      (∀ later t, Run ProgressStep s later t → Progressed s t) ∧
      (∀ c s', ProgressStep s c s' → (∀ u, c = .update u → s.sequence < s'.sequence) ∧
        (s.updatedAt ≤ s'.updatedAt ↔ ¬ c.Backdated s)) ∧
      (∀ r s' later t, requestCancellation s r = .ok s' → Run ProgressStep s' later t →
        requestCancellation t r = .ok t) ∧
      (s.phase.terminal = false → ∀ r : CancellationRequest, r.attemptId = attemptId →
        latestTime now calls ≤ r.requestedAt →
        ∃ s', requestCancellation s r = .ok s' ∧ s'.cancellationRequested = true) := by
  have hcreated : created.attemptId = attemptId ∧ created.totalUnits = total ∧
      created.updatedAt = now := by
    unfold newProgressState at hnew
    split_ifs at hnew
    cases hnew
    exact ⟨rfl, rfl, rfl⟩
  obtain ⟨hattempt, htotal, hnow⟩ := hcreated
  have hkept := Progressed.run hrun
  have htotal' : s.totalUnits = total := hkept.totalUnits.trans htotal
  refine ⟨htotal', htotal' ▸ s.completed_le, fun _ _ h => .run h, fun c s' h => ?_,
    fun r s' later t h hlater => ?_, fun hrunning r hr htime => ?_⟩
  · obtain ⟨-, hsequence, hback, -⟩ := progress_step h
    exact ⟨hsequence, hback⟩
  · have hsettled := hlater.invariant (fun hs hstep => CancellationSettled.step hs hstep)
      (.of_cancel h)
    exact requestCancellation_again hsettled.1 hsettled.2
  · have hle := (updatedAt_le_latest hnow hrun hrunning).trans htime
    obtain ⟨s', hs', hreq⟩ := requestCancellation_of
      (hr.trans (hattempt.symm.trans hkept.attemptId.symm)) fun _ => hle
    exact ⟨s', hs', hreq hrunning⟩

def firstUnit (emittedAt : Instant) : ExecutionProgressUpdate where
  attemptId := "attempt-1"
  sequence := 1
  phase := .running
  completedUnits := 1
  totalUnits := 2
  emittedAt := emittedAt
  attemptId_notBlank := Eq.refl true
  sequence_pos := Nat.one_pos
  completed_le := Nat.two_pos

def cancelAt (requestedAt : Instant) : CancellationRequest where
  requestId := "cancel-1"
  attemptId := "attempt-1"
  requestedAt := requestedAt
  reason := "no longer needed"
  requestId_notBlank := by decide
  attemptId_notBlank := by decide
  reason_notBlank := by decide

/-- The attempt before and after its first report. -/
def reported (emittedAt : Instant) : ExecutionProgressState where
  attemptId := "attempt-1"
  sequence := 1
  phase := .running
  completedUnits := 1
  totalUnits := 2
  cancellationRequested := false
  updatedAt := emittedAt
  attemptId_notBlank := by decide
  completed_le := by decide

theorem execution_progress_cancel : ∃ created s, newProgressState "attempt-1" 2 5 = .ok created ∧
    Run ProgressStep created [.update (firstUnit 7)] s ∧
      ∃ s', requestCancellation s (cancelAt 7) = .ok s' ∧ s'.cancellationRequested = true := by
  obtain ⟨created, hnew⟩ : ∃ created, newProgressState "attempt-1" 2 5 = .ok created := ⟨_, rfl⟩
  have hrun : Run ProgressStep created [.update (firstUnit 7)] (reported 7) := by
    cases hnew
    exact Run.cons (rfl : applyProgressUpdate _ _ = _) Run.nil
  obtain ⟨-, -, -, -, -, hcancel⟩ := execution_progress_run hnew hrun
  exact ⟨created, reported 7, hnew, hrun, hcancel rfl (cancelAt 7) rfl le_rfl⟩

/-- **A backdated update** takes the time of its attempt back. -/
theorem execution_progress_backdated : ∃ created s, newProgressState "attempt-1" 2 5 = .ok created ∧
    ProgressStep created (.update (firstUnit 3)) s ∧ s.updatedAt < created.updatedAt :=
  ⟨_, reported 3, rfl, rfl, by decide⟩

end

end ChartingPlatform
