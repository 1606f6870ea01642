/-
  Attempts of a trial (`lifecycle.py`) and the plans that retry them (`recovery.py`).
-/
import ChartingPlatform.Lib.Gregorian
import ChartingPlatform.Lib.Outcome
import ChartingPlatform.Lib.Sorting

namespace ChartingPlatform

open Lib List

/-! ## Attempts -/

/-- `AttemptState`. -/
inductive AttemptState where
  | queued | running | succeeded | failed | cancelled
  deriving DecidableEq, Repr

def AttemptState.value : AttemptState → String
  | .queued => "queued"
  | .running => "running"
  | .succeeded => "succeeded"
  | .failed => "failed"
  | .cancelled => "cancelled"

/-- `_ATTEMPT_TRANSITIONS`. -/
def AttemptState.targets : AttemptState → List AttemptState
  | .queued => [.running, .cancelled]
  | .running => [.succeeded, .failed, .cancelled]
  | .succeeded => []
  | .failed => []
  | .cancelled => []

def AttemptState.terminal : AttemptState → Bool
  | .succeeded | .failed | .cancelled => true
  | .queued | .running => false

/-- `RunAttempt`. -/
@[ext]
structure RunAttempt where
  attemptId : String
  trialId : String
  ordinal : ℕ
  state : AttemptState
  createdAt : Instant
  updatedAt : Instant
  attemptId_notBlank : notBlank attemptId = true
  trialId_notBlank : notBlank trialId = true
  ordinal_pos : 0 < ordinal
  createdAt_le : createdAt ≤ updatedAt

instance : DecidableEq RunAttempt := fun _ _ => decidable_of_iff' _ RunAttempt.ext_iff

/-- `transition_attempt`. -/
def transitionAttempt (attempt : RunAttempt) (target : AttemptState) (now : Instant) :
    Except PyError RunAttempt :=
  if hnow : attempt.updatedAt ≤ now then do
    ensure (target ∈ attempt.state.targets) (valueError ("illegal attempt transition: " ++
      attempt.state.value ++ " -> " ++ target.value))
    return { attempt with
      state := target
      updatedAt := now
      createdAt_le := attempt.createdAt_le.trans hnow }
  else .error (valueError "attempt transition time cannot move backwards")

def orderedAttempts (attempts : List RunAttempt) : List RunAttempt :=
  sortBy RunAttempt.ordinal attempts

def oneTrial (attempts : List RunAttempt) : Prop :=
  (attempts.map RunAttempt.trialId).dedup.length = 1

instance (attempts : List RunAttempt) : Decidable (oneTrial attempts) :=
  inferInstanceAs (Decidable (_ = _))

def contiguous (ordered : List RunAttempt) : Prop :=
  ordered.map RunAttempt.ordinal = List.range' 1 ordered.length

instance (ordered : List RunAttempt) : Decidable (contiguous ordered) :=
  inferInstanceAs (Decidable (_ = _))

/-- `create_retry_attempt`. -/
def createRetryAttempt (prior : List RunAttempt) (attemptId : String) (createdAt : Instant) :
    Except PyError RunAttempt := do
  ensure (prior ≠ []) (valueError "a retry requires at least one prior attempt")
  ensure (oneTrial prior) (valueError "all attempts in a retry chain must reference one trial")
  ensure (contiguous (orderedAttempts prior))
    (valueError "attempt ordinals must be contiguous from one")
  match (orderedAttempts prior).getLast? with
  | none => .error (valueError "a retry requires at least one prior attempt")
  | some latest =>
    ensure (latest.state = .failed ∨ latest.state = .cancelled)
      (valueError "only failed or cancelled attempts may be retried")
    ensure (∀ a ∈ (orderedAttempts prior).dropLast, a.state.terminal = true)
      (valueError "all earlier attempts must be terminal before retry")
    ensure (latest.updatedAt ≤ createdAt)
      (valueError "retry creation time cannot precede the prior attempt")
    ensure (attemptId ∉ prior.map RunAttempt.attemptId)
      (valueError "attempt_id must be unique within its trial")
    if hblank : notBlank attemptId = true then return {
      attemptId := attemptId
      trialId := latest.trialId
      ordinal := prior.length + 1
      state := .queued
      createdAt := createdAt
      updatedAt := createdAt
      attemptId_notBlank := hblank
      trialId_notBlank := latest.trialId_notBlank
      ordinal_pos := Nat.succ_pos _
      createdAt_le := le_rfl }
    else .error (valueError "attempt_id must not be empty")

/-! ## Policies -/

/-- `RecoveryReason`. -/
inductive RecoveryReason where
  | workerCrash | leaseExpired | transientEngineError | artifactPublishFailure | cancelled
  deriving DecidableEq, Repr

/-- `RecoveryDisposition`. -/
inductive RecoveryDisposition where
  | retry | terminal | noop
  deriving DecidableEq, Repr

/-- The microseconds of `timedelta.max`. -/
def timedeltaMax : ℕ := 1000000000 * 86400000000 - 1

/-- `RetryPolicy`; the delays are in microseconds. -/
structure RetryPolicy where
  maxAttempts : ℕ := 3
  retryableReasons : List RecoveryReason :=
    [.workerCrash, .leaseExpired, .transientEngineError, .artifactPublishFailure]
  initialBackoff : ℕ := 5000000
  maxBackoff : ℕ := 300000000
  maxAttempts_pos : 0 < maxAttempts
  cancelled_notMem : RecoveryReason.cancelled ∉ retryableReasons
  initialBackoff_pos : 0 < initialBackoff
  initialBackoff_le : initialBackoff ≤ maxBackoff
  maxBackoff_le : maxBackoff ≤ timedeltaMax

def RetryPolicy.default : RetryPolicy where
  maxAttempts_pos := by decide
  cancelled_notMem := by decide
  initialBackoff_pos := by decide
  initialBackoff_le := by decide
  maxBackoff_le := by decide

/-- The loop of `backoff_for`. -/
def doubleDelay (maxBackoff : ℕ) : ℕ → ℕ → Except PyError ℕ
  | 0, delay => .ok delay
  | n + 1, delay => do
    ensure (delay * 2 ≤ timedeltaMax)
      ⟨.overflowError, "days must have magnitude <= 999999999"⟩
    if min (delay * 2) maxBackoff = maxBackoff then return maxBackoff
    else doubleDelay maxBackoff n (min (delay * 2) maxBackoff)

/-- `RetryPolicy.backoff_for`. -/
def RetryPolicy.backoffFor (policy : RetryPolicy) (nextOrdinal : ℕ) : Except PyError ℕ := do
  ensure (2 ≤ nextOrdinal) (valueError "next retry ordinal must be at least two")
  doubleDelay policy.maxBackoff (nextOrdinal - 2) policy.initialBackoff

/-! ## Plans -/

/-- `RecoveryPlan`. -/
structure RecoveryPlan where
  disposition : RecoveryDisposition
  reason : RecoveryReason
  trialId : String
  priorAttemptId : String
  priorOrdinal : ℕ
  nextOrdinal : Option ℕ
  retryAt : Option Instant
  rationale : String
  retry_spec : disposition = .retry →
    nextOrdinal = some (priorOrdinal + 1) ∧ retryAt.isSome = true
  other_spec : disposition ≠ .retry → nextOrdinal = none ∧ retryAt = none
  deriving DecidableEq

def finalPlan (disposition : RecoveryDisposition) (hne : disposition ≠ .retry)
    (reason : RecoveryReason) (latest : RunAttempt) (rationale : String) : RecoveryPlan where
  disposition := disposition
  reason := reason
  trialId := latest.trialId
  priorAttemptId := latest.attemptId
  priorOrdinal := latest.ordinal
  nextOrdinal := none
  retryAt := none
  rationale := rationale
  retry_spec h := absurd h hne
  other_spec _ := ⟨rfl, rfl⟩

def retryPlan (reason : RecoveryReason) (latest : RunAttempt) (retryAt : Instant) :
    RecoveryPlan where
  disposition := .retry
  reason := reason
  trialId := latest.trialId
  priorAttemptId := latest.attemptId
  priorOrdinal := latest.ordinal
  nextOrdinal := some (latest.ordinal + 1)
  retryAt := some retryAt
  rationale := "terminal infrastructure failure is eligible for retry"
  retry_spec _ := ⟨rfl, rfl⟩
  other_spec h := absurd rfl h

/-- `RecoveryPlan.materialize_retry_attempt`. -/
def RecoveryPlan.materializeRetryAttempt (plan : RecoveryPlan) (prior : List RunAttempt)
    (attemptId : String) : Except PyError RunAttempt := do
  ensure (plan.disposition = .retry) (valueError "only retry plans can materialize an attempt")
  match plan.retryAt with
  | none => .error (valueError "retry plan is missing retry_at")
  | some retryAt =>
    let attempt ← createRetryAttempt prior attemptId retryAt
    ensure (attempt.trialId = plan.trialId ∧ some attempt.ordinal = plan.nextOrdinal)
      (valueError "prior attempts do not match the recovery plan")
    return attempt

/-- `_validate_attempt_chain`. -/
def validateAttemptChain (prior : List RunAttempt) : Except PyError (List RunAttempt) := do
  ensure (prior ≠ []) (valueError "recovery requires at least one prior attempt")
  ensure (contiguous (orderedAttempts prior))
    (valueError "attempt ordinals must be contiguous from one")
  ensure (oneTrial (orderedAttempts prior))
    (valueError "all attempts in a recovery chain must reference one trial")
  ensure (∀ a ∈ (orderedAttempts prior).dropLast, a.state.terminal = true)
    (valueError "all earlier attempts must be terminal before recovery")
  return orderedAttempts prior

/-- `observed_at + delay`. -/
def addDelay (t : Instant) (delay : ℕ) : Except PyError Instant :=
  if h : t.val + delay < instantLimit then .ok ⟨t.val + delay, h⟩
  else .error ⟨.overflowError, "date value out of range"⟩

/-- `plan_attempt_recovery`. -/
def planAttemptRecovery (prior : List RunAttempt) (reason : RecoveryReason) (observedAt : Instant)
    (policy : RetryPolicy) : Except PyError RecoveryPlan := do
  let ordered ← validateAttemptChain prior
  match ordered.getLast? with
  | none => .error (valueError "recovery requires at least one prior attempt")
  | some latest =>
    ensure (latest.updatedAt ≤ observedAt)
      (valueError "recovery observation time cannot precede the latest attempt")
    ensure (latest.state.terminal = true) (valueError "only a terminal attempt can be recovered")
    if latest.state = .succeeded then
      return finalPlan .noop (by decide) reason latest "attempt already succeeded"
    else if reason ∉ policy.retryableReasons then
      return finalPlan .terminal (by decide) reason latest "recovery reason is not retryable"
    else if latest.state = .cancelled then
      return finalPlan .terminal (by decide) reason latest
        "cancelled attempts are not retried by default"
    else if policy.maxAttempts ≤ ordered.length then
      return finalPlan .terminal (by decide) reason latest "retry attempt limit exhausted"
    else
      let delay ← policy.backoffFor (latest.ordinal + 1)
      let retryAt ← addDelay observedAt delay
      return retryPlan reason latest retryAt

/-! ## Delays -/

section
variable {policy : RetryPolicy} {reason : RecoveryReason} {observedAt t : Instant}
  {attempts prior : List RunAttempt} {a latest : RunAttempt} {attemptId : String}
  {plan : RecoveryPlan} {delay n : ℕ}

theorem doubleDelay_eq {maxBackoff result : ℕ} (hle : delay ≤ maxBackoff)
    (h : doubleDelay maxBackoff n delay = .ok result) :
    result = min (delay * 2 ^ n) maxBackoff := by
  induction n generalizing delay with
  | zero =>
    cases h
    rw [pow_zero, mul_one, min_eq_left hle]
  | succ n ih =>
    obtain ⟨_, -, h⟩ := bind_eq_ok.1 h
    have hpow : delay * 2 ≤ delay * 2 ^ (n + 1) := by
      rw [pow_succ]
      exact Nat.mul_le_mul_left _ (Nat.le_mul_of_pos_left 2 (Nat.two_pow_pos n))
    split_ifs at h with hcap
    · cases h
      rw [min_eq_right_iff] at hcap
      exact (min_eq_right (hcap.trans hpow)).symm
    · have hlt : delay * 2 < maxBackoff := by
        rw [min_eq_right_iff, not_le] at hcap
        exact hcap
      rw [min_eq_left hlt.le] at h
      rw [ih hlt.le h, pow_succ, mul_assoc, Nat.mul_comm 2]

/-- **The delay of the `k`-th attempt** is the capped power of two. -/
theorem backoffFor_eq {k : ℕ} (h : policy.backoffFor k = .ok delay) :
    delay = min (policy.initialBackoff * 2 ^ (k - 2)) policy.maxBackoff := by
  obtain ⟨_, -, h⟩ := bind_eq_ok.1 h
  exact doubleDelay_eq policy.initialBackoff_le h

theorem addDelay_eq_ok {u : Instant} (h : addDelay t delay = .ok u) : u.val = t.val + delay := by
  unfold addDelay at h
  split_ifs at h
  cases h
  rfl

theorem doubleDelay_error {maxBackoff : ℕ} {e : PyError}
    (h : doubleDelay maxBackoff n delay = .error e) : e.kind = .overflowError := by
  induction n generalizing delay with
  | zero => cases h
  | succ n ih =>
    rw [doubleDelay] at h
    by_cases hfits : delay * 2 ≤ timedeltaMax
    · rw [ensure_of hfits, ok_bind] at h
      split_ifs at h with hcap
      · cases h
      · exact ih h
    · rw [ensure_of_not hfits, error_bind] at h
      cases h
      rfl

/-! ## Chains -/

/-- A chain of attempts in order, all but the last of which failed. -/
structure AttemptChain (attempts : List RunAttempt) : Prop where
  nonempty : attempts ≠ []
  ordinals : contiguous attempts
  trials : ∀ a ∈ attempts, ∀ b ∈ attempts, a.trialId = b.trialId
  failed : ∀ a ∈ attempts.dropLast, a.state = .failed
  created : attempts.Pairwise fun a b => a.createdAt ≤ b.createdAt

theorem AttemptChain.pairwise (h : AttemptChain attempts) :
    attempts.Pairwise fun a b => a.ordinal < b.ordinal := by
  have hlt : (attempts.map RunAttempt.ordinal).Pairwise (· < ·) := by
    rw [h.ordinals]
    exact pairwise_lt_range'
  exact pairwise_map.1 hlt

theorem AttemptChain.ordered (h : AttemptChain attempts) (hp : prior.Perm attempts) :
    orderedAttempts prior = attempts := by
  have hinj : ∀ a ∈ prior, ∀ b ∈ prior, a.ordinal = b.ordinal → a = b :=
    fun a ha b hb => inj_on_of_nodup_map (nodup_map_of_pairwise_lt h.pairwise)
      (hp.mem_iff.1 ha) (hp.mem_iff.1 hb)
  rw [orderedAttempts, sortBy_eq_of_perm hp hinj]
  exact sortBy_of_pairwise h.pairwise

theorem AttemptChain.oneTrial (h : AttemptChain attempts) (hp : prior.Perm attempts) :
    oneTrial prior := by
  obtain ⟨a, rest, rfl⟩ := exists_cons_of_ne_nil h.nonempty
  have hall : ∀ b ∈ prior.map RunAttempt.trialId, b = a.trialId := by
    intro b hb
    obtain ⟨c, hc, rfl⟩ := mem_map.1 hb
    exact h.trials c (hp.mem_iff.1 hc) a mem_cons_self
  have hmem : a.trialId ∈ (prior.map RunAttempt.trialId).dedup :=
    mem_dedup.2 (mem_map_of_mem (hp.mem_iff.2 mem_cons_self))
  have hle : (prior.map RunAttempt.trialId).dedup.length ≤ 1 := by
    have hsub : (prior.map RunAttempt.trialId).dedup ⊆ [a.trialId] := fun b hb =>
      mem_singleton.2 (hall b (mem_dedup.1 hb))
    exact ((nodup_dedup _).subperm hsub).length_le
  exact le_antisymm hle (length_pos_of_mem hmem)

theorem AttemptChain.validate (h : AttemptChain attempts) (hp : prior.Perm attempts) :
    validateAttemptChain prior = .ok attempts := by
  have hne : prior ≠ [] := fun hnil => h.nonempty (perm_nil.1 (hnil ▸ hp.symm))
  have hterminal : ∀ a ∈ attempts.dropLast, a.state.terminal = true := fun a ha => by
    rw [h.failed a ha]
    rfl
  rw [validateAttemptChain, ensure_of hne, ok_bind, h.ordered hp, ensure_of h.ordinals, ok_bind,
    ensure_of (h.oneTrial (List.Perm.refl _)), ok_bind, ensure_of hterminal, ok_bind]
  rfl

theorem ordinal_getLast (hordinals : contiguous attempts)
    (hlast : attempts.getLast? = some latest) : latest.ordinal = attempts.length := by
  obtain ⟨earlier, rfl⟩ : ∃ earlier, attempts = earlier ++ [latest] :=
    (List.getLast?_eq_some_iff.1 hlast)
  rw [contiguous, map_append, length_append, length_singleton,
    range'_concat] at hordinals
  have hsingle := (append_inj' hordinals rfl).2
  rw [map_singleton, singleton_inj] at hsingle
  rw [hsingle, length_append, length_singleton]
  omega

theorem validateAttemptChain_eq_ok (h : validateAttemptChain prior = .ok attempts) :
    attempts = orderedAttempts prior ∧ prior ≠ [] ∧ contiguous attempts ∧
      oneTrial prior ∧ ∀ a ∈ attempts.dropLast, a.state.terminal = true := by
  obtain ⟨_, hne, h⟩ := bind_eq_ok.1 h
  obtain ⟨_, hordinals, h⟩ := bind_eq_ok.1 h
  obtain ⟨_, htrial, h⟩ := bind_eq_ok.1 h
  obtain ⟨_, hterminal, h⟩ := bind_eq_ok.1 h
  obtain rfl := Except.ok.inj h
  have htrial : oneTrial (orderedAttempts prior) := ensure_eq_ok.1 htrial
  have hperm : (orderedAttempts prior).Perm prior := perm_sortBy _ _
  rw [oneTrial, ((hperm.map RunAttempt.trialId).dedup).length_eq] at htrial
  exact ⟨rfl, ensure_eq_ok.1 hne, ensure_eq_ok.1 hordinals, htrial, ensure_eq_ok.1 hterminal⟩

/-- **Everything one plan can say** about a chain. -/
theorem planAttemptRecovery_cases (h : validateAttemptChain prior = .ok attempts)
    (hplan : planAttemptRecovery prior reason observedAt policy = .ok plan) :
    ∃ latest, attempts.getLast? = some latest ∧ latest.updatedAt ≤ observedAt ∧
      latest.state.terminal = true ∧ plan.trialId = latest.trialId ∧
      plan.priorAttemptId = latest.attemptId ∧ plan.reason = reason ∧
      (plan.disposition ≠ .retry ∨
        latest.state = .failed ∧ attempts.length < policy.maxAttempts ∧
          ∃ retryAt, plan = retryPlan reason latest retryAt ∧
            retryAt.val = observedAt.val + min (policy.initialBackoff *
              2 ^ (attempts.length + 1 - 2)) policy.maxBackoff) := by
  obtain ⟨-, -, hordinals, -, -⟩ := validateAttemptChain_eq_ok h
  rw [planAttemptRecovery, h, ok_bind] at hplan
  cases hlast : attempts.getLast? with
  | none =>
    rw [hlast] at hplan
    cases hplan
  | some latest =>
    rw [hlast] at hplan
    dsimp only at hplan
    obtain ⟨_, htime, hplan⟩ := bind_eq_ok.1 hplan
    obtain ⟨_, hterminal, hplan⟩ := bind_eq_ok.1 hplan
    have hterminal := ensure_eq_ok.1 hterminal
    refine ⟨latest, rfl, ensure_eq_ok.1 htime, hterminal, ?_⟩
    by_cases hsucceeded : latest.state = .succeeded
    · rw [if_pos hsucceeded] at hplan
      cases hplan
      exact ⟨rfl, rfl, rfl, .inl (by decide : RecoveryDisposition.noop ≠ .retry)⟩
    rw [if_neg hsucceeded] at hplan
    by_cases hreason : reason ∉ policy.retryableReasons
    · rw [if_pos hreason] at hplan
      cases hplan
      exact ⟨rfl, rfl, rfl, .inl (by decide : RecoveryDisposition.terminal ≠ .retry)⟩
    rw [if_neg hreason] at hplan
    by_cases hcancelled : latest.state = .cancelled
    · rw [if_pos hcancelled] at hplan
      cases hplan
      exact ⟨rfl, rfl, rfl, .inl (by decide : RecoveryDisposition.terminal ≠ .retry)⟩
    rw [if_neg hcancelled] at hplan
    by_cases hmax : policy.maxAttempts ≤ attempts.length
    · rw [if_pos hmax] at hplan
      cases hplan
      exact ⟨rfl, rfl, rfl, .inl (by decide : RecoveryDisposition.terminal ≠ .retry)⟩
    rw [if_neg hmax] at hplan
    obtain ⟨delay, hdelay, hplan⟩ := bind_eq_ok.1 hplan
    obtain ⟨retryAt, hretry, hplan⟩ := bind_eq_ok.1 hplan
    cases hplan
    refine ⟨rfl, rfl, rfl, .inr ⟨?_, not_le.1 hmax, retryAt, rfl, ?_⟩⟩
    · cases hstate : latest.state with
      | failed => rfl
      | succeeded => exact absurd hstate hsucceeded
      | cancelled => exact absurd hstate hcancelled
      | queued | running => rw [hstate] at hterminal; cases hterminal
    · rw [addDelay_eq_ok hretry, backoffFor_eq hdelay, ordinal_getLast hordinals hlast]

theorem planAttemptRecovery_error (h : validateAttemptChain prior = .ok attempts)
    (hlast : attempts.getLast? = some latest) (htime : latest.updatedAt ≤ observedAt)
    (hterminal : latest.state.terminal = true) {e : PyError}
    (hplan : planAttemptRecovery prior reason observedAt policy = .error e) :
    e.kind = .overflowError := by
  rw [planAttemptRecovery, h, ok_bind, hlast] at hplan
  dsimp only at hplan
  rw [ensure_of htime, ok_bind, ensure_of hterminal, ok_bind] at hplan
  have hordinal := latest.ordinal_pos
  split_ifs at hplan
  any_goals cases hplan
  cases hdelay : policy.backoffFor (latest.ordinal + 1) with
  | error e' =>
    rw [hdelay, error_bind] at hplan
    cases hplan
    rw [RetryPolicy.backoffFor, ensure_of (by omega), ok_bind] at hdelay
    exact doubleDelay_error hdelay
  | ok delay =>
    rw [hdelay, ok_bind] at hplan
    unfold addDelay at hplan
    split_ifs at hplan
    · cases hplan
    · cases hplan
      rfl

/-- **A retry plan makes its attempt**: queued, next in the chain and at the planned time. -/
theorem materialize_of_plan (reason : RecoveryReason)
    (h : validateAttemptChain prior = .ok attempts) (hlast : attempts.getLast? = some latest) (hfailed : latest.state = .failed)
    (htime : latest.updatedAt ≤ t) (hblank : notBlank attemptId = true)
    (hnew : attemptId ∉ attempts.map RunAttempt.attemptId) :
    ∃ a, (retryPlan reason latest t).materializeRetryAttempt prior attemptId = .ok a ∧
      a.attemptId = attemptId ∧ a.trialId = latest.trialId ∧ a.ordinal = attempts.length + 1 ∧
      a.state = .queued ∧ a.createdAt = t ∧ a.updatedAt = t := by
  obtain ⟨hsorted, hne, hordinals, htrial, hterminal⟩ := validateAttemptChain_eq_ok h
  have hp : prior.Perm attempts := hsorted ▸ (perm_sortBy _ _).symm
  have hids : attemptId ∉ prior.map RunAttempt.attemptId := fun hmem =>
    hnew ((hp.map RunAttempt.attemptId).mem_iff.1 hmem)
  let next : RunAttempt :=
    { attemptId := attemptId
      trialId := latest.trialId
      ordinal := prior.length + 1
      state := .queued
      createdAt := t
      updatedAt := t
      attemptId_notBlank := hblank
      trialId_notBlank := latest.trialId_notBlank
      ordinal_pos := Nat.succ_pos _
      createdAt_le := le_rfl }
  have hcreate : createRetryAttempt prior attemptId t = .ok next := by
    rw [createRetryAttempt, ensure_of hne, ok_bind, ensure_of htrial, ok_bind, ← hsorted,
      ensure_of hordinals, ok_bind, hlast]
    dsimp only
    rw [ensure_of (.inl hfailed), ok_bind, ensure_of hterminal, ok_bind, ensure_of htime, ok_bind,
      ensure_of hids, ok_bind, dif_pos hblank]
    rfl
  have hmatch : next.trialId = (retryPlan reason latest t).trialId ∧
      some next.ordinal = (retryPlan reason latest t).nextOrdinal := by
    have hordinal : prior.length + 1 = latest.ordinal + 1 := by
      rw [ordinal_getLast hordinals hlast, hp.length_eq]
    exact ⟨rfl, congrArg some hordinal⟩
  refine ⟨next, ?_, rfl, rfl, congrArg (· + 1) hp.length_eq, rfl, rfl, rfl⟩
  have hretry : (retryPlan reason latest t).disposition = .retry := rfl
  have hat : (retryPlan reason latest t).retryAt = some t := rfl
  rw [RecoveryPlan.materializeRetryAttempt, ensure_of hretry, ok_bind, hat]
  dsimp only
  rw [hcreate, ok_bind, ensure_of hmatch, ok_bind]
  rfl

end

end ChartingPlatform
