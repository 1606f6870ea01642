/-
  Retry chains along runs: a run moves the latest attempt, plans its recovery and makes the
  attempts of its retry plans, in any order.
-/
import ChartingPlatform.Attempts.Recovery
import ChartingPlatform.Lib.Runs

namespace ChartingPlatform

open Lib List

/-- The attempts of a trial, and the plans that were made, with their observation times. -/
structure RetryRun where
  attempts : List RunAttempt
  plans : List (RecoveryPlan × Instant) := []

inductive RetryCall where
  | transition (target : AttemptState) (now : Instant)
  | plan (prior : List RunAttempt) (reason : RecoveryReason) (observedAt : Instant)
  | materialize (plan : RecoveryPlan) (observedAt : Instant) (prior : List RunAttempt)
      (attemptId : String)

/-- One call that does not raise; the attempts may be passed in any order. -/
inductive RetryStep (policy : RetryPolicy) : RetryRun → RetryCall → RetryRun → Prop
  | transition {earlier : List RunAttempt} {latest a : RunAttempt}
      {plans : List (RecoveryPlan × Instant)} {target : AttemptState} {now : Instant} :
      transitionAttempt latest target now = .ok a →
      RetryStep policy ⟨earlier ++ [latest], plans⟩ (.transition target now)
        ⟨earlier ++ [a], plans⟩
  | plan {s : RetryRun} {prior : List RunAttempt} {reason : RecoveryReason}
      {observedAt : Instant} {plan : RecoveryPlan} :
      prior.Perm s.attempts → planAttemptRecovery prior reason observedAt policy = .ok plan →
      RetryStep policy s (.plan prior reason observedAt)
        { s with plans := (plan, observedAt) :: s.plans }
  | materialize {s : RetryRun} {plan : RecoveryPlan} {observedAt : Instant}
      {prior : List RunAttempt} {attemptId : String} {a : RunAttempt} :
      (plan, observedAt) ∈ s.plans → prior.Perm s.attempts →
      plan.materializeRetryAttempt prior attemptId = .ok a →
      RetryStep policy s (.materialize plan observedAt prior attemptId)
        { s with attempts := s.attempts ++ [a] }

/-- The delay before the `k`-th attempt. -/
def RetryPolicy.delay (policy : RetryPolicy) (k : ℕ) : ℕ :=
  min (policy.initialBackoff * 2 ^ (k - 2)) policy.maxBackoff

section
variable {policy : RetryPolicy} {s s' : RetryRun} {attempts earlier prior : List RunAttempt}
  {latest a b : RunAttempt} {plan : RecoveryPlan} {reason : RecoveryReason}
  {observedAt now : Instant} {target : AttemptState} {attemptId : String} {call : RetryCall}
  {calls : List RetryCall}

/-! ## Moving and extending a chain -/

theorem transitionAttempt_spec (h : transitionAttempt latest target now = .ok a) :
    latest.updatedAt ≤ now ∧ target ∈ latest.state.targets ∧ a.attemptId = latest.attemptId ∧
      a.trialId = latest.trialId ∧ a.ordinal = latest.ordinal ∧ a.state = target ∧
      a.createdAt = latest.createdAt ∧ a.updatedAt = now := by
  unfold transitionAttempt at h
  split_ifs at h with hnow
  obtain ⟨_, htarget, h⟩ := bind_eq_ok.1 h
  cases h
  exact ⟨hnow, ensure_eq_ok.1 htarget, rfl, rfl, rfl, rfl, rfl, rfl⟩

theorem not_terminal_of_transition (h : transitionAttempt latest target now = .ok a) :
    latest.state.terminal = false := by
  obtain ⟨-, htarget, -⟩ := transitionAttempt_spec h
  cases hstate : latest.state with
  | queued | running => rfl
  | succeeded | failed | cancelled => rw [hstate] at htarget; cases htarget

theorem AttemptChain.replaceLast (h : AttemptChain (earlier ++ [latest]))
    (hordinal : a.ordinal = latest.ordinal) (htrial : a.trialId = latest.trialId)
    (hcreated : a.createdAt = latest.createdAt) : AttemptChain (earlier ++ [a]) where
  nonempty := by simp
  ordinals := by
    have hordinals := h.ordinals
    rw [contiguous, map_append, map_singleton] at hordinals ⊢
    rw [hordinal, hordinals]
    simp
  trials := by
    have hlast : ∀ b ∈ earlier ++ [a], ∃ c ∈ earlier ++ [latest], b.trialId = c.trialId := by
      intro b hb
      rcases mem_append.1 hb with hb | hb
      · exact ⟨b, mem_append_left _ hb, rfl⟩
      · exact ⟨latest, by simp, mem_singleton.1 hb ▸ htrial⟩
    intro b hb c hc
    obtain ⟨b', hb', hbt⟩ := hlast b hb
    obtain ⟨c', hc', hct⟩ := hlast c hc
    rw [hbt, hct]
    exact h.trials b' hb' c' hc'
  failed := by
    have hfailed := h.failed
    rwa [dropLast_concat] at hfailed ⊢
  created := by
    have hcreated' := pairwise_append.1 h.created
    refine pairwise_append.2 ⟨hcreated'.1, pairwise_singleton _ _, ?_⟩
    intro b hb c hc
    rw [mem_singleton.1 hc, hcreated]
    exact hcreated'.2.2 b hb latest mem_cons_self

theorem AttemptChain.extend (h : AttemptChain attempts) (hlast : attempts.getLast? = some latest)
    (hfailed : latest.state = .failed) (hordinal : a.ordinal = attempts.length + 1)
    (htrial : a.trialId = latest.trialId) (hcreated : latest.updatedAt ≤ a.createdAt) :
    AttemptChain (attempts ++ [a]) where
  nonempty := by simp
  ordinals := by
    have hordinals := h.ordinals
    rw [contiguous] at hordinals
    rw [contiguous, map_append, map_singleton, hordinals, hordinal, length_append,
      length_singleton, range'_concat]
    rw [one_mul, Nat.add_comm 1]
  trials := by
    have hmem : latest ∈ attempts := mem_of_getLast? hlast
    have hall : ∀ b ∈ attempts ++ [a], b.trialId = latest.trialId := by
      intro b hb
      rcases mem_append.1 hb with hb | hb
      · exact h.trials b hb latest hmem
      · rw [mem_singleton.1 hb, htrial]
    exact fun b hb c hc => (hall b hb).trans (hall c hc).symm
  failed := by
    rw [dropLast_concat]
    obtain ⟨earlier, rfl⟩ := List.getLast?_eq_some_iff.1 hlast
    intro b hb
    rcases mem_append.1 hb with hb | hb
    · exact h.failed b (by rwa [dropLast_concat])
    · rw [mem_singleton.1 hb, hfailed]
  created := by
    refine pairwise_append.2 ⟨h.created, pairwise_singleton _ _, ?_⟩
    obtain ⟨earlier, rfl⟩ := List.getLast?_eq_some_iff.1 hlast
    have hpairs := (pairwise_append.1 h.created).2.2
    intro b hb c hc
    rw [mem_singleton.1 hc]
    refine le_trans ?_ (latest.createdAt_le.trans hcreated)
    rcases mem_append.1 hb with hb | hb
    · exact hpairs b hb latest mem_cons_self
    · rw [mem_singleton.1 hb]

/-! ## Plans that wait -/

/-- A retry plan of an attempt of the chain.  If that attempt is still the last one, it is
    over, and the plan is the one for it. -/
structure WaitingPlan (policy : RetryPolicy) (attempts : List RunAttempt) (plan : RecoveryPlan)
    (observedAt : Instant) : Prop where
  ordinal_le : plan.priorOrdinal ≤ attempts.length
  ordinal_lt : plan.priorOrdinal < policy.maxAttempts
  current : plan.priorOrdinal = attempts.length → ∃ latest retryAt,
    attempts.getLast? = some latest ∧ latest.state = .failed ∧ latest.updatedAt ≤ observedAt ∧
      plan = retryPlan plan.reason latest retryAt ∧
      retryAt.val = observedAt.val + policy.delay (attempts.length + 1)

structure RetryInvariant (policy : RetryPolicy) (s : RetryRun) : Prop where
  chain : AttemptChain s.attempts
  bounded : s.attempts.length ≤ policy.maxAttempts
  plans : ∀ plan observedAt, (plan, observedAt) ∈ s.plans → plan.disposition = .retry →
    WaitingPlan policy s.attempts plan observedAt

theorem RetryInvariant.first (hfirst : a.ordinal = 1) : RetryInvariant policy ⟨[a], []⟩ where
  chain :=
    { nonempty := cons_ne_nil _ _
      ordinals := by rw [contiguous, map_singleton, hfirst]; rfl
      trials := fun b hb c hc => by rw [mem_singleton.1 hb, mem_singleton.1 hc]
      failed := by simp
      created := pairwise_singleton _ _ }
  bounded := policy.maxAttempts_pos
  plans _ _ h := by cases h

theorem waitingPlan_of (h : AttemptChain attempts) (hp : prior.Perm attempts)
    (hplan : planAttemptRecovery prior reason observedAt policy = .ok plan)
    (hretry : plan.disposition = .retry) : WaitingPlan policy attempts plan observedAt := by
  obtain ⟨latest, hlast, htime, -, -, -, -, hcases⟩ := planAttemptRecovery_cases (h.validate hp) hplan
  obtain ⟨hfailed, hlt, retryAt, rfl, hat⟩ := hcases.resolve_left (not_not.2 hretry)
  have hordinal : latest.ordinal = attempts.length := ordinal_getLast h.ordinals hlast
  exact ⟨hordinal.le, hordinal.trans_lt hlt, fun _ => ⟨latest, retryAt, hlast, hfailed, htime, rfl, hat⟩⟩

theorem materialize_spec (h : RetryInvariant policy s) (hmem : (plan, observedAt) ∈ s.plans)
    (hp : prior.Perm s.attempts) (ha : plan.materializeRetryAttempt prior attemptId = .ok a) :
    plan.priorOrdinal = s.attempts.length ∧ ∃ latest, s.attempts.getLast? = some latest ∧
      latest.state = .failed ∧ latest.updatedAt ≤ a.createdAt ∧ a.trialId = latest.trialId ∧
      a.ordinal = s.attempts.length + 1 ∧ s.attempts.length < policy.maxAttempts ∧
      a.createdAt.val = observedAt.val + policy.delay a.ordinal := by
  obtain ⟨_, hretry, ha⟩ := bind_eq_ok.1 ha
  have hretry := ensure_eq_ok.1 hretry
  have hwaiting := h.plans plan observedAt hmem hretry
  cases hat : plan.retryAt with
  | none => rw [hat] at ha; cases ha
  | some retryAt =>
    rw [hat] at ha
    obtain ⟨b, hb, ha⟩ := bind_eq_ok.1 ha
    obtain ⟨_, hmatch, ha⟩ := bind_eq_ok.1 ha
    cases ha
    obtain ⟨htrial, hnext⟩ := ensure_eq_ok.1 hmatch
    -- the attempt takes the next place in the chain
    have hplace : a.ordinal = s.attempts.length + 1 ∧ a.createdAt = retryAt := by
      obtain ⟨_, -, hb⟩ := bind_eq_ok.1 hb
      obtain ⟨_, -, hb⟩ := bind_eq_ok.1 hb
      obtain ⟨_, -, hb⟩ := bind_eq_ok.1 hb
      rw [h.chain.ordered hp] at hb
      split at hb
      · cases hb
      · obtain ⟨_, -, hb⟩ := bind_eq_ok.1 hb
        obtain ⟨_, -, hb⟩ := bind_eq_ok.1 hb
        obtain ⟨_, -, hb⟩ := bind_eq_ok.1 hb
        obtain ⟨_, -, hb⟩ := bind_eq_ok.1 hb
        split_ifs at hb
        cases hb
        exact ⟨congrArg (· + 1) hp.length_eq, rfl⟩
    obtain ⟨hordinal, rfl⟩ := hplace
    have hprior : plan.priorOrdinal = s.attempts.length := by
      rw [(plan.retry_spec hretry).1, hordinal, Option.some_inj] at hnext
      omega
    obtain ⟨latest, retryAt, hlast, hfailed, htime, hplan, hdelay⟩ := hwaiting.current hprior
    have hsame : a.createdAt = retryAt := by
      rw [hplan] at hat
      exact (Option.some.inj hat).symm
    have hafter : observedAt ≤ a.createdAt := by
      rw [hsame, Fin.le_def, hdelay]
      exact Nat.le_add_right _ _
    have htrial' : a.trialId = latest.trialId := by
      rw [hplan] at htrial
      exact htrial
    refine ⟨hprior, latest, hlast, hfailed, htime.trans hafter, htrial', hordinal,
      hprior ▸ hwaiting.ordinal_lt, ?_⟩
    rw [hsame, hdelay, hordinal]

theorem RetryInvariant.step (h : RetryInvariant policy s) (hstep : RetryStep policy s call s') :
    RetryInvariant policy s' := by
  cases hstep with
  | @transition earlier latest a plans target now hmove =>
    obtain ⟨-, -, -, htrial, hordinal, -, hcreated, -⟩ := transitionAttempt_spec hmove
    have hlength : (earlier ++ [a]).length = (earlier ++ [latest]).length := by simp
    refine ⟨h.chain.replaceLast hordinal htrial hcreated, hlength ▸ h.bounded, ?_⟩
    intro plan observedAt hmem hretry
    obtain ⟨hle, hlt, hcurrent⟩ := h.plans plan observedAt hmem hretry
    refine ⟨hlength ▸ hle, hlt, fun heq => ?_⟩
    -- the attempt of a current plan is over, but this one moved
    obtain ⟨last, _, hlast, hfailed, -⟩ := hcurrent (heq.trans hlength)
    rw [getLast?_concat, Option.some_inj] at hlast
    subst hlast
    have hmoved := not_terminal_of_transition hmove
    rw [hfailed] at hmoved
    cases hmoved
  | @plan _ prior reason observedAt plan hp hplan =>
    refine ⟨h.chain, h.bounded, fun p o hmem hretry => ?_⟩
    rcases mem_cons.1 hmem with heq | hmem
    · cases heq
      exact waitingPlan_of h.chain hp hplan hretry
    · exact h.plans p o hmem hretry
  | @materialize _ plan observedAt prior attemptId a hmem hp ha =>
    obtain ⟨-, latest, hlast, hfailed, hcreated, htrial, hordinal, hlt, -⟩ :=
      materialize_spec h hmem hp ha
    have hlength : (s.attempts ++ [a]).length = s.attempts.length + 1 := by simp
    refine ⟨h.chain.extend hlast hfailed hordinal htrial hcreated, hlength ▸ hlt, ?_⟩
    intro p o hp hretry
    obtain ⟨hle, hmax, -⟩ := h.plans p o hp hretry
    refine ⟨hlength ▸ hle.trans (Nat.le_succ _), hmax, fun heq => ?_⟩
    rw [hlength] at heq
    omega

/-- **Retry chains are bounded and well formed.**  In every state of every run the chain is in
    order, of one trial, with only failed attempts before the last one and creation times that
    do not decrease; it has at most `max_attempts` attempts; a plan is refused only where a time
    does not fit; a retry plan makes its attempt; and each attempt is made the capped power of
    two after the observation of its plan. -/
theorem retry_chain_run {first : RunAttempt} (hfirst : first.ordinal = 1)
    (hrun : Run (RetryStep policy) ⟨[first], []⟩ calls s) :
    AttemptChain s.attempts ∧ s.attempts.length ≤ policy.maxAttempts ∧
      (∀ latest ∈ s.attempts.getLast?, latest.state.terminal = true →
        ∀ prior reason observedAt e, prior.Perm s.attempts → latest.updatedAt ≤ observedAt →
          planAttemptRecovery prior reason observedAt policy = .error e →
          e.kind = .overflowError) ∧
      (∀ prior prior' reason observedAt plan attemptId, prior.Perm s.attempts →
        prior'.Perm s.attempts → planAttemptRecovery prior reason observedAt policy = .ok plan →
        plan.disposition = .retry → notBlank attemptId = true →
        attemptId ∉ s.attempts.map RunAttempt.attemptId →
          ∃ a, plan.materializeRetryAttempt prior' attemptId = .ok a) ∧
      ∀ plan observedAt prior attemptId a, (plan, observedAt) ∈ s.plans →
        prior.Perm s.attempts → plan.materializeRetryAttempt prior attemptId = .ok a →
          a.ordinal = s.attempts.length + 1 ∧
            a.createdAt.val = observedAt.val +
              min (policy.initialBackoff * 2 ^ (a.ordinal - 2)) policy.maxBackoff := by
  have hinv : RetryInvariant policy s :=
    hrun.invariant (fun h hstep => RetryInvariant.step h hstep) (.first hfirst)
  refine ⟨hinv.chain, hinv.bounded, ?_, ?_, ?_⟩
  · intro latest hlast hterminal prior reason observedAt e hp htime hplan
    exact planAttemptRecovery_error (hinv.chain.validate hp) hlast htime hterminal hplan
  · intro prior prior' reason observedAt plan attemptId hp hp' hplan hretry hblank hnew
    have hwaiting := waitingPlan_of hinv.chain hp hplan hretry
    obtain ⟨latest, hlast, htime, -, -, -, -, hcases⟩ :=
      planAttemptRecovery_cases (hinv.chain.validate hp) hplan
    obtain ⟨hfailed, -, retryAt, rfl, hat⟩ := hcases.resolve_left (not_not.2 hretry)
    have hafter : observedAt ≤ retryAt := by
      rw [Fin.le_def, hat]
      exact Nat.le_add_right _ _
    obtain ⟨a, ha, -⟩ := materialize_of_plan reason (hinv.chain.validate hp') hlast hfailed
      (htime.trans hafter) hblank hnew
    exact ⟨a, ha⟩
  · intro plan observedAt prior attemptId a hmem hp ha
    obtain ⟨-, -, -, -, -, -, hordinal, -, hdelay⟩ := materialize_spec hinv hmem hp ha
    exact ⟨hordinal, hdelay⟩

def crashedAttempt : RunAttempt where
  attemptId := "attempt-1"
  trialId := "trial-1"
  ordinal := 1
  state := .failed
  createdAt := 3
  updatedAt := 7
  attemptId_notBlank := Eq.refl true
  trialId_notBlank := Eq.refl true
  ordinal_pos := Nat.one_pos
  createdAt_le := by decide

theorem retry_chain_crashed : ∃ plan a,
    planAttemptRecovery [crashedAttempt] .workerCrash 10 .default = .ok plan ∧
      plan.materializeRetryAttempt [crashedAttempt] "attempt-2" = .ok a ∧
      a.createdAt.val = 10 + min (5000000 * 2 ^ (a.ordinal - 2)) 300000000 := by
  obtain ⟨plan, hplan⟩ : ∃ plan, planAttemptRecovery [crashedAttempt] .workerCrash 10 .default =
      .ok plan := ⟨_, rfl⟩
  have hstep : RetryStep .default ⟨[crashedAttempt], []⟩
      (.plan [crashedAttempt] .workerCrash 10) ⟨[crashedAttempt], [(plan, 10)]⟩ :=
    .plan (List.Perm.refl _) hplan
  have hretry : plan.disposition = .retry := by
    cases hplan
    rfl
  obtain ⟨-, -, -, hmakes, hdelay⟩ := retry_chain_run rfl (Run.cons hstep Run.nil)
  have hid : "attempt-2" ∉ [crashedAttempt].map RunAttempt.attemptId := by decide
  obtain ⟨a, ha⟩ := hmakes _ _ _ _ plan "attempt-2" (List.Perm.refl _) (List.Perm.refl _) hplan
    hretry (by decide) hid
  exact ⟨plan, a, hplan, ha, (hdelay plan 10 _ _ a mem_cons_self (List.Perm.refl _) ha).2⟩

end

end ChartingPlatform
