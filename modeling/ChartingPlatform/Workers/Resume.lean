/-
  Resuming a recovery after a crash between its writes.
-/
import ChartingPlatform.Workers.Closing

namespace ChartingPlatform

open Lib List

/-! ## Next attempts -/

section
variable {sha256 : String → Digest} {attempts : List RunAttempt} {latest a b : RunAttempt}
  {admissions : ExecutionAdmissionLedger} {s t : LeaseObservationState} {p q : WorkerPoolState}
  {ledger : WorkerRecoveryLedger} {reason : RecoveryReason} {observedAt : Instant}
  {policy : RetryPolicy} {nextAttemptId id : Option String} {plan : RecoveryPlan}
  {next : Option RunAttempt} {r r' : WorkerReservation} {res : WorkerRecoveryResolution}
  {x : WorkerRecoveryRecord} {fingerprint : Digest} {o : LeaseObservation} {attemptId : String}
  {l m : ExecutionAttemptLease} {p' : WorkerPoolState} {s' : LeaseObservationState}
  {plan' : RecoveryPlan} {admissions' : ExecutionAdmissionLedger}

structure Scheduled (plan : RecoveryPlan) (a : RunAttempt) : Prop where
  trialId : a.trialId = plan.trialId
  ordinal : some a.ordinal = plan.nextOrdinal
  createdAt : plan.retryAt = some a.createdAt
  updatedAt : a.updatedAt = a.createdAt
  state : a.state = .queued

theorem Scheduled.eq (ha : Scheduled plan a) (hb : Scheduled plan b)
    (h : a.attemptId = b.attemptId) : a = b := by
  have htrial : a.trialId = b.trialId := ha.trialId.trans hb.trialId.symm
  have hordinal : a.ordinal = b.ordinal := Option.some.inj (ha.ordinal.trans hb.ordinal.symm)
  have hcreated : a.createdAt = b.createdAt := Option.some.inj (ha.createdAt.symm.trans hb.createdAt)
  have hupdated : a.updatedAt = b.updatedAt :=
    ha.updatedAt.trans (hcreated.trans hb.updatedAt.symm)
  have hstate : a.state = b.state := ha.state.trans hb.state.symm
  cases a
  cases b
  dsimp only at h htrial hordinal hcreated hupdated hstate
  subst h htrial hordinal hcreated hupdated hstate
  rfl

theorem materializeRetryAttempt_eq_ok
    (h : plan.materializeRetryAttempt attempts attemptId = .ok a) :
    a.attemptId = attemptId ∧ Scheduled plan a := by
  obtain ⟨_, -, h⟩ := bind_eq_ok.1 h
  cases hat : plan.retryAt with
  | none =>
    rw [hat] at h
    cases h
  | some retryAt =>
    rw [hat] at h
    obtain ⟨attempt, hattempt, h⟩ := bind_eq_ok.1 h
    obtain ⟨_, hmatch, h⟩ := bind_eq_ok.1 h
    obtain rfl := Except.ok.inj h
    obtain ⟨htrial, hordinal⟩ := ensure_eq_ok.1 hmatch
    obtain ⟨_, -, hattempt⟩ := bind_eq_ok.1 hattempt
    obtain ⟨_, -, hattempt⟩ := bind_eq_ok.1 hattempt
    obtain ⟨_, -, hattempt⟩ := bind_eq_ok.1 hattempt
    split at hattempt
    · cases hattempt
    · obtain ⟨_, -, hattempt⟩ := bind_eq_ok.1 hattempt
      obtain ⟨_, -, hattempt⟩ := bind_eq_ok.1 hattempt
      obtain ⟨_, -, hattempt⟩ := bind_eq_ok.1 hattempt
      obtain ⟨_, -, hattempt⟩ := bind_eq_ok.1 hattempt
      split_ifs at hattempt
      obtain rfl := Except.ok.inj hattempt
      exact ⟨rfl, htrial, hordinal, hat, rfl, rfl⟩

theorem plannedAttempt_eq_some (h : plannedAttempt plan attempts id = .ok (some a)) :
    id = some a.attemptId ∧ Scheduled plan a := by
  cases id with
  | none => cases h
  | some attemptId =>
    obtain ⟨b, hb, hab⟩ := map_eq_ok.1 h
    obtain rfl := Option.some.inj hab
    obtain ⟨hid, hscheduled⟩ := materializeRetryAttempt_eq_ok hb
    exact ⟨congrArg some hid.symm, hscheduled⟩

theorem plannedAttempt_again (h : plannedAttempt plan attempts id = .ok next) :
    plannedAttempt plan attempts (next.map RunAttempt.attemptId) = .ok next := by
  cases next with
  | none => rfl
  | some a =>
    obtain ⟨rfl, -⟩ := plannedAttempt_eq_some h
    exact h

/-! ## Resuming -/

theorem releaseObservation_same (h : l.Same m)
    {observationId : Digest} {sequence : ℕ} {hpos hpos' : 0 < sequence} {time : Instant} :
    releaseObservation m observationId sequence hpos time =
      releaseObservation l observationId sequence hpos' time := by
  unfold releaseObservation
  simp only [h.leaseId, h.workerId, h.attemptId]

theorem observation_recoveryRecord (h : l.Same m) {sequence : ℕ}
    {hpos : 0 < sequence}
    (ho : o = recoveryReleaseObservation sha256 l fingerprint observedAt sequence hpos) :
    (recoveryRecord sha256 latest plan reason next r fingerprint o observedAt).observation sha256 m =
      o := by
  subst ho
  unfold WorkerRecoveryRecord.observation recoveryReleaseObservation
  rw [h.leaseId]
  exact releaseObservation_same h

theorem persisted_iff : x.persisted sha256 s = true ↔
    ∃ o ∈ s.appliedObservations, o.fingerprint sha256 = x.leaseObservationFingerprint := by
  simp [WorkerRecoveryRecord.persisted]

def PartialStates (p q : WorkerPoolState) (s t : LeaseObservationState) (p' : WorkerPoolState)
    (s' : LeaseObservationState) : Prop :=
  (p' = p ∧ s' = s) ∨ (p' = p ∧ s' = t) ∨ p' = q ∧ s' = t

theorem RecoveredSlot.resume
    (h : RecoveredSlot sha256 p ledger s latest plan reason next r r' fingerprint observedAt o res)
    (hstates : PartialStates p res.pool s res.leaseState p' s') :
    ∃ v ∈ p'.reservations, v.reservationId = r.reservationId ∧ v.attemptId = r.attemptId ∧
      resumeRecovery sha256 p' s' v
        (recoveryRecord sha256 latest plan reason next r fingerprint o observedAt) =
        .ok (.inr (res.pool, res.leaseState)) := by
  have hactive : r.active = true := by
    rw [WorkerReservation.active, h.closed.released.active]
    rfl
  have ho : o ∈ res.leaseState.appliedObservations := by
    rw [h.closed.observed.applied]
    exact mem_append_right _ (mem_singleton_self o)
  have hpersisted : (recoveryRecord sha256 latest plan reason next r fingerprint o
      observedAt).persisted sha256 res.leaseState = true :=
    persisted_iff.2 ⟨o, ho, by rw [recoveryRecord]⟩
  obtain ⟨hpos, hobservation⟩ := h.observation
  obtain ⟨a, ha, hadecision, hastate⟩ := h.applied
  rcases hstates with ⟨rfl, rfl⟩ | ⟨rfl, rfl⟩ | ⟨rfl, rfl⟩
  · refine ⟨r, h.closed.released.mem, rfl, rfl, ?_⟩
    have hseq : s'.lastSequence + 1 = o.sequence := h.closed.observed.sequence.symm
    unfold resumeRecovery
    rw [if_pos hactive, if_neg (fun hne => hne.2 hseq),
      observation_recoveryRecord (.refl _) hobservation, ha, ok_bind,
      if_neg (fun hne => hne.1 hadecision)]
    simp only [recoveryRecord, h.release, hastate]
    rfl
  · refine ⟨r, h.closed.released.mem, rfl, rfl, ?_⟩
    obtain ⟨b, hb, hbdecision, hbstate⟩ := @applyLeaseObservation_replay sha256 _ _ ho
    unfold resumeRecovery
    rw [if_pos hactive, if_neg (fun hne => by rw [hpersisted] at hne; cases hne.1),
      observation_recoveryRecord h.closed.observed.same hobservation, hb, ok_bind,
      if_neg (fun hne => hne.2 hbdecision)]
    simp only [recoveryRecord, h.release, hbstate]
    rfl
  · have hreleased : r'.releasedAt = some observedAt := h.closed.released.releasedAt
    refine ⟨r', (h.closed.released.mem_iff r').2 (.inl rfl), h.closed.released.kept.reservationId,
      h.closed.released.kept.attemptId, ?_⟩
    have hinactive : ¬ r'.active = true := by
      rw [WorkerReservation.active, hreleased]
      exact Bool.false_ne_true
    have htime : ¬ r'.releasedAt ≠ some (recoveryRecord sha256 latest plan reason next r fingerprint
        o observedAt).releasedAt := not_not.2 hreleased
    unfold resumeRecovery
    rw [if_neg hinactive, if_neg htime, if_neg (by rw [hpersisted]; exact Bool.false_ne_true.symm)]

/-! ## What the fingerprints identify -/

theorem RecoveryReason.value_injective : Function.Injective RecoveryReason.value := by
  intro a b h
  cases a <;> cases b <;> first | rfl | exact absurd h (by decide)

theorem RecoveryDisposition.value_injective : Function.Injective RecoveryDisposition.value := by
  intro a b h
  cases a <;> cases b <;> first | rfl | exact absurd h (by decide)

theorem accepted_optionNat (n : Option ℕ) : Accepted (optionNat n) := by
  cases n
  · exact accepted_none
  · exact accepted_int _

@[simp] theorem same_optionNat_iff {m n : Option ℕ} :
    Same (optionNat m) (optionNat n) ↔ m = n := by
  constructor
  · intro h
    cases m <;> cases n <;> cases h <;> rfl
  · rintro rfl
    cases m
    · exact .none
    · exact .int

@[simp] theorem same_optionInstant_iff {u v : Option Instant} :
    Same (optionInstant u) (optionInstant v) ↔ u = v := by
  cases u with
  | none =>
    cases v with
    | none => exact ⟨fun _ => rfl, fun _ => .none⟩
    | some v => exact ⟨nofun, nofun⟩
  | some u =>
    cases v with
    | none => exact ⟨nofun, nofun⟩
    | some v => rw [Option.some.injEq]; exact same_utc_iff

theorem accepted_plan (plan : RecoveryPlan) : Accepted plan.toPy := by
  refine accepted_dataclass ?_
  simp [RecoveryDisposition.toPy, RecoveryReason.toPy, accepted_enum, accepted_optionNat,
    accepted_optionInstant]

theorem eq_of_same_plan (h : Same plan.toPy plan'.toPy) :
    plan = plan' := by
  have hf := h.fields
  simp only [visible, omitted, Field.isPrivate] at hf
  simp [RecoveryDisposition.toPy, RecoveryReason.toPy, RecoveryReason.value_injective.eq_iff,
    RecoveryDisposition.value_injective.eq_iff] at hf
  obtain ⟨h₁, h₂, h₃, h₄, h₅, h₆, h₇, h₈⟩ := hf
  cases plan
  cases plan'
  subst h₁ h₂ h₃ h₄ h₅ h₆ h₇ h₈
  rfl

theorem plan_of_fingerprint (hsha : Function.Injective sha256)
    (h : plan.fingerprint sha256 = plan'.fingerprint sha256) : plan = plan' :=
  eq_of_same_plan (same_of_digest hsha (accepted_plan plan) (accepted_plan plan') h)

theorem plan_of_recoveryFingerprint (hsha : Function.Injective sha256) {id' : Option String} {attemptId' : String} {reason' : RecoveryReason}
    {reservation reservation' : Digest}
    (h : recoveryFingerprint sha256 id plan attemptId reason reservation =
      recoveryFingerprint sha256 id' plan' attemptId' reason' reservation') :
    attemptId = attemptId' ∧ plan = plan' := by
  have hreason : ∀ r : RecoveryReason, Accepted r.toPy := fun r => accepted_enum _ (accepted_str _)
  have hrigid : ∀ r : RecoveryReason, Rigid r.toPy := by
    intro r w hw
    cases hw with
    | enum hw => cases hw; rfl
  have hperm := perm_of_digest_mapping hsha
    (by simp [rigid_str, rigid_optionText, hreason, hrigid]) (by simp [hreason]) h
  have hattempt := hperm.mem_iff (a := (PyKey.str "prior_attempt_id", PyValue.str attemptId))
  have hplan := hperm.mem_iff
    (a := (PyKey.str "plan_fingerprint", PyValue.str (plan.fingerprint sha256).text))
  simp at hattempt hplan
  exact ⟨hattempt, plan_of_fingerprint hsha (Digest.text_inj.1 hplan)⟩

/-! ## Calling again -/

theorem PlannedRecovery.resume {v : WorkerReservation}
    (h : PlannedRecovery attempts admissions s p reason observedAt policy nextAttemptId latest r
      plan next)
    (hadmissions : admissions.records ⊆ admissions'.records) (hlease : s.lease.Same s'.lease)
    (hprofile : p'.profile = p.profile) (hv : v ∈ p'.reservations)
    (hid : v.reservationId = r.reservationId) (hattempt : v.attemptId = r.attemptId) :
    PlannedRecovery attempts admissions' s' p' reason observedAt policy nextAttemptId latest v plan
      next where
  latest_eq := h.latest_eq
  admission := by
    obtain ⟨a, ha, haattempt, haworker, haid⟩ := h.admission
    exact ⟨a, hadmissions ha, haattempt, haworker.trans hlease.workerId.symm, hid.trans haid⟩
  lease := hlease.attemptId.trans h.lease
  pool := by rw [hlease.workerId, h.pool, hprofile]
  reservation := hv
  attemptId := hattempt.trans h.attemptId
  plan_eq := h.plan_eq
  identified := h.identified
  next_eq := h.next_eq

theorem PlannedRecovery.next_ne_none
    (h : PlannedRecovery attempts admissions s p reason observedAt policy nextAttemptId latest r
      plan next) (hretry : plan.disposition = .retry) : next ≠ none := by
  rintro rfl
  have hnext := h.next_eq
  rw [if_pos hretry] at hnext
  cases nextAttemptId with
  | none => exact h.identified ⟨hretry, rfl⟩
  | some id =>
    obtain ⟨a, -, ha⟩ := map_eq_ok.1 hnext
    cases ha

/-- **A recovery can be resumed** from every partial state. -/
theorem resume_recovery (h : resolveWorkerRecovery sha256 attempts admissions s p ledger reason
      observedAt policy nextAttemptId = .ok res)
    (hd : res.decision = .retryScheduled ∨ res.decision = .terminal ∨ res.decision = .noop)
    (hadmissions : admissions.records ⊆ admissions'.records) (hstates : PartialStates p res.pool s res.leaseState p' s') :
    ∃ res', resolveWorkerRecovery sha256 attempts admissions' s' p' res.ledger reason observedAt
        policy nextAttemptId = .ok res' ∧ res'.decision = .replayExisting ∧
      res'.plan = res.plan ∧ res'.nextAttempt = res.nextAttempt ∧ res'.pool = res.pool ∧
      res'.leaseState = res.leaseState ∧ res'.ledger = res.ledger := by
  have hnot : ∀ {q t l}, ¬ res.Unchanged q t l := by
    rintro q t l ⟨hc | hr, -⟩
    · rw [hc] at hd
      exact absurd hd (by decide)
    · rw [hr] at hd
      exact absurd hd (by decide)
  rcases resolveWorkerRecovery_cases h with
    hun | ⟨latest, r, plan, next, hplanned, ⟨x, hrepeated⟩ | ⟨r', o, hslot⟩⟩
  · exact absurd hun hnot
  · rw [hrepeated.decision] at hd
    exact absurd hd (by decide)
  · obtain ⟨v, hv, hid, hattempt, hresume⟩ := hslot.resume hstates
    have hlease : s.lease.Same s'.lease := by
      rcases hstates with ⟨-, rfl⟩ | ⟨-, rfl⟩ | ⟨-, rfl⟩
      · exact .refl _
      · exact hslot.closed.observed.same
      · exact hslot.closed.observed.same
    have hprofile : p'.profile = p.profile := by
      rcases hstates with ⟨rfl, -⟩ | ⟨rfl, -⟩ | ⟨rfl, -⟩
      · rfl
      · rfl
      · exact hslot.closed.released.profile
    have hagain := hplanned.resume hadmissions hlease hprofile hv hid hattempt
    have hrecord : res.ledger.receipt latest.attemptId = some (recoveryRecord sha256 latest plan
        reason next r (plannedFingerprint sha256 latest r plan reason next) o observedAt) :=
      receipt_eq_some.2 ⟨(hslot.ledger_iff _).2 (.inr rfl), rfl⟩
    have hfingerprint : plannedFingerprint sha256 latest v plan reason next =
        plannedFingerprint sha256 latest r plan reason next := by
      rw [plannedFingerprint, hid, plannedFingerprint]
    obtain ⟨hpos, hobservation⟩ := hslot.observation
    rw [resolveWorkerRecovery_of hagain]
    simp only [hrecord]
    unfold replayRecovery
    rw [if_neg (not_not.2 (by rw [hfingerprint, recoveryRecord])),
      observation_recoveryRecord hlease hobservation,
      if_neg (not_not.2 (by rw [recoveryRecord])), hresume, ok_bind]
    have hnext : plannedAttempt plan attempts (recoveryRecord sha256 latest plan reason next r
        (plannedFingerprint sha256 latest r plan reason next) o observedAt).nextAttemptId =
        .ok next := plannedAttempt_again hplanned.next_eq
    simp only [hnext, ok_bind, ensure_of hplanned.next_ne_none]
    exact ⟨_, rfl, rfl, hslot.plan_eq.symm, hslot.next_eq.symm, rfl, rfl, rfl⟩

/-! ## Runs of the ledger -/

/-- A recovery with its answer; the pool and the lease are whatever the caller found. -/
structure AnsweredRecovery where
  attempts : List RunAttempt
  admissions : ExecutionAdmissionLedger
  leaseState : LeaseObservationState
  pool : WorkerPoolState
  reason : RecoveryReason
  observedAt : Instant
  policy : RetryPolicy
  nextAttemptId : Option String
  result : WorkerRecoveryResolution

/-- The recovery is answered from `ledger`, and leads to `ledger'`. -/
def AnswersRecovery (sha256 : String → Digest) (ledger : WorkerRecoveryLedger)
    (c : AnsweredRecovery) (ledger' : WorkerRecoveryLedger) : Prop :=
  resolveWorkerRecovery sha256 c.attempts c.admissions c.leaseState c.pool ledger c.reason
      c.observedAt c.policy c.nextAttemptId = .ok c.result ∧ ledger' = c.result.ledger

/-- The recovery gave the attempt `attemptId` the next attempt `a`. -/
def AnsweredRecovery.Gives (c : AnsweredRecovery) (attemptId : String) (a : RunAttempt) : Prop :=
  (∃ latest, latestAttempt c.attempts = some latest ∧ latest.attemptId = attemptId) ∧
    c.result.nextAttempt = some a

/-- A receipt of the ledger binds the attempt to the next attempt `a`. -/
def NextBound (sha256 : String → Digest) (ledger : WorkerRecoveryLedger) (attemptId : String)
    (a : RunAttempt) : Prop :=
  ∃ x ∈ ledger.records, x.attemptId = attemptId ∧ x.nextAttemptId = some a.attemptId ∧
    ∃ id plan reason reservation, Scheduled plan a ∧
      x.recoveryFingerprint = recoveryFingerprint sha256 id plan attemptId reason reservation

theorem NextBound.eq (hsha : Function.Injective sha256)
    (ha : NextBound sha256 ledger attemptId a) (hb : NextBound sha256 ledger attemptId b) :
    a = b := by
  obtain ⟨x, hx, hxattempt, hxnext, _, _, _, _, hscheduled, hxfp⟩ := ha
  obtain ⟨y, hy, hyattempt, hynext, _, _, _, _, hscheduled', hyfp⟩ := hb
  obtain rfl : x = y := inj_on_of_nodup_map ledger.unique_attempts hx hy
    (hxattempt.trans hyattempt.symm)
  obtain ⟨-, rfl⟩ := plan_of_recoveryFingerprint hsha (hxfp.symm.trans hyfp)
  exact hscheduled.eq hscheduled' (Option.some.inj (hxnext.symm.trans hynext))

theorem answersRecovery_step {ledger' : WorkerRecoveryLedger} {c : AnsweredRecovery}
    (h : AnswersRecovery sha256 ledger c ledger') :
    ledger.records ⊆ ledger'.records ∧
      ∀ attemptId a, c.Gives attemptId a → NextBound sha256 ledger' attemptId a := by
  obtain ⟨h, rfl⟩ := h
  rcases resolveWorkerRecovery_cases h with
    ⟨-, -, -, hledger, hnone⟩ | ⟨latest, r, plan, next, hplanned, hanswer⟩
  · rw [hledger]
    refine ⟨List.Subset.refl _, fun attemptId a hgives => ?_⟩
    rw [hgives.2] at hnone
    cases hnone
  have hlatest : ∀ attemptId a, c.Gives attemptId a → latest.attemptId = attemptId := by
    rintro attemptId a ⟨⟨m, hm, hattempt⟩, -⟩
    rw [hplanned.latest_eq] at hm
    rw [Option.some.inj hm, hattempt]
  rcases hanswer with ⟨x, hrepeated⟩ | ⟨r', o, hslot⟩
  · rw [hrepeated.ledger_eq]
    refine ⟨List.Subset.refl _, fun attemptId a hgives => ?_⟩
    obtain rfl := hlatest attemptId a hgives
    have hnext := hrepeated.next_eq
    rw [hgives.2] at hnext
    obtain ⟨hid, hscheduled⟩ := plannedAttempt_eq_some hnext
    exact ⟨x, hrepeated.mem, hrepeated.attemptId, hid, _, plan, _, _, hscheduled,
      hrepeated.fingerprint_eq⟩
  · refine ⟨fun x hx => (hslot.ledger_iff x).2 (.inl hx), fun attemptId a hgives => ?_⟩
    obtain rfl := hlatest attemptId a hgives
    obtain rfl : next = some a := hslot.next_eq.symm.trans hgives.2
    obtain ⟨-, hscheduled⟩ := plannedAttempt_eq_some hplanned.next_eq
    exact ⟨_, (hslot.ledger_iff _).2 (.inr rfl), rfl, rfl, _, plan, _, _, hscheduled, rfl⟩

theorem nextBound_run {ledger₀ : WorkerRecoveryLedger} {cs : List AnsweredRecovery}
    (h : Run (AnswersRecovery sha256) ledger₀ cs ledger) :
    ∀ c ∈ cs, ∀ attemptId a, c.Gives attemptId a → NextBound sha256 ledger attemptId a := by
  induction h with
  | nil => exact fun c hc => absurd hc not_mem_nil
  | snoc _ hstep ih =>
    obtain ⟨hsub, hgives⟩ := answersRecovery_step hstep
    intro c hc attemptId a ha
    rcases mem_append.1 hc with hc | hc
    · obtain ⟨x, hx, hrest⟩ := ih c hc attemptId a ha
      exact ⟨x, hsub hx, hrest⟩
    · rw [mem_singleton] at hc
      exact hgives attemptId a (hc ▸ ha)

end

/-- **Recoveries can be resumed**, and an attempt never receives two next attempts. -/
theorem recovery_resumes {sha256 : String → Digest} (hsha : Function.Injective sha256) :
    (∀ attempts admissions s p ledger reason observedAt policy nextAttemptId res,
      resolveWorkerRecovery sha256 attempts admissions s p ledger reason observedAt policy
        nextAttemptId = .ok res →
      res.decision = .retryScheduled ∨ res.decision = .terminal ∨ res.decision = .noop →
      ∀ p' s', PartialStates p res.pool s res.leaseState p' s' →
        ∃ res', resolveWorkerRecovery sha256 attempts admissions s' p' res.ledger reason observedAt
            policy nextAttemptId = .ok res' ∧ res'.decision = .replayExisting ∧
          res'.plan = res.plan ∧ res'.nextAttempt = res.nextAttempt ∧ res'.pool = res.pool ∧
          res'.leaseState = res.leaseState ∧ res'.ledger = res.ledger) ∧
    ∀ ledger₀ cs ledger, Run (AnswersRecovery sha256) ledger₀ cs ledger →
      ∀ c ∈ cs, ∀ d ∈ cs, ∀ attemptId a b, c.Gives attemptId a → d.Gives attemptId b → a = b := by
  refine ⟨?_, fun ledger₀ cs ledger hrun c hc d hd attemptId a b ha hb => ?_⟩
  · intro attempts admissions s p ledger reason observedAt policy nextAttemptId res h hd p' s'
      hstates
    exact resume_recovery h hd (List.Subset.refl _) hstates
  · exact (nextBound_run hrun c hc attemptId a ha).eq hsha (nextBound_run hrun d hd attemptId b hb)

/-- `recovery_resumes` where the crash came between the lease and the pool. -/
theorem recovery_resumes_sample : ∃ admitted res res',
    resolveExecutionAdmission plainDigest (.empty _) sampleAuthorization
      ⟨⟨"request"⟩, "attempt-1", ⟨"source"⟩, ⟨"runtime"⟩, 1⟩ ⟨⟨"request"⟩, ⟨"runtime"⟩, true⟩
      (.empty sampleProfile) ⟨"reservation-1"⟩ 2 = .ok admitted ∧
    resolveWorkerRecovery plainDigest [crashedRun] admitted.ledger sampleLeaseState admitted.pool
      (.empty _) .workerCrash 5 .default (some "attempt-2") = .ok res ∧
    resolveWorkerRecovery plainDigest [crashedRun] admitted.ledger res.leaseState admitted.pool
      res.ledger .workerCrash 5 .default (some "attempt-2") = .ok res' ∧
    res.decision = .retryScheduled ∧ res'.decision = .replayExisting ∧
    res'.nextAttempt = res.nextAttempt ∧ res'.pool = res.pool := by
  obtain ⟨admitted, hadmitted, res, hres, hd⟩ : ∃ admitted, resolveExecutionAdmission plainDigest
      (.empty _) sampleAuthorization ⟨⟨"request"⟩, "attempt-1", ⟨"source"⟩, ⟨"runtime"⟩, 1⟩
      ⟨⟨"request"⟩, ⟨"runtime"⟩, true⟩ (.empty sampleProfile) ⟨"reservation-1"⟩ 2 = .ok admitted ∧
      ∃ res, resolveWorkerRecovery plainDigest [crashedRun] admitted.ledger sampleLeaseState
        admitted.pool (.empty _) .workerCrash 5 .default (some "attempt-2") = .ok res ∧
      res.decision = .retryScheduled := ⟨_, rfl, _, rfl, rfl⟩
  obtain ⟨hresumes, -⟩ := recovery_resumes plainDigest_injective
  obtain ⟨res', hres', hreplay, -, hnext, hpool, -⟩ :=
    hresumes _ _ _ _ _ _ _ _ _ res hres (.inl hd) _ _ (.inr (.inl ⟨rfl, rfl⟩))
  exact ⟨admitted, res, res', hadmitted, hres, hres', hd, hreplay, hnext, hpool⟩

end ChartingPlatform
