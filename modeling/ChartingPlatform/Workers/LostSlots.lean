/-
  Slots that recoveries get back: an attempt that is over and holds its slot is released by
  a recovery, unless its lease was released on its own.
-/
import ChartingPlatform.Workers.Resume

namespace ChartingPlatform

open Lib List Function

/-! ## Held slots -/

/-- The attempt `latest`, the last one of the chain `prior`, is over; it holds the slot `r` of the
    pool `p` and the lease of `s`. -/
structure HeldSlot (w : WorkerWorld) (prior : List RunAttempt) (latest : RunAttempt)
    (p : WorkerPoolState) (r : WorkerReservation) (s : LeaseObservationState) : Prop where
  chain : ∃ ordered, validateAttemptChain prior = .ok ordered ∧ ordered.getLast? = some latest
  terminal : latest.state.terminal = true
  pool : w.pools p.profile.workerId = some p
  reservation : r ∈ p.reservations
  attemptId : r.attemptId = latest.attemptId
  active : r.releasedAt = none
  lease : w.Leases s
  leaseAttempt : s.lease.attemptId = latest.attemptId
  leaseWorker : s.lease.workerId = p.profile.workerId

/-- The recovery observed at `t` releases the slot `r`. -/
def ReleasesSlot (sha256 : String → Digest) (w : WorkerWorld) (prior : List RunAttempt)
    (p : WorkerPoolState) (r : WorkerReservation) (s : LeaseObservationState)
    (reason : RecoveryReason) (t : Instant) (policy : RetryPolicy) (id : String) : Prop :=
  ∃ res, resolveWorkerRecovery sha256 prior w.admissions s p w.recoveries reason t policy
      (some id) = .ok res ∧
    (res.decision = .retryScheduled ∨ res.decision = .terminal ∨ res.decision = .noop) ∧
    ∃ r' ∈ res.pool.reservations, r'.reservationId = r.reservationId ∧ r'.releasedAt = some t

/-- Every recovery from `T` on releases the slot, except where the time of the retry is out of
    range. -/
def ReleasedFrom (sha256 : String → Digest) (w : WorkerWorld) (prior : List RunAttempt)
    (p : WorkerPoolState) (r : WorkerReservation) (s : LeaseObservationState) (T : Instant) :
    Prop :=
  ∀ t, T ≤ t → ∀ reason, reason ≠ .leaseExpired → ∀ policy id, notBlank id = true →
    id ∉ prior.map RunAttempt.attemptId →
      ReleasesSlot sha256 w prior p r s reason t policy id ∨
        ∃ e, planAttemptRecovery prior reason t policy = .error e ∧ e.kind = .overflowError

/-- The lease is not released, and no heartbeat took the id of a recovery's release. -/
def OpenLease (sha256 : String → Digest) (s : LeaseObservationState) : Prop :=
  s.lease.releasedAt = none ∧
    ∀ fingerprint, recoveryObservationId sha256 s.lease.leaseId fingerprint ∉ s.ids

/-- An observation that is applied to the open lease `leaseId` is a heartbeat, and its id is not
    that of a recovery's release. -/
def LeavesOpen (sha256 : String → Digest) (leaseId : String) (w : WorkerWorld) : WorkerCall → Prop
  | .observe id o => id = leaseId → ∀ s res, w.leases leaseId = some s →
      s.lease.releasedAt = none → applyLeaseObservation sha256 s o = .ok res →
      res.decision = .apply → o.kind = .heartbeat ∧
        ∀ fingerprint, o.observationId ≠ recoveryObservationId sha256 leaseId fingerprint
  | _ => True

section
variable {sha256 : String → Digest} {w w' w₀ : WorkerWorld} {prior ordered : List RunAttempt}
  {latest : RunAttempt} {p : WorkerPoolState} {r x y : WorkerReservation}
  {s : LeaseObservationState} {reason : RecoveryReason} {t : Instant} {policy : RetryPolicy}
  {plan : RecoveryPlan} {next : Option RunAttempt} {fingerprint : Digest} {id : String}
  {ledger : WorkerRecoveryLedger} {call : WorkerCall} {calls : List WorkerCall} {leaseId : String}

/-! ## Planning -/

theorem latestAttempt_of (h : validateAttemptChain prior = .ok ordered)
    (hlast : ordered.getLast? = some latest) : latestAttempt prior = some latest := by
  obtain ⟨hsorted, -, hordinals, -, -⟩ := validateAttemptChain_eq_ok h
  have hperm : prior.Perm ordered := hsorted ▸ (perm_sortBy _ _).symm
  have hnodup : (ordered.map RunAttempt.ordinal).Nodup := by
    rw [hordinals]
    exact nodup_range'
  have hmem : latest ∈ ordered := mem_of_getLast? hlast
  have hmax : ∀ a ∈ prior, a.ordinal ≤ latest.ordinal := by
    intro a ha
    have hrange : a.ordinal ∈ ordered.map RunAttempt.ordinal :=
      mem_map_of_mem (hperm.mem_iff.1 ha)
    rw [hordinals, List.mem_range'_1] at hrange
    rw [ordinal_getLast hordinals hlast]
    omega
  rw [latestAttempt, argmax_eq_some_iff]
  refine ⟨hperm.mem_iff.2 hmem, hmax, fun a ha hle => ?_⟩
  obtain rfl : a = latest := inj_on_of_nodup_map hnodup (hperm.mem_iff.1 ha) hmem
    (le_antisymm (hmax a ha) hle)
  exact le_rfl

theorem plannedAttempt_of (h : validateAttemptChain prior = .ok ordered)
    (hlast : ordered.getLast? = some latest) (hplan : planAttemptRecovery prior reason t policy =
      .ok plan) (hblank : notBlank id = true) (hnew : id ∉ prior.map RunAttempt.attemptId) :
    ∃ next, plannedAttempt plan prior (if plan.disposition = .retry then some id else none) =
      .ok next := by
  obtain ⟨m, hm, htime, -, -, -, -, hcases⟩ := planAttemptRecovery_cases h hplan
  obtain rfl : latest = m := Option.some.inj (hlast.symm.trans hm)
  rcases hcases with hother | ⟨hfailed, -, retryAt, rfl, hat⟩
  · rw [if_neg hother]
    exact ⟨none, rfl⟩
  · have hperm : prior.Perm ordered :=
      (validateAttemptChain_eq_ok h).1 ▸ (perm_sortBy _ _).symm
    have hafter : latest.updatedAt ≤ retryAt := by
      refine htime.trans ?_
      rw [Fin.le_def, hat]
      exact Nat.le_add_right _ _
    obtain ⟨a, ha, -⟩ := materialize_of_plan reason h hlast hfailed hafter hblank
      (fun hmem => hnew ((hperm.map RunAttempt.attemptId).mem_iff.2 hmem))
    have hretry : (retryPlan reason latest retryAt).disposition = .retry := rfl
    rw [if_pos hretry, plannedAttempt, ha]
    exact ⟨some a, rfl⟩

/-- **A new recovery releases**: lease and slot are open, and the receipt is new. -/
theorem releaseRecoveredWorker_of (hreason : reason ≠ .leaseExpired) (hr : r ∈ p.reservations)
    (hactive : r.releasedAt = none) (hacquired : r.acquiredAt ≤ t)
    (hlease : s.lease.releasedAt = none) (hbeat : s.lease.heartbeatAt ≤ t)
    (hfresh : recoveryObservationId sha256 s.lease.leaseId fingerprint ∉ s.ids)
    (hfp : ∀ v ∈ ledger.records, v.recoveryFingerprint ≠ fingerprint)
    (hattempt : ∀ v ∈ ledger.records, v.attemptId ≠ latest.attemptId)
    (hid : ∀ v ∈ ledger.records, v.reservationId ≠ r.reservationId) :
    ∃ res, releaseRecoveredWorker sha256 p ledger s latest plan reason next r fingerprint t =
      .ok res ∧ res.decision = plan.disposition.decision := by
  obtain ⟨o, ho⟩ : ∃ o, recoveryReleaseObservation sha256 s.lease fingerprint t
      (s.lastSequence + 1) (Nat.succ_pos _) = o := ⟨_, rfl⟩
  have hexpiry : expiryHolds reason s.lease t = .ok true := if_neg hreason
  have hheld : ¬ r.active = false := by
    rw [WorkerReservation.active, hactive]
    exact Bool.false_ne_true.symm
  obtain ⟨a, happly, hdecision⟩ : ∃ a, applyLeaseObservation sha256 s o = .ok a ∧
      a.decision = .apply := by
    subst ho
    exact applyLeaseObservation_release ⟨rfl, rfl, rfl⟩ rfl rfl hfresh hlease hbeat
  obtain ⟨q, hq⟩ := releaseWorkerSlot_of hr hactive hacquired
  obtain ⟨next', hnext⟩ : ∃ l, makeWorkerRecoveryLedger (ledger.records ++
      [recoveryRecord sha256 latest plan reason next r fingerprint o t]) = .ok l :=
    makeReceiptLedger_of hfp hattempt hid
  unfold releaseRecoveredWorker
  rw [hexpiry, ok_bind, if_neg Bool.false_ne_true.symm, if_neg hheld]
  dsimp only
  rw [ho, happly, ok_bind, if_neg (not_not.2 hdecision), hq, ok_bind, hnext, ok_bind]
  exact ⟨_, rfl, rfl⟩

/-! ## Receipts of a world -/

theorem WorldInvariant.unique_id (hi : WorldInvariant sha256 w) (hx : w.Reserves x)
    (hy : w.Reserves y) (h : x.reservationId = y.reservationId) : x = y := by
  obtain ⟨a, ha, haattempt, haid, -⟩ := hi.admitted hx
  obtain ⟨b, hb, hbattempt, hbid, -⟩ := hi.admitted hy
  obtain rfl : a = b := inj_on_of_nodup_map w.admissions.unique_reservations ha hb
    (haid.trans (h.trans hbid.symm))
  exact hi.unique hx hy (haattempt.symm.trans hbattempt)

/-- The fingerprints of the receipts name their attempts. -/
def RecoveriesNamed (sha256 : String → Digest) (ledger : WorkerRecoveryLedger) : Prop :=
  ∀ v ∈ ledger.records, ∃ id plan reason reservation,
    v.recoveryFingerprint = recoveryFingerprint sha256 id plan v.attemptId reason reservation

theorem recoveriesNamed_step (h : RecoveriesNamed sha256 w.recoveries)
    (hstep : WorkerStep sha256 w call w') : RecoveriesNamed sha256 w'.recoveries := by
  cases hstep with
  | admit_ | observe | settle => exact h
  | @recover _ _ _ _ _ _ _ _ _ res _ _ hres =>
    rcases resolveWorkerRecovery_cases hres with
      ⟨-, -, -, hledger, -⟩ | ⟨latest, r, plan, next, hplanned, ⟨v, hv⟩ | ⟨r', o, hv⟩⟩
    · exact hledger ▸ h
    · exact hv.ledger_eq ▸ h
    · intro v hmem
      rcases (hv.ledger_iff v).1 hmem with hmem | rfl
      · exact h v hmem
      · exact ⟨_, plan, _, _, rfl⟩

/-! ## Open leases -/

/-- The lease `leaseId` is open, or a settlement or a recovery closed it. -/
def LeaseStaysOpen (sha256 : String → Digest) (leaseId : String) (w : WorkerWorld) : Prop :=
  ∀ s, w.Leases s → s.lease.leaseId = leaseId →
    OpenLease sha256 s ∨ ∃ c, w.Closing c ∧ c.attemptId = s.lease.attemptId

theorem OpenLease.heartbeat {u : LeaseObservationState} {o : LeaseObservation}
    (h : OpenLease sha256 s) (hobserved : ObservedLease s o u) (hkind : o.kind = .heartbeat)
    (hid : ∀ fingerprint, o.observationId ≠
      recoveryObservationId sha256 s.lease.leaseId fingerprint) : OpenLease sha256 u := by
  refine ⟨(hobserved.heartbeat hkind).trans h.1, fun fingerprint hmem => ?_⟩
  rw [hobserved.same.leaseId, LeaseObservationState.ids, hobserved.applied, map_append,
    mem_append, map_singleton, mem_singleton] at hmem
  rcases hmem with hmem | hmem
  · exact h.2 fingerprint hmem
  · exact hid fingerprint hmem.symm

theorem ObservedLease.applied_of_step {o : LeaseObservation} {u : LeaseObservationState}
    (hobserved : ObservedLease s o u) (hs : w.Leases s) (hu : w'.Leases u)
    (hstep : WorkerStep sha256 w (.observe s.lease.leaseId o) w') :
    ∃ res, applyLeaseObservation sha256 s o = .ok res ∧ res.decision = .apply := by
  cases hstep with
  | @observe _ _ s' res hs' happly =>
    obtain rfl : s = s' := Option.some.inj (hs.symm.trans hs')
    refine ⟨res, happly, ?_⟩
    rcases applyLeaseObservation_cases happly with ⟨-, hstate⟩ | ⟨hdecision, -⟩
    · have hsame : some u = some res.state := by
        rw [← show _ = some u from hu, hobserved.same.leaseId]
        exact update_self s.lease.leaseId (some res.state) w.leases
      have happlied := hobserved.applied
      rw [Option.some.inj hsame, hstate, self_eq_append_right] at happlied
      exact absurd happlied (cons_ne_nil o [])
    · exact hdecision

/-- **What every step preserves** where the observations that are applied leave the lease open. -/
theorem LeaseStaysOpen.step (hi : WorldInvariant sha256 w) (h : LeaseStaysOpen sha256 leaseId w)
    (hcall : LeavesOpen sha256 leaseId w call) (hstep : WorkerStep sha256 w call w') :
    LeaseStaysOpen sha256 leaseId w' := by
  intro u hu hid
  cases hw : workerStep_move hi hstep with
  | same | admitted => exact h u hu hid
  | @observed s o t hs hobserved =>
    rcases (leases_update hobserved.same rfl).1 hu with rfl | ⟨-, hu'⟩
    · obtain rfl : s.lease.leaseId = leaseId := hobserved.same.leaseId.symm.trans hid
      rcases h s hs rfl with hopen | ⟨c, hc, hattempt⟩
      · obtain ⟨res, happly, hdecision⟩ := hobserved.applied_of_step hs hu hstep
        obtain ⟨hkind, hfresh⟩ := hcall rfl s res hs hopen.1 happly hdecision
        exact .inl (hopen.heartbeat hobserved hkind hfresh)
      · exact .inr ⟨c, hc, hattempt.trans hobserved.same.attemptId.symm⟩
    · exact h u hu' hid
  | @closed _ p s r r' o time q t settlements recoveries hp hs hslot hclosing hrecorded =>
    rcases (leases_update hslot.observed.same rfl).1 hu with rfl | ⟨-, hu⟩
    · refine .inr ⟨_, (hclosing _).2 (.inr rfl), ?_⟩
      rw [hslot.observed.same.attemptId, hslot.attemptId]
      rfl
    · rcases h u hu hid with hopen | ⟨c, hc, hattempt⟩
      · exact .inl hopen
      · exact .inr ⟨c, (hclosing c).2 (.inl hc), hattempt⟩

/-- **What holds in every world whose observations leave the lease `leaseId` open.** -/
theorem leaseStaysOpen_run (hinit : w₀.Initial) (hopen : ∀ s, w₀.Leases s → OpenLease sha256 s)
    (h : Run (fun w call w' => WorkerStep sha256 w call w' ∧ LeavesOpen sha256 leaseId w call)
      w₀ calls w) :
    WorldInvariant sha256 w ∧ RecoveriesNamed sha256 w.recoveries ∧
      LeaseStaysOpen sha256 leaseId w := by
  refine h.invariant (P := fun w => WorldInvariant sha256 w ∧
    RecoveriesNamed sha256 w.recoveries ∧ LeaseStaysOpen sha256 leaseId w) ?_
    ⟨worldInvariant_initial hinit, fun v hv => ?_, fun s hs _ => .inl (hopen s hs)⟩
  · rintro u call v ⟨hi, hnamed, hlease⟩ ⟨hstep, hcall⟩
    exact ⟨hi.move (workerStep_move hi hstep), recoveriesNamed_step hnamed hstep,
      hlease.step hi hcall hstep⟩
  · rw [hinit.recoveries] at hv
    exact absurd hv not_mem_nil

/-! ## Releasing -/

theorem HeldSlot.released (hsha : Injective sha256) (hi : WorldInvariant sha256 w)
    (hnamed : RecoveriesNamed sha256 w.recoveries) (hopen : OpenLease sha256 s)
    (h : HeldSlot w prior latest p r s) :
    ReleasedFrom sha256 w prior p r s
      (max s.lease.heartbeatAt (max r.acquiredAt latest.updatedAt)) := by
  intro t ht reason hreason policy id hblank hnew
  obtain ⟨hbeat, ht⟩ := max_le_iff.1 ht
  obtain ⟨hacquired, hupdated⟩ := max_le_iff.1 ht
  obtain ⟨ordered, hvalid, hlast⟩ := h.chain
  cases hplan : planAttemptRecovery prior reason t policy with
  | error e =>
    exact .inr ⟨e, rfl, planAttemptRecovery_error hvalid hlast hupdated h.terminal hplan⟩
  | ok plan =>
    refine .inl ?_
    obtain ⟨next, hnext⟩ := plannedAttempt_of hvalid hlast hplan hblank hnew
    have hreserves : w.Reserves r := ((mem_reservations_iff h.pool).1 h.reservation).1
    obtain ⟨a, ha, haattempt, haid, haworker⟩ := hi.admitted hreserves
    have hidentified : ¬ (plan.disposition = .retry ∧
        (some id).all (fun id => !notBlank id) = true) := by
      rintro ⟨-, hall⟩
      rw [Option.all_some, hblank] at hall
      cases hall
    have hworker : r.workerId = s.lease.workerId :=
      (p.matches_profile r h.reservation).1.trans h.leaseWorker.symm
    have hplanned : PlannedRecovery prior w.admissions s p reason t policy (some id) latest r plan
        next :=
      ⟨latestAttempt_of hvalid hlast, ⟨a, ha, haattempt.trans h.attemptId, haworker.trans hworker,
        haid.symm⟩, h.leaseAttempt, h.leaseWorker, h.reservation, h.attemptId, hplan, hidentified,
        hnext⟩
    -- no receipt of the ledger is about the slot
    have hattempt : ∀ v ∈ w.recoveries.records, v.attemptId ≠ latest.attemptId :=
      fun v hv heq => hi.no_closing hreserves h.active (.inr ⟨v, hv, rfl⟩)
        (heq.trans h.attemptId.symm)
    have hid : ∀ v ∈ w.recoveries.records, v.reservationId ≠ r.reservationId := by
      intro v hv heq
      obtain ⟨x, hx, hxattempt, hxid, -⟩ := (hi.closed (.inr ⟨v, hv, rfl⟩)).slot
      obtain rfl := hi.unique_id hx hreserves (hxid.trans heq)
      exact hattempt v hv (hxattempt.symm.trans h.attemptId)
    have hfp : ∀ v ∈ w.recoveries.records, v.recoveryFingerprint ≠
        plannedFingerprint sha256 latest r plan reason next := by
      intro v hv heq
      obtain ⟨_, _, _, _, hv'⟩ := hnamed v hv
      exact hattempt v hv (plan_of_recoveryFingerprint hsha (hv'.symm.trans heq)).1
    obtain ⟨res, hres, hdecision⟩ : ∃ res, releaseRecoveredWorker sha256 p w.recoveries s latest
        plan reason next r (plannedFingerprint sha256 latest r plan reason next) t = .ok res ∧
        res.decision = plan.disposition.decision := releaseRecoveredWorker_of hreason h.reservation h.active hacquired hopen.1 hbeat
      (hopen.2 (plannedFingerprint sha256 latest r plan reason next)) hfp hattempt hid
    have hanswer : plan.disposition.decision = .retryScheduled ∨
        plan.disposition.decision = .terminal ∨ plan.disposition.decision = .noop := by
      cases plan.disposition
      · exact .inl rfl
      · exact .inr (.inl rfl)
      · exact .inr (.inr rfl)
    refine ⟨res, ?_, hdecision ▸ hanswer, ?_⟩
    · have hreceipt : w.recoveries.receipt latest.attemptId = none := receipt_eq_none.2 hattempt
      rw [resolveWorkerRecovery_of hplanned]
      simp only [hreceipt]
      exact hres
    · rcases releaseRecoveredWorker_cases h.reservation (h.leaseAttempt.trans h.attemptId.symm)
        h.leaseWorker hres with ⟨hd, -⟩ | ⟨r', o, hslot⟩
      · rw [hdecision] at hd
        cases hdisposition : plan.disposition <;> rw [hdisposition] at hd <;>
          rcases hd with hd | hd <;> cases hd
      · have hreleased := hslot.closed.released
        exact ⟨r', (hreleased.mem_iff r').2 (.inl rfl), hreleased.kept.reservationId,
          hreleased.releasedAt⟩

theorem not_releasesSlot (h : s.lease.releasedAt ≠ none) :
    ¬ ReleasesSlot sha256 w prior p r s reason t policy id := by
  rintro ⟨res, hres, hd, -⟩
  rcases resolveWorkerRecovery_cases hres with
    ⟨hun | hun, -⟩ | ⟨latest, r, plan, next, hplanned, ⟨v, hv⟩ | ⟨r', o, hv⟩⟩
  · rw [hun] at hd
    exact absurd hd (by decide)
  · rw [hun] at hd
    exact absurd hd (by decide)
  · rw [hv.decision] at hd
    exact absurd hd (by decide)
  · exact h (hv.closed.observed.release hv.closed.kind).1

/-- **No slot is lost** where the observations that are applied to its lease only renew it: a
    recovery releases the slot of an attempt that is over, from the latest of three times on.
    Where the lease of the slot was released on its own, no recovery does. -/
theorem no_slot_lost (hsha : Injective sha256) (hinit : w₀.Initial)
    (hopen : ∀ s, w₀.Leases s → OpenLease sha256 s) :
    (∀ calls w prior latest p r s,
      Run (fun w call w' => WorkerStep sha256 w call w' ∧
        LeavesOpen sha256 s.lease.leaseId w call) w₀ calls w →
      HeldSlot w prior latest p r s →
      ReleasedFrom sha256 w prior p r s
        (max s.lease.heartbeatAt (max r.acquiredAt latest.updatedAt))) ∧
      ∀ calls w, Run (WorkerStep sha256) w₀ calls w → ∀ prior latest p r s,
        HeldSlot w prior latest p r s → s.lease.releasedAt ≠ none →
          ∀ reason t policy id, ¬ ReleasesSlot sha256 w prior p r s reason t policy id := by
  refine ⟨fun calls w prior latest p r s hrun h => ?_, fun calls w _ prior latest p r s _ hrel
    reason t policy id => not_releasesSlot hrel⟩
  obtain ⟨hi, hnamed, hlease⟩ := leaseStaysOpen_run hinit hopen hrun
  have hreserves : w.Reserves r := ((mem_reservations_iff h.pool).1 h.reservation).1
  rcases hlease s h.lease rfl with hs | ⟨c, hc, hattempt⟩
  · exact h.released hsha hi hnamed hs
  · refine absurd ?_ (hi.no_closing hreserves h.active hc)
    rw [hattempt, h.leaseAttempt, h.attemptId]

end

/-! ## A lease released on its own -/

theorem sampleHeld : ∃ w p r, WorkerStep plainDigest sampleWorld sampleAdmit w ∧
    HeldSlot w [crashedRun] crashedRun p r sampleLeaseState := by
  obtain ⟨a, ha, r, hr, hattempt, hactive, hworker⟩ : ∃ a, resolveExecutionAdmission plainDigest
      (.empty _) sampleAuthorization ⟨⟨"request"⟩, "attempt-1", ⟨"source"⟩, ⟨"runtime"⟩, 1⟩
      ⟨⟨"request"⟩, ⟨"runtime"⟩, true⟩ (.empty sampleProfile) ⟨"reservation-1"⟩ 2 = .ok a ∧
      ∃ r ∈ a.pool.reservations, r.attemptId = "attempt-1" ∧ r.releasedAt = none ∧
        a.pool.profile.workerId = "worker-1" :=
    ⟨_, rfl, _, mem_cons_self, rfl, rfl, rfl⟩
  refine ⟨_, a.pool, r, .admit_ (p := .empty sampleProfile) rfl ha, ⟨[crashedRun], rfl, rfl⟩, rfl,
    ?_, hr, hattempt, hactive, rfl, rfl, hworker.symm⟩
  rw [hworker]
  exact update_self "worker-1" (some a.pool) sampleWorld.pools

theorem sampleWorld_open (s : LeaseObservationState) (h : sampleWorld.Leases s) :
    OpenLease plainDigest s := by
  have h : (if s.lease.leaseId = "lease-1" then some sampleLeaseState else none) = some s := h
  split_ifs at h
  obtain rfl := Option.some.inj h
  exact ⟨rfl, fun _ => not_mem_nil⟩

def sampleRelease (sequence : ℕ) (hpos : 0 < sequence) : LeaseObservation :=
  releaseObservation sampleLease ⟨"release-1"⟩ sequence hpos 4

/-- A release out of sequence changes nothing. -/
theorem observe_gap {w : WorkerWorld} (h : w.leases "lease-1" = some sampleLeaseState) :
    WorkerStep plainDigest w (.observe "lease-1" (sampleRelease 2 Nat.two_pos)) w ∧
      LeavesOpen plainDigest "lease-1" w (.observe "lease-1" (sampleRelease 2 Nat.two_pos)) := by
  obtain ⟨a, happly, hdecision, hstate⟩ : ∃ a, applyLeaseObservation plainDigest sampleLeaseState
      (sampleRelease 2 Nat.two_pos) = .ok a ∧ a.decision = .gap ∧ a.state = sampleLeaseState :=
    ⟨_, rfl, rfl, rfl⟩
  constructor
  · have hstep := WorkerStep.observe h happly
    rwa [hstate, update_same h] at hstep
  · intro _ s res hs _ hres happlied
    obtain rfl := Option.some.inj (h.symm.trans hs)
    obtain rfl := Except.ok.inj (happly.symm.trans hres)
    rw [hdecision] at happlied
    cases happlied

/-- `no_slot_lost` at the slot of the crashed worker, whose lease was sent a release out of
    sequence. -/
theorem no_slot_lost_sample : ∃ w p r, HeldSlot w [crashedRun] crashedRun p r sampleLeaseState ∧
    ReleasedFrom plainDigest w [crashedRun] p r sampleLeaseState
      (max sampleLeaseState.lease.heartbeatAt (max r.acquiredAt crashedRun.updatedAt)) := by
  obtain ⟨w, p, r, hstep, hheld⟩ := sampleHeld
  exact ⟨w, p, r, hheld, (no_slot_lost plainDigest_injective sampleWorld_initial
    sampleWorld_open).1 [sampleAdmit, .observe "lease-1" (sampleRelease 2 Nat.two_pos)] w _ _ _ _ _
      ((Run.nil.cons (observe_gap hheld.lease)).cons ⟨hstep, trivial⟩) hheld⟩

theorem plan_crashedRun {t : Instant} (h : crashedRun.updatedAt ≤ t) :
    ∃ plan, planAttemptRecovery [crashedRun] .cancelled t .default = .ok plan := by
  have hvalid : validateAttemptChain [crashedRun] = .ok [crashedRun] := rfl
  rw [planAttemptRecovery, hvalid, ok_bind, getLast?_singleton]
  dsimp only
  rw [ensure_of h, ok_bind]
  exact ⟨_, rfl⟩

/-- **A slot that is lost**: its lease was released by an observation, and no recovery releases the
    slot from any time on. -/
theorem lost_slot : ∃ w p r s, sampleWorld.Initial ∧
    (∀ s, sampleWorld.Leases s → OpenLease plainDigest s) ∧
    Run (WorkerStep plainDigest) sampleWorld
      [sampleAdmit, .observe "lease-1" (sampleRelease 1 Nat.one_pos)] w ∧
    HeldSlot w [crashedRun] crashedRun p r s ∧
    ¬ ∃ T, ReleasedFrom plainDigest w [crashedRun] p r s T := by
  obtain ⟨w, p, r, hstep, h⟩ := sampleHeld
  obtain ⟨a, happly, hrel, hid, hattempt, hworker⟩ : ∃ a,
      applyLeaseObservation plainDigest sampleLeaseState (sampleRelease 1 Nat.one_pos) = .ok a ∧
      a.state.lease.releasedAt = some 4 ∧ a.state.lease.leaseId = "lease-1" ∧
      a.state.lease.attemptId = "attempt-1" ∧ a.state.lease.workerId = "worker-1" :=
    ⟨_, rfl, rfl, rfl, rfl, rfl⟩
  let w' : WorkerWorld := { w with leases := update w.leases "lease-1" (some a.state) }
  have hobserve : WorkerStep plainDigest w
      (.observe "lease-1" (sampleRelease 1 Nat.one_pos)) w' :=
    .observe h.lease happly
  have hlease : w'.Leases a.state := by
    unfold WorkerWorld.Leases
    rw [hid]
    exact update_self "lease-1" (some a.state) w.leases
  refine ⟨w', p, r, a.state, sampleWorld_initial, sampleWorld_open,
    (Run.nil.cons hobserve).cons hstep, ⟨h.chain, h.terminal, h.pool, h.reservation, h.attemptId,
      h.active, hlease, hattempt, hworker.trans h.leaseWorker⟩, ?_⟩
  rintro ⟨T, hT⟩
  rcases hT (max T crashedRun.updatedAt) (le_max_left _ _) .cancelled (by decide) .default
    "attempt-2" (by decide) (by decide) with hreleases | ⟨e, he, -⟩
  · exact not_releasesSlot (by rw [hrel]; nofun) hreleases
  · obtain ⟨plan, hplan⟩ := plan_crashedRun (le_max_right T _)
    rw [hplan] at he
    cases he

end ChartingPlatform
