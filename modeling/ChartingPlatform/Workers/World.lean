/-
  Admissions, lease observations, settlements and recoveries over shared pools, leases and
  ledgers: a step is one call, and each state it returns becomes the next one.
-/
import ChartingPlatform.Workers.Recovery

namespace ChartingPlatform

open Lib List Function

/-! ## Worlds -/

/-- The pools by worker, the leases by id, and the three ledgers. -/
structure WorkerWorld where
  pools : String → Option WorkerPoolState
  leases : String → Option LeaseObservationState
  admissions : ExecutionAdmissionLedger
  settlements : WorkerSettlementLedger
  recoveries : WorkerRecoveryLedger

namespace WorkerWorld

/-- The world keeps a pool for the worker of `r`, and it has the reservation `r`. -/
def Reserves (w : WorkerWorld) (r : WorkerReservation) : Prop :=
  ∃ p, w.pools r.workerId = some p ∧ r ∈ p.reservations

/-- The world keeps the state `s` of its lease. -/
def Leases (w : WorkerWorld) (s : LeaseObservationState) : Prop :=
  w.leases s.lease.leaseId = some s

/-- A settlement or a recovery recorded the release `c`. -/
def Closing (w : WorkerWorld) (c : ClosingReceipt) : Prop :=
  (∃ x ∈ w.settlements.records, x.closing = c) ∨ ∃ y ∈ w.recoveries.records, y.closing = c

structure Initial (w : WorkerWorld) : Prop where
  pools : ∀ id p, w.pools id = some p → p.profile.workerId = id ∧ p.reservations = []
  leases : ∀ id s, w.leases id = some s → s.lease.leaseId = id
  admissions : w.admissions.records = []
  settlements : w.settlements.records = []
  recoveries : w.recoveries.records = []

end WorkerWorld

/-! ## Steps -/

inductive WorkerCall where
  | admit_ (worker : String) (authorization : ExecutionAuthorization)
      (request : StrategyRuntimeRequest) (preflight : StrategyRuntimePreflight)
      (reservationId : Digest) (now : Instant)
  | observe (leaseId : String) (o : LeaseObservation)
  | settle (worker leaseId : String) (admission : ExecutionAdmission)
      (execution : WorkerExecutionResolution) (releasedAt : Instant)
  | recover (worker leaseId : String) (attempts : List RunAttempt) (reason : RecoveryReason)
      (observedAt : Instant) (policy : RetryPolicy) (nextAttemptId : Option String)

section
variable (sha256 : String → Digest) (w : WorkerWorld)

/-- A call that does not raise; its states become the next ones. -/
inductive WorkerStep : WorkerCall → WorkerWorld → Prop
  | admit_ {worker authorization request preflight reservationId now p res} :
    w.pools worker = some p →
    resolveExecutionAdmission sha256 w.admissions authorization request preflight p reservationId
      now = .ok res →
    WorkerStep (.admit_ worker authorization request preflight reservationId now)
      { w with
        pools := update w.pools worker (some res.pool)
        admissions := res.ledger }
  | observe {leaseId o s res} :
    w.leases leaseId = some s →
    applyLeaseObservation sha256 s o = .ok res →
    WorkerStep (.observe leaseId o)
      { w with leases := update w.leases leaseId (some res.state) }
  | settle {worker leaseId admission execution releasedAt p s res} :
    w.pools worker = some p → w.leases leaseId = some s →
    settleWorkerExecution sha256 w.settlements p admission execution s releasedAt = .ok res →
    WorkerStep (.settle worker leaseId admission execution releasedAt)
      { w with
        pools := update w.pools worker (some res.pool)
        leases := update w.leases leaseId (some res.leaseState)
        settlements := res.ledger }
  | recover {worker leaseId attempts reason observedAt policy nextAttemptId p s res} :
    w.pools worker = some p → w.leases leaseId = some s →
    resolveWorkerRecovery sha256 attempts w.admissions s p w.recoveries reason observedAt policy
      nextAttemptId = .ok res →
    WorkerStep (.recover worker leaseId attempts reason observedAt policy nextAttemptId)
      { w with
        pools := update w.pools worker (some res.pool)
        leases := update w.leases leaseId (some res.leaseState)
        recoveries := res.ledger }

/-! ## Moves -/

/-- One of the ledgers gained a receipt of the attempt, which did not have one there; the other
    did not change. -/
def ReceiptRecorded (w w' : WorkerWorld) (attempt : String) : Prop :=
  ((∀ x ∈ w'.settlements.records, x ∈ w.settlements.records ∨ x.attemptId = attempt) ∧
      w'.recoveries = w.recoveries) ∨
    (∀ y ∈ w'.recoveries.records, y ∈ w.recoveries.records ∨ y.attemptId = attempt) ∧
      w'.settlements = w.settlements

/-- What a step does to the shared states; only an observation changes a lease on its own. -/
inductive WorkerMove : WorkerCall → WorkerWorld → Prop
  | same {call} : WorkerMove call w
  | admitted {call} {p : WorkerPoolState} {res a r} :
    w.pools p.profile.workerId = some p →
    AdmittedAttempt w.admissions p res a r →
    WorkerMove call
      { w with
        pools := update w.pools p.profile.workerId (some res.pool)
        admissions := res.ledger }
  | observed {s o t} :
    w.Leases s → ObservedLease s o t →
    WorkerMove (.observe s.lease.leaseId o)
      { w with leases := update w.leases s.lease.leaseId (some t) }
  | closed {call} {p : WorkerPoolState} {s r r' o time q t settlements recoveries} :
    w.pools p.profile.workerId = some p → w.Leases s → SlotClosed p s r r' o time q t →
    (∀ c, WorkerWorld.Closing { w with settlements := settlements, recoveries := recoveries } c ↔
      w.Closing c ∨ c = closingReceipt sha256 r o time) →
    ReceiptRecorded w { w with settlements := settlements, recoveries := recoveries } r.attemptId →
    WorkerMove call
      { w with
        pools := update w.pools p.profile.workerId (some q)
        leases := update w.leases s.lease.leaseId (some t)
        settlements := settlements
        recoveries := recoveries }

end

/-! ## The invariant -/

section
variable {sha256 : String → Digest} {w w' w₀ : WorkerWorld} {p q : WorkerPoolState}
  {s t : LeaseObservationState} {r r' x y : WorkerReservation} {c : ClosingReceipt}
  {call : WorkerCall} {calls : List WorkerCall} {time : Instant} {u : LeaseObservationState}
  {o : LeaseObservation} {id : String} {v : WorkerRecoveryRecord}

/-- The slot and the lease of `c` are released as `c` records. -/
structure ClosedBy (sha256 : String → Digest) (w : WorkerWorld) (c : ClosingReceipt) : Prop where
  slot : ∃ r, w.Reserves r ∧ r.attemptId = c.attemptId ∧ r.reservationId = c.reservationId ∧
    r.releasedAt = some c.releasedAt ∧
    ∃ s o, w.Leases s ∧ s.lease.attemptId = c.attemptId ∧ s.lease.workerId = r.workerId ∧
      s.lease.releasedAt = some c.releasedAt ∧ o ∈ s.appliedObservations ∧ o.kind = .release ∧
      o.observedAt = c.releasedAt ∧ o.fingerprint sha256 = c.leaseObservationFingerprint

structure WorldInvariant (sha256 : String → Digest) (w : WorkerWorld) : Prop where
  pool_key : ∀ {id p}, w.pools id = some p → p.profile.workerId = id
  lease_key : ∀ {id s}, w.leases id = some s → s.lease.leaseId = id
  admitted : ∀ {r}, w.Reserves r → ∃ a ∈ w.admissions.records,
    a.attemptId = r.attemptId ∧ a.reservationId = r.reservationId ∧ a.workerId = r.workerId
  closed : ∀ {c}, w.Closing c → ClosedBy sha256 w c
  receipted : ∀ {r t}, w.Reserves r → r.releasedAt = some t →
    ∃ c, w.Closing c ∧ c.attemptId = r.attemptId ∧ c.reservationId = r.reservationId ∧
      c.releasedAt = t
  apart : ∀ x ∈ w.settlements.records, ∀ y ∈ w.recoveries.records, x.attemptId ≠ y.attemptId

theorem worldInvariant_initial (h : w.Initial) : WorldInvariant sha256 w := by
  have hnone : ∀ r, ¬ w.Reserves r := by
    rintro r ⟨p, hp, hr⟩
    rw [(h.pools _ p hp).2] at hr
    exact not_mem_nil hr
  have hnoclosing : ∀ c, ¬ w.Closing c := by
    rintro c (⟨x, hx, -⟩ | ⟨y, hy, -⟩)
    · rw [h.settlements] at hx
      exact not_mem_nil hx
    · rw [h.recoveries] at hy
      exact not_mem_nil hy
  refine ⟨fun hp => (h.pools _ _ hp).1, fun hs => h.leases _ _ hs, fun hr => absurd hr (hnone _),
    fun hc => absurd hc (hnoclosing _), fun hr _ => absurd hr (hnone _), fun x hx => ?_⟩
  rw [h.settlements] at hx
  exact absurd hx not_mem_nil

theorem mem_reservations_iff (hp : w.pools p.profile.workerId = some p) :
    r ∈ p.reservations ↔ w.Reserves r ∧ r.workerId = p.profile.workerId := by
  constructor
  · intro hr
    have hworker := (p.matches_profile r hr).1
    exact ⟨⟨p, hworker ▸ hp, hr⟩, hworker⟩
  · rintro ⟨⟨q, hq, hr⟩, hworker⟩
    rw [hworker, hp] at hq
    exact Option.some.inj hq ▸ hr

namespace WorldInvariant

theorem unique (hi : WorldInvariant sha256 w) (hx : w.Reserves x) (hy : w.Reserves y)
    (h : x.attemptId = y.attemptId) : x = y := by
  obtain ⟨a, ha, haattempt, haid, haworker⟩ := hi.admitted hx
  obtain ⟨b, hb, hbattempt, hbid, hbworker⟩ := hi.admitted hy
  obtain rfl : a = b := inj_on_of_nodup_map w.admissions.unique_attempts ha hb
    (haattempt.trans (h.trans hbattempt.symm))
  obtain ⟨p, hp, hxp⟩ := hx
  obtain ⟨q, hq, hyq⟩ := hy
  rw [← haworker] at hp
  rw [← hbworker, hp] at hq
  obtain rfl := Option.some.inj hq
  exact inj_on_of_nodup_map p.unique_ids hxp hyq (haid.symm.trans hbid)

theorem no_closing (hi : WorldInvariant sha256 w) (hr : w.Reserves r) (hactive : r.releasedAt = none)
    (hc : w.Closing c) : c.attemptId ≠ r.attemptId := by
  intro heq
  obtain ⟨x, hx, hattempt, -, hreleased, -⟩ := (hi.closed hc).slot
  rw [hi.unique hx hr (hattempt.trans heq), hactive] at hreleased
  cases hreleased

end WorldInvariant

/-! ### What a move keeps -/

/-- The world `w'` has every reservation and every lease of `w`, maybe released or renewed
    since. -/
structure WorldGrows (w w' : WorkerWorld) : Prop where
  reserves : ∀ r, w.Reserves r → ∃ r', w'.Reserves r' ∧ Kept r r'
  leases : ∀ s, w.Leases s → ∃ s', w'.Leases s' ∧ s.lease.Same s'.lease ∧
    s.appliedObservations ⊆ s'.appliedObservations ∧
    ∀ t ∈ s.lease.releasedAt, s'.lease.releasedAt = some t

theorem WorldGrows.refl (w : WorkerWorld) : WorldGrows w w :=
  ⟨fun r hr => ⟨r, hr, Kept.refl r⟩,
    fun s hs => ⟨s, hs, .refl _, List.Subset.refl _, fun _ h => h⟩⟩

theorem ClosedBy.grows (h : ClosedBy sha256 w c) (hg : WorldGrows w w') : ClosedBy sha256 w' c := by
  obtain ⟨r, hr, hattempt, hid, hreleased, s, o, hs, hlattempt, hlworker, hlreleased, ho, hrest⟩ :=
    h.slot
  obtain ⟨r', hr', hkept⟩ := hg.reserves r hr
  obtain ⟨s', hs', hsame, hsub, hrel⟩ := hg.leases s hs
  exact ⟨r', hr', hkept.attemptId.trans hattempt, hkept.reservationId.trans hid,
    hkept.releasedAt _ hreleased, s', o, hs', hsame.attemptId.trans hlattempt,
    (hsame.workerId.trans hlworker).trans hkept.workerId.symm, hrel _ hlreleased, hsub ho, hrest⟩

/-! ### Pools and leases after a move -/

theorem reserves_update (hw : w'.pools = update w.pools p.profile.workerId (some q)) :
    w'.Reserves x ↔ (x.workerId = p.profile.workerId ∧ x ∈ q.reservations) ∨
      x.workerId ≠ p.profile.workerId ∧ w.Reserves x := by
  unfold WorkerWorld.Reserves
  rw [hw]
  by_cases hx : x.workerId = p.profile.workerId
  · rw [hx, update_self]
    simp
  · rw [update_of_ne hx]
    simp [hx]

theorem reserves_admitted {res : ExecutionAdmissionResolution} {a : ExecutionAdmission}
    (hp : w.pools p.profile.workerId = some p) (h : AdmittedAttempt w.admissions p res a r)
    (hw : w'.pools = update w.pools p.profile.workerId (some res.pool)) :
    w'.Reserves x ↔ w.Reserves x ∨ x = r := by
  have hworker : r.workerId = p.profile.workerId := by
    rw [(res.pool.matches_profile r ((h.pool_iff r).2 (.inr rfl))).1, h.poolWorkerId]
  rw [reserves_update hw, h.pool_iff, mem_reservations_iff hp]
  constructor
  · rintro (⟨-, ⟨hx, -⟩ | rfl⟩ | ⟨-, hx⟩)
    · exact .inl hx
    · exact .inr rfl
    · exact .inl hx
  · rintro (hx | rfl)
    · by_cases hxw : x.workerId = p.profile.workerId
      · exact .inl ⟨hxw, .inl ⟨hx, hxw⟩⟩
      · exact .inr ⟨hxw, hx⟩
    · exact .inl ⟨hworker, .inr rfl⟩

theorem reserves_released (hp : w.pools p.profile.workerId = some p)
    (h : Released p r r' time q)
    (hw : w'.pools = update w.pools p.profile.workerId (some q)) :
    w'.Reserves x ↔ x = r' ∨ w.Reserves x ∧ x ≠ r := by
  have hworker : r.workerId = p.profile.workerId := (p.matches_profile r h.mem).1
  rw [reserves_update hw, h.mem_iff, mem_reservations_iff hp]
  constructor
  · rintro (⟨-, rfl | ⟨⟨hx, -⟩, hne⟩⟩ | ⟨hxw, hx⟩)
    · exact .inl rfl
    · exact .inr ⟨hx, hne⟩
    · exact .inr ⟨hx, fun heq => hxw (heq ▸ hworker)⟩
  · rintro (rfl | ⟨hx, hne⟩)
    · exact .inl ⟨h.kept.workerId.trans hworker, .inl rfl⟩
    · by_cases hxw : x.workerId = p.profile.workerId
      · exact .inl ⟨hxw, .inr ⟨⟨hx, hxw⟩, hne⟩⟩
      · exact .inr ⟨hxw, hx⟩

theorem leases_update (hsame : s.lease.Same t.lease)
    (hw : w'.leases = update w.leases s.lease.leaseId (some t)) :
    w'.Leases u ↔ u = t ∨ u.lease.leaseId ≠ s.lease.leaseId ∧ w.Leases u := by
  unfold WorkerWorld.Leases
  rw [hw]
  by_cases hu : u.lease.leaseId = s.lease.leaseId
  · rw [hu, update_self]
    simp [eq_comm]
  · rw [update_of_ne hu]
    have hne : u ≠ t := fun heq => hu (heq ▸ hsame.leaseId)
    simp [hu, hne]

theorem ObservedLease.keeps (h : ObservedLease s o t) :
    s.appliedObservations ⊆ t.appliedObservations ∧
      ∀ u ∈ s.lease.releasedAt, t.lease.releasedAt = some u := by
  refine ⟨h.applied ▸ subset_append_left _ _, fun u hu => ?_⟩
  cases hkind : o.kind with
  | heartbeat => rw [h.heartbeat hkind]; exact hu
  | release =>
    rw [(h.release hkind).1] at hu
    cases hu

theorem leases_grow (hs : w.Leases s) (h : ObservedLease s o t)
    (hw : w'.leases = update w.leases s.lease.leaseId (some t)) (hu : w.Leases u) :
    ∃ u', w'.Leases u' ∧ u.lease.Same u'.lease ∧
      u.appliedObservations ⊆ u'.appliedObservations ∧
      ∀ t ∈ u.lease.releasedAt, u'.lease.releasedAt = some t := by
  by_cases hid : u.lease.leaseId = s.lease.leaseId
  · have hus : u = s := by
      unfold WorkerWorld.Leases at hu hs
      rw [hid, hs] at hu
      exact (Option.some.inj hu).symm
    obtain ⟨hsub, hrel⟩ := h.keeps
    exact ⟨t, (leases_update h.same hw).2 (.inl rfl), hus ▸ h.same, hus ▸ hsub, hus ▸ hrel⟩
  · exact ⟨u, (leases_update h.same hw).2 (.inr ⟨hid, hu⟩), .refl _, List.Subset.refl _,
      fun _ h => h⟩

theorem WorkerMove.grows (h : WorkerMove sha256 w call w') : WorldGrows w w' := by
  cases h with
  | same => exact .refl w
  | admitted hp h =>
    exact ⟨fun r hr => ⟨r, (reserves_admitted hp h rfl).2 (.inl hr), Kept.refl r⟩,
      fun s hs => ⟨s, hs, .refl _, List.Subset.refl _, fun _ h => h⟩⟩
  | observed hs h => exact ⟨fun r hr => ⟨r, hr, Kept.refl r⟩, fun u hu => leases_grow hs h rfl hu⟩
  | @closed _ p s r r' _ _ _ _ _ _ hp hs h =>
    refine ⟨fun x hx => ?_, fun u hu => leases_grow hs h.observed rfl hu⟩
    by_cases hxr : x = r
    · exact ⟨r', (reserves_released hp h.released rfl).2 (.inl rfl), hxr ▸ h.released.kept⟩
    · exact ⟨x, (reserves_released hp h.released rfl).2 (.inr ⟨hx, hxr⟩), Kept.refl x⟩

/-! ### What every move preserves -/

theorem pool_key_update (hp : p.profile.workerId = q.profile.workerId)
    (hi : ∀ {id p}, w.pools id = some p → p.profile.workerId = id)
    {u : WorkerPoolState}
    (hu : update w.pools p.profile.workerId (some q) id = some u) :
    u.profile.workerId = id := by
  by_cases hid : id = p.profile.workerId
  · rw [hid, update_self] at hu
    rw [← Option.some.inj hu, hid, hp]
  · rw [update_of_ne hid] at hu
    exact hi hu

theorem lease_key_update (hsame : s.lease.Same t.lease)
    (hi : ∀ {id s}, w.leases id = some s → s.lease.leaseId = id)
    (hu : update w.leases s.lease.leaseId (some t) id = some u) :
    u.lease.leaseId = id := by
  by_cases hid : id = s.lease.leaseId
  · rw [hid, update_self] at hu
    rw [← Option.some.inj hu, hid, hsame.leaseId]
  · rw [update_of_ne hid] at hu
    exact hi hu

theorem SlotClosed.closedBy
    (hp : w.pools p.profile.workerId = some p) (h : SlotClosed p s r r' o time q t)
    (hpools : w'.pools = update w.pools p.profile.workerId (some q))
    (hleases : w'.leases = update w.leases s.lease.leaseId (some t)) :
    ClosedBy sha256 w' (closingReceipt sha256 r o time) := by
  have hkept := h.released.kept
  have hrelease := (h.observed.release h.kind).2
  rw [h.observedAt] at hrelease
  refine ⟨r', (reserves_released hp h.released hpools).2 (.inl rfl), hkept.attemptId,
    hkept.reservationId, h.released.releasedAt, t, o,
    (leases_update h.observed.same hleases).2 (.inl rfl),
    h.observed.same.attemptId.trans h.attemptId, ?_, hrelease, ?_, h.kind, h.observedAt, ?_⟩
  · rw [h.observed.same.workerId, h.workerId, hkept.workerId,
      (p.matches_profile r h.released.mem).1]
  · rw [h.observed.applied]
    exact mem_append_right _ (mem_singleton_self o)
  · rw [closingReceipt]

theorem WorldInvariant.move (hi : WorldInvariant sha256 w) (h : WorkerMove sha256 w call w') :
    WorldInvariant sha256 w' := by
  have hgrows := h.grows
  cases h with
  | same => exact hi
  | @admitted _ p res a r hp h =>
    refine ⟨pool_key_update h.poolWorkerId.symm hi.pool_key, hi.lease_key, fun hx => ?_,
      fun hc => (hi.closed hc).grows hgrows, fun hx hrel => ?_, hi.apart⟩
    · rcases (reserves_admitted hp h rfl).1 hx with hx | rfl
      · obtain ⟨a, ha, hrest⟩ := hi.admitted hx
        exact ⟨a, (h.ledger_iff a).2 (.inl ha), hrest⟩
      · refine ⟨_, (h.ledger_iff _).2 (.inr rfl), h.attemptId.symm, h.reservationId.symm, ?_⟩
        rw [h.workerId, ← h.poolWorkerId]
        exact (res.pool.matches_profile _ ((h.pool_iff _).2 (.inr rfl))).1.symm
    · rcases (reserves_admitted hp h rfl).1 hx with hx | rfl
      · exact hi.receipted hx hrel
      · rw [h.releasedAt] at hrel
        cases hrel
  | observed hs h =>
    exact ⟨hi.pool_key, lease_key_update h.same hi.lease_key, hi.admitted,
      fun hc => (hi.closed hc).grows hgrows, hi.receipted, hi.apart⟩
  | @closed _ p s r r' o time q t settlements recoveries hp hs h hclosing hrecorded =>
    have hr : w.Reserves r := ((mem_reservations_iff hp).1 h.released.mem).1
    refine ⟨pool_key_update (congrArg _ h.released.profile.symm) hi.pool_key,
      lease_key_update h.observed.same hi.lease_key, fun hx => ?_, fun hc => ?_,
      fun hx hrel => ?_, ?_⟩
    · rcases (reserves_released hp h.released rfl).1 hx with rfl | ⟨hx, -⟩
      · obtain ⟨a, ha, hattempt, hid, hworker⟩ := hi.admitted hr
        have hkept := h.released.kept
        exact ⟨a, ha, hattempt.trans hkept.attemptId.symm, hid.trans hkept.reservationId.symm,
          hworker.trans hkept.workerId.symm⟩
      · exact hi.admitted hx
    · rcases (hclosing _).1 hc with hc | rfl
      · exact (hi.closed hc).grows hgrows
      · exact h.closedBy hp rfl rfl
    · rcases (reserves_released hp h.released rfl).1 hx with rfl | ⟨hx, -⟩
      · rw [h.released.releasedAt] at hrel
        have hkept := h.released.kept
        exact ⟨_, (hclosing _).2 (.inr rfl), hkept.attemptId.symm, hkept.reservationId.symm,
          Option.some.inj hrel⟩
      · obtain ⟨c, hc, hrest⟩ := hi.receipted hx hrel
        exact ⟨c, (hclosing c).2 (.inl hc), hrest⟩
    · have hnew : ∀ c, w.Closing c → c.attemptId ≠ r.attemptId := fun c =>
        hi.no_closing hr h.released.active
      intro x hx y hy heq
      rcases hrecorded with ⟨hsettled, hsame⟩ | ⟨hrecovered, hsame⟩
      · have hy : y ∈ w.recoveries.records := hsame ▸ hy
        rcases hsettled x hx with hx | hx
        · exact hi.apart x hx y hy heq
        · exact hnew _ (.inr ⟨y, hy, rfl⟩) (heq.symm.trans hx)
      · have hx : x ∈ w.settlements.records := hsame ▸ hx
        rcases hrecovered y hy with hy | hy
        · exact hi.apart x hx y hy heq
        · exact hnew _ (.inl ⟨x, hx, rfl⟩) (heq.trans hy)

/-! ### Every step is a move -/

theorem update_same {α : Type} {f : String → Option α} {a : α}
    (h : f id = some a) : update f id (some a) = f :=
  update_eq_self_iff.2 h.symm

theorem closing_settled {ledger : WorkerSettlementLedger} {v : WorkerSettlementRecord}
    (hledger : ∀ y, y ∈ ledger.records ↔ y ∈ w.settlements.records ∨ y = v) :
    WorkerWorld.Closing { w with settlements := ledger } c ↔ w.Closing c ∨ c = v.closing := by
  constructor
  · rintro (⟨y, hy, hyc⟩ | hc)
    · rcases (hledger y).1 hy with hy | rfl
      · exact .inl (.inl ⟨y, hy, hyc⟩)
      · exact .inr hyc.symm
    · exact .inl (.inr hc)
  · rintro ((⟨y, hy, hyc⟩ | hc) | rfl)
    · exact .inl ⟨y, (hledger y).2 (.inl hy), hyc⟩
    · exact .inr hc
    · exact .inl ⟨v, (hledger v).2 (.inr rfl), rfl⟩

theorem closing_recovered {ledger : WorkerRecoveryLedger}
    (hledger : ∀ y, y ∈ ledger.records ↔ y ∈ w.recoveries.records ∨ y = v) :
    WorkerWorld.Closing { w with recoveries := ledger } c ↔ w.Closing c ∨ c = v.closing := by
  constructor
  · rintro (hc | ⟨y, hy, hyc⟩)
    · exact .inl (.inl hc)
    · rcases (hledger y).1 hy with hy | rfl
      · exact .inl (.inr ⟨y, hy, hyc⟩)
      · exact .inr hyc.symm
  · rintro ((hc | ⟨y, hy, hyc⟩) | rfl)
    · exact .inl hc
    · exact .inr ⟨y, (hledger y).2 (.inl hy), hyc⟩
    · exact .inr ⟨v, (hledger v).2 (.inr rfl), rfl⟩

theorem recoveryRecord_closing {latest : RunAttempt} {plan : RecoveryPlan}
    {reason : RecoveryReason} {next : Option RunAttempt} {fingerprint : Digest} (h : r.attemptId = latest.attemptId) :
    (recoveryRecord sha256 latest plan reason next r fingerprint o time).closing =
      closingReceipt sha256 r o time := by
  rw [closingReceipt, h, WorkerRecoveryRecord.closing, recoveryRecord]

theorem WorldInvariant.resume_eq (hi : WorldInvariant sha256 w)
    (hp : w.pools p.profile.workerId = some p) (hr : r ∈ p.reservations) (hv : v ∈ w.recoveries.records) (hattempt : r.attemptId = v.attemptId)
    {states : WorkerPoolState × LeaseObservationState}
    (h : resumeRecovery sha256 p s r v = .ok (.inr states)) : states = (p, s) := by
  obtain ⟨x, hx, hxattempt, -, hreleased, -⟩ := (hi.closed (.inr ⟨v, hv, rfl⟩)).slot
  obtain rfl : r = x := hi.unique ((mem_reservations_iff hp).1 hr).1 hx
    (hattempt.trans hxattempt.symm)
  have hactive : ¬ r.active = true := by
    rw [WorkerReservation.active, hreleased]
    exact Bool.false_ne_true
  unfold resumeRecovery at h
  rw [if_neg hactive] at h
  split_ifs at h
  · cases Except.ok.inj h
  · cases Except.ok.inj h
  · exact (Sum.inr.inj (Except.ok.inj h)).symm

theorem workerStep_move (hi : WorldInvariant sha256 w) (h : WorkerStep sha256 w call w') :
    WorkerMove sha256 w call w' := by
  cases h with
  | @admit_ worker _ _ _ _ _ p res hp h =>
    obtain rfl := hi.pool_key hp
    rcases resolveExecutionAdmission_cases h with ⟨-, hledger, hpool⟩ | ⟨-, a, r, hadmitted⟩
    · rw [hledger, hpool, update_same hp]
      exact .same
    · exact .admitted hp hadmitted
  | @observe leaseId o s res hs h =>
    obtain rfl := hi.lease_key hs
    rcases applyLeaseObservation_cases h with ⟨-, hstate⟩ | ⟨-, hobserved⟩
    · rw [hstate, update_same hs]
      exact .same
    · exact .observed hs hobserved
  | @settle worker leaseId _ _ _ p s res hp hs h =>
    obtain rfl := hi.pool_key hp
    obtain rfl := hi.lease_key hs
    rcases settleWorkerExecution_cases h with ⟨-, hpool, hstate, hledger⟩ | ⟨-, r, r', o, v, hv⟩
    · rw [hpool, hstate, hledger, update_same hp, update_same hs]
      exact .same
    · refine .closed hp hs hv.closed (fun c => hv.closing ▸ closing_settled hv.ledger_iff)
        (.inl ⟨fun y hy => ?_, rfl⟩)
      rcases (hv.ledger_iff y).1 hy with hy | rfl
      · exact .inl hy
      · exact .inr (congrArg ClosingReceipt.attemptId hv.closing)
  | @recover worker leaseId _ _ _ _ _ p s res hp hs h =>
    obtain rfl := hi.pool_key hp
    obtain rfl := hi.lease_key hs
    rcases resolveWorkerRecovery_cases h with
      ⟨-, hpool, hstate, hledger, -⟩ |
        ⟨latest, r, plan, next, hplanned, ⟨v, hv⟩ | ⟨r', o, hv⟩⟩
    · rw [hpool, hstate, hledger, update_same hp, update_same hs]
      exact .same
    · have hsame := hi.resume_eq hp hplanned.reservation hv.mem
        (hplanned.attemptId.trans hv.attemptId.symm) hv.resume
      obtain ⟨hpool, hstate⟩ := Prod.mk.inj hsame
      rw [hpool, hstate, hv.ledger_eq, update_same hp, update_same hs]
      exact .same
    · refine .closed hp hs hv.closed (fun c => ?_) (.inr ⟨fun y hy => ?_, rfl⟩)
      · rw [← recoveryRecord_closing hplanned.attemptId]
        exact closing_recovered hv.ledger_iff
      · rcases (hv.ledger_iff y).1 hy with hy | rfl
        · exact .inl hy
        · exact .inr hplanned.attemptId.symm

/-- **The invariant holds in every reachable world.** -/
theorem worldInvariant_run (hinit : w₀.Initial) (h : Run (WorkerStep sha256) w₀ calls w) :
    WorldInvariant sha256 w :=
  h.invariant (fun hi hstep => hi.move (workerStep_move hi hstep)) (worldInvariant_initial hinit)

theorem reserves_run {ds : List WorkerCall} (hi : WorldInvariant sha256 w)
    (h : Run (WorkerStep sha256) w ds w') (hr : w.Reserves r) :
    ∃ r', w'.Reserves r' ∧ Kept r r' := by
  have hboth : WorldInvariant sha256 w' ∧ ∃ r', w'.Reserves r' ∧ Kept r r' := by
    refine h.invariant (P := fun w' => WorldInvariant sha256 w' ∧ ∃ r', w'.Reserves r' ∧ Kept r r')
      ?_ ⟨hi, r, hr, Kept.refl r⟩
    rintro u c v ⟨hu, r', hr', hkept⟩ hstep
    have hmove := workerStep_move hu hstep
    obtain ⟨r'', hr'', hkept'⟩ := hmove.grows.reserves r' hr'
    exact ⟨hu.move hmove, r'', hr'', hkept.trans hkept'⟩
  exact hboth.2

end

end ChartingPlatform
