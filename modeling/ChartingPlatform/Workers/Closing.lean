/-
  One release per reservation: settlements and recoveries act on the same slots and
  leases with separate ledgers.
-/
import ChartingPlatform.Workers.World

namespace ChartingPlatform

open Lib

section
variable {sha256 : String → Digest} {w₀ w : WorkerWorld} {calls : List WorkerCall}

/-- **One release per reservation.**  In every reachable world: a reservation keeps its first
    release time along all later runs; no attempt has a settlement and a recovery; the slot, the
    lease and the receipt of a closed attempt record one release; an attempt has a receipt exactly
    when its slot and lease are so released, and exactly when its slot is released; and a
    settlement that does not release changes nothing. -/
theorem one_release_per_reservation (hinit : w₀.Initial)
    (hrun : Run (WorkerStep sha256) w₀ calls w) :
    (∀ ds w', Run (WorkerStep sha256) w ds w' → ∀ r, w.Reserves r →
      ∃ r', w'.Reserves r' ∧ Kept r r') ∧
    (∀ x ∈ w.settlements.records, ∀ y ∈ w.recoveries.records, x.attemptId ≠ y.attemptId) ∧
    (∀ c, w.Closing c → ClosedBy sha256 w c) ∧
    (∀ attempt, (∃ c, w.Closing c ∧ c.attemptId = attempt) ↔
      ∃ c, ClosedBy sha256 w c ∧ c.attemptId = attempt) ∧
    (∀ r, w.Reserves r → ∀ t, r.releasedAt = some t ↔
      ∃ c, w.Closing c ∧ c.attemptId = r.attemptId ∧ c.reservationId = r.reservationId ∧
        c.releasedAt = t) ∧
    ∀ p admission execution s releasedAt res,
      settleWorkerExecution sha256 w.settlements p admission execution s releasedAt = .ok res →
      res.decision ≠ .released →
        res.pool = p ∧ res.leaseState = s ∧ res.ledger = w.settlements := by
  have hi := worldInvariant_run hinit hrun
  refine ⟨fun ds w' hlater r hr => reserves_run hi hlater hr, hi.apart, fun c hc => hi.closed hc,
    fun attempt => ⟨?_, ?_⟩, fun r hr t => ⟨fun ht => hi.receipted hr ht, ?_⟩, ?_⟩
  · rintro ⟨c, hc, hattempt⟩
    exact ⟨c, hi.closed hc, hattempt⟩
  · rintro ⟨c, hc, rfl⟩
    obtain ⟨r, hr, hattempt, -, hreleased, -⟩ := hc.slot
    obtain ⟨d, hd, hdattempt, -⟩ := hi.receipted hr hreleased
    exact ⟨d, hd, hdattempt.trans hattempt⟩
  · rintro ⟨c, hc, hattempt, -, rfl⟩
    obtain ⟨x, hx, hxattempt, -, hreleased, -⟩ := (hi.closed hc).slot
    rw [hi.unique hr hx (hattempt.symm.trans hxattempt.symm), hreleased]
  · intro p admission execution s releasedAt res h hd
    rcases settleWorkerExecution_cases h with ⟨-, hsame⟩ | ⟨hreleased, -⟩
    · exact hsame
    · exact absurd hreleased hd

/-! ## A crashed worker -/

def sampleLease : ExecutionAttemptLease where
  attemptId := "attempt-1"
  workerId := "worker-1"
  leaseId := "lease-1"
  leasedAt := 1
  heartbeatAt := 1
  expiresAt := 10000001
  releasedAt := none
  attemptId_notBlank := Eq.refl true
  workerId_notBlank := Eq.refl true
  leaseId_notBlank := Eq.refl true
  leasedAt_le := by decide
  heartbeatAt_lt := by decide
  heartbeatAt_le := nofun

def sampleLeaseState : LeaseObservationState where
  lease := sampleLease
  appliedObservations := []
  references := nofun
  contiguous := rfl
  unique_ids := List.nodup_nil
  release_last := nofun
  monotonic := .nil
  heartbeat_spec := nofun
  release_spec := nofun

def sampleWorld : WorkerWorld where
  pools := fun id => if id = "worker-1" then some (.empty sampleProfile) else none
  leases := fun id => if id = "lease-1" then some sampleLeaseState else none
  admissions := .empty _
  settlements := .empty _
  recoveries := .empty _

theorem sampleWorld_initial : sampleWorld.Initial where
  pools id p h := by
    have h : (if id = "worker-1" then some (WorkerPoolState.empty sampleProfile) else none) =
      some p := h
    split_ifs at h with hid
    rw [← Option.some.inj h, hid]
    exact ⟨rfl, rfl⟩
  leases id s h := by
    have h : (if id = "lease-1" then some sampleLeaseState else none) = some s := h
    split_ifs at h with hid
    rw [← Option.some.inj h, hid]
    rfl
  admissions := rfl
  settlements := rfl
  recoveries := rfl

def sampleAuthorization : ExecutionAuthorization where
  trialId := "trial-1"
  attemptId := "attempt-1"
  sourceDigest := ⟨"source"⟩
  trialPreflightFingerprint := ⟨"trial-preflight"⟩
  capabilityPreflightFingerprint := ⟨"capability-preflight"⟩
  leaseId := "lease-1"
  leaseWorkerId := "worker-1"
  authorizedAt := 1
  authoritative := true
  trialId_notBlank := Eq.refl true
  attemptId_notBlank := Eq.refl true
  leaseId_notBlank := Eq.refl true
  leaseWorkerId_notBlank := Eq.refl true

def sampleAdmit : WorkerCall :=
  .admit_ "worker-1" sampleAuthorization ⟨⟨"request"⟩, "attempt-1", ⟨"source"⟩, ⟨"runtime"⟩, 1⟩
    ⟨⟨"request"⟩, ⟨"runtime"⟩, true⟩ ⟨"reservation-1"⟩ 2

def crashedRun : RunAttempt where
  attemptId := "attempt-1"
  trialId := "trial-1"
  ordinal := 1
  state := .failed
  createdAt := 1
  updatedAt := 3
  attemptId_notBlank := Eq.refl true
  trialId_notBlank := Eq.refl true
  ordinal_pos := Nat.one_pos
  createdAt_le := by decide

def sampleRecover : WorkerCall :=
  .recover "worker-1" "lease-1" [crashedRun] .workerCrash 5 .default (some "attempt-2")

/-- `one_release_per_reservation` after an admission and a recovery. -/
theorem one_release_recovered : ∃ w, Run (WorkerStep plainDigest) sampleWorld
    [sampleAdmit, sampleRecover] w ∧ ∃ c, w.Closing c ∧ ClosedBy plainDigest w c ∧
      c.attemptId = "attempt-1" ∧ c.releasedAt = 5 := by
  obtain ⟨a, ha, res, hres, x, hx, hattempt, hreleased⟩ : ∃ a, resolveExecutionAdmission plainDigest
      (.empty _) sampleAuthorization ⟨⟨"request"⟩, "attempt-1", ⟨"source"⟩, ⟨"runtime"⟩, 1⟩
      ⟨⟨"request"⟩, ⟨"runtime"⟩, true⟩ (.empty sampleProfile) ⟨"reservation-1"⟩ 2 = .ok a ∧
      ∃ res, resolveWorkerRecovery plainDigest [crashedRun] a.ledger sampleLeaseState a.pool
        (.empty _) .workerCrash 5 .default (some "attempt-2") = .ok res ∧
      ∃ x ∈ res.ledger.records, x.attemptId = "attempt-1" ∧ x.releasedAt = 5 :=
    ⟨_, rfl, _, rfl, _, List.mem_cons_self, rfl, rfl⟩
  let admitted : WorkerWorld := { sampleWorld with
    pools := Function.update sampleWorld.pools "worker-1" (some a.pool)
    admissions := a.ledger }
  have hadmitted : WorkerStep plainDigest sampleWorld sampleAdmit admitted :=
    .admit_ (p := .empty sampleProfile) rfl ha
  have hrecover : WorkerStep plainDigest admitted sampleRecover _ :=
    .recover (Function.update_self "worker-1" (some a.pool) sampleWorld.pools) rfl hres
  have hrun := (Run.nil.snoc hadmitted).snoc hrecover
  obtain ⟨-, -, hclosed, -⟩ := one_release_per_reservation sampleWorld_initial hrun
  have hclosing := hclosed x.closing (.inr ⟨x, hx, rfl⟩)
  exact ⟨_, hrun, x.closing, .inr ⟨x, hx, rfl⟩, hclosing, hattempt, hreleased⟩

end

end ChartingPlatform
