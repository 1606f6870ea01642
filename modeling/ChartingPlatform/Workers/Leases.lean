/-
  Worker leases (`lifecycle.py`) and the observations that renew and release them
  (`lease_observations.py`).

  A state is a lease with the observations applied to it, numbered from one; the
  last heartbeat gives the lease its times, and a release closes it.
-/
import ChartingPlatform.Search.State
import ChartingPlatform.Workers.Pools

namespace ChartingPlatform

open Lib List

/-! ## Leases -/

/-- `AttemptLeaseStatus`. -/
inductive AttemptLeaseStatus where
  | active | expired | released
  deriving DecidableEq, Repr

def AttemptLeaseStatus.value : AttemptLeaseStatus → String
  | .active => "active"
  | .expired => "expired"
  | .released => "released"

/-- `ExecutionAttemptLease`. -/
@[ext]
structure ExecutionAttemptLease where
  attemptId : String
  workerId : String
  leaseId : String
  leasedAt : Instant
  heartbeatAt : Instant
  expiresAt : Instant
  releasedAt : Option Instant
  attemptId_notBlank : notBlank attemptId = true
  workerId_notBlank : notBlank workerId = true
  leaseId_notBlank : notBlank leaseId = true
  leasedAt_le : leasedAt ≤ heartbeatAt
  heartbeatAt_lt : heartbeatAt < expiresAt
  heartbeatAt_le : ∀ t ∈ releasedAt, heartbeatAt ≤ t

instance : DecidableEq ExecutionAttemptLease := fun _ _ =>
  decidable_of_iff' _ ExecutionAttemptLease.ext_iff

namespace ExecutionAttemptLease

/-- `replace(lease, heartbeat_at=..., expires_at=..., released_at=...)`, with the checks of
    `__post_init__`. -/
def withTimes (l : ExecutionAttemptLease) (heartbeatAt expiresAt : Instant)
    (releasedAt : Option Instant) : Except PyError ExecutionAttemptLease :=
  if h₁ : l.leasedAt ≤ heartbeatAt then
    if h₂ : heartbeatAt < expiresAt then
      if h₃ : releasedAt.all (fun t => decide (heartbeatAt ≤ t)) = true then
        .ok { l with
          heartbeatAt := heartbeatAt
          expiresAt := expiresAt
          releasedAt := releasedAt
          leasedAt_le := h₁
          heartbeatAt_lt := h₂
          heartbeatAt_le := le_of_all h₃ }
      else .error (valueError "lease release cannot precede the latest heartbeat")
    else .error (valueError "lease expiry must follow the latest heartbeat")
  else .error (valueError "lease heartbeat cannot precede lease acquisition")

/-- `ExecutionAttemptLease.status_at`. -/
def statusAt (l : ExecutionAttemptLease) (now : Instant) : Except PyError AttemptLeaseStatus := do
  ensure (l.leasedAt ≤ now) (valueError "lease status time cannot precede lease acquisition")
  if l.releasedAt.any (fun t => decide (t ≤ now)) = true then return .released
  else if now < l.expiresAt then return .active
  else return .expired

/-- `ExecutionAttemptLease.release`. -/
def release (l : ExecutionAttemptLease) (now : Instant) : Except PyError ExecutionAttemptLease := do
  ensure (l.heartbeatAt ≤ now) (valueError "lease release cannot move backwards")
  ensure (l.releasedAt = none) (valueError "lease is already released")
  l.withTimes l.heartbeatAt l.expiresAt (some now)

/-- The leases are one lease, maybe renewed or released since. -/
structure Same (l m : ExecutionAttemptLease) : Prop where
  attemptId : m.attemptId = l.attemptId
  workerId : m.workerId = l.workerId
  leaseId : m.leaseId = l.leaseId
  leasedAt : m.leasedAt = l.leasedAt

theorem Same.refl (l : ExecutionAttemptLease) : Same l l := ⟨rfl, rfl, rfl, rfl⟩

variable {l m : ExecutionAttemptLease}

theorem withTimes_eq_ok {heartbeatAt expiresAt : Instant}
    {releasedAt : Option Instant} (h : l.withTimes heartbeatAt expiresAt releasedAt = .ok m) :
    Same l m ∧ m.heartbeatAt = heartbeatAt ∧ m.expiresAt = expiresAt ∧
      m.releasedAt = releasedAt := by
  unfold withTimes at h
  split_ifs at h
  obtain rfl := Except.ok.inj h
  exact ⟨⟨rfl, rfl, rfl, rfl⟩, rfl, rfl, rfl⟩

theorem release_eq_ok {now : Instant} (h : l.release now = .ok m) :
    l.heartbeatAt ≤ now ∧ l.releasedAt = none ∧ Same l m ∧ m.heartbeatAt = l.heartbeatAt ∧
      m.expiresAt = l.expiresAt ∧ m.releasedAt = some now := by
  obtain ⟨_, hnow, h⟩ := bind_eq_ok.1 h
  obtain ⟨_, hrel, h⟩ := bind_eq_ok.1 h
  exact ⟨ensure_eq_ok.1 hnow, ensure_eq_ok.1 hrel, withTimes_eq_ok h⟩

theorem release_of {now : Instant} (hnow : l.heartbeatAt ≤ now)
    (hrel : l.releasedAt = none) : ∃ m, l.release now = .ok m := by
  have hall : (some now).all (fun t => decide (l.heartbeatAt ≤ t)) = true := decide_eq_true hnow
  unfold release withTimes
  rw [ensure_of hnow, ok_bind, ensure_of hrel, ok_bind, dif_pos l.leasedAt_le,
    dif_pos l.heartbeatAt_lt, dif_pos hall]
  exact ⟨_, rfl⟩

end ExecutionAttemptLease

/-! ## Observations -/

/-- `LeaseObservationKind`. -/
inductive LeaseObservationKind where
  | heartbeat | release
  deriving DecidableEq, Repr

def LeaseObservationKind.value : LeaseObservationKind → String
  | .heartbeat => "heartbeat"
  | .release => "release"

def LeaseObservationKind.toPy (k : LeaseObservationKind) : PyValue :=
  .enum "app.strategy_lab_v2.lease_observations.LeaseObservationKind" (.str k.value)

/-- `LeaseObservation`. -/
@[ext]
structure LeaseObservation where
  observationId : Digest
  leaseId : String
  workerId : String
  attemptId : String
  sequence : ℕ
  kind : LeaseObservationKind
  observedAt : Instant
  expiresAt : Option Instant
  leaseId_notBlank : notBlank leaseId = true
  workerId_notBlank : notBlank workerId = true
  attemptId_notBlank : notBlank attemptId = true
  sequence_pos : 0 < sequence
  observedAt_lt : ∀ t ∈ expiresAt, observedAt < t
  expiresAt_iff : kind = .heartbeat ↔ expiresAt.isSome = true

instance : DecidableEq LeaseObservation := fun _ _ => decidable_of_iff' _ LeaseObservation.ext_iff

def LeaseObservation.toPy (o : LeaseObservation) : PyValue :=
  .dataclass "app.strategy_lab_v2.lease_observations.LeaseObservation"
    [({ name := "observation_id" }, .str o.observationId.text),
      ({ name := "lease_id" }, .str o.leaseId),
      ({ name := "worker_id" }, .str o.workerId),
      ({ name := "attempt_id" }, .str o.attemptId),
      ({ name := "sequence" }, .int o.sequence),
      ({ name := "kind" }, o.kind.toPy),
      ({ name := "observed_at" }, .datetime (.utc o.observedAt)),
      ({ name := "expires_at" }, optionInstant o.expiresAt)]

/-- `LeaseObservation.fingerprint`. -/
def LeaseObservation.fingerprint (sha256 : String → Digest) (o : LeaseObservation) : Digest :=
  digest sha256 o.toPy

def LeaseObservation.References (o : LeaseObservation) (l : ExecutionAttemptLease) : Prop :=
  o.leaseId = l.leaseId ∧ o.workerId = l.workerId ∧ o.attemptId = l.attemptId

instance (o : LeaseObservation) (l : ExecutionAttemptLease) : Decidable (o.References l) :=
  inferInstanceAs (Decidable (_ ∧ _ ∧ _))

def releaseObservation (l : ExecutionAttemptLease) (observationId : Digest) (sequence : ℕ)
    (hpos : 0 < sequence) (observedAt : Instant) : LeaseObservation where
  observationId := observationId
  leaseId := l.leaseId
  workerId := l.workerId
  attemptId := l.attemptId
  sequence := sequence
  kind := .release
  observedAt := observedAt
  expiresAt := none
  leaseId_notBlank := l.leaseId_notBlank
  workerId_notBlank := l.workerId_notBlank
  attemptId_notBlank := l.attemptId_notBlank
  sequence_pos := hpos
  observedAt_lt := nofun
  expiresAt_iff := by decide

/-! ## States -/

def latestHeartbeat (os : List LeaseObservation) : Option LeaseObservation :=
  (os.filter fun o => decide (o.kind = .heartbeat)).getLast?

/-- `LeaseObservationState`. -/
structure LeaseObservationState where
  lease : ExecutionAttemptLease
  appliedObservations : List LeaseObservation
  references : ∀ o ∈ appliedObservations, o.References lease
  contiguous : appliedObservations.map (·.sequence) = List.range' 1 appliedObservations.length
  unique_ids : (appliedObservations.map (·.observationId)).Nodup
  release_last : ∀ o ∈ appliedObservations.dropLast, o.kind ≠ .release
  monotonic : appliedObservations.IsChain fun a b => a.observedAt ≤ b.observedAt
  heartbeat_spec : ∀ o ∈ latestHeartbeat appliedObservations,
    lease.heartbeatAt = o.observedAt ∧ some lease.expiresAt = o.expiresAt
  release_spec : ∀ o ∈ appliedObservations.getLast?, o.kind = .release →
    lease.releasedAt = some o.observedAt
  deriving DecidableEq

/-- The checks of `LeaseObservationState.__post_init__` on the ordered observations. -/
def checkedObservations (lease : ExecutionAttemptLease) (ordered : List LeaseObservation) :
    Except PyError LeaseObservationState :=
  if h₁ : ∀ o ∈ ordered, o.References lease then
    if h₂ : ordered.map (·.sequence) = List.range' 1 ordered.length then
      if h₃ : (ordered.map (·.observationId)).Nodup then
        if h₄ : ∀ o ∈ ordered.dropLast, o.kind ≠ .release then
          if h₅ : ordered.IsChain fun a b => a.observedAt ≤ b.observedAt then
            if h₆ : ∀ o ∈ latestHeartbeat ordered,
                lease.heartbeatAt = o.observedAt ∧ some lease.expiresAt = o.expiresAt then
              if h₇ : ∀ o ∈ ordered.getLast?, o.kind = .release →
                  lease.releasedAt = some o.observedAt then
                .ok ⟨lease, ordered, h₁, h₂, h₃, h₄, h₅, h₆, h₇⟩
              else .error (valueError "released lease must match the release observation")
            else .error (valueError "lease must match its latest heartbeat observation")
          else .error (valueError "lease observation times must be monotonic")
        else .error (valueError "no observations may follow a release")
      else .error (valueError "observation ids must be unique")
    else
      .error (valueError "applied lease observation sequences must be contiguous from one")
  else .error (valueError "observations must reference the state lease")

/-- `LeaseObservationState.__post_init__`. -/
def makeLeaseObservationState (lease : ExecutionAttemptLease)
    (observations : List LeaseObservation) : Except PyError LeaseObservationState :=
  checkedObservations lease (sortBy LeaseObservation.sequence observations)

/-- `LeaseObservationState.last_sequence`. -/
def LeaseObservationState.lastSequence (s : LeaseObservationState) : ℕ :=
  s.appliedObservations.length

theorem LeaseObservationState.next_pos (s : LeaseObservationState) : 0 < s.lastSequence + 1 :=
  Nat.succ_pos _

def LeaseObservationState.ids (s : LeaseObservationState) : List Digest :=
  s.appliedObservations.map (·.observationId)

/-! ## Applying -/

/-- `LeaseObservationDecision`. -/
inductive LeaseObservationDecision where
  | apply | replayExisting | gap | stale | conflict | reject
  deriving DecidableEq, Repr

/-- `LeaseObservationResolution`. -/
structure LeaseObservationResolution where
  decision : LeaseObservationDecision
  state : LeaseObservationState
  expectedSequence : ℕ
  rejectionReason : Option String := none
  expectedSequence_pos : 0 < expectedSequence := by exact Nat.succ_pos _
  reason_iff : rejectionReason.isSome = true ↔ decision = .conflict ∨ decision = .reject := by simp

/-- The lease after an observation, or the reason why it is rejected. -/
def ExecutionAttemptLease.observe (l : ExecutionAttemptLease) (o : LeaseObservation) :
    Except PyError (String ⊕ ExecutionAttemptLease) := do
  let status ← l.statusAt o.observedAt
  if hkind : o.kind = .heartbeat then
    if status ≠ .active then return .inl ("cannot heartbeat a " ++ status.value ++ " lease")
    else return .inr (← l.withTimes o.observedAt (o.expiresAt.get (o.expiresAt_iff.1 hkind))
      l.releasedAt)
  else
    if l.releasedAt ≠ none then return .inl "lease is already released"
    else return .inr (← l.release o.observedAt)

/-- `apply_lease_observation`. -/
def applyLeaseObservation (sha256 : String → Digest) (s : LeaseObservationState)
    (o : LeaseObservation) : Except PyError LeaseObservationResolution :=
  if ¬ o.References s.lease then
    .ok
      { decision := .reject, state := s, expectedSequence := s.lastSequence + 1
        rejectionReason := some "observation identity does not match the lease" }
  else
    match s.appliedObservations.find? fun x => decide (x.observationId = o.observationId) with
    | some x =>
      if x.fingerprint sha256 = o.fingerprint sha256 then
        .ok { decision := .replayExisting, state := s, expectedSequence := s.lastSequence + 1 }
      else
        .ok
          { decision := .conflict, state := s, expectedSequence := s.lastSequence + 1
            rejectionReason := some "observation id is already bound to different content" }
    | none =>
      if s.lastSequence + 1 < o.sequence then
        .ok { decision := .gap, state := s, expectedSequence := s.lastSequence + 1 }
      else if o.sequence < s.lastSequence + 1 then
        .ok { decision := .stale, state := s, expectedSequence := s.lastSequence + 1 }
      else do
        match ← s.lease.observe o with
        | .inl reason =>
          return { decision := .reject, state := s, expectedSequence := s.lastSequence + 1
                   rejectionReason := some reason }
        | .inr lease =>
          let state ← makeLeaseObservationState lease (s.appliedObservations ++ [o])
          return { decision := .apply, state := state, expectedSequence := s.lastSequence + 1 }

section
variable {sha256 : String → Digest} {s t : LeaseObservationState} {o : LeaseObservation}
  {l : ExecutionAttemptLease} {os : List LeaseObservation} {res : LeaseObservationResolution}
  {m : ExecutionAttemptLease}

/-! ### What a state knows -/

theorem makeLeaseObservationState_eq_ok (h : makeLeaseObservationState l os = .ok t) :
    t.lease = l ∧ t.appliedObservations = sortBy LeaseObservation.sequence os := by
  unfold makeLeaseObservationState checkedObservations at h
  split_ifs at h
  obtain rfl := Except.ok.inj h
  exact ⟨rfl, rfl⟩

theorem sortBy_append_next (ho : o.sequence = s.lastSequence + 1) :
    sortBy LeaseObservation.sequence (s.appliedObservations ++ [o]) =
      s.appliedObservations ++ [o] := by
  refine sortBy_of_pairwise (pairwise_map.1 ?_)
  rw [map_append, s.contiguous, map_singleton, ho, LeaseObservationState.lastSequence,
    Nat.add_comm, ← List.range'_1_concat]
  exact pairwise_lt_range'

theorem mem_ids {id : Digest} : id ∈ s.ids ↔ ∃ o ∈ s.appliedObservations, o.observationId = id :=
  mem_map

theorem find_eq_none_iff : (s.appliedObservations.find? fun x =>
    decide (x.observationId = o.observationId)) = none ↔ o.observationId ∉ s.ids := by
  rw [find?_eq_none, mem_ids]
  constructor
  · rintro h ⟨x, hx, hid⟩
    exact h x hx (decide_eq_true hid)
  · intro h x hx hid
    exact h ⟨x, hx, of_decide_eq_true hid⟩

theorem heartbeat_of_unreleased (h : s.lease.releasedAt = none) (ho : o ∈ s.appliedObservations) :
    o.kind = .heartbeat := by
  cases hkind : o.kind with
  | heartbeat => rfl
  | release =>
    have hlast : o ∈ s.appliedObservations.getLast? := by
      by_contra hne
      obtain ⟨init, x, hx⟩ := eq_nil_or_concat' s.appliedObservations |>.resolve_left
        (ne_nil_of_mem ho)
      rw [hx, getLast?_concat, Option.mem_some_iff] at hne
      have hmem : o ∈ s.appliedObservations.dropLast := by
        rw [hx] at ho ⊢
        rw [dropLast_concat]
        rcases mem_append.1 ho with ho | ho
        · exact ho
        · exact absurd (mem_singleton.1 ho).symm hne
      exact s.release_last o hmem hkind
    have hrel := s.release_spec o hlast hkind
    rw [h] at hrel
    cases hrel

theorem heartbeatAt_of_unreleased (h : s.lease.releasedAt = none)
    (ho : o ∈ s.appliedObservations.getLast?) : s.lease.heartbeatAt = o.observedAt := by
  refine (s.heartbeat_spec o ?_).1
  have hall : s.appliedObservations.filter (fun o => decide (o.kind = .heartbeat)) =
      s.appliedObservations :=
    filter_eq_self.2 fun x hx => decide_eq_true (heartbeat_of_unreleased h hx)
  rw [latestHeartbeat, hall]
  exact ho

/-! ### Applying an observation -/

/-- The observation `o` was applied to `s`. -/
structure ObservedLease (s : LeaseObservationState) (o : LeaseObservation)
    (t : LeaseObservationState) : Prop where
  references : o.References s.lease
  sequence : o.sequence = s.lastSequence + 1
  fresh : o.observationId ∉ s.ids
  same : s.lease.Same t.lease
  applied : t.appliedObservations = s.appliedObservations ++ [o]
  heartbeat : o.kind = .heartbeat → t.lease.releasedAt = s.lease.releasedAt
  release : o.kind = .release →
    s.lease.releasedAt = none ∧ t.lease.releasedAt = some o.observedAt

theorem observe_eq_ok (h : l.observe o = .ok (.inr m)) :
    l.Same m ∧ (o.kind = .heartbeat → m.releasedAt = l.releasedAt) ∧
      (o.kind = .release → l.releasedAt = none ∧ m.releasedAt = some o.observedAt) := by
  unfold ExecutionAttemptLease.observe at h
  obtain ⟨status, -, h⟩ := bind_eq_ok.1 h
  by_cases hkind : o.kind = .heartbeat
  · rw [dif_pos hkind] at h
    split_ifs at h
    · cases Except.ok.inj h
    · obtain ⟨lease, hlease, h⟩ := bind_eq_ok.1 h
      obtain rfl := Sum.inr.inj (Except.ok.inj h)
      obtain ⟨hsame, -, -, hrel⟩ := ExecutionAttemptLease.withTimes_eq_ok hlease
      exact ⟨hsame, fun _ => hrel, fun hk => by rw [hkind] at hk; cases hk⟩
  · rw [dif_neg hkind] at h
    split_ifs at h with hrel
    · cases Except.ok.inj h
    · obtain ⟨lease, hlease, h⟩ := bind_eq_ok.1 h
      obtain rfl := Sum.inr.inj (Except.ok.inj h)
      obtain ⟨-, hnone, hsame, -, -, hsome⟩ := ExecutionAttemptLease.release_eq_ok hlease
      exact ⟨hsame, fun hk => absurd hk hkind, fun _ => ⟨hnone, hsome⟩⟩

theorem applyLeaseObservation_cases (h : applyLeaseObservation sha256 s o = .ok res) :
    (res.decision ≠ .apply ∧ res.state = s) ∨
      res.decision = .apply ∧ ObservedLease s o res.state := by
  unfold applyLeaseObservation at h
  by_cases href : ¬ o.References s.lease
  · rw [if_pos href] at h
    exact .inl (Except.ok.inj h ▸ ⟨nofun, rfl⟩)
  rw [if_neg href] at h
  cases hfind : s.appliedObservations.find? fun x =>
      decide (x.observationId = o.observationId) with
  | some x =>
    simp only [hfind] at h
    split_ifs at h
    · exact .inl (Except.ok.inj h ▸ ⟨nofun, rfl⟩)
    · exact .inl (Except.ok.inj h ▸ ⟨nofun, rfl⟩)
  | none =>
    have hfresh := find_eq_none_iff.1 hfind
    simp only [hfind] at h
    split_ifs at h with hgap hstale
    · exact .inl (Except.ok.inj h ▸ ⟨nofun, rfl⟩)
    · exact .inl (Except.ok.inj h ▸ ⟨nofun, rfl⟩)
    · have hseq : o.sequence = s.lastSequence + 1 := by omega
      obtain ⟨next, hnext, h⟩ := bind_eq_ok.1 h
      cases next with
      | inl reason => exact .inl (Except.ok.inj h ▸ ⟨nofun, rfl⟩)
      | inr lease =>
        obtain ⟨state, hstate, h⟩ := bind_eq_ok.1 h
        obtain rfl := Except.ok.inj h
        obtain ⟨hsame, hbeat, hrel⟩ := observe_eq_ok hnext
        obtain ⟨rfl, happlied⟩ := makeLeaseObservationState_eq_ok hstate
        rw [sortBy_append_next hseq] at happlied
        exact .inr ⟨rfl, not_not.1 href, hseq, hfresh, hsame, happlied, hbeat, hrel⟩

theorem makeLeaseObservationState_next (href : o.References s.lease)
    (hseq : o.sequence = s.lastSequence + 1) (hfresh : o.observationId ∉ s.ids)
    (hrel : s.lease.releasedAt = none) (hnow : s.appliedObservations ≠ [] →
      s.lease.heartbeatAt ≤ o.observedAt) (hsame : s.lease.Same m)
    (hheart : ∀ x ∈ latestHeartbeat (s.appliedObservations ++ [o]),
      m.heartbeatAt = x.observedAt ∧ some m.expiresAt = x.expiresAt)
    (hrelease : o.kind = .release → m.releasedAt = some o.observedAt) :
    ∃ t, makeLeaseObservationState m (s.appliedObservations ++ [o]) = .ok t := by
  have hrefs : ∀ x ∈ s.appliedObservations ++ [o], x.References m := by
    have hlift : ∀ x : LeaseObservation, x.References s.lease → x.References m :=
      fun x ⟨hid, hworker, hattempt⟩ =>
        ⟨hid.trans hsame.leaseId.symm, hworker.trans hsame.workerId.symm,
          hattempt.trans hsame.attemptId.symm⟩
    intro x hx
    rcases mem_append.1 hx with hx | hx
    · exact hlift x (s.references x hx)
    · exact hlift x (mem_singleton.1 hx ▸ href)
  have hcontiguous : (s.appliedObservations ++ [o]).map (·.sequence) =
      List.range' 1 (s.appliedObservations ++ [o]).length := by
    rw [map_append, s.contiguous, map_singleton, hseq, LeaseObservationState.lastSequence,
      Nat.add_comm, ← List.range'_1_concat, length_append, length_singleton]
  have hids : ((s.appliedObservations ++ [o]).map (·.observationId)).Nodup := by
    rw [map_append, nodup_append]
    refine ⟨s.unique_ids, nodup_singleton _, ?_⟩
    rintro a ha b hb rfl
    rw [map_singleton, mem_singleton] at hb
    exact hfresh (hb ▸ ha)
  have hlast : ∀ x ∈ (s.appliedObservations ++ [o]).dropLast, x.kind ≠ .release := by
    intro x hx
    rw [dropLast_concat] at hx
    rw [heartbeat_of_unreleased hrel hx]
    nofun
  have hmono : (s.appliedObservations ++ [o]).IsChain fun a b => a.observedAt ≤ b.observedAt := by
    rw [isChain_append]
    refine ⟨s.monotonic, isChain_singleton o, fun x hx y hy => ?_⟩
    obtain rfl : o = y := Option.some.inj hy
    rw [← heartbeatAt_of_unreleased hrel hx]
    refine hnow fun hnil => ?_
    rw [hnil] at hx
    exact absurd hx (by simp)
  have hreleased : ∀ x ∈ (s.appliedObservations ++ [o]).getLast?, x.kind = .release →
      m.releasedAt = some x.observedAt := by
    intro x hx
    rw [getLast?_concat] at hx
    obtain rfl : o = x := Option.some.inj hx
    exact hrelease
  unfold makeLeaseObservationState checkedObservations
  rw [sortBy_append_next hseq, dif_pos hrefs, dif_pos hcontiguous, dif_pos hids, dif_pos hlast,
    dif_pos hmono, dif_pos hheart, dif_pos hreleased]
  exact ⟨_, rfl⟩

theorem makeLeaseObservationState_release (href : o.References s.lease) (hkind : o.kind = .release)
    (hseq : o.sequence = s.lastSequence + 1) (hfresh : o.observationId ∉ s.ids)
    (hm : s.lease.release o.observedAt = .ok m) :
    ∃ t, makeLeaseObservationState m (s.appliedObservations ++ [o]) = .ok t := by
  obtain ⟨hnow, hrel, hsame, hbeat, hexp, hsome⟩ := ExecutionAttemptLease.release_eq_ok hm
  refine makeLeaseObservationState_next href hseq hfresh hrel (fun _ => hnow) hsame ?_
    fun _ => hsome
  intro x hx
  have hnone : [o].filter (fun x => decide (x.kind = .heartbeat)) = [] := by
    rw [filter_eq_nil_iff]
    intro y hy
    rw [mem_singleton.1 hy, hkind]
    decide
  rw [latestHeartbeat, filter_append, hnone, append_nil] at hx
  rw [hbeat, hexp]
  exact s.heartbeat_spec x hx

/-- **A release is applied to a lease that is not released.** -/
theorem applyLeaseObservation_release (href : o.References s.lease) (hkind : o.kind = .release)
    (hseq : o.sequence = s.lastSequence + 1) (hfresh : o.observationId ∉ s.ids)
    (hrel : s.lease.releasedAt = none) (hnow : s.lease.heartbeatAt ≤ o.observedAt) :
    ∃ res, applyLeaseObservation sha256 s o = .ok res ∧ res.decision = .apply := by
  have hfind := find_eq_none_iff.2 hfresh
  obtain ⟨status, hstatus⟩ : ∃ status, s.lease.statusAt o.observedAt = .ok status := by
    unfold ExecutionAttemptLease.statusAt
    rw [ensure_of (s.lease.leasedAt_le.trans hnow), ok_bind]
    split_ifs <;> exact ⟨_, rfl⟩
  obtain ⟨lease, hlease⟩ := ExecutionAttemptLease.release_of hnow hrel
  have hnext : s.lease.observe o = .ok (.inr lease) := by
    unfold ExecutionAttemptLease.observe
    rw [hstatus, ok_bind, dif_neg (by rw [hkind]; nofun), if_neg (not_not.2 hrel), hlease]
    rfl
  obtain ⟨state, hstate⟩ := makeLeaseObservationState_release href hkind hseq hfresh hlease
  unfold applyLeaseObservation
  rw [if_neg (not_not.2 href)]
  simp only [hfind]
  rw [if_neg (by omega), if_neg (by omega), hnext, ok_bind]
  simp only [hstate, ok_bind]
  exact ⟨_, rfl, rfl⟩

/-- **An applied observation is answered again**, and changes nothing. -/
theorem applyLeaseObservation_replay (ho : o ∈ s.appliedObservations) :
    ∃ res, applyLeaseObservation sha256 s o = .ok res ∧ res.decision = .replayExisting ∧
      res.state = s := by
  obtain ⟨x, hx⟩ : ∃ x, (s.appliedObservations.find? fun x =>
      decide (x.observationId = o.observationId)) = some x := by
    rw [← Option.isSome_iff_exists, find?_isSome]
    exact ⟨o, ho, decide_eq_true rfl⟩
  obtain rfl : x = o := inj_on_of_nodup_map s.unique_ids (mem_of_find?_eq_some hx) ho
    (by simpa using find?_some hx)
  unfold applyLeaseObservation
  rw [if_neg (not_not.2 (s.references x ho))]
  simp only [hx, if_true]
  exact ⟨_, rfl, rfl, rfl⟩

end

end ChartingPlatform
