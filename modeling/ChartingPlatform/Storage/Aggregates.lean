/-
  Compare-and-set contracts for versioned aggregates (`storage.py`).

  A request creates or updates aggregates, all of them or none.  The pure
  resolution decides from the current aggregates under its keys and from the
  receipt that its request id has already.
-/
import ChartingPlatform.Canonical.Frozen
import ChartingPlatform.Lib.Updates
import ChartingPlatform.Search.State

namespace ChartingPlatform

open Lib List

/-! ## Aggregates -/

/-- `AggregateKey`. -/
@[ext]
structure AggregateKey where
  aggregateType : String
  aggregateId : String
  aggregateType_notBlank : notBlank aggregateType = true
  aggregateId_notBlank : notBlank aggregateId = true

instance : DecidableEq AggregateKey := fun _ _ => decidable_of_iff' _ AggregateKey.ext_iff

def AggregateKey.order (k : AggregateKey) : String ×ₗ String :=
  toLex (k.aggregateType, k.aggregateId)

theorem AggregateKey.order_injective : Function.Injective AggregateKey.order := by
  intro a b h
  obtain ⟨htype, hid⟩ := Prod.mk.inj (toLex.injective h)
  cases a
  cases b
  cases htype
  cases hid
  rfl

def AggregateKey.toPy (k : AggregateKey) : PyValue :=
  .dataclass "app.strategy_lab_v2.storage.AggregateKey"
    [({ name := "aggregate_type" }, .str k.aggregateType),
      ({ name := "aggregate_id" }, .str k.aggregateId)]

/-- `StoredAggregate`. -/
structure StoredAggregate where
  key : AggregateKey
  version : ℕ
  state : PyValue
  version_pos : 0 < version
  frozen : Frozen state
  accepted : Accepted state

/-- `StoredAggregate.__post_init__`. -/
def makeStoredAggregate (key : AggregateKey) (version : ℕ) (state : PyValue) :
    Except PyError StoredAggregate :=
  if hv : 0 < version then
    match h : canonicalValue state with
    | .error e => .error e
    | .ok j => .ok
      { key := key
        version := version
        state := freezeValue state
        version_pos := hv
        frozen := frozen_freezeValue state ⟨j, h⟩
        accepted := accepted_freezeValue state ⟨j, h⟩ }
  else .error (valueError "aggregate version must be a positive integer")

def StoredAggregate.toPy (a : StoredAggregate) : PyValue :=
  .dataclass "app.strategy_lab_v2.storage.StoredAggregate"
    [({ name := "key" }, a.key.toPy),
      ({ name := "version" }, .int a.version),
      ({ name := "state" }, a.state)]

/-- `StoredAggregate.state_fingerprint`. -/
def StoredAggregate.stateFingerprint (sha256 : String → Digest) (a : StoredAggregate) : Digest :=
  digest sha256 a.state

/-! ## Requests -/

/-- `AggregateMutation`: a create, or an update of an expected version and state.
    The keys of the state's mappings are distinct, as in every `dict`. -/
structure AggregateMutation where
  key : AggregateKey
  state : PyValue
  expectedVersion : ℕ
  expectedStateFingerprint : Option Digest
  frozen : Frozen state
  accepted : Accepted state
  wf : Wf state
  expected_iff : expectedStateFingerprint.isSome = true ↔ 0 < expectedVersion

def AggregateMutation.toPy (m : AggregateMutation) : PyValue :=
  .dataclass "app.strategy_lab_v2.storage.AggregateMutation"
    [({ name := "key" }, m.key.toPy),
      ({ name := "state" }, m.state),
      ({ name := "expected_version" }, .int m.expectedVersion),
      ({ name := "expected_state_fingerprint" }, optionDigest m.expectedStateFingerprint)]

/-- `StorageTransactionRequest`: the mutations are in the order of their keys. -/
structure StorageTransactionRequest where
  requestId : Digest
  mutations : List AggregateMutation
  nonempty : mutations ≠ []
  sorted : mutations.Pairwise fun a b => a.key.order < b.key.order

def StorageTransactionRequest.toPy (r : StorageTransactionRequest) : PyValue :=
  .dataclass "app.strategy_lab_v2.storage.StorageTransactionRequest"
    [({ name := "request_id" }, .str r.requestId.text),
      ({ name := "mutations" }, .tuple (r.mutations.map AggregateMutation.toPy))]

/-- `StorageTransactionRequest.fingerprint`. -/
def StorageTransactionRequest.fingerprint (sha256 : String → Digest)
    (r : StorageTransactionRequest) : Digest := digest sha256 r.toPy

def StorageTransactionRequest.keys (r : StorageTransactionRequest) : List AggregateKey :=
  r.mutations.map AggregateMutation.key

theorem StorageTransactionRequest.nodup_keys (r : StorageTransactionRequest) : r.keys.Nodup := by
  have hn : (r.mutations.map fun m => m.key.order).Nodup := nodup_map_of_pairwise_lt r.sorted
  exact List.Nodup.of_map AggregateKey.order (by rwa [StorageTransactionRequest.keys, map_map])

/-! ## Resolutions -/

/-- `StorageTransactionReceipt`. -/
structure StorageTransactionReceipt where
  requestId : Digest
  requestFingerprint : Digest
  outcomeFingerprint : Digest
  committed : List StoredAggregate

/-- `StorageTransactionDecision`. -/
inductive StorageTransactionDecision where
  | apply | replayExisting | conflict | reject
  deriving DecidableEq, Repr

/-- `StorageTransactionResolution`. -/
structure StorageTransactionResolution where
  decision : StorageTransactionDecision
  requestFingerprint : Digest
  aggregates : List StoredAggregate
  receipt : Option StorageTransactionReceipt := none
  rejectionReason : Option String := none
  receipt_of_success : decision = .apply ∨ decision = .replayExisting → receipt.isSome = true
  reason_iff : rejectionReason.isSome = true ↔ decision = .conflict ∨ decision = .reject

section
variable (sha256 : String → Digest)

def sortedAggregates (aggregates : List StoredAggregate) : List StoredAggregate :=
  sortBy (fun a => a.key.order) aggregates

theorem reject_fails : StorageTransactionDecision.reject = .conflict ∨
    StorageTransactionDecision.reject = .reject := .inr rfl

/-- `_failed` and `_reject`. -/
def failedResolution (request : StorageTransactionRequest) (current : List StoredAggregate)
    (decision : StorageTransactionDecision) (reason : String)
    (h : decision = .conflict ∨ decision = .reject) : StorageTransactionResolution where
  decision := decision
  requestFingerprint := request.fingerprint sha256
  aggregates := sortedAggregates current
  rejectionReason := some reason
  receipt_of_success := by rcases h with rfl | rfl <;> simp
  reason_iff := by simpa using h

theorem apply_succeeds : StorageTransactionDecision.apply ≠ .conflict ∧
    StorageTransactionDecision.apply ≠ .reject := by decide

def receiptResolution (request : StorageTransactionRequest) (aggregates : List StoredAggregate)
    (decision : StorageTransactionDecision) (receipt : StorageTransactionReceipt)
    (h : decision ≠ .conflict ∧ decision ≠ .reject) : StorageTransactionResolution where
  decision := decision
  requestFingerprint := request.fingerprint sha256
  aggregates := aggregates
  receipt := some receipt
  receipt_of_success := fun _ => rfl
  reason_iff := by simpa using h

def aggregateConflict (current : List StoredAggregate) (m : AggregateMutation) : Option String :=
  match rowWith StoredAggregate.key m.key current with
  | none => if m.expectedVersion = 0 then none else some "expected aggregate is missing"
  | some prior =>
    if m.expectedVersion = 0 then some "create mutation collides with an existing aggregate"
    else if prior.version ≠ m.expectedVersion then
      some "aggregate version does not match compare-and-set precondition"
    else if m.expectedStateFingerprint ≠ some (prior.stateFingerprint sha256) then
      some "aggregate state does not match compare-and-set precondition"
    else none

def AggregateMutation.next (m : AggregateMutation) (current : List StoredAggregate) :
    StoredAggregate where
  key := m.key
  version := match rowWith StoredAggregate.key m.key current with
    | none => 1
    | some prior => prior.version + 1
  state := m.state
  version_pos := by
    split
    · exact Nat.one_pos
    · exact Nat.succ_pos _
  frozen := m.frozen
  accepted := m.accepted

def committedAggregates (request : StorageTransactionRequest) (current : List StoredAggregate) :
    List StoredAggregate :=
  sortedAggregates (request.mutations.foldl
    (fun aggregates m => upsert StoredAggregate.key (m.next current) aggregates) current)

def transactionReceipt (request : StorageTransactionRequest) (current : List StoredAggregate) :
    StorageTransactionReceipt where
  requestId := request.requestId
  requestFingerprint := request.fingerprint sha256
  outcomeFingerprint := digest sha256
    (.tuple ((committedAggregates request current).map StoredAggregate.toPy))
  committed := committedAggregates request current

/-- `resolve_storage_transaction`; there is at most one receipt of the request id. -/
def resolveStorageTransaction (current : List StoredAggregate)
    (request : StorageTransactionRequest) (prior : Option StorageTransactionReceipt) :
    Except PyError StorageTransactionResolution := do
  ensure (current.map StoredAggregate.key).Nodup
    (valueError "current aggregate keys must be unique")
  match prior.filter (·.requestId = request.requestId) with
  | some first =>
    if first.requestFingerprint = request.fingerprint sha256 then
      return receiptResolution sha256 request first.committed .replayExisting first (by decide)
    else
      return failedResolution sha256 request current .conflict
        "request id is already bound to different transaction content" (.inl rfl)
  | none =>
    match request.mutations.findSome? (aggregateConflict sha256 current) with
    | some reason => return failedResolution sha256 request current .conflict reason (.inl rfl)
    | none =>
      return receiptResolution sha256 request (committedAggregates request current) .apply
        (transactionReceipt sha256 request current) apply_succeeds

end

/-! ## What applies -/

section
variable {sha256 : String → Digest} {current : List StoredAggregate} {m : AggregateMutation}
  {request : StorageTransactionRequest} {prior : Option StorageTransactionReceipt}
  {resolved : StorageTransactionResolution}

def Expected (sha256 : String → Digest) (current : List StoredAggregate)
    (m : AggregateMutation) : Prop :=
  (rowWith StoredAggregate.key m.key current = none ∧ m.expectedVersion = 0) ∨
    ∃ a, rowWith StoredAggregate.key m.key current = some a ∧ m.expectedVersion = a.version ∧
      m.expectedStateFingerprint = some (a.stateFingerprint sha256)

theorem aggregateConflict_eq_none :
    aggregateConflict sha256 current m = none ↔ Expected sha256 current m := by
  unfold aggregateConflict Expected
  cases hrow : rowWith StoredAggregate.key m.key current with
  | none => simp
  | some a =>
    have hpos := a.version_pos
    by_cases hv : m.expectedVersion = a.version
    · have hne : m.expectedVersion ≠ 0 := hv ▸ hpos.ne'
      simp [hv, hpos.ne']
    · have hv' : a.version ≠ m.expectedVersion := fun h => hv h.symm
      by_cases h0 : m.expectedVersion = 0
      · simp [h0, hpos.ne]
      · simp [h0, hv, hv']

theorem next_version (h : Expected sha256 current m) :
    (m.next current).version = m.expectedVersion + 1 := by
  rcases h with ⟨hnone, hv⟩ | ⟨a, hsome, hv, -⟩
  · simp [AggregateMutation.next, hnone, hv]
  · simp [AggregateMutation.next, hsome, hv]

theorem resolve_of_apply (h : resolveStorageTransaction sha256 current request prior = .ok resolved)
    (happly : resolved.decision = .apply) :
    (∀ r ∈ prior, r.requestId ≠ request.requestId) ∧
      (∀ m ∈ request.mutations, Expected sha256 current m) ∧
      resolved = receiptResolution sha256 request (committedAggregates request current) .apply
        (transactionReceipt sha256 request current) (by decide) := by
  obtain ⟨_, -, h⟩ := bind_eq_ok.1 h
  cases hprior : prior.filter (·.requestId = request.requestId) with
  | some first =>
    rw [hprior] at h
    dsimp only at h
    split at h
    · cases h
      cases happly
    · cases h
      cases happly
  | none =>
    rw [hprior] at h
    dsimp only at h
    cases hconflict : request.mutations.findSome? (aggregateConflict sha256 current) with
    | some reason =>
      rw [hconflict] at h
      cases h
      cases happly
    | none =>
      rw [hconflict] at h
      cases h
      refine ⟨?_, ?_, rfl⟩
      · intro r hr heq
        have hfilter := Option.filter_eq_none_iff.1 hprior r hr
        simp [heq] at hfilter
      · exact fun m hm => aggregateConflict_eq_none.1 (findSome?_eq_none_iff.1 hconflict m hm)

/-- **A request applies** where it has no receipt and finds what it expects. -/
theorem resolve_applies (hn : (current.map StoredAggregate.key).Nodup)
    (hexpected : ∀ m ∈ request.mutations, Expected sha256 current m) :
    resolveStorageTransaction sha256 current request none = .ok
      (receiptResolution sha256 request (committedAggregates request current) .apply
        (transactionReceipt sha256 request current) (by decide)) := by
  have hnone : request.mutations.findSome? (aggregateConflict sha256 current) = none :=
    findSome?_eq_none_iff.2 fun m hm => aggregateConflict_eq_none.2 (hexpected m hm)
  rw [resolveStorageTransaction, ensure_of hn, ok_bind]
  simp only [Option.filter_none, hnone]
  rfl

/-- **A request whose receipt is there** is answered by the receipt. -/
theorem resolve_replay {first : StorageTransactionReceipt}
    (hn : (current.map StoredAggregate.key).Nodup) (hid : first.requestId = request.requestId)
    (hfp : first.requestFingerprint = request.fingerprint sha256) :
    resolveStorageTransaction sha256 current request (some first) = .ok
      (receiptResolution sha256 request first.committed .replayExisting first (by decide)) := by
  rw [resolveStorageTransaction, ensure_of hn, ok_bind]
  simp only [Option.filter_some, hid, decide_true, if_true, hfp]
  rfl

theorem map_key_next :
    (request.mutations.map (·.next current)).map StoredAggregate.key = request.keys := by
  rw [map_map]
  rfl

theorem committedAggregates_eq_next (hn : (current.map StoredAggregate.key).Nodup)
    (hkeys : ∀ a ∈ current, a.key ∈ request.keys) :
    committedAggregates request current = request.mutations.map (·.next current) := by
  have hnodup : ((request.mutations.map (·.next current)).map StoredAggregate.key).Nodup :=
    map_key_next ▸ request.nodup_keys
  have hmap : (request.mutations.map fun m => (m.next current).key) = request.keys := rfl
  have hperm : (request.mutations.foldl
      (fun aggregates m => upsert StoredAggregate.key (m.next current) aggregates) current).Perm
      (request.mutations.map (·.next current)) := by
    rw [perm_ext_iff_of_nodup (nodup_foldl_upsert hn).of_map hnodup.of_map]
    intro a
    rw [mem_foldl_upsert (hmap ▸ request.nodup_keys), hmap]
    constructor
    · rintro (⟨m, hm, rfl⟩ | ⟨ha, hnot⟩)
      · exact mem_map_of_mem hm
      · exact absurd (hkeys a ha) hnot
    · intro ha
      obtain ⟨m, hm, rfl⟩ := mem_map.1 ha
      exact .inl ⟨m, hm, rfl⟩
  have hinj : ∀ a ∈ request.mutations.map (·.next current),
      ∀ b ∈ request.mutations.map (·.next current), a.key.order = b.key.order → a = b :=
    fun a ha b hb h => inj_on_of_nodup_map hnodup ha hb (AggregateKey.order_injective h)
  rw [committedAggregates, sortedAggregates, ← sortBy_eq_of_perm hperm.symm hinj]
  exact sortBy_of_pairwise (pairwise_map.2 request.sorted)

end

/-! ## What a request commits -/

def AggregateMutation.committed (m : AggregateMutation) : StoredAggregate where
  key := m.key
  version := m.expectedVersion + 1
  state := m.state
  version_pos := Nat.succ_pos _
  frozen := m.frozen
  accepted := m.accepted

def StorageTransactionRequest.committed (r : StorageTransactionRequest) : List StoredAggregate :=
  r.mutations.map AggregateMutation.committed

def StorageTransactionRequest.receipt (sha256 : String → Digest) (r : StorageTransactionRequest) :
    StorageTransactionReceipt where
  requestId := r.requestId
  requestFingerprint := r.fingerprint sha256
  outcomeFingerprint := digest sha256 (.tuple (r.committed.map StoredAggregate.toPy))
  committed := r.committed

section
variable {sha256 : String → Digest} {current : List StoredAggregate} {m : AggregateMutation}
  {request : StorageTransactionRequest}

theorem StoredAggregate.eq_of {a b : StoredAggregate} (hkey : a.key = b.key)
    (hversion : a.version = b.version) (hstate : a.state = b.state) : a = b := by
  cases a
  cases b
  cases hkey
  cases hversion
  cases hstate
  rfl

theorem next_eq_committed (h : Expected sha256 current m) : m.next current = m.committed :=
  StoredAggregate.eq_of rfl (next_version h) rfl

theorem committedAggregates_eq (hn : (current.map StoredAggregate.key).Nodup)
    (hkeys : ∀ a ∈ current, a.key ∈ request.keys)
    (hexpected : ∀ m ∈ request.mutations, Expected sha256 current m) :
    committedAggregates request current = request.committed := by
  rw [committedAggregates_eq_next hn hkeys]
  exact map_congr_left fun m hm => next_eq_committed (hexpected m hm)

theorem transactionReceipt_eq (hn : (current.map StoredAggregate.key).Nodup)
    (hkeys : ∀ a ∈ current, a.key ∈ request.keys)
    (hexpected : ∀ m ∈ request.mutations, Expected sha256 current m) :
    transactionReceipt sha256 request current = request.receipt sha256 := by
  rw [transactionReceipt, committedAggregates_eq hn hkeys hexpected]
  rfl

theorem map_key_committed : request.committed.map StoredAggregate.key = request.keys := by
  rw [StorageTransactionRequest.committed, map_map]
  rfl

theorem rowWith_committed (hm : m ∈ request.mutations) :
    rowWith StoredAggregate.key m.key request.committed = some m.committed := by
  rw [rowWith_eq_some (map_key_committed ▸ request.nodup_keys)]
  exact ⟨mem_map_of_mem hm, rfl⟩

end

end ChartingPlatform
