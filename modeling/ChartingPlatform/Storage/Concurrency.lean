/-
  Concurrent requests against the aggregate store (`postgres_storage.py`).

  A call loads, writes and commits.  A load locks the rows it found; a write is
  pending until its commit, and pending writes exclude each other on their keys and
  request ids, as the primary keys of the tables do.
-/
import ChartingPlatform.Lib.Runs
import ChartingPlatform.Storage.ReadBack

namespace ChartingPlatform

open Lib List Function

/-! ## Clients -/

inductive CallPhase where
  | idle
  | loaded (request : StorageTransactionRequest) (current : List StoredAggregate)
      (resolved : StorageTransactionResolution)
  | written (request : StorageTransactionRequest) (resolved : StorageTransactionResolution)
  | conflicted (request : StorageTransactionRequest) (fallback : List StoredAggregate)
  | done (request : StorageTransactionRequest) (resolution : StorageTransactionResolution)

def CallPhase.Ended : CallPhase → Prop
  | .idle | .done _ _ => True
  | .loaded _ _ _ | .written _ _ | .conflicted _ _ => False

def CallPhase.locks : CallPhase → List AggregateKey
  | .loaded _ current _ => current.map StoredAggregate.key
  | .written request _ => request.keys
  | .idle | .conflicted _ _ | .done _ _ => []

def CallPhase.Excludes (request : StorageTransactionRequest) : CallPhase → Prop
  | .written other _ =>
    other.requestId = request.requestId ∨ ∃ k ∈ request.keys, k ∈ other.keys
  | .idle | .loaded _ _ _ | .conflicted _ _ | .done _ _ => False

/-- The committed tables, the clients, and the requests that committed, in order. -/
structure StoreWorld (Client : Type) where
  rows : StorageRows := {}
  clients : Client → CallPhase := fun _ => .idle
  log : List StorageTransactionRequest := []

variable {Client : Type} [DecidableEq Client]

def StoreWorld.setPhase (w : StoreWorld Client) (c : Client) (phase : CallPhase) :
    StoreWorld Client :=
  { w with clients := update w.clients c phase }

theorem StoreWorld.setPhase_self (w : StoreWorld Client) (c : Client) (phase : CallPhase) :
    (w.setPhase c phase).clients c = phase := update_self ..

theorem StoreWorld.setPhase_of_ne {c d : Client} (hne : d ≠ c) (w : StoreWorld Client)
    (phase : CallPhase) : (w.setPhase c phase).clients d = w.clients d :=
  update_of_ne hne ..

/-- A row that the load would lock is locked by another client. -/
def StoreWorld.Blocked (w : StoreWorld Client) (c : Client)
    (request : StorageTransactionRequest) : Prop :=
  ∃ d, d ≠ c ∧ ∃ k ∈ request.keys, k ∈ w.rows.aggregates.map AggregateRow.key ∧
    k ∈ (w.clients d).locks

section
variable (sha256 : String → Digest)

def loadPhase (rows : StorageRows) (request : StorageTransactionRequest) : CallPhase :=
  match loadTransaction sha256 rows request with
  | .error (current, e) => .done request (failedResolution sha256 request current .reject
      ("PostgreSQL transaction failed: " ++ className e.kind) reject_fails)
  | .ok (current, resolved) =>
    if resolved.decision ≠ .apply then .done request resolved
    else .loaded request current resolved

def writePhase (rows : StorageRows) (request : StorageTransactionRequest)
    (current : List StoredAggregate) (resolved : StorageTransactionResolution) : CallPhase :=
  match resolved.receipt with
  | none => .done request (failedResolution sha256 request current .reject
      "storage resolution omitted its receipt" reject_fails)
  | some receipt =>
    match persistTransaction sha256 request resolved.aggregates receipt rows with
    | some _ => .written request resolved
    | none => .conflicted request current

/-- The tables once the writes of a request are visible. -/
def publish (request : StorageTransactionRequest) (resolved : StorageTransactionResolution)
    (rows : StorageRows) : StorageRows where
  aggregates := request.mutations.foldl (fun rs m =>
    match rowWith StoredAggregate.key m.key resolved.aggregates with
    | some a => upsert AggregateRow.key (a.row sha256) rs
    | none => rs) rows.aggregates
  receipts := match resolved.receipt with
    | some receipt => upsert ReceiptRow.requestId (receipt.row sha256) rows.receipts
    | none => rows.receipts

inductive StoreLabel (Client : Type) where
  | load (c : Client) (request : StorageTransactionRequest)
  | write (c : Client)
  | commit (c : Client)
  | reconcile (c : Client)

inductive StoreStep : StoreWorld Client → StoreLabel Client → StoreWorld Client → Prop
  | load {w : StoreWorld Client} {c : Client} {request : StorageTransactionRequest} :
      (w.clients c).Ended → ¬ w.Blocked c request →
      StoreStep w (.load c request) (w.setPhase c (loadPhase sha256 w.rows request))
  | write {w : StoreWorld Client} {c : Client} {request : StorageTransactionRequest}
      {current : List StoredAggregate} {resolved : StorageTransactionResolution} :
      w.clients c = .loaded request current resolved →
      (∀ d, d ≠ c → ¬ (w.clients d).Excludes request) →
      StoreStep w (.write c) (w.setPhase c (writePhase sha256 w.rows request current resolved))
  -- a committed row is met before a pending one is waited for
  | lose {w : StoreWorld Client} {c : Client} {request : StorageTransactionRequest}
      {current : List StoredAggregate} {resolved : StorageTransactionResolution} :
      w.clients c = .loaded request current resolved →
      writePhase sha256 w.rows request current resolved = .conflicted request current →
      StoreStep w (.write c) (w.setPhase c (.conflicted request current))
  | commit {w : StoreWorld Client} {c : Client} {request : StorageTransactionRequest}
      {resolved : StorageTransactionResolution} :
      w.clients c = .written request resolved →
      StoreStep w (.commit c)
        { rows := publish sha256 request resolved w.rows
          clients := update w.clients c (.done request resolved)
          log := w.log ++ [request] }
  | reconcile {w : StoreWorld Client} {c : Client} {request : StorageTransactionRequest}
      {fallback : List StoredAggregate} :
      w.clients c = .conflicted request fallback → ¬ w.Blocked c request →
      StoreStep w (.reconcile c) (w.setPhase c
        (.done request (resolveAfterConcurrentWrite sha256 w.rows request fallback)))

end

/-! ## What is checked when a write begins -/

section
variable {sha256 : String → Digest} {w w' : StoreWorld Client} {c d : Client}
  {request retry : StorageTransactionRequest} {rows : StorageRows} {m : AggregateMutation}
  {phase : CallPhase} {r : StorageTransactionRequest} {current : List StoredAggregate}
  {resolved : StorageTransactionResolution} {label : StoreLabel Client}
  {fallback : List StoredAggregate}

theorem loadPhase_loaded (hn : (rows.aggregates.map AggregateRow.key).Nodup)
    (h : loadPhase sha256 rows request = .loaded r current resolved) :
    resolved = r.applied sha256 := by
  unfold loadPhase at h
  split at h
  · cases h
  · next hload =>
    split_ifs at h with hdecision
    cases h
    exact loadTransaction_of_apply hn hload (not_not.1 hdecision)

theorem loadPhase_ne_written :
    loadPhase sha256 rows request ≠ .written r resolved := by
  unfold loadPhase
  split
  · simp
  · split_ifs <;> simp

theorem writePhase_applied (sha256 : String → Digest) (rows : StorageRows)
    (request : StorageTransactionRequest) (current : List StoredAggregate) :
    (writePhase sha256 rows request current (request.applied sha256) = .written request
        (request.applied sha256) ∧
      (∀ m ∈ request.mutations, ExpectedRow rows.aggregates m) ∧
      request.requestId ∉ rows.receipts.map ReceiptRow.requestId) ∨
    writePhase sha256 rows request current (request.applied sha256) =
      .conflicted request current := by
  dsimp only [writePhase, StorageTransactionRequest.applied, receiptResolution]
  cases hpersist : persistTransaction sha256 request request.committed (request.receipt sha256)
      rows with
  | some written =>
    obtain ⟨hexpected, hnew, -⟩ := persistTransaction_spec hpersist
    exact .inl ⟨rfl, hexpected, hnew⟩
  | none => exact .inr rfl

theorem publish_applied (hnew : request.requestId ∉ rows.receipts.map ReceiptRow.requestId) :
    publish sha256 request (request.applied sha256) rows = request.after sha256 rows := by
  have hfold : ∀ (ms : List AggregateMutation) (rs : List AggregateRow),
      (∀ m ∈ ms, m ∈ request.mutations) →
      ms.foldl (fun rs m =>
        match rowWith StoredAggregate.key m.key request.committed with
        | some a => upsert AggregateRow.key (a.row sha256) rs
        | none => rs) rs =
      ms.foldl (fun rs m => upsert AggregateRow.key (m.committed.row sha256) rs) rs := by
    intro ms
    induction ms with
    | nil => exact fun _ _ => rfl
    | cons m ms ih =>
      intro rs hms
      rw [foldl_cons, foldl_cons, rowWith_committed (hms m mem_cons_self)]
      exact ih _ fun n hn => hms n (mem_cons_of_mem _ hn)
  have hreceipts : upsert ReceiptRow.requestId ((request.receipt sha256).row sha256)
      rows.receipts = rows.receipts ++ [(request.receipt sha256).row sha256] := if_neg hnew
  dsimp only [publish, StorageTransactionRequest.applied, receiptResolution,
    StorageTransactionRequest.after]
  rw [hfold request.mutations rows.aggregates fun m hm => hm, hreceipts]

theorem expectedRow_after (hk : m.key ∉ request.keys)
    (h : ExpectedRow rows.aggregates m) :
    ExpectedRow (request.after sha256 rows).aggregates m := by
  rcases h with ⟨hnew, hv⟩ | ⟨row, hrow, hkey, hrest⟩
  · refine .inl ⟨fun hmem => ?_, hv⟩
    obtain ⟨row, hrow, hkey⟩ := mem_map.1 hmem
    rcases mem_after.1 hrow with ⟨n, hn, rfl⟩ | ⟨hold, -⟩
    · exact hk (hkey ▸ mem_map_of_mem hn)
    · exact hnew (hkey ▸ mem_map_of_mem hold)
  · exact .inr ⟨row, mem_after.2 (.inr ⟨hrow, hkey ▸ hk⟩), hkey, hrest⟩

/-! ## The invariant -/

structure CasInvariant (sha256 : String → Digest) (w : StoreWorld Client) : Prop where
  stored : StorageInvariant sha256 w.rows
  receipts : w.rows.receipts = w.log.map fun r => (r.receipt sha256).row sha256
  reached : ∀ r ∈ w.log, ∀ m ∈ r.mutations,
    ∃ row ∈ w.rows.aggregates, row.key = m.key ∧ m.expectedVersion < row.version
  versions : w.log.Pairwise fun r s =>
    ∀ m ∈ r.mutations, ∀ n ∈ s.mutations, m.key = n.key → m.expectedVersion < n.expectedVersion
  loaded : ∀ c request current resolved, w.clients c = .loaded request current resolved →
    resolved = request.applied sha256
  written : ∀ c request resolved, w.clients c = .written request resolved →
    resolved = request.applied sha256 ∧
      (∀ m ∈ request.mutations, ExpectedRow w.rows.aggregates m) ∧
      request.requestId ∉ w.rows.receipts.map ReceiptRow.requestId
  apart : ∀ c d request resolved, c ≠ d → w.clients c = .written request resolved →
    ¬ (w.clients d).Excludes request

omit [DecidableEq Client] in
theorem CasInvariant.start : CasInvariant sha256 ({} : StoreWorld Client) where
  stored := StorageInvariant.empty
  receipts := rfl
  reached := by simp
  versions := List.Pairwise.nil
  loaded _ _ _ _ h := by cases h
  written _ _ _ h := by cases h
  apart _ _ _ _ _ h := by cases h

theorem CallPhase.excludes_symm {a b : StorageTransactionRequest}
    {ra rb : StorageTransactionResolution} (h : (CallPhase.written a ra).Excludes b) :
    (CallPhase.written b rb).Excludes a := by
  rcases h with hid | ⟨k, hk, hk'⟩
  · exact .inl hid.symm
  · exact .inr ⟨k, hk', hk⟩

theorem CasInvariant.setPhase (h : CasInvariant sha256 w)
    (hloaded : ∀ request current resolved, phase = .loaded request current resolved →
      resolved = request.applied sha256)
    (hwritten : ∀ request resolved, phase = .written request resolved →
      resolved = request.applied sha256 ∧
        (∀ m ∈ request.mutations, ExpectedRow w.rows.aggregates m) ∧
        request.requestId ∉ w.rows.receipts.map ReceiptRow.requestId ∧
        ∀ d, d ≠ c → ¬ (w.clients d).Excludes request) :
    CasInvariant sha256 (w.setPhase c phase) where
  stored := h.stored
  receipts := h.receipts
  reached := h.reached
  versions := h.versions
  loaded d request current resolved hd := by
    by_cases hdc : d = c
    · subst hdc
      rw [StoreWorld.setPhase_self] at hd
      exact hloaded request current resolved hd
    · rw [StoreWorld.setPhase_of_ne hdc] at hd
      exact h.loaded d request current resolved hd
  written d request resolved hd := by
    by_cases hdc : d = c
    · subst hdc
      rw [StoreWorld.setPhase_self] at hd
      obtain ⟨happlied, hexpected, hnew, -⟩ := hwritten request resolved hd
      exact ⟨happlied, hexpected, hnew⟩
    · rw [StoreWorld.setPhase_of_ne hdc] at hd
      exact h.written d request resolved hd
  apart d e request resolved hne hd := by
    by_cases hdc : d = c
    · subst hdc
      rw [StoreWorld.setPhase_self] at hd
      rw [StoreWorld.setPhase_of_ne hne.symm]
      exact (hwritten request resolved hd).2.2.2 e hne.symm
    · rw [StoreWorld.setPhase_of_ne hdc] at hd
      by_cases hec : e = c
      · subst hec
        rw [StoreWorld.setPhase_self]
        -- only a pending write excludes, and it was checked against this one
        cases hphase : phase with
        | written other res =>
          intro hex
          refine (hwritten other res hphase).2.2.2 d hne ?_
          rw [hd]
          exact CallPhase.excludes_symm hex
        | idle | loaded | conflicted | done => exact id
      · rw [StoreWorld.setPhase_of_ne hec]
        exact h.apart d e request resolved hne hd

theorem CasInvariant.commit (h : CasInvariant sha256 w) (hc : w.clients c = .written request resolved) :
    CasInvariant sha256
      { rows := request.after sha256 w.rows
        clients := update w.clients c (.done request resolved)
        log := w.log ++ [request] } := by
  obtain ⟨-, hexpected, hnew⟩ := h.written c request resolved hc
  constructor
  · exact h.stored.after hnew
  · rw [map_append, ← h.receipts]
    rfl
  · intro r hr m hm
    rcases mem_append.1 hr with hold | hr
    · obtain ⟨row, hrow, hkey, hv⟩ := h.reached r hold m hm
      by_cases hk : m.key ∈ request.keys
      · obtain ⟨n, hn, hnk⟩ := mem_map.1 hk
        refine ⟨n.committed.row sha256, mem_after.2 (.inl ⟨n, hn, rfl⟩), hnk, ?_⟩
        rcases hexpected n hn with ⟨habsent, -⟩ | ⟨row', hrow', hkey', hv', -⟩
        · exact absurd (mem_map.2 ⟨row, hrow, hkey.trans hnk.symm⟩) habsent
        · obtain rfl := inj_on_of_nodup_map h.stored.nodup_aggregates hrow hrow'
            (hkey.trans (hnk.symm.trans hkey'.symm))
          exact hv.trans (hv' ▸ Nat.lt_succ_self _)
      · exact ⟨row, mem_after.2 (.inr ⟨hrow, hkey ▸ hk⟩), hkey, hv⟩
    · obtain rfl := mem_singleton.1 hr
      exact ⟨m.committed.row sha256, mem_after.2 (.inl ⟨m, hm, rfl⟩), rfl, Nat.lt_succ_self _⟩
  · refine pairwise_append.2 ⟨h.versions, pairwise_singleton _ _, ?_⟩
    intro r hr s hs m hm n hn hkey
    obtain rfl := mem_singleton.1 hs
    obtain ⟨row, hrow, hrk, hv⟩ := h.reached r hr m hm
    rcases hexpected n hn with ⟨habsent, -⟩ | ⟨row', hrow', hkey', hv', -⟩
    · exact absurd (mem_map.2 ⟨row, hrow, hrk.trans hkey⟩) habsent
    · obtain rfl := inj_on_of_nodup_map h.stored.nodup_aggregates hrow hrow'
        (hrk.trans (hkey.trans hkey'.symm))
      exact hv' ▸ hv
  · intro d r current res hd
    dsimp only at hd
    by_cases hdc : d = c
    · subst hdc
      rw [update_self] at hd
      cases hd
    · rw [update_of_ne hdc] at hd
      exact h.loaded d r current res hd
  · intro d r res hd
    dsimp only at hd
    by_cases hdc : d = c
    · subst hdc
      rw [update_self] at hd
      cases hd
    · rw [update_of_ne hdc] at hd
      obtain ⟨happlied, hrows, hid⟩ := h.written d r res hd
      have hapart := h.apart d c r res hdc hd
      rw [hc] at hapart
      refine ⟨happlied, fun m hm => expectedRow_after (fun hk => hapart (.inr ⟨m.key, ?_, hk⟩))
        (hrows m hm), fun hmem => ?_⟩
      · exact mem_map_of_mem hm
      · rw [StorageTransactionRequest.after, map_append] at hmem
        rcases mem_append.1 hmem with hold | hlast
        · exact hid hold
        · exact hapart (.inl (mem_singleton.1 hlast).symm)
  · intro d e r res hne hd
    dsimp only at hd ⊢
    by_cases hdc : d = c
    · subst hdc
      rw [update_self] at hd
      cases hd
    · rw [update_of_ne hdc] at hd
      by_cases hec : e = c
      · subst hec
        rw [update_self]
        exact id
      · rw [update_of_ne hec]
        exact h.apart d e r res hne hd

theorem CasInvariant.step (h : CasInvariant sha256 w)
    (hstep : StoreStep sha256 w label w') : CasInvariant sha256 w' := by
  cases hstep with
  | load _ _ =>
    refine h.setPhase (fun r current resolved heq => ?_) fun r resolved heq => ?_
    · exact loadPhase_loaded h.stored.nodup_aggregates heq
    · exact absurd heq loadPhase_ne_written
  | @write c request current resolved hc hfree =>
    obtain rfl := h.loaded c request current resolved hc
    rcases writePhase_applied sha256 w.rows request current with ⟨heq, hexpected, hnew⟩ | heq
    · rw [heq]
      refine h.setPhase (fun _ _ _ hphase => by cases hphase) fun r res hphase => ?_
      cases hphase
      exact ⟨rfl, hexpected, hnew, hfree⟩
    · rw [heq]
      exact h.setPhase (fun _ _ _ hphase => by cases hphase) fun _ _ hphase => by cases hphase
  | lose _ _ => exact h.setPhase (fun _ _ _ heq => by cases heq) fun _ _ heq => by cases heq
  | @commit c request resolved hc =>
    obtain ⟨rfl, -, hnew⟩ := h.written c request resolved hc
    rw [publish_applied hnew]
    exact h.commit hc
  | reconcile _ _ => exact h.setPhase (fun _ _ _ heq => by cases heq) fun _ _ heq => by cases heq

/-! ## What a step does -/

def StoreWorld.Resolves (w : StoreWorld Client) (label : StoreLabel Client) (c : Client)
    (request : StorageTransactionRequest) : Prop :=
  label = .load c request ∨
    label = .reconcile c ∧ ∃ fallback, w.clients c = .conflicted request fallback

/-- The answer to a retry: the outcome of the request that committed. -/
structure Replayed (sha256 : String → Digest) (request : StorageTransactionRequest)
    (resolved : StorageTransactionResolution) : Prop where
  decision : resolved.decision = .replayExisting
  aggregates : List.Forall₂ (SameAggregate sha256) request.committed resolved.aggregates
  outcome : resolved.receipt.map StorageTransactionReceipt.outcomeFingerprint =
    some (request.receipt sha256).outcomeFingerprint

/-- What a retry reads holds no `timedelta`. -/
def RetryReadable (sha256 : String → Digest) (rows : StorageRows)
    (request retry : StorageTransactionRequest) : Prop :=
  (∀ row ∈ rows.aggregates, row.key ∈ retry.keys → Readable sha256 row) ∧
    ∀ m ∈ request.mutations, timedeltaFree m.state = true

/-- What one step does: a commit moves every key of its request from what it expects, no
    other step touches the tables, only a commit is answered with `APPLY`, and a retry of a
    committed request is answered by its outcome exactly where it can be read. -/
structure StepSound (sha256 : String → Digest) (w : StoreWorld Client)
    (label : StoreLabel Client) (w' : StoreWorld Client) : Prop where
  commits : ∀ c, label = .commit c → ∃ request,
    w.clients c = .written request (request.applied sha256) ∧
      w'.clients c = .done request (request.applied sha256) ∧
      (∀ m ∈ request.mutations, ExpectedRow w.rows.aggregates m) ∧
      request.requestId ∉ w.rows.receipts.map ReceiptRow.requestId ∧
      w'.rows = request.after sha256 w.rows ∧ w'.log = w.log ++ [request]
  leaves : (∀ c, label ≠ .commit c) → w'.rows = w.rows ∧ w'.log = w.log
  ends : ∀ c request resolved, w'.clients c = .done request resolved →
    w'.clients c = w.clients c ∨ (label = .commit c ∧ resolved.decision = .apply) ∨
      (w.Resolves label c request ∧ resolved.decision ≠ .apply)
  retries : ∀ c retry, w.Resolves label c retry → ∀ request ∈ w.log,
    retry.requestId = request.requestId → retry.fingerprint sha256 = request.fingerprint sha256 →
      ((∃ resolved, w'.clients c = .done retry resolved ∧ Replayed sha256 request resolved) ↔
        RetryReadable sha256 w.rows request retry)

theorem loadTransaction_of_retry (h : StorageInvariant sha256 rows)
    (hreceipt : (request.receipt sha256).row sha256 ∈ rows.receipts)
    (hid : retry.requestId = request.requestId)
    (hfp : retry.fingerprint sha256 = request.fingerprint sha256)
    (hreadable : RetryReadable sha256 rows request retry) :
    ∃ current resolved, loadTransaction sha256 rows retry = .ok (current, resolved) ∧
      Replayed sha256 request resolved := by
  obtain ⟨current, hcurrent⟩ : ∃ current, loadCurrent sha256 rows retry.keys = .ok current :=
    exists_loadCurrent h.nodup_aggregates fun row hrow hkey =>
      (h.readable_iff hrow).1 (hreadable.1 row hrow hkey)
  obtain ⟨first, hfirst, hfid, hffp, houtcome, hsame⟩ :=
    loadReceipt_of_committed h hreceipt hreadable.2
  have hresolve := resolve_replay (loadCurrent_spec h.nodup_aggregates hcurrent).1
    (hfid.trans hid.symm) (hffp.trans hfp.symm)
  refine ⟨current, receiptResolution sha256 retry first.committed .replayExisting first
    (by decide), ?_, ⟨rfl, hsame, congrArg some houtcome⟩⟩
  rw [loadTransaction, hcurrent]
  simp only [hid, hfirst, ok_bind, hresolve]

theorem retryReadable_of_loadTransaction (h : StorageInvariant sha256 rows)
    (hreceipt : (request.receipt sha256).row sha256 ∈ rows.receipts)
    (hid : retry.requestId = request.requestId)
    (hload : loadTransaction sha256 rows retry = .ok (current, resolved)) :
    RetryReadable sha256 rows request retry := by
  obtain ⟨hcurrent, prior, hprior, -⟩ := loadTransaction_eq_ok hload
  constructor
  · intro row hrow hkey
    exact (h.readable_iff hrow).2 (read_of_loadCurrent h.nodup_aggregates hcurrent hrow hkey)
  · exact fun m hm => timedeltaFree_of_loadReceipt h hreceipt (hid ▸ hprior) hm

theorem loadPhase_replayed_iff (h : StorageInvariant sha256 rows)
    (hreceipt : (request.receipt sha256).row sha256 ∈ rows.receipts)
    (hid : retry.requestId = request.requestId)
    (hfp : retry.fingerprint sha256 = request.fingerprint sha256) :
    (∃ resolved, loadPhase sha256 rows retry = .done retry resolved ∧
      Replayed sha256 request resolved) ↔ RetryReadable sha256 rows request retry := by
  constructor
  · rintro ⟨resolved, hphase, hreplayed⟩
    unfold loadPhase at hphase
    split at hphase
    · cases hphase
      cases hreplayed.decision
    · next hload => exact retryReadable_of_loadTransaction h hreceipt hid hload
  · intro hreadable
    obtain ⟨current, resolved, hload, hreplayed⟩ :=
      loadTransaction_of_retry h hreceipt hid hfp hreadable
    have hne : resolved.decision ≠ .apply := by rw [hreplayed.decision]; decide
    refine ⟨resolved, ?_, hreplayed⟩
    rw [loadPhase, hload]
    exact if_pos hne

theorem reconcile_replayed_iff (h : StorageInvariant sha256 rows)
    (hreceipt : (request.receipt sha256).row sha256 ∈ rows.receipts)
    (hid : retry.requestId = request.requestId)
    (hfp : retry.fingerprint sha256 = request.fingerprint sha256) :
    Replayed sha256 request (resolveAfterConcurrentWrite sha256 rows retry fallback) ↔
      RetryReadable sha256 rows request retry := by
  constructor
  · intro hreplayed
    have hdecision := hreplayed.decision
    unfold resolveAfterConcurrentWrite at hdecision
    split at hdecision
    · cases hdecision
    · next hload => exact retryReadable_of_loadTransaction h hreceipt hid hload
  · intro hreadable
    obtain ⟨current, resolved, hload, hreplayed⟩ :=
      loadTransaction_of_retry h hreceipt hid hfp hreadable
    have hne : resolved.decision ≠ .apply := by rw [hreplayed.decision]; decide
    rw [resolveAfterConcurrentWrite, hload]
    dsimp only
    rwa [if_pos hne]

theorem loadPhase_done (h : loadPhase sha256 rows request = .done r resolved) :
    r = request ∧ resolved.decision ≠ .apply := by
  unfold loadPhase at h
  split at h
  · cases h
    exact ⟨rfl, by simp [failedResolution]⟩
  · split_ifs at h with hne
    cases h
    exact ⟨rfl, hne⟩

omit [DecidableEq Client] in
theorem CasInvariant.receipt_mem (h : CasInvariant sha256 w) (hr : request ∈ w.log) :
    (request.receipt sha256).row sha256 ∈ w.rows.receipts := by
  rw [h.receipts]
  exact mem_map_of_mem hr

theorem setPhase_done {e : Client} (h : (w.setPhase c phase).clients e = .done r resolved) :
    (w.setPhase c phase).clients e = w.clients e ∨ e = c ∧ phase = .done r resolved := by
  by_cases hec : e = c
  · subst hec
    rw [StoreWorld.setPhase_self] at h
    exact .inr ⟨rfl, h⟩
  · exact .inl (StoreWorld.setPhase_of_ne hec w phase)

theorem writePhase_ne_done :
    writePhase sha256 rows request current (request.applied sha256) ≠ .done r resolved := by
  rcases writePhase_applied sha256 rows request current with ⟨heq, -⟩ | heq
  · rw [heq]
    exact CallPhase.noConfusion
  · rw [heq]
    exact CallPhase.noConfusion

theorem StepSound.of_load (h : CasInvariant sha256 w) :
    StepSound sha256 w (.load c request) (w.setPhase c (loadPhase sha256 w.rows request)) where
  commits _ hlabel := by cases hlabel
  leaves _ := ⟨rfl, rfl⟩
  ends e r resolved hdone := by
    rcases setPhase_done hdone with hsame | ⟨rfl, hphase⟩
    · exact .inl hsame
    · obtain ⟨rfl, hne⟩ := loadPhase_done hphase
      exact .inr (.inr ⟨.inl rfl, hne⟩)
  retries e retry hresolves r hr hid hfp := by
    rcases hresolves with hlabel | ⟨hlabel, -⟩
    · cases hlabel
      rw [StoreWorld.setPhase_self]
      exact loadPhase_replayed_iff h.stored (h.receipt_mem hr) hid hfp
    · cases hlabel

theorem StepSound.of_reconcile (h : CasInvariant sha256 w)
    (hc : w.clients c = .conflicted request fallback) :
    StepSound sha256 w (.reconcile c) (w.setPhase c
      (.done request (resolveAfterConcurrentWrite sha256 w.rows request fallback))) where
  commits _ hlabel := by cases hlabel
  leaves _ := ⟨rfl, rfl⟩
  ends e r resolved hdone := by
    rcases setPhase_done hdone with hsame | ⟨rfl, hphase⟩
    · exact .inl hsame
    · cases hphase
      exact .inr (.inr ⟨.inr ⟨rfl, fallback, hc⟩, resolveAfterConcurrentWrite_ne_apply⟩)
  retries e retry hresolves r hr hid hfp := by
    rcases hresolves with hlabel | ⟨hlabel, fallback', he⟩
    · cases hlabel
    · cases hlabel
      rw [hc] at he
      cases he
      rw [StoreWorld.setPhase_self, ← reconcile_replayed_iff h.stored (h.receipt_mem hr) hid hfp]
      constructor
      · rintro ⟨resolved, hphase, hreplayed⟩
        cases hphase
        exact hreplayed
      · exact fun hreplayed => ⟨_, rfl, hreplayed⟩

theorem StepSound.of_write (hphase : ∀ r resolved, phase ≠ .done r resolved) :
    StepSound sha256 w (.write c) (w.setPhase c phase) where
  commits _ hlabel := by cases hlabel
  leaves _ := ⟨rfl, rfl⟩
  ends e r resolved hdone := by
    rcases setPhase_done hdone with hsame | ⟨rfl, heq⟩
    · exact .inl hsame
    · exact absurd heq (hphase r resolved)
  retries e retry hresolves := by
    rcases hresolves with hlabel | ⟨hlabel, -⟩
    · cases hlabel
    · cases hlabel

theorem StepSound.of_commit (h : CasInvariant sha256 w) (hc : w.clients c = .written request resolved) :
    StepSound sha256 w (.commit c)
      { rows := publish sha256 request resolved w.rows
        clients := update w.clients c (.done request resolved)
        log := w.log ++ [request] } := by
  obtain ⟨rfl, hexpected, hnew⟩ := h.written c request resolved hc
  constructor
  · intro d hlabel
    cases hlabel
    exact ⟨request, hc, update_self .., hexpected, hnew, publish_applied hnew, rfl⟩
  · exact fun hne => absurd rfl (hne c)
  · intro e r resolved hdone
    dsimp only at hdone ⊢
    by_cases hec : e = c
    · subst hec
      rw [update_self] at hdone
      cases hdone
      exact .inr (.inl ⟨rfl, rfl⟩)
    · exact .inl (update_of_ne hec ..)
  · intro e retry hresolves
    rcases hresolves with hlabel | ⟨hlabel, -⟩
    · cases hlabel
    · cases hlabel

/-- **What one step does**, from any reachable state. -/
theorem stepSound_of (h : CasInvariant sha256 w)
    (hstep : StoreStep sha256 w label w') : StepSound sha256 w label w' := by
  cases hstep with
  | load _ _ => exact .of_load h
  | @write c request current resolved hc _ =>
    obtain rfl := h.loaded c request current resolved hc
    exact .of_write fun _ _ => writePhase_ne_done
  | lose _ _ => exact .of_write fun _ _ => CallPhase.noConfusion
  | commit hc => exact .of_commit h hc
  | reconcile hc _ => exact .of_reconcile h hc

/-- **No update is lost**, whatever the interleaving: no request id commits twice, no two
    commits start from one version of a key, and every next step is sound. -/
theorem compare_and_set_run {labels : List (StoreLabel Client)}
    (hrun : Run (StoreStep sha256) ({} : StoreWorld Client) labels w) :
    (w.log.map StorageTransactionRequest.requestId).Nodup ∧
      (w.log.Pairwise fun r s => ∀ m ∈ r.mutations, ∀ n ∈ s.mutations, m.key = n.key →
        m.expectedVersion < n.expectedVersion) ∧
      ∀ label w', StoreStep sha256 w label w' → StepSound sha256 w label w' := by
  have hinv : CasInvariant sha256 w :=
    hrun.invariant (fun h hstep => CasInvariant.step h hstep) CasInvariant.start
  refine ⟨?_, hinv.versions, fun label w' hstep => stepSound_of hinv hstep⟩
  have hn := hinv.stored.nodup_receipts
  rw [hinv.receipts, map_map] at hn
  exact hn

/-! ## Runs of one client -/

theorem loadPhase_create (hcreate : ∀ m ∈ request.mutations, m.expectedVersion = 0) :
    loadPhase sha256 {} request = .loaded request [] (request.applied sha256) := by
  have hexpected : ∀ m ∈ request.mutations, Expected sha256 [] m :=
    fun m hm => .inl ⟨rfl, hcreate m hm⟩
  have hresolve : resolveStorageTransaction sha256 [] request none =
      .ok (request.applied sha256) := by
    have hn : (([] : List StoredAggregate).map StoredAggregate.key).Nodup := nodup_nil
    rw [resolve_applies hn hexpected, transactionReceipt_eq hn (by simp) hexpected,
      committedAggregates_eq hn (by simp) hexpected]
    rfl
  have hload : loadTransaction sha256 {} request = .ok ([], request.applied sha256) := by
    have hcurrent : loadCurrent sha256 {} request.keys = .ok [] := rfl
    have hprior : loadReceipt sha256 {} request.requestId = .ok none := rfl
    rw [loadTransaction, hcurrent]
    simp only [hprior, ok_bind, hresolve]
  rw [loadPhase, hload]
  rfl

theorem run_alone (sha256 : String → Digest) (request : StorageTransactionRequest) (c : Client)
    (hcreate : ∀ m ∈ request.mutations, m.expectedVersion = 0)
    (hpersist : (persistTransaction sha256 request request.committed (request.receipt sha256)
      {}).isSome = true) :
    ∃ w : StoreWorld Client,
      Run (StoreStep sha256) {} [.load c request, .write c, .commit c] w ∧
        w.rows = request.after sha256 {} ∧ w.log = [request] ∧
        w.clients c = .done request (request.applied sha256) ∧ ∀ d, d ≠ c → w.clients d = .idle := by
  have hload : StoreStep sha256 ({} : StoreWorld Client) (.load c request)
      (({} : StoreWorld Client).setPhase c (.loaded request [] (request.applied sha256))) := by
    rw [← loadPhase_create hcreate]
    exact .load trivial fun ⟨d, _, k, _, hrow, _⟩ => by cases hrow
  have hwritten : writePhase sha256 {} request [] (request.applied sha256) =
      .written request (request.applied sha256) := by
    obtain ⟨written, hw⟩ := Option.isSome_iff_exists.1 hpersist
    dsimp only [writePhase, StorageTransactionRequest.applied, receiptResolution]
    rw [hw]
  have hwrite : StoreStep sha256
      (({} : StoreWorld Client).setPhase c (.loaded request [] (request.applied sha256)))
      (.write c) ((({} : StoreWorld Client).setPhase c
        (.loaded request [] (request.applied sha256))).setPhase c
        (.written request (request.applied sha256))) := by
    rw [← hwritten]
    refine .write (StoreWorld.setPhase_self ..) fun d hd => ?_
    rw [StoreWorld.setPhase_of_ne hd]
    exact id
  have hnew : request.requestId ∉ ({} : StorageRows).receipts.map ReceiptRow.requestId :=
    not_mem_nil
  refine ⟨_, Run.cons hload (Run.cons hwrite (Run.cons (.commit (StoreWorld.setPhase_self ..))
    Run.nil)), publish_applied hnew, rfl, update_self .., fun d hd => ?_⟩
  dsimp only
  rw [update_of_ne hd, StoreWorld.setPhase_of_ne hd, StoreWorld.setPhase_of_ne hd]

theorem load_of_idle (sha256 : String → Digest) (request : StorageTransactionRequest)
    (hc : (w.clients c).Ended) (hidle : ∀ d, d ≠ c → w.clients d = .idle) :
    StoreStep sha256 w (.load c request) (w.setPhase c (loadPhase sha256 w.rows request)) := by
  refine .load hc ?_
  rintro ⟨d, hd, k, -, -, hlock⟩
  rw [hidle d hd] at hlock
  cases hlock

theorem retries_replayed : ∃ w w' : StoreWorld ℕ,
    Run (StoreStep Digest.mk) {} [.load 0 retriesRequest, .write 0, .commit 0] w ∧
      StoreStep Digest.mk w (.load 0 retriesRequest) w' ∧
      ∃ resolved, w'.clients 0 = .done retriesRequest resolved ∧
        Replayed Digest.mk retriesRequest resolved := by
  obtain ⟨w, hrun, hrows, hlog, hdone, hidle⟩ := run_alone Digest.mk retriesRequest (0 : ℕ)
    (by decide) (by decide +kernel)
  have hstep := load_of_idle Digest.mk retriesRequest
    (hdone ▸ trivial : (w.clients 0).Ended) hidle
  refine ⟨w, _, hrun, hstep, ?_⟩
  have hsound := (compare_and_set_run hrun).2.2 _ _ hstep
  refine (hsound.retries 0 retriesRequest (.inl rfl) retriesRequest
    (hlog ▸ mem_singleton_self _) rfl rfl).2 ⟨fun row hrow _ => ?_, by decide⟩
  have hafter : (retriesRequest.after Digest.mk {}).aggregates =
      retriesRequest.mutations.map fun m => m.committed.row Digest.mk := by decide +kernel
  rw [hrows, hafter] at hrow
  obtain ⟨m, hm, rfl⟩ := mem_map.1 hrow
  exact ⟨m, by rw [mem_singleton.1 hm]; rfl, rfl⟩

/-- **A committed request whose own retry is rejected**: its state holds a `timedelta`. -/
theorem delay_retry_rejected : ∃ w w' : StoreWorld ℕ,
    Run (StoreStep Digest.mk) {} [.load 0 delayRequest, .write 0, .commit 0] w ∧
      w.log = [delayRequest] ∧ StoreStep Digest.mk w (.load 0 delayRequest) w' ∧
      ∃ resolved, w'.clients 0 = .done delayRequest resolved ∧ resolved.decision = .reject := by
  obtain ⟨w, hrun, hrows, hlog, hdone, hidle⟩ := run_alone Digest.mk delayRequest (0 : ℕ)
    (by decide) (by decide +kernel)
  have hstep := load_of_idle Digest.mk delayRequest
    (hdone ▸ trivial : (w.clients 0).Ended) hidle
  refine ⟨w, _, hrun, hlog, hstep, ?_⟩
  rw [StoreWorld.setPhase_self, hrows]
  have hload : (loadTransaction Digest.mk (delayRequest.after Digest.mk {}) delayRequest).isOk =
      false := by decide +kernel
  rw [loadPhase]
  split
  · exact ⟨_, rfl, rfl⟩
  · next h =>
    rw [h] at hload
    cases hload

end

end ChartingPlatform
