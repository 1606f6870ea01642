/-
  Committed aggregates are read back exactly where their states hold no `timedelta`, which
  the encoder writes and the decoder of the store does not know.
-/
import ChartingPlatform.Storage.Rows

namespace ChartingPlatform

open Lib List

/-! ## One call -/

def StorageTransactionRequest.applied (sha256 : String → Digest) (r : StorageTransactionRequest) :
    StorageTransactionResolution :=
  receiptResolution sha256 r r.committed .apply (r.receipt sha256) apply_succeeds

section
variable {sha256 : String → Digest} {rows : StorageRows}
  {request : StorageTransactionRequest} {resolved : StorageTransactionResolution}
  {current fallback : List StoredAggregate}

theorem loadTransaction_eq_ok (h : loadTransaction sha256 rows request = .ok (current, resolved)) :
    loadCurrent sha256 rows request.keys = .ok current ∧
      ∃ prior, loadReceipt sha256 rows request.requestId = .ok prior ∧
        resolveStorageTransaction sha256 current request prior = .ok resolved := by
  unfold loadTransaction at h
  split at h
  · cases h
  · next loaded hload =>
    split at h
    · cases h
    · next r hr =>
      cases h
      exact ⟨hload, bind_eq_ok.1 hr⟩

theorem loadTransaction_of_apply (hn : (rows.aggregates.map AggregateRow.key).Nodup)
    (h : loadTransaction sha256 rows request = .ok (current, resolved))
    (happly : resolved.decision = .apply) : resolved = request.applied sha256 := by
  obtain ⟨hload, prior, -, hresolve⟩ := loadTransaction_eq_ok h
  obtain ⟨-, hexpected, rfl⟩ := resolve_of_apply hresolve happly
  obtain ⟨hcurrent, hmem⟩ := loadCurrent_spec hn hload
  have hkeys : ∀ a ∈ current, a.key ∈ request.keys := by
    intro a ha
    obtain ⟨row, -, hkey, hread⟩ := (hmem a).1 ha
    rwa [(readAggregate_spec hread).1]
  have hreceipt := transactionReceipt_eq hcurrent hkeys hexpected
  have hcommitted := committedAggregates_eq hcurrent hkeys hexpected
  simp only [hreceipt, hcommitted]
  rfl

theorem resolveAfterConcurrentWrite_ne_apply :
    (resolveAfterConcurrentWrite sha256 rows request fallback).decision ≠ .apply := by
  unfold resolveAfterConcurrentWrite
  split
  · simp [failedResolution]
  · split_ifs with h
    · exact h
    · simp [failedResolution]

/-- **What one `apply` does**: it leaves the tables, or commits its request. -/
theorem applyTransaction_cases (request : StorageTransactionRequest)
    (hn : (rows.aggregates.map AggregateRow.key).Nodup) :
    ((applyTransaction sha256 rows request).1 = rows ∧
        (applyTransaction sha256 rows request).2.decision ≠ .apply) ∨
      ((∀ m ∈ request.mutations, ExpectedRow rows.aggregates m) ∧
        request.requestId ∉ rows.receipts.map ReceiptRow.requestId ∧
        applyTransaction sha256 rows request =
          (request.after sha256 rows, request.applied sha256)) := by
  generalize h : applyTransaction sha256 rows request = result
  unfold applyTransaction at h
  split at h
  · cases h
    exact .inl ⟨rfl, by simp [failedResolution]⟩
  · next current r hload =>
    split_ifs at h with hdecision
    · cases h
      exact .inl ⟨rfl, hdecision⟩
    · obtain rfl := loadTransaction_of_apply hn hload (not_not.1 hdecision)
      dsimp only [StorageTransactionRequest.applied, receiptResolution] at h
      split at h
      · next written hwritten =>
        cases h
        obtain ⟨hexpected, hnew, rfl⟩ := persistTransaction_spec hwritten
        exact .inr ⟨hexpected, hnew, rfl⟩
      · cases h
        exact .inl ⟨rfl, resolveAfterConcurrentWrite_ne_apply⟩

end

/-! ## Runs -/

structure StorageInvariant (sha256 : String → Digest) (rows : StorageRows) : Prop where
  nodup_aggregates : (rows.aggregates.map AggregateRow.key).Nodup
  nodup_receipts : (rows.receipts.map ReceiptRow.requestId).Nodup
  written : ∀ row ∈ rows.aggregates, ∃ m : AggregateMutation, row = m.committed.row sha256
  receipts : ∀ row ∈ rows.receipts,
    ∃ r : StorageTransactionRequest, row = (r.receipt sha256).row sha256

section
variable {sha256 : String → Digest} {rows : StorageRows} {row : AggregateRow}
  {request : StorageTransactionRequest} {requests : List StorageTransactionRequest}

theorem map_key_row :
    (request.mutations.map fun m => (m.committed.row sha256).key) = request.keys := rfl

theorem mem_after : row ∈ (request.after sha256 rows).aggregates ↔
    (∃ m ∈ request.mutations, row = m.committed.row sha256) ∨
      row ∈ rows.aggregates ∧ row.key ∉ request.keys := by
  rw [StorageTransactionRequest.after, mem_foldl_upsert (map_key_row ▸ request.nodup_keys),
    map_key_row]

theorem StorageInvariant.empty : StorageInvariant sha256 {} where
  nodup_aggregates := nodup_nil
  nodup_receipts := nodup_nil
  written := by simp
  receipts := by simp

theorem StorageInvariant.after (h : StorageInvariant sha256 rows)
    (hnew : request.requestId ∉ rows.receipts.map ReceiptRow.requestId) :
    StorageInvariant sha256 (request.after sha256 rows) where
  nodup_aggregates := nodup_foldl_upsert h.nodup_aggregates
  nodup_receipts := nodup_insertNew h.nodup_receipts
    (insertNew_eq_some.2 ⟨hnew, rfl⟩ : insertNew ReceiptRow.requestId _ _ = some _)
  written row hrow := by
    rcases mem_after.1 hrow with ⟨m, -, hm⟩ | ⟨hold, -⟩
    · exact ⟨m, hm⟩
    · exact h.written row hold
  receipts row hrow := by
    rcases mem_append.1 hrow with hold | hnew
    · exact h.receipts row hold
    · exact ⟨request, mem_singleton.1 hnew⟩

theorem StorageInvariant.apply (h : StorageInvariant sha256 rows) :
    StorageInvariant sha256 (applyTransaction sha256 rows request).1 := by
  rcases applyTransaction_cases request h.nodup_aggregates with ⟨heq, -⟩ | ⟨-, hnew, heq⟩
  · rwa [heq]
  · rw [heq]
    exact h.after hnew

def applyAll (sha256 : String → Digest) (rows : StorageRows)
    (requests : List StorageTransactionRequest) : StorageRows :=
  requests.foldl (fun rows r => (applyTransaction sha256 rows r).1) rows

theorem storage_run (h : StorageInvariant sha256 rows) :
    StorageInvariant sha256 (applyAll sha256 rows requests) := by
  induction requests generalizing rows with
  | nil => exact h
  | cons r requests ih => exact ih h.apply

def Spares (sha256 : String → Digest) (keys : List AggregateKey) :
    StorageRows → List StorageTransactionRequest → Prop
  | _, [] => True
  | rows, r :: rs =>
    ((applyTransaction sha256 rows r).2.decision = .apply → ∀ k ∈ keys, k ∉ r.keys) ∧
      Spares sha256 keys (applyTransaction sha256 rows r).1 rs

theorem Spares.stays {keys : List AggregateKey} (hinv : StorageInvariant sha256 rows)
    (h : Spares sha256 keys rows requests) :
    (∀ row ∈ rows.aggregates, row.key ∈ keys → row ∈ (applyAll sha256 rows requests).aggregates) ∧
      ∀ row ∈ rows.receipts, row ∈ (applyAll sha256 rows requests).receipts := by
  induction requests generalizing rows with
  | nil => exact ⟨fun row hrow _ => hrow, fun row hrow => hrow⟩
  | cons r requests ih =>
    obtain ⟨hspares, hrest⟩ := h
    obtain ⟨haggregates, hreceipts⟩ := ih hinv.apply hrest
    rcases applyTransaction_cases r hinv.nodup_aggregates with ⟨heq, -⟩ | ⟨-, -, heq⟩
    · rw [heq] at haggregates hreceipts
      rw [applyAll, foldl_cons, heq]
      exact ⟨haggregates, hreceipts⟩
    · rw [heq] at haggregates hreceipts hspares
      rw [applyAll, foldl_cons, heq]
      have hkeys := hspares rfl
      constructor
      · intro row hrow hkey
        exact haggregates row (mem_after.2 (.inr ⟨hrow, hkeys row.key hkey⟩)) hkey
      · exact fun row hrow => hreceipts row (mem_append_left _ hrow)

end

/-! ## Reads -/

section
variable {sha256 : String → Digest} {rows : StorageRows} {row : AggregateRow} {b : StoredAggregate}
  {request : StorageTransactionRequest} {m : AggregateMutation} {type mismatch : String}

/-- The row of an aggregate whose state holds no `timedelta`. -/
def Readable (sha256 : String → Digest) (row : AggregateRow) : Prop :=
  ∃ m : AggregateMutation, timedeltaFree m.state = true ∧ row = m.committed.row sha256

theorem StorageInvariant.readable_iff (h : StorageInvariant sha256 rows)
    (hrow : row ∈ rows.aggregates) :
    Readable sha256 row ↔ ∃ b, readAggregate sha256 mismatch row = .ok b := by
  constructor
  · rintro ⟨m, hfree, rfl⟩
    obtain ⟨b, hb, -⟩ := readAggregate_row (a := m.committed) _ m.wf hfree
    exact ⟨b, hb⟩
  · rintro ⟨b, hb⟩
    obtain ⟨m, rfl⟩ := h.written row hrow
    exact ⟨m, timedeltaFree_of_readAggregate (a := m.committed) m.wf hb, rfl⟩

theorem getAggregate_of_mem (h : StorageInvariant sha256 rows) (hrow : row ∈ rows.aggregates) :
    getAggregate sha256 rows row.key = (decodeAggregateRow sha256 row).map some := by
  rw [getAggregate, filter_key_eq h.nodup_aggregates hrow]

theorem sortedAggregates_of {as : List StoredAggregate}
    (h : (as.map StoredAggregate.key).Pairwise fun a b => a.order < b.order) :
    sortedAggregates as = as := by
  rw [pairwise_map] at h
  exact sortBy_of_pairwise h

theorem pairwise_selected (h : StorageInvariant sha256 rows) :
    (sortBy (fun row : AggregateRow => row.key.aggregateId)
      (rows.aggregates.filter fun row => decide (row.key.aggregateType = type))).Pairwise
      fun a b => a.key.order < b.key.order := by
  have htype : ∀ row ∈ rows.aggregates.filter fun row => decide (row.key.aggregateType = type),
      row.key.aggregateType = type := fun row hrow => of_decide_eq_true (mem_filter.1 hrow).2
  have hkeys : ((rows.aggregates.filter fun row =>
      decide (row.key.aggregateType = type)).map AggregateRow.key).Nodup :=
    h.nodup_aggregates.sublist (filter_sublist.map _)
  have hids : ((rows.aggregates.filter fun row =>
      decide (row.key.aggregateType = type)).map fun row => row.key.aggregateId).Nodup := by
    refine List.Nodup.map_on ?_ hkeys.of_map
    intro a ha c hc hid
    refine inj_on_of_nodup_map hkeys ha hc (AggregateKey.order_injective ?_)
    rw [AggregateKey.order, AggregateKey.order, hid, htype a ha, htype c hc]
  refine (pairwise_lt_sortBy hids).imp_of_mem ?_
  intro a c ha hc hlt
  rw [mem_sortBy] at ha hc
  exact Prod.Lex.toLex_lt_toLex.2 (.inr ⟨(htype a ha).trans (htype c hc).symm, hlt⟩)

theorem listType_eq_ok (h : StorageInvariant sha256 rows) (htype : notBlank type = true)
    {bs : List StoredAggregate} : listType sha256 rows type = .ok bs ↔
      (sortBy (fun row : AggregateRow => row.key.aggregateId)
        (rows.aggregates.filter fun row => decide (row.key.aggregateType = type))).map
        (readAggregate sha256 mismatch) = bs.map .ok := by
  have hread : ∀ rs : List AggregateRow, rs.map (decodeAggregateRow sha256) = bs.map .ok ↔
      rs.map (readAggregate sha256 mismatch) = bs.map .ok := by
    intro rs
    induction bs generalizing rs with
    | nil => simp
    | cons b bs ih =>
      simp only [map_cons, map_eq_cons_iff, decodeAggregateRow_eq_ok mismatch,
        ih]
  rw [listType, ensure_of htype, ok_bind]
  constructor
  · intro hlist
    obtain ⟨as, has, hlist⟩ := bind_eq_ok.1 hlist
    obtain ⟨_, -, hlist⟩ := bind_eq_ok.1 hlist
    cases hlist
    exact (hread _).1 (collect_eq_ok.1 has)
  · intro hrows
    have hsorted : sortedAggregates bs = bs := by
      refine sortedAggregates_of ?_
      rw [map_key_of_read hrows]
      exact pairwise_map.2 (pairwise_selected h)
    dsimp only
    rw [collect_eq_ok.2 ((hread _).2 hrows), ok_bind, ensure_of (by rw [hsorted]), ok_bind]
    rfl

theorem listType_iff (h : StorageInvariant sha256 rows) (htype : notBlank type = true) :
    (∃ bs, listType sha256 rows type = .ok bs) ↔
      ∀ row ∈ rows.aggregates, row.key.aggregateType = type → Readable sha256 row := by
  constructor
  · rintro ⟨bs, hbs⟩ row hrow hkey
    have hmem : readAggregate sha256 "" row ∈ bs.map Except.ok := by
      rw [← (listType_eq_ok h htype).1 hbs]
      exact mem_map_of_mem ((mem_sortBy _).2 (mem_filter.2 ⟨hrow, decide_eq_true hkey⟩))
    obtain ⟨b, -, hb⟩ := mem_map.1 hmem
    exact (h.readable_iff hrow).2 ⟨b, hb.symm⟩
  · intro hall
    have hread : ∀ row ∈ sortBy (fun row : AggregateRow => row.key.aggregateId)
        (rows.aggregates.filter fun row => decide (row.key.aggregateType = type)),
        ∃ b, readAggregate sha256 "" row = .ok b := by
      intro row hrow
      obtain ⟨hrow, hkey⟩ := mem_filter.1 ((mem_sortBy _).1 hrow)
      exact (h.readable_iff hrow).1 (hall row hrow (of_decide_eq_true hkey))
    obtain ⟨bs, hbs⟩ := exists_map_ok hread
    exact ⟨bs, (listType_eq_ok h htype).2 hbs⟩

theorem loadReceipt_of_committed (h : StorageInvariant sha256 rows)
    (hrow : (request.receipt sha256).row sha256 ∈ rows.receipts)
    (hfree : ∀ m ∈ request.mutations, timedeltaFree m.state = true) :
    ∃ first, loadReceipt sha256 rows request.requestId = .ok (some first) ∧
      first.requestId = request.requestId ∧
      first.requestFingerprint = request.fingerprint sha256 ∧
      first.outcomeFingerprint = (request.receipt sha256).outcomeFingerprint ∧
      List.Forall₂ (SameAggregate sha256) request.committed first.committed := by
  have hread : ∀ ms : List AggregateMutation, (∀ m ∈ ms, timedeltaFree m.state = true) →
      ∃ bs, ((ms.map AggregateMutation.committed).map (StoredAggregate.row sha256)).map
          (readAggregate sha256 "PostgreSQL receipt state fingerprint does not match bytes") =
          bs.map .ok ∧
        List.Forall₂ (SameAggregate sha256) (ms.map AggregateMutation.committed) bs := by
    intro ms hms
    induction ms with
    | nil => exact ⟨[], rfl, .nil⟩
    | cons m ms ih =>
      obtain ⟨b, hb, hsame⟩ := readAggregate_row (a := m.committed) _ m.wf (hms m mem_cons_self)
      obtain ⟨bs, hbs, hrest⟩ := ih fun m hm => hms m (mem_cons_of_mem _ hm)
      refine ⟨b :: bs, ?_, .cons hsame hrest⟩
      rw [map_cons, map_cons, map_cons, hb, hbs, map_cons]
  obtain ⟨bs, hbs, hsame⟩ := hread request.mutations hfree
  have hkeys : bs.map StoredAggregate.key = request.keys := by
    rw [map_key_of_read hbs, map_map, map_map]
    rfl
  have hsorted : sortedAggregates bs = bs := by
    refine sortedAggregates_of ?_
    rw [hkeys]
    exact pairwise_map.2 request.sorted
  have hfilter := filter_key_eq h.nodup_receipts hrow
  refine ⟨⟨request.requestId, request.fingerprint sha256,
    (request.receipt sha256).outcomeFingerprint, bs⟩, ?_, rfl, rfl, rfl, hsame⟩
  have hid : ((request.receipt sha256).row sha256).requestId = request.requestId := rfl
  rw [hid] at hfilter
  rw [loadReceipt, hfilter]
  have hcollect := collect_eq_ok.2 hbs
  dsimp only [StorageTransactionReceipt.row, StorageTransactionRequest.receipt]
  rw [StorageTransactionRequest.committed, hcollect, ok_bind, hsorted]
  rfl

theorem timedeltaFree_of_loadReceipt (h : StorageInvariant sha256 rows)
    (hrow : (request.receipt sha256).row sha256 ∈ rows.receipts)
    {prior : Option StorageTransactionReceipt}
    (hload : loadReceipt sha256 rows request.requestId = .ok prior)
    (hm : m ∈ request.mutations) : timedeltaFree m.state = true := by
  have hfilter := filter_key_eq h.nodup_receipts hrow
  have hid : ((request.receipt sha256).row sha256).requestId = request.requestId := rfl
  rw [hid] at hfilter
  rw [loadReceipt, hfilter] at hload
  obtain ⟨bs, hbs, -⟩ := bind_eq_ok.1 hload
  have hmem : readAggregate sha256 "PostgreSQL receipt state fingerprint does not match bytes"
      (m.committed.row sha256) ∈ bs.map Except.ok := by
    rw [← collect_eq_ok.1 hbs]
    exact mem_map_of_mem (mem_map_of_mem (mem_map_of_mem hm))
  obtain ⟨b, -, hb⟩ := mem_map.1 hmem
  exact timedeltaFree_of_readAggregate (a := m.committed) m.wf hb.symm

/-! ## Reading a commit -/

/-- A commit is read back: by `get`, by `list_type`, by a request that loads its keys
    and by its own retry. -/
structure ReadsBack (sha256 : String → Digest) (request : StorageTransactionRequest)
    (rows : StorageRows) : Prop where
  get : ∀ m ∈ request.mutations, ∃ b, getAggregate sha256 rows m.key = .ok (some b) ∧
    SameAggregate sha256 m.committed b
  list : ∀ m ∈ request.mutations, ∃ bs, listType sha256 rows m.key.aggregateType = .ok bs ∧
    ∃ b ∈ bs, SameAggregate sha256 m.committed b
  load : ∀ r : StorageTransactionRequest, (∀ k ∈ r.keys, k ∈ request.keys) →
    ∃ current, loadCurrent sha256 rows r.keys = .ok current ∧
      ∀ m ∈ request.mutations, m.key ∈ r.keys → ∃ b ∈ current, SameAggregate sha256 m.committed b
  replay : (applyTransaction sha256 rows request).1 = rows ∧
    (applyTransaction sha256 rows request).2.decision = .replayExisting ∧
    List.Forall₂ (SameAggregate sha256) request.committed
      (applyTransaction sha256 rows request).2.aggregates

/-- The states of the request hold no `timedelta`, nor do the others of their types. -/
def TypesReadable (sha256 : String → Digest) (request : StorageTransactionRequest)
    (rows : StorageRows) : Prop :=
  (∀ m ∈ request.mutations, timedeltaFree m.state = true) ∧
    ∀ row ∈ rows.aggregates, ∀ m ∈ request.mutations,
      row.key.aggregateType = m.key.aggregateType → Readable sha256 row

theorem get_of_timedeltaFree (h : StorageInvariant sha256 rows)
    (hrow : m.committed.row sha256 ∈ rows.aggregates) (hfree : timedeltaFree m.state = true) :
    ∃ b, getAggregate sha256 rows m.key = .ok (some b) ∧ SameAggregate sha256 m.committed b := by
  obtain ⟨b, hb, hsame⟩ := readAggregate_row (a := m.committed) "" m.wf hfree
  refine ⟨b, ?_, hsame⟩
  have hget := getAggregate_of_mem h hrow
  rw [(decodeAggregateRow_eq_ok "").2 hb] at hget
  exact hget

theorem timedeltaFree_of_get (h : StorageInvariant sha256 rows)
    (hrow : m.committed.row sha256 ∈ rows.aggregates) {found : Option StoredAggregate}
    (hget : getAggregate sha256 rows m.key = .ok found) : timedeltaFree m.state = true := by
  have hread : (decodeAggregateRow sha256 (m.committed.row sha256)).map some = .ok found :=
    (getAggregate_of_mem h hrow).symm.trans hget
  obtain ⟨b, hb, -⟩ := map_eq_ok.1 hread
  exact timedeltaFree_of_readAggregate (a := m.committed) m.wf
    ((decodeAggregateRow_eq_ok "").1 hb)

theorem same_of_read (hfree : timedeltaFree m.state = true)
    (hb : readAggregate sha256 mismatch (m.committed.row sha256) = .ok b) :
    SameAggregate sha256 m.committed b := by
  obtain ⟨c, hc, hsame⟩ := readAggregate_row (a := m.committed) _ m.wf hfree
  rw [hb] at hc
  cases hc
  exact hsame

theorem load_of_timedeltaFree (h : StorageInvariant sha256 rows)
    (hrows : ∀ m ∈ request.mutations, m.committed.row sha256 ∈ rows.aggregates)
    (hfree : ∀ m ∈ request.mutations, timedeltaFree m.state = true) {keys : List AggregateKey}
    (hkeys : ∀ k ∈ keys, k ∈ request.keys) :
    ∃ current, loadCurrent sha256 rows keys = .ok current ∧
      ∀ m ∈ request.mutations, m.key ∈ keys →
        ∃ b ∈ current, SameAggregate sha256 m.committed b := by
  obtain ⟨current, hcurrent⟩ : ∃ current, loadCurrent sha256 rows keys = .ok current := by
    refine exists_loadCurrent h.nodup_aggregates fun row hrow hkey => ?_
    obtain ⟨m, hm, hmk⟩ := mem_map.1 (hkeys _ hkey)
    obtain rfl : m.committed.row sha256 = row :=
      inj_on_of_nodup_map h.nodup_aggregates (hrows m hm) hrow hmk
    exact (h.readable_iff hrow).1 ⟨m, hfree m hm, rfl⟩
  refine ⟨current, hcurrent, fun m hm hk => ?_⟩
  obtain ⟨b, hb, hsame⟩ := readAggregate_row (a := m.committed)
    "PostgreSQL aggregate state fingerprint does not match bytes" m.wf (hfree m hm)
  exact ⟨b, ((loadCurrent_spec h.nodup_aggregates hcurrent).2 b).2 ⟨_, hrows m hm, hk, hb⟩, hsame⟩

theorem replay_of_timedeltaFree (h : StorageInvariant sha256 rows)
    (hreceipt : (request.receipt sha256).row sha256 ∈ rows.receipts)
    (hload : ∃ current, loadCurrent sha256 rows request.keys = .ok current)
    (hfree : ∀ m ∈ request.mutations, timedeltaFree m.state = true) :
    (applyTransaction sha256 rows request).1 = rows ∧
      (applyTransaction sha256 rows request).2.decision = .replayExisting ∧
      List.Forall₂ (SameAggregate sha256) request.committed
        (applyTransaction sha256 rows request).2.aggregates := by
  obtain ⟨current, hcurrent⟩ := hload
  obtain ⟨first, hfirst, hid, hfp, -, hsame⟩ := loadReceipt_of_committed h hreceipt hfree
  have hresolve := resolve_replay (loadCurrent_spec h.nodup_aggregates hcurrent).1 hid hfp
  have htransaction : loadTransaction sha256 rows request = .ok (current,
      receiptResolution sha256 request first.committed .replayExisting first (by decide)) := by
    rw [loadTransaction, hcurrent]
    simp only [hfirst, ok_bind, hresolve]
  rw [applyTransaction, htransaction]
  exact ⟨rfl, rfl, hsame⟩

theorem readsBack_iff (h : StorageInvariant sha256 rows)
    (hrows : ∀ m ∈ request.mutations, m.committed.row sha256 ∈ rows.aggregates)
    (hreceipt : (request.receipt sha256).row sha256 ∈ rows.receipts) :
    ReadsBack sha256 request rows ↔ TypesReadable sha256 request rows := by
  constructor
  · intro hreads
    constructor
    · intro m hm
      obtain ⟨b, hb, -⟩ := hreads.get m hm
      exact timedeltaFree_of_get h (hrows m hm) hb
    · intro row hrow m hm htype
      obtain ⟨bs, hbs, -⟩ := hreads.list m hm
      exact (listType_iff h m.key.aggregateType_notBlank).1 ⟨bs, hbs⟩ row hrow htype
  · rintro ⟨hfree, htypes⟩
    constructor
    · exact fun m hm => get_of_timedeltaFree h (hrows m hm) (hfree m hm)
    · intro m hm
      obtain ⟨bs, hbs⟩ := (listType_iff h m.key.aggregateType_notBlank).2
        fun row hrow htype => htypes row hrow m hm htype
      have hmem : readAggregate sha256 "" (m.committed.row sha256) ∈ bs.map Except.ok := by
        rw [← (listType_eq_ok h m.key.aggregateType_notBlank).1 hbs]
        exact mem_map_of_mem ((mem_sortBy _).2
          (mem_filter.2 ⟨hrows m hm, decide_eq_true rfl⟩))
      obtain ⟨b, hb, hread⟩ := mem_map.1 hmem
      exact ⟨bs, hbs, b, hb, same_of_read (hfree m hm) hread.symm⟩
    · exact fun r hr => load_of_timedeltaFree h hrows hfree hr
    · refine replay_of_timedeltaFree h hreceipt ?_ hfree
      obtain ⟨current, hcurrent, -⟩ := load_of_timedeltaFree h hrows hfree fun k hk => hk
      exact ⟨current, hcurrent⟩

/-- **A committed request is read back exactly where the types of its keys are readable**:
    whatever was committed before, and after any requests that do not commit its keys. -/
theorem committed_readsBack_iff {before later : List StorageTransactionRequest}
    (happly : (applyTransaction sha256 (applyAll sha256 {} before) request).2.decision = .apply)
    (hlater : Spares sha256 request.keys
      (applyTransaction sha256 (applyAll sha256 {} before) request).1 later) :
    ReadsBack sha256 request (applyAll sha256 {} (before ++ request :: later)) ↔
      TypesReadable sha256 request (applyAll sha256 {} (before ++ request :: later)) := by
  have hbefore : StorageInvariant sha256 (applyAll sha256 {} before) :=
    storage_run StorageInvariant.empty
  have hafter : StorageInvariant sha256
      (applyTransaction sha256 (applyAll sha256 {} before) request).1 := hbefore.apply
  obtain ⟨haggregates, hreceipts⟩ := hlater.stays hafter
  have hrun : applyAll sha256 {} (before ++ request :: later) =
      applyAll sha256 (applyTransaction sha256 (applyAll sha256 {} before) request).1 later := by
    rw [applyAll, foldl_append]
    rfl
  rcases applyTransaction_cases request hbefore.nodup_aggregates with
    ⟨-, hne⟩ | ⟨-, -, heq⟩
  · exact absurd happly hne
  · rw [hrun]
    rw [heq] at haggregates hreceipts hafter ⊢
    refine readsBack_iff (storage_run hafter) (fun m hm => ?_) ?_
    · exact haggregates _ (mem_after.2 (.inl ⟨m, hm, rfl⟩)) (mem_map_of_mem hm)
    · exact hreceipts _ (mem_append_right _ mem_cons_self)

def createRequest (state : PyValue) (frozen : Frozen state) (accepted : Accepted state)
    (wf : Wf state) : StorageTransactionRequest where
  requestId := ⟨"create"⟩
  mutations :=
    [{ key := ⟨"policy", "retries", by decide, by decide⟩
       state := state
       expectedVersion := 0
       expectedStateFingerprint := none
       frozen := frozen
       accepted := accepted
       wf := wf
       expected_iff := by simp }]
  nonempty := cons_ne_nil _ _
  sorted := pairwise_singleton _ _

def retriesRequest : StorageTransactionRequest := createRequest (.int 3) .int ⟨_, rfl⟩ .int

def delayRequest : StorageTransactionRequest :=
  createRequest (.timedelta ⟨0, 5, 0⟩) .timedelta ⟨_, rfl⟩ .timedelta

theorem retries_readsBack :
    ReadsBack Digest.mk retriesRequest (applyAll Digest.mk {} ([] ++ retriesRequest :: [])) := by
  have happly : (applyTransaction Digest.mk (applyAll Digest.mk {} []) retriesRequest).2.decision =
      .apply := by decide +kernel
  have hlater : Spares Digest.mk retriesRequest.keys
      (applyTransaction Digest.mk (applyAll Digest.mk {} []) retriesRequest).1 [] := trivial
  refine (committed_readsBack_iff happly hlater).2 ⟨by decide, ?_⟩
  intro row hrow m hm _
  have hrows : (applyAll Digest.mk {} ([] ++ retriesRequest :: [])).aggregates =
      retriesRequest.mutations.map fun m => m.committed.row Digest.mk := by decide +kernel
  rw [hrows] at hrow
  obtain ⟨c, hc, rfl⟩ := mem_map.1 hrow
  exact ⟨c, by rw [mem_singleton.1 hc]; rfl, rfl⟩

/-- **A `timedelta` is committed and never read again**, not even by its own retry. -/
theorem delay_never_read :
    (applyTransaction Digest.mk {} delayRequest).2.decision = .apply ∧
      (getAggregate Digest.mk (applyTransaction Digest.mk {} delayRequest).1
        ⟨"policy", "retries", by decide, by decide⟩).isOk = false ∧
      (listType Digest.mk (applyTransaction Digest.mk {} delayRequest).1 "policy").isOk = false ∧
      (applyTransaction Digest.mk (applyTransaction Digest.mk {} delayRequest).1
        delayRequest).2.decision = .reject := by decide +kernel

end

end ChartingPlatform
