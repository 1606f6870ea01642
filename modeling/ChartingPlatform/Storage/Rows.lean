/-
  Rows of the aggregate store (`postgres_storage.py`): the decoder of a state, and
  what is read from and written to the two tables.

  A receipt's `committed_json` stands here as the list of its entries, which have the
  columns of an aggregate row; the text of a state is canonical JSON.
-/
import ChartingPlatform.Canonical.TagDecoder
import ChartingPlatform.Storage.Aggregates

namespace ChartingPlatform

open Lib List

/-! ## The decoder -/

/-- `values[item[0]] = _decode_canonical(item[1])`, entry by entry. -/
def storedEntries : List EntryOutcome → List (PyKey × PyValue) →
    Except PyError (List (PyKey × PyValue))
  | [], values => .ok values
  | e :: es, values => do
    let (key, outcome) ← e
    let value ← outcome
    storedEntries es (upsert Prod.fst (.str key, value) values)

def storedMapping (es : List EntryOutcome) : Except PyError PyValue :=
  (storedEntries es []).map .mapping

variable {values : List (PyKey × PyValue)}

theorem storedEntries_reads {es : List EntryOutcome} {result : List (PyKey × PyValue)}
    (h : storedEntries es values = .ok result) :
    ∃ items : List (String × PyValue), es = items.map readEntry := by
  induction es generalizing values with
  | nil => exact ⟨[], rfl⟩
  | cons e es ih =>
    obtain ⟨⟨key, outcome⟩, he, h⟩ := bind_eq_ok.1 h
    obtain ⟨value, hvalue, h⟩ := bind_eq_ok.1 h
    obtain ⟨items, rfl⟩ := ih h
    obtain rfl : outcome = .ok value := hvalue
    exact ⟨(key, value) :: items, congrArg (· :: items.map readEntry) he⟩

theorem storedEntries_of_nodup {items : List (String × PyValue)}
    (hn : (values.map Prod.fst ++ items.map fun i => PyKey.str i.1).Nodup) :
    storedEntries (items.map readEntry) values =
      .ok (values ++ items.map fun i => (.str i.1, i.2)) := by
  induction items generalizing values with
  | nil => rw [map_nil, map_nil, append_nil]; rfl
  | cons i items ih =>
    have hnew : PyKey.str i.1 ∉ values.map Prod.fst := fun hmem =>
      disjoint_of_nodup_append hn hmem mem_cons_self
    have happend : upsert Prod.fst (PyKey.str i.1, i.2) values = values ++ [(.str i.1, i.2)] :=
      if_neg hnew
    rw [map_cons, storedEntries, readEntry, ok_bind]
    dsimp only
    rw [ok_bind, happend, ih]
    · rw [append_assoc]
      rfl
    · rw [map_append, append_assoc]
      exact hn

def unreadableText (word text : String) : PyError :=
  if word = "int" then valueError ("invalid literal for int() with base 10: '" ++ text ++ "'")
  else if word = "float" then valueError "invalid hexadecimal floating-point string"
  else if word = "decimal" then valueError "canonical decimal value is malformed"
  else valueError ("Invalid isoformat string: '" ++ text ++ "'")

/-- The decoder of `postgres_storage.py`. -/
def storedDecoder : TagDecoder where
  label := "state"
  noun := "value"
  unreadable := unreadableText
  mapping := storedMapping
  mapping_reads := by
    intro es v h
    obtain ⟨values, hvalues, -⟩ := map_eq_ok.1 h
    exact storedEntries_reads hvalues
  mapping_sorted := by
    intro items hs
    have hn : (items.map Prod.fst).Nodup := nodup_map_of_pairwise_lt hs
    have hkeys : (([] : List (PyKey × PyValue)).map Prod.fst ++
        items.map fun i => PyKey.str i.1).Nodup := by
      have hmap := hn.map (f := PyKey.str) fun a b hab => PyKey.str.inj hab
      rwa [map_map] at hmap
    rw [storedMapping, storedEntries_of_nodup hkeys]
    rfl

/-- `_decode_state`. -/
def decodeState (raw : String) : Except PyError PyValue := do
  match ← orRaise (Json.loads raw) "Expecting value" with
  | .arr items =>
    let decoded ← storedDecoder.decode (.arr items)
    freezeJson decoded
  | _ => .error (valueError "PostgreSQL state JSON is malformed")

/-- `canonical_json` of data that canonical JSON accepts. -/
def canonicalText (v : PyValue) : String :=
  match canonicalJson v with
  | .ok s => s
  | .error e => e.message

section
variable {sha256 : String → Digest} {v d : PyValue}

theorem canonicalText_of {j : Json} (hj : canonicalValue v = .ok j) :
    canonicalText v = Json.dumps j := by
  rw [canonicalText, show canonicalJson v = .ok (Json.dumps j) from map_eq_ok.2 ⟨j, hj, rfl⟩]

theorem digest_of {j : Json} (hj : canonicalValue v = .ok j) :
    digest sha256 v = sha256 (Json.dumps j) := by
  rw [digest, show contentDigest sha256 v = .ok (sha256 (Json.dumps j)) from
    map_eq_ok.2 ⟨_, map_eq_ok.2 ⟨j, hj, rfl⟩, rfl⟩]

theorem decodeState_dumps {tag : String} {rest : List Json} :
    decodeState (Json.dumps (tagged tag rest)) =
      storedDecoder.decode (tagged tag rest) >>= freezeJson := by
  rw [decodeState, Json.loads_dumps, orRaise, ok_bind]
  rfl

/-- **A state without a `timedelta` is read back**, with its digest. -/
theorem decodeState_canonicalText (hf : Frozen v) (ha : Accepted v) (hwf : Wf v)
    (h : timedeltaFree v = true) : ∃ d, decodeState (canonicalText v) = .ok d ∧ Same v d ∧
      Frozen d ∧ Accepted d ∧ digest sha256 d = digest sha256 v := by
  obtain ⟨j, hj⟩ := ha
  obtain ⟨d, hd, hsame, hfrozen⟩ := restored_of_timedeltaFree (D := storedDecoder) hf hwf h j hj
  have htree : canonicalValue d = .ok j := canonicalValue_of_same v hwf d j hsame hj
  refine ⟨d, ?_, hsame, hfrozen, ⟨j, htree⟩, by rw [digest_of htree, digest_of hj]⟩
  obtain ⟨rest, hrest⟩ := canonicalValue_tag hj
  rw [canonicalText_of hj, hrest, decodeState_dumps, ← hrest, hd, ok_bind, freezeJson, htree,
    ok_bind, freezeValue_of_frozen hfrozen]
  rfl

/-- **A state that is read back holds no `timedelta`.** -/
theorem timedeltaFree_of_decodeState (hf : Frozen v) (ha : Accepted v) (hwf : Wf v)
    (h : decodeState (canonicalText v) = .ok d) : timedeltaFree v = true := by
  obtain ⟨j, hj⟩ := ha
  obtain ⟨rest, hrest⟩ := canonicalValue_tag hj
  rw [canonicalText_of hj, hrest, decodeState_dumps, ← hrest] at h
  obtain ⟨w, hw, -⟩ := bind_eq_ok.1 h
  exact timedeltaFree_of_decoded hf hwf j w hj hw

end

/-! ## Rows -/

/-- A row of the aggregate table, and an entry of `committed_json`. -/
structure AggregateRow where
  key : AggregateKey
  version : ℕ
  stateJson : String
  stateFingerprint : Digest
  deriving DecidableEq

structure ReceiptRow where
  requestId : Digest
  requestFingerprint : Digest
  outcomeFingerprint : Digest
  committed : List AggregateRow
  deriving DecidableEq

structure StorageRows where
  aggregates : List AggregateRow := []
  receipts : List ReceiptRow := []
  deriving DecidableEq

def StoredAggregate.row (sha256 : String → Digest) (a : StoredAggregate) : AggregateRow where
  key := a.key
  version := a.version
  stateJson := canonicalText a.state
  stateFingerprint := a.stateFingerprint sha256

def StorageTransactionReceipt.row (sha256 : String → Digest) (r : StorageTransactionReceipt) :
    ReceiptRow where
  requestId := r.requestId
  requestFingerprint := r.requestFingerprint
  outcomeFingerprint := r.outcomeFingerprint
  committed := r.committed.map (StoredAggregate.row sha256)

section
variable (sha256 : String → Digest)

def readAggregate (mismatch : String) (row : AggregateRow) : Except PyError StoredAggregate := do
  let state ← decodeState row.stateJson
  let a ← makeStoredAggregate row.key row.version state
  ensure (a.stateFingerprint sha256 = row.stateFingerprint) (valueError mismatch)
  return a

/-- `_decode_aggregate_row`. -/
def decodeAggregateRow (row : AggregateRow) : Except PyError StoredAggregate := do
  let a ← rewrap (do makeStoredAggregate row.key row.version (← decodeState row.stateJson))
    "PostgreSQL aggregate row is malformed"
  ensure (a.stateFingerprint sha256 = row.stateFingerprint)
    (valueError "PostgreSQL aggregate state fingerprint does not match bytes")
  return a

/-- The loop of `_load_current`. -/
def readRows : List AggregateRow → List AggregateKey → Except PyError (List StoredAggregate)
  | [], _ => .ok []
  | row :: rows, seen => do
    ensure (row.key ∉ seen) (valueError "PostgreSQL aggregate query returned duplicate keys")
    let a ← readAggregate sha256
      "PostgreSQL aggregate state fingerprint does not match bytes" row
    return a :: (← readRows rows (row.key :: seen))

/-- `_load_current`. -/
def loadCurrent (rows : StorageRows) (keys : List AggregateKey) :
    Except PyError (List StoredAggregate) :=
  (readRows sha256 (rows.aggregates.filter fun row => decide (row.key ∈ keys)) []).map
    sortedAggregates

/-- `_load_receipt`. -/
def loadReceipt (rows : StorageRows) (requestId : Digest) :
    Except PyError (Option StorageTransactionReceipt) :=
  match rows.receipts.filter fun row => decide (row.requestId = requestId) with
  | [] => .ok none
  | [row] => do
    let committed ← collect (row.committed.map (readAggregate sha256
      "PostgreSQL receipt state fingerprint does not match bytes"))
    return some
      { requestId := row.requestId
        requestFingerprint := row.requestFingerprint
        outcomeFingerprint := row.outcomeFingerprint
        committed := sortedAggregates committed }
  | _ => .error (valueError "PostgreSQL receipt query returned duplicate request IDs")

/-- `get`. -/
def getAggregate (rows : StorageRows) (key : AggregateKey) :
    Except PyError (Option StoredAggregate) :=
  match rows.aggregates.filter fun row => decide (row.key = key) with
  | [] => .ok none
  | [row] => (decodeAggregateRow sha256 row).map some
  | _ => .error (valueError "PostgreSQL aggregate read returned duplicate keys")

/-- `list_type`. -/
def listType (rows : StorageRows) (aggregateType : String) :
    Except PyError (List StoredAggregate) := do
  ensure (notBlank aggregateType = true) (valueError "aggregate_type must not be empty")
  let selected := sortBy (fun row : AggregateRow => row.key.aggregateId)
    (rows.aggregates.filter fun row => decide (row.key.aggregateType = aggregateType))
  let aggregates ← collect (selected.map (decodeAggregateRow sha256))
  ensure ((sortedAggregates aggregates).map StoredAggregate.key = aggregates.map StoredAggregate.key)
    (valueError "PostgreSQL aggregate list is not deterministically ordered")
  return aggregates

/-- The `INSERT` or `UPDATE` of a mutation, unless its row count is not one. -/
def writeMutation (m : AggregateMutation) (a : StoredAggregate) (rows : List AggregateRow) :
    Option (List AggregateRow) :=
  if m.expectedVersion = 0 then insertNew AggregateRow.key (a.row sha256) rows
  else if rows.any fun row => decide (row.key = a.key) && decide (row.version = m.expectedVersion) &&
      decide (some row.stateFingerprint = m.expectedStateFingerprint) then
    some (updateRow AggregateRow.key a.key (fun _ => a.row sha256) rows)
  else none

/-- The writes of the mutations; `by_key` finds the aggregate of each. -/
def writeMutations (aggregates : List StoredAggregate) :
    List AggregateMutation → List AggregateRow → Option (List AggregateRow)
  | [], rows => some rows
  | m :: ms, rows => do
    let a ← rowWith StoredAggregate.key m.key aggregates
    writeMutations aggregates ms (← writeMutation sha256 m a rows)

/-- `_persist`: the new tables, or nothing where it lost a race. -/
def persistTransaction (request : StorageTransactionRequest) (aggregates : List StoredAggregate)
    (receipt : StorageTransactionReceipt) (rows : StorageRows) : Option StorageRows := do
  let written ← writeMutations sha256 aggregates request.mutations rows.aggregates
  let receipts ← insertNew ReceiptRow.requestId (receipt.row sha256) rows.receipts
  return { aggregates := written, receipts := receipts }

end

/-! ## What is read -/

structure SameAggregate (sha256 : String → Digest) (a b : StoredAggregate) : Prop where
  key : b.key = a.key
  version : b.version = a.version
  state : Same a.state b.state
  fingerprint : b.stateFingerprint sha256 = a.stateFingerprint sha256

section
variable {sha256 : String → Digest} {a b : StoredAggregate} {row : AggregateRow} {mismatch : String}
  {rows : StorageRows} {keys : List AggregateKey} {current : List StoredAggregate}
  {m : AggregateMutation} {rs rs' : List AggregateRow}

theorem readAggregate_spec (h : readAggregate sha256 mismatch row = .ok b) :
    b.key = row.key ∧ b.version = row.version ∧ b.stateFingerprint sha256 = row.stateFingerprint := by
  obtain ⟨state, -, h⟩ := bind_eq_ok.1 h
  obtain ⟨c, hc, h⟩ := bind_eq_ok.1 h
  obtain ⟨_, hfp, h⟩ := bind_eq_ok.1 h
  cases h
  refine ⟨?_, ?_, ensure_eq_ok.1 hfp⟩
  all_goals
    unfold makeStoredAggregate at hc
    split_ifs at hc
    split at hc
    · cases hc
    · cases hc
      rfl

/-- **The row of an aggregate without a `timedelta` is read back.** -/
theorem readAggregate_row (mismatch : String) (hwf : Wf a.state) (h : timedeltaFree a.state = true) :
    ∃ b, readAggregate sha256 mismatch (a.row sha256) = .ok b ∧ SameAggregate sha256 a b := by
  obtain ⟨d, hd, hsame, hfrozen, ⟨j, hj⟩, hdigest⟩ :=
    decodeState_canonicalText a.frozen a.accepted hwf h
  let b : StoredAggregate := ⟨a.key, a.version, d, a.version_pos, hfrozen, ⟨j, hj⟩⟩
  have hmake : makeStoredAggregate a.key a.version d = .ok b := by
    rw [makeStoredAggregate, dif_pos a.version_pos]
    split
    · next e he => rw [hj] at he; cases he
    · exact congrArg Except.ok (StoredAggregate.eq_of rfl rfl (freezeValue_of_frozen hfrozen))
  have hfp : b.stateFingerprint sha256 = (a.row sha256).stateFingerprint := hdigest
  refine ⟨b, ?_, ⟨rfl, rfl, hsame, hdigest⟩⟩
  have hdecode : decodeState (a.row sha256).stateJson = .ok d := hd
  have hbuild : makeStoredAggregate (a.row sha256).key (a.row sha256).version d = .ok b := hmake
  rw [readAggregate, hdecode, ok_bind, hbuild, ok_bind, ensure_of hfp]
  rfl

theorem timedeltaFree_of_readAggregate (hwf : Wf a.state)
    (h : readAggregate sha256 mismatch (a.row sha256) = .ok b) : timedeltaFree a.state = true := by
  obtain ⟨state, hstate, -⟩ := bind_eq_ok.1 h
  exact timedeltaFree_of_decodeState a.frozen a.accepted hwf hstate

theorem decodeAggregateRow_eq_ok (mismatch : String) :
    decodeAggregateRow sha256 row = .ok b ↔ readAggregate sha256 mismatch row = .ok b := by
  simp only [decodeAggregateRow, readAggregate, bind_eq_ok, rewrap_eq_ok, ensure_eq_ok]
  constructor
  · rintro ⟨c, ⟨state, hstate, hc⟩, u, hfp, h⟩
    exact ⟨state, hstate, c, hc, u, hfp, h⟩
  · rintro ⟨state, hstate, c, hc, u, hfp, h⟩
    exact ⟨c, ⟨state, hstate, hc⟩, u, hfp, h⟩

theorem readRows_eq_collect {seen : List AggregateKey}
    (hn : (rs.map AggregateRow.key ++ seen).Nodup) : readRows sha256 rs seen =
      collect (rs.map (readAggregate sha256
        "PostgreSQL aggregate state fingerprint does not match bytes")) := by
  induction rs generalizing seen with
  | nil => rfl
  | cons r rs ih =>
    rw [map_cons, cons_append, nodup_cons] at hn
    have hseen : r.key ∉ seen := fun h => hn.1 (mem_append_right _ h)
    have hrest : (rs.map AggregateRow.key ++ r.key :: seen).Nodup :=
      nodup_middle.2 (nodup_cons.2 hn)
    rw [readRows, ensure_of hseen, ok_bind, map_cons, collect, ih hrest]
    rfl

theorem map_key_of_read {as : List StoredAggregate}
    (h : rs.map (readAggregate sha256 mismatch) = as.map .ok) :
    as.map StoredAggregate.key = rs.map AggregateRow.key := by
  induction as generalizing rs with
  | nil =>
    rw [map_nil, map_eq_nil_iff] at h
    rw [h]
    rfl
  | cons b as ih =>
    obtain ⟨r, rs, rfl, hr, hrs⟩ := map_eq_cons_iff.1 h
    rw [map_cons, map_cons, ih hrs, (readAggregate_spec hr).1]

/-- **What a load reads**: the aggregates of the rows under the keys. -/
theorem loadCurrent_spec (hn : (rows.aggregates.map AggregateRow.key).Nodup)
    (h : loadCurrent sha256 rows keys = .ok current) :
    (current.map StoredAggregate.key).Nodup ∧
      ∀ b, b ∈ current ↔ ∃ row ∈ rows.aggregates, row.key ∈ keys ∧ readAggregate sha256
        "PostgreSQL aggregate state fingerprint does not match bytes" row = .ok b := by
  have hfilter : ((rows.aggregates.filter fun row => decide (row.key ∈ keys)).map
      AggregateRow.key).Nodup := hn.sublist (filter_sublist.map _)
  obtain ⟨as, has, rfl⟩ := map_eq_ok.1 h
  rw [readRows_eq_collect (by rwa [append_nil]), collect_eq_ok] at has
  have hmem : ∀ b, b ∈ as ↔ ∃ row ∈ rows.aggregates, row.key ∈ keys ∧ readAggregate sha256
      "PostgreSQL aggregate state fingerprint does not match bytes" row = .ok b := by
    intro b
    have hb : b ∈ as ↔ (.ok b : Except PyError StoredAggregate) ∈ as.map .ok := by simp
    rw [hb, ← has, mem_map]
    simp [and_assoc]
  constructor
  · exact ((perm_sortBy _ as).map _).nodup_iff.2 (map_key_of_read has ▸ hfilter)
  · intro b
    rw [sortedAggregates, mem_sortBy]
    exact hmem b

theorem read_of_loadCurrent (hn : (rows.aggregates.map AggregateRow.key).Nodup)
    (h : loadCurrent sha256 rows keys = .ok current)
    (hrow : row ∈ rows.aggregates) (hkey : row.key ∈ keys) : ∃ b, readAggregate sha256
      "PostgreSQL aggregate state fingerprint does not match bytes" row = .ok b := by
  have hfilter : ((rows.aggregates.filter fun row => decide (row.key ∈ keys)).map
      AggregateRow.key).Nodup := hn.sublist (filter_sublist.map _)
  obtain ⟨as, has, -⟩ := map_eq_ok.1 h
  rw [readRows_eq_collect (by rwa [append_nil]), collect_eq_ok] at has
  have hmem : readAggregate sha256
      "PostgreSQL aggregate state fingerprint does not match bytes" row ∈ as.map Except.ok := by
    rw [← has]
    exact mem_map_of_mem (mem_filter.2 ⟨hrow, decide_eq_true hkey⟩)
  obtain ⟨b, -, hb⟩ := mem_map.1 hmem
  exact ⟨b, hb.symm⟩

theorem exists_loadCurrent (hn : (rows.aggregates.map AggregateRow.key).Nodup)
    (h : ∀ row ∈ rows.aggregates, row.key ∈ keys → ∃ b, readAggregate sha256
      "PostgreSQL aggregate state fingerprint does not match bytes" row = .ok b) :
    ∃ current, loadCurrent sha256 rows keys = .ok current := by
  have hfilter : ((rows.aggregates.filter fun row => decide (row.key ∈ keys)).map
      AggregateRow.key).Nodup := hn.sublist (filter_sublist.map _)
  obtain ⟨as, has⟩ := exists_map_ok (f := readAggregate sha256
    "PostgreSQL aggregate state fingerprint does not match bytes") fun row hrow =>
      h row (mem_filter.1 hrow).1 (of_decide_eq_true (mem_filter.1 hrow).2)
  refine ⟨sortedAggregates as, map_eq_ok.2 ⟨as, ?_, rfl⟩⟩
  rw [readRows_eq_collect (by rwa [append_nil]), collect_eq_ok]
  exact has

/-! ## What is written -/

def ExpectedRow (rows : List AggregateRow) (m : AggregateMutation) : Prop :=
  (m.key ∉ rows.map AggregateRow.key ∧ m.expectedVersion = 0) ∨
    ∃ row ∈ rows, row.key = m.key ∧ m.expectedVersion = row.version ∧
      m.expectedStateFingerprint = some row.stateFingerprint

theorem writeMutation_spec (hkey : a.key = m.key)
    (h : writeMutation sha256 m a rs = some rs') :
    ExpectedRow rs m ∧ rs' = upsert AggregateRow.key (a.row sha256) rs := by
  unfold writeMutation at h
  split_ifs at h with hv hany
  · obtain ⟨hnew, rfl⟩ := insertNew_eq_some.1 h
    exact ⟨.inl ⟨hkey ▸ hnew, hv⟩, (if_neg hnew).symm⟩
  · obtain ⟨row, hrow, hguard⟩ := any_eq_true.1 hany
    simp only [Bool.and_eq_true, decide_eq_true_eq] at hguard
    obtain ⟨⟨hrk, hrv⟩, hrf⟩ := hguard
    have hmem : (a.row sha256).key ∈ rs.map AggregateRow.key :=
      mem_map.2 ⟨row, hrow, hrk⟩
    cases h
    refine ⟨.inr ⟨row, hrow, hrk.trans hkey, hrv.symm, hrf.symm⟩, (if_pos hmem).symm⟩

theorem expectedRow_upsert (hne : row.key ≠ m.key) :
    ExpectedRow (upsert AggregateRow.key row rs) m ↔ ExpectedRow rs m := by
  have hkeys : m.key ∈ (upsert AggregateRow.key row rs).map AggregateRow.key ↔
      m.key ∈ rs.map AggregateRow.key := by
    rw [map_key_upsert]
    split_ifs
    · rfl
    · simp [hne.symm]
  have hrows : ∀ r, r.key = m.key →
      (r ∈ upsert AggregateRow.key row rs ↔ r ∈ rs) := by
    intro r hr
    rw [mem_upsert]
    constructor
    · rintro (rfl | ⟨h, -⟩)
      · exact absurd hr hne
      · exact h
    · exact fun h => .inr ⟨h, fun heq => hne (heq ▸ hr)⟩
  refine or_congr (and_congr_left fun _ => not_congr hkeys) (exists_congr fun r => ?_)
  constructor
  · rintro ⟨hmem, hr, hrest⟩
    exact ⟨(hrows r hr).1 hmem, hr, hrest⟩
  · rintro ⟨hmem, hr, hrest⟩
    exact ⟨(hrows r hr).2 hmem, hr, hrest⟩

theorem writeMutations_spec {aggregates : List StoredAggregate} {ms : List AggregateMutation} (hn : (ms.map AggregateMutation.key).Nodup)
    (hfind : ∀ m ∈ ms, rowWith StoredAggregate.key m.key aggregates = some m.committed)
    (h : writeMutations sha256 aggregates ms rs = some rs') :
    (∀ m ∈ ms, ExpectedRow rs m) ∧
      rs' = ms.foldl (fun rs m => upsert AggregateRow.key (m.committed.row sha256) rs) rs := by
  induction ms generalizing rs with
  | nil =>
    cases h
    exact ⟨by simp, rfl⟩
  | cons m ms ih =>
    rw [map_cons, nodup_cons] at hn
    obtain ⟨a, ha, h⟩ := Option.bind_eq_some_iff.1 h
    obtain ⟨written, hwritten, h⟩ := Option.bind_eq_some_iff.1 h
    rw [hfind m mem_cons_self] at ha
    cases ha
    obtain ⟨hexpected, rfl⟩ := writeMutation_spec rfl hwritten
    obtain ⟨hrest, rfl⟩ := ih hn.2 (fun m hm => hfind m (mem_cons_of_mem _ hm)) h
    refine ⟨forall_mem_cons.2 ⟨hexpected, fun m' hm' => ?_⟩, rfl⟩
    have hne : (m.committed.row sha256).key ≠ m'.key := fun heq =>
      hn.1 (mem_map.2 ⟨m', hm', heq.symm⟩)
    exact (expectedRow_upsert hne).1 (hrest m' hm')

def StorageTransactionRequest.after (sha256 : String → Digest) (r : StorageTransactionRequest)
    (rows : StorageRows) : StorageRows where
  aggregates := r.mutations.foldl
    (fun rs m => upsert AggregateRow.key (m.committed.row sha256) rs) rows.aggregates
  receipts := rows.receipts ++ [(r.receipt sha256).row sha256]

/-- **What persisting a request says and does.** -/
theorem persistTransaction_spec {request : StorageTransactionRequest} {rows' : StorageRows}
    (h : persistTransaction sha256 request request.committed (request.receipt sha256) rows =
      some rows') :
    (∀ m ∈ request.mutations, ExpectedRow rows.aggregates m) ∧
      request.requestId ∉ rows.receipts.map ReceiptRow.requestId ∧
      rows' = request.after sha256 rows := by
  obtain ⟨written, hwritten, h⟩ := Option.bind_eq_some_iff.1 h
  obtain ⟨receipts, hreceipts, h⟩ := Option.bind_eq_some_iff.1 h
  obtain ⟨hexpected, rfl⟩ := writeMutations_spec request.nodup_keys
    (fun _ hm => rowWith_committed hm) hwritten
  obtain ⟨hnew, rfl⟩ := insertNew_eq_some.1 hreceipts
  cases h
  exact ⟨hexpected, hnew, rfl⟩

end

/-! ## Calls -/

/-- `type(error).__name__`. -/
def className : ErrorKind → String
  | .valueError => "ValueError"
  | .typeError => "TypeError"
  | .overflowError => "OverflowError"
  | .integrityError => "IntegrityError"
  | .keyError => "KeyError"

def loadTransaction (sha256 : String → Digest) (rows : StorageRows)
    (request : StorageTransactionRequest) :
    Except (List StoredAggregate × PyError) (List StoredAggregate × StorageTransactionResolution) :=
  match loadCurrent sha256 rows request.keys with
  | .error e => .error ([], e)
  | .ok current =>
    match do
      let prior ← loadReceipt sha256 rows request.requestId
      resolveStorageTransaction sha256 current request prior with
    | .error e => .error (current, e)
    | .ok resolved => .ok (current, resolved)

/-- `_resolve_after_concurrent_write`. -/
def resolveAfterConcurrentWrite (sha256 : String → Digest) (rows : StorageRows)
    (request : StorageTransactionRequest) (fallback : List StoredAggregate) :
    StorageTransactionResolution :=
  match loadTransaction sha256 rows request with
  | .error (current, e) => failedResolution sha256 request
      (if current = [] then fallback else current) .reject
      ("PostgreSQL concurrent-write reconciliation failed: " ++ className e.kind) reject_fails
  | .ok (current, resolved) =>
    if resolved.decision ≠ .apply then resolved
    else failedResolution sha256 request current .reject
      "storage compare-and-set lost a concurrent race" reject_fails

/-- `apply`. -/
def applyTransaction (sha256 : String → Digest) (rows : StorageRows)
    (request : StorageTransactionRequest) : StorageRows × StorageTransactionResolution :=
  match loadTransaction sha256 rows request with
  | .error (current, e) => (rows, failedResolution sha256 request current .reject
      ("PostgreSQL transaction failed: " ++ className e.kind) (.inr rfl))
  | .ok (current, resolved) =>
    if resolved.decision ≠ .apply then (rows, resolved)
    else match resolved.receipt with
      | none => (rows, failedResolution sha256 request current .reject
          "storage resolution omitted its receipt" (.inr rfl))
      | some receipt =>
        match persistTransaction sha256 request resolved.aggregates receipt rows with
        | some rows' => (rows', resolved)
        | none => (rows, resolveAfterConcurrentWrite sha256 rows request current)

end ChartingPlatform
