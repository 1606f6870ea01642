/-
  The frames of the isolated runtime (`nautilus_runtime_ipc.py`): plain JSON
  payloads, self-checking frames, and their wire lines.

  A line of the stream is given by its number of bytes, its ending and the value
  that `json.loads` with the two hooks finds in it; how `json` prints a float is
  a parameter.
-/
import ChartingPlatform.Canonical.MarketEvent
import ChartingPlatform.Forward.Fingerprints

namespace ChartingPlatform

open Lib List

/-! ## Payloads -/

/-- `type(value).__name__` of the values that are not plain JSON. -/
def PyValue.typeName : PyValue → String
  | .dataclass cls _ | .enum cls _ => ((cls.splitOn ".").getLast?).getD cls
  | .decimal _ => "Decimal"
  | .datetime _ => "datetime"
  | .timedelta _ => "timedelta"
  | .date _ => "date"
  | .set frozen _ => if frozen then "frozenset" else "set"
  | .object typeName => typeName
  | _ => ""

mutual

/-- `_plain_json`. -/
def plainJson : PyValue → Except PyError PyValue
  | .none => .ok .none
  | .bool b => .ok (.bool b)
  | .str s => .ok (.str s)
  | .int z => .ok (.int z)
  -- a member of a `StrEnum` is a `str`
  | .enum cls (.str s) => .ok (.enum cls (.str s))
  | .float x =>
    if x.exponent.val = 2047 then
      .error (valueError "runtime IPC payload contains a non-finite number")
    else .ok (.float x)
  | .mapping items => do
    let is ← plainEntries items
    return .mapping is
  | .list items => do
    let vs ← plainItems items
    return .list vs
  | .tuple items => do
    let vs ← plainItems items
    return .list vs
  | v => .error (typeError ("runtime IPC payload contains unsupported " ++ v.typeName))

def plainItems : List PyValue → Except PyError (List PyValue)
  | [] => .ok []
  | v :: vs => do
    let w ← plainJson v
    let ws ← plainItems vs
    return w :: ws

def plainEntries : List (PyKey × PyValue) → Except PyError (List (PyKey × PyValue))
  | [] => .ok []
  | (k, v) :: is => do
    ensure (k ≠ .other) (typeError "runtime IPC object keys must be strings")
    let w ← plainJson v
    let js ← plainEntries is
    return (k, w) :: js

end

theorem plainItems_plain {vs ws : List PyValue}
    (ih : ∀ v ∈ vs, ∀ w, plainJson v = .ok w → plainJson w = .ok w) (h : plainItems vs = .ok ws) :
    plainItems ws = .ok ws := by
  induction vs generalizing ws with
  | nil => cases h; rfl
  | cons v vs ihs =>
    rw [plainItems] at h
    obtain ⟨w, hw, h⟩ := bind_eq_ok.1 h
    obtain ⟨ws', hws, h⟩ := bind_eq_ok.1 h
    cases h
    rw [plainItems, ih v mem_cons_self w hw, ok_bind,
      ihs (fun v hv => ih v (mem_cons_of_mem _ hv)) hws, ok_bind, pure_eq_ok]

theorem plainEntries_plain {is js : List (PyKey × PyValue)}
    (ih : ∀ i ∈ is, ∀ w, plainJson i.2 = .ok w → plainJson w = .ok w)
    (h : plainEntries is = .ok js) : plainEntries js = .ok js := by
  induction is generalizing js with
  | nil => cases h; rfl
  | cons i is ihs =>
    obtain ⟨k, v⟩ := i
    rw [plainEntries] at h
    obtain ⟨_, hk, h⟩ := bind_eq_ok.1 h
    obtain ⟨w, hw, h⟩ := bind_eq_ok.1 h
    obtain ⟨js', hjs, h⟩ := bind_eq_ok.1 h
    cases h
    rw [plainEntries, ensure_of (ensure_eq_ok.1 hk), ok_bind, ih _ mem_cons_self w hw, ok_bind,
      ihs (fun i hi => ih i (mem_cons_of_mem _ hi)) hjs, ok_bind, pure_eq_ok]

theorem plainJson_plain (v : PyValue) : ∀ w, plainJson v = .ok w → plainJson w = .ok w := by
  induction v using PyValue.induct with
  | none | bool b | int z | str s => intro w h; rw [plainJson] at h; cases h; rfl
  | float x =>
    intro w h
    rw [plainJson] at h
    split_ifs at h with hx
    cases h
    rw [plainJson, if_neg hx]
  | mapping is ih =>
    intro w h
    rw [plainJson] at h
    obtain ⟨js, hjs, h⟩ := bind_eq_ok.1 h
    cases h
    rw [plainJson, plainEntries_plain ih hjs, ok_bind, pure_eq_ok]
  | list vs ih | tuple vs ih =>
    intro w h
    rw [plainJson] at h
    obtain ⟨ws, hws, h⟩ := bind_eq_ok.1 h
    cases h
    rw [plainJson, plainItems_plain ih hws, ok_bind, pure_eq_ok]
  | enum cls v =>
    intro w h
    cases v with
    | str s => rw [plainJson] at h; cases h; rfl
    | _ => simp [plainJson] at h
  | dataclass | decimal | datetime | timedelta | date | set | object =>
    intro w h
    simp [plainJson] at h

/-! ## Frames -/

/-- `NautilusRuntimeIpcOperation`. -/
inductive NautilusRuntimeIpcOperation where
  | «open» | execute | restore | close
  deriving DecidableEq, Repr

namespace NautilusRuntimeIpcOperation

def value : NautilusRuntimeIpcOperation → String
  | .open => "open"
  | .execute => "execute"
  | .restore => "restore"
  | .close => "close"

/-- `NautilusRuntimeIpcOperation(value)`. -/
def ofValue (v : PyValue) : Option NautilusRuntimeIpcOperation :=
  match v with
  | .str s => [.open, .execute, .restore, .close].find? fun o => decide (o.value = s)
  | _ => none

@[simp] theorem ofValue_value (o : NautilusRuntimeIpcOperation) :
    ofValue (.str o.value) = some o := by
  cases o <;> decide

theorem value_injective : Function.Injective value := by
  intro a b h
  have := congrArg (fun s => ofValue (.str s)) h
  simpa using this

end NautilusRuntimeIpcOperation

/-- `NautilusRuntimeIpcStatus`. -/
inductive NautilusRuntimeIpcStatus where
  | request | success | error
  deriving DecidableEq, Repr

namespace NautilusRuntimeIpcStatus

def value : NautilusRuntimeIpcStatus → String
  | .request => "request"
  | .success => "success"
  | .error => "error"

/-- `NautilusRuntimeIpcStatus(value)`. -/
def ofValue (v : PyValue) : Option NautilusRuntimeIpcStatus :=
  match v with
  | .str s => [.request, .success, .error].find? fun o => decide (o.value = s)
  | _ => none

@[simp] theorem ofValue_value (o : NautilusRuntimeIpcStatus) : ofValue (.str o.value) = some o := by
  cases o <;> decide

end NautilusRuntimeIpcStatus

/-- `_validate_request_id`. -/
def ValidRequestId (id : String) : Prop := id ≠ "" ∧ id.utf8ByteSize ≤ 128

instance {id : String} : Decidable (ValidRequestId id) :=
  inferInstanceAs (Decidable (_ ∧ _))

def requestIdError : PyError :=
  valueError "runtime IPC request_id must be a non-empty UTF-8 string of at most 128 bytes"

/-- `NAUTILUS_FORWARD_RUNTIME_IPC_SCHEMA`. -/
def nautilusForwardRuntimeIpcSchema : String := "strategy-lab.nautilus-forward-runtime.v1"

/-- `_unsigned_wire`, the payload being the entries of the object. -/
def unsignedWire (id : String) (operation : NautilusRuntimeIpcOperation)
    (status : NautilusRuntimeIpcStatus) (payload : List (PyKey × PyValue)) :
    List (PyKey × PyValue) :=
  [(.str "schema", .str nautilusForwardRuntimeIpcSchema),
    (.str "request_id", .str id),
    (.str "operation", .str operation.value),
    (.str "status", .str status.value),
    (.str "payload", .mapping payload)]

/-- `NautilusRuntimeIpcFrame`. -/
structure NautilusRuntimeIpcFrame (sha256 : String → Digest) where
  requestId : String
  operation : NautilusRuntimeIpcOperation
  status : NautilusRuntimeIpcStatus
  payload : List (PyKey × PyValue)
  fingerprint : Digest
  requestId_valid : ValidRequestId requestId
  payload_plain : plainJson (.mapping payload) = .ok (.mapping payload)
  fingerprint_eq :
    contentDigest sha256 (.mapping (unsignedWire requestId operation status payload)) =
      .ok fingerprint

def plainPayload (v : PyValue) : Except PyError (List (PyKey × PyValue)) := do
  match ← plainJson v with
  | .mapping items => .ok items
  | _ => .error (typeError "payload must be a JSON object")

theorem plainPayload_eq_ok {v : PyValue} {items : List (PyKey × PyValue)} :
    plainPayload v = .ok items ↔ plainJson v = .ok (.mapping items) := by
  unfold plainPayload
  rw [bind_eq_ok]
  constructor
  · rintro ⟨w, hw, h⟩
    cases w with
    | mapping is => rw [hw, Except.ok.inj h]
    | _ => cases h
  · intro h
    exact ⟨_, h, rfl⟩

/-- `NautilusRuntimeIpcFrame.__post_init__`. -/
def makeFrame (sha256 : String → Digest) (id : String) (operation : NautilusRuntimeIpcOperation)
    (status : NautilusRuntimeIpcStatus) (payload : PyValue) (fingerprint : Digest) :
    Except PyError (NautilusRuntimeIpcFrame sha256) :=
  if hid : ValidRequestId id then
    match hp : plainPayload payload with
    | .error e => .error e
    | .ok items =>
      match hd : contentDigest sha256 (.mapping (unsignedWire id operation status items)) with
      | .error e => .error e
      | .ok expected =>
        if hf : fingerprint = expected then
          .ok
            { requestId := id
              operation := operation
              status := status
              payload := items
              fingerprint := fingerprint
              requestId_valid := hid
              payload_plain := plainJson_plain payload _ (plainPayload_eq_ok.1 hp)
              fingerprint_eq := hf ▸ hd }
        else .error (valueError "runtime IPC frame fingerprint does not match its content")
  else .error requestIdError

/-- `create_nautilus_runtime_ipc_frame`. -/
def createFrame (sha256 : String → Digest) (id : String) (operation : NautilusRuntimeIpcOperation)
    (status : NautilusRuntimeIpcStatus) (payload : PyValue) :
    Except PyError (NautilusRuntimeIpcFrame sha256) := do
  let items ← plainPayload payload
  ensure (ValidRequestId id) requestIdError
  let fingerprint ← contentDigest sha256 (.mapping (unsignedWire id operation status items))
  makeFrame sha256 id operation status (.mapping items) fingerprint

section
variable {sha256 : String → Digest} {id : String} {operation : NautilusRuntimeIpcOperation}
  {status : NautilusRuntimeIpcStatus} {payload : PyValue} {fingerprint : Digest}
  {f : NautilusRuntimeIpcFrame sha256}

theorem makeFrame_eq_ok (h : makeFrame sha256 id operation status payload fingerprint = .ok f) :
    f.requestId = id ∧ f.operation = operation ∧ f.status = status ∧
      plainPayload payload = .ok f.payload ∧ f.fingerprint = fingerprint := by
  unfold makeFrame at h
  split_ifs at h
  split at h
  · cases h
  · next items hp =>
    split at h
    · cases h
    · split_ifs at h
      obtain rfl := Except.ok.inj h
      exact ⟨rfl, rfl, rfl, hp, rfl⟩

theorem createFrame_eq_ok (h : createFrame sha256 id operation status payload = .ok f) :
    f.requestId = id ∧ f.operation = operation ∧ f.status = status := by
  unfold createFrame at h
  obtain ⟨items, -, h⟩ := bind_eq_ok.1 h
  obtain ⟨_, -, h⟩ := bind_eq_ok.1 h
  obtain ⟨fp, -, h⟩ := bind_eq_ok.1 h
  obtain ⟨hid, hop, hst, -⟩ := makeFrame_eq_ok h
  exact ⟨hid, hop, hst⟩

theorem makeFrame_self (f : NautilusRuntimeIpcFrame sha256) :
    makeFrame sha256 f.requestId f.operation f.status (.mapping f.payload) f.fingerprint =
      .ok f := by
  have hp : plainPayload (.mapping f.payload) = .ok f.payload :=
    plainPayload_eq_ok.2 f.payload_plain
  unfold makeFrame
  rw [dif_pos f.requestId_valid]
  split
  · next e he => rw [hp] at he; cases he
  · next items hitems =>
    obtain rfl := Except.ok.inj (hp.symm.trans hitems)
    split
    · next e he => rw [f.fingerprint_eq] at he; cases he
    · next expected hexp =>
      obtain rfl := Except.ok.inj (f.fingerprint_eq.symm.trans hexp)
      rw [dif_pos rfl]

theorem mem_of_sameEntries_str {is js : List (PyKey × PyValue)} (h : SameEntries is js) {k : PyKey}
    {text : String} (hmem : (k, .str text) ∈ is) : (k, .str text) ∈ js := by
  induction is generalizing js with
  | nil => cases hmem
  | cons i is ih => cases h with
    | cons hv his =>
      rcases mem_cons.1 hmem with heq | hmem
      · cases heq
        cases hv
        exact mem_cons_self
      · exact mem_cons_of_mem _ (ih his hmem)

theorem operation_of_fingerprint (hsha : Function.Injective sha256)
    {f g : NautilusRuntimeIpcFrame sha256} (h : f.fingerprint = g.fingerprint) :
    f.operation = g.operation := by
  have haccepted : ∀ f : NautilusRuntimeIpcFrame sha256, Accepted
      (.mapping (unsignedWire f.requestId f.operation f.status f.payload)) := by
    intro f
    obtain ⟨text, htext, -⟩ := map_eq_ok.1 f.fingerprint_eq
    obtain ⟨j, hj, -⟩ := map_eq_ok.1 htext
    exact ⟨j, hj⟩
  have hdigest : ∀ f : NautilusRuntimeIpcFrame sha256, digest sha256
      (.mapping (unsignedWire f.requestId f.operation f.status f.payload)) = f.fingerprint := by
    intro f
    rw [digest, f.fingerprint_eq]
  have hsame := same_of_digest hsha (haccepted f) (haccepted g)
    ((hdigest f).trans (h.trans (hdigest g).symm))
  cases hsame with
  | mapping hentries hperm =>
    have hmem := hperm.mem_iff.1 (mem_of_sameEntries_str hentries (k := .str "operation")
      (by simp [unsignedWire] : (PyKey.str "operation", PyValue.str f.operation.value) ∈ _))
    have hvalue : f.operation.value = g.operation.value := by simpa [unsignedWire] using hmem
    exact NautilusRuntimeIpcOperation.value_injective hvalue

theorem digest_texts (key text : String) :
    contentDigest sha256 (.mapping (unsignedWire id operation status [(.str key, .str text)])) =
      .ok (digest sha256 (.mapping (unsignedWire id operation status [(.str key, .str text)]))) := by
  have hpayload : Accepted (.mapping [(.str key, .str text)]) := accepted_mapping (by simp)
  obtain ⟨j, hj⟩ : Accepted (.mapping (unsignedWire id operation status
      [(.str key, .str text)])) := accepted_mapping (by simp [unsignedWire, hpayload])
  have h : contentDigest sha256 (.mapping (unsignedWire id operation status
      [(.str key, .str text)])) = .ok (sha256 (Json.dumps j)) := by
    rw [contentDigest, canonicalJson, hj]
    rfl
  rw [digest, h]

def textFrame (sha256 : String → Digest) (operation : NautilusRuntimeIpcOperation)
    (status : NautilusRuntimeIpcStatus) (hid : ValidRequestId id) (key text : String) :
    NautilusRuntimeIpcFrame sha256 where
  requestId := id
  operation := operation
  status := status
  payload := [(.str key, .str text)]
  fingerprint := digest sha256 (.mapping (unsignedWire id operation status [(.str key, .str text)]))
  requestId_valid := hid
  payload_plain := by simp [plainJson, plainEntries, ensure]
  fingerprint_eq := digest_texts key text

theorem createFrame_texts (hid : ValidRequestId id) (key text : String) :
    createFrame sha256 id operation status (.mapping [(.str key, .str text)]) =
      .ok (textFrame sha256 operation status hid key text) := by
  have hplain : plainPayload (.mapping [(.str key, .str text)]) = .ok [(.str key, .str text)] :=
    plainPayload_eq_ok.2 (textFrame sha256 operation status hid key text).payload_plain
  unfold createFrame
  rw [hplain, ok_bind, ensure_of hid, ok_bind, digest_texts, ok_bind]
  exact makeFrame_self (textFrame sha256 operation status hid key text)

end

/-! ## Wire lines -/

inductive LineEnding where
  | lf | crlf | missing
  deriving DecidableEq

/-- A line of the stream: its bytes, its ending, and the value that
    `json.loads` finds in it, if the text is UTF-8 JSON without duplicate keys and non-finite
    numbers. -/
structure WireLine where
  bytes : ℕ
  ending : LineEnding
  value : Option PyValue

mutual

/-- `json.dumps` with `sort_keys`, for plain JSON. -/
def wireText (floatRepr : PyFloat → List Char) : PyValue → List Char
  | .none => "null".toList
  | .bool true => "true".toList
  | .bool false => "false".toList
  | .int z => intText z
  | .float x => floatRepr x
  | .str s | .enum _ (.str s) => Json.quote s
  | .mapping items =>
    '{' :: List.intercalate [','] ((sortBy Prod.fst (wireEntries floatRepr items)).map Prod.snd) ++
      ['}']
  | .list items => '[' :: List.intercalate [','] (wireItems floatRepr items) ++ [']']
  | _ => []

def wireItems (floatRepr : PyFloat → List Char) : List PyValue → List (List Char)
  | [] => []
  | v :: vs => wireText floatRepr v :: wireItems floatRepr vs

def wireEntries (floatRepr : PyFloat → List Char) :
    List (PyKey × PyValue) → List (String × List Char)
  | [] => []
  | (k, v) :: is =>
    (k.text, Json.quote k.text ++ ':' :: wireText floatRepr v) :: wireEntries floatRepr is

end

def NautilusRuntimeIpcFrame.wire {sha256 : String → Digest} (f : NautilusRuntimeIpcFrame sha256) :
    PyValue :=
  .mapping (unsignedWire f.requestId f.operation f.status f.payload ++
    [(.str "fingerprint", .str f.fingerprint.text)])

/-- `encode_nautilus_runtime_ipc_frame`. -/
def encodeFrame {sha256 : String → Digest} (floatRepr : PyFloat → List Char) (maxFrameBytes : ℕ)
    (f : NautilusRuntimeIpcFrame sha256) : Except PyError WireLine := do
  ensure (1 < maxFrameBytes) (valueError "max_frame_bytes must be an integer greater than one")
  let bytes := (String.ofList (wireText floatRepr f.wire)).utf8ByteSize + 1
  ensure (bytes ≤ maxFrameBytes) (valueError "runtime IPC frame exceeds its byte limit")
  return ⟨bytes, .lf, some f.wire⟩

/-- `_FRAME_FIELDS`. -/
def frameFields : Finset PyKey :=
  {.str "schema", .str "request_id", .str "operation", .str "status", .str "payload",
    .str "fingerprint"}

/-- `decoded[name]`, of an object that has the name. -/
def field (items : List (PyKey × PyValue)) (name : String) : PyValue :=
  ((items.find? fun i => decide (i.1 = .str name)).map Prod.snd).getD .none

/-- The checks of `decode_nautilus_runtime_ipc_frame` on the decoded object. -/
def decodeObject (sha256 : String → Digest) (items : List (PyKey × PyValue)) :
    Except PyError (NautilusRuntimeIpcFrame sha256) := do
  ensure ((items.map Prod.fst).toFinset = frameFields)
    (valueError "runtime IPC frame fields are invalid")
  ensure ((field items "schema").asStr = some nautilusForwardRuntimeIpcSchema)
    (valueError "runtime IPC frame schema is unsupported")
  match (field items "request_id").asStr with
  | none => .error requestIdError
  | some id => do
    ensure (ValidRequestId id) requestIdError
    match NautilusRuntimeIpcOperation.ofValue (field items "operation"),
        NautilusRuntimeIpcStatus.ofValue (field items "status") with
    | some operation, some status => do
      match ← plainJson (field items "payload") with
      | .mapping payload =>
        match (field items "fingerprint").asStr with
        | some text => makeFrame sha256 id operation status (.mapping payload) ⟨text⟩
        | none => .error (valueError "runtime IPC fingerprint must be a string")
      | _ => .error (valueError "runtime IPC payload must be a JSON object")
    | _, _ => .error (valueError "runtime IPC operation or status is unsupported")

/-- `decode_nautilus_runtime_ipc_frame`. -/
def decodeFrame (sha256 : String → Digest) (maxFrameBytes : ℕ) (line : WireLine) :
    Except PyError (NautilusRuntimeIpcFrame sha256) := do
  ensure (1 < maxFrameBytes) (valueError "max_frame_bytes must be an integer greater than one")
  ensure (line.bytes ≠ 0 ∧ line.bytes ≤ maxFrameBytes)
    (valueError "runtime IPC frame is empty or exceeds its byte limit")
  ensure (line.ending = .lf) (valueError "runtime IPC frame must end with one LF newline")
  match line.value with
  | none => .error (valueError "runtime IPC frame is malformed JSON")
  | some (.mapping items) => decodeObject sha256 items
  | some _ => .error (valueError "runtime IPC frame fields are invalid")

/-- `read_nautilus_runtime_ipc_frame`, on a line that the stream has. -/
def readFrame (sha256 : String → Digest) (maxFrameBytes : ℕ) (line : WireLine) :
    Except PyError (NautilusRuntimeIpcFrame sha256) := do
  ensure (1 < maxFrameBytes) (valueError "max_frame_bytes must be an integer greater than one")
  ensure (line.bytes ≤ maxFrameBytes ∧ line.ending ≠ .missing)
    (valueError "runtime IPC frame is unterminated or exceeds its byte limit")
  decodeFrame sha256 maxFrameBytes line

theorem decodeObject_wire {sha256 : String → Digest} (f : NautilusRuntimeIpcFrame sha256) :
    decodeObject sha256 (unsignedWire f.requestId f.operation f.status f.payload ++
      [(.str "fingerprint", .str f.fingerprint.text)]) = .ok f := by
  generalize hitems : unsignedWire f.requestId f.operation f.status f.payload ++
    [(PyKey.str "fingerprint", PyValue.str f.fingerprint.text)] = items
  have hfields : (items.map Prod.fst).toFinset = frameFields := by
    simp [← hitems, unsignedWire, frameFields]
  have hschema : field items "schema" = .str nautilusForwardRuntimeIpcSchema := by
    simp [← hitems, unsignedWire, field]
  have hid : field items "request_id" = .str f.requestId := by
    simp [← hitems, unsignedWire, field]
  have hop : field items "operation" = .str f.operation.value := by
    simp [← hitems, unsignedWire, field]
  have hstatus : field items "status" = .str f.status.value := by
    simp [← hitems, unsignedWire, field]
  have hpayload : field items "payload" = .mapping f.payload := by
    simp [← hitems, unsignedWire, field]
  have hfp : field items "fingerprint" = .str f.fingerprint.text := by
    simp [← hitems, unsignedWire, field]
  unfold decodeObject
  rw [ensure_of hfields, ok_bind, ensure_of (by rw [hschema]; rfl), ok_bind, hid, hop, hstatus,
    hpayload, hfp]
  simp only [PyValue.asStr, NautilusRuntimeIpcOperation.ofValue_value,
    NautilusRuntimeIpcStatus.ofValue_value, ensure_of f.requestId_valid, ok_bind, f.payload_plain]
  exact makeFrame_self f

theorem encodeFrame_eq_ok {sha256 : String → Digest} {floatRepr : PyFloat → List Char}
    {maxFrameBytes : ℕ} {f : NautilusRuntimeIpcFrame sha256} {line : WireLine}
    (h : encodeFrame floatRepr maxFrameBytes f = .ok line) :
    1 < maxFrameBytes ∧ 0 < line.bytes ∧ line.bytes ≤ maxFrameBytes ∧ line.ending = .lf ∧
      line.value = some f.wire := by
  unfold encodeFrame at h
  obtain ⟨_, hmax, h⟩ := bind_eq_ok.1 h
  obtain ⟨_, hbytes, h⟩ := bind_eq_ok.1 h
  obtain rfl := Except.ok.inj h
  exact ⟨ensure_eq_ok.1 hmax, Nat.succ_pos _, ensure_eq_ok.1 hbytes, rfl, rfl⟩

theorem readFrame_encode {sha256 : String → Digest} {floatRepr : PyFloat → List Char}
    {maxFrameBytes : ℕ} {f : NautilusRuntimeIpcFrame sha256} {line : WireLine}
    (h : encodeFrame floatRepr maxFrameBytes f = .ok line) :
    readFrame sha256 maxFrameBytes line = .ok f := by
  obtain ⟨hmax, hpos, hbytes, hending, hvalue⟩ := encodeFrame_eq_ok h
  have hmissing : line.ending ≠ .missing := by rw [hending]; exact nofun
  unfold readFrame decodeFrame
  rw [ensure_of hmax, ok_bind, ensure_of ⟨hbytes, hmissing⟩, ok_bind, ok_bind,
    ensure_of ⟨hpos.ne', hbytes⟩, ok_bind, ensure_of hending, ok_bind, hvalue,
    NautilusRuntimeIpcFrame.wire]
  exact decodeObject_wire f

end ChartingPlatform
