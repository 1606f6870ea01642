/-
  The trace of account marks (`nautilus_equity_trace.py`): its writer, which keeps the
  marks of the scoring window, and its verifier, which compares the rows of a file with
  the events of a tape.

  The file format is a parameter: what is written to a file is what is read from it.
-/
import ChartingPlatform.Artifacts.Store
import ChartingPlatform.Lib.DecimalContexts
import ChartingPlatform.Strategy.Tape

namespace ChartingPlatform

open Lib

/-! ## Decimals -/

/-- A decimal that the trace can represent, as `_decimal` returns it. -/
structure TraceDecimal where
  negative : Bool
  coefficient : ℕ
  exponent : ℤ
  scale : -18 ≤ exponent
  precision : (natText coefficient).length + exponent + 18 ≤ 38

namespace TraceDecimal

variable (d : TraceDecimal)

def toDecimal : PyDecimal := .finite d.negative d.coefficient d.exponent

def value : ℚ := d.toDecimal.value

/-- `format(d, "f")`. -/
def fixedText : List Char :=
  let places := (-d.exponent).toNat
  let digits := natText (d.coefficient * 10 ^ d.exponent.toNat)
  let padded := List.replicate (places + 1 - digits.length) '0' ++ digits
  let whole := padded.take (padded.length - places)
  let fraction := padded.drop (padded.length - places)
  (if d.negative then ['-'] else []) ++ whole ++ if places = 0 then [] else '.' :: fraction

end TraceDecimal

/-- `_decimal`. -/
def checkedDecimal (fieldName : String) (nonNegative : Bool) :
    PyDecimal → Except PyError TraceDecimal
  | .special => .error (valueError (fieldName ++ " must be a finite Decimal"))
  | .finite negative c e =>
    if nonNegative = true ∧ (PyDecimal.finite negative c e).value < 0 then
      .error (valueError (fieldName ++ " must be non-negative"))
    else if h : -18 ≤ e ∧ (natText c).length + e + 18 ≤ 38 then
      .ok ⟨negative, c, e, h.1, h.2⟩
    else .error (valueError (fieldName ++ " exceeds the account-equity Arrow precision"))

/-- `abs(d)`, rounded to the context. -/
def decimalAbs (x : ℚ) : ℚ := pythonContext.value |x|

/-- The exposures of `write` and of an observation: both or neither. -/
def checkedExposures : Option PyDecimal → Option PyDecimal →
    Except PyError (Option (TraceDecimal × TraceDecimal))
  | none, none => .ok none
  | some gross, some net => do
    let gross ← checkedDecimal "gross_base_exposure" true gross
    let net ← checkedDecimal "signed_net_base_exposure" false net
    ensure (decimalAbs net.value ≤ gross.value)
      (valueError "absolute net exposure cannot exceed gross exposure")
    return some (gross, net)
  | _, _ => .error (valueError "gross and signed net exposure must both be present or unavailable")

/-! ## Rows -/

/-- A value of type `decimal128(38, 18)`. -/
structure Decimal128 where
  unscaled : ℤ
  bounded : unscaled.natAbs < 10 ^ 38

def Decimal128.toDecimal (x : Decimal128) : PyDecimal :=
  .finite (x.unscaled < 0) x.unscaled.natAbs (-18)

def Decimal128.value (x : Decimal128) : ℚ := x.toDecimal.value

theorem natText_length_le_iff {c k : ℕ} (hk : 0 < k) :
    (natText c).length ≤ k ↔ c < 10 ^ k :=
  Nat.length_toDigits_le_iff (by decide) hk

def TraceDecimal.toArrow (d : TraceDecimal) : Decimal128 where
  unscaled := (if d.negative then -1 else 1) * (d.coefficient * 10 ^ (d.exponent + 18).toNat : ℕ)
  bounded := by
    obtain ⟨negative, c, e, hscale, hprecision⟩ := d
    have hlength := List.length_pos_iff.2 (natText_ne_nil c)
    have hc : c < 10 ^ (natText c).length := (natText_length_le_iff hlength).1 le_rfl
    have habs : (((if negative then -1 else 1) * (c * 10 ^ (e + 18).toNat : ℕ) : ℤ)).natAbs =
        c * 10 ^ (e + 18).toNat := by
      rw [Int.natAbs_mul, Int.natAbs_natCast]
      cases negative <;> simp
    rw [habs]
    calc c * 10 ^ (e + 18).toNat < 10 ^ (natText c).length * 10 ^ (e + 18).toNat :=
          Nat.mul_lt_mul_of_pos_right hc (Nat.pow_pos (by decide))
      _ = 10 ^ ((natText c).length + (e + 18).toNat) := (pow_add ..).symm
      _ ≤ 10 ^ 38 := Nat.pow_le_pow_right (by decide) (by omega)

structure MarkIdentity where
  eventId : String
  eventTimeNs : ℤ
  eventIndex : ℤ
  sourceSequence : ℤ
  deriving DecidableEq

/-- A row of the trace, with its decimals as Python has them or as they are stored. -/
structure TraceRow (D : Type) extends MarkIdentity where
  accountEquity : D
  accountCashBalance : D
  grossBaseExposure : Option D
  signedNetBaseExposure : Option D

def TraceRow.toArrow (r : TraceRow TraceDecimal) : TraceRow Decimal128 where
  toMarkIdentity := r.toMarkIdentity
  accountEquity := r.accountEquity.toArrow
  accountCashBalance := r.accountCashBalance.toArrow
  grossBaseExposure := r.grossBaseExposure.map TraceDecimal.toArrow
  signedNetBaseExposure := r.signedNetBaseExposure.map TraceDecimal.toArrow

/-! ## Identities -/

/-- A scoring interval with its bounds (`_valid_scoring_bounds`). -/
structure ScoringWindow where
  fingerprint : Digest
  startNs : ℤ
  endNs : ℤ
  start_nonneg : 0 ≤ startNs
  start_lt_end : startNs < endNs

def InScoring (window : Option ScoringWindow) (timeNs : ℤ) : Prop :=
  ∀ w ∈ window, w.startNs ≤ timeNs ∧ timeNs < w.endNs

instance (window : Option ScoringWindow) (timeNs : ℤ) : Decidable (InScoring window timeNs) :=
  match window with
  | none => isTrue nofun
  | some w => decidable_of_iff (w.startNs ≤ timeNs ∧ timeNs < w.endNs)
      ⟨fun h _ hv => Option.some.inj hv ▸ h, fun h => h w rfl⟩

structure TraceIdentity where
  trialId : String
  attemptId : String
  portfolioFingerprint : Digest
  snapshotFingerprint : Digest
  sourceTapeFingerprint : Digest
  window : Option ScoringWindow
  baseCurrency : String
  initialCapital : TraceDecimal

/-- The columns of a trace, with their types and whether they may be null. -/
def traceColumns : List (String × String × Bool) :=
  [("event_id", "string", false), ("event_time_ns", "int64", false),
    ("event_index", "int64", false), ("source_sequence", "int64", false),
    ("account_equity", "decimal128(38, 18)", false),
    ("account_cash_balance", "decimal128(38, 18)", false),
    ("gross_base_exposure", "decimal128(38, 18)", true),
    ("signed_net_base_exposure", "decimal128(38, 18)", true)]

/-- A file of rows: its columns, its metadata and, where the columns are those of a trace, its
rows. -/
structure TraceTable where
  columns : List (String × String × Bool)
  metadata : List (String × String)
  rows : List (TraceRow Decimal128)

/-- What the trace takes from outside: the files and their digests, and the operations on texts
that depend on Unicode. -/
structure TraceEnv where
  File : Type
  size : File → ℕ
  sha256 : File → Digest
  /-- The exception for a batch of rows that the columns cannot hold. -/
  refuses : List (TraceRow TraceDecimal) → Option PyError
  parquet : TraceTable → File
  readParquet : File → TraceTable
  upper : String → String
  isAlpha : String → Bool
  /-- What is written is what is read. -/
  read_parquet : ∀ table, readParquet (parquet table) = table
  /-- ASCII letters in upper case stay as they are. -/
  upper_upper : ∀ s, (upper s).toList.all (fun c => c.toNat < 128) = true →
    upper (upper s) = upper s

def accountEquityTraceProtocol : String := "strategy-lab.nautilus.account-equity-trace.v2"

def accountEquityTraceMediaType : String :=
  "application/vnd.charting.strategy-lab.nautilus-account-equity+parquet"

/-- The `metadata` of the writer and of the reference, which writes the currency in upper case
once more. -/
def TraceIdentity.metadata (t : TraceIdentity) (baseCurrency : String) : List (String × String) :=
  [("protocol", accountEquityTraceProtocol), ("trial_id", t.trialId), ("attempt_id", t.attemptId),
    ("portfolio_fingerprint", t.portfolioFingerprint.text),
    ("snapshot_fingerprint", t.snapshotFingerprint.text),
    ("source_tape_fingerprint", t.sourceTapeFingerprint.text),
    ("evaluation_window_fingerprint", t.window.elim "" fun w => w.fingerprint.text),
    ("scoring_start_ns", t.window.elim "" fun w => String.ofList (intText w.startNs)),
    ("scoring_end_ns", t.window.elim "" fun w => String.ofList (intText w.endNs)),
    ("base_currency", baseCurrency),
    ("initial_capital", String.ofList t.initialCapital.fixedText),
    ("event_exposure_basis", "native_portfolio_net_exposure:v1")]

/-- `NautilusAccountEquityTraceReference`. -/
structure TraceReference extends TraceIdentity where
  artifact : ArtifactManifest Digest
  observationCount : ℕ

section
variable (env : TraceEnv)

/-- `NautilusAccountEquityTraceReference.metadata`. -/
def TraceReference.metadata (r : TraceReference) : List (String × String) :=
  r.toTraceIdentity.metadata (env.upper r.baseCurrency)

/-- `NautilusAccountEquityTraceReference.__post_init__`. -/
def makeTraceReference (t : TraceIdentity) (artifact : ArtifactManifest Digest)
    (observationCount : ℕ) : Except PyError TraceReference := do
  ensure (artifact.mediaType = accountEquityTraceMediaType ∧
      artifact.schemaVersion = accountEquityTraceProtocol ∧
      artifact.retentionClass = .pinnedResult)
    (valueError "Nautilus account-equity trace artifact identity is unsupported")
  ensure (notBlank t.trialId = true) (valueError "trial_id must not be empty")
  ensure (notBlank t.attemptId = true) (valueError "attempt_id must not be empty")
  ensure (t.baseCurrency.length = 3 ∧ t.baseCurrency.toList.all (fun c => c.toNat < 128) = true ∧
      env.isAlpha t.baseCurrency = true)
    (valueError "base_currency must be a three-letter currency code")
  ensure (0 < t.initialCapital.value) (valueError "initial_capital must be positive")
  ensure (1 ≤ artifact.byteLength)
    (valueError "native account-equity trace artifact must not be empty")
  ensure (1 ≤ observationCount) (valueError "observation_count must be a positive integer")
  return ⟨t, artifact, observationCount⟩

/-! ## The writer -/

/-- What the writer reads of `engine_input`. -/
structure TraceInput where
  trialId : String
  attemptId : String
  dataSnapshotFingerprint : Digest
  sourceTapeFingerprint : Digest
  evaluationWindow : Option (Digest × ℤ × ℤ)

structure TracePortfolio where
  fingerprint : Digest
  baseCurrency : String
  initialCapital : PyDecimal

def makeScoringWindow : Option (Digest × ℤ × ℤ) → Except PyError (Option ScoringWindow)
  | none => .ok none
  | some (fingerprint, startNs, endNs) =>
    if h : 0 ≤ startNs ∧ startNs < endNs then .ok (some ⟨fingerprint, startNs, endNs, h.1, h.2⟩)
    else .error (valueError "equity trace scoring bounds are invalid")

/-- `NautilusAccountEquityTraceWriter`. -/
structure TraceWriter where
  identity : TraceIdentity
  maxStreamBytes : ℤ
  written : List (TraceRow Decimal128) := []
  buffer : List (TraceRow TraceDecimal) := []
  observationCount : ℕ := 0
  previousIndex : ℤ := -1
  previousTimeNs : ℤ := -1
  finished : Bool := false

/-- `NautilusAccountEquityTraceWriter.__init__`. -/
def makeTraceWriter (input : TraceInput) (portfolio : TracePortfolio) (maxStreamBytes : ℤ) :
    Except PyError TraceWriter := do
  ensure (1 ≤ maxStreamBytes) (valueError "max_stream_bytes must be a positive integer")
  ensure (notBlank input.trialId = true ∧ notBlank input.attemptId = true)
    (valueError "equity trace trial and attempt identities are required")
  let window ← makeScoringWindow input.evaluationWindow
  let baseCurrency := env.upper portfolio.baseCurrency
  ensure (baseCurrency.length = 3 ∧ env.isAlpha baseCurrency = true)
    (valueError "equity trace base currency is invalid")
  let initialCapital ← checkedDecimal "initial_capital" false portfolio.initialCapital
  ensure (0 < initialCapital.value)
    (valueError "equity trace initial capital must be positive")
  return {
    identity := {
      trialId := input.trialId
      attemptId := input.attemptId
      portfolioFingerprint := portfolio.fingerprint
      snapshotFingerprint := input.dataSnapshotFingerprint
      sourceTapeFingerprint := input.sourceTapeFingerprint
      window := window
      baseCurrency := baseCurrency
      initialCapital := initialCapital }
    maxStreamBytes := maxStreamBytes }

structure MarkValues where
  accountEquity : PyDecimal
  accountCashBalance : PyDecimal
  grossBaseExposure : Option PyDecimal := none
  signedNetBaseExposure : Option PyDecimal := none

/-- `_ROW_GROUP_SIZE`. -/
def rowGroupSize : ℕ := 8192

namespace TraceWriter

/-- `_flush`. -/
def flush (w : TraceWriter) : Except PyError TraceWriter :=
  if w.buffer = [] then .ok w
  else match env.refuses w.buffer with
    | some error => .error error
    | none => .ok { w with written := w.written ++ w.buffer.map TraceRow.toArrow, buffer := [] }

def checkMark (id : MarkIdentity) : Except PyError Unit := do
  ensure (notBlank id.eventId = true) (valueError "equity trace event_id must not be empty")
  ensure (0 ≤ id.eventTimeNs) (valueError "equity trace event_time_ns must be a non-negative integer")
  ensure (0 ≤ id.eventIndex) (valueError "equity trace event_index must be a non-negative integer")
  ensure (0 ≤ id.sourceSequence)
    (valueError "equity trace source_sequence must be a non-negative integer")

def makeRow (w : TraceWriter) (id : MarkIdentity) (values : MarkValues) :
    Except PyError (TraceRow TraceDecimal) := do
  ensure (InScoring w.identity.window id.eventTimeNs)
    (valueError "native equity mark is outside the scoring interval")
  ensure (w.previousIndex < id.eventIndex ∧ w.previousTimeNs ≤ id.eventTimeNs)
    (valueError "native equity marks must preserve canonical event order")
  let equity ← checkedDecimal "account_equity" true values.accountEquity
  let cash ← checkedDecimal "account_cash_balance" false values.accountCashBalance
  let exposures ← checkedExposures values.grossBaseExposure values.signedNetBaseExposure
  return ⟨id, equity, cash, exposures.map Prod.fst, exposures.map Prod.snd⟩

def append (w : TraceWriter) (row : TraceRow TraceDecimal) : Except PyError TraceWriter :=
  let w' := { w with
    buffer := w.buffer ++ [row]
    observationCount := w.observationCount + 1
    previousIndex := row.eventIndex
    previousTimeNs := row.eventTimeNs }
  if rowGroupSize ≤ w'.buffer.length then w'.flush env else .ok w'

/-- `write`: marks before the window are passed over. -/
def write (w : TraceWriter) (id : MarkIdentity) (values : MarkValues) :
    Except PyError TraceWriter := do
  ensure (w.finished = false) (valueError "equity trace writer is already finished")
  checkMark id
  if ∃ v ∈ w.identity.window, id.eventTimeNs < v.startNs then return w
  else w.makeRow id values >>= w.append env

/-- `finish`: the reference and the file. -/
def finish (w : TraceWriter) : Except PyError (TraceReference × env.File) := do
  ensure (w.finished = false) (valueError "equity trace writer is already finished")
  let w ← w.flush env
  ensure (1 ≤ w.observationCount)
    (valueError "native account-equity trace contains no scoring observations")
  let file := env.parquet
    ⟨traceColumns, w.identity.metadata w.identity.baseCurrency, w.written⟩
  ensure (1 ≤ env.size file)
    (valueError "native account-equity trace output is not a regular file")
  ensure (env.size file ≤ w.maxStreamBytes)
    (valueError "native account-equity trace exceeds its byte bound")
  let artifact : ArtifactManifest Digest := {
    contentDigest := env.sha256 file
    byteLength := env.size file
    mediaType := accountEquityTraceMediaType
    schemaVersion := accountEquityTraceProtocol
    storageKey := env.sha256 file
    retentionClass := .pinnedResult
    storage_key := rfl }
  let reference ← makeTraceReference env w.identity artifact w.observationCount
  return (reference, file)

end TraceWriter

end

/-! ## The verifier -/

/-- What the verifier reads of an event of the tape. -/
structure NativeEvent where
  eventId : String
  eventTimeNs : ℤ
  sequence : ℤ
  deriving DecidableEq

/-- An expected event; without an index, its place counts. -/
structure ExpectedEvent where
  index : Option ℤ
  event : NativeEvent

def ExpectedEvent.identity (e : ExpectedEvent) (position : ℕ) : MarkIdentity :=
  ⟨e.event.eventId, e.event.eventTimeNs, e.index.getD position, e.event.sequence⟩

/-- `NautilusAccountEquityObservation`. -/
structure EquityObservation where
  eventTimeNs : ℤ
  accountEquity : TraceDecimal
  eventIndex : ℤ
  accountCashBalance : TraceDecimal
  exposures : Option (TraceDecimal × TraceDecimal)

/-- `NautilusAccountEquityObservation.__post_init__`. -/
def makeEquityObservation (eventTimeNs : ℤ) (accountEquity : PyDecimal) (eventIndex : ℤ)
    (accountCashBalance : PyDecimal) (grossBaseExposure signedNetBaseExposure : Option PyDecimal) :
    Except PyError EquityObservation := do
  ensure (0 ≤ eventTimeNs) (valueError "event_time_ns must be a non-negative integer")
  ensure (0 ≤ eventIndex) (valueError "event_index must be a non-negative integer")
  let equity ← checkedDecimal "account_equity" true accountEquity
  let cash ← checkedDecimal "account_cash_balance" false accountCashBalance
  let exposures ← checkedExposures grossBaseExposure signedNetBaseExposure
  return ⟨eventTimeNs, equity, eventIndex, cash, exposures⟩

/-- The state of the verifier: the expected events that are left with the place of the first, the
mark before, and the observations so far. -/
structure TraceVerifier where
  expected : Option (ℕ × List ExpectedEvent)
  previous : MarkIdentity := ⟨"", -1, -1, -1⟩
  observations : List EquityObservation := []

/-- The loop over `expected_iterator`: the next event of the window and its index. -/
def nextScoring (window : Option ScoringWindow) :
    ℕ → List ExpectedEvent → Option (MarkIdentity × ℕ × List ExpectedEvent)
  | _, [] => none
  | position, e :: es =>
    if InScoring window e.event.eventTimeNs then some (e.identity position, position + 1, es)
    else nextScoring window (position + 1) es

def matchExpected (window : Option ScoringWindow) (id : MarkIdentity) :
    Option (ℕ × List ExpectedEvent) → Except PyError (Option (ℕ × List ExpectedEvent))
  | none => do
    ensure (InScoring window id.eventTimeNs)
      (valueError "native account-equity mark is outside its scoring interval")
    return none
  | some (position, es) =>
    match nextScoring window position es with
    | none => .error (valueError "equity trace has marks outside its frozen event tape")
    | some (expected, position, es) => do
      ensure (id = expected) (valueError "native account-equity mark differs from its tape event")
      return some (position, es)

def MarkIdentity.Precedes (a b : MarkIdentity) : Prop :=
  a.eventIndex < b.eventIndex ∧ a.eventTimeNs ≤ b.eventTimeNs ∧
    (b.eventTimeNs = a.eventTimeNs → a.sourceSequence ≤ b.sourceSequence)

instance MarkIdentity.decidablePrecedes (a b : MarkIdentity) : Decidable (a.Precedes b) :=
  inferInstanceAs (Decidable (_ ∧ _))

def checkRowExposures : Option Decimal128 → Option Decimal128 → Except PyError Unit
  | none, none => .ok ()
  | some gross, some net =>
    ensure (0 ≤ gross.value ∧ decimalAbs net.value ≤ gross.value)
      (valueError "native account exposure mark values are invalid")
  | _, _ => .error (valueError "native exposure mark is only partially available")

def checkRowValues (row : TraceRow Decimal128) : Except PyError Unit := do
  ensure (0 ≤ row.accountEquity.value) (valueError "native account-equity mark values are invalid")
  checkRowExposures row.grossBaseExposure row.signedNetBaseExposure

/-- One row of `iter_verified_nautilus_account_equity_observations`. -/
def verifyRow (window : Option ScoringWindow) (v : TraceVerifier) (row : TraceRow Decimal128) :
    Except PyError TraceVerifier := do
  ensure (row.eventId ≠ "" ∧ 0 ≤ row.eventTimeNs ∧ 0 ≤ row.eventIndex ∧ 0 ≤ row.sourceSequence)
    (valueError "native account-equity mark identity is invalid")
  let expected ← matchExpected window row.toMarkIdentity v.expected
  checkRowValues row
  ensure (v.previous.Precedes row.toMarkIdentity)
    (valueError "native account-equity marks are not canonically ordered")
  let observation ← makeEquityObservation row.eventTimeNs row.accountEquity.toDecimal
    row.eventIndex row.accountCashBalance.toDecimal
    (row.grossBaseExposure.map Decimal128.toDecimal)
    (row.signedNetBaseExposure.map Decimal128.toDecimal)
  return ⟨expected, row.toMarkIdentity, v.observations ++ [observation]⟩

def checkLeft (window : Option ScoringWindow) : Option (ℕ × List ExpectedEvent) →
    Except PyError Unit
  | none => .ok ()
  | some (_, es) => ensure (∀ e ∈ es, ¬ InScoring window e.event.eventTimeNs)
      (valueError "native account-equity trace omitted scoring tape events")

/-- `iter_verified_nautilus_account_equity_observations`, consumed to its end. -/
def verifyTrace (env : TraceEnv) (reference : TraceReference) (file : env.File)
    (expectedEvents : Option (List ExpectedEvent)) (maxStreamBytes : ℤ) :
    Except PyError (List EquityObservation) := do
  ensure (1 ≤ maxStreamBytes) (valueError "max_stream_bytes must be a positive integer")
  ensure (env.size file = reference.artifact.byteLength)
    (valueError "native account-equity trace file length differs")
  ensure (env.size file ≤ maxStreamBytes)
    (valueError "native account-equity trace exceeds its byte bound")
  ensure (env.sha256 file = reference.artifact.contentDigest)
    (valueError "native account-equity trace digest differs")
  let table := env.readParquet file
  ensure (table.columns.map Prod.fst = traceColumns.map Prod.fst)
    (valueError "native account-equity trace columns are invalid")
  ensure (table.columns = traceColumns)
    (valueError "native account-equity trace field types are invalid")
  ensure (table.metadata.Perm (reference.metadata env))
    (valueError "native account-equity trace metadata differs from its receipt")
  let v ← table.rows.foldlM (verifyRow reference.window)
    { expected := expectedEvents.map fun es => (0, es) }
  checkLeft reference.window v.expected
  ensure (v.observations.length = reference.observationCount)
    (valueError "native account-equity observation count differs")
  return v.observations

/-! ## Tapes -/

/-- The Unix epoch in the microseconds of an `Instant`. -/
def unixEpoch : ℤ := 719162 * 86400000000

/-- `_event_time_ns`. -/
def eventTimeNs (t : Instant) : ℤ := (t.val - unixEpoch) * 1000

def MarketEvent.native (e : MarketEvent) : NativeEvent :=
  ⟨e.eventId, eventTimeNs e.eventTime, e.sequence⟩

def FrozenEventTape.expectedEvents (t : FrozenEventTape) : List ExpectedEvent :=
  t.events.zipIdx.map fun p => ⟨some p.2, p.1.native⟩

def FrozenEventTape.marks (t : FrozenEventTape) : List MarkIdentity :=
  t.events.zipIdx.map fun p => ⟨p.1.eventId, eventTimeNs p.1.eventTime, p.2, p.1.sequence⟩

def writeTrace (env : TraceEnv) (input : TraceInput) (portfolio : TracePortfolio)
    (maxStreamBytes : ℤ) (t : FrozenEventTape) (values : MarkIdentity → MarkValues) :
    Except PyError (TraceReference × env.File) := do
  let w ← makeTraceWriter env input portfolio maxStreamBytes
  let w ← t.marks.foldlM (fun w id => w.write env id (values id)) w
  w.finish env

end ChartingPlatform
