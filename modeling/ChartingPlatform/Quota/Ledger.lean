/-
  The durable provider quota ledger (`provider_quota_coordinator.py`): its
  tables and the queries that admission and settlement make.

  A bucket is the unique key of a window row.  The reservation table has the
  unique key (reservation id, dimension), the identity table (bucket, digest).
  Rows stand in the order of their ids.
-/
import ChartingPlatform.Canonical.Value
import ChartingPlatform.Lib.Updates
import ChartingPlatform.Quota.Contracts

namespace ChartingPlatform

open Lib

/-! ## Tables -/

/-- What a provider meters together: an account scope, a quota group and a dimension. -/
structure Pool where
  accountScope : String
  quotaGroup : String
  dimension : String
  deriving DecidableEq, Repr

/-- The unique key of `provider_quota_ledger_window`. -/
structure Bucket where
  pool : Pool
  windowStartedAt : Micros
  windowSeconds : ℤ
  deriving DecidableEq, Repr

/-- A row of `provider_quota_ledger_window`. -/
structure QuotaWindow where
  bucket : Bucket
  limitUnits : ℤ
  reservedUnits : ℤ := 0
  consumedUnits : ℤ := 0
  deriving DecidableEq, Repr

inductive ReservationState where
  | pending | uncertain | settled | notSent | leaseExpired
  deriving DecidableEq, Repr

/-- A row of `provider_quota_ledger_reservation`. -/
structure Reservation where
  reservationId : String
  providerName : String
  operation : String
  bucket : Bucket
  unit : String
  reservedUnits : ℤ
  releaseOnly : Bool
  leaseExpiresAt : Option Micros
  identityDigest : Option Digest
  state : ReservationState := .pending
  createdAt : Micros
  settledAt : Option Micros := none
  deriving DecidableEq

def Reservation.key (r : Reservation) : String × String := (r.reservationId, r.bucket.pool.dimension)

/-- `state.in_(["pending", "uncertain"])`. -/
def Reservation.outstanding (r : Reservation) : Bool :=
  decide (r.state = .pending) || decide (r.state = .uncertain)

inductive IdentityState where
  | pending | uncertain | consumed
  deriving DecidableEq, Repr

/-- A row of `provider_quota_ledger_identity`. -/
structure QuotaIdentity where
  bucket : Bucket
  identityDigest : Digest
  ownerReservationId : Option String
  state : IdentityState
  deriving DecidableEq

def QuotaIdentity.key (i : QuotaIdentity) : Bucket × Digest := (i.bucket, i.identityDigest)

/-- A row of `provider_quota_ledger_baseline`. -/
structure Baseline where
  pool : Pool
  unit : String
  reset : String
  windowStartedAt : Micros
  windowSeconds : ℤ
  rolling : Bool
  limitUnits : ℤ
  usedUnits : ℤ
  observedAt : Micros
  source : String
  evidenceReference : String
  sourceProviderName : String
  actorUserId : Option ℤ
  idempotencyKey : Digest
  deriving DecidableEq

/-- The ledger tables that admission and settlement use. -/
structure Ledger where
  windows : List QuotaWindow := []
  reservations : List Reservation := []
  identities : List QuotaIdentity := []
  baselines : List Baseline := []
  deriving DecidableEq

structure QuotaSpec where
  providerName : String
  operation : String
  bucket : Bucket
  unit : String
  reset : String
  rolling : Bool
  limitUnits : ℤ
  baselineMode : String
  applicationUsageOnly : Bool
  units : ℤ
  releaseOnly : Bool
  leaseExpiresAt : Option Micros
  identityDigest : Option Digest
  deriving DecidableEq

/-- `reserve` was refused: denied, with what the transaction still commits and
    when to try again, or raised, with everything rolled back. -/
inductive Refusal where
  | denied (ledger : Ledger) (retryAt : Option Micros)
  | raised (error : QuotaError)
  deriving DecidableEq

/-- What the coordinator takes from outside: the digest, the text of a time with
    its separator, the printable and the upper-case texts, the rules of New York,
    and settings. -/
structure Coordinator where
  sha256 : String → Digest
  isoformat : Char → Micros → String
  isprintable : String → Bool
  upper : String → String
  zone : NewYork
  /-- `PROVIDER_QUOTA_ACCOUNT_SCOPES` -/
  accountScopes : List (String × String) := []
  /-- `account_scope_is_exclusive` -/
  accountScopeIsExclusive : String → Bool := fun _ => false
  /-- `IBKR_READ_ONLY_TIMEOUT_SECONDS` -/
  ibkrReadOnlyTimeout : Micros := 30000000
  /-- `PROVIDER_QUOTA_CONCURRENCY_LEASE_GRACE_SECONDS` -/
  concurrencyLeaseGraceSeconds : ℤ := 10

/-- `QuotaReservation`. -/
structure QuotaReservation where
  reservationId : String
  providerName : String
  accountScope : String
  deriving DecidableEq

/-! ## Windows -/

/-- `_find_window`. -/
def Ledger.findWindow (l : Ledger) (b : Bucket) : Option QuotaWindow :=
  rowWith QuotaWindow.bucket b l.windows

def Ledger.updateWindow (l : Ledger) (b : Bucket) (f : QuotaWindow → QuotaWindow) : Ledger :=
  { l with windows := updateRow QuotaWindow.bucket b f l.windows }

def Ledger.updateReservation (l : Ledger) (k : String × String) (f : Reservation → Reservation) :
    Ledger :=
  { l with reservations := updateRow Reservation.key k f l.reservations }

def QuotaWindow.withLimit (limit : ℤ) (w : QuotaWindow) : QuotaWindow :=
  { w with limitUnits := limit }

/-- `_insert_ignore` of a window. -/
def Ledger.insertWindow (l : Ledger) (w : QuotaWindow) : Ledger :=
  { l with windows := (insertNew QuotaWindow.bucket w l.windows).getD l.windows }

/-- A window is inserted unless it is there, then its limit is set. -/
def Ledger.openWindow (l : Ledger) (b : Bucket) (limit : ℤ) : Ledger :=
  (l.insertWindow { bucket := b, limitUnits := limit }).updateWindow b (·.withLimit limit)

/-- Delete the windows this call created, where they hold nothing. -/
def Ledger.dropCreated (l : Ledger) (created : List Bucket) : Ledger :=
  { l with
    windows := l.windows.filter fun w =>
      !decide (w.bucket ∈ created ∧ w.reservedUnits = 0 ∧ w.consumedUnits = 0) }

/-- `reserved_units = max(0, reserved_units - units)`. -/
def QuotaWindow.release (units : ℤ) (w : QuotaWindow) : QuotaWindow :=
  { w with reservedUnits := max 0 (w.reservedUnits - units) }

def Reservation.heldIn (b : Bucket) (r : Reservation) : ℤ :=
  if r.bucket = b ∧ r.outstanding then r.reservedUnits else 0

def heldUnits (rs : List Reservation) (b : Bucket) : ℤ := (rs.map (·.heldIn b)).sum

/-! ## Active windows and baselines -/

/-- `now - timedelta(seconds=window_seconds)`. -/
def QuotaSpec.cutoff (spec : QuotaSpec) (now : Micros) : Micros :=
  now - seconds spec.bucket.windowSeconds

/-- The reservation lies in the active window of the plan entry. -/
def QuotaSpec.InWindow (spec : QuotaSpec) (now : Micros) (r : Reservation) : Prop :=
  if spec.rolling then spec.cutoff now ≤ r.createdAt
  else r.bucket.windowStartedAt = spec.bucket.windowStartedAt

instance (spec : QuotaSpec) (now : Micros) (r : Reservation) : Decidable (spec.InWindow now r) := by
  unfold QuotaSpec.InWindow; infer_instance

/-- The predicates of `_baseline_query` that do not depend on the time. -/
def QuotaSpec.baselineKey (spec : QuotaSpec) (b : Baseline) : Prop :=
  b.pool = spec.bucket.pool ∧ b.windowSeconds = spec.bucket.windowSeconds ∧
    b.unit = spec.unit ∧ b.reset = spec.reset ∧ b.rolling = spec.rolling

instance (spec : QuotaSpec) (b : Baseline) : Decidable (spec.baselineKey b) := by
  unfold QuotaSpec.baselineKey; infer_instance

/-- The predicates of `_baseline_query`. -/
def QuotaSpec.baselineActive (spec : QuotaSpec) (now : Micros) (b : Baseline) : Prop :=
  spec.baselineKey b ∧
    if spec.rolling then b.observedAt ≤ now ∧ spec.cutoff now ≤ b.observedAt
    else b.windowStartedAt = spec.bucket.windowStartedAt

instance (spec : QuotaSpec) (now : Micros) (b : Baseline) :
    Decidable (spec.baselineActive now b) := by
  unfold QuotaSpec.baselineActive; infer_instance

/-- `_baseline_query`: the last one observed, the youngest row among equals. -/
def activeBaseline (bs : List Baseline) (spec : QuotaSpec) (now : Micros) : Option Baseline :=
  largestBy (·.observedAt) (bs.filter fun b => decide (spec.baselineActive now b)).reverse

/-- A zero baseline of coordinator-tracked usage only. -/
def Baseline.isLocalZero (b : Baseline) : Bool :=
  decide (b.source = "local_policy") && ":local-zero".toList.isSuffixOf b.evidenceReference.toList

/-- A settled reservation whose units the baseline does not contain. -/
def Baseline.precedes (b : Baseline) (r : Reservation) : Prop :=
  b.isLocalZero = true ∨ b.observedAt ≤ r.createdAt

instance (b : Baseline) (r : Reservation) : Decidable (b.precedes r) := by
  unfold Baseline.precedes; infer_instance

/-- `_settled_units_since_baseline`. -/
def settledUnitsSinceBaseline (rs : List Reservation) (spec : QuotaSpec) (now : Micros)
    (b : Baseline) : ℤ :=
  (rs.map fun r =>
    if r.bucket.pool = spec.bucket.pool ∧ r.state = .settled ∧ b.precedes r ∧ spec.InWindow now r
    then r.reservedUnits else 0).sum

/-- The buckets that a rolling limit is enforced over. -/
def QuotaSpec.overlaps (spec : QuotaSpec) (now : Micros) (b : Bucket) : Prop :=
  b.pool = spec.bucket.pool ∧ b.windowSeconds = spec.bucket.windowSeconds ∧
    spec.cutoff now ≤ b.windowStartedAt

instance (spec : QuotaSpec) (now : Micros) : DecidablePred (spec.overlaps now) := fun b => by
  unfold QuotaSpec.overlaps; infer_instance

/-- `_known_capacity_retry_at`. -/
def knownCapacityRetryAt (rs : List Reservation) (spec : QuotaSpec) (baseline : Baseline)
    (now : Micros) : Micros :=
  if spec.rolling then
    ((rs.filter fun r =>
        decide (r.bucket.pool = spec.bucket.pool ∧
          r.bucket.windowSeconds = spec.bucket.windowSeconds ∧ r.releaseOnly = false ∧
          r.state ∈ [.pending, .settled, .uncertain] ∧ spec.cutoff now ≤ r.createdAt)).map
      fun r => r.createdAt + seconds (spec.bucket.windowSeconds + 1)).foldl max
      (baseline.observedAt + seconds (spec.bucket.windowSeconds + 1))
  else spec.bucket.windowStartedAt + seconds spec.bucket.windowSeconds

/-- The row that `local_zero` persists. -/
def localZeroBaseline (env : Coordinator) (spec : QuotaSpec) (now : Micros) : Baseline where
  pool := spec.bucket.pool
  unit := spec.unit
  reset := spec.reset
  windowStartedAt := spec.bucket.windowStartedAt
  windowSeconds := spec.bucket.windowSeconds
  rolling := spec.rolling
  limitUnits := spec.limitUnits
  usedUnits := 0
  observedAt := now
  source := "local_policy"
  evidenceReference := "application-policy:" ++ spec.providerName ++ ":local-zero"
  sourceProviderName := spec.providerName
  actorUserId := none
  idempotencyKey := env.sha256 (String.intercalate "|" [spec.bucket.pool.accountScope,
    spec.bucket.pool.quotaGroup, spec.bucket.pool.dimension, toString spec.bucket.windowSeconds,
    spec.reset, env.isoformat 'T' spec.bucket.windowStartedAt])

def exclusiveResetBaseline (env : Coordinator) (spec : QuotaSpec) (rolloverAt : Micros) :
    Baseline where
  pool := spec.bucket.pool
  unit := spec.unit
  reset := spec.reset
  windowStartedAt := rolloverAt
  windowSeconds := spec.bucket.windowSeconds
  rolling := spec.rolling
  limitUnits := spec.limitUnits
  usedUnits := 0
  observedAt := rolloverAt
  source := "exclusive_account_reset"
  evidenceReference := "verified prior baseline; exclusive coordinator scope"
  sourceProviderName := spec.providerName
  actorUserId := none
  idempotencyKey := env.sha256 (String.intercalate "|" [spec.bucket.pool.accountScope,
    spec.bucket.pool.quotaGroup, spec.bucket.pool.dimension, toString spec.bucket.windowSeconds,
    spec.reset, env.isoformat ' ' rolloverAt, "exclusive-reset"])

/-- The prior baseline that may be rolled forward, and the moment it is rolled to. -/
def priorBaseline (bs : List Baseline) (spec : QuotaSpec) (now : Micros) : Option Micros :=
  if spec.rolling then
    match largestBy (·.observedAt) (bs.filter fun b => decide (spec.baselineKey b)).reverse with
    | none => none
    | some prior =>
      if now < prior.observedAt + seconds spec.bucket.windowSeconds then none
      else some (spec.cutoff now)
  else if ∃ b ∈ bs, spec.baselineKey b ∧ b.windowStartedAt < spec.bucket.windowStartedAt then
    some spec.bucket.windowStartedAt
  else none

/-- `_insert_ignore` into the baselines. -/
def insertBaseline (b : Baseline) (bs : List Baseline) : List Baseline :=
  (insertNew Baseline.idempotencyKey b bs).getD bs

/-- `_baseline_for_reservation`: the baselines afterwards, and the active one. -/
def baselineForReservation (env : Coordinator) (bs : List Baseline) (spec : QuotaSpec)
    (now : Micros) : Except QuotaError (List Baseline × Option Baseline) :=
  match activeBaseline bs spec now with
  | some b => .ok (bs, some b)
  | none =>
    if strip spec.baselineMode = "local_zero" then
      if spec.applicationUsageOnly then
        let bs' := insertBaseline (localZeroBaseline env spec now) bs
        .ok (bs', activeBaseline bs' spec now)
      else
        .error (admissionError "local-zero quota baseline is missing application-only scope")
    else
      match priorBaseline bs spec now with
      | none => .ok (bs, none)
      | some rolloverAt =>
        if env.accountScopeIsExclusive spec.bucket.pool.accountScope then
          let bs' := insertBaseline (exclusiveResetBaseline env spec rolloverAt) bs
          .ok (bs', activeBaseline bs' spec now)
        else .ok (bs, none)

/-! ## Identities -/

/-- `_find_active_identity`. -/
def Ledger.findActiveIdentity (l : Ledger) (spec : QuotaSpec) (digest : Digest) (now : Micros) :
    Option QuotaIdentity :=
  largestBy (·.bucket.windowStartedAt) (l.identities.filter fun i =>
    decide (i.bucket.pool = spec.bucket.pool ∧
      i.bucket.windowSeconds = spec.bucket.windowSeconds ∧ i.identityDigest = digest ∧
      if spec.rolling then spec.cutoff now ≤ i.bucket.windowStartedAt
      else i.bucket.windowStartedAt = spec.bucket.windowStartedAt))

end ChartingPlatform
