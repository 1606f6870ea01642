/-
  Reserving, settling and reconciling provider quota
  (`provider_quota_coordinator.py`).

  The bodies of `reserve_provider_quota` and `reserve_live_provider_operation`
  are one definition with parameters, `reserveSpecs`: they differ in where the
  units of a plan entry come from.  A call is one transaction: it commits on
  return and on a denial, and rolls back what it did when it raises.
-/
import ChartingPlatform.Quota.Ledger

namespace ChartingPlatform

open Lib

def reservationFailed : QuotaError :=
  coordinatorError "provider quota coordinator reservation failed; provider call was blocked"

def settlementFailed (exception : String) : QuotaError :=
  coordinatorError ("provider quota coordinator settlement failed (" ++ exception ++
    "); outstanding reservation retained")

/-! ## Expired leases -/

def Reservation.leaseOver (scope : String) (now : Micros) (r : Reservation) : Bool :=
  decide (r.bucket.pool.accountScope = scope) && r.releaseOnly && r.outstanding &&
    r.leaseExpiresAt.any fun t => decide (t ≤ now)

/-- The row enters a state at `now`. -/
def Reservation.enter (state : ReservationState) (now : Micros) (r : Reservation) : Reservation :=
  { r with state, settledAt := some now }

/-- One lease of `_release_expired_concurrency_leases`. -/
def releaseLease (now : Micros) (l : Ledger) (r : Reservation) : Except QuotaError Ledger :=
  match l.findWindow r.bucket with
  | none => .error reservationFailed
  | some _ =>
    .ok ((l.updateWindow r.bucket (·.release r.reservedUnits)).updateReservation r.key
      (·.enter .leaseExpired now))

/-- `_release_expired_concurrency_leases`. -/
def releaseExpiredConcurrencyLeases (now : Micros) (l : Ledger) (scope : String) :
    Except QuotaError Ledger :=
  (l.reservations.filter (·.leaseOver scope now)).foldlM (releaseLease now) l

/-! ## Reserving -/

structure Preparation where
  ledger : Ledger
  windows : Bucket → Option QuotaWindow := fun _ => none
  baselines : Bucket → Option Baseline := fun _ => none
  created : List Bucket := []
  charged : List (QuotaSpec × ℤ) := []

/-- The plan entry bound to another bucket of its pool. -/
def QuotaSpec.rebind (spec : QuotaSpec) (start : Micros) : QuotaSpec :=
  { spec with bucket := { spec.bucket with windowStartedAt := start } }

/-- The entry and its units: an identity that is active is charged nothing, and
    a rolling entry joins the bucket of the identity. -/
def chargeFor (unitsOf : QuotaSpec → ℤ) (now : Micros) (l : Ledger) (spec : QuotaSpec) :
    QuotaSpec × ℤ :=
  match spec.identityDigest.bind fun digest => l.findActiveIdentity spec digest now with
  | some identity =>
    (if spec.rolling then spec.rebind identity.bucket.windowStartedAt else spec, 0)
  | none => (spec, unitsOf spec)

/-- The first loop: open the window of a plan entry and find its baseline. -/
def prepareSpec (env : Coordinator) (unitsOf : QuotaSpec → ℤ) (now : Micros) (p : Preparation)
    (spec₀ : QuotaSpec) : Except Refusal Preparation :=
  let c := chargeFor unitsOf now p.ledger spec₀
  let spec := c.1
  let created :=
    if (p.ledger.findWindow spec.bucket).isNone then p.created ++ [spec.bucket] else p.created
  let ledger := p.ledger.openWindow spec.bucket spec.limitUnits
  let windows := Function.update p.windows spec.bucket (ledger.findWindow spec.bucket)
  if spec.releaseOnly then
    .ok { p with ledger, windows, created, charged := p.charged ++ [c] }
  else
    match baselineForReservation env ledger.baselines spec now with
    | .error e => .error (.raised e)
    | .ok (bs, none) =>
      .error (.denied { ledger.dropCreated created with baselines := bs } none)
    | .ok (bs, some b) =>
      .ok
        { ledger := { ledger with baselines := bs }
          windows := windows
          baselines := Function.update p.baselines spec.bucket (some b)
          created := created
          charged := p.charged ++ [c] }

/-- The units that the windows of the first loop and later debits already use. -/
def Preparation.used (p : Preparation) (now : Micros) (spec : QuotaSpec) (units : ℤ) : ℤ :=
  let inBucket := (p.windows spec.bucket).elim 0 (·.reservedUnits)
  if spec.releaseOnly then inBucket
  else if 0 < units then
    let reserved :=
      if spec.rolling then
        ((p.ledger.windows.filter fun w => decide (spec.overlaps now w.bucket)).map
          (·.reservedUnits)).sum
      else inBucket
    reserved + (p.baselines spec.bucket).elim 0 fun b =>
      b.usedUnits + settledUnitsSinceBaseline p.ledger.reservations spec now b
  else 0

/-- The second loop: a charged entry needs capacity. -/
def checkCapacity (p : Preparation) (now : Micros) (c : QuotaSpec × ℤ) : Except Refusal Unit :=
  if c.2 ≤ 0 ∧ c.1.identityDigest.isNone then .ok ()
  else if 0 < c.2 ∧ c.1.limitUnits - p.used now c.1 c.2 < c.2 then
    .error (.denied (p.ledger.dropCreated p.created)
      (if c.1.releaseOnly then none
       else (p.baselines c.1.bucket).map fun b =>
        knownCapacityRetryAt p.ledger.reservations c.1 b now))
  else .ok ()

def newIdentity (id : String) (spec : QuotaSpec) (digest : Digest) : QuotaIdentity where
  bucket := spec.bucket
  identityDigest := digest
  ownerReservationId := some id
  state := .pending

def newReservation (id : String) (now : Micros) (c : QuotaSpec × ℤ) : Reservation where
  reservationId := id
  providerName := c.1.providerName
  operation := c.1.operation
  bucket := c.1.bucket
  unit := c.1.unit
  reservedUnits := c.2
  releaseOnly := c.1.releaseOnly
  leaseExpiresAt := c.1.leaseExpiresAt
  identityDigest := c.1.identityDigest
  createdAt := now

/-- Claim the identity of a plan entry that is charged. -/
def Ledger.claim (l : Ledger) (id : String) (c : QuotaSpec × ℤ) : Ledger :=
  match c.1.identityDigest with
  | none => l
  | some digest =>
    if 0 < c.2 then
      { l with
        identities := (insertNew QuotaIdentity.key (newIdentity id c.1 digest) l.identities).getD
          l.identities }
    else l

def QuotaWindow.holding (units : ℤ) (w : QuotaWindow) : QuotaWindow :=
  { w with reservedUnits := units }

/-- Add the units of a plan entry to what the first loop read. -/
def Ledger.addUnits (l : Ledger) (windows : Bucket → Option QuotaWindow) (c : QuotaSpec × ℤ) :
    Ledger :=
  if 0 < c.2 then
    l.updateWindow c.1.bucket
      (·.holding ((windows c.1.bucket).elim 0 (·.reservedUnits) + c.2))
  else l

/-- The third loop: claim the identity, add the units to the row that the first
    loop read, and insert the reservation. -/
def chargeSpec (id : String) (now : Micros) (windows : Bucket → Option QuotaWindow) (l : Ledger)
    (c : QuotaSpec × ℤ) : Except Refusal Ledger :=
  match insertNew Reservation.key (newReservation id now c) l.reservations with
  | none => .error (.raised reservationFailed)
  | some reservations => .ok { (l.claim id c).addUnits windows c with reservations }

def accountScopes (specs : List QuotaSpec) : List String :=
  sortBy id (specs.map (·.bucket.pool.accountScope)).dedup

/-- The transaction of both reservation functions. -/
def reserveSpecs (env : Coordinator) (unitsOf : QuotaSpec → ℤ) (specs : List QuotaSpec)
    (id : String) (now : Micros) (l : Ledger) : Except Refusal Ledger := do
  let l ← ((accountScopes specs).foldlM (releaseExpiredConcurrencyLeases now) l).mapError .raised
  let p ← specs.foldlM (prepareSpec env unitsOf now) { ledger := l }
  let _ ← p.charged.foldlM (fun _ => checkCapacity p now) ()
  p.charged.foldlM (chargeSpec id now p.windows) p.ledger

/-! ## Settling -/

/-- The arguments of `settle_provider_quota`. -/
structure Settlement where
  observedDimensionUnits : String → Option ℤ := fun _ => none
  unknownDimensions : List String := []
  releaseIdentities : Bool := false

def Ledger.identityOf (l : Ledger) (r : Reservation) (digest : Digest) : Option QuotaIdentity :=
  rowWith QuotaIdentity.key (r.bucket, digest) l.identities

/-- The reservations of other calls for the same identity and bucket. -/
def Ledger.others (l : Ledger) (r : Reservation) (digest : Digest) : List Reservation :=
  l.reservations.filter fun o => decide (o.bucket = r.bucket ∧ o.identityDigest = some digest ∧
    o.reservationId ≠ r.reservationId)

def Ledger.updateIdentity (l : Ledger) (k : Bucket × Digest) (f : QuotaIdentity → QuotaIdentity) :
    Ledger :=
  { l with identities := updateRow QuotaIdentity.key k f l.identities }

def Ledger.deleteIdentity (l : Ledger) (k : Bucket × Digest) : Ledger :=
  { l with identities := l.identities.filter fun i => !decide (i.key = k) }

def Ledger.settleIdentity (l : Ledger) (s : Settlement) (r : Reservation) (digest : Digest) :
    Ledger :=
  match l.identityOf r digest with
  | none => l
  | some identity =>
    if identity.state ≠ .pending then l
    else if s.releaseIdentities ∧ identity.ownerReservationId = some r.reservationId then
      match (l.others r digest).find? fun o =>
          decide (o.state = .settled) || decide (o.state = .uncertain) with
      | some accepted =>
        l.updateIdentity (r.bucket, digest) fun i =>
          { i with
            state := if accepted.state = .uncertain then .uncertain else .consumed
            ownerReservationId := none }
      | none =>
        match (l.others r digest).find? fun o => decide (o.state = .pending) with
        | some pending =>
          l.updateIdentity (r.bucket, digest) fun i =>
            { i with ownerReservationId := some pending.reservationId }
        | none => l.deleteIdentity (r.bucket, digest)
    else if s.releaseIdentities then l
    else
      l.updateIdentity (r.bucket, digest) fun i =>
        { i with
          state := if r.bucket.pool.dimension ∈ s.unknownDimensions then .uncertain else .consumed
          ownerReservationId := none }

/-- The units that a settlement records for a row. -/
def Settlement.actual (s : Settlement) (r : Reservation) : ℤ :=
  (s.observedDimensionUnits r.bucket.pool.dimension).getD r.reservedUnits

def QuotaWindow.consume (reserved actual : ℤ) (w : QuotaWindow) : QuotaWindow :=
  { w.release reserved with consumedUnits := w.consumedUnits + actual }

/-- The row with the units that a settlement records. -/
def Reservation.record (actual : ℤ) (r : Reservation) : Reservation :=
  { r with reservedUnits := actual }

def Ledger.settleUnits (l : Ledger) (s : Settlement) (now : Micros) (r : Reservation) :
    Except QuotaError Ledger :=
  if r.bucket.pool.dimension ∈ s.unknownDimensions then
    .ok (l.updateReservation r.key (·.enter .uncertain now))
  else if r.releaseOnly then
    .ok ((l.updateWindow r.bucket (·.release r.reservedUnits)).updateReservation r.key
      (·.enter .settled now))
  else if s.actual r < 0 then
    .error (admissionError ("invalid observed usage for " ++ r.providerName ++ "/" ++
      r.bucket.pool.dimension))
  else
    .ok ((l.updateWindow r.bucket (·.consume r.reservedUnits (s.actual r))).updateReservation r.key
      fun x => (x.record (s.actual r)).enter
        (if s.releaseIdentities then .notSent else .settled) now)

/-- One row of `settle_provider_quota`. -/
def settleRow (s : Settlement) (now : Micros) (l : Ledger) (r : Reservation) :
    Except QuotaError Ledger :=
  match l.findWindow r.bucket with
  | none => .error (settlementFailed "NoResultFound")
  | some _ =>
    (l.settleUnits s now r).map fun l =>
      match r.identityDigest with
      | none => l
      | some digest => l.settleIdentity s r digest

def Ledger.pendingOf (l : Ledger) (id : String) : List Reservation :=
  l.reservations.filter fun r => decide (r.reservationId = id ∧ r.state = .pending)

/-- `settle_provider_quota`. -/
def settleProviderQuota (id : String) (s : Settlement) (now : Micros) (l : Ledger) :
    Except QuotaError Ledger :=
  (l.pendingOf id).foldlM (settleRow s now) l

/-! ## Baselines -/

/-- The arguments of `reconcile_provider_quota_baseline` beside the plan entry. -/
structure BaselineReport where
  usedUnits : ℤ
  observedAt : Micros
  evidenceReference : String
  source : String := "operator_dashboard_attestation"
  actorUserId : Option ℤ := none
  nativeSnapshotIncludesPriorLocalActivity : Bool := false

def storedUsedUnits (rs : List Reservation) (spec : QuotaSpec) (report : BaselineReport)
    (now : Micros) : Option Baseline → ℤ
  | none => report.usedUnits
  | some previous =>
    if report.observedAt = previous.observedAt then max report.usedUnits previous.usedUnits
    else if report.nativeSnapshotIncludesPriorLocalActivity || spec.rolling then report.usedUnits
    else max report.usedUnits
      (previous.usedUnits + settledUnitsSinceBaseline rs spec now previous)

def reconciledBaseline (env : Coordinator) (spec : QuotaSpec) (report : BaselineReport)
    (used : ℤ) : Baseline where
  pool := spec.bucket.pool
  unit := spec.unit
  reset := spec.reset
  windowStartedAt := spec.bucket.windowStartedAt
  windowSeconds := spec.bucket.windowSeconds
  rolling := spec.rolling
  limitUnits := spec.limitUnits
  usedUnits := used
  observedAt := report.observedAt
  source := report.source
  evidenceReference := report.evidenceReference
  sourceProviderName := spec.providerName
  actorUserId := report.actorUserId
  idempotencyKey := env.sha256 (String.intercalate "|" [spec.bucket.pool.accountScope,
    spec.bucket.pool.quotaGroup, spec.bucket.pool.dimension, toString spec.bucket.windowSeconds,
    spec.reset, env.isoformat ' ' spec.bucket.windowStartedAt, env.isoformat ' ' report.observedAt,
    toString report.usedUnits, report.evidenceReference, report.source])

/-- The transaction of `reconcile_provider_quota_baseline`. -/
def reconcileBaseline (env : Coordinator) (spec : QuotaSpec) (report : BaselineReport)
    (now : Micros) (l : Ledger) : Except QuotaError Ledger :=
  if ∃ r ∈ l.reservations, r.bucket.pool = spec.bucket.pool ∧ r.outstanding = true ∧
      spec.InWindow now r then
    .error (admissionError
      "cannot reconcile quota baseline while provider reservations are pending or uncertain")
  else
    let previous := activeBaseline l.baselines spec now
    if previous.any fun b => decide (report.observedAt < b.observedAt) then
      .error (admissionError
        "quota baseline observation is older than the currently reconciled snapshot")
    else
      let baselines := insertBaseline
        (reconciledBaseline env spec report (storedUsedUnits l.reservations spec report now previous))
        l.baselines
      match activeBaseline baselines spec now with
      | none => .error (coordinatorError "quota baseline write was not visible")
      | some _ => .ok { l with baselines }

end ChartingPlatform
