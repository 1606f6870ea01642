/-
  Reservation plans (`provider_quota_coordinator.py`): the plan of the runtime
  (`dimensionSpecs`), the plan of a direct live probe
  (`reservationPlanForLiveProbe`), and the calls that reserve by them.
-/
import ChartingPlatform.Quota.Reservations

namespace ChartingPlatform

open Lib List

/-! ## Account scopes -/

def sharedScopeKinds : List String := ["ip", "ip_or_pair", "public_api", "public_credential"]

/-- Case folding of the regular expression that looks for credentials. -/
def foldCase (c : Char) : Char :=
  if c = 'ſ' then 's' else if c = 'K' then 'k' else if c = 'ı' ∨ c = 'İ' then 'i' else c.toLower

/-- A credential word at the start of the text, with `:` or `=` after it. -/
def startsWithCredential (cs : List Char) : Bool :=
  ["apikey", "api_key", "api-key", "secret", "token", "password"].any fun word =>
    word.toList.isPrefixOf cs &&
      (((cs.drop word.length).dropWhile isSpace).head?.any fun c => c = ':' || c = '=')

def validAccountScope (env : Coordinator) (scope : String) : Bool :=
  decide (scope ≠ "") && decide (scope.length ≤ 128) && env.isprintable scope &&
    !containsText "://" scope && !(scope.toList.map foldCase).tails.any startsWithCredential

def defaultAccountScope (provider kind : String) : String :=
  if kind ∈ sharedScopeKinds then
    if provider ∈ ["kraken", "kraken_xstocks"] ∧ kind = "ip" then "kraken:shared-ip"
    else if provider ∈ ["finra", "finra_otc_directory"] ∧ kind = "public_credential" then
      "finra:shared-public-credential"
    else if provider ∈ ["finra", "finra_otc_directory"] ∧ kind = "ip" then "finra:shared-ip"
    else provider ++ ":shared-" ++ kind
  else provider

/-- `account_scope_for_provider`. -/
def accountScopeForProvider (env : Coordinator) (provider quotaScope : String) :
    Except QuotaError String :=
  let kind := lower (strip quotaScope)
  let keyed := if kind = "" then "" else provider ++ ":" ++ kind
  let value :=
    if kind ∈ sharedScopeKinds then
      (env.accountScopes.lookup keyed).getD (defaultAccountScope provider kind)
    else
      (env.accountScopes.lookup keyed).getD
        ((env.accountScopes.lookup provider).getD (defaultAccountScope provider kind))
  if validAccountScope env (strip value) then .ok (strip value)
  else .error (coordinatorError
    ("provider quota account scope is missing or invalid for " ++ provider))

/-! ## The plan of the runtime -/

/-- `_window_start`. -/
def windowStart (env : Coordinator) (d : QuotaDimension) (reset : String) (now : Micros) :
    Except QuotaError (Micros × Bool) :=
  (windowStartForDimension env.zone d reset now).map fun
    | (some start, _) => (start, false)
    | (none, true) => (wholeSecond now, true)
    | (none, false) => (intervalStart now d.windowSeconds, false)

/-- The arguments of `reserve_provider_quota`. -/
structure QuotaRequest where
  providerName : String
  capability : String
  operation : String
  policy : ProviderPolicy
  dimensionUnits : String → Option ℤ
  usageIdentity : Option String := none

def identityDigest (env : Coordinator) (usageIdentity : Option String) : Digest :=
  env.sha256 (env.upper (strip (usageIdentity.getD "")))

/-- When a call that is in flight from `now` on must be over. -/
def leaseExpiry (env : Coordinator) (provider : String) (now : Micros) :
    Except QuotaError Micros :=
  let timeout := if provider = "ibkr" then env.ibkrReadOnlyTimeout else seconds 30
  if timeout ≤ 0 ∨ env.concurrencyLeaseGraceSeconds < 0 then
    .error (admissionError ("provider concurrency lease is invalid for " ++ provider))
  else .ok (now + (timeout + seconds env.concurrencyLeaseGraceSeconds))

def QuotaRequest.units (req : QuotaRequest) (d : QuotaDimension) : ℤ :=
  (req.dimensionUnits d.name).getD (-1)

/-- The entry of `_dimension_specs` for a charged dimension. -/
def QuotaRequest.spec (env : Coordinator) (req : QuotaRequest) (d : QuotaDimension)
    (window : Micros × Bool) (lease : Option Micros) (scope : String) : QuotaSpec where
  providerName := req.providerName
  operation := req.operation
  bucket :=
    { pool := ⟨scope, quotaGroupForDimension req.capability d, d.name⟩
      windowStartedAt := window.1
      windowSeconds := d.windowSeconds }
  unit := d.unitLabel
  reset := strip (d.resetLabel req.policy.quotaContract.reset)
  rolling := window.2
  limitUnits := d.limit
  baselineMode := strip (orText d.baselineMode req.policy.quotaContract.baselineMode)
  applicationUsageOnly := d.applicationUsageOnly
  units := if d.isInFlight then 1 else req.units d
  releaseOnly := d.isInFlight
  leaseExpiresAt := lease
  identityDigest :=
    if d.isDistinctIdentity then some (identityDigest env req.usageIdentity) else none

/-- `lease_expires_at` of a dimension. -/
def QuotaRequest.lease (env : Coordinator) (req : QuotaRequest) (now : Micros)
    (d : QuotaDimension) : Except QuotaError (Option Micros) :=
  if d.isInFlight then (leaseExpiry env req.providerName now).map some else .ok none

/-- One dimension of `_dimension_specs`. -/
def dimensionSpec (env : Coordinator) (req : QuotaRequest) (now : Micros) (d : QuotaDimension) :
    Except QuotaError (Option QuotaSpec) :=
  if dimensionAppliesToOperation d req.operation = false then .ok none
  else do
    require (0 ≤ req.units d) (admissionError ("provider operation cost is missing for " ++
      req.providerName ++ "/" ++ req.operation ++ "/" ++ d.name))
    if req.units d = 0 then .ok none
    else do
      require (d.isDistinctIdentity = true → req.usageIdentity.getD "" ≠ "")
        (admissionError ("provider operation identity is missing for " ++ req.providerName ++
          "/" ++ req.operation ++ "/" ++ d.name))
      let window ← windowStart env d req.policy.quotaContract.reset now
      let lease ← req.lease env now d
      let scope ← accountScopeForProvider env req.providerName
        (orText d.scope req.policy.quotaScope)
      return some (req.spec env d window lease scope)

/-- `_dimension_specs`. -/
def dimensionSpecs (env : Coordinator) (req : QuotaRequest) (now : Micros) :
    Except QuotaError (List QuotaSpec) := do
  require (quotaDimensions req.policy ≠ []) (admissionError
    ("provider quota contract is incomplete for " ++ req.providerName ++ "/" ++ req.operation))
  let entries ← collect ((quotaDimensions req.policy).map (dimensionSpec env req now))
  require (entries.reduceOption ≠ []) (admissionError
    ("provider operation has no reservable quota dimensions for " ++ req.providerName ++ "/" ++
      req.operation))
  return entries.reduceOption

/-- `reserve_provider_quota`. -/
def reserveProviderQuota (env : Coordinator) (req : QuotaRequest) (id : String) (now : Micros)
    (l : Ledger) : Except Refusal Ledger := do
  let specs ← (dimensionSpecs env req now).mapError .raised
  reserveSpecs env (·.units) specs id now l

/-! ## The plan of a live probe -/

/-- `provider_quota_baseline_status`. -/
inductive BaselineStatus where
  | notApplicable | initializable | unknown | verified
  deriving DecidableEq, Repr

/-- The plan entry under which the baseline of a dimension is looked up. -/
def baselineSpec (provider capability : String) (policy : ProviderPolicy) (d : QuotaDimension)
    (scope : String) (start : Micros) (rolling : Bool) : QuotaSpec where
  providerName := provider
  operation := ""
  bucket :=
    { pool := ⟨scope, quotaGroupForDimension capability d, d.name⟩
      windowStartedAt := start
      windowSeconds := d.windowSeconds }
  unit := d.unitLabel
  reset := strip (d.resetLabel policy.quotaContract.reset)
  rolling := rolling
  limitUnits := d.limit
  baselineMode := strip (orText d.baselineMode policy.quotaContract.baselineMode)
  applicationUsageOnly := d.applicationUsageOnly
  units := 0
  releaseOnly := false
  leaseExpiresAt := none
  identityDigest := none

/-- The status that `provider_quota_baseline_status` reports. -/
def providerQuotaBaselineStatus (env : Coordinator) (provider capability : String)
    (policy : ProviderPolicy) (name : String) (now : Micros) (l : Ledger) :
    Except QuotaError BaselineStatus :=
  match policy.quotaContract.dimensions.filter fun d => decide (d.name = name) with
  | [d] =>
    if d.isInFlight then .ok .notApplicable
    else do
      let (start, rolling) ← windowStart env d policy.quotaContract.reset now
      let scope ← accountScopeForProvider env provider (orText d.scope policy.quotaScope)
      let spec := baselineSpec provider capability policy d scope start rolling
      match activeBaseline l.baselines spec now with
      | some _ => return .verified
      | none =>
        if strip d.baselineMode = "local_zero" then
          if d.applicationUsageOnly then return .initializable
          else throw (admissionError "local-zero quota baseline is missing application-only scope")
        else if env.accountScopeIsExclusive scope ∧
            (priorBaseline l.baselines { spec with rolling := true } now).isSome then
          return .initializable
        else return .unknown
  | _ => .error (admissionError "quota baseline dimension is not uniquely reviewed")

/-- An unknown dimension that some dimension's own rolling envelope makes safe. -/
def safelyEnveloped (contract : QuotaContract) (unknown : String) : Bool :=
  contract.dimensions.any fun d =>
    (decide (unknown ∈ d.safetyResolvesUnknownDimensions.map strip) ||
      (decide (strip d.name ≠ "") && containsText "reset" (lower unknown) &&
        ((strip d.name).toList ++ ['_']).isPrefixOf unknown.toList)) &&
    decide (d.admissionReset contract.reset ≠ strip (d.resetLabel contract.reset)) &&
    providerQuotaResetIsAdmissionSafe (d.admissionReset contract.reset) &&
    decide (lower (d.admissionReset contract.reset) ∈
      ["rolling", "rolling_30_days", "rolling_31_days"])

def baselineSources : List String :=
  ["operator_dashboard_attestation", "operator_owner_attestation", "provider_account_observation"]

/-- The arguments of `reconcile_provider_quota_baseline`; the evidence reference
    is given as it is stored. -/
structure Reconciliation where
  providerName : String
  capability : String
  policy : ProviderPolicy
  dimensionName : String
  report : BaselineReport

/-- The plan entry of a reconciliation: exactly one reviewed dimension, in the
    window of the observation. -/
def reconciliationSpec (env : Coordinator) (rec : Reconciliation) (now : Micros) :
    Except QuotaError QuotaSpec :=
  let contract := rec.policy.quotaContract
  match contract.dimensions.filter fun d => decide (d.name = rec.dimensionName) with
  | [d] =>
    if (strippedNames contract.unknownDimensions).all (safelyEnveloped contract) = false then
      .error (admissionError "quota baseline dimension is not uniquely reviewed")
    else if d.isInFlight then
      .error (admissionError "concurrency leases do not require a usage baseline")
    else if d.unitLabel = "" then
      .error (admissionError "quota baseline dimension contract is incomplete")
    else do
      let observed ← windowStart env d contract.reset rec.report.observedAt
      let current ← windowStart env d contract.reset now
      require (observed.2 = current.2) (admissionError "quota baseline reset semantics changed")
      require (observed.2 = true → now - rec.report.observedAt ≤ seconds d.windowSeconds)
        (admissionError "rolling quota baseline is older than its active window")
      require (observed.2 = false → observed.1 = current.1)
        (admissionError "quota baseline is not for the current provider reset window")
      let scope ← accountScopeForProvider env rec.providerName
        (orText d.scope rec.policy.quotaScope)
      return baselineSpec rec.providerName rec.capability rec.policy d scope
        (if observed.2 then rec.report.observedAt else observed.1) observed.2
  | _ => .error (admissionError "quota baseline dimension is not uniquely reviewed")

/-- `reconcile_provider_quota_baseline`. -/
def reconcileProviderQuotaBaseline (env : Coordinator) (rec : Reconciliation) (now : Micros)
    (l : Ledger) : Except QuotaError Ledger := do
  require (rec.report.observedAt ≤ now) (admissionError "quota baseline cannot be from the future")
  require (0 ≤ rec.report.usedUnits)
    (admissionError "quota baseline used_units must be non-negative")
  require (rec.report.source ∈ baselineSources)
    (admissionError "quota baseline source is not supported")
  let spec ← reconciliationSpec env rec now
  reconcileBaseline env spec rec.report now l

inductive CostValue where
  | units (n : ℤ)
  | emptyMap
  | other
  deriving DecidableEq, Repr

/-- The costs of the provider profile, or of the contract where it has none. -/
structure CostTables where
  operationCosts : List (String × ℤ) := []
  dimensionCosts : List (String × List (String × CostValue)) := []
  dimensionCostsRequired : Bool := false

/-- The arguments of `_reservation_plan_for_live_probe`, with what it looks up
    for the provider: the policy seed and the cost tables. -/
structure LiveProbe where
  providerName : String
  operation : String
  policy : ProviderPolicy
  costs : CostTables
  usageIdentity : Option String := none
  operationCostOverride : Option ℤ := none
  dimensionCostOverrides : String → Option ℤ := fun _ => none

def rateUnits : List String :=
  ["request", "requests", "call", "calls", "credit", "credits", "token", "tokens", "weight",
    "request_weight"]

/-- `str(dimension.get("unit") or "").lower()`. -/
def QuotaDimension.rawUnitLabel (d : QuotaDimension) : String := lower d.unit

def LiveProbe.cost (probe : LiveProbe) : Option ℤ :=
  (probe.operationCostOverride.or
    ((probe.costs.operationCosts.lookup (operationFamily probe.operation)).or
      (probe.costs.operationCosts.lookup probe.operation))).filter fun cost => decide (0 < cost)

def LiveProbe.costMap (probe : LiveProbe) (d : QuotaDimension) :
    Option (List (String × CostValue)) :=
  match probe.dimensionCostOverrides d.name with
  | some override =>
    some (if override = 0 then [] else [(operationFamily probe.operation, .units override)])
  | none => probe.costs.dimensionCosts.lookup d.name

/-- The operation cost, for a unit that is charged by it. -/
def QuotaDimension.byRate (cost : ℤ) (d : QuotaDimension) : Option ℤ :=
  if d.rawUnitLabel ∈ rateUnits then some cost else none

def LiveProbe.amount (probe : LiveProbe) (bootstrapUnknown : List String) (cost : ℤ)
    (d : QuotaDimension) : Option ℤ :=
  if d.name ∈ bootstrapUnknown then some 0
  else
    match probe.costMap d with
    | some [] => some 0
    | some costs =>
      match (costs.lookup (operationFamily probe.operation)).or (costs.lookup probe.operation) with
      | none => if probe.costs.dimensionCostsRequired then none else d.byRate cost
      | some .emptyMap => some 0
      | some (.units n) => if 0 < n then some n else none
      | some .other => none
    | none =>
      if d.rawUnitLabel ∈ inFlightUnits then some 1
      else if d.rawUnitLabel ∈ ["byte", "bytes"] then none
      else if probe.costs.dimensionCostsRequired then d.byRate cost
      else some cost

def LiveProbe.spec (env : Coordinator) (probe : LiveProbe) (d : QuotaDimension) (amount : ℤ)
    (now : Micros) (window : Micros × Bool) (scope : String) : QuotaSpec where
  providerName := probe.providerName
  operation := probe.operation
  bucket :=
    { pool := ⟨scope, strip (d.quotaGroup.getD ""), d.name⟩
      windowStartedAt := window.1
      windowSeconds := d.windowSeconds }
  unit := d.rawUnitLabel
  reset := strip (d.resetLabel probe.policy.quotaContract.reset)
  rolling := window.2
  limitUnits := d.limit
  baselineMode := strip (orText d.baselineMode probe.policy.quotaContract.baselineMode)
  applicationUsageOnly := d.applicationUsageOnly
  units := if d.rawUnitLabel ∈ inFlightUnits then 1 else amount
  releaseOnly := decide (d.rawUnitLabel ∈ inFlightUnits)
  leaseExpiresAt := if d.rawUnitLabel ∈ inFlightUnits then some (now + seconds 40) else none
  identityDigest :=
    if d.rawUnitLabel ∈ distinctIdentityUnits then some (identityDigest env probe.usageIdentity)
    else none

def probeSpec (env : Coordinator) (probe : LiveProbe) (bootstrapUnknown : List String) (cost : ℤ)
    (now : Micros) (d : QuotaDimension) : Except QuotaError (Option QuotaSpec) :=
  if dimensionAppliesToOperation d probe.operation = false then .ok none
  else
    match probe.amount bootstrapUnknown cost d with
    | none =>
      .error (admissionError ("provider dimension cost is unreviewed for live operation " ++
        probe.providerName ++ "/" ++ probe.operation ++ "/" ++ d.name))
    | some amount =>
      if amount = 0 then .ok none
      else do
        require (strip (d.quotaGroup.getD "") ≠ "")
          (admissionError ("provider quota group is not reviewed for live operation " ++
            probe.providerName ++ "/" ++ probe.operation ++ "/" ++ d.name))
        require (d.rawUnitLabel ∈ distinctIdentityUnits → probe.usageIdentity.getD "" ≠ "")
          (admissionError ("provider identity cost is unreviewed for live operation " ++
            probe.providerName ++ "/" ++ probe.operation))
        let window ← windowStart env d probe.policy.quotaContract.reset now
        let scope ← accountScopeForProvider env probe.providerName d.scope
        return some (probe.spec env d amount now window scope)

/-- The dimensions that an account-usage bootstrap charges nothing. -/
def bootstrapUnknown (env : Coordinator) (probe : LiveProbe) (now : Micros) (l : Ledger) :
    Except QuotaError (List String) := do
  let contract := probe.policy.quotaContract
  let reconciled := accountUsageReconciledDimensions probe.policy probe.operation
  let names ← collect (contract.dimensions.map fun d =>
    if d.isInFlight ∨ dimensionAppliesToOperation d probe.operation = false then .ok none
    else if providerQuotaResetIsAdmissionSafe (d.envelopeReset contract) = false then
      if d.name ∈ reconciled then .ok (some d.name)
      else .error (admissionError ("provider dimension reset semantics are " ++
        (if providerQuotaResetIsKnown (d.envelopeReset contract) then "unresolved" else "unknown") ++
        " for live operation " ++ probe.providerName ++ "/" ++ probe.operation ++ "/" ++ d.name))
    else
      match providerQuotaBaselineStatus env probe.providerName "account_usage" probe.policy d.name
          now l with
      | .error e => .error e
      | .ok .initializable => .ok none
      | .ok .verified => .ok none
      | .ok _ =>
        if d.name ∈ reconciled then .ok (some d.name)
        else .error (admissionError
          ("provider account-usage probe cannot safely charge unreported quota dimension " ++
            probe.providerName ++ "/" ++ d.name)))
  return names.reduceOption

/-- What `_reservation_plan_for_live_probe` refuses before it looks at costs. -/
def checkProbe (probe : LiveProbe) : Except QuotaError Unit :=
  let contract := probe.policy.quotaContract
  let label := probe.providerName ++ "/" ++ probe.operation
  let unknown := (strippedNames contract.unknownDimensions).filter fun item =>
    !decide (item ∈ safetyResolvedUnknown contract (strippedNames contract.unknownDimensions))
  let bootstraps := decide (probe.operation = "fetch_account_usage") &&
    contract.accountUsageBootstrap.isSome
  let allowed := strippedNames ((contract.accountUsageBootstrap.map
    (·.allowedUnknownDimensions)).getD [])
  if probe.providerName = "dinari" ∧
      containsText "local canary policy" probe.policy.quotaSource ∧
      probe.operation ≠ "discover_tokenized_assets" then
    .error (admissionError "local Dinari Sandbox canary permits only discover_tokenized_assets")
  else if providerQuotaResetIsKnown contract.reset = false then
    .error (admissionError
      ("provider quota reset semantics are unreviewed for live operation " ++ label))
  else if bootstraps ∧ accountUsageReconciledDimensions probe.policy probe.operation = [] then
    .error (admissionError
      ("provider account-usage bootstrap mapping is missing or invalid for " ++ probe.providerName))
  else if (unknown ≠ [] ∧ ¬ (bootstraps ∧ ∀ item ∈ unknown, item ∈ allowed)) ∨
      contract.untrackedConstraints ≠ [] then
    .error (admissionError
      ("provider quota contract remains incomplete for live operation " ++ label))
  else .ok ()

/-- The names that the account-usage bootstrap section finds, if it is entered. -/
def LiveProbe.unchargedNames (env : Coordinator) (probe : LiveProbe) (now : Micros) (l : Ledger) :
    Except QuotaError (List String) :=
  if probe.operation = "fetch_account_usage" ∧
      probe.policy.quotaContract.accountUsageBootstrap.isSome then
    bootstrapUnknown env probe now l
  else .ok []

/-- `_reservation_plan_for_live_probe`. -/
def reservationPlanForLiveProbe (env : Coordinator) (probe : LiveProbe) (now : Micros)
    (l : Ledger) : Except QuotaError (List QuotaSpec) := do
  checkProbe probe
  let unknown ← probe.unchargedNames env now l
  match probe.cost with
  | none =>
    .error (admissionError ("provider operation cost is unreviewed for live operation " ++
      probe.providerName ++ "/" ++ probe.operation))
  | some cost => do
    require (probe.policy.quotaContract.dimensions ≠ []) (admissionError
      ("provider quota dimensions are unknown for live operation " ++ probe.providerName ++ "/" ++
        probe.operation))
    let entries ← collect (probe.policy.quotaContract.dimensions.map
      (probeSpec env probe unknown cost now))
    return entries.reduceOption

/-- `dimension_units.get(str(spec["dimension"]), 0)` of the plan's own units. -/
def plannedUnits (specs : List QuotaSpec) (spec : QuotaSpec) : ℤ :=
  ((specs.reverse.find? fun s => decide (s.bucket.pool.dimension = spec.bucket.pool.dimension)).map
    (·.units)).getD 0

def Refusal.withoutRetry : Refusal → Refusal
  | .denied l _ => .denied l none
  | .raised e => .raised e

/-- `reserve_live_provider_operation`. -/
def reserveLiveProviderOperation (env : Coordinator) (probe : LiveProbe) (id : String)
    (now : Micros) (l : Ledger) : Except Refusal Ledger := do
  let specs ← (reservationPlanForLiveProbe env probe now l).mapError .raised
  if specs = [] then .error (.raised ⟨.indexError, "list index out of range"⟩)
  else (reserveSpecs env (plannedUnits specs) specs id now l).mapError .withoutRetry

/-! ## What a plan charges -/

/-- Every entry is charged; an entry for calls in flight takes one slot until
    its lease is over, for no identity. -/
structure QuotaSpec.Chargeable (spec : QuotaSpec) : Prop where
  pos : 0 < spec.units
  slot : spec.releaseOnly = true → spec.units = 1 ∧ spec.identityDigest = none ∧
    ∃ t, spec.leaseExpiresAt = some t

section
variable {env : Coordinator} {req : QuotaRequest} {probe : LiveProbe} {now : Micros} {l : Ledger}
  {specs : List QuotaSpec} {spec : QuotaSpec} {d : QuotaDimension} {unknown : List String}
  {cost : ℤ}

theorem mem_reduceOption_of_collect {xs : List (Except QuotaError (Option QuotaSpec))}
    {entries : List (Option QuotaSpec)} (h : collect xs = .ok entries)
    (hspec : spec ∈ entries.reduceOption) : .ok (some spec) ∈ xs := by
  rw [collect_eq_ok.1 h]
  exact mem_map_of_mem (reduceOption_mem_iff.1 hspec)

theorem mem_dimensionSpecs (h : dimensionSpecs env req now = .ok specs) (hspec : spec ∈ specs) :
    ∃ d ∈ quotaDimensions req.policy, dimensionSpec env req now d = .ok (some spec) := by
  unfold dimensionSpecs at h
  obtain ⟨_, -, h⟩ := bind_eq_ok.1 h
  obtain ⟨entries, hentries, h⟩ := bind_eq_ok.1 h
  obtain ⟨_, -, h⟩ := bind_eq_ok.1 h
  obtain rfl := Except.ok.inj h
  exact mem_map.1 (mem_reduceOption_of_collect hentries hspec)

theorem mem_reservationPlan (h : reservationPlanForLiveProbe env probe now l = .ok specs)
    (hspec : spec ∈ specs) : ∃ unknown cost, probe.cost = some cost ∧
      ∃ d ∈ probe.policy.quotaContract.dimensions,
        probeSpec env probe unknown cost now d = .ok (some spec) := by
  unfold reservationPlanForLiveProbe at h
  obtain ⟨_, -, h⟩ := bind_eq_ok.1 h
  obtain ⟨unknown, -, h⟩ := bind_eq_ok.1 h
  cases hcost : probe.cost with
  | none =>
    rw [hcost] at h
    cases h
  | some cost =>
    rw [hcost] at h
    obtain ⟨_, -, h⟩ := bind_eq_ok.1 h
    obtain ⟨entries, hentries, h⟩ := bind_eq_ok.1 h
    obtain rfl := Except.ok.inj h
    exact ⟨unknown, cost, rfl, mem_map.1 (mem_reduceOption_of_collect hentries hspec)⟩

theorem dimensionSpec_eq_some (h : dimensionSpec env req now d = .ok (some spec)) :
    dimensionAppliesToOperation d req.operation = true ∧ 0 < req.units d ∧
      ∃ window lease scope, windowStart env d req.policy.quotaContract.reset now = .ok window ∧
        req.lease env now d = .ok lease ∧
        accountScopeForProvider env req.providerName (orText d.scope req.policy.quotaScope) =
          .ok scope ∧
        spec = req.spec env d window lease scope := by
  unfold dimensionSpec at h
  by_cases happlies : dimensionAppliesToOperation d req.operation = false
  · rw [if_pos happlies] at h
    cases h
  rw [if_neg happlies] at h
  obtain ⟨_, hunits, h⟩ := bind_eq_ok.1 h
  by_cases hzero : req.units d = 0
  · rw [if_pos hzero] at h
    cases h
  rw [if_neg hzero] at h
  obtain ⟨_, -, h⟩ := bind_eq_ok.1 h
  obtain ⟨window, hwindow, h⟩ := bind_eq_ok.1 h
  obtain ⟨lease, hlease, h⟩ := bind_eq_ok.1 h
  obtain ⟨scope, hscope, h⟩ := bind_eq_ok.1 h
  refine ⟨by simpa using happlies, lt_of_le_of_ne (require_eq_ok.1 hunits) (Ne.symm hzero),
    window, lease, scope, hwindow, hlease, hscope, ?_⟩
  exact (Option.some.inj (Except.ok.inj h)).symm

theorem probeSpec_eq_some (h : probeSpec env probe unknown cost now d = .ok (some spec)) :
    dimensionAppliesToOperation d probe.operation = true ∧ strip (d.quotaGroup.getD "") ≠ "" ∧
      ∃ amount window scope, probe.amount unknown cost d = some amount ∧ amount ≠ 0 ∧
        windowStart env d probe.policy.quotaContract.reset now = .ok window ∧
        accountScopeForProvider env probe.providerName d.scope = .ok scope ∧
        spec = probe.spec env d amount now window scope := by
  unfold probeSpec at h
  by_cases happlies : dimensionAppliesToOperation d probe.operation = false
  · rw [if_pos happlies] at h
    cases h
  rw [if_neg happlies] at h
  cases hamount : probe.amount unknown cost d with
  | none =>
    rw [hamount] at h
    cases h
  | some amount =>
    simp only [hamount] at h
    by_cases hzero : amount = 0
    · rw [if_pos hzero] at h
      cases h
    rw [if_neg hzero] at h
    obtain ⟨_, hgroup, h⟩ := bind_eq_ok.1 h
    obtain ⟨_, -, h⟩ := bind_eq_ok.1 h
    obtain ⟨window, hwindow, h⟩ := bind_eq_ok.1 h
    obtain ⟨scope, hscope, h⟩ := bind_eq_ok.1 h
    refine ⟨by simpa using happlies, require_eq_ok.1 hgroup, amount, window, scope, rfl, hzero,
      hwindow, hscope, ?_⟩
    exact (Option.some.inj (Except.ok.inj h)).symm

theorem dimensionSpec_isSome {e : Option QuotaSpec} (h : dimensionSpec env req now d = .ok e) :
    e.isSome = (dimensionAppliesToOperation d req.operation && !decide (req.units d = 0)) := by
  cases e with
  | some spec =>
    obtain ⟨happlies, hunits, -⟩ := dimensionSpec_eq_some h
    simp [happlies, hunits.ne']
  | none =>
    unfold dimensionSpec at h
    cases happlies : dimensionAppliesToOperation d req.operation with
    | false => rfl
    | true =>
      rw [happlies, if_neg (by decide)] at h
      obtain ⟨_, -, h⟩ := bind_eq_ok.1 h
      by_cases hzero : req.units d = 0
      · simp [hzero]
      · rw [if_neg hzero] at h
        obtain ⟨_, -, h⟩ := bind_eq_ok.1 h
        obtain ⟨_, -, h⟩ := bind_eq_ok.1 h
        obtain ⟨_, -, h⟩ := bind_eq_ok.1 h
        obtain ⟨_, -, h⟩ := bind_eq_ok.1 h
        cases h

theorem probeSpec_isSome {e : Option QuotaSpec}
    (h : probeSpec env probe unknown cost now d = .ok e) :
    e.isSome = (dimensionAppliesToOperation d probe.operation &&
      !decide (probe.amount unknown cost d = some 0)) := by
  cases e with
  | some spec =>
    obtain ⟨happlies, -, amount, _, _, hamount, hzero, -⟩ := probeSpec_eq_some h
    simp [happlies, hamount, hzero]
  | none =>
    unfold probeSpec at h
    cases happlies : dimensionAppliesToOperation d probe.operation with
    | false => rfl
    | true =>
      rw [happlies, if_neg (by decide)] at h
      cases hamount : probe.amount unknown cost d with
      | none =>
        rw [hamount] at h
        cases h
      | some amount =>
        simp only [hamount] at h
        by_cases hzero : amount = 0
        · simp [hzero]
        · rw [if_neg hzero] at h
          obtain ⟨_, -, h⟩ := bind_eq_ok.1 h
          obtain ⟨_, -, h⟩ := bind_eq_ok.1 h
          obtain ⟨_, -, h⟩ := bind_eq_ok.1 h
          obtain ⟨_, -, h⟩ := bind_eq_ok.1 h
          cases h

theorem chargeable_of_dimensionSpec (h : dimensionSpec env req now d = .ok (some spec)) :
    spec.Chargeable := by
  obtain ⟨-, hunits, window, lease, scope, -, hlease, -, rfl⟩ := dimensionSpec_eq_some h
  unfold QuotaRequest.spec
  constructor
  · dsimp only
    split_ifs
    · exact Int.one_pos
    · exact hunits
  · dsimp only
    intro hflight
    rw [QuotaRequest.lease, if_pos hflight] at hlease
    obtain ⟨t, -, rfl⟩ := map_eq_ok.1 hlease
    refine ⟨if_pos hflight, if_neg fun hdistinct => ?_, t, rfl⟩
    rw [isInFlight_of_isDistinctIdentity hdistinct] at hflight
    cases hflight

theorem chargeable_of_mem_dimensionSpecs (h : dimensionSpecs env req now = .ok specs)
    (hspec : spec ∈ specs) : spec.Chargeable := by
  obtain ⟨d, -, hd⟩ := mem_dimensionSpecs h hspec
  exact chargeable_of_dimensionSpec hd

theorem LiveProbe.cost_pos (h : probe.cost = some cost) : 0 < cost := by
  unfold LiveProbe.cost at h
  exact of_decide_eq_true (Option.filter_eq_some_iff.1 h).2

theorem byRate_nonneg {amount : ℤ} (hcost : 0 < cost) (h : d.byRate cost = some amount) :
    0 ≤ amount := by
  unfold QuotaDimension.byRate at h
  split_ifs at h
  exact Option.some.inj h ▸ hcost.le

theorem LiveProbe.amount_nonneg {amount : ℤ} (hcost : 0 < cost)
    (h : probe.amount unknown cost d = some amount) : 0 ≤ amount := by
  unfold LiveProbe.amount at h
  split at h
  · exact (Option.some.inj h).le
  · split at h
    · exact (Option.some.inj h).le
    · split at h
      · split_ifs at h
        exact byRate_nonneg hcost h
      · exact (Option.some.inj h).le
      · split_ifs at h with hn
        exact Option.some.inj h ▸ hn.le
      · cases h
    · split_ifs at h
      · exact Option.some.inj h ▸ Int.one_pos.le
      · exact byRate_nonneg hcost h
      · exact Option.some.inj h ▸ hcost.le

theorem chargeable_of_probeSpec (hcost : 0 < cost)
    (h : probeSpec env probe unknown cost now d = .ok (some spec)) : spec.Chargeable := by
  obtain ⟨-, -, amount, window, scope, hamount, hzero, -, -, rfl⟩ := probeSpec_eq_some h
  have hpos : 0 < amount := lt_of_le_of_ne (LiveProbe.amount_nonneg hcost hamount) (Ne.symm hzero)
  unfold LiveProbe.spec
  constructor
  · dsimp only
    split_ifs
    · exact Int.one_pos
    · exact hpos
  · dsimp only
    intro hflight
    have hmem := of_decide_eq_true hflight
    rw [if_pos hmem, if_pos hmem]
    exact ⟨rfl, if_neg (not_distinct_of_inFlight hmem), now + seconds 40, rfl⟩

theorem chargeable_of_mem_reservationPlan (h : reservationPlanForLiveProbe env probe now l = .ok specs)
    (hspec : spec ∈ specs) : spec.Chargeable := by
  obtain ⟨unknown, cost, hcost, d, -, hd⟩ := mem_reservationPlan h hspec
  exact chargeable_of_probeSpec (LiveProbe.cost_pos hcost) hd

theorem exists_plannedUnits (hspec : spec ∈ specs) : ∃ s ∈ specs,
    s.bucket.pool.dimension = spec.bucket.pool.dimension ∧ plannedUnits specs spec = s.units := by
  unfold plannedUnits
  cases hfind : specs.reverse.find? fun s =>
      decide (s.bucket.pool.dimension = spec.bucket.pool.dimension) with
  | none =>
    have := find?_eq_none.1 hfind spec (mem_reverse.2 hspec)
    simp at this
  | some s =>
    exact ⟨s, mem_reverse.1 (mem_of_find?_eq_some hfind),
      by simpa using find?_some hfind, rfl⟩

/-- **A live probe charges what its plan says**, where the dimensions differ. -/
theorem plannedUnits_eq (hn : (specs.map (·.bucket.pool.dimension)).Nodup) (hspec : spec ∈ specs) :
    plannedUnits specs spec = spec.units := by
  obtain ⟨s, hs, hdim, hunits⟩ := exists_plannedUnits hspec
  rw [hunits, inj_on_of_nodup_map hn hs hspec hdim]

end

end ChartingPlatform
