/-
  Provider quota contracts: their dimensions, reset labels, quota groups and
  window starts (`config.py`, `provider_runtime.py`, `provider_routing.py`).

  Times are microseconds since 1970 in UTC.  The rules of America/New_York are
  a parameter (`NewYork`): the tz database is not part of the repository.
-/
import ChartingPlatform.Lib.Gregorian
import ChartingPlatform.Lib.Outcome

namespace ChartingPlatform

open Lib

/-- A moment, in microseconds since 1970-01-01 UTC. -/
abbrev Micros := ℤ

/-- `timedelta(seconds=n)`. -/
def seconds (n : ℤ) : Micros := n * 1000000

/-! ## Errors -/

inductive QuotaErrorKind where
  | quotaUnknown
  | admission
  | coordinator
  | indexError
  deriving DecidableEq, Repr

structure QuotaError where
  kind : QuotaErrorKind
  message : String
  deriving DecidableEq, Repr

/-- `ProviderQuotaUnknownError`. -/
def quotaUnknown (message : String) : QuotaError := ⟨.quotaUnknown, message⟩

/-- `ProviderQuotaAdmissionError`. -/
def admissionError (message : String) : QuotaError := ⟨.admission, message⟩

/-- `ProviderQuotaCoordinatorError`. -/
def coordinatorError (message : String) : QuotaError := ⟨.coordinator, message⟩

/-- `if not condition: raise error`. -/
def require (condition : Prop) [Decidable condition] (error : QuotaError) :
    Except QuotaError Unit :=
  if condition then .ok () else .error error

@[simp] theorem require_eq_ok {condition : Prop} [Decidable condition] {error : QuotaError}
    {u : Unit} : require condition error = .ok u ↔ condition := by
  unfold require; split <;> simp [*]

/-! ## Reset labels -/

/-- `_KNOWN_PROVIDER_QUOTA_RESETS`. -/
def knownProviderQuotaResets : List String :=
  ["09:30 America/New_York", "15:00 America/New_York", "15:00 UTC-05:00", "calendar_day_est",
    "calendar_day_gmt", "calendar_day_utc", "calendar_month", "calendar_month_est",
    "calendar_month_utc", "fixed_second", "fixed_minute", "per_dimension", "provider_defined",
    "provider_defined_daily", "provider_defined_minute_and_rolling_second", "rolling",
    "rolling_30_days", "rolling_31_days", "rolling_or_provider_defined"]

/-- `_UNRESOLVED_PROVIDER_QUOTA_RESETS`. -/
def unresolvedProviderQuotaResets : List String :=
  ["per_dimension", "provider_defined", "provider_defined_daily",
    "provider_defined_minute_and_rolling_second", "rolling_or_provider_defined"]

/-- `provider_quota_reset_is_known`. -/
def providerQuotaResetIsKnown (value : String) : Bool :=
  decide (strip value ∈ knownProviderQuotaResets)

/-- `provider_quota_reset_is_admission_safe`. -/
def providerQuotaResetIsAdmissionSafe (value : String) : Bool :=
  providerQuotaResetIsKnown (strip value) && !decide (strip value ∈ unresolvedProviderQuotaResets)

/-- `provider_quota_admission_reset`. -/
def providerQuotaAdmissionReset (providerReset safetyReset : String) : String :=
  if providerQuotaResetIsAdmissionSafe (strip providerReset) then strip providerReset
  else if providerQuotaResetIsAdmissionSafe (strip safetyReset) then strip safetyReset
  else strip providerReset

/-! ## Dimensions and contracts -/

/-- One entry of `quota_contract["dimensions"]`; an absent text that the source
    reads with `or ""` is `""`. -/
structure QuotaDimension where
  name : String
  limit : ℤ
  windowSeconds : ℤ
  unit : String
  source : String := ""
  scope : String := ""
  reset : Option String := none
  safetyReset : Option String := none
  quotaGroup : Option String := none
  appliesToOperations : Option (List String) := none
  baselineMode : String := ""
  applicationUsageOnly : Bool := false
  safetyResolvesUnknownDimensions : List String := []
  deriving DecidableEq, Repr

/-- `quota_contract["account_usage_bootstrap"]` where it is enabled. -/
structure AccountUsageBootstrap where
  source : String := ""
  reconciledDimensions : List String := []
  allowedUnknownDimensions : List String := []
  deriving DecidableEq, Repr

/-- `quota_contract`. -/
structure QuotaContract where
  reset : String
  dimensions : List QuotaDimension
  baselineMode : String := ""
  unknownDimensions : List String := []
  untrackedConstraints : List String := []
  accountUsageBootstrap : Option AccountUsageBootstrap := none
  deriving DecidableEq, Repr

/-- The fields of `ProviderPolicy` that quota admission reads. -/
structure ProviderPolicy where
  quotaContract : QuotaContract
  quotaScope : String := ""
  quotaSource : String := ""
  deriving DecidableEq, Repr

/-- `s.lower()`. -/
def lower (s : String) : String := String.ofList (s.toList.map Char.toLower)

/-- `a or b` on texts. -/
def orText (a b : String) : String := if a = "" then b else a

/-- `_DISTINCT_IDENTITY_UNITS`. -/
def distinctIdentityUnits : List String := ["symbol", "symbols", "unique_symbol", "unique_symbols"]

/-- `_IN_FLIGHT_UNITS`. -/
def inFlightUnits : List String := ["concurrent_requests", "concurrency"]

/-- `str(dimension.get("unit") or "").strip().lower()`. -/
def QuotaDimension.unitLabel (d : QuotaDimension) : String := lower (strip d.unit)

def QuotaDimension.isDistinctIdentity (d : QuotaDimension) : Bool :=
  decide (d.unitLabel ∈ distinctIdentityUnits)

def QuotaDimension.isInFlight (d : QuotaDimension) : Bool := decide (d.unitLabel ∈ inFlightUnits)

theorem not_distinct_of_inFlight {label : String} (h : label ∈ inFlightUnits) :
    label ∉ distinctIdentityUnits := by
  simp only [inFlightUnits, List.mem_cons, List.not_mem_nil, or_false] at h
  rcases h with rfl | rfl <;> decide

variable {d : QuotaDimension}

theorem isInFlight_of_isDistinctIdentity (h : d.isDistinctIdentity = true) :
    d.isInFlight = false :=
  decide_eq_false fun hflight => not_distinct_of_inFlight hflight (of_decide_eq_true h)

/-- The checks `quota_dimensions` makes on one dimension. -/
def QuotaDimension.complete (policy : ProviderPolicy) (d : QuotaDimension) : Bool :=
  decide (0 < d.limit) && decide (0 < d.windowSeconds) && notBlank d.name && notBlank d.unit &&
    notBlank d.source && notBlank (orText d.scope policy.quotaScope) &&
    d.reset.all providerQuotaResetIsKnown && d.safetyReset.all providerQuotaResetIsKnown &&
    d.quotaGroup.all notBlank

/-- The dimension as `quota_dimensions` returns it. -/
def QuotaDimension.scoped (policy : ProviderPolicy) (d : QuotaDimension) : QuotaDimension :=
  { d with scope := orText (orText d.scope policy.quotaScope) "unknown" }

/-- `quota_dimensions`: every dimension of a complete contract, or none. -/
def quotaDimensions (policy : ProviderPolicy) : List QuotaDimension :=
  if providerQuotaResetIsKnown policy.quotaContract.reset &&
      policy.quotaContract.dimensions.all (·.complete policy) then
    policy.quotaContract.dimensions.map (·.scoped policy)
  else []

theorem pos_of_mem_quotaDimensions {policy : ProviderPolicy}
    (h : d ∈ quotaDimensions policy) : 0 < d.limit ∧ 0 < d.windowSeconds := by
  unfold quotaDimensions at h
  split_ifs at h with hc
  · obtain ⟨d₀, hd₀, rfl⟩ := List.mem_map.1 h
    have := List.all_eq_true.1 (Bool.and_eq_true_iff.1 hc).2 d₀ hd₀
    simp only [QuotaDimension.complete, Bool.and_eq_true, decide_eq_true_eq] at this
    exact ⟨this.1.1.1.1.1.1.1.1, this.1.1.1.1.1.1.1.2⟩
  · cases h

/-- `_operation_family`. -/
def operationFamily (operation : String) : String :=
  orText (strip (String.ofList (operation.toList.takeWhile (· ≠ ':')))) operation

/-- `_dimension_applies_to_operation`. -/
def dimensionAppliesToOperation (d : QuotaDimension) (operation : String) : Bool :=
  match d.appliesToOperations with
  | none => true
  | some operations =>
    decide (operation ∈ operations) || decide (operationFamily operation ∈ operations)

/-- `quota_group_for_dimension`. -/
def quotaGroupForDimension (capability : String) (d : QuotaDimension) : String :=
  if strip (d.quotaGroup.getD "") ≠ "" then strip (d.quotaGroup.getD "") else strip capability

/-! ## Account-usage bootstraps -/

def strippedNames (names : List String) : List String := (names.map strip).filter (· ≠ "")

/-- `account_usage_reconciled_dimensions`. -/
def accountUsageReconciledDimensions (policy : ProviderPolicy) (operation : String) :
    List String :=
  match policy.quotaContract.accountUsageBootstrap with
  | none => []
  | some bootstrap =>
    let names := bootstrap.reconciledDimensions.map strip
    let finite := strippedNames ((policy.quotaContract.dimensions.filter fun d =>
      dimensionAppliesToOperation d operation && !d.isInFlight).map (·.name))
    if "" ∉ names ∧ names.Nodup ∧ ∀ name ∈ names, name ∈ finite then names else []

/-- `dimension.get("reset", contract.get("reset"))` with the safety envelope. -/
def QuotaDimension.envelopeReset (contract : QuotaContract) (d : QuotaDimension) : String :=
  providerQuotaAdmissionReset (d.reset.getD contract.reset) (d.safetyReset.getD "")

/-- The dimension's own safety envelope replaces the provider's reset label. -/
def QuotaDimension.enveloped (contract : QuotaContract) (d : QuotaDimension) : Bool :=
  decide (d.envelopeReset contract ≠ strip (d.reset.getD contract.reset)) &&
    providerQuotaResetIsAdmissionSafe (d.envelopeReset contract)

def safetyResolvedUnknown (contract : QuotaContract) (unknown : List String) : List String :=
  unknown.filter fun item => contract.dimensions.any fun d =>
    d.enveloped contract &&
      (decide (item ∈ strippedNames d.safetyResolvesUnknownDimensions) ||
        (decide (strip d.name ≠ "") && ((strip d.name).toList ++ ['_']).isPrefixOf item.toList))

/-! ## Window starts -/

/-- The rules of America/New_York: the wall clock and its `fold` at a moment,
    and the moment a wall clock denotes. -/
structure NewYork where
  wall : Micros → ℤ × Bool
  utc : ℤ × Bool → Micros

def dayMicros : ℤ := 86400000000

def midnight (wall : ℤ) : ℤ := wall / dayMicros * dayMicros

/-- The wall clock at midnight of the first day of its month. -/
def monthStart (wall : ℤ) : ℤ :=
  let day := ord2ymd (wall / dayMicros + 719163).toNat
  ((ymd2ord { day with day := 1 } : ℕ) - 719163) * dayMicros

/-- The last time the wall clock showed `hour:minute`; going back a day drops
    the `fold`. -/
def lastAt (wall : ℤ × Bool) (hour minute : ℤ) : ℤ × Bool :=
  let reset := midnight wall.1 + seconds (hour * 3600 + minute * 60)
  if wall.1 < reset then (reset - dayMicros, false) else (reset, wall.2)

/-- `"needle" in haystack`. -/
def containsText (needle haystack : String) : Bool :=
  haystack.toList.tails.any fun rest => needle.toList.isPrefixOf rest

/-- The documented start of the window that holds `now`, if the label names one. -/
def documentedStart (zone : NewYork) (label : String) (windowSeconds : ℤ) (now : Micros) :
    Option Micros :=
  if label = "calendar_month_est" ∧ 2500000 ≤ windowSeconds then
    some (zone.utc (monthStart (zone.wall now).1, (zone.wall now).2))
  else if containsText "calendar_month" label ∧ 2500000 ≤ windowSeconds then
    some (monthStart now)
  else if label ∈ ["calendar_day_utc", "calendar_day_gmt"] ∧ 86400 ≤ windowSeconds then
    some (midnight now)
  else if label = "calendar_day_est" ∧ 86400 ≤ windowSeconds then
    some (zone.utc (midnight (zone.wall now).1, (zone.wall now).2))
  else if label = "09:30 America/New_York" ∧ 86400 ≤ windowSeconds then
    some (zone.utc (lastAt (zone.wall now) 9 30))
  else if label = "15:00 America/New_York" ∧ 86400 ≤ windowSeconds then
    some (zone.utc (lastAt (zone.wall now) 15 0))
  else if label = "15:00 UTC-05:00" ∧ 86400 ≤ windowSeconds then
    some ((lastAt (now - seconds 18000, false) 15 0).1 + seconds 18000)
  else none

/-- `dimension.get("reset") or reset`. -/
def QuotaDimension.resetLabel (reset : String) (d : QuotaDimension) : String :=
  orText (d.reset.getD "") reset

/-- The label under which the dimension's window is calculated. -/
def QuotaDimension.admissionReset (reset : String) (d : QuotaDimension) : String :=
  providerQuotaAdmissionReset (d.resetLabel reset) (d.safetyReset.getD "")

/-- `_window_start_for_dimension`: a documented start, or whether it rolls. -/
def windowStartForDimension (zone : NewYork) (d : QuotaDimension) (reset : String) (now : Micros) :
    Except QuotaError (Option Micros × Bool) :=
  if providerQuotaResetIsAdmissionSafe (d.admissionReset reset) then
    let start := documentedStart zone (d.admissionReset reset) d.windowSeconds now
    .ok (start, start.isNone && containsText "rolling" (d.admissionReset reset))
  else
    .error (quotaUnknown ("provider quota reset boundary is unresolved: " ++
      orText (d.resetLabel reset) "missing"))

/-- `datetime.fromtimestamp(int(now.timestamp()), tz=UTC)`. -/
def wholeSecond (now : Micros) : Micros := seconds (now.tdiv 1000000)

/-- The start of the fixed interval of a length that holds the second of `now`. -/
def intervalStart (now : Micros) (length : ℤ) : Micros :=
  seconds (now.tdiv 1000000 - now.tdiv 1000000 % length)

end ChartingPlatform
