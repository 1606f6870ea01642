/-
  The quota calls of the provider runtime (`provider_runtime.py`): it reserves the reviewed
  cost of an operation and settles the reservation with the same cost.
-/
import ChartingPlatform.Quota.Identities

namespace ChartingPlatform

open Lib List

/-! ## Settlements of the runtime -/

/-- What transport instrumentation reports; a count that is no non-negative
    integer is `none`. -/
structure Measurement where
  httpRequests : Option ℕ
  responseBytes : Option ℕ

/-- One call of `execute_provider_call`: what it reserves and settles with. -/
structure ProviderCall where
  providerName : String
  capability : String
  operation : String
  policy : ProviderPolicy
  dimensionUnits : List (String × ℤ)
  usageIdentity : Option String := none

def ProviderCall.request (call : ProviderCall) : QuotaRequest where
  providerName := call.providerName
  capability := call.capability
  operation := call.operation
  policy := call.policy
  dimensionUnits := fun name => call.dimensionUnits.lookup name
  usageIdentity := call.usageIdentity

/-- How a call ended: it was aborted before transport, or it was sent and failed
    with a status, or not. -/
inductive CallOutcome where
  | notSent
  | sent (measurement : Measurement) (errorStatus : Option ℤ)

def ProviderPolicy.unitOf (policy : ProviderPolicy) (name : String) : String :=
  (((quotaDimensions policy).reverse.find? fun d => decide (d.name = name)).map
    (·.rawUnitLabel)).getD ""

/-- The units of a dimension by the transport's evidence. -/
def ProviderCall.measuredUnits (call : ProviderCall) (responseBytes : ℕ) (name : String) :
    Option ℤ :=
  match call.dimensionUnits.lookup name with
  | none => none
  | some reserved =>
    if call.policy.unitOf name ∈ inFlightUnits then none
    else if call.policy.unitOf name ∈ ["byte", "bytes"] then some responseBytes
    else some reserved

/-- `_apply_marketstack_api_error_usage` applies. -/
def ProviderCall.marketstackApiError (call : ProviderCall) (errorStatus : Option ℤ) : Bool :=
  decide (call.providerName = "marketstack") &&
    errorStatus.any fun status => decide (400 ≤ status ∧ status ≤ 599)

def ProviderCall.eodhdDenial (call : ProviderCall) (errorStatus : Option ℤ) : Bool :=
  decide (call.providerName = "eodhd") && decide (call.operation = "get_instrument_profile") &&
    decide (errorStatus = some 403)

/-- The observed units of `_coordinator_settlement`. -/
def ProviderCall.observedUnits (call : ProviderCall) (responseBytes : ℕ)
    (errorStatus : Option ℤ) (name : String) : Option ℤ :=
  if call.eodhdDenial errorStatus ∧ name = "calls_per_day" then some 0
  else if call.marketstackApiError errorStatus ∧ name = "requests_per_month" then
    (call.measuredUnits responseBytes name).map fun _ => 0
  else call.measuredUnits responseBytes name

/-- `_coordinator_settlement`. -/
def ProviderCall.coordinatorSettlement (call : ProviderCall) (m : Measurement)
    (errorStatus : Option ℤ) : Settlement :=
  match m.httpRequests, m.responseBytes with
  | some (_ + 1), some bytes =>
    { observedDimensionUnits := call.observedUnits bytes errorStatus }
  | _, _ => { unknownDimensions := call.dimensionUnits.map Prod.fst }

/-- The settlement of `_settle_coordinator_best_effort`. -/
def ProviderCall.settlement (call : ProviderCall) : CallOutcome → Settlement
  | .notSent =>
    { observedDimensionUnits := fun name => (call.dimensionUnits.lookup name).map fun _ => 0
      releaseIdentities := true }
  | .sent m errorStatus => call.coordinatorSettlement m errorStatus

inductive RuntimeCall where
  | reserve (call : ProviderCall) (id : String) (now : Micros)
  | settle (call : ProviderCall) (id : String) (outcome : CallOutcome) (now : Micros)

def RuntimeCall.quotaCall : RuntimeCall → QuotaCall
  | .reserve call id now => .reserve call.request id now
  | .settle call id outcome now => .settle id (call.settlement outcome) now

def RuntimeCall.CountsIdentities (env : Coordinator) (k : Pool) : RuntimeCall → Prop
  | .reserve call _ now => ∀ specs, dimensionSpecs env call.request now = .ok specs →
    ∀ spec ∈ specs, spec.bucket.pool = k → ∃ d, spec.identityDigest = some d
  | .settle _ _ _ _ => True

/-- The call keeps the units of the pool with its identities: a symbol that is admitted costs one
    unit, and the settlement keeps the unit of each row. -/
def RuntimeCall.KeepsUnits (env : Coordinator) (k : Pool) (l : Ledger) : RuntimeCall → Prop
  | .reserve call id now => QuotaCall.Admits env l (.reserve call.request id now) →
    ∀ specs, dimensionSpecs env call.request now = .ok specs →
    ∀ spec ∈ specs, spec.bucket.pool = k → spec.units = 1
  | .settle call id outcome _ => ∀ r ∈ l.pendingOf id, r.bucket.pool = k →
    (call.settlement outcome).KeepsUnit l r

def IdentityStep (env : Coordinator) (k : Pool) (l : Ledger) (call : RuntimeCall) (l' : Ledger) :
    Prop :=
  QuotaStep env l call.quotaCall l' ∧ call.CountsIdentities env k ∧ call.KeepsUnits env k l

section
variable {env : Coordinator} {k : Pool} {l l' : Ledger} {r : Reservation} {now : Micros}
  {spec : QuotaSpec} {specs : List QuotaSpec} {call : RuntimeCall} {b : Bucket} {i : QuotaIdentity}

/-! ## Counting -/

def countedRows (rs : List Reservation) (b : Bucket) : List Reservation :=
  rs.filter fun r => decide (r.bucket = b ∧ r.counted = true)

theorem mem_countedRows {rs : List Reservation} :
    r ∈ countedRows rs b ↔ r ∈ rs ∧ r.bucket = b ∧ r.counted = true := by
  rw [countedRows, mem_filter, decide_eq_true_eq]

/-- The units counted for one identity: those of the rows of its bucket that claim it. -/
def claimedUnits (rs : List Reservation) (claim : Bucket × Option Digest) : ℤ :=
  ((countedRows rs claim.1).map fun r => if r.claims = claim then r.reservedUnits else 0).sum

/-- **Identities of a bucket are counted once**: the counted units are as many as the identities,
    each identity has one of them, and a symbol of a row that counts (because it was sent, may have
    been sent, or is pending) is among them, with one unit. -/
structure CountedOnce (l : Ledger) (b : Bucket) : Prop where
  units : countedUnits l.reservations b = identitiesIn l.identities b
  each : ∀ i ∈ l.identities, i.bucket = b → claimedUnits l.reservations i.claims = 1
  requested : ∀ r ∈ l.reservations, r.bucket = b → r.counted = true →
    (∃ i ∈ l.identities, i.claims = r.claims) ∧ claimedUnits l.reservations r.claims = 1

theorem countedUnits_eq (rs : List Reservation) (b : Bucket) :
    countedUnits rs b = ((countedRows rs b).map (·.reservedUnits)).sum := by
  unfold countedUnits countedRows
  induction rs with
  | nil => rfl
  | cons r rs ih =>
    rw [map_cons, sum_cons, ih]
    by_cases hr : r.bucket = b ∧ r.counted = true
    · rw [if_pos hr, filter_cons_of_pos (by simpa using hr), map_cons, sum_cons]
    · rw [if_neg hr, filter_cons_of_neg (by simpa using hr), zero_add]

theorem units_of_identity (h : Carried k l) (hi : i ∈ l.identities) (hb : i.bucket = b)
    (hk : b.pool = k) : claimedUnits l.reservations i.claims = 1 := by
  subst hb
  change ((countedRows l.reservations i.bucket).map _).sum = 1
  obtain ⟨c, hc, hcc, hccounted, hcunits, hothers, -⟩ := h.carried i hi hk
  have hcb : c.bucket = i.bucket := (Prod.mk.inj hcc).1
  have hmem : c ∈ countedRows l.reservations i.bucket := mem_countedRows.2 ⟨hc, hcb, hccounted⟩
  have hn : ((countedRows l.reservations i.bucket).map Reservation.key).Nodup :=
    h.unique_reservations.sublist (filter_sublist.map _)
  have hterm : ∀ r ∈ countedRows l.reservations i.bucket,
      (if r.claims = i.claims then r.reservedUnits else 0) = if c.key = r.key then 1 else 0 := by
    intro r hr
    obtain ⟨hr', -, hcounted⟩ := mem_countedRows.1 hr
    by_cases hrc : r = c
    · rw [hrc, if_pos hcc, if_pos rfl, hcunits]
    · rw [if_neg fun hkey => hrc (inj_on_of_nodup_map hn hmem hr hkey).symm]
      split_ifs with hclaims
      · exact hothers r hr' hclaims hcounted hrc
      · rfl
  rw [map_congr_left hterm]
  simpa using Lib.sum_map_ite hn (mem_map_of_mem hmem) (fun _ => True) 1

/-- **The counted units of a bucket are its identities.** -/
theorem identity_units (h : Carried k l) (hk : b.pool = k) :
    countedUnits l.reservations b = identitiesIn l.identities b := by
  have hn : (l.identities.map QuotaIdentity.claims).Nodup := by
    rw [nodup_map_iff_inj_on (List.Nodup.of_map _ h.unique_identities)]
    exact fun i hi j hj hij => (eq_of_claims h.unique_identities hi hj hij.symm).symm
  have hrefs : ∀ r ∈ countedRows l.reservations b,
      r.claims ∈ l.identities.map QuotaIdentity.claims := by
    intro r hr
    obtain ⟨hr', rfl, hcounted⟩ := mem_countedRows.1 hr
    obtain ⟨i, hi, hir⟩ := h.identified r hr' hk hcounted
    exact mem_map.2 ⟨i, hi, hir⟩
  have hsum := sum_map_sum_ite (g := (·.reservedUnits)) hn hrefs fun c => c.1 = b
  have hleft : ∀ i ∈ l.identities.filter fun i => decide (i.claims.1 = b),
      ((countedRows l.reservations b).map fun r =>
        if r.claims = i.claims then r.reservedUnits else 0).sum = 1 := by
    intro i hi
    rw [mem_filter, decide_eq_true_eq] at hi
    obtain ⟨hi, rfl⟩ := hi
    exact units_of_identity h hi rfl hk
  have hright : ∀ r ∈ countedRows l.reservations b,
      (if r.claims.1 = b then r.reservedUnits else 0) = r.reservedUnits :=
    fun r hr => if_pos (mem_countedRows.1 hr).2.1
  rw [map_congr_left hleft, map_congr_left hright] at hsum
  rw [countedUnits_eq, ← hsum, map_const', sum_replicate, nsmul_eq_mul, mul_one,
    ← countP_eq_length_filter]
  rfl

theorem countedOnce (h : Carried k l) (hk : b.pool = k) : CountedOnce l b where
  units := identity_units h hk
  each i hi hb := units_of_identity h hi hb hk
  requested r hr hb hcounted := by
    obtain ⟨i, hi, hir⟩ := h.identified r hr (hb ▸ hk) hcounted
    exact ⟨⟨i, hi, hir⟩, hir ▸ units_of_identity h hi ((Prod.mk.inj hir).1.trans hb) hk⟩

/-! ## Runs -/

theorem holdsClock_of_mem_dimensionSpecs {req : QuotaRequest}
    (h : dimensionSpecs env req now = .ok specs) (hspec : spec ∈ specs) :
    spec.HoldsClock now := by
  have hseconds := nonneg_of_mem_dimensionSpecs h hspec
  obtain ⟨d, -, hd⟩ := mem_dimensionSpecs h hspec
  obtain ⟨-, -, window, lease, scope, hwindow, -, -, rfl⟩ := dimensionSpec_eq_some hd
  intro hrolling
  have hstart : window.1 = wholeSecond now := by
    obtain ⟨⟨start, rolls⟩, -, rfl⟩ := map_eq_ok.1 hwindow
    cases start with
    | some start => cases hrolling
    | none =>
      cases rolls with
      | true => rfl
      | false => cases hrolling
  change now - d.windowSeconds * 1000000 ≤ window.1
  rw [hstart, wholeSecond, seconds]
  have hsplit := Int.mul_tdiv_add_tmod now 1000000
  have hrest := Int.tmod_lt_of_pos now (b := 1000000) (by decide)
  have hpos : 0 < d.windowSeconds := hseconds
  linarith

/-- **Every call that keeps the units keeps the identities.** -/
theorem Carried.step (hl : Balanced l) (h : Carried k l) (hstep : IdentityStep env k l call l') :
    Balanced l' ∧ Carried k l' := by
  obtain ⟨hcommit, hcounts, hkeeps⟩ := hstep
  have hbal := (balanced_commit env hl call.quotaCall).1
  have heffect := callEffect env hl call.quotaCall
  rw [← (show l' = call.quotaCall.commit env l from hcommit)] at hbal heffect
  refine ⟨hbal, ?_⟩
  cases call with
  | reserve call id now =>
    change CallEffect env l (.reserve call.request id now) l' at heffect
    cases heffect with
    | unchanged => exact h
    | denied hplan hexpired hr hi => exact (h.expiry hexpired).of_eq hr hi
    | admitted hplan hsteps =>
      have hpos : ∀ spec ∈ _, 0 ≤ QuotaCall.unitsOf _ (.reserve call.request id now) spec :=
        fun spec hspec => (unitsOf_pos hplan hspec).le
      refine h.admitted hl hpos (fun spec hspec hk => ?_) hsteps
      obtain ⟨d, hd⟩ := hcounts _ hplan spec hspec hk
      refine ⟨?_, holdsClock_of_mem_dimensionSpecs hplan hspec,
        hkeeps (admits_of_steps hplan hspec hsteps) _ hplan spec hspec hk, d, hd⟩
      rw [← Bool.not_eq_true]
      intro hrelease
      rw [((chargeable_of_plan hplan hspec).slot hrelease).2.1] at hd
      cases hd
  | settle call id outcome now =>
    change CallEffect env l (.settle id (call.settlement outcome) now) l' at heffect
    cases heffect with
    | unchanged => exact h
    | denied hplan hexpired hr hi => exact (h.expiry hexpired).of_eq hr hi
    | admitted hplan hsteps =>
      obtain rfl := Except.ok.inj hplan
      exact h.admitted hl (fun _ hspec => absurd hspec not_mem_nil)
        (fun _ hspec => absurd hspec not_mem_nil) hsteps
    | settled hsettled => exact h.settle hkeeps hsettled

/-- **Distinct identities.**  Along every run of the runtime's quota calls in which
    a symbol that is admitted costs one unit and every settlement keeps the units of
    its rows, the identities of every bucket are counted once. -/
theorem distinct_identities {calls : List RuntimeCall} (h : Run (IdentityStep env k) {} calls l)
    (b : Bucket) (hb : b.pool = k) : CountedOnce l b :=
  countedOnce (h.invariant (P := fun l => Balanced l ∧ Carried k l)
    (fun hP hstep => hP.2.step hP.1 hstep) ⟨balanced_empty, carried_empty k⟩).2 hb

def symbolsPerMinute : ProviderPolicy where
  quotaContract :=
    { reset := "fixed_minute"
      dimensions :=
        [{ name := "symbols", limit := 5, windowSeconds := 60, unit := "symbols",
           source := "docs", scope := "account", baselineMode := "local_zero",
           applicationUsageOnly := true }] }

def symbolCall (symbol : String) : ProviderCall where
  providerName := "marketdata"
  capability := "bars"
  operation := "fetch_bars"
  policy := symbolsPerMinute
  dimensionUnits := [("symbols", 1)]
  usageIdentity := some symbol

def returned : CallOutcome := .sent ⟨some 1, some 512⟩ none

def runtimeLedger (env : Coordinator) (calls : List RuntimeCall) : Ledger :=
  ledgerAfter env {} (calls.map RuntimeCall.quotaCall)

def firstMinute : Bucket := ⟨⟨"marketdata", "bars", "symbols"⟩, 0, 60⟩

/-- A symbol is requested again before its first request has returned. -/
def twoSymbols : List RuntimeCall :=
  [.reserve (symbolCall "AAPL") "first" 1000000, .reserve (symbolCall "MSFT") "second" 2000000,
    .reserve (symbolCall "AAPL") "third" 2500000,
    .settle (symbolCall "AAPL") "first" returned 3000000]

def symbolSpec (symbol : String) : QuotaSpec where
  providerName := "marketdata"
  operation := "fetch_bars"
  bucket := firstMinute
  unit := "symbols"
  reset := "fixed_minute"
  rolling := false
  limitUnits := 5
  baselineMode := "local_zero"
  applicationUsageOnly := true
  units := 1
  releaseOnly := false
  leaseExpiresAt := none
  identityDigest := some (identityDigest plainCoordinator (some symbol))

theorem identityStep_reserve {id : String} {c : ProviderCall}
    (h : dimensionSpecs env c.request now = .ok [spec]) (hunits : spec.units = 1)
    {d : Digest} (hd : spec.identityDigest = some d) :
    IdentityStep env k l (.reserve c id now)
      (QuotaCall.commit env l (.reserve c.request id now)) := by
  refine ⟨rfl, fun specs hspecs x hx _ => ?_, fun _ specs hspecs x hx _ => ?_⟩
  · obtain rfl := Except.ok.inj (h.symm.trans hspecs)
    obtain rfl := mem_singleton.1 hx
    exact ⟨d, hd⟩
  · obtain rfl := Except.ok.inj (h.symm.trans hspecs)
    obtain rfl := mem_singleton.1 hx
    exact hunits

theorem distinct_identities_symbols :
    (runtimeLedger plainCoordinator twoSymbols).reservations.map
        (fun r => (r.reservationId, r.counted, r.reservedUnits)) =
      [("first", true, 1), ("second", true, 1), ("third", true, 0)] ∧
      CountedOnce (runtimeLedger plainCoordinator twoSymbols) firstMinute := by
  refine ⟨by decide +kernel, ?_⟩
  have hfirst : IdentityStep plainCoordinator firstMinute.pool {}
      (.reserve (symbolCall "AAPL") "first" 1000000) _ :=
    identityStep_reserve (show _ = Except.ok [symbolSpec "AAPL"] by decide +kernel) rfl rfl
  have hsecond : IdentityStep plainCoordinator firstMinute.pool
      (runtimeLedger plainCoordinator (twoSymbols.take 1))
      (.reserve (symbolCall "MSFT") "second" 2000000) _ :=
    identityStep_reserve (show _ = Except.ok [symbolSpec "MSFT"] by decide +kernel) rfl rfl
  have hthird : IdentityStep plainCoordinator firstMinute.pool
      (runtimeLedger plainCoordinator (twoSymbols.take 2))
      (.reserve (symbolCall "AAPL") "third" 2500000) _ :=
    identityStep_reserve (show _ = Except.ok [symbolSpec "AAPL"] by decide +kernel) rfl rfl
  have hfourth : IdentityStep plainCoordinator firstMinute.pool
      (runtimeLedger plainCoordinator (twoSymbols.take 3))
      (.settle (symbolCall "AAPL") "first" returned 3000000)
      (runtimeLedger plainCoordinator twoSymbols) := ⟨rfl, trivial, by
    unfold RuntimeCall.KeepsUnits
    decide +kernel⟩
  exact distinct_identities ((((Run.nil.snoc hfirst).snoc hsecond).snoc hthird).snoc hfourth)
    firstMinute rfl

def sameSymbolTwice : List RuntimeCall :=
  [.reserve (symbolCall "AAPL") "first" 1000000,
    .settle (symbolCall "AAPL") "first" returned 2000000,
    .reserve (symbolCall "AAPL") "second" 3000000,
    .settle (symbolCall "AAPL") "second" returned 4000000]

/-- **A symbol is counted twice**: the second reservation carries nothing, and its
    settlement records the reviewed cost. -/
theorem symbol_countedTwice :
    Run (QuotaStep plainCoordinator) {} (sameSymbolTwice.map RuntimeCall.quotaCall)
        (runtimeLedger plainCoordinator sameSymbolTwice) ∧
      countedUnits (runtimeLedger plainCoordinator sameSymbolTwice).reservations firstMinute = 2 ∧
      identitiesIn (runtimeLedger plainCoordinator sameSymbolTwice).identities firstMinute = 1 :=
  ⟨run_ledgerAfter _ _ _, by decide +kernel, by decide +kernel⟩

end

end ChartingPlatform
