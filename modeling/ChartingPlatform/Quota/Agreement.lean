/-
  The two ways to reserve an operation: through the runtime and as a direct live
  probe, by the plans of two planners (`dimensionSpecs`, `reservationPlanForLiveProbe`).
-/
import ChartingPlatform.Quota.Concurrency

namespace ChartingPlatform

open Lib List

def admitted (result : Except Refusal Ledger) : Bool := result.isOk

def QuotaSpec.unleased (spec : QuotaSpec) : QuotaSpec := { spec with leaseExpiresAt := none }

def unleasedEntry (c : QuotaSpec × ℤ) : QuotaSpec × ℤ := (c.1.unleased, c.2)

/-- What the first loop collects, without the leases. -/
def Preparation.unleased (p : Preparation) : Preparation :=
  { p with charged := p.charged.map unleasedEntry }

section
variable {env : Coordinator} {l l' : Ledger} {now : Micros} {spec : QuotaSpec}
  {specs specs' : List QuotaSpec} {unitsOf unitsOf' : QuotaSpec → ℤ} {p : Preparation} {id : String}

/-! ## Admission does not look at leases -/

theorem chargeFor_unleased (hunits : unitsOf' spec.unleased = unitsOf spec) :
    chargeFor unitsOf' now l spec.unleased = unleasedEntry (chargeFor unitsOf now l spec) := by
  have hfind : (spec.unleased.identityDigest.bind fun d =>
      l.findActiveIdentity spec.unleased d now) =
      spec.identityDigest.bind fun d => l.findActiveIdentity spec d now := rfl
  unfold chargeFor
  rw [hfind]
  cases spec.identityDigest.bind fun d => l.findActiveIdentity spec d now with
  | some identity =>
    change ((if spec.rolling then _ else _), (0 : ℤ)) = unleasedEntry (if _ then _ else _, 0)
    split_ifs <;> rfl
  | none => exact Prod.ext rfl hunits

theorem opening_unleased (p : Preparation) (c : QuotaSpec × ℤ) :
    p.unleased.opening (unleasedEntry c) = (p.opening c).unleased := by
  unfold Preparation.opening Preparation.unleased
  rw [map_append]
  rfl

/-- The second half of the first loop: the baseline of an entry that is metered. -/
def Preparation.base (env : Coordinator) (now : Micros) (p : Preparation) (spec : QuotaSpec) :
    Except Refusal Preparation :=
  match baselineForReservation env p.ledger.baselines spec now with
  | .error e => .error (.raised e)
  | .ok (bs, none) => .error (.denied { p.ledger.dropCreated p.created with baselines := bs } none)
  | .ok (bs, some b) =>
    .ok { p with
      ledger := { p.ledger with baselines := bs }
      baselines := Function.update p.baselines spec.bucket (some b) }

theorem base_unleased (p : Preparation) (spec : QuotaSpec) :
    p.unleased.base env now spec.unleased = (p.base env now spec).map Preparation.unleased := by
  have hsame : baselineForReservation env p.unleased.ledger.baselines spec.unleased now =
      baselineForReservation env p.ledger.baselines spec now := rfl
  unfold Preparation.base
  rw [hsame]
  rcases baselineForReservation env p.ledger.baselines spec now with e | ⟨bs, _ | b⟩ <;> rfl

theorem prepareSpec_eq (env : Coordinator) (unitsOf : QuotaSpec → ℤ) (now : Micros)
    (p : Preparation) (spec : QuotaSpec) : prepareSpec env unitsOf now p spec =
      if (chargeFor unitsOf now p.ledger spec).1.releaseOnly then
        .ok (p.opening (chargeFor unitsOf now p.ledger spec))
      else (p.opening (chargeFor unitsOf now p.ledger spec)).base env now
        (chargeFor unitsOf now p.ledger spec).1 := rfl

theorem prepareSpec_unleased (p : Preparation) (hunits : unitsOf' spec.unleased = unitsOf spec) :
    prepareSpec env unitsOf' now p.unleased spec.unleased =
      (prepareSpec env unitsOf now p spec).map Preparation.unleased := by
  have hcharged : chargeFor unitsOf' now p.unleased.ledger spec.unleased =
      unleasedEntry (chargeFor unitsOf now p.ledger spec) := chargeFor_unleased hunits
  rw [prepareSpec_eq, prepareSpec_eq, hcharged, opening_unleased]
  generalize chargeFor unitsOf now p.ledger spec = c
  by_cases hrelease : c.1.releaseOnly = true
  · rw [if_pos hrelease]
    exact if_pos hrelease
  · rw [if_neg hrelease]
    exact (if_neg hrelease).trans (base_unleased (p.opening c) c.1)

theorem prepared_unleased (env : Coordinator) (now : Micros) (p : Preparation)
    (hunits : ∀ spec ∈ specs, unitsOf' spec.unleased = unitsOf spec) :
    (specs.map QuotaSpec.unleased).foldlM (prepareSpec env unitsOf' now) p.unleased =
      (specs.foldlM (prepareSpec env unitsOf now) p).map Preparation.unleased := by
  induction specs generalizing p with
  | nil => rfl
  | cons spec specs ih =>
    rw [map_cons, foldlM_cons, foldlM_cons,
      prepareSpec_unleased p (hunits spec mem_cons_self)]
    cases prepareSpec env unitsOf now p spec with
    | error e => rfl
    | ok p' => exact ih p' fun s hs => hunits s (mem_cons_of_mem spec hs)

theorem charges_ok_iff {windows : Bucket → Option QuotaWindow} {cs : List (QuotaSpec × ℤ)} :
    (∃ l', cs.foldlM (chargeSpec id now windows) l = .ok l') ↔
      (∀ c ∈ cs, (id, c.1.bucket.pool.dimension) ∉ l.reservations.map Reservation.key) ∧
        (cs.map (·.1.bucket.pool.dimension)).Nodup := by
  constructor
  · rintro ⟨l', h⟩
    exact charge_dimensions h
  · rintro ⟨hnew, hn⟩
    induction cs generalizing l with
    | nil => exact ⟨l, rfl⟩
    | cons c cs ih =>
      rw [map_cons, nodup_cons] at hn
      rw [foldlM_cons,
        chargeSpec_eq_ok.2 ⟨hnew c mem_cons_self, rfl⟩, ok_bind]
      refine ih (fun d hd => ?_) hn.2
      rw [map_append, mem_append, not_or, map_singleton, mem_singleton]
      refine ⟨hnew d (mem_cons_of_mem c hd), fun hkey => hn.1 ?_⟩
      have hdim : d.1.bucket.pool.dimension = c.1.bucket.pool.dimension := (Prod.mk.inj hkey).2
      exact hdim ▸ mem_map_of_mem hd

theorem admitted_iff {result : Except Refusal Ledger} :
    admitted result = true ↔ ∃ l', result = .ok l' := isOk_iff

theorem admitted_mapError (f : Refusal → Refusal) (result : Except Refusal Ledger) :
    admitted (result.mapError f) = admitted result := by
  cases result <;> rfl

theorem admitted_unleased (env : Coordinator) (unitsOf unitsOf' : QuotaSpec → ℤ)
    (specs : List QuotaSpec) (id : String) (now : Micros) (l : Ledger)
    (hunits : ∀ spec ∈ specs, unitsOf' spec.unleased = unitsOf spec) :
    admitted (reserveSpecs env unitsOf' (specs.map QuotaSpec.unleased) id now l) =
      admitted (reserveSpecs env unitsOf specs id now l) := by
  have hscopes : accountScopes (specs.map QuotaSpec.unleased) = accountScopes specs := by
    unfold accountScopes
    rw [map_map]
    rfl
  unfold reserveSpecs
  rw [hscopes]
  cases ((accountScopes specs).foldlM (releaseExpiredConcurrencyLeases now) l).mapError
    Refusal.raised with
  | error e => rfl
  | ok l₁ =>
    have hprepared := prepared_unleased env now { ledger := l₁ } hunits
    rw [ok_bind, ok_bind]
    change admitted ((specs.map QuotaSpec.unleased).foldlM (prepareSpec env unitsOf' now)
      (Preparation.unleased { ledger := l₁ }) >>= _) = _
    rw [hprepared]
    cases specs.foldlM (prepareSpec env unitsOf now) { ledger := l₁ } with
    | error e => rfl
    | ok p =>
      change admitted ((p.charged.map unleasedEntry).foldlM
        (fun _ => checkCapacity p.unleased now) () >>= fun _ =>
          (p.charged.map unleasedEntry).foldlM (chargeSpec id now p.windows) p.ledger) =
        admitted (p.charged.foldlM (fun _ => checkCapacity p now) () >>= fun _ =>
          p.charged.foldlM (chargeSpec id now p.windows) p.ledger)
      rw [foldlM_map]
      change admitted (p.charged.foldlM (fun _ => checkCapacity p now) () >>= _) = _
      cases p.charged.foldlM (fun _ => checkCapacity p now) () with
      | error e => rfl
      | ok u =>
        rw [ok_bind, ok_bind]
        refine Bool.eq_iff_iff.2 ?_
        rw [admitted_iff, admitted_iff, charges_ok_iff, charges_ok_iff, forall_mem_map,
          map_map]
        rfl

theorem nodup_of_admitted_plan
    (h : admitted (reserveSpecs env unitsOf specs id now l) = true) :
    (specs.map (·.bucket.pool.dimension)).Nodup := by
  obtain ⟨l', h⟩ := admitted_iff.1 h
  obtain ⟨l₁, p, hsteps⟩ := reserveSpecs_eq_ok.1 h
  have hn := (charge_dimensions hsteps.charged).2
  have hcharged : p.charged = specs.map (chargeFor unitsOf now l₁) :=
    charged_loop (l := l₁) rfl hsteps.prepared
  rw [hcharged, map_map] at hn
  refine map_congr_left (fun spec _ => ?_) ▸ hn
  exact congrArg Pool.dimension (dimension_chargeFor unitsOf now l₁ spec)

theorem map_dimension_unleased : (specs.map QuotaSpec.unleased).map (·.bucket.pool.dimension) =
    specs.map (·.bucket.pool.dimension) := by
  rw [map_map]
  rfl

/-- **Plans that agree up to their leases are admitted alike**, where the one
    charges the units of its entries and the other the units by dimension. -/
theorem admitted_congr (h : specs.map QuotaSpec.unleased = specs'.map QuotaSpec.unleased) :
    admitted (reserveSpecs env (·.units) specs id now l) =
      admitted (reserveSpecs env (plannedUnits specs') specs' id now l) := by
  have hdims : specs.map (·.bucket.pool.dimension) = specs'.map (·.bucket.pool.dimension) := by
    rw [← map_dimension_unleased, h, map_dimension_unleased]
  by_cases hn : (specs'.map (·.bucket.pool.dimension)).Nodup
  · have hleft := admitted_unleased env (·.units) (·.units) specs id now l fun _ _ => rfl
    have hright := admitted_unleased env (plannedUnits specs') (·.units) specs' id now l
      fun spec hspec => (plannedUnits_eq hn hspec).symm
    rw [← hleft, h, hright]
  · have hfalse {u : QuotaSpec → ℤ} {ss : List QuotaSpec}
        (hss : ¬ (ss.map (·.bucket.pool.dimension)).Nodup) :
        admitted (reserveSpecs env u ss id now l) = false := by
      rw [← Bool.not_eq_true]
      exact fun hadmitted => hss (nodup_of_admitted_plan hadmitted)
    rw [hfalse hn, hfalse (hdims ▸ hn)]

/-! ## The two plans -/

/-- The reservation that the runtime asks for where the probe reserves directly. -/
def LiveProbe.request (probe : LiveProbe) (capability : String) (units : String → Option ℤ) :
    QuotaRequest where
  providerName := probe.providerName
  capability := capability
  operation := probe.operation
  policy := probe.policy
  dimensionUnits := units
  usageIdentity := probe.usageIdentity

def LiveProbe.SameCosts (env : Coordinator) (probe : LiveProbe) (now : Micros) (l : Ledger)
    (units : String → Option ℤ) : Prop :=
  ∃ unknown cost, probe.unchargedNames env now l = .ok unknown ∧ probe.cost = some cost ∧
    ∀ d ∈ probe.policy.quotaContract.dimensions,
      dimensionAppliesToOperation d probe.operation = true →
        ∃ n, probe.amount unknown cost d = some n ∧ units d.name = some n

def LiveProbe.chargedDimensions (probe : LiveProbe) (units : String → Option ℤ) :
    List QuotaDimension :=
  probe.policy.quotaContract.dimensions.filter fun d =>
    dimensionAppliesToOperation d probe.operation && !decide (units d.name = some 0)

/-- The two planners find one account scope for the dimension: it names its own
    scope, or the account scope without a scope is that of the policy's scope. -/
def LiveProbe.ScopeAgrees (env : Coordinator) (probe : LiveProbe) (d : QuotaDimension) : Prop :=
  d.scope ≠ "" ∨ accountScopeForProvider env probe.providerName "" =
    accountScopeForProvider env probe.providerName (orText probe.policy.quotaScope "unknown")

def QuotaDimension.UnitAgrees (d : QuotaDimension) : Prop := d.unitLabel = d.rawUnitLabel

variable {probe : LiveProbe} {capability : String} {units : String → Option ℤ} {d : QuotaDimension}

theorem forall₂_of_collect {f : QuotaDimension → Except QuotaError (Option QuotaSpec)}
    {ds : List QuotaDimension} {entries : List (Option QuotaSpec)} {P : QuotaDimension → Bool}
    (h : collect (ds.map f) = .ok entries) (hP : ∀ d ∈ ds, ∀ e, f d = .ok e → e.isSome = P d) :
    List.Forall₂ (fun d s => f d = .ok (some s)) (ds.filter P) entries.reduceOption := by
  have hmap := collect_eq_ok.1 h
  clear h
  induction ds generalizing entries with
  | nil =>
    cases entries with
    | nil => exact .nil
    | cons => cases hmap
  | cons d ds ih =>
    cases entries with
    | nil => cases hmap
    | cons e entries =>
      obtain ⟨hd, hds⟩ := List.cons.inj hmap
      have hrest := ih (fun x hx => hP x (mem_cons_of_mem d hx)) hds
      have hsome := hP d mem_cons_self e hd
      cases e with
      | none =>
        rw [filter_cons_of_neg (by rw [← hsome]; exact Bool.false_ne_true),
          reduceOption_cons_of_none]
        exact hrest
      | some s =>
        rw [filter_cons_of_pos hsome.symm, reduceOption_cons_of_some]
        exact .cons hd hrest

theorem forall₂_map_eq_iff {α β γ : Type} {R R' : α → β → Prop} {as : List α} {bs cs : List β}
    {g : β → γ} {P : α → Prop} (h : List.Forall₂ R as bs) (h' : List.Forall₂ R' as cs)
    (hP : ∀ a ∈ as, ∀ b c, R a b → R' a c → (g b = g c ↔ P a)) :
    bs.map g = cs.map g ↔ ∀ a ∈ as, P a := by
  induction h generalizing cs with
  | nil =>
    cases h'
    simp
  | @cons a b as bs hab h ih =>
    cases h' with
    | @cons _ c _ cs hac h' =>
      rw [map_cons, map_cons, List.cons.injEq, forall_mem_cons,
        hP a mem_cons_self b c hab hac, ih h' fun x hx => hP x (mem_cons_of_mem a hx)]

theorem ne_nil_of_dimensionSpecs {req : QuotaRequest} (h : dimensionSpecs env req now = .ok specs) :
    specs ≠ [] := by
  unfold dimensionSpecs at h
  obtain ⟨_, -, h⟩ := bind_eq_ok.1 h
  obtain ⟨_, -, h⟩ := bind_eq_ok.1 h
  obtain ⟨_, hne, h⟩ := bind_eq_ok.1 h
  obtain rfl := Except.ok.inj h
  exact require_eq_ok.1 hne

theorem forall₂_dimensionSpecs
    (h : dimensionSpecs env (probe.request capability units) now = .ok specs) :
    List.Forall₂ (fun d s =>
        dimensionSpec env (probe.request capability units) now (d.scoped probe.policy) =
          .ok (some s)) (probe.chargedDimensions units) specs := by
  unfold dimensionSpecs at h
  obtain ⟨_, hcomplete, h⟩ := bind_eq_ok.1 h
  obtain ⟨entries, hentries, h⟩ := bind_eq_ok.1 h
  obtain ⟨_, -, h⟩ := bind_eq_ok.1 h
  obtain rfl := Except.ok.inj h
  have hdims : quotaDimensions probe.policy =
      probe.policy.quotaContract.dimensions.map (·.scoped probe.policy) := by
    have hne : quotaDimensions probe.policy ≠ [] := require_eq_ok.1 hcomplete
    unfold quotaDimensions at hne ⊢
    split_ifs at hne ⊢
    · rfl
    · exact absurd rfl hne
  change collect ((quotaDimensions probe.policy).map _) = _ at hentries
  rw [hdims, map_map] at hentries
  refine forall₂_of_collect hentries fun d _ e he => ?_
  rw [dimensionSpec_isSome he]
  refine congrArg (_ && !·) (decide_eq_decide.2 ?_)
  change (units d.name).getD (-1) = 0 ↔ units d.name = some 0
  cases units d.name <;> simp

theorem forall₂_reservationPlan {unknown : List String} {cost : ℤ}
    (h : reservationPlanForLiveProbe env probe now l = .ok specs)
    (hunknown : probe.unchargedNames env now l = .ok unknown) (hcost : probe.cost = some cost)
    (hsame : ∀ d ∈ probe.policy.quotaContract.dimensions,
      dimensionAppliesToOperation d probe.operation = true →
        ∃ n, probe.amount unknown cost d = some n ∧ units d.name = some n) :
    List.Forall₂ (fun d s => probeSpec env probe unknown cost now d = .ok (some s))
      (probe.chargedDimensions units) specs := by
  unfold reservationPlanForLiveProbe at h
  obtain ⟨_, -, h⟩ := bind_eq_ok.1 h
  rw [hunknown, ok_bind, hcost] at h
  obtain ⟨_, -, h⟩ := bind_eq_ok.1 h
  obtain ⟨entries, hentries, h⟩ := bind_eq_ok.1 h
  obtain rfl := Except.ok.inj h
  refine forall₂_of_collect hentries fun d hd e he => ?_
  rw [probeSpec_isSome he]
  cases happlies : dimensionAppliesToOperation d probe.operation with
  | false => rfl
  | true =>
    obtain ⟨n, hn, hunits⟩ := hsame d hd happlies
    rw [hn, hunits]

theorem scope_scoped (probe : LiveProbe) (d : QuotaDimension) :
    orText (d.scoped probe.policy).scope probe.policy.quotaScope =
      if d.scope = "" then orText probe.policy.quotaScope "unknown" else d.scope := by
  unfold QuotaDimension.scoped orText
  dsimp only
  by_cases hscope : d.scope = ""
  · rw [if_pos hscope, if_pos hscope]
    by_cases hpolicy : probe.policy.quotaScope = ""
    · simp [hpolicy]
    · simp [hpolicy]
  · simp [hscope]

theorem scopes_eq_iff {scope scope' : String}
    (h : accountScopeForProvider env probe.providerName
      (orText (d.scoped probe.policy).scope probe.policy.quotaScope) = .ok scope)
    (h' : accountScopeForProvider env probe.providerName d.scope = .ok scope') :
    scope = scope' ↔ probe.ScopeAgrees env d := by
  rw [scope_scoped] at h
  unfold LiveProbe.ScopeAgrees
  by_cases hscope : d.scope = ""
  · rw [if_pos hscope] at h
    rw [hscope] at h'
    rw [h, h', hscope]
    simp [eq_comm]
  · rw [if_neg hscope] at h
    have heq : scope = scope' := Except.ok.inj (h.symm.trans h')
    simp [heq, hscope]

/-! The scope that a complete contract gives a dimension changes nothing else. -/

@[simp] theorem unitLabel_scoped (policy : ProviderPolicy) (d : QuotaDimension) :
    (d.scoped policy).unitLabel = d.unitLabel := rfl

@[simp] theorem isInFlight_scoped (policy : ProviderPolicy) (d : QuotaDimension) :
    (d.scoped policy).isInFlight = d.isInFlight := rfl

@[simp] theorem isDistinctIdentity_scoped (policy : ProviderPolicy) (d : QuotaDimension) :
    (d.scoped policy).isDistinctIdentity = d.isDistinctIdentity := rfl

@[simp] theorem resetLabel_scoped (policy : ProviderPolicy) (d : QuotaDimension) (reset : String) :
    (d.scoped policy).resetLabel reset = d.resetLabel reset := rfl

@[simp] theorem quotaGroup_scoped (policy : ProviderPolicy) (d : QuotaDimension) :
    quotaGroupForDimension capability (d.scoped policy) = quotaGroupForDimension capability d := rfl

theorem windowStart_scoped (policy : ProviderPolicy) (d : QuotaDimension) (reset : String) :
    windowStart env (d.scoped policy) reset now = windowStart env d reset now := by
  unfold windowStart windowStartForDimension QuotaDimension.admissionReset
  rw [resetLabel_scoped]
  rfl

theorem bucket_spec (window : Micros × Bool) (lease : Option Micros) (scope : String) :
    ((probe.request capability units).spec env (d.scoped probe.policy) window lease scope).bucket =
      { pool := ⟨scope, quotaGroupForDimension capability d, d.name⟩
        windowStartedAt := window.1
        windowSeconds := d.windowSeconds } := rfl

theorem unleased_spec (hgroup : strip (d.quotaGroup.getD "") ≠ "") (window : Micros × Bool)
    (lease : Option Micros) {amount : ℤ} (hamount : units d.name = some amount) (scope : String)
    (hunit : d.UnitAgrees) :
    ((probe.request capability units).spec env (d.scoped probe.policy) window lease scope).unleased =
      (probe.spec env d amount now window scope).unleased := by
  have hquota : quotaGroupForDimension capability d = strip (d.quotaGroup.getD "") := if_pos hgroup
  have hunits : (probe.request capability units).units (d.scoped probe.policy) = amount := by
    change (units d.name).getD (-1) = amount
    rw [hamount, Option.getD_some]
  have hlabel : d.unitLabel = d.rawUnitLabel := hunit
  unfold QuotaSpec.unleased QuotaRequest.spec LiveProbe.spec
  rw [hunits, unitLabel_scoped, isInFlight_scoped, isDistinctIdentity_scoped, resetLabel_scoped,
    quotaGroup_scoped]
  unfold QuotaDimension.isInFlight QuotaDimension.isDistinctIdentity
  rw [hlabel]
  simp only [decide_eq_true_eq]
  rw [show (probe.request capability units).capability = capability from rfl, hquota]
  rfl

theorem entries_of_dimension {unknown : List String} {cost : ℤ} {s s' : QuotaSpec}
    (h : dimensionSpec env (probe.request capability units) now (d.scoped probe.policy) =
      .ok (some s)) (h' : probeSpec env probe unknown cost now d = .ok (some s'))
    (hamount : probe.amount unknown cost d = units d.name) :
    (s.bucket = s'.bucket ↔ probe.ScopeAgrees env d) ∧
      (probe.ScopeAgrees env d ∧ d.UnitAgrees → s.unleased = s'.unleased) := by
  obtain ⟨-, -, window, lease, scope, hwindow, -, hscope, rfl⟩ := dimensionSpec_eq_some h
  obtain ⟨-, hgroup, amount, window', scope', hn, -, hwindow', hscope', rfl⟩ :=
    probeSpec_eq_some h'
  rw [windowStart_scoped] at hwindow
  obtain rfl : window = window' := Except.ok.inj (hwindow.symm.trans hwindow')
  have hiff := scopes_eq_iff hscope hscope'
  constructor
  · rw [bucket_spec, show quotaGroupForDimension capability d = strip (d.quotaGroup.getD "") from
      if_pos hgroup]
    unfold LiveProbe.spec
    simp only [Bucket.mk.injEq, Pool.mk.injEq, and_true]
    exact hiff
  · rintro ⟨hagrees, hunit⟩
    rw [hiff.2 hagrees]
    exact unleased_spec hgroup window lease (hamount ▸ hn) scope' hunit

/-- **Agreement of the two plans.**  Where both are built with the same costs, the
    plans are for the same buckets exactly where the scopes of the charged
    dimensions agree; where the units agree as well, both calls are admitted or
    none, on any ledger and for any reservation id. -/
theorem live_probe_agreement (hruntime :
      dimensionSpecs env (probe.request capability units) now = .ok specs)
    (hprobe : reservationPlanForLiveProbe env probe now l = .ok specs')
    (hcosts : probe.SameCosts env now l units) :
    (specs.map (·.bucket) = specs'.map (·.bucket) ↔
        ∀ d ∈ probe.chargedDimensions units, probe.ScopeAgrees env d) ∧
      ((∀ d ∈ probe.chargedDimensions units, probe.ScopeAgrees env d ∧ d.UnitAgrees) →
        ∀ id, admitted (reserveProviderQuota env (probe.request capability units) id now l) =
          admitted (reserveLiveProviderOperation env probe id now l)) := by
  obtain ⟨unknown, cost, hunknown, hcost, hsame⟩ := hcosts
  have h := forall₂_dimensionSpecs hruntime
  have h' := forall₂_reservationPlan hprobe hunknown hcost hsame
  have hamount : ∀ d ∈ probe.chargedDimensions units,
      probe.amount unknown cost d = units d.name := by
    intro d hd
    obtain ⟨hmem, hcharged⟩ := mem_filter.1 hd
    obtain ⟨n, hn, hunits⟩ := hsame d hmem (Bool.and_eq_true_iff.1 hcharged).1
    rw [hn, hunits]
  have hbuckets := forall₂_map_eq_iff (g := (·.bucket)) h h' fun d hd s s' hs hs' =>
    (entries_of_dimension hs hs' (hamount d hd)).1
  refine ⟨hbuckets, fun hagrees id => ?_⟩
  have hunleased : specs.map QuotaSpec.unleased = specs'.map QuotaSpec.unleased :=
    (forall₂_map_eq_iff (P := fun _ => True) h h' fun d hd s s' hs hs' =>
      iff_of_true ((entries_of_dimension hs hs' (hamount d hd)).2 (hagrees d hd)) trivial).2
        fun _ _ => trivial
  have hne : specs' ≠ [] := by
    rintro rfl
    exact ne_nil_of_dimensionSpecs hruntime (map_eq_nil_iff.1 hunleased)
  unfold reserveProviderQuota reserveLiveProviderOperation
  rw [hruntime, hprobe]
  change admitted (reserveSpecs env (·.units) specs id now l) =
    admitted (if specs' = [] then _ else _)
  rw [if_neg hne, admitted_mapError]
  exact admitted_congr hunleased

/-- One request a minute, for a dimension that leaves its scope to the policy. -/
def scopedByPolicy (quotaScope : String) : ProviderPolicy where
  quotaContract :=
    { reset := "fixed_minute"
      dimensions :=
        [{ name := "requests", limit := 1, windowSeconds := 60, unit := "requests",
           source := "docs", quotaGroup := some "bars", baselineMode := "local_zero",
           applicationUsageOnly := true }] }
  quotaScope := quotaScope

def barProbe (policy : ProviderPolicy) : LiveProbe where
  providerName := "polygon"
  operation := "fetch_bars"
  policy := policy
  costs := { operationCosts := [("fetch_bars", 1)] }

/-- The plan entry of a request for bars under an account scope. -/
def scopedSpec (scope : String) : QuotaSpec where
  providerName := "polygon"
  operation := "fetch_bars"
  bucket :=
    { pool := ⟨scope, "bars", "requests"⟩, windowStartedAt := 0, windowSeconds := 60 }
  unit := "requests"
  reset := "fixed_minute"
  rolling := false
  limitUnits := 1
  baselineMode := "local_zero"
  applicationUsageOnly := true
  units := 1
  releaseOnly := false
  leaseExpiresAt := none
  identityDigest := none

def limitReserved (quotaScope : String) : Ledger :=
  ledgerAfter plainCoordinator {} [.reserve
    ((barProbe (scopedByPolicy quotaScope)).request "bars" fun _ => some 1) "first" 0]

theorem barProbe_sameCosts (quotaScope : String) (l : Ledger) :
    (barProbe (scopedByPolicy quotaScope)).SameCosts plainCoordinator 5 l fun _ => some 1 := by
  have huncharged : (barProbe (scopedByPolicy quotaScope)).unchargedNames plainCoordinator 5 l =
      .ok [] := if_neg fun h => absurd h.1 (show ¬ "fetch_bars" = "fetch_account_usage" by decide)
  have hcost : (barProbe (scopedByPolicy quotaScope)).cost = some 1 := by
    unfold LiveProbe.cost barProbe
    dsimp only
    decide +kernel
  refine ⟨[], 1, huncharged, hcost, fun d hd _ => ⟨1, ?_, rfl⟩⟩
  rw [mem_singleton.1 hd]
  unfold LiveProbe.amount LiveProbe.costMap barProbe
  dsimp only
  rw [if_neg not_mem_nil, lookup_nil, if_neg (by decide +kernel),
    if_neg (by decide +kernel)]
  rfl

theorem live_probe_agreement_account :
    admitted (reserveProviderQuota plainCoordinator
        ((barProbe (scopedByPolicy "account")).request "bars" fun _ => some 1) "second" 5
        (limitReserved "account")) =
      admitted (reserveLiveProviderOperation plainCoordinator (barProbe (scopedByPolicy "account"))
        "second" 5 (limitReserved "account")) := by
  have hruntime : dimensionSpecs plainCoordinator
      ((barProbe (scopedByPolicy "account")).request "bars" fun _ => some 1) 5 =
        .ok [scopedSpec "polygon"] := by decide +kernel
  have hprobe : reservationPlanForLiveProbe plainCoordinator (barProbe (scopedByPolicy "account")) 5
      (limitReserved "account") = .ok [scopedSpec "polygon"] := by decide +kernel
  refine (live_probe_agreement hruntime hprobe (barProbe_sameCosts "account" _)).2 ?_ "second"
  intro d hd
  obtain rfl := mem_singleton.1 (mem_filter.1 hd).1
  exact ⟨.inr (by decide +kernel), show _ = _ by decide +kernel⟩

/-- **The probe spends the allowance once more**: the scope of the policy is
    shared, the runtime has reserved the limit under it, and the probe is
    admitted under the scope of the provider. -/
theorem scope_of_policy_missed :
    dimensionSpecs plainCoordinator
        ((barProbe (scopedByPolicy "public_api")).request "bars" fun _ => some 1) 5 =
      .ok [scopedSpec "polygon:shared-public_api"] ∧
    reservationPlanForLiveProbe plainCoordinator (barProbe (scopedByPolicy "public_api")) 5
        (limitReserved "public_api") = .ok [scopedSpec "polygon"] ∧
    (barProbe (scopedByPolicy "public_api")).SameCosts plainCoordinator 5
      (limitReserved "public_api") (fun _ => some 1) ∧
    admitted (reserveProviderQuota plainCoordinator
        ((barProbe (scopedByPolicy "public_api")).request "bars" fun _ => some 1) "second" 5
        (limitReserved "public_api")) = false ∧
    admitted (reserveLiveProviderOperation plainCoordinator
        (barProbe (scopedByPolicy "public_api")) "second" 5 (limitReserved "public_api")) = true :=
  ⟨by decide +kernel, by decide +kernel, barProbe_sameCosts "public_api" _, by decide +kernel,
    by decide +kernel⟩

end

end ChartingPlatform
