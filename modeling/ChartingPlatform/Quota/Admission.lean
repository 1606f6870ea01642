/-
  What a reservation that is admitted leaves of the limit (`QuotaSpec.usage`).

  Admission reads window rows.  The row of a rolling reservation starts at the whole second
  before it, so the row can leave the window before the reservation does.
-/
import ChartingPlatform.Quota.Runs

namespace ChartingPlatform

open Lib List

/-- The reservation counts against the limit of the plan entry. -/
def QuotaSpec.Counts (spec : QuotaSpec) (now : Micros) (b : Baseline) (r : Reservation) : Prop :=
  r.bucket.pool = spec.bucket.pool ∧
    (r.outstanding = true ∨ r.state = .settled ∧ b.precedes r) ∧ spec.InWindow now r

instance (spec : QuotaSpec) (now : Micros) (b : Baseline) : DecidablePred (spec.Counts now b) :=
  fun r => by unfold QuotaSpec.Counts; infer_instance

/-- The units that the limit of a plan entry has to cover. -/
def QuotaSpec.usage (spec : QuotaSpec) (now : Micros) (rs : List Reservation) (b : Baseline) : ℤ :=
  b.usedUnits + (rs.map fun r => if spec.Counts now b r then r.reservedUnits else 0).sum

/-- The buckets whose window rows the capacity check of an entry reads. -/
def QuotaSpec.Reads (spec : QuotaSpec) (now : Micros) (b : Bucket) : Prop :=
  if spec.rolling then spec.overlaps now b else b = spec.bucket

instance (spec : QuotaSpec) (now : Micros) : DecidablePred (spec.Reads now) := fun b => by
  unfold QuotaSpec.Reads; infer_instance

/-- Every reservation that holds units in the active window of the entry, and is
    not an expired lease, is bound to a bucket that the capacity check reads. -/
def QuotaSpec.SeesAll (spec : QuotaSpec) (now : Micros) (l : Ledger) : Prop :=
  ∀ r ∈ l.reservations, r.outstanding = true → r.bucket.pool = spec.bucket.pool →
    spec.InWindow now r → 0 < r.reservedUnits →
      r.leaseOver spec.bucket.pool.accountScope now = false → spec.Reads now r.bucket

instance (spec : QuotaSpec) (now : Micros) (l : Ledger) : Decidable (spec.SeesAll now l) := by
  unfold QuotaSpec.SeesAll; infer_instance

/-- The identity of the entry is not active, so its units are charged. -/
def QuotaSpec.IsCharged (spec : QuotaSpec) (now : Micros) (l : Ledger) : Prop :=
  (spec.identityDigest.bind fun digest => l.findActiveIdentity spec digest now) = none

section
variable {env : Coordinator} {l l₁ l' : Ledger} {r x : Reservation} {now : Micros}
  {spec : QuotaSpec} {specs : List QuotaSpec} {unitsOf : QuotaSpec → ℤ} {p p' : Preparation}
  {id : String} {b : Baseline} {rows : List Reservation} {bs : List Baseline}
  {found : Option Baseline} {rs : List Reservation} {cs : List (QuotaSpec × ℤ)}

/-! ## After the expired leases -/

theorem outstanding_releaseLease (h : releaseLease now l r = .ok l') (hx : x ∈ l'.reservations) (hout : x.outstanding = true) :
    x ∈ l.reservations ∧ x ≠ r := by
  obtain rfl := releaseLease_eq_ok h
  obtain ⟨y, hy, ⟨-, rfl⟩ | ⟨hne, rfl⟩⟩ := mem_updateRow.1 hx
  · cases hout
  · exact ⟨hy, fun hxr => hne (hxr ▸ rfl)⟩

theorem outstanding_releaseLeases (hl : Balanced l)
    (hn : (rows.map Reservation.key).Nodup)
    (hrows : ∀ r ∈ rows, r ∈ l.reservations ∧ r.outstanding = true)
    (h : rows.foldlM (releaseLease now) l = .ok l') (hx : x ∈ l'.reservations)
    (hout : x.outstanding = true) : x ∈ l.reservations ∧ x ∉ rows := by
  induction rows generalizing l with
  | nil =>
    obtain rfl := Except.ok.inj h
    exact ⟨hx, not_mem_nil⟩
  | cons r rows ih =>
    rw [foldlM_cons] at h
    obtain ⟨l₁, h₁, h⟩ := bind_eq_ok.1 h
    rw [map_cons, nodup_cons] at hn
    obtain ⟨hr, hrout⟩ := hrows r mem_cons_self
    have heq := releaseLease_eq_ok h₁
    have hbal : Balanced l₁ := heq ▸ hl.close hr hrout _ _ (fun _ => rfl) (fun _ => rfl)
      (hl.nonneg r hr) rfl (fun _ => rfl) fun _ => rfl
    have hrest : ∀ y ∈ rows, y ∈ l₁.reservations ∧ y.outstanding = true := by
      intro y hy
      obtain ⟨hy₀, hyout⟩ := hrows y (mem_cons_of_mem r hy)
      have hne : y.key ≠ r.key := fun hk => hn.1 (hk ▸ mem_map_of_mem hy)
      exact ⟨heq ▸ others_update _ _ y hy₀ hne, hyout⟩
    obtain ⟨hx₁, hnot⟩ := ih hbal hn.2 hrest h
    obtain ⟨hx₀, hne⟩ := outstanding_releaseLease h₁ hx₁ hout
    exact ⟨hx₀, fun hmem => (mem_cons.1 hmem).elim hne hnot⟩

/-- **What is outstanding after the expired leases of a scope** was so before,
    and is no expired lease of the scope. -/
theorem outstanding_releaseExpired {scope : String} (hl : Balanced l)
    (h : releaseExpiredConcurrencyLeases now l scope = .ok l') (hx : x ∈ l'.reservations)
    (hout : x.outstanding = true) : x ∈ l.reservations ∧ x.leaseOver scope now = false := by
  obtain ⟨hx₀, hnot⟩ := outstanding_releaseLeases hl
    (hl.unique_reservations.sublist (filter_sublist.map _))
    (fun r hr => ⟨mem_of_mem_filter hr, (leaseOver_iff.1 (of_mem_filter hr)).2.2.1⟩)
    h hx hout
  refine ⟨hx₀, ?_⟩
  rw [← Bool.not_eq_true]
  exact fun hover => hnot (mem_filter.2 ⟨hx₀, hover⟩)

theorem outstanding_expiry {scopes : List String} (hl : Balanced l)
    (h : scopes.foldlM (releaseExpiredConcurrencyLeases now) l = .ok l')
    (hx : x ∈ l'.reservations) (hout : x.outstanding = true) :
    x ∈ l.reservations ∧ ∀ scope ∈ scopes, x.leaseOver scope now = false := by
  induction scopes generalizing l with
  | nil =>
    obtain rfl := Except.ok.inj h
    exact ⟨hx, fun _ h => absurd h not_mem_nil⟩
  | cons scope scopes ih =>
    rw [foldlM_cons] at h
    obtain ⟨l₁, h₁, h⟩ := bind_eq_ok.1 h
    obtain ⟨hx₁, hrest⟩ := ih (balanced_releaseExpired hl h₁).1 h
    obtain ⟨hx₀, hover⟩ := outstanding_releaseExpired hl h₁ hx₁ hout
    exact ⟨hx₀, forall_mem_cons.2 ⟨hover, hrest⟩⟩

theorem identities_releaseLeases
    (h : rows.foldlM (releaseLease now) l = .ok l') : l'.identities = l.identities := by
  refine foldlM_keeps (P := fun l' => l'.identities = l.identities) (fun r _ l₁ l₂ h₁ h₂ => ?_) rfl h
  rw [← h₁, releaseLease_eq_ok h₂]
  rfl

theorem identities_expiry {scopes : List String}
    (h : scopes.foldlM (releaseExpiredConcurrencyLeases now) l = .ok l') :
    l'.identities = l.identities :=
  foldlM_keeps (P := fun l' => l'.identities = l.identities)
    (fun _ _ _ _ h₁ h₂ => (identities_releaseLeases h₂).trans h₁) rfl h

theorem mem_accountScopes (hspec : spec ∈ specs) :
    spec.bucket.pool.accountScope ∈ accountScopes specs := by
  rw [accountScopes, mem_sortBy, mem_dedup]
  exact mem_map_of_mem hspec

/-! ## The active baseline -/

theorem baselineForReservation_eq_ok {bs' : List Baseline}
    (h : baselineForReservation env bs spec now = .ok (bs', found)) :
    found = activeBaseline bs' spec now ∧
      (bs' = bs ∨ ∃ b, b.pool = spec.bucket.pool ∧ bs' = insertBaseline b bs) := by
  unfold baselineForReservation at h
  cases hactive : activeBaseline bs spec now with
  | some b =>
    rw [hactive] at h
    cases h
    exact ⟨hactive.symm, .inl rfl⟩
  | none =>
    simp only [hactive] at h
    by_cases hlocal : strip spec.baselineMode = "local_zero"
    · rw [if_pos hlocal] at h
      split_ifs at h
      cases h
      exact ⟨rfl, .inr ⟨_, rfl, rfl⟩⟩
    · rw [if_neg hlocal] at h
      cases hprior : priorBaseline bs spec now with
      | none =>
        simp only [hprior] at h
        cases h
        exact ⟨hactive.symm, .inl rfl⟩
      | some rolloverAt =>
        simp only [hprior] at h
        split_ifs at h
        · cases h
          exact ⟨rfl, .inr ⟨_, rfl, rfl⟩⟩
        · cases h
          exact ⟨hactive.symm, .inl rfl⟩

theorem activeBaseline_insert (h : b.pool ≠ spec.bucket.pool) :
    activeBaseline (insertBaseline b bs) spec now = activeBaseline bs spec now := by
  have hinactive : decide (spec.baselineActive now b) = false :=
    decide_eq_false fun hactive => h hactive.1.1
  unfold insertBaseline insertNew
  split_ifs
  · rfl
  · rw [Option.getD_some, activeBaseline, filter_append, filter_singleton, hinactive,
      cond_false, append_nil]
    rfl

theorem activeBaseline_of_other {spec' : QuotaSpec} {bs' : List Baseline} (h : baselineForReservation env bs spec' now = .ok (bs', found))
    (hpool : spec'.bucket.pool ≠ spec.bucket.pool) :
    activeBaseline bs' spec now = activeBaseline bs spec now := by
  obtain ⟨-, rfl | ⟨b, hb, rfl⟩⟩ := baselineForReservation_eq_ok h
  · rfl
  · exact activeBaseline_insert (hb ▸ hpool)

/-- Every metered entry has found the baseline that is active. -/
def Preparation.Based (p : Preparation) (now : Micros) : Prop :=
  ∀ c ∈ p.charged, c.1.releaseOnly = false → ∃ b, p.baselines c.1.bucket = some b ∧
    activeBaseline p.ledger.baselines c.1 now = some b

/-- **The first loop finds the active baselines**: entries of other dimensions do
    not change the one that an entry has found. -/
theorem baselines_loop (hp : p.Based now)
    (hn : ((p.charged ++ specs.map (chargeFor unitsOf now p.ledger)).map
      (·.1.bucket.pool.dimension)).Nodup)
    (h : specs.foldlM (prepareSpec env unitsOf now) p = .ok p') : p'.Based now := by
  induction specs generalizing p with
  | nil =>
    obtain rfl := Except.ok.inj h
    exact hp
  | cons spec specs ih =>
    rw [foldlM_cons] at h
    have hother : ∀ c ∈ p.charged, c.1.bucket.pool.dimension ≠
        (chargeFor unitsOf now p.ledger spec).1.bucket.pool.dimension := by
      rw [map_append, nodup_append] at hn
      exact fun c hc => hn.2.2 _ (mem_map_of_mem hc) _
        (mem_map_of_mem (mem_map_of_mem mem_cons_self))
    rw [map_cons, append_cons] at hn
    obtain ⟨q, hq, h⟩ := bind_eq_ok.1 h
    rcases prepareSpec_eq_ok hq with ⟨hrelease, rfl⟩ | ⟨bs, b, hfound, rfl⟩
    · refine ih (p := p.opening _) (fun c hc hmetered => ?_) hn h
      rcases mem_append.1 hc with hc | hc
      · exact hp c hc hmetered
      · obtain rfl := mem_singleton.1 hc
        rw [hrelease] at hmetered
        cases hmetered
    · refine ih (fun c hc hmetered => ?_) hn h
      rcases mem_append.1 hc with hc | hc
      · obtain ⟨b', hb', hactive⟩ := hp c hc hmetered
        have hne : (chargeFor unitsOf now p.ledger spec).1.bucket.pool ≠ c.1.bucket.pool :=
          fun hpool => hother c hc (hpool ▸ rfl)
        refine ⟨b', ?_, (activeBaseline_of_other hfound hne).trans hactive⟩
        exact (Function.update_of_ne (fun hb => hne (congrArg Bucket.pool hb.symm)) _ _).trans hb'
      · obtain rfl := mem_singleton.1 hc
        exact ⟨b, Function.update_self _ _ _, (baselineForReservation_eq_ok hfound).1.symm⟩

/-! ## The units that admission reads -/

def QuotaSpec.outstandingUnits (spec : QuotaSpec) (now : Micros) (rs : List Reservation) : ℤ :=
  (rs.map fun r =>
    if r.bucket.pool = spec.bucket.pool ∧ r.outstanding = true ∧ spec.InWindow now r
    then r.reservedUnits else 0).sum

/-- The usage is the baseline, what was settled since, and what is outstanding. -/
theorem usage_eq (spec : QuotaSpec) (now : Micros) (rs : List Reservation) (b : Baseline) :
    spec.usage now rs b =
      b.usedUnits + settledUnitsSinceBaseline rs spec now b + spec.outstandingUnits now rs := by
  unfold QuotaSpec.usage settledUnitsSinceBaseline QuotaSpec.outstandingUnits
  rw [add_assoc, ← sum_map_add]
  refine congrArg (b.usedUnits + ·) (congrArg List.sum (map_congr_left fun r _ => ?_))
  unfold QuotaSpec.Counts
  by_cases hpool : r.bucket.pool = spec.bucket.pool
  · by_cases hwindow : spec.InWindow now r
    · by_cases hout : r.outstanding = true
      · have hnot : r.state ≠ .settled := fun hsettled => by
          simp [Reservation.outstanding, hsettled] at hout
        simp [hpool, hwindow, hout, hnot]
      · simp [hpool, hwindow, hout]
    · simp [hwindow]
  · simp [hpool]

def Reservation.openUnits (r : Reservation) : ℤ := if r.outstanding then r.reservedUnits else 0

theorem heldIn_eq (r : Reservation) (b : Bucket) :
    r.heldIn b = if r.bucket = b then r.openUnits else 0 := by
  unfold Reservation.heldIn Reservation.openUnits
  rw [ite_and]

theorem openUnits_nonneg (h : 0 ≤ r.reservedUnits) : 0 ≤ r.openUnits := by
  unfold Reservation.openUnits
  split_ifs
  · exact h
  · exact le_refl 0

/-- **The buckets that are read hold the units in the window**, where they hold
    every reservation in it. -/
theorem outstandingUnits_le (hnonneg : ∀ r ∈ rs, 0 ≤ r.reservedUnits)
    (P : Bucket → Prop) [DecidablePred P]
    (hreads : ∀ r ∈ rs, r.outstanding = true → r.bucket.pool = spec.bucket.pool →
      spec.InWindow now r → 0 < r.reservedUnits → P r.bucket) :
    spec.outstandingUnits now rs ≤
      (rs.map fun r => if P r.bucket then r.openUnits else 0).sum := by
  refine sum_le_sum fun r hr => ?_
  have hopen := openUnits_nonneg (hnonneg r hr)
  have hzero : 0 ≤ if P r.bucket then r.openUnits else 0 := by
    split_ifs
    · exact hopen
    · exact le_refl 0
  by_cases hcounts : r.bucket.pool = spec.bucket.pool ∧ r.outstanding = true ∧ spec.InWindow now r
  · rw [if_pos hcounts]
    obtain ⟨hpool, hout, hwindow⟩ := hcounts
    rcases (hnonneg r hr).eq_or_lt with hunits | hunits
    · exact hunits ▸ hzero
    · rw [if_pos (hreads r hr hout hpool hwindow hunits), Reservation.openUnits, if_pos hout]
  · rw [if_neg hcounts]
    exact hzero

theorem heldUnits_eq_sum (rs : List Reservation) (b : Bucket) :
    heldUnits rs b = (rs.map fun r => if r.bucket = b then r.openUnits else 0).sum :=
  congrArg List.sum (map_congr_left fun r _ => heldIn_eq r b)

theorem sum_windows_eq (hl : Balanced l) (P : Bucket → Prop) [DecidablePred P] :
    ((l.windows.filter fun w => decide (P w.bucket)).map (·.reservedUnits)).sum =
      (l.reservations.map fun r => if P r.bucket then r.openUnits else 0).sum := by
  rw [← sum_map_sum_ite hl.unique_windows hl.bound P]
  refine congrArg List.sum (map_congr_left fun w hw => ?_)
  rw [hl.balance w (mem_of_mem_filter hw)]
  exact heldUnits_eq_sum l.reservations w.bucket

/-! ## Admission -/

def Preparation.reserved (p : Preparation) (now : Micros) (spec : QuotaSpec) : ℤ :=
  if spec.rolling then
    ((p.ledger.windows.filter fun w => decide (spec.overlaps now w.bucket)).map
      (·.reservedUnits)).sum
  else (p.windows spec.bucket).elim 0 (·.reservedUnits)

theorem checkCapacity_metered {c : QuotaSpec × ℤ} (hmetered : c.1.releaseOnly = false)
    (hunits : 0 < c.2) (hb : p.baselines c.1.bucket = some b)
    (h : checkCapacity p now c = .ok ()) :
    p.reserved now c.1 + (b.usedUnits + settledUnitsSinceBaseline p.ledger.reservations c.1 now b) +
      c.2 ≤ c.1.limitUnits := by
  unfold checkCapacity at h
  rw [if_neg fun hskip => hskip.1.not_gt hunits] at h
  by_cases hlimit : 0 < c.2 ∧ c.1.limitUnits - p.used now c.1 c.2 < c.2
  · rw [if_pos hlimit] at h
    cases h
  · have hle := not_lt.1 fun hlt => hlimit ⟨hunits, hlt⟩
    have hused : p.used now c.1 c.2 = p.reserved now c.1 +
        (b.usedUnits + settledUnitsSinceBaseline p.ledger.reservations c.1 now b) := by
      unfold Preparation.used Preparation.reserved
      simp [hmetered, hunits, hb]
    rw [hused] at hle
    omega

theorem outstandingUnits_le_reserved (hl : Balanced l₁) (hp : Prepared l₁ p)
    (hopened : (p.windows spec.bucket).isSome)
    (hreads : ∀ r ∈ l₁.reservations, r.outstanding = true → r.bucket.pool = spec.bucket.pool →
      spec.InWindow now r → 0 < r.reservedUnits → spec.Reads now r.bucket) :
    spec.outstandingUnits now l₁.reservations ≤ p.reserved now spec := by
  unfold Preparation.reserved
  unfold QuotaSpec.Reads at hreads
  by_cases hrolling : spec.rolling = true
  · simp only [if_pos hrolling] at hreads ⊢
    rw [sum_windows_eq hp.balanced, hp.reservations]
    exact outstandingUnits_le hl.nonneg _ hreads
  · simp only [if_neg hrolling] at hreads ⊢
    obtain ⟨w, hw⟩ := Option.isSome_iff_exists.1 hopened
    rw [hw, Option.elim_some, hp.read _ w hw, heldUnits_eq_sum]
    exact outstandingUnits_le hl.nonneg (· = spec.bucket) hreads

theorem inWindow_newReservation (hseconds : 0 ≤ spec.bucket.windowSeconds) (units : ℤ) :
    spec.InWindow now (newReservation id now (spec, units)) := by
  unfold QuotaSpec.InWindow
  split_ifs
  · change now - spec.bucket.windowSeconds * 1000000 ≤ now
    exact sub_le_self now (mul_nonneg hseconds (by decide))
  · rfl

theorem settledUnits_charged :
    settledUnitsSinceBaseline (rs ++ cs.map (newReservation id now)) spec now b =
      settledUnitsSinceBaseline rs spec now b := by
  unfold settledUnitsSinceBaseline
  rw [map_append, sum_append, add_eq_left]
  refine sum_eq_zero fun z hz => ?_
  obtain ⟨r, hr, rfl⟩ := mem_map.1 hz
  obtain ⟨c, -, rfl⟩ := mem_map.1 hr
  exact if_neg fun hsettled => by cases hsettled.2.1

theorem outstandingUnits_charged {units : ℤ}
    (hseconds : 0 ≤ spec.bucket.windowSeconds) (hmem : (spec, units) ∈ cs)
    (hn : (cs.map (·.1.bucket.pool.dimension)).Nodup) :
    spec.outstandingUnits now (rs ++ cs.map (newReservation id now)) =
      spec.outstandingUnits now rs + units := by
  unfold QuotaSpec.outstandingUnits
  rw [map_append, sum_append, map_map]
  refine congrArg (_ + ·) ?_
  have hterm : ∀ c ∈ cs, ((fun r : Reservation =>
      if r.bucket.pool = spec.bucket.pool ∧ r.outstanding = true ∧ spec.InWindow now r
      then r.reservedUnits else 0) ∘ newReservation id now) c =
      if spec.bucket.pool.dimension = c.1.bucket.pool.dimension then units else 0 := by
    intro c hc
    by_cases hdim : spec.bucket.pool.dimension = c.1.bucket.pool.dimension
    · obtain rfl : (spec, units) = c := inj_on_of_nodup_map hn hmem hc hdim
      rw [if_pos hdim]
      exact if_pos ⟨rfl, rfl, inWindow_newReservation hseconds units⟩
    · rw [if_neg hdim]
      exact if_neg fun hcounts => hdim (congrArg Pool.dimension hcounts.1).symm
  have hsum := Lib.sum_map_ite hn (mem_map_of_mem hmem) (fun _ => True) units
  rw [map_congr_left hterm]
  simpa using hsum

/-- **The limit covers an admitted reservation**, where admission sees every
    reservation in the active window. -/
theorem usage_le_limit (hl : Balanced l) (hunits : ∀ spec ∈ specs, 0 ≤ unitsOf spec)
    (h : ReservationSteps env unitsOf specs id now l l₁ p l') (hspec : spec ∈ specs)
    (hseconds : 0 ≤ spec.bucket.windowSeconds) (hmetered : spec.releaseOnly = false)
    (hpos : 0 < unitsOf spec) (hcharged : spec.IsCharged now l) (hsees : spec.SeesAll now l) :
    ∃ b, activeBaseline l'.baselines spec now = some b ∧
      spec.usage now l'.reservations b ≤ spec.limitUnits := by
  obtain ⟨hbal, -, hp, hcs, hloop⟩ := h.loops hl hunits
  have hn := (charge_dimensions h.charged).2
  have hidentities : l₁.identities = l.identities := identities_expiry h.expired
  have hmem : (spec, unitsOf spec) ∈ p.charged := by
    rw [hcs]
    refine mem_map.2 ⟨spec, hspec, ?_⟩
    rw [chargeFor_congr hidentities, chargeFor, hcharged]
  obtain ⟨b, hb, hactive⟩ := baselines_loop (p := { ledger := l₁ })
    (fun _ hc => absurd hc not_mem_nil) (by rw [nil_append, ← hcs]; exact hn) h.prepared
    _ hmem hmetered
  refine ⟨b, hloop.baselines ▸ hactive, ?_⟩
  have hreads : spec.outstandingUnits now l₁.reservations ≤ p.reserved now spec := by
    refine outstandingUnits_le_reserved hbal hp (hp.opened _ hmem).2 ?_
    intro r hr hout hpool hwindow hr0
    obtain ⟨hr', hover⟩ := outstanding_expiry hl h.expired hr hout
    exact hsees r hr' hout hpool hwindow hr0 (hover _ (mem_accountScopes hspec))
  have hcheck : p.reserved now spec + (b.usedUnits +
      settledUnitsSinceBaseline p.ledger.reservations spec now b) + unitsOf spec ≤
        spec.limitUnits := checkCapacity_metered hmetered hpos hb (h.capacity _ hmem)
  rw [usage_eq, hloop.reservations, outstandingUnits_charged hseconds hmem hn, settledUnits_charged]
  rw [hp.reservations] at hcheck ⊢
  linarith

theorem nonneg_of_mem_dimensionSpecs {req : QuotaRequest}
    (h : dimensionSpecs env req now = .ok specs) (hspec : spec ∈ specs) :
    0 < spec.bucket.windowSeconds := by
  obtain ⟨d, hd, hd'⟩ := mem_dimensionSpecs h hspec
  obtain ⟨-, -, window, lease, scope, -, -, -, rfl⟩ := dimensionSpec_eq_some hd'
  exact (pos_of_mem_quotaDimensions hd).2

/-- **Quota admission.**  In every ledger that calls lead to, a reservation that
    is admitted leaves every metered dimension it is charged for within its
    limit, where admission sees every reservation in the active window. -/
theorem quota_admission {calls : List QuotaCall} (req : QuotaRequest) (id : String)
    (h : Run (QuotaStep env) {} calls l) (hspecs : dimensionSpecs env req now = .ok specs)
    (hok : reserveProviderQuota env req id now l = .ok l') (hspec : spec ∈ specs)
    (hmetered : spec.releaseOnly = false) (hcharged : spec.IsCharged now l)
    (hsees : spec.SeesAll now l) :
    ∃ b, activeBaseline l'.baselines spec now = some b ∧
      spec.usage now l'.reservations b ≤ spec.limitUnits := by
  obtain ⟨hl, -⟩ := balanced_run balanced_empty h
  have hpos : ∀ spec ∈ specs, 0 < spec.units :=
    fun spec hspec => (chargeable_of_mem_dimensionSpecs hspecs hspec).pos
  rcases reserveProviderQuota_cases env req id now l with ⟨e, he⟩ | ⟨specs', hspecs', heq⟩
  · rw [he] at hok
    cases hok
  · obtain rfl := Except.ok.inj (hspecs.symm.trans hspecs')
    obtain ⟨l₁, p, hsteps⟩ := reserveSpecs_eq_ok.1 (heq.symm.trans hok)
    exact usage_le_limit hl (fun spec hspec => (hpos spec hspec).le) hsteps hspec
      (nonneg_of_mem_dimensionSpecs hspecs hspec).le hmetered (hpos spec hspec) hcharged hsees

def requestsInAnyMinute : ProviderPolicy where
  quotaContract :=
    { requestsPerMinute.quotaContract with reset := "rolling" }

/-- The plan entry of a request for bars, in the window row of a second. -/
def barSpec (units start : ℤ) : QuotaSpec where
  providerName := "polygon"
  operation := "fetch_bars"
  bucket := { pool := ⟨"polygon", "bars", "requests"⟩, windowStartedAt := start, windowSeconds := 60 }
  unit := "requests"
  reset := "rolling"
  rolling := true
  limitUnits := 10
  baselineMode := "local_zero"
  applicationUsageOnly := true
  units := units
  releaseOnly := false
  leaseExpiresAt := none
  identityDigest := none

def barsRequest (units : ℤ) : QuotaRequest :=
  { barRequest requestsInAnyMinute with dimensionUnits := fun _ => some units }

/-- One reservation for all units, half a second after the start of its window row. -/
def wholeLimit : List QuotaCall := [.reserve (barsRequest 10) "first" 500000]

def twiceTheLimit : Ledger :=
  ledgerAfter plainCoordinator {} (wholeLimit ++ [.reserve (barsRequest 10) "second" 60200000])

theorem quota_admission_bars :
    ∃ b, activeBaseline (ledgerAfter plainCoordinator {} [.reserve (barsRequest 4) "first" 500000,
          .reserve (barsRequest 6) "second" 30200000]).baselines (barSpec 6 30000000) 30200000 =
        some b ∧
      (barSpec 6 30000000).usage 30200000 (ledgerAfter plainCoordinator {}
        [.reserve (barsRequest 4) "first" 500000,
          .reserve (barsRequest 6) "second" 30200000]).reservations b ≤ 10 :=
  quota_admission (barsRequest 6) "second"
    (run_ledgerAfter plainCoordinator {} [.reserve (barsRequest 4) "first" 500000])
    (show _ = Except.ok [barSpec 6 30000000] by decide +kernel) (by decide +kernel) (by decide) rfl
    rfl (by decide +kernel)

/-- **More than the limit is admitted**: the row of the first reservation has
    left the window, the reservation has not. -/
theorem quota_overAdmission :
    Run (QuotaStep plainCoordinator) {} wholeLimit (ledgerAfter plainCoordinator {} wholeLimit) ∧
      dimensionSpecs plainCoordinator (barsRequest 10) 60200000 = .ok [barSpec 10 60000000] ∧
      reserveProviderQuota plainCoordinator (barsRequest 10) "second" 60200000
        (ledgerAfter plainCoordinator {} wholeLimit) = .ok twiceTheLimit ∧
      ∃ b, activeBaseline twiceTheLimit.baselines (barSpec 10 60000000) 60200000 = some b ∧
        (barSpec 10 60000000).usage 60200000 twiceTheLimit.reservations b = 20 ∧
        (barSpec 10 60000000).limitUnits = 10 :=
  ⟨run_ledgerAfter _ _ _, by decide +kernel, by decide +kernel,
    localZeroBaseline plainCoordinator (barSpec 10 0) 500000, by decide +kernel, by decide +kernel,
    rfl⟩

end

end ChartingPlatform
