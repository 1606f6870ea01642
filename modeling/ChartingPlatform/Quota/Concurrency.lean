/-
  Slots for calls in flight.

  An entry for calls in flight takes one unit of one bucket until its lease is
  over.  Admission looks at the bucket of the clock only.
-/
import ChartingPlatform.Quota.Admission

namespace ChartingPlatform

open Lib List

/-- The reservation is pending, or uncertain under a lease that has not run out. -/
def Reservation.holdsSlot (t : Micros) (r : Reservation) : Bool :=
  decide (r.state = .pending) ||
    decide (r.state = .uncertain) && r.leaseExpiresAt.any fun e => decide (t < e)

def slotsTaken (k : Pool) (t : Micros) (rs : List Reservation) : ℕ :=
  rs.countP fun r => decide (r.bucket.pool = k) && r.holdsSlot t

def outstandingCount (k : Pool) (rs : List Reservation) : ℕ :=
  rs.countP fun r => decide (r.bucket.pool = k) && r.outstanding

def QuotaCall.UsesSlots (env : Coordinator) (k : Pool) (limit : ℕ) (l : Ledger)
    (call : QuotaCall) : Prop :=
  ∀ specs, call.plan env l = .ok specs → ∀ spec ∈ specs, spec.bucket.pool = k →
    spec.releaseOnly = true ∧ spec.limitUnits ≤ limit

/-- A call that is admitted finds the live leases of the pool in the bucket it reserves in. -/
def QuotaCall.SeesLeases (env : Coordinator) (k : Pool) (l : Ledger) (call : QuotaCall) : Prop :=
  call.Admits env l → ∀ specs, call.plan env l = .ok specs → ∀ spec ∈ specs, spec.bucket.pool = k →
    ∀ r ∈ l.reservations, r.bucket.pool = k → r.outstanding = true →
      r.leaseOver k.accountScope call.clock = false → r.bucket = spec.bucket

def SlotStep (env : Coordinator) (k : Pool) (limit : ℕ) (l : Ledger) (call : QuotaCall)
    (l' : Ledger) : Prop :=
  QuotaStep env l call l' ∧ call.UsesSlots env k limit l ∧ call.SeesLeases env k l

section
variable {env : Coordinator} {k : Pool} {limit : ℕ} {l l₁ l' : Ledger} {r x : Reservation}
  {now : Micros} {spec : QuotaSpec} {specs : List QuotaSpec} {unitsOf : QuotaSpec → ℤ}
  {p : Preparation} {id : String} {call : QuotaCall} {cs : List (QuotaSpec × ℤ)}

theorem slotsTaken_le (k : Pool) (t : Micros) (rs : List Reservation) :
    slotsTaken k t rs ≤ outstandingCount k rs := by
  refine countP_mono_left fun r _ h => ?_
  obtain ⟨hk, hslot⟩ := Bool.and_eq_true_iff.1 h
  refine Bool.and_eq_true_iff.2 ⟨hk, ?_⟩
  rcases Bool.or_eq_true_iff.1 hslot with hpending | hlease
  · exact Bool.or_eq_true_iff.2 (.inl hpending)
  · exact Bool.or_eq_true_iff.2 (.inr (Bool.and_eq_true_iff.1 hlease).1)

/-- The pool holds slots of one unit, and at most `limit` of them. -/
structure SlotsBounded (k : Pool) (limit : ℕ) (l : Ledger) : Prop where
  balanced : Balanced l
  slot : ∀ r ∈ l.reservations, r.bucket.pool = k → r.releaseOnly = true ∧ 1 ≤ r.reservedUnits
  bound : outstandingCount k l.reservations ≤ limit

theorem slotsBounded_empty : SlotsBounded k limit {} where
  balanced := balanced_empty
  slot _ h := absurd h not_mem_nil
  bound := Nat.zero_le limit

theorem SlotsBounded.of_eq (h : SlotsBounded k limit l) (hl' : Balanced l')
    (hr : l'.reservations = l.reservations) : SlotsBounded k limit l' :=
  ⟨hl', hr ▸ h.slot, hr ▸ h.bound⟩

theorem SlotsBounded.update (h : SlotsBounded k limit l) (hl' : Balanced l')
    (hr : r ∈ l.reservations) (hout : r.outstanding = true) {f : Reservation → Reservation}
    (hres : l'.reservations = updateRow Reservation.key r.key f l.reservations)
    (hbucket : ∀ x, (f x).bucket = x.bucket) (hrelease : ∀ x, (f x).releaseOnly = x.releaseOnly)
    (hunits : r.releaseOnly = true → (f r).reservedUnits = r.reservedUnits) :
    SlotsBounded k limit l' := by
  have hsame : ∀ x ∈ l.reservations, x.key = r.key → x = r :=
    fun x hx hk => inj_on_of_nodup_map h.balanced.unique_reservations hx hr hk
  refine ⟨hl', fun y hy hk => ?_, ?_⟩
  · rw [hres] at hy
    obtain ⟨x, hx, ⟨hkey, rfl⟩ | ⟨-, rfl⟩⟩ := mem_updateRow.1 hy
    · obtain rfl := hsame x hx hkey
      obtain ⟨hslot, hone⟩ := h.slot x hx (hbucket x ▸ hk)
      exact ⟨(hrelease x).trans hslot, hunits hslot ▸ hone⟩
    · exact h.slot _ hx hk
  · rw [hres, outstandingCount, updateRow, countP_map]
    refine le_trans (countP_mono_left fun x hx hcounts => ?_) h.bound
    rw [Function.comp_apply] at hcounts
    split_ifs at hcounts with hkey
    · obtain rfl := hsame x hx hkey
      rw [hbucket] at hcounts
      exact Bool.and_eq_true_iff.2 ⟨(Bool.and_eq_true_iff.1 hcounts).1, hout⟩
    · exact hcounts

/-! ## Expired leases and settlements -/

theorem SlotsBounded.releaseExpired {scope : String} (h : SlotsBounded k limit l)
    (hexpired : releaseExpiredConcurrencyLeases now l scope = .ok l') :
    SlotsBounded k limit l' := by
  refine rowLoop (l.reservations.filter (·.leaseOver scope now)) ?_ (fun r hr => hr)
    (h.balanced.unique_reservations.sublist (filter_sublist.map _))
    (fun r hr => mem_of_mem_filter hr) h hexpired
  intro l₁ r l₂ hP hr hmem h₂
  obtain rfl := releaseLease_eq_ok h₂
  have hout := (leaseOver_iff.1 (of_mem_filter hmem)).2.2.1
  refine ⟨?_, others_update _ _⟩
  exact hP.update (hP.balanced.close hr hout _ _ (fun _ => rfl) (fun _ => rfl)
    (hP.balanced.nonneg r hr) rfl (fun _ => rfl) fun _ => rfl) hr hout rfl (fun _ => rfl)
    (fun _ => rfl) fun _ => rfl

theorem SlotsBounded.expiry {scopes : List String} (h : SlotsBounded k limit l)
    (hexpired : scopes.foldlM (releaseExpiredConcurrencyLeases now) l = .ok l') :
    SlotsBounded k limit l' :=
  foldlM_keeps (fun _ _ _ _ h₁ h₂ => h₁.releaseExpired h₂) h hexpired

theorem SlotsBounded.settle {s : Settlement} (h : SlotsBounded k limit l)
    (hsettled : settleProviderQuota id s now l = .ok l') : SlotsBounded k limit l' := by
  refine rowLoop (l.pendingOf id) ?_ (fun r hr => hr)
    (h.balanced.unique_reservations.sublist (filter_sublist.map _))
    (fun r hr => (mem_pendingOf.1 hr).1) h hsettled
  intro l₁ r l₂ hP hr hmem h₂
  have hpending := (mem_pendingOf.1 hmem).2.2
  have hout : r.outstanding = true := by simp [Reservation.outstanding, hpending]
  obtain ⟨hbal, -, hothers⟩ := balanced_settleRow hP.balanced hr hpending h₂
  refine ⟨?_, hothers⟩
  obtain ⟨l₃, h₃, -, hres, -⟩ := settleRow_eq_ok h₂
  rcases settleUnits_cases h₃ with ⟨-, rfl⟩ | ⟨-, rfl⟩ | ⟨hmetered, -, rfl⟩
  · exact hP.update hbal hr hout hres (fun _ => rfl) (fun _ => rfl) fun _ => rfl
  · exact hP.update hbal hr hout hres (fun _ => rfl) (fun _ => rfl) fun _ => rfl
  · refine hP.update hbal hr hout hres (fun _ => rfl) (fun _ => rfl) fun hrelease => ?_
    rw [hmetered] at hrelease
    cases hrelease

/-! ## Reservations -/

theorem dimension_chargeFor (unitsOf : QuotaSpec → ℤ) (now : Micros) (l : Ledger)
    (spec : QuotaSpec) : (chargeFor unitsOf now l spec).1.bucket.pool = spec.bucket.pool := by
  rcases chargeFor_spec unitsOf now l spec with h | ⟨-, start, h⟩
  · rw [h]
  · rw [h]
    rfl

theorem chargeFor_of_none (h : spec.identityDigest = none) :
    chargeFor unitsOf now l spec = (spec, unitsOf spec) := by
  rw [chargeFor, h]
  rfl

theorem outstandingCount_new (k : Pool) (id : String) (now : Micros)
    (hn : (cs.map (·.1.bucket.pool.dimension)).Nodup) :
    outstandingCount k (cs.map (newReservation id now)) ≤ 1 := by
  rw [outstandingCount, countP_map]
  refine le_trans ?_ (nodup_iff_count_le_one.1 hn k.dimension)
  rw [List.count, countP_map]
  refine countP_mono_left fun c _ h => ?_
  have hk : c.1.bucket.pool = k := of_decide_eq_true (Bool.and_eq_true_iff.1 h).1
  exact beq_iff_eq.2 (congrArg Pool.dimension hk)

theorem outstandingCount_new_eq_zero (id : String) (now : Micros)
    (h : ∀ c ∈ cs, c.1.bucket.pool ≠ k) :
    outstandingCount k (cs.map (newReservation id now)) = 0 := by
  refine countP_eq_zero.2 fun r hr hcounts => ?_
  obtain ⟨c, hc, rfl⟩ := mem_map.1 hr
  exact h c hc (of_decide_eq_true (Bool.and_eq_true_iff.1 hcounts).1)

theorem outstandingCount_le {rs : List Reservation} {b : Bucket}
    (hnonneg : ∀ r ∈ rs, 0 ≤ r.reservedUnits)
    (h : ∀ r ∈ rs, r.bucket.pool = k → r.outstanding = true →
      r.bucket = b ∧ 1 ≤ r.reservedUnits) : (outstandingCount k rs : ℤ) ≤ heldUnits rs b := by
  induction rs with
  | nil => exact le_refl 0
  | cons r rs ih =>
    have hrest := ih (fun x hx => hnonneg x (mem_cons_of_mem r hx))
      fun x hx => h x (mem_cons_of_mem r hx)
    have hheld : heldUnits (r :: rs) b = r.heldIn b + heldUnits rs b := rfl
    rw [outstandingCount, countP_cons, hheld]
    by_cases hcounts : (decide (r.bucket.pool = k) && r.outstanding) = true
    · obtain ⟨hk, hout⟩ := Bool.and_eq_true_iff.1 hcounts
      obtain ⟨rfl, hone⟩ := h r mem_cons_self (of_decide_eq_true hk) hout
      rw [if_pos hcounts, heldIn_self hout]
      push_cast
      unfold outstandingCount at hrest
      omega
    · rw [if_neg hcounts]
      have hheldIn := heldIn_nonneg (b := b) (hnonneg r mem_cons_self)
      unfold outstandingCount at hrest
      omega

theorem SlotsBounded.admitted (h : SlotsBounded k limit l)
    (hunits : ∀ spec ∈ specs, 0 ≤ unitsOf spec)
    (hspecs : ∀ spec ∈ specs, spec.bucket.pool = k → spec.releaseOnly = true ∧
      spec.limitUnits ≤ limit ∧ spec.identityDigest = none ∧ unitsOf spec = 1 ∧
      ∀ r ∈ l.reservations, r.bucket.pool = k → r.outstanding = true →
        r.leaseOver k.accountScope now = false → r.bucket = spec.bucket)
    (hsteps : ReservationSteps env unitsOf specs id now l l₁ p l') : SlotsBounded k limit l' := by
  have h₁ := h.expiry hsteps.expired
  obtain ⟨-, -, hp, hcs, hloop⟩ := hsteps.loops h.balanced hunits
  have hn := (charge_dimensions hsteps.charged).2
  have hcharged : ∀ c ∈ p.charged, c.1.bucket.pool = k → c.1 ∈ specs ∧ c.2 = 1 := by
    intro c hc hk
    rw [hcs] at hc
    obtain ⟨spec, hspec, rfl⟩ := mem_map.1 hc
    rw [dimension_chargeFor] at hk
    obtain ⟨-, -, hnone, hone, -⟩ := hspecs spec hspec hk
    rw [chargeFor_of_none hnone]
    exact ⟨hspec, hone⟩
  refine ⟨hloop.balanced, ?_, ?_⟩
  · rw [hloop.reservations, hp.reservations]
    intro r hr hk
    rcases mem_append.1 hr with hr | hr
    · exact h₁.slot r hr hk
    · obtain ⟨c, hc, rfl⟩ := mem_map.1 hr
      obtain ⟨hspec, hone⟩ := hcharged c hc hk
      exact ⟨(hspecs c.1 hspec hk).1, hone.ge⟩
  · rw [hloop.reservations, hp.reservations, outstandingCount, countP_append]
    by_cases hpool : ∃ c ∈ p.charged, c.1.bucket.pool = k
    · -- The bucket of the entry holds all live slots of the pool, and has room for one more.
      obtain ⟨c, hc, hk⟩ := hpool
      obtain ⟨hspec, hone⟩ := hcharged c hc hk
      obtain ⟨hrelease, hlimit, -, -, hsees⟩ := hspecs c.1 hspec hk
      have hheld : (outstandingCount k l₁.reservations : ℤ) ≤
          heldUnits l₁.reservations c.1.bucket := by
        refine outstandingCount_le h₁.balanced.nonneg fun r hr hrk hout => ?_
        obtain ⟨hr', hover⟩ := outstanding_expiry h.balanced hsteps.expired hr hout
        have hscope := hover _ (mem_accountScopes hspec)
        rw [hk] at hscope
        exact ⟨hsees r hr' hrk hout hscope, (h₁.slot r hr hrk).2⟩
      have hroom : heldUnits l₁.reservations c.1.bucket + 1 ≤ c.1.limitUnits := by
        obtain ⟨w, hw⟩ := Option.isSome_iff_exists.1 (hp.opened c hc).2
        have hcheck := hsteps.capacity c hc
        unfold checkCapacity at hcheck
        rw [if_neg fun hskip => hskip.1.not_gt (hone ▸ Int.one_pos), hone] at hcheck
        have hused : p.used now c.1 1 = heldUnits l₁.reservations c.1.bucket := by
          unfold Preparation.used
          rw [if_pos hrelease, hw, Option.elim_some, hp.read _ w hw]
        by_cases hfull : 0 < (1 : ℤ) ∧ c.1.limitUnits - p.used now c.1 1 < 1
        · rw [if_pos hfull] at hcheck
          cases hcheck
        · have hle := not_lt.1 fun hlt => hfull ⟨Int.one_pos, hlt⟩
          rw [hused] at hle
          linarith
      have hnew := outstandingCount_new k id now hn
      unfold outstandingCount at hheld hnew
      omega
    · have hzero := outstandingCount_new_eq_zero (k := k) id now
        fun c hc hk => hpool ⟨c, hc, hk⟩
      unfold outstandingCount at hzero
      rw [hzero, add_zero]
      exact h₁.bound

/-! ## Runs -/

theorem chargeable_of_plan (h : call.plan env l = .ok specs) (hspec : spec ∈ specs) :
    spec.Chargeable := by
  cases call with
  | reserve req id now => exact chargeable_of_mem_dimensionSpecs h hspec
  | probe live id now => exact chargeable_of_mem_reservationPlan h hspec
  | settle | expire | reconcile =>
    obtain rfl := Except.ok.inj h
    cases hspec

theorem exists_unitsOf (call : QuotaCall) (hspec : spec ∈ specs) :
    ∃ s ∈ specs, call.unitsOf specs spec = s.units := by
  cases call with
  | probe live id now =>
    obtain ⟨s, hs, -, hunits⟩ := exists_plannedUnits hspec
    exact ⟨s, hs, hunits⟩
  | reserve | settle | expire | reconcile => exact ⟨spec, hspec, rfl⟩

theorem unitsOf_eq (call : QuotaCall) (hn : (specs.map (·.bucket.pool.dimension)).Nodup)
    (hspec : spec ∈ specs) : call.unitsOf specs spec = spec.units := by
  cases call with
  | probe live id now => exact plannedUnits_eq hn hspec
  | reserve | settle | expire | reconcile => rfl

theorem unitsOf_pos (h : call.plan env l = .ok specs) (hspec : spec ∈ specs) :
    0 < call.unitsOf specs spec := by
  obtain ⟨s, hs, hunits⟩ := exists_unitsOf call hspec
  exact hunits ▸ (chargeable_of_plan h hs).pos

theorem nodup_of_admitted (hl : Balanced l) (hunits : ∀ spec ∈ specs, 0 ≤ unitsOf spec)
    (h : ReservationSteps env unitsOf specs id now l l₁ p l') :
    (specs.map (·.bucket.pool.dimension)).Nodup := by
  obtain ⟨-, -, -, hcs, -⟩ := h.loops hl hunits
  have hn := (charge_dimensions h.charged).2
  rw [hcs, map_map] at hn
  refine map_congr_left (fun spec _ => ?_) ▸ hn
  exact congrArg Pool.dimension (dimension_chargeFor unitsOf now l₁ spec)

theorem SlotsBounded.step (h : SlotsBounded k limit l) (hstep : SlotStep env k limit l call l') :
    SlotsBounded k limit l' := by
  obtain ⟨hcommit, huses, hsees⟩ := hstep
  have hbal := (balanced_commit env h.balanced call).1
  have heffect := callEffect env h.balanced call
  rw [← (show l' = call.commit env l from hcommit)] at hbal heffect
  cases heffect with
  | unchanged => exact h
  | denied hplan hexpired hr hi => exact (h.expiry hexpired).of_eq hbal hr
  | admitted hplan hsteps =>
    have hpos : ∀ spec ∈ _, 0 ≤ call.unitsOf _ spec := fun spec hspec => (unitsOf_pos hplan hspec).le
    have hn := nodup_of_admitted h.balanced hpos hsteps
    refine h.admitted hpos (fun spec hspec hk => ?_) hsteps
    obtain ⟨hrelease, hlimit⟩ := huses _ hplan spec hspec hk
    obtain ⟨hone, hnone, -⟩ := (chargeable_of_plan hplan hspec).slot hrelease
    exact ⟨hrelease, hlimit, hnone, (unitsOf_eq call hn hspec).trans hone,
      hsees (admits_of_steps hplan hspec hsteps) _ hplan spec hspec hk⟩
  | settled hsettled => exact h.settle hsettled
  | expired hexpired => exact h.releaseExpired hexpired
  | reconciled hr hi => exact h.of_eq hbal hr

/-- **Concurrency slots.**  Along every run in which each admission finds the live
    leases of the pool in its own bucket, no more slots are taken at any time than
    the limit allows. -/
theorem concurrency_slots {calls : List QuotaCall} (h : Run (SlotStep env k limit) {} calls l)
    (t : Micros) : slotsTaken k t l.reservations ≤ limit :=
  (slotsTaken_le k t l.reservations).trans
    (h.invariant (P := SlotsBounded k limit) SlotsBounded.step slotsBounded_empty).bound

def oneAtATime : ProviderPolicy where
  quotaContract :=
    { reset := "fixed_minute"
      dimensions :=
        [{ name := "in_flight", limit := 1, windowSeconds := 60, unit := "concurrency",
           source := "docs", scope := "account" }] }

def inFlightPool : Pool := ⟨"polygon", "bars", "in_flight"⟩

def inFlightSpec (start now : Micros) : QuotaSpec where
  providerName := "polygon"
  operation := "fetch_bars"
  bucket := { pool := inFlightPool, windowStartedAt := start, windowSeconds := 60 }
  unit := "concurrency"
  reset := "fixed_minute"
  rolling := false
  limitUnits := 1
  baselineMode := ""
  applicationUsageOnly := false
  units := 1
  releaseOnly := true
  leaseExpiresAt := some (now + 40000000)
  identityDigest := none

theorem slotStep_of_plan (call : QuotaCall) (h : call.plan env l = .ok specs)
    (huses : ∀ spec ∈ specs, spec.bucket.pool = k → spec.releaseOnly = true ∧ spec.limitUnits ≤ limit)
    (hsees : ∀ spec ∈ specs, spec.bucket.pool = k → ∀ r ∈ l.reservations, r.bucket.pool = k →
      r.outstanding = true → r.leaseOver k.accountScope call.clock = false →
        r.bucket = spec.bucket) : SlotStep env k limit l call (call.commit env l) := by
  refine ⟨rfl, fun specs' h' => ?_, fun _ specs' h' => ?_⟩
  · obtain rfl := Except.ok.inj (h.symm.trans h')
    exact huses
  · obtain rfl := Except.ok.inj (h.symm.trans h')
    exact hsees

/-- Two calls, the second one after the lease of the first one. -/
def successiveCalls : List QuotaCall :=
  [.reserve (barRequest oneAtATime) "first" 10000000,
    .reserve (barRequest oneAtATime) "second" 60000000]

theorem concurrency_slots_polygon : slotsTaken inFlightPool 65000000
    (ledgerAfter plainCoordinator {} successiveCalls).reservations ≤ 1 := by
  have h : Run (SlotStep plainCoordinator inFlightPool 1) {} successiveCalls
      (ledgerAfter plainCoordinator {} successiveCalls) := by
    exact (Run.nil.snoc (slotStep_of_plan (.reserve (barRequest oneAtATime) "first" 10000000)
      (show _ = Except.ok [inFlightSpec 0 10000000] by decide +kernel)
      (by decide +kernel) (by decide +kernel))).snoc
        (slotStep_of_plan (.reserve (barRequest oneAtATime) "second" 60000000)
          (show _ = Except.ok [inFlightSpec 60000000 60000000] by decide +kernel)
          (by decide +kernel) (by decide +kernel))
  exact concurrency_slots h 65000000

/-- **Two slots of one are taken**: the second call starts in the next minute, the
    lease of the first one runs on. -/
theorem concurrency_overAdmission :
    Run (QuotaStep plainCoordinator) {}
        [.reserve (barRequest oneAtATime) "first" 59000000,
          .reserve (barRequest oneAtATime) "second" 60000000]
        (ledgerAfter plainCoordinator {} [.reserve (barRequest oneAtATime) "first" 59000000,
          .reserve (barRequest oneAtATime) "second" 60000000]) ∧
      (∀ d ∈ oneAtATime.quotaContract.dimensions, d.isInFlight = true ∧ d.limit = 1) ∧
      slotsTaken inFlightPool 60000000 (ledgerAfter plainCoordinator {}
        [.reserve (barRequest oneAtATime) "first" 59000000,
          .reserve (barRequest oneAtATime) "second" 60000000]).reservations = 2 :=
  ⟨run_ledgerAfter _ _ _, by decide +kernel, by decide +kernel⟩

end

end ChartingPlatform
