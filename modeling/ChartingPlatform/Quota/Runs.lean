/-
  Runs of the quota ledger: reservations of the runtime and of live probes,
  settlements, expired leases and reconciled baselines, in any order and at any
  clock values, each of them one transaction.
-/
import ChartingPlatform.Quota.Bookkeeping

namespace ChartingPlatform

open Lib List

inductive QuotaCall where
  | reserve (req : QuotaRequest) (id : String) (now : Micros)
  | probe (live : LiveProbe) (id : String) (now : Micros)
  | settle (id : String) (settlement : Settlement) (now : Micros)
  | expire (scope : String) (now : Micros)
  | reconcile (reconciliation : Reconciliation) (now : Micros)

def committed (l : Ledger) : Except Refusal Ledger → Ledger
  | .ok l' => l'
  | .error (.denied l' _) => l'
  | .error (.raised _) => l

/-- The ledger after a transaction that can only succeed or raise. -/
def keptOnError (l : Ledger) : Except QuotaError Ledger → Ledger
  | .ok l' => l'
  | .error _ => l

def QuotaCall.commit (env : Coordinator) (l : Ledger) : QuotaCall → Ledger
  | .reserve req id now => committed l (reserveProviderQuota env req id now l)
  | .probe live id now => committed l (reserveLiveProviderOperation env live id now l)
  | .settle id s now => keptOnError l (settleProviderQuota id s now l)
  | .expire scope now => keptOnError l (releaseExpiredConcurrencyLeases now l scope)
  | .reconcile rec now => keptOnError l (reconcileProviderQuotaBaseline env rec now l)

def QuotaStep (env : Coordinator) (l : Ledger) (call : QuotaCall) (l' : Ledger) : Prop :=
  l' = call.commit env l

def ledgerAfter (env : Coordinator) (l : Ledger) (calls : List QuotaCall) : Ledger :=
  calls.foldl (fun l call => call.commit env l) l

theorem run_ledgerAfter (env : Coordinator) (l : Ledger) (calls : List QuotaCall) :
    Run (QuotaStep env) l calls (ledgerAfter env l calls) := by
  induction calls using List.reverseRecOn with
  | nil => exact .nil
  | append_singleton calls call ih =>
    have hlast : ledgerAfter env l (calls ++ [call]) = call.commit env (ledgerAfter env l calls) :=
      foldl_append
    exact ih.snoc hlast

section
variable {env : Coordinator} {l l' : Ledger} {call : QuotaCall} {now : Micros}

/-! ## One call -/

theorem sound_committed {result : Except Refusal Ledger} (hl : Balanced l)
    (hok : ∀ l', result = .ok l' → Balanced l' ∧ Keeps l l')
    (herror : ∀ e, result = .error e → e.Sound l) :
    Balanced (committed l result) ∧ Keeps l (committed l result) := by
  cases result with
  | ok l' => exact hok l' rfl
  | error e =>
    cases e with
    | denied l' t => exact herror _ rfl
    | raised e => exact ⟨hl, Keeps.refl l⟩

theorem sound_keptOnError {result : Except QuotaError Ledger} (hl : Balanced l)
    (hok : ∀ l', result = .ok l' → Balanced l' ∧ Keeps l l') :
    Balanced (keptOnError l result) ∧ Keeps l (keptOnError l result) := by
  cases result with
  | ok l' => exact hok l' rfl
  | error e => exact ⟨hl, Keeps.refl l⟩

theorem reserveProviderQuota_cases (env : Coordinator) (req : QuotaRequest) (id : String)
    (now : Micros) (l : Ledger) :
    (∃ e, reserveProviderQuota env req id now l = .error (.raised e)) ∨
      ∃ specs, dimensionSpecs env req now = .ok specs ∧
        reserveProviderQuota env req id now l = reserveSpecs env (·.units) specs id now l := by
  unfold reserveProviderQuota
  cases dimensionSpecs env req now with
  | error e => exact .inl ⟨e, rfl⟩
  | ok specs => exact .inr ⟨specs, rfl, rfl⟩

theorem reserveLiveProviderOperation_cases (env : Coordinator) (probe : LiveProbe) (id : String)
    (now : Micros) (l : Ledger) :
    (∃ e, reserveLiveProviderOperation env probe id now l = .error (.raised e)) ∨
      ∃ specs, reservationPlanForLiveProbe env probe now l = .ok specs ∧
        reserveLiveProviderOperation env probe id now l =
          (reserveSpecs env (plannedUnits specs) specs id now l).mapError .withoutRetry := by
  unfold reserveLiveProviderOperation
  cases reservationPlanForLiveProbe env probe now l with
  | error e => exact .inl ⟨e, rfl⟩
  | ok specs =>
    by_cases h : specs = []
    · exact .inl ⟨_, if_pos h⟩
    · exact .inr ⟨specs, rfl, if_neg h⟩

theorem plannedUnits_pos {probe : LiveProbe} {specs : List QuotaSpec} {spec : QuotaSpec}
    (h : reservationPlanForLiveProbe env probe now l = .ok specs) (hspec : spec ∈ specs) :
    0 < plannedUnits specs spec := by
  obtain ⟨s, hs, -, hunits⟩ := exists_plannedUnits hspec
  exact hunits ▸ (chargeable_of_mem_reservationPlan h hs).pos

theorem reconcileBaseline_frame {spec : QuotaSpec} {report : BaselineReport}
    (h : reconcileBaseline env spec report now l = .ok l') :
    l'.windows = l.windows ∧ l'.reservations = l.reservations ∧ l'.identities = l.identities := by
  unfold reconcileBaseline at h
  split at h
  · cases h
  · dsimp only at h
    split at h
    · cases h
    · split at h
      · cases h
      · obtain rfl := Except.ok.inj h
        exact ⟨rfl, rfl, rfl⟩

theorem reconcile_frame {rec : Reconciliation}
    (h : reconcileProviderQuotaBaseline env rec now l = .ok l') :
    l'.windows = l.windows ∧ l'.reservations = l.reservations ∧ l'.identities = l.identities := by
  unfold reconcileProviderQuotaBaseline at h
  obtain ⟨_, -, h⟩ := bind_eq_ok.1 h
  obtain ⟨_, -, h⟩ := bind_eq_ok.1 h
  obtain ⟨_, -, h⟩ := bind_eq_ok.1 h
  obtain ⟨spec, -, h⟩ := bind_eq_ok.1 h
  exact reconcileBaseline_frame h

theorem Refusal.Sound.withoutRetry {e : Refusal} (h : e.Sound l) : e.withoutRetry.Sound l := by
  cases e with
  | denied l' t => exact h
  | raised e => trivial

theorem balanced_commit (env : Coordinator) (hl : Balanced l) (call : QuotaCall) :
    Balanced (call.commit env l) ∧ Keeps l (call.commit env l) := by
  cases call with
  | reserve req id now =>
    rw [QuotaCall.commit]
    rcases reserveProviderQuota_cases env req id now l with ⟨e, h⟩ | ⟨specs, hspecs, h⟩
    · rw [h]
      exact ⟨hl, Keeps.refl l⟩
    · have hsound := balanced_reserveSpecs env (·.units) specs id now hl fun spec hspec =>
          (chargeable_of_mem_dimensionSpecs hspecs hspec).pos.le
      rw [h]
      exact sound_committed hl hsound.1 hsound.2
  | probe live id now =>
    rw [QuotaCall.commit]
    rcases reserveLiveProviderOperation_cases env live id now l with ⟨e, h⟩ | ⟨specs, hspecs, h⟩
    · rw [h]
      exact ⟨hl, Keeps.refl l⟩
    · have hsound := balanced_reserveSpecs env (plannedUnits specs) specs id now hl fun spec hspec =>
          (plannedUnits_pos hspecs hspec).le
      rw [h]
      refine sound_committed hl (fun l' h' => hsound.1 l' (mapError_eq_ok.1 h')) fun e he => ?_
      obtain ⟨e', he', rfl⟩ := mapError_eq_error.1 he
      exact (hsound.2 e' he').withoutRetry
  | settle id s now => exact sound_keptOnError hl fun l' h => balanced_settle hl h
  | expire scope now => exact sound_keptOnError hl fun l' h => balanced_releaseExpired hl h
  | reconcile rec now =>
    refine sound_keptOnError hl fun l' h => ?_
    obtain ⟨hw, hr, -⟩ := reconcile_frame h
    exact ⟨hl.of_eq hw hr, (Keeps.refl l).of_eq hw hr⟩

/-! ## What a call can do -/

def QuotaCall.plan (env : Coordinator) (l : Ledger) : QuotaCall → Except QuotaError (List QuotaSpec)
  | .reserve req _ now => dimensionSpecs env req now
  | .probe live _ now => reservationPlanForLiveProbe env live now l
  | _ => .ok []

def QuotaCall.unitsOf (specs : List QuotaSpec) : QuotaCall → QuotaSpec → ℤ
  | .probe _ _ _ => plannedUnits specs
  | _ => (·.units)

def QuotaCall.reservationId : QuotaCall → String
  | .reserve _ id _ | .probe _ id _ | .settle id _ _ => id
  | _ => ""

def QuotaCall.clock : QuotaCall → Micros
  | .reserve _ _ now | .probe _ _ now | .settle _ _ now | .expire _ now | .reconcile _ now => now

/-- The call admits a reservation. -/
def QuotaCall.Admits (env : Coordinator) (l : Ledger) : QuotaCall → Prop
  | .reserve req id now => ∃ l', reserveProviderQuota env req id now l = .ok l'
  | .probe live id now => ∃ l', reserveLiveProviderOperation env live id now l = .ok l'
  | _ => False

inductive CallEffect (env : Coordinator) (l : Ledger) : QuotaCall → Ledger → Prop
  /-- The call raises. -/
  | unchanged {call : QuotaCall} : CallEffect env l call l
  /-- The reservation is denied after the expired leases. -/
  | denied {call : QuotaCall} {specs : List QuotaSpec} {l₁ l' : Ledger}
      (plan : call.plan env l = .ok specs)
      (expired : (accountScopes specs).foldlM (releaseExpiredConcurrencyLeases call.clock) l =
        .ok l₁)
      (reservations : l'.reservations = l₁.reservations)
      (identities : l'.identities = l₁.identities) : CallEffect env l call l'
  /-- The reservation is admitted. -/
  | admitted {call : QuotaCall} {specs : List QuotaSpec} {l₁ l' : Ledger} {p : Preparation}
      (plan : call.plan env l = .ok specs)
      (steps : ReservationSteps env (call.unitsOf specs) specs call.reservationId call.clock l l₁ p l') :
      CallEffect env l call l'
  | settled {id : String} {s : Settlement} {now : Micros} {l' : Ledger}
      (settled : settleProviderQuota id s now l = .ok l') : CallEffect env l (.settle id s now) l'
  | expired {scope : String} {now : Micros} {l' : Ledger}
      (expired : releaseExpiredConcurrencyLeases now l scope = .ok l') :
      CallEffect env l (.expire scope now) l'
  | reconciled {rec : Reconciliation} {now : Micros} {l' : Ledger}
      (reservations : l'.reservations = l.reservations)
      (identities : l'.identities = l.identities) : CallEffect env l (.reconcile rec now) l'

def Refusal.SameRows (l : Ledger) : Refusal → Prop
  | .denied l' _ => l'.reservations = l.reservations ∧ l'.identities = l.identities
  | .raised _ => True

theorem sameRows_prepared {unitsOf : QuotaSpec → ℤ} {specs : List QuotaSpec} {p : Preparation}
    {e : Refusal} (hr : p.ledger.reservations = l.reservations)
    (hi : p.ledger.identities = l.identities)
    (h : specs.foldlM (prepareSpec env unitsOf now) p = .error e) : e.SameRows l := by
  have hstep : ∀ spec ∈ specs, ∀ q q' : Preparation,
      q.ledger.reservations = l.reservations ∧ q.ledger.identities = l.identities →
      prepareSpec env unitsOf now q spec = .ok q' →
      q'.ledger.reservations = l.reservations ∧ q'.ledger.identities = l.identities := by
    intro spec _ q q' hq h₁
    rcases prepareSpec_eq_ok h₁ with ⟨-, rfl⟩ | ⟨bs, b, -, rfl⟩ <;> exact hq
  obtain ⟨spec, -, q, hq, he⟩ := foldlM_fails hstep ⟨hr, hi⟩ h
  rcases prepareSpec_eq_error he with ⟨e', rfl⟩ | ⟨bs, rfl⟩
  · trivial
  · exact hq

theorem reserveSpecs_denied {unitsOf : QuotaSpec → ℤ} {specs : List QuotaSpec} {id : String}
    {t : Option Micros} (hl : Balanced l)
    (h : reserveSpecs env unitsOf specs id now l = .error (.denied l' t)) :
    ∃ l₁, (accountScopes specs).foldlM (releaseExpiredConcurrencyLeases now) l = .ok l₁ ∧
      l'.reservations = l₁.reservations ∧ l'.identities = l₁.identities := by
  cases reserveSpecs_eq_error h with
  | preparing h₁ hp => exact ⟨_, h₁, sameRows_prepared rfl rfl hp⟩
  | capacity h₁ hp _ hlacks =>
    have hbal := (balanced_expiry hl h₁).1
    have hprepared := (prepared_loop env unitsOf specs now hbal (Prepared.start hbal)).1 _ hp
    obtain ⟨t, ht⟩ := checkCapacity_eq_error hlacks
    obtain ⟨rfl, -⟩ := Refusal.denied.inj ht
    exact ⟨_, h₁, hprepared.reservations, hprepared.identities⟩

theorem effect_reserveSpecs (call : QuotaCall) {specs : List QuotaSpec} (hl : Balanced l)
    (hplan : call.plan env l = .ok specs) {result : Except Refusal Ledger}
    (hresult : result = reserveSpecs env (call.unitsOf specs) specs call.reservationId call.clock l) :
    CallEffect env l call (committed l result) := by
  cases result with
  | ok l' =>
    obtain ⟨l₁, p, hsteps⟩ := reserveSpecs_eq_ok.1 hresult.symm
    exact .admitted hplan hsteps
  | error e =>
    cases e with
    | raised e => exact .unchanged
    | denied l' t =>
      obtain ⟨l₁, h₁, hr, hi⟩ := reserveSpecs_denied hl hresult.symm
      exact .denied hplan h₁ hr hi

theorem committed_withoutRetry (l : Ledger) (result : Except Refusal Ledger) :
    committed l (result.mapError .withoutRetry) = committed l result := by
  rcases result with ⟨l', t⟩ | e | l' <;> rfl

theorem callEffect (env : Coordinator) (hl : Balanced l) (call : QuotaCall) :
    CallEffect env l call (call.commit env l) := by
  cases call with
  | reserve req id now =>
    rw [QuotaCall.commit]
    rcases reserveProviderQuota_cases env req id now l with ⟨e, h⟩ | ⟨specs, hspecs, h⟩
    · rw [h]
      exact .unchanged
    · exact effect_reserveSpecs (.reserve req id now) hl hspecs h
  | probe live id now =>
    rw [QuotaCall.commit]
    rcases reserveLiveProviderOperation_cases env live id now l with ⟨e, h⟩ | ⟨specs, hspecs, h⟩
    · rw [h]
      exact .unchanged
    · rw [h, committed_withoutRetry]
      exact effect_reserveSpecs (.probe live id now) hl hspecs rfl
  | settle id s now =>
    rw [QuotaCall.commit]
    cases h : settleProviderQuota id s now l with
    | ok l' => exact .settled h
    | error e => exact .unchanged
  | expire scope now =>
    rw [QuotaCall.commit]
    cases h : releaseExpiredConcurrencyLeases now l scope with
    | ok l' => exact .expired h
    | error e => exact .unchanged
  | reconcile rec now =>
    rw [QuotaCall.commit]
    cases h : reconcileProviderQuotaBaseline env rec now l with
    | ok l' =>
      obtain ⟨-, hr, hi⟩ := reconcile_frame h
      exact .reconciled hr hi
    | error e => exact .unchanged

theorem admits_of_steps {specs : List QuotaSpec} {spec : QuotaSpec} {l₁ : Ledger} {p : Preparation}
    (hplan : call.plan env l = .ok specs) (hspec : spec ∈ specs)
    (hsteps : ReservationSteps env (call.unitsOf specs) specs call.reservationId call.clock l l₁ p
      l') : call.Admits env l := by
  have hok := reserveSpecs_eq_ok.2 ⟨l₁, p, hsteps⟩
  cases call with
  | reserve req id now =>
    refine ⟨l', ?_⟩
    unfold reserveProviderQuota
    rw [show dimensionSpecs env req now = .ok specs from hplan]
    exact hok
  | probe live id now =>
    refine ⟨l', ?_⟩
    unfold reserveLiveProviderOperation
    rw [show reservationPlanForLiveProbe env live now l = .ok specs from hplan]
    exact (if_neg (ne_nil_of_mem hspec)).trans (mapError_eq_ok.2 hok)
  | settle | expire | reconcile =>
    obtain rfl := Except.ok.inj hplan
    cases hspec

/-! ## Settling again -/

theorem pending_settleRow {s : Settlement} {r x : Reservation} (hl : Balanced l)
    (hr : r ∈ l.reservations) (h : settleRow s now l r = .ok l') (hx : x ∈ l'.reservations)
    (hpending : x.state = .pending) : x ∈ l.reservations ∧ x ≠ r := by
  obtain ⟨l₁, h₁, -, hres, -⟩ := settleRow_eq_ok h
  rw [hres] at hx
  have hmem : ∀ {f : Reservation → Reservation}, x ∈ updateRow Reservation.key r.key f l.reservations →
      (f r).state ≠ .pending → x ∈ l.reservations ∧ x ≠ r := by
    intro f hx hf
    obtain ⟨y, hy, ⟨hk, rfl⟩ | ⟨hk, rfl⟩⟩ := mem_updateRow.1 hx
    · obtain rfl := inj_on_of_nodup_map hl.unique_reservations hy hr hk
      exact absurd hpending hf
    · exact ⟨hy, fun hxr => hk (hxr ▸ rfl)⟩
  rcases settleUnits_cases h₁ with ⟨-, rfl⟩ | ⟨-, rfl⟩ | ⟨-, -, rfl⟩
  · exact hmem hx (by simp [Reservation.enter])
  · exact hmem hx (by simp [Reservation.enter])
  · refine hmem hx ?_
    cases h : s.releaseIdentities <;> simp [Reservation.enter]

theorem pending_settleRows {s : Settlement} {rows : List Reservation} {x : Reservation}
    (hl : Balanced l) (hn : (rows.map Reservation.key).Nodup)
    (hrows : ∀ r ∈ rows, r ∈ l.reservations ∧ r.state = .pending)
    (h : rows.foldlM (settleRow s now) l = .ok l') (hx : x ∈ l'.reservations)
    (hpending : x.state = .pending) : x ∈ l.reservations ∧ x ∉ rows := by
  induction rows generalizing l with
  | nil =>
    obtain rfl := Except.ok.inj h
    exact ⟨hx, not_mem_nil⟩
  | cons r rows ih =>
    rw [foldlM_cons] at h
    obtain ⟨l₁, h₁, h⟩ := bind_eq_ok.1 h
    rw [map_cons, nodup_cons] at hn
    obtain ⟨hr, hrp⟩ := hrows r mem_cons_self
    obtain ⟨hbal, -, hothers⟩ := balanced_settleRow hl hr hrp h₁
    have hrest : ∀ y ∈ rows, y ∈ l₁.reservations ∧ y.state = .pending := by
      intro y hy
      obtain ⟨hy₀, hyp⟩ := hrows y (mem_cons_of_mem r hy)
      exact ⟨hothers y hy₀ fun hk => hn.1 (hk ▸ mem_map_of_mem hy), hyp⟩
    obtain ⟨hx₁, hnot⟩ := ih hbal hn.2 hrest h
    obtain ⟨hx₀, hne⟩ := pending_settleRow hl hr h₁ hx₁ hpending
    exact ⟨hx₀, fun hmem => (mem_cons.1 hmem).elim hne hnot⟩

theorem pendingOf_keys (hl : Balanced l) (id : String) :
    ((l.pendingOf id).map Reservation.key).Nodup :=
  hl.unique_reservations.sublist (filter_sublist.map _)

theorem pendingOf_rows (l : Ledger) (id : String) :
    ∀ r ∈ l.pendingOf id, r ∈ l.reservations ∧ r.state = .pending :=
  fun _ hr => ⟨(mem_pendingOf.1 hr).1, (mem_pendingOf.1 hr).2.2⟩

theorem pendingOf_settled {id : String} {s : Settlement} (hl : Balanced l)
    (h : settleProviderQuota id s now l = .ok l') : l'.pendingOf id = [] := by
  refine eq_nil_iff_forall_not_mem.2 fun x hx => ?_
  obtain ⟨hx', hid, hpending⟩ := mem_pendingOf.1 hx
  obtain ⟨hx₀, hnot⟩ := pending_settleRows hl (pendingOf_keys hl id) (pendingOf_rows l id) h hx'
    hpending
  exact hnot (mem_pendingOf.2 ⟨hx₀, hid, hpending⟩)

/-- **A second settlement finds nothing to do.** -/
theorem settleProviderQuota_again {id : String} {s s' : Settlement} {now' : Micros}
    (hl : Balanced l) (h : settleProviderQuota id s now l = .ok l') :
    settleProviderQuota id s' now' l' = .ok l' := by
  unfold settleProviderQuota
  rw [pendingOf_settled hl h]
  rfl

/-! ## The clamps -/

/-- Releasing the units of a row from its window is exact: the clamp at zero
    does not take effect. -/
def ExactRelease (l : Ledger) (r : Reservation) : Prop :=
  ∀ w ∈ l.windows, w.bucket = r.bucket →
    (w.release r.reservedUnits).reservedUnits = w.reservedUnits - r.reservedUnits

theorem exactRelease_loop {step : Ledger → Reservation → Except QuotaError Ledger}
    {rows pre post : List Reservation} {r : Reservation} (hl : Balanced l)
    (hstep : ∀ {l r l'}, Balanced l → r ∈ l.reservations → r ∈ rows → step l r = .ok l' →
      Balanced l' ∧ ∀ x ∈ l.reservations, x.key ≠ r.key → x ∈ l'.reservations)
    (hrows : rows = pre ++ r :: post) (hn : (rows.map Reservation.key).Nodup)
    (hmem : ∀ x ∈ rows, x ∈ l.reservations) (hout : r.outstanding = true)
    (h : pre.foldlM step l = .ok l') : ExactRelease l' r := by
  subst hrows
  have hr : r ∈ pre ++ r :: post := mem_append_right _ mem_cons_self
  have hkeys : ∀ x ∈ pre, x.key ≠ r.key := by
    rw [map_append, map_cons, nodup_append] at hn
    exact fun x hx => hn.2.2 _ (mem_map_of_mem hx) _ mem_cons_self
  have hP : Balanced l' ∧ r ∈ l'.reservations := by
    refine rowLoop pre (P := fun l => Balanced l ∧ r ∈ l.reservations) ?_ (fun x hx => hx)
      ?_ (fun x hx => hmem x (mem_append_left _ hx)) ⟨hl, hmem r hr⟩ h
    · intro l₁ x l₂ hP hx hxpre h₂
      obtain ⟨hbal, hothers⟩ := hstep hP.1 hx (mem_append_left _ hxpre) h₂
      exact ⟨⟨hbal, hothers r hP.2 (hkeys x hxpre).symm⟩, hothers⟩
    · exact hn.sublist ((sublist_append_left pre _).map _)
  exact fun w hw hb => hP.1.release_eq hP.2 hout hw hb

theorem exactRelease_settle {id : String} {s : Settlement} {pre post : List Reservation}
    {r : Reservation} (hl : Balanced l) (hrows : l.pendingOf id = pre ++ r :: post)
    (h : pre.foldlM (settleRow s now) l = .ok l') : ExactRelease l' r := by
  have hr : r ∈ l.pendingOf id := hrows ▸ mem_append_right _ mem_cons_self
  refine exactRelease_loop hl ?_ hrows
    (hl.unique_reservations.sublist (filter_sublist.map _))
    (fun x hx => (mem_pendingOf.1 hx).1)
    (by simp [Reservation.outstanding, (mem_pendingOf.1 hr).2.2]) h
  intro l₁ x l₂ hbal hx hmem h₂
  obtain ⟨hbal', -, hothers⟩ := balanced_settleRow hbal hx (mem_pendingOf.1 hmem).2.2 h₂
  exact ⟨hbal', hothers⟩

theorem exactRelease_expire {scope : String} {pre post : List Reservation} {r : Reservation}
    (hl : Balanced l)
    (hrows : l.reservations.filter (·.leaseOver scope now) = pre ++ r :: post)
    (h : pre.foldlM (releaseLease now) l = .ok l') : ExactRelease l' r := by
  have hr : r ∈ l.reservations.filter (·.leaseOver scope now) :=
    hrows ▸ mem_append_right _ mem_cons_self
  refine exactRelease_loop hl ?_ hrows
    (hl.unique_reservations.sublist (filter_sublist.map _))
    (fun x hx => mem_of_mem_filter hx) (leaseOver_iff.1 (of_mem_filter hr)).2.2.1 h
  intro l₁ x l₂ hbal hx hmem h₂
  obtain rfl := releaseLease_eq_ok h₂
  have hout := (leaseOver_iff.1 (of_mem_filter hmem)).2.2.1
  exact ⟨hbal.close hx hout _ _ (fun _ => rfl) (fun _ => rfl) (hbal.nonneg x hx) rfl
    (fun _ => rfl) fun _ => rfl, others_update _ _⟩

/-! ## Runs -/

theorem balanced_run {calls : List QuotaCall} (hl : Balanced l)
    (h : Run (QuotaStep env) l calls l') : Balanced l' ∧ Keeps l l' :=
  h.invariant (P := fun l₁ => Balanced l₁ ∧ Keeps l l₁)
    (fun {l₁ call l₂} hP hstep => by
      obtain rfl : l₂ = call.commit env l₁ := hstep
      obtain ⟨hbal, hkeeps⟩ := balanced_commit env hP.1 call
      exact ⟨hbal, hP.2.trans hkeeps⟩) ⟨hl, Keeps.refl l⟩

/-- **Quota bookkeeping.**  Along every run, every window holds the units of the
    pending and uncertain reservations bound to it, every reservation has its
    window, no release meets the clamp at zero, closed rows and open windows stay,
    and a second settlement changes nothing. -/
theorem quota_bookkeeping {calls : List QuotaCall} (h : Run (QuotaStep env) {} calls l) :
    (∀ w ∈ l.windows, w.reservedUnits = heldUnits l.reservations w.bucket) ∧
    (∀ r ∈ l.reservations, ∃ w ∈ l.windows, w.bucket = r.bucket) ∧
    (∀ (id : String) (s : Settlement) (now : Micros) (pre post : List Reservation)
      (r : Reservation) (l₁ : Ledger), l.pendingOf id = pre ++ r :: post →
        pre.foldlM (settleRow s now) l = .ok l₁ → ExactRelease l₁ r) ∧
    (∀ (scope : String) (now : Micros) (pre post : List Reservation) (r : Reservation)
      (l₁ : Ledger), l.reservations.filter (·.leaseOver scope now) = pre ++ r :: post →
        pre.foldlM (releaseLease now) l = .ok l₁ → ExactRelease l₁ r) ∧
    (∀ (more : List QuotaCall) (l' : Ledger), Run (QuotaStep env) l more l' →
      (∀ r ∈ l.reservations, r.state ∈ [.settled, .notSent, .leaseExpired] →
        r ∈ l'.reservations ∧ ∀ r' ∈ l'.reservations, r'.key = r.key → r' = r) ∧
      ∀ w ∈ l.windows, ∃ w' ∈ l'.windows, w'.bucket = w.bucket) ∧
    ∀ (id : String) (s s' : Settlement) (now now' : Micros) (l₁ : Ledger),
      settleProviderQuota id s now l = .ok l₁ → settleProviderQuota id s' now' l₁ = .ok l₁ := by
  obtain ⟨hl, -⟩ := balanced_run balanced_empty h
  refine ⟨hl.balance, fun r hr => mem_map.1 (hl.bound r hr),
    fun _ _ _ _ _ _ _ => exactRelease_settle hl, fun _ _ _ _ _ _ => exactRelease_expire hl,
    fun more l' hmore => ?_, fun _ _ _ _ _ _ => settleProviderQuota_again hl⟩
  obtain ⟨hl', hkeeps⟩ := balanced_run hl hmore
  constructor
  · intro r hr hclosed
    have hmem : r ∈ l'.reservations := hkeeps.closed r hr (by
      simp only [mem_cons, not_mem_nil, or_false] at hclosed
      rcases hclosed with h | h | h <;> simp [Reservation.outstanding, h])
    exact ⟨hmem, fun r' hr' hk => inj_on_of_nodup_map hl'.unique_reservations hr' hmem hk⟩
  · exact fun w hw => mem_map.1 (hkeeps.windows _ (mem_map_of_mem hw))

/-- A coordinator for runs: every text is printable, New York keeps UTC. -/
def plainCoordinator : Coordinator where
  sha256 := Digest.mk
  isoformat := fun _ t => toString t
  isprintable := fun _ => true
  upper := fun s => String.ofList (s.toList.map Char.toUpper)
  zone := { wall := fun t => (t, false), utc := (·.1) }

def requestsPerMinute : ProviderPolicy where
  quotaContract :=
    { reset := "fixed_minute"
      dimensions :=
        [{ name := "requests", limit := 10, windowSeconds := 60, unit := "requests",
           source := "docs", scope := "account", baselineMode := "local_zero",
           applicationUsageOnly := true }] }

def barRequest (policy : ProviderPolicy) : QuotaRequest where
  providerName := "polygon"
  capability := "bars"
  operation := "fetch_bars"
  policy := policy
  dimensionUnits := fun _ => some 1

/-- Two requests in one minute, and the first one is settled. -/
def barCalls : List QuotaCall :=
  [.reserve (barRequest requestsPerMinute) "first" 0,
    .reserve (barRequest requestsPerMinute) "second" 5, .settle "first" {} 7]

theorem quota_bookkeeping_bars :
    (ledgerAfter plainCoordinator {} barCalls).windows.map
        (fun w => (w.reservedUnits, w.consumedUnits)) = [(1, 1)] ∧
      ∀ w ∈ (ledgerAfter plainCoordinator {} barCalls).windows, w.reservedUnits =
        heldUnits (ledgerAfter plainCoordinator {} barCalls).reservations w.bucket :=
  ⟨by decide +kernel, (quota_bookkeeping (run_ledgerAfter plainCoordinator {} barCalls)).1⟩

end

end ChartingPlatform
