/-
  Settling a live probe from the telemetry of its transport
  (`settle_live_provider_operation`).

  Without an observed request the plan reads rows of four columns as pairs.
-/
import ChartingPlatform.Quota.Runs

namespace ChartingPlatform

open Lib List

/-! ## The plan -/

structure LiveTelemetry where
  httpRequests : ℤ
  responseBytes : ℤ
  responseStatusCode : Option ℤ := none

def LiveTelemetry.NotDebited (m : LiveTelemetry) (providerName : String) (r : Reservation) : Prop :=
  (providerName = "eodhd" ∧ r.operation = "get_instrument_profile" ∧
      m.responseStatusCode = some 403 ∧ r.bucket.pool.dimension = "calls_per_day") ∨
    (providerName = "marketstack" ∧ r.bucket.pool.dimension = "requests_per_month" ∧
      ∃ code ∈ m.responseStatusCode, 400 ≤ code ∧ code ≤ 599)

instance (m : LiveTelemetry) (providerName : String) (r : Reservation) :
    Decidable (m.NotDebited providerName r) := by
  unfold LiveTelemetry.NotDebited; infer_instance

def Reservation.CountsBytes (r : Reservation) : Prop := lower r.unit ∈ ["byte", "bytes"]

instance (r : Reservation) : Decidable r.CountsBytes := by
  unfold Reservation.CountsBytes; infer_instance

/-- The observed units of one row; the reserved ones stay where there are none. -/
def LiveTelemetry.observed (m : LiveTelemetry) (providerName : String) (r : Reservation) :
    Option ℤ :=
  if r.releaseOnly then none
  else if m.NotDebited providerName r then some 0
  else if r.CountsBytes then some m.responseBytes
  else if lower r.unit ∈ ["request", "requests"] then some m.httpRequests
  else none

/-- `observed[name] = units`, unless the row is passed over. -/
def LiveTelemetry.observe (m : LiveTelemetry) (providerName : String)
    (observed : String → Option ℤ) (r : Reservation) : String → Option ℤ :=
  match m.observed providerName r with
  | none => observed
  | some units => Function.update observed r.bucket.pool.dimension (some units)

def LiveTelemetry.plan (m : LiveTelemetry) (providerName : String) (rows : List Reservation) :
    Settlement where
  observedDimensionUnits := rows.foldl (m.observe providerName) fun _ => none

def liveSettlement (providerName : String) (m : LiveTelemetry) (rows : List Reservation) :
    Except QuotaError Settlement :=
  if m.httpRequests ≤ 0 then
    -- `for name, _ in rows` cannot unpack a row of four columns
    if rows = [] then .ok {} else .error (settlementFailed "ValueError")
  else .ok (m.plan providerName rows)

/-- `settle_live_provider_operation`. -/
def settleLiveProviderOperation (reservation : QuotaReservation) (m : LiveTelemetry) (now : Micros)
    (l : Ledger) : Except QuotaError Ledger := do
  let s ← liveSettlement reservation.providerName m (l.pendingOf reservation.reservationId)
  settleProviderQuota reservation.reservationId s now l

/-! ## Settlements that succeed -/

def Settlement.outcome (s : Settlement) (now : Micros) (r : Reservation) : Reservation :=
  if r.bucket.pool.dimension ∈ s.unknownDimensions then r.enter .uncertain now
  else if r.releaseOnly then r.enter .settled now
  else (r.record (s.actual r)).enter (if s.releaseIdentities then .notSent else .settled) now

def Settlement.Admits (s : Settlement) (r : Reservation) : Prop :=
  r.bucket.pool.dimension ∈ s.unknownDimensions ∨ r.releaseOnly = true ∨ 0 ≤ s.actual r

section
variable {l l' : Ledger} {s : Settlement} {m : LiveTelemetry} {now : Micros} {r x : Reservation}
  {rows : List Reservation} {id providerName : String}

theorem settleUnits_admits (h : l.settleUnits s now r = .ok l') : s.Admits r := by
  rcases settleUnits_cases h with ⟨hunknown, -⟩ | ⟨hrelease, -⟩ | ⟨-, hactual, -⟩
  · exact .inl hunknown
  · exact .inr (.inl hrelease)
  · exact .inr (.inr hactual)

theorem exists_settleUnits (h : s.Admits r) (now : Micros) (l : Ledger) :
    ∃ l', l.settleUnits s now r = .ok l' := by
  unfold Ledger.settleUnits
  split_ifs with hunknown hrelease hneg
  · exact ⟨_, rfl⟩
  · exact ⟨_, rfl⟩
  · rcases h with h | h | h
    · exact absurd h hunknown
    · exact absurd h hrelease
    · exact absurd h (not_le.2 hneg)
  · exact ⟨_, rfl⟩
  · exact ⟨_, rfl⟩

theorem outcome_mem (hl : Balanced l) (hr : r ∈ l.reservations)
    (h : l.settleUnits s now r = .ok l') : s.outcome now r ∈ l'.reservations := by
  have hmem : ∀ f, f r ∈ updateRow Reservation.key r.key f l.reservations := fun f =>
    (mem_updateRow_iff hl.unique_reservations hr).2 (.inl rfl)
  unfold Ledger.settleUnits at h
  unfold Settlement.outcome
  split_ifs at h ⊢ <;> obtain rfl := Except.ok.inj h
  · exact hmem (·.enter .uncertain now)
  · exact hmem (·.enter .settled now)
  · exact hmem fun x => (x.record (s.actual r)).enter .notSent now
  · exact hmem fun x => (x.record (s.actual r)).enter .settled now

theorem settleRow_iff (hl : Balanced l) (hr : r ∈ l.reservations) :
    (∃ l', settleRow s now l r = .ok l') ↔ s.Admits r := by
  constructor
  · rintro ⟨l', h⟩
    obtain ⟨l₁, h₁, -⟩ := settleRow_eq_ok h
    exact settleUnits_admits h₁
  · intro h
    obtain ⟨w, hw, hbucket⟩ := mem_map.1 (hl.bound r hr)
    have hfound : l.findWindow r.bucket = some w := (findWindow_eq_some hl).2 ⟨hw, hbucket⟩
    obtain ⟨l₁, h₁⟩ := exists_settleUnits h now l
    unfold settleRow
    rw [hfound, h₁]
    exact ⟨_, rfl⟩

theorem settleRows_eq_ok (hl : Balanced l) (hn : (rows.map Reservation.key).Nodup)
    (hrows : ∀ r ∈ rows, r ∈ l.reservations ∧ r.state = .pending) (h : ∀ r ∈ rows, s.Admits r)
    (now : Micros) : ∃ l', rows.foldlM (settleRow s now) l = .ok l' ∧
      (∀ r ∈ rows, s.outcome now r ∈ l'.reservations) ∧
      ∀ x ∈ l.reservations, x.key ∉ rows.map Reservation.key → x ∈ l'.reservations := by
  induction rows generalizing l with
  | nil => exact ⟨l, rfl, fun _ hr => absurd hr not_mem_nil, fun x hx _ => hx⟩
  | cons r rows ih =>
    obtain ⟨hr, hpending⟩ := hrows r mem_cons_self
    obtain ⟨l₁, h₁⟩ : ∃ l₁, settleRow s now l r = .ok l₁ :=
      (settleRow_iff hl hr).2 (h r mem_cons_self)
    obtain ⟨hl₁, -, hothers⟩ := balanced_settleRow hl hr hpending h₁
    rw [map_cons, nodup_cons] at hn
    obtain ⟨l', h', houtcomes, hkept⟩ := ih hl₁ hn.2
      (fun x hx => ⟨hothers x (hrows x (mem_cons_of_mem r hx)).1 fun hk =>
        hn.1 (hk ▸ mem_map_of_mem hx), (hrows x (mem_cons_of_mem r hx)).2⟩)
      fun x hx => h x (mem_cons_of_mem r hx)
    refine ⟨l', ?_, ?_, ?_⟩
    · rw [foldlM_cons, h₁]
      exact h'
    · rintro x hx
      rcases mem_cons.1 hx with rfl | hx
      · obtain ⟨l₂, h₂, -, hreservations, -⟩ := settleRow_eq_ok h₁
        refine hkept _ (hreservations ▸ outcome_mem hl hr h₂) ?_
        have hkey : (s.outcome now x).key = x.key := by
          unfold Settlement.outcome
          split_ifs <;> rfl
        rw [hkey]
        exact hn.1
      · exact houtcomes x hx
    · intro x hx hkey
      rw [map_cons, mem_cons, not_or] at hkey
      exact hkept x (hothers x hx hkey.1) hkey.2

theorem admits_of_settleRows (hl : Balanced l) (hn : (rows.map Reservation.key).Nodup)
    (hrows : ∀ r ∈ rows, r ∈ l.reservations ∧ r.state = .pending)
    (h : rows.foldlM (settleRow s now) l = .ok l') : ∀ r ∈ rows, s.Admits r := by
  induction rows generalizing l with
  | nil => exact fun _ hr => absurd hr not_mem_nil
  | cons r rows ih =>
    rw [foldlM_cons] at h
    obtain ⟨l₁, h₁, h⟩ := bind_eq_ok.1 h
    obtain ⟨hr, hpending⟩ := hrows r mem_cons_self
    obtain ⟨hl₁, -, hothers⟩ := balanced_settleRow hl hr hpending h₁
    rw [map_cons, nodup_cons] at hn
    refine forall_mem_cons.2 ⟨(settleRow_iff hl hr).1 ⟨l₁, h₁⟩, ih hl₁ hn.2 (fun x hx => ?_) h⟩
    obtain ⟨hx₀, hxp⟩ := hrows x (mem_cons_of_mem r hx)
    exact ⟨hothers x hx₀ fun hk => hn.1 (hk ▸ mem_map_of_mem hx), hxp⟩

/-- **Which settlements succeed**, and what they leave of the pending rows. -/
theorem settleProviderQuota_eq_ok (hl : Balanced l) (id : String) (s : Settlement) (now : Micros) :
    (∃ l', settleProviderQuota id s now l = .ok l' ∧
      (∀ r ∈ l.pendingOf id, s.outcome now r ∈ l'.reservations) ∧ l'.pendingOf id = []) ↔
      ∀ r ∈ l.pendingOf id, s.Admits r := by
  constructor
  · rintro ⟨l', h, -, -⟩
    exact admits_of_settleRows hl (pendingOf_keys hl id) (pendingOf_rows l id) h
  · intro h
    obtain ⟨l', h', houtcomes, -⟩ := settleRows_eq_ok hl (pendingOf_keys hl id)
      (pendingOf_rows l id) h now
    exact ⟨l', h', houtcomes, pendingOf_settled hl h'⟩

/-! ## Live settlements -/

theorem observe_of_ne (observed : String → Option ℤ)
    (h : x.bucket.pool.dimension ≠ r.bucket.pool.dimension) :
    m.observe providerName observed x r.bucket.pool.dimension =
      observed r.bucket.pool.dimension := by
  unfold LiveTelemetry.observe
  cases m.observed providerName x with
  | none => rfl
  | some units => exact Function.update_of_ne h.symm _ _

theorem observe_self (observed : String → Option ℤ)
    (h : observed r.bucket.pool.dimension = none) :
    m.observe providerName observed r r.bucket.pool.dimension = m.observed providerName r := by
  unfold LiveTelemetry.observe
  cases m.observed providerName r with
  | none => exact h
  | some units => exact Function.update_self _ _ _

theorem observed_of_notMem (observed : String → Option ℤ)
    (h : ∀ x ∈ rows, x.bucket.pool.dimension ≠ r.bucket.pool.dimension) :
    rows.foldl (m.observe providerName) observed r.bucket.pool.dimension =
      observed r.bucket.pool.dimension := by
  induction rows generalizing observed with
  | nil => rfl
  | cons x rows ih =>
    rw [foldl_cons, ih _ fun y hy => h y (mem_cons_of_mem x hy),
      observe_of_ne observed (h x mem_cons_self)]

theorem observed_of_mem (hn : (rows.map (·.bucket.pool.dimension)).Nodup) (hr : r ∈ rows)
    (observed : String → Option ℤ) (h : observed r.bucket.pool.dimension = none) :
    rows.foldl (m.observe providerName) observed r.bucket.pool.dimension =
      m.observed providerName r := by
  induction rows generalizing observed with
  | nil => cases hr
  | cons x rows ih =>
    rw [map_cons, nodup_cons] at hn
    rw [foldl_cons]
    rcases mem_cons.1 hr with rfl | hr
    · rw [observed_of_notMem _ fun y hy heq => hn.1 (heq ▸ mem_map_of_mem hy),
        observe_self observed h]
    · have hne : x.bucket.pool.dimension ≠ r.bucket.pool.dimension := fun heq =>
        hn.1 (heq ▸ mem_map_of_mem hr)
      exact ih hn.2 hr _ ((observe_of_ne observed hne).trans h)

theorem pendingOf_dimensions (hl : Balanced l) (id : String) :
    ((l.pendingOf id).map (·.bucket.pool.dimension)).Nodup := by
  refine List.Nodup.of_map (fun dimension => (id, dimension)) ?_
  rw [map_map]
  have hkeys : (l.pendingOf id).map ((fun dimension => (id, dimension)) ∘
      (·.bucket.pool.dimension)) = (l.pendingOf id).map Reservation.key :=
    map_congr_left fun r hr => by
      rw [← (mem_pendingOf.1 hr).2.1]
      rfl
  rw [hkeys]
  exact pendingOf_keys hl id

def LiveTelemetry.resolved (m : LiveTelemetry) (providerName : String) (now : Micros)
    (r : Reservation) : Reservation :=
  if m.httpRequests ≤ 0 then r.enter .uncertain now
  else (r.record ((m.observed providerName r).getD r.reservedUnits)).enter .settled now

/-- **The units of a row** are recorded unless they are a negative number of bytes. -/
theorem observed_nonneg_iff (hm : 0 < m.httpRequests) (hr : 0 ≤ r.reservedUnits)
    (hmetered : r.releaseOnly = false) :
    0 ≤ (m.observed providerName r).getD r.reservedUnits ↔
      (r.CountsBytes → 0 ≤ m.responseBytes ∨ m.NotDebited providerName r) := by
  unfold LiveTelemetry.observed
  rw [if_neg (by simp [hmetered])]
  split_ifs with hnot hbytes hrequests
  · simp [hnot]
  · simp [hnot, hbytes]
  · simp [hbytes, hm.le]
  · simp [hbytes, hr]

theorem actual_live (hl : Balanced l) (m : LiveTelemetry) (providerName : String)
    (hr : r ∈ l.pendingOf id) :
    (m.plan providerName (l.pendingOf id)).actual r =
      (m.observed providerName r).getD r.reservedUnits := by
  have hunits : (l.pendingOf id).foldl (m.observe providerName) (fun _ => none) _ = _ :=
    observed_of_mem (pendingOf_dimensions hl id) hr (fun _ => none) rfl
  unfold Settlement.actual LiveTelemetry.plan
  dsimp only
  rw [hunits]

theorem outcome_live (hl : Balanced l) (hm : 0 < m.httpRequests) (providerName : String)
    (hr : r ∈ l.pendingOf id) :
    (m.plan providerName (l.pendingOf id)).outcome now r = m.resolved providerName now r := by
  have hknown : r.bucket.pool.dimension ∉
      (m.plan providerName (l.pendingOf id)).unknownDimensions := not_mem_nil
  unfold Settlement.outcome LiveTelemetry.resolved
  rw [actual_live hl m providerName hr, if_neg (not_le.2 hm), if_neg hknown]
  by_cases hrelease : r.releaseOnly = true
  · rw [if_pos hrelease, show m.observed providerName r = none from if_pos hrelease]
    rfl
  · rw [if_neg hrelease]
    rfl

theorem admits_live (hl : Balanced l) (hm : 0 < m.httpRequests) (providerName : String)
    (hr : r ∈ l.pendingOf id) :
    (m.plan providerName (l.pendingOf id)).Admits r ↔ (r.releaseOnly = false → r.CountsBytes →
      0 ≤ m.responseBytes ∨ m.NotDebited providerName r) := by
  have hknown : r.bucket.pool.dimension ∉
      (m.plan providerName (l.pendingOf id)).unknownDimensions := not_mem_nil
  have hunits := hl.nonneg r (mem_pendingOf.1 hr).1
  unfold Settlement.Admits
  rw [actual_live hl m providerName hr]
  cases hrelease : r.releaseOnly with
  | true => simp
  | false => simpa [hknown] using observed_nonneg_iff hm hunits hrelease

/-- **When a live settlement resolves its reservation.**  In every ledger that calls can reach, the
    settlement of a live call succeeds, leaves no row of the reservation pending, and every row
    uncertain without an observed request and settled with the observed or the reserved units
    otherwise, exactly when no row is pending, or a request was observed and the
    number of bytes of a dimension that is debited is not negative. -/
theorem live_settlement_resolves_iff {env : Coordinator} {calls : List QuotaCall}
    (hrun : Run (QuotaStep env) {} calls l) (reservation : QuotaReservation) (m : LiveTelemetry)
    (now : Micros) :
    (∃ l', settleLiveProviderOperation reservation m now l = .ok l' ∧
      (∀ r ∈ l.pendingOf reservation.reservationId,
        m.resolved reservation.providerName now r ∈ l'.reservations) ∧
      l'.pendingOf reservation.reservationId = []) ↔
    l.pendingOf reservation.reservationId = [] ∨
      0 < m.httpRequests ∧ ∀ r ∈ l.pendingOf reservation.reservationId,
        r.releaseOnly = false → r.CountsBytes →
          0 ≤ m.responseBytes ∨ m.NotDebited reservation.providerName r := by
  have hl := (balanced_run balanced_empty hrun).1
  unfold settleLiveProviderOperation liveSettlement
  by_cases hm : m.httpRequests ≤ 0
  · rw [if_pos hm]
    by_cases hrows : l.pendingOf reservation.reservationId = []
    · rw [if_pos hrows, ok_bind]
      refine iff_of_true ⟨l, ?_, ?_, hrows⟩ (.inl hrows)
      · unfold settleProviderQuota
        rw [hrows]
        rfl
      · rw [hrows]
        exact fun _ hr => absurd hr not_mem_nil
    · rw [if_neg hrows, error_bind]
      refine iff_of_false ?_ ?_
      · rintro ⟨l', h, -⟩
        cases h
      · rintro (h | ⟨h, -⟩)
        · exact hrows h
        · exact absurd hm (not_le.2 h)
  · have hm := not_le.1 hm
    rw [if_neg (not_le.2 hm), ok_bind]
    have houtcome : (∃ l', settleProviderQuota reservation.reservationId
          (m.plan reservation.providerName (l.pendingOf reservation.reservationId)) now l = .ok l' ∧
          (∀ r ∈ l.pendingOf reservation.reservationId,
            m.resolved reservation.providerName now r ∈ l'.reservations) ∧
          l'.pendingOf reservation.reservationId = []) ↔
        ∀ r ∈ l.pendingOf reservation.reservationId,
          (m.plan reservation.providerName (l.pendingOf reservation.reservationId)).Admits r := by
      rw [← settleProviderQuota_eq_ok hl _ _ now]
      refine exists_congr fun l' => and_congr_right fun _ => and_congr_left fun _ =>
        forall_congr' fun r => forall_congr' fun hr => ?_
      rw [outcome_live hl hm _ hr]
    rw [houtcome]
    constructor
    · exact fun h => .inr ⟨hm, fun r hr => (admits_live hl hm _ hr).1 (h r hr)⟩
    · rintro (h | ⟨-, h⟩) r hr
      · rw [h] at hr
        exact absurd hr not_mem_nil
      · exact (admits_live hl hm _ hr).2 (h r hr)

end

def liveCalls : List QuotaCall := [.reserve (barRequest requestsPerMinute) "first" 0]

def liveReservation : QuotaReservation := ⟨"first", "polygon", "polygon"⟩

/-- A call without an observed request raises, and its row stays pending. -/
theorem live_settlement_fails :
    settleLiveProviderOperation liveReservation { httpRequests := 0, responseBytes := 0 } 7
        (ledgerAfter plainCoordinator {} liveCalls) = .error (settlementFailed "ValueError") ∧
      ((ledgerAfter plainCoordinator {} liveCalls).pendingOf "first").length = 1 := by
  decide +kernel

theorem live_settlement_resolves :
    (∃ l', settleLiveProviderOperation liveReservation { httpRequests := 1, responseBytes := 0 } 7
        (ledgerAfter plainCoordinator {} liveCalls) = .ok l' ∧
      (∀ r ∈ (ledgerAfter plainCoordinator {} liveCalls).pendingOf "first",
        LiveTelemetry.resolved { httpRequests := 1, responseBytes := 0 } "polygon" 7 r ∈
          l'.reservations) ∧ l'.pendingOf "first" = []) :=
  (live_settlement_resolves_iff (run_ledgerAfter plainCoordinator {} liveCalls) liveReservation
    { httpRequests := 1, responseBytes := 0 } 7).2 (.inr ⟨by decide, by decide +kernel⟩)

end ChartingPlatform
