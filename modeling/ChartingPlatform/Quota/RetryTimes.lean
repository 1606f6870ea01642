/-
  The retry time of a reservation that is denied for lack of capacity
  (`provider_quota_coordinator.py`, `_known_capacity_retry_at`).
-/
import ChartingPlatform.Quota.Admission

namespace ChartingPlatform

open Lib List

/-! ## The usage of a plan entry -/

/-- A row that the capacity check of a plan entry counts. -/
inductive UsageRow where
  | baseline (b : Baseline)
  | settled (r : Reservation)
  | window (w : QuotaWindow)

def UsageRow.units : UsageRow → ℤ
  | .baseline b => b.usedUnits
  | .settled r => r.reservedUnits
  | .window w => w.reservedUnits

/-- The moment by which a rolling window tells whether the row is in it. -/
def UsageRow.time : UsageRow → Micros
  | .baseline b => b.observedAt
  | .settled r => r.createdAt
  | .window w => w.bucket.windowStartedAt

def totalUnits (rows : List UsageRow) : ℤ := (rows.map UsageRow.units).sum

/-- The rows whose units the capacity check of the entry adds up, with its baseline. -/
def QuotaSpec.countedRows (spec : QuotaSpec) (now : Micros) (l : Ledger) (b : Baseline) :
    List UsageRow :=
  .baseline b ::
    ((l.reservations.filter fun r => decide (r.bucket.pool = spec.bucket.pool ∧
        r.state = .settled ∧ b.precedes r ∧ spec.InWindow now r)).map UsageRow.settled ++
      (l.windows.filter fun w => decide (spec.Reads now w.bucket)).map UsageRow.window)

/-- The row lies in the window of the entry. -/
def QuotaSpec.HoldsRow (spec : QuotaSpec) (now : Micros) : UsageRow → Prop
  | .baseline b => b.rolling = spec.rolling ∧
      if spec.rolling then b.observedAt ≤ now ∧ spec.cutoff now ≤ b.observedAt
      else b.windowStartedAt = spec.bucket.windowStartedAt
  | .settled r => spec.InWindow now r
  | .window w => spec.Reads now w.bucket

instance (spec : QuotaSpec) (now : Micros) : DecidablePred (spec.HoldsRow now)
  | .baseline _ => by unfold QuotaSpec.HoldsRow; infer_instance
  | .settled r => inferInstanceAs (Decidable (spec.InWindow now r))
  | .window w => inferInstanceAs (Decidable (spec.Reads now w.bucket))

/-- The units of the window rows that the capacity check reads. -/
def QuotaSpec.reservedIn (spec : QuotaSpec) (now : Micros) (l : Ledger) : ℤ :=
  ((l.windows.filter fun w => decide (spec.Reads now w.bucket)).map (·.reservedUnits)).sum

/-- What `retry_at` is computed from, beside the length of the window: the newest of the baseline
    and the reservations of the pool and the length that are no leases. -/
def QuotaSpec.newest (spec : QuotaSpec) (now : Micros) (rs : List Reservation) (b : Baseline) :
    Micros :=
  ((rs.filter fun r =>
      decide (r.bucket.pool = spec.bucket.pool ∧
        r.bucket.windowSeconds = spec.bucket.windowSeconds ∧ r.releaseOnly = false ∧
        r.state ∈ [.pending, .settled, .uncertain] ∧ spec.cutoff now ≤ r.createdAt)).map
    (·.createdAt)).foldl max b.observedAt

/-- The denial of a reservation for the entry of one dimension: with the baseline, the usage of
    the ledger leaves less than the units of the entry. -/
structure DeniedFor (env : Coordinator) (req : QuotaRequest) (now : Micros) (l : Ledger)
    (retryAt : Micros) (d : QuotaDimension) (spec : QuotaSpec) (b : Baseline) : Prop where
  dimension : d ∈ quotaDimensions req.policy
  entry : dimensionSpec env req now d = .ok (some spec)
  metered : spec.releaseOnly = false
  lacks : spec.limitUnits - totalUnits (spec.countedRows now l b) < spec.units
  retry : retryAt = knownCapacityRetryAt l.reservations spec b now
  found : ∃ s : QuotaSpec, s.bucket = spec.bucket ∧ s.baselineActive now b

/-! ## Denials -/

section
variable {env : Coordinator} {req : QuotaRequest} {id : String} {now retryAt : Micros}
  {l l₁ l' : Ledger} {p p' : Preparation} {spec : QuotaSpec} {specs : List QuotaSpec}
  {unitsOf : QuotaSpec → ℤ} {b : Baseline} {d : QuotaDimension} {row : UsageRow}

theorem totalUnits_counted (spec : QuotaSpec) (now : Micros) (l : Ledger) (b : Baseline) :
    totalUnits (spec.countedRows now l b) = spec.reservedIn now l +
      (b.usedUnits + settledUnitsSinceBaseline l.reservations spec now b) := by
  have hsettled : ∀ rs : List Reservation, ((rs.filter fun r => decide
      (r.bucket.pool = spec.bucket.pool ∧ r.state = .settled ∧ b.precedes r ∧
        spec.InWindow now r)).map (·.reservedUnits)).sum =
      settledUnitsSinceBaseline rs spec now b := by
    intro rs
    induction rs with
    | nil => rfl
    | cons r rs ih =>
      unfold settledUnitsSinceBaseline at ih ⊢
      rw [filter_cons, map_cons, sum_cons, ← ih]
      split_ifs with h <;> simp_all
  rw [totalUnits, QuotaSpec.countedRows, map_cons, sum_cons, map_append,
    sum_append, map_map, map_map, ← hsettled, QuotaSpec.reservedIn]
  exact (add_assoc _ _ _).symm.trans (add_comm _ _)

theorem prepared_denied {t : Option Micros}
    (h : specs.foldlM (prepareSpec env unitsOf now) p = .error (.denied l' t)) : t = none := by
  obtain ⟨spec, -, q, -, he⟩ := foldlM_fails (P := fun _ => True) (fun _ _ _ _ _ _ => trivial)
    trivial h
  rcases prepareSpec_eq_error he with ⟨e', he'⟩ | ⟨bs, he'⟩
  · cases he'
  · cases he'
    rfl

theorem baselines_found (hp : ∀ k b, p.baselines k = some b →
      ∃ s : QuotaSpec, s.bucket = k ∧ s.baselineActive now b)
    (h : specs.foldlM (prepareSpec env unitsOf now) p = .ok p') :
    ∀ k b, p'.baselines k = some b → ∃ s : QuotaSpec, s.bucket = k ∧ s.baselineActive now b := by
  refine foldlM_keeps (P := fun q : Preparation => ∀ k b, q.baselines k = some b →
    ∃ s : QuotaSpec, s.bucket = k ∧ s.baselineActive now b) (fun spec _ q q' hq h₁ => ?_) hp h
  rcases prepareSpec_eq_ok h₁ with ⟨-, rfl⟩ | ⟨bs, b, hfound, rfl⟩
  · exact hq
  · intro k x hx
    by_cases hk : k = (chargeFor unitsOf now q.ledger spec).1.bucket
    · have hx : Function.update q.baselines (chargeFor unitsOf now q.ledger spec).1.bucket (some b)
          k = some x := hx
      rw [hk, Function.update_self] at hx
      obtain rfl := Option.some.inj hx
      have hactive := (baselineForReservation_eq_ok hfound).1.symm
      exact ⟨_, hk.symm, of_decide_eq_true (mem_filter.1 (mem_reverse.1
        (mem_of_largestBy hactive))).2⟩
    · exact hq k x ((Function.update_of_ne hk _ _).symm.trans hx)

theorem reserveSpecs_lacks (hl : Balanced l)
    (h : reserveSpecs env unitsOf specs id now l = .error (.denied l' (some retryAt))) :
    ∃ l₁ p, Balanced l₁ ∧ Prepared l₁ p ∧ p.charged = specs.map (chargeFor unitsOf now l₁) ∧
      specs.foldlM (prepareSpec env unitsOf now) { ledger := l₁ } = .ok p ∧
      ∃ c ∈ p.charged, checkCapacity p now c = .error (.denied l' (some retryAt)) := by
  cases reserveSpecs_eq_error h with
  | preparing h₁ hp => cases prepared_denied hp
  | capacity h₁ hp hc hlacks =>
    have hbal := (balanced_expiry hl h₁).1
    exact ⟨_, _, hbal, (prepared_loop env unitsOf specs now hbal (Prepared.start hbal)).1 _ hp,
      charged_loop rfl hp, hp, _, hc, hlacks⟩

theorem reserved_eq (hp : Prepared l₁ p) (hopened : (p.windows spec.bucket).isSome) :
    p.reserved now spec =
      (l₁.reservations.map fun r => if spec.Reads now r.bucket then r.openUnits else 0).sum := by
  unfold Preparation.reserved QuotaSpec.Reads
  by_cases hrolling : spec.rolling = true
  · simp only [if_pos hrolling]
    rw [sum_windows_eq hp.balanced, hp.reservations]
  · simp only [if_neg hrolling]
    obtain ⟨w, hw⟩ := Option.isSome_iff_exists.1 hopened
    rw [hw, Option.elim_some, hp.read _ w hw, heldUnits_eq_sum]

/-- **A denial with a retry time** is about an entry of the plan, and leaves the usage that it found. -/
theorem denied_for (hl : Balanced l)
    (h : reserveProviderQuota env req id now l = .error (.denied l' (some retryAt))) :
    Balanced l' ∧ ∃ d spec b, DeniedFor env req now l' retryAt d spec b := by
  obtain ⟨e, he⟩ | ⟨specs, hspecs, heq⟩ := reserveProviderQuota_cases env req id now l
  · rw [he] at h
    cases h
  rw [heq] at h
  obtain ⟨l₁, p, hl₁, hp, hcharged, hloop, c, hc, hcheck⟩ := reserveSpecs_lacks hl h
  unfold checkCapacity at hcheck
  split_ifs at hcheck with hskip hlacks hrelease
  · cases (Refusal.denied.inj (Except.error.inj hcheck)).2
  obtain ⟨hl', hretry⟩ := Refusal.denied.inj (Except.error.inj hcheck)
  have hmetered : c.1.releaseOnly = false := Bool.eq_false_iff.2 hrelease
  obtain ⟨b, hb, hretry⟩ := Option.map_eq_some_iff.1 hretry
  obtain ⟨spec, hspec, hcspec⟩ := mem_map.1 (hcharged ▸ hc)
  obtain ⟨d, hd, hentry⟩ := mem_dimensionSpecs hspecs hspec
  -- an entry with units is charged as it is planned
  have hplain : c = (spec, spec.units) := by
    rw [← hcspec] at hlacks ⊢
    unfold chargeFor at hlacks ⊢
    split at hlacks
    · exact absurd hlacks.1 (lt_irrefl _)
    · rfl
  subst hplain
  dsimp only at hlacks hmetered hb hretry
  obtain ⟨hdrop, -⟩ := hp.drop hl₁
  rw [hl'] at hdrop
  have hreservations : l'.reservations = p.ledger.reservations := hl' ▸ rfl
  refine ⟨hdrop, d, spec, b, hd, hentry, hmetered, ?_, ?_, ?_⟩
  · have hused : p.used now spec spec.units = p.reserved now spec +
        (b.usedUnits + settledUnitsSinceBaseline p.ledger.reservations spec now b) := by
      unfold Preparation.used Preparation.reserved
      simp only [hb, Option.elim_some]
      simp [hmetered, hlacks.1]
    have hreserved : spec.reservedIn now l' = p.reserved now spec := by
      rw [reserved_eq hp (hp.opened _ hc).2, QuotaSpec.reservedIn,
        sum_windows_eq hdrop (spec.Reads now), hreservations, hp.reservations]
    have hlt := hlacks.2
    rw [hused] at hlt
    rw [totalUnits_counted, hreserved, hreservations]
    exact hlt
  · rw [hreservations]
    exact hretry.symm
  · exact baselines_found (fun _ _ h => absurd h.symm (Option.some_ne_none _)) hloop _ b hb

/-! ## What the retry time is computed from -/

theorem foldl_max_add (xs : List ℤ) (x c : ℤ) :
    (xs.map (· + c)).foldl max (x + c) = xs.foldl max x + c := by
  induction xs generalizing x with
  | nil => rfl
  | cons y xs ih => rw [map_cons, foldl_cons, max_add_add_right, ih, foldl_cons]

theorem le_foldl_max {xs : List ℤ} {x y : ℤ} : y ≤ xs.foldl max x ↔ y ≤ x ∨ ∃ z ∈ xs, y ≤ z := by
  induction xs generalizing x with
  | nil => simp
  | cons z xs ih => rw [foldl_cons, ih, le_max_iff, exists_mem_cons_iff, or_assoc]

theorem retryAt_rolling (h : spec.rolling = true) (rs : List Reservation) :
    knownCapacityRetryAt rs spec b now =
      spec.newest now rs b + seconds (spec.bucket.windowSeconds + 1) := by
  unfold knownCapacityRetryAt QuotaSpec.newest
  rw [if_pos h, ← foldl_max_add, map_map]
  rfl

theorem retryAt_fixed (h : spec.rolling = false) (rs : List Reservation) :
    knownCapacityRetryAt rs spec b now =
      spec.bucket.windowStartedAt + seconds spec.bucket.windowSeconds := by
  unfold knownCapacityRetryAt
  rw [if_neg (by simp [h])]

theorem cutoff_retryAt (h : spec.rolling = true) (rs : List Reservation) (start : Micros) :
    (spec.rebind start).cutoff (knownCapacityRetryAt rs spec b now) =
      spec.newest now rs b + seconds 1 := by
  rw [retryAt_rolling h]
  unfold QuotaSpec.cutoff QuotaSpec.rebind seconds
  ring

theorem le_newest (spec : QuotaSpec) (now : Micros) (rs : List Reservation) (b : Baseline) :
    b.observedAt ≤ spec.newest now rs b := le_foldl_max.2 (.inl le_rfl)

/-! ## The entry of the retry -/

theorem documentedStart_isNone (zone : NewYork) (label : String) (windowSeconds : ℤ)
    (t t' : Micros) : (documentedStart zone label windowSeconds t).isNone =
      (documentedStart zone label windowSeconds t').isNone := by
  unfold documentedStart
  split_ifs <;> simp only [Option.isNone_some]

theorem exists_windowStart {reset : String} {w : Micros × Bool}
    (h : windowStart env d reset now = .ok w) (t : Micros) :
    ∃ start, windowStart env d reset t = .ok (start, w.2) := by
  unfold windowStart windowStartForDimension at h ⊢
  by_cases hsafe : providerQuotaResetIsAdmissionSafe (d.admissionReset reset) = true
  · have hnone := documentedStart_isNone env.zone (d.admissionReset reset) d.windowSeconds t now
    rw [if_pos hsafe] at h ⊢
    dsimp only at h ⊢
    generalize documentedStart env.zone (d.admissionReset reset) d.windowSeconds t = o at hnone ⊢
    generalize documentedStart env.zone (d.admissionReset reset) d.windowSeconds now = o' at hnone h
    generalize containsText "rolling" (d.admissionReset reset) = roll at h ⊢
    obtain ⟨found, hfound, rfl⟩ := map_eq_ok.1 h
    rw [← Except.ok.inj hfound]
    cases o with
    | none =>
      cases o' with
      | none => cases roll <;> exact ⟨_, rfl⟩
      | some start => cases hnone
    | some start =>
      cases o' with
      | none => cases hnone
      | some start' => exact ⟨_, rfl⟩
  · rw [if_neg hsafe] at h
    cases h

theorem dimensionSpec_identity (h : dimensionSpec env req now d = .ok (some spec)) :
    require (d.isDistinctIdentity = true → req.usageIdentity.getD "" ≠ "")
      (admissionError ("provider operation identity is missing for " ++ req.providerName ++
        "/" ++ req.operation ++ "/" ++ d.name)) = .ok () := by
  obtain ⟨happlies, hunits, -⟩ := dimensionSpec_eq_some h
  unfold dimensionSpec at h
  rw [if_neg (by simp [happlies])] at h
  obtain ⟨_, -, h⟩ := bind_eq_ok.1 h
  rw [if_neg hunits.ne'] at h
  obtain ⟨⟨⟩, hidentity, -⟩ := bind_eq_ok.1 h
  exact hidentity

theorem exists_retry (h : dimensionSpec env req now d = .ok (some spec))
    (hmetered : spec.releaseOnly = false) (t : Micros) :
    ∃ start, windowStart env d req.policy.quotaContract.reset t = .ok (start, spec.rolling) ∧
      dimensionSpec env req t d = .ok (some (spec.rebind start)) := by
  have hidentity := dimensionSpec_identity h
  obtain ⟨happlies, hunits, window, lease, scope, hwindow, hlease, hscope, hspec⟩ :=
    dimensionSpec_eq_some h
  obtain ⟨start, hstart⟩ := exists_windowStart hwindow t
  have hflight : ¬ d.isInFlight = true := by
    rw [hspec] at hmetered
    simp only [QuotaRequest.spec] at hmetered
    exact Bool.eq_false_iff.1 hmetered
  have hnone : ∀ t, req.lease env t d = .ok none := fun _ => if_neg hflight
  have hlease : lease = none := Except.ok.inj (hlease.symm.trans (hnone now))
  have hrolling : spec.rolling = window.2 := hspec ▸ rfl
  refine ⟨start, by rw [hrolling, hstart], ?_⟩
  unfold dimensionSpec
  rw [if_neg (by simp [happlies]), show require _ _ = .ok () from require_eq_ok.2 hunits.le, ok_bind,
    if_neg hunits.ne', hidentity, ok_bind, hstart, ok_bind, hnone, ok_bind, hscope, ok_bind, hspec,
    hlease]
  simp only [QuotaRequest.spec, QuotaSpec.rebind, pure_eq_ok]

/-! ## When the retry time is right -/

/-- The units of the usage that a denial counted and that lies in the window of the retry. -/
def unitsLeft (spec retry : QuotaSpec) (now retryAt : Micros) (l : Ledger) (b : Baseline) : ℤ :=
  totalUnits ((spec.countedRows now l b).filter fun row => decide (retry.HoldsRow retryAt row))

/-- A retry that is denied, in the ledger `l'` and with the baseline `b'`, is not denied on account
    of the usage of the first denial: nothing of that is left in its window, or what is left leaves
    room for the units of the entry, and the retry counts more. -/
def RetrySound (spec retry : QuotaSpec) (now retryAt : Micros) (l l' : Ledger) (b b' : Baseline) :
    Prop :=
  unitsLeft spec retry now retryAt l b = 0 ∨
    spec.units ≤ spec.limitUnits - unitsLeft spec retry now retryAt l b ∧
      unitsLeft spec retry now retryAt l b < totalUnits (retry.countedRows retryAt l' b')

/-- The units of the usage that is at least a second newer than what `retry_at` is computed from. -/
def unitsSince (spec : QuotaSpec) (now : Micros) (l : Ledger) (b : Baseline) : ℤ :=
  totalUnits ((spec.countedRows now l b).filter fun row =>
    decide (spec.newest now l.reservations b + seconds 1 ≤ row.time))

/-- A rolling window: the usage that is newer than what the retry time is computed from is nothing,
    or leaves room for the reservation.  Any other: the reset label starts another window by
    `window_seconds` after the start of this one, or this holds for the usage in this one. -/
def RetryCondition (env : Coordinator) (d : QuotaDimension) (reset : String) (spec : QuotaSpec)
    (now : Micros) (l : Ledger) (b : Baseline) : Prop :=
  if spec.rolling then
    unitsSince spec now l b = 0 ∨ spec.units ≤ spec.limitUnits - unitsSince spec now l b
  else
    (∀ start rolling, windowStart env d reset
        (spec.bucket.windowStartedAt + seconds spec.bucket.windowSeconds) = .ok (start, rolling) →
      start ≠ spec.bucket.windowStartedAt) ∨
    unitsLeft spec spec now now l b = 0 ∨
      spec.units ≤ spec.limitUnits - unitsLeft spec spec now now l b

theorem QuotaSpec.mem_countedRows : row ∈ spec.countedRows now l b ↔ match row with
    | .baseline x => x = b
    | .settled r => r ∈ l.reservations ∧ r.bucket.pool = spec.bucket.pool ∧ r.state = .settled ∧
        b.precedes r ∧ spec.InWindow now r
    | .window w => w ∈ l.windows ∧ spec.Reads now w.bucket := by
  unfold QuotaSpec.countedRows
  cases row <;> simp

theorem holdsRow_rolling (h : spec.rolling = true) (hrow : row ∈ spec.countedRows now l b)
    (start : Micros) :
    (spec.rebind start).HoldsRow (knownCapacityRetryAt l.reservations spec b now) row ↔
      spec.newest now l.reservations b + seconds 1 ≤ row.time := by
  have hcut : (spec.rebind start).cutoff (knownCapacityRetryAt l.reservations spec b now) =
      spec.newest now l.reservations b + seconds 1 := cutoff_retryAt h l.reservations start
  have hroll : (spec.rebind start).rolling = true := h
  rw [QuotaSpec.mem_countedRows] at hrow
  cases row with
  | baseline x =>
    obtain rfl : x = b := hrow
    have hnew := le_newest spec now l.reservations x
    have hlt : ¬ spec.newest now l.reservations x + seconds 1 ≤ x.observedAt :=
      not_le.2 (hnew.trans_lt (lt_add_of_pos_right _ (by decide)))
    simp only [QuotaSpec.HoldsRow, if_pos hroll, hcut, UsageRow.time]
    exact ⟨fun hheld => hheld.2.2, fun hle => absurd hle hlt⟩
  | settled r =>
    simp only [QuotaSpec.HoldsRow, QuotaSpec.InWindow, if_pos hroll, hcut, UsageRow.time]
  | window w =>
    obtain ⟨-, hreads⟩ := hrow
    simp only [QuotaSpec.Reads, if_pos h] at hreads
    simp only [QuotaSpec.HoldsRow, QuotaSpec.Reads, if_pos hroll, QuotaSpec.overlaps, hcut,
      UsageRow.time]
    exact ⟨fun hall => hall.2.2, fun hle => ⟨hreads.1, hreads.2.1, hle⟩⟩

theorem unitsLeft_rolling (h : spec.rolling = true) (start : Micros) :
    unitsLeft spec (spec.rebind start) now (knownCapacityRetryAt l.reservations spec b now) l b =
      unitsSince spec now l b :=
  congrArg totalUnits (filter_congr fun _ hrow =>
    decide_eq_decide.2 (holdsRow_rolling h hrow start))

theorem not_holdsRow_fixed (h : spec.rolling = false)
    (hfound : ∃ s : QuotaSpec, s.bucket = spec.bucket ∧ s.baselineActive now b)
    (hrow : row ∈ spec.countedRows now l b) {start t : Micros}
    (hstart : start ≠ spec.bucket.windowStartedAt) : ¬ (spec.rebind start).HoldsRow t row := by
  have hroll : ¬ (spec.rebind start).rolling = true := by simp [QuotaSpec.rebind, h]
  have hroll' : ¬ spec.rolling = true := by simp [h]
  rw [QuotaSpec.mem_countedRows] at hrow
  cases row with
  | baseline x =>
    obtain rfl : x = b := hrow
    obtain ⟨s, hs, hkey, hactive⟩ := hfound
    simp only [QuotaSpec.HoldsRow, if_neg hroll]
    rintro ⟨hrolling, hwindow⟩
    have hsfixed : s.rolling = false := by
      rw [← hkey.2.2.2.2, hrolling]
      exact h
    rw [if_neg (by simp [hsfixed]), hs] at hactive
    exact hstart (hwindow.symm.trans hactive)
  | settled r =>
    have hin := hrow.2.2.2.2
    simp only [QuotaSpec.InWindow, if_neg hroll'] at hin
    simp only [QuotaSpec.HoldsRow, QuotaSpec.InWindow, if_neg hroll]
    exact fun hwindow => hstart (hwindow.symm.trans hin)
  | window w =>
    have hin := hrow.2
    simp only [QuotaSpec.Reads, if_neg hroll'] at hin
    simp only [QuotaSpec.HoldsRow, QuotaSpec.Reads, if_neg hroll]
    intro hbucket
    exact hstart (congrArg Bucket.windowStartedAt (hbucket.symm.trans hin))

theorem holdsRow_fixed (h : spec.rolling = false) (t : Micros) :
    spec.HoldsRow t row ↔ spec.HoldsRow now row := by
  have hroll : ¬ spec.rolling = true := by simp [h]
  cases row <;> simp only [QuotaSpec.HoldsRow, QuotaSpec.InWindow, QuotaSpec.Reads, if_neg hroll]

/-- A fixed window is over with all that was counted in it, or keeps it. -/
theorem unitsLeft_fixed (hdenied : DeniedFor env req now l retryAt d spec b)
    (h : spec.rolling = false) (start t : Micros) :
    unitsLeft spec (spec.rebind start) now t l b =
      if start = spec.bucket.windowStartedAt then unitsLeft spec spec now now l b else 0 := by
  unfold unitsLeft
  split_ifs with hstart
  · have hentry : spec.rebind start = spec := by
      rw [hstart]
      rfl
    rw [hentry, filter_congr fun _ _ => decide_eq_decide.2 (holdsRow_fixed h t)]
  · rw [filter_eq_nil_iff.2 fun _ hrow => by
      simpa using not_holdsRow_fixed h hdenied.found hrow hstart]
    rfl

theorem retrySound_iff (hdenied : DeniedFor env req now l retryAt d spec b) {start t : Micros}
    (hstart : windowStart env d req.policy.quotaContract.reset retryAt = .ok (start, spec.rolling))
    {b' : Baseline} (hagain : DeniedFor env req retryAt l' t d (spec.rebind start) b') :
    RetrySound spec (spec.rebind start) now retryAt l l' b b' ↔
      RetryCondition env d req.policy.quotaContract.reset spec now l b := by
  have hretry := hdenied.retry
  -- a denial counts more than leaves room
  have hmore : spec.units ≤ spec.limitUnits - unitsLeft spec (spec.rebind start) now retryAt l b →
      unitsLeft spec (spec.rebind start) now retryAt l b <
        totalUnits ((spec.rebind start).countedRows retryAt l' b') := by
    intro hroom
    have hlacks : spec.limitUnits - totalUnits ((spec.rebind start).countedRows retryAt l' b') <
        spec.units := hagain.lacks
    omega
  unfold RetrySound
  rw [and_iff_left_of_imp hmore]
  unfold RetryCondition
  cases hrolling : spec.rolling with
  | true => rw [if_pos rfl, hretry, unitsLeft_rolling hrolling]
  | false =>
    rw [if_neg Bool.false_ne_true, unitsLeft_fixed hdenied hrolling]
    rw [hretry, retryAt_fixed hrolling] at hstart
    by_cases hsame : start = spec.bucket.windowStartedAt
    · rw [if_pos hsame]
      exact ⟨.inr, fun h => h.resolve_left fun hother => hother _ _ hstart hsame⟩
    · rw [if_neg hsame]
      refine iff_of_true (.inl rfl) (.inl fun start' rolling hstart' => ?_)
      obtain ⟨rfl, -⟩ := Prod.mk.inj (Except.ok.inj (hstart.symm.trans hstart'))
      exact hsame

/-- **When the retry time of a denial is right.**  In every state of the ledger, a reservation that
    is denied with a retry time is denied for the entry of one dimension, and the same reservation
    has an entry for it at the retry time.  When the retry is denied for that entry, in the ledger
    that the denial left, then it is on account of other usage exactly under the condition. -/
theorem retry_at_is_sound_iff {calls : List QuotaCall} (hrun : Run (QuotaStep env) {} calls l)
    (h : reserveProviderQuota env req id now l = .error (.denied l' (some retryAt))) :
    ∃ d spec b retry, DeniedFor env req now l' retryAt d spec b ∧
      dimensionSpec env req retryAt d = .ok (some retry) ∧
      ∀ id' l₂ t b', reserveProviderQuota env req id' retryAt l' = .error (.denied l₂ (some t)) →
        DeniedFor env req retryAt l₂ t d retry b' →
        (RetrySound spec retry now retryAt l' l₂ b b' ↔
          RetryCondition env d req.policy.quotaContract.reset spec now l' b) := by
  obtain ⟨-, d, spec, b, hdenied⟩ := denied_for (balanced_run balanced_empty hrun).1 h
  obtain ⟨start, hstart, hentry⟩ := exists_retry hdenied.entry hdenied.metered retryAt
  exact ⟨d, spec, b, _, hdenied, hentry,
    fun _ _ _ _ _ hagain => retrySound_iff hdenied hstart hagain⟩

end

/-- One credit a calendar month, of thirty days by its seconds. -/
def creditsPerMonth : ProviderPolicy where
  quotaContract :=
    { reset := "calendar_month_utc"
      dimensions :=
        [{ name := "credits", limit := 1, windowSeconds := 2592000, unit := "credits",
           source := "docs", scope := "account", baselineMode := "local_zero",
           applicationUsageOnly := true }] }

/-- The credit of January 2024 is used on the 2nd. -/
def januaryCalls : List QuotaCall :=
  [.reserve (barRequest creditsPerMonth) "first" (seconds 1704153600),
    .settle "first" {} (seconds 1704153660)]

def januaryLedger : Ledger :=
  committed {} (reserveProviderQuota plainCoordinator (barRequest creditsPerMonth) "second"
    (seconds 1704412800) (ledgerAfter plainCoordinator {} januaryCalls))

theorem january_denied :
    reserveProviderQuota plainCoordinator (barRequest creditsPerMonth) "second"
        (seconds 1704412800) (ledgerAfter plainCoordinator {} januaryCalls) =
      .error (.denied januaryLedger (some (seconds 1706659200))) := by
  decide +kernel

theorem retry_denied :
    reserveProviderQuota plainCoordinator (barRequest creditsPerMonth) "third"
        (seconds 1706659200) januaryLedger =
      .error (.denied januaryLedger (some (seconds 1706659200))) := by
  decide +kernel

/-- A reservation of January 5 is denied until January 31, and denied again then. -/
theorem retry_at_january :
    reserveProviderQuota plainCoordinator (barRequest creditsPerMonth) "second"
        (seconds 1704412800) (ledgerAfter plainCoordinator {} januaryCalls) =
      .error (.denied januaryLedger (some (seconds 1706659200))) ∧
    reserveProviderQuota plainCoordinator (barRequest creditsPerMonth) "third"
        (seconds 1706659200) januaryLedger =
      .error (.denied januaryLedger (some (seconds 1706659200))) :=
  ⟨january_denied, retry_denied⟩

theorem retry_at_january_entry : ∃ d spec b retry b',
    DeniedFor plainCoordinator (barRequest creditsPerMonth) (seconds 1704412800) januaryLedger
      (seconds 1706659200) d spec b ∧
    DeniedFor plainCoordinator (barRequest creditsPerMonth) (seconds 1706659200) januaryLedger
      (seconds 1706659200) d retry b' ∧
    (RetrySound spec retry (seconds 1704412800) (seconds 1706659200) januaryLedger januaryLedger
        b b' ↔
      RetryCondition plainCoordinator d "calendar_month_utc" spec (seconds 1704412800)
        januaryLedger b) := by
  have hrun := run_ledgerAfter plainCoordinator {} januaryCalls
  obtain ⟨d, spec, b, retry, hdenied, hretry, hsound⟩ := retry_at_is_sound_iff hrun january_denied
  -- the retry is denied for the one dimension too
  obtain ⟨-, d', retry', b', hagain⟩ :=
    denied_for (denied_for (balanced_run balanced_empty hrun).1 january_denied).1 retry_denied
  have hsame : d' = d := (mem_singleton.1 hagain.dimension).trans
    (mem_singleton.1 hdenied.dimension).symm
  subst hsame
  obtain rfl := Option.some.inj (Except.ok.inj (hagain.entry.symm.trans hretry))
  exact ⟨_, spec, b, _, b', hdenied, hagain, hsound _ _ _ _ retry_denied hagain⟩

end ChartingPlatform
