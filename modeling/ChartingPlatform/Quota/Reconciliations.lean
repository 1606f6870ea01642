/-
  Reconciled baselines of a window that is reset at a fixed moment
  (`reconcile_provider_quota_baseline`).
-/
import ChartingPlatform.Quota.Runs

namespace ChartingPlatform

open Lib List

/-! ## The usage of a window -/

def QuotaSpec.SameWindow (spec spec' : QuotaSpec) : Prop :=
  spec'.bucket = spec.bucket ∧ spec'.unit = spec.unit ∧ spec'.reset = spec.reset ∧
    spec'.rolling = spec.rolling

/-- The usage that counts against the limit of the entry, where it has a baseline. -/
def Ledger.effectiveUsed (l : Ledger) (spec : QuotaSpec) (now : Micros) : Option ℤ :=
  (activeBaseline l.baselines spec now).map fun b =>
    b.usedUnits + settledUnitsSinceBaseline l.reservations spec now b

/-- The later usage is known and no smaller, if the earlier is known. -/
def NoLess (earlier later : Option ℤ) : Prop := ∀ x ∈ earlier, ∃ y ∈ later, x ≤ y

def settledUnitsBefore (rs : List Reservation) (spec : QuotaSpec) (now t : Micros) : ℤ :=
  (rs.map fun r =>
    if r.bucket.pool = spec.bucket.pool ∧ r.state = .settled ∧ r.createdAt < t ∧ spec.InWindow now r
    then r.reservedUnits else 0).sum

def Reconciliation.row (env : Coordinator) (rec : Reconciliation) (now : Micros) (l : Ledger)
    (spec : QuotaSpec) : Baseline :=
  reconciledBaseline env spec rec.report
    (storedUsedUnits l.reservations spec rec.report now (activeBaseline l.baselines spec now))

/-- The report passes the checks for the window of an entry. -/
structure Reconciliation.Accepted (env : Coordinator) (rec : Reconciliation) (now : Micros)
    (l : Ledger) (spec : QuotaSpec) : Prop where
  past : rec.report.observedAt ≤ now
  nonneg : 0 ≤ rec.report.usedUnits
  source : rec.report.source ∈ baselineSources
  entry : reconciliationSpec env rec now = .ok spec
  quiet : ∀ r ∈ l.reservations, r.bucket.pool = spec.bucket.pool → spec.InWindow now r →
    r.outstanding = false
  newest : ∀ b ∈ activeBaseline l.baselines spec now, b.observedAt ≤ rec.report.observedAt

/-- The report is as old as a local-zero baseline, it is a new one, and it adds less than was
    settled in the window for reservations before that moment. -/
structure Reconciliation.Forgives (env : Coordinator) (rec : Reconciliation) (now : Micros)
    (l : Ledger) (spec : QuotaSpec) (previous : Baseline) : Prop
    extends rec.Accepted env now l spec where
  active : activeBaseline l.baselines spec now = some previous
  localZero : previous.isLocalZero = true
  sameTime : rec.report.observedAt = previous.observedAt
  fresh : (rec.row env now l spec).idempotencyKey ∉ l.baselines.map Baseline.idempotencyKey
  lost : max rec.report.usedUnits previous.usedUnits <
    previous.usedUnits + settledUnitsBefore l.reservations spec now previous.observedAt

section
variable {env : Coordinator} {rec : Reconciliation} {now now' s t : Micros} {l l' : Ledger}
  {spec spec' : QuotaSpec} {b : Baseline} {bs : List Baseline} {rs : List Reservation}

theorem NoLess.refl (x : Option ℤ) : NoLess x x := fun a ha => ⟨a, ha, le_rfl⟩

theorem NoLess.trans {x y z : Option ℤ} (h : NoLess x y) (h' : NoLess y z) : NoLess x z := by
  intro a ha
  obtain ⟨b, hb, hab⟩ := h a ha
  obtain ⟨c, hc, hbc⟩ := h' b hb
  exact ⟨c, hc, hab.trans hbc⟩

@[simp] theorem noLess_some {x y : ℤ} : NoLess (some x) (some y) ↔ x ≤ y := by
  simp [NoLess]

/-! ## The baseline of a window -/

theorem baselineActive_congr (h : spec.SameWindow spec') (hfixed : spec.rolling = false) :
    spec'.baselineActive s b ↔ spec.baselineActive t b := by
  obtain ⟨hbucket, hunit, hreset, hrolling⟩ := h
  simp [QuotaSpec.baselineActive, QuotaSpec.baselineKey, hbucket, hunit, hreset, hrolling, hfixed]

theorem inWindow_congr (h : spec.SameWindow spec') (hfixed : spec.rolling = false)
    {r : Reservation} : spec'.InWindow s r ↔ spec.InWindow t r := by
  obtain ⟨hbucket, -, -, hrolling⟩ := h
  simp [QuotaSpec.InWindow, hbucket, hrolling, hfixed]

theorem activeBaseline_congr (h : spec.SameWindow spec') (hfixed : spec.rolling = false) :
    activeBaseline bs spec' s = activeBaseline bs spec t := by
  unfold activeBaseline
  simp only [baselineActive_congr h hfixed (t := t) (s := s)]

theorem settledUnits_congr (h : spec.SameWindow spec') (hfixed : spec.rolling = false) :
    settledUnitsSinceBaseline rs spec' s b = settledUnitsSinceBaseline rs spec t b := by
  unfold settledUnitsSinceBaseline
  simp only [inWindow_congr h hfixed (t := t) (s := s), h.1]

theorem effectiveUsed_congr (h : spec.SameWindow spec') (hfixed : spec.rolling = false) :
    l.effectiveUsed spec' s = l.effectiveUsed spec t := by
  unfold Ledger.effectiveUsed
  rw [activeBaseline_congr h hfixed]
  exact congrFun (congrArg Option.map (funext fun b => by rw [settledUnits_congr h hfixed])) _

theorem activeBaseline_append (h : spec.baselineActive now b)
    (hnewest : ∀ x ∈ activeBaseline bs spec now, x.observedAt ≤ b.observedAt) :
    activeBaseline (bs ++ [b]) spec now = some b := by
  have hone : [b].filter (fun x => decide (spec.baselineActive now x)) = [b] :=
    filter_cons_of_pos (decide_eq_true h)
  unfold activeBaseline at hnewest ⊢
  rw [filter_append, hone, reverse_append, reverse_singleton, singleton_append,
    largestBy]
  cases hprevious : largestBy (·.observedAt)
      (bs.filter fun x => decide (spec.baselineActive now x)).reverse with
  | none => rfl
  | some x => exact if_neg (not_lt.2 (hnewest x hprevious))

theorem activeBaseline_append_inactive (h : ¬ spec.baselineActive now b) :
    activeBaseline (bs ++ [b]) spec now = activeBaseline bs spec now := by
  have hnone : [b].filter (fun x => decide (spec.baselineActive now x)) = [] :=
    filter_cons_of_neg (by simp [h])
  unfold activeBaseline
  rw [filter_append, hnone, append_nil]

/-! ## What was settled -/

theorem settled_localZero {observed : Baseline} (h : b.isLocalZero = true)
    (hother : observed.isLocalZero = false) (htime : observed.observedAt = b.observedAt) :
    settledUnitsSinceBaseline rs spec now b =
      settledUnitsBefore rs spec now b.observedAt + settledUnitsSinceBaseline rs spec now observed := by
  unfold settledUnitsSinceBaseline settledUnitsBefore
  rw [← sum_map_add]
  refine congrArg List.sum (map_congr_left fun r _ => ?_)
  by_cases hearlier : r.createdAt < b.observedAt
  · simp [Baseline.precedes, h, hother, htime, hearlier]
  · simp [Baseline.precedes, h, hother, htime, hearlier, not_lt.1 hearlier]

theorem settled_sameTime {observed : Baseline} (h : b.isLocalZero = false)
    (hother : observed.isLocalZero = false) (htime : observed.observedAt = b.observedAt) :
    settledUnitsSinceBaseline rs spec now observed = settledUnitsSinceBaseline rs spec now b := by
  unfold settledUnitsSinceBaseline Baseline.precedes
  simp only [h, hother, htime]

theorem settled_nonneg (h : ∀ r ∈ rs, 0 ≤ r.reservedUnits) :
    0 ≤ settledUnitsSinceBaseline rs spec now b := by
  refine sum_nonneg fun x hx => ?_
  obtain ⟨r, hr, rfl⟩ := mem_map.1 hx
  split_ifs
  · exact h r hr
  · exact le_rfl

/-! ## What a call does -/

theorem reconciliationSpec_unique (h : reconciliationSpec env rec now = .ok spec)
    (h' : reconciliationSpec env rec now' = .ok spec') : spec' = spec := by
  unfold reconciliationSpec at h h'
  dsimp only at h h'
  generalize rec.policy.quotaContract.dimensions.filter
    (fun d => decide (d.name = rec.dimensionName)) = ds at h h'
  rcases ds with _ | ⟨d, _ | ⟨d', ds⟩⟩
  · cases h
  · dsimp only at h h'
    split_ifs at h h'
    obtain ⟨observed, hobserved, h⟩ := bind_eq_ok.1 h
    obtain ⟨observed', hobserved', h'⟩ := bind_eq_ok.1 h'
    obtain rfl := Except.ok.inj (hobserved.symm.trans hobserved')
    obtain ⟨_, -, h⟩ := bind_eq_ok.1 h
    obtain ⟨_, -, h'⟩ := bind_eq_ok.1 h'
    obtain ⟨_, -, h⟩ := bind_eq_ok.1 h
    obtain ⟨_, -, h'⟩ := bind_eq_ok.1 h'
    obtain ⟨_, -, h⟩ := bind_eq_ok.1 h
    obtain ⟨_, -, h'⟩ := bind_eq_ok.1 h'
    obtain ⟨_, -, h⟩ := bind_eq_ok.1 h
    obtain ⟨_, -, h'⟩ := bind_eq_ok.1 h'
    obtain ⟨scope, hscope, h⟩ := bind_eq_ok.1 h
    obtain ⟨scope', hscope', h'⟩ := bind_eq_ok.1 h'
    obtain rfl := Except.ok.inj (hscope.symm.trans hscope')
    exact Except.ok.inj (h'.symm.trans h)
  · cases h

theorem row_active (hfixed : spec.rolling = false) (t : Micros) :
    spec.baselineActive t (rec.row env now l spec) := by
  refine ⟨⟨rfl, rfl, rfl, rfl, rfl⟩, ?_⟩
  rw [if_neg (by simp [hfixed])]
  rfl

theorem reconcile_eq_ok (h : reconcileProviderQuotaBaseline env rec now l = .ok l') :
    ∃ spec, rec.Accepted env now l spec ∧
      l' = { l with baselines := insertBaseline (rec.row env now l spec) l.baselines } := by
  unfold reconcileProviderQuotaBaseline at h
  obtain ⟨_, hpast, h⟩ := bind_eq_ok.1 h
  obtain ⟨_, hnonneg, h⟩ := bind_eq_ok.1 h
  obtain ⟨_, hsource, h⟩ := bind_eq_ok.1 h
  obtain ⟨spec, hentry, h⟩ := bind_eq_ok.1 h
  unfold reconcileBaseline at h
  split_ifs at h with hpending
  dsimp only at h
  split_ifs at h with hnewer
  refine ⟨spec, ⟨require_eq_ok.1 hpast, require_eq_ok.1 hnonneg, require_eq_ok.1 hsource, hentry,
    fun r hr hpool hin => ?_, fun b hb => ?_⟩, ?_⟩
  · exact Bool.eq_false_iff.2 fun hout => hpending ⟨r, hr, hpool, hout, hin⟩
  · rw [Option.mem_def.1 hb] at hnewer
    exact not_lt.1 fun hlt => hnewer (decide_eq_true hlt)
  · split at h
    · cases h
    · exact (Except.ok.inj h).symm

theorem Reconciliation.Accepted.reconcile (h : rec.Accepted env now l spec)
    (hfixed : spec.rolling = false)
    (hfresh : (rec.row env now l spec).idempotencyKey ∉ l.baselines.map Baseline.idempotencyKey) :
    reconcileProviderQuotaBaseline env rec now l =
      .ok { l with baselines := l.baselines ++ [rec.row env now l spec] } := by
  have hinsert : insertBaseline (rec.row env now l spec) l.baselines =
      l.baselines ++ [rec.row env now l spec] := by
    unfold insertBaseline insertNew
    rw [if_neg hfresh]
    rfl
  have hactive : activeBaseline (l.baselines ++ [rec.row env now l spec]) spec now = some _ :=
    activeBaseline_append (row_active hfixed now) h.newest
  have hquiet : ¬ ∃ r ∈ l.reservations, r.bucket.pool = spec.bucket.pool ∧ r.outstanding = true ∧
      spec.InWindow now r := fun ⟨r, hr, hpool, hout, hin⟩ => by
    rw [h.quiet r hr hpool hin] at hout
    cases hout
  have holder : ¬ ((activeBaseline l.baselines spec now).any fun b =>
      decide (rec.report.observedAt < b.observedAt)) = true := by
    cases hprevious : activeBaseline l.baselines spec now with
    | none => exact Bool.false_ne_true
    | some b => exact decide_eq_true_iff.not.2 (not_lt.2 (h.newest b hprevious))
  unfold reconcileProviderQuotaBaseline
  rw [show require _ _ = .ok () from require_eq_ok.2 h.past, ok_bind,
    show require _ _ = .ok () from require_eq_ok.2 h.nonneg, ok_bind,
    show require _ _ = .ok () from require_eq_ok.2 h.source, ok_bind, h.entry, ok_bind]
  unfold reconcileBaseline
  rw [if_neg hquiet]
  dsimp only
  rw [if_neg holder]
  rw [show reconciledBaseline env spec rec.report (storedUsedUnits l.reservations spec rec.report now
    (activeBaseline l.baselines spec now)) = rec.row env now l spec from rfl, hinsert, hactive]

theorem reconcile_cases (env : Coordinator) (rec : Reconciliation) (now : Micros) (l : Ledger) :
    (QuotaCall.reconcile rec now).commit env l = l ∨
      ∃ spec, rec.Accepted env now l spec ∧
        (rec.row env now l spec).idempotencyKey ∉ l.baselines.map Baseline.idempotencyKey ∧
        (QuotaCall.reconcile rec now).commit env l =
          { l with baselines := l.baselines ++ [rec.row env now l spec] } := by
  rw [QuotaCall.commit]
  cases h : reconcileProviderQuotaBaseline env rec now l with
  | error e => exact .inl rfl
  | ok l' =>
    obtain ⟨spec, haccepted, rfl⟩ := reconcile_eq_ok h
    unfold keptOnError insertBaseline insertNew
    split_ifs with hkey
    · exact .inl rfl
    · exact .inr ⟨spec, haccepted, hkey, rfl⟩

theorem Reconciliation.Accepted.not_localZero (h : rec.Accepted env now l spec) :
    (rec.row env now l spec).isLocalZero = false := by
  have hsource := h.source
  unfold baselineSources at hsource
  have hne : rec.report.source ≠ "local_policy" := by
    rintro heq
    rw [heq] at hsource
    exact absurd hsource (by decide)
  unfold Baseline.isLocalZero
  rw [Bool.and_eq_false_iff]
  exact .inl (decide_eq_false hne)

theorem effectiveUsed_other (h : ¬ spec.SameWindow spec') (hfixed : spec.rolling = false) :
    { l with baselines := l.baselines ++ [rec.row env now l spec'] }.effectiveUsed spec t =
      l.effectiveUsed spec t := by
  have hinactive : ¬ spec.baselineActive t (rec.row env now l spec') := by
    rintro ⟨⟨hpool, hlength, hunit, hreset, hrolling⟩, hstart⟩
    rw [if_neg (by simp [hfixed])] at hstart
    refine h ⟨?_, hunit, hreset, hrolling⟩
    calc spec'.bucket = ⟨spec'.bucket.pool, spec'.bucket.windowStartedAt,
          spec'.bucket.windowSeconds⟩ := rfl
      _ = ⟨spec.bucket.pool, spec.bucket.windowStartedAt, spec.bucket.windowSeconds⟩ :=
        congr (congr (congrArg Bucket.mk hpool) hstart) hlength
  unfold Ledger.effectiveUsed
  rw [activeBaseline_append_inactive hinactive]

theorem effectiveUsed_row (h : rec.Accepted env now l spec) (hfixed : spec.rolling = false) :
    { l with baselines := l.baselines ++ [rec.row env now l spec] }.effectiveUsed spec now =
      some (storedUsedUnits l.reservations spec rec.report now
          (activeBaseline l.baselines spec now) +
        settledUnitsSinceBaseline l.reservations spec now (rec.row env now l spec)) := by
  unfold Ledger.effectiveUsed
  rw [activeBaseline_append (row_active hfixed now) h.newest]
  rfl

theorem noLess_row_iff (hl : ∀ r ∈ l.reservations, 0 ≤ r.reservedUnits)
    (hfixed : spec.rolling = false)
    (hnative : rec.report.nativeSnapshotIncludesPriorLocalActivity = false)
    (h : rec.Accepted env now l spec)
    (hfresh : (rec.row env now l spec).idempotencyKey ∉ l.baselines.map Baseline.idempotencyKey) :
    NoLess (l.effectiveUsed spec now) ({ l with
        baselines := l.baselines ++ [rec.row env now l spec] }.effectiveUsed spec now) ↔
      ∀ previous, ¬ rec.Forgives env now l spec previous := by
  rw [effectiveUsed_row h hfixed]
  have hsince : 0 ≤ settledUnitsSinceBaseline l.reservations spec now (rec.row env now l spec) :=
    settled_nonneg hl
  cases hprevious : activeBaseline l.baselines spec now with
  | none =>
    unfold Ledger.effectiveUsed
    rw [hprevious]
    refine iff_of_true nofun fun x hx => ?_
    cases hprevious.symm.trans hx.active
  | some previous =>
    have hused : l.effectiveUsed spec now = some (previous.usedUnits +
        settledUnitsSinceBaseline l.reservations spec now previous) := by
      unfold Ledger.effectiveUsed
      rw [hprevious]
      rfl
    rw [hused, noLess_some]
    unfold storedUsedUnits
    by_cases htime : rec.report.observedAt = previous.observedAt
    · simp only [if_pos htime]
      cases hzero : previous.isLocalZero with
      | true =>
        rw [settled_localZero hzero h.not_localZero htime, ← add_assoc, add_le_add_iff_right]
        constructor
        · intro hle x hx
          obtain rfl := Option.some.inj (hprevious.symm.trans hx.active)
          exact absurd hle (not_le.2 hx.lost)
        · intro hnot
          exact not_lt.1 fun hlt => hnot previous ⟨h, hprevious, hzero, htime, hfresh, hlt⟩
      | false =>
        rw [settled_sameTime hzero h.not_localZero htime, add_le_add_iff_right]
        refine iff_of_true (le_max_right _ _) fun x hx => ?_
        obtain rfl := Option.some.inj (hprevious.symm.trans hx.active)
        cases hzero.symm.trans hx.localZero
    · simp only [if_neg htime, hnative, hfixed, Bool.or_self, Bool.false_eq_true, if_false]
      refine iff_of_true ((le_max_right _ _).trans (le_add_of_nonneg_right hsince)) fun x hx => ?_
      obtain rfl := Option.some.inj (hprevious.symm.trans hx.active)
      exact htime hx.sameTime

theorem noLess_reconcile_iff (hl : ∀ r ∈ l.reservations, 0 ≤ r.reservedUnits)
    (hfixed : spec.rolling = false)
    (hnative : rec.report.nativeSnapshotIncludesPriorLocalActivity = false) (t : Micros) :
    NoLess (l.effectiveUsed spec t)
        (((QuotaCall.reconcile rec now).commit env l).effectiveUsed spec t) ↔
      ∀ spec' previous, spec.SameWindow spec' → ¬ rec.Forgives env now l spec' previous := by
  rcases reconcile_cases env rec now l with h | ⟨spec₁, haccepted, hfresh, h⟩
  · rw [h]
    refine iff_of_true (NoLess.refl _) fun spec' previous hsame hf => ?_
    have hinserted := hf.toAccepted.reconcile (hsame.2.2.2.trans hfixed) hf.fresh
    rw [QuotaCall.commit, hinserted] at h
    exact absurd (congrArg (List.length ∘ Ledger.baselines) h) (by simp [keptOnError])
  · rw [h]
    have hentry : ∀ {spec' previous}, rec.Forgives env now l spec' previous → spec' = spec₁ :=
      fun hf => reconciliationSpec_unique haccepted.entry hf.entry
    by_cases hsame : spec.SameWindow spec₁
    · rw [← effectiveUsed_congr hsame hfixed (s := now), ← effectiveUsed_congr hsame hfixed (s := now),
        noLess_row_iff hl (hsame.2.2.2.trans hfixed) hnative haccepted hfresh]
      constructor
      · rintro hnot spec' previous - hf
        obtain rfl := hentry hf
        exact hnot previous hf
      · exact fun hnot previous => hnot spec₁ previous hsame
    · rw [effectiveUsed_other hsame hfixed]
      refine iff_of_true (NoLess.refl _) fun spec' previous hsame' hf => ?_
      obtain rfl := hentry hf
      exact hsame hsame'

/-! ## Sequences of calls -/

/-- The ledger after a sequence of calls, each with its clock value. -/
def Ledger.reconciled (env : Coordinator) (l : Ledger) (recs : List (Reconciliation × Micros)) :
    Ledger :=
  ledgerAfter env l (recs.map fun c => .reconcile c.1 c.2)

variable {recs recs' : List (Reconciliation × Micros)}

theorem reconciled_append (env : Coordinator) (l : Ledger)
    (recs recs' : List (Reconciliation × Micros)) :
    l.reconciled env (recs ++ recs') = (l.reconciled env recs).reconciled env recs' := by
  unfold Ledger.reconciled ledgerAfter
  rw [map_append, foldl_append]

theorem reconcile_keeps (env : Coordinator) (rec : Reconciliation) (now : Micros) (l : Ledger) :
    ((QuotaCall.reconcile rec now).commit env l).reservations = l.reservations ∧
      l.baselines ⊆ ((QuotaCall.reconcile rec now).commit env l).baselines := by
  rcases reconcile_cases env rec now l with h | ⟨spec, -, -, h⟩
  · rw [h]
    exact ⟨rfl, List.Subset.refl _⟩
  · rw [h]
    exact ⟨rfl, subset_append_left _ _⟩

theorem reconciled_keeps (env : Coordinator) (l : Ledger)
    (recs : List (Reconciliation × Micros)) :
    (l.reconciled env recs).reservations = l.reservations ∧
      l.baselines ⊆ (l.reconciled env recs).baselines := by
  induction recs generalizing l with
  | nil => exact ⟨rfl, List.Subset.refl _⟩
  | cons c recs ih =>
    have hone := reconcile_keeps env c.1 c.2 l
    have hrest := ih ((QuotaCall.reconcile c.1 c.2).commit env l)
    exact ⟨hrest.1.trans hone.1, List.Subset.trans hone.2 hrest.2⟩

theorem reconcile_again (hentry : reconciliationSpec env rec now = .ok spec)
    (hkey : (rec.row env now l spec).idempotencyKey ∈ l'.baselines.map Baseline.idempotencyKey)
    (now' : Micros) : (QuotaCall.reconcile rec now').commit env l' = l' := by
  rcases reconcile_cases env rec now' l' with h | ⟨spec', haccepted, hfresh, -⟩
  · exact h
  · obtain rfl := reconciliationSpec_unique hentry haccepted.entry
    exact absurd hkey hfresh

theorem key_stored (h : reconcileProviderQuotaBaseline env rec now l = .ok l') :
    ∃ spec, reconciliationSpec env rec now = .ok spec ∧
      (rec.row env now l spec).idempotencyKey ∈ l'.baselines.map Baseline.idempotencyKey := by
  obtain ⟨spec, haccepted, rfl⟩ := reconcile_eq_ok h
  refine ⟨spec, haccepted.entry, ?_⟩
  unfold insertBaseline insertNew
  split_ifs with hkey
  · exact hkey
  · simp

theorem reconcile_twice (env : Coordinator) (rec : Reconciliation) (now : Micros) (l : Ledger) :
    (QuotaCall.reconcile rec now).commit env ((QuotaCall.reconcile rec now).commit env l) =
      (QuotaCall.reconcile rec now).commit env l := by
  cases h : reconcileProviderQuotaBaseline env rec now l with
  | error e =>
    have hsame : (QuotaCall.reconcile rec now).commit env l = l := by
      rw [QuotaCall.commit, h]
      rfl
    rw [hsame, hsame]
  | ok l' =>
    have hnext : (QuotaCall.reconcile rec now).commit env l = l' := by
      rw [QuotaCall.commit, h]
      rfl
    obtain ⟨spec, hentry, hkey⟩ := key_stored h
    rw [hnext]
    exact reconcile_again hentry hkey now

/-- **When baselines never forgive usage.**  In every ledger that calls can reach, along every
    sequence of reports, the usage of a window with a fixed reset never shrinks exactly when no
    report forgives: none is as old as a local-zero baseline and below what was settled for
    reservations before it.  A report that is repeated changes nothing. -/
theorem reconciliations_never_forgive {calls : List QuotaCall}
    (hrun : Run (QuotaStep env) {} calls l) (hfixed : spec.rolling = false)
    (hnative : ∀ c ∈ recs, c.1.report.nativeSnapshotIncludesPriorLocalActivity = false)
    (t : Micros) :
    ((∀ before between after, recs = before ++ between ++ after →
        NoLess ((l.reconciled env before).effectiveUsed spec t)
          ((l.reconciled env (before ++ between)).effectiveUsed spec t)) ↔
      ∀ before call after, recs = before ++ call :: after →
        ∀ spec' previous, spec.SameWindow spec' →
          ¬ call.1.Forgives env call.2 (l.reconciled env before) spec' previous) ∧
    ∀ before call after, recs = before ++ call :: after →
      l.reconciled env (before ++ [call, call]) = l.reconciled env (before ++ [call]) ∧
      ∀ l', reconcileProviderQuotaBaseline env call.1 call.2 (l.reconciled env before) = .ok l' →
        ∀ now, (QuotaCall.reconcile call.1 now).commit env (l.reconciled env recs) =
          l.reconciled env recs := by
  have hl := (balanced_run balanced_empty hrun).1.nonneg
  have hnonneg : ∀ recs, ∀ r ∈ (l.reconciled env recs).reservations, 0 ≤ r.reservedUnits :=
    fun recs => (reconciled_keeps env l recs).1.symm ▸ hl
  have hstep : ∀ before call, l.reconciled env (before ++ [call]) =
      (QuotaCall.reconcile call.1 call.2).commit env (l.reconciled env before) :=
    fun before call => reconciled_append env l before [call]
  refine ⟨⟨fun h before call after hrecs => ?_, fun h before between => ?_⟩, ?_⟩
  · have hone := h before [call] after (by simp [hrecs])
    rw [hstep] at hone
    exact (noLess_reconcile_iff (hnonneg _) hfixed (hnative call (by simp [hrecs])) t).1 hone
  · induction between using List.reverseRecOn with
    | nil =>
      intro after _
      rw [append_nil]
      exact NoLess.refl _
    | append_singleton between call ih =>
      intro after hrecs
      have hsplit : recs = (before ++ between) ++ call :: after := by simp [hrecs]
      have hearlier := ih (call :: after) hsplit
      rw [← append_assoc, hstep]
      exact hearlier.trans ((noLess_reconcile_iff (hnonneg _) hfixed
        (hnative call (by simp [hsplit])) t).2 (h _ call after hsplit))
  · rintro before call after hrecs
    refine ⟨?_, fun l' hok now => ?_⟩
    · have htwice : before ++ [call, call] = (before ++ [call]) ++ [call] := by simp
      rw [htwice, hstep, hstep]
      exact reconcile_twice env call.1 call.2 _
    · obtain ⟨spec', hentry, hkey⟩ := key_stored hok
      have hnext : l.reconciled env recs = l'.reconciled env after := by
        rw [hrecs, reconciled_append]
        change ((QuotaCall.reconcile call.1 call.2).commit env (l.reconciled env before)).reconciled
          env after = _
        rw [QuotaCall.commit, hok]
        rfl
      rw [hnext]
      exact reconcile_again hentry
        (map_subset _ (reconciled_keeps env l' after).2 hkey) now

end

/-- The window of a contract of ten requests a minute. -/
def minuteSpec : QuotaSpec where
  providerName := "polygon"
  operation := ""
  bucket := { pool := ⟨"polygon", "bars", "requests"⟩, windowStartedAt := 0, windowSeconds := 60 }
  unit := "requests"
  reset := "fixed_minute"
  rolling := false
  limitUnits := 10
  baselineMode := "local_zero"
  applicationUsageOnly := true
  units := 1
  releaseOnly := false
  leaseExpiresAt := none
  identityDigest := none

/-- A request at 20 s starts to count from zero, another one is reserved by a clock that
    is ten seconds behind, and both are settled. -/
def lateClockCalls : List QuotaCall :=
  [.reserve (barRequest requestsPerMinute) "first" 20000000,
    .reserve (barRequest requestsPerMinute) "second" 10000000,
    .settle "first" {} 21000000, .settle "second" {} 11000000]

def nothingUsed : Reconciliation where
  providerName := "polygon"
  capability := "bars"
  policy := requestsPerMinute
  dimensionName := "requests"
  report :=
    { usedUnits := 0
      observedAt := 20000000
      evidenceReference := "dashboard:polygon:1970-01-01" }

/-- The report takes the second request out of the usage. -/
theorem reconciliation_forgives :
    Run (QuotaStep plainCoordinator) {} lateClockCalls
        (ledgerAfter plainCoordinator {} lateClockCalls) ∧
      (ledgerAfter plainCoordinator {} lateClockCalls).effectiveUsed minuteSpec 30000000 = some 2 ∧
      ((ledgerAfter plainCoordinator {} lateClockCalls).reconciled plainCoordinator
        [(nothingUsed, 30000000)]).effectiveUsed minuteSpec 30000000 = some 1 :=
  ⟨run_ledgerAfter _ _ _, by decide +kernel, by decide +kernel⟩

theorem reconciliations_never_forgive_minute :
    (∀ before between after, [(nothingUsed, 30000000)] = before ++ between ++ after →
      NoLess (((ledgerAfter plainCoordinator {} barCalls).reconciled plainCoordinator
          before).effectiveUsed minuteSpec 0)
        (((ledgerAfter plainCoordinator {} barCalls).reconciled plainCoordinator
          (before ++ between)).effectiveUsed minuteSpec 0)) ↔
    ∀ before call after, [(nothingUsed, 30000000)] = before ++ call :: after →
      ∀ spec' previous, minuteSpec.SameWindow spec' →
        ¬ call.1.Forgives plainCoordinator call.2
          ((ledgerAfter plainCoordinator {} barCalls).reconciled plainCoordinator before) spec'
          previous :=
  (reconciliations_never_forgive (run_ledgerAfter plainCoordinator {} barCalls) rfl
    (by decide) 0).1

end ChartingPlatform
