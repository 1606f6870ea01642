/-
  Bookkeeping of the quota ledger.
-/
import ChartingPlatform.Lib.Scans
import ChartingPlatform.Quota.Planning

namespace ChartingPlatform

open Lib List

section
variable {env : Coordinator} {l l' l'' : Ledger} {r x : Reservation} {rs : List Reservation}
  {w : QuotaWindow} {b : Bucket} {now : Micros} {s : Settlement} {id : String} {p : Preparation}
  {unitsOf : QuotaSpec → ℤ} {spec : QuotaSpec} {e : Refusal} {specs : List QuotaSpec}
  {windows : Bucket → Option QuotaWindow} {c : QuotaSpec × ℤ} {cs : List (QuotaSpec × ℤ)}

/-! ## Held units -/

theorem heldUnits_append (rs : List Reservation) (r : Reservation) (b : Bucket) :
    heldUnits (rs ++ [r]) b = heldUnits rs b + r.heldIn b := by
  simp [heldUnits]

theorem heldUnits_updateRow {f : Reservation → Reservation} (hn : (rs.map Reservation.key).Nodup)
    (hr : r ∈ rs) (b : Bucket) :
    heldUnits (updateRow Reservation.key r.key f rs) b =
      heldUnits rs b - r.heldIn b + (f r).heldIn b :=
  sum_updateRow hn hr rfl _

theorem heldIn_of_ne (h : r.bucket ≠ b) : r.heldIn b = 0 := if_neg fun hb => h hb.1

theorem heldIn_self (h : r.outstanding = true) : r.heldIn r.bucket = r.reservedUnits :=
  if_pos ⟨rfl, h⟩

theorem heldIn_of_closed (h : r.outstanding = false) : r.heldIn b = 0 :=
  if_neg fun hb => by simp [h] at hb

theorem heldIn_nonneg (h : 0 ≤ r.reservedUnits) : 0 ≤ r.heldIn b := by
  unfold Reservation.heldIn
  split_ifs
  · exact h
  · exact le_refl 0

theorem heldIn_le_heldUnits (h : ∀ r ∈ rs, 0 ≤ r.reservedUnits) (hr : r ∈ rs) :
    r.heldIn b ≤ heldUnits rs b :=
  single_le_sum (fun z hz => by
    obtain ⟨y, hy, rfl⟩ := mem_map.1 hz
    exact heldIn_nonneg (h y hy)) _ (mem_map_of_mem hr)

theorem heldUnits_eq_zero (h : ∀ r ∈ rs, r.bucket ≠ b) : heldUnits rs b = 0 :=
  sum_eq_zero fun z hz => by
    obtain ⟨y, hy, rfl⟩ := mem_map.1 hz
    exact heldIn_of_ne (h y hy)

theorem buckets_updateWindow (l : Ledger) (b : Bucket) {g : QuotaWindow → QuotaWindow}
    (hg : ∀ w, (g w).bucket = w.bucket) :
    (l.updateWindow b g).windows.map QuotaWindow.bucket = l.windows.map QuotaWindow.bucket :=
  map_key_updateRow fun w hw => (hg w).trans hw

/-! ## Balanced books -/

/-- The window rows and the reservation rows agree. -/
structure Balanced (l : Ledger) : Prop where
  unique_windows : (l.windows.map QuotaWindow.bucket).Nodup
  unique_reservations : (l.reservations.map Reservation.key).Nodup
  bound : ∀ r ∈ l.reservations, r.bucket ∈ l.windows.map QuotaWindow.bucket
  nonneg : ∀ r ∈ l.reservations, 0 ≤ r.reservedUnits
  balance : ∀ w ∈ l.windows, w.reservedUnits = heldUnits l.reservations w.bucket

theorem balanced_empty : Balanced {} := by
  constructor <;> simp

/-- What a later ledger keeps of an earlier one: closed rows and open windows. -/
structure Keeps (l l' : Ledger) : Prop where
  closed : ∀ r ∈ l.reservations, r.outstanding = false → r ∈ l'.reservations
  windows : ∀ b ∈ l.windows.map QuotaWindow.bucket, b ∈ l'.windows.map QuotaWindow.bucket

theorem Keeps.refl (l : Ledger) : Keeps l l := ⟨fun _ h _ => h, fun _ h => h⟩

theorem Keeps.trans (h : Keeps l l') (h' : Keeps l' l'') : Keeps l l'' :=
  ⟨fun r hr hc => h'.closed r (h.closed r hr hc) hc, fun b hb => h'.windows b (h.windows b hb)⟩

theorem Balanced.release_eq (hl : Balanced l) (hr : r ∈ l.reservations)
    (hout : r.outstanding = true) (hw : w ∈ l.windows) (hb : w.bucket = r.bucket) :
    (w.release r.reservedUnits).reservedUnits = w.reservedUnits - r.reservedUnits := by
  have hle : r.reservedUnits ≤ w.reservedUnits := by
    rw [hl.balance w hw, hb, ← heldIn_self hout]
    exact heldIn_le_heldUnits hl.nonneg hr
  exact max_eq_right (by simpa using hle)

theorem Balanced.update (hl : Balanced l) (hr : r ∈ l.reservations)
    (f : Reservation → Reservation) (g : QuotaWindow → QuotaWindow) (hkey : ∀ x, (f x).key = x.key)
    (hbucket : ∀ x, (f x).bucket = x.bucket) (hnonneg : 0 ≤ (f r).reservedUnits)
    (hg : ∀ w, (g w).bucket = w.bucket)
    (hres : ∀ w ∈ l.windows, w.bucket = r.bucket →
      (g w).reservedUnits = w.reservedUnits - r.heldIn r.bucket + (f r).heldIn r.bucket) :
    Balanced ((l.updateWindow r.bucket g).updateReservation r.key f) := by
  have hwindows := buckets_updateWindow l r.bucket hg
  have hkeys : (updateRow Reservation.key r.key f l.reservations).map Reservation.key =
      l.reservations.map Reservation.key := map_key_updateRow fun x hx => (hkey x).trans hx
  have hsame : ∀ x ∈ l.reservations, x.key = r.key → x = r :=
    fun x hx hxr => inj_on_of_nodup_map hl.unique_reservations hx hr hxr
  constructor
  · exact hwindows ▸ hl.unique_windows
  · exact hkeys ▸ hl.unique_reservations
  · intro y hy
    obtain ⟨x, hx, ⟨-, rfl⟩ | ⟨-, rfl⟩⟩ := mem_updateRow.1 hy
    · exact hwindows ▸ hbucket x ▸ hl.bound x hx
    · exact hwindows ▸ hl.bound _ hx
  · intro y hy
    obtain ⟨x, hx, ⟨hxr, rfl⟩ | ⟨-, rfl⟩⟩ := mem_updateRow.1 hy
    · exact hsame x hx hxr ▸ hnonneg
    · exact hl.nonneg _ hx
  · intro v hv
    have hheld := heldUnits_updateRow (f := f) hl.unique_reservations hr v.bucket
    refine Eq.trans ?_ hheld.symm
    obtain ⟨w, hw, ⟨hwb, rfl⟩ | ⟨hwb, rfl⟩⟩ := mem_updateRow.1 hv
    · rw [hres w hw hwb, hl.balance w hw, hg, hwb]
    · rw [heldIn_of_ne (Ne.symm hwb), heldIn_of_ne (by rw [hbucket]; exact Ne.symm hwb), sub_zero,
        add_zero]
      exact hl.balance v hw

theorem Balanced.updateReservation (hl : Balanced l) (hr : r ∈ l.reservations)
    (f : Reservation → Reservation) (hkey : ∀ x, (f x).key = x.key)
    (hbucket : ∀ x, (f x).bucket = x.bucket) (hnonneg : 0 ≤ (f r).reservedUnits)
    (hheld : (f r).heldIn r.bucket = r.heldIn r.bucket) :
    Balanced (l.updateReservation r.key f) := by
  have hid : l.updateWindow r.bucket id = l := by simp [Ledger.updateWindow, updateRow]
  have hupdate := hl.update hr f id hkey hbucket hnonneg (fun _ => rfl) fun w _ _ => by
    rw [hheld]
    simp
  rwa [hid] at hupdate

theorem Balanced.close (hl : Balanced l) (hr : r ∈ l.reservations) (hout : r.outstanding = true)
    (f : Reservation → Reservation) (g : QuotaWindow → QuotaWindow) (hkey : ∀ x, (f x).key = x.key)
    (hbucket : ∀ x, (f x).bucket = x.bucket) (hnonneg : 0 ≤ (f r).reservedUnits)
    (hclosed : (f r).outstanding = false) (hg : ∀ w, (g w).bucket = w.bucket)
    (hrel : ∀ w, (g w).reservedUnits = (w.release r.reservedUnits).reservedUnits) :
    Balanced ((l.updateWindow r.bucket g).updateReservation r.key f) := by
  refine hl.update hr f g hkey hbucket hnonneg hg fun w hw hwb => ?_
  rw [hrel, hl.release_eq hr hout hw hwb, heldIn_self hout, heldIn_of_closed hclosed, add_zero]

theorem Balanced.keeps_update (hl : Balanced l) (hr : r ∈ l.reservations)
    (hout : r.outstanding = true) (f : Reservation → Reservation)
    (g : QuotaWindow → QuotaWindow) (hg : ∀ w, (g w).bucket = w.bucket) :
    Keeps l ((l.updateWindow r.bucket g).updateReservation r.key f) := by
  constructor
  · intro x hx hclosed
    refine mem_updateRow_of_ne hx fun hkey => ?_
    rw [inj_on_of_nodup_map hl.unique_reservations hx hr hkey, hout] at hclosed
    cases hclosed
  · intro b hb
    exact (buckets_updateWindow l r.bucket hg).symm ▸ hb

/-! ## Loops over rows -/

/-- **A loop over rows of the ledger**: every row is still there when its turn
    comes, since a turn changes its own row only. -/
theorem rowLoop (rs : List Reservation)
    {step : Ledger → Reservation → Except QuotaError Ledger} {P : Ledger → Prop}
    (hstep : ∀ {l r l'}, P l → r ∈ l.reservations → r ∈ rs → step l r = .ok l' →
      P l' ∧ ∀ x ∈ l.reservations, x.key ≠ r.key → x ∈ l'.reservations)
    {rows : List Reservation} (hsub : ∀ r ∈ rows, r ∈ rs) (hn : (rows.map Reservation.key).Nodup)
    (hrows : ∀ r ∈ rows, r ∈ l.reservations) (hl : P l) (h : rows.foldlM step l = .ok l') :
    P l' := by
  induction rows generalizing l with
  | nil =>
    obtain rfl := Except.ok.inj h
    exact hl
  | cons r rows ih =>
    rw [foldlM_cons] at h
    obtain ⟨l₁, h₁, h⟩ := bind_eq_ok.1 h
    rw [map_cons, nodup_cons] at hn
    obtain ⟨hl₁, hothers⟩ := hstep hl (hrows r mem_cons_self) (hsub r mem_cons_self) h₁
    refine ih (fun x hx => hsub x (mem_cons_of_mem r hx)) hn.2 (fun x hx => ?_) hl₁ h
    refine hothers x (hrows x (mem_cons_of_mem r hx)) fun hkey => hn.1 ?_
    exact hkey ▸ mem_map_of_mem hx

theorem others_update (f : Reservation → Reservation) (g : QuotaWindow → QuotaWindow) :
    ∀ x ∈ l.reservations, x.key ≠ r.key →
      x ∈ ((l.updateWindow r.bucket g).updateReservation r.key f).reservations :=
  fun _ hx hne => mem_updateRow_of_ne hx hne

/-! ## Expired leases -/

theorem leaseOver_iff {scope : String} : r.leaseOver scope now = true ↔
    r.bucket.pool.accountScope = scope ∧ r.releaseOnly = true ∧ r.outstanding = true ∧
      ∃ t, r.leaseExpiresAt = some t ∧ t ≤ now := by
  simp [Reservation.leaseOver, Option.any_eq_true, and_assoc]

theorem releaseLease_eq_ok (h : releaseLease now l r = .ok l') :
    l' = (l.updateWindow r.bucket (·.release r.reservedUnits)).updateReservation r.key
      (·.enter .leaseExpired now) := by
  unfold releaseLease at h
  split at h
  · cases h
  · exact (Except.ok.inj h).symm

theorem balanced_releaseExpired {scope : String} (hl : Balanced l)
    (h : releaseExpiredConcurrencyLeases now l scope = .ok l') : Balanced l' ∧ Keeps l l' := by
  refine rowLoop (l.reservations.filter (·.leaseOver scope now))
    (P := fun l₁ => Balanced l₁ ∧ Keeps l l₁) ?_ (fun r hr => hr)
    (hl.unique_reservations.sublist (filter_sublist.map _))
    (fun r hr => mem_of_mem_filter hr) ⟨hl, Keeps.refl l⟩ h
  intro l₁ r l₂ hP hr hmem h₂
  obtain rfl := releaseLease_eq_ok h₂
  have hout := (leaseOver_iff.1 (of_mem_filter hmem)).2.2.1
  refine ⟨⟨?_, hP.2.trans (hP.1.keeps_update hr hout _ _ fun _ => rfl)⟩, others_update _ _⟩
  exact hP.1.close hr hout _ _ (fun _ => rfl) (fun _ => rfl) (hP.1.nonneg r hr) rfl (fun _ => rfl)
    fun _ => rfl

/-! ## Settling -/

theorem settleUnits_cases (h : l.settleUnits s now r = .ok l') :
    (r.bucket.pool.dimension ∈ s.unknownDimensions ∧
      l' = l.updateReservation r.key (·.enter .uncertain now)) ∨
    (r.releaseOnly = true ∧ l' = (l.updateWindow r.bucket
      (·.release r.reservedUnits)).updateReservation r.key (·.enter .settled now)) ∨
    (r.releaseOnly = false ∧ 0 ≤ s.actual r ∧ l' = (l.updateWindow r.bucket
      (·.consume r.reservedUnits (s.actual r))).updateReservation r.key
        fun x => (x.record (s.actual r)).enter
          (if s.releaseIdentities then .notSent else .settled) now) := by
  unfold Ledger.settleUnits at h
  by_cases hunknown : r.bucket.pool.dimension ∈ s.unknownDimensions
  · rw [if_pos hunknown] at h
    exact .inl ⟨hunknown, (Except.ok.inj h).symm⟩
  rw [if_neg hunknown] at h
  by_cases hrelease : r.releaseOnly = true
  · rw [if_pos hrelease] at h
    exact .inr (.inl ⟨hrelease, (Except.ok.inj h).symm⟩)
  rw [if_neg hrelease] at h
  by_cases hneg : s.actual r < 0
  · rw [if_pos hneg] at h
    cases h
  rw [if_neg hneg] at h
  exact .inr (.inr ⟨by simpa using hrelease, not_lt.1 hneg, (Except.ok.inj h).symm⟩)

theorem settleIdentity_frame (l : Ledger) (s : Settlement) (r : Reservation) (d : Digest) :
    (l.settleIdentity s r d).windows = l.windows ∧
      (l.settleIdentity s r d).reservations = l.reservations ∧
      (l.settleIdentity s r d).baselines = l.baselines := by
  unfold Ledger.settleIdentity
  repeat' split
  all_goals exact ⟨rfl, rfl, rfl⟩

theorem settleRow_steps (h : settleRow s now l r = .ok l') :
    ∃ l₁, l.settleUnits s now r = .ok l₁ ∧
      l' = match r.identityDigest with
        | none => l₁
        | some digest => l₁.settleIdentity s r digest := by
  unfold settleRow at h
  split at h
  · cases h
  · obtain ⟨l₁, h₁, rfl⟩ := map_eq_ok.1 h
    exact ⟨l₁, h₁, rfl⟩

theorem settleRow_eq_ok (h : settleRow s now l r = .ok l') :
    ∃ l₁, l.settleUnits s now r = .ok l₁ ∧ l'.windows = l₁.windows ∧
      l'.reservations = l₁.reservations ∧ l'.baselines = l₁.baselines := by
  obtain ⟨l₁, h₁, rfl⟩ := settleRow_steps h
  refine ⟨l₁, h₁, ?_⟩
  cases r.identityDigest with
  | none => exact ⟨rfl, rfl, rfl⟩
  | some d => exact settleIdentity_frame l₁ s r d

theorem Balanced.of_eq (hl : Balanced l) (hw : l'.windows = l.windows)
    (hr : l'.reservations = l.reservations) : Balanced l' := by
  constructor
  · rw [hw]; exact hl.unique_windows
  · rw [hr]; exact hl.unique_reservations
  · rw [hw, hr]; exact hl.bound
  · rw [hr]; exact hl.nonneg
  · rw [hw, hr]; exact hl.balance

theorem Keeps.of_eq (hk : Keeps l l') (hw : l''.windows = l'.windows)
    (hr : l''.reservations = l'.reservations) : Keeps l l'' :=
  ⟨fun r h hc => hr ▸ hk.closed r h hc, fun b hb => hw ▸ hk.windows b hb⟩

theorem balanced_settleRow (hl : Balanced l) (hr : r ∈ l.reservations)
    (hpending : r.state = .pending) (h : settleRow s now l r = .ok l') :
    Balanced l' ∧ Keeps l l' ∧ ∀ x ∈ l.reservations, x.key ≠ r.key → x ∈ l'.reservations := by
  obtain ⟨l₁, h₁, hw, hres, -⟩ := settleRow_eq_ok h
  have hout : r.outstanding = true := by simp [Reservation.outstanding, hpending]
  suffices Balanced l₁ ∧ Keeps l l₁ ∧ ∀ x ∈ l.reservations, x.key ≠ r.key → x ∈ l₁.reservations from
    ⟨this.1.of_eq hw hres, this.2.1.of_eq hw hres, fun x hx hne => hres ▸ this.2.2 x hx hne⟩
  rcases settleUnits_cases h₁ with ⟨-, rfl⟩ | ⟨-, rfl⟩ | ⟨-, hactual, rfl⟩
  · have hid : l.updateWindow r.bucket id = l := by simp [Ledger.updateWindow, updateRow]
    refine ⟨hl.updateReservation hr _ (fun _ => rfl) (fun _ => rfl) (hl.nonneg r hr) ?_, ?_,
      fun x hx hne => mem_updateRow_of_ne hx hne⟩
    · rw [heldIn_self hout]
      exact if_pos ⟨rfl, by simp [Reservation.outstanding, Reservation.enter]⟩
    · have hkeeps := hl.keeps_update hr hout (·.enter .uncertain now) id fun _ => rfl
      rwa [hid] at hkeeps
  · exact ⟨hl.close hr hout _ _ (fun _ => rfl) (fun _ => rfl) (hl.nonneg r hr) rfl (fun _ => rfl)
      fun _ => rfl, hl.keeps_update hr hout _ _ fun _ => rfl, others_update _ _⟩
  · refine ⟨hl.close hr hout _ _ (fun _ => rfl) (fun _ => rfl) hactual ?_ (fun _ => rfl)
      fun _ => rfl, hl.keeps_update hr hout _ _ fun _ => rfl, others_update _ _⟩
    cases s.releaseIdentities <;> rfl

theorem mem_pendingOf :
    r ∈ l.pendingOf id ↔ r ∈ l.reservations ∧ r.reservationId = id ∧ r.state = .pending := by
  simp [Ledger.pendingOf]

theorem balanced_settle (hl : Balanced l)
    (h : settleProviderQuota id s now l = .ok l') : Balanced l' ∧ Keeps l l' := by
  refine rowLoop (l.pendingOf id) (P := fun l₁ => Balanced l₁ ∧ Keeps l l₁) ?_
    (fun r hr => hr) (hl.unique_reservations.sublist (filter_sublist.map _))
    (fun r hr => (mem_pendingOf.1 hr).1) ⟨hl, Keeps.refl l⟩ h
  intro l₁ r l₂ hP hr hmem h₂
  obtain ⟨hbal, hkeeps, hothers⟩ := balanced_settleRow hP.1 hr (mem_pendingOf.1 hmem).2.2 h₂
  exact ⟨⟨hbal, hP.2.trans hkeeps⟩, hothers⟩

/-! ## Opening windows -/

theorem findWindow_eq_some (hl : Balanced l) :
    l.findWindow b = some w ↔ w ∈ l.windows ∧ w.bucket = b :=
  rowWith_eq_some hl.unique_windows

theorem balanced_insertWindow (hl : Balanced l) (hw : w.reservedUnits = 0) :
    Balanced (l.insertWindow w) := by
  unfold Ledger.insertWindow
  cases h : insertNew QuotaWindow.bucket w l.windows with
  | none => exact hl
  | some ws =>
    obtain ⟨hnew, rfl⟩ := insertNew_eq_some.1 h
    have hfree : ∀ r ∈ l.reservations, r.bucket ≠ w.bucket :=
      fun r hr hb => hnew (hb ▸ hl.bound r hr)
    constructor
    · exact nodup_insertNew hl.unique_windows h
    · exact hl.unique_reservations
    · intro r hr
      rw [Option.getD_some, map_append]
      exact mem_append_left _ (hl.bound r hr)
    · exact hl.nonneg
    · intro v hv
      rcases mem_append.1 hv with hv | hv
      · exact hl.balance v hv
      · obtain rfl := mem_singleton.1 hv
        rw [hw, heldUnits_eq_zero hfree]

theorem buckets_openWindow (l : Ledger) (b : Bucket) (limit : ℤ) :
    (l.openWindow b limit).windows.map QuotaWindow.bucket =
      if b ∈ l.windows.map QuotaWindow.bucket then l.windows.map QuotaWindow.bucket
      else l.windows.map QuotaWindow.bucket ++ [b] := by
  rw [Ledger.openWindow, buckets_updateWindow _ b (g := (·.withLimit limit)) fun w => rfl]
  unfold Ledger.insertWindow insertNew
  split_ifs
  · rfl
  · simp

theorem balanced_openWindow (hl : Balanced l) (b : Bucket) (limit : ℤ) :
    Balanced (l.openWindow b limit) := by
  have hins := balanced_insertWindow (w := { bucket := b, limitUnits := limit }) hl rfl
  have hbuckets : (l.openWindow b limit).windows.map QuotaWindow.bucket =
      (l.insertWindow { bucket := b, limitUnits := limit }).windows.map QuotaWindow.bucket :=
    buckets_updateWindow _ b (g := (·.withLimit limit)) fun w => rfl
  constructor
  · exact hbuckets ▸ hins.unique_windows
  · exact hins.unique_reservations
  · exact fun r hr => hbuckets ▸ hins.bound r hr
  · exact hins.nonneg
  · intro v hv
    obtain ⟨w, hw, ⟨-, rfl⟩ | ⟨-, rfl⟩⟩ := mem_updateRow.1 hv
    · exact hins.balance w hw
    · exact hins.balance _ hw

theorem mem_buckets_openWindow (l : Ledger) (b : Bucket) (limit : ℤ) :
    b ∈ (l.openWindow b limit).windows.map QuotaWindow.bucket := by
  rw [buckets_openWindow]
  split_ifs with h
  · exact h
  · simp

theorem keeps_openWindow (l : Ledger) (b : Bucket) (limit : ℤ) :
    Keeps l (l.openWindow b limit) := by
  refine ⟨fun r hr _ => hr, fun c hc => ?_⟩
  rw [buckets_openWindow]
  split_ifs
  · exact hc
  · exact mem_append_left _ hc

theorem findWindow_openWindow (hl : Balanced l) (b : Bucket) (limit : ℤ) :
    ∃ w, (l.openWindow b limit).findWindow b = some w ∧
      w.reservedUnits = heldUnits l.reservations b := by
  have hopen := balanced_openWindow hl b limit
  obtain ⟨w, hw, hb⟩ := mem_map.1 (mem_buckets_openWindow l b limit)
  exact ⟨w, (findWindow_eq_some hopen).2 ⟨hw, hb⟩, hb ▸ hopen.balance w hw⟩

theorem balanced_dropCreated {created : List Bucket} (hl : Balanced l)
    (hfree : ∀ r ∈ l.reservations, r.bucket ∉ created) : Balanced (l.dropCreated created) := by
  constructor
  · exact hl.unique_windows.sublist (filter_sublist.map _)
  · exact hl.unique_reservations
  · intro r hr
    obtain ⟨w, hw, hb⟩ := mem_map.1 (hl.bound r hr)
    refine mem_map.2 ⟨w, mem_filter.2 ⟨hw, ?_⟩, hb⟩
    simp only [Bool.not_eq_eq_eq_not, Bool.not_true, decide_eq_false_iff_not]
    exact fun h => hfree r hr (hb ▸ h.1)
  · exact hl.nonneg
  · exact fun w hw => hl.balance w (mem_of_mem_filter hw)

theorem mem_buckets_dropCreated {created : List Bucket} (hb : b ∈ l.windows.map QuotaWindow.bucket)
    (hnew : b ∉ created) : b ∈ (l.dropCreated created).windows.map QuotaWindow.bucket := by
  obtain ⟨w, hw, rfl⟩ := mem_map.1 hb
  refine mem_map.2 ⟨w, mem_filter.2 ⟨hw, ?_⟩, rfl⟩
  simp only [Bool.not_eq_eq_eq_not, Bool.not_true, decide_eq_false_iff_not]
  exact fun h => hnew h.1

/-! ## The first loop -/

/-- What the first loop has done to the ledger `l`. -/
structure Prepared (l : Ledger) (p : Preparation) : Prop where
  balanced : Balanced p.ledger
  reservations : p.ledger.reservations = l.reservations
  identities : p.ledger.identities = l.identities
  windows : ∀ b ∈ l.windows.map QuotaWindow.bucket, b ∈ p.ledger.windows.map QuotaWindow.bucket
  created : ∀ b ∈ p.created, b ∉ l.windows.map QuotaWindow.bucket
  read : ∀ b w, p.windows b = some w → w.reservedUnits = heldUnits l.reservations b
  opened : ∀ c ∈ p.charged, c.1.bucket ∈ p.ledger.windows.map QuotaWindow.bucket ∧
    (p.windows c.1.bucket).isSome

theorem Prepared.start (hl : Balanced l) : Prepared l { ledger := l } where
  balanced := hl
  reservations := rfl
  identities := rfl
  windows _ h := h
  created _ h := absurd h not_mem_nil
  read _ _ h := absurd h.symm (Option.some_ne_none _)
  opened _ h := absurd h not_mem_nil

theorem Prepared.drop (hl : Balanced l) (hp : Prepared l p) :
    Balanced (p.ledger.dropCreated p.created) ∧ Keeps l (p.ledger.dropCreated p.created) := by
  refine ⟨balanced_dropCreated hp.balanced fun r hr hb => ?_, fun r hr _ => ?_, fun b hb => ?_⟩
  · exact hp.created _ hb (hl.bound r (hp.reservations ▸ hr))
  · exact hp.reservations.symm ▸ hr
  · exact mem_buckets_dropCreated (hp.windows b hb) fun h => hp.created b h hb

/-- The window of a plan entry is opened and read. -/
def Preparation.opening (p : Preparation) (c : QuotaSpec × ℤ) : Preparation :=
  { p with
    ledger := p.ledger.openWindow c.1.bucket c.1.limitUnits
    windows := Function.update p.windows c.1.bucket
      ((p.ledger.openWindow c.1.bucket c.1.limitUnits).findWindow c.1.bucket)
    created :=
      if (p.ledger.findWindow c.1.bucket).isNone then p.created ++ [c.1.bucket] else p.created
    charged := p.charged ++ [c] }

theorem prepareSpec_cases (env : Coordinator) (unitsOf : QuotaSpec → ℤ) (now : Micros)
    (p : Preparation) (spec : QuotaSpec) :
    let c := chargeFor unitsOf now p.ledger spec
    (c.1.releaseOnly = true ∧ prepareSpec env unitsOf now p spec = .ok (p.opening c)) ∨
    c.1.releaseOnly = false ∧
      ((∃ e, prepareSpec env unitsOf now p spec = .error (.raised e)) ∨
       (∃ bs, prepareSpec env unitsOf now p spec = .error (.denied
          { (p.opening c).ledger.dropCreated (p.opening c).created with baselines := bs } none)) ∨
       ∃ bs b, baselineForReservation env (p.opening c).ledger.baselines c.1 now =
           .ok (bs, some b) ∧
         prepareSpec env unitsOf now p spec = .ok { p.opening c with
           ledger := { (p.opening c).ledger with baselines := bs }
           baselines := Function.update p.baselines c.1.bucket (some b) }) := by
  intro c
  by_cases hrelease : c.1.releaseOnly = true
  · exact .inl ⟨hrelease, if_pos hrelease⟩
  · refine .inr ⟨by simpa using hrelease, ?_⟩
    have hopen : (p.opening c).ledger = p.ledger.openWindow c.1.bucket c.1.limitUnits := rfl
    rw [prepareSpec]
    dsimp only
    rw [if_neg hrelease, hopen]
    rcases h : baselineForReservation env (p.ledger.openWindow c.1.bucket c.1.limitUnits).baselines
      c.1 now with e | ⟨bs, _ | b⟩
    · exact .inl ⟨e, rfl⟩
    · exact .inr (.inl ⟨bs, rfl⟩)
    · exact .inr (.inr ⟨bs, b, rfl, rfl⟩)

theorem prepareSpec_eq_ok {p' : Preparation} (h : prepareSpec env unitsOf now p spec = .ok p') :
    let c := chargeFor unitsOf now p.ledger spec
    (c.1.releaseOnly = true ∧ p' = p.opening c) ∨ ∃ bs b,
      baselineForReservation env (p.opening c).ledger.baselines c.1 now = .ok (bs, some b) ∧
        p' = { p.opening c with
          ledger := { (p.opening c).ledger with baselines := bs }
          baselines := Function.update p.baselines c.1.bucket (some b) } := by
  rcases prepareSpec_cases env unitsOf now p spec with
    ⟨hrelease, h₁⟩ | ⟨-, ⟨e, h₁⟩ | ⟨bs, h₁⟩ | ⟨bs, b, hfound, h₁⟩⟩
  · exact .inl ⟨hrelease, Except.ok.inj (h.symm.trans h₁)⟩
  · cases h.symm.trans h₁
  · cases h.symm.trans h₁
  · exact .inr ⟨bs, b, hfound, Except.ok.inj (h.symm.trans h₁)⟩

theorem prepareSpec_eq_error (h : prepareSpec env unitsOf now p spec = .error e) :
    let c := chargeFor unitsOf now p.ledger spec
    (∃ e', e = .raised e') ∨ ∃ bs, e = .denied
      { (p.opening c).ledger.dropCreated (p.opening c).created with baselines := bs } none := by
  rcases prepareSpec_cases env unitsOf now p spec with
    ⟨-, h₁⟩ | ⟨-, ⟨e', h₁⟩ | ⟨bs, h₁⟩ | ⟨bs, b, -, h₁⟩⟩
  · cases h.symm.trans h₁
  · exact .inl ⟨e', Except.error.inj (h.symm.trans h₁)⟩
  · exact .inr ⟨bs, Except.error.inj (h.symm.trans h₁)⟩
  · cases h.symm.trans h₁

theorem Prepared.opening (hp : Prepared l p) (c : QuotaSpec × ℤ) :
    Prepared l (p.opening c) := by
  have hkeeps := keeps_openWindow p.ledger c.1.bucket c.1.limitUnits
  obtain ⟨w, hw, hheld⟩ := findWindow_openWindow hp.balanced c.1.bucket c.1.limitUnits
  constructor
  · exact balanced_openWindow hp.balanced _ _
  · exact hp.reservations
  · exact hp.identities
  · exact fun b hb => hkeeps.windows b (hp.windows b hb)
  · intro b hb
    unfold Preparation.opening at hb
    dsimp only at hb
    split_ifs at hb with hnone
    · rcases mem_append.1 hb with hb | hb
      · exact hp.created b hb
      · obtain rfl := mem_singleton.1 hb
        exact fun h => rowWith_eq_none.1 (Option.isNone_iff_eq_none.1 hnone) (hp.windows _ h)
    · exact hp.created b hb
  · intro b v hv
    unfold Preparation.opening at hv
    dsimp only at hv
    by_cases hb : b = c.1.bucket
    · subst hb
      rw [Function.update_self, hw] at hv
      rw [← Option.some.inj hv, hheld, hp.reservations]
    · rw [Function.update_of_ne hb] at hv
      exact hp.read b v hv
  · intro d hd
    unfold Preparation.opening at hd ⊢
    dsimp only at hd ⊢
    rcases mem_append.1 hd with hd | hd
    · obtain ⟨hopen, hread⟩ := hp.opened d hd
      refine ⟨hkeeps.windows _ hopen, ?_⟩
      by_cases hb : d.1.bucket = c.1.bucket
      · rw [hb, Function.update_self, hw]
        rfl
      · rw [Function.update_of_ne hb]
        exact hread
    · obtain rfl := mem_singleton.1 hd
      refine ⟨mem_buckets_openWindow _ _ _, ?_⟩
      rw [Function.update_self, hw]
      rfl

theorem Prepared.withBaselines (hp : Prepared l p) (bs : List Baseline)
    (baselines : Bucket → Option Baseline) :
    Prepared l { p with ledger := { p.ledger with baselines := bs }, baselines := baselines } :=
  ⟨hp.balanced.of_eq rfl rfl, hp.reservations, hp.identities, hp.windows, hp.created, hp.read,
    hp.opened⟩

def Refusal.Sound (l : Ledger) : Refusal → Prop
  | .denied l' _ => Balanced l' ∧ Keeps l l'
  | .raised _ => True

theorem prepared_loop (env : Coordinator) (unitsOf : QuotaSpec → ℤ) (specs : List QuotaSpec)
    (now : Micros) (hl : Balanced l) (hp : Prepared l p) :
    (∀ p', specs.foldlM (prepareSpec env unitsOf now) p = .ok p' → Prepared l p') ∧
      ∀ e, specs.foldlM (prepareSpec env unitsOf now) p = .error e → e.Sound l := by
  have hstep : ∀ spec ∈ specs, ∀ q q', Prepared l q →
      prepareSpec env unitsOf now q spec = .ok q' → Prepared l q' := by
    intro spec _ q q' hq h
    have hopen := hq.opening (chargeFor unitsOf now q.ledger spec)
    rcases prepareSpec_eq_ok h with ⟨-, rfl⟩ | ⟨bs, b, -, rfl⟩
    · exact hopen
    · exact hopen.withBaselines bs _
  refine ⟨fun p' h => foldlM_keeps hstep hp h, fun e h => ?_⟩
  obtain ⟨spec, -, q, hq, he⟩ := foldlM_fails hstep hp h
  rcases prepareSpec_eq_error he with ⟨e', rfl⟩ | ⟨bs, rfl⟩
  · trivial
  · obtain ⟨hbal, hkeeps⟩ := (hq.opening (chargeFor unitsOf now q.ledger spec)).drop hl
    exact ⟨hbal.of_eq rfl rfl, hkeeps.of_eq rfl rfl⟩

theorem chargeFor_congr
    (h : l.identities = l'.identities) : chargeFor unitsOf now l spec = chargeFor unitsOf now l' spec := by
  unfold chargeFor Ledger.findActiveIdentity
  rw [h]

theorem charged_loop {p' : Preparation} (hp : p.ledger.identities = l.identities)
    (h : specs.foldlM (prepareSpec env unitsOf now) p = .ok p') :
    p'.charged = p.charged ++ specs.map (chargeFor unitsOf now l) := by
  induction specs generalizing p with
  | nil =>
    obtain rfl := Except.ok.inj h
    simp
  | cons spec specs ih =>
    rw [foldlM_cons] at h
    obtain ⟨q, hq, h⟩ := bind_eq_ok.1 h
    rw [map_cons, ← chargeFor_congr hp, append_cons]
    rcases prepareSpec_eq_ok hq with ⟨-, rfl⟩ | ⟨bs, b, -, rfl⟩
    · exact ih (p := p.opening _) hp h
    · exact ih (by exact hp) h

theorem chargeFor_nonneg (h : 0 ≤ unitsOf spec) :
    0 ≤ (chargeFor unitsOf now l spec).2 := by
  unfold chargeFor
  split
  · exact le_refl 0
  · exact h

theorem chargeFor_spec (unitsOf : QuotaSpec → ℤ) (now : Micros) (l : Ledger) (spec : QuotaSpec) :
    (chargeFor unitsOf now l spec).1 = spec ∨
      spec.rolling = true ∧ ∃ start, (chargeFor unitsOf now l spec).1 = spec.rebind start := by
  unfold chargeFor
  split
  · dsimp only
    split_ifs with hrolling
    · exact .inr ⟨hrolling, _, rfl⟩
    · exact .inl rfl
  · exact .inl rfl

/-! ## The third loop -/

theorem claim_frame (l : Ledger) (id : String) (c : QuotaSpec × ℤ) :
    (l.claim id c).windows = l.windows ∧ (l.claim id c).reservations = l.reservations ∧
      (l.claim id c).baselines = l.baselines := by
  unfold Ledger.claim
  repeat' split
  all_goals exact ⟨rfl, rfl, rfl⟩

theorem chargeSpec_eq_ok :
    chargeSpec id now windows l c = .ok l' ↔
      (newReservation id now c).key ∉ l.reservations.map Reservation.key ∧
        l' = { (l.claim id c).addUnits windows c with
          reservations := l.reservations ++ [newReservation id now c] } := by
  unfold chargeSpec
  cases h : insertNew Reservation.key (newReservation id now c) l.reservations with
  | none =>
    unfold insertNew at h
    split_ifs at h with hmem
    simp [hmem]
  | some rs =>
    obtain ⟨hnew, rfl⟩ := insertNew_eq_some.1 h
    simp only [Except.ok.injEq]
    exact ⟨fun h => ⟨hnew, h.symm⟩, fun h => h.2.symm⟩

theorem heldIn_newReservation :
    (newReservation id now c).heldIn b = if c.1.bucket = b then c.2 else 0 := by
  unfold Reservation.heldIn
  by_cases hb : c.1.bucket = b
  · rw [if_pos hb]
    exact if_pos ⟨hb, rfl⟩
  · rw [if_neg hb]
    exact if_neg fun h => hb h.1

theorem windows_addUnits (l : Ledger) (id : String) (windows : Bucket → Option QuotaWindow)
    (c : QuotaSpec × ℤ) : ((l.claim id c).addUnits windows c).windows =
      if 0 < c.2 then
        updateRow QuotaWindow.bucket c.1.bucket
          (·.holding ((windows c.1.bucket).elim 0 (·.reservedUnits) + c.2)) l.windows
      else l.windows := by
  unfold Ledger.addUnits
  split_ifs
  · rw [Ledger.updateWindow, (claim_frame l id c).1]
  · exact (claim_frame l id c).1

theorem buckets_addUnits (l : Ledger) (id : String) (windows : Bucket → Option QuotaWindow)
    (c : QuotaSpec × ℤ) : ((l.claim id c).addUnits windows c).windows.map QuotaWindow.bucket =
      l.windows.map QuotaWindow.bucket := by
  rw [windows_addUnits]
  split_ifs
  · exact map_key_updateRow fun w hw => hw
  · rfl

theorem balanced_chargeSpec (hl : Balanced l) (hopen : c.1.bucket ∈ l.windows.map QuotaWindow.bucket)
    (hunits : 0 ≤ c.2)
    (hread : (windows c.1.bucket).elim 0 (·.reservedUnits) = heldUnits l.reservations c.1.bucket)
    (h : chargeSpec id now windows l c = .ok l') : Balanced l' := by
  obtain ⟨hnew, rfl⟩ := chargeSpec_eq_ok.1 h
  have hbuckets := buckets_addUnits l id windows c
  constructor
  · exact hbuckets ▸ hl.unique_windows
  · exact nodup_insertNew hl.unique_reservations (insertNew_eq_some.2 ⟨hnew, rfl⟩)
  · intro r hr
    rcases mem_append.1 hr with hr | hr
    · exact hbuckets ▸ hl.bound r hr
    · obtain rfl := mem_singleton.1 hr
      exact hbuckets ▸ hopen
  · intro r hr
    rcases mem_append.1 hr with hr | hr
    · exact hl.nonneg r hr
    · obtain rfl := mem_singleton.1 hr
      exact hunits
  · intro w hw
    rw [heldUnits_append, heldIn_newReservation]
    change w ∈ ((l.claim id c).addUnits windows c).windows at hw
    rw [windows_addUnits] at hw
    split_ifs at hw with hpos
    · obtain ⟨v, hv, ⟨hvb, rfl⟩ | ⟨hvb, rfl⟩⟩ := mem_updateRow.1 hw
      · have hb : (v.holding ((windows c.1.bucket).elim 0 (·.reservedUnits) + c.2)).bucket =
            c.1.bucket := hvb
        rw [hb, if_pos rfl]
        exact congrArg (· + c.2) hread
      · rw [if_neg (Ne.symm hvb), add_zero]
        exact hl.balance _ hv
    · have hzero : c.2 = 0 := le_antisymm (not_lt.1 hpos) hunits
      rw [hzero, ite_self, add_zero]
      exact hl.balance w hw

theorem charge_dimensions (h : cs.foldlM (chargeSpec id now windows) l = .ok l') :
    (∀ c ∈ cs, (newReservation id now c).key ∉ l.reservations.map Reservation.key) ∧
      (cs.map (·.1.bucket.pool.dimension)).Nodup := by
  induction cs generalizing l with
  | nil => exact ⟨fun _ h => absurd h not_mem_nil, nodup_nil⟩
  | cons c cs ih =>
    rw [foldlM_cons] at h
    obtain ⟨l₁, h₁, h⟩ := bind_eq_ok.1 h
    obtain ⟨hnew, rfl⟩ := chargeSpec_eq_ok.1 h₁
    obtain ⟨hrest, hn⟩ := ih h
    have hmem : ∀ d ∈ cs, (newReservation id now d).key ∉ l.reservations.map Reservation.key ∧
        d.1.bucket.pool.dimension ≠ c.1.bucket.pool.dimension := by
      intro d hd
      have hd := hrest d hd
      rw [map_append, mem_append, not_or, map_singleton, mem_singleton] at hd
      exact ⟨hd.1, fun hdim => hd.2 (congrArg (Prod.mk id) hdim)⟩
    refine ⟨fun d hd => ?_, nodup_cons.2 ⟨fun hdim => ?_, hn⟩⟩
    · rcases mem_cons.1 hd with rfl | hd
      · exact hnew
      · exact (hmem d hd).1
    · obtain ⟨d, hd, heq⟩ := mem_map.1 hdim
      exact (hmem d hd).2 heq

structure Charged (id : String) (now : Micros) (cs : List (QuotaSpec × ℤ)) (l l' : Ledger) :
    Prop where
  balanced : Balanced l'
  keeps : Keeps l l'
  reservations : l'.reservations = l.reservations ++ cs.map (newReservation id now)
  identities : l'.identities = (cs.foldl (fun l c => l.claim id c) l).identities
  baselines : l'.baselines = l.baselines

theorem claim_identities_congr
    (h : l.identities = l'.identities) : (l.claim id c).identities = (l'.claim id c).identities := by
  unfold Ledger.claim
  repeat' split
  · exact h
  · rw [h]
  · exact h

theorem claims_identities_congr
    (h : l.identities = l'.identities) : (cs.foldl (fun l c => l.claim id c) l).identities =
      (cs.foldl (fun l c => l.claim id c) l').identities := by
  induction cs generalizing l l' with
  | nil => exact h
  | cons c cs ih => exact ih (claim_identities_congr h)

theorem addUnits_frame (l : Ledger) (windows : Bucket → Option QuotaWindow) (c : QuotaSpec × ℤ) :
    (l.addUnits windows c).identities = l.identities ∧
      (l.addUnits windows c).baselines = l.baselines := by
  unfold Ledger.addUnits
  split_ifs <;> exact ⟨rfl, rfl⟩

theorem charge_loop (hl : Balanced l)
    (hcs : ∀ c ∈ cs, c.1.bucket ∈ l.windows.map QuotaWindow.bucket ∧ 0 ≤ c.2 ∧
      (windows c.1.bucket).elim 0 (·.reservedUnits) = heldUnits l.reservations c.1.bucket)
    (h : cs.foldlM (chargeSpec id now windows) l = .ok l') : Charged id now cs l l' := by
  induction cs generalizing l with
  | nil =>
    obtain rfl := Except.ok.inj h
    exact ⟨hl, Keeps.refl l, (append_nil _).symm, rfl, rfl⟩
  | cons c cs ih =>
    have hn := (charge_dimensions h).2
    rw [map_cons, nodup_cons] at hn
    rw [foldlM_cons] at h
    obtain ⟨l₁, h₁, h⟩ := bind_eq_ok.1 h
    obtain ⟨hopen, hunits, hread⟩ := hcs c mem_cons_self
    have hbal := balanced_chargeSpec hl hopen hunits hread h₁
    obtain ⟨-, rfl⟩ := chargeSpec_eq_ok.1 h₁
    have hbuckets := buckets_addUnits l id windows c
    have hframe := addUnits_frame (l.claim id c) windows c
    have hrest := ih hbal (fun d hd => ?_) h
    · constructor
      · exact hrest.balanced
      · refine Keeps.trans ⟨fun r hr _ => mem_append_left _ hr, fun b hb => ?_⟩ hrest.keeps
        exact hbuckets ▸ hb
      · rw [hrest.reservations, append_assoc]
        rfl
      · rw [hrest.identities]
        exact claims_identities_congr hframe.1
      · rw [hrest.baselines]
        exact hframe.2.trans (claim_frame l id c).2.2
    · -- The entry is of another dimension, so its bucket holds what it held.
      obtain ⟨hopen', hunits', hread'⟩ := hcs d (mem_cons_of_mem c hd)
      refine ⟨hbuckets ▸ hopen', hunits', ?_⟩
      have hne : c.1.bucket ≠ d.1.bucket := fun hb =>
        hn.1 (mem_map.2 ⟨d, hd, by rw [hb]⟩)
      rw [hread']
      change _ = heldUnits (l.reservations ++ [newReservation id now c]) d.1.bucket
      rw [heldUnits_append, heldIn_newReservation, if_neg hne, add_zero]

/-! ## Reserving -/

theorem mapError_eq_ok {ε ε' α : Type} {e : Except ε α} {f : ε → ε'} {a : α} :
    e.mapError f = .ok a ↔ e = .ok a := by
  cases e <;> simp [Except.mapError]

theorem mapError_eq_error {ε ε' α : Type} {e : Except ε α} {f : ε → ε'} {x : ε'} :
    e.mapError f = .error x ↔ ∃ y, e = .error y ∧ f y = x := by
  cases e <;> simp [Except.mapError]

structure ReservationSteps (env : Coordinator) (unitsOf : QuotaSpec → ℤ) (specs : List QuotaSpec)
    (id : String) (now : Micros) (l l₁ : Ledger) (p : Preparation) (l' : Ledger) : Prop where
  expired : (accountScopes specs).foldlM (releaseExpiredConcurrencyLeases now) l = .ok l₁
  prepared : specs.foldlM (prepareSpec env unitsOf now) { ledger := l₁ } = .ok p
  capacity : ∀ c ∈ p.charged, checkCapacity p now c = .ok ()
  charged : p.charged.foldlM (chargeSpec id now p.windows) p.ledger = .ok l'

theorem checks_eq_ok :
    cs.foldlM (fun _ => checkCapacity p now) () = .ok () ↔
      ∀ c ∈ cs, checkCapacity p now c = .ok () := by
  induction cs with
  | nil => simp
  | cons c cs ih =>
    rw [foldlM_cons, bind_eq_ok, forall_mem_cons]
    constructor
    · rintro ⟨⟨⟩, hc, h⟩
      exact ⟨hc, ih.1 h⟩
    · rintro ⟨hc, h⟩
      exact ⟨(), hc, ih.2 h⟩

theorem reserveSpecs_eq_ok :
    reserveSpecs env unitsOf specs id now l = .ok l' ↔
      ∃ l₁ p, ReservationSteps env unitsOf specs id now l l₁ p l' := by
  unfold reserveSpecs
  constructor
  · intro h
    obtain ⟨l₁, h₁, h⟩ := bind_eq_ok.1 h
    obtain ⟨p, hp, h⟩ := bind_eq_ok.1 h
    obtain ⟨⟨⟩, hcap, h⟩ := bind_eq_ok.1 h
    exact ⟨l₁, p, mapError_eq_ok.1 h₁, hp, checks_eq_ok.1 hcap, h⟩
  · rintro ⟨l₁, p, h₁, hp, hcap, h⟩
    rw [mapError_eq_ok.2 h₁, ok_bind, hp, ok_bind, checks_eq_ok.2 hcap, ok_bind, h]

theorem balanced_expiry {scopes : List String} (hl : Balanced l)
    (h : scopes.foldlM (releaseExpiredConcurrencyLeases now) l = .ok l') :
    Balanced l' ∧ Keeps l l' := by
  refine foldlM_keeps (P := fun l' => Balanced l' ∧ Keeps l l') (fun scope _ l₁ l₂ h₁ h₂ => ?_)
    ⟨hl, Keeps.refl l⟩ h
  obtain ⟨hbal, hkeeps⟩ := balanced_releaseExpired h₁.1 h₂
  exact ⟨hbal, h₁.2.trans hkeeps⟩

theorem Refusal.Sound.trans (h : Keeps l l') (he : e.Sound l') : e.Sound l := by
  cases e with
  | denied l'' _ => exact ⟨he.1, h.trans he.2⟩
  | raised _ => trivial

theorem checks_eq_error (h : cs.foldlM (fun _ => checkCapacity p now) () = .error e) :
    ∃ c ∈ cs, checkCapacity p now c = .error e := by
  obtain ⟨c, hc, -, -, he⟩ := foldlM_fails (P := fun _ => True) (fun _ _ _ _ _ _ => trivial) trivial h
  exact ⟨c, hc, he⟩

theorem checkCapacity_eq_error (h : checkCapacity p now c = .error e) :
    ∃ t, e = .denied (p.ledger.dropCreated p.created) t := by
  unfold checkCapacity at h
  split_ifs at h
  all_goals exact ⟨_, (Except.error.inj h).symm⟩

theorem charges_raise
    (h : cs.foldlM (chargeSpec id now windows) l = .error e) : e = .raised reservationFailed := by
  obtain ⟨c, -, l₁, -, hc⟩ := foldlM_fails (P := fun _ => True) (fun _ _ _ _ _ _ => trivial) trivial h
  unfold chargeSpec at hc
  split at hc
  · exact (Except.error.inj hc).symm
  · cases hc

inductive ReservationFails (env : Coordinator) (unitsOf : QuotaSpec → ℤ) (specs : List QuotaSpec)
    (now : Micros) (l : Ledger) : Refusal → Prop where
  | expiry (e : QuotaError) : ReservationFails env unitsOf specs now l (.raised e)
  | preparing {l₁ : Ledger} {e : Refusal}
      (expired : (accountScopes specs).foldlM (releaseExpiredConcurrencyLeases now) l = .ok l₁)
      (refused : specs.foldlM (prepareSpec env unitsOf now) { ledger := l₁ } = .error e) :
      ReservationFails env unitsOf specs now l e
  | capacity {l₁ : Ledger} {p : Preparation} {c : QuotaSpec × ℤ} {e : Refusal}
      (expired : (accountScopes specs).foldlM (releaseExpiredConcurrencyLeases now) l = .ok l₁)
      (prepared : specs.foldlM (prepareSpec env unitsOf now) { ledger := l₁ } = .ok p)
      (charged : c ∈ p.charged) (lacks : checkCapacity p now c = .error e) :
      ReservationFails env unitsOf specs now l e
  | charging : ReservationFails env unitsOf specs now l (.raised reservationFailed)

theorem reserveSpecs_eq_error (h : reserveSpecs env unitsOf specs id now l = .error e) :
    ReservationFails env unitsOf specs now l e := by
  unfold reserveSpecs at h
  cases h₁ : (accountScopes specs).foldlM (releaseExpiredConcurrencyLeases now) l with
  | error e₁ =>
    rw [h₁] at h
    obtain rfl := Except.error.inj h
    exact .expiry e₁
  | ok l₁ =>
    rw [h₁] at h
    change (specs.foldlM (prepareSpec env unitsOf now) { ledger := l₁ } >>= fun p =>
      p.charged.foldlM (fun _ => checkCapacity p now) () >>= fun _ =>
        p.charged.foldlM (chargeSpec id now p.windows) p.ledger) = .error e at h
    cases hp : specs.foldlM (prepareSpec env unitsOf now) { ledger := l₁ } with
    | error e₁ =>
      rw [hp] at h
      obtain rfl := Except.error.inj h
      exact .preparing h₁ hp
    | ok p =>
      rw [hp, ok_bind] at h
      cases hcap : p.charged.foldlM (fun _ => checkCapacity p now) () with
      | error e₁ =>
        rw [hcap] at h
        obtain rfl := Except.error.inj h
        obtain ⟨c, hc, hlacks⟩ := checks_eq_error hcap
        exact .capacity h₁ hp hc hlacks
      | ok u =>
        rw [hcap, ok_bind] at h
        obtain rfl := charges_raise h
        exact .charging

theorem ReservationSteps.loops
    {l₁ : Ledger} (hl : Balanced l) (hunits : ∀ spec ∈ specs, 0 ≤ unitsOf spec)
    (h : ReservationSteps env unitsOf specs id now l l₁ p l') :
    Balanced l₁ ∧ Keeps l l₁ ∧ Prepared l₁ p ∧
      p.charged = specs.map (chargeFor unitsOf now l₁) ∧ Charged id now p.charged p.ledger l' := by
  obtain ⟨hbal, hkeeps⟩ := balanced_expiry hl h.expired
  have hp := (prepared_loop env unitsOf specs now hbal (Prepared.start hbal)).1 p h.prepared
  have hcharged := charged_loop (l := l₁) rfl h.prepared
  refine ⟨hbal, hkeeps, hp, hcharged, charge_loop hp.balanced (fun c hc => ?_) h.charged⟩
  obtain ⟨hopen, hread⟩ := hp.opened c hc
  obtain ⟨w, hw⟩ := Option.isSome_iff_exists.1 hread
  refine ⟨hopen, ?_, ?_⟩
  · rw [hcharged] at hc
    obtain ⟨spec, hspec, rfl⟩ := mem_map.1 hc
    exact chargeFor_nonneg (hunits spec hspec)
  · rw [hw, hp.reservations]
    exact hp.read _ w hw

/-- **Reserving keeps the books**, whatever its outcome. -/
theorem balanced_reserveSpecs (env : Coordinator) (unitsOf : QuotaSpec → ℤ)
    (specs : List QuotaSpec) (id : String) (now : Micros) (hl : Balanced l)
    (hunits : ∀ spec ∈ specs, 0 ≤ unitsOf spec) :
    (∀ l', reserveSpecs env unitsOf specs id now l = .ok l' → Balanced l' ∧ Keeps l l') ∧
      ∀ e, reserveSpecs env unitsOf specs id now l = .error e → e.Sound l := by
  constructor
  · intro l' h
    obtain ⟨l₁, p, h⟩ := reserveSpecs_eq_ok.1 h
    obtain ⟨-, hkeeps, hp, -, hcharged⟩ := h.loops hl hunits
    refine ⟨hcharged.balanced, hkeeps.trans (Keeps.trans ?_ hcharged.keeps)⟩
    exact ⟨fun r hr _ => hp.reservations ▸ hr, hp.windows⟩
  · intro e h
    cases reserveSpecs_eq_error h with
    | expiry e => trivial
    | preparing h₁ hp =>
      obtain ⟨hbal, hkeeps⟩ := balanced_expiry hl h₁
      exact Refusal.Sound.trans hkeeps
        ((prepared_loop env unitsOf specs now hbal (Prepared.start hbal)).2 _ hp)
    | capacity h₁ hp _ hlacks =>
      obtain ⟨hbal, hkeeps⟩ := balanced_expiry hl h₁
      have hprepared := (prepared_loop env unitsOf specs now hbal (Prepared.start hbal)).1 _ hp
      obtain ⟨t, rfl⟩ := checkCapacity_eq_error hlacks
      exact Refusal.Sound.trans hkeeps (hprepared.drop hbal)
    | charging => trivial

end

end ChartingPlatform
