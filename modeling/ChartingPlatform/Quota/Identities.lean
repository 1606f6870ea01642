/-
  Identities that are counted once: a dimension of symbols charges an identity when it is
  claimed, and later reservations of it carry no unit while it is active.
-/
import ChartingPlatform.Quota.Concurrency

namespace ChartingPlatform

open Lib List

/-! ## Claims -/

def Reservation.claims (r : Reservation) : Bucket × Option Digest := (r.bucket, r.identityDigest)

def QuotaIdentity.claims (i : QuotaIdentity) : Bucket × Option Digest :=
  (i.bucket, some i.identityDigest)

def Reservation.accepted (r : Reservation) : Bool :=
  decide (r.state = .settled) || decide (r.state = .uncertain)

def Reservation.counted (r : Reservation) : Bool := decide (r.state = .pending) || r.accepted

def countedUnits (rs : List Reservation) (b : Bucket) : ℤ :=
  (rs.map fun r => if r.bucket = b ∧ r.counted = true then r.reservedUnits else 0).sum

def identitiesIn (is : List QuotaIdentity) (b : Bucket) : ℕ :=
  is.countP fun i => decide (i.bucket = b)

/-- One reservation carries the unit of the identity; while nobody was accepted it
    is pending and owns the identity. -/
def CarriedBy (rs : List Reservation) (i : QuotaIdentity) : Prop :=
  ∃ c ∈ rs, c.claims = i.claims ∧ c.counted = true ∧ c.reservedUnits = 1 ∧
    (∀ x ∈ rs, x.claims = i.claims → x.counted = true → x ≠ c → x.reservedUnits = 0) ∧
      if i.state = .pending then c.state = .pending ∧ i.ownerReservationId = some c.reservationId
      else ∃ x ∈ rs, x.claims = i.claims ∧ x.accepted = true

/-- Every identity of the pool is carried, and every reservation that counts has
    its identity. -/
structure Carried (k : Pool) (l : Ledger) : Prop where
  unique_reservations : (l.reservations.map Reservation.key).Nodup
  unique_identities : (l.identities.map QuotaIdentity.key).Nodup
  claiming : ∀ r ∈ l.reservations, r.bucket.pool = k →
    r.releaseOnly = false ∧ ∃ d, r.identityDigest = some d
  identified : ∀ r ∈ l.reservations, r.bucket.pool = k → r.counted = true →
    ∃ i ∈ l.identities, i.claims = r.claims
  carried : ∀ i ∈ l.identities, i.bucket.pool = k → CarriedBy l.reservations i

theorem carried_empty (k : Pool) : Carried k {} where
  unique_reservations := nodup_nil
  unique_identities := nodup_nil
  claiming _ h := absurd h not_mem_nil
  identified _ h := absurd h not_mem_nil
  carried _ h := absurd h not_mem_nil

section
variable {env : Coordinator} {k : Pool} {l l₁ l' : Ledger} {r x : Reservation} {i : QuotaIdentity}
  {now : Micros} {s : Settlement} {rs rs' : List Reservation} {d : Digest}
  {f : Reservation → Reservation} {rows : List Reservation} {id : String}
  {windows : Bucket → Option QuotaWindow} {c : QuotaSpec × ℤ} {unitsOf : QuotaSpec → ℤ}

theorem pool_of_claims (h : i.claims = r.claims) : i.bucket.pool = r.bucket.pool :=
  congrArg Bucket.pool (Prod.mk.inj h).1

theorem claims_eq_iff (hd : r.identityDigest = some d) :
    i.claims = r.claims ↔ i.key = (r.bucket, d) := by
  unfold QuotaIdentity.claims Reservation.claims QuotaIdentity.key
  rw [hd, Prod.mk.injEq, Prod.mk.injEq, Option.some.injEq]

theorem not_accepted_of_pending (h : r.state = .pending) : r.accepted = false := by
  simp [Reservation.accepted, h]

theorem counted_of_pending (h : r.state = .pending) : r.counted = true := by
  simp [Reservation.counted, h]

theorem counted_of_accepted (h : r.accepted = true) : r.counted = true := by
  simp [Reservation.counted, h]

theorem carriedBy_congr (h : CarriedBy rs i)
    (hrows : ∀ x, x.claims = i.claims → (x ∈ rs' ↔ x ∈ rs)) : CarriedBy rs' i := by
  obtain ⟨c, hc, hclaims, hcounted, hunits, hothers, hstate⟩ := h
  refine ⟨c, (hrows c hclaims).2 hc, hclaims, hcounted, hunits,
    fun x hx hxc => hothers x ((hrows x hxc).1 hx) hxc, ?_⟩
  split_ifs at hstate ⊢
  · exact hstate
  · obtain ⟨x, hx, hxc, haccepted⟩ := hstate
    exact ⟨x, (hrows x hxc).2 hx, hxc, haccepted⟩

theorem Carried.frame (h : Carried k l) (hr : (l'.reservations.map Reservation.key).Nodup)
    (hi : (l'.identities.map QuotaIdentity.key).Nodup)
    (hrows : ∀ x : Reservation, x.bucket.pool = k → (x ∈ l'.reservations ↔ x ∈ l.reservations))
    (hids : ∀ i : QuotaIdentity, i.bucket.pool = k → (i ∈ l'.identities ↔ i ∈ l.identities)) :
    Carried k l' where
  unique_reservations := hr
  unique_identities := hi
  claiming r hr hk := h.claiming r ((hrows r hk).1 hr) hk
  identified r hr hk hc := by
    obtain ⟨i, hi, hclaims⟩ := h.identified r ((hrows r hk).1 hr) hk hc
    exact ⟨i, (hids i ((pool_of_claims hclaims).trans hk)).2 hi, hclaims⟩
  carried i hi hk := carriedBy_congr (h.carried i ((hids i hk).1 hi) hk) fun x hx =>
    hrows x ((pool_of_claims hx.symm).symm.trans hk)

theorem Carried.of_eq (h : Carried k l) (hr : l'.reservations = l.reservations)
    (hi : l'.identities = l.identities) : Carried k l' :=
  h.frame (hr ▸ h.unique_reservations) (hi ▸ h.unique_identities) (fun _ _ => hr ▸ Iff.rfl)
    fun _ _ => hi ▸ Iff.rfl

/-! ## What happens to one identity -/

theorem CarriedBy.accept {j : QuotaIdentity} (h : CarriedBy rs i)
    (hn : (rs.map Reservation.key).Nodup) (hr : r ∈ rs) (hpending : r.state = .pending)
    (hclaims : i.claims = r.claims)
    (hfclaims : (f r).claims = r.claims) (hunits : (f r).reservedUnits = r.reservedUnits)
    (haccepted : (f r).accepted = true) (hj : j.claims = i.claims) (hstate : j.state ≠ .pending) :
    CarriedBy (updateRow Reservation.key r.key f rs) j := by
  have hmem : ∀ x, x ∈ updateRow Reservation.key r.key f rs ↔ x = f r ∨ x ∈ rs ∧ x ≠ r :=
    fun x => mem_updateRow_iff hn hr
  obtain ⟨c, hc, hcc, hccounted, hcunits, hothers, -⟩ := h
  have hfr : f r ∈ updateRow Reservation.key r.key f rs := (hmem _).2 (.inl rfl)
  have hfj : (f r).claims = j.claims := hfclaims.trans (hj.trans hclaims).symm
  have hwitness (P : Prop) : if j.state = .pending then P else
      ∃ x ∈ updateRow Reservation.key r.key f rs, x.claims = j.claims ∧ x.accepted = true := by
    rw [if_neg hstate]
    exact ⟨f r, hfr, hfj, haccepted⟩
  by_cases hcr : c = r
  · subst hcr
    refine ⟨f c, hfr, hfj, counted_of_accepted haccepted, hunits.trans hcunits,
      fun x hx hxc hxcounted hne => ?_, hwitness _⟩
    rcases (hmem x).1 hx with rfl | ⟨hx, hxr⟩
    · exact absurd rfl hne
    · exact hothers x hx (hxc.trans hj) hxcounted hxr
  · refine ⟨c, (hmem c).2 (.inr ⟨hc, hcr⟩), hcc.trans hj.symm, hccounted, hcunits,
      fun x hx hxc hxcounted hne => ?_, hwitness _⟩
    rcases (hmem x).1 hx with rfl | ⟨hx, -⟩
    · exact hunits.trans
        (hothers r hr hclaims.symm (counted_of_pending hpending) (Ne.symm hcr))
    · exact hothers x hx (hxc.trans hj) hxcounted hne

theorem CarriedBy.drop (h : CarriedBy rs i) (hn : (rs.map Reservation.key).Nodup) (hr : r ∈ rs)
    (hpending : r.state = .pending) (hzero : r.reservedUnits = 0)
    (hdropped : (f r).counted = false) : CarriedBy (updateRow Reservation.key r.key f rs) i := by
  have hmem : ∀ x, x ∈ updateRow Reservation.key r.key f rs ↔ x = f r ∨ x ∈ rs ∧ x ≠ r :=
    fun x => mem_updateRow_iff hn hr
  obtain ⟨c, hc, hcc, hccounted, hcunits, hothers, hstate⟩ := h
  have hcr : c ≠ r := by
    rintro rfl
    rw [hzero] at hcunits
    cases hcunits
  refine ⟨c, (hmem c).2 (.inr ⟨hc, hcr⟩), hcc, hccounted, hcunits,
    fun x hx hxc hxcounted hne => ?_, ?_⟩
  · rcases (hmem x).1 hx with rfl | ⟨hx, -⟩
    · rw [hdropped] at hxcounted
      cases hxcounted
    · exact hothers x hx hxc hxcounted hne
  · split_ifs at hstate ⊢
    · exact hstate
    · obtain ⟨x, hx, hxc, haccepted⟩ := hstate
      refine ⟨x, (hmem x).2 (.inr ⟨hx, ?_⟩), hxc, haccepted⟩
      rintro rfl
      rw [not_accepted_of_pending hpending] at haccepted
      cases haccepted

theorem CarriedBy.other (h : CarriedBy rs i) (hn : (rs.map Reservation.key).Nodup) (hr : r ∈ rs) (hfclaims : (f r).claims = r.claims)
    (hne : i.claims ≠ r.claims) : CarriedBy (updateRow Reservation.key r.key f rs) i := by
  refine carriedBy_congr h fun x hx => ?_
  rw [mem_updateRow_iff hn hr]
  constructor
  · rintro (rfl | ⟨hx', -⟩)
    · exact absurd (hx.symm.trans hfclaims) hne
    · exact hx'
  · refine fun hx' => .inr ⟨hx', ?_⟩
    rintro rfl
    exact hne hx.symm

theorem eq_of_claims {j : QuotaIdentity} (hn : (l.identities.map QuotaIdentity.key).Nodup)
    (hi : i ∈ l.identities) (hj : j ∈ l.identities) (h : j.claims = i.claims) : j = i := by
  refine inj_on_of_nodup_map hn hj hi ?_
  obtain ⟨hb, hd⟩ := Prod.mk.inj h
  exact Prod.ext hb (Option.some.inj hd)

theorem Carried.update (h : Carried k l) (hr : r ∈ l.reservations) (hkey : ∀ x, (f x).key = x.key)
    (hfclaims : ∀ x, (f x).claims = x.claims) (hrelease : ∀ x, (f x).releaseOnly = x.releaseOnly)
    (hrows : l'.reservations = updateRow Reservation.key r.key f l.reservations)
    (hids : (l'.identities.map QuotaIdentity.key).Nodup)
    (hothers : ∀ j : QuotaIdentity, j.claims ≠ r.claims → (j ∈ l'.identities ↔ j ∈ l.identities))
    (hself : ∀ j ∈ l'.identities, j.claims = r.claims → CarriedBy l'.reservations j)
    (hkept : ∀ x ∈ l'.reservations, x.claims = r.claims → x.counted = true →
      ∃ j ∈ l'.identities, j.claims = r.claims) : Carried k l' := by
  have hmem : ∀ x, x ∈ l'.reservations ↔ x = f r ∨ x ∈ l.reservations ∧ x ≠ r :=
    fun x => hrows ▸ mem_updateRow_iff h.unique_reservations hr
  have hpool : (f r).bucket.pool = r.bucket.pool :=
    congrArg Bucket.pool (Prod.mk.inj (hfclaims r)).1
  constructor
  · rw [hrows, map_key_updateRow fun x hx => (hkey x).trans hx]
    exact h.unique_reservations
  · exact hids
  · intro x hx hxk
    rcases (hmem x).1 hx with rfl | ⟨hx, -⟩
    · obtain ⟨hmetered, e, he⟩ := h.claiming r hr (hpool ▸ hxk)
      exact ⟨(hrelease r).trans hmetered, e, ((Prod.mk.inj (hfclaims r)).2).trans he⟩
    · exact h.claiming x hx hxk
  · intro x hx hxk hcounted
    by_cases hxr : x.claims = r.claims
    · obtain ⟨j, hj, hjr⟩ := hkept x hx hxr hcounted
      exact ⟨j, hj, hjr.trans hxr.symm⟩
    · rcases (hmem x).1 hx with rfl | ⟨hx, -⟩
      · exact absurd (hfclaims r) hxr
      · obtain ⟨j, hj, hjx⟩ := h.identified x hx hxk hcounted
        exact ⟨j, (hothers j (hjx ▸ hxr)).2 hj, hjx⟩
  · intro j hj hjk
    by_cases hjr : j.claims = r.claims
    · exact hself j hj hjr
    · rw [hrows]
      exact (h.carried j ((hothers j hjr).1 hj) hjk).other h.unique_reservations hr (hfclaims r) hjr

/-! ## One row of a settlement -/

/-- The settlement keeps the unit of the row with its identity: a call that was
    sent is recorded with the units of the row, and a row that carries the unit is
    taken back only where no other reservation of the identity counts. -/
def Settlement.KeepsUnit (s : Settlement) (l : Ledger) (r : Reservation) : Prop :=
  if s.releaseIdentities = true then
    r.bucket.pool.dimension ∉ s.unknownDimensions ∧
      (r.reservedUnits = 0 ∨ ∀ o ∈ l.reservations, o.claims = r.claims →
        o.reservationId ≠ r.reservationId → o.counted = false)
  else r.bucket.pool.dimension ∈ s.unknownDimensions ∨ s.actual r = r.reservedUnits

instance (s : Settlement) (l : Ledger) (r : Reservation) : Decidable (s.KeepsUnit l r) := by
  unfold Settlement.KeepsUnit; infer_instance

theorem settleUnits_row (hmetered : r.releaseOnly = false) (h : l.settleUnits s now r = .ok l₁) :
    ∃ f : Reservation → Reservation,
      l₁.reservations = updateRow Reservation.key r.key f l.reservations ∧
      l₁.identities = l.identities ∧ (∀ x, (f x).key = x.key) ∧ (∀ x, (f x).claims = x.claims) ∧
      (∀ x, (f x).releaseOnly = x.releaseOnly) ∧
      (r.bucket.pool.dimension ∈ s.unknownDimensions →
        (f r).reservedUnits = r.reservedUnits ∧ (f r).state = .uncertain) ∧
      (r.bucket.pool.dimension ∉ s.unknownDimensions → (f r).reservedUnits = s.actual r ∧
        (f r).state = if s.releaseIdentities then .notSent else .settled) := by
  unfold Ledger.settleUnits at h
  by_cases hunknown : r.bucket.pool.dimension ∈ s.unknownDimensions
  · rw [if_pos hunknown] at h
    obtain rfl := Except.ok.inj h
    exact ⟨_, rfl, rfl, fun _ => rfl, fun _ => rfl, fun _ => rfl, fun _ => ⟨rfl, rfl⟩,
      fun hknown => absurd hunknown hknown⟩
  · rw [if_neg hunknown, if_neg (by rw [hmetered]; exact Bool.false_ne_true)] at h
    by_cases hneg : s.actual r < 0
    · rw [if_pos hneg] at h
      cases h
    · rw [if_neg hneg] at h
      obtain rfl := Except.ok.inj h
      exact ⟨_, rfl, rfl, fun _ => rfl, fun _ => rfl, fun _ => rfl, fun h => absurd h hunknown,
        fun _ => ⟨rfl, rfl⟩⟩

theorem mem_others {o : Reservation} (hd : r.identityDigest = some d) :
    o ∈ l.others r d ↔ o ∈ l.reservations ∧ o.claims = r.claims ∧
      o.reservationId ≠ r.reservationId := by
  unfold Ledger.others Reservation.claims
  rw [mem_filter, decide_eq_true_eq, Prod.mk.injEq, hd, and_assoc]

theorem reservationId_ne (hn : (rs.map Reservation.key).Nodup) (hr : r ∈ rs) (hx : x ∈ rs)
    (hclaims : x.claims = r.claims) (hne : x ≠ r) : x.reservationId ≠ r.reservationId := by
  refine fun hid => hne (inj_on_of_nodup_map hn hx hr (Prod.ext hid ?_))
  exact congrArg (fun b : Bucket => b.pool.dimension) (Prod.mk.inj hclaims).1

theorem settleIdentity_of_notPending (hi : l.identityOf r d = some i) (hstate : i.state ≠ .pending) :
    l.settleIdentity s r d = l := by
  unfold Ledger.settleIdentity
  rw [hi]
  exact if_pos hstate

/-- The identity of a call that was sent, or may have been. -/
def Settlement.acceptIdentity (s : Settlement) (r : Reservation) (i : QuotaIdentity) :
    QuotaIdentity :=
  { i with
    state := if r.bucket.pool.dimension ∈ s.unknownDimensions then .uncertain else .consumed
    ownerReservationId := none }

theorem settleIdentity_of_sent (hi : l.identityOf r d = some i) (hstate : i.state = .pending)
    (hsent : s.releaseIdentities = false) :
    l.settleIdentity s r d = l.updateIdentity (r.bucket, d) (s.acceptIdentity r) := by
  unfold Ledger.settleIdentity
  rw [hi]
  simp only [hstate, hsent, ne_eq, not_true_eq_false, if_false, Bool.false_eq_true, false_and]
  rfl

theorem settleIdentity_of_notOwner (hi : l.identityOf r d = some i) (hstate : i.state = .pending)
    (hnot : s.releaseIdentities = true) (howner : i.ownerReservationId ≠ some r.reservationId) :
    l.settleIdentity s r d = l := by
  unfold Ledger.settleIdentity
  rw [hi]
  simp [hstate, hnot, howner]

theorem settleIdentity_of_owner (hi : l.identityOf r d = some i) (hstate : i.state = .pending)
    (hnot : s.releaseIdentities = true) (howner : i.ownerReservationId = some r.reservationId)
    (hothers : ∀ o ∈ l.others r d, o.counted = false) :
    l.settleIdentity s r d = l.deleteIdentity (r.bucket, d) := by
  have hstates : ∀ o ∈ l.others r d, o.state ≠ .settled ∧ o.state ≠ .uncertain ∧
      o.state ≠ .pending := by
    intro o ho
    have := hothers o ho
    cases hs : o.state <;> simp [Reservation.counted, Reservation.accepted, hs] at this ⊢
  have haccepted : (l.others r d).find? (fun o =>
      decide (o.state = .settled) || decide (o.state = .uncertain)) = none :=
    find?_eq_none.2 fun o ho => by simp [(hstates o ho).1, (hstates o ho).2.1]
  have hpending : (l.others r d).find? (fun o => decide (o.state = .pending)) = none :=
    find?_eq_none.2 fun o ho => by simp [(hstates o ho).2.2]
  unfold Ledger.settleIdentity
  rw [hi]
  simp only [hstate, ne_eq, not_true_eq_false, if_false, hnot, howner, and_self, if_true,
    haccepted, hpending]

theorem Carried.found (h : Carried k l) (hr : r ∈ l.reservations) (hk : r.bucket.pool = k)
    (hpending : r.state = .pending) (hids : l₁.identities = l.identities) :
    ∃ d, r.identityDigest = some d ∧ ∃ i ∈ l.identities, i.claims = r.claims ∧
      i.key = (r.bucket, d) ∧ l₁.identityOf r d = some i ∧ CarriedBy l.reservations i ∧
      ∀ j ∈ l.identities, j.claims = r.claims → j = i := by
  obtain ⟨-, d, hd⟩ := h.claiming r hr hk
  obtain ⟨i, hi, hir⟩ := h.identified r hr hk (counted_of_pending hpending)
  have hikey : i.key = (r.bucket, d) := (claims_eq_iff hd).1 hir
  refine ⟨d, hd, i, hi, hir, hikey, ?_, h.carried i hi ((pool_of_claims hir).trans hk),
    fun j hj hjr => eq_of_claims h.unique_identities hi hj (hjr.trans hir.symm)⟩
  exact (rowWith_eq_some (hids ▸ h.unique_identities)).2 ⟨hids ▸ hi, hikey⟩

theorem Carried.settleRow_sent (h : Carried k l) (hr : r ∈ l.reservations)
    (hk : r.bucket.pool = k) (hpending : r.state = .pending) (hnot : s.releaseIdentities = false)
    (hkeeps : r.bucket.pool.dimension ∈ s.unknownDimensions ∨ s.actual r = r.reservedUnits)
    (hsettled : settleRow s now l r = .ok l') : Carried k l' := by
  obtain ⟨l₁, h₁, hl'⟩ := settleRow_steps hsettled
  obtain ⟨f, hrows, hids, hkey, hclaims, hrelease, hunknown, hknown⟩ :=
    settleUnits_row (h.claiming r hr hk).1 h₁
  obtain ⟨d, hd, i, hi, hir, hikey, hfind, hcarried, hself⟩ := h.found hr hk hpending hids
  simp only [hd] at hl'
  have hfr : (f r).reservedUnits = r.reservedUnits ∧ (f r).accepted = true := by
    by_cases hdim : r.bucket.pool.dimension ∈ s.unknownDimensions
    · obtain ⟨hunits, hstate⟩ := hunknown hdim
      exact ⟨hunits, by simp [Reservation.accepted, hstate]⟩
    · obtain ⟨hunits, hstate⟩ := hknown hdim
      rw [hnot, if_neg Bool.false_ne_true] at hstate
      exact ⟨hunits.trans (hkeeps.resolve_left hdim), by simp [Reservation.accepted, hstate]⟩
  have haccept : ∀ j : QuotaIdentity, j.claims = i.claims → j.state ≠ .pending →
      CarriedBy l₁.reservations j := fun j hj hstate => hrows ▸
    hcarried.accept h.unique_reservations hr hpending hir (hclaims r) hfr.1 hfr.2 hj hstate
  by_cases hstate : i.state = .pending
  · rw [settleIdentity_of_sent hfind hstate hnot] at hl'
    subst hl'
    have hg : (l₁.updateIdentity (r.bucket, d) (s.acceptIdentity r)).identities =
        updateRow QuotaIdentity.key i.key (s.acceptIdentity r) l.identities := by
      rw [hikey, ← hids]
      rfl
    have hgstate : (s.acceptIdentity r i).state ≠ .pending := by
      unfold Settlement.acceptIdentity
      dsimp only
      split_ifs <;> exact nofun
    refine h.update hr hkey hclaims hrelease hrows ?_ (fun j hj => ?_) (fun j hj hjr => ?_)
      fun x _ _ _ => ⟨s.acceptIdentity r i, ?_, hir⟩
    · have hkeys : (updateRow QuotaIdentity.key i.key (s.acceptIdentity r) l.identities).map
          QuotaIdentity.key = l.identities.map QuotaIdentity.key := map_key_updateRow fun _ hj => hj
      rw [hg, hkeys]
      exact h.unique_identities
    · rw [hg, mem_updateRow_iff h.unique_identities hi]
      constructor
      · rintro (rfl | ⟨hj', -⟩)
        · exact absurd hir hj
        · exact hj'
      · refine fun hj' => .inr ⟨hj', ?_⟩
        rintro rfl
        exact hj hir
    · rw [hg, mem_updateRow_iff h.unique_identities hi] at hj
      rcases hj with rfl | ⟨hj, hne⟩
      · exact haccept _ rfl hgstate
      · exact absurd (hself j hj hjr) hne
    · rw [hg, mem_updateRow_iff h.unique_identities hi]
      exact .inl rfl
  · rw [settleIdentity_of_notPending hfind hstate] at hl'
    subst hl'
    refine h.update hr hkey hclaims hrelease hrows (hids ▸ h.unique_identities)
      (fun j _ => hids ▸ Iff.rfl) (fun j hj hjr => ?_) fun x _ _ _ => ⟨i, hids ▸ hi, hir⟩
    rw [hids] at hj
    obtain rfl := hself j hj hjr
    exact haccept j rfl hstate

theorem Carried.settleRow_notSent (h : Carried k l) (hr : r ∈ l.reservations)
    (hk : r.bucket.pool = k) (hpending : r.state = .pending) (hnot : s.releaseIdentities = true)
    (hdim : r.bucket.pool.dimension ∉ s.unknownDimensions)
    (hkeeps : r.reservedUnits = 0 ∨ ∀ o ∈ l.reservations, o.claims = r.claims →
      o.reservationId ≠ r.reservationId → o.counted = false)
    (hsettled : settleRow s now l r = .ok l') : Carried k l' := by
  obtain ⟨l₁, h₁, hl'⟩ := settleRow_steps hsettled
  obtain ⟨f, hrows, hids, hkey, hclaims, hrelease, -, hknown⟩ :=
    settleUnits_row (h.claiming r hr hk).1 h₁
  obtain ⟨d, hd, i, hi, hir, hikey, hfind, hcarried, hself⟩ := h.found hr hk hpending hids
  simp only [hd] at hl'
  have hmem : ∀ x, x ∈ l₁.reservations ↔ x = f r ∨ x ∈ l.reservations ∧ x ≠ r :=
    fun x => hrows ▸ mem_updateRow_iff h.unique_reservations hr
  obtain ⟨-, hfstate⟩ := hknown hdim
  rw [hnot, if_pos rfl] at hfstate
  have hdropped : (f r).counted = false := by
    simp [Reservation.counted, Reservation.accepted, hfstate]
  have hid : ∀ x ∈ l.reservations, x.claims = r.claims → x ≠ r →
      x.reservationId ≠ r.reservationId := fun x hx hxc hne =>
    reservationId_ne h.unique_reservations hr hx hxc hne
  obtain ⟨c, hc, hcc, hccounted, hcunits, hothers, hstate⟩ := hcarried
  by_cases hzero : r.reservedUnits = 0
  · -- The row carries nothing, so it does not own the identity.
    have hl₁ : l' = l₁ := by
      by_cases hpend : i.state = .pending
      · rw [if_pos hpend] at hstate
        have hcr : c ≠ r := by
          rintro rfl
          rw [hzero] at hcunits
          cases hcunits
        rw [settleIdentity_of_notOwner hfind hpend hnot] at hl'
        · exact hl'
        · rw [hstate.2]
          exact fun howner => hid c hc (hcc.trans hir) hcr (Option.some.inj howner)
      · rw [settleIdentity_of_notPending hfind hpend] at hl'
        exact hl'
    subst hl₁
    refine h.update hr hkey hclaims hrelease hrows (hids ▸ h.unique_identities)
      (fun j _ => hids ▸ Iff.rfl) (fun j hj hjr => ?_) fun x _ _ _ => ⟨i, hids ▸ hi, hir⟩
    rw [hids] at hj
    obtain rfl := hself j hj hjr
    rw [hrows]
    exact (h.carried j hi ((pool_of_claims hir).trans hk)).drop h.unique_reservations hr hpending
      hzero hdropped
  · -- The row carries the unit alone, so it owns the identity, which is deleted.
    have hnone := hkeeps.resolve_left hzero
    have hcr : r = c := by
      by_contra hne
      exact hzero (hothers r hr hir.symm (counted_of_pending hpending) hne)
    subst hcr
    have hpend : i.state = .pending := by
      by_contra hpend
      rw [if_neg hpend] at hstate
      obtain ⟨x, hx, hxc, haccepted⟩ := hstate
      have hne : x ≠ r := by
        rintro rfl
        rw [not_accepted_of_pending hpending] at haccepted
        cases haccepted
      have := hnone x hx (hxc.trans hir) (hid x hx (hxc.trans hir) hne)
      rw [counted_of_accepted haccepted] at this
      cases this
    rw [if_pos hpend] at hstate
    rw [settleIdentity_of_owner hfind hpend hnot hstate.2] at hl'
    · subst hl'
      have hdeleted : ∀ j, j ∈ (l₁.deleteIdentity (r.bucket, d)).identities ↔
          j ∈ l.identities ∧ j.key ≠ i.key := fun j => by
        rw [hikey, ← hids]
        simp [Ledger.deleteIdentity]
      refine h.update hr hkey hclaims hrelease hrows ?_ (fun j hj => ?_) (fun j hj hjr => ?_)
        fun x hx hxc hxcounted => ?_
      · exact (hids ▸ h.unique_identities).sublist (filter_sublist.map _)
      · rw [hdeleted]
        exact and_iff_left fun hji => hj ((claims_eq_iff hd).2 (hji.trans hikey))
      · rw [hdeleted] at hj
        exact absurd ((claims_eq_iff hd).1 hjr) (hikey ▸ hj.2)
      · rcases (hmem x).1 hx with rfl | ⟨hx, hne⟩
        · rw [hdropped] at hxcounted
          cases hxcounted
        · rw [hnone x hx hxc (hid x hx hxc hne)] at hxcounted
          cases hxcounted
    · intro o ho
      obtain ⟨ho, hoc, hoid⟩ := (mem_others hd).1 ho
      rcases (hmem o).1 ho with rfl | ⟨ho, -⟩
      · exact hdropped
      · exact hnone o ho hoc hoid

/-! ## Rows of other pools -/

/-- The identity table with at most the row of one key changed. -/
structure OnlyKey (K : Bucket × Digest) (is is' : List QuotaIdentity) : Prop where
  unique : (is.map QuotaIdentity.key).Nodup → (is'.map QuotaIdentity.key).Nodup
  others : ∀ j : QuotaIdentity, j.key ≠ K → (j ∈ is' ↔ j ∈ is)

theorem OnlyKey.refl (K : Bucket × Digest) (is : List QuotaIdentity) : OnlyKey K is is :=
  ⟨fun h => h, fun _ _ => Iff.rfl⟩

theorem onlyKey_update (l : Ledger) (K : Bucket × Digest) {f : QuotaIdentity → QuotaIdentity}
    (hf : ∀ j, (f j).key = j.key) : OnlyKey K l.identities (l.updateIdentity K f).identities := by
  constructor
  · intro hn
    have hkeys : (l.updateIdentity K f).identities.map QuotaIdentity.key =
        l.identities.map QuotaIdentity.key := map_key_updateRow fun j hj => (hf j).trans hj
    exact hkeys ▸ hn
  · intro j hj
    refine Iff.trans mem_updateRow ⟨?_, fun h => ⟨j, h, .inr ⟨hj, rfl⟩⟩⟩
    rintro ⟨y, hy, ⟨hyK, rfl⟩ | ⟨-, rfl⟩⟩
    · exact absurd ((hf y).trans hyK) hj
    · exact hy

theorem onlyKey_delete (l : Ledger) (K : Bucket × Digest) :
    OnlyKey K l.identities (l.deleteIdentity K).identities :=
  ⟨fun hn => hn.sublist (filter_sublist.map _), fun j hj => by
    simp [Ledger.deleteIdentity, hj]⟩

theorem onlyKey_settleIdentity (l : Ledger) (s : Settlement) (r : Reservation) (d : Digest) :
    OnlyKey (r.bucket, d) l.identities (l.settleIdentity s r d).identities := by
  unfold Ledger.settleIdentity
  repeat' split
  all_goals first
    | exact OnlyKey.refl _ _
    | exact onlyKey_delete l _
    | exact onlyKey_update l _ fun _ => rfl

theorem mem_pool_updateRow
    (hn : (rs.map Reservation.key).Nodup) (hr : r ∈ rs) (hbucket : (f r).bucket = r.bucket)
    (hk : r.bucket.pool ≠ k) (hx : x.bucket.pool = k) :
    x ∈ updateRow Reservation.key r.key f rs ↔ x ∈ rs := by
  rw [mem_updateRow_iff hn hr]
  constructor
  · rintro (rfl | ⟨hx', -⟩)
    · exact absurd ((congrArg Bucket.pool hbucket).symm.trans hx) hk
    · exact hx'
  · refine fun hx' => .inr ⟨hx', ?_⟩
    rintro rfl
    exact hk hx

theorem settleUnits_frame (hn : (l.reservations.map Reservation.key).Nodup)
    (hr : r ∈ l.reservations) (h : l.settleUnits s now r = .ok l₁) :
    (l₁.reservations.map Reservation.key).Nodup ∧ l₁.identities = l.identities ∧
      ∀ x : Reservation, r.bucket.pool ≠ x.bucket.pool →
        (x ∈ l₁.reservations ↔ x ∈ l.reservations) := by
  have hkeys {f : Reservation → Reservation} (hf : ∀ x, (f x).key = x.key) :
      ((updateRow Reservation.key r.key f l.reservations).map Reservation.key).Nodup := by
    rw [map_key_updateRow fun x hx => (hf x).trans hx]
    exact hn
  rcases settleUnits_cases h with ⟨-, rfl⟩ | ⟨-, rfl⟩ | ⟨-, -, rfl⟩ <;>
    exact ⟨hkeys fun _ => rfl, rfl, fun x hx => mem_pool_updateRow hn hr rfl hx rfl⟩

theorem settleRow_frame (hn : (l.reservations.map Reservation.key).Nodup)
    (hn' : (l.identities.map QuotaIdentity.key).Nodup) (hr : r ∈ l.reservations)
    (h : settleRow s now l r = .ok l') :
    (l'.reservations.map Reservation.key).Nodup ∧ (l'.identities.map QuotaIdentity.key).Nodup ∧
      (∀ x : Reservation, r.bucket.pool ≠ x.bucket.pool →
        (x ∈ l'.reservations ↔ x ∈ l.reservations)) ∧
      ∀ i : QuotaIdentity, r.bucket.pool ≠ i.bucket.pool →
        (i ∈ l'.identities ↔ i ∈ l.identities) := by
  obtain ⟨l₁, h₁, hl'⟩ := settleRow_steps h
  obtain ⟨hkeys, hids, hrows⟩ := settleUnits_frame hn hr h₁
  cases hd : r.identityDigest with
  | none =>
    simp only [hd] at hl'
    subst hl'
    exact ⟨hkeys, hids ▸ hn', hrows, fun _ _ => hids ▸ Iff.rfl⟩
  | some d =>
    simp only [hd] at hl'
    subst hl'
    obtain ⟨-, hres, -⟩ := settleIdentity_frame l₁ s r d
    have honly := onlyKey_settleIdentity l₁ s r d
    rw [hids] at honly
    refine ⟨hres ▸ hkeys, honly.unique hn', fun x hx => hres ▸ hrows x hx, fun i hi => ?_⟩
    refine honly.others i fun hkey => hi ?_
    exact congrArg Bucket.pool (Prod.mk.inj hkey).1.symm

/-! ## A whole settlement -/

theorem Carried.settleRows (h : Carried k l)
    (hn : (rows.map Reservation.key).Nodup)
    (hsame : ∀ r ∈ rows, ∀ r' ∈ rows, r.reservationId = r'.reservationId)
    (hrows : ∀ r ∈ rows, r ∈ l.reservations ∧ r.state = .pending ∧
      (r.bucket.pool = k → s.KeepsUnit l r))
    (hsettled : rows.foldlM (settleRow s now) l = .ok l') : Carried k l' := by
  induction rows generalizing l with
  | nil =>
    obtain rfl := Except.ok.inj hsettled
    exact h
  | cons r rows ih =>
    rw [foldlM_cons] at hsettled
    obtain ⟨l₁, h₁, hsettled⟩ := bind_eq_ok.1 hsettled
    rw [map_cons, nodup_cons] at hn
    obtain ⟨hr, hpending, hkeeps⟩ := hrows r mem_cons_self
    obtain ⟨hkeys, hids, hframe, hidframe⟩ :=
      settleRow_frame h.unique_reservations h.unique_identities hr h₁
    have hdim : ∀ y ∈ rows, y.bucket.pool ≠ r.bucket.pool := fun y hy hpool => hn.1 <|
      mem_map.2 ⟨y, hy, Prod.ext
        (hsame y (mem_cons_of_mem r hy) r mem_cons_self) (congrArg Pool.dimension hpool)⟩
    have hcarried : Carried k l₁ := by
      by_cases hk : r.bucket.pool = k
      · have hkeeps := hkeeps hk
        unfold Settlement.KeepsUnit at hkeeps
        by_cases hnot : s.releaseIdentities = true
        · rw [if_pos hnot] at hkeeps
          exact h.settleRow_notSent hr hk hpending hnot hkeeps.1 hkeeps.2 h₁
        · rw [if_neg hnot] at hkeeps
          exact h.settleRow_sent hr hk hpending (by simpa using hnot) hkeeps h₁
      · exact h.frame hkeys hids (fun x hx => hframe x (hx ▸ hk)) fun i hi => hidframe i (hi ▸ hk)
    refine ih hcarried hn.2 (fun a ha b hb => hsame a (mem_cons_of_mem r ha) b
      (mem_cons_of_mem r hb)) (fun y hy => ?_) hsettled
    obtain ⟨hy₀, hypending, hykeeps⟩ := hrows y (mem_cons_of_mem r hy)
    refine ⟨(hframe y (hdim y hy).symm).2 hy₀, hypending, fun hyk => ?_⟩
    have hrk : r.bucket.pool ≠ k := fun hrk => hdim y hy (hyk.trans hrk.symm)
    -- Rows of the pool are the same as before this row of another pool.
    have hykeeps := hykeeps hyk
    unfold Settlement.KeepsUnit at hykeeps ⊢
    split_ifs at hykeeps ⊢
    · refine ⟨hykeeps.1, hykeeps.2.imp_right fun hothers o ho hoc => ?_⟩
      have hok : o.bucket.pool = k := (congrArg Bucket.pool (Prod.mk.inj hoc).1).trans hyk
      exact hothers o ((hframe o (hok ▸ hrk)).1 ho) hoc
    · exact hykeeps

theorem Carried.settle (h : Carried k l)
    (hkeeps : ∀ r ∈ l.pendingOf id, r.bucket.pool = k → s.KeepsUnit l r)
    (hsettled : settleProviderQuota id s now l = .ok l') : Carried k l' :=
  h.settleRows (h.unique_reservations.sublist (filter_sublist.map _))
    (fun _ hr _ hr' => (mem_pendingOf.1 hr).2.1.trans (mem_pendingOf.1 hr').2.1.symm)
    (fun r hr => ⟨(mem_pendingOf.1 hr).1, (mem_pendingOf.1 hr).2.2, hkeeps r hr⟩) hsettled

/-! ## Expired leases -/

theorem Carried.releaseLeases (h : Carried k l)
    (hn : (rows.map Reservation.key).Nodup)
    (hrows : ∀ r ∈ rows, r ∈ l.reservations ∧ r.releaseOnly = true)
    (hexpired : rows.foldlM (releaseLease now) l = .ok l') : Carried k l' := by
  induction rows generalizing l with
  | nil =>
    obtain rfl := Except.ok.inj hexpired
    exact h
  | cons r rows ih =>
    rw [foldlM_cons] at hexpired
    obtain ⟨l₁, h₁, hexpired⟩ := bind_eq_ok.1 hexpired
    rw [map_cons, nodup_cons] at hn
    obtain ⟨hr, hrelease⟩ := hrows r mem_cons_self
    have hres : l₁.reservations =
        updateRow Reservation.key r.key (·.enter .leaseExpired now) l.reservations := by
      rw [releaseLease_eq_ok h₁]
      rfl
    have hids : l₁.identities = l.identities := by
      rw [releaseLease_eq_ok h₁]
      rfl
    have hk : r.bucket.pool ≠ k := fun hk => by
      rw [(h.claiming r hr hk).1] at hrelease
      cases hrelease
    have hkeys : (updateRow Reservation.key r.key (·.enter .leaseExpired now)
        l.reservations).map Reservation.key = l.reservations.map Reservation.key :=
      map_key_updateRow fun _ hx => hx
    have hcarried : Carried k l₁ := by
      refine h.frame ?_ (hids ▸ h.unique_identities) (fun x hx => ?_) fun _ _ => hids ▸ Iff.rfl
      · rw [hres, hkeys]
        exact h.unique_reservations
      · rw [hres]
        exact mem_pool_updateRow (f := (·.enter .leaseExpired now)) h.unique_reservations hr rfl hk
          hx
    refine ih hcarried hn.2 (fun y hy => ?_) hexpired
    obtain ⟨hy₀, hyrelease⟩ := hrows y (mem_cons_of_mem r hy)
    have hne : y.key ≠ r.key := fun hkey => hn.1 (hkey ▸ mem_map_of_mem hy)
    exact ⟨hres ▸ mem_updateRow_of_ne hy₀ hne, hyrelease⟩

theorem Carried.expiry {scopes : List String} (h : Carried k l)
    (hexpired : scopes.foldlM (releaseExpiredConcurrencyLeases now) l = .ok l') :
    Carried k l' :=
  foldlM_keeps (fun _ _ _ _ h₁ h₂ => h₁.releaseLeases
    (h₁.unique_reservations.sublist (filter_sublist.map _))
    (fun _ hr => ⟨mem_of_mem_filter hr, (leaseOver_iff.1 (of_mem_filter hr)).2.1⟩) h₂)
    h hexpired

/-! ## Reservations -/

theorem CarriedBy.append (h : CarriedBy rs i) (hzero : x.claims = i.claims → x.reservedUnits = 0) :
    CarriedBy (rs ++ [x]) i := by
  obtain ⟨c, hc, hcc, hccounted, hcunits, hothers, hstate⟩ := h
  refine ⟨c, mem_append_left _ hc, hcc, hccounted, hcunits, fun y hy hyc hycounted hne => ?_,
    ?_⟩
  · rcases mem_append.1 hy with hy | hy
    · exact hothers y hy hyc hycounted hne
    · obtain rfl := mem_singleton.1 hy
      exact hzero hyc
  · split_ifs at hstate ⊢
    · exact hstate
    · obtain ⟨y, hy, hyc, haccepted⟩ := hstate
      exact ⟨y, mem_append_left _ hy, hyc, haccepted⟩

theorem identities_claim (l : Ledger) (id : String) (c : QuotaSpec × ℤ) :
    (l.claim id c).identities = l.identities ∨ ∃ d, c.1.identityDigest = some d ∧ 0 < c.2 ∧
      (c.1.bucket, d) ∉ l.identities.map QuotaIdentity.key ∧
      (l.claim id c).identities = l.identities ++ [newIdentity id c.1 d] := by
  unfold Ledger.claim
  cases hd : c.1.identityDigest with
  | none => exact .inl rfl
  | some d =>
    dsimp only
    split_ifs with hpos
    · cases hnew : insertNew QuotaIdentity.key (newIdentity id c.1 d) l.identities with
      | none => exact .inl (by rw [Option.getD_none])
      | some is =>
        obtain ⟨hfresh, rfl⟩ := insertNew_eq_some.1 hnew
        exact .inr ⟨d, rfl, hpos, hfresh, by rw [Option.getD_some]⟩
    · exact .inl rfl

theorem chargeSpec_tables (h : chargeSpec id now windows l c = .ok l') :
    (newReservation id now c).key ∉ l.reservations.map Reservation.key ∧
      l'.reservations = l.reservations ++ [newReservation id now c] ∧
      l'.identities = (l.claim id c).identities := by
  obtain ⟨hnew, rfl⟩ := chargeSpec_eq_ok.1 h
  exact ⟨hnew, rfl, (addUnits_frame (l.claim id c) windows c).1⟩

theorem nodup_charged (h : Carried k l)
    (hnew : (newReservation id now c).key ∉ l.reservations.map Reservation.key) :
    ((l.reservations ++ [newReservation id now c]).map Reservation.key).Nodup ∧
      ((l.claim id c).identities.map QuotaIdentity.key).Nodup := by
  refine ⟨nodup_insertNew h.unique_reservations (insertNew_eq_some.2 ⟨hnew, rfl⟩), ?_⟩
  rcases identities_claim l id c with hsame | ⟨d, -, -, hfresh, hclaim⟩
  · exact hsame ▸ h.unique_identities
  · have hinsert : insertNew QuotaIdentity.key (newIdentity id c.1 d) l.identities =
        some (l.claim id c).identities := insertNew_eq_some.2 ⟨hfresh, hclaim⟩
    exact nodup_insertNew h.unique_identities hinsert

/-- An entry claims a new identity with one unit, or joins an active one with none. -/
def Charges (l : Ledger) (c : QuotaSpec × ℤ) (d : Digest) : Prop :=
  c.2 = 1 ∧ (c.1.bucket, d) ∉ l.identities.map QuotaIdentity.key ∨
    c.2 = 0 ∧ (c.1.bucket, d) ∈ l.identities.map QuotaIdentity.key

theorem Charges.identities (h : Charges l c d)
    (hd : c.1.identityDigest = some d) (hids : l'.identities = (l.claim id c).identities) :
    c.2 = 1 ∧ (c.1.bucket, d) ∉ l.identities.map QuotaIdentity.key ∧
        l'.identities = l.identities ++ [newIdentity id c.1 d] ∨
      c.2 = 0 ∧ (c.1.bucket, d) ∈ l.identities.map QuotaIdentity.key ∧
        l'.identities = l.identities := by
  rw [hids, Ledger.claim, hd]
  rcases h with ⟨hone, hfresh⟩ | ⟨hzero, hold⟩
  · have hinsert : insertNew QuotaIdentity.key (newIdentity id c.1 d) l.identities =
        some (l.identities ++ [newIdentity id c.1 d]) := insertNew_eq_some.2 ⟨hfresh, rfl⟩
    refine .inl ⟨hone, hfresh, ?_⟩
    dsimp only
    rw [hone, if_pos Int.one_pos, hinsert, Option.getD_some]
  · refine .inr ⟨hzero, hold, ?_⟩
    dsimp only
    rw [hzero, if_neg (lt_irrefl 0)]

theorem Carried.chargeSpec (h : Carried k l) (hk : c.1.bucket.pool = k)
    (hmetered : c.1.releaseOnly = false) (hd : c.1.identityDigest = some d)
    (hcharges : Charges l c d) (hcharged : chargeSpec id now windows l c = .ok l') :
    Carried k l' := by
  obtain ⟨hnew, hres, hids⟩ := chargeSpec_tables hcharged
  obtain ⟨hkeys, hidkeys⟩ := nodup_charged h hnew
  have hclaims : (newReservation id now c).claims = (c.1.bucket, some d) := by
    rw [← hd]
    rfl
  have hkey : ∀ j : QuotaIdentity, j.claims = (newReservation id now c).claims ↔
      j.key = (c.1.bucket, d) := fun j => claims_eq_iff (r := newReservation id now c) hd
  have htable := hcharges.identities hd hids
  have hidmem : ∀ j ∈ l.identities, j ∈ l'.identities := by
    intro j hj
    rcases htable with ⟨-, -, heq⟩ | ⟨-, -, heq⟩
    · exact heq ▸ mem_append_left _ hj
    · exact heq ▸ hj
  have hjoined : ∃ j ∈ l'.identities, j.claims = (newReservation id now c).claims := by
    rcases htable with ⟨-, -, heq⟩ | ⟨-, hold, -⟩
    · refine ⟨newIdentity id c.1 d, ?_, hclaims.symm⟩
      exact heq ▸ mem_append_right _ (mem_singleton_self _)
    · obtain ⟨j, hj, hjkey⟩ := mem_map.1 hold
      exact ⟨j, hidmem j hj, (hkey j).2 hjkey⟩
  constructor
  · exact hres ▸ hkeys
  · exact hids ▸ hidkeys
  · intro r hr hrk
    rw [hres] at hr
    rcases mem_append.1 hr with hr | hr
    · exact h.claiming r hr hrk
    · obtain rfl := mem_singleton.1 hr
      exact ⟨hmetered, d, hd⟩
  · intro r hr hrk hcounted
    rw [hres] at hr
    rcases mem_append.1 hr with hr | hr
    · obtain ⟨j, hj, hjr⟩ := h.identified r hr hrk hcounted
      exact ⟨j, hidmem j hj, hjr⟩
    · obtain rfl := mem_singleton.1 hr
      exact hjoined
  · intro j hj hjk
    rw [hres]
    rcases htable with ⟨hone, hfresh, heq⟩ | ⟨hzero, -, heq⟩
    · rw [heq] at hj
      rcases mem_append.1 hj with hold | hnewest
      · refine (h.carried j hold hjk).append fun hjc => ?_
        exact absurd (mem_map.2 ⟨j, hold, (hkey j).1 hjc.symm⟩) hfresh
      · -- The identity is new: the new row carries it, and nobody claimed it before.
        obtain rfl := mem_singleton.1 hnewest
        refine ⟨newReservation id now c, mem_append_right _ (mem_singleton_self _),
          hclaims, rfl, hone, fun x hx hxc hxcounted hne => ?_, ⟨rfl, rfl⟩⟩
        rcases mem_append.1 hx with hx | hx
        · have hxk : x.bucket.pool = k := (congrArg Bucket.pool (Prod.mk.inj hxc).1).trans hk
          obtain ⟨i, hi, hix⟩ := h.identified x hx hxk hxcounted
          refine absurd (mem_map.2 ⟨i, hi, ?_⟩) hfresh
          exact (hkey i).1 (hix.trans (hxc.trans hclaims.symm))
        · exact absurd (mem_singleton.1 hx) hne
    · exact (h.carried j (heq ▸ hj) hjk).append fun _ => hzero

theorem Carried.charges {cs : List (QuotaSpec × ℤ)} (h : Carried k l)
    (hn : (cs.map (·.1.bucket.pool.dimension)).Nodup)
    (hcs : ∀ c ∈ cs, c.1.bucket.pool = k → c.1.releaseOnly = false ∧
      ∃ d, c.1.identityDigest = some d ∧ Charges l c d)
    (hcharged : cs.foldlM (ChartingPlatform.chargeSpec id now windows) l = .ok l') :
    Carried k l' := by
  induction cs generalizing l with
  | nil =>
    obtain rfl := Except.ok.inj hcharged
    exact h
  | cons c cs ih =>
    rw [foldlM_cons] at hcharged
    obtain ⟨l₁, h₁, hcharged⟩ := bind_eq_ok.1 hcharged
    rw [map_cons, nodup_cons] at hn
    obtain ⟨hnew, hres, hids⟩ := chargeSpec_tables h₁
    by_cases hk : c.1.bucket.pool = k
    · obtain ⟨hmetered, d, hd, hcharges⟩ := hcs c mem_cons_self hk
      refine ih (h.chargeSpec hk hmetered hd hcharges h₁) hn.2 (fun e he hek => ?_) hcharged
      exact absurd (mem_map.2 ⟨e, he, congrArg Pool.dimension (hek.trans hk.symm)⟩) hn.1
    · have hrows : ∀ x : Reservation, x.bucket.pool = k →
          (x ∈ l₁.reservations ↔ x ∈ l.reservations) := by
        intro x hx
        rw [hres, mem_append, mem_singleton]
        refine or_iff_left ?_
        rintro rfl
        exact hk hx
      have hsame : ∀ i : QuotaIdentity, i.bucket.pool = k →
          (i ∈ l₁.identities ↔ i ∈ l.identities) := by
        intro i hi
        rw [hids]
        rcases identities_claim l id c with heq | ⟨d, -, -, -, heq⟩
        · rw [heq]
        · rw [heq, mem_append, mem_singleton]
          refine or_iff_left ?_
          rintro rfl
          exact hk hi
      obtain ⟨hkeys, hidkeys⟩ := nodup_charged h hnew
      refine ih (h.frame (hres ▸ hkeys) (hids ▸ hidkeys) hrows hsame) hn.2 (fun e he hek => ?_)
        hcharged
      obtain ⟨hmetered, d, hd, hcharges⟩ := hcs e (mem_cons_of_mem c he) hek
      have hmem : (e.1.bucket, d) ∈ l₁.identities.map QuotaIdentity.key ↔
          (e.1.bucket, d) ∈ l.identities.map QuotaIdentity.key := by
        rw [mem_map, mem_map]
        refine exists_congr fun i => and_congr_left fun hi => hsame i ?_
        exact (congrArg Bucket.pool (Prod.mk.inj hi).1).trans hek
      refine ⟨hmetered, d, hd, ?_⟩
      unfold Charges at hcharges ⊢
      rw [hmem]
      exact hcharges

def QuotaSpec.HoldsClock (spec : QuotaSpec) (now : Micros) : Prop :=
  spec.rolling = true → spec.cutoff now ≤ spec.bucket.windowStartedAt

theorem charges_chargeFor {spec : QuotaSpec}
    (hd : spec.identityDigest = some d) (hunits : unitsOf spec = 1) (hclock : spec.HoldsClock now) :
    Charges l (chargeFor unitsOf now l spec) d := by
  unfold chargeFor
  rw [hd, Option.bind_some]
  cases hfind : l.findActiveIdentity spec d now with
  | some i =>
    have hmem := mem_of_largestBy hfind
    rw [mem_filter, decide_eq_true_eq] at hmem
    obtain ⟨hi, hpool, hseconds, hdigest, hstart⟩ := hmem
    refine .inr ⟨rfl, mem_map.2 ⟨i, hi, ?_⟩⟩
    have hbucket : i.bucket =
        ⟨spec.bucket.pool, i.bucket.windowStartedAt, spec.bucket.windowSeconds⟩ := by
      rw [← hpool, ← hseconds]
    dsimp only
    split_ifs at hstart ⊢ with hrolling
    · exact Prod.ext hbucket hdigest
    · exact Prod.ext (hbucket.trans (by rw [hstart])) hdigest
  | none =>
    refine .inl ⟨hunits, fun hmem => ?_⟩
    obtain ⟨i, hi, hkey⟩ := mem_map.1 hmem
    obtain ⟨hbucket, hdigest⟩ := Prod.mk.inj hkey
    have hempty := largestBy_eq_none.1 hfind
    have hactive : i ∈ ([] : List QuotaIdentity) := by
      rw [← hempty, mem_filter, decide_eq_true_eq]
      refine ⟨hi, by rw [hbucket], by rw [hbucket], hdigest, ?_⟩
      rw [hbucket]
      split_ifs with hrolling
      · exact hclock hrolling
      · rfl
    cases hactive

theorem Carried.admitted {specs : List QuotaSpec}
    {p : Preparation} (h : Carried k l) (hl : Balanced l)
    (hunits : ∀ spec ∈ specs, 0 ≤ unitsOf spec)
    (hspecs : ∀ spec ∈ specs, spec.bucket.pool = k → spec.releaseOnly = false ∧
      spec.HoldsClock now ∧ unitsOf spec = 1 ∧ ∃ d, spec.identityDigest = some d)
    (hsteps : ReservationSteps env unitsOf specs id now l l₁ p l') : Carried k l' := by
  have h₁ := h.expiry hsteps.expired
  obtain ⟨-, -, hp, hcs, -⟩ := hsteps.loops hl hunits
  refine (h₁.of_eq hp.reservations hp.identities).charges (charge_dimensions hsteps.charged).2
    (fun c hc hck => ?_) hsteps.charged
  rw [hcs] at hc
  obtain ⟨spec, hspec, rfl⟩ := mem_map.1 hc
  rw [dimension_chargeFor] at hck
  obtain ⟨hmetered, hclock, hone, d, hd⟩ := hspecs spec hspec hck
  have hcharges : Charges l₁ (chargeFor unitsOf now l₁ spec) d := charges_chargeFor hd hone hclock
  have hfields : (chargeFor unitsOf now l₁ spec).1.releaseOnly = spec.releaseOnly ∧
      (chargeFor unitsOf now l₁ spec).1.identityDigest = spec.identityDigest := by
    rcases chargeFor_spec unitsOf now l₁ spec with heq | ⟨-, start, heq⟩
    · rw [heq]
      exact ⟨rfl, rfl⟩
    · rw [heq]
      exact ⟨rfl, rfl⟩
  refine ⟨hfields.1.trans hmetered, d, hfields.2.trans hd, ?_⟩
  unfold Charges at hcharges ⊢
  rw [hp.identities]
  exact hcharges

end

end ChartingPlatform
