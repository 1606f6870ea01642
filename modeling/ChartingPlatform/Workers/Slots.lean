/-
  Worker slots along runs and in rankings.
-/
import ChartingPlatform.Lib.Updates
import ChartingPlatform.Workers.Pools

namespace ChartingPlatform

open Lib List

section
variable {p q : WorkerPoolState} {r r' : WorkerReservation} {attempt : String} {id : Digest}
  {t : Instant} {res : WorkerReservationResolution}

/-! ## Reserving -/

theorem find?_eq_none_of_new (hid : id ∉ p.reservations.map (·.reservationId)) :
    (p.reservations.find? fun r => decide (r.reservationId = id)) = none := by
  rw [find?_eq_none]
  rintro r hr hrid
  exact hid (mem_map.2 ⟨r, hr, by simpa using hrid⟩)

theorem holds_iff : p.holds attempt = true ↔ ∃ r ∈ p.activeReservations, r.attemptId = attempt := by
  simp [WorkerPoolState.holds, WorkerPoolState.activeReservations, and_assoc]

theorem reserve_free (hsafe : p.safe = true) (hfree : p.activeReservations = [])
    (hblank : notBlank attempt = true) (hid : id ∉ p.reservations.map (·.reservationId)) :
    ∃ res, reserveWorkerSlot p attempt id t = .ok res ∧ res.decision = .accept := by
  obtain ⟨hiso, hdisp⟩ := Bool.and_eq_true_iff.1 hsafe
  obtain ⟨r, hr⟩ : ∃ r, makeWorkerReservation id p.profile.workerId p.profile.kind attempt t none =
      .ok r := by
    unfold makeWorkerReservation
    rw [dif_pos p.profile.workerId_notBlank, dif_pos hblank, dif_pos (by rfl)]
    exact ⟨_, rfl⟩
  obtain ⟨hrid, hrworker, hrkind, -, -, hrrel⟩ := makeWorkerReservation_eq_ok hr
  obtain ⟨next, hnext⟩ : ∃ next, makeWorkerPoolState p.profile (p.reservations ++ [r]) =
      .ok next := by
    have hm : ∀ x ∈ p.reservations ++ [r], x.workerId = p.profile.workerId ∧
        x.kind = p.profile.kind := by
      intro x hx
      rcases mem_append.1 hx with hx | hx
      · exact p.matches_profile x hx
      · rw [mem_singleton.1 hx]
        exact ⟨hrworker, hrkind⟩
    have hu : ((p.reservations ++ [r]).map (·.reservationId)).Nodup :=
      nodup_insertNew p.unique_ids (insertNew_eq_some.2 ⟨hrid ▸ hid, rfl⟩)
    have hactive : (p.reservations ++ [r]).filter (·.active) = [r] := by
      rw [filter_append, show p.reservations.filter (·.active) = [] from hfree]
      simp [WorkerReservation.active, hrrel]
    unfold makeWorkerPoolState
    rw [dif_pos hm, dif_pos hu, dif_pos (by rw [hactive, p.profile.maxConcurrentNodes_eq]; rfl),
      if_pos (by rw [hactive]; exact nodup_singleton _)]
    exact ⟨_, rfl⟩
  refine ⟨{ decision := .accept, pool := next, reservation := some r }, ?_, rfl⟩
  unfold reserveWorkerSlot
  rw [ensure_of hblank, ok_bind, if_neg (by simp [hiso]), if_neg (by simp [hdisp]),
    find?_eq_none_of_new hid]
  simp only [hfree, find?_nil, length_nil, p.profile.maxConcurrentNodes_eq]
  rw [if_neg (by omega), hr, ok_bind, hnext, ok_bind, pure_eq_ok]

theorem reserve_held (hsafe : p.safe = true) (hheld : p.holds attempt = true)
    (hid : id ∉ p.reservations.map (·.reservationId)) :
    ∃ res, reserveWorkerSlot p attempt id t = .ok res ∧ res.decision = .replayExisting := by
  obtain ⟨hiso, hdisp⟩ := Bool.and_eq_true_iff.1 hsafe
  obtain ⟨r, hr, rfl⟩ := holds_iff.1 hheld
  obtain ⟨x, hx⟩ : ∃ x, (p.activeReservations.find? fun x => decide (x.attemptId = r.attemptId)) =
      some x := by
    rw [← Option.isSome_iff_exists, find?_isSome]
    exact ⟨r, hr, by simp⟩
  refine ⟨{ decision := .replayExisting, pool := p, reservation := some x }, ?_, rfl⟩
  unfold reserveWorkerSlot
  rw [ensure_of r.attemptId_notBlank, ok_bind, if_neg (by simp [hiso]), if_neg (by simp [hdisp]),
    find?_eq_none_of_new hid]
  simp only [hx, pure_eq_ok]

/-- The accepted reservation `r` joins the free and safe pool. -/
structure Accepts (p : WorkerPoolState) (attempt : String) (id : Digest) (t : Instant)
    (res : WorkerReservationResolution) (r : WorkerReservation) : Prop where
  safe : p.safe = true
  free : p.activeReservations = []
  reservation : res.reservation = some r
  mem_iff : ∀ x, x ∈ res.pool.reservations ↔ x ∈ p.reservations ∨ x = r
  reservationId : r.reservationId = id
  workerId : r.workerId = p.profile.workerId
  attemptId : r.attemptId = attempt
  acquiredAt : r.acquiredAt = t
  releasedAt : r.releasedAt = none

theorem reserveWorkerSlot_cases (h : reserveWorkerSlot p attempt id t = .ok res) :
    (res.decision ≠ .accept ∧ res.pool = p) ∨
      res.decision = .accept ∧ ∃ r, Accepts p attempt id t res r := by
  unfold reserveWorkerSlot at h
  obtain ⟨_, -, h⟩ := bind_eq_ok.1 h
  by_cases hiso : p.profile.isolationRequired = false
  · rw [if_pos hiso] at h
    exact .inl (Except.ok.inj h ▸ ⟨nofun, rfl⟩)
  rw [if_neg hiso] at h
  by_cases hdisp : p.profile.engineDisposalRequired = false
  · rw [if_pos hdisp] at h
    exact .inl (Except.ok.inj h ▸ ⟨nofun, rfl⟩)
  · rw [if_neg hdisp] at h
    cases hid : p.reservations.find? fun r => decide (r.reservationId = id) with
    | some r =>
      simp only [hid] at h
      split_ifs at h
      · exact .inl (Except.ok.inj h ▸ ⟨nofun, rfl⟩)
      · exact .inl (Except.ok.inj h ▸ ⟨nofun, rfl⟩)
    | none =>
      simp only [hid] at h
      cases hatt : p.activeReservations.find? fun r => decide (r.attemptId = attempt) with
      | some r =>
        simp only [hatt] at h
        exact .inl (Except.ok.inj h ▸ ⟨nofun, rfl⟩)
      | none =>
        simp only [hatt] at h
        split_ifs at h with hfull
        · exact .inl (Except.ok.inj h ▸ ⟨nofun, rfl⟩)
        · obtain ⟨r, hr, h⟩ := bind_eq_ok.1 h
          obtain ⟨next, hnext, h⟩ := bind_eq_ok.1 h
          obtain rfl := Except.ok.inj h
          obtain ⟨hrid, hrworker, -, hrattempt, hrat, hrrel⟩ := makeWorkerReservation_eq_ok hr
          obtain ⟨-, hmem⟩ := makeWorkerPoolState_eq_ok hnext
          rw [p.profile.maxConcurrentNodes_eq, not_le, Nat.lt_one_iff,
            length_eq_zero_iff] at hfull
          have hsafe : p.safe = true := by
            rw [Bool.not_eq_false] at hiso hdisp
            rw [WorkerPoolState.safe, hiso, hdisp]
            rfl
          refine .inr ⟨rfl, r, hsafe, hfull, rfl, fun x => ?_, hrid, hrworker, hrattempt, hrat,
            hrrel⟩
          rw [hmem, mem_append, mem_singleton]

/-! ## Reservations are kept -/

/-- `r'` is `r`, maybe released since. -/
structure Kept (r r' : WorkerReservation) : Prop where
  reservationId : r'.reservationId = r.reservationId
  workerId : r'.workerId = r.workerId
  kind : r'.kind = r.kind
  attemptId : r'.attemptId = r.attemptId
  acquiredAt : r'.acquiredAt = r.acquiredAt
  releasedAt : ∀ t ∈ r.releasedAt, r'.releasedAt = some t

theorem Kept.refl (r : WorkerReservation) : Kept r r := ⟨rfl, rfl, rfl, rfl, rfl, fun _ h => h⟩

theorem Kept.trans {r'' : WorkerReservation} (h : Kept r r') (h' : Kept r' r'') : Kept r r'' where
  reservationId := h'.reservationId.trans h.reservationId
  workerId := h'.workerId.trans h.workerId
  kind := h'.kind.trans h.kind
  attemptId := h'.attemptId.trans h.attemptId
  acquiredAt := h'.acquiredAt.trans h.acquiredAt
  releasedAt := fun t ht => h'.releasedAt t (h.releasedAt t ht)

/-- **What a release does**: the reservation with the id is released now, unless it was before;
    the others stay. -/
theorem release_spec (h : releaseWorkerSlot p id t = .ok q) :
    id ∈ p.reservations.map (·.reservationId) ∧ ∀ r ∈ p.reservations, ∃ r' ∈ q.reservations,
      Kept r r' ∧ (r.reservationId = id → r'.releasedAt = some (r.releasedAt.getD t)) ∧
        (r.reservationId ≠ id → r' = r) := by
  unfold releaseWorkerSlot at h
  cases hfind : p.reservations.find? fun r => decide (r.reservationId = id) with
  | none => rw [hfind] at h; cases h
  | some x =>
    have hx := mem_of_find?_eq_some hfind
    have hxid : x.reservationId = id := by simpa using find?_some hfind
    refine ⟨mem_map.2 ⟨x, hx, hxid⟩, fun r hr => ?_⟩
    have hself : r.reservationId = id → r = x := fun hrid =>
      inj_on_of_nodup_map p.unique_ids hr hx (hrid.trans hxid.symm)
    simp only [hfind] at h
    split_ifs at h with hactive
    · obtain rfl := Except.ok.inj h
      refine ⟨r, hr, Kept.refl r, fun hrid => ?_, fun _ => rfl⟩
      rw [hself hrid]
      cases hrel : x.releasedAt with
      | none => simp [WorkerReservation.active, hrel] at hactive
      | some u => rfl
    · obtain ⟨updated, hup, h⟩ := bind_eq_ok.1 h
      obtain ⟨huid, huworker, hukind, huattempt, huat, hurel⟩ := makeWorkerReservation_eq_ok hup
      obtain ⟨-, hmem⟩ := makeWorkerPoolState_eq_ok h
      have hnone : x.releasedAt = none := by
        cases hrel : x.releasedAt with
        | none => rfl
        | some u => simp [WorkerReservation.active, hrel] at hactive
      by_cases hrid : r.reservationId = id
      · obtain rfl := hself hrid
        refine ⟨updated, (hmem _).2 (mem_map.2 ⟨r, hr, if_pos hrid⟩),
          ⟨huid, huworker, hukind, huattempt, huat, by simp [hnone]⟩, fun _ => ?_,
          fun hne => absurd hrid hne⟩
        rw [hurel, hnone]
        rfl
      · exact ⟨r, (hmem _).2 (mem_map.2 ⟨r, hr, if_neg hrid⟩), Kept.refl r,
          fun h => absurd h hrid, fun _ => rfl⟩

/-- The pool `q` is `p` after its active reservation `r` was released at `t`, which is `r'` now. -/
structure Released (p : WorkerPoolState) (r r' : WorkerReservation) (t : Instant)
    (q : WorkerPoolState) : Prop where
  mem : r ∈ p.reservations
  active : r.releasedAt = none
  kept : Kept r r'
  releasedAt : r'.releasedAt = some t
  profile : q.profile = p.profile
  mem_iff : ∀ x, x ∈ q.reservations ↔ x = r' ∨ x ∈ p.reservations ∧ x ≠ r

theorem releaseWorkerSlot_active (hr : r ∈ p.reservations) (hactive : r.releasedAt = none)
    (h : releaseWorkerSlot p r.reservationId t = .ok q) : ∃ r', Released p r r' t q := by
  have hfind : (p.reservations.find? fun x => decide (x.reservationId = r.reservationId)) =
      some r := (rowWith_eq_some p.unique_ids).2 ⟨hr, rfl⟩
  unfold releaseWorkerSlot at h
  simp only [hfind] at h
  rw [if_neg (by simp [WorkerReservation.active, hactive])] at h
  obtain ⟨r', hr', h⟩ := bind_eq_ok.1 h
  obtain ⟨hid, hworker, hkind, hattempt, hat, hrel⟩ := makeWorkerReservation_eq_ok hr'
  obtain ⟨hprofile, hmem⟩ := makeWorkerPoolState_eq_ok h
  refine ⟨r', hr, hactive, ⟨hid, hworker, hkind, hattempt, hat, by simp [hactive]⟩, hrel, hprofile,
    fun x => ?_⟩
  rw [hmem, mem_map]
  constructor
  · rintro ⟨y, hy, rfl⟩
    by_cases hyid : y.reservationId = r.reservationId
    · exact .inl (if_pos hyid)
    · rw [if_neg hyid]
      exact .inr ⟨hy, fun heq => hyid (heq ▸ rfl)⟩
  · rintro (rfl | ⟨hx, hne⟩)
    · exact ⟨r, hr, if_pos rfl⟩
    · refine ⟨x, hx, if_neg fun hxid => hne ?_⟩
      exact inj_on_of_nodup_map p.unique_ids hx hr hxid

theorem eq_of_active (hr : r ∈ p.reservations) (hr' : r' ∈ p.reservations)
    (hactive : r.active = true) (hactive' : r'.active = true) : r = r' := by
  have hlen := p.serial
  rw [p.profile.maxConcurrentNodes_eq] at hlen
  have hmem : r ∈ p.reservations.filter (·.active) := mem_filter.2 ⟨hr, hactive⟩
  have hmem' : r' ∈ p.reservations.filter (·.active) := mem_filter.2 ⟨hr', hactive'⟩
  obtain ⟨x, hx⟩ := length_eq_one_iff.1
    (Nat.le_antisymm hlen (length_pos_of_mem hmem))
  rw [hx, mem_singleton] at hmem hmem'
  rw [hmem, hmem']

theorem releaseWorkerSlot_of (hr : r ∈ p.reservations) (hactive : r.releasedAt = none)
    (hat : r.acquiredAt ≤ t) : ∃ q, releaseWorkerSlot p r.reservationId t = .ok q := by
  have hfind : (p.reservations.find? fun x => decide (x.reservationId = r.reservationId)) =
      some r := (rowWith_eq_some p.unique_ids).2 ⟨hr, rfl⟩
  obtain ⟨r', hr'⟩ : ∃ r', makeWorkerReservation r.reservationId r.workerId r.kind r.attemptId
      r.acquiredAt (some t) = .ok r' := by
    have hall : (some t).all (fun t => decide (r.acquiredAt ≤ t)) = true := decide_eq_true hat
    unfold makeWorkerReservation
    rw [dif_pos r.workerId_notBlank, dif_pos r.attemptId_notBlank, dif_pos hall]
    exact ⟨_, rfl⟩
  obtain ⟨hid, hworker, hkind, hattempt, -, hrel⟩ := makeWorkerReservation_eq_ok hr'
  let rows := updateRow (·.reservationId) r.reservationId (fun _ => r') p.reservations
  have hrows : ∀ x, x ∈ rows ↔ x = r' ∨ x ∈ p.reservations ∧ x ≠ r := fun x =>
    mem_updateRow_iff p.unique_ids hr
  have hmatch : ∀ x ∈ rows, x.workerId = p.profile.workerId ∧ x.kind = p.profile.kind := by
    intro x hx
    rcases (hrows x).1 hx with rfl | ⟨hx, -⟩
    · rw [hworker, hkind]
      exact p.matches_profile r hr
    · exact p.matches_profile x hx
  have hids : (rows.map (·.reservationId)).Nodup := by
    rw [map_key_updateRow fun _ _ => hid]
    exact p.unique_ids
  have hnone : rows.filter (·.active) = [] := by
    rw [filter_eq_nil_iff]
    intro x hx hxactive
    rcases (hrows x).1 hx with rfl | ⟨hx, hne⟩
    · rw [WorkerReservation.active, hrel] at hxactive
      cases hxactive
    · exact hne (eq_of_active hx hr hxactive (by rw [WorkerReservation.active, hactive]; rfl))
  unfold releaseWorkerSlot
  simp only [hfind]
  rw [if_neg (by simp [WorkerReservation.active, hactive]), hr', ok_bind]
  change ∃ q, makeWorkerPoolState p.profile rows = .ok q
  unfold makeWorkerPoolState
  rw [dif_pos hmatch, dif_pos hids, dif_pos (by rw [hnone]; exact Nat.zero_le _),
    if_pos (by rw [hnone]; exact nodup_nil)]
  exact ⟨_, rfl⟩

inductive PoolCall where
  | reserve (attempt : String) (id : Digest) (acquiredAt : Instant)
  | release (id : Digest) (releasedAt : Instant)

/-- The call does not raise in `p`, and leads to `q`. -/
def PoolSteps (p : WorkerPoolState) (c : PoolCall) (q : WorkerPoolState) : Prop :=
  match c with
  | .reserve attempt id acquiredAt =>
    ∃ res, reserveWorkerSlot p attempt id acquiredAt = .ok res ∧ res.pool = q
  | .release id releasedAt => releaseWorkerSlot p id releasedAt = .ok q

theorem kept_step {c : PoolCall} (h : PoolSteps p c q) (hr : r ∈ p.reservations) :
    ∃ r' ∈ q.reservations, Kept r r' := by
  cases c with
  | reserve attempt id acquiredAt =>
    obtain ⟨res, hres, rfl⟩ := h
    rcases reserveWorkerSlot_cases hres with ⟨-, hpool⟩ | ⟨-, x, hx⟩
    · rw [hpool]
      exact ⟨r, hr, Kept.refl r⟩
    · exact ⟨r, (hx.mem_iff r).2 (.inl hr), Kept.refl r⟩
  | release id releasedAt =>
    obtain ⟨-, hall⟩ := release_spec h
    obtain ⟨r', hr', hkept, -⟩ := hall r hr
    exact ⟨r', hr', hkept⟩

theorem kept_run {cs : List PoolCall} (h : Run PoolSteps p cs q) (hr : r ∈ p.reservations) :
    ∃ r' ∈ q.reservations, Kept r r' := by
  refine h.invariant (P := fun q => ∃ r' ∈ q.reservations, Kept r r') ?_ ⟨r, hr, Kept.refl r⟩
  rintro q c u ⟨r', hr', hkept⟩ hstep
  obtain ⟨r'', hr'', hkept'⟩ := kept_step hstep hr'
  exact ⟨r'', hr'', hkept.trans hkept'⟩

end

/-! ## Rankings -/

section
variable {sha256 : String → Digest} {kind : WorkerKind} {purpose several misplaced attempt : String}
  {pools pools' ranked : List WorkerPoolState} {p : WorkerPoolState}

theorem ranked_cases
    (h : rankAvailableWorkerPools sha256 kind purpose several misplaced pools attempt =
      .ok ranked) : notBlank attempt = true ∧
      (((∀ p ∈ pools, p.holds attempt = false) ∧
          ∀ p, p ∈ ranked ↔ p ∈ pools ∧ p.available kind = true) ∨
        ∃ p ∈ pools, p.holds attempt = true ∧ p.profile.kind = kind ∧ p.safe = true ∧
          ranked = [p]) := by
  unfold rankAvailableWorkerPools at h
  obtain ⟨_, hblank, h⟩ := bind_eq_ok.1 h
  obtain ⟨_, -, h⟩ := bind_eq_ok.1 h
  refine ⟨ensure_eq_ok.1 hblank, ?_⟩
  split at h
  · next hheld =>
    obtain rfl := Except.ok.inj h
    refine .inl ⟨fun p hp => ?_, fun p => by rw [mem_sortBy, mem_filter]⟩
    simpa using filter_eq_nil_iff.1 hheld p hp
  · next x hheld =>
    split_ifs at h with hplaced
    obtain rfl := Except.ok.inj h
    have hx : x ∈ pools.filter (·.holds attempt) := hheld ▸ mem_singleton_self x
    obtain ⟨hx, hholds⟩ := mem_filter.1 hx
    exact .inr ⟨x, hx, hholds, hplaced.1, hplaced.2, rfl⟩
  · cases h

theorem available_iff : p.available kind = true ↔
    p.profile.kind = kind ∧ p.safe = true ∧ p.activeReservations = [] := by
  simp [WorkerPoolState.available, and_assoc]

theorem reserve_ranked
    (h : rankAvailableWorkerPools sha256 kind purpose several misplaced pools attempt = .ok ranked)
    (hp : p ∈ ranked) : p ∈ pools ∧ p.profile.kind = kind ∧
      ∀ id t, id ∉ p.reservations.map (·.reservationId) →
        ∃ res, reserveWorkerSlot p attempt id t = .ok res ∧ (res.decision = .accept ∨
          res.decision = .replayExisting ∧ p.holds attempt = true) := by
  obtain ⟨hblank, hcases⟩ := ranked_cases h
  rcases hcases with ⟨-, hmem⟩ | ⟨x, hx, hheld, hkind, hsafe, rfl⟩
  · obtain ⟨hpool, havail⟩ := (hmem p).1 hp
    obtain ⟨hkind, hsafe, hfree⟩ := available_iff.1 havail
    refine ⟨hpool, hkind, fun id t hid => ?_⟩
    obtain ⟨res, hres, hd⟩ := reserve_free hsafe hfree hblank hid
    exact ⟨res, hres, .inl hd⟩
  · obtain rfl := mem_singleton.1 hp
    refine ⟨hx, hkind, fun id t hid => ?_⟩
    obtain ⟨res, hres, hd⟩ := reserve_held hsafe hheld hid
    exact ⟨res, hres, .inr ⟨hd, hheld⟩⟩

/-- **A pool that accepts the attempt is ranked**, unless the attempt holds another slot. -/
theorem ranked_of_accept (hn : (pools.map (·.profile.workerId)).Nodup)
    (hno : ∀ x ∈ pools, x.holds attempt = false) (hp : p ∈ pools) (hkind : p.profile.kind = kind)
    {id : Digest} {t : Instant} {res : WorkerReservationResolution}
    (hres : reserveWorkerSlot p attempt id t = .ok res) (hd : res.decision = .accept) :
    ∃ ranked, rankAvailableWorkerPools sha256 kind purpose several misplaced pools attempt =
      .ok ranked ∧ p ∈ ranked := by
  rcases reserveWorkerSlot_cases hres with ⟨hne, -⟩ | ⟨-, r, hr⟩
  · exact absurd hd hne
  obtain rfl := hr.attemptId
  have hnone : pools.filter (·.holds r.attemptId) = [] := by
    rw [filter_eq_nil_iff]
    intro x hx
    rw [hno x hx]
    exact nofun
  refine ⟨sortBy (rankKey sha256 purpose r.attemptId) (pools.filter (·.available kind)), ?_, ?_⟩
  · unfold rankAvailableWorkerPools
    rw [ensure_of r.attemptId_notBlank, ok_bind, ensure_of hn, ok_bind, hnone]
  · rw [mem_sortBy, mem_filter]
    exact ⟨hp, available_iff.2 ⟨hkind, hr.safe, hr.free⟩⟩

theorem worker_of_tieBreak (hsha : Function.Injective sha256) {worker worker' : String}
    (h : stableTieBreak sha256 purpose attempt worker =
      stableTieBreak sha256 purpose attempt worker') : worker = worker' := by
  have hperm := perm_of_digest_mapping hsha (by simp [rigid_str]) (by simp) h
  have hmem := hperm.mem_iff (a := (PyKey.str "worker_id", PyValue.str worker))
  simpa using hmem

/-- **The ranking does not depend on the order of the pools.** -/
theorem ranked_perm (hsha : Function.Injective sha256) (h : pools.Perm pools') :
    rankAvailableWorkerPools sha256 kind purpose several misplaced pools attempt =
      rankAvailableWorkerPools sha256 kind purpose several misplaced pools' attempt := by
  unfold rankAvailableWorkerPools
  have hids := (h.map (·.profile.workerId)).nodup_iff
  by_cases hn : (pools.map (·.profile.workerId)).Nodup
  · rw [ensure_of hn, ensure_of (hids.1 hn)]
    have hheld := h.filter (·.holds attempt)
    have hsort : sortBy (rankKey sha256 purpose attempt) (pools.filter (·.available kind)) =
        sortBy (rankKey sha256 purpose attempt) (pools'.filter (·.available kind)) := by
      refine sortBy_eq_of_perm (h.filter _) fun a ha b hb hab => ?_
      have htie := congrArg (fun k => (ofLex k).2) hab
      have hworker : a.profile.workerId = b.profile.workerId :=
        worker_of_tieBreak hsha (Digest.text_inj.1 htie)
      exact inj_on_of_nodup_map hn (mem_of_mem_filter ha) (mem_of_mem_filter hb)
        hworker
    congr 1
    funext _
    congr 1
    funext _
    cases hf : pools.filter (·.holds attempt) with
    | nil =>
      rw [hf] at hheld
      rw [hheld.nil_eq, hsort]
    | cons x xs => cases xs with
      | nil =>
        rw [hf] at hheld
        rw [← singleton_perm.1 hheld]
      | cons y ys =>
        rw [hf] at hheld
        have hlen := hheld.length_eq
        cases hf' : pools'.filter (·.holds attempt) with
        | nil => rw [hf'] at hlen; simp at hlen
        | cons x' xs' => cases xs' with
          | nil => rw [hf'] at hlen; simp at hlen
          | cons y' ys' => rfl
  · rw [ensure_of_not hn, ensure_of_not (mt hids.2 hn)]
    simp only [error_bind]

end

/-- `rank_available_backtest_worker_pools` or `rank_available_forward_worker_pools`. -/
def rankAvailablePools (sha256 : String → Digest) :
    WorkerKind → List WorkerPoolState → String → Except PyError (List WorkerPoolState)
  | .backtest => rankAvailableBacktestWorkerPools sha256
  | .forward => rankAvailableForwardWorkerPools sha256

/-- The pool comes from an empty one by calls that did not raise. -/
def WorkerPoolState.Reachable (p : WorkerPoolState) : Prop :=
  ∃ cs, Run PoolSteps (.empty p.profile) cs p

/-- **Worker slots**: reservations are kept, with the first release time; a ranked pool takes the
    attempt; a pool that accepts it is ranked unless the attempt holds a slot; and the ranking does
    not depend on the order of the pools. -/
theorem worker_slots (sha256 : String → Digest) (hsha : Function.Injective sha256)
    (pools : List WorkerPoolState) (attempt : String) (kind : WorkerKind) :
    (∀ p ∈ pools, p.Reachable) →
    (∀ p ∈ pools, ∀ r ∈ p.reservations,
      (∀ cs q, Run PoolSteps p cs q → ∃ r' ∈ q.reservations, Kept r r') ∧
      ∀ t q, releaseWorkerSlot p r.reservationId t = .ok q →
        ∃ r' ∈ q.reservations, Kept r r' ∧ r'.releasedAt = some (r.releasedAt.getD t)) ∧
    (∀ p ∈ pools, ∀ id t res, reserveWorkerSlot p attempt id t = .ok res →
      res.decision = .accept → ∃ r, Accepts p attempt id t res r) ∧
    (∀ ranked, rankAvailablePools sha256 kind pools attempt = .ok ranked → ∀ p ∈ ranked,
      p ∈ pools ∧ p.profile.kind = kind ∧
        ∀ id t, id ∉ p.reservations.map (·.reservationId) →
          ∃ res, reserveWorkerSlot p attempt id t = .ok res ∧ (res.decision = .accept ∨
            res.decision = .replayExisting ∧ p.holds attempt = true)) ∧
    ((pools.map (·.profile.workerId)).Nodup → (∀ p ∈ pools, p.holds attempt = false) →
      ∀ p ∈ pools, p.profile.kind = kind → ∀ id t res,
        reserveWorkerSlot p attempt id t = .ok res → res.decision = .accept →
          ∃ ranked, rankAvailablePools sha256 kind pools attempt = .ok ranked ∧ p ∈ ranked) ∧
    ∀ pools', pools.Perm pools' →
      rankAvailablePools sha256 kind pools attempt = rankAvailablePools sha256 kind pools' attempt := by
  rintro -
  refine ⟨fun p _ r hr => ⟨fun cs q hrun => kept_run hrun hr, fun t q hq => ?_⟩,
    fun p _ id t res hres hd => ?_, fun ranked hranked p hp => ?_, fun hn hno p hp hkind id t res
    hres hd => ?_, fun pools' hperm => ?_⟩
  · obtain ⟨-, hall⟩ := release_spec hq
    obtain ⟨r', hr', hkept, hreleased, -⟩ := hall r hr
    exact ⟨r', hr', hkept, hreleased rfl⟩
  · rcases reserveWorkerSlot_cases hres with ⟨hne, -⟩ | ⟨-, h⟩
    · exact absurd hd hne
    · exact h
  · cases kind with
    | backtest | forward => exact reserve_ranked hranked hp
  · cases kind with
    | backtest | forward => exact ranked_of_accept hn hno hp hkind hres hd
  · cases kind with
    | backtest | forward => exact ranked_perm hsha hperm

def sampleProfile : WorkerProfile where
  workerId := "worker-1"
  kind := .backtest
  runtimeProfileFingerprint := ⟨"runtime"⟩
  workerId_notBlank := Eq.refl true

def otherProfile : WorkerProfile where
  workerId := "worker-2"
  kind := .backtest
  runtimeProfileFingerprint := ⟨"runtime"⟩
  workerId_notBlank := Eq.refl true

def WorkerProfile.reserved (profile : WorkerProfile) (released : Option Instant) :
    WorkerReservation where
  reservationId := ⟨"r-0"⟩
  workerId := profile.workerId
  kind := profile.kind
  attemptId := "attempt-0"
  acquiredAt := 0
  releasedAt := released
  workerId_notBlank := profile.workerId_notBlank
  attemptId_notBlank := Eq.refl true
  acquiredAt_le := fun _ _ => Nat.zero_le _

def WorkerProfile.used (profile : WorkerProfile) (released : Option Instant) : WorkerPoolState where
  profile := profile
  reservations := [profile.reserved released]
  matches_profile := fun _ hr => mem_singleton.1 hr ▸ ⟨rfl, rfl⟩
  unique_ids := nodup_singleton _
  serial := by
    rw [profile.maxConcurrentNodes_eq]
    exact length_filter_le _ _
  sorted := pairwise_singleton _ _

theorem used_steps : PoolSteps (.empty sampleProfile) (.reserve "attempt-0" ⟨"r-0"⟩ 0)
    (sampleProfile.used none) :=
  ⟨{ decision := .accept
     pool := sampleProfile.used none
     reservation := some (sampleProfile.reserved none) }, rfl, rfl⟩

theorem held_steps : PoolSteps (.empty otherProfile) (.reserve "attempt-0" ⟨"r-0"⟩ 0)
    (otherProfile.used none) :=
  ⟨{ decision := .accept
     pool := otherProfile.used none
     reservation := some (otherProfile.reserved none) }, rfl, rfl⟩

theorem released_steps : PoolSteps (sampleProfile.used none) (.release ⟨"r-0"⟩ 1)
    (sampleProfile.used (some 1)) := rfl

/-- The slot of one worker was reserved and released, and the slot of another is held. -/
theorem worker_slots_sample : ∃ ranked,
    rankAvailablePools plainDigest .backtest
        [sampleProfile.used (some 1), otherProfile.used none] "attempt-1" = .ok ranked ∧
      sampleProfile.used (some 1) ∈ ranked ∧
      rankAvailablePools plainDigest .backtest
        [otherProfile.used none, sampleProfile.used (some 1)] "attempt-1" = .ok ranked ∧
      (∃ res, reserveWorkerSlot (sampleProfile.used (some 1)) "attempt-1" ⟨"r-1"⟩ 2 = .ok res ∧
        ∃ r, Accepts (sampleProfile.used (some 1)) "attempt-1" ⟨"r-1"⟩ 2 res r) ∧
      ∃ q, releaseWorkerSlot (sampleProfile.used (some 1)) ⟨"r-0"⟩ 3 = .ok q ∧
        ∃ r ∈ q.reservations, Kept (sampleProfile.reserved (some 1)) r ∧ r.releasedAt = some 1 := by
  have hreach : ∀ p ∈ [sampleProfile.used (some 1), otherProfile.used none], p.Reachable := by
    simp only [forall_mem_cons, not_mem_nil, false_implies, implies_true, and_true]
    exact ⟨⟨_, (Run.nil.snoc used_steps).snoc released_steps⟩, _, Run.nil.snoc held_steps⟩
  obtain ⟨hkept, haccept, -, hranked, hperm⟩ :=
    worker_slots plainDigest plainDigest_injective _ "attempt-1" .backtest hreach
  obtain ⟨res, hres, hd⟩ := @reserve_free (sampleProfile.used (some 1)) "attempt-1" ⟨"r-1"⟩ 2 rfl
    rfl (by decide) (by decide)
  obtain ⟨ranked, hok, hmem⟩ := hranked (by decide) (by decide) _ mem_cons_self rfl _ _ _ hres
    hd
  obtain ⟨-, hrelease⟩ := hkept _ mem_cons_self (sampleProfile.reserved (some 1))
    (mem_singleton_self _)
  exact ⟨ranked, hok, hmem, (hperm _ (List.Perm.swap _ _ _)).symm.trans hok,
    ⟨res, hres, haccept _ mem_cons_self _ _ _ hres hd⟩, _, rfl, hrelease 3 _ rfl⟩

end ChartingPlatform
