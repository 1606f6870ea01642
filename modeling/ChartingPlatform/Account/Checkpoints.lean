/-
  The account at an admission checkpoint (`load_at_checkpoint` of
  `postgres_forward_account.py`): the events that were processed since the
  baseline are replayed from its snapshot.
-/
import ChartingPlatform.Account.Journal
import ChartingPlatform.Forward.AdmissionProgress

namespace ChartingPlatform

open Lib List

variable {enc : AccountEncoding}

/-! ## Loading at a checkpoint -/

/-- The loop of `load_at_checkpoint` over the transitions. -/
def replayRequired (admission : ForwardLiveAdmissionState) (required : Finset String) :
    ForwardAccountState → List (ForwardAccountHistoryEntry enc) →
      Except PyError (Option ForwardAccountState)
  | s, [] => .ok (some s)
  | s, x :: xs =>
    match x.event with
    -- the assertion of the loop: a transition has an event, by its constructor
    | none => replayRequired admission required s xs
    | some e =>
      if e.eventId ∉ required then replayRequired admission required s xs
      else
        match admission.existing e.eventId with
        | none => .ok none
        | some seen =>
          if seen.eventFingerprint ≠ e.eventFingerprint ∨ seen.sequence ≠ e.sequence ∨
              x.executionReceipt = none then .ok none
          else do
            let s ← reapply enc "forward account checkpoint replay differs from its journal" s e
              x.executionReceipt x.stateFingerprint
            replayRequired admission required s xs

def transitionIds (xs : List (ForwardAccountHistoryEntry enc)) : List String :=
  xs.filterMap fun x => x.event.map (·.eventId)

/-- `load_at_checkpoint` from the baseline on. -/
def replayBetween (admission : ForwardLiveAdmissionState) (base : ForwardStateCheckpoint)
    (baseline : ForwardAccountState) (transitions : List (ForwardAccountHistoryEntry enc)) :
    Except PyError (Option ForwardAccountState) :=
  let c := admission.checkpoint
  let required := c.processedEventIds \ base.processedEventIds
  if base.instance_.portfolioFingerprint ≠ c.instance_.portfolioFingerprint ∨
      base.instance_.warmupSnapshotFingerprint ≠ c.instance_.warmupSnapshotFingerprint ∨
      base.instance_.carryInMode ≠ c.instance_.carryInMode then .ok none
  else if ¬ base.ids ⊆ c.ids then .ok none
  else if c.instance_.lastEventSequence < base.instance_.lastEventSequence then .ok none
  else if c.fingerprint enc.sha256 = base.fingerprint enc.sha256 then .ok (some baseline)
  else if required = ∅ then
    if c.instance_.lastEventId = base.instance_.lastEventId ∧
        c.instance_.lastEventSequence = base.instance_.lastEventSequence then .ok (some baseline)
    else .ok none
  else do
    ensure (transitionIds transitions).Nodup
      (valueError "forward account history contains duplicate events")
    if ¬ required ⊆ (transitionIds transitions).toFinset then return none
    else
      match ← replayRequired admission required baseline transitions with
      | none => return none
      | some s =>
        if s.lastEventId ≠ c.instance_.lastEventId ∨
            s.lastEventSequence ≠ c.instance_.lastEventSequence then return none
        else return some s

/-- `load_at_checkpoint`. -/
def loadAtCheckpoint (db : AccountDb enc) (ownerId : String)
    (admission : ForwardLiveAdmissionState) : Except PyError (Option ForwardAccountState) := do
  let instanceId := admission.checkpoint.instance_.instanceId
  match ← loadAccount db ownerId instanceId with
  | none => return none
  | some current =>
    match ← loadAccountHistory db ownerId instanceId with
    | [] => return none
    | root :: transitions => do
      let latest ← replayHistory (root :: transitions)
      ensure (latest = current) (valueError "forward account history differs from stored state")
      match root.snapshot, root.baselineCheckpoint with
      | some baseline, some base =>
        if root.baselineWarmupReceiptFingerprint ≠ some admission.warmupReceiptFingerprint then
          return none
        else do
          ensure (baseline.instanceId = instanceId)
            (valueError "forward account history baseline belongs to another instance")
          replayBetween admission base baseline transitions
      | _, _ => return none

/-! ## Replaying a prefix -/

section
variable {start s t : ForwardAccountState} {admission : Option ForwardLiveAdmissionState}
  {events post : List AccountInput} {xs ys : List (ForwardAccountHistoryEntry enc)}
  {target : ForwardLiveAdmissionState} {required : Finset String}

theorem Settles.unique {e : AccountInput} (h : Settles enc s e t) {t' : ForwardAccountState}
    (h' : Settles enc s e t') : t = t' := by
  obtain ⟨r, hr, -, rfl⟩ := h
  obtain ⟨r', hr', -, rfl⟩ := h'
  cases hr.symm.trans hr'
  rfl

theorem Journal.unique (h : Journal start admission events s xs)
    {s' : ForwardAccountState} {xs' : List (ForwardAccountHistoryEntry enc)}
    (h' : Journal start admission events s' xs') : s = s' := by
  induction h generalizing s' xs' with
  | root =>
    generalize hks : ([] : List AccountInput) = ks at h'
    cases h' with
    | root => rfl
    | snoc => simp at hks
  | @snoc events s t xs e x _ hsettles _ ih =>
    generalize hks : events ++ [e] = ks at h'
    cases h' with
    | root => simp at hks
    | snoc hjournal' hsettles' _ =>
      obtain ⟨rfl, he⟩ := append_inj' hks rfl
      cases he
      cases ih hjournal'
      exact hsettles.unique hsettles'

theorem Journal.exists_prefix (h : Journal start admission (events ++ post) t ys) :
    ∃ s xs zs, ys = xs ++ zs ∧ Journal start admission events s xs ∧
      zs.map (·.event) = post.map fun e => some e.1 := by
  induction post using List.reverseRecOn generalizing t ys with
  | nil => exact ⟨t, ys, [], (append_nil _).symm, by rwa [append_nil] at h, rfl⟩
  | append_singleton post e ih =>
    rw [← append_assoc] at h
    generalize hks : events ++ post ++ [e] = ks at h
    cases h with
    | root => simp at hks
    | @snoc events' s' t xs' e' x hjournal _ hx =>
      obtain ⟨rfl, he⟩ := append_inj' hks rfl
      cases he
      obtain ⟨s, xs, zs, rfl, hprefix, hzs⟩ := ih hjournal
      have hevent : x.event = some e.1 := by rw [hx]; rfl
      refine ⟨s, xs, zs ++ [x], append_assoc _ _ _, hprefix, ?_⟩
      rw [map_append, map_append, hzs, map_singleton, map_singleton, hevent]

theorem replayRequired_append (s : ForwardAccountState) :
    replayRequired target required s (xs ++ ys) =
      replayRequired target required s xs >>= fun found =>
        match found with
        | none => .ok none
        | some t => replayRequired target required t ys := by
  induction xs generalizing s with
  | nil => rfl
  | cons x xs ih =>
    rw [cons_append, replayRequired, replayRequired]
    cases x.event with
    | none => exact ih s
    | some e =>
      dsimp only
      by_cases hmem : e.eventId ∉ required
      · rw [if_pos hmem, if_pos hmem]
        exact ih s
      rw [if_neg hmem, if_neg hmem]
      cases target.existing e.eventId with
      | none => rfl
      | some seen =>
        dsimp only
        by_cases hbad : seen.eventFingerprint ≠ e.eventFingerprint ∨ seen.sequence ≠ e.sequence ∨
            x.executionReceipt = none
        · rw [if_pos hbad, if_pos hbad]
          rfl
        · rw [if_neg hbad, if_neg hbad]
          cases reapply enc "forward account checkpoint replay differs from its journal" s e
              x.executionReceipt x.stateFingerprint with
          | error e => rfl
          | ok t => exact ih t

theorem replayRequired_other (h : ∀ x ∈ xs, ∀ e ∈ x.event, e.eventId ∉ required) :
    replayRequired target required s xs = .ok (some s) := by
  induction xs with
  | nil => rfl
  | cons x xs ih =>
    rw [replayRequired]
    cases hx : x.event with
    | none => exact ih fun y hy => h y (mem_cons_of_mem _ hy)
    | some e =>
      dsimp only
      rw [if_pos (h x mem_cons_self e hx)]
      exact ih fun y hy => h y (mem_cons_of_mem _ hy)

def SeenAs (target : ForwardLiveAdmissionState) (e : AccountInput) : Prop :=
  ∃ seen, target.existing e.1.eventId = some seen ∧
    seen.eventFingerprint = e.1.eventFingerprint ∧ seen.sequence = e.1.sequence

def Receipted (events : List AccountInput) : Prop := ∀ e ∈ events, e.2.isSome = true

instance (events : List AccountInput) : Decidable (Receipted events) :=
  inferInstanceAs (Decidable (∀ e ∈ events, e.2.isSome = true))

theorem Journal.replays_required {root : ForwardAccountHistoryEntry enc}
    (h : Journal start admission events s (root :: xs))
    (hseen : ∀ e ∈ events, e.1.eventId ∈ required ∧ SeenAs target e) :
    replayRequired target required start xs =
      .ok (if Receipted events then some s else none) := by
  generalize hys : root :: xs = ys at h
  induction h generalizing xs with
  | root =>
    obtain ⟨-, rfl⟩ := List.cons.inj hys
    rw [if_pos (by simp [Receipted])]
    rfl
  | @snoc events s t ys e x hjournal hsettles hx ih =>
    obtain ⟨root', zs, rfl, -, -⟩ := hjournal.exists_cons
    rw [cons_append] at hys
    obtain ⟨rfl, rfl⟩ := List.cons.inj hys
    rw [replayRequired_append, ih (fun y hy => hseen y (mem_append_left _ hy)) rfl, ok_bind]
    have hiff : Receipted (events ++ [e]) ↔ Receipted events ∧ e.2.isSome = true := by
      simp only [Receipted, forall_mem_append, forall_mem_singleton]
    by_cases hr : Receipted events
    · obtain ⟨hmem, seen, hexisting, hfp, hsequence⟩ :=
        hseen e (mem_append_right _ (mem_singleton.2 rfl))
      have hevent : x.event = some e.1 := by rw [hx]; rfl
      have hreceipt : x.executionReceipt = e.2 := by rw [hx]; rfl
      have hstate : x.stateFingerprint = t.fingerprint enc := by rw [hx]; rfl
      have hiff' : Receipted (events ++ [e]) ↔ e.2.isSome = true := by
        rw [hiff]
        exact ⟨And.right, fun h => ⟨hr, h⟩⟩
      rw [if_pos hr]
      dsimp only
      rw [replayRequired, hevent]
      dsimp only
      rw [if_neg (not_not.2 hmem), hexisting]
      dsimp only
      by_cases he : e.2 = none
      · have hmissing : ¬ Receipted (events ++ [e]) := by
          rw [hiff', he]
          exact nofun
        rw [if_pos (.inr (.inr (hreceipt.trans he))), if_neg hmissing]
      · have hgood : ¬ (seen.eventFingerprint ≠ e.1.eventFingerprint ∨ seen.sequence ≠ e.1.sequence ∨
            x.executionReceipt = none) := by
          rintro (h | h | h)
          · exact h hfp
          · exact h hsequence
          · exact he (hreceipt.symm.trans h)
        rw [if_neg hgood, hreceipt, hstate, hsettles.reapply, ok_bind,
          if_pos (hiff'.2 (Option.isSome_iff_ne_none.2 he))]
        rfl
    · rw [if_neg hr, if_neg fun h => hr (hiff.1 h).1]

/-! ## Replaying up to an admission -/

def Matches (sha256 : String → Digest) (e : CanonicalForwardEvent) (a : AccountInput) : Prop :=
  a.1.eventId = e.eventId ∧ a.1.eventFingerprint = e.fingerprint sha256 ∧ a.1.sequence = e.sequence

variable {base : ForwardLiveAdmissionState} {accepted : List CanonicalForwardEvent}
  {root : ForwardAccountHistoryEntry enc}

theorem transitionIds_eq (h : xs.map (·.event) = events.map fun e => some e.1) :
    transitionIds xs = events.map fun e => e.1.eventId := by
  have hids : transitionIds xs = (xs.map (·.event)).filterMap (Option.map (·.eventId)) := by
    rw [filterMap_map]
    rfl
  rw [hids, h, filterMap_map, ← filterMap_eq_map]
  rfl

theorem Journal.lastEvent (h : Journal start admission events s xs) {e : AccountInput}
    (he : events.getLast? = some e) :
    s.lastEventId = some e.1.eventId ∧ s.lastEventSequence = e.1.sequence := by
  cases h with
  | root => cases he
  | snoc _ hsettles _ =>
    rw [getLast?_concat] at he
    cases he
    obtain ⟨-, -, -, hid, hsequence, -⟩ := hsettles.spec
    exact ⟨hid, hsequence⟩

theorem Matches.ids {sha256 : String → Digest} (h : List.Forall₂ (Matches sha256) accepted events) :
    events.map (fun e => e.1.eventId) = accepted.map CanonicalForwardEvent.eventId := by
  induction h with
  | nil => rfl
  | cons hm _ ih => rw [map_cons, map_cons, hm.1, ih]

theorem Matches.getLast {sha256 : String → Digest}
    (h : List.Forall₂ (Matches sha256) accepted events) {e : AccountInput}
    (he : events.getLast? = some e) :
    ∃ a, accepted.getLast? = some a ∧ Matches sha256 a e := by
  induction h with
  | nil => cases he
  | @cons a b as bs hm hrest ih =>
    cases hrest with
    | nil =>
      cases he
      exact ⟨a, rfl, hm⟩
    | cons _ _ =>
      rw [getLast?_cons_cons] at he ⊢
      exact ih he

theorem Matches.mem {sha256 : String → Digest}
    (h : List.Forall₂ (Matches sha256) accepted events) {e : AccountInput} (he : e ∈ events) :
    ∃ a ∈ accepted, Matches sha256 a e := by
  induction h with
  | nil => cases he
  | cons hm _ ih =>
    rcases mem_cons.1 he with rfl | he
    · exact ⟨_, mem_cons_self, hm⟩
    · obtain ⟨a, ha, hma⟩ := ih he
      exact ⟨a, mem_cons_of_mem _ ha, hma⟩

theorem lastEventSequence_le {i j : ForwardInstance} (h : i.cursorSequence ≤ j.cursorSequence) :
    i.lastEventSequence ≤ j.lastEventSequence := by
  unfold ForwardInstance.cursorSequence at h
  by_cases hi : i.lastEventId = none
  · rw [i.sequence_of_none hi]
    exact Nat.zero_le _
  · rw [if_neg hi] at h
    split_ifs at h
    · omega
    · exact_mod_cast h

/-- **The replay up to an admission** that accepted these events since the baseline. -/
theorem replayBetween_progress (hsha : Function.Injective enc.sha256)
    (hjournal : Journal start admission events s (root :: xs))
    (hys : ys.map (·.event) = post.map fun e => some e.1)
    (hnodup : ((events ++ post).map fun e => e.1.eventId).Nodup)
    (hp : Progress enc.sha256 base accepted target)
    (hm : List.Forall₂ (Matches enc.sha256) accepted events) :
    replayBetween target base.checkpoint start (xs ++ ys) =
      .ok (if Receipted events then some s else none) := by
  obtain ⟨root', xs', hcons, -, hxs⟩ := hjournal.exists_cons
  obtain ⟨rfl, rfl⟩ := List.cons.inj hcons
  have hids := Matches.ids hm
  have hconstants := hp.constants
  simp only [ForwardInstance.constants, Prod.mk.injEq] at hconstants
  obtain ⟨-, hportfolio, hsnapshot, hcarry⟩ := hconstants
  have hsame : ¬ (base.checkpoint.instance_.portfolioFingerprint ≠
        target.checkpoint.instance_.portfolioFingerprint ∨
      base.checkpoint.instance_.warmupSnapshotFingerprint ≠
        target.checkpoint.instance_.warmupSnapshotFingerprint ∨
      base.checkpoint.instance_.carryInMode ≠ target.checkpoint.instance_.carryInMode) := by
    rw [hportfolio, hsnapshot, hcarry]
    simp
  have hrequired : target.checkpoint.processedEventIds \ base.checkpoint.processedEventIds =
      (accepted.map CanonicalForwardEvent.eventId).toFinset := by
    rw [hp.processed, Finset.union_sdiff_left, Finset.sdiff_eq_self_iff_disjoint,
      Finset.disjoint_left]
    intro id hid
    obtain ⟨e, he, rfl⟩ := mem_map.1 (mem_toFinset.1 hid)
    exact hp.fresh e he
  unfold replayBetween
  dsimp only
  rw [if_neg hsame, if_neg (not_not.2 hp.ids), if_neg (not_lt.2 (lastEventSequence_le hp.advances)),
    hrequired]
  cases hlast : events.getLast? with
  | none =>
    obtain rfl := getLast?_eq_none_iff.1 hlast
    obtain rfl := List.forall₂_nil_right_iff.1 hm
    obtain rfl : start = s := by
      obtain ⟨_, _, _, hroot, _⟩ := hjournal.exists_cons
      exact (Journal.root hroot).unique hjournal
    obtain ⟨hid, hsequence⟩ := Prod.mk.inj hp.lastEvent
    have hnone : (([] : List CanonicalForwardEvent).map
        CanonicalForwardEvent.eventId).toFinset = ∅ := rfl
    rw [if_pos (show Receipted [] by simp [Receipted])]
    by_cases hfp : target.checkpoint.fingerprint enc.sha256 = base.checkpoint.fingerprint enc.sha256
    · rw [if_pos hfp]
    · rw [if_neg hfp, if_pos hnone, if_pos ⟨hid, hsequence⟩]
  | some e =>
    obtain ⟨a, ha, hma⟩ := Matches.getLast hm hlast
    have hmem : a ∈ accepted := mem_of_getLast? ha
    have hfp : target.checkpoint.fingerprint enc.sha256 ≠ base.checkpoint.fingerprint enc.sha256 := by
      intro hfp
      refine hp.fresh a hmem ?_
      rw [← checkpoint_of_fingerprint hsha hfp, hp.processed, Finset.mem_union, mem_toFinset]
      exact .inr (mem_map_of_mem hmem)
    have hnonempty : (accepted.map CanonicalForwardEvent.eventId).toFinset ≠ ∅ :=
      Finset.ne_empty_of_mem (mem_toFinset.2 (mem_map_of_mem hmem))
    have htransitions : transitionIds (xs ++ ys) = (events ++ post).map fun e => e.1.eventId :=
      transitionIds_eq (by rw [map_append, hxs, hys, map_append])
    have hsubset : (accepted.map CanonicalForwardEvent.eventId).toFinset ⊆
        (transitionIds (xs ++ ys)).toFinset := by
      rw [htransitions, map_append, hids, toFinset_append]
      exact Finset.subset_union_left
    have hseen : ∀ e ∈ events, e.1.eventId ∈ (accepted.map CanonicalForwardEvent.eventId).toFinset ∧
        SeenAs target e := by
      intro e he
      obtain ⟨b, hb, hid, hfp, hsequence⟩ := Matches.mem hm he
      refine ⟨?_, b.seen enc.sha256, existing_eq_some.2 ⟨hp.seen b hb, hid.symm⟩, ?_, ?_⟩
      · rw [mem_toFinset, hid]
        exact mem_map_of_mem hb
      · rw [hfp, CanonicalForwardEvent.seen]
      · rw [hsequence, CanonicalForwardEvent.seen]
    have hother : ∀ y ∈ ys, ∀ e ∈ y.event,
        e.eventId ∉ (accepted.map CanonicalForwardEvent.eventId).toFinset := by
      intro y hy e he hin
      rw [mem_toFinset, ← hids] at hin
      rw [map_append, nodup_append] at hnodup
      refine hnodup.2.2 _ hin e.eventId ?_ rfl
      rw [← transitionIds_eq hys]
      exact mem_filterMap.2 ⟨y, hy, by rw [Option.mem_def.1 he]; rfl⟩
    rw [if_neg hfp, if_neg hnonempty, ensure_of (by rw [htransitions]; exact hnodup), ok_bind,
      if_neg (not_not.2 hsubset), replayRequired_append, hjournal.replays_required hseen, ok_bind]
    by_cases hr : Receipted events
    · rw [if_pos hr]
      dsimp only
      rw [replayRequired_other hother, ok_bind]
      dsimp only
      obtain ⟨hid, hsequence⟩ := hjournal.lastEvent hlast
      have hcursor := hp.lastEvent
      rw [ha] at hcursor
      obtain ⟨hcursorId, hcursorSequence⟩ := Prod.mk.inj hcursor
      rw [if_neg]
      · rfl
      · rintro (h | h)
        · exact h (by rw [hid, hcursorId, hma.1])
        · exact h (by rw [hsequence, hcursorSequence, hma.2.2])
    · rw [if_neg hr]
      rfl

theorem Journal.loadAtCheckpoint {ownerId : String} {db : AccountDb enc} {baseline}
    (h : Journal start baseline events s (root :: xs))
    (hid : s.instanceId = target.checkpoint.instance_.instanceId)
    (hdb : db (ownerId, target.checkpoint.instance_.instanceId) =
      storedRows ownerId target.checkpoint.instance_.instanceId s (root :: xs)) :
    loadAtCheckpoint db ownerId target =
      match baseline with
      | none => .ok none
      | some base =>
        if base.warmupReceiptFingerprint ≠ target.warmupReceiptFingerprint then .ok none
        else replayBetween target base.checkpoint start xs := by
  obtain ⟨root', xs', hcons, hroot, -⟩ := h.exists_cons
  obtain ⟨rfl, rfl⟩ := List.cons.inj hcons
  have hsnapshot : root.snapshot = some start := by rw [hroot]; rfl
  have hcheckpoint : root.baselineCheckpoint = baseline.map (·.checkpoint) := by rw [hroot]; rfl
  have hreceipt : root.baselineWarmupReceiptFingerprint =
      baseline.map (·.warmupReceiptFingerprint) := by rw [hroot]; rfl
  have hstart : start.instanceId = target.checkpoint.instance_.instanceId :=
    h.events_spec.1.symm.trans hid
  unfold ChartingPlatform.loadAtCheckpoint
  dsimp only
  rw [loadAccount_stored hdb hid, ok_bind]
  dsimp only
  rw [h.loads hdb, ok_bind]
  dsimp only
  rw [h.replays, ok_bind, ensure_of rfl, ok_bind, hsnapshot, hcheckpoint]
  cases baseline with
  | none => rfl
  | some base =>
    dsimp only [Option.map_some]
    have hiff : some base.warmupReceiptFingerprint ≠ some target.warmupReceiptFingerprint ↔
        base.warmupReceiptFingerprint ≠ target.warmupReceiptFingerprint := by simp
    rw [hreceipt, Option.map_some]
    by_cases hr : base.warmupReceiptFingerprint ≠ target.warmupReceiptFingerprint
    · rw [if_pos hr, if_pos (hiff.2 hr)]
      rfl
    · rw [if_neg hr, if_neg fun h => hr (hiff.1 h), ensure_of hstart, ok_bind]

end

/-! ## Every run -/

theorem Recorded.of_append {ownerId instanceId : String} {pre post : List AccountAnswer}
    {rows rows₁ : AccountRows enc} {x : ForwardAccountState × Option ForwardLiveAdmissionState}
    (h : Recorded ownerId instanceId (pre ++ post) rows)
    (h₁ : Recorded ownerId instanceId pre rows₁)
    (hx : registrations ownerId instanceId pre = [x]) :
    ∃ s s₁ xs xs₁, Journal x.1 x.2 (appliedInputs ownerId instanceId pre ++
          appliedInputs ownerId instanceId post) s xs ∧ s.instanceId = instanceId ∧
        rows = storedRows ownerId instanceId s xs ∧
        Journal x.1 x.2 (appliedInputs ownerId instanceId pre) s₁ xs₁ ∧
        s₁.instanceId = instanceId ∧ rows₁ = storedRows ownerId instanceId s₁ xs₁ := by
  have hregistered : registrations ownerId instanceId (pre ++ post) =
      x :: registrations ownerId instanceId post := by
    rw [registrations, filterMap_append, ← registrations, hx]
    rfl
  have hinputs : appliedInputs ownerId instanceId (pre ++ post) =
      appliedInputs ownerId instanceId pre ++ appliedInputs ownerId instanceId post :=
    filterMap_append
  cases h with
  | absent hnone => rw [hregistered] at hnone; cases hnone
  | journal hsome _ _ hjournal hid hrows =>
    rw [hregistered] at hsome
    obtain ⟨rfl, -⟩ := List.cons.inj hsome
    rw [hinputs] at hjournal
    cases h₁ with
    | absent hnone => rw [hx] at hnone; cases hnone
    | journal hsome₁ _ _ hjournal₁ hid₁ hrows₁ =>
      rw [hx] at hsome₁
      cases (List.cons.inj hsome₁).1
      exact ⟨_, _, _, _, hjournal, hid, hrows, hjournal₁, hid₁, hrows₁⟩

/-- **Loading at a checkpoint** that was reached after the events of a run: the
    state of that time, unless an event has no receipt. -/
theorem loadAtCheckpoint_run (hsha : Function.Injective enc.sha256) {pre post : List AccountAnswer}
    {db db₁ : AccountDb enc} {ownerId instanceId : String} {start s₁ : ForwardAccountState}
    {base : ForwardLiveAdmissionState} (hrun : Run AccountServes emptyAccounts (pre ++ post) db)
    (hpre : Run AccountServes emptyAccounts pre db₁)
    (hload : loadAccount db₁ ownerId instanceId = .ok (some s₁))
    (hregistered : registrations ownerId instanceId pre = [(start, some base)])
    {i : ForwardInstance} {w : ForwardWarmupReceipt} {s₀ target : ForwardLiveAdmissionState}
    {ms₀ ms : List AdmissionMove} (hwarmup : fromWarmup enc.sha256 i w = .ok s₀)
    (hbefore : Run (AdmissionMoves enc.sha256) s₀ ms₀ base) (hafter : Run (AdmissionMoves enc.sha256) base ms target)
    (hmatches : List.Forall₂ (Matches enc.sha256) (acceptedMoves ms)
      (appliedInputs ownerId instanceId pre)) :
    loadAtCheckpoint db ownerId target =
      .ok (if Receipted (appliedInputs ownerId instanceId pre) then some s₁ else none) := by
  have hrecorded₁ := recorded_run hpre ownerId instanceId
  have hadmission : base.checkpoint.instance_.instanceId = start.instanceId := by
    rcases hrecorded₁.load with ⟨-, hnone⟩ | ⟨_, _, _, _, h, _, hadmission, _⟩
    · rw [hload] at hnone
      cases hnone
    · rw [hregistered] at h
      cases (List.cons.inj h).1
      exact hadmission base rfl
  obtain ⟨s, s', xs, xs₁, hjournal, hid, hrows, hjournal₁, hid₁, hrows₁⟩ :=
    (recorded_run hrun ownerId instanceId).of_append hrecorded₁ hregistered
  obtain rfl : s' = s₁ := by
    have hstored := loadAccount_stored hrows₁ hid₁
    rw [hload] at hstored
    cases hstored
    rfl
  obtain ⟨root, ts, rfl, -, -⟩ := hjournal.exists_cons
  obtain ⟨-, hsourced⟩ := progress_run hsha (sourced_fromWarmup hwarmup) hbefore
  obtain ⟨hprogress, -⟩ := progress_run hsha hsourced hafter
  have hinstance : target.checkpoint.instance_.instanceId = instanceId :=
    (congrArg Prod.fst hprogress.constants).trans
      (hadmission.trans (hjournal.events_spec.1.symm.trans hid))
  subst hinstance
  obtain ⟨s', ys, zs, hsplit, hprefix, hzs⟩ := hjournal.exists_prefix
  obtain rfl := hprefix.unique hjournal₁
  obtain ⟨root', ys', rfl, -, -⟩ := hprefix.exists_cons
  rw [cons_append] at hsplit
  obtain ⟨rfl, rfl⟩ := List.cons.inj hsplit
  rw [hjournal.loadAtCheckpoint hid hrows]
  dsimp only
  rw [if_neg (not_not.2 hprogress.receipt.symm)]
  exact replayBetween_progress hsha hprefix hzs hjournal.events_spec.2.2 hprogress hmatches

/-- **The history refines the account**: replaying it gives the stored state, and
    replaying it up to an admission checkpoint gives the state of that time. -/
theorem account_history_refines (enc : AccountEncoding) (hsha : Function.Injective enc.sha256)
    (as : List AccountAnswer) (db : AccountDb enc) (hrun : Run AccountServes emptyAccounts as db)
    (ownerId instanceId : String) :
    (∃ current history, loadAccount db ownerId instanceId = .ok current ∧
      loadAccountHistory db ownerId instanceId = .ok history ∧
      (current = none ∧ history = [] ∨ ∃ s, current = some s ∧ replayHistory history = .ok s)) ∧
    ∀ (pre post : List AccountAnswer) (db₁ : AccountDb enc) (s₁ : ForwardAccountState),
      as = pre ++ post → Run AccountServes emptyAccounts pre db₁ →
      loadAccount db₁ ownerId instanceId = .ok (some s₁) →
      ∃ start baseline, registrations ownerId instanceId pre = [(start, baseline)] ∧
        (baseline = none → ∀ target : ForwardLiveAdmissionState,
          target.checkpoint.instance_.instanceId = instanceId →
          loadAtCheckpoint db ownerId target = .ok none) ∧
        ∀ base ∈ baseline, ∀ (i : ForwardInstance) (w : ForwardWarmupReceipt)
          (s₀ target : ForwardLiveAdmissionState) (ms₀ ms : List AdmissionMove),
          fromWarmup enc.sha256 i w = .ok s₀ → Run (AdmissionMoves enc.sha256) s₀ ms₀ base →
          Run (AdmissionMoves enc.sha256) base ms target →
          List.Forall₂ (Matches enc.sha256) (acceptedMoves ms)
            (appliedInputs ownerId instanceId pre) →
          loadAtCheckpoint db ownerId target =
            .ok (if Receipted (appliedInputs ownerId instanceId pre) then some s₁ else none) := by
  refine ⟨?_, ?_⟩
  · cases recorded_run hrun ownerId instanceId with
    | absent _ _ hrows =>
      refine ⟨none, [], ?_, ?_, .inl ⟨rfl, rfl⟩⟩
      · rw [loadAccount, hrows]
      · rw [loadAccountHistory, hrows]
        rfl
    | journal _ _ _ hjournal hid hrows =>
      exact ⟨_, _, loadAccount_stored hrows hid, hjournal.loads hrows,
        .inr ⟨_, rfl, hjournal.replays⟩⟩
  · rintro pre post db₁ s₁ rfl hpre hload
    have hrecorded₁ := recorded_run hpre ownerId instanceId
    obtain ⟨start, baseline, hregistered⟩ : ∃ start baseline,
        registrations ownerId instanceId pre = [(start, baseline)] := by
      rcases hrecorded₁.load with ⟨-, hnone⟩ | ⟨start, baseline, _, _, h, _⟩
      · rw [hload] at hnone
        cases hnone
      · exact ⟨start, baseline, h⟩
    refine ⟨start, baseline, hregistered, ?_, ?_⟩
    · rintro rfl target rfl
      obtain ⟨s, _, xs, _, hjournal, hid, hrows, _⟩ :=
        (recorded_run hrun ownerId _).of_append hrecorded₁ hregistered
      obtain ⟨root, ts, rfl, -, -⟩ := hjournal.exists_cons
      exact hjournal.loadAtCheckpoint hid hrows
    · intro base hbase i w s₀ target ms₀ ms hwarmup hbefore hafter hmatches
      obtain rfl : baseline = some base := hbase
      exact loadAtCheckpoint_run hsha hrun hpre hload hregistered hwarmup hbefore hafter hmatches

/-! ## Runs -/

def admittedEvent : CanonicalForwardEvent := sampleEvent "a" 0 (clock 1) (clock 2)

def plainAccountEvent : ForwardAccountEvent where
  instanceId := "forward-1"
  eventId := "a"
  eventFingerprint := admittedEvent.fingerprint sampleEncoding.sha256
  sequence := 0
  eventTime := clock 1
  instanceId_notBlank := Eq.refl true
  eventId_notBlank := Eq.refl true

def plainAccountReceipt : ForwardRuntimeExecutionReceipt where
  instanceId := "forward-1"
  eventId := "a"
  eventFingerprint := admittedEvent.fingerprint sampleEncoding.sha256
  deliveryBindingFingerprint := ⟨"delivery"⟩
  contextPreparationFingerprint := ⟨"context"⟩
  preEventCheckpointFingerprint := ⟨"checkpoint"⟩
  runtimeSessionFingerprint := ⟨"session"⟩
  nativeOutputFingerprint := ⟨"output"⟩
  instanceId_notBlank := Eq.refl true
  eventId_notBlank := Eq.refl true

def newAccount : Except PyError ForwardAccountState :=
  initialForwardAccountState "forward-1" "usd" [("usd", 1000)]

def plainDecision (receipt : Option ForwardRuntimeExecutionReceipt) :
    Option ForwardAccountDecision :=
  newAccount.toOption.bind fun s =>
    (applyForwardAccountEvent unrounded sampleEncoding s plainAccountEvent receipt).toOption.map (·.decision)

theorem settles_plain {start : ForwardAccountState} (hstart : newAccount = .ok start)
    {receipt : Option ForwardRuntimeExecutionReceipt} (h : plainDecision receipt = some .applied) :
    ∃ t, Settles sampleEncoding start (plainAccountEvent, receipt) t := by
  unfold plainDecision at h
  rw [hstart] at h
  obtain ⟨r, happly, hd⟩ := toOption_map_eq_some.1 h
  exact ⟨_, r, happly, hd, rfl⟩

theorem plain_run {start : ForwardAccountState} (hstart : newAccount = .ok start)
    {receipt : Option ForwardRuntimeExecutionReceipt} (h : plainDecision receipt = some .applied) :
    ∃ (as : List AccountAnswer) (db : AccountDb sampleEncoding) (s : ForwardAccountState)
      (target : ForwardLiveAdmissionState) (ms : List AdmissionMove),
      Run AccountServes emptyAccounts as db ∧
      loadAccount db "owner-1" "forward-1" = .ok (some s) ∧
      registrations "owner-1" "forward-1" as = [(start, some sampleState)] ∧
      appliedInputs "owner-1" "forward-1" as = [(plainAccountEvent, receipt)] ∧
      Run (AdmissionMoves sampleEncoding.sha256) sampleState ms target ∧
      List.Forall₂ (Matches sampleEncoding.sha256) (acceptedMoves ms)
        [(plainAccountEvent, receipt)] := by
  obtain ⟨t, hsettles⟩ := settles_plain hstart h
  have hid : start.instanceId = "forward-1" := by
    cases hstart
    rfl
  have hempty : start.lastEventSequence = -1 := (initial_eq_ok hstart).2.2.2.2
  obtain ⟨r₁, db₁, hcall₁, hd₁⟩ := @initializeAccount_of sampleEncoding "owner-1" emptyAccounts
    start (some sampleState) rfl hempty (by
      intro a ha
      cases ha
      rw [hid]
      rfl)
  have hserves₁ : AccountServes (emptyAccounts : AccountDb sampleEncoding)
      ⟨.initializeAccount "owner-1" start (some sampleState), .ok r₁⟩ db₁ := by
    unfold AccountServes serveAccount
    dsimp only
    rw [hcall₁]
    exact ⟨rfl, rfl⟩
  have hrun₁ := Run.snoc Run.nil hserves₁
  have hregistered : registrations "owner-1" "forward-1"
      ([] ++ [⟨.initializeAccount "owner-1" start (some sampleState), .ok r₁⟩]) =
        [(start, some sampleState)] :=
    filterMap_cons_some (if_pos ⟨⟨rfl, hid⟩, hd₁⟩)
  have hrecorded := recorded_run hrun₁ "owner-1" "forward-1"
  have hload₁ : loadAccount db₁ "owner-1" "forward-1" = .ok (some start) := by
    cases hrecorded with
    | absent hnone =>
      rw [hregistered] at hnone
      cases hnone
    | journal hsome _ _ hjournal hid' hrows =>
      rw [hregistered] at hsome
      cases (List.cons.inj hsome).1
      obtain ⟨_, _, _, hroot, _⟩ := hjournal.exists_cons
      cases (Journal.root hroot).unique hjournal
      exact loadAccount_stored hrows hid'
  obtain ⟨r₂, db₂, hcall₂, hd₂, hload₂⟩ := @applyAccount_of sampleEncoding "owner-1" db₁ _ start t
    (plainAccountEvent, receipt) hrecorded hload₁ hsettles
  have hserves₂ : AccountServes db₁ ⟨.applyEvent "owner-1" plainAccountEvent receipt, .ok r₂⟩ db₂ := by
    unfold AccountServes serveAccount
    dsimp only at hcall₂ ⊢
    rw [hcall₂]
    exact ⟨rfl, rfl⟩
  obtain ⟨r, hr, hd⟩ : ∃ r, admitForwardEvent sampleEncoding.sha256 sampleState admittedEvent
      (plainObservation .accepted false (.at admittedEvent) (by decide)) = .ok r ∧
        r.decision = .accepted := by
    exact toOption_map_eq_some.1 (by decide +kernel)
  have haccepted : acceptedMoves [.admitted ⟨admittedEvent,
      plainObservation .accepted false (.at admittedEvent) (by decide), r⟩] = [admittedEvent] :=
    filterMap_cons_some (if_pos hd)
  refine ⟨_, db₂, t, r.state, [.admitted ⟨admittedEvent,
      plainObservation .accepted false (.at admittedEvent) (by decide), r⟩], hrun₁.snoc hserves₂,
    hload₂, ?_, ?_, Run.snoc Run.nil ⟨hr, rfl⟩, ?_⟩
  · rw [registrations, filterMap_append, ← registrations, hregistered]
    rfl
  · have happlied : (⟨.applyEvent "owner-1" plainAccountEvent receipt, .ok r₂⟩ :
        AccountAnswer).appliedTo "owner-1" "forward-1" = some (plainAccountEvent, receipt) :=
      if_pos ⟨⟨rfl, rfl⟩, hd₂⟩
    rw [appliedInputs, filterMap_append, filterMap_cons_some happlied]
    rfl
  · have hmatch : Matches sampleEncoding.sha256 admittedEvent (plainAccountEvent, receipt) := by
      refine ⟨rfl, ?_, rfl⟩
      rw [plainAccountEvent]
    rw [haccepted]
    exact .cons hmatch .nil

/-- **An event without a receipt**: the account at its checkpoint is not loaded. -/
theorem unreceipted_event_not_loaded :
    ∃ (as : List AccountAnswer) (db : AccountDb sampleEncoding) (start s : ForwardAccountState)
      (target : ForwardLiveAdmissionState) (ms : List AdmissionMove),
      Run AccountServes emptyAccounts as db ∧
      loadAccount db "owner-1" "forward-1" = .ok (some s) ∧
      registrations "owner-1" "forward-1" as = [(start, some sampleState)] ∧
      Run (AdmissionMoves sampleEncoding.sha256) sampleState ms target ∧
      List.Forall₂ (Matches sampleEncoding.sha256) (acceptedMoves ms)
        (appliedInputs "owner-1" "forward-1" as) ∧
      loadAtCheckpoint db "owner-1" target = .ok none := by
  obtain ⟨start, hstart⟩ : ∃ start, newAccount = .ok start := ⟨_, rfl⟩
  obtain ⟨as, db, s, target, ms, hrun, hload, hregistered, hinputs, hmoves, hmatches⟩ :=
    plain_run hstart (show plainDecision none = some .applied by decide +kernel)
  rw [← hinputs] at hmatches
  refine ⟨as, db, start, s, target, ms, hrun, hload, hregistered, hmoves, hmatches, ?_⟩
  have hrun' : Run AccountServes emptyAccounts (as ++ []) db := by rwa [append_nil]
  have hloaded := loadAtCheckpoint_run plainDigest_injective hrun' hrun hload hregistered
    fromWarmup_sample Run.nil hmoves hmatches
  rw [hloaded, hinputs, if_neg (by simp [Receipted])]

theorem account_history_refines_sample :
    ∃ (as : List AccountAnswer) (db : AccountDb sampleEncoding) (s : ForwardAccountState)
      (target : ForwardLiveAdmissionState),
      Run AccountServes emptyAccounts as db ∧
      appliedInputs "owner-1" "forward-1" as = [(plainAccountEvent, some plainAccountReceipt)] ∧
      loadAccount db "owner-1" "forward-1" = .ok (some s) ∧
      loadAtCheckpoint db "owner-1" target = .ok (some s) := by
  obtain ⟨start, hstart⟩ : ∃ start, newAccount = .ok start := ⟨_, rfl⟩
  obtain ⟨as, db, s, target, ms, hrun, hload, hregistered, hinputs, hmoves, hmatches⟩ :=
    plain_run hstart
      (show plainDecision (some plainAccountReceipt) = some .applied by decide +kernel)
  refine ⟨as, db, s, target, hrun, hinputs, hload, ?_⟩
  obtain ⟨-, hprefixes⟩ := account_history_refines sampleEncoding plainDigest_injective as db hrun
    "owner-1" "forward-1"
  obtain ⟨start', baseline, hregistered', -, hloads⟩ :=
    hprefixes as [] db s (append_nil _).symm hrun hload
  rw [hregistered] at hregistered'
  cases (List.cons.inj hregistered').1
  rw [hloads sampleState rfl _ _ _ _ _ _ fromWarmup_sample Run.nil hmoves (by rwa [hinputs]),
    hinputs, if_pos (by simp [Receipted])]

end ChartingPlatform
