/-
  Runs of the forward-state adapter: from an instance that was installed and
  warmed up, any calls of `admit` and `transact` that return.
-/
import ChartingPlatform.Forward.CheckpointHistory
import ChartingPlatform.Forward.Fingerprints

namespace ChartingPlatform

open Lib List

variable {sha256 : String → Digest} {ownerId instanceId : String}

/-! ## Late arrivals -/

/-- A new event is validly presented as out of order. -/
def LateArrival (s : ForwardLiveAdmissionState) (event : CanonicalForwardEvent)
    (o : ForwardEventObservation) : Prop :=
  event.eventId ∉ s.seenIds ∧ o.disposition = .outOfOrder ∧
    validateObservation s.checkpoint event o = .ok ()

section
variable {s : ForwardLiveAdmissionState} {event : CanonicalForwardEvent}
  {o : ForwardEventObservation} {r : ForwardAdmissionResolution} {c c' : ForwardStateCheckpoint}

theorem applyCheckpointObservation_late
    (hd : o.disposition = .outOfOrder) (hv : validateObservation c event o = .ok ()) :
    ∃ c', applyCheckpointObservation c event o = .ok c' := by
  have hexp := (validateObservation_ok hv).symm.trans hd
  obtain ⟨-, -, hv⟩ := bind_eq_ok.1 hv
  simp only [hexp] at hv
  have hcur : preservesCursor c.instance_ o.nextCursor := ensure_eq_ok.1 hv
  have hkeep : o.nextCursor.lastEventId = c.instance_.lastEventId ∧
      (o.nextCursor.lastSequence = c.instance_.lastEventSequence ∨
        (c.instance_.lastEventId = none ∧ o.nextCursor.lastSequence = -1)) := by
    unfold preservesCursor at hcur
    split_ifs at hcur with hn
    · exact ⟨hcur.2.1.trans hn.symm, .inr ⟨hn, hcur.1⟩⟩
    · refine ⟨hcur.2.1, .inl ?_⟩
      rw [hcur.1, ForwardInstance.cursorSequence, if_neg hn]
  have hfresh : ¬ alreadyApplied c event o := by
    rintro (⟨h, -⟩ | ⟨h, -⟩ | ⟨h, -⟩) <;> rw [hd] at h <;> cases h
  have hi : applyForwardEventObservation c.instance_ event o = .ok c.instance_ := by
    simp only [applyForwardEventObservation, hd, if_pos hkeep]
  rw [applyCheckpointObservation, if_neg hfresh, hi, ok_bind, hd]
  exact ⟨_, makeCheckpoint_of c.processed_notBlank c.buffered_notBlank c.corrections_notBlank
    c.disjoint_processed_buffered c.disjoint_processed_corrections c.disjoint_buffered_corrections
    c.cursor_processed c.correctionCount_eq⟩

theorem decision_of_late (hl : LateArrival s event o)
    (h : admitForwardEvent sha256 s event o = .ok r) : r.decision = .outOfOrder := by
  obtain ⟨hnew, hd, hv⟩ := hl
  cases admitForwardEvent_cases h with
  | conflict hx | replay hx =>
    obtain ⟨x, hx, hid, -⟩ := hx
    exact absurd (mem_seenIds.2 ⟨x, hx, hid⟩) hnew
  | reject _ hno =>
    obtain ⟨c, hc⟩ := applyCheckpointObservation_late hd hv
    exact absurd hc (hno c hv)
  | applied _ _ _ hdec => rw [hdec, hd]; rfl

/-- An applied event is among the ids of the checkpoint, unless it is out of order. -/
theorem CheckpointStep.event_mem_ids
    (h : CheckpointStep c event o c') (hno : o.disposition ≠ .outOfOrder)
    (hdup : o.disposition = .duplicate → event.eventId ∈ c.ids) : event.eventId ∈ c'.ids := by
  simp only [ForwardStateCheckpoint.ids, Finset.mem_union] at hdup ⊢
  cases h with
  | same ha hc =>
    rw [hc]
    rcases ha with ⟨-, hm⟩ | ⟨-, hm⟩ | ⟨-, hm⟩ <;> simp [hm]
  | accepted _ _ _ _ hp => simp [hp]
  | gap _ _ _ _ hb => simp [hb]
  | correction _ _ _ _ _ _ hc => simp [hc]
  | duplicate hd _ hp hb hc => rw [hp, hb, hc]; exact hdup hd
  | outOfOrder hd => exact absurd hd hno

theorem CheckpointStep.ids_outOfOrder
    (h : CheckpointStep c event o c') (hd : o.disposition = .outOfOrder) : c'.ids = c.ids := by
  cases h with
  | same _ hc => rw [hc]
  | accepted _ h | gap h | correction h | duplicate h => rw [hd] at h; cases h
  | outOfOrder _ _ hp hb hc => rw [ForwardStateCheckpoint.ids, hp, hb, hc]; rfl

theorem expectedDisposition_duplicate
    (h : expectedDisposition c event = .duplicate) : event.eventId ∈ c.ids := by
  unfold expectedDisposition at h
  split_ifs at h with h₁ h₂
  have hp : event.eventId ∈ c.processedEventIds := h₂.elim id fun hl => c.cursor_processed _ hl
  simp [ForwardStateCheckpoint.ids, hp]

/-- **Only a late arrival unsettles**: it is seen, and no id set of the checkpoint lists it. -/
theorem settled_admission (hk : Known s) (hs : Settled s)
    (h : admitForwardEvent sha256 s event o = .ok r) :
    Settled r.state ↔ ¬ LateArrival s event o := by
  have hkeep : r.state = s → r.decision ≠ .outOfOrder →
      (Settled r.state ↔ ¬ LateArrival s event o) := fun hrs hdec =>
    iff_of_true (hrs ▸ hs) fun hl => hdec (decision_of_late hl h)
  cases admitForwardEvent_cases h with
  | conflict _ hdec hrs | replay _ _ hdec hrs | reject _ _ hdec hrs =>
    exact hkeep hrs (by rw [hdec]; decide)
  | applied hopen hv happ _ _ hseen =>
    have hstep := applyCheckpointObservation_cases happ
    have hmem := AdmissionStep.mem_seenIds_of_open hopen hseen
    -- the seen ids grow by the id of the event, if at all
    have hgrow : ∀ id ∈ r.state.seenIds, id ∈ s.seenIds ∨ id = event.eventId := by
      intro id hid
      obtain ⟨x, hx, rfl⟩ := mem_seenIds.1 hid
      rcases (hseen x).1 hx with hx | ⟨-, rfl⟩
      · exact .inl (mem_seenIds.2 ⟨x, hx, rfl⟩)
      · exact .inr rfl
    by_cases hd : o.disposition = .outOfOrder
    · have hids := hstep.ids_outOfOrder hd
      constructor
      · rintro hset ⟨hnew, -, -⟩
        exact hnew (hk (hids ▸ hset hmem))
      · intro hno id hid
        have hold : event.eventId ∈ s.seenIds := by
          by_contra hnew
          exact hno ⟨hnew, hd, hv⟩
        rw [hids]
        rcases hgrow id hid with hid | rfl
        · exact hs hid
        · exact hs hold
    · refine iff_of_true (fun id hid => ?_) fun hl => hd hl.2.1
      rcases hgrow id hid with hid | rfl
      · exact hstep.ids_mono (hs hid)
      · exact hstep.event_mem_ids hd fun hdup =>
          expectedDisposition_duplicate ((validateObservation_ok hv).symm.trans hdup)

/-! ## Cursors and buffered events -/

theorem fingerprint_seen (event : CanonicalForwardEvent) :
    (event.seen sha256).eventFingerprint = event.fingerprint sha256 := by
  rw [CanonicalForwardEvent.seen]

def BufferedFits (sha256 : String → Digest) (s : ForwardLiveAdmissionState)
    (event : CanonicalForwardEvent) : Prop :=
  ∀ x ∈ s.seenEvents, x.eventId = event.eventId → x.eventId ∈ s.checkpoint.bufferedEventIds →
    x.eventFingerprint = event.fingerprint sha256 → x.sequence = event.sequence

theorem cursorSeen_admission (hc : cursorSeen s.checkpoint.instance_ s.seenEvents)
    (hfit : BufferedFits sha256 s event) (h : admitForwardEvent sha256 s event o = .ok r) :
    cursorSeen r.state.checkpoint.instance_ r.state.seenEvents := by
  cases admitForwardEvent_cases h with
  | conflict _ _ hrs | replay _ _ _ hrs | reject _ _ _ hrs => rwa [hrs]
  | applied hopen _ happ _ _ hseen =>
    have hkeep : r.state.checkpoint.instance_.lastEventId = s.checkpoint.instance_.lastEventId →
        r.state.checkpoint.instance_.lastEventSequence =
          s.checkpoint.instance_.lastEventSequence →
        cursorSeen r.state.checkpoint.instance_ r.state.seenEvents := by
      intro hid hseq id hmem
      rw [hid] at hmem
      obtain ⟨x, hx, hxid, hxseq⟩ := hc id hmem
      exact ⟨x, (hseen x).2 (.inl hx), hxid, hxseq.trans hseq.symm⟩
    cases applyCheckpointObservation_cases happ with
    | same _ hsame => exact hkeep (by rw [hsame]) (by rw [hsame])
    | accepted _ _ _ hi =>
      rw [hi]
      intro id hid
      obtain rfl := Option.some.inj hid
      rcases hopen with hnew | ⟨⟨x, hx, hxid, hxfp⟩, hbuf⟩
      · exact ⟨event.seen sha256, (hseen _).2 (.inr ⟨hnew, rfl⟩), rfl, rfl⟩
      · exact ⟨x, (hseen x).2 (.inl hx), hxid, hfit x hx hxid (hxid ▸ hbuf) hxfp⟩
    | gap _ _ hi => exact hkeep (by rw [hi]) (by rw [hi])
    | correction _ _ _ hi => exact hkeep (by rw [hi]; rfl) (by rw [hi]; rfl)
    | duplicate _ hi | outOfOrder _ hi => exact hkeep (by rw [hi]) (by rw [hi])

theorem buffered_admission (h : admitForwardEvent sha256 s event o = .ok r) {x : ForwardSeenEvent}
    (hx : x ∈ r.state.seenEvents) (hb : x.eventId ∈ r.state.checkpoint.bufferedEventIds) :
    x ∈ s.seenEvents ∧ x.eventId ∈ s.checkpoint.bufferedEventIds ∨ x = event.seen sha256 := by
  cases admitForwardEvent_cases h with
  | conflict _ _ hrs | replay _ _ _ hrs | reject _ _ _ hrs => exact .inl ⟨hrs ▸ hx, hrs ▸ hb⟩
  | applied hopen _ happ _ _ hseen =>
    rcases (hseen x).1 hx with hx | ⟨-, rfl⟩
    · refine .inl ⟨hx, ?_⟩
      cases applyCheckpointObservation_cases happ with
      | same _ hc => rwa [hc] at hb
      | accepted _ _ _ _ _ hbuf => rw [hbuf] at hb; exact Finset.mem_of_mem_erase hb
      | gap _ _ _ _ hbuf =>
        rw [hbuf, Finset.mem_insert] at hb
        rcases hb with hid | hb
        · rcases hopen with hnew | ⟨-, hold⟩
          · exact absurd (mem_seenIds.2 ⟨x, hx, hid⟩) hnew
          · exact hid ▸ hold
        · exact hb
      | correction _ _ _ _ _ hbuf | duplicate _ _ _ hbuf | outOfOrder _ _ _ hbuf => rwa [hbuf] at hb
    · exact .inr rfl

end

/-! ## What the calls write -/

section
variable {rows rows' : ForwardRows} {s next : ForwardLiveAdmissionState}
  {event : CanonicalForwardEvent} {o : ForwardEventObservation}
  {command : Option ForwardCorrectionCommand} {r : ForwardEventTransactionResolution}
  {plan : Option CounterfactualReplayPlan}

theorem insertSeenEvents_spec {es : List ForwardSeenEvent}
    (h : insertSeenEvents sha256 ownerId instanceId es rows = .ok rows') :
    rows' = { rows with
      seenRows := rows.seenRows ++ es.map (seenValues sha256 ownerId instanceId) } := by
  induction es generalizing rows with
  | nil =>
    obtain rfl := Except.ok.inj h
    simp
  | cons e es ih =>
    obtain ⟨rows₁, h₁, h⟩ := bind_eq_ok.1 h
    obtain ⟨seenRows, hseen, h₁⟩ := bind_eq_ok.1 h₁
    obtain ⟨-, rfl⟩ := insertNew_eq_some.1 (orRaise_eq_ok.1 hseen)
    obtain rfl := Except.ok.inj h₁
    rw [ih h]
    simp

theorem perm_newSeenEvents (hmono : ∀ x ∈ s.seenEvents, x ∈ next.seenEvents) :
    (s.seenEvents ++ newSeenEvents s next).Perm next.seenEvents := by
  have hs : s.seenEvents.Nodup := (nodup_seenEvents s).of_map _
  have hnext : next.seenEvents.Nodup := (nodup_seenEvents next).of_map _
  have hnew : (newSeenEvents s next).Nodup := hnext.filter _
  have hdisj : List.Disjoint s.seenEvents (newSeenEvents s next) := by
    intro x hx hnew
    rw [newSeenEvents, mem_filter, decide_eq_true_eq] at hnew
    exact hnew.2 (mem_seenIds.2 ⟨x, hx, rfl⟩)
  rw [perm_ext_iff_of_nodup (hs.append hnew hdisj) hnext]
  intro x
  rw [mem_append, newSeenEvents, mem_filter, decide_eq_true_eq]
  constructor
  · rintro (hx | ⟨hx, -⟩)
    · exact hmono x hx
    · exact hx
  · intro hx
    by_cases hid : x.eventId ∈ s.seenIds
    · obtain ⟨y, hy, hyid⟩ := mem_seenIds.1 hid
      exact .inl (seenEvent_unique (hmono y hy) hx hyid ▸ hy)
    · exact .inr ⟨hx, hid⟩

theorem persistState_stored (hst : Stored sha256 ownerId rows s)
    (hid : s.checkpoint.instance_.instanceId = instanceId)
    (hwarm : next.warmupReceiptFingerprint = s.warmupReceiptFingerprint)
    (hmono : ∀ x ∈ s.seenEvents, x ∈ next.seenEvents) (hk : Known next)
    (hc : cursorSeen next.checkpoint.instance_ next.seenEvents)
    (h : persistState sha256 ownerId instanceId s.checkpoint s next rows = .ok rows') :
    Stored sha256 ownerId rows' next ∧
      next.checkpoint.instance_.instanceId = s.checkpoint.instance_.instanceId := by
  obtain ⟨rows₁, hup, h⟩ := bind_eq_ok.1 h
  obtain ⟨hidn, history, rfl⟩ := updateInstance_spec hup
  obtain rfl := insertSeenEvents_spec h
  obtain ⟨w, hw, hwid, hwfp, hwseen⟩ := hst.warmupRow
  refine ⟨⟨rfl, ⟨w, hw, hwid.trans hidn.symm, hwfp.trans hwarm.symm, ?_⟩, ?_, hk, hc⟩, hidn⟩
  · intro id hid
    obtain ⟨x, hx, hxid, hxfp⟩ := hwseen id hid
    exact ⟨x, hmono x hx, hxid, hxfp⟩
  · refine (hst.seenRows.append_right _).trans ?_
    rw [hid, hidn, hid, ← map_append]
    exact (perm_newSeenEvents hmono).map _

theorem admit_spec {r : ForwardAdmissionResolution} (hst : Stored sha256 ownerId rows s)
    (hl : loadLiveState sha256 ownerId instanceId rows = .ok (some s))
    (h : admitEvent sha256 ownerId instanceId event o rows = .ok (r, rows')) :
    admitForwardEvent sha256 s event o = .ok r ∧
      (r.state = s ∧ rows' = rows ∨
        persistState sha256 ownerId s.checkpoint.instance_.instanceId s.checkpoint s r.state rows =
          .ok rows') := by
  obtain ⟨-, -, h⟩ := bind_eq_ok.1 h
  rw [hl, ok_bind] at h
  obtain ⟨r', hr, h⟩ := bind_eq_ok.1 h
  dsimp only at h
  split_ifs at h with hs
  · obtain ⟨rfl, rfl⟩ := Prod.mk.inj (Except.ok.inj h)
    exact ⟨hr, .inl ⟨hs, rfl⟩⟩
  · rw [loadCheckpoint_values hst.instanceRow, ok_bind] at h
    obtain ⟨rows₁, hp, h⟩ := bind_eq_ok.1 h
    obtain ⟨rfl, rfl⟩ := Prod.mk.inj (Except.ok.inj h)
    exact ⟨hr, .inr hp⟩

theorem insertReplay_frame {p : CounterfactualReplayPlan}
    (h : insertReplay sha256 ownerId p rows = .ok rows') :
    ∃ replays, rows' = { rows with replayRows := replays } := by
  obtain ⟨replays, -, h⟩ := bind_eq_ok.1 h
  exact ⟨replays, (Except.ok.inj h).symm⟩

theorem transact_spec (hl : loadLiveState sha256 ownerId instanceId rows = .ok (some s))
    (h : transact sha256 ownerId instanceId event o command rows = .ok (r, rows')) :
    ∃ plans rows₁ replays, resolveForwardEventTransaction sha256 s event o command
        (existingReplayPlan sha256 s command plans) = .ok r ∧
      (r.state = s ∧ rows₁ = rows ∨
        persistState sha256 ownerId instanceId s.checkpoint s r.state rows = .ok rows₁) ∧
      rows' = { rows₁ with replayRows := replays } := by
  obtain ⟨-, -, h⟩ := bind_eq_ok.1 h
  rw [hl, ok_bind] at h
  obtain ⟨plans, -, h⟩ := bind_eq_ok.1 h
  obtain ⟨r', hr, h⟩ := bind_eq_ok.1 h
  obtain ⟨rows₁, hrows, h⟩ := bind_eq_ok.1 h
  have hstate : r'.state = s ∧ rows₁ = rows ∨
      persistState sha256 ownerId instanceId s.checkpoint s r'.state rows = .ok rows₁ := by
    unfold stageState at hrows
    split_ifs at hrows with hs
    · exact .inl ⟨hs, (Except.ok.inj hrows).symm⟩
    · exact .inr hrows
  split at h
  · split_ifs at h
    · obtain ⟨rows₂, hrep, h⟩ := bind_eq_ok.1 h
      obtain ⟨rfl, rfl⟩ := Prod.mk.inj (Except.ok.inj h)
      obtain ⟨replays, rfl⟩ := insertReplay_frame hrep
      exact ⟨plans, rows₁, replays, hr, hstate, rfl⟩
    · obtain ⟨rfl, rfl⟩ := Prod.mk.inj (Except.ok.inj h)
      exact ⟨plans, rows₁, rows₁.replayRows, hr, hstate, rfl⟩
  · obtain ⟨rfl, rfl⟩ := Prod.mk.inj (Except.ok.inj h)
    exact ⟨plans, rows₁, rows₁.replayRows, hr, hstate, rfl⟩

theorem transaction_state
    (h : resolveForwardEventTransaction sha256 s event o command plan = .ok r) :
    r.state = s ∨ ∃ a, admitForwardEvent sha256 s event o = .ok a ∧ r.state = a.state := by
  cases resolveForwardEventTransaction_cases h with
  | refused _ hs => exact .inl hs
  | ordinary _ ha _ hs | planned _ _ _ ha _ _ _ hs | replayed _ _ _ _ ha _ _ _ hs =>
    exact .inr ⟨_, ha, hs⟩

theorem transaction_late (hl : LateArrival s event o)
    (h : resolveForwardEventTransaction sha256 s event o none none = .ok r) :
    ∃ a, admitForwardEvent sha256 s event o = .ok a ∧ r.state = a.state := by
  have hd : o.disposition ≠ .correction := by rw [hl.2.1]; decide
  rw [resolveForwardEventTransaction, if_neg hd, if_neg (by simp)] at h
  obtain ⟨a, ha, h⟩ := bind_eq_ok.1 h
  have hdec := decision_of_late hl ha
  simp only [hdec] at h
  exact ⟨a, ha, (ordinaryTransaction_eq_ok h).2.1⟩

theorem transaction_command_late {c : ForwardCorrectionCommand} (hd : o.disposition = .outOfOrder)
    (h : resolveForwardEventTransaction sha256 s event o (some c) plan = .ok r) : r.state = s := by
  have hne : o.disposition ≠ .correction := by rw [hd]; decide
  rw [resolveForwardEventTransaction, if_neg hne, if_pos (.inl rfl)] at h
  obtain rfl := Except.ok.inj h
  rfl

end

/-! ## Writes that succeed -/

section
variable {rows : ForwardRows} {s next : ForwardLiveAdmissionState}
  {cs : List ForwardStateCheckpoint} {event : CanonicalForwardEvent} {o : ForwardEventObservation}
  {r : ForwardAdmissionResolution}

theorem insertSeenEvents_of {es : List ForwardSeenEvent}
    (hn : (rows.seenRows.map SeenRow.eventId ++ es.map ForwardSeenEvent.eventId).Nodup) :
    insertSeenEvents sha256 ownerId instanceId es rows = .ok { rows with
      seenRows := rows.seenRows ++ es.map (seenValues sha256 ownerId instanceId) } := by
  induction es generalizing rows with
  | nil => simp [insertSeenEvents]
  | cons e es ih =>
    have hnew : e.eventId ∉ rows.seenRows.map SeenRow.eventId := by
      intro hmem
      exact disjoint_of_nodup_append hn hmem (by simp)
    have hins : insertNew SeenRow.eventId (seenValues sha256 ownerId instanceId e) rows.seenRows =
        some (rows.seenRows ++ [seenValues sha256 ownerId instanceId e]) :=
      insertNew_eq_some.2 ⟨hnew, rfl⟩
    rw [insertSeenEvents, insertSeenEvent, hins, orRaise, ok_bind, pure_eq_ok, ok_bind, ih]
    · simp
    · simpa [seenValues] using hn

/-- **A change of state can be committed** unless its checkpoint was archived before. -/
theorem persistState_of (hst : Stored sha256 ownerId rows s)
    (hid : s.checkpoint.instance_.instanceId = instanceId)
    (hlink : Linked sha256 ownerId instanceId rows.historyRows cs) (hcur : s.checkpoint ∈ cs)
    (hidn : next.checkpoint.instance_.instanceId = s.checkpoint.instance_.instanceId)
    (hgrow : CountersGrow (some s.checkpoint) next.checkpoint)
    (hnew : next.checkpoint.fingerprint sha256 ∉ cs.map (·.fingerprint sha256)) :
    ∃ rows', persistState sha256 ownerId instanceId s.checkpoint s next rows = .ok rows' ∧
      Linked sha256 ownerId instanceId rows'.historyRows (cs ++ [next.checkpoint]) := by
  obtain ⟨history, hup, hlink'⟩ :=
    updateInstance_of next.checkpoint (hid ▸ hlink) hcur hst.instanceRow hidn hgrow hnew
  have hids : (rows.seenRows.map SeenRow.eventId).Perm
      (s.seenEvents.map ForwardSeenEvent.eventId) := by
    have := hst.seenRows.map SeenRow.eventId
    rwa [map_map] at this
  have hn : (rows.seenRows.map SeenRow.eventId ++
      (newSeenEvents s next).map ForwardSeenEvent.eventId).Nodup := by
    refine List.Nodup.append (hids.nodup_iff.2 (nodup_seenEvents s))
      ((nodup_seenEvents next).sublist (List.Sublist.map _ filter_sublist)) ?_
    intro id hold hid'
    obtain ⟨x, hx, rfl⟩ := mem_map.1 hid'
    rw [newSeenEvents, mem_filter, decide_eq_true_eq] at hx
    exact hx.2 (mem_toFinset.2 (hids.mem_iff.1 hold))
  rw [persistState, hup, ok_bind]
  exact ⟨_, insertSeenEvents_of hn, hid ▸ hlink'⟩

theorem CheckpointStep.countersGrow {c c' : ForwardStateCheckpoint} (h : CheckpointStep c event o c') :
    CountersGrow (some c) c' := by
  rw [CountersGrow, Option.elim_some, Option.elim_some]
  cases h with
  | same _ hc => rw [hc]; exact ⟨le_rfl, le_rfl⟩
  | accepted _ _ _ _ _ _ _ hdup hlate | gap _ _ _ _ _ _ hdup hlate
  | correction _ _ _ _ _ _ _ hdup hlate => exact ⟨hdup.ge, hlate.ge⟩
  | duplicate _ _ _ _ _ hdup hlate => exact ⟨by omega, hlate.ge⟩
  | outOfOrder _ _ _ _ _ hdup hlate => exact ⟨hdup.ge, by omega⟩

theorem countersGrow_admission (h : admitForwardEvent sha256 s event o = .ok r) :
    CountersGrow (some s.checkpoint) r.state.checkpoint := by
  cases admitForwardEvent_cases h with
  | conflict _ _ hs | replay _ _ _ hs | reject _ _ _ hs => rw [hs]; exact ⟨le_rfl, le_rfl⟩
  | applied _ _ happ => exact (applyCheckpointObservation_cases happ).countersGrow

theorem admit_of (hst : Stored sha256 ownerId rows s) (hs : Settled s)
    (hid : s.checkpoint.instance_.instanceId = instanceId)
    (hlink : Linked sha256 ownerId instanceId rows.historyRows cs) (hcur : s.checkpoint ∈ cs)
    (hr : admitForwardEvent sha256 s event o = .ok r)
    (hnew : r.state.checkpoint.fingerprint sha256 ∉ cs.map (·.fingerprint sha256)) :
    ∃ rows', admitEvent sha256 ownerId instanceId event o rows = .ok (r, rows') := by
  have hload := (loadLiveState_iff hst).2 hs
  have hcheck := loadCheckpoint_values hst.instanceRow
  obtain ⟨rows', hp, -⟩ := persistState_of hst hid hlink hcur (identity_admission hr).1
    (countersGrow_admission hr) hnew
  have hne : r.state ≠ s := by
    intro heq
    exact hnew (heq ▸ mem_map_of_mem hcur)
  have hblank : notBlank instanceId = true := hid ▸ s.checkpoint.instance_.instanceId_notBlank
  rw [hid] at hload hcheck
  refine ⟨rows', ?_⟩
  rw [admitEvent, ensure_of hblank, ok_bind, hload, ok_bind]
  simp only [hr, if_neg hne, hid, hcheck, hp, ok_bind, pure_eq_ok]

end

/-! ## Calls and runs -/

inductive StoreAnswer where
  | admitted (res : ForwardAdmissionResolution)
  | transacted (command : Option ForwardCorrectionCommand) (res : ForwardEventTransactionResolution)

/-- `resolution.state`. -/
def StoreAnswer.state : StoreAnswer → ForwardLiveAdmissionState
  | .admitted res => res.state
  | .transacted _ res => res.state

def StoreAnswer.command : StoreAnswer → Option ForwardCorrectionCommand
  | .admitted _ => none
  | .transacted command _ => command

/-- One call of `admit` or `transact` that returned, with the state it loaded. -/
structure StoreCall where
  loaded : ForwardLiveAdmissionState
  event : CanonicalForwardEvent
  observation : ForwardEventObservation
  answer : StoreAnswer

/-- The call returns so on `rows` and commits `rows'`. -/
def Stores (sha256 : String → Digest) (ownerId instanceId : String) (rows : ForwardRows)
    (c : StoreCall) (rows' : ForwardRows) : Prop :=
  loadLiveState sha256 ownerId instanceId rows = .ok (some c.loaded) ∧
    match c.answer with
    | .admitted res =>
      admitEvent sha256 ownerId instanceId c.event c.observation rows = .ok (res, rows')
    | .transacted command res =>
      transact sha256 ownerId instanceId c.event c.observation command rows = .ok (res, rows')

def StoreCall.Late (c : StoreCall) : Prop :=
  c.answer.command = none ∧ LateArrival c.loaded c.event c.observation

def lastState (s₀ : ForwardLiveAdmissionState) (cs : List StoreCall) : ForwardLiveAdmissionState :=
  (cs.getLast?.map fun c => c.answer.state).getD s₀

inductive PrepareCall where
  | ensure (i : ForwardInstance)
  | transition (target : ForwardState) (now : Instant) (idempotencyKey : String)

/-- The call returns on `rows` and commits `rows'`. -/
def Prepares (sha256 : String → Digest) (ownerId instanceId : String) (rows : ForwardRows)
    (c : PrepareCall) (rows' : ForwardRows) : Prop :=
  match c with
  | .ensure i => i.instanceId = instanceId ∧
    ∃ res, ensureInstance sha256 ownerId i rows = .ok (res, rows')
  | .transition target now key =>
    ∃ res, transition sha256 ownerId instanceId target now key rows = .ok (res, rows')

/-- The instance was prepared from empty tables and warmed up; `s` is the state it goes live in. -/
def Installed (sha256 : String → Digest) (ownerId instanceId : String) (rows : ForwardRows)
    (s : ForwardLiveAdmissionState) : Prop :=
  ∃ cs rows₀ receipt res, Run (Prepares sha256 ownerId instanceId) {} cs rows₀ ∧
    receipt.instanceId = instanceId ∧
    completeWarmup sha256 ownerId receipt rows₀ = .ok (res, rows) ∧ res.decision = .complete ∧
    fromWarmup sha256 res.instance_ receipt = .ok s

/-! ## What a call does -/

section
variable {rows rows' : ForwardRows} {s t : ForwardLiveAdmissionState}
  {event : CanonicalForwardEvent} {o : ForwardEventObservation} {c : StoreCall}

/-- `t` is `s` or the state after the admission of the event. -/
def Moves (sha256 : String → Digest) (s : ForwardLiveAdmissionState)
    (event : CanonicalForwardEvent) (o : ForwardEventObservation)
    (t : ForwardLiveAdmissionState) : Prop :=
  t = s ∨ ∃ a, admitForwardEvent sha256 s event o = .ok a ∧ t = a.state

theorem stored_move (hst : Stored sha256 ownerId rows s)
    (hid : s.checkpoint.instance_.instanceId = instanceId) (hfit : BufferedFits sha256 s event)
    (hmove : Moves sha256 s event o t)
    (hrows : t = s ∧ rows' = rows ∨
      persistState sha256 ownerId instanceId s.checkpoint s t rows = .ok rows') :
    Stored sha256 ownerId rows' t ∧ t.checkpoint.instance_.instanceId = instanceId := by
  rcases hrows with ⟨rfl, rfl⟩ | hp
  · exact ⟨hst, hid⟩
  · rcases hmove with rfl | ⟨a, ha, rfl⟩
    · obtain ⟨h₁, h₂⟩ := persistState_stored hst hid rfl (fun _ hx => hx) hst.known hst.cursor hp
      exact ⟨h₁, h₂.trans hid⟩
    · obtain ⟨h₁, h₂⟩ := persistState_stored hst hid (identity_admission ha).2 (seen_mono ha)
        (known_step ha hst.known) (cursorSeen_admission hst.cursor hfit ha) hp
      exact ⟨h₁, h₂.trans hid⟩

theorem settled_transact {command : Option ForwardCorrectionCommand}
    {plans : List CounterfactualReplayPlan} {r : ForwardEventTransactionResolution} (hk : Known s)
    (hs : Settled s)
    (h : resolveForwardEventTransaction sha256 s event o command
      (existingReplayPlan sha256 s command plans) = .ok r) :
    Settled r.state ↔ ¬ (command = none ∧ LateArrival s event o) := by
  have hmoved : ¬ LateArrival s event o → Settled r.state := by
    intro hl
    rcases transaction_state h with hrs | ⟨a, ha, hrs⟩
    · exact hrs ▸ hs
    · exact hrs ▸ (settled_admission hk hs ha).2 hl
  cases command with
  | none =>
    by_cases hl : LateArrival s event o
    · obtain ⟨a, ha, hrs⟩ := transaction_late hl h
      rw [hrs, settled_admission hk hs ha]
      simp
    · exact iff_of_true (hmoved hl) fun h => hl h.2
  | some c =>
    refine iff_of_true ?_ (by simp)
    by_cases hl : LateArrival s event o
    · exact transaction_command_late hl.2.1 h ▸ hs
    · exact hmoved hl

theorem stores_spec (hst : Stored sha256 ownerId rows s)
    (hid : s.checkpoint.instance_.instanceId = instanceId)
    (h : Stores sha256 ownerId instanceId rows c rows') :
    c.loaded = s ∧ Settled s ∧ Moves sha256 s c.event c.observation c.answer.state ∧
      (∃ rows₁ replays, (c.answer.state = s ∧ rows₁ = rows ∨
          persistState sha256 ownerId instanceId s.checkpoint s c.answer.state rows = .ok rows₁) ∧
        rows' = { rows₁ with replayRows := replays }) ∧
      (Settled c.answer.state ↔ ¬ c.Late) := by
  obtain ⟨hl, h⟩ := h
  obtain ⟨hloaded, hs⟩ := loaded_eq_stored hst (hid ▸ hl)
  rw [hloaded] at hl
  refine ⟨hloaded, hs, ?_⟩
  obtain ⟨loaded, event, o, answer⟩ := c
  dsimp only at hloaded
  subst hloaded
  cases answer with
  | admitted res =>
    obtain ⟨hr, hrows⟩ := admit_spec hst hl h
    refine ⟨.inr ⟨res, hr, rfl⟩, ⟨rows', rows'.replayRows, ?_, rfl⟩, ?_⟩
    · rwa [hid] at hrows
    · rw [StoreCall.Late, StoreAnswer.state, settled_admission hst.known hs hr]
      simp [StoreAnswer.command]
  | transacted command res =>
    obtain ⟨plans, rows₁, replays, hr, hrows, hrows'⟩ := transact_spec hl h
    exact ⟨transaction_state hr, ⟨rows₁, replays, hrows, hrows'⟩,
      settled_transact hst.known hs hr⟩

theorem Stored.of_replays (h : Stored sha256 ownerId rows s) (replays : List ReplayRow) :
    Stored sha256 ownerId { rows with replayRows := replays } s :=
  ⟨h.instanceRow, h.warmupRow, h.seenRows, h.known, h.cursor⟩

end

/-! ## Installing -/

section
variable {rows rows' : ForwardRows} {s : ForwardLiveAdmissionState} {r w : ForwardWarmupReceipt}

theorem insertTransition_seenRows {t : ForwardCheckpointTransition}
    (h : insertCheckpointTransition sha256 ownerId t rows = .ok rows') :
    rows'.seenRows = rows.seenRows := by
  obtain ⟨history, rfl⟩ := insertTransition_frame h
  rfl

theorem insertLifecycleRequest_frame {row : LifecycleRow}
    (h : insertLifecycleRequest row rows = .ok rows') :
    ∃ lifecycle, rows' = { rows with lifecycleRows := lifecycle } := by
  obtain ⟨lifecycle, -, h⟩ := bind_eq_ok.1 h
  exact ⟨lifecycle, (Except.ok.inj h).symm⟩

theorem prepares_seenRows {c : PrepareCall} (h : Prepares sha256 ownerId instanceId rows c rows')
    (hs : rows.seenRows = []) : rows'.seenRows = [] := by
  cases c with
  | ensure i =>
    obtain ⟨-, res, h⟩ := h
    obtain ⟨c, -, h⟩ := bind_eq_ok.1 h
    obtain ⟨current, -, h⟩ := bind_eq_ok.1 h
    cases current with
    | some current =>
      dsimp only at h
      split_ifs at h
      · obtain ⟨-, rfl⟩ := Prod.mk.inj (Except.ok.inj h)
        exact hs
      · obtain ⟨-, rfl⟩ := Prod.mk.inj (Except.ok.inj h)
        exact hs
    | none =>
      obtain ⟨rows₁, hins, h⟩ := bind_eq_ok.1 h
      obtain ⟨-, rfl⟩ := Prod.mk.inj (Except.ok.inj h)
      obtain ⟨-, -, hins⟩ := bind_eq_ok.1 hins
      obtain ⟨t, -, hins⟩ := bind_eq_ok.1 hins
      exact (insertTransition_seenRows hins).trans hs
  | transition target now key =>
    obtain ⟨res, h⟩ := h
    obtain ⟨-, -, h⟩ := bind_eq_ok.1 h
    obtain ⟨normalized, -, h⟩ := bind_eq_ok.1 h
    obtain ⟨current, -, h⟩ := bind_eq_ok.1 h
    cases current with
    | none =>
      obtain ⟨-, rfl⟩ := Prod.mk.inj (Except.ok.inj h)
      exact hs
    | some c =>
      obtain ⟨existing, -, h⟩ := bind_eq_ok.1 h
      cases existing with
      | some e =>
        dsimp only at h
        split_ifs at h
        · obtain ⟨-, rfl⟩ := Prod.mk.inj (Except.ok.inj h)
          exact hs
        · obtain ⟨-, rfl⟩ := Prod.mk.inj (Except.ok.inj h)
          exact hs
      | none =>
        dsimp only at h
        split_ifs at h
        · obtain ⟨rows₁, hins, h⟩ := bind_eq_ok.1 h
          obtain ⟨-, rfl⟩ := Prod.mk.inj (Except.ok.inj h)
          obtain ⟨lifecycle, rfl⟩ := insertLifecycleRequest_frame hins
          exact hs
        · split at h
          · obtain ⟨-, rfl⟩ := Prod.mk.inj (Except.ok.inj h)
            exact hs
          · obtain ⟨rows₁, hmove, h⟩ := bind_eq_ok.1 h
            obtain ⟨rows₂, hins, h⟩ := bind_eq_ok.1 h
            obtain ⟨-, rfl⟩ := Prod.mk.inj (Except.ok.inj h)
            obtain ⟨lifecycle, rfl⟩ := insertLifecycleRequest_frame hins
            obtain ⟨next, -, hmove⟩ := bind_eq_ok.1 hmove
            obtain ⟨-, history, rfl⟩ := updateInstance_spec hmove
            exact hs

theorem resolveForwardWarmup_complete {i : ForwardInstance} {existing : Option ForwardWarmupReceipt}
    (h : (resolveForwardWarmup sha256 i r existing).decision = .complete) :
    (resolveForwardWarmup sha256 i r existing).receipt = some r := by
  unfold resolveForwardWarmup at h ⊢
  cases existing with
  | some e =>
    dsimp only at h
    split_ifs at h
  | none =>
    dsimp only at h ⊢
    split_ifs <;> rfl

theorem completeWarmup_spec {res : ForwardWarmupResolution}
    (h : completeWarmup sha256 ownerId r rows = .ok (res, rows')) (hd : res.decision = .complete)
    (hs : fromWarmup sha256 res.instance_ r = .ok s) :
    ∃ history, rows' = { rows with
      instanceRow := some (checkpointValues sha256 ownerId s.checkpoint)
      warmupRow := some (receiptValues sha256 ownerId r)
      seenRows := rows.seenRows ++ r.seen.map (seenValues sha256 ownerId r.instanceId)
      historyRows := history } := by
  obtain ⟨current, -, h⟩ := bind_eq_ok.1 h
  cases current with
  | none => cases h
  | some c =>
    obtain ⟨existing, -, h⟩ := bind_eq_ok.1 h
    dsimp only at h
    split_ifs at h with hc
    · rw [resolveForwardWarmup_complete hc] at h
      obtain ⟨t, ht, h⟩ := bind_eq_ok.1 h
      obtain ⟨rows₁, hup, h⟩ := bind_eq_ok.1 h
      obtain ⟨rows₂, hins, h⟩ := bind_eq_ok.1 h
      obtain ⟨rfl, rfl⟩ := Prod.mk.inj (Except.ok.inj h)
      obtain rfl := Except.ok.inj (ht.symm.trans hs)
      obtain ⟨-, history, rfl⟩ := updateInstance_spec hup
      obtain ⟨-, -, hins⟩ := bind_eq_ok.1 hins
      exact ⟨history, insertSeenEvents_spec hins⟩
    · obtain ⟨rfl, -⟩ := Prod.mk.inj (Except.ok.inj h)
      exact absurd hd hc

theorem insertWarmup_of (hwarm : rows.warmupRow = none)
    (hseen : rows.seenRows = []) :
    insertWarmup sha256 ownerId r rows = .ok { rows with
      warmupRow := some (receiptValues sha256 ownerId r)
      seenRows := r.seen.map (seenValues sha256 ownerId r.instanceId) } := by
  have hone : (r.seen.map ForwardSeenEvent.eventId).Nodup := by
    unfold ForwardWarmupReceipt.seen
    split
    · exact nodup_singleton _
    · exact nodup_nil
  rw [insertWarmup, ensure_of hwarm, ok_bind, insertSeenEvents_of]
  · simp [hseen]
  · simpa [hseen] using hone

theorem completeWarmup_of {c : ForwardStateCheckpoint}
    {rows₁ : ForwardRows} (hcheck : loadCheckpoint sha256 ownerId r.instanceId rows = .ok (some c))
    (hwarm : rows.warmupRow = none)
    (hd : (resolveForwardWarmup sha256 c.instance_ r none).decision = .complete)
    (hs : fromWarmup sha256 (resolveForwardWarmup sha256 c.instance_ r none).instance_ r = .ok s)
    (hup : updateInstance sha256 ownerId c s.checkpoint rows = .ok rows₁)
    (hwarm₁ : rows₁.warmupRow = none) (hseen₁ : rows₁.seenRows = []) :
    ∃ rows', completeWarmup sha256 ownerId r rows =
        .ok (resolveForwardWarmup sha256 c.instance_ r none, rows') ∧
      rows'.historyRows = rows₁.historyRows := by
  have hload : loadWarmup sha256 ownerId r.instanceId rows = .ok none := by
    rw [loadWarmup, hwarm]
  rw [completeWarmup, hcheck, ok_bind]
  simp only [hload, hd, if_true, resolveForwardWarmup_complete hd, hs, hup, ok_bind,
    insertWarmup_of hwarm₁ hseen₁]
  exact ⟨_, rfl, rfl⟩

theorem warmupSeen_spec {id : String} (h : w.finalEventId = some id) :
    ∃ x ∈ w.seen, x.eventId = id ∧ x.sequence = w.finalEventSequence ∧
      some x.eventFingerprint = w.finalEventFingerprint := by
  have hfp := w.fingerprint_iff
  rw [h, Option.isSome_some, Option.isSome_iff_exists] at hfp
  obtain ⟨fp, hfp⟩ := hfp
  unfold ForwardWarmupReceipt.seen
  split
  · next id' fp' h' hfp' =>
    obtain rfl := Option.some.inj (h'.symm.trans h)
    exact ⟨_, mem_singleton.2 rfl, rfl, rfl, hfp'.symm⟩
  · next hne => exact absurd hfp (hne id fp h)

theorem mem_seen_warmup {x : ForwardSeenEvent} (h : x ∈ w.seen) :
    w.finalEventId = some x.eventId := by
  unfold ForwardWarmupReceipt.seen at h
  split at h
  · next id fp h' _ =>
    obtain rfl := mem_singleton.1 h
    exact h'
  · cases h

theorem stored_installed (h : Installed sha256 ownerId instanceId rows s) :
    Stored sha256 ownerId rows s ∧ Settled s ∧
      s.checkpoint.instance_.instanceId = instanceId ∧ s.checkpoint.bufferedEventIds = ∅ := by
  obtain ⟨cs, rows₀, w, res, hrun, hwid, hwarm, hd, hs⟩ := h
  have hempty : rows₀.seenRows = [] :=
    hrun.invariant (P := fun rows => rows.seenRows = []) (fun hs hstep => prepares_seenRows hstep hs)
      rfl
  obtain ⟨history, rfl⟩ := completeWarmup_spec hwarm hd hs
  obtain ⟨hi, hproc, hbuf, -, hseen, hwfp, hlast, hseq, hid⟩ := fromWarmup_spec hs
  have hmem : ∀ {x}, x ∈ w.seen → x ∈ s.seenEvents := by
    intro x hx
    rw [hseen]
    exact (mem_sortBy _).2 hx
  refine ⟨⟨rfl, ⟨w, rfl, hid.trans (congrArg _ hi.symm), hwfp.symm, ?_⟩, ?_,
    known_fromWarmup hs, ?_⟩, ?_, ?_, hbuf⟩
  · intro id hfinal
    obtain ⟨x, hx, hxid, -, hxfp⟩ := warmupSeen_spec hfinal
    exact ⟨x, hmem hx, hxid, hxfp⟩
  · rw [hempty, nil_append, hi, ← hid, hseen]
    exact (perm_sortBy _ _).symm.map _
  · intro id hcur
    rw [hi, ← hlast] at hcur
    obtain ⟨x, hx, hxid, hxseq, -⟩ := warmupSeen_spec hcur
    exact ⟨x, hmem hx, hxid, by rw [hxseq, hseq, hi]⟩
  · intro id hseenid
    obtain ⟨x, hx, rfl⟩ := mem_seenIds.1 hseenid
    rw [hseen, mem_sortBy] at hx
    simp [ForwardStateCheckpoint.ids, hproc, mem_seen_warmup hx]
  · rw [hi, ← hid, hwid]

end

/-! ## Runs -/

/-- What holds of the rows after the calls `cs`. -/
structure StoreInvariant (sha256 : String → Digest) (ownerId instanceId : String)
    (cs : List StoreCall) (rows : ForwardRows) (s : ForwardLiveAdmissionState) : Prop where
  stored : Stored sha256 ownerId rows s
  identity : s.checkpoint.instance_.instanceId = instanceId
  /-- What is buffered was admitted by one of the calls. -/
  buffered : ∀ x ∈ s.seenEvents, x.eventId ∈ s.checkpoint.bufferedEventIds →
    ∃ c ∈ cs, x = c.event.seen sha256

/-- No two events of the calls share a fingerprint. -/
def NoCollision (sha256 : String → Digest) (cs : List StoreCall) : Prop :=
  ∀ c ∈ cs, ∀ d ∈ cs, c.event.fingerprint sha256 = d.event.fingerprint sha256 → c.event = d.event

section
variable {rows₀ rows : ForwardRows} {s₀ : ForwardLiveAdmissionState} {cs : List StoreCall}

theorem lastState_snoc (s₀ : ForwardLiveAdmissionState) (cs : List StoreCall) (c : StoreCall) :
    lastState s₀ (cs ++ [c]) = c.answer.state := by
  simp [lastState]

theorem storeInvariant_run (h₀ : Installed sha256 ownerId instanceId rows₀ s₀)
    (h : Run (Stores sha256 ownerId instanceId) rows₀ cs rows) (hn : NoCollision sha256 cs) :
    StoreInvariant sha256 ownerId instanceId cs rows (lastState s₀ cs) ∧
      (Settled (lastState s₀ cs) ↔ ∀ c ∈ cs, ¬ c.Late) := by
  obtain ⟨hst, hs, hid, hbuf⟩ := stored_installed h₀
  induction h with
  | nil =>
    refine ⟨⟨hst, hid, ?_⟩, iff_of_true hs (by simp)⟩
    intro x _ hx
    rw [show lastState s₀ [] = s₀ from rfl, hbuf] at hx
    exact absurd hx (Finset.notMem_empty _)
  | @snoc t u cs c _ hc ih =>
    obtain ⟨⟨hst, hid, hbuf⟩, hset⟩ := ih fun c hc d hd =>
      hn c (mem_append_left _ hc) d (mem_append_left _ hd)
    obtain ⟨-, hs, hmove, ⟨rows₁, replays, hrows, rfl⟩, hlate⟩ := stores_spec hst hid hc
    have hfit : BufferedFits sha256 (lastState s₀ cs) c.event := by
      intro x hx _ hxb hxfp
      obtain ⟨d, hd, rfl⟩ := hbuf x hx hxb
      rw [fingerprint_seen] at hxfp
      have heq : d.event = c.event := hn d (mem_append_left _ hd) c (by simp) hxfp
      rw [heq, CanonicalForwardEvent.seen]
    obtain ⟨hst', hid'⟩ := stored_move hst hid hfit hmove hrows
    rw [lastState_snoc]
    refine ⟨⟨hst'.of_replays replays, hid', ?_⟩, ?_⟩
    · intro x hx hxb
      rcases hmove with hs' | ⟨a, ha, hs'⟩
      · rw [hs'] at hx hxb
        obtain ⟨d, hd, hxd⟩ := hbuf x hx hxb
        exact ⟨d, mem_append_left _ hd, hxd⟩
      · rw [hs'] at hx hxb
        rcases buffered_admission ha hx hxb with ⟨hx, hxb⟩ | hxe
        · obtain ⟨d, hd, hxd⟩ := hbuf x hx hxb
          exact ⟨d, mem_append_left _ hd, hxd⟩
        · exact ⟨c, by simp, hxe⟩
    · rw [hlate]
      constructor
      · intro hnot d hd
        rcases mem_append.1 hd with hd | hd
        · exact hset.1 hs d hd
        · exact mem_singleton.1 hd ▸ hnot
      · exact fun hall => hall c (by simp)

/-- **Round trip of the forward-state store.**  For every installed instance and all calls of
    `admit` and `transact` that return, on events without digest collisions: the next load
    returns the state of the last answer exactly when no call admitted a late arrival. -/
theorem store_run (h₀ : Installed sha256 ownerId instanceId rows₀ s₀)
    (h : Run (Stores sha256 ownerId instanceId) rows₀ cs rows) (hn : NoCollision sha256 cs) :
    loadLiveState sha256 ownerId instanceId rows = .ok (some (lastState s₀ cs)) ↔
      ∀ c ∈ cs, ¬ c.Late := by
  obtain ⟨hinv, hset⟩ := storeInvariant_run h₀ h hn
  rw [← hset, ← hinv.identity]
  exact loadLiveState_iff hinv.stored

end

/-! ## A sample run -/

def warmingInstance : ForwardInstance := { sampleInstance with state := .warmingUp }

/-- A warm-up that ended at event `w`. -/
def sampleWarmup : ForwardWarmupReceipt :=
  { sampleReceipt with
    finalEventId := some "w"
    finalEventFingerprint := some ⟨"w"⟩
    sequence_of_none := by simp
    finalEventId_notBlank := by decide
    fingerprint_iff := rfl }

def warmingCheckpoint : ForwardStateCheckpoint :=
  { sampleState.checkpoint with
    instance_ := warmingInstance
    cursor_processed := by simp [warmingInstance, sampleInstance]
    correctionCount_eq := rfl }

def warmState : ForwardLiveAdmissionState where
  checkpoint :=
    { sampleState.checkpoint with
      instance_ := warmingInstance.warmedUp sampleWarmup (by decide)
      processedEventIds := {"w"}
      processed_notBlank := by decide
      disjoint_processed_buffered := by simp [sampleState]
      disjoint_processed_corrections := by simp [sampleState]
      cursor_processed := by simp [ForwardInstance.warmedUp, sampleWarmup]
      correctionCount_eq := rfl }
  warmupReceiptFingerprint := sampleWarmup.fingerprint plainDigest
  seenEvents := [⟨"w", ⟨"w"⟩, 0, by decide⟩]
  active := rfl
  sorted := pairwise_singleton _ _

theorem fromWarmup_warm : fromWarmup plainDigest (warmingInstance.warmedUp sampleWarmup (by decide))
    sampleWarmup = .ok warmState := by
  decide +kernel

theorem ensureInstance_warming {t : ForwardCheckpointTransition}
    (ht : ForwardCheckpointTransition.between plainDigest none warmingCheckpoint = .ok t) :
    ensureInstance plainDigest "alice" warmingInstance {} =
      .ok ({ decision := .registered, instance_ := some warmingInstance },
        { instanceRow := some (checkpointValues plainDigest "alice" warmingCheckpoint)
          historyRows := [historyValues plainDigest "alice" t] }) := by
  have hinit : initialCheckpoint warmingInstance = .ok warmingCheckpoint := by decide +kernel
  have hload : loadCheckpoint plainDigest "alice" warmingInstance.instanceId {} = .ok none := rfl
  rw [ensureInstance, hinit, ok_bind, hload, ok_bind]
  simp only [insertInstance, ht, ensure, if_true, ok_bind, pure_eq_ok]
  rw [insertTransition_new (by simp), ok_bind]
  rfl

theorem installed_warm : ∃ rows, Installed plainDigest "alice" "forward-1" rows warmState ∧
    Linked plainDigest "alice" "forward-1" rows.historyRows
      [warmingCheckpoint, warmState.checkpoint] := by
  obtain ⟨t, ht, hd⟩ := @between_of plainDigest none warmingCheckpoint
    (by simp) ⟨Nat.zero_le _, Nat.zero_le _⟩ (by simp)
  have hens := ensureInstance_warming ht
  generalize hrows₀ : ({ instanceRow := some (checkpointValues plainDigest "alice" warmingCheckpoint)
                         historyRows := [historyValues plainDigest "alice" t] } : ForwardRows) =
    rows₀ at hens
  have hrow : rows₀.instanceRow = some (checkpointValues plainDigest "alice" warmingCheckpoint) := by
    rw [← hrows₀]
  have hlink : Linked plainDigest "alice" "forward-1" rows₀.historyRows [warmingCheckpoint] := by
    rw [← hrows₀]
    exact .root rfl hd
  have hnew : warmState.checkpoint.fingerprint plainDigest ∉
      [warmingCheckpoint].map (·.fingerprint plainDigest) := by
    rw [map_singleton, mem_singleton]
    intro h
    have heq := checkpoint_of_fingerprint plainDigest_injective h
    exact absurd (congrArg (·.processedEventIds) heq) (by decide)
  obtain ⟨history, hup, hlink'⟩ := updateInstance_of warmState.checkpoint hlink (by simp) hrow rfl
    ⟨le_rfl, le_rfl⟩ hnew
  have hcheck : loadCheckpoint plainDigest "alice" sampleWarmup.instanceId rows₀ =
      .ok (some warmingCheckpoint) := loadCheckpoint_values hrow
  have hdec : (resolveForwardWarmup plainDigest warmingInstance sampleWarmup none).decision =
      .complete := by decide +kernel
  have hinst : (resolveForwardWarmup plainDigest warmingInstance sampleWarmup none).instance_ =
      warmingInstance.warmedUp sampleWarmup (by decide) := by decide +kernel
  have hfrom : fromWarmup plainDigest
      (resolveForwardWarmup plainDigest warmingInstance sampleWarmup none).instance_ sampleWarmup =
      .ok warmState := by
    rw [hinst]
    exact fromWarmup_warm
  obtain ⟨rows, hrows, hhist⟩ := completeWarmup_of hcheck (by rw [← hrows₀])
    hdec hfrom hup (by rw [← hrows₀]) (by rw [← hrows₀])
  refine ⟨rows, ⟨[.ensure warmingInstance], rows₀, sampleWarmup, _, ?_, rfl, hrows, hdec, hfrom⟩,
    ?_⟩
  · exact .snoc .nil ⟨rfl, _, hens⟩
  · rw [hhist]
    exact hlink'

theorem sample_call {event : CanonicalForwardEvent} {o : ForwardEventObservation}
    {r : ForwardAdmissionResolution} (hr : admitForwardEvent plainDigest warmState event o = .ok r)
    (hnew : r.state.checkpoint ∉ [warmingCheckpoint, warmState.checkpoint]) :
    ∃ rows₀ rows, Installed plainDigest "alice" "forward-1" rows₀ warmState ∧
      Run (Stores plainDigest "alice" "forward-1") rows₀ [⟨warmState, event, o, .admitted r⟩] rows ∧
      NoCollision plainDigest [⟨warmState, event, o, .admitted r⟩] := by
  obtain ⟨rows₀, hinst, hlink⟩ := installed_warm
  obtain ⟨hst, hs, hid, -⟩ := stored_installed hinst
  have hfp : r.state.checkpoint.fingerprint plainDigest ∉
      [warmingCheckpoint, warmState.checkpoint].map (·.fingerprint plainDigest) := by
    intro hmem
    obtain ⟨c, hc, heq⟩ := mem_map.1 hmem
    exact hnew (checkpoint_of_fingerprint plainDigest_injective heq ▸ hc)
  obtain ⟨rows, hrows⟩ := admit_of hst hs hid hlink (by simp) hr hfp
  refine ⟨rows₀, rows, hinst, .snoc .nil ⟨(loadLiveState_iff hst).2 hs, hrows⟩, ?_⟩
  intro c hc d hd _
  rw [mem_singleton.1 hc, mem_singleton.1 hd]

theorem store_run_sample : ∃ rows₀ c rows,
    Installed plainDigest "alice" "forward-1" rows₀ warmState ∧
    Run (Stores plainDigest "alice" "forward-1") rows₀ [c] rows ∧
    c.answer.state.checkpoint.processedEventIds = {"w", "a"} ∧
    loadLiveState plainDigest "alice" "forward-1" rows = .ok (some c.answer.state) := by
  let event := sampleEvent "a" 1 (clock 1) (clock 2)
  let o := plainObservation .accepted false (.at event) (by decide)
  have h : (admitForwardEvent plainDigest warmState event o).toOption.map
      (fun r => r.state.checkpoint.processedEventIds) = some {"w", "a"} := by decide +kernel
  obtain ⟨r, hr, hproc⟩ := toOption_map_eq_some.1 h
  have hnew : r.state.checkpoint ∉ [warmingCheckpoint, warmState.checkpoint] := by
    intro hmem
    rw [mem_cons, mem_singleton] at hmem
    rcases hmem with hmem | hmem <;> rw [hmem] at hproc <;> exact absurd hproc (by decide)
  obtain ⟨rows₀, rows, hinst, hrun, hn⟩ := sample_call hr hnew
  refine ⟨rows₀, _, rows, hinst, hrun, hproc, (store_run hinst hrun hn).2 ?_⟩
  intro c hc hlate
  rw [mem_singleton.1 hc] at hlate
  have hd : ForwardEventDisposition.accepted = .outOfOrder := hlate.2.2.1
  cases hd

/-- A late event is answered and committed, and its instance cannot be loaded any more. -/
theorem late_arrival_unloadable : ∃ rows₀ r rows,
    Installed plainDigest "alice" "forward-1" rows₀ warmState ∧
    r.decision = ForwardAdmissionDecision.outOfOrder ∧
    Run (Stores plainDigest "alice" "forward-1") rows₀
      [⟨warmState, sampleEvent "b" 0 (clock 1) (clock 2),
        plainObservation .outOfOrder false (.at (sampleEvent "w" 0 (clock 0) (clock 0))) (by decide),
        .admitted r⟩] rows ∧
    loadLiveState plainDigest "alice" "forward-1" rows =
      .error (valueError "PostgreSQL seen events are not deterministically ordered") := by
  let event := sampleEvent "b" 0 (clock 1) (clock 2)
  let o := plainObservation .outOfOrder false (.at (sampleEvent "w" 0 (clock 0) (clock 0)))
    (by decide)
  have hlate : LateArrival warmState event o := by
    refine ⟨by decide, rfl, ?_⟩
    decide +kernel
  have h : (admitForwardEvent plainDigest warmState event o).toOption.map
      (fun r => r.state.checkpoint.outOfOrderCount) = some 1 := by decide +kernel
  obtain ⟨r, hr, hcount⟩ := toOption_map_eq_some.1 h
  have hnew : r.state.checkpoint ∉ [warmingCheckpoint, warmState.checkpoint] := by
    intro hmem
    rw [mem_cons, mem_singleton] at hmem
    rcases hmem with hmem | hmem <;> rw [hmem] at hcount <;> exact absurd hcount (by decide)
  obtain ⟨rows₀, rows, hinst, hrun, hn⟩ := sample_call hr hnew
  refine ⟨rows₀, r, rows, hinst, decision_of_late hlate hr, hrun, ?_⟩
  obtain ⟨⟨hst, hid, -⟩, hset⟩ := storeInvariant_run hinst hrun hn
  have hload := loadLiveState_stored hst
  rw [hid, if_neg] at hload
  · exact hload
  · rw [accountedFor_eq_iff, hset]
    exact fun hnone => hnone _ (mem_singleton.2 rfl) ⟨rfl, hlate⟩

end ChartingPlatform
