/-
  Gaps: an event beyond the next sequence number is buffered, the missing events
  are delivered in order, and the buffered event is delivered again, unchanged.
-/
import ChartingPlatform.Forward.Redelivery

namespace ChartingPlatform

open Lib List

variable {sha256 : String → Digest}

/-! ## Delivering the next event -/

section
variable {s : ForwardLiveAdmissionState} {c : ForwardCursor} {event : CanonicalForwardEvent}
  {o : ForwardEventObservation} {staleAfter : ℤ}

structure Next (sha256 : String → Digest) (s : ForwardLiveAdmissionState) (c : ForwardCursor)
    (event : CanonicalForwardEvent) : Prop where
  original : event.correctionOf = none
  is_open : Open sha256 s event
  sequence : (event.sequence : ℤ) = s.cursor + 1
  not_earlier : c.isLater event = false

theorem not_mem_of_open (hk : Known s) (h : Open sha256 s event) :
    event.eventId ∉ s.checkpoint.processedEventIds ∧
      event.eventId ∉ s.checkpoint.correctionEventIds := by
  rcases h with hnew | ⟨-, hb⟩
  · constructor
    · exact fun hm => hnew (hk (Finset.mem_union_left _ (Finset.mem_union_left _ hm)))
    · exact fun hm => hnew (hk (Finset.mem_union_right _ hm))
  · constructor
    · exact fun hm => Finset.disjoint_left.1 s.checkpoint.disjoint_processed_buffered hm hb
    · exact fun hm => Finset.disjoint_left.1 s.checkpoint.disjoint_buffered_corrections hb hm

theorem Next.dispositions (hn : Next sha256 s c event) (hk : Known s)
    (hc : c.Matches s.checkpoint.instance_) :
    observedDisposition c event s.checkpoint.processedEventIds = .accepted ∧
      expectedDisposition s.checkpoint event = .accepted := by
  obtain ⟨hp, -⟩ := not_mem_of_open hk hn.is_open
  have hl : s.checkpoint.instance_.lastEventId ≠ some event.eventId := fun h =>
    hp (s.checkpoint.cursor_processed _ h)
  have hseq := hn.sequence
  rw [ForwardLiveAdmissionState.cursor] at hseq
  simp only [observedDisposition, expectedDisposition, hn.original, hc.1, hc.2, hp, hl,
    hn.not_earlier, ne_eq, not_true_eq_false, or_false, if_false, Bool.false_eq_true]
  refine ⟨?_, ?_⟩ <;> rw [if_neg (by omega), if_neg (by omega)]

theorem applyForwardEventObservation_next {i : ForwardInstance}
    (hd : o.disposition = .accepted) (hnext : o.nextCursor = .at event)
    (hseq : (event.sequence : ℤ) = i.cursorSequence + 1) :
    applyForwardEventObservation i event o =
      if h : i.updatedAt ≤ event.arrivedAt then .ok (i.advance event h)
      else .error (valueError "event arrival time cannot move instance time backwards") := by
  have hadv : ¬ (i.lastEventId ≠ none ∧ event.sequence ≤ i.lastEventSequence) := by
    rintro ⟨hne, hle⟩
    rw [ForwardInstance.cursorSequence, if_neg hne] at hseq
    omega
  simp only [applyForwardEventObservation, hd, hnext, ForwardCursor.at, ne_eq, not_true_eq_false,
    if_false]
  rw [if_neg hadv]

theorem applyCheckpointObservation_next {cp : ForwardStateCheckpoint}
    (hd : o.disposition = .accepted) (hnext : o.nextCursor = .at event)
    (hseq : (event.sequence : ℤ) = cp.instance_.cursorSequence + 1)
    (hp : event.eventId ∉ cp.processedEventIds) (hc : event.eventId ∉ cp.correctionEventIds)
    (hle : cp.instance_.updatedAt ≤ event.arrivedAt) :
    ∃ cp', applyCheckpointObservation cp event o = .ok cp' := by
  have ha : ¬ alreadyApplied cp event o := by
    simp [alreadyApplied, hd, hp]
  rw [applyCheckpointObservation, if_neg ha, applyForwardEventObservation_next hd hnext hseq,
    dif_pos hle, ok_bind, hd]
  refine ⟨_, makeCheckpoint_of ?_ ?_ cp.corrections_notBlank ?_ ?_ ?_ ?_ ?_⟩
  · intro id hid
    rcases Finset.mem_insert.1 hid with rfl | hid
    · exact event.eventId_notBlank
    · exact cp.processed_notBlank id hid
  · exact fun id hid => cp.buffered_notBlank id (Finset.mem_of_mem_erase hid)
  · rw [Finset.disjoint_insert_left]
    exact ⟨Finset.notMem_erase _ _,
      cp.disjoint_processed_buffered.mono_right (Finset.erase_subset _ _)⟩
  · rw [Finset.disjoint_insert_left]
    exact ⟨hc, cp.disjoint_processed_corrections⟩
  · exact cp.disjoint_buffered_corrections.mono_left (Finset.erase_subset _ _)
  · intro id hid
    obtain rfl := Option.some.inj hid
    exact Finset.mem_insert_self _ _
  · exact cp.correctionCount_eq

structure TakenIn (s : ForwardLiveAdmissionState) (event : CanonicalForwardEvent)
    (t : ForwardLiveAdmissionState) : Prop where
  cursor : t.cursor = event.sequence
  lastEventId : t.checkpoint.instance_.lastEventId = some event.eventId
  updatedAt : t.checkpoint.instance_.updatedAt = event.arrivedAt
  buffered : t.checkpoint.bufferedEventIds = s.checkpoint.bufferedEventIds.erase event.eventId
  seen : ∀ x ∈ s.seenEvents, x ∈ t.seenEvents
  seenIds : t.seenIds = insert event.eventId s.seenIds

theorem seenIds_of_seen {r : ForwardAdmissionResolution} (hopen : Open sha256 s event)
    (hseen : ∀ x, x ∈ r.state.seenEvents ↔
      x ∈ s.seenEvents ∨ event.eventId ∉ s.seenIds ∧ x = event.seen sha256) :
    r.state.seenIds = insert event.eventId s.seenIds := by
  ext id
  rw [Finset.mem_insert]
  constructor
  · intro h
    obtain ⟨x, hx, rfl⟩ := mem_seenIds.1 h
    rcases (hseen x).1 hx with hx | ⟨-, rfl⟩
    · exact .inr (mem_seenIds.2 ⟨x, hx, rfl⟩)
    · exact .inl rfl
  · rintro (rfl | h)
    · exact AdmissionStep.mem_seenIds_of_open hopen hseen
    · obtain ⟨x, hx, rfl⟩ := mem_seenIds.1 h
      exact mem_seenIds.2 ⟨x, (hseen x).2 (.inl hx), rfl⟩

/-- **The next event is accepted** when it did not arrive before the last update. -/
theorem deliver_next (hn : Next sha256 s c event) (hk : Known s)
    (hc : c.Matches s.checkpoint.instance_) (hlimit : 0 ≤ staleAfter)
    (hle : s.checkpoint.instance_.updatedAt ≤ event.arrivedAt) :
    ∃ r, deliver sha256 staleAfter s c event = .ok (r, .at event) ∧ r.decision = .accepted ∧
      Known r.state ∧ TakenIn s event r.state := by
  obtain ⟨hobs, hexp⟩ := hn.dispositions hk hc
  obtain ⟨hp, hcorr⟩ := not_mem_of_open hk hn.is_open
  obtain ⟨o, ho⟩ := observe_total c event s.checkpoint.processedEventIds staleAfter hlimit
  obtain ⟨r, hr⟩ := admitForwardEvent_total sha256 s event o
  have hspec := observe_spec ho
  have hd : o.disposition = .accepted := hspec.disposition.trans hobs
  have hnext : o.nextCursor = .at event := by rw [hspec.nextCursor, if_pos hd]
  have hv := (validate_observed_iff hc hspec).2 (hobs.trans hexp.symm)
  obtain ⟨cp, hcp⟩ := applyCheckpointObservation_next hd hnext hn.sequence hp hcorr hle
  cases admitForwardEvent_cases hr with
  | conflict hx =>
    obtain ⟨x, hx, hid, hfp⟩ := hx
    rcases hn.is_open with h | ⟨⟨y, hy, hyid, hyfp⟩, -⟩
    · exact absurd (mem_seenIds.2 ⟨x, hx, hid⟩) h
    · exact absurd (seenEvent_unique hx hy (hid.trans hyid.symm) ▸ hyfp) hfp
  | replay hx hb =>
    obtain ⟨x, hx, hid, -⟩ := hx
    rcases hn.is_open with h | ⟨-, h⟩
    · exact absurd (mem_seenIds.2 ⟨x, hx, hid⟩) h
    · exact absurd h hb
  | reject _ hno => exact absurd hcp (hno cp hv)
  | applied hopen _ happ hdec _ hseen =>
    have hacc : r.decision = .accepted := by rw [hdec, hd]; rfl
    refine ⟨r, ?_, hacc, known_step hr hk, ?_⟩
    · rw [deliver, ho, ok_bind, hr, ok_bind, ForwardCursor.after, if_pos hacc, hnext]
    · cases applyCheckpointObservation_cases happ with
      | same ha => simp [alreadyApplied, hd, hp] at ha
      | accepted _ _ _ hi _ hb =>
        exact {
          cursor := by rw [ForwardLiveAdmissionState.cursor, hi, cursorSequence_advance]
          lastEventId := by rw [hi, lastEventId_advance]
          updatedAt := by rw [hi, updatedAt_advance]
          buffered := hb
          seen := fun x hx => (hseen x).2 (.inl hx)
          seenIds := seenIds_of_seen hopen hseen }
      | gap h | correction h | duplicate h | outOfOrder h => rw [hd] at h; cases h

/-- **The next event is rejected** when it arrived before the last update. -/
theorem deliver_early (hn : Next sha256 s c event) (hk : Known s)
    (hc : c.Matches s.checkpoint.instance_) (hlimit : 0 ≤ staleAfter)
    (hlt : ¬ s.checkpoint.instance_.updatedAt ≤ event.arrivedAt) :
    ∃ r, deliver sha256 staleAfter s c event = .ok (r, c) ∧ r.decision ≠ .accepted := by
  obtain ⟨hobs, -⟩ := hn.dispositions hk hc
  obtain ⟨hp, -⟩ := not_mem_of_open hk hn.is_open
  obtain ⟨o, ho⟩ := observe_total c event s.checkpoint.processedEventIds staleAfter hlimit
  obtain ⟨r, hr⟩ := admitForwardEvent_total sha256 s event o
  have hspec := observe_spec ho
  have hd : o.disposition = .accepted := hspec.disposition.trans hobs
  have hnext : o.nextCursor = .at event := by rw [hspec.nextCursor, if_pos hd]
  have hrej : r.decision ≠ .accepted := by
    cases admitForwardEvent_cases hr with
    | conflict _ h | replay _ _ h | reject _ _ h => rw [h]; decide
    | applied _ _ happ =>
      have ha : ¬ alreadyApplied s.checkpoint event o := by simp [alreadyApplied, hd, hp]
      rw [applyCheckpointObservation, if_neg ha,
        applyForwardEventObservation_next hd hnext hn.sequence, dif_neg hlt, error_bind] at happ
      cases happ
  refine ⟨r, ?_, hrej⟩
  rw [deliver, ho, ok_bind, hr, ok_bind, ForwardCursor.after, if_neg hrej]

theorem isLater_eq_false : c.isLater event = false ↔ ∀ t ∈ c.lastEventTime, t ≤ event.eventTime := by
  unfold ForwardCursor.isLater
  cases c.lastEventTime <;> simp

theorem matches_at {t : ForwardLiveAdmissionState} (h : TakenIn s event t) :
    (ForwardCursor.at event).Matches t.checkpoint.instance_ := ⟨h.cursor.symm, h.lastEventId.symm⟩

end

/-! ## The missing events -/

structure Waiting (sha256 : String → Digest) (s : ForwardLiveAdmissionState)
    (event : CanonicalForwardEvent) : Prop where
  seen : ∃ x ∈ s.seenEvents, x.eventId = event.eventId ∧
    x.eventFingerprint = event.fingerprint sha256
  buffered : event.eventId ∈ s.checkpoint.bufferedEventIds

/-- The list delivers, in order, the sequence numbers between a cursor and an event `e`: new
    events that correct nothing, none earlier than the one before it nor later than `e`, each
    arriving no earlier than the last update of the instance.  The arguments are the ids seen
    so far, the cursor with its event time, and the time of the last update, which the arrival
    of an accepted event sets. -/
inductive Missing (e : CanonicalForwardEvent) : Finset String → ℤ → Option Instant → Instant →
    List CanonicalForwardEvent → Prop
  | nil {seen cursor time updated} : cursor + 1 = (e.sequence : ℤ) →
      Missing e seen cursor time updated []
  | cons {seen cursor time updated m ms} : m.correctionOf = none → m.eventId ∉ seen →
      (m.sequence : ℤ) = cursor + 1 → (∀ t ∈ time, t ≤ m.eventTime) → m.eventTime ≤ e.eventTime →
      updated ≤ m.arrivedAt →
      Missing e (insert m.eventId seen) m.sequence (some m.eventTime) m.arrivedAt ms →
      Missing e seen cursor time updated (m :: ms)

section
variable {s : ForwardLiveAdmissionState} {c : ForwardCursor} {e : CanonicalForwardEvent}
  {staleAfter : ℤ} {o : ForwardEventObservation} {processed : Finset String}

/-- What holds while the missing events of a buffered one are delivered. -/
structure Healing (sha256 : String → Digest) (s : ForwardLiveAdmissionState) (c : ForwardCursor)
    (e : CanonicalForwardEvent) : Prop where
  known : Known s
  cursor_matches : c.Matches s.checkpoint.instance_
  waiting : Waiting sha256 s e
  not_earlier : c.isLater e = false

theorem Healing.taken_in {t : ForwardLiveAdmissionState} {m : CanonicalForwardEvent}
    (h : Healing sha256 s c e) (hk : Known t) (ht : TakenIn s m t) (hnew : m.eventId ∉ s.seenIds)
    (htime : m.eventTime ≤ e.eventTime) : Healing sha256 t (.at m) e where
  known := hk
  cursor_matches := matches_at ht
  waiting := by
    obtain ⟨x, hx, hid, hfp⟩ := h.waiting.seen
    refine ⟨⟨x, ht.seen x hx, hid, hfp⟩, ?_⟩
    rw [ht.buffered, Finset.mem_erase]
    refine ⟨?_, h.waiting.buffered⟩
    rintro heq
    exact hnew (heq ▸ mem_seenIds.2 ⟨x, hx, hid⟩)
  not_earlier := by
    rw [isLater_eq_false]
    intro t ht'
    obtain rfl := Option.some.inj ht'
    exact htime

/-- **The missing events are all accepted**, up to the buffered one.  The arrivals grow, so the
    last update is before its arrival exactly when all of them are. -/
theorem deliverAll_missing {seen : Finset String} {cursor : ℤ} {time : Option Instant}
    {updated : Instant} {ms : List CanonicalForwardEvent}
    (hm : Missing e seen cursor time updated ms) (hlimit : 0 ≤ staleAfter)
    (h : Healing sha256 s c e) (hseen : seen = s.seenIds) (hcursor : cursor = s.cursor)
    (htime : time = c.lastEventTime) (hupdated : updated = s.checkpoint.instance_.updatedAt) :
    ∃ rs t d, deliverAll sha256 staleAfter s c ms = .ok (rs, t, d) ∧ rs.length = ms.length ∧
      (∀ r ∈ rs, r.decision = .accepted) ∧ Healing sha256 t d e ∧ t.cursor + 1 = e.sequence ∧
      (t.checkpoint.instance_.updatedAt ≤ e.arrivedAt ↔
        updated ≤ e.arrivedAt ∧ ∀ m ∈ ms, m.arrivedAt ≤ e.arrivedAt) := by
  induction hm generalizing s c with
  | nil hlast =>
    refine ⟨[], s, c, rfl, rfl, by simp, h, hcursor ▸ hlast, ?_⟩
    simp [hupdated]
  | @cons seen cursor time updated m ms horig hnew hseq hfrom hto harr _ ih =>
    subst hseen hcursor htime hupdated
    have hnext : Next sha256 s c m := ⟨horig, .inl hnew, hseq, isLater_eq_false.2 hfrom⟩
    obtain ⟨r, hr, hacc, hk, ht⟩ := deliver_next hnext h.known h.cursor_matches hlimit harr
    obtain ⟨rs, t, d, hrest, hlen, hall, hheal, hlast, hiff⟩ :=
      ih (h.taken_in hk ht hnew hto) ht.seenIds.symm ht.cursor.symm rfl ht.updatedAt.symm
    refine ⟨r :: rs, t, d, ?_, ?_, ?_, hheal, hlast, ?_⟩
    · rw [deliverAll, hr, ok_bind]
      dsimp only
      rw [hrest, ok_bind]
    · rw [length_cons, length_cons, hlen]
    · intro r' hr'
      rcases mem_cons.1 hr' with rfl | hr'
      exacts [hacc, hall r' hr']
    · rw [hiff, forall_mem_cons]
      exact ⟨fun hle => ⟨harr.trans hle.1, hle⟩, fun hle => hle.2⟩

theorem gap_spec {r : ForwardAdmissionResolution}
    (h : admitForwardEvent sha256 s e o = .ok r) (hd : r.decision = .gap) :
    o.disposition = .gap ∧ r.state.checkpoint.instance_ = s.checkpoint.instance_ ∧
      Waiting sha256 r.state e := by
  cases admitForwardEvent_cases h with
  | conflict _ h' | replay _ _ h' | reject _ _ h' => rw [h'] at hd; cases hd
  | applied hopen hv happ hdec _ hseen =>
    have hgap : o.disposition = .gap := by
      rw [hdec] at hd
      cases ho : o.disposition <;> rw [ho] at hd <;> first | rfl | cases hd
    have hfp : ∃ x ∈ r.state.seenEvents, x.eventId = e.eventId ∧
        x.eventFingerprint = e.fingerprint sha256 := by
      rcases hopen with hnew | ⟨⟨x, hx, hid, hfp⟩, -⟩
      · refine ⟨e.seen sha256, (hseen (e.seen sha256)).2 (.inr ⟨hnew, rfl⟩), ?_⟩
        exact ⟨rfl, by rw [CanonicalForwardEvent.seen]⟩
      · exact ⟨x, (hseen x).2 (.inl hx), hid, hfp⟩
    refine ⟨hgap, ?_⟩
    cases applyCheckpointObservation_cases happ with
    | same ha hc =>
      rw [alreadyApplied, hgap] at ha
      refine ⟨by rw [hc], hfp, ?_⟩
      simpa [hc] using ha
    | gap _ _ hi _ hb => exact ⟨hi, hfp, hb ▸ Finset.mem_insert_self _ _⟩
    | accepted _ ho | correction ho | duplicate ho | outOfOrder ho => rw [hgap] at ho; cases ho

theorem observedDisposition_gap (h : observedDisposition c e processed = .gap) :
    e.correctionOf = none ∧ c.isLater e = false ∧ c.lastSequence + 1 < e.sequence := by
  unfold observedDisposition at h
  split_ifs at h with h₁ h₂ h₃ h₄
  refine ⟨not_not.1 h₁, ?_, h₄⟩
  simpa using fun hl => h₃ (.inr hl)

theorem limit_of_observe
    (h : observeForwardEvent c e processed staleAfter = .ok o) : 0 ≤ staleAfter := by
  unfold observeForwardEvent at h
  split_ifs at h with hneg
  all_goals omega

/-- **Gaps heal, unless a missing event arrived after the buffered one.**  In every state
    reached from a warm-up, after an event is answered `GAP`, its missing predecessors are all
    accepted, and delivering it again is answered `ACCEPTED` and takes it out of the buffer
    exactly when none of them arrived after it. -/
theorem gap_heals_iff {i : ForwardInstance} {w : ForwardWarmupReceipt}
    {s₀ : ForwardLiveAdmissionState} {as : List Admitted} {processed : Finset String}
    {o : ForwardEventObservation} {r : ForwardAdmissionResolution}
    {ms : List CanonicalForwardEvent}
    (h₀ : fromWarmup sha256 i w = .ok s₀) (hrun : Run (Admits sha256) s₀ as s)
    (hc : c.Matches s.checkpoint.instance_)
    (ho : observeForwardEvent c e processed staleAfter = .ok o)
    (hr : admitForwardEvent sha256 s e o = .ok r) (hgap : r.decision = .gap)
    (hm : Missing e r.state.seenIds s.cursor c.lastEventTime
      s.checkpoint.instance_.updatedAt ms) :
    ∃ rs t d, deliverAll sha256 staleAfter r.state c ms = .ok (rs, t, d) ∧
      rs.length = ms.length ∧ (∀ r ∈ rs, r.decision = .accepted) ∧
      ∃ r' d', deliver sha256 staleAfter t d e = .ok (r', d') ∧
        (r'.decision = .accepted ∧ e.eventId ∉ r'.state.checkpoint.bufferedEventIds ↔
          ∀ m ∈ ms, m.arrivedAt ≤ e.arrivedAt) := by
  obtain ⟨hd, hi, hw⟩ := gap_spec hr hgap
  obtain ⟨horig, hlater, hbeyond⟩ :=
    observedDisposition_gap ((observe_spec ho).disposition.symm.trans hd)
  have hheal : Healing sha256 r.state c e :=
    ⟨known_step hr (known_run hrun (known_fromWarmup h₀)), hi ▸ hc, hw, hlater⟩
  have hcur : s.cursor = r.state.cursor := by
    rw [ForwardLiveAdmissionState.cursor, ForwardLiveAdmissionState.cursor, hi]
  obtain ⟨rs, t, d, hall, hlen, hacc, ht, hlast, hiff⟩ :=
    deliverAll_missing hm (limit_of_observe ho) hheal rfl hcur rfl (by rw [hi])
  refine ⟨rs, t, d, hall, hlen, hacc, ?_⟩
  -- a gap has a missing event, and it arrived after the last update
  have hupd : (∀ m ∈ ms, m.arrivedAt ≤ e.arrivedAt) →
      s.checkpoint.instance_.updatedAt ≤ e.arrivedAt := by
    intro hle
    cases hm with
    | nil hcursor =>
      have hseq : s.checkpoint.instance_.cursorSequence + 1 = e.sequence := hcursor
      rw [hc.1] at hbeyond
      omega
    | cons _ _ _ _ _ harr _ => exact harr.trans (hle _ mem_cons_self)
  have hcond : t.checkpoint.instance_.updatedAt ≤ e.arrivedAt ↔
      ∀ m ∈ ms, m.arrivedAt ≤ e.arrivedAt :=
    hiff.trans ⟨fun h => h.2, fun h => ⟨hupd h, h⟩⟩
  have hnext : Next sha256 t d e :=
    ⟨horig, .inr ⟨ht.waiting.seen, ht.waiting.buffered⟩, hlast.symm, ht.not_earlier⟩
  by_cases hle : t.checkpoint.instance_.updatedAt ≤ e.arrivedAt
  · obtain ⟨r', hr', hacc', -, htaken⟩ :=
      deliver_next hnext ht.known ht.cursor_matches (limit_of_observe ho) hle
    refine ⟨r', _, hr', iff_of_true ⟨hacc', ?_⟩ (hcond.1 hle)⟩
    rw [htaken.buffered]
    exact Finset.notMem_erase _ _
  · obtain ⟨r', hr', hrej⟩ :=
      deliver_early hnext ht.known ht.cursor_matches (limit_of_observe ho) hle
    exact ⟨r', _, hr', iff_of_false (fun h => hrej h.1) (fun h => hle (hcond.2 h))⟩

end

theorem gap_heals_first : ∃ r rs t d r' d',
    deliver plainDigest 300 sampleState {} aheadEvent = .ok (r, {}) ∧ r.decision = .gap ∧
    deliverAll plainDigest 300 r.state {} [firstEvent] = .ok (rs, t, d) ∧
    deliver plainDigest 300 t d aheadEvent = .ok (r', d') ∧ r'.decision = .accepted ∧
    aheadEvent.eventId ∉ r'.state.checkpoint.bufferedEventIds := by
  have h : (deliver plainDigest 300 sampleState {} aheadEvent).toOption.any (fun p =>
      decide (p.1.decision = .gap) && decide (p.2 = {}) &&
        decide ("a" ∉ p.1.state.seenIds)) = true := by
    decide +kernel
  obtain ⟨⟨r, c⟩, hr, hfacts⟩ := toOption_any_eq_true.1 h
  simp only [Bool.and_eq_true, decide_eq_true_eq] at hfacts
  obtain ⟨⟨hgap, rfl⟩, hnew⟩ := hfacts
  obtain ⟨o, ho, hr'⟩ := bind_eq_ok.1 hr
  obtain ⟨r₁, hcall, hr'⟩ := bind_eq_ok.1 hr'
  obtain ⟨rfl, -⟩ := Prod.mk.inj (Except.ok.inj hr')
  have hm : Missing aheadEvent r₁.state.seenIds sampleState.cursor none (clock 0)
      [firstEvent] :=
    .cons rfl hnew (by decide) (by simp) (by decide) (by decide) (.nil rfl)
  obtain ⟨rs, t, d, hall, -, -, r', d', hlast, hiff⟩ :=
    gap_heals_iff fromWarmup_sample .nil (by decide) ho hcall hgap hm
  obtain ⟨hacc, hout⟩ := hiff.2 (by decide)
  exact ⟨r₁, rs, t, d, r', d', hr, hgap, hall, hlast, hacc, hout⟩

/-- The missing event, arriving after the buffered one. -/
def lateFirstEvent : CanonicalForwardEvent := sampleEvent "a" 0 (clock 10) (clock 20)

theorem late_gap_stays : ∃ rs t d,
    Missing aheadEvent {"b"} sampleState.cursor none (clock 0) [lateFirstEvent] ∧
    deliverAll plainDigest 300 sampleState {} [aheadEvent, lateFirstEvent, aheadEvent] =
      .ok (rs, t, d) ∧
    rs.map ForwardAdmissionResolution.decision = [.gap, .accepted, .reject] ∧
    aheadEvent.eventId ∈ t.checkpoint.bufferedEventIds := by
  have h : (deliverAll plainDigest 300 sampleState {}
      [aheadEvent, lateFirstEvent, aheadEvent]).toOption.any (fun (rs, t, _) =>
        decide (rs.map ForwardAdmissionResolution.decision = [.gap, .accepted, .reject]) &&
          decide (aheadEvent.eventId ∈ t.checkpoint.bufferedEventIds)) = true := by
    decide +kernel
  have hm : Missing aheadEvent {"b"} sampleState.cursor none (clock 0) [lateFirstEvent] :=
    .cons rfl (by decide) (by decide) (by simp) (by decide) (by decide) (.nil rfl)
  obtain ⟨⟨rs, t, d⟩, hr, hfacts⟩ := toOption_any_eq_true.1 h
  simp only [Bool.and_eq_true, decide_eq_true_eq] at hfacts
  exact ⟨rs, t, d, hm, hr, hfacts⟩

end ChartingPlatform
