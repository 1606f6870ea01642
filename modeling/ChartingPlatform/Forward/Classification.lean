/-
  The classifier against the validator: `observe_forward_event` classifies an event from a
  cursor, `_validate_observation` again from the persisted instance, which has no event time.
-/
import ChartingPlatform.Forward.AdmissionRuns

namespace ChartingPlatform

open Lib

/-! ## What the classifier computes -/

/-- The cursor stands where the instance does; its event time is free. -/
def ForwardCursor.Matches (c : ForwardCursor) (i : ForwardInstance) : Prop :=
  c.lastSequence = i.cursorSequence ∧ c.lastEventId = i.lastEventId

instance (c : ForwardCursor) (i : ForwardInstance) : Decidable (c.Matches i) :=
  inferInstanceAs (Decidable (_ ∧ _))

/-- The class `observe_forward_event` gives an event. -/
def observedDisposition (c : ForwardCursor) (event : CanonicalForwardEvent)
    (processed : Finset String) : ForwardEventDisposition :=
  if event.correctionOf ≠ none then .correction
  else if event.eventId ∈ processed ∨ c.lastEventId = some event.eventId then .duplicate
  else if event.sequence ≤ c.lastSequence ∨ c.isLater event = true then .outOfOrder
  else if c.lastSequence + 1 < event.sequence then .gap
  else .accepted

section
variable {c : ForwardCursor} {event : CanonicalForwardEvent} {processed : Finset String}
  {staleAfter : ℤ} {o : ForwardEventObservation}

/-- What a computed observation says, apart from staleness. -/
structure Observed (c : ForwardCursor) (event : CanonicalForwardEvent) (processed : Finset String)
    (o : ForwardEventObservation) : Prop where
  disposition : o.disposition = observedDisposition c event processed
  nextCursor : o.nextCursor = if o.disposition = .accepted then .at event else c
  bounds : o.disposition = .gap → o.missingSequenceStart = some (c.lastSequence + 1).toNat ∧
    o.missingSequenceEnd = some (event.sequence - 1)

theorem observe_spec (h : observeForwardEvent c event processed staleAfter = .ok o) :
    Observed c event processed o := by
  unfold observeForwardEvent at h
  split_ifs at h with h₀ h₁ h₂ h₃ h₄
  all_goals obtain rfl := Except.ok.inj h
  · refine ⟨?_, rfl, by simp [plainObservation]⟩
    rw [observedDisposition, if_pos h₁]; rfl
  · refine ⟨?_, rfl, by simp [plainObservation]⟩
    rw [observedDisposition, if_neg h₁, if_pos h₂]; rfl
  · refine ⟨?_, rfl, by simp [plainObservation]⟩
    rw [observedDisposition, if_neg h₁, if_neg h₂, if_pos h₃]; rfl
  · refine ⟨?_, rfl, fun _ => ⟨rfl, rfl⟩⟩
    rw [observedDisposition, if_neg h₁, if_neg h₂, if_neg h₃, if_pos h₄]; rfl
  · refine ⟨?_, rfl, by simp [plainObservation]⟩
    rw [observedDisposition, if_neg h₁, if_neg h₂, if_neg h₃, if_neg h₄]; rfl

theorem observe_total (c : ForwardCursor) (event : CanonicalForwardEvent)
    (processed : Finset String) (limit : ℤ) (h : 0 ≤ limit) :
    ∃ o, observeForwardEvent c event processed limit = .ok o := by
  unfold observeForwardEvent
  rw [if_neg (by omega)]
  dsimp only
  split_ifs
  all_goals exact ⟨_, rfl⟩

/-! ## What the validator makes of it -/

variable {s : ForwardLiveAdmissionState}

theorem preservesCursor_of_matches {i : ForwardInstance} (h : c.Matches i) :
    preservesCursor i c := by
  obtain ⟨hseq, hid⟩ := h
  unfold preservesCursor
  split_ifs with hn
  · rw [ForwardInstance.cursorSequence, if_pos hn] at hseq
    exact ⟨hseq, c.empty hseq⟩
  · refine ⟨hseq, hid, ?_⟩
    rw [ForwardInstance.cursorSequence, if_neg hn] at hseq
    obtain ⟨-, ht⟩ := c.nonempty (by omega)
    exact Option.isSome_iff_ne_none.1 ht

/-- **A computed observation is valid** exactly when the two classifications agree. -/
theorem validate_observed_iff (hc : c.Matches s.checkpoint.instance_)
    (ho : Observed c event processed o) :
    validateObservation s.checkpoint event o = .ok () ↔
      observedDisposition c event processed = expectedDisposition s.checkpoint event := by
  constructor
  · intro h
    exact ho.disposition.symm.trans (validateObservation_ok h)
  · intro hagree
    have hd := ho.disposition.trans hagree
    have hnext := ho.nextCursor
    unfold validateObservation
    rw [ensure_of hd, ok_bind]
    split
    · next hg =>
      obtain ⟨h₁, h₂⟩ := ho.bounds (hd.trans hg)
      exact ensure_of ⟨by rw [h₁, hc.1], h₂⟩ _
    · next ha =>
      rw [if_pos (hd.trans ha)] at hnext
      exact ensure_of hnext _
    · next hg ha =>
      rw [if_neg fun h => ha (hd.symm.trans h)] at hnext
      exact ensure_of (hnext ▸ preservesCursor_of_matches hc) _

end

/-! ## The ground of a rejection -/

section
variable {sha256 : String → Digest} {s : ForwardLiveAdmissionState} {event : CanonicalForwardEvent}
  {o : ForwardEventObservation} {r : ForwardAdmissionResolution} {e : PyError}
  {c : ForwardStateCheckpoint}

theorem message_of_makeCheckpoint {i : ForwardInstance}
    {processed buffered corrections : Finset String} {d n : ℕ}
    (h : makeCheckpoint i processed buffered corrections d n = .error e) :
    e.message ≠ dispositionMismatch := by
  unfold makeCheckpoint at h
  split_ifs at h
  all_goals
    obtain rfl := Except.error.inj h
    decide

theorem message_of_applyForwardEventObservation {i : ForwardInstance}
    (h : applyForwardEventObservation i event o = .error e) :
    e.message ≠ dispositionMismatch := by
  unfold applyForwardEventObservation at h
  split at h
  all_goals
    split_ifs at h
    all_goals
      obtain rfl := Except.error.inj h
      decide

theorem message_of_applyCheckpointObservation
    (h : applyCheckpointObservation c event o = .error e) : e.message ≠ dispositionMismatch := by
  unfold applyCheckpointObservation at h
  split_ifs at h
  cases hi : applyForwardEventObservation c.instance_ event o with
  | error e' =>
    rw [hi, error_bind] at h
    obtain rfl := Except.error.inj h
    exact message_of_applyForwardEventObservation hi
  | ok i =>
    rw [hi, ok_bind] at h
    cases hd : o.disposition with
    | accepted | gap | duplicate | outOfOrder | correction =>
      rw [hd] at h; exact message_of_makeCheckpoint h

theorem message_of_validateObservation (h : validateObservation c event o = .error e) :
    e.message = dispositionMismatch ↔ o.disposition ≠ expectedDisposition c event := by
  unfold validateObservation at h
  by_cases hd : o.disposition = expectedDisposition c event
  · rw [ensure_of hd, ok_bind] at h
    refine iff_of_false ?_ (not_not.2 hd)
    split at h
    all_goals
      rw [ensure] at h
      split_ifs at h
      obtain rfl := Except.error.inj h
      decide
  · rw [ensure_of_not hd, error_bind] at h
    obtain rfl := Except.error.inj h
    exact iff_of_true rfl hd

theorem rejected_mismatch_iff (h : admitForwardEvent sha256 s event o = .ok r) :
    r.decision = .reject ∧ r.rejectionReason = some dispositionMismatch ↔
      Open sha256 s event ∧ o.disposition ≠ expectedDisposition s.checkpoint event := by
  unfold admitForwardEvent at h
  rw [← answeredBySeen_eq_none]
  cases ha : answeredBySeen sha256 s event with
  | some r' =>
    rw [ha] at h
    obtain rfl := Except.ok.inj h
    refine iff_of_false ?_ (by simp)
    rintro ⟨hd, -⟩
    unfold answeredBySeen at ha
    split at ha
    · split_ifs at ha
      all_goals
        obtain rfl := Option.some.inj ha
        cases hd
    · cases ha
  | none =>
    rw [ha] at h
    simp only [true_and]
    cases hv : validateObservation s.checkpoint event o with
    | error e =>
      have hk := kind_of_validateObservation hv
      simp only [hv, error_bind, hk, if_true] at h
      obtain rfl := Except.ok.inj h
      simpa using message_of_validateObservation hv
    | ok u =>
      refine iff_of_false ?_ (not_not.2 (validateObservation_ok hv))
      rintro ⟨hd, hm⟩
      simp only [hv, ok_bind] at h
      cases happ : applyCheckpointObservation s.checkpoint event o with
      | error e =>
        have hk := kind_of_applyCheckpointObservation happ
        simp only [happ, hk, if_true] at h
        obtain rfl := Except.ok.inj h
        exact message_of_applyCheckpointObservation happ (Option.some.inj hm)
      | ok c =>
        simp only [happ] at h
        obtain ⟨next, -, h⟩ := bind_eq_ok.1 h
        obtain rfl := Except.ok.inj h
        cases hdo : o.disposition <;> simp [hdo, ForwardEventDisposition.decision] at hd

/-! ## Agreement -/

/-- The inputs on which classifier and validator agree, or the validator is not asked.  The
    classifier gets the seen ids, the validator uses the processed ones; and only the
    classifier looks at the event time. -/
def Agreeable (sha256 : String → Digest) (s : ForwardLiveAdmissionState) (c : ForwardCursor)
    (event : CanonicalForwardEvent) : Prop :=
  event.correctionOf ≠ none ∨
    (∃ x ∈ s.seenEvents, x.eventId = event.eventId ∧
      (x.eventFingerprint ≠ event.fingerprint sha256 ∨
        event.eventId ∉ s.checkpoint.bufferedEventIds)) ∨
    event.eventId ∉ s.seenIds ∧ (s.checkpoint.instance_.lastEventId = some event.eventId ∨
      event.eventId ∉ s.checkpoint.processedEventIds ∧
        ((event.sequence : ℤ) ≤ s.cursor ∨ c.isLater event = false))

theorem disagree_of_buffered {c : ForwardCursor} (hn : event.correctionOf = none)
    (hseen : event.eventId ∈ s.seenIds)
    (hb : event.eventId ∈ s.checkpoint.bufferedEventIds) :
    observedDisposition c event s.seenIds ≠ expectedDisposition s.checkpoint event := by
  have hp : event.eventId ∉ s.checkpoint.processedEventIds := fun hp =>
    Finset.disjoint_left.1 s.checkpoint.disjoint_processed_buffered hp hb
  have hl : s.checkpoint.instance_.lastEventId ≠ some event.eventId := fun hl =>
    hp (s.checkpoint.cursor_processed _ hl)
  rw [observedDisposition, if_neg (not_not.2 hn), if_pos (.inl hseen), expectedDisposition,
    if_neg (not_not.2 hn), if_neg (by rintro (h | h); exacts [hp h, hl h])]
  split_ifs
  all_goals simp

theorem agree_iff_of_new {c : ForwardCursor} (hc : c.Matches s.checkpoint.instance_)
    (hn : event.correctionOf = none) (hnew : event.eventId ∉ s.seenIds) :
    observedDisposition c event s.seenIds = expectedDisposition s.checkpoint event ↔
      s.checkpoint.instance_.lastEventId = some event.eventId ∨
        event.eventId ∉ s.checkpoint.processedEventIds ∧
          ((event.sequence : ℤ) ≤ s.cursor ∨ c.isLater event = false) := by
  rw [observedDisposition, expectedDisposition, if_neg (not_not.2 hn), if_neg (not_not.2 hn),
    hc.1, hc.2]
  by_cases hl : s.checkpoint.instance_.lastEventId = some event.eventId
  · rw [if_pos (.inr hl), if_pos (.inr hl)]
    exact iff_of_true rfl (.inl hl)
  · have hobs : ¬ (event.eventId ∈ s.seenIds ∨
        s.checkpoint.instance_.lastEventId = some event.eventId) := by
      rintro (h | h)
      exacts [hnew h, hl h]
    rw [if_neg hobs]
    by_cases hp : event.eventId ∈ s.checkpoint.processedEventIds
    · have hexp : event.eventId ∈ s.checkpoint.processedEventIds ∨
        s.checkpoint.instance_.lastEventId = some event.eventId := .inl hp
      rw [if_pos hexp]
      refine iff_of_false ?_ (by simp [hl, hp])
      split_ifs
      all_goals simp
    · have hexp : ¬ (event.eventId ∈ s.checkpoint.processedEventIds ∨
          s.checkpoint.instance_.lastEventId = some event.eventId) := by
        rintro (h | h)
        exacts [hp h, hl h]
      rw [if_neg hexp]
      by_cases hs : (event.sequence : ℤ) ≤ s.checkpoint.instance_.cursorSequence
      · rw [if_pos hs, if_pos (Or.inl hs)]
        exact iff_of_true rfl (.inr ⟨hp, .inl hs⟩)
      · rw [if_neg hs]
        cases ht : c.isLater event with
        | true =>
          rw [if_pos (Or.inr rfl)]
          refine iff_of_false ?_ (by simp [hl, hp, hs])
          split_ifs
          all_goals simp
        | false =>
          rw [if_neg (by simp [hs])]
          exact iff_of_true rfl (.inr ⟨hp, .inr rfl⟩)

/-- **When classifier and validator agree.**  The observation computed from a matching cursor
    and the seen ids is not rejected for its classification exactly on the agreeable inputs. -/
theorem classification_agrees_iff {c : ForwardCursor} {staleAfter : ℤ}
    (hc : c.Matches s.checkpoint.instance_)
    (ho : observeForwardEvent c event s.seenIds staleAfter = .ok o)
    (h : admitForwardEvent sha256 s event o = .ok r) :
    ¬ (r.decision = .reject ∧ r.rejectionReason = some dispositionMismatch) ↔
      Agreeable sha256 s c event := by
  rw [rejected_mismatch_iff h, (observe_spec ho).disposition, not_and, not_ne_iff]
  by_cases hn : event.correctionOf = none
  swap
  · refine iff_of_true (fun _ => ?_) (.inl hn)
    rw [observedDisposition, expectedDisposition, if_pos hn, if_pos hn]
  by_cases hseen : event.eventId ∈ s.seenIds
  · obtain ⟨x, hx, hid⟩ := mem_seenIds.1 hseen
    have honly : ∀ y ∈ s.seenEvents, y.eventId = event.eventId → y = x := fun y hy hyid =>
      seenEvent_unique hy hx (hyid.trans hid.symm)
    by_cases hopen : Open sha256 s event
    · -- still buffered with the same content: the classifier calls it a duplicate
      obtain ⟨⟨y, hy, hyid, hyfp⟩, hb⟩ := hopen.resolve_left (not_not.2 hseen)
      refine iff_of_false (fun h => disagree_of_buffered hn hseen hb (h hopen)) ?_
      rintro (h | ⟨z, hz, hzid, h⟩ | ⟨h, -⟩)
      · exact h hn
      · rw [honly z hz hzid, ← honly y hy hyid] at h
        rcases h with h | h
        exacts [h hyfp, h hb]
      · exact h hseen
    · refine iff_of_true (fun h => absurd h hopen) (.inr (.inl ⟨x, hx, hid, ?_⟩))
      by_contra hcon
      rw [not_or, not_not, not_not] at hcon
      exact hopen (.inr ⟨⟨x, hx, hid, hcon.1⟩, hcon.2⟩)
  · rw [forall_prop_of_true (show Open sha256 s event from .inl hseen),
      agree_iff_of_new hc hn hseen]
    constructor
    · intro h
      exact .inr (.inr ⟨hseen, h⟩)
    · rintro (h | ⟨x, hx, hid, -⟩ | ⟨-, h⟩)
      · exact absurd hn h
      · exact absurd (mem_seenIds.2 ⟨x, hx, hid⟩) hseen
      · exact h

end

def firstEvent : CanonicalForwardEvent := sampleEvent "a" 0 (clock 10) (clock 11)

theorem classification_agrees_first : ∃ o r,
    observeForwardEvent {} firstEvent sampleState.seenIds 300 = .ok o ∧
    admitForwardEvent plainDigest sampleState firstEvent o = .ok r ∧
    ¬ (r.decision = .reject ∧ r.rejectionReason = some dispositionMismatch) := by
  obtain ⟨o, ho⟩ := observe_total {} firstEvent sampleState.seenIds 300 (by decide)
  obtain ⟨r, hr⟩ := admitForwardEvent_total plainDigest sampleState firstEvent o
  have hnew : Agreeable plainDigest sampleState {} firstEvent := by
    refine .inr (.inr ⟨by decide, .inr ⟨by decide, .inr ?_⟩⟩)
    decide
  exact ⟨o, r, ho, hr, (classification_agrees_iff (by decide) ho hr).2 hnew⟩

/-- After the first event, an event with the next sequence number and an earlier event time:
    the classifier says out of order, the validator expects `ACCEPTED`. -/
def earlierEvent : CanonicalForwardEvent := sampleEvent "b" 1 (clock 5) (clock 12)

theorem classification_disagrees_earlier : ∃ as s o r, Run (Admits plainDigest) sampleState as s ∧
    (ForwardCursor.at firstEvent).Matches s.checkpoint.instance_ ∧
    observeForwardEvent (.at firstEvent) earlierEvent s.seenIds 300 = .ok o ∧
    admitForwardEvent plainDigest s earlierEvent o = .ok r ∧
    r.decision = .reject ∧ r.rejectionReason = some dispositionMismatch := by
  let first : CanonicalForwardEvent × ForwardEventObservation :=
    (firstEvent, plainObservation .accepted false (.at firstEvent) (by decide))
  have h : (admitAll plainDigest sampleState [first]).toOption.any (fun p =>
      decide ((ForwardCursor.at firstEvent).Matches p.2.checkpoint.instance_) &&
        decide (earlierEvent.eventId ∉ p.2.seenIds) &&
        decide (expectedDisposition p.2.checkpoint earlierEvent = .accepted) &&
        decide (observedDisposition (.at firstEvent) earlierEvent p.2.seenIds = .outOfOrder)) =
      true := by
    decide +kernel
  obtain ⟨⟨as, s⟩, hrun, hs⟩ := toOption_any_eq_true.1 h
  simp only [Bool.and_eq_true, decide_eq_true_eq] at hs
  obtain ⟨⟨⟨hc, hnew⟩, hexp⟩, hobs⟩ := hs
  obtain ⟨o, ho⟩ := observe_total (.at firstEvent) earlierEvent s.seenIds 300 (by decide)
  obtain ⟨r, hr⟩ := admitForwardEvent_total plainDigest s earlierEvent o
  refine ⟨as, s, o, r, run_of_admitAll hrun, hc, ho, hr, (rejected_mismatch_iff hr).2 ?_⟩
  refine ⟨.inl hnew, ?_⟩
  rw [(observe_spec ho).disposition, hobs, hexp]
  decide

end ChartingPlatform
