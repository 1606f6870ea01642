/-
  Events that are delivered again, with observations the classifier computes.
-/
import ChartingPlatform.Forward.Classification

namespace ChartingPlatform

open Lib

variable {sha256 : String → Digest}

/-! ## Delivering with computed observations -/

def ForwardCursor.after (c : ForwardCursor) (o : ForwardEventObservation)
    (r : ForwardAdmissionResolution) : ForwardCursor :=
  if r.decision = .accepted then o.nextCursor else c

def deliver (sha256 : String → Digest) (staleAfter : ℤ) (s : ForwardLiveAdmissionState)
    (c : ForwardCursor) (event : CanonicalForwardEvent) :
    Except PyError (ForwardAdmissionResolution × ForwardCursor) :=
  observeForwardEvent c event s.checkpoint.processedEventIds staleAfter >>= fun o =>
    admitForwardEvent sha256 s event o >>= fun r => .ok (r, c.after o r)

def deliverAll (sha256 : String → Digest) (staleAfter : ℤ) (s : ForwardLiveAdmissionState)
    (c : ForwardCursor) : List CanonicalForwardEvent →
      Except PyError (List ForwardAdmissionResolution × ForwardLiveAdmissionState × ForwardCursor)
  | [] => .ok ([], s, c)
  | event :: rest =>
    deliver sha256 staleAfter s c event >>= fun (r, c') =>
      deliverAll sha256 staleAfter r.state c' rest >>= fun (rs, t) => .ok (r :: rs, t)

theorem run_of_deliverAll {staleAfter : ℤ} {events : List CanonicalForwardEvent}
    {s t : ForwardLiveAdmissionState} {c d : ForwardCursor} {rs : List ForwardAdmissionResolution}
    (h : deliverAll sha256 staleAfter s c events = .ok (rs, t, d)) :
    ∃ as, as.map Admitted.event = events ∧ as.map Admitted.resolution = rs ∧
      Run (Admits sha256) s as t := by
  induction events generalizing s c rs with
  | nil =>
    obtain ⟨rfl, hst⟩ := Prod.mk.inj (Except.ok.inj h)
    obtain ⟨rfl, -⟩ := Prod.mk.inj hst
    exact ⟨[], rfl, rfl, .nil⟩
  | cons event rest ih =>
    obtain ⟨⟨r, c'⟩, hr, h⟩ := bind_eq_ok.1 h
    obtain ⟨⟨rs', t'⟩, hrest, h⟩ := bind_eq_ok.1 h
    obtain ⟨rfl, rfl⟩ := Prod.mk.inj (Except.ok.inj h)
    obtain ⟨o, -, hr⟩ := bind_eq_ok.1 hr
    obtain ⟨r', hcall, hr⟩ := bind_eq_ok.1 hr
    obtain ⟨rfl, -⟩ := Prod.mk.inj (Except.ok.inj hr)
    obtain ⟨as, rfl, rfl, hrun⟩ := ih hrest
    exact ⟨⟨event, o, r'⟩ :: as, rfl, rfl, .cons ⟨hcall, rfl⟩ hrun⟩

/-! ## The same event twice -/

section
variable {s : ForwardLiveAdmissionState} {event : CanonicalForwardEvent} {c : ForwardCursor}
  {processed : Finset String} {o o' : ForwardEventObservation} {r r' : ForwardAdmissionResolution}
  {staleAfter staleAfter' : ℤ} {cp : ForwardStateCheckpoint}

theorem applyCheckpointObservation_congr
    (hd : o.disposition = o'.disposition) (hn : o.nextCursor = o'.nextCursor) :
    applyCheckpointObservation cp event o = applyCheckpointObservation cp event o' := by
  have hreq : o.correctionRequiresCounterfactualReplay =
      o'.correctionRequiresCounterfactualReplay := by
    rw [Bool.eq_iff_iff, ← o.correction_iff, ← o'.correction_iff, hd]
  have hi : applyForwardEventObservation cp.instance_ event o =
      applyForwardEventObservation cp.instance_ event o' := by
    simp only [applyForwardEventObservation, hd, hn, hreq]
  have ha : alreadyApplied cp event o ↔ alreadyApplied cp event o' := by
    simp only [alreadyApplied, hd]
  rw [applyCheckpointObservation, applyCheckpointObservation, hi, hd]
  exact if_congr ha rfl rfl

theorem not_buffered_of_correction {cp' : ForwardStateCheckpoint}
    (h : applyCheckpointObservation cp event o = .ok cp') (hd : o.disposition = .correction) :
    event.eventId ∉ cp'.bufferedEventIds := by
  have hmem : event.eventId ∈ cp'.correctionEventIds := by
    cases applyCheckpointObservation_cases h with
    | same ha hc =>
      rw [alreadyApplied, hd] at ha
      simpa [hc] using ha
    | correction _ _ _ _ _ _ hc => rw [hc]; exact Finset.mem_insert_self _ _
    | accepted _ ho | gap ho | duplicate ho | outOfOrder ho => rw [hd] at ho; cases ho
  exact fun hb => Finset.disjoint_left.1 cp'.disjoint_buffered_corrections hb hmem

theorem not_applied_of_buffered (ho : observeForwardEvent c event s.seenIds staleAfter = .ok o)
    (hv : validateObservation s.checkpoint event o = .ok ())
    (hseen : event.eventId ∈ s.seenIds) (hb : event.eventId ∈ s.checkpoint.bufferedEventIds) :
    event.correctionOf ≠ none := fun hn =>
  disagree_of_buffered hn hseen hb
    ((observe_spec ho).disposition.symm.trans (validateObservation_ok hv))

theorem expectedDisposition_correction
    (h : event.correctionOf ≠ none) : expectedDisposition cp event = .correction := if_pos h

/-- **The same event twice in a row.**  The first observation is computed with any of the seen
    ids, the second one afresh with all of them; the second admission changes nothing. -/
theorem redelivery_same (hc : c.Matches s.checkpoint.instance_) (hp : processed ⊆ s.seenIds)
    (ho : observeForwardEvent c event processed staleAfter = .ok o)
    (hr : admitForwardEvent sha256 s event o = .ok r)
    (ho' : observeForwardEvent (c.after o r) event r.state.seenIds staleAfter' = .ok o')
    (hr' : admitForwardEvent sha256 r.state event o' = .ok r') : r'.state = r.state := by
  cases admitForwardEvent_cases hr' with
  | conflict _ _ hs | replay _ _ _ hs | reject _ _ _ hs => exact hs
  | applied hopen hv happ =>
    exfalso
    -- a seen event would be buffered, and a buffered event is refused
    have hnew : event.eventId ∉ r.state.seenIds := by
      intro hseen
      obtain ⟨-, hb⟩ := hopen.resolve_left (not_not.2 hseen)
      have hcorr := not_applied_of_buffered ho' hv hseen hb
      have hd := (validateObservation_ok hv).trans (expectedDisposition_correction hcorr)
      have hbuf : event.eventId ∉ r'.state.checkpoint.bufferedEventIds :=
        not_buffered_of_correction happ hd
      cases applyCheckpointObservation_cases happ with
      | same ha hc => exact hbuf (hc ▸ hb)
      | correction _ _ _ _ _ hbeq => exact hbuf (hbeq ▸ hb)
      | accepted _ h | gap h | duplicate h | outOfOrder h => rw [hd] at h; cases h
    cases admitForwardEvent_cases hr with
    | conflict hx _ hs | replay hx _ _ hs =>
      obtain ⟨x, hx, hid, -⟩ := hx
      exact hnew (hs ▸ mem_seenIds.2 ⟨x, hx, hid⟩)
    | applied hopen₁ _ _ _ _ hseen₁ =>
      exact hnew (AdmissionStep.mem_seenIds_of_open hopen₁ hseen₁)
    | reject _ hno hdec hs =>
      -- a new event that was rejected is classified as before
      rw [hs] at hnew ho' hv happ
      rw [ForwardCursor.after, if_neg (by rw [hdec]; decide)] at ho'
      have h₁ := observe_spec ho
      have h₂ := observe_spec ho'
      have hnp : event.eventId ∉ processed := fun h => hnew (hp h)
      have hsame : observedDisposition c event processed =
          observedDisposition c event s.seenIds := by
        simp only [observedDisposition, hnew, hnp]
      have hd : o.disposition = o'.disposition := by
        rw [h₁.disposition, h₂.disposition, hsame]
      have hn : o.nextCursor = o'.nextCursor := by rw [h₁.nextCursor, h₂.nextCursor, hd]
      refine hno _ ?_ ((applyCheckpointObservation_congr hd hn).trans happ)
      rw [validate_observed_iff hc h₁, hsame]
      exact (validate_observed_iff hc h₂).1 hv

end

/-! ## Buffered events and the cursor -/

def BufferedAhead (s : ForwardLiveAdmissionState) : Prop :=
  ∀ x ∈ s.seenEvents, x.eventId ∈ s.checkpoint.bufferedEventIds → s.cursor < x.sequence

/-- The call does not present, as accepted, an event whose sequence number another buffered
    event carries. -/
def KeepsBufferedSlots (s : ForwardLiveAdmissionState) (a : Admitted) : Prop :=
  a.observation.disposition = .accepted → ∀ x ∈ s.seenEvents,
    x.eventId ∈ s.checkpoint.bufferedEventIds → x.sequence = a.event.sequence →
      x.eventId = a.event.eventId

section
variable {s t : ForwardLiveAdmissionState} {a : Admitted} {event : CanonicalForwardEvent}

theorem expectedDisposition_gap {cp : ForwardStateCheckpoint}
    (h : expectedDisposition cp event = .gap) :
    cp.instance_.cursorSequence + 1 < event.sequence := by
  unfold expectedDisposition at h
  split_ifs at h with h₁ h₂ h₃ h₄
  exact h₄

theorem seen_of_buffered (hk : Known s) {x : ForwardSeenEvent}
    (hx : x ∈ s.seenEvents ∨ event.eventId ∉ s.seenIds ∧ x = event.seen sha256)
    (hb : x.eventId ∈ s.checkpoint.bufferedEventIds) : x ∈ s.seenEvents := by
  rcases hx with hx | ⟨hnew, rfl⟩
  · exact hx
  · refine absurd (hk ?_) hnew
    exact Finset.mem_union_left _ (Finset.mem_union_right _ hb)

/-- **Buffered events stay ahead of the cursor** across a call that keeps their slots. -/
theorem bufferedAhead_step (hk : Known s) (hs : BufferedAhead s) (h : Admits sha256 s a t)
    (ha : KeepsBufferedSlots s a) : BufferedAhead t := by
  obtain ⟨h, rfl⟩ := h
  cases admitForwardEvent_cases h with
  | conflict _ _ heq | replay _ _ _ heq | reject _ _ _ heq => rwa [heq]
  | applied hopen hv happ _ _ hseen =>
    intro x hx hb
    have hx := (hseen x).1 hx
    rw [ForwardLiveAdmissionState.cursor]
    cases applyCheckpointObservation_cases happ with
    | same _ hc =>
      rw [hc] at hb ⊢
      exact hs x (seen_of_buffered hk hx hb) hb
    | accepted _ ho _ hi _ hbuf =>
      rw [hbuf, Finset.mem_erase] at hb
      have hxs := seen_of_buffered hk hx hb.2
      have hlt := hs x hxs hb.2
      obtain ⟨-, -, hnext⟩ :=
        expectedDisposition_accepted ((validateObservation_ok hv).symm.trans ho)
      have hne : x.sequence ≠ a.event.sequence := fun heq => hb.1 (ha ho x hxs hb.2 heq)
      rw [hi, cursorSequence_advance]
      rw [ForwardLiveAdmissionState.cursor] at hlt
      omega
    | gap ho hnb hi _ hbuf =>
      rw [hi]
      rw [hbuf, Finset.mem_insert] at hb
      rcases hb with hid | hb
      · -- the event itself: it was not buffered before, so it is new
        have hnew : a.event.eventId ∉ s.seenIds := hopen.resolve_right fun h => hnb h.2
        rcases hx with hx | ⟨-, rfl⟩
        · exact absurd (mem_seenIds.2 ⟨x, hx, hid⟩) hnew
        · have hgap := expectedDisposition_gap ((validateObservation_ok hv).symm.trans ho)
          change s.checkpoint.instance_.cursorSequence < (a.event.sequence : ℤ)
          omega
      · exact hs x (seen_of_buffered hk hx hb) hb
    | correction _ _ _ hi _ hbuf =>
      rw [hi, cursorSequence_corrected]
      rw [hbuf] at hb
      exact hs x (seen_of_buffered hk hx hb) hb
    | duplicate _ hi _ hbuf | outOfOrder _ hi _ hbuf =>
      rw [hi]
      rw [hbuf] at hb
      exact hs x (seen_of_buffered hk hx hb) hb

end

/-- A call that keeps the slots of the buffered events. -/
def AdmitsKeeping (sha256 : String → Digest) (s : ForwardLiveAdmissionState) (a : Admitted)
    (t : ForwardLiveAdmissionState) : Prop :=
  Admits sha256 s a t ∧ KeepsBufferedSlots s a

/-- **Redelivery.**  From a warm-up, along calls that keep the slots of the buffered events:
    every buffered event is ahead of the cursor, and admitting an event again changes nothing. -/
theorem redelivery_run {i : ForwardInstance} {w : ForwardWarmupReceipt}
    {s₀ s : ForwardLiveAdmissionState} {as : List Admitted}
    (h₀ : fromWarmup sha256 i w = .ok s₀) (h : Run (AdmitsKeeping sha256) s₀ as s) :
    (∀ id ∈ s.checkpoint.bufferedEventIds,
      ∃ x ∈ s.seenEvents, x.eventId = id ∧ s.cursor < x.sequence) ∧
    ∀ (c : ForwardCursor) (event : CanonicalForwardEvent) (processed : Finset String)
      (staleAfter staleAfter' : ℤ) (o o' : ForwardEventObservation)
      (r r' : ForwardAdmissionResolution), c.Matches s.checkpoint.instance_ →
      processed ⊆ s.seenIds → observeForwardEvent c event processed staleAfter = .ok o →
      admitForwardEvent sha256 s event o = .ok r →
      observeForwardEvent (c.after o r) event r.state.seenIds staleAfter' = .ok o' →
      admitForwardEvent sha256 r.state event o' = .ok r' → r'.state = r.state := by
  have hinv : Known s ∧ BufferedAhead s := by
    refine h.invariant (P := fun s => Known s ∧ BufferedAhead s) ?_ ⟨known_fromWarmup h₀, ?_⟩
    · rintro s a t ⟨hk, hb⟩ ⟨ha, hkeep⟩
      refine ⟨?_, bufferedAhead_step hk hb ha hkeep⟩
      obtain ⟨ha, rfl⟩ := ha
      exact known_step ha hk
    · intro x _ hb
      obtain ⟨-, -, hbuf, -⟩ := fromWarmup_spec h₀
      rw [hbuf] at hb
      exact absurd hb (Finset.notMem_empty _)
  refine ⟨?_, fun c event processed limit limit' o o' r r' hc hp ho hr ho' hr' =>
    redelivery_same hc hp ho hr ho' hr'⟩
  intro id hid
  have hseen := hinv.1 (Finset.mem_union_left _ (Finset.mem_union_right _ hid))
  obtain ⟨x, hx, rfl⟩ := mem_seenIds.1 hseen
  exact ⟨x, hx, rfl, hinv.2 x hx hid⟩

/-- The second event of the sample instance, delivered first. -/
def aheadEvent : CanonicalForwardEvent := sampleEvent "b" 1 (clock 12) (clock 13)

theorem redelivery_run_ahead : ∃ as s, Run (AdmitsKeeping plainDigest) sampleState as s ∧
    as.map Admitted.event = [aheadEvent] ∧ "b" ∈ s.checkpoint.bufferedEventIds ∧
    ∀ id ∈ s.checkpoint.bufferedEventIds,
      ∃ x ∈ s.seenEvents, x.eventId = id ∧ s.cursor < x.sequence := by
  let o := gapObservation {} aheadEvent false (by decide)
  have h : (admitForwardEvent plainDigest sampleState aheadEvent o).toOption.any (fun r =>
      decide ("b" ∈ r.state.checkpoint.bufferedEventIds)) = true := by
    decide +kernel
  obtain ⟨r, hr, hbuffered⟩ := toOption_any_eq_true.1 h
  have hkeep : AdmitsKeeping plainDigest sampleState ⟨aheadEvent, o, r⟩ r.state :=
    ⟨⟨hr, rfl⟩, fun ho => by cases ho⟩
  have hrun : Run (AdmitsKeeping plainDigest) sampleState [⟨aheadEvent, o, r⟩] r.state :=
    .cons hkeep .nil
  exact ⟨_, _, hrun, rfl, of_decide_eq_true hbuffered, (redelivery_run fromWarmup_sample hrun).1⟩

/-- Another event takes the sequence number of the buffered one. -/
def takeoverEvents : List CanonicalForwardEvent :=
  [aheadEvent, firstEvent, sampleEvent "c" 1 (clock 14) (clock 15)]

theorem buffered_behind_cursor : ∃ as s, Run (Admits plainDigest) sampleState as s ∧
    as.map Admitted.event = takeoverEvents ∧
    ∃ x ∈ s.seenEvents, x.eventId ∈ s.checkpoint.bufferedEventIds ∧ ¬ s.cursor < x.sequence := by
  have h : (deliverAll plainDigest 300 sampleState {} takeoverEvents).toOption.any
      (fun (_, s, _) => s.seenEvents.any fun x =>
        decide (x.eventId ∈ s.checkpoint.bufferedEventIds) && !decide (s.cursor < x.sequence)) =
      true := by
    decide +kernel
  obtain ⟨⟨rs, s, c⟩, hrun, hbehind⟩ := toOption_any_eq_true.1 h
  obtain ⟨as, has, -, hr⟩ := run_of_deliverAll hrun
  simp only [List.any_eq_true, Bool.and_eq_true, decide_eq_true_eq, Bool.not_eq_true',
    decide_eq_false_iff_not] at hbehind
  exact ⟨as, s, hr, has, hbehind⟩

end ChartingPlatform
