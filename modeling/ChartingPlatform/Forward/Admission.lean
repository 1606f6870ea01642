/-
  Live admission of forward events (`forward_admission.py`): the identities of
  the events already seen, the live state, its start from a warm-up, and
  `admit_forward_event`.
-/
import ChartingPlatform.Forward.Checkpoint
import ChartingPlatform.Forward.Warmup

namespace ChartingPlatform

open Lib List

/-! ## Live states -/

/-- `ForwardSeenEvent`. -/
@[ext]
structure ForwardSeenEvent where
  eventId : String
  eventFingerprint : Digest
  sequence : ℕ
  eventId_notBlank : notBlank eventId = true

instance : DecidableEq ForwardSeenEvent := fun _ _ => decidable_of_iff' _ ForwardSeenEvent.ext_iff

def ForwardSeenEvent.toPy (e : ForwardSeenEvent) : PyValue :=
  .dataclass "app.strategy_lab_v2.forward_admission.ForwardSeenEvent"
    [({ name := "event_id" }, .str e.eventId),
      ({ name := "event_fingerprint" }, .str e.eventFingerprint.text),
      ({ name := "sequence" }, .int e.sequence)]

/-- `ForwardLiveAdmissionState`: the seen events are sorted by their distinct ids. -/
structure ForwardLiveAdmissionState where
  checkpoint : ForwardStateCheckpoint
  warmupReceiptFingerprint : Digest
  seenEvents : List ForwardSeenEvent
  active : checkpoint.instance_.state = .active
  sorted : seenEvents.Pairwise fun a b => a.eventId < b.eventId
  deriving DecidableEq

/-- `ForwardLiveAdmissionState.__post_init__`. -/
def makeLiveState (checkpoint : ForwardStateCheckpoint) (warmupReceiptFingerprint : Digest)
    (seenEvents : List ForwardSeenEvent) : Except PyError ForwardLiveAdmissionState :=
  if ha : checkpoint.instance_.state ≠ .active then
    .error (valueError "live admission requires an active forward instance")
  else if hn : ¬ (seenEvents.map ForwardSeenEvent.eventId).Nodup then
    .error (valueError "seen event ids must be unique")
  else .ok
    { checkpoint := checkpoint
      warmupReceiptFingerprint := warmupReceiptFingerprint
      seenEvents := sortBy ForwardSeenEvent.eventId seenEvents
      active := not_not.1 ha
      sorted := pairwise_lt_sortBy (not_not.1 hn) }

def ForwardLiveAdmissionState.seenIds (s : ForwardLiveAdmissionState) : Finset String :=
  (s.seenEvents.map ForwardSeenEvent.eventId).toFinset

def ForwardLiveAdmissionState.existing (s : ForwardLiveAdmissionState) (id : String) :
    Option ForwardSeenEvent :=
  s.seenEvents.find? fun e => decide (e.eventId = id)

def ForwardWarmupReceipt.seen (r : ForwardWarmupReceipt) : List ForwardSeenEvent :=
  match h : r.finalEventId, r.finalEventFingerprint with
  | some id, some fp => [⟨id, fp, r.finalEventSequence, r.finalEventId_notBlank id h⟩]
  | _, _ => []

/-- `ForwardLiveAdmissionState.from_warmup`. -/
def fromWarmup (sha256 : String → Digest) (i : ForwardInstance) (r : ForwardWarmupReceipt) :
    Except PyError ForwardLiveAdmissionState := do
  ensure (i.state = .active) (valueError "warm-up must complete before live admission")
  ensure (r.instanceId = i.instanceId)
    (valueError "warm-up receipt instance does not match live instance")
  ensure (r.warmupSnapshotFingerprint = i.warmupSnapshotFingerprint)
    (valueError "warm-up receipt snapshot does not match live instance")
  ensure (r.carryInMode = i.carryInMode)
    (valueError "warm-up receipt carry-in mode does not match live instance")
  ensure (r.finalEventId = i.lastEventId ∧ r.finalEventSequence = i.lastEventSequence)
    (valueError "warm-up receipt cursor does not match live instance")
  let checkpoint ← makeCheckpoint i r.finalEventId.toFinset ∅ ∅ 0 0
  makeLiveState checkpoint (r.fingerprint sha256) r.seen

/-! ## Admission -/

/-- `ForwardAdmissionDecision`. -/
inductive ForwardAdmissionDecision where
  | accepted | replayExisting | gap | duplicate | outOfOrder | correction | conflict | reject
  deriving DecidableEq, Repr

/-- The table `decisions` of `admit_forward_event`. -/
def ForwardEventDisposition.decision : ForwardEventDisposition → ForwardAdmissionDecision
  | .accepted => .accepted
  | .gap => .gap
  | .duplicate => .duplicate
  | .outOfOrder => .outOfOrder
  | .correction => .correction

/-- `ForwardAdmissionResolution`. -/
structure ForwardAdmissionResolution where
  decision : ForwardAdmissionDecision
  state : ForwardLiveAdmissionState
  eventFingerprint : Digest
  rejectionReason : Option String := none
  reason_iff : rejectionReason.isSome = true ↔ decision = .conflict ∨ decision = .reject
  deriving DecidableEq

/-- The classification `_validate_observation` expects. -/
def expectedDisposition (c : ForwardStateCheckpoint) (event : CanonicalForwardEvent) :
    ForwardEventDisposition :=
  if event.correctionOf ≠ none then .correction
  else if event.eventId ∈ c.processedEventIds ∨ c.instance_.lastEventId = some event.eventId then
    .duplicate
  else if (event.sequence : ℤ) ≤ c.instance_.cursorSequence then .outOfOrder
  else if c.instance_.cursorSequence + 1 < event.sequence then .gap
  else .accepted

def preservesCursor (i : ForwardInstance) (cursor : ForwardCursor) : Prop :=
  if i.lastEventId = none then
    cursor.lastSequence = -1 ∧ cursor.lastEventId = none ∧ cursor.lastEventTime = none
  else cursor.lastSequence = i.cursorSequence ∧ cursor.lastEventId = i.lastEventId ∧
    cursor.lastEventTime ≠ none

instance (i : ForwardInstance) (cursor : ForwardCursor) : Decidable (preservesCursor i cursor) :=
  inferInstanceAs (Decidable (ite (i.lastEventId = none) _ _))

def dispositionMismatch : String :=
  "forward event observation disposition does not match live cursor"

/-- `_validate_observation`. -/
def validateObservation (c : ForwardStateCheckpoint) (event : CanonicalForwardEvent)
    (o : ForwardEventObservation) : Except PyError Unit := do
  ensure (o.disposition = expectedDisposition c event) (valueError dispositionMismatch)
  match expectedDisposition c event with
  | .gap =>
    ensure (o.missingSequenceStart = some (c.instance_.cursorSequence + 1).toNat ∧
        o.missingSequenceEnd = some (event.sequence - 1))
      (valueError "gap observation missing sequence bounds do not match live cursor")
  | .accepted =>
    ensure (o.nextCursor = .at event)
      (valueError "accepted observation cursor does not match the event")
  | _ =>
    ensure (preservesCursor c.instance_ o.nextCursor)
      (valueError "non-accepted observation must preserve the live cursor")

def CanonicalForwardEvent.seen (sha256 : String → Digest) (event : CanonicalForwardEvent) :
    ForwardSeenEvent :=
  ⟨event.eventId, event.fingerprint sha256, event.sequence, event.eventId_notBlank⟩

def answeredBySeen (sha256 : String → Digest) (s : ForwardLiveAdmissionState)
    (event : CanonicalForwardEvent) : Option ForwardAdmissionResolution :=
  match s.existing event.eventId with
  | some e =>
    if e.eventFingerprint ≠ event.fingerprint sha256 then
      some
        { decision := .conflict
          state := s
          eventFingerprint := event.fingerprint sha256
          rejectionReason := some "event id is already bound to different content"
          reason_iff := by simp }
    else if event.eventId ∉ s.checkpoint.bufferedEventIds then
      some
        { decision := .replayExisting
          state := s
          eventFingerprint := event.fingerprint sha256
          reason_iff := by simp }
    else none
  | none => none

/-- `admit_forward_event`. -/
def admitForwardEvent (sha256 : String → Digest) (s : ForwardLiveAdmissionState)
    (event : CanonicalForwardEvent) (o : ForwardEventObservation) :
    Except PyError ForwardAdmissionResolution :=
  match answeredBySeen sha256 s event with
  | some r => .ok r
  | none =>
    match validateObservation s.checkpoint event o >>= fun _ =>
        applyCheckpointObservation s.checkpoint event o with
    | .error e =>
      if e.kind = .valueError then
        .ok
          { decision := .reject
            state := s
            eventFingerprint := event.fingerprint sha256
            rejectionReason := some e.message
            reason_iff := by simp }
      else .error e
    | .ok checkpoint => do
      let seenEvents := if (s.existing event.eventId).isSome then s.seenEvents
        else s.seenEvents ++ [event.seen sha256]
      let next ← makeLiveState checkpoint s.warmupReceiptFingerprint seenEvents
      return {
        decision := o.disposition.decision
        state := next
        eventFingerprint := event.fingerprint sha256
        reason_iff := by cases o.disposition <;> simp [ForwardEventDisposition.decision] }

/-! ## What an admission does -/

section
variable {sha256 : String → Digest} {s : ForwardLiveAdmissionState} {event : CanonicalForwardEvent}
  {o : ForwardEventObservation} {r : ForwardAdmissionResolution} {id : String}
  {x : ForwardSeenEvent} {c : ForwardStateCheckpoint} {l : List ForwardSeenEvent} {e : PyError}

theorem nodup_seenEvents (s : ForwardLiveAdmissionState) :
    (s.seenEvents.map ForwardSeenEvent.eventId).Nodup := nodup_map_of_pairwise_lt s.sorted

theorem mem_seenIds : id ∈ s.seenIds ↔ ∃ x ∈ s.seenEvents, x.eventId = id := by
  simp [ForwardLiveAdmissionState.seenIds]

theorem seenEvent_unique {y : ForwardSeenEvent} (hx : x ∈ s.seenEvents) (hy : y ∈ s.seenEvents)
    (h : x.eventId = y.eventId) : x = y :=
  inj_on_of_nodup_map (nodup_seenEvents s) hx hy h

theorem existing_eq_some :
    s.existing id = some x ↔ x ∈ s.seenEvents ∧ x.eventId = id := by
  constructor
  · intro h
    exact ⟨mem_of_find?_eq_some h, by simpa using find?_some h⟩
  · rintro ⟨hx, rfl⟩
    cases h : s.existing x.eventId with
    | none => exact absurd (find?_eq_none.1 h x hx) (by simp)
    | some y =>
      have hy := mem_of_find?_eq_some h
      have hid : y.eventId = x.eventId := by simpa using find?_some h
      rw [seenEvent_unique hy hx hid]

theorem existing_eq_none : s.existing id = none ↔ id ∉ s.seenIds := by
  rw [mem_seenIds]
  simp [ForwardLiveAdmissionState.existing]

/-- The event reaches the classification: it is new, or still buffered with the same content. -/
def Open (sha256 : String → Digest) (s : ForwardLiveAdmissionState)
    (event : CanonicalForwardEvent) : Prop :=
  event.eventId ∉ s.seenIds ∨
    (∃ x ∈ s.seenEvents, x.eventId = event.eventId ∧
      x.eventFingerprint = event.fingerprint sha256) ∧
      event.eventId ∈ s.checkpoint.bufferedEventIds

theorem answeredBySeen_eq_none : answeredBySeen sha256 s event = none ↔ Open sha256 s event := by
  cases h : s.existing event.eventId with
  | none =>
    have hn := existing_eq_none.1 h
    simp [answeredBySeen, h, Open, hn]
  | some x =>
    obtain ⟨hx, hid⟩ := existing_eq_some.1 h
    have hseen : event.eventId ∈ s.seenIds := mem_seenIds.2 ⟨x, hx, hid⟩
    simp only [answeredBySeen, h, Open, hseen, not_true_eq_false, false_or]
    split_ifs with h₁ h₂
    · simp only [false_iff, not_and]
      rintro ⟨y, hy, hyid, hyfp⟩
      exact absurd (seenEvent_unique hx hy (hid.trans hyid.symm) ▸ hyfp) h₁
    · exact iff_of_true rfl ⟨⟨x, hx, hid, not_not.1 h₁⟩, h₂⟩
    · simp [h₂]

inductive AdmissionStep (sha256 : String → Digest) (s : ForwardLiveAdmissionState)
    (event : CanonicalForwardEvent) (o : ForwardEventObservation)
    (r : ForwardAdmissionResolution) : Prop
  /-- The id is bound to other content. -/
  | conflict : (∃ x ∈ s.seenEvents, x.eventId = event.eventId ∧
      x.eventFingerprint ≠ event.fingerprint sha256) → r.decision = .conflict → r.state = s →
      AdmissionStep sha256 s event o r
  /-- The event was admitted before and is not buffered. -/
  | replay : (∃ x ∈ s.seenEvents, x.eventId = event.eventId ∧
      x.eventFingerprint = event.fingerprint sha256) →
      event.eventId ∉ s.checkpoint.bufferedEventIds → r.decision = .replayExisting →
      r.state = s → AdmissionStep sha256 s event o r
  /-- The observation or its application is refused. -/
  | reject : Open sha256 s event → (∀ c, validateObservation s.checkpoint event o = .ok () →
      applyCheckpointObservation s.checkpoint event o ≠ .ok c) → r.decision = .reject →
      r.state = s → AdmissionStep sha256 s event o r
  /-- The observation is applied; a new event is added to the seen ones. -/
  | applied : Open sha256 s event → validateObservation s.checkpoint event o = .ok () →
      applyCheckpointObservation s.checkpoint event o = .ok r.state.checkpoint →
      r.decision = o.disposition.decision →
      r.state.warmupReceiptFingerprint = s.warmupReceiptFingerprint →
      (∀ x, x ∈ r.state.seenEvents ↔
        x ∈ s.seenEvents ∨ event.eventId ∉ s.seenIds ∧ x = event.seen sha256) →
      AdmissionStep sha256 s event o r

theorem makeLiveState_eq_ok {w : Digest}
    {t : ForwardLiveAdmissionState} (h : makeLiveState c w l = .ok t) :
    t.checkpoint = c ∧ t.warmupReceiptFingerprint = w ∧
      t.seenEvents = sortBy ForwardSeenEvent.eventId l := by
  unfold makeLiveState at h
  split_ifs at h
  obtain rfl := Except.ok.inj h
  exact ⟨rfl, rfl, rfl⟩

theorem makeLiveState_of {w : Digest}
    (ha : c.instance_.state = .active) (hn : (l.map ForwardSeenEvent.eventId).Nodup) :
    ∃ t, makeLiveState c w l = .ok t := by
  unfold makeLiveState
  rw [dif_neg (not_not.2 ha), dif_neg (not_not.2 hn)]
  exact ⟨_, rfl⟩

abbrev seenAfter (sha256 : String → Digest) (s : ForwardLiveAdmissionState)
    (event : CanonicalForwardEvent) : List ForwardSeenEvent :=
  if (s.existing event.eventId).isSome then s.seenEvents
  else s.seenEvents ++ [event.seen sha256]

theorem mem_seenAfter : x ∈ seenAfter sha256 s event ↔
    x ∈ s.seenEvents ∨ event.eventId ∉ s.seenIds ∧ x = event.seen sha256 := by
  rw [seenAfter, ← existing_eq_none]
  cases s.existing event.eventId <;> simp

theorem nodup_seenAfter :
    ((seenAfter sha256 s event).map ForwardSeenEvent.eventId).Nodup := by
  rw [seenAfter]
  split_ifs with h
  · exact nodup_seenEvents s
  · rw [Option.not_isSome_iff_eq_none, existing_eq_none] at h
    rw [map_append, map_singleton, nodup_append]
    refine ⟨nodup_seenEvents s, nodup_singleton _, ?_⟩
    intro id hid id' hid' heq
    rw [mem_singleton] at hid'
    have he : id = event.eventId := heq.trans hid'
    exact h (mem_toFinset.2 (he ▸ hid))

theorem admitForwardEvent_cases (h : admitForwardEvent sha256 s event o = .ok r) :
    AdmissionStep sha256 s event o r := by
  unfold admitForwardEvent at h
  cases ha : answeredBySeen sha256 s event with
  | some r' =>
    rw [ha] at h
    obtain rfl := Except.ok.inj h
    unfold answeredBySeen at ha
    cases hx : s.existing event.eventId with
    | none => rw [hx] at ha; cases ha
    | some x =>
      obtain ⟨hmem, hid⟩ := existing_eq_some.1 hx
      simp only [hx] at ha
      split_ifs at ha with h₁ h₂
      · obtain rfl := Option.some.inj ha
        exact .conflict ⟨x, hmem, hid, h₁⟩ rfl rfl
      · obtain rfl := Option.some.inj ha
        exact .replay ⟨x, hmem, hid, not_not.1 h₁⟩ h₂ rfl rfl
  | none =>
    have hopen := answeredBySeen_eq_none.1 ha
    rw [ha] at h
    cases hb : (validateObservation s.checkpoint event o >>= fun _ =>
        applyCheckpointObservation s.checkpoint event o) with
    | error e =>
      simp only [hb] at h
      split_ifs at h
      obtain rfl := Except.ok.inj h
      refine .reject hopen ?_ rfl rfl
      intro c hv hc
      rw [hv, ok_bind, hc] at hb
      cases hb
    | ok c =>
      simp only [hb] at h
      obtain ⟨next, hnext, h⟩ := bind_eq_ok.1 h
      obtain rfl := Except.ok.inj h
      obtain ⟨⟨⟩, hv, happ⟩ := bind_eq_ok.1 hb
      obtain ⟨h₁, h₂, h₃⟩ := makeLiveState_eq_ok hnext
      refine .applied hopen hv (h₁ ▸ happ) rfl h₂ fun x => ?_
      rw [show next.seenEvents = _ from h₃, mem_sortBy]
      exact mem_seenAfter

theorem CheckpointStep.state_eq {c' : ForwardStateCheckpoint} (h : CheckpointStep c event o c') :
    c'.instance_.state = c.instance_.state := by
  cases h with
  | same _ h => rw [h]
  | accepted _ _ _ h => rw [h, state_advance]
  | correction _ _ _ h => rw [h, state_corrected]
  | gap _ _ h | duplicate _ h | outOfOrder _ h => rw [h]

theorem kind_of_validateObservation
    (h : validateObservation c event o = .error e) : e.kind = .valueError := by
  unfold validateObservation at h
  rw [ensure] at h
  split_ifs at h
  · rw [ok_bind] at h
    split at h
    all_goals
      rw [ensure] at h
      split_ifs at h
      obtain rfl := Except.error.inj h
      rfl
  · obtain rfl := Except.error.inj h
    rfl

theorem kind_of_makeCheckpoint {i : ForwardInstance} {processed buffered corrections : Finset String}
    {d n : ℕ}
    (h : makeCheckpoint i processed buffered corrections d n = .error e) :
    e.kind = .valueError := by
  unfold makeCheckpoint at h
  split_ifs at h
  all_goals
    obtain rfl := Except.error.inj h
    rfl

theorem kind_of_applyForwardEventObservation {i : ForwardInstance}
    (h : applyForwardEventObservation i event o = .error e) : e.kind = .valueError := by
  unfold applyForwardEventObservation at h
  split at h
  all_goals
    split_ifs at h
    all_goals
      obtain rfl := Except.error.inj h
      rfl

theorem kind_of_applyCheckpointObservation
    (h : applyCheckpointObservation c event o = .error e) : e.kind = .valueError := by
  unfold applyCheckpointObservation at h
  split_ifs at h
  cases hi : applyForwardEventObservation c.instance_ event o with
  | error e' =>
    rw [hi, error_bind] at h
    obtain rfl := Except.error.inj h
    exact kind_of_applyForwardEventObservation hi
  | ok i =>
    rw [hi, ok_bind] at h
    cases hd : o.disposition with
    | accepted | gap | duplicate | outOfOrder | correction =>
      rw [hd] at h; exact kind_of_makeCheckpoint h

/-- **Admitting never raises**: what is refused is answered. -/
theorem admitForwardEvent_total (sha256 : String → Digest) (s : ForwardLiveAdmissionState)
    (event : CanonicalForwardEvent) (o : ForwardEventObservation) :
    ∃ r, admitForwardEvent sha256 s event o = .ok r := by
  unfold admitForwardEvent
  cases answeredBySeen sha256 s event with
  | some r => exact ⟨r, rfl⟩
  | none =>
    cases hb : (validateObservation s.checkpoint event o >>= fun _ =>
        applyCheckpointObservation s.checkpoint event o) with
    | error e =>
      have hk : e.kind = .valueError := by
        cases hv : validateObservation s.checkpoint event o with
        | error e' =>
          rw [hv, error_bind] at hb
          obtain rfl := Except.error.inj hb
          exact kind_of_validateObservation hv
        | ok u =>
          rw [hv, ok_bind] at hb
          exact kind_of_applyCheckpointObservation hb
      simp only [hk, if_true]
      exact ⟨_, rfl⟩
    | ok c =>
      obtain ⟨-, -, hc⟩ := bind_eq_ok.1 hb
      have hstate := (applyCheckpointObservation_cases hc).state_eq
      have hnodup : ((seenAfter sha256 s event).map ForwardSeenEvent.eventId).Nodup :=
        nodup_seenAfter
      obtain ⟨t, ht⟩ := makeLiveState_of (w := s.warmupReceiptFingerprint)
        (hstate.trans s.active) hnodup
      exact ⟨_, bind_eq_ok.2 ⟨t, ht, rfl⟩⟩

end

end ChartingPlatform
