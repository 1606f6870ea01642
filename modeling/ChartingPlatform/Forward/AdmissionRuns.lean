/-
  Runs of live admission: what holds of every state that any sequence of
  `admit_forward_event` calls reaches from a warm-up, whatever observations the
  callers supply.
-/
import ChartingPlatform.Forward.Admission
import ChartingPlatform.Lib.Runs

namespace ChartingPlatform

open Lib

/-! ## Steps and runs -/

/-- One call of `admit_forward_event` with its answer. -/
structure Admitted where
  event : CanonicalForwardEvent
  observation : ForwardEventObservation
  resolution : ForwardAdmissionResolution

/-- The call is answered so in state `s`, and `t` is the state of the answer. -/
def Admits (sha256 : String → Digest) (s : ForwardLiveAdmissionState) (a : Admitted)
    (t : ForwardLiveAdmissionState) : Prop :=
  admitForwardEvent sha256 s a.event a.observation = .ok a.resolution ∧ a.resolution.state = t

/-- The events answered `ACCEPTED`, in order. -/
def acceptedEvents (as : List Admitted) : List CanonicalForwardEvent :=
  (as.filter fun a => decide (a.resolution.decision = .accepted)).map Admitted.event

abbrev ForwardLiveAdmissionState.cursor (s : ForwardLiveAdmissionState) : ℤ :=
  s.checkpoint.instance_.cursorSequence

variable {sha256 : String → Digest} {w : ForwardWarmupReceipt} {s : ForwardLiveAdmissionState}
  {as : List Admitted} {t : ForwardLiveAdmissionState}

section
variable {s : ForwardLiveAdmissionState} {event : CanonicalForwardEvent}
  {o : ForwardEventObservation} {r : ForwardAdmissionResolution} {c c' : ForwardStateCheckpoint}

theorem validateObservation_ok
    (h : validateObservation c event o = .ok ()) : o.disposition = expectedDisposition c event := by
  obtain ⟨_, h, -⟩ := bind_eq_ok.1 h
  exact ensure_eq_ok.1 h

theorem expectedDisposition_accepted (h : expectedDisposition c event = .accepted) :
    event.correctionOf = none ∧ event.eventId ∉ c.processedEventIds ∧
      (event.sequence : ℤ) = c.instance_.cursorSequence + 1 := by
  unfold expectedDisposition at h
  split_ifs at h with h₁ h₂ h₃ h₄
  exact ⟨not_not.1 h₁, fun hm => h₂ (.inl hm), by omega⟩

/-- **An accepted event is the next one**: its sequence number is one above the
    cursor, its id was not processed before, and the cursor moves to it. -/
theorem accepted_spec (h : admitForwardEvent sha256 s event o = .ok r)
    (hd : r.decision = .accepted) :
    (event.sequence : ℤ) = s.cursor + 1 ∧ event.eventId ∉ s.checkpoint.processedEventIds ∧
      r.state.cursor = event.sequence ∧
      r.state.checkpoint.processedEventIds =
        insert event.eventId s.checkpoint.processedEventIds := by
  cases admitForwardEvent_cases h with
  | conflict _ h' | replay _ _ h' | reject _ _ h' => rw [h'] at hd; cases hd
  | applied _ hv happ hdec =>
    have hacc : o.disposition = .accepted := by
      rw [hdec] at hd
      cases ho : o.disposition <;> rw [ho] at hd <;> first | rfl | cases hd
    obtain ⟨-, hnew, hseq⟩ :=
      expectedDisposition_accepted ((validateObservation_ok hv).symm.trans hacc)
    refine ⟨hseq, hnew, ?_⟩
    cases applyCheckpointObservation_cases happ with
    | same ha _ =>
      rcases ha with ⟨-, hm⟩ | ⟨ho, -⟩ | ⟨ho, -⟩
      · exact absurd hm hnew
      · rw [hacc] at ho; cases ho
      · rw [hacc] at ho; cases ho
    | accepted hle _ _ hi hp =>
      exact ⟨by rw [ForwardLiveAdmissionState.cursor, hi, cursorSequence_advance], hp⟩
    | gap ho | correction ho | duplicate ho | outOfOrder ho => rw [hacc] at ho; cases ho

theorem not_accepted_spec (h : admitForwardEvent sha256 s event o = .ok r)
    (hd : r.decision ≠ .accepted) : r.state.cursor = s.cursor ∧
      r.state.checkpoint.processedEventIds = s.checkpoint.processedEventIds := by
  cases admitForwardEvent_cases h with
  | conflict _ _ hs | replay _ _ _ hs | reject _ _ _ hs => rw [hs]; exact ⟨rfl, rfl⟩
  | applied _ hv happ hdec =>
    rw [ForwardLiveAdmissionState.cursor, ForwardLiveAdmissionState.cursor]
    cases applyCheckpointObservation_cases happ with
    | same _ hc => rw [hc]; exact ⟨rfl, rfl⟩
    | accepted _ ho => exact absurd (by rw [hdec, ho]; rfl) hd
    | gap _ _ hi hp => rw [hi]; exact ⟨rfl, hp⟩
    | correction _ _ _ hi hp => rw [hi, cursorSequence_corrected]; exact ⟨rfl, hp⟩
    | duplicate _ hi hp | outOfOrder _ hi hp => rw [hi]; exact ⟨rfl, hp⟩

theorem refused_spec (h : admitForwardEvent sha256 s event o = .ok r)
    (hd : r.decision = .conflict ∨ r.decision = .reject) : r.state = s := by
  cases admitForwardEvent_cases h with
  | conflict _ _ hs | replay _ _ _ hs | reject _ _ _ hs => exact hs
  | applied _ _ _ hdec =>
    rw [hdec] at hd
    cases ho : o.disposition <;> rw [ho] at hd <;> rcases hd with hd | hd <;> cases hd

theorem seen_mono (h : admitForwardEvent sha256 s event o = .ok r) :
    ∀ x ∈ s.seenEvents, x ∈ r.state.seenEvents := by
  cases admitForwardEvent_cases h with
  | conflict _ _ hs | replay _ _ _ hs | reject _ _ _ hs => rw [hs]; exact fun _ hx => hx
  | applied _ _ _ _ _ hseen => exact fun x hx => (hseen x).2 (.inl hx)

theorem AdmissionStep.mem_seenIds_of_open (hopen : Open sha256 s event)
    (hseen : ∀ x, x ∈ r.state.seenEvents ↔
      x ∈ s.seenEvents ∨ event.eventId ∉ s.seenIds ∧ x = event.seen sha256) :
    event.eventId ∈ r.state.seenIds := by
  rcases hopen with hnew | ⟨⟨x, hx, hid, -⟩, -⟩
  · exact mem_seenIds.2 ⟨event.seen sha256, (hseen _).2 (.inr ⟨hnew, rfl⟩), rfl⟩
  · exact mem_seenIds.2 ⟨x, (hseen x).2 (.inl hx), hid⟩

theorem CheckpointStep.ids_subset (h : CheckpointStep c event o c') :
    c'.ids ⊆ insert event.eventId c.ids := by
  intro id hid
  simp only [ForwardStateCheckpoint.ids, Finset.mem_union, Finset.mem_insert] at hid ⊢
  cases h with
  | same _ hc => rw [hc] at hid; exact .inr hid
  | accepted _ _ _ _ hp hb hc =>
    rw [hp, hb, hc, Finset.mem_insert, Finset.mem_erase] at hid
    tauto
  | gap _ _ _ hp hb hc | correction _ _ _ _ hp hb hc =>
    rw [hp, hb, hc, Finset.mem_insert] at hid; tauto
  | duplicate _ _ hp hb hc | outOfOrder _ _ hp hb hc => rw [hp, hb, hc] at hid; exact .inr hid

theorem CheckpointStep.ids_mono (h : CheckpointStep c event o c') :
    c.ids ⊆ c'.ids := by
  intro id hid
  simp only [ForwardStateCheckpoint.ids, Finset.mem_union] at hid ⊢
  cases h with
  | same _ hc => rwa [hc]
  | accepted _ _ _ _ hp hb hc =>
    rw [hp, hb, hc, Finset.mem_insert, Finset.mem_erase]
    tauto
  | gap _ _ _ hp hb hc | correction _ _ _ _ hp hb hc => rw [hp, hb, hc, Finset.mem_insert]; tauto
  | duplicate _ _ hp hb hc | outOfOrder _ _ hp hb hc => rwa [hp, hb, hc]

def Known (s : ForwardLiveAdmissionState) : Prop := s.checkpoint.ids ⊆ s.seenIds

theorem seenIds_mono (h : admitForwardEvent sha256 s event o = .ok r) :
    s.seenIds ⊆ r.state.seenIds := by
  intro id hid
  obtain ⟨x, hx, rfl⟩ := mem_seenIds.1 hid
  exact mem_seenIds.2 ⟨x, seen_mono h x hx, rfl⟩

theorem known_step (h : admitForwardEvent sha256 s event o = .ok r) (hk : Known s) :
    Known r.state := by
  cases admitForwardEvent_cases h with
  | conflict _ _ hs | replay _ _ _ hs | reject _ _ _ hs => rwa [hs]
  | applied hopen _ happ _ _ hseen =>
    refine (applyCheckpointObservation_cases happ).ids_subset.trans ?_
    exact Finset.insert_subset (AdmissionStep.mem_seenIds_of_open hopen hseen)
      (hk.trans (seenIds_mono h))

end

/-! ## The start -/

theorem mem_warmupSeen {id : String} (h : w.finalEventId = some id) :
    ∃ x ∈ w.seen, x.eventId = id := by
  have hfp := w.fingerprint_iff
  rw [h, Option.isSome_some, Option.isSome_iff_exists] at hfp
  obtain ⟨fp, hfp⟩ := hfp
  unfold ForwardWarmupReceipt.seen
  split
  · next id' fp' h' _ =>
    obtain rfl := Option.some.inj (h'.symm.trans h)
    exact ⟨_, List.mem_singleton.2 rfl, rfl⟩
  · next hne => exact absurd hfp (hne id fp h)

theorem fromWarmup_spec {i : ForwardInstance} (h : fromWarmup sha256 i w = .ok s) :
    s.checkpoint.instance_ = i ∧ s.checkpoint.processedEventIds = w.finalEventId.toFinset ∧
      s.checkpoint.bufferedEventIds = ∅ ∧ s.checkpoint.correctionEventIds = ∅ ∧
      s.seenEvents = sortBy ForwardSeenEvent.eventId w.seen ∧
      s.warmupReceiptFingerprint = w.fingerprint sha256 ∧ w.finalEventId = i.lastEventId ∧
      w.finalEventSequence = i.lastEventSequence ∧ w.instanceId = i.instanceId := by
  obtain ⟨_, -, h⟩ := bind_eq_ok.1 h
  obtain ⟨_, hid, h⟩ := bind_eq_ok.1 h
  obtain ⟨_, -, h⟩ := bind_eq_ok.1 h
  obtain ⟨_, -, h⟩ := bind_eq_ok.1 h
  obtain ⟨_, hcur, h⟩ := bind_eq_ok.1 h
  obtain ⟨c, hc, h⟩ := bind_eq_ok.1 h
  obtain ⟨h₁, h₂, h₃, h₄, -⟩ := makeCheckpoint_eq_ok hc
  obtain ⟨hs₁, hs₂, hs₃⟩ := makeLiveState_eq_ok h
  obtain ⟨hcur₁, hcur₂⟩ := ensure_eq_ok.1 hcur
  rw [hs₁]
  exact ⟨h₁, h₂, h₃, h₄, hs₃, hs₂, hcur₁, hcur₂, ensure_eq_ok.1 hid⟩

theorem known_fromWarmup {i : ForwardInstance} (h : fromWarmup sha256 i w = .ok s) : Known s := by
  obtain ⟨-, hp, hb, hc, hseen, -⟩ := fromWarmup_spec h
  intro id hid
  rw [ForwardStateCheckpoint.ids, hp, hb, hc] at hid
  simp only [Finset.union_empty, Option.mem_toFinset, Option.mem_def] at hid
  obtain ⟨x, hx, rfl⟩ := mem_warmupSeen hid
  exact mem_seenIds.2 ⟨x, by rw [hseen]; exact (mem_sortBy _).2 hx, rfl⟩

/-! ## Whole runs -/

/-- What holds of a run of admissions from `s₀` to `s`. -/
structure AdmissionInvariant (sha256 : String → Digest) (s₀ : ForwardLiveAdmissionState)
    (as : List Admitted) (s : ForwardLiveAdmissionState) : Prop where
  /-- The accepted events carry contiguous sequence numbers. -/
  contiguous : (acceptedEvents as).map (fun e => (e.sequence : ℤ)) =
    (List.range (acceptedEvents as).length).map fun n : ℕ => s₀.cursor + 1 + n
  /-- Each one is exactly one above the cursor before it. -/
  accepted_next : ∀ pre a post t u, as = pre ++ a :: post → Run (Admits sha256) s₀ pre t →
    Admits sha256 t a u → a.resolution.decision = .accepted →
    (a.event.sequence : ℤ) = t.cursor + 1 ∧ u.cursor = a.event.sequence
  /-- No event id is accepted twice, nor one that the warm-up processed. -/
  accepted_once : ((acceptedEvents as).map CanonicalForwardEvent.eventId).Nodup ∧
    ∀ e ∈ acceptedEvents as, e.eventId ∉ s₀.checkpoint.processedEventIds
  /-- What was seen at any point is seen at the end, and an id has one fingerprint. -/
  seen_forever : ∀ pre post t, as = pre ++ post → Run (Admits sha256) s₀ pre t →
    Run (Admits sha256) t post s → ∀ x ∈ t.seenEvents, ∀ y ∈ s.seenEvents,
      x.eventId = y.eventId → x.eventFingerprint = y.eventFingerprint
  seen_kept : ∀ pre post t, as = pre ++ post → Run (Admits sha256) s₀ pre t →
    Run (Admits sha256) t post s → ∀ x ∈ t.seenEvents, x ∈ s.seenEvents
  /-- The id sets of the checkpoint are disjoint and hold only seen ids. -/
  disjoint : Disjoint s.checkpoint.processedEventIds s.checkpoint.bufferedEventIds ∧
    Disjoint s.checkpoint.processedEventIds s.checkpoint.correctionEventIds ∧
    Disjoint s.checkpoint.bufferedEventIds s.checkpoint.correctionEventIds
  known : s.checkpoint.ids ⊆ s.seenIds
  correctionCount : s.checkpoint.instance_.correctionCount = s.checkpoint.correctionEventIds.card
  /-- A refused call returns the very same state. -/
  refused_same : ∀ pre a post t u, as = pre ++ a :: post → Run (Admits sha256) s₀ pre t →
    Admits sha256 t a u →
    a.resolution.decision = .conflict ∨ a.resolution.decision = .reject → u = t

theorem acceptedEvents_snoc_accepted {a : Admitted} (h : a.resolution.decision = .accepted) :
    acceptedEvents (as ++ [a]) = acceptedEvents as ++ [a.event] := by
  simp [acceptedEvents, h]

theorem acceptedEvents_snoc_other {a : Admitted}
    (h : a.resolution.decision ≠ .accepted) : acceptedEvents (as ++ [a]) = acceptedEvents as := by
  simp [acceptedEvents, h]

theorem accepted_run {s₀ : ForwardLiveAdmissionState} (h : Run (Admits sha256) s₀ as s) :
    (acceptedEvents as).map (fun e => (e.sequence : ℤ)) =
        (List.range (acceptedEvents as).length).map (fun n : ℕ => s₀.cursor + 1 + n) ∧
      s.cursor = s₀.cursor + (acceptedEvents as).length ∧
      ((acceptedEvents as).map CanonicalForwardEvent.eventId).Nodup ∧
      (∀ e ∈ acceptedEvents as, e.eventId ∉ s₀.checkpoint.processedEventIds) ∧
      s.checkpoint.processedEventIds = s₀.checkpoint.processedEventIds ∪
        ((acceptedEvents as).map CanonicalForwardEvent.eventId).toFinset := by
  induction h with
  | nil => simp [acceptedEvents]
  | @snoc t u ls a _ ha ih =>
    obtain ⟨hseq, hcur, hnd, hnew, hproc⟩ := ih
    obtain ⟨ha, rfl⟩ := ha
    by_cases hd : a.resolution.decision = .accepted
    · obtain ⟨hs, hid, hcur', hproc'⟩ := accepted_spec ha hd
      rw [hproc, Finset.mem_union, List.mem_toFinset, not_or] at hid
      rw [acceptedEvents_snoc_accepted hd]
      refine ⟨?_, ?_, ?_, ?_, ?_⟩
      · rw [List.map_append, hseq, List.length_append, List.length_singleton, List.range_succ,
          List.map_append, List.map_singleton, List.map_singleton, hs, hcur]
        congr 2
        omega
      · rw [hcur', hs, hcur, List.length_append, List.length_singleton]
        push_cast
        omega
      · rw [List.map_append, List.map_singleton, List.nodup_append]
        refine ⟨hnd, List.nodup_singleton _, ?_⟩
        intro x hx y hy hxy
        rw [List.mem_singleton] at hy
        exact hid.2 (hy ▸ hxy ▸ hx)
      · intro e he
        rcases List.mem_append.1 he with he | he
        · exact hnew e he
        · rw [List.mem_singleton] at he
          exact he ▸ hid.1
      · rw [hproc', hproc, List.map_append, List.map_singleton]
        ext x
        simp only [Finset.mem_insert, Finset.mem_union, List.mem_toFinset, List.mem_append,
          List.mem_singleton]
        tauto
    · obtain ⟨hcur', hproc'⟩ := not_accepted_spec ha hd
      rw [acceptedEvents_snoc_other hd]
      exact ⟨hseq, hcur'.trans hcur, hnd, hnew, hproc'.trans hproc⟩

theorem seen_run (h : Run (Admits sha256) s as t) {x : ForwardSeenEvent} (hx : x ∈ s.seenEvents) :
    x ∈ t.seenEvents := by
  refine h.invariant (P := fun t => x ∈ t.seenEvents) ?_ hx
  rintro s a t hs ⟨ha, rfl⟩
  exact seen_mono ha x hs

theorem known_run (h : Run (Admits sha256) s as t) (hs : Known s) : Known t := by
  refine h.invariant ?_ hs
  rintro s a t hs ⟨ha, rfl⟩
  exact known_step ha hs

/-- **The invariant of live admission**, for every run from a warm-up and
    whatever observations the calls supply. -/
theorem admission_run {i : ForwardInstance} {w : ForwardWarmupReceipt}
    {s₀ s : ForwardLiveAdmissionState} {as : List Admitted}
    (h₀ : fromWarmup sha256 i w = .ok s₀) (h : Run (Admits sha256) s₀ as s) :
    AdmissionInvariant sha256 s₀ as s := by
  obtain ⟨hseq, -, hnd, hnew, -⟩ := accepted_run h
  exact {
    contiguous := hseq
    accepted_next := by
      rintro pre a post t u - - ⟨ha, rfl⟩ hd
      obtain ⟨hnext, -, hmoved, -⟩ := accepted_spec ha hd
      exact ⟨hnext, hmoved⟩
    accepted_once := ⟨hnd, hnew⟩
    seen_forever := fun _ _ _ _ _ hpost x hx y hy hxy =>
      congrArg ForwardSeenEvent.eventFingerprint (seenEvent_unique (seen_run hpost hx) hy hxy)
    seen_kept := fun _ _ _ _ _ hpost x hx => seen_run hpost hx
    disjoint := ⟨s.checkpoint.disjoint_processed_buffered,
      s.checkpoint.disjoint_processed_corrections, s.checkpoint.disjoint_buffered_corrections⟩
    known := known_run h (known_fromWarmup h₀)
    correctionCount := s.checkpoint.correctionCount_eq
    refused_same := by
      rintro pre a post t u - - ⟨ha, rfl⟩ hd
      exact refused_spec ha hd }

/-! ## A sample run -/

def admitAll (sha256 : String → Digest) (s : ForwardLiveAdmissionState) :
    List (CanonicalForwardEvent × ForwardEventObservation) →
      Except PyError (List Admitted × ForwardLiveAdmissionState)
  | [] => .ok ([], s)
  | (event, o) :: rest =>
    admitForwardEvent sha256 s event o >>= fun r =>
      admitAll sha256 r.state rest >>= fun (as, t) => .ok (⟨event, o, r⟩ :: as, t)

theorem run_of_admitAll {calls : List (CanonicalForwardEvent × ForwardEventObservation)}
    (h : admitAll sha256 s calls = .ok (as, t)) : Run (Admits sha256) s as t := by
  induction calls generalizing s as with
  | nil =>
    obtain ⟨rfl, rfl⟩ := Prod.mk.inj (Except.ok.inj h)
    exact .nil
  | cons call rest ih =>
    obtain ⟨r, hr, h⟩ := bind_eq_ok.1 h
    obtain ⟨⟨as', t'⟩, has, h⟩ := bind_eq_ok.1 h
    obtain ⟨rfl, rfl⟩ := Prod.mk.inj (Except.ok.inj h)
    exact .cons ⟨hr, rfl⟩ (ih has)

/-- A digest that keeps the whole text, so that it is injective. -/
def plainDigest (text : String) : Digest := ⟨text⟩

theorem plainDigest_injective : Function.Injective plainDigest := fun _ _ h => Digest.mk.inj h

/-- The instant `n` microseconds after the first one. -/
def clock (n : ℕ) (h : decide (n < 1000) = true := by exact Eq.refl true) : Instant :=
  ⟨n, lt_trans (of_decide_eq_true h) (by decide)⟩

def sampleInstance : ForwardInstance where
  instanceId := "forward-1"
  portfolioFingerprint := ⟨"portfolio"⟩
  warmupSnapshotFingerprint := ⟨"snapshot"⟩
  carryInMode := .flat
  state := .active
  lastEventId := none
  lastEventSequence := 0
  correctionCount := 0
  createdAt := clock 0
  updatedAt := clock 0
  instanceId_notBlank := Eq.refl true
  sequence_of_none := by simp
  createdAt_le_updatedAt := le_rfl

def sampleReceipt : ForwardWarmupReceipt where
  instanceId := "forward-1"
  warmupSnapshotFingerprint := ⟨"snapshot"⟩
  carryInMode := .flat
  warmupResultFingerprint := ⟨"result"⟩
  completedAt := clock 0
  instanceId_notBlank := Eq.refl true
  sequence_of_none := by simp
  finalEventId_notBlank := none_notBlank
  fingerprint_iff := rfl

def sampleEvent (id : String) (sequence : ℕ) (time arrived : Instant)
    (h : notBlank id = true := by exact Eq.refl true) : CanonicalForwardEvent where
  eventId := id
  sequence := sequence
  eventTime := time
  arrivedAt := arrived
  sourceDigest := ⟨"source"⟩
  eventId_notBlank := h
  correctionOf_notBlank := none_notBlank

def sampleState : ForwardLiveAdmissionState where
  checkpoint :=
    { instance_ := sampleInstance
      processedEventIds := ∅
      bufferedEventIds := ∅
      correctionEventIds := ∅
      duplicateCount := 0
      outOfOrderCount := 0
      processed_notBlank := by simp [NotBlankIds]
      buffered_notBlank := by simp [NotBlankIds]
      corrections_notBlank := by simp [NotBlankIds]
      disjoint_processed_buffered := by simp
      disjoint_processed_corrections := by simp
      disjoint_buffered_corrections := by simp
      cursor_processed := by simp [sampleInstance]
      correctionCount_eq := rfl }
  warmupReceiptFingerprint := sampleReceipt.fingerprint plainDigest
  seenEvents := []
  active := rfl
  sorted := List.Pairwise.nil

theorem fromWarmup_sample : fromWarmup plainDigest sampleInstance sampleReceipt = .ok sampleState :=
  by decide +kernel

def sampleCursor : ForwardCursor := {}

theorem accepted_ne_gap : ForwardEventDisposition.accepted ≠ .gap := by decide

/-- Event `1` arrives before event `0` and is delivered again after it. -/
def sampleCalls : List (CanonicalForwardEvent × ForwardEventObservation) :=
  let first := sampleEvent "a" 0 (clock 1) (clock 2)
  let second := sampleEvent "b" 1 (clock 2) (clock 3)
  [(second, gapObservation sampleCursor second false (by decide)),
    (first, plainObservation .accepted false (.at first) accepted_ne_gap),
    (second, plainObservation .accepted false (.at second) accepted_ne_gap)]

theorem admission_run_sample : ∃ as s, Run (Admits plainDigest) sampleState as s ∧
    as.map (fun a => a.resolution.decision) = [.gap, .accepted, .accepted] ∧
    AdmissionInvariant plainDigest sampleState as s := by
  have h : (admitAll plainDigest sampleState sampleCalls).toOption.map
      (fun p => p.1.map fun a => a.resolution.decision) = some [.gap, .accepted, .accepted] := by
    decide +kernel
  obtain ⟨⟨as, s⟩, hadmit, hdecisions⟩ := toOption_map_eq_some.1 h
  have hr := run_of_admitAll hadmit
  exact ⟨as, s, hr, hdecisions, admission_run fromWarmup_sample hr⟩

end ChartingPlatform
