/-
  The progress of live admission between two points of a run, pauses included:
  which events were accepted, and what they leave in the state.
-/
import ChartingPlatform.Forward.AdmissionRuns
import ChartingPlatform.Forward.Fingerprints

namespace ChartingPlatform

open Lib List

variable {sha256 : String → Digest}

/-! ## AdmissionMoves -/

/-- A move of live admission: an answered call, or a pause that has ended. -/
inductive AdmissionMove where
  | admitted (a : Admitted)
  | resumed (pausedAt resumedAt : Instant)

/-- The move leads from `s` to `t`. -/
def AdmissionMoves (sha256 : String → Digest) (s : ForwardLiveAdmissionState) :
    AdmissionMove → ForwardLiveAdmissionState → Prop
  | .admitted a, t => Admits sha256 s a t
  | .resumed pausedAt resumedAt, t => ∃ i j,
    transitionForwardInstance s.checkpoint.instance_ .paused pausedAt = .ok i ∧
      transitionForwardInstance i .active resumedAt = .ok j ∧
      makeCheckpoint j s.checkpoint.processedEventIds s.checkpoint.bufferedEventIds
        s.checkpoint.correctionEventIds s.checkpoint.duplicateCount s.checkpoint.outOfOrderCount =
        .ok t.checkpoint ∧
      t.warmupReceiptFingerprint = s.warmupReceiptFingerprint ∧ t.seenEvents = s.seenEvents

def AdmissionMove.accepted : AdmissionMove → Option CanonicalForwardEvent
  | .admitted a => if a.resolution.decision = .accepted then some a.event else none
  | .resumed _ _ => none

def acceptedMoves (ms : List AdmissionMove) : List CanonicalForwardEvent :=
  ms.filterMap AdmissionMove.accepted

def ForwardInstance.constants (i : ForwardInstance) : String × Digest × Digest × CarryInMode :=
  (i.instanceId, i.portfolioFingerprint, i.warmupSnapshotFingerprint, i.carryInMode)

def ForwardInstance.lastEvent (i : ForwardInstance) : Option String × ℕ :=
  (i.lastEventId, i.lastEventSequence)

/-- **The progress** from a base: the accepted events, and what they leave. -/
structure Progress (sha256 : String → Digest) (base : ForwardLiveAdmissionState)
    (accepted : List CanonicalForwardEvent) (s : ForwardLiveAdmissionState) : Prop where
  receipt : s.warmupReceiptFingerprint = base.warmupReceiptFingerprint
  constants : s.checkpoint.instance_.constants = base.checkpoint.instance_.constants
  ids : base.checkpoint.ids ⊆ s.checkpoint.ids
  processed : s.checkpoint.processedEventIds = base.checkpoint.processedEventIds ∪
    (accepted.map CanonicalForwardEvent.eventId).toFinset
  fresh : ∀ e ∈ accepted, e.eventId ∉ base.checkpoint.processedEventIds
  seen : ∀ e ∈ accepted, e.seen sha256 ∈ s.seenEvents
  lastEvent : s.checkpoint.instance_.lastEvent =
    (accepted.getLast?.map fun e => (some e.eventId, e.sequence)).getD
      base.checkpoint.instance_.lastEvent
  advances : base.cursor ≤ s.cursor

def Sourced (sha256 : String → Digest) (s : ForwardLiveAdmissionState) : Prop :=
  ∀ x ∈ s.seenEvents, x.eventId ∈ s.checkpoint.bufferedEventIds →
    ∃ e : CanonicalForwardEvent, x = e.seen sha256

/-! ## One admission -/

section
variable {s t base : ForwardLiveAdmissionState} {event : CanonicalForwardEvent}
  {o : ForwardEventObservation} {r : ForwardAdmissionResolution} {m : AdmissionMove}
  {c c' : ForwardStateCheckpoint} {accepted : List CanonicalForwardEvent} {i : ForwardInstance}

theorem CheckpointStep.constants_eq (h : CheckpointStep c event o c') :
    c'.instance_.constants = c.instance_.constants := by
  cases h with
  | same _ h => rw [h]
  | accepted _ _ _ h | correction _ _ _ h => rw [h]; rfl
  | gap _ _ h | duplicate _ h | outOfOrder _ h => rw [h]

theorem CheckpointStep.lastEvent_eq (h : CheckpointStep c event o c') :
    c'.instance_.lastEvent = c.instance_.lastEvent ∨
      o.disposition = .accepted ∧ c'.instance_.lastEvent = (some event.eventId, event.sequence) := by
  cases h with
  | same _ h => exact .inl (by rw [h])
  | accepted _ ho _ h => exact .inr ⟨ho, by rw [h]; rfl⟩
  | correction _ _ _ h => exact .inl (by rw [h]; rfl)
  | gap _ _ h | duplicate _ h | outOfOrder _ h => exact .inl (by rw [h])

theorem CheckpointStep.buffered_subset (h : CheckpointStep c event o c') :
    c'.bufferedEventIds ⊆ insert event.eventId c.bufferedEventIds := by
  cases h with
  | same _ h => rw [h]; exact Finset.subset_insert _ _
  | accepted _ _ _ _ _ h =>
    rw [h]
    exact (Finset.erase_subset _ _).trans (Finset.subset_insert _ _)
  | correction _ _ _ _ _ h => rw [h]; exact Finset.subset_insert _ _
  | gap _ _ _ _ h => rw [h]
  | duplicate _ _ _ h | outOfOrder _ _ _ h => rw [h]; exact Finset.subset_insert _ _

theorem seen_of_open (hsha : Function.Injective sha256) (hs : Sourced sha256 s)
    (hopen : Open sha256 s event)
    (hseen : ∀ x, x ∈ t.seenEvents ↔
      x ∈ s.seenEvents ∨ event.eventId ∉ s.seenIds ∧ x = event.seen sha256) :
    event.seen sha256 ∈ t.seenEvents := by
  rcases hopen with hnew | ⟨⟨x, hx, hid, hfp⟩, hbuffered⟩
  · exact (hseen _).2 (.inr ⟨hnew, rfl⟩)
  · obtain ⟨e, rfl⟩ := hs x hx (hid ▸ hbuffered)
    dsimp only [CanonicalForwardEvent.seen] at hfp
    obtain rfl := event_of_fingerprint hsha hfp
    exact (hseen _).2 (.inl hx)

theorem Sourced.admission (hsha : Function.Injective sha256) (hs : Sourced sha256 s)
    (h : admitForwardEvent sha256 s event o = .ok r) : Sourced sha256 r.state := by
  cases admitForwardEvent_cases h with
  | conflict _ _ hsame | replay _ _ _ hsame | reject _ _ _ hsame => rwa [hsame]
  | applied hopen _ happ _ _ hseen =>
    have hown := seen_of_open hsha hs hopen hseen
    intro x hx hbuffered
    rcases Finset.mem_insert.1
        ((applyCheckpointObservation_cases happ).buffered_subset hbuffered) with hid | hold
    · exact ⟨event, seenEvent_unique hx hown hid⟩
    · rcases (hseen x).1 hx with hx | ⟨-, rfl⟩
      · exact hs x hx hold
      · exact ⟨event, rfl⟩

theorem Progress.admission (hsha : Function.Injective sha256) (h : Progress sha256 base accepted s)
    (hs : Sourced sha256 s) (hr : admitForwardEvent sha256 s event o = .ok r) :
    Progress sha256 base
      (accepted ++ if r.decision = .accepted then [event] else []) r.state := by
  have hunchanged : r.state = s → r.decision ≠ .accepted → Progress sha256 base
      (accepted ++ if r.decision = .accepted then [event] else []) r.state := by
    intro hsame hd
    rw [if_neg hd, append_nil, hsame]
    exact h
  cases admitForwardEvent_cases hr with
  | conflict _ hd hsame | replay _ _ hd hsame | reject _ _ hd hsame =>
    exact hunchanged hsame (by rw [hd]; exact nofun)
  | applied hopen _ happ hd hreceipt hseen =>
    have hstep := applyCheckpointObservation_cases happ
    have hids := h.ids.trans hstep.ids_mono
    by_cases haccepted : r.decision = .accepted
    · obtain ⟨hnext, hnew, hcursor, hprocessed⟩ := accepted_spec hr haccepted
      rw [if_pos haccepted]
      have hlast : r.state.checkpoint.instance_.lastEvent = (some event.eventId, event.sequence) := by
        cases hstep with
        | accepted _ _ _ hi => rw [hi]; rfl
        | same ha =>
          have ho : o.disposition = .accepted := by
            rw [hd] at haccepted
            cases hdisposition : o.disposition <;> rw [hdisposition] at haccepted <;>
              first | rfl | cases haccepted
          rcases ha with ⟨-, hm⟩ | ⟨ho', -⟩ | ⟨ho', -⟩
          · exact absurd hm hnew
          · rw [ho] at ho'; cases ho'
          · rw [ho] at ho'; cases ho'
        | gap ho | correction ho | duplicate ho | outOfOrder ho =>
          rw [hd, ho] at haccepted; cases haccepted
      exact
        { receipt := hreceipt.trans h.receipt
          constants := hstep.constants_eq.trans h.constants
          ids := hids
          processed := by
            rw [hprocessed, h.processed, map_append, map_singleton]
            ext id
            simp only [Finset.mem_insert, Finset.mem_union, mem_toFinset, mem_append,
              mem_singleton]
            tauto
          fresh := by
            intro e he
            rcases mem_append.1 he with he | he
            · exact h.fresh e he
            · rw [mem_singleton.1 he]
              rw [h.processed, Finset.mem_union, not_or] at hnew
              exact hnew.1
          seen := by
            intro e he
            rcases mem_append.1 he with he | he
            · exact seen_mono hr _ (h.seen e he)
            · rw [mem_singleton.1 he]
              exact seen_of_open hsha hs hopen hseen
          lastEvent := by rw [hlast, getLast?_concat]; rfl
          advances := by
            rw [hcursor, hnext]
            exact h.advances.trans (by omega) }
    · obtain ⟨hcursor, hprocessed⟩ := not_accepted_spec hr haccepted
      rw [if_neg haccepted, append_nil]
      have hlast : r.state.checkpoint.instance_.lastEvent = s.checkpoint.instance_.lastEvent := by
        rcases hstep.lastEvent_eq with hsame | ⟨ho, -⟩
        · exact hsame
        · exact absurd (by rw [hd, ho]; rfl) haccepted
      exact
        { receipt := hreceipt.trans h.receipt
          constants := hstep.constants_eq.trans h.constants
          ids := hids
          processed := hprocessed.trans h.processed
          fresh := h.fresh
          seen := fun e he => seen_mono hr _ (h.seen e he)
          lastEvent := hlast.trans h.lastEvent
          advances := h.advances.trans (le_of_eq hcursor.symm) }

/-! ## AdmissionMoves and runs -/

theorem transition_keeps {j : ForwardInstance} {target : ForwardState} {now : Instant}
    (h : transitionForwardInstance i target now = .ok j) :
    j.constants = i.constants ∧ j.lastEvent = i.lastEvent := by
  unfold transitionForwardInstance at h
  split_ifs at h
  obtain rfl := Except.ok.inj h
  exact ⟨rfl, rfl⟩

theorem cursorSequence_of_lastEvent {j : ForwardInstance} (h : i.lastEvent = j.lastEvent) :
    i.cursorSequence = j.cursorSequence := by
  obtain ⟨hid, hseq⟩ := Prod.mk.inj h
  rw [ForwardInstance.cursorSequence, ForwardInstance.cursorSequence, hid, hseq]

theorem Progress.step (hsha : Function.Injective sha256) (h : Progress sha256 base accepted s)
    (hs : Sourced sha256 s) (hm : AdmissionMoves sha256 s m t) :
    Progress sha256 base (accepted ++ m.accepted.toList) t ∧ Sourced sha256 t := by
  cases m with
  | admitted a =>
    obtain ⟨ha, rfl⟩ := hm
    refine ⟨?_, hs.admission hsha ha⟩
    have hnext := h.admission hsha hs ha
    rw [AdmissionMove.accepted]
    by_cases hd : a.resolution.decision = .accepted
    · rw [if_pos hd] at hnext ⊢
      exact hnext
    · rw [if_neg hd] at hnext ⊢
      exact hnext
  | resumed pausedAt resumedAt =>
    obtain ⟨i, j, hpaused, hresumed, hc, hreceipt, hseen⟩ := hm
    obtain ⟨hinstance, hprocessed, hbuffered, hcorrections, -, -⟩ := makeCheckpoint_eq_ok hc
    obtain ⟨hi, hilast⟩ := transition_keeps hpaused
    obtain ⟨hj, hjlast⟩ := transition_keeps hresumed
    have hlast : t.checkpoint.instance_.lastEvent = s.checkpoint.instance_.lastEvent := by
      rw [hinstance, hjlast, hilast]
    have hids : t.checkpoint.ids = s.checkpoint.ids := by
      rw [ForwardStateCheckpoint.ids, hprocessed, hbuffered, hcorrections]
      rfl
    refine ⟨?_, ?_⟩
    · rw [AdmissionMove.accepted, Option.toList_none, append_nil]
      exact
        { receipt := hreceipt.trans h.receipt
          constants := by rw [hinstance, hj, hi, h.constants]
          ids := by rw [hids]; exact h.ids
          processed := hprocessed.trans h.processed
          fresh := h.fresh
          seen := by rw [hseen]; exact h.seen
          lastEvent := hlast.trans h.lastEvent
          advances := h.advances.trans (le_of_eq (cursorSequence_of_lastEvent hlast.symm)) }
    · intro x hx
      rw [hbuffered]
      exact hs x (hseen ▸ hx)

/-- **Progress of a run**, from any point on. -/
theorem progress_run (hsha : Function.Injective sha256) {ms : List AdmissionMove}
    (hs : Sourced sha256 s) (h : Run (AdmissionMoves sha256) s ms t) :
    Progress sha256 s (acceptedMoves ms) t ∧ Sourced sha256 t := by
  induction h with
  | nil =>
    refine ⟨?_, hs⟩
    exact
      { receipt := rfl
        constants := rfl
        ids := Finset.Subset.refl _
        processed := by simp [acceptedMoves]
        fresh := by simp [acceptedMoves]
        seen := by simp [acceptedMoves]
        lastEvent := rfl
        advances := le_rfl }
  | @snoc u v ls m _ hm ih =>
    have hsnoc : acceptedMoves (ls ++ [m]) = acceptedMoves ls ++ m.accepted.toList := by
      rw [acceptedMoves, filterMap_append]
      cases hm' : m.accepted with
      | none | some e => simp [acceptedMoves, hm']
    rw [hsnoc]
    exact ih.1.step hsha ih.2 hm

theorem sourced_fromWarmup {w : ForwardWarmupReceipt}
    (h : fromWarmup sha256 i w = .ok s) : Sourced sha256 s := by
  obtain ⟨-, -, hbuffered, -⟩ := fromWarmup_spec h
  intro x _ hx
  rw [hbuffered] at hx
  exact absurd hx (Finset.notMem_empty _)

end

end ChartingPlatform
