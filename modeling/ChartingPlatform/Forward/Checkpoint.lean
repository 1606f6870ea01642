/-
  Forward-state checkpoints (`forward_state.py`): the three event-id sets and
  counters beside an instance, the idempotent application of an observation,
  and the delta that links a checkpoint to its parent.
-/
import ChartingPlatform.Forward.Lifecycle

namespace ChartingPlatform

open Lib

/-! ## Checkpoints -/

def NotBlankIds (ids : Finset String) : Prop := ∀ id ∈ ids, notBlank id = true

instance (ids : Finset String) : Decidable (NotBlankIds ids) :=
  inferInstanceAs (Decidable (∀ id ∈ ids, notBlank id = true))

/-- `ForwardStateCheckpoint`. -/
structure ForwardStateCheckpoint where
  instance_ : ForwardInstance
  processedEventIds : Finset String
  bufferedEventIds : Finset String
  correctionEventIds : Finset String
  duplicateCount : ℕ
  outOfOrderCount : ℕ
  processed_notBlank : NotBlankIds processedEventIds
  buffered_notBlank : NotBlankIds bufferedEventIds
  corrections_notBlank : NotBlankIds correctionEventIds
  disjoint_processed_buffered : Disjoint processedEventIds bufferedEventIds
  disjoint_processed_corrections : Disjoint processedEventIds correctionEventIds
  disjoint_buffered_corrections : Disjoint bufferedEventIds correctionEventIds
  cursor_processed : ∀ id ∈ instance_.lastEventId, id ∈ processedEventIds
  correctionCount_eq : instance_.correctionCount = correctionEventIds.card
  deriving DecidableEq

/-- The exception `_event_ids` raises. -/
def eventIdsError (fieldName : String) : PyError :=
  valueError (fieldName ++ " must contain non-empty event ids")

/-- `ForwardStateCheckpoint.__post_init__`. -/
def makeCheckpoint (i : ForwardInstance) (processed buffered corrections : Finset String)
    (duplicateCount outOfOrderCount : ℕ) : Except PyError ForwardStateCheckpoint :=
  if hp : ¬ NotBlankIds processed then .error (eventIdsError "processed_event_ids")
  else if hb : ¬ NotBlankIds buffered then .error (eventIdsError "buffered_event_ids")
  else if hc : ¬ NotBlankIds corrections then .error (eventIdsError "correction_event_ids")
  else if hd : ¬ (Disjoint processed buffered ∧ Disjoint processed corrections ∧
      Disjoint buffered corrections) then
    .error (valueError "checkpoint event-id sets must be disjoint")
  else if hl : ¬ ∀ id ∈ i.lastEventId, id ∈ processed then
    .error (valueError "checkpoint processed events must include the instance cursor event")
  else if hn : i.correctionCount ≠ corrections.card then
    .error (valueError "checkpoint corrections must match the instance correction count")
  else .ok
    { instance_ := i
      processedEventIds := processed
      bufferedEventIds := buffered
      correctionEventIds := corrections
      duplicateCount := duplicateCount
      outOfOrderCount := outOfOrderCount
      processed_notBlank := not_not.1 hp
      buffered_notBlank := not_not.1 hb
      corrections_notBlank := not_not.1 hc
      disjoint_processed_buffered := (not_not.1 hd).1
      disjoint_processed_corrections := (not_not.1 hd).2.1
      disjoint_buffered_corrections := (not_not.1 hd).2.2
      cursor_processed := not_not.1 hl
      correctionCount_eq := not_not.1 hn }

def idsToPy (ids : Finset String) : PyValue := .set true ((sortedList ids).map .str)

def ForwardStateCheckpoint.toPy (c : ForwardStateCheckpoint) : PyValue :=
  .dataclass "app.strategy_lab_v2.forward_state.ForwardStateCheckpoint"
    [({ name := "instance" }, c.instance_.toPy),
      ({ name := "processed_event_ids" }, idsToPy c.processedEventIds),
      ({ name := "buffered_event_ids" }, idsToPy c.bufferedEventIds),
      ({ name := "correction_event_ids" }, idsToPy c.correctionEventIds),
      ({ name := "duplicate_count" }, .int c.duplicateCount),
      ({ name := "out_of_order_count" }, .int c.outOfOrderCount)]

/-- `ForwardStateCheckpoint.fingerprint`. -/
def ForwardStateCheckpoint.fingerprint (sha256 : String → Digest) (c : ForwardStateCheckpoint) :
    Digest := digest sha256 c.toPy

def ForwardStateCheckpoint.ids (c : ForwardStateCheckpoint) : Finset String :=
  c.processedEventIds ∪ c.bufferedEventIds ∪ c.correctionEventIds

def alreadyApplied (c : ForwardStateCheckpoint) (event : CanonicalForwardEvent)
    (o : ForwardEventObservation) : Prop :=
  (o.disposition = .accepted ∧ event.eventId ∈ c.processedEventIds) ∨
    (o.disposition = .gap ∧ event.eventId ∈ c.bufferedEventIds) ∨
    (o.disposition = .correction ∧ event.eventId ∈ c.correctionEventIds)

instance (c : ForwardStateCheckpoint) (event : CanonicalForwardEvent)
    (o : ForwardEventObservation) : Decidable (alreadyApplied c event o) :=
  inferInstanceAs (Decidable
    ((o.disposition = .accepted ∧ event.eventId ∈ c.processedEventIds) ∨
      (o.disposition = .gap ∧ event.eventId ∈ c.bufferedEventIds) ∨
      (o.disposition = .correction ∧ event.eventId ∈ c.correctionEventIds)))

def updatedCheckpoint (c : ForwardStateCheckpoint) (i : ForwardInstance) (eventId : String) :
    ForwardEventDisposition → Except PyError ForwardStateCheckpoint
  | .accepted => makeCheckpoint i (insert eventId c.processedEventIds) (c.bufferedEventIds.erase eventId)
      c.correctionEventIds c.duplicateCount c.outOfOrderCount
  | .gap => makeCheckpoint i c.processedEventIds (insert eventId c.bufferedEventIds)
      c.correctionEventIds c.duplicateCount c.outOfOrderCount
  | .correction => makeCheckpoint i c.processedEventIds c.bufferedEventIds
      (insert eventId c.correctionEventIds) c.duplicateCount c.outOfOrderCount
  | .duplicate => makeCheckpoint i c.processedEventIds c.bufferedEventIds c.correctionEventIds
      (c.duplicateCount + 1) c.outOfOrderCount
  | .outOfOrder => makeCheckpoint i c.processedEventIds c.bufferedEventIds c.correctionEventIds
      c.duplicateCount (c.outOfOrderCount + 1)

/-- `apply_checkpoint_observation`. -/
def applyCheckpointObservation (c : ForwardStateCheckpoint) (event : CanonicalForwardEvent)
    (o : ForwardEventObservation) : Except PyError ForwardStateCheckpoint :=
  if alreadyApplied c event o then .ok c
  else
    applyForwardEventObservation c.instance_ event o >>= fun i =>
      updatedCheckpoint c i event.eventId o.disposition

/-! ## What an application does -/

section
variable {i : ForwardInstance} {processed buffered corrections : Finset String} {d o : ℕ}

theorem makeCheckpoint_eq_ok {c : ForwardStateCheckpoint}
    (h : makeCheckpoint i processed buffered corrections d o = .ok c) :
    c.instance_ = i ∧ c.processedEventIds = processed ∧ c.bufferedEventIds = buffered ∧
      c.correctionEventIds = corrections ∧ c.duplicateCount = d ∧ c.outOfOrderCount = o := by
  unfold makeCheckpoint at h
  split_ifs at h
  obtain rfl := Except.ok.inj h
  exact ⟨rfl, rfl, rfl, rfl, rfl, rfl⟩

theorem makeCheckpoint_of (hp : NotBlankIds processed) (hb : NotBlankIds buffered)
    (hc : NotBlankIds corrections) (hpb : Disjoint processed buffered)
    (hpc : Disjoint processed corrections) (hbc : Disjoint buffered corrections)
    (hl : ∀ id ∈ i.lastEventId, id ∈ processed) (hn : i.correctionCount = corrections.card) :
    makeCheckpoint i processed buffered corrections d o =
      .ok ⟨i, processed, buffered, corrections, d, o, hp, hb, hc, hpb, hpc, hbc, hl, hn⟩ := by
  unfold makeCheckpoint
  rw [dif_neg (not_not.2 hp), dif_neg (not_not.2 hb), dif_neg (not_not.2 hc),
    dif_neg (not_not.2 ⟨hpb, hpc, hbc⟩), dif_neg (not_not.2 hl), dif_neg (not_not.2 hn)]

end

theorem makeCheckpoint_self (c : ForwardStateCheckpoint) :
    makeCheckpoint c.instance_ c.processedEventIds c.bufferedEventIds
      c.correctionEventIds c.duplicateCount c.outOfOrderCount = .ok c :=
  makeCheckpoint_of c.processed_notBlank c.buffered_notBlank c.corrections_notBlank
    c.disjoint_processed_buffered c.disjoint_processed_corrections
    c.disjoint_buffered_corrections c.cursor_processed c.correctionCount_eq

/-- Everything a successful `apply_checkpoint_observation` can do. -/
inductive CheckpointStep (c : ForwardStateCheckpoint) (event : CanonicalForwardEvent)
    (o : ForwardEventObservation) (c' : ForwardStateCheckpoint) : Prop
  | same : alreadyApplied c event o → c' = c → CheckpointStep c event o c'
  | accepted (h : c.instance_.updatedAt ≤ event.arrivedAt) : o.disposition = .accepted →
      event.eventId ∉ c.processedEventIds → c'.instance_ = c.instance_.advance event h →
      c'.processedEventIds = insert event.eventId c.processedEventIds →
      c'.bufferedEventIds = c.bufferedEventIds.erase event.eventId →
      c'.correctionEventIds = c.correctionEventIds → c'.duplicateCount = c.duplicateCount →
      c'.outOfOrderCount = c.outOfOrderCount → CheckpointStep c event o c'
  | gap : o.disposition = .gap → event.eventId ∉ c.bufferedEventIds →
      c'.instance_ = c.instance_ → c'.processedEventIds = c.processedEventIds →
      c'.bufferedEventIds = insert event.eventId c.bufferedEventIds →
      c'.correctionEventIds = c.correctionEventIds → c'.duplicateCount = c.duplicateCount →
      c'.outOfOrderCount = c.outOfOrderCount → CheckpointStep c event o c'
  | correction : o.disposition = .correction → event.correctionOf ≠ none →
      event.eventId ∉ c.correctionEventIds → c'.instance_ = c.instance_.corrected event →
      c'.processedEventIds = c.processedEventIds → c'.bufferedEventIds = c.bufferedEventIds →
      c'.correctionEventIds = insert event.eventId c.correctionEventIds →
      c'.duplicateCount = c.duplicateCount → c'.outOfOrderCount = c.outOfOrderCount →
      CheckpointStep c event o c'
  | duplicate : o.disposition = .duplicate → c'.instance_ = c.instance_ →
      c'.processedEventIds = c.processedEventIds → c'.bufferedEventIds = c.bufferedEventIds →
      c'.correctionEventIds = c.correctionEventIds →
      c'.duplicateCount = c.duplicateCount + 1 → c'.outOfOrderCount = c.outOfOrderCount →
      CheckpointStep c event o c'
  | outOfOrder : o.disposition = .outOfOrder → c'.instance_ = c.instance_ →
      c'.processedEventIds = c.processedEventIds → c'.bufferedEventIds = c.bufferedEventIds →
      c'.correctionEventIds = c.correctionEventIds → c'.duplicateCount = c.duplicateCount →
      c'.outOfOrderCount = c.outOfOrderCount + 1 → CheckpointStep c event o c'

theorem applyCheckpointObservation_cases {c c' : ForwardStateCheckpoint}
    {event : CanonicalForwardEvent} {o : ForwardEventObservation}
    (h : applyCheckpointObservation c event o = .ok c') : CheckpointStep c event o c' := by
  unfold applyCheckpointObservation at h
  split_ifs at h with ha
  · exact .same ha (Except.ok.inj h).symm
  · obtain ⟨i, hi, h⟩ := bind_eq_ok.1 h
    cases applyForwardEventObservation_cases hi with
    | accepted hle hd =>
      rw [hd] at h
      obtain ⟨h₁, h₂, h₃, h₄, h₅, h₆⟩ := makeCheckpoint_eq_ok h
      exact .accepted hle hd (fun hm => ha (.inl ⟨hd, hm⟩)) h₁ h₂ h₃ h₄ h₅ h₆
    | correction hd hne =>
      rw [hd] at h
      obtain ⟨h₁, h₂, h₃, h₄, h₅, h₆⟩ := makeCheckpoint_eq_ok h
      exact .correction hd hne (fun hm => ha (.inr (.inr ⟨hd, hm⟩))) h₁ h₂ h₃ h₄ h₅ h₆
    | unchanged hna hnc =>
      cases hd : o.disposition with
      | accepted => exact absurd hd hna
      | correction => exact absurd hd hnc
      | gap =>
        rw [hd] at h
        obtain ⟨h₁, h₂, h₃, h₄, h₅, h₆⟩ := makeCheckpoint_eq_ok h
        exact .gap hd (fun hm => ha (.inr (.inl ⟨hd, hm⟩))) h₁ h₂ h₃ h₄ h₅ h₆
      | duplicate =>
        rw [hd] at h
        obtain ⟨h₁, h₂, h₃, h₄, h₅, h₆⟩ := makeCheckpoint_eq_ok h
        exact .duplicate hd h₁ h₂ h₃ h₄ h₅ h₆
      | outOfOrder =>
        rw [hd] at h
        obtain ⟨h₁, h₂, h₃, h₄, h₅, h₆⟩ := makeCheckpoint_eq_ok h
        exact .outOfOrder hd h₁ h₂ h₃ h₄ h₅ h₆

/-! ## Transitions between checkpoints -/

/-- The ids that a transition adds to one set and removes from it. -/
structure SetDelta where
  added : Finset String
  removed : Finset String
  added_notBlank : NotBlankIds added
  removed_notBlank : NotBlankIds removed
  disjoint : Disjoint added removed
  deriving DecidableEq

/-- `values - prior` and `prior - values`. -/
def SetDelta.between (prior values : Finset String) (hp : NotBlankIds prior)
    (hv : NotBlankIds values) : SetDelta where
  added := values \ prior
  removed := prior \ values
  added_notBlank := fun id hid => hv id (Finset.mem_sdiff.1 hid).1
  removed_notBlank := fun id hid => hp id (Finset.mem_sdiff.1 hid).1
  disjoint := Finset.disjoint_left.2 fun _ h h' =>
    (Finset.mem_sdiff.1 h').2 (Finset.mem_sdiff.1 h).1

/-- `apply_set`. -/
def SetDelta.apply (d : SetDelta) (prior : Finset String) : Except PyError (Finset String) := do
  ensure (d.removed ⊆ prior ∧ Disjoint prior d.added)
    (valueError "checkpoint transition event-set delta is inconsistent")
  return prior \ d.removed ∪ d.added

/-- `ForwardCheckpointTransition`. -/
structure ForwardCheckpointTransition where
  checkpointFingerprint : Digest
  previousCheckpointFingerprint : Option Digest
  instance_ : ForwardInstance
  processed : SetDelta
  buffered : SetDelta
  corrections : SetDelta
  duplicateCount : ℕ
  outOfOrderCount : ℕ
  not_own_parent : previousCheckpointFingerprint ≠ some checkpointFingerprint
  deriving DecidableEq

def ForwardCheckpointTransition.toPy (t : ForwardCheckpointTransition) : PyValue :=
  .dataclass "app.strategy_lab_v2.forward_state.ForwardCheckpointTransition"
    [({ name := "checkpoint_fingerprint" }, .str t.checkpointFingerprint.text),
      ({ name := "previous_checkpoint_fingerprint" },
        optionText (t.previousCheckpointFingerprint.map Digest.text)),
      ({ name := "instance" }, t.instance_.toPy),
      ({ name := "processed_added" }, idsToPy t.processed.added),
      ({ name := "processed_removed" }, idsToPy t.processed.removed),
      ({ name := "buffered_added" }, idsToPy t.buffered.added),
      ({ name := "buffered_removed" }, idsToPy t.buffered.removed),
      ({ name := "corrections_added" }, idsToPy t.corrections.added),
      ({ name := "corrections_removed" }, idsToPy t.corrections.removed),
      ({ name := "duplicate_count" }, .int t.duplicateCount),
      ({ name := "out_of_order_count" }, .int t.outOfOrderCount)]

/-- `ForwardCheckpointTransition.fingerprint`. -/
def ForwardCheckpointTransition.fingerprint (sha256 : String → Digest)
    (t : ForwardCheckpointTransition) : Digest := digest sha256 t.toPy

def ForwardCheckpointTransition.checkParent (sha256 : String → Digest)
    (t : ForwardCheckpointTransition) (previous : Option ForwardStateCheckpoint) :
    Except PyError Unit :=
  match t.previousCheckpointFingerprint, previous with
  | none, none => .ok ()
  | none, some _ => .error (valueError "root checkpoint transition cannot have a parent")
  | some _, none => .error (valueError "checkpoint transition parent fingerprint differs")
  | some fp, some p => do
    ensure (p.fingerprint sha256 = fp)
      (valueError "checkpoint transition parent fingerprint differs")
    ensure (p.instance_.instanceId = t.instance_.instanceId)
      (valueError "checkpoint transition parent belongs to another instance")

/-- `ForwardCheckpointTransition.apply`. -/
def ForwardCheckpointTransition.apply (sha256 : String → Digest)
    (t : ForwardCheckpointTransition) (previous : Option ForwardStateCheckpoint) :
    Except PyError ForwardStateCheckpoint := do
  t.checkParent sha256 previous
  ensure (previous.elim 0 (·.duplicateCount) ≤ t.duplicateCount ∧
      previous.elim 0 (·.outOfOrderCount) ≤ t.outOfOrderCount)
    (valueError "checkpoint transition counters cannot regress")
  let processed ← t.processed.apply (previous.elim ∅ (·.processedEventIds))
  let buffered ← t.buffered.apply (previous.elim ∅ (·.bufferedEventIds))
  let corrections ← t.corrections.apply (previous.elim ∅ (·.correctionEventIds))
  let result ← makeCheckpoint t.instance_ processed buffered corrections t.duplicateCount
    t.outOfOrderCount
  ensure (result.fingerprint sha256 = t.checkpointFingerprint)
    (valueError "checkpoint transition target fingerprint differs")
  return result

theorem notBlank_elim (previous : Option ForwardStateCheckpoint)
    {ids : ForwardStateCheckpoint → Finset String} (h : ∀ c, NotBlankIds (ids c)) :
    NotBlankIds (previous.elim ∅ ids) := by
  cases previous with
  | none => exact fun id hid => absurd hid (Finset.notMem_empty _)
  | some c => exact h c

/-- The delta between two checkpoints, before it is checked. -/
def transitionOf (sha256 : String → Digest) (previous : Option ForwardStateCheckpoint)
    (current : ForwardStateCheckpoint)
    (h : previous.map (·.fingerprint sha256) ≠ some (current.fingerprint sha256)) :
    ForwardCheckpointTransition where
  checkpointFingerprint := current.fingerprint sha256
  previousCheckpointFingerprint := previous.map (·.fingerprint sha256)
  instance_ := current.instance_
  processed := .between (previous.elim ∅ (·.processedEventIds)) current.processedEventIds
    (notBlank_elim previous fun c => c.processed_notBlank) current.processed_notBlank
  buffered := .between (previous.elim ∅ (·.bufferedEventIds)) current.bufferedEventIds
    (notBlank_elim previous fun c => c.buffered_notBlank) current.buffered_notBlank
  corrections := .between (previous.elim ∅ (·.correctionEventIds)) current.correctionEventIds
    (notBlank_elim previous fun c => c.corrections_notBlank) current.corrections_notBlank
  duplicateCount := current.duplicateCount
  outOfOrderCount := current.outOfOrderCount
  not_own_parent := h

/-- `ForwardCheckpointTransition.between`. -/
def ForwardCheckpointTransition.between (sha256 : String → Digest)
    (previous : Option ForwardStateCheckpoint) (current : ForwardStateCheckpoint) :
    Except PyError ForwardCheckpointTransition := do
  ensure (previous.map (·.instance_.instanceId) = none ∨
      previous.map (·.instance_.instanceId) = some current.instance_.instanceId)
    (valueError "checkpoint transition cannot change instance identity")
  ensure (previous ≠ some current)
    (valueError "identical checkpoints do not require a transition")
  if h : previous.map (·.fingerprint sha256) = some (current.fingerprint sha256) then
    .error (valueError "checkpoint transition cannot reference itself as its parent")
  else
    let t := transitionOf sha256 previous current h
    t.apply sha256 previous >>= fun result =>
      ensure (result = current)
        (valueError "checkpoint transition does not reconstruct its target") >>= fun _ => .ok t

end ChartingPlatform
