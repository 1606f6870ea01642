/-
  Counterfactual replay commands and plans (`forward_corrections.py`), and the
  atomic event transaction (`forward_event_transaction.py`) that admits an event
  and, for a correction, resolves its replay plan.
-/
import ChartingPlatform.Forward.AdmissionRuns

namespace ChartingPlatform

open Lib

/-! ## Commands and plans -/

/-- `ForwardCorrectionCommand`. -/
@[ext]
structure ForwardCorrectionCommand where
  commandId : Digest
  instanceId : String
  correctionEventId : String
  originalEventId : String
  baseCheckpointFingerprint : Digest
  requestedAt : Instant
  reason : String
  instanceId_notBlank : notBlank instanceId = true
  correctionEventId_notBlank : notBlank correctionEventId = true
  originalEventId_notBlank : notBlank originalEventId = true
  reason_notBlank : notBlank reason = true

def textMapping (items : List (String × String)) : PyValue :=
  .mapping (items.map fun i => (.str i.1, .str i.2))

/-- `ForwardCorrectionCommand.fingerprint`. -/
def ForwardCorrectionCommand.fingerprint (sha256 : String → Digest)
    (c : ForwardCorrectionCommand) : Digest :=
  digest sha256 (textMapping
    [("base_checkpoint_fingerprint", c.baseCheckpointFingerprint.text),
      ("command_id", c.commandId.text),
      ("correction_event_id", c.correctionEventId),
      ("instance_id", c.instanceId),
      ("original_event_id", c.originalEventId),
      ("reason", c.reason)])

/-- `CounterfactualReplayPlan`. -/
@[ext]
structure CounterfactualReplayPlan where
  replayId : Digest
  instanceId : String
  correctionEventId : String
  originalEventId : String
  baseCheckpointFingerprint : Digest
  warmupReceiptFingerprint : Digest
  plannedAt : Instant
  instanceId_notBlank : notBlank instanceId = true
  correctionEventId_notBlank : notBlank correctionEventId = true
  originalEventId_notBlank : notBlank originalEventId = true

instance : DecidableEq CounterfactualReplayPlan := fun _ _ =>
  decidable_of_iff' _ CounterfactualReplayPlan.ext_iff

def CounterfactualReplayPlan.toPy (p : CounterfactualReplayPlan) : PyValue :=
  .dataclass "app.strategy_lab_v2.forward_corrections.CounterfactualReplayPlan"
    [({ name := "replay_id" }, .str p.replayId.text),
      ({ name := "instance_id" }, .str p.instanceId),
      ({ name := "correction_event_id" }, .str p.correctionEventId),
      ({ name := "original_event_id" }, .str p.originalEventId),
      ({ name := "base_checkpoint_fingerprint" }, .str p.baseCheckpointFingerprint.text),
      ({ name := "warmup_receipt_fingerprint" }, .str p.warmupReceiptFingerprint.text),
      ({ name := "planned_at" }, .datetime (.utc p.plannedAt))]

/-- `CounterfactualReplayPlan.fingerprint`. -/
def CounterfactualReplayPlan.fingerprint (sha256 : String → Digest)
    (p : CounterfactualReplayPlan) : Digest := digest sha256 p.toPy

def replayId (sha256 : String → Digest) (warmupReceiptFingerprint : Digest)
    (c : ForwardCorrectionCommand) : Digest :=
  digest sha256 (textMapping
    [("base_checkpoint_fingerprint", c.baseCheckpointFingerprint.text),
      ("command_fingerprint", (c.fingerprint sha256).text),
      ("correction_event_id", c.correctionEventId),
      ("instance_id", c.instanceId),
      ("original_event_id", c.originalEventId),
      ("warmup_receipt_fingerprint", warmupReceiptFingerprint.text)])

def ForwardCorrectionCommand.plan (sha256 : String → Digest) (warmupReceiptFingerprint : Digest)
    (c : ForwardCorrectionCommand) : CounterfactualReplayPlan where
  replayId := replayId sha256 warmupReceiptFingerprint c
  instanceId := c.instanceId
  correctionEventId := c.correctionEventId
  originalEventId := c.originalEventId
  baseCheckpointFingerprint := c.baseCheckpointFingerprint
  warmupReceiptFingerprint := warmupReceiptFingerprint
  plannedAt := c.requestedAt
  instanceId_notBlank := c.instanceId_notBlank
  correctionEventId_notBlank := c.correctionEventId_notBlank
  originalEventId_notBlank := c.originalEventId_notBlank

/-- `ForwardCorrectionDecision`. -/
inductive ForwardCorrectionDecision where
  | accept | replayExisting | conflict | reject
  deriving DecidableEq, Repr

/-- `ForwardCorrectionResolution`. -/
structure ForwardCorrectionResolution where
  decision : ForwardCorrectionDecision
  state : ForwardLiveAdmissionState
  plan : Option CounterfactualReplayPlan := none
  rejectionReason : Option String := none
  plan_of_success : decision = .accept ∨ decision = .replayExisting → plan.isSome = true
  reason_iff : rejectionReason.isSome = true ↔ decision = .conflict ∨ decision = .reject

def refuseCorrection (s : ForwardLiveAdmissionState) (decision : ForwardCorrectionDecision)
    (reason : String) (h : decision = .conflict ∨ decision = .reject) :
    ForwardCorrectionResolution where
  decision := decision
  state := s
  rejectionReason := some reason
  plan_of_success := by rcases h with rfl | rfl <;> simp
  reason_iff := by simpa using h

def planCorrection (s : ForwardLiveAdmissionState) (decision : ForwardCorrectionDecision)
    (plan : CounterfactualReplayPlan) (h : decision ≠ .conflict ∧ decision ≠ .reject) :
    ForwardCorrectionResolution where
  decision := decision
  state := s
  plan := some plan
  plan_of_success := fun _ => rfl
  reason_iff := by simpa using h

/-- `resolve_forward_correction`. -/
def resolveForwardCorrection (sha256 : String → Digest) (s : ForwardLiveAdmissionState)
    (command : ForwardCorrectionCommand) (event : CanonicalForwardEvent)
    (o : ForwardEventObservation) (existingPlan : Option CounterfactualReplayPlan) :
    ForwardCorrectionResolution :=
  let id := replayId sha256 s.warmupReceiptFingerprint command
  match existingPlan with
  | some p =>
    if p.replayId = id then planCorrection s .replayExisting p (by decide)
    else refuseCorrection s .conflict "replay identity is already bound to different content"
      (by decide)
  | none =>
    if command.instanceId ≠ s.checkpoint.instance_.instanceId then
      refuseCorrection s .reject "correction command instance does not match live state" (by decide)
    else if event.eventId ≠ command.correctionEventId then
      refuseCorrection s .reject "correction event does not match command identity" (by decide)
    else
      match s.existing event.eventId with
      | none =>
        refuseCorrection s .reject "correction must be admitted before replay is planned"
          (by decide)
      | some seen =>
        if event.eventId ∉ s.checkpoint.correctionEventIds then
          refuseCorrection s .reject "correction must be admitted before replay is planned"
            (by decide)
        else if seen.eventFingerprint ≠ event.fingerprint sha256 then
          refuseCorrection s .conflict
            "correction event id is already bound to different content" (by decide)
        else if event.correctionOf ≠ some command.originalEventId then
          refuseCorrection s .reject
            "correction original event does not match command identity" (by decide)
        else if o.disposition ≠ .correction then
          refuseCorrection s .reject "correction replay requires a correction observation"
            (by decide)
        else planCorrection s .accept (command.plan sha256 s.warmupReceiptFingerprint) (by decide)

/-! ## Transactions -/

/-- `ForwardEventTransactionDecision`. -/
inductive ForwardEventTransactionDecision where
  | accepted | replayExisting | gap | duplicate | outOfOrder | correctionAccepted
  | correctionReplay | conflict | reject
  deriving DecidableEq, Repr

/-- `ForwardEventTransactionResolution`. -/
structure ForwardEventTransactionResolution where
  decision : ForwardEventTransactionDecision
  state : ForwardLiveAdmissionState
  eventFingerprint : Digest
  replayPlan : Option CounterfactualReplayPlan := none
  rejectionReason : Option String := none
  plan_of_correction : decision = .correctionAccepted ∨ decision = .correctionReplay →
    replayPlan.isSome = true
  reason_iff : rejectionReason.isSome = true ↔ decision = .conflict ∨ decision = .reject
  deriving DecidableEq

/-- `_reject`. -/
def rejectTransaction (s : ForwardLiveAdmissionState) (eventFingerprint : Digest) (reason : String)
    (decision : ForwardEventTransactionDecision) (h : decision = .conflict ∨ decision = .reject) :
    ForwardEventTransactionResolution where
  decision := decision
  state := s
  eventFingerprint := eventFingerprint
  rejectionReason := some reason
  plan_of_correction := by rcases h with rfl | rfl <;> simp
  reason_iff := by simpa using h

/-- `reason or default`. -/
def reasonOr (reason : Option String) (default : String) : String :=
  match reason with
  | some m => if m = "" then default else m
  | none => default

/-- The table `decisions` of `resolve_forward_event_transaction`. -/
def ForwardAdmissionDecision.ordinary :
    ForwardAdmissionDecision → Except PyError ForwardEventTransactionDecision
  | .accepted => .ok .accepted
  | .replayExisting => .ok .replayExisting
  | .gap => .ok .gap
  | .duplicate => .ok .duplicate
  | .outOfOrder => .ok .outOfOrder
  | .correction => .error (keyError "correction")
  | .conflict => .error (keyError "conflict")
  | .reject => .error (keyError "reject")

/-- The answer to an event that is not presented as a correction. -/
def ordinaryTransaction (a : ForwardAdmissionResolution) (eventFingerprint : Digest) :
    Except PyError ForwardEventTransactionResolution :=
  match h : a.decision.ordinary with
  | .error e => .error e
  | .ok decision => .ok
    { decision := decision
      state := a.state
      eventFingerprint := eventFingerprint
      plan_of_correction := by
        cases ha : a.decision <;> rw [ha] at h <;> cases h <;> simp
      reason_iff := by
        cases ha : a.decision <;> rw [ha] at h <;> cases h <;> simp }

def correctionTransaction (s : ForwardLiveAdmissionState) (a : ForwardAdmissionResolution)
    (eventFingerprint : Digest) (c : ForwardCorrectionResolution) :
    ForwardEventTransactionResolution :=
  match h : c.decision with
  | .conflict =>
    rejectTransaction s eventFingerprint
      (reasonOr c.rejectionReason "forward correction conflicts") .conflict (by decide)
  | .reject =>
    rejectTransaction s eventFingerprint
      (reasonOr c.rejectionReason "forward correction rejected") .reject (by decide)
  | .replayExisting =>
    { decision := .correctionReplay
      state := a.state
      eventFingerprint := eventFingerprint
      replayPlan := c.plan
      plan_of_correction := fun _ => c.plan_of_success (.inr h)
      reason_iff := by simp }
  | .accept =>
    { decision := .correctionAccepted
      state := a.state
      eventFingerprint := eventFingerprint
      replayPlan := c.plan
      plan_of_correction := fun _ => c.plan_of_success (.inl h)
      reason_iff := by simp }

/-- The transaction once the replay evidence has the right shape: `command` is the command of
    an event presented as a correction. -/
def admittedTransaction (sha256 : String → Digest) (s : ForwardLiveAdmissionState)
    (event : CanonicalForwardEvent) (o : ForwardEventObservation)
    (command : Option ForwardCorrectionCommand)
    (existingPlan : Option CounterfactualReplayPlan) :
    Except PyError ForwardEventTransactionResolution :=
  let fp := event.fingerprint sha256
  admitForwardEvent sha256 s event o >>= fun a =>
    match a.decision with
    | .conflict => .ok (rejectTransaction s fp
        (reasonOr a.rejectionReason "forward event admission conflicts") .conflict (by decide))
    | .reject => .ok (rejectTransaction s fp
        (reasonOr a.rejectionReason "forward event admission rejected") .reject (by decide))
    | _ =>
      match command with
      | some c => .ok (correctionTransaction s a fp
          (resolveForwardCorrection sha256 a.state c event o existingPlan))
      | none => ordinaryTransaction a fp

/-- `resolve_forward_event_transaction`. -/
def resolveForwardEventTransaction (sha256 : String → Digest) (s : ForwardLiveAdmissionState)
    (event : CanonicalForwardEvent) (o : ForwardEventObservation)
    (command : Option ForwardCorrectionCommand)
    (existingPlan : Option CounterfactualReplayPlan) :
    Except PyError ForwardEventTransactionResolution :=
  if o.disposition = .correction then
    match command with
    | none => .ok (rejectTransaction s (event.fingerprint sha256)
        "correction events require a counterfactual replay command" .reject (by decide))
    | some c => admittedTransaction sha256 s event o (some c) existingPlan
  else if command.isSome ∨ existingPlan.isSome then
    .ok (rejectTransaction s (event.fingerprint sha256)
      "replay evidence is only valid for correction events" .reject (by decide))
  else admittedTransaction sha256 s event o none none

/-! ## What they do -/

section
variable {sha256 : String → Digest} {s : ForwardLiveAdmissionState} {event : CanonicalForwardEvent}
  {o : ForwardEventObservation} {command : Option ForwardCorrectionCommand}
  {existingPlan : Option CounterfactualReplayPlan} {a : ForwardAdmissionResolution}
  {r : ForwardEventTransactionResolution} {c : ForwardCorrectionCommand}

theorem CheckpointStep.instanceId_eq {c c' : ForwardStateCheckpoint}
    (h : CheckpointStep c event o c') : c'.instance_.instanceId = c.instance_.instanceId := by
  cases h with
  | same _ h => rw [h]
  | accepted _ _ _ h => rw [h, instanceId_advance]
  | correction _ _ _ h => rw [h, instanceId_corrected]
  | gap _ _ h | duplicate _ h | outOfOrder _ h => rw [h]

theorem identity_admission (h : admitForwardEvent sha256 s event o = .ok a) :
    a.state.checkpoint.instance_.instanceId = s.checkpoint.instance_.instanceId ∧
      a.state.warmupReceiptFingerprint = s.warmupReceiptFingerprint := by
  cases admitForwardEvent_cases h with
  | conflict _ _ hs | replay _ _ _ hs | reject _ _ _ hs => rw [hs]; exact ⟨rfl, rfl⟩
  | applied _ _ happ _ hw => exact ⟨(applyCheckpointObservation_cases happ).instanceId_eq, hw⟩

def CounterfactualReplayPlan.Names (p : CounterfactualReplayPlan) (event : CanonicalForwardEvent)
    (s : ForwardLiveAdmissionState) : Prop :=
  p.correctionEventId = event.eventId ∧ some p.originalEventId = event.correctionOf ∧
    p.instanceId = s.checkpoint.instance_.instanceId

/-- Everything `resolve_forward_correction` can do. -/
inductive CorrectionStep (sha256 : String → Digest) (s : ForwardLiveAdmissionState)
    (c : ForwardCorrectionCommand) (event : CanonicalForwardEvent)
    (existingPlan : Option CounterfactualReplayPlan) (res : ForwardCorrectionResolution) : Prop
  | refused : res.decision = .conflict ∨ res.decision = .reject →
      CorrectionStep sha256 s c event existingPlan res
  | replayed {p} : existingPlan = some p →
      p.replayId = replayId sha256 s.warmupReceiptFingerprint c →
      res.decision = .replayExisting → res.plan = some p →
      CorrectionStep sha256 s c event existingPlan res
  | planned : existingPlan = none →
      (c.plan sha256 s.warmupReceiptFingerprint).Names event s → res.decision = .accept →
      res.plan = some (c.plan sha256 s.warmupReceiptFingerprint) →
      CorrectionStep sha256 s c event existingPlan res

theorem resolveForwardCorrection_cases :
    CorrectionStep sha256 s c event existingPlan
      (resolveForwardCorrection sha256 s c event o existingPlan) := by
  unfold resolveForwardCorrection
  cases existingPlan with
  | some p =>
    dsimp only
    split_ifs with hid
    · exact .replayed rfl hid rfl rfl
    · exact .refused (.inl rfl)
  | none =>
    dsimp only
    by_cases h₁ : c.instanceId ≠ s.checkpoint.instance_.instanceId
    · rw [if_pos h₁]
      exact .refused (.inr rfl)
    by_cases h₂ : event.eventId ≠ c.correctionEventId
    · rw [if_neg h₁, if_pos h₂]
      exact .refused (.inr rfl)
    rw [if_neg h₁, if_neg h₂]
    cases s.existing event.eventId with
    | none => exact .refused (.inr rfl)
    | some seen =>
      dsimp only
      split_ifs with h₃ h₄ h₅ h₆
      · exact .refused (.inl rfl)
      · exact .refused (.inr rfl)
      · exact .refused (.inr rfl)
      · exact .planned rfl ⟨(not_not.1 h₂).symm, (not_not.1 h₅).symm, not_not.1 h₁⟩ rfl rfl
      · exact .refused (.inr rfl)

inductive TransactionStep (sha256 : String → Digest) (s : ForwardLiveAdmissionState)
    (event : CanonicalForwardEvent) (o : ForwardEventObservation)
    (command : Option ForwardCorrectionCommand) (existingPlan : Option CounterfactualReplayPlan)
    (r : ForwardEventTransactionResolution) : Prop
  | refused : r.decision = .conflict ∨ r.decision = .reject → r.state = s →
      TransactionStep sha256 s event o command existingPlan r
  | ordinary {a : ForwardAdmissionResolution} : o.disposition ≠ .correction → admitForwardEvent sha256 s event o = .ok a →
      a.decision.ordinary = .ok r.decision → r.state = a.state → r.replayPlan = none →
      TransactionStep sha256 s event o command existingPlan r
  | planned {c : ForwardCorrectionCommand} {a : ForwardAdmissionResolution} :
      o.disposition = .correction → command = some c → existingPlan = none →
      admitForwardEvent sha256 s event o = .ok a → a.decision ≠ .conflict → a.decision ≠ .reject →
      r.decision = .correctionAccepted → r.state = a.state →
      r.replayPlan = some (c.plan sha256 s.warmupReceiptFingerprint) →
      (c.plan sha256 s.warmupReceiptFingerprint).Names event s →
      TransactionStep sha256 s event o command existingPlan r
  | replayed {c : ForwardCorrectionCommand} {p : CounterfactualReplayPlan}
      {a : ForwardAdmissionResolution} :
      o.disposition = .correction → command = some c → existingPlan = some p →
      p.replayId = replayId sha256 s.warmupReceiptFingerprint c →
      admitForwardEvent sha256 s event o = .ok a → a.decision ≠ .conflict → a.decision ≠ .reject →
      r.decision = .correctionReplay → r.state = a.state → r.replayPlan = some p →
      TransactionStep sha256 s event o command existingPlan r

theorem ordinaryTransaction_eq_ok {fp : Digest} (h : ordinaryTransaction a fp = .ok r) :
    a.decision.ordinary = .ok r.decision ∧ r.state = a.state ∧ r.replayPlan = none := by
  unfold ordinaryTransaction at h
  split at h
  · cases h
  · next d hd =>
    obtain rfl := Except.ok.inj h
    exact ⟨hd, rfl, rfl⟩

theorem ordinaryTransaction_total (h : ∃ d, a.decision.ordinary = .ok d) (fp : Digest) :
    ∃ r, ordinaryTransaction a fp = .ok r := by
  obtain ⟨d, hd⟩ := h
  unfold ordinaryTransaction
  split
  · next e he => rw [hd] at he; cases he
  · exact ⟨_, rfl⟩

theorem admittedTransaction_cases
    (h : admittedTransaction sha256 s event o command existingPlan = .ok r) :
    (r.decision = .conflict ∨ r.decision = .reject) ∧ r.state = s ∨
    ∃ a, admitForwardEvent sha256 s event o = .ok a ∧ a.decision ≠ .conflict ∧
      a.decision ≠ .reject ∧
      (∀ c, command = some c → r = correctionTransaction s a (event.fingerprint sha256)
        (resolveForwardCorrection sha256 a.state c event o existingPlan)) ∧
      (command = none → ordinaryTransaction a (event.fingerprint sha256) = .ok r) := by
  obtain ⟨a, ha, h⟩ := bind_eq_ok.1 h
  split at h
  · obtain rfl := Except.ok.inj h
    exact .inl ⟨.inl rfl, rfl⟩
  · obtain rfl := Except.ok.inj h
    exact .inl ⟨.inr rfl, rfl⟩
  · next hc hr =>
    refine .inr ⟨a, ha, hc, hr, ?_⟩
    cases command with
    | some c =>
      refine ⟨fun c' hc' => ?_, fun hn => absurd hn (by simp)⟩
      obtain rfl := Option.some.inj hc'
      exact (Except.ok.inj h).symm
    | none => exact ⟨fun _ hn => absurd hn (by simp), fun _ => h⟩

theorem correctionTransaction_cases {fp : Digest} {res : ForwardCorrectionResolution} :
    (res.decision = .conflict ∨ res.decision = .reject) ∧
      ((correctionTransaction s a fp res).decision = .conflict ∨
        (correctionTransaction s a fp res).decision = .reject) ∧
      (correctionTransaction s a fp res).state = s ∨
    (correctionTransaction s a fp res).state = a.state ∧
      (correctionTransaction s a fp res).replayPlan = res.plan ∧
      (res.decision = .accept ∧ (correctionTransaction s a fp res).decision = .correctionAccepted ∨
        res.decision = .replayExisting ∧
          (correctionTransaction s a fp res).decision = .correctionReplay) := by
  unfold correctionTransaction
  split
  · next h => exact .inl ⟨.inl h, .inl rfl, rfl⟩
  · next h => exact .inl ⟨.inr h, .inr rfl, rfl⟩
  · next h => exact .inr ⟨rfl, rfl, .inr ⟨h, rfl⟩⟩
  · next h => exact .inr ⟨rfl, rfl, .inl ⟨h, rfl⟩⟩

theorem resolveForwardEventTransaction_cases
    (h : resolveForwardEventTransaction sha256 s event o command existingPlan = .ok r) :
    TransactionStep sha256 s event o command existingPlan r := by
  unfold resolveForwardEventTransaction at h
  split_ifs at h with hd hev
  · cases command with
    | none =>
      obtain rfl := Except.ok.inj h
      exact .refused (.inr rfl) rfl
    | some c =>
      rcases admittedTransaction_cases h with ⟨hr, hs⟩ | ⟨a, ha, hnc, hnr, hc, -⟩
      · exact .refused hr hs
      · obtain ⟨hinst, hwarm⟩ := identity_admission ha
        obtain rfl := hc c rfl
        have hstep := @resolveForwardCorrection_cases sha256 a.state event o existingPlan c
        rcases correctionTransaction_cases with ⟨-, hr, hs⟩ | ⟨hs, hp, hdec⟩
        · exact .refused hr hs
        · cases hstep with
          | refused hr => rcases hr with hr | hr <;> rw [hr] at hdec <;> simp at hdec
          | replayed hex hid hr hplan =>
            rw [hr] at hdec
            rw [hwarm] at hid
            exact .replayed hd rfl hex hid ha hnc hnr (by simpa using hdec) hs (hp.trans hplan)
          | planned hex hnames hr hplan =>
            rw [hr] at hdec
            rw [hwarm] at hnames hplan
            obtain ⟨h₁, h₂, h₃⟩ := hnames
            exact .planned hd rfl hex ha hnc hnr (by simpa using hdec) hs (hp.trans hplan)
              ⟨h₁, h₂, h₃.trans hinst⟩
  · obtain rfl := Except.ok.inj h
    exact .refused (.inr rfl) rfl
  · rcases admittedTransaction_cases h with ⟨hr, hs⟩ | ⟨a, ha, -, -, -, ho⟩
    · exact .refused hr hs
    · obtain ⟨h₁, h₂, h₃⟩ := ordinaryTransaction_eq_ok (ho rfl)
      exact .ordinary hd ha h₁ h₂ h₃

theorem resolveForwardEventTransaction_total (sha256 : String → Digest)
    (s : ForwardLiveAdmissionState) (event : CanonicalForwardEvent) (o : ForwardEventObservation)
    (command : Option ForwardCorrectionCommand)
    (existingPlan : Option CounterfactualReplayPlan) :
    ∃ r, resolveForwardEventTransaction sha256 s event o command existingPlan = .ok r := by
  obtain ⟨a, ha⟩ := admitForwardEvent_total sha256 s event o
  unfold resolveForwardEventTransaction
  split_ifs with hd hev
  · cases command with
    | none => exact ⟨_, rfl⟩
    | some c =>
      dsimp only
      rw [admittedTransaction, ha, ok_bind]
      cases a.decision <;> exact ⟨_, rfl⟩
  · exact ⟨_, rfl⟩
  · rw [admittedTransaction, ha, ok_bind]
    -- an admission whose observation is no correction is never answered as one
    have hcorr : a.decision ≠ .correction := by
      intro hc
      cases admitForwardEvent_cases ha with
      | conflict _ h | replay _ _ h | reject _ _ h => rw [h] at hc; cases hc
      | applied _ _ _ hdec =>
        rw [hdec] at hc
        cases ho : o.disposition <;> rw [ho] at hc <;> first | exact hd ho | cases hc
    split
    · exact ⟨_, rfl⟩
    · exact ⟨_, rfl⟩
    · next hnc hnr =>
      refine ordinaryTransaction_total ?_ _
      cases hdec : a.decision with
      | correction => exact absurd hdec hcorr
      | conflict => exact absurd hdec hnc
      | reject => exact absurd hdec hnr
      | accepted | replayExisting | gap | duplicate | outOfOrder => exact ⟨_, rfl⟩

/-! ## Binding of corrections -/

theorem transaction_of_existing {p : CounterfactualReplayPlan} (hd : o.disposition = .correction)
    (hid : p.replayId = replayId sha256 s.warmupReceiptFingerprint c)
    (ha : admitForwardEvent sha256 s event o = .ok a) (hnc : a.decision ≠ .conflict)
    (hnr : a.decision ≠ .reject)
    (h : resolveForwardEventTransaction sha256 s event o (some c) (some p) = .ok r) :
    r.decision = .correctionReplay ∧ r.replayPlan = some p := by
  rw [resolveForwardEventTransaction, if_pos hd] at h
  obtain ⟨a', ha', h⟩ := bind_eq_ok.1 h
  obtain rfl := Except.ok.inj (ha.symm.trans ha')
  rw [← (identity_admission ha).2] at hid
  have hres : resolveForwardCorrection sha256 a.state c event o (some p) =
      planCorrection a.state .replayExisting p (by decide) := if_pos hid
  split at h
  · next hc => exact absurd hc hnc
  · next hr => exact absurd hr hnr
  · obtain rfl := Except.ok.inj h
    rw [hres]
    exact ⟨rfl, rfl⟩

/-- A plan supplied as existing, with the replay identity of the command, names the event that
    admission lets through as a correction. -/
def PlanFits (sha256 : String → Digest) (s : ForwardLiveAdmissionState)
    (event : CanonicalForwardEvent) (o : ForwardEventObservation)
    (command : Option ForwardCorrectionCommand)
    (existingPlan : Option CounterfactualReplayPlan) : Prop :=
  ∀ c p a, o.disposition = .correction → command = some c → existingPlan = some p →
    p.replayId = replayId sha256 s.warmupReceiptFingerprint c →
    admitForwardEvent sha256 s event o = .ok a → a.decision ≠ .conflict → a.decision ≠ .reject →
    p.Names event s

theorem names_iff_planFits
    (h : resolveForwardEventTransaction sha256 s event o command existingPlan = .ok r) :
    (r.decision = .correctionAccepted ∨ r.decision = .correctionReplay →
      ∃ p, r.replayPlan = some p ∧ p.Names event s) ↔
      PlanFits sha256 s event o command existingPlan := by
  constructor
  · rintro hnames c p a hd rfl rfl hid ha hnc hnr
    obtain ⟨hdec, hplan⟩ := transaction_of_existing hd hid ha hnc hnr h
    obtain ⟨q, hq, hqn⟩ := hnames (.inr hdec)
    obtain rfl := Option.some.inj (hplan.symm.trans hq)
    exact hqn
  · intro hfits hdec
    cases resolveForwardEventTransaction_cases h with
    | refused hr => rcases hr with hr | hr <;> rw [hr] at hdec <;> simp at hdec
    | @ordinary a _ _ ho =>
      exfalso
      cases ha : a.decision <;> rw [ha] at ho <;>
        simp [ForwardAdmissionDecision.ordinary] at ho <;> rw [← ho] at hdec <;> simp at hdec
    | planned _ _ _ _ _ _ _ _ hplan hn => exact ⟨_, hplan, hn⟩
    | replayed hd hc hp hid ha hnc hnr _ _ hplan =>
      exact ⟨_, hplan, hfits _ _ _ hd hc hp hid ha hnc hnr⟩

theorem corrections_admission (h : admitForwardEvent sha256 s event o = .ok a) {id : String}
    (hid : id ∈ a.state.checkpoint.correctionEventIds) :
    id ∈ s.checkpoint.correctionEventIds ∨ o.disposition = .correction ∧ id = event.eventId := by
  cases admitForwardEvent_cases h with
  | conflict _ _ hs | replay _ _ _ hs | reject _ _ _ hs => exact .inl (hs ▸ hid)
  | applied _ _ happ =>
    cases applyCheckpointObservation_cases happ with
    | same _ hc | accepted _ _ _ _ _ _ hc | gap _ _ _ _ _ hc => exact .inl (hc ▸ hid)
    | correction hd _ _ _ _ _ hc =>
      rw [hc, Finset.mem_insert] at hid
      exact hid.symm.imp_right fun h => ⟨hd, h⟩
    | duplicate _ _ _ _ hc | outOfOrder _ _ _ _ hc => exact .inl (hc ▸ hid)

end

/-- One call of `resolve_forward_event_transaction` with its answer. -/
structure Transacted where
  event : CanonicalForwardEvent
  observation : ForwardEventObservation
  command : Option ForwardCorrectionCommand
  existingPlan : Option CounterfactualReplayPlan
  resolution : ForwardEventTransactionResolution

/-- The call is answered so in state `s`, and `t` is the state of the answer. -/
def Transacts (sha256 : String → Digest) (s : ForwardLiveAdmissionState) (x : Transacted)
    (t : ForwardLiveAdmissionState) : Prop :=
  resolveForwardEventTransaction sha256 s x.event x.observation x.command x.existingPlan =
    .ok x.resolution ∧ x.resolution.state = t

/-- The call, with a fitting plan if one is supplied. -/
def TransactsFitting (sha256 : String → Digest) (s : ForwardLiveAdmissionState) (x : Transacted)
    (t : ForwardLiveAdmissionState) : Prop :=
  Transacts sha256 s x t ∧ PlanFits sha256 s x.event x.observation x.command x.existingPlan

theorem corrections_step {sha256 : String → Digest} {s t : ForwardLiveAdmissionState}
    {x : Transacted} (h : TransactsFitting sha256 s x t) {id : String}
    (hid : id ∈ t.checkpoint.correctionEventIds) :
    id ∈ s.checkpoint.correctionEventIds ∨
      ∃ p, x.resolution.replayPlan = some p ∧ p.correctionEventId = id := by
  obtain ⟨⟨hx, rfl⟩, hfits⟩ := h
  cases resolveForwardEventTransaction_cases hx with
  | refused _ hs => exact .inl (hs ▸ hid)
  | ordinary hd ha _ hs =>
    rw [hs] at hid
    exact (corrections_admission ha hid).imp_right fun h => absurd h.1 hd
  | planned _ _ _ ha _ _ _ hs hplan hn =>
    rw [hs] at hid
    refine (corrections_admission ha hid).imp_right fun h => ⟨_, hplan, ?_⟩
    rw [h.2, hn.1]
  | replayed hd hc hp hrid ha hnc hnr _ hs hplan =>
    rw [hs] at hid
    refine (corrections_admission ha hid).imp_right fun h => ⟨_, hplan, ?_⟩
    rw [h.2, (hfits _ _ _ hd hc hp hrid ha hnc hnr).1]

/-- **Binding of corrections.**  An answered correction comes with a plan that names the event,
    the event it corrects and the instance exactly when a supplied plan does; and along calls
    with fitting plans every new correction id is named by a plan that was returned. -/
theorem correction_binding (sha256 : String → Digest) :
    (∀ s event o command existingPlan r,
      resolveForwardEventTransaction sha256 s event o command existingPlan = .ok r →
      ((r.decision = .correctionAccepted ∨ r.decision = .correctionReplay →
        ∃ p, r.replayPlan = some p ∧ p.correctionEventId = event.eventId ∧
          some p.originalEventId = event.correctionOf ∧
          p.instanceId = s.checkpoint.instance_.instanceId) ↔
        PlanFits sha256 s event o command existingPlan)) ∧
    ∀ s₀ xs s, Run (TransactsFitting sha256) s₀ xs s → ∀ id ∈ s.checkpoint.correctionEventIds,
      id ∈ s₀.checkpoint.correctionEventIds ∨
        ∃ x ∈ xs, ∃ p, x.resolution.replayPlan = some p ∧ p.correctionEventId = id := by
  refine ⟨fun s event o command existingPlan r h => names_iff_planFits h, ?_⟩
  intro s₀ xs s h
  induction h with
  | nil => exact fun id hid => .inl hid
  | @snoc t u xs x _ hx ih =>
    intro id hid
    rcases corrections_step hx hid with hid | ⟨p, hp, hpid⟩
    · rcases ih id hid with hid | ⟨y, hy, hp⟩
      · exact .inl hid
      · exact .inr ⟨y, List.mem_append_left _ hy, hp⟩
    · exact .inr ⟨x, by simp, p, hp, hpid⟩

/-- A correction of the event `a`. -/
def sampleCorrection (id : String) (arrived : Instant) (h : notBlank id = true := by exact Eq.refl true) :
    CanonicalForwardEvent where
  eventId := id
  sequence := 0
  eventTime := clock 1
  arrivedAt := arrived
  sourceDigest := ⟨"source"⟩
  correctionOf := some "a"
  eventId_notBlank := h
  correctionOf_notBlank := by decide

theorem correction_ne_gap : ForwardEventDisposition.correction ≠ .gap := by decide

def correctionObservation : ForwardEventObservation :=
  plainObservation .correction false sampleCursor correction_ne_gap

/-- The command to replay the correction `c1`. -/
def sampleCommand : ForwardCorrectionCommand where
  commandId := ⟨"command"⟩
  instanceId := "forward-1"
  correctionEventId := "c1"
  originalEventId := "a"
  baseCheckpointFingerprint := ⟨"base"⟩
  requestedAt := clock 3
  reason := "restated"
  instanceId_notBlank := Eq.refl true
  correctionEventId_notBlank := Eq.refl true
  originalEventId_notBlank := Eq.refl true
  reason_notBlank := Eq.refl true

theorem sampleCorrection_accepted {r : ForwardEventTransactionResolution}
    (hr : resolveForwardEventTransaction plainDigest sampleState (sampleCorrection "c1" (clock 2))
      correctionObservation (some sampleCommand) none = .ok r) :
    r.decision = .correctionAccepted := by
  have h : (resolveForwardEventTransaction plainDigest sampleState
      (sampleCorrection "c1" (clock 2)) correctionObservation (some sampleCommand)
      none).toOption.map ForwardEventTransactionResolution.decision =
      some .correctionAccepted := by
    decide +kernel
  rw [hr] at h
  exact Option.some.inj h

theorem correction_binding_first : ∃ r,
    resolveForwardEventTransaction plainDigest sampleState (sampleCorrection "c1" (clock 2))
      correctionObservation (some sampleCommand) none = .ok r ∧
    r.decision = .correctionAccepted ∧
    ∃ p, r.replayPlan = some p ∧ p.correctionEventId = "c1" := by
  obtain ⟨r, hr⟩ := resolveForwardEventTransaction_total plainDigest sampleState
    (sampleCorrection "c1" (clock 2)) correctionObservation (some sampleCommand) none
  have hdec := sampleCorrection_accepted hr
  obtain ⟨p, hp, hid, -⟩ := ((correction_binding plainDigest).1 _ _ _ _ _ _ hr).2
    (fun _ _ _ _ _ hnone => absurd hnone (by simp)) (.inl hdec)
  exact ⟨r, hr, hdec, p, hp, hid⟩

/-- The command of `c1` sent again with the new correction `c2`. -/
theorem correction_replays_other_plan : ∃ r₁ p r₂,
    resolveForwardEventTransaction plainDigest sampleState (sampleCorrection "c1" (clock 2))
      correctionObservation (some sampleCommand) none = .ok r₁ ∧ r₁.replayPlan = some p ∧
    resolveForwardEventTransaction plainDigest r₁.state (sampleCorrection "c2" (clock 4))
      correctionObservation (some sampleCommand) (some p) = .ok r₂ ∧
    r₂.decision = .correctionReplay ∧ r₂.replayPlan = some p ∧ p.correctionEventId ≠ "c2" := by
  have h : (admitAll plainDigest sampleState
      [(sampleCorrection "c1" (clock 2), correctionObservation),
        (sampleCorrection "c2" (clock 4), correctionObservation)]).toOption.map
      (fun p => p.1.map fun a => a.resolution.decision) = some [.correction, .correction] := by
    decide +kernel
  obtain ⟨r₁, hr₁⟩ := resolveForwardEventTransaction_total plainDigest sampleState
    (sampleCorrection "c1" (clock 2)) correctionObservation (some sampleCommand) none
  have hdec := sampleCorrection_accepted hr₁
  cases resolveForwardEventTransaction_cases hr₁ with
  | refused hr => rw [hdec] at hr; simp at hr
  | ordinary hd => exact absurd rfl hd
  | replayed _ _ hp => simp at hp
  | @planned c a₁ _ hc _ ha₁ _ _ _ hs hplan _ =>
    obtain rfl := Option.some.inj hc
    obtain ⟨a₂, ha₂⟩ := admitForwardEvent_total plainDigest a₁.state
      (sampleCorrection "c2" (clock 4)) correctionObservation
    obtain ⟨r₂, hr₂⟩ := resolveForwardEventTransaction_total plainDigest r₁.state
      (sampleCorrection "c2" (clock 4)) correctionObservation (some sampleCommand)
      (some (sampleCommand.plan plainDigest sampleState.warmupReceiptFingerprint))
    simp only [admitAll, ha₁, ha₂, ok_bind, Except.toOption, Option.map_some, List.map_cons,
      List.map_nil, Option.some.injEq, List.cons.injEq] at h
    have hwarm : r₁.state.warmupReceiptFingerprint = sampleState.warmupReceiptFingerprint :=
      hs ▸ (identity_admission ha₁).2
    obtain ⟨hd, hp⟩ := transaction_of_existing rfl (by rw [hwarm]; rfl) (hs ▸ ha₂)
      (by rw [h.2.1]; decide) (by rw [h.2.1]; decide) hr₂
    exact ⟨r₁, _, r₂, hr₁, hplan, hr₂, hd, hp, by decide⟩

end ChartingPlatform
