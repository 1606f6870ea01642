/-
  The transactional outbox (`outbox.py`): messages identified by their content,
  staged under request ids, and acknowledged when they were published.
-/
import ChartingPlatform.Forward.Corrections
import ChartingPlatform.Forward.Fingerprints
import ChartingPlatform.Lib.Table

namespace ChartingPlatform

open Lib List

/-! ## Messages -/

/-- `OutboxMessage`. -/
@[ext]
structure OutboxMessage where
  requestId : Digest
  aggregateType : String
  aggregateId : String
  eventId : Digest
  topic : String
  payloadDigest : Digest
  createdAt : Instant
  availableAt : Instant
  aggregateType_notBlank : notBlank aggregateType = true
  aggregateId_notBlank : notBlank aggregateId = true
  topic_notBlank : notBlank topic = true
  createdAt_le_availableAt : createdAt ≤ availableAt

instance : DecidableEq OutboxMessage := fun _ _ => decidable_of_iff' _ OutboxMessage.ext_iff

/-- What `message_id` is the digest of. -/
def OutboxMessage.content (m : OutboxMessage) : PyValue :=
  textMapping
    [("aggregate_id", m.aggregateId),
      ("aggregate_type", m.aggregateType),
      ("event_id", m.eventId.text),
      ("payload_digest", m.payloadDigest.text),
      ("topic", m.topic)]

/-- `OutboxMessage.message_id`, which is also its `semantic_fingerprint`. -/
def OutboxMessage.messageId (sha256 : String → Digest) (m : OutboxMessage) : Digest :=
  digest sha256 m.content

/-! ## States -/

/-- `OutboxState`. -/
structure OutboxState (sha256 : String → Digest) where
  messages : List OutboxMessage
  publishedMessageIds : Finset Digest
  sorted : messages.Pairwise fun a b => (a.messageId sha256).text < (b.messageId sha256).text
  unique_requests : (messages.map OutboxMessage.requestId).Nodup
  published_known : ∀ id ∈ publishedMessageIds, id ∈ messages.map (OutboxMessage.messageId sha256)

def OutboxState.empty (sha256 : String → Digest) : OutboxState sha256 where
  messages := []
  publishedMessageIds := ∅
  sorted := List.Pairwise.nil
  unique_requests := nodup_nil
  published_known := by simp

/-- The loop of `OutboxState.__post_init__`. -/
def checkMessages (sha256 : String → Digest) :
    List OutboxMessage → List Digest → List Digest → Except PyError Unit
  | [], _, _ => .ok ()
  | m :: messages, identities, requests => do
    ensure (m.messageId sha256 ∉ identities)
      (valueError "outbox messages must have unique content identities")
    ensure (m.requestId ∉ requests)
      (valueError "outbox messages must have unique request identities")
    checkMessages sha256 messages (m.messageId sha256 :: identities) (m.requestId :: requests)

/-- The order that `OutboxState.__post_init__` requires. -/
def messageKey (sha256 : String → Digest) (m : OutboxMessage) : String := (m.messageId sha256).text

variable {sha256 : String → Digest} {messages : List OutboxMessage}
  {identities requests : List Digest}

theorem checkMessages_spec (h : checkMessages sha256 messages identities requests = .ok ()) :
    (messages.map (OutboxMessage.messageId sha256)).Nodup ∧
      (messages.map OutboxMessage.requestId).Nodup ∧
      (∀ m ∈ messages, m.messageId sha256 ∉ identities) ∧
      ∀ m ∈ messages, m.requestId ∉ requests := by
  induction messages generalizing identities requests with
  | nil => simp
  | cons m messages ih =>
    obtain ⟨_, hid, h⟩ := bind_eq_ok.1 h
    obtain ⟨_, hreq, h⟩ := bind_eq_ok.1 h
    rw [ensure_eq_ok] at hid hreq
    obtain ⟨hids, hreqs, hidnew, hreqnew⟩ := ih h
    refine ⟨?_, ?_, ?_, ?_⟩
    · rw [map_cons, nodup_cons]
      refine ⟨fun hm => ?_, hids⟩
      obtain ⟨m', hm', heq⟩ := mem_map.1 hm
      exact hidnew m' hm' (heq ▸ mem_cons_self)
    · rw [map_cons, nodup_cons]
      refine ⟨fun hm => ?_, hreqs⟩
      obtain ⟨m', hm', heq⟩ := mem_map.1 hm
      exact hreqnew m' hm' (heq ▸ mem_cons_self)
    · rw [forall_mem_cons]
      exact ⟨hid, fun m' hm' hmem => hidnew m' hm' (mem_cons_of_mem _ hmem)⟩
    · rw [forall_mem_cons]
      exact ⟨hreq, fun m' hm' hmem => hreqnew m' hm' (mem_cons_of_mem _ hmem)⟩

theorem checkMessages_of
    (hids : (identities ++ messages.map (OutboxMessage.messageId sha256)).Nodup)
    (hreqs : (requests ++ messages.map OutboxMessage.requestId).Nodup) :
    checkMessages sha256 messages identities requests = .ok () := by
  induction messages generalizing identities requests with
  | nil => rfl
  | cons m messages ih =>
    rw [map_cons] at hids hreqs
    have hid : m.messageId sha256 ∉ identities := fun hm =>
      disjoint_of_nodup_append hids hm mem_cons_self
    have hreq : m.requestId ∉ requests := fun hm =>
      disjoint_of_nodup_append hreqs hm mem_cons_self
    rw [checkMessages, ensure_of hid, ok_bind, ensure_of hreq, ok_bind]
    exact ih (perm_middle.nodup_iff.1 hids) (perm_middle.nodup_iff.1 hreqs)

theorem sorted_of (hn : (messages.map (OutboxMessage.messageId sha256)).Nodup)
    (hs : sortBy (messageKey sha256) messages = messages) :
    messages.Pairwise fun a b => (a.messageId sha256).text < (b.messageId sha256).text := by
  have hkeys : (messages.map (messageKey sha256)).Nodup := by
    have hinj : Function.Injective Digest.text := fun a b h => by cases a; cases b; cases h; rfl
    have := hn.map hinj
    rwa [map_map] at this
  exact hs ▸ pairwise_lt_sortBy hkeys

/-- `OutboxState.__post_init__`. -/
def makeOutboxState (sha256 : String → Digest) (messages : List OutboxMessage)
    (published : Finset Digest) : Except PyError (OutboxState sha256) :=
  match h : checkMessages sha256 messages [] [] with
  | .error e => .error e
  | .ok () =>
    if hs : sortBy (messageKey sha256) messages = messages then
      if hp : ∀ id ∈ published, id ∈ messages.map (OutboxMessage.messageId sha256) then
        .ok
          { messages := messages
            publishedMessageIds := published
            sorted := sorted_of (checkMessages_spec h).1 hs
            unique_requests := (checkMessages_spec h).2.1
            published_known := hp }
      else .error (valueError "published messages must exist in the outbox")
    else .error (valueError "outbox messages must be deterministically ordered")

theorem makeOutboxState_eq_ok {published : Finset Digest} {s : OutboxState sha256}
    (h : makeOutboxState sha256 messages published = .ok s) :
    s.messages = messages ∧ s.publishedMessageIds = published := by
  unfold makeOutboxState at h
  split at h
  · cases h
  · split_ifs at h
    obtain rfl := Except.ok.inj h
    exact ⟨rfl, rfl⟩

theorem makeOutboxState_of
    (published : Finset Digest) (hids : (messages.map (OutboxMessage.messageId sha256)).Nodup)
    (hreqs : (messages.map OutboxMessage.requestId).Nodup)
    (hs : sortBy (messageKey sha256) messages = messages)
    (hp : ∀ id ∈ published, id ∈ messages.map (OutboxMessage.messageId sha256)) :
    ∃ s, makeOutboxState sha256 messages published = .ok s := by
  have hcheck : checkMessages sha256 messages [] [] = .ok () :=
    checkMessages_of (by simpa using hids) (by simpa using hreqs)
  unfold makeOutboxState
  split
  · next e he => rw [hcheck] at he; cases he
  · rw [dif_pos hs, dif_pos hp]
    exact ⟨_, rfl⟩

/-! ## Enqueueing and acknowledging -/

/-- `OutboxEnqueueDecision`. -/
inductive OutboxEnqueueDecision where
  | enqueue | replayExisting | conflict | reject
  deriving DecidableEq, Repr

/-- `OutboxEnqueueResolution`. -/
structure OutboxEnqueueResolution (sha256 : String → Digest) where
  decision : OutboxEnqueueDecision
  state : OutboxState sha256
  messageId : Digest
  rejectionReason : Option String := none
  reason_iff : rejectionReason.isSome = true ↔ decision = .reject := by simp

/-- `OutboxAcknowledgeDecision`. -/
inductive OutboxAcknowledgeDecision where
  | acknowledged | replayExisting | reject
  deriving DecidableEq, Repr

/-- `OutboxAcknowledgeResolution`. -/
structure OutboxAcknowledgeResolution (sha256 : String → Digest) where
  decision : OutboxAcknowledgeDecision
  state : OutboxState sha256
  messageId : Digest
  rejectionReason : Option String := none
  reason_iff : rejectionReason.isSome = true ↔ decision = .reject := by simp

/-- `resolve_outbox_enqueue`. -/
def resolveOutboxEnqueue (sha256 : String → Digest) (s : OutboxState sha256) (m : OutboxMessage)
    (prior : List OutboxMessage) : Except PyError (OutboxEnqueueResolution sha256) :=
  let existing := s.messages ++ prior
  match existing.filter fun item => decide (item.requestId = m.requestId) with
  | first :: rest =>
    if ∃ item ∈ first :: rest, item.messageId sha256 ≠ m.messageId sha256 then
      .ok { decision := .conflict, state := s, messageId := m.messageId sha256 }
    else .ok { decision := .replayExisting, state := s, messageId := first.messageId sha256 }
  | [] =>
    match existing.filter fun item => decide (item.messageId sha256 = m.messageId sha256) with
    | first :: _ =>
      .ok { decision := .replayExisting, state := s, messageId := first.messageId sha256 }
    | [] => do
      let next ← makeOutboxState sha256 (sortBy (messageKey sha256) (s.messages ++ [m]))
        s.publishedMessageIds
      return { decision := .enqueue, state := next, messageId := m.messageId sha256 }

/-- `acknowledge_outbox_message`. -/
def acknowledgeOutboxMessage (sha256 : String → Digest) (s : OutboxState sha256) (id : Digest) :
    Except PyError (OutboxAcknowledgeResolution sha256) :=
  if id ∉ s.messages.map (OutboxMessage.messageId sha256) then
    .ok
      { decision := .reject
        state := s
        messageId := id
        rejectionReason := some "message is not present in the outbox" }
  else if id ∈ s.publishedMessageIds then
    .ok { decision := .replayExisting, state := s, messageId := id }
  else do
    let next ← makeOutboxState sha256 s.messages (insert id s.publishedMessageIds)
    return { decision := .acknowledged, state := next, messageId := id }

/-! ## What one call does -/

section
variable {sha256 : String → Digest} {s : OutboxState sha256} {m : OutboxMessage}
  {prior : List OutboxMessage} {res : OutboxEnqueueResolution sha256} {id : Digest}

inductive EnqueueStep (s : OutboxState sha256) (m : OutboxMessage) (prior : List OutboxMessage)
    (res : OutboxEnqueueResolution sha256) : Prop
  /-- The request id carries other content. -/
  | conflict : (∃ x ∈ s.messages ++ prior, x.requestId = m.requestId ∧
      x.messageId sha256 ≠ m.messageId sha256) → res.decision = .conflict → res.state = s →
      EnqueueStep s m prior res
  /-- The request id carries this content. -/
  | sameRequest : (∃ x ∈ s.messages ++ prior, x.requestId = m.requestId) →
      (∀ x ∈ s.messages ++ prior, x.requestId = m.requestId →
        x.messageId sha256 = m.messageId sha256) → res.decision = .replayExisting →
      res.state = s → EnqueueStep s m prior res
  /-- The request id is new, the content is not. -/
  | sameContent : (∀ x ∈ s.messages ++ prior, x.requestId ≠ m.requestId) →
      (∃ x ∈ s.messages ++ prior, x.messageId sha256 = m.messageId sha256) →
      res.decision = .replayExisting → res.state = s → EnqueueStep s m prior res
  | enqueued : (∀ x ∈ s.messages ++ prior, x.requestId ≠ m.requestId ∧
      x.messageId sha256 ≠ m.messageId sha256) → res.decision = .enqueue →
      res.state.publishedMessageIds = s.publishedMessageIds →
      (∀ x, x ∈ res.state.messages ↔ x ∈ s.messages ∨ x = m) → EnqueueStep s m prior res

theorem resolveOutboxEnqueue_cases (h : resolveOutboxEnqueue sha256 s m prior = .ok res) :
    EnqueueStep s m prior res := by
  unfold resolveOutboxEnqueue at h
  dsimp only at h
  cases hreq : (s.messages ++ prior).filter fun item => decide (item.requestId = m.requestId) with
  | cons first rest =>
    rw [hreq] at h
    have hmem : ∀ x, x ∈ first :: rest ↔ x ∈ s.messages ++ prior ∧ x.requestId = m.requestId := by
      intro x
      rw [← hreq, mem_filter, decide_eq_true_eq]
    dsimp only at h
    split_ifs at h with hne
    · obtain rfl := Except.ok.inj h
      obtain ⟨x, hx, hxne⟩ := hne
      obtain ⟨hx, hxreq⟩ := (hmem x).1 hx
      exact .conflict ⟨x, hx, hxreq, hxne⟩ rfl rfl
    · obtain rfl := Except.ok.inj h
      refine .sameRequest ⟨first, (hmem first).1 mem_cons_self⟩ (fun x hx hxreq => ?_) rfl rfl
      by_contra hxne
      exact hne ⟨x, (hmem x).2 ⟨hx, hxreq⟩, hxne⟩
  | nil =>
    rw [hreq] at h
    have hnoreq : ∀ x ∈ s.messages ++ prior, x.requestId ≠ m.requestId := by
      intro x hx
      simpa using filter_eq_nil_iff.1 hreq x hx
    cases hcon : (s.messages ++ prior).filter fun item =>
        decide (item.messageId sha256 = m.messageId sha256) with
    | cons first rest =>
      simp only [hcon] at h
      obtain rfl := Except.ok.inj h
      have hfirst : first ∈ (s.messages ++ prior).filter fun item =>
          decide (item.messageId sha256 = m.messageId sha256) := by
        rw [hcon]
        exact mem_cons_self
      rw [mem_filter, decide_eq_true_eq] at hfirst
      exact .sameContent hnoreq ⟨first, hfirst⟩ rfl rfl
    | nil =>
      simp only [hcon] at h
      obtain ⟨next, hnext, h⟩ := bind_eq_ok.1 h
      obtain rfl := Except.ok.inj h
      obtain ⟨hmsgs, hpub⟩ := makeOutboxState_eq_ok hnext
      refine .enqueued (fun x hx => ⟨hnoreq x hx, ?_⟩) rfl hpub fun x => ?_
      · simpa using filter_eq_nil_iff.1 hcon x hx
      · rw [show next.messages = _ from hmsgs, mem_sortBy, mem_append, mem_singleton]

theorem nodup_messageIds (s : OutboxState sha256) :
    (s.messages.map (OutboxMessage.messageId sha256)).Nodup := by
  rw [List.Nodup, pairwise_map]
  exact s.sorted.imp fun hab heq => absurd hab (by rw [heq]; exact lt_irrefl _)

/-- **Enqueueing never raises.** -/
theorem resolveOutboxEnqueue_total (s : OutboxState sha256) (m : OutboxMessage)
    (prior : List OutboxMessage) : ∃ res, resolveOutboxEnqueue sha256 s m prior = .ok res := by
  unfold resolveOutboxEnqueue
  dsimp only
  cases hreq : (s.messages ++ prior).filter fun item => decide (item.requestId = m.requestId) with
  | cons first rest =>
    dsimp only
    split_ifs
    · exact ⟨_, rfl⟩
    · exact ⟨_, rfl⟩
  | nil =>
    cases hcon : (s.messages ++ prior).filter fun item =>
        decide (item.messageId sha256 = m.messageId sha256) with
    | cons first rest => exact ⟨_, rfl⟩
    | nil =>
      have hp := perm_sortBy (messageKey sha256) (s.messages ++ [m])
      have hnoreq : m.requestId ∉ s.messages.map OutboxMessage.requestId := by
        intro hm
        obtain ⟨x, hx, hxreq⟩ := mem_map.1 hm
        exact absurd (filter_eq_nil_iff.1 hreq x (mem_append_left _ hx)) (by simp [hxreq])
      have hnocon : m.messageId sha256 ∉ s.messages.map (OutboxMessage.messageId sha256) := by
        intro hm
        obtain ⟨x, hx, hxcon⟩ := mem_map.1 hm
        exact absurd (filter_eq_nil_iff.1 hcon x (mem_append_left _ hx)) (by simp [hxcon])
      have hids : ((s.messages ++ [m]).map (OutboxMessage.messageId sha256)).Nodup :=
        nodup_insertNew (nodup_messageIds s) (insertNew_eq_some.2 ⟨hnocon, rfl⟩)
      have hreqs : ((s.messages ++ [m]).map OutboxMessage.requestId).Nodup :=
        nodup_insertNew s.unique_requests (insertNew_eq_some.2 ⟨hnoreq, rfl⟩)
      have hsorted : sortBy (messageKey sha256) (sortBy (messageKey sha256) (s.messages ++ [m])) =
          sortBy (messageKey sha256) (s.messages ++ [m]) := by
        refine sortBy_of_pairwise (pairwise_lt_sortBy ?_)
        have hinj : Function.Injective Digest.text := fun a b h => by cases a; cases b; cases h; rfl
        have := hids.map hinj
        rwa [map_map] at this
      have hpub : ∀ id ∈ s.publishedMessageIds, id ∈
          (sortBy (messageKey sha256) (s.messages ++ [m])).map (OutboxMessage.messageId sha256) := by
        intro id hid
        rw [(hp.map _).mem_iff, map_append]
        exact mem_append_left _ (s.published_known id hid)
      obtain ⟨next, hnext⟩ := makeOutboxState_of s.publishedMessageIds
        ((hp.map _).nodup_iff.2 hids) ((hp.map _).nodup_iff.2 hreqs) hsorted hpub
      exact ⟨_, bind_eq_ok.2 ⟨next, hnext, rfl⟩⟩

inductive AcknowledgeStep (s : OutboxState sha256) (id : Digest)
    (res : OutboxAcknowledgeResolution sha256) : Prop
  | unknown : id ∉ s.messages.map (OutboxMessage.messageId sha256) → res.decision = .reject →
      res.state = s → AcknowledgeStep s id res
  | again : id ∈ s.publishedMessageIds → res.decision = .replayExisting → res.state = s →
      AcknowledgeStep s id res
  | acknowledged : id ∉ s.publishedMessageIds → res.decision = .acknowledged →
      res.state.messages = s.messages →
      res.state.publishedMessageIds = insert id s.publishedMessageIds → AcknowledgeStep s id res

theorem acknowledgeOutboxMessage_cases {res : OutboxAcknowledgeResolution sha256}
    (h : acknowledgeOutboxMessage sha256 s id = .ok res) : AcknowledgeStep s id res := by
  unfold acknowledgeOutboxMessage at h
  by_cases hknown : id ∈ s.messages.map (OutboxMessage.messageId sha256)
  · rw [if_neg (not_not.2 hknown)] at h
    split_ifs at h with hpub
    · obtain rfl := Except.ok.inj h
      exact .again hpub rfl rfl
    · obtain ⟨next, hnext, h⟩ := bind_eq_ok.1 h
      obtain rfl := Except.ok.inj h
      obtain ⟨hmsgs, hp⟩ := makeOutboxState_eq_ok hnext
      exact .acknowledged hpub rfl hmsgs hp
  · rw [if_pos hknown] at h
    obtain rfl := Except.ok.inj h
    exact .unknown hknown rfl rfl

end

/-! ## Runs -/

inductive OutboxCall (sha256 : String → Digest) where
  | enqueue (m : OutboxMessage) (prior : List OutboxMessage) (res : OutboxEnqueueResolution sha256)
  | acknowledge (id : Digest) (res : OutboxAcknowledgeResolution sha256)

/-- The call is answered so in state `s`, and `t` is the state of the answer. -/
def OutboxSteps (sha256 : String → Digest) (s : OutboxState sha256) (c : OutboxCall sha256)
    (t : OutboxState sha256) : Prop :=
  match c with
  | .enqueue m prior res => resolveOutboxEnqueue sha256 s m prior = .ok res ∧ res.state = t
  | .acknowledge id res => acknowledgeOutboxMessage sha256 s id = .ok res ∧ res.state = t

/-- `ENQUEUE` or `REPLAY_EXISTING`. -/
def OutboxEnqueueResolution.Granted {sha256 : String → Digest}
    (res : OutboxEnqueueResolution sha256) : Prop :=
  res.decision = .enqueue ∨ res.decision = .replayExisting

/-- The answer binds the request id of the message in the outbox: it was enqueued, or it was
    replayed while a stored message carried its request id. -/
def Binds {sha256 : String → Digest} (s : OutboxState sha256) (m : OutboxMessage)
    (res : OutboxEnqueueResolution sha256) : Prop :=
  res.decision = .enqueue ∨
    res.decision = .replayExisting ∧ m.requestId ∈ s.messages.map OutboxMessage.requestId

section
variable {sha256 : String → Digest} {s t u : OutboxState sha256} {c : OutboxCall sha256}
  {cs : List (OutboxCall sha256)} {prior : List OutboxMessage}
  {res : OutboxEnqueueResolution sha256}

theorem outbox_grows (h : OutboxSteps sha256 s c t) :
    (∀ x ∈ s.messages, x ∈ t.messages) ∧ s.publishedMessageIds ⊆ t.publishedMessageIds := by
  cases c with
  | enqueue m prior res =>
    obtain ⟨h, rfl⟩ := h
    cases resolveOutboxEnqueue_cases h with
    | conflict _ _ hs | sameRequest _ _ _ hs | sameContent _ _ _ hs =>
      rw [hs]; exact ⟨fun _ hx => hx, subset_rfl⟩
    | enqueued _ _ hp hm => exact ⟨fun x hx => (hm x).2 (.inl hx), hp.symm.subset⟩
  | acknowledge id res =>
    obtain ⟨h, rfl⟩ := h
    cases acknowledgeOutboxMessage_cases h with
    | unknown _ _ hs | again _ _ hs => rw [hs]; exact ⟨fun _ hx => hx, subset_rfl⟩
    | acknowledged _ _ hm hp =>
      rw [hm, hp]
      exact ⟨fun _ hx => hx, Finset.subset_insert _ _⟩

theorem outbox_grows_run (h : Run (OutboxSteps sha256) s cs t) :
    (∀ x ∈ s.messages, x ∈ t.messages) ∧ s.publishedMessageIds ⊆ t.publishedMessageIds := by
  refine h.invariant (P := fun t => (∀ x ∈ s.messages, x ∈ t.messages) ∧
    s.publishedMessageIds ⊆ t.publishedMessageIds) ?_ ⟨fun _ hx => hx, subset_rfl⟩
  rintro t c u ⟨hm, hp⟩ hstep
  obtain ⟨hm', hp'⟩ := outbox_grows hstep
  exact ⟨fun x hx => hm' x (hm x hx), hp.trans hp'⟩

theorem stored_of_binds {m : OutboxMessage} (h : resolveOutboxEnqueue sha256 s m prior = .ok res)
    (hb : Binds s m res) : ∃ x ∈ res.state.messages, x.requestId = m.requestId ∧
      x.messageId sha256 = m.messageId sha256 := by
  cases resolveOutboxEnqueue_cases h with
  | conflict _ hd =>
    rcases hb with hb | ⟨hb, -⟩ <;> rw [hd] at hb <;> cases hb
  | sameRequest _ hall hd hs =>
    rcases hb with hb | ⟨-, hreq⟩
    · rw [hd] at hb
      cases hb
    · obtain ⟨x, hx, hxreq⟩ := mem_map.1 hreq
      exact ⟨x, hs ▸ hx, hxreq, hall x (mem_append_left _ hx) hxreq⟩
  | sameContent hno _ hd hs =>
    rcases hb with hb | ⟨-, hreq⟩
    · rw [hd] at hb
      cases hb
    · obtain ⟨x, hx, hxreq⟩ := mem_map.1 hreq
      exact absurd hxreq (hno x (mem_append_left _ hx))
  | enqueued _ _ _ hm => exact ⟨m, (hm m).2 (.inr rfl), rfl, rfl⟩

theorem content_of_granted {m x : OutboxMessage} (h : resolveOutboxEnqueue sha256 s m prior = .ok res)
    (hg : res.Granted) (hx : x ∈ s.messages) (hreq : x.requestId = m.requestId) :
    x.messageId sha256 = m.messageId sha256 := by
  cases resolveOutboxEnqueue_cases h with
  | conflict _ hd => rcases hg with hg | hg <;> rw [hd] at hg <;> cases hg
  | sameRequest _ hall => exact hall x (mem_append_left _ hx) hreq
  | sameContent hno => exact absurd hreq (hno x (mem_append_left _ hx))
  | enqueued hno => exact absurd hreq (hno x (mem_append_left _ hx)).1

theorem acknowledgeOutboxMessage_total (s : OutboxState sha256) (id : Digest) :
    ∃ res, acknowledgeOutboxMessage sha256 s id = .ok res := by
  unfold acknowledgeOutboxMessage
  by_cases hknown : id ∈ s.messages.map (OutboxMessage.messageId sha256)
  · rw [if_neg (not_not.2 hknown)]
    split_ifs
    · exact ⟨_, rfl⟩
    · have hids : (s.messages.map (OutboxMessage.messageId sha256)).Nodup := nodup_messageIds s
      have hsorted : sortBy (messageKey sha256) s.messages = s.messages :=
        sortBy_of_pairwise s.sorted
      have hpub : ∀ i ∈ insert id s.publishedMessageIds,
          i ∈ s.messages.map (OutboxMessage.messageId sha256) := by
        intro i hi
        rcases Finset.mem_insert.1 hi with rfl | hi
        · exact hknown
        · exact s.published_known i hi
      obtain ⟨next, hnext⟩ := makeOutboxState_of _ hids s.unique_requests hsorted hpub
      exact ⟨_, bind_eq_ok.2 ⟨next, hnext, rfl⟩⟩
  · rw [if_pos hknown]
    exact ⟨_, rfl⟩

theorem published_of_acknowledge {id : Digest} {res : OutboxAcknowledgeResolution sha256}
    (h : acknowledgeOutboxMessage sha256 s id = .ok res) (hd : res.decision ≠ .reject) :
    id ∈ res.state.publishedMessageIds := by
  cases acknowledgeOutboxMessage_cases h with
  | unknown _ hreject => exact absurd hreject hd
  | again hpub _ hs => rwa [hs]
  | acknowledged _ _ _ hp => exact hp ▸ Finset.mem_insert_self _ _

theorem acknowledge_again {id : Digest} {res : OutboxAcknowledgeResolution sha256}
    (hid : id ∈ s.publishedMessageIds) (h : acknowledgeOutboxMessage sha256 s id = .ok res) :
    res.decision = .replayExisting ∧ res.state = s := by
  cases acknowledgeOutboxMessage_cases h with
  | unknown hunknown => exact absurd (s.published_known id hid) hunknown
  | again _ hd hs => exact ⟨hd, hs⟩
  | acknowledged hnew => exact absurd hid hnew

end

/-- The same content: everything but the request id and the schedule. -/
def OutboxMessage.SameContent (m m' : OutboxMessage) : Prop :=
  m.aggregateType = m'.aggregateType ∧ m.aggregateId = m'.aggregateId ∧ m.eventId = m'.eventId ∧
    m.topic = m'.topic ∧ m.payloadDigest = m'.payloadDigest

theorem sameContent_of_messageId (hsha : Function.Injective sha256)
    {m m' : OutboxMessage} (h : m.messageId sha256 = m'.messageId sha256) : m.SameContent m' := by
  have hperm := perm_of_digest_mapping hsha (by simp [rigid_str]) (by simp) h
  have hmem : ∀ i ∈ [("aggregate_id", m.aggregateId), ("aggregate_type", m.aggregateType),
      ("event_id", m.eventId.text), ("payload_digest", m.payloadDigest.text), ("topic", m.topic)].map
        fun i : String × String => (PyKey.str i.1, PyValue.str i.2),
      i ∈ [("aggregate_id", m'.aggregateId), ("aggregate_type", m'.aggregateType),
        ("event_id", m'.eventId.text), ("payload_digest", m'.payloadDigest.text),
        ("topic", m'.topic)].map fun i : String × String => (PyKey.str i.1, PyValue.str i.2) :=
    fun i hi => hperm.mem_iff.1 hi
  simp [Digest.text_inj] at hmem
  obtain ⟨h₁, h₂, h₃, h₄, h₅⟩ := hmem
  exact ⟨h₂, h₁, h₃, h₅, h₄⟩

/-- **The outbox along its runs**: ids are unique, what is published is stored, a second
    acknowledgement changes nothing, and a request id stays bound to its content. -/
theorem outbox_run (sha256 : String → Digest) (cs : List (OutboxCall sha256))
    (s : OutboxState sha256) : Run (OutboxSteps sha256) (OutboxState.empty sha256) cs s →
    (s.messages.map (OutboxMessage.messageId sha256)).Nodup ∧
      (s.messages.map OutboxMessage.requestId).Nodup ∧
      (∀ id ∈ s.publishedMessageIds, id ∈ s.messages.map (OutboxMessage.messageId sha256)) ∧
      (∀ id res, acknowledgeOutboxMessage sha256 s id = .ok res → res.decision ≠ .reject →
        ∀ ds t, Run (OutboxSteps sha256) res.state ds t →
          ∃ res', acknowledgeOutboxMessage sha256 t id = .ok res' ∧
            res'.decision = .replayExisting ∧ res'.state = t) ∧
      ∀ m prior res, resolveOutboxEnqueue sha256 s m prior = .ok res → Binds s m res →
        ∀ ds t, Run (OutboxSteps sha256) res.state ds t →
          ∀ m' prior' res', resolveOutboxEnqueue sha256 t m' prior' = .ok res' → res'.Granted →
            m'.requestId = m.requestId → m'.messageId sha256 = m.messageId sha256 ∧
              (Function.Injective sha256 → m'.SameContent m) := by
  rintro -
  refine ⟨nodup_messageIds s, s.unique_requests, s.published_known, ?_, ?_⟩
  · intro id res hack hd ds t hlater
    have hpub : id ∈ t.publishedMessageIds :=
      (outbox_grows_run hlater).2 (published_of_acknowledge hack hd)
    obtain ⟨res', hagain⟩ := acknowledgeOutboxMessage_total t id
    exact ⟨res', hagain, acknowledge_again hpub hagain⟩
  · intro m prior res henq hbinds ds t hlater m' prior' res' henq' hgranted hreq
    obtain ⟨x, hx, hxreq, hxid⟩ := stored_of_binds henq hbinds
    have hid : x.messageId sha256 = m'.messageId sha256 :=
      content_of_granted henq' hgranted ((outbox_grows_run hlater).1 x hx) (hxreq.trans hreq.symm)
    have heq : m'.messageId sha256 = m.messageId sha256 := hid.symm.trans hxid
    exact ⟨heq, fun hsha => sameContent_of_messageId hsha heq⟩

/-! ## A request id that is not bound -/

/-- A sample message under request `request` about topic `topic`. -/
def sampleMessage (request : Digest) (topic : String) (h : notBlank topic = true) :
    OutboxMessage where
  requestId := request
  aggregateType := "run_attempt"
  aggregateId := "attempt-1"
  eventId := ⟨"event"⟩
  topic := topic
  payloadDigest := ⟨"payload"⟩
  createdAt := 0
  availableAt := 0
  aggregateType_notBlank := Eq.refl true
  aggregateId_notBlank := Eq.refl true
  topic_notBlank := h
  createdAt_le_availableAt := le_rfl

theorem enqueue_empty (sha256 : String → Digest) (m : OutboxMessage) :
    ∃ res, resolveOutboxEnqueue sha256 (OutboxState.empty sha256) m [] = .ok res ∧
      res.decision = .enqueue ∧ ∀ x, x ∈ res.state.messages ↔ x = m := by
  obtain ⟨res, hres⟩ := resolveOutboxEnqueue_total (OutboxState.empty sha256) m []
  refine ⟨res, hres, ?_⟩
  cases resolveOutboxEnqueue_cases hres with
  | conflict h | sameRequest h | sameContent _ h => simp [OutboxState.empty] at h
  | enqueued _ hd _ hm => exact ⟨hd, fun x => by simp [hm x, OutboxState.empty]⟩

/-- `outbox_run` at the outbox with one message. -/
theorem outbox_run_sample : ∃ res, resolveOutboxEnqueue plainDigest (OutboxState.empty plainDigest)
      (sampleMessage ⟨"r"⟩ "a" (by decide)) [] = .ok res ∧ res.decision = .enqueue ∧
    (res.state.messages.map OutboxMessage.requestId).Nodup ∧
    ∀ m prior res', resolveOutboxEnqueue plainDigest res.state m prior = .ok res' →
      res'.Granted → m.requestId = ⟨"r"⟩ →
        m.SameContent (sampleMessage ⟨"r"⟩ "a" (by decide)) := by
  obtain ⟨res, hres, hd, -⟩ := enqueue_empty plainDigest (sampleMessage ⟨"r"⟩ "a" (by decide))
  refine ⟨res, hres, hd, ?_, ?_⟩
  · have hstep : OutboxSteps plainDigest (OutboxState.empty plainDigest)
        (.enqueue (sampleMessage ⟨"r"⟩ "a" (by decide)) [] res) res.state := ⟨hres, rfl⟩
    exact (outbox_run _ _ _ (Run.snoc Run.nil hstep)).2.1
  · intro m prior res' hres' hgranted hreq
    obtain ⟨-, -, -, -, hbound⟩ := outbox_run plainDigest [] _ Run.nil
    exact (hbound _ _ _ hres (.inl hd) _ _ Run.nil m prior res' hres' hgranted hreq).2
      plainDigest_injective

/-- **A request id that was answered for stored content is granted for other content**: the
    answer `REPLAY_EXISTING` to `r2` is not recorded, as the content is stored under `r1`. -/
theorem request_rebound : ∃ a b c : OutboxEnqueueResolution plainDigest,
    resolveOutboxEnqueue plainDigest (OutboxState.empty plainDigest)
        (sampleMessage ⟨"r1"⟩ "a" (by decide)) [] = .ok a ∧ a.decision = .enqueue ∧
      resolveOutboxEnqueue plainDigest a.state (sampleMessage ⟨"r2"⟩ "a" (by decide)) [] = .ok b ∧
      b.decision = .replayExisting ∧
      resolveOutboxEnqueue plainDigest b.state (sampleMessage ⟨"r2"⟩ "b" (by decide)) [] = .ok c ∧
      c.decision = .enqueue ∧
      (sampleMessage ⟨"r2"⟩ "b" (by decide)).messageId plainDigest ≠
        (sampleMessage ⟨"r2"⟩ "a" (by decide)).messageId plainDigest := by
  have hne : ∀ r r' h h', (sampleMessage r "b" h).messageId plainDigest ≠
      (sampleMessage r' "a" h').messageId plainDigest := by
    intro r r' h h' heq
    obtain ⟨-, -, -, htopic, -⟩ := sameContent_of_messageId plainDigest_injective heq
    have hba : "b" = "a" := htopic
    exact absurd hba (by decide)
  obtain ⟨a, ha, had, hmem⟩ := enqueue_empty plainDigest (sampleMessage ⟨"r1"⟩ "a" (by decide))
  obtain ⟨b, hb⟩ := resolveOutboxEnqueue_total a.state (sampleMessage ⟨"r2"⟩ "a" (by decide)) []
  have hother : ∀ x ∈ a.state.messages ++ [], x.requestId ≠ ⟨"r2"⟩ := by
    intro x hx
    rw [append_nil, hmem] at hx
    subst hx
    decide
  have hstored : sampleMessage ⟨"r1"⟩ "a" (by decide) ∈ a.state.messages ++ [] := by
    rw [append_nil]
    exact (hmem _).2 rfl
  have hb' : b.decision = .replayExisting ∧ b.state = a.state := by
    cases resolveOutboxEnqueue_cases hb with
    | conflict h => obtain ⟨x, hx, hreq, -⟩ := h; exact absurd hreq (hother x hx)
    | sameRequest _ _ hd hs | sameContent _ _ hd hs => exact ⟨hd, hs⟩
    | enqueued hno => exact absurd rfl (hno _ hstored).2
  obtain ⟨hbd, hbs⟩ := hb'
  obtain ⟨c, hc⟩ := resolveOutboxEnqueue_total b.state (sampleMessage ⟨"r2"⟩ "b" (by decide)) []
  refine ⟨a, b, c, ha, had, hb, hbd, hc, ?_, hne _ _ _ _⟩
  have hmem' : ∀ x ∈ b.state.messages ++ [], x = sampleMessage ⟨"r1"⟩ "a" (by decide) := by
    intro x hx
    rwa [hbs, append_nil, hmem] at hx
  cases resolveOutboxEnqueue_cases hc with
  | conflict h =>
    obtain ⟨x, hx, hreq, -⟩ := h
    rw [hbs] at hx
    exact absurd hreq (hother x hx)
  | sameRequest h =>
    obtain ⟨x, hx, hreq⟩ := h
    rw [hbs] at hx
    exact absurd hreq (hother x hx)
  | sameContent _ h =>
    obtain ⟨x, hx, hid⟩ := h
    rw [hmem' x hx] at hid
    exact absurd hid.symm (hne _ _ _ _)
  | enqueued _ hd => exact hd

end ChartingPlatform
