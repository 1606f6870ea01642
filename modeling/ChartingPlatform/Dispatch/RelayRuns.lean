/-
  The pipeline from the outbox to the streams refines a relay, whatever order writes, relay
  cycles and crashes come in, and whatever the network does to the calls.
-/
import ChartingPlatform.Dispatch.Relay
import ChartingPlatform.Lib.Relays

namespace ChartingPlatform

open Lib List

section
variable {sha256 : String → Digest} {tr : RedisDispatchTransport} {s s' : OutboxState sha256}
  {sent sent' : List OutboxMessage} {r r' : RedisState} {m x : OutboxMessage} {d : RedisDelivery}

/-! ## The script and the streams -/

theorem enqueueScript_of_some {key : String} {e : StreamRecord} {appends : Bool}
    (h : rowWith Prod.fst key r.idempotency = some (key, e.messageId)) :
    enqueueScript r key e appends = (r, 0) := by
  simp [enqueueScript, h]

/-- Where `XADD` fails, the key is taken back. -/
theorem enqueueScript_of_none {key : String} {e : StreamRecord} {appends : Bool}
    (h : rowWith Prod.fst key r.idempotency = none) : enqueueScript r key e appends =
      if appends then ({ idempotency := upsert Prod.fst (key, e.messageId) r.idempotency
                         entries := r.entries ++ [e] }, 1)
      else (r, -2) := by
  have hkey := rowWith_eq_none.1 h
  have hback : (upsert Prod.fst (key, e.messageId) r.idempotency).filter
      (fun i => decide (i.1 ≠ key)) = r.idempotency := by
    rw [upsert, if_neg hkey, filter_append, filter_eq_self.2]
    · simp
    · intro i hi
      rw [decide_eq_true_eq]
      exact fun heq => hkey (heq ▸ mem_map_of_mem hi)
  simp only [enqueueScript, h, hback]

theorem RedisDispatchTransport.streamKey_eq_ok {q key : String} : tr.streamKey q = .ok key ↔
    notBlank q = true ∧ hasControlCharacter q = false ∧
      key = tr.namespaceText ++ ":stream:" ++ q := by
  simp only [streamKey, bind_eq_ok, ensure_eq_ok, pure_eq_ok, Except.ok.injEq, exists_const,
    eq_comm (a := key)]

/-! ## What Redis holds -/

/-- The stream entry of the message. -/
def OutboxMessage.streamRecord (sha256 : String → Digest) (tr : RedisDispatchTransport)
    (m : OutboxMessage) : StreamRecord :=
  (buildOutboxDispatchEnvelope sha256 m).record sha256 (tr.namespaceText ++ ":stream:" ++ m.topic)

theorem OutboxMessage.streamRecord_messageId (tr : RedisDispatchTransport) :
    (m.streamRecord sha256 tr).messageId =
    (buildOutboxDispatchEnvelope sha256 m).messageId.text :=
  DispatchEnvelope.record_messageId _ _ _

/-- Redis holds the messages `sent`, in this order, and nothing else. -/
structure RedisHolds (tr : RedisDispatchTransport) (s : OutboxState sha256)
    (sent : List OutboxMessage) (r : RedisState) : Prop where
  entries : r.entries = sent.map (OutboxMessage.streamRecord sha256 tr)
  /-- The idempotency key of each message is bound to its envelope. -/
  idempotency : r.idempotency = sent.map fun m =>
    ((m.messageId sha256).text, (buildOutboxDispatchEnvelope sha256 m).messageId.text)
  nodup : sent.Nodup
  stored : ∀ m ∈ sent, m ∈ s.messages
  routable : ∀ m ∈ sent, hasControlCharacter m.topic = false

/-- The message is sent now, or nothing is. -/
def Sends (sent : List OutboxMessage) (m : OutboxMessage) (sent' : List OutboxMessage) : Prop :=
  sent' = sent ∨ m ∉ sent ∧ sent' = sent ++ [m]

theorem Sends.subset (h : Sends sent m sent') : ∀ x ∈ sent, x ∈ sent' := by
  rcases h with rfl | ⟨-, rfl⟩
  · exact fun _ hx => hx
  · exact fun _ hx => mem_append_left _ hx

theorem eq_of_messageId (hm : m ∈ s.messages) (hx : x ∈ s.messages)
    (h : m.messageId sha256 = x.messageId sha256) : m = x :=
  inj_on_of_nodup_map (nodup_messageIds s) hm hx h

namespace RedisHolds

theorem lookup (h : RedisHolds tr s sent r) (hm : m ∈ s.messages) :
    rowWith Prod.fst (m.messageId sha256).text r.idempotency =
      if m ∈ sent then some ((m.messageId sha256).text,
        (buildOutboxDispatchEnvelope sha256 m).messageId.text) else none := by
  have hkey : ∀ x ∈ sent, (m.messageId sha256).text = (x.messageId sha256).text → m = x :=
    fun x hx heq => eq_of_messageId hm (h.stored x hx) (Digest.text_inj.1 heq)
  split_ifs with hmem
  · have hnodup : (r.idempotency.map Prod.fst).Nodup := by
      simp only [h.idempotency, map_map, Function.comp_def]
      exact h.nodup.map_on fun x hx y hy heq =>
        eq_of_messageId (h.stored x hx) (h.stored y hy) (Digest.text_inj.1 heq)
    rw [rowWith_eq_some hnodup, h.idempotency]
    exact ⟨mem_map_of_mem hmem, rfl⟩
  · rw [rowWith_eq_none]
    simp only [h.idempotency, map_map, Function.comp_def, mem_map]
    rintro ⟨x, hx, heq⟩
    exact hmem (hkey x hx heq.symm ▸ hx)

theorem concat (h : RedisHolds tr s sent r) (hm : m ∈ s.messages) (hnew : m ∉ sent)
    (hclean : hasControlCharacter m.topic = false) :
    RedisHolds tr s (sent ++ [m])
      { idempotency := upsert Prod.fst ((m.messageId sha256).text,
          (buildOutboxDispatchEnvelope sha256 m).messageId.text) r.idempotency
        entries := r.entries ++ [m.streamRecord sha256 tr] } where
  entries := by rw [map_append, map_singleton, ← h.entries]
  idempotency := by
    have hkey := h.lookup hm
    rw [if_neg hnew, rowWith_eq_none] at hkey
    rw [upsert, if_neg hkey, map_append, map_singleton, ← h.idempotency]
  nodup := Relay.nodup_concat_of_notMem h.nodup hnew
  stored := by
    intro x hx
    rcases mem_append.1 hx with hx | hx
    · exact h.stored x hx
    · exact mem_singleton.1 hx ▸ hm
  routable := by
    intro x hx
    rcases mem_append.1 hx with hx | hx
    · exact h.routable x hx
    · exact mem_singleton.1 hx ▸ hclean

theorem mono (h : RedisHolds tr s sent r) (hs : ∀ m ∈ s.messages, m ∈ s'.messages) :
    RedisHolds tr s' sent r :=
  ⟨h.entries, h.idempotency, h.nodup, fun m hm => hs m (h.stored m hm), h.routable⟩

/-! ## Sending one message -/

/-- What a call does to Redis: the message is held where it says so. -/
def Called (tr : RedisDispatchTransport) (s : OutboxState sha256) (sent : List OutboxMessage)
    (m : OutboxMessage) (r : RedisState) (done : Prop) : Prop :=
  ∃ sent', RedisHolds tr s sent' r ∧ Sends sent m sent' ∧ (done → m ∈ sent')

/-- **The script sends a stored message once.** -/
theorem script (h : RedisHolds tr s sent r) (hm : m ∈ s.messages)
    (hclean : hasControlCharacter m.topic = false) {appends : Bool} {code : ℤ}
    (hx : enqueueScript r (m.messageId sha256).text (m.streamRecord sha256 tr) appends =
      (r', code)) : Called tr s sent m r' (code ≠ -2) ∧
        (code = 0 ∨ code = 1 ∨ code = -2 ∧ appends = false) := by
  have hkey := h.lookup hm
  by_cases hmem : m ∈ sent
  · rw [if_pos hmem, ← OutboxMessage.streamRecord_messageId tr] at hkey
    rw [enqueueScript_of_some hkey] at hx
    obtain ⟨rfl, rfl⟩ := Prod.mk.inj hx
    exact ⟨⟨sent, h, .inl rfl, fun _ => hmem⟩, .inl rfl⟩
  · rw [if_neg hmem] at hkey
    rw [enqueueScript_of_none hkey, OutboxMessage.streamRecord_messageId] at hx
    cases appends with
    | true =>
      rw [if_pos rfl] at hx
      obtain ⟨rfl, rfl⟩ := Prod.mk.inj hx
      exact ⟨⟨_, h.concat hm hmem hclean, .inr ⟨hmem, rfl⟩, fun _ => by simp⟩, .inr (.inl rfl)⟩
    | false =>
      rw [if_neg (by simp)] at hx
      obtain ⟨rfl, rfl⟩ := Prod.mk.inj hx
      exact ⟨⟨sent, h, .inl rfl, fun hne => absurd rfl hne⟩, .inr (.inr ⟨rfl, rfl⟩)⟩

/-- One call of the transport for a stored message. -/
theorem enqueue (h : RedisHolds tr s sent r) (hm : m ∈ s.messages)
    {result : RedisTransportResolution}
    (hx : tr.enqueue sha256 r (buildOutboxDispatchEnvelope sha256 m) d = .ok (r', result)) :
    Called tr s sent m r' (result.decision ≠ .reject) ∧ result.decision ≠ .conflict ∧
      (d = .ran true .read → result.decision ≠ .reject) := by
  obtain ⟨key, hkey, hx⟩ := bind_eq_ok.1 hx
  obtain ⟨-, hclean, rfl⟩ := RedisDispatchTransport.streamKey_eq_ok.1 hkey
  cases d with
  | refused name =>
    obtain ⟨rfl, rfl⟩ := Prod.mk.inj (Except.ok.inj hx)
    exact ⟨⟨sent, h, .inl rfl, fun hne => absurd rfl hne⟩, by simp, fun hd => nomatch hd⟩
  | ran appends reply =>
    dsimp only at hx
    generalize hscript : enqueueScript r _ _ appends = out at hx
    obtain ⟨r₁, code⟩ := out
    obtain ⟨⟨sent', h', hsends, hdone⟩, hcode⟩ := h.script hm hclean hscript
    obtain ⟨rfl, rfl⟩ := Prod.mk.inj (Except.ok.inj hx)
    cases reply with
    | lost name | unreadable =>
      exact ⟨⟨sent', h', hsends, fun hne => absurd rfl hne⟩, by simp, fun hd => nomatch hd⟩
    | read =>
      rcases hcode with rfl | rfl | ⟨rfl, rfl⟩
      · exact ⟨⟨sent', h', hsends, fun _ => hdone (by decide)⟩, by simp, fun _ => by simp⟩
      · exact ⟨⟨sent', h', hsends, fun _ => hdone (by decide)⟩, by simp, fun _ => by simp⟩
      · exact ⟨⟨sent', h', hsends, fun hne => absurd rfl hne⟩, by simp, fun hd => nomatch hd⟩

/-- **Relaying a stored message**: the relay goes on to acknowledge it only where Redis holds it,
    or where its state counts it as published. -/
theorem relay (h : RedisHolds tr s sent r) (hm : m ∈ s.messages)
    {relay : OutboxRelayResolution sha256}
    (hx : relayOutboxMessage sha256 tr r s' m d = .ok (r', relay)) :
    ∃ sent', RedisHolds tr s sent' r' ∧ Sends sent m sent' ∧
      (relay.decision.sent = true → m ∈ sent' ∨ m.messageId sha256 ∈ s'.publishedMessageIds) := by
  unfold relayOutboxMessage at hx
  dsimp only at hx
  split_ifs at hx with hknown hpublished
  · obtain ⟨rfl, rfl⟩ := Prod.mk.inj (Except.ok.inj hx)
    exact ⟨sent, h, .inl rfl, fun _ => .inr hpublished⟩
  · obtain ⟨⟨r₁, result⟩, hcall, hx⟩ := bind_eq_ok.1 hx
    obtain ⟨⟨sent', h', hsends, hdone⟩, hconflict, -⟩ := h.enqueue hm hcall
    dsimp only at hx
    by_cases hfailed : result.decision = .conflict ∨ result.decision = .reject
    · rw [if_pos hfailed, if_neg hconflict] at hx
      obtain ⟨rfl, rfl⟩ := Prod.mk.inj (Except.ok.inj hx)
      exact ⟨sent', h', hsends, fun hsent => absurd hsent (by simp [OutboxRelayDecision.sent])⟩
    · rw [if_neg hfailed] at hx
      obtain ⟨ack, -, hx⟩ := bind_eq_ok.1 hx
      have hmem := hdone fun hreject => hfailed (.inr hreject)
      split_ifs at hx
      all_goals
        obtain ⟨rfl, rfl⟩ := Prod.mk.inj (Except.ok.inj hx)
        exact ⟨sent', h', hsends, fun _ => .inl hmem⟩
  · obtain ⟨rfl, rfl⟩ := Prod.mk.inj (Except.ok.inj hx)
    exact ⟨sent, h, .inl rfl, fun hsent => absurd hsent (by simp [OutboxRelayDecision.sent])⟩

end RedisHolds

/-- A topic without a stream raises. -/
theorem relayOutboxMessage_blocked (hm : m ∈ s.messages)
    (hpending : m.messageId sha256 ∉ s.publishedMessageIds)
    (hdirty : hasControlCharacter m.topic = true) :
    ∃ e, relayOutboxMessage sha256 tr r s m d = .error e := by
  cases hx : relayOutboxMessage sha256 tr r s m d with
  | error e => exact ⟨e, rfl⟩
  | ok x =>
    unfold relayOutboxMessage at hx
    dsimp only at hx
    rw [if_neg (not_not.2 (mem_map_of_mem hm)), if_neg hpending] at hx
    obtain ⟨y, hcall, -⟩ := bind_eq_ok.1 hx
    obtain ⟨key, hkey, -⟩ := bind_eq_ok.1 hcall
    have hclean := (RedisDispatchTransport.streamKey_eq_ok.1 hkey).2.1
    exact absurd (hdirty.symm.trans hclean) (by simp)

/-! ## The refinement -/

theorem OutboxState.mem_of_available {now : Instant} {limit : ℕ} (hm : m ∈ s.available now limit) :
    m ∈ s.messages ∧ m.messageId sha256 ∉ s.publishedMessageIds := by
  have hmem := (mem_filter.1 (mem_of_mem_take hm)).1
  rw [OutboxState.pendingMessages, mem_sortBy, mem_filter, decide_eq_true_eq] at hmem
  exact hmem

/-- An earlier state of the outbox. -/
structure Before (s s' : OutboxState sha256) : Prop where
  messages : ∀ m ∈ s.messages, m ∈ s'.messages
  published : s.publishedMessageIds ⊆ s'.publishedMessageIds

theorem Before.refl (s : OutboxState sha256) : Before s s := ⟨fun _ hm => hm, subset_rfl⟩

theorem Before.trans {s'' : OutboxState sha256} (h : Before s s') (h' : Before s' s'') :
    Before s s'' :=
  ⟨fun m hm => h'.messages m (h.messages m hm), h.published.trans h'.published⟩

/-- What a relay holds while it waits. -/
inductive RelayWaiting (s : OutboxState sha256) (sent : List OutboxMessage) :
    RelayProcess sha256 → Prop
  | idle : RelayWaiting s sent .idle
  | relaying {s₀ todo} : Before s₀ s → (∀ m ∈ todo, m ∈ s.messages) →
      RelayWaiting s sent (.relaying s₀ todo)
  | acknowledging {s₀ m todo} : Before s₀ s → (∀ m ∈ todo, m ∈ s.messages) → m ∈ sent →
      RelayWaiting s sent (.acknowledging s₀ m todo)

theorem RelayWaiting.mono {q : RelayProcess sha256} (h : RelayWaiting s sent q) (hs : Before s s')
    (hsent : ∀ m ∈ sent, m ∈ sent') : RelayWaiting s' sent' q := by
  cases h with
  | idle => exact .idle
  | relaying h₀ htodo => exact .relaying (h₀.trans hs) fun m hm => hs.messages m (htodo m hm)
  | acknowledging h₀ htodo hm =>
    exact .acknowledging (h₀.trans hs) (fun m hm => hs.messages m (htodo m hm)) (hsent _ hm)

/-- The pipeline, seen as a relay of messages. -/
structure Refines (tr : RedisDispatchTransport) (rel : Relay OutboxMessage)
    (p : Pipeline sha256) : Prop where
  logged : ∀ m, m ∈ rel.logged ↔ m ∈ p.outbox.messages
  redis : RedisHolds tr p.outbox rel.received p.redis
  marked : ∀ m, m ∈ rel.marked ↔
    m ∈ p.outbox.messages ∧ m.messageId sha256 ∈ p.outbox.publishedMessageIds
  waiting : ∀ i, RelayWaiting p.outbox rel.received (p.relays i)

variable {p : Pipeline sha256} {rel : Relay OutboxMessage}

namespace Refines

theorem setRelay (h : Refines tr rel p) (i : ℕ) {q : RelayProcess sha256}
    (hq : RelayWaiting p.outbox rel.received q) : Refines tr rel (p.setRelay i q) := by
  refine ⟨h.logged, h.redis, h.marked, fun j => ?_⟩
  show RelayWaiting p.outbox rel.received (Function.update p.relays i q j)
  by_cases hj : j = i
  · rwa [hj, Function.update_self]
  · rw [Function.update_of_ne hj]
    exact h.waiting j

/-- A writer logs its message, or nothing happens. -/
theorem enqueue (h : Refines tr rel p) (m : OutboxMessage) (prior : List OutboxMessage) :
    ∃ b rel', Relay.Step rel b rel' ∧ Refines tr rel' (p.step tr (.enqueue m prior)) := by
  obtain ⟨res, hres⟩ := resolveOutboxEnqueue_total p.outbox m prior
  have hsame : res.state = p.outbox →
      ∃ b rel', Relay.Step rel b rel' ∧ Refines tr rel' { p with outbox := res.state } := by
    intro heq
    rw [heq]
    exact ⟨.stutter, rel, .stutter, h⟩
  unfold Pipeline.step
  simp only [hres]
  cases resolveOutboxEnqueue_cases hres with
  | conflict _ _ heq | sameRequest _ _ _ heq | sameContent _ _ _ heq => exact hsame heq
  | enqueued hnew _ hpublished hmessages =>
    have hm : m ∉ p.outbox.messages := fun hm => (hnew m (mem_append_left _ hm)).2 rfl
    have hbefore : Before p.outbox res.state :=
      ⟨fun x hx => (hmessages x).2 (.inl hx), hpublished.symm.subset⟩
    refine ⟨.log m, _, .log (mt (h.logged m).1 hm), ?_, h.redis.mono hbefore.messages, ?_,
      fun i => (h.waiting i).mono hbefore fun _ hx => hx⟩
    · intro x
      rw [mem_append, mem_singleton, h.logged, hmessages]
    · intro x
      rw [h.marked, hmessages, hpublished]
      refine and_congr_left fun hid => ⟨.inl, ?_⟩
      rintro (hx | rfl)
      · exact hx
      · obtain ⟨y, hy, heq⟩ := mem_map.1 (p.outbox.published_known _ hid)
        exact absurd heq (hnew y (mem_append_left _ hy)).2

/-- Relaying a message sends it, or nothing happens. -/
theorem relay (hsound : rel.Sound) (h : Refines tr rel p) (i : ℕ) (d : RedisDelivery) :
    ∃ b rel', Relay.Step rel b rel' ∧ Refines tr rel' (p.step tr (.relay i d)) := by
  have hwait := h.waiting i
  unfold Pipeline.step
  cases hi : p.relays i with
  | idle | acknowledging s₀ m todo => exact ⟨.stutter, rel, .stutter, by simpa only [hi] using h⟩
  | relaying s₀ todo =>
    cases todo with
    | nil => exact ⟨.stutter, rel, .stutter, by simpa only [hi] using h⟩
    | cons m todo =>
      rw [hi] at hwait
      obtain - | ⟨hbefore, htodo⟩ := hwait
      rw [forall_mem_cons] at htodo
      simp only [hi]
      cases hx : relayOutboxMessage sha256 tr p.redis s₀ m d with
      | error e => exact ⟨.stutter, rel, .stutter, h.setRelay i .idle⟩
      | ok out =>
        obtain ⟨r₁, relay⟩ := out
        obtain ⟨sent', h', hsends, hdone⟩ := h.redis.relay htodo.1 hx
        have hreceive : Refines tr { rel with received := sent' } { p with redis := r₁ } :=
          ⟨h.logged, h', h.marked, fun j => (h.waiting j).mono (.refl _) hsends.subset⟩
        have hstep : ∃ b, Relay.Step rel b { rel with received := sent' } := by
          rcases hsends with rfl | ⟨hnew, rfl⟩
          · exact ⟨.stutter, .stutter⟩
          · exact ⟨.send m, .send ((h.logged m).2 htodo.1) hnew⟩
        obtain ⟨b, hstep⟩ := hstep
        refine ⟨b, _, hstep, hreceive.setRelay i ?_⟩
        cases hsent : relay.decision.sent with
        | false => exact .relaying hbefore htodo.2
        | true =>
          refine .acknowledging hbefore htodo.2 ?_
          rcases hdone hsent with hm | hpublished
          · exact hm
          · exact hsends.subset m (hsound.marked_received m
              ((h.marked m).2 ⟨htodo.1, hbefore.published hpublished⟩))

/-- Acknowledging a sent message marks it, or nothing happens. -/
theorem acknowledge (h : Refines tr rel p) (i : ℕ) :
    ∃ b rel', Relay.Step rel b rel' ∧ Refines tr rel' (p.step tr (.acknowledge i)) := by
  have hwait := h.waiting i
  unfold Pipeline.step
  cases hi : p.relays i with
  | idle | relaying s₀ todo => exact ⟨.stutter, rel, .stutter, by simpa only [hi] using h⟩
  | acknowledging s₀ m todo =>
    rw [hi] at hwait
    obtain - | - | ⟨hbefore, htodo, hsent⟩ := hwait
    simp only [hi]
    cases hack : p.outbox.acknowledgeOutbox (m.messageId sha256) s₀.fingerprint with
    | error e => exact ⟨.stutter, rel, .stutter, h.setRelay i .idle⟩
    | ok ack =>
      have hsame : ack.state = p.outbox → ∃ b rel', Relay.Step rel b rel' ∧
          Refines tr rel' ({ p with outbox := ack.state }.setRelay i (.relaying
            (if ack.decision = OutboxAcknowledgeDecision.reject then s₀ else ack.state) todo)) := by
        intro heq
        rw [heq]
        refine ⟨.stutter, rel, .stutter, h.setRelay i (.relaying ?_ htodo)⟩
        split_ifs
        · exact hbefore
        · exact .refl _
      unfold OutboxState.acknowledgeOutbox at hack
      split_ifs at hack with hstale
      · obtain rfl := Except.ok.inj hack
        exact hsame rfl
      · cases acknowledgeOutboxMessage_cases hack with
        | unknown _ _ heq | again _ _ heq => exact hsame heq
        | acknowledged _ _ hmessages hpublished =>
          have hm := h.redis.stored m hsent
          have hgrows : Before p.outbox ack.state :=
            ⟨fun x hx => hmessages ▸ hx, hpublished ▸ Finset.subset_insert _ _⟩
          have hmark : Refines tr { rel with marked := insert m rel.marked }
              { p with outbox := ack.state } := by
            refine ⟨fun x => ?_, h.redis.mono hgrows.messages, fun x => ?_,
              fun j => (h.waiting j).mono hgrows fun _ hx => hx⟩
            · rw [h.logged, hmessages]
            · rw [Set.mem_insert_iff, h.marked, hmessages, hpublished, Finset.mem_insert,
                and_or_left]
              refine or_congr_left ⟨?_, fun hx => eq_of_messageId hx.1 hm hx.2⟩
              rintro rfl
              exact ⟨hm, rfl⟩
          refine ⟨.mark m, _, .mark hsent, hmark.setRelay i (.relaying ?_ fun x hx => ?_)⟩
          · split_ifs
            · exact hbefore.trans hgrows
            · exact .refl _
          · exact hgrows.messages x (htodo x hx)

/-- **Every event of the pipeline is a step of the relay.** -/
theorem step (hsound : rel.Sound) (h : Refines tr rel p) (e : PipelineEvent) :
    ∃ b rel', Relay.Step rel b rel' ∧ Refines tr rel' (p.step tr e) := by
  cases e with
  | enqueue m prior => exact h.enqueue m prior
  | relay i d => exact h.relay hsound i d
  | acknowledge i => exact h.acknowledge i
  | crash i => exact ⟨.stutter, rel, .stutter, h.setRelay i .idle⟩
  | start i now limit =>
    refine ⟨.stutter, rel, .stutter, ?_⟩
    unfold Pipeline.step
    dsimp only
    split_ifs
    · exact h.setRelay i (.relaying (.refl _) fun m hm => (OutboxState.mem_of_available hm).1)
    · exact h.setRelay i .idle

theorem empty (tr : RedisDispatchTransport) : Refines tr {} ({} : Pipeline sha256) where
  logged := by simp [OutboxState.empty]
  redis := ⟨rfl, rfl, nodup_nil, by simp, by simp⟩
  marked := by simp [OutboxState.empty]
  waiting := fun _ => .idle

theorem run (hsound : rel.Sound) (h : Refines tr rel p) (es : List PipelineEvent) :
    ∃ bs rel', Run Relay.Step rel bs rel' ∧ rel'.Sound ∧ Refines tr rel' (p.run tr es) := by
  induction es using List.reverseRecOn with
  | nil => exact ⟨[], rel, .nil, hsound, h⟩
  | append_singleton es e ih =>
    obtain ⟨bs, rel₁, hrun, hsound₁, h₁⟩ := ih
    obtain ⟨b, rel₂, hstep, h₂⟩ := h₁.step hsound₁ e
    refine ⟨bs ++ [b], rel₂, .snoc hrun hstep, hsound₁.step hstep, ?_⟩
    rw [Pipeline.run, foldl_append]
    exact h₂

end Refines

/-! ## Runs of the pipeline -/

/-- Redis holds the distinct stored messages `sent`, and each message that the outbox counts as
    published exactly once; no call meets a conflict. -/
structure Consistent (tr : RedisDispatchTransport) (sent : List OutboxMessage)
    (p : Pipeline sha256) : Prop where
  redis : RedisHolds tr p.outbox sent p.redis
  published_once : ∀ m ∈ p.outbox.messages,
    m.messageId sha256 ∈ p.outbox.publishedMessageIds → sent.count m = 1
  no_conflict : ∀ m ∈ p.outbox.messages, ∀ d x,
    tr.enqueue sha256 p.redis (buildOutboxDispatchEnvelope sha256 m) d = .ok x →
      x.2.decision ≠ .conflict

theorem Refines.consistent (hsound : rel.Sound) (h : Refines tr rel p) :
    Consistent tr rel.received p where
  redis := h.redis
  published_once := fun m hm hid => hsound.count_of_marked ((h.marked m).2 ⟨hm, hid⟩)
  no_conflict := fun _ hm _ _ hx => (h.redis.enqueue hm hx).2.1

end

variable (sha256 : String → Digest) (tr : RedisDispatchTransport) (es fs : List PipelineEvent)

/-- **Exactly once, along every run**: after every history of writes, relay cycles of any number
    of relays, crashes and network faults, Redis holds each stored message at most once, a
    published message exactly once, and nothing else; what is stored, sent or published stays
    so. -/
theorem relay_run : ∃ sent sent' : List OutboxMessage,
    Consistent tr sent (({} : Pipeline sha256).run tr es) ∧
      Consistent tr sent' (({} : Pipeline sha256).run tr (es ++ fs)) ∧ sent <+: sent' ∧
      Before (({} : Pipeline sha256).run tr es).outbox
        (({} : Pipeline sha256).run tr (es ++ fs)).outbox := by
  have hempty : Refines tr {} ({} : Pipeline sha256) := .empty tr
  obtain ⟨bs, rel, -, hsound, h⟩ := hempty.run (Relay.run_sound .nil) es
  obtain ⟨cs, rel', hrun, hsound', h'⟩ := h.run hsound fs
  have hgrows := Relay.run_grows hrun
  rw [Pipeline.run, Pipeline.run, ← foldl_append] at h'
  refine ⟨_, _, h.consistent hsound, h'.consistent hsound', hgrows.received, fun m hm => ?_, ?_⟩
  · exact (h'.logged m).1 (hgrows.logged.subset ((h.logged m).2 hm))
  · intro id hid
    obtain ⟨m, hm, rfl⟩ := mem_map.1 (Pipeline.outbox _ |>.published_known id hid)
    exact ((h'.marked m).1 (hgrows.marked ((h.marked m).2 ⟨hm, hid⟩))).2

end ChartingPlatform
