/-
  A cycle of the relay: messages are sent and acknowledged in their order, up to the first one
  whose topic has a control character, which has no stream.
-/
import ChartingPlatform.Dispatch.RelayRuns

namespace ChartingPlatform

open Lib List

section
variable {sha256 : String → Digest} {tr : RedisDispatchTransport} {s : OutboxState sha256}
  {sent todo : List OutboxMessage} {r : RedisState} {m : OutboxMessage} {p : Pipeline sha256}
  {rel : Relay OutboxMessage} {i : ℕ}

/-! ## One message -/

theorem acknowledge_pending (hm : m ∈ s.messages)
    (hpending : m.messageId sha256 ∉ s.publishedMessageIds) : ∃ ack,
    acknowledgeOutboxMessage sha256 s (m.messageId sha256) = .ok ack ∧
      ack.decision = .acknowledged ∧ ack.state.messages = s.messages ∧
      ack.state.publishedMessageIds = insert (m.messageId sha256) s.publishedMessageIds := by
  obtain ⟨ack, hack⟩ := acknowledgeOutboxMessage_total s (m.messageId sha256)
  refine ⟨ack, hack, ?_⟩
  cases acknowledgeOutboxMessage_cases hack with
  | unknown hnot => exact absurd (mem_map_of_mem hm) hnot
  | again hid => exact absurd hid hpending
  | acknowledged _ hd hmessages hpublished => exact ⟨hd, hmessages, hpublished⟩

/-- A pending message with a stream is sent where the call is answered. -/
theorem RedisHolds.relay_ok (h : RedisHolds tr s sent r) (hm : m ∈ s.messages)
    (hpending : m.messageId sha256 ∉ s.publishedMessageIds)
    (hclean : hasControlCharacter m.topic = false) : ∃ r' relay,
      relayOutboxMessage sha256 tr r s m (.ran true .read) = .ok (r', relay) ∧
        relay.decision.sent = true := by
  have hkey : tr.streamKey (buildOutboxDispatchEnvelope sha256 m).request.queueName = .ok _ :=
    RedisDispatchTransport.streamKey_eq_ok.2 ⟨m.topic_notBlank, hclean, rfl⟩
  obtain ⟨⟨r', result⟩, hx⟩ : ∃ x, tr.enqueue sha256 r (buildOutboxDispatchEnvelope sha256 m)
      (.ran true .read) = .ok x := ⟨_, bind_eq_ok.2 ⟨_, hkey, rfl⟩⟩
  obtain ⟨-, hconflict, hreject⟩ := h.enqueue hm hx
  obtain ⟨ack, hack, hdecision, -⟩ := acknowledge_pending hm hpending
  unfold relayOutboxMessage
  dsimp only
  rw [if_neg (not_not.2 (mem_map_of_mem hm)), if_neg hpending, hx, ok_bind]
  dsimp only
  rw [if_neg (not_or.2 ⟨hconflict, hreject rfl⟩), hack, ok_bind, if_neg (not_not.2 hdecision)]
  refine ⟨_, _, rfl, ?_⟩
  dsimp only
  split_ifs
  · rfl
  · rfl

/-! ## The loop -/

/-- The relay sends its first message and acknowledges it. -/
def turn (i : ℕ) : List PipelineEvent := [.relay i (.ran true .read), .acknowledge i]

theorem Pipeline.setRelay_self (p : Pipeline sha256) (i : ℕ) (q : RelayProcess sha256) :
    (p.setRelay i q).relays i = q := Function.update_self _ _ _

theorem turn_clean (h : RedisHolds tr p.outbox sent p.redis)
    (hi : p.relays i = .relaying p.outbox (m :: todo)) (hm : m ∈ p.outbox.messages)
    (hpending : m.messageId sha256 ∉ p.outbox.publishedMessageIds)
    (hclean : hasControlCharacter m.topic = false) :
    (p.run tr (turn i)).relays i = .relaying (p.run tr (turn i)).outbox todo ∧
      (p.run tr (turn i)).outbox.messages = p.outbox.messages ∧
      (p.run tr (turn i)).outbox.publishedMessageIds =
        insert (m.messageId sha256) p.outbox.publishedMessageIds := by
  obtain ⟨r', relay, hx, hsent⟩ := h.relay_ok hm hpending hclean
  obtain ⟨ack, hack, hdecision, hmessages, hpublished⟩ := acknowledge_pending hm hpending
  have hcurrent : p.outbox.acknowledgeOutbox (m.messageId sha256) p.outbox.fingerprint =
      .ok ack := by
    rw [OutboxState.acknowledgeOutbox, if_neg (not_not.2 rfl)]
    exact hack
  have houtbox : ∀ (p : Pipeline sha256) q, (p.setRelay i q).outbox = p.outbox := fun _ _ => rfl
  have hne : ack.decision ≠ .reject := by
    rw [hdecision]
    decide
  simp only [turn, Pipeline.run, foldl_cons, foldl_nil, Pipeline.step, hi, hx, hsent,
    if_true, Pipeline.setRelay_self, houtbox, hcurrent, if_neg hne]
  exact ⟨trivial, hmessages, hpublished⟩

theorem turn_blocked (hi : p.relays i = .relaying p.outbox (m :: todo))
    (hm : m ∈ p.outbox.messages)
    (hpending : m.messageId sha256 ∉ p.outbox.publishedMessageIds)
    (hdirty : hasControlCharacter m.topic = true) :
    p.run tr (turn i) = p.setRelay i .idle := by
  have hblocked : ∃ e, relayOutboxMessage sha256 tr p.redis p.outbox m (.ran true .read) =
      .error e := relayOutboxMessage_blocked hm hpending hdirty
  obtain ⟨e, he⟩ := hblocked
  simp only [turn, Pipeline.run, foldl_cons, foldl_nil, Pipeline.step, hi, he,
    Pipeline.setRelay_self]

theorem run_flatMap_cons (m : OutboxMessage) (todo : List OutboxMessage) :
    p.run tr ((m :: todo).flatMap fun _ => turn i) =
      (p.run tr (turn i)).run tr (todo.flatMap fun _ => turn i) := by
  rw [flatMap_cons]
  exact foldl_append

theorem turns_idle (hi : p.relays i = .idle) (todo : List OutboxMessage) :
    p.run tr (todo.flatMap fun _ => turn i) = p := by
  induction todo with
  | nil => rfl
  | cons m todo ih =>
    have hturn : p.run tr (turn i) = p := by
      simp only [turn, Pipeline.run, foldl_cons, foldl_nil, Pipeline.step, hi]
    rw [run_flatMap_cons, hturn, ih]

/-- The messages of `todo` before the first one without a stream. -/
def routablePrefix (todo : List OutboxMessage) : List OutboxMessage :=
  todo.takeWhile fun m => !hasControlCharacter m.topic

theorem published_turns (hsound : rel.Sound) (h : Refines tr rel p)
    (hi : p.relays i = .relaying p.outbox todo) (hnodup : todo.Nodup)
    (htodo : ∀ m ∈ todo,
      m ∈ p.outbox.messages ∧ m.messageId sha256 ∉ p.outbox.publishedMessageIds) :
    (p.run tr (todo.flatMap fun _ => turn i)).outbox.publishedMessageIds =
      p.outbox.publishedMessageIds ∪
        ((routablePrefix todo).map (OutboxMessage.messageId sha256)).toFinset := by
  induction todo generalizing p rel with
  | nil => exact (Finset.union_empty _).symm
  | cons m todo ih =>
    obtain ⟨hm, hpending⟩ := htodo m mem_cons_self
    obtain ⟨hnew, hnodup⟩ := nodup_cons.1 hnodup
    rw [run_flatMap_cons]
    cases hdirty : hasControlCharacter m.topic with
    | true =>
      have hprefix : routablePrefix (m :: todo) = [] :=
        takeWhile_cons_of_neg (by simp [hdirty])
      rw [turn_blocked hi hm hpending hdirty, turns_idle (p.setRelay_self i _), hprefix]
      exact (Finset.union_empty _).symm
    | false =>
      obtain ⟨hi', hmessages, hpublished⟩ := turn_clean h.redis hi hm hpending hdirty
      obtain ⟨bs, rel', -, hsound', h'⟩ := h.run hsound (turn i)
      have hprefix : routablePrefix (m :: todo) = m :: routablePrefix todo :=
        takeWhile_cons_of_pos (by simp [hdirty])
      rw [ih hsound' h' hi' hnodup, hpublished, hprefix, map_cons, toFinset_cons,
        Finset.insert_union, Finset.union_insert]
      intro x hx
      obtain ⟨hxm, hxpending⟩ := htodo x (mem_cons_of_mem _ hx)
      rw [hmessages, hpublished, Finset.mem_insert, not_or]
      refine ⟨hxm, fun heq => hnew ?_, hxpending⟩
      exact eq_of_messageId hxm hm heq ▸ hx

theorem nodup_available (s : OutboxState sha256) (now : Instant) (limit : ℕ) :
    (s.available now limit).Nodup := by
  have hnodup : s.pendingMessages.Nodup :=
    (perm_sortBy _ _).nodup_iff.2 ((nodup_messageIds s).of_map _ |>.filter _)
  exact (hnodup.filter _).sublist (take_sublist _ _)

end

/-- An answered cycle from `p`, with nothing in between, publishes what comes before the first
    message without a stream. -/
def CyclePublishes {sha256 : String → Digest} (tr : RedisDispatchTransport) (i : ℕ) (now : Instant)
    (limit : ℕ) (p : Pipeline sha256) : Prop :=
  ((p.step tr (.start i now limit)).run tr
    ((p.outbox.available now limit).flatMap fun _ => turn i)).outbox.publishedMessageIds =
      p.outbox.publishedMessageIds ∪
        ((routablePrefix (p.outbox.available now limit)).map
          (OutboxMessage.messageId sha256)).toFinset

/-- **Every cycle publishes what comes before the first message without a stream**, in whatever
    state the history of all relays and writers has led to. -/
theorem relay_cycle (sha256 : String → Digest) (tr : RedisDispatchTransport)
    (es : List PipelineEvent) (i : ℕ) (now : Instant) (limit : ℕ)
    (hlimit : 1 ≤ limit ∧ limit ≤ 100) :
    CyclePublishes tr i now limit (({} : Pipeline sha256).run tr es) := by
  have hempty : Refines tr {} ({} : Pipeline sha256) := .empty tr
  obtain ⟨bs, rel, -, hsound, h⟩ := hempty.run (Relay.run_sound .nil) es
  generalize ({} : Pipeline sha256).run tr es = p at *
  obtain ⟨_, rel', hstep, h'⟩ := h.step hsound (.start i now limit)
  have hstart : p.step tr (.start i now limit) =
      p.setRelay i (.relaying p.outbox (p.outbox.available now limit)) := by
    unfold Pipeline.step
    dsimp only
    rw [if_pos hlimit]
  rw [hstart] at h'
  unfold CyclePublishes
  rw [hstart]
  exact published_turns (hsound.step hstep) h' (p.setRelay_self i _) (nodup_available _ _ _)
    fun m hm => OutboxState.mem_of_available hm

/-- Three stored messages, the second of which no transport publishes: its topic has a line break. -/
def blockedBacklog : List PipelineEvent :=
  [.enqueue (sampleMessage ⟨"r1"⟩ "a" (by decide)) [],
    .enqueue (sampleMessage ⟨"r2"⟩ "b\n" (by decide)) [],
    .enqueue (sampleMessage ⟨"r3"⟩ "c" (by decide)) []]

theorem relay_cycle_first :
    CyclePublishes ⟨"lab"⟩ 0 0 3 (({} : Pipeline plainDigest).run ⟨"lab"⟩ blockedBacklog) :=
  relay_cycle plainDigest _ _ 0 0 3 (by decide)

end ChartingPlatform
