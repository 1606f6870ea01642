/-
  Runs of a forward window (`forward_context.py`): preparing, committing and discarding
  events in any order.
-/
import ChartingPlatform.Strategy.ContextWindow

namespace ChartingPlatform

open Lib List

/-! ## Runs -/

/-- An event that was staged: its payload, the delivery it came by and what was answered. -/
structure WindowEvent where
  payload : VerifiedForwardMarketPayload
  binding : Option NautilusForwardDeliveryBinding
  preparation : ForwardStrategyContextPreparation

/-- A window, with the events that were committed to it and the one that is staged. -/
structure WindowLog where
  window : ForwardStrategyContextWindow := {}
  committed : List WindowEvent := []
  staged : Option WindowEvent := none

def WindowLog.payloads (s : WindowLog) : List VerifiedForwardMarketPayload :=
  s.committed.map WindowEvent.payload

inductive WindowCall where
  | prepare (payload : VerifiedForwardMarketPayload) (instanceId : String)
      (positions : Option (List (String × SdkPositionSnapshot)))
      (binding : Option NautilusForwardDeliveryBinding)
  | commit (p : ForwardStrategyContextPreparation)
  | discard (p : ForwardStrategyContextPreparation)

/-- A call that does not raise.  The event that `prepare` stages is committed or dropped when
    nothing is pending any more. -/
inductive WindowStep (sha256 : String → Digest) (c : ForwardContextSession) (s : WindowLog) :
    WindowCall → WindowLog → Prop
  | prepare {payload instanceId positions binding p w} :
    c.prepare sha256 s.window payload instanceId positions binding = .ok (p, w) →
    WindowStep sha256 c s (.prepare payload instanceId positions binding)
      { s with
        window := w
        staged := s.staged.or (w.pending.map fun x => ⟨payload, binding, x.1⟩) }
  | commit {p fingerprint w} : c.commit sha256 s.window p = .ok (fingerprint, w) →
    WindowStep sha256 c s (.commit p)
      (if w.pending.isNone = true then
        { window := w, committed := s.committed ++ s.staged.toList, staged := none }
      else { s with window := w })
  | discard {p w} : c.discard sha256 s.window p = .ok w →
    WindowStep sha256 c s (.discard p)
      (if w.pending.isNone = true then { s with window := w, staged := none }
      else { s with window := w })

/-! ## What a window knows -/

section
variable {sha256 : String → Digest} {c : ForwardContextSession}
  {w w' : ForwardStrategyContextWindow} {payload : VerifiedForwardMarketPayload}
  {ps qs : List VerifiedForwardMarketPayload} {s s' : WindowLog} {call : WindowCall}
  {calls : List WindowCall} {instanceId : String}
  {positions : Option (List (String × SdkPositionSnapshot))}
  {binding : Option NautilusForwardDeliveryBinding} {p : ForwardStrategyContextPreparation}
  {x : ForwardStrategyContextPreparation × ContextEvents × EventKey}
  {payload' : VerifiedForwardMarketPayload}

def marketEvents (ps : List VerifiedForwardMarketPayload) : List MarketEvent :=
  ps.map VerifiedForwardMarketPayload.marketEvent

@[simp] theorem marketEvents_append :
    marketEvents (ps ++ qs) = marketEvents ps ++ marketEvents qs := map_append

structure Holds (c : ForwardContextSession) (w : ForwardStrategyContextWindow)
    (ps : List VerifiedForwardMarketPayload) : Prop where
  valid : c.ValidEvents (marketEvents ps)
  events : w.events = windows MarketEvent.dependencyId c.bound (marketEvents ps)
  lastKey : w.lastEventKey = (marketEvents ps).getLast?.map MarketEvent.key

theorem holds_empty : Holds c {} [] where
  valid := ⟨nofun, .nil⟩
  events := windows_nil.symm
  lastKey := rfl

theorem validEvents_append {es : List MarketEvent} {e : MarketEvent} (h : c.ValidEvents es)
    (hd : ∃ d, c.manifest.dependency e.dependencyId = some d ∧ d.Declares e)
    (hlast : ∀ k ∈ es.getLast?.map MarketEvent.key, k < e.key) : c.ValidEvents (es ++ [e]) where
  declared a ha := by
    rcases mem_append.1 ha with ha | ha
    · exact h.declared a ha
    · exact mem_singleton.1 ha ▸ hd
  increasing := by
    rw [pairwise_append]
    refine ⟨h.increasing, pairwise_singleton _ _, fun a ha b hb => ?_⟩
    rw [mem_singleton.1 hb]
    rcases eq_nil_or_concat' es with rfl | ⟨init, z, rfl⟩
    · exact absurd ha not_mem_nil
    · exact (h.le_last a ha).trans_lt (hlast z.key (by rw [getLast?_concat]; rfl))

theorem Holds.stage (h : Holds c w ps)
    (hx : c.stage sha256 w payload positions binding = .ok x)
    (hevents : w'.events = x.2.1) (hkey : w'.lastEventKey = some x.2.2) :
    Holds c w' (ps ++ [payload]) := by
  obtain ⟨hdeclared, hlast, context, rfl, -, -⟩ := ForwardContextSession.stage_eq_ok hx
  have hone : marketEvents [payload] = [payload.marketEvent] := rfl
  refine ⟨?_, ?_, ?_⟩
  · rw [marketEvents_append, hone]
    refine validEvents_append h.valid hdeclared fun k hk => ?_
    rw [← h.lastKey] at hk
    rw [payload.key_marketEvent]
    exact hlast k hk
  · rw [hevents, marketEvents_append, hone, windows_append_singleton, h.events]
  · rw [hkey, marketEvents_append, hone, getLast?_concat, Option.map_some,
      payload.key_marketEvent]

theorem accepted_marketEvent (e : MarketEvent) : Accepted e.toPy := by
  refine accepted_dataclass ?_
  simp [e.values_accepted]

theorem accepted_payload (q : VerifiedForwardMarketPayload) : Accepted q.toPy := by
  refine accepted_dataclass ?_
  simp [accepted_event, accepted_marketEvent]

theorem canonicalEvent_of_fingerprint (hsha : Function.Injective sha256)
    (h : payload.fingerprint sha256 = payload'.fingerprint sha256) :
    payload.canonicalEvent = payload'.canonicalEvent := by
  have hf := (same_of_digest hsha (accepted_payload _) (accepted_payload _) h).fields
  simp [visible, omitted, Field.isPrivate] at hf
  exact eq_of_same_event hf.1

theorem fingerprint_ne (hsha : Function.Injective sha256)
    (h : payload'.key < payload.key) :
    payload'.fingerprint sha256 ≠ payload.fingerprint sha256 := by
  intro heq
  have hkey : payload'.key = payload.key := by
    rw [VerifiedForwardMarketPayload.key, canonicalEvent_of_fingerprint hsha heq]
    rfl
  exact absurd h (hkey ▸ lt_irrefl _)

theorem preparation_repeats {candidate : ContextEvents} {context : StrategyContext} :
    ForwardContextSession.Repeats sha256 (c.preparation sha256 w payload binding candidate context)
      payload binding := by
  unfold ForwardContextSession.preparation
  refine ⟨by dsimp only, ?_⟩
  cases binding with
  | none =>
    unfold ForwardStrategyContextPreparation.SameDelivery
    dsimp only [Option.map_none]
  | some b =>
    unfold ForwardStrategyContextPreparation.SameDelivery
    dsimp only [Option.map_some]
    exact ⟨rfl, rfl, rfl, rfl⟩

theorem stage_repeats (hx : c.stage sha256 w payload positions binding = .ok x) :
    ForwardContextSession.Repeats sha256 x.1 payload binding := by
  obtain ⟨-, -, context, rfl, -, -⟩ := ForwardContextSession.stage_eq_ok hx
  exact preparation_repeats

theorem SharedFields.repeats {q : ForwardStrategyContextPreparation} (h : SharedFields p q) :
    ForwardContextSession.Repeats sha256 p payload binding ↔
      ForwardContextSession.Repeats sha256 q payload binding := by
  unfold ForwardContextSession.Repeats
  rw [h.payloadFingerprint, h.sameDelivery]

theorem stage_congr (hevents : w'.events = w.events) (hkey : w'.lastEventKey = w.lastEventKey) :
    c.stage sha256 w' payload positions binding = c.stage sha256 w payload positions binding := by
  unfold ForwardContextSession.stage ForwardContextSession.preparation
    ForwardContextSession.windowFingerprint
  rw [hevents, hkey]

/-! ## The invariant -/

structure StagedEvent (sha256 : String → Digest) (c : ForwardContextSession)
    (w : ForwardStrategyContextWindow)
    (x : ForwardStrategyContextPreparation × ContextEvents × EventKey) (e : WindowEvent) : Prop where
  delivery : c.checkDelivery sha256 e.payload e.binding = .ok ()
  fresh : ∀ last ∈ w.lastCommitted,
    ¬ ForwardContextSession.Repeats sha256 last e.payload e.binding
  stage : ∃ positions, c.stage sha256 w e.payload positions e.binding = .ok x
  preparation : e.preparation = x.1

structure CommittedEvent (sha256 : String → Digest) (c : ForwardContextSession)
    (w : ForwardStrategyContextWindow) (p : ForwardStrategyContextPreparation)
    (e : WindowEvent) : Prop where
  delivery : c.checkDelivery sha256 e.payload e.binding = .ok ()
  repeats : ForwardContextSession.Repeats sha256 p e.payload e.binding
  next : c.windowFingerprint sha256 w = p.nextWindowFingerprint
  key : toLex (p.context.eventTime, p.context.eventSequence) = e.payload.key
  preparation : p.Equal e.preparation

structure WindowInvariant (sha256 : String → Digest) (c : ForwardContextSession)
    (s : WindowLog) : Prop where
  holds : Holds c s.window s.payloads
  idle : s.window.pending = none → s.staged = none
  pending : ∀ x ∈ s.window.pending, ∃ e, s.staged = some e ∧ StagedEvent sha256 c s.window x e
  empty : s.window.lastCommitted = none → s.committed = []
  last : ∀ p ∈ s.window.lastCommitted,
    ∃ e, s.committed.getLast? = some e ∧ CommittedEvent sha256 c s.window p e

theorem windowInvariant_empty : WindowInvariant sha256 c {} where
  holds := holds_empty
  idle _ := rfl
  pending := nofun
  empty _ := rfl
  last := nofun

theorem stage_key (hx : c.stage sha256 w payload positions binding = .ok x) :
    toLex (x.1.context.eventTime, x.1.context.eventSequence) = payload.key := by
  obtain ⟨-, -, context, rfl, hkey, -⟩ := ForwardContextSession.stage_eq_ok hx
  exact hkey

theorem WindowInvariant.same_prepare (h : WindowInvariant sha256 c s) :
    ({ s with
      window := s.window
      staged := s.staged.or (s.window.pending.map fun x => ⟨payload, binding, x.1⟩) } :
        WindowLog) = s := by
  have hstaged : s.staged.or (s.window.pending.map fun x => ⟨payload, binding, x.1⟩) =
      s.staged := by
    cases hw : s.window.pending with
    | none => rw [h.idle hw]; rfl
    | some x =>
      obtain ⟨e, he, -⟩ := h.pending x hw
      rw [he]
      rfl
  rw [hstaged]

theorem WindowInvariant.same_commit (h : WindowInvariant sha256 c s) :
    (if s.window.pending.isNone = true then
        { window := s.window, committed := s.committed ++ s.staged.toList, staged := none }
      else { s with window := s.window } : WindowLog) = s := by
  cases hw : s.window.pending with
  | none =>
    have hstaged := h.idle hw
    rw [if_pos Option.isNone_none, hstaged, Option.toList_none, append_nil, ← hstaged]
  | some x => rw [if_neg (by simp)]

theorem WindowInvariant.same_discard (h : WindowInvariant sha256 c s) :
    (if s.window.pending.isNone = true then { s with window := s.window, staged := none }
      else { s with window := s.window } : WindowLog) = s := by
  cases hw : s.window.pending with
  | none =>
    have hstaged := h.idle hw
    rw [if_pos Option.isNone_none, ← hstaged]
  | some x => rw [if_neg (by simp)]

theorem windowInvariant_step (h : WindowInvariant sha256 c s)
    (hstep : WindowStep sha256 c s call s') : WindowInvariant sha256 c s' := by
  cases hstep with
  | @prepare payload instanceId positions binding p w hprepare =>
    obtain ⟨-, hdelivery, hprepared⟩ := ForwardContextSession.prepare_cases hprepare
    cases hprepared with
    | pending hw hrepeats | committed hw hlast hrepeats => rw [h.same_prepare]; exact h
    | @staged x hw hfresh hx =>
      dsimp only
      rw [h.idle hw]
      refine ⟨⟨h.holds.valid, h.holds.events, h.holds.lastKey⟩, nofun, fun y hy => ?_, h.empty,
        fun p hp => ?_⟩
      · obtain rfl := Option.some.inj hy
        exact ⟨_, rfl, hdelivery, hfresh, ⟨positions, hx⟩, rfl⟩
      · obtain ⟨e, he, hcommitted⟩ := h.last p hp
        exact ⟨e, he, hcommitted.delivery, hcommitted.repeats, hcommitted.next, hcommitted.key,
          hcommitted.preparation⟩
  | @commit p fingerprint w hcommit =>
    rcases ForwardContextSession.commit_cases hcommit with ⟨last, -, -, rfl⟩ |
      ⟨x, hw, hequal, hnext, rfl⟩
    · rw [h.same_commit]
      exact h
    · obtain ⟨e, he, hstaged⟩ := h.pending x hw
      obtain ⟨positions, hx⟩ := hstaged.stage
      have hkey := stage_key hx
      have hshared := hequal.shared
      rw [if_pos Option.isNone_none, he, Option.toList_some]
      refine ⟨?_, fun _ => rfl, nofun, nofun, fun q hq => ?_⟩
      · have hpayloads : (s.committed ++ [e]).map WindowEvent.payload =
            s.payloads ++ [e.payload] := map_append
        unfold WindowLog.payloads
        dsimp only
        rw [hpayloads]
        exact h.holds.stage hx rfl rfl
      · obtain rfl := Option.some.inj hq
        refine ⟨e, getLast?_concat, hstaged.delivery, hshared.repeats.2 (stage_repeats hx),
          hnext, ?_, hstaged.preparation ▸ hequal⟩
        rw [hshared.eventTime, hshared.eventSequence]
        exact hkey
  | @discard p w hdiscard =>
    rcases ForwardContextSession.discard_cases hdiscard with rfl | ⟨x, hw, hequal, rfl⟩
    · rw [h.same_discard]
      exact h
    · rw [if_pos Option.isNone_none]
      refine ⟨⟨h.holds.valid, h.holds.events, h.holds.lastKey⟩, fun _ => rfl, nofun, h.empty,
        fun p hp => ?_⟩
      obtain ⟨e, he, hcommitted⟩ := h.last p hp
      exact ⟨e, he, hcommitted.delivery, hcommitted.repeats, hcommitted.next, hcommitted.key,
        hcommitted.preparation⟩

/-- **Every run of calls keeps the invariant.** -/
theorem windowInvariant_run (hrun : Run (WindowStep sha256 c) {} calls s) :
    WindowInvariant sha256 c s :=
  hrun.invariant (fun h hstep => windowInvariant_step h hstep) windowInvariant_empty

/-! ## Repeats -/

theorem WindowInvariant.prepare_staged (h : WindowInvariant sha256 c s) {e : WindowEvent}
    (he : s.staged = some e) :
    c.prepare sha256 s.window e.payload c.instanceId positions e.binding =
      .ok (e.preparation, s.window) := by
  cases hw : s.window.pending with
  | none =>
    rw [h.idle hw] at he
    cases he
  | some x =>
    obtain ⟨e', he', hstaged⟩ := h.pending x hw
    obtain rfl := Option.some.inj (he.symm.trans he')
    obtain ⟨positions', hx⟩ := hstaged.stage
    rw [hstaged.preparation]
    exact ForwardContextSession.prepare_pending rfl hstaged.delivery hw (stage_repeats hx)

/-- **The last committed event is answered again.** -/
theorem WindowInvariant.prepare_last (h : WindowInvariant sha256 c s) {e : WindowEvent}
    (hw : s.window.pending = none) (he : s.committed.getLast? = some e) :
    ∃ p, p.Equal e.preparation ∧
      c.prepare sha256 s.window e.payload c.instanceId positions e.binding =
        .ok (p, s.window) := by
  cases hlast : s.window.lastCommitted with
  | none =>
    rw [h.empty hlast] at he
    cases he
  | some p =>
    obtain ⟨e', he', hcommitted⟩ := h.last p hlast
    obtain rfl := Option.some.inj (he.symm.trans he')
    exact ⟨p, hcommitted.preparation,
      ForwardContextSession.prepare_committed rfl hcommitted.delivery hw hlast hcommitted.repeats⟩

theorem not_equal_last (hx : c.stage sha256 w payload positions binding = .ok x)
    (hfresh : ∀ last ∈ w.lastCommitted,
      ¬ ForwardContextSession.Repeats sha256 last payload binding) :
    ¬ w.lastCommitted.any (fun last => decide (x.1.Equal last)) = true := by
  rw [ForwardContextSession.any_equal_iff]
  rintro ⟨last, hlast, hequal⟩
  exact hfresh last hlast (hequal.shared.repeats.1 (stage_repeats hx))

theorem WindowInvariant.discard_prepared (h : WindowInvariant sha256 c s)
    (hw : s.window.pending = none)
    (hprepare : c.prepare sha256 s.window payload instanceId positions binding = .ok (p, w)) :
    c.discard sha256 w p = .ok s.window := by
  obtain ⟨-, -, hprepared⟩ := ForwardContextSession.prepare_cases hprepare
  cases hprepared with
  | pending hw' => exact absurd (hw.symm.trans hw') nofun
  | committed _ hlast _ =>
    obtain ⟨e, -, hcommitted⟩ := h.last p hlast
    unfold ForwardContextSession.discard
    rw [if_pos (ForwardContextSession.any_equal_iff.2 ⟨p, hlast, rfl⟩),
      ensure_of hcommitted.next]
    rfl
  | @staged x _ hfresh hx =>
    unfold ForwardContextSession.discard
    rw [if_neg (not_equal_last hx hfresh)]
    dsimp only
    rw [ensure_of (show x.1.Equal x.1 from rfl), ok_bind, ← hw]
    rfl

theorem WindowInvariant.prepared_key (hsha : Function.Injective sha256)
    (h : WindowInvariant sha256 c s)
    (hprepare : c.prepare sha256 s.window payload instanceId positions binding = .ok (p, w)) :
    toLex (p.context.eventTime, p.context.eventSequence) = payload.key := by
  obtain ⟨-, -, hprepared⟩ := ForwardContextSession.prepare_cases hprepare
  cases hprepared with
  | @pending x hw hrepeats =>
    obtain ⟨e, -, hstaged⟩ := h.pending x hw
    obtain ⟨positions', hx⟩ := hstaged.stage
    have hevent := canonicalEvent_of_fingerprint hsha ((stage_repeats hx).1.symm.trans hrepeats.1)
    rw [stage_key hx, VerifiedForwardMarketPayload.key, hevent]
    rfl
  | committed _ hlast hrepeats =>
    obtain ⟨e, -, hcommitted⟩ := h.last p hlast
    have hevent := canonicalEvent_of_fingerprint hsha
      (hcommitted.repeats.1.symm.trans hrepeats.1)
    rw [hcommitted.key, VerifiedForwardMarketPayload.key, hevent]
    rfl
  | staged _ _ hx => exact stage_key hx

end

end ChartingPlatform
