/-
  Rebuilding a forward window from the events it retains (`forward_context.py`).
-/
import ChartingPlatform.Strategy.WindowRuns

namespace ChartingPlatform

open Lib List Function

section
variable {sha256 : String → Digest} {c : ForwardContextSession}
  {w w' : ForwardStrategyContextWindow} {payload : VerifiedForwardMarketPayload}
  {ps qs : List VerifiedForwardMarketPayload} {s : WindowLog} {calls : List WindowCall}
  {instanceId : String} {positions : Option (List (String × SdkPositionSnapshot))}
  {binding : Option NautilusForwardDeliveryBinding} {p : ForwardStrategyContextPreparation}
  {x : ForwardStrategyContextPreparation × ContextEvents × EventKey}

/-! ## Replaying -/

/-- A window into which the payloads were committed one after another. -/
structure ReplayedWindow (sha256 : String → Digest) (c : ForwardContextSession)
    (w : ForwardStrategyContextWindow) (ps : List VerifiedForwardMarketPayload) : Prop where
  holds : Holds c w ps
  idle : w.pending = none
  last : ∀ p ∈ w.lastCommitted,
    ∃ q, ps.getLast? = some q ∧ p.payloadFingerprint = q.fingerprint sha256

theorem replayedWindow_empty : ReplayedWindow sha256 c {} [] := ⟨holds_empty, rfl, nofun⟩

theorem ReplayedWindow.fresh (hsha : Injective sha256) (h : ReplayedWindow sha256 c w ps)
    (hlast : ∀ q ∈ ps.getLast?, q.key < payload.key) :
    ∀ p ∈ w.lastCommitted, ¬ ForwardContextSession.Repeats sha256 p payload binding := by
  intro p hp hrepeats
  obtain ⟨q, hq, hfingerprint⟩ := h.last p hp
  exact fingerprint_ne hsha (hlast q hq) (hfingerprint.symm.trans hrepeats.1)

theorem key_lt_of_valid (hvalid : c.ValidEvents (marketEvents (ps ++ [payload]))) :
    ∀ q ∈ ps.getLast?, q.key < payload.key := by
  intro q hq
  rw [marketEvents_append] at hvalid
  have hlt := (pairwise_append.1 hvalid.increasing).2.2 q.marketEvent
    (mem_map_of_mem (mem_of_getLast? hq)) payload.marketEvent (mem_singleton_self _)
  rwa [q.key_marketEvent, payload.key_marketEvent] at hlt

theorem commit_staged (hx : c.stage sha256 w payload positions binding = .ok x)
    (hfresh : ∀ last ∈ w.lastCommitted,
      ¬ ForwardContextSession.Repeats sha256 last payload binding) :
    c.commit sha256 { w with pending := some x } x.1 =
      .ok (c.fingerprintForState sha256 (some x.2.2) x.2.1,
        { events := x.2.1, pending := none, lastCommitted := some x.1,
          lastEventKey := some x.2.2 }) := by
  have hinstance : x.1.instanceId = c.instanceId := by
    obtain ⟨-, -, context, rfl, -, -⟩ := ForwardContextSession.stage_eq_ok hx
    unfold ForwardContextSession.preparation
    dsimp only
  have hbase : x.1.baseWindowFingerprint = c.windowFingerprint sha256 w := by
    obtain ⟨-, -, context, rfl, -, -⟩ := ForwardContextSession.stage_eq_ok hx
    unfold ForwardContextSession.preparation
    dsimp only
  have hnext : c.fingerprintForState sha256 (some x.2.2) x.2.1 = x.1.nextWindowFingerprint := by
    obtain ⟨-, -, context, rfl, -, -⟩ := ForwardContextSession.stage_eq_ok hx
    unfold ForwardContextSession.preparation
    dsimp only
  unfold ForwardContextSession.commit
  rw [ensure_of hinstance, ok_bind, if_neg (not_equal_last hx hfresh)]
  dsimp only
  rw [ensure_of (show x.1.Equal x.1 from rfl), ok_bind]
  unfold ForwardContextSession.windowFingerprint at hbase ⊢
  dsimp only
  rw [ensure_of hbase, ok_bind, ensure_of hnext]
  rfl

theorem ReplayedWindow.prepare_commit (hsha : Injective sha256) (h : ReplayedWindow sha256 c w ps)
    (hvalid : c.ValidEvents (marketEvents (ps ++ [payload]))) :
    ∃ x fingerprint w', c.prepare sha256 w payload c.instanceId none none =
        .ok (x.1, { w with pending := some x }) ∧
      c.commit sha256 { w with pending := some x } x.1 = .ok (fingerprint, w') ∧
      ReplayedWindow sha256 c w' (ps ++ [payload]) := by
  have hfresh : ∀ p ∈ w.lastCommitted,
      ¬ ForwardContextSession.Repeats sha256 p payload none :=
    h.fresh hsha (key_lt_of_valid hvalid)
  have hnext : c.ValidEvents (marketEvents ps ++ [payload.marketEvent]) := by
    rw [marketEvents_append] at hvalid
    exact hvalid
  obtain ⟨context, hx⟩ := @ForwardContextSession.stage_of sha256 c w payload none (marketEvents ps)
    hnext h.holds.events h.holds.lastKey
  refine ⟨_, _, _, ?_, commit_staged hx hfresh, h.holds.stage hx rfl rfl, rfl, fun p hp => ?_⟩
  · rw [ForwardContextSession.prepare_fresh rfl rfl h.idle hfresh, hx]
    rfl
  · obtain rfl := Option.some.inj hp
    exact ⟨payload, getLast?_concat, (stage_repeats hx).1⟩

theorem ReplayedWindow.replayEvents (hsha : Injective sha256) {counts : String → ℕ}
    (h : ReplayedWindow sha256 c w qs) (hvalid : c.ValidEvents (marketEvents (qs ++ ps)))
    (hcounts : counts = fun i => (ofKey VerifiedForwardMarketPayload.dependencyId i qs).length)
    (hbound : ∀ i, (ofKey VerifiedForwardMarketPayload.dependencyId i (qs ++ ps)).length ≤
      c.bound i) :
    ∃ w', c.replayEvents sha256 c.instanceId ps counts w = .ok w' ∧
      ReplayedWindow sha256 c w' (qs ++ ps) := by
  induction ps generalizing qs w counts with
  | nil => exact ⟨w, rfl, (append_nil qs).symm ▸ h⟩
  | cons payload ps ih =>
    rw [append_cons] at hvalid hbound
    have hnext : c.ValidEvents (marketEvents (qs ++ [payload])) :=
      (marketEvents_append ▸ hvalid).sublist (sublist_append_left _ _)
    obtain ⟨x, fingerprint, w₁, hprepare, hcommit, hreplayed⟩ := h.prepare_commit hsha hnext
    obtain ⟨d, hd, -⟩ := hnext.declared payload.marketEvent
      (mem_map_of_mem (mem_append_right _ (mem_singleton_self _)))
    replace hd : c.manifest.dependency payload.dependencyId = some d := hd
    obtain ⟨hmem, hid⟩ := dependency_eq_some.1 hd
    have hsucc : update counts d.dependencyId (counts d.dependencyId + 1) =
        fun i => (ofKey VerifiedForwardMarketPayload.dependencyId i (qs ++ [payload])).length := by
      funext i
      rw [ofKey_append, length_append, ofKey_cons, ofKey_nil, hcounts, hid]
      by_cases hi : i = payload.dependencyId
      · rw [hi, update_self, if_pos rfl, length_singleton]
      · rw [update_of_ne hi, if_neg (Ne.symm hi), length_nil, Nat.add_zero]
    have hle : counts d.dependencyId + 1 ≤ d.lookbackPeriods + 1 := by
      have hone := congrFun hsucc d.dependencyId
      rw [update_self] at hone
      rw [hone, ← ForwardContextSession.bound_of_mem hmem]
      refine le_trans ?_ (hbound _)
      rw [ofKey_append (m := ps), length_append]
      exact Nat.le_add_right _ _
    obtain ⟨w', hw', hdone⟩ := ih hreplayed hvalid hsucc hbound
    refine ⟨w', ?_, append_cons qs payload ps ▸ hdone⟩
    unfold ForwardContextSession.replayEvents ForwardContextSession.append
    simp only [hd]
    rw [ensure_of hle, ok_bind, hprepare, ok_bind, hcommit]
    exact hw'

theorem Holds.getLast?_retained (h : Holds c w ps) :
    (retained VerifiedForwardMarketPayload.dependencyId c.bound ps).getLast? = ps.getLast? := by
  refine Lib.getLast?_retained fun q hq => ?_
  obtain ⟨d, hd, -⟩ := h.valid.declared q.marketEvent (mem_map_of_mem hq)
  obtain ⟨hmem, hid⟩ := dependency_eq_some.1 hd
  rw [VerifiedForwardMarketPayload.dependencyId, ← hid, ForwardContextSession.bound_of_mem hmem]
  exact Nat.succ_pos _

/-- **What a window retains can be replayed.** -/
theorem Holds.replay (hsha : Injective sha256) (h : Holds c w ps) :
    ∃ w', c.replayEvents sha256 c.instanceId
        (retained VerifiedForwardMarketPayload.dependencyId c.bound ps) (fun _ => 0) {} = .ok w' ∧
      ReplayedWindow sha256 c w' (retained VerifiedForwardMarketPayload.dependencyId c.bound ps) ∧
      w'.events = w.events ∧ w'.lastEventKey = w.lastEventKey := by
  have hevents : marketEvents (retained VerifiedForwardMarketPayload.dependencyId c.bound ps) =
      retained MarketEvent.dependencyId c.bound (marketEvents ps) := retained_map.symm
  have hvalid : c.ValidEvents
      (marketEvents (retained VerifiedForwardMarketPayload.dependencyId c.bound ps)) :=
    hevents ▸ h.valid.sublist retained_sublist
  have hempty : ReplayedWindow sha256 c {} [] := replayedWindow_empty
  have hcounts : (fun _ => 0) =
      fun i => (ofKey VerifiedForwardMarketPayload.dependencyId i []).length := rfl
  obtain ⟨w', hw', hreplayed⟩ := hempty.replayEvents hsha hvalid hcounts fun i => by
    rw [nil_append, ofKey_retained]
    exact length_windows_le
  rw [nil_append] at hreplayed
  refine ⟨w', hw', hreplayed, ?_, ?_⟩
  · rw [hreplayed.holds.events, hevents, windows_retained, h.events]
  · rw [hreplayed.holds.lastKey, h.lastKey, marketEvents, getLast?_map,
      h.getLast?_retained, marketEvents, getLast?_map]

/-! ## Recovery -/

structure LiveWindow (sha256 : String → Digest) (c : ForwardContextSession) (s : WindowLog) :
    Prop where
  events : ∀ d ∈ c.manifest.dataDependencies, s.window.events d.dependencyId =
    ((marketEvents s.payloads).filter fun e => decide (e.dependencyId = d.dependencyId)).rtake
      (d.lookbackPeriods + 1)
  discarded : ∀ {payload instanceId positions binding p w}, s.window.pending = none →
    c.prepare sha256 s.window payload instanceId positions binding = .ok (p, w) →
    c.discard sha256 w p = .ok s.window
  staged_again : ∀ {e positions}, s.staged = some e →
    c.prepare sha256 s.window e.payload c.instanceId positions e.binding =
      .ok (e.preparation, s.window)
  committed_again : ∀ {e positions}, s.window.pending = none → s.committed.getLast? = some e →
    ∃ p, p.Equal e.preparation ∧
      c.prepare sha256 s.window e.payload c.instanceId positions e.binding = .ok (p, s.window)
  no_lookahead : ∀ {payload instanceId positions binding p w},
    c.prepare sha256 s.window payload instanceId positions binding = .ok (p, w) →
    ∀ i ∈ p.context.marketEvents, ∀ e ∈ i.2, e.key ≤ payload.key

structure RecoveredWindow (sha256 : String → Digest) (c : ForwardContextSession) (s : WindowLog)
    (w : ForwardStrategyContextWindow) : Prop where
  fingerprint : c.windowFingerprint sha256 w = c.windowFingerprint sha256 s.window
  staged : ∀ e, s.staged = some e → ∃ positions,
    (c.prepare sha256 w e.payload c.instanceId positions e.binding).map Prod.fst =
      .ok e.preparation
  further : ∀ {payload}, s.window.pending = none →
    (∀ e ∈ s.committed.getLast?, payload.fingerprint sha256 ≠ e.payload.fingerprint sha256) →
    ∀ instanceId positions binding,
      (c.prepare sha256 w payload instanceId positions binding).map Prod.fst =
        (c.prepare sha256 s.window payload instanceId positions binding).map Prod.fst
  committed : ∀ {payload instanceId positions binding p w₁ w₂}, s.window.pending = none →
    (∀ e ∈ s.committed.getLast?, payload.fingerprint sha256 ≠ e.payload.fingerprint sha256) →
    c.prepare sha256 s.window payload instanceId positions binding = .ok (p, w₁) →
    c.prepare sha256 w payload instanceId positions binding = .ok (p, w₂) →
    c.commit sha256 w₂ p = c.commit sha256 w₁ p

theorem WindowInvariant.liveWindow (hsha : Injective sha256)
    (h : WindowInvariant sha256 c s) : LiveWindow sha256 c s where
  events d hd := by
    rw [h.holds.events, windows, ForwardContextSession.bound_of_mem hd]
    rfl
  discarded := h.discard_prepared
  staged_again := h.prepare_staged
  committed_again := h.prepare_last
  no_lookahead hprepare i hi e he :=
    h.prepared_key hsha hprepare ▸ StrategyContext.no_lookahead hi he

theorem prepare_congr (hevents : w'.events = w.events) (hkey : w'.lastEventKey = w.lastEventKey)
    (hw : w.pending = none) (hw' : w'.pending = none)
    (hfresh : ∀ p ∈ w.lastCommitted, ¬ ForwardContextSession.Repeats sha256 p payload binding)
    (hfresh' : ∀ p ∈ w'.lastCommitted, ¬ ForwardContextSession.Repeats sha256 p payload binding) :
    (c.prepare sha256 w' payload instanceId positions binding).map Prod.fst =
      (c.prepare sha256 w payload instanceId positions binding).map Prod.fst := by
  by_cases hid : instanceId = c.instanceId
  · cases hdelivery : c.checkDelivery sha256 payload binding with
    | ok u =>
      rw [ForwardContextSession.prepare_fresh hid hdelivery hw hfresh,
        ForwardContextSession.prepare_fresh hid hdelivery hw' hfresh', stage_congr hevents hkey]
      cases c.stage sha256 w payload positions binding <;> rfl
    | error e =>
      unfold ForwardContextSession.prepare
      rw [ensure_of hid, ok_bind, hdelivery]
      rfl
  · unfold ForwardContextSession.prepare
    rw [ensure_of_not hid]
    rfl

theorem windowFingerprint_congr (hevents : w'.events = w.events)
    (hkey : w'.lastEventKey = w.lastEventKey) :
    c.windowFingerprint sha256 w' = c.windowFingerprint sha256 w := by
  unfold ForwardContextSession.windowFingerprint
  rw [hevents, hkey]

theorem WindowInvariant.fresh_live (h : WindowInvariant sha256 c s)
    (hne : ∀ e ∈ s.committed.getLast?,
      payload.fingerprint sha256 ≠ e.payload.fingerprint sha256) :
    ∀ p ∈ s.window.lastCommitted, ¬ ForwardContextSession.Repeats sha256 p payload binding := by
  intro p hp hrepeats
  obtain ⟨e, he, hcommitted⟩ := h.last p hp
  exact hne e he (hrepeats.1.symm.trans hcommitted.repeats.1)

theorem WindowInvariant.fresh_rebuilt (h : WindowInvariant sha256 c s)
    (hw : ReplayedWindow sha256 c w
      (retained VerifiedForwardMarketPayload.dependencyId c.bound s.payloads))
    (hne : ∀ e ∈ s.committed.getLast?,
      payload.fingerprint sha256 ≠ e.payload.fingerprint sha256) :
    ∀ p ∈ w.lastCommitted, ¬ ForwardContextSession.Repeats sha256 p payload binding := by
  intro p hp hrepeats
  obtain ⟨q, hq, hfingerprint⟩ := hw.last p hp
  rw [h.holds.getLast?_retained, WindowLog.payloads, getLast?_map] at hq
  obtain ⟨e, he, rfl⟩ := Option.map_eq_some_iff.1 hq
  exact hne e he (hrepeats.1.symm.trans hfingerprint)

theorem WindowInvariant.recovered (hsha : Injective sha256)
    (h : WindowInvariant sha256 c s) (hw : ReplayedWindow sha256 c w
      (retained VerifiedForwardMarketPayload.dependencyId c.bound s.payloads))
    (hevents : w.events = s.window.events) (hkey : w.lastEventKey = s.window.lastEventKey) :
    RecoveredWindow sha256 c s w where
  fingerprint := windowFingerprint_congr hevents hkey
  staged e he := by
    cases hpending : s.window.pending with
    | none =>
      rw [h.idle hpending] at he
      cases he
    | some x =>
      obtain ⟨e', he', hstaged⟩ := h.pending x hpending
      obtain rfl := Option.some.inj (he.symm.trans he')
      obtain ⟨positions, hx⟩ := hstaged.stage
      have hafter := (ForwardContextSession.stage_eq_ok hx).2.1
      have hfresh : ∀ p ∈ w.lastCommitted,
          ¬ ForwardContextSession.Repeats sha256 p e.payload e.binding := by
        refine hw.fresh hsha fun q hq => hafter q.key ?_
        rw [h.holds.getLast?_retained] at hq
        rw [h.holds.lastKey, marketEvents, getLast?_map, Option.mem_def.1 hq]
        exact congrArg some q.key_marketEvent
      refine ⟨positions, ?_⟩
      rw [ForwardContextSession.prepare_fresh rfl hstaged.delivery hw.idle hfresh,
        stage_congr hevents hkey, hx, hstaged.preparation]
      rfl
  further hpending hne instanceId positions binding :=
    prepare_congr hevents hkey hpending hw.idle (h.fresh_live hne) (h.fresh_rebuilt hw hne)
  committed := by
    intro payload instanceId positions binding p w₁ w₂ hpending hne h₁ h₂
    have hlive : ∀ p ∈ s.window.lastCommitted,
        ¬ ForwardContextSession.Repeats sha256 p payload binding := h.fresh_live hne
    have hrebuilt : ∀ p ∈ w.lastCommitted,
        ¬ ForwardContextSession.Repeats sha256 p payload binding := h.fresh_rebuilt hw hne
    obtain ⟨hid, hdelivery, hprepared⟩ := ForwardContextSession.prepare_cases h₁
    rw [ForwardContextSession.prepare_fresh hid hdelivery hw.idle hrebuilt,
      stage_congr hevents hkey] at h₂
    cases hprepared with
    | pending hw' => exact absurd (hpending.symm.trans hw') nofun
    | committed _ hlast hrepeats => exact absurd hrepeats (hlive _ hlast)
    | @staged x _ _ hx =>
      rw [hx] at h₂
      obtain ⟨-, rfl⟩ := Prod.mk.inj (Except.ok.inj h₂)
      rw [commit_staged hx hlive,
        commit_staged ((stage_congr hevents hkey).trans hx) hrebuilt]

theorem make_eq_ok {manifest : StrategySdkManifest} {parameters : List (PyKey × PyValue)}
    {seed : ℤ} {study : Option StudyArtifacts}
    (h : ForwardContextSession.make instanceId manifest parameters seed study = .ok c) :
    c.instanceId = instanceId ∧ c.manifest = manifest := by
  unfold ForwardContextSession.make at h
  split at h
  · split at h
    · cases h
    · split at h
      · cases h
      · cases Except.ok.inj h
        exact ⟨rfl, rfl⟩
  · cases h

/-- **A recovered window is the live one.**  The retained events have a history exactly when
    their ids are distinct. -/
theorem forward_window_recovered (hsha : Injective sha256)
    {manifest : StrategySdkManifest} {parameters : List (PyKey × PyValue)} {seed : ℤ}
    {study : Option StudyArtifacts}
    (hmake : ForwardContextSession.make instanceId manifest parameters seed study = .ok c)
    (hrun : Run (WindowStep sha256 c) {} calls s) :
    LiveWindow sha256 c s ∧
      ((∃ history : ForwardStrategyContextHistory, history.instanceId = instanceId ∧
          history.manifestFingerprint = manifest.fingerprint ∧
          history.events =
            retained VerifiedForwardMarketPayload.dependencyId c.bound s.payloads) ↔
        ((retained VerifiedForwardMarketPayload.dependencyId c.bound s.payloads).map
          VerifiedForwardMarketPayload.eventId).Nodup) ∧
      ∀ history : ForwardStrategyContextHistory, history.instanceId = instanceId →
        history.manifestFingerprint = manifest.fingerprint →
        history.events = retained VerifiedForwardMarketPayload.dependencyId c.bound s.payloads →
        ∃ w, replayVerifiedHistory sha256 history manifest parameters seed
            history.preEventCheckpointFingerprint history.warmupReceiptFingerprint study =
              .ok (c, w) ∧ RecoveredWindow sha256 c s w := by
  have h := windowInvariant_run hrun
  obtain ⟨hid, hmanifest⟩ := make_eq_ok hmake
  refine ⟨h.liveWindow hsha, ⟨?_, fun hids => ?_⟩, fun history hinstance hfp hevents => ?_⟩
  · rintro ⟨history, -, -, hevents⟩
    exact hevents ▸ history.unique_ids
  · have hincreasing : (retained VerifiedForwardMarketPayload.dependencyId c.bound
        s.payloads).IsChain fun a b => a.key < b.key := by
      have hpairwise : s.payloads.Pairwise fun a b => a.key < b.key := by
        refine (pairwise_map.1 h.holds.valid.increasing).imp fun {a b} hlt => ?_
        rwa [a.key_marketEvent, b.key_marketEvent] at hlt
      exact (hpairwise.sublist retained_sublist).isChain
    refine ⟨{
      instanceId := instanceId
      manifestFingerprint := manifest.fingerprint
      preEventCheckpointFingerprint := manifest.fingerprint
      warmupReceiptFingerprint := manifest.fingerprint
      events := retained VerifiedForwardMarketPayload.dependencyId c.bound s.payloads
      instanceId_notBlank := hid ▸ c.instanceId_notBlank
      digests_sorted := .nil
      digests_tape := fun _ => rfl
      eventIds_notBlank := fun id hmem => absurd hmem not_mem_nil
      unique_ids := hids
      increasing := hincreasing
      eventIds_mem := fun id hmem => absurd hmem not_mem_nil }, rfl, rfl, rfl⟩
  · obtain ⟨w, hw, hreplayed, hsame, hkey⟩ := h.holds.replay hsha
    refine ⟨w, ?_, h.recovered hsha hreplayed hsame hkey⟩
    unfold replayVerifiedHistory
    rw [ensure_of hfp, ok_bind, ensure_of rfl, ok_bind, ensure_of rfl, ok_bind, hinstance, hmake,
      ok_bind, hevents, ← hid, hw]
    rfl

/-- **Every valid list of payloads can be committed.** -/
theorem run_commits (hsha : Injective sha256)
    (hvalid : c.ValidEvents (marketEvents ps)) :
    ∃ calls s, Run (WindowStep sha256 c) {} calls s ∧ s.payloads = ps ∧ s.staged = none ∧
      ReplayedWindow sha256 c s.window ps := by
  induction ps using List.reverseRecOn with
  | nil => exact ⟨[], {}, .nil, rfl, rfl, replayedWindow_empty⟩
  | append_singleton ps payload ih =>
    obtain ⟨calls, s, hrun, rfl, hstaged, hreplayed⟩ := ih
      ((marketEvents_append ▸ hvalid).sublist (sublist_append_left _ _))
    obtain ⟨x, fingerprint, w', hprepare, hcommit, hdone⟩ := hreplayed.prepare_commit hsha hvalid
    refine ⟨_, _, (hrun.snoc (.prepare hprepare)).snoc (.commit hcommit), ?_, ?_, ?_⟩
    · rw [if_pos (by rw [hdone.idle]; rfl), hstaged]
      exact map_append
    · rw [if_pos (by rw [hdone.idle]; rfl)]
    · rw [if_pos (by rw [hdone.idle]; rfl)]
      exact hdone

end

/-! ## A window with a repeated id -/

def sampleSession : ForwardContextSession where
  instanceId := "forward-1"
  manifest := sampleManifest 1
  parameters := []
  randomSeed := 0
  studyArtifacts := none
  instanceId_notBlank := Eq.refl true
  parameters_accepted := ⟨_, rfl⟩
  parameters_frozen := .mapping nofun
  pinned := rfl

theorem make_sampleSession :
    ForwardContextSession.make "forward-1" (sampleManifest 1) [] 0 none = .ok sampleSession := rfl

theorem validEvents_samplePayloads {a b : String} {m n : ℕ} (ha : notBlank a = true)
    (hb : notBlank b = true) (hlt : m < n) :
    sampleSession.ValidEvents (marketEvents [samplePayload a m ha, samplePayload b n hb]) where
  declared e he := by
    obtain ⟨q, hq, rfl⟩ := mem_map.1 he
    rcases mem_pair.1 hq with rfl | rfl
    · exact declares_sampleMarketEvent ha
    · exact declares_sampleMarketEvent hb
  increasing := pairwise_pair.2 (Prod.Lex.toLex_lt_toLex.2 (.inr ⟨rfl, hlt⟩))

theorem forward_window_recovered_sample : ∃ calls s w,
    Run (WindowStep plainDigest sampleSession) {} calls s ∧ s.payloads.length = 2 ∧
      RecoveredWindow plainDigest sampleSession s w := by
  obtain ⟨calls, s, hrun, hpayloads, -, -⟩ := run_commits plainDigest_injective
    (validEvents_samplePayloads (a := "a") (b := "b") (by decide) (by decide) zero_lt_one)
  obtain ⟨-, hhistory, hrecovered⟩ :=
    forward_window_recovered plainDigest_injective make_sampleSession hrun
  have hids : ((retained VerifiedForwardMarketPayload.dependencyId sampleSession.bound
      s.payloads).map VerifiedForwardMarketPayload.eventId).Nodup := by
    rw [hpayloads]
    decide
  obtain ⟨history, hinstance, hfp, hevents⟩ := hhistory.2 hids
  obtain ⟨w, -, hw⟩ := hrecovered history hinstance hfp hevents
  exact ⟨calls, s, w, hrun, hpayloads ▸ rfl, hw⟩

/-- The window does not check ids: what it retains need not have a history. -/
theorem history_needs_distinct_ids : ∃ calls s,
    Run (WindowStep plainDigest sampleSession) {} calls s ∧
      ∀ history : ForwardStrategyContextHistory, history.events ≠
        retained VerifiedForwardMarketPayload.dependencyId sampleSession.bound s.payloads := by
  obtain ⟨calls, s, hrun, hpayloads, -, -⟩ := run_commits plainDigest_injective
    (validEvents_samplePayloads (a := "a") (b := "a") (by decide) (by decide) zero_lt_one)
  refine ⟨calls, s, hrun, fun history hevents => ?_⟩
  have hids := history.unique_ids
  rw [hevents, hpayloads] at hids
  exact absurd hids (by decide)

end ChartingPlatform
