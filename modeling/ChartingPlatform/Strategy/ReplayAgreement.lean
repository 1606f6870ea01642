/-
  When the two replays of an event tape agree (`replay.py`).
-/
import ChartingPlatform.Strategy.History
import ChartingPlatform.Strategy.Replay

namespace ChartingPlatform

open Lib List

namespace ReplayArguments

/-! ## What is needed -/

/-- What building all contexts of a tape at once needs. -/
structure Replayable (a : ReplayArguments) (tape : FrozenEventTape) : Prop where
  nonempty : tape.events ≠ []
  known : ∀ i ∈ a.positions, ∃ b ∈ timeBatches tape.events, (b.batchSequence : ℤ) = i.1
  names : ∀ i ∈ a.positions, ∀ j ∈ i.2, notBlank j.1 = true
  dependencies : (∀ e ∈ tape.events, e.dependencyId ∈ a.manifest.dependencyIds) ∧
    ∀ id ∈ a.manifest.dependencyIds, ∃ e ∈ tape.events, e.dependencyId = id
  instruments : ∀ b ∈ timeBatches tape.events, ∀ j ∈ a.positionsAt b.batchSequence,
    j.1 ∈ a.manifest.dataDependencies.map fun d => d.requirement.instrumentId
  keys : ∀ b ∈ timeBatches tape.events, ∀ j ∈ a.positionsAt b.batchSequence,
    j.1 = j.2.instrumentId
  parameters : ∃ frozen, freezeMapping a.parameters = .ok frozen
  visible : ∀ b ∈ timeBatches tape.events, ∀ d ∈ a.manifest.dataDependencies,
    ∀ e ∈ windows MarketEvent.dependencyId a.manifest.bound
      (tape.events.filter fun e => decide (e.eventTime ≤ b.eventTime)) d.dependencyId,
    d.Declares e

def Declared (a : ReplayArguments) (tape : FrozenEventTape) : Prop :=
  ∀ e ∈ tape.events, ∃ d, a.manifest.dependency e.dependencyId = some d ∧ d.Declares e

section
variable {a : ReplayArguments} {tape : FrozenEventTape} {b : EventTapeBatch} {t : Instant}
  {cs : List StrategyContext} {c : StrategyContext} {limit : ℕ} {es : List MarketEvent}
  {e : MarketEvent} {s : ReplayState} {study : Option StudyArtifacts}

theorem mem_timeBatches (hb : b ∈ timeBatches tape.events) :
    b.events = tape.events.filter (fun e => decide (e.eventTime = b.eventTime)) ∧
      b.events ≠ [] := by
  obtain ⟨g, hg, rfl⟩ := mem_map.1 hb
  exact mem_groups tape.time_sorted hg

theorem key_le_of_tapeKey_le {x y : MarketEvent} (h : x.tapeKey ≤ y.tapeKey) : x.key ≤ y.key := by
  rcases Prod.Lex.toLex_le_toLex.1 h with hlt | ⟨heq, hle⟩
  · exact Prod.Lex.toLex_le_toLex.2 (.inl hlt)
  · refine Prod.Lex.toLex_le_toLex.2 (.inr ⟨heq, ?_⟩)
    rcases Prod.Lex.toLex_le_toLex.1 hle with hlt | ⟨heq, -⟩
    · exact hlt.le
    · exact heq.le

theorem le_foldr_max {ns : List ℕ} {n : ℕ} (h : n ∈ ns) : n ≤ ns.foldr max 0 := by
  induction ns with
  | nil => exact absurd h not_mem_nil
  | cons m ns ih =>
    rcases mem_cons.1 h with rfl | h
    · exact le_max_left _ _
    · exact (ih h).trans (le_max_right _ _)

theorem key_le_of_batch (hb : b ∈ timeBatches tape.events) (he : e ∈ tape.events)
    (hle : e.eventTime ≤ b.eventTime) :
    e.key ≤ toLex (b.eventTime, (b.events.map MarketEvent.sequence).foldr max 0) := by
  rcases hle.lt_or_eq with hlt | heq
  · exact Prod.Lex.toLex_le_toLex.2 (.inl hlt)
  · refine Prod.Lex.toLex_le_toLex.2 (.inr ⟨heq, le_foldr_max (mem_map_of_mem ?_)⟩)
    rw [(mem_timeBatches hb).1]
    exact mem_filter.2 ⟨he, decide_eq_true heq⟩

/-- **The context of a batch of a replayable tape.** -/
theorem Replayable.batchContext (h : a.Replayable tape)
    (hstudy : a.manifest.selectedStudyArtifact = none) (hb : b ∈ timeBatches tape.events) :
    ∃ c, a.batchContext tape.events b = .ok c := by
  obtain ⟨frozen, hfrozen⟩ := h.parameters
  have hpinned : pinnedStudyArtifacts a.manifest none = .ok none := by
    unfold pinnedStudyArtifacts
    rw [hstudy]
    rfl
  refine buildStrategyContext_of hpinned hfrozen (h.instruments b hb) (h.keys b hb) fun d hd => ?_
  refine ⟨?_, h.visible b hb d hd, fun e he => (mem_of_mem_windows he).2, fun e he => ?_, ?_⟩
  · exact a.manifest.bound_of_mem hd ▸ length_windows_le
  · obtain ⟨hmem, hle⟩ := mem_filter.1 (mem_of_mem_windows he).1
    exact key_le_of_batch hb hmem (of_decide_eq_true hle)
  · exact ((tape.sorted.imp fun hle => key_le_of_tapeKey_le hle).sublist
      filter_sublist).sublist windows_sublist

/-! ## All contexts at once -/

theorem checkPositions_eq_ok {message : String} {known : ℤ → Prop} [DecidablePred known]
    {i : ℤ × List (String × SdkPositionSnapshot)} :
    checkPositions message known i = .ok () ↔ known i.1 ∧ ∀ j ∈ i.2, notBlank j.1 = true := by
  unfold checkPositions
  simp only [bind_eq_ok, ensure_eq_ok]
  constructor
  · rintro ⟨_, hknown, hnames⟩
    exact ⟨hknown, hnames⟩
  · rintro ⟨hknown, hnames⟩
    exact ⟨(), hknown, hnames⟩

theorem buildEventTapeContexts_eq_ok : a.buildEventTapeContexts tape = .ok cs ↔
    tape.events ≠ [] ∧
    ((∀ i ∈ a.positions, (∃ b ∈ timeBatches tape.events, (b.batchSequence : ℤ) = i.1) ∧
      ∀ j ∈ i.2, notBlank j.1 = true) ∧
    ((∀ e ∈ tape.events, e.dependencyId ∈ a.manifest.dependencyIds) ∧
      ∀ id ∈ a.manifest.dependencyIds, ∃ e ∈ tape.events, e.dependencyId = id) ∧
    collect ((timeBatches tape.events).map (a.batchContext tape.events)) = .ok cs) := by
  have hloop : a.eagerContexts (fun _ => []) (timeBatches tape.events) =
      collect ((timeBatches tape.events).map (a.batchContext tape.events)) := by
    have hsorted := tape.time_sorted
    cases hes : tape.events with
    | nil => rfl
    | cons e es =>
      rw [hes] at hsorted
      exact eagerContexts_openBatches (cut_singleton hsorted)
  unfold buildEventTapeContexts
  rw [tape.batches_eq]
  constructor
  · intro h
    obtain ⟨_, hne, h⟩ := bind_eq_ok.1 h
    rw [ok_bind] at h
    obtain ⟨us, hus, h⟩ := bind_eq_ok.1 h
    obtain ⟨_, hdeps, h⟩ := bind_eq_ok.1 h
    rw [hloop] at h
    exact ⟨ensure_eq_ok.1 hne, fun i hi => checkPositions_eq_ok.1
      (collect_unit_eq_ok.1 ⟨us, hus⟩ i hi), ensure_eq_ok.1 hdeps, h⟩
  · rintro ⟨hne, hpositions, hdeps, h⟩
    have hchecks : ∀ i ∈ a.positions, checkPositions
        "positions_by_batch contains an unknown batch sequence"
        (fun k => ∃ b ∈ timeBatches tape.events, (b.batchSequence : ℤ) = k) i = .ok () :=
      fun i hi => checkPositions_eq_ok.2 (hpositions i hi)
    obtain ⟨us, hus⟩ := collect_unit_eq_ok.2 hchecks
    rw [ensure_of hne, ok_bind, ok_bind, hus, ok_bind, ensure_of hdeps, ok_bind, hloop, h]

theorem timeBatches_ne_nil (h : es ≠ []) : timeBatches es ≠ [] := by
  obtain ⟨e, es, rfl⟩ := exists_cons_of_ne_nil h
  obtain ⟨b, hb, -⟩ := exists_prefix_openBatches 0 e.eventTime [e] es
  exact ne_nil_of_mem hb

theorem exists_buildEventTapeContexts (hstudy : a.manifest.selectedStudyArtifact = none) :
    (∃ cs, a.buildEventTapeContexts tape = .ok cs) ↔ a.Replayable tape := by
  constructor
  · rintro ⟨cs, h⟩
    obtain ⟨hne, hpositions, hdeps, hcs⟩ := buildEventTapeContexts_eq_ok.1 h
    have hcontext : ∀ b ∈ timeBatches tape.events, ∃ c, a.batchContext tape.events b = .ok c := by
      intro b hb
      obtain ⟨c, -, hc⟩ := mem_map.1 (collect_eq_ok.1 hcs ▸ mem_map_of_mem hb)
      exact ⟨c, hc.symm⟩
    refine ⟨hne, fun i hi => (hpositions i hi).1, fun i hi => (hpositions i hi).2, hdeps,
      fun b hb => ?_, fun b hb => ?_, ?_, fun b hb d hd => ?_⟩
    · obtain ⟨c, hc⟩ := hcontext b hb
      exact (buildStrategyContext_checked hc).2.1
    · obtain ⟨c, hc⟩ := hcontext b hb
      exact (buildStrategyContext_checked hc).2.2
    · obtain ⟨b, hb⟩ := exists_mem_of_ne_nil _ (timeBatches_ne_nil hne)
      obtain ⟨c, hc⟩ := hcontext b hb
      obtain ⟨-, -, -, -, -, hparameters⟩ := buildStrategyContext_eq_ok hc
      exact ⟨_, hparameters⟩
    · obtain ⟨c, hc⟩ := hcontext b hb
      exact (buildStrategyContext_checked hc).1 _ (mem_map_of_mem hd) d (dependency_of_mem hd)
  · intro h
    obtain ⟨cs, hcs⟩ := exists_map_ok fun b hb => h.batchContext hstudy hb
    exact ⟨cs, buildEventTapeContexts_eq_ok.2 ⟨h.nonempty, fun i hi => ⟨h.known i hi, h.names i hi⟩,
      h.dependencies, collect_eq_ok.2 hcs⟩⟩

/-! ## One batch at a time -/

theorem replayEvent_declared {x : Option StrategyContext × ReplayState}
    (h : a.replayEvent study limit s e = .ok x) :
    ∃ d, a.manifest.dependency e.dependencyId = some d ∧ d.Declares e := by
  unfold replayEvent at h
  cases hd : a.manifest.dependency e.dependencyId with
  | none =>
    simp only [hd] at h
    cases h
  | some d =>
    simp only [hd] at h
    obtain ⟨_, hcheck, -⟩ := bind_eq_ok.1 h
    obtain ⟨_, hinstrument, hcheck⟩ := bind_eq_ok.1 hcheck
    obtain ⟨_, hfields, hcheck⟩ := bind_eq_ok.1 hcheck
    obtain ⟨_, hinterval, -⟩ := bind_eq_ok.1 hcheck
    obtain ⟨hextra, hmissing⟩ := ensure_eq_ok.1 hfields
    exact ⟨d, rfl, ensure_eq_ok.1 hinstrument, ensure_eq_ok.1 hinterval, hextra, hmissing⟩

theorem iterContexts_declared (h : (a.iterContexts study limit s es).2 = .ok ()) :
    ∀ e ∈ es, ∃ d, a.manifest.dependency e.dependencyId = some d ∧ d.Declares e := by
  induction es generalizing s with
  | nil => exact fun e he => absurd he not_mem_nil
  | cons e es ih =>
    rw [iterContexts] at h
    cases hread : a.replayEvent study limit s e with
    | error error =>
      rw [hread] at h
      cases h
    | ok x =>
      rw [hread] at h
      intro e' he'
      rcases mem_cons.1 he' with rfl | he'
      · exact replayEvent_declared hread
      · exact ih h e' he'

theorem Declared.ordered (h : a.Declared tape) : Ordered a tape.events :=
  ⟨h, tape.sorted, tape.advance⟩

theorem iterContexts_of (h : a.Declared tape) (hne : tape.events ≠ [])
    (hmax : ∀ b ∈ timeBatches tape.events, b.events.length ≤ limit) :
    a.iterContexts none limit {} tape.events =
      andThen (yieldAll ((timeBatches tape.events).map (a.batchContext tape.events)))
        (endState a tape.events (timeBatches tape.events).length) := by
  have hordered := h.ordered
  have hsorted := tape.time_sorted
  obtain ⟨e, es, hes⟩ := exists_cons_of_ne_nil hne
  rw [hes] at hordered hsorted hmax ⊢
  have hbatches : timeBatches (e :: es) = openBatches 0 e.eventTime [e] es := rfl
  obtain ⟨d, hd, hdeclares⟩ := hordered.declared e mem_cons_self
  have hone : [e].length ≤ limit := by
    obtain ⟨b, hb, hprefix⟩ := exists_prefix_openBatches 0 e.eventTime [e] es
    exact hprefix.length_le.trans (hmax b hb)
  have hread : a.replayEvent none limit {} e = .ok (none, (ReplayState.remember {} e).join e) := by
    have hcheck : checkReplayEvent d {} e = .ok () :=
      checkReplayEvent_of (nil_append (e :: es) ▸ hordered) hdeclares rfl rfl
    have hclose : a.closeBatch none (ReplayState.remember {} e) e =
        .ok (none, ReplayState.remember {} e) := rfl
    unfold replayEvent
    simp only [hd]
    rw [hcheck, ok_bind, hclose, ok_bind]
    dsimp only
    rw [ensure_of (show ((ReplayState.remember {} e).join e).currentEvents.length ≤ limit from hone)]
    rfl
  have hreads : Reads a ((ReplayState.remember {} e).join e) 0 e.eventTime [] [e] := by
    refine ⟨windows_nil.symm, rfl, rfl, cons_ne_nil _ _, rfl, rfl, rfl, ?_, rfl⟩
    exact @previous_append e []
  rw [iterContexts, hread]
  dsimp only
  rw [iterContexts_openBatches hreads (cut_singleton hsorted) hordered hmax, hbatches,
    Nat.zero_add]
  rfl

theorem map_batchSequence :
    (timeBatches es).map EventTapeBatch.batchSequence = List.range (timeBatches es).length := by
  rw [timeBatches, map_map, length_map]
  exact map_index_groups

theorem exists_batchSequence {k : ℤ} : (∃ b ∈ timeBatches es, (b.batchSequence : ℤ) = k) ↔
    ∃ n < (timeBatches es).length, (n : ℤ) = k := by
  have hmem : ∀ n, n < (timeBatches es).length ↔ ∃ b ∈ timeBatches es, b.batchSequence = n := by
    intro n
    rw [← mem_range, ← map_batchSequence, mem_map]
  constructor
  · rintro ⟨b, hb, rfl⟩
    exact ⟨b.batchSequence, (hmem _).2 ⟨b, hb, rfl⟩, rfl⟩
  · rintro ⟨n, hn, rfl⟩
    obtain ⟨b, hb, rfl⟩ := (hmem n).1 hn
    exact ⟨b, hb, rfl⟩

theorem endState_eq_ok {count : ℕ} : endState a es count = .ok () ↔
    ((∀ e ∈ es, e.dependencyId ∈ a.manifest.dependencyIds) ∧
      ∀ id ∈ a.manifest.dependencyIds, ∃ e ∈ es, e.dependencyId = id) ∧
    ∀ i ∈ a.positions, ∃ n < count, (n : ℤ) = i.1 := by
  unfold endState checkReplay
  simp only [bind_eq_ok, ensure_eq_ok, mem_map, exists_const, true_and,
    forall_exists_index, and_imp, forall_apply_eq_imp_iff₂]

theorem andThen_eq_ok {r : List StrategyContext × Except PyError Unit}
    {last : Except PyError Unit} : andThen r last = (cs, .ok ()) ↔ r = (cs, .ok ()) ∧ last = .ok () := by
  obtain ⟨cs', outcome⟩ := r
  cases outcome with
  | error error | ok u => simp [andThen]

theorem yieldAll_eq_ok {xs : List (Except PyError StrategyContext)} :
    yieldAll xs = (cs, .ok ()) ↔ collect xs = .ok cs := by
  refine ⟨fun h => ?_, yieldAll_of_collect⟩
  cases hxs : collect xs with
  | error error =>
    have herror := yieldAll_of_collect_error hxs
    rw [h] at herror
    cases herror
  | ok cs' =>
    rw [yieldAll_of_collect hxs] at h
    rw [(Prod.mk.inj h).1]

theorem iterEventTapeContexts_eq_ok
    (hmax : ∀ b ∈ timeBatches tape.events, b.events.length ≤ limit) :
    a.iterEventTapeContexts tape.events none limit = (cs, .ok ()) ↔
      a.Declared tape ∧ a.buildEventTapeContexts tape = .ok cs := by
  rw [buildEventTapeContexts_eq_ok]
  constructor
  · intro h
    unfold iterEventTapeContexts at h
    dsimp only at h
    split at h
    · exact absurd (Prod.mk.inj h).2 nofun
    · rename_i hchecks
      obtain ⟨_, -, hchecks⟩ := bind_eq_ok.1 hchecks
      obtain ⟨us, hus, -⟩ := bind_eq_ok.1 hchecks
      have hdeclared : a.Declared tape := iterContexts_declared (congrArg Prod.snd h)
      have hne : tape.events ≠ [] := by
        intro hnil
        rw [hnil] at h
        cases h
      rw [iterContexts_of hdeclared hne hmax, andThen_eq_ok, yieldAll_eq_ok, endState_eq_ok] at h
      refine ⟨hdeclared, hne, fun i hi => ⟨exists_batchSequence.2 (h.2.2 i hi), ?_⟩, h.2.1, h.1⟩
      exact (checkPositions_eq_ok.1 (collect_unit_eq_ok.1 ⟨us, hus⟩ i hi)).2
  · rintro ⟨hdeclared, hne, hpositions, hdeps, hcs⟩
    have hlimit : 1 ≤ limit := by
      obtain ⟨b, hb⟩ := exists_mem_of_ne_nil _ (timeBatches_ne_nil hne)
      exact Nat.succ_le_of_lt ((length_pos_iff.2 (mem_timeBatches hb).2).trans_le (hmax b hb))
    have hchecks : ∀ i ∈ a.positions, checkPositions
        "positions_by_batch contains an invalid batch sequence" (fun k => 0 ≤ k) i = .ok () := by
      intro i hi
      obtain ⟨⟨b, -, hb⟩, hnames⟩ := hpositions i hi
      exact checkPositions_eq_ok.2 ⟨hb ▸ Int.natCast_nonneg _, hnames⟩
    obtain ⟨us, hus⟩ := collect_unit_eq_ok.2 hchecks
    unfold iterEventTapeContexts
    dsimp only
    rw [ensure_of hlimit, ok_bind, hus]
    dsimp only [pure_eq_ok, ok_bind]
    rw [iterContexts_of hdeclared hne hmax, andThen_eq_ok, yieldAll_eq_ok, endState_eq_ok]
    exact ⟨hcs, hdeps, fun i hi => exists_batchSequence.1 (hpositions i hi).1⟩

/-! ## What the contexts show -/

theorem batchContext_eq_ok (h : a.batchContext tape.events b = .ok c) :
    c.eventTime = b.eventTime ∧ c.marketEvents = a.manifest.dataDependencies.map fun d =>
      (d.dependencyId, ((tape.events.filter fun e => decide (e.eventTime ≤ b.eventTime)).filter
        fun e => decide (e.dependencyId = d.dependencyId)).rtake (d.lookbackPeriods + 1)) := by
  obtain ⟨htime, -, -, hevents, -, -⟩ := buildStrategyContext_eq_ok h
  refine ⟨htime, hevents.trans (map_congr_left fun d hd => ?_)⟩
  rw [windows, a.manifest.bound_of_mem hd]
  rfl

theorem collect_filter {α β : Type} {f : α → Except PyError β} {p : α → Bool} {q : β → Bool}
    {as : List α} {bs : List β} (h : collect (as.map f) = .ok bs)
    (hpq : ∀ x y, f x = .ok y → q y = p x) :
    collect ((as.filter p).map f) = .ok (bs.filter q) := by
  rw [collect_eq_ok] at h ⊢
  induction as generalizing bs with
  | nil =>
    rw [map_nil, eq_comm, map_eq_nil_iff] at h
    rw [h]
    rfl
  | cons x as ih =>
    cases bs with
    | nil => cases h
    | cons y bs =>
      rw [map_cons, map_cons, List.cons.injEq] at h
      have hq := hpq x y h.1
      cases hp : p x with
      | true =>
        rw [filter_cons_of_pos hp, filter_cons_of_pos (hq.trans hp), map_cons,
          map_cons, h.1, ih h.2]
      | false =>
        rw [filter_cons_of_neg (by rw [hp]; nofun),
          filter_cons_of_neg (by rw [hq, hp]; nofun), ih h.2]

theorem contexts_until (h : a.buildEventTapeContexts tape = .ok cs) (t : Instant) :
    collect ((timeBatches (tape.events.filter fun e => decide (e.eventTime ≤ t))).map
      (a.batchContext (tape.events.filter fun e => decide (e.eventTime ≤ t)))) =
        .ok (cs.filter fun c => decide (c.eventTime ≤ t)) := by
  obtain ⟨-, -, -, hcs⟩ := buildEventTapeContexts_eq_ok.1 h
  have hbatches : timeBatches (tape.events.filter fun e => decide (e.eventTime ≤ t)) =
      (timeBatches tape.events).filter fun b => decide (b.eventTime ≤ t) := by
    rw [timeBatches, groups_filter tape.time_sorted, timeBatches, filter_map]
    rfl
  rw [hbatches, ← collect_filter hcs fun b c hc => by rw [(batchContext_eq_ok hc).1]]
  congr 1
  refine map_congr_left fun b hb => ?_
  have hle : b.eventTime ≤ t := of_decide_eq_true (mem_filter.1 hb).2
  have hfilter : ((tape.events.filter fun e => decide (e.eventTime ≤ t)).filter
      fun e => decide (e.eventTime ≤ b.eventTime)) =
        tape.events.filter fun e => decide (e.eventTime ≤ b.eventTime) := by
    rw [filter_filter]
    refine filter_congr fun e _ => ?_
    by_cases he : e.eventTime ≤ b.eventTime
    · simp [he, he.trans hle]
    · simp [he]
  rw [batchContext, batchContext, hfilter]

/-! ## Agreement -/

def SameContexts : Except PyError (List StrategyContext) →
    List StrategyContext × Except PyError Unit → Prop
  | .ok cs, one => one = (cs, .ok ())
  | .error _, one => ∃ error, one.2 = .error error

/-- **The two replays of a tape agree** exactly when everything else that is needed implies that
    every event is declared; what is built at once shows the last events and no later one. -/
theorem streaming_replay (hstudy : a.manifest.selectedStudyArtifact = none)
    (hmax : ∀ b ∈ timeBatches tape.events, b.events.length ≤ limit) :
    (SameContexts (a.buildEventTapeContexts tape)
        (a.iterEventTapeContexts tape.events none limit) ↔
      (a.Replayable tape → a.Declared tape)) ∧
    ∀ cs, a.buildEventTapeContexts tape = .ok cs →
      (∀ c ∈ cs, c.marketEvents = a.manifest.dataDependencies.map fun d =>
        (d.dependencyId, ((tape.events.filter fun e => decide (e.eventTime ≤ c.eventTime)).filter
          fun e => decide (e.dependencyId = d.dependencyId)).rtake (d.lookbackPeriods + 1))) ∧
      ∀ (tape' : FrozenEventTape) (cs' : List StrategyContext) (t : Instant),
        a.buildEventTapeContexts tape' = .ok cs' →
        (tape.events.filter fun e => decide (e.eventTime ≤ t)) =
          (tape'.events.filter fun e => decide (e.eventTime ≤ t)) →
        (cs.filter fun c => decide (c.eventTime ≤ t)) =
          cs'.filter fun c => decide (c.eventTime ≤ t) := by
  refine ⟨?_, fun cs hcs => ⟨fun c hc => ?_, fun tape' cs' t hcs' hsame => ?_⟩⟩
  · rw [← exists_buildEventTapeContexts hstudy]
    cases hall : a.buildEventTapeContexts tape with
    | ok cs =>
      rw [SameContexts, iterEventTapeContexts_eq_ok hmax, hall]
      simp
    | error error =>
      have hfails : ∃ error, (a.iterEventTapeContexts tape.events none limit).2 =
          .error error := by
        cases hone : (a.iterEventTapeContexts tape.events none limit).2 with
        | error error => exact ⟨error, rfl⟩
        | ok u =>
          have hok := ((iterEventTapeContexts_eq_ok (a := a) hmax).1 (Prod.ext rfl hone)).2
          rw [hall] at hok
          cases hok
      rw [SameContexts]
      exact ⟨fun _ h => absurd h (by rintro ⟨cs, ⟨⟩⟩), fun _ => hfails⟩
  · obtain ⟨-, -, -, hcontexts⟩ := buildEventTapeContexts_eq_ok.1 hcs
    have hmem : Except.ok c ∈ (timeBatches tape.events).map (a.batchContext tape.events) :=
      collect_eq_ok.1 hcontexts ▸ mem_map_of_mem hc
    obtain ⟨b, -, hb⟩ := mem_map.1 hmem
    obtain ⟨htime, hevents⟩ := batchContext_eq_ok hb
    rw [htime]
    exact hevents
  · have hleft := contexts_until hcs t
    rw [hsame, contexts_until hcs' t] at hleft
    exact (Except.ok.inj hleft).symm

end

/-! ## An event that leaves its window within its batch -/

def sampleReplay : ReplayArguments where
  manifest := sampleManifest 0
  randomSeed := 0
  parameters := []
  positionsByBatch := none

/-- Two events of one instant, the first with the given field. -/
def sampleTape (field : String) : FrozenEventTape where
  snapshotFingerprint := ⟨"snapshot"⟩
  events := [sampleMarketEvent field "a" 0, sampleMarketEvent "close" "b" 1]
  unique_ids := by simp [sampleMarketEvent]
  one_instrument := pairwise_pair.2 fun _ => rfl
  sorted := pairwise_pair.2 (Prod.Lex.toLex_le_toLex.2 (.inr ⟨rfl,
    Prod.Lex.toLex_le_toLex.2 (.inl Nat.zero_lt_one)⟩))
  advance := pairwise_pair.2 fun _ => ⟨Nat.zero_lt_one, le_rfl⟩

theorem streaming_replay_sample :
    SameContexts (sampleReplay.buildEventTapeContexts (sampleTape "close"))
      (sampleReplay.iterEventTapeContexts (sampleTape "close").events none 2) := by
  have hmax : ∀ b ∈ timeBatches (sampleTape "close").events, b.events.length ≤ 2 := by
    intro b hb
    rw [mem_singleton.1 hb]
    exact le_rfl
  refine (streaming_replay rfl hmax).1.2 fun _ e he => ?_
  rcases mem_pair.1 he with rfl | rfl
  · exact declares_sampleMarketEvent _
  · exact declares_sampleMarketEvent _

theorem replayable_sampleTape : sampleReplay.Replayable (sampleTape "open") where
  nonempty := cons_ne_nil _ _
  known := nofun
  names := nofun
  dependencies := by decide
  instruments b hb := by
    rw [mem_singleton.1 hb]
    exact fun j hj => absurd hj not_mem_nil
  keys b hb := by
    rw [mem_singleton.1 hb]
    exact fun j hj => absurd hj not_mem_nil
  parameters := ⟨[], rfl⟩
  visible b hb d hd e he := by
    have hlast : e = sampleMarketEvent "close" "b" 1 := by
      rw [mem_singleton.1 hb, mem_singleton.1 hd] at he
      exact mem_singleton.1 he
    obtain ⟨d', hd', hdeclares⟩ :=
      @declares_sampleMarketEvent "b" 1 0 (sampleMarketEvent "close" "b" 1).eventId_notBlank
    obtain ⟨hmem, -⟩ := dependency_eq_some.1 hd'
    rw [mem_singleton.1 hd, hlast, ← mem_singleton.1 hmem]
    exact hdeclares

/-- A window hides what the generator checks. -/
theorem replays_differ :
    ¬ SameContexts (sampleReplay.buildEventTapeContexts (sampleTape "open"))
      (sampleReplay.iterEventTapeContexts (sampleTape "open").events none 2) := by
  have hmax : ∀ b ∈ timeBatches (sampleTape "open").events, b.events.length ≤ 2 := by
    intro b hb
    rw [mem_singleton.1 hb]
    exact le_rfl
  obtain ⟨cs, hcs⟩ := (exists_buildEventTapeContexts rfl).2 replayable_sampleTape
  rw [hcs, SameContexts, iterEventTapeContexts_eq_ok hmax]
  rintro ⟨hdeclared, -⟩
  obtain ⟨d, hd, hdeclares⟩ := hdeclared _ mem_cons_self
  obtain ⟨hmem, -⟩ := dependency_eq_some.1 hd
  have hfield := hdeclares.extra "open" mem_cons_self
  rw [mem_singleton.1 hmem] at hfield
  exact absurd hfield (by decide)

end ReplayArguments

end ChartingPlatform
