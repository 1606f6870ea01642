/-
  The contexts of an event tape (`replay.py`): all at once, and one batch at a time.

  The generator checks each event that it reads, the other path only those that are in a
  window when a batch is closed.
-/
import ChartingPlatform.Lib.Windows
import ChartingPlatform.Strategy.Tape

namespace ChartingPlatform

open Lib List Function

/-! ## Arguments -/

structure ReplayArguments where
  manifest : StrategySdkManifest
  randomSeed : ℤ
  parameters : List (PyKey × PyValue)
  positionsByBatch : Option (List (ℤ × List (String × SdkPositionSnapshot)))

namespace ReplayArguments

variable (a : ReplayArguments)

/-- The entries of `positions_by_batch`. -/
def positions : List (ℤ × List (String × SdkPositionSnapshot)) := a.positionsByBatch.getD []

/-- `positions_by_batch.get(sequence, {})`. -/
def positionsAt (sequence : ℕ) : List (String × SdkPositionSnapshot) :=
  ((rowWith Prod.fst (sequence : ℤ) a.positions).map Prod.snd).getD []

/-- The checks on one entry of `positions_by_batch`. -/
def checkPositions (message : String) (known : ℤ → Prop) [DecidablePred known]
    (i : ℤ × List (String × SdkPositionSnapshot)) : Except PyError Unit := do
  ensure (known i.1) (valueError message)
  ensure (∀ j ∈ i.2, notBlank j.1 = true) (valueError "position map keys must be non-empty strings")

def context (eventTime : Instant) (events : List MarketEvent) (sequence : ℕ)
    (window : ContextEvents) (studyArtifacts : Option StudyArtifacts) :
    Except PyError StrategyContext :=
  buildStrategyContext a.manifest eventTime ((events.map MarketEvent.sequence).foldr max 0)
    a.randomSeed a.parameters (a.manifest.series window) (some (a.positionsAt sequence))
    studyArtifacts

/-! ## All contexts at once -/

/-- The loop of `build_event_tape_contexts` over the batches. -/
def eagerContexts : ContextEvents → List EventTapeBatch → Except PyError (List StrategyContext)
  | _, [] => .ok []
  | histories, b :: bs => do
    let histories := b.events.foldl
      (fun h e => update h e.dependencyId (h e.dependencyId ++ [e])) histories
    let context ← a.context b.eventTime b.events b.batchSequence
      (fun id => (histories id).rtake (a.manifest.bound id)) none
    let contexts ← eagerContexts histories bs
    return context :: contexts

/-- `build_event_tape_contexts`. -/
def buildEventTapeContexts (tape : FrozenEventTape) : Except PyError (List StrategyContext) := do
  ensure (tape.events ≠ []) (valueError "event tape cannot replay an empty event set")
  let batches ← tape.batches
  let _ ← collect (a.positions.map (checkPositions
    "positions_by_batch contains an unknown batch sequence"
    fun k => ∃ b ∈ batches, (b.batchSequence : ℤ) = k))
  ensure ((∀ e ∈ tape.events, e.dependencyId ∈ a.manifest.dependencyIds) ∧
      ∀ id ∈ a.manifest.dependencyIds, ∃ e ∈ tape.events, e.dependencyId = id)
    (valueError "event tape dependencies do not match the SDK manifest")
  a.eagerContexts (fun _ => []) batches

/-! ## One batch at a time -/

/-- What `iter_event_tape_contexts` keeps between events. -/
structure ReplayState where
  histories : ContextEvents := fun _ => []
  observedDependencies : List String := []
  previousSortKey : Option TapeKey := none
  previousByDependency : String → Option MarketEvent := fun _ => none
  currentTime : Option Instant := none
  currentEvents : List MarketEvent := []
  batchSequence : ℕ := 0
  sawEvents : Bool := false

def ReplayState.remember (s : ReplayState) (e : MarketEvent) : ReplayState where
  histories := s.histories
  observedDependencies := s.observedDependencies ++ [e.dependencyId]
  previousSortKey := some e.tapeKey
  previousByDependency := update s.previousByDependency e.dependencyId (some e)
  currentTime := s.currentTime
  currentEvents := s.currentEvents
  batchSequence := s.batchSequence
  sawEvents := s.sawEvents

def ReplayState.join (s : ReplayState) (e : MarketEvent) : ReplayState where
  histories := s.histories
  observedDependencies := s.observedDependencies
  previousSortKey := s.previousSortKey
  previousByDependency := s.previousByDependency
  currentTime := some e.eventTime
  currentEvents := s.currentEvents ++ [e]
  batchSequence := s.batchSequence
  sawEvents := true

/-- `context_for_batch`: the events of the batch join their windows. -/
def contextForBatch (studyArtifacts : Option StudyArtifacts) (s : ReplayState)
    (eventTime : Instant) : Except PyError (StrategyContext × ReplayState) := do
  let histories := s.currentEvents.foldl
    (observe MarketEvent.dependencyId a.manifest.bound) s.histories
  let context ← a.context eventTime s.currentEvents s.batchSequence histories studyArtifacts
  return (context, { s with histories := histories, batchSequence := s.batchSequence + 1 })

def closeBatch (studyArtifacts : Option StudyArtifacts) (s : ReplayState) (e : MarketEvent) :
    Except PyError (Option StrategyContext × ReplayState) :=
  match s.currentTime.filter fun t => decide (t ≠ e.eventTime) with
  | none => .ok (none, s)
  | some t => do
    let done ← a.contextForBatch studyArtifacts s t
    return (some done.1, { done.2 with currentEvents := [] })

def checkReplayEvent (d : StrategyDataDependency) (s : ReplayState) (e : MarketEvent) :
    Except PyError Unit := do
  let name := "dependency " ++ reprText e.dependencyId
  ensure (e.instrumentId = d.requirement.instrumentId)
    (valueError (name ++ " contains an undeclared instrument"))
  ensure ((∀ f ∈ e.fieldNames, f ∈ d.fields) ∧ ∀ f ∈ d.fields, f ∈ e.fieldNames)
    (valueError (name ++ " event fields do not match its declaration"))
  ensure (d.requirement.start ≤ e.eventTime ∧ e.eventTime < d.requirement.stop)
    (valueError (name ++ " event falls outside its declared interval"))
  ensure (s.previousSortKey.all (fun k => decide (k ≤ e.tapeKey)) = true)
    (valueError "event iterable is not in canonical event-tape order")
  ensure ((s.previousByDependency e.dependencyId).all (fun p => decide (p.Advances e)) = true)
    (valueError (name ++ " events must advance sequence and time"))

def replayEvent (studyArtifacts : Option StudyArtifacts) (maxEventsPerBatch : ℕ) (s : ReplayState)
    (e : MarketEvent) : Except PyError (Option StrategyContext × ReplayState) :=
  match a.manifest.dependency e.dependencyId with
  | none => .error (valueError "event tape dependencies do not match the SDK manifest")
  | some d => do
    checkReplayEvent d s e
    let closed ← a.closeBatch studyArtifacts (s.remember e) e
    ensure ((closed.2.join e).currentEvents.length ≤ maxEventsPerBatch)
      (valueError "same-time event batch exceeds its configured in-memory bound")
    return (closed.1, closed.2.join e)

def checkReplay (s : ReplayState) : Except PyError Unit := do
  ensure (s.sawEvents = true) (valueError "event tape cannot replay an empty event set")
  ensure ((∀ id ∈ s.observedDependencies, id ∈ a.manifest.dependencyIds) ∧
      ∀ id ∈ a.manifest.dependencyIds, id ∈ s.observedDependencies)
    (valueError "event tape dependencies do not match the SDK manifest")
  ensure (∀ i ∈ a.positions, ∃ n < s.batchSequence, (n : ℤ) = i.1)
    (valueError "positions_by_batch contains an unknown batch sequence")

/-- The loop of `iter_event_tape_contexts`: what is yielded, and how the iteration ends. -/
def iterContexts (studyArtifacts : Option StudyArtifacts) (maxEventsPerBatch : ℕ) :
    ReplayState → List MarketEvent → List StrategyContext × Except PyError Unit
  | s, [] =>
    match s.currentTime.filter fun _ => decide (s.currentEvents ≠ []) with
    | none => ([], a.checkReplay s)
    | some t =>
      match a.contextForBatch studyArtifacts s t with
      | .error e => ([], .error e)
      | .ok (context, s') => ([context], a.checkReplay s')
  | s, e :: es =>
    match a.replayEvent studyArtifacts maxEventsPerBatch s e with
    | .error error => ([], .error error)
    | .ok (context, s') =>
      let rest := iterContexts studyArtifacts maxEventsPerBatch s' es
      (context.toList ++ rest.1, rest.2)

/-- `iter_event_tape_contexts`: what is yielded, and how the iteration ends. -/
def iterEventTapeContexts (events : List MarketEvent) (studyArtifacts : Option StudyArtifacts)
    (maxEventsPerBatch : ℕ) : List StrategyContext × Except PyError Unit :=
  let checks : Except PyError Unit := do
    ensure (1 ≤ maxEventsPerBatch) (valueError "max_events_per_batch must be a positive integer")
    let _ ← collect (a.positions.map (checkPositions
      "positions_by_batch contains an invalid batch sequence" fun k => 0 ≤ k))
  match checks with
  | .error e => ([], .error e)
  | .ok _ => a.iterContexts studyArtifacts maxEventsPerBatch {} events

/-! ## What the loops build -/

def batchContext (tape : List MarketEvent) (b : EventTapeBatch) : Except PyError StrategyContext :=
  a.context b.eventTime b.events b.batchSequence
    (windows MarketEvent.dependencyId a.manifest.bound
      (tape.filter fun e => decide (e.eventTime ≤ b.eventTime))) none

def openBatches (n : ℕ) (t : Instant) (cur es : List MarketEvent) : List EventTapeBatch :=
  (groupFrom MarketEvent.eventTime n t cur es).map fun b => ⟨b.1, b.2.1, b.2.2⟩

section
variable {a : ReplayArguments} {n : ℕ} {t : Instant} {closed cur es : List MarketEvent}
  {e : MarketEvent}

theorem openBatches_nil : openBatches n t cur [] = [⟨n, t, cur⟩] := rfl

theorem openBatches_cons_of_eq (h : e.eventTime = t) :
    openBatches n t cur (e :: es) = openBatches n t (cur ++ [e]) es := by
  rw [openBatches, groupFrom_cons_of_eq h, openBatches]

theorem openBatches_cons_of_ne (h : e.eventTime ≠ t) :
    openBatches n t cur (e :: es) =
      ⟨n, t, cur⟩ :: openBatches (n + 1) e.eventTime [e] es := by
  rw [openBatches, groupFrom_cons_of_ne h, map_cons, openBatches]

theorem exists_prefix_openBatches (n : ℕ) (t : Instant) (cur es : List MarketEvent) :
    ∃ b ∈ openBatches n t cur es, cur <+: b.events := by
  obtain ⟨b, hb, hprefix⟩ : ∃ b ∈ groupFrom MarketEvent.eventTime n t cur es, cur <+: b.2.2 :=
    exists_prefix_groupFrom
  exact ⟨_, mem_map_of_mem hb, hprefix⟩

theorem histories_append : cur.foldl
    (fun h e => update h e.dependencyId (h e.dependencyId ++ [e]))
      (fun id => ofKey MarketEvent.dependencyId id closed) =
    fun id => ofKey MarketEvent.dependencyId id (closed ++ cur) := by
  induction cur generalizing closed with
  | nil => simp
  | cons e cur ih =>
    have hstep : update (fun id => ofKey MarketEvent.dependencyId id closed)
        e.dependencyId (ofKey MarketEvent.dependencyId e.dependencyId closed ++ [e]) =
        fun id => ofKey MarketEvent.dependencyId id (closed ++ [e]) := by
      funext id
      rw [ofKey_append, ofKey_cons, ofKey_nil]
      by_cases hid : id = e.dependencyId
      · rw [hid, update_self, if_pos rfl]
      · rw [update_of_ne hid, if_neg (Ne.symm hid), append_nil]
    rw [foldl_cons, hstep, ih, append_assoc, singleton_append]

theorem batchContext_close (h : Cut MarketEvent.eventTime t closed cur es)
    (hlt : ∀ e ∈ es, t < e.eventTime) :
    a.batchContext (closed ++ cur ++ es) ⟨n, t, cur⟩ =
      a.context t cur n (windows MarketEvent.dependencyId a.manifest.bound (closed ++ cur))
        none := by
  rw [batchContext]
  dsimp only
  rw [h.filter_le hlt]

theorem eagerContexts_close {bs : List EventTapeBatch}
    (h : Cut MarketEvent.eventTime t closed cur es) (hlt : ∀ e ∈ es, t < e.eventTime) :
    a.eagerContexts (fun id => ofKey MarketEvent.dependencyId id closed) (⟨n, t, cur⟩ :: bs) =
      (a.batchContext (closed ++ cur ++ es) ⟨n, t, cur⟩ >>= fun c =>
        a.eagerContexts (fun id => ofKey MarketEvent.dependencyId id (closed ++ cur)) bs >>=
          fun cs => return c :: cs) := by
  rw [eagerContexts, batchContext_close h hlt]
  dsimp only
  rw [histories_append]
  rfl

/-- **The contexts of the batches, all at once.** -/
theorem eagerContexts_openBatches (h : Cut MarketEvent.eventTime t closed cur es) :
    a.eagerContexts (fun id => ofKey MarketEvent.dependencyId id closed)
        (openBatches n t cur es) =
      collect ((openBatches n t cur es).map (a.batchContext (closed ++ cur ++ es))) := by
  induction es generalizing n t closed cur with
  | nil =>
    rw [openBatches_nil, eagerContexts_close h nofun]
    rfl
  | cons e es ih =>
    by_cases he : e.eventTime = t
    · rw [openBatches_cons_of_eq he, ih (h.extend he), append_assoc, append_assoc,
        append_assoc, singleton_append]
    · rw [openBatches_cons_of_ne he, eagerContexts_close h (h.lt he), ih (h.close he),
        map_cons, append_assoc (closed ++ cur), singleton_append]
      rfl

/-! ## Reading events -/

def yieldAll : List (Except PyError StrategyContext) → List StrategyContext × Except PyError Unit
  | [] => ([], .ok ())
  | .error error :: _ => ([], .error error)
  | .ok context :: xs => (context :: (yieldAll xs).1, (yieldAll xs).2)

variable {xs : List (Except PyError StrategyContext)}

theorem yieldAll_of_collect
    {cs : List StrategyContext} (h : collect xs = .ok cs) : yieldAll xs = (cs, .ok ()) := by
  rw [collect_eq_ok.1 h]
  clear h
  induction cs with
  | nil => rfl
  | cons c cs ih => rw [map_cons, yieldAll, ih]

theorem yieldAll_of_collect_error {error : PyError}
    (h : collect xs = .error error) : (yieldAll xs).2 = .error error := by
  induction xs with
  | nil => cases h
  | cons x xs ih =>
    cases x with
    | error error' =>
      obtain rfl := Except.error.inj h
      rfl
    | ok c =>
      rw [collect, ok_bind] at h
      cases hxs : collect xs with
      | error error' =>
        rw [hxs] at h
        exact ih (hxs.trans h)
      | ok cs =>
        rw [hxs] at h
        cases h

/-- The state after reading some events, the last of them in an open batch. -/
structure Reads (a : ReplayArguments) (s : ReplayState) (n : ℕ) (t : Instant)
    (closed cur : List MarketEvent) : Prop where
  histories : s.histories = windows MarketEvent.dependencyId a.manifest.bound closed
  time : s.currentTime = some t
  events : s.currentEvents = cur
  nonempty : cur ≠ []
  sequence : s.batchSequence = n
  observed : s.observedDependencies = (closed ++ cur).map MarketEvent.dependencyId
  key : s.previousSortKey = (closed ++ cur).getLast?.map MarketEvent.tapeKey
  previous : s.previousByDependency =
    fun id => (ofKey MarketEvent.dependencyId id (closed ++ cur)).getLast?
  saw : s.sawEvents = true

structure Ordered (a : ReplayArguments) (es : List MarketEvent) : Prop where
  declared : ∀ e ∈ es, ∃ d, a.manifest.dependency e.dependencyId = some d ∧ d.Declares e
  sorted : es.Pairwise fun a b => a.tapeKey ≤ b.tapeKey
  advance : Follow MarketEvent.Advances es

variable {s s' : ReplayState} {max : ℕ} {d : StrategyDataDependency} {seen : List MarketEvent}

theorem previous_append : update
    (fun id => (ofKey MarketEvent.dependencyId id seen).getLast?) e.dependencyId (some e) =
      fun id => (ofKey MarketEvent.dependencyId id (seen ++ [e])).getLast? := by
  funext id
  rw [ofKey_append, ofKey_cons, ofKey_nil]
  by_cases hid : id = e.dependencyId
  · rw [hid, update_self, if_pos rfl, getLast?_concat]
  · rw [update_of_ne hid, if_neg (Ne.symm hid), append_nil]

theorem checkReplayEvent_of (h : Ordered a (seen ++ e :: es)) (hd : d.Declares e)
    (hkey : s.previousSortKey = seen.getLast?.map MarketEvent.tapeKey)
    (hprevious : s.previousByDependency =
      fun id => (ofKey MarketEvent.dependencyId id seen).getLast?) :
    checkReplayEvent d s e = .ok () := by
  have hafter : s.previousSortKey.all (fun k => decide (k ≤ e.tapeKey)) = true := by
    rw [hkey]
    cases hlast : seen.getLast? with
    | none => rfl
    | some p =>
      exact decide_eq_true ((pairwise_append.1 h.sorted).2.2 p (mem_of_getLast? hlast) e
        mem_cons_self)
  have hadvance : (s.previousByDependency e.dependencyId).all
      (fun p => decide (p.Advances e)) = true := by
    rw [hprevious, all_iff]
    intro p hp
    obtain ⟨hmem, hid⟩ := mem_ofKey.1 (mem_of_getLast? hp)
    exact (pairwise_append.1 h.advance).2.2 p hmem e mem_cons_self hid
  unfold checkReplayEvent
  dsimp only
  rw [ensure_of hd.instrument, ok_bind, ensure_of ⟨hd.extra, hd.missing⟩, ok_bind,
    ensure_of hd.interval, ok_bind, ensure_of hafter, ok_bind, ensure_of hadvance]

theorem map_dependencyId_append : (seen ++ [e]).map MarketEvent.dependencyId =
    seen.map MarketEvent.dependencyId ++ [e.dependencyId] := map_append

theorem replayEvent_of_eq (h : Reads a s n t closed cur)
    (hes : Ordered a (closed ++ cur ++ e :: es)) (he : e.eventTime = t)
    (hmax : (cur ++ [e]).length ≤ max) :
    ∃ s', a.replayEvent none max s e = .ok (none, s') ∧ Reads a s' n t closed (cur ++ [e]) := by
  obtain ⟨d, hd, hdeclares⟩ := hes.declared e (mem_append_right _ mem_cons_self)
  have hclose : a.closeBatch none (s.remember e) e = .ok (none, s.remember e) := by
    have htime : (s.remember e).currentTime = some t := h.time
    unfold closeBatch
    rw [htime, Option.filter_some, if_neg (by simpa using he.symm)]
  refine ⟨(s.remember e).join e, ?_, h.histories, congrArg some he, ?_, ?_, h.sequence, ?_, ?_, ?_,
    rfl⟩
  · unfold replayEvent
    simp only [hd]
    rw [checkReplayEvent_of hes hdeclares h.key h.previous, ok_bind, hclose, ok_bind,
      ensure_of (by rw [ReplayState.join, ReplayState.remember, h.events]; exact hmax)]
    rfl
  · rw [ReplayState.join, ReplayState.remember, h.events]
  · exact append_ne_nil_of_right_ne_nil _ (cons_ne_nil _ _)
  · rw [ReplayState.join, ReplayState.remember, ← append_assoc, map_dependencyId_append,
      ← h.observed]
  · rw [← append_assoc, getLast?_concat]
    rfl
  · rw [ReplayState.join, ReplayState.remember, h.previous, previous_append, append_assoc]

theorem replayEvent_of_ne (h : Reads a s n t closed cur)
    (hes : Ordered a (closed ++ cur ++ e :: es)) (he : e.eventTime ≠ t) (hmax : 1 ≤ max) :
    ∃ s', Reads a s' (n + 1) e.eventTime (closed ++ cur) [e] ∧
      a.replayEvent none max s e =
        (a.context t cur n (windows MarketEvent.dependencyId a.manifest.bound (closed ++ cur))
          none).map fun c => (some c, s') := by
  obtain ⟨d, hd, hdeclares⟩ := hes.declared e (mem_append_right _ mem_cons_self)
  have htime : (s.remember e).currentTime = some t := h.time
  have hhistories : (s.remember e).currentEvents.foldl
      (observe MarketEvent.dependencyId a.manifest.bound) (s.remember e).histories =
        windows MarketEvent.dependencyId a.manifest.bound (closed ++ cur) := by
    rw [ReplayState.remember, h.events, h.histories, ← windows_append]
  let s₁ : ReplayState :=
    { s.remember e with
      histories := windows MarketEvent.dependencyId a.manifest.bound (closed ++ cur)
      currentTime := some t
      currentEvents := []
      batchSequence := n + 1 }
  have hclose : a.closeBatch none (s.remember e) e =
      (a.context t cur n (windows MarketEvent.dependencyId a.manifest.bound (closed ++ cur))
        none).map fun c => (some c, s₁) := by
    unfold closeBatch contextForBatch
    rw [htime, Option.filter_some, if_pos (by simpa using he.symm)]
    dsimp only
    rw [hhistories, ReplayState.remember, h.events, h.sequence]
    cases a.context t cur n (windows MarketEvent.dependencyId a.manifest.bound (closed ++ cur))
      none <;> rfl
  refine ⟨s₁.join e, ⟨rfl, rfl, rfl, cons_ne_nil _ _, rfl, ?_, ?_, ?_, rfl⟩, ?_⟩
  · rw [map_dependencyId_append, ← h.observed]
    rfl
  · rw [getLast?_concat]
    rfl
  · rw [← previous_append, ← h.previous]
    rfl
  · unfold replayEvent
    simp only [hd]
    rw [checkReplayEvent_of hes hdeclares h.key h.previous, ok_bind, hclose]
    cases a.context t cur n (windows MarketEvent.dependencyId a.manifest.bound (closed ++ cur))
      none with
    | error error => rfl
    | ok c =>
      rw [Except.map, ok_bind, ensure_of (show (s₁.join e).currentEvents.length ≤ max from hmax)]
      rfl

/-! ## One batch at a time, in order -/

/-- The checks after some events in a number of batches. -/
def endState (a : ReplayArguments) (es : List MarketEvent) (count : ℕ) : Except PyError Unit :=
  a.checkReplay {
    observedDependencies := es.map MarketEvent.dependencyId
    batchSequence := count
    sawEvents := true }

def andThen (r : List StrategyContext × Except PyError Unit) (last : Except PyError Unit) :
    List StrategyContext × Except PyError Unit := (r.1, r.2 >>= fun _ => last)

theorem iterContexts_nil (h : Reads a s n t closed cur) :
    a.iterContexts none max s [] = andThen
      (yieldAll [a.context t cur n
        (windows MarketEvent.dependencyId a.manifest.bound (closed ++ cur)) none])
      (endState a (closed ++ cur) (n + 1)) := by
  have hhistories : s.currentEvents.foldl (observe MarketEvent.dependencyId a.manifest.bound)
      s.histories = windows MarketEvent.dependencyId a.manifest.bound (closed ++ cur) := by
    rw [h.events, h.histories, ← windows_append]
  have htime : (s.currentTime.filter fun _ => decide (s.currentEvents ≠ [])) = some t := by
    rw [h.time, h.events, Option.filter_some, if_pos (decide_eq_true h.nonempty)]
  have hend : ∀ histories, a.checkReplay
      { s with histories := histories, batchSequence := s.batchSequence + 1 } =
        endState a (closed ++ cur) (n + 1) := by
    intro histories
    unfold endState checkReplay
    dsimp only
    rw [h.observed, h.sequence, h.saw]
  unfold iterContexts contextForBatch
  simp only [htime]
  rw [hhistories, h.events, h.sequence]
  cases a.context t cur n (windows MarketEvent.dependencyId a.manifest.bound (closed ++ cur))
    none with
  | error error => rfl
  | ok c => 
    rw [← hend (windows MarketEvent.dependencyId a.manifest.bound (closed ++ cur)), h.sequence]
    rfl

/-- **One batch at a time, the contexts are those of the batches.** -/
theorem iterContexts_openBatches (h : Reads a s n t closed cur)
    (hcut : Cut MarketEvent.eventTime t closed cur es) (hes : Ordered a (closed ++ cur ++ es))
    (hmax : ∀ b ∈ openBatches n t cur es, b.events.length ≤ max) :
    a.iterContexts none max s es =
      andThen (yieldAll ((openBatches n t cur es).map (a.batchContext (closed ++ cur ++ es))))
        (endState a (closed ++ cur ++ es) (n + (openBatches n t cur es).length)) := by
  induction es generalizing s n t closed cur with
  | nil =>
    rw [iterContexts_nil h, openBatches_nil, map_singleton, batchContext_close hcut nofun,
      append_nil]
    rfl
  | cons e es ih =>
    by_cases he : e.eventTime = t
    · rw [openBatches_cons_of_eq he] at hmax ⊢
      have hle : (cur ++ [e]).length ≤ max := by
        obtain ⟨b, hb, hprefix⟩ := exists_prefix_openBatches n t (cur ++ [e]) es
        exact hprefix.length_le.trans (hmax b hb)
      obtain ⟨s', hread, hs'⟩ := replayEvent_of_eq h hes he hle
      rw [iterContexts, hread]
      dsimp only
      rw [ih hs' (hcut.extend he) (by simpa using hes) hmax]
      simp
    · rw [openBatches_cons_of_ne he] at hmax ⊢
      have hone : 1 ≤ max := by
        obtain ⟨b, hb, hprefix⟩ := exists_prefix_openBatches (n + 1) e.eventTime [e] es
        exact hprefix.length_le.trans (hmax b (mem_cons_of_mem _ hb))
      obtain ⟨s', hs', hread⟩ := replayEvent_of_ne h hes he hone
      rw [iterContexts, hread, map_cons, batchContext_close hcut (hcut.lt he)]
      cases a.context t cur n
          (windows MarketEvent.dependencyId a.manifest.bound (closed ++ cur)) none with
      | error error => rfl
      | ok c =>
        rw [Except.map]
        dsimp only
        rw [ih hs' (hcut.close he) (by simpa using hes) fun b hb =>
          hmax b (mem_cons_of_mem _ hb)]
        rw [append_assoc (closed ++ cur), singleton_append, length_cons,
          Nat.add_assoc, Nat.add_comm 1]
        rfl

end

end ReplayArguments

end ChartingPlatform
