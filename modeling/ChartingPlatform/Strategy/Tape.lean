/-
  Frozen event tapes (`event_tape.py`).
-/
import ChartingPlatform.Lib.Batches
import ChartingPlatform.Strategy.Sdk

namespace ChartingPlatform

open Lib List

/-! ## Tapes -/

/-- `(event_time, sequence, dependency_id, event_id)`. -/
abbrev TapeKey := Instant ×ₗ ℕ ×ₗ String ×ₗ String

namespace MarketEvent

def tapeKey (e : MarketEvent) : TapeKey :=
  toLex (e.eventTime, toLex (e.sequence, toLex (e.dependencyId, e.eventId)))

def Advances (a b : MarketEvent) : Prop := a.sequence < b.sequence ∧ a.eventTime ≤ b.eventTime

def SameInstrument (a b : MarketEvent) : Prop := a.instrumentId = b.instrumentId

instance (a b : MarketEvent) : Decidable (a.Advances b) := inferInstanceAs (Decidable (_ ∧ _))

instance (a b : MarketEvent) : Decidable (a.SameInstrument b) := inferInstanceAs (Decidable (_ = _))

end MarketEvent

/-- The loops over `dependency_instruments` and `previous_by_dependency`: the first event that
    does not follow the last one of its dependency. -/
def firstConflict (follows : MarketEvent → MarketEvent → Prop)
    [∀ a b, Decidable (follows a b)] :
    (String → Option MarketEvent) → List MarketEvent → Option MarketEvent
  | _, [] => none
  | previous, e :: es =>
    if (previous e.dependencyId).all (fun p => decide (follows p e)) = true then
      firstConflict follows (Function.update previous e.dependencyId (some e)) es
    else some e

def Follow (follows : MarketEvent → MarketEvent → Prop) (es : List MarketEvent) : Prop :=
  es.Pairwise fun a b => a.dependencyId = b.dependencyId → follows a b

theorem all_iff {o : Option MarketEvent} {q : MarketEvent → Prop} [DecidablePred q] :
    o.all (fun p => decide (q p)) = true ↔ ∀ p ∈ o, q p := by
  cases o <;> simp

variable {es : List MarketEvent}

theorem firstConflict_eq_none (follows : MarketEvent → MarketEvent → Prop)
    [∀ a b, Decidable (follows a b)] (htrans : ∀ a b c, follows a b → follows b c → follows a c)
    {previous : String → Option MarketEvent} :
    firstConflict follows previous es = none ↔
      (∀ e ∈ es, ∀ p ∈ previous e.dependencyId, follows p e) ∧ Follow follows es := by
  unfold Follow
  induction es generalizing previous with
  | nil => simp [firstConflict]
  | cons e es ih =>
    rw [firstConflict]
    by_cases he : ∀ p ∈ previous e.dependencyId, follows p e
    · rw [if_pos (all_iff.2 he), ih, pairwise_cons]
      constructor
      · rintro ⟨hprevious, hpairwise⟩
        have hnext : ∀ b ∈ es, e.dependencyId = b.dependencyId → follows e b := by
          intro b hb hid
          refine hprevious b hb e ?_
          rw [← hid, Function.update_self]
          rfl
        refine ⟨fun b hb p hp => ?_, hnext, hpairwise⟩
        rcases mem_cons.1 hb with rfl | hb
        · exact he p hp
        · by_cases hid : b.dependencyId = e.dependencyId
          · exact htrans p e b (he p (hid ▸ hp)) (hnext b hb hid.symm)
          · exact hprevious b hb p (by rwa [Function.update_of_ne hid])
      · rintro ⟨hprevious, hnext, hpairwise⟩
        refine ⟨fun b hb p hp => ?_, hpairwise⟩
        by_cases hid : b.dependencyId = e.dependencyId
        · rw [hid, Function.update_self] at hp
          exact Option.some.inj hp ▸ hnext b hb hid.symm
        · rw [Function.update_of_ne hid] at hp
          exact hprevious b (mem_cons_of_mem _ hb) p hp
    · rw [if_neg fun h => he (all_iff.1 h)]
      constructor
      · nofun
      · exact fun h => absurd (h.1 e mem_cons_self) he

theorem MarketEvent.Advances.trans {a b c : MarketEvent} (h : a.Advances b) (h' : b.Advances c) :
    a.Advances c := ⟨h.1.trans h'.1, h.2.trans h'.2⟩

theorem MarketEvent.SameInstrument.trans {a b c : MarketEvent} (h : a.SameInstrument b)
    (h' : b.SameInstrument c) : a.SameInstrument c := Eq.trans h h'

theorem firstConflict_advance :
    firstConflict MarketEvent.Advances (fun _ => none) es = none ↔
      Follow MarketEvent.Advances es := by
  rw [firstConflict_eq_none MarketEvent.Advances fun _ _ _ => MarketEvent.Advances.trans]
  exact ⟨fun h => h.2, fun h => ⟨fun e he p hp => absurd hp nofun, h⟩⟩

theorem firstConflict_instrument :
    firstConflict MarketEvent.SameInstrument (fun _ => none) es = none ↔
      Follow MarketEvent.SameInstrument es := by
  rw [firstConflict_eq_none MarketEvent.SameInstrument fun _ _ _ =>
    MarketEvent.SameInstrument.trans]
  exact ⟨fun h => h.2, fun h => ⟨fun e he p hp => absurd hp nofun, h⟩⟩

/-- `FrozenEventTape`. -/
structure FrozenEventTape where
  snapshotFingerprint : Digest
  events : List MarketEvent
  unique_ids : (events.map MarketEvent.eventId).Nodup
  one_instrument : Follow MarketEvent.SameInstrument events
  sorted : events.Pairwise fun a b => a.tapeKey ≤ b.tapeKey
  advance : Follow MarketEvent.Advances events

theorem Follow.perm {es' : List MarketEvent} (h : Follow MarketEvent.SameInstrument es)
    (hp : es'.Perm es) : Follow MarketEvent.SameInstrument es' :=
  hp.symm.pairwise h fun hab hid => (hab hid.symm).symm

/-- `FrozenEventTape.__post_init__`. -/
def makeFrozenEventTape (snapshotFingerprint : Digest) (events : List MarketEvent) :
    Except PyError FrozenEventTape :=
  if h₁ : (events.map MarketEvent.eventId).Nodup then
    match h₂ : firstConflict MarketEvent.SameInstrument (fun _ => none) events with
    | some e => .error (valueError
        ("dependency " ++ reprText e.dependencyId ++ " contains multiple instruments"))
    | none =>
      match h₃ : firstConflict MarketEvent.Advances (fun _ => none)
          (sortBy MarketEvent.tapeKey events) with
      | some e => .error (valueError
          ("dependency " ++ reprText e.dependencyId ++ " events must advance sequence and time"))
      | none => .ok {
          snapshotFingerprint := snapshotFingerprint
          events := sortBy MarketEvent.tapeKey events
          unique_ids := ((perm_sortBy _ events).map _).nodup_iff.2 h₁
          one_instrument := (firstConflict_instrument.1 h₂).perm (perm_sortBy _ events)
          sorted := pairwise_sortBy _ events
          advance := firstConflict_advance.1 h₃ }
  else .error (valueError "event ids must be unique within a frozen tape")

/-! ## Batches -/

/-- `EventTapeBatch`. -/
structure EventTapeBatch where
  batchSequence : ℕ
  eventTime : Instant
  events : List MarketEvent

/-- `(sequence, dependency_id, event_id)`. -/
def MarketEvent.batchKey (e : MarketEvent) : ℕ ×ₗ String ×ₗ String :=
  toLex (e.sequence, toLex (e.dependencyId, e.eventId))

/-- `EventTapeBatch.__post_init__`. -/
def EventTapeBatch.check (b : EventTapeBatch) : Except PyError EventTapeBatch := do
  ensure (b.events ≠ []) (valueError "event tape batches must contain events")
  ensure (∀ e ∈ b.events, e.eventTime = b.eventTime)
    (valueError "batch events must share the batch event_time")
  ensure (b.events.Pairwise fun a b => a.batchKey ≤ b.batchKey)
    (valueError "batch events must be deterministically ordered")
  return b

def timeBatches (es : List MarketEvent) : List EventTapeBatch :=
  (groups MarketEvent.eventTime es).map fun b => ⟨b.1, b.2.1, b.2.2⟩

/-- `FrozenEventTape.batches`. -/
def FrozenEventTape.batches (t : FrozenEventTape) : Except PyError (List EventTapeBatch) :=
  collect ((timeBatches t.events).map EventTapeBatch.check)

theorem FrozenEventTape.time_sorted (t : FrozenEventTape) :
    t.events.Pairwise fun a b => a.eventTime ≤ b.eventTime :=
  t.sorted.imp fun h => (Prod.Lex.toLex_le_toLex.1 h).elim le_of_lt fun h => h.1.le

/-- **The batches of a tape pass their checks.** -/
theorem FrozenEventTape.batches_eq (t : FrozenEventTape) :
    t.batches = .ok (timeBatches t.events) := by
  rw [batches, collect_eq_ok]
  refine map_congr_left fun b hb => ?_
  obtain ⟨⟨n, k, es⟩, hmem, rfl⟩ := mem_map.1 hb
  obtain ⟨hes, hne⟩ := mem_groups t.time_sorted hmem
  dsimp only at hes hne
  have htime : ∀ e ∈ es, e.eventTime = k := by
    intro e he
    rw [hes] at he
    exact of_decide_eq_true (mem_filter.1 he).2
  have hsorted : es.Pairwise fun a b => a.batchKey ≤ b.batchKey := by
    have hkeys : es.Pairwise fun a b => a.tapeKey ≤ b.tapeKey :=
      hes ▸ t.sorted.sublist filter_sublist
    refine hkeys.imp_of_mem fun {a b} ha hb h => ?_
    rcases Prod.Lex.toLex_le_toLex.1 h with hlt | ⟨-, hle⟩
    · exact absurd hlt (by rw [htime a ha, htime b hb]; exact lt_irrefl k)
    · exact hle
  unfold EventTapeBatch.check
  rw [ensure_of hne, ok_bind, ensure_of htime, ok_bind, ensure_of hsorted]
  rfl

end ChartingPlatform
