/-
  The access paths of a frozen event tape (`event_tape.py`): batches, iteration up to a
  boundary, and time slices.
-/
import ChartingPlatform.Strategy.History
import ChartingPlatform.Strategy.Tape

namespace ChartingPlatform

open Lib List

def MarketEvent.upTo (boundary : Instant) (includeBoundary : Bool) (e : MarketEvent) : Bool :=
  decide (e.eventTime < boundary) || includeBoundary && decide (e.eventTime = boundary)

def MarketEvent.onFrom (boundary : Instant) (includeBoundary : Bool) (e : MarketEvent) : Bool :=
  decide (boundary < e.eventTime) || includeBoundary && decide (e.eventTime = boundary)

/-- `FrozenEventTape.iter_events_until`: the loop stops at the first event beyond. -/
def FrozenEventTape.iterEventsUntil (t : FrozenEventTape) (through : Instant)
    (includeBoundary : Bool) : List MarketEvent :=
  t.events.takeWhile (MarketEvent.upTo through includeBoundary)

/-- `FrozenEventTape.slice`. -/
def FrozenEventTape.slice (t : FrozenEventTape) (start finish : Option Instant)
    (includeStart includeEnd : Bool) : Except PyError (List MarketEvent) := do
  ensure (∀ s ∈ start, ∀ f ∈ finish, s ≤ f) (valueError "slice start must not follow end")
  return t.events.filter fun e =>
    start.all (fun s => e.onFrom s includeStart) && finish.all (fun f => e.upTo f includeEnd)

section
variable {fp : Digest} {es es' : List MarketEvent} {t : FrozenEventTape} {boundary : Instant}
  {inclusive : Bool} {e : MarketEvent}

theorem upTo_iff : e.upTo boundary inclusive = true ↔
    e.eventTime < boundary ∨ inclusive = true ∧ e.eventTime = boundary := by
  simp [MarketEvent.upTo]

theorem onFrom_eq_not_upTo : e.onFrom boundary (!inclusive) = !e.upTo boundary inclusive := by
  unfold MarketEvent.onFrom MarketEvent.upTo
  rcases lt_trichotomy e.eventTime boundary with h | h | h
  · simp [h, h.ne, h.not_gt]
  · simp [h]
  · simp [h, h.ne', h.not_gt]

theorem FrozenEventTape.ext_events {t' : FrozenEventTape}
    (hfp : t.snapshotFingerprint = t'.snapshotFingerprint) (h : t.events = t'.events) : t = t' := by
  cases t
  cases t'
  cases hfp
  cases h
  rfl

theorem makeFrozenEventTape_eq_ok : makeFrozenEventTape fp es = .ok t ↔
    (es.map MarketEvent.eventId).Nodup ∧ Follow MarketEvent.SameInstrument es ∧
      t.snapshotFingerprint = fp ∧ t.events = sortBy MarketEvent.tapeKey es := by
  constructor
  · intro h
    unfold makeFrozenEventTape at h
    split at h
    · rename_i hids
      split at h
      · cases h
      · rename_i hinstrument
        split at h
        · cases h
        · cases h
          exact ⟨hids, firstConflict_instrument.1 hinstrument, rfl, rfl⟩
    · cases h
  · rintro ⟨hids, hinstrument, hfp, hevents⟩
    unfold makeFrozenEventTape
    rw [dif_pos hids]
    split
    · rename_i e he
      rw [firstConflict_instrument.2 hinstrument] at he
      cases he
    · split
      · rename_i e he
        rw [firstConflict_advance.2 (hevents ▸ t.advance)] at he
        cases he
      · exact congrArg Except.ok (FrozenEventTape.ext_events hfp.symm hevents.symm)

theorem tapeKey_injOn (h : (es.map MarketEvent.eventId).Nodup) :
    ∀ a ∈ es, ∀ b ∈ es, a.tapeKey = b.tapeKey → a = b := by
  intro a ha b hb hab
  have hid : a.eventId = b.eventId := congrArg (fun k : TapeKey => (ofLex (ofLex (ofLex k).2).2).2) hab
  exact inj_on_of_nodup_map h ha hb hid

theorem makeFrozenEventTape_perm (h : es' ~ es) (ht : makeFrozenEventTape fp es = .ok t) :
    makeFrozenEventTape fp es' = .ok t := by
  rw [makeFrozenEventTape_eq_ok] at ht ⊢
  obtain ⟨hids, hinstrument, hfp, hevents⟩ := ht
  refine ⟨(h.map _).nodup_iff.2 hids, hinstrument.perm h, hfp, ?_⟩
  rw [hevents]
  exact sortBy_eq_of_perm h.symm (tapeKey_injOn hids)

theorem FrozenEventTape.upTo_sorted (t : FrozenEventTape) :
    t.events.Pairwise fun a b => b.upTo boundary inclusive = true →
      a.upTo boundary inclusive = true := by
  refine t.time_sorted.imp fun {a b} hab hb => ?_
  rw [upTo_iff] at hb ⊢
  rcases hb with hb | ⟨hinclusive, hb⟩
  · exact .inl (hab.trans_lt hb)
  · rcases (hab.trans hb.le).lt_or_eq with hlt | heq
    · exact .inl hlt
    · exact .inr ⟨hinclusive, heq⟩

theorem FrozenEventTape.slice_end (t : FrozenEventTape) :
    t.slice none (some boundary) true inclusive =
      .ok (t.events.filter (MarketEvent.upTo boundary inclusive)) := by
  unfold FrozenEventTape.slice
  rw [ensure_of (by simp), ok_bind]
  simp

theorem FrozenEventTape.slice_start (t : FrozenEventTape) :
    t.slice (some boundary) none inclusive true =
      .ok (t.events.filter (MarketEvent.onFrom boundary inclusive)) := by
  unfold FrozenEventTape.slice
  rw [ensure_of (by simp), ok_bind]
  simp

theorem FrozenEventTape.batches_partition (t : FrozenEventTape) : ∃ bs, t.batches = .ok bs ∧
    bs.flatMap (·.events) = t.events ∧ (bs.Pairwise fun b b' => b.eventTime < b'.eventTime) ∧
    bs.map (·.batchSequence) = List.range bs.length := by
  refine ⟨_, t.batches_eq, ?_, ?_, ?_⟩
  · rw [timeBatches, flatMap_map]
    exact flatMap_groups
  · exact pairwise_map.2 (pairwise_groups t.time_sorted)
  · rw [timeBatches, map_map, length_map, ← map_index_groups]
    rfl

theorem FrozenEventTape.slice_eq_iterEventsUntil (t : FrozenEventTape) :
    t.slice none (some boundary) true inclusive = .ok (t.iterEventsUntil boundary inclusive) := by
  rw [t.slice_end, FrozenEventTape.iterEventsUntil, takeWhile_eq_filter t.upTo_sorted]

theorem FrozenEventTape.slice_partition (t : FrozenEventTape) : ∃ before after,
    t.slice none (some boundary) true inclusive = .ok before ∧
    t.slice (some boundary) none (!inclusive) true = .ok after ∧ before ++ after = t.events := by
  refine ⟨_, _, t.slice_end, t.slice_start, ?_⟩
  have hafter : MarketEvent.onFrom boundary (!inclusive) =
      fun e => !e.upTo boundary inclusive := funext fun e => onFrom_eq_not_upTo
  rw [hafter]
  exact filter_append_filter_not t.upTo_sorted

end

/-- **A frozen tape**: every order of its input gives it, its batches are its events at increasing
times and with consecutive numbers, iterating up to a time gives the slice up to it, and the
slices before and after a time are the events. -/
theorem frozen_event_tape (fp : Digest) (es : List MarketEvent) (t : FrozenEventTape)
    (ht : makeFrozenEventTape fp es = .ok t) :
    t.events ~ es ∧ (∀ es', es' ~ es → makeFrozenEventTape fp es' = .ok t) ∧
    (∃ bs, t.batches = .ok bs ∧ bs.flatMap (·.events) = t.events ∧
      (bs.Pairwise fun b b' => b.eventTime < b'.eventTime) ∧
      bs.map (·.batchSequence) = List.range bs.length) ∧
    (∀ boundary inclusive, t.slice none (some boundary) true inclusive =
      .ok (t.iterEventsUntil boundary inclusive)) ∧
    ∀ boundary inclusive, ∃ before after,
      t.slice none (some boundary) true inclusive = .ok before ∧
      t.slice (some boundary) none (!inclusive) true = .ok after ∧ before ++ after = t.events := by
  refine ⟨?_, fun es' h => makeFrozenEventTape_perm h ht, t.batches_partition,
    fun _ _ => t.slice_eq_iterEventsUntil, fun _ _ => t.slice_partition⟩
  rw [(makeFrozenEventTape_eq_ok.1 ht).2.2.2]
  exact perm_sortBy _ es

def pairTape : FrozenEventTape where
  snapshotFingerprint := ⟨"snapshot"⟩
  events := [sampleMarketEvent "close" "b" 0, sampleMarketEvent "close" "a" 1]
  unique_ids := by decide
  one_instrument := by simp [Follow, MarketEvent.SameInstrument, sampleMarketEvent]
  sorted := by
    refine pairwise_pair.2 (Prod.Lex.toLex_le_toLex.2 (.inr ⟨rfl, ?_⟩))
    exact Prod.Lex.toLex_le_toLex.2 (.inl Nat.zero_lt_one)
  advance := by simp [Follow, MarketEvent.Advances, sampleMarketEvent]

theorem frozen_event_tape_pair :
    (∃ bs, pairTape.batches = .ok bs ∧ bs.flatMap (·.events) = pairTape.events ∧
      (bs.Pairwise fun b b' => b.eventTime < b'.eventTime) ∧
      bs.map (·.batchSequence) = List.range bs.length) ∧
    ∃ before after, pairTape.slice none (some (clock 10)) true false = .ok before ∧
      pairTape.slice (some (clock 10)) none true true = .ok after ∧
      before ++ after = pairTape.events := by
  have hmake : makeFrozenEventTape ⟨"snapshot"⟩ pairTape.events.reverse = .ok pairTape := by
    refine makeFrozenEventTape_perm (reverse_perm _) (makeFrozenEventTape_eq_ok.2 ?_)
    refine ⟨pairTape.unique_ids, pairTape.one_instrument, rfl, ?_⟩
    refine (sortBy_of_pairwise (pairwise_pair.2 ?_)).symm
    refine Prod.Lex.toLex_lt_toLex.2 (.inr ⟨rfl, ?_⟩)
    exact Prod.Lex.toLex_lt_toLex.2 (.inl Nat.zero_lt_one)
  obtain ⟨-, -, hbatches, -, hslices⟩ := frozen_event_tape _ _ _ hmake
  exact ⟨hbatches, hslices (clock 10) false⟩

end ChartingPlatform
