/-
  Relays: what is logged is sent to a receiver that drops repeats, and marked once it was sent.

  A relay may stop between sending and marking, and send again later.
-/
import ChartingPlatform.Lib.Runs

namespace Lib

open List

/-- The log, what the receiver holds, and what is marked as sent. -/
structure Relay (α : Type) where
  logged : List α := []
  received : List α := []
  marked : Set α := ∅

namespace Relay

variable {α : Type} {r s : Relay α} {a : α}

inductive Action (α : Type) where
  | log (a : α)
  | send (a : α)
  | mark (a : α)
  /-- Nothing visible happens: a refused call, a crash, a repeat that the receiver drops. -/
  | stutter

inductive Step : Relay α → Action α → Relay α → Prop
  | log {r : Relay α} {a : α} : a ∉ r.logged →
      Step r (.log a) { r with logged := r.logged ++ [a] }
  | send {r : Relay α} {a : α} : a ∈ r.logged → a ∉ r.received →
      Step r (.send a) { r with received := r.received ++ [a] }
  | mark {r : Relay α} {a : α} : a ∈ r.received →
      Step r (.mark a) { r with marked := insert a r.marked }
  | stutter {r : Relay α} : Step r .stutter r

/-- The invariant of the runs. -/
structure Sound (r : Relay α) : Prop where
  logged_nodup : r.logged.Nodup
  received_nodup : r.received.Nodup
  received_logged : ∀ a ∈ r.received, a ∈ r.logged
  marked_received : ∀ a ∈ r.marked, a ∈ r.received

theorem nodup_concat_of_notMem {l : List α} (hl : l.Nodup) (ha : a ∉ l) : (l ++ [a]).Nodup :=
  concat_eq_append ▸ hl.concat ha

theorem Sound.step {b : Action α} (h : r.Sound) (hstep : Step r b s) : s.Sound := by
  cases hstep with
  | log hnew =>
    exact ⟨nodup_concat_of_notMem h.logged_nodup hnew, h.received_nodup,
      fun x hx => mem_append_left _ (h.received_logged x hx), h.marked_received⟩
  | send hlogged hnew =>
    refine ⟨h.logged_nodup, nodup_concat_of_notMem h.received_nodup hnew, ?_,
      fun x hx => mem_append_left _ (h.marked_received x hx)⟩
    intro x hx
    rcases mem_append.1 hx with hx | hx
    · exact h.received_logged x hx
    · exact mem_singleton.1 hx ▸ hlogged
  | mark hreceived =>
    refine ⟨h.logged_nodup, h.received_nodup, h.received_logged, ?_⟩
    rintro x (rfl | hx)
    · exact hreceived
    · exact h.marked_received x hx
  | stutter => exact h

/-- What a step leaves behind. -/
structure Grows (r s : Relay α) : Prop where
  logged : r.logged <+: s.logged
  received : r.received <+: s.received
  marked : r.marked ⊆ s.marked

theorem Grows.refl (r : Relay α) : Grows r r :=
  ⟨prefix_rfl, prefix_rfl, subset_rfl⟩

theorem Grows.trans {t : Relay α} (h : Grows r s) (h' : Grows s t) : Grows r t :=
  ⟨h.logged.trans h'.logged, h.received.trans h'.received, h.marked.trans h'.marked⟩

theorem Step.grows {b : Action α} (h : Step r b s) : Grows r s := by
  cases h with
  | log => exact ⟨prefix_append _ _, prefix_rfl, subset_rfl⟩
  | send => exact ⟨prefix_rfl, prefix_append _ _, subset_rfl⟩
  | mark => exact ⟨prefix_rfl, prefix_rfl, Set.subset_insert _ _⟩
  | stutter => exact Grows.refl _

/-- **Every run from the empty relay is sound.** -/
theorem run_sound {bs : List (Action α)} (h : Run Step {} bs r) : r.Sound :=
  h.invariant (fun hs hstep => hs.step hstep)
    ⟨nodup_nil, nodup_nil, fun _ ha => absurd ha not_mem_nil,
      fun _ ha => absurd ha (Set.notMem_empty _)⟩

/-- **Nothing is lost along a run.** -/
theorem run_grows {bs : List (Action α)} (h : Run Step r bs s) : Grows r s :=
  h.invariant (P := fun t => Grows r t) (fun hg hstep => hg.trans hstep.grows) (Grows.refl r)

/-- **What is marked was received exactly once.** -/
theorem Sound.count_of_marked [DecidableEq α] (h : r.Sound) (ha : a ∈ r.marked) :
    r.received.count a = 1 :=
  count_eq_one_of_mem h.received_nodup (h.marked_received a ha)

end Relay

end Lib
