/-
  Loops: a round that is repeated until it asks to stop, with fuel.
-/
import Mathlib.Order.Basic
import Mathlib.Data.Nat.Notation

namespace Lib

variable {σ : Type} (round : σ → Option σ)

/-- `while True` with a break: a round gives the next state, or none to stop. -/
def loop : ℕ → σ → Option σ
  | 0, _ => none
  | n + 1, s =>
    match round s with
    | some t => loop n t
    | none => some s

variable {round} {I : σ → Prop}

theorem loop_mono {n m : ℕ} {s t : σ} (hnm : n ≤ m) (h : loop round n s = some t) :
    loop round m s = some t := by
  induction n generalizing m s with
  | zero => exact absurd h (by simp [loop])
  | succ n ih =>
    obtain ⟨m, rfl⟩ : ∃ k, m = k + 1 := ⟨m - 1, by omega⟩
    rw [loop] at h ⊢
    cases hr : round s with
    | none => rwa [hr] at h
    | some u =>
      rw [hr] at h
      exact ih (by omega) h

/-- **An invariant of the rounds** holds when the loop stops, and no round is left. -/
theorem loop_spec (hround : ∀ s t, I s → round s = some t → I t) {n : ℕ} {s t : σ} (hs : I s)
    (h : loop round n s = some t) : I t ∧ round t = none := by
  induction n generalizing s with
  | zero => exact absurd h (by simp [loop])
  | succ n ih =>
    rw [loop] at h
    cases hr : round s with
    | none =>
      rw [hr, Option.some.injEq] at h
      subst h
      exact ⟨hs, hr⟩
    | some u =>
      rw [hr] at h
      exact ih (hround s u hs hr) h

theorem loop_total (μ : σ → ℕ)
    (hround : ∀ s t, I s → round s = some t → I t ∧ μ t < μ s) {n : ℕ} {s : σ} (hs : I s)
    (hn : μ s < n) : ∃ t, loop round n s = some t := by
  induction n generalizing s with
  | zero => exact absurd hn (Nat.not_lt_zero _)
  | succ n ih =>
    rw [loop]
    cases hr : round s with
    | none => exact ⟨s, rfl⟩
    | some u =>
      obtain ⟨hu, hlt⟩ := hround s u hs hr
      exact ih hu (by omega)

end Lib
