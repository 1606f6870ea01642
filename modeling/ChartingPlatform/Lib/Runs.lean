/-
  Runs of a labelled transition system, extended at the end.

  `Run step s ls t`: from `s` the steps labelled `ls`, in this order, lead to `t`.
-/
import Mathlib

namespace Lib

variable {σ l : Type}

inductive Run (step : σ → l → σ → Prop) (s : σ) : List l → σ → Prop
  | nil : Run step s [] s
  | snoc {t u ls a} : Run step s ls t → step t a u → Run step s (ls ++ [a]) u

namespace Run

variable {step : σ → l → σ → Prop} {s t u : σ} {ls ms : List l} {a : l}

/-- **Invariants of steps are invariants of runs.** -/
theorem invariant {P : σ → Prop} (hstep : ∀ {s a t}, P s → step s a t → P t)
    (h : Run step s ls t) (hs : P s) : P t := by
  induction h with
  | nil => exact hs
  | snoc _ ha ih => exact hstep ih ha

@[simp] theorem nil_iff : Run step s [] t ↔ t = s := by
  constructor
  · intro h
    generalize hks : ([] : List l) = ks at h
    cases h with
    | nil => rfl
    | snoc => simp at hks
  · rintro rfl
    exact nil

theorem snoc_iff : Run step s (ls ++ [a]) u ↔ ∃ t, Run step s ls t ∧ step t a u := by
  constructor
  · intro h
    generalize hks : ls ++ [a] = ks at h
    cases h with
    | nil => simp at hks
    | snoc hrun ha =>
      obtain ⟨rfl, hb⟩ := List.append_inj' hks rfl
      obtain rfl := List.cons.inj hb |>.1
      exact ⟨_, hrun, ha⟩
  · rintro ⟨t, hrun, ha⟩
    exact snoc hrun ha

theorem append_iff : Run step s (ls ++ ms) u ↔ ∃ t, Run step s ls t ∧ Run step t ms u := by
  induction ms using List.reverseRecOn generalizing u with
  | nil => simp
  | append_singleton ms a ih =>
    rw [← List.append_assoc, snoc_iff]
    constructor
    · rintro ⟨t, hrun, ha⟩
      obtain ⟨t', h₁, h₂⟩ := ih.1 hrun
      exact ⟨t', h₁, snoc h₂ ha⟩
    · rintro ⟨t', h₁, h₂⟩
      obtain ⟨t, h₂, ha⟩ := snoc_iff.1 h₂
      exact ⟨t, ih.2 ⟨t', h₁, h₂⟩, ha⟩

theorem cons (ha : step s a t) (h : Run step t ls u) : Run step s (a :: ls) u :=
  (append_iff : Run step s ([a] ++ ls) u ↔ _).2 ⟨t, snoc nil ha, h⟩

end Run

end Lib
