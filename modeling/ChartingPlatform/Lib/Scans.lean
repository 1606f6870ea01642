/-
  Scans: a loop over a list that carries a state and may fail at every element.
-/
import ChartingPlatform.Lib.Outcome
import ChartingPlatform.Lib.Runs

namespace Lib

open List

variable {α σ ε : Type} {f : σ → α → Except ε σ} {l : List α} {s : σ}

/-- **A scan succeeds** when every step does, and what its steps keep holds at the end. -/
theorem foldlM_spec {P : List α → σ → Prop} (h₀ : P [] s)
    (hstep : ∀ pre a post u, l = pre ++ a :: post → P pre u →
      ∃ v, f u a = .ok v ∧ P (pre ++ [a]) v) : ∃ t, l.foldlM f s = .ok t ∧ P l t := by
  induction l using List.reverseRecOn with
  | nil => exact ⟨s, rfl, h₀⟩
  | append_singleton l a ih =>
    obtain ⟨u, hu, hP⟩ := ih fun pre b post u hl =>
      hstep pre b (post ++ [a]) u (by rw [hl, append_assoc, cons_append])
    obtain ⟨v, hv, hQ⟩ := hstep l a [] u rfl hP
    exact ⟨v, foldlM_concat_eq_ok.2 ⟨u, hu, hv⟩, hQ⟩

theorem foldlM_keeps {P : σ → Prop} {t : σ} (hstep : ∀ a ∈ l, ∀ u v, P u → f u a = .ok v → P v)
    (hs : P s) (h : l.foldlM f s = .ok t) : P t := by
  induction l generalizing s with
  | nil => exact Except.ok.inj h ▸ hs
  | cons a l ih =>
    rw [foldlM_cons] at h
    obtain ⟨v, hv, h⟩ := bind_eq_ok.1 h
    exact ih (fun b hb => hstep b (mem_cons_of_mem a hb))
      (hstep a mem_cons_self s v hs hv) h

/-- **A scan that fails** does so at one of its elements. -/
theorem foldlM_fails {P : σ → Prop} {e : ε}
    (hstep : ∀ a ∈ l, ∀ u v, P u → f u a = .ok v → P v) (hs : P s)
    (h : l.foldlM f s = .error e) : ∃ a ∈ l, ∃ u, P u ∧ f u a = .error e := by
  induction l generalizing s with
  | nil => cases h
  | cons a l ih =>
    rw [foldlM_cons] at h
    cases hv : f s a with
    | error e' =>
      rw [hv] at h
      obtain rfl := Except.error.inj h
      exact ⟨a, mem_cons_self, s, hs, hv⟩
    | ok v =>
      rw [hv] at h
      obtain ⟨b, hb, hfails⟩ := ih (fun b hb => hstep b (mem_cons_of_mem a hb))
        (hstep a mem_cons_self s v hs hv) h
      exact ⟨b, mem_cons_of_mem a hb, hfails⟩

theorem run_of_foldlM {step : σ → α → Option σ} {u : σ} (h : l.foldlM step s = some u) :
    Run (fun v a w => step v a = some w) s l u := by
  induction l generalizing s with
  | nil =>
    cases h
    exact Run.nil
  | cons a l ih =>
    rw [foldlM_cons] at h
    obtain ⟨v, hv, hl⟩ := Option.bind_eq_some_iff.1 h
    exact Run.cons hv (ih hl)

theorem foldlM_of_run {step : σ → α → Option σ} {u : σ}
    (h : Run (fun v a w => step v a = some w) s l u) : l.foldlM step s = some u := by
  induction h with
  | nil => rfl
  | snoc _ ha ih =>
    rw [foldlM_append, ih]
    simpa using ha

end Lib
