/-
  Machines that take an input at a time and may answer it.
-/
import Mathlib.Data.List.Basic

namespace Lib

variable {σ ι ω α : Type} {f : ι → Option α} {s : σ} {i : ι} {is : List ι}

/-- The value of the latest input that has one. -/
def lastSeen (f : ι → Option α) (inputs : List ι) : Option α := (inputs.filterMap f).getLast?

@[simp] theorem lastSeen_nil : lastSeen f [] = none := rfl

@[simp] theorem lastSeen_append_singleton :
    lastSeen f (is ++ [i]) = (f i).or (lastSeen f is) := by
  unfold lastSeen
  rw [List.filterMap_append]
  cases h : f i with
  | none => simp [h]
  | some a => simp [h]

variable (step : σ → ι → σ × Option ω)

/-- The state after some inputs. -/
def stateAfter (s : σ) (inputs : List ι) : σ := inputs.foldl (fun s i => (step s i).1) s

/-- The answers of a run, in order. -/
def answers (s : σ) : List ι → List ω
  | [] => []
  | i :: is => (step s i).2.toList ++ answers (step s i).1 is

@[simp] theorem stateAfter_nil : stateAfter step s [] = s := rfl

@[simp] theorem stateAfter_append_singleton :
    stateAfter step s (is ++ [i]) = (step (stateAfter step s is) i).1 := by
  simp [stateAfter]

variable {step} {Done : σ → Prop}

theorem answers_of_done (hdone : ∀ s i, Done s → step s i = (s, none)) (hs : Done s) :
    answers step s is = [] := by
  induction is with
  | nil => rfl
  | cons i is ih => simpa [answers, hdone s i hs] using ih

/-- **At most one answer** comes from a machine that stops once it has answered. -/
theorem length_answers_le_one (Inv Done : σ → Prop)
    (hdone : ∀ s i, Done s → step s i = (s, none)) (hkeep : ∀ s i, Inv s → Inv (step s i).1)
    (hstop : ∀ s i, Inv s → (step s i).2 ≠ none → Done (step s i).1) (hs : Inv s) :
    (answers step s is).length ≤ 1 := by
  induction is generalizing s with
  | nil => exact Nat.zero_le 1
  | cons i is ih =>
    unfold answers
    cases h : (step s i).2 with
    | none => exact ih (hkeep s i hs)
    | some a => simp [answers_of_done hdone (hstop s i hs (by simp [h]))]

end Lib
