/-
  Guarded computations as the list of what is at fault: the first fault is raised, and a value
  is returned where there is none.
-/
import ChartingPlatform.Lib.Outcome

namespace Lib

variable {α : Type} {faults : List PyError} {a b : α} {e : PyError}

def failing (condition : Prop) [Decidable condition] (error : PyError) : List PyError :=
  if condition then [] else [error]

def answer : List PyError → α → Except PyError α
  | [], a => .ok a
  | e :: _, _ => .error e

@[simp] theorem answer_eq_error : answer faults a = .error e ↔ faults.head? = some e := by
  cases faults <;> simp [answer]

@[simp] theorem answer_eq_ok : answer faults a = .ok b ↔ faults = [] ∧ a = b := by
  cases faults <;> simp [answer]

theorem ensure_bind_answer (condition : Prop) [Decidable condition] (error : PyError) :
    (ensure condition error >>= fun _ => answer faults a) =
      answer (failing condition error ++ faults) a := by
  rw [ensure, failing]
  split_ifs <;> rfl

theorem bind_ensure_bind_answer {x : Except PyError Bool} (error : PyError) :
    (x >>= fun c => ensure (c = true) error >>= fun _ => answer faults a) =
      answer ((match x with
        | .error e => [e]
        | .ok c => failing (c = true) error) ++ faults) a := by
  cases x with
  | error e => rfl
  | ok c => exact ensure_bind_answer _ _

theorem answer_bind_answer {β : Type} {rest : List PyError} {f : α → β} :
    (answer faults a >>= fun a => answer rest (f a)) = answer (faults ++ rest) (f a) := by
  cases faults <;> rfl

end Lib
