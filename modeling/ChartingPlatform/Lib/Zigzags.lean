/-
  Zigzags: segments that begin where the one before ended and turn at every joint.

  Lists are extended at their end, since a chart is drawn from left to right.
-/
import Mathlib.Data.Sign.Basic
import Mathlib.Data.List.Basic
import Mathlib.Logic.Function.Iterate

namespace Lib

variable {α κ : Type}

/-! ## Connected segments -/

section
variable (start stop : α → κ)

/-- Each segment begins where the one before ended, the first one at a given point. -/
def Connected : κ → List α → Prop
  | _, [] => True
  | c, a :: l => start a = c ∧ Connected (stop a) l

def lastStop (c : κ) (l : List α) : κ := (l.getLast?.map stop).getD c

@[simp] theorem lastStop_nil (c : κ) : lastStop stop c [] = c := rfl

@[simp] theorem lastStop_concat (c : κ) (l : List α) (a : α) :
    lastStop stop c (l ++ [a]) = stop a := by
  simp [lastStop]

theorem lastStop_cons (c : κ) (l : List α) (a : α) :
    lastStop stop c (a :: l) = lastStop stop (stop a) l := by
  rcases l.eq_nil_or_concat with rfl | ⟨l, b, rfl⟩
  · rfl
  · simp [lastStop, List.getLast?_cons]

theorem connected_concat {c : κ} {l : List α} {a : α} :
    Connected start stop c (l ++ [a]) ↔
      Connected start stop c l ∧ start a = lastStop stop c l := by
  induction l generalizing c with
  | nil => simp [Connected]
  | cons b l ih => simp only [List.cons_append, Connected, ih, lastStop_cons, and_assoc]

end

/-! ## Alternating directions -/

def turned (d : SignType) (n : ℕ) : SignType := (fun e => -e)^[n] d

@[simp] theorem turned_zero (d : SignType) : turned d 0 = d := rfl

theorem turned_succ (d : SignType) (n : ℕ) : turned d (n + 1) = -turned d n := by
  rw [turned, Function.iterate_succ_apply']
  rfl

theorem turned_neg (d : SignType) (n : ℕ) : turned (-d) n = -turned d n := by
  rw [← turned_succ, turned, turned, Function.iterate_succ_apply]

theorem turned_ne_zero {d : SignType} (hd : d ≠ 0) (n : ℕ) : turned d n ≠ 0 := by
  induction n with
  | zero => exact hd
  | succ n ih =>
    rw [turned_succ]
    intro h
    exact ih (by rw [← neg_neg (turned d n), h]; rfl)

/-- A condition on every segment in its direction, the directions taking turns. -/
def Alternates (P : SignType → α → Prop) : SignType → List α → Prop
  | _, [] => True
  | d, a :: l => P d a ∧ Alternates P (-d) l

theorem alternates_concat {P : SignType → α → Prop} {d : SignType} {l : List α} {a : α} :
    Alternates P d (l ++ [a]) ↔ Alternates P d l ∧ P (turned d l.length) a := by
  induction l generalizing d with
  | nil => simp [Alternates]
  | cons b l ih =>
    simp only [List.cons_append, Alternates, ih, List.length_cons, turned_succ, turned_neg,
      and_assoc]

end Lib
