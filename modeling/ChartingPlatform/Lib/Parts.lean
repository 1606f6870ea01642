/-
  Parts of a list that are taken by keys, and the sums over them.
-/
import Mathlib

namespace Lib

open List

variable {α κ K : Type} {l : List α}

theorem perm_filter_or {p q : α → Prop} [DecidablePred p] [DecidablePred q]
    (h : ∀ a, p a → ¬ q a) :
    (l.filter fun a => p a ∨ q a) ~ (l.filter fun a => p a) ++ l.filter fun a => q a := by
  induction l with
  | nil => rfl
  | cons a l ih =>
    by_cases hp : p a
    · rw [filter_cons_of_pos (by simpa using Or.inl hp),
        filter_cons_of_pos (by simpa using hp),
        filter_cons_of_neg (by simpa using h a hp), cons_append]
      exact ih.cons a
    · by_cases hq : q a
      · rw [filter_cons_of_pos (by simpa using Or.inr hq),
          filter_cons_of_neg (by simpa using hp), filter_cons_of_pos (by simpa using hq)]
        exact (ih.cons a).trans perm_middle.symm
      · rw [filter_cons_of_neg (by simpa using ⟨hp, hq⟩),
          filter_cons_of_neg (by simpa using hp), filter_cons_of_neg (by simpa using hq)]
        exact ih

/-- **The parts under distinct keys** are the elements with these keys. -/
theorem perm_flatMap_filter [DecidableEq κ] {key : α → κ} {ks : List κ}
    (hn : ks.Nodup) :
    (ks.flatMap fun k => l.filter fun a => key a = k) ~ l.filter fun a => key a ∈ ks := by
  induction ks with
  | nil => simp
  | cons k ks ih =>
    rw [nodup_cons] at hn
    have hsplit : (l.filter fun a => key a ∈ k :: ks) =
        l.filter fun a => key a = k ∨ key a ∈ ks :=
      filter_congr fun a _ => decide_eq_decide.2 mem_cons
    rw [flatMap_cons, hsplit]
    refine List.Perm.trans ((ih hn.2).append_left _) (perm_filter_or fun a ha hmem => ?_).symm
    exact hn.1 (ha ▸ hmem)

theorem perm_flatMap_filter_all [DecidableEq κ] {key : α → κ} {ks : List κ}
    (hn : ks.Nodup) (hall : ∀ a ∈ l, key a ∈ ks) :
    (ks.flatMap fun k => l.filter fun a => key a = k) ~ l := by
  refine (perm_flatMap_filter hn).trans ?_
  rw [filter_eq_self.2 fun a ha => decide_eq_true (hall a ha)]

section
variable [CommRing K] {w : α → K} {p q : α → Prop} [DecidablePred p] [DecidablePred q]
  {l : List α} {a : α}

theorem sum_map_flatMap {β : Type} {f : α → List β} {w : β → K} :
    ((l.flatMap f).map w).sum = (l.map fun a => ((f a).map w).sum).sum := by
  rw [map_flatMap, flatMap_def, sum_flatten, map_map]
  rfl

theorem sum_filter_cons : (((a :: l).filter fun a => p a).map w).sum =
    (if p a then w a else 0) + ((l.filter fun a => p a).map w).sum := by
  by_cases hp : p a
  · rw [filter_cons_of_pos (by simpa using hp), map_cons, sum_cons, if_pos hp]
  · rw [filter_cons_of_neg (by simpa using hp), if_neg hp, zero_add]

theorem sum_filter_add_sum_filter :
    ((l.filter fun a => p a).map w).sum + ((l.filter fun a => q a).map w).sum +
        ((l.filter fun a => ¬ p a ∧ ¬ q a).map w).sum =
      (l.map w).sum + ((l.filter fun a => p a ∧ q a).map w).sum := by
  induction l with
  | nil => simp
  | cons a l ih =>
    rw [sum_filter_cons, sum_filter_cons, sum_filter_cons, sum_filter_cons, map_cons,
      sum_cons]
    by_cases hp : p a <;> by_cases hq : q a <;>
      simp only [hp, hq, not_true_eq_false, not_false_eq_true, and_true, and_false,
        if_true, if_false] <;>
      linear_combination ih

/-- **Two parts weigh at most the whole** exactly when what is in both weighs at most what is in
neither. -/
theorem add_le_sum_iff [LinearOrder K] [IsStrictOrderedRing K] :
    ((l.filter fun a => p a).map w).sum + ((l.filter fun a => q a).map w).sum ≤ (l.map w).sum ↔
      ((l.filter fun a => p a ∧ q a).map w).sum ≤
        ((l.filter fun a => ¬ p a ∧ ¬ q a).map w).sum := by
  have h := sum_filter_add_sum_filter (w := w) (p := p) (q := q) (l := l)
  constructor
  · intro hle
    linarith
  · intro hle
    linarith

end

end Lib
