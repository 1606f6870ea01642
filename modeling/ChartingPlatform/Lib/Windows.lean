/-
  Bounded windows: the last elements of a list, for each key.

  A bounded queue keeps the last `n` elements of what was appended to it
  (`List.rtake`).  `windows` is what one queue for each key holds after a list.
-/
import Mathlib.Data.List.DropRight
import Mathlib.Data.List.Infix
import Mathlib.Logic.Function.Basic
import Mathlib.Tactic.Common

namespace Lib

open List

variable {α κ : Type} {l m : List α} {n k : ℕ} {a : α}

/-! ## The end of a list -/

theorem rtake_suffix (n : ℕ) (l : List α) : l.rtake n <:+ l := drop_suffix _ _

theorem length_rtake (n : ℕ) (l : List α) : (l.rtake n).length = min n l.length := by
  rw [List.rtake, length_drop]
  omega

theorem rtake_of_length_le (h : l.length ≤ n) : l.rtake n = l := by
  rw [List.rtake, Nat.sub_eq_zero_of_le h, drop_zero]

theorem rtake_append (n : ℕ) (l m : List α) :
    (l ++ m).rtake n = l.rtake (n - m.length) ++ m.rtake n := by
  have hm : l.length + m.length - n - l.length = m.length - n := by omega
  rw [List.rtake, drop_append, length_append, hm]
  congr 1
  by_cases h : n ≤ m.length
  · rw [Nat.sub_eq_zero_of_le h, rtake_zero, drop_eq_nil_of_le (by omega)]
  · rw [List.rtake]
    congr 1
    omega

theorem rtake_rtake (n k : ℕ) (l : List α) : (l.rtake n).rtake k = l.rtake (min k n) := by
  rw [List.rtake, List.rtake, List.rtake, drop_drop, length_drop]
  congr 1
  omega

theorem rtake_append_rtake (n : ℕ) (l m : List α) :
    (l.rtake n ++ m).rtake n = (l ++ m).rtake n := by
  rw [rtake_append, rtake_append, rtake_rtake, min_eq_left (Nat.sub_le _ _)]

/-! ## Windows by key -/

section
variable [DecidableEq κ] (key : α → κ) (bound : κ → ℕ)

/-- The elements with the key `i`. -/
def ofKey (i : κ) (l : List α) : List α := l.filter fun a => decide (key a = i)

/-- The window of each key: its last `bound` elements. -/
def windows (l : List α) (i : κ) : List α := (ofKey key i l).rtake (bound i)

def observe (w : κ → List α) (a : α) : κ → List α :=
  Function.update w (key a) ((w (key a) ++ [a]).rtake (bound (key a)))

def retained : List α → List α
  | [] => []
  | a :: l => if (ofKey key (key a) l).length < bound (key a) then a :: retained l else retained l

variable {key bound} {i : κ}

@[simp] theorem ofKey_nil : ofKey key i [] = [] := rfl

@[simp] theorem ofKey_append : ofKey key i (l ++ m) = ofKey key i l ++ ofKey key i m :=
  filter_append l m

theorem ofKey_cons : ofKey key i (a :: l) =
    if key a = i then a :: ofKey key i l else ofKey key i l := by
  by_cases h : key a = i
  · rw [if_pos h, ofKey, filter_cons_of_pos (by simpa using h)]
    rfl
  · rw [if_neg h, ofKey, filter_cons_of_neg (by simpa using h)]
    rfl

theorem mem_ofKey : a ∈ ofKey key i l ↔ a ∈ l ∧ key a = i := by
  simp [ofKey]

@[simp] theorem windows_nil : windows key bound [] = fun _ => [] := by
  funext i
  exact rtake_nil _

theorem mem_of_mem_windows (h : a ∈ windows key bound l i) : a ∈ l ∧ key a = i :=
  mem_ofKey.1 ((rtake_suffix _ _).subset h)

theorem length_windows_le : (windows key bound l i).length ≤ bound i := by
  rw [windows, length_rtake]
  exact min_le_left _ _

theorem windows_sublist : (windows key bound l i).Sublist l :=
  (rtake_suffix _ _).sublist.trans filter_sublist

/-- **An element joins the window of its key.** -/
theorem windows_append_singleton :
    windows key bound (l ++ [a]) = observe key bound (windows key bound l) a := by
  funext i
  by_cases h : i = key a
  · subst h
    rw [observe, Function.update_self, windows, windows, rtake_append_rtake, ofKey_append,
      ofKey_cons, if_pos rfl, ofKey_nil]
  · rw [observe, Function.update_of_ne h, windows, windows, ofKey_append, ofKey_cons,
      if_neg (Ne.symm h), ofKey_nil, append_nil]

theorem windows_append :
    windows key bound (l ++ m) = m.foldl (observe key bound) (windows key bound l) := by
  induction m generalizing l with
  | nil => rw [append_nil, foldl_nil]
  | cons a m ih =>
    rw [append_cons, ih, foldl_cons, windows_append_singleton]

theorem retained_sublist : (retained key bound l).Sublist l := by
  induction l with
  | nil => exact List.Sublist.refl _
  | cons a l ih =>
    rw [retained]
    split_ifs
    · exact ih.cons_cons a
    · exact ih.cons a

theorem ofKey_retained : ofKey key i (retained key bound l) = windows key bound l i := by
  induction l with
  | nil => exact (rtake_nil _).symm
  | cons a l ih =>
    rw [windows, ofKey_cons, retained]
    by_cases h : key a = i
    · subst h
      have hend : (a :: ofKey key (key a) l).rtake (bound (key a)) =
          [a].rtake (bound (key a) - (ofKey key (key a) l).length) ++
            windows key bound l (key a) := rtake_append _ [a] _
      rw [if_pos rfl, hend]
      by_cases hlt : (ofKey key (key a) l).length < bound (key a)
      · rw [if_pos hlt, ofKey_cons, if_pos rfl, ih, rtake_of_length_le (by simp; omega)]
        rfl
      · rw [if_neg hlt, ih, Nat.sub_eq_zero_of_le (by omega), rtake_zero, nil_append]
    · rw [if_neg h]
      split_ifs
      · rw [ofKey_cons, if_neg h, ih]
        rfl
      · exact ih

theorem ofKey_map {β : Type} {f : β → α} {l : List β} :
    ofKey key i (l.map f) = (ofKey (fun b => key (f b)) i l).map f := filter_map

theorem retained_map {β : Type} {f : β → α} {l : List β} :
    retained key bound (l.map f) = (retained (fun b => key (f b)) bound l).map f := by
  induction l with
  | nil => rfl
  | cons b l ih =>
    rw [map_cons, retained, retained, ofKey_map, length_map, ih]
    split_ifs
    · rw [map_cons]
    · rfl

theorem getLast?_retained (h : ∀ a ∈ l, 0 < bound (key a)) :
    (retained key bound l).getLast? = l.getLast? := by
  induction l with
  | nil => rfl
  | cons a l ih =>
    have ih := ih fun b hb => h b (mem_cons_of_mem _ hb)
    rcases eq_nil_or_concat' l with rfl | ⟨init, b, rfl⟩
    · rw [retained, if_pos (by simpa using h a mem_cons_self)]
      rfl
    · rw [getLast?_concat] at ih
      have hlast : (a :: (init ++ [b])).getLast? = some b := by
        rw [← cons_append, getLast?_concat]
      rw [hlast, retained]
      split_ifs
      · rw [getLast?_cons, ih]
        rfl
      · exact ih

/-- **The retained elements have the same windows.** -/
theorem windows_retained : windows key bound (retained key bound l) = windows key bound l := by
  funext i
  rw [windows, ofKey_retained]
  exact rtake_of_length_le length_windows_le

end

end Lib
