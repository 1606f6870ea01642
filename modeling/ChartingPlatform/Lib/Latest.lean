/-
  The rows with the largest keys: `ORDER BY key DESC LIMIT n`.

  Rows with equal keys come in the order of the table.
-/
import ChartingPlatform.Lib.Sorting

namespace Lib

open List

variable {α κ : Type} [LinearOrder κ] {key : α → κ} {n : ℕ} {l : List α} {q : α → Bool}

/-- The rows with the largest keys, the largest first. -/
def latest (key : α → κ) (n : ℕ) (l : List α) : List α :=
  (sortBy (fun a => OrderDual.toDual (key a)) l).take n

theorem latest_subset : ∀ a ∈ latest key n l, a ∈ l := by
  intro a ha
  exact (perm_sortBy _ l).subset (mem_of_mem_take ha)

theorem nodup_latest (hl : l.Nodup) : (latest key n l).Nodup :=
  ((perm_sortBy _ l).nodup_iff.2 hl).sublist (take_sublist _ _)

theorem pairwise_latest : (latest key n l).Pairwise fun a b => key b ≤ key a :=
  (pairwise_sortBy (fun a => OrderDual.toDual (key a)) l).sublist (take_sublist _ _)

theorem latest_filter (h : ∀ a ∈ latest key n l, q a = true) :
    latest key n (l.filter q) = latest key n l := by
  rw [latest, ← filter_sortBy]
  have hsplit := take_append_drop n (sortBy (fun a => OrderDual.toDual (key a)) l)
  have hkept : (latest key n l).filter q = latest key n l := filter_eq_self.2 h
  rw [← hsplit, filter_append]
  change ((latest key n l).filter q ++ _).take n = latest key n l
  rw [hkept]
  by_cases hn : n ≤ (sortBy (fun a => OrderDual.toDual (key a)) l).length
  · exact take_left' (length_take_of_le hn)
  · rw [drop_of_length_le (by omega), filter_nil, append_nil]
    exact take_of_length_le (length_take_le _ _)

theorem sortBy_filter_key (k : κ) : (sortBy key l).filter (fun a => decide (key a = k)) =
    l.filter fun a => decide (key a = k) := by
  rw [filter_sortBy, sortBy]
  refine List.Pairwise.insertionSort_eq ?_
  refine pairwise_of_forall_mem_list fun a ha b hb => ?_
  have hak := of_decide_eq_true (mem_filter.1 ha).2
  have hbk := of_decide_eq_true (mem_filter.1 hb).2
  rw [hak, hbk]

theorem eq_of_reverse_eq {a b : α} (hn : l.Nodup) (h : l.reverse = l) (ha : a ∈ l) (hb : b ∈ l) :
    a = b := by
  cases l with
  | nil => cases ha
  | cons c m =>
    cases m with
    | nil => exact (mem_singleton.1 ha).trans (mem_singleton.1 hb).symm
    | cons d m =>
      have hlast : (d :: m).getLast (cons_ne_nil _ _) = c := by
        have hhead := congrArg List.head? h
        rw [head?_reverse, getLast?_cons_cons,
          getLast?_eq_some_getLast (cons_ne_nil _ _)] at hhead
        exact Option.some.inj hhead
      exact absurd (hlast ▸ getLast_mem _) (nodup_cons.1 hn).1

/-- **Listed backwards, the latest rows are in order** exactly when their keys differ. -/
theorem reverse_latest_iff (hl : l.Nodup) :
    (latest key n l).reverse = sortBy key (latest key n l) ↔ ((latest key n l).map key).Nodup := by
  constructor
  · intro h
    rw [List.Nodup, pairwise_map]
    refine (nodup_latest hl).imp_of_mem ?_
    intro a b ha hb hab hkey
    -- The rows with this key are a list that is its own reverse.
    have hsame : (sortBy key (latest key n l)).filter (fun c => decide (key c = key a)) =
        (latest key n l).filter fun c => decide (key c = key a) := sortBy_filter_key (key a)
    rw [← h, filter_reverse] at hsame
    have hn : ((latest key n l).filter fun c => decide (key c = key a)).Nodup :=
      (nodup_latest hl).filter _
    have ha' : a ∈ (latest key n l).filter fun c => decide (key c = key a) :=
      mem_filter.2 ⟨ha, decide_eq_true rfl⟩
    have hb' : b ∈ (latest key n l).filter fun c => decide (key c = key a) :=
      mem_filter.2 ⟨hb, decide_eq_true hkey.symm⟩
    exact hab (eq_of_reverse_eq hn hsame ha' hb')
  · intro h
    have hlt : (latest key n l).reverse.Pairwise fun a b => key a < key b := by
      rw [pairwise_reverse]
      rw [List.Nodup, pairwise_map] at h
      exact pairwise_latest.imp₂ (fun a b hle hne => lt_of_le_of_ne hle (Ne.symm hne)) h
    rw [← sortBy_of_pairwise hlt]
    refine sortBy_eq_of_perm (reverse_perm _) ?_
    intro a ha b hb hab
    rw [mem_reverse] at ha hb
    exact inj_on_of_nodup_map h ha hb hab

end Lib
