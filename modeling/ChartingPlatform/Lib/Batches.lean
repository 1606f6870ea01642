/-
  Consecutive elements with one key, in batches.

  `groups key l` numbers the batches of `l`; a batch is closed by the first element
  with another key.
-/
import Mathlib


namespace Lib

open List

variable {α κ : Type} [LinearOrder κ] (key : α → κ)

/-- The batches of a list, after the elements of an open batch. -/
def groupFrom : ℕ → κ → List α → List α → List (ℕ × κ × List α)
  | n, k, cur, [] => [(n, k, cur)]
  | n, k, cur, a :: as =>
    if key a = k then groupFrom n k (cur ++ [a]) as
    else (n, k, cur) :: groupFrom (n + 1) (key a) [a] as

def groups : List α → List (ℕ × κ × List α)
  | [] => []
  | a :: as => groupFrom key 0 (key a) [a] as

variable {key} {n : ℕ} {k t : κ} {l closed cur as : List α} {a : α} {b : ℕ × κ × List α}

theorem groupFrom_cons_of_eq (h : key a = k) :
    groupFrom key n k cur (a :: as) = groupFrom key n k (cur ++ [a]) as := by
  rw [groupFrom, if_pos h]

theorem groupFrom_cons_of_ne (h : key a ≠ k) :
    groupFrom key n k cur (a :: as) = (n, k, cur) :: groupFrom key (n + 1) (key a) [a] as := by
  rw [groupFrom, if_neg h]

/-- What comes before, in and after an open batch of a sorted list. -/
structure Cut (key : α → κ) (k : κ) (closed cur as : List α) : Prop where
  before : ∀ a ∈ closed, key a < k
  inside : ∀ a ∈ cur, key a = k
  after : ∀ a ∈ as, k ≤ key a
  sorted : as.Pairwise fun a b => key a ≤ key b

theorem cut_singleton (h : (a :: as).Pairwise fun a b => key a ≤ key b) :
    Cut key (key a) [] [a] as where
  before := nofun
  inside _ hb := congrArg key (mem_singleton.1 hb)
  after := (pairwise_cons.1 h).1
  sorted := (pairwise_cons.1 h).2

theorem Cut.extend (h : Cut key k closed cur (a :: as)) (ha : key a = k) :
    Cut key k closed (cur ++ [a]) as where
  before := h.before
  inside b hb := by
    rcases mem_append.1 hb with hb | hb
    · exact h.inside b hb
    · rw [mem_singleton.1 hb, ha]
  after b hb := h.after b (mem_cons_of_mem _ hb)
  sorted := (pairwise_cons.1 h.sorted).2

theorem Cut.lt (h : Cut key k closed cur (a :: as)) (ha : key a ≠ k) :
    ∀ b ∈ a :: as, k < key b := by
  intro b hb
  have hlt : k < key a := lt_of_le_of_ne (h.after a mem_cons_self) (Ne.symm ha)
  rcases mem_cons.1 hb with rfl | hb
  · exact hlt
  · exact hlt.trans_le ((pairwise_cons.1 h.sorted).1 b hb)

theorem Cut.close (h : Cut key k closed cur (a :: as)) (ha : key a ≠ k) :
    Cut key (key a) (closed ++ cur) [a] as where
  before b hb := by
    have hlt := h.lt ha a mem_cons_self
    rcases mem_append.1 hb with hb | hb
    · exact (h.before b hb).trans hlt
    · exact (h.inside b hb).symm ▸ hlt
  inside b hb := congrArg key (mem_singleton.1 hb)
  after := (pairwise_cons.1 h.sorted).1
  sorted := (pairwise_cons.1 h.sorted).2

theorem Cut.filter_le (h : Cut key k closed cur as) (hlt : ∀ a ∈ as, k < key a) :
    (closed ++ cur ++ as).filter (fun a => decide (key a ≤ k)) = closed ++ cur := by
  rw [filter_append, filter_eq_self.2, filter_eq_nil_iff.2, append_nil]
  · intro a ha
    simpa using hlt a ha
  · intro a ha
    rcases mem_append.1 ha with ha | ha
    · exact decide_eq_true (h.before a ha).le
    · exact decide_eq_true (h.inside a ha).le

theorem Cut.filter_eq (h : Cut key k closed cur as) (hlt : ∀ a ∈ as, k < key a) :
    (closed ++ cur ++ as).filter (fun a => decide (key a = k)) = cur := by
  rw [filter_append, filter_append, filter_eq_nil_iff.2, filter_eq_self.2,
    filter_eq_nil_iff.2, append_nil, nil_append]
  · intro a ha
    simpa using (hlt a ha).ne'
  · intro a ha
    exact decide_eq_true (h.inside a ha)
  · intro a ha
    simpa using (h.before a ha).ne

/-- **A batch is all of a sorted list with its key.** -/
theorem mem_groupFrom (h : Cut key k closed cur as) (hne : cur ≠ [])
    (hb : b ∈ groupFrom key n k cur as) :
    b.2.2 = (closed ++ cur ++ as).filter (fun a => decide (key a = b.2.1)) ∧ b.2.2 ≠ [] ∧
      k ≤ b.2.1 := by
  induction as generalizing n k closed cur with
  | nil =>
    rw [groupFrom, mem_singleton] at hb
    rw [hb]
    exact ⟨(h.filter_eq nofun).symm, hne, le_rfl⟩
  | cons a as ih =>
    by_cases ha : key a = k
    · rw [groupFrom_cons_of_eq ha] at hb
      have hdone := ih (h.extend ha) (append_ne_nil_of_right_ne_nil _ (cons_ne_nil _ _)) hb
      rwa [append_assoc, append_assoc, singleton_append, ← append_assoc]
        at hdone
    · rw [groupFrom_cons_of_ne ha] at hb
      rcases mem_cons.1 hb with rfl | hb
      · exact ⟨(h.filter_eq (h.lt ha)).symm, hne, le_rfl⟩
      · obtain ⟨hitems, hitems_ne, hle⟩ := ih (h.close ha) (cons_ne_nil _ _) hb
        rw [append_assoc, singleton_append] at hitems
        exact ⟨hitems, hitems_ne, (h.lt ha a mem_cons_self).le.trans hle⟩

theorem exists_prefix_groupFrom : ∃ b ∈ groupFrom key n k cur as, cur <+: b.2.2 := by
  induction as generalizing cur with
  | nil => exact ⟨_, mem_singleton_self _, prefix_rfl⟩
  | cons a as ih =>
    by_cases ha : key a = k
    · rw [groupFrom_cons_of_eq ha]
      obtain ⟨b, hb, hprefix⟩ := @ih (cur ++ [a])
      exact ⟨b, hb, (prefix_append _ _).trans hprefix⟩
    · rw [groupFrom_cons_of_ne ha]
      exact ⟨_, mem_cons_self, prefix_rfl⟩

theorem map_index_groupFrom :
    (groupFrom key n k cur as).map Prod.fst =
      List.range' n (groupFrom key n k cur as).length := by
  induction as generalizing n k cur with
  | nil => rfl
  | cons a as ih =>
    by_cases ha : key a = k
    · rw [groupFrom_cons_of_eq ha]
      exact ih
    · rw [groupFrom_cons_of_ne ha, map_cons, length_cons, range'_succ, ih]

theorem groupFrom_filter (h : Cut key k closed cur as) (hne : cur ≠ []) (hle : k ≤ t) :
    groupFrom key n k cur (as.filter fun a => decide (key a ≤ t)) =
      (groupFrom key n k cur as).filter fun b => decide (b.2.1 ≤ t) := by
  induction as generalizing n k closed cur with
  | nil =>
    rw [filter_nil, groupFrom, filter_cons_of_pos (by simpa using hle), filter_nil]
  | cons a as ih =>
    by_cases ha : key a = k
    · have hat : key a ≤ t := ha.trans_le hle
      rw [filter_cons_of_pos (by simpa using hat), groupFrom_cons_of_eq ha,
        groupFrom_cons_of_eq ha]
      exact ih (h.extend ha) (append_ne_nil_of_right_ne_nil _ (cons_ne_nil _ _)) hle
    · have hfirst : ∀ bs : List (ℕ × κ × List α),
          ((n, k, cur) :: bs).filter (fun b => decide (b.2.1 ≤ t)) =
            (n, k, cur) :: bs.filter fun b => decide (b.2.1 ≤ t) :=
        fun bs => filter_cons_of_pos (decide_eq_true hle)
      rw [groupFrom_cons_of_ne ha, hfirst]
      by_cases hat : key a ≤ t
      · rw [filter_cons_of_pos (by simpa using hat), groupFrom_cons_of_ne ha,
          ih (h.close ha) (cons_ne_nil _ _) hat]
      · have hlater : ∀ b ∈ a :: as, ¬ key b ≤ t := by
          intro b hb
          rcases mem_cons.1 hb with rfl | hb
          · exact hat
          · exact fun hbt => hat (((pairwise_cons.1 h.sorted).1 b hb).trans hbt)
        have hnone : (groupFrom key (n + 1) (key a) [a] as).filter
            (fun b => decide (b.2.1 ≤ t)) = [] := by
          rw [filter_eq_nil_iff]
          intro b hb
          obtain ⟨-, -, hkey⟩ := mem_groupFrom (h.close ha) (cons_ne_nil _ _) hb
          simpa using lt_of_lt_of_le (not_le.1 hat) hkey
        rw [hnone, filter_eq_nil_iff.2 fun b hb => by simpa using hlater b hb, groupFrom]

/-- **The batches up to a key are those of the elements up to it.** -/
theorem groups_filter (h : l.Pairwise fun a b => key a ≤ key b) :
    groups key (l.filter fun a => decide (key a ≤ t)) =
      (groups key l).filter fun b => decide (b.2.1 ≤ t) := by
  cases l with
  | nil => rfl
  | cons a as =>
    have hcut := cut_singleton h
    by_cases hat : key a ≤ t
    · rw [filter_cons_of_pos (by simpa using hat), groups, groups]
      exact groupFrom_filter hcut (cons_ne_nil _ _) hat
    · have hnone : ∀ b ∈ groups key (a :: as), ¬ b.2.1 ≤ t := by
        intro b hb
        obtain ⟨-, -, hkey⟩ := mem_groupFrom hcut (cons_ne_nil _ _) hb
        exact not_le.2 ((not_le.1 hat).trans_le hkey)
      have hlater : ∀ b ∈ a :: as, ¬ key b ≤ t := by
        intro b hb
        rcases mem_cons.1 hb with rfl | hb
        · exact hat
        · exact fun hbt => hat (((pairwise_cons.1 h).1 b hb).trans hbt)
      rw [filter_eq_nil_iff.2 fun b hb => by simpa using hlater b hb,
        filter_eq_nil_iff.2 fun b hb => by simpa using hnone b hb, groups]

theorem mem_groups (h : l.Pairwise fun a b => key a ≤ key b) (hb : b ∈ groups key l) :
    b.2.2 = l.filter (fun a => decide (key a = b.2.1)) ∧ b.2.2 ≠ [] := by
  cases l with
  | nil => exact absurd hb not_mem_nil
  | cons a as =>
    obtain ⟨hitems, hne, -⟩ := mem_groupFrom (cut_singleton h) (cons_ne_nil _ _) hb
    exact ⟨hitems, hne⟩

theorem flatMap_groupFrom : (groupFrom key n k cur as).flatMap (·.2.2) = cur ++ as := by
  induction as generalizing n k cur with
  | nil => simp [groupFrom]
  | cons a as ih =>
    by_cases ha : key a = k
    · rw [groupFrom_cons_of_eq ha, ih, append_assoc, singleton_append]
    · rw [groupFrom_cons_of_ne ha, flatMap_cons, ih, singleton_append]

theorem flatMap_groups : (groups key l).flatMap (·.2.2) = l := by
  cases l with
  | nil => rfl
  | cons a as => rw [groups, flatMap_groupFrom, singleton_append]

theorem pairwise_groupFrom (h : Cut key k closed cur as) :
    (groupFrom key n k cur as).Pairwise fun b b' => b.2.1 < b'.2.1 := by
  induction as generalizing n k closed cur with
  | nil => exact pairwise_singleton _ _
  | cons a as ih =>
    by_cases ha : key a = k
    · rw [groupFrom_cons_of_eq ha]
      exact ih (h.extend ha)
    · rw [groupFrom_cons_of_ne ha, pairwise_cons]
      refine ⟨fun b hb => ?_, ih (h.close ha)⟩
      obtain ⟨-, -, hle⟩ := mem_groupFrom (h.close ha) (cons_ne_nil _ _) hb
      exact (h.lt ha a mem_cons_self).trans_le hle

theorem pairwise_groups (h : l.Pairwise fun a b => key a ≤ key b) :
    (groups key l).Pairwise fun b b' => b.2.1 < b'.2.1 := by
  cases l with
  | nil => exact List.Pairwise.nil
  | cons a as => exact pairwise_groupFrom (cut_singleton h)

theorem map_index_groups : (groups key l).map Prod.fst = List.range (groups key l).length := by
  cases l with
  | nil => rfl
  | cons a as => rw [groups, map_index_groupFrom, range_eq_range']

theorem takeWhile_eq_filter {q : α → Bool} (h : l.Pairwise fun a b => q b = true → q a = true) :
    l.takeWhile q = l.filter q := by
  induction l with
  | nil => rfl
  | cons a as ih =>
    rw [pairwise_cons] at h
    by_cases ha : q a = true
    · rw [takeWhile_cons_of_pos ha, filter_cons_of_pos ha, ih h.2]
    · rw [takeWhile_cons_of_neg ha, filter_cons_of_neg ha, filter_eq_nil_iff.2]
      exact fun b hb hq => ha (h.1 b hb hq)

theorem filter_append_filter_not {q : α → Bool}
    (h : l.Pairwise fun a b => q b = true → q a = true) :
    l.filter q ++ l.filter (fun a => !q a) = l := by
  induction l with
  | nil => rfl
  | cons a as ih =>
    rw [pairwise_cons] at h
    by_cases ha : q a = true
    · rw [filter_cons_of_pos ha, filter_cons_of_neg (by simpa using ha),
        cons_append, ih h.2]
    · have hnone : ∀ b ∈ a :: as, ¬ q b = true := by
        intro b hb hq
        rcases mem_cons.1 hb with rfl | hb
        · exact ha hq
        · exact ha (h.1 b hb hq)
      rw [filter_eq_nil_iff.2 hnone, nil_append, filter_eq_self]
      exact fun b hb => by simpa using hnone b hb

end Lib
