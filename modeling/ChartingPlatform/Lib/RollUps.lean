/-
  Grouping a list in two levels: a list is sorted by a time and grouped under keys, and what
  the groups are replaced by is grouped under coarser keys.
-/
import ChartingPlatform.Lib.Groups
import ChartingPlatform.Lib.Sorting

namespace Lib

open List

/-! ## Sums of pieces -/

section
variable {α β : Type} {op : α → α → α}

def joined (op : α → α → α) : List α → Option α
  | [] => none
  | x :: xs => some (xs.foldl op x)

theorem joined_eq_none {xs : List α} : joined op xs = none ↔ xs = [] := by
  cases xs <;> simp [joined]

theorem joined_append [Std.Associative op] (xs ys : List α) :
    joined op (xs ++ ys) = (joined op xs).merge op (joined op ys) := by
  cases xs with
  | nil => simp [joined]
  | cons x xs =>
    cases ys with
    | nil => simp [joined]
    | cons y ys => simp [joined, foldl_assoc]

theorem joined_cons [Std.Associative op] (x : α) (xs : List α) :
    joined op (x :: xs) = (some x).merge op (joined op xs) := joined_append [x] xs

/-- **The pieces of a list** are joined before or after the list is cut; empty pieces are left
    out. -/
theorem joined_flatMap [Std.Associative op] (f : β → List α) (bs : List β) :
    joined op (bs.flatMap f) = joined op (bs.filterMap fun b => joined op (f b)) := by
  induction bs with
  | nil => rfl
  | cons b bs ih =>
    rw [flatMap_cons, joined_append, ih, filterMap_cons]
    cases joined op (f b) with
    | none => exact Option.merge_none_left
    | some x => exact (joined_cons x _).symm

end

/-! ## Groups in order -/

section
variable {α κ τ : Type} [LinearOrder κ] [LinearOrder τ] {time : α → τ} {key : α → κ}
  {l m m' : List α} {k : κ} {g : κ × List α}

/-- `sorted(grouped.items())`, where the list is sorted by time before it is grouped. -/
def sortedGroups (time : α → τ) (key : α → κ) (l : List α) : List (κ × List α) :=
  sortBy Prod.fst (groupsBy key (sortBy time l))

theorem mem_sortedGroups : g ∈ sortedGroups time key l ↔
    g.2 = (sortBy time l).filter (fun a => key a = g.1) ∧ g.2 ≠ [] := by
  unfold sortedGroups
  rw [mem_sortBy, mem_groupsBy]

theorem pairwise_sortedGroups :
    (sortedGroups time key l).Pairwise fun g g' => g.1 < g'.1 :=
  pairwise_lt_sortBy nodup_groupsBy

theorem perm_sortedGroups : (sortedGroups time key l).flatMap Prod.snd ~ l :=
  ((perm_sortBy Prod.fst _).flatMap_right Prod.snd).trans
    (perm_flatMap_groupsBy.trans (perm_sortBy time l))

variable {gs : List (κ × List α)}

theorem eq_of_mem_groups {gs' : List (κ × List α)} (h : gs.Pairwise fun g g' => g.1 < g'.1)
    (h' : gs'.Pairwise fun g g' => g.1 < g'.1) (hmem : ∀ g, g ∈ gs ↔ g ∈ gs') : gs = gs' := by
  have hnodup : ∀ {gs : List (κ × List α)}, gs.Pairwise (fun g g' => g.1 < g'.1) → gs.Nodup :=
    fun h => h.imp fun hlt heq => hlt.ne (congrArg Prod.fst heq)
  have hperm : gs ~ gs' := (perm_ext_iff_of_nodup (hnodup h) (hnodup h')).2 hmem
  exact hperm.eq_of_pairwise (fun _ _ _ _ hab hba => absurd hab hba.not_gt) h h'

theorem eq_of_filter_eq (h : m.Pairwise fun a b => key a ≤ key b)
    (h' : m'.Pairwise fun a b => key a ≤ key b)
    (hkeys : ∀ k, m.filter (fun a => key a = k) = m'.filter fun a => key a = k) : m = m' := by
  induction m generalizing m' with
  | nil =>
    refine (eq_nil_iff_forall_not_mem.2 fun a ha => ?_).symm
    have hmem : a ∈ m'.filter (fun b => key b = key a) := mem_filter.2 ⟨ha, decide_eq_true rfl⟩
    rw [← hkeys (key a)] at hmem
    cases hmem
  | cons a m ih =>
    have hmem : ∀ x, x ∈ a :: m ↔ x ∈ m' := fun x => by
      have hx := congrArg (x ∈ ·) (hkeys (key x))
      simpa only [mem_filter, decide_true, and_true, eq_iff_iff] using hx
    cases m' with
    | nil => exact absurd ((hmem a).1 mem_cons_self) not_mem_nil
    | cons b m' =>
      rw [pairwise_cons] at h h'
      have hab : key a ≤ key b := (mem_cons.1 ((hmem b).2 mem_cons_self)).elim
        (fun heq => (congrArg key heq).ge) (h.1 b)
      have hba : key b ≤ key a := (mem_cons.1 ((hmem a).1 mem_cons_self)).elim
        (fun heq => (congrArg key heq).ge) (h'.1 a)
      have hk := le_antisymm hab hba
      have hhead := hkeys (key a)
      rw [filter_cons_of_pos (by simp), filter_cons_of_pos (by simp [hk])] at hhead
      obtain ⟨rfl, htail⟩ := List.cons.inj hhead
      rw [ih h.2 h'.2 fun k => ?_]
      by_cases hka : key a = k
      · rw [← hka]
        exact htail
      · have hother := hkeys k
        rwa [filter_cons_of_neg (by simp [hka]), filter_cons_of_neg (by simp [hka])]
          at hother

theorem flatMap_of_key (hgs : gs.Pairwise fun g g' => g.1 < g'.1)
    (hg : g ∈ gs) : (gs.flatMap fun x => if x.1 = g.1 then x.2 else []) = g.2 := by
  induction gs with
  | nil => cases hg
  | cons x gs ih =>
    rw [pairwise_cons] at hgs
    rw [flatMap_cons]
    rcases mem_cons.1 hg with rfl | hg
    · have hrest : (gs.flatMap fun x => if x.1 = g.1 then x.2 else []) = [] :=
        flatMap_eq_nil_iff.2 fun x hx => if_neg (hgs.1 x hx).ne'
      rw [if_pos rfl, hrest, append_nil]
    · rw [if_neg (hgs.1 g hg).ne, ih hgs.2 hg, nil_append]

theorem flatMap_groups_of_sorted (hgs : gs.Pairwise fun g g' => g.1 < g'.1)
    (h : m.Pairwise fun a b => key a ≤ key b)
    (hmem : ∀ g, g ∈ gs ↔ g.2 = m.filter (fun a => key a = g.1) ∧ g.2 ≠ []) :
    gs.flatMap Prod.snd = m := by
  have hkey : ∀ g ∈ gs, ∀ a ∈ g.2, key a = g.1 := fun g hg a ha => by
    rw [((hmem g).1 hg).1] at ha
    exact of_decide_eq_true (mem_filter.1 ha).2
  refine eq_of_filter_eq ?_ h fun k => ?_
  · rw [pairwise_flatMap]
    refine ⟨fun g hg => ?_, hgs.imp_of_mem fun hg hg' hlt a ha b hb => ?_⟩
    · rw [pairwise_iff_forall_sublist]
      intro a b hab
      rw [hkey g hg a (hab.subset (by simp)), hkey g hg b (hab.subset (by simp))]
    · rw [hkey _ hg a ha, hkey _ hg' b hb]
      exact hlt.le
  · have hpieces : (gs.flatMap Prod.snd).filter (fun a => key a = k) =
        gs.flatMap fun g => if g.1 = k then g.2 else [] := by
      rw [filter_flatMap]
      refine flatMap_congr fun g hg => ?_
      split_ifs with hk
      · exact filter_eq_self.2 fun a ha => decide_eq_true ((hkey g hg a ha).trans hk)
      · exact filter_eq_nil_iff.2 fun a ha => by simp [hkey g hg a ha, hk]
    rw [hpieces]
    by_cases hnil : m.filter (fun a => key a = k) = []
    · rw [hnil]
      refine flatMap_eq_nil_iff.2 fun g hg => if_neg fun hk => ((hmem g).1 hg).2 ?_
      rw [((hmem g).1 hg).1, hk, hnil]
    · exact flatMap_of_key (g := (k, m.filter fun a => key a = k)) hgs ((hmem _).2 ⟨rfl, hnil⟩)

omit [LinearOrder κ] in
theorem flatMap_filter {p : κ × List α → Bool} {q : α → Bool} (h : ∀ g ∈ gs, ∀ a ∈ g.2, q a = p g) :
    (gs.filter p).flatMap Prod.snd = (gs.flatMap Prod.snd).filter q := by
  induction gs with
  | nil => rfl
  | cons g gs ih =>
    have hrest := ih fun g' hg' => h g' (mem_cons_of_mem g hg')
    have hg := h g mem_cons_self
    rw [flatMap_cons, filter_append, ← hrest]
    cases hp : p g with
    | true =>
      rw [filter_cons_of_pos hp, flatMap_cons,
        filter_eq_self.2 fun a ha => (hg a ha).trans hp]
    | false =>
      have hnone : g.2.filter q = [] := filter_eq_nil_iff.2 fun a ha => by simp [hg a ha, hp]
      rw [filter_cons_of_neg (by simp [hp]), hnone, nil_append]

/-! ## Groups of groups -/

variable {κ' : Type} [LinearOrder κ'] {coarseKey : α → κ'} {coarse : κ → κ'}
  {reduce : κ × List α → α}

def piecesOf (time : α → τ) (key : α → κ) (coarse : κ → κ') (l : List α) (K : κ') :
    List (κ × List α) :=
  (sortedGroups time key l).filter fun g => coarse g.1 = K

theorem flatMap_piecesOf (hcoarse : ∀ a ∈ l, coarseKey a = coarse (key a))
    (hmono : ∀ a ∈ l, ∀ b ∈ l, coarseKey a = coarseKey b → time a ≤ time b → key a ≤ key b)
    (K : κ') : (piecesOf time key coarse l K).flatMap Prod.snd =
      (sortBy time l).filter fun a => coarseKey a = K := by
  have hsorted : ((sortBy time l).filter fun a => coarseKey a = K).Pairwise
      fun a b => key a ≤ key b := by
    refine ((pairwise_sortBy time l).filter _).imp_of_mem fun ha hb hab => ?_
    obtain ⟨ha, hka⟩ := mem_filter.1 ha
    obtain ⟨hb, hkb⟩ := mem_filter.1 hb
    exact hmono _ ((mem_sortBy time).1 ha) _ ((mem_sortBy time).1 hb)
      ((of_decide_eq_true hka).trans (of_decide_eq_true hkb).symm) hab
  refine flatMap_groups_of_sorted (pairwise_sortedGroups.filter _) hsorted fun g => ?_
  unfold piecesOf
  rw [mem_filter, mem_sortedGroups, decide_eq_true_iff, filter_filter]
  by_cases hK : coarse g.1 = K
  · have hfilter : (sortBy time l).filter (fun a => decide (key a = g.1) && decide (coarseKey a = K)) =
        (sortBy time l).filter fun a => key a = g.1 := by
      refine filter_congr fun a ha => ?_
      by_cases hk : key a = g.1
      · simp [hk, hcoarse a ((mem_sortBy time).1 ha), hK]
      · simp [hk]
    rw [hfilter, and_iff_left hK]
  · refine iff_of_false (fun h => hK h.2) fun ⟨heq, hne⟩ => hne ?_
    rw [heq]
    refine filter_eq_nil_iff.2 fun a ha => ?_
    rw [Bool.and_eq_true, decide_eq_true_iff, decide_eq_true_iff]
    rintro ⟨hk, hc⟩
    rw [hcoarse a ((mem_sortBy time).1 ha), hk] at hc
    exact hK hc

/-- **The groups of the groups.**  Where each group is replaced by one element with the coarse key
    of its own, and these stand in time order, the coarse groups of the elements are those of the
    list with their pieces replaced. -/
theorem sortedGroups_regroup (hcoarse : ∀ a ∈ l, coarseKey a = coarse (key a))
    (hmono : ∀ a ∈ l, ∀ b ∈ l, coarseKey a = coarseKey b → time a ≤ time b → key a ≤ key b)
    (hkey : ∀ g ∈ sortedGroups time key l, coarseKey (reduce g) = coarse g.1)
    (htime : ∀ g ∈ sortedGroups time key l, ∀ g' ∈ sortedGroups time key l, g.1 < g'.1 →
      time (reduce g) ≤ time (reduce g')) :
    sortedGroups time coarseKey ((sortedGroups time key l).map reduce) =
      (sortedGroups time coarseKey l).map fun G =>
        (G.1, (piecesOf time key coarse l G.1).map reduce) := by
  have hsorted : sortBy time ((sortedGroups time key l).map reduce) =
      (sortedGroups time key l).map reduce := by
    refine List.Pairwise.insertionSort_eq ?_
    rw [pairwise_map]
    exact pairwise_sortedGroups.imp_of_mem fun hg hg' hlt => htime _ hg _ hg' hlt
  have hpieces : ∀ K, ((sortedGroups time key l).map reduce).filter (fun a => coarseKey a = K) =
      (piecesOf time key coarse l K).map reduce := fun K => by
    rw [filter_map]
    refine congrArg _ (filter_congr fun g hg => ?_)
    rw [Function.comp_apply, hkey g hg]
  refine eq_of_mem_groups pairwise_sortedGroups ?_ fun g => ?_
  · rw [pairwise_map]
    exact pairwise_sortedGroups
  · rw [mem_sortedGroups, hsorted, hpieces, mem_map]
    have hempty : ∀ K, (piecesOf time key coarse l K).map reduce = [] ↔
        (sortBy time l).filter (fun a => coarseKey a = K) = [] := fun K => by
      rw [← flatMap_piecesOf hcoarse hmono K, map_eq_nil_iff, flatMap_eq_nil_iff]
      constructor
      · intro h g hg
        rw [h] at hg
        cases hg
      · intro h
        refine eq_nil_iff_forall_not_mem.2 fun g hg => ?_
        exact (mem_sortedGroups.1 (mem_filter.1 hg).1).2 (h g hg)
    constructor
    · rintro ⟨heq, hne⟩
      refine ⟨(g.1, (sortBy time l).filter fun a => coarseKey a = g.1),
        mem_sortedGroups.2 ⟨rfl, fun hnil => hne ?_⟩, ?_⟩
      · rw [heq]
        exact (hempty g.1).2 hnil
      · rw [← heq]
    · rintro ⟨G, hG, rfl⟩
      obtain ⟨heq, hne⟩ := mem_sortedGroups.1 hG
      exact ⟨rfl, fun hnil => hne (heq.trans ((hempty G.1).1 hnil))⟩

end

end Lib
