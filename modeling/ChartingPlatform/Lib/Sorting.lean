/-
  Stable sorting by a key, as Python's `sorted(xs, key=...)`, and the sorted
  listing of a finite set.
-/
import Mathlib

namespace Lib

open List

variable {α κ : Type} [LinearOrder κ]

def sortBy (key : α → κ) (l : List α) : List α := l.insertionSort fun a b => key a ≤ key b

section
variable (key : α → κ)

theorem perm_sortBy (l : List α) : sortBy key l ~ l := perm_insertionSort _ l

@[simp] theorem mem_sortBy {l : List α} {a : α} : a ∈ sortBy key l ↔ a ∈ l :=
  (perm_sortBy key l).mem_iff

theorem pairwise_sortBy (l : List α) : (sortBy key l).Pairwise fun a b => key a ≤ key b :=
  have : Std.Total fun a b : α => key a ≤ key b := ⟨fun a b => le_total (key a) (key b)⟩
  have : IsTrans α fun a b => key a ≤ key b := ⟨fun _ _ _ => le_trans⟩
  pairwise_insertionSort _ l

end

variable {key : α → κ} {l : List α}

/-- **Sorting forgets the order of the input** where the key is injective. -/
theorem sortBy_eq_of_perm {l' : List α} (h : l ~ l')
    (hinj : ∀ a ∈ l, ∀ b ∈ l, key a = key b → a = b) : sortBy key l = sortBy key l' := by
  have hp : sortBy key l ~ sortBy key l' :=
    ((perm_sortBy key l).trans h).trans (perm_sortBy key l').symm
  refine hp.eq_of_pairwise ?_ (pairwise_sortBy key l) (pairwise_sortBy key l')
  intro a b ha hb hab hba
  rw [mem_sortBy] at ha hb
  exact hinj a ha b (h.mem_iff.2 hb) (le_antisymm hab hba)

theorem sortBy_of_pairwise (h : l.Pairwise fun a b => key a < key b) :
    sortBy key l = l :=
  List.Pairwise.insertionSort_eq (h.imp fun hab => le_of_lt hab)

theorem pairwise_lt_sortBy (h : (l.map key).Nodup) :
    (sortBy key l).Pairwise fun a b => key a < key b := by
  have hn : ((sortBy key l).map key).Nodup := ((perm_sortBy key l).map key).nodup_iff.2 h
  have hne : (sortBy key l).Pairwise fun a b => key a ≠ key b := by
    simpa [List.Nodup, pairwise_map] using hn
  exact (pairwise_sortBy key l).imp₂ (fun _ _ hle hlt => lt_of_le_of_ne hle hlt) hne

theorem map_sortBy {β : Type} (f : α → β) (key : β → κ) (l : List α) :
    (sortBy (fun a => key (f a)) l).map f = sortBy key (l.map f) :=
  map_insertionSort _ _ f l fun _ _ _ _ => Iff.rfl

theorem filter_orderedInsert (q : α → Bool) (a : α) {m : List α}
    (hm : m.Pairwise fun a b => key a ≤ key b) :
    (m.orderedInsert (fun a b => key a ≤ key b) a).filter q =
      if q a then (m.filter q).orderedInsert (fun a b => key a ≤ key b) a else m.filter q := by
  induction m with
  | nil => by_cases ha : q a <;> simp [ha]
  | cons b m ih =>
    rw [pairwise_cons] at hm
    rw [orderedInsert_cons]
    split_ifs with hab ha ha
    · -- `a` goes first, and before all that is left of the list.
      rw [filter_cons_of_pos ha]
      cases hrest : (b :: m).filter q with
      | nil => rfl
      | cons b' m' =>
        have hb' : b' ∈ b :: m := mem_of_mem_filter (hrest ▸ mem_cons_self)
        have hle : key a ≤ key b' := by
          rcases mem_cons.1 hb' with rfl | hb'
          · exact hab
          · exact hab.trans (hm.1 b' hb')
        rw [orderedInsert_cons, if_pos hle]
    · rw [filter_cons_of_neg ha]
    · by_cases hb : q b
      · rw [filter_cons_of_pos hb, filter_cons_of_pos hb, ih hm.2, if_pos ha,
          orderedInsert_cons, if_neg hab]
      · rw [filter_cons_of_neg hb, filter_cons_of_neg hb, ih hm.2, if_pos ha]
    · by_cases hb : q b
      · rw [filter_cons_of_pos hb, filter_cons_of_pos hb, ih hm.2, if_neg ha]
      · rw [filter_cons_of_neg hb, filter_cons_of_neg hb, ih hm.2, if_neg ha]

theorem filter_sortBy (q : α → Bool) (l : List α) :
    (sortBy key l).filter q = sortBy key (l.filter q) := by
  induction l with
  | nil => rfl
  | cons a l ih =>
    rw [show sortBy key (a :: l) = (sortBy key l).orderedInsert (fun a b => key a ≤ key b) a
      from rfl, filter_orderedInsert q a (pairwise_sortBy key l), ih]
    by_cases ha : q a
    · rw [if_pos ha, filter_cons_of_pos ha]
      rfl
    · rw [if_neg ha, filter_cons_of_neg ha]

theorem nodup_map_of_pairwise_lt (h : l.Pairwise fun a b => key a < key b) :
    (l.map key).Nodup := by
  rw [List.Nodup, pairwise_map]
  exact h.imp fun hab => ne_of_lt hab

theorem perm_of_sortBy_eq {l' : List α} (h : sortBy key l = sortBy key l') : l ~ l' :=
  (perm_sortBy key l).symm.trans (h ▸ perm_sortBy key l')

theorem exists_perm_of_map_perm {β : Type} {f : α → β} {m : List β}
    (h : l.map f ~ m) : ∃ l', l' ~ l ∧ l'.map f = m := by
  have hr : List.Forall₂ (fun b a => f a = b) (l.map f) l := by
    rw [List.forall₂_map_left_iff, List.forall₂_same]
    exact fun _ _ => rfl
  obtain ⟨l', hl', hp⟩ := List.perm_comp_forall₂ h.symm hr
  refine ⟨l', hp, ?_⟩
  clear hp h hr
  induction hl' with
  | nil => rfl
  | cons hab _ ih => rw [map_cons, hab, ih]

/-! ## Listing a finite set -/

/-- The elements of a finite set in increasing order. -/
def sortedList (s : Finset κ) : List κ :=
  Quot.liftOn s.val (sortBy id) fun _ _ h => sortBy_eq_of_perm h fun _ _ _ _ hab => hab

theorem coe_sortedList (s : Finset κ) : (sortedList s : Multiset κ) = s.val := by
  obtain ⟨⟨l⟩, hl⟩ := s
  exact Quot.sound (perm_sortBy id l)

@[simp] theorem mem_sortedList {s : Finset κ} {a : κ} : a ∈ sortedList s ↔ a ∈ s := by
  rw [← Multiset.mem_coe, coe_sortedList, Finset.mem_val]

theorem nodup_sortedList (s : Finset κ) : (sortedList s).Nodup := by
  rw [← Multiset.coe_nodup, coe_sortedList]; exact s.nodup

theorem pairwise_sortedList (s : Finset κ) : (sortedList s).Pairwise (· < ·) := by
  have hle : (sortedList s).Pairwise (· ≤ ·) := by
    obtain ⟨⟨l⟩, hl⟩ := s
    exact pairwise_sortBy id l
  exact hle.imp₂ (fun a b h hne => lt_of_le_of_ne h hne) (nodup_sortedList s)

@[simp] theorem toFinset_sortedList (s : Finset κ) : (sortedList s).toFinset = s := by
  ext a; simp

end Lib
