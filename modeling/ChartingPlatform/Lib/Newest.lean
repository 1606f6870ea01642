/-
  The only row of a query (`onlyRow`), and the rows with the greatest key (`newest`).
-/
import ChartingPlatform.Lib.Latest

namespace Lib

open List

variable {α κ : Type} [LinearOrder κ] {key : α → κ} {l l' : List α} {a : α}

/-! ## The only row -/

def onlyRow : List α → Option α
  | [a] => some a
  | _ => none

@[simp] theorem onlyRow_eq_some : onlyRow l = some a ↔ l = [a] := by
  match l with
  | [] => simp [onlyRow]
  | [b] => simp [onlyRow]
  | b :: c :: l => simp [onlyRow]

theorem onlyRow_perm (h : l ~ l') : onlyRow l = onlyRow l' := by
  refine Option.ext fun a => ?_
  rw [onlyRow_eq_some, onlyRow_eq_some]
  constructor
  · rintro rfl
    exact (singleton_perm.1 h).symm
  · rintro rfl
    exact perm_singleton.1 h

/-! ## The rows with the greatest key -/

/-- The rows that share the greatest key, as a sort in descending order finds them. -/
def newest (key : α → κ) (l : List α) : List α :=
  match sortBy (fun a => OrderDual.toDual (key a)) l with
  | [] => []
  | b :: sorted => (b :: sorted).filter fun a => key a = key b

/-- **The newest rows** are those that no row exceeds. -/
theorem mem_newest : a ∈ newest key l ↔ a ∈ l ∧ ∀ b ∈ l, key b ≤ key a := by
  have hperm := perm_sortBy (fun a => OrderDual.toDual (key a)) l
  have hpairwise := pairwise_sortBy (fun a => OrderDual.toDual (key a)) l
  rw [newest]
  generalize sortBy (fun a => OrderDual.toDual (key a)) l = sorted at hperm hpairwise
  cases sorted with
  | nil =>
    rw [nil_perm.1 hperm]
    simp
  | cons b sorted =>
    have hgreatest : ∀ x ∈ l, key x ≤ key b := by
      intro x hx
      rcases mem_cons.1 (hperm.mem_iff.2 hx) with rfl | hx
      · exact le_rfl
      · exact OrderDual.toDual_le_toDual.1 ((pairwise_cons.1 hpairwise).1 x hx)
    have hb : b ∈ l := hperm.mem_iff.1 mem_cons_self
    simp only [mem_filter, hperm.mem_iff, decide_eq_true_eq]
    constructor
    · rintro ⟨ha, heq⟩
      exact ⟨ha, fun x hx => heq ▸ hgreatest x hx⟩
    · rintro ⟨ha, hall⟩
      exact ⟨ha, le_antisymm (hgreatest a ha) (hall b hb)⟩

/-- **The order of the rows** does not matter. -/
theorem newest_perm (h : l ~ l') : newest key l ~ newest key l' := by
  have hfilter : ∀ m : List α, newest key m ~ m.filter fun a => ∀ b ∈ m, key b ≤ key a := by
    intro m
    have hperm := perm_sortBy (fun a => OrderDual.toDual (key a)) m
    have hmem : ∀ a, a ∈ newest key m ↔ a ∈ m ∧ ∀ b ∈ m, key b ≤ key a := fun _ => mem_newest
    rw [newest] at hmem ⊢
    generalize sortBy (fun a => OrderDual.toDual (key a)) m = sorted at hperm hmem
    cases sorted with
    | nil =>
      rw [nil_perm.1 hperm]
      exact List.Perm.refl _
    | cons b sorted =>
      refine (hperm.filter _).trans (List.Perm.of_eq (filter_congr fun a ha => ?_))
      have := hmem a
      simp only [mem_filter, hperm.mem_iff, ha, true_and, decide_eq_true_eq] at this
      exact decide_eq_decide.2 this
  refine (hfilter l).trans (((h.filter _).trans (List.Perm.of_eq ?_)).trans (hfilter l').symm)
  refine filter_congr fun a _ => decide_eq_decide.2 ?_
  exact forall_congr' fun b => by rw [h.mem_iff]

@[simp] theorem newest_singleton : newest key [a] = [a] := by
  simp [newest, sortBy]

end Lib
