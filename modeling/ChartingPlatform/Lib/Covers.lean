/-
  Covering an interval by spans: the walk over spans in their order that stops at the first gap.
-/
import ChartingPlatform.Lib.Sorting

namespace Lib

variable {α κ : Type} [LinearOrder κ] (start stop : α → κ)

def spanSet (a : α) : Set κ := Set.Ico (start a) (stop a)

def walk (bound : κ) : κ → List α → κ × List α
  | cursor, [] => (cursor, [])
  | cursor, a :: as =>
    if stop a ≤ cursor then walk bound cursor as
    else if cursor < start a then (cursor, [])
    else if bound ≤ max cursor (stop a) then (max cursor (stop a), [a])
    else
      let rest := walk bound (max cursor (stop a)) as
      (rest.1, a :: rest.2)

/-- A span that starts where another stops, or later. -/
def Follows (a b : α) : Prop := stop a ≤ start b

instance (a b : α) : Decidable (Follows start stop a b) := inferInstanceAs (Decidable (_ ≤ _))

variable {start stop} {l : List α} {a b : α} {cursor bound : κ}

theorem mem_spanSet {t : κ} : t ∈ spanSet start stop a ↔ start a ≤ t ∧ t < stop a := Iff.rfl

theorem Follows.disjoint (h : Follows start stop a b) :
    Disjoint (spanSet start stop a) (spanSet start stop b) :=
  Set.disjoint_left.2 fun _ ha hb => absurd (ha.2.trans_le h) hb.1.not_gt

theorem pairwise_follows (hpos : ∀ a ∈ l, start a < stop a) (h : l.IsChain (Follows start stop)) :
    l.Pairwise (Follows start stop) := by
  induction l with
  | nil => exact .nil
  | cons a l ih =>
    cases l with
    | nil => exact List.pairwise_singleton _ _
    | cons b l =>
      obtain ⟨hab, hchain⟩ := List.isChain_cons_cons.1 h
      have hrest := ih (fun c hc => hpos c (List.mem_cons_of_mem _ hc)) hchain
      refine List.pairwise_cons.2 ⟨fun c hc => ?_, hrest⟩
      rcases List.mem_cons.1 hc with rfl | hc
      · exact hab
      · exact le_trans hab ((hpos b (by simp)).le.trans ((List.pairwise_cons.1 hrest).1 c hc))

/-- **Disjoint spans**: in a sorted list it is enough to compare each with the one before. -/
theorem pairwise_disjoint_iff (hpos : ∀ a ∈ l, start a < stop a)
    (hsorted : l.Pairwise fun a b => start a ≤ start b) :
    l.Pairwise (fun a b => Disjoint (spanSet start stop a) (spanSet start stop b)) ↔
      l.IsChain (Follows start stop) := by
  constructor
  · intro h
    refine ((h.and hsorted).imp_of_mem fun {a b} ha hb hab => ?_).isChain
    by_contra hlt
    have hlt : start b < stop a := not_le.1 hlt
    exact Set.disjoint_left.1 hab.1 (mem_spanSet.2 ⟨hab.2, hlt⟩)
      (mem_spanSet.2 ⟨le_rfl, hpos b hb⟩)
  · intro h
    exact (pairwise_follows hpos h).imp fun h => h.disjoint

/-- **The walk** reaches the bound exactly when the spans cover the interval, and then it has
    visited all of them. -/
theorem walk_covers (hlt : cursor < bound) (hpos : ∀ a ∈ l, start a < stop a)
    (hleft : ∀ a ∈ l, cursor < stop a) (hright : ∀ a ∈ l, start a < bound)
    (hfollows : l.Pairwise (Follows start stop)) :
    (bound ≤ (walk start stop bound cursor l).1 ↔
      Set.Ico cursor bound ⊆ ⋃ a ∈ l, spanSet start stop a) ∧
    (bound ≤ (walk start stop bound cursor l).1 → (walk start stop bound cursor l).2 = l) := by
  induction l generalizing cursor with
  | nil =>
    refine ⟨⟨fun h => absurd hlt h.not_gt, fun h => ?_⟩, fun h => absurd hlt (not_lt.2 h)⟩
    simpa using h ⟨le_rfl, hlt⟩
  | cons a l ih =>
    obtain ⟨hfirst, hrest⟩ := List.pairwise_cons.1 hfollows
    have hstop := hleft a List.mem_cons_self
    rw [walk, if_neg hstop.not_ge]
    by_cases hgap : cursor < start a
    · -- the cursor itself is in no span
      rw [if_pos hgap]
      refine ⟨⟨fun h => absurd hlt h.not_gt, fun h => ?_⟩, fun h => absurd hlt (not_lt.2 h)⟩
      obtain ⟨b, hb, hmem⟩ := Set.mem_iUnion₂.1 (h ⟨le_rfl, hlt⟩)
      rcases List.mem_cons.1 hb with rfl | hb
      · exact absurd hgap hmem.1.not_gt
      · exact absurd ((hpos a List.mem_cons_self).trans_le (hfirst b hb))
          (hmem.1.trans_lt hgap).not_gt
    · rw [if_neg hgap, max_eq_right hstop.le]
      have hcover : spanSet start stop a ⊇ Set.Ico cursor (stop a) :=
        fun t ht => ⟨(not_lt.1 hgap).trans ht.1, ht.2⟩
      by_cases hend : bound ≤ stop a
      · rw [if_pos hend]
        refine ⟨⟨fun _ t ht => Set.mem_iUnion₂.2 ⟨a, List.mem_cons_self,
          hcover ⟨ht.1, ht.2.trans_le hend⟩⟩, fun _ => hend⟩, fun _ => ?_⟩
        cases l with
        | nil => rfl
        | cons b l =>
          have hb : stop a ≤ start b := hfirst b List.mem_cons_self
          exact absurd (hright b (by simp)) (hend.trans hb).not_gt
      · rw [if_neg hend]
        obtain ⟨hiff, hall⟩ := ih (not_le.1 hend) (fun b hb => hpos b (List.mem_cons_of_mem _ hb))
          (fun b hb => (hfirst b hb).trans_lt (hpos b (List.mem_cons_of_mem _ hb)))
          (fun b hb => hright b (List.mem_cons_of_mem _ hb)) hrest
        refine ⟨hiff.trans ⟨fun h t ht => ?_, fun h t ht => ?_⟩, fun h => ?_⟩
        · rw [Set.mem_iUnion₂]
          by_cases hta : t < stop a
          · exact ⟨a, List.mem_cons_self, hcover ⟨ht.1, hta⟩⟩
          · obtain ⟨b, hb, hmem⟩ := Set.mem_iUnion₂.1 (h ⟨not_lt.1 hta, ht.2⟩)
            exact ⟨b, List.mem_cons_of_mem _ hb, hmem⟩
        · obtain ⟨b, hb, hmem⟩ := Set.mem_iUnion₂.1 (h ⟨hstop.le.trans ht.1, ht.2⟩)
          rcases List.mem_cons.1 hb with rfl | hb
          · exact absurd hmem.2 ht.1.not_gt
          · exact Set.mem_iUnion₂.2 ⟨b, hb, hmem⟩
        · exact congrArg (a :: ·) (hall h)

end Lib
