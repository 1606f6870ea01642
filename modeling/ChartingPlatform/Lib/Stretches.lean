/-
  Stretches: where things stand in order, each on a span, the longest runs of
  neighbours that a condition keeps, each run as one span.
-/
import Mathlib

namespace Lib

open List

variable {α β : Type} {span : β → α × α} {keep : β → Bool}

/-- The stretches of the rest of a list, where the one before may be open. -/
def stretchesFrom (span : β → α × α) (keep : β → Bool) : Option (α × α) → List β → List (α × α)
  | none, [] => []
  | some s, [] => [s]
  | none, b :: bs =>
    if keep b then stretchesFrom span keep (some (span b)) bs else stretchesFrom span keep none bs
  | some s, b :: bs =>
    if keep b then stretchesFrom span keep (some (s.1, (span b).2)) bs
    else s :: stretchesFrom span keep none bs

def stretches (span : β → α × α) (keep : β → Bool) (bs : List β) : List (α × α) :=
  stretchesFrom span keep none bs

section
variable {o : Option (α × α)} {s t : α × α} {b : β} {bs : List β}

theorem ends_of_mem (h : t ∈ stretchesFrom span keep o bs) :
    ((∃ s, o = some s ∧ t.1 = s.1) ∨ ∃ b ∈ bs, keep b = true ∧ t.1 = (span b).1) ∧
    ((∃ s, o = some s ∧ t.2 = s.2) ∨ ∃ b ∈ bs, keep b = true ∧ t.2 = (span b).2) := by
  fun_induction stretchesFrom span keep o bs with
  | case1 => cases h
  | case2 s =>
    obtain rfl := mem_singleton.1 h
    exact ⟨.inl ⟨_, rfl, rfl⟩, .inl ⟨_, rfl, rfl⟩⟩
  | case3 b bs hb ih =>
    obtain ⟨hstart, hstop⟩ := ih h
    constructor
    · rcases hstart with ⟨s, hs, h⟩ | ⟨c, hc, h⟩
      · obtain rfl := Option.some.inj hs
        exact .inr ⟨b, mem_cons_self, hb, h⟩
      · exact .inr ⟨c, mem_cons_of_mem _ hc, h⟩
    · rcases hstop with ⟨s, hs, h⟩ | ⟨c, hc, h⟩
      · obtain rfl := Option.some.inj hs
        exact .inr ⟨b, mem_cons_self, hb, h⟩
      · exact .inr ⟨c, mem_cons_of_mem _ hc, h⟩
  | case4 b bs hb ih =>
    obtain ⟨hstart, hstop⟩ := ih h
    exact ⟨.inr ((hstart.resolve_left (by simp)).imp fun c hc =>
        hc.imp_left (mem_cons_of_mem _)),
      .inr ((hstop.resolve_left (by simp)).imp fun c hc => hc.imp_left (mem_cons_of_mem _))⟩
  | case5 s b bs hb ih =>
    obtain ⟨hstart, hstop⟩ := ih h
    constructor
    · rcases hstart with ⟨s', hs, h⟩ | ⟨c, hc, h⟩
      · obtain rfl := Option.some.inj hs
        exact .inl ⟨s, rfl, h⟩
      · exact .inr ⟨c, mem_cons_of_mem _ hc, h⟩
    · rcases hstop with ⟨s', hs, h⟩ | ⟨c, hc, h⟩
      · obtain rfl := Option.some.inj hs
        exact .inr ⟨b, mem_cons_self, hb, h⟩
      · exact .inr ⟨c, mem_cons_of_mem _ hc, h⟩
  | case6 s b bs hb ih =>
    rcases mem_cons.1 h with rfl | h
    · exact ⟨.inl ⟨_, rfl, rfl⟩, .inl ⟨_, rfl, rfl⟩⟩
    · obtain ⟨hstart, hstop⟩ := ih h
      exact ⟨.inr ((hstart.resolve_left (by simp)).imp fun c hc =>
          hc.imp_left (mem_cons_of_mem _)),
        .inr ((hstop.resolve_left (by simp)).imp fun c hc => hc.imp_left (mem_cons_of_mem _))⟩

variable [LinearOrder α]

/-- The things stand in order: each before the next, after the open stretch. -/
structure InOrder (span : β → α × α) (o : Option (α × α)) (bs : List β) : Prop where
  nonempty : ∀ b ∈ bs, (span b).1 ≤ (span b).2
  before : bs.Pairwise fun b c => (span b).2 < (span c).1
  started : ∀ s, o = some s → s.1 ≤ s.2 ∧ ∀ b ∈ bs, s.2 < (span b).1

theorem InOrder.tail (h : InOrder span o (b :: bs)) : InOrder span none bs :=
  ⟨fun c hc => h.nonempty c (mem_cons_of_mem _ hc), (pairwise_cons.1 h.before).2,
    fun _ hs => by cases hs⟩

theorem InOrder.openAt (h : InOrder span o (b :: bs)) {start : α} (hstart : start ≤ (span b).1) :
    InOrder span (some (start, (span b).2)) bs := by
  refine ⟨h.tail.nonempty, h.tail.before, fun s hs => ?_⟩
  obtain rfl := Option.some.inj hs
  exact ⟨hstart.trans (h.nonempty b mem_cons_self), (pairwise_cons.1 h.before).1⟩

theorem InOrder.extend (h : InOrder span (some s) (b :: bs)) :
    InOrder span (some (s.1, (span b).2)) bs :=
  h.openAt (((h.started s rfl).1.trans_lt ((h.started s rfl).2 b mem_cons_self)).le)

theorem lt_of_mem_stretches {bound : α} (hb : ∀ b ∈ bs, bound < (span b).1)
    (h : t ∈ stretchesFrom span keep none bs) : bound < t.1 := by
  obtain ⟨s, hs, -⟩ | ⟨b, hmem, -, heq⟩ := (ends_of_mem h).1
  · cases hs
  · rw [heq]
    exact hb b hmem

theorem pairwise_stretchesFrom (h : InOrder span o bs) :
    (stretchesFrom span keep o bs).Pairwise fun s t => s.2 < t.1 := by
  fun_induction stretchesFrom span keep o bs with
  | case1 => exact .nil
  | case2 s => exact pairwise_singleton _ _
  | case3 b bs hb ih => exact ih (h.openAt le_rfl)
  | case4 b bs hb ih => exact ih h.tail
  | case5 s b bs hb ih => exact ih h.extend
  | case6 s b bs hb ih =>
    refine pairwise_cons.2 ⟨fun t ht => ?_, ih h.tail⟩
    exact lt_of_mem_stretches (fun c hc => (h.started s rfl).2 c (mem_cons_of_mem _ hc)) ht

theorem le_of_mem_stretchesFrom (h : InOrder span o bs) (ht : t ∈ stretchesFrom span keep o bs) :
    t.1 ≤ t.2 := by
  fun_induction stretchesFrom span keep o bs with
  | case1 => cases ht
  | case2 s =>
    obtain rfl := mem_singleton.1 ht
    exact (h.started _ rfl).1
  | case3 b bs hb ih => exact ih (h.openAt le_rfl) ht
  | case4 b bs hb ih => exact ih h.tail ht
  | case5 s b bs hb ih => exact ih h.extend ht
  | case6 s b bs hb ih =>
    rcases mem_cons.1 ht with rfl | ht
    · exact (h.started _ rfl).1
    · exact ih h.tail ht

theorem exists_stretch_open (keep : β → Bool) (h : InOrder span (some s) bs) :
    ∃ t ∈ stretchesFrom span keep (some s) bs, t.1 = s.1 ∧ s.2 ≤ t.2 := by
  induction bs generalizing s with
  | nil => exact ⟨s, mem_singleton.2 rfl, rfl, le_rfl⟩
  | cons b bs ih =>
    unfold stretchesFrom
    split_ifs with hb
    · obtain ⟨t, ht, hstart, hstop⟩ := ih h.extend
      refine ⟨t, ht, hstart, le_trans ?_ hstop⟩
      exact ((h.started s rfl).2 b mem_cons_self).le.trans (h.nonempty b mem_cons_self)
    · exact ⟨s, mem_cons_self, rfl, le_rfl⟩

theorem exists_stretchFrom (h : InOrder span o bs) (hmem : b ∈ bs) (hkeep : keep b = true) :
    ∃ t ∈ stretchesFrom span keep o bs, t.1 ≤ (span b).1 ∧ (span b).2 ≤ t.2 := by
  fun_induction stretchesFrom span keep o bs with
  | case1 | case2 s => cases hmem
  | case3 c bs hc ih =>
    rcases mem_cons.1 hmem with rfl | hmem
    · obtain ⟨t, ht, hstart, hstop⟩ := exists_stretch_open keep (h.openAt le_rfl)
      exact ⟨t, ht, hstart.le, hstop⟩
    · exact ih (h.openAt le_rfl) hmem
  | case4 c bs hc ih =>
    rcases mem_cons.1 hmem with rfl | hmem
    · exact absurd hkeep hc
    · exact ih h.tail hmem
  | case5 s c bs hc ih =>
    rcases mem_cons.1 hmem with rfl | hmem
    · obtain ⟨t, ht, hstart, hstop⟩ := exists_stretch_open keep h.extend
      have hle := (h.started s rfl).1.trans ((h.started s rfl).2 b mem_cons_self).le
      exact ⟨t, ht, hstart.trans_le hle, hstop⟩
    · exact ih h.extend hmem
  | case6 s c bs hc ih =>
    rcases mem_cons.1 hmem with rfl | hmem
    · exact absurd hkeep hc
    · obtain ⟨t, ht, hin⟩ := ih h.tail hmem
      exact ⟨t, mem_cons_of_mem _ ht, hin⟩

theorem apart_of_memFrom (h : InOrder span o bs) (hmem : b ∈ bs) (hkeep : keep b = false)
    (ht : t ∈ stretchesFrom span keep o bs) : (span b).2 < t.1 ∨ t.2 < (span b).1 := by
  fun_induction stretchesFrom span keep o bs with
  | case1 | case2 s => cases hmem
  | case3 c bs hc ih =>
    rcases mem_cons.1 hmem with rfl | hmem
    · exact absurd hc (by simp [hkeep])
    · exact ih (h.openAt le_rfl) hmem ht
  | case4 c bs hc ih =>
    rcases mem_cons.1 hmem with rfl | hmem
    · exact .inl (lt_of_mem_stretches (pairwise_cons.1 h.before).1 ht)
    · exact ih h.tail hmem ht
  | case5 s c bs hc ih =>
    rcases mem_cons.1 hmem with rfl | hmem
    · exact absurd hc (by simp [hkeep])
    · exact ih h.extend hmem ht
  | case6 s c bs hc ih =>
    rcases mem_cons.1 ht with rfl | ht
    · exact .inr ((h.started _ rfl).2 b hmem)
    · rcases mem_cons.1 hmem with rfl | hmem
      · exact .inl (lt_of_mem_stretches (pairwise_cons.1 h.before).1 ht)
      · exact ih h.tail hmem ht

theorem existsUnique_stretch (h : InOrder span none bs) (hmem : b ∈ bs) (hkeep : keep b = true) :
    ∃! t, t ∈ stretches span keep bs ∧ t.1 ≤ (span b).1 ∧ (span b).2 ≤ t.2 := by
  obtain ⟨t, ht, hstart, hstop⟩ := exists_stretchFrom h hmem hkeep
  refine ⟨t, ⟨ht, hstart, hstop⟩, ?_⟩
  rintro u ⟨hu, hustart, hustop⟩
  by_contra hne
  have hle := h.nonempty b hmem
  -- stretches in order have no thing in common
  have hsymm : Std.Symm fun s t : α × α => s.2 < t.1 ∨ t.2 < s.1 := ⟨fun _ _ => Or.symm⟩
  have hpairs : (stretchesFrom span keep none bs).Pairwise fun s t => s.2 < t.1 ∨ t.2 < s.1 :=
    (pairwise_stretchesFrom h).imp Or.inl
  rcases hpairs.forall ht hu (Ne.symm hne) with hlt | hlt
  · exact absurd (hstop.trans_lt (hlt.trans_le hustart)) (not_lt.2 hle)
  · exact absurd (hustop.trans_lt (hlt.trans_le hstart)) (not_lt.2 hle)

end

end Lib
