/-
  Neighbours in a list.

  In a list that increases under a key, neighbours are the elements with no key between
  theirs (`mem_neighbours_iff`).
-/
import Mathlib

namespace Lib

open List

variable {α κ : Type} [LinearOrder κ]

def neighbours (l : List α) : List (α × α) := l.zip l.tail

/-- `p` holds of one element, at one place. -/
def ExactlyOne (p : α → Prop) (l : List α) : Prop :=
  ∃ pre a post, l = pre ++ a :: post ∧ p a ∧ ∀ b ∈ pre ++ post, ¬ p b

variable {key : α → κ} {l : List α} {a b : α}

@[simp] theorem neighbours_singleton : neighbours [a] = [] := rfl

theorem neighbours_cons_cons : neighbours (a :: b :: l) = (a, b) :: neighbours (b :: l) := rfl

theorem mem_of_mem_neighbours (h : (a, b) ∈ neighbours l) : a ∈ l ∧ b ∈ l := by
  have hzip := of_mem_zip h
  exact ⟨hzip.1, mem_of_mem_tail hzip.2⟩

/-- **Neighbours** of an increasing list have nothing between them. -/
theorem mem_neighbours_iff (h : l.Pairwise fun a b => key a < key b) :
    (a, b) ∈ neighbours l ↔ a ∈ l ∧ b ∈ l ∧ key a < key b ∧
      ∀ c ∈ l, ¬ (key a < key c ∧ key c < key b) := by
  induction l with
  | nil => simp [neighbours]
  | cons x l ih =>
    obtain ⟨hx, hl⟩ := pairwise_cons.1 h
    cases l with
    | nil =>
      rw [neighbours_singleton]
      refine ⟨fun hmem => absurd hmem not_mem_nil, ?_⟩
      rintro ⟨ha, hb, hlt, -⟩
      rw [mem_singleton.1 ha, mem_singleton.1 hb] at hlt
      exact absurd hlt (lt_irrefl _)
    | cons y l =>
      rw [neighbours_cons_cons, mem_cons, ih hl]
      have hy := (pairwise_cons.1 hl).1
      constructor
      · rintro (heq | ⟨ha, hb, hlt, hbetween⟩)
        · obtain ⟨rfl, rfl⟩ := Prod.mk.inj heq
          refine ⟨mem_cons_self, by simp, hx _ mem_cons_self, fun c hc => ?_⟩
          rintro ⟨hac, hcb⟩
          rcases mem_cons.1 hc with rfl | hc
          · exact absurd hac (lt_irrefl _)
          · rcases mem_cons.1 hc with rfl | hc
            · exact absurd hcb (lt_irrefl _)
            · exact absurd (hy c hc) hcb.asymm
        · refine ⟨mem_cons_of_mem _ ha, mem_cons_of_mem _ hb, hlt, fun c hc => ?_⟩
          rcases mem_cons.1 hc with rfl | hc
          · exact fun hbad => absurd (hx a ha) hbad.1.asymm
          · exact hbetween c hc
      · rintro ⟨ha, hb, hlt, hbetween⟩
        rcases mem_cons.1 ha with rfl | hal
        · left
          rcases mem_cons.1 hb with rfl | hb
          · exact absurd hlt (lt_irrefl _)
          · rcases mem_cons.1 hb with rfl | hb
            · rfl
            · exact absurd ⟨hx y mem_cons_self, hy b hb⟩ (hbetween y (by simp))
        · right
          refine ⟨hal, ?_, hlt, fun c hc => hbetween c (mem_cons_of_mem _ hc)⟩
          rcases mem_cons.1 hb with rfl | hb
          · exact absurd (hx a hal) hlt.asymm
          · exact hb

omit [LinearOrder κ] in
theorem exactlyOne_of_nodup {p : α → Prop} (hn : (l.map key).Nodup) (ha : a ∈ l)
    (hpa : p a) (hp : ∀ b ∈ l, p b → key b = key a) : ExactlyOne p l := by
  obtain ⟨pre, post, rfl⟩ := append_of_mem ha
  refine ⟨pre, a, post, rfl, hpa, fun b hb hpb => ?_⟩
  rw [map_append, map_cons, nodup_middle, nodup_cons, ← map_append] at hn
  have hmem : b ∈ pre ++ a :: post := by
    rcases mem_append.1 hb with h | h
    · exact mem_append_left _ h
    · exact mem_append_right _ (mem_cons_of_mem _ h)
  exact hn.1 (hp b hmem hpb ▸ mem_map_of_mem hb)

end Lib
