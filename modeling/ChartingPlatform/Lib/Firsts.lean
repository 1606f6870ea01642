/-
  The first element of every key in a list, in the order of the list: a loop that skips what
  it has seen visits these elements.
-/
import Mathlib

namespace Lib

open List

variable {α κ : Type} [DecidableEq κ] (key : α → κ)

def firstsFrom : Finset κ → List α → List α
  | _, [] => []
  | seen, a :: as =>
    if key a ∈ seen then firstsFrom seen as else a :: firstsFrom (insert (key a) seen) as

def firsts (as : List α) : List α := firstsFrom key ∅ as

def firstWith (k : κ) (as : List α) : Option α := as.find? fun a => decide (key a = k)

variable {key} {seen : Finset κ} {as : List α} {a : α} {k : κ}

theorem firstWith_cons : firstWith key k (a :: as) =
    if key a = k then some a else firstWith key k as := by
  unfold firstWith
  by_cases h : key a = k
  · rw [if_pos h, find?_cons_of_pos (by simpa using h)]
  · rw [if_neg h, find?_cons_of_neg (by simpa using h)]

/-- The first one stands before every other with its key. -/
theorem firstWith_before {R : α → α → Prop} {b : α} (has : as.Pairwise R)
    (h : firstWith key k as = some a) (hb : b ∈ as) (hk : key b = k) : a = b ∨ R a b := by
  induction as with
  | nil => cases hb
  | cons c cs ih =>
    rw [pairwise_cons] at has
    rw [firstWith_cons] at h
    by_cases hc : key c = k
    · rw [if_pos hc] at h
      obtain rfl := Option.some.inj h
      exact (mem_cons.1 hb).imp Eq.symm (has.1 b)
    · rw [if_neg hc] at h
      rcases mem_cons.1 hb with rfl | hb
      · exact absurd hk hc
      · exact ih has.2 h hb

theorem mem_firstsFrom : a ∈ firstsFrom key seen as ↔
    key a ∉ seen ∧ firstWith key (key a) as = some a := by
  induction as generalizing seen with
  | nil => simp [firstsFrom, firstWith]
  | cons b as ih =>
    rw [firstsFrom, firstWith_cons]
    by_cases hb : key b ∈ seen
    · rw [if_pos hb, ih]
      by_cases hab : key b = key a
      · rw [if_pos hab]
        exact ⟨fun h => absurd (hab ▸ hb) h.1, fun h => absurd (hab ▸ hb) h.1⟩
      · rw [if_neg hab]
    · rw [if_neg hb, mem_cons, ih, Finset.mem_insert, not_or]
      by_cases hab : key b = key a
      · rw [if_pos hab]
        constructor
        · rintro (rfl | ⟨⟨hne, -⟩, -⟩)
          · exact ⟨hb, rfl⟩
          · exact absurd hab.symm hne
        · rintro ⟨-, h⟩
          exact .inl (Option.some.inj h).symm
      · rw [if_neg hab]
        constructor
        · rintro (rfl | ⟨⟨-, hns⟩, h⟩)
          · exact absurd rfl hab
          · exact ⟨hns, h⟩
        · rintro ⟨hns, h⟩
          exact .inr ⟨⟨fun h => hab h.symm, hns⟩, h⟩

theorem mem_firsts : a ∈ firsts key as ↔ firstWith key (key a) as = some a := by
  rw [firsts, mem_firstsFrom]
  simp

theorem mem_firsts_id {ks : List κ} : k ∈ firsts id ks ↔ k ∈ ks := by
  rw [mem_firsts, firstWith]
  constructor
  · exact mem_of_find?_eq_some
  · intro h
    cases hfound : ks.find? fun a => decide (id a = id k) with
    | none => exact absurd (find?_eq_none.1 hfound k h) (by simp)
    | some a =>
      have ha := find?_some hfound
      rw [decide_eq_true_eq] at ha
      exact congrArg some ha

theorem firsts_map {f : α → α} (hf : ∀ a, key (f a) = key a) :
    firsts key (as.map f) = (firsts key as).map f := by
  rw [firsts, firsts]
  generalize (∅ : Finset κ) = seen
  induction as generalizing seen with
  | nil => rfl
  | cons a as ih =>
    rw [map_cons, firstsFrom, firstsFrom, hf]
    split_ifs
    · exact ih seen
    · rw [ih, map_cons]

theorem nodup_firstsFrom : ((firstsFrom key seen as).map key).Nodup := by
  induction as generalizing seen with
  | nil => exact nodup_nil
  | cons a as ih =>
    rw [firstsFrom]
    split_ifs with ha
    · exact ih
    · rw [map_cons, nodup_cons]
      refine ⟨?_, ih⟩
      intro hmem
      obtain ⟨b, hb, hba⟩ := mem_map.1 hmem
      exact (mem_firstsFrom.1 hb).1 (hba ▸ Finset.mem_insert_self _ _)

theorem nodup_firsts : ((firsts key as).map key).Nodup := nodup_firstsFrom

theorem firstsFrom_insert (hk : k ∉ seen) :
    firstsFrom key seen as ~ (firstWith key k as).toList ++ firstsFrom key (insert k seen) as := by
  induction as generalizing seen with
  | nil => exact List.Perm.refl _
  | cons a as ih =>
    rw [firstWith_cons]
    by_cases hak : key a = k
    · subst hak
      rw [firstsFrom, firstsFrom, if_neg hk, if_pos rfl, if_pos (Finset.mem_insert_self _ _)]
      exact List.Perm.refl _
    · rw [if_neg hak, firstsFrom, firstsFrom]
      by_cases ha : key a ∈ seen
      · rw [if_pos ha, if_pos (Finset.mem_insert_of_mem ha)]
        exact ih hk
      · have ha' : key a ∉ insert k seen := by
          rw [Finset.mem_insert, not_or]
          exact ⟨hak, ha⟩
        have hk' : k ∉ insert (key a) seen := by
          rw [Finset.mem_insert, not_or]
          exact ⟨fun h => hak h.symm, hk⟩
        rw [if_neg ha, if_neg ha', Finset.insert_comm]
        exact ((ih hk').cons a).trans perm_middle.symm

/-- The keys of the elements, on top of those seen before. -/
def keysFrom (key : α → κ) (seen : Finset κ) (as : List α) : Finset κ :=
  seen ∪ (as.map key).toFinset

theorem firstsFrom_append (bs : List α) : firstsFrom key seen (as ++ bs) =
    firstsFrom key seen as ++ firstsFrom key (keysFrom key seen as) bs := by
  induction as generalizing seen with
  | nil => simp [firstsFrom, keysFrom]
  | cons a as ih =>
    have hkeys : keysFrom key seen (a :: as) = keysFrom key (insert (key a) seen) as := by
      ext k
      simp [keysFrom]
    rw [cons_append, firstsFrom, firstsFrom, hkeys]
    by_cases ha : key a ∈ seen
    · rw [if_pos ha, if_pos ha, ih, Finset.insert_eq_of_mem ha]
    · rw [if_neg ha, if_neg ha, ih, cons_append]

/-- **An element that is removed** hands its place to the next one with its key. -/
theorem firsts_remove (pre post : List α) (ha : key a ∉ pre.map key) :
    ∃ rest, firsts key (pre ++ a :: post) ~ a :: rest ∧
      firsts key (pre ++ post) ~ (firstWith key (key a) post).toList ++ rest := by
  have hseen : key a ∉ keysFrom key ∅ pre := by simpa [keysFrom] using ha
  refine ⟨firsts key pre ++ firstsFrom key (insert (key a) (keysFrom key ∅ pre)) post, ?_, ?_⟩
  · rw [firsts, firstsFrom_append, firstsFrom, if_neg hseen]
    exact perm_middle
  · rw [firsts, firstsFrom_append]
    refine ((firstsFrom_insert hseen).append_left _).trans ?_
    rw [← append_assoc, ← append_assoc]
    exact perm_append_comm.append_right _

theorem firsts_remove_repeated (pre post : List α) (ha : key a ∈ pre.map key) :
    firsts key (pre ++ a :: post) = firsts key (pre ++ post) := by
  have hseen : key a ∈ keysFrom key ∅ pre := by simpa [keysFrom] using ha
  rw [firsts, firsts, firstsFrom_append, firstsFrom_append, firstsFrom, if_pos hseen]

end Lib
