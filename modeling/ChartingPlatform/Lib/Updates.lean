/-
  Updating the row with a key, and what an update does to sums over a table.

  `updateRow` is `UPDATE ... WHERE key = k`.
-/
import ChartingPlatform.Lib.Table

namespace Lib

open List

variable {α β κ : Type} [DecidableEq κ] {key : α → κ} {rows : List α} {k : κ} {f : α → α}
  {row x : α}

def updateRow (key : α → κ) (k : κ) (f : α → α) (rows : List α) : List α :=
  rows.map fun row => if key row = k then f row else row

theorem map_key_updateRow (hf : ∀ x, key x = k → key (f x) = k) :
    (updateRow key k f rows).map key = rows.map key := by
  rw [updateRow, map_map]
  refine map_congr_left fun x _ => ?_
  by_cases hx : key x = k
  · rw [Function.comp_apply, if_pos hx, hf x hx, hx]
  · rw [Function.comp_apply, if_neg hx]

theorem mem_updateRow : x ∈ updateRow key k f rows ↔
    ∃ y ∈ rows, (key y = k ∧ x = f y) ∨ (key y ≠ k ∧ x = y) := by
  rw [updateRow, mem_map]
  refine exists_congr fun y => and_congr_right fun _ => ?_
  by_cases hy : key y = k
  · rw [if_pos hy]
    simp [hy, eq_comm]
  · rw [if_neg hy]
    simp [hy, eq_comm]

theorem mem_updateRow_of_ne (hx : x ∈ rows) (hk : key x ≠ k) : x ∈ updateRow key k f rows :=
  mem_updateRow.2 ⟨x, hx, .inr ⟨hk, rfl⟩⟩

theorem mem_updateRow_iff (hn : (rows.map key).Nodup) (hrow : row ∈ rows) :
    x ∈ updateRow key (key row) f rows ↔ x = f row ∨ x ∈ rows ∧ x ≠ row := by
  rw [mem_updateRow]
  constructor
  · rintro ⟨y, hy, ⟨hk, rfl⟩ | ⟨hk, rfl⟩⟩
    · exact .inl (congrArg f (inj_on_of_nodup_map hn hy hrow hk))
    · exact .inr ⟨hy, fun hxr => hk (congrArg key hxr)⟩
  · rintro (rfl | ⟨hx, hne⟩)
    · exact ⟨row, hrow, .inl ⟨rfl, rfl⟩⟩
    · exact ⟨x, hx, .inr ⟨fun hk => hne (inj_on_of_nodup_map hn hx hrow hk), rfl⟩⟩

theorem updateRow_of_notMem (h : k ∉ rows.map key) : updateRow key k f rows = rows := by
  rw [updateRow]
  conv_rhs => rw [← map_id rows]
  refine map_congr_left fun x hx => if_neg fun hk : key x = k => h (hk ▸ mem_map_of_mem hx)

theorem filter_updateRow {q : α → Bool} (h : ∀ y, key y = k → q y = false ∧ q (f y) = false) :
    (updateRow key k f rows).filter q = rows.filter q := by
  induction rows with
  | nil => rfl
  | cons y rows ih =>
    rw [updateRow, map_cons, filter_cons, filter_cons]
    rw [updateRow] at ih
    by_cases hy : key y = k
    · rw [if_pos hy, (h y hy).1, (h y hy).2]
      exact ih
    · rw [if_neg hy, ih]

theorem sum_updateRow (hn : (rows.map key).Nodup) (hrow : row ∈ rows) (hk : key row = k)
    (g : α → ℤ) :
    ((updateRow key k f rows).map g).sum = (rows.map g).sum - g row + g (f row) := by
  induction rows with
  | nil => cases hrow
  | cons x rows ih =>
    rw [map_cons, nodup_cons] at hn
    rw [updateRow, map_cons, map_cons, sum_cons, map_cons, sum_cons]
    rcases mem_cons.1 hrow with rfl | hmem
    · have hrest : rows.map (fun y => if key y = k then f y else y) = rows :=
        updateRow_of_notMem (f := f) (hk ▸ hn.1)
      rw [if_pos hk, hrest]
      ring
    · have hx : key x ≠ k := fun hx => hn.1 (hx.trans hk.symm ▸ mem_map_of_mem hmem)
      have hrest := ih hn.2 hmem
      rw [updateRow] at hrest
      rw [if_neg hx, hrest]
      ring

/-! ## The first row of a descending order -/

/-- `ORDER BY f DESC LIMIT 1`: the first of the rows with the largest value. -/
def largestBy (f : α → ℤ) : List α → Option α
  | [] => none
  | x :: xs =>
    match largestBy f xs with
    | none => some x
    | some y => if f x < f y then some y else some x

theorem mem_of_largestBy {g : α → ℤ} (h : largestBy g rows = some x) : x ∈ rows := by
  induction rows generalizing x with
  | nil => cases h
  | cons y rows ih =>
    rw [largestBy] at h
    cases hrest : largestBy g rows with
    | none =>
      simp only [hrest, Option.some.injEq] at h
      exact h ▸ mem_cons_self
    | some z =>
      simp only [hrest] at h
      split_ifs at h
      · exact mem_cons_of_mem _ (Option.some.inj h ▸ ih hrest)
      · exact Option.some.inj h ▸ mem_cons_self

@[simp] theorem largestBy_eq_none {g : α → ℤ} : largestBy g rows = none ↔ rows = [] := by
  cases rows with
  | nil => simp [largestBy]
  | cons x rows =>
    rw [largestBy]
    cases largestBy g rows with
    | none => simp
    | some y =>
      simp only [reduceCtorEq, iff_false]
      split_ifs <;> exact nofun

/-! ## Sums over references -/

theorem sum_map_ite (hn : (rows.map key).Nodup) (hk : k ∈ rows.map key) (p : κ → Prop)
    [DecidablePred p] (a : ℤ) :
    ((rows.filter fun row => decide (p (key row))).map fun row => if k = key row then a else 0).sum
      = if p k then a else 0 := by
  induction rows with
  | nil => cases hk
  | cons x rows ih =>
    rw [map_cons, nodup_cons] at hn
    by_cases hx : k = key x
    · subst hx
      have hrest : ((rows.filter fun row => decide (p (key row))).map
          fun row => if key x = key row then a else 0).sum = 0 := by
        refine sum_eq_zero fun z hz => ?_
        obtain ⟨y, hy, rfl⟩ := mem_map.1 hz
        exact if_neg fun hxy : key x = key y => hn.1 (hxy ▸ mem_map_of_mem (mem_of_mem_filter hy))
      by_cases hp : p (key x)
      · rw [filter_cons_of_pos (by simpa using hp), map_cons, sum_cons, hrest,
          if_pos rfl, if_pos hp, add_zero]
      · rw [filter_cons_of_neg (by simpa using hp), hrest, if_neg hp]
    · have hmem : k ∈ rows.map key := (mem_cons.1 hk).resolve_left hx
      by_cases hp : p (key x)
      · rw [filter_cons_of_pos (by simpa using hp), map_cons, sum_cons, if_neg hx,
          zero_add, ih hn.2 hmem]
      · rw [filter_cons_of_neg (by simpa using hp), ih hn.2 hmem]

/-- **Summing by rows is summing by references**: each reference has its row. -/
theorem sum_map_sum_ite {refs : List β} {ref : β → κ} {g : β → ℤ} (hn : (rows.map key).Nodup)
    (hrefs : ∀ b ∈ refs, ref b ∈ rows.map key) (p : κ → Prop) [DecidablePred p] :
    ((rows.filter fun row => decide (p (key row))).map fun row =>
        (refs.map fun b => if ref b = key row then g b else 0).sum).sum =
      (refs.map fun b => if p (ref b) then g b else 0).sum := by
  induction refs with
  | nil => simp
  | cons b refs ih =>
    simp only [map_cons, sum_cons]
    rw [sum_map_add, sum_map_ite hn (hrefs b mem_cons_self) p (g b),
      ih fun c hc => hrefs c (mem_cons_of_mem b hc)]

end Lib
