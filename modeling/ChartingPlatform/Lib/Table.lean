/-
  Tables with a unique key, as lists of rows.

  `insertNew` is `INSERT ... ON CONFLICT (key) DO NOTHING` together with its row
  count: it answers `none` where a row with the key exists.
  `upsert` is the assignment of a dict whose values know their keys.
-/
import Mathlib

namespace Lib

open List

variable {α κ : Type} [DecidableEq κ] {key : α → κ} {row row' : α} {rows rows' : List α} {k : κ}

def insertNew (key : α → κ) (row : α) (rows : List α) : Option (List α) :=
  if key row ∈ rows.map key then none else some (rows ++ [row])

def rowWith (key : α → κ) (k : κ) (rows : List α) : Option α :=
  rows.find? fun row => decide (key row = k)

theorem insertNew_eq_some :
    insertNew key row rows = some rows' ↔ key row ∉ rows.map key ∧ rows' = rows ++ [row] := by
  unfold insertNew
  split_ifs with h
  · simp [h]
  · simp [h, eq_comm]

theorem rowWith_eq_none : rowWith key k rows = none ↔ k ∉ rows.map key := by
  simp [rowWith]

theorem mem_of_rowWith (h : rowWith key k rows = some row) : row ∈ rows ∧ key row = k :=
  ⟨mem_of_find?_eq_some h, by simpa using find?_some h⟩

theorem rowWith_eq_some (hn : (rows.map key).Nodup) :
    rowWith key k rows = some row ↔ row ∈ rows ∧ key row = k := by
  constructor
  · exact mem_of_rowWith
  · rintro ⟨hmem, rfl⟩
    cases h : rowWith key (key row) rows with
    | none => exact absurd (mem_map_of_mem hmem) (rowWith_eq_none.1 h)
    | some row' =>
      obtain ⟨hmem', hkey⟩ := mem_of_rowWith h
      rw [inj_on_of_nodup_map hn hmem' hmem hkey]

theorem filter_key_eq (hn : (rows.map key).Nodup) (hrow : row ∈ rows) :
    rows.filter (fun r => decide (key r = key row)) = [row] := by
  induction rows with
  | nil => cases hrow
  | cons r rows ih =>
    rw [map_cons, nodup_cons] at hn
    rcases mem_cons.1 hrow with rfl | hmem
    · have hnone : rows.filter (fun r => decide (key r = key row)) = [] := by
        refine filter_eq_nil_iff.2 fun r hr h => hn.1 ?_
        exact of_decide_eq_true h ▸ mem_map_of_mem hr
      rw [filter_cons_of_pos (by simp), hnone]
    · have hne : key r ≠ key row := fun h => hn.1 (h ▸ mem_map_of_mem hmem)
      rw [filter_cons_of_neg (by simpa using hne), ih hn.2 hmem]

theorem nodup_insertNew (hn : (rows.map key).Nodup) (h : insertNew key row rows = some rows') :
    (rows'.map key).Nodup := by
  obtain ⟨hnew, rfl⟩ := insertNew_eq_some.1 h
  rw [map_append, map_singleton, nodup_append]
  refine ⟨hn, nodup_singleton _, ?_⟩
  intro k hk k' hk' heq
  rw [mem_singleton] at hk'
  exact hnew (hk' ▸ heq ▸ hk)

theorem rowWith_perm (hp : rows.Perm rows') (hn : (rows.map key).Nodup) :
    rowWith key k rows = rowWith key k rows' := by
  have hn' : (rows'.map key).Nodup := (hp.map key).nodup_iff.1 hn
  ext row
  rw [rowWith_eq_some hn, rowWith_eq_some hn', hp.mem_iff]

theorem rowWith_append_singleton : rowWith key k (rows ++ [row]) =
    (rowWith key k rows).or (if key row = k then some row else none) := by
  unfold rowWith
  rw [find?_append]
  by_cases h : key row = k
  · rw [if_pos h, find?_singleton, if_pos (by simpa using h)]
  · rw [if_neg h, find?_singleton, if_neg (by simpa using h)]

/-- `rows[key row] = row`. -/
def upsert (key : α → κ) (row : α) (rows : List α) : List α :=
  if key row ∈ rows.map key then rows.map fun r => if key r = key row then row else r
  else rows ++ [row]

theorem map_key_upsert : (upsert key row rows).map key =
    if key row ∈ rows.map key then rows.map key else rows.map key ++ [key row] := by
  unfold upsert
  split_ifs with h
  · rw [map_map]
    refine map_congr_left fun r _ => ?_
    by_cases hr : key r = key row
    · rw [Function.comp_apply, if_pos hr, hr]
    · rw [Function.comp_apply, if_neg hr]
  · rw [map_append, map_singleton]

theorem nodup_upsert (hn : (rows.map key).Nodup) : ((upsert key row rows).map key).Nodup := by
  rw [map_key_upsert]
  split_ifs with h
  · exact hn
  · rw [nodup_append]
    refine ⟨hn, nodup_singleton _, ?_⟩
    intro k hk k' hk' heq
    rw [mem_singleton] at hk'
    exact h (hk' ▸ heq ▸ hk)

theorem mem_upsert {x : α} : x ∈ upsert key row rows ↔ x = row ∨ x ∈ rows ∧ key x ≠ key row := by
  rw [upsert]
  split_ifs with h
  · rw [mem_map]
    constructor
    · rintro ⟨y, hy, rfl⟩
      by_cases hyk : key y = key row
      · exact .inl (if_pos hyk)
      · rw [if_neg hyk]
        exact .inr ⟨hy, hyk⟩
    · rintro (rfl | ⟨hx, hxk⟩)
      · obtain ⟨y, hy, hyk⟩ := mem_map.1 h
        exact ⟨y, hy, if_pos hyk⟩
      · exact ⟨x, hx, if_neg hxk⟩
  · rw [mem_append, mem_singleton]
    constructor
    · rintro (hx | rfl)
      · exact .inr ⟨hx, fun hxk => h (hxk ▸ mem_map_of_mem hx)⟩
      · exact .inl rfl
    · rintro (rfl | ⟨hx, -⟩)
      · exact .inr rfl
      · exact .inl hx

theorem filter_upsert {q : α → Bool} (h : ∀ x, key x = key row → q x = false) :
    (upsert key row rows).filter q = rows.filter q := by
  rw [upsert]
  split_ifs with hmem
  · clear hmem
    induction rows with
    | nil => rfl
    | cons y rows ih =>
      rw [map_cons, filter_cons, filter_cons, ih]
      by_cases hy : key y = key row
      · rw [if_pos hy, h row rfl, h y hy]
        rfl
      · rw [if_neg hy]
  · rw [filter_append, filter_cons_of_neg (by rw [h row rfl]; decide), filter_nil,
      append_nil]

theorem mem_foldl_upsert {β : Type} {f : β → α} {bs : List β} {x : α}
    (hn : (bs.map fun b => key (f b)).Nodup) :
    x ∈ bs.foldl (fun rows b => upsert key (f b) rows) rows ↔
      (∃ b ∈ bs, x = f b) ∨ x ∈ rows ∧ key x ∉ bs.map fun b => key (f b) := by
  induction bs generalizing rows with
  | nil => simp
  | cons b bs ih =>
    rw [map_cons, nodup_cons] at hn
    rw [foldl_cons, ih hn.2, mem_upsert]
    constructor
    · rintro (⟨c, hc, rfl⟩ | ⟨rfl | ⟨hx, hne⟩, hnot⟩)
      · exact .inl ⟨c, mem_cons_of_mem _ hc, rfl⟩
      · exact .inl ⟨b, mem_cons_self, rfl⟩
      · exact .inr ⟨hx, fun hmem => (mem_cons.1 hmem).elim hne hnot⟩
    · rintro (⟨c, hc, rfl⟩ | ⟨hx, hnot⟩)
      · rcases mem_cons.1 hc with rfl | hc
        · exact .inr ⟨.inl rfl, hn.1⟩
        · exact .inl ⟨c, hc, rfl⟩
      · rw [map_cons, mem_cons, not_or] at hnot
        exact .inr ⟨.inr ⟨hx, hnot.1⟩, hnot.2⟩

theorem nodup_foldl_upsert {β : Type} {f : β → α} {bs : List β} (hn : (rows.map key).Nodup) :
    ((bs.foldl (fun rows b => upsert key (f b) rows) rows).map key).Nodup := by
  induction bs generalizing rows with
  | nil => exact hn
  | cons b bs ih => exact ih (nodup_upsert hn)

theorem foldl_upsert_eq {new : List α} (hn : (new.map key).Nodup) :
    new.foldl (fun rows row => upsert key row rows) rows =
      rows.map (fun r => (rowWith key (key r) new).getD r) ++
        new.filter fun row => key row ∉ rows.map key := by
  induction new generalizing rows with
  | nil => simp [rowWith]
  | cons row new ih =>
    rw [map_cons, nodup_cons] at hn
    rw [foldl_cons, ih hn.2, map_key_upsert]
    have hcons : ∀ k, rowWith key k (row :: new) =
        if key row = k then some row else rowWith key k new := by
      intro k
      unfold rowWith
      by_cases hk : key row = k
      · rw [if_pos hk, find?_cons_of_pos (by simpa using hk)]
      · rw [if_neg hk, find?_cons_of_neg (by simpa using hk)]
    have hself : rowWith key (key row) new = none := rowWith_eq_none.2 hn.1
    unfold upsert
    split_ifs with h
    · rw [map_map, filter_cons_of_neg (by simpa using h)]
      refine congrArg (· ++ _) (map_congr_left fun r _ => ?_)
      rw [Function.comp_apply, hcons]
      by_cases hr : key r = key row
      · rw [if_pos hr, if_pos hr.symm, hself]
        rfl
      · rw [if_neg hr, if_neg (Ne.symm hr)]
    · rw [map_append, map_singleton, hself, filter_cons_of_pos (by simpa using h),
        append_assoc]
      refine congrArg₂ (· ++ ·) (map_congr_left fun r hr => ?_) ?_
      · rw [hcons, if_neg fun heq : key row = key r => h (heq ▸ mem_map_of_mem hr)]
      · refine congrArg (row :: ·) (filter_congr fun b hb => decide_eq_decide.2 (not_congr ?_))
        rw [mem_append, mem_singleton]
        exact or_iff_left fun heq => hn.1 (heq ▸ mem_map_of_mem hb)

theorem rowWith_upsert : rowWith key k (upsert key row rows) =
    if key row = k then some row else rowWith key k rows := by
  unfold upsert
  split_ifs with h hk
  · subst hk
    induction rows with
    | nil => cases h
    | cons r rs ih =>
      rw [map_cons]
      by_cases hr : key r = key row
      · rw [if_pos hr, rowWith, find?_cons_of_pos (by simp)]
      · rw [if_neg hr, rowWith, find?_cons_of_neg (by simpa using hr)]
        exact ih ((mem_cons.1 h).resolve_left fun heq => hr heq.symm)
  · clear h
    induction rows with
    | nil => rfl
    | cons r rs ih =>
      rw [map_cons]
      by_cases hr : key r = key row
      · have hne : key r ≠ k := by rwa [hr]
        rw [if_pos hr, rowWith, rowWith, find?_cons_of_neg (by simpa using hk),
          find?_cons_of_neg (by simpa using hne)]
        exact ih
      · rw [if_neg hr]
        by_cases hrk : key r = k
        · rw [rowWith, rowWith, find?_cons_of_pos (by simpa using hrk),
            find?_cons_of_pos (by simpa using hrk)]
        · rw [rowWith, rowWith, find?_cons_of_neg (by simpa using hrk),
            find?_cons_of_neg (by simpa using hrk)]
          exact ih
  · next hk =>
    rw [rowWith_append_singleton, if_pos hk, rowWith_eq_none.2 (hk ▸ h)]
    rfl
  · next hk => rw [rowWith_append_singleton, if_neg hk, Option.or_none]

end Lib
