/-
  Documents: dicts with text keys, and their displays `{**a, **b}`.
-/
import ChartingPlatform.Lib.Table

namespace Lib

open List

structure Doc (V : Type) where
  entries : List (String × V)
  nodup : (entries.map Prod.fst).Nodup
  deriving DecidableEq

namespace Doc

variable {V : Type} {d e f : Doc V} {k j : String} {v : V}

def empty : Doc V := ⟨[], nodup_nil⟩

/-- `d.get(k)`, with `none` for a missing key. -/
def get (d : Doc V) (k : String) : Option V := (rowWith Prod.fst k d.entries).map Prod.snd

/-- `d[k] = v`. -/
def set (d : Doc V) (k : String) (v : V) : Doc V :=
  ⟨upsert Prod.fst (k, v) d.entries, nodup_upsert d.nodup⟩

/-- `{**d, **e}`. -/
def merge (d e : Doc V) : Doc V := e.entries.foldl (fun d i => d.set i.1 i.2) d

theorem get_set : (d.set j v).get k = if j = k then some v else d.get k := by
  rw [get, set, rowWith_upsert]
  split_ifs with h
  · rfl
  · rfl

theorem get_foldl_set {is : List (String × V)} (hn : (is.map Prod.fst).Nodup) :
    (is.foldl (fun d i => d.set i.1 i.2) d).get k =
      ((rowWith Prod.fst k is).map Prod.snd).or (d.get k) := by
  induction is generalizing d with
  | nil => rfl
  | cons i is ih =>
    rw [map_cons, nodup_cons] at hn
    rw [foldl_cons, ih hn.2, get_set]
    by_cases hi : i.1 = k
    · have hnone : rowWith Prod.fst k is = none := rowWith_eq_none.2 (hi ▸ hn.1)
      rw [if_pos hi, hnone, rowWith, find?_cons_of_pos (by simpa using hi)]
      rfl
    · have hrest : rowWith Prod.fst k (i :: is) = rowWith Prod.fst k is :=
        find?_cons_of_neg (by simpa using hi)
      rw [if_neg hi, hrest]

theorem get_merge : (d.merge e).get k = (e.get k).or (d.get k) := get_foldl_set e.nodup

/-! ## Parts of documents -/

/-- Every entry of `d` is an entry of `e`. -/
def Sub (d e : Doc V) : Prop := ∀ k v, d.get k = some v → e.get k = some v

theorem empty_sub : (empty : Doc V).Sub d := fun _ _ h => nomatch h

theorem Sub.merge (h : d.Sub e) (f : Doc V) : (d.merge f).Sub (e.merge f) := by
  intro k v hv
  rw [get_merge] at hv ⊢
  generalize f.get k = o at hv ⊢
  cases o with
  | some w => exact hv
  | none => exact h k v hv

end Doc

end Lib
