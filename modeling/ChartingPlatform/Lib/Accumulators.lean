/-
  Accumulators under keys: a `defaultdict` whose entries are updated in a loop.
-/
import ChartingPlatform.Lib.Table

namespace Lib

open List

variable {α κ β : Type} [DecidableEq κ]

/-- `d[k]`, the initial accumulator where there is none. -/
def entryOf (init : β) (d : List (κ × β)) (k : κ) : β :=
  ((rowWith Prod.fst k d).map Prod.snd).getD init

/-- `d[k] = f(d[k])`. -/
def updateEntry (init : β) (f : β → β) (d : List (κ × β)) (k : κ) : List (κ × β) :=
  upsert Prod.fst (k, f (entryOf init d k)) d

variable {init : β} {f : β → β} {step : β → α → β} {key : α → κ} {d : List (κ × β)} {j k : κ}
  {l : List α} {a : α}

theorem entryOf_updateEntry : entryOf init (updateEntry init f d j) k =
    if j = k then f (entryOf init d k) else entryOf init d k := by
  rw [updateEntry, entryOf, rowWith_upsert]
  by_cases h : j = k
  · rw [if_pos h, if_pos h, h]
    rfl
  · rw [if_neg h, if_neg h]
    rfl

theorem mem_keys_updateEntry :
    k ∈ (updateEntry init f d j).map Prod.fst ↔ k ∈ d.map Prod.fst ∨ k = j := by
  rw [updateEntry, map_key_upsert]
  by_cases h : j ∈ d.map Prod.fst
  · rw [if_pos h]
    exact ⟨.inl, fun hk => hk.elim id fun hk => hk ▸ h⟩
  · rw [if_neg h, mem_append, mem_singleton]

structure Accumulates (init : β) (step : β → α → β) (key : α → κ) (l : List α)
    (d : List (κ × β)) : Prop where
  entry : ∀ k, entryOf init d k = (l.filter fun a => key a = k).foldl step init
  mem_keys : ∀ k, k ∈ d.map Prod.fst ↔ k ∈ l.map key
  nodup : (d.map Prod.fst).Nodup

theorem Accumulates.nil : Accumulates init step key [] ([] : List (κ × β)) :=
  ⟨fun _ => rfl, fun _ => Iff.rfl, nodup_nil⟩

theorem Accumulates.add (h : Accumulates init step key l d) :
    Accumulates init step key (l ++ [a]) (updateEntry init (fun b => step b a) d (key a)) := by
  refine ⟨?_, ?_, nodup_upsert h.nodup⟩
  · intro k
    rw [entryOf_updateEntry, filter_append, foldl_append, h.entry]
    by_cases hk : key a = k
    · rw [if_pos hk, filter_cons_of_pos (by simpa using hk)]
      rfl
    · rw [if_neg hk, filter_cons_of_neg (by simpa using hk)]
      rfl
  · intro k
    rw [mem_keys_updateEntry, h.mem_keys, map_append, mem_append, map_singleton,
      mem_singleton]

/-! ## Sums -/

theorem foldl_sum (g : β → ℚ) (term : α → ℚ) (hstep : ∀ b a, g (step b a) = g b + term a) (b : β) :
    g (l.foldl step b) = g b + (l.map term).sum := by
  induction l generalizing b with
  | nil => simp
  | cons a l ih =>
    rw [foldl_cons, ih, hstep, map_cons, sum_cons, add_assoc]

/-- **Sums by key** add up to the sum, over any keys that are each listed once. -/
theorem sum_map_sum_filter (key : α → κ) {ks : List κ} {term : α → ℚ} (hks : ks.Nodup)
    (hmem : ∀ a ∈ l, key a ∈ ks) :
    (ks.map fun k => ((l.filter fun a => key a = k).map term).sum).sum = (l.map term).sum := by
  induction l with
  | nil => simp
  | cons a l ih =>
    have hone : (ks.map fun k => if key a = k then term a else 0).sum = term a := by
      rw [← sum_toFinset _ hks, Finset.sum_ite_eq,
        if_pos (mem_toFinset.2 (hmem a mem_cons_self))]
    rw [map_cons, sum_cons, ← ih fun b hb => hmem b (mem_cons_of_mem a hb)]
    refine Eq.trans ?_ (congrArg (· + _) hone)
    rw [← sum_map_add]
    congr 1
    refine map_congr_left fun k _ => ?_
    by_cases hk : key a = k
    · rw [filter_cons_of_pos (by simpa using hk), if_pos hk, map_cons, sum_cons]
    · rw [filter_cons_of_neg (by simpa using hk), if_neg hk, zero_add]

end Lib
