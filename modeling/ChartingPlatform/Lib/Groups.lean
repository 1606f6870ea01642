/-
  Lists under keys: a dictionary that is filled by `groups.setdefault(key, []).append(a)`.

  Each key has the elements with that key, in their order (`mem_groupsBy`).
-/
import Mathlib

namespace Lib

open List

variable {α κ : Type} [DecidableEq κ] {key : α → κ} {groups : List (κ × List α)} {k : κ} {a : α}
  {l : List α} {g : κ × List α}

/-- `groups.setdefault(k, []).append(a)`. -/
def addTo (groups : List (κ × List α)) (k : κ) (a : α) : List (κ × List α) :=
  if k ∈ groups.map Prod.fst then groups.map fun g => if g.1 = k then (k, g.2 ++ [a]) else g
  else groups ++ [(k, [a])]

def groupsBy (key : α → κ) (l : List α) : List (κ × List α) :=
  l.foldl (fun groups a => addTo groups (key a) a) []

theorem groupsBy_append : groupsBy key (l ++ [a]) = addTo (groupsBy key l) (key a) a := by
  unfold groupsBy
  rw [foldl_append]
  rfl

theorem keys_addTo : (addTo groups k a).map Prod.fst =
    if k ∈ groups.map Prod.fst then groups.map Prod.fst else groups.map Prod.fst ++ [k] := by
  unfold addTo
  split_ifs with h
  · rw [map_map]
    refine map_congr_left fun g _ => ?_
    dsimp only [Function.comp]
    split_ifs with hg
    · exact hg.symm
    · rfl
  · rw [map_append]
    rfl

theorem nodup_groupsBy : ((groupsBy key l).map Prod.fst).Nodup := by
  induction l using List.reverseRecOn with
  | nil => exact nodup_nil
  | append_singleton l a ih =>
    rw [groupsBy_append, keys_addTo]
    split_ifs with h
    · exact ih
    · exact nodup_append.2 ⟨ih, nodup_singleton _, by
        intro x hx y hy
        rw [mem_singleton] at hy
        exact fun heq => h (hy ▸ heq ▸ hx)⟩

/-- **The groups** are the elements with one key. -/
theorem mem_groupsBy :
    g ∈ groupsBy key l ↔ g.2 = l.filter (fun a => key a = g.1) ∧ g.2 ≠ [] := by
  induction l using List.reverseRecOn generalizing g with
  | nil =>
    constructor
    · intro h
      exact absurd h not_mem_nil
    · rintro ⟨hnil, hne⟩
      exact absurd hnil hne
  | append_singleton l a ih =>
    have hkeys : key a ∈ (groupsBy key l).map Prod.fst ↔ l.filter (fun b => key b = key a) ≠ [] := by
      constructor
      · intro h
        obtain ⟨g, hg, hkey⟩ := mem_map.1 h
        obtain ⟨hfilter, hne⟩ := ih.1 hg
        rw [hkey] at hfilter
        exact hfilter ▸ hne
      · intro h
        exact mem_map.2 ⟨(key a, _), ih.2 ⟨rfl, h⟩, rfl⟩
    rw [groupsBy_append, filter_append]
    obtain ⟨k, as⟩ := g
    dsimp only
    unfold addTo
    by_cases hk : key a = k
    · subst hk
      have hlast : [a].filter (fun b => key b = key a) = [a] := by simp
      rw [hlast]
      split_ifs with h
      · constructor
        · intro hmem
          obtain ⟨g, hg, heq⟩ := mem_map.1 hmem
          split_ifs at heq with hkey
          · obtain ⟨hfilter, -⟩ := ih.1 hg
            rw [hkey] at hfilter
            cases heq
            exact ⟨by rw [hfilter], by simp⟩
          · exact absurd (congrArg Prod.fst heq) hkey
        · rintro ⟨hfilter, -⟩
          rw [hfilter]
          exact mem_map.2 ⟨(key a, _), ih.2 ⟨rfl, hkeys.1 h⟩, if_pos rfl⟩
      · have hnil : l.filter (fun b => key b = key a) = [] := by
          by_contra hne
          exact h (hkeys.2 hne)
        rw [hnil, nil_append, mem_append, mem_singleton]
        constructor
        · rintro (hmem | heq)
          · exact absurd (mem_map_of_mem (f := Prod.fst) hmem) h
          · cases heq
            exact ⟨rfl, by simp⟩
        · rintro ⟨hfilter, -⟩
          rw [hfilter]
          exact .inr rfl
    · have hlast : [a].filter (fun b => key b = k) = [] := by simp [hk]
      rw [hlast, append_nil, ← @ih (k, as)]
      split_ifs with h
      · constructor
        · intro hmem
          obtain ⟨g, hg, heq⟩ := mem_map.1 hmem
          split_ifs at heq with hkey
          · exact absurd (congrArg Prod.fst heq) hk
          · exact heq ▸ hg
        · intro hmem
          exact mem_map.2 ⟨(k, as), hmem, if_neg (Ne.symm hk)⟩
      · rw [mem_append, mem_singleton]
        constructor
        · rintro (hmem | heq)
          · exact hmem
          · exact absurd (congrArg Prod.fst heq).symm hk
        · exact .inl

theorem perm_flatMap_addTo (hn : (groups.map Prod.fst).Nodup) :
    (addTo groups k a).flatMap Prod.snd ~ groups.flatMap Prod.snd ++ [a] := by
  unfold addTo
  split_ifs with h
  · induction groups with
    | nil => cases h
    | cons g groups ih =>
      rw [map_cons, nodup_cons] at hn
      rw [map_cons, flatMap_cons, flatMap_cons]
      by_cases hg : g.1 = k
      · -- the other groups have other keys
        have hrest : groups.map (fun g => if g.1 = k then (k, g.2 ++ [a]) else g) = groups := by
          refine (map_congr_left fun g' hg' => if_neg fun hk => hn.1 ?_).trans (map_id _)
          exact hg ▸ hk ▸ mem_map_of_mem hg'
        rw [hrest, if_pos hg, append_assoc, append_assoc]
        exact perm_append_comm.append_left g.2
      · rw [if_neg hg, append_assoc]
        refine (ih hn.2 ?_).append_left g.2
        exact (mem_cons.1 h).resolve_left (Ne.symm hg)
  · rw [flatMap_append]
    rfl

theorem perm_flatMap_groupsBy : (groupsBy key l).flatMap Prod.snd ~ l := by
  induction l using List.reverseRecOn with
  | nil => rfl
  | append_singleton l a ih =>
    rw [groupsBy_append]
    exact (perm_flatMap_addTo nodup_groupsBy).trans (ih.append_right [a])

end Lib
