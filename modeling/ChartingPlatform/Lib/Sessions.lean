/-
  A table under transactions: the committed rows, and for each session the rows that it
  has written since its last commit, which it reads before the committed ones.
-/
import Mathlib.Logic.Function.Basic
import Mathlib.Data.Nat.Notation

namespace Lib

open Function

@[ext] structure Sessions (κ ν : Type) where
  committed : κ → Option ν
  pending : ℕ → κ → Option ν

namespace Sessions

variable {κ ν μ : Type}

def empty : Sessions κ ν := ⟨fun _ => none, fun _ _ => none⟩

def read (t : Sessions κ ν) (session : ℕ) (k : κ) : Option ν :=
  (t.pending session k).or (t.committed k)

def write [DecidableEq κ] (t : Sessions κ ν) (session : ℕ) (k : κ) (row : ν) : Sessions κ ν :=
  ⟨t.committed, update t.pending session (update (t.pending session) k (some row))⟩

def commit (t : Sessions κ ν) (session : ℕ) : Sessions κ ν where
  committed := t.read session
  pending := update t.pending session fun _ => none

def rollback (t : Sessions κ ν) (session : ℕ) : Sessions κ ν :=
  ⟨t.committed, update t.pending session fun _ => none⟩

def map (f : κ → ν → μ) (t : Sessions κ ν) : Sessions κ μ where
  committed k := (t.committed k).map (f k)
  pending session k := (t.pending session k).map (f k)

def All (P : κ → ν → Prop) (t : Sessions κ ν) : Prop :=
  (∀ k, ∀ row ∈ t.committed k, P k row) ∧ ∀ session k, ∀ row ∈ t.pending session k, P k row

section
variable {t : Sessions κ ν} {f : κ → ν → μ} {session s : ℕ} {k j : κ} {row : ν}
  {P : κ → ν → Prop}

theorem pending_write [DecidableEq κ] : (t.write session k row).pending s j =
    if s = session ∧ j = k then some row else t.pending s j := by
  unfold write
  dsimp only
  by_cases hs : s = session
  · subst hs
    by_cases hj : j = k
    · rw [if_pos ⟨rfl, hj⟩, hj, update_self, update_self]
    · rw [if_neg fun h => hj h.2, update_self, update_of_ne hj]
  · rw [if_neg fun h => hs h.1, update_of_ne hs]

theorem pending_rollback : (t.rollback session).pending s j =
    if s = session then none else t.pending s j := by
  unfold rollback
  dsimp only
  by_cases hs : s = session
  · rw [if_pos hs, hs, update_self]
  · rw [if_neg hs, update_of_ne hs]

theorem pending_commit : (t.commit session).pending s j =
    if s = session then none else t.pending s j := pending_rollback

theorem pending_map : (t.map f).pending s j = (t.pending s j).map (f j) := rfl

/-! ## Rows made from sources -/

theorem read_map : (t.map f).read session k = (t.read session k).map (f k) := by
  unfold read
  rw [pending_map]
  cases t.pending session k <;> rfl

theorem write_map [DecidableEq κ] :
    (t.map f).write session k (f k row) = (t.write session k row).map f := by
  refine Sessions.ext rfl ?_
  funext s j
  rw [pending_map, pending_write, pending_write, pending_map]
  split
  · rename_i h
    rw [h.2]
    rfl
  · rfl

theorem rollback_map : (t.map f).rollback session = (t.rollback session).map f := by
  refine Sessions.ext rfl ?_
  funext s j
  rw [pending_map, pending_rollback, pending_rollback, pending_map]
  split <;> rfl

theorem commit_map : (t.map f).commit session = (t.commit session).map f := by
  refine Sessions.ext ?_ ?_
  · funext j
    exact read_map
  · funext s j
    rw [pending_map, pending_commit, pending_commit, pending_map]
    split <;> rfl

/-! ## Conditions on all rows -/

theorem All.read (h : t.All P) (hr : t.read session k = some row) : P k row := by
  rcases Option.or_eq_some_iff.1 hr with hp | ⟨-, hc⟩
  · exact h.2 session k row hp
  · exact h.1 k row hc

theorem All.empty : (empty : Sessions κ ν).All P := by
  refine ⟨?_, ?_⟩
  · intro k row hr
    cases hr
  · intro s k row hr
    cases hr

theorem All.write [DecidableEq κ] (h : t.All P) (hr : P k row) : (t.write session k row).All P := by
  refine ⟨h.1, ?_⟩
  intro s j r hj
  rw [Option.mem_def, pending_write] at hj
  split at hj
  · rename_i hk
    rw [hk.2, ← Option.some.inj hj]
    exact hr
  · exact h.2 s j r hj

theorem All.rollback (h : t.All P) : (t.rollback session).All P := by
  refine ⟨h.1, ?_⟩
  intro s j r hj
  rw [Option.mem_def, pending_rollback] at hj
  split at hj
  · cases hj
  · exact h.2 s j r hj

theorem All.commit (h : t.All P) : (t.commit session).All P :=
  ⟨fun _ _ hr => h.read hr, h.rollback.2⟩

end

end Sessions

end Lib
