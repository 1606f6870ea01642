/-
  The archive of checkpoints (`_load_archived_checkpoint`, `_update_instance`):
  which histories it can be read from, and that an update keeps them readable.
-/
import ChartingPlatform.Forward.StateStore

namespace ChartingPlatform

open Lib

variable {sha256 : String → Digest} {ownerId instanceId : String} {t : ForwardCheckpointTransition}

/-! ## Deltas -/

theorem SetDelta.apply_between {prior values : Finset String} (hp : NotBlankIds prior)
    (hv : NotBlankIds values) : (SetDelta.between prior values hp hv).apply prior = .ok values := by
  have hset : prior \ (prior \ values) ∪ values \ prior = values := by
    ext id
    simp only [Finset.mem_union, Finset.mem_sdiff]
    tauto
  have hcheck : prior \ values ⊆ prior ∧ Disjoint prior (values \ prior) :=
    ⟨Finset.sdiff_subset, Finset.disjoint_sdiff⟩
  rw [SetDelta.apply, SetDelta.between, ensure_of hcheck, ok_bind]
  exact congrArg Except.ok hset

theorem checkParent_root
    (h : t.previousCheckpointFingerprint = none) : t.checkParent sha256 none = .ok () := by
  unfold ForwardCheckpointTransition.checkParent
  simp only [h]

theorem checkParent_some {p : ForwardStateCheckpoint}
    (h : t.previousCheckpointFingerprint = some (p.fingerprint sha256))
    (hid : p.instance_.instanceId = t.instance_.instanceId) :
    t.checkParent sha256 (some p) = .ok () := by
  unfold ForwardCheckpointTransition.checkParent
  simp only [h, hid, ensure, if_true, ok_bind]

/-- The transition leads from `previous` to `c`. -/
def Derives (sha256 : String → Digest) (previous : Option ForwardStateCheckpoint)
    (t : ForwardCheckpointTransition) (c : ForwardStateCheckpoint) : Prop :=
  t.checkpointFingerprint = c.fingerprint sha256 ∧
    t.previousCheckpointFingerprint = previous.map (·.fingerprint sha256) ∧
    t.instance_ = c.instance_ ∧ t.apply sha256 previous = .ok c

/-- The counters of `c` did not fall below those of `previous`. -/
def CountersGrow (previous : Option ForwardStateCheckpoint) (c : ForwardStateCheckpoint) : Prop :=
  previous.elim 0 (·.duplicateCount) ≤ c.duplicateCount ∧
    previous.elim 0 (·.outOfOrderCount) ≤ c.outOfOrderCount

/-- **A delta can be built** between two checkpoints of one instance with different
    fingerprints, unless a counter falls. -/
theorem between_of (previous : Option ForwardStateCheckpoint) (c : ForwardStateCheckpoint)
    (hid : ∀ p ∈ previous, p.instance_.instanceId = c.instance_.instanceId)
    (hgrow : CountersGrow previous c)
    (hfp : previous.map (·.fingerprint sha256) ≠ some (c.fingerprint sha256)) :
    ∃ t, ForwardCheckpointTransition.between sha256 previous c = .ok t ∧
      Derives sha256 previous t c := by
  have hsame : previous.map (·.instance_.instanceId) = none ∨
      previous.map (·.instance_.instanceId) = some c.instance_.instanceId := by
    cases previous with
    | none => exact .inl rfl
    | some p => exact .inr (congrArg some (hid p (Option.mem_some_self p)))
  have hne : previous ≠ some c := by
    rintro rfl
    exact hfp rfl
  have hparent : (transitionOf sha256 previous c hfp).checkParent sha256 previous = .ok () := by
    cases previous with
    | none => exact checkParent_root (by simp only [transitionOf, Option.map_none])
    | some p => exact checkParent_some rfl (hid p (Option.mem_some_self p))
  have happly : (transitionOf sha256 previous c hfp).apply sha256 previous = .ok c := by
    obtain ⟨hdup, hlate⟩ := hgrow
    rw [ForwardCheckpointTransition.apply, hparent, ok_bind]
    simp only [transitionOf, SetDelta.apply_between, makeCheckpoint_self, ensure, hdup, hlate,
      and_self, if_true, ok_bind, pure_eq_ok]
  refine ⟨transitionOf sha256 previous c hfp, ?_, rfl, rfl, rfl, happly⟩
  rw [ForwardCheckpointTransition.between, ensure_of hsame, ok_bind, ensure_of hne, ok_bind,
    dif_neg hfp]
  simp only [happly, ensure, if_true, ok_bind]

/-! ## Histories that can be read -/

/-- The rows, in the order of their insertion, archive the checkpoints `cs` of one instance:
    a root, and each further one from an earlier one. -/
inductive Linked (sha256 : String → Digest) (ownerId instanceId : String) :
    List HistoryRow → List ForwardStateCheckpoint → Prop
  | root {t c} : c.instance_.instanceId = instanceId → Derives sha256 none t c →
      Linked sha256 ownerId instanceId [historyValues sha256 ownerId t] [c]
  | snoc {rows cs t p c} : Linked sha256 ownerId instanceId rows cs → p ∈ cs →
      c.instance_.instanceId = instanceId → Derives sha256 (some p) t c →
      c.fingerprint sha256 ∉ cs.map (·.fingerprint sha256) →
      Linked sha256 ownerId instanceId (rows ++ [historyValues sha256 ownerId t]) (cs ++ [c])

section
variable {rows : List HistoryRow} {cs : List ForwardStateCheckpoint}

theorem Linked.fingerprints (h : Linked sha256 ownerId instanceId rows cs) :
    rows.map HistoryRow.checkpointFingerprint = cs.map (·.fingerprint sha256) := by
  induction h with
  | root _ hd => exact congrArg (fun fp => [fp]) hd.1
  | snoc _ _ _ hd _ ih =>
    rw [List.map_append, List.map_append, ih]
    exact congrArg (fun fp => _ ++ [fp]) hd.1

theorem Linked.nodup (h : Linked sha256 ownerId instanceId rows cs) :
    (rows.map HistoryRow.checkpointFingerprint).Nodup := by
  induction h with
  | root => exact List.nodup_singleton _
  | snoc h _ _ hd hnew ih =>
    refine nodup_insertNew ih (insertNew_eq_some.2 ⟨?_, rfl⟩)
    rw [h.fingerprints, historyValues, hd.1]
    exact hnew

theorem Linked.authentic (h : Linked sha256 ownerId instanceId rows cs) :
    ∀ row ∈ rows, historyTransition sha256 ownerId instanceId row = .ok row.transition := by
  have hok : ∀ {t : ForwardCheckpointTransition} {previous c}, c.instance_.instanceId = instanceId →
      Derives sha256 previous t c →
      historyTransition sha256 ownerId instanceId (historyValues sha256 ownerId t) = .ok t := by
    intro t previous c hid hd
    have hti : t.instance_.instanceId = instanceId := hd.2.2.1 ▸ hid
    simp only [historyTransition, historyValues, ensure, hti, and_self, if_true, ok_bind,
      pure_eq_ok]
  induction h with
  | root hid hd =>
    intro row hrow
    obtain rfl := List.mem_singleton.1 hrow
    exact hok hid hd
  | snoc _ _ hid hd _ ih =>
    intro row hrow
    rcases List.mem_append.1 hrow with hrow | hrow
    · exact ih row hrow
    · obtain rfl := List.mem_singleton.1 hrow
      exact hok hid hd

theorem historyTransitions_of (acc : List ForwardCheckpointTransition)
    (hauth : ∀ row ∈ rows, historyTransition sha256 ownerId instanceId row = .ok row.transition)
    (hn : (acc.map ForwardCheckpointTransition.checkpointFingerprint ++
      rows.map fun row => row.transition.checkpointFingerprint).Nodup) :
    historyTransitions sha256 ownerId instanceId rows acc =
      .ok (acc ++ rows.map HistoryRow.transition) := by
  induction rows generalizing acc with
  | nil => simp [historyTransitions]
  | cons row rows ih =>
    have hnew : row.transition.checkpointFingerprint ∉
        acc.map ForwardCheckpointTransition.checkpointFingerprint := by
      intro hmem
      exact List.disjoint_of_nodup_append hn hmem (by simp)
    rw [historyTransitions, hauth row List.mem_cons_self, ok_bind, ensure_of hnew, ok_bind, ih]
    · rw [List.map_cons, List.append_assoc]
      rfl
    · exact fun row hrow => hauth row (List.mem_cons_of_mem _ hrow)
    · rw [List.map_append, List.append_assoc]
      exact hn

def TableOf (rows : List HistoryRow) (table : List ForwardCheckpointTransition) : Prop :=
  ∀ row ∈ rows, rowWith ForwardCheckpointTransition.checkpointFingerprint
    row.transition.checkpointFingerprint table = some row.transition

/-- **The walk to the root** from an archived checkpoint rebuilds it.  It never visits a row
    twice because a parent was inserted earlier. -/
theorem parentChain_linked {table : List ForwardCheckpointTransition}
    (h : Linked sha256 ownerId instanceId rows cs) (htab : TableOf rows table) :
    ∀ c ∈ cs, ∀ fuel, cs.length ≤ fuel → ∀ visited,
      (∀ fp ∈ visited, fp ∉ cs.map (·.fingerprint sha256)) →
      ∃ t chain, rowWith ForwardCheckpointTransition.checkpointFingerprint (c.fingerprint sha256)
          table = some t ∧ parentChain table fuel visited t = .ok chain ∧
        applyChain sha256 chain = .ok (some c) := by
  induction h with
  | @root t c _ hd =>
    intro c' hc fuel hfuel visited hvis
    obtain rfl := List.mem_singleton.1 hc
    obtain ⟨htarget, hparent, -, happly⟩ := hd
    obtain ⟨n, rfl⟩ : ∃ n, fuel = n + 1 := ⟨fuel - 1, by simp at hfuel; omega⟩
    have hnew : t.checkpointFingerprint ∉ visited := fun hmem => hvis _ hmem (by simp [htarget])
    refine ⟨t, [t], ?_, ?_, ?_⟩
    · rw [← htarget]
      exact htab _ (List.mem_singleton.2 rfl)
    · rw [parentChain, ensure_of hnew, ok_bind, hparent]
      rfl
    · rw [applyChain, applyChain, ok_bind, happly, ok_bind]
      rfl
  | @snoc rows cs t p c hlink hp _ hd hnew ih =>
    have ih := ih fun row hrow => htab row (List.mem_append_left _ hrow)
    intro c' hc fuel hfuel visited hvis
    rw [List.length_append, List.length_singleton] at hfuel
    have hvis' : ∀ fp ∈ visited, fp ∉ cs.map (·.fingerprint sha256) := by
      intro fp hfp hmem
      exact hvis fp hfp (by rw [List.map_append]; exact List.mem_append_left _ hmem)
    rcases List.mem_append.1 hc with hc | hc
    · exact ih c' hc fuel (by omega) visited hvis'
    · obtain rfl := List.mem_singleton.1 hc
      obtain ⟨htarget, hparent, -, happly⟩ := hd
      obtain ⟨n, rfl⟩ : ∃ n, fuel = n + 1 := ⟨fuel - 1, by omega⟩
      have hunvisited : t.checkpointFingerprint ∉ visited :=
        fun hmem => hvis _ hmem (by simp [htarget])
      obtain ⟨tp, chain, hfind, hchain, hrebuilt⟩ := ih p hp n (by omega)
        (t.checkpointFingerprint :: visited) (by
          intro fp hfp
          rcases List.mem_cons.1 hfp with rfl | hfp
          · exact htarget ▸ hnew
          · exact hvis' fp hfp)
      refine ⟨t, t :: chain, ?_, ?_, ?_⟩
      · rw [← htarget]
        exact htab _ (List.mem_append_right _ (List.mem_singleton.2 rfl))
      · rw [parentChain, ensure_of hunvisited, ok_bind, hparent]
        simp only [Option.map_some, hfind, hchain, ok_bind, pure_eq_ok]
      · rw [applyChain, hrebuilt, ok_bind, happly, ok_bind]
        rfl

end

section
variable {rows rows' : ForwardRows} {cs : List ForwardStateCheckpoint}
  {c current next : ForwardStateCheckpoint} {t : ForwardCheckpointTransition}

theorem table_linked (h : Linked sha256 ownerId instanceId rows.historyRows cs) :
    ∃ table, historyTransitions sha256 ownerId instanceId
        (sortBy (fun row => row.checkpointFingerprint.text) rows.historyRows) [] = .ok table ∧
      table.length = cs.length ∧ TableOf rows.historyRows table ∧
      (table.map ForwardCheckpointTransition.checkpointFingerprint).Perm
        (cs.map (·.fingerprint sha256)) := by
  have hp := perm_sortBy (fun row : HistoryRow => row.checkpointFingerprint.text) rows.historyRows
  have hfp : rows.historyRows.map (fun row => row.transition.checkpointFingerprint) =
      cs.map (·.fingerprint sha256) := by
    rw [← h.fingerprints]
    refine List.map_congr_left fun row hrow => ?_
    obtain ⟨_, hauth, -⟩ := bind_eq_ok.1 (h.authentic row hrow)
    exact (ensure_eq_ok.1 hauth).2.2.2.1.symm
  have hperm : ((sortBy (fun row => row.checkpointFingerprint.text) rows.historyRows).map
      fun row => row.transition.checkpointFingerprint).Perm (cs.map (·.fingerprint sha256)) :=
    hfp ▸ hp.map _
  have hn : ((sortBy (fun row => row.checkpointFingerprint.text) rows.historyRows).map
      fun row => row.transition.checkpointFingerprint).Nodup :=
    hperm.nodup_iff.2 (h.fingerprints ▸ h.nodup)
  refine ⟨_, historyTransitions_of []
    (fun row hrow => h.authentic row (hp.mem_iff.1 hrow)) hn, ?_, ?_, ?_⟩
  · rw [List.nil_append, List.length_map, ← List.length_map (f := fun row : HistoryRow =>
      row.transition.checkpointFingerprint), hperm.length_eq, List.length_map]
  · intro row hrow
    refine (rowWith_eq_some ?_).2 ⟨?_, rfl⟩
    · rwa [List.nil_append, List.map_map]
    · rw [List.nil_append]
      exact List.mem_map_of_mem (hp.mem_iff.2 hrow)
  · rw [List.nil_append, List.map_map]
    exact hperm

/-- **Every archived checkpoint is rebuilt.** -/
theorem loadArchived_linked (h : Linked sha256 ownerId instanceId rows.historyRows cs)
    (hc : c ∈ cs) :
    loadArchivedCheckpoint sha256 ownerId instanceId (c.fingerprint sha256) rows =
      .ok (some c) := by
  obtain ⟨table, htable, hlen, htab, -⟩ := table_linked h
  obtain ⟨t, chain, hfind, hchain, hrebuilt⟩ :=
    parentChain_linked h htab c hc table.length hlen.ge [] (by simp)
  rw [loadArchivedCheckpoint, htable, ok_bind]
  simp only [hfind, hchain, hrebuilt, ensure, if_true, ok_bind, pure_eq_ok]

theorem ensureHistoryBase_linked
    (h : Linked sha256 ownerId c.instance_.instanceId rows.historyRows cs) (hc : c ∈ cs) :
    ensureCheckpointHistoryBase sha256 ownerId c rows = .ok rows := by
  rw [ensureCheckpointHistoryBase, loadArchived_linked h hc, ok_bind]
  simp only [ensure, if_true, ok_bind, pure_eq_ok]

theorem insertTransition_new
    (hnew : t.checkpointFingerprint ∉ rows.historyRows.map HistoryRow.checkpointFingerprint) :
    insertCheckpointTransition sha256 ownerId t rows =
      .ok { rows with historyRows := rows.historyRows ++ [historyValues sha256 ownerId t] } := by
  rw [insertCheckpointTransition, insertNew_eq_some.2 ⟨hnew, rfl⟩]

/-- **An update to a new checkpoint succeeds** and archives it. -/
theorem updateInstance_of (next : ForwardStateCheckpoint)
    (h : Linked sha256 ownerId current.instance_.instanceId rows.historyRows cs)
    (hcur : current ∈ cs)
    (hrow : rows.instanceRow = some (checkpointValues sha256 ownerId current))
    (hid : next.instance_.instanceId = current.instance_.instanceId)
    (hgrow : CountersGrow (some current) next)
    (hnew : next.fingerprint sha256 ∉ cs.map (·.fingerprint sha256)) :
    ∃ history, updateInstance sha256 ownerId current next rows =
        .ok { rows with
          instanceRow := some (checkpointValues sha256 ownerId next)
          historyRows := history } ∧
      Linked sha256 ownerId current.instance_.instanceId history (cs ++ [next]) := by
  have hne : (some current).map (·.fingerprint sha256) ≠ some (next.fingerprint sha256) := by
    intro heq
    exact hnew (Option.some.inj heq ▸ List.mem_map_of_mem hcur)
  obtain ⟨t, ht, hd⟩ := between_of (some current) next
    (fun p hp => Option.some.inj hp ▸ hid.symm) hgrow hne
  have hcas : ∃ row ∈ rows.instanceRow, casMatches sha256 ownerId current next row :=
    ⟨_, hrow, rfl, hid.symm, rfl, rfl⟩
  have hdiff : next ≠ current := by
    rintro rfl
    exact hne rfl
  refine ⟨_, ?_, .snoc h hcur hid hd hnew⟩
  rw [updateInstance, ensure_of hid, ok_bind, ensureHistoryBase_linked h hcur, ok_bind]
  simp only [ensure_of hcas, ok_bind, if_neg hdiff, ht]
  refine insertTransition_new ?_
  rw [hd.1]
  exact h.fingerprints ▸ hnew

/-! ## What writes leave behind -/

theorem insertTransition_frame (h : insertCheckpointTransition sha256 ownerId t rows = .ok rows') :
    ∃ history, rows' = { rows with historyRows := history } := by
  unfold insertCheckpointTransition at h
  split at h
  · exact ⟨_, (Except.ok.inj h).symm⟩
  · split at h
    · cases h
    · obtain ⟨-, -, h⟩ := bind_eq_ok.1 h
      exact ⟨_, (Except.ok.inj h).symm⟩

theorem ensureHistoryBase_frame (h : ensureCheckpointHistoryBase sha256 ownerId c rows = .ok rows') :
    ∃ history, rows' = { rows with historyRows := history } := by
  obtain ⟨archived, -, h⟩ := bind_eq_ok.1 h
  cases archived with
  | some archived =>
    obtain ⟨-, -, h⟩ := bind_eq_ok.1 h
    exact ⟨_, (Except.ok.inj h).symm⟩
  | none =>
    obtain ⟨-, -, h⟩ := bind_eq_ok.1 h
    obtain ⟨t, -, h⟩ := bind_eq_ok.1 h
    exact insertTransition_frame h

/-- **What an update leaves**: the row of the new checkpoint, and every other table but the
    history as it was. -/
theorem updateInstance_spec (h : updateInstance sha256 ownerId current next rows = .ok rows') :
    next.instance_.instanceId = current.instance_.instanceId ∧
    ∃ history, rows' = { rows with
      instanceRow := some (checkpointValues sha256 ownerId next)
      historyRows := history } := by
  obtain ⟨_, hid, h⟩ := bind_eq_ok.1 h
  obtain ⟨rows₁, hbase, h⟩ := bind_eq_ok.1 h
  obtain ⟨-, -, h⟩ := bind_eq_ok.1 h
  obtain ⟨history, rfl⟩ := ensureHistoryBase_frame hbase
  refine ⟨ensure_eq_ok.1 hid, ?_⟩
  dsimp only at h
  split_ifs at h
  · exact ⟨_, (Except.ok.inj h).symm⟩
  · obtain ⟨t, -, h⟩ := bind_eq_ok.1 h
    obtain ⟨history', rfl⟩ := insertTransition_frame h
    exact ⟨history', rfl⟩

end

end ChartingPlatform
