/-
  The order of the requests: the allocator reads them into groups that it sorts, so a
  decision does not depend on it.
-/
import ChartingPlatform.Allocation.Targets

namespace ChartingPlatform

open Lib List

def PortfolioComposition.Declares (portfolio : PortfolioComposition) (k : TargetKey) : Prop :=
  ∃ c, portfolio.component k.1 = some c ∧ k.2 ∈ c.instrumentIds

structure Admissible (portfolio : PortfolioComposition) (requests : List ComponentTargetRequest) :
    Prop where
  declared : ∀ r ∈ requests, portfolio.Declares r.key
  unique : (requests.map ComponentTargetRequest.key).Nodup

section
variable {enc : AccountEncoding} {arith : Arithmetic} {portfolio : PortfolioComposition}
  {snapshot : PortfolioExposureSnapshot} {rs rs' : List ComponentTargetRequest}
  {r : ComponentTargetRequest} {groups : List (String × List ComponentTargetRequest)}
  {read read' : ReadRequests} {q : ComponentTargetRequest}

/-! ## Admission -/

theorem readRequest_eq_ok : readRequest portfolio read r = .ok read' ↔
    portfolio.Declares r.key ∧ r.key ∉ read.keys ∧
      read' = ⟨r.key :: read.keys, addTo read.byInstrument r.instrumentId r⟩ := by
  unfold readRequest PortfolioComposition.Declares
  constructor
  · intro h
    split at h
    · cases h
    · rename_i c hc
      simp only [bind_eq_ok, ensure_eq_ok, pure_eq_ok, Except.ok.injEq] at h
      obtain ⟨-, hdeclared, -, hnew, rfl⟩ := h
      exact ⟨⟨c, hc, hdeclared⟩, hnew, rfl⟩
  · rintro ⟨⟨c, hc, hdeclared⟩, hnew, rfl⟩
    have hc' : portfolio.component r.componentId = some c := hc
    have hdeclared' : r.instrumentId ∈ c.instrumentIds := hdeclared
    rw [hc']
    dsimp only
    rw [ensure_of hdeclared', ok_bind, ensure_of hnew, ok_bind, pure_eq_ok]

theorem foldlM_readRequest : rs.foldlM (readRequest portfolio) {} = .ok read ↔
    Admissible portfolio rs ∧ read = ⟨(rs.map ComponentTargetRequest.key).reverse,
      groupsBy ComponentTargetRequest.instrumentId rs⟩ := by
  induction rs using List.reverseRecOn generalizing read with
  | nil =>
    rw [foldlM_nil, pure_eq_ok, Except.ok.injEq, eq_comm]
    exact ⟨fun h => ⟨⟨by simp, nodup_nil⟩, h⟩, fun h => h.2⟩
  | append_singleton rs r ih =>
    simp only [foldlM_concat_eq_ok, readRequest_eq_ok, ih]
    constructor
    · rintro ⟨_, ⟨hadmissible, rfl⟩, hdeclared, hnew, rfl⟩
      rw [mem_reverse] at hnew
      refine ⟨⟨fun q hq => ?_, ?_⟩, ?_⟩
      · rcases mem_append.1 hq with hq | hq
        · exact hadmissible.declared q hq
        · rw [mem_singleton.1 hq]
          exact hdeclared
      · rw [map_append, map_singleton, nodup_append]
        refine ⟨hadmissible.unique, nodup_singleton _, ?_⟩
        rintro k hk j hj rfl
        exact hnew (mem_singleton.1 hj ▸ hk)
      · rw [groupsBy_append, map_append, reverse_append]
        rfl
    · rintro ⟨hadmissible, rfl⟩
      have hunique := hadmissible.unique
      rw [map_append, map_singleton, nodup_append] at hunique
      refine ⟨_, ⟨⟨fun q hq => hadmissible.declared q (mem_append_left _ hq), hunique.1⟩, rfl⟩,
        hadmissible.declared r (by simp), ?_, ?_⟩
      · rw [mem_reverse]
        exact fun h => hunique.2.2 _ h _ mem_cons_self rfl
      · rw [groupsBy_append, map_append, reverse_append]
        rfl

theorem requestsByInstrument_eq_ok : requestsByInstrument portfolio rs = .ok groups ↔
    Admissible portfolio rs ∧ groups = groupsBy ComponentTargetRequest.instrumentId rs := by
  unfold requestsByInstrument
  rw [map_eq_ok]
  simp only [foldlM_readRequest]
  constructor
  · rintro ⟨_, ⟨hadmissible, rfl⟩, rfl⟩
    exact ⟨hadmissible, rfl⟩
  · rintro ⟨hadmissible, rfl⟩
    exact ⟨_, ⟨hadmissible, rfl⟩, rfl⟩

theorem Admissible.perm (h : Admissible portfolio rs) (hp : rs ~ rs') : Admissible portfolio rs' :=
  ⟨fun r hr => h.declared r (hp.mem_iff.2 hr), (hp.map _).nodup_iff.1 h.unique⟩

/-! ## Groups -/

theorem Admissible.eq_of_order (h : Admissible portfolio rs)
    (hr : r ∈ rs) (hq : q ∈ rs) (heq : requestOrder r = requestOrder q) : r = q := by
  have hpair : (r.instrumentId, r.componentId) = (q.instrumentId, q.componentId) :=
    toLex.injective heq
  rw [Prod.mk.injEq] at hpair
  exact inj_on_of_nodup_map h.unique hr hq (Prod.ext hpair.2 hpair.1)

theorem perm_sortedRequests :
    (sortedRequests (groupsBy ComponentTargetRequest.instrumentId rs)).flatten ~ rs := by
  unfold sortedRequests
  rw [← flatMap_def]
  calc (sortBy Prod.fst (groupsBy ComponentTargetRequest.instrumentId rs)).flatMap
        (fun g => sortBy ComponentTargetRequest.componentId g.2)
      ~ (groupsBy ComponentTargetRequest.instrumentId rs).flatMap
        (fun g => sortBy ComponentTargetRequest.componentId g.2) :=
        (perm_sortBy _ _).flatMap_right _
    _ ~ (groupsBy ComponentTargetRequest.instrumentId rs).flatMap Prod.snd :=
        List.Perm.flatMap_left _ fun g _ => perm_sortBy _ g.2
    _ ~ rs := perm_flatMap_groupsBy

theorem instrument_of_mem_group {g : String × List ComponentTargetRequest}
    (hg : g ∈ sortBy Prod.fst (groupsBy ComponentTargetRequest.instrumentId rs))
    (hr : r ∈ sortBy ComponentTargetRequest.componentId g.2) : r ∈ rs ∧ r.instrumentId = g.1 := by
  rw [mem_sortBy] at hg hr
  rw [(mem_groupsBy.1 hg).1, mem_filter, decide_eq_true_eq] at hr
  exact hr

theorem pairwise_sortedRequests :
    (sortedRequests (groupsBy ComponentTargetRequest.instrumentId rs)).flatten.Pairwise
      fun r q => requestOrder r ≤ requestOrder q := by
  unfold sortedRequests
  rw [pairwise_flatten]
  constructor
  · intro l hl
    obtain ⟨g, hg, rfl⟩ := mem_map.1 hl
    refine (pairwise_sortBy ComponentTargetRequest.componentId g.2).imp_of_mem ?_
    intro r q hr hq hle
    have hinstrument : r.instrumentId = q.instrumentId :=
      (instrument_of_mem_group hg hr).2.trans (instrument_of_mem_group hg hq).2.symm
    exact Prod.Lex.toLex_le_toLex.2 (.inr ⟨hinstrument, hle⟩)
  · rw [pairwise_map]
    refine (pairwise_lt_sortBy nodup_groupsBy).imp_of_mem fun {g g'} hg hg' hlt => ?_
    intro r hr q hq
    have hinstruments : r.instrumentId < q.instrumentId := by
      rw [(instrument_of_mem_group hg hr).2, (instrument_of_mem_group hg' hq).2]
      exact hlt
    exact Prod.Lex.toLex_le_toLex.2 (.inl hinstruments)

/-- **The requests are resolved** in the order of their instruments and components. -/
theorem flatten_sortedRequests (h : Admissible portfolio rs) :
    (sortedRequests (groupsBy ComponentTargetRequest.instrumentId rs)).flatten =
      sortBy requestOrder rs := by
  have hsorted : sortBy requestOrder
      (sortedRequests (groupsBy ComponentTargetRequest.instrumentId rs)).flatten =
        (sortedRequests (groupsBy ComponentTargetRequest.instrumentId rs)).flatten :=
    List.Pairwise.insertionSort_eq pairwise_sortedRequests
  rw [← hsorted]
  refine sortBy_eq_of_perm perm_sortedRequests fun r hr q hq heq => ?_
  exact h.eq_of_order (perm_sortedRequests.mem_iff.1 hr) (perm_sortedRequests.mem_iff.1 hq) heq

/-! ## Conflicts -/

/-- A request may be selected beside another one for its instrument. -/
def Outranks (portfolio : PortfolioComposition) (r q : ComponentTargetRequest) : Prop :=
  match portfolio.sharedRiskPolicy.targetConflictPolicy with
  | .reject => False
  | .highestPriority => portfolio.priority q.componentId < portfolio.priority r.componentId
  | .sumComponentTargets => True

instance (r q : ComponentTargetRequest) : Decidable (Outranks portfolio r q) :=
  match h : portfolio.sharedRiskPolicy.targetConflictPolicy with
  | .reject => isFalse (by unfold Outranks; rw [h]; exact id)
  | .highestPriority => decidable_of_iff
      (portfolio.priority q.componentId < portfolio.priority r.componentId)
      (by unfold Outranks; rw [h])
  | .sumComponentTargets => isTrue (by unfold Outranks; rw [h]; trivial)

def Selected (portfolio : PortfolioComposition) (requests : List ComponentTargetRequest)
    (r : ComponentTargetRequest) : Prop :=
  ∀ q ∈ requests, q.instrumentId = r.instrumentId → q = r ∨ Outranks portfolio r q

instance : Decidable (Selected portfolio rs r) := inferInstanceAs (Decidable (∀ q ∈ rs, _))

def rejectionCode (portfolio : PortfolioComposition) (requests : List ComponentTargetRequest)
    (r : ComponentTargetRequest) : AllocationRejectionCode :=
  match portfolio.sharedRiskPolicy.targetConflictPolicy with
  | .highestPriority =>
    if ∃ q ∈ requests, q.instrumentId = r.instrumentId ∧ Selected portfolio requests q then
      .lowerPriority
    else .priorityTie
  | _ => .targetConflict

def selectedRequests (portfolio : PortfolioComposition) (requests : List ComponentTargetRequest) :
    List ComponentTargetRequest :=
  (sortBy requestOrder requests).filter fun r => Selected portfolio requests r

/-- The rejections, in the order in which they are resolved. -/
def rejections (portfolio : PortfolioComposition) (requests : List ComponentTargetRequest) :
    List TargetRejection :=
  ((sortBy requestOrder requests).filter fun r => ¬ Selected portfolio requests r).map fun r =>
    r.reject (rejectionCode portfolio requests r)

theorem exists_ne_of_nodup (hn : rs.Nodup) (hlength : 1 < rs.length) (r : ComponentTargetRequest) :
    ∃ q ∈ rs, q ≠ r := by
  match rs, hn, hlength with
  | a :: b :: _, hn, _ =>
    have hab : a ≠ b := fun h => (nodup_cons.1 hn).1 (h ▸ mem_cons_self)
    by_cases ha : a = r
    · exact ⟨b, by simp, fun hb => hab (ha.trans hb.symm)⟩
    · exact ⟨a, by simp, ha⟩

theorem resolved_of_all (h : ∀ r ∈ rs, Selected portfolio rs r) :
    ((rs.filter fun r => ¬ Selected portfolio rs r).map (fun r =>
        r.reject (rejectionCode portfolio rs r)), rs.filter fun r => Selected portfolio rs r) =
      (([] : List TargetRejection), rs) := by
  rw [filter_eq_nil_iff.2 (by simpa using h), filter_eq_self.2 (by simpa using h)]
  rfl

theorem resolved_of_none {code : AllocationRejectionCode} (h : ∀ r ∈ rs, ¬ Selected portfolio rs r)
    (hcode : ∀ r ∈ rs, rejectionCode portfolio rs r = code) :
    ((rs.filter fun r => ¬ Selected portfolio rs r).map (fun r =>
        r.reject (rejectionCode portfolio rs r)), rs.filter fun r => Selected portfolio rs r) =
      (rs.map (·.reject code), ([] : List ComponentTargetRequest)) := by
  rw [filter_eq_self.2 (by simpa using h), filter_eq_nil_iff.2 (by simpa using h)]
  exact congrArg (·, _) (map_congr_left fun r hr => by rw [hcode r hr])

theorem le_highestPriority (hr : r ∈ rs) :
    portfolio.priority r.componentId ≤ highestPriority portfolio rs := by
  unfold highestPriority
  have hmem := mem_map_of_mem (f := fun r => portfolio.priority r.componentId) hr
  cases hmax : (rs.map fun r => portfolio.priority r.componentId).max? with
  | none =>
    rw [max?_eq_none_iff.1 hmax] at hmem
    cases hmem
  | some m => exact (max?_eq_some_iff.1 hmax).2 _ hmem

theorem selected_iff_winner
    (hpolicy : portfolio.sharedRiskPolicy.targetConflictPolicy = .highestPriority) (hn : rs.Nodup)
    (hsame : ∀ r ∈ rs, ∀ q ∈ rs, q.instrumentId = r.instrumentId) (hr : r ∈ rs) :
    Selected portfolio rs r ↔
      rs.filter (fun q => portfolio.priority q.componentId = highestPriority portfolio rs) = [r] := by
  have houtranks : ∀ q, Outranks portfolio r q ↔
      portfolio.priority q.componentId < portfolio.priority r.componentId := by
    intro q
    unfold Outranks
    rw [hpolicy]
  constructor
  · intro hselected
    have hbelow : ∀ q ∈ rs, q = r ∨
        portfolio.priority q.componentId < portfolio.priority r.componentId := by
      intro q hq
      exact (hselected q hq (hsame r hr q hq)).imp_right (houtranks q).1
    have hhighest : highestPriority portfolio rs = portfolio.priority r.componentId := by
      refine le_antisymm ?_ (le_highestPriority hr)
      unfold highestPriority
      cases hmax : (rs.map fun q => portfolio.priority q.componentId).max? with
      | none => exact Nat.zero_le _
      | some m =>
        obtain ⟨q, hq, rfl⟩ := mem_map.1 (max?_eq_some_iff.1 hmax).1
        rcases hbelow q hq with rfl | hlt
        · exact le_rfl
        · exact hlt.le
    calc rs.filter (fun q => portfolio.priority q.componentId = highestPriority portfolio rs)
        = rs.filter (fun q => decide (id q = id r)) := by
          refine filter_congr fun q hq => ?_
          rw [hhighest, decide_eq_decide]
          constructor
          · intro heq
            exact (hbelow q hq).resolve_right (by omega)
          · rintro rfl
            rfl
      _ = [r] := filter_key_eq (by rwa [map_id]) hr
  · intro hwinner q hq _
    have hr' : r ∈ rs.filter fun q =>
        portfolio.priority q.componentId = highestPriority portfolio rs :=
      hwinner ▸ mem_cons_self
    rw [mem_filter, decide_eq_true_eq] at hr'
    have hle : portfolio.priority q.componentId ≤ highestPriority portfolio rs :=
      le_highestPriority hq
    rcases hle.lt_or_eq with hlt | heq
    · exact .inr ((houtranks q).2 (hr'.2 ▸ hlt))
    · refine .inl (mem_singleton.1 (hwinner ▸ ?_))
      rw [mem_filter, decide_eq_true_eq]
      exact ⟨hq, heq⟩

theorem resolveInstrument_eq (hn : rs.Nodup)
    (hsame : ∀ r ∈ rs, ∀ q ∈ rs, q.instrumentId = r.instrumentId) :
    resolveInstrument portfolio rs =
      ((rs.filter fun r => ¬ Selected portfolio rs r).map (fun r =>
        r.reject (rejectionCode portfolio rs r)), rs.filter fun r => Selected portfolio rs r) := by
  have hsingle : ¬ 1 < rs.length → ∀ r ∈ rs, Selected portfolio rs r := by
    intro hlength r hr q hq _
    match rs, hlength with
    | [], _ => cases hq
    | [a], _ => exact .inl ((mem_singleton.1 hq).trans (mem_singleton.1 hr).symm)
    | _ :: _ :: _, hlength => exact absurd (by simp) hlength
  unfold resolveInstrument
  split
  · rename_i hpolicy
    split_ifs with hlength
    · refine (resolved_of_none (fun r hr hselected => ?_) fun r hr => ?_).symm
      · obtain ⟨q, hq, hne⟩ := exists_ne_of_nodup hn hlength r
        have houtranks := (hselected q hq (hsame r hr q hq)).resolve_left hne
        unfold Outranks at houtranks
        rw [hpolicy] at houtranks
        exact houtranks
      · unfold rejectionCode
        rw [hpolicy]
    · exact (resolved_of_all (hsingle hlength)).symm
  · rename_i hpolicy
    have hwinner := fun r hr => selected_iff_winner (r := r) hpolicy hn hsame hr
    split_ifs with hlength
    · split
      · rename_i winner hfilter
        have hmem : winner ∈ rs :=
          mem_of_mem_filter (hfilter ▸ mem_cons_self)
        have hselected : ∀ r ∈ rs, (Selected portfolio rs r ↔ r = winner) := by
          intro r hr
          rw [hwinner r hr, hfilter, List.cons.injEq]
          exact ⟨fun h => h.1.symm, fun h => ⟨h.symm, rfl⟩⟩
        refine Prod.ext ?_ ?_
        · dsimp only
          rw [filter_congr (q := fun r => decide (¬ Selected portfolio rs r))
            fun r hr => by rw [decide_eq_decide, hselected r hr]]
          refine map_congr_left fun r hr => ?_
          have hcode : rejectionCode portfolio rs r = .lowerPriority := by
            unfold rejectionCode
            rw [hpolicy]
            exact if_pos ⟨winner, hmem, hsame r (mem_of_mem_filter hr) winner hmem,
              (hselected winner hmem).2 rfl⟩
          rw [hcode]
        · dsimp only
          rw [filter_congr (q := fun r => decide (id r = id winner))
            fun r hr => by rw [decide_eq_decide, hselected r hr]; rfl]
          exact (filter_key_eq (by rwa [map_id]) hmem).symm
      · rename_i hfilter
        have hnone : ∀ r ∈ rs, ¬ Selected portfolio rs r := by
          intro r hr hselected
          exact hfilter r ((hwinner r hr).1 hselected)
        refine (resolved_of_none hnone fun r hr => ?_).symm
        unfold rejectionCode
        rw [hpolicy]
        exact if_neg fun ⟨q, hq, _, hselected⟩ => hnone q hq hselected
    · exact (resolved_of_all (hsingle hlength)).symm
  · rename_i hpolicy
    refine (resolved_of_all fun r _ q _ _ => .inr ?_).symm
    unfold Outranks
    rw [hpolicy]
    trivial

theorem selected_congr (h : ∀ q, q.instrumentId = r.instrumentId → (q ∈ rs ↔ q ∈ rs')) :
    Selected portfolio rs r ↔ Selected portfolio rs' r := by
  unfold Selected
  constructor
  · exact fun hs q hq hinstrument => hs q ((h q hinstrument).2 hq) hinstrument
  · exact fun hs q hq hinstrument => hs q ((h q hinstrument).1 hq) hinstrument

theorem rejectionCode_congr (h : ∀ q, q.instrumentId = r.instrumentId → (q ∈ rs ↔ q ∈ rs')) :
    rejectionCode portfolio rs r = rejectionCode portfolio rs' r := by
  have hiff : (∃ q ∈ rs, q.instrumentId = r.instrumentId ∧ Selected portfolio rs q) ↔
      ∃ q ∈ rs', q.instrumentId = r.instrumentId ∧ Selected portfolio rs' q := by
    have hselected : ∀ q, q.instrumentId = r.instrumentId →
        (Selected portfolio rs q ↔ Selected portfolio rs' q) :=
      fun q hq => selected_congr fun p hp => h p (hp.trans hq)
    constructor
    · rintro ⟨q, hq, hinstrument, hs⟩
      exact ⟨q, (h q hinstrument).1 hq, hinstrument, (hselected q hinstrument).1 hs⟩
    · rintro ⟨q, hq, hinstrument, hs⟩
      exact ⟨q, (h q hinstrument).2 hq, hinstrument, (hselected q hinstrument).2 hs⟩
  unfold rejectionCode
  simp only [hiff]

theorem mem_sortedRequests_iff {g : List ComponentTargetRequest}
    (hg : g ∈ sortedRequests (groupsBy ComponentTargetRequest.instrumentId rs)) (hr : r ∈ g) (hinstrument : q.instrumentId = r.instrumentId) :
    q ∈ g ↔ q ∈ rs := by
  obtain ⟨h, hh, rfl⟩ := mem_map.1 hg
  have hr' := (instrument_of_mem_group hh hr).2
  rw [mem_sortBy] at hh
  rw [mem_sortBy, (mem_groupsBy.1 hh).1, mem_filter, decide_eq_true_eq]
  exact ⟨fun h => h.1, fun h => ⟨h, hinstrument.trans hr'⟩⟩

/-- **The outcomes** of all groups, in the order of the requests. -/
theorem outcomes_eq (h : Admissible portfolio rs) :
    ((sortedRequests (groupsBy ComponentTargetRequest.instrumentId rs)).map
        (resolveInstrument portfolio)).flatMap Prod.fst = rejections portfolio rs ∧
      ((sortedRequests (groupsBy ComponentTargetRequest.instrumentId rs)).map
        (resolveInstrument portfolio)).flatMap Prod.snd = selectedRequests portfolio rs := by
  have hgroup : ∀ g ∈ sortedRequests (groupsBy ComponentTargetRequest.instrumentId rs),
      resolveInstrument portfolio g =
        ((g.filter fun r => ¬ Selected portfolio rs r).map (fun r =>
          r.reject (rejectionCode portfolio rs r)), g.filter fun r => Selected portfolio rs r) := by
    intro g hg
    have hmem := fun r (hr : r ∈ g) q => mem_sortedRequests_iff (q := q) hg hr
    have hsame : ∀ r ∈ g, ∀ q ∈ g, q.instrumentId = r.instrumentId := by
      obtain ⟨g', hg', rfl⟩ := mem_map.1 hg
      intro r hr q hq
      exact (instrument_of_mem_group hg' hq).2.trans (instrument_of_mem_group hg' hr).2.symm
    have hn : g.Nodup :=
      (nodup_flatten.1 (perm_sortedRequests.nodup_iff.2 h.unique.of_map)).1 g hg
    rw [resolveInstrument_eq hn hsame]
    have hselected : ∀ r ∈ g, decide (Selected portfolio g r) = decide (Selected portfolio rs r) :=
      fun r hr => decide_eq_decide.2 (selected_congr (hmem r hr))
    refine Prod.ext ?_ (filter_congr hselected)
    dsimp only
    rw [filter_congr (q := fun r => decide (¬ Selected portfolio rs r))
      fun r hr => by rw [decide_eq_decide, selected_congr (hmem r hr)]]
    refine map_congr_left fun r hr => ?_
    rw [rejectionCode_congr (hmem r (mem_of_mem_filter hr))]
  rw [map_congr_left hgroup, flatMap_map, flatMap_map]
  unfold rejections selectedRequests
  rw [← flatten_sortedRequests h, filter_flatten, filter_flatten, map_flatten,
    map_map]
  exact ⟨flatMap_def .., flatMap_def ..⟩

theorem selectedRequests_eq_of_perm (h : Admissible portfolio rs) (hp : rs ~ rs') :
    selectedRequests portfolio rs = selectedRequests portfolio rs' := by
  unfold selectedRequests
  rw [sortBy_eq_of_perm hp fun r hr q hq => h.eq_of_order hr hq]
  refine filter_congr fun r _ => decide_eq_decide.2 ?_
  exact selected_congr fun _ _ => hp.mem_iff

theorem rejections_eq_of_perm (h : Admissible portfolio rs) (hp : rs ~ rs') :
    rejections portfolio rs = rejections portfolio rs' := by
  unfold rejections
  rw [sortBy_eq_of_perm hp fun r hr q hq => h.eq_of_order hr hq]
  have hselected : ∀ r, Selected portfolio rs r ↔ Selected portfolio rs' r :=
    fun r => selected_congr fun _ _ => hp.mem_iff
  have hcode : ∀ r, rejectionCode portfolio rs r = rejectionCode portfolio rs' r :=
    fun r => rejectionCode_congr fun _ _ => hp.mem_iff
  simp only [hselected, hcode]

/-! ## Decisions -/

theorem requiredInstruments_eq_of_perm (current : List Exposure) (hp : rs ~ rs') :
    requiredInstruments current rs = requiredInstruments current rs' := by
  unfold requiredInstruments
  rw [toFinset_eq_of_perm _ _ (hp.map ComponentTargetRequest.instrumentId)]

theorem allocateComponentTargets_eq_of_perm (h : Admissible portfolio rs) (hp : rs ~ rs') :
    allocateComponentTargets enc arith portfolio snapshot rs =
      allocateComponentTargets enc arith portfolio snapshot rs' := by
  have hevents : (∀ r ∈ rs, r.eventTime = snapshot.eventTime ∧
      r.eventSequence = snapshot.eventSequence) ↔ ∀ r ∈ rs', r.eventTime = snapshot.eventTime ∧
        r.eventSequence = snapshot.eventSequence :=
    forall_congr' fun r => imp_congr_left hp.mem_iff
  have hread : requestsByInstrument portfolio rs =
      .ok (groupsBy ComponentTargetRequest.instrumentId rs) :=
    requestsByInstrument_eq_ok.2 ⟨h, rfl⟩
  have hread' : requestsByInstrument portfolio rs' =
      .ok (groupsBy ComponentTargetRequest.instrumentId rs') :=
    requestsByInstrument_eq_ok.2 ⟨h.perm hp, rfl⟩
  unfold allocateComponentTargets
  rw [hread, hread']
  simp only [hevents, ok_bind, outcomes_eq h, outcomes_eq (h.perm hp),
    selectedRequests_eq_of_perm h hp, rejections_eq_of_perm h hp,
    requiredInstruments_eq_of_perm _ hp]

end

end ChartingPlatform
