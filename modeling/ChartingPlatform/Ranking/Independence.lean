/-
  What the ranked entries depend on: a trial is ranked through its leader, the first of its
  results that counts (`leader`).
-/
import ChartingPlatform.Ranking.Results

namespace ChartingPlatform

open Lib List

section
variable {sha256 : String → Digest} {p : RankingPolicy} {b : RankingBaseline}
  {r : RunResultManifest} {rs rs' results : List RunResultManifest} {es : List RankingEntry}
  {seen : Finset Digest} {t : Digest} {v : PyDecimal} {fs : List RankingEntry}
  {direction : RankingDirection}

/-! ## Rankable results -/

def rankableValue (sha256 : String → Digest) (p : RankingPolicy) (b : RankingBaseline)
    (r : RunResultManifest) : Option PyDecimal :=
  if (p.includeDegraded = true ∨ r.trial.preflightReport.rankingEligible = true) ∧
      contextKey r = b.context then
    ((r.metricSet.values.filter fun m => m.name = p.metricName ∧ m.basis = p.metricBasis).head?
      ).bind fun m =>
        if m.unit = b.unit ∧ m.calculationFingerprint sha256 = some b.calculation then m.value
        else none
  else none

theorem metric_eq (r : RunResultManifest) (name : String) (basis : MetricBasis) :
    metric r name basis =
      .ok (r.metricSet.values.filter fun m => m.name = name ∧ m.basis = basis).head? := by
  have hlen : ¬ 1 < (r.metricSet.values.filter fun m => m.name = name ∧ m.basis = basis).length := by
    intro hlt
    have hnodup : ((r.metricSet.values.filter fun m => m.name = name ∧ m.basis = basis).map
        fun m => (m.name, m.basis)).Nodup :=
      r.metricSet.keys_nodup.sublist (filter_sublist.map _)
    have hsame : ∀ m ∈ r.metricSet.values.filter fun m => m.name = name ∧ m.basis = basis,
        (m.name, m.basis) = (name, basis) := by
      intro m hm
      have := (mem_filter.1 hm).2
      simp only [decide_eq_true_eq] at this
      rw [this.1, this.2]
    rw [map_congr_left hsame, map_const', nodup_replicate] at hnodup
    omega
  unfold metric
  exact if_neg hlen

/-- What `judge` finds. -/
inductive Judged (sha256 : String → Digest) (p : RankingPolicy) (b : RankingBaseline)
    (r : RunResultManifest) : Except PyError RankingOutcome → Prop
  | entry {e} : e.trialId = r.trialId → rankableValue sha256 p b r = some e.value →
      Judged sha256 p b r (.ok (.entry e))
  | exclusion {x} : rankableValue sha256 p b r = none → Judged sha256 p b r (.ok (.exclusion x))
  | error {e v} : rankableValue sha256 p b r = some v → Judged sha256 p b r (.error e)

theorem judge_spec (r : RunResultManifest) : Judged sha256 p b r (judge sha256 p b r) := by
  unfold judge
  by_cases hdegraded : p.includeDegraded = false ∧ r.trial.preflightReport.rankingEligible = false
  · rw [if_pos hdegraded]
    refine .exclusion (if_neg fun h => ?_)
    rcases h.1 with h | h
    · exact absurd (hdegraded.1.symm.trans h) nofun
    · exact absurd (hdegraded.2.symm.trans h) nofun
  rw [if_neg hdegraded]
  have heligible : p.includeDegraded = true ∨
      r.trial.preflightReport.rankingEligible = true := by
    by_contra h
    rw [not_or, Bool.not_eq_true, Bool.not_eq_true] at h
    exact hdegraded h
  by_cases hcontext : contextKey r ≠ b.context
  · rw [if_pos hcontext]
    exact .exclusion (if_neg fun h => hcontext h.2)
  rw [if_neg hcontext, metric_eq, ok_bind]
  have hvalue : rankableValue sha256 p b r = _ := if_pos ⟨heligible, not_not.1 hcontext⟩
  cases hm : (r.metricSet.values.filter fun m =>
      m.name = p.metricName ∧ m.basis = p.metricBasis).head? with
  | none =>
    rw [hm, Option.bind_none] at hvalue
    exact .exclusion hvalue
  | some m =>
    rw [hm, Option.bind_some] at hvalue
    dsimp only
    cases hv : m.value with
    | none =>
      refine .exclusion (hvalue.trans ?_)
      rw [hv, ite_self]
    | some v =>
      dsimp only
      by_cases hunit : m.unit ≠ b.unit
      · rw [if_pos hunit]
        exact .exclusion (hvalue.trans (if_neg fun h => hunit h.1))
      rw [if_neg hunit]
      by_cases hcalc : m.calculationFingerprint sha256 ≠ some b.calculation
      · rw [if_pos hcalc]
        exact .exclusion (hvalue.trans (if_neg fun h => hcalc h.2))
      rw [if_neg hcalc]
      rw [if_pos ⟨not_not.1 hunit, not_not.1 hcalc⟩, hv] at hvalue
      by_cases hsize : 1 ≤ m.sampleSize
      · rw [dif_pos hsize]
        exact .entry rfl hvalue
      · rw [dif_neg hsize]
        exact .error hvalue

theorem judge_entry {m : MetricValue}
    (heligible : p.includeDegraded = true ∨ r.trial.preflightReport.rankingEligible = true)
    (hcontext : contextKey r = b.context)
    (hmetric : metric r p.metricName p.metricBasis = .ok (some m)) (hvalue : m.value = some v)
    (hunit : m.unit = b.unit) (hcalc : m.calculationFingerprint sha256 = some b.calculation)
    (hsize : 1 ≤ m.sampleSize) : ∃ e, judge sha256 p b r = .ok (.entry e) := by
  have hdegraded : ¬ (p.includeDegraded = false ∧
      r.trial.preflightReport.rankingEligible = false) := by
    rintro ⟨h₁, h₂⟩
    rcases heligible with h | h
    · exact absurd (h₁.symm.trans h) nofun
    · exact absurd (h₂.symm.trans h) nofun
  unfold judge
  rw [if_neg hdegraded, if_neg (not_not.2 hcontext), hmetric, ok_bind]
  simp only [hvalue]
  rw [if_neg (not_not.2 hunit), if_neg (not_not.2 hcalc), dif_pos hsize]
  exact ⟨_, rfl⟩

/-! ## Entries of the leaders -/

def leader (p : RankingPolicy) (results : List RunResultManifest) (t : Digest) :
    Option RunResultManifest :=
  firstWith RunResultManifest.trialId t (results.filter (counted p))

def leaderValue (sha256 : String → Digest) (p : RankingPolicy) (b : RankingBaseline)
    (results : List RunResultManifest) (t : Digest) : Option PyDecimal :=
  (leader p results t).bind (rankableValue sha256 p b)

inductive Entries (sha256 : String → Digest) (p : RankingPolicy) (b : RankingBaseline) :
    List RunResultManifest → List RankingEntry → Prop
  | nil : Entries sha256 p b [] []
  | entry {r rs e es} : judge sha256 p b r = .ok (.entry e) → Entries sha256 p b rs es →
      Entries sha256 p b (r :: rs) (e :: es)
  | exclusion {r rs x es} : judge sha256 p b r = .ok (.exclusion x) →
      Entries sha256 p b rs es → Entries sha256 p b (r :: rs) es

def leaders (p : RankingPolicy) (results : List RunResultManifest) : List RunResultManifest :=
  firsts RunResultManifest.trialId (results.filter (counted p))

theorem rankLoop_entries : (∃ outcomes, rankLoop sha256 p b seen rs = .ok outcomes ∧
      outcomes.filterMap RankingOutcome.entry? = es) ↔
    Entries sha256 p b (firstsFrom RunResultManifest.trialId seen (rs.filter (counted p))) es := by
  induction rs generalizing seen es with
  | nil =>
    constructor
    · rintro ⟨outcomes, h, rfl⟩
      obtain rfl := Except.ok.inj h
      exact Entries.nil
    · intro h
      cases h
      exact ⟨[], rfl, rfl⟩
  | cons r rs ih =>
    -- an exclusion before the checks leaves the entries and the seen trials alone
    have hskip : ∀ x, rankResult sha256 p b seen r = .ok (.exclusion x, seen) →
        ((∃ outcomes, rankLoop sha256 p b seen (r :: rs) = .ok outcomes ∧
          outcomes.filterMap RankingOutcome.entry? = es) ↔
        Entries sha256 p b (firstsFrom RunResultManifest.trialId seen (rs.filter (counted p)))
          es) := by
      intro x hx
      rw [← ih, rankLoop, hx, ok_bind]
      constructor
      · rintro ⟨outcomes, h, hes⟩
        obtain ⟨os, hos, h⟩ := bind_eq_ok.1 h
        obtain rfl := Except.ok.inj h
        exact ⟨os, hos, hes⟩
      · rintro ⟨os, hos, hes⟩
        exact ⟨_, bind_eq_ok.2 ⟨os, hos, rfl⟩, hes⟩
    by_cases hcounted : counted p r = false
    · rw [filter_cons_of_neg (by simp [hcounted])]
      exact hskip _ (if_pos hcounted)
    rw [filter_cons_of_pos (by simpa using hcounted), firstsFrom]
    by_cases hseen : r.trialId ∈ seen
    · rw [if_pos hseen]
      exact hskip _ ((if_neg hcounted).trans (if_pos hseen))
    rw [if_neg hseen]
    have hstep : rankResult sha256 p b seen r = (judge sha256 p b r >>= fun outcome =>
        .ok (outcome, insert r.trialId seen)) := (if_neg hcounted).trans (if_neg hseen)
    constructor
    · rintro ⟨outcomes, h, rfl⟩
      rw [rankLoop, hstep] at h
      obtain ⟨step, hjudge, h⟩ := bind_eq_ok.1 h
      obtain ⟨os, hos, h⟩ := bind_eq_ok.1 h
      obtain ⟨o, ho, hstep⟩ := bind_eq_ok.1 hjudge
      obtain rfl := Except.ok.inj hstep
      obtain rfl := Except.ok.inj h
      have hrest := ih.1 ⟨os, hos, rfl⟩
      cases o with
      | entry e => exact .entry ho hrest
      | exclusion x => exact .exclusion ho hrest
    · intro h
      rw [rankLoop, hstep]
      cases h with
      | entry hjudge hrest | exclusion hjudge hrest =>
        obtain ⟨os, hos, rfl⟩ := ih.2 hrest
        rw [hjudge, ok_bind, ok_bind, hos, ok_bind]
        exact ⟨_, rfl, rfl⟩

def OneExperiment (results : List RunResultManifest) : Prop :=
  ∀ r ∈ results, ∀ s ∈ results, r.experimentFingerprint = s.experimentFingerprint

theorem baseline_of_ranking {ranking : DescriptiveRanking}
    (h : descriptiveRankResults sha256 p results = .ok ranking) :
    ∃ b, selectBaseline sha256 p results = .ok (some b) := by
  unfold descriptiveRankResults at h
  obtain ⟨_, -, h⟩ := bind_eq_ok.1 h
  cases results with
  | nil => cases h
  | cons first rest =>
    obtain ⟨_, -, h⟩ := bind_eq_ok.1 h
    obtain ⟨b, hb, h⟩ := bind_eq_ok.1 h
    cases b with
    | none => cases h
    | some b => exact ⟨b, hb⟩

theorem ranking_entries {sorted : List RankingEntry}
    (hb : selectBaseline sha256 p results = .ok (some b)) :
    (∃ ranking, descriptiveRankResults sha256 p results = .ok ranking ∧
      ranking.entries = sorted) ↔
    notBlank p.metricName = true ∧ OneExperiment results ∧
      ∃ es, Entries sha256 p b (leaders p results) es ∧
        sorted = numbered (sortBy (entryKey p.direction) es) := by
  unfold descriptiveRankResults
  cases results with
  | nil => cases hb
  | cons first rest =>
    have hone : (∀ r ∈ rest, r.experimentFingerprint = first.experimentFingerprint) ↔
        OneExperiment (first :: rest) := by
      constructor
      · intro h r hr s hs
        have hall : ∀ r ∈ first :: rest, r.experimentFingerprint = first.experimentFingerprint := by
          simpa using h
        exact (hall r hr).trans (hall s hs).symm
      · intro h r hr
        exact h r (mem_cons_of_mem _ hr) first mem_cons_self
    rw [← hone]
    constructor
    · rintro ⟨ranking, h, rfl⟩
      obtain ⟨_, hname, h⟩ := bind_eq_ok.1 h
      obtain ⟨_, hexp, h⟩ := bind_eq_ok.1 h
      rw [hb, ok_bind] at h
      obtain ⟨outcomes, hloop, h⟩ := bind_eq_ok.1 h
      obtain rfl := Except.ok.inj h
      exact ⟨ensure_eq_ok.1 hname, ensure_eq_ok.1 hexp, _, rankLoop_entries.1 ⟨_, hloop, rfl⟩, rfl⟩
    · rintro ⟨hname, hexp, es, hes, rfl⟩
      obtain ⟨outcomes, hloop, rfl⟩ := rankLoop_entries.2 hes
      rw [ensure_of hname, ok_bind]
      dsimp only
      rw [ensure_of hexp, ok_bind, hb, ok_bind]
      dsimp only
      rw [hloop, ok_bind]
      exact ⟨_, rfl, rfl⟩

/-! ## Order of the leaders -/

theorem Entries.perm (h : Entries sha256 p b rs es) (hp : rs ~ rs') :
    ∃ es', Entries sha256 p b rs' es' ∧ es ~ es' := by
  induction hp generalizing es with
  | nil => exact ⟨es, h, List.Perm.refl _⟩
  | cons r _ ih =>
    cases h with
    | entry hr hrs =>
      obtain ⟨es', hes', hperm⟩ := ih hrs
      exact ⟨_, .entry hr hes', hperm.cons _⟩
    | exclusion hr hrs =>
      obtain ⟨es', hes', hperm⟩ := ih hrs
      exact ⟨_, .exclusion hr hes', hperm⟩
  | swap r s rs =>
    cases h with
    | entry hs hrs => cases hrs with
      | entry hr hrs => exact ⟨_, .entry hr (.entry hs hrs), List.Perm.swap _ _ _⟩
      | exclusion hr hrs => exact ⟨_, .exclusion hr (.entry hs hrs), List.Perm.refl _⟩
    | exclusion hs hrs => cases hrs with
      | entry hr hrs => exact ⟨_, .entry hr (.exclusion hs hrs), List.Perm.refl _⟩
      | exclusion hr hrs => exact ⟨_, .exclusion hr (.exclusion hs hrs), List.Perm.refl _⟩
  | trans _ _ ih₁ ih₂ =>
    obtain ⟨fs, hfs, h₁⟩ := ih₁ h
    obtain ⟨gs, hgs, h₂⟩ := ih₂ hfs
    exact ⟨gs, hgs, h₁.trans h₂⟩

theorem Entries.of_mem (h : Entries sha256 p b rs es) {e : RankingEntry} (he : e ∈ es) :
    ∃ r ∈ rs, r.trialId = e.trialId ∧ rankableValue sha256 p b r = some e.value := by
  induction h with
  | nil => cases he
  | @entry r rs e' es hr _ ih =>
    rcases mem_cons.1 he with rfl | he
    · have hspec : Judged sha256 p b r (judge sha256 p b r) := judge_spec r
      rw [hr] at hspec
      cases hspec with
      | entry htrial hvalue => exact ⟨r, mem_cons_self, htrial.symm, hvalue⟩
    · obtain ⟨s, hs, h⟩ := ih he
      exact ⟨s, mem_cons_of_mem _ hs, h⟩
  | exclusion _ _ ih =>
    obtain ⟨s, hs, h⟩ := ih he
    exact ⟨s, mem_cons_of_mem _ hs, h⟩

theorem Entries.mem_of (h : Entries sha256 p b rs es) (hr : r ∈ rs)
    (hv : rankableValue sha256 p b r = some v) : ∃ e ∈ es, e.trialId = r.trialId ∧ e.value = v := by
  induction h with
  | nil => cases hr
  | @entry s rs e' es hs _ ih =>
    rcases mem_cons.1 hr with rfl | hr
    · have hspec : Judged sha256 p b r (judge sha256 p b r) := judge_spec r
      rw [hs] at hspec
      cases hspec with
      | entry htrial hvalue =>
        exact ⟨e', mem_cons_self, htrial, Option.some.inj (hvalue.symm.trans hv)⟩
    · obtain ⟨e, he, h⟩ := ih hr
      exact ⟨e, mem_cons_of_mem _ he, h⟩
  | @exclusion s rs x es hs _ ih =>
    rcases mem_cons.1 hr with rfl | hr
    · have hspec : Judged sha256 p b r (judge sha256 p b r) := judge_spec r
      rw [hs] at hspec
      cases hspec with
      | exclusion hvalue => cases hvalue.symm.trans hv
    · exact ih hr

theorem Entries.nodup (h : Entries sha256 p b rs es)
    (hrs : (rs.map RunResultManifest.trialId).Nodup) : (es.map (·.trialId)).Nodup := by
  induction h with
  | nil => exact nodup_nil
  | @entry r rs e es hr hentries ih =>
    rw [map_cons, nodup_cons] at hrs ⊢
    refine ⟨?_, ih hrs.2⟩
    intro hmem
    obtain ⟨f, hf, hfe⟩ := mem_map.1 hmem
    obtain ⟨s, hs, hsf, -⟩ := hentries.of_mem hf
    have hspec : Judged sha256 p b r (judge sha256 p b r) := judge_spec r
    rw [hr] at hspec
    cases hspec with
    | entry htrial _ =>
      exact hrs.1 (mem_map.2 ⟨s, hs, by rw [hsf, ← htrial]; exact hfe⟩)
  | exclusion _ _ ih =>
    rw [map_cons, nodup_cons] at hrs
    exact ih hrs.2

theorem mem_leaders : r ∈ leaders p results ↔ leader p results r.trialId = some r := mem_firsts

theorem trialId_of_leader (h : leader p results t = some r) : r.trialId = t := by
  simpa using find?_some h

theorem leaderValue_eq_some (h : Entries sha256 p b (leaders p results) es) :
    leaderValue sha256 p b results t = some v ↔ ∃ e ∈ es, e.trialId = t ∧ e.value = v := by
  unfold leaderValue
  rw [Option.bind_eq_some_iff]
  constructor
  · rintro ⟨r, hr, hv⟩
    obtain rfl := trialId_of_leader hr
    exact h.mem_of (mem_leaders.2 hr) hv
  · rintro ⟨e, he, rfl, rfl⟩
    obtain ⟨r, hr, htrial, hv⟩ := h.of_mem he
    exact ⟨r, by rw [← htrial]; exact mem_leaders.1 hr, hv⟩

theorem nodup_leaders (p : RankingPolicy) (results : List RunResultManifest) :
    ((leaders p results).map RunResultManifest.trialId).Nodup := nodup_firsts

/-! ## Sorted entries -/

@[simp] theorem map_trialId_numbered (es : List RankingEntry) :
    (numbered es).map (·.trialId) = es.map (·.trialId) := by
  refine ext_getElem (by simp) fun i h₁ h₂ => ?_
  simp [numbered, RankingEntry.at]

theorem text_injective : Function.Injective Digest.text := by
  rintro ⟨s⟩ ⟨t⟩ h
  exact congrArg Digest.mk h

def RankingEntry.ranked (e : RankingEntry) : PyDecimal × Digest := (e.value, e.trialId)

def rankedKey (direction : RankingDirection) (q : PyDecimal × Digest) : ℚ ×ₗ String :=
  toLex (match direction with
    | .maximize => q.1.negate.value
    | .minimize => q.1.value, q.2.text)

theorem trial_of_rankedKey {q q' : PyDecimal × Digest}
    (h : rankedKey direction q = rankedKey direction q') : q.2 = q'.2 :=
  text_injective (congrArg Prod.snd (toLex_inj.1 h))

theorem sorted_trials (hes : (es.map (·.trialId)).Nodup) (hfs : (fs.map (·.trialId)).Nodup)
    (h : ∀ q, q ∈ es.map RankingEntry.ranked ↔ q ∈ fs.map RankingEntry.ranked) :
    (sortBy (entryKey direction) es).map (·.trialId) =
      (sortBy (entryKey direction) fs).map (·.trialId) := by
  have hsort : ∀ es : List RankingEntry, (sortBy (entryKey direction) es).map (·.trialId) =
      (sortBy (rankedKey direction) (es.map RankingEntry.ranked)).map Prod.snd := by
    intro es
    rw [← map_sortBy RankingEntry.ranked, map_map]
    rfl
  have hnodup : ∀ es : List RankingEntry, (es.map (·.trialId)).Nodup →
      (es.map RankingEntry.ranked).Nodup := by
    intro es hes
    refine List.Nodup.of_map Prod.snd ?_
    rw [map_map]
    exact hes
  rw [hsort, hsort]
  refine congrArg (List.map Prod.snd) (sortBy_eq_of_perm
    ((perm_ext_iff_of_nodup (hnodup es hes) (hnodup fs hfs)).2 h) ?_)
  intro q hq q' hq' hkey
  obtain ⟨e, he, rfl⟩ := mem_map.1 hq
  obtain ⟨e', he', rfl⟩ := mem_map.1 hq'
  obtain rfl := inj_on_of_nodup_map hes he he' (trial_of_rankedKey hkey)
  rfl

theorem sorted_perm (hp : es ~ fs)
    (hes : (es.map (·.trialId)).Nodup) :
    sortBy (entryKey direction) es = sortBy (entryKey direction) fs :=
  sortBy_eq_of_perm hp fun e he e' he' hkey =>
    inj_on_of_nodup_map hes he he' (@trial_of_rankedKey direction e.ranked e'.ranked hkey)

/-! ## Removals -/

def seenTrials (p : RankingPolicy) (pre : List RunResultManifest) : Finset Digest :=
  ((pre.filter (counted p)).map RunResultManifest.trialId).toFinset

def ExcludedAfter (sha256 : String → Digest) (p : RankingPolicy) (b : RankingBaseline)
    (pre : List RunResultManifest) (r : RunResultManifest) : Prop :=
  ∃ x seen, rankResult sha256 p b (seenTrials p pre) r = .ok (.exclusion x, seen)

def Rankable (sha256 : String → Digest) (p : RankingPolicy) (b : RankingBaseline)
    (r : RunResultManifest) : Prop :=
  counted p r = true ∧ (rankableValue sha256 p b r).isSome = true

/-- No result that counts and does not rank stands before one of its trial that does. -/
def RankableFirst (sha256 : String → Digest) (p : RankingPolicy) (b : RankingBaseline)
    (results : List RunResultManifest) : Prop :=
  results.Pairwise fun r s => counted p r = true → r.trialId = s.trialId →
    Rankable sha256 p b s → Rankable sha256 p b r

theorem leader_mem (h : leader p results t = some r) :
    r ∈ results ∧ counted p r = true ∧ r.trialId = t := by
  obtain ⟨hmem, hcounted⟩ := mem_filter.1 (mem_of_find?_eq_some h)
  exact ⟨hmem, hcounted, trialId_of_leader h⟩

/-- **The trials that rank** are those with a result that does. -/
theorem leaderValue_isSome (hfirst : RankableFirst sha256 p b results) :
    (∃ v, leaderValue sha256 p b results t = some v) ↔
      ∃ r ∈ results, r.trialId = t ∧ Rankable sha256 p b r := by
  constructor
  · rintro ⟨v, hv⟩
    obtain ⟨r, hr, hv⟩ := Option.bind_eq_some_iff.1 hv
    obtain ⟨hmem, hcounted, htrial⟩ := leader_mem hr
    exact ⟨r, hmem, htrial, hcounted, by rw [hv]; rfl⟩
  · rintro ⟨r, hr, htrial, hrank⟩
    have hr' : r ∈ results.filter (counted p) := mem_filter.2 ⟨hr, hrank.1⟩
    cases hl : leader p results t with
    | none => exact absurd (decide_eq_true htrial) (find?_eq_none.1 hl r hr')
    | some l =>
      obtain ⟨-, hcounted, hlt⟩ := leader_mem hl
      have hrankable : Rankable sha256 p b l := by
        rcases firstWith_before (hfirst.sublist filter_sublist) hl hr' htrial with rfl | h
        · exact hrank
        · exact h hcounted (hlt.trans htrial.symm) hrank
      obtain ⟨v, hv⟩ := Option.isSome_iff_exists.1 hrankable.2
      exact ⟨v, by rw [leaderValue, hl]; exact hv⟩

theorem removal_entries {pre post : List RunResultManifest}
    (hfirst : RankableFirst sha256 p b (pre ++ r :: post))
    (hes : Entries sha256 p b (leaders p (pre ++ r :: post)) es)
    (hr : ExcludedAfter sha256 p b pre r) :
    ∃ fs, Entries sha256 p b (leaders p (pre ++ post)) fs ∧
      numbered (sortBy (entryKey p.direction) fs) =
        numbered (sortBy (entryKey p.direction) es) := by
  obtain ⟨x, seen, hr⟩ := hr
  unfold rankResult at hr
  by_cases hcounted : counted p r = false
  · have hsame : leaders p (pre ++ r :: post) = leaders p (pre ++ post) := by
      rw [leaders, leaders, filter_append, filter_cons_of_neg (by simp [hcounted]),
        ← filter_append]
    exact ⟨es, hsame ▸ hes, rfl⟩
  rw [if_neg hcounted] at hr
  have hcounted' : counted p r = true := by simpa using hcounted
  have hfilter : (pre ++ r :: post).filter (counted p) =
      pre.filter (counted p) ++ r :: post.filter (counted p) := by
    rw [filter_append, filter_cons_of_pos hcounted']
  by_cases hin : r.trialId ∈ seenTrials p pre
  · have hsame : leaders p (pre ++ r :: post) = leaders p (pre ++ post) := by
      rw [leaders, hfilter, firsts_remove_repeated _ _ (by simpa [seenTrials] using hin), leaders,
        filter_append]
    exact ⟨es, hsame ▸ hes, rfl⟩
  rw [if_neg hin] at hr
  obtain ⟨o, hjudge, hr⟩ := bind_eq_ok.1 hr
  obtain ⟨rfl, -⟩ := Prod.mk.inj (Except.ok.inj hr)
  have hspec : Judged sha256 p b r (judge sha256 p b r) := judge_spec r
  rw [hjudge] at hspec
  cases hspec with | exclusion hunrankable =>
  obtain ⟨rest, hwith, hwithout⟩ := @firsts_remove _ _ _ RunResultManifest.trialId
    r (pre.filter (counted p)) (post.filter (counted p)) (by simpa [seenTrials] using hin)
  rw [← hfilter] at hwith
  rw [← filter_append] at hwithout
  -- the entries are those of the other leaders
  obtain ⟨es', hes', hperm⟩ := hes.perm hwith
  cases hes' with
  | entry hjudge' _ => cases hjudge.symm.trans hjudge'
  | exclusion _ hrest =>
    suffices hnew : ∃ fs, Entries sha256 p b (leaders p (pre ++ post)) fs ∧ es' ~ fs by
      obtain ⟨fs, hfs, hp⟩ := hnew
      exact ⟨fs, hfs, congrArg numbered
        (sorted_perm (hperm.trans hp).symm (hfs.nodup (nodup_leaders p _)))⟩
    cases hnext : firstWith RunResultManifest.trialId r.trialId (post.filter (counted p)) with
    | none =>
      rw [hnext] at hwithout
      exact hrest.perm (hwithout.symm : rest ~ leaders p (pre ++ post))
    | some next =>
      -- the next result of the trial does not rank either
      rw [hnext] at hwithout
      have hleader : leader p post r.trialId = some next := hnext
      obtain ⟨hmem, hnextCounted, htrial⟩ := leader_mem hleader
      have hunranked : rankableValue sha256 p b next = none := by
        by_contra hsome
        have hpair := (pairwise_cons.1 (pairwise_append.1 hfirst).2.1).1 next hmem
        have hrankable := hpair hcounted' htrial.symm
          ⟨hnextCounted, Option.isSome_iff_ne_none.2 hsome⟩
        rw [Rankable, hunrankable] at hrankable
        exact absurd hrankable.2 nofun
      have hspec : Judged sha256 p b next (judge sha256 p b next) := judge_spec next
      cases hj : judge sha256 p b next with
      | error e =>
        rw [hj] at hspec
        cases hspec with | error hv => cases hunranked.symm.trans hv
      | ok o =>
        rw [hj] at hspec
        cases hspec with
        | exclusion _ =>
          exact (Entries.exclusion hj hrest).perm
            (hwithout.symm : next :: rest ~ leaders p (pre ++ post))
        | entry _ hv => cases hunranked.symm.trans hv

/-! ## Independence -/

theorem mem_entries {ranking : DescriptiveRanking}
    (hb : selectBaseline sha256 p results = .ok (some b))
    (h : descriptiveRankResults sha256 p results = .ok ranking) :
    t ∈ ranking.entries.map (·.trialId) ↔ ∃ v, leaderValue sha256 p b results t = some v := by
  obtain ⟨-, -, es, hes, hentries⟩ := (ranking_entries hb).1 ⟨ranking, h, rfl⟩
  rw [hentries, map_trialId_numbered, ((perm_sortBy _ es).map _).mem_iff]
  constructor
  · intro ht
    obtain ⟨e, he, rfl⟩ := mem_map.1 ht
    exact ⟨e.value, (leaderValue_eq_some hes).2 ⟨e, he, rfl, rfl⟩⟩
  · rintro ⟨v, hv⟩
    obtain ⟨e, he, rfl, -⟩ := (leaderValue_eq_some hes).1 hv
    exact mem_map_of_mem he

/-- **What the ranking depends on**, in a list where no excluded result stands before a rankable
one of its trial: the baseline, and the rankable results. -/
theorem ranking_independence (sha256 : String → Digest) (p : RankingPolicy)
    (results : List RunResultManifest) (ranking : DescriptiveRanking)
    (h : descriptiveRankResults sha256 p results = .ok ranking) :
    ∃ b, selectBaseline sha256 p results = .ok (some b) ∧
      (RankableFirst sha256 p b results →
        (∀ t, t ∈ ranking.entries.map (·.trialId) ↔
          ∃ r ∈ results, r.trialId = t ∧ Rankable sha256 p b r) ∧
        (∀ pre r post, results = pre ++ r :: post → ExcludedAfter sha256 p b pre r →
          selectBaseline sha256 p (pre ++ post) = .ok (some b) →
          ∃ ranking', descriptiveRankResults sha256 p (pre ++ post) = .ok ranking' ∧
            ranking'.entries = ranking.entries) ∧
        ∀ results', results' ~ results → selectBaseline sha256 p results' = .ok (some b) →
          RankableFirst sha256 p b results' →
          ((∀ t, leader p results' t = leader p results t) →
            ∃ ranking', descriptiveRankResults sha256 p results' = .ok ranking' ∧
              ranking'.entries = ranking.entries) ∧
          ∀ ranking', descriptiveRankResults sha256 p results' = .ok ranking' →
            (∀ t, t ∈ ranking'.entries.map (·.trialId) ↔ t ∈ ranking.entries.map (·.trialId)) ∧
            ((∀ t, leaderValue sha256 p b results' t = leaderValue sha256 p b results t) →
              ranking'.entries.map (·.trialId) = ranking.entries.map (·.trialId))) := by
  obtain ⟨b, hb⟩ := baseline_of_ranking h
  obtain ⟨hname, hexp, es, hes, hentries⟩ := (ranking_entries hb).1 ⟨ranking, h, rfl⟩
  refine ⟨b, hb, fun hfirst => ⟨fun t => ?_, ?_, ?_⟩⟩
  · rw [mem_entries hb h, leaderValue_isSome hfirst]
  · rintro pre r post rfl hexcluded hb'
    have hexp' : OneExperiment (pre ++ post) := by
      have hsub : ∀ r' ∈ pre ++ post, r' ∈ pre ++ r :: post := by
        intro r' hr'
        simp only [mem_append, mem_cons] at hr' ⊢
        exact hr'.imp_right .inr
      exact fun r₁ h₁ r₂ h₂ => hexp r₁ (hsub r₁ h₁) r₂ (hsub r₂ h₂)
    obtain ⟨fs, hfs, heq⟩ := removal_entries hfirst hes hexcluded
    exact (ranking_entries hb').2 ⟨hname, hexp', fs, hfs, by rw [hentries, heq]⟩
  · intro results' hperm hb' hfirst'
    have hexp' : OneExperiment results' := fun r₁ h₁ r₂ h₂ =>
      hexp r₁ (hperm.mem_iff.1 h₁) r₂ (hperm.mem_iff.1 h₂)
    constructor
    · intro hleader
      have hleaders : leaders p results ~ leaders p results' := by
        refine (perm_ext_iff_of_nodup (List.Nodup.of_map _ (nodup_leaders p _))
          (List.Nodup.of_map _ (nodup_leaders p _))).2 fun r => ?_
        rw [mem_leaders, mem_leaders, hleader]
      obtain ⟨fs, hfs, hp⟩ := hes.perm hleaders
      refine (ranking_entries hb').2 ⟨hname, hexp', fs, hfs, ?_⟩
      rw [hentries, sorted_perm hp (hes.nodup (nodup_leaders p _))]
    · intro ranking' h'
      refine ⟨fun t => ?_, fun hvalue => ?_⟩
      · rw [mem_entries hb' h', mem_entries hb h, leaderValue_isSome hfirst',
          leaderValue_isSome hfirst]
        simp only [hperm.mem_iff]
      obtain ⟨-, -, fs, hfs, hentries'⟩ := (ranking_entries hb').1 ⟨ranking', h', rfl⟩
      rw [hentries, hentries', map_trialId_numbered, map_trialId_numbered]
      refine sorted_trials (hfs.nodup (nodup_leaders p _)) (hes.nodup (nodup_leaders p _)) ?_
      have hmem : ∀ {results : List RunResultManifest} {es : List RankingEntry},
          Entries sha256 p b (leaders p results) es → ∀ q : PyDecimal × Digest,
            q ∈ es.map RankingEntry.ranked ↔
              leaderValue sha256 p b results q.2 = some q.1 := by
        intro results es hes q
        rw [leaderValue_eq_some hes, mem_map]
        constructor
        · rintro ⟨e, he, rfl⟩
          exact ⟨e, he, rfl, rfl⟩
        · rintro ⟨e, he, htrial, hvalue⟩
          exact ⟨e, he, Prod.ext hvalue htrial⟩
      intro q
      rw [hmem hfs, hmem hes, hvalue]

end

/-! ## Results that interfere -/

def sampleTrial (id : String) : ScientificTrial where
  trialId := ⟨id⟩
  experimentFingerprint := ⟨"experiment"⟩
  snapshotFingerprint := ⟨"snapshot"⟩
  preflightReport := rigorousPreflight
  executable := Eq.refl true

def sampleMetric (value : Option PyDecimal) (h : ∀ d ∈ value, d.isFinite = true) : MetricValue where
  name := "return"
  value := value
  unit := "fraction"
  definitionVersion := "v1"
  basis := .net
  sampleSize := 10
  nullReason := if value = none then some "insufficient observations" else none
  calculationDefinition := some ⟨"simple-return", "strategy-lab.metric-calculation.v1", []⟩
  value_valid := by
    cases value with
    | none => exact ⟨_, rfl, by decide⟩
    | some d => exact ⟨h d rfl, rfl⟩

def sampleResult (id attempt build : String) (authoritative : Bool) (m : MetricValue) :
    RunResultManifest where
  trial := sampleTrial id
  attemptId := attempt
  fingerprint := ⟨attempt⟩
  snapshotFingerprint := ⟨"snapshot"⟩
  portfolioFingerprint := ⟨"portfolio"⟩
  engineBuildDigest := ⟨build⟩
  allocationDefinitionVersion := "v1"
  metricSet := ⟨"v1", [m], by simp⟩
  engineAuthoritative := authoritative
  snapshot_trial := rfl

def samplePolicy : RankingPolicy where
  metricName := "return"

def sampleReturn : MetricValue :=
  sampleMetric (some (.finite false 10 (-2))) (by simp [PyDecimal.isFinite])

def officialResult : RunResultManifest :=
  sampleResult "trial-1" "attempt-2" "build-1" true sampleReturn

/-- A result of another engine build, which is not authoritative. -/
def exploratoryResult : RunResultManifest :=
  sampleResult "trial-2" "attempt-1" "build-2" false sampleReturn

/-- Another attempt at the official trial, without a value. -/
def nullResult : RunResultManifest :=
  sampleResult "trial-1" "attempt-1" "build-1" true (sampleMetric none (by simp))

def sampleBaseline (sha256 : String → Digest) (r : RunResultManifest) : RankingBaseline where
  context := contextKey r
  calculation := digest sha256 (.mapping
    [(.str "metric_name", .str "return"), (.str "unit", .str "fraction"),
      (.str "basis", .enum "app.strategy_lab_v2.contracts.MetricBasis" (.str "net")),
      (.str "definition_version", .str "v1"),
      (.str "calculation_definition", MetricCalculationDefinition.toPy
        ⟨"simple-return", "strategy-lab.metric-calculation.v1", []⟩)])
  unit := "fraction"

theorem calculation_sample (sha256 : String → Digest) (r : RunResultManifest) :
    sampleReturn.calculationFingerprint sha256 = some (sampleBaseline sha256 r).calculation := rfl

theorem metric_official : metric officialResult "return" .net = .ok (some sampleReturn) := rfl

theorem judge_official (sha256 : String → Digest) :
    ∃ e, judge sha256 samplePolicy (sampleBaseline sha256 officialResult) officialResult =
      .ok (.entry e) :=
  judge_entry (by decide) rfl metric_official rfl rfl (calculation_sample sha256 officialResult)
    (by decide)

theorem ranking_official (sha256 : String → Digest) (results : List RunResultManifest)
    (hb : selectBaseline sha256 samplePolicy results =
      .ok (some (sampleBaseline sha256 officialResult)))
    (hexp : OneExperiment results) (hleaders : leaders samplePolicy results = [officialResult]) :
    ∃ ranking, descriptiveRankResults sha256 samplePolicy results = .ok ranking ∧
      ranking.entries.map (·.trialId) = [⟨"trial-1"⟩] := by
  obtain ⟨e, he⟩ := judge_official sha256
  obtain ⟨ranking, h, hentries⟩ := (ranking_entries hb).2 ⟨by decide, hexp, [e],
    by rw [hleaders]; exact .entry he .nil, rfl⟩
  refine ⟨ranking, h, ?_⟩
  have hspec : Judged sha256 samplePolicy (sampleBaseline sha256 officialResult) officialResult
      (judge sha256 samplePolicy (sampleBaseline sha256 officialResult) officialResult) :=
    judge_spec officialResult
  rw [he] at hspec
  cases hspec with
  | entry htrial _ =>
    rw [hentries, map_trialId_numbered]
    exact congrArg (fun t => [t]) htrial

theorem ranking_empty (sha256 : String → Digest) {r : RunResultManifest} {b : RankingBaseline}
    {x : RankingExclusion} (results : List RunResultManifest)
    (hb : selectBaseline sha256 samplePolicy results = .ok (some b))
    (hexp : OneExperiment results) (hleaders : leaders samplePolicy results = [r])
    (hx : judge sha256 samplePolicy b r = .ok (.exclusion x)) :
    ∃ ranking, descriptiveRankResults sha256 samplePolicy results = .ok ranking ∧
      ranking.entries = [] :=
  (ranking_entries hb).2 ⟨by decide, hexp, [], by rw [hleaders]; exact .exclusion hx .nil, rfl⟩

/-- **Excluded results interfere**: the exploratory result, which is excluded, sets the context;
    and the attempt without a value, which is excluded too, takes the place of its trial. -/
theorem excluded_result_interferes :
    (∃ ranking, descriptiveRankResults Digest.mk samplePolicy
        [exploratoryResult, officialResult] = .ok ranking ∧ ranking.entries = []) ∧
      (∃ ranking, descriptiveRankResults Digest.mk samplePolicy
        [nullResult, officialResult] = .ok ranking ∧ ranking.entries = []) ∧
      (∃ ranking, descriptiveRankResults Digest.mk samplePolicy
        [officialResult, nullResult] = .ok ranking ∧
          ranking.entries.map (·.trialId) = [⟨"trial-1"⟩]) ∧
      ∃ ranking, descriptiveRankResults Digest.mk samplePolicy [officialResult] = .ok ranking ∧
        ranking.entries.map (·.trialId) = [⟨"trial-1"⟩] := by
  have hexp : ∀ rs : List RunResultManifest,
      (∀ r ∈ rs, r.experimentFingerprint = ⟨"experiment"⟩) → OneExperiment rs :=
    fun rs h r hr s hs => (h r hr).trans (h s hs).symm
  have hcontext : judge Digest.mk samplePolicy (sampleBaseline Digest.mk exploratoryResult)
      officialResult = .ok (exclude officialResult .incompatibleContext
        "snapshot, portfolio, engine, allocation, metric-set, or unit context differs") := by
    unfold judge
    rw [if_neg (by decide)]
    exact if_pos (by decide : contextKey officialResult ≠ contextKey exploratoryResult)
  have hnull : judge Digest.mk samplePolicy (sampleBaseline Digest.mk nullResult) nullResult =
      .ok (exclude nullResult .nullMetric "insufficient observations") := by
    have hmetric : metric nullResult samplePolicy.metricName samplePolicy.metricBasis =
        .ok (some (sampleMetric none (by simp))) := rfl
    have hsame : ¬ contextKey nullResult ≠ (sampleBaseline Digest.mk nullResult).context :=
      not_not.2 rfl
    unfold judge
    rw [if_neg (by decide), if_neg hsame, hmetric]
    rfl
  refine ⟨?_, ?_, ?_, ?_⟩
  · exact ranking_empty Digest.mk [exploratoryResult, officialResult] rfl
      (hexp _ (by simp; exact ⟨rfl, rfl⟩)) rfl hcontext
  · exact ranking_empty Digest.mk [nullResult, officialResult] rfl
      (hexp _ (by simp; exact ⟨rfl, rfl⟩)) rfl hnull
  · exact ranking_official Digest.mk _ rfl (hexp _ (by simp; exact ⟨rfl, rfl⟩)) rfl
  · exact ranking_official Digest.mk _ rfl (hexp _ (by simp; exact rfl)) rfl

theorem ranking_independence_sample :
    ∃ ranking ranking', descriptiveRankResults Digest.mk samplePolicy
        [officialResult, nullResult] = .ok ranking ∧
      (⟨"trial-1"⟩ : Digest) ∈ ranking.entries.map (·.trialId) ∧
      descriptiveRankResults Digest.mk samplePolicy [officialResult] = .ok ranking' ∧
      ranking'.entries = ranking.entries := by
  have hexp : OneExperiment [officialResult, nullResult] := by
    simp [OneExperiment, RunResultManifest.experimentFingerprint, officialResult, nullResult,
      sampleResult, sampleTrial]
  obtain ⟨ranking, h, htrials⟩ :=
    ranking_official Digest.mk [officialResult, nullResult] rfl hexp rfl
  obtain ⟨b, hb, hindependent⟩ :=
    ranking_independence Digest.mk samplePolicy [officialResult, nullResult] ranking h
  have hfirst : RankableFirst Digest.mk samplePolicy b [officialResult, nullResult] := by
    refine pairwise_pair.2 fun _ _ hnull => ?_
    have hnone : rankableValue Digest.mk samplePolicy b nullResult = none := by
      unfold rankableValue
      split_ifs
      · exact ite_self _
      · rfl
    rw [Rankable, hnone] at hnull
    exact absurd hnull.2 nofun
  obtain ⟨-, hremoval, -⟩ := hindependent hfirst
  -- the second attempt of the trial is a duplicate
  have hexcluded : ExcludedAfter Digest.mk samplePolicy b [officialResult] nullResult :=
    ⟨_, _, (if_neg (by decide)).trans (if_pos (by decide))⟩
  obtain ⟨ranking', h', hentries⟩ := hremoval [officialResult] nullResult [] rfl hexcluded hb
  exact ⟨ranking, ranking', h, by rw [htrials]; exact mem_singleton_self _, h', hentries⟩

end ChartingPlatform
