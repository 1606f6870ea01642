/-
  Retries of search calls: what the queue remembers of the appends and starts
  that were applied to it.
-/
import ChartingPlatform.Search.Queue

namespace ChartingPlatform

open Lib List

section
variable {sha256 : String → Digest} {s t u : SearchExecutionState} {a : SearchAction}
  {as : List SearchAction} {call : SearchCall} {now : Instant} {trials : List Digest}
  {res : SearchStateResolution}

/-! ## Appends -/

def SearchAction.appliedAppend (a : SearchAction) : Option (List Digest) :=
  match a.call.appended, a.answer with
  | some (trials, _), .ok res => if res.decision = .apply then some trials else none
  | _, _ => none

def appliedAppends (as : List SearchAction) : List (List Digest) :=
  as.filterMap SearchAction.appliedAppend

theorem trials_pendingFrom (start : ℕ) (trials : List Digest) (now : Option Instant) :
    (pendingFrom start trials now).map (·.trialFingerprint) = trials := by
  unfold pendingFrom
  exact ext_getElem (by simp) (by simp [SearchCandidateState.pending])

theorem appliedAppend_eq_some {block : List Digest} : a.appliedAppend = some block ↔
    ∃ now res, a.call.appended = some (block, now) ∧ a.answer = .ok res ∧
      res.decision = .apply := by
  unfold SearchAction.appliedAppend
  constructor
  · intro h
    split at h
    · next trials now res hcall hans =>
      split_ifs at h with hd
      obtain rfl := Option.some.inj h
      exact ⟨now, res, hcall, hans, hd⟩
    · cases h
  · rintro ⟨now, res, hcall, hans, hd⟩
    rw [hcall, hans]
    exact if_pos hd

theorem append_cases (hcall : call.appended = some (trials, now))
    (h : call.resolve sha256 s = .ok res) : trials ≠ [] ∧
      ((trials <:+ s.trials ∧ res.decision = .replayExisting) ∨
        (¬ trials <:+ s.trials ∧ res.decision = .reject) ∨
        (¬ trials <:+ s.trials ∧ res.decision = .apply)) := by
  have happend : appendSearchCandidates s trials now = .ok res → trials ≠ [] ∧
      ((trials <:+ s.trials ∧ res.decision = .replayExisting) ∨
        (¬ trials <:+ s.trials ∧ res.decision = .reject) ∨
        (¬ trials <:+ s.trials ∧ res.decision = .apply)) := by
    intro h
    obtain ⟨hne, h⟩ := appendSearchCandidates_cases h
    refine ⟨hne, ?_⟩
    rcases h with ⟨hs, rfl⟩ | ⟨hs, hd, -⟩ | ⟨hs, hd, -⟩
    · exact .inl ⟨hs, rfl⟩
    · exact .inr (.inl ⟨hs, hd⟩)
    · exact .inr (.inr ⟨hs, hd⟩)
  cases call with
  | start | terminal | cancel => cases hcall
  | append => cases hcall; exact happend h
  | appendExpected =>
    cases hcall
    rcases appendCandidates_cases h with ⟨reason, rfl, hs⟩ | h
    · have hne : trials ≠ [] := fun hnil => hs (hnil ▸ nil_suffix)
      exact ⟨hne, .inr (.inl ⟨hs, rfl⟩)⟩
    · exact happend h

theorem SearchMove.trials_eq (h : SearchMove s t call) :
    t.trials = s.trials ++ ((call.appended.map Prod.fst).getD []) := by
  cases h with
  | start hrep | terminal hrep =>
    simp only [SearchCall.appended, Option.map_none, Option.getD_none, append_nil]
    exact hrep.map_candidates (f := (·.trialFingerprint)) hrep.trial
  | cancel _ _ hcands => simp [SearchCall.appended, SearchExecutionState.trials, hcands]
  | append hcall _ _ _ _ hcands =>
    simp [SearchExecutionState.trials, hcands, hcall, trials_pendingFrom]

theorem trials_run (h : Run (SearchSteps sha256) s as t) :
    t.trials = s.trials ++ (appliedAppends as).flatten := by
  induction h with
  | nil => simp [appliedAppends]
  | @snoc t u as a _ hstep ih =>
    rw [appliedAppends, filterMap_append, flatten_append, ← appliedAppends,
      ← append_assoc, ← ih]
    rcases search_step hstep with ⟨rfl, hans⟩ | ⟨⟨res, hans, hd⟩, hmove⟩
    · have hnone : a.appliedAppend = none := by
        unfold SearchAction.appliedAppend
        split
        · next res _ hok => rw [if_neg (hans res hok)]
        · rfl
      simp [hnone]
    · rw [hmove.trials_eq]
      cases hcall : a.call.appended with
      | none => simp [SearchAction.appliedAppend, hcall]
      | some p => simp [SearchAction.appliedAppend, hcall, hans, hd]

theorem ne_nil_of_appliedAppends (h : Run (SearchSteps sha256) s as t) {block : List Digest}
    (hb : block ∈ appliedAppends as) : block ≠ [] := by
  induction h with
  | nil => simp [appliedAppends] at hb
  | @snoc t u as a _ hstep ih =>
    rw [appliedAppends, filterMap_append, mem_append] at hb
    rcases hb with hb | hb
    · exact ih hb
    · obtain ⟨x, hx, hblock⟩ := mem_filterMap.1 hb
      obtain rfl := mem_singleton.1 hx
      obtain ⟨now, res, hcall, hans, -⟩ := appliedAppend_eq_some.1 hblock
      exact (append_cases hcall (hstep.1.trans hans)).1

theorem getLast?_of_suffix {α : Type} {l : List α} {blocks : List (List α)} {block : List α}
    (hn : (l ++ blocks.flatten).Nodup) (hne : ∀ b ∈ blocks, b ≠ []) (hb : block ∈ blocks)
    (hs : block <:+ l ++ blocks.flatten) : blocks.getLast? = some block := by
  rcases eq_nil_or_concat blocks with rfl | ⟨front, last, rfl⟩
  · cases hb
  rw [concat_eq_append] at *
  rw [getLast?_concat]
  rcases mem_append.1 hb with hfront | hlast
  · exfalso
    rw [flatten_append, flatten_singleton, ← append_assoc] at hn hs
    have hdisj : List.Disjoint front.flatten last := by
      have := disjoint_of_nodup_append hn
      exact fun x hx => this (mem_append_right _ hx)
    have hin : ∀ x ∈ block, x ∈ front.flatten := fun x hx =>
      mem_flatten.2 ⟨block, hfront, hx⟩
    rcases suffix_or_suffix_of_suffix hs (suffix_append _ last) with h | h
    · obtain ⟨x, hx⟩ := exists_mem_of_ne_nil _ (hne block hb)
      exact hdisj (hin x hx) (h.subset hx)
    · obtain ⟨x, hx⟩ := exists_mem_of_ne_nil _ (hne last (by simp))
      exact hdisj (hin x (h.subset hx)) hx
  · rw [mem_singleton.1 hlast]

end

/-- **Appends are replayed for real retries** exactly where the candidates do not end with the
    appended trials, or where these were the last append. -/
theorem append_retries_iff (sha256 : String → Digest) (experiment : Digest) (first : List Digest)
    (created : Option Instant) (as : List SearchAction) (s : SearchExecutionState)
    (hrun : SearchRun sha256 experiment first created as s) (call : SearchCall)
    (trials : List Digest) (now : Instant) (hcall : call.appended = some (trials, now))
    (res : SearchStateResolution) (hres : call.resolve sha256 s = .ok res) :
    ((res.decision = .replayExisting → trials ∈ appliedAppends as) ∧
      (trials ∉ appliedAppends as → res.decision = .reject ∧ res.state = s ∨
        res.decision = .apply ∧ res.state.trials = s.trials ++ trials)) ↔
      ¬ trials <:+ s.trials ∨ (appliedAppends as).getLast? = some trials := by
  obtain ⟨s₀, -, hrun⟩ := hrun
  obtain ⟨-, hcases⟩ := append_cases hcall hres
  constructor
  · rintro ⟨hreplay, -⟩
    by_cases hs : trials <:+ s.trials
    · right
      have hd : res.decision = .replayExisting := by
        rcases hcases with ⟨-, hd⟩ | ⟨hno, -⟩ | ⟨hno, -⟩
        · exact hd
        · exact absurd hs hno
        · exact absurd hs hno
      have hn : (s₀.trials ++ (appliedAppends as).flatten).Nodup :=
        trials_run hrun ▸ s.unique_trials
      exact getLast?_of_suffix hn (fun b hb => ne_nil_of_appliedAppends hrun hb) (hreplay hd)
        (trials_run hrun ▸ hs)
    · exact .inl hs
  · intro hwhen
    have hlast : (appliedAppends as).getLast? = some trials → trials ∈ appliedAppends as :=
      fun h => mem_of_getLast? h
    refine ⟨fun hd => ?_, fun hnew => ?_⟩
    · rcases hcases with ⟨hs, -⟩ | ⟨-, hd'⟩ | ⟨-, hd'⟩
      · exact hwhen.elim (fun hno => absurd hs hno) hlast
      · rw [hd] at hd'; cases hd'
      · rw [hd] at hd'; cases hd'
    · rcases resolve_cases hres with ⟨hd, hs⟩ | ⟨hd, hmove⟩
      · rcases hcases with ⟨hsuf, -⟩ | ⟨-, hd'⟩ | ⟨-, hd'⟩
        · exact absurd (hwhen.elim (fun hno => absurd hsuf hno) hlast) hnew
        · exact .inl ⟨hd', hs⟩
        · exact absurd hd' hd
      · refine .inr ⟨hd, ?_⟩
        simpa [hcall] using hmove.trials_eq

/-- `append_retries_iff` at an append that is rejected, as the search is not complete. -/
theorem append_retries_sample : ∃ res, appendSearchCandidates runningQueue [⟨"u"⟩] 0 = .ok res ∧
    ([⟨"u"⟩] ∉ appliedAppends [startAction] → res.decision = .reject ∧ res.state = runningQueue ∨
      res.decision = .apply ∧ res.state.trials = runningQueue.trials ++ [⟨"u"⟩]) := by
  have hres : appendSearchCandidates runningQueue [⟨"u"⟩] 0 = .ok (runningQueue.rejected none
      "candidate phases can append only after every prior candidate succeeds") := by
    decide +kernel
  have hiff := append_retries_iff Digest.mk _ _ _ _ _ run_sample (.append [⟨"u"⟩] 0) [⟨"u"⟩] 0 rfl
    _ hres
  exact ⟨_, hres, (hiff.2 (.inl (by decide))).2⟩

/-- **The first candidates are replayed as an append**, though nothing was appended. -/
theorem append_replayed_first :
    ∃ res, SearchRun Digest.mk ⟨"e"⟩ [⟨"t"⟩] none [] sampleQueue ∧
      appendSearchCandidates sampleQueue [⟨"t"⟩] 0 = .ok res ∧ res.decision = .replayExisting ∧
      [⟨"t"⟩] ∉ appliedAppends [] :=
  ⟨sampleQueue.replayed none, ⟨sampleQueue, rfl, Run.nil⟩, rfl, rfl, not_mem_nil⟩

/-! ## Starts -/

/-- The attempt of the action, if it is a start of candidate `n` that was applied. -/
def SearchAction.appliedStart (n : ℕ) (a : SearchAction) : Option String :=
  match a.call, a.answer with
  | .start index attempt _, .ok res =>
    if index = n ∧ res.decision = .apply then some attempt else none
  | _, _ => none

/-- The attempts of candidate `n` whose start was applied, in their order. -/
def appliedStarts (n : ℕ) (as : List SearchAction) : List String :=
  as.filterMap (SearchAction.appliedStart n)

/-- The attempt of the action, if it is a terminal receipt for candidate `n` that was applied. -/
def SearchAction.appliedEnd (n : ℕ) (a : SearchAction) : Option String :=
  match a.call, a.answer with
  | .terminal index attempt _ _ _, .ok res =>
    if index = n ∧ res.decision = .apply then some attempt else none
  | _, _ => none

/-- The attempts of candidate `n` that reached a terminal outcome. -/
def endedAttempts (n : ℕ) (as : List SearchAction) : List String :=
  as.filterMap (SearchAction.appliedEnd n)

/-- The attempt count of candidate `n`, `0` before it is there. -/
def SearchExecutionState.attempts (s : SearchExecutionState) (n : ℕ) : ℕ :=
  (s.candidates[n]?.map (·.attemptCount)).getD 0

section
variable {sha256 : String → Digest} {s t u : SearchExecutionState} {a : SearchAction}
  {as : List SearchAction} {c c' : SearchCandidateState} {n : ℕ} {call : SearchCall} {now : Instant}
  {attempt : String}

theorem appliedStart_eq_some : a.appliedStart n = some attempt ↔
    ∃ now res, a.call = .start n attempt now ∧ a.answer = .ok res ∧ res.decision = .apply := by
  unfold SearchAction.appliedStart
  constructor
  · intro h
    split at h
    · next index attempt' now res hcall hans =>
      split_ifs at h with hd
      obtain rfl := Option.some.inj h
      exact ⟨now, res, hd.1 ▸ hcall, hans, hd.2⟩
    · cases h
  · rintro ⟨now, res, hcall, hans, hd⟩
    rw [hcall, hans]
    exact if_pos ⟨rfl, hd⟩

theorem appliedEnd_eq_some : a.appliedEnd n = some attempt ↔
    ∃ phase now result res, a.call = .terminal n attempt phase now result ∧ a.answer = .ok res ∧
      res.decision = .apply := by
  unfold SearchAction.appliedEnd
  constructor
  · intro h
    split at h
    · next index attempt' phase now result res hcall hans =>
      split_ifs at h with hd
      obtain rfl := Option.some.inj h
      exact ⟨phase, now, result, res, hd.1 ▸ hcall, hans, hd.2⟩
    · cases h
  · rintro ⟨phase, now, result, res, hcall, hans, hd⟩
    rw [hcall, hans]
    exact if_pos ⟨rfl, hd⟩

theorem appliedStarts_snoc : appliedStarts n (as ++ [a]) =
    appliedStarts n as ++ (a.appliedStart n).toList := by
  rw [appliedStarts, filterMap_append, ← appliedStarts]
  cases h : a.appliedStart n <;> simp [h]

theorem mem_endedAttempts_snoc : attempt ∈ endedAttempts n (as ++ [a]) ↔
    attempt ∈ endedAttempts n as ∨ a.appliedEnd n = some attempt := by
  simp [endedAttempts]

theorem Replaced.attempts (h : Replaced s n c c' now t) (m : ℕ) :
    t.attempts m = if n = m then c'.attemptCount else s.attempts m := by
  unfold SearchExecutionState.attempts
  split_ifs with hm
  · subst hm
    rw [h.getElem?_self]
    rfl
  · rw [h.getElem?_ne hm]

theorem attempts_of_found (h : s.candidates[n]? = some c) : s.attempts n = c.attemptCount := by
  rw [SearchExecutionState.attempts, h]
  rfl

theorem attempts_append {trials : List Digest}
    (h : t.candidates = s.candidates ++ pendingFrom s.candidates.length trials (some now)) (m : ℕ) :
    t.attempts m = s.attempts m := by
  unfold SearchExecutionState.attempts
  rw [h]
  by_cases hm : m < s.candidates.length
  · rw [getElem?_append_left hm]
  · rw [getElem?_append_right (not_lt.1 hm), getElem?_eq_none (not_lt.1 hm)]
    unfold pendingFrom
    cases hget : trials[m - s.candidates.length]? with
    | none => simp [hget]
    | some trial => simp [hget, SearchCandidateState.pending]

theorem attempts_run (h : Run (SearchSteps sha256) s as t) (hs : ∀ m, s.attempts m = 0) (n : ℕ) :
    t.attempts n = (appliedStarts n as).length := by
  induction h with
  | nil => exact hs n
  | @snoc t u as a _ hstep ih =>
    rw [appliedStarts_snoc, length_append, ← ih]
    rcases search_step hstep with ⟨rfl, hans⟩ | ⟨⟨res, hans, hd⟩, hmove⟩
    · have hnone : a.appliedStart n = none := by
        rw [Option.eq_none_iff_forall_ne_some]
        intro attempt hattempt
        obtain ⟨now, res, -, hok, hd⟩ := appliedStart_eq_some.1 hattempt
        exact hans res hok hd
      simp [hnone]
    · generalize hcall : a.call = call at hmove
      cases hmove with
      | @start m attempt now c c' hrep _ _ _ _ hcount =>
        rw [hrep.attempts]
        split_ifs with hm
        · subst hm
          have hsome : a.appliedStart m = some attempt :=
            appliedStart_eq_some.2 ⟨now, res, hcall, hans, hd⟩
          rw [hsome, attempts_of_found hrep.found, hcount]
          rfl
        · have hnone : a.appliedStart n = none := by
            rw [Option.eq_none_iff_forall_ne_some]
            intro attempt' hattempt
            obtain ⟨now', res', hcall', -⟩ := appliedStart_eq_some.1 hattempt
            rw [hcall] at hcall'
            have hmn : (m : ℤ) = n := (SearchCall.start.inj hcall').1
            exact hm (by exact_mod_cast hmn)
          simp [hnone]
      | @terminal m attempt phase now result c c' hrep _ _ _ _ _ hcount =>
        have hnone : a.appliedStart n = none := by simp [SearchAction.appliedStart, hcall]
        rw [hrep.attempts, hnone]
        split_ifs with hm
        · subst hm
          rw [attempts_of_found hrep.found, hcount]
          rfl
        · rfl
      | cancel _ _ hcands =>
        have hnone : a.appliedStart n = none := by simp [SearchAction.appliedStart, hcall]
        rw [hnone, SearchExecutionState.attempts, hcands]
        rfl
      | append happ _ _ _ _ hcands =>
        have hnone : a.appliedStart n = none := by
          rw [Option.eq_none_iff_forall_ne_some]
          intro attempt hattempt
          obtain ⟨now, res, hcall', -⟩ := appliedStart_eq_some.1 hattempt
          rw [← hcall, hcall'] at happ
          cases happ
        rw [hnone, attempts_append hcands]
        rfl

theorem applied_start_move (hstep : SearchSteps sha256 t a u) (h : a.appliedStart n = some attempt) :
    ∃ now c c', a.call = .start n attempt now ∧ Replaced t n c c' now u ∧
      (c.phase = .pending ∨ c.phase = .failed) ∧ t.cancellationRequested = false ∧
      c'.attemptId = some attempt := by
  obtain ⟨now, res, hcall, hans, hd⟩ := appliedStart_eq_some.1 h
  rcases search_step hstep with ⟨-, hno⟩ | ⟨-, hmove⟩
  · exact absurd hd (hno res hans)
  · generalize hcall' : a.call = call at hmove
    cases hmove with
    | @start m attempt' now' c c' hrep hopen hno _ hattempt _ =>
      rw [hcall] at hcall'
      obtain ⟨hm, rfl, rfl⟩ := SearchCall.start.inj hcall'
      obtain rfl : n = m := by exact_mod_cast hm
      exact ⟨now, c, c', rfl, hrep, hopen, hno, hattempt⟩
    | terminal | cancel => rw [hcall] at hcall'; cases hcall'
    | append happ => rw [← hcall', hcall] at happ; cases happ

theorem notBlank_of_appliedStarts (h : Run (SearchSteps sha256) s as t)
    (hattempt : attempt ∈ appliedStarts n as) : notBlank attempt = true := by
  induction h with
  | nil => simp [appliedStarts] at hattempt
  | @snoc t u as a _ hstep ih =>
    rw [appliedStarts_snoc, mem_append, Option.mem_toList] at hattempt
    rcases hattempt with hold | hnew
    · exact ih hold
    · obtain ⟨_, _, c', -, -, -, -, hid⟩ := applied_start_move hstep hnew
      exact c'.attemptId_notBlank attempt hid

theorem started_of_running (h : Run (SearchSteps sha256) s as t)
    (hs : ∀ c ∈ s.candidates, c.phase = .pending) (hc : t.candidates[n]? = some c)
    (hp : c.phase = .running) (hid : c.attemptId = some attempt) :
    attempt ∈ appliedStarts n as := by
  induction h generalizing n c with
  | nil =>
    rw [hs c (mem_of_getElem? hc)] at hp
    cases hp
  | @snoc t u as a _ hstep ih =>
    rw [appliedStarts_snoc, mem_append]
    rcases search_step hstep with ⟨rfl, -⟩ | ⟨⟨res, hans, hd⟩, hmove⟩
    · exact .inl (ih hc hp hid)
    · generalize hcall : a.call = call at hmove
      cases hmove with
      | @start m attempt' now x x' hrep _ _ _ hattempt _ =>
        by_cases hm : m = n
        · subst hm
          obtain rfl := Option.some.inj (hc.symm.trans hrep.getElem?_self)
          obtain rfl := Option.some.inj (hid.symm.trans hattempt)
          have hsome := appliedStart_eq_some.2 ⟨now, res, hcall, hans, hd⟩
          exact .inr (Option.mem_toList.2 hsome)
        · rw [hrep.getElem?_ne hm] at hc
          exact .inl (ih hc hp hid)
      | @terminal m attempt' phase now result x x' hrep _ _ hterm _ hphase _ =>
        by_cases hm : m = n
        · subst hm
          obtain rfl := Option.some.inj (hc.symm.trans hrep.getElem?_self)
          rw [← hphase, hp] at hterm
          cases hterm
        · rw [hrep.getElem?_ne hm] at hc
          exact .inl (ih hc hp hid)
      | cancel _ _ hcands =>
        rw [hcands] at hc
        exact .inl (ih hc hp hid)
      | append _ _ _ _ _ hcands =>
        rw [hcands] at hc
        rcases mem_append.1 (mem_of_getElem? hc) with hold | hnew
        · have hn : n < t.candidates.length := by
            by_contra hn
            rw [getElem?_append_right (not_lt.1 hn)] at hc
            obtain ⟨i, hi, rfl⟩ := getElem_of_mem (mem_of_getElem? hc)
            simp [pendingFrom, SearchCandidateState.pending] at hp
          rw [getElem?_append_left hn] at hc
          exact .inl (ih hc hp hid)
        · obtain ⟨i, hi, rfl⟩ := getElem_of_mem hnew
          simp [pendingFrom, SearchCandidateState.pending] at hp

theorem started_of_ended (h : Run (SearchSteps sha256) s as t)
    (hs : ∀ c ∈ s.candidates, c.phase = .pending) (hend : attempt ∈ endedAttempts n as) :
    attempt ∈ appliedStarts n as := by
  induction h with
  | nil => simp [endedAttempts] at hend
  | @snoc t u as a hrun hstep ih =>
    rw [appliedStarts_snoc, mem_append]
    rcases mem_endedAttempts_snoc.1 hend with hold | hnew
    · exact .inl (ih hold)
    · obtain ⟨phase, now, result, res, hcall, hans, hd⟩ := appliedEnd_eq_some.1 hnew
      rcases search_step hstep with ⟨-, hno⟩ | ⟨-, hmove⟩
      · exact absurd hd (hno res hans)
      · rw [hcall] at hmove
        generalize hindex : (n : ℤ) = index at hmove
        cases hmove with
        | @terminal m _ _ _ _ x x' hrep hp hid =>
          obtain rfl : n = m := by exact_mod_cast hindex
          exact .inl (started_of_running hrun hs hrep.found hp hid)
        | append happ => cases happ

theorem start_applies (hc : s.candidates[n]? = some c)
    (hp : c.phase = .pending ∨ c.phase = .failed) (hno : s.cancellationRequested = false)
    (htime : s.NotAfter now) (hblank : notBlank attempt = true) :
    ∃ res, startSearchCandidate s n attempt now = .ok res ∧ res.decision = .apply := by
  have hfits : SearchCandidatePhase.running.Fits (some attempt) (c.attemptCount + 1) none :=
    ⟨nofun, Nat.le_add_left _ _, rfl⟩
  obtain ⟨x, hx⟩ := makeSearchCandidateState_of c.candidateIndex c.trialFingerprint c.updatedAt
    (by simpa using hblank) hfits
  obtain ⟨hidx, htrial, -⟩ := makeSearchCandidateState_eq_ok hx
  obtain ⟨t, ht⟩ := Replaced.isOk hc (hidx.trans (candidateIndex_eq hc)) htrial htime
  have hrunning : c.phase ≠ .running := by rcases hp with hp | hp <;> rw [hp] <;> exact nofun
  have hclosed : ¬ (c.phase = .succeeded ∨ c.phase = .cancelled) := by
    rcases hp with hp | hp <;> rw [hp] <;> rintro (h | h) <;> cases h
  refine ⟨{ decision := .apply, state := t, candidateIndex := some n }, ?_, rfl⟩
  unfold startSearchCandidate
  rw [ensure_of hblank, ok_bind, candidate_of hc, ok_bind, if_neg (by simp [hno]),
    if_neg hrunning, if_neg hclosed, if_neg (not_not.2 htime), hx, ok_bind, ht, ok_bind, pure_eq_ok]

end

/-! ## Distinct attempts -/

/-- After the actions `as` led to `t`, the action starts a failed candidate under an attempt that
    it had before. -/
def Restarts (as : List SearchAction) (t : SearchExecutionState) (a : SearchAction) : Prop :=
  ∃ (n : ℕ) (attempt : String) (now : Instant) (c : SearchCandidateState),
    a.call = .start n attempt now ∧ t.candidates[n]? = some c ∧ c.phase = .failed ∧
      t.cancellationRequested = false ∧ t.NotAfter now ∧ attempt ∈ appliedStarts n as

section
variable {sha256 : String → Digest} {s t u : SearchExecutionState} {a : SearchAction}
  {as : List SearchAction} {n : ℕ} {attempt : String} {experiment : Digest} {first : List Digest}
  {created : Option Instant}

theorem newSearch_pending (h : newSearchExecutionState experiment first created = .ok s) :
    (∀ c ∈ s.candidates, c.phase = .pending) ∧ ∀ n, s.attempts n = 0 := by
  unfold newSearchExecutionState at h
  obtain ⟨_, -, h⟩ := bind_eq_ok.1 h
  obtain ⟨_, -, h⟩ := bind_eq_ok.1 h
  obtain ⟨-, hcands, -⟩ := makeSearchExecutionState_eq_ok h
  have hpending : ∀ c ∈ s.candidates, c.phase = .pending := by
    intro c hc
    rw [hcands] at hc
    obtain ⟨i, hi, rfl⟩ := getElem_of_mem hc
    simp [pendingFrom, SearchCandidateState.pending]
  refine ⟨hpending, fun n => ?_⟩
  unfold SearchExecutionState.attempts
  cases hget : s.candidates[n]? with
  | none => rfl
  | some c =>
    have hfits := c.fits
    rw [hpending c (mem_of_getElem? hget)] at hfits
    exact hfits.2.1

theorem run_unique (h : Run (SearchSteps sha256) s as t) (h' : Run (SearchSteps sha256) s as u) :
    t = u := by
  induction h generalizing u with
  | nil => exact (Run.nil_iff.1 h').symm
  | snoc _ hstep ih =>
    obtain ⟨v, hrun, hstep'⟩ := Run.snoc_iff.1 h'
    obtain rfl := ih hrun
    exact hstep.2.trans hstep'.2.symm

theorem restarts_of_applied (h : Run (SearchSteps sha256) s as t) (hs : ∀ m, s.attempts m = 0)
    (hstep : SearchSteps sha256 t a u) (hnew : a.appliedStart n = some attempt)
    (hold : attempt ∈ appliedStarts n as) : Restarts as t a := by
  obtain ⟨now, c, c', hcall, hrep, hopen, hno, -⟩ := applied_start_move hstep hnew
  rcases hopen with hp | hp
  · have hfits := c.fits
    rw [hp] at hfits
    have hzero : (appliedStarts n as).length = 0 := by
      rw [← attempts_run h hs, attempts_of_found hrep.found, hfits.2.1]
    rw [length_eq_zero_iff.1 hzero] at hold
    cases hold
  · exact ⟨n, attempt, now, c, hcall, hrep.found, hp, hno, hrep.notAfter, hold⟩

theorem applied_of_restarts (h : Run (SearchSteps sha256) s as t) (hstep : SearchSteps sha256 t a u)
    (hre : Restarts as t a) :
    ∃ n attempt, n < t.candidates.length ∧ a.appliedStart n = some attempt ∧
      attempt ∈ appliedStarts n as := by
  obtain ⟨n, attempt, now, c, hcall, hc, hp, hno, htime, hold⟩ := hre
  obtain ⟨res, hres, hd⟩ := start_applies hc (.inr hp) hno htime (notBlank_of_appliedStarts h hold)
  have hans : a.answer = .ok res := by
    rw [← hstep.1, hcall]
    exact hres
  exact ⟨n, attempt, (List.getElem?_eq_some_iff.1 hc).1,
    appliedStart_eq_some.2 ⟨now, res, hcall, hans, hd⟩, hold⟩

theorem nodup_appliedStarts (h : Run (SearchSteps sha256) s as t) (hs : ∀ m, s.attempts m = 0)
    (hno : ∀ as₁ a as₂ t, as = as₁ ++ a :: as₂ → Run (SearchSteps sha256) s as₁ t →
      ¬ Restarts as₁ t a) (n : ℕ) : (appliedStarts n as).Nodup := by
  induction h with
  | nil => exact nodup_nil
  | @snoc t u as a hrun hstep ih =>
    have hold := ih fun as₁ b as₂ v has => hno as₁ b (as₂ ++ [a]) v (by simp [has])
    rw [appliedStarts_snoc]
    cases hnew : a.appliedStart n with
    | none => simpa using hold
    | some attempt =>
      rw [Option.toList_some]
      refine hold.append (nodup_singleton _) (disjoint_singleton.2 fun hmem => ?_)
      exact hno as a [] t rfl hrun (restarts_of_applied hrun hs hstep hnew hmem)

end

/-- **Attempt counts count distinct attempts, and an attempt that ended never runs again,** exactly
    in the runs in which no failed candidate is started under an attempt it had before. -/
theorem attempts_distinct_iff (sha256 : String → Digest) (experiment : Digest)
    (first : List Digest) (created : Option Instant) (as : List SearchAction)
    (s : SearchExecutionState) (hrun : SearchRun sha256 experiment first created as s) :
    ((∀ (n : ℕ) (c : SearchCandidateState), s.candidates[n]? = some c →
        c.attemptCount = (appliedStarts n as).toFinset.card) ∧
      ∀ as₁ a as₂ t u, as = as₁ ++ a :: as₂ → SearchRun sha256 experiment first created as₁ t →
        SearchSteps sha256 t a u → ∀ (n : ℕ) (attempt : String) (now : Instant),
          a.call = .start n attempt now → attempt ∈ endedAttempts n as₁ →
            ∀ c : SearchCandidateState, u.candidates[n]? = some c → c.phase = .running →
              t.candidates[n]? = some c) ↔
      ∀ as₁ a as₂ t, as = as₁ ++ a :: as₂ → SearchRun sha256 experiment first created as₁ t →
        ¬ Restarts as₁ t a := by
  obtain ⟨s₀, hinit, hrun⟩ := hrun
  obtain ⟨hpending, hzero⟩ := newSearch_pending hinit
  have hsame : ∀ as₁ t, SearchRun sha256 experiment first created as₁ t →
      Run (SearchSteps sha256) s₀ as₁ t := by
    rintro as₁ t ⟨s₁, hinit₁, hrun₁⟩
    rwa [Except.ok.inj (hinit.symm.trans hinit₁)]
  have hcount : ∀ (n : ℕ) (c : SearchCandidateState), s.candidates[n]? = some c →
      (c.attemptCount = (appliedStarts n as).toFinset.card ↔ (appliedStarts n as).Nodup) := by
    intro n c hc
    rw [← attempts_of_found hc, attempts_run hrun hzero, eq_comm]
    exact Multiset.toFinset_card_eq_card_iff_nodup
  constructor
  · rintro ⟨hdistinct, -⟩ as₁ a as₂ t rfl hrun₁ hre
    obtain ⟨v, hrun₁', hrest⟩ := Run.append_iff.1 hrun
    obtain rfl := run_unique (hsame as₁ t hrun₁) hrun₁'
    rw [← singleton_append] at hrest
    obtain ⟨u, hone, hlast⟩ := Run.append_iff.1 hrest
    rw [← nil_append [a], Run.snoc_iff] at hone
    obtain ⟨w, hnil, hstep⟩ := hone
    obtain rfl := Run.nil_iff.1 hnil
    obtain ⟨n, attempt, hn, hnew, hold⟩ := applied_of_restarts hrun₁' hstep hre
    have hlen : n < s.candidates.length :=
      hn.trans_le ((evolves_step hstep).trans (evolves_run hlast)).length_le
    have hnodup := (hcount n _ (getElem?_eq_getElem hlen)).1
      (hdistinct n _ (getElem?_eq_getElem hlen))
    have hsplit : appliedStarts n (as₁ ++ a :: as₂) =
        appliedStarts n as₁ ++ (attempt :: appliedStarts n as₂) := by
      simp [appliedStarts, hnew]
    rw [hsplit] at hnodup
    exact disjoint_of_nodup_append hnodup hold mem_cons_self
  · intro hno
    have hno' : ∀ as₁ a as₂ t, as = as₁ ++ a :: as₂ → Run (SearchSteps sha256) s₀ as₁ t →
        ¬ Restarts as₁ t a := fun as₁ a as₂ t has hrun₁ =>
      hno as₁ a as₂ t has ⟨s₀, hinit, hrun₁⟩
    refine ⟨fun n c hc => (hcount n c hc).2 (nodup_appliedStarts hrun hzero hno' n), ?_⟩
    intro as₁ a as₂ t u has hrun₁ hstep n attempt now hcall hend c hc _
    have hold := started_of_ended (hsame as₁ t hrun₁) hpending hend
    rcases search_step hstep with ⟨rfl, -⟩ | ⟨⟨res, hans, hd⟩, -⟩
    · exact hc
    · have hnew : a.appliedStart n = some attempt :=
        appliedStart_eq_some.2 ⟨now, res, hcall, hans, hd⟩
      exact absurd (restarts_of_applied (hsame as₁ t hrun₁) hzero hstep hnew hold)
        (hno as₁ a as₂ t has hrun₁)

/-- `attempts_distinct_iff` after the first start. -/
theorem attempts_distinct_sample :
    ∃ s, SearchRun Digest.mk ⟨"e"⟩ [⟨"t"⟩] none [startAction] s ∧
      ∀ (n : ℕ) (c : SearchCandidateState), s.candidates[n]? = some c →
        c.attemptCount = (appliedStarts n [startAction]).toFinset.card := by
  refine ⟨runningQueue, run_sample, ((attempts_distinct_iff _ _ _ _ _ _ run_sample).2 ?_).1⟩
  rintro as₁ a as₂ t has - ⟨n, attempt, -, -, -, -, -, -, -, hold⟩
  cases as₁ with
  | nil => cases hold
  | cons b as₁ => simp at has

/-- The sample search with its candidate at attempt `a` for the `count`-th time. -/
def attemptQueue (phase : SearchCandidatePhase) (count : ℕ)
    (h : phase.Fits (some "a") count none) : SearchExecutionState :=
  { runningQueue with
    candidates := [{
      candidateIndex := 0
      trialFingerprint := ⟨"t"⟩
      phase := phase
      attemptId := some "a"
      attemptCount := count
      resultFingerprint := none
      updatedAt := some 0
      attemptId_notBlank := a_notBlank
      fits := h }]
    candidates_ne_nil := nofun
    contiguous := rfl
    unique_trials := nodup_singleton _ }

/-- **A failed attempt that is delivered again runs again and is counted twice.** -/
theorem attempt_counted_twice : ∃ as s c, SearchRun Digest.mk ⟨"e"⟩ [⟨"t"⟩] none as s ∧
    s.candidates[0]? = some c ∧ appliedStarts 0 as = ["a", "a"] ∧ c.attemptCount = 2 ∧
    (appliedStarts 0 as).toFinset.card = 1 ∧ endedAttempts 0 as = ["a"] ∧ c.phase = .running := by
  have hfailed : SearchSteps Digest.mk runningQueue
      ⟨.terminal 0 "a" .failed 0 none,
        .ok { decision := .apply, state := attemptQueue .failed 1 (by decide),
              candidateIndex := some 0 }⟩ (attemptQueue .failed 1 (by decide)) :=
    ⟨by decide +kernel, rfl⟩
  have hagain : SearchSteps Digest.mk (attemptQueue .failed 1 (by decide))
      ⟨.start 0 "a" 0,
        .ok { decision := .apply, state := attemptQueue .running 2 (by decide),
              candidateIndex := some 0 }⟩ (attemptQueue .running 2 (by decide)) :=
    ⟨by decide +kernel, rfl⟩
  obtain ⟨s₀, hinit, hrun⟩ := run_sample
  exact ⟨_, _, _, ⟨s₀, hinit, (hrun.snoc hfailed).snoc hagain⟩, rfl, rfl, rfl, rfl, rfl, rfl⟩

end ChartingPlatform
