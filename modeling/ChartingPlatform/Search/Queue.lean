/-
  Runs of the search queue: a call either leaves the queue as it is or makes one of the four
  moves of `SearchMove`.
-/
import ChartingPlatform.Search.State
import ChartingPlatform.Lib.Runs

namespace ChartingPlatform

open Lib List

section
variable {s t : SearchExecutionState} {c c' : SearchCandidateState} {n : ℕ} {now : Instant}
  {trials : List Digest} {res : SearchStateResolution} {index : ℤ} {sha256 : String → Digest}

/-! ## Candidates by index -/

theorem candidateIndex_eq (h : s.candidates[n]? = some c) : c.candidateIndex = n := by
  obtain ⟨hn, rfl⟩ := List.getElem?_eq_some_iff.1 h
  have hget : (s.candidates.map (·.candidateIndex))[n]? = (List.range s.candidates.length)[n]? := by
    rw [s.contiguous]
  simpa [hn] using hget

theorem candidate_eq_ok (h : s.candidate index = .ok c) :
    ∃ n : ℕ, index = n ∧ s.candidates[n]? = some c := by
  unfold SearchExecutionState.candidate at h
  split_ifs at h with hneg
  refine ⟨index.toNat, (Int.toNat_of_nonneg (not_lt.1 hneg)).symm, ?_⟩
  cases hget : s.candidates[index.toNat]? with
  | none => rw [hget] at h; cases h
  | some x => rw [hget] at h; rw [Except.ok.inj h]

theorem candidate_of (h : s.candidates[n]? = some c) : s.candidate n = .ok c := by
  unfold SearchExecutionState.candidate
  rw [if_neg (by omega), Int.toNat_natCast, h]

/-! ## What one call does -/

/-- Candidate `n` is `c` in `s` and `c'` in `t`, which is stamped `now`; nothing else changes. -/
structure Replaced (s : SearchExecutionState) (n : ℕ) (c c' : SearchCandidateState)
    (now : Instant) (t : SearchExecutionState) : Prop where
  found : s.candidates[n]? = some c
  trial : c'.trialFingerprint = c.trialFingerprint
  stamped : c'.updatedAt = some now
  notAfter : s.NotAfter now
  candidates : t.candidates = s.candidates.set n c'
  requested : t.cancellationRequested = s.cancellationRequested
  updatedAt : t.updatedAt = some now

def SearchCall.appended : SearchCall → Option (List Digest × Instant)
  | append trials now | appendExpected _ trials now => some (trials, now)
  | _ => none

inductive SearchMove (s t : SearchExecutionState) : SearchCall → Prop
  | start {n attempt now c c'} : Replaced s n c c' now t → c.phase = .pending ∨ c.phase = .failed →
      s.cancellationRequested = false → c'.phase = .running → c'.attemptId = some attempt →
      c'.attemptCount = c.attemptCount + 1 → SearchMove s t (.start (n : ℕ) attempt now)
  | terminal {n attempt phase now result c c'} : Replaced s n c c' now t → c.phase = .running →
      c.attemptId = some attempt → phase.isTerminal = true →
      (s.cancellationRequested = true → phase = .cancelled) → c'.phase = phase →
      c'.attemptCount = c.attemptCount → SearchMove s t (.terminal (n : ℕ) attempt phase now result)
  | cancel {requestId now} : s.cancellationRequested = false → s.NotAfter now →
      t.candidates = s.candidates → t.cancellationRequested = true → t.updatedAt = some now →
      SearchMove s t (.cancel requestId now)
  | append {call trials now} : call.appended = some (trials, now) → trials ≠ [] →
      s.cancellationRequested = false → (∀ c ∈ s.candidates, c.phase = .succeeded) →
      s.NotAfter now →
      t.candidates = s.candidates ++ pendingFrom s.candidates.length trials (some now) →
      t.cancellationRequested = false → t.updatedAt = some now → SearchMove s t call

theorem replaced_of (hfound : s.candidates[n]? = some c) {x : SearchCandidateState}
    (hidx : x.candidateIndex = n) (htrial : x.trialFingerprint = c.trialFingerprint)
    (h : s.replaceCandidate x now = .ok t) : ∃ c', Replaced s n c c' now t ∧
      c'.phase = x.phase ∧ c'.attemptId = x.attemptId ∧ c'.attemptCount = x.attemptCount := by
  unfold SearchExecutionState.replaceCandidate at h
  obtain ⟨_, htime, h⟩ := bind_eq_ok.1 h
  obtain ⟨c', hc', h⟩ := bind_eq_ok.1 h
  obtain ⟨-, htrial', hphase, hattempt, hcount, -, hstamp⟩ := makeSearchCandidateState_eq_ok hc'
  obtain ⟨-, hcands, hreq, -, hupd⟩ := makeSearchExecutionState_eq_ok h
  rw [hidx] at hcands
  rw [ensure_eq_ok] at htime
  exact ⟨c', ⟨hfound, htrial'.trans htrial, hstamp, htime, hcands, hreq, hupd⟩, hphase, hattempt,
    hcount⟩

def Stays (s : SearchExecutionState) (res : SearchStateResolution) : Prop :=
  res.decision ≠ .apply ∧ res.state = s

theorem stays_rejected (s : SearchExecutionState) (index : Option ℤ) (reason : String) :
    Stays s (s.rejected index reason) := ⟨nofun, rfl⟩

theorem stays_replayed (s : SearchExecutionState) (index : Option ℤ) :
    Stays s (s.replayed index) := ⟨nofun, rfl⟩

theorem startSearchCandidate_cases {attempt : String}
    (h : startSearchCandidate s index attempt now = .ok res) :
    Stays s res ∨ res.decision = .apply ∧ SearchMove s res.state (.start index attempt now) := by
  unfold startSearchCandidate at h
  obtain ⟨_, -, h⟩ := bind_eq_ok.1 h
  obtain ⟨c, hc, h⟩ := bind_eq_ok.1 h
  obtain ⟨n, rfl, hfound⟩ := candidate_eq_ok hc
  split_ifs at h with hcancel hrunning hsame hclosed htime
  · exact .inl (Except.ok.inj h ▸ stays_rejected s _ _)
  · exact .inl (Except.ok.inj h ▸ stays_replayed s _)
  · exact .inl (Except.ok.inj h ▸ stays_rejected s _ _)
  · exact .inl (Except.ok.inj h ▸ stays_rejected s _ _)
  · obtain ⟨running, hrun, h⟩ := bind_eq_ok.1 h
    obtain ⟨next, hnext, h⟩ := bind_eq_ok.1 h
    obtain rfl := Except.ok.inj h
    obtain ⟨hidx, htrial, hphase, hattempt, hcount, -, -⟩ := makeSearchCandidateState_eq_ok hrun
    obtain ⟨c', hrep, hphase', hattempt', hcount'⟩ :=
      replaced_of hfound (hidx.trans (candidateIndex_eq hfound)) htrial hnext
    have hopen : c.phase = .pending ∨ c.phase = .failed := by
      cases hp : c.phase with
      | pending => exact .inl rfl
      | failed => exact .inr rfl
      | running => exact absurd hp hrunning
      | succeeded => exact absurd (.inl hp) hclosed
      | cancelled => exact absurd (.inr hp) hclosed
    exact .inr ⟨rfl, .start hrep hopen (by simpa using hcancel) (hphase'.trans hphase)
      (hattempt'.trans hattempt) (hcount'.trans hcount)⟩
  · exact .inl (Except.ok.inj h ▸ stays_rejected s _ _)

theorem recordSearchCandidateTerminal_cases {attempt : String}
    {phase : SearchCandidatePhase} {result : Option Digest}
    (h : recordSearchCandidateTerminal s index attempt phase now result = .ok res) :
    Stays s res ∨
      res.decision = .apply ∧ SearchMove s res.state (.terminal index attempt phase now result) := by
  unfold recordSearchCandidateTerminal at h
  obtain ⟨_, -, h⟩ := bind_eq_ok.1 h
  obtain ⟨_, hterm, h⟩ := bind_eq_ok.1 h
  obtain ⟨_, -, h⟩ := bind_eq_ok.1 h
  obtain ⟨_, -, h⟩ := bind_eq_ok.1 h
  obtain ⟨c, hc, h⟩ := bind_eq_ok.1 h
  obtain ⟨n, rfl, hfound⟩ := candidate_eq_ok hc
  split_ifs at h with hclosed hsame hactive hcancel
  · exact .inl (Except.ok.inj h ▸ stays_replayed s _)
  · exact .inl (Except.ok.inj h ▸ stays_rejected s _ _)
  · exact .inl (Except.ok.inj h ▸ stays_rejected s _ _)
  · exact .inl (Except.ok.inj h ▸ stays_rejected s _ _)
  · obtain ⟨terminal, hterminal, h⟩ := bind_eq_ok.1 h
    obtain ⟨next, hnext, h⟩ := bind_eq_ok.1 h
    obtain rfl := Except.ok.inj h
    obtain ⟨hidx, htrial, hphase, -, hcount, -, -⟩ := makeSearchCandidateState_eq_ok hterminal
    obtain ⟨c', hrep, hphase', -, hcount'⟩ :=
      replaced_of hfound (hidx.trans (candidateIndex_eq hfound)) htrial hnext
    rw [not_or, not_not, not_not] at hactive
    have honly : s.cancellationRequested = true → phase = .cancelled := fun hreq =>
      not_not.1 fun hne => hcancel ⟨hreq, hne⟩
    exact .inr ⟨rfl, .terminal hrep hactive.1 hactive.2 (ensure_eq_ok.1 hterm) honly
      (hphase'.trans hphase) (hcount'.trans hcount)⟩

theorem requestSearchCancellation_cases {requestId : Digest}
    (h : requestSearchCancellation s requestId now = .ok res) :
    Stays s res ∨ res.decision = .apply ∧ SearchMove s res.state (.cancel requestId now) := by
  unfold requestSearchCancellation at h
  split_ifs at h with hreq hsame hcomplete htime
  · exact .inl (Except.ok.inj h ▸ stays_replayed s _)
  · exact .inl (Except.ok.inj h ▸ stays_rejected s _ _)
  · exact .inl (Except.ok.inj h ▸ stays_rejected s _ _)
  · obtain ⟨next, hnext, h⟩ := bind_eq_ok.1 h
    obtain rfl := Except.ok.inj h
    obtain ⟨-, hcands, hrequested, -, hupd⟩ := makeSearchExecutionState_eq_ok hnext
    exact .inr ⟨rfl, .cancel (by simpa using hreq) htime hcands hrequested hupd⟩
  · exact .inl (Except.ok.inj h ▸ stays_rejected s _ _)

theorem appendSearchCandidates_cases (h : appendSearchCandidates s trials now = .ok res) :
    trials ≠ [] ∧
      ((trials <:+ s.trials ∧ res = s.replayed none) ∨
        (¬ trials <:+ s.trials ∧ res.decision = .reject ∧ res.state = s) ∨
        (¬ trials <:+ s.trials ∧ res.decision = .apply ∧
          SearchMove s res.state (.append trials now))) := by
  unfold appendSearchCandidates at h
  obtain ⟨_, hne, h⟩ := bind_eq_ok.1 h
  obtain ⟨_, -, h⟩ := bind_eq_ok.1 h
  have hsuffix : (trials.length ≤ s.trials.length ∧
      s.trials.drop (s.trials.length - trials.length) = trials) ↔ trials <:+ s.trials := by
    rw [suffix_iff_eq_drop, eq_comm]
    refine ⟨And.right, fun heq => ⟨?_, heq⟩⟩
    have := congrArg List.length heq
    rw [length_drop] at this
    omega
  refine ⟨ensure_eq_ok.1 hne, ?_⟩
  simp only [hsuffix] at h
  by_cases hs : trials <:+ s.trials
  · rw [if_pos hs] at h
    exact .inl ⟨hs, (Except.ok.inj h).symm⟩
  · rw [if_neg hs] at h
    refine .inr ?_
    split_ifs at h with hreq hcomplete hreuse htime
    · exact .inl ⟨hs, Except.ok.inj h ▸ ⟨rfl, rfl⟩⟩
    · exact .inl ⟨hs, Except.ok.inj h ▸ ⟨rfl, rfl⟩⟩
    · exact .inl ⟨hs, Except.ok.inj h ▸ ⟨rfl, rfl⟩⟩
    · obtain ⟨next, hnext, h⟩ := bind_eq_ok.1 h
      obtain rfl := Except.ok.inj h
      obtain ⟨-, hcands, hrequested, -, hupd⟩ := makeSearchExecutionState_eq_ok hnext
      have hsucc : ∀ c ∈ s.candidates, c.phase = .succeeded := fun c hc =>
        not_not.1 fun hne => hcomplete (.inr ⟨c, hc, hne⟩)
      have hno : s.cancellationRequested = false := by simpa using hreq
      exact .inr ⟨hs, rfl, .append rfl (ensure_eq_ok.1 hne) hno hsucc htime hcands
        (hrequested.trans hno) hupd⟩
    · exact .inl ⟨hs, Except.ok.inj h ▸ ⟨rfl, rfl⟩⟩

theorem appendCandidates_cases {expected : Digest}
    (h : appendCandidates sha256 s expected trials now = .ok res) :
    (∃ reason, res = s.rejected none reason ∧ ¬ trials <:+ s.trials) ∨
      appendSearchCandidates s trials now = .ok res := by
  unfold appendCandidates at h
  obtain ⟨replay, hreplay, h⟩ := bind_eq_ok.1 h
  split_ifs at h with hexpected hdecision
  · exact .inr (Except.ok.inj h ▸ hreplay)
  · refine .inl ⟨_, (Except.ok.inj h).symm, ?_⟩
    rcases (appendSearchCandidates_cases hreplay).2 with ⟨-, rfl⟩ | ⟨hs, -⟩ | ⟨hs, -⟩
    · exact absurd rfl hdecision
    · exact hs
    · exact hs
  · exact .inr (Except.ok.inj h ▸ hreplay)

/-- **Everything a call can do to the queue.** -/
theorem resolve_cases {call : SearchCall} (h : call.resolve sha256 s = .ok res) :
    Stays s res ∨ res.decision = .apply ∧ SearchMove s res.state call := by
  have happend : ∀ {trials now}, appendSearchCandidates s trials now = .ok res →
      Stays s res ∨ res.decision = .apply ∧ ∀ call : SearchCall,
        call.appended = some (trials, now) → SearchMove s res.state call := by
    intro trials now h
    rcases (appendSearchCandidates_cases h).2 with ⟨-, rfl⟩ | ⟨-, hd, hs⟩ | ⟨-, hd, hmove⟩
    · exact .inl (stays_replayed s _)
    · exact .inl ⟨by simp [hd], hs⟩
    · cases hmove with
      | append hcall h₁ h₂ h₃ h₄ h₅ h₆ h₇ =>
        cases hcall
        exact .inr ⟨hd, fun call hcall => .append hcall h₁ h₂ h₃ h₄ h₅ h₆ h₇⟩
  cases call with
  | start => exact startSearchCandidate_cases h
  | terminal => exact recordSearchCandidateTerminal_cases h
  | cancel => exact requestSearchCancellation_cases h
  | append => exact (happend h).imp_right fun ⟨hd, hmove⟩ => ⟨hd, hmove _ rfl⟩
  | appendExpected =>
    rcases appendCandidates_cases h with ⟨reason, rfl, -⟩ | h
    · exact .inl (stays_rejected s _ _)
    · exact (happend h).imp_right fun ⟨hd, hmove⟩ => ⟨hd, hmove _ rfl⟩

end

/-! ## Runs -/

structure SearchAction where
  call : SearchCall
  answer : Except PyError SearchStateResolution

/-- The call is answered so in `s`, and leads to `t`: the state of the answer, or `s` where the
    call raised. -/
def SearchSteps (sha256 : String → Digest) (s : SearchExecutionState) (a : SearchAction)
    (t : SearchExecutionState) : Prop :=
  a.call.resolve sha256 s = a.answer ∧
    t = match a.answer with
      | .ok res => res.state
      | .error _ => s

def SearchRun (sha256 : String → Digest) (experiment : Digest) (trials : List Digest)
    (created : Option Instant) (as : List SearchAction) (s : SearchExecutionState) : Prop :=
  ∃ s₀, newSearchExecutionState experiment trials created = .ok s₀ ∧
    Run (SearchSteps sha256) s₀ as s

section
variable {sha256 : String → Digest} {s t u : SearchExecutionState} {a : SearchAction}
  {as : List SearchAction} {c c' : SearchCandidateState} {n : ℕ} {call : SearchCall} {now : Instant}

theorem search_step (h : SearchSteps sha256 s a t) :
    t = s ∧ (∀ res, a.answer = .ok res → res.decision ≠ .apply) ∨
      (∃ res, a.answer = .ok res ∧ res.decision = .apply) ∧ SearchMove s t a.call := by
  obtain ⟨hcall, rfl⟩ := h
  cases hans : a.answer with
  | error e => exact .inl ⟨rfl, nofun⟩
  | ok res =>
    rw [hans] at hcall
    rcases resolve_cases hcall with ⟨hd, hs⟩ | ⟨hd, hmove⟩
    · refine .inl ⟨hs, fun res' hres' => ?_⟩
      rwa [← Except.ok.inj hres']
    · exact .inr ⟨⟨res, rfl, hd⟩, hmove⟩

def SearchExecutionState.identities (s : SearchExecutionState) : List (ℕ × Digest) :=
  s.candidates.map fun c => (c.candidateIndex, c.trialFingerprint)

structure Evolves (s t : SearchExecutionState) : Prop where
  /-- Candidates are only appended. -/
  appended : s.identities <+: t.identities
  /-- A succeeded or cancelled candidate stays as it is. -/
  closed : ∀ (n : ℕ) (c : SearchCandidateState), s.candidates[n]? = some c →
    c.phase = .succeeded ∨ c.phase = .cancelled → t.candidates[n]? = some c
  /-- Attempt counts grow. -/
  attempts : ∀ (n : ℕ) (c c' : SearchCandidateState), s.candidates[n]? = some c →
    t.candidates[n]? = some c' → c.attemptCount ≤ c'.attemptCount
  /-- After a cancellation no candidate becomes running. -/
  cancelled : s.cancellationRequested = true → t.cancellationRequested = true ∧
    ∀ (n : ℕ) (c' : SearchCandidateState), t.candidates[n]? = some c' → c'.phase = .running →
      s.candidates[n]? = some c'
  /-- Time does not go back. -/
  updatedAt : ∀ u ∈ s.updatedAt, ∃ u' ∈ t.updatedAt, u ≤ u'

theorem Evolves.refl (s : SearchExecutionState) : Evolves s s where
  appended := prefix_rfl
  closed := fun _ _ h _ => h
  attempts := by
    intro n c c' h h'
    rw [Option.some.inj (h.symm.trans h')]
  cancelled := fun h => ⟨h, fun _ _ h _ => h⟩
  updatedAt := fun u hu => ⟨u, hu, le_rfl⟩

theorem Evolves.length_le (h : Evolves s t) : s.candidates.length ≤ t.candidates.length := by
  simpa [SearchExecutionState.identities] using h.appended.length_le

theorem Evolves.trans (h : Evolves s t) (h' : Evolves t u) : Evolves s u where
  appended := h.appended.trans h'.appended
  closed := fun n c hc hp => h'.closed n c (h.closed n c hc hp) hp
  attempts := by
    intro n c c'' hc hc''
    have hn : n < t.candidates.length :=
      (List.getElem?_eq_some_iff.1 hc).1.trans_le h.length_le
    have hmid := getElem?_eq_getElem hn
    exact (h.attempts n c _ hc hmid).trans (h'.attempts n _ c'' hmid hc'')
  cancelled := by
    intro hreq
    obtain ⟨hreq', hrun⟩ := h.cancelled hreq
    obtain ⟨hreq'', hrun'⟩ := h'.cancelled hreq'
    exact ⟨hreq'', fun n c hc hp => hrun n c (hrun' n c hc hp) hp⟩
  updatedAt := by
    intro u hu
    obtain ⟨u', hu', hle⟩ := h.updatedAt u hu
    obtain ⟨u'', hu'', hle'⟩ := h'.updatedAt u' hu'
    exact ⟨u'', hu'', hle.trans hle'⟩

theorem set_of_getElem? {α : Type} {l : List α} {x : α} (h : l[n]? = some x) : l.set n x = l := by
  obtain ⟨hn, rfl⟩ := List.getElem?_eq_some_iff.1 h
  exact set_getElem_self hn

theorem Replaced.map_candidates {α : Type} {f : SearchCandidateState → α}
    (h : Replaced s n c c' now t) (hf : f c' = f c) : t.candidates.map f = s.candidates.map f := by
  have hget : (s.candidates.map f)[n]? = some (f c) := by rw [getElem?_map, h.found]; rfl
  rw [h.candidates, map_set, hf, set_of_getElem? hget]

theorem Replaced.getElem?_self (h : Replaced s n c c' now t) : t.candidates[n]? = some c' := by
  have hn : n < s.candidates.length := (List.getElem?_eq_some_iff.1 h.found).1
  rw [h.candidates, getElem?_set_self hn]

theorem Replaced.getElem?_ne (h : Replaced s n c c' now t) {m : ℕ} (hne : n ≠ m) :
    t.candidates[m]? = s.candidates[m]? := by
  rw [h.candidates, getElem?_set_ne hne]

theorem Replaced.candidateIndex (h : Replaced s n c c' now t) :
    c'.candidateIndex = c.candidateIndex := by
  rw [candidateIndex_eq h.found, candidateIndex_eq h.getElem?_self]

theorem Replaced.identities (h : Replaced s n c c' now t) : t.identities = s.identities :=
  h.map_candidates (f := fun c => (c.candidateIndex, c.trialFingerprint))
    (Prod.ext h.candidateIndex h.trial)

theorem Replaced.evolves (h : Replaced s n c c' now t)
    (hopen : c.phase ≠ .succeeded ∧ c.phase ≠ .cancelled)
    (hcount : c.attemptCount ≤ c'.attemptCount)
    (hrunning : s.cancellationRequested = true → c'.phase ≠ .running) : Evolves s t where
  appended := h.identities ▸ prefix_rfl
  closed := by
    intro m x hx hp
    by_cases hm : n = m
    · subst hm
      obtain rfl := Option.some.inj (hx.symm.trans h.found)
      exact absurd hp (not_or.2 hopen)
    · rwa [h.getElem?_ne hm]
  attempts := by
    intro m x x' hx hx'
    by_cases hm : n = m
    · subst hm
      obtain rfl := Option.some.inj (hx.symm.trans h.found)
      obtain rfl := Option.some.inj (hx'.symm.trans h.getElem?_self)
      exact hcount
    · rw [h.getElem?_ne hm, hx] at hx'
      rw [Option.some.inj hx']
  cancelled := by
    intro hreq
    refine ⟨h.requested.trans hreq, fun m x hx hp => ?_⟩
    by_cases hm : n = m
    · subst hm
      obtain rfl := Option.some.inj (hx.symm.trans h.getElem?_self)
      exact absurd hp (hrunning hreq)
    · rwa [h.getElem?_ne hm] at hx
  updatedAt := fun u hu => ⟨now, h.updatedAt, h.notAfter u hu⟩

theorem SearchMove.evolves (h : SearchMove s t call) : Evolves s t := by
  cases h with
  | start hrep hopen hno _ _ hcount =>
    refine hrep.evolves ?_ (by omega) fun hreq => absurd hreq (by simp [hno])
    rcases hopen with hp | hp <;> rw [hp] <;> exact ⟨nofun, nofun⟩
  | terminal hrep hrunning _ hterm _ hphase hcount =>
    refine hrep.evolves ?_ hcount.ge fun _ hp => ?_
    · rw [hrunning]
      exact ⟨nofun, nofun⟩
    · rw [← hphase, hp] at hterm
      cases hterm
  | @cancel _ now hno htime hcands hreq hupd =>
    refine ⟨?_, ?_, ?_, ?_, fun u hu => ⟨now, hupd, htime u hu⟩⟩
    · simp only [SearchExecutionState.identities, hcands]
      exact prefix_rfl
    · intro n c hc _
      rwa [hcands]
    · intro n c c' hc hc'
      rw [hcands, hc] at hc'
      rw [Option.some.inj hc']
    · intro hreq
      exact absurd hreq (by simp [hno])
  | @append _ trials now _ _ hno hall htime hcands _ hupd =>
    have hold : ∀ (n : ℕ) (c : SearchCandidateState), s.candidates[n]? = some c →
        t.candidates[n]? = some c := by
      intro n c hc
      rw [hcands, getElem?_append_left (List.getElem?_eq_some_iff.1 hc).1, hc]
    refine ⟨?_, fun n c hc _ => hold n c hc, ?_, ?_, fun u hu => ⟨now, hupd, htime u hu⟩⟩
    · simp only [SearchExecutionState.identities, hcands, map_append]
      exact prefix_append _ _
    · intro n c c' hc hc'
      rw [hold n c hc] at hc'
      rw [Option.some.inj hc']
    · intro hreq
      exact absurd hreq (by simp [hno])

theorem evolves_step (h : SearchSteps sha256 s a t) : Evolves s t := by
  rcases search_step h with ⟨rfl, -⟩ | ⟨-, hmove⟩
  · exact Evolves.refl _
  · exact hmove.evolves

theorem evolves_run (h : Run (SearchSteps sha256) s as t) : Evolves s t :=
  h.invariant (P := Evolves s) (fun hs hstep => hs.trans (evolves_step hstep)) (Evolves.refl s)

end

def sampleQueue : SearchExecutionState where
  experimentFingerprint := ⟨"e"⟩
  candidates := [.pending 0 ⟨"t"⟩ none]
  cancellationRequested := false
  cancellationRequestId := none
  updatedAt := none
  candidates_ne_nil := nofun
  contiguous := rfl
  unique_trials := nodup_singleton _
  request_iff := by simp

theorem a_notBlank : ∀ id ∈ some "a", notBlank id = true := by decide

/-- The sample search with its candidate running under attempt `a`. -/
def runningQueue : SearchExecutionState :=
  { sampleQueue with
    candidates := [{
      candidateIndex := 0
      trialFingerprint := ⟨"t"⟩
      phase := .running
      attemptId := some "a"
      attemptCount := 1
      resultFingerprint := none
      updatedAt := some 0
      attemptId_notBlank := a_notBlank
      fits := ⟨nofun, le_rfl, rfl⟩ }]
    updatedAt := some 0
    candidates_ne_nil := nofun
    contiguous := rfl
    unique_trials := nodup_singleton _ }

/-- A queue cancelled by request `c`. -/
def SearchExecutionState.cancelledAt (s : SearchExecutionState) (now : Instant) :
    SearchExecutionState :=
  { s with
    cancellationRequested := true
    cancellationRequestId := some ⟨"c"⟩
    updatedAt := some now
    request_iff := by simp }

theorem startAction_reason :
    (none : Option String).isSome = true ↔ SearchStateDecision.apply = .reject := by simp

/-- The start that leads from the one to the other. -/
def startAction : SearchAction :=
  ⟨.start 0 "a" 0, .ok
    { decision := .apply, state := runningQueue, candidateIndex := some 0
      reason_iff := startAction_reason }⟩

theorem run_sample : SearchRun Digest.mk ⟨"e"⟩ [⟨"t"⟩] none [startAction] runningQueue := by
  refine ⟨sampleQueue, rfl, Run.snoc Run.nil ⟨?_, rfl⟩⟩
  decide +kernel

/-- **The queue along its runs**: it evolves between any two of its states, and an answer that is
    not `APPLY` keeps the state it was asked in. -/
theorem search_run (sha256 : String → Digest) (experiment : Digest) (trials : List Digest)
    (created : Option Instant) (as : List SearchAction) (s : SearchExecutionState) :
    SearchRun sha256 experiment trials created as s →
      (∀ bs t, Run (SearchSteps sha256) s bs t → Evolves s t) ∧
      ∀ call res, SearchCall.resolve sha256 s call = .ok res → res.decision ≠ .apply →
        res.state = s := by
  rintro -
  refine ⟨fun bs t hrun => evolves_run hrun, fun call res hres hd => ?_⟩
  rcases resolve_cases hres with ⟨-, hs⟩ | ⟨happly, -⟩
  · exact hs
  · exact absurd happly hd

/-- `search_run` after a start. -/
theorem search_run_sample : ∃ s, SearchRun Digest.mk ⟨"e"⟩ [⟨"t"⟩] none [startAction] s ∧
    ∀ bs t, Run (SearchSteps Digest.mk) s bs t → Evolves s t :=
  ⟨runningQueue, run_sample, (search_run _ _ _ _ _ _ run_sample).1⟩

/-! ## Closing a cancelled queue -/

def SearchAction.IsTerminal (a : SearchAction) : Prop :=
  ∃ index attempt phase now result, a.call = .terminal index attempt phase now result

def Finishes (sha256 : String → Digest) (s : SearchExecutionState) : Prop :=
  ∃ as t, (∀ a ∈ as, SearchAction.IsTerminal a) ∧ Run (SearchSteps sha256) s as t ∧ t.complete

/-- Every open candidate can be taken to a terminal phase. -/
def Closable (sha256 : String → Digest) (s : SearchExecutionState) : Prop :=
  ∀ (n : ℕ) (c : SearchCandidateState), s.candidates[n]? = some c → c.phase.isTerminal = false →
    ∃ as t c', Run (SearchSteps sha256) s as t ∧ t.candidates[n]? = some c' ∧
      c'.phase.isTerminal = true

section
variable {sha256 : String → Digest} {s t : SearchExecutionState} {a : SearchAction}
  {as : List SearchAction} {c c' : SearchCandidateState} {n : ℕ} {call : SearchCall} {now : Instant}

theorem SearchMove.pending_stuck (h : SearchMove s t call) (hreq : s.cancellationRequested = true)
    (hc : s.candidates[n]? = some c) (hp : c.phase = .pending) : t.candidates[n]? = some c := by
  cases h with
  | start _ _ hno => exact absurd hreq (by simp [hno])
  | @terminal m attempt phase now result x x' hrep hrunning =>
    have hne : m ≠ n := by
      rintro rfl
      rw [hrep.found] at hc
      rw [Option.some.inj hc, hp] at hrunning
      cases hrunning
    rwa [hrep.getElem?_ne hne]
  | cancel hno | append _ _ hno => exact absurd hreq (by simp [hno])

theorem pending_stuck_run (h : Run (SearchSteps sha256) s as t)
    (hreq : s.cancellationRequested = true) (hc : s.candidates[n]? = some c)
    (hp : c.phase = .pending) : t.candidates[n]? = some c := by
  refine (h.invariant (P := fun t => t.cancellationRequested = true ∧ t.candidates[n]? = some c)
    ?_ ⟨hreq, hc⟩).2
  rintro s a t ⟨hreq, hc⟩ hstep
  refine ⟨((evolves_step hstep).cancelled hreq).1, ?_⟩
  rcases search_step hstep with ⟨rfl, -⟩ | ⟨-, hmove⟩
  · exact hc
  · exact hmove.pending_stuck hreq hc hp

theorem Replaced.isOk (hfound : s.candidates[n]? = some c) {x : SearchCandidateState}
    (hidx : x.candidateIndex = n) (htrial : x.trialFingerprint = c.trialFingerprint)
    (htime : s.NotAfter now) : ∃ t, s.replaceCandidate x now = .ok t := by
  unfold SearchExecutionState.replaceCandidate
  obtain ⟨c', hc'⟩ := makeSearchCandidateState_of x.candidateIndex x.trialFingerprint (some now)
    x.attemptId_notBlank x.fits
  obtain ⟨hidx', htrial', -⟩ := makeSearchCandidateState_eq_ok hc'
  have hmap : ∀ {α : Type} (f : SearchCandidateState → α), f c' = f c →
      (s.candidates.set n c').map f = s.candidates.map f := by
    intro α f hf
    have hget : (s.candidates.map f)[n]? = some (f c) := by rw [getElem?_map, hfound]; rfl
    rw [map_set, hf, set_of_getElem? hget]
  have hn : c'.candidateIndex = c.candidateIndex := by
    rw [hidx', hidx, candidateIndex_eq hfound]
  have hne : s.candidates.set n c' ≠ [] := by
    rw [ne_eq, ← length_eq_zero_iff, length_set, length_eq_zero_iff]
    exact s.candidates_ne_nil
  have hcont : (s.candidates.set n c').map (·.candidateIndex) =
      List.range (s.candidates.set n c').length := by
    rw [hmap (·.candidateIndex) hn, length_set, s.contiguous]
  have huniq : ((s.candidates.set n c').map (·.trialFingerprint)).Nodup := by
    rw [hmap (·.trialFingerprint) (htrial'.trans htrial)]
    exact s.unique_trials
  obtain ⟨t, ht⟩ := makeSearchExecutionState_of s.experimentFingerprint (some now) hne hcont huniq
    s.request_iff
  rw [ensure_of htime, ok_bind, hc', ok_bind, hidx]
  exact ⟨t, ht⟩

theorem cancel_running (hc : s.candidates[n]? = some c) (hp : c.phase = .running) :
    ∃ a t, SearchAction.IsTerminal a ∧ SearchSteps sha256 s a t ∧ ∃ c' now,
      Replaced s n c c' now t ∧ c'.phase = .cancelled := by
  have hfits := c.fits
  rw [hp] at hfits
  obtain ⟨hattempt, hcount, -⟩ := hfits
  obtain ⟨attempt, hattempt⟩ := Option.ne_none_iff_exists'.1 hattempt
  obtain ⟨now, htime⟩ : ∃ now, s.NotAfter now := by
    refine ⟨s.updatedAt.getD 0, fun u hu => ?_⟩
    rw [Option.mem_def.1 hu, Option.getD_some]
  have hcancelled : SearchCandidatePhase.cancelled.Fits c.attemptId c.attemptCount none :=
    ⟨by simp [hattempt], hcount, rfl⟩
  obtain ⟨x, hx⟩ := makeSearchCandidateState_of c.candidateIndex c.trialFingerprint c.updatedAt
    c.attemptId_notBlank hcancelled
  obtain ⟨hidx, htrial, hphase, -⟩ := makeSearchCandidateState_eq_ok hx
  obtain ⟨t, ht⟩ := Replaced.isOk hc (hidx.trans (candidateIndex_eq hc)) htrial htime
  obtain ⟨c', hrep, hphase', -⟩ := replaced_of hc (hidx.trans (candidateIndex_eq hc)) htrial ht
  have hblank : notBlank attempt = true := c.attemptId_notBlank attempt hattempt
  have hanswer : recordSearchCandidateTerminal s n attempt .cancelled now none =
      .ok { decision := .apply, state := t, candidateIndex := some n } := by
    have hterm : SearchCandidatePhase.cancelled.isTerminal = true := rfl
    have hopen : ¬ c.phase.isTerminal = true := by
      rw [hp]
      exact nofun
    unfold recordSearchCandidateTerminal
    rw [ensure_of hblank, ok_bind, ensure_of hterm, ok_bind, ensure_of nofun, ok_bind,
      ensure_of (fun _ => rfl), ok_bind, candidate_of hc, ok_bind, if_neg hopen,
      if_neg (by simp [hp, hattempt]), if_neg (by simp), hx, ok_bind, ht, ok_bind, pure_eq_ok]
  exact ⟨⟨.terminal n attempt .cancelled now none, _⟩, t, ⟨_, _, _, _, _, rfl⟩, ⟨hanswer, rfl⟩, c',
    now, hrep, hphase'.trans hphase⟩

theorem close_first (hno : ∀ c ∈ s.candidates, c.phase ≠ .pending) (k : ℕ) :
    ∃ as t, (∀ a ∈ as, SearchAction.IsTerminal a) ∧ Run (SearchSteps sha256) s as t ∧
      t.candidates.length = s.candidates.length ∧ (∀ c ∈ t.candidates, c.phase ≠ .pending) ∧
      ∀ (i : ℕ) (c : SearchCandidateState), i < k → t.candidates[i]? = some c →
        c.phase.isTerminal = true := by
  induction k with
  | zero => exact ⟨[], s, by simp, Run.nil, rfl, hno, by simp⟩
  | succ k ih =>
    obtain ⟨as, t, has, hrun, hlen, hno, hclosed⟩ := ih
    by_cases hk : ∃ c, t.candidates[k]? = some c ∧ c.phase = .running
    · obtain ⟨c, hc, hp⟩ := hk
      obtain ⟨a, u, ha, hstep, c', now, hrep, hp'⟩ := cancel_running hc hp
      refine ⟨as ++ [a], u, ?_, hrun.snoc hstep, ?_, ?_, ?_⟩
      · intro b hb
        rcases mem_append.1 hb with hb | hb
        · exact has b hb
        · rwa [mem_singleton.1 hb]
      · rw [hrep.candidates, length_set, hlen]
      · intro x hx
        rw [hrep.candidates] at hx
        rcases mem_or_eq_of_mem_set hx with hx | rfl
        · exact hno x hx
        · rw [hp']
          exact nofun
      · intro i x hi hx
        by_cases hik : k = i
        · subst hik
          rw [Option.some.inj (hx.symm.trans hrep.getElem?_self), hp']
          rfl
        · rw [hrep.getElem?_ne hik] at hx
          exact hclosed i x (by omega) hx
    · refine ⟨as, t, has, hrun, hlen, hno, fun i x hi hx => ?_⟩
      by_cases hik : i = k
      · subst hik
        cases hp : x.phase with
        | pending => exact absurd hp (hno x (mem_of_getElem? hx))
        | running => exact absurd ⟨x, hx, hp⟩ hk
        | succeeded | failed | cancelled => rfl
      · exact hclosed i x (by omega) hx

theorem finishes_of (hno : ∀ c ∈ s.candidates, c.phase ≠ .pending) : Finishes sha256 s := by
  obtain ⟨as, t, has, hrun, hlen, -, hclosed⟩ :=
    close_first hno s.candidates.length
  refine ⟨as, t, has, hrun, fun c hc => ?_⟩
  obtain ⟨i, hi, rfl⟩ := mem_iff_getElem.1 hc
  exact hclosed i _ (hlen ▸ hi) (getElem?_eq_getElem hi)

end

/-- **A cancelled search can finish, and every open candidate can be closed, exactly when no
    candidate waits for its first attempt.** -/
theorem cancelled_finishes_iff (sha256 : String → Digest) (experiment : Digest)
    (trials : List Digest) (created : Option Instant) (as : List SearchAction)
    (s : SearchExecutionState) (_ : SearchRun sha256 experiment trials created as s)
    (hreq : s.cancellationRequested = true) :
    (Finishes sha256 s ∧ Closable sha256 s) ↔ ∀ c ∈ s.candidates, c.phase ≠ .pending := by
  constructor
  · rintro ⟨⟨bs, t, -, hrun, hcomplete⟩, -⟩ c hc hp
    obtain ⟨n, hn, rfl⟩ := mem_iff_getElem.1 hc
    have hstuck := pending_stuck_run hrun hreq (getElem?_eq_getElem hn) hp
    have hterm := hcomplete _ (mem_of_getElem? hstuck)
    rw [hp] at hterm
    cases hterm
  · intro hno
    refine ⟨finishes_of hno, fun n c hc hopen => ?_⟩
    obtain ⟨bs, t, -, hrun, hcomplete⟩ := finishes_of hno
    have hn : n < t.candidates.length :=
      (List.getElem?_eq_some_iff.1 hc).1.trans_le (evolves_run hrun).length_le
    exact ⟨bs, t, _, hrun, getElem?_eq_getElem hn, hcomplete _ (getElem_mem hn)⟩

/-- `cancelled_finishes_iff` where a start preceded the cancellation. -/
theorem cancelled_finishes_running : Finishes Digest.mk (runningQueue.cancelledAt 0) := by
  obtain ⟨s₀, hinit, hrun⟩ := run_sample
  have hcancel : SearchSteps Digest.mk runningQueue
      ⟨.cancel ⟨"c"⟩ 0, .ok { decision := .apply, state := runningQueue.cancelledAt 0 }⟩
      (runningQueue.cancelledAt 0) := ⟨by decide +kernel, rfl⟩
  refine ((cancelled_finishes_iff _ _ _ _ _ _ ⟨s₀, hinit, hrun.snoc hcancel⟩ rfl).2 ?_).1
  decide

/-- **A search that is cancelled before its first start never completes.** -/
theorem cancelled_pending_stuck : ∃ as s, SearchRun Digest.mk ⟨"e"⟩ [⟨"t"⟩] none as s ∧
    s.cancellationRequested = true ∧ ¬ Finishes Digest.mk s ∧ ¬ Closable Digest.mk s := by
  have hcancel : SearchSteps Digest.mk sampleQueue
      ⟨.cancel ⟨"c"⟩ 0, .ok { decision := .apply, state := sampleQueue.cancelledAt 0 }⟩
      (sampleQueue.cancelledAt 0) := ⟨by decide +kernel, rfl⟩
  have hstuck : ∀ as t, Run (SearchSteps Digest.mk) (sampleQueue.cancelledAt 0) as t →
      t.candidates[0]? = some (.pending 0 ⟨"t"⟩ none) :=
    fun as t hrun => pending_stuck_run hrun rfl rfl rfl
  refine ⟨_, _, ⟨sampleQueue, rfl, Run.snoc Run.nil hcancel⟩, rfl, ?_, fun hclose => ?_⟩
  · rintro ⟨as, t, -, hrun, hcomplete⟩
    exact absurd (hcomplete _ (mem_of_getElem? (hstuck as t hrun))) nofun
  · obtain ⟨as, t, c, hrun, hc, hterm⟩ := hclose 0 (.pending 0 ⟨"t"⟩ none) rfl rfl
    rw [hstuck as t hrun] at hc
    rw [← Option.some.inj hc] at hterm
    cases hterm

end ChartingPlatform
