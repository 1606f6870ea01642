/-
  Leases of refresh jobs along runs: the events of a run tell which lease of a job is open and
  which metadata were merged under it (`openLease`).
-/
import ChartingPlatform.Refresh.Queue

namespace ChartingPlatform

open Lib List

/-! ## Open leases -/

def RefreshEvent.job : RefreshEvent → ℕ
  | .claimed job _ | .merged job _ | .settled job _ => job

def RefreshEvent.changesLease (job : ℕ) : RefreshEvent → Bool
  | .claimed j _ | .settled j _ => decide (j = job)
  | .merged _ _ => false

def leaseStep (job : ℕ) (lease : Option (String × Metadata)) :
    RefreshEvent → Option (String × Metadata)
  | .claimed j token => if j = job then some (token, Doc.empty) else lease
  | .merged j metadata => if j = job then lease.map fun l => (l.1, l.2.merge metadata) else lease
  | .settled j _ => if j = job then none else lease

def openLease (es : List RefreshEvent) (job : ℕ) : Option (String × Metadata) :=
  es.foldl (leaseStep job) none

section
variable {env : RefreshEnv} {s s' : QueueState} {es xs ys : List RefreshEvent} {e : RefreshEvent}
  {job id : ℕ} {token t t' key : String} {m : Metadata} {row old r : RefreshJob}
  {p : PendingEnqueue}

@[simp] theorem openLease_snoc : openLease (es ++ [e]) job = leaseStep job (openLease es job) e := by
  rw [openLease, foldl_append]
  rfl

theorem leaseStep_of_ne {lease : Option (String × Metadata)} (h : e.job ≠ job) :
    leaseStep job lease e = lease := by
  cases e with
  | claimed j _ | merged j _ | settled j _ => exact if_neg h

theorem openLease_of_notMem (h : job ∉ es.map RefreshEvent.job) : openLease es job = none := by
  induction es using List.reverseRecOn with
  | nil => rfl
  | append_singleton es e ih =>
    rw [map_append, mem_append, not_or, map_singleton, mem_singleton] at h
    rw [openLease_snoc, leaseStep_of_ne (Ne.symm h.2), ih h.1]

/-- **An open lease began with a claim**, and nothing changed it since. -/
theorem exists_claim_of_openLease (h : openLease es job = some (token, m)) :
    ∃ xs ys, es = xs ++ .claimed job token :: ys ∧ ∀ e ∈ ys, e.changesLease job = false := by
  induction es using List.reverseRecOn generalizing m with
  | nil => cases h
  | append_singleton es e ih =>
    rw [openLease_snoc] at h
    -- an event that leaves the lease open stands after its claim
    have hlater : (∃ m', openLease es job = some (token, m')) → e.changesLease job = false →
        ∃ xs ys, es ++ [e] = xs ++ .claimed job token :: ys ∧
          ∀ e ∈ ys, e.changesLease job = false := by
      rintro ⟨m', h'⟩ he
      obtain ⟨xs, ys, rfl, hys⟩ := ih h'
      refine ⟨xs, ys ++ [e], by simp, fun e' he' => ?_⟩
      rcases mem_append.1 he' with he' | he'
      · exact hys e' he'
      · rwa [mem_singleton.1 he']
    cases e with
    | claimed j token' =>
      by_cases hj : j = job
      · subst hj
        rw [leaseStep, if_pos rfl, Option.some.injEq, Prod.mk.injEq] at h
        obtain ⟨rfl, -⟩ := h
        exact ⟨es, [], rfl, fun e he => absurd he not_mem_nil⟩
      · rw [leaseStep, if_neg hj] at h
        exact hlater ⟨m, h⟩ (decide_eq_false hj)
    | merged j metadata =>
      refine hlater ?_ rfl
      rw [leaseStep] at h
      split_ifs at h
      · obtain ⟨l, hl, heq⟩ := Option.map_eq_some_iff.1 h
        obtain ⟨rfl, -⟩ := Prod.mk.inj heq
        exact ⟨l.2, hl⟩
      · exact ⟨m, h⟩
    | settled j token' =>
      by_cases hj : j = job
      · rw [leaseStep, if_pos hj] at h
        cases h
      · rw [leaseStep, if_neg hj] at h
        exact hlater ⟨m, h⟩ (decide_eq_false hj)

theorem issuedTokens_append : issuedTokens (xs ++ ys) = issuedTokens xs ++ issuedTokens ys :=
  filterMap_append

theorem mem_issuedTokens : token ∈ issuedTokens es ↔ ∃ job, RefreshEvent.claimed job token ∈ es := by
  rw [issuedTokens, mem_filterMap]
  constructor
  · rintro ⟨e, he, h⟩
    cases e with
    | claimed j t =>
      obtain rfl := Option.some.inj h
      exact ⟨j, he⟩
    | merged | settled => cases h
  · rintro ⟨job, h⟩
    exact ⟨_, h, rfl⟩

theorem claim_unique {xs' ys' : List RefreshEvent} (hn : (issuedTokens es).Nodup)
    (h : es = xs ++ .claimed job token :: ys) (h' : es = xs' ++ .claimed job token :: ys') :
    ys = ys' := by
  rw [h, issuedTokens_append, nodup_append] at hn
  have hissued : ∀ {as : List RefreshEvent}, RefreshEvent.claimed job token ∈ as →
      token ∈ issuedTokens as := fun hmem => mem_issuedTokens.2 ⟨job, hmem⟩
  have hxs : RefreshEvent.claimed job token ∉ xs := fun hmem =>
    hn.2.2 token (hissued hmem) token (hissued mem_cons_self) rfl
  have hys : RefreshEvent.claimed job token ∉ ys := fun hmem =>
    (nodup_cons.1 hn.2.1).1 (hissued hmem)
  exact ((append_cons_inj_of_notMem hxs hys).1 (h.symm.trans h')).2.2

theorem openLease_claims (es : List RefreshEvent) (job : ℕ) (ids : List ℕ) (tokenOf : ℕ → String) :
    openLease (es ++ ids.map fun id => .claimed id (tokenOf id)) job =
      if job ∈ ids then some (tokenOf job, Doc.empty) else openLease es job := by
  induction ids using List.reverseRecOn with
  | nil => simp
  | append_singleton ids id ih =>
    rw [map_append, map_singleton, ← append_assoc, openLease_snoc, ih, leaseStep]
    by_cases hid : id = job
    · subst hid
      rw [if_pos rfl, if_pos (mem_append_right _ mem_cons_self)]
    · rw [if_neg hid]
      refine if_congr ?_ rfl rfl
      rw [mem_append, mem_singleton, or_iff_left (Ne.symm hid)]

theorem exists_of_append_eq {new : List RefreshEvent} (he : e ∉ new)
    (h : es ++ new = xs ++ e :: ys) : ∃ ys', es = xs ++ e :: ys' := by
  rcases append_eq_append_iff.1 h with ⟨as, rfl, h'⟩ | ⟨bs, rfl, h'⟩
  · exact absurd (h' ▸ mem_append_right as mem_cons_self) he
  · cases bs with
    | nil =>
      rw [nil_append] at h'
      exact absurd (h' ▸ mem_cons_self) he
    | cons b bs =>
      obtain ⟨rfl, -⟩ := List.cons.inj h'
      exact ⟨bs, rfl⟩

/-! ## The invariant -/

/-- What holds of the table, the enqueues in flight and the events. -/
structure QueueInvariant (s : QueueState) : Prop where
  ids : (s.jobs.map RefreshJob.id).Nodup
  keys : (s.jobs.map RefreshJob.requestKey).Nodup
  locks : (s.pending.map PendingEnqueue.key).Nodup
  known : ∀ e ∈ s.events, e.job ∈ s.jobs.map RefreshJob.id
  tokens : (issuedTokens s.events).Nodup
  lease : ∀ row ∈ s.jobs, ∀ token, row.leaseToken = some token →
    ∃ m, openLease s.events row.id = some (token, m)
  merged : ∀ row ∈ s.jobs, ∀ token m, openLease s.events row.id = some (token, m) →
    m.Sub row.metadataPayload
  found : ∀ p ∈ s.pending, ∀ old, p.found = some old →
    (∃ row ∈ s.jobs, row.id = old.id ∧ row.requestKey = p.key) ∧
      ∀ token m, openLease s.events old.id = some (token, m) → m.Sub old.metadataPayload
  settled : ∀ job token xs ys, s.events = xs ++ .settled job token :: ys →
    ∃ m, openLease xs job = some (token, m)

namespace QueueInvariant

theorem empty : QueueInvariant {} where
  ids := nodup_nil
  keys := nodup_nil
  locks := nodup_nil
  known _ h := absurd h not_mem_nil
  tokens := nodup_nil
  lease _ h := absurd h not_mem_nil
  merged _ h := absurd h not_mem_nil
  found _ h := absurd h not_mem_nil
  settled _ _ xs ys h := by cases xs <;> cases h

theorem row_unique (h : QueueInvariant s) (hr : r ∈ s.jobs) (hrow : row ∈ s.jobs)
    (hid : r.id = row.id) : r = row :=
  inj_on_of_nodup_map h.ids hr hrow hid

theorem read (h : QueueInvariant s) {request : EnqueueRequest} {now : Micros}
    (hlock : request.requestKey ∉ s.pending.map PendingEnqueue.key) :
    QueueInvariant { s with pending := s.pending ++
      [⟨request, now, rowWith RefreshJob.requestKey request.requestKey s.jobs⟩] } where
  ids := h.ids
  keys := h.keys
  locks := by
    have hinsert : insertNew PendingEnqueue.key
        ⟨request, now, rowWith RefreshJob.requestKey request.requestKey s.jobs⟩ s.pending =
          some (s.pending ++ [_]) := insertNew_eq_some.2 ⟨hlock, rfl⟩
    exact nodup_insertNew h.locks hinsert
  known := h.known
  tokens := h.tokens
  lease := h.lease
  merged := h.merged
  found p hp old hold := by
    rcases mem_append.1 hp with hp | hp
    · exact h.found p hp old hold
    · rw [mem_singleton.1 hp] at hold ⊢
      obtain ⟨hmem, hkey⟩ := mem_of_rowWith hold
      exact ⟨⟨old, hmem, rfl, hkey⟩, h.merged old hmem⟩
  settled := h.settled

theorem release (h : QueueInvariant s) (key : String) : QueueInvariant (s.release key) where
  ids := h.ids
  keys := h.keys
  locks := h.locks.sublist (filter_sublist.map _)
  known := h.known
  tokens := h.tokens
  lease := h.lease
  merged := h.merged
  found p hp := h.found p (mem_of_mem_filter hp)
  settled := h.settled

theorem insert (h : QueueInvariant s) {request : EnqueueRequest} {now : Micros}
    (hid : id ∉ s.jobs.map RefreshJob.id) {jobs : List RefreshJob}
    (hinsert : insertNew RefreshJob.requestKey (request.newJob now id) s.jobs = some jobs) :
    QueueInvariant { s with jobs := jobs } := by
  have hkeys := nodup_insertNew h.keys hinsert
  obtain ⟨-, rfl⟩ := insertNew_eq_some.1 hinsert
  have hclosed : openLease s.events id = none :=
    openLease_of_notMem fun hmem => by
      obtain ⟨e, he, rfl⟩ := mem_map.1 hmem
      exact hid (h.known e he)
  exact {
    ids := nodup_insertNew h.ids (insertNew_eq_some.2 ⟨hid, rfl⟩)
    keys := hkeys
    locks := h.locks
    known := fun e he => by
      rw [map_append]
      exact mem_append_left _ (h.known e he)
    tokens := h.tokens
    lease := fun row hrow token htoken => by
      rcases mem_append.1 hrow with hrow | hrow
      · exact h.lease row hrow token htoken
      · rw [mem_singleton.1 hrow] at htoken
        cases htoken
    merged := fun row hrow token m hopen => by
      rcases mem_append.1 hrow with hrow | hrow
      · exact h.merged row hrow token m hopen
      · rw [mem_singleton.1 hrow] at hopen
        exact nomatch hclosed.symm.trans hopen
    found := fun p hp old hold => by
      obtain ⟨⟨row, hrow, hrest⟩, hsub⟩ := h.found p hp old hold
      exact ⟨⟨row, mem_append_left _ hrow, hrest⟩, hsub⟩
    settled := h.settled }

theorem map (h : QueueInvariant s) (handles : List RefreshJob) {f : RefreshJob → RefreshJob}
    {new : List RefreshEvent} (hid : ∀ row, (f row).id = row.id)
    (hkey : ∀ row, (f row).requestKey = row.requestKey)
    (hknown : ∀ e ∈ new, e.job ∈ s.jobs.map RefreshJob.id)
    (htokens : (issuedTokens (s.events ++ new)).Nodup)
    (hlease : ∀ row ∈ s.jobs, ∀ token, (f row).leaseToken = some token →
      ∃ m, openLease (s.events ++ new) row.id = some (token, m))
    (hmerged : ∀ row ∈ s.jobs, ∀ token m, openLease (s.events ++ new) row.id = some (token, m) →
      m.Sub (f row).metadataPayload)
    (hfound : ∀ p ∈ s.pending, ∀ old, p.found = some old →
      ∀ token m, openLease (s.events ++ new) old.id = some (token, m) → m.Sub old.metadataPayload)
    (hsettled : ∀ job token xs ys, s.events ++ new = xs ++ .settled job token :: ys →
      ∃ m, openLease xs job = some (token, m)) :
    QueueInvariant
      { s with jobs := s.jobs.map f, handles := handles, events := s.events ++ new } := by
  have hids : (s.jobs.map f).map RefreshJob.id = s.jobs.map RefreshJob.id := by
    rw [map_map]
    exact map_congr_left fun row _ => hid row
  have hkeys : (s.jobs.map f).map RefreshJob.requestKey = s.jobs.map RefreshJob.requestKey := by
    rw [map_map]
    exact map_congr_left fun row _ => hkey row
  exact {
    ids := hids.symm ▸ h.ids
    keys := hkeys.symm ▸ h.keys
    locks := h.locks
    known := fun e he => by
      rw [hids]
      rcases mem_append.1 he with he | he
      · exact h.known e he
      · exact hknown e he
    tokens := htokens
    lease := fun row hrow token htoken => by
      obtain ⟨row, hmem, rfl⟩ := mem_map.1 hrow
      rw [hid]
      exact hlease row hmem token htoken
    merged := fun row hrow token m hopen => by
      obtain ⟨row, hmem, rfl⟩ := mem_map.1 hrow
      rw [hid] at hopen
      exact hmerged row hmem token m hopen
    found := fun p hp old hold => by
      obtain ⟨⟨row, hrow, hrid, hrkey⟩, -⟩ := h.found p hp old hold
      exact ⟨⟨f row, mem_map_of_mem hrow, (hid row).trans hrid, (hkey row).trans hrkey⟩,
        hfound p hp old hold⟩
    settled := hsettled }

theorem settled_append (h : QueueInvariant s) {new : List RefreshEvent}
    (hnew : ∀ job token, RefreshEvent.settled job token ∉ new) (job : ℕ) (token : String)
    (xs ys : List RefreshEvent) (heq : s.events ++ new = xs ++ .settled job token :: ys) :
    ∃ m, openLease xs job = some (token, m) := by
  obtain ⟨ys', hys⟩ := exists_of_append_eq (hnew job token) heq
  exact h.settled job token xs ys' hys

theorem coalesce (h : QueueInvariant s) (hlock : p.key ∉ s.pending.map PendingEnqueue.key)
    (hrow : ∃ row ∈ s.jobs, row.id = old.id ∧ row.requestKey = p.key)
    (hread : ∀ token m, openLease s.events old.id = some (token, m) → m.Sub old.metadataPayload) :
    QueueInvariant
      { s with
        jobs := updateRow RefreshJob.id old.id (old.flush (p.request.coalesce p.current old)) s.jobs
        events := if (p.request.coalesce p.current old).metadataPayload = old.metadataPayload
          then s.events else s.events ++ [.merged old.id p.request.metadataPayload] } := by
  set changed := p.request.coalesce p.current old with hchanged
  set f := fun row : RefreshJob => if row.id = old.id then old.flush changed row else row with hf
  have hfields : ∀ row, (f row).id = row.id ∧ (f row).requestKey = row.requestKey ∧
      (f row).leaseToken = row.leaseToken := fun row => by
    rw [hf]
    dsimp only
    split_ifs
    · exact ⟨rfl, rfl, rfl⟩
    · exact ⟨rfl, rfl, rfl⟩
  have hid := fun row => (hfields row).1
  have hkey := fun row => (hfields row).2.1
  have htoken := fun row => (hfields row).2.2
  -- an enqueue in flight holds another lock, so it read another job
  have hother : ∀ q ∈ s.pending, ∀ o, q.found = some o → o.id ≠ old.id := by
    intro q hq o ho heq
    obtain ⟨row, hmem, hrid, hrkey⟩ := hrow
    obtain ⟨⟨row', hmem', hrid', hrkey'⟩, -⟩ := h.found q hq o ho
    obtain rfl := h.row_unique hmem' hmem (hrid'.trans (heq.trans hrid.symm))
    exact hlock (mem_map.2 ⟨q, hq, hrkey'.symm.trans hrkey⟩)
  by_cases hsame : changed.metadataPayload = old.metadataPayload
  · have hmeta : ∀ row, (f row).metadataPayload = row.metadataPayload := fun row => by
      rw [hf]
      dsimp only
      split_ifs
      · rw [RefreshJob.flush]
        exact if_pos hsame
      · rfl
    rw [if_pos hsame]
    have hmap := h.map s.handles hid hkey
      (fun e (he : e ∈ ([] : List RefreshEvent)) => absurd he not_mem_nil) (by rw [append_nil]; exact h.tokens)
    rw [append_nil] at hmap
    exact hmap (fun row hmem token ht => h.lease row hmem token (htoken row ▸ ht))
      (fun row hmem token m hopen => hmeta row ▸ h.merged row hmem token m hopen)
      (fun q hq o ho => (h.found q hq o ho).2) h.settled
  · rw [if_neg hsame]
    refine h.map _ hid hkey (fun e he => ?_) ?_ (fun row hmem token ht => ?_)
      (fun row hmem token m hopen => ?_) (fun q hq o ho token m hopen => ?_)
      (h.settled_append fun job token => by simp)
    · obtain ⟨row, hmem, hrid, -⟩ := hrow
      rw [mem_singleton.1 he]
      exact mem_map.2 ⟨row, hmem, hrid⟩
    · rw [issuedTokens_append]
      simpa [issuedTokens] using h.tokens
    · obtain ⟨m, hm⟩ := h.lease row hmem token (htoken row ▸ ht)
      rw [openLease_snoc, leaseStep, hm]
      split_ifs
      · exact ⟨_, rfl⟩
      · exact ⟨_, rfl⟩
    · rw [openLease_snoc, leaseStep] at hopen
      by_cases hrid : old.id = row.id
      · rw [if_pos hrid, ← hrid] at hopen
        obtain ⟨⟨token', m'⟩, hm', heq⟩ := Option.map_eq_some_iff.1 hopen
        obtain ⟨-, rfl⟩ := Prod.mk.inj heq
        have hmeta : (f row).metadataPayload =
            old.metadataPayload.merge p.request.metadataPayload := by
          rw [hf]
          dsimp only
          rw [if_pos hrid.symm, RefreshJob.flush]
          exact if_neg hsame
        rw [hmeta]
        exact (hread token' m' hm').merge _
      · rw [if_neg hrid] at hopen
        rw [if_neg (Ne.symm hrid)]
        exact h.merged row hmem token m hopen
    · rw [openLease_snoc, leaseStep, if_neg (Ne.symm (hother q hq o ho))] at hopen
      exact (h.found q hq o ho).2 token m hopen

theorem mem_of_dueJobs {limit : ℕ} {now : Micros} {locked : List ℕ}
    (hr : r ∈ dueJobs s.jobs limit now locked) : r ∈ s.jobs :=
  mem_of_mem_filter ((mem_sortBy _).1 (mem_of_mem_take hr))

theorem claim (h : QueueInvariant s) {limit : ℕ} {leaseSeconds : ℤ} {now : Micros}
    {locked : List ℕ} {tokenOf : ℕ → String}
    (hnodup : ((dueJobs s.jobs limit now locked).map fun job => tokenOf job.id).Nodup)
    (hfresh : ∀ job ∈ dueJobs s.jobs limit now locked, tokenOf job.id ∉ issuedTokens s.events) :
    QueueInvariant
      { s with
        jobs := s.jobs.map fun job => if job ∈ dueJobs s.jobs limit now locked
          then job.claim now leaseSeconds (tokenOf job.id) else job
        handles := s.handles ++ (dueJobs s.jobs limit now locked).map fun job =>
          job.claim now leaseSeconds (tokenOf job.id)
        events := s.events ++ (dueJobs s.jobs limit now locked).map fun job =>
          .claimed job.id (tokenOf job.id) } := by
  set due := dueJobs s.jobs limit now locked with hdue
  have hopen : ∀ job, openLease (s.events ++ due.map fun job => .claimed job.id (tokenOf job.id))
      job = if job ∈ due.map RefreshJob.id then some (tokenOf job, Doc.empty)
        else openLease s.events job := fun job => by
    have hclaims := openLease_claims s.events job (due.map RefreshJob.id) tokenOf
    rwa [map_map] at hclaims
  have hids : ∀ row ∈ s.jobs, row.id ∈ due.map RefreshJob.id ↔ row ∈ due := by
    intro row hrow
    refine ⟨fun hmem => ?_, mem_map_of_mem⟩
    obtain ⟨r, hr, hrid⟩ := mem_map.1 hmem
    exact h.row_unique (mem_of_dueJobs hr) hrow hrid ▸ hr
  have hissued : issuedTokens (due.map fun job => .claimed job.id (tokenOf job.id)) =
      due.map fun job => tokenOf job.id := by
    rw [issuedTokens, filterMap_map, ← filterMap_eq_map]
    rfl
  refine h.map _ (fun row => ?_) (fun row => ?_) (fun e he => ?_) ?_ (fun row hmem token ht => ?_)
    (fun row hmem token m hlease => ?_) (fun q hq o ho token m hlease => ?_)
    (h.settled_append fun job token => by simp)
  · split_ifs
    · rfl
    · rfl
  · split_ifs
    · rfl
    · rfl
  · obtain ⟨job, hjob, rfl⟩ := mem_map.1 he
    exact mem_map_of_mem (mem_of_dueJobs hjob)
  · rw [issuedTokens_append, hissued, nodup_append]
    refine ⟨h.tokens, hnodup, fun t ht t' ht' heq => ?_⟩
    obtain ⟨job, hjob, rfl⟩ := mem_map.1 ht'
    exact hfresh job hjob (heq ▸ ht)
  · rw [hopen]
    by_cases hclaimed : row ∈ due
    · rw [if_pos hclaimed] at ht
      rw [if_pos ((hids row hmem).2 hclaimed)]
      exact ⟨_, congrArg some (Prod.ext (Option.some.inj ht) rfl)⟩
    · rw [if_neg hclaimed] at ht
      rw [if_neg fun hc => hclaimed ((hids row hmem).1 hc)]
      exact h.lease row hmem token ht
  · rw [hopen] at hlease
    by_cases hclaimed : row ∈ due
    · rw [if_pos ((hids row hmem).2 hclaimed), Option.some.injEq, Prod.mk.injEq] at hlease
      rw [← hlease.2]
      exact Doc.empty_sub
    · rw [if_neg fun hc => hclaimed ((hids row hmem).1 hc)] at hlease
      rw [if_neg hclaimed]
      exact h.merged row hmem token m hlease
  · rw [hopen] at hlease
    split_ifs at hlease
    · rw [Option.some.injEq, Prod.mk.injEq] at hlease
      rw [← hlease.2]
      exact Doc.empty_sub
    · exact (h.found q hq o ho).2 token m hlease

end QueueInvariant

/-! ## Settlements -/

theorem settleLease_eq_ok {jobs jobs' : List RefreshJob} {handle handle' : RefreshJob}
    {current : Micros} {leaseToken : Option String} {write : RefreshJob → RefreshJob}
    (h : settleLease jobs handle current leaseToken write = .ok (jobs', handle')) :
    ∃ token, handle.token leaseToken = some token ∧
      (∃ row ∈ jobs, row.heldUnder handle.id token current = true) ∧
      jobs' = jobs.map (fun row => if row.heldUnder handle.id token current then write row else row) ∧
      handle' = write handle := by
  rw [settleLease] at h
  cases htoken : handle.token leaseToken with
  | none =>
    rw [htoken] at h
    cases h
  | some token =>
    simp only [htoken] at h
    split_ifs at h with hcount
    obtain ⟨rfl, rfl⟩ := Prod.mk.inj (Except.ok.inj h)
    rw [not_not] at hcount
    obtain ⟨row, hrow⟩ := exists_mem_of_length_pos (by rw [hcount]; exact Nat.one_pos)
    exact ⟨token, rfl, ⟨row, mem_of_mem_filter hrow, of_mem_filter hrow⟩, rfl, rfl⟩

theorem heldUnder_iff {current : Micros} : row.heldUnder id token current = true ↔
    row.id = id ∧ row.status = .leased ∧ row.leaseToken = some token ∧
      ∀ u ∈ row.leasedUntil, current ≤ u := by
  simp only [RefreshJob.heldUnder, Bool.and_eq_true, decide_eq_true_eq, Option.all_eq_true]
  constructor
  · rintro ⟨⟨⟨hid, hstatus⟩, htoken⟩, huntil⟩
    exact ⟨hid, hstatus, htoken, huntil⟩
  · rintro ⟨hid, hstatus, htoken, huntil⟩
    exact ⟨⟨⟨hid, hstatus⟩, htoken⟩, huntil⟩

theorem QueueInvariant.settle (h : QueueInvariant s) {handle handle' : RefreshJob}
    {current : Micros} {leaseToken : Option String} {write : RefreshJob → RefreshJob}
    {jobs' : List RefreshJob} (hid : ∀ row, (write row).id = row.id)
    (hkey : ∀ row, (write row).requestKey = row.requestKey)
    (hclosed : ∀ row, (write row).leaseToken = none)
    (hsettled : settleLease s.jobs handle current leaseToken write = .ok (jobs', handle')) :
    QueueInvariant (s.settle handle leaseToken (jobs', handle')) := by
  obtain ⟨token, htoken, ⟨held, hmem, hheld⟩, rfl, rfl⟩ := settleLease_eq_ok hsettled
  obtain ⟨hheldId, -, hheldToken, -⟩ := heldUnder_iff.1 hheld
  obtain ⟨m, hopen⟩ := h.lease held hmem token hheldToken
  rw [hheldId] at hopen
  have hevents : ((handle.token leaseToken).map (RefreshEvent.settled handle.id)).toList =
      [.settled handle.id token] := by
    rw [htoken]
    rfl
  rw [QueueState.settle, hevents]
  -- the row of the job is the one under the lease
  have hrows : ∀ row ∈ s.jobs, row.heldUnder handle.id token current = true ↔ row.id = handle.id := by
    intro row hrow
    refine ⟨fun hr => (heldUnder_iff.1 hr).1, fun hr => ?_⟩
    exact h.row_unique hmem hrow (hheldId.trans hr.symm) ▸ hheld
  refine h.map _ (fun row => ?_) (fun row => ?_) (fun e he => ?_) ?_ (fun row hrow t ht => ?_)
    (fun row hrow t n hlease => ?_) (fun q hq o ho t n hlease => ?_)
    (fun job t xs ys heq => ?_)
  · split_ifs
    · exact hid row
    · rfl
  · split_ifs
    · exact hkey row
    · rfl
  · rw [mem_singleton.1 he]
    exact mem_map.2 ⟨held, hmem, hheldId⟩
  · rw [issuedTokens_append]
    simpa [issuedTokens] using h.tokens
  · split_ifs at ht with hr
    · rw [hclosed] at ht
      cases ht
    · rw [openLease_snoc, leaseStep_of_ne fun heq => hr ((hrows row hrow).2 heq.symm)]
      exact h.lease row hrow t ht
  · by_cases hr : row.id = handle.id
    · rw [openLease_snoc, leaseStep, if_pos hr.symm] at hlease
      cases hlease
    · rw [openLease_snoc, leaseStep_of_ne fun heq => hr heq.symm] at hlease
      rw [if_neg fun hh => hr ((hrows row hrow).1 hh)]
      exact h.merged row hrow t n hlease
  · by_cases hr : o.id = handle.id
    · rw [openLease_snoc, leaseStep, if_pos hr.symm] at hlease
      cases hlease
    · rw [openLease_snoc, leaseStep_of_ne fun heq => hr heq.symm] at hlease
      exact (h.found q hq o ho).2 t n hlease
  · cases ys using List.reverseRecOn with
    | nil =>
      obtain ⟨rfl, hlast⟩ := append_inj' heq rfl
      obtain ⟨rfl, rfl⟩ := RefreshEvent.settled.inj (List.cons.inj hlast).1
      exact ⟨m, hopen⟩
    | append_singleton ys e _ =>
      rw [← cons_append, ← append_assoc] at heq
      exact h.settled job t xs ys (append_inj' heq rfl).1

theorem QueueInvariant.step {c : RefreshCall} (h : QueueInvariant s) (hs : QueueStep env s c s') :
    QueueInvariant s' := by
  obtain ⟨hallowed, hcall | ⟨-, rfl⟩⟩ := hs
  · cases c with
    | read request now =>
      obtain rfl := Except.ok.inj hcall
      exact h.read hallowed
    | flush key id =>
      rw [QueueState.call] at hcall
      cases hp : rowWith PendingEnqueue.key key s.pending with
      | none =>
        simp only [hp] at hcall
        obtain rfl := Except.ok.inj hcall
        exact h
      | some p =>
        simp only [hp] at hcall
        obtain rfl := Except.ok.inj hcall
        obtain ⟨hmem, rfl⟩ := mem_of_rowWith hp
        have hrelease := h.release p.key
        cases hfound : p.found with
        | none =>
          rw [QueueState.flushed, hfound]
          dsimp only
          cases hinsert : insertNew RefreshJob.requestKey (p.request.newJob p.current id) s.jobs with
          | none => exact hrelease
          | some jobs => exact hrelease.insert hallowed hinsert
        | some old =>
          obtain ⟨hrow, hread⟩ := h.found p hmem old hfound
          have hlock : p.key ∉ (s.release p.key).pending.map PendingEnqueue.key := by
            intro hlocked
            obtain ⟨q, hq, hkey⟩ := mem_map.1 hlocked
            exact absurd hkey (by simpa using of_mem_filter hq)
          rw [QueueState.flushed, hfound]
          exact hrelease.coalesce hlock hrow hread
    | rollback key =>
      obtain rfl := Except.ok.inj hcall
      exact h.release key
    | claim limit leaseSeconds now locked tokenOf =>
      obtain rfl := Except.ok.inj hcall
      exact h.claim hallowed.1 hallowed.2
    | complete job now leaseToken summary =>
      obtain ⟨⟨jobs', job'⟩, hsettled, rfl⟩ := map_eq_ok.1 hcall
      rw [completeRefreshJob] at hsettled
      refine h.settle ?_ ?_ ?_ hsettled
      all_goals exact fun _ => rfl
    | retry job now leaseToken args =>
      obtain ⟨⟨jobs', job'⟩, hsettled, rfl⟩ := map_eq_ok.1 hcall
      rw [retryRefreshJob] at hsettled
      refine h.settle ?_ ?_ ?_ hsettled
      all_goals exact fun _ => rfl
  · exact h

theorem queueInvariant_run {cs : List RefreshCall} (h : Run (QueueStep env) {} cs s) :
    QueueInvariant s :=
  h.invariant (fun hinv hstep => hinv.step hstep) QueueInvariant.empty

/-! ## What a settlement needs and keeps -/

def RefreshCall.handle : RefreshCall → Option RefreshJob
  | .complete job _ _ _ | .retry job _ _ _ => some job
  | _ => none

/-- Another claim of the job followed the one that returned the object. -/
def RefreshJob.TakenOver (s : QueueState) (handle : RefreshJob) : Prop :=
  ∃ token token' xs ys, handle.leaseToken = some token ∧
    s.events = xs ++ .claimed handle.id token :: ys ∧ RefreshEvent.claimed handle.id token' ∈ ys

/-- What was merged under the lease is in the worker's job object, or is what the
    retry sets itself.  A completion leaves the metadata alone. -/
def RefreshCall.Covers (env : RefreshEnv) (m : Metadata) : RefreshCall → Prop
  | .retry job _ _ args => ∀ k v, m.get k = some v → (args.ownMetadata env).get k = some v ∨
      (args.ownMetadata env).get k = none ∧ job.metadataPayload.get k = some v
  | _ => True

theorem leaseToken_of_token {handle : RefreshJob} {leaseToken : Option String}
    (hown : leaseToken = none ∨ leaseToken = handle.leaseToken)
    (h : handle.token leaseToken = some token) : handle.leaseToken = some token := by
  have hor := Option.eq_some_of_filter_eq_some h
  rcases hown with rfl | rfl
  · exact hor
  · cases ht : handle.leaseToken with
    | none =>
      rw [ht] at hor
      exact hor
    | some t =>
      rw [ht] at hor
      by_cases hblank : t = ""
      · subst hblank
        exact hor
      · simpa [Option.filter, hblank] using hor

theorem settlement_of_call {c : RefreshCall} {handle : RefreshJob} (hinv : QueueInvariant s)
    (hallowed : c.Allowed s) (hhandle : c.handle = some handle) (hcall : s.call env c = .ok s') :
    ∃ (token : String) (m : Metadata) (write : RefreshJob → RefreshJob) (held : RefreshJob),
      handle.leaseToken = some token ∧
      openLease s.events handle.id = some (token, m) ∧ held ∈ s.jobs ∧ held.id = handle.id ∧
      m.Sub held.metadataPayload ∧
      (∀ row ∈ s'.jobs, row.id = handle.id → row = write held) ∧ write held ∈ s'.jobs ∧
      (write held).id = handle.id ∧
      ((write held).metadataPayload = held.metadataPayload ∧ (∀ n, c.Covers env n) ∨
        ∃ job now leaseToken args, c = .retry job now leaseToken args ∧
          (write held).metadataPayload = job.metadataPayload.merge (args.ownMetadata env)) := by
  -- both settlements are one `UPDATE` with the assignments `write`
  obtain ⟨current, leaseToken, write, jobs', handle', hused, hsettled, rfl, hid, hwrite⟩ :
      ∃ (current : Micros) (leaseToken : Option String) (write : RefreshJob → RefreshJob)
        (jobs' : List RefreshJob) (handle' : RefreshJob), handle.UsedBy s leaseToken ∧
        settleLease s.jobs handle current leaseToken write = .ok (jobs', handle') ∧
        s' = s.settle handle leaseToken (jobs', handle') ∧
        (∀ row, (write row).id = row.id) ∧
        ((∀ row, (write row).metadataPayload = row.metadataPayload) ∧ (∀ n, c.Covers env n) ∨
          ∃ job now leaseToken args, c = .retry job now leaseToken args ∧
            ∀ row, (write row).metadataPayload =
              job.metadataPayload.merge (args.ownMetadata env)) := by
    cases c with
    | complete job now leaseToken summary =>
      obtain rfl := Option.some.inj hhandle
      obtain ⟨⟨jobs', job'⟩, hsettled, rfl⟩ := map_eq_ok.1 hcall
      exact ⟨_, _, _, _, _, hallowed, hsettled, rfl, fun _ => rfl,
        .inl ⟨fun _ => rfl, fun _ => trivial⟩⟩
    | retry job now leaseToken args =>
      obtain rfl := Option.some.inj hhandle
      obtain ⟨⟨jobs', job'⟩, hsettled, rfl⟩ := map_eq_ok.1 hcall
      exact ⟨_, _, _, _, _, hallowed, hsettled, rfl, fun _ => rfl,
        .inr ⟨_, _, _, _, rfl, fun _ => rfl⟩⟩
    | _ => cases hhandle
  obtain ⟨token, htoken, ⟨held, hmem, hheld⟩, rfl, rfl⟩ := settleLease_eq_ok hsettled
  obtain ⟨hheldId, -, hheldToken, -⟩ := heldUnder_iff.1 hheld
  obtain ⟨m, hopen⟩ := hinv.lease held hmem token hheldToken
  refine ⟨token, m, write, held, leaseToken_of_token hused.2 htoken, hheldId ▸ hopen, hmem, hheldId,
    hinv.merged held hmem token m hopen, fun row hrow hrid => ?_, ?_, (hid held).trans hheldId, ?_⟩
  · obtain ⟨r, hr, rfl⟩ := mem_map.1 hrow
    have hrr : r.id = handle.id := by
      split_ifs at hrid
      · exact (hid r).symm.trans hrid
      · exact hrid
    obtain rfl := hinv.row_unique hr hmem (hrr.trans hheldId.symm)
    exact if_pos hheld
  · exact mem_map.2 ⟨held, hmem, if_pos hheld⟩
  · rcases hwrite with ⟨hsame, hcovers⟩ | ⟨job, now, leaseToken, args, rfl, hretry⟩
    · exact .inl ⟨hsame held, hcovers⟩
    · exact .inr ⟨job, now, leaseToken, args, rfl, hretry held⟩

/-- **A settlement carries the token of the latest claim**, and between two
    claims of a job there is at most one. -/
theorem settled_once {cs : List RefreshCall} (h : Run (QueueStep env) {} cs s)
    (heq : s.events = xs ++ .settled job token :: ys) :
    ∃ as bs, xs = as ++ .claimed job token :: bs ∧ ∀ e ∈ bs, e.changesLease job = false := by
  obtain ⟨m, hm⟩ := (queueInvariant_run h).settled job token xs ys heq
  exact exists_claim_of_openLease hm

/-- **A worker whose lease was taken over changes nothing.** -/
theorem takenOver_fails {cs : List RefreshCall} {c : RefreshCall} {handle : RefreshJob}
    (h : Run (QueueStep env) {} cs s) (htaken : handle.TakenOver s)
    (hhandle : c.handle = some handle) (hallowed : c.Allowed s) :
    ∃ e, s.call env c = .error e := by
  have hinv := queueInvariant_run h
  cases hcall : s.call env c with
  | error e => exact ⟨e, rfl⟩
  | ok s' =>
    obtain ⟨token, m, -, -, htoken, hopen, -⟩ := settlement_of_call hinv hallowed hhandle hcall
    obtain ⟨token', token'', xs, ys, htoken', hevents, hlater⟩ := htaken
    obtain rfl := Option.some.inj (htoken.symm.trans htoken')
    obtain ⟨as, bs, hsplit, hquiet⟩ := exists_claim_of_openLease hopen
    obtain rfl := claim_unique hinv.tokens hevents hsplit
    exact absurd (hquiet _ hlater) (by simp [RefreshEvent.changesLease])

/-- **What was merged under the lease survives the settlement** exactly if the
    settlement covers it. -/
theorem merged_kept_iff {cs : List RefreshCall} {c : RefreshCall} {handle : RefreshJob}
    (h : Run (QueueStep env) {} cs s) (hhandle : c.handle = some handle) (hallowed : c.Allowed s)
    (hcall : s.call env c = .ok s') :
    ∃ token m, openLease s.events handle.id = some (token, m) ∧
      ((∀ row ∈ s'.jobs, row.id = handle.id → m.Sub row.metadataPayload) ↔ c.Covers env m) := by
  obtain ⟨token, m, write, held, -, hopen, -, -, hsub, hrow, hmem, hid, hcase⟩ :=
    settlement_of_call (queueInvariant_run h) hallowed hhandle hcall
  have hiff : (∀ row ∈ s'.jobs, row.id = handle.id → m.Sub row.metadataPayload) ↔
      m.Sub (write held).metadataPayload :=
    ⟨fun hall => hall _ hmem hid, fun hone row hr hrid => hrow row hr hrid ▸ hone⟩
  refine ⟨token, m, hopen, hiff.trans ?_⟩
  rcases hcase with ⟨hsame, hcovers⟩ | ⟨job, now, leaseToken, args, rfl, hretry⟩
  · rw [hsame]
    exact iff_of_true hsub (hcovers m)
  · rw [hretry]
    refine forall₂_congr fun k v => imp_congr_right fun _ => ?_
    rw [Doc.get_merge, Option.or_eq_some_iff]

/-- **Leases of refresh jobs.**  In every run a settlement carries the token of
    the latest claim, and nothing settled the job since that claim; nothing can be
    changed through a job object whose lease was taken over; and a settlement
    keeps what was merged under its lease exactly if it covers it. -/
theorem refresh_leases {cs : List RefreshCall} (h : Run (QueueStep env) {} cs s) :
    (∀ job token xs ys, s.events = xs ++ .settled job token :: ys →
      ∃ as bs, xs = as ++ .claimed job token :: bs ∧ ∀ e ∈ bs, e.changesLease job = false) ∧
    (∀ c handle s', c.handle = some handle → handle.TakenOver s → QueueStep env s c s' →
      (∃ e, s.call env c = .error e) ∧ s' = s) ∧
    (∀ c handle s', c.handle = some handle → c.Allowed s → s.call env c = .ok s' →
      ∃ token m, openLease s.events handle.id = some (token, m) ∧
        ((∀ row ∈ s'.jobs, row.id = handle.id → m.Sub row.metadataPayload) ↔
          c.Covers env m)) := by
  refine ⟨fun _ _ _ _ heq => settled_once h heq, fun c handle s' hhandle htaken hstep => ?_,
    fun c handle s' hhandle hallowed hcall => merged_kept_iff h hhandle hallowed hcall⟩
  obtain ⟨hallowed, hcase⟩ := hstep
  obtain ⟨e, he⟩ := takenOver_fails h htaken hhandle hallowed
  refine ⟨⟨e, he⟩, ?_⟩
  rcases hcase with hok | ⟨-, hsame⟩
  · rw [he] at hok
    cases hok
  · exact hsame

end

/-! ## A demand that is merged under a lease -/

instance (s : QueueState) (c : RefreshCall) : Decidable (c.Allowed s) :=
  match c with
  | .read _ _ | .flush _ _ => inferInstanceAs (Decidable (_ ∉ _))
  | .rollback _ => inferInstanceAs (Decidable True)
  | .claim _ _ _ _ _ => inferInstanceAs (Decidable (_ ∧ _))
  | .complete _ _ _ _ | .retry _ _ _ _ => inferInstanceAs (Decidable (_ ∧ (_ ∨ _)))

def sampleRefreshEnv : RefreshEnv := ⟨id, fun t => toString t⟩

def QueueState.after (s : QueueState) (c : RefreshCall) : QueueState :=
  match s.call sampleRefreshEnv c with
  | .ok s' => s'
  | .error _ => s

theorem run_after {s : QueueState} {cs : List RefreshCall} {c : RefreshCall}
    (h : Run (QueueStep sampleRefreshEnv) {} cs s) (hallowed : c.Allowed s) :
    Run (QueueStep sampleRefreshEnv) {} (cs ++ [c]) (s.after c) := by
  refine h.snoc ⟨hallowed, ?_⟩
  rw [QueueState.after]
  cases hcall : s.call sampleRefreshEnv c with
  | ok s' => exact .inl rfl
  | error e => exact .inr ⟨⟨e, rfl⟩, rfl⟩

def highAlert : Metadata := Doc.empty.set "demand" (.text "high_alert")

def demandRequest (metadata : Metadata) : EnqueueRequest where
  requestKey := "d1:1"
  capability := "price_history"
  metadataPayload := metadata

def claimedJob : RefreshJob := ((demandRequest Doc.empty).newJob 0 1).claim 1 300 "a"

def claimedQueue : QueueState :=
  (((QueueState.after {} (.read (demandRequest Doc.empty) 0)).after (.flush "d1:1" 1)).after
    (.claim 10 300 1 [] fun _ => "a"))

def mergedQueue : QueueState :=
  (claimedQueue.after (.read (demandRequest highAlert) 2)).after (.flush "d1:1" 2)

theorem run_mergedQueue : ∃ cs, Run (QueueStep sampleRefreshEnv) {} cs mergedQueue :=
  ⟨_, run_after (run_after (run_after (run_after (run_after .nil (by decide +kernel))
    (by decide +kernel)) (by decide +kernel)) (by decide +kernel)) (by decide +kernel)⟩

/-- A completion keeps the demand. -/
theorem refresh_leases_completed :
    ∃ s', mergedQueue.call sampleRefreshEnv (.complete claimedJob 3 none Doc.empty) = .ok s' ∧
      ∃ token m, openLease mergedQueue.events 1 = some (token, m) ∧
        ∀ row ∈ s'.jobs, row.id = 1 → m.Sub row.metadataPayload := by
  obtain ⟨cs, hrun⟩ := run_mergedQueue
  have hallowed : (RefreshCall.complete claimedJob 3 none Doc.empty).Allowed mergedQueue := by
    decide +kernel
  obtain ⟨s', hcall⟩ : ∃ s', mergedQueue.call sampleRefreshEnv
      (.complete claimedJob 3 none Doc.empty) = .ok s' := isOk_iff.1 (by decide +kernel)
  obtain ⟨token, m, hopen, hiff⟩ := (refresh_leases hrun).2.2 _ claimedJob s' rfl hallowed hcall
  exact ⟨s', hcall, token, m, hopen, hiff.2 trivial⟩

/-- **A retry loses the demand**: the worker's job object is older than it. -/
theorem retry_loses_demand :
    (∃ cs, Run (QueueStep sampleRefreshEnv) {} cs mergedQueue) ∧
      openLease mergedQueue.events 1 = some ("a", highAlert) ∧
      QueueStep sampleRefreshEnv mergedQueue (.retry claimedJob 3 none { error := "timeout" })
        (mergedQueue.after (.retry claimedJob 3 none { error := "timeout" })) ∧
      (mergedQueue.jobs.map fun row => row.metadataPayload.get "demand") =
        [some (.text "high_alert")] ∧
      ((mergedQueue.after (.retry claimedJob 3 none { error := "timeout" })).jobs.map fun row =>
        (row.status, row.metadataPayload.get "demand")) = [(.retry, none)] := by
  refine ⟨run_mergedQueue, by decide +kernel, ⟨by decide +kernel, .inl ?_⟩, by decide +kernel,
    by decide +kernel⟩
  obtain ⟨s', hcall⟩ : ∃ s', mergedQueue.call sampleRefreshEnv
      (.retry claimedJob 3 none { error := "timeout" }) = .ok s' := isOk_iff.1 (by decide +kernel)
  rw [QueueState.after, hcall]

end ChartingPlatform
