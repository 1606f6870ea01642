/-
  The refresh queue (`market_refresh_queue.py`).

  A job is enqueued, or coalesced with the one that has its request key; workers
  claim due jobs under a lease with a fresh token and complete or retry them
  through the job object that the claim returned.

  A claim, a completion and a retry each change the table under row locks, so
  they are single steps; a completion that finds no matching row raises.  An
  enqueue reads the row and flushes later, under an advisory lock on its request
  key: `RefreshCall.read` and `RefreshCall.flush`.  The flush writes the
  attributes that the enqueue changed on the row it had read.

  Redaction of error texts and `isoformat` are parameters.  A value of a metadata
  document other than `None` and a text is represented by its JSON text.
-/
import ChartingPlatform.Lib.Documents
import ChartingPlatform.Lib.Runs
import ChartingPlatform.Lib.Sorting
import ChartingPlatform.Lib.Updates
import ChartingPlatform.Quota.Contracts

namespace ChartingPlatform

open Lib

/-! ## Jobs -/

/-- The values of `MarketRefreshJob.status`. -/
inductive RefreshStatus where
  | queued | retry | deferred | leased | completed | failed | expired
  deriving DecidableEq, Repr

inductive MetadataValue where
  | null
  | text (s : String)
  | other (json : String)
  deriving DecidableEq, Repr

def MetadataValue.ofOption : Option String → MetadataValue
  | some s => .text s
  | none => .null

abbrev Metadata := Doc MetadataValue

/-- `MarketRefreshJob`. -/
structure RefreshJob where
  id : ℕ
  requestKey : String
  instrumentId : Option ℤ
  capability : String
  timeframe : Option String
  startAt : Option Micros
  endAt : Option Micros
  priority : ℤ
  status : RefreshStatus
  attempts : ℕ
  nextAttemptAt : Micros
  leasedUntil : Option Micros
  startedAt : Option Micros
  finishedAt : Option Micros
  leaseToken : Option String
  lastError : Option String
  resultSummary : Option Metadata
  metadataPayload : Metadata
  deriving DecidableEq

/-- The arguments of `enqueue_refresh_job`. -/
structure EnqueueRequest where
  requestKey : String
  capability : String
  instrumentId : Option ℤ := none
  timeframe : Option String := none
  startAt : Option Micros := none
  endAt : Option Micros := none
  priority : ℤ := 100
  metadataPayload : Metadata := Doc.empty
  deriving DecidableEq

def EnqueueRequest.newJob (r : EnqueueRequest) (current : Micros) (id : ℕ) : RefreshJob where
  id := id
  requestKey := r.requestKey
  instrumentId := r.instrumentId
  capability := r.capability
  timeframe := r.timeframe
  startAt := r.startAt
  endAt := r.endAt
  priority := r.priority
  status := .queued
  attempts := 0
  nextAttemptAt := current
  leasedUntil := none
  startedAt := none
  finishedAt := none
  leaseToken := none
  lastError := none
  resultSummary := none
  metadataPayload := r.metadataPayload

def EnqueueRequest.coalesce (r : EnqueueRequest) (current : Micros) (job : RefreshJob) :
    RefreshJob :=
  { job with
    priority := min job.priority r.priority
    status := if job.status = .failed ∨ job.status = .deferred ∨ job.status = .expired then .queued
      else job.status
    nextAttemptAt := min job.nextAttemptAt current
    metadataPayload := job.metadataPayload.merge r.metadataPayload }

/-- What `db.flush()` makes of the row: it sets the attributes that were changed. -/
def RefreshJob.flush (read changed row : RefreshJob) : RefreshJob :=
  { row with
    priority := if changed.priority = read.priority then row.priority else changed.priority
    status := if changed.status = read.status then row.status else changed.status
    nextAttemptAt := if changed.nextAttemptAt = read.nextAttemptAt then row.nextAttemptAt
      else changed.nextAttemptAt
    metadataPayload := if changed.metadataPayload = read.metadataPayload then row.metadataPayload
      else changed.metadataPayload }

/-! ## Claiming -/

/-- The `WHERE` clause of `claim_refresh_jobs`. -/
def RefreshJob.due (current : Micros) (job : RefreshJob) : Bool :=
  decide (job.nextAttemptAt ≤ current) &&
    (decide (job.status = .queued) ||
      decide (job.status = .retry ∨ job.status = .deferred) ||
      decide (job.status = .leased) && job.leasedUntil.any fun u => decide (u < current))

/-- The `ORDER BY` clause. -/
def RefreshJob.claimKey (job : RefreshJob) : ℤ ×ₗ ℤ ×ₗ ℕ :=
  toLex (job.priority, toLex (job.nextAttemptAt, job.id))

/-- The rows that a claim locks; rows that others have locked are skipped. -/
def dueJobs (jobs : List RefreshJob) (limit : ℕ) (current : Micros) (locked : List ℕ) :
    List RefreshJob :=
  (sortBy RefreshJob.claimKey
    (jobs.filter fun job => job.due current && decide (job.id ∉ locked))).take limit

def RefreshJob.claim (current : Micros) (leaseSeconds : ℤ) (token : String) (job : RefreshJob) :
    RefreshJob :=
  { job with
    status := .leased
    leasedUntil := some (current + seconds leaseSeconds)
    leaseToken := some token
    attempts := job.attempts + 1
    startedAt := job.startedAt.or (some current)
    finishedAt := none }

/-! ## Completing and retrying -/

/-- `RefreshLeaseLostError`. -/
structure RefreshLeaseLostError where
  message : String
  deriving DecidableEq, Repr

/-- `lease_token or job.lease_token`, if it is truthy. -/
def RefreshJob.token (job : RefreshJob) (leaseToken : Option String) : Option String :=
  ((leaseToken.filter (· ≠ "")).or job.leaseToken).filter (· ≠ "")

/-- The `WHERE` clause of a completion and of a retry. -/
def RefreshJob.heldUnder (id : ℕ) (token : String) (current : Micros) (row : RefreshJob) : Bool :=
  decide (row.id = id) && decide (row.status = .leased) && decide (row.leaseToken = some token) &&
    row.leasedUntil.all fun u => decide (current ≤ u)

/-- An `UPDATE` under the lease of the job object, and the same assignments to
    the object itself. -/
def settleLease (jobs : List RefreshJob) (job : RefreshJob) (current : Micros)
    (leaseToken : Option String) (write : RefreshJob → RefreshJob) :
    Except RefreshLeaseLostError (List RefreshJob × RefreshJob) :=
  match job.token leaseToken with
  | none => .error ⟨"refresh job " ++ toString job.id ++ " has no lease token"⟩
  | some token =>
    if (jobs.filter (·.heldUnder job.id token current)).length ≠ 1 then
      .error ⟨"refresh job " ++ toString job.id ++ " lease is no longer valid"⟩
    else
      .ok (jobs.map fun row => if row.heldUnder job.id token current then write row else row,
        write job)

def completedJob (current : Micros) (summary : Metadata) (row : RefreshJob) : RefreshJob :=
  { row with
    status := .completed
    leasedUntil := none
    leaseToken := none
    lastError := none
    finishedAt := some current
    resultSummary := some summary }

/-- `complete_refresh_job`. -/
def completeRefreshJob (jobs : List RefreshJob) (job : RefreshJob) (now : Micros)
    (leaseToken : Option String) (resultSummary : Metadata) :
    Except RefreshLeaseLostError (List RefreshJob × RefreshJob) :=
  let summary := (Doc.empty.set "outcome" (.text "completed")).merge resultSummary
  settleLease jobs job now leaseToken (completedJob now summary)

structure RefreshEnv where
  redact : String → String
  isoformat : Micros → String

/-- The arguments of `retry_refresh_job` besides the job and the token. -/
structure RetryArguments where
  error : String
  maxBackoffSeconds : ℤ := 3600
  retryAt : Option Micros := none
  resultSummary : Metadata := Doc.empty
  deriving DecidableEq

namespace RetryArguments

/-- `backoff`. -/
def backoff (a : RetryArguments) (job : RefreshJob) : ℤ :=
  min a.maxBackoffSeconds (2 ^ min job.attempts 10)

/-- `next_attempt_at`. -/
def nextAttemptAt (a : RetryArguments) (job : RefreshJob) (current : Micros) : Micros :=
  match a.retryAt with
  | some t => max (current + seconds (a.backoff job)) t
  | none => current + seconds (a.backoff job)

def ownMetadata (env : RefreshEnv) (a : RetryArguments) : Metadata :=
  (Doc.empty.set "defer_reason" (.ofOption (a.retryAt.map fun _ => "provider_reset"))).set
    "provider_retry_at" (.ofOption (a.retryAt.map env.isoformat))

/-- `safe_error`. -/
def safeError (env : RefreshEnv) (a : RetryArguments) : String :=
  String.ofList ((env.redact a.error).toList.take 2000)

/-- `summary`. -/
def summary (env : RefreshEnv) (a : RetryArguments) : Metadata :=
  (((Doc.empty.set "outcome" (.text (if a.retryAt.isSome then "deferred" else "retry"))).set
    "error" (.text (a.safeError env))).set
      "provider_retry_at" (.ofOption (a.retryAt.map env.isoformat))).merge a.resultSummary

end RetryArguments

/-- The assignments of a retry; the metadata are those of the job object. -/
def retriedJob (env : RefreshEnv) (job : RefreshJob) (current : Micros) (a : RetryArguments)
    (row : RefreshJob) : RefreshJob :=
  { row with
    status := if a.retryAt.isSome then .deferred else .retry
    leasedUntil := none
    leaseToken := none
    lastError := some (a.safeError env)
    nextAttemptAt := a.nextAttemptAt job current
    metadataPayload := job.metadataPayload.merge (a.ownMetadata env)
    finishedAt := some current
    resultSummary := some (a.summary env) }

/-- `retry_refresh_job`. -/
def retryRefreshJob (env : RefreshEnv) (jobs : List RefreshJob) (job : RefreshJob) (now : Micros)
    (leaseToken : Option String) (a : RetryArguments) :
    Except RefreshLeaseLostError (List RefreshJob × RefreshJob) :=
  settleLease jobs job now leaseToken (retriedJob env job now a)

/-! ## Steps -/

inductive RefreshEvent where
  | claimed (job : ℕ) (token : String)
  | merged (job : ℕ) (metadata : Metadata)
  | settled (job : ℕ) (token : String)
  deriving DecidableEq

structure PendingEnqueue where
  request : EnqueueRequest
  current : Micros
  found : Option RefreshJob

def PendingEnqueue.key (p : PendingEnqueue) : String := p.request.requestKey

/-- The table, the enqueues in flight and the job objects of the workers.  No
    call reads the events: they record, in order, what the calls did. -/
structure QueueState where
  jobs : List RefreshJob := []
  pending : List PendingEnqueue := []
  handles : List RefreshJob := []
  events : List RefreshEvent := []

/-- The calls, with the clocks and the tokens they use. -/
inductive RefreshCall where
  | read (request : EnqueueRequest) (now : Micros)
  | flush (key : String) (id : ℕ)
  | rollback (key : String)
  | claim (limit : ℕ) (leaseSeconds : ℤ) (now : Micros) (locked : List ℕ) (token : ℕ → String)
  | complete (job : RefreshJob) (now : Micros) (leaseToken : Option String) (summary : Metadata)
  | retry (job : RefreshJob) (now : Micros) (leaseToken : Option String) (args : RetryArguments)

def issuedTokens (es : List RefreshEvent) : List String :=
  es.filterMap fun e => match e with
    | .claimed _ token => some token
    | _ => none

namespace QueueState

/-- The enqueue ends its transaction and gives its lock back. -/
def release (s : QueueState) (key : String) : QueueState :=
  { s with pending := s.pending.filter fun p => p.key ≠ key }

def flushed (s : QueueState) (p : PendingEnqueue) (id : ℕ) : QueueState :=
  match p.found with
  | none =>
    let job := p.request.newJob p.current id
    { s with jobs := (insertNew RefreshJob.requestKey job s.jobs).getD s.jobs }
  | some old =>
    let changed := p.request.coalesce p.current old
    { s with
      jobs := updateRow RefreshJob.id old.id (old.flush changed) s.jobs
      events := if changed.metadataPayload = old.metadataPayload then s.events
        else s.events ++ [.merged old.id p.request.metadataPayload] }

/-- A settlement that took effect; the worker's job object has the new values. -/
def settle (s : QueueState) (job : RefreshJob) (leaseToken : Option String)
    (settled : List RefreshJob × RefreshJob) : QueueState :=
  { s with
    jobs := settled.1
    handles := s.handles.map fun handle => if handle = job then settled.2 else handle
    events := s.events ++ ((job.token leaseToken).map (.settled job.id)).toList }

def call (env : RefreshEnv) (s : QueueState) : RefreshCall → Except RefreshLeaseLostError QueueState
  | .read r now =>
    let found := rowWith RefreshJob.requestKey r.requestKey s.jobs
    .ok { s with pending := s.pending ++ [⟨r, now, found⟩] }
  | .flush key id =>
    match rowWith PendingEnqueue.key key s.pending with
    | none => .ok s
    | some p => .ok ((s.flushed p id).release key)
  | .rollback key => .ok (s.release key)
  | .claim limit leaseSeconds now locked token =>
    let due := dueJobs s.jobs limit now locked
    let lease := fun job : RefreshJob => job.claim now leaseSeconds (token job.id)
    .ok { s with
      jobs := s.jobs.map fun job => if job ∈ due then lease job else job
      handles := s.handles ++ due.map lease
      events := s.events ++ due.map fun job => .claimed job.id (token job.id) }
  | .complete job now leaseToken summary =>
    (completeRefreshJob s.jobs job now leaseToken summary).map (s.settle job leaseToken)
  | .retry job now leaseToken args =>
    (retryRefreshJob env s.jobs job now leaseToken args).map (s.settle job leaseToken)

end QueueState

/-- The call uses a job object of a claim, and no token but its own. -/
def RefreshJob.UsedBy (s : QueueState) (leaseToken : Option String) (job : RefreshJob) : Prop :=
  job ∈ s.handles ∧ (leaseToken = none ∨ leaseToken = job.leaseToken)

/-- What the database and the workers grant: an enqueue waits for the lock on its
    key, new rows get new ids, claims get new tokens, and a worker settles a job
    through the object it claimed. -/
def RefreshCall.Allowed (s : QueueState) : RefreshCall → Prop
  | .read r _ => r.requestKey ∉ s.pending.map PendingEnqueue.key
  | .flush _ id => id ∉ s.jobs.map RefreshJob.id
  | .rollback _ => True
  | .claim limit _ now locked token =>
    ((dueJobs s.jobs limit now locked).map fun job => token job.id).Nodup ∧
      ∀ job ∈ dueJobs s.jobs limit now locked, token job.id ∉ issuedTokens s.events
  | .complete job _ leaseToken _ => job.UsedBy s leaseToken
  | .retry job _ leaseToken _ => job.UsedBy s leaseToken

def QueueStep (env : RefreshEnv) (s : QueueState) (c : RefreshCall) (s' : QueueState) : Prop :=
  c.Allowed s ∧ (s.call env c = .ok s' ∨ (∃ e, s.call env c = .error e) ∧ s' = s)

end ChartingPlatform
