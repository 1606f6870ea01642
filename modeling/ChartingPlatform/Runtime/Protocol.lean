/-
  The protocol that the server loop keeps: a run of the loop is a sequence of exchanges
  (`Answered`), which may end in a request without answer (`Unanswered`).
-/
import ChartingPlatform.Runtime.Server
import ChartingPlatform.Forward.AdmissionRuns

namespace ChartingPlatform

open Lib List

/-! ## The session as the handler sees it -/

/-- A successful `open` opens the session, a successful `close` closes it. -/
def HandlerCall.opens (opened : Bool) (c : HandlerCall) : Bool :=
  if c.succeeded = true ∧ c.operation = .open then true
  else if c.succeeded = true ∧ c.operation = .close then false
  else opened

/-- A failed `execute` asks for a restore, until one succeeds. -/
def HandlerCall.awaits (needsRestore : Bool) (c : HandlerCall) : Bool :=
  if c.succeeded = false ∧ c.operation = .execute then true
  else if c.succeeded = true ∧ c.operation = .restore then false
  else needsRestore

def sessionOpen (calls : List HandlerCall) : Bool := calls.foldl HandlerCall.opens false

def awaitsRestore (calls : List HandlerCall) : Bool := calls.foldl HandlerCall.awaits false

@[simp] theorem sessionOpen_snoc (calls : List HandlerCall) (c : HandlerCall) :
    sessionOpen (calls ++ [c]) = c.opens (sessionOpen calls) := by
  simp [sessionOpen]

@[simp] theorem awaitsRestore_snoc (calls : List HandlerCall) (c : HandlerCall) :
    awaitsRestore (calls ++ [c]) = c.awaits (awaitsRestore calls) := by
  simp [awaitsRestore]

/-- The operations that may be performed on the handler. -/
def Allowed (opened needsRestore : Bool) (operation : NautilusRuntimeIpcOperation) : Prop :=
  (opened = true ↔ operation ≠ .open) ∧
    (needsRestore = true → operation = .restore ∨ operation = .close)

def Disciplined (calls : List HandlerCall) : Prop :=
  ∀ pre c post, calls = pre ++ c :: post →
    Allowed (sessionOpen pre) (awaitsRestore pre) c.operation

theorem Disciplined.nil : Disciplined [] := by
  intro pre c post h
  simp at h

theorem Disciplined.snoc {calls : List HandlerCall} {c : HandlerCall} (h : Disciplined calls)
    (hc : Allowed (sessionOpen calls) (awaitsRestore calls) c.operation) :
    Disciplined (calls ++ [c]) := by
  intro pre d post heq
  rcases eq_nil_or_concat post with rfl | ⟨front, last, rfl⟩
  · obtain ⟨rfl, hcd⟩ := append_inj' heq rfl
    obtain rfl := (List.cons.inj hcd).1
    exact hc
  · have heq' : calls ++ [c] = (pre ++ d :: front) ++ [last] := by
      rw [heq, concat_eq_append]
      simp
    exact h pre d front (append_inj' heq' rfl).1

/-! ## Exchanges -/

/-- A request with the operation it caused and its answer. -/
structure Exchange (sha256 : String → Digest) where
  request : NautilusRuntimeIpcFrame sha256
  call : Option HandlerCall
  answer : Option (NautilusRuntimeIpcFrame sha256)

def Exchange.events {sha256 : String → Digest} (x : Exchange sha256) : List (IpcEvent sha256) :=
  .received x.request :: x.call.toList.map .called ++ x.answer.toList.map .wrote

def IpcSession.Fresh {sha256 : String → Digest} (s : IpcSession sha256)
    (request : NautilusRuntimeIpcFrame sha256) : Prop :=
  ∀ last ∈ s.last, last.1.requestId ≠ request.requestId

def IpcSession.counted {sha256 : String → Digest} (s : IpcSession sha256) : IpcSession sha256 :=
  { s with requestCount := s.requestCount + 1 }

def frameTooLong : PyError := valueError "runtime IPC frame exceeds its byte limit"

inductive Answered (server : IpcServer) (handler : IpcHandler) (s : IpcSession server.sha256)
    (x : Exchange server.sha256) (t : IpcSession server.sha256) : Prop
  /-- The last request again: its response again. -/
  | retry {previous response} : s.last = some (previous, response) →
      previous.requestId = x.request.requestId → x.request.fingerprint = previous.fingerprint →
      x.call = none → x.answer = some response → t = s → Answered server handler s x t
  | fresh {response u} : s.Fresh x.request →
      respond server.sha256 handler s.counted x.request = .ok (response, x.call, u) →
      x.answer = some response →
      (∃ line, encodeFrame server.floatRepr server.maxFrameBytes response = .ok line) →
      t = { u with last := some (x.request, response) } → Answered server handler s x t

inductive Unanswered (server : IpcServer) (handler : IpcHandler) (s : IpcSession server.sha256)
    (x : Exchange server.sha256) (t : IpcSession server.sha256) (ending : IpcEnding) : Prop
  /-- The last request id with other content. -/
  | reused {previous response} : s.last = some (previous, response) →
      previous.requestId = x.request.requestId → x.request.fingerprint ≠ previous.fingerprint →
      x.call = none → x.answer = none → t = s → ending = .exit 2 →
      Unanswered server handler s x t ending
  /-- The cached response cannot be written. -/
  | unwritable {previous response e} : s.last = some (previous, response) →
      encodeFrame server.floatRepr server.maxFrameBytes response = .error e →
      x.call = none → x.answer = none → t = s → Unanswered server handler s x t ending
  /-- The response is too long. -/
  | tooLong {response u e} : s.Fresh x.request →
      respond server.sha256 handler s.counted x.request = .ok (response, x.call, u) →
      encodeFrame server.floatRepr server.maxFrameBytes response = .error e → x.answer = none →
      t = { u with last := some (x.request, response) } → ending = .raised frameTooLong →
      Unanswered server handler s x t ending

section
variable {server : IpcServer} {handler : IpcHandler} {s t : IpcSession server.sha256}
  {x : Exchange server.sha256} {xs : List (Exchange server.sha256)} {ending : IpcEnding}
  {request response : NautilusRuntimeIpcFrame server.sha256} {call : Option HandlerCall}
  {sha256 : String → Digest} {line : WireLine} {lines : List WireLine}
  {calls pre post : List HandlerCall}

theorem errorResponse_total (request : NautilusRuntimeIpcFrame sha256)
    (code : String) : ∃ response, errorResponse sha256 request code = .ok response :=
  ⟨_, createFrame_texts request.requestId_valid "error_code" code⟩

/-- What a response says, and what was performed for it. -/
structure Responds (s : IpcSession server.sha256) (request : NautilusRuntimeIpcFrame server.sha256)
    (response : NautilusRuntimeIpcFrame server.sha256) (call : Option HandlerCall)
    (t : IpcSession server.sha256) : Prop where
  requestId : response.requestId = request.requestId
  operation : response.operation = request.operation
  calls : t.calls = s.calls ++ call.toList
  call_cases : (call = none ∧ t.opened = s.opened ∧ t.needsRestore = s.needsRestore) ∨
    ∃ c, call = some c ∧ c.operation = request.operation ∧ c.payload = request.payload ∧
      Allowed s.opened s.needsRestore c.operation ∧ t.opened = c.opens s.opened ∧
      t.needsRestore = c.awaits s.needsRestore

theorem responds_refused {code : String} (h : errorResponse server.sha256 request code =
    .ok response) : Responds s request response none s := by
  obtain ⟨hid, hop, -⟩ := createFrame_eq_ok h
  exact ⟨hid, hop, by simp, .inl ⟨rfl, rfl, rfl⟩⟩

theorem perform_mapping {s : IpcSession sha256}
    {request : NautilusRuntimeIpcFrame sha256} {result : List (PyKey × PyValue)}
    (h : handler s.calls request.operation request.payload = .ok (.mapping result)) :
    perform sha256 handler s request =
      createFrame sha256 request.requestId request.operation .success (.mapping result) := by
  rw [perform, h, ok_bind]

theorem respond_spec
    (h : respond server.sha256 handler s request = .ok (response, call, t)) :
    Responds s request response call t := by
  unfold respond at h
  by_cases hnotOpen : s.opened = false ∧ request.operation ≠ .open
  · rw [if_pos hnotOpen] at h
    obtain ⟨r, hr, h⟩ := bind_eq_ok.1 h
    cases h
    exact responds_refused hr
  rw [if_neg hnotOpen] at h
  by_cases hopen : s.opened = true ∧ request.operation = .open
  · rw [if_pos hopen] at h
    obtain ⟨r, hr, h⟩ := bind_eq_ok.1 h
    cases h
    exact responds_refused hr
  rw [if_neg hopen] at h
  by_cases hrestore : s.needsRestore = true ∧
      ¬ (request.operation = .restore ∨ request.operation = .close)
  · rw [if_pos hrestore] at h
    obtain ⟨r, hr, h⟩ := bind_eq_ok.1 h
    cases h
    exact responds_refused hr
  rw [if_neg hrestore] at h
  have hallowed : Allowed s.opened s.needsRestore request.operation := by
    refine ⟨⟨fun ho heq => hopen ⟨ho, heq⟩, fun hne => ?_⟩, fun hn => ?_⟩
    · by_contra ho
      exact hnotOpen ⟨by simpa using ho, hne⟩
    · by_contra hno
      exact hrestore ⟨hn, hno⟩
  cases hperform : perform server.sha256 handler s request with
  | ok r =>
    simp only [hperform] at h
    cases h
    obtain ⟨result, -, hcreate⟩ := bind_eq_ok.1 hperform
    have hframe : response.requestId = request.requestId ∧
        response.operation = request.operation := by
      cases result with
      | mapping items =>
        obtain ⟨hid, hop, -⟩ := createFrame_eq_ok hcreate
        exact ⟨hid, hop⟩
      | _ => cases hcreate
    refine ⟨hframe.1, hframe.2, ?_, .inr ⟨_, rfl, rfl, rfl, hallowed, ?_, ?_⟩⟩
    · cases request.operation <;> rfl
    · cases hop : request.operation <;> simp [HandlerCall.opens]
    · cases hop : request.operation <;> simp [HandlerCall.awaits]
  | error e =>
    simp only [hperform] at h
    obtain ⟨r, hr, h⟩ := bind_eq_ok.1 h
    cases h
    obtain ⟨hid, hop, -⟩ := createFrame_eq_ok hr
    refine ⟨hid, hop, ?_, .inr ⟨_, rfl, rfl, rfl, hallowed, ?_, ?_⟩⟩
    · split_ifs <;> rfl
    · split_ifs <;> simp [HandlerCall.opens]
    · split_ifs with hexec <;> simp [HandlerCall.awaits, hexec]

theorem respond_total (server : IpcServer) (handler : IpcHandler) (s : IpcSession server.sha256)
    (request : NautilusRuntimeIpcFrame server.sha256) :
    ∃ p, respond server.sha256 handler s request = .ok p := by
  unfold respond
  by_cases hnotOpen : s.opened = false ∧ request.operation ≠ .open
  · rw [if_pos hnotOpen]
    obtain ⟨r, hr⟩ := errorResponse_total request "session_not_open"
    exact ⟨_, bind_eq_ok.2 ⟨r, hr, rfl⟩⟩
  rw [if_neg hnotOpen]
  by_cases hopen : s.opened = true ∧ request.operation = .open
  · rw [if_pos hopen]
    obtain ⟨r, hr⟩ := errorResponse_total request "session_already_open"
    exact ⟨_, bind_eq_ok.2 ⟨r, hr, rfl⟩⟩
  rw [if_neg hopen]
  by_cases hrestore : s.needsRestore = true ∧
      ¬ (request.operation = .restore ∨ request.operation = .close)
  · rw [if_pos hrestore]
    obtain ⟨r, hr⟩ := errorResponse_total request "restore_required"
    exact ⟨_, bind_eq_ok.2 ⟨r, hr, rfl⟩⟩
  rw [if_neg hrestore]
  cases perform server.sha256 handler s request with
  | ok r => exact ⟨_, rfl⟩
  | error e =>
    obtain ⟨r, hr⟩ := errorResponse_total request "operation_failed"
    exact ⟨_, bind_eq_ok.2 ⟨r, hr, rfl⟩⟩

theorem encodeFrame_error {e : PyError}
    (hread : readFrame server.sha256 server.maxFrameBytes line = .ok request)
    (h : encodeFrame server.floatRepr server.maxFrameBytes response = .error e) :
    e = frameTooLong := by
  obtain ⟨_, hmax, -⟩ := bind_eq_ok.1 hread
  unfold encodeFrame at h
  rw [ensure_of (ensure_eq_ok.1 hmax), ok_bind] at h
  dsimp only at h
  by_cases hlen : (String.ofList (wireText server.floatRepr response.wire)).utf8ByteSize + 1 ≤
      server.maxFrameBytes
  · rw [ensure_of hlen] at h
    cases h
  · rw [ensure_of_not hlen] at h
    exact (Except.error.inj h).symm

theorem serveFrames_fresh {u : IpcSession server.sha256}
    {out : WireLine} (hcount : s.requestCount < server.maxRequests)
    (hread : readFrame server.sha256 server.maxFrameBytes line = .ok request)
    (hstatus : request.status = .request) (hlast : s.last = none)
    (hrespond : respond server.sha256 handler s.counted request = .ok (response, call, u))
    (hencode : encodeFrame server.floatRepr server.maxFrameBytes response = .ok out)
    (hclose : request.operation ≠ .close) :
    serveFrames server handler (line :: lines) s =
      (.received request :: call.toList.map .called ++
        .wrote response ::
          (serveFrames server handler lines { u with last := some (request, response) }).1,
        (serveFrames server handler lines { u with last := some (request, response) }).2) := by
  have hrespond' : respond server.sha256 handler { s with requestCount := s.requestCount + 1 }
      request = .ok (response, call, u) := hrespond
  have hfilter : s.last.filter (fun last => decide (last.1.requestId = request.requestId)) =
      none := by rw [hlast, Option.filter_none]
  rw [serveFrames, if_neg (by omega)]
  simp only [hread, hfilter, hrespond', hencode]
  rw [if_neg (not_not.2 hstatus), if_neg hclose]

theorem serveFrames_reused {previous : NautilusRuntimeIpcFrame server.sha256}
    (hcount : s.requestCount < server.maxRequests)
    (hread : readFrame server.sha256 server.maxFrameBytes line = .ok request)
    (hstatus : request.status = .request) (hlast : s.last = some (previous, response))
    (hid : previous.requestId = request.requestId)
    (hfp : request.fingerprint ≠ previous.fingerprint) :
    serveFrames server handler (line :: lines) s = ([.received request], s, .exit 2) := by
  have hfilter : s.last.filter (fun last => decide (last.1.requestId = request.requestId)) =
      some (previous, response) := by
    rw [hlast, Option.filter_some, if_pos (by simpa using hid)]
  rw [serveFrames, if_neg (by omega)]
  simp only [hread, hfilter]
  rw [if_neg (not_not.2 hstatus), if_pos hfp]

/-- How the loop ends after its answered exchanges: at once, or at a last request. -/
def Ends (server : IpcServer) (handler : IpcHandler) (s : IpcSession server.sha256)
    (tail : List (Exchange server.sha256)) (t : IpcSession server.sha256) (ending : IpcEnding) :
    Prop :=
  tail = [] ∧ t = s ∨ ∃ x, tail = [x] ∧ Unanswered server handler s x t ending

def Consumed (server : IpcServer) (lines : List WireLine) (xs : List (Exchange server.sha256)) :
    Prop :=
  (lines.take xs.length).map (readFrame server.sha256 server.maxFrameBytes) =
    xs.map fun x => .ok x.request

theorem Consumed.cons (hread : readFrame server.sha256 server.maxFrameBytes line = .ok x.request)
    (h : Consumed server lines xs) : Consumed server (line :: lines) (x :: xs) := by
  unfold Consumed at h ⊢
  rw [length_cons, take_succ_cons, map_cons, map_cons, hread, h]

theorem Consumed.nil (lines : List WireLine) : Consumed server lines [] := rfl

theorem serveFrames_run (server : IpcServer) (handler : IpcHandler) (lines : List WireLine)
    (s : IpcSession server.sha256) :
    ∃ xs u tail t ending, serveFrames server handler lines s =
        ((xs ++ tail).flatMap Exchange.events, t, ending) ∧
      Run (Answered server handler) s xs u ∧ Ends server handler u tail t ending ∧
      Consumed server lines (xs ++ tail) := by
  induction lines generalizing s with
  | nil => exact ⟨[], s, [], s, _, rfl, Run.nil, .inl ⟨rfl, rfl⟩, Consumed.nil _⟩
  | cons line lines ih =>
    have hstop : ∀ ending, serveFrames server handler (line :: lines) s = ([], s, ending) →
        ∃ xs u tail t ending, serveFrames server handler (line :: lines) s =
          ((xs ++ tail).flatMap Exchange.events, t, ending) ∧
        Run (Answered server handler) s xs u ∧ Ends server handler u tail t ending ∧
        Consumed server (line :: lines) (xs ++ tail) := fun ending heq =>
      ⟨[], s, [], s, ending, heq, Run.nil, .inl ⟨rfl, rfl⟩, Consumed.nil _⟩
    rw [serveFrames] at hstop ⊢
    by_cases hmax : server.maxRequests ≤ s.requestCount
    · exact hstop _ (if_pos hmax)
    rw [if_neg hmax] at hstop ⊢
    cases hread : readFrame server.sha256 server.maxFrameBytes line with
    | error e =>
      simp only [hread] at hstop ⊢
      exact hstop _ rfl
    | ok request =>
      simp only [hread] at hstop ⊢
      by_cases hstatus : request.status ≠ .request
      · exact hstop _ (if_pos hstatus)
      rw [if_neg hstatus]
      clear hstop
      cases hlast : s.last.filter fun last => decide (last.1.requestId = request.requestId) with
      | some p =>
        obtain ⟨previous, response⟩ := p
        obtain ⟨hlast, hid⟩ := Option.filter_eq_some_iff.1 hlast
        rw [decide_eq_true_eq] at hid
        dsimp only
        by_cases hfp : request.fingerprint ≠ previous.fingerprint
        · rw [if_pos hfp]
          exact ⟨[], s, [⟨request, none, none⟩], s, _, rfl, Run.nil,
            .inr ⟨_, rfl, .reused hlast hid hfp rfl rfl rfl rfl⟩, (Consumed.nil _).cons hread⟩
        rw [if_neg hfp]
        cases henc : encodeFrame server.floatRepr server.maxFrameBytes response with
        | error e =>
          exact ⟨[], s, [⟨request, none, none⟩], s, _, rfl, Run.nil,
            .inr ⟨_, rfl, .unwritable hlast henc rfl rfl rfl⟩, (Consumed.nil _).cons hread⟩
        | ok out =>
          obtain ⟨xs, u, tail, t, ending, heq, hrun, hend, hcons⟩ := ih s
          refine ⟨⟨request, none, some response⟩ :: xs, u, tail, t, ending, ?_, ?_, hend,
            hcons.cons hread⟩
          · simp [heq, Exchange.events]
          · exact Run.cons (.retry hlast hid (not_not.1 hfp) rfl rfl rfl) hrun
      | none =>
        have hfresh : s.Fresh request := by
          intro last hmem heq
          rw [Option.filter_eq_none_iff] at hlast
          exact hlast last hmem (by simpa using heq)
        obtain ⟨⟨response, call, u⟩, hresp⟩ := respond_total server handler s.counted request
        have hresp' : respond server.sha256 handler { s with requestCount := s.requestCount + 1 }
            request = .ok (response, call, u) := hresp
        simp only [hresp']
        cases henc : encodeFrame server.floatRepr server.maxFrameBytes response with
        | error e =>
          refine ⟨[], s, [⟨request, call, none⟩], _, .raised e, ?_, Run.nil,
            .inr ⟨_, rfl, .tooLong hfresh hresp henc rfl rfl ?_⟩, (Consumed.nil _).cons hread⟩
          · simp [Exchange.events]
          · rw [encodeFrame_error hread henc]
        | ok out =>
          have hstep : Answered server handler s ⟨request, call, some response⟩
              { u with last := some (request, response) } :=
            .fresh hfresh hresp rfl ⟨out, henc⟩ rfl
          by_cases hclose : request.operation = .close
          · simp only [if_pos hclose]
            refine ⟨[⟨request, call, some response⟩], _, [], _,
              .exit (if response.status = .success then 0 else 3), ?_, Run.cons hstep Run.nil,
              .inl ⟨rfl, rfl⟩, (Consumed.nil _).cons hread⟩
            simp [Exchange.events]
          · simp only [if_neg hclose]
            obtain ⟨xs, v, tail, t, ending, heq, hrun, hend, hcons⟩ :=
              ih { u with last := some (request, response) }
            refine ⟨⟨request, call, some response⟩ :: xs, v, tail, t, ending, ?_,
              Run.cons hstep hrun, hend, hcons.cons hread⟩
            simp [heq, Exchange.events]

/-! ## What holds along a run -/

def IpcEvent.call? {sha256 : String → Digest} : IpcEvent sha256 → Option HandlerCall
  | .called c => some c
  | _ => none

/-- The flags of the session are those of its calls, which were allowed. -/
structure IpcSession.Tracks {sha256 : String → Digest} (s : IpcSession sha256) : Prop where
  opened : s.opened = sessionOpen s.calls
  needsRestore : s.needsRestore = awaitsRestore s.calls
  disciplined : Disciplined s.calls

theorem Responds.tracks (h : Responds s request response call t) (hs : s.Tracks) : t.Tracks := by
  obtain ⟨hcall, ho, hn⟩ | ⟨c, hcall, -, -, hallowed, ho, hn⟩ := h.call_cases
  · have hcalls : t.calls = s.calls := by simp [h.calls, hcall]
    exact ⟨by rw [ho, hcalls, hs.opened], by rw [hn, hcalls, hs.needsRestore],
      by rw [hcalls]; exact hs.disciplined⟩
  · have hcalls : t.calls = s.calls ++ [c] := by simp [h.calls, hcall]
    rw [hs.opened, hs.needsRestore] at hallowed
    exact ⟨by rw [ho, hcalls, hs.opened, sessionOpen_snoc],
      by rw [hn, hcalls, hs.needsRestore, awaitsRestore_snoc],
      by rw [hcalls]; exact hs.disciplined.snoc hallowed⟩

/-- The answer carries the request's own id and operation. -/
def Exchange.Answers {sha256 : String → Digest} (x : Exchange sha256)
    (response : NautilusRuntimeIpcFrame sha256) : Prop :=
  x.answer = some response ∧ response.requestId = x.request.requestId ∧
    response.operation = x.request.operation

def Exchange.Repeats {sha256 : String → Digest} (y x : Exchange sha256) : Prop :=
  y.request.requestId = x.request.requestId ∧ y.request.fingerprint = x.request.fingerprint

/-- **The invariant of the loop**, about the exchanges so far. -/
structure Serving (server : IpcServer) (xs : List (Exchange server.sha256))
    (s : IpcSession server.sha256) : Prop where
  tracks : s.Tracks
  calls : (xs.flatMap Exchange.events).filterMap IpcEvent.call? = s.calls
  answered : ∀ x ∈ xs, ∃ response, x.Answers response
  retried : ∀ pre x y post, xs = pre ++ x :: y :: post → y.Repeats x →
    y.call = none ∧ y.answer = x.answer
  /-- The last exchange is cached. -/
  cached : ∀ front x, xs = front ++ [x] → ∃ p r, s.last = some (p, r) ∧ x.Answers r ∧
    p.requestId = x.request.requestId ∧ p.fingerprint = x.request.fingerprint ∧
    ∃ line, encodeFrame server.floatRepr server.maxFrameBytes r = .ok line
  empty : xs = [] → s.last = none

theorem Serving.init (server : IpcServer) : Serving server [] {} where
  tracks := ⟨rfl, rfl, Disciplined.nil⟩
  calls := rfl
  answered := by simp
  retried := by simp
  cached := by simp
  empty _ := rfl

theorem calls_snoc (xs : List (Exchange server.sha256)) (x : Exchange server.sha256) :
    ((xs ++ [x]).flatMap Exchange.events).filterMap IpcEvent.call? =
      (xs.flatMap Exchange.events).filterMap IpcEvent.call? ++ x.call.toList := by
  have hevents : x.events.filterMap IpcEvent.call? = x.call.toList := by
    obtain ⟨request, call, answer⟩ := x
    cases call <;> cases answer <;> rfl
  simp [hevents]

theorem snoc_eq_append_cons {α : Type} {as pre post : List α} {a b c : α}
    (h : as ++ [a] = pre ++ b :: c :: post) :
    (∃ post', as = pre ++ b :: c :: post') ∨ (as = pre ++ [b] ∧ c = a) := by
  rcases eq_nil_or_concat post with rfl | ⟨front, last, rfl⟩
  · right
    have h' : as ++ [a] = (pre ++ [b]) ++ [c] := by rw [h]; simp
    obtain ⟨has, hca⟩ := append_inj' h' rfl
    exact ⟨has, (List.cons.inj hca).1.symm⟩
  · left
    have h' : as ++ [a] = (pre ++ b :: c :: front) ++ [last] := by
      rw [h, concat_eq_append]
      simp
    exact ⟨front, (append_inj' h' rfl).1⟩

theorem Serving.snoc (hsha : Function.Injective server.sha256) (h : Serving server xs s)
    (hx : Answered server handler s x t) : Serving server (xs ++ [x]) t := by
  cases hx with
  | @retry previous response hcache hid hfp hcall hanswer ht =>
    subst ht
    obtain rfl | ⟨front, y, rfl⟩ := eq_nil_or_concat xs
    · rw [h.empty rfl] at hcache
      cases hcache
    rw [concat_eq_append] at h ⊢
    obtain ⟨p, r, hcache', ⟨hy, hrid, hrop⟩, hpid, hpfp, hline⟩ := h.cached front y rfl
    obtain ⟨rfl, rfl⟩ := Prod.mk.inj (Option.some.inj (hcache.symm.trans hcache'))
    have hanswers : x.Answers response := by
      refine ⟨hanswer, ?_, ?_⟩
      · rw [hrid, ← hpid, hid]
      · rw [hrop]
        exact operation_of_fingerprint hsha (hpfp.symm.trans hfp.symm)
    exact
      { tracks := h.tracks
        calls := by rw [calls_snoc, h.calls, hcall]; simp
        answered := by
          intro z hz
          rcases mem_append.1 hz with hz | hz
          · exact h.answered z hz
          · rw [mem_singleton.1 hz]
            exact ⟨response, hanswers⟩
        retried := by
          intro pre y' z post heq hrep
          rcases snoc_eq_append_cons heq with ⟨post', heq'⟩ | ⟨heq', rfl⟩
          · exact h.retried pre y' z post' heq' hrep
          · obtain ⟨-, hyy⟩ := append_inj' heq' rfl
            obtain rfl := (List.cons.inj hyy).1
            exact ⟨hcall, hanswer.trans hy.symm⟩
        cached := by
          intro front' z heq
          obtain ⟨-, hz⟩ := append_inj' heq rfl
          obtain rfl := (List.cons.inj hz).1
          exact ⟨previous, response, hcache, hanswers, hid, hfp.symm, hline⟩
        empty := by simp }
  | @fresh response u hfresh hresp hanswer hline ht =>
    subst ht
    have hspec := respond_spec hresp
    have hanswers : x.Answers response := ⟨hanswer, hspec.requestId, hspec.operation⟩
    have htracks : u.Tracks :=
      hspec.tracks ⟨h.tracks.opened, h.tracks.needsRestore, h.tracks.disciplined⟩
    exact
      { tracks := ⟨htracks.opened, htracks.needsRestore, htracks.disciplined⟩
        calls := by
          rw [calls_snoc, h.calls]
          exact hspec.calls.symm
        answered := by
          intro z hz
          rcases mem_append.1 hz with hz | hz
          · exact h.answered z hz
          · rw [mem_singleton.1 hz]
            exact ⟨response, hanswers⟩
        retried := by
          intro pre y z post heq hrep
          rcases snoc_eq_append_cons heq with ⟨post', heq'⟩ | ⟨heq', rfl⟩
          · exact h.retried pre y z post' heq' hrep
          · obtain ⟨p, r, hcache, -, hpid, -⟩ := h.cached pre y heq'
            exact absurd (hpid.trans hrep.1.symm) (hfresh _ hcache)
        cached := by
          intro front z heq
          obtain ⟨-, hz⟩ := append_inj' heq rfl
          obtain rfl := (List.cons.inj hz).1
          exact ⟨x.request, response, rfl, hanswers, rfl, rfl, hline⟩
        empty := by simp }

theorem serving_run (hsha : Function.Injective server.sha256)
    (h : Run (Answered server handler) {} xs s) : Serving server xs s := by
  induction h with
  | nil => exact Serving.init server
  | snoc _ hx ih => exact ih.snoc hsha hx

/-! ## The protocol -/

/-- How the server comes to leave a request without an answer. -/
def StopsAt (xs : List (Exchange server.sha256)) (x : Exchange server.sha256)
    (ending : IpcEnding) : Prop :=
  (ending = .exit 2 ∧ ∃ y ∈ xs.getLast?, y.request.requestId = x.request.requestId ∧
    y.request.fingerprint ≠ x.request.fingerprint) ∨ ending = .raised frameTooLong

theorem serving_end (h : Serving server xs s) {tail : List (Exchange server.sha256)}
    (hend : Ends server handler s tail t ending) :
    t.Tracks ∧ ((xs ++ tail).flatMap Exchange.events).filterMap IpcEvent.call? = t.calls ∧
      (tail = [] ∨ ∃ x, tail = [x] ∧ x.answer = none ∧ StopsAt xs x ending ∧
        ∀ front y, xs = front ++ [y] → ¬ x.Repeats y) := by
  rcases hend with ⟨rfl, rfl⟩ | ⟨x, rfl, hx⟩
  · exact ⟨h.tracks, by rw [append_nil, h.calls], .inl rfl⟩
  cases hx with
  | @reused previous response hcache hid hfp hcall hanswer ht hending =>
    subst ht
    obtain rfl | ⟨front, y, rfl⟩ := eq_nil_or_concat xs
    · rw [h.empty rfl] at hcache
      cases hcache
    rw [concat_eq_append] at h ⊢
    obtain ⟨p, r, hcache', -, hpid, hpfp, -⟩ := h.cached front y rfl
    obtain ⟨rfl, rfl⟩ := Prod.mk.inj (Option.some.inj (hcache.symm.trans hcache'))
    refine ⟨h.tracks, by rw [calls_snoc, h.calls, hcall]; simp, .inr ⟨x, rfl, hanswer,
      .inl ⟨hending, y, by simp, hpid.symm.trans hid, fun heq => hfp (heq.symm.trans hpfp.symm)⟩,
      ?_⟩⟩
    intro front' z heq hrep
    obtain ⟨-, hz⟩ := append_inj' heq rfl
    obtain rfl := (List.cons.inj hz).1
    exact hfp (hrep.2.trans hpfp.symm)
  | @unwritable previous response e hcache henc hcall hanswer ht =>
    obtain rfl | ⟨front, y, rfl⟩ := eq_nil_or_concat xs
    · rw [h.empty rfl] at hcache
      cases hcache
    rw [concat_eq_append] at h
    obtain ⟨p, r, hcache', -, -, -, line, hline⟩ := h.cached front y rfl
    obtain ⟨rfl, rfl⟩ := Prod.mk.inj (Option.some.inj (hcache.symm.trans hcache'))
    rw [henc] at hline
    cases hline
  | @tooLong response u e hfresh hresp henc hanswer ht hending =>
    subst ht
    have hspec := respond_spec hresp
    have htracks : u.Tracks :=
      hspec.tracks ⟨h.tracks.opened, h.tracks.needsRestore, h.tracks.disciplined⟩
    refine ⟨⟨htracks.opened, htracks.needsRestore, htracks.disciplined⟩, ?_,
      .inr ⟨x, rfl, hanswer, .inr hending, ?_⟩⟩
    · rw [calls_snoc, h.calls]
      exact hspec.calls.symm
    · intro front y heq hrep
      obtain ⟨p, r, hcache, -, hpid, -⟩ := h.cached front y heq
      exact hfresh _ hcache (hpid.trans hrep.1.symm)

theorem Disciplined.after_failure {c d : HandlerCall}
    (h : Disciplined calls) (heq : calls = pre ++ c :: d :: post) (hc : c.operation = .execute)
    (hfailed : c.succeeded = false) : d.operation = .restore ∨ d.operation = .close := by
  have hd := h (pre ++ [c]) d post (by rw [heq]; simp)
  refine hd.2 ?_
  rw [awaitsRestore_snoc, HandlerCall.awaits, if_pos ⟨hfailed, hc⟩]

theorem Disciplined.execute {c : HandlerCall}
    (h : Disciplined calls) (heq : calls = pre ++ c :: post) (hc : c.operation = .execute) :
    sessionOpen pre = true ∧ awaitsRestore pre = false := by
  obtain ⟨hopen, hrestore⟩ := h pre c post heq
  rw [hc] at hopen hrestore
  refine ⟨hopen.2 nofun, ?_⟩
  by_contra hn
  rcases hrestore (by simpa using hn) with h | h <;> cases h

theorem serve_run (server : IpcServer) (handler : IpcHandler) (lines : List WireLine) :
    ∃ xs u tail t final ending, serveNautilusRuntimeIpc server handler lines =
        ((xs ++ tail).flatMap Exchange.events ++ final.map .called, ending) ∧
      Run (Answered server handler) {} xs u ∧ Ends server handler u tail t ending ∧
      Consumed server lines (xs ++ tail) ∧
      (final = [] ∨ ∃ c : HandlerCall, final = [c] ∧ c.operation = .close ∧ t.opened = true) := by
  unfold serveNautilusRuntimeIpc
  by_cases hmax : server.maxRequests < 1
  · rw [if_pos hmax]
    exact ⟨[], {}, [], {}, [], _, rfl, Run.nil, .inl ⟨rfl, rfl⟩, Consumed.nil _, .inl rfl⟩
  rw [if_neg hmax]
  obtain ⟨xs, u, tail, t, ending, heq, hrun, hend, hcons⟩ :=
    serveFrames_run server handler lines {}
  simp only [heq]
  by_cases hopen : t.opened = true
  · rw [if_pos hopen]
    exact ⟨xs, u, tail, t, [⟨.close, [], _⟩], ending, rfl, hrun, hend, hcons,
      .inr ⟨_, rfl, rfl, hopen⟩⟩
  · rw [if_neg hopen]
    exact ⟨xs, u, tail, t, [], ending, by simp, hrun, hend, hcons, .inl rfl⟩

/-- **The protocol of the server**, for every stream of lines and every handler. -/
theorem ipc_protocol (server : IpcServer) (handler : IpcHandler) (lines : List WireLine)
    (hsha : Function.Injective server.sha256) :
    ∃ (xs tail : List (Exchange server.sha256)) (final : List HandlerCall) (ending : IpcEnding),
      serveNautilusRuntimeIpc server handler lines =
        ((xs ++ tail).flatMap Exchange.events ++ final.map .called, ending) ∧
      Consumed server lines (xs ++ tail) ∧ (∀ c ∈ final, c.operation = .close) ∧
      (∀ (pre : List HandlerCall) (c : HandlerCall) (post : List HandlerCall),
        (serveNautilusRuntimeIpc server handler lines).1.filterMap IpcEvent.call? =
          pre ++ c :: post →
        c.operation = .execute → sessionOpen pre = true ∧ awaitsRestore pre = false) ∧
      (∀ (pre : List HandlerCall) (c d : HandlerCall) (post : List HandlerCall),
        (serveNautilusRuntimeIpc server handler lines).1.filterMap IpcEvent.call? =
          pre ++ c :: d :: post →
        c.operation = .execute → c.succeeded = false →
        d.operation = .restore ∨ d.operation = .close) ∧
      (∀ (pre : List (Exchange server.sha256)) (x y : Exchange server.sha256)
        (post : List (Exchange server.sha256)), xs ++ tail = pre ++ x :: y :: post → y.Repeats x →
        y.call = none ∧ ∃ response, x.answer = some response ∧ y.answer = some response) ∧
      (∀ x ∈ xs, ∃ response, x.Answers response) ∧
      (tail = [] ∨ ∃ x, tail = [x] ∧ x.answer = none ∧ StopsAt xs x ending) := by
  obtain ⟨xs, u, tail, t, final, ending, hserve, hrun, hend, hcons, hfinal⟩ :=
    serve_run server handler lines
  have hserving := serving_run hsha hrun
  obtain ⟨htracks, hcalls, htail⟩ := serving_end hserving hend
  have htrace : (serveNautilusRuntimeIpc server handler lines).1.filterMap IpcEvent.call? =
      t.calls ++ final := by
    have hmade : final.filterMap (IpcEvent.call? ∘ @IpcEvent.called server.sha256) =
        final := filterMap_some
    rw [hserve, filterMap_append, hcalls, filterMap_map, hmade]
  have hdisciplined : Disciplined (t.calls ++ final) := by
    rcases hfinal with rfl | ⟨c, rfl, hc, hopen⟩
    · rw [append_nil]
      exact htracks.disciplined
    · refine htracks.disciplined.snoc ⟨⟨fun _ => by rw [hc]; exact nofun, fun _ => ?_⟩,
        fun _ => .inr hc⟩
      rw [← htracks.opened, hopen]
  refine ⟨xs, tail, final, ending, hserve, hcons, ?_, ?_, ?_, ?_, hserving.answered, ?_⟩
  · intro c hc
    rcases hfinal with rfl | ⟨d, rfl, hd, -⟩
    · cases hc
    · rw [mem_singleton.1 hc, hd]
  · intro pre c post heq
    rw [htrace] at heq
    exact hdisciplined.execute heq
  · intro pre c d post heq
    rw [htrace] at heq
    exact hdisciplined.after_failure heq
  · intro pre x y post heq hrep
    rcases htail with rfl | ⟨z, rfl, -, -, hz⟩
    · rw [append_nil] at heq
      obtain ⟨hcall, hanswer⟩ := hserving.retried pre x y post heq hrep
      obtain ⟨response, hx, -⟩ := hserving.answered x (by rw [heq]; simp)
      exact ⟨hcall, response, hx, hanswer.trans hx⟩
    · rcases snoc_eq_append_cons heq with ⟨post', heq'⟩ | ⟨heq', rfl⟩
      · obtain ⟨hcall, hanswer⟩ := hserving.retried pre x y post' heq' hrep
        obtain ⟨response, hx, -⟩ := hserving.answered x (by rw [heq']; simp)
        exact ⟨hcall, response, hx, hanswer.trans hx⟩
      · exact absurd hrep (hz pre x heq')
  · rcases htail with rfl | ⟨z, hz, hanswer, hstop, -⟩
    · exact .inl rfl
    · exact .inr ⟨z, hz, hanswer, hstop⟩

end

/-! ## A request id used twice -/

def sampleRequest (operation : NautilusRuntimeIpcOperation) : NautilusRuntimeIpcFrame plainDigest :=
  textFrame plainDigest operation .request (by decide : ValidRequestId "request-1") "symbol" "AAPL"

def sampleResponse : NautilusRuntimeIpcFrame plainDigest :=
  textFrame plainDigest .open .success (sampleRequest .open).requestId_valid "state" "ready"

def sampleLine (f : NautilusRuntimeIpcFrame plainDigest) : WireLine :=
  ⟨(String.ofList (wireText (fun _ => []) f.wire)).utf8ByteSize + 1, .lf, some f.wire⟩

def sampleFrames : List (NautilusRuntimeIpcFrame plainDigest) :=
  [sampleRequest .open, sampleRequest .execute, sampleResponse]

def sampleLimit : ℕ := (sampleFrames.map fun f => (sampleLine f).bytes).sum

abbrev sampleServer : IpcServer where
  sha256 := plainDigest
  floatRepr _ := []
  maxFrameBytes := sampleLimit
  maxRequests := 2

def sampleHandler : IpcHandler := fun _ _ _ => .ok (.mapping [(.str "state", .str "ready")])

def sampleLines : List WireLine :=
  [sampleLine (sampleRequest .open), sampleLine (sampleRequest .execute)]

variable {f : NautilusRuntimeIpcFrame plainDigest}

theorem le_sampleLimit (h : f ∈ sampleFrames) :
    (sampleLine f).bytes ≤ sampleLimit :=
  single_le_sum (fun _ _ => Nat.zero_le _) _ (mem_map_of_mem h)

theorem one_lt_sampleLimit : 1 < sampleLimit := by
  have hpos : ∀ f, 0 < (sampleLine f).bytes := fun f => by simp [sampleLine]
  have h₁ := hpos (sampleRequest .open)
  have h₂ := hpos sampleResponse
  rw [sampleLimit, sampleFrames, map_cons, sum_cons, map_cons, sum_cons,
    map_singleton, sum_singleton]
  generalize (sampleLine (sampleRequest .open)).bytes = a at *
  generalize (sampleLine sampleResponse).bytes = b at *
  omega

theorem encode_sample (h : f ∈ sampleFrames) :
    encodeFrame sampleServer.floatRepr sampleServer.maxFrameBytes f = .ok (sampleLine f) := by
  unfold encodeFrame
  rw [ensure_of one_lt_sampleLimit, ok_bind]
  exact bind_eq_ok.2 ⟨(), ensure_of (le_sampleLimit h) _, rfl⟩

theorem respond_sample :
    respond sampleServer.sha256 sampleHandler (IpcSession.counted {}) (sampleRequest .open) =
    .ok (sampleResponse, some ⟨.open, [(.str "symbol", .str "AAPL")], true⟩,
      { opened := true, requestCount := 1
        calls := [⟨.open, [(.str "symbol", .str "AAPL")], true⟩] }) := by
  have hperform : perform sampleServer.sha256 sampleHandler (IpcSession.counted {})
      (sampleRequest .open) = .ok sampleResponse := by
    rw [perform_mapping rfl, sampleResponse]
    exact createFrame_texts (sampleRequest .open).requestId_valid "state" "ready"
  unfold respond
  rw [if_neg fun h => h.2 rfl, if_neg fun h => absurd h.1 nofun, if_neg fun h => absurd h.1 nofun]
  simp only [hperform]
  rfl

/-- **A request id used twice**: the second request is consumed and gets no answer. -/
theorem request_id_reused :
    (sampleRequest .execute).requestId = (sampleRequest .open).requestId ∧
      sampleLines.map (readFrame sampleServer.sha256 sampleServer.maxFrameBytes) =
        [.ok (sampleRequest .open), .ok (sampleRequest .execute)] ∧
      serveNautilusRuntimeIpc sampleServer sampleHandler sampleLines =
        ([.received (sampleRequest .open),
          .called ⟨.open, [(.str "symbol", .str "AAPL")], true⟩, .wrote sampleResponse,
          .received (sampleRequest .execute), .called ⟨.close, [], true⟩], .exit 2) := by
  have hread₁ :=
    readFrame_encode (encode_sample (f := sampleRequest .open) (by simp [sampleFrames]))
  have hread₂ :=
    readFrame_encode (encode_sample (f := sampleRequest .execute) (by simp [sampleFrames]))
  have hanswer := encode_sample (f := sampleResponse) (by simp [sampleFrames])
  have hfingerprint : (sampleRequest .execute).fingerprint ≠
      (sampleRequest .open).fingerprint := by
    intro h
    have hoperation : NautilusRuntimeIpcOperation.execute = .open :=
      operation_of_fingerprint plainDigest_injective h
    cases hoperation
  have hcount : ∀ n < 2, n < sampleServer.maxRequests := fun _ h => h
  have hlast : IpcSession.last
      { opened := true
        last := some (sampleRequest .open, sampleResponse)
        requestCount := 1
        calls := [⟨.open, [(.str "symbol", .str "AAPL")], true⟩] } =
    some (sampleRequest .open, sampleResponse) := rfl
  refine ⟨rfl, ?_, ?_⟩
  · rw [sampleLines, map_cons, map_singleton, hread₁, hread₂]
  have hloop : serveFrames sampleServer sampleHandler sampleLines {} =
      ([.received (sampleRequest .open),
        .called ⟨.open, [(.str "symbol", .str "AAPL")], true⟩, .wrote sampleResponse,
        .received (sampleRequest .execute)],
        { opened := true
          last := some (sampleRequest .open, sampleResponse)
          requestCount := 1
          calls := [⟨.open, [(.str "symbol", .str "AAPL")], true⟩] }, .exit 2) := by
    rw [sampleLines,
      serveFrames_fresh (hcount 0 (by decide)) hread₁ rfl rfl respond_sample hanswer nofun,
      serveFrames_reused (hcount 1 (by decide)) hread₂ rfl hlast rfl hfingerprint]
    simp only [Option.toList_some, map_singleton, cons_append, nil_append]
  unfold serveNautilusRuntimeIpc
  rw [if_neg (not_lt.2 (hcount 0 (by decide))), hloop]
  simp only [sampleHandler, Except.isOk, Except.toBool, if_true, cons_append, nil_append]

theorem ipc_protocol_sample : ∃ (xs tail : List (Exchange sampleServer.sha256))
    (final : List HandlerCall) (ending : IpcEnding),
    serveNautilusRuntimeIpc sampleServer sampleHandler sampleLines =
      ((xs ++ tail).flatMap Exchange.events ++ final.map .called, ending) ∧
    Consumed sampleServer sampleLines (xs ++ tail) ∧
    (∀ x ∈ xs, ∃ response, x.Answers response) ∧
    (tail = [] ∨ ∃ x, tail = [x] ∧ x.answer = none ∧ StopsAt xs x ending) := by
  obtain ⟨xs, tail, final, ending, hserve, hconsumed, -, -, -, -, hanswered, htail⟩ :=
    ipc_protocol sampleServer sampleHandler sampleLines plainDigest_injective
  exact ⟨xs, tail, final, ending, hserve, hconsumed, hanswered, htail⟩

end ChartingPlatform
