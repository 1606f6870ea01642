/-
  The server loop of the isolated runtime (`serve_nautilus_runtime_ipc`).

  The handler is any function of the calls it got before, so it may succeed and
  raise as it likes.  The loop writes a trace: the request frames it consumed,
  the operations it performed on the handler, and the frames it wrote.
-/
import ChartingPlatform.Runtime.Frames

namespace ChartingPlatform

open Lib

/-! ## The loop -/

/-- An operation performed on the handler, and whether it succeeded. -/
structure HandlerCall where
  operation : NautilusRuntimeIpcOperation
  payload : List (PyKey × PyValue)
  succeeded : Bool

/-- `NautilusRuntimeIpcOperationHandler`: what a call returns or raises, after earlier calls. -/
abbrev IpcHandler :=
  List HandlerCall → NautilusRuntimeIpcOperation → List (PyKey × PyValue) → Except PyError PyValue

/-- The digest, the float printer of `json`, and the parameters of the loop. -/
structure IpcServer where
  sha256 : String → Digest
  floatRepr : PyFloat → List Char
  maxFrameBytes : ℕ
  maxRequests : ℕ

inductive IpcEvent (sha256 : String → Digest) where
  | received (request : NautilusRuntimeIpcFrame sha256)
  | called (call : HandlerCall)
  | wrote (response : NautilusRuntimeIpcFrame sha256)

/-- How the loop ends: with an exit code or an exception. -/
inductive IpcEnding where
  | exit (code : ℕ)
  | raised (error : PyError)
  deriving DecidableEq

/-- The local variables of the loop, with the calls made so far. -/
structure IpcSession (sha256 : String → Digest) where
  opened : Bool := false
  needsRestore : Bool := false
  last : Option (NautilusRuntimeIpcFrame sha256 × NautilusRuntimeIpcFrame sha256) := none
  requestCount : ℕ := 0
  calls : List HandlerCall := []

/-- `_response`. -/
def errorResponse (sha256 : String → Digest) (request : NautilusRuntimeIpcFrame sha256)
    (code : String) : Except PyError (NautilusRuntimeIpcFrame sha256) :=
  createFrame sha256 request.requestId request.operation .error
    (.mapping [(.str "error_code", .str code)])

/-- The body of the `try` statement: the operation and its success response. -/
def perform (sha256 : String → Digest) (handler : IpcHandler) (s : IpcSession sha256)
    (request : NautilusRuntimeIpcFrame sha256) :
    Except PyError (NautilusRuntimeIpcFrame sha256) := do
  match ← handler s.calls request.operation request.payload with
  | .mapping result =>
    createFrame sha256 request.requestId request.operation .success (.mapping result)
  | _ => .error (typeError "runtime operation result must be a mapping")

def respond (sha256 : String → Digest) (handler : IpcHandler) (s : IpcSession sha256)
    (request : NautilusRuntimeIpcFrame sha256) :
    Except PyError (NautilusRuntimeIpcFrame sha256 × Option HandlerCall × IpcSession sha256) :=
  if s.opened = false ∧ request.operation ≠ .open then do
    let response ← errorResponse sha256 request "session_not_open"
    return (response, none, s)
  else if s.opened = true ∧ request.operation = .open then do
    let response ← errorResponse sha256 request "session_already_open"
    return (response, none, s)
  else if s.needsRestore = true ∧ ¬ (request.operation = .restore ∨ request.operation = .close)
  then do
    let response ← errorResponse sha256 request "restore_required"
    return (response, none, s)
  else
    match perform sha256 handler s request with
    | .ok response =>
      let call : HandlerCall := ⟨request.operation, request.payload, true⟩
      let s := { s with calls := s.calls ++ [call] }
      .ok (response, some call,
        match request.operation with
        | .open => { s with opened := true }
        | .restore => { s with needsRestore := false }
        | .close => { s with opened := false }
        | .execute => s)
    | .error _ => do
      let response ← errorResponse sha256 request "operation_failed"
      let call : HandlerCall := ⟨request.operation, request.payload, false⟩
      let s := { s with calls := s.calls ++ [call] }
      return (response, some call,
        if request.operation = .execute then { s with needsRestore := true } else s)

def serveFrames (server : IpcServer) (handler : IpcHandler) :
    List WireLine → IpcSession server.sha256 →
      List (IpcEvent server.sha256) × IpcSession server.sha256 × IpcEnding
  | [], s => ([], s, if server.maxRequests ≤ s.requestCount then .exit 4 else .exit 0)
  | line :: lines, s =>
    if server.maxRequests ≤ s.requestCount then ([], s, .exit 4)
    else
      match readFrame server.sha256 server.maxFrameBytes line with
      | .error e => ([], s, .raised e)
      | .ok request =>
        if request.status ≠ .request then ([], s, .exit 2)
        else
          match s.last.filter fun last => decide (last.1.requestId = request.requestId) with
          | some (previous, response) =>
            if request.fingerprint ≠ previous.fingerprint then ([.received request], s, .exit 2)
            else
              match encodeFrame server.floatRepr server.maxFrameBytes response with
              | .error e => ([.received request], s, .raised e)
              | .ok _ =>
                let rest := serveFrames server handler lines s
                (.received request :: .wrote response :: rest.1, rest.2)
          | none =>
            match respond server.sha256 handler { s with requestCount := s.requestCount + 1 }
                request with
            | .error e => ([.received request], s, .raised e)
            | .ok (response, call, s) =>
              let s := { s with last := some (request, response) }
              let events := .received request :: call.toList.map .called
              match encodeFrame server.floatRepr server.maxFrameBytes response with
              | .error e => (events, s, .raised e)
              | .ok _ =>
                if request.operation = .close then
                  (events ++ [.wrote response], s,
                    .exit (if response.status = .success then 0 else 3))
                else
                  let rest := serveFrames server handler lines s
                  (events ++ .wrote response :: rest.1, rest.2)

/-- `serve_nautilus_runtime_ipc`: the trace, with the close of the `finally` clause, and how it
    ends. -/
def serveNautilusRuntimeIpc (server : IpcServer) (handler : IpcHandler) (lines : List WireLine) :
    List (IpcEvent server.sha256) × IpcEnding :=
  if server.maxRequests < 1 then
    ([], .raised (valueError "max_requests must be a positive integer"))
  else
    let (events, s, ending) := serveFrames server handler lines {}
    if s.opened then
      (events ++ [.called ⟨.close, [], (handler s.calls .close []).isOk⟩], ending)
    else (events, ending)

end ChartingPlatform
