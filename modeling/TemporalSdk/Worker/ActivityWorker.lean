import TemporalSdk.Dict
import TemporalSdk.Transition
import TemporalSdk.Worker.PyError

/-!
# The activity worker

`_ActivityWorker`: each started activity has a `_run_activity` task, which calls
the activity and sends its completion, and `_heartbeat_async` tasks, one for each
heartbeat, which drain a queue. Cancelling an activity is `task.cancel()` on the
`_run_activity` task. Tasks run without interruption from one `await` to the
next; a step of the worker is one such stretch of one task, a polled task or a
call of `heartbeat`.

A cancelled task gets a `CancelledError` at the `await` it is suspended in. What
comes of it is up to what it awaits there, so it is one of the answers of that
call. Details `V`, payloads `P` and task tokens `T` are arbitrary types.
-/
namespace TemporalSdk.ActivityWorker

open Worker (PyError ErrorKind)

/-! ### Messages -/

/-- A heartbeat: the number of the call among those of its activity, and its
    details. -/
structure Heartbeat (V : Type) where
  call : Nat
  details : List V

structure Start where
  activityType : String
  workflowId : String
  /-- Whether there are arguments, and details of an earlier heartbeat. -/
  hasInput : Bool
  hasHeartbeatDetails : Bool

inductive FailureProto where
  /-- What `encode_failure` made of an exception. -/
  | encoded (error : PyError)
  | message (text : String)

inductive Result (P : Type) where
  | completed (result : P)
  | failed (failure : FailureProto)
  | cancelled (failure : FailureProto)
  | willCompleteAsync

structure Completion (T P : Type) where
  taskToken : T
  result : Result P

/-- A call of the bridge worker. -/
inductive BridgeCall (T V P : Type) where
  | recordActivityHeartbeat (taskToken : T) (heartbeat : Heartbeat V)
  | completeActivityTask (completion : Completion T P)

/-! ### Running activities -/

structure ActivityDef where
  isAsync : Bool

structure Config where
  activities : List (String × ActivityDef)
  dynamicActivity : Option ActivityDef

/-- How an exception is being turned into a result, in the order of the branches. -/
inductive Handling where
  | heartbeatError
  | cancelled
  | failed
  deriving DecidableEq

/-- Where a `_run_activity` task is suspended. -/
inductive Phase (P : Type) where
  /-- Created, not started. -/
  | scheduled
  | decodingArguments
  | decodingHeartbeatDetails
  /-- In `execute_activity`. -/
  | executing
  | encodingResult
  /-- In `encode_failure`, in the handler of an exception. -/
  | encodingFailure (error : PyError) (handling : Handling)
  /-- Waiting for the last heartbeat task. -/
  | awaitingHeartbeat (result : Result P)
  /-- In `complete_activity_task`, which has been called. -/
  | completing
  /-- Done, with the exception that ended the task. -/
  | finished (error : Option PyError)

/-- Where a `_heartbeat_async` task is. -/
inductive HeartbeatTask (V : Type) where
  | scheduled
  /-- Suspended in `encode`. -/
  | encoding (heartbeat : Heartbeat V)
  | finished

/-- `_RunningActivity`, with its tasks. -/
structure Activity (T V P : Type) where
  taskToken : T
  start : Start
  phase : Phase P := .scheduled
  pendingHeartbeats : List (Heartbeat V) := []
  heartbeatTasks : List (HeartbeatTask V) := []
  /-- The index of the heartbeat task created last. -/
  lastHeartbeatTask : Option Nat := none
  sync : Bool := false
  done : Bool := false
  cancelledByRequest : Bool := false
  cancelledDueToHeartbeatError : Option PyError := none
  /-- Whether the event is set, once there is one. -/
  cancelledEvent : Option Bool := none
  /-- A `CancelledError` is on its way to where the task is suspended. -/
  cancelling : Bool := false
  /-- The calls of `heartbeat` so far, while the activity was not done. -/
  heartbeatCalls : List (Heartbeat V) := []
  /-- The heartbeats whose encoding failed. -/
  unencoded : List (Heartbeat V) := []
  /-- The calls of the bridge worker for this activity. -/
  calls : List (BridgeCall T V P) := []

/-- What the calls made in a step of `_run_activity` answer. -/
structure Answers (P : Type) where
  /-- The creation of the events. -/
  setUp : Except PyError Unit
  decode : Except PyError Unit
  /-- The construction of the interceptors and their `init`. -/
  prepare : Except PyError Unit
  executeActivity : Except PyError Unit
  encodeResult : Except PyError P
  encodeFailure : Except PyError Unit
  completeActivityTask : Except PyError Unit

structure HeartbeatAnswers where
  encode : Except PyError Unit
  recordActivityHeartbeat : Except PyError Unit

/-- Where in the completion the failure goes. -/
def Handling.result {P : Type} : Handling → FailureProto → Result P
  | .cancelled, failure => .cancelled failure
  | _, failure => .failed failure

/-- The exception that is converted to a failure. -/
def Handling.converted (error : PyError) : Handling → PyError
  | .cancelled => { isException := true, text := some "Cancelled", kind := .cancelled }
  | _ => error

namespace Activity

variable {T V P : Type} (cfg : Config) (answers : Answers P) (a : Activity T V P)

/-- `_RunningActivity.cancel`. For a sync activity the exception is raised in its
    thread, if at all, and shows in the answer of `execute_activity`. -/
def cancel (byRequest : Bool) (heartbeatError : Option PyError) : Activity T V P :=
  -- If not sync and there's a task, cancel it
  { a with
    cancelledByRequest := byRequest
    cancelledDueToHeartbeatError := heartbeatError
    cancelledEvent := a.cancelledEvent.map fun _ => true
    cancelling := a.cancelling || (!a.done && !a.sync) }

/-! #### The completion -/

/-- The call of `complete_activity_task`. -/
def complete (result : Result P) : Activity T V P :=
  { a with
    calls := a.calls ++ [.completeActivityTask ⟨a.taskToken, result⟩]
    phase := .completing }

/-- Whether awaiting the last heartbeat task suspends. -/
def heartbeatRunning : Bool :=
  match a.lastHeartbeatTask.bind fun k => a.heartbeatTasks[k]? with
  | some .scheduled | some (.encoding _) => true
  | some .finished | none => false

/-- "Do final completion", up to the next `await`. -/
def finalize (result : Result P) : Activity T V P :=
  -- We mark the activity as done and let the currently running heartbeat
  -- task finish
  if a.heartbeatRunning then { a with done := true, phase := .awaitingHeartbeat result }
  else { a with done := true }.complete result

/-! #### The handler of exceptions -/

/-- From `except BaseException` to the next `await`. -/
def handleError (error : PyError) : Activity T V P :=
  match error.kind, a.cancelledDueToHeartbeatError, a.cancelledByRequest with
  | .completeAsync, _, _ => a.finalize .willCompleteAsync
  | .cancelled, some heartbeatError, _ =>
    -- The text goes into the log, and a second time if that raises.
    match heartbeatError.text with
    | some _ => { a with phase := .encodingFailure heartbeatError .heartbeatError }
    | none => { a with phase := .finished (some .unprintable) }
  | .cancelled, none, true => { a with phase := .encodingFailure error .cancelled }
  | _, _, _ => { a with phase := .encodingFailure error .failed }

/-- After `encode_failure`: the inner `except` catches `Exception`s and formats
    both exceptions. -/
def failureEncoded (error : PyError) (handling : Handling) : Activity T V P :=
  match answers.encodeFailure with
  | .ok () => a.finalize (handling.result (.encoded (handling.converted error)))
  | .error inner =>
    if inner.isException then
      match error.text, inner.text with
      | some _, some text =>
        a.finalize (.failed (.message ("Failed building exception result: " ++ text)))
      | _, _ => { a with phase := .finished (some .unprintable) }
    else { a with phase := .finished (some inner) }

/-! #### The body -/

def notRegistered : PyError :=
  let activityNames := ", ".intercalate ((cfg.activities.map Prod.fst).mergeSort fun x y => x ≤ y)
  { isException := true
    text := some (s!"Activity function {a.start.activityType} for workflow " ++
      s!"{a.start.workflowId} is not registered on this worker, " ++
      s!"available activities: {activityNames}") }

/-- `raise ApplicationError(message) from err`, of an `Exception`. -/
def wrapped (message : String) (error : PyError) : PyError :=
  if error.isException then { isException := true, text := some message } else error

/-- From the building of the info to `execute_activity`. -/
def execute : Activity T V P :=
  match answers.prepare with
  | .ok () => { a with phase := .executing }
  | .error error => a.handleError error

def decodeHeartbeatDetails : Activity T V P :=
  if a.start.hasHeartbeatDetails then { a with phase := .decodingHeartbeatDetails }
  else a.execute answers

/-- From the lookup of the activity to the first `await`. -/
def begin : Activity T V P :=
  -- Find activity or fail
  match (cfg.activities.lookup a.start.activityType).or cfg.dynamicActivity with
  | none => a.handleError (a.notRegistered cfg)
  | some activityDef =>
    let a := { a with sync := !activityDef.isAsync }
    match answers.setUp with
    | .error error => a.handleError error
    | .ok () =>
      let a := { a with cancelledEvent := some false }
      if a.start.hasInput then { a with phase := .decodingArguments }
      else a.decodeHeartbeatDetails answers

/-- The task runs on to its next `await`. -/
def resume : Activity T V P :=
  let a := { a with cancelling := false }
  match a.phase with
  | .scheduled => a.begin cfg answers
  | .decodingArguments =>
    match answers.decode with
    | .ok () => a.decodeHeartbeatDetails answers
    | .error error => a.handleError (wrapped "Failed decoding arguments" error)
  | .decodingHeartbeatDetails =>
    match answers.decode with
    | .ok () => a.execute answers
    | .error error => a.handleError (wrapped "Failed decoding heartbeat details" error)
  | .executing =>
    match answers.executeActivity with
    | .ok () => { a with phase := .encodingResult }
    | .error error => a.handleError error
  | .encodingResult =>
    match answers.encodeResult with
    | .ok payload => a.finalize (.completed payload)
    | .error error => a.handleError error
  | .encodingFailure error handling => a.failureEncoded answers error handling
  -- However the heartbeat task ended
  | .awaitingHeartbeat result => a.complete result
  | .completing =>
    match answers.completeActivityTask with
    | .ok () => { a with phase := .finished none }
    | .error error => { a with phase := .finished (if error.isException then none else some error) }
  | .finished _ => a

/-! #### Heartbeats -/

/-- The size of the queue. -/
def maxPendingHeartbeats : Nat := 1000

/-- `_heartbeat`. With a full queue the call raises. -/
def heartbeat (details : List V) : Activity T V P :=
  -- If the activity is done, we do not schedule any more
  if a.done then a
  else
    let heartbeat := ⟨a.heartbeatCalls.length, details⟩
    let a := { a with heartbeatCalls := a.heartbeatCalls ++ [heartbeat] }
    if a.pendingHeartbeats.length < maxPendingHeartbeats then
      { a with
        pendingHeartbeats := a.pendingHeartbeats ++ [heartbeat]
        heartbeatTasks := a.heartbeatTasks ++ [.scheduled]
        lastHeartbeatTask := some a.heartbeatTasks.length }
    else a

variable (k : Nat) (heartbeatAnswers : HeartbeatAnswers)

def setHeartbeatTask (task : HeartbeatTask V) : Activity T V P :=
  { a with heartbeatTasks := a.heartbeatTasks.set k task }

/-- The handler of exceptions in `_heartbeat_async`. -/
def heartbeatFailed (error : PyError) : Activity T V P :=
  let a := a.setHeartbeatTask k .finished
  -- If the activity is done, nothing we can do but log
  if error.isException && !a.done then a.cancel false (some error) else a

def record (heartbeat : Heartbeat V) : Activity T V P :=
  let call := BridgeCall.recordActivityHeartbeat a.taskToken heartbeat
  let a := { a with calls := a.calls ++ [call] }
  match heartbeatAnswers.recordActivityHeartbeat with
  | .ok () => a.setHeartbeatTask k .finished
  | .error error => a.heartbeatFailed k error

/-- A heartbeat task runs on: it takes the last heartbeat of the queue, encodes
    its details if there are any, and records it. -/
def resumeHeartbeat : Option (Activity T V P) :=
  match a.heartbeatTasks[k]? with
  | some .scheduled =>
    match a.pendingHeartbeats.getLast? with
    | none => some (a.setHeartbeatTask k .finished)
    | some heartbeat =>
      -- Drain the queue, only taking the last value to actually heartbeat
      let a := { a with pendingHeartbeats := [] }
      if heartbeat.details.isEmpty then some (a.record k heartbeatAnswers heartbeat)
      else some (a.setHeartbeatTask k (.encoding heartbeat))
  | some (.encoding heartbeat) =>
    match heartbeatAnswers.encode with
    | .ok () => some (a.record k heartbeatAnswers heartbeat)
    | .error error =>
      some ({ a with unencoded := a.unencoded ++ [heartbeat] }.heartbeatFailed k error)
  | some .finished | none => none

end Activity

/-! ### The worker -/

structure State (T V P : Type) where
  /-- The activities in the order in which they were started. -/
  activities : List (Activity T V P)
  /-- By task token, the index of the activity. -/
  runningActivities : Dict T Nat
  failWorkerExceptionQueue : List PyError

/-- A worker that has just started. -/
def State.initial (T V P : Type) : State T V P := ⟨[], ⟨[], List.nodup_nil⟩, []⟩

inductive Action (T V P : Type) where
  /-- A start task is polled. -/
  | start (taskToken : T) (start : Start)
  /-- A cancel task is polled. -/
  | cancel (taskToken : T)
  /-- The `_run_activity` task of an activity runs on. -/
  | resume (i : Nat) (answers : Answers P)
  /-- Activity code calls `heartbeat`. -/
  | heartbeat (taskToken : T) (details : List V)
  /-- A `_heartbeat_async` task of an activity runs on. -/
  | resumeHeartbeat (i k : Nat) (answers : HeartbeatAnswers)

namespace State

variable {T V P : Type} [DecidableEq T] (cfg : Config) (s : State T V P)

/-- Every `_run_activity` task has taken its first step. It is scheduled before
    the next poll is made, so this is so whenever a task is polled. -/
def settled : Bool :=
  s.activities.all fun a => match a.phase with
    | .scheduled => false
    | _ => true

def setActivity (i : Nat) (a : Activity T V P) : State T V P :=
  { s with activities := s.activities.set i a }

/-- The activity a token belongs to, as long as it is running. -/
def running? (taskToken : T) : Option (Nat × Activity T V P) := do
  let i ← s.runningActivities.get? taskToken
  let a ← s.activities[i]?
  return (i, a)

/-- For broken executors the entire worker fails. -/
def brokenExecutor (a : Activity T V P) (answers : Answers P) : List PyError :=
  match a.phase, answers.encodeFailure with
  | .encodingFailure error .failed, .ok () => if error.kind = .brokenExecutor then [error] else []
  | _, _ => []

/-- The token goes when the completion has been sent. -/
def removes (a : Activity T V P) (answers : Answers P) : Bool :=
  match a.phase, answers.completeActivityTask with
  | .completing, .ok () => true
  | _, _ => false

/-- Whether the awaited call can have returned: a heartbeat task has to end
    first, other calls may return at any time. -/
def resumable (a : Activity T V P) : Bool :=
  match a.phase with
  | .finished _ => false
  | .awaitingHeartbeat _ => !a.heartbeatRunning
  | _ => true

/-- The `_run_activity` task of an activity has run on. -/
def afterResume (i : Nat) (a : Activity T V P) (answers : Answers P) : State T V P where
  activities := s.activities.set i (a.resume cfg answers)
  runningActivities :=
    if removes a answers then s.runningActivities.erase a.taskToken else s.runningActivities
  failWorkerExceptionQueue := s.failWorkerExceptionQueue ++ brokenExecutor a answers

def step : Action T V P → Option (State T V P)
  | .start taskToken start =>
    -- Tokens are not used twice.
    if s.settled ∧ ∀ a ∈ s.activities, a.taskToken ≠ taskToken then
      some { s with
        activities := s.activities ++ [{ taskToken := taskToken, start := start }]
        runningActivities := s.runningActivities.set taskToken s.activities.length }
    else none
  | .cancel taskToken =>
    if s.settled then
      match s.running? taskToken with
      | some (i, a) => some (s.setActivity i (a.cancel true none))
      -- Only a warning
      | none => some s
    else none
  | .resume i answers =>
    match s.activities[i]? with
    | some a => if resumable a then some (s.afterResume cfg i a answers) else none
    | none => none
  | .heartbeat taskToken details =>
    match s.running? taskToken with
    | some (i, a) => some (s.setActivity i (a.heartbeat details))
    | none => some s
  | .resumeHeartbeat i k answers =>
    match s.activities[i]? with
    | some a => (a.resumeHeartbeat k answers).map (s.setActivity i)
    | none => none

end State

end TemporalSdk.ActivityWorker
