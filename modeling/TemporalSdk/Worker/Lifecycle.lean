import TemporalSdk.Worker.ActivityWorker
import TemporalSdk.Worker.WorkflowWorker

/-!
# The life of a worker

`Worker.run` with the poll loops of its activity worker and of its workflow
worker, each of which is a task, and `Worker.shutdown`. A poll loop that failed
is replaced by `drain_poll_queue` once the shutdown has begun.

A step is a stretch of one task between two awaits. What core and workflow or
activity code answer is up to the step. `run` may be called more than once; only
one call gets past the check for `_started`, and the phase is that of this call.
-/
namespace TemporalSdk.Lifecycle

open Worker (PyError)

/-- `asyncio.CancelledError`, which is no `Exception`. -/
def cancelledError : PyError := { isException := false, text := some "", kind := .cancelled }

/-- A task, as `asyncio.wait` sees it. -/
inductive Task where
  | running
  | done (error : Option PyError)
  deriving DecidableEq

def Task.isDone : Task → Bool
  | .running => false
  | .done _ => true

/-- What its coroutine has raised. -/
def Task.error : Task → Option PyError
  | .running => none
  | .done error => error

/-- `t.cancelled()`: a task whose coroutine raises `asyncio.CancelledError` is cancelled,
    which is not a failure. -/
def Task.isCancelled : Task → Bool
  | .done (some error) => !error.isException && error.kind == .cancelled
  | _ => false

/-- What `asyncio.wait` takes for an exception, with `FIRST_EXCEPTION`. -/
def Task.failed (task : Task) : Bool := task.error.isSome && !task.isCancelled

/-- `t.done() and t.exception()`, which raises for a task that has been cancelled. -/
def Task.exception (task : Task) : Except PyError (Option PyError) :=
  if task.isCancelled then .error cancelledError else .ok task.error

/-- `if t.done() and t.exception(): t = create_task(drain_poll_queue())`, of a part with the
    task `t`: a poll loop that has failed is replaced with a queue drain. -/
def replaceFailed {A : Type} (task : A → Task) (drained : A → A) (part : A) : Except PyError A :=
  match (task part).exception with
  | .ok (some _) => .ok (drained part)
  | .ok none => .ok part
  | .error e => .error e

/-- `raise RuntimeError(message) from err`, of an `Exception`. -/
def workerFailed (message : String) (error : PyError) : PyError :=
  if error.isException then { isException := true, text := some message } else error

/-! ### Draining a queue -/

/-- Where `drain_poll_queue` is. -/
inductive Drain where
  | polling
  /-- In the call that completes a polled task as failed. -/
  | completing
  | ended (error : Option PyError)
  deriving DecidableEq

def Drain.task : Drain → Task
  | .ended error => .done error
  | _ => .running

/-- `K` is what a completion is for, a task token or a run id. -/
inductive DrainAction (K : Type) where
  | polled (key : K)
  | completed
  /-- `PollShutdownError`. -/
  | pollShutdown
  /-- A call of the bridge worker raises anything else. -/
  | raised (error : PyError)

/-- A step of `drain_poll_queue`, with the tasks it has completed as failed. -/
def Drain.step {K : Type} (drain : Drain) (rejected : List K) :
    DrainAction K → Option (Drain × List K)
  | .polled key =>
    match drain with
    -- Just take all tasks and say we can't handle them
    | .polling => some (.completing, rejected ++ [key])
    | _ => none
  | .completed =>
    match drain with
    | .completing => some (.polling, rejected)
    | _ => none
  | .pollShutdown =>
    match drain with
    | .polling => some (.ended none, rejected)
    | _ => none
  | .raised error =>
    match drain with
    | .ended _ => none
    | _ => some (.ended (some error), rejected)

/-! ### The activity worker -/

/-- Where `_ActivityWorker.run` is. -/
inductive Poller where
  | polling
  | ended (error : Option PyError)
  deriving DecidableEq

structure ActivityPart (T V P : Type) where
  worker : ActivityWorker.State T V P
  poller : Poller := .polling
  drain : Option Drain := none
  rejected : List T := []

inductive ActivityAction (T V P : Type) where
  /-- A task is polled, or a task of an activity runs on. -/
  | work (action : ActivityWorker.Action T V P)
  /-- `PollShutdownError`. -/
  | pollShutdown
  | pollRaised (error : PyError)
  /-- `raise_from_queue` has raised. -/
  | failed
  | drain (action : DrainAction T)

namespace ActivityPart

variable {T V P : Type}

def task (part : ActivityPart T V P) : Task :=
  match part.drain, part.poller with
  | some drain, _ => drain.task
  | none, .polling => .running
  | none, .ended error => .done error

/-- Whether the step is one of the poll loop. -/
def polls : ActivityWorker.Action T V P → Bool
  | .start _ _ | .cancel _ => true
  | _ => false

variable [DecidableEq T] (cfg : ActivityWorker.Config) (part : ActivityPart T V P)

def step : ActivityAction T V P → Option (ActivityPart T V P)
  | .work action =>
    if polls action && part.poller != .polling then none
    else (part.worker.step cfg action).map fun worker => { part with worker := worker }
  | .pollShutdown =>
    match part.poller with
    | .polling => some { part with poller := .ended none }
    | .ended _ => none
  | .pollRaised error =>
    match part.poller with
    | .polling =>
      some { part with poller := .ended (some (workerFailed "Activity worker failed" error)) }
    | .ended _ => none
  | .failed =>
    match part.poller, part.worker.failWorkerExceptionQueue with
    -- the poll is cancelled, and the exception of the queue is raised
    | .polling, error :: _ =>
      some { part with poller := .ended (some (workerFailed "Activity worker failed" error)) }
    | _, _ => none
  | .drain action =>
    match part.drain with
    | some drain => (drain.step part.rejected action).map fun next =>
        { part with drain := some next.1, rejected := next.2 }
    | none => none

def replace : Except PyError (ActivityPart T V P) :=
  replaceFailed task (fun part => { part with drain := some .polling }) part

/-- The `_run_activity` tasks that `wait_all_completed` gathers. -/
def runningTasks : List Nat := part.worker.runningActivities.values

end ActivityPart

/-! ### The workflow worker -/

structure WorkflowPart (R W C : Type) where
  worker : Worker.State R W C
  drain : Option Drain := none
  rejected : List R := []

inductive WorkflowAction (R W C : Type) where
  | work (action : Worker.Action R W C)
  | drain (action : DrainAction R)

namespace WorkflowPart

variable {R W C : Type}

def task (part : WorkflowPart R W C) : Task :=
  match part.drain, part.worker.poller with
  | some drain, _ => drain.task
  | none, .ended error => .done error
  | none, _ => .running

variable [DecidableEq R] (cfg : Worker.Config) (part : WorkflowPart R W C)

def step : WorkflowAction R W C → Option (WorkflowPart R W C)
  | .work action =>
    (part.worker.step cfg action).map fun worker => { part with worker := worker }
  | .drain action =>
    match part.drain with
    | some drain => (drain.step part.rejected action).map fun next =>
        { part with drain := some next.1, rejected := next.2 }
    | none => none

def replace : Except PyError (WorkflowPart R W C) :=
  replaceFailed task (fun part => { part with drain := some .polling }) part

end WorkflowPart

/-! ### The worker -/

/-- Where `run` is, with the exception it will raise at its end. -/
inductive Phase where
  /-- Not started. -/
  | idle
  /-- Waiting for a worker to fail or for the shutdown to be requested. -/
  | waiting
  /-- In `on_fatal_error`. -/
  | handlingFatal (exception : PyError)
  /-- Waiting for the poll loops to stop. -/
  | stopping (exception : Option PyError)
  /-- In `wait_all_completed`, with the gathered tasks, and whether the
      gathering has been cancelled. -/
  | completing (exception : Option PyError) (tasks : List Nat) (cancelled : Bool)
  /-- In `finalize_shutdown`. -/
  | finalizing (exception : Option PyError)
  | ended (exception : Option PyError)

structure Config where
  activities : ActivityWorker.Config
  workflows : Worker.Config
  /-- Whether there is an `on_fatal_error`. -/
  onFatalError : Bool

structure State (T V P R W C : Type) where
  started : Bool := false
  /-- `_shutdown_event` and `_shutdown_complete_event`. -/
  shutdownEvent : Bool := false
  shutdownComplete : Bool := false
  /-- `raise_on_shutdown` has raised. -/
  shutdownRaised : Bool := false
  phase : Phase := .idle
  activity : Option (ActivityPart T V P)
  workflow : Option (WorkflowPart R W C)
  /-- `initiate_shutdown` and `finalize_shutdown` of the bridge worker have been called. -/
  initiated : Bool := false
  finalized : Bool := false

inductive Action (T V P R W C : Type) where
  /-- The validation in a call of `run` has ended. -/
  | run (validated : Except PyError Unit)
  /-- `run` goes on. -/
  | resume
  /-- The gathering in `run` raises what its `i`th task has raised. -/
  | gatherRaised (i : Nat)
  /-- The task of `run` is cancelled. -/
  | cancel
  /-- `shutdown` is called. -/
  | shutdown
  /-- `raise_on_shutdown` goes on. -/
  | raiseOnShutdown
  | activity (action : ActivityAction T V P)
  | workflow (action : WorkflowAction R W C)

namespace State

variable {T V P R W C : Type} (cfg : Config) (s : State T V P R W C)

/-- `tasks[1:]`. -/
def workerTasks : List Task :=
  (s.activity.map ActivityPart.task).toList ++ (s.workflow.map WorkflowPart.task).toList

/-- `next((t.exception() for t in tasks[1:] if t.done()), None)`. -/
def firstException : Except PyError (Option PyError) :=
  match s.workerTasks.find? Task.isDone with
  | some task => task.exception
  | none => .ok none

/-- A part that may be missing is replaced. -/
def replacePart {A : Type} (replace : A → Except PyError A) : Option A → Except PyError (Option A)
  | some part =>
    match replace part with
    | .ok part => .ok (some part)
    | .error e => .error e
  | none => .ok none

/-- From "Cancel the shutdown task" to the wait for the poll loops. `run` ends where it
    asks a poll loop for its exception that has been cancelled. -/
def beginShutdown (exception : Option PyError) : State T V P R W C :=
  -- Initiate core worker shutdown
  let s := { s with initiated := true }
  match replacePart ActivityPart.replace s.activity with
  | .error e => { s with phase := .ended (some e) }
  | .ok activity =>
    let s := { s with activity := activity }
    match replacePart WorkflowPart.replace s.workflow with
    | .error e => { s with phase := .ended (some e) }
    | .ok workflow => { s with workflow := workflow, phase := .stopping exception }

/-- The call of `finalize_shutdown`. -/
def finalize (exception : Option PyError) : State T V P R W C :=
  { s with finalized := true, phase := .finalizing exception }

/-- Mark as shutdown complete and re-raise the exception if present. An exception is true as
    a condition, here as in the other tests of `run`. -/
def complete (exception : Option PyError) : State T V P R W C :=
  { s with shutdownComplete := true, phase := .ended exception }

/-- How the `_run_activity` task of an activity has ended, if it has. -/
def activityTask (i : Nat) : Task :=
  match s.activity.bind fun part => part.worker.activities[i]? with
  | some a =>
    match a.phase with
    | .finished error => .done error
    | _ => .running
  | none => .running

/-- `task.cancel()` on the `_run_activity` task of an activity. -/
def cancelActivity (i : Nat) (part : ActivityPart T V P) : ActivityPart T V P :=
  { part with worker := { part.worker with
      activities := part.worker.activities.modify i fun a => { a with cancelling := true } } }

/-- The poll loops have stopped: the tasks of activities are gathered, if there are any. -/
def stopped (exception : Option PyError) : State T V P R W C :=
  match (s.activity.map ActivityPart.runningTasks).getD [] with
  | [] => s.finalize exception
  | tasks => { s with phase := .completing exception tasks false }

/-- `run` goes on. -/
def resumeRun : Option (State T V P R W C) :=
  match s.phase with
  | .waiting =>
    -- Wait for either worker or shutdown requested
    if s.shutdownRaised || s.workerTasks.any Task.failed then
      match s.firstException with
      | .ok (some exception) =>
        if cfg.onFatalError then some { s with phase := .handlingFatal exception }
        else some (s.beginShutdown (some exception))
      | .ok none => some (s.beginShutdown none)
      -- Caught as if the user had called cancel
      | .error cancelled => some (s.beginShutdown (some cancelled))
    else none
  -- However the handler ended
  | .handlingFatal exception => some (s.beginShutdown (some exception))
  | .stopping exception => if s.workerTasks.all Task.isDone then some (s.stopped exception) else none
  | .completing exception tasks cancelled =>
    if tasks.all fun i => s.activityTask i == .done none then
      if cancelled then some { s with phase := .ended (some cancelledError) }
      else some (s.finalize exception)
    else none
  -- Errors of the final shutdown are ignored
  | .finalizing exception => some (s.complete exception)
  | .idle | .ended _ => none

/-- The task of `run` is cancelled. -/
def cancelRun : Option (State T V P R W C) :=
  match s.phase with
  -- Represents user literally calling cancel
  | .waiting => some (s.beginShutdown (some cancelledError))
  -- Caught like any failure of the handler
  | .handlingFatal exception => some (s.beginShutdown (some exception))
  | .stopping _ => some { s with phase := .ended (some cancelledError) }
  | .completing exception tasks _ => some { s with
      activity := s.activity.map fun part => tasks.foldl (fun part i => cancelActivity i part) part
      phase := .completing exception tasks true }
  | .finalizing exception => some (s.complete exception)
  | .idle | .ended _ => none

/-- The `i`th gathered task has raised. -/
def gatherRaised (i : Nat) : Option (State T V P R W C) :=
  match s.phase with
  | .completing _ tasks _ =>
    match tasks[i]?.bind fun task => (s.activityTask task).error with
    | some error => some { s with phase := .ended (some error) }
    | none => none
  | _ => none

end State

/-- The tasks of the workers exist once `run` has started. -/
def State.step {T V P R W C : Type} [DecidableEq T] [DecidableEq R] (cfg : Config)
    (s : State T V P R W C) : Action T V P R W C → Option (State T V P R W C)
  | .run (.error _) => some s
  | .run (.ok ()) =>
    -- "Already started"
    if s.started then some s
    else some { s with started := true, phase := .waiting }
  | .resume => s.resumeRun cfg
  | .gatherRaised i => s.gatherRaised i
  | .cancel => s.cancelRun
  | .shutdown => some { s with shutdownEvent := true }
  | .raiseOnShutdown =>
    match s.phase with
    | .waiting | .handlingFatal _ =>
      if s.shutdownEvent then some { s with shutdownRaised := true } else none
    -- cancelled
    | _ => none
  | .activity action =>
    if s.started then
      match s.activity with
      | some part =>
        (part.step cfg.activities action).map fun part => { s with activity := some part }
      | none => none
    else none
  | .workflow action =>
    if s.started then
      match s.workflow with
      | some part =>
        (part.step cfg.workflows action).map fun part => { s with workflow := some part }
      | none => none
    else none

/-- A worker that has been made: at least one of its parts is there. -/
def State.initial (T V P R W C : Type) (activity workflow : Bool) : State T V P R W C where
  activity := if activity then some { worker := .initial T V P } else none
  workflow := if workflow then some { worker := .initial R W C } else none

end TemporalSdk.Lifecycle
