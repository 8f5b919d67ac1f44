import TemporalSdk.Worker.ActivitySteps

/-!
# The worker shutdown event

What `is_worker_shutdown` reads. The worker has one composite event, created by
the first activity. Its thread event is replaced by a manager event for the first
synchronous activity if the executor is not a thread pool. An asynchronous
activity, and whatever runs in the event loop, asks the composite event; the
function of a synchronous activity asks the thread event that was passed to
`_execute_sync_activity`.
-/
namespace TemporalSdk.ActivityWorker

/-- `_CompositeEvent`. Thread events are given by their number. -/
structure CompositeEvent where
  threadEvent : Nat
  /-- Whether the async event is set. -/
  asyncEvent : Bool

structure EventConfig extends Config where
  /-- Whether the activity executor is a `ThreadPoolExecutor`. -/
  threadPool : Bool

structure WorkerEvents (T V P : Type) where
  worker : State T V P
  /-- The thread events made for the shutdown so far, and whether they are set. -/
  threadEvents : List Bool
  workerShutdownEvent : Option CompositeEvent
  seenSyncActivity : Bool
  /-- The thread event that the function of an activity was submitted with. -/
  submitted : Nat → Option Nat
  /-- Whether `notify_shutdown` has been called. -/
  notified : Bool

inductive EventAction (T V P : Type) where
  /-- The event loop. -/
  | worker (action : Action T V P)
  /-- `run_in_executor`, which an interceptor may put off. -/
  | submit (i : Nat)
  | notifyShutdown

namespace WorkerEvents

variable {T V P : Type} [DecidableEq T] (cfg : EventConfig) (s : WorkerEvents T V P)

/-- A worker that has just started. -/
def initial (T V P : Type) : WorkerEvents T V P where
  worker := State.initial T V P
  threadEvents := []
  workerShutdownEvent := none
  seenSyncActivity := false
  submitted := fun _ => none
  notified := false

/-- `threading.Event.is_set`. -/
def isSet (threadEvent : Nat) : Bool :=
  s.threadEvents.getD threadEvent false

/-- `is_worker_shutdown` in the event loop. -/
def isWorkerShutdown : Bool :=
  s.workerShutdownEvent.any fun event => s.isSet event.threadEvent

/-- `is_worker_shutdown` in the function of a synchronous activity. -/
def isWorkerShutdownSync (i : Nat) : Bool :=
  (s.submitted i).any s.isSet

/-! ### Setting up the events of an activity -/

/-- The definition of the activity whose task takes its first step. -/
def settingUp : Action T V P → Option (ActivityDef × Answers P)
  | .resume i answers => do
    let a ← s.worker.activities[i]?
    match a.phase with
    | .scheduled =>
      let activityDef ← (cfg.activities.lookup a.start.activityType).or cfg.dynamicActivity
      return (activityDef, answers)
    | _ => none
  | _ => none

/-- "Create the worker shutdown event if not created". -/
def createEvent : WorkerEvents T V P :=
  match s.workerShutdownEvent with
  | some _ => s
  | none =>
    { s with
      threadEvents := s.threadEvents ++ [false]
      workerShutdownEvent := some ⟨s.threadEvents.length, false⟩ }

/-- The thread event of the shutdown event becomes a manager event. -/
def replaceThreadEvent : WorkerEvents T V P :=
  { s with
    threadEvents := s.threadEvents ++ [false]
    workerShutdownEvent := s.workerShutdownEvent.map fun event =>
      { event with threadEvent := s.threadEvents.length } }

/-- Whether the set-up replaces the thread event. -/
def replaces (activityDef : ActivityDef) : Bool :=
  !activityDef.isAsync && !cfg.threadPool && !s.seenSyncActivity

def setUpEvents (activityDef : ActivityDef) (answers : Answers P) : WorkerEvents T V P :=
  let s := s.createEvent
  match answers.setUp with
  | .error _ => s
  | .ok () =>
    if activityDef.isAsync then s
    else
      let s := if s.replaces cfg activityDef then s.replaceThreadEvent else s
      { s with seenSyncActivity := true }

/-- What an action of the event loop does to the events. -/
def afterAction (action : Action T V P) : WorkerEvents T V P :=
  match s.settingUp cfg action with
  | some (activityDef, answers) => s.setUpEvents cfg activityDef answers
  | none => s

/-- `notify_shutdown`. -/
def notifyShutdown : WorkerEvents T V P :=
  match s.workerShutdownEvent with
  | some event =>
    { s with
      threadEvents := s.threadEvents.set event.threadEvent true
      workerShutdownEvent := some { event with asyncEvent := true }
      notified := true }
  | none => { s with notified := true }

/-- The thread event is captured when the function is submitted. -/
def submit (i : Nat) : Option (WorkerEvents T V P) :=
  match s.worker.activities[i]?, s.workerShutdownEvent with
  | some a, some event =>
    match a.phase with
    | .executing =>
      if a.sync ∧ s.submitted i = none then
        some { s with submitted := fun j => if j = i then some event.threadEvent else s.submitted j }
      else none
    | _ => none
  | _, _ => none

def step (s : WorkerEvents T V P) : EventAction T V P → Option (WorkerEvents T V P)
  | .worker action =>
    (s.worker.step cfg.toConfig action).map fun worker =>
      { s.afterAction cfg action with worker := worker }
  | .submit i => s.submit i
  | .notifyShutdown => some s.notifyShutdown

end WorkerEvents

end TemporalSdk.ActivityWorker
