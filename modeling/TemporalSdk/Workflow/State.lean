import TemporalSdk.Effect
import TemporalSdk.Workflow.Data
import Mathlib.Logic.Function.Basic

/-!
# State of the workflow instance

`Inst` is `_WorkflowInstanceImpl` together with the asyncio objects that live
on its loop. Futures come in three kinds, told apart by who can reach them, so
that what asyncio allows on each kind is a matter of typing:

* `Fut`: futures and tasks that some code awaits directly. A cancelled waiter
  cancels them.
* `Promise`: `_result_fut` and `_start_fut` of a handle and the `done_fut` of an
  external signal. The instance completes them; they are only ever awaited
  through `asyncio.shield`, so no cancellation reaches them.
* `Outer`: the future a suspended SDK coroutine itself waits on, which is the
  outer future of such a `shield` or the future of an `asyncio.sleep`. Only its
  owner awaits it.
-/
namespace TemporalSdk.Workflow

abbrev FutId := Nat

abbrev PromiseId := Nat

abbrev OuterId := Nat

/-- The keys of `_curr_seqs`. -/
inductive SeqKind where
  | timer
  | activity
  | childWorkflow
  | externalSignal
  | externalCancel
  deriving DecidableEq

/-! ### Futures -/

inductive FutState where
  | pending
  | result (value : Obj)
  | exception (exc : Exc)
  | cancelled
  deriving DecidableEq

def FutState.done : FutState → Bool
  | .pending => false
  | _ => true

/-- What `await` on a done future yields. -/
def FutState.outcome : FutState → Except Exc Obj
  | .pending => .error (.error (.runtimeError "await wasn't used with future"))
  | .result v => .ok v
  | .exception e => .error e
  | .cancelled => .error .cancelled

/-- Done callbacks of a future. -/
inductive Callback where
  /-- `Task.__wakeup` -/
  | wakeup (task : FutId)
  /-- `self._tasks.remove` -/
  | tasksRemove
  /-- `done_callback` of `_process_signal_job` -/
  | signalDone (id : Nat)
  /-- a callback of workflow code -/
  | user
  deriving DecidableEq

inductive FutRole where
  /-- created by workflow code, which may also complete it -/
  | user
  /-- the future of `asyncio.gather`, whose `cancel` cancels the children -/
  | gather (children : List FutId)
  /-- the future of a `wait_condition` -/
  | condition
  /-- `done_fut` of `_cancel_external_workflow` -/
  | externalCancel
  | task
  deriving DecidableEq

/-- Futures that workflow code can hold a reference to. -/
def FutRole.visible : FutRole → Bool
  | .externalCancel => false
  | _ => true

structure Fut where
  role : FutRole
  state : FutState
  callbacks : List Callback
  deriving DecidableEq

inductive PromiseOutcome where
  | result (value : Obj)
  | exception (e : Error)
  | backoff (b : DoBackoff)
  deriving DecidableEq

def PromiseOutcome.outcome : PromiseOutcome → Except Exc Obj
  | .result v => .ok v
  | .exception e => .error (.error e)
  | .backoff b => .error (.activityDoBackoff b)

structure Promise where
  state : Option PromiseOutcome
  /-- outer futures whose `_inner_done_callback` is attached -/
  shields : List OuterId
  deriving DecidableEq

inductive OuterState where
  | pending
  | done (outcome : PromiseOutcome)
  | cancelled
  deriving DecidableEq

def OuterState.outcome : OuterState → Except Exc Obj
  | .pending => .error (.error (.runtimeError "await wasn't used with future"))
  | .done o => o.outcome
  | .cancelled => .error .cancelled

structure Outer where
  owner : FutId
  /-- the shielded promise; `none` for the future of an `asyncio.sleep` -/
  source : Option PromiseId
  state : OuterState
  deriving DecidableEq

/-! ### Tasks -/

/-- `_ActivityHandle`. -/
structure ActivityHandle where
  seq : Nat
  input : StartActivityInput
  resultFut : PromiseId
  started : Bool
  deriving DecidableEq

/-- `_ChildWorkflowHandle`. -/
structure ChildWorkflowHandle where
  seq : Nat
  input : StartChildWorkflowInput
  startFut : PromiseId
  resultFut : PromiseId
  firstExecutionRunId : String
  deriving DecidableEq

/-- What `_process_handler_args` returns. -/
inductive HandlerArgs where
  /-- the converted payloads -/
  | named (args : List Obj)
  /-- `[job_name] + args` -/
  | vararg (name : String) (args : List Obj)
  /-- `[job_name, raw]` -/
  | raw (name : String) (raw : List Obj)
  deriving DecidableEq

/-- The outermost coroutine of a task. -/
inductive Root where
  /-- `_run_top_level_workflow_function(run_workflow(input))` -/
  | workflow (args : List Obj)
  /-- `_run_top_level_workflow_function(handle_signal(input))` -/
  | signal (job : SignalWorkflow) (args : HandlerArgs)
  /-- `run_update` -/
  | update (job : DoUpdate)
  /-- `run_query` -/
  | query (job : QueryWorkflow)
  /-- `run_activity`, in an `_ActivityHandle` -/
  | activity
  /-- `run_child`, in a `_ChildWorkflowHandle` -/
  | child
  /-- a task that workflow code created -/
  | user
  deriving DecidableEq

/-- Where a task's coroutine stands. Workflow code may be anywhere; an SDK
coroutine on top of the stack has only the program points listed. -/
inductive Point where
  | start
  | running
  /-- workflow code, at an `await` of a future or, for `none`, at a bare yield -/
  | suspended (waiter : Option FutId)
  /-- `_signal_external_workflow` -/
  | signalExternal (seq : Nat) (doneFut : PromiseId) (outer : OuterId)
  /-- `_cancel_external_workflow` -/
  | cancelExternal (seq : Nat) (doneFut : FutId)
  /-- the wait for the start in `_outbound_start_child_workflow` -/
  | startChild (child : FutId) (outer : OuterId)
  | activityWait (outer : OuterId)
  /-- `run_activity` in the `asyncio.sleep` of a backoff -/
  | activitySleep (backoff : DoBackoff) (timer : Nat) (fut : OuterId)
  /-- the same with a delay that is not positive: one bare yield -/
  | activitySleepZero (backoff : DoBackoff)
  | childWait (outer : OuterId)
  deriving DecidableEq

/-- `_fut_waiter`. -/
inductive Waiter where
  | none
  | fut (f : FutId)
  | outer (o : OuterId)
  deriving DecidableEq

def Point.waiter : Point → Waiter
  | .suspended (some f) => .fut f
  | .cancelExternal _ f => .fut f
  | .signalExternal _ _ o => .outer o
  | .startChild _ o => .outer o
  | .activityWait o => .outer o
  | .activitySleep _ _ o => .outer o
  | .childWait o => .outer o
  | _ => .none

structure Task where
  root : Root
  point : Point
  /-- `_must_cancel` -/
  mustCancel : Bool
  /-- `_num_cancels_requested` -/
  cancelling : Nat
  deriving DecidableEq

/-! ### Handles on the ready queue -/

inductive Handle where
  /-- `Task.__step` -/
  | taskStep (task : FutId)
  | callback (cb : Callback) (fut : FutId)
  /-- `Task.__wakeup` of the owner -/
  | outerWakeup (outer : OuterId)
  /-- `_inner_done_callback` of a shield -/
  | shieldInner (outer : OuterId)
  /-- `_outer_done_callback` of a shield -/
  | shieldOuter (outer : OuterId)
  | timer (seq : Nat)
  /-- `self._primary_task.cancel` -/
  | cancelPrimaryTask (task : FutId)
  /-- a `call_soon` of workflow code -/
  | user (id : Nat)
  deriving DecidableEq

inductive TimerCallback where
  /-- `_set_result_unless_cancelled` on the future of an `asyncio.sleep` -/
  | sleep (fut : OuterId)
  | user
  deriving DecidableEq

/-- `_TimerHandle`. -/
structure TimerHandle where
  callback : TimerCallback
  cancelled : Bool
  deriving DecidableEq

/-! ### The instance -/

/-- What workflow code observes of a run, in order. -/
inductive Event where
  /-- a method of the workflow class is called on an object -/
  | methodCall (object : Option Obj)
  /-- a signal handler function is called -/
  | signalHandler (job : SignalWorkflow) (defn : HandlerDefn) (args : HandlerArgs)
  /-- `assert handler` fails in `handle_signal` -/
  | signalHandlerMissing (job : SignalWorkflow)
  /-- the input of a signal could not be converted -/
  | signalDropped (job : SignalWorkflow)
  /-- an activity handle is returned to workflow code -/
  | activityHandle (task : FutId)
  /-- `_check_condition` calls `set_result` -/
  | conditionResolved (fut : FutId)
  /-- `workflow_patch` returns -/
  | patchCall (id : String) (deprecated : Bool) (value : Bool)
  /-- a timer is started, its cancel command is added, or it is put on the ready queue -/
  | timerStarted (seq : Nat)
  | timerCancelled (seq : Nat)
  | timerFired (seq : Nat)
  /-- an error of an update is recorded as the activation error -/
  | updateError (job : DoUpdate)
  /-- an exception goes to the exception handler of the loop -/
  | exceptionHandler
  deriving DecidableEq

/-- What a wait condition can read: the objects of the workflow, the outcome of
`all_handlers_finished` and whether a future it holds is done. -/
structure View (σ : Type) where
  mem : σ
  allHandlersFinished : Bool
  done : FutId → Bool

/-- The callback of a `wait_condition`. -/
abbrev Cond (σ : Type) := View σ → Except Exc Bool

/-- `_WorkflowInstanceImpl`. `mem` stands for the objects of workflow code. -/
structure Inst (σ : Type) where
  mem : σ
  /-- `_object`, and the number of objects created so far -/
  object : Option Obj
  nextObject : Nat
  primaryTask : Option FutId
  cancelRequested : Bool
  deleting : Bool
  readOnly : Bool
  isReplaying : Bool
  randomSeed : Nat
  ready : List Handle
  conditions : List (Cond σ × FutId)
  pendingTimers : Nat → Bool
  pendingActivities : Nat → Option FutId
  pendingChildWorkflows : Nat → Option FutId
  pendingExternalSignals : Nat → Option PromiseId
  pendingExternalCancels : Nat → Option FutId
  currSeqs : SeqKind → Nat
  patchesNotified : String → Bool
  patchesMemoized : String → Option Bool
  /-- `_tasks` -/
  registered : List FutId
  signals : HandlerTable
  queries : HandlerTable
  updates : HandlerTable
  bufferedSignals : Dict String (List SignalWorkflow)
  handledSignalsSeq : Nat
  inProgressSignals : Dict Nat String
  inProgressUpdates : Dict String String
  /-- the commands of the current completion -/
  commands : List Command
  activationError : Option Error
  -- objects on the loop
  nextFut : Nat
  futs : FutId → Fut
  tasks : FutId → Option Task
  /-- the attributes of the tasks that are activity handles -/
  activities : FutId → ActivityHandle
  /-- the attributes of the tasks that are child workflow handles -/
  children : FutId → ChildWorkflowHandle
  /-- for a query task, the read-only flag that `_as_read_only` restores -/
  prevReadOnly : FutId → Bool
  nextPromise : Nat
  promises : PromiseId → Promise
  nextOuter : Nat
  outers : OuterId → Outer
  timers : Nat → TimerHandle
  nextHandle : Nat
  cancelledHandles : Nat → Bool
  -- observation only: no modelled function reads the trace
  trace : List Event

/-- A program of the instance. -/
abbrev Wf (σ α : Type) := Eff (Inst σ) Exc α

namespace Inst

variable {σ : Type}

/-- `_WorkflowInstanceImpl.__init__`. -/
def init (det : Details σ) (mem : σ) : Inst σ where
  mem := mem
  object := none
  nextObject := 0
  primaryTask := none
  cancelRequested := false
  deleting := false
  readOnly := false
  isReplaying := false
  randomSeed := 0
  ready := []
  conditions := []
  pendingTimers := fun _ => false
  pendingActivities := fun _ => none
  pendingChildWorkflows := fun _ => none
  pendingExternalSignals := fun _ => none
  pendingExternalCancels := fun _ => none
  currSeqs := fun _ => 0
  patchesNotified := fun _ => false
  patchesMemoized := fun _ => none
  registered := []
  signals := det.signals
  queries := det.queries
  updates := det.updates
  bufferedSignals := Dict.empty
  handledSignalsSeq := 0
  inProgressSignals := Dict.empty
  inProgressUpdates := Dict.empty
  commands := []
  activationError := none
  nextFut := 0
  futs := fun _ => ⟨.user, .pending, []⟩
  tasks := fun _ => none
  activities := fun _ => ⟨0, ⟨false, [], none, false, none⟩, 0, false⟩
  children := fun _ => ⟨0, ⟨"", [], none, none, [], none⟩, 0, 0, ""⟩
  prevReadOnly := fun _ => false
  nextPromise := 0
  promises := fun _ => ⟨none, []⟩
  nextOuter := 0
  outers := fun _ => ⟨0, none, .pending⟩
  timers := fun _ => ⟨.user, false⟩
  nextHandle := 0
  cancelledHandles := fun _ => false
  trace := []

def setFut (s : Inst σ) (f : FutId) (fut : Fut) : Inst σ :=
  { s with futs := Function.update s.futs f fut }

def setTask (s : Inst σ) (t : FutId) (task : Task) : Inst σ :=
  { s with tasks := Function.update s.tasks t (some task) }

def setActivity (s : Inst σ) (t : FutId) (h : ActivityHandle) : Inst σ :=
  { s with activities := Function.update s.activities t h }

def setChild (s : Inst σ) (t : FutId) (h : ChildWorkflowHandle) : Inst σ :=
  { s with children := Function.update s.children t h }

def setPromise (s : Inst σ) (p : PromiseId) (promise : Promise) : Inst σ :=
  { s with promises := Function.update s.promises p promise }

def setOuter (s : Inst σ) (o : OuterId) (outer : Outer) : Inst σ :=
  { s with outers := Function.update s.outers o outer }

def setTimer (s : Inst σ) (seq : Nat) (handle : TimerHandle) : Inst σ :=
  { s with timers := Function.update s.timers seq handle }

/-- Update the attributes of a task that exists. -/
def mapTask (s : Inst σ) (t : FutId) (g : Task → Task) : Inst σ :=
  match s.tasks t with
  | some task => s.setTask t (g task)
  | none => s

def pushReady (s : Inst σ) (h : Handle) : Inst σ := { s with ready := s.ready ++ [h] }

def setReady (s : Inst σ) (ready : List Handle) : Inst σ := { s with ready := ready }

def pushCommand (s : Inst σ) (c : Command) : Inst σ := { s with commands := s.commands ++ [c] }

def log (s : Inst σ) (e : Event) : Inst σ := { s with trace := s.trace ++ [e] }

/-- `Future.done`, for futures and tasks alike. -/
def isDone (s : Inst σ) (f : FutId) : Bool := (s.futs f).state.done

/-- `workflow_all_handlers_finished`. -/
def allHandlersFinished (s : Inst σ) : Bool :=
  s.inProgressUpdates.entries.isEmpty && s.inProgressSignals.entries.isEmpty

def view (s : Inst σ) : View σ where
  mem := s.mem
  allHandlersFinished := s.allHandlersFinished
  done f :=
    match (s.futs f).role with
    | .user | .gather _ | .task => s.isDone f
    | .condition | .externalCancel => false

end Inst

end TemporalSdk.Workflow
