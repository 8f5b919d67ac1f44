import Mathlib.Algebra.Group.Int.Defs
import TemporalSdk.Workflow.State

/-!
# The event loop of the instance

`_WorkflowInstanceImpl` is its own asyncio loop. This module holds the guards
every operation goes through, `call_soon` and the timers, and CPython's futures
and tasks as they run on this loop: completing a future hands each of its
callbacks to `call_soon`, so a completion inside a read-only context raises half
way through.
-/
namespace TemporalSdk.Workflow

open Eff

variable {σ : Type}

/-! ### Guards -/

/-- `_assert_not_read_only`. -/
def assertNotReadOnly (action : String) (allowDuringDelete : Bool) : Wf σ Unit := do
  let s ← state
  if s.deleting && !allowDuringDelete then
    raise .workflowBeingEvicted
  else if s.readOnly then
    raise (.error (.readOnlyContext action))
  else
    pure ()

/-- `_add_command`; returns the place of the new command in the completion. -/
def addCommand (c : Command) : Wf σ Nat := do
  assertNotReadOnly "add command" false
  let s ← state
  update fun s => s.pushCommand c
  pure s.commands.length

/-- `_next_seq`. -/
def nextSeq (kind : SeqKind) : Wf σ Nat := do
  let s ← state
  update fun s => { s with currSeqs := Function.update s.currSeqs kind (s.currSeqs kind + 1) }
  pure (s.currSeqs kind + 1)

/-! ### Handles and timers -/

/-- `call_soon`, which stays allowed during deletion. -/
def callSoon (h : Handle) : Wf σ Unit := do
  assertNotReadOnly "schedule task" true
  update fun s => s.pushReady h

/-- `call_soon` of workflow code; returns the handle. -/
def callSoonUser : Wf σ Nat := do
  let s ← state
  callSoon (.user s.nextHandle)
  update fun s => { s with nextHandle := s.nextHandle + 1 }
  pure s.nextHandle

/-- The delays that a `Duration` can hold, whose seconds are an `int64`. -/
def timerHolds (delay : Int) : Bool :=
  delay < 2 ^ 63 * 1000000000

/-- `start_to_fire_timeout.FromNanoseconds`. An infinite delay is refused in the
same place. -/
def timerTimeout (delay : Int) : Except Exc Unit :=
  if timerHolds delay then .ok ()
  else .error (.error (.valueError "Value out of range"))

/-- `call_later`, with the delay in nanoseconds; the handle is known by its
sequence number. The command is in the completion before its timeout is
converted. -/
def callLater (delay : Int) (callback : TimerCallback) : Wf σ Nat := do
  assertNotReadOnly "schedule timer" false
  -- Delay must be positive
  if delay < 0 then
    raise (.error (.runtimeError "Attempting to schedule timer with negative delay"))
  else do
    let seq ← nextSeq .timer
    let _ ← addCommand (.startTimer seq delay)
    update fun s => s.log (.timerStarted seq)
    ofExcept (timerTimeout delay)
    update fun s => { s.setTimer seq ⟨callback, false⟩ with
      pendingTimers := Function.update s.pendingTimers seq true }
    pure seq

/-- `_timer_handle_cancelled`. -/
def timerHandleCancelled (seq : Nat) : Wf σ Unit := do
  let s ← state
  -- a timer that has fired is not pending any more and has no command to cancel it
  if s.pendingTimers seq then do
    update fun s => { s with pendingTimers := Function.update s.pendingTimers seq false }
    let _ ← addCommand (.cancelTimer seq)
    update fun s => s.log (.timerCancelled seq)
  else
    pure ()

/-- `TimerHandle.cancel`. -/
def timerCancel (seq : Nat) : Wf σ Unit := do
  let s ← state
  if (s.timers seq).cancelled then
    pure ()
  else do
    timerHandleCancelled seq
    update fun s => s.setTimer seq { s.timers seq with cancelled := true }

/-! ### Futures -/

/-- `create_future`. -/
def createFuture (role : FutRole) : Wf σ FutId := do
  let s ← state
  update fun s => { s.setFut s.nextFut ⟨role, .pending, []⟩ with nextFut := s.nextFut + 1 }
  pure s.nextFut

/-- `create_future` for a future that is awaited through a shield only. -/
def createPromise : Wf σ PromiseId := do
  let s ← state
  update fun s => { s.setPromise s.nextPromise ⟨none, []⟩ with nextPromise := s.nextPromise + 1 }
  pure s.nextPromise

def scheduleCallbacks (f : FutId) : List Callback → Wf σ Unit
  | [] => pure ()
  | cb :: cbs => do
    callSoon (.callback cb f)
    scheduleCallbacks f cbs

/-- Complete a future that is not done. The callback list is emptied first, so
the callbacks not scheduled before a raise are lost. -/
def settle (f : FutId) (new : FutState) : Wf σ Unit := do
  let s ← state
  update fun s => s.setFut f { s.futs f with state := new, callbacks := [] }
  scheduleCallbacks f (s.futs f).callbacks

/-- `Future.set_result` and `Future.set_exception`. -/
def setOutcome (f : FutId) (new : FutState) : Wf σ Unit := do
  let s ← state
  if s.isDone f then
    raise (.error .invalidState)
  else
    settle f new

/-- `Future.add_done_callback`. -/
def addDoneCallback (f : FutId) (cb : Callback) : Wf σ Unit := do
  let s ← state
  if s.isDone f then
    callSoon (.callback cb f)
  else
    update fun s => s.setFut f { s.futs f with callbacks := (s.futs f).callbacks ++ [cb] }

def scheduleShields : List OuterId → Wf σ Unit
  | [] => pure ()
  | o :: os => do
    callSoon (.shieldInner o)
    scheduleShields os

/-- `set_result` and `set_exception` on a promise. -/
def setPromiseOutcome (p : PromiseId) (outcome : PromiseOutcome) : Wf σ Unit := do
  let s ← state
  match (s.promises p).state with
  | some _ => raise (.error .invalidState)
  | none => do
    update fun s => s.setPromise p ⟨some outcome, []⟩
    scheduleShields (s.promises p).shields

/-- Complete an outer future. A shield attached its `_outer_done_callback`
before the owner attached its wake-up. -/
def settleOuter (o : OuterId) (new : OuterState) : Wf σ Unit := do
  let s ← state
  update fun s => s.setOuter o { s.outers o with state := new }
  if (s.outers o).source.isSome then do
    callSoon (.shieldOuter o)
    callSoon (.outerWakeup o)
  else
    callSoon (.outerWakeup o)

/-- `Future.cancel` on an outer future. -/
def cancelOuter (o : OuterId) : Wf σ Bool := do
  let s ← state
  match (s.outers o).state with
  | .pending => do
    settleOuter o .cancelled
    pure true
  | _ => pure false

/-! ### Tasks -/

/-- `Task.__init__`, which schedules the first step through `call_soon`. -/
def newTask (root : Root) : Wf σ FutId := do
  let s ← state
  callSoon (.taskStep s.nextFut)
  update fun s => { (s.setFut s.nextFut ⟨.task, .pending, []⟩).setTask s.nextFut
    ⟨root, .start, false, 0⟩ with nextFut := s.nextFut + 1 }
  pure s.nextFut

/-- `_register_task`. -/
def registerTask (t : FutId) : Wf σ Unit := do
  assertNotReadOnly "create task" false
  -- our own set: Python's weak set of tasks can collect these too early
  update fun s => { s with registered := s.registered ++ [t] }
  addDoneCallback t .tasksRemove

/-- `create_task`. -/
def createTask (root : Root) : Wf σ FutId := do
  let t ← newTask root
  registerTask t
  pure t

/-- `_ActivityHandle._apply_cancel_command` on a new command. -/
def ActivityHandle.cancelCommand (h : ActivityHandle) : Command :=
  if h.input.isLocal then .requestCancelLocalActivity h.seq else .requestCancelActivity h.seq

/-- The part of `_ActivityHandle.cancel` that comes before `super().cancel`. -/
def activityHandleCancel (t : FutId) : Wf σ Unit := do
  let s ← state
  -- Allow the cancel to go through for the task even if we're deleting,
  -- just don't do any commands
  if s.deleting then
    pure ()
  else do
    assertNotReadOnly "cancel activity handle" false
    -- the coroutine will not run to trap a cancel that comes before its start
    if !(s.activities t).started && !s.isDone t then do
      let _ ← addCommand (s.activities t).cancelCommand
      pure ()
    else
      pure ()

/-- What a subclass of `Task` does in `cancel` before `super().cancel`. -/
def overriddenCancel (t : FutId) (root : Root) : Wf σ Unit :=
  match root with
  | .activity => activityHandleCancel t
  | _ => pure ()

/-- `Future.cancel` on a future that is not done; that of a `gather` cancels the
children. -/
def futureCancel (cancelChild : FutId → Wf σ Bool) (f : FutId) (role : FutRole) : Wf σ Bool :=
  match role with
  | .gather children => children.foldlM (fun requested child => do
      let r ← cancelChild child
      pure (requested || r)) false
  | _ => do
    settle f .cancelled
    pure true

/-- `self._fut_waiter.cancel()`, if the task waits on something. -/
def waiterCancel (cancelFut : FutId → Wf σ Bool) : Waiter → Wf σ Bool
  | .none => pure false
  | .fut f => cancelFut f
  | .outer o => cancelOuter o

/-- `Task.cancel` on a task that is not done. -/
def taskCancel (cancelFut : FutId → Wf σ Bool) (t : FutId) (waiter : Waiter) : Wf σ Bool := do
  update fun s => s.mapTask t fun task => { task with cancelling := task.cancelling + 1 }
  let passedOn ← waiterCancel cancelFut waiter
  if passedOn then
    pure true
  else do
    -- its step is scheduled already, and will throw the cancellation into the coroutine
    update fun s => s.mapTask t fun task => { task with mustCancel := true }
    pure true

/-- `cancel` of a future or task. A task passes the request on to what it waits
on, so the call recurses along the chain of waiters; the fuel bounds its depth
and running out of it stands for Python's `RecursionError`. -/
def cancel : Nat → FutId → Wf σ Bool
  | 0, _ => raise (.error (.runtimeError "maximum recursion depth exceeded"))
  | fuel + 1, f => do
    let s ← state
    match s.tasks f with
    | none =>
      if s.isDone f then pure false else futureCancel (cancel fuel) f (s.futs f).role
    | some task => do
      overriddenCancel f task.root
      if s.isDone f then pure false else taskCancel (cancel fuel) f task.point.waiter

/-- `cancel` with fuel for every chain that does not run in a circle. -/
def cancelFut (f : FutId) : Wf σ Bool := do
  let s ← state
  cancel (s.nextFut + 1) f

def setPoint (t : FutId) (point : Point) : Wf σ Unit :=
  update fun s => s.mapTask t fun task => { task with point := point }

/-- `await` on a future that is not done. -/
def suspendOn (t : FutId) (point : Point) (f : FutId) : Wf σ Unit := do
  addDoneCallback f (.wakeup t)
  setPoint t point

/-- `await asyncio.shield(...)` on a promise that is not done. -/
def suspendShield (t : FutId) (p : PromiseId) (point : OuterId → Point) : Wf σ Unit := do
  let s ← state
  update fun s => { (s.setOuter s.nextOuter ⟨t, some p, .pending⟩).setPromise p
    { s.promises p with shields := (s.promises p).shields ++ [s.nextOuter] } with
    nextOuter := s.nextOuter + 1 }
  setPoint t (point s.nextOuter)

/-- The end of `Task.__step` when the coroutine has yielded. A bare yield asks
for another step; a cancellation that arrived while the coroutine was running is
passed on to the future it now waits on. An exception here is not seen by the
coroutine. -/
def afterSuspend (t : FutId) : Wf σ Unit := do
  let s ← state
  match s.tasks t with
  | none => pure ()
  | some task =>
    if task.point.waiter = .none then
      callSoon (.taskStep t)
    else if task.mustCancel then do
      let passedOn ← waiterCancel cancelFut task.point.waiter
      if passedOn then
        update fun s => s.mapTask t fun task => { task with mustCancel := false }
      else
        pure ()
    else
      pure ()

/-- The end of `Task.__step` when the coroutine has returned or raised. -/
def finishTask (t : FutId) (outcome : Except Exc Obj) : Wf σ Unit := do
  let s ← state
  match outcome with
  | .ok v =>
    match s.tasks t with
    | some task =>
      -- Task is cancelled right before coro stops
      if task.mustCancel then do
        update fun s => s.mapTask t fun task => { task with mustCancel := false }
        settle t .cancelled
      else
        settle t (.result v)
    | none => pure ()
  | .error .cancelled => settle t .cancelled
  | .error e => do
    settle t (.exception e)
    -- `except (KeyboardInterrupt, SystemExit)` raises it again
    if e.exits then raise e else pure ()

/-- The end of `Task.__step`: the coroutine has returned, raised or, for
`.ok none`, yielded. -/
def stepEnd (t : FutId) : Except Exc (Option Obj) → Wf σ Unit
  | .ok none => afterSuspend t
  | .ok (some v) => finishTask t (.ok v)
  | .error e => finishTask t (.error e)

end TemporalSdk.Workflow
