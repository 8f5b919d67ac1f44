import TemporalSdk.Workflow.Loop

/-!
# Outbound calls

Activities, child workflows, external signals and external cancels: the calls
that issue a command and register an entry under its sequence number, and the
coroutines that then wait for core to resolve it.

A coroutine body is a program of type `Wf σ (Option Obj)`: it returns `some v`
when the coroutine returns `v`, `none` when it is suspended, and raises when the
coroutine does.
-/
namespace TemporalSdk.Workflow

open Eff

variable {σ : Type}

/-- Raise the exception of a converter or a validation. -/
def raiseError {α : Type} (x : Except Error α) : Wf σ α :=
  match x with
  | .ok a => pure a
  | .error e => raise (.error e)

/-- `to_payloads(args) if args else None`. -/
def convertArgs (det : Details σ) (args : List Obj) : Wf σ (List Payload) :=
  if args.isEmpty then pure [] else raiseError (det.toPayloads args)

/-- `retry_policy.apply_to_proto`, which validates first. -/
def applyRetryPolicy (policy : Option RetryPolicy) : Wf σ Unit :=
  match policy with
  | some p => raiseError p.applyToProto
  | none => pure ()

/-! ### Activities -/

/-- `_ActivityHandle._apply_schedule_command`. The command is in the completion,
with its sequence number, before the retry policy is validated. -/
def applyScheduleCommand (det : Details σ) (h : ActivityHandle)
    (localBackoff : Option DoBackoff) : Wf σ Unit := do
  -- Convert arguments before creating command in case it raises error
  let _ ← convertArgs det h.input.args
  let _ ← addCommand
    (if h.input.isLocal then .scheduleLocalActivity h.seq localBackoff
     else .scheduleActivity h.seq)
  applyRetryPolicy h.input.retryPolicy

/-- `_ActivityHandle.__init__`. `Task.__init__` comes first, so a refusal to
schedule the first step leaves the sequence counter alone. -/
def newActivityHandle (input : StartActivityInput) : Wf σ FutId := do
  assertNotReadOnly "schedule task" true
  let seq ← nextSeq .activity
  let resultFut ← createPromise
  let t ← newTask .activity
  update fun s => s.setActivity t ⟨seq, input, resultFut, false⟩
  registerTask t
  pure t

/-- `self._pending_activities[handle._seq] = handle`. -/
def setPendingActivity (t : FutId) : Wf σ Unit :=
  update fun s => { s with
    pendingActivities := Function.update s.pendingActivities (s.activities t).seq (some t) }

/-- `_outbound_schedule_activity`. -/
def outboundScheduleActivity (det : Details σ) (input : StartActivityInput) : Wf σ FutId := do
  if !input.hasTimeout then
    raise (.error (.valueError
      "Activity must have start_to_close_timeout or schedule_to_close_timeout"))
  else do
    -- Create the handle and set as pending
    let t ← newActivityHandle input
    let s ← state
    applyScheduleCommand det (s.activities t) none
    setPendingActivity t
    pure t

/-- Only `workflow_start_activity` has a guard of its own. -/
def startActivityGuard (input : StartActivityInput) : Wf σ Unit :=
  if input.isLocal then pure () else assertNotReadOnly "start activity" false

/-- `workflow_start_activity` and `workflow_start_local_activity`. -/
def workflowStartActivity (det : Details σ) (input : StartActivityInput) : Wf σ FutId := do
  startActivityGuard input
  let t ← outboundScheduleActivity det input
  update fun s => s.log (.activityHandle t)
  pure t

/-- `backoff_duration.ToTimedelta()`, in nanoseconds: what is left of a microsecond
is dropped, and a `timedelta` holds less than a `Duration`. -/
def DoBackoff.toTimedelta (b : DoBackoff) : Except Error Int :=
  if timedeltaHolds (b.backoffDuration.tdiv 1000) then .ok (b.backoffDuration.tdiv 1000 * 1000)
  else .error .overflowError

/-- `await asyncio.sleep(...)` of a backoff, up to the suspension. -/
def activityBackoff (t : FutId) (b : DoBackoff) : Wf σ (Option Obj) := do
  let delay ← raiseError b.toTimedelta
  if delay ≤ 0 then do
    setPoint t (.activitySleepZero b)
    pure none
  else do
    -- this sleep can be cancelled like any other timer
    let s ← state
    update fun s => { s.setOuter s.nextOuter ⟨t, none, .pending⟩ with
      nextOuter := s.nextOuter + 1 }
    let seq ← callLater delay (.sleep s.nextOuter)
    setPoint t (.activitySleep b seq s.nextOuter)
    pure none

/-- How `run_activity` leaves its `await`, for an outcome that is not a
cancellation. -/
def activityOutcome (t : FutId) : PromiseOutcome → Wf σ (Option Obj)
  | .result v => pure (some v)
  | .exception e => raise (.error e)
  | .backoff b => activityBackoff t b

/-- One round of the `while True` of `run_activity`, up to the suspension. A
shield of a done future is that future, so it is not waited for. -/
def activityLoop (t : FutId) : Wf σ (Option Obj) := do
  -- Mark it as started each loop because backoff could cause it to be
  -- marked as unstarted
  update fun s => s.setActivity t { s.activities t with started := true }
  let s ← state
  match (s.promises (s.activities t).resultFut).state with
  | some outcome => activityOutcome t outcome
  | none => do
    -- we don't want the underlying result future to be cancelled
    suspendShield t (s.activities t).resultFut .activityWait
    pure none

/-- The end of the backoff branch of `run_activity`: schedule again under the
new sequence number. -/
def activityReschedule (det : Details σ) (t : FutId) (b : DoBackoff) : Wf σ (Option Obj) := do
  let s ← state
  applyScheduleCommand det (s.activities t) (some b)
  -- We have to put the handle back on the pending activity dict with its new seq
  setPendingActivity t
  activityLoop t

/-- The first step of `run_activity`. Its `handle` is still unset if
`_ActivityHandle.__init__` raised. -/
def activityStart (t : FutId) : Wf σ (Option Obj) := do
  let s ← state
  if s.registered.contains t then activityLoop t else raise (.error .assertionError)

/-- `run_activity` resumes from its `await asyncio.shield(...)`. -/
def activityWake (t : FutId) (input : Except Exc Obj) : Wf σ (Option Obj) := do
  match input with
  | .ok v => pure (some v)
  | .error (.activityDoBackoff b) => activityBackoff t b
  -- Send a cancel request to the activity, and wait on
  | .error .cancelled => do
    let s ← state
    let _ ← addCommand (s.activities t).cancelCommand
    activityLoop t
  | .error e => raise e

/-- `run_activity` resumes from the sleep of a backoff; `finally: h.cancel()`
comes first. -/
def activitySleepWake (det : Details σ) (t : FutId) (b : DoBackoff) (timer : Nat)
    (input : Except Exc Obj) : Wf σ (Option Obj) := do
  timerCancel timer
  match input with
  | .ok _ => activityReschedule det t b
  | .error e => raise e

/-- The same after a bare yield. -/
def activitySleepZeroWake (det : Details σ) (t : FutId) (b : DoBackoff)
    (input : Except Exc Obj) : Wf σ (Option Obj) :=
  match input with
  | .ok _ => activityReschedule det t b
  | .error e => raise e

/-! ### Child workflows -/

/-- `_ChildWorkflowHandle._apply_start_command`. The command is in the
completion before the retry policy, the memo and the search attributes are
converted. -/
def applyStartCommand (det : Details σ) (h : ChildWorkflowHandle) : Wf σ Unit := do
  let _ ← convertArgs det h.input.args
  let _ ← addCommand (.startChildWorkflowExecution h.seq)
  applyRetryPolicy h.input.retryPolicy
  h.input.memo.forM fun v => do
    let _ ← raiseError (det.toPayloads [v])
    pure ()
  match h.input.searchAttributes with
  | some attributes => raiseError (det.encodeSearchAttributes attributes)
  | none => pure ()

/-- `_ChildWorkflowHandle._apply_cancel_command` on a new command. -/
def ChildWorkflowHandle.cancelCommand (h : ChildWorkflowHandle) : Command :=
  .cancelChildWorkflowExecution h.seq

/-- `_ChildWorkflowHandle.__init__`, with the sequence number taken before. -/
def newChildWorkflowHandle (input : StartChildWorkflowInput) : Wf σ FutId := do
  let seq ← nextSeq .childWorkflow
  assertNotReadOnly "schedule task" true
  let startFut ← createPromise
  let resultFut ← createPromise
  let t ← newTask .child
  update fun s => s.setChild t ⟨seq, input, startFut, resultFut, "<unknown>"⟩
  registerTask t
  pure t

/-- `apply_child_cancel_error`. -/
def applyChildCancelError (child : FutId) : Wf σ Unit := do
  let s ← state
  -- Send a cancel request to the child
  let _ ← addCommand (s.children child).cancelCommand
  -- If the cancel command is for external workflow, we have to mark it pending
  match (s.children child).cancelCommand with
  | .requestCancelExternalWorkflowExecution _ => do
    let seq ← nextSeq .externalCancel
    let f ← createFuture .externalCancel
    update fun s => { s with
      pendingExternalCancels := Function.update s.pendingExternalCancels seq (some f) }
  | _ => pure ()

/-- A round of a `while True` that awaits a shielded promise: take the outcome
of a promise that is done, else suspend. -/
def awaitShield (t : FutId) (p : PromiseId) (point : OuterId → Point) : Wf σ (Option Obj) := do
  let s ← state
  match (s.promises p).state with
  | some (.result v) => pure (some v)
  | some (.exception e) => raise (.error e)
  | some (.backoff b) => raise (.activityDoBackoff b)
  | none => do
    suspendShield t p point
    pure none

/-- The first step of `run_child`. -/
def childStart (t : FutId) : Wf σ (Option Obj) := do
  let s ← state
  if s.registered.contains t then awaitShield t (s.children t).resultFut .childWait
  else raise (.error .assertionError)

/-- `run_child` resumes. -/
def childWake (t : FutId) (input : Except Exc Obj) : Wf σ (Option Obj) := do
  match input with
  | .ok v => pure (some v)
  | .error .cancelled => do
    applyChildCancelError t
    let s ← state
    awaitShield t (s.children t).resultFut .childWait
  | .error e => raise e

/-- The wait for the start in `_outbound_start_child_workflow`, from the top of
its loop; returns the handle. -/
def startChildLoop (t child : FutId) : Wf σ (Option Obj) := do
  let s ← state
  let r ← awaitShield t (s.children child).startFut (.startChild child)
  pure (r.map fun _ => child)

/-- `self._pending_child_workflows[handle._seq] = handle`. -/
def setPendingChildWorkflow (child : FutId) : Wf σ Unit :=
  update fun s => { s with
    pendingChildWorkflows :=
      Function.update s.pendingChildWorkflows (s.children child).seq (some child) }

/-- `_outbound_start_child_workflow`, run by task `t`. -/
def outboundStartChildWorkflow (det : Details σ) (t : FutId) (input : StartChildWorkflowInput) :
    Wf σ (Option Obj) := do
  let child ← newChildWorkflowHandle input
  let s ← state
  applyStartCommand det (s.children child)
  setPendingChildWorkflow child
  -- Wait on start before returning
  startChildLoop t child

/-- `_outbound_start_child_workflow` resumes. -/
def startChildWake (t child : FutId) (input : Except Exc Obj) : Wf σ (Option Obj) := do
  match input with
  | .ok _ => pure (some child)
  | .error .cancelled => do
    applyChildCancelError child
    startChildLoop t child
  | .error e => raise e

/-! ### External workflows -/

/-- `_ChildWorkflowHandle.signal` and `_ExternalWorkflowHandle.signal`, which both
end in `_signal_external_workflow`; run by task `t`. -/
def signalExternalWorkflow (det : Details σ) (t : FutId) (ofChild : Bool) (args : List Obj) :
    Wf σ (Option Obj) := do
  assertNotReadOnly (if ofChild then "signal child handle" else "signal external handle") false
  let _ ← convertArgs det args
  let s ← state
  let _ ← addCommand (.signalExternalWorkflowExecution (s.currSeqs .externalSignal + 1))
  let seq ← nextSeq .externalSignal
  let doneFut ← createPromise
  -- Set as pending
  update fun s => { s with
    pendingExternalSignals := Function.update s.pendingExternalSignals seq (some doneFut) }
  -- Wait until completed or cancelled
  awaitShield t doneFut (.signalExternal seq doneFut)

/-- `_signal_external_workflow` resumes. -/
def signalExternalWake (t : FutId) (seq : Nat) (doneFut : PromiseId) (input : Except Exc Obj) :
    Wf σ (Option Obj) := do
  match input with
  | .ok v => pure (some v)
  | .error .cancelled => do
    let _ ← addCommand (.cancelSignalWorkflow seq)
    awaitShield t doneFut (.signalExternal seq doneFut)
  | .error e => raise e

/-- `_ExternalWorkflowHandle.cancel` and `_cancel_external_workflow`, run by
task `t`. The future is awaited without a shield. -/
def cancelExternalWorkflow (t : FutId) : Wf σ (Option Obj) := do
  assertNotReadOnly "cancel external handle" false
  let s ← state
  let _ ← addCommand (.requestCancelExternalWorkflowExecution (s.currSeqs .externalCancel + 1))
  let seq ← nextSeq .externalCancel
  let doneFut ← createFuture .externalCancel
  update fun s => { s with
    pendingExternalCancels := Function.update s.pendingExternalCancels seq (some doneFut) }
  -- Wait until done (there is no cancelling a cancel request)
  suspendOn t (.cancelExternal seq doneFut) doneFut
  pure none

end TemporalSdk.Workflow
