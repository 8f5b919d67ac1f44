import TemporalSdk.Workflow.Handlers

/-!
# Applying the jobs of an activation

One definition for each `_apply_` method, under the name of the job field, and
`applyJob` for `_apply` itself.
-/
namespace TemporalSdk.Workflow

open Eff

variable {σ : Type}

def applyCancelWorkflow : Wf σ Unit := do
  update fun s => { s with cancelRequested := true }
  let s ← state
  match s.primaryTask with
  -- deferred, so that a primary task that has not started yet can receive it
  | some t => callSoon (.cancelPrimaryTask t)
  | none => pure ()

def applyDoUpdate (job : DoUpdate) : Wf σ Unit := do
  let _ ← createTask (.update job)
  pure ()

def applyFireTimer (seq : Nat) : Wf σ Unit := do
  let s ← state
  -- the timer may have been cancelled and removed earlier in this activation
  if s.pendingTimers seq then
    update fun s => { s.pushReady (.timer seq) with
      pendingTimers := Function.update s.pendingTimers seq false
      trace := s.trace ++ [.timerFired seq] }
  else
    pure ()

def applyQueryWorkflow (job : QueryWorkflow) : Wf σ Unit := do
  let _ ← createTask (.query job)
  pure ()

def applyNotifyHasPatch (patchId : String) : Wf σ Unit :=
  update fun s => { s with patchesNotified := Function.update s.patchesNotified patchId true }

def applyRemoveFromCache : Wf σ Unit := do
  update fun s => { s with deleting := true, cancelRequested := true, isReplaying := true }
  let s ← state
  s.registered.forM fun t => do
    let _ ← cancelFut t
    pure ()

/-! ### Resolutions -/

/-- `_ActivityHandle._resolve_failure`. -/
def ActivityHandle.resolveFailure (h : ActivityHandle) (e : Error) : Wf σ Unit :=
  if h.started then setPromiseOutcome h.resultFut (.exception e) else pure ()

/-- `_ActivityHandle._resolve_backoff`. -/
def activityResolveBackoff (t : FutId) (b : DoBackoff) : Wf σ Unit := do
  let seq ← nextSeq .activity
  let s ← state
  update fun s => s.setActivity t { s.activities t with seq := seq }
  setPromiseOutcome (s.activities t).resultFut (.backoff b)
  -- Replace the result future since that one is resolved now, and mark the
  -- handle as not started since it is a new future
  let p ← createPromise
  update fun s => s.setActivity t { s.activities t with resultFut := p, started := false }

/-- The value of a `completed` resolution. -/
def resolvedValue (det : Details σ) (result : Option Payload) (retType : Option PyType) :
    Wf σ Obj := do
  match result with
  | none => pure 0
  | some payload => do
    let values ← raiseError (det.convertPayloads [payload] (retType.map fun ty => [ty]))
    match values with
    | v :: _ => pure v
    | [] => raise (.error (.runtimeError "list index out of range"))

/-- What `_apply_resolve_activity` does with the handle it found. -/
def activityResolve (det : Details σ) (t : FutId) (h : ActivityHandle) :
    ActivityResolution → Wf σ Unit
  | .completed result => do
    let v ← resolvedValue det result h.input.retType
    setPromiseOutcome h.resultFut (.result v)
  | .failed failure | .cancelled failure => do
    let e ← raiseError (det.fromFailure failure)
    h.resolveFailure e
  | .backoff b => activityResolveBackoff t b
  | .unset => raise (.error (.runtimeError "Activity did not have result"))

def applyResolveActivity (det : Details σ) (seq : Nat) (result : ActivityResolution) :
    Wf σ Unit := do
  let s ← state
  match s.pendingActivities seq with
  | none => raise (.error (.runtimeError s!"Failed finding activity handle for sequence {seq}"))
  | some t => do
    update fun s => { s with pendingActivities := Function.update s.pendingActivities seq none }
    activityResolve det t (s.activities t) result

/-- `_ChildWorkflowHandle._resolve_failure`. -/
def ChildWorkflowHandle.resolveFailure (h : ChildWorkflowHandle) (e : Error) : Wf σ Unit := do
  let s ← state
  if (s.promises h.startFut).state.isSome then
    setPromiseOutcome h.resultFut (.exception e)
  else do
    setPromiseOutcome h.startFut (.exception e)
    -- Set the result as none to avoid Python warning about unhandled future
    setPromiseOutcome h.resultFut (.result 0)

def applyResolveChildWorkflowExecution (det : Details σ) (seq : Nat)
    (result : ChildWorkflowResult) : Wf σ Unit := do
  let s ← state
  match s.pendingChildWorkflows seq with
  | none =>
    raise (.error (.runtimeError s!"Failed finding child workflow handle for sequence {seq}"))
  | some t => do
    update fun s => { s with
      pendingChildWorkflows := Function.update s.pendingChildWorkflows seq none }
    match result with
    | .completed value => do
      let v ← resolvedValue det value (s.children t).input.retType
      setPromiseOutcome (s.children t).resultFut (.result v)
    | .failed failure | .cancelled failure => do
      let e ← raiseError (det.fromFailure failure)
      (s.children t).resolveFailure e
    | .unset => raise (.error (.runtimeError "Child workflow did not have result"))

def applyResolveChildWorkflowExecutionStart (det : Details σ) (seq : Nat)
    (status : ChildWorkflowStart) : Wf σ Unit := do
  let s ← state
  match s.pendingChildWorkflows seq with
  | none =>
    raise (.error (.runtimeError s!"Failed finding child workflow handle for sequence {seq}"))
  | some t =>
    match status with
    -- not popped: the same handle is used for waiting on the entire workflow
    | .succeeded runId => do
      update fun s => s.setChild t { s.children t with firstExecutionRunId := runId }
      setPromiseOutcome (s.children t).startFut (.result 0)
    | .failed alreadyExists workflowId => do
      update fun s => { s with
        pendingChildWorkflows := Function.update s.pendingChildWorkflows seq none }
      (s.children t).resolveFailure
        (if alreadyExists then .failureError (.workflowAlreadyStarted workflowId)
         else .runtimeError "Unknown child start fail cause")
    | .cancelled failure => do
      update fun s => { s with
        pendingChildWorkflows := Function.update s.pendingChildWorkflows seq none }
      let e ← raiseError (det.fromFailure failure)
      (s.children t).resolveFailure e
    | .unset =>
      raise (.error (.runtimeError "Child workflow start did not have a known status"))

def applyResolveRequestCancelExternalWorkflow (det : Details σ) (seq : Nat)
    (failure : Option Failure) : Wf σ Unit := do
  let s ← state
  match s.pendingExternalCancels seq with
  | none =>
    raise (.error (.runtimeError s!"Failed finding pending external cancel for sequence {seq}"))
  | some f => do
    update fun s => { s with
      pendingExternalCancels := Function.update s.pendingExternalCancels seq none }
    -- We intentionally let this error if future is already done
    match failure with
    | some failure => do
      let e ← raiseError (det.fromFailure failure)
      setOutcome f (.exception (.error e))
    | none => setOutcome f (.result 0)

def applyResolveSignalExternalWorkflow (det : Details σ) (seq : Nat)
    (failure : Option Failure) : Wf σ Unit := do
  let s ← state
  match s.pendingExternalSignals seq with
  | none =>
    raise (.error (.runtimeError s!"Failed finding pending external signal for sequence {seq}"))
  | some p => do
    update fun s => { s with
      pendingExternalSignals := Function.update s.pendingExternalSignals seq none }
    -- We intentionally let this error if future is already done
    match failure with
    | some failure => do
      let e ← raiseError (det.fromFailure failure)
      setPromiseOutcome p (.exception e)
    | none => setPromiseOutcome p (.result 0)

/-! ### Signals and the start -/

def applySignalWorkflow (det : Details σ) (job : SignalWorkflow) : Wf σ Unit := do
  let s ← state
  -- Apply to named or to dynamic or buffer
  match s.signals.resolve job.signalName with
  | none => update fun s => { s with
      bufferedSignals := s.bufferedSignals.set job.signalName
        ((s.bufferedSignals.get? job.signalName).getD [] ++ [job]) }
  | some defn => processSignalJob det defn job

def applyStartWorkflow (det : Details σ) (arguments : List Payload) : Wf σ Unit := do
  -- Dynamic is just the raw value for each input value
  let args ← raiseError (det.convertPayloads arguments
    (if det.dynamicWorkflow then some (arguments.map fun _ => PyType.rawValue) else det.argTypes))
  let t ← createTask (.workflow args)
  update fun s => { s with primaryTask := some t }

/-- `_apply`. -/
def applyJob (det : Details σ) : Job → Wf σ Unit
  | .cancelWorkflow => applyCancelWorkflow
  | .doUpdate job => applyDoUpdate job
  | .fireTimer seq => applyFireTimer seq
  | .queryWorkflow job => applyQueryWorkflow job
  | .notifyHasPatch patchId => applyNotifyHasPatch patchId
  | .removeFromCache => applyRemoveFromCache
  | .resolveActivity seq result => applyResolveActivity det seq result
  | .resolveChildWorkflowExecution seq result => applyResolveChildWorkflowExecution det seq result
  | .resolveChildWorkflowExecutionStart seq status =>
    applyResolveChildWorkflowExecutionStart det seq status
  | .resolveRequestCancelExternalWorkflow seq failure =>
    applyResolveRequestCancelExternalWorkflow det seq failure
  | .resolveSignalExternalWorkflow seq failure =>
    applyResolveSignalExternalWorkflow det seq failure
  | .signalWorkflow job => applySignalWorkflow det job
  | .startWorkflow arguments => applyStartWorkflow det arguments
  | .updateRandomSeed seed => update fun s => { s with randomSeed := seed }
  | .unrecognized => raise (.error (.runtimeError "Unrecognized job: None"))

end TemporalSdk.Workflow
