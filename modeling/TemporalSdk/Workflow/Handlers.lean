import TemporalSdk.Workflow.Outbound

/-!
# Handlers and top-level coroutines

Signal, update and query handlers with their registration, the run method, and
the exception handling around each of them. Workflow code itself is not
modelled: a coroutine of the SDK that calls it stops with `Next.code`, and is
continued by `finishCode` with whatever the workflow code returned or raised.
-/
namespace TemporalSdk.Workflow

open Eff

variable {σ : Type}

/-- Which workflow code is running. -/
inductive Ctx where
  /-- code of a task -/
  | task (t : FutId)
  /-- the validator of an update, with the place of its response command and the
      read-only flag to restore -/
  | validator (t : FutId) (job : DoUpdate) (defn : HandlerDefn) (command : Nat) (prev : Bool)
  /-- a callback given to the loop or to a future -/
  | callback
  /-- the constructor of the workflow class -/
  | init
  deriving DecidableEq

/-- How a step of an SDK coroutine ends: its body is done (or suspended), or it
calls into workflow code. -/
inductive Next where
  | done (result : Except Exc (Option Obj))
  | code (ctx : Ctx)

/-- `_convert_payloads`. -/
def Details.convertPayloads (det : Details σ) (payloads : List Payload)
    (types : Option (List PyType)) : Except Error (List Obj) :=
  if payloads.isEmpty then .ok []
  else
    -- Only use type hints if they match count
    match det.fromPayloads payloads
        (types.filter fun ts => ts.isEmpty || ts.length = payloads.length) with
    | .ok values => .ok values
    -- Don't wrap payload conversion errors that would fail the workflow
    | .error (.failureError f) => .error (.failureError f)
    | .error _ => .error (.runtimeError "Failed decoding arguments")

/-- `_process_handler_args`. -/
def Details.processHandlerArgs (det : Details σ) (jobName : String) (jobInput : List Payload)
    (defn : HandlerDefn) : Except Error HandlerArgs :=
  if noName defn.name && defn.dynamicVararg then
    -- Take off the string type hint for conversion
    (det.convertPayloads jobInput
      ((defn.argTypes.filter fun ts => !ts.isEmpty).map List.tail)).map (.vararg jobName)
  else if noName defn.name then
    (det.convertPayloads jobInput
      (some (jobInput.map fun _ => PyType.rawValue))).map (.raw jobName)
  else
    (det.convertPayloads jobInput defn.argTypes).map .named

/-- Log the call of a handler: a method is bound to the current object. -/
def logCall (defn : HandlerDefn) : Wf σ Unit :=
  update fun s => if defn.isMethod then s.log (.methodCall s.object) else s

/-! ### Signals -/

/-- `_process_signal_job`. -/
def processSignalJob (det : Details σ) (defn : HandlerDefn) (job : SignalWorkflow) :
    Wf σ Unit := do
  match det.processHandlerArgs job.signalName job.input defn with
  | .error _ => update fun s => s.log (.signalDropped job)
  | .ok args => do
    update fun s => { s with handledSignalsSeq := s.handledSignalsSeq + 1 }
    let s ← state
    update fun s => { s with
      inProgressSignals := s.inProgressSignals.set s.handledSignalsSeq job.signalName }
    let t ← createTask (.signal job args)
    addDoneCallback t (.signalDone s.handledSignalsSeq)

/-- `workflow_set_signal_handler`. -/
def workflowSetSignalHandler (det : Details σ) (name : Option String)
    (handler : Option HandlerFn) : Wf σ Unit := do
  assertNotReadOnly "set signal handler" false
  match handler with
  | none => update fun s => { s with signals := s.signals.erase name }
  | some fn => do
    let defn ← raiseError (fn.define name)
    update fun s => { s with signals := s.signals.set name defn }
    -- We have to send buffered signals to the handler if they apply
    let s ← state
    match name with
    | some key =>
      if key.isEmpty then do
        s.bufferedSignals.values.flatten.forM (processSignalJob det defn)
        update fun s => { s with bufferedSignals := Dict.empty }
      else do
        update fun s => { s with bufferedSignals := s.bufferedSignals.erase key }
        ((s.bufferedSignals.get? key).getD []).forM (processSignalJob det defn)
    | none => do
      s.bufferedSignals.values.flatten.forM (processSignalJob det defn)
      update fun s => { s with bufferedSignals := Dict.empty }

/-- `handle_signal`, up to the call of the handler. The handler is looked up
again, by the name of the signal. -/
def handleSignal (t : FutId) (job : SignalWorkflow) (args : HandlerArgs) : Wf σ Next := do
  let s ← state
  match s.signals.resolve job.signalName with
  | none => do
    update fun s => s.log (.signalHandlerMissing job)
    raise (.error .assertionError)
  | some defn => do
    logCall defn
    update fun s => s.log (.signalHandler job defn args)
    pure (.code (.task t))

/-! ### Failures and the top-level coroutine -/

/-- `_set_workflow_failure`. -/
def setWorkflowFailure (det : Details σ) (e : Error) : Wf σ Unit := do
  match det.toFailure e with
  | .ok f => do
    let _ ← addCommand (.failWorkflowExecution (some f))
    pure ()
  | .error _ => do
    let _ ← addCommand (.failWorkflowExecution none)
    raise (.error (.valueError "Failed converting workflow exception"))

/-- `_ContinueAsNewError._apply_command`. -/
def applyContinueAsNew (det : Details σ) (input : ContinueAsNewInput) : Wf σ Unit := do
  let payloads ← convertArgs det input.args
  input.memo.forM fun v => do
    let _ ← raiseError (det.toPayloads [v])
    pure ()
  let _ ← addCommand (.continueAsNewWorkflowExecution payloads)
  applyRetryPolicy input.retryPolicy
  match input.searchAttributes with
  | some attributes => raiseError (det.encodeSearchAttributes attributes)
  | none => pure ()

/-- The second `except` clause of `_run_top_level_workflow_function`, after
asyncio's cancelled error has become Temporal's. -/
def topLevelExcept (det : Details σ) (e : Error) : Wf σ Unit := do
  let s ← state
  -- During tear down we can ignore exceptions
  if s.deleting then
    pure ()
  -- If a cancel was ever requested and this is a cancellation, or an
  -- activity/child cancellation, we add a cancel command
  else if s.cancelRequested && e.isCancelled then do
    let _ ← addCommand .cancelWorkflowExecution
    pure ()
  -- All other failure errors fail the workflow
  else if det.isWorkflowFailureException e then
    setWorkflowFailure det e
  else
    -- All other exceptions fail the task
    update fun s => { s with activationError := some e }

/-- `_run_top_level_workflow_function` around a coroutine that has ended. -/
def runTopLevelWorkflowFunction (det : Details σ) (r : Except Exc Unit) : Wf σ Unit :=
  match r with
  | .ok () => pure ()
  | .error (.continueAsNew input) => applyContinueAsNew det input
  | .error (.error e) => topLevelExcept det e
  -- All asyncio cancelled errors become Temporal cancelled errors
  | .error .cancelled => topLevelExcept det (.failureError .cancelledError)
  | .error e => raise e

/-- `to_payloads([result])` with the check that one payload came out. -/
def singlePayload (det : Details σ) (value : Obj) : Except Error Payload :=
  match det.toPayloads [value] with
  | .error e => .error e
  | .ok [p] => .ok p
  | .ok ps => .error (.valueError s!"Expected 1 result payload, got {ps.length}")

/-- `run_workflow` after the run method has ended. -/
def finishWorkflow (det : Details σ) (r : Except Exc Obj) : Wf σ Unit := do
  let r ← attempt (do
    let v ← ofExcept r
    let p ← raiseError (singlePayload det v)
    let _ ← addCommand (.completeWorkflowExecution p)
    pure ())
  let s ← state
  match r with
  | .error (.error e) =>
    if s.deleting then pure () else runTopLevelWorkflowFunction det (.error (.error e))
  | r => runTopLevelWorkflowFunction det r

/-! ### Updates -/

def setCommand (i : Nat) (c : Command) : Wf σ Unit :=
  update fun s => { s with commands := s.commands.set i c }

/-- `self._current_activation_error = err` in `run_update`. -/
def recordUpdateError (job : DoUpdate) (e : Error) : Wf σ Unit := do
  update fun s => { s with activationError := some e }
  update fun s => s.log (.updateError job)

/-- The first `except` clause of `run_update`, after asyncio's cancelled error
has become Temporal's. -/
def updateExcept (det : Details σ) (job : DoUpdate) (command : Option Nat)
    (pastValidation : Bool) (e : Error) : Wf σ Unit := do
  match e with
  -- Read-only issues during validation should fail the task
  | .readOnlyContext _ => recordUpdateError job e
  | _ =>
    -- Validation failures are always update failures. We reuse workflow
    -- failure logic to decide task failure vs update failure after validation
    if !pastValidation || det.isWorkflowFailureException e then do
      let i ←
        match command with
        | some i => pure i
        | none => addCommand (.updateResponse job.protocolInstanceId .unset)
      setCommand i (.updateResponse job.protocolInstanceId (.rejected none))
      let f ← raiseError (det.toFailure e)
      setCommand i (.updateResponse job.protocolInstanceId (.rejected (some f)))
    else
      recordUpdateError job e

/-- All `except` clauses of `run_update`, then its `finally`. -/
def updateEnd (det : Details σ) (job : DoUpdate) (command : Option Nat) (pastValidation : Bool)
    (r : Except Exc Unit) : Wf σ Unit := do
  let r ← attempt (match r with
    | .ok () => pure ()
    | .error (.error e) => updateExcept det job command pastValidation e
    | .error .cancelled =>
      updateExcept det job command pastValidation (.failureError .cancelledError)
    | .error e => do
      let s ← state
      if s.deleting then pure () else raise e)
  update fun s => { s with inProgressUpdates := s.inProgressUpdates.erase job.id }
  ofExcept r

/-- A coroutine body that has ended without a value. -/
def ended (x : Wf σ Unit) : Wf σ Next := do
  let r ← attempt x
  pure (.done (r.map fun _ => some 0))

/-- Accept the update and call its handler, which is looked up again. -/
def acceptUpdate (det : Details σ) (t : FutId) (job : DoUpdate) (command : Nat) : Wf σ Next := do
  -- Accept the update
  setCommand command (.updateResponse job.protocolInstanceId .accepted)
  -- Run the handler
  let s ← state
  match s.updates.resolve job.name with
  | some defn => do
    logCall defn
    pure (.code (.task t))
  | none => ended (updateEnd det job none true (.error (.error .assertionError)))

/-- `run_update` up to the call of the validator or of the handler. -/
def startUpdate (det : Details σ) (t : FutId) (job : DoUpdate) : Wf σ Next := do
  let command ← addCommand (.updateResponse job.protocolInstanceId .unset)
  let s ← state
  match s.updates.resolve job.name with
  | none => ended (updateEnd det job (some command) false (.error (.error (.runtimeError
      ("Update handler for '" ++ job.name ++ "' expected but not found, and there is no dynamic " ++
        "handler. known updates: [" ++ s.updates.known ++ "]")))))
  | some defn => do
    update fun s => { s with inProgressUpdates := s.inProgressUpdates.set job.id job.name }
    match det.processHandlerArgs job.name job.input defn with
    | .error e => ended (updateEnd det job (some command) false (.error (.error e)))
    | .ok _ =>
      if job.runValidator && defn.validator.isSome then do
        logCall defn
        update fun s => { s with readOnly := true }
        pure (.code (.validator t job defn command s.readOnly))
      else
        acceptUpdate det t job command

/-- `run_update` after the validator has ended, still inside `_as_read_only`:
re-process arguments, restore the flag, accept or reject. -/
def finishValidator (det : Details σ) (t : FutId) (job : DoUpdate) (defn : HandlerDefn)
    (command : Nat) (prev : Bool) (r : Except Exc Obj) : Wf σ Next := do
  update fun s => { s with readOnly := prev }
  match r with
  | .error e => ended (updateEnd det job (some command) false (.error e))
  | .ok _ =>
    -- Re-process arguments to avoid any problems caused by user mutation of them
    -- during validation
    match det.processHandlerArgs job.name job.input defn with
    | .error e => ended (updateEnd det job (some command) false (.error (.error e)))
    | .ok _ => acceptUpdate det t job command

/-- `run_update` after the handler has ended. -/
def finishUpdate (det : Details σ) (job : DoUpdate) (r : Except Exc Obj) : Wf σ Unit := do
  let r ← attempt (do
    let v ← ofExcept r
    let p ← raiseError (singlePayload det v)
    let _ ← addCommand (.updateResponse job.protocolInstanceId (.completed p))
    pure ())
  updateEnd det job none true r

/-- `workflow_set_update_handler`. -/
def workflowSetUpdateHandler (name : Option String) (handler : Option HandlerFn)
    (validator : Option Obj) : Wf σ Unit := do
  assertNotReadOnly "set update handler" false
  match handler with
  | none => update fun s => { s with updates := s.updates.erase name }
  | some fn => do
    let defn ← raiseError (fn.defineUpdate name validator)
    update fun s => { s with updates := s.updates.set name defn }

/-! ### Queries -/

/-- The `except` clause of `run_query`. -/
def queryExcept (det : Details σ) (job : QueryWorkflow) (e : Error) : Wf σ Unit := do
  let r ← attempt (do
    let i ← addCommand (.respondToQuery job.queryId (.failed none))
    let f ← raiseError (det.toFailure e)
    setCommand i (.respondToQuery job.queryId (.failed (some f))))
  match r with
  | .ok () => pure ()
  | .error (.error _) => raise (.error (.valueError "Failed converting application error"))
  | .error e => raise e

/-- `run_query` from the end of its read-only block. -/
def queryEnd (det : Details σ) (job : QueryWorkflow) (prev : Bool) (r : Except Exc Payload) :
    Wf σ Unit := do
  update fun s => { s with readOnly := prev }
  let r ← attempt (do
    let p ← ofExcept r
    let _ ← addCommand (.respondToQuery job.queryId (.succeeded p))
    pure ())
  match r with
  | .ok () => pure ()
  | .error (.error e) => queryExcept det job e
  | .error e => raise e

/-- `run_query` up to the call of the handler. -/
def startQuery (det : Details σ) (t : FutId) (job : QueryWorkflow) : Wf σ Next := do
  let s ← state
  update fun s => { s with
    prevReadOnly := Function.update s.prevReadOnly t s.readOnly
    readOnly := true }
  -- Named query or dynamic
  match s.queries.resolve job.queryType with
  | none => ended (queryEnd det job s.readOnly (.error (.error (.runtimeError
      ("Query handler for '" ++ job.queryType ++ "' expected but not found, known queries: [" ++
        s.queries.known ++ "]")))))
  | some defn =>
    match det.processHandlerArgs job.queryType job.arguments defn with
    | .error e => ended (queryEnd det job s.readOnly (.error (.error e)))
    | .ok _ => do
      logCall defn
      pure (.code (.task t))

/-- `run_query` after the handler has ended. -/
def finishQuery (det : Details σ) (job : QueryWorkflow) (prev : Bool) (r : Except Exc Obj) :
    Wf σ Unit :=
  queryEnd det job prev (match r with
    | .error e => .error e
    | .ok v => (singlePayload det v).mapError .error)

/-- `workflow_set_query_handler`. -/
def workflowSetQueryHandler (name : Option String) (handler : Option HandlerFn) :
    Wf σ Unit := do
  assertNotReadOnly "set query handler" false
  match handler with
  | none => update fun s => { s with queries := s.queries.erase name }
  | some fn => do
    let defn ← raiseError (fn.define name)
    update fun s => { s with queries := s.queries.set name defn }

/-! ### Patches and search attributes -/

/-- `workflow_patch`. -/
def workflowPatch (id : String) (deprecated : Bool) : Wf σ Bool := do
  assertNotReadOnly "patch" false
  let s ← state
  -- We use a previous memoized result of this if present
  let usePatch ←
    match s.patchesMemoized id with
    | some usePatch => pure usePatch
    | none => do
      let usePatch := !s.isReplaying || s.patchesNotified id
      update fun s => { s with
        patchesMemoized := Function.update s.patchesMemoized id (some usePatch) }
      if usePatch then do
        let _ ← addCommand (.setPatchMarker id deprecated)
        pure usePatch
      else
        pure usePatch
  update fun s => s.log (.patchCall id deprecated usePatch)
  pure usePatch

/-- `workflow_upsert_search_attributes`: the command comes first. -/
def workflowUpsertSearchAttributes (det : Details σ) (attributes : Obj) : Wf σ Unit := do
  let _ ← addCommand .upsertWorkflowSearchAttributes
  raiseError (det.encodeSearchAttributes attributes)

/-! ### Steps of a task -/

/-- The first step of a coroutine. -/
def startCode (det : Details σ) (t : FutId) (root : Root) : Wf σ Next := do
  match root with
  | .workflow _ => do
    update fun s => s.log (.methodCall s.object)
    pure (.code (.task t))
  | .signal job args => do
    let r ← attempt (handleSignal t job args)
    match r with
    | .ok next => pure next
    | .error e => ended (runTopLevelWorkflowFunction det (.error e))
  | .update job => do
    let r ← attempt (startUpdate det t job)
    match r with
    | .ok next => pure next
    | .error e => pure (.done (.error e))
  | .query job => startQuery det t job
  | .activity => do
    let r ← attempt (activityStart t)
    pure (.done r)
  | .child => do
    let r ← attempt (childStart t)
    pure (.done r)
  | .user => pure (.code (.task t))

/-- Workflow code of a task has returned or raised. -/
def finishCode (det : Details σ) (t : FutId) (root : Root) (r : Except Exc Obj) :
    Wf σ Next := do
  match root with
  | .workflow _ => ended (finishWorkflow det r)
  | .signal _ _ => ended (runTopLevelWorkflowFunction det (r.map fun _ => ()))
  | .update job => ended (finishUpdate det job r)
  | .query job => do
    let s ← state
    ended (finishQuery det job (s.prevReadOnly t) r)
  | .activity | .child | .user => pure (.done (r.map some))

/-- A coroutine of the SDK that workflow code awaits has resumed: its outcome,
if it has one, goes to the workflow code. -/
def resumeAwait (t : FutId) (x : Wf σ (Option Obj)) : Wf σ Next := do
  let r ← attempt x
  match r with
  | .ok none => pure (.done (.ok none))
  | _ => pure (.code (.task t))

/-- Continue a coroutine from where it stands with what it awaited. -/
def resume (det : Details σ) (t : FutId) (root : Root) (point : Point) (input : Except Exc Obj) :
    Wf σ Next := do
  match point, root with
  | .start, _ =>
    match input with
    -- a coroutine that has not started has no clause to catch anything
    | .error e => pure (.done (.error e))
    | .ok _ => startCode det t root
  | .activityWait _, .activity => do
    let r ← attempt (activityWake t input)
    pure (.done r)
  | .activitySleep b timer _, .activity => do
    let r ← attempt (activitySleepWake det t b timer input)
    pure (.done r)
  | .activitySleepZero b, .activity => do
    let r ← attempt (activitySleepZeroWake det t b input)
    pure (.done r)
  | .childWait _, .child => do
    let r ← attempt (childWake t input)
    pure (.done r)
  -- the coroutine of a handle has no other place to stand
  | _, .activity => pure (.done (.error (.error .invalidState)))
  | _, .child => pure (.done (.error (.error .invalidState)))
  | .suspended _, _ => pure (.code (.task t))
  | .cancelExternal _ _, _ => pure (.code (.task t))
  | .signalExternal seq doneFut _, _ => resumeAwait t (signalExternalWake t seq doneFut input)
  | .startChild child _, _ => resumeAwait t (startChildWake t child input)
  | _, _ => pure (.done (.error (.error .invalidState)))

/-- The end of a step whose coroutine did not stop in workflow code. -/
def stepNext (t : FutId) : Next → Wf σ (Option Ctx)
  | .code ctx => pure (some ctx)
  | .done r => do
    stepEnd t r
    pure none

/-- `Task.__step`. A pending cancellation replaces what the task was to be
resumed with. -/
def stepTask (det : Details σ) (t : FutId) (input : Except Exc Obj) : Wf σ (Option Ctx) := do
  let s ← state
  match s.tasks t with
  | none => pure none
  | some task =>
    if s.isDone t then
      raise (.error .invalidState)
    else do
      -- the cancellation is thrown into the coroutine once
      update fun s => s.setTask t { task with mustCancel := false, point := .running }
      let next ← resume det t task.root task.point
        (if task.mustCancel then .error .cancelled else input)
      stepNext t next

/-- `_inner_done_callback` of a shield. -/
def shieldInnerDone (o : OuterId) : Wf σ Unit := do
  let s ← state
  match (s.outers o).state, (s.outers o).source with
  | .pending, some p =>
    match (s.promises p).state with
    | some outcome => settleOuter o (.done outcome)
    | none => pure ()
  | _, _ => pure ()

/-- `_outer_done_callback` of a shield. -/
def shieldOuterDone (o : OuterId) : Wf σ Unit := do
  let s ← state
  match (s.outers o).source with
  | none => pure ()
  | some p =>
    match (s.promises p).state with
    | some _ => pure ()
    | none => update fun s =>
        s.setPromise p { s.promises p with shields := (s.promises p).shields.erase o }

/-- The callback of a handle, up to the call of workflow code. A cancelled
handle has lost its callback, and calling it raises. -/
def handleCallback (det : Details σ) (h : Handle) : Wf σ (Option Ctx) := do
  let s ← state
  match h with
  | .taskStep t => stepTask det t (.ok 0)
  | .callback (.wakeup t) f => stepTask det t (s.futs f).state.outcome
  | .callback .tasksRemove f => do
    update fun s => { s with registered := s.registered.erase f }
    pure none
  | .callback (.signalDone id) _ => do
    update fun s => { s with inProgressSignals := s.inProgressSignals.erase id }
    pure none
  | .callback .user _ => pure (some .callback)
  | .outerWakeup o => stepTask det (s.outers o).owner (s.outers o).state.outcome
  | .shieldInner o => do
    shieldInnerDone o
    pure none
  | .shieldOuter o => do
    shieldOuterDone o
    pure none
  | .timer seq =>
    if (s.timers seq).cancelled then
      raise (.error (.runtimeError "argument after * must be an iterable, not NoneType"))
    else
      match (s.timers seq).callback with
      | .user => pure (some .callback)
      | .sleep o =>
        match (s.outers o).state with
        | .pending => do
          settleOuter o (.done (.result 0))
          pure none
        | _ => pure none
  | .cancelPrimaryTask t => do
    let _ ← cancelFut t
    pure none
  | .user id =>
    if s.cancelledHandles id then
      raise (.error (.runtimeError "argument after * must be an iterable, not NoneType"))
    else
      pure (some .callback)

/-- `call_exception_handler`. -/
def callExceptionHandler : Wf σ Unit :=
  update fun s => if s.deleting then s else s.log .exceptionHandler

/-- `Handle._run`. -/
def handleRun (det : Details σ) (h : Handle) : Wf σ (Option Ctx) := do
  let r ← attempt (handleCallback det h)
  match r with
  | .ok ctx => pure ctx
  | .error e =>
    -- `except (SystemExit, KeyboardInterrupt): raise`
    if e.exits then
      raise e
    else do
      callExceptionHandler
      pure none

end TemporalSdk.Workflow
