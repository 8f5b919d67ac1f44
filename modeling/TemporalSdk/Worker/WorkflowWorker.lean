import TemporalSdk.Dict
import TemporalSdk.Transition
import TemporalSdk.Worker.PyError

/-!
# The workflow worker

`_WorkflowWorker`: `run` polls activations and starts one `_handle_activation`
task for each. A task runs without interruption from one `await` to the next, so
a step of the worker is one such stretch of one task, or an answer to the poll.
What the awaited calls and the user's functions answer is up to the step.

An instance of a workflow is an opaque `W` here (its `activate` is a call that
answers), commands are an opaque `C`, and run ids are an arbitrary type.
-/
namespace TemporalSdk.Worker

/-! ### Activations and completions -/

inductive Job where
  | removeFromCache (message : String)
  | startWorkflow (workflowType : String)
  | other

structure Activation (R : Type) where
  runId : R
  jobs : List Job

/-- The last remove job, by its message. -/
def Activation.cacheRemoveJob {R : Type} (act : Activation R) : Option String :=
  act.jobs.foldl (fun found job => match job with
    | .removeFromCache message => some message
    | _ => found) none

/-- The last start job, by its workflow type. -/
def Activation.startJob {R : Type} (act : Activation R) : Option String :=
  act.jobs.foldl (fun found job => match job with
    | .startWorkflow workflowType => some workflowType
    | _ => found) none

inductive FailureProto where
  /-- What the failure converter made of an exception. -/
  | converted (error : PyError)
  | message (text : String)

inductive Status (C : Type) where
  | successful (commands : List C)
  | failed (failure : FailureProto)

structure Completion (R C : Type) where
  runId : Option R := none
  status : Status C

/-! ### The worker's state -/

structure Config where
  /-- Whether the data converter has a payload codec. -/
  payloadCodec : Bool
  disableSafeEviction : Bool
  /-- The names of the registered workflows, and whether there is a dynamic one. -/
  workflows : List String
  dynamicWorkflow : Bool
  onEvictionHook : Bool
  /-- In seconds; no limit in debug mode. -/
  deadlockTimeoutSeconds : Option Nat

/-- Where a `_handle_activation` task is suspended. -/
inductive Phase (R C : Type) where
  /-- Created, not started. -/
  | scheduled
  /-- In `decode_activation`. -/
  | decoding
  /-- Waiting for `workflow.activate` in the executor. -/
  | activating
  /-- In `encode_completion`. -/
  | encoding (completion : Completion R C)
  /-- In `complete_workflow_activation`, which has been called. -/
  | completing
  /-- Done, with the exception that ended the task. -/
  | finished (error : Option PyError)

structure HandleTask (R C : Type) where
  act : Activation R
  phase : Phase R C := .scheduled
  /-- What the body of the `try` raised. -/
  raised : Option PyError := none

/-- What happened to the instance of a run. -/
inductive CacheEvent (R : Type) where
  /-- `_create_workflow_instance` returned an instance for a start activation. -/
  | created (run : R)
  /-- A remove activation was processed without raising. -/
  | evicted (run : R)

/-- Where `run` is. -/
inductive Poller where
  | polling
  /-- Waiting for the tasks, to raise the given exception then. -/
  | collecting (error : Option PyError)
  | ended (error : Option PyError)

structure State (R W C : Type) where
  runningWorkflows : Dict R W
  couldNotEvictCount : Nat
  throwAfterActivation : Option PyError
  shutdownInitiated : Bool
  poller : Poller
  /-- The tasks in the order of their activations. -/
  tasks : List (HandleTask R C)
  /-- The calls of `complete_workflow_activation`, with the index of the task. -/
  completeCalls : List (Nat × Completion R C)
  cacheHistory : List (CacheEvent R)

/-- A worker that has just started. -/
def State.initial (R W C : Type) : State R W C where
  runningWorkflows := ⟨[], List.nodup_nil⟩
  couldNotEvictCount := 0
  throwAfterActivation := none
  shutdownInitiated := false
  poller := .polling
  tasks := []
  completeCalls := []
  cacheHistory := []

inductive Activated (R C : Type) where
  | returned (completion : Completion R C)
  | raised (error : PyError)
  /-- `wait_for` gave up. -/
  | timedOut

/-- What the calls made in a step answer. A step reads only the answers to the
    calls it makes. -/
structure Answers (R W C : Type) where
  decodeActivation : Except PyError Unit
  createInstance : Except PyError W
  activate : Activated R C
  toFailure : Except PyError Unit
  /-- The encoded completion; the codec reaches payloads only. -/
  encodeCompletion : Except PyError (Status C)
  completeWorkflowActivation : Except PyError Unit
  onEvictionHook : Except PyError Unit

/-! ### Handling an activation -/

section Handling

variable {R W C : Type} [DecidableEq R] (cfg : Config) (answers : Answers R W C)

def notRegistered (workflowType : String) : PyError :=
  let workflowNames := ", ".intercalate (cfg.workflows.mergeSort fun a b => a ≤ b)
  { isException := true
    text := some (s!"Workflow class {workflowType} is not registered on this worker, " ++
      s!"available workflows: {workflowNames}") }

/-- `_create_workflow_instance`. -/
def createWorkflowInstance (workflowType : String) : Except PyError W :=
  if workflowType ∈ cfg.workflows ∨ cfg.dynamicWorkflow then answers.createInstance
  else .error (notRegistered cfg workflowType)

def missingStart : PyError :=
  { isException := true
    text := some "Missing start workflow, workflow could have unexpectedly been removed from cache" }

def deadlock (seconds : Nat) : PyError :=
  { isException := true
    text := some ("[TMPRL1101] Potential deadlock detected, " ++
      s!"workflow didn't yield within {seconds} second(s)") }

variable (s : State R W C) (i : Nat) (t : HandleTask R C)

def State.setTask (t : HandleTask R C) : State R W C := { s with tasks := s.tasks.set i t }

/-- The call of `complete_workflow_activation`. -/
def State.sendOff (completion : Completion R C) : State R W C :=
  { s with completeCalls := s.completeCalls ++ [(i, completion)] }.setTask i
    { t with phase := .completing }

/-- The entry of an evicted run goes, if there is one. -/
def State.evict (run : R) : State R W C :=
  { s with
    runningWorkflows := s.runningWorkflows.erase run
    cacheHistory := s.cacheHistory ++ [.evicted run] }

/-- The entry of a new instance. -/
def State.cache (run : R) (w : W) : State R W C :=
  { s with
    runningWorkflows := s.runningWorkflows.set run w
    cacheHistory := s.cacheHistory ++ [.created run] }

/-- From "Always set the run ID on the completion" to the next `await`. -/
def State.conclude (completion : Completion R C) : State R W C :=
  -- Always set the run ID on the completion
  let completion := { completion with runId := some t.act.runId }
  match t.act.cacheRemoveJob with
  | some _ => (s.evict t.act.runId).sendOff i t completion
  | none =>
    -- Encode the completion if there's a codec and not cache remove job
    if cfg.payloadCodec then s.setTask i { t with phase := .encoding completion }
    else s.sendOff i t completion

/-- The body of the `try` raised. -/
def State.handleError (error : PyError) : State R W C :=
  let t := { t with raised := some error }
  if error.isException then
    match t.act.cacheRemoveJob with
    -- An eviction cannot be failed.
    | some _ =>
      { s with couldNotEvictCount := s.couldNotEvictCount + 1 }.setTask i
        { t with phase := .finished none }
    | none =>
      match answers.toFailure with
      -- Set completion failure
      | .ok () => s.conclude cfg i t { status := .failed (.converted error) }
      | .error inner =>
        if inner.isException then
          match inner.text with
          | some text =>
            let message := "Failed converting activation exception: " ++ text
            s.conclude cfg i t { status := .failed (.message message) }
          -- Raised by the handler itself
          | none => s.setTask i { t with phase := .finished (some .unprintable) }
        else s.setTask i { t with phase := .finished (some inner) }
  else s.setTask i { t with phase := .finished (some error) }

/-- From the lookup of the instance to the start of `activate`. -/
def State.findWorkflow : State R W C :=
  -- We do not even fetch a workflow if it's a cache remove job and safe
  -- evictions are enabled
  let workflow := if t.act.cacheRemoveJob.isNone ∨ ¬ cfg.disableSafeEviction then
    s.runningWorkflows.get? t.act.runId else none
  match workflow, t.act.cacheRemoveJob, t.act.startJob with
  -- Must have a start job to create instance
  | none, none, none => s.handleError cfg answers i t missingStart
  | none, none, some workflowType =>
    match createWorkflowInstance cfg answers workflowType with
    | .ok w => (s.cache t.act.runId w).setTask i { t with phase := .activating }
    | .error error => s.handleError cfg answers i t error
  | some _, _, _ => s.setTask i { t with phase := .activating }
  -- Nothing to activate: the default completion.
  | none, some _, _ => s.conclude cfg i t { status := .successful [] }

/-- After the completion has been sent: the eviction hook. -/
def State.runHook : State R W C :=
  match t.act.cacheRemoveJob, cfg.onEvictionHook, answers.onEvictionHook with
  -- If there is a remove job and an eviction hook, run it
  | some _, true, .error error =>
    if error.isException then
      { s with throwAfterActivation := some error, shutdownInitiated := true }.setTask i
        { t with phase := .finished none }
    else s.setTask i { t with phase := .finished (some error) }
  | _, _, _ => s.setTask i { t with phase := .finished none }

/-- A task runs on to its next `await`. -/
def State.resume : State R W C :=
  match t.phase with
  | .scheduled =>
    -- Decode the activation if there's a codec and not cache remove job
    if cfg.payloadCodec ∧ t.act.cacheRemoveJob.isNone then
      s.setTask i { t with phase := .decoding }
    else s.findWorkflow cfg answers i t
  | .decoding =>
    match answers.decodeActivation with
    | .ok () => s.findWorkflow cfg answers i t
    | .error error => s.handleError cfg answers i t error
  | .activating =>
    match answers.activate with
    | .returned completion => s.conclude cfg i t completion
    | .raised error => s.handleError cfg answers i t error
    | .timedOut => s.handleError cfg answers i t (deadlock (cfg.deadlockTimeoutSeconds.getD 0))
  | .encoding completion =>
    match answers.encodeCompletion with
    | .ok status => s.sendOff i t { completion with status := status }
    | .error error =>
      if error.isException then
        match error.text with
        | some text =>
          let message := "Failed encoding completion: " ++ text
          s.sendOff i t { completion with status := .failed (.message message) }
        | none => s.setTask i { t with phase := .finished (some .unprintable) }
      else s.setTask i { t with phase := .finished (some error) }
  | .completing =>
    match answers.completeWorkflowActivation with
    | .ok () => s.runHook cfg answers i t
    | .error error =>
      -- Logged
      if error.isException then s.runHook cfg answers i t
      else s.setTask i { t with phase := .finished (some error) }
  | .finished _ => s

end Handling

/-! ### Steps -/

inductive Action (R W C : Type) where
  | polled (act : Activation R)
  /-- `PollShutdownError`. -/
  | pollShutdown
  | pollRaised (error : PyError)
  | resume (i : Nat) (answers : Answers R W C)
  /-- `asyncio.wait` of the tasks returns. -/
  | collected

def Phase.isFinished {R C : Type} : Phase R C → Bool
  | .finished _ => true
  | _ => false

def State.step {R W C : Type} [DecidableEq R] (cfg : Config) (s : State R W C) :
    Action R W C → Option (State R W C)
  | .polled act =>
    match s.poller with
    | .polling => some { s with tasks := s.tasks ++ [{ act := act }] }
    | _ => none
  | .pollShutdown =>
    match s.poller with
    | .polling => some { s with poller := .collecting none }
    | _ => none
  | .pollRaised error =>
    match s.poller with
    | .polling =>
      let error :=
        if error.isException then { isException := true, text := some "Workflow worker failed" }
        else error
      some { s with poller := .collecting (some error) }
    | _ => none
  | .resume i answers =>
    match s.tasks[i]? with
    | some t => if t.phase.isFinished then none else some (s.resume cfg answers i t)
    | none => none
  | .collected =>
    match s.poller with
    | .collecting error =>
      if s.tasks.all (·.phase.isFinished) then
        some { s with poller := .ended (error.or s.throwAfterActivation) }
      else none
    | _ => none

end TemporalSdk.Worker
