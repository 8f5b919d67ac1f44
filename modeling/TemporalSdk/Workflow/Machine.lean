import TemporalSdk.Workflow.Jobs

/-!
# Runs of a workflow instance

`activate` and `_run_once` as a machine that takes one step at a time. Workflow
code is arbitrary: whenever it is in control (`Control.code`) the label of the
step says what it does next, so a run of any workflow is a list of labels, and a
statement about all lists of labels is a statement about all workflows. All
other steps (`tick`) are determined by the state.
-/
namespace TemporalSdk.Workflow

open Eff

variable {σ : Type}

/-! ### What workflow code can do -/

/-- One call of workflow code into the SDK or into asyncio. Calls that are built
from these, such as `gather`, `wait_for` or `timeout`, are sequences of them. -/
inductive Act (σ : Type) where
  /-- change its own objects -/
  | write (f : σ → σ)
  | startActivity (input : StartActivityInput)
  | createFuture (role : FutRole)
  | setResult (f : FutId) (value : Obj)
  | setException (f : FutId) (e : Exc)
  /-- `cancel` of a future, a task or a handle -/
  | cancel (f : FutId)
  | addDoneCallback (f : FutId)
  | callSoon
  | callLater (delay : Int)
  | cancelHandle (id : Nat)
  | cancelTimer (seq : Nat)
  | createTask
  /-- `asyncio.Task(...)`, without `create_task` -/
  | newTask
  /-- a `wait_condition` whose future `wait_for` does not await directly -/
  | registerCondition (fn : Cond σ)
  | setSignalHandler (name : Option String) (handler : Option HandlerFn)
  | setQueryHandler (name : Option String) (handler : Option HandlerFn)
  | setUpdateHandler (name : Option String) (handler : Option HandlerFn) (validator : Option Obj)
  | patch (id : String) (deprecated : Bool)
  | upsertSearchAttributes (attributes : Obj)
  -- calls that may suspend the task
  | await (f : FutId)
  | bareYield
  | waitCondition (fn : Cond σ)
  | startChildWorkflow (input : StartChildWorkflowInput)
  /-- `signal` of a child handle or of an external handle -/
  | signalExternalWorkflow (ofChild : Bool) (args : List Obj)
  | cancelExternalWorkflow
  -- the end of the code
  | ret (value : Obj)
  | raise (e : Exc)

/-- The roles of the futures that workflow code creates. -/
def FutRole.ofUser : FutRole → Bool
  | .user | .gather _ => true
  | _ => false

/-- Whether workflow code can hold what the call is about. -/
def Act.enabled (s : Inst σ) : Act σ → Bool
  | .createFuture role => role.ofUser
  | .setResult f _ | .setException f _ => f < s.nextFut && (s.futs f).role.ofUser
  | .cancel f | .addDoneCallback f | .await f => f < s.nextFut && (s.futs f).role.visible
  | .cancelHandle id => id < s.nextHandle
  | .cancelTimer seq => decide ((s.timers seq).callback = .user)
  | _ => true

/-- `workflow_wait_condition` up to its `await`. -/
def addCondition (fn : Cond σ) : Wf σ FutId := do
  assertNotReadOnly "wait condition" false
  let f ← createFuture .condition
  update fun s => { s with conditions := s.conditions ++ [(fn, f)] }
  pure f

/-- Calls that return at once. -/
def performCall (det : Details σ) : Act σ → Wf σ Unit
  | .write f => update fun s => { s with mem := f s.mem }
  | .startActivity input => do
    let _ ← workflowStartActivity det input
    pure ()
  | .createFuture role => do
    let _ ← createFuture role
    pure ()
  | .setResult f value => setOutcome f (.result value)
  | .setException f e => setOutcome f (.exception e)
  | .cancel f => do
    let _ ← cancelFut f
    pure ()
  | .addDoneCallback f => addDoneCallback f .user
  | .callSoon => do
    let _ ← callSoonUser
    pure ()
  | .callLater delay => do
    let _ ← callLater delay .user
    pure ()
  | .cancelHandle id => update fun s => { s with
      cancelledHandles := Function.update s.cancelledHandles id true }
  | .cancelTimer seq => timerCancel seq
  | .createTask => do
    let _ ← createTask .user
    pure ()
  | .newTask => do
    let _ ← newTask .user
    pure ()
  | .registerCondition fn => do
    let _ ← addCondition fn
    pure ()
  | .setSignalHandler name handler => workflowSetSignalHandler det name handler
  | .setQueryHandler name handler => workflowSetQueryHandler name handler
  | .setUpdateHandler name handler validator => workflowSetUpdateHandler name handler validator
  | .patch id deprecated => do
    let _ ← workflowPatch id deprecated
    pure ()
  | .upsertSearchAttributes attributes => workflowUpsertSearchAttributes det attributes
  | _ => pure ()

/-- Calls that may suspend task `t`: `none` when they do. -/
def performAwait (det : Details σ) (t : FutId) : Act σ → Option (Wf σ (Option Obj))
  | .await f => some (do
    let s ← state
    if f = t then
      raise (.error (.runtimeError "Task cannot await on itself"))
    else if s.isDone f then
      ofExcept ((s.futs f).state.outcome.map some)
    else do
      suspendOn t (.suspended (some f)) f
      pure none)
  | .bareYield => some (do
    setPoint t (.suspended none)
    pure none)
  | .waitCondition fn => some (do
    let f ← addCondition fn
    suspendOn t (.suspended (some f)) f
    pure none)
  | .startChildWorkflow input => some (outboundStartChildWorkflow det t input)
  | .signalExternalWorkflow ofChild args => some (signalExternalWorkflow det t ofChild args)
  | .cancelExternalWorkflow => some (cancelExternalWorkflow t)
  | _ => none

/-! ### The machine -/

/-- A pass of the loop over `job_sets`: the index of the set being processed and
the sets after it. -/
structure Frame where
  index : Nat
  later : List (List Job)
  deriving DecidableEq

/-- Where `activate` stands. -/
inductive Control where
  /-- not in `activate` -/
  | idle
  /-- `for index, job_set in enumerate(job_sets)` -/
  | sets (frame : Frame)
  /-- `for job in job_set` -/
  | jobs (rest : List Job) (frame : Frame)
  /-- at the top of `_run_once` -/
  | enter (frame : Frame)
  /-- at the outer `while self._ready` -/
  | outer (frame : Frame)
  /-- at the inner `while self._ready` -/
  | inner (frame : Frame)
  /-- workflow code is running -/
  | code (ctx : Ctx) (frame : Frame)
  deriving DecidableEq

/-- How `activate` ends. -/
inductive Outcome where
  | returned (completion : Completion)
  | raised (e : Exc)
  deriving DecidableEq

/-- The commands of the activation do not reach core. -/
def Outcome.lost : Outcome → Bool
  | .returned (.successful _) => false
  | _ => true

/-- What `activate` did, in order. -/
inductive Entry where
  | applied (job : Job)
  /-- the comprehension over the wait conditions ran in set `index` -/
  | checked (index : Nat)
  /-- `_run_once` returned for set `index`, with this ready queue -/
  | ran (index : Nat) (ready : List Handle)
  /-- an exception left a job application or `_run_once` -/
  | raised (e : Exc)
  deriving DecidableEq

structure Machine (σ : Type) where
  inst : Inst σ
  control : Control
  /-- the commands of the successful completions returned so far -/
  sent : List Command
  outcome : Option Outcome
  /-- the commands of an activation have been lost -/
  failed : Bool
  journal : List Entry

namespace Machine

def init (det : Details σ) (mem : σ) : Machine σ where
  inst := Inst.init det mem
  control := .idle
  sent := []
  outcome := none
  failed := false
  journal := []

/-- Every command emitted in the run so far, in order. -/
def emitted (m : Machine σ) : List Command := m.sent ++ m.inst.commands

def note (m : Machine σ) (e : Entry) : Machine σ := { m with journal := m.journal ++ [e] }

/-- Continue with the state a program left behind. -/
def goto (m : Machine σ) (inst : Inst σ) (control : Control) : Machine σ :=
  { m with inst := inst, control := control }

/-- Leave `activate`. The commands of a completion that is not returned as
successful are lost: setting `failed` clears `successful`. -/
def leave (m : Machine σ) (outcome : Outcome) : Machine σ :=
  { m with
    control := .idle
    inst := { m.inst with commands := [] }
    outcome := some outcome
    failed := m.failed || outcome.lost }

/-- The end of `activate`, from the check for remaining tasks on. -/
def complete (det : Details σ) (m : Machine σ) (activationErr : Option Error) : Machine σ :=
  -- If we're deleting, there better be no more tasks
  if m.inst.deleting && !m.inst.registered.isEmpty then
    m.leave (.raised (.error (.runtimeError
      s!"Eviction processed, but {m.inst.registered.length} tasks remain")))
  else
    match activationErr.filter Error.truthy with
    -- Set completion failure
    | some e => m.leave (.returned (.failed (det.toFailure e).toOption))
    | none =>
      { m with sent := m.sent ++ m.inst.commands }.leave
        (.returned (.successful m.inst.commands))

/-- The `except Exception` clause of `activate`, and what follows it. -/
def raised (det : Details σ) (m : Machine σ) (e : Exc) : Machine σ :=
  let m := m.note (.raised e)
  match e with
  | .error err =>
    -- We want some errors during activation, like those that can happen during
    -- payload conversion, to be able to fail the workflow not the task
    if det.isWorkflowFailureException err then
      match setWorkflowFailure det err m.inst with
      | (.ok (), inst) => complete det { m with inst := inst } none
      | (.error (.error inner), inst) =>
        complete det { m with inst := inst } (if inst.deleting then none else some inner)
      | (.error e, inst) => { m with inst := inst }.leave (.raised e)
    else
      -- If we're deleting, swallow any activation error
      complete det m (if m.inst.deleting then none else some err)
  | e => m.leave (.raised e)

/-- The end of `handle._run()`: must throw here if not deleting. -/
def handleDone (det : Details σ) (m : Machine σ) (inst : Inst σ) (frame : Frame) : Machine σ :=
  match inst.activationError with
  | some e =>
    if e.truthy && !inst.deleting then raised det (m.goto inst (.inner frame)) (.error e)
    else m.goto inst (.inner frame)
  | none => m.goto inst (.inner frame)

/-- The `except` clauses of `Handle._run`. -/
def handleRaised (det : Details σ) (m : Machine σ) (inst : Inst σ) (frame : Frame) (e : Exc) :
    Machine σ :=
  -- it leaves `_run_once` and, as it is no `Exception`, `activate` too
  if e.exits then raised det (m.goto inst (.inner frame)) e
  else handleDone det m (callExceptionHandler inst).2 frame

/-- Continue after a part of `handle._run()` that may call workflow code. -/
def handleNext (det : Details σ) (m : Machine σ) (frame : Frame)
    (r : Except Exc (Option Ctx) × Inst σ) : Machine σ :=
  match r with
  | (.ok (some ctx), inst) => m.goto inst (.code ctx frame)
  | (.ok none, inst) => handleDone det m inst frame
  | (.error e, inst) => handleRaised det m inst frame e

end Machine

/-- The conditions kept by the comprehension in `_run_once`. -/
def checkConditionList : List (Cond σ × FutId) → Wf σ (List (Cond σ × FutId))
  | [] => pure []
  | (fn, f) :: rest => do
    let s ← state
    -- futures that have already been cancelled (e.g. when timed out)
    if s.isDone f then
      checkConditionList rest
    else
      match fn s.view with
      | .error e => raise e
      | .ok true => do
        update fun s => s.log (.conditionResolved f)
        setOutcome f (.result 1)
        checkConditionList rest
      | .ok false => do
        let kept ← checkConditionList rest
        pure ((fn, f) :: kept)

/-- `self._conditions[:] = [...]`. -/
def checkConditions : Wf σ Unit := do
  let s ← state
  let kept ← checkConditionList s.conditions
  update fun s => { s with conditions := kept }

/-- `check_conditions=index == 1 or index == 2`. -/
def Frame.checks (frame : Frame) : Bool := frame.index == 1 || frame.index == 2

/-- The next job set: `enumerate` counts on. -/
def Frame.next (frame : Frame) (later : List (List Job)) : Frame := ⟨frame.index + 1, later⟩

/-- Which of the four sets `activate` puts a job into. -/
def jobSet : Job → Nat
  | .notifyHasPatch _ => 0
  | .signalWorkflow _ | .doUpdate _ => 1
  | .queryWorkflow _ => 3
  | _ => 2

/-- `job_sets`, filled by one pass over the jobs. -/
def jobSets (jobs : List Job) : List (List Job) :=
  jobs.foldl (fun sets job => sets.modify (jobSet job) (· ++ [job])) [[], [], [], []]

/-- The beginning of `activate`. -/
def Machine.activate (m : Machine σ) (jobs : List Job) (isReplaying : Bool) : Machine σ :=
  { m with
    inst := { m.inst with commands := [], activationError := none, isReplaying := isReplaying }
    control := .sets ⟨0, jobSets jobs⟩
    outcome := none }

/-- A step of the SDK. -/
def tick (det : Details σ) (m : Machine σ) : Option (Machine σ) :=
  match m.control with
  | .idle => none
  | .code _ _ => none
  | .sets ⟨_, []⟩ => some (m.complete det none)
  | .sets ⟨index, [] :: later⟩ => some { m with control := .sets ⟨index + 1, later⟩ }
  | .sets ⟨index, (job :: jobs) :: later⟩ =>
    some { m with control := .jobs (job :: jobs) ⟨index, later⟩ }
  | .jobs [] frame => some { m with control := .enter frame }
  | .jobs (job :: rest) frame =>
    match applyJob det job m.inst with
    | (.ok (), inst) => some ((m.goto inst (.jobs rest frame)).note (.applied job))
    | (.error e, inst) => some (Machine.raised det { m with inst := inst } e)
  | .enter frame =>
    -- `if not self._object`, which asks the object for its truth value
    if m.inst.object.isSome && det.objectTruthy m.inst.mem then
      some { m with control := .outer frame }
    else
      some { m with control := .code .init frame }
  | .outer frame =>
    -- Run while there is anything ready
    if m.inst.ready.isEmpty then
      some ({ m with control := .sets (frame.next frame.later) }.note
        (.ran frame.index m.inst.ready))
    else
      some { m with control := .inner frame }
  | .inner frame =>
    match m.inst.ready with
    -- Run and remove all ready ones
    | h :: rest => some (m.handleNext det frame (handleRun det h (m.inst.setReady rest)))
    | [] =>
      -- Check conditions which may add to the ready list
      if frame.checks then
        match checkConditions m.inst with
        | (.ok (), inst) => some ((m.goto inst (.outer frame)).note (.checked frame.index))
        | (.error e, inst) => some (Machine.raised det { m with inst := inst } e)
      else
        some { m with control := .outer frame }

/-- Workflow code has ended. -/
def finishContext (det : Details σ) (m : Machine σ) (ctx : Ctx) (frame : Frame)
    (r : Except Exc Obj) : Machine σ :=
  match ctx with
  | .init =>
    match r with
    -- `self._object` is set when the constructor has returned
    | .ok _ => { m with
        inst := { m.inst with object := some m.inst.nextObject, nextObject := m.inst.nextObject + 1 }
        control := .outer frame }
    | .error e => Machine.raised det m e
  | .callback =>
    match r with
    | .ok _ => m.handleDone det m.inst frame
    | .error e => m.handleRaised det m.inst frame e
  | .validator t job defn command prev =>
    m.handleNext det frame
      ((finishValidator det t job defn command prev r >>= stepNext t) m.inst)
  | .task t =>
    match m.inst.tasks t with
    | some task => m.handleNext det frame ((finishCode det t task.root r >>= stepNext t) m.inst)
    | none => m

/-- A step of workflow code. -/
def perform (det : Details σ) (m : Machine σ) (a : Act σ) : Option (Machine σ) :=
  match m.control with
  | .code ctx frame =>
    if a.enabled m.inst then
      match a with
      | .ret value => some (finishContext det m ctx frame (.ok value))
      | .raise e => some (finishContext det m ctx frame (.error e))
      | a =>
        match ctx with
        | .task t =>
          match performAwait det t a with
          | none => some { m with inst := (performCall det a m.inst).2 }
          | some call =>
            match call m.inst with
            | (.ok none, inst) => some (m.handleNext det frame (stepNext t (.done (.ok none)) inst))
            -- a value or an exception goes to the workflow code
            | (_, inst) => some { m with inst := inst }
        | _ =>
          match performAwait det 0 a with
          | none => some { m with inst := (performCall det a m.inst).2 }
          -- no `await` outside a coroutine
          | some _ => none
    else
      none
  | _ => none

inductive Label (σ : Type) where
  /-- core hands over an activation -/
  | activate (jobs : List Job) (isReplaying : Bool)
  | tick
  | act (a : Act σ)

/-- One step. `activate` is only called on an idle instance. -/
def step (det : Details σ) (m : Machine σ) : Label σ → Option (Machine σ)
  | .activate jobs isReplaying =>
    match m.control with
    | .idle => some (m.activate jobs isReplaying)
    | _ => none
  | .tick => tick det m
  | .act a => perform det m a

def run (det : Details σ) (m : Machine σ) : List (Label σ) → Option (Machine σ)
  | [] => some m
  | l :: ls => (step det m l).bind fun m' => run det m' ls

end TemporalSdk.Workflow
