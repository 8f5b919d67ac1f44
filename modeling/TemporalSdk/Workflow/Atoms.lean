import TemporalSdk.Workflow.Frames

/-!
# Atoms of the loop

The operations of `Loop`, the outbound calls and the resolutions change the
instance in a fixed number of ways. An `Atom` is one such change, with the facts
the code has checked when it makes it. Its kind says who makes it: the loop on
behalf of anyone, a coroutine on its own task, an outbound call, a job, or a
handle that passes an outcome on.
-/
namespace TemporalSdk.Workflow

open Eff

variable {σ : Type}

inductive Kind where
  /-- what the loop does for anyone -/
  | loop
  /-- what the coroutine of a task does to the task itself -/
  | own (t : FutId)
  /-- timers of workflow code -/
  | timer
  /-- a timer of workflow code whose delay cannot be converted -/
  | refused
  /-- the timer of a backoff, in the coroutine of an activity -/
  | sleep (t : FutId)
  /-- an outbound call -/
  | issue
  /-- the command of an outbound call that is not registered -/
  | broken
  /-- a job resolves an outbound call or fires a timer -/
  | resolve
  /-- an outcome is passed on to an outer future -/
  | deliver
  /-- handler tables, cancelled handles and what jobs write down -/
  | book
  /-- patches and their markers -/
  | patch
  /-- the updates in progress -/
  | progress
  /-- the objects of workflow code -/
  | mem
  /-- the read-only flag -/
  | mode
  | evict
  /-- the recorded activation error -/
  | error
  /-- a command that is neither outbound nor an update response -/
  | command
  /-- a response to the update with this protocol instance id -/
  | update (pid : String)
  /-- signal handlers, the signal buffer and the tasks of signals -/
  | signal
  /-- a signal handler is called -/
  | call
  /-- a wait condition is added -/
  | condition
  /-- the wait conditions are checked -/
  | check
  /-- a handle is taken from the ready queue -/
  | pop
  /-- a task of a job is created -/
  | spawn
  /-- workflow code creates a task -/
  | create
  /-- workflow code makes a task that it does not register -/
  | bare
  /-- a task is about to run -/
  | wake (t : FutId)
  /-- a task is done -/
  | finish (t : FutId)
  /-- the workflow object is created -/
  | construct
  /-- `activate` begins or ends -/
  | turn
  deriving DecidableEq

/-- Timers of workflow code are anyone's, that of a backoff is its activity's. -/
def Kind.ownsTimer (k : Kind) (handle : TimerHandle) : Prop :=
  (∃ t, k = .sleep t) ∨ k = .timer ∧ handle.callback = .user

/-- Callbacks that workflow code adds. -/
def Callback.plain : Callback → Bool
  | .user => true
  | _ => false

/-- Handles that workflow code or a job puts on the queue. -/
def Handle.plain : Handle → Bool
  | .callback cb _ => cb.plain
  | .cancelPrimaryTask _ => true
  | _ => false

/-- The retry policy of an outbound call passes its validation and fits the message. -/
def validRetryPolicy (policy : Option RetryPolicy) : Bool :=
  policy.all fun p => p.applyToProto.toBool

/-! ### States after compound changes -/

/-- The state after `Task.__init__`. -/
def Inst.spawned (s : Inst σ) (root : Root) : Inst σ :=
  { s with
    futs := Function.update s.futs s.nextFut ⟨.task, .pending, []⟩
    tasks := Function.update s.tasks s.nextFut (some ⟨root, .start, false, 0⟩)
    nextFut := s.nextFut + 1
    ready := s.ready ++ [.taskStep s.nextFut] }

/-- The state after `create_task`, which also registers the task. -/
def Inst.created (s : Inst σ) (root : Root) : Inst σ :=
  { s with
    futs := Function.update s.futs s.nextFut ⟨.task, .pending, [.tasksRemove]⟩
    tasks := Function.update s.tasks s.nextFut (some ⟨root, .start, false, 0⟩)
    nextFut := s.nextFut + 1
    ready := s.ready ++ [.taskStep s.nextFut]
    registered := s.registered ++ [s.nextFut] }

/-- The state after `call_later`. -/
def Inst.timed (s : Inst σ) (delay : Int) (callback : TimerCallback) : Inst σ :=
  { s with
    currSeqs := Function.update s.currSeqs .timer (s.currSeqs .timer + 1)
    commands := s.commands ++ [.startTimer (s.currSeqs .timer + 1) delay]
    timers := Function.update s.timers (s.currSeqs .timer + 1) ⟨callback, false⟩
    pendingTimers := Function.update s.pendingTimers (s.currSeqs .timer + 1) true
    trace := s.trace ++ [.timerStarted (s.currSeqs .timer + 1)] }

/-- The state after `call_later` with a delay that cannot be converted. -/
def Inst.timerRefused (s : Inst σ) (delay : Int) : Inst σ :=
  { s with
    currSeqs := Function.update s.currSeqs .timer (s.currSeqs .timer + 1)
    commands := s.commands ++ [.startTimer (s.currSeqs .timer + 1) delay]
    trace := s.trace ++ [.timerStarted (s.currSeqs .timer + 1)] }

/-- The state after `TimerHandle.cancel` on a pending timer. -/
def Inst.timerCancelled (s : Inst σ) (seq : Nat) : Inst σ :=
  { s with
    pendingTimers := Function.update s.pendingTimers seq false
    commands := s.commands ++ [.cancelTimer seq]
    timers := Function.update s.timers seq { s.timers seq with cancelled := true }
    trace := s.trace ++ [.timerCancelled seq] }

/-- The state after a promise has got another shield, which `t` will wait on. -/
def Inst.shielded (s : Inst σ) (t : FutId) (p : PromiseId) : Inst σ :=
  { s with
    outers := Function.update s.outers s.nextOuter ⟨t, some p, .pending⟩
    promises := Function.update s.promises p
      { s.promises p with shields := (s.promises p).shields ++ [s.nextOuter] }
    nextOuter := s.nextOuter + 1 }

/-- The state after `_ActivityHandle.__init__` with a task in the state `task`
that has these callbacks and `registered` for the tasks. -/
def Inst.activityMade (s : Inst σ) (input : StartActivityInput) (callbacks : List Callback)
    (registered : List FutId) : Inst σ :=
  { s with
    currSeqs := Function.update s.currSeqs .activity (s.currSeqs .activity + 1)
    promises := Function.update s.promises s.nextPromise ⟨none, []⟩
    nextPromise := s.nextPromise + 1
    futs := Function.update s.futs s.nextFut ⟨.task, .pending, callbacks⟩
    tasks := Function.update s.tasks s.nextFut (some ⟨.activity, .start, false, 0⟩)
    nextFut := s.nextFut + 1
    ready := s.ready ++ [.taskStep s.nextFut]
    registered := registered
    activities := Function.update s.activities s.nextFut
      ⟨s.currSeqs .activity + 1, input, s.nextPromise, false⟩ }

/-- The state after `_ActivityHandle.__init__`. -/
def Inst.activityCreated (s : Inst σ) (input : StartActivityInput) : Inst σ :=
  s.activityMade input [.tasksRemove] (s.registered ++ [s.nextFut])

/-- The same when the registration is refused. -/
def Inst.activitySpawned (s : Inst σ) (input : StartActivityInput) : Inst σ :=
  s.activityMade input [] s.registered

/-- `_ActivityHandle._apply_schedule_command`: the command it adds. -/
def ActivityHandle.scheduleCommand (h : ActivityHandle) (backoff : Option DoBackoff) : Command :=
  if h.input.isLocal then .scheduleLocalActivity h.seq backoff else .scheduleActivity h.seq

/-- The state after an activity has been scheduled and registered. -/
def Inst.scheduled (s : Inst σ) (t : FutId) (backoff : Option DoBackoff) : Inst σ :=
  { s with
    commands := s.commands ++ [(s.activities t).scheduleCommand backoff]
    pendingActivities := Function.update s.pendingActivities (s.activities t).seq (some t) }

/-- The state after `_ChildWorkflowHandle.__init__`, whose sequence number was
taken just before. -/
def Inst.childMade (s : Inst σ) (input : StartChildWorkflowInput)
    (callbacks : List Callback) (registered : List FutId) : Inst σ :=
  { s with
    promises := Function.update (Function.update s.promises s.nextPromise ⟨none, []⟩)
      (s.nextPromise + 1) ⟨none, []⟩
    nextPromise := s.nextPromise + 2
    futs := Function.update s.futs s.nextFut ⟨.task, .pending, callbacks⟩
    tasks := Function.update s.tasks s.nextFut (some ⟨.child, .start, false, 0⟩)
    nextFut := s.nextFut + 1
    ready := s.ready ++ [.taskStep s.nextFut]
    registered := registered
    children := Function.update s.children s.nextFut
      ⟨s.currSeqs .childWorkflow, input, s.nextPromise, s.nextPromise + 1, "<unknown>"⟩ }

/-- The state after `_ChildWorkflowHandle.__init__`. -/
def Inst.childCreated (s : Inst σ) (input : StartChildWorkflowInput) : Inst σ :=
  s.childMade input [.tasksRemove] (s.registered ++ [s.nextFut])

/-- The same when the registration is refused. -/
def Inst.childSpawned (s : Inst σ) (input : StartChildWorkflowInput) : Inst σ :=
  s.childMade input [] s.registered

/-- The state after a child workflow has been started and registered. -/
def Inst.childStarted (s : Inst σ) (c : FutId) : Inst σ :=
  { s with
    commands := s.commands ++ [.startChildWorkflowExecution (s.children c).seq]
    pendingChildWorkflows :=
      Function.update s.pendingChildWorkflows (s.children c).seq (some c) }

/-- The state after an external signal has been sent and registered. -/
def Inst.signalled (s : Inst σ) : Inst σ :=
  { s with
    commands := s.commands ++ [.signalExternalWorkflowExecution (s.currSeqs .externalSignal + 1)]
    currSeqs := Function.update s.currSeqs .externalSignal (s.currSeqs .externalSignal + 1)
    promises := Function.update s.promises s.nextPromise ⟨none, []⟩
    nextPromise := s.nextPromise + 1
    pendingExternalSignals := Function.update s.pendingExternalSignals
      (s.currSeqs .externalSignal + 1) (some s.nextPromise) }

/-- The state after an external cancel has been requested and registered. -/
def Inst.cancelRequestSent (s : Inst σ) : Inst σ :=
  { s with
    commands := s.commands ++
      [.requestCancelExternalWorkflowExecution (s.currSeqs .externalCancel + 1)]
    currSeqs := Function.update s.currSeqs .externalCancel (s.currSeqs .externalCancel + 1)
    futs := Function.update s.futs s.nextFut ⟨.externalCancel, .pending, []⟩
    nextFut := s.nextFut + 1
    pendingExternalCancels := Function.update s.pendingExternalCancels
      (s.currSeqs .externalCancel + 1) (some s.nextFut) }

/-- The beginning of `_ActivityHandle._resolve_backoff`. -/
def Inst.reseqed (s : Inst σ) (t : FutId) : Inst σ :=
  { s with
    currSeqs := Function.update s.currSeqs .activity (s.currSeqs .activity + 1)
    activities := Function.update s.activities t
      { s.activities t with seq := s.currSeqs .activity + 1 } }

/-- The end of `_ActivityHandle._resolve_backoff`. -/
def Inst.backedOff (s : Inst σ) (t : FutId) : Inst σ :=
  { s with
    promises := Function.update s.promises s.nextPromise ⟨none, []⟩
    nextPromise := s.nextPromise + 1
    activities := Function.update s.activities t
      { s.activities t with resultFut := s.nextPromise, started := false } }

/-! ### The atoms -/

inductive Atom : Kind → Inst σ → Inst σ → Prop
  -- the loop
  | callSoon (s : Inst σ) (writable : s.readOnly = false) : Atom .loop s
      { s with ready := s.ready ++ [.user s.nextHandle], nextHandle := s.nextHandle + 1 }
  | push (s : Inst σ) (writable : s.readOnly = false) {h : Handle} (plain : h.plain = true) :
      Atom .loop s (s.pushReady h)
  | newFut (s : Inst σ) {role : FutRole} (ofUser : role.ofUser = true) :
      Atom .loop s { s.setFut s.nextFut ⟨role, .pending, []⟩ with nextFut := s.nextFut + 1 }
  | addCallback (s : Inst σ) (f : FutId) {cb : Callback} (plain : cb.plain = true) :
      Atom .loop s (s.setFut f { s.futs f with callbacks := (s.futs f).callbacks ++ [cb] })
  | settle (s : Inst σ) {f : FutId} {new : FutState} (done : new.done = true)
      (pending : s.isDone f = false) (notTask : s.tasks f = none)
      (ofUser : new = .cancelled ∨ (s.futs f).role.ofUser = true) : Atom .loop s (s.settled f new)
  | cancelOuter (s : Inst σ) {o : OuterId} (pending : (s.outers o).state = .pending)
      (waits : ∃ t task, s.tasks t = some task ∧ task.point.waiter = .outer o) :
      Atom .loop s (s.outerSettled o .cancelled)
  | createUser (s : Inst σ) (isOpen : s.open = true) : Atom .create s (s.created .user)
  | strayUser (s : Inst σ) (evicting : s.deleting = true) (writable : s.readOnly = false) :
      Atom .create s (s.spawned .user)
  | bareUser (s : Inst σ) (writable : s.readOnly = false) : Atom .bare s (s.spawned .user)
  | request (s : Inst σ) {t : FutId} {task : Task} (isTask : s.tasks t = some task)
      (alive : s.isDone t = false) :
      Atom .loop s (s.setTask t { task with cancelling := task.cancelling + 1 })
  | mustCancel (s : Inst σ) {t : FutId} {task : Task} (isTask : s.tasks t = some task)
      (settled : ∀ o, task.point.waiter = .outer o → (s.outers o).state ≠ .pending) :
      Atom .loop s (s.setTask t { task with mustCancel := true })
  | cancelActivity (s : Inst σ) {t : FutId} {task : Task} (isTask : s.tasks t = some task)
      (isActivity : task.root = .activity) (isOpen : s.open = true)
      (notStarted : (s.activities t).started = false) (alive : s.isDone t = false) :
      Atom .loop s (s.pushCommand (s.activities t).cancelCommand)
  | timer (s : Inst σ) (delay : Int) (isOpen : s.open = true) : Atom .timer s (s.timed delay .user)
  | refusedTimer (s : Inst σ) (delay : Int) (isOpen : s.open = true) :
      Atom .refused s (s.timerRefused delay)
  | cancelTimer (s : Inst σ) {k : Kind} {seq : Nat} (owns : k.ownsTimer (s.timers seq))
      (isOpen : s.open = true) (pending : s.pendingTimers seq = true) :
      Atom k s (s.timerCancelled seq)
  | dropTimer (s : Inst σ) {k : Kind} {seq : Nat} (owns : k.ownsTimer (s.timers seq))
      (closed : s.open = false) (pending : s.pendingTimers seq = true) :
      Atom k s { s with pendingTimers := Function.update s.pendingTimers seq false }
  | markTimer (s : Inst σ) {k : Kind} {seq : Nat} (owns : k.ownsTimer (s.timers seq))
      (notPending : s.pendingTimers seq = false) :
      Atom k s (s.setTimer seq { s.timers seq with cancelled := true })
  -- a coroutine and its task
  | wakeup (s : Inst σ) (t f : FutId) (writable : s.readOnly = false) (done : s.isDone f = true) :
      Atom (.own t) s (s.pushReady (.callback (.wakeup t) f))
  | addWakeup (s : Inst σ) (t f : FutId) : Atom (.own t) s
      (s.setFut f { s.futs f with callbacks := (s.futs f).callbacks ++ [.wakeup t] })
  | yield (s : Inst σ) (t : FutId) (writable : s.readOnly = false) :
      Atom (.own t) s (s.pushReady (.taskStep t))
  | setPoint (s : Inst σ) {t : FutId} {task : Task} (isTask : s.tasks t = some task) {point : Point}
      (notStart : point ≠ .start)
      (stands : ∀ o, point.waiter = .outer o → o < s.nextOuter ∧ (s.outers o).owner = t) :
      Atom (.own t) s (s.setTask t { task with point := point })
  | clearCancel (s : Inst σ) {t : FutId} {task : Task} (isTask : s.tasks t = some task) :
      Atom (.own t) s (s.setTask t { task with mustCancel := false })
  | started (s : Inst σ) (t : FutId) : Atom (.own t) s
      (s.setActivity t { s.activities t with started := true })
  | shield (s : Inst σ) (t : FutId) {p : PromiseId} (pending : (s.promises p).state = none) :
      Atom (.own t) s (s.shielded t p)
  | sleepOuter (s : Inst σ) (t : FutId) : Atom (.own t) s
      { s.setOuter s.nextOuter ⟨t, none, .pending⟩ with nextOuter := s.nextOuter + 1 }
  | sleepTimer (s : Inst σ) (t : FutId) (delay : Int) (o : OuterId) (isOpen : s.open = true)
      (bound : o < s.nextOuter) (owner : (s.outers o).owner = t) :
      Atom (.sleep t) s (s.timed delay (.sleep o))
  | cancelOwn (s : Inst σ) (t : FutId) (isOpen : s.open = true) :
      Atom (.own t) s (s.pushCommand (s.activities t).cancelCommand)
  | cancelChild (s : Inst σ) (t c : FutId) (isOpen : s.open = true) :
      Atom (.own t) s (s.pushCommand (.cancelChildWorkflowExecution (s.children c).seq))
  | cancelSignal (s : Inst σ) (t : FutId) (seq : Nat) (isOpen : s.open = true) :
      Atom (.own t) s (s.pushCommand (.cancelSignalWorkflow seq))
  -- outbound calls
  | newActivity (s : Inst σ) (input : StartActivityInput) (isOpen : s.open = true) :
      Atom .issue s (s.activityCreated input)
  | strayActivity (s : Inst σ) (input : StartActivityInput) (evicting : s.deleting = true)
      (writable : s.readOnly = false) : Atom .issue s (s.activitySpawned input)
  | schedule (s : Inst σ) (t : FutId) (backoff : Option DoBackoff) (isOpen : s.open = true)
      (valid : validRetryPolicy (s.activities t).input.retryPolicy = true) :
      Atom .issue s (s.scheduled t backoff)
  | scheduleBroken (s : Inst σ) (t : FutId) (backoff : Option DoBackoff) (isOpen : s.open = true)
      (invalid : validRetryPolicy (s.activities t).input.retryPolicy = false) :
      Atom .broken s (s.pushCommand ((s.activities t).scheduleCommand backoff))
  | returned (s : Inst σ) (t : FutId) : Atom .issue s (s.log (.activityHandle t))
  | childSeq (s : Inst σ) : Atom .issue s
      { s with
        currSeqs := Function.update s.currSeqs .childWorkflow (s.currSeqs .childWorkflow + 1) }
  | newChild (s : Inst σ) (input : StartChildWorkflowInput) (isOpen : s.open = true) :
      Atom .issue s (s.childCreated input)
  | strayChild (s : Inst σ) (input : StartChildWorkflowInput) (evicting : s.deleting = true)
      (writable : s.readOnly = false) : Atom .issue s (s.childSpawned input)
  | startChild (s : Inst σ) (c : FutId) (isOpen : s.open = true) : Atom .issue s (s.childStarted c)
  | startChildBroken (s : Inst σ) (c : FutId) (isOpen : s.open = true) :
      Atom .broken s (s.pushCommand (.startChildWorkflowExecution (s.children c).seq))
  | signal (s : Inst σ) (isOpen : s.open = true) : Atom .issue s s.signalled
  | cancelExternal (s : Inst σ) (isOpen : s.open = true) : Atom .issue s s.cancelRequestSent
  -- jobs
  | fulfill (s : Inst σ) {p : PromiseId} (pending : (s.promises p).state = none)
      (outcome : PromiseOutcome) : Atom .resolve s (s.fulfilled p outcome)
  | popActivity (s : Inst σ) (seq : Nat) : Atom .resolve s
      { s with pendingActivities := Function.update s.pendingActivities seq none }
  | popChild (s : Inst σ) (seq : Nat) : Atom .resolve s
      { s with pendingChildWorkflows := Function.update s.pendingChildWorkflows seq none }
  | popSignal (s : Inst σ) (seq : Nat) : Atom .resolve s
      { s with pendingExternalSignals := Function.update s.pendingExternalSignals seq none }
  | popCancel (s : Inst σ) (seq : Nat) : Atom .resolve s
      { s with pendingExternalCancels := Function.update s.pendingExternalCancels seq none }
  | backoffSeq (s : Inst σ) (t : FutId) : Atom .resolve s (s.reseqed t)
  | backoff (s : Inst σ) (t : FutId) : Atom .resolve s (s.backedOff t)
  | childRunId (s : Inst σ) (c : FutId) (runId : String) : Atom .resolve s
      (s.setChild c { s.children c with firstExecutionRunId := runId })
  | resolveCancel (s : Inst σ) {f : FutId} {new : FutState} (done : new.done = true)
      (pending : s.isDone f = false)
      (role : (s.futs f).role = .externalCancel) (notTask : s.tasks f = none) :
      Atom .resolve s (s.settled f new)
  | fire (s : Inst σ) {seq : Nat} (pending : s.pendingTimers seq = true) : Atom .resolve s
      { s with
        ready := s.ready ++ [.timer seq]
        pendingTimers := Function.update s.pendingTimers seq false
        trace := s.trace ++ [.timerFired seq] }
  -- handles of the loop
  | deliver (s : Inst σ) {o : OuterId} {p : PromiseId} {outcome : PromiseOutcome}
      (pending : (s.outers o).state = .pending) (source : (s.outers o).source = some p)
      (fulfilled : (s.promises p).state = some outcome) :
      Atom .deliver s (s.outerSettled o (.done outcome))
  | slept (s : Inst σ) {o : OuterId} {seq : Nat} (pending : (s.outers o).state = .pending)
      (ofSleep : (s.timers seq).callback = .sleep o) :
      Atom .deliver s (s.outerSettled o (.done (.result 0)))
  | unshield (s : Inst σ) {o : OuterId} {p : PromiseId} (source : (s.outers o).source = some p)
      (pending : (s.promises p).state = none) : Atom .deliver s
      (s.setPromise p { s.promises p with shields := (s.promises p).shields.erase o })

/-! ### Atoms are calm -/

/-- A new task is out of the sight of everything that exists. -/
theorem Calm.made {s s' : Inst σ} (wf : s.WellFormed) {root : Root} (out : root.outbound = true)
    {callbacks : List Callback} (books : SameBooks s s')
    (ready : s'.ready = s.ready ++ [Handle.taskStep s.nextFut]) (commands : s'.commands = s.commands)
    (trace : s'.trace = s.trace) (nextFut : s'.nextFut = s.nextFut + 1)
    (futs : s'.futs = Function.update s.futs s.nextFut ⟨.task, .pending, callbacks⟩)
    (tasks : s'.tasks = Function.update s.tasks s.nextFut (some ⟨root, .start, false, 0⟩))
    (cancels : s'.pendingExternalCancels = s.pendingExternalCancels) : Calm s s' := by
  have old (f : FutId) (bound : f < s.nextFut) : s'.futs f = s.futs f := by
    rw [futs, Function.update_of_ne (Nat.ne_of_lt bound)]
  exact {
    books := books
    ready := ⟨_, ready⟩
    commands := ⟨[], by simp [commands], by simp⟩
    trace := ⟨[], by simp [trace], by simp⟩
    nextFut := by
      rw [nextFut]
      exact Nat.le_succ _
    role := fun f bound => by rw [old f bound]
    fresh := fun f lower upper => by
      rw [nextFut] at upper
      have same : f = s.nextFut := Nat.le_antisymm (Nat.le_of_lt_succ upper) lower
      subst same
      simp [futs]
    done := fun f bound _ => by rw [old f bound]
    condition := fun f bound _ => .inl (by rw [old f bound])
    alive := fun t exist => by
      obtain ⟨task, ht⟩ := Option.isSome_iff_exists.mp exist
      rw [Inst.isDone, Inst.isDone, old t (wf.task t task ht).1]
    task := fun t task ht => by
      have different : t ≠ s.nextFut := Nat.ne_of_lt (wf.task t task ht).1
      exact ⟨task, by rw [tasks, Function.update_of_ne different]; exact ht, rfl, id⟩
    created := fun t task ht => by
      rw [tasks] at ht
      by_cases same : t = s.nextFut
      · subst same
        rw [Function.update_self, Option.some.injEq] at ht
        subst ht
        exact .inr ⟨Nat.le_refl _, by rw [nextFut]; exact Nat.lt_succ_self _, by simp [futs], out⟩
      · rw [Function.update_of_ne same] at ht
        exact .inl (by simp [ht])
    externalCancels := fun seq f h => by
      rw [cancels] at h
      exact .inl h }

/-- A change of the attributes of a task. -/
theorem Calm.setTask {s : Inst σ} {t : FutId} {task new : Task} (isTask : s.tasks t = some task)
    (root : new.root = task.root) (start : new.point = .start → task.point = .start) :
    Calm s (s.setTask t new) := by
  refine { Calm.refl s with books := by constructor <;> rfl, task := ?_, created := ?_ }
  · intro t' task' ht'
    by_cases same : t' = t
    · subst same
      rw [isTask, Option.some.injEq] at ht'
      subst ht'
      exact ⟨new, by simp [Inst.setTask], root, start⟩
    · exact ⟨task', by simpa [Inst.setTask, same] using ht', rfl, id⟩
  · intro t' task' ht'
    by_cases same : t' = t
    · exact .inl (by simp [same, isTask])
    · exact .inl (by simp [Inst.setTask, same] at ht'; simp [ht'])

/-- Whatever adds a command and an event and changes no future or task is calm. -/
theorem Calm.noted {s s' : Inst σ} (cs : List Command) (es : List Event) (books : SameBooks s s')
    (ready : s'.ready = s.ready) (commands : s'.commands = s.commands ++ cs)
    (outbound : ∀ c ∈ cs, c.outbound = true) (trace : s'.trace = s.trace ++ es)
    (events : ∀ e ∈ es, e.outbound = true) (nextFut : s'.nextFut = s.nextFut)
    (futs : s'.futs = s.futs) (tasks : s'.tasks = s.tasks)
    (cancels : s'.pendingExternalCancels = s.pendingExternalCancels) : Calm s s' := by
  have quiet : Calm s { s' with commands := s.commands, trace := s.trace } :=
    .loose ⟨books.mem, books.object, books.nextObject, books.primaryTask, books.cancelRequested,
      books.deleting, books.readOnly, books.isReplaying, books.randomSeed, books.conditions,
      books.patchesNotified, books.patchesMemoized, books.signals, books.queries, books.updates,
      books.bufferedSignals, books.handledSignalsSeq, books.inProgressSignals,
      books.inProgressUpdates, books.activationError, books.prevReadOnly, books.cancelledHandles⟩
      ready rfl rfl nextFut futs tasks cancels
  exact { quiet with
    books := books
    commands := ⟨cs, commands, outbound⟩
    trace := ⟨es, trace, events⟩ }

theorem scheduleCommand_outbound (h : ActivityHandle) (backoff : Option DoBackoff) :
    (h.scheduleCommand backoff).outbound = true := by
  unfold ActivityHandle.scheduleCommand
  split <;> rfl

theorem FutRole.ofUser_ne_condition {role : FutRole} (ofUser : role.ofUser = true) :
    role ≠ .condition := by
  rintro rfl
  cases ofUser

/-- An external cancel is requested and registered. -/
theorem Calm.cancelRequestSent {s : Inst σ} (wf : s.WellFormed) : Calm s s.cancelRequestSent := by
  have registered := Calm.newExternalCancel wf (s.currSeqs .externalCancel + 1)
  exact { registered with
    books := by constructor <;> rfl
    commands := ⟨[_], rfl, by simp [Command.outbound]⟩ }

theorem Calm.outerSettled (s : Inst σ) (o : OuterId) (new : OuterState) :
    Calm s (s.outerSettled o new) := by
  have completed : Calm s (s.setOuter o { s.outers o with state := new }) :=
    .loose (by constructor <;> rfl) rfl rfl rfl rfl rfl rfl rfl
  exact completed.trans (.pushAll _ _)

theorem Calm.fulfilled (s : Inst σ) (p : PromiseId) (outcome : PromiseOutcome) :
    Calm s (s.fulfilled p outcome) := by
  have completed : Calm s (s.setPromise p ⟨some outcome, []⟩) :=
    .loose (by constructor <;> rfl) rfl rfl rfl rfl rfl rfl rfl
  exact completed.trans (.pushAll _ _)

/-- A timer fires. -/
theorem Calm.fired (s : Inst σ) (seq : Nat) :
    Calm s { s with
      ready := s.ready ++ [.timer seq]
      pendingTimers := Function.update s.pendingTimers seq false
      trace := s.trace ++ [.timerFired seq] } := by
  have noted : Calm s { s with
      pendingTimers := Function.update s.pendingTimers seq false
      trace := s.trace ++ [.timerFired seq] } :=
    .noted [] [_] (by constructor <;> rfl) rfl (by simp) (by simp) rfl
      (by simp [Event.outbound]) rfl rfl rfl rfl
  exact { noted with books := by constructor <;> rfl, ready := ⟨[.timer seq], rfl⟩ }

theorem Atom.calm {k : Kind} {s s' : Inst σ} (h : Atom k s s') (wf : s.WellFormed) :
    Calm s s' := by
  cases h with
  | push | wakeup | yield => exact .pushAll s [_]
  | callSoon => exact { Calm.pushAll s [_] with books := by constructor <;> rfl }
  | newFut _ ofUser => exact .newFut wf _ (FutRole.ofUser_ne_condition ofUser)
  | addCallback | addWakeup =>
    exact .setFut s rfl (fun _ => rfl) (fun _ => .inl rfl) (fun _ => rfl)
  | settle _ _ pending notTask ofUser =>
    refine .settled s pending notTask fun role => ?_
    rcases ofUser with cancelled | ofUser
    · exact cancelled
    · exact absurd role (FutRole.ofUser_ne_condition ofUser)
  | resolveCancel _ _ pending role notTask =>
    exact .settled s pending notTask fun other => by simp [role] at other
  | cancelOuter | deliver | slept => exact .outerSettled s _ _
  | fulfill => exact .fulfilled s _ _
  | createUser | strayUser | bareUser | newActivity | strayActivity | newChild | strayChild =>
    exact .made wf rfl (by constructor <;> rfl) rfl rfl rfl rfl rfl rfl rfl
  | request _ isTask | mustCancel _ isTask | clearCancel _ isTask => exact .setTask isTask rfl id
  | setPoint _ isTask notStart => exact .setTask isTask rfl fun start => absurd start notStart
  | cancelActivity | cancelOwn => exact .command s (cancelCommand_outbound _)
  | cancelChild | cancelSignal => exact .command s rfl
  | scheduleBroken => exact .command s (scheduleCommand_outbound _ _)
  | startChildBroken => exact .command s rfl
  | timer | refusedTimer | sleepTimer =>
    exact .noted [_] [_] (by constructor <;> rfl) rfl rfl (by simp [Command.outbound])
      rfl (by simp [Event.outbound]) rfl rfl rfl rfl
  | cancelTimer =>
    exact .noted [_] [_] (by constructor <;> rfl) rfl rfl (by simp [Command.outbound])
      rfl (by simp [Event.outbound]) rfl rfl rfl rfl
  | schedule =>
    exact .noted [_] [] (by constructor <;> rfl) rfl rfl
      (by simp [scheduleCommand_outbound]) (by simp [Inst.scheduled]) (by simp) rfl rfl rfl rfl
  | startChild =>
    exact .noted [_] [] (by constructor <;> rfl) rfl rfl
      (by simp [Command.outbound]) (by simp [Inst.childStarted]) (by simp) rfl rfl rfl rfl
  | signal =>
    exact .noted [_] [] (by constructor <;> rfl) rfl rfl
      (by simp [Command.outbound]) (by simp [Inst.signalled]) (by simp) rfl rfl rfl rfl
  | cancelExternal => exact .cancelRequestSent wf
  | returned => exact .activityHandle s _
  | popCancel => exact .externalCancelRemoved s _
  | fire => exact .fired s _
  | childSeq | dropTimer | markTimer | started | shield | sleepOuter | popActivity | popChild
  | popSignal | backoffSeq | backoff | childRunId | unshield =>
    exact .loose (by constructor <;> rfl) rfl rfl rfl rfl rfl rfl rfl

end TemporalSdk.Workflow
