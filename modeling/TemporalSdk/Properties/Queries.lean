import TemporalSdk.Properties.ReadOnly
import TemporalSdk.Workflow.Cancellation
import TemporalSdk.Workflow.Tasks

/-!
# Queries leave the instance alone

## Main result

`queries_read_only`: an activation of queries only, whose handlers are
functions, answers each of them once and in order, adds no other command, and
leaves the sequence counters, the pending maps, the patches, the handler tables,
the buffered signals, the wait conditions and `_tasks` as they were. The
instance has to be at rest before, and no handler may cancel a pending timer,
cancel a query that has not started or add a done callback to a query.

`TimerHandle.cancel` takes the timer out of `_pending_timers` before
`_add_command` refuses the command, so a query that cancels a timer loses it:
`query_loses_timer`.

## Proof strategy

The tasks of the queries are the only ones that run. `Answering` says where each
of them is: answered and waiting to be removed from `_tasks`, running, or not
started. A handler runs in read-only mode, in which every call but the excluded
ones either raises before it changes anything or changes futures only.
-/
namespace TemporalSdk.Workflow

open Eff

variable {σ : Type}

/-! ### What a query must not change -/

/-- The books of the instance that outlive an activation. -/
structure Tables (σ : Type) where
  currSeqs : SeqKind → Nat
  pendingTimers : Nat → Bool
  pendingActivities : Nat → Option FutId
  pendingChildWorkflows : Nat → Option FutId
  pendingExternalSignals : Nat → Option PromiseId
  pendingExternalCancels : Nat → Option FutId
  patchesNotified : String → Bool
  patchesMemoized : String → Option Bool
  signals : HandlerTable
  queries : HandlerTable
  updates : HandlerTable
  bufferedSignals : Dict String (List SignalWorkflow)
  inProgressSignals : Dict Nat String
  inProgressUpdates : Dict String String
  conditions : List (Cond σ × FutId)

def Inst.tables (s : Inst σ) : Tables σ where
  currSeqs := s.currSeqs
  pendingTimers := s.pendingTimers
  pendingActivities := s.pendingActivities
  pendingChildWorkflows := s.pendingChildWorkflows
  pendingExternalSignals := s.pendingExternalSignals
  pendingExternalCancels := s.pendingExternalCancels
  patchesNotified := s.patchesNotified
  patchesMemoized := s.patchesMemoized
  signals := s.signals
  queries := s.queries
  updates := s.updates
  bufferedSignals := s.bufferedSignals
  inProgressSignals := s.inProgressSignals
  inProgressUpdates := s.inProgressUpdates
  conditions := s.conditions

/-- The command is the answer to the query. -/
def Command.answers (c : Command) (job : QueryWorkflow) : Prop :=
  ∃ response, c = .respondToQuery job.queryId response

/-! ### What a query handler may do -/

/-- The task of a query that has not started. -/
def Inst.unstartedQuery (s : Inst σ) (t : FutId) : Prop :=
  ∃ task job, s.tasks t = some task ∧ task.root = .query job ∧ task.point = .start ∧
    s.isDone t = false

/-- The calls that are not guarded, or not in time. -/
def Act.harmless (s : Inst σ) : Act σ → Prop
  | .cancelTimer seq => s.pendingTimers seq = false ∨ (s.timers seq).cancelled = true
  | .cancel f => ∀ t, Passes s f t → ¬s.unstartedQuery t
  | .addDoneCallback f => s.isDone f = true ∨ ¬s.isQuery f
  | _ => True

/-- The calls of a handler that is a function and raises nothing but `Exception`. -/
def Act.ofFunction : Act σ → Bool
  | .raise (.error _) => true
  | .raise _ => false
  | a => !a.awaits

/-- The steps of an activation whose handlers are functions. -/
def Label.ofFunction : Label σ → Bool
  | .activate _ _ => false
  | .tick => true
  | .act a => a.ofFunction

/-- The steps of an activation whose handlers are functions and harmless. -/
def HarmlessQuery (m : Machine σ) (l : Label σ) : Prop :=
  l.ofFunction = true ∧ ∀ a, l = .act a → a.harmless m.inst

/-- Nothing is left over from earlier activations. -/
structure Machine.AtRest (det : Details σ) (m : Machine σ) : Prop where
  idle : m.control = .idle
  alive : m.inst.deleting = false
  writable : m.inst.readOnly = false
  ready : m.inst.ready = []
  object : (m.inst.object.isSome && det.objectTruthy m.inst.mem) = true

/-! ### Calls in a read-only context -/

/-- What a call of a query handler leaves alone. -/
structure Frozen (s s' : Inst σ) : Prop where
  tables : s'.tables = s.tables
  registered : s'.registered = s.registered
  ready : s'.ready = s.ready
  commands : s'.commands = s.commands
  deleting : s'.deleting = s.deleting
  readOnly : s'.readOnly = s.readOnly
  prevReadOnly : s'.prevReadOnly = s.prevReadOnly
  activationError : s'.activationError = s.activationError

theorem Frozen.refl (s : Inst σ) : Frozen s s := by constructor <;> rfl

theorem Frozen.trans {s₁ s₂ s₃ : Inst σ} (h : Frozen s₁ s₂) (h' : Frozen s₂ s₃) :
    Frozen s₁ s₃ := by
  constructor
  · exact h'.tables.trans h.tables
  · exact h'.registered.trans h.registered
  · exact h'.ready.trans h.ready
  · exact h'.commands.trans h.commands
  · exact h'.deleting.trans h.deleting
  · exact h'.readOnly.trans h.readOnly
  · exact h'.prevReadOnly.trans h.prevReadOnly
  · exact h'.activationError.trans h.activationError

/-- A guarded call does nothing. -/
theorem guard_readOnly {α : Type} {s : Inst σ} (readOnly : s.readOnly = true) (action : String)
    (allow : Bool) (x : Unit → Wf σ α) : ((assertNotReadOnly action allow >>= x) s).2 = s := by
  rw [bind_run, assertNotReadOnly_run]
  split
  next _ _ passed =>
    simp only [readOnly, if_true, Prod.mk.injEq] at passed
    split at passed <;> cases passed.1
  next _ _ refused =>
    simp only [Prod.mk.injEq] at refused
    exact refused.2.symm

/-- What the loop does for anyone is done to futures, if the context is read-only. -/
theorem Allowed.frozen {s s' : Inst σ} (h : Allowed [] s s') (readOnly : s.readOnly = true) :
    Frozen s s' := by
  have closed : s.open ≠ true := by simp [Inst.open, readOnly]
  obtain ⟨k, member, atom⟩ | ⟨k, member, -⟩ := h
  · obtain rfl : k = .loop := by simpa using member
    cases atom with
    | callSoon _ writable | push _ writable =>
      rw [readOnly] at writable
      cases writable
    | cancelActivity _ _ _ isOpen => exact absurd isOpen closed
    | settle =>
      constructor
      case ready => simp [Inst.settled, readOnly, Inst.pushAll, Inst.setFut]
      all_goals rfl
    | cancelOuter =>
      constructor
      case ready => simp [Inst.outerSettled, readOnly, Inst.pushAll, Inst.setOuter]
      all_goals rfl
    | cancelTimer _ owns | dropTimer _ owns | markTimer _ owns => simp [Kind.ownsTimer] at owns
    | newFut | addCallback | request | mustCancel => constructor <;> rfl
  · cases member

theorem cancelFut_frozen (f : FutId) {s : Inst σ} (wf : s.WellFormed)
    (readOnly : s.readOnly = true) : Frozen s (cancelFut f s).2 := by
  have moves : Moves [] s (cancelFut f s).2 := cancelFut_moves f s
  refine (moves.keeps (I := Frozen s) wf (.refl s) ?_).1
  intro a b _ allowed frozen
  exact frozen.trans (allowed.frozen (frozen.readOnly.trans readOnly))

theorem Frozen.setFut (s : Inst σ) (f : FutId) (fut : Fut) : Frozen s (s.setFut f fut) := by
  constructor <;> rfl

theorem setOutcome_frozen (f : FutId) (new : FutState) {s : Inst σ} (readOnly : s.readOnly = true) :
    Frozen s (setOutcome f new s).2 := by
  cases done : s.isDone f with
  | true =>
    simp only [setOutcome, state_bind_run, done, if_true]
    exact .refl s
  | false =>
    rw [setOutcome_pending done]
    constructor
    case ready => simp [Inst.settled, readOnly, Inst.pushAll, Inst.setFut]
    all_goals rfl

theorem addDoneCallback_frozen (f : FutId) (cb : Callback) {s : Inst σ}
    (readOnly : s.readOnly = true) : Frozen s (addDoneCallback f cb s).2 := by
  simp only [addDoneCallback, state_bind_run]
  split
  · rw [callSoon_run, if_pos readOnly]
    exact .refl s
  · exact .setFut s f _

/-- The calls that a guard refuses. -/
def Act.guarded : Act σ → Bool
  | .startActivity _ | .callSoon | .callLater _ | .createTask | .newTask
  | .registerCondition _ | .setSignalHandler _ _ | .setQueryHandler _ _
  | .setUpdateHandler _ _ _ | .patch _ _ | .upsertSearchAttributes _ => true
  | _ => false

theorem performCall_guarded (det : Details σ) {a : Act σ} (guarded : a.guarded = true)
    {s : Inst σ} (readOnly : s.readOnly = true) : (performCall det a s).2 = s := by
  have guard {α β : Type} (action : String) (allow : Bool) (x : Unit → Wf σ α) (y : α → Wf σ β) :
      ((assertNotReadOnly action allow >>= x >>= y) s).2 = s := by
    rw [bind_assoc]
    exact guard_readOnly readOnly action allow _
  cases a with
  | startActivity input =>
    have refused : ∃ e, outboundScheduleActivity det input s = (.error e, s) := by
      rw [outboundScheduleActivity]
      split
      · exact ⟨_, rfl⟩
      · exact ⟨_, bind_error (by rw [newActivityHandle_run, if_pos readOnly])⟩
    rw [performCall, bind_pure_state, workflowStartActivity, startActivityGuard]
    cases input.isLocal with
    | false => exact guard_readOnly readOnly _ _ _
    | true =>
      -- a local activity has no guard of its own
      obtain ⟨e, refused⟩ := refused
      rw [if_pos rfl, pure_bind_run, bind_error refused]
  | callSoon =>
    rw [performCall, bind_pure_state, callSoonUser, state_bind_run, bind_run, callSoon_run,
      if_pos readOnly]
  | callLater delay => exact guard _ _ _ _
  | createTask =>
    simp only [performCall, bind_run, createTask_readOnly _ readOnly]
  | newTask =>
    simp only [performCall, bind_run, newTask_run, readOnly, if_true]
  | registerCondition fn => exact guard _ _ _ _
  | setSignalHandler name handler => exact guard_readOnly readOnly _ _ _
  | setQueryHandler name handler => exact guard_readOnly readOnly _ _ _
  | setUpdateHandler name handler validator => exact guard_readOnly readOnly _ _ _
  | patch id deprecated => exact guard _ _ _ _
  | upsertSearchAttributes attributes =>
    rw [performCall, workflowUpsertSearchAttributes, addCommand]
    exact guard _ _ _ _
  | _ => cases guarded

theorem performCall_frozen (det : Details σ) {a : Act σ} {s : Inst σ} (wf : s.WellFormed)
    (readOnly : s.readOnly = true) (harmless : a.harmless s) : Frozen s (performCall det a s).2 := by
  cases guarded : a.guarded with
  | true =>
    rw [performCall_guarded det guarded readOnly]
    exact .refl s
  | false =>
    cases a with
    | write | createFuture | cancelHandle => constructor <;> rfl
    | setResult f value => exact setOutcome_frozen f _ readOnly
    | setException f e => exact setOutcome_frozen f _ readOnly
    | cancel f =>
      rw [performCall, bind_pure_state]
      exact cancelFut_frozen f wf readOnly
    | addDoneCallback f => exact addDoneCallback_frozen f _ readOnly
    | cancelTimer seq =>
      rw [performCall, timerCancel_run]
      split
      · exact .refl s
      next live =>
        rw [if_pos (harmless.resolve_right live)]
        constructor <;> rfl
    | await | bareYield | waitCondition | startChildWorkflow | signalExternalWorkflow
    | cancelExternalWorkflow | ret | raise => exact .refl s
    | _ => cases guarded

/-! ### The tasks of the queries -/

/-- The query has a task that has not started. -/
def Inst.Waits (s : Inst σ) (t : FutId) (job : QueryWorkflow) : Prop :=
  s.tasks t = some ⟨.query job, .start, false, 0⟩ ∧ s.futs t = ⟨.task, .pending, [.tasksRemove]⟩

/-- The task of the query is running. -/
def Inst.Runs (s : Inst σ) (t : FutId) (job : QueryWorkflow) : Prop :=
  (∃ task, s.tasks t = some task ∧ task.root = .query job) ∧
    s.futs t = ⟨.task, .pending, [.tasksRemove]⟩

theorem Inst.Waits.congr {s s' : Inst σ} {t : FutId} {job : QueryWorkflow} (waits : s.Waits t job)
    (task : s'.tasks t = s.tasks t) (fut : s'.futs t = s.futs t) : s'.Waits t job :=
  ⟨task.trans waits.1, fut.trans waits.2⟩

theorem Inst.Waits.runs {s : Inst σ} {t : FutId} {job : QueryWorkflow} (waits : s.Waits t job) :
    s.Runs t job :=
  ⟨⟨_, waits.1, rfl⟩, waits.2⟩

theorem Inst.Waits.unstarted {s : Inst σ} {t : FutId} {job : QueryWorkflow}
    (waits : s.Waits t job) : s.unstartedQuery t :=
  ⟨_, job, waits.1, rfl, rfl, by rw [Inst.isDone, waits.2]; rfl⟩

/-- A harmless call does not complete a query or add to its callbacks. -/
theorem performCall_fut (det : Details σ) {a : Act σ} {s : Inst σ} (wf : s.WellFormed)
    (readOnly : s.readOnly = true) (enabled : a.enabled s = true) (harmless : a.harmless s)
    {t : FutId} {job : QueryWorkflow} (runs : s.Runs t job) :
    (performCall det a s).2.futs t = s.futs t := by
  obtain ⟨⟨task, isTask, root⟩, fut⟩ := runs
  have pending : s.isDone t = false := by rw [Inst.isDone, fut]; rfl
  -- the function can settle only futures that it made itself, and a task is none of these
  have settled (f : FutId) (new : FutState) (ofUser : (s.futs f).role.ofUser = true) :
      (setOutcome f new s).2.futs t = s.futs t := by
    have other : t ≠ f := by
      rintro rfl
      rw [fut] at ofUser
      cases ofUser
    cases done : s.isDone f with
    | true => simp only [setOutcome, state_bind_run, done, if_true, raise_run]
    | false =>
      rw [setOutcome_pending done]
      simp [Inst.settled, Inst.pushAll, Inst.setFut, other]
  cases guarded : a.guarded with
  | true => rw [performCall_guarded det guarded readOnly]
  | false =>
    cases a with
    | createFuture role => exact Function.update_of_ne (Nat.ne_of_lt (wf.task t task isTask).1) _ _
    | setResult f value =>
      simp only [Act.enabled, Bool.and_eq_true] at enabled
      exact settled f _ enabled.2
    | setException f e =>
      simp only [Act.enabled, Bool.and_eq_true] at enabled
      exact settled f _ enabled.2
    | cancel f =>
      rw [performCall, bind_pure_state]
      exact (cancelFut_spares (P := fun _ => False) fun _ _ => id).taskFut t (by simp [isTask])
    | addDoneCallback f =>
      simp only [performCall, addDoneCallback, state_bind_run]
      split
      · rw [callSoon_run, if_pos readOnly]
      -- a callback changes the future it is added to, which is no query task's
      next undone =>
        have other : t ≠ f := by
          rintro rfl
          rcases harmless with done | notQuery
          · exact undone done
          · exact notQuery ⟨task, job, isTask, root⟩
        simp [Inst.setFut, other]
    | cancelTimer seq =>
      rw [performCall, timerCancel_run]
      repeat' split
      all_goals rfl
    | write | cancelHandle | await | bareYield | waitCondition | startChildWorkflow
    | signalExternalWorkflow | cancelExternalWorkflow | ret | raise => rfl
    | _ => cases guarded

/-- A harmless call does not touch a query that has not started. -/
theorem performCall_task (det : Details σ) {a : Act σ} {s : Inst σ}
    (readOnly : s.readOnly = true) (harmless : a.harmless s) {t : FutId} {job : QueryWorkflow}
    (waits : s.Waits t job) : (performCall det a s).2.tasks t = s.tasks t := by
  have settled (f : FutId) (new : FutState) : (setOutcome f new s).2.tasks = s.tasks := by
    cases done : s.isDone f with
    | true => simp only [setOutcome, state_bind_run, done, if_true, raise_run]
    | false =>
      rw [setOutcome_pending done]
      rfl
  cases guarded : a.guarded with
  | true => rw [performCall_guarded det guarded readOnly]
  | false =>
    cases a with
    | setResult f value => exact congrFun (settled f _) t
    | setException f e => exact congrFun (settled f _) t
    | cancel f =>
      rw [performCall, bind_pure_state]
      -- cancelling goes on to whatever the future waits for, so it must spare the query itself
      exact (cancelFut_spares (P := s.unstartedQuery) harmless).task t waits.unstarted
    | addDoneCallback f =>
      simp only [performCall, addDoneCallback, state_bind_run]
      split
      · rw [callSoon_run, if_pos readOnly]
      · rfl
    | cancelTimer seq =>
      rw [performCall, timerCancel_run]
      repeat' split
      all_goals rfl
    | write | createFuture | cancelHandle | await | bareYield | waitCondition
    | startChildWorkflow | signalExternalWorkflow | cancelExternalWorkflow | ret | raise => rfl
    | _ => cases guarded

/-! ### Where the queries stand -/

/-- The queries of an activation: those answered, whose tasks are `leaving` or
gone, the one whose handler is running and those `waiting` to start. -/
structure Answering (s₀ : Inst σ) (answered : List QueryWorkflow) (current : List FutId)
    (waiting : List (FutId × QueryWorkflow)) (leaving : List FutId) (s : Inst σ) : Prop where
  tables : s.tables = s₀.tables
  alive : s.deleting = false
  error : s.activationError = none
  commands : List.Forall₂ Command.answers s.commands answered
  ready : s.ready = waiting.map (fun w => .taskStep w.1) ++ leaving.map (.callback .tasksRemove)
  registered : s.registered = s₀.registered ++ (leaving ++ (current ++ waiting.map Prod.fst))
  fresh : ∀ t ∈ leaving ++ (current ++ waiting.map Prod.fst), t ∉ s₀.registered
  distinct : (leaving ++ (current ++ waiting.map Prod.fst)).Nodup
  waits : ∀ w ∈ waiting, s.Waits w.1 w.2

variable {s₀ s s' : Inst σ} {answered : List QueryWorkflow} {current leaving : List FutId}
  {waiting : List (FutId × QueryWorkflow)}

theorem Answering.call (state : Answering s₀ answered current waiting leaving s) (det : Details σ)
    {a : Act σ} (wf : s.WellFormed) (readOnly : s.readOnly = true) (enabled : a.enabled s = true)
    (harmless : a.harmless s) :
    Answering s₀ answered current waiting leaving (performCall det a s).2 := by
  have frozen := performCall_frozen det wf readOnly harmless
  exact {
    tables := frozen.tables.trans state.tables
    alive := frozen.deleting.trans state.alive
    error := frozen.activationError.trans state.error
    commands := by rw [frozen.commands]; exact state.commands
    ready := frozen.ready.trans state.ready
    registered := frozen.registered.trans state.registered
    fresh := state.fresh
    distinct := state.distinct
    waits := fun w member => (state.waits w member).congr
      (performCall_task det readOnly harmless (state.waits w member))
      (performCall_fut det wf readOnly enabled harmless (state.waits w member).runs) }

/-- `_apply_query_workflow` adds a task at the end of the queue. -/
theorem Answering.apply {det : Details σ} {job : QueryWorkflow}
    (state : Answering s₀ answered [] waiting [] s) (writable : s.readOnly = false)
    (wf : s.WellFormed) (bound : ∀ t ∈ s.registered, t < s.nextFut) :
    applyJob det (.queryWorkflow job) s = (.ok (), s.created (.query job)) ∧
      Answering s₀ answered [] (waiting ++ [(s.nextFut, job)]) [] (s.created (.query job)) := by
  -- task ids are given out in order, so the new one was never registered
  have absent : s.nextFut ∉ s.registered := fun member => Nat.lt_irrefl _ (bound _ member)
  rw [state.registered, List.mem_append, not_or] at absent
  constructor
  · rw [applyJob, applyQueryWorkflow, bind_ok (a := s.nextFut)]
    · rfl
    · rw [createTask_run _ writable, if_neg (by simp [state.alive])]
  · exact {
      tables := state.tables
      alive := state.alive
      error := state.error
      commands := state.commands
      ready := by simp [Inst.created, state.ready]
      registered := by simp [Inst.created, state.registered]
      fresh := by
        intro t member
        simp only [List.nil_append, List.map_append, List.map_cons, List.map_nil,
          List.mem_append, List.mem_singleton] at member
        rcases member with old | rfl
        · exact state.fresh t old
        · exact absent.1
      distinct := by
        simp only [List.nil_append, List.map_append, List.map_cons, List.map_nil]
        exact List.Nodup.append state.distinct (List.nodup_singleton _)
          (by simpa using absent.2)
      waits := by
        intro w member
        rcases List.mem_append.mp member with old | new
        · have waits := state.waits w old
          have different : w.1 ≠ s.nextFut := Nat.ne_of_lt (wf.task _ _ waits.1).1
          exact waits.congr (Function.update_of_ne different _ _)
            (Function.update_of_ne different _ _)
        · rw [List.mem_singleton.mp new]
          exact ⟨Function.update_self .., Function.update_self ..⟩ }

/-- `_tasks.remove` of a query that has been answered. -/
theorem Answering.remove {t : FutId} (state : Answering s₀ answered [] [] (t :: leaving) s) :
    Answering s₀ answered [] [] leaving
      { s.setReady (leaving.map (.callback .tasksRemove)) with
        registered := s.registered.erase t } := by
  have absent : t ∉ s₀.registered := state.fresh t (by simp)
  exact {
    tables := state.tables
    alive := state.alive
    error := state.error
    commands := state.commands
    ready := by simp [Inst.setReady]
    registered := by
      have erased : s.registered.erase t = s₀.registered ++ leaving := by
        rw [state.registered, List.erase_append_right _ absent]
        simp
      simpa using erased
    fresh := fun u member => state.fresh u (List.mem_cons_of_mem _ member)
    distinct := (List.nodup_cons.mp state.distinct).2
    waits := by simp }

/-! ### Answering a query -/

/-- `run_query` adds one command, whichever way the handler ended. -/
theorem queryEnd_run {det : Details σ} (converts : ∀ e, ∃ f, det.toFailure e = .ok f)
    (job : QueryWorkflow) {r : Except Exc Payload}
    (ordinary : ∀ e, r = .error e → ∃ err, e = .error err) {s : Inst σ}
    (alive : s.deleting = false) : ∃ c : Command, c.answers job ∧
      queryEnd det job false r s = (.ok (), { s with readOnly := false }.pushCommand c) := by
  have isOpen : ({ s with readOnly := false } : Inst σ).open = true := by simp [Inst.open, alive]
  cases r with
  | ok p =>
    refine ⟨.respondToQuery job.queryId (.succeeded p), ⟨_, rfl⟩, ?_⟩
    simp only [queryEnd, bind_run, update_run, attempt_run, ofExcept_run, addCommand_open isOpen,
      pure_run]
  | error e =>
    obtain ⟨err, rfl⟩ := ordinary e rfl
    obtain ⟨f, converted⟩ := converts err
    refine ⟨.respondToQuery job.queryId (.failed (some f)), ⟨_, rfl⟩, ?_⟩
    simp only [queryEnd, queryExcept, bind_run, update_run, attempt_run, ofExcept_run,
      addCommand_open isOpen, converted, raiseError, setCommand, pure_run]
    simp [Inst.pushCommand]

/-- The same after its handler has run: its result may still fail to convert. -/
theorem finishQuery_run {det : Details σ} (converts : ∀ e, ∃ f, det.toFailure e = .ok f)
    (job : QueryWorkflow) {r : Except Exc Obj}
    (ordinary : ∀ e, r = .error e → ∃ err, e = .error err) {s : Inst σ}
    (alive : s.deleting = false) : ∃ c : Command, c.answers job ∧
      finishQuery det job false r s = (.ok (), { s with readOnly := false }.pushCommand c) := by
  refine queryEnd_run converts job ?_ alive
  intro e raised
  cases r with
  | error e' =>
    cases raised
    exact ordinary e rfl
  | ok v =>
    cases converted : singlePayload det v with
    | error err =>
      simp only [converted, Except.mapError, Except.error.injEq] at raised
      exact ⟨err, raised.symm⟩
    | ok p => simp [converted, Except.mapError] at raised

/-- The end of the step of a query: its command is there, and its task is to be
removed from `_tasks`. -/
theorem Answering.finish {t : FutId} {job : QueryWorkflow}
    (state : Answering s₀ answered [t] waiting leaving s) (runs : s.Runs t job) {c : Command}
    (answers : c.answers job) {s₁ : Inst σ} (same : s₁ = { s with readOnly := false }.pushCommand c) :
    ∃ s₂, stepNext t (.done (.ok (some 0))) s₁ = (.ok none, s₂) ∧ s₂.readOnly = false ∧
      Answering s₀ (answered ++ [job]) [] waiting (leaving ++ [t]) s₂ := by
  subst same
  obtain ⟨⟨task, isTask, root⟩, fut⟩ := runs
  have isTask₁ : ({ s with readOnly := false }.pushCommand c).tasks t = some task := isTask
  -- a cancellation of its own only changes what the task is completed with
  have ended (s₁ : Inst σ) (new : FutState) (tables : s₁.tables = s.tables)
      (alive : s₁.deleting = s.deleting) (error : s₁.activationError = s.activationError)
      (commands : s₁.commands = s.commands ++ [c]) (ready : s₁.ready = s.ready)
      (registered : s₁.registered = s.registered) (futs : s₁.futs = s.futs)
      (tasks : ∀ t', t' ≠ t → s₁.tasks t' = s.tasks t') (writable : s₁.readOnly = false) :
      settle t new s₁ = (.ok (), s₁.settled t new) ∧ (s₁.settled t new).readOnly = false ∧
        Answering s₀ (answered ++ [job]) [] waiting (leaving ++ [t]) (s₁.settled t new) := by
    have order := state.distinct
    simp only [List.singleton_append] at order
    refine ⟨by simp [settle_run, writable], writable, ?_⟩
    exact {
      tables := tables.trans state.tables
      alive := alive.trans state.alive
      error := error.trans state.error
      commands := by
        rw [show (s₁.settled t new).commands = s.commands ++ [c] from commands]
        exact List.rel_append state.commands (.cons answers .nil)
      ready := by
        simp [Inst.settled, Inst.pushAll, Inst.setFut, writable, ready, futs, fut, state.ready]
      registered := by
        rw [show (s₁.settled t new).registered = s.registered from registered, state.registered]
        simp
      fresh := fun u member => state.fresh u (by simpa using member)
      distinct := by simpa using state.distinct
      waits := fun w member => by
        have different : w.1 ≠ t := by
          rintro rfl
          have later := (List.nodup_append.mp order).2.1
          exact (List.nodup_cons.mp later).1 (List.mem_map.mpr ⟨w, member, rfl⟩)
        refine (state.waits w member).congr (tasks w.1 different) ?_
        simp [Inst.settled, Inst.pushAll, Inst.setFut, different, futs] }
  cases cancel : task.mustCancel with
  | true =>
    obtain ⟨run, writable, after⟩ := ended
      (({ s with readOnly := false }.pushCommand c).setTask t { task with mustCancel := false })
      .cancelled rfl rfl rfl rfl rfl rfl rfl
      (fun t' other => by simp [Inst.setTask, Inst.pushCommand, other]) rfl
    refine ⟨_, ?_, writable, after⟩
    simp only [stepNext, stepEnd, finishTask, bind_run, state_run, isTask₁, cancel, if_true,
      update_run, Inst.mapTask, run, pure_run]
  | false =>
    obtain ⟨run, writable, after⟩ := ended ({ s with readOnly := false }.pushCommand c)
      (.result 0) rfl rfl rfl rfl rfl rfl rfl (fun _ _ => rfl) rfl
    refine ⟨_, ?_, writable, after⟩
    simp only [stepNext, stepEnd, finishTask, bind_run, state_run, isTask₁, cancel,
      Bool.false_eq_true, if_false, run, pure_run]

section StartQuery

variable (det : Details σ) (t : FutId) (job : QueryWorkflow) {s : Inst σ}

/-- The state in which `run_query` looks for its handler. -/
def Inst.inQuery (s : Inst σ) (t : FutId) : Inst σ :=
  { s with
    prevReadOnly := Function.update s.prevReadOnly t s.readOnly
    readOnly := true }

theorem startQuery_missing (handler : s.queries.resolve job.queryType = none) :
    startQuery det t job s = ended (queryEnd det job s.readOnly (.error (.error (.runtimeError
      ("Query handler for '" ++ job.queryType ++ "' expected but not found, known queries: [" ++
        s.queries.known ++ "]"))))) (s.inQuery t) := by
  simp only [startQuery, state_bind_run, update_bind_run, handler]
  rfl

theorem startQuery_refused {defn : HandlerDefn} {e : Error}
    (handler : s.queries.resolve job.queryType = some defn)
    (args : det.processHandlerArgs job.queryType job.arguments defn = .error e) :
    startQuery det t job s =
      ended (queryEnd det job s.readOnly (.error (.error e))) (s.inQuery t) := by
  simp only [startQuery, state_bind_run, update_bind_run, handler, args]
  rfl

theorem startQuery_code {defn : HandlerDefn} {args : HandlerArgs}
    (handler : s.queries.resolve job.queryType = some defn)
    (converted : det.processHandlerArgs job.queryType job.arguments defn = .ok args) :
    startQuery det t job s = (.ok (.code (.task t)), (logCall defn (s.inQuery t)).2) := by
  simp only [startQuery, state_bind_run, update_bind_run, handler, converted, logCall, pure_run]
  rfl

end StartQuery

/-- The first step of a query: its handler runs in read-only mode, or the query
is answered without. -/
theorem Answering.start {det : Details σ} (converts : ∀ e, ∃ f, det.toFailure e = .ok f)
    {t : FutId} {job : QueryWorkflow}
    (state : Answering s₀ answered [] ((t, job) :: waiting) leaving s)
    (writable : s.readOnly = false) {rest : List Handle} (ready : s.ready = .taskStep t :: rest) :
    (∃ s₁, handleRun det (.taskStep t) (s.setReady rest) = (.ok (some (.task t)), s₁) ∧
      s₁.readOnly = true ∧ s₁.prevReadOnly t = false ∧ s₁.Runs t job ∧
      Answering s₀ answered [t] waiting leaving s₁) ∨
    ∃ s₁, handleRun det (.taskStep t) (s.setReady rest) = (.ok none, s₁) ∧ s₁.readOnly = false ∧
      Answering s₀ (answered ++ [job]) [] waiting (leaving ++ [t]) s₁ := by
  have waits := state.waits (t, job) (List.mem_cons_self ..)
  have isTask : (s.setReady rest).tasks t = some ⟨.query job, .start, false, 0⟩ := waits.1
  have pending : (s.setReady rest).isDone t = false := by
    rw [Inst.isDone, show (s.setReady rest).futs t = _ from waits.2]
    rfl
  -- the state in which the handler is looked up
  have begun (s₁ : Inst σ) (tables : s₁.tables = s.tables) (alive : s₁.deleting = s.deleting)
      (error : s₁.activationError = s.activationError) (commands : s₁.commands = s.commands)
      (left : s₁.ready = rest) (registered : s₁.registered = s.registered) (futs : s₁.futs = s.futs)
      (tasks : ∀ t', t' ≠ t → s₁.tasks t' = s.tasks t') :
      Answering s₀ answered [t] waiting leaving s₁ := by
    have order := state.ready
    rw [ready, List.map_cons, List.cons_append, List.cons.injEq] at order
    exact {
      tables := tables.trans state.tables
      alive := alive.trans state.alive
      error := error.trans state.error
      commands := by rw [commands]; exact state.commands
      ready := left.trans order.2
      registered := registered.trans state.registered
      fresh := state.fresh
      distinct := state.distinct
      waits := fun w member => by
        have different : w.1 ≠ t := by
          rintro rfl
          have later := (List.nodup_append.mp state.distinct).2.1
          exact (List.nodup_cons.mp later).1 (List.mem_map.mpr ⟨w, member, rfl⟩)
        exact (state.waits w (List.mem_cons_of_mem _ member)).congr (tasks w.1 different)
          (by rw [futs]) }
  let entered : Inst σ := { (s.setReady rest).woken t ⟨.query job, .start, false, 0⟩ with
    prevReadOnly := Function.update s.prevReadOnly t s.readOnly
    readOnly := true }
  have others (t' : FutId) (other : t' ≠ t) : entered.tasks t' = s.tasks t' := by
    simp [entered, Inst.woken, Inst.setTask, Inst.setReady, other]
  have here := begun entered rfl rfl rfl rfl rfl rfl rfl others
  have runs : entered.Runs t job :=
    ⟨⟨_, by simp [entered, Inst.woken, Inst.setTask]; rfl, rfl⟩, waits.2⟩
  have restored : entered.prevReadOnly t = false :=
    (Function.update_self ..).trans writable
  have step (next : Except Exc (Option Ctx)) (s₁ : Inst σ)
      (run : (startQuery det t job >>= stepNext t)
        ((s.setReady rest).woken t ⟨.query job, .start, false, 0⟩) = (next, s₁)) :
      handleCallback det (.taskStep t) (s.setReady rest) = (next, s₁) := by
    rw [← run]
    exact stepTask_run det (.ok 0) isTask pending
  have ends (e : Error) (run : startQuery det t job
        ((s.setReady rest).woken t ⟨.query job, .start, false, 0⟩) =
      ended (queryEnd det job s.readOnly (.error (.error e))) entered) :
      ∃ s₁, handleRun det (.taskStep t) (s.setReady rest) = (.ok none, s₁) ∧ s₁.readOnly = false ∧
        Answering s₀ (answered ++ [job]) [] waiting (leaving ++ [t]) s₁ := by
    obtain ⟨c, answers, added⟩ := queryEnd_run converts job (r := .error (.error e))
      (by rintro _ ⟨⟩; exact ⟨e, rfl⟩) (s := entered) state.alive
    obtain ⟨s₂, finished, writable', after⟩ := here.finish runs answers rfl
    refine ⟨s₂, handleRun_ok (step _ _ ?_), writable', after⟩
    rw [writable] at run
    rw [bind_run, run]
    simp only [ended, bind_run, attempt_run, added, pure_run, Except.map]
    exact finished
  cases handler : s.queries.resolve job.queryType with
  | none => exact .inr (ends _ (startQuery_missing det t job handler))
  | some defn =>
    cases args : det.processHandlerArgs job.queryType job.arguments defn with
    | error e => exact .inr (ends e (startQuery_refused det t job handler args))
    | ok args' =>
      have code := startQuery_code det t job
        (s := (s.setReady rest).woken t ⟨.query job, .start, false, 0⟩) handler args
      refine .inl ⟨_, handleRun_ok (step _ _ (bind_ok code)), ?_⟩
      rw [logCall, update_run]
      split
      · exact ⟨rfl, restored, runs, begun _ rfl rfl rfl rfl rfl rfl rfl others⟩
      · exact ⟨rfl, restored, runs, here⟩

/-! ### Stages of the activation -/

/-- The sets of jobs still to come: the queries are the last of four. -/
def querySets (index : Nat) (queries : List QueryWorkflow) : List (List Job) :=
  List.replicate (3 - index) [] ++ [queries.map .queryWorkflow]

/-- Only the workflow object is looked at before the handlers run. -/
def Inst.Usable (det : Details σ) (s : Inst σ) : Prop :=
  s.readOnly = false ∧ (s.object.isSome && det.objectTruthy s.mem) = true

/-- Where `activate` stands with the queries. -/
inductive Stage (det : Details σ) (s₀ : Inst σ) (queries : List QueryWorkflow) (m : Machine σ) : Prop
  | opening {index : Nat} (early : index ≤ 3)
      (control : m.control = .sets ⟨index, querySets index queries⟩) (usable : m.inst.Usable det)
      (state : Answering s₀ [] [] [] [] m.inst)
  | applying {todo : List QueryWorkflow} {waiting : List (FutId × QueryWorkflow)}
      (control : m.control = .jobs (todo.map .queryWorkflow) ⟨3, []⟩ ∨
        todo = [] ∧ m.control = .enter ⟨3, []⟩)
      (all : queries = waiting.map Prod.snd ++ todo) (usable : m.inst.Usable det)
      (state : Answering s₀ [] [] waiting [] m.inst)
  | looping {answered : List QueryWorkflow} {waiting : List (FutId × QueryWorkflow)}
      {leaving : List FutId} (control : m.control = .outer ⟨3, []⟩ ∨ m.control = .inner ⟨3, []⟩)
      (all : queries = answered ++ waiting.map Prod.snd) (writable : m.inst.readOnly = false)
      (state : Answering s₀ answered [] waiting leaving m.inst)
  | handling {answered : List QueryWorkflow} {t : FutId} {job : QueryWorkflow}
      {waiting : List (FutId × QueryWorkflow)} {leaving : List FutId}
      (control : m.control = .code (.task t) ⟨3, []⟩)
      (all : queries = answered ++ job :: waiting.map Prod.snd) (readOnly : m.inst.readOnly = true)
      (restores : m.inst.prevReadOnly t = false) (runs : m.inst.Runs t job)
      (state : Answering s₀ answered [t] waiting leaving m.inst)
  | closing (control : m.control = .sets ⟨4, []⟩) (state : Answering s₀ queries [] [] [] m.inst)
  | closed (control : m.control = .idle) {commands : List Command}
      (outcome : m.outcome = some (.returned (.successful commands)))
      (answers : List.Forall₂ Command.answers commands queries)
      (tables : m.inst.tables = s₀.tables) (registered : m.inst.registered = s₀.registered)

variable {det : Details σ} {queries : List QueryWorkflow} {m m' : Machine σ}

theorem activate_stage (rest : m.AtRest det) (isReplaying : Bool) :
    Stage det m.inst queries (m.activate (queries.map .queryWorkflow) isReplaying) := by
  have sets : jobSets (queries.map Job.queryWorkflow) = querySets 0 queries := by
    have none {index : Nat} (other : index ≠ 3) : jobsOf index (queries.map .queryWorkflow) = [] := by
      simp only [jobsOf, List.filter_eq_nil_iff, List.mem_map]
      rintro _ ⟨job, -, rfl⟩
      simpa [jobSet] using other.symm
    have all : jobsOf 3 (queries.map .queryWorkflow) = queries.map .queryWorkflow := by
      simp only [jobsOf, List.filter_eq_self, List.mem_map]
      rintro _ ⟨job, -, rfl⟩
      rfl
    rw [jobSets_eq, none (by decide), none (by decide), none (by decide), all]
    rfl
  refine .opening (Nat.zero_le 3) (by rw [Machine.activate, sets]) ⟨rest.writable, rest.object⟩ ?_
  exact {
    tables := rfl
    alive := rest.alive
    error := rfl
    commands := .nil
    ready := rest.ready
    registered := by simp [Machine.activate]
    fresh := by simp
    distinct := by simp
    waits := by simp }

/-- A part of `handle._run()` that leaves no error behind goes on with the loop. -/
theorem handleNext_none (det : Details σ) (m : Machine σ) (frame : Frame) {s : Inst σ}
    (clean : s.activationError = none) :
    m.handleNext det frame (.ok none, s) = m.goto s (.inner frame) := by
  simp [Machine.handleNext, Machine.handleDone, clean]

theorem tick_stage (converts : ∀ e, ∃ f, det.toFailure e = .ok f) (wf : m.inst.WellFormed)
    (registered : RegisteredTasks m.inst) (stage : Stage det s₀ queries m)
    (h : tick det m = some m') : Stage det s₀ queries m' := by
  cases stage with
  | @opening index early control usable state =>
    by_cases last : index = 3
    · subst last
      cases queries with
      | nil =>
        have control : m.control = .sets ⟨3, [[]]⟩ := control
        simp only [tick, control, Option.some.injEq] at h
        subst h
        exact .closing rfl state
      | cons job rest =>
        have control : m.control = .sets ⟨3, [(job :: rest).map .queryWorkflow]⟩ := control
        simp only [tick, control, List.map_cons, Option.some.injEq] at h
        subst h
        have all : job :: rest = ([] : List (FutId × QueryWorkflow)).map Prod.snd ++ job :: rest := rfl
        exact .applying (.inl rfl) all usable state
    · have sets : querySets index queries = [] :: querySets (index + 1) queries := by
        rw [querySets, show 3 - index = (3 - (index + 1)) + 1 by omega, List.replicate_succ]
        rfl
      rw [sets] at control
      simp only [tick, control, Option.some.injEq] at h
      subst h
      exact .opening (by omega) rfl usable state
  | @applying todo waiting control all usable state =>
    rcases control with control | ⟨rfl, control⟩
    · cases todo with
      | nil =>
        simp only [tick, control, List.map_nil, Option.some.injEq] at h
        subst h
        exact .applying (.inr ⟨rfl, rfl⟩) all usable state
      | cons job todo =>
        have bound (t : FutId) (member : t ∈ m.inst.registered) : t < m.inst.nextFut := by
          obtain ⟨task, isTask⟩ := Option.isSome_iff_exists.mp (registered t member)
          exact (wf.task t task isTask).1
        have applied : applyJob det (.queryWorkflow job) m.inst = (.ok (), _) ∧ _ :=
          state.apply usable.1 wf bound
        obtain ⟨run, after⟩ := applied
        simp only [tick, control, List.map_cons, run, Option.some.injEq] at h
        subst h
        exact .applying (.inl rfl) (by rw [all]; simp) usable after
    · simp only [tick, control, usable.2, if_true, Option.some.injEq] at h
      subst h
      have all : queries = [] ++ waiting.map Prod.snd := by simpa using all
      exact .looping (.inl rfl) all usable.1 state
  | @looping answered waiting leaving control all writable state =>
    rcases control with control | control
    · simp only [tick, control] at h
      split at h
      next empty =>
        -- nothing is left to start or to remove
        have nothing := state.ready
        rw [List.isEmpty_iff.mp empty] at nothing
        have nothing := List.append_eq_nil_iff.mp nothing.symm
        obtain rfl := List.map_eq_nil_iff.mp nothing.1
        obtain rfl := List.map_eq_nil_iff.mp nothing.2
        cases h
        rw [List.map_nil, List.append_nil] at all
        exact .closing rfl (all ▸ state)
      · cases h
        exact .looping (.inr rfl) all writable state
    · have ready := state.ready
      cases waiting with
      | cons w waiting =>
        obtain ⟨t, job⟩ := w
        simp only [List.map_cons, List.cons_append] at ready
        simp only [tick, control, ready, Option.some.injEq] at h
        subst h
        rcases state.start converts writable ready with
          ⟨s₁, run, readOnly, restores, runs, after⟩ | ⟨s₁, run, writable', after⟩
        · rw [run]
          exact .handling rfl all readOnly restores runs after
        · rw [run, handleNext_none det m _ after.error]
          exact .looping (.inr rfl) (by rw [all]; simp) writable' after
      | nil =>
        cases leaving with
        | cons t leaving =>
          simp only [List.map_nil, List.nil_append, List.map_cons] at ready
          simp only [tick, control, ready, Option.some.injEq] at h
          subst h
          have after := state.remove
          have run : handleRun det (.callback .tasksRemove t)
              (m.inst.setReady (leaving.map (.callback .tasksRemove))) =
                (.ok none, { m.inst.setReady (leaving.map (.callback .tasksRemove)) with
                  registered := m.inst.registered.erase t }) := rfl
          rw [run, handleNext_none det m _ after.error]
          exact .looping (.inr rfl) all writable after
        | nil =>
          simp only [List.map_nil, List.append_nil] at ready
          simp only [tick, control, ready, Frame.checks] at h
          cases h
          exact .looping (.inl rfl) all writable state
  | handling control =>
    simp only [tick, control] at h
    cases h
  | closing control state =>
    simp only [tick, control, Machine.complete, state.alive, Bool.false_and, Bool.false_eq_true,
      if_false, Option.filter, Option.some.injEq] at h
    subst h
    have same := state.registered
    rw [List.map_nil, List.append_nil, List.append_nil, List.append_nil] at same
    exact .closed rfl rfl state.commands state.tables same
  | closed control =>
    simp only [tick, control] at h
    cases h

/-- The handler of a query has ended. -/
theorem finishContext_stage (converts : ∀ e, ∃ f, det.toFailure e = .ok f)
    {answered : List QueryWorkflow} {t : FutId} {job : QueryWorkflow}
    {waiting : List (FutId × QueryWorkflow)} {leaving : List FutId}
    (all : queries = answered ++ job :: waiting.map Prod.snd)
    (restores : m.inst.prevReadOnly t = false) (runs : m.inst.Runs t job)
    (state : Answering s₀ answered [t] waiting leaving m.inst) (r : Except Exc Obj)
    (ordinary : ∀ e, r = .error e → ∃ err, e = .error err) :
    Stage det s₀ queries (finishContext det m (.task t) ⟨3, []⟩ r) := by
  obtain ⟨⟨task, isTask, root⟩, -⟩ := id runs
  obtain ⟨c, answers, added⟩ := finishQuery_run converts job ordinary state.alive
  obtain ⟨s₂, finished, writable, after⟩ := state.finish runs answers rfl
  have run : (finishCode det t task.root r >>= stepNext t) m.inst = (.ok none, s₂) := by
    rw [root]
    simp only [finishCode, ended, bind_run, state_run, attempt_run, restores, added, pure_run,
      Except.map]
    exact finished
  simp only [finishContext, isTask, run]
  rw [handleNext_none det m _ after.error]
  exact .looping (.inr rfl) (by rw [all]; simp) writable after

theorem perform_stage (converts : ∀ e, ∃ f, det.toFailure e = .ok f) (wf : m.inst.WellFormed)
    (stage : Stage det s₀ queries m) {a : Act σ} (ofFunction : a.ofFunction = true)
    (harmless : a.harmless m.inst) (h : perform det m a = some m') : Stage det s₀ queries m' := by
  have running {ctx : Ctx} {frame : Frame} (control : m.control = .code ctx frame) :
      ∃ answered t job waiting leaving, ctx = .task t ∧ frame = ⟨3, []⟩ ∧
        queries = answered ++ job :: waiting.map Prod.snd ∧ m.inst.readOnly = true ∧
        m.inst.prevReadOnly t = false ∧ m.inst.Runs t job ∧
        Answering s₀ answered [t] waiting leaving m.inst := by
    cases stage with
    | @handling answered t job waiting leaving control' all readOnly restores runs state =>
      rw [control, Control.code.injEq] at control'
      exact ⟨answered, t, job, waiting, leaving, control'.1, control'.2, all, readOnly, restores,
        runs, state⟩
    | opening _ control' | closing control' | closed control' =>
      rw [control] at control'
      cases control'
    | applying control' =>
      rw [control] at control'
      rcases control' with control' | ⟨-, control'⟩ <;> cases control'
    | looping control' =>
      rw [control] at control'
      rcases control' with control' | control' <;> cases control'
  cases perform_cases det h with
  | ret control v =>
    obtain ⟨_, t, job, _, _, rfl, rfl, all, -, restores, runs, state⟩ := running control
    exact finishContext_stage converts all restores runs state _ (by simp)
  | raise control e =>
    obtain ⟨_, t, job, _, _, rfl, rfl, all, -, restores, runs, state⟩ := running control
    refine finishContext_stage converts all restores runs state _ ?_
    rintro _ ⟨⟩
    cases e with
    | error err => exact ⟨err, rfl⟩
    | _ => cases ofFunction
  | @call ctx frame _ control enabled =>
    obtain ⟨_, t, job, _, _, rfl, rfl, all, readOnly, restores, runs, state⟩ := running control
    have frozen := performCall_frozen det wf readOnly harmless
    have runs' : (performCall det a m.inst).2.Runs t job := by
      obtain ⟨⟨task, isTask, root⟩, fut⟩ := id runs
      obtain ⟨task', isTask', root'⟩ := (performCall_moves det t a enabled).root wf isTask
      exact ⟨⟨task', isTask', root'.trans root⟩,
        (performCall_fut det wf readOnly enabled harmless runs).trans fut⟩
    exact .handling control all (frozen.readOnly.trans readOnly)
      ((congrFun frozen.prevReadOnly t).trans restores) runs'
      (state.call det wf readOnly enabled harmless)
  | await control enabled await | suspend control enabled await =>
    -- a function awaits nothing
    have function : a.awaits = false := by
      cases a with
      | raise e => rfl
      | _ => simpa [Act.ofFunction] using ofFunction
    rw [performAwait_awaits await] at function
    cases function

theorem step_stage (converts : ∀ e, ∃ f, det.toFailure e = .ok f) (wf : m.inst.WellFormed)
    (registered : RegisteredTasks m.inst) (stage : Stage det s₀ queries m) {l : Label σ}
    (harmless : HarmlessQuery m l) (h : step det m l = some m') : Stage det s₀ queries m' := by
  cases l with
  | activate jobs isReplaying => cases harmless.1
  | tick => exact tick_stage converts wf registered stage h
  | act a => exact perform_stage converts wf stage harmless.1 (harmless.2 a rfl) h

/-- An activation of queries, each handler of which is a function that makes
harmless calls only, answers every query once and in order, and leaves the books
of an instance at rest as they were. -/
theorem queries_read_only (det : Details σ) (mem : σ)
    (converts : ∀ e, ∃ f, det.toFailure e = .ok f) {m₀ m : Machine σ}
    (before : Reach det (fun _ _ => True) (Machine.init det mem) m₀) (rest : m₀.AtRest det)
    (queries : List QueryWorkflow) (isReplaying : Bool)
    (activation : Reach det HarmlessQuery
      (m₀.activate (queries.map .queryWorkflow) isReplaying) m) (idle : m.control = .idle) :
    (∃ commands, m.outcome = some (.returned (.successful commands)) ∧
      List.Forall₂ Command.answers commands queries) ∧
    m.inst.tables = m₀.inst.tables ∧ m.inst.registered = m₀.inst.registered := by
  have begun : step det m₀ (.activate (queries.map .queryWorkflow) isReplaying) =
      some (m₀.activate (queries.map .queryWorkflow) isReplaying) := by
    simp only [step, rest.idle]
  have wf₀ := before.wellFormed (init_wellFormed det mem)
  -- every step leads from one stage of the activation to the same or the next
  have stages := (activation.invariant
    (I := fun m => Stage det m₀.inst queries m ∧ RegisteredTasks m.inst)
    (step_wellFormed det wf₀ begun) ⟨activate_stage rest isReplaying, before.registeredTasks⟩
    fun _ _ _ wf holds harmless step =>
      ⟨step_stage converts wf.inst holds.2 holds.1 harmless step,
        (step_moves det wf step).registeredTasks wf.inst holds.2⟩).1.1
  cases stages with
  | closed _ outcome answers tables registered =>
    exact ⟨⟨_, outcome, answers⟩, tables, registered⟩
  | opening _ control | handling control | closing control =>
    rw [idle] at control
    cases control
  | applying control =>
    rw [idle] at control
    rcases control with control | ⟨-, control⟩ <;> cases control
  | looping control =>
    rw [idle] at control
    rcases control with control | control <;> cases control

/-- The workflow starts a timer and waits. -/
def startTimerAndWait : List (Label Nat) :=
  Label.activate [.startWorkflow []] false :: List.replicate 6 Label.tick ++ Label.act (.ret 0) ::
    List.replicate 2 Label.tick ++ [Label.act (.callLater 5), Label.act (.createFuture .user),
    Label.act (.await 1)] ++ List.replicate 4 Label.tick

/-- The handler of a query makes this call and raises. -/
def queryCalls (a : Act Nat) : List (Label Nat) :=
  List.replicate 9 Label.tick ++ [Label.act a, Label.act (.raise (.error (.valueError "no")))] ++
    List.replicate 4 Label.tick

/-- A query whose handler tries to start an activity. -/
theorem queries_read_only_refused : ∃ m₀ m,
    Reach Details.queried (fun _ _ => True) (Machine.init Details.queried 0) m₀ ∧
    run Details.queried (m₀.activate [.queryWorkflow ⟨"1", "q", []⟩] false)
      (queryCalls (.startActivity ⟨false, [], none, true, none⟩)) = some m ∧
    (∃ commands, m.outcome = some (.returned (.successful commands)) ∧
      List.Forall₂ Command.answers commands [⟨"1", "q", []⟩]) ∧
    m.inst.tables = m₀.inst.tables ∧ m.inst.registered = m₀.inst.registered := by
  have evaluated : ((run Details.queried (Machine.init Details.queried 0) startTimerAndWait).bind
      fun m₀ => (run Details.queried (m₀.activate [.queryWorkflow ⟨"1", "q", []⟩] false)
        (queryCalls (.startActivity ⟨false, [], none, true, none⟩))).map fun m =>
          decide (m₀.control = .idle) && !m₀.inst.deleting && !m₀.inst.readOnly &&
            decide (m₀.inst.ready = []) && m₀.inst.object.isSome && decide (m.control = .idle)) =
      some true := by decide +kernel
  obtain ⟨m₀, ran, rest⟩ := Option.bind_eq_some_iff.mp evaluated
  obtain ⟨m, ran', checked⟩ := Option.map_eq_some_iff.mp rest
  simp only [Bool.and_eq_true, Bool.not_eq_true', decide_eq_true_eq] at checked
  obtain ⟨⟨⟨⟨⟨idle, alive⟩, writable⟩, ready⟩, object⟩, idle'⟩ := checked
  have before : Reach Details.queried (fun _ _ => True) (Machine.init Details.queried 0) m₀ :=
    .of_run ran fun _ _ _ => trivial
  refine ⟨m₀, m, before, ran', ?_⟩
  apply queries_read_only Details.queried 0 (fun _ => ⟨0, rfl⟩) before
    ⟨idle, alive, writable, ready, by rw [object]; rfl⟩ [⟨"1", "q", []⟩] false _ idle'
  refine .of_run ran' fun l member m => ?_
  -- the calls of the query function are its own, and none settles a future
  have call {a : Act Nat} (function : a.ofFunction = true) (harmless : a.harmless m.inst) :
      HarmlessQuery m (.act a) := by
    refine ⟨function, ?_⟩
    rintro _ ⟨⟩
    exact harmless
  simp only [queryCalls, List.mem_append, List.mem_replicate, List.mem_cons, List.not_mem_nil,
    or_false] at member
  rcases member with (⟨-, rfl⟩ | rfl | rfl) | ⟨-, rfl⟩
  · exact ⟨rfl, fun a same => by cases same⟩
  · exact call rfl trivial
  · exact call rfl trivial
  · exact ⟨rfl, fun a same => by cases same⟩

/-- A query whose handler cancels a pending timer: `_add_command` refuses the
command, but the timer is gone. -/
theorem query_loses_timer : ∃ m₀ m,
    Reach Details.queried (fun _ _ => True) (Machine.init Details.queried 0) m₀ ∧
    m₀.AtRest Details.queried ∧
    Reach Details.queried (fun _ l => l.ofFunction = true)
      (m₀.activate [.queryWorkflow ⟨"1", "q", []⟩] false) m ∧
    m.control = .idle ∧ m₀.inst.pendingTimers 1 = true ∧ m.inst.pendingTimers 1 = false := by
  have evaluated : ((run Details.queried (Machine.init Details.queried 0) startTimerAndWait).bind
      fun m₀ => (run Details.queried (m₀.activate [.queryWorkflow ⟨"1", "q", []⟩] false)
        (queryCalls (.cancelTimer 1))).map fun m =>
          decide (m₀.control = .idle) && !m₀.inst.deleting && !m₀.inst.readOnly &&
            decide (m₀.inst.ready = []) && m₀.inst.object.isSome && decide (m.control = .idle) &&
            m₀.inst.pendingTimers 1 && !m.inst.pendingTimers 1) =
      some true := by decide +kernel
  obtain ⟨m₀, ran, rest⟩ := Option.bind_eq_some_iff.mp evaluated
  obtain ⟨m, ran', checked⟩ := Option.map_eq_some_iff.mp rest
  simp only [Bool.and_eq_true, Bool.not_eq_true', decide_eq_true_eq] at checked
  obtain ⟨⟨⟨⟨⟨⟨⟨idle, alive⟩, writable⟩, ready⟩, object⟩, idle'⟩, pending⟩, lost⟩ := checked
  refine ⟨m₀, m, .of_run ran fun _ _ _ => trivial,
    ⟨idle, alive, writable, ready, by rw [object]; rfl⟩, .of_run ran' ?_, idle', pending, lost⟩
  intro l member _
  exact List.all_eq_true.mp
    (by decide : (queryCalls (.cancelTimer 1)).all Label.ofFunction = true) l member

end TemporalSdk.Workflow
