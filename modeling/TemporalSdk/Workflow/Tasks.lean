import TemporalSdk.Workflow.Runs

/-!
# Tasks between creation and removal

What holds of the tasks of every reachable state, whatever they run: a task that
has not started has its first step in the ready queue, and a callback that
removes the entry of a task is queued only when the task is done.
-/
namespace TemporalSdk.Workflow

open Eff

variable {σ : Type}

/-! ### Callbacks that remove an entry -/

/-- The callbacks that the SDK attaches to its tasks. -/
def Callback.removes : Callback → Bool
  | .tasksRemove | .signalDone _ => true
  | _ => false

/-- An entry is removed when the task is done and not before. -/
structure Removals (s : Inst σ) : Prop where
  callbacks : ∀ f cb, cb.removes = true → cb ∈ (s.futs f).callbacks → (s.tasks f).isSome
  ready : ∀ f cb, cb.removes = true → .callback cb f ∈ s.ready →
    (s.tasks f).isSome ∧ s.isDone f = true

theorem Removals.step {K : List Kind} {s s' : Inst σ} (inv : Removals s) (wf : s.WellFormed)
    (h : Allowed K s s')
    (callbacks : ∀ f cb, cb.removes = true → cb ∈ (s'.futs f).callbacks →
      cb ∈ (s.futs f).callbacks ∨ (s'.tasks f).isSome)
    (ready : ∀ f cb, cb.removes = true → .callback cb f ∈ s'.ready →
      .callback cb f ∈ s.ready ∨ (s'.tasks f).isSome ∧ s'.isDone f = true) : Removals s' := by
  have moves : Moves K s s' := fun _ => .single h
  have tasks (f : FutId) (isTask : (s.tasks f).isSome) : (s'.tasks f).isSome := by
    obtain ⟨task, isTask⟩ := Option.isSome_iff_exists.mp isTask
    obtain ⟨task', isTask', -⟩ := moves.root wf isTask
    simp [isTask']
  constructor
  · intro f cb removes member
    rcases callbacks f cb removes member with old | new
    · exact tasks f (inv.callbacks f cb removes old)
    · exact new
  · intro f cb removes member
    rcases ready f cb removes member with old | new
    · obtain ⟨isTask, done⟩ := inv.ready f cb removes old
      obtain ⟨task, this⟩ := Option.isSome_iff_exists.mp isTask
      exact ⟨tasks f isTask, moves.isDone wf (wf.task f task this).1 done⟩
    · exact new

/-- Completing a future queues its callbacks. -/
theorem Removals.settled {K : List Kind} {s s' : Inst σ} (inv : Removals s) (wf : s.WellFormed)
    (h : Allowed K s s') {f : FutId} {new : FutState} (done : new.done = true)
    (futs : s'.futs = (s.settled f new).futs) (ready : s'.ready = (s.settled f new).ready) :
    Removals s' := by
  have moves : Moves K s s' := fun _ => .single h
  refine inv.step wf h ?_ ?_
  · intro f' cb removes member
    rw [futs] at member
    by_cases same : f' = f
    · simp [Inst.settled, Inst.pushAll, Inst.setFut, same] at member
    · left
      simpa [Inst.settled, Inst.pushAll, Inst.setFut, same] using member
  · intro f' cb removes member
    rw [ready] at member
    rcases List.mem_append.mp (show Handle.callback cb f' ∈ s.ready ++ _ from member) with old | new
    · exact .inl old
    · split at new
      · cases new
      · obtain ⟨cb', attached, same⟩ := List.mem_map.mp new
        cases same
        obtain ⟨task, isTask⟩ := Option.isSome_iff_exists.mp (inv.callbacks f cb removes attached)
        obtain ⟨task', isTask', -⟩ := moves.root wf isTask
        exact .inr ⟨by simp [isTask'],
          by simp [Inst.isDone, futs, Inst.settled, Inst.pushAll, Inst.setFut, done]⟩

theorem Removals.congr {s s' : Inst σ} (inv : Removals s) (futs : s'.futs = s.futs)
    (tasks : s'.tasks = s.tasks) (ready : ∀ h ∈ s'.ready, h.removes = true → h ∈ s.ready) :
    Removals s' := by
  constructor
  · rw [futs, tasks]
    exact inv.callbacks
  · intro f cb removes member
    have old := ready _ member (by cases cb <;> first | rfl | cases removes)
    rw [tasks, Inst.isDone, futs]
    exact inv.ready f cb removes old

theorem mem_of_mem_append {hs new : List Handle} {h : Handle}
    (notNew : ∀ h ∈ new, h.removes = false) (member : h ∈ hs ++ new) (removes : h.removes = true) :
    h ∈ hs := by
  rcases List.mem_append.mp member with old | fresh
  · exact old
  · rw [notNew h fresh] at removes
    cases removes

/-- A new future or task. -/
theorem Removals.made {K : List Kind} {s s' : Inst σ} (inv : Removals s) (wf : s.WellFormed)
    (h : Allowed K s s') {fut : Fut} (futs : s'.futs = Function.update s.futs s.nextFut fut)
    (callbacks : ∀ cb ∈ fut.callbacks, cb.removes = true → (s'.tasks s.nextFut).isSome)
    (ready : ∀ h ∈ s'.ready, h.removes = true → h ∈ s.ready) : Removals s' := by
  refine inv.step wf h ?_ ?_
  · intro f cb removes member
    rw [futs] at member
    by_cases same : f = s.nextFut
    · subst same
      rw [Function.update_self] at member
      exact .inr (callbacks cb member removes)
    · rw [Function.update_of_ne same] at member
      exact .inl member
  · intro f cb removes member
    exact .inl (ready _ member (by cases cb <;> first | rfl | cases removes))

theorem Removals.madeTask {K : List Kind} {s s' : Inst σ} (inv : Removals s) (wf : s.WellFormed)
    (h : Allowed K s s') {fut : Fut} {task : Task}
    (futs : s'.futs = Function.update s.futs s.nextFut fut)
    (tasks : s'.tasks = Function.update s.tasks s.nextFut (some task))
    (ready : s'.ready = s.ready ++ [Handle.taskStep s.nextFut]) : Removals s' := by
  refine inv.made wf h futs (fun cb _ _ => ?_) fun h member removes =>
    mem_of_mem_append (by simp [Handle.removes]) (ready ▸ member) removes
  rw [tasks, Function.update_self]
  rfl

theorem Removals.setTask {K : List Kind} {s : Inst σ} (inv : Removals s) (wf : s.WellFormed)
    {t : FutId} {task : Task} (h : Allowed K s (s.setTask t task)) : Removals (s.setTask t task) :=
  inv.step wf h (fun _ _ _ member => .inl member) fun _ _ _ member => .inl member

theorem Callback.plain_not_removes {cb : Callback} (plain : cb.plain = true) :
    cb.removes = false := by
  cases cb <;> first | rfl | cases plain

theorem Handle.plain_not_removes {h : Handle} (plain : h.plain = true) : h.removes = false := by
  cases h with
  | callback cb f => cases cb <;> first | rfl | cases plain
  | _ => rfl

/-- A callback of another kind is attached. -/
theorem Removals.attached {K : List Kind} {s : Inst σ} (inv : Removals s) (wf : s.WellFormed)
    {f : FutId} {cb : Callback} (other : cb.removes = false)
    (h : Allowed K s (s.setFut f { s.futs f with callbacks := (s.futs f).callbacks ++ [cb] })) :
    Removals (s.setFut f { s.futs f with callbacks := (s.futs f).callbacks ++ [cb] }) := by
  refine inv.step wf h (fun f' cb' removes member => .inl ?_) fun _ _ _ member => .inl member
  by_cases same : f' = f
  · subst same
    simp only [Inst.setFut, Function.update_self, List.mem_append, List.mem_singleton] at member
    rcases member with old | rfl
    · exact old
    · rw [other] at removes
      cases removes
  · simpa [Inst.setFut, same] using member

theorem Atom.removals {k : Kind} {s s' : Inst σ} (h : Atom k s s') (wf : s.WellFormed)
    (inv : Removals s) : Removals s' := by
  have allowed : Allowed [k] s s' := .inl ⟨k, by simp, h⟩
  have pushed {s' : Inst σ} (new : List Handle) (futs : s'.futs = s.futs)
      (tasks : s'.tasks = s.tasks) (ready : s'.ready = s.ready ++ new)
      (others : ∀ h ∈ new, h.removes = false) : Removals s' :=
    inv.congr futs tasks fun h member removes => mem_of_mem_append others (ready ▸ member) removes
  cases h with
  | callSoon | wakeup | yield | fire => exact pushed [_] rfl rfl rfl (by simp [Handle.removes])
  | push _ _ plain => exact pushed [_] rfl rfl rfl (by simpa using Handle.plain_not_removes plain)
  | newFut | cancelExternal =>
    exact inv.made wf allowed rfl (fun cb member => by cases member) fun h member _ => member
  | addCallback _ _ plain => exact inv.attached wf (Callback.plain_not_removes plain) allowed
  | addWakeup => exact inv.attached wf rfl allowed
  | settle _ done | resolveCancel _ done => exact inv.settled wf allowed done rfl rfl
  | cancelOuter | deliver | slept =>
    refine pushed _ rfl rfl rfl ?_
    split
    · simp
    · split <;> simp [Handle.removes]
  | fulfill =>
    refine pushed _ rfl rfl rfl ?_
    split
    · simp
    · simp [Handle.removes]
  | createUser | strayUser | bareUser | newActivity | strayActivity | newChild | strayChild =>
    exact inv.madeTask wf allowed rfl rfl rfl
  | request | mustCancel | setPoint | clearCancel => exact inv.setTask wf allowed
  | _ => exact pushed [] rfl rfl (List.append_nil _).symm (by simp)

theorem Move.removals {k : Kind} {s s' : Inst σ} (h : Move k s s') (wf : s.WellFormed)
    (inv : Removals s) : Removals s' := by
  have allowed : Allowed [k] s s' := .inr ⟨k, by simp, h⟩
  have popped {s' : Inst σ} {h : Handle} (futs : s'.futs = s.futs) (tasks : s'.tasks = s.tasks)
      (ready : s.ready = h :: s'.ready) : Removals s' :=
    inv.congr futs tasks fun h' member _ => ready ▸ List.mem_cons_of_mem _ member
  cases h with
  | met =>
    have done : (FutState.result 1).done = true := rfl
    exact inv.settled wf allowed done rfl rfl
  | finish _ _ _ done => exact inv.settled wf allowed done rfl rfl
  | pop _ ready | tasksRemove _ ready | signalDone _ ready => exact popped rfl rfl ready
  | signalTask | straySignal | spawn | strayJob => exact inv.madeTask wf allowed rfl rfl rfl
  | condition =>
    exact inv.made wf allowed rfl (fun cb member => by cases member) fun h member _ => member
  | wake => exact inv.setTask wf allowed
  | _ => exact inv.congr rfl rfl fun _ member _ => member

theorem Moves.removals {K : List Kind} {s s' : Inst σ} (h : Moves K s s') (wf : s.WellFormed)
    (inv : Removals s) : Removals s' := by
  refine (h.keeps wf inv ?_).1
  intro a b wfa allowed inv
  rcases allowed with ⟨k, -, atom⟩ | ⟨k, -, move⟩
  · exact atom.removals wfa inv
  · exact move.removals wfa inv

/-! ### New tasks and old ones -/

/-- Tasks that are handles of outbound calls. -/
def Root.ofHandle : Root → Bool
  | .activity | .child => true
  | _ => false

/-- A task whose registration is refused, by what creates it. -/
inductive Refused (K : List Kind) : Root → Prop
  | create (member : Kind.create ∈ K) : Refused K .user
  | issue {root : Root} (member : Kind.issue ∈ K) (ofHandle : root.ofHandle = true) : Refused K root
  | signal {root : Root} (member : Kind.signal ∈ K) : Refused K root
  | spawn {root : Root} (member : Kind.spawn ∈ K) : Refused K root

/-- A task comes into being with its first step in the queue, and in `_tasks`
unless the instance is being deleted or workflow code makes it on its own. -/
structure Created (K : List Kind) (s s' : Inst σ) (t : FutId) (task : Task) : Prop where
  fresh : t = s.nextFut
  start : task.point = .start
  pending : s'.isDone t = false
  ready : s'.ready = s.ready ++ [.taskStep t]
  registered : s'.registered = s.registered ++ [t] ∨
    s'.registered = s.registered ∧ (s.deleting = true ∧ Refused K task.root ∨ Kind.bare ∈ K)

theorem Allowed.created {K : List Kind} {s s' : Inst σ} (h : Allowed K s s') {t : FutId}
    {task : Task} (before : s.tasks t = none) (isTask : s'.tasks t = some task) :
    Created K s s' t task := by
  have made {s' : Inst σ} {fut : Fut} {new : Task} (isTask : s'.tasks t = some task)
      (tasks : s'.tasks = Function.update s.tasks s.nextFut (some new)) (start : new.point = .start)
      (futs : s'.futs = Function.update s.futs s.nextFut fut) (pending : fut.state.done = false)
      (ready : s'.ready = s.ready ++ [Handle.taskStep s.nextFut])
      (registered : s'.registered = s.registered ++ [s.nextFut] ∨
        s'.registered = s.registered ∧
          (s.deleting = true ∧ Refused K new.root ∨ Kind.bare ∈ K)) :
      Created K s s' t task := by
    rw [tasks] at isTask
    by_cases same : t = s.nextFut
    · subst same
      rw [Function.update_self, Option.some.injEq] at isTask
      subst isTask
      exact ⟨rfl, start, by rw [Inst.isDone, futs, Function.update_self, pending], ready, registered⟩
    · rw [Function.update_of_ne same, before] at isTask
      cases isTask
  have old {t' : FutId} {old new : Task} (isOld : s.tasks t' = some old)
      (isTask : (s.setTask t' new).tasks t = some task) : Created K s s' t task := by
    by_cases same : t = t'
    · subst same
      rw [before] at isOld
      cases isOld
    · simp [Inst.setTask, same, before] at isTask
  rcases h with ⟨k, member, atom⟩ | ⟨k, member, move⟩
  · have issued (issue : k = .issue) : Kind.issue ∈ K := by
      subst issue
      simpa using member
    cases atom with
    | createUser | newActivity | newChild => exact made isTask rfl rfl rfl rfl rfl (.inl rfl)
    | strayUser _ evicting =>
      exact made isTask rfl rfl rfl rfl rfl
        (.inr ⟨rfl, .inl ⟨evicting, .create (by simpa using member)⟩⟩)
    | strayActivity _ _ evicting | strayChild _ _ evicting =>
      exact made isTask rfl rfl rfl rfl rfl (.inr ⟨rfl, .inl ⟨evicting, .issue (issued rfl) rfl⟩⟩)
    | bareUser => exact made isTask rfl rfl rfl rfl rfl (.inr ⟨rfl, .inr (by simpa using member)⟩)
    | request _ isOld | mustCancel _ isOld | setPoint _ isOld | clearCancel _ isOld =>
      exact old isOld isTask
    | _ =>
      rw [show s.tasks t = some task from isTask] at before
      cases before
  · cases move with
    | signalTask | spawn => exact made isTask rfl rfl rfl rfl rfl (.inl rfl)
    | straySignal _ evicting =>
      exact made isTask rfl rfl rfl rfl rfl (.inr ⟨rfl, .inl ⟨evicting, .signal member⟩⟩)
    | strayJob _ evicting =>
      exact made isTask rfl rfl rfl rfl rfl (.inr ⟨rfl, .inl ⟨evicting, .spawn member⟩⟩)
    | wake _ isOld => exact old isOld isTask
    | _ =>
      rw [show s.tasks t = some task from isTask] at before
      cases before

/-- `_tasks` loses entries only through the callbacks of its tasks. -/
theorem Allowed.registered {K : List Kind} {s s' : Inst σ} (h : Allowed K s s')
    (notPop : Kind.pop ∉ K) : s.registered ⊆ s'.registered := by
  rcases h with ⟨k, -, atom⟩ | ⟨k, member, move⟩
  · cases atom with
    | createUser | newActivity | newChild => exact List.subset_append_left _ _
    | _ => exact List.Subset.refl _
  · cases move with
    | signalTask | spawn => exact List.subset_append_left _ _
    | tasksRemove | signalDone | pop => exact absurd member notPop
    | _ => exact List.Subset.refl _

/-- A task that has started does not start again. -/
theorem Allowed.start {K : List Kind} {s s' : Inst σ} (h : Allowed K s s') (wf : s.WellFormed)
    {t : FutId} {task task' : Task} (isTask : s.tasks t = some task)
    (isTask' : s'.tasks t = some task') (start : task'.point = .start) : task.point = .start := by
  rcases h.calm_or_move wf with calm | ⟨k, -, move⟩
  · obtain ⟨task'', isTask'', -, starts⟩ := calm.task t task isTask
    rw [isTask', Option.some.injEq] at isTask''
    subst isTask''
    exact starts start
  · by_cases wake : k = .wake t
    · subst wake
      cases move
      simp only [Inst.setTask, Function.update_self, Option.some.injEq] at isTask'
      subst isTask'
      cases start
    · obtain ⟨task'', isTask'', -, point⟩ := move.point wf wake isTask
      rw [isTask', Option.some.injEq] at isTask''
      subst isTask''
      rw [← point, start]

/-! ### First steps -/

/-- The first step of every task but `X` is in the queue. -/
def StartsExcept (X : FutId → Prop) (s : Inst σ) : Prop :=
  ∀ t task, ¬X t → s.tasks t = some task → s.isDone t = false → task.point = .start →
    .taskStep t ∈ s.ready

theorem Allowed.starts {K : List Kind} {s s' : Inst σ} (h : Allowed K s s') (wf : s.WellFormed)
    (notPop : Kind.pop ∉ K) {X : FutId → Prop} (starts : StartsExcept X s) : StartsExcept X s' := by
  have moves : Moves K s s' := fun _ => .single h
  intro t task notX isTask pending start
  cases before : s.tasks t with
  | none =>
    rw [(h.created before isTask).ready]
    simp
  | some old =>
    have pendingBefore : s.isDone t = false := by
      by_contra done
      have := moves.isDone wf (wf.task t old before).1 (by simpa using done)
      rw [pending] at this
      cases this
    obtain ⟨hs, ready⟩ := moves.ready wf notPop
    rw [ready]
    exact List.mem_append_left _ (starts t old notX before pendingBefore
      (h.start wf before isTask start))

theorem Moves.starts {K : List Kind} {s s' : Inst σ} (h : Moves K s s') (wf : s.WellFormed)
    (notPop : Kind.pop ∉ K) {X : FutId → Prop} (starts : StartsExcept X s) : StartsExcept X s' :=
  (h.keeps wf starts fun _ _ wfa allowed starts => allowed.starts wfa notPop starts).1

theorem Moves.start {K : List Kind} {s s' : Inst σ} (h : Moves K s s') (wf : s.WellFormed)
    {t : FutId} {task task' : Task} (isTask : s.tasks t = some task)
    (isTask' : s'.tasks t = some task') (start : task'.point = .start) : task.point = .start := by
  refine (h.keeps (I := fun s₁ => ∃ task₁, s₁.tasks t = some task₁ ∧
    (task₁.point = .start → task.point = .start)) wf ⟨task, isTask, id⟩ ?_).1.elim ?_
  · rintro a b wfa allowed ⟨task₁, isTask₁, before⟩
    obtain ⟨task₂, isTask₂, -⟩ := Moves.root (fun _ => .single allowed) wfa isTask₁
    exact ⟨task₂, isTask₂, fun start => before (allowed.start wfa isTask₁ isTask₂ start)⟩
  · rintro task₁ ⟨isTask₁, before⟩
    rw [isTask', Option.some.injEq] at isTask₁
    subst isTask₁
    exact before start

/-- The state in which the coroutine of a task goes on. -/
def Inst.woken (s : Inst σ) (t : FutId) (task : Task) : Inst σ :=
  s.setTask t { task with mustCancel := false, point := .running }

/-- What a pending task is resumed with. -/
def Task.resumption (task : Task) (input : Except Exc Obj) : Except Exc Obj :=
  if task.mustCancel then .error .cancelled else input

theorem stepTask_run (det : Details σ) {t : FutId} (input : Except Exc Obj) {s : Inst σ}
    {task : Task} (isTask : s.tasks t = some task) (pending : s.isDone t = false) :
    stepTask det t input s =
      (resume det t task.root task.point (task.resumption input) >>= stepNext t)
        (s.woken t task) := by
  simp only [stepTask, state_bind_run, isTask, pending, Bool.false_eq_true, if_false,
    update_bind_run]
  rfl

theorem stepTask_idle (det : Details σ) {t : FutId} (input : Except Exc Obj) {s : Inst σ}
    (idle : ∀ task, s.tasks t = some task → s.isDone t = true) :
    (∀ ctx s', stepTask det t input s ≠ (.ok (some ctx), s')) ∧ (stepTask det t input s).2 = s := by
  simp only [stepTask, state_bind_run]
  cases isTask : s.tasks t with
  | none => simp
  | some task => simp [idle task isTask]

theorem Inst.woken_moves {s : Inst σ} {t : FutId} {task : Task} (isTask : s.tasks t = some task)
    (pending : s.isDone t = false) : Moves [.wake t] s (s.woken t task) :=
  .of_move (by simp) (.wake s isTask pending)

theorem stepTask_started (det : Details σ) {t : FutId} (input : Except Exc Obj) {s : Inst σ}
    (wf : s.WellFormed) {task' : Task} (pending : s.isDone t = false)
    (isTask' : (stepTask det t input s).2.tasks t = some task') : task'.point ≠ .start := by
  intro start
  cases isTask : s.tasks t with
  | none =>
    rw [(stepTask_idle det input fun task this => by rw [isTask] at this; cases this).2,
      isTask] at isTask'
    cases isTask'
  | some task =>
    have woken := Inst.woken_moves isTask pending
    have isTask₁ : (s.woken t task).tasks t = some { task with mustCancel := false, point := .running } := by
      simp [Inst.woken, Inst.setTask]
    have notFinish : Kind.finish t ∉ task.kinds t := fun member => by
      cases task.kinds_ofTask t _ member
    rw [stepTask_run det input isTask pending] at isTask'
    have moves := stepBody_moves notFinish (woken.wellFormed wf) isTask₁ pending
      (resume_moves det t task (task.resumption input) _)
    have before := moves.start (woken.wellFormed wf) isTask₁ isTask' start
    cases before

/-! ### The step that runs a handle -/

/-- A handle moves on no task but the one it steps. -/
theorem Inst.steps_of_own {s : Inst σ} {h : Handle} {t : FutId}
    (own : Kind.own t ∈ s.handleKinds h ∨ Kind.wake t ∈ s.handleKinds h) : s.steps h t := by
  have ofRoot (t' : FutId) : Kind.own t ∈ s.rootKinds t' → t = t' := fun member => by
    simpa [Kind.ofTask] using s.rootKinds_ofTask t' _ member
  rcases own with own | wake
  · rcases Inst.handleKinds_steps own with deliver | ⟨t', steps, member⟩
    · cases deliver
    · have same : t = t' := by
        rcases List.mem_cons.mp member with wake | member
        · cases wake
        rcases List.mem_cons.mp member with finish | member
        · cases finish
        rcases List.mem_cons.mp member with this | member
        · cases this
          rfl
        · exact ofRoot t' member
      exact same ▸ steps
  · rcases Inst.handleKinds_steps wake with deliver | ⟨t', steps, member⟩
    · cases deliver
    · have same : t = t' := by
        rcases List.mem_cons.mp member with this | member
        · cases this
          rfl
        rcases List.mem_cons.mp member with finish | member
        · cases finish
        rcases List.mem_cons.mp member with own | member
        · cases own
        · cases s.rootKinds_ofTask t' _ member
      exact same ▸ steps

/-- The step takes a handle from the queue and runs it. -/
def Machine.RunsHandle (m : Machine σ) (l : Label σ) (frame : Frame) (h : Handle)
    (rest : List Handle) : Prop :=
  l = .tick ∧ m.control = .inner frame ∧ m.inst.ready = h :: rest

theorem pop_mem_stepKinds {det : Details σ} {m : Machine σ} {l : Label σ}
    (pop : Kind.pop ∈ m.stepKinds det l) : ∃ frame h rest, m.RunsHandle l frame h rest := by
  cases l with
  | activate => simp [Machine.stepKinds] at pop
  | tick =>
    simp only [Machine.stepKinds] at pop
    split at pop
    next job rest frame control =>
      have job : Kind.pop ∉ job.kinds := by cases job <;> simp [Job.kinds]
      simp [job] at pop
    next frame control =>
      split at pop
      next h rest ready => exact ⟨frame, h, rest, rfl, control, ready⟩
      · simp at pop
    · simp at pop
  | act a =>
    have called (t : FutId) : Kind.pop ∉ a.kinds det t := fun pop => by
      simpa using a.kinds_subset det t pop
    have ended (ctx : Ctx) : Kind.pop ∉ m.inst.endKinds ctx := fun pop => by
      rcases m.inst.endKinds_cases ctx _ pop with ofHandle | construct
      · cases ofHandle
      · cases construct
    simp only [Machine.stepKinds] at pop
    split at pop
    next ctx frame control =>
      split at pop
      · simp [ended] at pop
      · simp [ended] at pop
      · split at pop
        · simp [called] at pop
        · exact absurd pop (called _)
    · cases pop

theorem Machine.RunsHandle.step {det : Details σ} {m m' : Machine σ} {l : Label σ} {frame : Frame}
    {h : Handle} {rest : List Handle} (runs : m.RunsHandle l frame h rest)
    (stepped : step det m l = some m') :
    m' = m.handleNext det frame (handleRun det h (m.inst.setReady rest)) := by
  obtain ⟨rfl, control, ready⟩ := runs
  simp only [Workflow.step, tick, control, ready, Option.some.injEq] at stepped
  exact stepped.symm

/-- `Handle._run` reports what its callback raises, if it keeps it, and does nothing else. -/
theorem handleRun_state (det : Details σ) (h : Handle) (s : Inst σ) :
    (handleRun det h s).2 = (handleCallback det h s).2 ∨
      (handleRun det h s).2 = (handleCallback det h s).2.log .exceptionHandler := by
  cases called : handleCallback det h s with
  | mk r s' =>
    cases r with
    | ok ctx =>
      left
      rw [handleRun_ok called]
    | error e =>
      rw [handleRun_error called]
      split
      · exact .inl rfl
      · simp only [callExceptionHandler, update_run]
        split
        · exact .inl rfl
        · exact .inr rfl

theorem handleRun_tasks (det : Details σ) (h : Handle) (s : Inst σ) :
    (handleRun det h s).2.tasks = (handleCallback det h s).2.tasks := by
  rcases handleRun_state det h s with same | logged
  · rw [same]
  · rw [logged]
    rfl

theorem popHandle_starts (det : Details σ) {s : Inst σ} (wf : s.WellFormed) {h : Handle}
    {rest : List Handle} (ready : s.ready = h :: rest) (starts : StartsExcept (fun _ => False) s) :
    StartsExcept (fun _ => False) (handleRun det h (s.setReady rest)).2 := by
  -- all but the task of this handle still have their first step in the queue
  have others : StartsExcept (fun t => h = .taskStep t) (s.setReady rest) := by
    intro t task other isTask pending start
    have queued := starts t task id isTask pending start
    rw [ready] at queued
    rcases List.mem_cons.mp queued with this | later
    · exact absurd this.symm other
    · exact later
  cases removes : h.removes with
  | true =>
    have other (t : FutId) : h ≠ .taskStep t := by
      rintro rfl
      cases removes
    intro t task _ isTask pending start
    cases h with
    | callback cb f =>
      cases cb with
      | tasksRemove => exact others t task (other t) isTask pending start
      | signalDone id => exact others t task (other t) isTask pending start
      | _ => cases removes
    | _ => cases removes
  | false =>
    have popped : Moves [.pop] s (s.setReady rest) := .of_move (by simp) (.pop s ready removes)
    have wf' := popped.wellFormed wf
    have ran := (handleRun_moves det removes (s.setReady rest)).starts wf' (by
      intro pop
      rcases List.mem_cons.mp pop with book | ofHandle
      · cases book
      · cases (s.setReady rest).handleKinds_ofHandle h _ ofHandle) others
    intro t task _ isTask pending start
    by_cases this : h = .taskStep t
    · subst this
      have moves := handleRun_moves det removes (s.setReady rest)
      rw [handleRun_tasks] at isTask
      refine absurd start (stepTask_started det (.ok 0) wf' ?_ isTask)
      cases before : (s.setReady rest).tasks t with
      | none =>
        have idle := stepTask_idle det (.ok 0) (s := s.setReady rest) (t := t) fun task this => by
          rw [before] at this
          cases this
        rw [show (handleCallback det (.taskStep t) (s.setReady rest)).2 = s.setReady rest from idle.2,
          before] at isTask
        cases isTask
      | some task₀ =>
        by_contra done
        have later := moves.isDone wf' (wf'.task t task₀ before).1 (by simpa using done)
        rw [pending] at later
        cases later
    · exact ran t task this isTask pending start

/-! ### Every reachable state -/

structure TaskBooks (s : Inst σ) : Prop where
  removals : Removals s
  starts : StartsExcept (fun _ => False) s

theorem step_taskBooks (det : Details σ) {m m' : Machine σ} {l : Label σ} (wf : m.WellFormed)
    (books : TaskBooks m.inst) (h : step det m l = some m') : TaskBooks m'.inst := by
  have moves := step_moves det wf h
  refine ⟨moves.removals wf.inst books.removals, ?_⟩
  by_cases pop : Kind.pop ∈ m.stepKinds det l
  · obtain ⟨frame, handle, rest, runs⟩ := pop_mem_stepKinds pop
    have popped := popHandle_moves det runs.2.2
    rw [runs.step h]
    exact (handleNext_moves det m frame _).starts (popped.wellFormed wf.inst) (by simp)
      (popHandle_starts det wf.inst runs.2.2 books.starts)
  · exact moves.starts wf.inst pop books.starts

theorem init_taskBooks (det : Details σ) (mem : σ) : TaskBooks (Machine.init det mem).inst := by
  refine ⟨⟨?_, ?_⟩, ?_⟩
  · intro f cb _ member
    cases member
  · intro f cb _ member
    cases member
  · intro t task _ isTask
    cases isTask

theorem Reach.taskBooks {det : Details σ} {ok : Machine σ → Label σ → Prop} {mem : σ}
    {m : Machine σ} (reach : Reach det ok (Machine.init det mem) m) : TaskBooks m.inst :=
  (reach.invariant (I := fun m => TaskBooks m.inst) (init_wellFormed det mem) (init_taskBooks det mem)
    fun _ _ _ wf books _ step => step_taskBooks det wf books step).1

/-- `_tasks` holds tasks. -/
def RegisteredTasks (s : Inst σ) : Prop := ∀ t ∈ s.registered, (s.tasks t).isSome

theorem Allowed.registeredTasks {K : List Kind} {s s' : Inst σ} (h : Allowed K s s')
    (wf : s.WellFormed) (tasks : RegisteredTasks s) : RegisteredTasks s' := by
  intro t member
  by_cases old : t ∈ s.registered
  · obtain ⟨task, isTask⟩ := Option.isSome_iff_exists.mp (tasks t old)
    obtain ⟨task', isTask', -⟩ := Moves.root (K := K) (fun _ => .single h) wf isTask
    simp [isTask']
  · -- it was registered when it was made
    have made {s' : Inst σ} {new : Task}
        (tasks : s'.tasks = Function.update s.tasks s.nextFut (some new))
        (registered : s'.registered = s.registered ++ [s.nextFut]) (member : t ∈ s'.registered) :
        (s'.tasks t).isSome := by
      rw [registered, List.mem_append, List.mem_singleton] at member
      rw [tasks, member.resolve_left old, Function.update_self]
      rfl
    rcases h with ⟨k, -, atom⟩ | ⟨k, -, move⟩
    · cases atom with
      | createUser | newActivity | newChild => exact made rfl rfl member
      | _ => exact absurd member old
    · cases move with
      | signalTask | spawn => exact made rfl rfl member
      | tasksRemove => exact absurd (List.mem_of_mem_erase member) old
      | _ => exact absurd member old

theorem Moves.registeredTasks {K : List Kind} {s s' : Inst σ} (h : Moves K s s')
    (wf : s.WellFormed) (tasks : RegisteredTasks s) : RegisteredTasks s' :=
  (h.keeps wf tasks fun _ _ wfa allowed tasks => allowed.registeredTasks wfa tasks).1

theorem Reach.registeredTasks {det : Details σ} {ok : Machine σ → Label σ → Prop} {mem : σ}
    {m : Machine σ} (reach : Reach det ok (Machine.init det mem) m) : RegisteredTasks m.inst := by
  refine (reach.invariant (I := fun m => RegisteredTasks m.inst) (init_wellFormed det mem) ?_
    fun _ _ _ wf tasks _ step => (step_moves det wf step).registeredTasks wf.inst tasks).1
  intro t member
  cases member

end TemporalSdk.Workflow
