import TemporalSdk.Properties.Activation

/-!
# Read-only mode

`_as_read_only` sets `_read_only` for a query handler or an update validator and
restores it in a `finally`. A query handler may be a coroutine, and then the
block is held across its `await`.

## Main result

* `read_only_restored`: in a run in which no query handler awaits something that
  is not done, `_read_only` is false whenever `activate` has returned.

A handler that does await leaves the flag set for good, since its own
continuation cannot be scheduled in a read-only context.

## Proof strategy

As long as no query stands at an `await`, at most one read-only block is open:
that of the code that is running. `ReadOnlyScoped` says so and says what the
flag is restored to; each way of entering and leaving such code keeps it.
-/
namespace TemporalSdk.Workflow

open Eff

variable {σ : Type}

/-! ### The invariant -/

/-- The task runs a query. -/
def Inst.isQuery (s : Inst σ) (t : FutId) : Prop :=
  ∃ task job, s.tasks t = some task ∧ task.root = .query job

/-- The flag while this code runs, and what it will be restored to. -/
def Ctx.Scoped (s : Inst σ) : Ctx → Prop
  | .validator _ _ _ _ prev => prev = false
  | .task t => (s.isQuery t → s.readOnly = true ∧ s.prevReadOnly t = false) ∧
      (¬s.isQuery t → s.readOnly = false)
  | .callback | .init => s.readOnly = false

def Control.Scoped (s : Inst σ) : Control → Prop
  | .code ctx _ => ctx.Scoped s
  | _ => s.readOnly = false

/-- No query waits for anything. -/
def QueriesStand (s : Inst σ) : Prop :=
  ∀ t task job, s.tasks t = some task → task.root = .query job →
    task.point = .start ∨ task.point = .running

structure ReadOnlyScoped (m : Machine σ) : Prop where
  mode : m.control.Scoped m.inst
  queries : QueriesStand m.inst

theorem Inst.isQuery_iff {s : Inst σ} {t : FutId} {task : Task} (isTask : s.tasks t = some task) :
    s.isQuery t ↔ ∃ job, task.root = .query job := by
  constructor
  · rintro ⟨task', job, isTask', root⟩
    rw [isTask, Option.some.injEq] at isTask'
    subst isTask'
    exact ⟨job, root⟩
  · rintro ⟨job, root⟩
    exact ⟨task, job, isTask, root⟩

theorem Moves.isQuery {K : List Kind} {s s' : Inst σ} (h : Moves K s s') (wf : s.WellFormed)
    {t : FutId} {task : Task} (isTask : s.tasks t = some task) : s'.isQuery t ↔ s.isQuery t := by
  obtain ⟨task', isTask', root⟩ := h.root wf isTask
  rw [Inst.isQuery_iff isTask, Inst.isQuery_iff isTask', root]

/-! ### Queries stand still -/

/-- The tasks that a sequence of moves may suspend are no queries. -/
def NoQueryMoves (K : List Kind) (s : Inst σ) : Prop :=
  ∀ t, Kind.own t ∈ K → ∃ task, s.tasks t = some task ∧ ∀ job, task.root ≠ .query job

theorem NoQueryMoves.allowed {K : List Kind} {s s' : Inst σ} (noQuery : NoQueryMoves K s)
    (wf : s.WellFormed) (h : Moves K s s') : NoQueryMoves K s' := by
  intro t own
  obtain ⟨task, isTask, other⟩ := noQuery t own
  obtain ⟨task', isTask', root⟩ := h.root wf isTask
  exact ⟨task', isTask', by rwa [root]⟩

theorem Allowed.queriesStand {K : List Kind} {s s' : Inst σ} (h : Allowed K s s')
    (wf : s.WellFormed) (noQuery : NoQueryMoves K s) (stand : QueriesStand s) :
    QueriesStand s' := by
  intro t task job isTask root
  cases before : s.tasks t with
  | some old =>
    have stood (root : task.root = old.root) (point : task.point = old.point) :
        task.point = .start ∨ task.point = .running := by
      rw [point]
      exact stand t old job before (by rw [← root]; assumption)
    rcases h with ⟨k, member, atom⟩ | ⟨k, member, move⟩
    · have notOwn : k ≠ .own t := by
        rintro rfl
        obtain ⟨task', isTask', other⟩ := noQuery t (by simpa using member)
        obtain ⟨task'', isTask'', root'', -⟩ := (atom.calm wf).task t task' isTask'
        rw [isTask, Option.some.injEq] at isTask''
        subst isTask''
        exact other job (root''.symm.trans root)
      obtain ⟨task', isTask', root', point'⟩ := atom.point wf notOwn before
      rw [isTask, Option.some.injEq] at isTask'
      subst isTask'
      exact stood root' point'
    · by_cases wake : k = .wake t
      · subst wake
        cases move
        simp only [Inst.setTask, Function.update_self, Option.some.injEq] at isTask
        subst isTask
        exact .inr rfl
      · obtain ⟨task', isTask', root', point'⟩ := move.point wf wake before
        rw [isTask, Option.some.injEq] at isTask'
        subst isTask'
        exact stood root' point'
  | none =>
    -- a task of a job has not started
    rcases h.calm_or_move wf with calm | ⟨k, -, move⟩
    · rcases calm.created t task isTask with old | ⟨-, -, -, outbound⟩
      · rw [before] at old
        cases old
      · rw [root] at outbound
        cases outbound
    · have new {s₁ : Inst σ} {root : Root} (tasks : s₁.tasks = Function.update s.tasks s.nextFut
          (some ⟨root, .start, false, 0⟩)) (isTask : s₁.tasks t = some task) :
          task.point = .start ∨ task.point = .running := by
        rw [tasks] at isTask
        by_cases same : t = s.nextFut
        · rw [same, Function.update_self, Option.some.injEq] at isTask
          subst isTask
          exact .inl rfl
        · rw [Function.update_of_ne same, before] at isTask
          cases isTask
      cases move with
      | signalTask | straySignal | spawn | strayJob => exact new rfl isTask
      | @wake _ t' task' isTask' =>
        by_cases same : t = t'
        · subst same
          rw [before] at isTask'
          cases isTask'
        · simp [Inst.setTask, same, before] at isTask
      | _ =>
        rw [show s.tasks t = some task from isTask] at before
        cases before

theorem Moves.queriesStand {K : List Kind} {s s' : Inst σ} (h : Moves K s s') (wf : s.WellFormed)
    (noQuery : NoQueryMoves K s) (stand : QueriesStand s) : QueriesStand s' := by
  refine (h.keeps (I := fun s => NoQueryMoves K s ∧ QueriesStand s) wf ⟨noQuery, stand⟩ ?_).1.2
  rintro a b wfa allowed ⟨noQuery, stand⟩
  refine ⟨noQuery.allowed wfa fun _ => ?_, allowed.queriesStand wfa noQuery stand⟩
  exact .single allowed

/-! ### Entering and leaving read-only code -/

/-- What a step of the coroutine of `t` leaves behind: the flag is as the code
that runs next needs it, or cleared. -/
def Next.Scoped (t : FutId) (root : Root) (s : Inst σ) : Except Exc Next → Prop
  | .ok (.code (.validator _ _ _ _ prev)) => prev = false
  | .ok (.code (.task t')) => t' = t ∧ ((∃ job, root = .query job) →
      s.readOnly = true ∧ s.prevReadOnly t = false) ∧
      ((∀ job, root ≠ .query job) → s.readOnly = false)
  | _ => s.readOnly = false

theorem ended_scoped {x : Wf σ Unit} {t : FutId} {root : Root} {s : Inst σ}
    (cleared : (x s).2.readOnly = false) :
    Next.Scoped t root (ended x s).2 (ended x s).1 := by
  simp only [ended, bind_run, attempt_run, pure_run]
  exact cleared

/-- Code that never touches the flag. -/
theorem scoped_of_moves {K : List Kind} {s : Inst σ} (wf : s.WellFormed)
    (cleared : s.readOnly = false) (notMode : Kind.mode ∉ K) {t : FutId} {root : Root}
    (notQuery : ∀ job, root ≠ .query job) {x : Wf σ Next} (moves : Moves K s (x s).2)
    (ofTask : ∀ ctx s', x s = (.ok (.code ctx), s') → ctx = .task t) :
    Next.Scoped t root (x s).2 (x s).1 := by
  have after : (x s).2.readOnly = false := (moves.readOnly wf notMode).1.trans cleared
  cases run : x s with
  | mk r s' =>
    rw [run] at after
    cases r with
    | error e => exact after
    | ok next =>
      cases next with
      | done r => exact after
      | code ctx =>
        rw [ofTask ctx s' run]
        exact ⟨rfl, fun ⟨job, same⟩ => absurd same (notQuery job), fun _ => after⟩

theorem queryEnd_readOnly (det : Details σ) (job : QueryWorkflow) (prev : Bool)
    (r : Except Exc Payload) {s : Inst σ} (wf : s.WellFormed) :
    (queryEnd det job prev r s).2.readOnly = prev := by
  rw [queryEnd, update_bind_run]
  have restored : Moves [.mode] s { s with readOnly := prev } :=
    .of_move (by simp) (.mode s prev s.prevReadOnly)
  have kept {answer : Wf σ Unit} (moves : Steady (Moves [.command]) answer) :
      (answer { s with readOnly := prev }).2.readOnly = prev :=
    ((moves _).readOnly (restored.wellFormed wf) (by simp)).1
  refine kept (.bind (.attempt (.bind (.ofExcept r) fun _ => .bind (addCommand_moves (by simp) rfl)
    fun _ => .pure _)) fun r => ?_)
  split
  · exact .pure _
  · exact queryExcept_moves det job _
  · exact .raise _

theorem startQuery_scoped (det : Details σ) (t : FutId) (job : QueryWorkflow) {s : Inst σ}
    (wf : s.WellFormed) (cleared : s.readOnly = false) :
    Next.Scoped t (.query job) (startQuery det t job s).2 (startQuery det t job s).1 := by
  have entered : Moves [.mode] s { s with
      prevReadOnly := Function.update s.prevReadOnly t s.readOnly
      readOnly := true } := .of_move (by simp) (.mode s true _)
  -- a query that fails at once sets the mode back before it ends
  have failed (r : Except Exc Payload) : Next.Scoped t (.query job)
      (ended (queryEnd det job s.readOnly r) { s with
        prevReadOnly := Function.update s.prevReadOnly t s.readOnly
        readOnly := true }).2
      (ended (queryEnd det job s.readOnly r) { s with
        prevReadOnly := Function.update s.prevReadOnly t s.readOnly
        readOnly := true }).1 := by
    apply ended_scoped
    rw [queryEnd_readOnly det job _ r (entered.wellFormed wf), cleared]
  simp only [startQuery, state_bind_run, update_bind_run]
  cases s.queries.resolve job.queryType with
  | none => exact failed _
  | some defn =>
    dsimp only
    cases det.processHandlerArgs job.queryType job.arguments defn with
    | error e => exact failed _
    | ok args =>
      -- what the query found is kept under its own task, and it found the mode cleared
      have prev : Function.update s.prevReadOnly t s.readOnly t = false :=
        (Function.update_self ..).trans cleared
      simp only [logCall, update_bind_run, pure_run]
      refine ⟨rfl, fun _ => ?_, fun other => absurd rfl (other job)⟩
      split
      · exact ⟨rfl, prev⟩
      · exact ⟨rfl, prev⟩

/-- The handler of an update is code of its task. -/
theorem acceptUpdate_code (det : Details σ) (t : FutId) (job : DoUpdate) (command : Nat) :
    Returns (fun next _ => ∀ ctx, next = .code ctx → ctx = .task t)
      (acceptUpdate det t job command : Wf σ Next) := by
  refine .bind fun _ => .bind fun s => ?_
  split
  · exact .bind fun _ => .pure fun _ ctx same => by
      rw [Next.code.injEq] at same
      exact same.symm
  · exact .bind fun _ => .pure fun _ ctx same => by cases same

theorem acceptUpdate_scoped (det : Details σ) (t : FutId) (job : DoUpdate) (command : Nat)
    {s : Inst σ} (wf : s.WellFormed) (cleared : s.readOnly = false)
    (responds : s.respondsAt command job.protocolInstanceId) :
    Next.Scoped t (.update job) (acceptUpdate det t job command s).2
      (acceptUpdate det t job command s).1 :=
  scoped_of_moves wf cleared (by simp) (by simp)
    (acceptUpdate_moves det t job command responds)
    fun ctx s' run => acceptUpdate_code det t job command _ _ _ run ctx rfl

theorem updateEnded_scoped (det : Details σ) {t : FutId} {root : Root} (job : DoUpdate)
    (command : Option Nat) (pastValidation : Bool) (r : Except Exc Unit) {s : Inst σ}
    (wf : s.WellFormed) (cleared : s.readOnly = false)
    (responds : ∀ i ∈ command, s.respondsAt i job.protocolInstanceId) :
    Next.Scoped t root (ended (updateEnd det job command pastValidation r) s).2
      (ended (updateEnd det job command pastValidation r) s).1 := by
  apply ended_scoped
  have moves := updateEnd_moves det job command pastValidation r responds
  exact (moves.readOnly wf (by simp)).1.trans cleared

theorem startUpdate_scoped (det : Details σ) (t : FutId) (job : DoUpdate) {s : Inst σ}
    (wf : s.WellFormed) (cleared : s.readOnly = false) :
    Next.Scoped t (.update job) (startUpdate det t job s).2 (startUpdate det t job s).1 := by
  cases added : addCommand (.updateResponse job.protocolInstanceId .unset) s with
  | mk r s₁ =>
    have moves : Moves [.update job.protocolInstanceId] s
        (addCommand (.updateResponse job.protocolInstanceId .unset) s).2 :=
      addUpdateResponse_moves (by simp) _ s
    rw [added] at moves
    have wf₁ := moves.wellFormed wf
    have cleared₁ : s₁.readOnly = false := (moves.readOnly wf (by simp)).1.trans cleared
    cases r with
    | error e =>
      rw [startUpdate, bind_error added]
      exact cleared₁
    | ok i =>
      rw [startUpdate, bind_ok added, state_bind_run]
      obtain ⟨-, rfl, same⟩ := addCommand_ok added
      -- the response that was added is still empty, to be filled in where the update ends
      have responds : s₁.respondsAt s.commands.length job.protocolInstanceId :=
        ⟨.unset, by simp [same, Inst.pushCommand]⟩
      cases s₁.updates.resolve job.name with
      | none =>
        exact updateEnded_scoped det job _ _ _ wf₁ cleared₁ (by simpa using responds)
      | some defn =>
        simp only [update_bind_run]
        have begun : Moves [.progress] s₁ { s₁ with
            inProgressUpdates := s₁.inProgressUpdates.set job.id job.name } :=
          .of_move (by simp) (.updateBegun s₁ job)
        have wf₂ := begun.wellFormed wf₁
        have responds₂ : ({ s₁ with
            inProgressUpdates := s₁.inProgressUpdates.set job.id job.name } : Inst σ).respondsAt
            s.commands.length job.protocolInstanceId := responds
        cases det.processHandlerArgs job.name job.input defn with
        | error e =>
          exact updateEnded_scoped det job _ _ _ wf₂ cleared₁ (by simpa using responds₂)
        | ok args =>
          dsimp only
          split
          · exact cleared₁
          · exact acceptUpdate_scoped det t job _ wf₂ cleared₁ responds

theorem finishValidator_scoped (det : Details σ) (t : FutId) (job : DoUpdate) (defn : HandlerDefn)
    (command : Nat) (r : Except Exc Obj) {s : Inst σ} (wf : s.WellFormed)
    (responds : s.respondsAt command job.protocolInstanceId) :
    Next.Scoped t (.update job) (finishValidator det t job defn command false r s).2
      (finishValidator det t job defn command false r s).1 := by
  have restored : Moves [.mode] s { s with readOnly := false } :=
    .of_move (by simp) (.mode s false s.prevReadOnly)
  have wf₁ := restored.wellFormed wf
  have responds₁ : ({ s with readOnly := false } : Inst σ).respondsAt command
      job.protocolInstanceId := responds
  simp only [finishValidator, update_bind_run]
  cases r with
  | error e => exact updateEnded_scoped det job _ _ _ wf₁ rfl (by simpa using responds₁)
  | ok v =>
    dsimp only
    cases det.processHandlerArgs job.name job.input defn with
    | error e => exact updateEnded_scoped det job _ _ _ wf₁ rfl (by simpa using responds₁)
    | ok args => exact acceptUpdate_scoped det t job command wf₁ rfl responds₁

theorem startCode_scoped (det : Details σ) (t : FutId) (root : Root) {s : Inst σ}
    (wf : s.WellFormed) (cleared : s.readOnly = false) :
    Next.Scoped t root (startCode det t root s).2 (startCode det t root s).1 := by
  have moves := startCode_moves det t root s
  have ofTask (notUpdate : ∀ job, root ≠ .update job) (ctx : Ctx) (s' : Inst σ)
      (run : startCode det t root s = (.ok (.code ctx), s')) : ctx = .task t := by
    rcases (startCode_ofTask det t root _ _ _ run).2 with task | ⟨job, _, _, _, isUpdate, -, -⟩
    · exact task
    · exact absurd isUpdate (notUpdate job)
  cases root with
  | update job =>
    have started := startUpdate_scoped det t job wf cleared
    simp only [startCode, bind_run, attempt_run]
    cases run : startUpdate det t job s with
    | mk r s' =>
      rw [run] at started
      cases r with
      | ok next => exact started
      | error e => exact started
  | query job => exact startQuery_scoped det t job wf cleared
  | workflow | signal | activity | child | user =>
    exact scoped_of_moves wf cleared (by simp [Root.kinds]) (by simp) moves (ofTask (by simp))

theorem ended_not_code {x : Wf σ Unit} {s s' : Inst σ} {ctx : Ctx} :
    ended x s ≠ (.ok (.code ctx), s') := by
  simp [ended, bind_run]

theorem finishCode_not_code (det : Details σ) {t : FutId} {root : Root} {r : Except Exc Obj}
    {s s' : Inst σ} {ctx : Ctx} : finishCode det t root r s ≠ (.ok (.code ctx), s') := by
  cases root with
  | workflow args => exact ended_not_code
  | signal job args => exact ended_not_code
  | update job => exact ended_not_code
  | query job =>
    simp only [finishCode, state_bind_run]
    exact ended_not_code
  | activity | child | user => simp [finishCode]

theorem finishCode_scoped (det : Details σ) (t : FutId) (root : Root) (r : Except Exc Obj)
    {s : Inst σ} (wf : s.WellFormed) (query : (∃ job, root = .query job) → s.prevReadOnly t = false)
    (other : (∀ job, root ≠ .query job) → s.readOnly = false) :
    Next.Scoped t root (finishCode det t root r s).2 (finishCode det t root r s).1 := by
  have moves := finishCode_moves det t root r s
  cases root with
  | query job =>
    simp only [finishCode, state_bind_run]
    apply ended_scoped
    exact (queryEnd_readOnly det job _ _ wf).trans (query ⟨job, rfl⟩)
  | _ =>
    exact scoped_of_moves wf (other (by simp)) (by simp [Root.endKinds]) (by simp) moves
      fun ctx s' run => absurd run (finishCode_not_code det)

/-- After its first step a coroutine stops in its own code only. -/
theorem resume_code (det : Details σ) (t : FutId) (root : Root) {point : Point}
    (started : point ≠ .start) (input : Except Exc Obj) :
    Returns (fun next _ => ∀ ctx, next = .code ctx → ctx = .task t)
      (resume det t root point input : Wf σ Next) := by
  have ended {r : Except Exc (Option Obj)} {s : Inst σ} : ∀ ctx, Next.done r = .code ctx →
      ctx = .task t := fun ctx same => by cases same
  have here : ∀ ctx, Next.code (.task t) = .code ctx → ctx = .task t := fun ctx same => by
    rw [Next.code.injEq] at same
    exact same.symm
  have awaited (x : Wf σ (Option Obj)) :
      Returns (fun next _ => ∀ ctx, next = .code ctx → ctx = .task t) (resumeAwait t x) := by
    refine .bind fun r => ?_
    split
    · exact .pure fun s => ended (s := s)
    · exact .pure fun _ => here
  unfold resume
  split
  · exact absurd rfl started
  · exact .bind fun _ => .pure fun s => ended (s := s)
  · exact .bind fun _ => .pure fun s => ended (s := s)
  · exact .bind fun _ => .pure fun s => ended (s := s)
  · exact .bind fun _ => .pure fun s => ended (s := s)
  · exact .pure fun s => ended (s := s)
  · exact .pure fun s => ended (s := s)
  · exact .pure fun _ => here
  · exact .pure fun _ => here
  · exact awaited _
  · exact awaited _
  · exact .pure fun s => ended (s := s)

theorem resume_scoped (det : Details σ) (t : FutId) (task : Task) (input : Except Exc Obj)
    {s : Inst σ} (wf : s.WellFormed) (cleared : s.readOnly = false)
    (stands : ∀ job, task.root = .query job → task.point = .start ∨ task.point = .running) :
    Next.Scoped t task.root (resume det t task.root task.point input s).2
      (resume det t task.root task.point input s).1 := by
  by_cases start : task.point = .start
  · rw [start]
    cases input with
    | error e => exact cleared
    | ok v => exact startCode_scoped det t task.root wf cleared
  · by_cases query : ∃ job, task.root = .query job
    · obtain ⟨job, isQuery⟩ := query
      have running : task.point = .running := (stands job isQuery).resolve_left start
      rw [isQuery, running]
      exact cleared
    · have moves := resume_moves det t task input s
      refine scoped_of_moves wf cleared ?_ (fun job same => query ⟨job, same⟩) moves ?_
      · rw [Task.kinds, if_neg start]
        split <;> simp
      · intro ctx s' run
        exact resume_code det t task.root start input _ _ _ run ctx rfl

/-! ### Steps of a task -/

/-- The flag after a part of `handle._run()`. -/
def RanScoped : Except Exc (Option Ctx) × Inst σ → Prop
  | (.ok (some ctx), s) => ctx.Scoped s
  | (_, s) => s.readOnly = false

/-- A query that has ended keeps its place. -/
theorem finishTask_queriesStand {s : Inst σ} (stand : QueriesStand s) (t : FutId)
    (outcome : Except Exc Obj) : QueriesStand (finishTask t outcome s).2 := by
  have settles {s : Inst σ} (stand : QueriesStand s) (new : FutState) :
      QueriesStand (settle t new s).2 := by
    rw [settle_state]
    exact stand
  cases outcome with
  | error e =>
    obtain ⟨new, -, ended⟩ := finishTask_error t e s
    rw [ended]
    exact stand
  | ok v =>
    simp only [finishTask, state_bind_run]
    cases isTask : s.tasks t with
    | none => exact stand
    | some task =>
      dsimp only
      split
      · rw [update_bind_run]
        refine settles ?_ _
        intro t' task' job isTask' root
        rw [Inst.mapTask, isTask] at isTask'
        by_cases same : t' = t
        · simp only [Inst.setTask, same, Function.update_self, Option.some.injEq] at isTask'
          subst isTask'
          exact stand t task job isTask root
        · simp only [Inst.setTask, Function.update_of_ne same] at isTask'
          exact stand t' task' job isTask' root
      · exact settles stand _

/-- A query ends when it does not run its handler: it does not wait. -/
def NotSuspended (next : Next) (_ : Inst σ) : Prop := next ≠ .done (.ok none)

theorem ended_notSuspended (x : Wf σ Unit) : Returns NotSuspended (ended x) := by
  refine .bind fun r => .pure fun _ => ?_
  cases r <;> simp [NotSuspended, Except.map]

theorem resume_notSuspended (det : Details σ) (t : FutId) {root : Root} {job : QueryWorkflow}
    (isQuery : root = .query job) {point : Point} (stands : point = .start ∨ point = .running)
    (input : Except Exc Obj) :
    Returns NotSuspended (resume det t root point input : Wf σ Next) := by
  subst isQuery
  rcases stands with rfl | rfl
  · cases input with
    | error e => exact .pure fun _ => by simp [NotSuspended]
    | ok v =>
      refine .bind fun s => .bind fun _ => ?_
      split
      · exact ended_notSuspended _
      · split
        · exact ended_notSuspended _
        · exact .bind fun _ => .pure fun _ => by simp [NotSuspended]
  · exact .pure fun _ => by simp [NotSuspended]

theorem resume_query_moves (det : Details σ) (t : FutId) {root : Root} {job : QueryWorkflow}
    (isQuery : root = .query job) {point : Point} (stands : point = .start ∨ point = .running)
    (input : Except Exc Obj) :
    Steady (Moves [.command, .mode, .book]) (resume det t root point input : Wf σ Next) := by
  subst isQuery
  rcases stands with rfl | rfl
  · cases input with
    | error e => exact .pure _
    | ok v => exact startQuery_moves det t job
  · exact .pure _

/-- A part of a coroutine followed by the end of `Task.__step`. -/
theorem stepBody_scoped {K : List Kind} {s : Inst σ} {t : FutId} (notFinish : Kind.finish t ∉ K)
    {task : Task} (wf : s.WellFormed) (isTask : s.tasks t = some task)
    (pending : s.isDone t = false) {x : Wf σ Next} (moves : Moves K s (x s).2)
    (owns : ∀ t', Kind.own t' ∈ K → t' = t)
    (body : Next.Scoped t task.root (x s).2 (x s).1) (stand : QueriesStand s)
    (query : ∀ job, task.root = .query job → Kind.own t ∉ K ∧ Returns NotSuspended x) :
    RanScoped ((x >>= stepNext t) s) ∧ QueriesStand ((x >>= stepNext t) s).2 := by
  -- only the task's own state changes, and a query changes not even that
  have stand₁ : QueriesStand (x s).2 := by
    refine moves.queriesStand wf ?_ stand
    intro t' own
    obtain rfl := owns t' own
    exact ⟨task, isTask, fun job isQuery => (query job isQuery).1 own⟩
  have wf₁ := moves.wellFormed wf
  obtain ⟨⟨task₁, isTask₁, root⟩, done⟩ := moves.alive wf notFinish isTask
  cases run : x s with
  | mk r s₁ =>
    rw [run] at body stand₁ wf₁ isTask₁ done
    cases r with
    | error e =>
      rw [bind_error run]
      exact ⟨body, stand₁⟩
    | ok next =>
      rw [bind_ok run]
      have ends := stepNext_moves isTask₁ (done.trans pending) next
      cases next with
      | code ctx =>
        refine ⟨?_, stand₁⟩
        cases ctx with
        | validator => exact body
        | task t' =>
          obtain ⟨rfl, query, other⟩ := body
          refine ⟨fun isQuery => ?_, fun notQuery => ?_⟩
          · rw [Inst.isQuery_iff isTask₁, root] at isQuery
            exact query isQuery
          · rw [Inst.isQuery_iff isTask₁, root, not_exists] at notQuery
            exact other notQuery
        | callback => exact body
        | init => exact body
      | done r =>
        have cleared : (stepNext t (.done r) s₁).2.readOnly = false :=
          (ends.readOnly wf₁ (by simp)).1.trans body
        constructor
        · cases after : stepNext t (.done r) s₁ with
          | mk r' s₂ =>
            rw [after] at cleared
            cases r' with
            | error e => exact cleared
            | ok ctx =>
              cases ctx with
              | none => exact cleared
              | some ctx => cases (stepNext_code after).1
        · by_cases isQuery : ∃ job, task.root = .query job
          · obtain ⟨job, isQuery⟩ := isQuery
            have notSuspended := (query job isQuery).2 _ _ _ run
            -- a query is not suspended, so the step that finishes it is its last
            have drop : (stepNext t (.done r) s₁).2 = (stepEnd t r s₁).2 := by
              simp only [stepNext, bind_run]
              cases stepEnd t r s₁ with
              | mk r s => cases r <;> rfl
            rw [drop]
            cases r with
            | error e => exact finishTask_queriesStand stand₁ t _
            | ok v =>
              cases v with
              | none => exact absurd rfl notSuspended
              | some v => exact finishTask_queriesStand stand₁ t _
          · refine ends.queriesStand wf₁ ?_ stand₁
            intro t' own
            have same : t' = t := by simpa using own
            subst same
            exact ⟨task₁, isTask₁, fun job same => isQuery ⟨job, root.symm.trans same⟩⟩

theorem stepTask_scoped (det : Details σ) (t : FutId) (input : Except Exc Obj) {s : Inst σ}
    (wf : s.WellFormed) (cleared : s.readOnly = false) (stand : QueriesStand s) :
    RanScoped (stepTask det t input s) ∧ QueriesStand (stepTask det t input s).2 := by
  simp only [stepTask, state_bind_run]
  cases isTask : s.tasks t with
  | none => exact ⟨cleared, stand⟩
  | some task =>
    cases done : s.isDone t with
    | true => exact ⟨cleared, stand⟩
    | false =>
      simp only [Bool.false_eq_true, if_false, update_bind_run]
      have woken : Moves [.wake t] s
          (s.setTask t { task with mustCancel := false, point := .running }) :=
        .of_move (by simp) (.wake s isTask done)
      have isTask' : (s.setTask t { task with mustCancel := false, point := .running }).tasks t =
          some { task with mustCancel := false, point := .running } := by simp [Inst.setTask]
      have wf' := woken.wellFormed wf
      have stand' := woken.queriesStand wf (fun t' own => by simp at own) stand
      have stands (job : QueryWorkflow) (isQuery : task.root = .query job) :=
        stand t task job isTask isQuery
      have body := resume_scoped det t task
        (if task.mustCancel then .error .cancelled else input) wf' cleared stands
      -- a query runs in one go, so its body owns no state that it could leave behind
      by_cases isQuery : ∃ job, task.root = .query job
      · obtain ⟨job, isQuery⟩ := isQuery
        refine stepBody_scoped (by simp) wf' isTask' done
          (resume_query_moves det t isQuery (stands job isQuery) _ _) (by simp) body stand'
          fun _ _ => ⟨by simp, ?_⟩
        exact resume_notSuspended det t isQuery (stands job isQuery) _
      · refine stepBody_scoped (fun member => ?_) wf' isTask' done (resume_moves det t task _ _)
          (fun t' own => ?_) body stand' fun job same => absurd ⟨job, same⟩ isQuery
        · cases task.kinds_ofTask t _ member
        · simpa [Kind.ofTask] using task.kinds_ofTask t _ own

/-! ### Handles -/

theorem popHandle_scoped (det : Details σ) {s : Inst σ} (wf : s.WellFormed) {h : Handle}
    {rest : List Handle} (ready : s.ready = h :: rest) (cleared : s.readOnly = false)
    (stand : QueriesStand s) :
    RanScoped (handleRun det h (s.setReady rest)) ∧
      QueriesStand (handleRun det h (s.setReady rest)).2 := by
  have moves := popHandle_moves det ready
  by_cases steps : ∃ t, s.steps h t
  · obtain ⟨t, steps⟩ := steps
    have popped : Moves [.pop] s (s.setReady rest) := .of_move (by simp) (.pop s ready steps.stays)
    -- the handle makes a step of one task
    obtain ⟨input, same⟩ := handleRun_steps det (s := s.setReady rest) steps
    obtain ⟨flag, stand'⟩ := stepTask_scoped det t input (popped.wellFormed wf) cleared stand
    rw [← same] at flag stand'
    cases called : handleCallback det h (s.setReady rest) with
    | mk r s' =>
      rw [called] at flag stand'
      cases r with
      | ok ctx =>
        rw [handleRun_ok called]
        exact ⟨flag, stand'⟩
      | error e =>
        -- whatever the step raises goes on or to the exception handler, which leaves the mode alone
        rw [handleRun_error called]
        split
        · exact ⟨flag, stand'⟩
        · simp only [callExceptionHandler, update_run]
          split
          · exact ⟨flag, stand'⟩
          · exact ⟨flag, stand'⟩
  · -- no coroutine is touched
    have plain {k : Kind} (member : k ∈ Kind.pop :: .book :: s.handleKinds h) :
        k = .pop ∨ k = .book ∨ k = .deliver := by
      rcases List.mem_cons.mp member with pop | member
      · exact .inl pop
      · rcases List.mem_cons.mp member with book | member
        · exact .inr (.inl book)
        · rcases Inst.handleKinds_steps member with deliver | ⟨t, stepped, -⟩
          · exact .inr (.inr deliver)
          · exact absurd ⟨t, stepped⟩ steps
    have cleared' : (handleRun det h (s.setReady rest)).2.readOnly = false :=
      (moves.readOnly wf fun mode => by simpa using plain mode).1.trans cleared
    refine ⟨?_, moves.queriesStand wf (fun t own => by simpa using plain own) stand⟩
    cases ran : handleRun det h (s.setReady rest) with
    | mk r s' =>
      rw [ran] at cleared'
      cases r with
      | error e => exact cleared'
      | ok ctx =>
        cases ctx with
        | none => exact cleared'
        | some ctx =>
          have callback := handleCallback_plain det (s := s.setReady rest) (not_exists.mp steps)
            (handleRun_code ran)
          rw [callback]
          exact cleared'

/-! ### Steps of the machine -/

theorem Control.scoped_of_sdk {control : Control} {s : Inst σ} (sdk : control.sdk = true)
    (cleared : s.readOnly = false) : control.Scoped s := by
  cases control with
  | code => cases sdk
  | _ => exact cleared

theorem handleNext_scoped (det : Details σ) (m : Machine σ) (frame : Frame)
    {r : Except Exc (Option Ctx) × Inst σ} (wf : r.2.WellFormed) (ran : RanScoped r)
    (stand : QueriesStand r.2) : ReadOnlyScoped (m.handleNext det frame r) := by
  have moves := handleNext_moves det m frame r
  refine ⟨?_, moves.queriesStand wf (fun t own => by simp at own) stand⟩
  rcases handleNext_control det m frame r with sdk | ⟨ctx, stopped, same⟩
  · have cleared : r.2.readOnly = false := by
      obtain ⟨r, s⟩ := r
      cases r with
      | error e => exact ran
      | ok ctx =>
        cases ctx with
        | none => exact ran
        | some ctx => cases sdk
    exact Control.scoped_of_sdk sdk ((moves.readOnly wf (by simp)).1.trans cleared)
  · obtain ⟨r, s⟩ := r
    cases stopped
    rw [same]
    exact ran

theorem raised_scoped (det : Details σ) {m : Machine σ} (wf : m.inst.WellFormed)
    (cleared : m.inst.readOnly = false) (stand : QueriesStand m.inst) (e : Exc) :
    ReadOnlyScoped (m.raised det e) := by
  have moves := raised_moves det m e
  constructor
  · rw [raised_control]
    exact (moves.readOnly wf (by simp)).1.trans cleared
  · exact moves.queriesStand wf (fun t own => by simp at own) stand

theorem tick_scoped (det : Details σ) {m m' : Machine σ} (wf : m.WellFormed)
    (inv : ReadOnlyScoped m) (h : tick det m = some m') : ReadOnlyScoped m' := by
  obtain ⟨mode, stand⟩ := inv
  -- no job sets the mode or goes on with a coroutine
  have applies {job : Job} : Kind.mode ∉ job.kinds ∧ ∀ t, Kind.own t ∉ job.kinds := by
    cases job <;> simp [Job.kinds]
  cases tick_cases det h with
  | complete control =>
    rw [control] at mode
    constructor
    · rw [complete_control, complete_inst]
      exact mode
    · rw [complete_inst]
      exact stand
  | skipSet control | openSet control | closeSet control | enter control | init control
  | ran control | loop control | unchecked control =>
    rw [control] at mode
    exact ⟨mode, stand⟩
  | @applied job rest frame s control run =>
    have moves := applyJob_moves det job m.inst
    rw [run] at moves
    rw [control] at mode
    exact ⟨(moves.readOnly wf.inst applies.1).1.trans mode,
      moves.queriesStand wf.inst (fun t own => absurd own (applies.2 t)) stand⟩
  | @applyRaised job rest frame s e control run =>
    have moves := applyJob_moves det job m.inst
    rw [run] at moves
    rw [control] at mode
    exact raised_scoped det (m := { m with inst := s }) (moves.wellFormed wf.inst)
      ((moves.readOnly wf.inst applies.1).1.trans mode)
      (moves.queriesStand wf.inst (fun t own => absurd own (applies.2 t)) stand) e
  | @handle frame handle rest control ready =>
    rw [control] at mode
    obtain ⟨ran, stand'⟩ := popHandle_scoped det wf.inst ready mode stand
    exact handleNext_scoped det m frame ((popHandle_moves det ready).wellFormed wf.inst) ran stand'
  | @checked frame s control ready checks run =>
    have moves := checkConditions_moves m.inst
    rw [run] at moves
    rw [control] at mode
    exact ⟨(moves.readOnly wf.inst (by simp)).1.trans mode,
      moves.queriesStand wf.inst (fun t own => by simp at own) stand⟩
  | @checkRaised frame s e control ready checks run =>
    have moves := checkConditions_moves m.inst
    rw [run] at moves
    rw [control] at mode
    exact raised_scoped det (m := { m with inst := s }) (moves.wellFormed wf.inst)
      ((moves.readOnly wf.inst (by simp)).1.trans mode)
      (moves.queriesStand wf.inst (fun t own => by simp at own) stand) e

theorem finishContext_scoped (det : Details σ) {m : Machine σ} {ctx : Ctx} {frame : Frame}
    (r : Except Exc Obj) (wf : m.WellFormed) (control : m.control = .code ctx frame)
    (inv : ReadOnlyScoped m) : ReadOnlyScoped (finishContext det m ctx frame r) := by
  obtain ⟨mode, stand⟩ := inv
  have ready := wf.code _ _ control
  rw [control] at mode
  cases ctx with
  | init =>
    cases r with
    | ok v => exact ⟨mode, stand⟩
    | error e => exact raised_scoped det wf.inst mode stand e
  | callback =>
    cases r with
    | ok v => exact handleNext_scoped det m frame (r := (.ok none, m.inst)) wf.inst mode stand
    | error e => exact handleNext_scoped det m frame (r := (.error e, m.inst)) wf.inst mode stand
  | validator t job defn i prev =>
    obtain ⟨⟨task, isTask, root⟩, pending, responds⟩ := ready
    -- what the validator found was the cleared mode
    have prev : prev = false := mode
    subst prev
    have body := finishValidator_scoped det t job defn i r wf.inst responds
    rw [← root] at body
    have moves := finishValidator_moves det t job defn i false r responds
    obtain ⟨ran, stand'⟩ := stepBody_scoped (by simp) wf.inst isTask pending moves (by simp) body
      stand fun job' same => by rw [root] at same; cases same
    exact handleNext_scoped det m frame
      ((stepBody_moves (by simp) wf.inst isTask pending moves).wellFormed wf.inst) ran stand'
  | task t =>
    obtain ⟨task, isTask, pending, -⟩ := ready
    simp only [finishContext, isTask]
    have moves := finishCode_moves det t task.root r m.inst
    have notFinish := task.root.finish_not_mem_endKinds t
    have notOwn (t' : FutId) : Kind.own t' ∉ task.root.endKinds := by
      cases task.root <;> simp [Root.endKinds]
    have body := finishCode_scoped det t task.root r wf.inst
      (fun isQuery => (mode.1 ((Inst.isQuery_iff isTask).mpr isQuery)).2)
      (fun other => mode.2 fun isQuery => by
        obtain ⟨job, same⟩ := (Inst.isQuery_iff isTask).mp isQuery
        exact other job same)
    obtain ⟨ran, stand'⟩ := stepBody_scoped notFinish wf.inst isTask pending moves
      (fun t' own => absurd own (notOwn t')) body stand fun job isQuery => ⟨notOwn t, by
        rw [isQuery]
        exact .bind fun _ => ended_notSuspended _⟩
    exact handleNext_scoped det m frame
      ((stepBody_moves notFinish wf.inst isTask pending moves).wellFormed wf.inst) ran stand'

/-! ### What a query handler may await -/

/-- The query whose handler is running. -/
def Machine.queryTask (m : Machine σ) : Option FutId :=
  match m.control with
  | .code (.task t) _ =>
    match (m.inst.tasks t).map Task.root with
    | some (.query _) => some t
    | _ => none
  | _ => none

/-- A query handler awaits something that is not done. -/
def Machine.queryWaits (m : Machine σ) : Label σ → Bool
  | .act .bareYield => m.queryTask.isSome
  | .act (.await f) => m.queryTask.any fun t => f ≠ t && !m.inst.isDone f
  | _ => false

theorem Machine.queryTask_eq {m : Machine σ} {t : FutId} {frame : Frame}
    (control : m.control = .code (.task t) frame) (isQuery : m.inst.isQuery t) :
    m.queryTask = some t := by
  obtain ⟨task, job, isTask, root⟩ := isQuery
  simp [Machine.queryTask, control, isTask, root]

/-- In a read-only context every other call that could wait raises. -/
theorem performAwait_readOnly (det : Details σ) {t : FutId} {a : Act σ} {call : Wf σ (Option Obj)}
    (await : performAwait det t a = some call) {s : Inst σ} (readOnly : s.readOnly = true)
    (notYield : a ≠ .bareYield) (done : ∀ f, a = .await f → f = t ∨ s.isDone f = true) :
    (call s).1 ≠ .ok none ∧ (call s).2.tasks = s.tasks := by
  have refused (action : String) (allow : Bool) : ∃ e, ∀ {α : Type} (x : Unit → Wf σ α),
      (assertNotReadOnly action allow >>= x) s = (.error e, s) := by
    rcases eq : assertNotReadOnly action allow s with ⟨r, s'⟩
    rw [assertNotReadOnly_run, Prod.mk.injEq] at eq
    obtain ⟨result, rfl⟩ := eq
    cases r with
    | ok u => simp [readOnly] at result; split at result <;> cases result
    | error e =>
      refine ⟨e, fun x => bind_error ?_⟩
      rw [assertNotReadOnly_run, result]
  cases a with
  | await f =>
    cases await
    simp only [state_bind_run]
    rcases done f rfl with rfl | done
    · rw [if_pos rfl]
      exact ⟨by simp, rfl⟩
    · by_cases same : f = t
      · rw [if_pos same]
        exact ⟨by simp, rfl⟩
      · rw [if_neg same, if_pos done]
        cases (s.futs f).state.outcome <;> exact ⟨by simp [Except.map], rfl⟩
  | bareYield => exact absurd rfl notYield
  | waitCondition fn =>
    cases await
    obtain ⟨e, refused⟩ := refused "wait condition" false
    rw [bind_error (show addCondition fn s = (.error e, s) from refused _)]
    exact ⟨by simp, rfl⟩
  | signalExternalWorkflow ofChild args =>
    cases await
    obtain ⟨e, refused⟩ := refused
      (if ofChild then "signal child handle" else "signal external handle") false
    rw [show signalExternalWorkflow det t ofChild args s = (.error e, s) from refused _]
    exact ⟨by simp, rfl⟩
  | cancelExternalWorkflow =>
    cases await
    obtain ⟨e, refused⟩ := refused "cancel external handle" false
    rw [show cancelExternalWorkflow t s = (.error e, s) from refused _]
    exact ⟨by simp, rfl⟩
  | startChildWorkflow input =>
    cases await
    -- the sequence number is gone by then
    have refused : newChildWorkflowHandle input s =
        (.error (.error (.readOnlyContext "schedule task")), s.childSeqTaken) := by
      rw [newChildWorkflowHandle_run, if_pos readOnly]
    rw [outboundStartChildWorkflow, bind_error refused]
    exact ⟨by simp, rfl⟩
  | _ => cases await

theorem perform_scoped (det : Details σ) {m m' : Machine σ} {a : Act σ} (wf : m.WellFormed)
    (inv : ReadOnlyScoped m) (waits : m.queryWaits (.act a) = false)
    (h : perform det m a = some m') : ReadOnlyScoped m' := by
  obtain ⟨mode, stand⟩ := inv
  have calls (t : FutId) : Kind.mode ∉ a.kinds det t := fun member => by
    simpa using a.kinds_subset det t member
  have owns {t t' : FutId} (own : Kind.own t' ∈ a.kinds det t) : t' = t := by
    simpa using a.kinds_subset det t own
  -- the code that made a call goes on in the mode it had
  have goes {ctx : Ctx} {frame : Frame} {s : Inst σ} (control : m.control = .code ctx frame)
      (moves : Moves (a.kinds det ctx.owner) m.inst s) (stand : QueriesStand s) :
      ReadOnlyScoped { m with inst := s } := by
    have ready := wf.code _ _ control
    obtain ⟨flag, prev⟩ := moves.readOnly wf.inst (calls _)
    rw [control] at mode
    refine ⟨?_, stand⟩
    dsimp only
    rw [control]
    cases ctx with
    | validator => exact mode
    | callback => exact flag.trans mode
    | init => exact flag.trans mode
    | task t =>
      obtain ⟨task, isTask, -⟩ := ready
      have same := moves.isQuery wf.inst isTask
      exact ⟨fun isQuery => by rw [flag, prev]; exact mode.1 (same.mp isQuery),
        fun notQuery => by rw [flag]; exact mode.2 fun isQuery => notQuery (same.mpr isQuery)⟩
  have other {t : FutId} {frame : Frame} (control : m.control = .code (.task t) frame)
      (notQuery : ¬m.inst.isQuery t) :
      ∃ task, m.inst.tasks t = some task ∧ ∀ job, task.root ≠ .query job := by
    obtain ⟨task, isTask, -⟩ := wf.code _ _ control
    exact ⟨task, isTask, fun job root => notQuery ⟨task, job, isTask, root⟩⟩
  have blocked {t : FutId} {frame : Frame} {call : Wf σ (Option Obj)}
      (control : m.control = .code (.task t) frame) (isQuery : m.inst.isQuery t)
      (await : performAwait det t a = some call) :
      (call m.inst).1 ≠ .ok none ∧ (call m.inst).2.tasks = m.inst.tasks := by
    have query := Machine.queryTask_eq control isQuery
    rw [control] at mode
    refine performAwait_readOnly det await (mode.1 isQuery).1 ?_ ?_
    · rintro rfl
      simp [Machine.queryWaits, query] at waits
    · rintro f rfl
      simp only [Machine.queryWaits, query, Option.any_some] at waits
      by_cases same : f = t
      · exact .inl same
      · exact .inr (by simpa [same] using waits)
  cases perform_cases det h with
  | ret control v => exact finishContext_scoped det _ wf control ⟨mode, stand⟩
  | raise control e => exact finishContext_scoped det _ wf control ⟨mode, stand⟩
  | @call ctx frame _ control enabled =>
    have moves := performCall_moves det ctx.owner a enabled
    refine goes control moves ?_
    cases awaits : a.awaits with
    | false =>
      exact moves.queriesStand wf.inst (fun t own => absurd own (own_not_mem_kinds awaits)) stand
    | true =>
      rw [performCall_awaits det awaits]
      exact stand
  | @await t frame _ call r s control enabled await run resumed =>
    have moves := performAwait_moves det t await m.inst
    rw [run] at moves
    refine goes control moves ?_
    by_cases isQuery : m.inst.isQuery t
    · have raises := (blocked control isQuery await).2
      rw [run] at raises
      intro t' task job isTask
      rw [show s.tasks = m.inst.tasks from raises] at isTask
      exact stand t' task job isTask
    · refine moves.queriesStand wf.inst (fun t' own => ?_) stand
      rw [owns own]
      exact other control isQuery
  | @suspend t frame _ call s control enabled await run =>
    have moves := performAwait_moves det t await m.inst
    rw [run] at moves
    by_cases isQuery : m.inst.isQuery t
    · have raises := (blocked control isQuery await).1
      rw [run] at raises
      exact absurd rfl raises
    · -- the task of other code waits, and the loop goes on
      have stand₁ : QueriesStand s := moves.queriesStand wf.inst (fun t' own => by
        rw [owns own]
        exact other control isQuery) stand
      have wf₁ := moves.wellFormed wf.inst
      have suspended : Moves [.own t] s (stepNext t (.done (.ok none)) s).2 :=
        Steady.bind (afterSuspend_moves (by simp)) (fun _ => .pure _) s
      have cleared : (stepNext t (.done (.ok none)) s).2.readOnly = false := by
        rw [(suspended.readOnly wf₁ (by simp)).1, (moves.readOnly wf.inst (calls t)).1]
        rw [control] at mode
        exact mode.2 isQuery
      refine handleNext_scoped det m frame (suspended.wellFormed wf₁) ?_
        (suspended.queriesStand wf₁ (fun t' own => ?_) stand₁)
      · cases after : stepNext t (.done (.ok none)) s with
        | mk r s' =>
          rw [after] at cleared
          cases r with
          | error e => exact cleared
          | ok ctx =>
            cases ctx with
            | none => exact cleared
            | some ctx => cases (stepNext_code after).1
      · rw [show t' = t by simpa using own]
        obtain ⟨task, isTask, notQuery⟩ := other control isQuery
        obtain ⟨task', isTask', root⟩ := moves.root wf.inst isTask
        exact ⟨task', isTask', by rwa [root]⟩

theorem step_scoped (det : Details σ) {m m' : Machine σ} {l : Label σ} (wf : m.WellFormed)
    (inv : ReadOnlyScoped m) (waits : m.queryWaits l = false) (h : step det m l = some m') :
    ReadOnlyScoped m' := by
  cases l with
  | activate jobs isReplaying =>
    cases control : m.control with
    | idle =>
      simp only [step, control, Option.some.injEq] at h
      obtain ⟨mode, stand⟩ := inv
      rw [control] at mode
      rw [← h]
      exact ⟨mode, stand⟩
    | _ => simp [step, control] at h
  | tick => exact tick_scoped det wf inv h
  | act a => exact perform_scoped det wf inv waits h

theorem init_scoped (det : Details σ) (mem : σ) : ReadOnlyScoped (Machine.init det mem) := by
  refine ⟨rfl, ?_⟩
  intro t task job isTask
  cases isTask

/-- In a run in which no query handler awaits something that is not done,
`_read_only` is false whenever `activate` has returned, whatever the jobs were
and however the handlers and the validators ended. -/
theorem read_only_restored (det : Details σ) (mem : σ) {m : Machine σ}
    (reach : Reach det (fun m l => m.queryWaits l = false) (Machine.init det mem) m)
    (idle : m.control = .idle) : m.inst.readOnly = false := by
  have inv := (reach.invariant (I := ReadOnlyScoped) (init_wellFormed det mem) (init_scoped det mem)
    fun _ _ _ wf inv waits step => step_scoped det wf inv waits step).1
  have mode := inv.mode
  rw [idle] at mode
  exact mode

/-- A workflow with a query handler and an update handler with a validator. -/
def Details.queried : Details Nat :=
  { Details.plain with
    queries := Dict.empty.set (some "q") ⟨some "q", 7, true, none, false, none⟩
    updates := Dict.empty.set (some "u") ⟨some "u", 8, true, none, false, some 9⟩ }

/-- The workflow starts and waits. -/
def startAndWait : List (Label Nat) :=
  Label.activate [.startWorkflow []] false :: List.replicate 6 Label.tick ++ Label.act (.ret 0) ::
    List.replicate 2 Label.tick ++ [Label.act (.createFuture .user), Label.act (.await 1)] ++
    List.replicate 4 Label.tick

/-- The validator of an update rejects, and the handler of a query tries to
schedule a callback and raises. -/
def updateAndQuery : List (Label Nat) :=
  Label.activate [.queryWorkflow ⟨"1", "q", []⟩, .doUpdate ⟨"1", "1", "u", [], true⟩] false ::
    List.replicate 7 Label.tick ++ Label.act (.raise (.error (.valueError "no"))) ::
    List.replicate 10 Label.tick ++ [Label.act .callSoon, Label.act (.raise .cancelled)] ++
    List.replicate 4 Label.tick

theorem read_only_restored_update : ∃ m,
    runWhile Details.queried (fun m l => m.queryWaits l = false) (Machine.init Details.queried 0)
      (startAndWait ++ updateAndQuery) = some m ∧
    m.control = .idle ∧ m.inst.readOnly = false := by
  have evaluated : (runWhile Details.queried (fun m l => m.queryWaits l = false)
      (Machine.init Details.queried 0) (startAndWait ++ updateAndQuery)).map
      (fun m => decide (m.control = .idle)) = some true := by decide +kernel
  obtain ⟨m, ran, idle⟩ := Option.map_eq_some_iff.mp evaluated
  have idle := of_decide_eq_true idle
  exact ⟨m, ran, idle, read_only_restored Details.queried 0 (.of_runWhile ran) idle⟩

/-- The handler of one query yields, and that of another one returns. -/
def queryYields : List (Label Nat) :=
  List.replicate 10 Label.tick ++ Label.act .bareYield :: Label.tick :: Label.act (.ret 0) ::
    List.replicate 3 Label.tick

/-- `_read_only` stays set after an activation with two queries, the first of
which yields once, although the activation succeeds. -/
theorem yielding_query_leaks_read_only : ∃ m₀ m,
    Reach Details.queried (fun _ _ => True) (Machine.init Details.queried 0) m₀ ∧
    m₀.control = .idle ∧ m₀.inst.readOnly = false ∧
    Reach Details.queried (fun _ l => l.inActivation = true)
      (m₀.activate [.queryWorkflow ⟨"1", "q", []⟩, .queryWorkflow ⟨"2", "q", []⟩] false) m ∧
    m.control = .idle ∧ m.outcome = some (.returned (.successful [])) ∧ m.inst.readOnly = true := by
  have evaluated : ((run Details.queried (Machine.init Details.queried 0) startAndWait).bind fun m₀ =>
      (run Details.queried (m₀.activate
        [.queryWorkflow ⟨"1", "q", []⟩, .queryWorkflow ⟨"2", "q", []⟩] false) queryYields).map
        fun m => decide (m₀.control = .idle) && !m₀.inst.readOnly && decide (m.control = .idle) &&
          decide (m.outcome = some (.returned (.successful []))) && m.inst.readOnly) =
      some true := by decide +kernel
  obtain ⟨m₀, ran, rest⟩ := Option.bind_eq_some_iff.mp evaluated
  obtain ⟨m, ran', checked⟩ := Option.map_eq_some_iff.mp rest
  simp only [Bool.and_eq_true, Bool.not_eq_true', decide_eq_true_eq] at checked
  obtain ⟨⟨⟨⟨idle, cleared⟩, idle'⟩, outcome⟩, leaked⟩ := checked
  refine ⟨m₀, m, .of_run ran fun _ _ _ => trivial, idle, cleared, .of_run ran' ?_, idle', outcome,
    leaked⟩
  intro l member _
  exact List.all_eq_true.mp (by decide : queryYields.all Label.inActivation = true) l member

end TemporalSdk.Workflow
