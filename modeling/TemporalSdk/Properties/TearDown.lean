import TemporalSdk.Properties.Conditions
import TemporalSdk.Properties.Eviction
import TemporalSdk.Properties.ReadOnly
import TemporalSdk.Workflow.Exits

/-!
# Tear-down

`remove_from_cache` cancels the tasks in `_tasks`, lets the loop run and then
checks that `_tasks` is empty. A task that is created in the meantime is
scheduled by its constructor, but its registration is refused; a task that is
made without `create_task` is never registered.

## Main result

* `eviction_leaves_no_task`: if every unfinished task is in `_tasks` before, no
  task of workflow code is created during the tear-down and no exception other
  than an ordinary one leaves `_run_once`, then after the eviction every task ever
  created is done, or `activate` has raised a `RuntimeError`.

## Proof strategy

`Tracked` says that an unfinished task is in `_tasks`, or is the handle of an
outbound call whose registration was refused and which has not taken its first
step: that step finds that the handle is missing and ends the task. When the
loop has nothing left to run there are no such tasks, so the check at the end of
`activate` sees all that are unfinished.
-/
namespace TemporalSdk.Workflow

open Eff

variable {σ : Type}

/-! ### Unfinished tasks -/

/-- An unfinished task that is not in `_tasks` is a handle of an outbound call
that was refused and has not started. -/
def Tracked (s : Inst σ) : Prop :=
  ∀ t task, s.tasks t = some task → s.isDone t = false → t ∉ s.registered →
    s.deleting = true ∧ task.root.ofHandle = true ∧ task.point = .start

/-- Every unfinished task is in `_tasks`. -/
def AllRegistered (s : Inst σ) : Prop :=
  ∀ t task, s.tasks t = some task → s.isDone t = false → t ∈ s.registered

theorem Tracked.allRegistered {s : Inst σ} (tracked : Tracked s) (alive : s.deleting = false) :
    AllRegistered s := by
  intro t task isTask pending
  by_contra absent
  have evicting := (tracked t task isTask pending absent).1
  rw [alive] at evicting
  cases evicting

/-- When the loop has run everything, no refused handle is left. -/
theorem Tracked.allRegistered_of_ready {s : Inst σ} (tracked : Tracked s)
    (starts : StartsExcept (fun _ => False) s) (ready : s.ready = []) : AllRegistered s := by
  intro t task isTask pending
  by_contra absent
  have queued := starts t task id isTask pending (tracked t task isTask pending absent).2.2
  rw [ready] at queued
  cases queued

/-- A task that is in `_tasks`, or that is no handle of an outbound call. -/
def Held (s : Inst σ) (t : FutId) : Prop :=
  ∃ task, s.tasks t = some task ∧ (t ∈ s.registered ∨ task.root.ofHandle = false)

theorem Held.moves {K : List Kind} {s s' : Inst σ} {t : FutId} (held : Held s t)
    (h : Moves K s s') (wf : s.WellFormed) (notPop : Kind.pop ∉ K) : Held s' t := by
  refine (h.keeps (I := fun s => Held s t) wf held ?_).1
  rintro a b wfa allowed ⟨task, isTask, held⟩
  obtain ⟨task', isTask', root⟩ := Moves.root (fun _ => .single allowed) wfa isTask
  refine ⟨task', isTask', held.imp (fun member => allowed.registered notPop member) ?_⟩
  rw [root]
  exact id

/-- The kinds of moves that create no stray task of workflow code. -/
structure NoStray (K : List Kind) (s : Inst σ) : Prop where
  notPop : Kind.pop ∉ K
  notBare : Kind.bare ∉ K
  refused : (∀ root, Refused K root → root.ofHandle = true) ∨
    s.deleting = false ∧ Kind.evict ∉ K
  held : ∀ t, Kind.own t ∈ K ∨ Kind.wake t ∈ K → Held s t

theorem Moves.stays_alive {K : List Kind} {s s' : Inst σ} (h : Moves K s s') (wf : s.WellFormed)
    (notEvict : Kind.evict ∉ K) (alive : s.deleting = false) : s'.deleting = false := by
  refine (h.keeps (I := fun s => s.deleting = false) wf alive ?_).1
  intro a b wfa allowed alive
  rcases allowed.calm_or_move wfa with calm | ⟨k, member, move⟩
  · rw [calm.books.deleting, alive]
  · cases move with
    | evict => exact absurd member notEvict
    | _ => exact alive

theorem NoStray.keep {K : List Kind} {s s' : Inst σ} (noStray : NoStray K s) (wf : s.WellFormed)
    (h : Allowed K s s') : NoStray K s' where
  notPop := noStray.notPop
  notBare := noStray.notBare
  refused := by
    rcases noStray.refused with ofHandle | ⟨alive, notEvict⟩
    · exact .inl ofHandle
    · exact .inr ⟨Moves.stays_alive (fun _ => .single h) wf notEvict alive, notEvict⟩
  held t own := (noStray.held t own).moves (fun _ => .single h) wf noStray.notPop

/-- A task that was unfinished and not in `_tasks` before a move, too. -/
theorem Allowed.stray_before {K : List Kind} {s s' : Inst σ} (h : Allowed K s s')
    (wf : s.WellFormed) (notPop : Kind.pop ∉ K) {t : FutId} {task : Task}
    (isTask : s.tasks t = some task) (pending : s'.isDone t = false) (absent : t ∉ s'.registered) :
    s.isDone t = false ∧ t ∉ s.registered := by
  have moves : Moves K s s' := fun _ => .single h
  refine ⟨?_, fun member => absent (h.registered notPop member)⟩
  by_contra done
  have later := moves.isDone wf (wf.task t task isTask).1 (by simpa using done)
  rw [pending] at later
  cases later

theorem Allowed.tracked {K : List Kind} {s s' : Inst σ} (h : Allowed K s s') (wf : s.WellFormed)
    (noStray : NoStray K s) (tracked : Tracked s) : Tracked s' := by
  have moves : Moves K s s' := fun _ => .single h
  intro t task' isTask' pending absent
  cases isTask : s.tasks t with
  | none =>
    -- a new task that was not registered
    have created := h.created isTask isTask'
    rcases created.registered with registered | ⟨-, ⟨evicting, refused⟩ | bare⟩
    · rw [registered] at absent
      simp at absent
    · rcases noStray.refused with ofHandle | ⟨alive, -⟩
      · exact ⟨moves.stays_deleting wf evicting, ofHandle _ refused, created.start⟩
      · rw [evicting] at alive
        cases alive
    · exact absurd bare noStray.notBare
  | some task =>
    obtain ⟨pendingBefore, absentBefore⟩ := h.stray_before wf noStray.notPop isTask pending absent
    obtain ⟨evicting, ofHandle, start⟩ := tracked t task isTask pendingBefore absentBefore
    have notHeld : ¬Held s t := by
      rintro ⟨task₁, isTask₁, member | other⟩
      · exact absentBefore member
      · rw [isTask, Option.some.injEq] at isTask₁
        subst isTask₁
        rw [ofHandle] at other
        cases other
    obtain ⟨task₁, isTask₁, root, point⟩ := moves.point wf
      (fun own => notHeld (noStray.held t (.inl own)))
      (fun wake => notHeld (noStray.held t (.inr wake))) isTask
    rw [isTask', Option.some.injEq] at isTask₁
    subst isTask₁
    exact ⟨moves.stays_deleting wf evicting, by rwa [root], by rwa [point]⟩

theorem Moves.tracked {K : List Kind} {s s' : Inst σ} (h : Moves K s s') (wf : s.WellFormed)
    (noStray : NoStray K s) (tracked : Tracked s) : Tracked s' := by
  refine (h.keeps (I := fun s => NoStray K s ∧ Tracked s) wf ⟨noStray, tracked⟩ ?_).1.2
  rintro a b wfa allowed ⟨noStray, tracked⟩
  exact ⟨noStray.keep wfa allowed, allowed.tracked wfa noStray tracked⟩

theorem Allowed.allRegistered {K : List Kind} {s s' : Inst σ} (h : Allowed K s s')
    (wf : s.WellFormed) (notPop : Kind.pop ∉ K) (notBare : Kind.bare ∉ K)
    (kept : s.deleting = false ∨ ∀ root, ¬Refused K root) (all : AllRegistered s) :
    AllRegistered s' := by
  intro t task isTask pending
  by_contra absent
  cases before : s.tasks t with
  | none =>
    rcases (h.created before isTask).registered with registered | ⟨-, ⟨evicting, refused⟩ | bare⟩
    · rw [registered] at absent
      simp at absent
    · rcases kept with alive | none
      · rw [alive] at evicting
        cases evicting
      · exact none _ refused
    · exact notBare bare
  | some old =>
    obtain ⟨pendingBefore, absentBefore⟩ := h.stray_before wf notPop before pending absent
    exact absentBefore (all t old before pendingBefore)

/-- Moves that create no task that could be refused. -/
theorem Moves.allRegistered {K : List Kind} {s s' : Inst σ} (h : Moves K s s') (wf : s.WellFormed)
    (notPop : Kind.pop ∉ K) (notBare : Kind.bare ∉ K) (none : ∀ root, ¬Refused K root)
    (all : AllRegistered s) : AllRegistered s' :=
  (h.keeps wf all fun _ _ wfa allowed all =>
    allowed.allRegistered wfa notPop notBare (.inr none) all).1

/-- Moves of an instance that is not being deleted. -/
theorem Moves.allRegistered_alive {K : List Kind} {s s' : Inst σ} (h : Moves K s s')
    (wf : s.WellFormed) (notPop : Kind.pop ∉ K) (notBare : Kind.bare ∉ K) (all : AllRegistered s)
    (alive : s'.deleting = false) : AllRegistered s' := by
  refine (h.keeps (I := fun s => s.deleting = false → AllRegistered s) wf (fun _ => all) ?_).1 alive
  intro a b wfa allowed all alive
  have before : a.deleting = false := Moves.deleting (fun _ => .single allowed) wfa alive
  exact allowed.allRegistered wfa notPop notBare (.inl before) (all before)

/-! ### Running a handle -/

theorem Tracked.congr {s s' : Inst σ} (tracked : Tracked s) (deleting : s'.deleting = s.deleting)
    (registered : s'.registered = s.registered) (tasks : s'.tasks = s.tasks)
    (futs : s'.futs = s.futs) : Tracked s' := by
  intro t task isTask pending absent
  rw [tasks] at isTask
  rw [Inst.isDone, futs] at pending
  rw [registered] at absent
  rw [deleting]
  exact tracked t task isTask pending absent

/-- A refused handle has no handle object to wait with: its first step raises. -/
theorem resume_refused (det : Details σ) {t : FutId} {root : Root} (ofHandle : root.ofHandle = true)
    (input : Except Exc Obj) {s : Inst σ} (absent : t ∉ s.registered) :
    ∃ e, resume det t root .start input s = (.ok (.done (.error e)), s) := by
  cases input with
  | error e => exact ⟨e, by cases root <;> rfl⟩
  | ok v =>
    refine ⟨.error .assertionError, ?_⟩
    cases root with
    | activity | child =>
      simp [resume, startCode, activityStart, childStart, absent, bind_run]
    | _ => cases ofHandle

/-- The first step of a refused handle ends its task. -/
theorem stepTask_refused (det : Details σ) {t : FutId} (input : Except Exc Obj) {s : Inst σ}
    {task : Task} (isTask : s.tasks t = some task) (pending : s.isDone t = false)
    (ofHandle : task.root.ofHandle = true) (start : task.point = .start)
    (absent : t ∉ s.registered) :
    ∃ new : FutState, new.done = true ∧
      (stepTask det t input s).2 = (s.woken t task).settled t new := by
  have absent₁ : t ∉ (s.woken t task).registered := absent
  obtain ⟨e, run⟩ := resume_refused det ofHandle (task.resumption input) absent₁
  obtain ⟨new, done, ended⟩ := finishTask_error t e (s.woken t task)
  refine ⟨new, done, ?_⟩
  rw [stepTask_run det input isTask pending, start, bind_ok run]
  simp only [stepNext, stepEnd]
  rw [bind_pure_state, ended]

theorem Tracked.settled {s : Inst σ} (tracked : Tracked s) {t : FutId} (task : Task)
    {new : FutState} (done : new.done = true) : Tracked ((s.woken t task).settled t new) := by
  intro t' task' isTask' pending absent
  by_cases same : t' = t
  · subst same
    simp [Inst.isDone, Inst.settled, Inst.pushAll, Inst.setFut, done] at pending
  · have isTask : s.tasks t' = some task' := by
      simpa [Inst.settled, Inst.pushAll, Inst.setFut, Inst.woken, Inst.setTask, same] using isTask'
    have pendingBefore : s.isDone t' = false := by
      simpa [Inst.isDone, Inst.settled, Inst.pushAll, Inst.setFut, Inst.woken, Inst.setTask, same]
        using pending
    exact tracked t' task' isTask pendingBefore absent

/-- What the kinds of a handle let it do to tasks. -/
theorem handle_noStray {s : Inst σ} {h : Handle} (held : ∀ t, s.steps h t → Held s t) :
    NoStray (.book :: s.handleKinds h) s := by
  have ofHandle {k : Kind} (member : k ∈ Kind.book :: s.handleKinds h) :
      k = .book ∨ k.ofHandle = true :=
    (List.mem_cons.mp member).imp_right (s.handleKinds_ofHandle h k)
  constructor
  · intro pop
    rcases ofHandle pop with book | ofHandle
    · cases book
    · cases ofHandle
  · intro bare
    rcases ofHandle bare with book | ofHandle
    · cases book
    · cases ofHandle
  · left
    intro root refused
    cases refused with
    | create member | signal member | spawn member =>
      rcases ofHandle member with book | ofHandle
      · cases book
      · cases ofHandle
    | issue _ isHandle => exact isHandle
  · intro t own
    refine held t (Inst.steps_of_own (own.imp (fun own => ?_) fun wake => ?_))
    · rcases List.mem_cons.mp own with book | member
      · cases book
      · exact member
    · rcases List.mem_cons.mp wake with book | member
      · cases book
      · exact member

/-- A handle that removes the entry of a task: the task is done. -/
theorem removal_tracked (det : Details σ) {s : Inst σ} (removals : Removals s) {h : Handle}
    {rest : List Handle} (ready : s.ready = h :: rest) (removes : h.removes = true)
    (tracked : Tracked s) : Tracked (handleRun det h (s.setReady rest)).2 := by
  cases h with
  | callback cb f =>
    cases cb with
    | tasksRemove =>
      have done : s.isDone f = true := (removals.ready f .tasksRemove rfl (by simp [ready])).2
      intro t task isTask pending absent
      have other : t ≠ f := by
        rintro rfl
        rw [show s.isDone t = false from pending] at done
        cases done
      exact tracked t task isTask pending fun member =>
        absent ((List.mem_erase_of_ne other).mpr member)
    | signalDone id => exact tracked.congr rfl rfl rfl rfl
    | _ => cases removes
  | _ => cases removes

theorem handleRun_tracked (det : Details σ) {s : Inst σ} {h : Handle}
    (tracked : Tracked (handleCallback det h s).2) : Tracked (handleRun det h s).2 := by
  rcases handleRun_state det h s with same | logged
  · rwa [same]
  · rw [logged]
    exact tracked.congr rfl rfl rfl rfl

theorem popHandle_tracked (det : Details σ) {s : Inst σ} (wf : s.WellFormed)
    (removals : Removals s) {h : Handle} {rest : List Handle} (ready : s.ready = h :: rest)
    (tracked : Tracked s) : Tracked (handleRun det h (s.setReady rest)).2 := by
  cases removes : h.removes with
  | true => exact removal_tracked det removals ready removes tracked
  | false =>
    have wf' : (s.setReady rest).WellFormed :=
      Moves.wellFormed (K := [.pop]) (.of_move (by simp) (.pop s ready removes)) wf
    have tracked' : Tracked (s.setReady rest) := tracked.congr rfl rfl rfl rfl
    have moves := handleRun_moves det removes (s.setReady rest)
    by_cases held : ∀ t, (s.setReady rest).steps h t → Held (s.setReady rest) t
    · exact moves.tracked wf' (handle_noStray held) tracked'
    · -- the handle steps a task that is not in `_tasks`, or none at all
      push Not at held
      obtain ⟨t, steps, notHeld⟩ := held
      obtain ⟨input, called⟩ := handleRun_steps det steps
      refine handleRun_tracked det ?_
      rw [called]
      by_cases idle : ∀ task, (s.setReady rest).tasks t = some task →
        (s.setReady rest).isDone t = true
      · rw [(stepTask_idle det input idle).2]
        exact tracked'
      · push Not at idle
        obtain ⟨task, isTask, alive⟩ := idle
        have pending : (s.setReady rest).isDone t = false := by simpa using alive
        have absent : t ∉ (s.setReady rest).registered := fun member =>
          notHeld ⟨task, isTask, .inl member⟩
        obtain ⟨-, ofHandle, start⟩ := tracked' t task isTask pending absent
        obtain ⟨new, done, ended⟩ :=
          stepTask_refused det input isTask pending ofHandle start absent
        rw [ended]
        exact tracked'.settled task done

/-! ### Before the eviction -/

theorem AllRegistered.tracked {s : Inst σ} (all : AllRegistered s) : Tracked s :=
  fun t task isTask pending absent => absurd (all t task isTask pending) absent

/-- Every call but one that makes a task registers it. -/
def Label.registers : Label σ → Bool
  | .act .newTask => false
  | _ => true

theorem bare_stepKinds {det : Details σ} {m : Machine σ} {l : Label σ} (registers : l.registers = true) :
    Kind.bare ∉ m.stepKinds det l := by
  intro bare
  cases stepKinds_makes bare with
  | always _ h => simp at h
  | @job job _ _ _ member => cases job <;> simp [Job.kinds] at member
  | @handle _ h _ _ _ member => cases m.inst.handleKinds_ofHandle h _ member
  | check _ _ same => cases same
  | @ends ctx _ _ _ _ member =>
    rcases m.inst.endKinds_cases ctx _ member with ofHandle | construct
    · cases ofHandle
    · cases construct
  | @call _ _ a _ member =>
    cases a with
    | newTask => cases registers
    | startChildWorkflow input =>
      simp only [Act.kinds] at member
      split at member <;> simp at member
    | _ => simp [Act.kinds] at member
  | await _ _ own => cases own

theorem step_allRegistered (det : Details σ) {m m' : Machine σ} {l : Label σ} (wf : m.WellFormed)
    (removals : Removals m.inst) (registers : l.registers = true)
    (all : m.inst.deleting = false → AllRegistered m.inst)
    (h : step det m l = some m') (alive : m'.inst.deleting = false) : AllRegistered m'.inst := by
  have moves := step_moves det wf h
  have registered := all (moves.deleting wf.inst alive)
  by_cases pop : Kind.pop ∈ m.stepKinds det l
  · obtain ⟨frame, handle, rest, runs⟩ := pop_mem_stepKinds pop
    have wf' := (popHandle_moves det runs.2.2).wellFormed wf.inst
    have ran := popHandle_tracked det wf.inst removals runs.2.2 registered.tracked
    rw [runs.step h] at alive ⊢
    have next := handleNext_moves det m frame (handleRun det handle (m.inst.setReady rest))
    exact next.allRegistered_alive wf' (by simp) (by simp)
      (ran.allRegistered (next.deleting wf' alive)) alive
  · exact moves.allRegistered_alive wf.inst pop (bare_stepKinds registers) registered alive

/-- If workflow code makes its tasks with `create_task`, an instance that is not
being deleted has every unfinished task in `_tasks`. -/
theorem Reach.allRegistered {det : Details σ} {mem : σ} {m : Machine σ}
    (reach : Reach det (fun _ l => l.registers = true) (Machine.init det mem) m)
    (alive : m.inst.deleting = false) : AllRegistered m.inst := by
  have kept := (reach.invariant
    (I := fun m => TaskBooks m.inst ∧ (m.inst.deleting = false → AllRegistered m.inst))
    (init_wellFormed det mem) ⟨init_taskBooks det mem, ?_⟩ ?_).1
  · exact kept.2 alive
  · intro _ t task isTask
    cases isTask
  · rintro m l m' wf ⟨books, all⟩ registers h
    exact ⟨step_taskBooks det wf books h, step_allRegistered det wf books.removals registers all h⟩

/-! ### The steps of a tear-down -/

/-- Exceptions that `activate` swallows while the instance is being deleted. For
a failure of the workflow it adds a command, which is refused with another
exception. -/
def Details.swallows (det : Details σ) : Exc → Bool
  | .error err => !det.isWorkflowFailureException err
  | _ => false

def Details.swallowed {α : Type} (det : Details σ) : Except Exc α → Bool
  | .error e => det.swallows e
  | .ok _ => true

/-- A task that workflow code creates is scheduled but not registered. -/
def Act.createsStray (s : Inst σ) : Act σ → Bool
  | .createTask | .newTask => !s.readOnly
  | _ => false

/-- Workflow code ends with `SystemExit` or `KeyboardInterrupt`. -/
def Act.raisesExit : Act σ → Bool
  | .raise e => e.exits
  | _ => false

/-- The constructor of the workflow class, if it runs during the tear-down at
all, starts no local activity, whose guard comes too late, and raises nothing but
what is swallowed. -/
def Act.ofInit (det : Details σ) : Act σ → Bool
  | .startActivity input => !input.isLocal
  | .raise e => det.swallows e
  | _ => true

/-- A step of a tear-down in which workflow code creates no task, in which what
leaves the cancellations, the wait conditions or the constructor is swallowed,
and in which no coroutine or callback ends with `SystemExit` or
`KeyboardInterrupt`, except in `run_update`, which ignores it. -/
def Machine.tearsDown (det : Details σ) (m : Machine σ) : Label σ → Bool
  | .tick =>
    match m.control with
    | .jobs (.removeFromCache :: _) _ => det.swallowed (applyRemoveFromCache m.inst).1
    | .inner _ =>
      match m.inst.ready with
      | h :: _ => !m.inst.throwsExit h
      | [] =>
        (m.inst.conditions.all fun entry => det.swallowed (entry.1 m.inst.view)) &&
          (!m.inst.readOnly || det.swallows (.error (.readOnlyContext "schedule task")))
    | _ => true
  | .act a =>
    match m.control with
    | .code .init _ => !a.createsStray m.inst && a.ofInit det
    | .code ctx _ => !a.createsStray m.inst && (m.inst.ignoresExit ctx || !a.raisesExit)
    | _ => true
  | .activate _ _ => true

theorem checkConditionList_raises (conditions : List (Cond σ × FutId)) {s s' : Inst σ} {e : Exc}
    (roles : ∀ fn f, (fn, f) ∈ conditions → (s.futs f).role = .condition)
    (run : checkConditionList conditions s = (.error e, s')) :
    (∃ entry ∈ conditions, entry.1 s.view = .error e) ∨
      s.readOnly = true ∧ e = .error (.readOnlyContext "schedule task") := by
  induction conditions generalizing s s' with
  | nil => cases run
  | cons entry rest ih =>
    obtain ⟨fn, f⟩ := entry
    -- what holds of the rest of the list holds of the whole list
    have later (this : (∃ entry ∈ rest, entry.1 s.view = .error e) ∨
        s.readOnly = true ∧ e = .error (.readOnlyContext "schedule task")) :
        (∃ entry ∈ (fn, f) :: rest, entry.1 s.view = .error e) ∨
          s.readOnly = true ∧ e = .error (.readOnlyContext "schedule task") :=
      this.imp_left fun ⟨entry, member, raises⟩ => ⟨entry, List.mem_cons_of_mem _ member, raises⟩
    have rolesRest (fn' : Cond σ) (f' : FutId) (member : (fn', f') ∈ rest) :
        (s.futs f').role = .condition := roles fn' f' (List.mem_cons_of_mem _ member)
    simp only [checkConditionList, state_bind_run] at run
    cases done : s.isDone f with
    | true =>
      rw [done, if_pos rfl] at run
      exact later (ih rolesRest run)
    | false =>
      rw [done, if_neg Bool.false_ne_true] at run
      -- the conditions are looked at in order, each in the state that the ones before it left
      cases holds : fn s.view with
      | error e' =>
        simp only [holds, raise_run, Prod.mk.injEq, Except.error.injEq] at run
        obtain ⟨rfl, -⟩ := run
        exact .inl ⟨(fn, f), List.mem_cons_self, holds⟩
      | ok value =>
        cases value with
        | true =>
          have role := roles fn f List.mem_cons_self
          have pending : (s.log (.conditionResolved f)).isDone f = false := done
          simp only [holds, update_bind_run] at run
          rw [bind_run, setOutcome_pending pending] at run
          split at run
          next rest₁ s₁ settled =>
            simp only [Prod.mk.injEq] at settled
            obtain ⟨-, rfl⟩ := settled
            -- a condition that was resolved is out of the way, and what the others see is the same
            have roles₁ (fn' : Cond σ) (f' : FutId) (member : (fn', f') ∈ rest) :
                (((s.log (.conditionResolved f)).settled f (.result 1)).futs f').role =
                  .condition := by
              by_cases same : f' = f
              · simp [Inst.settled, Inst.pushAll, Inst.setFut, Inst.log, same, role]
              · simpa [Inst.settled, Inst.pushAll, Inst.setFut, Inst.log, same] using
                  rolesRest fn' f' member
            have rest := ih roles₁ run
            rw [view_resolved role] at rest
            exact later rest
          next e' s₁ settled =>
            -- the callbacks of the future cannot be scheduled while the mode is set
            obtain ⟨raised, -⟩ := Prod.mk.inj settled
            obtain ⟨same, -⟩ := Prod.mk.inj run
            split at raised
            next both =>
              simp only [Bool.and_eq_true] at both
              rw [Except.error.injEq] at raised same
              exact .inr ⟨both.1, by rw [← same, ← raised]⟩
            · cases raised
        | false =>
          simp only [holds, bind_run] at run
          cases first : checkConditionList rest s with
          | mk r s₁ =>
            rw [first] at run
            cases r with
            | ok kept => cases run
            | error e' =>
              simp only [Prod.mk.injEq, Except.error.injEq] at run
              obtain ⟨rfl, -⟩ := run
              exact later (ih rolesRest first)

theorem checkConditions_raises {s s' : Inst σ} (wf : s.WellFormed) {e : Exc}
    (run : checkConditions s = (.error e, s')) :
    (∃ entry ∈ s.conditions, entry.1 s.view = .error e) ∨
      s.readOnly = true ∧ e = .error (.readOnlyContext "schedule task") := by
  simp only [checkConditions, state_bind_run] at run
  cases checked : checkConditionList s.conditions s with
  | mk r s₁ =>
    cases r with
    | ok kept =>
      rw [bind_ok checked] at run
      cases run
    | error e' =>
      rw [bind_error checked] at run
      obtain rfl : e' = e := Except.error.inj (Prod.mk.inj run).1
      exact checkConditionList_raises s.conditions
        (fun fn f member => (wf.condition fn f member).2) checked

/-- Kinds that neither create a task nor move one on. -/
def Kind.idle : Kind → Bool
  | .timer | .refused | .mem | .condition | .book | .patch | .command | .turn | .check | .evict => true
  | _ => false

theorem idle_noStray {K : List Kind} (idle : ∀ k ∈ K, k.idle = true) (s : Inst σ) :
    NoStray K s ∧ ∀ root, ¬Refused K root := by
  have none (root : Root) : ¬Refused K root := by
    intro refused
    cases refused with
    | create member | issue member | signal member | spawn member => cases idle _ member
  refine ⟨⟨fun pop => ?_, fun bare => ?_, .inl fun root refused => absurd refused (none root), ?_⟩, none⟩
  · cases idle _ pop
  · cases idle _ bare
  · rintro t (own | wake)
    · cases idle _ own
    · cases idle _ wake

theorem setSignalHandler_refused (det : Details σ) (name : Option String)
    (handler : Option HandlerFn) {s : Inst σ} (deleting : s.deleting = true) :
    (workflowSetSignalHandler det name handler s).2 = s := by
  simp [workflowSetSignalHandler, bind_run, assertNotReadOnly_run, deleting]

theorem startActivity_refused (det : Details σ) {input : StartActivityInput} {s : Inst σ}
    (remote : input.isLocal = false) (deleting : s.deleting = true) :
    (workflowStartActivity det input s).2 = s := by
  simp [workflowStartActivity, startActivityGuard, remote, bind_run, assertNotReadOnly_run, deleting]

theorem createTask_refused {s : Inst σ} (readOnly : s.readOnly = true) (root : Root) :
    (createTask root s).2 = s := by
  simp [createTask, newTask, bind_run, callSoon_run, readOnly]

/-- A call of workflow code during the tear-down. -/
theorem performCall_tracked (det : Details σ) {a : Act σ} {s : Inst σ} (wf : s.WellFormed)
    (enabled : a.enabled s = true) (deleting : s.deleting = true)
    (noStray : a.createsStray s = false) (tracked : Tracked s) :
    Tracked (performCall det a s).2 ∧
      (a.ofInit det = true → AllRegistered s → AllRegistered (performCall det a s).2) := by
  have moves := performCall_moves det 0 a enabled
  have same {s' : Inst σ} (same : s' = s) :
      Tracked s' ∧ (a.ofInit det = true → AllRegistered s → AllRegistered s') := by
    rw [same]
    exact ⟨tracked, fun _ => id⟩
  by_cases awaits : a.awaits = true
  · exact same (congrArg Prod.snd (performCall_awaits det awaits s))
  · have idle (idle : ∀ k ∈ a.kinds det 0, k.idle = true) :
        Tracked (performCall det a s).2 ∧
          (a.ofInit det = true → AllRegistered s → AllRegistered (performCall det a s).2) := by
      obtain ⟨kinds, none⟩ := idle_noStray idle s
      exact ⟨moves.tracked wf kinds tracked,
        fun _ => moves.allRegistered wf kinds.notPop kinds.notBare none⟩
    cases a with
    | createTask =>
      have readOnly : s.readOnly = true := by simpa [Act.createsStray] using noStray
      refine same ?_
      simp only [performCall]
      rw [bind_pure_state, createTask_refused readOnly]
    | newTask =>
      have readOnly : s.readOnly = true := by simpa [Act.createsStray] using noStray
      refine same ?_
      simp only [performCall]
      rw [bind_pure_state, newTask_run, if_pos readOnly]
    | setSignalHandler name handler => exact same (setSignalHandler_refused det name handler deleting)
    | startActivity input =>
      -- a local activity gets as far as its handle
      refine ⟨moves.tracked wf
        ⟨by simp [Act.kinds], by simp [Act.kinds], .inl ?_, by simp [Act.kinds]⟩ tracked, ?_⟩
      · intro root refused
        cases refused with
        | issue _ ofHandle => exact ofHandle
        | create member | signal member | spawn member => simp [Act.kinds] at member
      · intro ofInit all
        have remote : input.isLocal = false := by simpa [Act.ofInit] using ofInit
        have unchanged : (performCall det (.startActivity input) s).2 = s := by
          simp only [performCall]
          rw [bind_pure_state, startActivity_refused det remote deleting]
        rwa [unchanged]
    | callLater delay =>
      refine idle fun k member => ?_
      simp only [Act.kinds] at member
      split at member <;> simp only [List.mem_cons, List.not_mem_nil, or_false] at member
      · rw [member]
        rfl
      · rcases member with rfl | rfl <;> rfl
    | await | bareYield | waitCondition | startChildWorkflow | signalExternalWorkflow
    | cancelExternalWorkflow => exact absurd rfl awaits
    | _ => exact idle (by simp [Act.kinds, Kind.idle])

theorem Ctx.Ready.held {s : Inst σ} {ctx : Ctx} (ready : ctx.Ready s) {t : FutId}
    (own : Kind.own t ∈ s.endKinds ctx) : Held s t := by
  cases ctx with
  | task t' =>
    obtain ⟨task, isTask, -, coded⟩ := ready
    have same : t = t' := by
      simp only [Inst.endKinds, isTask, List.mem_cons, reduceCtorEq, false_or, Kind.own.injEq] at own
      rcases own with same | own
      · exact same
      · simpa [Kind.ofTask] using task.root.endKinds_ofTask t' _ own
    subst same
    exact ⟨task, isTask, .inr (by cases root : task.root <;> simp_all [Root.coded, Root.ofHandle])⟩
  | validator t' job defn i prev =>
    obtain ⟨⟨task, isTask, root⟩, -⟩ := ready
    have same : t = t' := by simpa [Inst.endKinds] using own
    subst same
    exact ⟨task, isTask, .inr (by rw [root]; rfl)⟩
  | callback | init => simp [Inst.endKinds] at own

theorem Ctx.Ready.task_held {s : Inst σ} {t : FutId} (ready : (Ctx.task t).Ready s) : Held s t := by
  obtain ⟨task, isTask, -⟩ := id ready
  refine ready.held ?_
  simp [Inst.endKinds, isTask]

/-- Workflow code ends during the tear-down. -/
theorem finishContext_tracked (det : Details σ) (m : Machine σ) {ctx : Ctx} (frame : Frame)
    (r : Except Exc Obj) (wf : m.inst.WellFormed) (ready : ctx.Ready m.inst)
    (tracked : Tracked m.inst) : Tracked (finishContext det m ctx frame r).inst := by
  have ofHandle {k : Kind} (member : k ∈ .book :: .turn :: m.inst.endKinds ctx) :
      k = .book ∨ k = .turn ∨ k = .construct ∨ k.ofHandle = true := by
    rcases List.mem_cons.mp member with book | member
    · exact .inl book
    rcases List.mem_cons.mp member with turn | member
    · exact .inr (.inl turn)
    · exact .inr (.inr (m.inst.endKinds_cases ctx k member).symm)
  refine (finishContext_moves det m frame r wf ready).tracked wf ⟨?_, ?_, .inl ?_, ?_⟩ tracked
  · intro pop
    rcases ofHandle pop with book | turn | construct | other
    · cases book
    · cases turn
    · cases construct
    · cases other
  · intro bare
    rcases ofHandle bare with book | turn | construct | other
    · cases book
    · cases turn
    · cases construct
    · cases other
  · intro root refused
    cases refused with
    | issue _ isHandle => exact isHandle
    | create member | signal member | spawn member =>
      rcases ofHandle member with book | turn | construct | other
      · cases book
      · cases turn
      · cases construct
      · cases other
  · rintro t (own | wake)
    · refine ready.held ?_
      simpa using own
    · simp only [List.mem_cons, reduceCtorEq, false_or] at wake
      cases ctx with
      | task t' =>
        cases isTask : m.inst.tasks t' with
        | none => simp [Inst.endKinds, isTask] at wake
        | some task =>
          simp only [Inst.endKinds, isTask, List.mem_cons, reduceCtorEq, false_or] at wake
          cases task.root.endKinds_ofTask t' _ wake
      | _ => simp [Inst.endKinds] at wake

/-- A call that may suspend the task that runs. -/
theorem performAwait_tracked (det : Details σ) {t : FutId} {a : Act σ} {call : Wf σ (Option Obj)}
    (await : performAwait det t a = some call) {s : Inst σ} (wf : s.WellFormed)
    (held : Held s t) (tracked : Tracked s) : Tracked (call s).2 := by
  have moves := performAwait_moves det t await s
  refine moves.tracked wf ⟨?_, ?_, .inl ?_, ?_⟩ tracked
  · intro pop
    simpa using a.kinds_subset det t pop
  · intro bare
    cases a <;> simp [Act.kinds, performAwait] at bare await
  · intro root refused
    cases refused with
    | issue _ ofHandle => exact ofHandle
    | spawn member => simpa using a.kinds_subset det t member
    | create member | signal member =>
      cases a <;> simp [Act.kinds, performAwait] at member await
  · rintro t' (own | wake)
    · have same : t' = t := by simpa using a.kinds_subset det t own
      exact same ▸ held
    · simpa using a.kinds_subset det t wake

/-! ### The activation that evicts -/

/-- `remove_from_cache` is the one job still to be applied. -/
inductive Control.Evicts : Control → Prop
  | sets {index : Nat} {later : List (List Job)} (jobs : later.flatten = [.removeFromCache]) :
      Evicts (.sets ⟨index, later⟩)
  | jobs {frame : Frame} (last : frame.later.flatten = []) : Evicts (.jobs [.removeFromCache] frame)

/-- The jobs still to be applied. -/
def Control.pending : Control → List Job
  | .idle => []
  | .sets frame | .enter frame | .outer frame | .inner frame | .code _ frame => frame.later.flatten
  | .jobs rest frame => rest ++ frame.later.flatten

/-- The loop is not running handles. -/
def Control.early : Control → Bool
  | .sets _ | .jobs _ _ | .enter _ | .code .init _ => true
  | _ => false

/-- `activate` has returned and every task ever created is done, or it has raised
a `RuntimeError`. -/
def Machine.TornDown (m : Machine σ) : Prop :=
  (∃ completion, m.outcome = some (.returned completion)) ∧
      (∀ t task, m.inst.tasks t = some task → m.inst.isDone t = true) ∨
    ∃ message, m.outcome = some (.raised (.error (.runtimeError message)))

structure TearDown (m : Machine σ) : Prop where
  tracked : Tracked m.inst
  place : m.inst.deleting = false ∧ m.control.Evicts ∨
    m.inst.deleting = true ∧ m.control.pending = []
  early : m.control.early = true → AllRegistered m.inst
  ended : m.control = .idle → m.TornDown

/-- The check for remaining tasks sees every task that is not done. -/
theorem complete_tornDown (det : Details σ) {m : Machine σ} (deleting : m.inst.deleting = true)
    (all : AllRegistered m.inst) : (m.complete det none).TornDown := by
  unfold Machine.complete
  split
  · exact .inr ⟨_, rfl⟩
  next none =>
    have empty : m.inst.registered = [] := by simpa [deleting] using none
    refine .inl ⟨⟨_, rfl⟩, fun t task isTask => ?_⟩
    by_contra alive
    have pending : m.inst.isDone t = false := Bool.eq_false_iff.mpr alive
    have member := all t task isTask pending
    rw [empty] at member
    cases member

theorem raised_tornDown (det : Details σ) {m : Machine σ} {e : Exc} (swallows : det.swallows e = true)
    (deleting : m.inst.deleting = true) (all : AllRegistered m.inst) :
    (m.raised det e).TornDown := by
  cases e with
  | error err =>
    have notFailure : det.isWorkflowFailureException err = false := by
      simpa [Details.swallows] using swallows
    simp only [Machine.raised, notFailure, Bool.false_eq_true, if_false]
    have same : (if (m.note (.raised (.error err))).inst.deleting = true then none else some err) =
        none := if_pos deleting
    rw [same]
    exact complete_tornDown det (m := m.note _) deleting all
  | _ => cases swallows

/-- `activate` ends with every unfinished task in `_tasks`. -/
theorem TearDown.of_end {m : Machine σ} (control : m.control = .idle)
    (deleting : m.inst.deleting = true) (all : AllRegistered m.inst) (ended : m.TornDown) :
    TearDown m where
  tracked := all.tracked
  place := .inr ⟨deleting, by rw [control]; rfl⟩
  early _ := all
  ended _ := ended

theorem TearDown.complete (det : Details σ) {m : Machine σ} (deleting : m.inst.deleting = true)
    (all : AllRegistered m.inst) : TearDown (m.complete det none) := by
  have inst := complete_inst det m none
  refine .of_end (complete_control det m none) ?_ ?_ (complete_tornDown det deleting all)
  · rw [inst]
    exact deleting
  · rw [inst]
    exact all

theorem TearDown.raised (det : Details σ) {m : Machine σ} {e : Exc}
    (swallows : det.swallows e = true) (deleting : m.inst.deleting = true)
    (all : AllRegistered m.inst) : TearDown (m.raised det e) := by
  have inst := raised_inst det m e
  refine .of_end (raised_control det m e) ?_ ?_ (raised_tornDown det swallows deleting all)
  · rw [inst]
    exact deleting
  · rw [inst]
    exact all

theorem TearDown.handleNext (det : Details σ) (m : Machine σ) {frame : Frame}
    {r : Except Exc (Option Ctx) × Inst σ} (tracked : Tracked (m.handleNext det frame r).inst)
    (deleting : (m.handleNext det frame r).inst.deleting = true) (last : frame.later.flatten = [])
    (kept : ∀ e, r.1 = .error e → e.exits = false)
    (inHandle : ∀ ctx s, r = (.ok (some ctx), s) → ctx.inHandle = true) :
    TearDown (m.handleNext det frame r) := by
  have running : (m.handleNext det frame r).control ≠ .idle := by
    intro idle
    rcases handleNext_ends det m frame r idle with alive | ⟨e, raised, exits, -⟩
    · rw [deleting] at alive
      cases alive
    · rw [kept e raised] at exits
      cases exits
  have control : (∃ ctx s, r = (.ok (some ctx), s) ∧
      (m.handleNext det frame r).control = .code ctx frame) ∨
      (m.handleNext det frame r).control = .inner frame := by
    obtain ⟨r, s⟩ := r
    have done {s : Inst σ} (running : (m.handleDone det s frame).control ≠ .idle) :
        (m.handleDone det s frame).control = .inner frame := by
      rcases handleDone_control det m s frame with idle | goes
      · exact absurd idle running
      · rw [goes]
        rfl
    cases r with
    | ok ctx =>
      cases ctx with
      | some ctx => exact .inl ⟨ctx, s, rfl, rfl⟩
      | none => exact .inr (done running)
    | error e =>
      rcases handleRaised_cases det m s frame e with ⟨exits, -⟩ | reported
      · rw [kept e rfl] at exits
        cases exits
      · have control := reported ▸ done (by rw [← reported]; exact running)
        exact .inr control
  refine ⟨tracked, .inr ⟨deleting, ?_⟩, fun early => ?_, fun idle => absurd idle running⟩
  · rcases control with ⟨ctx, s, -, control⟩ | control <;> rw [control] <;> exact last
  · rcases control with ⟨ctx, s, isCode, control⟩ | control <;> rw [control] at early
    · have inside := inHandle ctx s isCode
      cases ctx with
      | init => cases inside
      | _ => cases early
    · cases early

/-- The job itself: it creates no task, and what it raises is swallowed. -/
theorem applied_tearDown (det : Details σ) {m m' : Machine σ} (wf : m.WellFormed) {frame : Frame}
    (control : m.control = .jobs [.removeFromCache] frame) (last : frame.later.flatten = [])
    (all : AllRegistered m.inst) (allowed : m.tearsDown det .tick = true)
    (h : tick det m = some m') : TearDown m' := by
  have moves := applyJob_moves det .removeFromCache m.inst
  have swallowed : det.swallowed (applyRemoveFromCache m.inst).1 = true := by
    simpa [Machine.tearsDown, control] using allowed
  obtain ⟨deleting, -⟩ := applyRemoveFromCache_shrinks wf.inst
  obtain ⟨kinds, none⟩ := idle_noStray (K := Job.removeFromCache.kinds)
    (by simp [Job.kinds, Kind.idle]) m.inst
  have registered := moves.allRegistered wf.inst kinds.notPop kinds.notBare none all
  simp only [tick, control] at h
  cases run : applyRemoveFromCache m.inst with
  | mk r s =>
    rw [show applyJob det .removeFromCache m.inst = (r, s) from run] at h registered
    rw [run] at swallowed deleting
    cases r with
    | ok u =>
      obtain rfl := Option.some.inj h
      exact ⟨registered.tracked, .inr ⟨deleting, last⟩, fun _ => registered,
        fun idle => by cases idle⟩
    | error e =>
      obtain rfl := Option.some.inj h
      exact .raised det (m := { m with inst := s }) swallowed deleting registered

theorem tick_tearDown (det : Details σ) {m m' : Machine σ} (wf : m.WellFormed)
    (books : TaskBooks m.inst) (inv : TearDown m) (allowed : m.tearsDown det .tick = true)
    (h : tick det m = some m') : TearDown m' := by
  -- a step that only moves the control on
  have moved {control : Control}
      (place : m.inst.deleting = false ∧ control.Evicts ∨
        m.inst.deleting = true ∧ control.pending = [])
      (all : control.early = true → AllRegistered m.inst) (running : control ≠ .idle) :
      TearDown { m with control := control } :=
    ⟨inv.tracked, place, all, fun idle => absurd idle running⟩
  rcases inv.place with ⟨alive, evicts⟩ | ⟨deleting, pending⟩
  · -- up to the job only empty job sets are passed
    cases at_ : m.control with
    | sets frame =>
      rw [at_] at evicts
      have all := inv.early (by rw [at_]; rfl)
      cases evicts with
      | @sets index later jobs =>
        cases tick_cases det h with
        | complete control =>
          obtain ⟨-, rfl⟩ : index = _ ∧ later = [] := by simpa [at_] using control
          cases jobs
        | skipSet control =>
          obtain ⟨-, rfl⟩ : index = _ ∧ later = [] :: _ := by simpa [at_] using control
          exact moved (.inl ⟨alive, .sets jobs⟩) (fun _ => all) (by simp)
        | openSet control =>
          obtain ⟨-, rfl⟩ : index = _ ∧ later = _ := by simpa [at_] using control
          obtain ⟨rfl, rfl, last⟩ : _ = Job.removeFromCache ∧ _ = [] ∧ _ := by simpa using jobs
          exact moved (.inl ⟨alive, .jobs (by simpa using last)⟩) (fun _ => all) (by simp)
        | closeSet control | applied control | applyRaised control | enter control | init control
        | ran control | loop control | handle control | checked control | checkRaised control
        | unchecked control =>
          have same := at_.symm.trans control
          cases same
    | jobs rest frame =>
      have all := inv.early (by rw [at_]; rfl)
      rw [at_] at evicts
      cases evicts with
      | jobs last => exact applied_tearDown det wf at_ last all allowed h
    | _ =>
      rw [at_] at evicts
      cases evicts
  · have early (isEarly : m.control.early = true) := inv.early isEarly
    have settled (ready : m.inst.ready = []) : AllRegistered m.inst :=
      inv.tracked.allRegistered_of_ready books.starts ready
    cases tick_cases det h with
    | complete control => exact .complete det deleting (early (by rw [control]; rfl))
    | skipSet control | closeSet control | init control =>
      rw [control] at pending
      exact moved (.inr ⟨deleting, pending⟩) (fun _ => early (by rw [control]; rfl)) (by simp)
    | openSet control | applied control | applyRaised control =>
      rw [control] at pending
      simp [Control.pending] at pending
    | enter control | loop control | unchecked control =>
      rw [control] at pending
      exact moved (.inr ⟨deleting, pending⟩) (fun early => by cases early) (by simp)
    | ran control ready =>
      rw [control] at pending
      exact ⟨inv.tracked, .inr ⟨deleting, pending⟩, fun _ => settled ready, fun idle => by cases idle⟩
    | @handle frame handle rest control ready =>
      rw [control] at pending
      have popped := popHandle_moves det ready
      have wf' := popped.wellFormed wf.inst
      have next := handleNext_moves det m frame (handleRun det handle (m.inst.setReady rest))
      have ran := popHandle_tracked det wf.inst books.removals ready inv.tracked
      refine .handleNext det m (next.tracked wf' (idle_noStray (by simp [Kind.idle]) _).1 ran)
        (next.stays_deleting wf' (popped.stays_deleting wf.inst deleting)) pending
        (fun e raised => ?_) fun ctx s isCode => ?_
      · have quiet : m.inst.throwsExit handle = false := by
          simpa [Machine.tearsDown, control, ready] using allowed
        exact (handleRun_kept det (s := m.inst.setReady rest) quiet (Prod.ext raised rfl)).elim
      have stays : (m.inst.setReady rest).WellFormed :=
        wf.inst.congr rfl rfl rfl (List.Sublist.refl _) rfl
      exact (handleRun_ready det stays isCode).2
    | @checked frame s control ready checks run =>
      rw [control] at pending
      have moves := checkConditions_moves m.inst
      rw [run] at moves
      refine ⟨moves.tracked wf.inst (idle_noStray (by simp [Kind.idle]) _).1 inv.tracked,
        .inr ⟨moves.stays_deleting wf.inst deleting, pending⟩, ?_, ?_⟩
      · intro early
        cases early
      · intro idle
        cases idle
    | @checkRaised frame s e control ready checks run =>
      have moves := checkConditions_moves m.inst
      rw [run] at moves
      obtain ⟨kinds, none⟩ := idle_noStray (K := [.check]) (by simp [Kind.idle]) m.inst
      refine .raised det (m := { m with inst := s }) ?_ (moves.stays_deleting wf.inst deleting)
        (moves.allRegistered wf.inst kinds.notPop kinds.notBare none (settled ready))
      -- what a condition raises is swallowed
      simp only [Machine.tearsDown, control, ready, Bool.and_eq_true, List.all_eq_true] at allowed
      obtain ⟨conditions, readOnly⟩ := allowed
      rcases checkConditions_raises wf.inst run with ⟨entry, member, raised⟩ | ⟨isReadOnly, rfl⟩
      · have := conditions entry member
        rwa [raised] at this
      · simpa [isReadOnly] using readOnly

theorem finishContext_tearDown (det : Details σ) {m : Machine σ} {ctx : Ctx} {frame : Frame}
    (r : Except Exc Obj) (wf : m.WellFormed) (control : m.control = .code ctx frame)
    (tracked : Tracked m.inst) (deleting : m.inst.deleting = true)
    (last : frame.later.flatten = []) (all : ctx = .init → AllRegistered m.inst)
    (swallows : ctx = .init → ∀ e, r = .error e → det.swallows e = true)
    (quiet : ctx ≠ .init → ∀ e, r = .error e → e.exits = true → m.inst.ignoresExit ctx = true) :
    TearDown (finishContext det m ctx frame r) := by
  have ready := wf.code ctx frame control
  have tracked' := finishContext_tracked det m frame r wf.inst ready tracked
  have deleting' :=
    (finishContext_moves det m frame r wf.inst ready).stays_deleting wf.inst deleting
  cases ctx with
  | init =>
    cases r with
    | ok v =>
      refine ⟨tracked', .inr ⟨deleting', last⟩, ?_, ?_⟩
      · intro early
        cases early
      · intro idle
        cases idle
    | error e => exact .raised det (swallows rfl e rfl) deleting (all rfl)
  | callback =>
    cases r with
    | ok v =>
      exact .handleNext det m (r := (.ok none, m.inst)) tracked' deleting' last
        (fun _ raised => by cases raised) fun _ _ isCode => by cases isCode
    | error e =>
      refine .handleNext det m (r := (.error e, m.inst)) tracked' deleting' last (fun e' raised => ?_)
        fun _ _ isCode => by cases isCode
      by_contra exits
      cases quiet (by simp) e' (by simpa using raised) (by simpa using exits)
  | validator t job defn i prev =>
    obtain ⟨⟨task, isTask, isUpdate⟩, pending, responds⟩ := ready
    refine .handleNext det m tracked' deleting' last (fun e raised => ?_) fun ctx s run => ?_
    · exact stepBody_kept (finishValidator_contained det t job defn i prev
        (quiet (by simp))) (Prod.ext raised rfl)
    exact (stepBody_ready (K := [.update job.protocolInstanceId, .error, .progress, .book, .mode])
      (by simp) wf.inst isTask pending (finishValidator_moves det t job defn i prev r responds)
      (by rw [isUpdate]; exact finishValidator_ofTask det t job defn i prev r) run).2
  | task t =>
    obtain ⟨task, isTask, pending, -⟩ := ready
    simp only [finishContext, isTask] at tracked' deleting' ⊢
    refine .handleNext det m tracked' deleting' last (fun e raised => ?_) fun ctx s run => ?_
    · refine stepBody_kept (finishCode_contained det t task.root fun e raised exits => ?_)
        (Prod.ext raised rfl)
      have ignored := quiet (by simp) e raised exits
      obtain ⟨root, point, mustCancel, cancelling⟩ := task
      cases root with
      | update job => exact ⟨deleting, job, rfl⟩
      | _ => simp [Inst.ignoresExit, isTask] at ignored
    exact (stepBody_ready (task.root.finish_not_mem_endKinds t) wf.inst isTask pending
      (finishCode_moves det t task.root r m.inst) (finishCode_ofTask det t task.root r) run).2

theorem perform_tearDown (det : Details σ) {m m' : Machine σ} {a : Act σ} (wf : m.WellFormed)
    (inv : TearDown m) (allowed : m.tearsDown det (.act a) = true) (h : perform det m a = some m') :
    TearDown m' := by
  -- workflow code runs only after the job
  have evicted {ctx : Ctx} {frame : Frame} (control : m.control = .code ctx frame) :
      m.inst.deleting = true ∧ frame.later.flatten = [] := by
    have place := inv.place
    rw [control] at place
    rcases place with ⟨-, evicts⟩ | this
    · cases evicts
    · exact this
  have noStray {ctx : Ctx} {frame : Frame} (control : m.control = .code ctx frame) :
      a.createsStray m.inst = false ∧ (ctx = .init → a.ofInit det = true) ∧
        (ctx ≠ .init → a.raisesExit = true → m.inst.ignoresExit ctx = true) := by
    simp only [Machine.tearsDown, control] at allowed
    cases ctx with
    | init => simpa using allowed
    | _ =>
      simp only [Bool.and_eq_true, Bool.not_eq_true', Bool.or_eq_true] at allowed
      refine ⟨allowed.1, by simp, fun _ exits => ?_⟩
      exact allowed.2.resolve_right (by simp [exits])
  cases perform_cases det h with
  | @ret ctx frame control v =>
    obtain ⟨deleting, last⟩ := evicted control
    refine finishContext_tearDown det (.ok v) wf control inv.tracked deleting last ?_ ?_ ?_
    · rintro rfl
      exact inv.early (by rw [control]; rfl)
    · intro _ e raises
      cases raises
    · intro _ e raises
      cases raises
  | @raise ctx frame control e =>
    obtain ⟨deleting, last⟩ := evicted control
    refine finishContext_tearDown det (.error e) wf control inv.tracked deleting last ?_ ?_ ?_
    · rintro rfl
      exact inv.early (by rw [control]; rfl)
    · rintro init _ ⟨⟩
      exact (noStray control).2.1 init
    · rintro running _ ⟨⟩ exits
      exact (noStray control).2.2 running exits
  | @call ctx frame _ control enabled =>
    obtain ⟨deleting, last⟩ := evicted control
    have moves := performCall_moves det 0 a enabled
    obtain ⟨tracked, all⟩ := performCall_tracked det wf.inst enabled deleting (noStray control).1
      inv.tracked
    refine ⟨tracked, .inr ⟨moves.stays_deleting wf.inst deleting, ?_⟩, ?_, ?_⟩
    · rw [control]
      exact last
    · intro early
      have init : ctx = .init := by
        rw [control] at early
        cases ctx <;> first | rfl | cases early
      exact all ((noStray control).2.1 init) (inv.early early)
    · intro idle
      have same := control.symm.trans idle
      cases same
  | @await t frame _ call r s control enabled await run =>
    obtain ⟨deleting, last⟩ := evicted control
    have moves := performAwait_moves det t await m.inst
    have tracked := performAwait_tracked det await wf.inst (wf.code _ _ control).task_held inv.tracked
    rw [run] at moves tracked
    refine ⟨tracked, .inr ⟨moves.stays_deleting wf.inst deleting, ?_⟩, ?_, ?_⟩
    · rw [control]
      exact last
    · intro early
      rw [control] at early
      cases early
    · intro idle
      have same := control.symm.trans idle
      cases same
  | @suspend t frame _ call s control enabled await run =>
    obtain ⟨deleting, last⟩ := evicted control
    have moves := performAwait_moves det t await m.inst
    have held := (wf.code _ _ control).task_held
    have tracked := performAwait_tracked det await wf.inst held inv.tracked
    rw [run] at moves tracked
    have wfs := moves.wellFormed wf.inst
    have after := afterAwait_moves det m frame t s
    have kinds : NoStray [.own t, .book, .turn] s := by
      refine ⟨by simp, by simp, .inl ?_, ?_⟩
      · intro root refused
        cases refused with
        | create member | issue member | signal member | spawn member => simp at member
      · rintro t' (own | wake)
        · have same : t' = t := by simpa using own
          exact same ▸ held.moves moves wf.inst fun pop => by simpa using a.kinds_subset det t pop
        · simp at wake
    refine .handleNext det m (after.tracked wfs kinds tracked)
      (after.stays_deleting wfs (moves.stays_deleting wf.inst deleting)) last (fun e raised => ?_)
      fun ctx s run => ?_
    · have kept : (Next.done (.ok none)).kept := trivial
      exact stepNext_kept t kept s e _ (Prod.ext raised rfl)
    cases (stepNext_code run).1

theorem step_tearDown (det : Details σ) {m m' : Machine σ} {l : Label σ} (wf : m.WellFormed)
    (books : TaskBooks m.inst) (inv : TearDown m) (inside : l.inActivation = true)
    (allowed : m.tearsDown det l = true) (h : step det m l = some m') : TearDown m' := by
  cases l with
  | activate jobs isReplaying => cases inside
  | tick => exact tick_tearDown det wf books inv allowed h
  | act a => exact perform_tearDown det wf inv allowed h

/-! ### Main result -/

/-- An instance in any reachable state whose unfinished tasks are all in `_tasks`
is evicted, and workflow code answers in any way except that it creates no task,
that its constructor starts no local activity, that no failure of the workflow
and nothing but an `Exception` leaves a wait condition, the constructor or the
cancellations, and that no coroutine or callback ends with `SystemExit` or
`KeyboardInterrupt`. When `activate` returns, every task ever created is done;
otherwise it raises a `RuntimeError`. -/
theorem eviction_leaves_no_task (det : Details σ) (mem : σ) {m₀ m : Machine σ} {isReplaying : Bool}
    (reachable : Reach det (fun _ _ => True) (Machine.init det mem) m₀)
    (idle₀ : m₀.control = .idle) (alive : m₀.inst.deleting = false)
    (registered : AllRegistered m₀.inst)
    (activation : Reach det (fun m l => l.inActivation = true ∧ m.tearsDown det l = true)
      (m₀.activate [.removeFromCache] isReplaying) m) (idle : m.control = .idle) :
    (∃ completion, m.outcome = some (.returned completion)) ∧
        (∀ t task, m.inst.tasks t = some task → m.inst.isDone t = true) ∨
      ∃ message, m.outcome = some (.raised (.error (.runtimeError message))) := by
  have begun : step det m₀ (.activate [.removeFromCache] isReplaying) =
      some (m₀.activate [.removeFromCache] isReplaying) := by simp [step, idle₀]
  have started := Reach.step reachable trivial begun
  have wf := started.wellFormed (init_wellFormed det mem)
  have all : AllRegistered (m₀.activate [.removeFromCache] isReplaying).inst := registered
  have inv : TearDown (m₀.activate [.removeFromCache] isReplaying) :=
    ⟨all.tracked, .inl ⟨alive, .sets rfl⟩, fun _ => all, fun idle => by cases idle⟩
  have kept := (activation.invariant (I := fun m => TaskBooks m.inst ∧ TearDown m) wf
    ⟨started.taskBooks, inv⟩ ?_).1
  · exact kept.2.ended idle
  · rintro m l m' wf ⟨books, inv⟩ ⟨inside, allowed⟩ h
    exact ⟨step_taskBooks det wf books h, step_tearDown det wf books inv inside allowed h⟩

/-- A workflow waits for an activity. -/
def waitForActivity : List (Label Nat) :=
  Label.activate [.startWorkflow []] false :: List.replicate 6 Label.tick ++ Label.act (.ret 0) ::
    List.replicate 2 Label.tick ++ [Label.act (.startActivity ⟨false, [], none, true, none⟩),
    Label.act (.await 1)] ++ List.replicate 5 Label.tick

/-- When it is evicted it tries to start a local activity. -/
def finallyStartsActivity : List (Label Nat) :=
  List.replicate 11 Label.tick ++ [Label.act (.startActivity ⟨true, [], none, true, none⟩),
    Label.act (.ret 0)] ++ List.replicate 6 Label.tick

theorem eviction_leaves_no_task_finally : ∃ m₀ m,
    run Details.plain (Machine.init Details.plain 0) waitForActivity = some m₀ ∧
    runWhile Details.plain (fun m l => l.inActivation = true ∧ m.tearsDown Details.plain l = true)
      (m₀.activate [.removeFromCache] false) finallyStartsActivity = some m ∧
    m.control = .idle ∧ (m.inst.tasks 2).isSome = true ∧
    ((∃ completion, m.outcome = some (.returned completion)) ∧
        (∀ t task, m.inst.tasks t = some task → m.inst.isDone t = true) ∨
      ∃ message, m.outcome = some (.raised (.error (.runtimeError message)))) := by
  have evaluated : ((run Details.plain (Machine.init Details.plain 0) waitForActivity).bind fun m₀ =>
      (runWhile Details.plain (fun m l => l.inActivation = true ∧ m.tearsDown Details.plain l = true)
        (m₀.activate [.removeFromCache] false) finallyStartsActivity).map fun m =>
          decide (m₀.control = .idle) && !m₀.inst.deleting && decide (m.control = .idle) &&
            (m.inst.tasks 2).isSome) =
      some true := by decide +kernel
  obtain ⟨m₀, waits, evicted⟩ := Option.bind_eq_some_iff.mp evaluated
  obtain ⟨m, tornDown, checked⟩ := Option.map_eq_some_iff.mp evicted
  simp only [Bool.and_eq_true, decide_eq_true_eq, Bool.not_eq_true'] at checked
  obtain ⟨⟨⟨idle₀, alive⟩, idle⟩, refused⟩ := checked
  have registers : ∀ l ∈ waitForActivity, l.registers = true := List.all_eq_true.mp (by decide)
  exact ⟨m₀, m, waits, tornDown, idle, refused,
    eviction_leaves_no_task _ 0 (.of_run waits fun _ _ _ => trivial) idle₀ alive
      (Reach.allRegistered (.of_run waits fun l member _ => registers l member) alive)
      (.of_runWhile tornDown) idle⟩

/-- When it is evicted it creates a task, which then waits for a future that
nobody completes. -/
def finallyCreatesTask : List (Label Nat) :=
  List.replicate 11 Label.tick ++ [Label.act .createTask, Label.act (.ret 0), Label.tick,
    Label.act (.createFuture .user), Label.act (.await 3)] ++ List.replicate 5 Label.tick

theorem refused_task_is_left_behind : ∃ m₀ m,
    Reach Details.plain (fun _ _ => True) (Machine.init Details.plain 0) m₀ ∧
    m₀.control = .idle ∧ m₀.inst.deleting = false ∧
    Reach Details.plain (fun _ l => l.inActivation = true)
      (m₀.activate [.removeFromCache] false) m ∧
    m.control = .idle ∧ m.outcome = some (.returned (.successful [])) ∧
    (∃ task, m.inst.tasks 2 = some task) ∧ m.inst.isDone 2 = false := by
  have evaluated : ((run Details.plain (Machine.init Details.plain 0) waitForActivity).bind fun m₀ =>
      (run Details.plain (m₀.activate [.removeFromCache] false) finallyCreatesTask).map fun m =>
        decide (m₀.control = .idle) && !m₀.inst.deleting && decide (m.control = .idle) &&
          decide (m.outcome = some (.returned (.successful []))) && (m.inst.tasks 2).isSome &&
          !m.inst.isDone 2) =
      some true := by decide +kernel
  obtain ⟨m₀, waits, evicted⟩ := Option.bind_eq_some_iff.mp evaluated
  obtain ⟨m, ran, checked⟩ := Option.map_eq_some_iff.mp evicted
  simp only [Bool.and_eq_true, decide_eq_true_eq, Bool.not_eq_true'] at checked
  obtain ⟨⟨⟨⟨⟨idle₀, alive⟩, idle⟩, outcome⟩, isTask⟩, pending⟩ := checked
  have inside : ∀ l ∈ finallyCreatesTask, l.inActivation = true :=
    List.all_eq_true.mp (by decide)
  exact ⟨m₀, m, .of_run waits fun _ _ _ => trivial, idle₀, alive,
    .of_run ran fun l member _ => inside l member, idle, outcome,
    Option.isSome_iff_exists.mp isTask, pending⟩

end TemporalSdk.Workflow
