import TemporalSdk.Workflow.Moves

/-!
# The loop and the outbound calls as moves

Which atoms each operation of `Loop` and `Outbound` is made of. An operation of
the loop is allowed for anyone; a coroutine that works on task `t` needs
`Kind.own t`, an outbound call `Kind.issue`, and one whose command may stay
without registration `Kind.broken`.
-/
namespace TemporalSdk.Workflow

open Eff

variable {σ : Type}

/-! ### Making tasks -/

theorem newTask_run (root : Root) (s : Inst σ) :
    newTask root s =
      if s.readOnly then (.error (.error (.readOnlyContext "schedule task")), s)
      else (.ok s.nextFut, s.spawned root) := by
  cases readOnly : s.readOnly with
  | true => simp [newTask, bind_run, callSoon_run, readOnly]
  | false =>
    rw [newTask, state_bind_run, bind_ok (by rw [callSoon_run, readOnly]; rfl)]
    rfl

theorem registerTask_run {s : Inst σ} (writable : s.readOnly = false) {t : FutId}
    (pending : s.isDone t = false) :
    registerTask t s =
      if s.deleting then (.error .workflowBeingEvicted, s)
      else (.ok (), { s.setFut t { s.futs t with callbacks := (s.futs t).callbacks ++ [.tasksRemove] }
        with registered := s.registered ++ [t] }) := by
  have pending' : ({ s with registered := s.registered ++ [t] } : Inst σ).isDone t = false := pending
  cases deleting : s.deleting with
  | true => simp [registerTask, bind_run, assertNotReadOnly_run, deleting]
  | false =>
    have guard : assertNotReadOnly "create task" false s = (.ok (), s) := by
      simp [assertNotReadOnly_run, deleting, writable]
    rw [registerTask, bind_ok guard]
    simp [addDoneCallback, pending', Inst.setFut]

/-- `create_task` outside a read-only context: during eviction the task is made
before its registration is refused. -/
theorem createTask_run (root : Root) {s : Inst σ} (writable : s.readOnly = false) :
    createTask root s =
      if s.deleting then (.error .workflowBeingEvicted, s.spawned root)
      else (.ok s.nextFut, s.created root) := by
  have spawns : newTask root s = (.ok s.nextFut, s.spawned root) := by
    rw [newTask_run, writable]
    rfl
  have pending : (s.spawned root).isDone s.nextFut = false := by
    simp [Inst.isDone, Inst.spawned, FutState.done]
  rw [createTask, bind_ok spawns, bind_run, registerTask_run (by exact writable) pending]
  cases deleting : s.deleting with
  | true =>
    have deleting' : (s.spawned root).deleting = true := deleting
    rw [deleting']
    rfl
  | false =>
    have deleting' : (s.spawned root).deleting = false := deleting
    rw [deleting']
    simp [Inst.spawned, Inst.created, Inst.setFut]

theorem createTask_readOnly (root : Root) {s : Inst σ} (readOnly : s.readOnly = true) :
    createTask root s = (.error (.error (.readOnlyContext "schedule task")), s) := by
  rw [createTask, bind_error (by rw [newTask_run, readOnly]; rfl)]


/-! ### Conversions -/

theorem raiseError_ok {α : Type} {x : Except Error α} {s s' : Inst σ} {a : α}
    (h : raiseError x s = (.ok a, s')) : x = .ok a ∧ s' = s := by
  cases x with
  | error e => simp [raiseError] at h
  | ok b =>
    simp only [raiseError, pure_run, Prod.mk.injEq, Except.ok.injEq] at h
    exact ⟨by rw [h.1], h.2.symm⟩

section Conversions

variable {R : Inst σ → Inst σ → Prop} [Std.Refl R]

theorem raiseError_steady {α : Type} (x : Except Error α) :
    Steady R (raiseError x : Wf σ α) := by
  unfold raiseError
  split
  · exact .pure _
  · exact .raise _

theorem convertArgs_steady (det : Details σ) (args : List Obj) :
    Steady R (convertArgs det args : Wf σ (List Payload)) := by
  unfold convertArgs
  split
  · exact .pure _
  · exact raiseError_steady _

theorem applyRetryPolicy_steady (policy : Option RetryPolicy) :
    Steady R (applyRetryPolicy policy : Wf σ Unit) := by
  unfold applyRetryPolicy
  split
  · exact raiseError_steady _
  · exact .pure _

end Conversions

variable {K : List Kind}

/-! ### Operations of the loop -/

theorem assertNotReadOnly_moves (action : String) (allow : Bool) :
    Steady (Moves K) (assertNotReadOnly action allow : Wf σ Unit) := by
  intro s
  rw [assertNotReadOnly_run]
  exact Std.Refl.refl s

/-- A program that starts with the guard against read-only contexts and eviction. -/
theorem guard_moves {α : Type} {action : String} {x : Unit → Wf σ α}
    (rest : ∀ s : Inst σ, s.open = true → Moves K s (x () s).2) :
    Steady (Moves K) (assertNotReadOnly action false >>= x) := by
  intro s
  refine bind_steady_at (assertNotReadOnly_moves action false s) fun _ s' run => ?_
  rw [assertNotReadOnly_run] at run
  refine rest s' ?_
  cases deleting : s.deleting <;> cases readOnly : s.readOnly <;>
    simp_all [Inst.open]

theorem callSoon_moves {k : Kind} (member : k ∈ Kind.loop :: K) {h : Handle}
    (atom : ∀ s : Inst σ, s.readOnly = false → Atom k s (s.pushReady h)) :
    Steady (Moves K) (callSoon h : Wf σ Unit) := by
  intro s
  rw [callSoon_run]
  split
  · exact Std.Refl.refl s
  next writable => exact .of_atom member (atom s (by simpa using writable))

theorem callSoonUser_moves : Steady (Moves K) (callSoonUser : Wf σ Nat) := by
  intro s
  simp only [callSoonUser, state_bind_run]
  cases readOnly : s.readOnly with
  | true =>
    rw [bind_error (by rw [callSoon_run, readOnly]; rfl)]
    exact Std.Refl.refl s
  | false =>
    rw [bind_ok (by rw [callSoon_run, readOnly]; rfl)]
    exact .of_atom (k := .loop) (by simp) (.callSoon s readOnly)

theorem callLater_run (delay : Int) (callback : TimerCallback) (s : Inst σ) :
    callLater delay callback s =
      if s.open = false then
        ((assertNotReadOnly "schedule timer" false s).1.map fun _ => 0, s)
      else if delay < 0 then
        (.error (.error (.runtimeError "Attempting to schedule timer with negative delay")), s)
      else if timerHolds delay then
        (.ok (s.currSeqs .timer + 1), s.timed delay callback)
      else (.error (.error (.valueError "Value out of range")), s.timerRefused delay) := by
  cases isOpen : s.open with
  | false =>
    cases deleting : s.deleting <;> cases readOnly : s.readOnly <;>
      simp_all [callLater, bind_run, assertNotReadOnly_run, Inst.open, Except.map]
  | true =>
    have guard : assertNotReadOnly "schedule timer" false s = (.ok (), s) := by
      cases deleting : s.deleting <;> cases readOnly : s.readOnly <;>
        simp_all [assertNotReadOnly_run, Inst.open]
    rw [callLater, bind_ok guard]
    split
    · simp
    next positive =>
      have isOpen' : ({ s with currSeqs := Function.update s.currSeqs .timer (s.currSeqs .timer + 1) } :
          Inst σ).open = true := isOpen
      simp only [nextSeq, bind_run, state_run, update_run, pure_run, addCommand_open isOpen',
        ofExcept_run, timerTimeout]
      by_cases holds : timerHolds delay = true
      · rw [if_pos holds, if_pos holds]
        simp [Inst.pushCommand, Inst.log, Inst.setTimer, Inst.timed]
      · rw [if_neg holds, if_neg holds]
        simp [Inst.pushCommand, Inst.log, Inst.timerRefused]

theorem callLater_moves {delay : Int} (timer : Kind.timer ∈ K)
    (refused : timerHolds delay = false → Kind.refused ∈ K) :
    Steady (Moves K) (callLater delay .user : Wf σ Nat) := by
  intro s
  rw [callLater_run]
  split
  · exact Std.Refl.refl s
  next isOpen =>
    have isOpen : s.open = true := by simpa using isOpen
    split
    · exact Std.Refl.refl s
    · split
      · exact .of_atom (by simp [timer]) (.timer s delay isOpen)
      next holds =>
        have refused := refused (by simpa using holds)
        exact .of_atom (by simp [refused]) (.refusedTimer s delay isOpen)

theorem timerHandleCancelled_run {seq : Nat} {s : Inst σ} (pending : s.pendingTimers seq = true) :
    timerHandleCancelled seq s =
      if s.open then (.ok (), { s with
        pendingTimers := Function.update s.pendingTimers seq false
        commands := s.commands ++ [.cancelTimer seq]
        trace := s.trace ++ [.timerCancelled seq] })
      else ((assertNotReadOnly "add command" false s).1.map fun _ => (),
        { s with pendingTimers := Function.update s.pendingTimers seq false }) := by
  have sameOpen : ({ s with pendingTimers := Function.update s.pendingTimers seq false } :
      Inst σ).open = s.open := rfl
  simp only [timerHandleCancelled, state_bind_run, pending, if_true, update_bind_run]
  cases isOpen : s.open with
  | true =>
    rw [bind_ok (addCommand_open (sameOpen.trans isOpen))]
    rfl
  | false =>
    rw [bind_run, addCommand_run, sameOpen, isOpen]
    cases deleting : s.deleting <;> cases readOnly : s.readOnly <;>
      simp_all [Inst.open, assertNotReadOnly_run, Except.map]

theorem timerCancel_run (seq : Nat) (s : Inst σ) :
    timerCancel seq s =
      if (s.timers seq).cancelled then (.ok (), s)
      else if s.pendingTimers seq = false then
        (.ok (), s.setTimer seq { s.timers seq with cancelled := true })
      else if s.open then (.ok (), s.timerCancelled seq)
      else ((assertNotReadOnly "add command" false s).1.map fun _ => (),
        { s with pendingTimers := Function.update s.pendingTimers seq false }) := by
  simp only [timerCancel, state_bind_run]
  cases cancelled : (s.timers seq).cancelled with
  | true => simp
  | false =>
    cases pending : s.pendingTimers seq with
    | false => simp [timerHandleCancelled, bind_run, pending]
    | true =>
      simp only [Bool.false_eq_true, if_false]
      rw [bind_run, timerHandleCancelled_run pending]
      cases isOpen : s.open with
      | true => rfl
      | false =>
        cases deleting : s.deleting <;> cases readOnly : s.readOnly <;>
          simp_all [Inst.open, assertNotReadOnly_run, Except.map]

theorem timerCancel_moves {k : Kind} (member : k ∈ K) {seq : Nat} {s : Inst σ}
    (owns : k.ownsTimer (s.timers seq)) : Moves K s (timerCancel seq s).2 := by
  rw [timerCancel_run]
  split
  · exact Std.Refl.refl s
  · split
    next notPending => exact .of_atom (by simp [member]) (.markTimer s owns notPending)
    next pending =>
      have pending' : s.pendingTimers seq = true := by simpa using pending
      split
      next isOpen => exact .of_atom (by simp [member]) (.cancelTimer s owns isOpen pending')
      next closed =>
        exact .of_atom (by simp [member]) (.dropTimer s owns (by simpa using closed) pending')

theorem createFuture_moves {role : FutRole} (ofUser : role.ofUser = true) :
    Steady (Moves K) (createFuture role : Wf σ FutId) :=
  .read fun _ => .bind (atom_steady (k := .loop) (by simp) fun s => .newFut s ofUser) fun _ =>
    .pure _

/-- Workflow code completes only futures of its own. -/
theorem setOutcome_moves {s : Inst σ} {f : FutId} {new : FutState} (done : new.done = true)
    (ofUser : (s.futs f).role.ofUser = true) : Moves K s (setOutcome f new s).2 := by
  intro wf
  have notTask : s.tasks f = none := by
    cases isTask : s.tasks f with
    | none => rfl
    | some task =>
      rw [(wf.task f task isTask).2] at ofUser
      cases ofUser
  simp only [setOutcome, state_bind_run]
  split
  · exact .refl
  next pending =>
    rw [settle_state]
    exact Moves.of_atom (k := .loop) (by simp)
      (.settle s done (by simpa using pending) notTask (.inr ofUser)) wf

theorem addDoneCallback_moves (f : FutId) {cb : Callback} (plain : cb.plain = true) :
    Steady (Moves K) (addDoneCallback f cb : Wf σ Unit) := by
  refine .read fun s => ?_
  split
  · exact callSoon_moves (k := .loop) (by simp) fun s writable => .push s writable plain
  · exact atom_steady (k := .loop) (by simp) fun s => .addCallback s f plain

theorem cancelOuter_moves {o : OuterId} {s : Inst σ}
    (waits : ∃ t task, s.tasks t = some task ∧ task.point.waiter = .outer o) :
    Moves K s (cancelOuter o s).2 := by
  rw [cancelOuter_run]
  split
  next pending => exact .of_atom (k := .loop) (by simp) (.cancelOuter s pending waits)
  · exact Std.Refl.refl s

theorem createUserTask_moves (create : Kind.create ∈ K) :
    Steady (Moves K) (createTask .user : Wf σ FutId) := by
  intro s
  cases readOnly : s.readOnly with
  | true =>
    rw [createTask_readOnly _ readOnly]
    exact Std.Refl.refl s
  | false =>
    rw [createTask_run _ readOnly]
    split
    next evicting => exact .of_atom (by simp [create]) (.strayUser s evicting readOnly)
    next alive =>
      exact .of_atom (by simp [create]) (.createUser s (by simp [Inst.open, alive, readOnly]))

theorem newUserTask_moves (bare : Kind.bare ∈ K) :
    Steady (Moves K) (newTask .user : Wf σ FutId) := by
  intro s
  rw [newTask_run]
  split
  · exact Std.Refl.refl s
  next writable =>
    exact .of_atom (by simp [bare]) (.bareUser s (Bool.eq_false_iff.mpr writable))

/-! ### Cancellation -/

theorem activityHandleCancel_moves {t : FutId} {task : Task} {s : Inst σ}
    (isTask : s.tasks t = some task) (isActivity : task.root = .activity) :
    Moves K s (activityHandleCancel t s).2 := by
  simp only [activityHandleCancel, state_bind_run]
  split
  · exact Std.Refl.refl s
  · refine bind_steady_at (assertNotReadOnly_moves _ _ s) fun _ s' run => ?_
    have same : s' = s := by
      rw [assertNotReadOnly_run, Prod.mk.injEq] at run
      exact run.2.symm
    subst same
    split
    next early =>
      simp only [Bool.and_eq_true, Bool.not_eq_true'] at early
      refine bind_steady_at ?_ fun _ s' _ => Steady.pure _ s'
      rw [addCommand_run]
      split
      next isOpen =>
        exact .of_atom (k := .loop) (by simp)
          (.cancelActivity s' isTask isActivity isOpen early.1 early.2)
      · exact Std.Refl.refl s'
    · exact Steady.pure _ s'

theorem overriddenCancel_moves {t : FutId} {task : Task} {s : Inst σ}
    (isTask : s.tasks t = some task) : Moves K s (overriddenCancel t task.root s).2 := by
  cases root : task.root with
  | activity => exact activityHandleCancel_moves isTask root
  | _ => exact Steady.pure _ s

theorem overriddenCancel_keeps {t : FutId} {root : Root} {s s' : Inst σ} {r : Except Exc Unit}
    (run : overriddenCancel t root s = (r, s')) : s'.tasks = s.tasks ∧ s'.futs = s.futs := by
  have added (c : Command) : (addCommand c s).2.tasks = s.tasks ∧ (addCommand c s).2.futs = s.futs := by
    rw [addCommand_run]
    split <;> exact ⟨rfl, rfl⟩
  have same : s' = (overriddenCancel t root s).2 := by rw [run]
  subst same
  cases root with
  | activity =>
    simp only [overriddenCancel, activityHandleCancel, state_bind_run]
    split
    · exact ⟨rfl, rfl⟩
    · rw [bind_run, assertNotReadOnly_run]
      split
      next guarded =>
        rw [Prod.mk.injEq] at guarded
        rw [← guarded.2]
        split
        · rw [bind_run]
          have kept := added (s.activities t).cancelCommand
          cases command : addCommand (s.activities t).cancelCommand s with
          | mk r s₁ =>
            rw [command] at kept
            cases r <;> exact kept
        · exact ⟨rfl, rfl⟩
      next guarded =>
        rw [Prod.mk.injEq] at guarded
        rw [← guarded.2]
        exact ⟨rfl, rfl⟩
  | _ => exact ⟨rfl, rfl⟩

theorem waiterCancel_moves {cancelFut : FutId → Wf σ Bool}
    (h : ∀ f, Steady (Moves K) (cancelFut f)) {t : FutId} {task : Task} {s : Inst σ}
    (isTask : s.tasks t = some task) :
    Moves K s (waiterCancel cancelFut task.point.waiter s).2 := by
  cases waiter : task.point.waiter with
  | none => exact Std.Refl.refl s
  | fut f => exact h f s
  | outer o => exact cancelOuter_moves ⟨t, task, isTask, waiter⟩

/-- A request that was not passed on to an outer future found it settled. -/
theorem waiterCancel_settled {cancelFut : FutId → Wf σ Bool} {waiter : Waiter} {s s' : Inst σ}
    (run : waiterCancel cancelFut waiter s = (.ok false, s')) {o : OuterId}
    (isOuter : waiter = .outer o) : (s'.outers o).state ≠ .pending := by
  subst isOuter
  rw [waiterCancel, cancelOuter_run] at run
  split at run
  · rw [Prod.mk.injEq] at run
    split at run <;> simp at run
  next settled =>
    rw [Prod.mk.injEq] at run
    rw [← run.2]
    exact settled

/-- `Task.cancel`. Cancelling what the task waits on does not move the task, so
`_must_cancel` is only set if the wait on an outer future is over. -/
theorem taskCancel_moves {cancelFut : FutId → Wf σ Bool}
    (h : ∀ f, Steady (Moves []) (cancelFut f)) {t : FutId} {task : Task} {s : Inst σ}
    (isTask : s.tasks t = some task) (alive : s.isDone t = false) :
    Moves [] s (taskCancel cancelFut t task.point.waiter s).2 := by
  intro wf
  simp only [taskCancel, update_bind_run, Inst.mapTask, isTask]
  have requested : Moves [] s (s.setTask t { task with cancelling := task.cancelling + 1 }) :=
    .of_atom (k := .loop) (by simp) (.request s isTask alive)
  have isTask' : (s.setTask t { task with cancelling := task.cancelling + 1 }).tasks t =
      some { task with cancelling := task.cancelling + 1 } := by simp [Inst.setTask]
  have wf₁ := requested.wellFormed wf
  generalize s.setTask t { task with cancelling := task.cancelling + 1 } = s₁
    at requested isTask' wf₁ ⊢
  have moved : Moves [] s₁ _ := waiterCancel_moves h isTask'
  refine requested.trans (bind_steady_at moved fun passedOn s₂ run => ?_) wf
  rw [run] at moved
  obtain ⟨task₂, isTask₂, -, point⟩ := moved.point wf₁ (by simp) (by simp) isTask'
  cases passedOn with
  | true => exact Steady.pure _ s₂
  | false =>
    refine bind_steady_at ?_ fun _ s₃ _ => Steady.pure _ s₃
    rw [update_run]
    dsimp only
    rw [isTask₂]
    refine .of_atom (k := .loop) (by simp) (.mustCancel s₂ isTask₂ fun o isOuter => ?_)
    rw [point] at isOuter
    exact waiterCancel_settled run isOuter

theorem cancelChildren_moves {cancelChild : FutId → Wf σ Bool}
    (h : ∀ f, Steady (Moves K) (cancelChild f)) (children : List FutId) (requested : Bool) :
    Steady (Moves K) (children.foldlM (fun requested child => do
      let r ← cancelChild child
      pure (requested || r)) requested) := by
  induction children generalizing requested with
  | nil => exact .pure _
  | cons child children ih => exact .bind (.bind (h child) fun _ => .pure _) ih

theorem futureCancel_moves {cancelChild : FutId → Wf σ Bool}
    (h : ∀ f, Steady (Moves K) (cancelChild f)) {f : FutId} {s : Inst σ}
    (pending : s.isDone f = false) (notTask : s.tasks f = none) :
    Moves K s (futureCancel cancelChild f (s.futs f).role s).2 := by
  cases (s.futs f).role with
  | gather children => exact cancelChildren_moves h _ false s
  | _ =>
    refine bind_steady_at ?_ fun _ s₁ _ => Steady.pure _ s₁
    rw [settle_state]
    exact .of_atom (k := .loop) (by simp) (.settle s rfl pending notTask (.inl rfl))

/-- `cancel` follows the chain of waiters, and each link is the loop's. -/
theorem cancel_moves (fuel : Nat) (f : FutId) :
    Steady (Moves []) (cancel fuel f : Wf σ Bool) := by
  induction fuel generalizing f with
  | zero => exact .raise _
  | succ fuel ih =>
    intro s
    simp only [cancel, state_bind_run]
    cases isTask : s.tasks f with
    | none =>
      cases done : s.isDone f with
      | true => exact Std.Refl.refl s
      | false => exact futureCancel_moves ih done isTask
    | some task =>
      intro wf
      refine bind_steady_at (overriddenCancel_moves isTask) (fun _ s₁ run => ?_) wf
      -- a subclass only adds a command before `super().cancel`
      obtain ⟨sameTasks, sameFuts⟩ := overriddenCancel_keeps run
      cases done : s.isDone f with
      | true => exact Steady.pure _ s₁
      | false =>
        exact taskCancel_moves ih (by rw [sameTasks]; exact isTask)
          (by rw [Inst.isDone, sameFuts]; exact done)

theorem cancelFut_moves (f : FutId) : Steady (Moves K) (cancelFut f : Wf σ Bool) :=
  .read fun _ => moves_mono (cancel_moves _ f) (by simp)

end TemporalSdk.Workflow
