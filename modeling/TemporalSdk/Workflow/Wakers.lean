import TemporalSdk.Workflow.Calls

/-!
# What wakes an activity

The coroutine of an activity handle waits for one thing at a time, and the queue
holds at most one handle that makes it go on: its first step, the step after a
bare yield, or the wake-up of the outer future it stands at. `Woken` says so of a
state. No other coroutine can break it, so only the steps of the activity itself
have to be looked at.
-/
namespace TemporalSdk.Workflow

open Eff

variable {σ : Type}

/-- Something is going to complete the outer future. -/
def Inst.armed (s : Inst σ) (o : OuterId) : Prop :=
  (s.outers o).source.isSome ∨ ∃ seq, (s.timers seq).callback = .sleep o

/-- An outer future that may still wake its owner. -/
def Inst.live (s : Inst σ) (o : OuterId) : Prop :=
  (s.outers o).state = .pending ∧ s.armed o ∨ .outerWakeup o ∈ s.ready

/-- A task that is there and is not the handle of an activity. -/
def Inst.coded (s : Inst σ) (t : FutId) : Prop :=
  ∃ task, s.tasks t = some task ∧ task.root ≠ .activity

structure Woken (s : Inst σ) : Prop where
  step : ∀ t, .taskStep t ∈ s.ready → ∃ task, s.tasks t = some task ∧
    (task.root = .activity → task.point.waiter = .none ∧ s.ready.count (.taskStep t) ≤ 1)
  callback : ∀ t f, .callback (.wakeup t) f ∈ s.ready → s.coded t
  attached : ∀ t f, .wakeup t ∈ (s.futs f).callbacks → s.coded t
  bound : ∀ o, .outerWakeup o ∈ s.ready → o < s.nextOuter
  outer : ∀ o < s.nextOuter, ∃ task, s.tasks (s.outers o).owner = some task ∧
    (task.root = .activity → s.ready.count (.outerWakeup o) ≤ 1 ∧
      ((s.outers o).state = .pending → .outerWakeup o ∉ s.ready) ∧
      (s.live o → task.point.waiter = .outer o))

/-- A handle that makes no activity go on. -/
def Handle.spares (s : Inst σ) : Handle → Prop
  | .taskStep t => s.coded t
  | .callback (.wakeup t) _ => s.coded t
  | .outerWakeup _ => False
  | _ => True

/-- Tasks keep their kind, and activities stand where they stood. -/
def KeepsActivities (s s' : Inst σ) : Prop :=
  ∀ t task, s.tasks t = some task → ∃ task', s'.tasks t = some task' ∧ task'.root = task.root ∧
    (task.root = .activity → task'.point = task.point)

theorem KeepsActivities.of_eq {s s' : Inst σ} (tasks : s'.tasks = s.tasks) :
    KeepsActivities s s' :=
  fun _ task isTask => ⟨task, tasks ▸ isTask, rfl, fun _ => rfl⟩

theorem KeepsActivities.made {s s' : Inst σ} (wf : s.WellFormed) {new : Task}
    (tasks : s'.tasks = Function.update s.tasks s.nextFut (some new)) : KeepsActivities s s' := by
  intro t task isTask
  refine ⟨task, ?_, rfl, fun _ => rfl⟩
  rw [tasks, Function.update_of_ne (Nat.ne_of_lt (wf.task t task isTask).1), isTask]

theorem KeepsActivities.setTask {s : Inst σ} {t : FutId} {task new : Task}
    (isTask : s.tasks t = some task) (root : new.root = task.root)
    (point : task.root = .activity → new.point = task.point) :
    KeepsActivities s (s.setTask t new) := by
  intro t' task' isTask'
  by_cases same : t' = t
  · subst same
    rw [isTask, Option.some.injEq] at isTask'
    subst isTask'
    exact ⟨new, Function.update_self _ _ _, root, point⟩
  · exact ⟨task', (Function.update_of_ne same _ _).trans isTask', rfl, fun _ => rfl⟩

theorem KeepsActivities.coded {s s' : Inst σ} (h : KeepsActivities s s') {t : FutId}
    (coded : s.coded t) : s'.coded t := by
  obtain ⟨task, isTask, other⟩ := coded
  obtain ⟨task', isTask', root, -⟩ := h t task isTask
  exact ⟨task', isTask', root ▸ other⟩

/-- A change in which no activity gets a new waker. -/
theorem Woken.frame {s s' : Inst σ} (woken : Woken s) (tasks : KeepsActivities s s')
    (ready : ∀ h, s'.ready.count h ≤ s.ready.count h ∨ h.spares s')
    (attached : ∀ t f, .wakeup t ∈ (s'.futs f).callbacks →
      .wakeup t ∈ (s.futs f).callbacks ∨ s'.coded t)
    (nextOuter : s.nextOuter ≤ s'.nextOuter)
    (outers : ∀ o < s.nextOuter, s'.outers o = s.outers o)
    (timers : ∀ seq o, (s'.timers seq).callback = .sleep o →
      (s.timers seq).callback = .sleep o ∨ s'.coded (s'.outers o).owner)
    (new : ∀ o, s.nextOuter ≤ o → o < s'.nextOuter → s'.coded (s'.outers o).owner) : Woken s' := by
  have queued {h : Handle} (fewer : s'.ready.count h ≤ s.ready.count h) (member : h ∈ s'.ready) :
      h ∈ s.ready :=
    List.count_pos_iff.mp ((List.count_pos_iff.mpr member).trans_le fewer)
  constructor
  · intro t member
    rcases ready (.taskStep t) with fewer | ⟨task, isTask, other⟩
    · obtain ⟨task, isTask, stands⟩ := woken.step t (queued fewer member)
      obtain ⟨task', isTask', root, point⟩ := tasks t task isTask
      refine ⟨task', isTask', fun isActivity => ?_⟩
      rw [root] at isActivity
      obtain ⟨waiter, once⟩ := stands isActivity
      exact ⟨by rw [point isActivity]; exact waiter, fewer.trans once⟩
    · exact ⟨task, isTask, fun isActivity => absurd isActivity other⟩
  · intro t f member
    rcases ready (.callback (.wakeup t) f) with fewer | coded
    · exact tasks.coded (woken.callback t f (queued fewer member))
    · exact coded
  · intro t f member
    rcases attached t f member with old | coded
    · exact tasks.coded (woken.attached t f old)
    · exact coded
  · intro o member
    rcases ready (.outerWakeup o) with fewer | impossible
    · exact (woken.bound o (queued fewer member)).trans_le nextOuter
    · exact impossible.elim
  · intro o bound
    by_cases old : o < s.nextOuter
    · obtain ⟨task, isTask, stands⟩ := woken.outer o old
      obtain ⟨task', isTask', root, point⟩ := tasks _ task isTask
      have sleeps (seq : Nat) (callback : (s'.timers seq).callback = .sleep o)
          (isActivity : task'.root = .activity) : (s.timers seq).callback = .sleep o := by
        refine (timers seq o callback).resolve_right fun coded => ?_
        obtain ⟨task'', isTask'', other⟩ := coded
        rw [outers o old, isTask', Option.some.injEq] at isTask''
        exact other (isTask'' ▸ isActivity)
      rw [outers o old]
      refine ⟨task', isTask', fun isActivity => ?_⟩
      obtain ⟨once, pending, waiter⟩ := stands (root ▸ isActivity)
      rcases ready (.outerWakeup o) with fewer | impossible
      · refine ⟨fewer.trans once, fun isPending member => pending isPending (queued fewer member),
          fun live => ?_⟩
        rw [point (root ▸ isActivity)]
        apply waiter
        rw [Inst.live, Inst.armed, outers o old] at live
        rcases live with ⟨isPending, source | ⟨seq, callback⟩⟩ | member
        · exact .inl ⟨isPending, .inl source⟩
        · exact .inl ⟨isPending, .inr ⟨seq, sleeps seq callback isActivity⟩⟩
        · exact .inr (queued fewer member)
      · exact impossible.elim
    · obtain ⟨task, isTask, other⟩ := new o (Nat.le_of_not_lt old) bound
      exact ⟨task, isTask, fun isActivity => absurd isActivity other⟩

theorem count_append_of_spares {s' : Inst σ} {hs new : List Handle}
    (spares : ∀ h ∈ new, h.spares s') (h : Handle) :
    (hs ++ new).count h ≤ hs.count h ∨ h.spares s' := by
  by_cases member : h ∈ new
  · exact .inr (spares h member)
  · exact .inl (by rw [List.count_append, List.count_eq_zero_of_not_mem member, Nat.add_zero])

/-- An activity stands at the outer future that is going to be completed. -/
theorem Woken.stands {s : Inst σ} (woken : Woken s) {o : OuterId} (bound : o < s.nextOuter)
    (pending : (s.outers o).state = .pending) (armed : s.armed o) (task : Task)
    (isTask : s.tasks (s.outers o).owner = some task) (isActivity : task.root = .activity) :
    task.point.waiter = .outer o := by
  obtain ⟨task', isTask', ready⟩ := woken.outer o bound
  rw [isTask, Option.some.injEq] at isTask'
  subst isTask'
  exact (ready isActivity).2.2 (.inl ⟨pending, armed⟩)

/-- An outer future that was pending is completed. -/
theorem Woken.outerSettled {s : Inst σ} (woken : Woken s) {o : OuterId}
    (pending : (s.outers o).state = .pending) (bound : o < s.nextOuter)
    (stands : ∀ task, s.tasks (s.outers o).owner = some task → task.root = .activity →
      task.point.waiter = .outer o) (new : OuterState) (done : new ≠ .pending) :
    Woken (s.outerSettled o new) := by
  have others {h : Handle} (notShield : h ≠ .shieldOuter o) (notWake : h ≠ .outerWakeup o) :
      (s.outerSettled o new).ready.count h = s.ready.count h := by
    simp only [Inst.outerSettled, Inst.pushAll, Inst.setOuter]
    split
    · rw [List.append_nil]
    · split <;> simp [notShield.symm, notWake.symm]
  have woke : (s.outerSettled o new).ready.count (.outerWakeup o) ≤
      s.ready.count (.outerWakeup o) + 1 := by
    simp only [Inst.outerSettled, Inst.pushAll, Inst.setOuter]
    split
    · rw [List.append_nil]
      exact Nat.le_succ _
    · split <;> simp
  have queued {h : Handle} (notShield : h ≠ .shieldOuter o) (notWake : h ≠ .outerWakeup o)
      (member : h ∈ (s.outerSettled o new).ready) : h ∈ s.ready := by
    have positive := List.count_pos_iff.mpr member
    rw [others notShield notWake] at positive
    exact List.count_pos_iff.mp positive
  constructor
  · intro t member
    obtain ⟨task, isTask, stands⟩ := woken.step t (queued (by simp) (by simp) member)
    refine ⟨task, isTask, fun isActivity => ?_⟩
    rw [others (by simp) (by simp)]
    exact stands isActivity
  · exact fun t f member => woken.callback t f (queued (by simp) (by simp) member)
  · exact woken.attached
  · intro o' member
    change o' < s.nextOuter
    by_cases here : o' = o
    · rwa [here]
    · exact woken.bound o' (queued (by simp) (by simp [here]) member)
  · intro o' bound'
    by_cases here : o' = o
    · subst here
      obtain ⟨task, isTask, ready⟩ := woken.outer o' bound
      have owner : ((s.outerSettled o' new).outers o').owner = (s.outers o').owner := by
        simp [Inst.outerSettled, Inst.pushAll, Inst.setOuter]
      have state : ((s.outerSettled o' new).outers o').state = new := by
        simp [Inst.outerSettled, Inst.pushAll, Inst.setOuter]
      rw [owner, state]
      refine ⟨task, isTask, fun isActivity => ?_⟩
      obtain ⟨-, fresh, -⟩ := ready isActivity
      have none : s.ready.count (.outerWakeup o') = 0 := List.count_eq_zero_of_not_mem (fresh pending)
      exact ⟨by omega, fun isPending => absurd isPending done,
        fun _ => stands task isTask isActivity⟩
    · have same : (s.outerSettled o new).outers o' = s.outers o' := by
        simp [Inst.outerSettled, Inst.pushAll, Inst.setOuter, here]
      obtain ⟨task, isTask, ready⟩ := woken.outer o' bound'
      rw [same]
      refine ⟨task, isTask, fun isActivity => ?_⟩
      obtain ⟨once, fresh, waiter⟩ := ready isActivity
      refine ⟨by rwa [others (by simp) (by simp [here])], fun isPending member =>
        fresh isPending (queued (by simp) (by simp [here]) member), fun live => waiter ?_⟩
      rw [Inst.live, Inst.armed, same] at live
      exact live.imp_right (queued (by simp) (by simp [here]))

/-! ### Outer futures are where tasks and timers say -/

structure Placed (s : Inst σ) : Prop where
  waits : ∀ t task o, s.tasks t = some task → task.point.waiter = .outer o →
    o < s.nextOuter ∧ (s.outers o).owner = t
  source : ∀ o, s.nextOuter ≤ o → (s.outers o).source = none
  sleeps : ∀ seq o, (s.timers seq).callback = .sleep o → o < s.nextOuter

theorem Placed.step {s s' : Inst σ} (placed : Placed s)
    (tasks : ∀ t task o, s'.tasks t = some task → task.point.waiter = .outer o →
      (∃ task', s.tasks t = some task' ∧ task'.point.waiter = .outer o) ∨
        o < s'.nextOuter ∧ (s'.outers o).owner = t)
    (nextOuter : s.nextOuter ≤ s'.nextOuter)
    (owners : ∀ o < s.nextOuter, (s'.outers o).owner = (s.outers o).owner)
    (sources : ∀ o, s'.nextOuter ≤ o → (s'.outers o).source = (s.outers o).source)
    (timers : ∀ seq o, (s'.timers seq).callback = .sleep o →
      (s.timers seq).callback = .sleep o ∨ o < s'.nextOuter) : Placed s' where
  waits t task o isTask waits := by
    rcases tasks t task o isTask waits with ⟨task', isTask', waits'⟩ | new
    · obtain ⟨bound, owner⟩ := placed.waits t task' o isTask' waits'
      exact ⟨bound.trans_le nextOuter, (owners o bound).trans owner⟩
    · exact new
  source o bound := by
    rw [sources o bound]
    exact placed.source o (nextOuter.trans bound)
  sleeps seq o callback := by
    rcases timers seq o callback with old | new
    · exact (placed.sleeps seq o old).trans_le nextOuter
    · exact new

theorem Placed.congr {s s' : Inst σ} (placed : Placed s)
    (tasks : ∀ t task o, s'.tasks t = some task → task.point.waiter = .outer o →
      ∃ task', s.tasks t = some task' ∧ task'.point.waiter = .outer o)
    (nextOuter : s'.nextOuter = s.nextOuter)
    (outers : ∀ o, (s'.outers o).owner = (s.outers o).owner ∧
      (s'.outers o).source = (s.outers o).source)
    (timers : s'.timers = s.timers) : Placed s' := by
  refine placed.step (fun t task o isTask waits => .inl (tasks t task o isTask waits))
    (Nat.le_of_eq nextOuter.symm) (fun o _ => (outers o).1) (fun o _ => (outers o).2) ?_
  rw [timers]
  exact fun seq o callback => .inl callback

theorem waits_made {s s' : Inst σ} {new : Task} (start : new.point = .start)
    (tasks : s'.tasks = Function.update s.tasks s.nextFut (some new)) (t : FutId) (task : Task)
    (o : OuterId) (isTask : s'.tasks t = some task) (waits : task.point.waiter = .outer o) :
    ∃ task', s.tasks t = some task' ∧ task'.point.waiter = .outer o := by
  rw [tasks] at isTask
  by_cases here : t = s.nextFut
  · rw [here, Function.update_self, Option.some.injEq] at isTask
    rw [← isTask, start] at waits
    cases waits
  · rw [Function.update_of_ne here] at isTask
    exact ⟨task, isTask, waits⟩

theorem waits_setTask {s : Inst σ} {t : FutId} {task new : Task} (isTask : s.tasks t = some task)
    (t' : FutId) (task' : Task) (o : OuterId) (isTask' : (s.setTask t new).tasks t' = some task')
    (waits : task'.point.waiter = .outer o)
    (point : new.point.waiter = .outer o → task.point.waiter = .outer o) :
    ∃ task, s.tasks t' = some task ∧ task.point.waiter = .outer o := by
  by_cases here : t' = t
  · subst here
    have same : new = task' := by simpa [Inst.setTask] using isTask'
    exact ⟨task, isTask, point (same ▸ waits)⟩
  · exact ⟨task', by simpa [Inst.setTask, here] using isTask', waits⟩

theorem Inst.outerSettled_outers (s : Inst σ) (o : OuterId) (new : OuterState) (o' : OuterId) :
    ((s.outerSettled o new).outers o').owner = (s.outers o').owner ∧
      ((s.outerSettled o new).outers o').source = (s.outers o').source := by
  by_cases here : o' = o <;> simp [Inst.outerSettled, Inst.pushAll, Inst.setOuter, here]

theorem Atom.placed {k : Kind} {s s' : Inst σ} (h : Atom k s s') (placed : Placed s) :
    Placed s' := by
  have same (t : FutId) (task : Task) (o : OuterId) (isTask : s.tasks t = some task)
      (waits : task.point.waiter = .outer o) :
      ∃ task', s.tasks t = some task' ∧ task'.point.waiter = .outer o := ⟨task, isTask, waits⟩
  have kept (o : OuterId) : (s.outers o).owner = (s.outers o).owner ∧
      (s.outers o).source = (s.outers o).source := ⟨rfl, rfl⟩
  have retimed {s' : Inst σ} {seq : Nat} {handle : TimerHandle} (tasks : s'.tasks = s.tasks)
      (nextOuter : s'.nextOuter = s.nextOuter) (outers : s'.outers = s.outers)
      (timers : s'.timers = Function.update s.timers seq handle)
      (bound : ∀ o, handle.callback = .sleep o →
        (s.timers seq).callback = .sleep o ∨ o < s.nextOuter) : Placed s' := by
    refine placed.step (fun t task o isTask waits => .inl ⟨task, tasks ▸ isTask, waits⟩)
      (Nat.le_of_eq nextOuter.symm) (fun o _ => by rw [outers]) (fun o _ => by rw [outers]) ?_
    intro seq' o callback
    rw [timers] at callback
    rw [nextOuter]
    by_cases here : seq' = seq
    · rw [here, Function.update_self] at callback
      rw [here]
      exact bound o callback
    · rw [Function.update_of_ne here] at callback
      exact .inl callback
  have allocated {s' : Inst σ} {outer : Outer} (tasks : s'.tasks = s.tasks)
      (nextOuter : s'.nextOuter = s.nextOuter + 1)
      (outers : s'.outers = Function.update s.outers s.nextOuter outer)
      (timers : s'.timers = s.timers) : Placed s' := by
    refine placed.step (fun t task o isTask waits => .inl ⟨task, tasks ▸ isTask, waits⟩)
      (by rw [nextOuter]; exact Nat.le_succ _) (fun o bound => ?_) (fun o bound => ?_) ?_
    · rw [outers, Function.update_of_ne (Nat.ne_of_lt bound)]
    · rw [nextOuter] at bound
      rw [outers, Function.update_of_ne (Nat.ne_of_gt bound)]
    · rw [timers]
      exact fun seq o callback => .inl callback
  cases h with
  | createUser | strayUser | bareUser | newActivity | strayActivity | newChild | strayChild =>
    exact placed.congr (waits_made rfl rfl) rfl kept rfl
  | request _ isTask | mustCancel _ isTask | clearCancel _ isTask =>
    exact placed.congr (fun t task o here waits => waits_setTask isTask t task o here waits id) rfl
      kept rfl
  | @setPoint _ t task isTask point notStart stands =>
    refine placed.step (fun t' task' o here waits => ?_) (Nat.le_refl _) (fun _ _ => rfl)
      (fun _ _ => rfl) fun _ _ callback => .inl callback
    by_cases at_t : t' = t
    · subst at_t
      have same : { task with point := point } = task' := by simpa [Inst.setTask] using here
      subst same
      exact .inr (stands o waits)
    · exact .inl ⟨task', by simpa [Inst.setTask, at_t] using here, waits⟩
  | cancelOuter | deliver | slept =>
    exact placed.congr same rfl (fun o => s.outerSettled_outers _ _ o) rfl
  | timer => exact retimed rfl rfl rfl rfl fun o callback => by cases callback
  | sleepTimer _ _ _ _ _ bound =>
    refine retimed rfl rfl rfl rfl fun o callback => .inr ?_
    simp only [TimerCallback.sleep.injEq] at callback
    rwa [← callback]
  | cancelTimer | markTimer => exact retimed rfl rfl rfl rfl fun o callback => .inl callback
  | shield | sleepOuter => exact allocated rfl rfl rfl rfl
  | _ => exact placed.congr same rfl kept rfl

theorem Move.placed {k : Kind} {s s' : Inst σ} (h : Move k s s') (placed : Placed s) :
    Placed s' := by
  have same (t : FutId) (task : Task) (o : OuterId) (isTask : s.tasks t = some task)
      (waits : task.point.waiter = .outer o) :
      ∃ task', s.tasks t = some task' ∧ task'.point.waiter = .outer o := ⟨task, isTask, waits⟩
  have kept (o : OuterId) : (s.outers o).owner = (s.outers o).owner ∧
      (s.outers o).source = (s.outers o).source := ⟨rfl, rfl⟩
  cases h with
  | signalTask | straySignal | spawn | strayJob =>
    exact placed.congr (waits_made rfl rfl) rfl kept rfl
  | wake _ isTask =>
    exact placed.congr (fun t task o here waits => waits_setTask isTask t task o here waits
      fun running => by cases running) rfl kept rfl
  | _ => exact placed.congr same rfl kept rfl

theorem Moves.placed {K : List Kind} {s s' : Inst σ} (h : Moves K s s') (wf : s.WellFormed)
    (placed : Placed s) : Placed s' := by
  refine (h.keeps wf placed ?_).1
  intro a b _ allowed placed
  rcases allowed with ⟨k, -, atom⟩ | ⟨k, -, move⟩
  · exact atom.placed placed
  · exact move.placed placed

/-! ### What others do wakes no activity -/

/-- The move is not one of the coroutine of an activity. -/
def Kind.spares (s : Inst σ) (k : Kind) : Prop :=
  ∀ t, k = .own t ∨ k = .wake t ∨ k = .sleep t → s.coded t

/-- Handles are queued that make no activity go on. -/
theorem Woken.pushed {s s' : Inst σ} (woken : Woken s) {l : List Handle}
    (tasks : KeepsActivities s s') (ready : s'.ready = s.ready ++ l)
    (spares : ∀ h ∈ l, h.spares s') (futs : s'.futs = s.futs) (outers : s'.outers = s.outers)
    (nextOuter : s'.nextOuter = s.nextOuter) (timers : s'.timers = s.timers) : Woken s' := by
  refine woken.frame tasks (fun h => ?_) (fun t f member => ?_) (Nat.le_of_eq nextOuter.symm)
    (fun o _ => by rw [outers]) (fun seq o callback => .inl (timers ▸ callback))
    fun o lower upper => ?_
  · rw [ready]
    exact count_append_of_spares spares h
  · rw [futs] at member
    exact .inl member
  · rw [nextOuter] at upper
    exact absurd upper (Nat.not_lt.mpr lower)

/-- A future is completed and its callbacks are queued. -/
theorem Woken.settled {s s' : Inst σ} (woken : Woken s) (tasks : s'.tasks = s.tasks) {f : FutId}
    {new : FutState} (futs : s'.futs = (s.settled f new).futs)
    (ready : s'.ready = (s.settled f new).ready) (outers : s'.outers = s.outers)
    (nextOuter : s'.nextOuter = s.nextOuter) (timers : s'.timers = s.timers) : Woken s' := by
  have keeps : KeepsActivities s s' := .of_eq tasks
  refine woken.frame keeps (fun h => ?_) (fun t f' member => ?_) (Nat.le_of_eq nextOuter.symm)
    (fun o _ => by rw [outers]) (fun seq o callback => .inl (timers ▸ callback))
    fun o lower upper => ?_
  · rw [ready]
    refine count_append_of_spares (fun h member => ?_) h
    split at member
    · cases member
    · obtain ⟨cb, attached, rfl⟩ := List.mem_map.mp member
      cases cb with
      | wakeup t => exact keeps.coded (woken.attached t f attached)
      | _ => trivial
  · rw [futs] at member
    by_cases here : f' = f
    · simp [Inst.settled, Inst.pushAll, Inst.setFut, here] at member
    · exact .inl (by simpa [Inst.settled, Inst.pushAll, Inst.setFut, here] using member)
  · rw [nextOuter] at upper
    exact absurd upper (Nat.not_lt.mpr lower)

/-- A future comes into being, or a callback is attached. -/
theorem Woken.setFut {s s' : Inst σ} (woken : Woken s) (tasks : s'.tasks = s.tasks)
    (ready : s'.ready = s.ready) (outers : s'.outers = s.outers)
    (nextOuter : s'.nextOuter = s.nextOuter) (timers : s'.timers = s.timers) {f : FutId} {fut : Fut}
    (futs : s'.futs = Function.update s.futs f fut)
    (attached : ∀ t, .wakeup t ∈ fut.callbacks → .wakeup t ∈ (s.futs f).callbacks ∨ s.coded t) :
    Woken s' := by
  have keeps : KeepsActivities s s' := .of_eq tasks
  refine woken.frame keeps (fun h => .inl ?_) (fun t f' member => ?_)
    (Nat.le_of_eq nextOuter.symm) (fun o _ => by rw [outers])
    (fun seq o callback => .inl (timers ▸ callback)) fun o lower upper => ?_
  · rw [ready]
  · rw [futs] at member
    by_cases here : f' = f
    · subst here
      rw [Function.update_self] at member
      exact (attached t member).imp_right keeps.coded
    · rw [Function.update_of_ne here] at member
      exact .inl member
  · rw [nextOuter] at upper
    exact absurd upper (Nat.not_lt.mpr lower)

/-- A task comes into being with its first step in the queue. -/
theorem Woken.made {s s' : Inst σ} (woken : Woken s) (wf : s.WellFormed) {fut : Fut} {new : Task}
    (start : new.point = .start) (callbacks : ∀ t, .wakeup t ∉ fut.callbacks)
    (futs : s'.futs = Function.update s.futs s.nextFut fut)
    (tasks : s'.tasks = Function.update s.tasks s.nextFut (some new))
    (ready : s'.ready = s.ready ++ [Handle.taskStep s.nextFut]) (outers : s'.outers = s.outers)
    (nextOuter : s'.nextOuter = s.nextOuter) (timers : s'.timers = s.timers) : Woken s' := by
  have isNew : s'.tasks s.nextFut = some new := by rw [tasks, Function.update_self]
  have keeps : KeepsActivities s s' := .made wf tasks
  have notYet : .taskStep s.nextFut ∉ s.ready := by
    intro member
    obtain ⟨task, isTask, -⟩ := woken.step _ member
    exact absurd (wf.task _ task isTask).1 (Nat.lt_irrefl _)
  have others {h : Handle} (other : h ≠ .taskStep s.nextFut) :
      s'.ready.count h = s.ready.count h := by
    rw [ready]
    simp [other.symm]
  have queued {h : Handle} (other : h ≠ .taskStep s.nextFut) (member : h ∈ s'.ready) :
      h ∈ s.ready := by
    have positive := List.count_pos_iff.mpr member
    rw [others other] at positive
    exact List.count_pos_iff.mp positive
  constructor
  · intro t member
    by_cases here : t = s.nextFut
    · subst here
      refine ⟨new, isNew, fun _ => ⟨by rw [start]; rfl, ?_⟩⟩
      rw [ready, List.count_append, List.count_eq_zero_of_not_mem notYet]
      simp
    · obtain ⟨task, isTask, stands⟩ := woken.step t (queued (by simp [here]) member)
      obtain ⟨task', isTask', root, point⟩ := keeps t task isTask
      refine ⟨task', isTask', fun isActivity => ?_⟩
      rw [root] at isActivity
      rw [point isActivity, others (by simp [here])]
      exact stands isActivity
  · exact fun t f member => keeps.coded (woken.callback t f (queued (by simp) member))
  · intro t f member
    rw [futs] at member
    by_cases here : f = s.nextFut
    · rw [here, Function.update_self] at member
      exact absurd member (callbacks t)
    · rw [Function.update_of_ne here] at member
      exact keeps.coded (woken.attached t f member)
  · intro o member
    rw [nextOuter]
    exact woken.bound o (queued (by simp) member)
  · intro o bound
    rw [nextOuter] at bound
    obtain ⟨task, isTask, stands⟩ := woken.outer o bound
    obtain ⟨task', isTask', root, point⟩ := keeps _ task isTask
    rw [outers]
    refine ⟨task', isTask', fun isActivity => ?_⟩
    rw [root] at isActivity
    obtain ⟨once, fresh, waiter⟩ := stands isActivity
    rw [point isActivity, others (by simp)]
    refine ⟨once, fun isPending member => fresh isPending (queued (by simp) member),
      fun live => waiter ?_⟩
    rw [Inst.live, Inst.armed, outers, timers] at live
    exact live.imp_right (queued (by simp))

/-- An outer future comes into being for a task that is no activity. -/
theorem Woken.allocated {s s' : Inst σ} (woken : Woken s) (tasks : s'.tasks = s.tasks)
    (ready : s'.ready = s.ready) (futs : s'.futs = s.futs) {outer : Outer}
    (nextOuter : s'.nextOuter = s.nextOuter + 1)
    (outers : s'.outers = Function.update s.outers s.nextOuter outer) (timers : s'.timers = s.timers)
    (coded : s.coded outer.owner) : Woken s' := by
  have keeps : KeepsActivities s s' := .of_eq tasks
  refine woken.frame keeps (fun h => .inl (by rw [ready])) (fun t f member => ?_)
    (by rw [nextOuter]; exact Nat.le_succ _) (fun o bound => ?_)
    (fun seq o callback => .inl (timers ▸ callback)) fun o lower upper => ?_
  · rw [futs] at member
    exact .inl member
  · rw [outers, Function.update_of_ne (Nat.ne_of_lt bound)]
  · rw [nextOuter] at upper
    have same : o = s.nextOuter := Nat.le_antisymm (Nat.le_of_lt_succ upper) lower
    rw [same, outers, Function.update_self]
    exact keeps.coded coded

/-- The timers change, and no activity gets one. -/
theorem Woken.retimed {s s' : Inst σ} (woken : Woken s) (tasks : s'.tasks = s.tasks)
    (ready : s'.ready = s.ready) (futs : s'.futs = s.futs) (outers : s'.outers = s.outers)
    (nextOuter : s'.nextOuter = s.nextOuter) {seq : Nat} {handle : TimerHandle}
    (timers : s'.timers = Function.update s.timers seq handle)
    (callback : ∀ o, handle.callback = .sleep o →
      (s.timers seq).callback = .sleep o ∨ s.coded (s.outers o).owner) : Woken s' := by
  have keeps : KeepsActivities s s' := .of_eq tasks
  refine woken.frame keeps (fun h => .inl (by rw [ready])) (fun t f member => .inl (futs ▸ member))
    (Nat.le_of_eq nextOuter.symm) (fun o _ => by rw [outers]) (fun seq' o sleeps => ?_)
    fun o lower upper => ?_
  · rw [timers] at sleeps
    by_cases here : seq' = seq
    · subst here
      rw [Function.update_self] at sleeps
      exact (callback o sleeps).imp_right fun coded => outers ▸ keeps.coded coded
    · rw [Function.update_of_ne here] at sleeps
      exact .inl sleeps
  · rw [nextOuter] at upper
    exact absurd upper (Nat.not_lt.mpr lower)

theorem Atom.woken {k : Kind} {s s' : Inst σ} (h : Atom k s s') (wf : s.WellFormed)
    (placed : Placed s) (spares : k.spares s) (woken : Woken s) : Woken s' := by
  have kept {t : FutId} {task new : Task} (isTask : s.tasks t = some task)
      (root : new.root = task.root) (point : task.root = .activity → new.point = task.point) :
      Woken (s.setTask t new) :=
    woken.pushed (.setTask isTask root point) (List.append_nil _).symm (by simp) rfl rfl rfl rfl
  have queued {l : List Handle} (hSpares : ∀ h ∈ l, h.spares s) : Woken (s.pushAll l) :=
    woken.pushed (.of_eq rfl) rfl hSpares rfl rfl rfl rfl
  cases h with
  | callSoon => exact woken.pushed (l := [_]) (.of_eq rfl) rfl (by simp [Handle.spares]) rfl rfl rfl rfl
  | @push _ _ h plain =>
    refine queued (l := [h]) ?_
    simp only [List.mem_singleton, forall_eq]
    cases h with
    | callback cb f => cases cb <;> trivial
    | cancelPrimaryTask => trivial
    | _ => cases plain
  | newFut => exact woken.setFut rfl rfl rfl rfl rfl rfl (by simp)
  | addCallback _ f plain =>
    refine woken.setFut (f := f) rfl rfl rfl rfl rfl rfl fun t member => ?_
    rcases List.mem_append.mp member with old | new
    · exact .inl old
    · rw [← List.mem_singleton.mp new] at plain
      cases plain
  | settle | resolveCancel => exact woken.settled rfl rfl rfl rfl rfl rfl
  | @cancelOuter _ o pending waits =>
    obtain ⟨t, task, isTask, waits⟩ := waits
    obtain ⟨bound, owner⟩ := placed.waits t task o isTask waits
    refine woken.outerSettled pending bound (fun task' isTask' _ => ?_) _ (by simp)
    rw [owner, isTask, Option.some.injEq] at isTask'
    rw [← isTask', waits]
  | @deliver _ o p outcome pending source =>
    have bound : o < s.nextOuter := by
      by_contra unbound
      rw [placed.source o (Nat.le_of_not_lt unbound)] at source
      cases source
    exact woken.outerSettled pending bound (woken.stands bound pending (.inl (by simp [source]))) _
      (by simp)
  | @slept _ o seq pending ofSleep =>
    have bound := placed.sleeps seq o ofSleep
    exact woken.outerSettled pending bound (woken.stands bound pending (.inr ⟨seq, ofSleep⟩)) _
      (by simp)
  | createUser | strayUser | bareUser | newActivity | strayActivity | newChild | strayChild =>
    exact woken.made wf rfl (by simp) rfl rfl rfl rfl rfl rfl
  | request _ isTask | mustCancel _ isTask | clearCancel _ isTask =>
    exact kept isTask rfl fun _ => rfl
  | @setPoint _ t task isTask =>
    refine kept isTask rfl fun isActivity => ?_
    obtain ⟨task', isTask', other⟩ := spares t (.inl rfl)
    rw [isTask, Option.some.injEq] at isTask'
    rw [isTask'] at isActivity
    exact absurd isActivity other
  | wakeup _ t f | yield _ t =>
    refine queued (l := [_]) ?_
    simp only [List.mem_singleton, forall_eq]
    exact spares t (.inl rfl)
  | addWakeup _ t f =>
    refine woken.setFut (f := f) rfl rfl rfl rfl rfl rfl fun t' member => ?_
    rcases List.mem_append.mp member with old | new
    · exact .inl old
    · cases List.mem_singleton.mp new
      exact .inr (spares t (.inl rfl))
  | shield _ t | sleepOuter _ t =>
    exact woken.allocated rfl rfl rfl rfl rfl rfl (spares t (.inl rfl))
  | timer => exact woken.retimed rfl rfl rfl rfl rfl rfl (by simp)
  | sleepTimer _ t _ o _ _ owner =>
    refine woken.retimed rfl rfl rfl rfl rfl rfl fun o' sleeps => .inr ?_
    simp only [TimerCallback.sleep.injEq] at sleeps
    rw [← sleeps, owner]
    exact spares t (.inr (.inr rfl))
  | cancelTimer | markTimer =>
    exact woken.retimed rfl rfl rfl rfl rfl rfl fun o sleeps => .inl sleeps
  | cancelExternal => exact woken.setFut rfl rfl rfl rfl rfl rfl (by simp)
  | fulfill =>
    refine woken.pushed (.of_eq rfl) rfl (fun h member => ?_) rfl rfl rfl rfl
    split at member
    · cases member
    · obtain ⟨o, -, rfl⟩ := List.mem_map.mp member
      trivial
  | fire => exact woken.pushed (l := [_]) (.of_eq rfl) rfl (by simp [Handle.spares]) rfl rfl rfl rfl
  | _ => exact ⟨woken.step, woken.callback, woken.attached, woken.bound, woken.outer⟩

theorem Move.woken {k : Kind} {s s' : Inst σ} (h : Move k s s') (wf : s.WellFormed)
    (spares : k.spares s) (woken : Woken s) : Woken s' := by
  have popped {s' : Inst σ} {h : Handle} (tasks : s'.tasks = s.tasks) (futs : s'.futs = s.futs)
      (outers : s'.outers = s.outers) (nextOuter : s'.nextOuter = s.nextOuter)
      (timers : s'.timers = s.timers) (ready : s.ready = h :: s'.ready) : Woken s' := by
    refine woken.frame (.of_eq tasks) (fun h' => .inl ?_) (fun t f member => ?_)
      (Nat.le_of_eq nextOuter.symm) (fun o _ => by rw [outers])
      (fun seq o callback => .inl (timers ▸ callback)) fun o lower upper => ?_
    · rw [ready]
      exact List.count_le_count_cons
    · rw [futs] at member
      exact .inl member
    · rw [nextOuter] at upper
      exact absurd upper (Nat.not_lt.mpr lower)
  cases h with
  | @met _ _ f =>
    have logged : Woken (s.log (.conditionResolved f)) :=
      ⟨woken.step, woken.callback, woken.attached, woken.bound, woken.outer⟩
    exact logged.settled rfl rfl rfl rfl rfl rfl
  | finish => exact woken.settled rfl rfl rfl rfl rfl rfl
  | pop _ ready | tasksRemove _ ready | signalDone _ ready => exact popped rfl rfl rfl rfl rfl ready
  | signalTask | straySignal | spawn | strayJob => exact woken.made wf rfl (by simp) rfl rfl rfl rfl rfl rfl
  | condition => exact woken.setFut rfl rfl rfl rfl rfl rfl (by simp)
  | @wake _ t task isTask =>
    refine woken.pushed (.setTask isTask rfl fun isActivity => ?_) (List.append_nil _).symm (by simp)
      rfl rfl rfl rfl
    obtain ⟨task', isTask', other⟩ := spares t (.inr (.inl rfl))
    rw [isTask, Option.some.injEq] at isTask'
    rw [isTask'] at isActivity
    exact absurd isActivity other
  | _ => exact ⟨woken.step, woken.callback, woken.attached, woken.bound, woken.outer⟩

theorem Moves.coded {K : List Kind} {s s' : Inst σ} (h : Moves K s s') (wf : s.WellFormed)
    {t : FutId} (coded : s.coded t) : s'.coded t := by
  obtain ⟨task, isTask, other⟩ := coded
  obtain ⟨task', isTask', root⟩ := h.root wf isTask
  exact ⟨task', isTask', root ▸ other⟩

theorem Moves.woken {K : List Kind} {s s' : Inst σ} (h : Moves K s s') (wf : s.WellFormed)
    (placed : Placed s) (spares : ∀ k ∈ K, k.spares s) (woken : Woken s) : Woken s' := by
  have kept : (Woken s' ∧ Placed s' ∧ ∀ k ∈ K, k.spares s') ∧ s'.WellFormed := by
    refine h.keeps wf (I := fun s => Woken s ∧ Placed s ∧ ∀ k ∈ K, k.spares s)
      ⟨woken, placed, spares⟩ ?_
    intro a b wfa allowed ⟨woken, placed, spares⟩
    have moves : Moves K a b := fun _ => .single allowed
    refine ⟨?_, moves.placed wfa placed, fun k member t own =>
      moves.coded wfa (spares k member t own)⟩
    rcases allowed with ⟨k, member, atom⟩ | ⟨k, member, move⟩
    · refine atom.woken wfa placed ?_ woken
      rcases List.mem_cons.mp member with rfl | member
      · exact fun t own => by rcases own with own | own | own <;> cases own
      · exact spares k member
    · exact move.woken wfa (spares k member) woken
  exact kept.1.1

end TemporalSdk.Workflow
