import TemporalSdk.Workflow.ActivityHandles

/-!
# A turn of an activity

From the moment its waker is taken from the queue to the moment it waits again
or ends, the coroutine of an activity handle has the instance for itself. Each
of its parts has a contract: what it needs to know about the sequence number of
the handle, and that it leaves the books of all activities in order. The
contracts follow `run_activity` from its loop outwards.
-/
namespace TemporalSdk.Workflow

open Eff

variable {σ : Type} {made : Nat → Prop} {r s s' : Inst σ} {t : FutId}

/-- The loop is in order, whatever calls have been made. -/
structure Sound (s : Inst σ) : Prop where
  wf : s.WellFormed
  owned : Owned s
  placed : Placed s
  woken : Woken s

/-- Moves that do not wake an activity, by themselves or by hand. -/
theorem Moves.sound {K : List Kind} (h : Moves K s s') (sound : Sound s)
    (woken : Woken s') : Sound s' where
  wf := h.wellFormed sound.wf
  owned := h.owned sound.wf sound.owned
  placed := h.placed sound.wf sound.placed
  woken := woken

theorem Sound.moves {K : List Kind} (sound : Sound s) (h : Moves K s s')
    (spares : ∀ k ∈ K, k.spares s) : Sound s' :=
  h.sound sound (h.woken sound.wf sound.placed spares sound.woken)

/-- The books of the activities are in order, and the outbound calls are those
of the state `r`. -/
structure Consistent (made : Nat → Prop) (r s : Inst σ) : Prop extends Sound s where
  books : ActivityBooks made s
  calls : SameCalls r s

/-- The coroutine of activity `t` is running. -/
structure Turn (made : Nat → Prop) (r : Inst σ) (t : FutId) (s : Inst σ) : Prop
    extends Consistent made r s where
  running : ∃ task, s.tasks t = some task ∧ task.root = .activity ∧ task.point = .running
  noStep : .taskStep t ∉ s.ready

theorem Consistent.foreign {K : List Kind} (c : Consistent made r s) (h : Moves K s s')
    (foreign : ∀ k ∈ K, k.foreign = true) (spares : ∀ k ∈ K, k.spares s) :
    Consistent made r s' := by
  have change := h.foreign c.wf foreign spares
  exact ⟨c.toSound.moves h spares, c.books.foreign change, c.calls.trans change.calls⟩

/-- A change in which nothing is queued, allocated or made to wait. -/
theorem Consistent.quiet {K : List Kind} (c : Consistent made r s) (h : Moves K s s')
    (calls : SameCalls s s') (tasks : KeepsActivities s s') (ready : s'.ready = s.ready)
    (futs : s'.futs = s.futs) (outers : s'.outers = s.outers)
    (nextOuter : s'.nextOuter = s.nextOuter)
    (timers : ∀ seq o, (s'.timers seq).callback = .sleep o → (s.timers seq).callback = .sleep o) :
    Consistent made r s' where
  toSound := h.sound c.toSound <| c.woken.frame tasks (fun _ => .inl (by rw [ready]))
    (fun _ _ member => .inl (futs ▸ member)) (Nat.le_of_eq nextOuter.symm)
    (fun _ _ => by rw [outers]) (fun seq o callback => .inl (timers seq o callback))
    fun _ lower upper => absurd upper (by rw [nextOuter]; exact Nat.not_lt.mpr lower)
  books := c.books.foreign ⟨calls, .same nextOuter outers fun _ => ready ▸ id, tasks⟩
  calls := c.calls.trans calls

theorem Turn.quiet {K : List Kind} (turn : Turn made r t s) (h : Moves K s s')
    (calls : SameCalls s s') (tasks : s'.tasks = s.tasks) (ready : s'.ready = s.ready)
    (futs : s'.futs = s.futs) (outers : s'.outers = s.outers)
    (nextOuter : s'.nextOuter = s.nextOuter)
    (timers : ∀ seq o, (s'.timers seq).callback = .sleep o → (s.timers seq).callback = .sleep o) :
    Turn made r t s' where
  toConsistent :=
    turn.toConsistent.quiet h calls (.of_eq tasks) ready futs outers nextOuter timers
  running := tasks ▸ turn.running
  noStep := ready ▸ turn.noStep

theorem Turn.isActivity (turn : Turn made r t s) : s.ofRoot t .activity := by
  obtain ⟨task, isTask, root, -⟩ := turn.running
  exact ⟨task, isTask, root⟩

/-- Nothing is going to wake a coroutine that is running. -/
theorem Turn.notLive (turn : Turn made r t s) {o : OuterId} (bound : o < s.nextOuter)
    (owner : (s.outers o).owner = t) : ¬s.live o := by
  intro live
  obtain ⟨task, isTask, root, point⟩ := turn.running
  obtain ⟨task', isTask', ready⟩ := turn.woken.outer o bound
  rw [owner, isTask, Option.some.injEq] at isTask'
  subst isTask'
  have waiter := (ready root).2.2 live
  rw [point] at waiter
  cases waiter

theorem guard_closed (action : String) (closed : s.open = false) :
    ∃ e, assertNotReadOnly action false s = (.error e, s) := by
  rw [assertNotReadOnly_run]
  cases deleting : s.deleting <;> cases readOnly : s.readOnly <;> simp_all [Inst.open]

/-! ### What the coroutine does to itself -/

/-- One atom that touches neither a waker nor a call. -/
theorem Turn.atom {k : Kind} (turn : Turn made r t s) (h : Atom k s s')
    (foreign : k.foreign = true) (tasks : s'.tasks = s.tasks) (ready : s'.ready = s.ready)
    (futs : s'.futs = s.futs) (outers : s'.outers = s.outers)
    (nextOuter : s'.nextOuter = s.nextOuter)
    (timers : ∀ seq o, (s'.timers seq).callback = .sleep o → (s.timers seq).callback = .sleep o) :
    Turn made r t s' :=
  turn.quiet (.of_atom (K := [k]) (by simp) h) (h.sameCalls turn.wf foreign) tasks ready futs outers
    nextOuter timers

theorem Turn.started (turn : Turn made r t s) :
    Turn made r t (s.setActivity t { s.activities t with started := true }) :=
  turn.atom (.started s t) rfl rfl rfl rfl rfl rfl fun _ _ => id

theorem Turn.setTimer (turn : Turn made r t s) {s' : Inst σ} {k : Kind} (h : Atom k s s')
    (foreign : k.foreign = true) (tasks : s'.tasks = s.tasks) (ready : s'.ready = s.ready)
    (futs : s'.futs = s.futs) (outers : s'.outers = s.outers)
    (nextOuter : s'.nextOuter = s.nextOuter) {seq : Nat} {handle : TimerHandle}
    (timers : s'.timers = Function.update s.timers seq handle)
    (callback : handle.callback = (s.timers seq).callback) : Turn made r t s' := by
  refine turn.atom h foreign tasks ready futs outers nextOuter fun seq' o sleeps => ?_
  rw [timers] at sleeps
  by_cases here : seq' = seq
  · rw [here, Function.update_self, callback] at sleeps
    rwa [here]
  · rwa [Function.update_of_ne here] at sleeps

theorem Turn.timerCancel (turn : Turn made r t s) (seq : Nat) :
    Post (fun (_ : Unit) => Turn made r t) (fun _ => Turn made r t) (timerCancel seq s) := by
  have owns : (Kind.sleep t).ownsTimer (s.timers seq) := .inl ⟨t, rfl⟩
  rw [timerCancel_run]
  split
  · exact turn
  · split
    next notPending =>
      exact turn.setTimer (.markTimer s owns notPending) rfl rfl rfl rfl rfl rfl rfl rfl
    next isPending =>
      have isPending : s.pendingTimers seq = true := by simpa using isPending
      split
      next isOpen =>
        exact turn.setTimer (.cancelTimer s owns isOpen isPending) rfl rfl rfl rfl rfl rfl rfl rfl
      next closed =>
        have closed : s.open = false := by simpa using closed
        have dropped := turn.atom (.dropTimer s owns closed isPending) rfl rfl rfl rfl rfl rfl
          fun _ _ => id
        cases (assertNotReadOnly "add command" false s).1 <;> exact dropped

theorem Turn.addCancel (turn : Turn made r t s) :
    Post (fun (_ : Nat) => Turn made r t) (fun _ => Turn made r t)
      (addCommand (s.activities t).cancelCommand s) := by
  rw [addCommand_run]
  split
  next isOpen => exact turn.atom (.cancelOwn s t isOpen) rfl rfl rfl rfl rfl rfl fun _ _ => id
  · cases (assertNotReadOnly "add command" false s).1 <;> exact turn

/-! ### Waiting -/

theorem setPoint_task {point : Point} {task : Task} (isTask : s.tasks t = some task) :
    setPoint t point s = (.ok (), s.setTask t { task with point := point }) := by
  rw [setPoint, update_run, Inst.mapTask, isTask]

/-- What the coroutine may change of the wakers when it comes to a stop: it stands at
a new point, with the outer future it waits for if there is one. -/
structure Stops (t : FutId) (new : Task) (s s' : Inst σ) : Prop where
  tasks : s'.tasks = Function.update s.tasks t (some new)
  root : new.root = .activity
  ready : s'.ready = s.ready
  futs : s'.futs = s.futs
  nextOuter : s.nextOuter ≤ s'.nextOuter
  outers : ∀ o < s.nextOuter, s'.outers o = s.outers o
  fresh : ∀ o, s.nextOuter ≤ o → o < s'.nextOuter → (s'.outers o).owner = t ∧
    new.point.waiter = .outer o ∧
    ∀ p, (s'.outers o).source = some p → p = (s.activities t).resultFut
  timers : ∀ seq o, (s'.timers seq).callback = .sleep o →
    (s.timers seq).callback = .sleep o ∨ new.point.waiter = .outer o
  own : ∀ o < s.nextOuter, new.point.waiter = .outer o → (s.outers o).owner = t

theorem Turn.woken_stop (turn : Turn made r t s) {new : Task} (stops : Stops t new s s') :
    Woken s' := by
  have here : s'.tasks t = some new := by rw [stops.tasks, Function.update_self]
  have others {t' : FutId} (other : t' ≠ t) : s'.tasks t' = s.tasks t' := by
    rw [stops.tasks, Function.update_of_ne other]
  have coded {t' : FutId} (coded : s.coded t') : s'.coded t' := by
    obtain ⟨task, isTask, other⟩ := coded
    have different : t' ≠ t := by
      rintro rfl
      obtain ⟨task', isTask', root⟩ := turn.isActivity
      rw [isTask, Option.some.injEq] at isTask'
      exact other (isTask' ▸ root)
    exact ⟨task, by rw [others different]; exact isTask, other⟩
  constructor
  · intro t' member
    rw [stops.ready] at member ⊢
    have different : t' ≠ t := fun same => turn.noStep (same ▸ member)
    rw [others different]
    exact turn.woken.step t' member
  · intro t' f member
    rw [stops.ready] at member
    exact coded (turn.woken.callback t' f member)
  · intro t' f member
    rw [stops.futs] at member
    exact coded (turn.woken.attached t' f member)
  · intro o member
    rw [stops.ready] at member
    exact (turn.woken.bound o member).trans_le stops.nextOuter
  · intro o bound
    rw [stops.ready]
    by_cases old : o < s.nextOuter
    · obtain ⟨task, isTask, ready⟩ := turn.woken.outer o old
      rw [stops.outers o old]
      -- an outer future that gets armed is the one that is waited for
      have lived (notMine : new.point.waiter ≠ .outer o) (live : s'.live o) : s.live o := by
        rw [Inst.live, Inst.armed, stops.outers o old, stops.ready] at live
        rcases live with ⟨pending, source | ⟨seq, callback⟩⟩ | member
        · exact .inl ⟨pending, .inl source⟩
        · exact .inl ⟨pending, .inr ⟨seq, (stops.timers seq o callback).resolve_right notMine⟩⟩
        · exact .inr member
      by_cases owner : (s.outers o).owner = t
      · rw [owner] at isTask ⊢
        refine ⟨new, here, fun _ => ?_⟩
        obtain ⟨task', isTask', root, -⟩ := turn.running
        rw [isTask, Option.some.injEq] at isTask'
        obtain ⟨once, fresh, -⟩ := ready (isTask' ▸ root)
        refine ⟨once, fresh, fun live => ?_⟩
        by_contra notMine
        exact turn.notLive old owner (lived notMine live)
      · refine ⟨task, by rw [others owner]; exact isTask, fun isActivity => ?_⟩
        obtain ⟨once, fresh, waiter⟩ := ready isActivity
        refine ⟨once, fresh, fun live => waiter (lived (fun mine => ?_) live)⟩
        exact owner (stops.own o old mine)
    · obtain ⟨owner, waiter, -⟩ := stops.fresh o (Nat.le_of_not_lt old) bound
      have notQueued : .outerWakeup o ∉ s.ready := fun member => old (turn.woken.bound o member)
      rw [owner]
      refine ⟨new, here, fun _ => ⟨?_, fun _ => notQueued, fun _ => waiter⟩⟩
      rw [List.count_eq_zero_of_not_mem notQueued]
      exact Nat.zero_le _

theorem Turn.books_stop (turn : Turn made r t s) {new : Task} (stops : Stops t new s s')
    (calls : SameCalls s s') (sleeps : new.point.sleeps = true → ¬made (s.activities t).seq) :
    ActivityBooks made s' := by
  have seq (t' : FutId) : (s'.activities t').seq = (s.activities t').seq := (calls.handles t').1
  have result (t' : FutId) : (s'.promises (s'.activities t').resultFut).state =
      (s.promises (s.activities t').resultFut).state := by
    rw [(calls.handles t').2.1, calls.states]
  have activity (t' : FutId) : s'.ofRoot t' .activity ↔ s.ofRoot t' .activity :=
    calls.roots t' _ (.inl rfl)
  have mine : s.Holds (.activity t) (s.activities t).resultFut := ⟨turn.isActivity, rfl⟩
  have holds (x : Slot) (p : PromiseId) (h : s'.Holds x p) : s.Holds x p := by
    cases x with
    | activity t' => exact ⟨(activity t').mp h.1, (calls.handles t').2.1 ▸ h.2⟩
    | childStart t' => exact ⟨(calls.roots t' _ (.inr rfl)).mp h.1, calls.children ▸ h.2⟩
    | childResult t' => exact ⟨(calls.roots t' _ (.inr rfl)).mp h.1, calls.children ▸ h.2⟩
    | signal seq => exact (congrFun calls.signals seq).symm.trans h
  constructor
  · intro t' isActivity
    rw [(calls.handles t').2.2]
    exact turn.books.valid t' ((activity t').mp isActivity)
  · intro n isMade
    rw [calls.seqs .activity (by simp)]
    exact turn.books.bound n isMade
  · intro n t' entry
    rw [calls.activities] at entry
    rw [activity, seq, result]
    exact turn.books.table n t' entry
  · intro t' isActivity unmade
    rw [seq] at unmade
    rw [result]
    exact turn.books.unmade t' ((activity t').mp isActivity) unmade
  · intro t' b isActivity
    rw [result]
    exact turn.books.noBackoff t' b ((activity t').mp isActivity)
  · intro t' task isTask isActivity asleep
    rw [seq]
    rw [stops.tasks] at isTask
    by_cases here : t' = t
    · rw [here, Function.update_self, Option.some.injEq] at isTask
      rw [here]
      exact sleeps (isTask ▸ asleep)
    · rw [Function.update_of_ne here] at isTask
      exact turn.books.asleep t' task isTask isActivity asleep
  · intro o bound isActivity owes
    rw [seq]
    by_cases old : o < s.nextOuter
    · rw [stops.outers o old] at isActivity ⊢
      refine turn.books.waiting o old ((activity _).mp isActivity) ?_
      unfold Inst.owes at owes
      rw [stops.outers o old, stops.ready] at owes
      simp only [calls.states] at owes
      exact owes
    · obtain ⟨-, -, source⟩ := stops.fresh o (Nat.le_of_not_lt old) bound
      obtain ⟨b, ⟨-, member⟩ | ⟨-, p, isSource, state⟩⟩ := owes
      · rw [stops.ready] at member
        exact absurd (turn.woken.bound o member) old
      · rw [source p isSource, calls.states] at state
        exact absurd state (turn.books.noBackoff t b turn.isActivity)
  · intro o bound p isActivity pending source
    rw [calls.nextPromise]
    by_cases old : o < s.nextOuter
    · rw [stops.outers o old] at isActivity pending source ⊢
      obtain ⟨lt, only⟩ := turn.books.sources o old p ((activity _).mp isActivity) pending source
      exact ⟨lt, fun x h => only x (holds x p h)⟩
    · obtain ⟨owner, -, isResult⟩ := stops.fresh o (Nat.le_of_not_lt old) bound
      rw [isResult p source, owner]
      exact ⟨turn.owned.bound _ _ mine, fun x h => turn.owned.only _ _ _ (holds x _ h) mine⟩

/-- The coroutine of activity `t` has come to a stop. -/
structure Rested (made : Nat → Prop) (r : Inst σ) (t : FutId) (s : Inst σ) : Prop
    extends Consistent made r s where
  isActivity : s.ofRoot t .activity
  noStep : .taskStep t ∉ s.ready

/-- The coroutine comes to a stop. -/
theorem Turn.stop {K : List Kind} (turn : Turn made r t s) {new : Task} (h : Moves K s s')
    (stops : Stops t new s s') (calls : SameCalls s s')
    (sleeps : new.point.sleeps = true → ¬made (s.activities t).seq) : Rested made r t s' where
  toSound := h.sound turn.toSound (turn.woken_stop stops)
  books := turn.books_stop stops calls sleeps
  calls := turn.calls.trans calls
  isActivity := ⟨new, by rw [stops.tasks, Function.update_self], stops.root⟩
  noStep := stops.ready ▸ turn.noStep

/-- Where a part of the coroutine leaves it: stopped, or going on with a value. -/
def Paused (made : Nat → Prop) (r : Inst σ) (t : FutId) : Option Obj → Inst σ → Prop
  | none => Rested made r t
  | some _ => Turn made r t

theorem Turn.setPoint_zero (turn : Turn made r t s) (b : DoBackoff)
    (unmade : ¬made (s.activities t).seq) :
    Post (fun (_ : Unit) => Rested made r t) (fun _ => Turn made r t)
      (setPoint t (.activitySleepZero b) s) := by
  obtain ⟨task, isTask, root, -⟩ := turn.running
  have moves : Moves [.own t] s (setPoint t (.activitySleepZero b) s).2 :=
    setPoint_steady (by simp) (by simp) (by simp [Point.waiter]) s
  rw [setPoint_task isTask] at moves ⊢
  have stops : Stops t { task with point := .activitySleepZero b } s
      (s.setTask t { task with point := .activitySleepZero b }) := {
    tasks := rfl
    root := root
    ready := rfl
    futs := rfl
    nextOuter := Nat.le_refl _
    outers := fun _ _ => rfl
    fresh := fun o lower upper => absurd upper (Nat.not_lt.mpr lower)
    timers := fun _ _ => .inl
    own := fun o _ waits => by cases waits }
  exact turn.stop moves stops (moves.sameCalls turn.wf (by simp [Kind.foreign])) fun _ => unmade

/-- The coroutine waits for the result future of its handle. -/
theorem Turn.suspendShield (turn : Turn made r t s)
    (pending : (s.promises (s.activities t).resultFut).state = none) :
    Post (fun (_ : Unit) => Rested made r t) (fun _ => Turn made r t)
      (suspendShield t (s.activities t).resultFut .activityWait s) := by
  obtain ⟨task, isTask, root, -⟩ := turn.running
  have moves : Moves [.own t] s
      (TemporalSdk.Workflow.suspendShield t (s.activities t).resultFut .activityWait s).2 :=
    suspendShield_moves (by simp) (by simp) (fun _ => rfl) pending
  rw [suspendShield_run, setPoint_task (s := s.shielded t _) isTask] at moves ⊢
  have old {o : OuterId} (bound : o < s.nextOuter) :
      (s.shielded t (s.activities t).resultFut).outers o = s.outers o :=
    Function.update_of_ne (Nat.ne_of_lt bound) _ _
  have stops : Stops t { task with point := .activityWait s.nextOuter } s
      ((s.shielded t (s.activities t).resultFut).setTask t
        { task with point := .activityWait s.nextOuter }) := {
    tasks := rfl
    root := root
    ready := rfl
    futs := rfl
    nextOuter := Nat.le_succ _
    outers := fun o bound => old bound
    fresh := fun o lower upper => by
      have same : o = s.nextOuter := Nat.le_antisymm (Nat.le_of_lt_succ upper) lower
      subst same
      simp [Inst.setTask, Inst.shielded, Point.waiter]
    timers := fun _ _ => .inl
    own := fun o bound waits => by
      simp only [Point.waiter, Waiter.outer.injEq] at waits
      exact absurd (waits ▸ bound) (Nat.lt_irrefl _) }
  exact turn.stop moves stops (moves.sameCalls turn.wf (by simp [Kind.foreign]))
    (by simp [Point.sleeps])

/-- A future for the sleep of a backoff, which nothing completes yet. -/
theorem Turn.sleepOuter (turn : Turn made r t s) :
    Turn made r t { s.setOuter s.nextOuter ⟨t, none, .pending⟩ with
      nextOuter := s.nextOuter + 1 } := by
  have atom : Atom (.own t) s { s.setOuter s.nextOuter ⟨t, none, .pending⟩ with
      nextOuter := s.nextOuter + 1 } := .sleepOuter s t
  have moves : Moves [.own t] s _ := .of_atom (by simp) atom
  obtain ⟨task, isTask, root, point⟩ := turn.running
  have old {o : OuterId} (bound : o < s.nextOuter) :
      Function.update s.outers s.nextOuter ⟨t, none, .pending⟩ o = s.outers o :=
    Function.update_of_ne (Nat.ne_of_lt bound) _ _
  have fresh {o : OuterId} (lower : ¬o < s.nextOuter) (upper : o < s.nextOuter + 1) :
      o = s.nextOuter := Nat.le_antisymm (Nat.le_of_lt_succ upper) (Nat.le_of_not_lt lower)
  have notQueued : .outerWakeup s.nextOuter ∉ s.ready := fun member =>
    Nat.lt_irrefl _ (turn.woken.bound _ member)
  refine ⟨⟨moves.sound turn.toSound ?_, ?_, turn.calls.trans (atom.sameCalls turn.wf rfl)⟩,
    ⟨task, isTask, root, point⟩, turn.noStep⟩
  · refine ⟨turn.woken.step, turn.woken.callback, turn.woken.attached,
      fun o member => (turn.woken.bound o member).trans (Nat.lt_succ_self _), ?_⟩
    intro o bound
    dsimp only [Inst.live, Inst.armed, Inst.setOuter]
    by_cases here : o < s.nextOuter
    · rw [old here]
      exact turn.woken.outer o here
    · have same := fresh here bound
      subst same
      rw [Function.update_self]
      refine ⟨task, isTask, fun _ => ⟨?_, fun _ => notQueued, fun live => ?_⟩⟩
      · rw [List.count_eq_zero_of_not_mem notQueued]
        exact Nat.zero_le _
      · rcases live with ⟨-, source | ⟨seq, callback⟩⟩ | member
        · cases source
        · exact absurd (turn.placed.sleeps seq _ callback) here
        · exact absurd member notQueued
  · refine ⟨turn.books.valid, turn.books.bound, turn.books.table, turn.books.unmade,
      turn.books.noBackoff, turn.books.asleep, ?_, ?_⟩
    · intro o bound isActivity owes
      dsimp only [Inst.owes, Inst.setOuter] at isActivity owes ⊢
      by_cases here : o < s.nextOuter
      · rw [old here] at isActivity owes ⊢
        exact turn.books.waiting o here isActivity owes
      · have same := fresh here bound
        subst same
        rw [Function.update_self] at owes
        obtain ⟨b, ⟨done, -⟩ | ⟨-, p, source, -⟩⟩ := owes
        · cases done
        · cases source
    · intro o bound p isActivity pending source
      dsimp only [Inst.setOuter] at isActivity pending source ⊢
      by_cases here : o < s.nextOuter
      · rw [old here] at isActivity pending source ⊢
        exact turn.books.sources o here p isActivity pending source
      · have same := fresh here bound
        subst same
        rw [Function.update_self] at source
        cases source

/-- The coroutine goes to sleep for a backoff, with a timer it has just started. -/
theorem Turn.asleep (turn : Turn made r t s) {o : OuterId} (bound : o < s.nextOuter)
    (owner : (s.outers o).owner = t) (b : DoBackoff) (isOpen : s.open = true)
    (unmade : ¬made (s.activities t).seq) (delay : Int) (seq : Nat) :
    Post (fun (_ : Unit) => Rested made r t) (fun _ => Turn made r t)
      (setPoint t (.activitySleep b seq o) (s.timed delay (.sleep o))) := by
  obtain ⟨task, isTask, root, -⟩ := turn.running
  have timed : Atom (.sleep t) s (s.timed delay (.sleep o)) :=
    .sleepTimer s t delay o isOpen bound owner
  have moves : Moves [.own t, .sleep t] s
      (setPoint t (.activitySleep b seq o) (s.timed delay (.sleep o))).2 := by
    refine Moves.trans (.of_atom (by simp) timed) (setPoint_moves (by simp) (by simp) ?_)
    intro o' waits
    simp only [Point.waiter, Waiter.outer.injEq] at waits
    rw [← waits]
    exact ⟨bound, owner⟩
  rw [setPoint_task (s := s.timed delay (.sleep o)) isTask] at moves ⊢
  have stops : Stops t { task with point := .activitySleep b seq o } s
      ((s.timed delay (.sleep o)).setTask t { task with point := .activitySleep b seq o }) := {
    tasks := rfl
    root := root
    ready := rfl
    futs := rfl
    nextOuter := Nat.le_refl _
    outers := fun _ _ => rfl
    fresh := fun o lower upper => absurd upper (Nat.not_lt.mpr lower)
    timers := fun seq' o' callback => by
      change (Function.update s.timers (s.currSeqs .timer + 1) ⟨.sleep o, false⟩ seq').callback =
        _ at callback
      by_cases here : seq' = s.currSeqs .timer + 1
      · rw [here, Function.update_self, TimerCallback.sleep.injEq] at callback
        exact .inr (by rw [← callback]; rfl)
      · rw [Function.update_of_ne here] at callback
        exact .inl callback
    own := fun o' _ waits => by
      simp only [Point.waiter, Waiter.outer.injEq] at waits
      rw [← waits]
      exact owner }
  exact turn.stop moves stops (moves.sameCalls turn.wf (by simp [Kind.foreign])) fun _ => unmade

/-! ### The parts of `run_activity` -/

theorem Turn.activityBackoff (turn : Turn made r t s) (b : DoBackoff)
    (unmade : ¬made (s.activities t).seq) :
    Post (Paused made r t) (fun _ => Turn made r t) (activityBackoff t b s) := by
  unfold TemporalSdk.Workflow.activityBackoff
  cases converted : b.toTimedelta with
  | error e => exact turn
  | ok delay =>
  simp only [raiseError, pure_bind_run]
  split
  · exact (turn.setPoint_zero b unmade).bind fun _ _ _ rested => rested
  · simp only [state_bind_run, update_bind_run]
    have slept := turn.sleepOuter
    have bound : s.nextOuter < ({ s.setOuter s.nextOuter ⟨t, none, .pending⟩ with
        nextOuter := s.nextOuter + 1 } : Inst σ).nextOuter := Nat.lt_succ_self _
    have owner : (({ s.setOuter s.nextOuter ⟨t, none, .pending⟩ with
        nextOuter := s.nextOuter + 1 } : Inst σ).outers s.nextOuter).owner = t := by
      simp [Inst.setOuter]
    have unmade' : ¬made (({ s.setOuter s.nextOuter ⟨t, none, .pending⟩ with
        nextOuter := s.nextOuter + 1 } : Inst σ).activities t).seq := unmade
    generalize ({ s.setOuter s.nextOuter ⟨t, none, .pending⟩ with
        nextOuter := s.nextOuter + 1 } : Inst σ) = s₁ at slept bound owner unmade' ⊢
    have timer : Post (fun (_ : Nat) s₂ => s₁.open = true ∧
        s₂ = s₁.timed delay (.sleep s.nextOuter)) (fun _ => Turn made r t)
        (callLater delay (.sleep s.nextOuter) s₁) := by
      rw [callLater_run]
      split
      next closed =>
        obtain ⟨e, raised⟩ := guard_closed "schedule timer" closed
        rw [raised]
        exact slept
      next isOpen =>
        have isOpen : s₁.open = true := by simpa using isOpen
        split
        · exact slept
        · rw [if_pos (DoBackoff.toTimedelta_holds converted)]
          exact ⟨isOpen, rfl⟩
    refine timer.bind fun seq s₂ _ made => ?_
    obtain ⟨isOpen, same⟩ := made
    subst same
    exact (slept.asleep bound owner b isOpen unmade' _ _).bind fun _ _ _ rested => rested

end TemporalSdk.Workflow
