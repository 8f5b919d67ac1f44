import TemporalSdk.Workflow.ActivityTurns

/-!
# The coroutine of an activity

`run_activity` from one suspension to the next. A turn changes the outbound
calls in one way at most: the activity is scheduled again, under the number that
its last backoff took and that no command carries yet.
-/
namespace TemporalSdk.Workflow

open Eff

variable {σ : Type} {made : Nat → Prop} {r s s' : Inst σ} {t : FutId}

/-! ### Scheduling -/

/-- A schedule command is added, unless nothing is changed at all. -/
theorem applyScheduleCommand_cases (det : Details σ) {h : ActivityHandle}
    (backoff : Option DoBackoff) (valid : validRetryPolicy h.input.retryPolicy = true)
    (s : Inst σ) :
    (∃ e, applyScheduleCommand det h backoff s = (.error e, s)) ∨ s.open = true ∧
      applyScheduleCommand det h backoff s = (.ok (), s.pushCommand (h.scheduleCommand backoff)) := by
  simp only [applyScheduleCommand]
  cases converted : convertArgs det h.input.args s with
  | mk result s₁ =>
    have same := convertArgs_steady (R := Eq) det h.input.args s
    rw [converted] at same
    subst same
    cases result with
    | error e => exact .inl ⟨e, bind_error converted⟩
    | ok payloads =>
      rw [bind_ok converted]
      cases isOpen : s.open with
      | false =>
        obtain ⟨e, refused⟩ := addCommand_closed (c := h.scheduleCommand backoff) isOpen
        exact .inl ⟨e, bind_error refused⟩
      | true =>
        have added : addCommand (h.scheduleCommand backoff) s =
            (.ok s.commands.length, s.pushCommand (h.scheduleCommand backoff)) := by
          rw [addCommand_run, if_pos isOpen]
        obtain ⟨result, applied, isValid⟩ := applyRetryPolicy_run h.input.retryPolicy
          (s.pushCommand (h.scheduleCommand backoff))
        rw [isValid.mpr valid] at applied
        exact .inr ⟨rfl, (bind_ok added).trans applied⟩

theorem scheduleCommand_call (h : ActivityHandle) (backoff : Option DoBackoff) :
    (h.scheduleCommand backoff).call? = some (.activity, h.seq) := by
  unfold ActivityHandle.scheduleCommand
  split <;> rfl

theorem SameCalls.scheduled (calls : SameCalls r s) (t : FutId) (backoff : Option DoBackoff) :
    SameCalls (r.scheduled t backoff) (s.scheduled t backoff) := by
  have seq : (s.activities t).seq = (r.activities t).seq := (calls.handles t).1
  refine { calls with commands := ?_, activities := ?_ }
  · change Workflow.calls (s.commands ++ [_]) = Workflow.calls (r.commands ++ [_])
    rw [calls_append, calls_append, calls.commands]
    simp [Workflow.calls, scheduleCommand_call, seq]
  · simp only [Inst.scheduled, calls.activities, seq]

/-- The activity is scheduled under a number that is not used yet. -/
theorem ActivityBooks.scheduled (books : ActivityBooks made s) (owned : Owned s)
    (isActivity : s.ofRoot t .activity) (fresh : ¬made (s.activities t).seq)
    (awake : ∀ task, s.tasks t = some task → task.point.sleeps = false)
    (paid : ∀ o < s.nextOuter, (s.outers o).owner = t → ¬s.owes o) (backoff : Option DoBackoff) :
    ActivityBooks (fun n => made n ∨ n = (s.activities t).seq) (s.scheduled t backoff) := by
  constructor
  · exact books.valid
  · rintro n (isMade | rfl)
    · exact books.bound n isMade
    · exact owned.seqBound t
  · intro n t' entry
    change Function.update s.pendingActivities _ _ n = _ at entry
    by_cases here : n = (s.activities t).seq
    · rw [here, Function.update_self, Option.some.injEq] at entry
      rw [← entry, here]
      exact ⟨isActivity, rfl, books.unmade t isActivity fresh⟩
    · rw [Function.update_of_ne here] at entry
      exact books.table n t' entry
  · exact fun t' isActivity' unmade => books.unmade t' isActivity' fun isMade => unmade (.inl isMade)
  · exact books.noBackoff
  · intro t' task isTask root sleeps
    rintro (isMade | same)
    · exact books.asleep t' task isTask root sleeps isMade
    · have here := owned.seqOnly t' t ⟨task, isTask, root⟩ isActivity same
      rw [awake task (here ▸ isTask)] at sleeps
      cases sleeps
  · intro o bound isActivity' owes
    rintro (isMade | same)
    · exact books.waiting o bound isActivity' owes isMade
    · exact paid o bound (owned.seqOnly _ t isActivity' isActivity same) owes
  · exact books.sources

theorem Inst.owes.live {o : OuterId} (owes : s.owes o) : s.live o := by
  obtain ⟨b, ⟨-, member⟩ | ⟨pending, p, source, -⟩⟩ := owes
  · exact .inr member
  · exact .inl ⟨pending, .inl (by rw [source]; rfl)⟩

theorem Turn.scheduled (turn : Turn made r t s) (isOpen : s.open = true)
    (fresh : ¬made (s.activities t).seq) (backoff : Option DoBackoff) :
    Turn (fun n => made n ∨ n = (s.activities t).seq) (r.scheduled t backoff) t
      (s.scheduled t backoff) := by
  have atom : Atom .issue s (s.scheduled t backoff) :=
    .schedule s t backoff isOpen (turn.books.valid t turn.isActivity)
  have moves : Moves [.issue] s (s.scheduled t backoff) := .of_atom (by simp) atom
  obtain ⟨task, isTask, root, point⟩ := turn.running
  refine ⟨⟨moves.sound turn.toSound ?_, ?_, turn.calls.scheduled t backoff⟩,
    ⟨task, isTask, root, point⟩, turn.noStep⟩
  · exact turn.woken.frame (.of_eq rfl) (fun _ => .inl (Nat.le_refl _)) (fun _ _ => .inl)
      (Nat.le_refl _) (fun _ _ => rfl) (fun _ _ => .inl)
      fun o lower upper => absurd upper (Nat.not_lt.mpr lower)
  · refine turn.books.scheduled turn.owned turn.isActivity fresh (fun task' isTask' => ?_)
      (fun o bound owner owes => turn.notLive bound owner owes.live) backoff
    rw [isTask, Option.some.injEq] at isTask'
    rw [← isTask', point]
    rfl

/-! ### A turn and the calls -/

/-- What a turn of activity `t` does to the calls: nothing, or it schedules the
activity under a number that is not used yet. -/
inductive Reissued (made : Nat → Prop) (r : Inst σ) (t : FutId) : (Nat → Prop) → Inst σ → Prop
  | same : Reissued made r t made r
  | again {s : Inst σ} (calls : SameCalls r s) (isActivity : s.ofRoot t .activity)
      (fresh : ¬made (s.activities t).seq) (backoff : Option DoBackoff) :
      Reissued made r t (fun n => made n ∨ n = (s.activities t).seq) (r.scheduled t backoff)

/-- The coroutine has stopped or is still running, with at most one call made. -/
def TurnDone (made : Nat → Prop) (r : Inst σ) (t : FutId)
    (result : Except Exc (Option Obj) × Inst σ) : Prop :=
  ∃ made' r', Reissued made r t made' r' ∧
    Post (Paused made' r' t) (fun _ => Turn made' r' t) result

theorem TurnDone.same {result : Except Exc (Option Obj) × Inst σ}
    (h : Post (Paused made r t) (fun _ => Turn made r t) result) : TurnDone made r t result :=
  ⟨made, r, .same, h⟩

/-! ### The parts of `run_activity` that may schedule -/

theorem Turn.activityLoop (turn : Turn made r t s) :
    Post (Paused made r t) (fun _ => Turn made r t) (activityLoop t s) := by
  have started := turn.started
  simp only [TemporalSdk.Workflow.activityLoop, update_bind_run, state_bind_run]
  generalize s.setActivity t { s.activities t with started := true } = s₁ at started ⊢
  cases state : (s₁.promises (s₁.activities t).resultFut).state with
  | none => exact (started.suspendShield state).bind fun _ _ _ rested => rested
  | some outcome =>
    cases outcome with
    | result v => exact started
    | exception e => exact started
    | backoff b => exact absurd state (started.books.noBackoff t b started.isActivity)

theorem Turn.activityReschedule (turn : Turn made r t s) (det : Details σ) (b : DoBackoff)
    (fresh : ¬made (s.activities t).seq) : TurnDone made r t (activityReschedule det t b s) := by
  simp only [TemporalSdk.Workflow.activityReschedule, state_bind_run]
  rcases applyScheduleCommand_cases det (some b) (turn.books.valid t turn.isActivity) s with
    ⟨e, refused⟩ | ⟨isOpen, added⟩
  · rw [bind_error refused]
    exact .same turn
  · rw [bind_ok added]
    exact ⟨_, _, .again turn.calls turn.isActivity fresh (some b),
      (turn.scheduled isOpen fresh (some b)).activityLoop⟩

theorem Turn.activityStart (turn : Turn made r t s) :
    Post (Paused made r t) (fun _ => Turn made r t) (activityStart t s) := by
  simp only [TemporalSdk.Workflow.activityStart, state_bind_run]
  split
  · exact turn.activityLoop
  · exact turn

theorem Turn.activityWake (turn : Turn made r t s) (input : Except Exc Obj)
    (paid : ∀ b, input = .error (.activityDoBackoff b) → ¬made (s.activities t).seq) :
    Post (Paused made r t) (fun _ => Turn made r t) (activityWake t input s) := by
  unfold TemporalSdk.Workflow.activityWake
  split
  · exact turn
  · exact turn.activityBackoff _ (paid _ rfl)
  · rw [state_bind_run]
    exact turn.addCancel.bind fun _ _ _ turn => turn.activityLoop
  · exact turn

theorem timerCancel_activities (seq : Nat) (s : Inst σ) :
    (timerCancel seq s).2.activities = s.activities := by
  rw [timerCancel_run]
  split
  · rfl
  · split
    · rfl
    · split <;> rfl

theorem Turn.activitySleepZeroWake (turn : Turn made r t s) (det : Details σ) (b : DoBackoff)
    (input : Except Exc Obj) (fresh : ¬made (s.activities t).seq) :
    TurnDone made r t (activitySleepZeroWake det t b input s) := by
  unfold TemporalSdk.Workflow.activitySleepZeroWake
  split
  · exact turn.activityReschedule det b fresh
  · exact .same turn

theorem Turn.activitySleepWake (turn : Turn made r t s) (det : Details σ) (b : DoBackoff)
    (timer : Nat) (input : Except Exc Obj) (fresh : ¬made (s.activities t).seq) :
    TurnDone made r t (activitySleepWake det t b timer input s) := by
  have cancelled := turn.timerCancel timer
  have seq := timerCancel_activities timer s
  unfold TemporalSdk.Workflow.activitySleepWake
  rw [bind_run]
  cases run : TemporalSdk.Workflow.timerCancel timer s with
  | mk result s₁ =>
    rw [run] at cancelled seq
    cases result with
    | error e => exact .same cancelled
    | ok u => exact cancelled.activitySleepZeroWake det b input (by rw [seq]; exact fresh)

/-- The coroutine goes on from where it stands. A backoff that it gets or slept for
has left it a number to schedule under. -/
theorem Turn.resume (turn : Turn made r t s) (det : Details σ) (point : Point)
    (input : Except Exc Obj) (asleep : point.sleeps = true → ¬made (s.activities t).seq)
    (paid : ∀ b, input = .error (.activityDoBackoff b) → ¬made (s.activities t).seq) :
    ∃ result s', resume det t .activity point input s = (.ok (.done result), s') ∧
      TurnDone made r t (result, s') := by
  have attempted {x : Wf σ (Option Obj)} (h : TurnDone made r t (x s)) :
      ∃ result s', (do
        let r ← attempt x
        pure (.done r) : Wf σ Next) s = (.ok (.done result), s') ∧ TurnDone made r t (result, s') :=
    ⟨_, _, rfl, h⟩
  cases point with
  | start =>
    cases input with
    | error e => exact ⟨_, _, rfl, .same turn⟩
    | ok v => exact attempted (.same turn.activityStart)
  | activityWait o => exact attempted (.same (turn.activityWake input paid))
  | activitySleep b timer o => exact attempted (turn.activitySleepWake det b timer input (asleep rfl))
  | activitySleepZero b => exact attempted (turn.activitySleepZeroWake det b input (asleep rfl))
  -- the coroutine of a handle has no other place to stand
  | _ => exact ⟨_, _, rfl, .same turn⟩

/-! ### The end of a step -/

/-- A coroutine that waits for nothing asks for another step. -/
theorem Woken.yielded (woken : Woken s) {task : Task} (isTask : s.tasks t = some task)
    (waiter : task.point.waiter = .none) (noStep : .taskStep t ∉ s.ready) :
    Woken (s.pushReady (.taskStep t)) := by
  have others {h : Handle} (other : h ≠ .taskStep t) (member : h ∈ (s.pushReady (.taskStep t)).ready) :
      h ∈ s.ready :=
    (List.mem_append.mp member).resolve_right fun new => other (List.mem_singleton.mp new)
  have count {h : Handle} (other : h ≠ .taskStep t) :
      (s.pushReady (.taskStep t)).ready.count h = s.ready.count h := by
    simp [Inst.pushReady, List.count_append, other.symm]
  constructor
  · intro t' member
    by_cases here : t' = t
    · subst here
      refine ⟨task, isTask, fun _ => ⟨waiter, ?_⟩⟩
      simp [Inst.pushReady, List.count_append, List.count_eq_zero_of_not_mem noStep]
    · obtain ⟨task', isTask', stands⟩ := woken.step t' (others (by simp [here]) member)
      refine ⟨task', isTask', fun isActivity => ?_⟩
      rw [count (by simp [here])]
      exact stands isActivity
  · exact fun t' f member => woken.callback t' f (others (by simp) member)
  · exact woken.attached
  · exact fun o member => woken.bound o (others (by simp) member)
  · intro o bound
    obtain ⟨task', isTask', ready⟩ := woken.outer o bound
    refine ⟨task', isTask', fun isActivity => ?_⟩
    obtain ⟨once, fresh, stands⟩ := ready isActivity
    refine ⟨by rw [count (by simp)]; exact once,
      fun pending member => fresh pending (others (by simp) member), fun live => stands ?_⟩
    exact live.imp_right (others (by simp))

theorem Rested.yielded (rested : Rested made r t s) {task : Task} (isTask : s.tasks t = some task)
    (waiter : task.point.waiter = .none) (writable : s.readOnly = false) :
    Consistent made r (s.pushReady (.taskStep t)) := by
  have atom : Atom (.own t) s (s.pushReady (.taskStep t)) := .yield s t writable
  have moves : Moves [.own t] s (s.pushReady (.taskStep t)) := .of_atom (by simp) atom
  have calls := atom.sameCalls rested.wf rfl
  exact {
    toSound := moves.sound rested.toSound (rested.woken.yielded isTask waiter rested.noStep)
    books := rested.books.foreign ⟨calls, .pushed (l := [_]) rfl rfl rfl (by simp), .of_eq rfl⟩
    calls := rested.calls.trans calls }

/-- A pending cancellation has been passed on. -/
theorem Consistent.clearCancel (c : Consistent made r s) {task : Task}
    (isTask : s.tasks t = some task) :
    Consistent made r (s.setTask t { task with mustCancel := false }) := by
  have atom : Atom (.own t) s (s.setTask t { task with mustCancel := false }) :=
    .clearCancel s isTask
  exact c.quiet (K := [.own t]) (.of_atom (by simp) atom) (atom.sameCalls c.wf rfl)
    (.setTask isTask rfl fun _ => rfl) rfl rfl rfl rfl fun _ _ => id

theorem Rested.afterSuspend (rested : Rested made r t s) :
    Consistent made r (afterSuspend t s).2 := by
  obtain ⟨task, isTask, -⟩ := rested.isActivity
  simp only [TemporalSdk.Workflow.afterSuspend, state_bind_run, isTask]
  split
  next waiter =>
    rw [callSoon_run]
    split
    · exact rested.toConsistent
    next writable => exact rested.yielded isTask waiter (by simpa using writable)
  · split
    · have passed : Moves [] s (waiterCancel cancelFut task.point.waiter s).2 :=
        waiterCancel_moves cancelFut_moves isTask
      have consistent := rested.toConsistent.foreign passed (by simp) (by simp)
      rw [bind_run]
      cases run : waiterCancel cancelFut task.point.waiter s with
      | mk result s₁ =>
        rw [run] at consistent
        cases result with
        | error e => exact consistent
        | ok passedOn =>
          dsimp only
          split
          · rw [update_run, Inst.mapTask]
            cases isTask₁ : s₁.tasks t with
            | none => exact consistent
            | some task₁ => exact consistent.clearCancel isTask₁
          · exact consistent
    · exact rested.toConsistent

theorem Consistent.finish (c : Consistent made r s) {task : Task} (isTask : s.tasks t = some task)
    (alive : s.isDone t = false) {new : FutState} (done : new.done = true) :
    Consistent made r (s.settled t new) :=
  c.foreign (K := [.finish t]) (.of_move (by simp) (.finish s isTask alive done))
    (by simp [Kind.foreign]) (by simp [Kind.spares])

theorem Turn.finishTask (turn : Turn made r t s) (alive : s.isDone t = false)
    (outcome : Except Exc Obj) : Consistent made r (finishTask t outcome s).2 := by
  obtain ⟨task, isTask, -⟩ := turn.running
  obtain ⟨s₁, new, cleared, done, ended⟩ := finishTask_state isTask outcome
  rw [ended]
  rcases cleared with rfl | rfl
  · exact turn.toConsistent.finish isTask alive done
  · have isTask' : (s.setTask t { task with mustCancel := false }).tasks t =
        some { task with mustCancel := false } := Function.update_self ..
    exact (turn.toConsistent.clearCancel isTask).finish isTask' alive done

/-! ### Waking up -/

/-- Whatever makes an activity go on is the only thing that would. -/
theorem Woken.once (woken : Woken s) {h : Handle} {rest : List Handle} (ready : s.ready = h :: rest)
    (steps : s.steps h t) {task : Task} (isTask : s.tasks t = some task)
    (root : task.root = .activity) :
    .taskStep t ∉ rest ∧
      ∀ o < s.nextOuter, (s.outers o).owner = t → ¬(s.setReady rest).live o := by
  have first : h ∈ s.ready := by simp [ready]
  have later {h' : Handle} (member : h' ∈ rest) : h' ∈ s.ready := by simp [ready, member]
  have lived {o : OuterId} (live : (s.setReady rest).live o) : s.live o := live.imp_right later
  have stands {o : OuterId} (bound : o < s.nextOuter) (owner : (s.outers o).owner = t) :
      s.ready.count (.outerWakeup o) ≤ 1 ∧ ((s.outers o).state = .pending → .outerWakeup o ∉ s.ready) ∧
        (s.live o → task.point.waiter = .outer o) := by
    obtain ⟨task', isTask', ready⟩ := woken.outer o bound
    rw [owner, isTask, Option.some.injEq] at isTask'
    subst isTask'
    exact ready root
  rcases steps with rfl | ⟨f, rfl⟩ | ⟨o, rfl, owner⟩
  · obtain ⟨task', isTask', step⟩ := woken.step t first
    rw [isTask, Option.some.injEq] at isTask'
    subst isTask'
    obtain ⟨waiter, once⟩ := step root
    constructor
    · intro member
      rw [ready, List.count_cons_self] at once
      have := List.count_pos_iff.mpr member
      omega
    · intro o bound owner live
      rw [(stands bound owner).2.2 (lived live)] at waiter
      cases waiter
  · obtain ⟨task', isTask', other⟩ := woken.callback t f first
    rw [isTask, Option.some.injEq] at isTask'
    exact absurd (isTask' ▸ root) other
  · obtain ⟨once, fresh, waiter⟩ := stands (woken.bound o first) owner
    have waits := waiter (.inr first)
    constructor
    · intro member
      obtain ⟨task', isTask', step⟩ := woken.step t (later member)
      rw [isTask, Option.some.injEq] at isTask'
      subst isTask'
      rw [(step root).1] at waits
      cases waits
    · intro o' bound' owner' live
      have same := (stands bound' owner').2.2 (lived live)
      rw [waits, Waiter.outer.injEq] at same
      subst same
      rcases live with ⟨pending, -⟩ | member
      · exact fresh pending first
      · have := List.count_pos_iff.mpr member
        rw [ready, List.count_cons_self] at once
        change 0 < rest.count _ at this
        omega

/-- The coroutine runs when nothing is going to wake it. -/
theorem Woken.run (woken : Woken s) {task : Task} (isTask : s.tasks t = some task)
    (root : task.root = .activity) (noStep : .taskStep t ∉ s.ready)
    (idle : ∀ o < s.nextOuter, (s.outers o).owner = t → ¬s.live o) :
    Woken (s.setTask t { task with mustCancel := false, point := .running }) := by
  have others {t' : FutId} (other : t' ≠ t) :
      (s.setTask t { task with mustCancel := false, point := .running }).tasks t' = s.tasks t' :=
    Function.update_of_ne other _ _
  have coded {t' : FutId} (coded : s.coded t') :
      (s.setTask t { task with mustCancel := false, point := .running }).coded t' := by
    obtain ⟨task', isTask', other⟩ := coded
    have different : t' ≠ t := by
      rintro rfl
      rw [isTask, Option.some.injEq] at isTask'
      exact other (isTask' ▸ root)
    exact ⟨task', (others different).trans isTask', other⟩
  constructor
  · intro t' member
    have different : t' ≠ t := fun same => noStep (same ▸ member)
    rw [others different]
    exact woken.step t' member
  · exact fun t' f member => coded (woken.callback t' f member)
  · exact fun t' f member => coded (woken.attached t' f member)
  · exact woken.bound
  · intro o bound
    obtain ⟨task', isTask', ready⟩ := woken.outer o bound
    by_cases owner : (s.outers o).owner = t
    · rw [owner, isTask, Option.some.injEq] at isTask'
      subst isTask'
      obtain ⟨once, fresh, -⟩ := ready root
      refine ⟨{ task with mustCancel := false, point := .running }, ?_,
        fun _ => ⟨once, fresh, fun live => absurd live (idle o bound owner)⟩⟩
      change Function.update s.tasks t _ (s.outers o).owner = _
      rw [owner, Function.update_self]
    · exact ⟨task', (others owner).trans isTask', ready⟩

theorem ActivityBooks.run (books : ActivityBooks made s) {task : Task}
    (isTask : s.tasks t = some task) :
    ActivityBooks made (s.setTask t { task with mustCancel := false, point := .running }) := by
  have same (t' : FutId) (root : Root) :
      (s.setTask t { task with mustCancel := false, point := .running }).ofRoot t' root ↔
        s.ofRoot t' root := Inst.ofRoot_setTask isTask rfl
  have holds (x : Slot) (p : PromiseId)
      (h : (s.setTask t { task with mustCancel := false, point := .running }).Holds x p) :
      s.Holds x p := by
    cases x with
    | activity t' => exact ⟨(same t' _).mp h.1, h.2⟩
    | childStart t' => exact ⟨(same t' _).mp h.1, h.2⟩
    | childResult t' => exact ⟨(same t' _).mp h.1, h.2⟩
    | signal seq => exact h
  constructor
  · exact fun t' isActivity => books.valid t' ((same t' _).mp isActivity)
  · exact books.bound
  · intro n t' entry
    obtain ⟨isActivity, isSeq, pending⟩ := books.table n t' entry
    exact ⟨(same t' _).mpr isActivity, isSeq, pending⟩
  · exact fun t' isActivity => books.unmade t' ((same t' _).mp isActivity)
  · exact fun t' b isActivity => books.noBackoff t' b ((same t' _).mp isActivity)
  · intro t' task' isTask' root sleeps
    by_cases here : t' = t
    · rw [here] at isTask'
      have running : { task with mustCancel := false, point := .running } = task' := by
        simpa [Inst.setTask] using isTask'
      rw [← running] at sleeps
      cases sleeps
    · exact books.asleep t' task' ((Function.update_of_ne here _ _).symm.trans isTask') root sleeps
  · exact fun o bound isActivity => books.waiting o bound ((same _ _).mp isActivity)
  · intro o bound p isActivity pending source
    obtain ⟨lt, only⟩ := books.sources o bound p ((same _ _).mp isActivity) pending source
    exact ⟨lt, fun x h => only x (holds x p h)⟩

/-- The handle of an activity is taken from the queue and its coroutine runs. -/
theorem Consistent.wake (c : Consistent made r s) {h : Handle} {rest : List Handle}
    (ready : s.ready = h :: rest) (steps : s.steps h t) {task : Task}
    (isTask : s.tasks t = some task) (root : task.root = .activity) (alive : s.isDone t = false) :
    Turn made r t
      ((s.setReady rest).setTask t { task with mustCancel := false, point := .running }) := by
  have pop : Moves [.pop] s (s.setReady rest) := .of_move (by simp) (.pop s ready steps.stays)
  have popped := c.foreign pop (by simp [Kind.foreign]) (by simp [Kind.spares])
  have wake : Move (.wake t) (s.setReady rest)
      ((s.setReady rest).setTask t { task with mustCancel := false, point := .running }) :=
    .wake _ isTask alive
  have moves : Moves [.wake t] (s.setReady rest) _ := .of_move (by simp) wake
  obtain ⟨noStep, idle⟩ := c.woken.once ready steps isTask root
  exact {
    toSound := moves.sound popped.toSound (popped.woken.run isTask root noStep idle)
    books := popped.books.run isTask
    calls := popped.calls.trans (wake.sameCalls popped.wf rfl)
    running := ⟨_, Function.update_self .., root, rfl⟩
    noStep := noStep }

/-- The coroutine has come to its end or waits for something else. -/
theorem TurnDone.stepNext {result : Except Exc (Option Obj)} (done : TurnDone made r t (result, s))
    (alive : s.isDone t = false) :
    ∃ made' r', Reissued made r t made' r' ∧
      Consistent made' r' (stepNext t (.done result) s).2 := by
  obtain ⟨made', r', reissued, left⟩ := done
  refine ⟨made', r', reissued, ?_⟩
  change Consistent made' r' ((stepEnd t result >>= fun _ => pure none) s).2
  rw [bind_pure_state]
  cases result with
  | error e => exact Turn.finishTask left alive (.error e)
  | ok a =>
    cases a with
    | none => exact Rested.afterSuspend left
    | some v => exact Turn.finishTask left alive (.ok v)

/-- A step of the task of an activity. -/
theorem Consistent.stepTask (c : Consistent made r s) {h : Handle} {rest : List Handle}
    (ready : s.ready = h :: rest) (steps : s.steps h t) (isActivity : s.ofRoot t .activity)
    (det : Details σ) (input : Except Exc Obj)
    (paid : ∀ b, input = .error (.activityDoBackoff b) → ¬made (s.activities t).seq) :
    ∃ made' r', Reissued made r t made' r' ∧
      Consistent made' r' (stepTask det t input (s.setReady rest)).2 := by
  obtain ⟨⟨root, point, mustCancel, cancelling⟩, isTask, rfl⟩ := isActivity
  have isTask' : (s.setReady rest).tasks t = some ⟨.activity, point, mustCancel, cancelling⟩ := isTask
  simp only [TemporalSdk.Workflow.stepTask, state_bind_run, isTask']
  cases finished : (s.setReady rest).isDone t with
  | true =>
    refine ⟨made, r, .same, c.foreign (K := [.pop]) ?_ (by simp [Kind.foreign])
      (by simp [Kind.spares])⟩
    exact .of_move (by simp) (.pop s ready steps.stays)
  | false =>
    simp only [Bool.false_eq_true, ↓reduceIte, update_bind_run]
    have turn := c.wake ready steps isTask rfl finished
    have running : ((s.setReady rest).setTask t ⟨.activity, .running, false, cancelling⟩).tasks t =
        some ⟨.activity, .running, false, cancelling⟩ := Function.update_self ..
    have notFinish : Kind.finish t ∉ Task.kinds t ⟨.activity, point, mustCancel, cancelling⟩ :=
      fun member => by cases Task.kinds_ofTask _ t _ member
    have body := resume_moves det t ⟨.activity, point, mustCancel, cancelling⟩
      (if mustCancel then .error .cancelled else input)
      ((s.setReady rest).setTask t ⟨.activity, .running, false, cancelling⟩)
    have alive := (body.alive turn.wf notFinish running).2.trans finished
    obtain ⟨result, s', run, done⟩ := turn.resume det point
      (if mustCancel then .error .cancelled else input)
      (fun sleeps => c.books.asleep t _ isTask rfl sleeps) (fun b backoff => by
        split at backoff
        · cases backoff
        · exact paid b backoff)
    rw [run] at alive
    rw [bind_ok run]
    exact done.stepNext alive

/-- Running a handle that makes an activity go on. -/
theorem Consistent.handleRun (c : Consistent made r s) {h : Handle} {rest : List Handle}
    (ready : s.ready = h :: rest) (steps : s.steps h t) (isActivity : s.ofRoot t .activity)
    (det : Details σ) :
    ∃ made' r', Reissued made r t made' r' ∧
      Consistent made' r' (handleRun det h (s.setReady rest)).2 := by
  have first : h ∈ s.ready := by simp [ready]
  have called : ∃ input, handleCallback det h (s.setReady rest) =
      TemporalSdk.Workflow.stepTask det t input (s.setReady rest) ∧
        ∀ b, input = .error (.activityDoBackoff b) → ¬made (s.activities t).seq := by
    rcases steps with rfl | ⟨f, rfl⟩ | ⟨o, rfl, owner⟩
    · exact ⟨_, rfl, fun b backoff => by cases backoff⟩
    · obtain ⟨task, isTask, other⟩ := c.woken.callback t f first
      obtain ⟨task', isTask', root⟩ := isActivity
      rw [isTask, Option.some.injEq] at isTask'
      exact absurd (isTask' ▸ root) other
    · refine ⟨(s.outers o).state.outcome, by rw [← owner]; rfl, fun b backoff => ?_⟩
      have isBackoff : (s.outers o).state = .done (.backoff b) := by
        cases state : (s.outers o).state with
        | pending => rw [state] at backoff; cases backoff
        | cancelled => rw [state] at backoff; cases backoff
        | done outcome =>
          rw [state] at backoff
          cases outcome with
          | result v => cases backoff
          | exception e => cases backoff
          | backoff b' => cases backoff; rfl
      rw [← owner] at isActivity ⊢
      exact c.books.waiting o (c.woken.bound o first) isActivity ⟨b, .inl ⟨isBackoff, first⟩⟩
  obtain ⟨input, run, paid⟩ := called
  obtain ⟨made', r', reissued, consistent⟩ :=
    c.stepTask ready steps isActivity det input paid
  refine ⟨made', r', reissued, ?_⟩
  rw [← run] at consistent
  cases ran : handleCallback det h (s.setReady rest) with
  | mk outcome s₁ =>
    rw [ran] at consistent
    cases outcome with
    | ok ctx =>
      rw [handleRun_ok ran]
      exact consistent
    | error e =>
      have noted := callExceptionHandler_moves (K := [.book]) (by simp) s₁
      rw [handleRun_error ran]
      split
      · exact consistent
      · exact consistent.foreign noted (by simp [Kind.foreign]) (by simp [Kind.spares])

end TemporalSdk.Workflow
