import TemporalSdk.Workflow.LoopEffects

/-!
# Coroutines and outbound calls as moves

A coroutine that works on its own task `t` needs `Kind.own t`, an outbound call
`Kind.issue`, and one whose command may stay without a registration
`Kind.broken`. A program is given with the state it starts in where the moves it
makes depend on what it has just read.
-/
namespace TemporalSdk.Workflow

open Eff

variable {σ : Type} {K : List Kind}

/-! ### A coroutine and its task -/

theorem setPoint_moves {t : FutId} (own : Kind.own t ∈ K) {point : Point}
    (notStart : point ≠ .start) {s : Inst σ}
    (stands : ∀ o, point.waiter = .outer o → o < s.nextOuter ∧ (s.outers o).owner = t) :
    Moves K s (setPoint t point s).2 := by
  rw [setPoint, update_run, Inst.mapTask]
  cases isTask : s.tasks t with
  | none => exact Std.Refl.refl s
  | some task => exact .of_atom (by simp [own]) (.setPoint s isTask notStart stands)

/-- The same for a point at which no outer future is awaited. -/
theorem setPoint_steady {t : FutId} (own : Kind.own t ∈ K) {point : Point}
    (notStart : point ≠ .start) (noOuter : ∀ o, point.waiter ≠ .outer o) :
    Steady (Moves K) (setPoint t point : Wf σ Unit) :=
  fun _ => setPoint_moves own notStart fun o waits => absurd waits (noOuter o)

theorem addWakeup_moves {t : FutId} (own : Kind.own t ∈ K) (f : FutId) :
    Steady (Moves K) (addDoneCallback f (.wakeup t) : Wf σ Unit) := by
  intro s
  simp only [addDoneCallback, state_bind_run]
  split
  next done =>
    rw [callSoon_run]
    split
    · exact Std.Refl.refl s
    next writable => exact .of_atom (by simp [own]) (.wakeup s t f (by simpa using writable) done)
  · exact .of_atom (by simp [own]) (.addWakeup s t f)

theorem suspendOn_moves {t : FutId} (own : Kind.own t ∈ K) {point : Point}
    (notStart : point ≠ .start) (noOuter : ∀ o, point.waiter ≠ .outer o) (f : FutId) :
    Steady (Moves K) (suspendOn t point f : Wf σ Unit) :=
  .bind (addWakeup_moves own f) fun _ => setPoint_steady own notStart noOuter

theorem suspendShield_run (t : FutId) (p : PromiseId) (point : OuterId → Point) (s : Inst σ) :
    suspendShield t p point s = setPoint t (point s.nextOuter) (s.shielded t p) := by
  simp only [suspendShield, state_bind_run, update_bind_run, Inst.setOuter, Inst.setPromise,
    Inst.shielded]

theorem suspendShield_moves {t : FutId} (own : Kind.own t ∈ K) {p : PromiseId}
    {point : OuterId → Point} (notStart : ∀ o, point o ≠ .start)
    (waits : ∀ o, (point o).waiter = .outer o) {s : Inst σ}
    (pending : (s.promises p).state = none) : Moves K s (suspendShield t p point s).2 := by
  have shielded : Moves K s (s.shielded t p) := .of_atom (by simp [own]) (.shield s t pending)
  rw [suspendShield_run]
  refine IsTrans.trans _ _ _ shielded (setPoint_moves own (notStart _) fun o at_o => ?_)
  rw [waits, Waiter.outer.injEq] at at_o
  subst at_o
  exact ⟨Nat.lt_succ_self _, by simp [Inst.shielded]⟩

theorem afterSuspend_moves {t : FutId} (own : Kind.own t ∈ K) :
    Steady (Moves K) (afterSuspend t : Wf σ Unit) := by
  intro s
  simp only [afterSuspend, state_bind_run]
  cases isTask : s.tasks t with
  | none => exact Std.Refl.refl s
  | some task =>
    dsimp only
    split
    · exact callSoon_moves (k := .own t) (by simp [own]) (fun s writable => .yield s t writable) s
    · split
      · refine bind_steady_at (waiterCancel_moves cancelFut_moves isTask) fun passedOn s₁ _ => ?_
        split
        · rw [update_run, Inst.mapTask]
          cases isTask₁ : s₁.tasks t with
          | none => exact Std.Refl.refl s₁
          | some task₁ => exact .of_atom (by simp [own]) (.clearCancel s₁ isTask₁)
        · exact Steady.pure _ s₁
      · exact Steady.pure _ s

/-- A shielded promise that is done is not waited for. -/
theorem awaitShield_moves {t : FutId} (own : Kind.own t ∈ K) (p : PromiseId)
    {point : OuterId → Point} (notStart : ∀ o, point o ≠ .start)
    (waits : ∀ o, (point o).waiter = .outer o) :
    Steady (Moves K) (awaitShield t p point : Wf σ (Option Obj)) := by
  intro s
  simp only [awaitShield, state_bind_run]
  cases pending : (s.promises p).state with
  | some outcome => cases outcome <;> exact Std.Refl.refl s
  | none =>
    exact bind_steady_at (suspendShield_moves own notStart waits pending)
      fun _ s₁ _ => Steady.pure _ s₁

/-! ### Activities -/

/-- A sequence number and a promise have been taken. -/
def Inst.promised (s : Inst σ) (kind : SeqKind) : Inst σ :=
  { s with
    currSeqs := Function.update s.currSeqs kind (s.currSeqs kind + 1)
    promises := Function.update s.promises s.nextPromise ⟨none, []⟩
    nextPromise := s.nextPromise + 1 }

theorem newActivityHandle_run (input : StartActivityInput) (s : Inst σ) :
    newActivityHandle input s =
      if s.readOnly then (.error (.error (.readOnlyContext "schedule task")), s)
      else if s.deleting then (.error .workflowBeingEvicted, s.activitySpawned input)
      else (.ok s.nextFut, s.activityCreated input) := by
  cases readOnly : s.readOnly with
  | true => simp [newActivityHandle, bind_run, assertNotReadOnly_run, readOnly]
  | false =>
    have guard : assertNotReadOnly "schedule task" true s = (.ok (), s) := by
      simp [assertNotReadOnly_run, readOnly]
    have spawned : newTask .activity (s.promised .activity) =
        (.ok s.nextFut, (s.promised .activity).spawned .activity) := by
      rw [newTask_run, show (s.promised .activity).readOnly = false from readOnly]
      rfl
    have taken : nextSeq .activity s = (.ok (s.currSeqs .activity + 1), { s with
        currSeqs := Function.update s.currSeqs .activity (s.currSeqs .activity + 1) }) := rfl
    have promised : createPromise { s with
        currSeqs := Function.update s.currSeqs .activity (s.currSeqs .activity + 1) } =
        (.ok s.nextPromise, s.promised .activity) := rfl
    rw [newActivityHandle, bind_ok guard, bind_ok taken, bind_ok promised, bind_ok spawned,
      update_bind_run, bind_run, registerTask_run (by exact readOnly) (by
        simp [Inst.isDone, Inst.spawned, Inst.setActivity, Inst.promised, FutState.done])]
    cases deleting : s.deleting with
    | true =>
      simp [Inst.spawned, Inst.setActivity, Inst.promised, deleting, Inst.activitySpawned,
        Inst.activityMade]
    | false =>
      simp [Inst.spawned, Inst.setActivity, Inst.promised, Inst.setFut, deleting,
        Inst.activityCreated, Inst.activityMade]

theorem newActivityHandle_moves (issue : Kind.issue ∈ K) (input : StartActivityInput) :
    Steady (Moves K) (newActivityHandle input : Wf σ FutId) := by
  intro s
  rw [newActivityHandle_run]
  split
  · exact Std.Refl.refl s
  next writable =>
    have writable : s.readOnly = false := by simpa using writable
    split
    next evicting => exact .of_atom (by simp [issue]) (.strayActivity s input evicting writable)
    next alive =>
      exact .of_atom (by simp [issue]) (.newActivity s input (by simp [Inst.open, alive, writable]))

theorem convertArgs_ok {det : Details σ} {args : List Obj} {s s' : Inst σ}
    {payloads : List Payload} (h : convertArgs det args s = (.ok payloads, s')) : s' = s := by
  unfold convertArgs at h
  split at h
  · cases h
    rfl
  · exact (raiseError_ok h).2

theorem applyRetryPolicy_run (policy : Option RetryPolicy) (s : Inst σ) :
    ∃ r, applyRetryPolicy policy s = (r, s) ∧ (r = .ok () ↔ validRetryPolicy policy = true) := by
  cases policy with
  | none => exact ⟨.ok (), rfl, by simp [validRetryPolicy]⟩
  | some p =>
    cases validated : p.applyToProto with
    | ok u =>
      exact ⟨.ok (), by simp [applyRetryPolicy, raiseError, validated],
        by simp [validRetryPolicy, validated, Except.toBool]⟩
    | error e =>
      exact ⟨.error (.error e), by simp [applyRetryPolicy, raiseError, validated],
        by simp [validRetryPolicy, validated, Except.toBool]⟩

theorem addCommand_closed {c : Command} {s : Inst σ} (closed : s.open = false) :
    ∃ e, addCommand c s = (.error e, s) := by
  rw [addCommand_run, closed]
  cases deleting : s.deleting <;> cases readOnly : s.readOnly <;>
    simp_all [Inst.open, assertNotReadOnly_run, Except.map]

/-- The command of an activity and its registration. A retry policy that is not
valid leaves the command in the completion, without a registration. -/
theorem schedule_moves {α : Type} (det : Details σ) {t : FutId} (backoff : Option DoBackoff)
    (issue : Kind.issue ∈ K) (broken : Kind.broken ∈ K) {s : Inst σ} {rest : Wf σ α}
    (steady : Steady (Moves K) rest) :
    Moves K s ((do
      applyScheduleCommand det (s.activities t) backoff
      setPendingActivity t
      rest) s).2 := by
  simp only [applyScheduleCommand]
  cases converted : convertArgs det (s.activities t).input.args s with
  | mk r s₁ =>
    cases r with
    | error e =>
      have same := convertArgs_steady (R := Eq) det (s.activities t).input.args s
      rw [converted] at same
      rw [bind_error (bind_error converted), ← same]
      exact Std.Refl.refl s
    | ok payloads =>
      obtain rfl := convertArgs_ok converted
      cases isOpen : s₁.open with
      | false =>
        obtain ⟨e, refused⟩ :=
          addCommand_closed (c := (s₁.activities t).scheduleCommand backoff) isOpen
        rw [bind_error ((bind_ok converted).trans (bind_error refused))]
        exact Std.Refl.refl s₁
      | true =>
        have added := addCommand_open (c := (s₁.activities t).scheduleCommand backoff) isOpen
        obtain ⟨r, applied, valid⟩ := applyRetryPolicy_run (s₁.activities t).input.retryPolicy
          (s₁.pushCommand ((s₁.activities t).scheduleCommand backoff))
        cases r with
        | error e =>
          rw [bind_error ((bind_ok converted).trans ((bind_ok added).trans applied))]
          have invalid : validRetryPolicy (s₁.activities t).input.retryPolicy = false := by
            simpa using valid
          exact .of_atom (by simp [broken]) (.scheduleBroken s₁ t backoff isOpen invalid)
        | ok u =>
          rw [bind_ok ((bind_ok converted).trans ((bind_ok added).trans applied))]
          have registered : Moves K s₁ (s₁.scheduled t backoff) :=
            .of_atom (by simp [issue]) (.schedule s₁ t backoff isOpen (valid.mp rfl))
          exact registered.trans (steady _)

theorem outboundScheduleActivity_moves (issue : Kind.issue ∈ K) (broken : Kind.broken ∈ K)
    (det : Details σ) (input : StartActivityInput) :
    Steady (Moves K) (outboundScheduleActivity det input) := by
  unfold outboundScheduleActivity
  split
  · exact .raise _
  · refine .bind (newActivityHandle_moves issue input) fun t s => ?_
    rw [state_bind_run]
    exact schedule_moves det none issue broken (.pure t)

theorem workflowStartActivity_moves (issue : Kind.issue ∈ K) (broken : Kind.broken ∈ K)
    (det : Details σ) (input : StartActivityInput) :
    Steady (Moves K) (workflowStartActivity det input) := by
  have guarded : Steady (Moves K) (startActivityGuard input : Wf σ Unit) := by
    unfold startActivityGuard
    split
    · exact .pure _
    · exact assertNotReadOnly_moves _ _
  exact .bind guarded fun _ => .bind (outboundScheduleActivity_moves issue broken det input)
    fun t => .bind (atom_steady (by simp [issue]) fun s => .returned s t) fun _ => .pure _

theorem callLater_outers {delay : Int} {callback : TimerCallback} {s s' : Inst σ}
    {r : Except Exc Nat} (run : callLater delay callback s = (r, s')) :
    s'.nextOuter = s.nextOuter ∧ s'.outers = s.outers := by
  rw [callLater_run] at run
  split at run
  · cases run
    exact ⟨rfl, rfl⟩
  · split at run
    · cases run
      exact ⟨rfl, rfl⟩
    · split at run <;> cases run <;> exact ⟨rfl, rfl⟩

/-- The delay of a backoff fits into a timer command. -/
theorem DoBackoff.toTimedelta_holds {b : DoBackoff} {delay : Int}
    (converted : b.toTimedelta = .ok delay) : timerHolds delay = true := by
  unfold DoBackoff.toTimedelta at converted
  split at converted
  next holds =>
    cases converted
    simp only [timedeltaHolds, Bool.and_eq_true, decide_eq_true_eq] at holds
    simp only [timerHolds, decide_eq_true_eq]
    omega
  · cases converted

theorem activityBackoff_moves {t : FutId} (own : Kind.own t ∈ K) (sleep : Kind.sleep t ∈ K)
    (b : DoBackoff) : Steady (Moves K) (activityBackoff t b : Wf σ (Option Obj)) := by
  intro s₀
  unfold activityBackoff
  cases converted : b.toTimedelta with
  | error e =>
    exact Std.Refl.refl s₀
  | ok delay =>
  simp only [raiseError, pure_bind_run]
  split
  · exact Steady.bind (setPoint_steady own (by simp) (by simp [Point.waiter])) (fun _ => .pure _) s₀
  · simp only [state_bind_run, update_bind_run]
    have slept : Moves K s₀ { s₀.setOuter s₀.nextOuter ⟨t, none, .pending⟩ with
        nextOuter := s₀.nextOuter + 1 } := .of_atom (by simp [own]) (.sleepOuter s₀ t)
    have bound : s₀.nextOuter < ({ s₀.setOuter s₀.nextOuter ⟨t, none, .pending⟩ with
        nextOuter := s₀.nextOuter + 1 } : Inst σ).nextOuter := Nat.lt_succ_self _
    have owner : (({ s₀.setOuter s₀.nextOuter ⟨t, none, .pending⟩ with
        nextOuter := s₀.nextOuter + 1 } : Inst σ).outers s₀.nextOuter).owner = t := by
      simp [Inst.setOuter]
    generalize ({ s₀.setOuter s₀.nextOuter ⟨t, none, .pending⟩ with
        nextOuter := s₀.nextOuter + 1 } : Inst σ) = s at slept bound owner ⊢
    refine slept.trans (bind_steady_at ?_ fun seq s₁ run => bind_steady_at
      (setPoint_moves own (by simp) fun o waits => ?_) fun _ s₂ _ => Steady.pure _ s₂)
    · rw [callLater_run]
      split
      · exact Std.Refl.refl s
      next isOpen =>
        have isOpen : s.open = true := by simpa using isOpen
        split
        · exact Std.Refl.refl s
        · rw [if_pos (DoBackoff.toTimedelta_holds converted)]
          exact .of_atom (by simp [sleep]) (.sleepTimer s t _ _ isOpen bound owner)
    · obtain ⟨sameNext, sameOuters⟩ := callLater_outers run
      simp only [Point.waiter, Waiter.outer.injEq] at waits
      subst waits
      rw [sameNext, sameOuters]
      exact ⟨bound, owner⟩

theorem activityOutcome_moves {t : FutId} (own : Kind.own t ∈ K) (sleep : Kind.sleep t ∈ K)
    (outcome : PromiseOutcome) :
    Steady (Moves K) (activityOutcome t outcome : Wf σ (Option Obj)) := by
  cases outcome with
  | result v => exact .pure _
  | exception e => exact .raise _
  | backoff b => exact activityBackoff_moves own sleep b

theorem activityLoop_moves {t : FutId} (own : Kind.own t ∈ K) (sleep : Kind.sleep t ∈ K) :
    Steady (Moves K) (activityLoop t : Wf σ (Option Obj)) := by
  refine .bind (atom_steady (by simp [own]) fun s => .started s t) fun _ s => ?_
  simp only [state_bind_run]
  cases pending : (s.promises (s.activities t).resultFut).state with
  | some outcome => exact activityOutcome_moves own sleep outcome s
  | none =>
    exact bind_steady_at (suspendShield_moves own (by simp) (fun _ => rfl) pending)
      fun _ s₁ _ => Steady.pure _ s₁

theorem activityReschedule_moves (det : Details σ) {t : FutId} (own : Kind.own t ∈ K)
    (sleep : Kind.sleep t ∈ K) (issue : Kind.issue ∈ K) (broken : Kind.broken ∈ K) (b : DoBackoff) :
    Steady (Moves K) (activityReschedule det t b) := by
  intro s
  rw [activityReschedule, state_bind_run]
  exact schedule_moves det (some b) issue broken (activityLoop_moves own sleep)

theorem activityStart_moves {t : FutId} (own : Kind.own t ∈ K) (sleep : Kind.sleep t ∈ K) :
    Steady (Moves K) (activityStart t : Wf σ (Option Obj)) := by
  refine .read fun s => ?_
  split
  · exact activityLoop_moves own sleep
  · exact .raise _

/-- A command that a coroutine adds when it is cancelled. -/
theorem addCancel_moves {k : Kind} (member : k ∈ K) {c : Command} {s : Inst σ}
    (atom : s.open = true → Atom k s (s.pushCommand c)) : Moves K s (addCommand c s).2 := by
  rw [addCommand_run]
  split
  next isOpen => exact .of_atom (by simp [member]) (atom isOpen)
  · exact Std.Refl.refl s

theorem activityWake_moves {t : FutId} (own : Kind.own t ∈ K) (sleep : Kind.sleep t ∈ K)
    (input : Except Exc Obj) :
    Steady (Moves K) (activityWake t input : Wf σ (Option Obj)) := by
  unfold activityWake
  split
  · exact .pure _
  · exact activityBackoff_moves own sleep _
  · intro s
    rw [state_bind_run]
    exact bind_steady_at (addCancel_moves own fun isOpen => .cancelOwn s t isOpen)
      fun _ s₁ _ => activityLoop_moves own sleep s₁
  · exact .raise _

/-- The timer of the sleep is the coroutine's own. -/
theorem sleepTimerCancel_moves {t : FutId} (sleep : Kind.sleep t ∈ K) (timer : Nat) :
    Steady (Moves K) (timerCancel timer : Wf σ Unit) :=
  fun _ => timerCancel_moves sleep (.inl ⟨t, rfl⟩)

theorem activitySleepWake_moves (det : Details σ) {t : FutId} (own : Kind.own t ∈ K)
    (sleep : Kind.sleep t ∈ K) (issue : Kind.issue ∈ K) (broken : Kind.broken ∈ K)
    (b : DoBackoff) (timer : Nat) (input : Except Exc Obj) :
    Steady (Moves K) (activitySleepWake det t b timer input) := by
  refine .bind (sleepTimerCancel_moves sleep timer) fun _ => ?_
  split
  · exact activityReschedule_moves det own sleep issue broken b
  · exact .raise _

theorem activitySleepZeroWake_moves (det : Details σ) {t : FutId} (own : Kind.own t ∈ K)
    (sleep : Kind.sleep t ∈ K) (issue : Kind.issue ∈ K) (broken : Kind.broken ∈ K)
    (b : DoBackoff) (input : Except Exc Obj) :
    Steady (Moves K) (activitySleepZeroWake det t b input) := by
  unfold activitySleepZeroWake
  split
  · exact activityReschedule_moves det own sleep issue broken b
  · exact .raise _

/-! ### Child workflows -/

/-- The conversions that come after the start command of a child succeed. -/
def StartChildWorkflowInput.valid (input : StartChildWorkflowInput) (det : Details σ) : Bool :=
  validRetryPolicy input.retryPolicy && (input.memo.all fun v => (det.toPayloads [v]).toBool) &&
    input.searchAttributes.all fun attributes => (det.encodeSearchAttributes attributes).toBool

def Inst.childSeqTaken (s : Inst σ) : Inst σ :=
  { s with currSeqs := Function.update s.currSeqs .childWorkflow (s.currSeqs .childWorkflow + 1) }

/-- Two promises have been taken. -/
def Inst.twicePromised (s : Inst σ) : Inst σ :=
  { s with
    promises := Function.update (Function.update s.promises s.nextPromise ⟨none, []⟩)
      (s.nextPromise + 1) ⟨none, []⟩
    nextPromise := s.nextPromise + 2 }

theorem newChildWorkflowHandle_run (input : StartChildWorkflowInput) (s : Inst σ) :
    newChildWorkflowHandle input s =
      if s.readOnly then (.error (.error (.readOnlyContext "schedule task")), s.childSeqTaken)
      else if s.deleting then (.error .workflowBeingEvicted, s.childSeqTaken.childSpawned input)
      else (.ok s.nextFut, s.childSeqTaken.childCreated input) := by
  have taken : nextSeq .childWorkflow s = (.ok (s.currSeqs .childWorkflow + 1), s.childSeqTaken) :=
    rfl
  cases readOnly : s.readOnly with
  | true =>
    rw [newChildWorkflowHandle, bind_ok taken]
    have refused : assertNotReadOnly "schedule task" true s.childSeqTaken =
        (.error (.error (.readOnlyContext "schedule task")), s.childSeqTaken) := by
      rw [assertNotReadOnly_run]
      simp [Inst.childSeqTaken, readOnly]
    rw [bind_error refused]
    rfl
  | false =>
    have guard : assertNotReadOnly "schedule task" true s.childSeqTaken = (.ok (), s.childSeqTaken) := by
      rw [assertNotReadOnly_run]
      simp [Inst.childSeqTaken, readOnly]
    have spawned : newTask .child s.childSeqTaken.twicePromised =
        (.ok s.nextFut, s.childSeqTaken.twicePromised.spawned .child) := by
      rw [newTask_run, show s.childSeqTaken.twicePromised.readOnly = false from readOnly]
      rfl
    have first : createPromise s.childSeqTaken =
        (.ok s.nextPromise, { s.childSeqTaken.setPromise s.nextPromise ⟨none, []⟩ with
          nextPromise := s.nextPromise + 1 }) := rfl
    have second : createPromise { s.childSeqTaken.setPromise s.nextPromise ⟨none, []⟩ with
          nextPromise := s.nextPromise + 1 } =
        (.ok (s.nextPromise + 1), s.childSeqTaken.twicePromised) := rfl
    rw [newChildWorkflowHandle, bind_ok taken, bind_ok guard, bind_ok first, bind_ok second,
      bind_ok spawned, update_bind_run, bind_run, registerTask_run
      (by simpa [Inst.spawned, Inst.setChild, Inst.twicePromised, Inst.childSeqTaken] using readOnly)
      (by simp [Inst.isDone, Inst.spawned, Inst.setChild, Inst.twicePromised, Inst.childSeqTaken,
        FutState.done])]
    cases deleting : s.deleting with
    | true =>
      simp [Inst.spawned, Inst.setChild, Inst.childSeqTaken, Inst.twicePromised, deleting,
        Inst.childSpawned, Inst.childMade]
    | false =>
      simp [Inst.spawned, Inst.setChild, Inst.childSeqTaken, Inst.twicePromised, Inst.setFut,
        deleting, Inst.childCreated, Inst.childMade]

theorem newChildWorkflowHandle_moves (issue : Kind.issue ∈ K) (input : StartChildWorkflowInput) :
    Steady (Moves K) (newChildWorkflowHandle input : Wf σ FutId) := by
  intro s
  have taken : Moves K s s.childSeqTaken := .of_atom (by simp [issue]) (.childSeq s)
  rw [newChildWorkflowHandle_run]
  refine taken.trans ?_
  split
  · exact Std.Refl.refl _
  next writable =>
    have writable : s.readOnly = false := by simpa using writable
    split
    next evicting => exact .of_atom (by simp [issue]) (.strayChild _ input evicting writable)
    next alive =>
      exact .of_atom (by simp [issue])
        (.newChild _ input (by simp [Inst.open, Inst.childSeqTaken, alive, writable]))

/-- What is converted after the start command of a child has been added. -/
def convertRest (det : Details σ) (input : StartChildWorkflowInput) : Wf σ Unit := do
  applyRetryPolicy input.retryPolicy
  input.memo.forM fun v => do
    let _ ← raiseError (det.toPayloads [v])
    pure ()
  match input.searchAttributes with
  | some attributes => raiseError (det.encodeSearchAttributes attributes)
  | none => pure ()

theorem applyStartCommand_eq (det : Details σ) (h : ChildWorkflowHandle) :
    applyStartCommand det h = (do
      let _ ← convertArgs det h.input.args
      let _ ← addCommand (.startChildWorkflowExecution h.seq)
      convertRest det h.input) := rfl

theorem convertMemo_run (det : Details σ) (memo : List Obj) (s : Inst σ) :
    ∃ r, (memo.forM fun v => do
        let _ ← raiseError (det.toPayloads [v])
        pure () : Wf σ PUnit) s = (r, s) ∧
      ((memo.all fun v => (det.toPayloads [v]).toBool) = true → r = .ok ()) := by
  induction memo with
  | nil => exact ⟨.ok (), rfl, fun _ => rfl⟩
  | cons v memo ih =>
    obtain ⟨r, run, ok⟩ := ih
    simp only [List.forM]
    cases converted : det.toPayloads [v] with
    | error e =>
      refine ⟨.error (.error e), by simp [bind_run, raiseError], fun valid => ?_⟩
      simp [converted, Except.toBool] at valid
    | ok payloads =>
      refine ⟨r, by simpa [bind_run, raiseError] using run, fun valid => ok ?_⟩
      simp only [List.all_cons, Bool.and_eq_true] at valid
      exact valid.2

theorem convertRest_run (det : Details σ) (input : StartChildWorkflowInput) (s : Inst σ) :
    ∃ r, convertRest det input s = (r, s) ∧ (input.valid det = true → r = .ok ()) := by
  obtain ⟨r, policy, valid⟩ := applyRetryPolicy_run input.retryPolicy s
  obtain ⟨r', memo, valid'⟩ := convertMemo_run det input.memo s
  simp only [convertRest, StartChildWorkflowInput.valid, Bool.and_eq_true]
  cases r with
  | error e => exact ⟨_, bind_error policy, fun h => by simp [← valid] at h⟩
  | ok u =>
    rw [bind_ok policy]
    cases r' with
    | error e => exact ⟨_, bind_error memo, fun h => by simp [valid' h.1.2]⟩
    | ok u' =>
      rw [bind_ok memo]
      cases attributes : input.searchAttributes with
      | none => exact ⟨.ok (), rfl, fun _ => rfl⟩
      | some a =>
        cases encoded : det.encodeSearchAttributes a with
        | ok u => exact ⟨.ok (), by simp [raiseError, encoded], fun _ => rfl⟩
        | error e =>
          exact ⟨.error (.error e), by simp [raiseError, encoded], fun h => by
            simp [encoded, Except.toBool] at h⟩

/-- The start command of a child and its registration. -/
theorem startChild_moves {α : Type} (det : Details σ) {c : FutId} (issue : Kind.issue ∈ K)
    {s : Inst σ} (broken : (s.children c).input.valid det = false → Kind.broken ∈ K)
    {rest : Wf σ α} (steady : Steady (Moves K) rest) :
    Moves K s ((do
      applyStartCommand det (s.children c)
      setPendingChildWorkflow c
      rest) s).2 := by
  simp only [applyStartCommand_eq]
  cases converted : convertArgs det (s.children c).input.args s with
  | mk r s₁ =>
    cases r with
    | error e =>
      have same := convertArgs_steady (R := Eq) det (s.children c).input.args s
      rw [converted] at same
      rw [bind_error (bind_error converted), ← same]
      exact Std.Refl.refl s
    | ok payloads =>
      obtain rfl := convertArgs_ok converted
      cases isOpen : s₁.open with
      | false =>
        obtain ⟨e, refused⟩ := addCommand_closed
          (c := .startChildWorkflowExecution (s₁.children c).seq) isOpen
        rw [bind_error ((bind_ok converted).trans (bind_error refused))]
        exact Std.Refl.refl s₁
      | true =>
        have added := addCommand_open (c := .startChildWorkflowExecution (s₁.children c).seq) isOpen
        obtain ⟨r, applied, valid⟩ := convertRest_run det (s₁.children c).input
          (s₁.pushCommand (.startChildWorkflowExecution (s₁.children c).seq))
        cases r with
        | error e =>
          rw [bind_error ((bind_ok converted).trans ((bind_ok added).trans applied))]
          have invalid : (s₁.children c).input.valid det = false := by simpa using valid
          exact .of_atom (by simp [broken invalid]) (.startChildBroken s₁ c isOpen)
        | ok u =>
          rw [bind_ok ((bind_ok converted).trans ((bind_ok added).trans applied))]
          have registered : Moves K s₁ (s₁.childStarted c) :=
            .of_atom (by simp [issue]) (.startChild s₁ c isOpen)
          exact registered.trans (steady _)

theorem startChildLoop_moves {t : FutId} (own : Kind.own t ∈ K) (c : FutId) :
    Steady (Moves K) (startChildLoop t c : Wf σ (Option Obj)) :=
  .read fun _ => .bind (awaitShield_moves own _ (by simp) (fun _ => rfl)) fun _ => .pure _

theorem outboundStartChildWorkflow_moves (det : Details σ) {t : FutId} (own : Kind.own t ∈ K)
    (issue : Kind.issue ∈ K) (input : StartChildWorkflowInput)
    (broken : input.valid det = false → Kind.broken ∈ K) :
    Steady (Moves K) (outboundStartChildWorkflow det t input) := by
  intro s
  refine bind_steady_at (newChildWorkflowHandle_moves issue input s) fun c s₁ run => ?_
  have created : (s₁.children c).input = input := by
    rw [newChildWorkflowHandle_run] at run
    split at run
    · simp at run
    · split at run
      · simp at run
      · simp only [Prod.mk.injEq, Except.ok.injEq] at run
        rw [← run.1, ← run.2]
        simp [Inst.childCreated, Inst.childMade, Inst.childSeqTaken]
  rw [state_bind_run]
  exact startChild_moves det issue (by rw [created]; exact broken) (startChildLoop_moves own c)

theorem applyChildCancelError_moves {t : FutId} (own : Kind.own t ∈ K) (c : FutId) :
    Steady (Moves K) (applyChildCancelError c : Wf σ Unit) := by
  intro s
  rw [applyChildCancelError, state_bind_run]
  exact bind_steady_at (addCancel_moves own fun isOpen => .cancelChild s t c isOpen)
    fun _ s₁ _ => Steady.pure _ s₁

theorem startChildWake_moves {t : FutId} (own : Kind.own t ∈ K) (c : FutId)
    (input : Except Exc Obj) : Steady (Moves K) (startChildWake t c input : Wf σ (Option Obj)) := by
  unfold startChildWake
  split
  · exact .pure _
  · exact .bind (applyChildCancelError_moves own c) fun _ => startChildLoop_moves own c
  · exact .raise _

theorem childStart_moves {t : FutId} (own : Kind.own t ∈ K) :
    Steady (Moves K) (childStart t : Wf σ (Option Obj)) := by
  refine .read fun s => ?_
  split
  · exact awaitShield_moves own _ (by simp) (fun _ => rfl)
  · exact .raise _

theorem childWake_moves {t : FutId} (own : Kind.own t ∈ K) (input : Except Exc Obj) :
    Steady (Moves K) (childWake t input : Wf σ (Option Obj)) := by
  unfold childWake
  split
  · exact .pure _
  · exact .bind (applyChildCancelError_moves own t) fun _ => .read fun _ =>
      awaitShield_moves own _ (by simp) (fun _ => rfl)
  · exact .raise _

/-! ### External workflows -/

/-- A program that starts with the guard against read-only contexts and eviction. -/
theorem guard_run {action : String} {s : Inst σ} (isOpen : s.open = true) :
    assertNotReadOnly action false s = (.ok (), s) := by
  cases deleting : s.deleting <;> cases readOnly : s.readOnly <;>
    simp_all [assertNotReadOnly_run, Inst.open]

theorem signalExternalWorkflow_moves (det : Details σ) {t : FutId} (own : Kind.own t ∈ K)
    (issue : Kind.issue ∈ K) (ofChild : Bool) (args : List Obj) :
    Steady (Moves K) (signalExternalWorkflow det t ofChild args) := by
  refine guard_moves fun s isOpen => ?_
  refine bind_steady_at (convertArgs_steady det args s) fun payloads s₁ run => ?_
  obtain rfl := convertArgs_ok run
  rw [state_bind_run, bind_ok (addCommand_open isOpen), bind_ok (by rfl), bind_ok (by rfl),
    update_bind_run]
  exact Moves.trans (.of_atom (by simp [issue]) (.signal s₁ isOpen))
    (awaitShield_moves own _ (by simp) (fun _ => rfl) _)

theorem signalExternalWake_moves {t : FutId} (own : Kind.own t ∈ K) (seq : Nat)
    (doneFut : PromiseId) (input : Except Exc Obj) :
    Steady (Moves K) (signalExternalWake t seq doneFut input : Wf σ (Option Obj)) := by
  unfold signalExternalWake
  split
  · exact .pure _
  · intro s
    exact bind_steady_at (addCancel_moves own fun isOpen => .cancelSignal s t seq isOpen)
      fun _ s₁ _ => awaitShield_moves own _ (by simp) (fun _ => rfl) s₁
  · exact .raise _

theorem cancelExternalWorkflow_moves {t : FutId} (own : Kind.own t ∈ K) (issue : Kind.issue ∈ K) :
    Steady (Moves K) (cancelExternalWorkflow t : Wf σ (Option Obj)) := by
  refine guard_moves fun s isOpen => ?_
  rw [state_bind_run, bind_ok (addCommand_open isOpen), bind_ok (by rfl), bind_ok (by rfl),
    update_bind_run]
  exact Moves.trans (.of_atom (by simp [issue]) (.cancelExternal s isOpen))
    (Steady.bind (suspendOn_moves own (by simp) (by simp [Point.waiter]) _) (fun _ => .pure _) _)

/-! ### Resolutions -/

theorem setPromiseOutcome_moves (resolve : Kind.resolve ∈ K) (p : PromiseId)
    (outcome : PromiseOutcome) : Steady (Moves K) (setPromiseOutcome p outcome : Wf σ Unit) := by
  intro s
  rw [setPromiseOutcome_run]
  split
  · exact Std.Refl.refl s
  next pending => exact .of_atom (by simp [resolve]) (.fulfill s (by simpa using pending) outcome)

theorem activityResolveBackoff_moves (resolve : Kind.resolve ∈ K) (t : FutId) (b : DoBackoff) :
    Steady (Moves K) (activityResolveBackoff t b : Wf σ Unit) := by
  intro s
  rw [activityResolveBackoff, bind_ok (by rfl), state_bind_run, update_bind_run]
  refine Moves.trans (.of_atom (by simp [resolve]) (.backoffSeq s t)) ?_
  refine bind_steady_at (setPromiseOutcome_moves resolve _ _ _) fun _ s₁ _ => ?_
  rw [bind_ok (by rfl)]
  exact .of_atom (by simp [resolve]) (.backoff s₁ t)

theorem resolvedValue_steady {R : Inst σ → Inst σ → Prop} [IsPreorder (Inst σ) R]
    (det : Details σ) (result : Option Payload) (ty : Option PyType) :
    Steady R (resolvedValue det result ty) := by
  unfold resolvedValue
  split
  · exact .pure _
  · refine .bind (raiseError_steady _) fun _ => ?_
    split
    · exact .pure _
    · exact .raise _

theorem activityResolve_moves (resolve : Kind.resolve ∈ K) (det : Details σ) (t : FutId)
    (h : ActivityHandle) (result : ActivityResolution) :
    Steady (Moves K) (activityResolve det t h result) := by
  have failure (failure : Failure) : Steady (Moves K) (do
      let e ← raiseError (det.fromFailure failure)
      h.resolveFailure e : Wf σ Unit) := by
    refine .bind (raiseError_steady _) fun e => ?_
    unfold ActivityHandle.resolveFailure
    split
    · exact setPromiseOutcome_moves resolve _ _
    · exact .pure _
  cases result with
  | completed result =>
    exact .bind (resolvedValue_steady _ _ _) fun _ => setPromiseOutcome_moves resolve _ _
  | failed f => exact failure _
  | cancelled f => exact failure _
  | backoff b => exact activityResolveBackoff_moves resolve t b
  | unset => exact .raise _

theorem childResolveFailure_moves (resolve : Kind.resolve ∈ K) (h : ChildWorkflowHandle)
    (e : Error) : Steady (Moves K) (h.resolveFailure e : Wf σ Unit) := by
  refine .read fun s => ?_
  split
  · exact setPromiseOutcome_moves resolve _ _
  · exact .bind (setPromiseOutcome_moves resolve _ _) fun _ => setPromiseOutcome_moves resolve _ _

/-- The failure of a resolution, converted and handed to the child's handle. -/
theorem childFailure_moves (resolve : Kind.resolve ∈ K) (det : Details σ)
    (h : ChildWorkflowHandle) (failure : Failure) : Steady (Moves K) (do
      let e ← raiseError (det.fromFailure failure)
      h.resolveFailure e : Wf σ Unit) :=
  .bind (raiseError_steady _) fun _ => childResolveFailure_moves resolve _ _

theorem applyResolveActivity_moves (resolve : Kind.resolve ∈ K) (det : Details σ) (seq : Nat)
    (result : ActivityResolution) : Steady (Moves K) (applyResolveActivity det seq result) := by
  refine .read fun s => ?_
  split
  · exact .raise _
  · exact .bind (atom_steady (by simp [resolve]) fun s => .popActivity s seq) fun _ =>
      activityResolve_moves resolve det _ _ _

theorem applyResolveChildWorkflowExecution_moves (resolve : Kind.resolve ∈ K) (det : Details σ)
    (seq : Nat) (result : ChildWorkflowResult) :
    Steady (Moves K) (applyResolveChildWorkflowExecution det seq result) := by
  refine .read fun s => ?_
  split
  · exact .raise _
  · refine .bind (atom_steady (by simp [resolve]) fun s => .popChild s seq) fun _ => ?_
    split
    · exact .bind (resolvedValue_steady _ _ _) fun _ => setPromiseOutcome_moves resolve _ _
    · exact childFailure_moves resolve det _ _
    · exact childFailure_moves resolve det _ _
    · exact .raise _

theorem applyResolveChildWorkflowExecutionStart_moves (resolve : Kind.resolve ∈ K)
    (det : Details σ) (seq : Nat) (status : ChildWorkflowStart) :
    Steady (Moves K) (applyResolveChildWorkflowExecutionStart det seq status) := by
  refine .read fun s => ?_
  split
  · exact .raise _
  next t _ =>
    split
    · exact .bind (atom_steady (by simp [resolve]) fun s => .childRunId s t _) fun _ =>
        setPromiseOutcome_moves resolve _ _
    · exact .bind (atom_steady (by simp [resolve]) fun s => .popChild s seq) fun _ =>
        childResolveFailure_moves resolve _ _
    · exact .bind (atom_steady (by simp [resolve]) fun s => .popChild s seq) fun _ =>
        childFailure_moves resolve det _ _
    · exact .raise _

theorem applyResolveSignalExternalWorkflow_moves (resolve : Kind.resolve ∈ K) (det : Details σ)
    (seq : Nat) (failure : Option Failure) :
    Steady (Moves K) (applyResolveSignalExternalWorkflow det seq failure) := by
  refine .read fun s => ?_
  split
  · exact .raise _
  · refine .bind (atom_steady (by simp [resolve]) fun s => .popSignal s seq) fun _ => ?_
    split
    · exact .bind (raiseError_steady _) fun _ => setPromiseOutcome_moves resolve _ _
    · exact setPromiseOutcome_moves resolve _ _

theorem applyResolveRequestCancelExternalWorkflow_moves (resolve : Kind.resolve ∈ K)
    (det : Details σ) (seq : Nat) (failure : Option Failure) :
    Steady (Moves K) (applyResolveRequestCancelExternalWorkflow det seq failure) := by
  intro s wf
  simp only [applyResolveRequestCancelExternalWorkflow, state_bind_run]
  cases pending : s.pendingExternalCancels seq with
  | none => exact .refl
  | some f =>
    have role := (wf.externalCancel seq f pending).2
    have notTask : s.tasks f = none := by
      cases isTask : s.tasks f with
      | none => rfl
      | some task =>
        have other := (wf.task f task isTask).2
        rw [role] at other
        cases other
    have popped : Moves K s { s with
        pendingExternalCancels := Function.update s.pendingExternalCancels seq none } :=
      .of_atom (by simp [resolve]) (.popCancel s seq)
    have settles {new : FutState} (done : new.done = true) : Moves K s (setOutcome f new { s with
        pendingExternalCancels := Function.update s.pendingExternalCancels seq none }).2 := by
      refine popped.trans ?_
      simp only [setOutcome, state_bind_run]
      split
      · exact Std.Refl.refl _
      next alive =>
        rw [settle_state]
        exact .of_atom (by simp [resolve]) (.resolveCancel _ done (by simpa using alive) role notTask)
    cases failure with
    | some failure =>
      simp only [bind_run, raiseError]
      cases det.fromFailure failure with
      | ok e => exact settles rfl wf
      | error e => exact popped wf
    | none => exact settles rfl wf

/-! ### Handles that pass an outcome on -/

theorem shieldInnerDone_moves (deliver : Kind.deliver ∈ K) (o : OuterId) :
    Steady (Moves K) (shieldInnerDone o : Wf σ Unit) := by
  intro s
  simp only [shieldInnerDone, state_bind_run]
  cases pending : (s.outers o).state with
  | done | cancelled => exact Std.Refl.refl s
  | pending =>
    cases source : (s.outers o).source with
    | none => exact Std.Refl.refl s
    | some p =>
      dsimp only
      cases fulfilled : (s.promises p).state with
      | none => exact Std.Refl.refl s
      | some outcome =>
        dsimp only
        rw [settleOuter_state]
        exact .of_atom (by simp [deliver]) (.deliver s pending source fulfilled)

theorem shieldOuterDone_moves (deliver : Kind.deliver ∈ K) (o : OuterId) :
    Steady (Moves K) (shieldOuterDone o : Wf σ Unit) := by
  intro s
  simp only [shieldOuterDone, state_bind_run]
  cases source : (s.outers o).source with
  | none => exact Std.Refl.refl s
  | some p =>
    dsimp only
    cases pending : (s.promises p).state with
    | some outcome => exact Std.Refl.refl s
    | none => exact .of_atom (by simp [deliver]) (.unshield s source pending)

end TemporalSdk.Workflow
