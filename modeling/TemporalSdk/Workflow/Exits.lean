import TemporalSdk.Workflow.Tasks

/-!
# What asyncio lets through

`SystemExit` and `KeyboardInterrupt` leave a task, a handle and the loop. The
SDK raises neither, so a handle that raises one has been made to: it throws into
a coroutine that has no workflow code to catch it, or workflow code raised it.
-/
namespace TemporalSdk.Workflow

open Eff

variable {σ : Type}

/-- Nothing that leaves the program leaves the loop, too. -/
def Kept {α : Type} (x : Wf σ α) : Prop := Throws (fun e : Exc => e.exits = false) x

/-! ### Programs of the SDK -/

theorem raiseError_kept {α : Type} (x : Except Error α) : Kept (raiseError x : Wf σ α) := by
  cases x with
  | ok a => exact .pure a
  | error e => exact .raise rfl

theorem assertNotReadOnly_kept (action : String) (allow : Bool) :
    Kept (assertNotReadOnly action allow : Wf σ Unit) := by
  refine .read fun s => ?_
  split
  · exact .raise rfl
  · split
    · exact .raise rfl
    · exact .pure _

theorem addCommand_kept (c : Command) : Kept (addCommand c : Wf σ Nat) :=
  .bind (assertNotReadOnly_kept _ _) fun _ => .read fun _ => .bind (.update _) fun _ => .pure _

theorem nextSeq_kept (kind : SeqKind) : Kept (nextSeq kind : Wf σ Nat) :=
  .read fun _ => .bind (.update _) fun _ => .pure _

theorem callSoon_kept (h : Handle) : Kept (callSoon h : Wf σ Unit) :=
  .bind (assertNotReadOnly_kept _ _) fun _ => .update _

theorem callLater_kept (delay : Int) (callback : TimerCallback) :
    Kept (callLater delay callback : Wf σ Nat) := by
  refine .bind (assertNotReadOnly_kept _ _) fun _ => ?_
  split
  · exact .raise rfl
  · refine .bind (nextSeq_kept _) fun seq => .bind (addCommand_kept _) fun _ => ?_
    refine .bind (.update _) fun _ => .bind (.ofExcept fun e raised => ?_) fun _ => .bind (.update _) fun _ => .pure _
    rw [timerTimeout] at raised
    split at raised
    · cases raised
    · rw [← Except.error.inj raised]
      rfl

theorem timerCancel_kept (seq : Nat) : Kept (timerCancel seq : Wf σ Unit) := by
  refine .read fun s => ?_
  split
  · exact .pure _
  · refine .bind (.read fun s => ?_) fun _ => .update _
    split
    · exact .bind (.update _) fun _ => .bind (addCommand_kept _) fun _ => .update _
    · exact .pure _

theorem createFuture_kept (role : FutRole) : Kept (createFuture role : Wf σ FutId) :=
  .read fun _ => .bind (.update _) fun _ => .pure _

theorem scheduleCallbacks_kept (f : FutId) (cbs : List Callback) :
    Kept (scheduleCallbacks f cbs : Wf σ Unit) := by
  induction cbs with
  | nil => exact .pure _
  | cons cb cbs ih => exact .bind (callSoon_kept _) fun _ => ih

theorem settle_kept (f : FutId) (new : FutState) : Kept (settle f new : Wf σ Unit) :=
  .read fun _ => .bind (.update _) fun _ => scheduleCallbacks_kept _ _

theorem settleOuter_kept (o : OuterId) (new : OuterState) : Kept (settleOuter o new : Wf σ Unit) := by
  refine .read fun s => .bind (.update _) fun _ => ?_
  split
  · exact .bind (callSoon_kept _) fun _ => callSoon_kept _
  · exact callSoon_kept _

theorem cancelOuter_kept (o : OuterId) : Kept (cancelOuter o : Wf σ Bool) := by
  refine .read fun s => ?_
  split
  · exact .bind (settleOuter_kept _ _) fun _ => .pure _
  · exact .pure _

theorem overriddenCancel_kept (t : FutId) (root : Root) : Kept (overriddenCancel t root : Wf σ Unit) := by
  unfold overriddenCancel
  split
  · refine .read fun s => ?_
    split
    · exact .pure _
    · refine .bind (assertNotReadOnly_kept _ _) fun _ => ?_
      split
      · exact .bind (addCommand_kept _) fun _ => .pure _
      · exact .pure _
  · exact .pure _

theorem cancel_kept (fuel : Nat) (f : FutId) : Kept (cancel fuel f : Wf σ Bool) := by
  induction fuel generalizing f with
  | zero => exact .raise rfl
  | succ fuel ih =>
    refine .read fun s => ?_
    split
    · split
      · exact .pure _
      · unfold futureCancel
        split
        · exact .foldlM (fun requested child => .bind (ih child) fun _ => .pure _) _ _
        · exact .bind (settle_kept _ _) fun _ => .pure _
    · refine .bind (overriddenCancel_kept _ _) fun _ => ?_
      split
      · exact .pure _
      · refine .bind (.update _) fun _ => .bind ?_ fun passedOn => ?_
        · unfold waiterCancel
          split
          · exact .pure _
          · exact ih _
          · exact cancelOuter_kept _
        · split
          · exact .pure _
          · exact .bind (.update _) fun _ => .pure _

theorem cancelFut_kept (f : FutId) : Kept (cancelFut f : Wf σ Bool) :=
  .read fun _ => cancel_kept _ f

theorem setPoint_kept (t : FutId) (point : Point) : Kept (setPoint t point : Wf σ Unit) := .update _

theorem suspendShield_kept (t : FutId) (p : PromiseId) (point : OuterId → Point) :
    Kept (suspendShield t p point : Wf σ Unit) :=
  .read fun _ => .bind (.update _) fun _ => setPoint_kept _ _

theorem afterSuspend_kept (t : FutId) : Kept (afterSuspend t : Wf σ Unit) := by
  refine .read fun s => ?_
  split
  · exact .pure _
  · split
    · exact callSoon_kept _
    · split
      · refine .bind ?_ fun passedOn => ?_
        · unfold waiterCancel
          split
          · exact .pure _
          · exact cancelFut_kept _
          · exact cancelOuter_kept _
        · split
          · exact .update _
          · exact .pure _
      · exact .pure _

/-! ### The coroutines of handles -/

theorem convertArgs_kept (det : Details σ) (args : List Obj) :
    Kept (convertArgs det args : Wf σ (List Payload)) := by
  unfold convertArgs
  split
  · exact .pure _
  · exact raiseError_kept _

theorem applyRetryPolicy_kept (policy : Option RetryPolicy) :
    Kept (applyRetryPolicy policy : Wf σ Unit) := by
  cases policy with
  | some p => exact raiseError_kept _
  | none => exact .pure _

theorem activityBackoff_kept (t : FutId) (b : DoBackoff) :
    Kept (activityBackoff t b : Wf σ (Option Obj)) := by
  unfold activityBackoff
  refine .bind (raiseError_kept _) fun delay => ?_
  split
  · exact .bind (setPoint_kept _ _) fun _ => .pure _
  · exact .read fun s => .bind (.update _) fun _ => .bind (callLater_kept _ _) fun _ =>
      .bind (setPoint_kept _ _) fun _ => .pure _

theorem activityLoop_kept (t : FutId) : Kept (activityLoop t : Wf σ (Option Obj)) := by
  refine .bind (.update _) fun _ => .read fun s => ?_
  split
  next outcome _ =>
    cases outcome with
    | result v => exact .pure _
    | exception e => exact .raise rfl
    | backoff b => exact activityBackoff_kept t b
  · exact .bind (suspendShield_kept _ _ _) fun _ => .pure _

theorem activityReschedule_kept (det : Details σ) (t : FutId) (b : DoBackoff) :
    Kept (activityReschedule det t b) := by
  refine .read fun s => .bind ?_ fun _ => .bind (.update _) fun _ => activityLoop_kept t
  exact .bind (convertArgs_kept _ _) fun _ => .bind (addCommand_kept _) fun _ =>
    applyRetryPolicy_kept _

theorem activityStart_kept (t : FutId) : Kept (activityStart t : Wf σ (Option Obj)) := by
  refine .read fun s => ?_
  split
  · exact activityLoop_kept t
  · exact .raise rfl

variable {input : Except Exc Obj}

theorem activityWake_kept (t : FutId) (quiet : ∀ e, input = .error e → e.exits = false) :
    Kept (activityWake t input : Wf σ (Option Obj)) := by
  unfold activityWake
  split
  · exact .pure _
  · exact activityBackoff_kept t _
  · exact .read fun s => .bind (addCommand_kept _) fun _ => activityLoop_kept t
  · exact .raise (quiet _ rfl)

theorem activitySleepWake_kept (det : Details σ) (t : FutId) (b : DoBackoff) (timer : Nat)
    (quiet : ∀ e, input = .error e → e.exits = false) :
    Kept (activitySleepWake det t b timer input) := by
  refine .bind (timerCancel_kept _) fun _ => ?_
  split
  · exact activityReschedule_kept det t b
  · exact .raise (quiet _ rfl)

theorem activitySleepZeroWake_kept (det : Details σ) (t : FutId) (b : DoBackoff)
    (quiet : ∀ e, input = .error e → e.exits = false) :
    Kept (activitySleepZeroWake det t b input) := by
  unfold activitySleepZeroWake
  split
  · exact activityReschedule_kept det t b
  · exact .raise (quiet _ rfl)

theorem awaitShield_kept (t : FutId) (p : PromiseId) (point : OuterId → Point) :
    Kept (awaitShield t p point : Wf σ (Option Obj)) := by
  refine .read fun s => ?_
  split
  · exact .pure _
  · exact .raise rfl
  · exact .raise rfl
  · exact .bind (suspendShield_kept _ _ _) fun _ => .pure _

theorem childStart_kept (t : FutId) : Kept (childStart t : Wf σ (Option Obj)) := by
  refine .read fun s => ?_
  split
  · exact awaitShield_kept _ _ _
  · exact .raise rfl

theorem childWake_kept (t : FutId) (quiet : ∀ e, input = .error e → e.exits = false) :
    Kept (childWake t input : Wf σ (Option Obj)) := by
  unfold childWake
  split
  · exact .pure _
  · refine .bind (.read fun s => .bind (addCommand_kept _) fun _ => ?_) fun _ =>
      .read fun s => awaitShield_kept _ _ _
    split
    · exact .bind (nextSeq_kept _) fun _ => .bind (createFuture_kept _) fun _ => .update _
    · exact .pure _
  · exact .raise (quiet _ rfl)

/-! ### The coroutines of handlers -/

theorem setCommand_kept (i : Nat) (c : Command) : Kept (setCommand i c : Wf σ Unit) := .update _

theorem setWorkflowFailure_kept (det : Details σ) (e : Error) : Kept (setWorkflowFailure det e) := by
  unfold setWorkflowFailure
  split
  · exact .bind (addCommand_kept _) fun _ => .pure _
  · exact .bind (addCommand_kept _) fun _ => .raise rfl

theorem applyContinueAsNew_kept (det : Details σ) (input : ContinueAsNewInput) :
    Kept (applyContinueAsNew det input) := by
  refine .bind (convertArgs_kept _ _) fun _ => .bind ?_ fun _ => .bind (addCommand_kept _) fun _ =>
    .bind (applyRetryPolicy_kept _) fun _ => ?_
  · exact .forM (fun _ => .bind (raiseError_kept _) fun _ => .pure _) _
  · split
    · exact raiseError_kept _
    · exact .pure _

theorem topLevelExcept_kept (det : Details σ) (e : Error) : Kept (topLevelExcept det e) := by
  refine .read fun s => ?_
  split
  · exact .pure _
  · split
    · exact .bind (addCommand_kept _) fun _ => .pure _
    · split
      · exact setWorkflowFailure_kept _ _
      · exact .update _

theorem runTopLevelWorkflowFunction_kept (det : Details σ) {r : Except Exc Unit}
    (quiet : ∀ e, r = .error e → e.exits = false) : Kept (runTopLevelWorkflowFunction det r) := by
  unfold runTopLevelWorkflowFunction
  split
  · exact .pure _
  · exact applyContinueAsNew_kept _ _
  · exact topLevelExcept_kept _ _
  · exact topLevelExcept_kept _ _
  · exact .raise (quiet _ rfl)

theorem finishWorkflow_kept (det : Details σ) {r : Except Exc Obj}
    (quiet : ∀ e, r = .error e → e.exits = false) : Kept (finishWorkflow det r) := by
  refine .attempt_bind (P := fun e : Exc => e.exits = false) ?_ fun r quiet => .read fun s => ?_
  · exact .bind (.ofExcept quiet) fun _ => .bind (raiseError_kept _) fun _ =>
      .bind (addCommand_kept _) fun _ => .pure _
  · split
    · split
      · exact .pure _
      · exact runTopLevelWorkflowFunction_kept det fun e same => by cases same; rfl
    · exact runTopLevelWorkflowFunction_kept det quiet

theorem updateExcept_kept (det : Details σ) (job : DoUpdate) (command : Option Nat)
    (pastValidation : Bool) (e : Error) : Kept (updateExcept det job command pastValidation e) := by
  have records : Kept (recordUpdateError job e : Wf σ Unit) := .bind (.update _) fun _ => .update _
  unfold updateExcept
  split
  · exact records
  · split
    · have reject (i : Nat) : Kept (do
          setCommand i (.updateResponse job.protocolInstanceId (.rejected none))
          let f ← raiseError (det.toFailure e)
          setCommand i (.updateResponse job.protocolInstanceId (.rejected (some f))) : Wf σ Unit) :=
        .bind (setCommand_kept _ _) fun _ => .bind (raiseError_kept _) fun _ => setCommand_kept _ _
      cases command with
      | some i => exact reject i
      | none => exact .bind (addCommand_kept _) reject
    · exact records

/-- What an update handler raises is ignored during tear down. -/
theorem updateEnd_kept (det : Details σ) (job : DoUpdate) (command : Option Nat)
    (pastValidation : Bool) {r : Except Exc Unit} {s s' : Inst σ} {e : Exc}
    (quiet : ∀ e, r = .error e → e.exits = true → s.deleting = true)
    (run : updateEnd det job command pastValidation r s = (.error e, s')) : e.exits = false := by
  -- what the `except` clauses let through is raised again after the `finally`
  have body {x : Wf σ Unit} (kept : ∀ e s', x s = (.error e, s') → e.exits = false)
      (run : (do
        let r ← attempt x
        update fun s => { s with inProgressUpdates := s.inProgressUpdates.erase job.id }
        ofExcept r : Wf σ Unit) s = (.error e, s')) : e.exits = false := by
    simp only [bind_run, attempt_run, update_run, ofExcept_run, Prod.mk.injEq] at run
    exact kept e (x s).2 (Prod.ext run.1 rfl)
  cases r with
  | ok u => exact body (fun e s' run => by cases run) run
  | error e₁ =>
    cases e₁ with
    | error err => exact body (updateExcept_kept det job command pastValidation err s) run
    | cancelled => exact body (updateExcept_kept det job command pastValidation _ s) run
    | exit tag =>
      refine body (fun e s' run => ?_) run
      simp only [state_bind_run, quiet _ rfl rfl, if_true] at run
      cases run
    | _ =>
      refine body (Throws.read (P := fun e : Exc => e.exits = false) (fun s => ?_) s) run
      split
      · exact .pure _
      · exact .raise rfl

theorem finishUpdate_kept (det : Details σ) (job : DoUpdate) {r : Except Exc Obj} {s s' : Inst σ}
    {e : Exc} (quiet : ∀ e, r = .error e → e.exits = true → s.deleting = true)
    (run : finishUpdate det job r s = (.error e, s')) : e.exits = false := by
  rw [finishUpdate, bind_run, attempt_run] at run
  refine updateEnd_kept det job none true (fun e raised exits => ?_) run
  cases r with
  | error e₁ =>
    simp only [bind_run, ofExcept_run, Except.error.injEq] at raised ⊢
    exact quiet _ rfl (raised ▸ exits)
  | ok v =>
    have kept : Kept (do
        let p ← raiseError (singlePayload det v)
        let _ ← addCommand (.updateResponse job.protocolInstanceId (.completed p))
        pure () : Wf σ Unit) :=
      .bind (raiseError_kept _) fun _ => .bind (addCommand_kept _) fun _ => .pure _
    have caught : e.exits = false := kept s e _ (Prod.ext raised rfl)
    rw [exits] at caught
    cases caught

theorem queryEnd_kept (det : Details σ) (job : QueryWorkflow) (prev : Bool) {r : Except Exc Payload}
    (quiet : ∀ e, r = .error e → e.exits = false) : Kept (queryEnd det job prev r) := by
  have except (e : Error) : Kept (queryExcept det job e) := by
    refine .attempt_bind (P := fun e : Exc => e.exits = false) ?_ fun r quiet => ?_
    · exact .bind (addCommand_kept _) fun _ => .bind (raiseError_kept _) fun _ => setCommand_kept _ _
    · split
      · exact .pure _
      · exact .raise rfl
      · exact .raise (quiet _ rfl)
  refine .bind (.update _) fun _ =>
    .attempt_bind (P := fun e : Exc => e.exits = false) ?_ fun r quiet => ?_
  · exact .bind (.ofExcept quiet) fun _ => .bind (addCommand_kept _) fun _ => .pure _
  · split
    · exact .pure _
    · exact except _
    · exact .raise (quiet _ rfl)

/-! ### A step of a coroutine -/

def Next.kept : Next → Prop
  | .done (.error e) => e.exits = false
  | _ => True

/-- The coroutine of a step ends with nothing that leaves the loop. -/
def Contained (r : Except Exc Next) : Prop :=
  match r with
  | .ok next => next.kept
  | .error e => e.exits = false

theorem ended_contained {x : Wf σ Unit} {s : Inst σ}
    (kept : ∀ e s', x s = (.error e, s') → e.exits = false) : Contained (ended x s).1 := by
  rw [ended, bind_run, attempt_run]
  cases run : x s with
  | mk r s₁ =>
    cases r with
    | ok u => trivial
    | error e => exact kept e s₁ run

theorem done_contained {x : Wf σ (Option Obj)} (kept : Kept x) (s : Inst σ) :
    Contained ((do let r ← attempt x; pure (.done r) : Wf σ Next) s).1 := by
  rw [bind_run, attempt_run]
  cases run : x s with
  | mk r s₁ =>
    cases r with
    | ok v => cases v <;> trivial
    | error e => exact kept s e s₁ run

theorem acceptUpdate_contained (det : Details σ) (t : FutId) (job : DoUpdate) (command : Nat)
    (s : Inst σ) : Contained (acceptUpdate det t job command s).1 := by
  rw [acceptUpdate, bind_run, setCommand, update_run]
  simp only [state_bind_run]
  cases s.updates.resolve job.name with
  | some defn => trivial
  | none =>
    exact ended_contained fun e s' run => updateEnd_kept det job none true (by simp [Exc.exits]) run

theorem startUpdate_contained (det : Details σ) (t : FutId) (job : DoUpdate) (s : Inst σ) :
    Contained (startUpdate det t job s).1 := by
  have rejected (command : Nat) (e : Error) (s : Inst σ) :
      Contained (ended (updateEnd det job (some command) false (.error (.error e))) s).1 :=
    ended_contained fun e s' run =>
      updateEnd_kept det job (some command) false (by simp [Exc.exits]) run
  rw [startUpdate, bind_run]
  cases added : addCommand (.updateResponse job.protocolInstanceId .unset) s with
  | mk r s₁ =>
    cases r with
    | error e => exact addCommand_kept _ s e s₁ added
    | ok command =>
      simp only [state_bind_run]
      cases s₁.updates.resolve job.name with
      | none => exact rejected _ _ _
      | some defn =>
        simp only [update_bind_run]
        cases det.processHandlerArgs job.name job.input defn with
        | error e => exact rejected _ _ _
        | ok args =>
          dsimp only
          split
          · trivial
          · exact acceptUpdate_contained det t job command _

theorem startQuery_contained (det : Details σ) (t : FutId) (job : QueryWorkflow) (s : Inst σ) :
    Contained (startQuery det t job s).1 := by
  have failed (e : Error) (prev : Bool) (s : Inst σ) :
      Contained (ended (queryEnd det job prev (.error (.error e))) s).1 :=
    ended_contained fun e' s' run =>
      queryEnd_kept det job prev (fun e same => by cases same; rfl) s e' s' run
  rw [startQuery, state_bind_run, update_bind_run]
  cases s.queries.resolve job.queryType with
  | none => exact failed _ _ _
  | some defn =>
    dsimp only
    cases det.processHandlerArgs job.queryType job.arguments defn with
    | error e => exact failed _ _ _
    | ok args => trivial

theorem startCode_contained (det : Details σ) (t : FutId) (root : Root) (s : Inst σ) :
    Contained (startCode det t root s).1 := by
  cases root with
  | workflow | user => trivial
  | signal job args =>
    rw [startCode, bind_run, attempt_run]
    cases found : s.signals.resolve job.signalName with
    | none =>
      simp only [handleSignal, state_bind_run, found, update_bind_run, raise_run]
      exact ended_contained fun e s' run =>
        runTopLevelWorkflowFunction_kept det (fun e same => by cases same; rfl) _ e s' run
    | some defn =>
      simp only [handleSignal, state_bind_run, found, logCall, update_bind_run, pure_run]
      trivial
  | update job =>
    have contained := startUpdate_contained det t job s
    rw [startCode, bind_run, attempt_run]
    cases started : startUpdate det t job s with
    | mk r s₁ =>
      rw [started] at contained
      cases r with
      | error e => exact contained
      | ok next => exact contained
  | query job => exact startQuery_contained det t job s
  | activity => exact done_contained (activityStart_kept t) s
  | child => exact done_contained (childStart_kept t) s

/-- Only workflow code can catch what asyncio lets through. -/
theorem resume_contained (det : Details σ) (t : FutId) (task : Task) {input : Except Exc Obj}
    (quiet : task.root.ofHandle = true ∨ task.point = .start →
      ∀ e, input = .error e → e.exits = false) (s : Inst σ) :
    Contained (resume det t task.root task.point input s).1 := by
  have awaits (x : Wf σ (Option Obj)) : Contained (resumeAwait t x s).1 := by
    rw [resumeAwait, bind_run, attempt_run]
    cases x s with
    | mk r s₁ =>
      cases r with
      | error e => trivial
      | ok v => cases v <;> trivial
  obtain ⟨root, point, mustCancel, cancelling⟩ := task
  dsimp only at quiet ⊢
  unfold resume
  split
  · split
    · exact quiet (.inr rfl) _ rfl
    · exact startCode_contained det t _ s
  · exact done_contained (activityWake_kept t (quiet (.inl rfl))) s
  · exact done_contained (activitySleepWake_kept det t _ _ (quiet (.inl rfl))) s
  · exact done_contained (activitySleepZeroWake_kept det t _ (quiet (.inl rfl))) s
  · exact done_contained (childWake_kept t (quiet (.inl rfl))) s
  · rfl
  · rfl
  · trivial
  · trivial
  · exact awaits _
  · exact awaits _
  · rfl

theorem stepEnd_kept (t : FutId) {r : Except Exc (Option Obj)}
    (quiet : ∀ e, r = .error e → e.exits = false) : Kept (stepEnd t r : Wf σ Unit) := by
  cases r with
  | ok v =>
    cases v with
    | none => exact afterSuspend_kept t
    | some v =>
      refine .read fun s => ?_
      dsimp only
      split
      · split
        · exact .bind (.update _) fun _ => settle_kept _ _
        · exact settle_kept _ _
      · exact .pure _
  | error e =>
    have inside := quiet e rfl
    have kept : Kept (do settle t (.exception e); if e.exits then raise e else pure () : Wf σ Unit) := by
      refine .bind (settle_kept _ _) fun _ => ?_
      rw [inside]
      exact .pure _
    cases e with
    | cancelled => exact settle_kept _ _
    | _ => exact kept

theorem stepNext_kept (t : FutId) {next : Next} (kept : next.kept) :
    Kept (stepNext t next : Wf σ (Option Ctx)) := by
  cases next with
  | code ctx => exact .pure _
  | done r =>
    refine .bind (stepEnd_kept t fun e raised => ?_) fun _ => .pure _
    rw [raised] at kept
    exact kept

theorem stepBody_kept {x : Wf σ Next} {t : FutId} {s s' : Inst σ} {e : Exc}
    (contained : Contained (x s).1) (run : (x >>= stepNext t) s = (.error e, s')) :
    e.exits = false := by
  rw [bind_run] at run
  cases body : x s with
  | mk r s₁ =>
    rw [body] at run contained
    cases r with
    | ok next => exact stepNext_kept t contained s₁ e s' run
    | error e₁ =>
      rw [← Except.error.inj (Prod.mk.inj run).1]
      exact contained

/-! ### A handle -/

/-- The handle throws `SystemExit` or `KeyboardInterrupt` into a coroutine that
has no workflow code to catch it. -/
def Inst.throwsExit (s : Inst σ) : Handle → Bool
  | .callback (.wakeup t) f =>
    match (s.futs f).state.outcome, s.tasks t with
    | .error e, some task => e.exits && (task.root.ofHandle || decide (task.point = .start))
    | _, _ => false
  | _ => false

theorem stepTask_kept (det : Details σ) {t : FutId} {input : Except Exc Obj} {s s' : Inst σ} {e : Exc}
    (quiet : ∀ task, s.tasks t = some task → task.root.ofHandle = true ∨ task.point = .start →
      ∀ e, input = .error e → e.exits = false)
    (run : stepTask det t input s = (.error e, s')) : e.exits = false := by
  cases isTask : s.tasks t with
  | none =>
    rw [stepTask, state_bind_run, isTask] at run
    cases run
  | some task =>
    cases pending : s.isDone t with
    | true =>
      simp only [stepTask, state_bind_run, isTask, pending, if_true, raise_run, Prod.mk.injEq,
        Except.error.injEq] at run
      rw [← run.1]
      rfl
    | false =>
      rw [stepTask_run det input isTask pending] at run
      refine stepBody_kept (resume_contained det t task (fun place e thrown => ?_) _) run
      rw [Task.resumption] at thrown
      split at thrown
      · rw [← Except.error.inj thrown]
        rfl
      · exact quiet task isTask place e thrown

theorem handleCallback_kept (det : Details σ) {h : Handle} {s s' : Inst σ} {e : Exc}
    (quiet : s.throwsExit h = false) (run : handleCallback det h s = (.error e, s')) :
    e.exits = false := by
  -- a handle that steps no task runs code of the SDK only
  have sdk {x : Wf σ (Option Ctx)} (kept : Kept x) (run : x s = (.error e, s')) :
      e.exits = false := kept s e s' run
  cases h with
  | taskStep t => exact stepTask_kept det (fun _ _ _ _ thrown => by cases thrown) run
  | outerWakeup o =>
    refine stepTask_kept det (fun _ _ _ e thrown => ?_) run
    cases state : (s.outers o).state with
    | pending | cancelled =>
      rw [state] at thrown
      cases thrown
      rfl
    | done outcome =>
      rw [state] at thrown
      cases outcome <;> cases thrown <;> rfl
  | callback cb f =>
    cases cb with
    | wakeup t =>
      refine stepTask_kept det (fun task isTask place e thrown => ?_) run
      have place : (task.root.ofHandle || decide (task.point = .start)) = true := by simpa using place
      simpa only [Inst.throwsExit, thrown, isTask, place, Bool.and_true] using quiet
    | tasksRemove | signalDone => cases run
    | user => cases run
  | shieldInner o =>
    refine sdk (x := do shieldInnerDone o; pure none) (.bind (.read fun s => ?_) fun _ => .pure _) run
    split
    · split
      · exact settleOuter_kept _ _
      · exact .pure _
    · exact .pure _
  | shieldOuter o =>
    refine sdk (x := do shieldOuterDone o; pure none) (.bind (.read fun s => ?_) fun _ => .pure _) run
    split
    · exact .pure _
    · split
      · exact .pure _
      · exact .update _
  | timer seq =>
    simp only [handleCallback, state_bind_run] at run
    refine sdk ?_ run
    split
    · exact .raise rfl
    · split
      · exact .pure _
      · split
        · exact .bind (settleOuter_kept _ _) fun _ => .pure _
        · exact .pure _
  | cancelPrimaryTask t =>
    exact sdk (x := do let _ ← cancelFut t; pure none) (.bind (cancelFut_kept t) fun _ => .pure _) run
  | user id =>
    simp only [handleCallback, state_bind_run] at run
    refine sdk ?_ run
    split
    · exact .raise rfl
    · exact .pure _

/-- Nothing leaves the loop from a handle that throws nothing of the kind. -/
theorem handleRun_kept (det : Details σ) {h : Handle} {s s' : Inst σ} {e : Exc}
    (quiet : s.throwsExit h = false) (run : handleRun det h s = (.error e, s')) : False := by
  cases called : handleCallback det h s with
  | mk r s₁ =>
    cases r with
    | ok ctx =>
      rw [handleRun_ok called] at run
      cases run
    | error e₁ =>
      rw [handleRun_error called, handleCallback_kept det quiet called] at run
      cases run

/-! ### The end of workflow code -/

/-- `run_update` lets nothing out during tear down. -/
def Inst.ignoresExit (s : Inst σ) : Ctx → Bool
  | .validator _ _ _ _ _ => s.deleting
  | .task t =>
    match s.tasks t with
    | some ⟨.update _, _, _, _⟩ => s.deleting
    | _ => false
  | _ => false

theorem finishCode_contained (det : Details σ) (t : FutId) (root : Root) {r : Except Exc Obj}
    {s : Inst σ} (quiet : ∀ e, r = .error e → e.exits = true →
      s.deleting = true ∧ ∃ job, root = .update job) :
    Contained (finishCode det t root r s).1 := by
  have caught (other : ∀ job, root ≠ .update job) (e : Exc) (raised : r = .error e) :
      e.exits = false := by
    by_contra exits
    obtain ⟨-, job, same⟩ := quiet e raised (by simpa using exits)
    exact other job same
  cases root with
  | workflow args =>
    exact ended_contained fun e s' run => finishWorkflow_kept det (caught (by simp)) s e s' run
  | signal job args =>
    refine ended_contained fun e s' run => runTopLevelWorkflowFunction_kept det (fun e raised => ?_) s e s' run
    cases r with
    | ok v => cases raised
    | error e₁ => exact caught (by simp) e (by rw [← Except.error.inj raised])
  | update job =>
    exact ended_contained fun e s' run =>
      finishUpdate_kept det job (fun e raised exits => (quiet e raised exits).1) run
  | query job =>
    refine ended_contained fun e s' run => queryEnd_kept det job _ (fun e raised => ?_) s e s' run
    cases r with
    | error e₁ => exact caught (by simp) e (by rw [← Except.error.inj raised])
    | ok v =>
      cases payload : singlePayload det v with
      | ok p => simp [payload, Except.mapError] at raised
      | error err =>
        simp only [payload, Except.mapError, Except.error.injEq] at raised
        rw [← raised]
        rfl
  | activity | child | user =>
    cases r with
    | ok v => trivial
    | error e => exact caught (by simp) e rfl

theorem finishValidator_contained (det : Details σ) (t : FutId) (job : DoUpdate) (defn : HandlerDefn)
    (i : Nat) (prev : Bool) {r : Except Exc Obj} {s : Inst σ}
    (quiet : ∀ e, r = .error e → e.exits = true → s.deleting = true) :
    Contained (finishValidator det t job defn i prev r s).1 := by
  simp only [finishValidator, update_bind_run]
  cases r with
  | error e =>
    refine ended_contained fun e' s' run => ?_
    refine updateEnd_kept det job (some i) false (fun e' raised exits => ?_) run
    rw [← Except.error.inj raised] at exits
    exact quiet e rfl exits
  | ok v =>
    cases det.processHandlerArgs job.name job.input defn with
    | error e =>
      exact ended_contained fun e s' run => updateEnd_kept det job (some i) false
        (by simp [Exc.exits]) run
    | ok args => exact acceptUpdate_contained det t job i _

end TemporalSdk.Workflow
