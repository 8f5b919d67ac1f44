import TemporalSdk.Workflow.Effects

/-!
# Runs

Steps of the machine as moves, and reachability. `Machine.WellFormed` is the
invariant that every run keeps whatever workflow code does: while workflow code
of a task is running, the task exists and is not done, and while a validator is
running the response of its update is where it was put.
-/
namespace TemporalSdk.Workflow

open Eff

variable {σ : Type}

/-! ### Workflow code that is about to run -/

/-- The coroutine runs workflow code. -/
def Root.coded : Root → Bool
  | .activity | .child => false
  | _ => true

theorem Root.coded_of_ne {root : Root} (notActivity : root = .activity → False)
    (notChild : root = .child → False) : root.coded = true := by
  cases root with
  | activity => exact (notActivity rfl).elim
  | child => exact (notChild rfl).elim
  | _ => rfl

def Ctx.Ready (s : Inst σ) : Ctx → Prop
  | .task t => ∃ task, s.tasks t = some task ∧ s.isDone t = false ∧ task.root.coded = true
  | .validator t job _ i _ => (∃ task, s.tasks t = some task ∧ task.root = .update job) ∧
      s.isDone t = false ∧ s.respondsAt i job.protocolInstanceId
  | .callback | .init => True

/-- Workflow code that is called from a handle: all but the constructor. -/
def Ctx.inHandle : Ctx → Bool
  | .init => false
  | _ => true

/-- If the coroutine of `t` stops in workflow code, it is its own or its
validator. -/
def Next.OfTask (t : FutId) (root : Root) (next : Next) (s : Inst σ) : Prop :=
  match next with
  | .done _ => True
  | .code ctx => root.coded = true ∧ (ctx = .task t ∨ ∃ job defn i prev, root = .update job ∧
      ctx = .validator t job defn i prev ∧ s.respondsAt i job.protocolInstanceId)

theorem ended_ofTask {t : FutId} {root : Root} (x : Wf σ Unit) :
    Returns (Next.OfTask t root) (ended x) :=
  .bind fun _ => .pure fun _ => trivial

theorem acceptUpdate_ofTask (det : Details σ) (t : FutId) (job : DoUpdate) (command : Nat) :
    Returns (Next.OfTask t (.update job)) (acceptUpdate det t job command) := by
  refine .bind fun _ => .bind fun s => ?_
  split
  · exact .bind fun _ => .pure fun _ => ⟨rfl, .inl rfl⟩
  · exact ended_ofTask _

theorem startUpdate_ofTask (det : Details σ) (t : FutId) (job : DoUpdate) :
    Returns (Next.OfTask t (.update job)) (startUpdate det t job) := by
  intro s next s' run
  rw [startUpdate, bind_run] at run
  cases added : addCommand (.updateResponse job.protocolInstanceId .unset) s with
  | mk r s₁ =>
    rw [added] at run
    cases r with
    | error e => simp at run
    | ok i =>
      obtain ⟨-, rfl, rfl⟩ := addCommand_ok added
      have responds : (s.pushCommand (.updateResponse job.protocolInstanceId .unset)).respondsAt
          s.commands.length job.protocolInstanceId := ⟨.unset, by simp [Inst.pushCommand]⟩
      generalize s.pushCommand (.updateResponse job.protocolInstanceId .unset) = s₁ at responds run
      simp only [state_bind_run] at run
      cases found : s₁.updates.resolve job.name with
      | none =>
        rw [found] at run
        exact ended_ofTask _ _ _ _ run
      | some defn =>
        rw [found] at run
        simp only [update_bind_run] at run
        cases args : det.processHandlerArgs job.name job.input defn with
        | error e =>
          rw [args] at run
          exact ended_ofTask _ _ _ _ run
        | ok args' =>
          rw [args] at run
          simp only at run
          split at run
          · -- the validator is called with the response in place
            simp only [logCall, update_bind_run, pure_run, Prod.mk.injEq, Except.ok.injEq] at run
            obtain ⟨rfl, rfl⟩ := run
            refine ⟨rfl, .inr ⟨job, defn, _, _, rfl, rfl, ?_⟩⟩
            obtain ⟨r, at_i⟩ := responds
            refine ⟨r, ?_⟩
            dsimp only
            split <;> exact at_i
          · exact acceptUpdate_ofTask det t job _ _ _ _ run

theorem startCode_ofTask (det : Details σ) (t : FutId) (root : Root) :
    Returns (Next.OfTask t root) (startCode det t root) := by
  cases root with
  | workflow args => exact .bind fun _ => .pure fun _ => ⟨rfl, .inl rfl⟩
  | signal job args =>
    intro s next s' run
    rw [startCode, bind_run, attempt_run] at run
    cases handled : handleSignal t job args s with
    | mk r s₁ =>
      rw [handled] at run
      cases r with
      | error e => exact ended_ofTask _ _ _ _ run
      | ok next' =>
        simp only [pure_run, Prod.mk.injEq, Except.ok.injEq] at run
        obtain ⟨rfl, rfl⟩ := run
        simp only [handleSignal, state_bind_run] at handled
        cases found : s.signals.resolve job.signalName with
        | none => simp [found] at handled
        | some defn =>
          simp only [found, logCall, update_bind_run, pure_run, Prod.mk.injEq,
            Except.ok.injEq] at handled
          rw [← handled.1]
          exact ⟨rfl, .inl rfl⟩
  | update job =>
    intro s next s' run
    rw [startCode, bind_run, attempt_run] at run
    cases started : startUpdate det t job s with
    | mk r s₁ =>
      rw [started] at run
      cases r with
      | error e =>
        simp only [pure_run, Prod.mk.injEq, Except.ok.injEq] at run
        rw [← run.1]
        trivial
      | ok next' =>
        simp only [pure_run, Prod.mk.injEq, Except.ok.injEq] at run
        obtain ⟨rfl, rfl⟩ := run
        exact startUpdate_ofTask det t job _ _ _ started
  | query job =>
    refine .bind fun s => .bind fun _ => ?_
    split
    · exact ended_ofTask _
    · split
      · exact ended_ofTask _
      · exact .bind fun _ => .pure fun _ => ⟨rfl, .inl rfl⟩
  | activity => exact .bind fun _ => .pure fun _ => trivial
  | child => exact .bind fun _ => .pure fun _ => trivial
  | user => exact .pure fun _ => ⟨rfl, .inl rfl⟩

theorem finishCode_ofTask (det : Details σ) (t : FutId) (root : Root) (r : Except Exc Obj) :
    Returns (Next.OfTask t root) (finishCode det t root r) := by
  cases root with
  | workflow args => exact ended_ofTask _
  | signal job args => exact ended_ofTask _
  | update job => exact ended_ofTask _
  | query job => exact .bind fun _ => ended_ofTask _
  | activity => exact .pure fun _ => trivial
  | child => exact .pure fun _ => trivial
  | user => exact .pure fun _ => trivial

theorem resumeAwait_ofTask {t : FutId} {root : Root} (coded : root.coded = true)
    (x : Wf σ (Option Obj)) : Returns (Next.OfTask t root) (resumeAwait t x) := by
  refine .bind fun r => ?_
  split
  · exact .pure fun _ => trivial
  · exact .pure fun _ => ⟨coded, .inl rfl⟩

theorem resume_ofTask (det : Details σ) (t : FutId) (root : Root) (point : Point)
    (input : Except Exc Obj) : Returns (Next.OfTask t root) (resume det t root point input) := by
  have ends {x : Wf σ (Option Obj)} : Returns (Next.OfTask t root) (do
      let r ← attempt x
      pure (.done r)) := .bind fun _ => .pure fun _ => trivial
  unfold resume
  split
  · split
    · exact .pure fun _ => trivial
    · exact startCode_ofTask det t root
  · exact ends
  · exact ends
  · exact ends
  · exact ends
  · exact .pure fun _ => trivial
  · exact .pure fun _ => trivial
  all_goals
    have coded : root.coded = true :=
      Root.coded_of_ne ‹root = .activity → False› ‹root = .child → False›
  · exact .pure fun _ => ⟨coded, .inl rfl⟩
  · exact .pure fun _ => ⟨coded, .inl rfl⟩
  · exact resumeAwait_ofTask coded _
  · exact resumeAwait_ofTask coded _
  · exact .pure fun _ => trivial

theorem stepNext_code {s s' : Inst σ} {t : FutId} {next : Next} {ctx : Ctx}
    (h : stepNext t next s = (.ok (some ctx), s')) : next = .code ctx ∧ s' = s := by
  cases next with
  | code ctx' =>
    simp only [stepNext, pure_run, Prod.mk.injEq, Except.ok.injEq, Option.some.injEq] at h
    exact ⟨by rw [h.1], h.2.symm⟩
  | done r =>
    rw [stepNext, bind_run] at h
    cases ended : stepEnd t r s with
    | mk r' s₁ =>
      rw [ended] at h
      cases r' <;> simp at h

/-- The body of a step that stops in workflow code leaves it ready to run. -/
theorem stepBody_ready {K : List Kind} {s s' : Inst σ} {t : FutId} (notFinish : Kind.finish t ∉ K)
    {task : Task} (wf : s.WellFormed) (isTask : s.tasks t = some task)
    (pending : s.isDone t = false) {x : Wf σ Next} {ctx : Ctx} (h : Moves K s (x s).2)
    (ofTask : Returns (Next.OfTask t task.root) x)
    (run : (x >>= stepNext t) s = (.ok (some ctx), s')) :
    ctx.Ready s' ∧ ctx.inHandle = true := by
  rw [bind_run] at run
  cases body : x s with
  | mk r s₁ =>
    rw [body] at run h
    cases r with
    | error e => simp at run
    | ok next =>
      obtain ⟨rfl, rfl⟩ := stepNext_code run
      obtain ⟨⟨task', isTask', root⟩, done⟩ := h.alive wf notFinish isTask
      obtain ⟨coded, rfl | ⟨job, defn, i, prev, isUpdate, rfl, responds⟩⟩ := ofTask _ _ _ body
      · exact ⟨⟨task', isTask', done.trans pending, by rw [root]; exact coded⟩, rfl⟩
      · exact ⟨⟨⟨task', isTask', root.trans isUpdate⟩, done.trans pending, responds⟩, rfl⟩

theorem stepTask_ready (det : Details σ) {t : FutId} {input : Except Exc Obj} {s s' : Inst σ}
    {ctx : Ctx} (wf : s.WellFormed) (run : stepTask det t input s = (.ok (some ctx), s')) :
    ctx.Ready s' ∧ ctx.inHandle = true := by
  simp only [stepTask, state_bind_run] at run
  cases isTask : s.tasks t with
  | none => simp [isTask] at run
  | some task =>
    cases done : s.isDone t with
    | true => simp [isTask, done] at run
    | false =>
      simp only [isTask, done, Bool.false_eq_true, if_false, update_bind_run] at run
      have woken : Move (.wake t) s
          (s.setTask t { task with mustCancel := false, point := .running }) :=
        .wake s isTask done
      have isTask' : (s.setTask t { task with mustCancel := false, point := .running }).tasks t =
          some { task with mustCancel := false, point := .running } := by simp [Inst.setTask]
      have notFinish : Kind.finish t ∉ task.kinds t := fun member => by
        cases task.kinds_ofTask t _ member
      exact stepBody_ready notFinish (woken.wellFormed wf) isTask' done
        (resume_moves det t task _ _) (resume_ofTask det t task.root _ _) run

/-- A handle that steps no task runs a callback of workflow code, if any. -/
theorem handleCallback_plain (det : Details σ) {h : Handle} {s s' : Inst σ}
    (notSteps : ∀ t, ¬s.steps h t) {ctx : Ctx}
    (run : handleCallback det h s = (.ok (some ctx), s')) : ctx = .callback := by
  have plain {x : Wf σ (Option Ctx)} {s : Inst σ}
      (h : Returns (fun r _ => r = none ∨ r = some .callback) x)
      (run : x s = (.ok (some ctx), s')) : ctx = .callback := by
    rcases h _ _ _ run with none | callback
    · cases none
    · exact Option.some.inj callback
  simp only [handleCallback, state_bind_run] at run
  cases h with
  | taskStep t => exact absurd (.inl rfl) (notSteps t)
  | callback cb f =>
    cases cb with
    | wakeup t => exact absurd (.inr (.inl ⟨f, rfl⟩)) (notSteps t)
    | tasksRemove => exact plain (.bind fun _ => .pure fun _ => .inl rfl) run
    | signalDone id => exact plain (.bind fun _ => .pure fun _ => .inl rfl) run
    | user => exact plain (.pure fun _ => .inr rfl) run
  | outerWakeup o => exact absurd (.inr (.inr ⟨o, rfl, rfl⟩)) (notSteps _)
  | shieldInner o => exact plain (.bind fun _ => .pure fun _ => .inl rfl) run
  | shieldOuter o => exact plain (.bind fun _ => .pure fun _ => .inl rfl) run
  | timer seq =>
    refine plain ?_ run
    dsimp only
    split
    · exact .raise _
    · split
      · exact .pure fun _ => .inr rfl
      · split
        · exact .bind fun _ => .pure fun _ => .inl rfl
        · exact .pure fun _ => .inl rfl
  | cancelPrimaryTask t => exact plain (.bind fun _ => .pure fun _ => .inl rfl) run
  | user id =>
    refine plain ?_ run
    dsimp only
    split
    · exact .raise _
    · exact .pure fun _ => .inr rfl

theorem handleCallback_ready (det : Details σ) {h : Handle} {s s' : Inst σ} {ctx : Ctx}
    (wf : s.WellFormed) (run : handleCallback det h s = (.ok (some ctx), s')) :
    ctx.Ready s' ∧ ctx.inHandle = true := by
  by_cases steps : ∃ t, s.steps h t
  · obtain ⟨t, steps⟩ := steps
    obtain ⟨input, same⟩ := handleRun_steps det steps
    rw [same] at run
    exact stepTask_ready det wf run
  · rw [handleCallback_plain det (not_exists.mp steps) run]
    exact ⟨trivial, rfl⟩

theorem handleRun_ready (det : Details σ) {h : Handle} {s s' : Inst σ} {ctx : Ctx}
    (wf : s.WellFormed) (run : handleRun det h s = (.ok (some ctx), s')) :
    ctx.Ready s' ∧ ctx.inHandle = true :=
  handleCallback_ready det wf (handleRun_code run)

/-! ### The end of an activation -/

theorem complete_inst (det : Details σ) (m : Machine σ) (err : Option Error) :
    (m.complete det err).inst = { m.inst with commands := [] } := by
  unfold Machine.complete
  split
  · rfl
  · split <;> rfl

theorem setWorkflowFailure_inst (det : Details σ) (e : Error) (s : Inst σ) :
    ∃ cs, (setWorkflowFailure det e s).2 = { s with commands := s.commands ++ cs } := by
  have added (c : Command) : ∃ cs, (addCommand c s).2 = { s with commands := s.commands ++ cs } := by
    rw [addCommand_run]
    split
    · exact ⟨[c], rfl⟩
    · exact ⟨[], by simp⟩
  unfold setWorkflowFailure
  cases det.toFailure e with
  | ok f =>
    obtain ⟨cs, same⟩ := added (.failWorkflowExecution (some f))
    refine ⟨cs, ?_⟩
    rw [← same]
    dsimp only
    rw [bind_run]
    cases addCommand (.failWorkflowExecution (some f)) s with
    | mk r s₁ => cases r <;> rfl
  | error e' =>
    obtain ⟨cs, same⟩ := added (.failWorkflowExecution none)
    refine ⟨cs, ?_⟩
    rw [← same]
    dsimp only
    rw [bind_run]
    cases addCommand (.failWorkflowExecution none) s with
    | mk r s₁ => cases r <;> rfl

/-- An error that leaves `activate` drops the commands, and changes nothing
else. -/
theorem raised_inst (det : Details σ) (m : Machine σ) (e : Exc) :
    (m.raised det e).inst = { m.inst with commands := [] } := by
  cases e with
  | error err =>
    dsimp only [Machine.raised, Machine.note]
    split
    · obtain ⟨cs, same⟩ := setWorkflowFailure_inst det err m.inst
      cases run : setWorkflowFailure det err m.inst with
      | mk r s₁ =>
        rw [run] at same
        dsimp only at same
        subst same
        cases r with
        | ok u => exact complete_inst det _ _
        | error e =>
          cases e with
          | error inner => exact complete_inst det _ _
          | _ => rfl
    · exact complete_inst det _ _
  | _ => rfl

theorem complete_moves (det : Details σ) (m : Machine σ) (err : Option Error) :
    Moves [.turn] m.inst (m.complete det err).inst := by
  rw [complete_inst]
  exact .of_move (k := .turn) (by simp) (.turn m.inst _ _)

theorem raised_moves (det : Details σ) (m : Machine σ) (e : Exc) :
    Moves [.turn] m.inst (m.raised det e).inst := by
  rw [raised_inst]
  exact .of_move (k := .turn) (by simp) (.turn m.inst _ _)

theorem handleDone_moves (det : Details σ) (m : Machine σ) (s : Inst σ) (frame : Frame) :
    Moves [.turn] s (m.handleDone det s frame).inst := by
  unfold Machine.handleDone
  split
  · split
    · exact raised_moves det (m.goto s (.inner frame)) _
    · exact Std.Refl.refl s
  · exact Std.Refl.refl s

/-- The `except` clauses let the exception out of the loop or report it. -/
theorem handleRaised_cases (det : Details σ) (m : Machine σ) (s : Inst σ) (frame : Frame)
    (e : Exc) :
    e.exits = true ∧ m.handleRaised det s frame e = (m.goto s (.inner frame)).raised det e ∨
      m.handleRaised det s frame e = m.handleDone det (callExceptionHandler s).2 frame := by
  unfold Machine.handleRaised
  split
  next exits => exact .inl ⟨exits, rfl⟩
  · exact .inr rfl

theorem handleRaised_moves (det : Details σ) (m : Machine σ) (s : Inst σ) (frame : Frame)
    (e : Exc) : Moves [.book, .turn] s (m.handleRaised det s frame e).inst := by
  rcases handleRaised_cases det m s frame e with ⟨-, out⟩ | reported
  · rw [out]
    exact (raised_moves det (m.goto s (.inner frame)) e).mono (by simp)
  · rw [reported]
    exact Moves.trans (callExceptionHandler_moves (by simp) s)
      ((handleDone_moves det m _ frame).mono (by simp))

theorem handleNext_moves (det : Details σ) (m : Machine σ) (frame : Frame)
    (r : Except Exc (Option Ctx) × Inst σ) :
    Moves [.book, .turn] r.2 (m.handleNext det frame r).inst := by
  obtain ⟨r, s⟩ := r
  cases r with
  | ok ctx =>
    cases ctx with
    | some ctx => exact Std.Refl.refl s
    | none => exact (handleDone_moves det m s frame).mono (by simp)
  | error e => exact handleRaised_moves det m s frame e

/-! ### What a step can be -/

/-- The steps of the SDK. -/
inductive Tick (det : Details σ) (m : Machine σ) : Machine σ → Prop
  | complete {index : Nat} (control : m.control = .sets ⟨index, []⟩) :
      Tick det m (m.complete det none)
  | skipSet {index : Nat} {later : List (List Job)}
      (control : m.control = .sets ⟨index, [] :: later⟩) :
      Tick det m { m with control := .sets ⟨index + 1, later⟩ }
  | openSet {index : Nat} {job : Job} {jobs : List Job} {later : List (List Job)}
      (control : m.control = .sets ⟨index, (job :: jobs) :: later⟩) :
      Tick det m { m with control := .jobs (job :: jobs) ⟨index, later⟩ }
  | closeSet {frame : Frame} (control : m.control = .jobs [] frame) :
      Tick det m { m with control := .enter frame }
  | applied {job : Job} {rest : List Job} {frame : Frame} {s : Inst σ}
      (control : m.control = .jobs (job :: rest) frame)
      (run : applyJob det job m.inst = (.ok (), s)) :
      Tick det m ((m.goto s (.jobs rest frame)).note (.applied job))
  | applyRaised {job : Job} {rest : List Job} {frame : Frame} {s : Inst σ} {e : Exc}
      (control : m.control = .jobs (job :: rest) frame)
      (run : applyJob det job m.inst = (.error e, s)) :
      Tick det m (Machine.raised det { m with inst := s } e)
  | enter {frame : Frame} (control : m.control = .enter frame)
      (object : (m.inst.object.isSome && det.objectTruthy m.inst.mem) = true) :
      Tick det m { m with control := .outer frame }
  | init {frame : Frame} (control : m.control = .enter frame)
      (object : (m.inst.object.isSome && det.objectTruthy m.inst.mem) = false) :
      Tick det m { m with control := .code .init frame }
  | ran {frame : Frame} (control : m.control = .outer frame) (ready : m.inst.ready = []) :
      Tick det m ({ m with control := .sets (frame.next frame.later) }.note
        (.ran frame.index m.inst.ready))
  | loop {frame : Frame} (control : m.control = .outer frame) (ready : m.inst.ready ≠ []) :
      Tick det m { m with control := .inner frame }
  | handle {frame : Frame} {h : Handle} {rest : List Handle} (control : m.control = .inner frame)
      (ready : m.inst.ready = h :: rest) :
      Tick det m (m.handleNext det frame (handleRun det h (m.inst.setReady rest)))
  | checked {frame : Frame} {s : Inst σ} (control : m.control = .inner frame)
      (ready : m.inst.ready = []) (checks : frame.checks = true)
      (run : checkConditions m.inst = (.ok (), s)) :
      Tick det m ((m.goto s (.outer frame)).note (.checked frame.index))
  | checkRaised {frame : Frame} {s : Inst σ} {e : Exc} (control : m.control = .inner frame)
      (ready : m.inst.ready = []) (checks : frame.checks = true)
      (run : checkConditions m.inst = (.error e, s)) :
      Tick det m (Machine.raised det { m with inst := s } e)
  | unchecked {frame : Frame} (control : m.control = .inner frame) (ready : m.inst.ready = [])
      (checks : frame.checks = false) : Tick det m { m with control := .outer frame }

theorem tick_cases (det : Details σ) {m m' : Machine σ} (h : tick det m = some m') :
    Tick det m m' := by
  unfold tick at h
  split at h
  · cases h
  · cases h
  next control =>
    cases h
    exact .complete control
  next control =>
    cases h
    exact .skipSet control
  next control =>
    cases h
    exact .openSet control
  next control =>
    cases h
    exact .closeSet control
  next control =>
    split at h
    next run =>
      cases h
      exact .applied control run
    next run =>
      cases h
      exact .applyRaised control run
  next control =>
    split at h
    next object =>
      cases h
      exact .enter control object
    next object =>
      cases h
      exact .init control (by simpa using object)
  next control =>
    split at h
    next ready =>
      cases h
      exact .ran control (by simpa using ready)
    next ready =>
      cases h
      exact .loop control (by simpa using ready)
  next control =>
    split at h
    next ready =>
      cases h
      exact .handle control ready
    next ready =>
      split at h
      next checks =>
        split at h
        next run =>
          cases h
          exact .checked control ready checks run
        next run =>
          cases h
          exact .checkRaised control ready checks run
      next checks =>
        cases h
        exact .unchecked control ready (by simpa using checks)

/-- The steps of workflow code. -/
inductive Perform (det : Details σ) (m : Machine σ) : Act σ → Machine σ → Prop
  | ret {ctx : Ctx} {frame : Frame} (control : m.control = .code ctx frame) (v : Obj) :
      Perform det m (.ret v) (finishContext det m ctx frame (.ok v))
  | raise {ctx : Ctx} {frame : Frame} (control : m.control = .code ctx frame) (e : Exc) :
      Perform det m (.raise e) (finishContext det m ctx frame (.error e))
  | call {ctx : Ctx} {frame : Frame} {a : Act σ} (control : m.control = .code ctx frame)
      (enabled : a.enabled m.inst = true) :
      Perform det m a { m with inst := (performCall det a m.inst).2 }
  | await {t : FutId} {frame : Frame} {a : Act σ} {call : Wf σ (Option Obj)}
      {r : Except Exc (Option Obj)} {s : Inst σ} (control : m.control = .code (.task t) frame)
      (enabled : a.enabled m.inst = true) (await : performAwait det t a = some call)
      (run : call m.inst = (r, s)) (resumed : r ≠ .ok none) :
      Perform det m a { m with inst := s }
  | suspend {t : FutId} {frame : Frame} {a : Act σ} {call : Wf σ (Option Obj)} {s : Inst σ}
      (control : m.control = .code (.task t) frame) (enabled : a.enabled m.inst = true)
      (await : performAwait det t a = some call) (run : call m.inst = (.ok none, s)) :
      Perform det m a (m.handleNext det frame (stepNext t (.done (.ok none)) s))

theorem perform_cases (det : Details σ) {m m' : Machine σ} {a : Act σ}
    (h : perform det m a = some m') : Perform det m a m' := by
  unfold perform at h
  split at h
  next ctx frame control =>
    split at h
    next enabled =>
      split at h
      · cases h
        exact .ret control _
      · cases h
        exact .raise control _
      · split at h
        next t =>
          split at h
          · cases h
            exact .call control enabled
          next call await =>
            split at h
            next s run =>
              cases h
              exact .suspend control enabled await run
            next r s resumed run =>
              cases h
              exact .await control enabled await run resumed
        · split at h
          · cases h
            exact .call control enabled
          · cases h
    · cases h
  · cases h

/-! ### Steps as moves -/

/-- The moves of the workflow code that ends, by the code it is. -/
def Inst.endKinds (s : Inst σ) : Ctx → List Kind
  | .task t =>
    match s.tasks t with
    | some task => .finish t :: .own t :: task.root.endKinds
    | none => []
  | .validator t job _ _ _ =>
    [.finish t, .own t, .update job.protocolInstanceId, .error, .progress, .book, .mode]
  | .callback => []
  | .init => [.construct]

/-- What the end of workflow code can do at all. -/
theorem Inst.endKinds_cases (s : Inst σ) (ctx : Ctx) :
    ∀ k ∈ s.endKinds ctx, k.ofHandle = true ∨ k = .construct := by
  cases ctx with
  | task t =>
    simp only [endKinds]
    split
    next task _ =>
      intro k member
      simp only [List.mem_cons] at member
      rcases member with rfl | rfl | member
      · exact .inl rfl
      · exact .inl rfl
      · exact .inl (Kind.ofTask_ofHandle (task.root.endKinds_ofTask t k member))
    · simp
  | validator t job defn i prev => simp [endKinds, Kind.ofHandle, Kind.ofTask]
  | callback => simp [endKinds]
  | init => simp [endKinds]

/-- The task that workflow code runs in. -/
def Ctx.owner : Ctx → FutId
  | .task t | .validator t _ _ _ _ => t
  | .callback | .init => 0

/-- Calls that may suspend the task. -/
def Act.awaits : Act σ → Bool
  | .await _ | .bareYield | .waitCondition _ | .startChildWorkflow _ | .signalExternalWorkflow _ _
  | .cancelExternalWorkflow => true
  | _ => false

theorem performAwait_awaits {det : Details σ} {t : FutId} {a : Act σ} {call : Wf σ (Option Obj)}
    (h : performAwait det t a = some call) : a.awaits = true := by
  cases a <;> first | rfl | cases h

theorem own_not_mem_kinds {det : Details σ} {a : Act σ} (awaits : a.awaits = false) {t t' : FutId} :
    Kind.own t' ∉ a.kinds det t := by
  cases a with
  | await | bareYield | waitCondition | startChildWorkflow | signalExternalWorkflow
  | cancelExternalWorkflow => cases awaits
  | _ => simp [Act.kinds]

theorem performCall_awaits (det : Details σ) {a : Act σ} (awaits : a.awaits = true) (s : Inst σ) :
    performCall det a s = (.ok (), s) := by
  cases a with
  | await | bareYield | waitCondition | startChildWorkflow | signalExternalWorkflow
  | cancelExternalWorkflow => rfl
  | _ => cases awaits

/-- The kinds of moves of a step. -/
def Machine.stepKinds (det : Details σ) (m : Machine σ) : Label σ → List Kind
  | .activate _ _ => [.turn]
  | .tick =>
    match m.control with
    | .jobs (job :: _) _ => .turn :: job.kinds
    | .inner _ =>
      match m.inst.ready with
      | h :: _ => .turn :: .pop :: .book :: m.inst.handleKinds h
      | [] => [.check, .turn]
    | _ => [.turn]
  | .act a =>
    match m.control with
    | .code ctx _ =>
      match a with
      | .ret _ | .raise _ => .book :: .turn :: m.inst.endKinds ctx
      | a =>
        if a.awaits then .own ctx.owner :: .book :: .turn :: a.kinds det ctx.owner
        else a.kinds det ctx.owner
    | _ => []

/-- Which steps make moves of a kind. -/
inductive Machine.Makes (det : Details σ) (m : Machine σ) (k : Kind) : Label σ → Prop
  | always (l : Label σ) (h : k = .turn ∨ k = .book ∨ k = .pop) : Makes det m k l
  | job {job : Job} {rest : List Job} {frame : Frame} (control : m.control = .jobs (job :: rest) frame)
      (member : k ∈ job.kinds) : Makes det m k .tick
  | handle {frame : Frame} {h : Handle} {rest : List Handle} (control : m.control = .inner frame)
      (ready : m.inst.ready = h :: rest) (member : k ∈ m.inst.handleKinds h) : Makes det m k .tick
  | check {frame : Frame} (control : m.control = .inner frame) (ready : m.inst.ready = [])
      (same : k = .check) : Makes det m k .tick
  | ends {ctx : Ctx} {frame : Frame} {a : Act σ} (control : m.control = .code ctx frame)
      (isEnd : (∃ v, a = .ret v) ∨ ∃ e, a = .raise e) (member : k ∈ m.inst.endKinds ctx) :
      Makes det m k (.act a)
  | call {ctx : Ctx} {frame : Frame} {a : Act σ} (control : m.control = .code ctx frame)
      (member : k ∈ a.kinds det ctx.owner) : Makes det m k (.act a)
  | await {ctx : Ctx} {frame : Frame} {a : Act σ} (control : m.control = .code ctx frame)
      (awaits : a.awaits = true) (own : k = .own ctx.owner) : Makes det m k (.act a)

theorem stepKinds_makes {det : Details σ} {m : Machine σ} {l : Label σ} {k : Kind}
    (h : k ∈ m.stepKinds det l) : m.Makes det k l := by
  cases l with
  | activate jobs isReplaying =>
    simp only [Machine.stepKinds, List.mem_singleton] at h
    exact .always _ (.inl h)
  | tick =>
    simp only [Machine.stepKinds] at h
    split at h
    next job rest frame control =>
      rcases List.mem_cons.mp h with turn | member
      · exact .always _ (.inl turn)
      · exact .job control member
    next frame control =>
      split at h
      next handle rest ready =>
        simp only [List.mem_cons] at h
        rcases h with turn | pop | book | member
        · exact .always _ (.inl turn)
        · exact .always _ (.inr (.inr pop))
        · exact .always _ (.inr (.inl book))
        · exact .handle control ready member
      next ready =>
        simp only [List.mem_cons, List.not_mem_nil, or_false] at h
        rcases h with check | turn
        · exact .check control ready check
        · exact .always _ (.inl turn)
    · simp only [List.mem_singleton] at h
      exact .always _ (.inl h)
  | act a =>
    simp only [Machine.stepKinds] at h
    split at h
    next ctx frame control =>
      split at h
      next v =>
        simp only [List.mem_cons] at h
        rcases h with book | turn | member
        · exact .always _ (.inr (.inl book))
        · exact .always _ (.inl turn)
        · exact .ends control (.inl ⟨v, rfl⟩) member
      next e =>
        simp only [List.mem_cons] at h
        rcases h with book | turn | member
        · exact .always _ (.inr (.inl book))
        · exact .always _ (.inl turn)
        · exact .ends control (.inr ⟨e, rfl⟩) member
      · split at h
        next awaits =>
          simp only [List.mem_cons] at h
          rcases h with own | book | turn | member
          · exact .await control awaits own
          · exact .always _ (.inr (.inl book))
          · exact .always _ (.inl turn)
          · exact .call control member
        · exact .call control h
    · cases h

structure Machine.WellFormed (m : Machine σ) : Prop where
  inst : m.inst.WellFormed
  code : ∀ ctx frame, m.control = .code ctx frame → ctx.Ready m.inst

theorem tick_moves (det : Details σ) {m m' : Machine σ} (h : tick det m = some m') :
    Moves (m.stepKinds det .tick) m.inst m'.inst := by
  cases tick_cases det h with
  | complete control =>
    exact (complete_moves det m none).mono (by simp [Machine.stepKinds, control])
  | @applied job rest frame s control run =>
    have applied := applyJob_moves det job m.inst
    rw [run] at applied
    exact applied.mono (by simp [Machine.stepKinds, control])
  | @applyRaised job rest frame s e control run =>
    have applied := (applyJob_moves det job m.inst).mono (L := m.stepKinds det .tick)
      (by simp [Machine.stepKinds, control])
    rw [run] at applied
    exact applied.trans ((raised_moves det { m with inst := s } e).mono
      (by simp [Machine.stepKinds, control]))
  | @handle frame handle rest control ready =>
    have ran := (popHandle_moves det ready).mono (L := m.stepKinds det .tick) (by
      simp only [Machine.stepKinds, control, ready]
      exact List.subset_cons_self _ _)
    exact ran.trans
      ((handleNext_moves det m frame _).mono (by simp [Machine.stepKinds, control, ready]))
  | @checked frame s control ready checks run =>
    have checked := checkConditions_moves m.inst
    rw [run] at checked
    exact checked.mono (by simp [Machine.stepKinds, control, ready])
  | @checkRaised frame s e control ready checks run =>
    have checked := (checkConditions_moves m.inst).mono (L := m.stepKinds det .tick)
      (by simp [Machine.stepKinds, control, ready])
    rw [run] at checked
    exact checked.trans ((raised_moves det { m with inst := s } e).mono
      (by simp [Machine.stepKinds, control, ready]))
  | _ => exact Std.Refl.refl m.inst

/-- A step body run from workflow code, and what follows it. -/
theorem bodyNext_moves (det : Details σ) (m : Machine σ) (frame : Frame) {K : List Kind}
    {t : FutId} (notFinish : Kind.finish t ∉ K) {task : Task} (wf : m.inst.WellFormed)
    (isTask : m.inst.tasks t = some task) (pending : m.inst.isDone t = false) {x : Wf σ Next}
    (h : Moves K m.inst (x m.inst).2) :
    Moves (.book :: .turn :: .finish t :: .own t :: K) m.inst
      (m.handleNext det frame ((x >>= stepNext t) m.inst)).inst :=
  ((stepBody_moves notFinish wf isTask pending h).mono (by simp)).trans
    ((handleNext_moves det m frame _).mono (by simp))

theorem finishContext_moves (det : Details σ) (m : Machine σ) {ctx : Ctx} (frame : Frame)
    (r : Except Exc Obj) (wf : m.inst.WellFormed) (ready : ctx.Ready m.inst) :
    Moves (.book :: .turn :: m.inst.endKinds ctx) m.inst
      (finishContext det m ctx frame r).inst := by
  cases ctx with
  | init =>
    cases r with
    | ok v => exact .of_move (k := .construct) (by simp [Inst.endKinds]) (.construct m.inst)
    | error e => exact (raised_moves det m e).mono (by simp)
  | callback =>
    cases r with
    | ok v => exact (handleDone_moves det m m.inst frame).mono (by simp)
    | error e => exact (handleRaised_moves det m m.inst frame e).mono (by simp)
  | validator t job defn i prev =>
    obtain ⟨⟨task, isTask, -⟩, pending, responds⟩ := ready
    exact bodyNext_moves det m frame (by simp) wf isTask pending
      (finishValidator_moves det t job defn i prev r responds)
  | task t =>
    obtain ⟨task, isTask, pending, -⟩ := ready
    simp only [finishContext, isTask, Inst.endKinds]
    exact bodyNext_moves det m frame (task.root.finish_not_mem_endKinds t) wf isTask pending
      (finishCode_moves det t task.root r m.inst)

theorem afterAwait_moves (det : Details σ) (m : Machine σ) (frame : Frame) (t : FutId)
    (s : Inst σ) :
    Moves [.own t, .book, .turn] s
      (m.handleNext det frame (stepNext t (.done (.ok none)) s)).inst :=
  Moves.trans (Steady.bind (afterSuspend_moves (by simp)) (fun _ => .pure _) s)
    ((handleNext_moves det m frame _).mono (by simp))

/-- The kinds of a call are among those of its step. -/
theorem kinds_subset_stepKinds (det : Details σ) {m : Machine σ} {ctx : Ctx} {frame : Frame}
    (control : m.control = .code ctx frame) (a : Act σ) :
    a.kinds det ctx.owner ⊆ m.stepKinds det (.act a) := by
  simp only [Machine.stepKinds, control]
  split
  · simp [Act.kinds]
  · simp [Act.kinds]
  · split
    · intro k member
      simp [member]
    · exact List.Subset.refl _

theorem perform_moves (det : Details σ) {m m' : Machine σ} {a : Act σ} (wf : m.WellFormed)
    (h : perform det m a = some m') : Moves (m.stepKinds det (.act a)) m.inst m'.inst := by
  cases perform_cases det h with
  | ret control v =>
    exact (finishContext_moves det m _ _ wf.inst (wf.code _ _ control)).mono
      (by simp [Machine.stepKinds, control])
  | raise control e =>
    exact (finishContext_moves det m _ _ wf.inst (wf.code _ _ control)).mono
      (by simp [Machine.stepKinds, control])
  | @call ctx frame _ control enabled =>
    exact (performCall_moves det ctx.owner a enabled).mono (kinds_subset_stepKinds det control a)
  | @await t frame _ call r s control enabled await run =>
    have moves := performAwait_moves det t await m.inst
    rw [run] at moves
    exact moves.mono (kinds_subset_stepKinds det control a)
  | @suspend t frame _ call s control enabled await run =>
    have moves := performAwait_moves det t await m.inst
    rw [run] at moves
    refine (moves.mono (kinds_subset_stepKinds det control a)).trans
      ((afterAwait_moves det m frame t s).mono ?_)
    simp only [Machine.stepKinds, control]
    split
    · cases await
    · cases await
    · simp [performAwait_awaits await, Ctx.owner]

theorem step_moves (det : Details σ) {m m' : Machine σ} {l : Label σ} (wf : m.WellFormed)
    (h : step det m l = some m') : Moves (m.stepKinds det l) m.inst m'.inst := by
  cases l with
  | activate jobs isReplaying =>
    simp only [step] at h
    split at h
    · rw [Option.some.injEq] at h
      subst h
      exact .of_move (k := .turn) (by simp [Machine.stepKinds]) (.turn m.inst _ _)
    · cases h
  | tick => exact tick_moves det h
  | act a => exact perform_moves det wf h

/-! ### Every run keeps identifiers in order -/

theorem respondsAt_append {s : Inst σ} {i : Nat} {pid : String} (h : s.respondsAt i pid)
    {s' : Inst σ} (cs : List Command) (commands : s'.commands = s.commands ++ cs) :
    s'.respondsAt i pid := by
  obtain ⟨r, at_i⟩ := h
  have bound : i < s.commands.length := (List.getElem?_eq_some_iff.mp at_i).1
  exact ⟨r, by rw [commands, List.getElem?_append_left bound, at_i]⟩

theorem Allowed.respondsAt {K : List Kind} {s s' : Inst σ} (h : Allowed K s s')
    (wf : s.WellFormed) (notTurn : Kind.turn ∉ K) {i : Nat} {pid : String} (responds : s.respondsAt i pid) :
    s'.respondsAt i pid := by
  rcases h.calm_or_move wf with calm | ⟨k, member, move⟩
  · obtain ⟨cs, commands, -⟩ := calm.commands
    exact respondsAt_append responds cs commands
  · cases move with
    | turn => exact absurd member notTurn
    | command | memoize => exact respondsAt_append responds _ rfl
    | updateResponse => exact respondsAt_append responds _ rfl
    | answer _ j id new at_j =>
      obtain ⟨r, at_i⟩ := responds
      have different : j ≠ i := by
        rintro rfl
        rw [at_i] at at_j
        cases at_j
      exact ⟨r, by simpa [List.getElem?_set, different] using at_i⟩
    | updateAnswer _ j pid' new at_j =>
      by_cases same : j = i
      · subst same
        obtain ⟨r, at_i⟩ := responds
        have samePid := at_j
        rw [at_i, Option.some.injEq, Command.updateResponse.injEq] at samePid
        obtain ⟨rfl, -⟩ := samePid
        exact respondsAt_set ⟨_, at_j⟩ new
      · obtain ⟨r, at_i⟩ := responds
        exact ⟨r, by simpa [List.getElem?_set, same] using at_i⟩
    | _ => exact responds

theorem Ctx.Ready.moves {K : List Kind} {s s' : Inst σ} {ctx : Ctx} (ready : ctx.Ready s)
    (h : Moves K s s') (wf : s.WellFormed) (notFinish : ∀ t, Kind.finish t ∉ K)
    (notTurn : Kind.turn ∉ K) : ctx.Ready s' := by
  cases ctx with
  | task t =>
    obtain ⟨task, isTask, pending, coded⟩ := ready
    obtain ⟨⟨task', isTask', root⟩, done⟩ := h.alive wf (notFinish t) isTask
    exact ⟨task', isTask', done.trans pending, by rw [root]; exact coded⟩
  | validator t job defn i prev =>
    obtain ⟨⟨task, isTask, isUpdate⟩, pending, responds⟩ := ready
    obtain ⟨⟨task', isTask', root⟩, done⟩ := h.alive wf (notFinish t) isTask
    exact ⟨⟨task', isTask', root.trans isUpdate⟩, done.trans pending,
      (h.keeps wf responds fun a b wfa allowed responds =>
        allowed.respondsAt wfa notTurn responds).1⟩
  | callback => trivial
  | init => trivial

/-- The machine is not in workflow code. -/
def Control.sdk : Control → Bool
  | .code _ _ => false
  | _ => true

theorem complete_control (det : Details σ) (m : Machine σ) (err : Option Error) :
    (m.complete det err).control = .idle := by
  unfold Machine.complete
  split
  · rfl
  · split <;> rfl

theorem raised_control (det : Details σ) (m : Machine σ) (e : Exc) :
    (m.raised det e).control = .idle := by
  cases e with
  | error err =>
    dsimp only [Machine.raised]
    split
    · split
      · exact complete_control det _ _
      · exact complete_control det _ _
      · rfl
    · exact complete_control det _ _
  | _ => rfl

theorem handleDone_control (det : Details σ) (m : Machine σ) (s : Inst σ) (frame : Frame) :
    (m.handleDone det s frame).control = .idle ∨
      m.handleDone det s frame = m.goto s (.inner frame) := by
  unfold Machine.handleDone
  split
  · split
    · exact .inl (raised_control det _ _)
    · exact .inr rfl
  · exact .inr rfl

theorem handleDone_sdk (det : Details σ) (m : Machine σ) (s : Inst σ) (frame : Frame) :
    (m.handleDone det s frame).control.sdk = true := by
  rcases handleDone_control det m s frame with idle | inner
  · rw [idle]
    rfl
  · rw [inner]
    rfl

theorem handleRaised_control (det : Details σ) (m : Machine σ) (s : Inst σ) (frame : Frame)
    (e : Exc) : (m.handleRaised det s frame e).control = .idle ∨
      m.handleRaised det s frame e = m.goto (callExceptionHandler s).2 (.inner frame) := by
  rcases handleRaised_cases det m s frame e with ⟨-, out⟩ | reported
  · rw [out, raised_control]
    exact .inl rfl
  · rw [reported]
    exact handleDone_control det m _ frame

theorem handleRaised_sdk (det : Details σ) (m : Machine σ) (s : Inst σ) (frame : Frame)
    (e : Exc) : (m.handleRaised det s frame e).control.sdk = true := by
  rcases handleRaised_control det m s frame e with idle | inner
  · rw [idle]
    rfl
  · rw [inner]
    rfl

/-- The next part of `handle._run()` is workflow code only if the last one
stopped there. -/
theorem handleNext_control (det : Details σ) (m : Machine σ) (frame : Frame)
    (r : Except Exc (Option Ctx) × Inst σ) :
    (m.handleNext det frame r).control.sdk = true ∨
      ∃ ctx, r.1 = .ok (some ctx) ∧ m.handleNext det frame r = m.goto r.2 (.code ctx frame) := by
  obtain ⟨r, s⟩ := r
  cases r with
  | ok ctx =>
    cases ctx with
    | some ctx => exact .inr ⟨ctx, rfl, rfl⟩
    | none => exact .inl (handleDone_sdk det m s frame)
  | error e => exact .inl (handleRaised_sdk det m s frame e)

/-- Where `handle._run()` leaves the loop. -/
theorem handleNext_place (det : Details σ) (m : Machine σ) (frame : Frame)
    (r : Except Exc (Option Ctx) × Inst σ) :
    (m.handleNext det frame r).control = .idle ∨
      (m.handleNext det frame r).control = .inner frame ∨
      ∃ ctx, r.1 = .ok (some ctx) ∧ (m.handleNext det frame r).control = .code ctx frame := by
  obtain ⟨r, s⟩ := r
  cases r with
  | ok ctx =>
    cases ctx with
    | some ctx => exact .inr (.inr ⟨ctx, rfl, rfl⟩)
    | none =>
      rcases handleDone_control det m s frame with idle | inner
      · exact .inl idle
      · exact .inr (.inl (by rw [Machine.handleNext, inner]; rfl))
  | error e =>
    rcases handleRaised_control det m s frame e with idle | inner
    · exact .inl idle
    · exact .inr (.inl (by rw [Machine.handleNext, inner]; rfl))

theorem Machine.WellFormed.of_sdk {m : Machine σ} (wf : m.inst.WellFormed)
    (control : m.control.sdk = true) : m.WellFormed where
  inst := wf
  code ctx frame h := by
    rw [h] at control
    cases control

theorem handleNext_ready (det : Details σ) (m : Machine σ) (frame : Frame)
    {r : Except Exc (Option Ctx) × Inst σ} (wf : (m.handleNext det frame r).inst.WellFormed)
    (ready : ∀ ctx s, r = (.ok (some ctx), s) → ctx.Ready s) :
    (m.handleNext det frame r).WellFormed := by
  rcases handleNext_control det m frame r with sdk | ⟨ctx, stopped, same⟩
  · exact .of_sdk wf sdk
  · refine ⟨wf, fun ctx' frame' h => ?_⟩
    rw [same] at h ⊢
    simp only [Machine.goto, Control.code.injEq] at h
    obtain ⟨rfl, -⟩ := h
    exact ready ctx r.2 (Prod.ext stopped rfl)

theorem tick_wellFormed (det : Details σ) {m m' : Machine σ} (wf : m.WellFormed)
    (h : tick det m = some m') : m'.WellFormed := by
  have inst := (tick_moves det h).wellFormed wf.inst
  cases tick_cases det h with
  | complete => exact .of_sdk inst (by rw [complete_control]; rfl)
  | applyRaised | checkRaised => exact .of_sdk inst (by rw [raised_control]; rfl)
  | init =>
    refine ⟨inst, fun ctx frame h => ?_⟩
    simp only [Control.code.injEq] at h
    obtain ⟨rfl, -⟩ := h
    trivial
  | @handle frame handle rest =>
    have popped : (m.inst.setReady rest).WellFormed :=
      wf.inst.congr rfl rfl rfl (List.Sublist.refl _) rfl
    exact handleNext_ready det m _ inst fun ctx s run => (handleRun_ready det popped run).1
  | _ => exact .of_sdk inst rfl

theorem finishValidator_ofTask (det : Details σ) (t : FutId) (job : DoUpdate) (defn : HandlerDefn)
    (i : Nat) (prev : Bool) (r : Except Exc Obj) :
    Returns (Next.OfTask t (.update job)) (finishValidator det t job defn i prev r) := by
  refine .bind fun _ => ?_
  split
  · exact ended_ofTask _
  · split
    · exact ended_ofTask _
    · exact acceptUpdate_ofTask det t job i

theorem finishContext_wellFormed (det : Details σ) (m : Machine σ) {ctx : Ctx} (frame : Frame)
    (r : Except Exc Obj) (wf : m.inst.WellFormed) (ready : ctx.Ready m.inst) :
    (finishContext det m ctx frame r).WellFormed := by
  have inst := (finishContext_moves det m frame r wf ready).wellFormed wf
  cases ctx with
  | init =>
    cases r with
    | ok v => exact .of_sdk inst rfl
    | error e => exact .of_sdk inst (by rw [finishContext, raised_control]; rfl)
  | callback =>
    cases r with
    | ok v => exact .of_sdk inst (handleDone_sdk det m _ frame)
    | error e => exact .of_sdk inst (handleRaised_sdk det m _ frame e)
  | validator t job defn i prev =>
    obtain ⟨⟨task, isTask, isUpdate⟩, pending, responds⟩ := ready
    refine handleNext_ready det m frame inst fun ctx s run => ?_
    exact (stepBody_ready (K := [.update job.protocolInstanceId, .error, .progress, .book, .mode])
      (by simp) wf isTask pending (finishValidator_moves det t job defn i prev r responds)
      (by rw [isUpdate]; exact finishValidator_ofTask det t job defn i prev r) run).1
  | task t =>
    obtain ⟨task, isTask, pending, -⟩ := ready
    simp only [finishContext, isTask] at inst ⊢
    refine handleNext_ready det m frame inst fun ctx s run => ?_
    exact (stepBody_ready (task.root.finish_not_mem_endKinds t) wf isTask pending
      (finishCode_moves det t task.root r m.inst) (finishCode_ofTask det t task.root r) run).1

theorem perform_wellFormed (det : Details σ) {m m' : Machine σ} {a : Act σ} (wf : m.WellFormed)
    (h : perform det m a = some m') : m'.WellFormed := by
  have inst := (perform_moves det wf h).wellFormed wf.inst
  have continues {s : Inst σ} {t : FutId} (moves : Moves (a.kinds det t) m.inst s)
      (wfs : s.WellFormed) : Machine.WellFormed { m with inst := s } := by
    refine ⟨wfs, fun ctx frame control => ?_⟩
    exact (wf.code ctx frame control).moves moves wf.inst
      (fun _ member => by simpa using a.kinds_subset det t member)
      (fun member => by simpa using a.kinds_subset det t member)
  cases perform_cases det h with
  | ret control v => exact finishContext_wellFormed det m _ _ wf.inst (wf.code _ _ control)
  | raise control e => exact finishContext_wellFormed det m _ _ wf.inst (wf.code _ _ control)
  | call control enabled => exact continues (performCall_moves det 0 a enabled) inst
  | await control enabled await run =>
    have moves := performAwait_moves det _ await m.inst
    rw [run] at moves
    exact continues moves inst
  | suspend control enabled await run =>
    refine handleNext_ready det m _ inst fun ctx s run => ?_
    cases (stepNext_code run).1

theorem step_wellFormed (det : Details σ) {m m' : Machine σ} {l : Label σ} (wf : m.WellFormed)
    (h : step det m l = some m') : m'.WellFormed := by
  have inst := (step_moves det wf h).wellFormed wf.inst
  cases l with
  | activate jobs isReplaying =>
    simp only [step] at h
    split at h
    · cases h
      exact .of_sdk inst rfl
    · cases h
  | tick => exact tick_wellFormed det wf h
  | act a => exact perform_wellFormed det wf h

/-! ### The journal -/

theorem complete_journal (det : Details σ) (m : Machine σ) (err : Option Error) :
    (m.complete det err).journal = m.journal := by
  unfold Machine.complete
  split
  · rfl
  · split <;> rfl

theorem raised_journal (det : Details σ) (m : Machine σ) (e : Exc) :
    (m.raised det e).journal = m.journal ++ [Entry.raised e] := by
  cases e with
  | error err =>
    dsimp only [Machine.raised]
    split
    · split
      · exact complete_journal det _ _
      · exact complete_journal det _ _
      · rfl
    · exact complete_journal det _ _
  | _ => rfl

/-- Nothing but an exception is noted. -/
def Machine.Quiet (m m' : Machine σ) : Prop :=
  m'.journal = m.journal ∨ ∃ e, m'.journal = m.journal ++ [.raised e]

theorem handleDone_quiet (det : Details σ) (m : Machine σ) (s : Inst σ) (frame : Frame) :
    m.Quiet (m.handleDone det s frame) := by
  unfold Machine.handleDone
  split
  · split
    · exact .inr ⟨_, raised_journal det (m.goto s (.inner frame)) _⟩
    · exact .inl rfl
  · exact .inl rfl

theorem handleRaised_quiet (det : Details σ) (m : Machine σ) (s : Inst σ) (frame : Frame)
    (e : Exc) : m.Quiet (m.handleRaised det s frame e) := by
  rcases handleRaised_cases det m s frame e with ⟨-, out⟩ | reported
  · rw [out]
    exact .inr ⟨e, raised_journal det (m.goto s (.inner frame)) e⟩
  · rw [reported]
    exact handleDone_quiet det m _ frame

theorem handleNext_quiet (det : Details σ) (m : Machine σ) (frame : Frame)
    (r : Except Exc (Option Ctx) × Inst σ) : m.Quiet (m.handleNext det frame r) := by
  unfold Machine.handleNext
  split
  · exact .inl rfl
  · exact handleDone_quiet det m _ frame
  · exact handleRaised_quiet det m _ frame _

theorem finishContext_quiet (det : Details σ) (m : Machine σ) (ctx : Ctx) (frame : Frame)
    (r : Except Exc Obj) : m.Quiet (finishContext det m ctx frame r) := by
  cases ctx with
  | init =>
    cases r with
    | ok v => exact .inl rfl
    | error e => exact .inr ⟨e, raised_journal det m e⟩
  | callback =>
    cases r with
    | ok v => exact handleDone_quiet det m _ frame
    | error e => exact handleRaised_quiet det m _ frame e
  | validator t job defn i prev => exact handleNext_quiet det m frame _
  | task t =>
    unfold finishContext
    dsimp only
    split
    · exact handleNext_quiet det m frame _
    · exact .inl rfl

theorem perform_quiet (det : Details σ) {m m' : Machine σ} {a : Act σ}
    (h : perform det m a = some m') : m.Quiet m' := by
  cases perform_cases det h with
  | ret control v => exact finishContext_quiet det m _ _ _
  | raise control e => exact finishContext_quiet det m _ _ _
  | call | await => exact .inl rfl
  | suspend => exact handleNext_quiet det m _ _

/-- A workflow without handlers whose converters hand values through. -/
def Details.plain : Details Nat where
  toPayloads objs := .ok objs
  fromPayloads payloads _ := .ok payloads
  toFailure _ := .ok 0
  fromFailure _ := .ok (.failureError (.other 0 false))
  encodeSearchAttributes _ := .ok ()
  failureExceptionTypes _ := false
  dynamicWorkflow := false
  argTypes := none
  signals := Dict.empty
  queries := Dict.empty
  updates := Dict.empty
  objectTruthy _ := true

/-! ### Reachability -/

/-- What can be reached by steps that satisfy `ok`. -/
inductive Reach (det : Details σ) (ok : Machine σ → Label σ → Prop) (start : Machine σ) :
    Machine σ → Prop
  | refl : Reach det ok start start
  | step {m m' : Machine σ} {l : Label σ} (before : Reach det ok start m) (allowed : ok m l)
      (step : step det m l = some m') : Reach det ok start m'

theorem init_wellFormed (det : Details σ) (mem : σ) : (Machine.init det mem).WellFormed := by
  refine .of_sdk ⟨?_, ?_, ?_, List.nodup_nil⟩ rfl <;> intros <;> simp_all [Machine.init, Inst.init]

/-- The rule for invariants of runs: kept by every allowed step. -/
theorem Reach.invariant {det : Details σ} {ok : Machine σ → Label σ → Prop} {start m : Machine σ}
    (reach : Reach det ok start m) {I : Machine σ → Prop} (wf : start.WellFormed) (init : I start)
    (keep : ∀ m l m', m.WellFormed → I m → ok m l → Workflow.step det m l = some m' → I m') :
    I m ∧ m.WellFormed := by
  induction reach with
  | refl => exact ⟨init, wf⟩
  | step _ allowed step ih =>
    exact ⟨keep _ _ _ ih.2 ih.1 allowed step, step_wellFormed det ih.2 step⟩

theorem Reach.trans {det : Details σ} {ok : Machine σ → Label σ → Prop} {m₁ m₂ m₃ : Machine σ}
    (first : Reach det ok m₁ m₂) (second : Reach det ok m₂ m₃) : Reach det ok m₁ m₃ := by
  induction second with
  | refl => exact first
  | step _ allowed step ih => exact .step ih allowed step

theorem Reach.mono {det : Details σ} {ok ok' : Machine σ → Label σ → Prop} {start m : Machine σ}
    (reach : Reach det ok start m) (weaker : ∀ m l, ok m l → ok' m l) : Reach det ok' start m := by
  induction reach with
  | refl => exact .refl
  | step _ allowed step ih => exact .step ih (weaker _ _ allowed) step

theorem Reach.of_run {det : Details σ} {ok : Machine σ → Label σ → Prop} {start m : Machine σ}
    {ls : List (Label σ)} (h : run det start ls = some m) (allowed : ∀ l ∈ ls, ∀ m, ok m l) :
    Reach det ok start m := by
  induction ls generalizing start with
  | nil =>
    cases h
    exact .refl
  | cons l ls ih =>
    obtain ⟨m', step, rest⟩ := Option.bind_eq_some_iff.mp h
    exact Reach.trans (.step .refl (allowed l List.mem_cons_self _) step)
      (ih rest fun l member => allowed l (List.mem_cons_of_mem _ member))

/-- `run` with a condition that is checked before each step. -/
def runWhile (det : Details σ) (ok : Machine σ → Label σ → Prop) [∀ m l, Decidable (ok m l)]
    (m : Machine σ) : List (Label σ) → Option (Machine σ)
  | [] => some m
  | l :: ls => if ok m l then (step det m l).bind fun m' => runWhile det ok m' ls else none

theorem Reach.of_runWhile {det : Details σ} {ok : Machine σ → Label σ → Prop}
    [∀ m l, Decidable (ok m l)] {start m : Machine σ} {ls : List (Label σ)}
    (h : runWhile det ok start ls = some m) : Reach det ok start m := by
  induction ls generalizing start with
  | nil =>
    cases h
    exact .refl
  | cons l ls ih =>
    simp only [runWhile] at h
    split at h
    next allowed =>
      obtain ⟨m', step, rest⟩ := Option.bind_eq_some_iff.mp h
      exact Reach.trans (.step .refl allowed step) (ih rest)
    · cases h

/-- The rule for what holds along a list of labels, where the labels taken so
far may be named. -/
theorem run_invariant {det : Details σ} {start m : Machine σ} {ls : List (Label σ)}
    (h : run det start ls = some m) {I : List (Label σ) → Machine σ → Prop}
    (wf : start.WellFormed) (init : I [] start)
    (keep : ∀ past l rest m m', ls = past ++ l :: rest → m.WellFormed → I past m →
      step det m l = some m' → I (past ++ [l]) m') : I ls m := by
  -- generalized over the labels already taken
  have from_past (todo : List (Label σ)) : ∀ past m₀, ls = past ++ todo → m₀.WellFormed →
      I past m₀ → run det m₀ todo = some m → I ls m := by
    induction todo with
    | nil =>
      intro past m₀ split _ holds run
      cases run
      rwa [split, List.append_nil]
    | cons l todo ih =>
      intro past m₀ split wf holds run
      obtain ⟨m₁, step, rest⟩ := Option.bind_eq_some_iff.mp run
      apply ih (past ++ [l]) m₁
      · rw [split, List.append_assoc, List.singleton_append]
      · exact step_wellFormed det wf step
      · exact keep past l todo m₀ m₁ split wf holds step
      · exact rest
  exact from_past ls [] start rfl wf init h

theorem Reach.wellFormed {det : Details σ} {ok : Machine σ → Label σ → Prop} {start m : Machine σ}
    (reach : Reach det ok start m) (wf : start.WellFormed) : m.WellFormed :=
  (reach.invariant (I := fun _ => True) wf trivial fun _ _ _ _ _ _ _ => trivial).2

end TemporalSdk.Workflow
