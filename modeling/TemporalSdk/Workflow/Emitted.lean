import TemporalSdk.Workflow.Runs

/-!
# What becomes of the commands

A step first works on the instance and then, if it ends the activation, hands
its commands over or loses them. `step_settles` separates the two: the work is a
sequence of moves that drops no command, and `Settles` says what happens to the
commands that are there after it.
-/
namespace TemporalSdk.Workflow

open Eff

variable {σ : Type}

/-! ### Lists with an entry written anew -/

theorem filterMap_set_of_none {α β : Type} {f : α → Option β} {l : List α} {i : Nat} {old new : α}
    (at_i : l[i]? = some old) (notOld : f old = none) (notNew : f new = none) :
    (l.set i new).filterMap f = l.filterMap f := by
  induction l generalizing i with
  | nil => cases at_i
  | cons a l ih =>
    cases i with
    | zero =>
      simp only [List.getElem?_cons_zero, Option.some.injEq] at at_i
      subst at_i
      simp [notOld, notNew]
    | succ i =>
      simp only [List.getElem?_cons_succ] at at_i
      simp [List.filterMap_cons, ih at_i]

/-! ### The end of a step -/

/-- How a step goes on from the state `s` that its work has left. -/
inductive Machine.Settles (m : Machine σ) (s : Inst σ) : Machine σ → Prop
  /-- the activation goes on -/
  | goesOn {m' : Machine σ} (inst : m'.inst = s) (sent : m'.sent = m.sent)
      (failed : m'.failed = m.failed) (running : m'.control ≠ .idle) : Settles m s m'
  /-- a new activation begins -/
  | begins (idle : m.control = .idle) (same : s = m.inst) (jobs : List Job) (isReplaying : Bool) :
      Settles m s (m.activate jobs isReplaying)
  /-- the commands are handed over -/
  | sends {m' : Machine σ} (control : m'.control = .idle)
      (inst : m'.inst = { s with commands := [] }) (sent : m'.sent = m.sent ++ s.commands)
      (failed : m'.failed = m.failed) : Settles m s m'
  /-- the commands are lost -/
  | loses {m' : Machine σ} (control : m'.control = .idle)
      (inst : m'.inst = { s with commands := [] }) (sent : m'.sent = m.sent)
      (failed : m'.failed = true) : Settles m s m'

/-- The moves of the work of a step: all but those of `activate` itself. -/
def Machine.workKinds (det : Details σ) (m : Machine σ) (l : Label σ) : List Kind :=
  .command :: (m.stepKinds det l).filter (· ≠ .turn)

theorem subset_workKinds {det : Details σ} {m : Machine σ} {l : Label σ} {K : List Kind}
    (sub : K ⊆ m.stepKinds det l) (noTurn : Kind.turn ∉ K) : K ⊆ m.workKinds det l := by
  intro k member
  refine List.mem_cons_of_mem _ (List.mem_filter.mpr ⟨sub member, ?_⟩)
  simp only [decide_eq_true_eq]
  exact fun same => noTurn (same ▸ member)

/-- Which steps work with moves of a kind. -/
theorem workKinds_makes {det : Details σ} {m : Machine σ} {l : Label σ} {k : Kind}
    (h : k ∈ m.workKinds det l) : k = .command ∨ k ≠ .turn ∧ m.Makes det k l := by
  rcases List.mem_cons.mp h with command | member
  · exact .inl command
  · obtain ⟨member, notTurn⟩ := List.mem_filter.mp member
    exact .inr ⟨by simpa using notTurn, stepKinds_makes member⟩

theorem turn_not_mem_workKinds (det : Details σ) (m : Machine σ) (l : Label σ) :
    Kind.turn ∉ m.workKinds det l := by
  intro member
  rcases workKinds_makes member with command | ⟨other, -⟩
  · cases command
  · exact other rfl

/-! ### The end of an activation -/

theorem complete_settles (det : Details σ) (m : Machine σ) (err : Option Error) :
    m.Settles m.inst (m.complete det err) := by
  have lost {outcome : Outcome} (lost : outcome.lost = true) : m.Settles m.inst (m.leave outcome) :=
    .loses rfl rfl rfl (by simp [Machine.leave, lost])
  unfold Machine.complete
  split
  · exact lost rfl
  · split
    · exact lost rfl
    · exact .sends rfl rfl rfl (by simp [Machine.leave, Outcome.lost])

/-- Settling from a machine that has moved on without handing anything over. -/
theorem Machine.Settles.of_same {m₀ m : Machine σ} {s : Inst σ} {m' : Machine σ}
    (h : m.Settles s m') (idle : m.control ≠ .idle) (sent : m.sent = m₀.sent)
    (failed : m.failed = m₀.failed) : m₀.Settles s m' := by
  cases h with
  | goesOn inst sent' failed' running =>
    exact .goesOn inst (sent'.trans sent) (failed'.trans failed) running
  | begins idle' => exact absurd idle' idle
  | sends control inst sent' failed' =>
    exact .sends control inst (by rw [sent', sent]) (failed'.trans failed)
  | loses control inst sent' failed' => exact .loses control inst (sent'.trans sent) failed'

/-- The commands of an activation that an error ends, the failure of the
workflow among them. -/
theorem raised_settles (det : Details σ) {m : Machine σ} (running : m.control ≠ .idle) (e : Exc) :
    ∃ s, Moves [.command] m.inst s ∧ m.Settles s (m.raised det e) := by
  have stopped (s : Inst σ) (journal : List Entry) (e : Exc) :
      m.Settles s ({ m with inst := s, journal := journal }.leave (.raised e)) :=
    .loses rfl rfl rfl (by simp [Machine.leave, Outcome.lost])
  have completed (s : Inst σ) (journal : List Entry) (err : Option Error) :
      m.Settles s ({ m with inst := s, journal := journal }.complete det err) :=
    (complete_settles det { m with inst := s, journal := journal } err).of_same running rfl rfl
  cases e with
  | error err =>
    dsimp only [Machine.raised, Machine.note]
    split
    · have moves := setWorkflowFailure_moves det err m.inst
      cases run : setWorkflowFailure det err m.inst with
      | mk r s =>
        rw [run] at moves
        refine ⟨s, moves, ?_⟩
        cases r with
        | ok u => exact completed s _ none
        | error e =>
          cases e with
          | error inner => exact completed s _ _
          | _ => exact stopped s _ _
    · exact ⟨m.inst, Std.Refl.refl _, completed m.inst _ _⟩
  | _ => exact ⟨m.inst, Std.Refl.refl _, stopped m.inst _ _⟩

/-- An exception leaves the loop. -/
theorem leavesLoop_settles (det : Details σ) (m : Machine σ) (s : Inst σ) (frame : Frame)
    (e : Exc) : ∃ s', Moves [.command] s s' ∧
      m.Settles s' ((m.goto s (.inner frame)).raised det e) := by
  obtain ⟨s', moves, settles⟩ :=
    raised_settles det (m := m.goto s (.inner frame)) (by simp [Machine.goto]) e
  exact ⟨s', moves, settles.of_same (by simp [Machine.goto]) rfl rfl⟩

theorem handleDone_settles (det : Details σ) (m : Machine σ) (s : Inst σ) (frame : Frame) :
    ∃ s', Moves [.command] s s' ∧ m.Settles s' (m.handleDone det s frame) := by
  unfold Machine.handleDone
  split
  · split
    · exact leavesLoop_settles det m s frame _
    · exact ⟨s, Std.Refl.refl s, .goesOn rfl rfl rfl (by simp [Machine.goto])⟩
  · exact ⟨s, Std.Refl.refl s, .goesOn rfl rfl rfl (by simp [Machine.goto])⟩

theorem handleRaised_settles (det : Details σ) (m : Machine σ) (s : Inst σ) (frame : Frame)
    (e : Exc) : ∃ s', Moves [.command, .book] s s' ∧ m.Settles s' (m.handleRaised det s frame e) := by
  rcases handleRaised_cases det m s frame e with ⟨-, out⟩ | reported
  · obtain ⟨s', moves, settles⟩ := leavesLoop_settles det m s frame e
    exact ⟨s', moves.mono (by simp), out ▸ settles⟩
  · obtain ⟨s', moves, settles⟩ := handleDone_settles det m (callExceptionHandler s).2 frame
    exact ⟨s', (callExceptionHandler_moves (by simp) s).trans (moves.mono (by simp)),
      reported ▸ settles⟩

theorem handleNext_settles (det : Details σ) (m : Machine σ) (frame : Frame)
    (r : Except Exc (Option Ctx) × Inst σ) :
    ∃ s, Moves [.command, .book] r.2 s ∧ m.Settles s (m.handleNext det frame r) := by
  obtain ⟨r, s⟩ := r
  cases r with
  | ok ctx =>
    cases ctx with
    | some ctx =>
      exact ⟨s, Std.Refl.refl s, .goesOn rfl rfl rfl (by simp [Machine.handleNext, Machine.goto])⟩
    | none =>
      obtain ⟨s', moves, settles⟩ := handleDone_settles det m s frame
      exact ⟨s', moves.mono (by simp), settles⟩
  | error e => exact handleRaised_settles det m s frame e

/-! ### Steps -/

theorem turn_not_mem_kinds (job : Job) : Kind.turn ∉ job.kinds := by
  cases job <;> simp [Job.kinds]

theorem turn_not_mem_handleKinds (s : Inst σ) (h : Handle) : Kind.turn ∉ s.handleKinds h :=
  fun member => by cases s.handleKinds_ofHandle h _ member

theorem turn_not_mem_endKinds (s : Inst σ) (ctx : Ctx) : Kind.turn ∉ s.endKinds ctx := by
  intro member
  rcases s.endKinds_cases ctx _ member with ofHandle | construct
  · cases ofHandle
  · cases construct

theorem tick_settles (det : Details σ) {m m' : Machine σ} (h : tick det m = some m') :
    ∃ s, Moves (m.workKinds det .tick) m.inst s ∧ m.Settles s m' := by
  have command : [Kind.command] ⊆ m.workKinds det .tick := by simp [Machine.workKinds]
  cases tick_cases det h with
  | complete => exact ⟨m.inst, Std.Refl.refl _, complete_settles det m none⟩
  | @applied job rest frame s control run =>
    have applied := applyJob_moves det job m.inst
    rw [run] at applied
    exact ⟨s, applied.mono (subset_workKinds (by simp [Machine.stepKinds, control])
      (turn_not_mem_kinds job)), .goesOn rfl rfl rfl (by simp [Machine.goto, Machine.note])⟩
  | @applyRaised job rest frame s e control run =>
    have applied := applyJob_moves det job m.inst
    rw [run] at applied
    obtain ⟨s', moves, settles⟩ :=
      raised_settles det (m := { m with inst := s }) (by simp [control]) e
    refine ⟨s', ?_, settles.of_same (by simp [control]) rfl rfl⟩
    exact (applied.mono (subset_workKinds (by simp [Machine.stepKinds, control])
      (turn_not_mem_kinds job))).trans (moves.mono command)
  | @handle frame handle rest control ready =>
    obtain ⟨s, moves, settles⟩ :=
      handleNext_settles det m frame (handleRun det handle (m.inst.setReady rest))
    refine ⟨s, ?_, settles⟩
    have ran := (popHandle_moves det ready).mono (L := m.workKinds det .tick) (by
      apply subset_workKinds
      · simp only [Machine.stepKinds, control, ready]
        exact List.subset_cons_self _ _
      · simpa using turn_not_mem_handleKinds m.inst handle)
    exact ran.trans (moves.mono (by simp [Machine.workKinds, Machine.stepKinds, control, ready]))
  | @checked frame s control ready checks run =>
    have checked := checkConditions_moves m.inst
    rw [run] at checked
    exact ⟨s, checked.mono (by simp [Machine.workKinds, Machine.stepKinds, control, ready]),
      .goesOn rfl rfl rfl (by simp [Machine.goto, Machine.note])⟩
  | @checkRaised frame s e control ready checks run =>
    have checked := checkConditions_moves m.inst
    rw [run] at checked
    obtain ⟨s', moves, settles⟩ :=
      raised_settles det (m := { m with inst := s }) (by simp [control]) e
    refine ⟨s', ?_, settles.of_same (by simp [control]) rfl rfl⟩
    exact (checked.mono (by simp [Machine.workKinds, Machine.stepKinds, control, ready])).trans
      (moves.mono command)
  | _ => exact ⟨m.inst, Std.Refl.refl _, .goesOn rfl rfl rfl (by simp [Machine.note])⟩

/-- Workflow code of a task has ended, and the step of the task with it. -/
theorem bodyNext_settles (det : Details σ) (m : Machine σ) (frame : Frame) {K : List Kind}
    {t : FutId} (notFinish : Kind.finish t ∉ K) {task : Task} (wf : m.inst.WellFormed)
    (isTask : m.inst.tasks t = some task) (pending : m.inst.isDone t = false) {x : Wf σ Next}
    (h : Moves K m.inst (x m.inst).2) :
    ∃ s, Moves (.command :: .book :: .finish t :: .own t :: K) m.inst s ∧
      m.Settles s (m.handleNext det frame ((x >>= stepNext t) m.inst)) := by
  obtain ⟨s, moves, settles⟩ := handleNext_settles det m frame ((x >>= stepNext t) m.inst)
  exact ⟨s, ((stepBody_moves notFinish wf isTask pending h).mono (by simp)).trans
    (moves.mono (by simp)), settles⟩

theorem finishContext_settles (det : Details σ) {m : Machine σ} {ctx : Ctx} {frame : Frame}
    (r : Except Exc Obj) (wf : m.WellFormed) (control : m.control = .code ctx frame) :
    ∃ s, Moves (.command :: .book :: m.inst.endKinds ctx) m.inst s ∧
      m.Settles s (finishContext det m ctx frame r) := by
  have ready := wf.code _ _ control
  cases ctx with
  | init =>
    cases r with
    | ok v =>
      exact ⟨_, .of_move (k := .construct) (by simp [Inst.endKinds]) (.construct m.inst),
        .goesOn rfl rfl rfl (by simp [finishContext])⟩
    | error e =>
      obtain ⟨s, moves, settles⟩ := raised_settles det (m := m) (by simp [control]) e
      exact ⟨s, moves.mono (by simp), settles⟩
  | callback =>
    cases r with
    | ok v =>
      obtain ⟨s, moves, settles⟩ := handleDone_settles det m m.inst frame
      exact ⟨s, moves.mono (by simp), settles⟩
    | error e =>
      obtain ⟨s, moves, settles⟩ := handleRaised_settles det m m.inst frame e
      exact ⟨s, moves.mono (by simp), settles⟩
  | validator t job defn i prev =>
    obtain ⟨⟨task, isTask, -⟩, pending, responds⟩ := ready
    exact bodyNext_settles det m frame (by simp) wf.inst isTask pending
      (finishValidator_moves det t job defn i prev r responds)
  | task t =>
    obtain ⟨task, isTask, pending, -⟩ := ready
    simp only [finishContext, isTask, Inst.endKinds]
    exact bodyNext_settles det m frame (task.root.finish_not_mem_endKinds t) wf.inst isTask pending
      (finishCode_moves det t task.root r m.inst)

theorem perform_settles (det : Details σ) {m m' : Machine σ} {a : Act σ} (wf : m.WellFormed)
    (h : perform det m a = some m') :
    ∃ s, Moves (m.workKinds det (.act a)) m.inst s ∧ m.Settles s m' := by
  have call {ctx : Ctx} {frame : Frame} (control : m.control = .code ctx frame) :
      a.kinds det ctx.owner ⊆ m.workKinds det (.act a) := by
    refine subset_workKinds (kinds_subset_stepKinds det control a) fun member => ?_
    simpa using a.kinds_subset det ctx.owner member
  have ends {ctx : Ctx} {frame : Frame} (control : m.control = .code ctx frame)
      (isEnd : (∃ v, a = .ret v) ∨ ∃ e, a = .raise e) :
      .command :: .book :: m.inst.endKinds ctx ⊆ m.workKinds det (.act a) := by
    refine List.cons_subset.mpr ⟨by simp [Machine.workKinds], subset_workKinds ?_ ?_⟩
    · rcases isEnd with ⟨v, rfl⟩ | ⟨e, rfl⟩ <;> simp [Machine.stepKinds, control]
    · simpa using turn_not_mem_endKinds m.inst ctx
  cases perform_cases det h with
  | ret control v =>
    obtain ⟨s, moves, settles⟩ := finishContext_settles det (.ok v) wf control
    exact ⟨s, moves.mono (ends control (.inl ⟨v, rfl⟩)), settles⟩
  | raise control e =>
    obtain ⟨s, moves, settles⟩ := finishContext_settles det (.error e) wf control
    exact ⟨s, moves.mono (ends control (.inr ⟨e, rfl⟩)), settles⟩
  | @call ctx frame _ control enabled =>
    exact ⟨_, (performCall_moves det ctx.owner a enabled).mono (call control),
      .goesOn rfl rfl rfl (by simp [control])⟩
  | @await t frame _ program r s control enabled await run =>
    have moves := performAwait_moves det t await m.inst
    rw [run] at moves
    exact ⟨s, moves.mono (call control), .goesOn rfl rfl rfl (by simp [control])⟩
  | @suspend t frame _ program s control enabled await run =>
    have moves := performAwait_moves det t await m.inst
    rw [run] at moves
    obtain ⟨s', moves', settles⟩ :=
      handleNext_settles det m frame (stepNext t (.done (.ok none)) s)
    refine ⟨s', (moves.mono (call control)).trans (Moves.trans ?_ (moves'.mono ?_)), settles⟩
    · have own : Kind.own t ∈ m.workKinds det (.act a) := by
        refine subset_workKinds (K := [.own t]) ?_ (by simp) (by simp)
        simp only [Machine.stepKinds, control]
        split
        · cases await
        · cases await
        · simp [performAwait_awaits await, Ctx.owner]
      exact Steady.bind (afterSuspend_moves own) (fun _ => .pure _) s
    · refine List.cons_subset.mpr ⟨by simp [Machine.workKinds], subset_workKinds ?_ (by simp)⟩
      simp only [Machine.stepKinds, control]
      split
      · simp
      · simp
      · simp [performAwait_awaits await]

/-- The work of a step and what becomes of its commands. -/
theorem step_settles (det : Details σ) {m m' : Machine σ} {l : Label σ} (wf : m.WellFormed)
    (h : step det m l = some m') :
    ∃ s, Moves (m.workKinds det l) m.inst s ∧ m.Settles s m' := by
  cases l with
  | activate jobs isReplaying =>
    simp only [step] at h
    split at h
    next idle =>
      cases h
      exact ⟨m.inst, Std.Refl.refl _, .begins idle rfl jobs isReplaying⟩
    · cases h
  | tick => exact tick_settles det h
  | act a => exact perform_settles det wf h

/-- Between activations there are no commands. -/
theorem step_idle_commands (det : Details σ) {m m' : Machine σ} {l : Label σ} (wf : m.WellFormed)
    (h : step det m l = some m') (idle : m'.control = .idle) : m'.inst.commands = [] := by
  obtain ⟨s, -, settles⟩ := step_settles det wf h
  cases settles with
  | goesOn _ _ _ running => exact absurd idle running
  | begins => cases idle
  | sends _ inst => rw [inst]
  | loses _ inst => rw [inst]

end TemporalSdk.Workflow
