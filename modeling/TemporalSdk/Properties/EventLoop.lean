import TemporalSdk.Workflow.Runs

/-!
# The event loop

`_run_once` takes handles from the front of `_ready` and calls `handle._run()`.
asyncio's own loop does the same, except that it leaves a handle alone which has
been cancelled while it was waiting in the queue.

## Main result

* `loop_refines_asyncio`: what is taken from the queue is what was put into it,
  in that order, and is run; `_run_once` ends when the queue is empty; and a run
  agrees with asyncio's loop step by step exactly if no cancelled handle gets its
  turn, unless the workflow is being evicted.

A cancelled handle has lost its callback and its arguments, so `handle._run()`
raises and hands the exception to the exception handler.

## Proof strategy

Both loops are compared one step at a time (`asyncioStep_eq_iff`): each pops a
handle and runs it, and they differ only in the exception that the workflow loop reports, and during an eviction
`call_exception_handler` does nothing. The order of the queue follows from the
step lemma `step_ready`: a step takes its handle from the front and everything
it schedules goes to the end.
-/
namespace TemporalSdk.Workflow

open Eff

variable {σ : Type}

/-! ### The loop of asyncio -/

/-- `Handle._cancelled`. Workflow code holds the handles of its own callbacks
and timers only. -/
def Handle.cancelled (s : Inst σ) : Handle → Bool
  | .timer seq => (s.timers seq).cancelled
  | .user id => s.cancelledHandles id
  | _ => false

/-- What `BaseEventLoop._run_once` does with a handle that it has popped:
`if handle._cancelled: continue`, and otherwise `handle._run()`. -/
def asyncioHandle (det : Details σ) (m : Machine σ) (frame : Frame) (h : Handle) (s : Inst σ) :
    Machine σ :=
  if h.cancelled s then m.goto s (.inner frame)
  else m.handleNext det frame (handleRun det h s)

/-- A step with asyncio's loop in place of the inner `while self._ready`:
`handle = self._ready.popleft()` and the handle. The jobs, the wait conditions and
the steps of workflow code are not the loop's. -/
def asyncioTick (det : Details σ) (m : Machine σ) : Option (Machine σ) :=
  match m.control with
  | .inner frame =>
    match m.inst.ready with
    | h :: rest => some (asyncioHandle det m frame h (m.inst.setReady rest))
    | [] => tick det m
  | _ => tick det m

def asyncioStep (det : Details σ) (m : Machine σ) : Label σ → Option (Machine σ)
  | .tick => asyncioTick det m
  | l => step det m l

def asyncioRun (det : Details σ) (m : Machine σ) : List (Label σ) → Option (Machine σ)
  | [] => some m
  | l :: ls => (asyncioStep det m l).bind fun m' => asyncioRun det m' ls

/-! ### Handles taken from the queue -/

/-- The handle that a step takes from the queue, and whether it is cancelled. -/
def Machine.takes (m : Machine σ) : Label σ → List (Handle × Bool)
  | .tick =>
    match m.control, m.inst.ready with
    | .inner _, h :: _ => [(h, h.cancelled m.inst)]
    | _, _ => []
  | _ => []

/-- The handles taken from the queue in a run. -/
def taken (det : Details σ) (m : Machine σ) : List (Label σ) → List (Handle × Bool)
  | [] => []
  | l :: ls => m.takes l ++ ((step det m l).map fun m' => taken det m' ls).getD []

/-- The handles put into the queue in a run. -/
def queued (det : Details σ) (m : Machine σ) : List (Label σ) → List Handle
  | [] => []
  | l :: ls => ((step det m l).map fun m' =>
      m'.inst.ready.drop (m.inst.ready.length - (m.takes l).length) ++ queued det m' ls).getD []

/-- `_run_once` is running, or workflow code that it has called. -/
def Control.inLoop : Control → Bool
  | .enter _ | .outer _ | .inner _ | .code _ _ => true
  | _ => false

/-- A cancelled handle gets its turn and is reported to the exception handler. -/
def Machine.reportsCancelled (m : Machine σ) (l : Label σ) : Bool :=
  (m.takes l).any (·.2) && !m.inst.deleting

/-! ### The order of the queue -/

/-- Running a handle adds to the end of the queue it was taken from. -/
theorem handleRun_ready_suffix (det : Details σ) {s : Inst σ} (wf : s.WellFormed) {h : Handle}
    {rest : List Handle} (ready : s.ready = h :: rest) :
    ∃ added, (handleRun det h (s.setReady rest)).2.ready = rest ++ added := by
  cases removes : h.removes with
  | false =>
    have popped : Moves [.pop] s (s.setReady rest) := .of_move (by simp) (.pop s ready removes)
    refine (handleRun_moves det removes (s.setReady rest)).ready (popped.wellFormed wf) ?_
    intro pop
    rcases List.mem_cons.mp pop with book | ofHandle
    · cases book
    · cases (s.setReady rest).handleKinds_ofHandle h _ ofHandle
  | true =>
    refine ⟨[], ?_⟩
    cases h with
    | callback cb f =>
      cases cb with
      | tasksRemove | signalDone => exact (List.append_nil rest).symm
      | _ => cases removes
    | _ => cases removes

/-- Only the inner loop of `_run_once` takes handles. -/
theorem pop_not_mem_stepKinds {det : Details σ} {m : Machine σ} {l : Label σ}
    (none : m.takes l = []) : Kind.pop ∉ m.stepKinds det l := by
  intro pop
  cases l with
  | activate => simp [Machine.stepKinds] at pop
  | tick =>
    simp only [Machine.stepKinds] at pop
    split at pop
    next job rest frame control =>
      have job : Kind.pop ∉ job.kinds := by cases job <;> simp [Job.kinds]
      simp [job] at pop
    next frame control =>
      split at pop
      next h rest ready => simp [Machine.takes, control, ready] at none
      · simp at pop
    · simp at pop
  | act a =>
    have called (t : FutId) : Kind.pop ∉ a.kinds det t := fun pop => by
      simpa using a.kinds_subset det t pop
    have ended (ctx : Ctx) : Kind.pop ∉ m.inst.endKinds ctx := fun pop => by
      rcases m.inst.endKinds_cases ctx _ pop with ofHandle | construct
      · cases ofHandle
      · cases construct
    simp only [Machine.stepKinds] at pop
    split at pop
    next ctx frame control =>
      split at pop
      · simp [ended] at pop
      · simp [ended] at pop
      · split at pop
        · simp [called] at pop
        · exact called _ pop
    · cases pop

theorem Machine.takes_cons {m : Machine σ} {l : Label σ} {first : Handle × Bool}
    {others : List (Handle × Bool)} (takes : m.takes l = first :: others) :
    l = .tick ∧ others = [] ∧ first.2 = first.1.cancelled m.inst ∧
      ∃ frame rest, m.control = .inner frame ∧ m.inst.ready = first.1 :: rest := by
  cases l with
  | activate => cases takes
  | act => cases takes
  | tick =>
    simp only [Machine.takes] at takes
    split at takes
    next frame h rest control ready =>
      cases takes
      exact ⟨rfl, rfl, rfl, frame, rest, control, ready⟩
    · cases takes

/-- One step: what it takes is at the front, what it schedules goes to the end. -/
theorem step_ready (det : Details σ) {m m' : Machine σ} {l : Label σ} (wf : m.WellFormed)
    (h : step det m l = some m') :
    ∃ added, m'.inst.ready = m.inst.ready.drop (m.takes l).length ++ added := by
  cases takes : m.takes l with
  | nil => exact (step_moves det wf h).ready wf.inst (pop_not_mem_stepKinds takes)
  | cons first others =>
    obtain ⟨rfl, rfl, -, frame, rest, control, ready⟩ := Machine.takes_cons takes
    have ran : m' = m.handleNext det frame (handleRun det first.1 (m.inst.setReady rest)) := by
      simp only [step, tick, control, ready, Option.some.injEq] at h
      exact h.symm
    obtain ⟨added, after⟩ := handleRun_ready_suffix det wf.inst ready
    have wf' := (popHandle_moves det ready).wellFormed wf.inst
    obtain ⟨more, final⟩ := (handleNext_moves det m frame
      (handleRun det first.1 (m.inst.setReady rest))).ready wf' (by simp)
    refine ⟨added ++ more, ?_⟩
    rw [ran, final, after, ready]
    simp

/-- A whole run: the queue is first in, first out. -/
theorem run_fifo (det : Details σ) {m m' : Machine σ} {ls : List (Label σ)} (wf : m.WellFormed)
    (h : run det m ls = some m') :
    m.inst.ready ++ queued det m ls = (taken det m ls).map Prod.fst ++ m'.inst.ready := by
  induction ls generalizing m with
  | nil =>
    cases h
    simp [queued, taken]
  | cons l ls ih =>
    obtain ⟨m₁, stepped, rest⟩ := Option.bind_eq_some_iff.mp h
    obtain ⟨added, ready⟩ := step_ready det wf stepped
    have tail := ih (step_wellFormed det wf stepped) rest
    -- the first handles of the queue are those that are taken
    have front : m.inst.ready = (m.takes l).map Prod.fst ++
        m.inst.ready.drop (m.takes l).length := by
      cases takes : m.takes l with
      | nil => simp
      | cons first others =>
        obtain ⟨-, rfl, -, frame, rest, -, ready⟩ := Machine.takes_cons takes
        simp [ready]
    have new : m₁.inst.ready.drop (m.inst.ready.length - (m.takes l).length) = added := by
      rw [ready, ← List.length_drop, List.drop_left]
    rw [queued, taken, stepped]
    simp only [Option.map_some, Option.getD_some, List.map_append, new]
    calc m.inst.ready ++ (added ++ queued det m₁ ls)
        = (m.takes l).map Prod.fst ++ (m₁.inst.ready ++ queued det m₁ ls) := by
          rw [front, ready]
          simp
      _ = (m.takes l).map Prod.fst ++ (taken det m₁ ls).map Prod.fst ++ m'.inst.ready := by
          rw [tail, List.append_assoc]

/-! ### The end of the loop -/

theorem handleDone_leaves (det : Details σ) (m : Machine σ) (s : Inst σ) (frame : Frame) :
    (m.handleDone det s frame).control.inLoop = true ∨
      ∃ e, (m.handleDone det s frame).journal = m.journal ++ [.raised e] := by
  unfold Machine.handleDone
  split
  · split
    · exact .inr ⟨_, raised_journal det (m.goto s (.inner frame)) _⟩
    · exact .inl rfl
  · exact .inl rfl

theorem handleRaised_leaves (det : Details σ) (m : Machine σ) (s : Inst σ) (frame : Frame)
    (e : Exc) : (m.handleRaised det s frame e).control.inLoop = true ∨
      ∃ e', (m.handleRaised det s frame e).journal = m.journal ++ [.raised e'] := by
  rcases handleRaised_cases det m s frame e with ⟨-, out⟩ | reported
  · rw [out]
    exact .inr ⟨e, raised_journal det (m.goto s (.inner frame)) e⟩
  · rw [reported]
    exact handleDone_leaves det m _ frame

theorem handleNext_leaves (det : Details σ) (m : Machine σ) (frame : Frame)
    (r : Except Exc (Option Ctx) × Inst σ) :
    (m.handleNext det frame r).control.inLoop = true ∨
      ∃ e, (m.handleNext det frame r).journal = m.journal ++ [.raised e] := by
  obtain ⟨r, s⟩ := r
  cases r with
  | ok ctx =>
    cases ctx with
    | some ctx => exact .inl rfl
    | none => exact handleDone_leaves det m s frame
  | error e => exact handleRaised_leaves det m s frame e

theorem finishContext_leaves (det : Details σ) {m : Machine σ} {ctx : Ctx} {frame : Frame}
    (r : Except Exc Obj) (control : m.control = .code ctx frame) :
    (finishContext det m ctx frame r).control.inLoop = true ∨
      ∃ e, (finishContext det m ctx frame r).journal = m.journal ++ [.raised e] := by
  cases ctx with
  | init =>
    cases r with
    | ok v => exact .inl rfl
    | error e => exact .inr ⟨e, raised_journal det m e⟩
  | callback =>
    cases r with
    | ok v => exact handleDone_leaves det m m.inst frame
    | error e => exact handleRaised_leaves det m m.inst frame e
  | validator t job defn i prev => exact handleNext_leaves det m frame _
  | task t =>
    simp only [finishContext]
    split
    · exact handleNext_leaves det m frame _
    · rw [control]
      exact .inl rfl

/-- The loop goes on until its queue is empty, or an exception leaves it. -/
theorem step_leaves (det : Details σ) {m m' : Machine σ} {l : Label σ}
    (h : step det m l = some m') (inLoop : m.control.inLoop = true) :
    m'.control.inLoop = true ∨ m'.inst.ready = [] ∨ ∃ e, m'.journal = m.journal ++ [.raised e] := by
  cases l with
  | activate jobs isReplaying =>
    simp only [step] at h
    split at h
    next idle =>
      rw [idle] at inLoop
      cases inLoop
    · cases h
  | tick =>
    cases tick_cases det h with
    | complete control | skipSet control | openSet control | closeSet control | applied control
    | applyRaised control =>
      rw [control] at inLoop
      cases inLoop
    | ran _ empty => exact .inr (.inl empty)
    | handle =>
      rcases handleNext_leaves det m _ _ with inLoop | raised
      · exact .inl inLoop
      · exact .inr (.inr raised)
    | @checkRaised frame s e =>
      exact .inr (.inr ⟨e, raised_journal det { m with inst := s } e⟩)
    | _ => exact .inl rfl
  | act a =>
    have settled {ctx : Ctx} {frame : Frame} {r : Except Exc Obj}
        (control : m.control = .code ctx frame) :
        (finishContext det m ctx frame r).control.inLoop = true ∨
          (finishContext det m ctx frame r).inst.ready = [] ∨
          ∃ e, (finishContext det m ctx frame r).journal = m.journal ++ [.raised e] :=
      (finishContext_leaves det r control).imp_right .inr
    cases perform_cases det h with
    | ret control v => exact settled control
    | raise control e => exact settled control
    | call => exact .inl inLoop
    | await => exact .inl inLoop
    | suspend =>
      rcases handleNext_leaves det m _ _ with inLoop | raised
      · exact .inl inLoop
      · exact .inr (.inr raised)

/-! ### One step of both loops -/

/-- `handle._run()` of a cancelled handle. -/
theorem handleRun_cancelled (det : Details σ) {h : Handle} {s : Inst σ}
    (cancelled : h.cancelled s = true) :
    handleRun det h s = (.ok none, if s.deleting then s else s.log .exceptionHandler) := by
  have raises : handleCallback det h s = (.error (.error (.runtimeError
      "argument after * must be an iterable, not NoneType")), s) := by
    cases h with
    | timer seq =>
      have cancelled : (s.timers seq).cancelled = true := cancelled
      simp [handleCallback, cancelled]
    | user id =>
      have cancelled : s.cancelledHandles id = true := cancelled
      simp [handleCallback, cancelled]
    | _ => cases cancelled
  rw [handleRun, bind_run, attempt_run, raises]
  rfl

theorem handleDone_trace (det : Details σ) (m : Machine σ) (s : Inst σ) (frame : Frame) :
    (m.handleDone det s frame).inst.trace = s.trace := by
  unfold Machine.handleDone
  split
  · split
    · rw [raised_inst]
      rfl
    · rfl
  · rfl

/-- The two loops differ where a cancelled handle is reported, and only there. -/
theorem asyncioStep_eq_iff (det : Details σ) {m m' : Machine σ} {l : Label σ}
    (h : step det m l = some m') :
    asyncioStep det m l = some m' ↔ m.reportsCancelled l = false := by
  cases takes : m.takes l with
  | nil =>
    have same : asyncioStep det m l = step det m l := by
      cases l with
      | tick =>
        simp only [asyncioStep, asyncioTick]
        split
        next frame control =>
          split
          next first rest ready => simp [Machine.takes, control, ready] at takes
          · rfl
        · rfl
      | _ => rfl
    simp [same, h, Machine.reportsCancelled, takes]
  | cons first others =>
    obtain ⟨rfl, rfl, flag, frame, rest, control, ready⟩ := Machine.takes_cons takes
    simp only [asyncioStep, asyncioTick, control, ready, Machine.reportsCancelled, takes,
      List.any_cons, List.any_nil, Bool.or_false, flag]
    have popped : first.1.cancelled (m.inst.setReady rest) = first.1.cancelled m.inst := by
      cases first.1 <;> rfl
    cases cancelled : first.1.cancelled m.inst with
    | false =>
      -- both run the handle
      have ran : m.handleNext det frame (handleRun det first.1 (m.inst.setReady rest)) = m' := by
        simpa only [step, tick, control, ready, Option.some.injEq] using h
      have same : asyncioHandle det m frame first.1 (m.inst.setReady rest) = m' := by
        rw [asyncioHandle, if_neg (by simp [popped, cancelled])]
        exact ran
      simp [same]
    | true =>
      have skipped : asyncioHandle det m frame first.1 (m.inst.setReady rest) =
          m.goto (m.inst.setReady rest) (.inner frame) := by
        rw [asyncioHandle, if_pos (by rw [popped, cancelled])]
      have ran : m' = m.handleDone det (if m.inst.deleting then m.inst.setReady rest
          else (m.inst.setReady rest).log .exceptionHandler) frame := by
        simp only [step, tick, control, ready, Option.some.injEq] at h
        rw [← h, handleRun_cancelled det (s := m.inst.setReady rest) cancelled]
        rfl
      cases deleting : m.inst.deleting with
      | true =>
        -- during an eviction nothing is reported
        have same : m' = m.goto (m.inst.setReady rest) (.inner frame) := by
          rw [ran, if_pos deleting, Machine.handleDone]
          split
          · simp [Inst.setReady, deleting]
          · rfl
        simp [skipped, same]
      | false =>
        have reported : m'.inst.trace = m.inst.trace ++ [Event.exceptionHandler] := by
          rw [ran, handleDone_trace, if_neg (by simp [deleting])]
          rfl
        simp only [skipped, Option.some.injEq, Bool.not_false, Bool.and_self, Bool.true_eq_false,
          iff_false]
        intro same
        rw [← same] at reported
        have longer := congrArg List.length reported
        simp [Machine.goto, Inst.setReady] at longer

/-! ### Whole runs -/

theorem run_append (det : Details σ) (m : Machine σ) (ls ls' : List (Label σ)) :
    run det m (ls ++ ls') = (run det m ls).bind fun m' => run det m' ls' := by
  induction ls generalizing m with
  | nil => rfl
  | cons l ls ih =>
    simp only [List.cons_append, run, Option.bind_assoc]
    exact congrArg _ (funext fun m' => ih m')

theorem asyncioRun_append (det : Details σ) (m : Machine σ) (ls ls' : List (Label σ)) :
    asyncioRun det m (ls ++ ls') = (asyncioRun det m ls).bind fun m' => asyncioRun det m' ls' := by
  induction ls generalizing m with
  | nil => rfl
  | cons l ls ih =>
    simp only [List.cons_append, asyncioRun, Option.bind_assoc]
    exact congrArg _ (funext fun m' => ih m')

/-- At no point of the run a cancelled handle is reported. -/
def NeverReports (det : Details σ) (start : Machine σ) (ls : List (Label σ)) : Prop :=
  ∀ past l rest m, ls = past ++ l :: rest → run det start past = some m →
    m.reportsCancelled l = false

/-- At every point of the run asyncio's loop is in the same state. -/
def AgreesWithAsyncio (det : Details σ) (start : Machine σ) (ls : List (Label σ)) : Prop :=
  ∀ past rest, ls = past ++ rest → asyncioRun det start past = run det start past

theorem agrees_iff_neverReports (det : Details σ) {start m : Machine σ} {ls : List (Label σ)}
    (ran : run det start ls = some m) :
    AgreesWithAsyncio det start ls ↔ NeverReports det start ls := by
  -- a run that reaches `m` goes through a state after each of its labels
  have defined (past rest : List (Label σ)) (split : ls = past ++ rest) :
      ∃ m', run det start past = some m' := by
    rw [split, run_append] at ran
    obtain ⟨m', ran, -⟩ := Option.bind_eq_some_iff.mp ran
    exact ⟨m', ran⟩
  constructor
  · intro agrees past l rest m₁ split ran₁
    obtain ⟨m₂, ran₂⟩ := defined (past ++ [l]) rest (by simp [split])
    have same := agrees (past ++ [l]) rest (by simp [split])
    have stepped : step det m₁ l = some m₂ := by
      rw [run_append, ran₁] at ran₂
      simpa [run] using ran₂
    rw [ran₂, asyncioRun_append, agrees past (l :: rest) split, ran₁] at same
    exact (asyncioStep_eq_iff det stepped).mp (by simpa [asyncioRun] using same)
  · intro never past
    induction past using List.reverseRecOn with
    | nil =>
      intro rest _
      rfl
    | append_singleton past l ih =>
      intro rest split
      have split' : ls = past ++ l :: rest := by simp [split]
      obtain ⟨m₁, ran₁⟩ := defined past (l :: rest) split'
      obtain ⟨m₂, ran₂⟩ := defined (past ++ [l]) rest split
      have stepped : step det m₁ l = some m₂ := by
        rw [run_append, ran₁] at ran₂
        simpa [run] using ran₂
      have same := (asyncioStep_eq_iff det stepped).mpr (never past l rest m₁ split' ran₁)
      rw [asyncioRun_append, ih (l :: rest) split', ran₁, ran₂]
      simp [asyncioRun, same]

/-- Every handle that is taken from the queue is run there and then. -/
def RunsTaken (det : Details σ) (start : Machine σ) (ls : List (Label σ)) : Prop :=
  ∀ past l rest m m', ls = past ++ l :: rest → run det start past = some m →
    step det m l = some m' → ∀ first ∈ m.takes l, ∃ frame,
      m' = m.handleNext det frame (handleRun det first.1 (m.inst.setReady m.inst.ready.tail))

/-- Where `_run_once` ends, everything that has been put into the queue has been
taken from it, unless an exception has ended it. -/
def DrainsQueue (det : Details σ) (start : Machine σ) (ls : List (Label σ)) : Prop :=
  ∀ past l rest m m', ls = past ++ l :: rest → run det start past = some m →
    step det m l = some m' → m.control.inLoop = true → m'.control.inLoop = false →
    queued det start (past ++ [l]) = (taken det start (past ++ [l])).map Prod.fst ∨
      ∃ e, m'.journal = m.journal ++ [.raised e]

theorem runsTaken (det : Details σ) (start : Machine σ) (ls : List (Label σ)) :
    RunsTaken det start ls := by
  intro past l rest m m' _ _ stepped first takes
  obtain ⟨others, more, takes⟩ := List.append_of_mem takes
  cases others with
  | nil =>
    obtain ⟨rfl, -, -, frame, rest, control, ready⟩ := Machine.takes_cons takes
    refine ⟨frame, ?_⟩
    simp only [step, tick, control, ready, Option.some.injEq] at stepped
    rw [ready]
    exact stepped.symm
  | cons other others =>
    obtain ⟨-, none, -⟩ := Machine.takes_cons takes
    simp at none

/-- The queue of a run from the start. -/
theorem run_queue (det : Details σ) (mem : σ) {ls : List (Label σ)} {m : Machine σ}
    (ran : run det (Machine.init det mem) ls = some m) :
    queued det (Machine.init det mem) ls =
      (taken det (Machine.init det mem) ls).map Prod.fst ++ m.inst.ready := by
  have fifo := run_fifo det (init_wellFormed det mem) ran
  rwa [show (Machine.init det mem).inst.ready = [] from rfl, List.nil_append] at fifo

theorem drainsQueue (det : Details σ) (mem : σ) (ls : List (Label σ)) :
    DrainsQueue det (Machine.init det mem) ls := by
  intro past l rest m m' _ ran stepped inLoop left
  rcases step_leaves det stepped inLoop with inLoop' | empty | raised
  · rw [inLoop'] at left
    cases left
  · have ran' : run det (Machine.init det mem) (past ++ [l]) = some m' := by
      simp [run_append, ran, run, stepped]
    have queue := run_queue det mem ran'
    rw [empty, List.append_nil] at queue
    exact .inl queue
  · exact .inr raised

/-- Every run: the handles taken from the queue are those put into it, in that
order and each of them once; each of them is run; `_run_once` ends when the queue
is empty; and the loop agrees with asyncio's, which runs the handles that are not
cancelled at their turn and skips the others, exactly if no cancelled handle gets
its turn except during an eviction. -/
theorem loop_refines_asyncio (det : Details σ) (mem : σ) {ls : List (Label σ)} {m : Machine σ}
    (ran : run det (Machine.init det mem) ls = some m) :
    queued det (Machine.init det mem) ls =
        (taken det (Machine.init det mem) ls).map Prod.fst ++ m.inst.ready ∧
      RunsTaken det (Machine.init det mem) ls ∧ DrainsQueue det (Machine.init det mem) ls ∧
      (AgreesWithAsyncio det (Machine.init det mem) ls ↔
        NeverReports det (Machine.init det mem) ls) :=
  ⟨run_queue det mem ran, runsTaken det _ ls, drainsQueue det mem ls,
    agrees_iff_neverReports det ran⟩

theorem neverReports_of_runWhile {det : Details σ} {start m : Machine σ} {ls : List (Label σ)}
    (h : runWhile det (fun m l => m.reportsCancelled l = false) start ls = some m) :
    run det start ls = some m ∧ NeverReports det start ls := by
  induction ls generalizing start with
  | nil =>
    refine ⟨h, ?_⟩
    intro past l rest m split
    simp at split
  | cons l ls ih =>
    simp only [runWhile] at h
    split at h
    next allowed =>
      obtain ⟨m₁, stepped, rest⟩ := Option.bind_eq_some_iff.mp h
      obtain ⟨ran, never⟩ := ih rest
      refine ⟨by rw [run, stepped]; exact ran, ?_⟩
      rintro (_ | ⟨l', past⟩) l₁ rest₁ m₂ split ran₂
      · cases split
        cases ran₂
        exact allowed
      · cases split
        rw [run, stepped] at ran₂
        exact never past l₁ rest₁ m₂ rfl ran₂
    · cases h

/-- A workflow that starts two timers and waits; both fire in one activation. -/
def twoTimersFire : List (Label Nat) :=
  Label.activate [.startWorkflow []] false :: List.replicate 6 Label.tick ++ Label.act (.ret 0) ::
    List.replicate 2 Label.tick ++ [Label.act (.callLater 5), Label.act (.callLater 7),
    Label.act (.createFuture .user), Label.act (.await 1)] ++ List.replicate 4 Label.tick ++
    Label.activate [.fireTimer 1, .fireTimer 2] false :: List.replicate 9 Label.tick

/-- The callback of the first timer schedules another callback. -/
def callbacksRun : List (Label Nat) :=
  twoTimersFire ++ [Label.act .callSoon, Label.act (.ret 0), Label.tick, Label.act (.ret 0),
    Label.tick, Label.act (.ret 0)] ++ List.replicate 4 Label.tick

theorem loop_refines_asyncio_timers : ∃ m,
    run Details.plain (Machine.init Details.plain 0) callbacksRun = some m ∧
    asyncioRun Details.plain (Machine.init Details.plain 0) callbacksRun = some m ∧
    (taken Details.plain (Machine.init Details.plain 0) callbacksRun).map Prod.fst ++ m.inst.ready =
      queued Details.plain (Machine.init Details.plain 0) callbacksRun := by
  have evaluated : (runWhile Details.plain (fun m l => m.reportsCancelled l = false)
      (Machine.init Details.plain 0) callbacksRun).isSome = true := by decide +kernel
  obtain ⟨m, ran⟩ := Option.isSome_iff_exists.mp evaluated
  obtain ⟨ran, never⟩ := neverReports_of_runWhile ran
  obtain ⟨fifo, -, -, agrees⟩ := loop_refines_asyncio Details.plain 0 ran
  refine ⟨m, ran, ?_, fifo.symm⟩
  rw [agrees.mpr never callbacksRun [] (List.append_nil _).symm, ran]

/-- The callback of the first timer cancels the second. -/
def callbackCancels : List (Label Nat) :=
  twoTimersFire ++ [Label.act (.cancelTimer 2), Label.act (.ret 0)] ++ List.replicate 5 Label.tick

/-- The cancelled timer is taken from the queue and reported to the exception
handler. -/
theorem cancelled_timer_reported : ∃ m m',
    run Details.plain (Machine.init Details.plain 0) callbackCancels = some m ∧
    asyncioRun Details.plain (Machine.init Details.plain 0) callbackCancels = some m' ∧
    (.timer 2, true) ∈ taken Details.plain (Machine.init Details.plain 0) callbackCancels ∧
    .exceptionHandler ∈ m.inst.trace ∧ .exceptionHandler ∉ m'.inst.trace ∧
    ¬AgreesWithAsyncio Details.plain (Machine.init Details.plain 0) callbackCancels := by
  have evaluated : ((run Details.plain (Machine.init Details.plain 0) callbackCancels).bind fun m =>
      (asyncioRun Details.plain (Machine.init Details.plain 0) callbackCancels).map fun m' =>
        decide (Event.exceptionHandler ∈ m.inst.trace) &&
          decide (Event.exceptionHandler ∉ m'.inst.trace)) = some true := by decide +kernel
  have takes : (.timer 2, true) ∈
      taken Details.plain (Machine.init Details.plain 0) callbackCancels := by decide +kernel
  obtain ⟨m, ran, rest⟩ := Option.bind_eq_some_iff.mp evaluated
  obtain ⟨m', ran', checked⟩ := Option.map_eq_some_iff.mp rest
  simp only [Bool.and_eq_true, decide_eq_true_eq] at checked
  obtain ⟨reported, silent⟩ := checked
  refine ⟨m, m', ran, ran', takes, reported, silent, fun agrees => ?_⟩
  have same := agrees callbackCancels [] (List.append_nil _).symm
  rw [ran, ran', Option.some.injEq] at same
  rw [same] at silent
  exact silent reported

end TemporalSdk.Workflow
