import TemporalSdk.Properties.Signals

/-!
# Which handler a signal is given to

The arguments of a signal handler are converted when its task is created, with
the definition found then; the handler that is called is looked up again when
the task starts. In between other tasks may register and remove handlers. As
long as no such call changes what the name of a waiting signal resolves to, a
handler only ever gets arguments converted by its own definition.
-/
namespace TemporalSdk.Workflow

open Eff

variable {σ : Type}

/-- The task of a signal that has not called its handler yet. -/
def Inst.WaitingSignal (s : Inst σ) (t : FutId) (job : SignalWorkflow) (args : HandlerArgs) : Prop :=
  ∃ task, s.tasks t = some task ∧ task.root = .signal job args ∧ task.point = .start

/-- Every waiting signal resolves to a handler whose definition its arguments
were converted with. -/
def Inst.SignalsResolve (det : Details σ) (s : Inst σ) : Prop :=
  ∀ t job args, s.WaitingSignal t job args →
    ∃ defn, s.signals.resolve job.signalName = some defn ∧
      det.processHandlerArgs job.signalName job.input defn = .ok args

/-- Every signal handler called so far got the arguments its own definition asks
for, and no signal was left without a handler. -/
structure Inst.SignalCallsRight (det : Details σ) (s : Inst σ) : Prop where
  converted : ∀ job defn args, .signalHandler job defn args ∈ s.trace →
    det.processHandlerArgs job.signalName job.input defn = .ok args
  found : ∀ job, .signalHandlerMissing job ∉ s.trace

/-- A registration or removal that leaves the handlers of the waiting signals as
they are. One under the empty name takes all buffered signals, but is found for
the signals of that name only. -/
def HandlersStable (m : Machine σ) : Label σ → Prop
  | .act (.setSignalHandler name handler) => m.inst.open = true →
      (∀ t job args, m.inst.WaitingSignal t job args →
        (signalsAfter m.inst.signals name handler).resolve job.signalName =
          m.inst.signals.resolve job.signalName) ∧
      (handler.isSome → name = some "" → ∀ key, m.inst.buffered key ≠ [] → key = "")
  | _ => True

/-! ### Frames -/

/-- The waiting signals are among those before, with the same handlers. -/
structure WaitingFrame (s s' : Inst σ) : Prop where
  signals : s'.signals = s.signals
  waiting : ∀ t job args, s'.WaitingSignal t job args → s.WaitingSignal t job args

theorem WaitingFrame.refl (s : Inst σ) : WaitingFrame s s := ⟨rfl, fun _ _ _ => id⟩

theorem WaitingFrame.trans {s₁ s₂ s₃ : Inst σ} (h : WaitingFrame s₁ s₂) (h' : WaitingFrame s₂ s₃) :
    WaitingFrame s₁ s₃ :=
  ⟨h'.signals.trans h.signals, fun t job args w => h.waiting t job args (h'.waiting t job args w)⟩

theorem WaitingFrame.resolve {det : Details σ} {s s' : Inst σ} (h : WaitingFrame s s')
    (resolves : s.SignalsResolve det) : s'.SignalsResolve det := by
  intro t job args waiting
  rw [h.signals]
  exact resolves t job args (h.waiting t job args waiting)

theorem Calm.waitingFrame {s s' : Inst σ} (h : Calm s s') : WaitingFrame s s' where
  signals := h.books.signals
  waiting t job args := by
    rintro ⟨task', isTask', root, start⟩
    rcases h.created t task' isTask' with old | ⟨-, -, -, outbound⟩
    · obtain ⟨task, isTask⟩ := Option.isSome_iff_exists.mp old
      obtain ⟨_, same, root', start'⟩ := h.task t task isTask
      rw [isTask', Option.some.injEq] at same
      subst same
      exact ⟨task, isTask, root'.symm.trans root, start' start⟩
    · rw [root] at outbound
      cases outbound

theorem waitingFrame_made {s s' : Inst σ} {root : Root} (other : ∀ job args, root ≠ .signal job args)
    (signals : s'.signals = s.signals)
    (tasks : s'.tasks = Function.update s.tasks s.nextFut (some ⟨root, .start, false, 0⟩)) :
    WaitingFrame s s' where
  signals := signals
  waiting t job args := by
    rintro ⟨task, isTask, isSignal, start⟩
    rw [tasks] at isTask
    by_cases same : t = s.nextFut
    · subst same
      simp only [Function.update_self, Option.some.injEq] at isTask
      subst isTask
      exact absurd isSignal (other job args)
    · exact ⟨task, by simpa [same] using isTask, isSignal, start⟩

theorem waitingFrame_woken (s : Inst σ) (t : FutId) (task : Task) (started : task.point ≠ .start) :
    WaitingFrame s (s.setTask t task) where
  signals := rfl
  waiting t' job args := by
    rintro ⟨task', isTask', isSignal, start⟩
    by_cases same : t' = t
    · subst same
      simp only [Inst.setTask, Function.update_self, Option.some.injEq] at isTask'
      subst isTask'
      exact absurd start started
    · exact ⟨task', by simpa [Inst.setTask, same] using isTask', isSignal, start⟩

theorem Move.waitingFrame {k : Kind} {s s' : Inst σ} (h : Move k s s') (notSignal : k ≠ .signal) :
    WaitingFrame s s' := by
  cases h with
  | signals | buffered | signalDropped | signalTask | straySignal | lostSignal =>
    exact absurd rfl notSignal
  | spawn _ _ _ other | strayJob _ _ _ _ other => exact waitingFrame_made other rfl rfl
  | wake => exact waitingFrame_woken s _ _ (by simp)
  | _ => exact ⟨rfl, fun _ _ _ => id⟩

theorem Moves.waitingFrame {K : List Kind} {s s' : Inst σ} (h : Moves K s s') (wf : s.WellFormed)
    (notSignal : Kind.signal ∉ K) : WaitingFrame s s' := by
  refine (h.keeps (I := fun s₁ => WaitingFrame s s₁) wf (.refl s) ?_).1
  intro a b wfa allowed frame
  rcases allowed.calm_or_move wfa with calm | ⟨k, member, move⟩
  · exact frame.trans calm.waitingFrame
  · exact frame.trans (move.waitingFrame fun same => notSignal (same ▸ member))

/-- Events that are not the call of a signal handler. -/
def Event.other : Event → Bool
  | .signalHandler _ _ _ | .signalHandlerMissing _ => false
  | _ => true

theorem Inst.SignalCallsRight.append {det : Details σ} {s s' : Inst σ} (right : s.SignalCallsRight det)
    {es : List Event} (trace : s'.trace = s.trace ++ es) (other : ∀ e ∈ es, e.other = true) :
    s'.SignalCallsRight det := by
  constructor
  · intro job defn args member
    rw [trace] at member
    rcases List.mem_append.mp member with old | new
    · exact right.converted job defn args old
    · cases other _ new
  · intro job member
    rw [trace] at member
    rcases List.mem_append.mp member with old | new
    · exact right.found job old
    · cases other _ new

theorem Moves.signalCallsRight {K : List Kind} {det : Details σ} {s s' : Inst σ} (h : Moves K s s')
    (wf : s.WellFormed) (notCall : Kind.call ∉ K) (right : s.SignalCallsRight det) :
    s'.SignalCallsRight det := by
  refine (h.keeps wf right ?_).1
  intro a b wfa allowed right
  rcases allowed.calm_or_move wfa with calm | ⟨k, member, move⟩
  · obtain ⟨es, trace, outbound⟩ := calm.trace
    refine right.append trace fun e member => ?_
    have ofCall := outbound e member
    cases e <;> first | rfl | cases ofCall
  · cases move with
    | signalHandler | signalHandlerMissing => exact absurd member notCall
    | signalDropped | met | methodCall | exceptionHandler | patchCall | updateError =>
      refine right.append rfl fun e' member => ?_
      rw [List.mem_singleton] at member
      subst member
      rfl
    | _ => exact ⟨right.converted, right.found⟩

/-! ### New waiting signals -/

/-- The new waiting signals are for `jobs`, with arguments converted by `defn`. -/
def AddsWaiting (det : Details σ) (defn : HandlerDefn) (jobs : List SignalWorkflow)
    (s s' : Inst σ) : Prop :=
  ∀ t job args, s'.WaitingSignal t job args → s.WaitingSignal t job args ∨
    job ∈ jobs ∧ det.processHandlerArgs job.signalName job.input defn = .ok args

theorem made_addsWaiting {det : Details σ} {defn : HandlerDefn} {job : SignalWorkflow}
    {args : HandlerArgs} {s s' : Inst σ}
    (converted : det.processHandlerArgs job.signalName job.input defn = .ok args)
    (tasks : s'.tasks = Function.update s.tasks s.nextFut
      (some ⟨.signal job args, .start, false, 0⟩)) : AddsWaiting det defn [job] s s' := by
  rintro t job' args' ⟨task, isTask, isSignal, start⟩
  rw [tasks] at isTask
  by_cases same : t = s.nextFut
  · subst same
    simp only [Function.update_self, Option.some.injEq] at isTask
    subst isTask
    simp only [Root.signal.injEq] at isSignal
    obtain ⟨rfl, rfl⟩ := isSignal
    exact .inr ⟨by simp, converted⟩
  · exact .inl ⟨task, by simpa [same] using isTask, isSignal, start⟩

theorem dispatched_addsWaiting (det : Details σ) (defn : HandlerDefn) (job : SignalWorkflow)
    (s : Inst σ) : AddsWaiting det defn [job] s (s.dispatched det defn job) := by
  unfold Inst.dispatched
  split
  · exact fun t job args waiting => .inl waiting
  next args converted => exact made_addsWaiting converted rfl

theorem dispatchedAll_addsWaiting (det : Details σ) (defn : HandlerDefn)
    (jobs : List SignalWorkflow) (s : Inst σ) :
    AddsWaiting det defn jobs s (s.dispatchedAll det defn jobs) := by
  induction jobs generalizing s with
  | nil => exact fun t job args waiting => .inl waiting
  | cons job jobs ih =>
    intro t job' args waiting
    rcases ih (s.dispatched det defn job) t job' args waiting with before | ⟨member, converted⟩
    · rcases dispatched_addsWaiting det defn job s t job' args before with old | ⟨here, converted⟩
      · exact .inl old
      · rw [List.mem_singleton] at here
        exact .inr ⟨here ▸ List.mem_cons_self, converted⟩
    · exact .inr ⟨List.mem_cons_of_mem _ member, converted⟩

/-- Whatever becomes of a signal that is applied, its task waits with arguments
converted by the definition found for it. -/
theorem applySignalWorkflow_resolve (det : Details σ) (job : SignalWorkflow) {s : Inst σ}
    (resolves : s.SignalsResolve det) : (applySignalWorkflow det job s).2.SignalsResolve det := by
  cases found : s.signals.resolve job.signalName with
  | none =>
    rw [applySignalWorkflow_buffered det job found]
    exact resolves
  | some defn =>
    -- the task that waits for the new signal was given the handler that the table has
    have adds {s' : Inst σ} (signals : s'.signals = s.signals)
        (adds : AddsWaiting det defn [job] s s') : s'.SignalsResolve det := by
      intro t job' args waiting
      rw [signals]
      rcases adds t job' args waiting with old | ⟨here, converted⟩
      · exact resolves t job' args old
      · rw [List.mem_singleton] at here
        subst here
        exact ⟨defn, found, converted⟩
    simp only [applySignalWorkflow, state_bind_run, found]
    cases isOpen : s.open with
    | true =>
      rw [processSignalJob_open det defn job isOpen]
      exact adds (by unfold Inst.dispatched; split <;> rfl) (dispatched_addsWaiting det defn job s)
    | false =>
      cases converted : det.processHandlerArgs job.signalName job.input defn with
      | error e =>
        have dropped : processSignalJob det defn job s = (.ok (), s.log (.signalDropped job)) := by
          simp [processSignalJob, converted]
        rw [dropped]
        exact resolves
      | ok args =>
        rw [processSignalJob_run converted]
        split
        · exact resolves
        · split
          · exact adds rfl (made_addsWaiting converted rfl)
          · exact adds rfl (made_addsWaiting converted rfl)

/-- The buffered signals that a new handler takes resolve to it. -/
theorem drained_resolve {det : Details σ} {m : Machine σ} {processed : List Delivery}
    (kept : SignalsKept det m processed) {name : Option String} {defn : HandlerDefn}
    (resolves : m.inst.SignalsResolve det)
    (stable : ∀ t job args, m.inst.WaitingSignal t job args →
      HandlerTable.resolve (m.inst.signals.set name defn) job.signalName =
        m.inst.signals.resolve job.signalName)
    (emptyName : name = some "" → ∀ key, m.inst.buffered key ≠ [] → key = "") :
    (m.inst.drained det name defn).SignalsResolve det := by
  have adds {s' : Inst σ} {jobs : List SignalWorkflow}
      (signals : s'.signals = m.inst.signals.set name defn)
      (adds : AddsWaiting det defn jobs m.inst s')
      (taken : ∀ job ∈ jobs, HandlerTable.resolve (m.inst.signals.set name defn) job.signalName =
        some defn) : s'.SignalsResolve det := by
    intro t job args waiting
    rw [signals]
    rcases adds t job args waiting with old | ⟨member, converted⟩
    · rw [stable t job args old]
      exact resolves t job args old
    · exact ⟨defn, taken job member, converted⟩
  have table (jobs : List SignalWorkflow) :
      ((m.inst.setSignals (m.inst.signals.set name defn)).dispatchedAll det defn jobs).signals =
        m.inst.signals.set name defn := by
    obtain ⟨_, -, handed⟩ := dispatchedAll_handed det defn jobs
      (m.inst.setSignals (m.inst.signals.set name defn))
    exact handed.signals
  -- a signal is in the buffer only if no handler is there for its name
  have named (key : String) (buffered : m.inst.buffered key ≠ []) :
      m.inst.signals.get? (some key) = none :=
    (resolve_eq_none.mp (kept.handlers key buffered)).1
  have inBuffer {job : SignalWorkflow} (member : job ∈ m.inst.bufferedSignals.values.flatten) :
      m.inst.buffered job.signalName ≠ [] := by
    obtain ⟨_, value, inside⟩ := List.mem_flatten.mp member
    obtain ⟨⟨key, jobs⟩, entry, rfl⟩ := List.mem_map.mp value
    have here : m.inst.buffered key = jobs := by
      rw [Inst.buffered, Dict.get?, Dict.lookup_of_mem m.inst.bufferedSignals.distinct entry]
      rfl
    have isKey : job.signalName = key := kept.keyed key (here ▸ inside)
    rw [isKey, here]
    exact List.ne_nil_of_mem inside
  unfold Inst.drained
  split
  next dynamic =>
    refine adds (table _) (dispatchedAll_addsWaiting det defn _ (m.inst.setSignals _))
      fun job member => ?_
    have buffered := inBuffer member
    cases name with
    | none => simp [HandlerTable.resolve, named _ buffered]
    | some key =>
      have empty : key = "" := by simpa [Option.filter] using dynamic
      subst empty
      rw [emptyName rfl _ buffered]
      simp [HandlerTable.resolve]
  next key isName =>
    obtain ⟨rfl, -⟩ := Option.filter_eq_some_iff.mp isName
    refine adds (table _) (dispatchedAll_addsWaiting det defn _ (m.inst.setSignals _))
      fun job member => ?_
    rw [kept.keyed key member]
    simp [HandlerTable.resolve]

/-! ### The call of a handler -/

/-- The step that starts a waiting signal either calls the handler its name
resolves to, or, for a task that was cancelled, just ends the task. -/
theorem stepTask_signal (det : Details σ) {t : FutId} {task : Task} {job : SignalWorkflow}
    {args : HandlerArgs} {defn : HandlerDefn} (input : Except Exc Obj) {s : Inst σ}
    (isTask : s.tasks t = some task) (isSignal : task.root = .signal job args)
    (start : task.point = .start) (found : s.signals.resolve job.signalName = some defn) :
    Moves [.wake t, .finish t, .own t] s (stepTask det t input s).2 ∨
      ∃ s' es, stepTask det t input s = (.ok (some (.task t)), s') ∧ WaitingFrame s s' ∧
        s'.trace = s.trace ++ es ++ [Event.signalHandler job defn args] ∧ ∀ e ∈ es, e.other = true := by
  obtain ⟨root, point, mustCancel, cancelling⟩ := task
  dsimp only at isSignal start
  subst isSignal start
  simp only [stepTask, state_bind_run, isTask]
  cases done : s.isDone t with
  | true => exact .inl (Std.Refl.refl s)
  | false =>
    simp only [Bool.false_eq_true, if_false, update_bind_run]
    generalize (if mustCancel = true then Except.error Exc.cancelled else input) = input'
    cases input' with
    -- cancelled before its first step: the handler is never called
    | error e =>
      refine .inl fun wf => ?_
      have woken := Move.wake s isTask done
      have ends := stepNext_moves (s := s.setTask t ⟨.signal job args, .running, false, cancelling⟩)
        (Function.update_self ..) done (.done (.error e))
      exact (Relation.ReflTransGen.single (.inr ⟨.wake t, by simp, woken⟩)).trans
        (ends.mono (L := [.wake t, .finish t, .own t]) (by simp) (woken.wellFormed wf))
    | ok v =>
      -- the handler that is found now is called with the arguments converted before
      refine .inr ⟨{ s with
        tasks := Function.update s.tasks t (some ⟨.signal job args, .running, false, cancelling⟩)
        trace := s.trace ++ (if defn.isMethod then [.methodCall s.object] else []) ++
          [Event.signalHandler job defn args] }, _, ?_, ?_, rfl, ?_⟩
      · cases isMethod : defn.isMethod <;>
          simp [resume, startCode, handleSignal, bind_run, Inst.setTask, found, logCall, isMethod,
            Inst.log, stepNext]
      · exact ⟨rfl, (waitingFrame_woken s t ⟨_, .running, _, _⟩ (by simp)).waiting⟩
      · split <;> simp [Event.other]

/-- The only step that calls a signal handler is the first one of its task. -/
theorem call_step {det : Details σ} {m : Machine σ} {l : Label σ}
    (h : Kind.call ∈ m.stepKinds det l) :
    l = .tick ∧ ∃ frame handle rest t task job args, m.control = .inner frame ∧
      m.inst.ready = handle :: rest ∧ m.inst.steps handle t ∧ m.inst.tasks t = some task ∧
      task.root = .signal job args ∧ task.point = .start := by
  -- only a task of a signal that has not started calls a handler
  have tasks {t : FutId} (call : Kind.call ∈ m.inst.rootKinds t) : ∃ task job args,
      m.inst.tasks t = some task ∧ task.root = .signal job args ∧ task.point = .start := by
    unfold Inst.rootKinds Task.kinds at call
    split at call
    next task isTask =>
      split at call
      next start =>
        cases root : task.root <;> simp [root, Root.kinds] at call
        exact ⟨task, _, _, isTask, root, start⟩
      · split at call <;> simp at call
    · simp at call
  have ends (ctx : Ctx) : Kind.call ∉ m.inst.endKinds ctx := by
    unfold Inst.endKinds
    split
    · split
      next task _ => cases task.root <;> simp [Root.endKinds]
      · simp
    all_goals simp
  cases stepKinds_makes h with
  | always _ other => simp at other
  | @job job _ _ _ member => cases job <;> simp [Job.kinds] at member
  | @handle frame handle rest control ready member =>
    have found {t : FutId} (steps : m.inst.steps handle t)
        (call : Kind.call ∈ m.inst.rootKinds t) : ∃ frame handle rest t task job args,
        m.control = .inner frame ∧ m.inst.ready = handle :: rest ∧ m.inst.steps handle t ∧
          m.inst.tasks t = some task ∧ task.root = .signal job args ∧ task.point = .start := by
      obtain ⟨task, job, args, isTask, isSignal, start⟩ := tasks call
      exact ⟨frame, handle, rest, t, task, job, args, control, ready, steps, isTask, isSignal,
        start⟩
    refine ⟨rfl, ?_⟩
    unfold Inst.handleKinds at member
    split at member
    · exact found (.inl rfl) (by simpa using member)
    · exact found (.inr (.inl ⟨_, rfl⟩)) (by simpa using member)
    · exact found (.inr (.inr ⟨_, rfl, rfl⟩)) (by simpa using member)
    all_goals simp at member
  | check _ _ other => cases other
  | ends _ _ member => exact absurd member (ends _)
  | call _ member => simpa using Act.kinds_subset _ det _ member
  | await _ _ own => cases own

/-! ### Runs -/

structure SignalInvariant (det : Details σ) (m : Machine σ) : Prop where
  kept : m.inst.deleting = false → ∃ processed, SignalsKept det m processed
  resolves : m.inst.SignalsResolve det
  right : m.inst.SignalCallsRight det

theorem call_signalInvariant (det : Details σ) {m m' : Machine σ} (wf : m.WellFormed)
    (resolves : m.inst.SignalsResolve det) (right : m.inst.SignalCallsRight det)
    (h : tick det m = some m') (calls : Kind.call ∈ m.stepKinds det .tick) :
    m'.inst.SignalsResolve det ∧ m'.inst.SignalCallsRight det := by
  obtain ⟨-, frame, handle, rest, t, task, job, args, control, ready, steps, isTask, isSignal,
    start⟩ := call_step calls
  obtain ⟨defn, found, converted⟩ := resolves t job args ⟨task, isTask, isSignal, start⟩
  cases tick_cases det h with
  | @handle frame' handle' rest' control' ready' =>
    rw [ready] at ready'
    cases ready'
    have popped : Moves [.pop, .wake t, .finish t, .own t, .book, .turn] m.inst
        (m.inst.setReady rest) :=
      .of_move (k := .pop) (by simp) (.pop m.inst ready steps.stays)
    obtain ⟨input, stepped⟩ := handleRun_steps det (s := m.inst.setReady rest) steps
    rcases stepTask_signal det input (s := m.inst.setReady rest) isTask isSignal start found with
      moves | ⟨s', es, ran, frame, trace, other⟩
    · have all : Moves [.pop, .wake t, .finish t, .own t, .book, .turn] m.inst
          (m.handleNext det frame' (handleRun det handle (m.inst.setReady rest))).inst := by
        refine popped.trans (Moves.trans ?_ ((handleNext_moves det m frame' _).mono (by simp)))
        refine handleRun_of_callback det (by simp) ?_
        rw [stepped]
        exact moves.mono (by simp)
      exact ⟨(all.waitingFrame wf.inst (by simp)).resolve resolves,
        all.signalCallsRight wf.inst (by simp) right⟩
    · rw [handleRun_ok (stepped.trans ran)]
      constructor
      · exact frame.resolve (s := m.inst.setReady rest) resolves
      · constructor
        · intro job' defn' args' member
          have member : .signalHandler job' defn' args' ∈ s'.trace := member
          rw [trace, List.append_assoc, List.mem_append, List.mem_append, List.mem_singleton] at member
          -- the call is the last event of the step
          rcases member with old | new | last
          · exact right.converted job' defn' args' old
          · cases other _ new
          · cases last
            exact converted
        · intro job' member
          have member : .signalHandlerMissing job' ∈ s'.trace := member
          rw [trace, List.append_assoc, List.mem_append, List.mem_append, List.mem_singleton] at member
          rcases member with old | new | last
          · exact right.found job' old
          · cases other _ new
          · cases last
  | _ => simp_all

theorem step_signalInvariant (det : Details σ) {m m' : Machine σ} {l : Label σ} (wf : m.WellFormed)
    (invariant : SignalInvariant det m) (stable : HandlersStable m l) (h : step det m l = some m') :
    SignalInvariant det m' := by
  have moves := step_moves det wf h
  have kept : m'.inst.deleting = false → ∃ processed, SignalsKept det m' processed := by
    intro alive
    obtain ⟨processed, kept⟩ := invariant.kept (moves.deleting wf.inst alive)
    obtain ⟨history, -, kept⟩ := step_signalsKept det wf kept h alive
    exact ⟨_, kept⟩
  by_cases calls : Kind.call ∈ m.stepKinds det l
  · obtain ⟨rfl, -⟩ := call_step calls
    obtain ⟨resolves, right⟩ :=
      call_signalInvariant det wf invariant.resolves invariant.right h calls
    exact ⟨kept, resolves, right⟩
  refine ⟨kept, ?_, moves.signalCallsRight wf.inst calls invariant.right⟩
  by_cases touches : Kind.signal ∈ m.stepKinds det l
  -- neither the table nor a waiting task changes
  swap
  · exact (moves.waitingFrame wf.inst touches).resolve invariant.resolves
  rcases signal_step touches with ⟨job, rest, frame, rfl, control⟩ | ⟨name, handler, rfl⟩
  · have applied := applySignalWorkflow_resolve det job invariant.resolves
    cases tick_cases det h with
    | applied control' run =>
      rw [control] at control'
      cases control'
      rw [applyJob] at run
      rw [run] at applied
      exact applied
    | @applyRaised _ _ _ s e control' run =>
      rw [control] at control'
      cases control'
      have moves := applyJob_moves det (.signalWorkflow job) m.inst
      rw [applyJob] at run moves
      rw [run] at applied moves
      exact ((raised_moves det { m with inst := s } e).waitingFrame (moves.wellFormed wf.inst)
        (by simp)).resolve applied
    | _ => simp_all
  · cases perform_cases det h with
    | call control enabled =>
      show (workflowSetSignalHandler det name handler m.inst).2.SignalsResolve det
      rcases workflowSetSignalHandler_cases det name handler m.inst with
        ⟨-, same⟩ | ⟨isOpen, rfl, removed⟩ | ⟨isOpen, fn, defn, rfl, defined, drained⟩
      · rw [same]
        exact invariant.resolves
      · rw [removed]
        -- a handler was removed that no waiting signal resolves to
        intro t job args waiting
        obtain ⟨defn, found, converted⟩ := invariant.resolves t job args waiting
        exact ⟨defn, ((stable isOpen).1 t job args waiting).trans found, converted⟩
      · rw [drained]
        have alive : m.inst.deleting = false := by
          simp only [Inst.open, Bool.and_eq_true, Bool.not_eq_true'] at isOpen
          exact isOpen.1
        obtain ⟨processed, kept⟩ := invariant.kept alive
        refine drained_resolve kept invariant.resolves (fun t job args waiting => ?_)
          ((stable isOpen).2 rfl)
        have same := (stable isOpen).1 t job args waiting
        rw [signalsAfter] at same
        simpa only [defined] using same
    | await _ _ await => simp [performAwait] at await
    | suspend _ _ await => simp [performAwait] at await

/-- In every run in which no registration or removal changes the handler of a
signal that waits to start, and none under the empty name takes the buffered
signals of other names, every signal handler is called with arguments converted
by its own definition, and no signal is left without a handler. -/
theorem signal_handlers_get_their_arguments (det : Details σ) (mem : σ) {m : Machine σ}
    (reach : Reach det HandlersStable (Machine.init det mem) m) :
    m.inst.SignalCallsRight det := by
  have init : SignalInvariant det (Machine.init det mem) := by
    refine ⟨fun _ => ⟨[], init_signalsKept det mem⟩, ?_, ⟨?_, ?_⟩⟩
    · rintro t job args ⟨task, isTask, -⟩
      cases isTask
    · intro job defn args member
      cases member
    · intro job member
      cases member
  exact (reach.invariant (I := SignalInvariant det) (init_wellFormed det mem) init
    fun m l m' wf invariant stable step => step_signalInvariant det wf invariant stable step).1.right

/-- A workflow with a handler for signals named `a`. -/
def Details.oneSignal : Details Nat :=
  { Details.plain with
    signals := Dict.empty.set (some "a") ⟨some "a", 7, true, none, false, none⟩ }

/-- Two signals arrive in one activation and the first is handled. -/
def firstOfTwoSignals : List (Label Nat) :=
  [.activate [.signalWorkflow ⟨"a", [1]⟩, .signalWorkflow ⟨"a", [2]⟩] false, .tick, .tick, .tick,
    .tick, .tick, .tick, .act (.ret 0), .tick, .tick]

theorem signal_handlers_get_their_arguments_first : ∃ m,
    run Details.oneSignal (Machine.init Details.oneSignal 0) firstOfTwoSignals = some m ∧
      .signalHandler ⟨"a", [1]⟩ ⟨some "a", 7, true, none, false, none⟩ (.named [1]) ∈ m.inst.trace ∧
      m.inst.SignalCallsRight Details.oneSignal := by
  have evaluated : (run Details.oneSignal (Machine.init Details.oneSignal 0) firstOfTwoSignals).map
      (fun m => decide (.signalHandler ⟨"a", [1]⟩ ⟨some "a", 7, true, none, false, none⟩
        (.named [1]) ∈ m.inst.trace)) = some true := by decide +kernel
  obtain ⟨m, ran, called⟩ := Option.map_eq_some_iff.mp evaluated
  exact ⟨m, ran, of_decide_eq_true called, signal_handlers_get_their_arguments _ 0
    (.of_run ran (by simp [firstOfTwoSignals, HandlersStable]))⟩

/-- The handler of the first signal removes itself before the second one, which
has been accepted, is started. -/
theorem signal_handler_removed_in_between : ∃ m,
    run Details.oneSignal (Machine.init Details.oneSignal 0) (firstOfTwoSignals ++
      [.act (.setSignalHandler (some "a") none), .act (.ret 0), .tick]) = some m ∧
      ¬m.inst.SignalCallsRight Details.oneSignal := by
  have evaluated : (run Details.oneSignal (Machine.init Details.oneSignal 0) (firstOfTwoSignals ++
      [.act (.setSignalHandler (some "a") none), .act (.ret 0), .tick])).map
      (fun m => decide (.signalHandlerMissing ⟨"a", [2]⟩ ∈ m.inst.trace)) = some true := by
    decide +kernel
  obtain ⟨m, ran, missing⟩ := Option.map_eq_some_iff.mp evaluated
  exact ⟨m, ran, fun right => right.found _ (of_decide_eq_true missing)⟩

end TemporalSdk.Workflow
