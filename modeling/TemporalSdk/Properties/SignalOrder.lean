import TemporalSdk.Properties.Signals

/-!
# The order of buffered signals

Signals that arrive while no handler applies are buffered by name, and a dynamic
handler that is registered later gets them name by name. So they start in
arrival order exactly when the names happen to come in the order in which they
were first met; a dynamic handler that is there from the start gets them in
arrival order always.
-/
namespace TemporalSdk.Workflow

open Eff

variable {σ : Type}

/-- The signal whose handler a handle of the ready queue starts. -/
def Inst.startsSignal? (s : Inst σ) : Handle → Option SignalWorkflow
  | .taskStep t => (s.tasks t).bind fun task => task.root.signalJob
  | _ => none

/-- The signals whose handlers were put on the ready queue since `before`, in
the order in which the loop will start them. -/
def Inst.startedSince (s before : Inst σ) : List SignalWorkflow :=
  (s.ready.drop before.ready.length).filterMap s.startsSignal?

/-- The input of the job can be converted for the handler. -/
def Details.accepts (det : Details σ) (defn : HandlerDefn) (job : SignalWorkflow) : Bool :=
  (det.processHandlerArgs job.signalName job.input defn).isOk

/-- The jobs are applied, then the dynamic handler is registered. -/
def arriveThenRegister (det : Details σ) (jobs : List SignalWorkflow) (fn : HandlerFn) :
    Wf σ Unit := do
  jobs.forM (applySignalWorkflow det)
  workflowSetSignalHandler det none (some fn)

/-- The dynamic handler is registered, then the jobs are applied. -/
def registerThenArrive (det : Details σ) (jobs : List SignalWorkflow) (fn : HandlerFn) :
    Wf σ Unit := do
  workflowSetSignalHandler det none (some fn)
  jobs.forM (applySignalWorkflow det)

/-! ### The ready queue while jobs are handed over -/

/-- What was queued since `before` are handles of tasks that exist. -/
structure QueuedSince (before s : Inst σ) : Prop where
  grows : before.ready.length ≤ s.ready.length
  exist : ∀ t, .taskStep t ∈ s.ready.drop before.ready.length → t < s.nextFut

theorem QueuedSince.same {before s : Inst σ} (ready : s.ready = before.ready) :
    QueuedSince before s :=
  ⟨by rw [ready], by simp [ready]⟩

theorem startedSince_same {before s : Inst σ} (ready : s.ready = before.ready) :
    s.startedSince before = [] := by
  simp [Inst.startedSince, ready]

theorem QueuedSince.dispatched {before s : Inst σ} (queued : QueuedSince before s)
    (det : Details σ) (defn : HandlerDefn) (job : SignalWorkflow) :
    QueuedSince before (s.dispatched det defn job) ∧
      (s.dispatched det defn job).startedSince before =
        s.startedSince before ++ [job].filter (det.accepts defn) := by
  unfold Inst.dispatched
  cases converted : det.processHandlerArgs job.signalName job.input defn with
  | error e =>
    have refused : det.accepts defn job = false := by simp [Details.accepts, converted, Except.isOk,
      Except.toBool]
    exact ⟨⟨queued.grows, queued.exist⟩, by simp only [List.filter_cons, refused]; simp; rfl⟩
  | ok args =>
    have accepted : det.accepts defn job = true := by simp [Details.accepts, converted, Except.isOk,
      Except.toBool]
    have ready : (s.signalStarted job args).ready.drop before.ready.length =
        s.ready.drop before.ready.length ++ [Handle.taskStep s.nextFut] :=
      List.drop_append_of_le_length queued.grows
    refine ⟨⟨?_, ?_⟩, ?_⟩
    · exact queued.grows.trans (by simp [Inst.signalStarted])
    · intro t member
      rw [ready, List.mem_append, List.mem_singleton, Handle.taskStep.injEq] at member
      rcases member with old | new
      · exact Nat.lt_succ_of_lt (queued.exist t old)
      · exact new ▸ Nat.lt_succ_self _
    · have old : (s.ready.drop before.ready.length).filterMap
          (s.signalStarted job args).startsSignal? =
          (s.ready.drop before.ready.length).filterMap s.startsSignal? := by
        refine List.filterMap_congr fun h member => ?_
        cases h with
        | taskStep t =>
          have different : t ≠ s.nextFut := Nat.ne_of_lt (queued.exist t member)
          simp [Inst.startsSignal?, Inst.signalStarted, different]
        | _ => rfl
      have new : (s.signalStarted job args).startsSignal? (.taskStep s.nextFut) = some job := by
        simp [Inst.startsSignal?, Inst.signalStarted, Root.signalJob]
      rw [Inst.startedSince, ready, List.filterMap_append, old]
      simp [new, accepted, Inst.startedSince]

theorem dispatchedAll_started {before s : Inst σ} (queued : QueuedSince before s)
    (det : Details σ) (defn : HandlerDefn) (jobs : List SignalWorkflow) :
    (s.dispatchedAll det defn jobs).startedSince before =
      s.startedSince before ++ jobs.filter (det.accepts defn) := by
  induction jobs generalizing s with
  | nil => simp [Inst.dispatchedAll]
  | cons job jobs ih =>
    obtain ⟨queued', one⟩ := queued.dispatched det defn job
    have rest := ih queued'
    rw [one, List.append_assoc, ← List.filter_append] at rest
    exact rest

/-- Handing over from a state with the ready queue of `before`. -/
theorem dispatchedAll_started_from {before s : Inst σ} (ready : s.ready = before.ready)
    (det : Details σ) (defn : HandlerDefn) (jobs : List SignalWorkflow) :
    (s.dispatchedAll det defn jobs).startedSince before = jobs.filter (det.accepts defn) := by
  rw [dispatchedAll_started (.same ready), startedSince_same ready, List.nil_append]

/-! ### The two orders -/

theorem applySignals_buffered (det : Details σ) (jobs : List SignalWorkflow) {s : Inst σ}
    (missing : ∀ job ∈ jobs, s.signals.resolve job.signalName = none) :
    jobs.forM (applySignalWorkflow det) s =
      (.ok (), s.setBuffer (jobs.foldl (Dict.collect SignalWorkflow.signalName)
        s.bufferedSignals)) := by
  induction jobs generalizing s with
  | nil => rfl
  | cons job jobs ih =>
    show (applySignalWorkflow det job >>= fun _ => jobs.forM (applySignalWorkflow det)) s = _
    rw [bind_ok (applySignalWorkflow_buffered det job (missing job List.mem_cons_self))]
    exact ih fun job' member => missing job' (List.mem_cons_of_mem _ member)

/-- The jobs that wait in the buffer go to a dynamic handler group by group. -/
theorem arriveThenRegister_started (det : Details σ) {jobs : List SignalWorkflow} {fn : HandlerFn}
    {defn : HandlerDefn} {s : Inst σ} (isOpen : s.open = true)
    (empty : s.bufferedSignals = Dict.empty) (defined : fn.define none = .ok defn)
    (missing : ∀ job ∈ jobs, s.signals.resolve job.signalName = none) :
    (arriveThenRegister det jobs fn s).2.startedSince s =
      (Dict.group SignalWorkflow.signalName jobs).values.flatten.filter (det.accepts defn) := by
  have arrived := applySignals_buffered det jobs missing
  rw [empty] at arrived
  have register := workflowSetSignalHandler_register det defined
    (s := s.setBuffer (Dict.group SignalWorkflow.signalName jobs)) isOpen
  rw [arriveThenRegister, bind_ok arrived]
  refine (congrArg (fun r => r.2.startedSince s) register).trans ?_
  exact dispatchedAll_started_from rfl det defn _

theorem applySignals_dynamic (det : Details σ) {defn : HandlerDefn} (jobs : List SignalWorkflow)
    {s : Inst σ} (isOpen : s.open = true)
    (found : ∀ job ∈ jobs, s.signals.resolve job.signalName = some defn) :
    jobs.forM (applySignalWorkflow det) s = (.ok (), s.dispatchedAll det defn jobs) := by
  induction jobs generalizing s with
  | nil => rfl
  | cons job jobs ih =>
    show (applySignalWorkflow det job >>= fun _ => jobs.forM (applySignalWorkflow det)) s = _
    rw [bind_ok (applySignalWorkflow_handled det job (found job List.mem_cons_self) isOpen)]
    obtain ⟨_, handed⟩ := dispatched_handed det defn job s
    refine ih (by rw [dispatched_open, isOpen]) fun job' member => ?_
    rw [handed.signals]
    exact found job' (List.mem_cons_of_mem _ member)

/-- A dynamic handler that is there from the start gets the jobs in order. -/
theorem registerThenArrive_started (det : Details σ) {jobs : List SignalWorkflow} {fn : HandlerFn}
    {defn : HandlerDefn} {s : Inst σ} (isOpen : s.open = true)
    (empty : s.bufferedSignals = Dict.empty) (defined : fn.define none = .ok defn)
    (missing : ∀ job ∈ jobs, s.signals.resolve job.signalName = none) :
    (registerThenArrive det jobs fn s).2.startedSince s = jobs.filter (det.accepts defn) := by
  have nothing : s.drained det none defn =
      (s.setSignals (s.signals.set none defn)).setBuffer Dict.empty := by
    rw [Inst.drained, empty]
    rfl
  have found (job : SignalWorkflow) (member : job ∈ jobs) :
      (s.drained det none defn).signals.resolve job.signalName = some defn := by
    have named := (resolve_eq_none.mp (missing job member)).1
    rw [nothing]
    simp [Inst.setBuffer, Inst.setSignals, HandlerTable.resolve, named]
  have open' : (s.drained det none defn).open = true := by
    rw [nothing]
    exact isOpen
  rw [registerThenArrive, bind_ok (workflowSetSignalHandler_register det defined isOpen),
    applySignals_dynamic det jobs open' found, nothing]
  exact dispatchedAll_started_from rfl det defn jobs

/-- Signals of any names arrive while no handler applies, then a dynamic handler
is registered: the handlers of those with a convertible input start in arrival
order, as with a dynamic handler that is there from the start, if and only if
their names come in the order in which the names were first met. -/
theorem late_dynamic_handler_in_order_iff (det : Details σ) (jobs : List SignalWorkflow)
    (fn : HandlerFn) (defn : HandlerDefn) (s : Inst σ) (isOpen : s.open = true)
    (empty : s.bufferedSignals = Dict.empty) (defined : fn.define none = .ok defn)
    (missing : ∀ job ∈ jobs, s.signals.resolve job.signalName = none) :
    (registerThenArrive det jobs fn s).2.startedSince s = jobs.filter (det.accepts defn) ∧
      ((arriveThenRegister det jobs fn s).2.startedSince s = jobs.filter (det.accepts defn) ↔
        (jobs.filter (det.accepts defn)).Pairwise fun a b =>
          (jobs.map SignalWorkflow.signalName).idxOf a.signalName ≤
            (jobs.map SignalWorkflow.signalName).idxOf b.signalName) := by
  refine ⟨registerThenArrive_started det isOpen empty defined missing, ?_⟩
  rw [arriveThenRegister_started det isOpen empty defined missing]
  exact Dict.filter_group_eq_iff SignalWorkflow.signalName jobs (det.accepts defn)

/-- Two names, each in one block. -/
theorem late_dynamic_handler_in_order_blocks :
    (arriveThenRegister Details.plain [⟨"a", [1]⟩, ⟨"a", [2]⟩, ⟨"b", [3]⟩] ⟨7, none, some false⟩
      (Inst.init Details.plain 0)).2.startedSince (Inst.init Details.plain 0) =
        [⟨"a", [1]⟩, ⟨"a", [2]⟩, ⟨"b", [3]⟩] :=
  (late_dynamic_handler_in_order_iff Details.plain [⟨"a", [1]⟩, ⟨"a", [2]⟩, ⟨"b", [3]⟩]
    ⟨7, none, some false⟩ ⟨none, 7, false, none, false, none⟩ (Inst.init Details.plain 0) rfl rfl rfl
    (fun _ _ => rfl)).2.mpr (by decide +kernel)

/-- Three signals, of which the first and the last have the same name: the last
one overtakes the second. -/
theorem late_dynamic_handler_reorders :
    (arriveThenRegister Details.plain [⟨"a", [1]⟩, ⟨"b", [2]⟩, ⟨"a", [3]⟩] ⟨7, none, some false⟩
      (Inst.init Details.plain 0)).2.startedSince (Inst.init Details.plain 0) =
        [⟨"a", [1]⟩, ⟨"a", [3]⟩, ⟨"b", [2]⟩] ∧
    (registerThenArrive Details.plain [⟨"a", [1]⟩, ⟨"b", [2]⟩, ⟨"a", [3]⟩] ⟨7, none, some false⟩
      (Inst.init Details.plain 0)).2.startedSince (Inst.init Details.plain 0) =
        [⟨"a", [1]⟩, ⟨"b", [2]⟩, ⟨"a", [3]⟩] := by
  decide +kernel

end TemporalSdk.Workflow
