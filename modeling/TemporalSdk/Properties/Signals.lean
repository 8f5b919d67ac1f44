import TemporalSdk.Workflow.Runs

/-!
# Signals

Signal jobs are neither lost nor duplicated nor reordered within a name: over
every run, the jobs applied so far under a name are those handed to a handler, in
arrival order, followed by those still buffered under the name. A job is handed
over once, in the step in which it arrives or in which its handler is registered,
and that handler's definition decides whether it is started or dropped.

## Proof strategy

Only two operations touch the handler table, the buffer and the tasks of
signals: `_apply_signal_workflow` and `workflow_set_signal_handler`. Both hand
jobs over through `_process_signal_job`, whose effect is `Dispatched`. All other
steps are framed by their kinds of moves.
-/
namespace TemporalSdk.Workflow

open Eff

variable {σ : Type}

/-! ### What is observed -/

def Root.signalJob : Root → Option SignalWorkflow
  | .signal job _ => some job
  | _ => none

/-- The signal of a task, with the arguments that its handler is given. -/
def Root.signalCall : Root → Option (SignalWorkflow × HandlerArgs)
  | .signal job args => some (job, args)
  | _ => none

def Inst.signalTask? (s : Inst σ) (t : FutId) : Option (FutId × SignalWorkflow × HandlerArgs) :=
  (s.tasks t).bind fun task => task.root.signalCall.map fun call => (t, call)

/-- The tasks created for signals, in the order of their creation. -/
def Inst.signalTasks (s : Inst σ) : List (FutId × SignalWorkflow × HandlerArgs) :=
  (List.range s.nextFut).filterMap s.signalTask?

def Event.droppedJob : Event → Option SignalWorkflow
  | .signalDropped job => some job
  | _ => none

/-- The jobs whose input could not be converted. -/
def Inst.droppedSignals (s : Inst σ) : List SignalWorkflow := s.trace.filterMap Event.droppedJob

def Inst.buffered (s : Inst σ) (name : String) : List SignalWorkflow :=
  (s.bufferedSignals.get? name).getD []

def Entry.signalJob : Entry → Option SignalWorkflow
  | .applied (.signalWorkflow job) => some job
  | _ => none

/-- The signal jobs applied so far. -/
def Machine.arrived (m : Machine σ) : List SignalWorkflow := m.journal.filterMap Entry.signalJob

/-- What became of a job that was handed to a handler. -/
inductive Fate where
  | started (task : FutId) (args : HandlerArgs)
  | dropped
  deriving DecidableEq

/-- A job, the definition of the handler it was handed to, and what became of it. -/
structure Delivery where
  job : SignalWorkflow
  defn : HandlerDefn
  fate : Fate

namespace Delivery

def handed (d : Delivery) : SignalWorkflow × HandlerDefn := (d.job, d.defn)

def task? (d : Delivery) : Option (FutId × SignalWorkflow × HandlerArgs) :=
  match d.fate with
  | .started t args => some (t, d.job, args)
  | .dropped => none

def dropped? (d : Delivery) : Option SignalWorkflow :=
  match d.fate with
  | .started _ _ => none
  | .dropped => some d.job

/-- The handler's own definition converts the input, or fails to. -/
def Decided (det : Details σ) (d : Delivery) : Prop :=
  match d.fate with
  | .started _ args => det.processHandlerArgs d.job.signalName d.job.input d.defn = .ok args
  | .dropped => ∃ e, det.processHandlerArgs d.job.signalName d.job.input d.defn = .error e

end Delivery

/-- The buffered signals that a handler of this name takes. -/
def Inst.applicable (s : Inst σ) (name : Option String) : List SignalWorkflow :=
  match name.filter fun key => !key.isEmpty with
  | none => s.bufferedSignals.values.flatten
  | some key => s.buffered key

/-- The jobs that a step hands to a handler, with the handler's definition: the
one that arrives, to the handler its name resolves to, or those in the buffer, to
the handler that is registered. -/
def Machine.handsOver (det : Details σ) (m : Machine σ) :
    Label σ → List (SignalWorkflow × HandlerDefn)
  | .tick =>
    match m.control with
    | .jobs (.signalWorkflow job :: _) _ =>
      match m.inst.signals.resolve job.signalName with
      | some defn => if (processSignalJob det defn job m.inst).1.toBool then [(job, defn)] else []
      | none => []
    | _ => []
  | .act (.setSignalHandler name (some fn)) =>
    match fn.define name with
    | .ok defn =>
      if m.inst.open then (m.inst.applicable name).map fun job => (job, defn) else []
    | .error _ => []
  | _ => []

/-- The jobs that a run hands to handlers, in order. -/
def handedOver (det : Details σ) (m : Machine σ) :
    List (Label σ) → List (SignalWorkflow × HandlerDefn)
  | [] => []
  | l :: ls =>
    match step det m l with
    | some m' => m.handsOver det l ++ handedOver det m' ls
    | none => []

/-- `processed` is the history of the jobs handed to handlers. -/
structure SignalsKept (det : Details σ) (m : Machine σ) (processed : List Delivery) : Prop where
  /-- under each name: what arrived is what was handed over and what is buffered, in order -/
  arrival : ∀ name, m.arrived.filter (fun job => job.signalName = name) =
    (processed.map Delivery.job).filter (fun job => job.signalName = name) ++ m.inst.buffered name
  tasks : m.inst.signalTasks = processed.filterMap Delivery.task?
  dropped : m.inst.droppedSignals = processed.filterMap Delivery.dropped?
  decided : ∀ d ∈ processed, d.Decided det
  handlers : ∀ name, m.inst.buffered name ≠ [] → m.inst.signals.resolve name = none

/-! ### Frames -/

structure SignalFrame (s s' : Inst σ) : Prop where
  signals : s'.signals = s.signals
  bufferedSignals : s'.bufferedSignals = s.bufferedSignals
  tasks : s'.signalTasks = s.signalTasks
  dropped : s'.droppedSignals = s.droppedSignals

theorem SignalFrame.refl (s : Inst σ) : SignalFrame s s := ⟨rfl, rfl, rfl, rfl⟩

theorem SignalFrame.trans {s₁ s₂ s₃ : Inst σ} (h : SignalFrame s₁ s₂) (h' : SignalFrame s₂ s₃) :
    SignalFrame s₁ s₃ :=
  ⟨h'.signals.trans h.signals, h'.bufferedSignals.trans h.bufferedSignals,
    h'.tasks.trans h.tasks, h'.dropped.trans h.dropped⟩

/-- New tasks come after the old ones. -/
theorem signalTasks_append {s s' : Inst σ} (grows : s.nextFut ≤ s'.nextFut)
    (old : ∀ t < s.nextFut, s'.signalTask? t = s.signalTask? t) :
    s'.signalTasks = s.signalTasks ++
      ((List.range (s'.nextFut - s.nextFut)).map (s.nextFut + ·)).filterMap s'.signalTask? := by
  obtain ⟨k, hk⟩ := Nat.exists_eq_add_of_le grows
  rw [Inst.signalTasks, hk, List.range_add, List.filterMap_append, Nat.add_sub_cancel_left]
  congr 1
  exact List.filterMap_congr fun t member => old t (List.mem_range.mp member)

theorem signalTasks_same {s s' : Inst σ} (grows : s.nextFut ≤ s'.nextFut)
    (old : ∀ t < s.nextFut, s'.signalTask? t = s.signalTask? t)
    (new : ∀ t, s.nextFut ≤ t → s'.signalTask? t = none) : s'.signalTasks = s.signalTasks := by
  rw [signalTasks_append grows old, List.filterMap_eq_nil_iff.mpr, List.append_nil]
  intro t member
  obtain ⟨k, -, rfl⟩ := List.mem_map.mp member
  exact new _ (Nat.le_add_right _ _)

theorem Inst.signalTask?_of_none {s : Inst σ} {t : FutId} (h : s.tasks t = none) :
    s.signalTask? t = none := by
  simp [signalTask?, h]

theorem Inst.signalTask?_of_root {s s' : Inst σ} {t : FutId} {task task' : Task}
    (h : s.tasks t = some task) (h' : s'.tasks t = some task') (root : task'.root = task.root) :
    s'.signalTask? t = s.signalTask? t := by
  simp [signalTask?, h, h', root]

theorem Calm.signalFrame {s s' : Inst σ} (h : Calm s s') (wf : s.WellFormed) : SignalFrame s s' where
  signals := h.books.signals
  bufferedSignals := h.books.bufferedSignals
  tasks := by
    -- old tasks keep their root, and those that are created are outbound
    refine signalTasks_same h.nextFut (fun t bound => ?_) fun t bound => ?_
    · cases isTask : s.tasks t with
      | some task =>
        obtain ⟨task', isTask', root, -⟩ := h.task t task isTask
        exact Inst.signalTask?_of_root isTask isTask' root
      | none =>
        have none' : s'.tasks t = none := by
          cases isTask' : s'.tasks t with
          | none => rfl
          | some task' =>
            rcases h.created t task' isTask' with old | ⟨lower, -⟩
            · simp [isTask] at old
            · exact absurd bound (Nat.not_lt.mpr lower)
        rw [Inst.signalTask?_of_none none', Inst.signalTask?_of_none isTask]
    · cases isTask' : s'.tasks t with
      | none => exact Inst.signalTask?_of_none isTask'
      | some task' =>
        rcases h.created t task' isTask' with old | ⟨-, -, -, outbound⟩
        · obtain ⟨task, isTask⟩ := Option.isSome_iff_exists.mp old
          exact absurd (wf.task t task isTask).1 (Nat.not_lt.mpr bound)
        · cases root : task'.root <;> simp_all [Inst.signalTask?, Root.signalCall, Root.outbound]
  dropped := by
    obtain ⟨es, trace, outbound⟩ := h.trace
    have none : es.filterMap Event.droppedJob = [] := by
      refine List.filterMap_eq_nil_iff.mpr fun e member => ?_
      have ofCall := outbound e member
      cases e <;> first | rfl | cases ofCall
    rw [Inst.droppedSignals, trace, List.filterMap_append, none, List.append_nil]
    rfl

/-- A new task is the last one. -/
theorem signalTasks_made {s s' : Inst σ} (root : Root) (nextFut : s'.nextFut = s.nextFut + 1)
    (tasks : s'.tasks = Function.update s.tasks s.nextFut (some ⟨root, .start, false, 0⟩)) :
    s'.signalTasks = s.signalTasks ++ (root.signalCall.map fun call => (s.nextFut, call)).toList := by
  have old (t : FutId) (bound : t < s.nextFut) : s'.signalTask? t = s.signalTask? t := by
    have different : t ≠ s.nextFut := Nat.ne_of_lt bound
    simp [Inst.signalTask?, tasks, different]
  have new : s'.signalTask? s.nextFut = root.signalCall.map fun call => (s.nextFut, call) := by
    simp [Inst.signalTask?, tasks]
  rw [signalTasks_append (by rw [nextFut]; exact Nat.le_succ _) old, nextFut, Nat.add_sub_cancel_left]
  cases call : root.signalCall <;> rw [call] at new <;> simp [new]

theorem Move.signalFrame {k : Kind} {s s' : Inst σ} (h : Move k s s') (wf : s.WellFormed)
    (notSignal : k ≠ .signal) : SignalFrame s s' := by
  have logged {e : Event} (other : e.droppedJob = none) :
      (s.log e).droppedSignals = s.droppedSignals := by
    simp [Inst.droppedSignals, Inst.log, other]
  cases h with
  | signals | buffered | signalDropped | signalTask | straySignal | lostSignal =>
    exact absurd rfl notSignal
  | signalHandler | signalHandlerMissing | methodCall | exceptionHandler | patchCall | updateError
  | met => exact ⟨rfl, rfl, rfl, logged rfl⟩
  | @spawn _ _ root ofJob other | @strayJob _ _ _ root ofJob other =>
    refine ⟨rfl, rfl, (signalTasks_made root rfl rfl).trans ?_, rfl⟩
    cases root <;> simp_all [Root.signalCall]
  | condition =>
    refine ⟨rfl, rfl, signalTasks_same (Nat.le_succ _) (fun _ _ => rfl) fun t bound => ?_, rfl⟩
    refine Inst.signalTask?_of_none (Option.eq_none_iff_forall_ne_some.mpr fun task isTask => ?_)
    exact absurd (wf.task t task isTask).1 (Nat.not_lt.mpr bound)
  -- the task that is woken keeps its root, so it is still the same signal's
  | @wake _ t task isTask =>
    refine ⟨rfl, rfl, signalTasks_same (Nat.le_refl _) (fun t' _ => ?_) fun t' bound => ?_, rfl⟩
    · by_cases same : t' = t
      · subst same
        exact Inst.signalTask?_of_root isTask (Function.update_self ..) rfl
      · simp [Inst.signalTask?, Inst.setTask, same]
    · have different : t' ≠ t := by
        rintro rfl
        exact absurd (wf.task t' task isTask).1 (Nat.not_lt.mpr bound)
      refine Inst.signalTask?_of_none (Option.eq_none_iff_forall_ne_some.mpr fun task' isTask' => ?_)
      have isTask' : s.tasks t' = some task' := by simpa [Inst.setTask, different] using isTask'
      exact absurd (wf.task t' task' isTask').1 (Nat.not_lt.mpr bound)
  | _ => exact ⟨rfl, rfl, rfl, rfl⟩

theorem Moves.signalFrame {K : List Kind} {s s' : Inst σ} (h : Moves K s s') (wf : s.WellFormed)
    (notSignal : Kind.signal ∉ K) : SignalFrame s s' := by
  refine (h.keeps (I := fun s₁ => SignalFrame s s₁) wf (.refl s) ?_).1
  intro a b wfa allowed frame
  rcases allowed.calm_or_move wfa with calm | ⟨k, member, move⟩
  · exact frame.trans (calm.signalFrame wfa)
  · exact frame.trans (move.signalFrame wfa fun same => notSignal (same ▸ member))

/-! ### Handing jobs over -/

/-- The state after `_process_signal_job`. -/
def Inst.dispatched (s : Inst σ) (det : Details σ) (defn : HandlerDefn) (job : SignalWorkflow) :
    Inst σ :=
  match det.processHandlerArgs job.signalName job.input defn with
  | .error _ => s.log (.signalDropped job)
  | .ok args => s.signalStarted job args

theorem processSignalJob_open (det : Details σ) (defn : HandlerDefn) (job : SignalWorkflow)
    {s : Inst σ} (isOpen : s.open = true) :
    processSignalJob det defn job s = (.ok (), s.dispatched det defn job) := by
  simp only [Inst.open, Bool.and_eq_true, Bool.not_eq_true'] at isOpen
  cases converted : det.processHandlerArgs job.signalName job.input defn with
  | error e =>
    simp only [processSignalJob, Inst.dispatched, converted]
    rfl
  | ok args => simp [processSignalJob_run converted, isOpen, Inst.dispatched, converted]

theorem dispatched_open (det : Details σ) (defn : HandlerDefn) (job : SignalWorkflow)
    (s : Inst σ) : (s.dispatched det defn job).open = s.open := by
  unfold Inst.dispatched
  split <;> rfl

theorem processSignalJobs_open (det : Details σ) (defn : HandlerDefn) (jobs : List SignalWorkflow)
    {s : Inst σ} (isOpen : s.open = true) :
    jobs.forM (processSignalJob det defn) s =
      (.ok (), jobs.foldl (fun s job => s.dispatched det defn job) s) := by
  induction jobs generalizing s with
  | nil => rfl
  | cons job jobs ih =>
    show (processSignalJob det defn job >>= fun _ => jobs.forM (processSignalJob det defn)) s = _
    rw [bind_ok (processSignalJob_open det defn job isOpen), ih (by rw [dispatched_open, isOpen])]
    rfl

/-- From `s` to `s'` the jobs of `history` have been handed over, and the
handler table and the buffer are the same. -/
structure Handed (det : Details σ) (s s' : Inst σ) (history : List Delivery) : Prop where
  signals : s'.signals = s.signals
  bufferedSignals : s'.bufferedSignals = s.bufferedSignals
  tasks : s'.signalTasks = s.signalTasks ++ history.filterMap Delivery.task?
  dropped : s'.droppedSignals = s.droppedSignals ++ history.filterMap Delivery.dropped?
  decided : ∀ d ∈ history, d.Decided det

theorem Handed.buffered {det : Details σ} {s s' : Inst σ} {history : List Delivery}
    (h : Handed det s s' history) (name : String) : s'.buffered name = s.buffered name := by
  rw [Inst.buffered, h.bufferedSignals]
  rfl

theorem Handed.trans {det : Details σ} {s₁ s₂ s₃ : Inst σ} {history history' : List Delivery}
    (h : Handed det s₁ s₂ history) (h' : Handed det s₂ s₃ history') :
    Handed det s₁ s₃ (history ++ history') where
  signals := h'.signals.trans h.signals
  bufferedSignals := h'.bufferedSignals.trans h.bufferedSignals
  tasks := by rw [h'.tasks, h.tasks, List.filterMap_append, List.append_assoc]
  dropped := by rw [h'.dropped, h.dropped, List.filterMap_append, List.append_assoc]
  decided d member := by
    rcases List.mem_append.mp member with member | member
    · exact h.decided d member
    · exact h'.decided d member

theorem dispatched_handed (det : Details σ) (defn : HandlerDefn) (job : SignalWorkflow)
    (s : Inst σ) : ∃ fate, Handed det s (s.dispatched det defn job) [⟨job, defn, fate⟩] := by
  unfold Inst.dispatched
  cases converted : det.processHandlerArgs job.signalName job.input defn with
  | error e =>
    refine ⟨.dropped, rfl, rfl, ?_, ?_, ?_⟩
    · exact (List.append_nil _).symm
    · simp [Delivery.dropped?, Inst.droppedSignals, Inst.log, Event.droppedJob]
    · intro d member
      rw [List.mem_singleton.mp member]
      exact ⟨e, converted⟩
  | ok args =>
    refine ⟨.started s.nextFut args, rfl, rfl, ?_, ?_, ?_⟩
    · exact signalTasks_made (.signal job args) rfl rfl
    · simp [Delivery.dropped?, Inst.droppedSignals, Inst.signalStarted]
    · intro d member
      rw [List.mem_singleton.mp member]
      exact converted

theorem dispatchedAll_handed (det : Details σ) (defn : HandlerDefn) (jobs : List SignalWorkflow)
    (s : Inst σ) : ∃ history, history.map Delivery.handed = jobs.map (fun job => (job, defn)) ∧
      Handed det s (jobs.foldl (fun s job => s.dispatched det defn job) s) history := by
  induction jobs generalizing s with
  | nil => exact ⟨[], rfl, rfl, rfl, by simp, by simp, by simp⟩
  | cons job jobs ih =>
    obtain ⟨fate, first⟩ := dispatched_handed det defn job s
    obtain ⟨history, names, rest⟩ := ih (s.dispatched det defn job)
    exact ⟨⟨job, defn, fate⟩ :: history, by simp [names, Delivery.handed], first.trans rest⟩

/-- The jobs of a history are those that were handed over. -/
theorem map_job_of_handed {history : List Delivery} {jobs : List SignalWorkflow} {defn : HandlerDefn}
    (handed : history.map Delivery.handed = jobs.map fun job => (job, defn)) :
    history.map Delivery.job = jobs := by
  have fst := congrArg (List.map Prod.fst) handed
  rw [List.map_map, List.map_map] at fst
  exact fst.trans (List.map_id jobs)

/-! ### The two operations on signals -/

theorem applySignalWorkflow_buffered (det : Details σ) (job : SignalWorkflow) {s : Inst σ}
    (missing : s.signals.resolve job.signalName = none) :
    applySignalWorkflow det job s = (.ok (), { s with
      bufferedSignals := s.bufferedSignals.set job.signalName
        (s.buffered job.signalName ++ [job]) }) := by
  simp [applySignalWorkflow, missing, Inst.buffered]

theorem applySignalWorkflow_handled (det : Details σ) (job : SignalWorkflow) {s : Inst σ}
    {defn : HandlerDefn} (found : s.signals.resolve job.signalName = some defn)
    (isOpen : s.open = true) :
    applySignalWorkflow det job s = (.ok (), s.dispatched det defn job) := by
  simp only [applySignalWorkflow, state_bind_run, found]
  exact processSignalJob_open det defn job isOpen

/-- Applying a signal job can only fail in a read-only context, before anything
is created for it. -/
theorem applySignalWorkflow_found (det : Details σ) (job : SignalWorkflow) {s : Inst σ}
    {defn : HandlerDefn} (found : s.signals.resolve job.signalName = some defn)
    (alive : s.deleting = false) :
    applySignalWorkflow det job s = (.ok (), s.dispatched det defn job) ∨
      ∃ e s', applySignalWorkflow det job s = (.error e, s') ∧ SignalFrame s s' := by
  simp only [applySignalWorkflow, state_bind_run, found]
  cases readOnly : s.readOnly with
  | false =>
    exact .inl (processSignalJob_open det defn job (by simp [Inst.open, alive, readOnly]))
  | true =>
    cases converted : det.processHandlerArgs job.signalName job.input defn with
    | error e => exact .inl (by simp [processSignalJob, Inst.dispatched, converted])
    | ok args =>
      exact .inr ⟨_, _, (processSignalJob_run converted s).trans (if_pos readOnly), rfl, rfl, rfl, rfl⟩

/-- What `workflow_set_signal_handler` does to the table. -/
def signalsAfter (signals : HandlerTable) (name : Option String) (handler : Option HandlerFn) :
    HandlerTable :=
  match handler with
  | none => signals.erase name
  | some fn =>
    match fn.define name with
    | .error _ => signals
    | .ok defn => signals.set name defn

def Inst.setSignals (s : Inst σ) (signals : HandlerTable) : Inst σ := { s with signals := signals }

def Inst.setBuffer (s : Inst σ) (buffer : Dict String (List SignalWorkflow)) : Inst σ :=
  { s with bufferedSignals := buffer }

def Inst.dispatchedAll (s : Inst σ) (det : Details σ) (defn : HandlerDefn)
    (jobs : List SignalWorkflow) : Inst σ :=
  jobs.foldl (fun s job => s.dispatched det defn job) s

/-- The state after a handler has been registered and the buffered signals it
applies to have been handed to it. -/
def Inst.drained (s : Inst σ) (det : Details σ) (name : Option String) (defn : HandlerDefn) :
    Inst σ :=
  match name.filter fun key => !key.isEmpty with
  | none => ((s.setSignals (s.signals.set name defn)).dispatchedAll det defn
      s.bufferedSignals.values.flatten).setBuffer Dict.empty
  | some key => ((s.setSignals (s.signals.set name defn)).dispatchedAll det defn
      (s.buffered key)).setBuffer (s.bufferedSignals.erase key)

theorem dispatchedAll_setBuffer (det : Details σ) (defn : HandlerDefn) (jobs : List SignalWorkflow)
    (s : Inst σ) (buffer : Dict String (List SignalWorkflow)) :
    (s.setBuffer buffer).dispatchedAll det defn jobs =
      (s.dispatchedAll det defn jobs).setBuffer buffer := by
  induction jobs generalizing s with
  | nil => rfl
  | cons job jobs ih =>
    have head : (s.setBuffer buffer).dispatched det defn job =
        (s.dispatched det defn job).setBuffer buffer := by
      unfold Inst.dispatched
      split <;> rfl
    have tail := ih (s.dispatched det defn job)
    rw [← head] at tail
    exact tail

theorem workflowSetSignalHandler_register (det : Details σ) {name : Option String} {fn : HandlerFn}
    {defn : HandlerDefn} (defined : fn.define name = .ok defn) {s : Inst σ}
    (isOpen : s.open = true) :
    workflowSetSignalHandler det name (some fn) s = (.ok (), s.drained det name defn) := by
  have passes : assertNotReadOnly "set signal handler" false s = (.ok (), s) := by
    simp only [Inst.open, Bool.and_eq_true, Bool.not_eq_true'] at isOpen
    simp [assertNotReadOnly_run, isOpen]
  have hand (jobs : List SignalWorkflow) {s' : Inst σ} (isOpen : s'.open = true) :
      jobs.forM (processSignalJob det defn) s' = (.ok (), s'.dispatchedAll det defn jobs) :=
    processSignalJobs_open det defn jobs isOpen
  have registered : (s.setSignals (s.signals.set name defn)).open = true := isOpen
  rw [workflowSetSignalHandler, bind_ok passes]
  simp only [defined, raiseError, pure_bind_run, update_bind_run, state_bind_run]
  cases name with
  | none => exact bind_ok (hand _ registered)
  | some key =>
    -- the empty name is falsy: it drains the buffer like the dynamic handler
    cases empty : key.isEmpty with
    | true =>
      have named : (some key).filter (fun key => !key.isEmpty) = none := by
        simp [Option.filter, empty]
      rw [Inst.drained, named]
      simp only [empty, if_true]
      exact bind_ok (hand _ registered)
    | false =>
      have named : (some key).filter (fun key => !key.isEmpty) = some key := by
        simp [Option.filter, empty]
      rw [Inst.drained, named]
      simp only [empty, Bool.false_eq_true, if_false, update_bind_run]
      rw [← dispatchedAll_setBuffer]
      exact hand (s.buffered key) registered

/-- A registration that is not allowed or not well formed changes nothing; a
removal changes the table only. -/
theorem workflowSetSignalHandler_cases (det : Details σ) (name : Option String)
    (handler : Option HandlerFn) (s : Inst σ) :
    (s.open = false ∨ ∃ fn e, handler = some fn ∧ fn.define name = .error e) ∧
      (workflowSetSignalHandler det name handler s).2 = s ∨
    s.open = true ∧ handler = none ∧
      (workflowSetSignalHandler det name handler s).2 = s.setSignals (s.signals.erase name) ∨
    s.open = true ∧ ∃ fn defn, handler = some fn ∧ fn.define name = .ok defn ∧
      (workflowSetSignalHandler det name handler s).2 = s.drained det name defn := by
  cases isOpen : s.open with
  | false =>
    have refused : ∃ e, assertNotReadOnly "set signal handler" false s = (.error e, s) := by
      cases deleting : s.deleting <;> cases readOnly : s.readOnly <;>
        simp_all [assertNotReadOnly_run, Inst.open]
    obtain ⟨e, refused⟩ := refused
    refine .inl ⟨.inl rfl, ?_⟩
    unfold workflowSetSignalHandler
    rw [bind_error refused]
  | true =>
    have passes : assertNotReadOnly "set signal handler" false s = (.ok (), s) := by
      simp only [Inst.open, Bool.and_eq_true, Bool.not_eq_true'] at isOpen
      simp [assertNotReadOnly_run, isOpen]
    cases handler with
    | none =>
      refine .inr (.inl ⟨rfl, rfl, ?_⟩)
      rw [workflowSetSignalHandler, bind_ok passes]
      rfl
    | some fn =>
      cases defined : fn.define name with
      | error e =>
        refine .inl ⟨.inr ⟨fn, e, rfl, defined⟩, ?_⟩
        rw [workflowSetSignalHandler, bind_ok passes]
        simp only [defined, raiseError, raise_bind_run]
      | ok defn =>
        refine .inr (.inr ⟨rfl, fn, defn, rfl, defined, ?_⟩)
        rw [workflowSetSignalHandler_register det defined isOpen]

/-! ### The invariant -/

theorem resolve_eq_none {table : HandlerTable} {name : String} :
    table.resolve name = none ↔ table.get? (some name) = none ∧ table.get? none = none := by
  unfold HandlerTable.resolve
  split <;> simp_all

theorem SignalsKept.keyed {det : Details σ} {m : Machine σ} {processed : List Delivery}
    (kept : SignalsKept det m processed) (name : String) {job : SignalWorkflow} (member : job ∈ m.inst.buffered name) : job.signalName = name := by
  have arrived : job ∈ m.arrived.filter fun job => job.signalName = name := by
    rw [kept.arrival]
    exact List.mem_append_right _ member
  simpa using (List.mem_filter.mp arrived).2

theorem SignalsKept.frame {det : Details σ} {m m' : Machine σ} {processed : List Delivery} (kept : SignalsKept det m processed)
    (frame : SignalFrame m.inst m'.inst) (arrived : m'.arrived = m.arrived) :
    SignalsKept det m' processed where
  arrival name := by rw [arrived, Inst.buffered, frame.bufferedSignals]; exact kept.arrival name
  tasks := frame.tasks.trans kept.tasks
  dropped := frame.dropped.trans kept.dropped
  decided := kept.decided
  handlers name h := by
    rw [Inst.buffered, frame.bufferedSignals] at h
    rw [frame.signals]
    exact kept.handlers name h

theorem Handed.decided_append {det : Details σ} {m : Machine σ} {s s' : Inst σ}
    {processed history : List Delivery} (kept : SignalsKept det m processed)
    (handed : Handed det s s' history) (d : Delivery) (member : d ∈ processed ++ history) :
    d.Decided det := by
  rcases List.mem_append.mp member with member | member
  · exact kept.decided d member
  · exact handed.decided d member

/-- A signal for which there is a handler is handed over at once. -/
theorem SignalsKept.dispatched {det : Details σ} {m m' : Machine σ} {processed : List Delivery}
    (kept : SignalsKept det m processed) {job : SignalWorkflow} {defn : HandlerDefn}
    (found : m.inst.signals.resolve job.signalName = some defn)
    (inst : m'.inst = m.inst.dispatched det defn job) (arrived : m'.arrived = m.arrived ++ [job]) :
    ∃ fate, SignalsKept det m' (processed ++ [⟨job, defn, fate⟩]) := by
  obtain ⟨fate, handed⟩ := dispatched_handed det defn job m.inst
  rw [← inst] at handed
  refine ⟨fate, ?_, ?_, ?_, handed.decided_append kept, ?_⟩
  · intro name
    rw [arrived, List.filter_append, kept.arrival, handed.buffered]
    by_cases same : job.signalName = name
    · have empty : m.inst.buffered name = [] := by
        by_contra some
        have missing := kept.handlers name some
        rw [← same, found] at missing
        cases missing
      simp [same, empty]
    · simp [same]
  · rw [handed.tasks, kept.tasks, List.filterMap_append]
  · rw [handed.dropped, kept.dropped, List.filterMap_append]
  · intro name h
    rw [handed.signals]
    refine kept.handlers name ?_
    rwa [handed.buffered] at h

/-- A signal for which there is none is put at the end of its buffer. -/
theorem SignalsKept.buffer {det : Details σ} {m m' : Machine σ} {processed : List Delivery}
    (kept : SignalsKept det m processed) {job : SignalWorkflow} (missing : m.inst.signals.resolve job.signalName = none)
    (inst : m'.inst = m.inst.setBuffer (m.inst.bufferedSignals.set job.signalName
      (m.inst.buffered job.signalName ++ [job]))) (arrived : m'.arrived = m.arrived ++ [job]) :
    SignalsKept det m' processed where
  arrival name := by
    rw [arrived, List.filter_append, kept.arrival, inst]
    by_cases same : name = job.signalName
    · subst same
      simp [Inst.setBuffer, Inst.buffered]
    · simp [Inst.setBuffer, Inst.buffered, same, Ne.symm same]
  tasks := by rw [inst]; exact kept.tasks
  dropped := by rw [inst]; exact kept.dropped
  decided := kept.decided
  handlers name h := by
    rw [inst] at h ⊢
    by_cases same : name = job.signalName
    · rw [same]
      exact missing
    · refine kept.handlers name ?_
      simpa [Inst.setBuffer, Inst.buffered, same] using h

/-- Jobs move from the buffer to a handler, whatever the new table is, as long
as no handler is left with buffered jobs. -/
theorem SignalsKept.handOver {det : Details σ} {m m' : Machine σ} {processed : List Delivery}
    (kept : SignalsKept det m processed) {table : HandlerTable} {buffer : Dict String (List SignalWorkflow)} {defn : HandlerDefn}
    {jobs : List SignalWorkflow}
    (inst : m'.inst = ((m.inst.setSignals table).dispatchedAll det defn jobs).setBuffer buffer)
    (arrived : m'.arrived = m.arrived)
    (taken : ∀ name, m.inst.buffered name =
      jobs.filter (fun job => job.signalName = name) ++ (buffer.get? name).getD [])
    (handlers : ∀ name, (buffer.get? name).getD [] ≠ [] → table.resolve name = none) :
    ∃ history, history.map Delivery.handed = jobs.map (fun job => (job, defn)) ∧
      SignalsKept det m' (processed ++ history) := by
  obtain ⟨history, names, handed⟩ := dispatchedAll_handed det defn jobs (m.inst.setSignals table)
  refine ⟨history, names, ?_, ?_, ?_, handed.decided_append kept, ?_⟩
  · intro name
    rw [arrived, kept.arrival, taken, List.map_append, List.filter_append, map_job_of_handed names,
      inst, List.append_assoc]
    rfl
  · rw [List.filterMap_append, ← kept.tasks, inst]
    exact handed.tasks
  · rw [List.filterMap_append, ← kept.dropped, inst]
    exact handed.dropped
  · intro name h
    rw [inst] at h ⊢
    exact (congrArg (fun table : HandlerTable => table.resolve name) handed.signals).trans
      (handlers name h)

theorem SignalsKept.drained {det : Details σ} {m m' : Machine σ} {processed : List Delivery}
    (kept : SignalsKept det m processed) {name : Option String} {defn : HandlerDefn}
    (inst : m'.inst = m.inst.drained det name defn) (arrived : m'.arrived = m.arrived) :
    ∃ history, history.map Delivery.handed =
        (m.inst.applicable name).map (fun job => (job, defn)) ∧
      SignalsKept det m' (processed ++ history) := by
  unfold Inst.drained at inst
  unfold Inst.applicable
  split at inst
  next dynamic =>
    refine kept.handOver inst arrived (fun key => ?_) (by simp)
    -- all that was in the buffer is handed over, and in it each name keeps its order
    rw [Dict.filter_values_flatten _ SignalWorkflow.signalName]
    · simp [Inst.buffered]
    · intro k jobs found job member
      exact kept.keyed k (by rw [Inst.buffered, found]; exact member)
  next key named =>
    obtain ⟨rfl, -⟩ := Option.filter_eq_some_iff.mp named
    refine kept.handOver inst arrived (fun key' => ?_) fun key' h => ?_
    -- one name is handed over, the others stay in the buffer
    · by_cases same : key' = key
      · subst same
        have all : (m.inst.buffered key').filter (fun job => job.signalName = key') =
            m.inst.buffered key' :=
          List.filter_eq_self.mpr fun job member => by simpa using kept.keyed key' member
        simp [all]
      · have none : (m.inst.buffered key).filter (fun job => job.signalName = key') = [] := by
          refine List.filter_eq_nil_iff.mpr fun job member => ?_
          simpa [kept.keyed key member] using Ne.symm same
        rw [none, Dict.get?_erase, if_neg same, List.nil_append]
        rfl
    · have different : key' ≠ key := by
        rintro rfl
        simp at h
      obtain ⟨named, dynamic⟩ := resolve_eq_none.mp
        (kept.handlers key' (by simpa [different, Inst.buffered] using h))
      exact resolve_eq_none.mpr ⟨by simp [different, named], by simp [dynamic]⟩

/-- Removing a handler leaves the buffer as it is. -/
theorem SignalsKept.removed {det : Details σ} {m m' : Machine σ} {processed : List Delivery}
    (kept : SignalsKept det m processed) {name : Option String}
    (inst : m'.inst = m.inst.setSignals (m.inst.signals.erase name)) (arrived : m'.arrived = m.arrived) : SignalsKept det m' processed where
  arrival key := by rw [arrived, inst]; exact kept.arrival key
  tasks := by rw [inst]; exact kept.tasks
  dropped := by rw [inst]; exact kept.dropped
  decided := kept.decided
  handlers key h := by
    rw [inst] at h ⊢
    obtain ⟨named, dynamic⟩ := resolve_eq_none.mp (kept.handlers key h)
    exact resolve_eq_none.mpr ⟨by simp [Inst.setSignals, named], by simp [Inst.setSignals, dynamic]⟩

/-! ### Runs -/

/-- The steps that touch signals. -/
theorem signal_step {det : Details σ} {m : Machine σ} {l : Label σ}
    (h : Kind.signal ∈ m.stepKinds det l) :
    (∃ job rest frame, l = .tick ∧ m.control = .jobs (.signalWorkflow job :: rest) frame) ∨
      ∃ name handler, l = .act (.setSignalHandler name handler) := by
  cases stepKinds_makes h with
  | always _ other => simp at other
  | @job job _ _ control member =>
    cases job <;> simp [Job.kinds] at member
    exact .inl ⟨_, _, _, rfl, control⟩
  | handle _ _ member => cases m.inst.handleKinds_ofHandle _ _ member
  | check _ _ other => cases other
  | ends _ _ member => rcases m.inst.endKinds_cases _ _ member with other | other <;> cases other
  | @call _ _ a _ member =>
    cases a with
    | setSignalHandler name handler => exact .inr ⟨name, handler, rfl⟩
    | startChildWorkflow input =>
      simp only [Act.kinds] at member
      split at member <;> simp at member
    | _ => simp [Act.kinds] at member
  | await _ _ own => cases own

theorem Machine.Quiet.arrived {m m' : Machine σ} (h : m.Quiet m') : m'.arrived = m.arrived := by
  rcases h with same | ⟨e, one⟩
  · rw [Machine.arrived, same]
    rfl
  · simp [Machine.arrived, one, Entry.signalJob]

theorem step_arrived (det : Details σ) {m m' : Machine σ} {l : Label σ}
    (h : step det m l = some m') (notSignal : Kind.signal ∉ m.stepKinds det l) :
    m'.arrived = m.arrived := by
  cases l with
  | activate jobs isReplaying =>
    simp only [step] at h
    split at h
    · cases h
      rfl
    · cases h
  | tick =>
    cases tick_cases det h with
    | complete => rw [Machine.arrived, complete_journal]; rfl
    | @applied job rest frame s control run =>
      have other : Entry.signalJob (.applied job) = none := by
        cases job <;> simp_all [Machine.stepKinds, Job.kinds, Entry.signalJob]
      simp [Machine.arrived, Machine.note, Machine.goto, other]
    | applyRaised | checkRaised =>
      exact Machine.Quiet.arrived (.inr ⟨_, raised_journal det _ _⟩)
    | handle => exact (handleNext_quiet det m _ _).arrived
    | ran | checked => simp [Machine.arrived, Machine.note, Machine.goto, Entry.signalJob]
    | _ => rfl
  | act a => exact (perform_quiet det h).arrived

/-- Only the steps that touch signals hand any over. -/
theorem handsOver_eq_nil {det : Details σ} {m m' : Machine σ} {l : Label σ}
    (h : step det m l = some m') (notSignal : Kind.signal ∉ m.stepKinds det l) :
    m.handsOver det l = [] := by
  cases l with
  | activate => rfl
  | tick =>
    simp only [Machine.handsOver]
    split
    next job rest frame control => simp [Machine.stepKinds, control, Job.kinds] at notSignal
    · rfl
  | act a =>
    cases a with
    | setSignalHandler name handler =>
      cases perform_cases det h with
      | call control => simp [Machine.stepKinds, control, Act.kinds, Act.awaits] at notSignal
      | await _ _ await => simp [performAwait] at await
      | suspend _ _ await => simp [performAwait] at await
    | _ => rfl

/-- One step, of the SDK or of workflow code, loses no signal. -/
theorem step_signalsKept (det : Details σ) {m m' : Machine σ} {l : Label σ}
    {processed : List Delivery} (wf : m.WellFormed) (kept : SignalsKept det m processed)
    (h : step det m l = some m') (alive : m'.inst.deleting = false) :
    ∃ history, history.map Delivery.handed = m.handsOver det l ∧
      SignalsKept det m' (processed ++ history) := by
  have moves := step_moves det wf h
  have aliveBefore := moves.deleting wf.inst alive
  -- a step that hands nothing over
  have nothing (handed : m.handsOver det l = []) (kept : SignalsKept det m' processed) :
      ∃ history, history.map Delivery.handed = m.handsOver det l ∧
        SignalsKept det m' (processed ++ history) :=
    ⟨[], by rw [handed]; rfl, by rwa [List.append_nil]⟩
  by_cases touches : Kind.signal ∈ m.stepKinds det l
  swap
  · exact nothing (handsOver_eq_nil h touches)
      (kept.frame (moves.signalFrame wf.inst touches) (step_arrived det h touches))
  rcases signal_step touches with ⟨job, rest, frame, rfl, control⟩ | ⟨name, handler, rfl⟩
  · cases tick_cases det h with
    | applied control' run =>
      rw [control] at control'
      cases control'
      have arrived {s : Inst σ} {frame : Frame} : Machine.arrived ((m.goto s (.jobs rest frame)).note
          (.applied (.signalWorkflow job))) = m.arrived ++ [job] := by
        simp [Machine.arrived, Machine.note, Machine.goto, Entry.signalJob]
      -- the job that is applied is buffered or handed to the handler that is found
      cases found : m.inst.signals.resolve job.signalName with
      | none =>
        rw [applyJob, applySignalWorkflow_buffered det job found, Prod.mk.injEq] at run
        exact nothing (by simp [Machine.handsOver, control, found])
          (kept.buffer found run.2.symm arrived)
      | some defn =>
        have processes : applySignalWorkflow det job m.inst = processSignalJob det defn job m.inst := by
          simp only [applySignalWorkflow, state_bind_run, found]
        rcases applySignalWorkflow_found det job found aliveBefore with ok | ⟨e, s', error, -⟩
        · rw [applyJob, ok, Prod.mk.injEq] at run
          obtain ⟨fate, kept⟩ := kept.dispatched found run.2.symm arrived
          refine ⟨[⟨job, defn, fate⟩], ?_, kept⟩
          simp [Machine.handsOver, control, found, ← processes, ok, Delivery.handed, Except.toBool]
        · simp [applyJob, error] at run
    | @applyRaised _ _ _ s e control' run =>
      rw [control] at control'
      cases control'
      have applied := applyJob_moves det (.signalWorkflow job) m.inst
      rw [run] at applied
      -- it raises only before a task is made for it
      have framed : m.handsOver det .tick = [] ∧ SignalFrame m.inst s := by
        cases found : m.inst.signals.resolve job.signalName with
        | none => simp [applyJob, applySignalWorkflow_buffered det job found] at run
        | some defn =>
          have processes :
              applySignalWorkflow det job m.inst = processSignalJob det defn job m.inst := by
            simp only [applySignalWorkflow, state_bind_run, found]
          rcases applySignalWorkflow_found det job found aliveBefore with ok | ⟨e, s', error, frame⟩
          · simp [applyJob, ok] at run
          · rw [applyJob, error, Prod.mk.injEq] at run
            refine ⟨?_, run.2 ▸ frame⟩
            simp [Machine.handsOver, control, found, ← processes, error, Except.toBool]
      exact nothing framed.1 (kept.frame
        (framed.2.trans ((raised_moves det { m with inst := s } e).signalFrame
          (applied.wellFormed wf.inst) (by simp)))
        (Machine.Quiet.arrived (.inr ⟨e, raised_journal det _ e⟩)))
    | _ => simp_all
  · cases perform_cases det h with
    | call control enabled =>
      rcases workflowSetSignalHandler_cases det name handler m.inst with
        ⟨refused, same⟩ | ⟨-, rfl, removed⟩ | ⟨isOpen, fn, defn, rfl, defined, drained⟩
      · refine nothing ?_ (kept.frame ?_ rfl)
        · rcases refused with closed | ⟨fn, e, rfl, undefined⟩
          · cases handler with
            | none => rfl
            | some fn => cases defined : fn.define name <;> simp [Machine.handsOver, defined, closed]
          · simp only [Machine.handsOver, undefined]
        · show SignalFrame m.inst (workflowSetSignalHandler det name handler m.inst).2
          rw [same]
          exact .refl _
      · exact nothing rfl (kept.removed removed rfl)
      · have inst : (m.goto (workflowSetSignalHandler det name (some fn) m.inst).2
            m.control).inst = m.inst.drained det name defn := drained
        obtain ⟨history, handed, kept⟩ := kept.drained inst rfl
        refine ⟨history, ?_, kept⟩
        simp only [handed, Machine.handsOver, defined, isOpen, if_true]
    | await _ _ await => simp [performAwait] at await
    | suspend _ _ await => simp [performAwait] at await

theorem init_signalsKept (det : Details σ) (mem : σ) :
    SignalsKept det (Machine.init det mem) [] where
  arrival _ := rfl
  tasks := rfl
  dropped := rfl
  decided _ member := by cases member
  handlers _ h := absurd rfl h

theorem run_deleting (det : Details σ) {m m' : Machine σ} {ls : List (Label σ)} (wf : m.WellFormed)
    (ran : run det m ls = some m') (alive : m'.inst.deleting = false) : m.inst.deleting = false := by
  induction ls generalizing m with
  | nil =>
    cases ran
    exact alive
  | cons l ls ih =>
    obtain ⟨m₁, stepped, rest⟩ := Option.bind_eq_some_iff.mp ran
    exact (step_moves det wf stepped).deleting wf.inst (ih (step_wellFormed det wf stepped) rest)

/-- A run keeps on with the history that came before it. -/
theorem run_signalsKept (det : Details σ) {m m' : Machine σ} {ls : List (Label σ)}
    {processed : List Delivery} (wf : m.WellFormed) (kept : SignalsKept det m processed)
    (ran : run det m ls = some m') (alive : m'.inst.deleting = false) :
    ∃ history, history.map Delivery.handed = handedOver det m ls ∧
      SignalsKept det m' (processed ++ history) := by
  induction ls generalizing m processed with
  | nil =>
    cases ran
    exact ⟨[], rfl, by rwa [List.append_nil]⟩
  | cons l ls ih =>
    obtain ⟨m₁, stepped, rest⟩ := Option.bind_eq_some_iff.mp ran
    have wf₁ := step_wellFormed det wf stepped
    have alive₁ := run_deleting det wf₁ rest alive
    obtain ⟨first, handed, kept₁⟩ := step_signalsKept det wf kept stepped alive₁
    obtain ⟨later, handedLater, kept'⟩ := ih wf₁ kept₁ rest
    refine ⟨first ++ later, ?_, by rwa [← List.append_assoc]⟩
    rw [List.map_append, handed, handedLater, handedOver, stepped]

/-- In every run that has not been evicted, the signal jobs applied so far under
a name are those handed to a handler, in arrival order, and then those still
buffered. What was handed over, and to which handler, is what the steps of the
run hand over; that handler's definition converts the input, and the job has one
task of its own with the converted arguments, or fails to, and the job is
dropped. No handler applies to a name with buffered signals. -/
theorem signals_kept (det : Details σ) (mem : σ) {ls : List (Label σ)} {m : Machine σ}
    (ran : run det (Machine.init det mem) ls = some m) (alive : m.inst.deleting = false) :
    ∃ processed, processed.map Delivery.handed = handedOver det (Machine.init det mem) ls ∧
      SignalsKept det m processed :=
  run_signalsKept det (init_wellFormed det mem) (init_signalsKept det mem) ran alive

/-- A signal for which there is no handler, and then a handler for it. -/
def lateHandler : List (Label Nat) :=
  [.activate [.signalWorkflow ⟨"a", [1]⟩, .startWorkflow []] false, .tick, .tick, .tick, .tick,
    .tick, .act (.ret 0), .tick, .tick, .tick, .tick, .tick, .tick, .tick,
    .act (.setSignalHandler (some "a") (some ⟨7, none, none⟩))]

theorem signals_kept_late : ∃ m processed,
    run Details.plain (Machine.init Details.plain 0) lateHandler = some m ∧
      m.inst.deleting = false ∧ processed.map Delivery.job = [⟨"a", [1]⟩] ∧
      processed.map Delivery.handed =
        handedOver Details.plain (Machine.init Details.plain 0) lateHandler ∧
      SignalsKept Details.plain m processed := by
  have evaluated : (run Details.plain (Machine.init Details.plain 0) lateHandler).map
      (fun m => m.inst.deleting) = some false := by decide +kernel
  have handed : (handedOver Details.plain (Machine.init Details.plain 0) lateHandler).map Prod.fst =
      [⟨"a", [1]⟩] := by decide +kernel
  obtain ⟨m, ran, alive⟩ := Option.map_eq_some_iff.mp evaluated
  obtain ⟨processed, history, kept⟩ := signals_kept Details.plain 0 ran alive
  rw [← history, List.map_map] at handed
  exact ⟨m, processed, ran, alive, handed, history, kept⟩

end TemporalSdk.Workflow
