import TemporalSdk.Workflow.Atoms
import Mathlib.Logic.Relation

/-!
# Moves of the instance

Every program of the instance, and every step of the machine, is a sequence of
atoms of the loop and of moves, which are the changes to the books. `Moves K`
allows, besides what the loop does for anyone, the kinds in `K` only. What a
property does not care about it excludes by kind, and what is left is handled
move by move.
-/
namespace TemporalSdk.Workflow

open Eff

variable {σ : Type}

/-- Commands that workflow code, `activate` or a query adds. -/
def Command.plain : Command → Bool
  | .respondToQuery _ _ | .upsertWorkflowSearchAttributes | .completeWorkflowExecution _
  | .failWorkflowExecution _ | .cancelWorkflowExecution | .continueAsNewWorkflowExecution _ => true
  | _ => false

/-- Handles that do nothing but remove an entry of a table. -/
def Handle.removes : Handle → Bool
  | .callback .tasksRemove _ | .callback (.signalDone _) _ => true
  | _ => false

/-! ### States after compound changes -/

/-- The state after a signal has got its entry. -/
def Inst.signalEntered (s : Inst σ) (job : SignalWorkflow) : Inst σ :=
  { s with
    handledSignalsSeq := s.handledSignalsSeq + 1
    inProgressSignals := s.inProgressSignals.set (s.handledSignalsSeq + 1) job.signalName }

/-- The state after a signal has got its entry and its task. -/
def Inst.signalStarted (s : Inst σ) (job : SignalWorkflow) (args : HandlerArgs) : Inst σ :=
  { s with
    handledSignalsSeq := s.handledSignalsSeq + 1
    inProgressSignals := s.inProgressSignals.set (s.handledSignalsSeq + 1) job.signalName
    futs := Function.update s.futs s.nextFut
      ⟨.task, .pending, [.tasksRemove, .signalDone (s.handledSignalsSeq + 1)]⟩
    tasks := Function.update s.tasks s.nextFut (some ⟨.signal job args, .start, false, 0⟩)
    nextFut := s.nextFut + 1
    ready := s.ready ++ [.taskStep s.nextFut]
    registered := s.registered ++ [s.nextFut] }

/-- The same when the registration is refused. -/
def Inst.signalSpawned (s : Inst σ) (job : SignalWorkflow) (args : HandlerArgs) : Inst σ :=
  { s with
    handledSignalsSeq := s.handledSignalsSeq + 1
    inProgressSignals := s.inProgressSignals.set (s.handledSignalsSeq + 1) job.signalName
    futs := Function.update s.futs s.nextFut ⟨.task, .pending, []⟩
    tasks := Function.update s.tasks s.nextFut (some ⟨.signal job args, .start, false, 0⟩)
    nextFut := s.nextFut + 1
    ready := s.ready ++ [.taskStep s.nextFut] }

/-- The state after `workflow_patch` has decided about a patch. -/
def Inst.memoized (s : Inst σ) (id : String) (deprecated : Bool) : Inst σ :=
  { s with
    patchesMemoized := Function.update s.patchesMemoized id
      (some (!s.isReplaying || s.patchesNotified id))
    commands := s.commands ++
      if !s.isReplaying || s.patchesNotified id then [.setPatchMarker id deprecated] else [] }

/-! ### The moves -/

inductive Move : Kind → Inst σ → Inst σ → Prop
  | book (s : Inst σ) (primaryTask : Option FutId) (cancelRequested : Bool) (randomSeed : Nat) :
      Move .book s { s with
        primaryTask := primaryTask
        cancelRequested := cancelRequested
        randomSeed := randomSeed }
  | handlers (s : Inst σ) (isOpen : s.open = true) (queries updates : HandlerTable) :
      Move .book s { s with queries := queries, updates := updates }
  | cancelHandle (s : Inst σ) (id : Nat) :
      Move .book s { s with cancelledHandles := Function.update s.cancelledHandles id true }
  | methodCall (s : Inst σ) : Move .book s (s.log (.methodCall s.object))
  | exceptionHandler (s : Inst σ) (alive : s.deleting = false) :
      Move .book s (s.log .exceptionHandler)
  | notified (s : Inst σ) (id : String) :
      Move .patch s { s with patchesNotified := Function.update s.patchesNotified id true }
  | memoize (s : Inst σ) (isOpen : s.open = true) {id : String}
      (fresh : s.patchesMemoized id = none) (deprecated : Bool) :
      Move .patch s (s.memoized id deprecated)
  | patchCall (s : Inst σ) {id : String} {value : Bool}
      (decided : s.patchesMemoized id = some value) (deprecated : Bool) :
      Move .patch s (s.log (.patchCall id deprecated value))
  | updateBegun (s : Inst σ) (job : DoUpdate) :
      Move .progress s { s with inProgressUpdates := s.inProgressUpdates.set job.id job.name }
  | updateEnded (s : Inst σ) (job : DoUpdate) :
      Move .progress s { s with inProgressUpdates := s.inProgressUpdates.erase job.id }
  | write (s : Inst σ) (mem : σ) : Move .mem s { s with mem := mem }
  | mode (s : Inst σ) (readOnly : Bool) (prevReadOnly : FutId → Bool) :
      Move .mode s { s with readOnly := readOnly, prevReadOnly := prevReadOnly }
  | evict (s : Inst σ) :
      Move .evict s { s with deleting := true, cancelRequested := true, isReplaying := true }
  | error (s : Inst σ) (e : Error) : Move .error s { s with activationError := some e }
  | updateError (s : Inst σ) (job : DoUpdate) (e : Error) : Move .error s
      { s with activationError := some e, trace := s.trace ++ [.updateError job] }
  | command (s : Inst σ) {c : Command} (isOpen : s.open = true) (plain : c.plain = true) :
      Move .command s (s.pushCommand c)
  | answer (s : Inst σ) (i : Nat) (id : String) {old : QueryResponse} (new : QueryResponse)
      (at_i : s.commands[i]? = some (.respondToQuery id old)) :
      Move .command s { s with commands := s.commands.set i (.respondToQuery id new) }
  | updateResponse (s : Inst σ) (isOpen : s.open = true) (pid : String) (r : UpdateResponse) :
      Move (.update pid) s (s.pushCommand (.updateResponse pid r))
  | updateAnswer (s : Inst σ) (i : Nat) (pid : String) {old : UpdateResponse}
      (new : UpdateResponse) (at_i : s.commands[i]? = some (.updateResponse pid old)) :
      Move (.update pid) s { s with commands := s.commands.set i (.updateResponse pid new) }
  | signals (s : Inst σ) (isOpen : s.open = true) (signals : HandlerTable)
      (buffered : Dict String (List SignalWorkflow)) :
      Move .signal s { s with signals := signals, bufferedSignals := buffered }
  | buffered (s : Inst σ) (buffered : Dict String (List SignalWorkflow)) :
      Move .signal s { s with bufferedSignals := buffered }
  | signalDropped (s : Inst σ) (job : SignalWorkflow) : Move .signal s (s.log (.signalDropped job))
  | signalTask (s : Inst σ) (isOpen : s.open = true) (job : SignalWorkflow) (args : HandlerArgs) :
      Move .signal s (s.signalStarted job args)
  | straySignal (s : Inst σ) (evicting : s.deleting = true) (writable : s.readOnly = false)
      (job : SignalWorkflow) (args : HandlerArgs) : Move .signal s (s.signalSpawned job args)
  | lostSignal (s : Inst σ) (readOnly : s.readOnly = true) (job : SignalWorkflow) :
      Move .signal s (s.signalEntered job)
  | signalHandler (s : Inst σ) (job : SignalWorkflow) (defn : HandlerDefn) (args : HandlerArgs) :
      Move .call s (s.log (.signalHandler job defn args))
  | signalHandlerMissing (s : Inst σ) (job : SignalWorkflow) :
      Move .call s (s.log (.signalHandlerMissing job))
  | condition (s : Inst σ) (isOpen : s.open = true) (fn : Cond σ) :
      Move .condition s { s.setFut s.nextFut ⟨.condition, .pending, []⟩ with
        nextFut := s.nextFut + 1
        conditions := s.conditions ++ [(fn, s.nextFut)] }
  | met (s : Inst σ) {fn : Cond σ} {f : FutId} (member : (fn, f) ∈ s.conditions)
      (pending : s.isDone f = false) (holds : fn s.view = .ok true) :
      Move .check s ((s.log (.conditionResolved f)).settled f (.result 1))
  | kept (s : Inst σ) {conditions : List (Cond σ × FutId)}
      (sub : conditions.Sublist s.conditions) : Move .check s { s with conditions := conditions }
  | pop (s : Inst σ) {h : Handle} {rest : List Handle} (ready : s.ready = h :: rest)
      (stays : h.removes = false) : Move .pop s (s.setReady rest)
  | tasksRemove (s : Inst σ) {f : FutId} {rest : List Handle}
      (ready : s.ready = .callback .tasksRemove f :: rest) :
      Move .pop s { s with ready := rest, registered := s.registered.erase f }
  | signalDone (s : Inst σ) {id : Nat} {f : FutId} {rest : List Handle}
      (ready : s.ready = .callback (.signalDone id) f :: rest) :
      Move .pop s { s with ready := rest, inProgressSignals := s.inProgressSignals.erase id }
  | spawn (s : Inst σ) (isOpen : s.open = true) {root : Root} (ofJob : root.outbound = false)
      (notSignal : ∀ job args, root ≠ .signal job args) : Move .spawn s (s.created root)
  | strayJob (s : Inst σ) (evicting : s.deleting = true) (writable : s.readOnly = false)
      {root : Root} (ofJob : root.outbound = false)
      (notSignal : ∀ job args, root ≠ .signal job args) : Move .spawn s (s.spawned root)
  | wake (s : Inst σ) {t : FutId} {task : Task} (isTask : s.tasks t = some task)
      (pending : s.isDone t = false) :
      Move (.wake t) s (s.setTask t { task with mustCancel := false, point := .running })
  | finish (s : Inst σ) {t : FutId} {task : Task} (isTask : s.tasks t = some task)
      (pending : s.isDone t = false) {new : FutState} (done : new.done = true) :
      Move (.finish t) s (s.settled t new)
  | construct (s : Inst σ) : Move .construct s
      { s with object := some s.nextObject, nextObject := s.nextObject + 1 }
  | turn (s : Inst σ) (activationError : Option Error) (isReplaying : Bool) :
      Move .turn s { s with
        commands := []
        activationError := activationError
        isReplaying := isReplaying }

/-! ### Moves keep identifiers in order -/

theorem Inst.WellFormed.congr {s s' : Inst σ} (wf : s.WellFormed) (nextFut : s'.nextFut = s.nextFut)
    (futs : s'.futs = s.futs) (tasks : s'.tasks = s.tasks)
    (conditions : s'.conditions.Sublist s.conditions)
    (cancels : s'.pendingExternalCancels = s.pendingExternalCancels) : s'.WellFormed where
  task t task h := by
    rw [nextFut, futs]
    rw [tasks] at h
    exact wf.task t task h
  condition fn f h := by
    rw [nextFut, futs]
    exact wf.condition fn f (conditions.subset h)
  externalCancel seq f h := by
    rw [nextFut, futs]
    rw [cancels] at h
    exact wf.externalCancel seq f h
  distinct := wf.distinct.sublist (conditions.map Prod.snd)

theorem Inst.WellFormed.settled {s : Inst σ} (wf : s.WellFormed) (f : FutId) (new : FutState) :
    (s.settled f new).WellFormed := by
  have role (f' : FutId) : ((s.settled f new).futs f').role = (s.futs f').role := by
    by_cases same : f' = f <;> simp [Inst.settled, Inst.pushAll, Inst.setFut, same]
  exact {
    task := fun t task h => by rw [role]; exact wf.task t task h
    condition := fun fn f' h => by rw [role]; exact wf.condition fn f' h
    externalCancel := fun seq f' h => by rw [role]; exact wf.externalCancel seq f' h
    distinct := wf.distinct }

theorem Inst.WellFormed.made {s s' : Inst σ} (wf : s.WellFormed) {task : Task}
    {callbacks : List Callback} (nextFut : s'.nextFut = s.nextFut + 1)
    (futs : s'.futs = Function.update s.futs s.nextFut ⟨.task, .pending, callbacks⟩)
    (tasks : s'.tasks = Function.update s.tasks s.nextFut (some task))
    (conditions : s'.conditions = s.conditions)
    (cancels : s'.pendingExternalCancels = s.pendingExternalCancels) : s'.WellFormed := by
  have old (f : FutId) (bound : f < s.nextFut) : s'.futs f = s.futs f := by
    rw [futs, Function.update_of_ne (Nat.ne_of_lt bound)]
  have later {f : FutId} (bound : f < s.nextFut) : f < s'.nextFut := by
    rw [nextFut]
    exact Nat.lt_succ_of_lt bound
  refine ⟨fun t task' h => ?_, fun fn f h => ?_, fun seq f h => ?_, by rw [conditions]; exact wf.distinct⟩
  · rw [tasks] at h
    by_cases same : t = s.nextFut
    · subst same
      exact ⟨by rw [nextFut]; exact Nat.lt_succ_self _, by simp [futs]⟩
    · rw [Function.update_of_ne same] at h
      obtain ⟨bound, role⟩ := wf.task t task' h
      exact ⟨later bound, by rw [old t bound]; exact role⟩
  · rw [conditions] at h
    obtain ⟨bound, role⟩ := wf.condition fn f h
    exact ⟨later bound, by rw [old f bound]; exact role⟩
  · rw [cancels] at h
    obtain ⟨bound, role⟩ := wf.externalCancel seq f h
    exact ⟨later bound, by rw [old f bound]; exact role⟩

theorem Inst.WellFormed.condition_added {s : Inst σ} (wf : s.WellFormed) (fn : Cond σ) :
    Inst.WellFormed { s.setFut s.nextFut ⟨.condition, .pending, []⟩ with
      nextFut := s.nextFut + 1
      conditions := s.conditions ++ [(fn, s.nextFut)] } := by
  have old (f : FutId) (bound : f < s.nextFut) :
      (s.setFut s.nextFut ⟨.condition, .pending, []⟩).futs f = s.futs f :=
    Function.update_of_ne (Nat.ne_of_lt bound) _ _
  refine ⟨fun t task h => ?_, fun fn' f h => ?_, fun seq f h => ?_, ?_⟩
  · obtain ⟨bound, role⟩ := wf.task t task h
    exact ⟨Nat.lt_succ_of_lt bound, (congrArg Fut.role (old t bound)).trans role⟩
  · rcases List.mem_append.mp h with h | h
    · obtain ⟨bound, role⟩ := wf.condition fn' f h
      exact ⟨Nat.lt_succ_of_lt bound, (congrArg Fut.role (old f bound)).trans role⟩
    · simp only [List.mem_singleton, Prod.mk.injEq] at h
      obtain ⟨-, rfl⟩ := h
      exact ⟨Nat.lt_succ_self _, by simp [Inst.setFut]⟩
  · obtain ⟨bound, role⟩ := wf.externalCancel seq f h
    exact ⟨Nat.lt_succ_of_lt bound, (congrArg Fut.role (old f bound)).trans role⟩
  · rw [List.map_append, List.nodup_append]
    refine ⟨wf.distinct, by simp, ?_⟩
    intro f member f' new
    obtain ⟨⟨fn', _⟩, entry, rfl⟩ := List.mem_map.mp member
    simp only [List.map_cons, List.map_nil, List.mem_singleton] at new
    subst new
    exact Nat.ne_of_lt (wf.condition fn' _ entry).1

theorem Inst.WellFormed.woken {s : Inst σ} (wf : s.WellFormed) {t : FutId} {task : Task}
    (new : Task) (isTask : s.tasks t = some task) : (s.setTask t new).WellFormed where
  task t' task' h := by
    by_cases same : t' = t
    · subst same
      exact wf.task t' task isTask
    · exact wf.task t' task' (by simpa [Inst.setTask, same] using h)
  condition := wf.condition
  externalCancel := wf.externalCancel
  distinct := wf.distinct

theorem Move.wellFormed {k : Kind} {s s' : Inst σ} (h : Move k s s') (wf : s.WellFormed) :
    s'.WellFormed := by
  cases h with
  | signalTask | straySignal | spawn | strayJob => exact wf.made rfl rfl rfl rfl rfl
  | finish => exact wf.settled _ _
  | condition _ _ fn => exact wf.condition_added fn
  | wake _ isTask => exact wf.woken _ isTask
  | kept _ sub => exact wf.congr rfl rfl rfl sub rfl
  | met =>
    have logged (e : Event) : (s.log e).WellFormed :=
      wf.congr rfl rfl rfl (List.Sublist.refl _) rfl
    exact (logged _).settled _ _
  | _ => exact wf.congr rfl rfl rfl (List.Sublist.refl _) rfl

/-! ### Sequences of moves -/

/-- An atom or a move of an allowed kind; what the loop does for anyone is
allowed in any case. -/
def Allowed (K : List Kind) (s s' : Inst σ) : Prop :=
  (∃ k ∈ Kind.loop :: K, Atom k s s') ∨ ∃ k ∈ K, Move k s s'

theorem Allowed.calm_or_move {K : List Kind} {s s' : Inst σ} (h : Allowed K s s')
    (wf : s.WellFormed) : Calm s s' ∨ ∃ k ∈ K, Move k s s' :=
  h.imp_left fun ⟨_, _, atom⟩ => atom.calm wf

/-- A sequence of moves of the kinds in `K`, from a state in order. -/
def Moves (K : List Kind) (s s' : Inst σ) : Prop :=
  s.WellFormed → Relation.ReflTransGen (Allowed K) s s'

theorem Allowed.wellFormed {K : List Kind} {s s' : Inst σ} (h : Allowed K s s')
    (wf : s.WellFormed) : s'.WellFormed := by
  rcases h.calm_or_move wf with calm | ⟨k, -, move⟩
  · exact calm.wellFormed wf
  · exact move.wellFormed wf

/-- The rule for invariants: what every allowed move keeps, a sequence keeps. -/
theorem Moves.keeps {K : List Kind} {s s' : Inst σ} {I : Inst σ → Prop} (h : Moves K s s')
    (wf : s.WellFormed) (start : I s)
    (keep : ∀ a b, a.WellFormed → Allowed K a b → I a → I b) : I s' ∧ s'.WellFormed := by
  have chain := h wf
  clear h
  induction chain with
  | refl => exact ⟨start, wf⟩
  | tail _ last ih => exact ⟨keep _ _ ih.2 last ih.1, last.wellFormed ih.2⟩

theorem Moves.wellFormed {K : List Kind} {s s' : Inst σ} (h : Moves K s s') (wf : s.WellFormed) :
    s'.WellFormed :=
  (h.keeps (I := fun _ => True) wf trivial fun _ _ _ _ _ => trivial).2

instance (K : List Kind) : IsPreorder (Inst σ) (Moves K) where
  refl _ _ := .refl
  trans _ _ _ h h' wf := (h wf).trans (h' (h.wellFormed wf))

/-- Only `finish` completes a task, and nothing changes what a task runs. -/
theorem Move.alive {k : Kind} {s s' : Inst σ} (h : Move k s s') (wf : s.WellFormed)
    {t : FutId} (notFinish : k ≠ .finish t) {task : Task} (isTask : s.tasks t = some task) :
    (∃ task', s'.tasks t = some task' ∧ task'.root = task.root) ∧ s'.isDone t = s.isDone t := by
  have different : t ≠ s.nextFut := Nat.ne_of_lt (wf.task t task isTask).1
  cases h with
  | @finish _ t' =>
    have other : t ≠ t' := fun same => notFinish (by rw [same])
    exact ⟨⟨task, isTask, rfl⟩,
      by simp [Inst.isDone, Inst.settled, Inst.pushAll, Inst.setFut, other]⟩
  | signalTask | straySignal | spawn | strayJob =>
    exact ⟨⟨task, (Function.update_of_ne different _ _).trans isTask, rfl⟩,
      congrArg (fun fut : Fut => fut.state.done) (Function.update_of_ne different _ _)⟩
  | condition => exact ⟨⟨task, isTask, rfl⟩, by simp [Inst.isDone, Inst.setFut, different]⟩
  | @met _ fn f member =>
    have notTask : t ≠ f := by
      rintro rfl
      have := (wf.task t task isTask).2
      rw [(wf.condition fn t member).2] at this
      cases this
    exact ⟨⟨task, isTask, rfl⟩,
      by simp [Inst.isDone, Inst.settled, Inst.pushAll, Inst.setFut, Inst.log, notTask]⟩
  | @wake _ t' task' isTask' =>
    refine ⟨?_, rfl⟩
    by_cases same : t = t'
    · subst same
      rw [isTask, Option.some.injEq] at isTask'
      subst isTask'
      exact ⟨_, Function.update_self .., rfl⟩
    · exact ⟨task, by simpa [Inst.setTask, same] using isTask, rfl⟩
  | _ => exact ⟨⟨task, isTask, rfl⟩, rfl⟩

theorem Allowed.alive {K : List Kind} {s s' : Inst σ} (h : Allowed K s s') (wf : s.WellFormed)
    {t : FutId} (notFinish : Kind.finish t ∉ K) {task : Task} (isTask : s.tasks t = some task) :
    (∃ task', s'.tasks t = some task' ∧ task'.root = task.root) ∧ s'.isDone t = s.isDone t := by
  rcases h.calm_or_move wf with calm | ⟨k, member, move⟩
  · obtain ⟨task', isTask', root, -⟩ := calm.task t task isTask
    exact ⟨⟨task', isTask', root⟩, calm.alive t (by simp [isTask])⟩
  · exact move.alive wf (fun same => notFinish (same ▸ member)) isTask

theorem Moves.alive {K : List Kind} {s s' : Inst σ} (h : Moves K s s') (wf : s.WellFormed)
    {t : FutId} (notFinish : Kind.finish t ∉ K) {task : Task} (isTask : s.tasks t = some task) :
    (∃ task', s'.tasks t = some task' ∧ task'.root = task.root) ∧ s'.isDone t = s.isDone t := by
  refine (h.keeps (I := fun s₁ => (∃ task', s₁.tasks t = some task' ∧ task'.root = task.root) ∧
    s₁.isDone t = s.isDone t) wf ⟨⟨task, isTask, rfl⟩, rfl⟩ ?_).1
  rintro a b wfa allowed ⟨⟨task', isTask', root⟩, done⟩
  obtain ⟨⟨task'', isTask'', root'⟩, done'⟩ := allowed.alive wfa notFinish isTask'
  exact ⟨⟨task'', isTask'', root'.trans root⟩, done'.trans done⟩

/-- Only its own coroutine moves a task on. -/
theorem Atom.point {k : Kind} {s s' : Inst σ} (h : Atom k s s') (wf : s.WellFormed) {t : FutId}
    (notOwn : k ≠ .own t) {task : Task} (isTask : s.tasks t = some task) :
    ∃ task', s'.tasks t = some task' ∧ task'.root = task.root ∧ task'.point = task.point := by
  have different : t ≠ s.nextFut := Nat.ne_of_lt (wf.task t task isTask).1
  have set {t' : FutId} {old new : Task} (isOld : s.tasks t' = some old)
      (same : t = t' → new.root = old.root ∧ new.point = old.point) :
      ∃ task', (s.setTask t' new).tasks t = some task' ∧ task'.root = task.root ∧
        task'.point = task.point := by
    by_cases equal : t = t'
    · subst equal
      rw [isTask, Option.some.injEq] at isOld
      subst isOld
      exact ⟨new, by simp [Inst.setTask], same rfl⟩
    · exact ⟨task, by simpa [Inst.setTask, equal] using isTask, rfl, rfl⟩
  cases h with
  | createUser | strayUser | bareUser | newActivity | strayActivity | newChild | strayChild =>
    exact ⟨task, (Function.update_of_ne different _ _).trans isTask, rfl, rfl⟩
  | request _ isOld | mustCancel _ isOld | clearCancel _ isOld =>
    exact set isOld fun _ => ⟨rfl, rfl⟩
  | setPoint _ isOld => exact set isOld fun same => absurd (by rw [same]) notOwn
  | _ => exact ⟨task, isTask, rfl, rfl⟩

theorem Move.point {k : Kind} {s s' : Inst σ} (h : Move k s s') (wf : s.WellFormed) {t : FutId}
    (notWake : k ≠ .wake t) {task : Task} (isTask : s.tasks t = some task) :
    ∃ task', s'.tasks t = some task' ∧ task'.root = task.root ∧ task'.point = task.point := by
  have different : t ≠ s.nextFut := Nat.ne_of_lt (wf.task t task isTask).1
  cases h with
  | signalTask | spawn | straySignal | strayJob =>
    exact ⟨task, (Function.update_of_ne different _ _).trans isTask, rfl, rfl⟩
  | @wake _ t' task' isTask' =>
    have other : t ≠ t' := fun same => notWake (by rw [same])
    exact ⟨task, by simpa [Inst.setTask, other] using isTask, rfl, rfl⟩
  | _ => exact ⟨task, isTask, rfl, rfl⟩

theorem Moves.point {K : List Kind} {s s' : Inst σ} (h : Moves K s s') (wf : s.WellFormed)
    {t : FutId} (notOwn : Kind.own t ∉ K) (notWake : Kind.wake t ∉ K) {task : Task}
    (isTask : s.tasks t = some task) :
    ∃ task', s'.tasks t = some task' ∧ task'.root = task.root ∧ task'.point = task.point := by
  refine (h.keeps (I := fun s₁ => ∃ task', s₁.tasks t = some task' ∧ task'.root = task.root ∧
    task'.point = task.point) wf ⟨task, isTask, rfl, rfl⟩ ?_).1
  rintro a b wfa allowed ⟨task', isTask', root, point⟩
  rcases allowed with ⟨k, member, atom⟩ | ⟨k, member, move⟩
  · have notOwn' : k ≠ .own t := by
      rintro rfl
      rcases List.mem_cons.mp member with loop | member
      · cases loop
      · exact notOwn member
    obtain ⟨task'', isTask'', root', point'⟩ := atom.point wfa notOwn' isTask'
    exact ⟨task'', isTask'', root'.trans root, point'.trans point⟩
  · obtain ⟨task'', isTask'', root', point'⟩ :=
      move.point wfa (fun same => notWake (same ▸ member)) isTask'
    exact ⟨task'', isTask'', root'.trans root, point'.trans point⟩

/-- A task runs the same coroutine for good. -/
theorem Moves.root {K : List Kind} {s s' : Inst σ} (h : Moves K s s') (wf : s.WellFormed)
    {t : FutId} {task : Task} (isTask : s.tasks t = some task) :
    ∃ task', s'.tasks t = some task' ∧ task'.root = task.root := by
  refine (h.keeps (I := fun s₁ => ∃ task', s₁.tasks t = some task' ∧ task'.root = task.root) wf
    ⟨task, isTask, rfl⟩ ?_).1
  rintro a b wfa allowed ⟨task', isTask', root⟩
  have keeps : ∃ task'', b.tasks t = some task'' ∧ task''.root = task'.root := by
    rcases allowed.calm_or_move wfa with calm | ⟨k, -, move⟩
    · obtain ⟨task'', isTask'', root', -⟩ := calm.task t task' isTask'
      exact ⟨task'', isTask'', root'⟩
    · by_cases finish : k = .finish t
      · subst finish
        cases move
        exact ⟨task', isTask', rfl⟩
      · exact (move.alive wfa finish isTask').1
  obtain ⟨task'', isTask'', root'⟩ := keeps
  exact ⟨task'', isTask'', root'.trans root⟩

theorem Move.nextFut {k : Kind} {s s' : Inst σ} (h : Move k s s') : s.nextFut ≤ s'.nextFut := by
  cases h with
  | signalTask | spawn | straySignal | strayJob | condition => exact Nat.le_succ _
  | _ => exact Nat.le_refl _

theorem Moves.nextFut {K : List Kind} {s s' : Inst σ} (h : Moves K s s') (wf : s.WellFormed) :
    s.nextFut ≤ s'.nextFut := by
  refine (h.keeps (I := fun s₁ => s.nextFut ≤ s₁.nextFut) wf (Nat.le_refl _) ?_).1
  intro a b wfa allowed grows
  rcases allowed.calm_or_move wfa with calm | ⟨k, -, move⟩
  · exact grows.trans calm.nextFut
  · exact grows.trans move.nextFut

/-- A future that is done stays as it is. -/
theorem Move.done {k : Kind} {s s' : Inst σ} (h : Move k s s') {f : FutId} (bound : f < s.nextFut)
    (done : s.isDone f = true) : (s'.futs f).state = (s.futs f).state := by
  have different : f ≠ s.nextFut := Nat.ne_of_lt bound
  have settled {f' : FutId} {new : FutState} {s : Inst σ} (done : s.isDone f = true)
      (pending : s.isDone f' = false) : ((s.settled f' new).futs f).state = (s.futs f).state := by
    have other : f ≠ f' := by
      rintro rfl
      rw [done] at pending
      cases pending
    simp [Inst.settled, Inst.pushAll, Inst.setFut, other]
  cases h with
  | signalTask | straySignal | spawn | strayJob =>
    exact congrArg Fut.state (Function.update_of_ne different _ _)
  | condition => simp [Inst.setFut, different]
  | met _ _ pending => exact settled (s := s.log _) done pending
  | finish _ _ pending => exact settled done pending
  | _ => rfl

theorem Moves.done {K : List Kind} {s s' : Inst σ} (h : Moves K s s') (wf : s.WellFormed)
    {f : FutId} (bound : f < s.nextFut) (done : s.isDone f = true) :
    (s'.futs f).state = (s.futs f).state := by
  refine (h.keeps (I := fun s₁ => f < s₁.nextFut ∧ (s₁.futs f).state = (s.futs f).state) wf
    ⟨bound, rfl⟩ ?_).1.2
  rintro a b wfa allowed ⟨bound, same⟩
  have done : a.isDone f = true := by rw [Inst.isDone, same]; exact done
  rcases allowed.calm_or_move wfa with calm | ⟨k, -, move⟩
  · exact ⟨Nat.lt_of_lt_of_le bound calm.nextFut, (calm.done f bound done).trans same⟩
  · exact ⟨Nat.lt_of_lt_of_le bound move.nextFut, (move.done bound done).trans same⟩

theorem Moves.isDone {K : List Kind} {s s' : Inst σ} (h : Moves K s s') (wf : s.WellFormed)
    {f : FutId} (bound : f < s.nextFut) (done : s.isDone f = true) : s'.isDone f = true := by
  rw [Inst.isDone, h.done wf bound done]
  exact done

/-- Only the loop takes handles from the ready queue. -/
theorem Moves.ready {K : List Kind} {s s' : Inst σ} (h : Moves K s s') (wf : s.WellFormed)
    (notPop : Kind.pop ∉ K) : ∃ hs, s'.ready = s.ready ++ hs := by
  refine (h.keeps (I := fun s₁ => ∃ hs, s₁.ready = s.ready ++ hs) wf ⟨[], by simp⟩ ?_).1
  rintro a b wfa allowed ⟨hs, ready⟩
  rcases allowed.calm_or_move wfa with calm | ⟨k, member, move⟩
  · obtain ⟨hs', ready'⟩ := calm.ready
    exact ⟨hs ++ hs', by rw [ready', ready, List.append_assoc]⟩
  · have more {hs' : List Handle} (ready' : b.ready = a.ready ++ hs') :
        ∃ hs, b.ready = s.ready ++ hs :=
      ⟨hs ++ hs', by rw [ready', ready, List.append_assoc]⟩
    cases move with
    | pop | tasksRemove | signalDone => exact absurd member notPop
    | signalTask | spawn | straySignal | strayJob | met | finish => exact more rfl
    | _ => exact ⟨hs, ready⟩

/-- Eviction is not taken back. -/
theorem Moves.deleting {K : List Kind} {s s' : Inst σ} (h : Moves K s s') (wf : s.WellFormed)
    (alive : s'.deleting = false) : s.deleting = false := by
  by_contra evicted
  have kept := (h.keeps (I := fun s => s.deleting = true) wf (by simpa using evicted) ?_).1
  · rw [alive] at kept
    cases kept
  · intro a b wfa allowed deleting
    rcases allowed.calm_or_move wfa with calm | ⟨k, -, move⟩
    · rw [calm.books.deleting]
      exact deleting
    · cases move <;> first | exact deleting | rfl

/-- Only handlers that are read-only and eviction open or close the completion. -/
theorem Moves.open {K : List Kind} {s s' : Inst σ} (h : Moves K s s') (wf : s.WellFormed)
    (notMode : Kind.mode ∉ K) (notEvict : Kind.evict ∉ K) : s'.open = s.open := by
  refine (h.keeps (I := fun s₁ => s₁.open = s.open) wf rfl ?_).1
  intro a b wfa allowed same
  rcases allowed.calm_or_move wfa with calm | ⟨k, member, move⟩
  · rw [Inst.open, calm.books.deleting, calm.books.readOnly]
    exact same
  · cases move with
    | mode => exact absurd member notMode
    | evict => exact absurd member notEvict
    | _ => exact same

/-- Only handlers that are read-only change the flag and what it is restored to. -/
theorem Moves.readOnly {K : List Kind} {s s' : Inst σ} (h : Moves K s s') (wf : s.WellFormed)
    (notMode : Kind.mode ∉ K) : s'.readOnly = s.readOnly ∧ s'.prevReadOnly = s.prevReadOnly := by
  refine (h.keeps (I := fun s₁ => s₁.readOnly = s.readOnly ∧ s₁.prevReadOnly = s.prevReadOnly) wf
    ⟨rfl, rfl⟩ ?_).1
  rintro a b wfa allowed ⟨flag, prev⟩
  rcases allowed.calm_or_move wfa with calm | ⟨k, member, move⟩
  · exact ⟨calm.books.readOnly.trans flag, calm.books.prevReadOnly.trans prev⟩
  · cases move with
    | mode => exact absurd member notMode
    | _ => exact ⟨flag, prev⟩

/-- Only a handler that fails records an error, and only `activate` clears it. -/
theorem Moves.activationError {K : List Kind} {s s' : Inst σ} (h : Moves K s s')
    (wf : s.WellFormed) (notError : Kind.error ∉ K) (notTurn : Kind.turn ∉ K) :
    s'.activationError = s.activationError := by
  refine (h.keeps (I := fun s₁ => s₁.activationError = s.activationError) wf rfl ?_).1
  intro a b wfa allowed same
  rcases allowed.calm_or_move wfa with calm | ⟨k, member, move⟩
  · exact calm.books.activationError.trans same
  · cases move with
    | error | updateError => exact absurd member notError
    | turn => exact absurd member notTurn
    | _ => exact same

theorem Moves.trans {K : List Kind} {s₁ s₂ s₃ : Inst σ} (h : Moves K s₁ s₂) (h' : Moves K s₂ s₃) :
    Moves K s₁ s₃ :=
  IsTrans.trans _ _ _ h h'

theorem Moves.of_atom {K : List Kind} {k : Kind} {s s' : Inst σ} (member : k ∈ Kind.loop :: K)
    (h : Atom k s s') : Moves K s s' :=
  fun _ => .single (.inl ⟨k, member, h⟩)

theorem Moves.of_move {K : List Kind} {k : Kind} {s s' : Inst σ} (member : k ∈ K)
    (h : Move k s s') : Moves K s s' :=
  fun _ => .single (.inr ⟨k, member, h⟩)

theorem Moves.mono {K L : List Kind} {s s' : Inst σ} (h : Moves K s s') (sub : K ⊆ L) :
    Moves L s s' :=
  fun wf => Relation.ReflTransGen.mono (fun _ _ allowed => Or.imp
    (fun ⟨k, member, atom⟩ => ⟨k, List.cons_subset_cons _ sub member, atom⟩)
    (fun ⟨k, member, move⟩ => ⟨k, sub member, move⟩) allowed) _ _ (h wf)

theorem moves_mono {α : Type} {K L : List Kind} {x : Wf σ α} (h : Steady (Moves K) x)
    (sub : K ⊆ L) : Steady (Moves L) x :=
  fun s => (h s).mono sub

theorem atom_steady {K : List Kind} {k : Kind} {f : Inst σ → Inst σ} (member : k ∈ Kind.loop :: K)
    (h : ∀ s, Atom k s (f s)) : Steady (Moves K) (update f : Wf σ Unit) :=
  .update fun s => .of_atom member (h s)

theorem move_steady {K : List Kind} {k : Kind} {f : Inst σ → Inst σ} (member : k ∈ K)
    (h : ∀ s, Move k s (f s)) : Steady (Moves K) (update f : Wf σ Unit) :=
  .update fun s => .of_move member (h s)

end TemporalSdk.Workflow
