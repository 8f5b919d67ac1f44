import TemporalSdk.Workflow.OutboundEffects

/-!
# Which moves each program makes

For every program of `Handlers` and `Jobs`, the kinds of moves it is made of.
-/
namespace TemporalSdk.Workflow

open Eff

variable {σ : Type}

/-! ### Building blocks -/

theorem addCommand_moves {K : List Kind} (member : Kind.command ∈ K) {c : Command}
    (plain : c.plain = true) : Steady (Moves K) (addCommand c : Wf σ Nat) := by
  intro s
  rw [addCommand_run]
  split
  next isOpen => exact .of_move member (.command s isOpen plain)
  · exact Std.Refl.refl s

theorem addUpdateResponse_moves {K : List Kind} {pid : String} (member : Kind.update pid ∈ K)
    (r : UpdateResponse) : Steady (Moves K) (addCommand (.updateResponse pid r) : Wf σ Nat) := by
  intro s
  rw [addCommand_run]
  split
  next isOpen => exact .of_move member (.updateResponse s isOpen pid r)
  · exact Std.Refl.refl s

/-- `create_task` for the coroutine of a job. -/
theorem createTask_moves {K : List Kind} (member : Kind.spawn ∈ K) {root : Root}
    (ofJob : root.outbound = false) (notSignal : ∀ job args, root ≠ .signal job args) :
    Steady (Moves K) (createTask root : Wf σ FutId) := by
  intro s
  cases readOnly : s.readOnly with
  | true =>
    rw [createTask_readOnly _ readOnly]
    exact Std.Refl.refl s
  | false =>
    rw [createTask_run _ readOnly]
    split
    next evicting => exact .of_move member (.strayJob s evicting readOnly ofJob notSignal)
    next alive =>
      exact .of_move member (.spawn s (by simp [Inst.open, alive, readOnly]) ofJob notSignal)

theorem logCall_moves {K : List Kind} (member : Kind.book ∈ K) (defn : HandlerDefn) :
    Steady (Moves K) (logCall defn : Wf σ Unit) := by
  intro s
  simp only [logCall, update_run]
  split
  · exact .of_move member (.methodCall s)
  · exact Std.Refl.refl s

theorem setActivationError_moves {K : List Kind} (member : Kind.error ∈ K) (e : Error) :
    Steady (Moves K) (update fun s : Inst σ => { s with activationError := some e } : Wf σ Unit) :=
  move_steady member fun s => .error s e

/-! ### Signals -/

/-- The entry of a signal is made before its task, and stays if the task is
refused. -/
theorem processSignalJob_run {det : Details σ} {defn : HandlerDefn} {job : SignalWorkflow}
    {args : HandlerArgs} (converted : det.processHandlerArgs job.signalName job.input defn = .ok args)
    (s : Inst σ) :
    processSignalJob det defn job s =
      if s.readOnly then (.error (.error (.readOnlyContext "schedule task")), s.signalEntered job)
      else if s.deleting then (.error .workflowBeingEvicted, s.signalSpawned job args)
      else (.ok (), s.signalStarted job args) := by
  have enters : processSignalJob det defn job s = (do
      let t ← createTask (.signal job args)
      addDoneCallback t (.signalDone (s.handledSignalsSeq + 1)) : Wf σ Unit) (s.signalEntered job) := by
    simp only [processSignalJob, converted]
    rfl
  rw [enters]
  cases readOnly : s.readOnly with
  | true =>
    rw [bind_error (createTask_readOnly _ (s := s.signalEntered job) readOnly)]
    rfl
  | false =>
    have creates := createTask_run (.signal job args) (s := s.signalEntered job) readOnly
    cases deleting : s.deleting with
    | true =>
      rw [show (s.signalEntered job).deleting = true from deleting, if_pos rfl] at creates
      rw [bind_error creates]
      rfl
    | false =>
      rw [show (s.signalEntered job).deleting = false from deleting, if_neg (by simp)] at creates
      rw [bind_ok creates]
      simp [addDoneCallback, Inst.signalEntered, Inst.created, Inst.isDone, FutState.done,
        Inst.setFut, Inst.signalStarted]

theorem processSignalJob_moves (det : Details σ) (defn : HandlerDefn) (job : SignalWorkflow) :
    Steady (Moves [.signal]) (processSignalJob det defn job) := by
  intro s
  cases converted : det.processHandlerArgs job.signalName job.input defn with
  | error e =>
    simp only [processSignalJob, converted]
    exact .of_move (by simp) (.signalDropped s job)
  | ok args =>
    rw [processSignalJob_run converted]
    split
    next readOnly => exact .of_move (by simp) (.lostSignal s readOnly job)
    next writable =>
      have writable : s.readOnly = false := by simpa using writable
      split
      next evicting => exact .of_move (by simp) (.straySignal s evicting writable job args)
      next alive =>
        exact .of_move (by simp) (.signalTask s (by simp [Inst.open, alive, writable]) job args)

theorem workflowSetSignalHandler_moves (det : Details σ) (name : Option String)
    (handler : Option HandlerFn) :
    Steady (Moves [.signal]) (workflowSetSignalHandler det name handler) := by
  -- what is open stays open while the buffer is drained
  have table {s : Inst σ} (isOpen : s.open = true) (signals : HandlerTable)
      (buffered : Dict String (List SignalWorkflow)) :
      Moves [.signal] s { s with signals := signals, bufferedSignals := buffered } :=
    .of_move (by simp) (.signals s isOpen signals buffered)
  have drain (jobs : List SignalWorkflow) (defn : HandlerDefn) :
      Steady (Moves [.signal]) (jobs.forM (processSignalJob det defn)) :=
    .forM (processSignalJob_moves det defn) jobs
  have drained {s : Inst σ} (isOpen : s.open = true) (wf : s.WellFormed)
      (jobs : List SignalWorkflow) (defn : HandlerDefn) :
      Moves [.signal] s ((do
        jobs.forM (processSignalJob det defn)
        update fun s => { s with bufferedSignals := Dict.empty } : Wf σ Unit) s).2 := by
    refine bind_steady_at (drain jobs defn s) fun _ s₁ run => ?_
    have moved := drain jobs defn s
    rw [run] at moved
    exact table ((moved.open wf (by simp) (by simp)).trans isOpen) s₁.signals _
  refine guard_moves fun s isOpen wf => ?_
  cases handler with
  | none => exact table isOpen _ s.bufferedSignals wf
  | some fn =>
    have defined : Moves [.signal] s (raiseError (fn.define name) s).2 := raiseError_steady _ s
    refine bind_steady_at (R := Moves [.signal]) defined (fun defn s₁ run => ?_) wf
    obtain ⟨-, rfl⟩ := raiseError_ok run
    have registered := table isOpen (s₁.signals.set name defn) s₁.bufferedSignals
    refine registered.trans ?_
    have wf₁ := registered.wellFormed wf
    have isOpen₁ : ({ s₁ with signals := s₁.signals.set name defn } : Inst σ).open = true := isOpen
    cases name with
    | none => exact drained isOpen₁ wf₁ _ defn
    | some key =>
      dsimp only
      split
      · exact drained isOpen₁ wf₁ _ defn
      · exact Moves.trans (table isOpen₁ _ _) (drain _ defn _)

theorem handleSignal_moves (t : FutId) (job : SignalWorkflow) (args : HandlerArgs) :
    Steady (Moves [.book, .call]) (handleSignal t job args : Wf σ Next) := by
  refine .read fun s => ?_
  split
  · exact .bind (move_steady (by simp) fun s => .signalHandlerMissing s job) fun _ => .raise _
  · exact .bind (logCall_moves (by simp) _) fun _ =>
      .bind (move_steady (by simp) fun s => .signalHandler s job _ args) fun _ => .pure _

/-! ### The top-level coroutine -/

theorem setWorkflowFailure_moves (det : Details σ) (e : Error) :
    Steady (Moves [.command]) (setWorkflowFailure det e) := by
  unfold setWorkflowFailure
  split
  · exact .bind (addCommand_moves (by simp) rfl) fun _ => .pure _
  · exact .bind (addCommand_moves (by simp) rfl) fun _ => .raise _

theorem applyContinueAsNew_moves (det : Details σ) (input : ContinueAsNewInput) :
    Steady (Moves [.command]) (applyContinueAsNew det input) := by
  refine .bind (convertArgs_steady _ _) fun _ =>
    .bind (.forM (fun _ => .bind (raiseError_steady _) fun _ => .pure _) _) fun _ =>
      .bind (addCommand_moves (by simp) rfl) fun _ =>
        .bind (applyRetryPolicy_steady _) fun _ => ?_
  split
  · exact raiseError_steady _
  · exact .pure _

theorem topLevelExcept_moves (det : Details σ) (e : Error) :
    Steady (Moves [.command, .error]) (topLevelExcept det e) := by
  refine .read fun s => ?_
  split
  · exact .pure _
  · split
    · exact .bind (addCommand_moves (by simp) rfl) fun _ => .pure _
    · split
      · exact moves_mono (setWorkflowFailure_moves det e) (by simp)
      · exact setActivationError_moves (by simp) e

theorem runTopLevelWorkflowFunction_moves (det : Details σ) (r : Except Exc Unit) :
    Steady (Moves [.command, .error]) (runTopLevelWorkflowFunction det r) := by
  unfold runTopLevelWorkflowFunction
  split
  · exact .pure _
  · exact moves_mono (applyContinueAsNew_moves det _) (by simp)
  · exact topLevelExcept_moves det _
  · exact topLevelExcept_moves det _
  · exact .raise _

theorem finishWorkflow_moves (det : Details σ) (r : Except Exc Obj) :
    Steady (Moves [.command, .error]) (finishWorkflow det r) := by
  refine .bind (.attempt (.bind (.ofExcept r) fun _ => .bind (raiseError_steady _) fun _ =>
    .bind (addCommand_moves (by simp) rfl) fun _ => .pure _)) fun r => .read fun s => ?_
  split
  · split
    · exact .pure _
    · exact runTopLevelWorkflowFunction_moves det _
  · exact runTopLevelWorkflowFunction_moves det _

/-! ### Updates

The response of an update is filled in where it was added, so these programs
need to know that it is still there. -/

/-- Place `i` of the completion holds a response to `pid`. -/
def Inst.respondsAt (s : Inst σ) (i : Nat) (pid : String) : Prop :=
  ∃ r, s.commands[i]? = some (.updateResponse pid r)

theorem respondsAt_set {s : Inst σ} {i : Nat} {pid : String} (h : s.respondsAt i pid)
    (r : UpdateResponse) :
    Inst.respondsAt { s with commands := s.commands.set i (.updateResponse pid r) } i pid := by
  obtain ⟨old, at_i⟩ := h
  have bound : i < s.commands.length := (List.getElem?_eq_some_iff.mp at_i).1
  exact ⟨r, by simp [bound]⟩

theorem setResponse_moves {K : List Kind} {pid : String} (member : Kind.update pid ∈ K)
    {s : Inst σ} {i : Nat} (h : s.respondsAt i pid) (r : UpdateResponse) :
    Moves K s (setCommand i (.updateResponse pid r) s).2 := by
  obtain ⟨old, at_i⟩ := h
  exact .of_move member (.updateAnswer s i pid r at_i)

/-- A rejection, written in two steps. -/
theorem reject_moves {K : List Kind} {pid : String} (member : Kind.update pid ∈ K)
    (det : Details σ) {s : Inst σ} {i : Nat} (h : s.respondsAt i pid) (e : Error) :
    Moves K s ((do
      setCommand i (.updateResponse pid (.rejected none))
      let f ← raiseError (det.toFailure e)
      setCommand i (.updateResponse pid (.rejected (some f))) : Wf σ Unit) s).2 := by
  refine bind_steady_at (setResponse_moves member h _) fun _ s₁ run₁ => ?_
  have h₁ : s₁.respondsAt i pid := by
    rw [setCommand, update_run, Prod.mk.injEq] at run₁
    rw [← run₁.2]
    exact respondsAt_set h _
  refine bind_steady_at (raiseError_steady _ s₁) fun f s₂ run₂ => ?_
  obtain ⟨-, rfl⟩ := raiseError_ok run₂
  exact setResponse_moves member h₁ _

theorem recordUpdateError_moves {K : List Kind} (member : Kind.error ∈ K) (job : DoUpdate)
    (e : Error) : Steady (Moves K) (recordUpdateError job e : Wf σ Unit) :=
  fun s => .of_move member (.updateError s job e)

theorem updateExcept_moves (det : Details σ) (job : DoUpdate) (command : Option Nat)
    (pastValidation : Bool) (e : Error) {s : Inst σ}
    (h : ∀ i, command = some i → s.respondsAt i job.protocolInstanceId) :
    Moves [.update job.protocolInstanceId, .error] s
      (updateExcept det job command pastValidation e s).2 := by
  unfold updateExcept
  split
  · exact recordUpdateError_moves (by simp) job _ s
  · split
    · split
      next i => exact reject_moves (by simp) det (h i rfl) _
      · refine bind_steady_at (addUpdateResponse_moves (by simp) _ s) fun i s₁ run => ?_
        obtain ⟨-, rfl, rfl⟩ := addCommand_ok run
        exact reject_moves (by simp) det ⟨.unset, by simp [Inst.pushCommand]⟩ _
    · exact recordUpdateError_moves (by simp) job _ s

theorem updateEnd_moves (det : Details σ) (job : DoUpdate) (command : Option Nat)
    (pastValidation : Bool) (r : Except Exc Unit) {s : Inst σ}
    (h : ∀ i, command = some i → s.respondsAt i job.protocolInstanceId) :
    Moves [.update job.protocolInstanceId, .error, .progress] s
      (updateEnd det job command pastValidation r s).2 := by
  refine bind_steady_at ?_ fun r s₁ _ =>
    Steady.bind (move_steady (by simp) fun s => .updateEnded s job) (fun _ => .ofExcept r) s₁
  rw [attempt_run]
  split
  · exact Std.Refl.refl s
  · exact (updateExcept_moves det job command pastValidation _ h).mono (by simp)
  · exact (updateExcept_moves det job command pastValidation _ h).mono (by simp)
  · refine Steady.read (fun s₀ => ?_) s
    split
    · exact .pure _
    · exact .raise _

theorem ended_moves {K : List Kind} {x : Wf σ Unit} {s : Inst σ} (h : Moves K s (x s).2) :
    Moves K s (ended x s).2 :=
  bind_steady_at h fun _ s₁ _ => Steady.pure _ s₁

theorem acceptUpdate_moves (det : Details σ) (t : FutId) (job : DoUpdate) (command : Nat)
    {s : Inst σ} (h : s.respondsAt command job.protocolInstanceId) :
    Moves [.update job.protocolInstanceId, .error, .progress, .book] s
      (acceptUpdate det t job command s).2 := by
  refine bind_steady_at (setResponse_moves (by simp) h _) fun _ s₁ _ => ?_
  refine Steady.read (fun s₂ => ?_) s₁
  split
  · exact .bind (logCall_moves (by simp) _) fun _ => .pure _
  · intro s₃
    exact ended_moves ((updateEnd_moves det job none true _ (by simp)).mono (by simp))

theorem finishValidator_moves (det : Details σ) (t : FutId) (job : DoUpdate) (defn : HandlerDefn)
    (command : Nat) (prev : Bool) (r : Except Exc Obj) {s : Inst σ}
    (h : s.respondsAt command job.protocolInstanceId) :
    Moves [.update job.protocolInstanceId, .error, .progress, .book, .mode] s
      (finishValidator det t job defn command prev r s).2 := by
  refine bind_steady_at (.of_move (k := .mode) (by simp) (.mode s prev s.prevReadOnly))
    fun _ s₁ run => ?_
  have h₁ : s₁.respondsAt command job.protocolInstanceId := by
    rw [update_run, Prod.mk.injEq] at run
    rw [← run.2]
    exact h
  cases r with
  | error e =>
    exact ended_moves ((updateEnd_moves det job _ _ _ (by simpa using h₁)).mono (by simp))
  | ok v =>
    cases det.processHandlerArgs job.name job.input defn with
    | error e =>
      exact ended_moves ((updateEnd_moves det job _ _ _ (by simpa using h₁)).mono (by simp))
    | ok args => exact (acceptUpdate_moves det t job command h₁).mono (by simp)

theorem startUpdate_moves (det : Details σ) (t : FutId) (job : DoUpdate) :
    Steady (Moves [.update job.protocolInstanceId, .error, .progress, .book, .mode])
      (startUpdate det t job) := by
  intro s
  refine bind_steady_at (addUpdateResponse_moves (by simp) _ s) fun i s₁ run => ?_
  obtain ⟨-, rfl, rfl⟩ := addCommand_ok run
  have added : (s.pushCommand (.updateResponse job.protocolInstanceId .unset)).respondsAt
      s.commands.length job.protocolInstanceId := ⟨.unset, by simp [Inst.pushCommand]⟩
  generalize s.pushCommand (.updateResponse job.protocolInstanceId .unset) = s₁ at added
  simp only [state_bind_run]
  cases s₁.updates.resolve job.name with
  | none =>
    exact ended_moves ((updateEnd_moves det job _ _ _ (by simpa using added)).mono (by simp))
  | some defn =>
    refine bind_steady_at (.of_move (k := .progress) (by simp) (.updateBegun s₁ job))
      fun _ s₂ run₂ => ?_
    have added₂ : s₂.respondsAt s.commands.length job.protocolInstanceId := by
      rw [update_run, Prod.mk.injEq] at run₂
      rw [← run₂.2]
      exact added
    cases det.processHandlerArgs job.name job.input defn with
    | error e =>
      exact ended_moves ((updateEnd_moves det job _ _ _ (by simpa using added₂)).mono (by simp))
    | ok args =>
      dsimp only
      split
      · exact Steady.bind (logCall_moves (by simp) _) (fun _ =>
          .bind (move_steady (k := .mode) (by simp) fun s => .mode s true s.prevReadOnly) fun _ =>
            .pure _) s₂
      · exact (acceptUpdate_moves det t job _ added₂).mono (by simp)

theorem finishUpdate_moves (det : Details σ) (job : DoUpdate) (r : Except Exc Obj) :
    Steady (Moves [.update job.protocolInstanceId, .error, .progress]) (finishUpdate det job r) := by
  refine .bind (.attempt (.bind (.ofExcept r) fun _ => .bind (raiseError_steady _) fun _ =>
    .bind (addUpdateResponse_moves (by simp) _) fun _ => .pure _)) fun r s => ?_
  exact updateEnd_moves det job none true r (by simp)

/-- A handler table changes only in an open state. -/
theorem setHandler_moves {K : List Kind} (member : Kind.book ∈ K) {x : Except Error HandlerDefn}
    (table : HandlerDefn → Inst σ → HandlerTable × HandlerTable) {s : Inst σ}
    (isOpen : s.open = true) :
    Moves K s ((do
      let defn ← raiseError x
      update fun s => { s with queries := (table defn s).1, updates := (table defn s).2 } :
        Wf σ Unit) s).2 := by
  refine bind_steady_at (raiseError_steady _ s) fun defn s₁ run => ?_
  obtain ⟨-, rfl⟩ := raiseError_ok run
  exact .of_move member (.handlers s₁ isOpen _ _)

theorem workflowSetUpdateHandler_moves (name : Option String) (handler : Option HandlerFn)
    (validator : Option Obj) :
    Steady (Moves [.book]) (workflowSetUpdateHandler name handler validator : Wf σ Unit) := by
  refine guard_moves fun s isOpen => ?_
  cases handler with
  | none => exact .of_move (by simp) (.handlers s isOpen s.queries _)
  | some fn =>
    exact setHandler_moves (by simp) (fun defn s => (s.queries, s.updates.set name defn)) isOpen

/-! ### Queries, patches and search attributes -/

theorem queryExcept_moves (det : Details σ) (job : QueryWorkflow) (e : Error) :
    Steady (Moves [.command]) (queryExcept det job e) := by
  intro s
  refine bind_steady_at ?_ fun r s₁ _ => ?_
  · rw [attempt_run]
    refine bind_steady_at (addCommand_moves (by simp) rfl s) fun i s₁ run => ?_
    obtain ⟨-, rfl, rfl⟩ := addCommand_ok run
    refine bind_steady_at (raiseError_steady _ _) fun f s₂ run₂ => ?_
    obtain ⟨-, rfl⟩ := raiseError_ok run₂
    have added : (s.pushCommand (.respondToQuery job.queryId (.failed none))).commands[
        s.commands.length]? = some (.respondToQuery job.queryId (.failed none)) := by
      simp [Inst.pushCommand]
    exact .of_move (by simp) (.answer _ s.commands.length job.queryId (.failed (some f)) added)
  · cases r with
    | ok u => exact Steady.pure _ s₁
    | error e => cases e <;> exact Steady.raise _ s₁

theorem queryEnd_moves (det : Details σ) (job : QueryWorkflow) (prev : Bool)
    (r : Except Exc Payload) :
    Steady (Moves [.command, .mode]) (queryEnd det job prev r) := by
  refine .bind (move_steady (by simp) fun s => .mode s prev s.prevReadOnly) fun _ =>
    .bind (.attempt (.bind (.ofExcept r) fun _ => .bind (addCommand_moves (by simp) rfl) fun _ =>
      .pure _)) fun r => ?_
  split
  · exact .pure _
  · exact moves_mono (queryExcept_moves det job _) (by simp)
  · exact .raise _

theorem startQuery_moves (det : Details σ) (t : FutId) (job : QueryWorkflow) :
    Steady (Moves [.command, .mode, .book]) (startQuery det t job) := by
  refine .read fun s₀ => .bind (move_steady (by simp) fun s =>
    .mode s true (Function.update s.prevReadOnly t s.readOnly)) fun _ => ?_
  split
  · intro s
    exact ended_moves ((queryEnd_moves det job _ _ s).mono (by simp))
  · split
    · intro s
      exact ended_moves ((queryEnd_moves det job _ _ s).mono (by simp))
    · exact .bind (logCall_moves (by simp) _) fun _ => .pure _

theorem workflowSetQueryHandler_moves (name : Option String) (handler : Option HandlerFn) :
    Steady (Moves [.book]) (workflowSetQueryHandler name handler : Wf σ Unit) := by
  refine guard_moves fun s isOpen => ?_
  cases handler with
  | none => exact .of_move (by simp) (.handlers s isOpen _ s.updates)
  | some fn =>
    exact setHandler_moves (by simp) (fun defn s => (s.queries.set name defn, s.updates)) isOpen

/-- `workflow_patch` in an open state: the answer is decided once. -/
theorem workflowPatch_run (id : String) (deprecated : Bool) {s : Inst σ} (isOpen : s.open = true) :
    workflowPatch id deprecated s =
      match s.patchesMemoized id with
      | some value => (.ok value, s.log (.patchCall id deprecated value))
      | none => (.ok (!s.isReplaying || s.patchesNotified id), (s.memoized id deprecated).log
          (.patchCall id deprecated (!s.isReplaying || s.patchesNotified id))) := by
  rw [workflowPatch, bind_ok (guard_run isOpen), state_bind_run]
  cases memo : s.patchesMemoized id with
  | some value => rfl
  | none =>
    cases use : !s.isReplaying || s.patchesNotified id with
    | true =>
      have added := addCommand_open (c := .setPatchMarker id deprecated)
        (s := { s with patchesMemoized := Function.update s.patchesMemoized id (some true) }) isOpen
      simp only [bind_run, update_run, if_true, added, pure_run]
      simp [Inst.memoized, use, Inst.pushCommand]
    | false => simp [bind_run, use, Inst.memoized]

theorem workflowPatch_moves (id : String) (deprecated : Bool) :
    Steady (Moves [.patch]) (workflowPatch id deprecated : Wf σ Bool) := by
  intro s
  cases isOpen : s.open with
  | false =>
    have refused : ∃ e, assertNotReadOnly "patch" false s = (.error e, s) := by
      cases deleting : s.deleting <;> cases readOnly : s.readOnly <;>
        simp_all [assertNotReadOnly_run, Inst.open]
    obtain ⟨e, refused⟩ := refused
    rw [workflowPatch, bind_error refused]
    exact Std.Refl.refl s
  | true =>
    rw [workflowPatch_run id deprecated isOpen]
    cases memo : s.patchesMemoized id with
    | some value => exact .of_move (by simp) (.patchCall s memo deprecated)
    | none =>
      have decided : (s.memoized id deprecated).patchesMemoized id =
          some (!s.isReplaying || s.patchesNotified id) := by simp [Inst.memoized]
      exact Moves.trans (.of_move (by simp) (.memoize s isOpen memo deprecated))
        (.of_move (by simp) (.patchCall _ decided deprecated))

theorem workflowUpsertSearchAttributes_moves (det : Details σ) (attributes : Obj) :
    Steady (Moves [.command]) (workflowUpsertSearchAttributes det attributes) :=
  .bind (addCommand_moves (by simp) rfl) fun _ => raiseError_steady _

/-! ### Steps of a task -/

/-- The moves that the coroutine of task `t` makes itself in its first step. -/
def Root.kinds (t : FutId) : Root → List Kind
  | .workflow _ => [.book]
  | .signal _ _ => [.book, .call, .command, .error]
  | .update job => [.update job.protocolInstanceId, .error, .progress, .book, .mode]
  | .query _ => [.command, .mode, .book]
  | .activity => [.own t, .sleep t]
  | .child => [.own t]
  | .user => []

/-- The moves that it makes when its workflow code has ended. -/
def Root.endKinds : Root → List Kind
  | .workflow _ | .signal _ _ => [.command, .error]
  | .update job => [.update job.protocolInstanceId, .error, .progress]
  | .query _ => [.command, .mode]
  | .activity | .child | .user => []

theorem startCode_moves (det : Details σ) (t : FutId) (root : Root) :
    Steady (Moves (root.kinds t)) (startCode det t root) := by
  cases root with
  | workflow args =>
    exact .bind (move_steady (k := .book) (by simp [Root.kinds]) fun s => .methodCall s) fun _ =>
      .pure _
  | signal job args =>
    refine .bind (.attempt (moves_mono (handleSignal_moves t job args) (by simp [Root.kinds])))
      fun r => ?_
    split
    · exact .pure _
    · intro s
      exact ended_moves ((runTopLevelWorkflowFunction_moves det _ s).mono (by simp [Root.kinds]))
  | update job =>
    refine .bind (.attempt (startUpdate_moves det t job)) fun r => ?_
    split
    · exact .pure _
    · exact .pure _
  | query job => exact startQuery_moves det t job
  | activity =>
    exact .bind (.attempt (activityStart_moves (by simp [Root.kinds]) (by simp [Root.kinds])))
      fun _ => .pure _
  | child => exact .bind (.attempt (childStart_moves (by simp [Root.kinds]))) fun _ => .pure _
  | user => exact .pure _

theorem finishCode_moves (det : Details σ) (t : FutId) (root : Root) (r : Except Exc Obj) :
    Steady (Moves root.endKinds) (finishCode det t root r) := by
  cases root with
  | workflow args =>
    intro s
    exact ended_moves (finishWorkflow_moves det r s)
  | signal job args =>
    intro s
    exact ended_moves (runTopLevelWorkflowFunction_moves det _ s)
  | update job =>
    intro s
    exact ended_moves (finishUpdate_moves det job r s)
  | query job =>
    refine .read fun _ s => ?_
    exact ended_moves (queryEnd_moves det job _ _ s)
  | activity | child | user => exact .pure _

theorem resumeAwait_moves {K : List Kind} {t : FutId} {x : Wf σ (Option Obj)}
    (h : Steady (Moves K) x) : Steady (Moves K) (resumeAwait t x) := by
  refine .bind (.attempt h) fun r => ?_
  split
  · exact .pure _
  · exact .pure _

/-- The moves of the coroutine of `t` in its next step: after the first one it
is the coroutine of an outbound call that resumes. -/
def Task.kinds (t : FutId) (task : Task) : List Kind :=
  if task.point = .start then task.root.kinds t
  else if task.root = .activity then [.own t, .sleep t, .issue, .broken]
  else [.own t]

theorem resume_moves (det : Details σ) (t : FutId) (task : Task) (input : Except Exc Obj) :
    Steady (Moves (task.kinds t)) (resume det t task.root task.point input) := by
  have own (notStart : task.point ≠ .start) : Kind.own t ∈ task.kinds t := by
    rw [Task.kinds, if_neg notStart]
    split <;> simp
  have calls (notStart : task.point ≠ .start) (isActivity : task.root = .activity) :
      Kind.sleep t ∈ task.kinds t ∧ Kind.issue ∈ task.kinds t ∧ Kind.broken ∈ task.kinds t := by
    rw [Task.kinds, if_neg notStart, if_pos isActivity]
    simp
  unfold resume
  split
  next start =>
    split
    · exact .pure _
    · rw [Task.kinds, if_pos start]
      exact startCode_moves det t _
  next point isActivity =>
    have notStart : task.point ≠ .start := by rw [point]; simp
    exact .bind (.attempt (activityWake_moves (own notStart) (calls notStart isActivity).1 _))
      fun _ => .pure _
  next point isActivity =>
    have notStart : task.point ≠ .start := by rw [point]; simp
    obtain ⟨sleep, issue, broken⟩ := calls notStart isActivity
    exact .bind (.attempt (activitySleepWake_moves det (own notStart) sleep issue broken _ _ _))
      fun _ => .pure _
  next point isActivity =>
    have notStart : task.point ≠ .start := by rw [point]; simp
    obtain ⟨sleep, issue, broken⟩ := calls notStart isActivity
    exact .bind (.attempt (activitySleepZeroWake_moves det (own notStart) sleep issue broken _ _))
      fun _ => .pure _
  next point _ =>
    have notStart : task.point ≠ .start := by rw [point]; simp
    exact .bind (.attempt (childWake_moves (own notStart) _)) fun _ => .pure _
  · exact .pure _
  · exact .pure _
  · exact .pure _
  · exact .pure _
  · exact resumeAwait_moves (signalExternalWake_moves (own (by simp_all)) _ _ _)
  · exact resumeAwait_moves (startChildWake_moves (own (by simp_all)) _ _)
  · exact .pure _

theorem finishTask_moves {s : Inst σ} {t : FutId} {task : Task} (isTask : s.tasks t = some task)
    (pending : s.isDone t = false) (outcome : Except Exc Obj) :
    Moves [.finish t, .own t] s (finishTask t outcome s).2 := by
  obtain ⟨s₁, new, cleared, done, ended⟩ := finishTask_state isTask outcome
  rw [ended]
  rcases cleared with rfl | rfl
  · exact .of_move (by simp) (.finish _ isTask pending done)
  · have cleared : Moves [.finish t, .own t] s (s.setTask t { task with mustCancel := false }) :=
      .of_atom (k := .own t) (by simp) (.clearCancel s isTask)
    have isTask' : (s.setTask t { task with mustCancel := false }).tasks t =
        some { task with mustCancel := false } := Function.update_self ..
    exact cleared.trans (.of_move (k := .finish t) (by simp) (.finish _ isTask' pending done))

theorem stepNext_moves {s : Inst σ} {t : FutId} {task : Task} (isTask : s.tasks t = some task)
    (pending : s.isDone t = false) (next : Next) :
    Moves [.finish t, .own t] s (stepNext t next s).2 := by
  cases next with
  | code ctx => exact Steady.pure _ s
  | done r =>
    refine bind_steady_at ?_ fun _ s₁ _ => Steady.pure _ s₁
    cases r with
    | error e => exact finishTask_moves isTask pending _
    | ok v =>
      cases v with
      | none => exact afterSuspend_moves (by simp) s
      | some v => exact finishTask_moves isTask pending _

/-- A step of an SDK coroutine followed by the end of `Task.__step`. -/
theorem stepBody_moves {K : List Kind} {s : Inst σ} {t : FutId} (notFinish : Kind.finish t ∉ K)
    {task : Task} (wf : s.WellFormed) (isTask : s.tasks t = some task)
    (pending : s.isDone t = false) {x : Wf σ Next} (h : Moves K s (x s).2) :
    Moves (.finish t :: .own t :: K) s ((x >>= stepNext t) s).2 := by
  refine bind_steady_at (h.mono (by simp)) fun next s₁ run => ?_
  rw [run] at h
  obtain ⟨⟨task', isTask', -⟩, done⟩ := h.alive wf notFinish isTask
  exact (stepNext_moves isTask' (done.trans pending) next).mono (by simp)

/-- What the coroutine of task `t` can do at all. -/
def Kind.ofTask (t : FutId) : Kind → Bool
  | .own t' | .sleep t' => t' = t
  | .issue | .broken | .book | .call | .command | .error | .update _ | .progress | .mode => true
  | _ => false

theorem Root.kinds_ofTask (root : Root) (t : FutId) : ∀ k ∈ root.kinds t, k.ofTask t = true := by
  cases root <;> simp [kinds, Kind.ofTask]

theorem Root.finish_not_mem_endKinds (root : Root) (t : FutId) : Kind.finish t ∉ root.endKinds := by
  cases root <;> simp [endKinds]

theorem Root.endKinds_ofTask (root : Root) (t : FutId) : ∀ k ∈ root.endKinds, k.ofTask t = true := by
  cases root <;> simp [endKinds, Kind.ofTask]

theorem Task.kinds_ofTask (task : Task) (t : FutId) : ∀ k ∈ task.kinds t, k.ofTask t = true := by
  unfold kinds
  split
  · exact task.root.kinds_ofTask t
  · split <;> simp [Kind.ofTask]

/-- The moves of the coroutine of `t` in the next step of the task. -/
def Inst.rootKinds (s : Inst σ) (t : FutId) : List Kind :=
  match s.tasks t with
  | some task => task.kinds t
  | none => []

theorem Inst.rootKinds_ofTask (s : Inst σ) (t : FutId) : ∀ k ∈ s.rootKinds t, k.ofTask t = true := by
  unfold rootKinds
  split
  next task _ => exact task.kinds_ofTask t
  · simp

theorem stepTask_moves (det : Details σ) (t : FutId) (input : Except Exc Obj) (s : Inst σ) :
    Moves (.wake t :: .finish t :: .own t :: s.rootKinds t) s (stepTask det t input s).2 := by
  intro wf
  simp only [stepTask, state_bind_run, Inst.rootKinds]
  cases isTask : s.tasks t with
  | none => exact .refl
  | some task =>
    cases done : s.isDone t with
    | true => exact .refl
    | false =>
      have woken : Move (.wake t) s
          (s.setTask t { task with mustCancel := false, point := .running }) :=
        .wake s isTask done
      have isTask' : (s.setTask t { task with mustCancel := false, point := .running }).tasks t =
          some { task with mustCancel := false, point := .running } := by simp [Inst.setTask]
      refine (Relation.ReflTransGen.single (.inr ⟨.wake t, by simp, woken⟩)).trans ?_
      have notFinish : Kind.finish t ∉ task.kinds t := fun member => by
        cases task.kinds_ofTask t _ member
      exact (stepBody_moves notFinish (woken.wellFormed wf) isTask' done
        (resume_moves det t task _ _)).mono (by simp) (woken.wellFormed wf)

/-! ### Handles -/

/-- The kinds of moves that running a handle makes. -/
def Inst.handleKinds (s : Inst σ) : Handle → List Kind
  | .taskStep t => .wake t :: .finish t :: .own t :: s.rootKinds t
  | .callback (.wakeup t) _ => .wake t :: .finish t :: .own t :: s.rootKinds t
  | .outerWakeup o =>
    .wake (s.outers o).owner :: .finish (s.outers o).owner :: .own (s.outers o).owner ::
      s.rootKinds (s.outers o).owner
  | .shieldInner _ | .shieldOuter _ | .timer _ => [.deliver]
  | _ => []

/-- What running a handle can do at all. -/
def Kind.ofHandle : Kind → Bool
  | .wake _ | .finish _ | .own _ | .sleep _ | .deliver => true
  | k => k.ofTask 0

theorem Kind.ofTask_ofHandle {t : FutId} {k : Kind} (h : k.ofTask t = true) : k.ofHandle = true := by
  cases k <;> first | rfl | exact h

theorem Inst.handleKinds_ofHandle (s : Inst σ) (h : Handle) :
    ∀ k ∈ s.handleKinds h, k.ofHandle = true := by
  have tasks (t : FutId) :
      ∀ k ∈ Kind.wake t :: .finish t :: .own t :: s.rootKinds t, k.ofHandle = true := by
    intro k member
    simp only [List.mem_cons] at member
    rcases member with rfl | rfl | rfl | member
    · rfl
    · rfl
    · rfl
    · exact Kind.ofTask_ofHandle (s.rootKinds_ofTask t k member)
  cases h with
  | taskStep t => exact tasks t
  | callback cb f =>
    cases cb with
    | wakeup t => exact tasks t
    | _ => simp [handleKinds]
  | outerWakeup o => exact tasks _
  | _ => simp [handleKinds, Kind.ofHandle]

/-- The handle steps task `t`. -/
def Inst.steps (s : Inst σ) (h : Handle) (t : FutId) : Prop :=
  h = .taskStep t ∨ (∃ f, h = .callback (.wakeup t) f) ∨ ∃ o, h = .outerWakeup o ∧ (s.outers o).owner = t

theorem handleRun_steps (det : Details σ) {s : Inst σ} {h : Handle} {t : FutId}
    (steps : s.steps h t) : ∃ input, handleCallback det h s = stepTask det t input s := by
  rcases steps with rfl | ⟨f, rfl⟩ | ⟨o, rfl, owner⟩
  · exact ⟨_, rfl⟩
  · exact ⟨_, rfl⟩
  · exact ⟨_, by simp only [handleCallback, state_bind_run, owner]; rfl⟩

theorem Inst.steps.stays {s : Inst σ} {h : Handle} {t : FutId} (steps : s.steps h t) :
    h.removes = false := by
  rcases steps with rfl | ⟨f, rfl⟩ | ⟨o, rfl, -⟩ <;> rfl

/-- A handle passes an outcome on or steps a task. -/
theorem Inst.handleKinds_steps {s : Inst σ} {h : Handle} {k : Kind} (member : k ∈ s.handleKinds h) :
    k = .deliver ∨ ∃ t, s.steps h t ∧ k ∈ .wake t :: .finish t :: .own t :: s.rootKinds t := by
  cases h with
  | taskStep t => exact .inr ⟨t, .inl rfl, member⟩
  | callback cb f =>
    cases cb with
    | wakeup t => exact .inr ⟨t, .inr (.inl ⟨f, rfl⟩), member⟩
    | _ => cases member
  | outerWakeup o => exact .inr ⟨_, .inr (.inr ⟨o, rfl, rfl⟩), member⟩
  | shieldInner o | shieldOuter o | timer seq => exact .inl (by simpa [handleKinds] using member)
  | cancelPrimaryTask t => cases member
  | user id => cases member

/-- Handles that only remove an entry are taken together with the entry. -/
theorem handleCallback_moves (det : Details σ) {h : Handle} (stays : h.removes = false)
    (s : Inst σ) : Moves (s.handleKinds h) s (handleCallback det h s).2 := by
  simp only [handleCallback, state_bind_run]
  cases h with
  | taskStep t => exact stepTask_moves det t _ s
  | callback cb f =>
    cases cb with
    | wakeup t => exact stepTask_moves det t _ s
    | tasksRemove => cases stays
    | signalDone id => cases stays
    | user => exact Steady.pure _ s
  | outerWakeup o => exact stepTask_moves det _ _ s
  | shieldInner o =>
    exact Steady.bind (shieldInnerDone_moves (by simp [Inst.handleKinds]) o) (fun _ => .pure _) s
  | shieldOuter o =>
    exact Steady.bind (shieldOuterDone_moves (by simp [Inst.handleKinds]) o) (fun _ => .pure _) s
  | timer seq =>
    dsimp only
    split
    · exact Steady.raise _ s
    · cases ofSleep : (s.timers seq).callback with
      | user => exact Steady.pure _ s
      | sleep o =>
        dsimp only
        cases pending : (s.outers o).state with
        | pending =>
          refine bind_steady_at ?_ fun _ s₁ _ => Steady.pure _ s₁
          rw [settleOuter_state]
          exact .of_atom (k := .deliver) (by simp [Inst.handleKinds]) (.slept s pending ofSleep)
        | done outcome => exact Steady.pure _ s
        | cancelled => exact Steady.pure _ s
  | cancelPrimaryTask t => exact Steady.bind (cancelFut_moves t) (fun _ => .pure _) s
  | user id =>
    dsimp only
    split
    · exact Steady.raise _ s
    · exact Steady.pure _ s

theorem callExceptionHandler_moves {K : List Kind} (member : Kind.book ∈ K) :
    Steady (Moves K) (callExceptionHandler : Wf σ Unit) := by
  intro s
  simp only [callExceptionHandler, update_run]
  split
  · exact Std.Refl.refl s
  next alive => exact .of_move member (.exceptionHandler s (by simpa using alive))

theorem handleRun_of_callback {K : List Kind} (det : Details σ) {h : Handle} {s : Inst σ}
    (book : Kind.book ∈ K) (called : Moves K s (handleCallback det h s).2) :
    Moves K s (handleRun det h s).2 := by
  refine bind_steady_at called fun r s₁ _ => ?_
  cases r with
  | ok ctx => exact Steady.pure _ s₁
  | error e =>
    dsimp only
    split
    · exact Steady.raise _ s₁
    · exact Steady.bind (callExceptionHandler_moves book) (fun _ => .pure _) s₁

theorem handleRun_moves (det : Details σ) {h : Handle} (stays : h.removes = false) (s : Inst σ) :
    Moves (.book :: s.handleKinds h) s (handleRun det h s).2 :=
  handleRun_of_callback det (by simp) ((handleCallback_moves det stays s).mono (by simp))

theorem handleRun_ok {det : Details σ} {h : Handle} {s s' : Inst σ} {ctx : Option Ctx}
    (called : handleCallback det h s = (.ok ctx, s')) : handleRun det h s = (.ok ctx, s') := by
  rw [handleRun, bind_run, attempt_run, called]
  rfl

theorem handleRun_error {det : Details σ} {h : Handle} {s s' : Inst σ} {e : Exc}
    (called : handleCallback det h s = (.error e, s')) :
    handleRun det h s =
      if e.exits then (.error e, s') else (.ok none, (callExceptionHandler s').2) := by
  rw [handleRun, bind_run, attempt_run, called]
  dsimp only
  split <;> rfl

theorem handleRun_code {det : Details σ} {h : Handle} {s s' : Inst σ} {ctx : Ctx}
    (run : handleRun det h s = (.ok (some ctx), s')) :
    handleCallback det h s = (.ok (some ctx), s') := by
  cases called : handleCallback det h s with
  | mk r s₁ =>
    cases r with
    | ok ctx' => rw [← run, handleRun_ok called]
    | error e =>
      rw [handleRun_error called] at run
      split at run <;> simp at run

/-- Taking a handle from the queue and running it. -/
theorem popHandle_moves (det : Details σ) {s : Inst σ} {h : Handle} {rest : List Handle}
    (ready : s.ready = h :: rest) :
    Moves (.pop :: .book :: s.handleKinds h) s (handleRun det h (s.setReady rest)).2 := by
  cases removes : h.removes with
  | false =>
    have popped : Moves (.pop :: .book :: s.handleKinds h) s (s.setReady rest) :=
      .of_move (k := .pop) (by simp) (.pop s ready removes)
    -- the kinds of a handle do not depend on the queue it is taken from
    have same : (s.setReady rest).handleKinds h = s.handleKinds h := rfl
    refine popped.trans ((handleRun_moves det removes (s.setReady rest)).mono ?_)
    rw [same]
    exact List.subset_cons_self _ _
  | true =>
    cases h with
    | callback cb f =>
      cases cb with
      | tasksRemove => exact .of_move (k := .pop) (by simp) (.tasksRemove s ready)
      | signalDone id => exact .of_move (k := .pop) (by simp) (.signalDone s ready)
      | _ => cases removes
    | _ => cases removes

/-! ### Jobs -/

def Job.kinds : Job → List Kind
  | .signalWorkflow _ => [.signal]
  | .doUpdate _ | .queryWorkflow _ => [.spawn]
  | .startWorkflow _ => [.spawn, .book]
  | .removeFromCache => [.evict]
  | .cancelWorkflow | .updateRandomSeed _ => [.book]
  | .notifyHasPatch _ => [.patch]
  | .unrecognized => []
  | _ => [.resolve]

theorem applyFireTimer_moves {K : List Kind} (resolve : Kind.resolve ∈ K) (seq : Nat) :
    Steady (Moves K) (applyFireTimer seq : Wf σ Unit) := by
  intro s
  simp only [applyFireTimer, state_bind_run]
  split
  next pending => exact .of_atom (by simp [resolve]) (.fire s pending)
  · exact Std.Refl.refl s

theorem applyJob_moves (det : Details σ) (job : Job) :
    Steady (Moves job.kinds) (applyJob det job) := by
  cases job with
  | cancelWorkflow =>
    refine .bind (move_steady (k := .book) (by simp [Job.kinds]) fun s =>
      .book s s.primaryTask _ s.randomSeed) fun _ => .read fun s => ?_
    split
    · exact callSoon_moves (k := .loop) (by simp) fun s writable => .push s writable rfl
    · exact .pure _
  | doUpdate job =>
    exact .bind (createTask_moves (by simp [Job.kinds]) rfl (by simp)) fun _ => .pure _
  | fireTimer seq => exact applyFireTimer_moves (by simp [Job.kinds]) seq
  | queryWorkflow job =>
    exact .bind (createTask_moves (by simp [Job.kinds]) rfl (by simp)) fun _ => .pure _
  | notifyHasPatch id =>
    exact move_steady (k := .patch) (by simp [Job.kinds]) fun s => .notified s id
  | removeFromCache =>
    exact .bind (move_steady (k := .evict) (by simp [Job.kinds]) fun s => .evict s) fun _ =>
      .read fun _ => .forM (fun _ => .bind (cancelFut_moves _) fun _ => .pure _) _
  | resolveActivity seq result => exact applyResolveActivity_moves (by simp [Job.kinds]) det seq result
  | resolveChildWorkflowExecution seq result =>
    exact applyResolveChildWorkflowExecution_moves (by simp [Job.kinds]) det seq result
  | resolveChildWorkflowExecutionStart seq status =>
    exact applyResolveChildWorkflowExecutionStart_moves (by simp [Job.kinds]) det seq status
  | resolveRequestCancelExternalWorkflow seq failure =>
    exact applyResolveRequestCancelExternalWorkflow_moves (by simp [Job.kinds]) det seq failure
  | resolveSignalExternalWorkflow seq failure =>
    exact applyResolveSignalExternalWorkflow_moves (by simp [Job.kinds]) det seq failure
  | signalWorkflow job =>
    refine .read fun s => ?_
    split
    · exact move_steady (k := .signal) (by simp [Job.kinds]) fun s => .buffered s _
    · exact processSignalJob_moves det _ job
  | startWorkflow arguments =>
    exact .bind (raiseError_steady _) fun _ =>
      .bind (createTask_moves (by simp [Job.kinds]) rfl (by simp)) fun _ =>
        move_steady (k := .book) (by simp [Job.kinds]) fun s =>
          .book s _ s.cancelRequested s.randomSeed
  | updateRandomSeed seed =>
    exact move_steady (k := .book) (by simp [Job.kinds]) fun s =>
      .book s s.primaryTask s.cancelRequested _
  | unrecognized => exact .raise _

/-! ### Calls of workflow code -/

/-- The moves of a call of workflow code, made by task `t`. -/
def Act.kinds (det : Details σ) (t : FutId) : Act σ → List Kind
  | .write _ => [.mem]
  | .createTask => [.create]
  | .newTask => [.bare]
  | .callLater delay => .timer :: if timerHolds delay then [] else [.refused]
  | .cancelTimer _ => [.timer]
  | .startActivity _ => [.issue, .broken]
  | .registerCondition _ => [.condition]
  | .setSignalHandler _ _ => [.signal]
  | .cancelHandle _ | .setQueryHandler _ _ | .setUpdateHandler _ _ _ => [.book]
  | .patch _ _ => [.patch]
  | .upsertSearchAttributes _ => [.command]
  | .await _ | .bareYield => [.own t]
  | .waitCondition _ => [.own t, .condition]
  | .startChildWorkflow input =>
    .own t :: .issue :: if input.valid det then [] else [.broken]
  | .signalExternalWorkflow _ _ | .cancelExternalWorkflow => [.own t, .issue]
  | _ => []

/-- What calls of workflow code can do at all. -/
theorem Act.kinds_subset (a : Act σ) (det : Details σ) (t : FutId) :
    a.kinds det t ⊆
      [.own t, .create, .bare, .timer, .refused, .issue, .broken, .mem, .condition, .signal, .book,
        .patch, .command] := by
  cases a with
  | startChildWorkflow _ | callLater _ =>
    simp only [kinds]
    split <;> simp
  | _ => simp [kinds]

theorem addCondition_moves {K : List Kind} (member : Kind.condition ∈ K) (fn : Cond σ) :
    Steady (Moves K) (addCondition fn : Wf σ FutId) :=
  guard_moves fun s isOpen => .of_move member (.condition s isOpen fn)

theorem performCall_moves (det : Details σ) (t : FutId) (a : Act σ) {s : Inst σ}
    (enabled : a.enabled s = true) : Moves (a.kinds det t) s (performCall det a s).2 := by
  have drop {α : Type} {K : List Kind} {x : Wf σ α} (h : Steady (Moves K) x) :
      Moves K s ((do let _ ← x; pure ()) s).2 :=
    Steady.bind h (fun _ => .pure _) s
  cases a with
  | write f => exact .of_move (by simp [Act.kinds]) (.write s _)
  | startActivity input =>
    exact drop (workflowStartActivity_moves (by simp [Act.kinds]) (by simp [Act.kinds]) det input)
  | createFuture role => exact drop (createFuture_moves enabled)
  | setResult f v =>
    simp only [Act.enabled, Bool.and_eq_true] at enabled
    exact setOutcome_moves rfl enabled.2
  | setException f e =>
    simp only [Act.enabled, Bool.and_eq_true] at enabled
    exact setOutcome_moves rfl enabled.2
  | cancel f => exact drop (cancelFut_moves f)
  | addDoneCallback f => exact addDoneCallback_moves f rfl s
  | callSoon => exact drop callSoonUser_moves
  | callLater delay =>
    exact drop (callLater_moves (by simp [Act.kinds]) fun holds => by simp [Act.kinds, holds])
  | cancelHandle id => exact .of_move (by simp [Act.kinds]) (.cancelHandle s id)
  | cancelTimer seq =>
    simp only [Act.enabled, decide_eq_true_eq] at enabled
    exact timerCancel_moves (k := .timer) (by simp [Act.kinds]) (.inr ⟨rfl, enabled⟩)
  | createTask => exact drop (createUserTask_moves (by simp [Act.kinds]))
  | newTask => exact drop (newUserTask_moves (by simp [Act.kinds]))
  | registerCondition fn => exact drop (addCondition_moves (by simp [Act.kinds]) fn)
  | setSignalHandler name handler => exact workflowSetSignalHandler_moves det name handler s
  | setQueryHandler name handler => exact workflowSetQueryHandler_moves name handler s
  | setUpdateHandler name handler validator =>
    exact workflowSetUpdateHandler_moves name handler validator s
  | patch id deprecated => exact drop (workflowPatch_moves id deprecated)
  | upsertSearchAttributes attributes => exact workflowUpsertSearchAttributes_moves det attributes s
  | await | bareYield | waitCondition | startChildWorkflow | signalExternalWorkflow
  | cancelExternalWorkflow | ret | raise => exact Steady.pure _ s

theorem performAwait_moves (det : Details σ) (t : FutId) {a : Act σ} {call : Wf σ (Option Obj)}
    (h : performAwait det t a = some call) : Steady (Moves (a.kinds det t)) call := by
  cases a with
  | await f =>
    simp only [performAwait, Option.some.injEq] at h
    subst h
    refine .read fun s => ?_
    split
    · exact .raise _
    · split
      · exact .ofExcept _
      · exact .bind (suspendOn_moves (by simp [Act.kinds]) (by simp) (by simp [Point.waiter]) f) fun _ => .pure _
  | bareYield =>
    simp only [performAwait, Option.some.injEq] at h
    subst h
    exact .bind (setPoint_steady (by simp [Act.kinds]) (by simp) (by simp [Point.waiter])) fun _ => .pure _
  | waitCondition fn =>
    simp only [performAwait, Option.some.injEq] at h
    subst h
    exact .bind (addCondition_moves (by simp [Act.kinds]) fn) fun f =>
      .bind (suspendOn_moves (by simp [Act.kinds]) (by simp) (by simp [Point.waiter]) f) fun _ => .pure _
  | startChildWorkflow input =>
    simp only [performAwait, Option.some.injEq] at h
    subst h
    exact outboundStartChildWorkflow_moves det (by simp [Act.kinds]) (by simp [Act.kinds]) input
      fun invalid => by simp [Act.kinds, invalid]
  | signalExternalWorkflow ofChild args =>
    simp only [performAwait, Option.some.injEq] at h
    subst h
    exact signalExternalWorkflow_moves det (by simp [Act.kinds]) (by simp [Act.kinds]) ofChild args
  | cancelExternalWorkflow =>
    simp only [performAwait, Option.some.injEq] at h
    subst h
    exact cancelExternalWorkflow_moves (by simp [Act.kinds]) (by simp [Act.kinds])
  | _ => simp [performAwait] at h

/-! ### The check of the wait conditions -/

theorem checkConditionList_moves (conditions : List (Cond σ × FutId)) (s : Inst σ)
    (sub : conditions ⊆ s.conditions) :
    Moves [.check] s (checkConditionList conditions s).2 ∧
      (checkConditionList conditions s).2.conditions = s.conditions ∧
      ∀ kept s', checkConditionList conditions s = (.ok kept, s') → kept.Sublist conditions := by
  induction conditions generalizing s with
  | nil =>
    refine ⟨Std.Refl.refl s, rfl, fun kept s' run => ?_⟩
    simp only [checkConditionList, pure_run, Prod.mk.injEq, Except.ok.injEq] at run
    rw [← run.1]
  | cons entry rest ih =>
    obtain ⟨fn, f⟩ := entry
    have member : (fn, f) ∈ s.conditions := sub (by simp)
    have subRest : rest ⊆ s.conditions := fun _ h => sub (by simp [h])
    simp only [checkConditionList, state_bind_run]
    cases done : s.isDone f with
    | true =>
      obtain ⟨moves, same, kept⟩ := ih s subRest
      exact ⟨moves, same, fun k s' run => (kept k s' run).cons _⟩
    | false =>
      simp only [Bool.false_eq_true, if_false]
      cases holds : fn s.view with
      | error e => exact ⟨Std.Refl.refl s, rfl, fun _ _ run => by simp at run⟩
      | ok value =>
        cases value with
        | false =>
          obtain ⟨moves, same, kept⟩ := ih s subRest
          simp only [bind_run]
          cases run : checkConditionList rest s with
          | mk r s₁ =>
            rw [run] at moves same
            cases r with
            | error e => exact ⟨moves, same, fun _ _ run' => by simp at run'⟩
            | ok k =>
              refine ⟨moves, same, fun k' s' run' => ?_⟩
              simp only [pure_run, Prod.mk.injEq, Except.ok.injEq] at run'
              rw [← run'.1]
              exact (kept k s₁ run).cons_cons _
        | true =>
          have notDone : (s.log (.conditionResolved f)).isDone f = false := done
          have met := Moves.of_move (K := [.check]) (by simp) (Move.met s member done holds)
          dsimp only
          rw [update_bind_run, bind_run, setOutcome_pending notDone]
          obtain ⟨moves, same, kept⟩ :=
            ih ((s.log (.conditionResolved f)).settled f (.result 1)) subRest
          split
          next _ s₁ run =>
            rw [Prod.mk.injEq] at run
            obtain ⟨-, rfl⟩ := run
            exact ⟨IsTrans.trans _ _ _ met moves, same,
              fun k s' run => (kept k s' run).cons _⟩
          next _ s₁ run =>
            rw [Prod.mk.injEq] at run
            obtain ⟨-, rfl⟩ := run
            exact ⟨met, rfl, fun _ _ run => by simp at run⟩

theorem checkConditions_moves : Steady (Moves [.check]) (checkConditions : Wf σ Unit) := by
  intro s
  obtain ⟨moves, same, kept⟩ := checkConditionList_moves s.conditions s (List.Subset.refl _)
  simp only [checkConditions, state_bind_run]
  refine bind_steady_at moves fun k s₁ run => .of_move (k := .check) (by simp) (.kept s₁ ?_)
  rw [run] at same
  rw [same]
  exact kept k s₁ run

end TemporalSdk.Workflow
