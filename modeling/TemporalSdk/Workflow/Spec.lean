import TemporalSdk.Workflow.Machine

/-!
# What the operations of the loop compute

Closed forms of the operations in `Loop`: the way each of them ends and the
state it leaves behind. Later modules reason with these equations and do not
unfold the operations again.
-/
namespace TemporalSdk.Workflow

open Eff

variable {σ : Type}

/-! ### The guards look at two flags only -/

@[simp] theorem Inst.setFut_readOnly (s : Inst σ) (f : FutId) (fut : Fut) :
    (s.setFut f fut).readOnly = s.readOnly := rfl

@[simp] theorem Inst.setPromise_readOnly (s : Inst σ) (p : PromiseId) (promise : Promise) :
    (s.setPromise p promise).readOnly = s.readOnly := rfl

@[simp] theorem Inst.setOuter_readOnly (s : Inst σ) (o : OuterId) (outer : Outer) :
    (s.setOuter o outer).readOnly = s.readOnly := rfl

@[simp] theorem Inst.pushReady_readOnly (s : Inst σ) (h : Handle) :
    (s.pushReady h).readOnly = s.readOnly := rfl

/-! ### Guards -/

theorem assertNotReadOnly_run (action : String) (allow : Bool) (s : Inst σ) :
    assertNotReadOnly action allow s =
      (if s.deleting && !allow then .error .workflowBeingEvicted
        else if s.readOnly then .error (.error (.readOnlyContext action)) else .ok (), s) := by
  simp only [assertNotReadOnly, state_bind_run]
  split
  · rfl
  · split <;> rfl

/-- Commands can be added: not in a read-only context and not during eviction. -/
def Inst.open (s : Inst σ) : Bool := !s.deleting && !s.readOnly

theorem addCommand_run (c : Command) (s : Inst σ) :
    addCommand c s =
      if s.open then (.ok s.commands.length, s.pushCommand c)
      else ((assertNotReadOnly "add command" false s).1.map fun _ => 0, s) := by
  cases deleting : s.deleting <;> cases readOnly : s.readOnly <;>
    simp [addCommand, bind_run, assertNotReadOnly_run, Inst.open, deleting, readOnly, Except.map]

theorem addCommand_open {c : Command} {s : Inst σ} (h : s.open = true) :
    addCommand c s = (.ok s.commands.length, s.pushCommand c) := by
  rw [addCommand_run, if_pos h]

theorem addCommand_ok {c : Command} {s s' : Inst σ} {i : Nat}
    (h : addCommand c s = (.ok i, s')) :
    s.open = true ∧ i = s.commands.length ∧ s' = s.pushCommand c := by
  rw [addCommand_run] at h
  split at h
  next isOpen =>
    simp only [Prod.mk.injEq, Except.ok.injEq] at h
    exact ⟨isOpen, h.1.symm, h.2.symm⟩
  next closed =>
    cases deleting : s.deleting <;> cases readOnly : s.readOnly <;>
      simp_all [assertNotReadOnly_run, Inst.open, Except.map]

theorem callSoon_run (h : Handle) (s : Inst σ) :
    callSoon h s =
      if s.readOnly then (.error (.error (.readOnlyContext "schedule task")), s)
      else (.ok (), s.pushReady h) := by
  cases readOnly : s.readOnly <;> simp [callSoon, bind_run, assertNotReadOnly_run, readOnly]

/-! ### Completing futures

The callbacks of a future go to `call_soon`, so in a read-only context none of
them is scheduled. -/

/-- Put handles at the end of the ready queue. -/
def Inst.pushAll (s : Inst σ) (hs : List Handle) : Inst σ := { s with ready := s.ready ++ hs }

@[simp] theorem Inst.pushAll_readOnly (s : Inst σ) (hs : List Handle) :
    (s.pushAll hs).readOnly = s.readOnly := rfl

theorem Inst.pushAll_nil (s : Inst σ) : s.pushAll [] = s := by
  simp [pushAll]

theorem Inst.pushReady_eq (s : Inst σ) (h : Handle) : s.pushReady h = s.pushAll [h] := rfl

theorem Inst.pushAll_pushAll (s : Inst σ) (hs hs' : List Handle) :
    (s.pushAll hs).pushAll hs' = s.pushAll (hs ++ hs') := by
  simp [pushAll]

/-- The state after a future has been completed. -/
def Inst.settled (s : Inst σ) (f : FutId) (new : FutState) : Inst σ :=
  (s.setFut f { s.futs f with state := new, callbacks := [] }).pushAll
    (if s.readOnly then [] else (s.futs f).callbacks.map fun cb => .callback cb f)

theorem scheduleCallbacks_run (f : FutId) (cbs : List Callback) (s : Inst σ) :
    scheduleCallbacks f cbs s =
      if s.readOnly then
        (if cbs.isEmpty then .ok () else .error (.error (.readOnlyContext "schedule task")), s)
      else (.ok (), s.pushAll (cbs.map fun cb => .callback cb f)) := by
  induction cbs generalizing s with
  | nil => cases readOnly : s.readOnly <;> simp [scheduleCallbacks, Inst.pushAll_nil]
  | cons cb cbs ih =>
    cases readOnly : s.readOnly <;>
      simp [scheduleCallbacks, bind_run, callSoon_run, readOnly, ih, Inst.pushReady_eq,
        Inst.pushAll_pushAll]

theorem settle_run (f : FutId) (new : FutState) (s : Inst σ) :
    settle f new s =
      (if s.readOnly && !(s.futs f).callbacks.isEmpty
        then .error (.error (.readOnlyContext "schedule task")) else .ok (),
       s.settled f new) := by
  cases readOnly : s.readOnly <;> cases callbacks : (s.futs f).callbacks <;>
    simp [settle, scheduleCallbacks_run, Inst.settled, readOnly, callbacks, Inst.pushAll_nil]

theorem settle_state (f : FutId) (new : FutState) (s : Inst σ) :
    (settle f new s).2 = s.settled f new := by
  rw [settle_run]

theorem finishTask_error (t : FutId) (e : Exc) (s : Inst σ) : ∃ new : FutState,
    new.done = true ∧ (finishTask t (.error e) s).2 = s.settled t new := by
  -- what comes after the settling changes nothing
  have kept : ((do settle t (.exception e); if e.exits then raise e else pure () : Wf σ Unit)
      s).2 = s.settled t (.exception e) := by
    rw [bind_run, settle_run]
    cases s.readOnly && !(s.futs t).callbacks.isEmpty <;> cases e.exits <;> rfl
  cases e with
  | cancelled => exact ⟨.cancelled, rfl, settle_state t _ s⟩
  | _ =>
    refine ⟨_, ?_, kept⟩
    rfl

/-- A coroutine that has ended settles its task, after a cancellation that arrived
during its last step has been taken. -/
theorem finishTask_state {s : Inst σ} {t : FutId} {task : Task} (isTask : s.tasks t = some task)
    (outcome : Except Exc Obj) : ∃ s₁ new,
      (s₁ = s ∨ s₁ = s.setTask t { task with mustCancel := false }) ∧ new.done = true ∧
        (finishTask t outcome s).2 = s₁.settled t new := by
  cases outcome with
  | ok v =>
    simp only [finishTask, state_bind_run, isTask]
    split
    · rw [update_bind_run, settle_state, Inst.mapTask, isTask]
      exact ⟨_, _, .inr rfl, rfl, rfl⟩
    · exact ⟨s, _, .inl rfl, rfl, settle_state t _ s⟩
  | error e =>
    obtain ⟨new, done, ended⟩ := finishTask_error t e s
    exact ⟨s, new, .inl rfl, done, ended⟩

theorem setOutcome_pending {f : FutId} {s : Inst σ} (pending : s.isDone f = false)
    (new : FutState) :
    setOutcome f new s =
      (if s.readOnly && !(s.futs f).callbacks.isEmpty
        then .error (.error (.readOnlyContext "schedule task")) else .ok (),
       s.settled f new) := by
  simp [setOutcome, pending, settle_run]

/-- The state after a promise has been completed. -/
def Inst.fulfilled (s : Inst σ) (p : PromiseId) (outcome : PromiseOutcome) : Inst σ :=
  (s.setPromise p ⟨some outcome, []⟩).pushAll
    (if s.readOnly then [] else (s.promises p).shields.map .shieldInner)

theorem scheduleShields_run (os : List OuterId) (s : Inst σ) :
    scheduleShields os s =
      if s.readOnly then
        (if os.isEmpty then .ok () else .error (.error (.readOnlyContext "schedule task")), s)
      else (.ok (), s.pushAll (os.map .shieldInner)) := by
  induction os generalizing s with
  | nil => cases readOnly : s.readOnly <;> simp [scheduleShields, Inst.pushAll_nil]
  | cons o os ih =>
    cases readOnly : s.readOnly <;>
      simp [scheduleShields, bind_run, callSoon_run, readOnly, ih, Inst.pushReady_eq,
        Inst.pushAll_pushAll]

theorem setPromiseOutcome_run (p : PromiseId) (outcome : PromiseOutcome) (s : Inst σ) :
    setPromiseOutcome p outcome s =
      if (s.promises p).state.isSome then (.error (.error .invalidState), s)
      else
        (if s.readOnly && !(s.promises p).shields.isEmpty
          then .error (.error (.readOnlyContext "schedule task")) else .ok (),
         s.fulfilled p outcome) := by
  cases state : (s.promises p).state <;> cases readOnly : s.readOnly <;>
    cases shields : (s.promises p).shields <;>
    simp [setPromiseOutcome, scheduleShields_run, Inst.fulfilled, state, readOnly, shields,
      Inst.pushAll_nil]

/-- The state after an outer future has been completed. -/
def Inst.outerSettled (s : Inst σ) (o : OuterId) (new : OuterState) : Inst σ :=
  (s.setOuter o { s.outers o with state := new }).pushAll
    (if s.readOnly then []
      else if (s.outers o).source.isSome then [.shieldOuter o, .outerWakeup o]
      else [.outerWakeup o])

theorem settleOuter_run (o : OuterId) (new : OuterState) (s : Inst σ) :
    settleOuter o new s =
      (if s.readOnly then .error (.error (.readOnlyContext "schedule task")) else .ok (),
       s.outerSettled o new) := by
  cases readOnly : s.readOnly <;> cases source : (s.outers o).source <;>
    simp [settleOuter, bind_run, callSoon_run, Inst.outerSettled, readOnly, source,
      Inst.pushAll_nil, Inst.pushReady_eq, Inst.pushAll_pushAll]

theorem settleOuter_state (o : OuterId) (new : OuterState) (s : Inst σ) :
    (settleOuter o new s).2 = s.outerSettled o new := by
  rw [settleOuter_run]

theorem cancelOuter_run (o : OuterId) (s : Inst σ) :
    cancelOuter o s =
      if (s.outers o).state = .pending then
        (if s.readOnly then .error (.error (.readOnlyContext "schedule task")) else .ok true,
         s.outerSettled o .cancelled)
      else (.ok false, s) := by
  cases outer : (s.outers o).state <;> cases readOnly : s.readOnly <;>
    simp [cancelOuter, bind_run, settleOuter_run, outer, readOnly]

end TemporalSdk.Workflow
