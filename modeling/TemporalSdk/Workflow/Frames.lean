import TemporalSdk.Workflow.Spec

/-!
# What the loop and the outbound calls leave alone

`Calm s s'` says what no operation of `Loop` and `Outbound` does, whatever it is
called with: it leaves the books of the instance alone (handler tables, buffers,
flags, wait conditions), adds only commands of outbound calls, never undoes a
completed future, never completes a task or a condition, and never starts a
handler. The properties of signals, updates, conditions and activations need
nothing else about these operations.
-/
namespace TemporalSdk.Workflow

open Eff

variable {σ : Type}

/-! ### The relation -/

/-- The fields that only handlers, jobs and `activate` itself write. -/
structure SameBooks (s s' : Inst σ) : Prop where
  mem : s'.mem = s.mem
  object : s'.object = s.object
  nextObject : s'.nextObject = s.nextObject
  primaryTask : s'.primaryTask = s.primaryTask
  cancelRequested : s'.cancelRequested = s.cancelRequested
  deleting : s'.deleting = s.deleting
  readOnly : s'.readOnly = s.readOnly
  isReplaying : s'.isReplaying = s.isReplaying
  randomSeed : s'.randomSeed = s.randomSeed
  conditions : s'.conditions = s.conditions
  patchesNotified : s'.patchesNotified = s.patchesNotified
  patchesMemoized : s'.patchesMemoized = s.patchesMemoized
  signals : s'.signals = s.signals
  queries : s'.queries = s.queries
  updates : s'.updates = s.updates
  bufferedSignals : s'.bufferedSignals = s.bufferedSignals
  handledSignalsSeq : s'.handledSignalsSeq = s.handledSignalsSeq
  inProgressSignals : s'.inProgressSignals = s.inProgressSignals
  inProgressUpdates : s'.inProgressUpdates = s.inProgressUpdates
  activationError : s'.activationError = s.activationError
  prevReadOnly : s'.prevReadOnly = s.prevReadOnly
  cancelledHandles : s'.cancelledHandles = s.cancelledHandles

theorem SameBooks.refl (s : Inst σ) : SameBooks s s := by constructor <;> rfl

theorem SameBooks.trans {s₁ s₂ s₃ : Inst σ} (h : SameBooks s₁ s₂) (h' : SameBooks s₂ s₃) :
    SameBooks s₁ s₃ := by
  constructor
  · exact h'.mem.trans h.mem
  · exact h'.object.trans h.object
  · exact h'.nextObject.trans h.nextObject
  · exact h'.primaryTask.trans h.primaryTask
  · exact h'.cancelRequested.trans h.cancelRequested
  · exact h'.deleting.trans h.deleting
  · exact h'.readOnly.trans h.readOnly
  · exact h'.isReplaying.trans h.isReplaying
  · exact h'.randomSeed.trans h.randomSeed
  · exact h'.conditions.trans h.conditions
  · exact h'.patchesNotified.trans h.patchesNotified
  · exact h'.patchesMemoized.trans h.patchesMemoized
  · exact h'.signals.trans h.signals
  · exact h'.queries.trans h.queries
  · exact h'.updates.trans h.updates
  · exact h'.bufferedSignals.trans h.bufferedSignals
  · exact h'.handledSignalsSeq.trans h.handledSignalsSeq
  · exact h'.inProgressSignals.trans h.inProgressSignals
  · exact h'.inProgressUpdates.trans h.inProgressUpdates
  · exact h'.activationError.trans h.activationError
  · exact h'.prevReadOnly.trans h.prevReadOnly
  · exact h'.cancelledHandles.trans h.cancelledHandles

/-- Commands of activities, timers, child workflows and external workflows. -/
def Command.outbound : Command → Bool
  | .scheduleActivity _ | .scheduleLocalActivity _ _ | .requestCancelActivity _
  | .requestCancelLocalActivity _ | .startTimer _ _ | .cancelTimer _
  | .startChildWorkflowExecution _ | .cancelChildWorkflowExecution _
  | .signalExternalWorkflowExecution _ | .cancelSignalWorkflow _
  | .requestCancelExternalWorkflowExecution _ => true
  | _ => false

/-- Events of activities and timers. -/
def Event.outbound : Event → Bool
  | .activityHandle _ | .timerStarted _ | .timerCancelled _ | .timerFired _ => true
  | _ => false

/-- Tasks that are not created by a job. -/
def Root.outbound : Root → Bool
  | .activity | .child | .user => true
  | _ => false

/-- Identifiers point at futures of the right kind. -/
structure Inst.WellFormed (s : Inst σ) : Prop where
  task : ∀ t task, s.tasks t = some task → t < s.nextFut ∧ (s.futs t).role = .task
  condition : ∀ fn f, (fn, f) ∈ s.conditions → f < s.nextFut ∧ (s.futs f).role = .condition
  externalCancel : ∀ seq f, s.pendingExternalCancels seq = some f →
    f < s.nextFut ∧ (s.futs f).role = .externalCancel
  distinct : (s.conditions.map Prod.snd).Nodup

structure Calm (s s' : Inst σ) : Prop where
  books : SameBooks s s'
  ready : ∃ hs, s'.ready = s.ready ++ hs
  commands : ∃ cs, s'.commands = s.commands ++ cs ∧ ∀ c ∈ cs, c.outbound = true
  trace : ∃ es, s'.trace = s.trace ++ es ∧ ∀ e ∈ es, e.outbound = true
  nextFut : s.nextFut ≤ s'.nextFut
  role : ∀ f < s.nextFut, (s'.futs f).role = (s.futs f).role
  fresh : ∀ f, s.nextFut ≤ f → f < s'.nextFut → (s'.futs f).role ≠ .condition
  done : ∀ f < s.nextFut, s.isDone f = true → (s'.futs f).state = (s.futs f).state
  condition : ∀ f < s.nextFut, (s.futs f).role = .condition →
    (s'.futs f).state = (s.futs f).state ∨ (s'.futs f).state = .cancelled
  alive : ∀ t, (s.tasks t).isSome → s'.isDone t = s.isDone t
  task : ∀ t task, s.tasks t = some task →
    ∃ task', s'.tasks t = some task' ∧ task'.root = task.root ∧
      (task'.point = .start → task.point = .start)
  created : ∀ t task, s'.tasks t = some task →
    (s.tasks t).isSome ∨ s.nextFut ≤ t ∧ t < s'.nextFut ∧ (s'.futs t).role = .task ∧
      task.root.outbound = true
  externalCancels : ∀ seq f, s'.pendingExternalCancels seq = some f →
    s.pendingExternalCancels seq = some f ∨
      s.nextFut ≤ f ∧ f < s'.nextFut ∧ (s'.futs f).role = .externalCancel

theorem Calm.refl (s : Inst σ) : Calm s s where
  books := .refl s
  ready := ⟨[], by simp⟩
  commands := ⟨[], by simp, by simp⟩
  trace := ⟨[], by simp, by simp⟩
  nextFut := Nat.le_refl _
  role _ _ := rfl
  fresh _ lower upper := absurd upper (Nat.not_lt.mpr lower)
  done _ _ _ := rfl
  condition _ _ _ := .inl rfl
  alive _ _ := rfl
  task _ task h := ⟨task, h, rfl, id⟩
  created _ _ h := .inl (by simp [h])
  externalCancels _ _ h := .inl h

theorem Calm.wellFormed {s s' : Inst σ} (h : Calm s s') (wf : s.WellFormed) : s'.WellFormed where
  task t task' ht := by
    rcases h.created t task' ht with old | ⟨-, bound, role, -⟩
    · obtain ⟨task, ht⟩ := Option.isSome_iff_exists.mp old
      obtain ⟨bound, role⟩ := wf.task t task ht
      exact ⟨Nat.lt_of_lt_of_le bound h.nextFut, (h.role t bound).trans role⟩
    · exact ⟨bound, role⟩
  condition fn f member := by
    rw [h.books.conditions] at member
    obtain ⟨bound, role⟩ := wf.condition fn f member
    exact ⟨Nat.lt_of_lt_of_le bound h.nextFut, (h.role f bound).trans role⟩
  externalCancel seq f pending := by
    rcases h.externalCancels seq f pending with old | ⟨-, bound, role⟩
    · obtain ⟨bound, role⟩ := wf.externalCancel seq f old
      exact ⟨Nat.lt_of_lt_of_le bound h.nextFut, (h.role f bound).trans role⟩
    · exact ⟨bound, role⟩
  distinct := by
    rw [h.books.conditions]
    exact wf.distinct

theorem Calm.trans {s₁ s₂ s₃ : Inst σ} (h : Calm s₁ s₂) (h' : Calm s₂ s₃) : Calm s₁ s₃ where
  books := h.books.trans h'.books
  ready := by
    obtain ⟨hs, eq⟩ := h.ready
    obtain ⟨hs', eq'⟩ := h'.ready
    exact ⟨hs ++ hs', by rw [eq', eq, List.append_assoc]⟩
  commands := by
    obtain ⟨cs, eq, out⟩ := h.commands
    obtain ⟨cs', eq', out'⟩ := h'.commands
    refine ⟨cs ++ cs', by rw [eq', eq, List.append_assoc], ?_⟩
    intro c member
    rcases List.mem_append.mp member with member | member
    · exact out c member
    · exact out' c member
  trace := by
    obtain ⟨es, eq, out⟩ := h.trace
    obtain ⟨es', eq', out'⟩ := h'.trace
    refine ⟨es ++ es', by rw [eq', eq, List.append_assoc], ?_⟩
    intro e member
    rcases List.mem_append.mp member with member | member
    · exact out e member
    · exact out' e member
  nextFut := h.nextFut.trans h'.nextFut
  role f bound := (h'.role f (Nat.lt_of_lt_of_le bound h.nextFut)).trans (h.role f bound)
  fresh f lower upper := by
    by_cases early : f < s₂.nextFut
    · rw [h'.role f early]
      exact h.fresh f lower early
    · exact h'.fresh f (Nat.not_lt.mp early) upper
  done f bound done := by
    have first := h.done f bound done
    have done' : s₂.isDone f = true := by simpa [Inst.isDone, first] using done
    exact (h'.done f (Nat.lt_of_lt_of_le bound h.nextFut) done').trans first
  condition f bound role := by
    have bound' := Nat.lt_of_lt_of_le bound h.nextFut
    have role' := (h.role f bound).trans role
    rcases h'.condition f bound' role' with second | second
    · rw [second]
      exact h.condition f bound role
    · exact .inr second
  alive t exist := by
    obtain ⟨task, ht⟩ := Option.isSome_iff_exists.mp exist
    obtain ⟨task', ht', -⟩ := h.task t task ht
    exact (h'.alive t (by simp [ht'])).trans (h.alive t exist)
  task t task ht := by
    obtain ⟨task', ht', root, start⟩ := h.task t task ht
    obtain ⟨task'', ht'', root', start'⟩ := h'.task t task' ht'
    exact ⟨task'', ht'', root'.trans root, fun h => start (start' h)⟩
  created t task'' ht := by
    rcases h'.created t task'' ht with old | ⟨lower, upper, role, root⟩
    · obtain ⟨task', ht'⟩ := Option.isSome_iff_exists.mp old
      rcases h.created t task' ht' with old | ⟨lower, upper, role, root⟩
      · exact .inl old
      · obtain ⟨_, ht'', same, -⟩ := h'.task t task' ht'
        rw [ht, Option.some.injEq] at ht''
        subst ht''
        exact .inr ⟨lower, Nat.lt_of_lt_of_le upper h'.nextFut, (h'.role t upper).trans role,
          by rw [same]; exact root⟩
    · exact .inr ⟨h.nextFut.trans lower, upper, role, root⟩
  externalCancels seq f pending := by
    rcases h'.externalCancels seq f pending with old | ⟨lower, upper, role⟩
    · rcases h.externalCancels seq f old with old | ⟨lower, upper, role⟩
      · exact .inl old
      · exact .inr ⟨lower, Nat.lt_of_lt_of_le upper h'.nextFut, (h'.role f upper).trans role⟩
    · exact .inr ⟨h.nextFut.trans lower, upper, role⟩

/-- `Calm`, from states whose identifiers are in order. -/
def Calms (s s' : Inst σ) : Prop := s.WellFormed → Calm s s'

instance : IsPreorder (Inst σ) Calms where
  refl s _ := .refl s
  trans _ _ _ h h' wf := (h wf).trans (h' ((h wf).wellFormed wf))

/-! ### Primitive changes -/

/-- Whatever only touches timers, promises, outer futures, handles and pending
entries is calm. -/
theorem Calm.loose {s s' : Inst σ} (books : SameBooks s s') (ready : s'.ready = s.ready)
    (commands : s'.commands = s.commands) (trace : s'.trace = s.trace)
    (nextFut : s'.nextFut = s.nextFut) (futs : s'.futs = s.futs)
    (tasks : s'.tasks = s.tasks)
    (cancels : s'.pendingExternalCancels = s.pendingExternalCancels) : Calm s s' where
  books := books
  ready := ⟨[], by simp [ready]⟩
  commands := ⟨[], by simp [commands], by simp⟩
  trace := ⟨[], by simp [trace], by simp⟩
  nextFut := by rw [nextFut]
  role f _ := by rw [futs]
  fresh f lower upper := by
    rw [nextFut] at upper
    exact absurd upper (Nat.not_lt.mpr lower)
  done f _ _ := by rw [futs]
  condition f _ _ := by rw [futs]; exact .inl rfl
  alive t _ := by rw [Inst.isDone, Inst.isDone, futs]
  task t task h := ⟨task, by rw [tasks]; exact h, rfl, id⟩
  created t task h := by rw [tasks] at h; exact .inl (by simp [h])
  externalCancels seq f h := by rw [cancels] at h; exact .inl h

theorem Calm.command (s : Inst σ) {c : Command} (out : c.outbound = true) :
    Calm s (s.pushCommand c) :=
  { Calm.refl s with
    books := by constructor <;> rfl
    commands := ⟨[c], rfl, by simpa using out⟩ }

theorem Calm.setFut (s : Inst σ) {f : FutId} {fut : Fut} (role : fut.role = (s.futs f).role)
    (done : s.isDone f = true → fut.state = (s.futs f).state)
    (condition : (s.futs f).role = .condition → fut.state = (s.futs f).state ∨ fut.state = .cancelled)
    (alive : (s.tasks f).isSome → fut.state.done = s.isDone f) : Calm s (s.setFut f fut) := by
  refine { Calm.refl s with
    books := by constructor <;> rfl
    role := ?_
    fresh := fun _ lower upper => absurd upper (Nat.not_lt.mpr lower)
    done := ?_
    condition := ?_
    alive := ?_
    created := fun t task h => .inl (Option.isSome_of_mem h)
    externalCancels := fun _ _ h => .inl h }
  all_goals
    intro f'
    by_cases same : f' = f
    · subst same
      simp [Inst.setFut, Inst.isDone] at *
      first | (intro; assumption) | assumption
    · simp [Inst.setFut, Inst.isDone, same]

theorem Calm.pushAll (s : Inst σ) (hs : List Handle) : Calm s (s.pushAll hs) :=
  { Calm.refl s with
    books := by constructor <;> rfl
    ready := ⟨hs, rfl⟩ }

/-- A new future is out of the sight of everything that exists. -/
theorem Calm.newFut {s : Inst σ} (wf : s.WellFormed) (fut : Fut) (role : fut.role ≠ .condition) :
    Calm s { s.setFut s.nextFut fut with nextFut := s.nextFut + 1 } := by
  have old (f : FutId) (bound : f < s.nextFut) :
      (Function.update s.futs s.nextFut fut) f = s.futs f :=
    Function.update_of_ne (Nat.ne_of_lt bound) _ _
  exact { Calm.refl s with
    books := by constructor <;> rfl
    nextFut := Nat.le_succ _
    role := fun f bound => congrArg Fut.role (old f bound)
    fresh := fun f lower upper => by
      have same : f = s.nextFut := Nat.le_antisymm (Nat.le_of_lt_succ upper) lower
      subst same
      simpa [Inst.setFut] using role
    done := fun f bound _ => congrArg Fut.state (old f bound)
    condition := fun f bound _ => .inl (congrArg Fut.state (old f bound))
    alive := fun t exist => by
      obtain ⟨task, ht⟩ := Option.isSome_iff_exists.mp exist
      exact congrArg (fun fut : Fut => fut.state.done) (old t (wf.task t task ht).1)
    created := fun t task h => .inl (Option.isSome_of_mem h)
    externalCancels := fun _ _ h => .inl h }

/-- Completing a future that is neither a task nor done; a condition can only be
cancelled. -/
theorem Calm.settled (s : Inst σ) {f : FutId} {new : FutState} (pending : s.isDone f = false)
    (notTask : s.tasks f = none)
    (condition : (s.futs f).role = .condition → new = .cancelled) :
    Calm s (s.settled f new) := by
  have completed : Calm s (s.setFut f { s.futs f with state := new, callbacks := [] }) :=
    .setFut s rfl (by simp [pending]) (fun role => .inr (condition role)) (by simp [notTask])
  exact completed.trans (.pushAll _ _)

/-- A new future registered as the wait for an external cancel. -/
theorem Calm.newExternalCancel {s : Inst σ} (wf : s.WellFormed) (seq : Nat) :
    Calm s { s.setFut s.nextFut ⟨.externalCancel, .pending, []⟩ with
      nextFut := s.nextFut + 1
      pendingExternalCancels :=
        Function.update s.pendingExternalCancels seq (some s.nextFut) } := by
  refine { Calm.newFut wf ⟨.externalCancel, .pending, []⟩ (by simp) with
    books := by constructor <;> rfl
    externalCancels := ?_ }
  intro seq' f pending
  by_cases same : seq' = seq
  · subst same
    simp only [Function.update_self, Option.some.injEq] at pending
    subst pending
    exact .inr ⟨Nat.le_refl _, Nat.lt_succ_self _, by simp [Inst.setFut]⟩
  · exact .inl (by simpa [same] using pending)

/-- An entry of `_pending_external_cancels` goes away. -/
theorem Calm.externalCancelRemoved (s : Inst σ) (seq : Nat) :
    Calm s { s with
      pendingExternalCancels := Function.update s.pendingExternalCancels seq none } := by
  refine { Calm.refl s with books := by constructor <;> rfl, externalCancels := ?_ }
  intro seq' f pending
  by_cases same : seq' = seq
  · simp [same] at pending
  · exact .inl (by simpa [same] using pending)

theorem Calm.activityHandle (s : Inst σ) (t : FutId) : Calm s (s.log (.activityHandle t)) :=
  { Calm.refl s with
    books := by constructor <;> rfl
    trace := ⟨[.activityHandle t], rfl, by simp [Event.outbound]⟩ }

theorem cancelCommand_outbound (h : ActivityHandle) : h.cancelCommand.outbound = true := by
  unfold ActivityHandle.cancelCommand
  split <;> rfl

end TemporalSdk.Workflow
