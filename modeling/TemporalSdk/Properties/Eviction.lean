import TemporalSdk.Properties.Activation

/-!
# Eviction

`remove_from_cache` cancels every registered task, and workflow code may answer
the cancellation with anything it could do before. Every operation that would be
seen from outside goes through a guard that refuses it while `_deleting` is set.

## Main result

* `eviction_emits_nothing`: from the moment `remove_from_cache` is applied the
  completion and the pending maps only shrink, and the activation returns an
  empty successful completion or raises.

## Proof strategy

`Shrinks` is a preorder; each atom and each move that adds an entry carries the
fact that the instance is open, which a deleting instance is not. What is left
is the run of one activation: up to the job it only walks over empty job sets.
-/
namespace TemporalSdk.Workflow

open Eff

variable {σ : Type}

/-! ### Nothing is added -/

/-- Nothing that core could see has been added. -/
structure Shrinks (s s' : Inst σ) : Prop where
  commands : s'.commands.length ≤ s.commands.length
  conditions : s'.conditions.Sublist s.conditions
  timers : ∀ seq, s'.pendingTimers seq = true → s.pendingTimers seq = true
  activities : ∀ seq t, s'.pendingActivities seq = some t → s.pendingActivities seq = some t
  childWorkflows : ∀ seq t,
    s'.pendingChildWorkflows seq = some t → s.pendingChildWorkflows seq = some t
  externalSignals : ∀ seq p,
    s'.pendingExternalSignals seq = some p → s.pendingExternalSignals seq = some p
  externalCancels : ∀ seq f,
    s'.pendingExternalCancels seq = some f → s.pendingExternalCancels seq = some f

theorem Shrinks.refl (s : Inst σ) : Shrinks s s :=
  ⟨Nat.le_refl _, List.Sublist.refl _, fun _ => id, fun _ _ => id, fun _ _ => id, fun _ _ => id,
    fun _ _ => id⟩

theorem Shrinks.trans {s₁ s₂ s₃ : Inst σ} (h : Shrinks s₁ s₂) (h' : Shrinks s₂ s₃) :
    Shrinks s₁ s₃ where
  commands := h'.commands.trans h.commands
  conditions := h'.conditions.trans h.conditions
  timers seq pending := h.timers seq (h'.timers seq pending)
  activities seq t pending := h.activities seq t (h'.activities seq t pending)
  childWorkflows seq t pending := h.childWorkflows seq t (h'.childWorkflows seq t pending)
  externalSignals seq p pending := h.externalSignals seq p (h'.externalSignals seq p pending)
  externalCancels seq f pending := h.externalCancels seq f (h'.externalCancels seq f pending)

theorem Inst.closed_of_deleting {s : Inst σ} (deleting : s.deleting = true) : s.open ≠ true := by
  simp [Inst.open, deleting]

/-- Removing an entry of a table. -/
theorem of_update_none {β : Type} {table : Nat → Option β} {key key' : Nat} {b : β}
    (h : Function.update table key none key' = some b) : table key' = some b := by
  by_cases same : key' = key
  · subst same
    rw [Function.update_self] at h
    cases h
  · rwa [Function.update_of_ne same] at h

theorem of_update_false {table : Nat → Bool} {key key' : Nat}
    (h : Function.update table key false key' = true) : table key' = true := by
  by_cases same : key' = key
  · subst same
    rw [Function.update_self] at h
    cases h
  · rwa [Function.update_of_ne same] at h

theorem Atom.shrinks {k : Kind} {s s' : Inst σ} (h : Atom k s s') (deleting : s.deleting = true) :
    Shrinks s s' := by
  have closed := Inst.closed_of_deleting deleting
  cases h with
  -- whatever adds an entry or a command has passed the guard
  | createUser _ isOpen | cancelActivity _ _ _ isOpen | timer _ _ isOpen
  | refusedTimer _ _ isOpen | cancelTimer _ _ isOpen
  | sleepTimer _ _ _ _ isOpen | cancelOwn _ _ isOpen | cancelChild _ _ _ isOpen
  | cancelSignal _ _ _ isOpen | newActivity _ _ isOpen | schedule _ _ _ isOpen
  | scheduleBroken _ _ _ isOpen | newChild _ _ isOpen | startChild _ _ isOpen
  | startChildBroken _ _ isOpen | signal _ isOpen | cancelExternal _ isOpen =>
    exact absurd isOpen closed
  | dropTimer | fire => exact { Shrinks.refl s with timers := fun _ => of_update_false }
  | popActivity => exact { Shrinks.refl s with activities := fun _ _ => of_update_none }
  | popChild => exact { Shrinks.refl s with childWorkflows := fun _ _ => of_update_none }
  | popSignal => exact { Shrinks.refl s with externalSignals := fun _ _ => of_update_none }
  | popCancel => exact { Shrinks.refl s with externalCancels := fun _ _ => of_update_none }
  | _ => exact { Shrinks.refl s with }

theorem Move.shrinks {k : Kind} {s s' : Inst σ} (h : Move k s s') (deleting : s.deleting = true) :
    Shrinks s s' := by
  have closed := Inst.closed_of_deleting deleting
  cases h with
  | handlers _ isOpen | memoize _ isOpen | command _ isOpen | updateResponse _ isOpen
  | signals _ isOpen | signalTask _ isOpen | condition _ isOpen | spawn _ isOpen =>
    exact absurd isOpen closed
  | answer | updateAnswer =>
    exact { Shrinks.refl s with commands := Nat.le_of_eq (List.length_set ..) }
  | turn => exact { Shrinks.refl s with commands := Nat.zero_le _ }
  | kept _ sub => exact { Shrinks.refl s with conditions := sub }
  | _ => exact { Shrinks.refl s with }

theorem Allowed.shrinks {K : List Kind} {s s' : Inst σ} (h : Allowed K s s')
    (deleting : s.deleting = true) : Shrinks s s' := by
  rcases h with ⟨_, _, atom⟩ | ⟨_, _, move⟩
  · exact atom.shrinks deleting
  · exact move.shrinks deleting

/-- Eviction is not taken back. -/
theorem Moves.stays_deleting {K : List Kind} {s s' : Inst σ} (h : Moves K s s')
    (wf : s.WellFormed) (deleting : s.deleting = true) : s'.deleting = true := by
  cases later : s'.deleting with
  | true => rfl
  | false => exact (h.deleting wf later).symm.trans deleting

theorem Moves.shrinks {K : List Kind} {s s' : Inst σ} (h : Moves K s s') (wf : s.WellFormed)
    (deleting : s.deleting = true) : Shrinks s s' := by
  refine (h.keeps (I := fun s₁ => Shrinks s s₁ ∧ s₁.deleting = true) wf
    ⟨.refl s, deleting⟩ ?_).1.1
  rintro a b wfa allowed ⟨shrinks, deleting⟩
  have one : Moves K a b := fun _ => .single allowed
  exact ⟨shrinks.trans (allowed.shrinks deleting), one.stays_deleting wfa deleting⟩

/-- A whole run of an evicted instance, over any number of activations. -/
theorem Reach.shrinks {det : Details σ} {ok : Machine σ → Label σ → Prop} {m m' : Machine σ}
    (reach : Reach det ok m m') (wf : m.WellFormed) (deleting : m.inst.deleting = true) :
    Shrinks m.inst m'.inst ∧ m'.inst.deleting = true := by
  refine (reach.invariant (I := fun m₁ => Shrinks m.inst m₁.inst ∧ m₁.inst.deleting = true) wf
    ⟨.refl _, deleting⟩ ?_).1
  rintro m₁ l m₂ wf₁ ⟨shrinks, deleting⟩ - step
  have moves := step_moves det wf₁ step
  exact ⟨shrinks.trans (moves.shrinks wf₁.inst deleting),
    moves.stays_deleting wf₁.inst deleting⟩

/-! ### The activation that evicts -/

/-- `activate` returned an empty successful completion or raised. -/
def Machine.EndsEmpty (m : Machine σ) : Prop :=
  m.outcome = some (.returned (.successful [])) ∨ ∃ e, m.outcome = some (.raised e)

theorem complete_endsEmpty (det : Details σ) {m : Machine σ} (commands : m.inst.commands = []) :
    (m.complete det none).EndsEmpty := by
  unfold Machine.complete
  split
  · exact .inr ⟨_, rfl⟩
  · exact .inl (by simp [Machine.leave, commands])

theorem raised_endsEmpty (det : Details σ) {m : Machine σ} (e : Exc)
    (deleting : m.inst.deleting = true) (commands : m.inst.commands = []) :
    (m.raised det e).EndsEmpty := by
  cases e with
  | error err =>
    have refused (c : Command) : addCommand c m.inst = (.error .workflowBeingEvicted, m.inst) := by
      rw [addCommand_run, if_neg (Inst.closed_of_deleting deleting), assertNotReadOnly_run]
      simp [deleting, Except.map]
    -- the failure of the workflow is a command too, and is refused
    have failure : setWorkflowFailure det err m.inst = (.error .workflowBeingEvicted, m.inst) := by
      unfold setWorkflowFailure
      cases det.toFailure err <;> exact bind_error (refused _)
    dsimp only [Machine.raised, Machine.note]
    split
    · rw [failure]
      exact .inr ⟨_, rfl⟩
    · simp only [deleting, if_true]
      exact complete_endsEmpty det commands
  | _ => exact .inr ⟨_, rfl⟩

/-- An error of a handler does not end the activation of an evicted instance. -/
theorem handleDone_ends (det : Details σ) (m : Machine σ) (s : Inst σ) (frame : Frame)
    (ends : (m.handleDone det s frame).control = .idle) :
    (m.handleDone det s frame).inst.deleting = false := by
  unfold Machine.handleDone at ends ⊢
  split
  next e recorded =>
    simp only [recorded] at ends
    split
    next thrown =>
      rw [raised_inst]
      have alive : s.deleting = false := by simpa using (Bool.and_eq_true_iff.mp thrown).2
      exact alive
    next swallowed =>
      rw [if_neg swallowed] at ends
      cases ends
  next none =>
    simp only [none] at ends
    cases ends

theorem raised_exits (det : Details σ) (m : Machine σ) {e : Exc} (exits : e.exits = true) :
    (m.raised det e).outcome = some (.raised e) := by
  cases e with
  | exit tag => rfl
  | _ => cases exits

theorem handleRaised_ends (det : Details σ) (m : Machine σ) (s : Inst σ) (frame : Frame) (e : Exc)
    (ends : (m.handleRaised det s frame e).control = .idle) :
    (m.handleRaised det s frame e).inst.deleting = false ∨
      e.exits = true ∧ (m.handleRaised det s frame e).outcome = some (.raised e) := by
  rcases handleRaised_cases det m s frame e with ⟨exits, out⟩ | reported
  · exact .inr ⟨exits, by rw [out, raised_exits det _ exits]⟩
  · rw [reported] at ends ⊢
    exact .inl (handleDone_ends det m _ frame ends)

/-- A handle ends the activation of an evicted instance only with an exception
that asyncio lets through. -/
theorem handleNext_ends (det : Details σ) (m : Machine σ) (frame : Frame)
    (r : Except Exc (Option Ctx) × Inst σ) (ends : (m.handleNext det frame r).control = .idle) :
    (m.handleNext det frame r).inst.deleting = false ∨ ∃ e, r.1 = .error e ∧ e.exits = true ∧
      (m.handleNext det frame r).outcome = some (.raised e) := by
  obtain ⟨r, s⟩ := r
  cases r with
  | ok ctx =>
    cases ctx with
    | some ctx => cases ends
    | none => exact .inl (handleDone_ends det m s frame ends)
  | error e =>
    exact (handleRaised_ends det m s frame e ends).imp_right fun ⟨exits, out⟩ => ⟨e, rfl, exits, out⟩

theorem handleNext_endsEmpty (det : Details σ) (m : Machine σ) (frame : Frame)
    (r : Except Exc (Option Ctx) × Inst σ)
    (later : (m.handleNext det frame r).inst.deleting = true)
    (ends : (m.handleNext det frame r).control = .idle) : (m.handleNext det frame r).EndsEmpty := by
  rcases handleNext_ends det m frame r ends with alive | ⟨e, -, -, out⟩
  · rw [later] at alive
    cases alive
  · exact .inr ⟨e, out⟩

theorem finishContext_ends (det : Details σ) {m : Machine σ} {ctx : Ctx} {frame : Frame}
    (r : Except Exc Obj) (control : m.control = .code ctx frame)
    (deleting : m.inst.deleting = true) (commands : m.inst.commands = [])
    (later : (finishContext det m ctx frame r).inst.deleting = true)
    (ends : (finishContext det m ctx frame r).control = .idle) :
    (finishContext det m ctx frame r).EndsEmpty := by
  cases ctx with
  | init =>
    cases r with
    | ok v => cases ends
    | error e => exact raised_endsEmpty det e deleting commands
  | callback =>
    cases r with
    | ok v => exact handleNext_endsEmpty det m frame (.ok none, m.inst) later ends
    | error e => exact handleNext_endsEmpty det m frame (.error e, m.inst) later ends
  | validator t job defn i prev => exact handleNext_endsEmpty det m frame _ later ends
  | task t =>
    simp only [finishContext] at later ends ⊢
    split at later
    next task isTask =>
      simp only [isTask] at ends ⊢
      exact handleNext_endsEmpty det m frame _ later ends
    next isTask =>
      simp only [isTask, control] at ends
      cases ends

/-- A step of an evicted instance that ends the activation. -/
theorem step_endsEmpty (det : Details σ) {m m' : Machine σ} {l : Label σ} (wf : m.WellFormed)
    (inside : l.inActivation = true) (step : step det m l = some m')
    (deleting : m.inst.deleting = true) (commands : m.inst.commands = [])
    (ends : m'.control = .idle) : m'.EndsEmpty := by
  have moves := step_moves det wf step
  have later := moves.stays_deleting wf.inst deleting
  cases l with
  | activate jobs isReplaying => cases inside
  | tick =>
    cases tick_cases det step with
    | complete => exact complete_endsEmpty det commands
    | @applyRaised job rest frame s e control run =>
      have applied := applyJob_moves det job m.inst
      rw [run] at applied
      have shrinks := applied.shrinks wf.inst deleting
      refine raised_endsEmpty det e (applied.stays_deleting wf.inst deleting) ?_
      simpa [commands] using shrinks.commands
    | @checkRaised frame s e control ready checks run =>
      have checked := checkConditions_moves m.inst
      rw [run] at checked
      have shrinks := checked.shrinks wf.inst deleting
      refine raised_endsEmpty det e (checked.stays_deleting wf.inst deleting) ?_
      simpa [commands] using shrinks.commands
    | handle => exact handleNext_endsEmpty det m _ _ later ends
    | _ => cases ends
  | act a =>
    cases perform_cases det step with
    | ret control v => exact finishContext_ends det _ control deleting commands later ends
    | raise control e => exact finishContext_ends det _ control deleting commands later ends
    | call control | await control =>
      have same := control.symm.trans ends
      cases same
    | suspend => exact handleNext_endsEmpty det m _ _ later ends

theorem applyRemoveFromCache_shrinks {s : Inst σ} (wf : s.WellFormed) :
    (applyRemoveFromCache s).2.deleting = true ∧ Shrinks s (applyRemoveFromCache s).2 := by
  have evicted : Shrinks s { s with deleting := true, cancelRequested := true, isReplaying := true } :=
    { Shrinks.refl s with }
  have wf' : Inst.WellFormed
      { s with deleting := true, cancelRequested := true, isReplaying := true } :=
    wf.congr rfl rfl rfl (List.Sublist.refl _) rfl
  have cancels : Moves [] { s with deleting := true, cancelRequested := true, isReplaying := true }
      (applyRemoveFromCache s).2 := by
    simp only [applyRemoveFromCache, update_bind_run, state_bind_run]
    exact Steady.forM (fun _ => .bind (cancelFut_moves _) fun _ => .pure _) _ _
  exact ⟨cancels.stays_deleting wf' rfl, evicted.trans (cancels.shrinks wf' rfl)⟩

/-- An activation with the one job `remove_from_cache`: it has been applied, or
only empty job sets have been passed. -/
structure Evicting (m : Machine σ) : Prop where
  commands : m.inst.commands = []
  place : m.inst.deleting = true ∨
    (∃ index later, m.control = .sets ⟨index, later⟩ ∧ later.flatten = [.removeFromCache]) ∨
    ∃ frame, m.control = .jobs [.removeFromCache] frame
  outcome : m.control = .idle → m.EndsEmpty

theorem activate_evicting (m : Machine σ) (isReplaying : Bool) :
    Evicting (m.activate [.removeFromCache] isReplaying) where
  commands := rfl
  place := .inr (.inl ⟨0, _, rfl, rfl⟩)
  outcome ends := by cases ends

/-- The steps before the job is applied. -/
theorem tick_evicting (det : Details σ) {m m' : Machine σ} (wf : m.WellFormed)
    (evicting : Evicting m) (waiting : m.inst.deleting = false) (h : tick det m = some m') :
    Evicting m' := by
  rcases evicting.place with deleting | ⟨index, later, control, jobs⟩ | ⟨frame, control⟩
  · rw [waiting] at deleting
    cases deleting
  -- still before the set that holds the job
  · cases tick_cases det h with
    | complete control' =>
      obtain ⟨-, rfl⟩ : index = _ ∧ later = [] := by simpa [control] using control'
      cases jobs
    | skipSet control' =>
      obtain ⟨-, rfl⟩ : index = _ ∧ later = [] :: _ := by simpa [control] using control'
      exact ⟨evicting.commands, .inr (.inl ⟨_, _, rfl, jobs⟩), fun ends => by cases ends⟩
    | openSet control' =>
      obtain ⟨-, rfl⟩ : index = _ ∧ later = _ := by simpa [control] using control'
      obtain ⟨rfl, rest⟩ : _ = Job.removeFromCache ∧ _ := by simpa using jobs
      obtain ⟨rfl, -⟩ := rest
      exact ⟨evicting.commands, .inr (.inr ⟨_, rfl⟩), fun ends => by cases ends⟩
    | closeSet control' | applied control' | applyRaised control' | enter control'
    | init control' | ran control' | loop control' | handle control' | checked control'
    | checkRaised control' | unchecked control' =>
      have same := control.symm.trans control'
      cases same
  -- the job is next: it deletes, and whether it raises or not no command is added
  · have applied := applyRemoveFromCache_shrinks wf.inst
    cases tick_cases det h with
    | @applied job rest frame' s control' run =>
      obtain ⟨⟨rfl, rfl⟩, rfl⟩ : (job = .removeFromCache ∧ rest = []) ∧ frame' = frame := by
        simpa [control, eq_comm] using control'
      rw [show applyRemoveFromCache m.inst = _ from run] at applied
      have commands : s.commands = [] := by simpa [evicting.commands] using applied.2.commands
      exact ⟨commands, .inl applied.1, fun ends => by cases ends⟩
    | @applyRaised job rest frame' s e control' run =>
      obtain ⟨⟨rfl, rfl⟩, rfl⟩ : (job = .removeFromCache ∧ rest = []) ∧ frame' = frame := by
        simpa [control, eq_comm] using control'
      rw [show applyRemoveFromCache m.inst = _ from run] at applied
      have commands : s.commands = [] := by simpa [evicting.commands] using applied.2.commands
      have inst := raised_inst det { m with inst := s } e
      refine ⟨by rw [inst], .inl ?_, fun _ => raised_endsEmpty det e applied.1 commands⟩
      rw [inst]
      exact applied.1
    | complete control' | skipSet control' | openSet control' | closeSet control' | enter control'
    | init control' | ran control' | loop control' | handle control' | checked control'
    | checkRaised control' | unchecked control' =>
      have same := control.symm.trans control'
      cases same

theorem step_evicting (det : Details σ) {m m' : Machine σ} {l : Label σ} (wf : m.WellFormed)
    (evicting : Evicting m) (inside : l.inActivation = true) (h : step det m l = some m') :
    Evicting m' := by
  cases deleting : m.inst.deleting with
  | true =>
    have moves := step_moves det wf h
    have shrinks := moves.shrinks wf.inst deleting
    refine ⟨?_, .inl (moves.stays_deleting wf.inst deleting),
      step_endsEmpty det wf inside h deleting evicting.commands⟩
    simpa [evicting.commands] using shrinks.commands
  | false =>
    cases l with
    | activate jobs isReplaying => cases inside
    | tick => exact tick_evicting det wf evicting deleting h
    | act a =>
      -- workflow code does not run before the job has been applied
      have noCode : ∀ ctx frame, m.control ≠ .code ctx frame := by
        intro ctx frame control
        rcases evicting.place with evicted | ⟨_, _, control', -⟩ | ⟨_, control'⟩
        · rw [deleting] at evicted
          cases evicted
        · have same := control.symm.trans control'
          cases same
        · have same := control.symm.trans control'
          cases same
      cases perform_cases det h with
      | ret control | raise control | call control | await control | suspend control =>
        exact absurd control (noCode _ _)

/-! ### Main result -/

/-- From any state of any run in which `remove_from_cache` has been applied, and
whatever workflow code does from then on, no command and no entry of a pending
map or of the wait conditions is added. And for any idle state of any run, the
activation of a `remove_from_cache` job, if it ends, returns a successful
completion without commands or raises. -/
theorem eviction_emits_nothing (det : Details σ) (mem : σ) {m : Machine σ}
    (reachable : Reach det (fun _ _ => True) (Machine.init det mem) m) :
    (∀ m', m.inst.deleting = true → Reach det (fun _ _ => True) m m' →
      Shrinks m.inst m'.inst) ∧
    ∀ isReplaying m', m.control = .idle →
      Reach det (fun _ l => l.inActivation = true) (m.activate [.removeFromCache] isReplaying) m' →
      m'.inst.commands = [] ∧ (m'.control = .idle →
        m'.outcome = some (.returned (.successful [])) ∨ ∃ e, m'.outcome = some (.raised e)) := by
  have wf := reachable.wellFormed (init_wellFormed det mem)
  refine ⟨fun m' deleting rest => (rest.shrinks wf deleting).1, ?_⟩
  intro isReplaying m' idle activation
  have begin : (m.activate [.removeFromCache] isReplaying).WellFormed :=
    step_wellFormed det (l := .activate [.removeFromCache] isReplaying) wf (by simp [step, idle])
  obtain ⟨evicting, -⟩ := activation.invariant (I := Evicting) begin
    (activate_evicting m isReplaying) fun _ _ _ wf evicting inside h =>
      step_evicting det wf evicting inside h
  exact ⟨evicting.commands, evicting.outcome⟩

/-- A workflow that starts a timer and an activity and waits for the activity. -/
def timerAndActivity : List (Label Nat) :=
  Label.activate [.startWorkflow []] false :: List.replicate 6 Label.tick ++ Label.act (.ret 0) ::
    List.replicate 2 Label.tick ++ [Label.act (.callLater 5),
    Label.act (.startActivity ⟨false, [], none, true, none⟩), Label.act (.await 1)] ++
    List.replicate 5 Label.tick

/-- It is cancelled by its eviction, and tries to go on in its `finally`. -/
def finallyGoesOn : List (Label Nat) :=
  List.replicate 7 Label.tick ++ [Label.act (.callLater 3), Label.act (.patch "p" false),
    Label.act (.upsertSearchAttributes 0), Label.act (.registerCondition fun _ => .ok true),
    Label.act (.ret 0)] ++ List.replicate 5 Label.tick

theorem eviction_emits_nothing_finally : ∃ m₀ m m',
    run Details.plain (Machine.init Details.plain 0) timerAndActivity = some m₀ ∧
    run Details.plain (m₀.activate [.removeFromCache] false) (List.replicate 4 .tick) = some m ∧
    run Details.plain m finallyGoesOn = some m' ∧ m.inst.deleting = true ∧ m'.control = .idle ∧
    Shrinks m.inst m'.inst ∧
    (m'.outcome = some (.returned (.successful [])) ∨ ∃ e, m'.outcome = some (.raised e)) := by
  have evaluated : ((run Details.plain (Machine.init Details.plain 0) timerAndActivity).bind fun m₀ =>
      (run Details.plain (m₀.activate [.removeFromCache] false) (List.replicate 4 .tick)).bind fun m =>
        (run Details.plain m finallyGoesOn).map fun m' =>
          decide (m₀.control = .idle) && m.inst.deleting && decide (m'.control = .idle)) =
      some true := by decide +kernel
  obtain ⟨m₀, ran, evicted⟩ := Option.bind_eq_some_iff.mp evaluated
  obtain ⟨m, applied, rest⟩ := Option.bind_eq_some_iff.mp evicted
  obtain ⟨m', cleaned, checked⟩ := Option.map_eq_some_iff.mp rest
  simp only [Bool.and_eq_true, decide_eq_true_eq] at checked
  -- the runs are evaluated once; what is left is that they are runs of the activation
  obtain ⟨⟨idle, deleting⟩, ended⟩ := checked
  have reachable : Reach Details.plain (fun _ _ => True) (Machine.init Details.plain 0) m₀ :=
    .of_run ran fun _ _ _ => trivial
  have begun : Reach Details.plain (fun _ _ => True) m₀ (m₀.activate [.removeFromCache] false) :=
    .step (l := .activate [.removeFromCache] false) .refl trivial (by simp [step, idle])
  have reachable' := (reachable.trans begun).trans
    (Reach.of_run applied fun _ _ _ => trivial)
  have inside {ls : List (Label Nat)} (all : ls.all Label.inActivation = true) :
      ∀ l ∈ ls, ∀ _ : Machine Nat, l.inActivation = true :=
    fun l member _ => List.all_eq_true.mp all l member
  have activation : Reach Details.plain (fun _ l => l.inActivation = true)
      (m₀.activate [.removeFromCache] false) m' :=
    (Reach.of_run applied (inside (by decide))).trans (Reach.of_run cleaned (inside (by decide)))
  exact ⟨m₀, m, m', ran, applied, cleaned, deleting, ended,
    (eviction_emits_nothing _ 0 reachable').1 m' deleting (.of_run cleaned fun _ _ _ => trivial),
    ((eviction_emits_nothing _ 0 reachable).2 false m' idle activation).2 ended⟩

end TemporalSdk.Workflow
