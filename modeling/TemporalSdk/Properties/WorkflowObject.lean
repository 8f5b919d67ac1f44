import TemporalSdk.Workflow.Runs

/-!
# The workflow object

`_run_once` creates the workflow object when it finds none, and asks with
`if not self._object`. A workflow class may define `__bool__` or `__len__`, so
an object that exists can look like none, and is then replaced by a new one.

## Main results

* `one_workflow_object`: in every run in which the object is truthy whenever
  `_run_once` looks at it, the class is instantiated once, before any handler
  runs, and every method is called on that object; where it is falsy, the next
  step instantiates the class again.
* `falsy_object_replaced`: a signal handler that runs on a second object.

## Proof strategy

`OneObject` ties the object to where `activate` stands: there is none while the
constructor runs, and there is one from the head of the loop on. Only the end of
the constructor changes the object, so all that is to be checked is that no
method is called outside the loop.
-/
namespace TemporalSdk.Workflow

open Eff

variable {σ : Type}

/-! ### What creates an object and what calls a method -/

theorem Move.object {k : Kind} {s s' : Inst σ} (h : Move k s s') (notConstruct : k ≠ .construct) :
    s'.object = s.object ∧ s'.nextObject = s.nextObject := by
  cases h with
  | construct => exact absurd rfl notConstruct
  | _ => exact ⟨rfl, rfl⟩

theorem Moves.object {K : List Kind} {s s' : Inst σ} (h : Moves K s s') (wf : s.WellFormed)
    (notConstruct : Kind.construct ∉ K) :
    s'.object = s.object ∧ s'.nextObject = s.nextObject := by
  refine (h.keeps (I := fun s₁ => s₁.object = s.object ∧ s₁.nextObject = s.nextObject) wf
    ⟨rfl, rfl⟩ ?_).1
  rintro a b wfa allowed ⟨object, nextObject⟩
  rcases allowed.calm_or_move wfa with calm | ⟨k, member, move⟩
  · exact ⟨calm.books.object.trans object, calm.books.nextObject.trans nextObject⟩
  · obtain ⟨object', nextObject'⟩ := move.object fun same => notConstruct (same ▸ member)
    exact ⟨object'.trans object, nextObject'.trans nextObject⟩

theorem Calm.methodCalls {s s' : Inst σ} (h : Calm s s') {o : Option Obj}
    (member : .methodCall o ∈ s'.trace) : .methodCall o ∈ s.trace := by
  obtain ⟨es, trace, outbound⟩ := h.trace
  rw [trace] at member
  rcases List.mem_append.mp member with old | new
  · exact old
  · cases outbound _ new

theorem Move.methodCalls {k : Kind} {s s' : Inst σ} (h : Move k s s') {o : Option Obj}
    (member : .methodCall o ∈ s'.trace) :
    .methodCall o ∈ s.trace ∨ k = .book ∧ o = s.object := by
  -- one event is added, or none
  have logged {e : Event} (added : .methodCall o ∈ s.trace ++ [e]) (other : .methodCall o ≠ e) :
      .methodCall o ∈ s.trace := by
    rcases List.mem_append.mp added with old | new
    · exact old
    · exact absurd (List.mem_singleton.mp new) other
  cases h with
  | methodCall =>
    rcases List.mem_append.mp member with old | new
    · exact .inl old
    · exact .inr ⟨rfl, by simpa using new⟩
  | exceptionHandler | patchCall | updateError | signalDropped | signalHandler
  | signalHandlerMissing | met => exact .inl (logged member (by simp))
  | _ => exact .inl member

theorem Moves.methodCalls {K : List Kind} {s s' : Inst σ} (h : Moves K s s') (wf : s.WellFormed)
    (notConstruct : Kind.construct ∉ K) {o : Option Obj} (member : .methodCall o ∈ s'.trace) :
    .methodCall o ∈ s.trace ∨ Kind.book ∈ K ∧ o = s.object := by
  refine (h.keeps (I := fun s₁ => s₁.object = s.object ∧ (.methodCall o ∈ s₁.trace →
    .methodCall o ∈ s.trace ∨ Kind.book ∈ K ∧ o = s.object)) wf ⟨rfl, .inl⟩ ?_).1.2 member
  rintro a b wfa allowed ⟨object, calls⟩
  rcases allowed.calm_or_move wfa with calm | ⟨k, made, move⟩
  · exact ⟨calm.books.object.trans object, fun member => calls (calm.methodCalls member)⟩
  · have notConstruct' : k ≠ .construct := fun same => notConstruct (same ▸ made)
    refine ⟨(move.object notConstruct').1.trans object, fun member => ?_⟩
    rcases move.methodCalls member with old | ⟨rfl, same⟩
    · exact calls old
    · exact .inr ⟨made, same.trans object⟩

/-! ### The invariant -/

/-- What the position of `activate` says about the object. -/
def Control.objectAt : Control → Option Obj → Prop
  | .code .init _, object => object = none
  | .outer _, object | .inner _, object | .code _ _, object => object = some 0
  | _, _ => True

structure OneObject (m : Machine σ) : Prop where
  place : m.control.objectAt m.inst.object
  count : m.inst.object = none ∧ m.inst.nextObject = 0 ∨
    m.inst.object = some 0 ∧ m.inst.nextObject = 1
  calls : ∀ o, .methodCall o ∈ m.inst.trace → o = some 0 ∧ m.inst.object = some 0

/-- The condition on a step: an object that `_run_once` looks at is truthy. -/
def ObjectTruthy (det : Details σ) (m : Machine σ) : Prop :=
  ∀ frame, m.control = .enter frame → m.inst.object.isSome = true →
    det.objectTruthy m.inst.mem = true

instance (det : Details σ) (m : Machine σ) : Decidable (ObjectTruthy det m) :=
  match control : m.control with
  | .enter frame => decidable_of_iff
      (m.inst.object.isSome = true → det.objectTruthy m.inst.mem = true)
      ⟨fun h _ _ => h, fun h => h frame control⟩
  | .idle | .sets _ | .jobs _ _ | .outer _ | .inner _ | .code _ _ =>
    .isTrue fun _ entered => by simp [control] at entered

/-- Steps that neither construct nor call a method, or that are made on the object. -/
theorem OneObject.of_moves {K : List Kind} {m m' : Machine σ} (one : OneObject m)
    (wf : m.inst.WellFormed) (h : Moves K m.inst m'.inst) (notConstruct : Kind.construct ∉ K)
    (calls : Kind.book ∈ K → m.inst.object = some 0) (place : m'.control.objectAt m.inst.object) :
    OneObject m' := by
  obtain ⟨object, nextObject⟩ := h.object wf notConstruct
  refine ⟨by rw [object]; exact place, by rw [object, nextObject]; exact one.count, ?_⟩
  intro o member
  rw [object]
  rcases h.methodCalls wf notConstruct member with old | ⟨book, same⟩
  · exact one.calls o old
  · exact ⟨same.trans (calls book), calls book⟩

/-- Steps that leave the trace alone. -/
theorem OneObject.of_quiet {K : List Kind} {m m' : Machine σ} (one : OneObject m)
    (wf : m.inst.WellFormed) (h : Moves K m.inst m'.inst) (notConstruct : Kind.construct ∉ K)
    (trace : m'.inst.trace = m.inst.trace) (place : m'.control.objectAt m.inst.object) :
    OneObject m' := by
  obtain ⟨object, nextObject⟩ := h.object wf notConstruct
  exact ⟨by rw [object]; exact place, by rw [object, nextObject]; exact one.count,
    by rw [trace, object]; exact one.calls⟩

/-! ### Programs that call no method

Handler tables and what jobs write down are of the same kind as a method call,
so these programs are looked at one by one. -/

/-- The trace is left alone. -/
def SameTrace (s s' : Inst σ) : Prop := s'.trace = s.trace

instance : IsPreorder (Inst σ) SameTrace where
  refl _ := rfl
  trans _ _ _ h h' := h'.trans h

theorem assertNotReadOnly_sameTrace (action : String) (allow : Bool) :
    Steady SameTrace (assertNotReadOnly action allow : Wf σ Unit) := by
  intro s
  rw [assertNotReadOnly_run]
  exact Std.Refl.refl s

theorem createTask_sameTrace (root : Root) : Steady SameTrace (createTask root : Wf σ FutId) := by
  intro s
  cases readOnly : s.readOnly with
  | true =>
    rw [createTask_readOnly _ readOnly]
    exact Std.Refl.refl s
  | false =>
    rw [createTask_run _ readOnly]
    split <;> rfl

theorem applyJob_sameTrace (det : Details σ) {job : Job} (book : Kind.book ∈ job.kinds) :
    Steady SameTrace (applyJob det job) := by
  cases job with
  | cancelWorkflow =>
    refine .bind (.update fun _ => rfl) fun _ => .read fun s => ?_
    split
    · intro s
      rw [callSoon_run]
      split <;> rfl
    · exact .pure _
  | updateRandomSeed seed => exact .update fun _ => rfl
  | startWorkflow arguments =>
    exact .bind (raiseError_steady _) fun _ => .bind (createTask_sameTrace _) fun _ =>
      .update fun _ => rfl
  | _ => simp [Job.kinds] at book

theorem performCall_sameTrace (det : Details σ) {a : Act σ} {t : FutId}
    (book : Kind.book ∈ a.kinds det t) : Steady SameTrace (performCall det a) := by
  cases a with
  | cancelHandle id => exact .update fun _ => rfl
  | setQueryHandler name handler =>
    refine .bind (assertNotReadOnly_sameTrace _ _) fun _ => ?_
    cases handler with
    | none => exact .update fun _ => rfl
    | some fn => exact .bind (raiseError_steady _) fun _ => .update fun _ => rfl
  | setUpdateHandler name handler validator =>
    refine .bind (assertNotReadOnly_sameTrace _ _) fun _ => ?_
    cases handler with
    | none => exact .update fun _ => rfl
    | some fn => exact .bind (raiseError_steady _) fun _ => .update fun _ => rfl
  | startChildWorkflow input =>
    simp only [Act.kinds] at book
    split at book <;> simp at book
  | _ => simp [Act.kinds] at book

/-! ### Steps -/

/-- A job, whether it calls a method or not, is applied outside the loop. -/
theorem OneObject.of_job (det : Details σ) {m m' : Machine σ} (one : OneObject m)
    (wf : m.inst.WellFormed) (job : Job) (inst : m'.inst.trace = (applyJob det job m.inst).2.trace)
    (moves : Moves (.turn :: job.kinds) m.inst m'.inst)
    (place : m'.control.objectAt m.inst.object) : OneObject m' := by
  have notConstruct : Kind.construct ∉ .turn :: job.kinds := by cases job <;> simp [Job.kinds]
  by_cases book : Kind.book ∈ job.kinds
  · exact one.of_quiet wf moves notConstruct (inst.trans (applyJob_sameTrace det book m.inst)) place
  · refine one.of_moves wf moves notConstruct (fun member => ?_) place
    rcases List.mem_cons.mp member with turn | member
    · cases turn
    · exact absurd member book

/-- The code that a handle stops in runs on the object. -/
theorem handleNext_objectAt (det : Details σ) (m : Machine σ) (frame : Frame)
    {r : Except Exc (Option Ctx) × Inst σ} {object : Option Obj} (here : object = some 0)
    (inHandle : ∀ ctx s, r = (.ok (some ctx), s) → ctx.inHandle = true) :
    (m.handleNext det frame r).control.objectAt object := by
  rcases handleNext_control det m frame r with sdk | ⟨ctx, stopped, same⟩
  · cases control : (m.handleNext det frame r).control with
    | code ctx frame =>
      rw [control] at sdk
      cases sdk
    | outer | inner => exact here
    | _ => trivial
  · rw [same]
    have inside := inHandle ctx r.2 (Prod.ext stopped rfl)
    cases ctx with
    | init => cases inside
    | _ => exact here

theorem tick_oneObject (det : Details σ) {m m' : Machine σ} (wf : m.WellFormed) (one : OneObject m)
    (truthy : ObjectTruthy det m) (h : tick det m = some m') : OneObject m' := by
  have moves := tick_moves det h
  cases tick_cases det h with
  | complete control =>
    exact one.of_quiet wf.inst (complete_moves det m none) (by simp)
      (by rw [complete_inst]) (by rw [complete_control]; trivial)
  | skipSet | openSet | closeSet => exact ⟨trivial, one.count, one.calls⟩
  | @applied job rest frame s control run =>
    refine one.of_job det wf.inst job ?_ ?_ trivial
    · rw [run]
      rfl
    · simpa [Machine.stepKinds, control] using moves
  | @applyRaised job rest frame s e control run =>
    refine one.of_job det wf.inst job ?_ ?_ (by rw [raised_control]; trivial)
    · rw [run, raised_inst]
    · simpa [Machine.stepKinds, control] using moves
  | enter control object =>
    refine ⟨?_, one.count, one.calls⟩
    rcases one.count with ⟨none, -⟩ | ⟨created, -⟩
    · simp [none] at object
    · exact created
  | init control object =>
    refine ⟨?_, one.count, one.calls⟩
    rcases one.count with ⟨none, -⟩ | ⟨created, -⟩
    · exact none
    · -- an object that exists is truthy, so it is kept
      simp [created, truthy _ control (by simp [created])] at object
  | ran control => exact ⟨trivial, one.count, one.calls⟩
  | loop control =>
    have here := one.place
    rw [control] at here
    exact ⟨here, one.count, one.calls⟩
  | @handle frame handle rest control ready =>
    have here := one.place
    rw [control] at here
    simp only [Machine.stepKinds, control, ready] at moves
    have popped : (m.inst.setReady rest).WellFormed :=
      wf.inst.congr rfl rfl rfl (List.Sublist.refl _) rfl
    refine one.of_moves wf.inst moves ?_ (fun _ => here) (handleNext_objectAt det m frame here
      fun ctx s run => (handleRun_ready det popped run).2)
    intro member
    simp only [List.mem_cons, reduceCtorEq, false_or] at member
    -- no handle constructs the object
    cases m.inst.handleKinds_ofHandle _ _ member
  | checked control ready =>
    have here := one.place
    rw [control] at here
    simp only [Machine.stepKinds, control, ready] at moves
    exact one.of_moves wf.inst moves (by simp) (by simp) here
  | checkRaised control ready =>
    simp only [Machine.stepKinds, control, ready] at moves
    exact one.of_moves wf.inst moves (by simp) (by simp) (by rw [raised_control]; trivial)
  | unchecked control =>
    have here := one.place
    rw [control] at here
    exact ⟨here, one.count, one.calls⟩

/-- Code that ends other than the constructor leads to code on the same object. -/
theorem finishContext_objectAt (det : Details σ) {m : Machine σ} (wf : m.WellFormed) {ctx : Ctx}
    {frame : Frame} (control : m.control = .code ctx frame) (notInit : ctx ≠ .init)
    (r : Except Exc Obj) {object : Option Obj} (here : object = some 0) :
    (finishContext det m ctx frame r).control.objectAt object := by
  have ready := wf.code _ _ control
  cases ctx with
  | init => exact absurd rfl notInit
  | callback =>
    -- no code is called after a callback
    cases r with
    | ok v =>
      exact handleNext_objectAt det m frame (r := (.ok none, m.inst)) here fun _ _ run => by
        simp at run
    | error e =>
      exact handleNext_objectAt det m frame (r := (.error e, m.inst)) here fun _ _ run => by
        simp at run
  | validator t job defn i prev =>
    obtain ⟨⟨task, isTask, isUpdate⟩, pending, responds⟩ := ready
    refine handleNext_objectAt det m frame here fun ctx s run => ?_
    exact (stepBody_ready (K := [.update job.protocolInstanceId, .error, .progress, .book, .mode])
      (by simp) wf.inst isTask pending (finishValidator_moves det t job defn i prev r responds)
      (by rw [isUpdate]; exact finishValidator_ofTask det t job defn i prev r) run).2
  | task t =>
    obtain ⟨task, isTask, pending, -⟩ := ready
    simp only [finishContext, isTask]
    refine handleNext_objectAt det m frame here fun ctx s run => ?_
    exact (stepBody_ready (task.root.finish_not_mem_endKinds t) wf.inst isTask pending
      (finishCode_moves det t task.root r m.inst) (finishCode_ofTask det t task.root r) run).2

/-- Only the constructor creates an object. -/
theorem construct_not_mem_endKinds (s : Inst σ) {ctx : Ctx} (notInit : ctx ≠ .init) :
    Kind.construct ∉ s.endKinds ctx := by
  intro member
  cases ctx with
  | init => exact notInit rfl
  | callback => cases member
  | validator => simp [Inst.endKinds] at member
  | task t =>
    simp only [Inst.endKinds] at member
    split at member
    next task _ =>
      simp only [List.mem_cons, reduceCtorEq, false_or] at member
      cases task.root.endKinds_ofTask t _ member
    · cases member

theorem finishContext_oneObject (det : Details σ) {m : Machine σ} (wf : m.WellFormed)
    (one : OneObject m) {ctx : Ctx} {frame : Frame} (control : m.control = .code ctx frame)
    (r : Except Exc Obj) : OneObject (finishContext det m ctx frame r) := by
  have moves := finishContext_moves det m frame r wf.inst (wf.code _ _ control)
  have here := one.place
  rw [control] at here
  by_cases isInit : ctx = .init
  · subst isInit
    cases r with
    | ok v =>
      -- the first object, since there is none while the constructor runs
      have noObject : m.inst.object ≠ some 0 := by
        have none : m.inst.object = none := here
        simp [none]
      have first : m.inst.nextObject = 0 := by
        rcases one.count with ⟨-, first⟩ | ⟨created, -⟩
        · exact first
        · exact absurd created noObject
      refine ⟨?_, .inr ⟨?_, ?_⟩, fun o member => absurd (one.calls o member).2 noObject⟩
      · simp [finishContext, Control.objectAt, first]
      · simp [finishContext, first]
      · simp [finishContext, first]
    | error e =>
      exact one.of_quiet wf.inst (raised_moves det m e) (by simp) (by rw [finishContext, raised_inst])
        (by rw [finishContext, raised_control]; trivial)
  · have here : m.inst.object = some 0 := by
      cases ctx with
      | init => exact absurd rfl isInit
      | _ => exact here
    refine one.of_moves wf.inst moves ?_ (fun _ => here)
      (finishContext_objectAt det wf control isInit r here)
    intro member
    simp only [List.mem_cons, reduceCtorEq, false_or] at member
    exact construct_not_mem_endKinds m.inst isInit member

theorem perform_oneObject (det : Details σ) {m m' : Machine σ} {a : Act σ} (wf : m.WellFormed)
    (one : OneObject m) (h : perform det m a = some m') : OneObject m' := by
  have notConstruct (t : FutId) : Kind.construct ∉ a.kinds det t := fun member => by
    simpa using a.kinds_subset det t member
  cases perform_cases det h with
  | ret control v => exact finishContext_oneObject det wf one control _
  | raise control e => exact finishContext_oneObject det wf one control _
  | @call ctx frame _ control enabled =>
    have moves := performCall_moves det ctx.owner a enabled
    by_cases book : Kind.book ∈ a.kinds det ctx.owner
    · exact one.of_quiet wf.inst moves (notConstruct _) (performCall_sameTrace det book m.inst)
        one.place
    · exact one.of_moves wf.inst moves (notConstruct _) (fun member => absurd member book) one.place
  | @await t frame _ call r s control enabled await run =>
    have here := one.place
    rw [control] at here
    have moves := performAwait_moves det t await m.inst
    rw [run] at moves
    exact one.of_moves wf.inst moves (notConstruct _) (fun _ => here) one.place
  | @suspend t frame _ call s control enabled await run =>
    have here := one.place
    rw [control] at here
    have moves := perform_moves det wf h
    refine one.of_moves wf.inst moves ?_ (fun _ => here)
      (handleNext_objectAt det m frame here fun ctx s run => ?_)
    · intro member
      cases stepKinds_makes member with
      | always _ h => simp at h
      | ends control' _ member =>
        have same := control.symm.trans control'
        cases same
        exact construct_not_mem_endKinds m.inst (by simp) member
      | call _ member => exact notConstruct _ member
      | await _ _ own => cases own
    · cases (stepNext_code run).1

theorem step_oneObject (det : Details σ) {m m' : Machine σ} {l : Label σ} (wf : m.WellFormed)
    (one : OneObject m) (truthy : ObjectTruthy det m) (h : step det m l = some m') :
    OneObject m' := by
  cases l with
  | activate jobs isReplaying =>
    simp only [step] at h
    split at h
    · cases h
      exact ⟨trivial, one.count, one.calls⟩
    · cases h
  | tick => exact tick_oneObject det wf one truthy h
  | act a => exact perform_oneObject det wf one h

/-! ### Main result -/

/-- In every run in which the object is truthy whenever `_run_once` looks at it:
the class has been instantiated at most once, and exactly once where handles run
or workflow code other than the constructor does; every method was called on
that object. If it is falsy at one point of such a run, `_run_once` goes on to
instantiate the class a second time. -/
theorem one_workflow_object (det : Details σ) (mem : σ) {m : Machine σ}
    (reach : Reach det (fun m _ => ObjectTruthy det m) (Machine.init det mem) m) :
    (m.inst.nextObject ≤ 1 ∧
      (∀ frame, m.control = .outer frame ∨ m.control = .inner frame ∨
        (∃ ctx, m.control = .code ctx frame ∧ ctx ≠ .init) →
        m.inst.object = some 0 ∧ m.inst.nextObject = 1) ∧
      ∀ o, .methodCall o ∈ m.inst.trace → o = some 0 ∧ m.inst.nextObject = 1) ∧
    (¬ObjectTruthy det m → ∃ frame, m.inst.nextObject = 1 ∧
      tick det m = some { m with control := .code .init frame }) := by
  have start : OneObject (Machine.init det mem) := by
    refine ⟨trivial, .inl ⟨rfl, rfl⟩, ?_⟩
    intro o member
    cases member
  have one := (reach.invariant (init_wellFormed det mem) start
    fun m l m' wf one truthy h => step_oneObject det wf one truthy h).1
  have created (object : m.inst.object = some 0) : m.inst.nextObject = 1 := by
    rcases one.count with ⟨none, -⟩ | ⟨-, count⟩
    · rw [object] at none
      cases none
    · exact count
  refine ⟨⟨?_, ?_, fun o member => ?_⟩, fun falsy => ?_⟩
  · rcases one.count with ⟨-, count⟩ | ⟨-, count⟩ <;> omega
  · intro frame place
    have here := one.place
    have object : m.inst.object = some 0 := by
      rcases place with control | control | ⟨ctx, control, notInit⟩
      · rw [control] at here
        exact here
      · rw [control] at here
        exact here
      · rw [control] at here
        cases ctx with
        | init => exact absurd rfl notInit
        | _ => exact here
    exact ⟨object, created object⟩
  · obtain ⟨first, object⟩ := one.calls o member
    exact ⟨first, created object⟩
  · simp only [ObjectTruthy, not_forall, Bool.not_eq_true] at falsy
    obtain ⟨frame, control, object, falsy⟩ := falsy
    refine ⟨frame, ?_, by simp [tick, control, falsy]⟩
    rcases one.count with ⟨none, -⟩ | ⟨-, count⟩
    · simp [none] at object
    · exact count

/-- A workflow whose object is a collection: it has a `__len__`, and is falsy as
long as it is empty. It handles signals named `a`. -/
def Details.sized : Details Nat :=
  { Details.plain with
    signals := Dict.empty.set (some "a") ⟨some "a", 7, true, none, false, none⟩
    objectTruthy := fun size => size != 0 }

/-- A signal and the start in one activation, up to the run method; `first` is
what the constructor does. -/
def signalThenStart (first : Nat → Nat) : List (Label Nat) :=
  Label.activate [.signalWorkflow ⟨"a", []⟩, .startWorkflow []] false :: List.replicate 5 Label.tick ++
    [Label.act (.write first), Label.act (.ret 0)] ++ List.replicate 2 Label.tick ++
    [Label.act (.ret 0)] ++ List.replicate 8 Label.tick

/-- The constructor puts something into the collection. -/
theorem one_workflow_object_filled : ∃ m,
    runWhile Details.sized (fun m _ => ObjectTruthy Details.sized m) (Machine.init Details.sized 0)
      (signalThenStart (· + 1)) = some m ∧ .methodCall (some 0) ∈ m.inst.trace ∧
    m.inst.nextObject = 1 := by
  have evaluated : (runWhile Details.sized (fun m _ => ObjectTruthy Details.sized m)
      (Machine.init Details.sized 0) (signalThenStart (· + 1))).map (fun m =>
        decide (.methodCall (some 0) ∈ m.inst.trace)) = some true := by decide +kernel
  obtain ⟨m, ran, called⟩ := Option.map_eq_some_iff.mp evaluated
  have called := of_decide_eq_true called
  exact ⟨m, ran, called,
    ((one_workflow_object Details.sized 0 (.of_runWhile ran)).1.2.2 _ called).2⟩

/-- The collection stays empty: the signal is handled on one object and the run
method is called on another. -/
theorem falsy_object_replaced : ∃ m,
    run Details.sized (Machine.init Details.sized 0) (signalThenStart id ++
      .act (.ret 0) :: List.replicate 2 .tick) = some m ∧
    m.inst.nextObject = 2 ∧ .methodCall (some 0) ∈ m.inst.trace ∧
    .methodCall (some 1) ∈ m.inst.trace := by
  have evaluated : (run Details.sized (Machine.init Details.sized 0) (signalThenStart id ++
      .act (.ret 0) :: List.replicate 2 .tick)).map (fun m => decide (m.inst.nextObject = 2) &&
        decide (.methodCall (some 0) ∈ m.inst.trace) &&
        decide (.methodCall (some 1) ∈ m.inst.trace)) = some true := by decide +kernel
  obtain ⟨m, ran, checked⟩ := Option.map_eq_some_iff.mp evaluated
  simp only [Bool.and_eq_true, decide_eq_true_eq] at checked
  exact ⟨m, ran, checked.1.1, checked.1.2, checked.2⟩

end TemporalSdk.Workflow
