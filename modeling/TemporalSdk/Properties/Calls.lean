import TemporalSdk.Tickets
import TemporalSdk.Workflow.CallResolution

/-!
# Outbound calls over whole runs

Core and the instance talk about activities, child workflows, external signals
and external cancels by sequence numbers. A run that hands over all its
completions, in which no job is refused and in which no call raises after its
command was added, keeps books of them: the tables of pending calls hold exactly
what has been issued and not been resolved.

## Main results

* `calls_accounted`: in every such run each call is issued once, is resolved at
  most once and only after it has been issued, and has an entry in its table
  exactly from the one to the other.

## Proof strategy

`Books` is what each step needs to know about the instance. A step either makes
calls (`Extended`), or answers some (`Answered`), or is refused; `CallStep` says
so of the machine, and the ledger `Tickets` follows from it.
-/
namespace TemporalSdk.Workflow

open Eff

variable {σ : Type}

/-! ### Runs that lose nothing -/

/-- The call does not raise after its command was added: what is converted after
the command converts. Otherwise the command goes out and nothing is pending. -/
def Act.sound (det : Details σ) : Act σ → Bool
  | .startActivity input => validRetryPolicy input.retryPolicy
  | .startChildWorkflow input => input.valid det
  | _ => true

def Label.sound (det : Details σ) : Label σ → Bool
  | .act a => a.sound det
  | _ => true

def Entry.refused : Entry → Bool
  | .raised _ => true
  | _ => false

/-- Every completion has been handed over, and no exception has left a job or
`_run_once`. -/
def Machine.clean (m : Machine σ) : Bool := !m.failed && m.journal.all fun e => !e.refused

theorem clean_iff {m : Machine σ} :
    m.clean = true ↔ m.failed = false ∧ ∀ e ∈ m.journal, e.refused = false := by
  simp [Machine.clean]

/-- The child workflows that core has reported as started. -/
def reported (journal : List Entry) : List Nat := journal.filterMap fun
  | .applied job => job.begins?
  | _ => none

structure CallsKept (m : Machine σ) : Prop where
  books : Books (· ∈ calls m.emitted) (· ∈ reported m.journal) m.inst
  tickets : Tickets (calls m.emitted) (resolved m.journal) m.inst.awaits
  idle : m.control = .idle → m.inst.commands = []

/-! ### One step -/

/-- What is noted in the journal beside the jobs. -/
def Entry.plain : Entry → Bool
  | .checked _ | .ran _ _ => true
  | _ => false

/-- A step makes calls, answers some, or is refused. -/
inductive CallStep (m m' : Machine σ) : Prop
  | made {new : List Call} {s : Inst σ}
      (extended : Extended (· ∈ calls m.emitted) (· ∈ reported m.journal) m.inst new s)
      (settles : m.Settles s m')
      (journal : m'.journal = m.journal ∨ ∃ e, e.plain = true ∧ m'.journal = m.journal ++ [e])
  | answered {job : Job} {s : Inst σ}
      (answered : Answered (· ∈ calls m.emitted) (· ∈ reported m.journal) m.inst job s)
      (settles : m.Settles s m') (journal : m'.journal = m.journal ++ [.applied job])
  | refused {e : Exc} (journal : m'.journal = m.journal ++ [.raised e])

/-- The end of an activation clears the commands. -/
theorem Books.turned {s : Inst σ} {made : Call → Prop} {begun : Nat → Prop}
    (books : Books made begun s) (activationError : Option Error) (isReplaying : Bool) :
    Books made begun { s with
      commands := [], activationError := activationError, isReplaying := isReplaying } := by
  have moves : Moves [.turn] s { s with
      commands := [], activationError := activationError, isReplaying := isReplaying } :=
    .of_move (by simp) (.turn s activationError isReplaying)
  have grow : PromisesGrow s { s with
      commands := [], activationError := activationError, isReplaying := isReplaying } :=
    ⟨Nat.le_refl _, fun _ _ => rfl⟩
  refine ⟨books.toSound.moves moves (by simp [Kind.spares]), ?_, ?_, ?_, ?_⟩
  · exact books.activities.grown books.owned grow (fun _ => .rfl) (fun _ _ isTask _ => isTask) rfl rfl
      rfl rfl rfl (fun _ => id) fun x p _ held => by cases x <;> exact held
  · exact books.children.grown books.owned grow (fun _ => id) (fun _ _ => rfl) (Nat.le_refl _) rfl
  · exact books.signals.grown books.owned grow rfl rfl
  · exact books.cancels.same rfl (fun _ _ => id) (.of_eq rfl)

/-- Nothing is lost between the instance and the completions. -/
theorem Machine.Settles.kept {m m' : Machine σ} {s : Inst σ} {made : Call → Prop}
    {begun : Nat → Prop} (settles : m.Settles s m') (idle : m.control = .idle → m.inst.commands = [])
    (clean : m'.failed = false) (books : Books made begun s) :
    calls m'.emitted = calls m.sent ++ calls s.commands ∧ m'.inst.awaits = s.awaits ∧
      Books made begun m'.inst := by
  cases settles with
  | goesOn inst sent failed running =>
    rw [Machine.emitted, inst, sent, calls_append]
    exact ⟨rfl, rfl, books⟩
  | begins isIdle same jobs isReplaying =>
    subst same
    refine ⟨?_, rfl, books.turned none isReplaying⟩
    simp [Machine.emitted, Machine.activate, idle isIdle, calls]
  | sends control inst sent failed =>
    rw [Machine.emitted, inst, sent, List.append_nil, calls_append]
    exact ⟨rfl, rfl, books.turned s.activationError s.isReplaying⟩
  | loses control inst sent failed =>
    rw [failed] at clean
    cases clean

theorem CallsKept.step {m m' : Machine σ} {det : Details σ} {l : Label σ} (kept : CallsKept m)
    (wf : m.WellFormed) (h : step det m l = some m') (progress : CallStep m m')
    (clean : m'.clean = true) : CallsKept m' := by
  obtain ⟨notFailed, journalled⟩ := clean_iff.mp clean
  have idle := step_idle_commands det wf h
  cases progress with
  | @refused e journal => cases journalled (.raised e) (by simp [journal])
  | @made new s extended settles journal =>
    obtain ⟨emitted, awaits, books⟩ := settles.kept kept.idle notFailed extended.books
    have issued : calls m'.emitted = calls m.emitted ++ new := by
      rw [emitted, extended.commands, ← List.append_assoc, ← calls_append]
      rfl
    have same : resolved m'.journal = resolved m.journal ∧
        reported m'.journal = reported m.journal := by
      rcases journal with journal | ⟨e, plain, journal⟩
      · rw [journal]
        exact ⟨rfl, rfl⟩
      · rw [journal, resolved_append]
        cases e <;> cases plain <;> simp [resolved, Entry.ends?, reported]
    refine ⟨?_, ?_, idle⟩
    · rw [issued, same.2]
      exact books.congr fun call => by simp
    · rw [issued, same.1]
      refine kept.tickets.issueAll extended.distinct extended.fresh fun call => ?_
      rw [awaits]
      exact extended.awaits call
  | @answered job s answered settles journal =>
    obtain ⟨emitted, awaits, books⟩ := settles.kept kept.idle notFailed answered.books
    have issued : calls m'.emitted = calls m.emitted := by
      rw [emitted, answered.commands, ← calls_append]
      rfl
    have ended : resolved m'.journal = resolved m.journal ++ job.ends?.toList := by
      rw [journal, resolved_append]
      cases ends : job.ends? <;> simp [resolved, Entry.ends?, ends]
    have begun (seq : Nat) : seq ∈ reported m'.journal ↔
        seq ∈ reported m.journal ∨ job.begins? = some seq := by
      rw [journal, reported, List.filterMap_append, List.mem_append]
      cases begins : job.begins? <;> simp [reported, begins, eq_comm]
    refine ⟨?_, ?_, idle⟩
    · have same : (· ∈ reported m'.journal) =
          fun seq => seq ∈ reported m.journal ∨ job.begins? = some seq :=
        funext fun seq => propext (begun seq)
      rw [issued, same]
      exact books
    · rw [issued, ended]
      have now (call : Call) : m'.inst.awaits call = true ↔
          m.inst.awaits call = true ∧ job.ends? ≠ some call := by
        rw [awaits]
        exact answered.awaits call
      cases ends : job.ends? with
      | none =>
        rw [Option.toList_none, List.append_nil]
        exact kept.tickets.congr fun call => by
          rw [Bool.eq_iff_iff, now, ends]
          simp
      | some call =>
        rw [Option.toList_some]
        refine kept.tickets.finish (answered.held call ends) fun other => ?_
        rw [now, ends, ne_eq, Option.some.injEq]
        exact and_congr_right fun _ => not_congr eq_comm

/-! ### What a step does -/

section Steps

variable {det : Details σ} {m m' : Machine σ}

/-- The task that a handle steps is there. -/
theorem Woken.stepped {s : Inst σ} (woken : Woken s) {h : Handle} {t : FutId} (member : h ∈ s.ready)
    (steps : s.steps h t) : ∃ task, s.tasks t = some task := by
  rcases steps with rfl | ⟨f, rfl⟩ | ⟨o, rfl, owner⟩
  · obtain ⟨task, isTask, -⟩ := woken.step t member
    exact ⟨task, isTask⟩
  · obtain ⟨task, isTask, -⟩ := woken.callback t f member
    exact ⟨task, isTask⟩
  · obtain ⟨task, isTask, -⟩ := woken.outer o (woken.bound o member)
    exact ⟨task, owner ▸ isTask⟩

theorem Root.kinds_foreign (s : Inst σ) {t : FutId} {root : Root} (other : root ≠ .activity) :
    ∀ k ∈ root.kinds t, k.foreign = true ∧ (k = .own t ∨ k.spares s) := by
  cases root with
  | activity => exact absurd rfl other
  | _ => simp [Root.kinds, Kind.foreign, Kind.spares]

/-- A task that is no activity makes no call when it is stepped. -/
theorem Inst.stepKinds_foreign {s : Inst σ} {t : FutId} (coded : s.coded t) :
    ∀ k ∈ Kind.wake t :: .finish t :: .own t :: s.rootKinds t, k.foreign = true ∧ k.spares s := by
  have mine {k : Kind} (own : k = .own t ∨ k = .wake t) : k.foreign = true ∧ k.spares s := by
    rcases own with rfl | rfl
    · exact ⟨rfl, by simpa [Kind.spares] using coded⟩
    · exact ⟨rfl, by simpa [Kind.spares] using coded⟩
  intro k member
  simp only [List.mem_cons] at member
  rcases member with rfl | rfl | rfl | member
  · exact mine (.inr rfl)
  · simp [Kind.foreign, Kind.spares]
  · exact mine (.inl rfl)
  · obtain ⟨task, isTask, other⟩ := coded
    simp only [rootKinds, isTask, Task.kinds, if_neg other] at member
    split at member
    · obtain ⟨foreign, rfl | spares⟩ := Root.kinds_foreign s other k member
      · exact mine (.inl rfl)
      · exact ⟨foreign, spares⟩
    · exact mine (.inl (List.mem_singleton.mp member))

/-- Running a handle makes the calls that a backoff makes again. -/
theorem Extended.handled {s : Inst σ} {made : Call → Prop} {begun : Nat → Prop}
    (books : Books made begun s) {h : Handle} {rest : List Handle} (ready : s.ready = h :: rest)
    (det : Details σ) : ∃ new, Extended made begun s new (handleRun det h (s.setReady rest)).2 := by
  have moves := popHandle_moves det ready
  have member : h ∈ s.ready := by simp [ready]
  by_cases activity : ∃ t, s.steps h t ∧ s.ofRoot t .activity
  · obtain ⟨t, steps, isActivity⟩ := activity
    obtain ⟨made', r', reissued, consistent⟩ :=
      books.consistent.handleRun ready steps isActivity det
    refine Extended.of_turn books moves (fun resolve => ?_) reissued consistent
    simp only [List.mem_cons] at resolve
    rcases resolve with same | same | resolve
    · cases same
    · cases same
    · cases s.handleKinds_ofHandle h _ resolve
  · have foreign : ∀ k ∈ Kind.pop :: .book :: s.handleKinds h, k.foreign = true ∧ k.spares s := by
      intro k kind
      simp only [List.mem_cons] at kind
      rcases kind with rfl | rfl | kind
      · simp [Kind.foreign, Kind.spares]
      · simp [Kind.foreign, Kind.spares]
      · rcases Inst.handleKinds_steps kind with rfl | ⟨t, steps, kind⟩
        · simp [Kind.foreign, Kind.spares]
        · obtain ⟨task, isTask⟩ := books.woken.stepped member steps
          have other : task.root ≠ .activity := fun root =>
            activity ⟨t, steps, task, isTask, root⟩
          exact Inst.stepKinds_foreign ⟨task, isTask, other⟩ k kind
    exact ⟨[], .of_foreign books moves (fun k kind => (foreign k kind).1)
      fun k kind => (foreign k kind).2⟩

theorem CallStep.handled {new : List Call} {frame : Frame} {r : Except Exc (Option Ctx) × Inst σ}
    (extended : Extended (· ∈ calls m.emitted) (· ∈ reported m.journal) m.inst new r.2) :
    CallStep m (m.handleNext det frame r) := by
  rcases handleNext_quiet det m frame r with same | ⟨e, raised⟩
  · obtain ⟨s, moves, settles⟩ := handleNext_settles det m frame r
    exact .made (extended.foreign moves (by simp [Kind.foreign]) (by simp [Kind.spares])) settles
      (.inl same)
  · exact .refused raised

theorem CallStep.unchanged (kept : CallsKept m) (inst : m'.inst = m.inst) (sent : m'.sent = m.sent)
    (failed : m'.failed = m.failed) (running : m'.control ≠ .idle)
    (journal : m'.journal = m.journal ∨ ∃ e, e.plain = true ∧ m'.journal = m.journal ++ [e]) :
    CallStep m m' :=
  .made (.refl kept.books) (.goesOn inst sent failed running) journal

theorem tick_callStep (kept : CallsKept m) (h : tick det m = some m') : CallStep m m' := by
  cases tick_cases det h with
  | complete =>
    exact .made (.refl kept.books) (complete_settles det m none) (.inl (complete_journal det m none))
  | ran =>
    exact .unchanged kept rfl rfl rfl (by simp [Machine.note]) (.inr ⟨_, rfl, rfl⟩)
  | @applied job rest frame s control run =>
    exact .answered
      (.job kept.books (fun call isHeld => kept.tickets.held_issued isHeld) det job run)
      (.goesOn rfl rfl rfl (by simp [Machine.goto, Machine.note])) rfl
  | applyRaised | checkRaised => exact .refused (raised_journal det _ _)
  | @handle frame handle rest control ready =>
    obtain ⟨new, extended⟩ := Extended.handled kept.books ready det
    exact .handled extended
  | @checked frame s control ready checks run =>
    have checked := checkConditions_moves m.inst
    rw [run] at checked
    exact .made (.of_foreign kept.books checked (by simp [Kind.foreign]) (by simp [Kind.spares]))
      (.goesOn rfl rfl rfl (by simp [Machine.goto, Machine.note])) (.inr ⟨_, rfl, rfl⟩)
  | _ => exact .unchanged kept rfl rfl rfl (by simp) (.inl rfl)

/-- The task that workflow code runs in, where it runs in one. -/
def Ctx.task? : Ctx → Option FutId
  | .task t | .validator t _ _ _ _ => some t
  | .callback | .init => none

theorem Ctx.Ready.coded {s : Inst σ} {ctx : Ctx} (ready : ctx.Ready s) :
    ∀ t, ctx.task? = some t → s.coded t := by
  rintro t isTask
  cases ctx with
  | task t' =>
    cases isTask
    obtain ⟨task, isTask, -, isCode⟩ := ready
    refine ⟨task, isTask, fun root => ?_⟩
    rw [root] at isCode
    cases isCode
  | validator t' job defn i prev =>
    cases isTask
    obtain ⟨⟨task, isTask, root⟩, -⟩ := ready
    exact ⟨task, isTask, by simp [root]⟩
  | callback | init => cases isTask

/-- The end of workflow code makes no call. -/
theorem finishContext_callStep (kept : CallsKept m) (wf : m.WellFormed) {ctx : Ctx} {frame : Frame}
    (control : m.control = .code ctx frame) (r : Except Exc Obj) :
    CallStep m (finishContext det m ctx frame r) := by
  have ends : ∀ k ∈ Kind.command :: .book :: m.inst.endKinds ctx,
      k.foreign = true ∧ k.spares m.inst := by
    have coded := Ctx.Ready.coded (wf.code _ _ control)
    cases ctx with
    | task t =>
      have mine := coded t rfl
      have ⟨task, isTask, _⟩ := mine
      simp only [Inst.endKinds, isTask]
      cases task.root <;> simpa [Root.endKinds, Kind.foreign, Kind.spares] using mine
    | validator t job defn i prev =>
      simpa [Inst.endKinds, Kind.foreign, Kind.spares] using coded t rfl
    | callback | init => simp [Inst.endKinds, Kind.foreign, Kind.spares]
  rcases finishContext_quiet det m ctx frame r with same | ⟨e, raised⟩
  · obtain ⟨s, moves, settles⟩ := finishContext_settles det r wf control
    exact .made (.of_foreign kept.books moves (fun k member => (ends k member).1)
      fun k member => (ends k member).2) settles (.inl same)
  · exact .refused raised

/-- A call that may suspend the task. -/
theorem Extended.awaited {s : Inst σ} {made : Call → Prop} {begun : Nat → Prop}
    (books : Books made begun s) {t : FutId} (coded : s.coded t) {a : Act σ}
    (sound : a.sound det = true) {program : Wf σ (Option Obj)}
    (await : performAwait det t a = some program) :
    ∃ new, Extended made begun s new (program s).2 := by
  have mine {K : List Kind} (moves : Moves K s (program s).2) (known : K ⊆ [.own t, .condition]) :
      ∃ new, Extended made begun s new (program s).2 := by
    refine ⟨[], .of_foreign books (moves.mono known) (by simp [Kind.foreign]) ?_⟩
    simpa [Kind.spares] using coded
  have moves := performAwait_moves det t await s
  cases a with
  | await f => exact mine moves (by simp [Act.kinds])
  | bareYield => exact mine moves (by simp [Act.kinds])
  | waitCondition fn => exact mine moves (by simp [Act.kinds])
  | startChildWorkflow input =>
    cases await
    exact Extended.startChild books det coded sound
  | signalExternalWorkflow ofChild args =>
    cases await
    exact Extended.signalExternal books det coded ofChild args
  | cancelExternalWorkflow =>
    cases await
    exact Extended.cancelExternal books coded
  | _ => cases await

theorem perform_callStep (kept : CallsKept m) (wf : m.WellFormed) {a : Act σ}
    (sound : a.sound det = true) (h : perform det m a = some m') : CallStep m m' := by
  cases perform_cases det h with
  | ret control v => exact finishContext_callStep kept wf control _
  | raise control e => exact finishContext_callStep kept wf control _
  | @call ctx frame _ control enabled =>
    have issued : ∃ new, Extended (· ∈ calls m.emitted) (· ∈ reported m.journal) m.inst new
        (performCall det a m.inst).2 := by
      cases awaits : a.awaits with
      | true =>
        rw [performCall_awaits det awaits]
        exact ⟨[], .refl kept.books⟩
      | false =>
        cases a with
        | startActivity input =>
          obtain ⟨new, extended⟩ := Extended.startActivity kept.books det sound
          refine ⟨new, ?_⟩
          have same : (performCall det (.startActivity input) m.inst).2 =
              (workflowStartActivity det input m.inst).2 := by
            simp only [performCall, bind_run]
            split <;> simp [*]
          rw [same]
          exact extended
        | await | bareYield | waitCondition | startChildWorkflow | signalExternalWorkflow
        | cancelExternalWorkflow => cases awaits
        | _ => exact ⟨[], .of_foreign kept.books (performCall_moves det ctx.owner _ enabled)
            (by simp [Act.kinds, Kind.foreign]) (by simp [Act.kinds, Kind.spares])⟩
    obtain ⟨new, extended⟩ := issued
    exact .made extended (.goesOn rfl rfl rfl (by simp [control])) (.inl rfl)
  | @await t frame _ program r s control enabled await run =>
    obtain ⟨new, extended⟩ := Extended.awaited kept.books
      (Ctx.Ready.coded (wf.code _ _ control) t rfl) sound await
    rw [run] at extended
    exact .made extended (.goesOn rfl rfl rfl (by simp [control])) (.inl rfl)
  | @suspend t frame _ program s control enabled await run =>
    have coded := Ctx.Ready.coded (wf.code _ _ control) t rfl
    have moves := performAwait_moves det t await m.inst
    obtain ⟨new, extended⟩ := Extended.awaited kept.books coded sound await
    rw [run] at extended moves
    exact .handled (extended.awaits_own (moves.coded wf.inst coded)
      (Steady.bind (afterSuspend_moves (by simp)) (fun _ => .pure _) s))

theorem step_callStep (kept : CallsKept m) (wf : m.WellFormed) {l : Label σ}
    (sound : l.sound det = true) (h : step det m l = some m') : CallStep m m' := by
  cases l with
  | activate jobs isReplaying =>
    simp only [step] at h
    split at h
    next idle =>
      cases h
      exact .made (.refl kept.books) (.begins idle rfl jobs isReplaying) (.inl rfl)
    · cases h
  | tick => exact tick_callStep kept h
  | act a => exact perform_callStep kept wf sound h

end Steps

/-! ### Whole runs -/

section Runs

variable {det : Details σ} {m m' : Machine σ}

/-- What has been noted stays noted. -/
theorem step_journal {l : Label σ} (h : step det m l = some m') : m.journal <+: m'.journal := by
  have quiet {m m' : Machine σ} (quiet : m.Quiet m') : m.journal <+: m'.journal := by
    rcases quiet with same | ⟨e, raised⟩
    · exact same ▸ List.prefix_rfl
    · exact ⟨_, raised.symm⟩
  cases l with
  | activate jobs isReplaying =>
    simp only [step] at h
    split at h
    · cases h
      exact List.prefix_rfl
    · cases h
  | tick =>
    cases tick_cases det h with
    | complete => exact complete_journal det m none ▸ List.prefix_rfl
    | applied | ran | checked => exact ⟨_, rfl⟩
    | @applyRaised _ _ _ s e | @checkRaised _ s e =>
      exact ⟨_, (raised_journal det { m with inst := s } e).symm⟩
    | handle => exact quiet (handleNext_quiet det m _ _)
    | _ => exact List.prefix_rfl
  | act a => exact quiet (perform_quiet det h)

theorem step_clean {l : Label σ} (wf : m.WellFormed) (h : step det m l = some m')
    (clean : m'.clean = true) : m.clean = true := by
  obtain ⟨notFailed, journalled⟩ := clean_iff.mp clean
  refine clean_iff.mpr ⟨?_, fun e member => journalled e ((step_journal h).subset member)⟩
  obtain ⟨s, -, settles⟩ := step_settles det wf h
  cases settles with
  | goesOn _ _ failed => exact failed ▸ notFailed
  | begins => exact notFailed
  | sends _ _ _ failed => exact failed ▸ notFailed
  | loses _ _ _ failed => cases failed.symm.trans notFailed

/-- At the start there is nothing to keep books of. -/
theorem callsKept_init (det : Details σ) (mem : σ) : CallsKept (Machine.init det mem) := by
  have noTask (t : FutId) : (Machine.init det mem).inst.tasks t = none := rfl
  have noHandle (t : FutId) (root : Root) : ¬(Machine.init det mem).inst.ofRoot t root := by
    rintro ⟨task, isTask, -⟩
    cases isTask
  have noSlot (x : Slot) (p : PromiseId) : ¬(Machine.init det mem).inst.Holds x p := by
    intro held
    cases x with
    | activity t | childStart t | childResult t => exact noHandle t _ held.1
    | signal seq => cases held
  have noCall (call : Call) : call ∉ calls (Machine.init det mem).emitted := by
    simp [Machine.init, Machine.emitted, Inst.init, calls]
  have owned : Owned (Machine.init det mem).inst :=
    ⟨fun x p held => absurd held (noSlot x p), fun x y p held => absurd held (noSlot x p),
      fun _ _ _ held => by (cases held), fun _ => Nat.le_refl _,
      fun t _ isActivity => absurd isActivity (noHandle t _), fun _ => Nat.le_refl _⟩
  have placed : Placed (Machine.init det mem).inst :=
    ⟨fun _ _ _ isTask => by (cases isTask), fun _ _ => rfl, fun _ _ sleep => by (cases sleep)⟩
  have woken : Woken (Machine.init det mem).inst :=
    ⟨fun _ member => by (cases member), fun _ _ member => by (cases member),
      fun _ _ member => by (cases member), fun _ member => by (cases member),
      fun o bound => absurd bound (Nat.not_lt_zero o)⟩
  refine ⟨⟨⟨(init_wellFormed det mem).inst, owned, placed, woken⟩, ?_, ?_, ?_, ?_⟩, ?_, fun _ => rfl⟩
  · exact ⟨fun t isActivity => absurd isActivity (noHandle t _),
      fun seq isMade => absurd isMade (noCall _), fun _ _ entry => by (cases entry),
      fun t isActivity => absurd isActivity (noHandle t _),
      fun t _ isActivity => absurd isActivity (noHandle t _), fun _ _ isTask => by (cases isTask),
      fun o bound => absurd bound (Nat.not_lt_zero o),
      fun o bound => absurd bound (Nat.not_lt_zero o)⟩
  · exact ⟨fun seq isMade => absurd isMade (noCall _), fun _ _ entry => by (cases entry),
      fun _ _ entry => by (cases entry)⟩
  · exact ⟨fun seq isMade => absurd isMade (noCall _), fun _ _ entry => by (cases entry)⟩
  · exact ⟨fun seq isMade => absurd isMade (noCall _), fun _ _ entry => by (cases entry)⟩
  · refine Tickets.empty.congr fun call => ?_
    obtain ⟨kind, seq⟩ := call
    cases kind <;> rfl

/-- The books are in order as long as nothing is refused. -/
theorem Reach.callsKept {mem : σ}
    (reach : Reach det (fun _ l => l.sound det = true) (Machine.init det mem) m)
    (clean : m.clean = true) : CallsKept m := by
  have kept := (reach.invariant (I := fun m => m.clean = true → CallsKept m)
    (init_wellFormed det mem) (fun _ => callsKept_init det mem) ?_).1
  · exact kept clean
  · intro m l m' wf kept sound h clean
    have before := kept (step_clean wf h clean)
    exact before.step wf h (step_callStep before wf sound h) clean

/-- If no call raises after its command was added, each call is issued once, is
answered at most once and only after it has been issued, and has an entry from
the one to the other. -/
theorem calls_accounted (det : Details σ) (mem : σ) {m : Machine σ}
    (reach : Reach det (fun _ l => l.sound det = true) (Machine.init det mem) m)
    (clean : m.clean = true) : Tickets (calls m.emitted) (resolved m.journal) m.inst.awaits :=
  (reach.callsKept clean).tickets

end Runs

/-- An activity, a local activity that has to back off and is scheduled again,
and a request to cancel an external workflow that is itself cancelled. -/
def scheduledAgain : List (Label Nat) :=
  Label.activate [.startWorkflow []] false :: List.replicate 6 Label.tick ++ Label.act (.ret 0) ::
    List.replicate 2 Label.tick ++ [Label.act (.startActivity ⟨false, [], none, true, none⟩),
    Label.act (.startActivity ⟨true, [], none, true, none⟩), Label.act .cancelExternalWorkflow] ++
    List.replicate 6 Label.tick ++
    Label.activate [.cancelWorkflow, .resolveActivity 2 (.backoff ⟨2, 0, 5000⟩)] false ::
    List.replicate 11 Label.tick ++ [Label.act (.createFuture .user), Label.act (.await 4)] ++
    List.replicate 6 Label.tick ++
    Label.activate [.resolveActivity 1 (.completed none), .fireTimer 1] false ::
    List.replicate 18 Label.tick

theorem calls_accounted_again : ∃ m,
    runWhile Details.plain (fun _ l => l.sound Details.plain = true) (Machine.init Details.plain 0)
      scheduledAgain = some m ∧
    calls m.emitted =
      [(.activity, 1), (.activity, 2), (.externalCancel, 1), (.activity, 3)] ∧
    resolved m.journal = [(.activity, 2), (.activity, 1)] ∧
    Tickets (calls m.emitted) (resolved m.journal) m.inst.awaits := by
  have evaluated : (runWhile Details.plain (fun _ l => l.sound Details.plain = true)
      (Machine.init Details.plain 0) scheduledAgain).map (fun m =>
        decide (calls m.emitted =
          [(.activity, 1), (.activity, 2), (.externalCancel, 1), (.activity, 3)]) &&
        decide (resolved m.journal = [(.activity, 2), (.activity, 1)]) && m.clean) = some true := by
    decide +kernel
  obtain ⟨m, ran, checked⟩ := Option.map_eq_some_iff.mp evaluated
  simp only [Bool.and_eq_true, decide_eq_true_eq] at checked
  exact ⟨m, ran, checked.1.1, checked.1.2,
    calls_accounted Details.plain 0 (Reach.of_runWhile ran) checked.2⟩

end TemporalSdk.Workflow
