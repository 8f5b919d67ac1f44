import TemporalSdk.Workflow.Cancellation
import TemporalSdk.Workflow.Tasks

/-!
# Where tasks stand

Between two steps of the machine, a task that is not done has not started, or
its coroutine is suspended at a point that its kind of coroutine has. The task
whose workflow code is in control is the only exception.
-/
namespace TemporalSdk.Workflow

open Eff

variable {σ : Type}

/-- The points at which a coroutine of this kind can be found between two steps. -/
def Root.stands : Root → Point → Bool
  | _, .start => true
  | .activity, .activityWait _ | .activity, .activitySleep _ _ _ | .activity, .activitySleepZero _
  | .child, .childWait _ => true
  | .activity, _ | .child, _ => false
  | _, .suspended _ | _, .signalExternal _ _ _ | _, .cancelExternal _ _ | _, .startChild _ _ => true
  | _, _ => false

/-- Every task but `X` stands where it can be resumed. -/
def Stands (X : Option FutId) (s : Inst σ) : Prop :=
  ∀ t task, X ≠ some t → s.tasks t = some task → s.isDone t = false →
    task.root.stands task.point = true

/-! ### Suspending -/

/-- If it suspends task `t`, it does so at a point of this kind of coroutine. -/
def SuspendsAt (t : FutId) (root : Root) (r : Option Obj) (s : Inst σ) : Prop :=
  r = none → ∀ task, s.tasks t = some task → root.stands task.point = true

theorem setPoint_suspends {t : FutId} {root : Root} {point : Point}
    (stands : root.stands point = true) : Returns (SuspendsAt t root) (do
      setPoint t point
      pure none : Wf σ (Option Obj)) := by
  intro s r s' run _ task isTask
  simp only [setPoint, update_bind_run, pure_run, Prod.mk.injEq] at run
  obtain ⟨-, rfl⟩ := run
  rw [Inst.mapTask] at isTask
  cases before : s.tasks t with
  | none =>
    rw [before] at isTask
    dsimp only at isTask
    rw [before] at isTask
    cases isTask
  | some old =>
    rw [before] at isTask
    simp only [Inst.setTask, Function.update_self, Option.some.injEq] at isTask
    rw [← isTask]
    exact stands

theorem suspendShield_suspends {t : FutId} {root : Root} {p : PromiseId} {point : OuterId → Point}
    (stands : ∀ o, root.stands (point o) = true) : Returns (SuspendsAt t root) (do
      suspendShield t p point
      pure none : Wf σ (Option Obj)) := by
  rw [suspendShield, bind_assoc]
  refine .read fun s => ?_
  rw [bind_assoc]
  exact .bind fun _ => setPoint_suspends (stands s.nextOuter)

/-- The wait for a future of workflow code or for an external cancel. -/
theorem suspendOn_suspends {t : FutId} {root : Root} {point : Point} {f : FutId}
    (stands : root.stands point = true) : Returns (SuspendsAt t root) (do
      suspendOn t point f
      pure none : Wf σ (Option Obj)) := by
  rw [suspendOn, bind_assoc]
  exact .bind fun _ => setPoint_suspends stands

theorem returned_suspends {t : FutId} {root : Root} (v : Obj) :
    Returns (SuspendsAt t root) (pure (some v) : Wf σ (Option Obj)) :=
  .pure fun _ returned => by cases returned

theorem awaitShield_suspends {t : FutId} {root : Root} {p : PromiseId} {point : OuterId → Point}
    (stands : ∀ o, root.stands (point o) = true) :
    Returns (SuspendsAt t root) (awaitShield t p point : Wf σ (Option Obj)) := by
  refine .read fun s => ?_
  split
  · exact returned_suspends _
  · exact .raise _
  · exact .raise _
  · exact suspendShield_suspends stands

/-! ### Activities -/

theorem activityBackoff_suspends (t : FutId) (b : DoBackoff) :
    Returns (SuspendsAt t .activity) (activityBackoff t b : Wf σ (Option Obj)) := by
  rw [activityBackoff]
  refine .bind fun delay => ?_
  split
  · exact setPoint_suspends rfl
  · exact .read fun _ => .bind fun _ => .bind fun _ => setPoint_suspends rfl

theorem activityLoop_suspends (t : FutId) :
    Returns (SuspendsAt t .activity) (activityLoop t : Wf σ (Option Obj)) := by
  refine .bind fun _ => .read fun s => ?_
  split
  next outcome _ =>
    cases outcome with
    | result v => exact returned_suspends v
    | exception e => exact .raise _
    | backoff b => exact activityBackoff_suspends t b
  · exact suspendShield_suspends fun _ => rfl

theorem activityReschedule_suspends (det : Details σ) (t : FutId) (b : DoBackoff) :
    Returns (SuspendsAt t .activity) (activityReschedule det t b) :=
  .read fun _ => .bind fun _ => .bind fun _ => activityLoop_suspends t

theorem activityStart_suspends (t : FutId) :
    Returns (SuspendsAt t .activity) (activityStart t : Wf σ (Option Obj)) := by
  refine .read fun s => ?_
  split
  · exact activityLoop_suspends t
  · exact .raise _

theorem activityWake_suspends (t : FutId) (input : Except Exc Obj) :
    Returns (SuspendsAt t .activity) (activityWake t input : Wf σ (Option Obj)) := by
  unfold activityWake
  split
  · exact returned_suspends _
  · exact activityBackoff_suspends t _
  · exact .read fun _ => .bind fun _ => activityLoop_suspends t
  · exact .raise _

theorem activitySleepWake_suspends (det : Details σ) (t : FutId) (b : DoBackoff) (timer : Nat)
    (input : Except Exc Obj) :
    Returns (SuspendsAt t .activity) (activitySleepWake det t b timer input) := by
  refine .bind fun _ => ?_
  split
  · exact activityReschedule_suspends det t b
  · exact .raise _

theorem activitySleepZeroWake_suspends (det : Details σ) (t : FutId) (b : DoBackoff)
    (input : Except Exc Obj) :
    Returns (SuspendsAt t .activity) (activitySleepZeroWake det t b input) := by
  unfold activitySleepZeroWake
  split
  · exact activityReschedule_suspends det t b
  · exact .raise _

/-! ### Child workflows and external workflows -/

theorem childStart_suspends (t : FutId) :
    Returns (SuspendsAt t .child) (childStart t : Wf σ (Option Obj)) := by
  refine .read fun s => ?_
  split
  · exact awaitShield_suspends fun _ => rfl
  · exact .raise _

theorem childWake_suspends (t : FutId) (input : Except Exc Obj) :
    Returns (SuspendsAt t .child) (childWake t input : Wf σ (Option Obj)) := by
  unfold childWake
  split
  · exact returned_suspends _
  · exact .bind fun _ => .read fun _ => awaitShield_suspends fun _ => rfl
  · exact .raise _

variable {root : Root}

/-- Workflow code of a task can await whatever it likes. -/
theorem Root.coded_stands (coded : root.coded = true) {point : Point}
    (awaits : (∃ f, point = .suspended f) ∨ (∃ seq p o, point = .signalExternal seq p o) ∨
      (∃ seq f, point = .cancelExternal seq f) ∨ ∃ c o, point = .startChild c o) :
    root.stands point = true := by
  rcases awaits with ⟨f, rfl⟩ | ⟨seq, p, o, rfl⟩ | ⟨seq, f, rfl⟩ | ⟨c, o, rfl⟩ <;>
    cases root <;> first | rfl | cases coded

theorem startChildLoop_suspends (coded : root.coded = true) (t child : FutId) :
    Returns (SuspendsAt t root) (startChildLoop t child : Wf σ (Option Obj)) := by
  refine .read fun s => ?_
  intro s₁ r s₂ run
  rw [bind_run] at run
  cases waits : awaitShield t (s.children child).startFut (.startChild child) s₁ with
  | mk r' s' =>
    rw [waits] at run
    cases r' with
    | error e => cases run
    | ok v =>
      simp only [pure_run, Prod.mk.injEq, Except.ok.injEq] at run
      obtain ⟨rfl, rfl⟩ := run
      intro suspended
      have stands (o : OuterId) : root.stands (.startChild child o) = true :=
        Root.coded_stands coded (.inr (.inr (.inr ⟨child, o, rfl⟩)))
      exact awaitShield_suspends stands _ _ _ waits (Option.map_eq_none_iff.mp suspended)

theorem startChildWake_suspends (coded : root.coded = true) (t child : FutId)
    (input : Except Exc Obj) :
    Returns (SuspendsAt t root) (startChildWake t child input : Wf σ (Option Obj)) := by
  unfold startChildWake
  split
  · exact returned_suspends _
  · exact .bind fun _ => startChildLoop_suspends coded t child
  · exact .raise _

theorem signalExternalWake_suspends (coded : root.coded = true) (t : FutId) (seq : Nat)
    (doneFut : PromiseId) (input : Except Exc Obj) :
    Returns (SuspendsAt t root) (signalExternalWake t seq doneFut input : Wf σ (Option Obj)) := by
  unfold signalExternalWake
  split
  · exact returned_suspends _
  · exact .bind fun _ => awaitShield_suspends fun o =>
      Root.coded_stands coded (.inr (.inl ⟨seq, doneFut, o, rfl⟩))
  · exact .raise _

theorem performAwait_suspends (det : Details σ) (coded : root.coded = true) (t : FutId) {a : Act σ}
    {call : Wf σ (Option Obj)} (await : performAwait det t a = some call) :
    Returns (SuspendsAt t root) call := by
  have code (f : Option FutId) : root.stands (.suspended f) = true :=
    Root.coded_stands coded (.inl ⟨f, rfl⟩)
  cases a with
  | await f =>
    cases await
    refine .read fun s => ?_
    split
    · exact .raise _
    · split
      · intro s₁ r s₂ run suspended
        subst suspended
        cases outcome : (s.futs f).state.outcome <;>
          simp [outcome, Except.map] at run
      · exact suspendOn_suspends (code _)
  | bareYield =>
    cases await
    exact setPoint_suspends (code _)
  | waitCondition fn =>
    cases await
    exact .bind fun _ => suspendOn_suspends (code _)
  | startChildWorkflow input =>
    cases await
    exact .bind fun _ => .read fun _ => .bind fun _ => .bind fun _ =>
      startChildLoop_suspends coded t _
  | signalExternalWorkflow ofChild args =>
    cases await
    exact .bind fun _ => .bind fun _ => .read fun _ => .bind fun _ => .bind fun seq =>
      .bind fun doneFut => .bind fun _ => awaitShield_suspends fun o =>
        Root.coded_stands coded (.inr (.inl ⟨seq, doneFut, o, rfl⟩))
  | cancelExternalWorkflow =>
    cases await
    exact .bind fun _ => .read fun _ => .bind fun _ => .bind fun seq => .bind fun doneFut =>
      .bind fun _ => suspendOn_suspends
        (Root.coded_stands coded (.inr (.inr (.inl ⟨seq, doneFut, rfl⟩))))
  | _ => cases await

/-! ### Steps of a task -/

/-- If it suspends task `t`, it does so at a point of this kind of coroutine. -/
def Next.SuspendsAt (t : FutId) (root : Root) (next : Next) (s : Inst σ) : Prop :=
  next = .done (.ok none) → ∀ task, s.tasks t = some task → root.stands task.point = true

theorem ended_suspends {t : FutId} (x : Wf σ Unit) : Returns (Next.SuspendsAt t root) (ended x) := by
  refine .bind fun r => .pure fun s suspended => ?_
  cases r <;> simp [Except.map] at suspended

theorem code_suspends {t : FutId} (ctx : Ctx) :
    Returns (Next.SuspendsAt t root) (pure (.code ctx) : Wf σ Next) :=
  .pure fun s suspended => by cases suspended

theorem attempt_suspends {t : FutId} {x : Wf σ (Option Obj)} (h : Returns (SuspendsAt t root) x) :
    Returns (Next.SuspendsAt t root) (do
      let r ← attempt x
      pure (.done r)) := by
  intro s next s' run suspended
  simp only [bind_run, attempt_run, pure_run, Prod.mk.injEq, Except.ok.injEq] at run
  obtain ⟨rfl, rfl⟩ := run
  rw [Next.done.injEq] at suspended
  exact h s none _ (Prod.ext suspended rfl) rfl

theorem resumeAwait_suspends {t : FutId} {x : Wf σ (Option Obj)}
    (h : Returns (SuspendsAt t root) x) : Returns (Next.SuspendsAt t root) (resumeAwait t x) := by
  intro s next s' run suspended
  simp only [resumeAwait, bind_run, attempt_run] at run
  subst suspended
  cases waits : x s with
  | mk r s₁ =>
    rw [waits] at run
    cases r with
    | error e => cases run
    | ok v =>
      cases v with
      | some v => cases run
      | none =>
        cases run
        exact h s none _ waits rfl

theorem acceptUpdate_suspends (det : Details σ) (t : FutId) (job : DoUpdate) (command : Nat) :
    Returns (Next.SuspendsAt t root) (acceptUpdate det t job command) := by
  refine .bind fun _ => .read fun s => ?_
  split
  · exact .bind fun _ => code_suspends _
  · exact ended_suspends _

theorem startUpdate_suspends (det : Details σ) (t : FutId) (job : DoUpdate) :
    Returns (Next.SuspendsAt t root) (startUpdate det t job) := by
  refine .bind fun command => .read fun s => ?_
  split
  · exact ended_suspends _
  · refine .bind fun _ => ?_
    split
    · exact ended_suspends _
    · split
      · exact .bind fun _ => .bind fun _ => code_suspends _
      · exact acceptUpdate_suspends det t job command

theorem finishValidator_suspends (det : Details σ) (t : FutId) (job : DoUpdate)
    (defn : HandlerDefn) (command : Nat) (prev : Bool) (r : Except Exc Obj) :
    Returns (Next.SuspendsAt t root) (finishValidator det t job defn command prev r) := by
  refine .bind fun _ => ?_
  split
  · exact ended_suspends _
  · split
    · exact ended_suspends _
    · exact acceptUpdate_suspends det t job command

theorem handleSignal_suspends (t : FutId) (job : SignalWorkflow) (args : HandlerArgs) :
    Returns (Next.SuspendsAt t root) (handleSignal t job args : Wf σ Next) := by
  refine .read fun s => ?_
  split
  · exact .bind fun _ => .raise _
  · exact .bind fun _ => .bind fun _ => code_suspends _

theorem startCode_suspends (det : Details σ) (t : FutId) (root : Root) :
    Returns (Next.SuspendsAt t root) (startCode det t root) := by
  cases root with
  | workflow args => exact .bind fun _ => code_suspends _
  | signal job args =>
    intro s next s' run
    simp only [startCode, bind_run, attempt_run] at run
    cases handled : handleSignal t job args s with
    | mk r s₁ =>
      rw [handled] at run
      cases r with
      | ok next' =>
        cases run
        exact handleSignal_suspends t job args _ _ _ handled
      | error e => exact ended_suspends _ _ _ _ run
  | update job =>
    intro s next s' run
    simp only [startCode, bind_run, attempt_run] at run
    cases started : startUpdate det t job s with
    | mk r s₁ =>
      rw [started] at run
      cases r with
      | ok next' =>
        cases run
        exact startUpdate_suspends det t job _ _ _ started
      | error e =>
        cases run
        intro suspended
        cases suspended
  | query job =>
    refine .read fun s => .bind fun _ => ?_
    split
    · exact ended_suspends _
    · split
      · exact ended_suspends _
      · exact .bind fun _ => code_suspends _
  | activity => exact attempt_suspends (activityStart_suspends t)
  | child => exact attempt_suspends (childStart_suspends t)
  | user => exact code_suspends _

theorem finishCode_suspends (det : Details σ) (t : FutId) (root : Root) (r : Except Exc Obj) :
    Returns (Next.SuspendsAt t root) (finishCode det t root r) := by
  have returned : Returns (Next.SuspendsAt t root) (pure (.done (r.map some)) : Wf σ Next) := by
    refine .pure fun s suspended => ?_
    cases r <;> simp [Except.map] at suspended
  cases root with
  | workflow args => exact ended_suspends _
  | signal job args => exact ended_suspends _
  | update job => exact ended_suspends _
  | query job => exact .read fun _ => ended_suspends _
  | activity => exact returned
  | child => exact returned
  | user => exact returned

theorem resume_suspends (det : Details σ) (t : FutId) (root : Root) (point : Point)
    (input : Except Exc Obj) : Returns (Next.SuspendsAt t root) (resume det t root point input) := by
  have failed (e : Exc) :
      Returns (Next.SuspendsAt t root) (pure (.done (.error e)) : Wf σ Next) :=
    .pure fun s suspended => by cases suspended
  unfold resume
  split
  · split
    · exact failed _
    · exact startCode_suspends det t root
  · exact attempt_suspends (activityWake_suspends t input)
  · exact attempt_suspends (activitySleepWake_suspends det t _ _ input)
  · exact attempt_suspends (activitySleepZeroWake_suspends det t _ input)
  · exact attempt_suspends (childWake_suspends t input)
  · exact failed _
  · exact failed _
  all_goals
    have coded : root.coded = true :=
      Root.coded_of_ne ‹root = .activity → False› ‹root = .child → False›
  · exact code_suspends _
  · exact code_suspends _
  · exact resumeAwait_suspends (signalExternalWake_suspends coded t _ _ input)
  · exact resumeAwait_suspends (startChildWake_suspends coded t _ input)
  · exact failed _

/-! A coroutine hands every exception over to the end of its step. -/

theorem ended_total (x : Wf σ Unit) : Total (ended x) :=
  (Total.attempt x).bind fun _ => .pure _

theorem logCall_total (defn : HandlerDefn) : Total (logCall defn : Wf σ Unit) := .update _

theorem startQuery_total (det : Details σ) (t : FutId) (job : QueryWorkflow) :
    Total (startQuery det t job) := by
  refine .read fun s => .bind (.update _) fun _ => ?_
  split
  · exact ended_total _
  · split
    · exact ended_total _
    · exact (logCall_total _).bind fun _ => .pure _

theorem attempted_total (x : Wf σ (Option Obj)) : Total (do
    let r ← attempt x
    pure (.done r) : Wf σ Next) :=
  (Total.attempt x).bind fun _ => .pure _

theorem startCode_total (det : Details σ) (t : FutId) (root : Root) :
    Total (startCode det t root) := by
  cases root with
  | workflow args => exact .bind (.update _) fun _ => .pure _
  | signal job args =>
    refine .bind (.attempt _) fun r => ?_
    cases r with
    | ok next => exact .pure _
    | error e => exact ended_total _
  | update job =>
    refine .bind (.attempt _) fun r => ?_
    cases r with
    | ok next => exact .pure _
    | error e => exact .pure _
  | query job => exact startQuery_total det t job
  | activity => exact attempted_total _
  | child => exact attempted_total _
  | user => exact .pure _

theorem finishCode_total (det : Details σ) (t : FutId) (root : Root) (r : Except Exc Obj) :
    Total (finishCode det t root r) := by
  cases root with
  | workflow args => exact ended_total _
  | signal job args => exact ended_total _
  | update job => exact ended_total _
  | query job => exact .read fun _ => ended_total _
  | activity => exact .pure _
  | child => exact .pure _
  | user => exact .pure _

theorem finishValidator_total (det : Details σ) (t : FutId) (job : DoUpdate) (defn : HandlerDefn)
    (command : Nat) (prev : Bool) (r : Except Exc Obj) :
    Total (finishValidator det t job defn command prev r) := by
  have accepts : Total (acceptUpdate det t job command) := by
    refine .bind (.update _) fun _ => .read fun s => ?_
    split
    · exact (logCall_total _).bind fun _ => .pure _
    · exact ended_total _
  refine .bind (.update _) fun _ => ?_
  split
  · exact ended_total _
  · split
    · exact ended_total _
    · exact accepts

theorem resume_total (det : Details σ) (t : FutId) (root : Root) (point : Point)
    (input : Except Exc Obj) : Total (resume det t root point input) := by
  have awaited (x : Wf σ (Option Obj)) : Total (resumeAwait t x) := by
    refine .bind (.attempt x) fun r => ?_
    split <;> exact .pure _
  unfold resume
  split
  · split
    · exact .pure _
    · exact startCode_total det t root
  all_goals first
    | exact attempted_total _
    | exact .pure _
    | exact awaited _

/-! ### The end of a step -/

/-- Passing a late cancellation on moves no task. -/
theorem afterSuspend_points (t : FutId) (s : Inst σ) (t' : FutId) :
    ((afterSuspend t s).2.tasks t').map Task.point = (s.tasks t').map Task.point := by
  simp only [afterSuspend, state_bind_run]
  cases isTask : s.tasks t with
  | none => rfl
  | some task =>
    dsimp only
    split
    · rw [callSoon_run]
      split <;> rfl
    · split
      · have passed : Spares (fun _ => False) s (waiterCancel cancelFut task.point.waiter s).2 := by
          cases task.point.waiter with
          | none => exact Std.Refl.refl s
          | outer o => exact cancelOuter_spares o s
          | fut f => exact cancelFut_spares fun _ _ => id
        rw [bind_run]
        cases run : waiterCancel cancelFut task.point.waiter s with
        | mk r s₁ =>
          rw [run] at passed
          cases r with
          | error e => exact passed.point t'
          | ok passedOn =>
            cases passedOn with
            | false => exact passed.point t'
            | true =>
              have cleared : Spares (fun _ => False) s₁
                  (s₁.mapTask t fun task => { task with mustCancel := false }) :=
                .mapTask id fun _ => rfl
              exact (cleared.point t').trans (passed.point t')
      · rfl

theorem finishTask_done {s : Inst σ} {t : FutId} {task : Task} (isTask : s.tasks t = some task)
    (outcome : Except Exc Obj) : (finishTask t outcome s).2.isDone t = true := by
  obtain ⟨s₁, new, -, done, ended⟩ := finishTask_state isTask outcome
  rw [ended]
  simpa [Inst.isDone, Inst.settled, Inst.pushAll, Inst.setFut] using done

/-! ### Moves of others -/

theorem Allowed.stands {K : List Kind} {s s' : Inst σ} (h : Allowed K s s') (wf : s.WellFormed)
    {X : Option FutId} (others : ∀ t, Kind.own t ∈ K ∨ Kind.wake t ∈ K → X = some t)
    (stands : Stands X s) : Stands X s' := by
  have moves : Moves K s s' := fun _ => .single h
  intro t task notX isTask pending
  cases before : s.tasks t with
  | none =>
    rw [(h.created before isTask).start]
    cases task.root <;> rfl
  | some old =>
    obtain ⟨task', isTask', root, point⟩ := moves.point wf
      (fun own => notX (others t (.inl own))) (fun wake => notX (others t (.inr wake))) before
    rw [isTask, Option.some.injEq] at isTask'
    subst isTask'
    rw [root, point]
    refine stands t old notX before ?_
    by_contra done
    have later := moves.isDone wf (wf.task t old before).1 (by simpa using done)
    rw [pending] at later
    cases later

theorem Moves.stands {K : List Kind} {s s' : Inst σ} (h : Moves K s s') (wf : s.WellFormed)
    {X : Option FutId} (others : ∀ t, Kind.own t ∈ K ∨ Kind.wake t ∈ K → X = some t)
    (stands : Stands X s) : Stands X s' :=
  (h.keeps wf stands fun _ _ wfa allowed stands => allowed.stands wfa others stands).1

/-! ### Steps of the machine -/

/-- The task whose workflow code is in control. -/
def Ctx.runs : Ctx → Option FutId
  | .task t | .validator t _ _ _ _ => some t
  | .callback | .init => none

def Control.runs : Control → Option FutId
  | .code ctx _ => ctx.runs
  | _ => none

/-- Where tasks stand after a part of `handle._run()`. -/
def RanStands : Except Exc (Option Ctx) × Inst σ → Prop
  | (.ok (some ctx), s) => Stands ctx.runs s
  | (_, s) => Stands none s

theorem RanStands.of_none {r : Except Exc (Option Ctx) × Inst σ} (stands : Stands none r.2) :
    RanStands r := by
  obtain ⟨r, s⟩ := r
  have weaker (X : Option FutId) : Stands X s := fun t task _ => stands t task (by simp)
  cases r with
  | error e => exact stands
  | ok ctx =>
    cases ctx with
    | none => exact stands
    | some ctx => exact weaker _

theorem stepNext_stands {s : Inst σ} (wf : s.WellFormed) {t : FutId} {task : Task}
    (isTask : s.tasks t = some task) (pending : s.isDone t = false) {next : Next}
    (ofTask : next.OfTask t task.root s) (suspends : next.SuspendsAt t task.root s)
    (stands : Stands (some t) s) : RanStands (stepNext t next s) := by
  cases next with
  | code ctx =>
    obtain ⟨-, rfl | ⟨job, defn, i, prev, -, rfl, -⟩⟩ := ofTask
    · exact stands
    · exact stands
  | done r =>
    have moves := stepNext_moves isTask pending (.done r)
    have others : Stands (some t) (stepNext t (.done r) s).2 := by
      refine moves.stands wf (fun t' own => ?_) stands
      simp only [List.mem_cons, List.not_mem_nil, or_false] at own
      rcases own with (own | own) | (wake | wake)
      · cases own
      · cases own
        rfl
      · cases wake
      · cases wake
    have ends : (stepNext t (.done r) s).2 = (stepEnd t r s).2 := by
      simp only [stepNext, bind_run]
      cases stepEnd t r s with
      | mk r' s' => cases r' <;> rfl
    refine .of_none fun t' task' _ isTask' pending' => ?_
    by_cases same : t' = t
    · subst same
      obtain ⟨task₁, isTask₁, root⟩ := moves.root wf isTask
      rw [isTask', Option.some.injEq] at isTask₁
      subst isTask₁
      rw [ends] at isTask' pending'
      have finished {outcome : Except Exc Obj}
          (pending' : (finishTask t' outcome s).2.isDone t' = false) : False := by
        rw [finishTask_done isTask outcome] at pending'
        cases pending'
      cases r with
      | error e => exact (finished pending').elim
      | ok v =>
        cases v with
        | some v => exact (finished pending').elim
        | none =>
          have point := afterSuspend_points t' s t'
          rw [show (afterSuspend t' s).2.tasks t' = some task' from isTask', isTask,
            Option.map_some, Option.map_some, Option.some.injEq] at point
          rw [root, point]
          exact suspends rfl task isTask
    · exact others t' task' (fun equal => same (Option.some.inj equal).symm) isTask' pending'

/-- A part of the coroutine of `t` followed by the end of `Task.__step`. -/
theorem stepBody_stands {K : List Kind} {s : Inst σ} {t : FutId} (ofTask : ∀ k ∈ K, k.ofTask t = true)
    {task : Task} (wf : s.WellFormed) (isTask : s.tasks t = some task)
    (pending : s.isDone t = false) {x : Wf σ Next} (moves : Moves K s (x s).2) (total : Total x)
    (returns : Returns (Next.OfTask t task.root) x)
    (suspends : Returns (Next.SuspendsAt t task.root) x) (stands : Stands (some t) s) :
    RanStands ((x >>= stepNext t) s) := by
  have notFinish : Kind.finish t ∉ K := fun member => by cases ofTask _ member
  obtain ⟨next, s₁, run⟩ := total s
  have stands₁ : Stands (some t) (x s).2 := by
    refine moves.stands wf (fun t' member => ?_) stands
    rcases member with own | wake
    · have same : t' = t := by simpa [Kind.ofTask] using ofTask _ own
      rw [same]
    · cases ofTask _ wake
  obtain ⟨⟨task₁, isTask₁, root⟩, done⟩ := moves.alive wf notFinish isTask
  have wf₁ := moves.wellFormed wf
  rw [run] at stands₁ isTask₁ done wf₁
  rw [bind_ok run]
  refine stepNext_stands wf₁ isTask₁ (done.trans pending) ?_ ?_ stands₁
  · rw [root]
    exact returns _ _ _ run
  · rw [root]
    exact suspends _ _ _ run

theorem stepTask_stands (det : Details σ) (t : FutId) (input : Except Exc Obj) {s : Inst σ}
    (wf : s.WellFormed) (stands : Stands none s) : RanStands (stepTask det t input s) := by
  cases isTask : s.tasks t with
  | none =>
    refine .of_none ?_
    rw [(stepTask_idle det input fun task this => by rw [isTask] at this; cases this).2]
    exact stands
  | some task =>
    cases done : s.isDone t with
    | true =>
      refine .of_none ?_
      rw [(stepTask_idle det input fun _ _ => done).2]
      exact stands
    | false =>
      rw [stepTask_run det input isTask done]
      have woken := Inst.woken_moves isTask done
      have isTask' : (s.woken t task).tasks t =
          some { task with mustCancel := false, point := .running } := Function.update_self ..
      refine stepBody_stands (task.kinds_ofTask t) (woken.wellFormed wf) isTask' done
        (resume_moves det t task _ _) (resume_total det t _ _ _) (resume_ofTask det t _ _ _)
        (resume_suspends det t _ _ _) (woken.stands wf (fun t' member => ?_) ?_)
      · rcases member with own | wake
        · simp at own
        · simp only [List.mem_singleton, Kind.wake.injEq] at wake
          rw [wake]
      · exact fun t' task' _ => stands t' task' (by simp)

/-! ### Handles and contexts -/

theorem handleNext_stands (det : Details σ) (m : Machine σ) (frame : Frame)
    {r : Except Exc (Option Ctx) × Inst σ} (wf : r.2.WellFormed) (ran : RanStands r) :
    Stands (m.handleNext det frame r).control.runs (m.handleNext det frame r).inst := by
  have moves := handleNext_moves det m frame r
  rcases handleNext_control det m frame r with sdk | ⟨ctx, stopped, same⟩
  · have none : (m.handleNext det frame r).control.runs = none := by
      cases control : (m.handleNext det frame r).control with
      | code => rw [control] at sdk; cases sdk
      | _ => rfl
    rw [none]
    obtain ⟨r, s⟩ := r
    refine moves.stands wf (by simp) ?_
    cases r with
    | error e => exact ran
    | ok ctx =>
      cases ctx with
      | none => exact ran
      | some ctx => cases sdk
  · rw [same]
    obtain ⟨r, s⟩ := r
    cases stopped
    exact ran

theorem popHandle_stands (det : Details σ) {s : Inst σ} (wf : s.WellFormed) {h : Handle}
    {rest : List Handle} (ready : s.ready = h :: rest) (stands : Stands none s) :
    RanStands (handleRun det h (s.setReady rest)) := by
  have moves := popHandle_moves det ready
  by_cases steps : ∃ t, s.steps h t
  · obtain ⟨t, steps⟩ := steps
    have popped : Moves [.pop] s (s.setReady rest) := .of_move (by simp) (.pop s ready steps.stays)
    obtain ⟨input, same⟩ := handleRun_steps det (s := s.setReady rest) steps
    have stands' := popped.stands wf (by simp) stands
    have ran := stepTask_stands det t input (popped.wellFormed wf) stands'
    rw [← same] at ran
    cases called : handleCallback det h (s.setReady rest) with
    | mk r s' =>
      rw [called] at ran
      cases r with
      | ok ctx =>
        rw [handleRun_ok called]
        exact ran
      | error e =>
        refine .of_none ?_
        rcases handleRun_state det h (s.setReady rest) with same | same
        · rw [same, called]
          exact ran
        · rw [same, called]
          exact ran
  · -- no coroutine is touched
    refine .of_none (moves.stands wf (fun t member => ?_) stands)
    have own : Kind.own t ∈ s.handleKinds h ∨ Kind.wake t ∈ s.handleKinds h := by simpa using member
    exact absurd ⟨t, Inst.steps_of_own own⟩ steps

theorem Control.runs_of_sdk {control : Control} (sdk : control.sdk = true) : control.runs = none := by
  cases control with
  | code => cases sdk
  | _ => rfl

/-- A step that runs no handle and ends no workflow code moves on its own task only. -/
theorem Machine.Makes.moves_own {det : Details σ} {m : Machine σ} {l : Label σ} {t : FutId} {k : Kind}
    (makes : m.Makes det k l) (own : k = .own t ∨ k = .wake t)
    (notHandle : ∀ frame h rest, ¬m.RunsHandle l frame h rest) :
    ∃ ctx frame a, m.control = .code ctx frame ∧ l = .act a ∧ t = ctx.owner ∧
      (a.awaits = true ∨ (∃ v, a = .ret v) ∨ ∃ e, a = .raise e) := by
  cases makes with
  | always _ other => rcases own with rfl | rfl <;> simp at other
  | @job job rest frame control member =>
    rcases own with rfl | rfl <;> cases job <;> simp [Job.kinds] at member
  | handle control ready => exact absurd ⟨rfl, control, ready⟩ (notHandle _ _ _)
  | check _ _ same => rcases own with rfl | rfl <;> cases same
  | @ends ctx frame a control isEnd member =>
    refine ⟨ctx, frame, a, control, rfl, ?_, .inr isEnd⟩
    cases ctx with
    | task t' =>
      simp only [Inst.endKinds] at member
      split at member
      next task _ =>
        rcases own with rfl | rfl
        · cases root : task.root <;> simpa [root, Root.endKinds, Ctx.owner] using member
        · cases root : task.root <;> simp [root, Root.endKinds] at member
      · cases member
    | validator =>
      rcases own with rfl | rfl
      · simpa [Inst.endKinds, Ctx.owner] using member
      · simp [Inst.endKinds] at member
    | callback => cases member
    | init => rcases own with rfl | rfl <;> simp [Inst.endKinds] at member
  | @call ctx frame a control member =>
    refine ⟨ctx, frame, a, control, rfl, ?_, ?_⟩
    · rcases own with rfl | rfl <;> simpa using a.kinds_subset det ctx.owner member
    · rcases own with rfl | rfl
      · by_contra other
        cases a <;> simp [Act.kinds, Act.awaits] at member other
      · cases a <;> simp [Act.kinds] at member
  | @await ctx frame a control awaits same =>
    refine ⟨ctx, frame, a, control, rfl, ?_, .inl awaits⟩
    rcases own with rfl | rfl <;> cases same
    rfl

theorem tick_stands (det : Details σ) {m m' : Machine σ} (wf : m.WellFormed)
    (stands : Stands m.control.runs m.inst) (h : tick det m = some m') :
    Stands m'.control.runs m'.inst := by
  by_cases runs : ∃ frame handle rest, m.RunsHandle .tick frame handle rest
  · obtain ⟨frame, handle, rest, runs⟩ := runs
    rw [runs.step h]
    rw [runs.2.1] at stands
    exact handleNext_stands det m frame ((popHandle_moves det runs.2.2).wellFormed wf.inst)
      (popHandle_stands det wf.inst runs.2.2 stands)
  · have before : m.control.runs = none := by
      cases control : m.control with
      | code ctx frame => simp [tick, control] at h
      | _ => rfl
    have after : m'.control.runs = none := by
      cases tick_cases det h with
      | complete => exact Control.runs_of_sdk (by rw [complete_control]; rfl)
      | applyRaised | checkRaised => exact Control.runs_of_sdk (by rw [raised_control]; rfl)
      | handle control ready => exact absurd ⟨_, _, _, rfl, control, ready⟩ runs
      | _ => rfl
    rw [before] at stands
    rw [after]
    refine (tick_moves det h).stands wf.inst (fun t member => ?_) stands
    have notHandle (frame : Frame) (handle : Handle) (rest : List Handle) :
        ¬m.RunsHandle .tick frame handle rest := fun this => runs ⟨frame, handle, rest, this⟩
    rcases member with own | wake
    · obtain ⟨_, _, _, _, isAct, -⟩ := (stepKinds_makes own).moves_own (.inl rfl) notHandle
      cases isAct
    · obtain ⟨_, _, _, _, isAct, -⟩ := (stepKinds_makes wake).moves_own (.inr rfl) notHandle
      cases isAct

theorem finishContext_stands (det : Details σ) {m : Machine σ} {ctx : Ctx} {frame : Frame}
    (r : Except Exc Obj) (wf : m.WellFormed) (control : m.control = .code ctx frame)
    (stands : Stands m.control.runs m.inst) :
    Stands (finishContext det m ctx frame r).control.runs (finishContext det m ctx frame r).inst := by
  have ready := wf.code _ _ control
  have moves := finishContext_moves det m frame r wf.inst ready
  rw [control] at stands
  -- code that is no task's
  have other (none : ctx.runs = none) (sdk : (finishContext det m ctx frame r).control.sdk = true)
      (kinds : ∀ t, Kind.own t ∉ m.inst.endKinds ctx ∧ Kind.wake t ∉ m.inst.endKinds ctx) :
      Stands (finishContext det m ctx frame r).control.runs
        (finishContext det m ctx frame r).inst := by
    rw [Control.runs_of_sdk sdk]
    rw [show (Control.code ctx frame).runs = ctx.runs from rfl, none] at stands
    exact moves.stands wf.inst (fun t member => by simp [kinds] at member) stands
  cases ctx with
  | init =>
    refine other rfl ?_ (by simp [Inst.endKinds])
    cases r with
    | ok v => rfl
    | error e => simp [finishContext, raised_control, Control.sdk]
  | callback =>
    refine other rfl ?_ (by simp [Inst.endKinds])
    cases r with
    | ok v => exact handleDone_sdk det m m.inst frame
    | error e => exact handleRaised_sdk det m m.inst frame e
  | validator t job defn i prev =>
    obtain ⟨⟨task, isTask, isUpdate⟩, pending, responds⟩ := ready
    have body := finishValidator_moves det t job defn i prev r responds
    refine handleNext_stands det m frame
      ((stepBody_moves (by simp) wf.inst isTask pending body).wellFormed wf.inst)
      (stepBody_stands (by simp [Kind.ofTask]) wf.inst isTask pending body
        (finishValidator_total det t job defn i prev r) ?_ ?_ stands)
    · rw [isUpdate]
      exact finishValidator_ofTask det t job defn i prev r
    · exact finishValidator_suspends det t job defn i prev r
  | task t =>
    obtain ⟨task, isTask, pending, -⟩ := ready
    simp only [finishContext, isTask]
    have body := finishCode_moves det t task.root r m.inst
    exact handleNext_stands det m frame
      ((stepBody_moves (task.root.finish_not_mem_endKinds t) wf.inst isTask pending body).wellFormed
        wf.inst)
      (stepBody_stands (task.root.endKinds_ofTask t) wf.inst isTask pending body
        (finishCode_total det t task.root r) (finishCode_ofTask det t task.root r)
        (finishCode_suspends det t task.root r) stands)

theorem perform_stands (det : Details σ) {m m' : Machine σ} {a : Act σ} (wf : m.WellFormed)
    (stands : Stands m.control.runs m.inst) (h : perform det m a = some m') :
    Stands m'.control.runs m'.inst := by
  have owns {t t' : FutId} (member : Kind.own t' ∈ a.kinds det t ∨ Kind.wake t' ∈ a.kinds det t) :
      some t = some t' := by
    rcases member with own | wake
    · have same : t' = t := by simpa using a.kinds_subset det t own
      rw [same]
    · simpa using a.kinds_subset det t wake
  cases perform_cases det h with
  | ret control v => exact finishContext_stands det _ wf control stands
  | raise control e => exact finishContext_stands det _ wf control stands
  | @call ctx frame _ control enabled =>
    cases awaits : a.awaits with
    | true =>
      rw [performCall_awaits det awaits]
      exact stands
    | false =>
      refine (performCall_moves det ctx.owner a enabled).stands wf.inst (fun t member => ?_) stands
      rcases member with own | wake
      · exact absurd own (own_not_mem_kinds awaits)
      · simpa using a.kinds_subset det ctx.owner wake
  | @await t frame _ call r s control enabled await run =>
    have moves := performAwait_moves det t await m.inst
    rw [run] at moves
    refine moves.stands wf.inst (fun t' member => ?_) stands
    rw [show ({ m with inst := s } : Machine σ).control = _ from control]
    exact owns member
  | @suspend t frame _ call s control enabled await run =>
    have moves := performAwait_moves det t await m.inst
    rw [run] at moves
    obtain ⟨task, isTask, pending, coded⟩ := wf.code _ _ control
    rw [control] at stands
    have stands₁ : Stands (some t) s := moves.stands wf.inst (fun t' member => owns member) stands
    have wf₁ := moves.wellFormed wf.inst
    obtain ⟨⟨task₁, isTask₁, root⟩, done⟩ := moves.alive wf.inst
      (fun finish => by simpa using a.kinds_subset det t finish) isTask
    have pending₁ : s.isDone t = false := done.trans pending
    refine handleNext_stands det m frame ((stepNext_moves isTask₁ pending₁ _).wellFormed wf₁)
      (stepNext_stands wf₁ isTask₁ pending₁ trivial ?_ stands₁)
    intro _ task₂ isTask₂
    rw [root]
    exact performAwait_suspends det coded t await _ _ _ run rfl task₂ isTask₂

theorem step_stands (det : Details σ) {m m' : Machine σ} {l : Label σ} (wf : m.WellFormed)
    (stands : Stands m.control.runs m.inst) (h : step det m l = some m') :
    Stands m'.control.runs m'.inst := by
  cases l with
  | activate jobs isReplaying =>
    simp only [step] at h
    split at h
    next idle =>
      cases h
      rw [idle] at stands
      exact stands
    · cases h
  | tick => exact tick_stands det wf stands h
  | act a => exact perform_stands det wf stands h

/-- In every reachable state every task stands where it can be resumed. -/
theorem Reach.stands {det : Details σ} {ok : Machine σ → Label σ → Prop} {mem : σ} {m : Machine σ}
    (reach : Reach det ok (Machine.init det mem) m) : Stands m.control.runs m.inst := by
  refine (reach.invariant (I := fun m => Stands m.control.runs m.inst) (init_wellFormed det mem) ?_
    fun _ _ _ wf stands _ step => step_stands det wf stands step).1
  intro t task _ isTask
  cases isTask

end TemporalSdk.Workflow
