import TemporalSdk.Properties.ActivityCompletion
import TemporalSdk.Properties.ThreadCancellation
import TemporalSdk.Worker.ThreadPool

/-!
# Cancellation and the reuse of threads

## Main result

`raises_in_own_thread`: in every reachable state of a worker with a thread pool,
a step raises an exception through the raiser of an activity only in a thread
that is in the function of that activity, exactly if the step does not cancel the
activity while its thread id is registered and its function is not being called.

The raiser keeps the thread id when the function has returned, and the activity
is marked as done only when its task has gone on and encoded the result:
`cancels_other_activity`.

## Proof strategy

An activity is in one place, the queue or one thread, so as long as a thread is
past `set_thread_id` for an activity the raiser knows that thread. This does not
depend on when cancellations come.
-/

namespace TemporalSdk.ActivityWorker

open Worker (PyError ErrorKind)

variable {T V P : Type}

/-! ### Raisers -/

namespace ThreadExceptionRaiser

variable {E : Type} (r : ThreadExceptionRaiser E)

/-- A call adds at most one exception, in the registered thread. -/
def Adds (r r' : ThreadExceptionRaiser E) : Prop :=
  r'.raised = r.raised ∨ ∃ threadId excType, r.threadId = some threadId ∧
    r'.raised = r.raised ++ [(threadId, excType)]

theorem exitShield_adds : Adds r r.exitShield := by
  rcases raiseIfPending_raised { r with shieldDepth := r.shieldDepth - 1 } true with
    same | ⟨threadId, excType, known, -, -, more⟩
  · exact Or.inl same
  · exact Or.inr ⟨threadId, excType, known, more⟩

theorem raiseInThread_known {threadId : Nat} (known : r.threadId = some threadId)
    (noShield : r.shieldDepth = 0) (excType : E) :
    (r.raiseInThread excType).raised = r.raised ++ [(threadId, excType)] := by
  rw [raiseInThread, raiseIfPending_open]
  · rfl
  · exact known
  · exact noShield

end ThreadExceptionRaiser

/-! ### Threads -/

/-- The activity a thread has taken. -/
def PoolThread.activity? : PoolThread → Option Nat
  | .idle => none
  | .entered i | .registered i | .running i => some i

/-- The thread has registered its id for the activity. -/
def PoolThread.Registered (i : Nat) : PoolThread → Prop
  | .registered j | .running j => j = i
  | .idle | .entered _ => False

theorem PoolThread.Registered.activity {thread : PoolThread} {i : Nat}
    (registered : thread.Registered i) : thread.activity? = some i := by
  cases thread with
  | idle => exact registered.elim
  | entered => exact registered.elim
  | registered j => exact congrArg some registered
  | running j => exact congrArg some registered

namespace Pool

open ThreadExceptionRaiser

variable [DecidableEq T] {cfg : PoolConfig} {s s' : Pool T V P}

/-- The task of the activity has taken its first step. -/
def Started (s : Pool T V P) (i : Nat) : Prop :=
  ∃ a, s.worker.activities[i]? = some a ∧ a.phase ≠ .scheduled

/-- An activity is in one place, and a thread that has registered for it is the
    one its raiser knows. -/
structure Inv (s : Pool T V P) : Prop where
  started : ∀ i ∈ s.submitted, s.Started i
  made : ∀ i r, s.raisers i = some r → s.Started i
  queued : ∀ i ∈ s.workQueue, i ∈ s.submitted
  distinct : s.workQueue.Nodup
  taken : ∀ thread i, (s.threads thread).activity? = some i → i ∈ s.submitted ∧ i ∉ s.workQueue
  unique : ∀ thread thread' i, (s.threads thread).activity? = some i →
    (s.threads thread').activity? = some i → thread = thread'
  known : ∀ thread i r, (s.threads thread).Registered i → s.raisers i = some r →
    r.threadId = some thread

/-- The exceptions raised in the step are raised in threads that are in the
    function of the activity whose raiser it is. -/
def RaisesInOwn (s s' : Pool T V P) : Prop :=
  ∀ i r r', s.raisers i = some r → s'.raisers i = some r' → r'.raised ≠ r.raised →
    ∃ thread excType, r'.raised = r.raised ++ [(thread, excType)] ∧ s.threads thread = .running i

/-- If the action cancels an activity that is not done, with a registered thread
    and no shield open, then a thread is in the function of the activity. -/
def InTime (s : Pool T V P) : PoolAction T V P → Prop
  | .worker action => ∀ i reason a r, s.worker.cancellation action = some (i, reason) →
      s.worker.activities[i]? = some a → a.done = false → s.raisers i = some r →
      r.threadId.isSome → r.shieldDepth = 0 → ∃ thread, s.threads thread = .running i
  | _ => True

/-! ### Raisers in a step of the event loop -/

/-- What happens to the raiser of activity `i`. -/
inductive RaiserStep (s : Pool T V P) (action : Action T V P) (i : Nat)
    (after : Option (ThreadExceptionRaiser ErrorKind)) : Prop
  | same (same : after = s.raisers i)
  | created (answers : Answers P) (a : Activity T V P) (own : action = .resume i answers)
      (there : s.worker.activities[i]? = some a) (scheduled : a.phase = .scheduled)
      (created : after = some {})
  | raised (reason : Option PyError) (a : Activity T V P)
      (cancels : s.worker.cancellation action = some (i, reason))
      (there : s.worker.activities[i]? = some a) (running : a.done = false)
      (after : after = (s.raisers i).map fun r => r.raiseInThread .cancelled)

omit [DecidableEq T] in
theorem createsRaiser_scheduled {a : Activity T V P} {answers : Answers P}
    (creates : createsRaiser cfg a answers = true) : a.phase = .scheduled := by
  unfold createsRaiser at creates
  split at creates
  next scheduled _ _ => exact scheduled
  next => cases creates

theorem raiserAfter_step (cfg : PoolConfig) (s : Pool T V P) (action : Action T V P) (i : Nat) :
    s.RaiserStep action i (s.raiserAfter cfg action i) := by
  unfold raiserAfter
  split
  · exact .same rfl
  next a there =>
    split
    next j answers =>
      split
      next creates =>
        obtain ⟨rfl, creates⟩ := creates
        exact .created answers a rfl there (createsRaiser_scheduled creates) rfl
      · exact .same rfl
    next =>
      split
      next cancels =>
        obtain ⟨cancels, running⟩ := cancels
        cases cancelled : s.worker.cancellation action with
        | none =>
          rw [cancelled] at cancels
          cases cancels
        | some entry =>
          obtain ⟨j, reason⟩ := entry
          obtain rfl : j = i := by simpa [cancelled] using cancels
          exact .raised reason a cancelled there (by simpa using running) rfl
      · exact .same rfl

theorem raiserAfter_cancels {action : Action T V P} {i : Nat} {reason : Option PyError}
    {a : Activity T V P} (cancels : s.worker.cancellation action = some (i, reason))
    (there : s.worker.activities[i]? = some a) (running : a.done = false) :
    s.raiserAfter cfg action i = (s.raisers i).map fun r => r.raiseInThread .cancelled := by
  have applies : (s.worker.cancellation action).any (fun c => c.1 = i) ∧ ¬a.done := by
    rw [cancels, running]
    simp
  unfold raiserAfter
  rw [there]
  cases action with
  | cancel | resumeHeartbeat => exact if_pos applies
  | start | resume | heartbeat => cases cancels

/-! ### What the steps keep -/

section Updates

omit [DecidableEq T]

variable (s : Pool T V P) (i : Nat)
  (f : ThreadExceptionRaiser ErrorKind → ThreadExceptionRaiser ErrorKind)

@[simp] theorem updateRaiser_self : s.updateRaiser i f i = (s.raisers i).map f :=
  Function.update_self ..

theorem updateRaiser_of_ne {j : Nat} (other : j ≠ i) : s.updateRaiser i f j = s.raisers j :=
  Function.update_of_ne other ..

@[simp] theorem setThread_self (thread : Nat) (doing : PoolThread) :
    (s.setThread thread doing).threads thread = doing :=
  Function.update_self ..

theorem setThread_of_ne {thread thread' : Nat} (other : thread' ≠ thread) (doing : PoolThread) :
    (s.setThread thread doing).threads thread' = s.threads thread' :=
  Function.update_of_ne other ..

end Updates

omit [DecidableEq T] in
theorem initial_inv : (initial T V P).Inv where
  started := by
    intro i member
    cases member
  made := by
    intro i r raiser
    cases raiser
  queued := by
    intro i member
    cases member
  distinct := List.nodup_nil
  taken := by
    intro thread i holds
    cases holds
  unique := by
    intro thread thread' i holds
    cases holds
  known := by
    intro thread i r registered
    exact registered.elim

/-- A started activity stays so. -/
theorem started_step {action : Action T V P} {worker : State T V P}
    (stepped : s.worker.step cfg.toConfig action = some worker) {i : Nat} (started : s.Started i) :
    ∃ a, worker.activities[i]? = some a ∧ a.phase ≠ .scheduled := by
  obtain ⟨a, there, phase⟩ := started
  obtain ⟨a', there', does⟩ := State.step_activity stepped there
  refine ⟨a', there', ?_⟩
  cases does with
  | resume answers own resumable same =>
    subst same
    exact (a.resume_runsOn cfg.toConfig answers).started _ rfl
  | cancel reason cancels cancelled =>
    rw [cancelled.phase]
    exact phase
  | other spared foreign stays =>
    rw [stays.phase]
    exact phase

/-- A raiser is made in the first step of a task. -/
theorem made_step {action : Action T V P} {worker : State T V P} (inv : s.Inv)
    (stepped : s.worker.step cfg.toConfig action = some worker) {i : Nat}
    {r : ThreadExceptionRaiser ErrorKind} (after : s.raiserAfter cfg action i = some r) :
    ∃ a, worker.activities[i]? = some a ∧ a.phase ≠ .scheduled := by
  have step := raiserAfter_step cfg s action i
  rw [after] at step
  cases step with
  | same same => exact started_step stepped (inv.made i r same.symm)
  | raised reason a cancels there running after =>
    obtain ⟨r, before, rfl⟩ := Option.map_eq_some_iff.mp after.symm
    exact started_step stepped (inv.made i r before)
  | created answers a own there scheduled =>
    obtain ⟨a', there', does⟩ := State.step_activity stepped there
    refine ⟨a', there', ?_⟩
    cases does with
    | resume answers own resumable same =>
      subst same
      exact (a.resume_runsOn cfg.toConfig answers).started _ rfl
    | cancel reason cancels =>
      subst own
      cases cancels
    | other spared foreign => exact absurd own (foreign answers)

/-- The thread a raiser knows only changes by `set_thread_id`. -/
theorem raiserAfter_known {action : Action T V P} {i : Nat} (inv : s.Inv)
    (submitted : i ∈ s.submitted) {r' : ThreadExceptionRaiser ErrorKind}
    (after : s.raiserAfter cfg action i = some r') :
    ∃ r, s.raisers i = some r ∧ r'.threadId = r.threadId := by
  have step := raiserAfter_step cfg s action i
  rw [after] at step
  cases step with
  | same same => exact ⟨r', same.symm, rfl⟩
  | created answers a own there scheduled =>
    -- a raiser is created before the function is submitted
    obtain ⟨b, thereb, started⟩ := inv.started i submitted
    rw [there] at thereb
    cases thereb
    exact absurd scheduled started
  | raised reason a cancels there running after =>
    obtain ⟨r, known, rfl⟩ := Option.map_eq_some_iff.mp after.symm
    exact ⟨r, known, ThreadExceptionRaiser.raiseIfPending_threadId _ _⟩

omit [DecidableEq T] in
/-- A change of a raiser that keeps the thread it knows, if that has registered. -/
theorem Inv.updateRaiser (inv : s.Inv) (i : Nat)
    (f : ThreadExceptionRaiser ErrorKind → ThreadExceptionRaiser ErrorKind)
    (same : ∀ thread, (s.threads thread).Registered i → ∀ r, (f r).threadId = r.threadId) :
    { s with raisers := s.updateRaiser i f }.Inv where
  started := inv.started
  made := by
    intro j r' after
    have after : s.updateRaiser i f j = some r' := after
    by_cases own : j = i
    · subst own
      rw [updateRaiser_self] at after
      obtain ⟨r, before, -⟩ := Option.map_eq_some_iff.mp after
      exact inv.made j r before
    · rw [updateRaiser_of_ne s i f own] at after
      exact inv.made j r' after
  queued := inv.queued
  distinct := inv.distinct
  taken := inv.taken
  unique := inv.unique
  known := by
    intro thread j r' registered after
    have after : s.updateRaiser i f j = some r' := after
    by_cases own : j = i
    · subst own
      rw [updateRaiser_self] at after
      obtain ⟨r, known, rfl⟩ := Option.map_eq_some_iff.mp after
      exact (same thread registered r).trans (inv.known thread j r registered known)
    · rw [updateRaiser_of_ne s i f own] at after
      exact inv.known thread j r' registered after

omit [DecidableEq T] in
/-- A thread goes on with the activity it has taken. -/
theorem Inv.setThread (inv : s.Inv) {thread : Nat} {doing : PoolThread}
    (same : ∀ i, doing.activity? = some i → (s.threads thread).activity? = some i)
    (known : ∀ i, doing.Registered i → ∀ r, s.raisers i = some r → r.threadId = some thread) :
    (s.setThread thread doing).Inv := by
  have before (thread' i : Nat)
      (holds : ((s.setThread thread doing).threads thread').activity? = some i) :
      (s.threads thread').activity? = some i := by
    by_cases own : thread' = thread
    · subst own
      rw [setThread_self] at holds
      exact same i holds
    · rwa [setThread_of_ne s own] at holds
  refine ⟨inv.started, inv.made, inv.queued, inv.distinct, ?_, ?_, ?_⟩
  · exact fun thread' i holds => inv.taken thread' i (before thread' i holds)
  · intro thread₁ thread₂ i holds₁ holds₂
    exact inv.unique thread₁ thread₂ i (before thread₁ i holds₁) (before thread₂ i holds₂)
  · intro thread' i r registered raiser
    by_cases own : thread' = thread
    · subst own
      rw [setThread_self] at registered
      exact known i registered r raiser
    · rw [setThread_of_ne s own] at registered
      exact inv.known thread' i r registered raiser

/-- The event loop takes a step. -/
theorem Inv.worker (inv : s.Inv) {action : Action T V P}
    (stepped : step cfg s (.worker action) = some s') : s'.Inv := by
  obtain ⟨worker, worked, rfl⟩ := Option.map_eq_some_iff.mp stepped
  refine ⟨?_, ?_, inv.queued, inv.distinct, inv.taken, inv.unique, ?_⟩
  · exact fun i member => started_step worked (inv.started i member)
  · exact fun i r after => made_step inv worked after
  · intro thread i r' registered after
    obtain ⟨r, known, same⟩ :=
      raiserAfter_known inv (inv.taken thread i registered.activity).1 after
    exact same.trans (inv.known thread i r registered known)

/-- A function is queued once, when its task executes it. -/
theorem Inv.submit (inv : s.Inv) {i : Nat}
    (stepped : step cfg s (.submit i) = some s') : s'.Inv := by
  simp only [step] at stepped
  split at stepped
  next a there =>
    split at stepped
    next executing =>
      split at stepped
      next fresh =>
        cases stepped
        have absent : i ∉ s.workQueue := fun queued => fresh.2 (inv.queued i queued)
        refine ⟨?_, inv.made, ?_, ?_, ?_, inv.unique, inv.known⟩
        · intro j member
          rcases List.mem_cons.mp member with rfl | old
          · exact ⟨a, there, by rw [executing]; simp⟩
          · exact inv.started j old
        · intro j member
          rcases List.mem_append.mp member with old | new
          · exact List.mem_cons_of_mem _ (inv.queued j old)
          · rw [List.mem_singleton.mp new]
            exact List.mem_cons_self
        · exact List.nodup_append.mpr ⟨inv.distinct, List.nodup_singleton i,
            fun j old k new same => absent (by rwa [← List.mem_singleton.mp new, ← same])⟩
        · intro thread j holds
          obtain ⟨submitted, notQueued⟩ := inv.taken thread j holds
          refine ⟨List.mem_cons_of_mem _ submitted, fun member => ?_⟩
          rcases List.mem_append.mp member with old | new
          · exact notQueued old
          · rw [List.mem_singleton.mp new] at submitted
            exact fresh.2 submitted
      next => cases stepped
    next => cases stepped
  next => cases stepped

/-- A thread that is free takes a function that no other thread has taken. -/
theorem Inv.take (inv : s.Inv) {thread i : Nat}
    (stepped : step cfg s (.take thread i) = some s') : s'.Inv := by
  simp only [step] at stepped
  split at stepped
  next free =>
    cases stepped
    obtain ⟨idle, queued⟩ := free
    have nobody (thread' : Nat) (holds : (s.threads thread').activity? = some i) : False :=
      (inv.taken thread' i holds).2 queued
    have takes (thread' j : Nat)
        (holds : (Function.update s.threads thread (.entered i) thread').activity? = some j) :
        (thread' = thread ∧ j = i) ∨ (s.threads thread').activity? = some j := by
      by_cases own : thread' = thread
      · subst own
        rw [Function.update_self] at holds
        cases holds
        exact Or.inl ⟨rfl, rfl⟩
      · rw [Function.update_of_ne own] at holds
        exact Or.inr holds
    refine ⟨inv.started, inv.made, ?_, inv.distinct.erase i, ?_, ?_, ?_⟩
    · exact fun j member => inv.queued j (List.mem_of_mem_erase member)
    · intro thread' j holds
      rcases takes thread' j holds with ⟨rfl, rfl⟩ | old
      · exact ⟨inv.queued j queued, inv.distinct.not_mem_erase⟩
      · obtain ⟨submitted, notQueued⟩ := inv.taken thread' j old
        exact ⟨submitted, fun member => notQueued (List.mem_of_mem_erase member)⟩
    · intro thread₁ thread₂ j holds₁ holds₂
      rcases takes thread₁ j holds₁ with ⟨rfl, rfl⟩ | old₁
      · rcases takes thread₂ j holds₂ with ⟨rfl, -⟩ | old₂
        · rfl
        · exact (nobody thread₂ old₂).elim
      · rcases takes thread₂ j holds₂ with ⟨rfl, rfl⟩ | old₂
        · exact (nobody thread₁ old₁).elim
        · exact inv.unique thread₁ thread₂ j old₁ old₂
    · intro thread' j r registered raiser
      by_cases own : thread' = thread
      · subst own
        have entered : (Function.update s.threads thread' (.entered i) thread').Registered j :=
          registered
        rw [Function.update_self] at entered
        exact entered.elim
      · have old : (Function.update s.threads thread (.entered i) thread').Registered j := registered
        rw [Function.update_of_ne own] at old
        exact inv.known thread' j r old raiser
  next => cases stepped

/-- A thread registers for the activity it has taken, and no other thread has taken it. -/
theorem Inv.setThreadId (inv : s.Inv) {thread : Nat}
    (stepped : step cfg s (.setThreadId thread) = some s') : s'.Inv := by
  simp only [step] at stepped
  split at stepped
  next i entered =>
    cases stepped
    -- no other thread has taken the activity, so no thread has registered for it
    have alone (thread' : Nat) (registered : (s.threads thread').Registered i) : False := by
      obtain rfl := inv.unique thread' thread i registered.activity (by rw [entered]; rfl)
      rw [entered] at registered
      exact registered
    have known := inv.updateRaiser i (fun r => r.setThreadId thread)
      fun thread' registered => (alone thread' registered).elim
    refine known.setThread ?_ ?_
    · intro j holds
      exact (congrArg PoolThread.activity? entered).trans holds
    · rintro j rfl r raiser
      have raiser : s.updateRaiser i (fun r => r.setThreadId thread) i = some r := raiser
      rw [updateRaiser_self] at raiser
      obtain ⟨r, -, rfl⟩ := Option.map_eq_some_iff.mp raiser
      rfl
  next => cases stepped

theorem Inv.call (inv : s.Inv) {thread : Nat}
    (stepped : step cfg s (.call thread) = some s') : s'.Inv := by
  simp only [step] at stepped
  split at stepped
  next i registered =>
    cases stepped
    refine inv.setThread ?_ ?_
    · intro j holds
      rw [registered]
      exact holds
    · intro j isRunning r raiser
      refine inv.known thread j r ?_ raiser
      rw [registered]
      exact isRunning
  next => cases stepped

theorem Inv.enterShield (inv : s.Inv) {thread : Nat}
    (stepped : step cfg s (.enterShield thread) = some s') : s'.Inv := by
  simp only [step] at stepped
  split at stepped
  · cases stepped
    exact inv.updateRaiser _ _ fun _ _ _ => rfl
  · cases stepped

theorem Inv.exitShield (inv : s.Inv) {thread : Nat}
    (stepped : step cfg s (.exitShield thread) = some s') : s'.Inv := by
  simp only [step] at stepped
  split at stepped
  · split at stepped
    · cases stepped
    · cases stepped
      exact inv.updateRaiser _ _ fun _ _ r => ThreadExceptionRaiser.raiseIfPending_threadId _ _
  · cases stepped

theorem Inv.return (inv : s.Inv) {thread : Nat}
    (stepped : step cfg s (.return thread) = some s') : s'.Inv := by
  simp only [step] at stepped
  split at stepped
  · cases stepped
    exact inv.setThread (fun j holds => by cases holds) fun j registered => registered.elim
  · cases stepped

theorem step_inv {action : PoolAction T V P} (inv : s.Inv) (stepped : step cfg s action = some s') :
    s'.Inv := by
  cases action with
  | worker action => exact inv.worker stepped
  | submit i => exact inv.submit stepped
  | take thread i => exact inv.take stepped
  | setThreadId thread => exact inv.setThreadId stepped
  | call thread => exact inv.call stepped
  | enterShield thread => exact inv.enterShield stepped
  | exitShield thread => exact inv.exitShield stepped
  | «return» thread => exact inv.return stepped

/-! ### What the steps raise -/

omit [DecidableEq T] in
theorem RaisesInOwn.of_raisers (same : s'.raisers = s.raisers) : RaisesInOwn s s' := by
  intro i r r' before after raises
  rw [same, before] at after
  cases after
  exact absurd rfl raises

omit [DecidableEq T] in
/-- Only the raiser of an activity that a thread is in is called. -/
theorem RaisesInOwn.of_updateRaiser (inv : s.Inv) {thread i : Nat}
    (running : s.threads thread = .running i)
    (f : ThreadExceptionRaiser ErrorKind → ThreadExceptionRaiser ErrorKind)
    (adds : ∀ r : ThreadExceptionRaiser ErrorKind, r.Adds (f r))
    (same : s'.raisers = s.updateRaiser i f) : RaisesInOwn s s' := by
  intro j r r' before after raises
  rw [same] at after
  by_cases own : j = i
  · subst own
    rw [updateRaiser_self, before] at after
    cases after
    have known := inv.known thread j r (by rw [running]; rfl) before
    rcases adds r with nothing | ⟨threadId, excType, isKnown, more⟩
    · exact absurd nothing raises
    · rw [known] at isKnown
      cases isKnown
      exact ⟨thread, excType, more, running⟩
  · rw [updateRaiser_of_ne s i f own, before] at after
    cases after
    exact absurd rfl raises

/-- A step of the event loop. -/
theorem worker_raises_iff {action : Action T V P} (inv : s.Inv)
    (after : s'.raisers = s.raiserAfter cfg action) :
    RaisesInOwn s s' ↔ s.InTime (.worker action) := by
  constructor
  · intro own i reason a r cancels there running raiser known noShield
    obtain ⟨threadId, isKnown⟩ := Option.isSome_iff_exists.mp known
    -- the thread is known and not shielded, so the cancellation is raised in it at once
    have raised := r.raiseInThread_known isKnown noShield .cancelled
    have called : s'.raisers i = some (r.raiseInThread .cancelled) := by
      rw [after, raiserAfter_cancels cancels there running, raiser]
      rfl
    obtain ⟨thread, excType, more, inside⟩ := own i r _ raiser called (by rw [raised]; simp)
    exact ⟨thread, inside⟩
  · intro inTime i r r' before isAfter raises
    have step := raiserAfter_step cfg s action i
    rw [← after, isAfter] at step
    cases step with
    -- only a cancellation raises anything
    | same same =>
      rw [before] at same
      cases same
      exact absurd rfl raises
    | created answers a own there scheduled =>
      obtain ⟨b, thereb, started⟩ := inv.made i r before
      rw [there] at thereb
      cases thereb
      exact absurd scheduled started
    | raised reason a cancels there running after =>
      rw [before] at after
      cases after
      rcases raiseIfPending_raised { r with pendingException := some ErrorKind.cancelled } false
        with nothing | ⟨threadId, excType, known, noShield, -, more⟩
      · exact absurd nothing raises
      · have registered : r.threadId = some threadId := known
        obtain ⟨thread, inside⟩ := inTime i reason a r cancels there running before
          (by rw [registered]; rfl) noShield
        have own := inv.known thread i r (by rw [inside]; rfl) before
        rw [registered] at own
        cases own
        exact ⟨threadId, excType, more, inside⟩

/-- A step raises in the right thread exactly if it cancels in time. -/
theorem step_raises_iff {action : PoolAction T V P} (inv : s.Inv)
    (stepped : step cfg s action = some s') : RaisesInOwn s s' ↔ s.InTime action := by
  cases action with
  | worker action =>
    obtain ⟨worker, -, rfl⟩ := Option.map_eq_some_iff.mp stepped
    exact worker_raises_iff inv rfl
  | submit i =>
    simp only [step] at stepped
    refine iff_of_true (RaisesInOwn.of_raisers ?_) trivial
    split at stepped
    · split at stepped
      · split at stepped
        · cases stepped
          rfl
        · cases stepped
      · cases stepped
    · cases stepped
  | take thread i =>
    simp only [step] at stepped
    refine iff_of_true (RaisesInOwn.of_raisers ?_) trivial
    split at stepped
    · cases stepped
      rfl
    · cases stepped
  | call thread =>
    simp only [step] at stepped
    refine iff_of_true (RaisesInOwn.of_raisers ?_) trivial
    split at stepped
    · cases stepped
      rfl
    · cases stepped
  | «return» thread =>
    simp only [step] at stepped
    refine iff_of_true (RaisesInOwn.of_raisers ?_) trivial
    split at stepped
    · cases stepped
      rfl
    · cases stepped
  | setThreadId thread =>
    simp only [step] at stepped
    refine iff_of_true ?_ trivial
    split at stepped
    next i entered =>
      cases stepped
      intro j r r' before after raises
      -- the raiser learns its thread and raises nothing yet
      have after : s.updateRaiser i (fun r => r.setThreadId thread) j = some r' := after
      by_cases own : j = i
      · subst own
        rw [updateRaiser_self, before] at after
        cases after
        exact absurd rfl raises
      · rw [updateRaiser_of_ne s i _ own, before] at after
        cases after
        exact absurd rfl raises
    next => cases stepped
  | enterShield thread =>
    simp only [step] at stepped
    refine iff_of_true ?_ trivial
    split at stepped
    next i running =>
      cases stepped
      exact .of_updateRaiser inv running (fun r => r.enterShield) (fun _ => Or.inl rfl) rfl
    next => cases stepped
  | exitShield thread =>
    simp only [step] at stepped
    refine iff_of_true ?_ trivial
    split at stepped
    next i running =>
      split at stepped
      · cases stepped
      · cases stepped
        exact .of_updateRaiser inv running _ exitShield_adds rfl
    next => cases stepped

/-- In every reachable state: a step raises exceptions in no thread but one that
    is in the function of the activity concerned, exactly if it cancels no
    unfinished activity whose thread is registered and not in its function. -/
theorem raises_in_own_thread (cfg : PoolConfig)
    (run : Reaches (step cfg) (fun _ _ => True) (initial T V P) s) (action : PoolAction T V P)
    (stepped : step cfg s action = some s') : RaisesInOwn s s' ↔ s.InTime action := by
  have inv : s.Inv :=
    run.invariant Inv initial_inv fun inv _ stepped => step_inv inv stepped
  exact step_raises_iff inv stepped

/-! ### Runs -/

/-- One synchronous activity. -/
def threadPool : PoolConfig where
  activities := [("my_activity", ⟨false⟩)]
  dynamicActivity := none
  noThreadCancelException := fun _ => false

/-- An activity is started, and the pool's first thread calls its function. -/
def startedIn (token : String) (i : Nat) : List (PoolAction String Unit Unit) :=
  [.worker (.start token myActivity), .worker (.resume i noFailure), .submit i, .take 0 i,
    .setThreadId 0, .call 0]

/-- A cancellation while the function is being called. -/
theorem raises_in_own_thread_cancel :
    ∃ s s' : Pool String Unit Unit,
      Reaches (step threadPool) (fun _ _ => True) (initial String Unit Unit) s ∧
      step threadPool s (.worker (.cancel "token")) = some s' ∧
      (∃ r, s'.raisers 0 = some r ∧ r.raised = [(0, .cancelled)]) ∧ RaisesInOwn s s' := by
  have ran : runActions (step threadPool) (initial String Unit Unit) (startedIn "token" 0) =
      some _ := rfl
  have run : Reaches (step threadPool) (fun _ _ => True) (initial String Unit Unit) _ :=
    Reaches.init.of_runActions (fun _ _ _ => trivial) ran
  refine ⟨_, _, run, rfl, ⟨_, rfl, rfl⟩, ?_⟩
  rw [raises_in_own_thread threadPool run (.worker (.cancel "token")) rfl]
  rintro i reason a r cancels - - - - -
  cases cancels
  exact ⟨0, rfl⟩

/-- The function of one activity has returned and the thread is in the function of
    another one when the first one is cancelled. -/
theorem cancels_other_activity :
    ∃ s s' : Pool String Unit Unit,
      Reaches (step threadPool) (fun _ _ => True) (initial String Unit Unit) s ∧
      step threadPool s (.worker (.cancel "token")) = some s' ∧
      (∃ r, s'.raisers 0 = some r ∧ r.raised = [(0, .cancelled)]) ∧
      s.threads 0 = .running 1 ∧ ¬ RaisesInOwn s s' := by
  have ran : runActions (step threadPool) (initial String Unit Unit)
      (startedIn "token" 0 ++ .return 0 :: startedIn "other token" 1) = some _ := rfl
  have run : Reaches (step threadPool) (fun _ _ => True) (initial String Unit Unit) _ :=
    Reaches.init.of_runActions (fun _ _ _ => trivial) ran
  refine ⟨_, _, run, rfl, ⟨_, rfl, rfl⟩, rfl, ?_⟩
  intro own
  obtain ⟨thread, excType, raised, running⟩ := own 0 _ _ rfl rfl (by decide)
  cases raised
  cases running

end Pool

end TemporalSdk.ActivityWorker
