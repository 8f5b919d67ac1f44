import Mathlib.Logic.Function.Basic
import TemporalSdk.Worker.ActivitySteps
import TemporalSdk.Worker.ThreadRaiser

/-!
# Synchronous activities in a thread pool

The worker with a `ThreadPoolExecutor`: the function of a synchronous activity is
submitted in `execute_activity` and called by `_execute_sync_activity` in one of
the pool's threads, which are used again for later activities. The event loop,
with the `_run_activity` tasks, and the threads take their steps independently.
A thread is in one activity at a time; which submitted one a free thread takes is
not fixed.
-/
namespace TemporalSdk.ActivityWorker

open Worker (PyError ErrorKind)

/-- What a thread of the pool is doing. Activities are given by their index. -/
inductive PoolThread where
  | idle
  /-- In `_execute_sync_activity`, before `set_thread_id`. -/
  | entered (i : Nat)
  /-- In `_execute_sync_activity`, before the call of the function. -/
  | registered (i : Nat)
  /-- In the function of the activity. -/
  | running (i : Nat)
  deriving DecidableEq

structure PoolConfig extends Config where
  /-- `no_thread_cancel_exception` of the activity that runs for this type. -/
  noThreadCancelException : String → Bool

structure Pool (T V P : Type) where
  worker : State T V P
  /-- `cancel_thread_raiser`. -/
  raisers : Nat → Option (ThreadExceptionRaiser ErrorKind)
  /-- The activities whose function has been submitted so far. -/
  submitted : List Nat
  /-- Those that no thread has taken yet. -/
  workQueue : List Nat
  threads : Nat → PoolThread

inductive PoolAction (T V P : Type) where
  /-- The event loop. -/
  | worker (action : Action T V P)
  /-- `run_in_executor`, which an interceptor may put off. -/
  | submit (i : Nat)
  | take (thread i : Nat)
  | setThreadId (thread : Nat)
  /-- The function is called. -/
  | call (thread : Nat)
  /-- The function enters or leaves a `shield_thread_cancel_exception` block. -/
  | enterShield (thread : Nat)
  | exitShield (thread : Nat)
  /-- The function returns or raises. -/
  | return (thread : Nat)

namespace Pool

variable {T V P : Type} [DecidableEq T] (cfg : PoolConfig) (s : Pool T V P)

/-- A pool that has just started. -/
def initial (T V P : Type) : Pool T V P where
  worker := State.initial T V P
  raisers := fun _ => none
  submitted := []
  workQueue := []
  threads := fun _ => .idle

def updateRaiser (i : Nat)
    (f : ThreadExceptionRaiser ErrorKind → ThreadExceptionRaiser ErrorKind) :
    Nat → Option (ThreadExceptionRaiser ErrorKind) :=
  Function.update s.raisers i ((s.raisers i).map f)

/-- Whether the events of the activity are set up in this step, with a raiser:
    it is synchronous and its definition asks for the exception. -/
def createsRaiser (a : Activity T V P) (answers : Answers P) : Bool :=
  match a.phase, (cfg.activities.lookup a.start.activityType).or cfg.dynamicActivity,
    answers.setUp with
  | .scheduled, some activityDef, .ok () =>
    !activityDef.isAsync && !cfg.noThreadCancelException a.start.activityType
  | _, _, _ => false

/-- The raiser of activity `i` after an action of the event loop. -/
def raiserAfter (action : Action T V P) (i : Nat) : Option (ThreadExceptionRaiser ErrorKind) :=
  match s.worker.activities[i]? with
  | none => s.raisers i
  | some a =>
    match action with
    | .resume j answers =>
      if j = i ∧ createsRaiser cfg a answers then some {} else s.raisers i
    | action =>
      -- `_RunningActivity.cancel`
      if (s.worker.cancellation action).any (fun c => c.1 = i) ∧ ¬a.done then
        (s.raisers i).map fun r => r.raiseInThread .cancelled
      else s.raisers i

/-- A thread goes on. -/
def setThread (thread : Nat) (doing : PoolThread) : Pool T V P :=
  { s with threads := Function.update s.threads thread doing }

def step (s : Pool T V P) : PoolAction T V P → Option (Pool T V P)
  | .worker action =>
    (s.worker.step cfg.toConfig action).map fun worker =>
      { s with worker := worker, raisers := s.raiserAfter cfg action }
  | .submit i =>
    match s.worker.activities[i]? with
    | some a =>
      match a.phase with
      | .executing =>
        if a.sync ∧ i ∉ s.submitted then
          some { s with submitted := i :: s.submitted, workQueue := s.workQueue ++ [i] }
        else none
      | _ => none
    | none => none
  | .take thread i =>
    if s.threads thread = .idle ∧ i ∈ s.workQueue then
      some ({ s with workQueue := s.workQueue.erase i }.setThread thread (.entered i))
    else none
  | .setThreadId thread =>
    match s.threads thread with
    | .entered i =>
      some ({ s with raisers := s.updateRaiser i fun r => r.setThreadId thread }.setThread thread
        (.registered i))
    | _ => none
  | .call thread =>
    match s.threads thread with
    | .registered i => some (s.setThread thread (.running i))
    | _ => none
  | .enterShield thread =>
    match s.threads thread with
    | .running i => some { s with raisers := s.updateRaiser i fun r => r.enterShield }
    | _ => none
  | .exitShield thread =>
    match s.threads thread with
    | .running i =>
      -- Only an entered block can be left.
      if (s.raisers i).any fun r => r.shieldDepth = 0 then none
      else some { s with raisers := s.updateRaiser i fun r => r.exitShield }
    | _ => none
  | .return thread =>
    match s.threads thread with
    | .running _ => some (s.setThread thread .idle)
    | _ => none

end Pool

end TemporalSdk.ActivityWorker
