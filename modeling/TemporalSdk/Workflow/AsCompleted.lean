import TemporalSdk.AsyncQueue

/-!
# `workflow.as_completed`

An iteration over `as_completed` on the workflow's event loop. `as_completed` is a
generator: the call runs nothing of it, and where the iteration starts, its body runs in
one go up to the first `yield`. The state is what it leaves behind: the futures, the
handles on the loop's ready queue that are about the iteration, `todo`, the timer and the
queue `done`, from which the awaitables get.

Whatever else the workflow does is an action that may come at any time: completing a
future (with a result, an exception or a cancellation, which are all of the type `R`),
firing the timer, awaiting one of the awaitables and cancelling who awaits it.
-/
namespace TemporalSdk.AsCompleted

variable {F R : Type}

/-- A handle on the ready queue of the loop. -/
inductive Handle (F : Type) where
  /-- `_on_completion`, of a future that is done. -/
  | onCompletion (f : F)
  /-- `_on_timeout`, when the timer has fired. -/
  | onTimeout
  /-- A step of the task that awaits an awaitable. -/
  | wakeup (i : Nat)
  deriving DecidableEq

/-- `timeout_handle`. -/
inductive Timer where
  | pending
  /-- Its handle is on the ready queue. -/
  | fired
  | ran
  | cancelled
  deriving DecidableEq

structure State (F R : Type) where
  /-- What the futures that are done are done with. -/
  outcomes : F → Option R
  /-- The futures that have `_on_completion` among their callbacks. -/
  callbacks : List F
  ready : List (Handle F)
  todo : List F
  timeoutHandle : Option Timer
  /-- The queue; `None` is the dummy value of `_on_timeout`. -/
  done : AsyncQueue (Option F)
  /-- The futures in the order in which they completed. -/
  completions : List F

namespace State

variable [DecidableEq F]

/-- `f.add_done_callback(_on_completion)`. -/
def addDoneCallback (s : State F R) (f : F) : State F R :=
  match s.outcomes f with
  | some _ => { s with ready := s.ready ++ [.onCompletion f] }
  | none => { s with callbacks := s.callbacks ++ [f] }

/-- `f.remove_done_callback(_on_completion)`. -/
def removeDoneCallback (s : State F R) (f : F) : State F R :=
  { s with callbacks := s.callbacks.filter fun g => g ≠ f }

def schedule (s : State F R) (woken : Option Nat) : State F R :=
  { s with ready := s.ready ++ woken.toList.map .wakeup }

/-- `done.put_nowait`. -/
def putNowait (s : State F R) (item : Option F) : State F R :=
  { s with done := (s.done.putNowait item).1 }.schedule (s.done.putNowait item).2

/-- `_on_timeout`. -/
def onTimeout (s : State F R) : State F R :=
  { s.todo.foldl (fun s f => (s.removeDoneCallback f).putNowait none) s with todo := [] }

/-- `_on_completion`. A future that is not in `todo` would be a `ValueError`, which the
    loop reports. -/
def onCompletion (s : State F R) (f : F) : State F R :=
  if s.todo = [] then s
  else if f ∈ s.todo then
    let put := { s with todo := s.todo.erase f }.putNowait (some f)
    if put.todo = [] then
      { put with timeoutHandle := put.timeoutHandle.map fun _ => .cancelled }
    else put
  else s

/-- The loop runs a handle; that of a cancelled timer has no callback any more. -/
def runHandle (s : State F R) : Handle F → State F R
  | .onCompletion f => s.onCompletion f
  | .onTimeout =>
    if s.timeoutHandle = some .fired then { s with timeoutHandle := some .ran }.onTimeout else s
  | .wakeup i => { s with done := (s.done.resume i).1 }.schedule (s.done.resume i).2

end State

/-- What can happen once the iteration has started. -/
inductive Action (F R : Type) where
  | complete (f : F) (outcome : R)
  | fireTimer
  | await (i : Nat)
  | cancelAwait (i : Nat)
  /-- The loop runs the next handle. -/
  | tick

variable [DecidableEq F]

/-- The outcomes of futures that have completed. -/
def outcomesOf (completions : List (F × R)) (f : F) : Option R :=
  (completions.find? fun completion => completion.1 = f).map Prod.snd

/-- The first `next()` of the generator, with the futures that are done by then in the order
    in which they completed. -/
def start (fs : List F) (timeout : Bool) (before : List (F × R)) : State F R :=
  let s : State F R := fs.foldl State.addDoneCallback {
    outcomes := outcomesOf before
    callbacks := []
    ready := []
    todo := fs
    timeoutHandle := none
    done := .empty fs.length
    completions := before.map Prod.fst }
  { s with timeoutHandle := if s.todo ≠ [] ∧ timeout then some .pending else none }

/-- A future is completed once, and hands its callbacks to the loop. -/
def step (s : State F R) : Action F R → Option (State F R)
  | .complete f outcome =>
    match s.outcomes f with
    | some _ => none
    | none => some { s with
        outcomes := fun g => if g = f then some outcome else s.outcomes g
        callbacks := s.callbacks.filter fun g => g ≠ f
        ready := s.ready ++ (s.callbacks.filter fun g => g = f).map .onCompletion
        completions := s.completions ++ [f] }
  | .fireTimer =>
    match s.timeoutHandle with
    | some .pending =>
      some { s with timeoutHandle := some .fired, ready := s.ready ++ [.onTimeout] }
    | _ => none
  | .await i => (s.done.get? i).map fun done => { s with done := done }
  | .cancelAwait i => (s.done.cancel? i).map fun (done, woken) =>
      { s with done := done }.schedule woken
  | .tick =>
    match s.ready with
    | [] => none
    | handle :: rest => some ({ s with ready := rest }.runHandle handle)

/-- What an awaitable resolves to: the outcome of a future, or `asyncio.TimeoutError`. -/
inductive Resolution (R : Type) where
  | outcome (outcome : R)
  | timeoutError
  deriving DecidableEq

/-- The resolution of an awaitable that has got its item: `f.result()` of a future. -/
def State.resolution (s : State F R) (i : Nat) : Option (Resolution R) :=
  match s.done.consumers[i]? with
  | some (.got (some f)) => (s.outcomes f).map .outcome
  | some (.got none) => some .timeoutError
  | _ => none

end TemporalSdk.AsCompleted
