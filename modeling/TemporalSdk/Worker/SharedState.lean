import Mathlib.Logic.Function.Basic
import TemporalSdk.Transition

/-!
# Heartbeats of activities in other processes

`_MultiprocessingSharedStateManager`: activities in other processes put their
heartbeats on one queue, and a processor submitted to an executor takes them off
and calls the heartbeat function registered for the task token. The event loop
(`register_heartbeater`, `unregister_heartbeater`), the processes of the
activities and the processors take their steps independently. An activity is
registered once, before its function is submitted, and unregistered once, after
it: `execute_activity`.

The time-outs of the queue are not counted: a `put` may raise at any time.
-/
namespace TemporalSdk.ActivityWorker

/-- `_multiprocess_heartbeat_complete`, or the details of a heartbeat. -/
inductive QueueItem (T D : Type) where
  | complete (token : T)
  | heartbeat (token : T) (details : D)
  deriving DecidableEq

/-- What has been put on the queue. Items are numbered: two equal ones are not the same. -/
structure QueueEntry (T D : Type) where
  number : Nat
  item : QueueItem T D
  deriving DecidableEq

/-- Where a call of `_heartbeat_processor` is. -/
inductive Processor (T D : Type) where
  | submitted
  /-- At the condition of the loop. -/
  | checking
  /-- In `self._heartbeat_queue.get`. -/
  | getting
  | handling (entry : QueueEntry T D)
  /-- Before the completion is looked up and called. -/
  | completing (token : T)
  | ended
  deriving DecidableEq

/-- Where the event loop is. Both calls run to this point and on without an `await`. -/
inductive EventLoop (T : Type) where
  | idle
  /-- In `register_heartbeater`, before `len(self._heartbeats) == 1`. -/
  | registering (token : T)
  /-- In `unregister_heartbeater`, before or in `self._heartbeat_queue.put`. -/
  | putting (token : T)
  deriving DecidableEq

/-- How far an activity is. -/
inductive ActivityCall where
  | new
  | registered
  /-- `unregister_heartbeater` has been called. -/
  | unregistering
  | left
  deriving DecidableEq

/-- How a call made by a processor ends. -/
inductive CallResult where
  | returns
  /-- `queue.Empty`, which the processor takes for one of its own queue. -/
  | raisesEmpty
  | raises
  deriving DecidableEq

structure SharedState (T D : Type) where
  /-- The keys of `_heartbeats`. -/
  heartbeats : List T := []
  /-- The keys of `_heartbeat_completions`. -/
  heartbeatCompletions : List T := []
  heartbeatQueue : List (QueueEntry T D) := []
  puts : Nat := 0
  processors : List (Processor T D) := []
  loop : EventLoop T := .idle
  activities : T → ActivityCall := fun _ => .new
  /-- The activities whose `finish_event` is set. -/
  finished : List T := []
  /-- The heartbeat function of the item's task token has been called with it. -/
  delivered : List (QueueEntry T D) := []
  /-- The activities whose completion marker has been processed. -/
  completed : List T := []

inductive SharedAction (T D : Type) where
  /-- The first statement of `register_heartbeater`. -/
  | register (token : T)
  /-- The rest of it. -/
  | submit
  /-- `send_heartbeat` of the activity's process. -/
  | sendHeartbeat (token : T) (details : D)
  /-- `unregister_heartbeater` up to the `put`. -/
  | unregister (token : T)
  | put
  | putRaises
  /-- `await finish_event.wait()` ends: the event is set, or the task is cancelled. -/
  | leave (token : T) (cancelled : Bool)
  /-- The executor starts a processor. -/
  | start (i : Nat)
  | check (i : Nat)
  | get (i : Nat)
  | getRaises (i : Nat)
  | handle (i : Nat) (result : CallResult)
  | complete (i : Nat) (result : CallResult)

namespace SharedState

variable {T D : Type} [DecidableEq T]

def init : SharedState T D := {}

/-- `mgr.Queue(1000)`. -/
def queueSize : Nat := 1000

def enqueue (s : SharedState T D) (item : QueueItem T D) : SharedState T D :=
  { s with heartbeatQueue := s.heartbeatQueue ++ [⟨s.puts, item⟩], puts := s.puts + 1 }

def setProcessor (s : SharedState T D) (i : Nat) (p : Processor T D) : SharedState T D :=
  { s with processors := s.processors.set i p }

def setActivity (s : SharedState T D) (token : T) (call : ActivityCall) : SharedState T D :=
  { s with activities := Function.update s.activities token call }

/-- After a call, the loop goes on unless the call raised. -/
def after : CallResult → Processor T D
  | .returns | .raisesEmpty => .checking
  | .raises => .ended

def step (s : SharedState T D) : SharedAction T D → Option (SharedState T D)
  | .register token =>
    if s.loop = .idle ∧ s.activities token = .new then
      some { s.setActivity token .registered with
        heartbeats := if token ∈ s.heartbeats then s.heartbeats else s.heartbeats ++ [token]
        loop := .registering token }
    else none
  | .submit => match s.loop with
    | .registering _ =>
      some { s with
        loop := .idle
        -- "If just now non-empty, start processor"
        processors :=
          if s.heartbeats.length = 1 then s.processors ++ [.submitted] else s.processors }
    | .idle | .putting _ => none
  | .sendHeartbeat token details =>
    if s.activities token ≠ .new ∧ s.heartbeatQueue.length < queueSize then
      some (s.enqueue (.heartbeat token details))
    else none
  | .unregister token =>
    if s.loop = .idle ∧ s.activities token = .registered then
      some { s.setActivity token .unregistering with
        heartbeatCompletions := s.heartbeatCompletions ++ [token]
        loop := .putting token }
    else none
  | .put => match s.loop with
    | .putting token =>
      if s.heartbeatQueue.length < queueSize then
        some { s.enqueue (.complete token) with loop := .idle }
      else none
    | .idle | .registering _ => none
  | .putRaises => match s.loop with
    | .putting token =>
      some { s.setActivity token .left with
        heartbeatCompletions := s.heartbeatCompletions.erase token
        loop := .idle }
    | .idle | .registering _ => none
  | .leave token cancelled =>
    if s.loop = .idle ∧ s.activities token = .unregistering ∧
        (cancelled = true ∨ token ∈ s.finished) then
      some { s.setActivity token .left with
        heartbeatCompletions := s.heartbeatCompletions.erase token }
    else none
  | .start i => match s.processors[i]? with
    | some .submitted => some (s.setProcessor i .checking)
    | _ => none
  | .check i => match s.processors[i]? with
    | some .checking =>
      some (s.setProcessor i (if s.heartbeats.length > 0 then .getting else .ended))
    | _ => none
  | .get i => match s.processors[i]? with
    | some .getting => match s.heartbeatQueue with
      | [] => some (s.setProcessor i .checking)
      | entry :: rest => some { s.setProcessor i (.handling entry) with heartbeatQueue := rest }
    | _ => none
  | .getRaises i => match s.processors[i]? with
    | some .getting => some (s.setProcessor i .ended)
    | _ => none
  | .handle i result => match s.processors[i]? with
    | some (.handling entry) => match entry.item with
      | .complete token =>
        if token ∈ s.heartbeats then
          some { s.setProcessor i (.completing token) with
            heartbeats := s.heartbeats.erase token
            completed := s.completed ++ [token] }
        -- `del` raises `KeyError`
        else some (s.setProcessor i .ended)
      | .heartbeat token _ =>
        if token ∈ s.heartbeats then
          some { s.setProcessor i (after result) with delivered := s.delivered ++ [entry] }
        else some (s.setProcessor i .checking)
    | _ => none
  | .complete i result => match s.processors[i]? with
    | some (.completing token) =>
      if token ∈ s.heartbeatCompletions then
        some { s.setProcessor i (after result) with
          finished := if result = .returns then s.finished ++ [token] else s.finished }
      else some (s.setProcessor i .checking)
    | _ => none

end SharedState

end TemporalSdk.ActivityWorker
