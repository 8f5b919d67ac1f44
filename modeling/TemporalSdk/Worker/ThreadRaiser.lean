import TemporalSdk.Transition

/-!
# Raising an exception in a thread

`_ThreadExceptionRaiser`: the event loop asks for an exception to be raised in
the thread of a synchronous activity. The activity can hold it off in `shielded`
blocks. All methods take the lock, so what one of them does under the lock is one
step; a `shielded` block is two. Requests are made by the event loop, and blocks are
left by the thread of the activity itself.
-/
namespace TemporalSdk.ActivityWorker

/-- `_ThreadExceptionRaiser`, for exception types `E`. -/
structure ThreadExceptionRaiser (E : Type) where
  threadId : Option Nat := none
  pendingException : Option E := none
  shieldDepth : Nat := 0
  /-- The calls of `Runtime._raise_in_thread`. -/
  raised : List (Nat × E) := []

inductive RaiserCall (E : Type) where
  | setThreadId (threadId : Nat)
  | raiseInThread (excType : E)
  /-- A `shielded` block is entered. -/
  | enterShield
  /-- A `shielded` block is left. -/
  | exitShield

namespace ThreadExceptionRaiser

variable {E : Type} (r : ThreadExceptionRaiser E)

/-- `_raise_in_thread_if_pending_unlocked`. In the thread itself the exception comes
up as soon as `_raise_in_thread` returns, so the reset is not reached. -/
def raiseInThreadIfPendingUnlocked (inThread : Bool) : ThreadExceptionRaiser E :=
  match r.threadId with
  -- Does not apply if no thread ID
  | none => r
  | some threadId =>
    if r.shieldDepth = 0 then
      match r.pendingException with
      | some excType =>
        { r with
          raised := r.raised ++ [(threadId, excType)]
          pendingException := if inThread then some excType else none }
      | none => r
    else r

def setThreadId (threadId : Nat) : ThreadExceptionRaiser E := { r with threadId := some threadId }

def raiseInThread (excType : E) : ThreadExceptionRaiser E :=
  { r with pendingException := some excType }.raiseInThreadIfPendingUnlocked false

def enterShield : ThreadExceptionRaiser E := { r with shieldDepth := r.shieldDepth + 1 }

def exitShield : ThreadExceptionRaiser E :=
  { r with shieldDepth := r.shieldDepth - 1 }.raiseInThreadIfPendingUnlocked true

/-- One call. Only an entered block can be left. -/
def step (r : ThreadExceptionRaiser E) : RaiserCall E → Option (ThreadExceptionRaiser E)
  | .setThreadId threadId => some (r.setThreadId threadId)
  | .raiseInThread excType => some (r.raiseInThread excType)
  | .enterShield => some r.enterShield
  | .exitShield => if r.shieldDepth = 0 then none else some r.exitShield

end ThreadExceptionRaiser

end TemporalSdk.ActivityWorker
