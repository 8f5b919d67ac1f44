import TemporalSdk.Transition

/-!
# Thread-local overrides

`_ThreadLocalOverride`: an attribute of an object shared by all threads is
replaced by the override, which answers for each thread with the value of that
thread. `applied` and `unapplied` are context managers, so a thread is inside a
stack of open blocks. The statements of one thread run in order; between any two
of them other threads run. What `applied` does under the lock is one step.

A block is left in the same way whether its body ends normally or raises.
-/
namespace TemporalSdk.Sandbox

/-- What the overridden attribute of the object holds. -/
inductive Attr (V : Type) where
  | override
  | value (v : V)
  deriving DecidableEq

/-- An open block: the local variables of its context manager. -/
inductive Block (V : Type) where
  | applied (origCurrent : Option V) (current : V)
  | unapplied (origCurrent : Option V)

/-- Where a thread is. -/
inductive Point (V : Type) where
  /-- In the body of the innermost open block. -/
  | body
  /-- Entering `applied`, before the counter is incremented. -/
  | counting (origCurrent : Option V) (current : V)
  /-- Entering `applied`, before `self.current = current`. -/
  | setting (origCurrent : Option V) (current : V)
  /-- Entering `unapplied`, before `del self.current`. -/
  | clearing (origCurrent : Option V)
  /-- Leaving `applied`, before the counter is decremented. -/
  | uncounting

structure Thread (V : Type) where
  /-- `thread_local.__dict__.get("data")`, which is never a stored `None`. -/
  data : Option V := none
  /-- The innermost block first. -/
  blocks : List (Block V) := []
  point : Point V := .body

/-- The override, the attribute it is for, and the threads. -/
structure Override (V : Type) where
  orig : V
  appliedCounter : Int
  attr : Attr V
  threads : List (Thread V)

inductive Op (V : Type) where
  | enterApplied (current : V)
  | enterUnapplied
  /-- The body of the innermost block has ended, normally or not. -/
  | leave
  /-- The next statement of an `enter` or `leave` that is under way. -/
  | advance

variable {V : Type}

/-- `current`, as the thread sees it. -/
def Thread.current (orig : V) (th : Thread V) : V := th.data.getD orig

namespace Override

/-- `n` threads, and the attribute as it was found. -/
def initial (orig : V) (n : Nat) : Override V where
  orig := orig
  appliedCounter := 0
  attr := .value orig
  threads := List.replicate n {}

variable (s : Override V)

def setThread (i : Nat) (th : Thread V) : Override V := { s with threads := s.threads.set i th }

/-- On entry of `applied`, under the lock. -/
def count : Override V :=
  { s with
    appliedCounter := s.appliedCounter + 1
    attr := match s.attr with
      | .override => s.attr
      | .value _ => .override }

/-- On exit of `applied`, under the lock. -/
def uncount : Override V :=
  { s with
    appliedCounter := s.appliedCounter - 1
    attr := if s.appliedCounter - 1 = 0 then .value s.orig else s.attr }

/-- A step of one thread. -/
def step (s : Override V) : Nat × Op V → Option (Override V)
  | (i, op) =>
    match s.threads[i]? with
    | none => none
    | some th =>
      match th.point, op with
      | .body, .enterApplied current =>
        some (s.setThread i { th with point := .counting th.data current })
      | .counting origCurrent current, .advance =>
        some (s.count.setThread i { th with point := .setting origCurrent current })
      | .setting origCurrent current, .advance =>
        some (s.setThread i
          { data := some current, blocks := .applied origCurrent current :: th.blocks, point := .body })
      | .body, .enterUnapplied =>
        some (s.setThread i { th with point := .clearing th.data })
      | .clearing origCurrent, .advance =>
        some (s.setThread i
          { data := if origCurrent.isSome then none else th.data
            blocks := .unapplied origCurrent :: th.blocks
            point := .body })
      | .body, .leave =>
        match th.blocks with
        | [] => none
        | .applied origCurrent _ :: rest =>
          some (s.setThread i { data := origCurrent, blocks := rest, point := .uncounting })
        | .unapplied origCurrent :: rest =>
          some (s.setThread i
            { data := if origCurrent.isSome then origCurrent else th.data
              blocks := rest
              point := .body })
      | .uncounting, .advance => some (s.uncount.setThread i { th with point := .body })
      | _, _ => none

end Override

end TemporalSdk.Sandbox
