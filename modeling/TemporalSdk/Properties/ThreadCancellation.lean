import TemporalSdk.Worker.ThreadRaiser

/-!
# Thread cancellation and shields

## Main results

* `cancellation_delivered`: nothing is raised while a shield is open. Nothing is
  pending whenever the thread is known and no shield is open, if the thread
  registers its id before the first cancellation and leaves no shield with one
  pending.
* `cancellation_lost_or_repeated`: a registration after a request does not look for
  a pending exception; and what is raised where a shield is left stays pending, so
  that the next shield raises it again.

## Proof strategy

A request establishes `Delivered` whatever held before, entering a shield makes it
hold vacuously, and the other two calls keep it exactly if nothing is pending.
What goes on inside a shield is a nested word, and the induction is on it.
-/

namespace TemporalSdk.ActivityWorker

variable {E : Type}

namespace ThreadExceptionRaiser

variable {r r' : ThreadExceptionRaiser E} {call : RaiserCall E}

/-- With a known thread and no shield open, every cancellation requested so far
    has been delivered. -/
def Delivered (r : ThreadExceptionRaiser E) : Prop :=
  r.threadId.isSome → r.shieldDepth = 0 → r.pendingException = none

/-- The thread registers its id with nothing pending, or inside a shield, and
    leaves its outermost shield with nothing pending. -/
def InTime (r : ThreadExceptionRaiser E) : RaiserCall E → Prop
  | .setThreadId _ => r.pendingException = none ∨ r.shieldDepth ≠ 0
  | .exitShield => r.threadId.isSome → r.shieldDepth = 1 → r.pendingException = none
  | .raiseInThread _ | .enterShield => True

/-! ### Single calls -/

/-- An exception is raised with no shield open, in the thread that registered. -/
theorem raiseIfPending_raised (r : ThreadExceptionRaiser E) (inThread : Bool) :
    (r.raiseInThreadIfPendingUnlocked inThread).raised = r.raised ∨
      ∃ threadId excType, r.threadId = some threadId ∧ r.shieldDepth = 0 ∧
        r.pendingException = some excType ∧
        (r.raiseInThreadIfPendingUnlocked inThread).raised =
          r.raised ++ [(threadId, excType)] := by
  unfold raiseInThreadIfPendingUnlocked
  split
  · exact Or.inl rfl
  next threadId known =>
    split
    next noShield =>
      split
      next excType pending => exact Or.inr ⟨threadId, excType, known, noShield, pending, rfl⟩
      · exact Or.inl rfl
    · exact Or.inl rfl

@[simp] theorem raiseIfPending_shieldDepth (r : ThreadExceptionRaiser E) (inThread : Bool) :
    (r.raiseInThreadIfPendingUnlocked inThread).shieldDepth = r.shieldDepth := by
  unfold raiseInThreadIfPendingUnlocked
  repeat' split
  all_goals rfl

@[simp] theorem raiseIfPending_threadId (r : ThreadExceptionRaiser E) (inThread : Bool) :
    (r.raiseInThreadIfPendingUnlocked inThread).threadId = r.threadId := by
  unfold raiseInThreadIfPendingUnlocked
  repeat' split
  all_goals rfl

/-- The thread itself resets nothing. -/
@[simp] theorem raiseIfPending_pending (r : ThreadExceptionRaiser E) :
    (r.raiseInThreadIfPendingUnlocked true).pendingException = r.pendingException := by
  unfold raiseInThreadIfPendingUnlocked
  split
  · rfl
  · split
    · split
      next excType pending => simp [pending]
      · rfl
    · rfl

/-- Behind a shield the pending exception stays. -/
theorem raiseIfPending_shielded (shielded : r.shieldDepth ≠ 0) (inThread : Bool) :
    r.raiseInThreadIfPendingUnlocked inThread = r := by
  unfold raiseInThreadIfPendingUnlocked
  split
  · rfl
  · rw [if_neg shielded]

/-- Without one it is raised. -/
theorem raiseIfPending_open {threadId : Nat} (known : r.threadId = some threadId)
    (noShield : r.shieldDepth = 0) (inThread : Bool) :
    r.raiseInThreadIfPendingUnlocked inThread =
      { r with
        raised := r.raised ++ (r.pendingException.toList.map fun excType => (threadId, excType))
        pendingException := if inThread then r.pendingException else none } := by
  obtain ⟨id, pending, depth, raised⟩ := r
  subst known noShield
  cases pending <;> simp [raiseInThreadIfPendingUnlocked]

/-- The event loop delivers what is pending. -/
theorem raiseIfPending_delivered (r : ThreadExceptionRaiser E) :
    (r.raiseInThreadIfPendingUnlocked false).Delivered := by
  intro known noShield
  rw [raiseIfPending_threadId] at known
  rw [raiseIfPending_shieldDepth] at noShield
  obtain ⟨threadId, known⟩ := Option.isSome_iff_exists.mp known
  rw [raiseIfPending_open known noShield]
  rfl

/-- A call that raises leaves no shield open. -/
theorem step_raises_unshielded (stepped : step r call = some r') (raises : r'.raised ≠ r.raised) :
    r'.shieldDepth = 0 := by
  cases call with
  | setThreadId threadId =>
    cases stepped
    exact absurd rfl raises
  | enterShield =>
    cases stepped
    exact absurd rfl raises
  | raiseInThread excType =>
    cases stepped
    rcases raiseIfPending_raised { r with pendingException := some excType } false with
      same | ⟨_, _, _, noShield, _⟩
    · exact absurd same raises
    · rw [raiseInThread, raiseIfPending_shieldDepth]
      exact noShield
  | exitShield =>
    simp only [step] at stepped
    split at stepped
    · cases stepped
    · cases stepped
      rcases raiseIfPending_raised { r with shieldDepth := r.shieldDepth - 1 } true with
        same | ⟨_, _, _, noShield, _⟩
      · exact absurd same raises
      · rw [exitShield, raiseIfPending_shieldDepth]
        exact noShield

/-- After a call everything has been delivered exactly if the call is in time. -/
theorem step_delivered_iff (stepped : step r call = some r') : r'.Delivered ↔ r.InTime call := by
  cases call with
  | setThreadId threadId =>
    cases stepped
    show (true = true → r.shieldDepth = 0 → r.pendingException = none) ↔ _ ∨ _
    constructor
    · intro after
      by_cases noShield : r.shieldDepth = 0
      · exact Or.inl (after rfl noShield)
      · exact Or.inr noShield
    · rintro (nothing | shielded) - noShield
      · exact nothing
      · exact absurd noShield shielded
  | raiseInThread excType =>
    cases stepped
    exact iff_of_true (raiseIfPending_delivered _) trivial
  | enterShield =>
    cases stepped
    exact iff_of_true (fun _ noShield => absurd noShield (Nat.succ_ne_zero _)) trivial
  | exitShield =>
    simp only [step] at stepped
    split at stepped
    · cases stepped
    next entered =>
      cases stepped
      have outermost : r.shieldDepth - 1 = 0 ↔ r.shieldDepth = 1 := by omega
      simp only [Delivered, exitShield, raiseIfPending_threadId, raiseIfPending_shieldDepth,
        raiseIfPending_pending, outermost]
      rfl

/-! ### Inside a shield -/

/-- The calls during a shield: requests, and shields in it that are left again. -/
inductive Nested : List (RaiserCall E) → Prop
  | nil : Nested []
  | request (excType : E) {rest : List (RaiserCall E)} (nested : Nested rest) :
      Nested (.raiseInThread excType :: rest)
  | shield {inner rest : List (RaiserCall E)} (first : Nested inner) (nested : Nested rest) :
      Nested (.enterShield :: (inner ++ .exitShield :: rest))

/-- The exception type of the last request. -/
def lastRequest : List (RaiserCall E) → Option E
  | [] => none
  | .raiseInThread excType :: rest => (lastRequest rest).or (some excType)
  | _ :: rest => lastRequest rest

theorem lastRequest_append (first later : List (RaiserCall E)) :
    lastRequest (first ++ later) = (lastRequest later).or (lastRequest first) := by
  induction first with
  | nil => simp [lastRequest]
  | cons call rest ih =>
    cases call <;> simp [lastRequest, ih]

/-- During a shield requests only replace the pending exception. -/
theorem Nested.run {calls : List (RaiserCall E)} (nested : Nested calls)
    {r : ThreadExceptionRaiser E} (shielded : r.shieldDepth ≠ 0) :
    runActions step r calls =
      some { r with pendingException := (lastRequest calls).or r.pendingException } := by
  induction nested generalizing r with
  | nil => rfl
  | request excType nested ih =>
    have kept : step r (.raiseInThread excType) =
        some { r with pendingException := some excType } := by
      rw [step, raiseInThread, raiseIfPending_shielded]
      exact shielded
    rw [runActions, kept, Option.bind_some]
    refine (ih (by exact shielded)).trans ?_
    simp [lastRequest]
  | @shield inner rest first nested ihFirst ih =>
    have entered : (r.enterShield).shieldDepth ≠ 0 := Nat.succ_ne_zero _
    have left (pending : Option E) :
        step { r.enterShield with pendingException := pending } .exitShield =
          some { r with pendingException := pending } := by
      have stays : r.shieldDepth + 1 - 1 = r.shieldDepth := Nat.add_sub_cancel ..
      rw [step, if_neg entered, exitShield, raiseIfPending_shielded]
      · simp only [enterShield, stays]
      · simpa [enterShield] using shielded
    rw [runActions, step, Option.bind_some, runActions_append, ihFirst entered, Option.bind_some,
      runActions, left, Option.bind_some]
    refine (ih (by exact shielded)).trans ?_
    simp [lastRequest, lastRequest_append, enterShield, Option.or_assoc]

/-- A whole shield around the calls raises the last request, once, and keeps it
    pending. -/
theorem Nested.raisedOnce {calls : List (RaiserCall E)} (nested : Nested calls) {threadId : Nat}
    (known : r.threadId = some threadId) (noShield : r.shieldDepth = 0) (delivered : r.Delivered) :
    runActions step r (.enterShield :: (calls ++ [RaiserCall.exitShield])) =
      some { r with
        raised := r.raised ++ ((lastRequest calls).toList.map fun excType => (threadId, excType))
        pendingException := lastRequest calls } := by
  have nothing : r.pendingException = none := delivered (by rw [known]; rfl) noShield
  have entered : (r.enterShield).shieldDepth ≠ 0 := Nat.succ_ne_zero _
  have left (pending : Option E) :
      step { r.enterShield with pendingException := pending } .exitShield =
        some { r with
          raised := r.raised ++ (pending.toList.map fun excType => (threadId, excType))
          pendingException := pending } := by
    rw [step, if_neg entered, exitShield, raiseIfPending_open]
    · simp only [enterShield]
      rfl
    · exact known
    · simp [enterShield, noShield]
  rw [runActions, step, Option.bind_some, runActions_append, nested.run entered, Option.bind_some,
    runActions, left, Option.bind_some, runActions]
  simp [enterShield, nothing]

/-! ### Delivery -/

/-- In a run in which the thread never registers and never leaves its outermost
    shield with a cancellation pending, all cancellations requested so far have been
    delivered whenever the thread is known and no shield is open. From whatever
    state, a call raises only outside of shields, and everything has been delivered
    after it exactly if it is in time; the requests during a shield are raised once
    where it is left, and stay pending. -/
theorem cancellation_delivered
    (run : Reaches step (fun r call => r.InTime call) ({} : ThreadExceptionRaiser E) r) :
    r.Delivered ∧
    (∀ (r₁ : ThreadExceptionRaiser E) call r₂, step r₁ call = some r₂ →
      (r₂.raised ≠ r₁.raised → r₂.shieldDepth = 0) ∧ (r₂.Delivered ↔ r₁.InTime call)) ∧
    (∀ calls threadId, Nested calls → r.threadId = some threadId → r.shieldDepth = 0 →
      runActions step r (.enterShield :: (calls ++ [.exitShield])) =
        some { r with
          raised := r.raised ++
            ((lastRequest calls).toList.map fun excType => (threadId, excType))
          pendingException := lastRequest calls }) := by
  have delivered : r.Delivered := by
    refine run.invariant Delivered (fun known => by cases known) ?_
    intro r r' call _ inTime stepped
    exact (step_delivered_iff stepped).mpr inTime
  refine ⟨delivered, ?_, ?_⟩
  · intro r₁ call r₂ stepped
    exact ⟨step_raises_unshielded stepped, step_delivered_iff stepped⟩
  · intro calls threadId nested known noShield
    exact nested.raisedOnce known noShield delivered

/-- A request outside of the shield is delivered; two requests during a nested shield
    are one exception in the thread. -/
theorem cancellation_delivered_once :
    ∃ r : ThreadExceptionRaiser String,
      Reaches step (fun r call => r.InTime call) {} r ∧ r.Delivered ∧
      r.raised = [(7, "CancelledError")] ∧
      runActions step r [.enterShield, .enterShield, .raiseInThread "CancelledError", .exitShield,
        .raiseInThread "CancelledError", .exitShield] =
      some {
        threadId := some 7
        pendingException := some "CancelledError"
        raised := [(7, "CancelledError"), (7, "CancelledError")] } := by
  have registered : Reaches step (fun r call => r.InTime call) ({} : ThreadExceptionRaiser String)
      { threadId := some 7 } :=
    Reaches.init.step (.setThreadId 7) (Or.inl rfl) rfl
  have run : Reaches step (fun r call => r.InTime call) ({} : ThreadExceptionRaiser String)
      { threadId := some 7, raised := [(7, "CancelledError")] } :=
    ((registered.step .enterShield trivial rfl).step .exitShield (fun _ _ => rfl) rfl).step
      (.raiseInThread "CancelledError") trivial rfl
  obtain ⟨delivered, -, shield⟩ := cancellation_delivered run
  refine ⟨_, run, delivered, rfl, ?_⟩
  have nested : Nested [.enterShield, .raiseInThread "CancelledError", .exitShield,
      .raiseInThread "CancelledError"] :=
    .shield (.request _ .nil) (.request _ .nil)
  exact shield _ 7 nested rfl rfl

/-- A cancellation requested before the thread has registered stays pending, and so
    does one that was requested during a shield: the next shield raises it again. -/
theorem cancellation_lost_or_repeated :
    runActions step ({} : ThreadExceptionRaiser String)
        [.raiseInThread "CancelledError", .setThreadId 7] =
      some { threadId := some 7, pendingException := some "CancelledError" } ∧
    runActions step ({} : ThreadExceptionRaiser String)
        [.setThreadId 7, .enterShield, .raiseInThread "CancelledError", .exitShield,
          .enterShield, .exitShield] =
      some {
        threadId := some 7
        pendingException := some "CancelledError"
        raised := [(7, "CancelledError"), (7, "CancelledError")] } ∧
    ¬∀ r : ThreadExceptionRaiser String, Reaches step (fun _ _ => True) {} r → r.Delivered := by
  refine ⟨rfl, rfl, fun all => ?_⟩
  have run : Reaches step (fun _ _ => True) ({} : ThreadExceptionRaiser String)
      { threadId := some 7, pendingException := some "CancelledError" } :=
    (Reaches.init.step (.raiseInThread "CancelledError") trivial rfl).step (.setThreadId 7) trivial rfl
  have nothing := all _ run rfl rfl
  cases nothing

end ThreadExceptionRaiser

end TemporalSdk.ActivityWorker
