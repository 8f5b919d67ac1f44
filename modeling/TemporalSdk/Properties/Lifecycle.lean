import TemporalSdk.Properties.ActivityCompletion
import TemporalSdk.Worker.Lifecycle

/-!
# The shutdown of a worker

## Main results

* `finalize_is_last`: in every run, once `finalize_shutdown` is called, core has
  been told to shut down, all poll loops and queue drains have ended, every
  activity that was ever started has sent its one completion and its task has
  ended, and so has the task of every activation. No later step completes
  anything.
* `shutdown_completes`: unless it is cancelled while it stops the worker, or a
  poll loop has been cancelled by then, `run` either completes the shutdown, so
  that `shutdown` returns, or it raises what the task of an activity has raised;
  then `shutdown` never returns. `beginShutdown_cancelled`: where a poll loop has
  been cancelled, `run` ends with a cancellation instead.
* `run_outcome`: `run` raises a cancellation, what a worker's poll loop failed
  with or what the task of an activity has raised, and it ends without an
  exception only if the shutdown was requested.

## Proof strategy

`Accounted` says of the activities, whatever is raised where, that those whose
tasks have not ended in order are the running ones, so that `wait_all_completed`
gathers all it has to. It and `Stopped`, what is true once `run` is past a
certain point, are kept by every step.
-/
namespace TemporalSdk

open Worker (PyError)

/-! ### One activity, whatever is raised -/

namespace ActivityWorker.Activity

variable {T V P : Type}

/-- The task of an activity has raised. -/
def Raised (a : Activity T V P) : Prop := ∃ error, a.phase = .finished (some error)

/-- Where a stretch of `_run_activity` leads that has not called the bridge yet. -/
structure Goes (token : T) (a : Activity T V P) : Prop where
  token : a.taskToken = token
  outcome : a.Raised ∨ a.Fits ∧ a.phase.isFinished = false

theorem Opens.goes {token : T} {a : Activity T V P} {bound : Nat} (opens : Opens token a bound) :
    Goes token a :=
  ⟨opens.token, .inr ⟨opens.fits, opens.unfinished⟩⟩

theorem handleError_goes (a : Activity T V P) (none : a.completions = []) (error : PyError) :
    Goes a.taskToken (a.handleError error) := by
  unfold handleError
  split
  · exact (finalize_opens a none .willCompleteAsync).goes
  · split
    · exact ⟨rfl, .inr ⟨none, rfl⟩⟩
    · exact ⟨rfl, .inl ⟨_, rfl⟩⟩
  · exact ⟨rfl, .inr ⟨none, rfl⟩⟩
  · exact ⟨rfl, .inr ⟨none, rfl⟩⟩

section Body

variable (cfg : Config) (answers : Answers P)

theorem failureEncoded_goes (a : Activity T V P) (none : a.completions = []) (error : PyError)
    (handling : Handling) : Goes a.taskToken (a.failureEncoded answers error handling) := by
  unfold failureEncoded
  split
  · exact (finalize_opens a none _).goes
  · split
    · split
      · exact (finalize_opens a none _).goes
      · exact ⟨rfl, .inl ⟨_, rfl⟩⟩
    · exact ⟨rfl, .inl ⟨_, rfl⟩⟩

theorem execute_goes (a : Activity T V P) (none : a.completions = []) :
    Goes a.taskToken (a.execute answers) := by
  unfold execute
  split
  · exact ⟨rfl, .inr ⟨none, rfl⟩⟩
  · exact handleError_goes a none _

theorem decodeHeartbeatDetails_goes (a : Activity T V P) (none : a.completions = []) :
    Goes a.taskToken (a.decodeHeartbeatDetails answers) := by
  unfold decodeHeartbeatDetails
  split
  · exact ⟨rfl, .inr ⟨none, rfl⟩⟩
  · exact execute_goes answers a none

theorem begin_goes (a : Activity T V P) (none : a.completions = []) :
    Goes a.taskToken (a.begin cfg answers) := by
  unfold begin
  split
  · exact handleError_goes a none _
  · rename_i activityDef _
    split
    · exact handleError_goes { a with sync := !activityDef.isAsync } none _
    · dsimp only
      split
      · exact ⟨rfl, .inr ⟨none, rfl⟩⟩
      · exact decodeHeartbeatDetails_goes answers
          { a with sync := !activityDef.isAsync, cancelledEvent := some false } none

/-- Before the completion has been sent. -/
theorem resume_goes (a : Activity T V P) (fits : a.Fits) (unfinished : a.phase.isFinished = false)
    (unsent : a.phase ≠ .completing) : Goes a.taskToken (a.resume cfg answers) := by
  have none : a.completions = [] := by
    unfold Fits at fits
    split at fits
    · contradiction
    · rename_i phase
      rw [phase] at unfinished
      cases unfinished
    · exact fits
  let a₀ : Activity T V P := { a with cancelling := false }
  unfold resume
  cases phase : a.phase with
  | scheduled => exact begin_goes cfg answers a₀ none
  | decodingArguments =>
    cases answers.decode with
    | ok result => exact decodeHeartbeatDetails_goes answers a₀ none
    | error error => exact handleError_goes a₀ none _
  | decodingHeartbeatDetails =>
    cases answers.decode with
    | ok result => exact execute_goes answers a₀ none
    | error error => exact handleError_goes a₀ none _
  | executing =>
    cases answers.executeActivity with
    | ok result => exact ⟨rfl, .inr ⟨none, rfl⟩⟩
    | error error => exact handleError_goes a₀ none _
  | encodingResult =>
    cases answers.encodeResult with
    | ok payload => exact (finalize_opens a₀ none _).goes
    | error error => exact handleError_goes a₀ none _
  | encodingFailure error handling => exact failureEncoded_goes answers a₀ none error handling
  | awaitingHeartbeat result => exact (complete_opens a₀ none result).goes
  | completing => exact absurd phase unsent
  | finished error =>
    rw [phase] at unfinished
    cases unfinished

/-- The call of the bridge has returned or raised. -/
theorem resume_completing (a : Activity T V P) (fits : a.Fits) (sent : a.phase = .completing) :
    (a.resume cfg answers).taskToken = a.taskToken ∧ (a.resume cfg answers).Fits ∧
      ((a.resume cfg answers).phase = .finished none ∨ (a.resume cfg answers).Raised) := by
  have made : ∃ result, a.completions = [⟨a.taskToken, result⟩] := by
    unfold Fits at fits
    rw [sent] at fits
    exact fits
  unfold resume
  simp only [sent]
  split
  · exact ⟨rfl, made, .inl rfl⟩
  · rename_i error _
    refine ⟨rfl, made, ?_⟩
    cases isException : error.isException with
    | true => exact .inl (by simp)
    | false => exact .inr ⟨error, by simp⟩

end Body

end ActivityWorker.Activity

/-! ### The activities of a worker -/

namespace ActivityWorker

variable {T V P : Type} [DecidableEq T]

/-- Tokens are used once, and an activity whose task has not ended in order is
among the running ones. -/
structure Accounted (s : State T V P) : Prop where
  distinct : (s.activities.map Activity.taskToken).Nodup
  sent : ∀ (i : Nat) (a : Activity T V P), s.activities[i]? = some a → a.Raised ∨ a.Fits
  running : ∀ (i : Nat) (a : Activity T V P), s.activities[i]? = some a →
    a.phase ≠ .finished none → s.runningActivities.get? a.taskToken = some i

variable {cfg : Config} {s s' : State T V P}

theorem initial_accounted : Accounted (State.initial T V P) := by
  refine ⟨List.nodup_nil, ?_, ?_⟩
  · intro i a found
    cases found
  · intro i a found
    cases found

/-- A step that leaves alone how far the task of an activity has come. -/
theorem Accounted.frame (before : Accounted s) {i : Nat} {a a' : Activity T V P}
    (found : s.activities[i]? = some a) (frames : a.Frames a') :
    Accounted (s.setActivity i a') := by
  refine ⟨?_, ?_, ?_⟩
  · change ((s.activities.set i a').map Activity.taskToken).Nodup
    rw [map_token_set found frames.token]
    exact before.distinct
  · intro j b there
    rcases getElem?_set_cases there with ⟨rfl, rfl⟩ | ⟨-, old⟩
    · rcases before.sent j a found with ⟨error, raised⟩ | fits
      · exact .inl ⟨error, frames.phase.trans raised⟩
      · exact .inr (frames.fits fits)
    · exact before.sent j b old
  · intro j b there unfinished
    rcases getElem?_set_cases there with ⟨rfl, rfl⟩ | ⟨-, old⟩
    · rw [frames.phase] at unfinished
      rw [frames.token]
      exact before.running j a found unfinished
    · exact before.running j b old unfinished

/-- Two activities have the same token only if they are the same. -/
theorem Accounted.token_ne (before : Accounted s) {i j : Nat} {a b : Activity T V P}
    (differ : j ≠ i) (first : s.activities[i]? = some a) (second : s.activities[j]? = some b) :
    b.taskToken ≠ a.taskToken := by
  intro same
  apply differ
  obtain ⟨insideI, rfl⟩ := List.getElem?_eq_some_iff.mp first
  obtain ⟨insideJ, rfl⟩ := List.getElem?_eq_some_iff.mp second
  have lengths : (s.activities.map Activity.taskToken).length = s.activities.length :=
    List.length_map _
  have tokens : (s.activities.map Activity.taskToken)[j]? =
      (s.activities.map Activity.taskToken)[i]? := by
    rw [List.getElem?_map, List.getElem?_map, List.getElem?_eq_getElem insideJ,
      List.getElem?_eq_getElem insideI]
    exact congrArg some same
  exact (List.getElem?_inj (lengths ▸ insideJ) before.distinct).mp tokens

omit [DecidableEq T] in
variable (cfg) in
/-- Where the task of an activity leads, and when its token is removed. -/
theorem resume_cases (a : Activity T V P) (answers : Answers P) (sent : a.Raised ∨ a.Fits)
    (resumable : State.resumable a) :
    (a.resume cfg answers).taskToken = a.taskToken ∧
      ((a.resume cfg answers).Raised ∨ (a.resume cfg answers).Fits) ∧
      (State.removes a answers = true → (a.resume cfg answers).phase = .finished none) ∧
      a.phase ≠ .finished none := by
  have unfinished : a.phase.isFinished = false := by
    unfold State.resumable at resumable
    cases phase : a.phase <;> simp_all [Phase.isFinished]
  have fits : a.Fits := by
    rcases sent with ⟨error, raised⟩ | fits
    · rw [raised] at unfinished
      cases unfinished
    · exact fits
  have notEnded : a.phase ≠ .finished none := by
    intro ended
    rw [ended] at unfinished
    cases unfinished
  by_cases completing : a.phase = .completing
  · obtain ⟨token, fits', -⟩ := a.resume_completing cfg answers fits completing
    refine ⟨token, .inr fits', fun removed => ?_, notEnded⟩
    unfold State.removes at removed
    rw [completing] at removed
    unfold Activity.resume
    cases answered : answers.completeActivityTask with
    | ok result => simp only [completing]
    | error error =>
      rw [answered] at removed
      cases removed
  · have goes := a.resume_goes cfg answers fits unfinished completing
    refine ⟨goes.token, goes.outcome.imp_right And.left, fun removed => ?_, notEnded⟩
    unfold State.removes at removed
    split at removed
    · exact absurd ‹_› completing
    · cases removed

theorem Accounted.resume (before : Accounted s) {i : Nat} {a : Activity T V P}
    {answers : Answers P} (found : s.activities[i]? = some a) (resumable : State.resumable a) :
    Accounted (s.afterResume cfg i a answers) := by
  obtain ⟨token, sent, removed, notEnded⟩ :=
    resume_cases cfg a answers (before.sent i a found) resumable
  refine ⟨?_, ?_, ?_⟩
  · change ((s.activities.set i _).map Activity.taskToken).Nodup
    rw [map_token_set found token]
    exact before.distinct
  · intro j b there
    rcases getElem?_set_cases there with ⟨rfl, rfl⟩ | ⟨-, old⟩
    · exact sent
    · exact before.sent j b old
  · intro j b there unfinished
    simp only [State.afterResume]
    rcases getElem?_set_cases there with ⟨rfl, rfl⟩ | ⟨differ, old⟩
    · have kept : State.removes a answers ≠ true := fun gone => unfinished (removed gone)
      rw [if_neg kept, token]
      exact before.running j a found notEnded
    · have present := before.running j b old unfinished
      split
      · rw [Dict.get?_erase, if_neg (before.token_ne differ found old)]
        exact present
      · exact present

theorem step_accounted {action : Action T V P} (before : Accounted s)
    (stepped : s.step cfg action = some s') : Accounted s' := by
  cases action with
  | start token start =>
    simp only [State.step] at stepped
    split at stepped
    · rename_i fresh
      cases stepped
      -- the last activity is the new one, and its token is not among the others
      have cases_ : ∀ (i : Nat) (a : Activity T V P),
          (s.activities ++ [{ taskToken := token, start := start }])[i]? = some a →
          s.activities[i]? = some a ∨
            (i = s.activities.length ∧ a = { taskToken := token, start := start }) := by
        intro i a found
        rw [List.getElem?_append] at found
        split at found
        · exact .inl found
        · rename_i outside
          obtain ⟨at_zero, rfl⟩ : i - s.activities.length = 0 ∧ _ = a := by
            simpa [List.getElem?_singleton] using found
          exact .inr ⟨by omega, rfl⟩
      refine ⟨?_, ?_, ?_⟩
      · rw [List.map_append, List.map_singleton, List.nodup_append]
        refine ⟨before.distinct, List.nodup_singleton _, ?_⟩
        intro other old new fresh' same
        rw [List.mem_singleton.mp fresh'] at same
        obtain ⟨a, member, rfl⟩ := List.mem_map.mp old
        exact fresh.2 a member same
      · intro i a found
        rcases cases_ i a found with old | ⟨-, rfl⟩
        · exact before.sent i a old
        · exact .inr rfl
      · intro i a found unfinished
        simp only [Dict.get?_set]
        rcases cases_ i a found with old | ⟨rfl, rfl⟩
        · rw [if_neg (fresh.2 a (List.mem_of_getElem? old))]
          exact before.running i a old unfinished
        · rw [if_pos rfl]
    · cases stepped
  | cancel token =>
    simp only [State.step] at stepped
    split at stepped
    · split at stepped
      · rename_i i a found
        cases stepped
        exact before.frame (State.running?_spec found) (a.cancel_frames true none)
      · cases stepped
        exact before
    · cases stepped
  | resume i answers =>
    simp only [State.step] at stepped
    split at stepped
    · rename_i a found
      split at stepped
      · rename_i resumable
        cases stepped
        exact before.resume found resumable
      · cases stepped
    · cases stepped
  | heartbeat token details =>
    simp only [State.step] at stepped
    split at stepped
    · rename_i i a found
      cases stepped
      exact before.frame (State.running?_spec found) (a.heartbeat_frames details)
    · cases stepped
      exact before
  | resumeHeartbeat i k answers =>
    simp only [State.step] at stepped
    split at stepped
    · rename_i a found
      obtain ⟨a', ran, rfl⟩ := Option.map_eq_some_iff.mp stepped
      exact before.frame found (Activity.resumeHeartbeat_frames ran)
    · cases stepped

/-- The completions that have been sent for activities. -/
def State.sentCompletions (s : State T V P) : List (Completion T P) :=
  s.activities.flatMap Activity.completions

end ActivityWorker

/-! ### The parts of a worker -/

namespace Lifecycle

open ActivityWorker (Accounted Activity)

variable {T V P R W C : Type}

/-- A queue is drained in place of a poll loop that failed. -/
structure ActivityPart.InOrder [DecidableEq T] (part : ActivityPart T V P) : Prop where
  accounted : Accounted part.worker
  drained : ∀ drain, part.drain = some drain → ∃ error, part.poller = .ended (some error)

structure WorkflowPart.InOrder (part : WorkflowPart R W C) : Prop where
  collected : ∀ error, part.worker.poller = .ended error →
    ∀ t ∈ part.worker.tasks, t.phase.isFinished
  drained : ∀ drain, part.drain = some drain → ∃ error, part.worker.poller = .ended (some error)

/-- The tasks of all activities have ended in order. -/
def ActivityPart.Finished (part : ActivityPart T V P) : Prop :=
  ∀ (i : Nat) (a : Activity T V P), part.worker.activities[i]? = some a → a.phase = .finished none

/-- What has been gathered has all that has not ended in order. -/
def ActivityPart.Gathered (part : ActivityPart T V P) (tasks : List Nat) : Prop :=
  ∀ (i : Nat) (a : Activity T V P), part.worker.activities[i]? = some a →
    a.phase ≠ .finished none → i ∈ tasks

/-- The calls that complete a task of an activity. -/
def ActivityPart.completions (part : ActivityPart T V P) : Nat :=
  part.worker.sentCompletions.length + part.rejected.length

def WorkflowPart.completions (part : WorkflowPart R W C) : Nat :=
  part.worker.completeCalls.length + part.rejected.length

theorem Drain.step_ended {K : Type} {drain : Drain} {rejected : List K} {action : DrainAction K}
    (ended : drain.task.isDone = true) : drain.step rejected action = none := by
  cases drain with
  | ended error => cases action <;> rfl
  | _ => cases ended

/-! #### Replacing poll loops -/

section Replacing

variable {A : Type} {task : A → Task} {drained : A → A} {part part' : A}

/-- Only a poll loop that has been cancelled keeps the others from being replaced. -/
theorem replaceFailed_cases (task : A → Task) (drained : A → A) (part : A) :
    ((task part).isCancelled = true ∧ replaceFailed task drained part = .error cancelledError) ∨
      (task part).isCancelled = false ∧ ∃ part', replaceFailed task drained part = .ok part' := by
  unfold replaceFailed Task.exception
  cases (task part).isCancelled with
  | true => exact .inl ⟨rfl, rfl⟩
  | false =>
    right
    cases (task part).error with
    | none => exact ⟨rfl, part, rfl⟩
    | some error => exact ⟨rfl, drained part, rfl⟩

theorem replaceFailed_ok (replaced : replaceFailed task drained part = .ok part') :
    part' = part ∨ part' = drained part ∧ ∃ error, (task part).error = some error := by
  unfold replaceFailed Task.exception at replaced
  cases cancelled : (task part).isCancelled with
  | true =>
    rw [cancelled] at replaced
    cases replaced
  | false =>
    rw [cancelled] at replaced
    cases raised : (task part).error with
    | none =>
      rw [raised] at replaced
      cases replaced
      exact .inl rfl
    | some error =>
      rw [raised] at replaced
      cases replaced
      exact .inr ⟨rfl, error, rfl⟩

/-- What becomes of a part when its poll loop is replaced, if it is. -/
def Becomes (replace : A → Except PyError A) : Option A → Option A → Prop :=
  Option.Rel fun part part' => part' = part ∨ replace part = .ok part'

theorem Becomes.refl {replace : A → Except PyError A} (part : Option A) :
    Becomes replace part part := by
  cases part with
  | none => exact .none
  | some part => exact .some (.inl rfl)

theorem Becomes.of_some {replace : A → Except PyError A} {old : Option A}
    (becomes : Becomes replace old (some part')) :
    ∃ part, old = some part ∧ (part' = part ∨ replace part = .ok part') := by
  cases becomes with
  | some becomes => exact ⟨_, rfl, becomes⟩

theorem Becomes.of_old {replace : A → Except PyError A} {new : Option A}
    (becomes : Becomes replace (some part) new) :
    ∃ part', new = some part' ∧ (part' = part ∨ replace part = .ok part') := by
  cases becomes with
  | some becomes => exact ⟨_, rfl, becomes⟩

theorem replacePart_cases (replace : A → Except PyError A)
    (replaces : replace = replaceFailed task drained) (part : Option A) :
    ((part.map task).toList.any Task.isCancelled = true ∧
        State.replacePart replace part = .error cancelledError) ∨
      (part.map task).toList.any Task.isCancelled = false ∧
        ∃ part', State.replacePart replace part = .ok part' ∧ Becomes replace part part' := by
  subst replaces
  cases part with
  | none => exact .inr ⟨rfl, none, rfl, .none⟩
  | some part =>
    simp only [Option.map_some, Option.toList_some, List.any_cons, List.any_nil, Bool.or_false,
      State.replacePart]
    rcases replaceFailed_cases task drained part with
      ⟨cancelled, raises⟩ | ⟨notCancelled, part', replaced⟩
    · rw [raises]
      exact .inl ⟨cancelled, rfl⟩
    · rw [replaced]
      exact .inr ⟨notCancelled, some part', rfl, .some (.inr replaced)⟩

end Replacing

section ActivityPart

variable [DecidableEq T] {cfg : ActivityWorker.Config} {part part' : ActivityPart T V P}
  {action : ActivityAction T V P}

theorem ActivityPart.step_inOrder (before : part.InOrder) (stepped : part.step cfg action = some part') :
    part'.InOrder := by
  cases action with
  | work action =>
    simp only [ActivityPart.step] at stepped
    split at stepped
    · cases stepped
    · obtain ⟨worker, ran, rfl⟩ := Option.map_eq_some_iff.mp stepped
      exact ⟨ActivityWorker.step_accounted before.accounted ran, before.drained⟩
  | pollShutdown =>
    simp only [ActivityPart.step] at stepped
    split at stepped
    · rename_i polling
      cases stepped
      refine ⟨before.accounted, fun drain drains => ?_⟩
      obtain ⟨error, ended⟩ := before.drained drain drains
      rw [polling] at ended
      cases ended
    · cases stepped
  | pollRaised error =>
    simp only [ActivityPart.step] at stepped
    split at stepped
    · cases stepped
      exact ⟨before.accounted, fun _ _ => ⟨_, rfl⟩⟩
    · cases stepped
  | failed =>
    simp only [ActivityPart.step] at stepped
    split at stepped
    · cases stepped
      exact ⟨before.accounted, fun _ _ => ⟨_, rfl⟩⟩
    · cases stepped
  | drain action =>
    simp only [ActivityPart.step] at stepped
    split at stepped
    · rename_i drain drains
      obtain ⟨next, -, rfl⟩ := Option.map_eq_some_iff.mp stepped
      exact ⟨before.accounted, fun _ _ => before.drained drain drains⟩
    · cases stepped

/-- A poll loop that has stopped does not poll. -/
theorem ActivityPart.InOrder.not_polling (inOrder : part.InOrder)
    (stopped : part.task.isDone = true) : part.poller ≠ .polling := by
  intro polling
  unfold ActivityPart.task at stopped
  cases drains : part.drain with
  | some drain =>
    obtain ⟨error, ended⟩ := inOrder.drained drain drains
    rw [polling] at ended
    cases ended
  | none =>
    rw [drains, polling] at stopped
    cases stopped

/-- The task of an activity that has ended stays as it is. -/
theorem ActivityPart.step_ended (stepped : part.step cfg action = some part') {i : Nat}
    {a : Activity T V P} (there : part.worker.activities[i]? = some a) :
    ∃ a', part'.worker.activities[i]? = some a' ∧ (a.phase.isFinished = true → a'.phase = a.phase) := by
  cases action with
  | work action =>
    simp only [ActivityPart.step] at stepped
    split at stepped
    · cases stepped
    · obtain ⟨worker, ran, rfl⟩ := Option.map_eq_some_iff.mp stepped
      obtain ⟨a', there', does⟩ := ActivityWorker.State.step_activity ran there
      refine ⟨a', there', fun finished => ?_⟩
      cases does with
      | resume answers own resumable same =>
        unfold ActivityWorker.State.resumable at resumable
        cases phase : a.phase <;> simp_all [ActivityWorker.Phase.isFinished]
      | cancel reason cancels cancelled => exact cancelled.phase
      | other spared foreign stays => exact stays.phase
  | pollShutdown | pollRaised | failed =>
    simp only [ActivityPart.step] at stepped
    split at stepped
    · cases stepped
      exact ⟨a, there, fun _ => rfl⟩
    · cases stepped
  | drain action =>
    simp only [ActivityPart.step] at stepped
    split at stepped
    · obtain ⟨next, -, rfl⟩ := Option.map_eq_some_iff.mp stepped
      exact ⟨a, there, fun _ => rfl⟩
    · cases stepped

/-- When the poll loop has stopped, only the tasks of activities go on, and none
is started. -/
theorem ActivityPart.step_stopped (before : part.InOrder) (stopped : part.task.isDone = true)
    (stepped : part.step cfg action = some part') :
    part'.task = part.task ∧ part'.rejected = part.rejected ∧
      part'.worker.activities.length = part.worker.activities.length := by
  have notPolling := before.not_polling stopped
  cases action with
  | work action =>
    simp only [ActivityPart.step] at stepped
    split at stepped
    · cases stepped
    · rename_i notPoll
      obtain ⟨worker, ran, rfl⟩ := Option.map_eq_some_iff.mp stepped
      have later : ActivityPart.polls action = false := by
        cases polls : ActivityPart.polls action with
        | false => rfl
        | true => simp [polls, notPolling] at notPoll
      refine ⟨rfl, rfl, Nat.le_antisymm ?_ (ActivityWorker.State.step_length ran)⟩
      by_contra more
      have there := List.getElem?_eq_getElem (Nat.lt_of_not_le more)
      obtain ⟨token, start, rfl, -, -⟩ := ActivityWorker.State.step_new ran there (Nat.le_refl _)
      cases later
  | pollShutdown | pollRaised | failed =>
    simp only [ActivityPart.step] at stepped
    split at stepped
    · exact absurd ‹_› notPolling
    · cases stepped
  | drain action =>
    simp only [ActivityPart.step] at stepped
    split at stepped
    · rename_i drain drains
      have ended : drain.task.isDone = true := by
        unfold ActivityPart.task at stopped
        rwa [drains] at stopped
      rw [Drain.step_ended ended] at stepped
      cases stepped
    · cases stepped

/-- Where an activity comes from when none is started. -/
theorem ActivityPart.step_from (before : part.InOrder) (stopped : part.task.isDone = true)
    (stepped : part.step cfg action = some part') {i : Nat} {a' : Activity T V P}
    (there' : part'.worker.activities[i]? = some a') :
    ∃ a, part.worker.activities[i]? = some a ∧ (a.phase.isFinished = true → a'.phase = a.phase) := by
  have length := (ActivityPart.step_stopped before stopped stepped).2.2
  have inside : i < part.worker.activities.length := by
    rw [← length]
    exact (List.getElem?_eq_some_iff.mp there').1
  have there := List.getElem?_eq_getElem inside
  obtain ⟨a'', there'', same⟩ := ActivityPart.step_ended stepped there
  rw [there'] at there''
  cases there''
  exact ⟨_, there, same⟩

theorem ActivityPart.Finished.step (finished : part.Finished) (before : part.InOrder)
    (stopped : part.task.isDone = true) (stepped : part.step cfg action = some part') :
    part'.Finished := by
  intro i a' there'
  obtain ⟨a, there, same⟩ := ActivityPart.step_from before stopped stepped there'
  have phase := finished i a there
  rw [same (by rw [phase]; rfl), phase]

theorem ActivityPart.Gathered.step {tasks : List Nat} (gathered : part.Gathered tasks)
    (before : part.InOrder) (stopped : part.task.isDone = true)
    (stepped : part.step cfg action = some part') : part'.Gathered tasks := by
  intro i a' there' unfinished
  obtain ⟨a, there, same⟩ := ActivityPart.step_from before stopped stepped there'
  refine gathered i a there fun ended => unfinished ?_
  rw [same (by rw [ended]; rfl), ended]

/-- Each activity has sent one completion when all have ended in order. -/
theorem ActivityPart.Finished.sentCompletions (finished : part.Finished) (inOrder : part.InOrder) :
    part.worker.sentCompletions.length = part.worker.activities.length := by
  have one : ∀ a ∈ part.worker.activities, a.completions.length = 1 := by
    intro a member
    obtain ⟨i, there⟩ := List.mem_iff_getElem?.mp member
    have phase := finished i a there
    rcases inOrder.accounted.sent i a there with ⟨error, raised⟩ | fits
    · rw [phase] at raised
      cases raised
    · unfold ActivityWorker.Activity.Fits at fits
      rw [phase] at fits
      obtain ⟨result, made⟩ := fits
      rw [made]
      rfl
  rw [ActivityWorker.State.sentCompletions, List.length_flatMap,
    List.map_congr_left one]
  simp

theorem ActivityPart.replace_inOrder (before : part.InOrder) (replaced : part.replace = .ok part') :
    part'.InOrder := by
  rcases replaceFailed_ok replaced with rfl | ⟨rfl, error, failed⟩
  · exact before
  · refine ⟨before.accounted, fun _ _ => ?_⟩
    unfold ActivityPart.task at failed
    cases drains : part.drain with
    | some drain => exact before.drained drain drains
    | none =>
      rw [drains] at failed
      cases poller : part.poller with
      | polling =>
        rw [poller] at failed
        cases failed
      | ended result =>
        rw [poller] at failed
        exact ⟨error, congrArg Poller.ended failed⟩

end ActivityPart

section WorkflowPart

variable [DecidableEq R] {cfg : Worker.Config} {part part' : WorkflowPart R W C}
  {action : WorkflowAction R W C}

/-- The tasks of activations do not touch the poll loop. -/
theorem conclude_poller (cfg : Worker.Config) (s : Worker.State R W C) (i : Nat)
    (t : Worker.HandleTask R C) (completion : Worker.Completion R C) :
    (s.conclude cfg i t completion).poller = s.poller := by
  unfold Worker.State.conclude
  split
  · rfl
  · split <;> rfl

theorem handleError_poller (cfg : Worker.Config) (answers : Worker.Answers R W C)
    (s : Worker.State R W C) (i : Nat) (t : Worker.HandleTask R C) (error : PyError) :
    (s.handleError cfg answers i t error).poller = s.poller := by
  unfold Worker.State.handleError
  dsimp only
  split
  · split
    · rfl
    · split
      · exact conclude_poller cfg s i _ _
      · split
        · split
          · exact conclude_poller cfg s i _ _
          · rfl
        · rfl
  · rfl

theorem findWorkflow_poller (cfg : Worker.Config) (answers : Worker.Answers R W C)
    (s : Worker.State R W C) (i : Nat) (t : Worker.HandleTask R C) :
    (s.findWorkflow cfg answers i t).poller = s.poller := by
  unfold Worker.State.findWorkflow
  dsimp only
  split
  · exact handleError_poller cfg answers s i t _
  · split
    · rfl
    · exact handleError_poller cfg answers s i t _
  · rfl
  · exact conclude_poller cfg s i t _

omit [DecidableEq R] in
theorem runHook_poller (cfg : Worker.Config) (answers : Worker.Answers R W C)
    (s : Worker.State R W C) (i : Nat) (t : Worker.HandleTask R C) :
    (s.runHook cfg answers i t).poller = s.poller := by
  unfold Worker.State.runHook
  split
  · split <;> rfl
  · rfl

theorem resume_poller (cfg : Worker.Config) (answers : Worker.Answers R W C)
    (s : Worker.State R W C) (i : Nat) (t : Worker.HandleTask R C) :
    (s.resume cfg answers i t).poller = s.poller := by
  unfold Worker.State.resume
  split
  · split
    · rfl
    · exact findWorkflow_poller cfg answers s i t
  · split
    · exact findWorkflow_poller cfg answers s i t
    · exact handleError_poller cfg answers s i t _
  · split
    · exact conclude_poller cfg s i t _
    · exact handleError_poller cfg answers s i t _
    · exact handleError_poller cfg answers s i t _
  · split
    · rfl
    · split
      · split <;> rfl
      · rfl
  · split
    · exact runHook_poller cfg answers s i t
    · split
      · exact runHook_poller cfg answers s i t
      · rfl
  · rfl

theorem WorkflowPart.step_inOrder (before : part.InOrder)
    (stepped : part.step cfg action = some part') : part'.InOrder := by
  cases action with
  | work action =>
    obtain ⟨worker, ran, rfl⟩ := Option.map_eq_some_iff.mp stepped
    cases action with
    | polled act =>
      simp only [Worker.State.step] at ran
      split at ran
      · rename_i polling
        cases ran
        refine ⟨fun error ended => ?_, before.drained⟩
        rw [show part.worker.poller = _ from polling] at ended
        cases ended
      · cases ran
    | pollShutdown | pollRaised =>
      simp only [Worker.State.step] at ran
      split at ran
      · rename_i polling
        cases ran
        refine ⟨fun error ended => (by cases ended), fun drain drains => ?_⟩
        obtain ⟨error, ended⟩ := before.drained drain drains
        rw [polling] at ended
        cases ended
      · cases ran
    | resume i answers =>
      simp only [Worker.State.step] at ran
      split at ran
      · rename_i t found
        split at ran
        · cases ran
        · rename_i unfinished
          cases ran
          refine ⟨fun error ended => ?_, fun drain drains => ?_⟩
          -- the tasks were finished before `run` ended, and this one is not
          · rw [resume_poller] at ended
            exact absurd (before.collected error ended t (List.mem_of_getElem? found)) unfinished
          · rw [resume_poller]
            exact before.drained drain drains
      · cases ran
    | collected =>
      simp only [Worker.State.step] at ran
      split at ran
      · rename_i collecting
        split at ran
        · rename_i all
          cases ran
          refine ⟨fun _ _ => by simpa using all, fun drain drains => ?_⟩
          obtain ⟨error, ended⟩ := before.drained drain drains
          rw [collecting] at ended
          cases ended
        · cases ran
      · cases ran
  | drain action =>
    simp only [WorkflowPart.step] at stepped
    split at stepped
    · rename_i drain drains
      obtain ⟨next, -, rfl⟩ := Option.map_eq_some_iff.mp stepped
      exact ⟨before.collected, fun _ _ => before.drained drain drains⟩
    · cases stepped

/-- A workflow worker whose poll loop has stopped takes no further step. -/
theorem WorkflowPart.step_stopped (before : part.InOrder) (stopped : part.task.isDone = true) :
    part.step cfg action = none := by
  have ended : ∃ error, part.worker.poller = .ended error := by
    unfold WorkflowPart.task at stopped
    cases drains : part.drain with
    | some drain =>
      obtain ⟨error, ended⟩ := before.drained drain drains
      exact ⟨some error, ended⟩
    | none =>
      rw [drains] at stopped
      cases poller : part.worker.poller with
      | ended error => exact ⟨error, rfl⟩
      | _ =>
        rw [poller] at stopped
        cases stopped
  obtain ⟨error, ended⟩ := ended
  cases action with
  | work action =>
    refine Option.map_eq_none_iff.mpr ?_
    cases action with
    | resume i answers =>
      simp only [Worker.State.step]
      split
      · rename_i t found
        rw [if_pos (before.collected error ended t (List.mem_of_getElem? found))]
      · rfl
    | _ => simp [Worker.State.step, ended]
  | drain action =>
    simp only [WorkflowPart.step]
    split
    · rename_i drain drains
      have halted : drain.task.isDone = true := by
        unfold WorkflowPart.task at stopped
        rwa [drains] at stopped
      rw [Drain.step_ended halted]
      rfl
    · rfl

omit [DecidableEq R] in
theorem WorkflowPart.replace_inOrder (before : part.InOrder) (replaced : part.replace = .ok part') :
    part'.InOrder := by
  rcases replaceFailed_ok replaced with rfl | ⟨rfl, error, failed⟩
  · exact before
  · refine ⟨before.collected, fun _ _ => ?_⟩
    unfold WorkflowPart.task at failed
    cases drains : part.drain with
    | some drain => exact before.drained drain drains
    | none =>
      rw [drains] at failed
      cases poller : part.worker.poller with
      | ended result =>
        rw [poller] at failed
        exact ⟨error, congrArg Worker.Poller.ended failed⟩
      | _ =>
        rw [poller] at failed
        cases failed

end WorkflowPart

/-! ### The worker -/

section Worker

variable [DecidableEq T]

/-- The poll loops and queue drains have ended. -/
def State.Quiet (s : State T V P R W C) : Prop :=
  (∀ part, s.activity = some part → part.task.isDone = true) ∧
    ∀ part, s.workflow = some part → part.task.isDone = true

def State.AllFinished (s : State T V P R W C) : Prop :=
  ∀ part, s.activity = some part → part.Finished

/-- What is true once `run` has come to its phase. -/
def State.Reached (s : State T V P R W C) : Prop :=
  match s.phase with
  | .idle => s.started = false ∧ s.finalized = false ∧ s.shutdownComplete = false
  | .waiting | .handlingFatal _ =>
    s.started = true ∧ s.finalized = false ∧ s.shutdownComplete = false
  | .stopping _ =>
    s.started = true ∧ s.initiated = true ∧ s.finalized = false ∧ s.shutdownComplete = false
  | .completing _ tasks _ =>
    s.started = true ∧ s.initiated = true ∧ s.Quiet ∧
      (∀ part, s.activity = some part → part.Gathered tasks) ∧
      s.finalized = false ∧ s.shutdownComplete = false
  | .finalizing _ =>
    s.started = true ∧ s.initiated = true ∧ s.Quiet ∧ s.AllFinished ∧ s.finalized = true ∧
      s.shutdownComplete = false
  | .ended _ =>
    s.started = true ∧ s.shutdownComplete = s.finalized ∧
      (s.finalized = true → s.initiated = true ∧ s.Quiet ∧ s.AllFinished)

structure State.InOrder (s : State T V P R W C) : Prop where
  activity : ∀ part, s.activity = some part → part.InOrder
  workflow : ∀ part, s.workflow = some part → part.InOrder
  reached : s.Reached

variable {cfg : Config} {s s' : State T V P R W C}

/-- The part of the activities has gone on. -/
theorem State.InOrder.activityStep (before : s.InOrder) {part part' : ActivityPart T V P}
    {action : ActivityAction T V P} (there : s.activity = some part)
    (stepped : part.step cfg.activities action = some part') :
    { s with activity := some part' }.InOrder := by
  have inOrder := before.activity part there
  have quiet : s.Quiet → part'.task.isDone = true ∧
      { s with activity := some part' }.Quiet := by
    intro quiet
    have same := (ActivityPart.step_stopped inOrder (quiet.1 part there) stepped).1
    have done : part'.task.isDone = true := by
      rw [same]
      exact quiet.1 part there
    exact ⟨done, fun _ at' => by cases at'; exact done, quiet.2⟩
  refine ⟨fun _ at' => ?_, before.workflow, ?_⟩
  · cases at'
    exact ActivityPart.step_inOrder inOrder stepped
  · have reached := before.reached
    have finished : s.Quiet → s.AllFinished → part'.Finished := fun stopped all =>
      (all part there).step inOrder (stopped.1 part there) stepped
    unfold State.Reached at reached ⊢
    cases phase : s.phase with
    | completing exception tasks cancelled =>
      simp only [phase] at reached ⊢
      obtain ⟨started, initiated, stopped, gathered, rest⟩ := reached
      refine ⟨started, initiated, (quiet stopped).2, fun _ at' => ?_, rest⟩
      cases at'
      exact (gathered part there).step inOrder (stopped.1 part there) stepped
    | finalizing exception =>
      simp only [phase] at reached ⊢
      obtain ⟨started, initiated, stopped, all, rest⟩ := reached
      refine ⟨started, initiated, (quiet stopped).2, fun _ at' => ?_, rest⟩
      cases at'
      exact finished stopped all
    | ended exception =>
      simp only [phase] at reached ⊢
      obtain ⟨started, same, finalized⟩ := reached
      refine ⟨started, same, fun called => ?_⟩
      obtain ⟨initiated, stopped, all⟩ := finalized called
      refine ⟨initiated, (quiet stopped).2, fun _ at' => ?_⟩
      cases at'
      exact finished stopped all
    | _ =>
      simp only [phase] at reached ⊢
      exact reached

/-- The part of the workflows has gone on. -/
theorem State.InOrder.workflowStep [DecidableEq R] (before : s.InOrder) {part part' : WorkflowPart R W C}
    {action : WorkflowAction R W C} (there : s.workflow = some part)
    (stepped : part.step cfg.workflows action = some part') :
    { s with workflow := some part' }.InOrder := by
  have inOrder := before.workflow part there
  -- a workflow worker that has stopped takes no step
  have running : ¬ s.Quiet := by
    intro quiet
    rw [WorkflowPart.step_stopped inOrder (quiet.2 part there)] at stepped
    cases stepped
  refine ⟨before.activity, fun _ at' => ?_, ?_⟩
  · cases at'
    exact WorkflowPart.step_inOrder inOrder stepped
  · have reached := before.reached
    unfold State.Reached at reached ⊢
    cases phase : s.phase with
    | completing exception tasks cancelled =>
      simp only [phase] at reached
      exact absurd reached.2.2.1 running
    | finalizing exception =>
      simp only [phase] at reached
      exact absurd reached.2.2.1 running
    | ended exception =>
      simp only [phase] at reached ⊢
      exact ⟨reached.1, reached.2.1, fun called => absurd (reached.2.2 called).2.1 running⟩
    | _ =>
      simp only [phase] at reached ⊢
      exact reached

omit [DecidableEq T] in
/-- All that the beginning of the shutdown does: poll loops are replaced, and `run` goes on to
    stop them unless one of them has been cancelled. -/
theorem beginShutdown_eq (s : State T V P R W C) (exception : Option PyError) :
    ∃ activity workflow phase,
      s.beginShutdown exception =
        { s with initiated := true, activity := activity, workflow := workflow, phase := phase } ∧
      Becomes ActivityPart.replace s.activity activity ∧
      Becomes WorkflowPart.replace s.workflow workflow ∧
      ((phase = .stopping exception ∧ s.workerTasks.any Task.isCancelled = false) ∨
        phase = .ended (some cancelledError) ∧ s.workerTasks.any Task.isCancelled = true) := by
  unfold State.beginShutdown State.workerTasks
  dsimp only
  rw [List.any_append]
  rcases replacePart_cases ActivityPart.replace rfl s.activity with
    ⟨cancelled, raises⟩ | ⟨first, activity, ran, becomes⟩
  · -- the activity worker comes first
    rw [raises, cancelled]
    exact ⟨_, _, _, rfl, .refl _, .refl _, .inr ⟨rfl, rfl⟩⟩
  · rw [ran, first]
    rcases replacePart_cases WorkflowPart.replace rfl s.workflow with
      ⟨cancelled, raises⟩ | ⟨second, workflow, ran, becomes'⟩
    · rw [raises, cancelled]
      exact ⟨_, _, _, rfl, becomes, .refl _, .inr ⟨rfl, rfl⟩⟩
    · rw [ran, second]
      exact ⟨_, _, _, rfl, becomes, becomes', .inl ⟨rfl, rfl⟩⟩

omit [DecidableEq T] in
theorem beginShutdown_phase (s : State T V P R W C) (exception : Option PyError) :
    ((s.beginShutdown exception).phase = .stopping exception ∧
        s.workerTasks.any Task.isCancelled = false) ∨
      (s.beginShutdown exception).phase = .ended (some cancelledError) ∧
        s.workerTasks.any Task.isCancelled = true := by
  obtain ⟨activity, workflow, phase, begun, -, -, next⟩ := beginShutdown_eq s exception
  rw [begun]
  exact next

theorem State.InOrder.beginShutdown (before : s.InOrder) (started : s.started = true)
    (notFinalized : s.finalized = false) (notComplete : s.shutdownComplete = false)
    (exception : Option PyError) : (s.beginShutdown exception).InOrder := by
  obtain ⟨activity, workflow, phase, begun, activities, workflows, next⟩ :=
    beginShutdown_eq s exception
  rw [begun]
  refine ⟨fun part at' => ?_, fun part at' => ?_, ?_⟩
  · obtain rfl : activity = some part := at'
    obtain ⟨old, there, becomes⟩ := activities.of_some
    rcases becomes with rfl | replaced
    · exact before.activity _ there
    · exact ActivityPart.replace_inOrder (before.activity old there) replaced
  · obtain rfl : workflow = some part := at'
    obtain ⟨old, there, becomes⟩ := workflows.of_some
    rcases becomes with rfl | replaced
    · exact before.workflow _ there
    · exact WorkflowPart.replace_inOrder (before.workflow old there) replaced
  · rcases next with ⟨rfl, -⟩ | ⟨rfl, -⟩
    · exact ⟨started, rfl, notFinalized, notComplete⟩
    · refine ⟨started, notComplete.trans notFinalized.symm, fun called => ?_⟩
      rw [show s.finalized = true from called] at notFinalized
      cases notFinalized

omit [DecidableEq T] in
theorem workerTasks_quiet (all : s.workerTasks.all Task.isDone = true) : s.Quiet := by
  rw [List.all_eq_true] at all
  refine ⟨fun part there => all _ ?_, fun part there => all _ ?_⟩
  · simp [State.workerTasks, there]
  · simp [State.workerTasks, there]

/-- `wait_all_completed` begins, or there is nothing to wait for. -/
theorem State.InOrder.stopped (before : s.InOrder) (started : s.started = true)
    (initiated : s.initiated = true) (notFinalized : s.finalized = false)
    (notComplete : s.shutdownComplete = false) (quiet : s.Quiet) (exception : Option PyError) :
    (s.stopped exception).InOrder := by
  have gathered : ∀ part, s.activity = some part → part.Gathered part.runningTasks := by
    intro part there i a found unfinished
    have present := (before.activity part there).accounted.running i a found unfinished
    exact List.mem_map.mpr ⟨_, Dict.mem_of_lookup present, rfl⟩
  unfold State.stopped
  split
  · rename_i nothing
    refine ⟨before.activity, before.workflow, started, initiated, quiet, ?_, rfl, notComplete⟩
    intro part there i a found
    by_contra unfinished
    have member := gathered part there i a found unfinished
    have empty : part.runningTasks = [] := by
      rw [show s.activity = some part from there] at nothing
      exact nothing
    rw [empty] at member
    cases member
  · refine ⟨before.activity, before.workflow, started, initiated, quiet, ?_, notFinalized,
      notComplete⟩
    intro part there
    have same : (s.activity.map ActivityPart.runningTasks).getD [] = part.runningTasks := by
      rw [there]
      rfl
    rw [same]
    exact gathered part there

omit [DecidableEq T] in
theorem activityTask_done {part : ActivityPart T V P} (there : s.activity = some part) {i : Nat}
    {a : Activity T V P} (found : part.worker.activities[i]? = some a) {error : Option PyError}
    (done : s.activityTask i = .done error) : a.phase = .finished error := by
  unfold State.activityTask at done
  simp only [there, Option.bind_some, found] at done
  split at done
  · cases done
    assumption
  · cases done

theorem cancelActivity_step (i : Nat) (part : ActivityPart T V P) :
    (State.cancelActivity i part).task = part.task ∧
      (part.InOrder → (State.cancelActivity i part).InOrder) ∧
      ∀ tasks, part.Gathered tasks → (State.cancelActivity i part).Gathered tasks := by
  have found {j : Nat} {a : Activity T V P}
      (at' : (State.cancelActivity i part).worker.activities[j]? = some a) :
      ∃ old, part.worker.activities[j]? = some old ∧ old.phase = a.phase ∧
        old.taskToken = a.taskToken ∧ old.Frames a := by
    simp only [State.cancelActivity, List.getElem?_modify] at at'
    split at at'
    · obtain ⟨old, there, rfl⟩ := Option.map_eq_some_iff.mp at'
      exact ⟨old, there, rfl, rfl, rfl, rfl, rfl⟩
    · obtain ⟨old, there, rfl⟩ := Option.map_eq_some_iff.mp at'
      exact ⟨old, there, rfl, rfl, rfl, rfl, rfl⟩
  refine ⟨rfl, fun inOrder => ⟨⟨?_, fun j a at' => ?_, fun j a at' unfinished => ?_⟩,
    inOrder.drained⟩, fun tasks gathered j a at' unfinished => ?_⟩
  · have tokens : (State.cancelActivity i part).worker.activities.map Activity.taskToken =
        part.worker.activities.map Activity.taskToken := by
      refine List.ext_getElem? fun j => ?_
      simp only [State.cancelActivity, List.getElem?_map, List.getElem?_modify]
      cases part.worker.activities[j]? with
      | none => rfl
      | some a =>
        simp only [Option.map_eq_map, Option.map_some]
        split <;> rfl
    rw [tokens]
    exact inOrder.accounted.distinct
  · obtain ⟨old, there, phase, -, frames⟩ := found at'
    rcases inOrder.accounted.sent j old there with ⟨error, raised⟩ | fits
    · exact .inl ⟨error, phase.symm.trans raised⟩
    · exact .inr (frames.fits fits)
  · obtain ⟨old, there, phase, token, -⟩ := found at'
    rw [← phase] at unfinished
    rw [← token]
    exact inOrder.accounted.running j old there unfinished
  · obtain ⟨old, there, phase, -, -⟩ := found at'
    rw [← phase] at unfinished
    exact gathered j old there unfinished

/-- The gathering is cancelled, and with it what it has gathered. -/
theorem cancelActivities (tasks : List Nat) (part : ActivityPart T V P) :
    (tasks.foldl (fun part i => State.cancelActivity i part) part).task = part.task ∧
      (part.InOrder → (tasks.foldl (fun part i => State.cancelActivity i part) part).InOrder) ∧
      ∀ gathered, part.Gathered gathered →
        (tasks.foldl (fun part i => State.cancelActivity i part) part).Gathered gathered := by
  induction tasks generalizing part with
  | nil => exact ⟨rfl, id, fun _ => id⟩
  | cons i rest ih =>
    obtain ⟨task, inOrder, gathers⟩ := cancelActivity_step i part
    obtain ⟨task', inOrder', gathers'⟩ := ih (State.cancelActivity i part)
    exact ⟨task'.trans task, fun h => inOrder' (inOrder h), fun g h => gathers' g (gathers g h)⟩

theorem resumeRun_inOrder (before : s.InOrder) (stepped : s.resumeRun cfg = some s') :
    s'.InOrder := by
  have reached := before.reached
  unfold State.Reached at reached
  unfold State.resumeRun at stepped
  cases phase : s.phase with
  | idle =>
    simp only [phase] at stepped
    cases stepped
  | waiting =>
    simp only [phase] at stepped reached
    obtain ⟨started, notFinalized, notComplete⟩ := reached
    split at stepped
    · split at stepped
      · split at stepped
        · cases stepped
          exact ⟨before.activity, before.workflow, started, notFinalized, notComplete⟩
        · cases stepped
          exact before.beginShutdown started notFinalized notComplete _
      · cases stepped
        exact before.beginShutdown started notFinalized notComplete _
      · cases stepped
        exact before.beginShutdown started notFinalized notComplete _
    · cases stepped
  | handlingFatal exception =>
    simp only [phase] at stepped reached
    obtain ⟨started, notFinalized, notComplete⟩ := reached
    cases stepped
    exact before.beginShutdown started notFinalized notComplete _
  | stopping exception =>
    simp only [phase] at stepped reached
    obtain ⟨started, initiated, notFinalized, notComplete⟩ := reached
    split at stepped
    · rename_i all
      cases stepped
      exact before.stopped started initiated notFinalized notComplete (workerTasks_quiet all) _
    · cases stepped
  | completing exception tasks cancelled =>
    simp only [phase] at stepped reached
    obtain ⟨started, initiated, quiet, gathered, notFinalized, notComplete⟩ := reached
    split at stepped
    · rename_i all
      split at stepped
      · cases stepped
        refine ⟨before.activity, before.workflow, started, ?_, fun called => ?_⟩
        · rw [notFinalized, notComplete]
        · rw [show s.finalized = true from called] at notFinalized
          cases notFinalized
      · cases stepped
        refine ⟨before.activity, before.workflow, started, initiated, quiet, ?_, rfl, notComplete⟩
        intro part there i a found
        by_contra unfinished
        have member := gathered part there i a found unfinished
        have done := List.all_eq_true.mp all i member
        exact unfinished (activityTask_done there found (beq_iff_eq.mp done))
    · cases stepped
  | finalizing exception =>
    simp only [phase] at stepped reached
    obtain ⟨started, initiated, quiet, all, finalized, notComplete⟩ := reached
    cases stepped
    exact ⟨before.activity, before.workflow, started, finalized.symm, fun _ =>
      ⟨initiated, quiet, all⟩⟩
  | ended exception =>
    simp only [phase] at stepped
    cases stepped

theorem cancelRun_inOrder (before : s.InOrder) (stepped : s.cancelRun = some s') : s'.InOrder := by
  have reached := before.reached
  unfold State.Reached at reached
  unfold State.cancelRun at stepped
  cases phase : s.phase with
  | idle =>
    simp only [phase] at stepped
    cases stepped
  | waiting =>
    simp only [phase] at stepped reached
    cases stepped
    exact before.beginShutdown reached.1 reached.2.1 reached.2.2 _
  | handlingFatal exception =>
    simp only [phase] at stepped reached
    cases stepped
    exact before.beginShutdown reached.1 reached.2.1 reached.2.2 _
  | stopping exception =>
    simp only [phase] at stepped reached
    obtain ⟨started, initiated, notFinalized, notComplete⟩ := reached
    cases stepped
    refine ⟨before.activity, before.workflow, started, ?_, fun called => ?_⟩
    · rw [notFinalized, notComplete]
    · rw [show s.finalized = true from called] at notFinalized
      cases notFinalized
  | completing exception tasks cancelled =>
    simp only [phase] at stepped reached
    obtain ⟨started, initiated, quiet, gathered, notFinalized, notComplete⟩ := reached
    cases stepped
    refine ⟨fun part at' => ?_, before.workflow, started, initiated, ⟨fun part at' => ?_, quiet.2⟩,
      fun part at' => ?_, notFinalized, notComplete⟩
    · obtain ⟨old, there, rfl⟩ := Option.map_eq_some_iff.mp at'
      exact (cancelActivities tasks old).2.1 (before.activity old there)
    · obtain ⟨old, there, rfl⟩ := Option.map_eq_some_iff.mp at'
      rw [(cancelActivities tasks old).1]
      exact quiet.1 old there
    · obtain ⟨old, there, rfl⟩ := Option.map_eq_some_iff.mp at'
      exact (cancelActivities tasks old).2.2 _ (gathered old there)
  | finalizing exception =>
    simp only [phase] at stepped reached
    obtain ⟨started, initiated, quiet, all, finalized, notComplete⟩ := reached
    cases stepped
    exact ⟨before.activity, before.workflow, started, finalized.symm, fun _ =>
      ⟨initiated, quiet, all⟩⟩
  | ended exception =>
    simp only [phase] at stepped
    cases stepped

theorem step_inOrder [DecidableEq R] {action : Action T V P R W C} (before : s.InOrder)
    (stepped : s.step cfg action = some s') : s'.InOrder := by
  cases action with
  | run validated =>
    cases validated with
    | error error =>
      cases stepped
      exact before
    | ok result =>
      simp only [State.step] at stepped
      split at stepped
      · cases stepped
        exact before
      · rename_i notStarted
        cases stepped
        -- before the start the phase is `idle`
        have reached := before.reached
        unfold State.Reached at reached
        refine ⟨before.activity, before.workflow, rfl, ?_⟩
        cases phase : s.phase <;> simp only [phase] at reached <;>
          first | exact ⟨reached.2.1, reached.2.2⟩ | exact absurd reached.1 notStarted
  | resume => exact resumeRun_inOrder before stepped
  | gatherRaised i =>
    simp only [State.step, State.gatherRaised] at stepped
    split at stepped
    · rename_i phase
      split at stepped
      · cases stepped
        have reached := before.reached
        unfold State.Reached at reached
        simp only [phase] at reached
        obtain ⟨started, -, -, -, notFinalized, notComplete⟩ := reached
        refine ⟨before.activity, before.workflow, started, ?_, fun called => ?_⟩
        · rw [notFinalized, notComplete]
        · rw [show s.finalized = true from called] at notFinalized
          cases notFinalized
      · cases stepped
    · cases stepped
  | cancel => exact cancelRun_inOrder before stepped
  | shutdown =>
    cases stepped
    exact ⟨before.activity, before.workflow, before.reached⟩
  | raiseOnShutdown =>
    simp only [State.step] at stepped
    split at stepped
    · split at stepped
      · cases stepped
        exact ⟨before.activity, before.workflow, before.reached⟩
      · cases stepped
    · split at stepped
      · cases stepped
        exact ⟨before.activity, before.workflow, before.reached⟩
      · cases stepped
    · cases stepped
  | activity action =>
    simp only [State.step] at stepped
    split at stepped
    · split at stepped
      · rename_i part there
        obtain ⟨part', ran, rfl⟩ := Option.map_eq_some_iff.mp stepped
        exact before.activityStep there ran
      · cases stepped
    · cases stepped
  | workflow action =>
    simp only [State.step] at stepped
    split at stepped
    · split at stepped
      · rename_i part there
        obtain ⟨part', ran, rfl⟩ := Option.map_eq_some_iff.mp stepped
        exact before.workflowStep there ran
      · cases stepped
    · cases stepped

theorem initial_inOrder (activity workflow : Bool) :
    (State.initial T V P R W C activity workflow).InOrder := by
  refine ⟨fun part at' => ?_, fun part at' => ?_, rfl, rfl, rfl⟩
  · cases activity with
    | false => cases at'
    | true =>
      cases at'
      exact ⟨ActivityWorker.initial_accounted, fun _ drains => by cases drains⟩
  · cases workflow with
    | false => cases at'
    | true =>
      cases at'
      exact ⟨fun _ ended => (by cases ended), fun _ drains => (by cases drains)⟩

/-- The calls that have completed a task of core as done or as failed. -/
def State.completions (s : State T V P R W C) : Nat :=
  (s.activity.map ActivityPart.completions).getD 0 +
    (s.workflow.map WorkflowPart.completions).getD 0

/-- When `finalize_shutdown` has been called, `run` has nothing more to do with its parts. -/
theorem State.InOrder.finalized (inOrder : s.InOrder) (finalized : s.finalized = true) :
    s.initiated = true ∧ s.Quiet ∧ s.AllFinished ∧
      ∃ exception, s.phase = .finalizing exception ∨ s.phase = .ended exception := by
  have reached := inOrder.reached
  unfold State.Reached at reached
  cases phase : s.phase with
  | finalizing exception =>
    simp only [phase] at reached
    exact ⟨reached.2.1, reached.2.2.1, reached.2.2.2.1, exception, .inl rfl⟩
  | ended exception =>
    simp only [phase] at reached
    obtain ⟨initiated, quiet, all⟩ := reached.2.2 finalized
    exact ⟨initiated, quiet, all, exception, .inr rfl⟩
  | _ =>
    simp only [phase] at reached
    simp_all

theorem step_completions [DecidableEq R] {action : Action T V P R W C} (inOrder : s.InOrder)
    (finalized : s.finalized = true) (stepped : s.step cfg action = some s') :
    s'.completions = s.completions := by
  obtain ⟨-, quiet, all, exception, phase⟩ := inOrder.finalized finalized
  have same (activity : s'.activity = s.activity) (workflow : s'.workflow = s.workflow) :
      s'.completions = s.completions := by
    rw [State.completions, State.completions, activity, workflow]
  cases action with
  | run validated =>
    cases validated with
    | error error =>
      cases stepped
      rfl
    | ok result =>
      simp only [State.step] at stepped
      split at stepped <;> cases stepped <;> exact same rfl rfl
  | resume =>
    rcases phase with phase | phase <;> simp only [State.step, State.resumeRun, phase] at stepped <;>
      cases stepped
    exact same rfl rfl
  | gatherRaised i =>
    rcases phase with phase | phase <;>
      simp only [State.step, State.gatherRaised, phase] at stepped <;> cases stepped
  | cancel =>
    rcases phase with phase | phase <;> simp only [State.step, State.cancelRun, phase] at stepped <;>
      cases stepped
    exact same rfl rfl
  | shutdown =>
    cases stepped
    exact same rfl rfl
  | raiseOnShutdown =>
    rcases phase with phase | phase <;> simp only [State.step, phase] at stepped <;> cases stepped
  | activity action =>
    simp only [State.step] at stepped
    split at stepped
    · split at stepped
      · rename_i part there
        obtain ⟨part', ran, rfl⟩ := Option.map_eq_some_iff.mp stepped
        have before := inOrder.activity part there
        have stopped := quiet.1 part there
        obtain ⟨-, rejected, length⟩ := ActivityPart.step_stopped before stopped ran
        have finished' := (all part there).step before stopped ran
        have sent := (all part there).sentCompletions before
        have sent' := finished'.sentCompletions (ActivityPart.step_inOrder before ran)
        simp only [State.completions, there, Option.map_some, Option.getD_some,
          ActivityPart.completions, sent, sent', length, rejected]
      · cases stepped
    · cases stepped
  | workflow action =>
    simp only [State.step] at stepped
    split at stepped
    · split at stepped
      · rename_i part there
        rw [WorkflowPart.step_stopped (inOrder.workflow part there) (quiet.2 part there)] at stepped
        cases stepped
      · cases stepped
    · cases stepped

end Worker

/-! ### Main results -/

/-- When `finalize_shutdown` is called, core has been told to shut down, the poll loops or
their drains have ended, every activity has sent its one completion, the tasks of activities
and activations have ended, and nothing is completed afterwards. -/
theorem finalize_is_last [DecidableEq T] [DecidableEq R] (cfg : Config) {activity workflow : Bool}
    {s : State T V P R W C} (run : Reaches (State.step cfg) (fun _ _ => True)
      (State.initial T V P R W C activity workflow) s) (finalized : s.finalized = true) :
    s.initiated = true ∧
    (∀ part, s.activity = some part → part.task.isDone = true ∧
      ∀ a ∈ part.worker.activities, a.phase = .finished none ∧ a.completions.length = 1) ∧
    (∀ part, s.workflow = some part → part.task.isDone = true ∧
      ∀ t ∈ part.worker.tasks, t.phase.isFinished = true) ∧
    ∀ action s', s.step cfg action = some s' → s'.completions = s.completions := by
  have inOrder : s.InOrder := run.invariant State.InOrder (initial_inOrder activity workflow)
    fun before _ stepped => step_inOrder before stepped
  obtain ⟨initiated, quiet, all, -⟩ := inOrder.finalized finalized
  refine ⟨initiated, fun part there => ⟨quiet.1 part there, fun a member => ?_⟩,
    fun part there => ⟨quiet.2 part there, fun t member => ?_⟩,
    fun action s' stepped => step_completions inOrder finalized stepped⟩
  · obtain ⟨i, found⟩ := List.mem_iff_getElem?.mp member
    have phase := all part there i a found
    refine ⟨phase, ?_⟩
    rcases (inOrder.activity part there).accounted.sent i a found with ⟨error, raised⟩ | fits
    · rw [phase] at raised
      cases raised
    · unfold ActivityWorker.Activity.Fits at fits
      rw [phase] at fits
      obtain ⟨result, made⟩ := fits
      rw [made]
      rfl
  · have before := inOrder.workflow part there
    have stopped := quiet.2 part there
    -- a poll loop that has ended has collected its tasks first
    cases drains : part.drain with
    | some drain =>
      obtain ⟨error, ended⟩ := before.drained drain drains
      exact before.collected _ ended t member
    | none =>
      unfold WorkflowPart.task at stopped
      rw [drains] at stopped
      cases poller : part.worker.poller with
      | ended error => exact before.collected error poller t member
      | _ =>
        rw [poller] at stopped
        cases stopped

/-- Both workers, one activity and one workflow. -/
def smallConfig : Config where
  activities := ⟨[("my_activity", ⟨true⟩)], none⟩
  workflows := ⟨false, false, ["MyWorkflow"], false, false, some 2⟩
  onFatalError := false

def fineAnswers : ActivityWorker.Answers Unit :=
  ⟨.ok (), .ok (), .ok (), .ok (), .ok (), .ok (), .ok ()⟩

/-- An activity is started and the shutdown is requested while it runs. -/
def shutDownEarly : List (Action String Unit Unit String Unit Unit) :=
  [.run (.ok ()), .activity (.work (.start "token" ⟨"my_activity", "id", false, false⟩)),
    .activity (.work (.resume 0 fineAnswers)), .shutdown, .raiseOnShutdown, .resume,
    .activity .pollShutdown, .workflow (.work .pollShutdown), .workflow (.work .collected),
    .resume, .activity (.work (.resume 0 fineAnswers)), .activity (.work (.resume 0 fineAnswers)),
    .activity (.work (.resume 0 fineAnswers)), .resume]

theorem finalize_is_last_activity : ∃ (s : State String Unit Unit String Unit Unit)
    (part : ActivityPart String Unit Unit) (a : Activity String Unit Unit),
    runActions (State.step smallConfig) (State.initial _ _ _ _ _ _ true true) shutDownEarly = some s ∧
      s.finalized = true ∧ s.activity = some part ∧ a ∈ part.worker.activities ∧
      a.completions.length = 1 := by
  obtain ⟨s, ran, finalized⟩ : ∃ s, runActions (State.step smallConfig)
      (State.initial String Unit Unit String Unit Unit true true) shutDownEarly = some s ∧
        s.finalized = true := ⟨_, rfl, rfl⟩
  obtain ⟨part, there, a, member⟩ : ∃ part, s.activity = some part ∧
      ∃ a, a ∈ part.worker.activities := by
    cases ran
    exact ⟨_, rfl, _, List.mem_cons_self⟩
  have all := finalize_is_last smallConfig (Reaches.init.of_runActions (fun _ _ _ => trivial) ran)
    finalized
  exact ⟨s, part, a, ran, finalized, there, member, ((all.2.1 part there).2 a member).2⟩

/-! ### Shutdowns that are not completed -/

/-- `run` is not cancelled while it waits for the poll loops or for activities, and no poll
loop has been cancelled where it goes on to stop them. -/
def Action.patient (s : State T V P R W C) : Action T V P R W C → Bool
  | .cancel => match s.phase with
    | .waiting | .handlingFatal _ => !s.workerTasks.any Task.isCancelled
    | .stopping _ | .completing _ _ _ => false
    | _ => true
  | .resume => match s.phase with
    | .waiting | .handlingFatal _ => !s.workerTasks.any Task.isCancelled
    | _ => true
  | _ => true

/-- The task of an activity has raised `error`. -/
def State.ActivityRaised (s : State T V P R W C) (error : PyError) : Prop :=
  ∃ part a, s.activity = some part ∧ a ∈ part.worker.activities ∧ a.phase = .finished (some error)

/-- `run` is on its way to the end of the shutdown, or an activity has raised. -/
def State.OnItsWay (s : State T V P R W C) : Prop :=
  match s.phase with
  | .completing _ _ cancelled => cancelled = false
  | .ended exception =>
    s.shutdownComplete = true ∨ ∃ error, exception = some error ∧ s.ActivityRaised error
  | _ => True

section Patient

variable [DecidableEq T] {cfg : Config} {s s' : State T V P R W C}

/-- An activity that has raised stays so. -/
theorem State.ActivityRaised.step {part part' : ActivityPart T V P} {action : ActivityAction T V P}
    {error : PyError} (raised : s.ActivityRaised error) (there : s.activity = some part)
    (stepped : part.step cfg.activities action = some part') :
    { s with activity := some part' }.ActivityRaised error := by
  obtain ⟨old, a, there', member, phase⟩ := raised
  rw [there] at there'
  cases there'
  obtain ⟨i, found⟩ := List.mem_iff_getElem?.mp member
  obtain ⟨a', found', same⟩ := ActivityPart.step_ended stepped found
  exact ⟨part', a', rfl, List.mem_of_getElem? found', (same (by rw [phase]; rfl)).trans phase⟩

omit [DecidableEq T] in
theorem activityTask_exception {i : Nat} {error : PyError}
    (raised : (s.activityTask i).error = some error) : s.ActivityRaised error := by
  unfold State.activityTask at raised
  split at raised
  · rename_i a found
    obtain ⟨part, there, at_i⟩ := Option.bind_eq_some_iff.mp found
    split at raised
    · rename_i ended phase
      obtain rfl : ended = some error := raised
      exact ⟨part, a, there, List.mem_of_getElem? at_i, phase⟩
    · cases raised
  · cases raised

omit [DecidableEq T] in
theorem beginShutdown_onItsWay (none : s.workerTasks.any Task.isCancelled = false)
    (exception : Option PyError) : (s.beginShutdown exception).OnItsWay := by
  unfold State.OnItsWay
  rcases beginShutdown_phase s exception with ⟨stops, -⟩ | ⟨-, cancelled⟩
  · rw [stops]
    trivial
  · rw [none] at cancelled
    cases cancelled

omit [DecidableEq T] in
/-- Where a poll loop has been cancelled, `run` raises a cancellation in place of completing
the shutdown. -/
theorem beginShutdown_cancelled (cancelled : s.workerTasks.any Task.isCancelled = true)
    (exception : Option PyError) :
    (s.beginShutdown exception).phase = .ended (some cancelledError) ∧
      (s.beginShutdown exception).shutdownComplete = s.shutdownComplete := by
  obtain ⟨activity, workflow, phase, begun, -, -, next⟩ := beginShutdown_eq s exception
  rw [begun]
  rcases next with ⟨-, none⟩ | ⟨ends, -⟩
  · rw [cancelled] at none
    cases none
  · exact ⟨ends, rfl⟩

omit [DecidableEq T] in
theorem resumeRun_onItsWay (before : s.OnItsWay)
    (patient : (Action.resume : Action T V P R W C).patient s = true)
    (stepped : s.resumeRun cfg = some s') : s'.OnItsWay := by
  unfold Action.patient at patient
  unfold State.resumeRun at stepped
  cases phase : s.phase with
  | idle | ended =>
    simp only [phase] at stepped
    cases stepped
  | waiting =>
    simp only [phase, Bool.not_eq_true'] at stepped patient
    split at stepped
    · split at stepped
      · split at stepped
        · cases stepped
          trivial
        · cases stepped
          exact beginShutdown_onItsWay patient _
      · cases stepped
        exact beginShutdown_onItsWay patient _
      · cases stepped
        exact beginShutdown_onItsWay patient _
    · cases stepped
  | handlingFatal exception =>
    simp only [phase, Bool.not_eq_true'] at stepped patient
    cases stepped
    exact beginShutdown_onItsWay patient _
  | stopping exception =>
    simp only [phase] at stepped
    split at stepped
    · cases stepped
      unfold State.stopped
      split
      · trivial
      · exact rfl
    · cases stepped
  | completing exception tasks cancelled =>
    simp only [State.OnItsWay, phase] at before
    simp only [phase, before, Bool.false_eq_true, if_false] at stepped
    split at stepped
    · cases stepped
      trivial
    · cases stepped
  | finalizing exception =>
    simp only [phase] at stepped
    cases stepped
    exact .inl rfl

theorem step_onItsWay [DecidableEq R] {action : Action T V P R W C} (before : s.OnItsWay)
    (patient : action.patient s = true) (stepped : s.step cfg action = some s') : s'.OnItsWay := by
  cases action with
  | run validated =>
    cases validated with
    | error error =>
      cases stepped
      exact before
    | ok result =>
      simp only [State.step] at stepped
      split at stepped
      · cases stepped
        exact before
      · cases stepped
        trivial
  | resume => exact resumeRun_onItsWay before patient stepped
  | gatherRaised i =>
    simp only [State.step, State.gatherRaised] at stepped
    split at stepped
    · split at stepped
      · rename_i error found
        cases stepped
        obtain ⟨task, -, raised⟩ := Option.bind_eq_some_iff.mp found
        exact .inr ⟨error, rfl, activityTask_exception raised⟩
      · cases stepped
    · cases stepped
  | cancel =>
    simp only [State.step, State.cancelRun] at stepped
    cases phase : s.phase with
    | idle | ended =>
      simp only [phase] at stepped
      cases stepped
    | waiting | handlingFatal =>
      simp only [Action.patient, phase, Bool.not_eq_true'] at stepped patient
      cases stepped
      exact beginShutdown_onItsWay patient _
    | finalizing =>
      simp only [phase] at stepped
      cases stepped
      exact .inl rfl
    | stopping | completing =>
      simp only [Action.patient, phase] at patient
      cases patient
  | shutdown =>
    cases stepped
    exact before
  | raiseOnShutdown =>
    simp only [State.step] at stepped
    split at stepped
    · split at stepped <;> cases stepped
      exact before
    · split at stepped <;> cases stepped
      exact before
    · cases stepped
  | activity action =>
    simp only [State.step] at stepped
    split at stepped
    · split at stepped
      · rename_i part there
        obtain ⟨part', ran, rfl⟩ := Option.map_eq_some_iff.mp stepped
        unfold State.OnItsWay at before ⊢
        cases phase : s.phase with
        | ended exception =>
          simp only [phase] at before ⊢
          rcases before with complete | ⟨error, same, raised⟩
          · exact .inl complete
          · exact .inr ⟨error, same, raised.step there ran⟩
        | completing =>
          simp only [phase] at before ⊢
          exact before
        | _ => trivial
      · cases stepped
    · cases stepped
  | workflow action =>
    simp only [State.step] at stepped
    split at stepped
    · split at stepped
      · obtain ⟨part', ran, rfl⟩ := Option.map_eq_some_iff.mp stepped
        exact before
      · cases stepped
    · cases stepped

end Patient

/-- A `run` that is not cancelled while it stops the worker, and that finds no poll loop
cancelled, completes the shutdown, and with it every call of `shutdown`, exactly if no task
of an activity has raised. -/
theorem shutdown_completes [DecidableEq T] [DecidableEq R] (cfg : Config)
    {activity workflow : Bool} {s : State T V P R W C}
    (run : Reaches (State.step cfg) (fun s action => action.patient s = true)
      (State.initial T V P R W C activity workflow) s) :
    (s.shutdownComplete = true → ∃ exception, s.phase = .ended exception) ∧
    ∀ exception, s.phase = .ended exception →
      (s.shutdownComplete = true ↔ ∀ error, ¬ s.ActivityRaised error) ∧
      (s.shutdownComplete = false → ∃ error, exception = some error ∧ s.ActivityRaised error) := by
  obtain ⟨inOrder, onItsWay⟩ : s.InOrder ∧ s.OnItsWay :=
    run.invariant (fun s => s.InOrder ∧ s.OnItsWay)
      ⟨initial_inOrder activity workflow, trivial⟩ fun before patient stepped =>
        ⟨step_inOrder before.1 stepped, step_onItsWay before.2 patient stepped⟩
  have reached := inOrder.reached
  unfold State.Reached at reached
  unfold State.OnItsWay at onItsWay
  refine ⟨fun complete => ?_, fun exception phase => ⟨⟨fun complete error raised => ?_,
    fun quiet => ?_⟩, fun incomplete => ?_⟩⟩
  · cases phase : s.phase with
    | ended exception => exact ⟨exception, rfl⟩
    | _ =>
      simp only [phase] at reached
      simp_all
  · simp only [phase] at reached
    -- the shutdown has been completed after all tasks had ended in order
    obtain ⟨-, -, all⟩ := reached.2.2 (reached.2.1.symm.trans complete)
    obtain ⟨part, a, there, member, ended⟩ := raised
    obtain ⟨i, found⟩ := List.mem_iff_getElem?.mp member
    have finished := all part there i a found
    rw [ended] at finished
    cases finished
  · simp only [phase] at onItsWay
    rcases onItsWay with complete | ⟨error, -, raised⟩
    · exact complete
    · exact absurd raised (quiet error)
  · simp only [phase, incomplete, Bool.false_eq_true, false_or] at onItsWay
    exact onItsWay

/-- The call that completes the activity is cancelled, which no handler catches. -/
def completionRaises : List (Action String Unit Unit String Unit Unit) :=
  [.run (.ok ()), .activity (.work (.start "token" ⟨"my_activity", "id", false, false⟩)),
    .activity (.work (.resume 0 fineAnswers)), .activity (.work (.resume 0 fineAnswers)),
    .activity (.work (.resume 0 fineAnswers)),
    .activity (.work (.resume 0 { fineAnswers with completeActivityTask := .error cancelledError })),
    .shutdown, .raiseOnShutdown, .resume, .activity .pollShutdown, .resume, .gatherRaised 0]

theorem shutdown_completes_not : ∃ s : State String Unit Unit String Unit Unit,
    runChecked (State.step smallConfig) (fun s action => action.patient s)
      (State.initial _ _ _ _ _ _ true false) completionRaises = some s ∧
    s.shutdownEvent = true ∧ s.shutdownComplete = false ∧ s.ActivityRaised cancelledError := by
  obtain ⟨s, ran, requested, incomplete, ended⟩ : ∃ s, runChecked (State.step smallConfig)
      (fun s action => action.patient s) (State.initial String Unit Unit String Unit Unit true false)
        completionRaises = some s ∧ s.shutdownEvent = true ∧ s.shutdownComplete = false ∧
        s.phase = .ended (some cancelledError) := ⟨_, rfl, rfl, rfl, rfl⟩
  obtain ⟨error, same, raised⟩ :=
    ((shutdown_completes smallConfig (Reaches.init.of_runChecked ran)).2 _ ended).2 incomplete
  cases same
  exact ⟨s, ran, requested, incomplete, raised⟩

/-! ### What `run` raises -/

/-- Core reports that polling has been shut down only when it has been told to. -/
def Action.asked (s : State T V P R W C) : Action T V P R W C → Bool
  | .activity .pollShutdown | .workflow (.work .pollShutdown) => s.initiated
  | _ => true

/-- The poll loop of a worker has failed with `error`. -/
def State.FailedWith (s : State T V P R W C) (error : PyError) : Prop :=
  (∃ part, s.activity = some part ∧ part.poller = .ended (some error)) ∨
    ∃ part, s.workflow = some part ∧ part.worker.poller = .ended (some error)

/-- No poll loop has been shut down or replaced. -/
def State.Unasked (s : State T V P R W C) : Prop :=
  (∀ part, s.activity = some part → part.poller ≠ .ended none ∧ part.drain = none) ∧
    ∀ part, s.workflow = some part → part.worker.poller ≠ .collecting none ∧
      part.worker.poller ≠ .ended none ∧ part.drain = none

/-- What the first exception of a worker tells; asking for it raises where a poll loop has been
cancelled. -/
def State.FirstException (s : State T V P R W C) : Except PyError (Option PyError) → Prop
  | .ok (some error) => s.FailedWith error
  | .ok none => ∀ task ∈ s.workerTasks, task.isDone = false
  | .error e => e = cancelledError ∧ s.workerTasks.any Task.isCancelled = true

/-- Where the exception that `run` will raise comes from. -/
def State.Explains (s : State T V P R W C) : Option PyError → Prop
  | none => s.shutdownEvent = true
  | some error => error = cancelledError ∨ s.FailedWith error

/-- What is true of the exception in each phase. -/
def State.Outcome (s : State T V P R W C) : Prop :=
  match s.phase with
  | .idle | .waiting => True
  | .handlingFatal error => s.FailedWith error
  | .stopping exception | .completing exception _ _ | .finalizing exception =>
    s.Explains exception
  | .ended exception =>
    s.Explains exception ∨ ∃ error, exception = some error ∧ s.ActivityRaised error

structure State.Explained (s : State T V P R W C) : Prop where
  unasked : s.initiated = false → s.Unasked
  requested : s.shutdownRaised = true → s.shutdownEvent = true
  early : (s.phase = .idle ∨ s.phase = .waiting ∨ ∃ error, s.phase = .handlingFatal error) →
    s.initiated = false
  outcome : s.Outcome

section Explained

variable [DecidableEq T] {cfg : Config} {s s' : State T V P R W C}

theorem ActivityPart.step_poller {cfg : ActivityWorker.Config} {part part' : ActivityPart T V P}
    {action : ActivityAction T V P} (stepped : part.step cfg action = some part') :
    (∀ error, part.poller = .ended error → part'.poller = .ended error) ∧
      (part'.poller = .ended none → part.poller = .ended none ∨ action = .pollShutdown) ∧
      (part.drain = none → part'.drain = none) := by
  cases action with
  | work action =>
    simp only [ActivityPart.step] at stepped
    split at stepped
    · cases stepped
    · obtain ⟨worker, ran, rfl⟩ := Option.map_eq_some_iff.mp stepped
      exact ⟨fun _ => id, .inl, id⟩
  | pollShutdown =>
    simp only [ActivityPart.step] at stepped
    split at stepped
    · rename_i polling
      cases stepped
      refine ⟨fun error ended => ?_, fun _ => .inr rfl, id⟩
      rw [polling] at ended
      cases ended
    · cases stepped
  | pollRaised | failed =>
    simp only [ActivityPart.step] at stepped
    split at stepped
    · rename_i polling
      cases stepped
      refine ⟨fun error ended => ?_, fun ended => (by cases ended), id⟩
      first
        | rw [polling] at ended
          cases ended
        | simp_all
    · cases stepped
  | drain action =>
    simp only [ActivityPart.step] at stepped
    split at stepped
    · rename_i drain drains
      obtain ⟨next, -, rfl⟩ := Option.map_eq_some_iff.mp stepped
      refine ⟨fun _ => id, .inl, fun undrained => ?_⟩
      rw [drains] at undrained
      cases undrained
    · cases stepped

theorem WorkflowPart.step_poller [DecidableEq R] {cfg : Worker.Config}
    {part part' : WorkflowPart R W C} {action : WorkflowAction R W C}
    (stepped : part.step cfg action = some part') :
    (∀ error, part.worker.poller = .ended error → part'.worker.poller = .ended error) ∧
      (part.worker.poller ≠ .collecting none → part.worker.poller ≠ .ended none →
        action ≠ .work .pollShutdown →
        part'.worker.poller ≠ .collecting none ∧ part'.worker.poller ≠ .ended none) ∧
      (part.drain = none → part'.drain = none) := by
  cases action with
  | work action =>
    obtain ⟨worker, ran, rfl⟩ := Option.map_eq_some_iff.mp stepped
    cases action with
    | polled act =>
      simp only [Worker.State.step] at ran
      split at ran
      · cases ran
        exact ⟨fun _ => id, fun collecting ended _ => ⟨collecting, ended⟩, id⟩
      · cases ran
    | pollShutdown =>
      simp only [Worker.State.step] at ran
      split at ran
      · rename_i polling
        cases ran
        refine ⟨fun error ended => ?_, fun _ _ other => absurd rfl other, id⟩
        rw [polling] at ended
        cases ended
      · cases ran
    | pollRaised error =>
      simp only [Worker.State.step] at ran
      split at ran
      · rename_i polling
        cases ran
        refine ⟨fun error ended => ?_, fun _ _ _ => ⟨by simp, by simp⟩, id⟩
        rw [polling] at ended
        cases ended
      · cases ran
    | resume i answers =>
      simp only [Worker.State.step] at ran
      split at ran
      · split at ran
        · cases ran
        · cases ran
          simp only [resume_poller]
          exact ⟨fun _ => id, fun collecting ended _ => ⟨collecting, ended⟩, id⟩
      · cases ran
    | collected =>
      simp only [Worker.State.step] at ran
      split at ran
      · rename_i error collecting
        split at ran
        · cases ran
          refine ⟨fun error ended => ?_, fun notNone _ _ => ⟨by simp, ?_⟩, id⟩
          · rw [collecting] at ended
            cases ended
          · cases error with
            | none => exact absurd collecting notNone
            | some error => simp
        · cases ran
      · cases ran
  | drain action =>
    simp only [WorkflowPart.step] at stepped
    split at stepped
    · rename_i drain drains
      obtain ⟨next, -, rfl⟩ := Option.map_eq_some_iff.mp stepped
      refine ⟨fun _ => id, fun collecting ended _ => ⟨collecting, ended⟩, fun undrained => ?_⟩
      rw [drains] at undrained
      cases undrained
    · cases stepped

omit [DecidableEq T]

theorem State.Explains.mono {exception : Option PyError} (explains : s.Explains exception)
    (requested : s.shutdownEvent = true → s'.shutdownEvent = true)
    (failed : ∀ error, s.FailedWith error → s'.FailedWith error) : s'.Explains exception := by
  cases exception with
  | none => exact requested explains
  | some error => exact explains.imp_right (failed error)

/-- A failed poll loop is remembered when it is replaced. -/
theorem beginShutdown_failed (s : State T V P R W C) (exception : Option PyError) {error : PyError}
    (failed : s.FailedWith error) : (s.beginShutdown exception).FailedWith error := by
  obtain ⟨activity, workflow, phase, begun, activities, workflows, -⟩ :=
    beginShutdown_eq s exception
  rw [begun]
  rcases failed with ⟨part, there, ended⟩ | ⟨part, there, ended⟩
  · rw [there] at activities
    obtain ⟨part', there', becomes⟩ := activities.of_old
    refine .inl ⟨part', there', ?_⟩
    rcases becomes with rfl | replaced
    · exact ended
    · rcases replaceFailed_ok replaced with rfl | ⟨rfl, -⟩ <;> exact ended
  · rw [there] at workflows
    obtain ⟨part', there', becomes⟩ := workflows.of_old
    refine .inr ⟨part', there', ?_⟩
    rcases becomes with rfl | replaced
    · exact ended
    · rcases replaceFailed_ok replaced with rfl | ⟨rfl, -⟩ <;> exact ended

theorem cancelActivities_poller (tasks : List Nat) (part : ActivityPart T V P) :
    (tasks.foldl (fun part i => State.cancelActivity i part) part).poller = part.poller := by
  induction tasks generalizing part with
  | nil => rfl
  | cons i rest ih => exact ih (State.cancelActivity i part)

/-- Before the shutdown, what a done task of a worker holds is why its poll loop
failed, and it holds something. -/
theorem State.Unasked.workerTasks (unasked : s.Unasked) {task : Task}
    (member : task ∈ s.workerTasks) (done : task.isDone = true) :
    ∃ error, task.error = some error ∧ s.FailedWith error := by
  rcases List.mem_append.mp member with member | member
  · cases there : s.activity with
    | none => simp [there] at member
    | some part =>
      obtain rfl : task = part.task := by simpa [there] using member
      obtain ⟨notShut, undrained⟩ := unasked.1 part there
      unfold ActivityPart.task at done ⊢
      rw [undrained] at done ⊢
      cases poller : part.poller with
      | polling =>
        rw [poller] at done
        cases done
      | ended error =>
        cases error with
        | none => exact absurd poller notShut
        | some error => exact ⟨error, rfl, .inl ⟨part, there, poller⟩⟩
  · cases there : s.workflow with
    | none => simp [there] at member
    | some part =>
      obtain rfl : task = part.task := by simpa [there] using member
      obtain ⟨-, notShut, undrained⟩ := unasked.2 part there
      unfold WorkflowPart.task at done ⊢
      rw [undrained] at done ⊢
      cases poller : part.worker.poller with
      | ended error =>
        cases error with
        | none => exact absurd poller notShut
        | some error => exact ⟨error, rfl, .inr ⟨part, there, poller⟩⟩
      | _ =>
        rw [poller] at done
        cases done

/-- The first exception is that of a worker that has failed, if one has. -/
theorem State.Unasked.firstException (unasked : s.Unasked) : s.FirstException s.firstException := by
  unfold State.firstException
  cases found : s.workerTasks.find? Task.isDone with
  | none =>
    intro task member
    simpa using List.find?_eq_none.mp found task member
  | some task =>
    have member := List.mem_of_find?_eq_some found
    obtain ⟨error, holds, failed⟩ := unasked.workerTasks member (List.find?_some found)
    simp only [Task.exception, holds]
    cases cancelled : task.isCancelled with
    | true => exact ⟨rfl, List.any_eq_true.mpr ⟨task, member, cancelled⟩⟩
    | false => exact failed

theorem Task.done_of_failed {task : Task} (failed : task.failed = true) : task.isDone = true := by
  cases task with
  | running => cases failed
  | done error => rfl

/-- What has not been requested has not failed: `run` goes on only for a reason. -/
theorem State.Unasked.explains_first (unasked : s.Unasked)
    (requested : s.shutdownRaised = true → s.shutdownEvent = true)
    (ready : (s.shutdownRaised || s.workerTasks.any Task.failed) = true)
    {exception : Option PyError} (first : s.firstException = .ok exception) :
    s.Explains exception := by
  have outcome := unasked.firstException
  rw [first] at outcome
  cases exception with
  | some error => exact .inr outcome
  | none =>
    rcases Bool.or_eq_true_iff.mp ready with raised | failing
    · exact requested raised
    · obtain ⟨task, member, failed⟩ := List.any_eq_true.mp failing
      have done := Task.done_of_failed failed
      rw [outcome task member] at done
      cases done

theorem State.Explained.beginShutdown (before : s.Explained) {exception : Option PyError}
    (explains : s.Explains exception) : (s.beginShutdown exception).Explained := by
  have failed := fun error => @beginShutdown_failed T V P R W C s exception error
  obtain ⟨activity, workflow, phase, begun, -, -, next⟩ := beginShutdown_eq s exception
  rw [begun] at failed ⊢
  refine ⟨fun initiated => (by cases initiated), before.requested, fun early => ?_, ?_⟩
  · rcases next with ⟨rfl, -⟩ | ⟨rfl, -⟩ <;> simp at early
  · rcases next with ⟨rfl, -⟩ | ⟨rfl, -⟩
    · exact explains.mono id failed
    · exact .inl (.inl rfl)

theorem resumeRun_explained (before : s.Explained) (stepped : s.resumeRun cfg = some s') :
    s'.Explained := by
  have outcome := before.outcome
  unfold State.Outcome at outcome
  unfold State.resumeRun at stepped
  cases phase : s.phase with
  | idle | ended =>
    simp only [phase] at stepped
    cases stepped
  | waiting =>
    have unasked := before.unasked (before.early (.inr (.inl phase)))
    simp only [phase] at stepped
    split at stepped
    · rename_i ready
      have outcome := unasked.firstException
      split at stepped
      · rename_i error first
        rw [first] at outcome
        split at stepped
        · cases stepped
          exact ⟨before.unasked, before.requested, fun _ => before.early (.inr (.inl phase)),
            outcome⟩
        · cases stepped
          exact before.beginShutdown (unasked.explains_first before.requested ready first)
      · rename_i first
        cases stepped
        exact before.beginShutdown (unasked.explains_first before.requested ready first)
      · rename_i error first
        rw [first] at outcome
        obtain ⟨rfl, -⟩ := outcome
        cases stepped
        exact before.beginShutdown (.inl rfl)
    · cases stepped
  | handlingFatal error =>
    simp only [phase] at stepped outcome
    cases stepped
    exact before.beginShutdown (.inr outcome)
  | stopping exception =>
    simp only [phase] at stepped outcome
    split at stepped
    · cases stepped
      unfold State.stopped
      split
      · exact ⟨before.unasked, before.requested, fun early => (by simp [State.finalize] at early),
          outcome⟩
      · exact ⟨before.unasked, before.requested, fun early => (by simp at early), outcome⟩
    · cases stepped
  | completing exception tasks cancelled =>
    simp only [phase] at stepped outcome
    split at stepped
    · split at stepped
      · cases stepped
        exact ⟨before.unasked, before.requested, fun early => (by simp at early),
          .inl (.inl rfl)⟩
      · cases stepped
        exact ⟨before.unasked, before.requested, fun early => (by simp [State.finalize] at early),
          outcome⟩
    · cases stepped
  | finalizing exception =>
    simp only [phase] at stepped outcome
    cases stepped
    exact ⟨before.unasked, before.requested, fun early => (by simp [State.complete] at early),
      .inl outcome⟩

theorem cancelRun_explained (before : s.Explained) (stepped : s.cancelRun = some s') :
    s'.Explained := by
  have outcome := before.outcome
  unfold State.Outcome at outcome
  unfold State.cancelRun at stepped
  cases phase : s.phase with
  | idle | ended =>
    simp only [phase] at stepped
    cases stepped
  | waiting =>
    simp only [phase] at stepped
    cases stepped
    exact before.beginShutdown (.inl rfl)
  | handlingFatal error =>
    simp only [phase] at stepped outcome
    cases stepped
    exact before.beginShutdown (.inr outcome)
  | stopping exception =>
    simp only [phase] at stepped
    cases stepped
    exact ⟨before.unasked, before.requested, fun early => (by simp at early), .inl (.inl rfl)⟩
  | completing exception tasks cancelled =>
    simp only [phase] at stepped outcome
    cases stepped
    have poller (part : ActivityPart T V P) := cancelActivities_poller tasks part
    refine ⟨fun initiated => ⟨fun part at' => ?_, (before.unasked initiated).2⟩,
      before.requested, fun early => (by simp at early), ?_⟩
    · obtain ⟨old, there, rfl⟩ := Option.map_eq_some_iff.mp at'
      obtain ⟨notShut, undrained⟩ := (before.unasked initiated).1 old there
      refine ⟨by rw [poller]; exact notShut, ?_⟩
      -- cancelling an activity leaves the rest of the part alone
      have same : ∀ (l : List Nat) (part : ActivityPart T V P),
          (l.foldl (fun part i => State.cancelActivity i part) part).drain = part.drain := by
        intro l
        induction l with
        | nil => exact fun _ => rfl
        | cons i rest ih => exact fun part => ih (State.cancelActivity i part)
      rw [same]
      exact undrained
    · refine State.Explains.mono outcome id fun error failed => ?_
      rcases failed with ⟨part, there, ended⟩ | failed
      · exact .inl ⟨_, by simp [there], (poller part).trans ended⟩
      · exact .inr failed
  | finalizing exception =>
    simp only [phase] at stepped outcome
    cases stepped
    exact ⟨before.unasked, before.requested, fun early => (by simp [State.complete] at early),
      .inl outcome⟩

/-- What is known of the outcome stays known when only the workers go on. -/
theorem State.Outcome.mono (outcome : s.Outcome) (phase : s'.phase = s.phase)
    (requested : s.shutdownEvent = true → s'.shutdownEvent = true)
    (failed : ∀ error, s.FailedWith error → s'.FailedWith error)
    (raised : ∀ error, s.ActivityRaised error → s'.ActivityRaised error) : s'.Outcome := by
  unfold State.Outcome at outcome ⊢
  rw [phase]
  cases at_ : s.phase with
  | idle | waiting => trivial
  | handlingFatal error =>
    simp only [at_] at outcome
    exact failed error outcome
  | stopping exception | completing exception _ _ | finalizing exception =>
    simp only [at_] at outcome
    exact outcome.mono requested failed
  | ended exception =>
    simp only [at_] at outcome
    rcases outcome with explains | ⟨error, same, ended⟩
    · exact .inl (explains.mono requested failed)
    · exact .inr ⟨error, same, raised error ended⟩

theorem step_explained [DecidableEq T] [DecidableEq R] {action : Action T V P R W C}
    (inOrder : s.InOrder) (before : s.Explained) (asked : action.asked s = true)
    (stepped : s.step cfg action = some s') : s'.Explained := by
  cases action with
  | run validated =>
    cases validated with
    | error error =>
      cases stepped
      exact before
    | ok result =>
      simp only [State.step] at stepped
      split at stepped
      · cases stepped
        exact before
      · rename_i notStarted
        cases stepped
        refine ⟨before.unasked, before.requested, fun _ => before.early (.inl ?_), trivial⟩
        have reached := inOrder.reached
        unfold State.Reached at reached
        cases phase : s.phase <;> simp only [phase] at reached <;>
          first | rfl | exact absurd reached.1 notStarted
  | resume => exact resumeRun_explained before stepped
  | gatherRaised i =>
    simp only [State.step, State.gatherRaised] at stepped
    split at stepped
    · split at stepped
      · rename_i error found
        cases stepped
        obtain ⟨task, -, raised⟩ := Option.bind_eq_some_iff.mp found
        exact ⟨before.unasked, before.requested, fun early => (by simp at early),
          .inr ⟨error, rfl, activityTask_exception raised⟩⟩
      · cases stepped
    · cases stepped
  | cancel => exact cancelRun_explained before stepped
  | shutdown =>
    cases stepped
    exact ⟨before.unasked, fun _ => rfl, before.early,
      before.outcome.mono rfl (fun _ => rfl) (fun _ => id) (fun _ => id)⟩
  | raiseOnShutdown =>
    simp only [State.step] at stepped
    split at stepped
    · split at stepped
      · rename_i requested
        cases stepped
        exact ⟨before.unasked, fun _ => requested, before.early,
          before.outcome.mono rfl id (fun _ => id) (fun _ => id)⟩
      · cases stepped
    · split at stepped
      · rename_i requested
        cases stepped
        exact ⟨before.unasked, fun _ => requested, before.early,
          before.outcome.mono rfl id (fun _ => id) (fun _ => id)⟩
      · cases stepped
    · cases stepped
  | activity action =>
    simp only [State.step] at stepped
    split at stepped
    · split at stepped
      · rename_i part there
        obtain ⟨part', ran, rfl⟩ := Option.map_eq_some_iff.mp stepped
        obtain ⟨ended, shut, drain⟩ := ActivityPart.step_poller ran
        refine ⟨fun initiated => ⟨fun _ at' => ?_, (before.unasked initiated).2⟩,
          before.requested, before.early, before.outcome.mono rfl id (fun error failed => ?_)
            (fun error raised => raised.step there ran)⟩
        · cases at'
          obtain ⟨notShut, undrained⟩ := (before.unasked initiated).1 part there
          refine ⟨fun now => ?_, drain undrained⟩
          rcases shut now with already | same
          · exact notShut already
          · subst same
            rw [show s.initiated = true from asked] at initiated
            cases initiated
        · rcases failed with ⟨old, at', failed⟩ | failed
          · rw [there] at at'
            cases at'
            exact .inl ⟨part', rfl, ended _ failed⟩
          · exact .inr failed
      · cases stepped
    · cases stepped
  | workflow action =>
    simp only [State.step] at stepped
    split at stepped
    · split at stepped
      · rename_i part there
        obtain ⟨part', ran, rfl⟩ := Option.map_eq_some_iff.mp stepped
        obtain ⟨ended, shut, drain⟩ := WorkflowPart.step_poller ran
        refine ⟨fun initiated => ⟨(before.unasked initiated).1, fun _ at' => ?_⟩,
          before.requested, before.early, before.outcome.mono rfl id (fun error failed => ?_)
            (fun _ => id)⟩
        · cases at'
          obtain ⟨collecting, notShut, undrained⟩ := (before.unasked initiated).2 part there
          have other : action ≠ .work .pollShutdown := by
            rintro rfl
            rw [show s.initiated = true from asked] at initiated
            cases initiated
          obtain ⟨collecting', notShut'⟩ := shut collecting notShut other
          exact ⟨collecting', notShut', drain undrained⟩
        · rcases failed with failed | ⟨old, at', failed⟩
          · exact .inl failed
          · rw [there] at at'
            cases at'
            exact .inr ⟨part', rfl, ended _ failed⟩
      · cases stepped
    · cases stepped

theorem initial_explained (activity workflow : Bool) :
    (State.initial T V P R W C activity workflow).Explained := by
  refine ⟨fun _ => ⟨fun part at' => ?_, fun part at' => ?_⟩, fun raised => (by cases raised),
    fun _ => rfl, trivial⟩
  · cases activity with
    | false => cases at'
    | true =>
      cases at'
      exact ⟨by simp, rfl⟩
  · cases workflow with
    | false => cases at'
    | true =>
      cases at'
      exact ⟨by simp [Worker.State.initial], by simp [Worker.State.initial], rfl⟩

end Explained

/-- `run` raises a cancellation, what a poll loop failed with or what the task of
an activity has raised; without an exception it ends only on request. When it
goes on because a worker has failed, it is going to raise why, or raises a
cancellation at once because a poll loop has been cancelled. -/
theorem run_outcome [DecidableEq T] [DecidableEq R] (cfg : Config) {activity workflow : Bool}
    {s : State T V P R W C} (run : Reaches (State.step cfg) (fun s action => action.asked s = true)
      (State.initial T V P R W C activity workflow) s) :
    (s.phase = .ended none → s.shutdownEvent = true) ∧
    (∀ error, s.phase = .ended (some error) →
      error = cancelledError ∨ s.FailedWith error ∨ s.ActivityRaised error) ∧
    ∀ s', s.phase = .waiting → (∃ task ∈ s.workerTasks, task.isDone = true) →
      s.step cfg .resume = some s' →
      (∃ error, s.FailedWith error ∧
        (s'.phase = .handlingFatal error ∨ s'.phase = .stopping (some error))) ∨
      (s.workerTasks.any Task.isCancelled = true ∧ s'.phase = .ended (some cancelledError)) := by
  obtain ⟨inOrder, explained⟩ : s.InOrder ∧ s.Explained :=
    run.invariant (fun s => s.InOrder ∧ s.Explained)
      ⟨initial_inOrder activity workflow, initial_explained activity workflow⟩
      fun before asked stepped =>
        ⟨step_inOrder before.1 stepped, step_explained before.1 before.2 asked stepped⟩
  have outcome := explained.outcome
  unfold State.Outcome at outcome
  refine ⟨fun phase => ?_, fun error phase => ?_, fun s' phase failing stepped => ?_⟩
  · simp only [phase] at outcome
    rcases outcome with explains | ⟨error, same, -⟩
    · exact explains
    · cases same
  · simp only [phase] at outcome
    rcases outcome with (cancelled | failed) | ⟨_, same, raised⟩
    · exact .inl cancelled
    · exact .inr (.inl failed)
    · cases same
      exact .inr (.inr raised)
  · have unasked := explained.unasked (explained.early (.inr (.inl phase)))
    have told := unasked.firstException
    obtain ⟨task, member, done⟩ := failing
    simp only [State.step, State.resumeRun, phase] at stepped
    split at stepped
    · split at stepped
      · rename_i error first
        rw [first] at told
        split at stepped
        · cases stepped
          exact .inl ⟨error, told, .inl rfl⟩
        · cases stepped
          rcases beginShutdown_phase s (some error) with ⟨stops, -⟩ | ended
          · exact .inl ⟨error, told, .inr stops⟩
          · exact .inr ended.symm
      · rename_i first
        rw [first] at told
        rw [told task member] at done
        cases done
      · rename_i error first
        rw [first] at told
        cases stepped
        exact .inr ⟨told.2, (beginShutdown_cancelled told.2 _).1⟩
    · cases stepped

/-- The poll loop of activities fails while that of workflows goes on. -/
def activityPollFails : List (Action String Unit Unit String Unit Unit) :=
  [.run (.ok ()), .activity (.pollRaised ⟨true, some "connection lost", .other⟩), .resume,
    .activity (.drain .pollShutdown), .workflow (.work .pollShutdown), .workflow (.work .collected),
    .resume, .resume]

theorem run_outcome_failed : ∃ (s : State String Unit Unit String Unit Unit) (error : PyError),
    runChecked (State.step smallConfig) (fun s action => action.asked s)
      (State.initial _ _ _ _ _ _ true true) activityPollFails = some s ∧
    s.phase = .ended (some error) ∧ error.text = some "Activity worker failed" ∧
    s.FailedWith error := by
  obtain ⟨s, ran, ended⟩ : ∃ s, runChecked (State.step smallConfig)
      (fun s action => action.asked s) (State.initial String Unit Unit String Unit Unit true true)
        activityPollFails = some s ∧
        s.phase = .ended (some ⟨true, some "Activity worker failed", .other⟩) := ⟨_, rfl, rfl⟩
  refine ⟨s, _, ran, ended, rfl, ?_⟩
  rcases (run_outcome smallConfig (Reaches.init.of_runChecked ran)).2.1 _ ended with
    cancelled | failed | ⟨part, a, there, member, -⟩
  · cases cancelled
  · exact failed
  -- no activity has been started
  · cases ran
    cases there
    cases member

end Lifecycle

end TemporalSdk
