import TemporalSdk.Worker.ActivitySteps

/-!
# Completions of activities

## Main result

`one_completion`: in every run in which `encode_failure` in the handler of
`_run_activity` ends with nothing worse than a printable `Exception`, an activity
has at most one `complete_activity_task` call, for its own token; it is in
`_running_activities` until that call has returned and not afterwards; and its
task never ends without the call.

A cancel that arrives while a failure is being encoded raises a `CancelledError`
there, which the handler does not catch: `cancel_loses_completion`.

## Proof strategy

`Opens` says where a stretch of `_run_activity` can lead that has not called the
bridge yet. The functions that make up the task each have one lemma for it, and
the state invariant `Complete` follows from their composition; heartbeats and
cancels do not touch what it is about.
-/

namespace TemporalSdk.ActivityWorker

open Worker (PyError ErrorKind)

variable {T V P : Type}

/-! ### One activity -/

def Phase.isFinished : Phase P → Bool
  | .finished _ => true
  | _ => false

/-- In the body of the `try` of `_run_activity`, whose exceptions are handled. -/
def Phase.inTry : Phase P → Bool
  | .scheduled | .decodingArguments | .decodingHeartbeatDetails | .executing
  | .encodingResult => true
  | _ => false

/-- The steps a phase is away from the end, at most. -/
def Phase.remaining : Phase P → Nat
  | .scheduled => 8
  | .decodingArguments => 7
  | .decodingHeartbeatDetails => 6
  | .executing => 5
  | .encodingResult => 4
  | .encodingFailure _ _ => 3
  | .awaitingHeartbeat _ => 2
  | .completing => 1
  | .finished _ => 0

def HeartbeatTask.remaining : HeartbeatTask V → Nat
  | .scheduled => 2
  | .encoding _ => 1
  | .finished => 0

namespace Activity

/-- The completions sent for an activity. -/
def completions (a : Activity T V P) : List (Completion T P) :=
  a.calls.filterMap fun call => match call with
    | .completeActivityTask completion => some completion
    | .recordActivityHeartbeat _ _ => none

/-- An activity has sent its completion exactly if it is past the point where
    that is done. -/
def Fits (a : Activity T V P) : Prop :=
  match a.phase with
  | .completing | .finished _ => ∃ result, a.completions = [⟨a.taskToken, result⟩]
  | _ => a.completions = []

/-- An activity whose task has not ended, and its distance from the end. -/
structure Opens (token : T) (a : Activity T V P) (bound : Nat) : Prop where
  fits : a.Fits
  token : a.taskToken = token
  unfinished : a.phase.isFinished = false
  nearer : a.phase.remaining ≤ bound

theorem Opens.mono {token : T} {a : Activity T V P} {bound bound' : Nat}
    (opens : Opens token a bound) (le : bound ≤ bound') : Opens token a bound' :=
  ⟨opens.fits, opens.token, opens.unfinished, Nat.le_trans opens.nearer le⟩

theorem completions_append (a : Activity T V P) (call : BridgeCall T V P) :
    { a with calls := a.calls ++ [call] }.completions = a.completions ++ (match call with
      | .completeActivityTask completion => [completion]
      | .recordActivityHeartbeat _ _ => []) := by
  cases call <;> simp [completions]

theorem complete_opens (a : Activity T V P) (none : a.completions = []) (result : Result P) :
    Opens a.taskToken (a.complete result) 1 := by
  refine ⟨⟨result, ?_⟩, rfl, rfl, Nat.le_refl 1⟩
  change { a with calls := a.calls ++ [_] }.completions = _
  rw [completions_append, none]
  rfl

theorem finalize_opens (a : Activity T V P) (none : a.completions = []) (result : Result P) :
    Opens a.taskToken (a.finalize result) 2 := by
  unfold finalize
  split
  · exact ⟨none, rfl, rfl, Nat.le_refl 2⟩
  · exact (complete_opens { a with done := true } none result).mono (by decide)

/-- The exception of a failed heartbeat can be printed. -/
def PrintsHeartbeatError (a : Activity T V P) : Prop :=
  ∀ error, a.cancelledDueToHeartbeatError = some error → error.text.isSome

theorem handleError_opens (a : Activity T V P) (none : a.completions = [])
    (prints : a.PrintsHeartbeatError) (error : PyError) :
    Opens a.taskToken (a.handleError error) 3 := by
  unfold handleError
  split
  · exact (finalize_opens a none .willCompleteAsync).mono (by decide)
  · rename_i heartbeatError _ failed
    obtain ⟨text, printed⟩ := Option.isSome_iff_exists.mp (prints heartbeatError failed)
    rw [printed]
    exact ⟨none, rfl, rfl, Nat.le_refl 3⟩
  · exact ⟨none, rfl, rfl, Nat.le_refl 3⟩
  · exact ⟨none, rfl, rfl, Nat.le_refl 3⟩

section Body

variable (cfg : Config) (answers : Answers P)

/-- `encode_failure` ends with nothing worse than an `Exception`, and then both
    exceptions can be printed. -/
def CatchesInner (error : PyError) : Prop :=
  ∀ inner, answers.encodeFailure = .error inner →
    inner.isException ∧ inner.text.isSome ∧ error.text.isSome

theorem failureEncoded_opens (a : Activity T V P) (none : a.completions = []) (error : PyError)
    (handling : Handling) (caught : CatchesInner answers error) :
    Opens a.taskToken (a.failureEncoded answers error handling) 2 := by
  unfold failureEncoded
  cases encoded : answers.encodeFailure with
  | ok result => exact finalize_opens a none _
  | error inner =>
    obtain ⟨isException, printable, original⟩ := caught inner encoded
    obtain ⟨text, printed⟩ := Option.isSome_iff_exists.mp printable
    obtain ⟨text', printed'⟩ := Option.isSome_iff_exists.mp original
    simp only [isException, if_true, printed, printed']
    exact finalize_opens a none _

theorem execute_opens (a : Activity T V P) (none : a.completions = [])
    (prints : a.PrintsHeartbeatError) : Opens a.taskToken (a.execute answers) 5 := by
  unfold execute
  split
  · exact ⟨none, rfl, rfl, Nat.le_refl 5⟩
  · exact (handleError_opens a none prints _).mono (by decide)

theorem decodeHeartbeatDetails_opens (a : Activity T V P) (none : a.completions = [])
    (prints : a.PrintsHeartbeatError) :
    Opens a.taskToken (a.decodeHeartbeatDetails answers) 6 := by
  unfold decodeHeartbeatDetails
  split
  · exact ⟨none, rfl, rfl, Nat.le_refl 6⟩
  · exact (execute_opens answers a none prints).mono (by decide)

theorem begin_opens (a : Activity T V P) (none : a.completions = [])
    (prints : a.PrintsHeartbeatError) : Opens a.taskToken (a.begin cfg answers) 7 := by
  unfold begin
  split
  · exact (handleError_opens a none prints _).mono (by decide)
  · rename_i activityDef _
    split
    · exact (handleError_opens { a with sync := !activityDef.isAsync } none prints _).mono (by decide)
    · dsimp only
      split
      · exact ⟨none, rfl, rfl, Nat.le_refl 7⟩
      · exact (decodeHeartbeatDetails_opens answers
          { a with sync := !activityDef.isAsync, cancelledEvent := some false } none prints).mono
            (by decide)

/-- What the step of a task needs: a failure is encoded without trouble, and the
    call of the bridge succeeds. -/
structure Untroubled (a : Activity T V P) : Prop where
  prints : a.phase.inTry = true → a.PrintsHeartbeatError
  caught : ∀ error handling, a.phase = .encodingFailure error handling →
    CatchesInner answers error
  sent : a.phase = .completing → answers.completeActivityTask = .ok ()

/-- A step of `_run_activity`: either the completion has been sent and the task
    ends, or it goes on. -/
theorem resume_opens (a : Activity T V P) (fits : a.Fits) (resumable : State.resumable a)
    (untroubled : Untroubled answers a) :
    (a.phase = .completing ∧ (a.resume cfg answers).phase = .finished none ∧
      (a.resume cfg answers).Fits ∧ (a.resume cfg answers).taskToken = a.taskToken) ∨
    (a.phase ≠ .completing ∧
      Opens a.taskToken (a.resume cfg answers) (a.phase.remaining - 1)) := by
  have running : ∀ e, a.phase ≠ .finished e := by
    intro e ended
    rw [State.resumable, ended] at resumable
    cases resumable
  -- Up to the completion nothing has been sent.
  have unsent : (∀ e, a.phase ≠ .finished e) → a.phase ≠ .completing → a.completions = [] := by
    intro running waiting
    unfold Fits at fits
    split at fits
    · contradiction
    · rename_i e ended
      exact absurd ended (running e)
    · exact fits
  let a₀ : Activity T V P := { a with cancelling := false }
  have prints : a.phase.inTry = true → a₀.PrintsHeartbeatError := untroubled.prints
  unfold resume
  cases phase : a.phase with
  | scheduled =>
    right
    have none := unsent running (by rw [phase]; simp)
    have prints := prints (by rw [phase]; rfl)
    exact ⟨by simp, (begin_opens cfg answers a₀ none prints)⟩
  | decodingArguments =>
    right
    have none := unsent running (by rw [phase]; simp)
    have prints := prints (by rw [phase]; rfl)
    refine ⟨by simp, ?_⟩
    cases answers.decode with
    | ok result => exact decodeHeartbeatDetails_opens answers a₀ none prints
    | error error => exact (handleError_opens a₀ none prints _).mono (by simp [Phase.remaining])
  | decodingHeartbeatDetails =>
    right
    have none := unsent running (by rw [phase]; simp)
    have prints := prints (by rw [phase]; rfl)
    refine ⟨by simp, ?_⟩
    cases answers.decode with
    | ok result => exact execute_opens answers a₀ none prints
    | error error => exact (handleError_opens a₀ none prints _).mono (by simp [Phase.remaining])
  | executing =>
    right
    have none := unsent running (by rw [phase]; simp)
    have prints := prints (by rw [phase]; rfl)
    refine ⟨by simp, ?_⟩
    cases answers.executeActivity with
    | ok result => exact ⟨none, rfl, rfl, Nat.le_refl 4⟩
    | error error => exact (handleError_opens a₀ none prints _).mono (by simp [Phase.remaining])
  | encodingResult =>
    right
    have none := unsent running (by rw [phase]; simp)
    have prints := prints (by rw [phase]; rfl)
    refine ⟨by simp, ?_⟩
    cases answers.encodeResult with
    | ok payload => exact (finalize_opens a₀ none _).mono (by simp [Phase.remaining])
    | error error => exact handleError_opens a₀ none prints _
  | encodingFailure error handling =>
    right
    have none := unsent running (by rw [phase]; simp)
    exact ⟨by simp, failureEncoded_opens answers a₀ none error handling
      (untroubled.caught error handling phase)⟩
  | awaitingHeartbeat result =>
    right
    have none := unsent running (by rw [phase]; simp)
    exact ⟨by simp, complete_opens a₀ none result⟩
  | completing =>
    left
    simp only [untroubled.sent phase]
    refine ⟨trivial, trivial, ?_, trivial⟩
    unfold Fits at fits
    rw [phase] at fits
    exact fits
  | finished e => exact absurd phase (running e)

end Body

/-! ### Cancels and heartbeats -/

/-- `a'` differs from `a` in what is not about completions. -/
structure Frames (a a' : Activity T V P) : Prop where
  phase : a'.phase = a.phase
  token : a'.taskToken = a.taskToken
  completions : a'.completions = a.completions

theorem Frames.fits {a a' : Activity T V P} (frames : Frames a a') (fits : a.Fits) : a'.Fits := by
  unfold Fits at fits ⊢
  rw [frames.phase, frames.token, frames.completions]
  exact fits

theorem cancel_frames (a : Activity T V P) (byRequest : Bool) (error : Option PyError) :
    Frames a (a.cancel byRequest error) := ⟨rfl, rfl, rfl⟩

theorem heartbeat_frames (a : Activity T V P) (details : List V) :
    Frames a (a.heartbeat details) := by
  unfold heartbeat
  split
  · exact ⟨rfl, rfl, rfl⟩
  · dsimp only
    split
    · exact ⟨rfl, rfl, rfl⟩
    · exact ⟨rfl, rfl, rfl⟩

theorem heartbeatFailed_frames (a : Activity T V P) (k : Nat) (error : PyError) :
    Frames a (a.heartbeatFailed k error) := by
  unfold heartbeatFailed
  dsimp only
  split
  · exact ⟨rfl, rfl, rfl⟩
  · exact ⟨rfl, rfl, rfl⟩

theorem record_frames (a : Activity T V P) (k : Nat) (answers : HeartbeatAnswers)
    (h : Heartbeat V) : Frames a (a.record k answers h) := by
  let called : Activity T V P :=
    { a with calls := a.calls ++ [.recordActivityHeartbeat a.taskToken h] }
  have recorded : called.completions = a.completions := by
    rw [completions_append, List.append_nil]
  unfold record
  dsimp only
  split
  · exact ⟨rfl, rfl, recorded⟩
  · rename_i error _
    have := heartbeatFailed_frames called k error
    exact ⟨this.phase, this.token, this.completions.trans recorded⟩

theorem resumeHeartbeat_frames {a a' : Activity T V P} {k : Nat} {answers : HeartbeatAnswers}
    (stepped : a.resumeHeartbeat k answers = some a') : Frames a a' := by
  unfold resumeHeartbeat at stepped
  split at stepped
  · split at stepped
    · cases stepped
      exact ⟨rfl, rfl, rfl⟩
    · dsimp only at stepped
      split at stepped
      · cases stepped
        have := record_frames { a with pendingHeartbeats := [] } k answers
        exact ⟨(this _).phase, (this _).token, (this _).completions⟩
      · cases stepped
        exact ⟨rfl, rfl, rfl⟩
  · split at stepped
    · cases stepped
      exact record_frames a k answers _
    · cases stepped
      rename_i h _ _ error _
      have := heartbeatFailed_frames { a with unencoded := a.unencoded ++ [h] } k error
      exact ⟨this.phase, this.token, this.completions⟩
  · cases stepped
  · cases stepped

/-! ### Going on -/

theorem heartbeatFailed_finished (a : Activity T V P) (k : Nat) (error : PyError) :
    (a.heartbeatFailed k error).heartbeatTasks = a.heartbeatTasks.set k .finished := by
  unfold heartbeatFailed
  dsimp only
  split
  · rfl
  · rfl

theorem record_finished (a : Activity T V P) (k : Nat) (answers : HeartbeatAnswers)
    (h : Heartbeat V) :
    (a.record k answers h).heartbeatTasks = a.heartbeatTasks.set k .finished := by
  unfold record
  dsimp only
  split
  · rfl
  · exact heartbeatFailed_finished _ k _

/-- A heartbeat task that has not ended can go on. -/
theorem resumeHeartbeat_goes_on (a : Activity T V P) (k : Nat) (answers : HeartbeatAnswers)
    {task : HeartbeatTask V} (found : a.heartbeatTasks[k]? = some task)
    (unfinished : 0 < task.remaining) :
    ∃ a' task', a.resumeHeartbeat k answers = some a' ∧ a'.heartbeatTasks[k]? = some task' ∧
      task'.remaining < task.remaining := by
  have inside : k < a.heartbeatTasks.length := (List.getElem?_eq_some_iff.mp found).1
  cases task with
  | scheduled =>
    simp only [resumeHeartbeat, found]
    split
    · exact ⟨_, .finished, rfl, List.getElem?_set_self inside, unfinished⟩
    · rename_i h _
      split
      · refine ⟨_, .finished, rfl, ?_, unfinished⟩
        rw [record_finished]
        exact List.getElem?_set_self inside
      · exact ⟨_, .encoding h, rfl, List.getElem?_set_self inside, Nat.lt_succ_self 1⟩
  | encoding h =>
    simp only [resumeHeartbeat, found]
    split
    · refine ⟨_, .finished, rfl, ?_, unfinished⟩
      rw [record_finished]
      exact List.getElem?_set_self inside
    · refine ⟨_, .finished, rfl, ?_, unfinished⟩
      rw [heartbeatFailed_finished]
      exact List.getElem?_set_self inside
  | finished => cases unfinished

/-- A task that cannot go on is waiting for a heartbeat task that can. -/
theorem waits_for_heartbeat {a : Activity T V P} (unfinished : a.phase.isFinished = false)
    (waiting : State.resumable a = false) :
    ∃ k task, a.lastHeartbeatTask = some k ∧ a.heartbeatTasks[k]? = some task ∧
      0 < task.remaining := by
  have running : a.heartbeatRunning = true := by
    unfold State.resumable at waiting
    cases phase : a.phase <;> simp_all [Phase.isFinished]
  unfold heartbeatRunning at running
  cases last : a.lastHeartbeatTask with
  | none =>
    rw [last] at running
    cases running
  | some k =>
    rw [last, Option.bind_some] at running
    refine ⟨k, ?_⟩
    split at running
    · rename_i found
      exact ⟨_, rfl, found, Nat.zero_lt_two⟩
    · rename_i found
      exact ⟨_, rfl, found, Nat.zero_lt_one⟩
    · cases running
    · cases running

end Activity

/-! ### The worker -/

/-- Every activity has sent what its phase says, and is running until its task
    has ended. -/
structure Complete [DecidableEq T] (s : State T V P) : Prop where
  fits : ∀ (i : Nat) (a : Activity T V P), s.activities[i]? = some a → a.Fits
  distinct : (s.activities.map Activity.taskToken).Nodup
  running : ∀ (i : Nat) (a : Activity T V P), s.activities[i]? = some a →
    s.runningActivities.get? a.taskToken = if a.phase.isFinished then none else some i

/-- The condition on a step. -/
def Action.untroubled (s : State T V P) : Action T V P → Prop
  | .resume i answers => ∀ a, s.activities[i]? = some a → Activity.Untroubled answers a
  | _ => True

theorem map_token_set {activities : List (Activity T V P)} {i : Nat} {a a' : Activity T V P}
    (found : activities[i]? = some a) (token : a'.taskToken = a.taskToken) :
    (activities.set i a').map Activity.taskToken = activities.map Activity.taskToken := by
  obtain ⟨inside, rfl⟩ := List.getElem?_eq_some_iff.mp found
  rw [List.map_set, token, ← List.getElem_map Activity.taskToken (h := by simpa using inside),
    List.set_getElem_self]

section Steps

variable [DecidableEq T] {cfg : Config} {s s' : State T V P}

theorem initial_complete : Complete (State.initial T V P) := by
  refine ⟨?_, List.nodup_nil, ?_⟩
  · intro i a found
    cases found
  · intro i a found
    cases found

theorem Complete.frame (before : Complete s) {i : Nat} {a a' : Activity T V P}
    (found : s.activities[i]? = some a) (frames : a.Frames a') : Complete (s.setActivity i a') := by
  refine ⟨?_, ?_, ?_⟩
  · intro j b there
    rcases getElem?_set_cases there with ⟨rfl, rfl⟩ | ⟨-, old⟩
    · exact frames.fits (before.fits j a found)
    · exact before.fits j b old
  · change ((s.activities.set i a').map Activity.taskToken).Nodup
    rw [map_token_set found frames.token]
    exact before.distinct
  · intro j b there
    rcases getElem?_set_cases there with ⟨rfl, rfl⟩ | ⟨-, old⟩
    · rw [frames.token, frames.phase]
      exact before.running j a found
    · exact before.running j b old

/-- Two activities have the same token only if they are the same. -/
theorem Complete.token_ne (before : Complete s) {i j : Nat} {a b : Activity T V P} (differ : j ≠ i)
    (first : s.activities[i]? = some a) (second : s.activities[j]? = some b) :
    b.taskToken ≠ a.taskToken := by
  intro same
  apply differ
  obtain ⟨insideI, rfl⟩ := List.getElem?_eq_some_iff.mp first
  obtain ⟨insideJ, rfl⟩ := List.getElem?_eq_some_iff.mp second
  have insideJ' : j < (s.activities.map Activity.taskToken).length := by simpa using insideJ
  have insideI' : i < (s.activities.map Activity.taskToken).length := by simpa using insideI
  have injective : (s.activities.map Activity.taskToken)[j] =
      (s.activities.map Activity.taskToken)[i] ↔ j = i := before.distinct.getElem_inj_iff
  apply injective.mp
  rw [List.getElem_map, List.getElem_map]
  exact same

theorem Complete.resume (before : Complete s) {i : Nat} {a : Activity T V P} {answers : Answers P}
    (found : s.activities[i]? = some a) (resumable : State.resumable a)
    (untroubled : Activity.Untroubled answers a) : Complete (s.afterResume cfg i a answers) := by
  have outcome := a.resume_opens cfg answers (before.fits i a found) resumable untroubled
  have token : (a.resume cfg answers).taskToken = a.taskToken := by
    rcases outcome with ⟨-, -, -, same⟩ | ⟨-, opens⟩
    · exact same
    · exact opens.token
  refine ⟨?_, ?_, ?_⟩
  · intro j b there
    rcases getElem?_set_cases there with ⟨rfl, rfl⟩ | ⟨-, old⟩
    · rcases outcome with ⟨-, -, fits, -⟩ | ⟨-, opens⟩
      · exact fits
      · exact opens.fits
    · exact before.fits j b old
  · change ((s.activities.set i _).map Activity.taskToken).Nodup
    rw [map_token_set found token]
    exact before.distinct
  · intro j b there
    rcases outcome with ⟨completing, ended, -, -⟩ | ⟨working, opens⟩
    -- the completion was sent, and only this entry leaves the running activities
    · have removed : State.removes a answers = true := by
        simp [State.removes, completing, untroubled.sent completing]
      simp only [State.afterResume, removed, if_true, Dict.get?_erase]
      rcases getElem?_set_cases there with ⟨rfl, rfl⟩ | ⟨differ, old⟩
      · rw [token, if_pos rfl, ended]
        rfl
      · rw [if_neg (before.token_ne differ found old)]
        exact before.running j b old
    · have kept : State.removes a answers = false := by
        unfold State.removes
        split
        · contradiction
        · rfl
      simp only [State.afterResume, kept, Bool.false_eq_true, if_false]
      rcases getElem?_set_cases there with ⟨rfl, rfl⟩ | ⟨-, old⟩
      · have open_ : a.phase.isFinished = false := by
          unfold State.resumable at resumable
          cases phase : a.phase <;> simp_all [Phase.isFinished]
        rw [token, opens.unfinished, before.running j a found, open_]
      · exact before.running j b old

theorem step_complete {action : Action T V P} (before : Complete s)
    (untroubled : action.untroubled s) (stepped : s.step cfg action = some s') : Complete s' := by
  cases action with
  | start token start =>
    simp only [State.step] at stepped
    split at stepped
    · rename_i fresh
      cases stepped
      -- the token is new: it is not among those of the activities there are
      have absent : ∀ (i : Nat) (a : Activity T V P), s.activities[i]? = some a →
          a.taskToken ≠ token := fun i a found => fresh.2 a (List.mem_of_getElem? found)
      have cases_ : ∀ (i : Nat) (a : Activity T V P),
          (s.activities ++ [{ taskToken := token, start := start }])[i]? = some a →
          s.activities[i]? = some a ∨
            (i = s.activities.length ∧ a = { taskToken := token, start := start }) := by
        intro i a found
        rcases Nat.lt_trichotomy i s.activities.length with inside | rfl | outside
        · rw [List.getElem?_append_left inside] at found
          exact Or.inl found
        · rw [List.getElem?_concat_length] at found
          cases found
          exact Or.inr ⟨rfl, rfl⟩
        · rw [List.getElem?_eq_none (by simp; omega)] at found
          cases found
      refine ⟨?_, ?_, ?_⟩
      · intro i a found
        rcases cases_ i a found with old | ⟨-, rfl⟩
        · exact before.fits i a old
        · rfl
      · rw [List.map_append, List.map_singleton, List.nodup_append]
        refine ⟨before.distinct, List.nodup_singleton _, ?_⟩
        intro other old new fresh' same
        rw [List.mem_singleton.mp fresh'] at same
        obtain ⟨a, member, rfl⟩ := List.mem_map.mp old
        exact fresh.2 a member same
      · intro i a found
        simp only [Dict.get?_set]
        rcases cases_ i a found with old | ⟨rfl, rfl⟩
        · rw [if_neg (absent i a old)]
          exact before.running i a old
        · rw [if_pos rfl]
          rfl
    · cases stepped
  | cancel token =>
    simp only [State.step] at stepped
    split at stepped
    · split at stepped
      · rename_i i a found
        cases stepped
        exact before.frame (State.running?_spec found) (a.cancel_frames true none)
      · cases stepped
        exact before
    · cases stepped
  | resume i answers =>
    simp only [State.step] at stepped
    split at stepped
    · rename_i a found
      split at stepped
      · rename_i resumable
        cases stepped
        exact before.resume found resumable (untroubled a found)
      · cases stepped
    · cases stepped
  | heartbeat token details =>
    simp only [State.step] at stepped
    split at stepped
    · rename_i i a found
      cases stepped
      exact before.frame (State.running?_spec found) (a.heartbeat_frames details)
    · cases stepped
      exact before
  | resumeHeartbeat i k answers =>
    simp only [State.step] at stepped
    split at stepped
    · rename_i a found
      obtain ⟨a', ran, rfl⟩ := Option.map_eq_some_iff.mp stepped
      exact before.frame found (Activity.resumeHeartbeat_frames ran)
    · cases stepped

/-- A task that can go on comes closer to its end. -/
theorem Complete.goes_on (before : Complete s) {i : Nat} {a : Activity T V P}
    (found : s.activities[i]? = some a) (unfinished : a.phase.isFinished = false)
    {answers : Answers P} (untroubled : Activity.Untroubled answers a)
    (resumable : State.resumable a) :
    ∃ s' a', s.step cfg (.resume i answers) = some s' ∧ s'.activities[i]? = some a' ∧
      a'.phase.remaining < a.phase.remaining := by
  have inside : i < s.activities.length := (List.getElem?_eq_some_iff.mp found).1
  refine ⟨s.afterResume cfg i a answers, a.resume cfg answers, ?_,
    List.getElem?_set_self inside, ?_⟩
  · simp only [State.step, found, resumable, if_true]
  · rcases a.resume_opens cfg answers (before.fits i a found) resumable untroubled with
      ⟨completing, ended, -, -⟩ | ⟨-, opens⟩
    · rw [completing, ended]
      exact Nat.zero_lt_one
    · have nearer := opens.nearer
      have : 0 < a.phase.remaining := by
        cases phase : a.phase <;> simp_all [Phase.isFinished, Phase.remaining]
      omega

end Steps

/-! ### Runs -/

/-- One completion for each activity, in every state of a run. -/
theorem one_completion [DecidableEq T] (cfg : Config) {s : State T V P}
    (run : Reaches (State.step cfg) (fun s action => action.untroubled s) (State.initial T V P) s) :
    (s.activities.map Activity.taskToken).Nodup ∧
    ∀ (i : Nat) (a : Activity T V P), s.activities[i]? = some a →
      -- At most one completion, for its own token.
      (∀ completion ∈ a.completions, completion.taskToken = a.taskToken) ∧
      a.completions.length ≤ 1 ∧
      -- The task does not end without it, and the token goes with its end.
      (a.phase.isFinished → a.completions.length = 1) ∧
      (s.runningActivities.get? a.taskToken = if a.phase.isFinished then none else some i) ∧
      -- It can always go on, or the heartbeat task it is waiting for can.
      (a.phase.isFinished = false →
        (State.resumable a → ∀ answers : Answers P, Activity.Untroubled answers a →
          ∃ s' a', s.step cfg (.resume i answers) = some s' ∧ s'.activities[i]? = some a' ∧
            a'.phase.remaining < a.phase.remaining) ∧
        (State.resumable a = false → ∃ k task, a.lastHeartbeatTask = some k ∧
          a.heartbeatTasks[k]? = some task ∧ ∀ answers : HeartbeatAnswers, ∃ s' a' task',
            s.step cfg (.resumeHeartbeat i k answers) = some s' ∧ s'.activities[i]? = some a' ∧
            a'.heartbeatTasks[k]? = some task' ∧ task'.remaining < task.remaining)) := by
  have inv : Complete s := run.invariant Complete initial_complete step_complete
  refine ⟨inv.distinct, fun i a found => ?_⟩
  have inside : i < s.activities.length := (List.getElem?_eq_some_iff.mp found).1
  have fits := inv.fits i a found
  have sent : (a.completions = [] ∧ a.phase.isFinished = false) ∨
      ∃ result, a.completions = [⟨a.taskToken, result⟩] := by
    unfold Activity.Fits at fits
    cases phase : a.phase with
    | completing =>
      rw [phase] at fits
      exact Or.inr fits
    | finished error =>
      rw [phase] at fits
      exact Or.inr fits
    | _ =>
      rw [phase] at fits
      exact Or.inl ⟨fits, rfl⟩
  refine ⟨?_, ?_, ?_, inv.running i a found, ?_⟩
  · intro completion member
    rcases sent with ⟨none, -⟩ | ⟨result, one⟩
    · rw [none] at member
      cases member
    · rw [one] at member
      rw [List.mem_singleton.mp member]
  · rcases sent with ⟨none, -⟩ | ⟨result, one⟩
    · rw [none]
      exact Nat.zero_le 1
    · rw [one]
      exact Nat.le_refl 1
  · intro ended
    rcases sent with ⟨-, unfinished⟩ | ⟨result, one⟩
    · rw [unfinished] at ended
      cases ended
    · rw [one]
      rfl
  · intro unfinished
    refine ⟨fun resumable answers untroubled => ?_, fun waiting => ?_⟩
    · exact inv.goes_on found unfinished untroubled resumable
    · obtain ⟨k, task, last, there, running⟩ := Activity.waits_for_heartbeat unfinished waiting
      refine ⟨k, task, last, there, fun answers => ?_⟩
      obtain ⟨a', task', ran, there', nearer⟩ := a.resumeHeartbeat_goes_on k answers there running
      refine ⟨s.setActivity i a', a', task', ?_, List.getElem?_set_self inside, there', nearer⟩
      simp only [State.step, found, ran, Option.map_some]

/-- A worker with one async activity. -/
def oneActivity : Config where
  activities := [("my_activity", { isAsync := true })]
  dynamicActivity := none

def noFailure : Answers Unit where
  setUp := .ok ()
  decode := .ok ()
  prepare := .ok ()
  executeActivity := .ok ()
  encodeResult := .ok ()
  encodeFailure := .ok ()
  completeActivityTask := .ok ()

/-- `my_activity`, without arguments and heartbeat details. -/
def myActivity : Start where
  activityType := "my_activity"
  workflowId := "workflow"
  hasInput := false
  hasHeartbeatDetails := false

def activityError : PyError := { isException := true, text := some "Intentional error" }

/-- `asyncio.CancelledError`. -/
def cancelledError : PyError := { isException := false, text := some "", kind := .cancelled }

/-- Nothing goes wrong in the step that a cancel is not the reason for, apart from
    what the activity itself raises. -/
def Action.cancelsOnly {T V : Type} (s : State T V Unit) : Action T V Unit → Prop
  | .resume i answers => ∀ a, s.activities[i]? = some a →
      ∃ outcome, answers = { noFailure with executeActivity := outcome } ∨
        (a.cancelling = true ∧ answers = { noFailure with encodeFailure := .error cancelledError })
  | _ => True

theorem untroubled_noFailure {s : State T V Unit} {i : Nat} {outcome : Except PyError Unit}
    (silent : ∀ a ∈ s.activities, a.cancelledDueToHeartbeatError = none) :
    Action.untroubled s (.resume i { noFailure with executeActivity := outcome }) := by
  intro a found
  refine ⟨?_, ?_, ?_⟩
  · intro _ error failed
    rw [silent a (List.mem_of_getElem? found)] at failed
    cases failed
  · intro error handling _ inner failed
    cases failed
  · intro _
    rfl

/-- A cancel that arrives while the activity is running: the activity is
    completed as cancelled, once. -/
theorem one_completion_cancelled : ∃ (s : State String Unit Unit) (a : Activity String Unit Unit),
    Reaches (State.step oneActivity) (fun s action => action.untroubled s)
      (State.initial String Unit Unit) s ∧
    s.activities[0]? = some a ∧ a.completions.length = 1 ∧
    s.runningActivities.get? a.taskToken = none := by
  have silent : ∀ {s : State String Unit Unit} (a : Activity String Unit Unit),
      s.activities = [a] → a.cancelledDueToHeartbeatError = none →
      ∀ a ∈ s.activities, a.cancelledDueToHeartbeatError = none := by
    intro s a one none b member
    rw [one] at member
    rw [List.mem_singleton.mp member]
    exact none
  have initial : Reaches (State.step oneActivity) (fun s action => action.untroubled s)
      (State.initial String Unit Unit) (State.initial String Unit Unit) := Reaches.init
  have started := initial.step (.start "token" myActivity) trivial rfl
  have executing := started.step (.resume 0 noFailure)
    (untroubled_noFailure (silent _ rfl rfl)) rfl
  have cancelling := executing.step (.cancel "token") trivial rfl
  have raised := cancelling.step
    (.resume 0 { noFailure with executeActivity := .error cancelledError })
    (untroubled_noFailure (silent _ rfl rfl)) rfl
  have completing := raised.step (.resume 0 noFailure)
    (untroubled_noFailure (silent _ rfl rfl)) rfl
  have ended := completing.step (.resume 0 noFailure)
    (untroubled_noFailure (silent _ rfl rfl)) rfl
  obtain ⟨-, -, one, removed, -⟩ := (one_completion oneActivity ended).2 0 _ rfl
  exact ⟨_, _, ended, rfl, one rfl, removed⟩

/-- A cancel that arrives while the failure of the activity is being encoded:
    there is no completion, and the token stays. -/
theorem cancel_loses_completion : ∃ (s : State String Unit Unit) (a : Activity String Unit Unit),
    Reaches (State.step oneActivity) (fun s action => action.cancelsOnly s)
      (State.initial String Unit Unit) s ∧
    s.activities[0]? = some a ∧ a.phase = .finished (some cancelledError) ∧
    a.completions = [] ∧ s.runningActivities.get? a.taskToken = some 0 := by
  have initial : Reaches (State.step oneActivity) (fun s action => action.cancelsOnly s)
      (State.initial String Unit Unit) (State.initial String Unit Unit) := Reaches.init
  have started := initial.step (.start "token" myActivity) trivial rfl
  have executing := started.step (.resume 0 noFailure)
    (fun a found => ⟨.ok (), Or.inl rfl⟩) rfl
  have failed := executing.step
    (.resume 0 { noFailure with executeActivity := .error activityError })
    (fun a found => ⟨_, Or.inl rfl⟩) rfl
  have cancelling := failed.step (.cancel "token") trivial rfl
  have lost := cancelling.step
    (.resume 0 { noFailure with encodeFailure := .error cancelledError })
    (fun a found => ⟨.ok (), Or.inr ⟨by cases found; rfl, rfl⟩⟩) rfl
  exact ⟨_, _, lost, rfl, rfl, rfl, rfl⟩

end TemporalSdk.ActivityWorker
