import TemporalSdk.Worker.ActivityWorker

/-!
# What a step of the worker does to one activity

`_RunningActivity.cancel` is called from two places: for a cancel task of core
and for a heartbeat that failed. `State.cancellation` tells which activity an
action cancels and for what reason, and `step_activity` sorts the steps: the
activity's own task runs on, the activity is cancelled, or what cancellation is
about stays as it is.
-/
namespace TemporalSdk.ActivityWorker

open Worker (PyError)

variable {T V P : Type}

/-- What recording a heartbeat raises. -/
def HeartbeatAnswers.recordError (answers : HeartbeatAnswers) : Option PyError :=
  match answers.recordActivityHeartbeat with
  | .ok () => none
  | .error error => some error

namespace Activity

/-- The exception that a heartbeat task runs into in this step. -/
def heartbeatError (a : Activity T V P) (k : Nat) (answers : HeartbeatAnswers) : Option PyError :=
  match a.heartbeatTasks[k]? with
  | some .scheduled =>
    match a.pendingHeartbeats.getLast? with
    | none => none
    | some heartbeat => if heartbeat.details.isEmpty then answers.recordError else none
  | some (.encoding _) =>
    match answers.encode with
    | .ok () => answers.recordError
    | .error error => some error
  | some .finished | none => none

/-- The heartbeat error that the step cancels the activity for. -/
def cancellingError (a : Activity T V P) (k : Nat) (answers : HeartbeatAnswers) : Option PyError :=
  (a.heartbeatError k answers).filter fun error => error.isException && !a.done

/-- `a'` differs from `a` in what cancellation is not about. -/
structure Stays (a a' : Activity T V P) : Prop where
  phase : a'.phase = a.phase
  done : a'.done = a.done
  sync : a'.sync = a.sync
  start : a'.start = a.start
  byRequest : a'.cancelledByRequest = a.cancelledByRequest
  heartbeatError : a'.cancelledDueToHeartbeatError = a.cancelledDueToHeartbeatError

theorem Stays.refl (a : Activity T V P) : Stays a a := ⟨rfl, rfl, rfl, rfl, rfl, rfl⟩

/-- `a'` is `a`, cancelled by request or for a heartbeat error. -/
structure Cancelled (a : Activity T V P) (reason : Option PyError) (a' : Activity T V P) : Prop where
  phase : a'.phase = a.phase
  done : a'.done = a.done
  sync : a'.sync = a.sync
  start : a'.start = a.start
  byRequest : a'.cancelledByRequest = reason.isNone
  heartbeatError : a'.cancelledDueToHeartbeatError = reason

theorem heartbeat_stays (a : Activity T V P) (details : List V) : Stays a (a.heartbeat details) := by
  unfold heartbeat
  split
  · exact .refl a
  · dsimp only
    split
    · exact ⟨rfl, rfl, rfl, rfl, rfl, rfl⟩
    · exact ⟨rfl, rfl, rfl, rfl, rfl, rfl⟩

/-! ### Heartbeat tasks -/

/-- The activity after a heartbeat task has run into `error`, if it has. -/
def Ends (a : Activity T V P) (error : Option PyError) (a' : Activity T V P) : Prop :=
  match error.filter fun error => error.isException && !a.done with
  | some error => Cancelled a (some error) a'
  | none => Stays a a'

theorem Ends.of_stays {a b a' : Activity T V P} {error : Option PyError} (stays : Stays a b)
    (ends : Ends b error a') : Ends a error a' := by
  unfold Ends at ends ⊢
  rw [stays.done] at ends
  split at ends
  next => exact ⟨ends.phase.trans stays.phase, ends.done.trans stays.done, ends.sync.trans stays.sync,
      ends.start.trans stays.start, ends.byRequest, ends.heartbeatError⟩
  next => exact ⟨ends.phase.trans stays.phase, ends.done.trans stays.done, ends.sync.trans stays.sync,
      ends.start.trans stays.start, ends.byRequest.trans stays.byRequest,
      ends.heartbeatError.trans stays.heartbeatError⟩

theorem heartbeatFailed_ends (a : Activity T V P) (k : Nat) (error : PyError) :
    Ends a (some error) (a.heartbeatFailed k error) := by
  unfold Ends heartbeatFailed
  cases cancels : error.isException && !a.done with
  | true =>
    have still : (error.isException && !(a.setHeartbeatTask k .finished).done) = true := cancels
    simp only [Option.filter, cancels, still, if_true]
    exact ⟨rfl, rfl, rfl, rfl, rfl, rfl⟩
  | false =>
    have still : (error.isException && !(a.setHeartbeatTask k .finished).done) = false := cancels
    simp only [Option.filter, cancels, still, Bool.false_eq_true, if_false]
    exact ⟨rfl, rfl, rfl, rfl, rfl, rfl⟩

theorem record_ends (a : Activity T V P) (k : Nat) (answers : HeartbeatAnswers) (h : Heartbeat V) :
    Ends a answers.recordError (a.record k answers h) := by
  unfold record HeartbeatAnswers.recordError
  dsimp only
  cases answers.recordActivityHeartbeat with
  | ok result => exact ⟨rfl, rfl, rfl, rfl, rfl, rfl⟩
  | error error =>
    refine .of_stays ?_ (heartbeatFailed_ends
      { a with calls := a.calls ++ [.recordActivityHeartbeat a.taskToken h] } k error)
    exact ⟨rfl, rfl, rfl, rfl, rfl, rfl⟩

theorem resumeHeartbeat_ends {a a' : Activity T V P} {k : Nat} {answers : HeartbeatAnswers}
    (stepped : a.resumeHeartbeat k answers = some a') : Ends a (a.heartbeatError k answers) a' := by
  unfold resumeHeartbeat at stepped
  unfold heartbeatError
  cases task : a.heartbeatTasks[k]? with
  | none =>
    rw [task] at stepped
    cases stepped
  | some task' =>
    rw [task] at stepped
    cases task' with
    | scheduled =>
      cases last : a.pendingHeartbeats.getLast? with
      | none =>
        simp only [last] at stepped
        cases stepped
        exact ⟨rfl, rfl, rfl, rfl, rfl, rfl⟩
      | some h =>
        simp only [last] at stepped
        dsimp only
        split at stepped
        next bare =>
          cases stepped
          rw [if_pos bare]
          refine .of_stays ?_ (record_ends { a with pendingHeartbeats := [] } k answers h)
          exact ⟨rfl, rfl, rfl, rfl, rfl, rfl⟩
        next detailed =>
          cases stepped
          rw [if_neg detailed]
          exact ⟨rfl, rfl, rfl, rfl, rfl, rfl⟩
    | encoding h =>
      cases encoded : answers.encode with
      | ok =>
        simp only [encoded] at stepped
        cases stepped
        exact record_ends a k answers h
      | error error =>
        simp only [encoded] at stepped
        cases stepped
        refine .of_stays ?_ (heartbeatFailed_ends
          { a with unencoded := a.unencoded ++ [h] } k error)
        exact ⟨rfl, rfl, rfl, rfl, rfl, rfl⟩
    | finished => cases stepped

/-! ### The activity's own task -/

/-- The reasons to cancel the activity that are known. -/
def reasons (a : Activity T V P) : Bool × Option PyError :=
  (a.cancelledByRequest, a.cancelledDueToHeartbeatError)

/-- The task runs on from `a` to `a'`: past its start, with the same reasons. -/
structure RunsOn (a a' : Activity T V P) : Prop where
  reasons : a'.reasons = a.reasons
  start : a'.start = a.start
  started : ∀ phase, a'.phase = phase → phase ≠ .scheduled

theorem finalize_runsOn (a : Activity T V P) (result : Result P) : RunsOn a (a.finalize result) := by
  unfold finalize
  split
  · exact ⟨rfl, rfl, by rintro _ rfl; simp⟩
  · exact ⟨rfl, rfl, by rintro _ rfl; simp [complete]⟩

theorem runsOn_phase (a : Activity T V P) {phase : Phase P} (started : phase ≠ .scheduled) :
    RunsOn a { a with phase := phase } :=
  ⟨rfl, rfl, by rintro _ rfl; exact started⟩

theorem handleError_runsOn (a : Activity T V P) (error : PyError) :
    RunsOn a (a.handleError error) := by
  unfold handleError
  split
  · exact a.finalize_runsOn _
  · split
    · exact a.runsOn_phase (by simp)
    · exact a.runsOn_phase (by simp)
  · exact a.runsOn_phase (by simp)
  · exact a.runsOn_phase (by simp)

theorem failureEncoded_runsOn (a : Activity T V P) (answers : Answers P) (error : PyError)
    (handling : Handling) : RunsOn a (a.failureEncoded answers error handling) := by
  unfold failureEncoded
  split
  · exact a.finalize_runsOn _
  · split
    · split
      · exact a.finalize_runsOn _
      · exact a.runsOn_phase (by simp)
    · exact a.runsOn_phase (by simp)

theorem execute_runsOn (a : Activity T V P) (answers : Answers P) :
    RunsOn a (a.execute answers) := by
  unfold execute
  split
  · exact a.runsOn_phase (by simp)
  · exact a.handleError_runsOn _

theorem decodeHeartbeatDetails_runsOn (a : Activity T V P) (answers : Answers P) :
    RunsOn a (a.decodeHeartbeatDetails answers) := by
  unfold decodeHeartbeatDetails
  split
  · exact a.runsOn_phase (by simp)
  · exact a.execute_runsOn answers

/-- What a change to other fields makes no difference to. -/
theorem RunsOn.of_eq {a b a' : Activity T V P} (runsOn : RunsOn b a')
    (reasons : b.reasons = a.reasons) (start : b.start = a.start) : RunsOn a a' :=
  ⟨runsOn.reasons.trans reasons, runsOn.start.trans start, runsOn.started⟩

theorem begin_runsOn (a : Activity T V P) (cfg : Config) (answers : Answers P) :
    RunsOn a (a.begin cfg answers) := by
  unfold begin
  split
  · exact a.handleError_runsOn _
  next activityDef _ =>
    let called : Activity T V P := { a with sync := !activityDef.isAsync }
    let setUp : Activity T V P := { called with cancelledEvent := some false }
    split
    next error _ => exact (called.handleError_runsOn error).of_eq rfl rfl
    · dsimp only
      split
      · exact ⟨rfl, rfl, by rintro _ rfl; simp⟩
      · exact (setUp.decodeHeartbeatDetails_runsOn answers).of_eq rfl rfl

theorem resume_runsOn (a : Activity T V P) (cfg : Config) (answers : Answers P) :
    RunsOn a (a.resume cfg answers) := by
  let a₀ : Activity T V P := { a with cancelling := false }
  have same : RunsOn a₀ (a.resume cfg answers) := by
    unfold resume
    dsimp only
    split
    · exact a₀.begin_runsOn cfg answers
    · split
      · exact a₀.decodeHeartbeatDetails_runsOn answers
      · exact a₀.handleError_runsOn _
    · split
      · exact a₀.execute_runsOn answers
      · exact a₀.handleError_runsOn _
    · split
      · exact a₀.runsOn_phase (by simp)
      · exact a₀.handleError_runsOn _
    · split
      · exact a₀.finalize_runsOn _
      · exact a₀.handleError_runsOn _
    · exact a₀.failureEncoded_runsOn answers _ _
    · exact ⟨rfl, rfl, by rintro _ rfl; simp [complete]⟩
    · split
      · exact a₀.runsOn_phase (by simp)
      · exact a₀.runsOn_phase (by simp)
    next error ended => exact ⟨rfl, rfl, by rintro _ rfl; simp [ended]⟩
  exact same.of_eq rfl rfl

end Activity

/-! ### Steps of the worker -/

namespace State

variable [DecidableEq T] {cfg : Config} {s s' : State T V P} {action : Action T V P}

/-- The activity that the action calls `cancel` of, with the heartbeat error if
    that is the reason. -/
def cancellation (s : State T V P) : Action T V P → Option (Nat × Option PyError)
  | .cancel taskToken => (s.running? taskToken).map fun (i, _) => (i, none)
  | .resumeHeartbeat i k answers => do
    let a ← s.activities[i]?
    let error ← a.cancellingError k answers
    return (i, some error)
  | .start _ _ | .resume _ _ | .heartbeat _ _ => none

/-- What a step does to an activity. -/
inductive Does (cfg : Config) (s : State T V P) (action : Action T V P) (i : Nat)
    (a a' : Activity T V P) : Prop
  | resume (answers : Answers P) (own : action = .resume i answers)
      (resumable : State.resumable a = true) (same : a' = a.resume cfg answers)
  | cancel (reason : Option PyError) (cancels : s.cancellation action = some (i, reason))
      (cancelled : a.Cancelled reason a')
  | other (spared : ∀ reason, s.cancellation action ≠ some (i, reason))
      (foreign : ∀ answers, action ≠ .resume i answers) (stays : a.Stays a')

/-- An activity that a token leads to. -/
theorem running?_spec {token : T} {i : Nat} {a : Activity T V P}
    (found : s.running? token = some (i, a)) : s.activities[i]? = some a := by
  unfold running? at found
  obtain ⟨j, -, found⟩ := Option.bind_eq_some_iff.mp found
  obtain ⟨b, there, found⟩ := Option.bind_eq_some_iff.mp found
  cases found
  exact there

/-- A step replaces at most one activity. -/
theorem set_does {i j : Nat} {a b new : Activity T V P} (there : s.activities[i]? = some a)
    (at_j : s.activities[j]? = some b) (own : j = i → s.Does cfg action i a new)
    (others : j ≠ i → ∀ reason, s.cancellation action ≠ some (j, reason))
    (foreign : j ≠ i → ∀ answers, action ≠ .resume j answers) :
    ∃ b', (s.setActivity i new).activities[j]? = some b' ∧ s.Does cfg action j b b' := by
  have inside : i < s.activities.length := (List.getElem?_eq_some_iff.mp there).1
  by_cases same : j = i
  · subst same
    rw [there] at at_j
    cases at_j
    exact ⟨new, List.getElem?_set_self inside, own rfl⟩
  · refine ⟨b, ?_, .other (others same) (foreign same) (.refl b)⟩
    exact (List.getElem?_set_ne (Ne.symm same)).trans at_j

theorem step_activity (stepped : s.step cfg action = some s') {i : Nat} {a : Activity T V P}
    (there : s.activities[i]? = some a) :
    ∃ a', s'.activities[i]? = some a' ∧ s.Does cfg action i a a' := by
  cases action with
  | start token start =>
    simp only [step] at stepped
    split at stepped
    · cases stepped
      have inside : i < s.activities.length := (List.getElem?_eq_some_iff.mp there).1
      refine ⟨a, (List.getElem?_append_left inside).trans there, .other ?_ (by simp) (.refl a)⟩
      exact fun reason cancels => by cases cancels
    · cases stepped
  | cancel token =>
    simp only [step] at stepped
    split at stepped
    · split at stepped
      next j b found =>
        cases stepped
        have cancels : s.cancellation (.cancel token) = some (j, none) := by
          simp only [cancellation, found, Option.map_some]
        refine set_does (running?_spec found) there ?_ ?_ (by simp)
        · exact fun _ => .cancel none cancels ⟨rfl, rfl, rfl, rfl, rfl, rfl⟩
        · intro differs reason same
          rw [cancels] at same
          cases same
          exact differs rfl
      next found =>
        cases stepped
        refine ⟨a, there, .other ?_ (by simp) (.refl a)⟩
        intro reason cancels
        simp only [cancellation, found, Option.map_none] at cancels
        cases cancels
    · cases stepped
  | resume j answers =>
    simp only [step] at stepped
    split at stepped
    next b found =>
      split at stepped
      next resumable =>
        cases stepped
        have none (i : Nat) (reason : Option PyError) :
            s.cancellation (.resume j answers) ≠ some (i, reason) := fun cancels => by cases cancels
        refine set_does found there (fun _ => .resume answers rfl resumable rfl) (fun _ => none i) ?_
        rintro differs _ same
        cases same
        exact differs rfl
      next => cases stepped
    next => cases stepped
  | heartbeat token details =>
    have none (i : Nat) (reason : Option PyError) :
        s.cancellation (.heartbeat token details) ≠ some (i, reason) := fun cancels => by cases cancels
    simp only [step] at stepped
    split at stepped
    next j b found =>
      cases stepped
      exact set_does (running?_spec found) there
        (fun _ => .other (none j) (by simp) (b.heartbeat_stays details)) (fun _ => none i) (by simp)
    next =>
      cases stepped
      exact ⟨a, there, .other (none i) (by simp) (.refl a)⟩
  | resumeHeartbeat j k answers =>
    simp only [step] at stepped
    split at stepped
    next b found =>
      obtain ⟨b', ran, rfl⟩ := Option.map_eq_some_iff.mp stepped
      have ends := b.resumeHeartbeat_ends ran
      have reads : s.cancellation (.resumeHeartbeat j k answers) =
          (b.cancellingError k answers).map fun error => (j, some error) := by
        simp only [cancellation, found, Option.bind_eq_bind, Option.bind_some]
        cases b.cancellingError k answers <;> rfl
      refine set_does found there (fun _ => ?_) ?_ (by simp)
      · unfold Activity.Ends at ends
        split at ends
        next error cancels =>
          refine .cancel (some error) ?_ ends
          rw [reads, Activity.cancellingError, cancels]
          rfl
        next cancels =>
          refine .other (fun reason same => ?_) (by simp) ends
          rw [reads, Activity.cancellingError, cancels] at same
          cases same
      · intro differs reason same
        rw [reads] at same
        obtain ⟨error, -, same⟩ := Option.map_eq_some_iff.mp same
        cases same
        exact differs rfl
    next => cases stepped

/-- Activities stay. -/
theorem step_length (stepped : s.step cfg action = some s') :
    s.activities.length ≤ s'.activities.length := by
  by_contra fewer
  obtain ⟨a', there, -⟩ :=
    step_activity stepped (List.getElem?_eq_getElem (Nat.lt_of_not_le fewer))
  rw [List.getElem?_eq_none (Nat.le_refl _)] at there
  cases there

/-- A new activity has just been started. -/
theorem step_new (stepped : s.step cfg action = some s') {i : Nat} {a : Activity T V P}
    (there : s'.activities[i]? = some a) (new : s.activities.length ≤ i) :
    ∃ token start, action = .start token start ∧ i = s.activities.length ∧
      a = { taskToken := token, start := start } := by
  have absurd_of_length (same : s'.activities.length = s.activities.length) : False := by
    have inside := (List.getElem?_eq_some_iff.mp there).1
    omega
  have set (j : Nat) (b : Activity T V P) :
      (s.setActivity j b).activities.length = s.activities.length := List.length_set
  cases action with
  | start token start =>
    simp only [step] at stepped
    split at stepped
    · cases stepped
      have inside := (List.getElem?_eq_some_iff.mp there).1
      rw [List.length_append, List.length_singleton] at inside
      obtain rfl : i = s.activities.length := by omega
      rw [List.getElem?_concat_length] at there
      cases there
      exact ⟨token, start, rfl, rfl, rfl⟩
    · cases stepped
  | cancel token =>
    simp only [step] at stepped
    split at stepped
    · split at stepped
      · cases stepped
        exact (absurd_of_length (set _ _)).elim
      · cases stepped
        exact (absurd_of_length rfl).elim
    · cases stepped
  | resume j answers =>
    simp only [step] at stepped
    split at stepped
    · split at stepped
      · cases stepped
        exact (absurd_of_length List.length_set).elim
      · cases stepped
    · cases stepped
  | heartbeat token details =>
    simp only [step] at stepped
    split at stepped
    · cases stepped
      exact (absurd_of_length (set _ _)).elim
    · cases stepped
      exact (absurd_of_length rfl).elim
  | resumeHeartbeat j k answers =>
    simp only [step] at stepped
    split at stepped
    · obtain ⟨b, -, rfl⟩ := Option.map_eq_some_iff.mp stepped
      exact (absurd_of_length (set _ _)).elim
    · cases stepped

theorem cancellation_there {i : Nat} {reason : Option PyError}
    (cancels : s.cancellation action = some (i, reason)) : ∃ a, s.activities[i]? = some a := by
  cases action with
  | cancel token =>
    obtain ⟨⟨j, a⟩, found, same⟩ := Option.map_eq_some_iff.mp cancels
    cases same
    exact ⟨a, running?_spec found⟩
  | resumeHeartbeat j k answers =>
    obtain ⟨a, there, cancels⟩ := Option.bind_eq_some_iff.mp cancels
    obtain ⟨error, -, same⟩ := Option.bind_eq_some_iff.mp cancels
    cases same
    exact ⟨a, there⟩
  | start | resume | heartbeat => cases cancels

end State

end TemporalSdk.ActivityWorker
