import TemporalSdk.Properties.ActivityCompletion

/-!
# Reasons to cancel an activity

## Main result

`reasons_accumulate`: as long as no activity is cancelled for one reason after it
has been cancelled for the other, the reasons that have arrived stay known and
decide what a cancelled activity is completed as: the heartbeat error if there
was one, else cancelled if that was requested, else failed.

`cancel` assigns both reasons, the one it is not called for with its default, so
a second reason makes the first one forgotten: `later_reason_forgets`.

## Proof strategy

The run is logged: `loggedStep` keeps the list of the calls of `cancel` made so
far. By `step_activity` a step either leaves the reasons of an activity alone or
is the one call that is added to the log.
-/

namespace TemporalSdk.ActivityWorker

open Worker (PyError ErrorKind)

variable {T V P : Type}

/-- What the reasons in `a` say is still said in `a'`. -/
structure Activity.KeepsReasons (a a' : Activity T V P) : Prop where
  byRequest : a.cancelledByRequest = true → a'.cancelledByRequest = true
  heartbeatError : a.cancelledDueToHeartbeatError.isSome →
    a'.cancelledDueToHeartbeatError.isSome

/-- The activity has not been cancelled for the other reason. -/
def Activity.Admits (a : Activity T V P) : Option PyError → Prop
  | none => a.cancelledDueToHeartbeatError = none
  | some _ => a.cancelledByRequest = false

/-- One call of `cancel`. -/
theorem Activity.Cancelled.keeps_iff {a a' : Activity T V P} {reason : Option PyError}
    (cancelled : a.Cancelled reason a') : a.KeepsReasons a' ↔ a.Admits reason := by
  have byRequest := cancelled.byRequest
  have heartbeatError := cancelled.heartbeatError
  cases reason with
  | none =>
    constructor
    · intro keeps
      by_contra known
      have still := keeps.heartbeatError (Option.isSome_iff_ne_none.mpr known)
      rw [heartbeatError] at still
      cases still
    · intro unknown
      refine ⟨fun _ => byRequest, fun known => ?_⟩
      rw [unknown] at known
      cases known
  | some error =>
    constructor
    · intro keeps
      by_contra known
      have still := keeps.byRequest (Bool.not_eq_false _ ▸ known)
      rw [byRequest] at still
      cases still
    · intro unknown
      refine ⟨fun known => ?_, fun _ => by rw [heartbeatError]; rfl⟩
      rw [unknown] at known
      cases known

/-! ### The log of one activity -/

/-- The reasons of activity `i` are those in the log. -/
structure Logged (log : List (Nat × Option PyError)) (i : Nat) (a : Activity T V P) : Prop where
  byRequest : a.cancelledByRequest = true ↔ (i, none) ∈ log
  heartbeatError : ∀ error, a.cancelledDueToHeartbeatError = some error → (i, some error) ∈ log
  known : ∀ error, (i, some error) ∈ log → a.cancelledDueToHeartbeatError.isSome

variable {log : List (Nat × Option PyError)}

/-- Steps of other activities do not show. -/
theorem Logged.append_other {i : Nat} {a : Activity T V P} {entry : Option (Nat × Option PyError)}
    (logged : Logged log i a) (other : ∀ reason, entry ≠ some (i, reason)) :
    Logged (log ++ entry.toList) i a := by
  have same (reason : Option PyError) : (i, reason) ∈ log ++ entry.toList ↔ (i, reason) ∈ log := by
    rw [List.mem_append, Option.mem_toList]
    constructor
    · rintro (old | new)
      · exact old
      · exact absurd new (other reason)
    · exact Or.inl
  refine ⟨logged.byRequest.trans (same none).symm, ?_, ?_⟩
  · exact fun error known => (same _).mpr (logged.heartbeatError error known)
  · exact fun error member => logged.known error ((same _).mp member)

theorem Logged.of_reasons {i : Nat} {a a' : Activity T V P} (logged : Logged log i a)
    (same : a'.reasons = a.reasons) : Logged log i a' := by
  obtain ⟨byRequest, heartbeatError⟩ := Prod.mk.inj same
  refine ⟨?_, ?_, ?_⟩
  · rw [byRequest]
    exact logged.byRequest
  · rw [heartbeatError]
    exact logged.heartbeatError
  · rw [heartbeatError]
    exact logged.known

/-- A call of `cancel` for a reason that makes none forgotten. -/
theorem Logged.cancelled {i : Nat} {a a' : Activity T V P} {reason : Option PyError}
    (logged : Logged log i a) (admits : a.Admits reason) (cancelled : a.Cancelled reason a') :
    Logged (log ++ [(i, reason)]) i a' := by
  have byRequest := cancelled.byRequest
  have heartbeatError := cancelled.heartbeatError
  cases reason with
  | none =>
    refine ⟨iff_of_true byRequest (by simp), ?_, ?_⟩
    · intro error known
      rw [heartbeatError] at known
      cases known
    · intro error member
      -- an older reason in the log would be known, but the request is admitted only without one
      have unknown : a.cancelledDueToHeartbeatError = none := admits
      have old : (i, some error) ∈ log := by simpa using member
      have known := logged.known error old
      rw [unknown] at known
      cases known
  | some error =>
    refine ⟨iff_of_false (by rw [byRequest]; simp) ?_, ?_, ?_⟩
    · intro member
      have old : (i, none) ∈ log := by simpa using member
      -- the other way round: a request before would have been recorded
      have known := logged.byRequest.mpr old
      rw [show a.cancelledByRequest = false from admits] at known
      cases known
    · intro error' known
      rw [heartbeatError] at known
      cases known
      simp
    · intro _ _
      rw [heartbeatError]
      rfl

/-- What an activity is completed as when it ends with a `CancelledError`, by the
    reasons that have arrived, in whatever order. -/
structure Reports (log : List (Nat × Option PyError)) (i : Nat) (error : PyError)
    (phase : Phase P) : Prop where
  heartbeatError : (∃ reason, (i, some reason) ∈ log) → ∃ reason, (i, some reason) ∈ log ∧
    (reason.text.isSome → phase = .encodingFailure reason .heartbeatError)
  cancelled : (∀ reason, (i, some reason) ∉ log) → (i, none) ∈ log →
    phase = .encodingFailure error .cancelled
  failed : (∀ reason, (i, reason) ∉ log) → phase = .encodingFailure error .failed

theorem Logged.reports {i : Nat} {a : Activity T V P}
    (logged : Logged log i a) (error : PyError) (isCancelled : error.kind = .cancelled) :
    Reports log i error (a.handleError error).phase := by
  unfold Activity.handleError
  rw [isCancelled]
  constructor
  · rintro ⟨reason, member⟩
    obtain ⟨known, isKnown⟩ := Option.isSome_iff_exists.mp (logged.known reason member)
    refine ⟨known, logged.heartbeatError known isKnown, fun printable => ?_⟩
    obtain ⟨text, hasText⟩ := Option.isSome_iff_exists.mp printable
    simp only [isKnown, hasText]
  · intro none requested
    have unknown : a.cancelledDueToHeartbeatError = Option.none :=
      Option.eq_none_iff_forall_ne_some.mpr fun known isKnown =>
        none known (logged.heartbeatError known isKnown)
    simp only [unknown, logged.byRequest.mpr requested]
  · intro none
    have unknown : a.cancelledDueToHeartbeatError = Option.none :=
      Option.eq_none_iff_forall_ne_some.mpr fun known isKnown =>
        none (some known) (logged.heartbeatError known isKnown)
    have unrequested : a.cancelledByRequest = false :=
      Bool.eq_false_iff.mpr fun known => none Option.none (logged.byRequest.mp known)
    simp only [unknown, unrequested]

namespace State

variable [DecidableEq T] {cfg : Config} {s s' : State T V P} {action : Action T V P}

def KeepsReasons (s s' : State T V P) : Prop :=
  ∀ (i : Nat) (a a' : Activity T V P), s.activities[i]? = some a → s'.activities[i]? = some a' →
    a.KeepsReasons a'

/-- The action cancels no activity that has been cancelled for the other reason. -/
def AddsReason (s : State T V P) (action : Action T V P) : Prop :=
  ∀ (i : Nat) (reason : Option PyError) (a : Activity T V P),
    s.cancellation action = some (i, reason) → s.activities[i]? = some a → a.Admits reason

theorem Does.keeps {i : Nat} {a a' : Activity T V P} (does : s.Does cfg action i a a')
    (adds : s.AddsReason action) (there : s.activities[i]? = some a) : a.KeepsReasons a' := by
  cases does with
  | resume answers own resumable same =>
    obtain ⟨byRequest, heartbeatError⟩ := Prod.mk.inj (a.resume_runsOn cfg answers).reasons
    subst same
    exact ⟨fun known => byRequest.trans known, fun known => by rw [heartbeatError]; exact known⟩
  | cancel reason cancels cancelled =>
    exact cancelled.keeps_iff.mpr (adds i reason a cancels there)
  | other spared foreign stays =>
    exact ⟨fun known => stays.byRequest.trans known, fun known => by rw [stays.heartbeatError]; exact known⟩

/-- A step keeps all reasons exactly if it does not cancel for a second one. -/
theorem step_keeps_iff (stepped : s.step cfg action = some s') :
    s.KeepsReasons s' ↔ s.AddsReason action := by
  constructor
  · intro keeps i reason a cancels there
    obtain ⟨a', there', does⟩ := step_activity stepped there
    cases does with
    | resume answers own resumable same =>
      subst own
      cases cancels
    | cancel reason' cancels' cancelled =>
      rw [cancels] at cancels'
      cases cancels'
      exact cancelled.keeps_iff.mp (keeps i a a' there there')
    | other spared foreign stays => exact absurd cancels (spared reason)
  · intro adds i a a' there there'
    obtain ⟨b, thereb, does⟩ := step_activity stepped there
    rw [there'] at thereb
    cases thereb
    exact does.keeps adds there

/-! ### Runs -/

/-- The worker and the calls of `cancel` so far: the activity, and the heartbeat
    error if that is the reason. -/
def loggedStep (cfg : Config) (s : State T V P × List (Nat × Option PyError))
    (action : Action T V P) : Option (State T V P × List (Nat × Option PyError)) :=
  (s.1.step cfg action).map fun s' => (s', s.2 ++ (s.1.cancellation action).toList)

/-- The log is about the activities there are, and says what they know. -/
structure Log (s : State T V P) (log : List (Nat × Option PyError)) : Prop where
  there : ∀ i reason, (i, reason) ∈ log → i < s.activities.length
  logged : ∀ (i : Nat) (a : Activity T V P), s.activities[i]? = some a → Logged log i a

theorem step_log (before : Log s log) (adds : s.AddsReason action)
    (stepped : s.step cfg action = some s') : Log s' (log ++ (s.cancellation action).toList) := by
  have kept (i : Nat) (a' : Activity T V P) (inside : i < s.activities.length)
      (there' : s'.activities[i]? = some a') :
      Logged (log ++ (s.cancellation action).toList) i a' := by
    have there := List.getElem?_eq_getElem inside
    obtain ⟨b, thereb, does⟩ := step_activity stepped there
    rw [there'] at thereb
    cases thereb
    have logged := before.logged i _ there
    -- what the step does to this activity: it resumes it, cancels it, or is about another
    cases does with
    | resume answers own resumable same =>
      subst own same
      exact (logged.of_reasons (Activity.resume_runsOn _ cfg answers).reasons).append_other
        fun _ cancels => by cases cancels
    | cancel reason cancels cancelled =>
      rw [cancels]
      exact logged.cancelled (adds i reason _ cancels there) cancelled
    | other spared foreign stays =>
      have same : a'.reasons = s.activities[i].reasons :=
        Prod.ext stays.byRequest stays.heartbeatError
      exact (logged.of_reasons same).append_other spared
  constructor
  · intro i reason member
    have longer := step_length stepped
    rcases List.mem_append.mp member with old | new
    · exact Nat.lt_of_lt_of_le (before.there i reason old) longer
    · obtain ⟨a, there⟩ := cancellation_there (Option.mem_toList.mp new)
      exact Nat.lt_of_lt_of_le (List.getElem?_eq_some_iff.mp there).1 longer
  · intro i a' there'
    by_cases inside : i < s.activities.length
    · exact kept i a' inside there'
    · -- nobody has cancelled an activity that has just been started
      obtain ⟨token, start, rfl, rfl, rfl⟩ := step_new stepped there' (Nat.le_of_not_lt inside)
      have absent (reason : Option PyError) : (s.activities.length, reason) ∉ log :=
        fun member => Nat.lt_irrefl _ (before.there _ _ member)
      rw [show s.cancellation (.start token start) = none from rfl, Option.toList_none,
        List.append_nil]
      refine ⟨iff_of_false (by simp) (absent none), ?_, ?_⟩
      · exact fun error known => by cases known
      · exact fun error member => absurd member (absent (some error))

/-! ### Reasons accumulate -/

omit [DecidableEq T] in
theorem initial_log : Log (State.initial T V P) [] where
  there := by
    intro i reason member
    cases member
  logged := by
    intro i a there
    cases there

/-- As long as no activity is cancelled for a second reason, both reasons stay
    known once they have arrived, and what the activity is completed as depends
    on nothing but which of them have arrived: a heartbeat error that has arrived is
    true as a condition, as exceptions are. A step that cancels for a second
    reason is exactly one that makes the first one forgotten. -/
theorem reasons_accumulate (cfg : Config)
    (run : Reaches (loggedStep cfg) (fun s action => s.1.AddsReason action)
      (State.initial T V P, []) (s, log)) :
    (∀ (i : Nat) (a : Activity T V P), s.activities[i]? = some a →
      (a.cancelledByRequest = true ↔ (i, none) ∈ log) ∧
      (a.cancelledDueToHeartbeatError.isSome ↔ ∃ reason, (i, some reason) ∈ log) ∧
      ∀ error, error.kind = .cancelled → Reports log i error (a.handleError error).phase) ∧
    (∀ s' log', Reaches (loggedStep cfg) (fun s action => s.1.AddsReason action)
      (s, log) (s', log') → s.KeepsReasons s') ∧
    (∀ action s', s.step cfg action = some s' → (s.KeepsReasons s' ↔ s.AddsReason action)) := by
  have isLog : Log s log := by
    refine run.invariant (fun s => Log s.1 s.2) initial_log ?_
    intro s s' action before adds stepped
    obtain ⟨s₁, stepped', rfl⟩ := Option.map_eq_some_iff.mp stepped
    exact step_log before adds stepped'
  refine ⟨?_, ?_, fun action s' stepped => step_keeps_iff stepped⟩
  · intro i a there
    have logged := isLog.logged i a there
    refine ⟨logged.byRequest, ?_, logged.reports⟩
    constructor
    · intro known
      obtain ⟨reason, isReason⟩ := Option.isSome_iff_exists.mp known
      exact ⟨reason, logged.heartbeatError reason isReason⟩
    · rintro ⟨reason, member⟩
      exact logged.known reason member
  · intro s' log' later
    -- along the rest of the run: the activity stays in the list and keeps its reasons
    refine (later.invariant (fun s₁ => s.activities.length ≤ s₁.1.activities.length ∧
      s.KeepsReasons s₁.1) ⟨Nat.le_refl _, ?_⟩ ?_).2
    · intro i a a' there there'
      rw [there] at there'
      cases there'
      exact ⟨id, id⟩
    · rintro s₁ s₂ action ⟨longer, keeps⟩ adds stepped
      obtain ⟨s₂, stepped', rfl⟩ := Option.map_eq_some_iff.mp stepped
      refine ⟨Nat.le_trans longer (step_length stepped'), ?_⟩
      intro i a a₂ there there₂
      have inside := Nat.lt_of_lt_of_le (List.getElem?_eq_some_iff.mp there).1 longer
      have there₁ := List.getElem?_eq_getElem inside
      have first := keeps i a _ there there₁
      have second := (step_keeps_iff stepped').mpr adds i _ a₂ there₁ there₂
      exact ⟨fun known => second.byRequest (first.byRequest known),
        fun known => second.heartbeatError (first.heartbeatError known)⟩

/-! ### A reason after another -/

/-- The heartbeat details cannot be encoded. -/
def heartbeatFails : HeartbeatAnswers where
  encode := .error activityError
  recordActivityHeartbeat := .ok ()

/-- One activity, executing, with a heartbeat being encoded. -/
def heartbeating : State String String Unit where
  activities := [{
    taskToken := "token"
    start := myActivity
    phase := .executing
    heartbeatTasks := [.encoding ⟨0, ["details"]⟩]
    lastHeartbeatTask := some 0
    cancelledEvent := some false
    heartbeatCalls := [⟨0, ["details"]⟩] }]
  runningActivities := Dict.set ⟨[], List.nodup_nil⟩ "token" 0
  failWorkerExceptionQueue := []

def beforeCancellation : List (Action String String Unit) :=
  [.start "token" myActivity, .resume 0 noFailure, .heartbeat "token" ["details"],
    .resumeHeartbeat 0 0 heartbeatFails]

theorem heartbeating_ran :
    runActions (step oneActivity) (State.initial String String Unit) beforeCancellation =
      some heartbeating := rfl

/-- A request alone: the activity is completed as cancelled. -/
theorem reasons_accumulate_request :
    ∃ (s : State String String Unit) (log : List (Nat × Option PyError))
      (a : Activity String String Unit),
      Reaches (loggedStep oneActivity) (fun s action => s.1.AddsReason action)
        (State.initial String String Unit, []) (s, log) ∧
      s.activities[0]? = some a ∧ a.cancelledByRequest = true ∧
      (a.handleError cancelledError).phase = .encodingFailure cancelledError .cancelled := by
  have initial : Reaches (loggedStep oneActivity) (fun s action => s.1.AddsReason action)
      (State.initial String String Unit, []) (State.initial String String Unit, []) := Reaches.init
  have started := initial.step (.start "token" myActivity) (fun _ _ _ cancels => by cases cancels) rfl
  have executing := started.step (.resume 0 noFailure) (fun _ _ _ cancels => by cases cancels) rfl
  have cancelled := executing.step (.cancel "token")
    (fun _ _ _ cancels there => by cases cancels; cases there; rfl) rfl
  obtain ⟨byRequest, -, reports⟩ := (reasons_accumulate oneActivity cancelled).1 0 _ rfl
  have requested : (0, (none : Option PyError)) ∈ [(0, none)] := List.mem_cons_self
  refine ⟨_, _, _, cancelled, rfl, byRequest.mpr requested, ?_⟩
  exact (reports cancelledError rfl).cancelled (by simp [cancellation]) requested

/-- A request and a failed heartbeat: the one that comes first is forgotten, and
    the order decides what a cancelled activity is completed as. -/
theorem later_reason_forgets :
    (¬ ∀ s s' : State String String Unit,
      Reaches (step oneActivity) (fun _ _ => True) (State.initial String String Unit) s →
      Reaches (step oneActivity) (fun _ _ => True) s s' → s.KeepsReasons s') ∧
    ∃ (s₁ s₂ : State String String Unit) (a₁ a₂ : Activity String String Unit),
      Reaches (step oneActivity) (fun _ _ => True) (State.initial String String Unit)
        heartbeating ∧
      runActions (step oneActivity) heartbeating
        [.cancel "token", .resumeHeartbeat 0 0 heartbeatFails] = some s₁ ∧
      runActions (step oneActivity) heartbeating
        [.resumeHeartbeat 0 0 heartbeatFails, .cancel "token"] = some s₂ ∧
      s₁.activities[0]? = some a₁ ∧ s₂.activities[0]? = some a₂ ∧
      (a₁.handleError cancelledError).phase = .encodingFailure activityError .heartbeatError ∧
      (a₂.handleError cancelledError).phase = .encodingFailure cancelledError .cancelled := by
  have run : Reaches (step oneActivity) (fun _ _ => True) (State.initial String String Unit)
      heartbeating := Reaches.init.of_runActions (fun _ _ _ => trivial) heartbeating_ran
  constructor
  · intro all
    let requested := heartbeating.setActivity 0
      { heartbeating.activities[0] with
        cancelledByRequest := true
        cancelledEvent := some true
        cancelling := true }
    have first : Reaches (step oneActivity) (fun _ _ => True)
        (State.initial String String Unit) requested := run.step (.cancel "token") trivial rfl
    have second := (@Reaches.init _ _ (step oneActivity) (fun _ _ => True) requested).step
      (.resumeHeartbeat 0 0 heartbeatFails) trivial rfl
    have known := (all _ _ first second 0 _ _ rfl rfl).byRequest rfl
    cases known
  · exact ⟨_, _, _, _, run, rfl, rfl, rfl, rfl, rfl, rfl⟩

end State

end TemporalSdk.ActivityWorker
