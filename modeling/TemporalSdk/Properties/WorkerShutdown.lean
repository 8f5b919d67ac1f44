import TemporalSdk.Properties.ActivityCompletion
import TemporalSdk.Worker.WorkerShutdown

/-!
# Worker shutdown as activities see it

## Main result

`shutdown_seen`: if after `notify_shutdown` no set-up of an activity creates the
shutdown event or replaces its thread event, every activity that runs sees the
shutdown, from the call on.

`notify_shutdown` sets the events there are and leaves no mark on the worker. The
first activity after it, or the first synchronous one of another executor than a
thread pool, makes a new event that nobody sets: `shutdown_not_seen`.

## Proof strategy

An activity whose body is reached has been set up, so there is a shutdown event.
Its thread event is not replaced once a synchronous activity has been seen, so
what a function was submitted with is what the worker sets.
-/

namespace TemporalSdk.ActivityWorker

open Worker (PyError)

variable {T V P : Type}

/-! ### The body of an activity -/

/-- From the end of the set-up to the end of `execute_activity`. -/
def Phase.InBody : Phase P → Prop
  | .decodingArguments | .decodingHeartbeatDetails | .executing => True
  | _ => False

namespace Activity

variable (a : Activity T V P) (cfg : Config) (answers : Answers P)

theorem finalize_notInBody (result : Result P) : ¬(a.finalize result).phase.InBody := by
  unfold finalize
  split
  · exact id
  · exact id

theorem handleError_notInBody (error : PyError) : ¬(a.handleError error).phase.InBody := by
  unfold handleError
  split
  · exact a.finalize_notInBody _
  · split
    · exact id
    · exact id
  · exact id
  · exact id

theorem failureEncoded_notInBody (error : PyError) (handling : Handling) :
    ¬(a.failureEncoded answers error handling).phase.InBody := by
  unfold failureEncoded
  split
  · exact a.finalize_notInBody _
  · split
    · split
      · exact a.finalize_notInBody _
      · exact id
    · exact id

theorem handleError_sync (error : PyError) : (a.handleError error).sync = a.sync := by
  unfold handleError finalize complete
  split
  · split <;> rfl
  · split <;> rfl
  · rfl
  · rfl

theorem decodeHeartbeatDetails_sync : (a.decodeHeartbeatDetails answers).sync = a.sync := by
  unfold decodeHeartbeatDetails execute
  split
  · rfl
  · split
    · rfl
    · exact a.handleError_sync _

/-- The set-up of the events succeeds in this step. -/
def SetsUp (activityDef : ActivityDef) : Prop :=
  a.phase = .scheduled ∧
  (cfg.activities.lookup a.start.activityType).or cfg.dynamicActivity = some activityDef ∧
  answers.setUp = .ok ()

theorem begin_inBody (inBody : (a.begin cfg answers).phase.InBody) :
    ∃ activityDef : ActivityDef,
      (cfg.activities.lookup a.start.activityType).or cfg.dynamicActivity = some activityDef ∧
      answers.setUp = .ok () ∧ (a.begin cfg answers).sync = !activityDef.isAsync := by
  unfold begin at inBody ⊢
  split at inBody
  · exact absurd inBody (a.handleError_notInBody _)
  next activityDef found =>
    dsimp only at inBody ⊢
    split at inBody
    · exact absurd inBody (handleError_notInBody _ _)
    next succeeds =>
      refine ⟨activityDef, found, succeeds, ?_⟩
      split
      · rfl
      · exact decodeHeartbeatDetails_sync _ _

/-- The task enters the body by setting up the events. -/
theorem resume_inBody (inBody : (a.resume cfg answers).phase.InBody) :
    (a.phase.InBody ∧ (a.resume cfg answers).sync = a.sync) ∨
      ∃ activityDef, a.SetsUp cfg answers activityDef ∧
        (a.resume cfg answers).sync = !activityDef.isAsync := by
  unfold resume at inBody ⊢
  dsimp only at inBody ⊢
  cases at_phase : a.phase with
  | scheduled =>
    simp only [at_phase] at inBody ⊢
    -- only the first step sets the activity up; the steps after it keep what it set
    obtain ⟨activityDef, found, succeeds, sync⟩ := begin_inBody _ cfg answers inBody
    exact Or.inr ⟨activityDef, ⟨at_phase, found, succeeds⟩, sync⟩
  | decodingArguments =>
    simp only [at_phase] at inBody ⊢
    refine Or.inl ⟨trivial, ?_⟩
    split
    · exact decodeHeartbeatDetails_sync _ _
    · exact handleError_sync _ _
  | decodingHeartbeatDetails =>
    simp only [at_phase] at inBody ⊢
    refine Or.inl ⟨trivial, ?_⟩
    split
    · unfold execute
      split
      · rfl
      · exact handleError_sync _ _
    · exact handleError_sync _ _
  | executing =>
    simp only [at_phase] at inBody ⊢
    refine Or.inl ⟨trivial, ?_⟩
    split
    · rfl
    · exact handleError_sync _ _
  | encodingResult =>
    simp only [at_phase] at inBody
    split at inBody
    -- behind the body there is no way back into it
    · exact absurd inBody (finalize_notInBody _ _)
    · exact absurd inBody (handleError_notInBody _ _)
  | encodingFailure error handling =>
    simp only [at_phase] at inBody
    exact absurd inBody (failureEncoded_notInBody _ _ _ _)
  | awaitingHeartbeat result =>
    simp only [at_phase] at inBody
    exact inBody.elim
  | completing =>
    simp only [at_phase] at inBody
    split at inBody
    · exact inBody.elim
    · exact inBody.elim
  | finished error =>
    simp only [at_phase] at inBody
    exact inBody.elim

end Activity

namespace WorkerEvents

variable [DecidableEq T] {cfg : EventConfig} {s s' : WorkerEvents T V P}

/-! ### What setting up keeps -/

/-- Activities that run find an event, and it is the one that functions have been
    submitted with. -/
structure Inv (s : WorkerEvents T V P) : Prop where
  made : ∀ event, s.workerShutdownEvent = some event → event.threadEvent < s.threadEvents.length
  setUp : ∀ (i : Nat) (a : Activity T V P), s.worker.activities[i]? = some a → a.phase.InBody →
    s.workerShutdownEvent.isSome ∧ (a.sync → s.seenSyncActivity)
  captured : ∀ i threadEvent, s.submitted i = some threadEvent → s.seenSyncActivity ∧
    ∃ event, s.workerShutdownEvent = some event ∧ event.threadEvent = threadEvent

section SetUp

omit [DecidableEq T]

/-- What setting up the events of an activity leaves as it is. -/
structure Keeps (s t : WorkerEvents T V P) : Prop where
  submitted : t.submitted = s.submitted
  notified : t.notified = s.notified
  seen : s.seenSyncActivity → t.seenSyncActivity
  there : s.workerShutdownEvent.isSome → t.workerShutdownEvent.isSome
  /-- Once a synchronous activity has been seen the event is not replaced. -/
  same : s.seenSyncActivity → s.workerShutdownEvent.isSome →
    t.workerShutdownEvent = s.workerShutdownEvent
  made : (∀ event, s.workerShutdownEvent = some event →
      event.threadEvent < s.threadEvents.length) →
    ∀ event, t.workerShutdownEvent = some event → event.threadEvent < t.threadEvents.length

theorem Keeps.refl (s : WorkerEvents T V P) : Keeps s s :=
  ⟨rfl, rfl, id, id, fun _ _ => rfl, id⟩

theorem Keeps.trans {t u : WorkerEvents T V P} (first : Keeps s t) (later : Keeps t u) :
    Keeps s u where
  submitted := later.submitted.trans first.submitted
  notified := later.notified.trans first.notified
  seen := fun seen => later.seen (first.seen seen)
  there := fun there => later.there (first.there there)
  same := fun seen there =>
    (later.same (first.seen seen) (first.there there)).trans (first.same seen there)
  made := fun made => later.made (first.made made)

theorem createEvent_of_some (there : s.workerShutdownEvent.isSome) : s.createEvent = s := by
  obtain ⟨event, there⟩ := Option.isSome_iff_exists.mp there
  unfold createEvent
  rw [there]

theorem createEvent_isSome (s : WorkerEvents T V P) : s.createEvent.workerShutdownEvent.isSome := by
  unfold createEvent
  split
  next event there => rw [there]; rfl
  next => rfl

theorem createEvent_keeps (s : WorkerEvents T V P) : Keeps s s.createEvent := by
  cases there : s.workerShutdownEvent with
  | some event =>
    rw [createEvent_of_some (by rw [there]; rfl)]
    exact .refl s
  | none =>
    unfold createEvent
    rw [there]
    refine ⟨rfl, rfl, id, fun _ => rfl, fun _ some => ?_, fun _ event new => ?_⟩
    · rw [there] at some
      cases some
    · cases new
      simp

theorem replaceThreadEvent_keeps (unseen : s.seenSyncActivity = false) :
    Keeps s s.replaceThreadEvent where
  submitted := rfl
  notified := rfl
  seen := id
  there := fun there => by simpa [replaceThreadEvent] using there
  same := fun seen => by
    rw [unseen] at seen
    cases seen
  made := by
    intro _ event new
    obtain ⟨old, -, rfl⟩ := Option.map_eq_some_iff.mp new
    simp [replaceThreadEvent]

theorem setUpEvents_keeps (cfg : EventConfig) (s : WorkerEvents T V P) (activityDef : ActivityDef)
    (answers : Answers P) : Keeps s (s.setUpEvents cfg activityDef answers) := by
  refine s.createEvent_keeps.trans ?_
  unfold setUpEvents
  dsimp only
  split
  · exact .refl _
  · split
    · exact .refl _
    · have marks (t : WorkerEvents T V P) : Keeps t { t with seenSyncActivity := true } :=
        ⟨rfl, rfl, fun _ => rfl, id, fun _ _ => rfl, id⟩
      refine .trans ?_ (marks _)
      split
      next replaces =>
        refine replaceThreadEvent_keeps ?_
        simp only [WorkerEvents.replaces, Bool.and_eq_true, Bool.not_eq_true'] at replaces
        exact replaces.2
      next => exact .refl _

theorem afterAction_keeps (cfg : EventConfig) (s : WorkerEvents T V P) (action : Action T V P) :
    Keeps s (s.afterAction cfg action) := by
  unfold afterAction
  split
  · exact s.setUpEvents_keeps cfg _ _
  · exact .refl s

/-- An activity that has been set up finds an event. -/
theorem setUpEvents_isSome (activityDef : ActivityDef) (answers : Answers P) :
    (s.setUpEvents cfg activityDef answers).workerShutdownEvent.isSome := by
  unfold setUpEvents
  dsimp only
  split
  · exact s.createEvent_isSome
  · split
    · exact s.createEvent_isSome
    · split
      · simpa [replaceThreadEvent] using s.createEvent_isSome
      · exact s.createEvent_isSome

theorem setUpEvents_seen {activityDef : ActivityDef} {answers : Answers P}
    (succeeds : answers.setUp = .ok ()) (sync : activityDef.isAsync = false) :
    (s.setUpEvents cfg activityDef answers).seenSyncActivity = true := by
  simp only [setUpEvents, succeeds, sync, Bool.false_eq_true, if_false]

end SetUp

/-- An action of the event loop, with the events left as they are or not: an
    activity in its body has been there or is set up. -/
theorem worker_inBody {action : Action T V P} {worker : State T V P}
    (stepped : s.worker.step cfg.toConfig action = some worker) {i : Nat} {a' : Activity T V P}
    (there : worker.activities[i]? = some a') (inBody : a'.phase.InBody) :
    (∃ a : Activity T V P, s.worker.activities[i]? = some a ∧ a.phase.InBody ∧ a'.sync = a.sync) ∨
      ∃ activityDef answers, s.settingUp cfg action = some (activityDef, answers) ∧
        answers.setUp = .ok () ∧ a'.sync = !activityDef.isAsync := by
  rcases Nat.lt_or_ge i s.worker.activities.length with old | new
  · obtain ⟨a₁, there₁, does⟩ := State.step_activity stepped (List.getElem?_eq_getElem old)
    rw [there] at there₁
    cases there₁
    cases does with
    | resume answers own resumable same =>
      subst same own
      rcases Activity.resume_inBody _ _ _ inBody with ⟨before, sync⟩ | ⟨activityDef, setsUp, sync⟩
      · exact Or.inl ⟨_, List.getElem?_eq_getElem old, before, sync⟩
      · obtain ⟨scheduled, found, succeeds⟩ := setsUp
        refine Or.inr ⟨activityDef, answers, ?_, succeeds, sync⟩
        simp only [settingUp, List.getElem?_eq_getElem old, Option.bind_eq_bind, Option.bind_some,
          scheduled, found]
        rfl
    | cancel reason cancels cancelled =>
      rw [cancelled.phase] at inBody
      exact Or.inl ⟨_, List.getElem?_eq_getElem old, inBody, cancelled.sync⟩
    | other spared foreign stays =>
      rw [stays.phase] at inBody
      exact Or.inl ⟨_, List.getElem?_eq_getElem old, inBody, stays.sync⟩
  · obtain ⟨token, start, -, -, rfl⟩ := State.step_new stepped there new
    exact inBody.elim

omit [DecidableEq T] in
theorem submit_spec {i : Nat} (submits : s.submit i = some s') :
    ∃ a event, s.worker.activities[i]? = some a ∧ s.workerShutdownEvent = some event ∧
      a.phase = .executing ∧ a.sync = true ∧
      s' = { s with
        submitted := fun j => if j = i then some event.threadEvent else s.submitted j } := by
  unfold submit at submits
  split at submits
  next a event there shutdownEvent =>
    split at submits
    next executing =>
      split at submits
      next fresh =>
        cases submits
        exact ⟨a, event, there, shutdownEvent, executing, fresh.1, rfl⟩
      next => cases submits
    next => cases submits
  next => cases submits

omit [DecidableEq T] in
theorem initial_inv : (initial T V P).Inv where
  made := by
    intro event there
    cases there
  setUp := by
    intro i a there
    cases there
  captured := by
    intro i threadEvent there
    cases there

theorem step_inv {action : EventAction T V P} (inv : s.Inv) (stepped : step cfg s action = some s') :
    s'.Inv := by
  cases action with
  | worker action =>
    obtain ⟨worker, worked, rfl⟩ := Option.map_eq_some_iff.mp stepped
    have keeps := s.afterAction_keeps cfg action
    refine ⟨keeps.made inv.made, ?_, ?_⟩
    · intro i a' there inBody
      rcases worker_inBody worked there inBody with
        ⟨a, before, inBody, sync⟩ | ⟨activityDef, answers, settingUp, succeeds, sync⟩
      · obtain ⟨isSome, seen⟩ := inv.setUp i a before inBody
        exact ⟨keeps.there isSome, fun isSync => keeps.seen (seen (sync ▸ isSync))⟩
      · simp only [afterAction, settingUp]
        refine ⟨setUpEvents_isSome activityDef answers, fun isSync => ?_⟩
        rw [sync, Bool.not_eq_true'] at isSync
        exact setUpEvents_seen succeeds isSync
    · intro i threadEvent captured
      obtain ⟨seen, event, there, same⟩ := inv.captured i threadEvent
        ((congrFun keeps.submitted i).symm.trans captured)
      exact ⟨keeps.seen seen, event, (keeps.same seen (by rw [there]; rfl)).trans there, same⟩
  | submit i =>
    obtain ⟨a, event, there, shutdownEvent, executing, sync, rfl⟩ := submit_spec stepped
    refine ⟨inv.made, inv.setUp, ?_⟩
    intro j threadEvent captured
    by_cases own : j = i
    · -- the function of a set-up synchronous activity, with the event there is
      subst own
      obtain rfl : event.threadEvent = threadEvent := by simpa using captured
      obtain ⟨-, seen⟩ := inv.setUp j a there (by rw [executing]; trivial)
      exact ⟨seen sync, event, shutdownEvent, rfl⟩
    · exact inv.captured j threadEvent (by simpa [own] using captured)
  | notifyShutdown =>
    cases stepped
    unfold notifyShutdown
    split
    next event there =>
      refine ⟨?_, ?_, ?_⟩
      · intro event' new
        cases new
        simpa using inv.made event there
      · intro i a isThere inBody
        exact ⟨rfl, (inv.setUp i a isThere inBody).2⟩
      · intro i threadEvent captured
        obtain ⟨seen, event', there', same⟩ := inv.captured i threadEvent captured
        rw [there] at there'
        cases there'
        exact ⟨seen, _, rfl, same⟩
    next => exact ⟨inv.made, inv.setUp, inv.captured⟩

/-! ### Shutdown is seen -/

/-- After `notify_shutdown`, the action makes no thread event for the shutdown: no
    activity is the first one whose definition is found, or the first synchronous
    one of another executor than a thread pool. -/
def SetUpInTime (cfg : EventConfig) (s : WorkerEvents T V P) : EventAction T V P → Prop
  | .worker action => s.notified → ∀ activityDef answers,
      s.settingUp cfg action = some (activityDef, answers) →
      s.workerShutdownEvent.isSome ∧
        (answers.setUp = .ok () → s.replaces cfg activityDef = false)
  | _ => True

/-- What `notify_shutdown` has set stays the event of the worker. -/
def EventSet (s : WorkerEvents T V P) : Prop :=
  s.notified → ∀ event, s.workerShutdownEvent = some event → s.isSet event.threadEvent

omit [DecidableEq T] in
/-- A set-up in time leaves the events as they are. -/
theorem setUpEvents_inTime {activityDef : ActivityDef} {answers : Answers P}
    (there : s.workerShutdownEvent.isSome)
    (kept : answers.setUp = .ok () → s.replaces cfg activityDef = false) :
    (s.setUpEvents cfg activityDef answers).threadEvents = s.threadEvents ∧
      (s.setUpEvents cfg activityDef answers).workerShutdownEvent = s.workerShutdownEvent := by
  unfold setUpEvents
  dsimp only
  rw [createEvent_of_some there]
  split
  · exact ⟨rfl, rfl⟩
  next succeeds =>
    rw [kept succeeds]
    split
    · exact ⟨rfl, rfl⟩
    · exact ⟨rfl, rfl⟩

theorem step_eventSet {action : EventAction T V P} (inv : s.Inv) (eventSet : s.EventSet)
    (inTime : s.SetUpInTime cfg action) (stepped : step cfg s action = some s') : s'.EventSet := by
  cases action with
  | worker action =>
    obtain ⟨worker, worked, rfl⟩ := Option.map_eq_some_iff.mp stepped
    intro notified event there
    have before : s.notified := (s.afterAction_keeps cfg action).notified ▸ notified
    have same : (s.afterAction cfg action).threadEvents = s.threadEvents ∧
        (s.afterAction cfg action).workerShutdownEvent = s.workerShutdownEvent := by
      unfold afterAction
      split
      next activityDef answers settingUp =>
        -- in time: the event was there before the notification, so it is not made anew
        obtain ⟨there, kept⟩ := inTime before activityDef answers settingUp
        exact setUpEvents_inTime there kept
      next => exact ⟨rfl, rfl⟩
    have before := eventSet before event (same.2 ▸ there)
    unfold isSet at before ⊢
    exact (congrArg (List.getD · event.threadEvent false) same.1).trans before
  | submit i =>
    obtain ⟨a, event, -, -, -, -, rfl⟩ := submit_spec stepped
    exact eventSet
  | notifyShutdown =>
    cases stepped
    unfold notifyShutdown
    split
    next event there =>
      intro _ event' new
      cases new
      simp [isSet, inv.made event there]
    next absent =>
      intro _ event there
      rw [absent] at there
      cases there

/-- An activity that runs sees the shutdown: its function in the event loop, and
    its function that was submitted to the executor. -/
def Seen (s : WorkerEvents T V P) : Prop :=
  (∀ (i : Nat) (a : Activity T V P), s.worker.activities[i]? = some a → a.phase = .executing →
    s.isWorkerShutdown) ∧
  ∀ i, (s.submitted i).isSome → s.isWorkerShutdownSync i

omit [DecidableEq T] in
theorem seen_of_eventSet (inv : s.Inv) (eventSet : s.EventSet) (notified : s.notified) : s.Seen := by
  constructor
  · intro i a there executing
    obtain ⟨isSome, -⟩ := inv.setUp i a there (by rw [executing]; trivial)
    obtain ⟨event, shutdownEvent⟩ := Option.isSome_iff_exists.mp isSome
    simpa [isWorkerShutdown, shutdownEvent] using eventSet notified event shutdownEvent
  · intro i isSome
    obtain ⟨threadEvent, captured⟩ := Option.isSome_iff_exists.mp isSome
    obtain ⟨-, event, shutdownEvent, rfl⟩ := inv.captured i threadEvent captured
    simpa [isWorkerShutdownSync, captured] using eventSet notified event shutdownEvent

omit [DecidableEq T] in
theorem notifyShutdown_notified (s : WorkerEvents T V P) : s.notifyShutdown.notified = true := by
  unfold notifyShutdown
  split
  · rfl
  · rfl

theorem step_notified {action : EventAction T V P} (notified : s.notified)
    (stepped : step cfg s action = some s') : s'.notified := by
  cases action with
  | worker action =>
    obtain ⟨worker, worked, rfl⟩ := Option.map_eq_some_iff.mp stepped
    exact (s.afterAction_keeps cfg action).notified.trans notified
  | submit i =>
    obtain ⟨a, event, -, -, -, -, rfl⟩ := submit_spec stepped
    exact notified
  | notifyShutdown =>
    cases stepped
    exact s.notifyShutdown_notified

/-- **Shutdown is seen**: in every run whose set-ups are in time, from the state
    that `notify_shutdown` leaves on, every activity that runs sees the shutdown,
    and goes on to see it. -/
theorem shutdown_seen (cfg : EventConfig)
    (run : Reaches (step cfg) (SetUpInTime cfg) (initial T V P) s)
    (notify : step cfg s .notifyShutdown = some s')
    {t : WorkerEvents T V P} (later : Reaches (step cfg) (SetUpInTime cfg) s' t) : t.Seen := by
  have before : s.Inv ∧ s.EventSet := by
    refine run.invariant (fun s => s.Inv ∧ s.EventSet) ⟨initial_inv, fun notified => ?_⟩ ?_
    · cases notified
    · exact fun ⟨inv, eventSet⟩ inTime stepped =>
        ⟨step_inv inv stepped, step_eventSet inv eventSet inTime stepped⟩
  have inTime : s.SetUpInTime cfg .notifyShutdown := trivial
  have notified : s'.notified := by
    cases notify
    exact s.notifyShutdown_notified
  have after : s'.Inv ∧ s'.EventSet :=
    ⟨step_inv before.1 notify, step_eventSet before.1 before.2 inTime notify⟩
  obtain ⟨inv, eventSet, notified⟩ : t.Inv ∧ t.EventSet ∧ t.notified := by
    refine later.invariant (fun t => t.Inv ∧ t.EventSet ∧ t.notified)
      ⟨after.1, after.2, notified⟩ ?_
    exact fun ⟨inv, eventSet, notified⟩ inTime stepped => ⟨step_inv inv stepped,
      step_eventSet inv eventSet inTime stepped, step_notified notified stepped⟩
  exact seen_of_eventSet inv eventSet notified

/-! ### Runs -/

/-- An asynchronous activity and a synchronous one, with a process executor. -/
def processPool : EventConfig where
  activities := [("async_activity", ⟨true⟩), ("sync_activity", ⟨false⟩)]
  dynamicActivity := none
  threadPool := false

def activityOfType (activityType : String) : Start where
  activityType := activityType
  workflowId := "workflow"
  hasInput := false
  hasHeartbeatDetails := false

/-- The function of a synchronous activity is called in a process; another
    activity starts after the shutdown. -/
theorem shutdown_seen_processPool :
    ∃ s s' t : WorkerEvents String Unit Unit, Reaches (step processPool) (SetUpInTime processPool)
      (initial String Unit Unit) s ∧ step processPool s .notifyShutdown = some s' ∧
      Reaches (step processPool) (SetUpInTime processPool) s' t ∧
      (t.submitted 0).isSome ∧ t.worker.activities.length = 2 ∧ t.Seen := by
  let starting : EventAction String Unit Unit :=
    .worker (.start "sync" (activityOfType "sync_activity"))
  let settingUp : EventAction String Unit Unit := .worker (.resume 0 noFailure)
  let startingLater : EventAction String Unit Unit :=
    .worker (.start "async" (activityOfType "async_activity"))
  have initial := @Reaches.init _ _ (step processPool) (SetUpInTime processPool)
    (initial String Unit Unit)
  have started := initial.step starting (fun notified => by cases notified) rfl
  have executing := started.step settingUp (fun notified => by cases notified) rfl
  let running := (runActions (step processPool) (WorkerEvents.initial String Unit Unit)
    [starting, settingUp, .submit 0]).getD (WorkerEvents.initial String Unit Unit)
  have submitted : Reaches (step processPool) (SetUpInTime processPool) _ running :=
    executing.step (.submit 0) trivial rfl
  have later := (@Reaches.init _ _ (step processPool) (SetUpInTime processPool)
    running.notifyShutdown).step startingLater
    (fun _ activityDef answers settingUp => by cases settingUp) rfl
  exact ⟨_, _, _, submitted, rfl, later, rfl, rfl, shutdown_seen processPool submitted rfl later⟩

/-- The worker's first activity starts after `notify_shutdown`; and an activity that
    has seen the shutdown no longer does when a synchronous one has started. -/
theorem shutdown_not_seen :
    (∃ s t : WorkerEvents String Unit Unit, step processPool (initial String Unit Unit)
        .notifyShutdown = some s ∧
      Reaches (step processPool) (fun _ _ => True) s t ∧ ¬ t.Seen) ∧
    ∃ s s' t : WorkerEvents String Unit Unit, Reaches (step processPool) (fun _ _ => True)
        (initial String Unit Unit) s ∧ step processPool s .notifyShutdown = some s' ∧ s'.Seen ∧
      Reaches (step processPool) (fun _ _ => True) s' t ∧ ¬ t.Seen := by
  let asyncActivity (i : Nat) : List (EventAction String Unit Unit) :=
    [.worker (.start "async" (activityOfType "async_activity")), .worker (.resume i noFailure)]
  let syncActivity (i : Nat) : List (EventAction String Unit Unit) :=
    [.worker (.start "sync" (activityOfType "sync_activity")), .worker (.resume i noFailure)]
  constructor
  · have ran : runActions (step processPool) (notifyShutdown (initial String Unit Unit))
        (asyncActivity 0) = some _ := rfl
    refine ⟨_, _, rfl, Reaches.init.of_runActions (fun _ _ _ => trivial) ran, fun seen => ?_⟩
    cases seen.1 0 _ rfl rfl
  · let running := (runActions (step processPool) (initial String Unit Unit)
      (asyncActivity 0)).getD (initial String Unit Unit)
    have before : runActions (step processPool) (initial String Unit Unit) (asyncActivity 0) =
        some running := rfl
    have later : runActions (step processPool) running.notifyShutdown (syncActivity 1) =
        some _ := rfl
    refine ⟨_, _, _, Reaches.init.of_runActions (fun _ _ _ => trivial) before, rfl, ?_,
      Reaches.init.of_runActions (fun _ _ _ => trivial) later, fun seen => ?_⟩
    · exact ⟨fun _ _ _ _ => rfl, fun i captured => by cases captured⟩
    · cases seen.1 0 _ rfl rfl

end WorkerEvents

end TemporalSdk.ActivityWorker
