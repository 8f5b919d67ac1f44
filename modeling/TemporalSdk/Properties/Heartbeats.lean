import TemporalSdk.Properties.ActivityCompletion

/-!
# The order of heartbeats

## Main result

`heartbeats_in_order`: in every run in which no heartbeat task starts while
another one of its activity is suspended in `encode`, and no call finds the queue
full, the recorded heartbeats are a subsequence of the calls, the last call is
recorded (unless its encoding failed) as soon as the last heartbeat task has
ended, which is before the completion is sent, and nothing is recorded
afterwards.

Without the condition a heartbeat can be recorded after the completion:
`recorded_after_completion`.

## Proof strategy

At any time the calls are those that have been dealt with, the one being encoded
and those in the queue, in this order (`Orderly`). Only the last created task is
awaited before the completion; it is still to come as long as there is something
to record.
-/

namespace TemporalSdk.ActivityWorker

open Worker (PyError)

variable {T V P : Type}

def BridgeCall.isCompletion : BridgeCall T V P → Bool
  | .completeActivityTask _ => true
  | .recordActivityHeartbeat _ _ => false

namespace Activity

/-- The heartbeats recorded for an activity. -/
def recorded (a : Activity T V P) : List (Heartbeat V) :=
  a.calls.filterMap fun call => match call with
    | .recordActivityHeartbeat _ h => some h
    | .completeActivityTask _ => none

/-- No call after a completion records a heartbeat. -/
def RecordsBefore (calls : List (BridgeCall T V P)) : Prop :=
  calls.Pairwise fun earlier later => earlier.isCompletion → later.isCompletion

/-- `old` are the calls that have been dealt with, `current` is the task that is
    encoding, with its heartbeat. -/
structure Orderly (a : Activity T V P) (old : List (Heartbeat V))
    (current : Option (Nat × Heartbeat V)) : Prop where
  encoding : ∀ k h, a.heartbeatTasks[k]? = some (.encoding h) ↔ current = some (k, h)
  calls : a.heartbeatCalls = old ++ (current.map Prod.snd).toList ++ a.pendingHeartbeats
  numbered : a.heartbeatCalls.map Heartbeat.call = List.range a.heartbeatCalls.length
  recorded : a.recorded.Sublist old
  settled : current = none → ∀ h, old.getLast? = some h → h ∈ a.recorded ∨ h ∈ a.unencoded
  queued : a.pendingHeartbeats ≠ [] →
    ∃ k, a.lastHeartbeatTask = some k ∧ a.heartbeatTasks[k]? = some .scheduled
  awaited : current ≠ none → a.heartbeatRunning = true
  waiting : ∀ result, a.phase = .awaitingHeartbeat result → a.done = true
  sent : a.completions ≠ [] → a.done = true ∧ a.pendingHeartbeats = [] ∧ current = none
  quiet : RecordsBefore a.calls

theorem heartbeatRunning_of_scheduled {a : Activity T V P} {k : Nat}
    (last : a.lastHeartbeatTask = some k) (found : a.heartbeatTasks[k]? = some .scheduled) :
    a.heartbeatRunning = true := by
  simp [heartbeatRunning, last, found]

theorem heartbeatRunning_of_encoding {a : Activity T V P} {k : Nat} {h : Heartbeat V}
    (last : a.lastHeartbeatTask = some k) (found : a.heartbeatTasks[k]? = some (.encoding h)) :
    a.heartbeatRunning = true := by
  simp [heartbeatRunning, last, found]

section Orderly

variable {a : Activity T V P} {old : List (Heartbeat V)} {current : Option (Nat × Heartbeat V)}

/-- With the last task ended there is nothing left to record. -/
theorem Orderly.drained (orderly : Orderly a old current) (ended : a.heartbeatRunning = false) :
    a.pendingHeartbeats = [] ∧ current = none := by
  constructor
  · by_contra pending
    obtain ⟨k, last, found⟩ := orderly.queued pending
    rw [heartbeatRunning_of_scheduled last found] at ended
    cases ended
  · by_contra encoding
    rw [orderly.awaited encoding] at ended
    cases ended

theorem Orderly.unsent_of_pending (orderly : Orderly a old current)
    (pending : a.pendingHeartbeats ≠ []) : a.completions = [] := by
  by_contra sent
  exact pending (orderly.sent sent).2.1

theorem Orderly.unsent_of_current (orderly : Orderly a old current) (encoding : current ≠ none) :
    a.completions = [] := by
  by_contra sent
  exact encoding (orderly.sent sent).2.2

theorem recordsBefore_record {calls : List (BridgeCall T V P)} {token : T} {h : Heartbeat V}
    (quiet : RecordsBefore calls) (unsent : ∀ call ∈ calls, call.isCompletion = false) :
    RecordsBefore (calls ++ [BridgeCall.recordActivityHeartbeat token h]) := by
  apply List.pairwise_append.mpr
  refine ⟨quiet, List.pairwise_singleton _ _, ?_⟩
  intro earlier member later _ completes
  rw [unsent earlier member] at completes
  cases completes

theorem recordsBefore_completion {calls : List (BridgeCall T V P)} {completion : Completion T P}
    (quiet : RecordsBefore calls) :
    RecordsBefore (calls ++ [BridgeCall.completeActivityTask completion]) := by
  apply List.pairwise_append.mpr
  refine ⟨quiet, List.pairwise_singleton _ _, ?_⟩
  intro earlier _ later member _
  rw [List.mem_singleton.mp member]
  rfl

theorem unsent_calls (unsent : a.completions = []) : ∀ call ∈ a.calls, call.isCompletion = false := by
  intro call member
  cases call with
  | recordActivityHeartbeat token h => rfl
  | completeActivityTask completion =>
    have : completion ∈ a.completions := List.mem_filterMap.mpr ⟨_, member, rfl⟩
    rw [unsent] at this
    cases this

/-! ### Calls of `heartbeat` -/

theorem Orderly.heartbeat (orderly : Orderly a old current) (details : List V)
    (room : a.done = false → a.pendingHeartbeats.length < maxPendingHeartbeats) :
    Orderly (a.heartbeat details) old current := by
  unfold Activity.heartbeat
  cases done : a.done with
  | true => exact orderly
  | false =>
    -- an activity that is not done has sent no completion
    have unsent : a.completions = [] := by
      by_contra sent
      rw [(orderly.sent sent).1] at done
      cases done
    simp only [Bool.false_eq_true, if_false, room done, if_true]
    refine ⟨?_, ?_, ?_, orderly.recorded, orderly.settled, ?_, ?_, ?_, ?_, orderly.quiet⟩
    · intro k h
      rw [← orderly.encoding k h]
      -- the new task is behind the others and has encoded nothing
      rcases Nat.lt_trichotomy k a.heartbeatTasks.length with inside | rfl | outside
      · rw [List.getElem?_append_left inside]
      · rw [List.getElem?_concat_length, List.getElem?_eq_none (Nat.le_refl _)]
        simp
      · rw [List.getElem?_eq_none (by simp; omega), List.getElem?_eq_none (Nat.le_of_lt outside)]
    · change a.heartbeatCalls ++ _ = _ ++ (a.pendingHeartbeats ++ [⟨a.heartbeatCalls.length, details⟩])
      rw [← List.append_assoc, ← orderly.calls]
    · rw [List.map_append, orderly.numbered]
      simp [List.range_succ]
    · intro _
      exact ⟨_, rfl, List.getElem?_concat_length⟩
    · intro _
      exact heartbeatRunning_of_scheduled rfl List.getElem?_concat_length
    · intro result phase
      have := orderly.waiting result phase
      rw [done] at this
      cases this
    · intro sent
      exact absurd unsent sent

/-! ### Steps of `_run_activity` -/

/-- What `_run_activity` can do to what heartbeats are about: nothing, mark the
    activity as done, or send the completion once the last heartbeat task has
    ended. -/
def Advances (a a' : Activity T V P) : Prop :=
  (a'.heartbeatTasks = a.heartbeatTasks ∧ a'.heartbeatCalls = a.heartbeatCalls ∧
    a'.pendingHeartbeats = a.pendingHeartbeats ∧ a'.unencoded = a.unencoded ∧
    a'.lastHeartbeatTask = a.lastHeartbeatTask) ∧
  ((a'.calls = a.calls ∧ a'.done = a.done ∧ ∀ result, a'.phase ≠ .awaitingHeartbeat result) ∨
    (a'.calls = a.calls ∧ a'.done = true) ∨
    (∃ completion, a'.calls = a.calls ++ [.completeActivityTask completion] ∧ a'.done = true ∧
      a.heartbeatRunning = false))

/-- The phase alone changes, to one that does not wait for a heartbeat. -/
theorem advances_phase (a : Activity T V P) {phase : Phase P}
    (working : ∀ result, phase ≠ .awaitingHeartbeat result) :
    Advances a { a with phase := phase } :=
  ⟨⟨rfl, rfl, rfl, rfl, rfl⟩, Or.inl ⟨rfl, rfl, working⟩⟩

theorem finalize_advances (a : Activity T V P) (result : Result P) :
    Advances a (a.finalize result) := by
  unfold finalize
  cases running : a.heartbeatRunning with
  | true => exact ⟨⟨rfl, rfl, rfl, rfl, rfl⟩, Or.inr (Or.inl ⟨rfl, rfl⟩)⟩
  | false => exact ⟨⟨rfl, rfl, rfl, rfl, rfl⟩, Or.inr (Or.inr ⟨_, rfl, rfl, running⟩)⟩

theorem handleError_advances (a : Activity T V P) (error : PyError) :
    Advances a (a.handleError error) := by
  unfold handleError
  split
  · exact a.finalize_advances _
  · split
    · exact a.advances_phase (by simp)
    · exact a.advances_phase (by simp)
  · exact a.advances_phase (by simp)
  · exact a.advances_phase (by simp)

theorem failureEncoded_advances (a : Activity T V P) (answers : Answers P) (error : PyError)
    (handling : Handling) : Advances a (a.failureEncoded answers error handling) := by
  unfold failureEncoded
  split
  · exact a.finalize_advances _
  · split
    · split
      · exact a.finalize_advances _
      · exact a.advances_phase (by simp)
    · exact a.advances_phase (by simp)

theorem execute_advances (a : Activity T V P) (answers : Answers P) :
    Advances a (a.execute answers) := by
  unfold execute
  split
  · exact a.advances_phase (by simp)
  · exact a.handleError_advances _

theorem decodeHeartbeatDetails_advances (a : Activity T V P) (answers : Answers P) :
    Advances a (a.decodeHeartbeatDetails answers) := by
  unfold decodeHeartbeatDetails
  split
  · exact a.advances_phase (by simp)
  · exact a.execute_advances answers

theorem begin_advances (a : Activity T V P) (cfg : Config) (answers : Answers P) :
    Advances a (a.begin cfg answers) := by
  unfold begin
  split
  · exact a.handleError_advances _
  · rename_i activityDef _
    split
    · exact handleError_advances { a with sync := !activityDef.isAsync } _
    · dsimp only
      split
      · exact advances_phase
          { a with sync := !activityDef.isAsync, cancelledEvent := some false } (by simp)
      · exact decodeHeartbeatDetails_advances
          { a with sync := !activityDef.isAsync, cancelledEvent := some false } answers

theorem resume_advances (a : Activity T V P) (cfg : Config) (answers : Answers P)
    (resumable : State.resumable a)
    (waiting : ∀ result, a.phase = .awaitingHeartbeat result → a.done = true) :
    Advances a (a.resume cfg answers) := by
  let a₀ : Activity T V P := { a with cancelling := false }
  unfold resume
  dsimp only
  split
  · exact a₀.begin_advances cfg answers
  · split
    · exact a₀.decodeHeartbeatDetails_advances answers
    · exact a₀.handleError_advances _
  · split
    · exact a₀.execute_advances answers
    · exact a₀.handleError_advances _
  · split
    · exact a₀.advances_phase (by simp)
    · exact a₀.handleError_advances _
  · split
    · exact a₀.finalize_advances _
    · exact a₀.handleError_advances _
  · exact a₀.failureEncoded_advances answers _ _
  · rename_i result phase
    -- the completion goes out only after the last heartbeat task
    have ended : a.heartbeatRunning = false := by
      rw [State.resumable, phase] at resumable
      simpa using resumable
    exact ⟨⟨rfl, rfl, rfl, rfl, rfl⟩, Or.inr (Or.inr ⟨_, rfl, waiting result phase, ended⟩)⟩
  · split
    · exact a₀.advances_phase (by simp)
    · exact a₀.advances_phase (by simp)
  · rename_i error phase
    refine ⟨⟨rfl, rfl, rfl, rfl, rfl⟩, Or.inl ⟨rfl, rfl, ?_⟩⟩
    intro result
    rw [phase]
    simp

theorem Orderly.advances (orderly : Orderly a old current) {a' : Activity T V P}
    (advances : Advances a a') : Orderly a' old current := by
  obtain ⟨⟨tasks, calls, pending, unencoded, last⟩, sends⟩ := advances
  have running : a'.heartbeatRunning = a.heartbeatRunning := by
    simp only [heartbeatRunning, tasks, last]
  -- a completion may be sent, which is no heartbeat
  have kept : a'.recorded = a.recorded := by
    rcases sends with ⟨same, -⟩ | ⟨same, -⟩ | ⟨completion, more, -⟩
    · simp only [Activity.recorded, same]
    · simp only [Activity.recorded, same]
    · simp [Activity.recorded, more]
  refine ⟨?_, ?_, ?_, ?_, ?_, ?_, ?_, ?_, ?_, ?_⟩
  · rw [tasks]
    exact orderly.encoding
  · rw [calls, pending]
    exact orderly.calls
  · rw [calls]
    exact orderly.numbered
  · rw [kept]
    exact orderly.recorded
  · rw [kept, unencoded]
    exact orderly.settled
  · rw [pending, last, tasks]
    exact orderly.queued
  · rw [running]
    exact orderly.awaited
  · intro result phase
    rcases sends with ⟨-, done, working⟩ | ⟨-, done⟩ | ⟨-, -, done, -⟩
    · exact absurd phase (working result)
    · exact done
    · exact done
  · intro sent
    rw [pending]
    rcases sends with ⟨same, done, -⟩ | ⟨same, done⟩ | ⟨completion, -, done, ended⟩
    · rw [Activity.completions, same] at sent
      rw [done]
      exact orderly.sent sent
    · rw [Activity.completions, same] at sent
      exact ⟨done, (orderly.sent sent).2⟩
    · exact ⟨done, orderly.drained ended⟩
  · rcases sends with ⟨same, -⟩ | ⟨same, -⟩ | ⟨completion, more, -⟩
    · rw [same]
      exact orderly.quiet
    · rw [same]
      exact orderly.quiet
    · rw [more]
      exact recordsBefore_completion orderly.quiet

/-! ### Steps of `_heartbeat_async` -/

theorem encoding_set {tasks : List (HeartbeatTask V)} {k j : Nat} {task : HeartbeatTask V}
    {h : Heartbeat V} (inside : k < tasks.length) :
    (tasks.set k task)[j]? = some (.encoding h) ↔
      (j = k ∧ task = .encoding h) ∨ (j ≠ k ∧ tasks[j]? = some (.encoding h)) := by
  by_cases at_k : j = k
  · subst at_k
    rw [List.getElem?_set_self inside]
    simp
  · rw [List.getElem?_set_ne (Ne.symm at_k)]
    simp [at_k]

/-- The queue is empty. -/
theorem Orderly.returns (orderly : Orderly a old none) {k : Nat} (inside : k < a.heartbeatTasks.length)
    (empty : a.pendingHeartbeats = []) : Orderly (a.setHeartbeatTask k .finished) old none := by
  refine ⟨?_, orderly.calls, orderly.numbered, orderly.recorded, orderly.settled, ?_, ?_,
    orderly.waiting, orderly.sent, orderly.quiet⟩
  · intro j h
    rw [← orderly.encoding j h]
    change (a.heartbeatTasks.set k .finished)[j]? = _ ↔ _
    rw [encoding_set inside]
    constructor
    · rintro (⟨-, other⟩ | ⟨-, found⟩)
      · cases other
      · exact found
    · intro found
      cases (orderly.encoding j h).mp found
  · intro pending
    exact absurd empty pending
  · intro encoding
    exact absurd rfl encoding

/-- The last heartbeat of the queue is taken. -/
theorem Orderly.takes (orderly : Orderly a old none) {k : Nat}
    (found : a.heartbeatTasks[k]? = some .scheduled) {dropped : List (Heartbeat V)}
    {h : Heartbeat V} (queue : a.pendingHeartbeats = dropped ++ [h]) :
    Orderly ({ a with pendingHeartbeats := [] }.setHeartbeatTask k (.encoding h)) (old ++ dropped)
      (some (k, h)) := by
  have inside : k < a.heartbeatTasks.length := (List.getElem?_eq_some_iff.mp found).1
  have pending : a.pendingHeartbeats ≠ [] := by
    rw [queue]
    simp
  have unsent : a.completions = [] := orderly.unsent_of_pending pending
  refine ⟨?_, ?_, orderly.numbered, ?_, ?_, ?_, ?_, orderly.waiting, ?_, orderly.quiet⟩
  · intro j h'
    change (a.heartbeatTasks.set k (.encoding h))[j]? = _ ↔ _
    rw [encoding_set inside]
    constructor
    · rintro (⟨rfl, same⟩ | ⟨-, other⟩)
      · cases same
        rfl
      · cases (orderly.encoding j h').mp other
    · intro same
      cases same
      exact Or.inl ⟨rfl, rfl⟩
  · change a.heartbeatCalls = old ++ dropped ++ [h] ++ []
    rw [orderly.calls, queue]
    simp
  · exact orderly.recorded.trans (List.sublist_append_left _ _)
  · intro none
    cases none
  · intro more
    exact absurd rfl more
  · intro _
    -- The last task is the one that has just started, or still to start.
    obtain ⟨last, isLast, scheduled⟩ := orderly.queued pending
    by_cases own : last = k
    · subst own
      exact heartbeatRunning_of_encoding (h := h) isLast (List.getElem?_set_self inside)
    · have still : (a.heartbeatTasks.set k (.encoding h))[last]? = some .scheduled := by
        rw [List.getElem?_set_ne (Ne.symm own)]
        exact scheduled
      exact heartbeatRunning_of_scheduled (k := last) isLast still
  · intro sent
    exact absurd unsent sent

/-- The encoding task ends: nobody is encoding, and the queue is as it was. -/
theorem Orderly.encoding_ends {k : Nat} {h : Heartbeat V}
    (orderly : Orderly a old (some (k, h))) :
    (∀ j h', (a.heartbeatTasks.set k .finished)[j]? = some (.encoding h') ↔
      (none : Option (Nat × Heartbeat V)) = some (j, h')) ∧
    (a.pendingHeartbeats ≠ [] → ∃ last, a.lastHeartbeatTask = some last ∧
      (a.heartbeatTasks.set k .finished)[last]? = some .scheduled) := by
  have found : a.heartbeatTasks[k]? = some (.encoding h) := (orderly.encoding k h).mpr rfl
  have inside : k < a.heartbeatTasks.length := (List.getElem?_eq_some_iff.mp found).1
  constructor
  · intro j h'
    rw [encoding_set inside]
    constructor
    · rintro (⟨-, other⟩ | ⟨differs, other⟩)
      · cases other
      · cases (orderly.encoding j h').mp other
        exact absurd rfl differs
    · intro same
      cases same
  · intro pending
    obtain ⟨last, isLast, scheduled⟩ := orderly.queued pending
    refine ⟨last, isLast, ?_⟩
    rw [List.getElem?_set_ne]
    · exact scheduled
    · rintro rfl
      rw [found] at scheduled
      cases scheduled

theorem Orderly.records {k : Nat} {h : Heartbeat V} (orderly : Orderly a old (some (k, h))) :
    Orderly ({ a with
      calls := a.calls ++ [BridgeCall.recordActivityHeartbeat a.taskToken h] }.setHeartbeatTask
        k .finished) (old ++ [h]) none := by
  have unsent : a.completions = [] := orderly.unsent_of_current (by simp)
  have recorded : ({ a with
      calls := a.calls ++ [BridgeCall.recordActivityHeartbeat a.taskToken h] }.setHeartbeatTask
        k .finished).recorded = a.recorded ++ [h] := by
    simp [Activity.recorded, setHeartbeatTask]
  obtain ⟨free, queued⟩ := orderly.encoding_ends
  refine ⟨free, ?_, orderly.numbered, ?_, ?_, queued, ?_, orderly.waiting, ?_,
    recordsBefore_record orderly.quiet (unsent_calls unsent)⟩
  · change a.heartbeatCalls = old ++ [h] ++ [] ++ a.pendingHeartbeats
    rw [orderly.calls]
    simp
  · rw [recorded]
    exact orderly.recorded.append (List.Sublist.refl [h])
  · intro _ last isLast
    left
    rw [List.getLast?_concat] at isLast
    cases isLast
    rw [recorded]
    exact List.mem_append_right _ List.mem_cons_self
  · intro encoding
    exact absurd rfl encoding
  · intro sent
    apply absurd _ sent
    change { a with calls := a.calls ++ [_] }.completions = []
    rw [completions_append, unsent]
    rfl

theorem Orderly.fails {k : Nat} {h : Heartbeat V} (orderly : Orderly a old (some (k, h))) :
    Orderly ({ a with unencoded := a.unencoded ++ [h] }.setHeartbeatTask k .finished) (old ++ [h])
      none := by
  have unsent : a.completions = [] := orderly.unsent_of_current (by simp)
  obtain ⟨free, queued⟩ := orderly.encoding_ends
  refine ⟨free, ?_, orderly.numbered, ?_, ?_, queued, ?_, orderly.waiting, ?_, orderly.quiet⟩
  · change a.heartbeatCalls = old ++ [h] ++ [] ++ a.pendingHeartbeats
    rw [orderly.calls]
    simp
  · exact orderly.recorded.trans (List.sublist_append_left _ _)
  · intro _ last isLast
    right
    rw [List.getLast?_concat] at isLast
    cases isLast
    exact List.mem_append_right _ List.mem_cons_self
  · intro encoding
    exact absurd rfl encoding
  · intro sent
    exact absurd unsent sent

theorem Orderly.cancel (orderly : Orderly a old current) (byRequest : Bool)
    (error : Option PyError) : Orderly (a.cancel byRequest error) old current :=
  ⟨orderly.encoding, orderly.calls, orderly.numbered, orderly.recorded, orderly.settled,
    orderly.queued, orderly.awaited, orderly.waiting, orderly.sent, orderly.quiet⟩

theorem Orderly.heartbeatFailed {k : Nat} (error : PyError)
    (orderly : Orderly (a.setHeartbeatTask k .finished) old current) :
    Orderly (a.heartbeatFailed k error) old current := by
  unfold Activity.heartbeatFailed
  dsimp only
  split
  · exact orderly.cancel false (some error)
  · exact orderly

theorem Orderly.record {k : Nat} {h : Heartbeat V} (answers : HeartbeatAnswers)
    (orderly : Orderly a old (some (k, h))) :
    Orderly (a.record k answers h) (old ++ [h]) none := by
  unfold Activity.record
  dsimp only
  split
  · exact orderly.records
  · exact orderly.records.heartbeatFailed _

theorem Orderly.resumeHeartbeat (orderly : Orderly a old current) {k : Nat}
    {answers : HeartbeatAnswers} {a' : Activity T V P}
    (alone : a.heartbeatTasks[k]? = some .scheduled →
      ∀ (j : Nat) (h : Heartbeat V), a.heartbeatTasks[j]? ≠ some (HeartbeatTask.encoding h))
    (stepped : a.resumeHeartbeat k answers = some a') :
    ∃ old' current', Orderly a' old' current' := by
  unfold Activity.resumeHeartbeat at stepped
  split at stepped
  · rename_i found
    have inside : k < a.heartbeatTasks.length := (List.getElem?_eq_some_iff.mp found).1
    have idle : current = none := by
      rcases current with _ | ⟨j, h⟩
      · rfl
      · exact absurd ((orderly.encoding j h).mpr rfl) (alone found j h)
    subst idle
    split at stepped
    · rename_i empty
      cases stepped
      exact ⟨old, none, orderly.returns inside (List.getLast?_eq_none_iff.mp empty)⟩
    · rename_i h isLast
      obtain ⟨dropped, queue⟩ := List.getLast?_eq_some_iff.mp isLast
      have taken := orderly.takes found queue
      dsimp only at stepped
      split at stepped
      · cases stepped
        -- Without details there is nothing to wait for between the two.
        have recorded := taken.record answers
        have same : ({ a with pendingHeartbeats := [] }.setHeartbeatTask k
            (.encoding h)).record k answers h =
            { a with pendingHeartbeats := [] }.record k answers h := by
          simp [Activity.record, setHeartbeatTask, Activity.heartbeatFailed, List.set_set]
        rw [same] at recorded
        exact ⟨_, none, recorded⟩
      · cases stepped
        exact ⟨_, _, taken⟩
  · rename_i h found
    obtain rfl := (orderly.encoding k h).mp found
    split at stepped
    · cases stepped
      exact ⟨_, none, orderly.record answers⟩
    · cases stepped
      exact ⟨_, none, orderly.fails.heartbeatFailed _⟩
  · cases stepped
  · cases stepped

end Orderly

end Activity

/-! ### Runs -/

/-- The condition on a step: a heartbeat task starts only while no other one of
    its activity is encoding, and a call of `heartbeat` finds room in the queue. -/
def Action.oneAtATime [DecidableEq T] (s : State T V P) : Action T V P → Prop
  | .resumeHeartbeat i k _ => ∀ a, s.activities[i]? = some a →
      a.heartbeatTasks[k]? = some .scheduled →
      ∀ (j : Nat) (h : Heartbeat V), a.heartbeatTasks[j]? ≠ some (HeartbeatTask.encoding h)
  | .heartbeat token _ => ∀ i a, s.running? token = some (i, a) → a.done = false →
      a.pendingHeartbeats.length < Activity.maxPendingHeartbeats
  | _ => True

/-- Every activity has its heartbeats in order. -/
def AllOrderly (s : State T V P) : Prop :=
  ∀ a ∈ s.activities, ∃ old current, a.Orderly old current

theorem AllOrderly.set {s : State T V P} (before : AllOrderly s) {i : Nat} {a' : Activity T V P}
    (orderly : ∃ old current, a'.Orderly old current) : AllOrderly (s.setActivity i a') := by
  intro b member
  rcases List.mem_or_eq_of_mem_set member with there | rfl
  · exact before b there
  · exact orderly

theorem step_allOrderly [DecidableEq T] {cfg : Config} {s s' : State T V P}
    {action : Action T V P} (before : AllOrderly s) (oneAtATime : action.oneAtATime s)
    (stepped : s.step cfg action = some s') : AllOrderly s' := by
  cases action with
  | start token start =>
    simp only [State.step] at stepped
    split at stepped
    · cases stepped
      intro a member
      rcases List.mem_append.mp member with there | new
      · exact before a there
      · rw [List.mem_singleton.mp new]
        refine ⟨[], none, ?_⟩
        constructor <;> simp [Activity.recorded, Activity.completions, Activity.RecordsBefore]
    · cases stepped
  | cancel token =>
    simp only [State.step] at stepped
    split at stepped
    · split at stepped
      · rename_i i a found
        cases stepped
        obtain ⟨old, current, orderly⟩ := before a (List.mem_of_getElem? (State.running?_spec found))
        exact before.set ⟨old, current, orderly.cancel true none⟩
      · cases stepped
        exact before
    · cases stepped
  | resume i answers =>
    simp only [State.step] at stepped
    split at stepped
    · rename_i a found
      split at stepped
      · rename_i resumable
        cases stepped
        obtain ⟨old, current, orderly⟩ := before a (List.mem_of_getElem? found)
        have advances := a.resume_advances cfg answers resumable orderly.waiting
        exact before.set ⟨old, current, orderly.advances advances⟩
      · cases stepped
    · cases stepped
  | heartbeat token details =>
    simp only [State.step] at stepped
    split at stepped
    · rename_i i a found
      cases stepped
      obtain ⟨old, current, orderly⟩ := before a (List.mem_of_getElem? (State.running?_spec found))
      exact before.set ⟨old, current, orderly.heartbeat details (oneAtATime i a found)⟩
    · cases stepped
      exact before
  | resumeHeartbeat i k answers =>
    simp only [State.step] at stepped
    split at stepped
    · rename_i a found
      obtain ⟨a', ran, rfl⟩ := Option.map_eq_some_iff.mp stepped
      obtain ⟨old, current, orderly⟩ := before a (List.mem_of_getElem? found)
      exact before.set (orderly.resumeHeartbeat (oneAtATime a found) ran)
    · cases stepped

/-- Heartbeats are recorded in the order of the calls, the last one is recorded,
    and none after the completion. -/
theorem heartbeats_in_order [DecidableEq T] (cfg : Config) {s : State T V P}
    (run : Reaches (State.step cfg) (fun s action => action.oneAtATime s) (State.initial T V P) s)
    (a : Activity T V P) (member : a ∈ s.activities) :
    a.heartbeatCalls.map Heartbeat.call = List.range a.heartbeatCalls.length ∧
    a.recorded.Sublist a.heartbeatCalls ∧
    -- Once the last heartbeat task has ended, the last call has been recorded.
    (a.heartbeatRunning = false → ∀ h, a.heartbeatCalls.getLast? = some h →
      h ∈ a.recorded ∨ h ∈ a.unencoded) ∧
    (a.completions ≠ [] → ∀ h, a.heartbeatCalls.getLast? = some h →
      h ∈ a.recorded ∨ h ∈ a.unencoded) ∧
    Activity.RecordsBefore a.calls := by
  have inv : AllOrderly s := by
    refine run.invariant AllOrderly ?_ step_allOrderly
    intro b none
    cases none
  obtain ⟨old, current, orderly⟩ := inv a member
  have settled : a.pendingHeartbeats = [] ∧ current = none →
      ∀ h, a.heartbeatCalls.getLast? = some h → h ∈ a.recorded ∨ h ∈ a.unencoded := by
    rintro ⟨empty, idle⟩ h isLast
    have dealt : a.heartbeatCalls = old := by
      rw [orderly.calls, empty, idle]
      simp
    rw [dealt] at isLast
    exact orderly.settled idle h isLast
  refine ⟨orderly.numbered, ?_, ?_, ?_, orderly.quiet⟩
  · rw [orderly.calls, List.append_assoc]
    exact orderly.recorded.trans (List.sublist_append_left _ _)
  · intro ended
    exact settled (orderly.drained ended)
  · intro sent
    exact settled (orderly.sent sent).2

def encodes : HeartbeatAnswers where
  encode := .ok ()
  recordActivityHeartbeat := .ok ()

/-- One heartbeat at a time: the second call comes when the first heartbeat has
    been recorded. -/
theorem heartbeats_in_order_spaced :
    ∃ (s : State String String Unit) (a : Activity String String Unit),
      Reaches (State.step oneActivity) (fun s action => action.oneAtATime s)
        (State.initial String String Unit) s ∧
      a ∈ s.activities ∧ a.recorded.Sublist a.heartbeatCalls ∧ ⟨1, ["b"]⟩ ∈ a.recorded ∧
      Activity.RecordsBefore a.calls := by
  have initial : Reaches (State.step oneActivity) (fun s action => action.oneAtATime s)
      (State.initial String String Unit) (State.initial String String Unit) := Reaches.init
  have started := initial.step (.start "token" myActivity) trivial rfl
  have executing := started.step (.resume 0 noFailure) trivial rfl
  have first := executing.step (.heartbeat "token" ["a"])
    (fun i a found _ => by cases found; decide) rfl
  have encoding := first.step (.resumeHeartbeat 0 0 encodes)
    (fun a found _ j h encoding => by cases found; rcases j with _ | j <;> cases encoding) rfl
  have recorded := encoding.step (.resumeHeartbeat 0 0 encodes)
    (fun a found scheduled => by cases found; cases scheduled) rfl
  have second := recorded.step (.heartbeat "token" ["b"])
    (fun i a found _ => by cases found; decide) rfl
  have encoding' := second.step (.resumeHeartbeat 0 1 encodes)
    (fun a found _ j h encoding => by cases found; rcases j with _ | _ | j <;> cases encoding) rfl
  have recorded' := encoding'.step (.resumeHeartbeat 0 1 encodes)
    (fun a found scheduled => by cases found; cases scheduled) rfl
  have returned := recorded'.step (.resume 0 noFailure) trivial rfl
  have completing := returned.step (.resume 0 noFailure) trivial rfl
  obtain ⟨-, sublist, last, -, before⟩ :=
    heartbeats_in_order oneActivity completing _ List.mem_cons_self
  refine ⟨_, _, completing, List.mem_cons_self, sublist, ?_, before⟩
  rcases last rfl ⟨1, ["b"]⟩ rfl with there | failed
  · exact there
  · cases failed

/-- Two calls in a row: the task of the first drains the queue, that of the second
    finds it empty and ends, so that nothing holds up the completion while the
    first is still encoding. -/
theorem recorded_after_completion :
    ∃ (s : State String String Unit) (a : Activity String String Unit),
      Reaches (State.step oneActivity) (fun _ _ => True) (State.initial String String Unit) s ∧
      a ∈ s.activities ∧ a.unencoded = [] ∧
      a.calls = [.completeActivityTask ⟨"token", .completed ()⟩,
        .recordActivityHeartbeat "token" ⟨1, ["b"]⟩] ∧
      ¬ Activity.RecordsBefore a.calls := by
  have initial : Reaches (State.step oneActivity) (fun _ _ => True)
      (State.initial String String Unit) (State.initial String String Unit) := Reaches.init
  have started := initial.step (.start "token" myActivity) trivial rfl
  have executing := started.step (.resume 0 noFailure) trivial rfl
  have first := executing.step (.heartbeat "token" ["a"]) trivial rfl
  have second := first.step (.heartbeat "token" ["b"]) trivial rfl
  have drained := second.step (.resumeHeartbeat 0 0 encodes) trivial rfl
  have empty := drained.step (.resumeHeartbeat 0 1 encodes) trivial rfl
  have returned := empty.step (.resume 0 noFailure) trivial rfl
  have completing := returned.step (.resume 0 noFailure) trivial rfl
  have late := completing.step (.resumeHeartbeat 0 0 encodes) trivial rfl
  refine ⟨_, _, late, List.mem_cons_self, rfl, rfl, ?_⟩
  intro before
  have := (List.pairwise_cons.mp before).1 _ List.mem_cons_self rfl
  cases this

end TemporalSdk.ActivityWorker
