import TemporalSdk.Client.Schedules
import TemporalSdk.Properties.AttributeValues

/-!
# The patch that a schedule is created with

## Main results

`initial_patch_iff`: creating a schedule with options is creating it and then
triggering it and backfilling it, exactly if it is to be triggered or there is
nothing to backfill. Whenever there is a patch it triggers the schedule, so
backfills alone trigger it as well: `backfill_triggers`.

## Proof strategy

The request has the patch of the input. Its two parts are compared with the patches
of the two calls. What comes of a patch is up to the server, a parameter here with what
the calls rely on.
-/

namespace TemporalSdk.Schedules

open Bridge (Timestamp)
open SearchAttributes (Env)

variable {V E M C D W : Type} {times : Times D} {env : Env M C D} {encode : Encode V E}
  {sender : Sender} {requestId : String} {input : CreateScheduleInput V D}
  {request : CreateScheduleRequest}

/-! ### What comes of a patch -/

/-- What a server does at once for a patch of a schedule, which has an overlap policy. -/
structure Server (W : Type) where
  applied : Int32 → Api.SchedulePatch → List W
  /-- A trigger comes before the backfills, and neither depends on the other. -/
  applied_both : ∀ policy trigger backfills, applied policy ⟨some trigger, backfills⟩ =
    applied policy ⟨some trigger, []⟩ ++ applied policy ⟨none, backfills⟩
  /-- A trigger without an overlap policy has that of the schedule. -/
  applied_trigger : ∀ policy,
    applied policy ⟨some ⟨policy⟩, []⟩ = applied policy ⟨some ⟨0⟩, []⟩

/-- The request agrees with the calls `trigger` and `backfill` of the handle. -/
structure AgreesWithCalls (server : Server W) (times : Times D) (input : CreateScheduleInput V D)
    (request : CreateScheduleRequest) : Prop where
  triggers : (request.initialPatch.bind (·.triggerImmediately)).isSome = input.triggerImmediately
  backfills : ∀ requestId, ((request.initialPatch.map (·.backfillRequest)).getD []) =
    (backfillSchedule times request.sender requestId input.id input.backfill).patch.backfillRequest
  unpatched : input.triggerImmediately = false → input.backfill = [] → request.initialPatch = none
  effect : ∀ policies requestId requestId', request.schedule.policies = some policies →
    ((request.initialPatch.map (server.applied policies.overlapPolicy)).getD []) =
      (if input.triggerImmediately then
        server.applied policies.overlapPolicy
          (triggerSchedule request.sender requestId input.id none).patch
      else []) ++
      (if input.backfill.isEmpty then []
      else server.applied policies.overlapPolicy
        (backfillSchedule times request.sender requestId' input.id input.backfill).patch)

/-! ### The request -/

/-- The request has the patch and the policies of the input. -/
theorem createSchedule_ok
    (sent : input.createSchedule times env encode sender requestId = .ok request) :
    request.initialPatch = input.initialPatch times ∧
      request.schedule.policies = some (input.schedule.policy.toProto times) := by
  obtain ⟨-, -, sent⟩ := Converter.bind_eq_ok.mp sent
  obtain ⟨schedule, converted, sent⟩ := Converter.bind_eq_ok.mp sent
  obtain ⟨memo, -, sent⟩ := Converter.bind_eq_ok.mp sent
  obtain ⟨searchAttributes, -, sent⟩ := Converter.bind_eq_ok.mp sent
  cases sent
  obtain ⟨spec, -, converted⟩ := Converter.bind_eq_ok.mp converted
  obtain ⟨action, -, converted⟩ := Converter.bind_eq_ok.mp converted
  obtain ⟨state, -, converted⟩ := Converter.bind_eq_ok.mp converted
  cases converted
  exact ⟨rfl, rfl⟩

theorem initialPatch_none (times : Times D) (trigger : input.triggerImmediately = false)
    (nothing : input.backfill = []) : input.initialPatch times = none := by
  simp [CreateScheduleInput.initialPatch, trigger, nothing]

theorem initialPatch_some (times : Times D)
    (given : input.triggerImmediately = true ∨ input.backfill ≠ []) :
    input.initialPatch times = some
      { triggerImmediately := some ⟨input.schedule.policy.overlap.number⟩
        backfillRequest := input.backfill.map (ScheduleBackfill.toProto times) } := by
  apply if_pos
  simpa using given

/-- Backfills come without a trigger exactly if there are none, or there is one anyway. -/
theorem initial_patch_iff (server : Server W) (times : Times D) (env : Env M C D) (encode : Encode V E)
    (sender : Sender) (requestId : String) (input : CreateScheduleInput V D)
    (request : CreateScheduleRequest)
    (sent : input.createSchedule times env encode sender requestId = .ok request) :
    AgreesWithCalls server times input request ↔
      (input.triggerImmediately = true ∨ input.backfill = []) := by
  obtain ⟨patch, policies⟩ := createSchedule_ok sent
  cases trigger : input.triggerImmediately with
  | true =>
    -- a trigger was asked for, and is there
    have patched := patch.trans (initialPatch_some times (Or.inl trigger))
    refine iff_of_true ?_ (Or.inl rfl)
    constructor
    · rw [patched, trigger]
      rfl
    · intro requestId
      rw [patched]
      rfl
    · intro absent
      rw [trigger] at absent
      cases absent
    · intro policies' requestId requestId' same
      cases policies.symm.trans same
      rw [patched, trigger]
      have triggered := server.applied_trigger input.schedule.policy.overlap.number
      cases input.backfill with
      | nil =>
        rw [if_pos rfl, if_pos (by rfl), List.append_nil]
        exact triggered
      | cons backfill rest =>
        rw [if_pos rfl, if_neg (by simp)]
        have both := server.applied_both input.schedule.policy.overlap.number
          ⟨input.schedule.policy.overlap.number⟩
          ((backfill :: rest).map (ScheduleBackfill.toProto times))
        rw [triggered] at both
        exact both
  | false =>
    cases backfill : input.backfill with
    | nil =>
      -- nothing was asked for: there is no patch
      have unpatched := patch.trans (initialPatch_none times trigger backfill)
      refine iff_of_true ?_ (Or.inr rfl)
      constructor
      · rw [unpatched, trigger]
        rfl
      · intro requestId
        rw [unpatched, backfill]
        rfl
      · exact fun _ _ => unpatched
      · intro policies' requestId requestId' same
        rw [unpatched, trigger, backfill]
        rfl
    | cons first rest =>
      have given : input.backfill ≠ [] := by simp [backfill]
      -- backfills alone: the patch has a trigger that nobody has asked for
      have patched := patch.trans (initialPatch_some times (Or.inr given))
      refine iff_of_false ?_ (by simp)
      intro agrees
      have triggers := agrees.triggers
      rw [patched, trigger] at triggers
      cases triggers

/-- `Duration` and `Timestamp`, of durations that are not negative and of the first day
    of 2020. -/
def utcTimes : Times String where
  fromTimedelta d :=
    ⟨Int64.ofInt (d.microseconds / 1000000), Int32.ofInt (d.microseconds % 1000000 * 1000)⟩
  toTimedelta d :=
    (Timedelta.ofMicroseconds? (d.seconds.toInt * 1000000 + d.nanos.toInt / 1000)).getD default
  fromDatetime text := if text = "2020-01-01T00:00:00+00:00" then ⟨1577836800, 0⟩ else ⟨0, 0⟩
  toDatetime time :=
    if time = ⟨1577836800, 0⟩ then "2020-01-01T00:00:00+00:00" else "1970-01-01T00:00:00+00:00"

/-- A schedule without times, for a workflow without arguments. -/
def bareSchedule : Schedule Unit String where
  action :=
    { workflow := "workflow"
      id := "id"
      taskQueue := "queue"
      typedSearchAttributes := []
      distinct := List.nodup_nil }

/-- Created with one backfill. -/
def backfilled : CreateScheduleInput Unit String where
  id := "schedule"
  schedule := bareSchedule
  backfill := [⟨"2020-01-01T00:00:00+00:00", "2020-01-01T00:00:00+00:00", none⟩]

/-- A data converter that converts nothing. -/
def noValues : Encode Unit Unit := fun _ => .error ()

/-- What is done for a patch: a trigger starts the action once, a backfill for a span of time. -/
inductive Taken where
  | start (overlap : Int32)
  | backfill (startTime endTime : Option Timestamp) (overlap : Int32)

/-- A policy in the request is used in place of that of the schedule. -/
def overriding (policy requested : Int32) : Int32 := if requested = 0 then policy else requested

def takingServer : Server Taken where
  applied policy patch :=
    (patch.triggerImmediately.toList.map fun trigger =>
      .start (overriding policy trigger.overlapPolicy)) ++
    patch.backfillRequest.map fun backfill =>
      .backfill backfill.startTime backfill.endTime (overriding policy backfill.overlapPolicy)
  applied_both policy trigger backfills := by simp
  applied_trigger policy := by simp [overriding]

theorem initial_patch_iff_triggered : ∃ request,
    CreateScheduleInput.createSchedule utcTimes SearchAttributes.readingEnv noValues
      ⟨"default", "me"⟩ "request" { backfilled with triggerImmediately := true } = .ok request ∧
    (AgreesWithCalls takingServer utcTimes { backfilled with triggerImmediately := true } request ↔
      (true = true ∨ backfilled.backfill = [])) :=
  ⟨_, rfl, initial_patch_iff takingServer utcTimes SearchAttributes.readingEnv noValues ⟨"default", "me"⟩
    "request" { backfilled with triggerImmediately := true } _ rfl⟩

/-- One backfill and no trigger: the patch triggers the schedule. -/
theorem backfill_triggers : ∃ request,
    CreateScheduleInput.createSchedule utcTimes SearchAttributes.readingEnv noValues
      ⟨"default", "me"⟩ "request" backfilled = .ok request ∧
    backfilled.triggerImmediately = false ∧
    (request.initialPatch.bind (·.triggerImmediately)) = some ⟨1⟩ ∧
    ¬AgreesWithCalls takingServer utcTimes backfilled request := by
  refine ⟨_, rfl, rfl, rfl, fun agrees => ?_⟩
  have triggers := agrees.triggers
  cases triggers

end TemporalSdk.Schedules
