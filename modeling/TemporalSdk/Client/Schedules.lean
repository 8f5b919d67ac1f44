import Mathlib.Data.Int.Basic
import TemporalSdk.Bridge.Messages
import TemporalSdk.Conversion
import TemporalSdk.Workflow.TypedSearchAttributes

/-!
# Schedules

The schedules of the client and the messages they are converted to and read from,
`_to_proto` and `_from_proto`, and the patches that are sent with or for a schedule.

What protobuf makes of times is a parameter (`Times`), and so are the data converter
and dates `D`. A message with the default
value in every field is what reading an unset sub-message gives. Map fields are
dictionaries, and what their order is says nothing.
-/
namespace TemporalSdk.Schedules

open Bridge (Timestamp)
open Converter (ConverterError Duration Payloads)
open Converter.InPlace (Payload)
open SearchAttributes (AttributeValue Env GivenPair)

/-! ### Messages -/

namespace Api

structure Range where
  start : Int32 := 0
  «end» : Int32 := 0
  step : Int32 := 0
  deriving DecidableEq

structure StructuredCalendarSpec where
  second : List Range := []
  minute : List Range := []
  hour : List Range := []
  dayOfMonth : List Range := []
  month : List Range := []
  year : List Range := []
  dayOfWeek : List Range := []
  comment : String := ""
  deriving DecidableEq

structure IntervalSpec where
  interval : Option Duration := none
  phase : Option Duration := none
  deriving DecidableEq

structure ScheduleSpec where
  structuredCalendar : List StructuredCalendarSpec := []
  cronString : List String := []
  interval : List IntervalSpec := []
  excludeStructuredCalendar : List StructuredCalendarSpec := []
  startTime : Option Timestamp := none
  endTime : Option Timestamp := none
  jitter : Option Duration := none
  timezoneName : String := ""
  deriving DecidableEq

structure SchedulePolicies where
  /-- An open enumeration. -/
  overlapPolicy : Int32 := 0
  catchupWindow : Option Duration := none
  pauseOnFailure : Bool := false
  deriving DecidableEq

structure ScheduleState where
  notes : String := ""
  paused : Bool := false
  limitedActions : Bool := false
  remainingActions : Int64 := 0
  deriving DecidableEq

/-- The fields that the client writes. `workflow_type` and `task_queue` are the names
    in these messages, the three maps those in `memo`, `search_attributes` and `header`. -/
structure NewWorkflowExecutionInfo where
  workflowId : String := ""
  workflowType : Option String := none
  taskQueue : Option String := none
  input : Option (Payloads Payload) := none
  workflowExecutionTimeout : Option Duration := none
  workflowRunTimeout : Option Duration := none
  workflowTaskTimeout : Option Duration := none
  retryPolicy : Option Bridge.RetryPolicy := none
  memo : Option (Dict String Payload) := none
  searchAttributes : Option (Dict String Payload) := none
  header : Option (Dict String Payload) := none

/-- The only variant of the oneof `action` is `start_workflow`. -/
structure ScheduleAction where
  startWorkflow : Option NewWorkflowExecutionInfo := none

structure Schedule where
  spec : Option ScheduleSpec := none
  action : Option ScheduleAction := none
  policies : Option SchedulePolicies := none
  state : Option ScheduleState := none

structure TriggerImmediatelyRequest where
  overlapPolicy : Int32 := 0
  deriving DecidableEq

structure BackfillRequest where
  startTime : Option Timestamp := none
  endTime : Option Timestamp := none
  overlapPolicy : Int32 := 0
  deriving DecidableEq

/-- `pause` and `unpause` are not set here. -/
structure SchedulePatch where
  triggerImmediately : Option TriggerImmediatelyRequest := none
  backfillRequest : List BackfillRequest := []
  deriving DecidableEq

end Api

/-! ### Times and numbers -/

/-- `datetime.timedelta`: at most 999999999 days, and at least -999999999. -/
structure Timedelta where
  microseconds : Int
  above : -86399999913600000000 ≤ microseconds
  below : microseconds < 86400000000000000000
  deriving DecidableEq

namespace Timedelta

instance : Inhabited Timedelta := ⟨0, by decide, by decide⟩

/-- Arithmetic gives a `timedelta`, or raises an `OverflowError`. -/
def ofMicroseconds? (microseconds : Int) : Option Timedelta :=
  if inRange : -86399999913600000000 ≤ microseconds ∧ microseconds < 86400000000000000000 then
    some ⟨microseconds, inRange.1, inRange.2⟩
  else none

/-- `if self.jitter:` and the like: no time at all is as good as `None`. -/
def nonzero (d : Option Timedelta) : Option Timedelta := d.filter (·.microseconds ≠ 0)

theorem ofMicroseconds?_eq {n : Int} {d : Timedelta} (made : ofMicroseconds? n = some d) :
    d.microseconds = n := by
  unfold ofMicroseconds? at made
  split at made
  next =>
    cases made
    rfl
  next => cases made

theorem nonzero_idem (d : Option Timedelta) : nonzero (nonzero d) = nonzero d := by
  simp [nonzero, Option.filter_filter]

theorem nonzero_eq_some {d : Option Timedelta} {x : Timedelta} :
    nonzero d = some x ↔ d = some x ∧ x.microseconds ≠ 0 := by
  simp [nonzero, Option.filter_eq_some_iff]

theorem nonzero_some {x : Timedelta} :
    nonzero (some x) = if x.microseconds = 0 then none else some x := by
  by_cases zero : x.microseconds = 0 <;> simp [nonzero, Option.filter, zero]

end Timedelta

/-- What protobuf makes of times. Reading a `Timestamp` gives a date in UTC. -/
structure Times (D : Type) where
  fromTimedelta : Timedelta → Duration
  toTimedelta : Duration → Timedelta
  fromDatetime : D → Timestamp
  toDatetime : Timestamp → D

/-- What is raised on the way. -/
inductive ScheduleError (E : Type) where
  | valueError (message : String)
  | overflowError
  | indexError
  | converter (error : ConverterError)
  /-- Raised by the data converter of the client. -/
  | dataConverter (error : E)

variable {V E M C D : Type}

/-- `text or ""`. -/
def orEmpty (text : Option String) : String := text.getD ""

/-- `text or None`. -/
def orNone (text : String) : Option String := if text = "" then none else some text

/-- Setting a field of type `int32`. -/
def int32 (n : Int) : Except (ScheduleError E) Int32 :=
  if -2147483648 ≤ n ∧ n ≤ 2147483647 then .ok (Int32.ofInt n)
  else .error (.valueError s!"Value out of range: {n}")

/-- Setting a field of type `int64`. -/
def int64 (n : Int) : Except (ScheduleError E) Int64 :=
  if -9223372036854775808 ≤ n ∧ n ≤ 9223372036854775807 then .ok (Int64.ofInt n)
  else .error (.valueError s!"Value out of range: {n}")

/-! ### When the action is taken -/

/-- `ScheduleRange`, with what `__post_init__` sees to. -/
structure ScheduleRange where
  start : Int
  «end» : Int
  step : Int
  inclusive : start ≤ «end»
  stepped : step ≠ 0

namespace ScheduleRange

/-- The constructor. -/
def init (start «end» step : Int) : ScheduleRange where
  start := start
  «end» := if «end» < start then start else «end»
  step := if step = 0 then 1 else step
  inclusive := by split <;> omega
  stepped := by split <;> omega

def fromProto (range : Api.Range) : ScheduleRange :=
  init range.start.toInt range.end.toInt range.step.toInt

def toProto (self : ScheduleRange) : Except (ScheduleError E) Api.Range := do
  let start ← int32 self.start
  let «end» ← int32 self.end
  let step ← int32 self.step
  return ⟨start, «end», step⟩

end ScheduleRange

structure ScheduleCalendarSpec where
  second : List ScheduleRange := [.init 0 0 0]
  minute : List ScheduleRange := [.init 0 0 0]
  hour : List ScheduleRange := [.init 0 0 0]
  dayOfMonth : List ScheduleRange := [.init 1 31 0]
  month : List ScheduleRange := [.init 1 12 0]
  year : List ScheduleRange := []
  dayOfWeek : List ScheduleRange := [.init 0 6 0]
  comment : Option String := none

namespace ScheduleCalendarSpec

def fromProto (spec : Api.StructuredCalendarSpec) : ScheduleCalendarSpec where
  second := spec.second.map ScheduleRange.fromProto
  minute := spec.minute.map ScheduleRange.fromProto
  hour := spec.hour.map ScheduleRange.fromProto
  dayOfMonth := spec.dayOfMonth.map ScheduleRange.fromProto
  month := spec.month.map ScheduleRange.fromProto
  year := spec.year.map ScheduleRange.fromProto
  dayOfWeek := spec.dayOfWeek.map ScheduleRange.fromProto
  comment := orNone spec.comment

def toProto (self : ScheduleCalendarSpec) :
    Except (ScheduleError E) Api.StructuredCalendarSpec := do
  let second ← self.second.mapM ScheduleRange.toProto
  let minute ← self.minute.mapM ScheduleRange.toProto
  let hour ← self.hour.mapM ScheduleRange.toProto
  let dayOfMonth ← self.dayOfMonth.mapM ScheduleRange.toProto
  let month ← self.month.mapM ScheduleRange.toProto
  let year ← self.year.mapM ScheduleRange.toProto
  let dayOfWeek ← self.dayOfWeek.mapM ScheduleRange.toProto
  return ⟨second, minute, hour, dayOfMonth, month, year, dayOfWeek, orEmpty self.comment⟩

end ScheduleCalendarSpec

structure ScheduleIntervalSpec where
  every : Timedelta
  offset : Option Timedelta := none

structure ScheduleSpec (D : Type) where
  calendars : List ScheduleCalendarSpec := []
  intervals : List ScheduleIntervalSpec := []
  cronExpressions : List String := []
  skip : List ScheduleCalendarSpec := []
  startAt : Option D := none
  endAt : Option D := none
  jitter : Option Timedelta := none
  timeZoneName : Option String := none

section

variable (times : Times D)

/-- `ToTimedelta` of a sub-message, which reads as zero if it is not set. -/
def Times.read (d : Option Duration) : Timedelta := times.toTimedelta (d.getD ⟨0, 0⟩)

/-- A duration that is left out if it is zero. -/
def Times.write? (d : Option Timedelta) : Option Duration :=
  (Timedelta.nonzero d).map times.fromTimedelta

def ScheduleIntervalSpec.fromProto (spec : Api.IntervalSpec) : ScheduleIntervalSpec where
  every := times.read spec.interval
  offset := spec.phase.map times.toTimedelta

def ScheduleIntervalSpec.toProto (self : ScheduleIntervalSpec) : Api.IntervalSpec where
  interval := some (times.fromTimedelta self.every)
  phase := times.write? self.offset

def ScheduleSpec.fromProto (spec : Api.ScheduleSpec) : ScheduleSpec D where
  calendars := spec.structuredCalendar.map ScheduleCalendarSpec.fromProto
  intervals := spec.interval.map (ScheduleIntervalSpec.fromProto times)
  cronExpressions := spec.cronString
  skip := spec.excludeStructuredCalendar.map ScheduleCalendarSpec.fromProto
  startAt := spec.startTime.map times.toDatetime
  endAt := spec.endTime.map times.toDatetime
  jitter := spec.jitter.map times.toTimedelta
  timeZoneName := orNone spec.timezoneName

def ScheduleSpec.toProto (self : ScheduleSpec D) :
    Except (ScheduleError E) Api.ScheduleSpec := do
  let structuredCalendar ← self.calendars.mapM ScheduleCalendarSpec.toProto
  let excludeStructuredCalendar ← self.skip.mapM ScheduleCalendarSpec.toProto
  return {
    structuredCalendar := structuredCalendar
    cronString := self.cronExpressions
    interval := self.intervals.map (ScheduleIntervalSpec.toProto times)
    excludeStructuredCalendar := excludeStructuredCalendar
    startTime := self.startAt.map times.fromDatetime
    endTime := self.endAt.map times.fromDatetime
    jitter := times.write? self.jitter
    timezoneName := orEmpty self.timeZoneName }

end

/-! ### The action -/

/-- `temporalio.common.RetryPolicy`. -/
structure RetryPolicy where
  initialInterval : Timedelta := ⟨1000000, by decide, by decide⟩
  /-- A double, by its bits. -/
  backoffCoefficient : UInt64 := 0x4000000000000000
  maximumInterval : Option Timedelta := none
  maximumAttempts : Int := 0
  nonRetryableErrorTypes : Option (List String) := none

/-- `x < 1` of a double: no NaN is, and what is negative is. -/
def belowOne (x : UInt64) : Bool :=
  if x &&& 0x7FFFFFFFFFFFFFFF > 0x7FF0000000000000 then false
  else x ≥ 0x8000000000000000 || x < 0x3FF0000000000000

namespace RetryPolicy

/-- `_validate`. -/
def validate (self : RetryPolicy) : Except (ScheduleError E) Unit :=
  -- "Ignore other validation if disabling retries"
  if self.maximumAttempts = 1 then .ok ()
  else if self.initialInterval.microseconds < 0 then
    .error (.valueError "Initial interval cannot be negative")
  else if belowOne self.backoffCoefficient then
    .error (.valueError "Backoff coefficient cannot be less than 1")
  else
    match Timedelta.nonzero self.maximumInterval with
    | some maximum =>
      if maximum.microseconds < 0 then
        .error (.valueError "Maximum interval cannot be negative")
      else if maximum.microseconds < self.initialInterval.microseconds then
        .error (.valueError "Maximum interval cannot be less than initial interval")
      else if self.maximumAttempts < 0 then
        .error (.valueError "Maximum attempts cannot be negative")
      else .ok ()
    | none =>
      if self.maximumAttempts < 0 then
        .error (.valueError "Maximum attempts cannot be negative")
      else .ok ()

variable (times : Times D)

def fromProto (proto : Bridge.RetryPolicy) : RetryPolicy where
  initialInterval := times.read proto.initialInterval
  backoffCoefficient := proto.backoffCoefficient
  maximumInterval := proto.maximumInterval.map times.toTimedelta
  maximumAttempts := proto.maximumAttempts.toInt
  nonRetryableErrorTypes :=
    if proto.nonRetryableErrorTypes.isEmpty then none else some proto.nonRetryableErrorTypes

/-- `self.maximum_interval or self.initial_interval * 100`. -/
def writtenMaximum (self : RetryPolicy) : Except (ScheduleError E) Timedelta :=
  match Timedelta.nonzero self.maximumInterval with
  | some maximum => .ok maximum
  | none =>
    match Timedelta.ofMicroseconds? (self.initialInterval.microseconds * 100) with
    | some maximum => .ok maximum
    | none => .error .overflowError

/-- `apply_to_proto` of an empty message. -/
def toProto (self : RetryPolicy) : Except (ScheduleError E) Bridge.RetryPolicy := do
  self.validate
  let maximumInterval ← self.writtenMaximum
  let maximumAttempts ← int32 self.maximumAttempts
  return {
    initialInterval := some (times.fromTimedelta self.initialInterval)
    backoffCoefficient := self.backoffCoefficient
    maximumInterval := some (times.fromTimedelta maximumInterval)
    maximumAttempts := maximumAttempts
    nonRetryableErrorTypes := self.nonRetryableErrorTypes.getD [] }

end RetryPolicy

/-- A value, or what it has been converted to already. -/
inductive Given (V : Type) where
  | payload (p : Payload)
  | value (v : V)

/-- `data_converter.encode` of the client. -/
abbrev Encode (V E : Type) := List V → Except E (List Payload)

/-- `(await client.data_converter.encode([a]))[0]`, unless it is a payload. -/
def Given.encoded (encode : Encode V E) : Given V → Except (ScheduleError E) Payload
  | .payload p => .ok p
  | .value v =>
    match encode [v] with
    | .ok (p :: _) => .ok p
    | .ok [] => .error .indexError
    | .error error => .error (.dataConverter error)

/-- `ScheduleActionStartWorkflow`. -/
structure ScheduleActionStartWorkflow (V D : Type) where
  workflow : String
  args : List (Given V) := []
  id : String
  taskQueue : String
  executionTimeout : Option Timedelta := none
  runTimeout : Option Timedelta := none
  taskTimeout : Option Timedelta := none
  retryPolicy : Option RetryPolicy := none
  memo : Option (Dict String (Given V)) := none
  /-- The pairs of `typed_search_attributes`, no name twice. -/
  typedSearchAttributes : List (GivenPair D) := []
  distinct : (SearchAttributes.names (typedSearchAttributes.map GivenPair.asList)).Nodup
  untypedSearchAttributes : Dict String (List (AttributeValue D)) := .empty
  headers : Option (Dict String Payload) := none

theorem decoded_distinct {env : Env M C D} {attributes : Dict String Payload}
    {pairs : List (SearchAttributes.SearchAttributePair D)}
    (decoded : SearchAttributes.decodeTypedSearchAttributes env attributes = .ok pairs) :
    (SearchAttributes.names ((pairs.map GivenPair.plain).map GivenPair.asList)).Nodup := by
  have same : (pairs.map GivenPair.plain).map GivenPair.asList = pairs := by
    rw [List.map_map]
    exact List.map_id pairs
  rw [same]
  unfold SearchAttributes.decodeTypedSearchAttributes at decoded
  cases listed : SearchAttributes.decodePairs env attributes.entries with
  | error error =>
    rw [listed] at decoded
    cases decoded
  | ok found =>
    rw [listed] at decoded
    simp only [bind, Except.bind] at decoded
    split at decoded
    next => cases decoded
    next none =>
      cases decoded
      exact SearchAttributes.nodup_of_duplicate_none
        (SearchAttributes.sortedByName_sorted found) none

namespace ScheduleActionStartWorkflow

variable (times : Times D) (env : Env M C D) (encode : Encode V E)

/-- `mapping if mapping else None`. -/
def unlessEmpty {α : Type} (d : Option (Dict String α)) : Option (Dict String α) :=
  d.filter fun d => !d.entries.isEmpty

/-- `encode_search_attributes` of untyped attributes, which all have the names of entries:
    no key of a typed attribute equals a name, so none is left out for a typed one. -/
def encodeUntyped (untyped : Dict String (List (AttributeValue D))) :
    Except (ScheduleError E) (Dict String Payload) :=
  (convertEntries (SearchAttributes.encodeSearchAttributeValues env) untyped).mapError .converter

/-- The search attributes of the message: typed attributes after, and in place of, untyped. -/
def searchAttributes (self : ScheduleActionStartWorkflow V D) :
    Except (ScheduleError E) (Option (Dict String Payload)) := do
  let indexedFields ← encodeUntyped env self.untypedSearchAttributes
  let indexedFields ← (SearchAttributes.encodeSearchAttributes env self.typedSearchAttributes
    indexedFields).mapError .converter
  return unlessEmpty (some indexedFields)

/-- The typed attributes of a message, which are a collection. -/
def decodedTyped (attributes : Dict String Payload) : Except ConverterError
    { pairs : List (GivenPair D) // (SearchAttributes.names (pairs.map GivenPair.asList)).Nodup } :=
  match decoded : SearchAttributes.decodeTypedSearchAttributes env attributes with
  | .error error => .error error
  | .ok pairs => .ok ⟨pairs.map GivenPair.plain, decoded_distinct decoded⟩

/-- `__init__` with `raw_info`. The untyped attributes are those that are not typed. -/
def fromProto (rawInfo : Api.NewWorkflowExecutionInfo) :
    Except (ScheduleError E) (ScheduleActionStartWorkflow V D) := do
  let attributes := rawInfo.searchAttributes.getD .empty
  let typed ← (decodedTyped env attributes).mapError .converter
  let untyped ← (SearchAttributes.decodeSearchAttributes env attributes).mapError .converter
  return {
    workflow := orEmpty rawInfo.workflowType
    args := (rawInfo.input.getD ⟨[]⟩).payloads.map .payload
    id := rawInfo.workflowId
    taskQueue := orEmpty rawInfo.taskQueue
    executionTimeout := rawInfo.workflowExecutionTimeout.map times.toTimedelta
    runTimeout := rawInfo.workflowRunTimeout.map times.toTimedelta
    taskTimeout := rawInfo.workflowTaskTimeout.map times.toTimedelta
    retryPolicy := rawInfo.retryPolicy.map (RetryPolicy.fromProto times)
    memo := (unlessEmpty rawInfo.memo).map fun fields => fields.mapValues .payload
    typedSearchAttributes := typed.1
    distinct := typed.2
    untypedSearchAttributes := typed.1.foldl (fun untyped pair =>
      untyped.erase pair.asList.key.name) untyped
    headers := unlessEmpty rawInfo.header }

def toProto (self : ScheduleActionStartWorkflow V D) :
    Except (ScheduleError E) Api.ScheduleAction := do
  let retryPolicy ← self.retryPolicy.mapM (RetryPolicy.toProto times)
  let input ← self.args.mapM (Given.encoded encode)
  let memo ← (unlessEmpty self.memo).mapM (convertEntries (Given.encoded encode))
  let searchAttributes ← self.searchAttributes env
  return {
    startWorkflow := some
      { workflowId := self.id
        workflowType := some self.workflow
        taskQueue := some self.taskQueue
        input := if input.isEmpty then none else some ⟨input⟩
        workflowExecutionTimeout := times.write? self.executionTimeout
        workflowRunTimeout := times.write? self.runTimeout
        workflowTaskTimeout := times.write? self.taskTimeout
        retryPolicy := retryPolicy
        memo := memo
        searchAttributes := searchAttributes
        header := unlessEmpty self.headers } }

end ScheduleActionStartWorkflow

/-! ### Policies, state and the schedule -/

inductive ScheduleOverlapPolicy where
  | skip
  | bufferOne
  | bufferAll
  | cancelOther
  | terminateOther
  | allowAll
  deriving DecidableEq

/-- The number of the `IntEnum`. -/
def ScheduleOverlapPolicy.number : ScheduleOverlapPolicy → Int32
  | .skip => 1
  | .bufferOne => 2
  | .bufferAll => 3
  | .cancelOther => 4
  | .terminateOther => 5
  | .allowAll => 6

/-- `ScheduleOverlapPolicy(int(value))`. -/
def ScheduleOverlapPolicy.ofNumber (value : Int32) :
    Except (ScheduleError E) ScheduleOverlapPolicy :=
  if value = 1 then .ok .skip
  else if value = 2 then .ok .bufferOne
  else if value = 3 then .ok .bufferAll
  else if value = 4 then .ok .cancelOther
  else if value = 5 then .ok .terminateOther
  else if value = 6 then .ok .allowAll
  else .error (.valueError s!"{value.toInt} is not a valid ScheduleOverlapPolicy")

structure SchedulePolicy where
  overlap : ScheduleOverlapPolicy := .skip
  catchupWindow : Timedelta := ⟨60000000, by decide, by decide⟩
  pauseOnFailure : Bool := false

def SchedulePolicy.fromProto (times : Times D) (pol : Api.SchedulePolicies) :
    Except (ScheduleError E) SchedulePolicy := do
  let overlap ← ScheduleOverlapPolicy.ofNumber pol.overlapPolicy
  return ⟨overlap, times.read pol.catchupWindow, pol.pauseOnFailure⟩

def SchedulePolicy.toProto (times : Times D) (self : SchedulePolicy) : Api.SchedulePolicies where
  overlapPolicy := self.overlap.number
  catchupWindow := some (times.fromTimedelta self.catchupWindow)
  pauseOnFailure := self.pauseOnFailure

structure ScheduleState where
  note : Option String := none
  paused : Bool := false
  limitedActions : Bool := false
  remainingActions : Int := 0

def ScheduleState.fromProto (state : Api.ScheduleState) : ScheduleState where
  note := orNone state.notes
  paused := state.paused
  limitedActions := state.limitedActions
  remainingActions := state.remainingActions.toInt

def ScheduleState.toProto (self : ScheduleState) :
    Except (ScheduleError E) Api.ScheduleState := do
  let remainingActions ← int64 self.remainingActions
  return ⟨orEmpty self.note, self.paused, self.limitedActions, remainingActions⟩

/-- A schedule that starts a workflow. -/
structure Schedule (V D : Type) where
  action : ScheduleActionStartWorkflow V D
  spec : ScheduleSpec D := {}
  policy : SchedulePolicy := {}
  state : ScheduleState := {}

namespace Schedule

variable (times : Times D) (env : Env M C D) (encode : Encode V E)

/-- `ScheduleAction._from_proto`. -/
def actionFromProto (action : Api.ScheduleAction) :
    Except (ScheduleError E) (ScheduleActionStartWorkflow V D) :=
  match action.startWorkflow with
  | some info => ScheduleActionStartWorkflow.fromProto times env info
  | none => .error (.valueError "Unsupported action: None")

def fromProto (sched : Api.Schedule) : Except (ScheduleError E) (Schedule V D) := do
  let action ← actionFromProto times env (sched.action.getD {})
  let policy ← SchedulePolicy.fromProto times (sched.policies.getD {})
  return {
    action := action
    spec := .fromProto times (sched.spec.getD {})
    policy := policy
    state := .fromProto (sched.state.getD {}) }

def toProto (self : Schedule V D) : Except (ScheduleError E) Api.Schedule := do
  let spec ← self.spec.toProto times
  let action ← self.action.toProto times env encode
  let state ← self.state.toProto
  return {
    spec := some spec
    action := some action
    policies := some (self.policy.toProto times)
    state := some state }

end Schedule

/-! ### Patches -/

structure ScheduleBackfill (D : Type) where
  startAt : D
  endAt : D
  overlap : Option ScheduleOverlapPolicy := none

/-- The number of a policy, if there is one: 0 is `SCHEDULE_OVERLAP_POLICY_UNSPECIFIED`. -/
def overlapNumber (overlap : Option ScheduleOverlapPolicy) : Int32 :=
  (overlap.map ScheduleOverlapPolicy.number).getD 0

def ScheduleBackfill.toProto (times : Times D) (self : ScheduleBackfill D) :
    Api.BackfillRequest where
  startTime := some (times.fromDatetime self.startAt)
  endTime := some (times.fromDatetime self.endAt)
  overlapPolicy := overlapNumber self.overlap

structure CreateScheduleInput (V D : Type) where
  id : String
  schedule : Schedule V D
  triggerImmediately : Bool := false
  backfill : List (ScheduleBackfill D) := []
  memo : Option (Dict String V) := none
  /-- Untyped attributes or, given as pairs, typed ones. -/
  searchAttributes : Dict String (List (AttributeValue D)) ⊕ List (GivenPair D) := .inl .empty

/-- What every request says of the client. -/
structure Sender where
  «namespace» : String
  identity : String

structure CreateScheduleRequest where
  sender : Sender
  scheduleId : String
  schedule : Api.Schedule
  initialPatch : Option Api.SchedulePatch
  requestId : String
  memo : Option (Dict String Payload)
  searchAttributes : Option (Dict String Payload)

structure PatchScheduleRequest where
  sender : Sender
  scheduleId : String
  patch : Api.SchedulePatch
  requestId : String

/-- "Limited actions must be false if remaining actions is 0 and must be true if remaining
    actions is non-zero". -/
def ScheduleState.check (self : ScheduleState) : Except (ScheduleError E) Unit :=
  if self.limitedActions = true ∧ self.remainingActions = 0 then
    .error (.valueError "Must set limited actions to false if there are no remaining actions set")
  else if self.limitedActions = false ∧ self.remainingActions ≠ 0 then
    .error (.valueError "Must set limited actions to true if there are remaining actions set")
  else .ok ()

namespace CreateScheduleInput

variable (times : Times D) (env : Env M C D) (encode : Encode V E)

/-- `initial_patch`. -/
def initialPatch (input : CreateScheduleInput V D) : Option Api.SchedulePatch :=
  if input.triggerImmediately || !input.backfill.isEmpty then some
    { triggerImmediately := some ⟨input.schedule.policy.overlap.number⟩
      backfillRequest := input.backfill.map (ScheduleBackfill.toProto times) }
  else none

/-- The search attributes of the schedule itself. -/
def encodedAttributes (input : CreateScheduleInput V D) :
    Except (ScheduleError E) (Option (Dict String Payload)) := do
  let indexedFields ← match input.searchAttributes with
    | .inl untyped => ScheduleActionStartWorkflow.encodeUntyped env untyped
    | .inr typed => (SearchAttributes.encodeSearchAttributes env typed .empty).mapError .converter
  return ScheduleActionStartWorkflow.unlessEmpty (some indexedFields)

/-- `create_schedule`, as far as the request. -/
def createSchedule (sender : Sender) (requestId : String) (input : CreateScheduleInput V D) :
    Except (ScheduleError E) CreateScheduleRequest := do
  input.schedule.state.check
  let schedule ← input.schedule.toProto times env encode
  let memo ← (ScheduleActionStartWorkflow.unlessEmpty input.memo).mapM
    (convertEntries fun v => (Given.value v).encoded encode)
  let searchAttributes ← input.encodedAttributes env
  return ⟨sender, input.id, schedule, input.initialPatch times, requestId, memo, searchAttributes⟩

end CreateScheduleInput

/-- `backfill_schedule`. -/
def backfillSchedule (times : Times D) (sender : Sender) (requestId id : String)
    (backfills : List (ScheduleBackfill D)) : PatchScheduleRequest where
  sender := sender
  scheduleId := id
  patch := { backfillRequest := backfills.map (ScheduleBackfill.toProto times) }
  requestId := requestId

/-- `trigger_schedule`. -/
def triggerSchedule (sender : Sender) (requestId id : String)
    (overlap : Option ScheduleOverlapPolicy) : PatchScheduleRequest where
  sender := sender
  scheduleId := id
  patch := { triggerImmediately := some ⟨overlapNumber overlap⟩ }
  requestId := requestId

end TemporalSdk.Schedules
