import TemporalSdk.Converter.Codec

/-!
# Activations and completions

The messages core and a workflow instance exchange, `WorkflowActivation` and
`WorkflowActivationCompletion`, with every variant of a job and of a command.
They are generic in the type of payloads. A sub-message or a oneof that may be
absent is an `Option`; a map field is the list of its entries; enumerations are
open, so they are numbers.
-/
namespace TemporalSdk.Bridge

open Converter

variable {P : Type}

/-- `google.protobuf.Timestamp`. -/
structure Timestamp where
  seconds : Int64
  nanos : Int32
  deriving DecidableEq

/-- `temporalio.api.common.v1.RetryPolicy`. -/
structure RetryPolicy where
  initialInterval : Option Duration
  /-- A double, by its bits. -/
  backoffCoefficient : UInt64
  maximumInterval : Option Duration
  maximumAttempts : Int32
  nonRetryableErrorTypes : List String
  deriving DecidableEq

/-- `NamespacedWorkflowExecution`. -/
structure NamespacedWorkflowExecution where
  «namespace» : String
  workflowId : String
  runId : String
  deriving DecidableEq

/-! ### Jobs -/

structure StartWorkflow (P : Type) where
  workflowType : String
  workflowId : String
  arguments : List P
  randomnessSeed : UInt64
  headers : List (String × P)
  identity : String
  parentWorkflowInfo : Option NamespacedWorkflowExecution
  workflowExecutionTimeout : Option Duration
  workflowRunTimeout : Option Duration
  workflowTaskTimeout : Option Duration
  continuedFromExecutionRunId : String
  continuedInitiator : Int32
  continuedFailure : Option (Failure P)
  lastCompletionResult : Option (Payloads P)
  firstExecutionRunId : String
  retryPolicy : Option RetryPolicy
  attempt : Int32
  cronSchedule : String
  workflowExecutionExpirationTime : Option Timestamp
  cronScheduleToScheduleInterval : Option Duration
  memo : Option (List (String × P))
  searchAttributes : Option (List (String × P))
  startTime : Option Timestamp

structure QueryWorkflow (P : Type) where
  queryId : String
  queryType : String
  arguments : List P
  headers : List (String × P)

structure SignalWorkflow (P : Type) where
  signalName : String
  input : List P
  identity : String
  headers : List (String × P)

structure DoUpdate (P : Type) where
  id : String
  protocolInstanceId : String
  name : String
  input : List P
  headers : List (String × P)
  /-- `Meta`: the update's id and the caller's identity. -/
  «meta» : Option (String × String)
  runValidator : Bool

/-- `activity_result.DoBackoff`. -/
structure DoBackoff where
  attempt : UInt32
  backoffDuration : Option Duration
  originalScheduleTime : Option Timestamp
  deriving DecidableEq

/-- The status of `activity_result.ActivityResolution`. -/
inductive ActivityResolution (P : Type) where
  | completed (result : Option P)
  | failed (failure : Option (Failure P))
  | cancelled (failure : Option (Failure P))
  | backoff (backoff : DoBackoff)

/-- The status of `child_workflow.ChildWorkflowResult`. -/
inductive ChildWorkflowResult (P : Type) where
  | completed (result : Option P)
  | failed (failure : Option (Failure P))
  | cancelled (failure : Option (Failure P))

/-- The status of `ResolveChildWorkflowExecutionStart`. -/
inductive ChildWorkflowStart (P : Type) where
  | succeeded (runId : String)
  | failed (workflowId workflowType : String) (cause : Int32)
  | cancelled (failure : Option (Failure P))

/-- `WorkflowActivationJob`. -/
inductive WorkflowActivationJob (P : Type) where
  | startWorkflow (job : StartWorkflow P)
  | fireTimer (seq : UInt32)
  | updateRandomSeed (randomnessSeed : UInt64)
  | queryWorkflow (job : QueryWorkflow P)
  | cancelWorkflow (details : List P)
  | signalWorkflow (job : SignalWorkflow P)
  | resolveActivity (seq : UInt32) (result : Option (ActivityResolution P))
  | notifyHasPatch (patchId : String)
  | resolveChildWorkflowExecutionStart (seq : UInt32) (status : Option (ChildWorkflowStart P))
  | resolveChildWorkflowExecution (seq : UInt32) (result : Option (ChildWorkflowResult P))
  | resolveSignalExternalWorkflow (seq : UInt32) (failure : Option (Failure P))
  | resolveRequestCancelExternalWorkflow (seq : UInt32) (failure : Option (Failure P))
  | doUpdate (job : DoUpdate P)
  | removeFromCache (message : String) (reason : Int32)
  /-- No variant is set. -/
  | notSet

structure WorkflowActivation (P : Type) where
  runId : String
  timestamp : Option Timestamp
  isReplaying : Bool
  historyLength : UInt32
  jobs : List (WorkflowActivationJob P)
  availableInternalFlags : List UInt32
  historySizeBytes : UInt64
  continueAsNewSuggested : Bool
  buildIdForCurrentTask : String

/-! ### Commands -/

structure ScheduleActivity (P : Type) where
  seq : UInt32
  activityId : String
  activityType : String
  taskQueue : String
  headers : List (String × P)
  arguments : List P
  scheduleToCloseTimeout : Option Duration
  scheduleToStartTimeout : Option Duration
  startToCloseTimeout : Option Duration
  heartbeatTimeout : Option Duration
  retryPolicy : Option RetryPolicy
  cancellationType : Int32
  doNotEagerlyExecute : Bool
  versioningIntent : Int32

structure ScheduleLocalActivity (P : Type) where
  seq : UInt32
  activityId : String
  activityType : String
  attempt : UInt32
  originalScheduleTime : Option Timestamp
  headers : List (String × P)
  arguments : List P
  scheduleToCloseTimeout : Option Duration
  scheduleToStartTimeout : Option Duration
  startToCloseTimeout : Option Duration
  retryPolicy : Option RetryPolicy
  localRetryThreshold : Option Duration
  cancellationType : Int32

structure ContinueAsNewWorkflowExecution (P : Type) where
  workflowType : String
  taskQueue : String
  arguments : List P
  workflowRunTimeout : Option Duration
  workflowTaskTimeout : Option Duration
  memo : List (String × P)
  headers : List (String × P)
  searchAttributes : List (String × P)
  retryPolicy : Option RetryPolicy
  versioningIntent : Int32

structure StartChildWorkflowExecution (P : Type) where
  seq : UInt32
  «namespace» : String
  workflowId : String
  workflowType : String
  taskQueue : String
  input : List P
  workflowExecutionTimeout : Option Duration
  workflowRunTimeout : Option Duration
  workflowTaskTimeout : Option Duration
  parentClosePolicy : Int32
  workflowIdReusePolicy : Int32
  retryPolicy : Option RetryPolicy
  cronSchedule : String
  headers : List (String × P)
  memo : List (String × P)
  searchAttributes : List (String × P)
  cancellationType : Int32
  versioningIntent : Int32

/-- The target oneof of the commands for other workflows. -/
inductive ExternalTarget where
  | workflowExecution (execution : NamespacedWorkflowExecution)
  | childWorkflowId (id : String)
  deriving DecidableEq

structure SignalExternalWorkflowExecution (P : Type) where
  seq : UInt32
  target : Option ExternalTarget
  signalName : String
  args : List P
  headers : List (String × P)

/-- The variants of `QueryResult`. -/
inductive QueryResult (P : Type) where
  | succeeded (response : Option P)
  | failed (failure : Failure P)

/-- The response of `UpdateResponse`. -/
inductive UpdateResponse (P : Type) where
  | accepted
  | rejected (failure : Failure P)
  | completed (result : P)

/-- `WorkflowCommand`. -/
inductive WorkflowCommand (P : Type) where
  | startTimer (seq : UInt32) (startToFireTimeout : Option Duration)
  | scheduleActivity (command : ScheduleActivity P)
  | respondToQuery (queryId : String) (result : Option (QueryResult P))
  | requestCancelActivity (seq : UInt32)
  | cancelTimer (seq : UInt32)
  | completeWorkflowExecution (result : Option P)
  | failWorkflowExecution (failure : Option (Failure P))
  | continueAsNewWorkflowExecution (command : ContinueAsNewWorkflowExecution P)
  | cancelWorkflowExecution
  | setPatchMarker (patchId : String) (deprecated : Bool)
  | startChildWorkflowExecution (command : StartChildWorkflowExecution P)
  | cancelChildWorkflowExecution (childWorkflowSeq : UInt32)
  | requestCancelExternalWorkflowExecution (seq : UInt32) (target : Option ExternalTarget)
  | signalExternalWorkflowExecution (command : SignalExternalWorkflowExecution P)
  | cancelSignalWorkflow (seq : UInt32)
  | scheduleLocalActivity (command : ScheduleLocalActivity P)
  | requestCancelLocalActivity (seq : UInt32)
  | upsertWorkflowSearchAttributes (searchAttributes : List (String × P))
  | modifyWorkflowProperties (upsertedMemo : Option (List (String × P)))
  | updateResponse (protocolInstanceId : String) (response : Option (UpdateResponse P))
  /-- No variant is set. -/
  | notSet

/-- The status of a completion. -/
inductive CompletionStatus (P : Type) where
  | successful (commands : List (WorkflowCommand P)) (usedInternalFlags : List UInt32)
  | failed (failure : Option (Failure P)) (forceCause : Int32)

structure WorkflowActivationCompletion (P : Type) where
  runId : String
  status : Option (CompletionStatus P)

end TemporalSdk.Bridge
