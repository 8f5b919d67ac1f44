import TemporalSdk.Client.UpdateHandle

/-!
# Calls of the client

The calls of `_ClientImpl` that turn an `RPCError` into an error of their own, from
where the request has been built: starting and querying workflows, creating schedules,
and starting updates.
-/
namespace TemporalSdk.Client

open Converter

variable {P T : Type}

/-! ### Starting a workflow -/

/-- The fields of `StartWorkflowInput` that what happens after the call depends on. -/
structure StartWorkflowInput (T : Type) where
  workflow : String
  id : String
  /-- Given, the workflow is started with this signal. -/
  startSignal : Option String
  retType : Option T

/-- `StartWorkflowExecutionResponse`, and `SignalWithStartWorkflowExecutionResponse`,
    which has no eager task. -/
structure StartResponse where
  runId : String
  eagerWorkflowTask : Bool

structure WorkflowHandle (T : Type) where
  id : String
  resultRunId : String
  firstExecutionRunId : Option String
  resultType : Option T
  /-- `__temporal_eagerly_started`. -/
  eagerlyStarted : Bool

/-- `start_workflow`. -/
def startWorkflow (protobuf : Protobuf) (input : StartWorkflowInput T) :
    Answer StartResponse → Except (ClientError P) (WorkflowHandle T)
  | .response resp =>
    .ok
      { id := input.id
        resultRunId := resp.runId
        firstExecutionRunId := if input.startSignal.isSome then none else some resp.runId
        resultType := input.retType
        eagerlyStarted := input.startSignal.isNone && resp.eagerWorkflowTask }
  | .rpcError err =>
    -- "If the status is ALREADY_EXISTS and the details can be extracted as already
    -- started, use a different exception"
    if err.status = .alreadyExists then
      match protobuf.grpcStatusDetails err.rawGrpcStatus with
      | none => .error .decodeError
      | some [] => .error (.rpcError err)
      | some (detail :: _) =>
        if detail.Is workflowExecutionAlreadyStartedFailure then
          match protobuf.alreadyStartedRunId detail.value with
          | some runId => .error (.workflowAlreadyStartedError input.id input.workflow runId)
          | none => .error .decodeError
        -- The handler ends, and `resp.run_id` is read although nothing was assigned.
        else .error (.unboundLocalError "resp")
    else .error (.rpcError err)
  | .cancelledError => .error .cancelledError

/-! ### Creating a schedule -/

/-- `create_schedule`: the handle has the ID that was given. -/
def createSchedule (protobuf : Protobuf) (id : String) :
    Answer Unit → Except (ClientError P) String
  | .response () => .ok id
  | .rpcError err =>
    if err.status = .alreadyExists then
      match protobuf.grpcStatusDetails err.rawGrpcStatus with
      | none => .error .decodeError
      | some [] => .error (.rpcError err)
      | some (detail :: _) =>
        if detail.Is workflowExecutionAlreadyStartedFailure then
          .error .scheduleAlreadyRunningError
        else .error (.rpcError err)
    else .error (.rpcError err)
  | .cancelledError => .error .cancelledError

/-! ### Querying a workflow -/

/-- `QueryWorkflowResponse`. -/
structure QueryResponse (P : Type) where
  /-- The status of `query_rejected`, if that is set. -/
  queryRejected : Option Int32
  queryResult : List P

/-- `WorkflowExecutionStatus(status) if status else None`. -/
def rejectionStatus (status : Int32) : Except ConversionError (Option Int32) :=
  if status = 0 then .ok none
  else if 1 ≤ status ∧ status ≤ 7 then .ok (some status)
  else .error (.valueError s!"{status.toInt} is not a valid WorkflowExecutionStatus")

/-- `query_workflow`, with the return type of the query. -/
def queryWorkflow (converter : Converter.DataConverter P T) (retType : Option T) :
    Answer (QueryResponse P) → Except (ClientError P) (Option PyObject × Option String)
  | .response resp =>
    match resp.queryRejected with
    | some status =>
      match rejectionStatus status with
      | .ok status => .error (.workflowQueryRejectedError status)
      | .error e => .error (.conversionError e)
    | none =>
      if resp.queryResult.isEmpty then .ok (none, none)
      else
        match converter.decode resp.queryResult (retType.map fun hint => [hint]) with
        | .error e => .error (.ofDecoding e)
        | .ok [] => .ok (none, none)
        | .ok [result] => .ok (some result, none)
        | .ok (result :: others) =>
          .ok (some result, some s!"Expected single query result, got {(result :: others).length}")
  | .rpcError err =>
    -- "If the status is INVALID_ARGUMENT, we can assume it's a query failed error"
    if err.status = .invalidArgument then .error (.workflowQueryFailedError err.message)
    else .error (.rpcError err)
  | .cancelledError => .error .cancelledError

/-! ### Starting an update -/

/-- `WorkflowUpdateStage`. -/
inductive WorkflowUpdateStage where
  | admitted
  | accepted
  | completed
  deriving DecidableEq

def WorkflowUpdateStage.toInt : WorkflowUpdateStage → Int32
  | admitted => 1
  | accepted => 2
  | completed => 3

/-- The fields of `StartWorkflowUpdateInput` that what happens after the call depends on,
    and the update ID of the request, which may have been generated. -/
structure StartWorkflowUpdateInput (T : Type) where
  id : String
  runId : Option String
  updateId : String
  waitForStage : WorkflowUpdateStage
  retType : Option T

/-- `UpdateWorkflowExecutionResponse`. The stage is an open enumeration. -/
structure UpdateResponse (P : Type) where
  stage : Int32
  outcome : Option (UpdateOutcome P)

/-- "Repeatedly try to invoke start until the update reaches user-provided wait stage or
    is at least ACCEPTED." -/
def invokeUpdate (waitForStage : WorkflowUpdateStage) : List (Answer (UpdateResponse P)) →
    Option (Except (ClientError P) (UpdateResponse P))
  | [] => none
  | .response resp :: answers =>
    if waitForStage.toInt ≤ resp.stage ∨ WorkflowUpdateStage.accepted.toInt ≤ resp.stage then
      some (.ok resp)
    else invokeUpdate waitForStage answers
  | .rpcError err :: _ => some (.error (updateRPCError err))
  | .cancelledError :: _ => some (.error .workflowUpdateRPCTimeoutOrCancelledError)

/-- `start_workflow_update`, with the answers to its update requests and to the polls
    after them. -/
def startWorkflowUpdate (input : StartWorkflowUpdateInput T)
    (answers : List (Answer (UpdateResponse P))) (polls : List (Answer (PollResponse P))) :
    Option (Except (ClientError P) (WorkflowUpdateHandle P T)) :=
  match invokeUpdate input.waitForStage answers with
  | none => none
  | some (.error e) => some (.error e)
  | some (.ok resp) =>
    let handle : WorkflowUpdateHandle P T :=
      { id := input.updateId
        workflowId := input.id
        workflowRunId := input.runId
        resultType := input.retType
        knownOutcome := resp.outcome }
    -- "If the user's wait stage is COMPLETED, make sure we poll for result."
    if input.waitForStage = .completed then handle.pollUntilOutcome polls
    else some (.ok handle)

end TemporalSdk.Client
