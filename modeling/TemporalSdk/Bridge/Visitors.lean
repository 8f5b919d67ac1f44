import TemporalSdk.Bridge.Messages

/-!
# The codec at the workflow boundary

`decode_activation` and `encode_completion` of `temporalio.bridge.worker`, which
apply a codec to the payloads of an activation and of a completion. As with
failures, the rewritten message is returned.
-/
namespace TemporalSdk.Bridge

open Converter Visitor

variable {P σ : Type}

section Apply

variable (cb : List P → Eff σ CodecError (List P))

/-- `_apply_to_payloads`: an empty repeated field is not passed. -/
def applyToPayloads (payloads : List P) : Eff σ CodecError (List P) :=
  if payloads.length = 0 then pure payloads else cb payloads

/-- `_apply_to_payload`. -/
def applyToPayload (payload : P) : Eff σ CodecError P := do
  match ← cb [payload] with
  | newPayload :: _ => pure newPayload
  | [] => Eff.raise .indexError

/-- The loop over the values of a map field. -/
def applyToValues (entries : List (String × P)) : Eff σ CodecError (List (String × P)) :=
  visitEach (fun entry => do
    let value ← applyToPayload cb entry.2
    pure (entry.1, value)) entries

end Apply

variable (codec : PayloadCodec P σ)

def decodePayloads (payloads : List P) : Eff σ CodecError (List P) :=
  applyToPayloads codec.decode payloads

def decodePayload (payload : P) : Eff σ CodecError P := applyToPayload codec.decode payload

def encodePayloads (payloads : List P) : Eff σ CodecError (List P) :=
  applyToPayloads codec.encode payloads

def encodePayload (payload : P) : Eff σ CodecError P := applyToPayload codec.encode payload

/-! ### Decoding an activation -/

def decodeActivityResolution : ActivityResolution P → Eff σ CodecError (ActivityResolution P)
  | .cancelled failure => do
    let failure ← applyToOption codec.decodeFailure failure
    pure (.cancelled failure)
  | .completed result => do
    let result ← applyToOption (decodePayload codec) result
    pure (.completed result)
  | .failed failure => do
    let failure ← applyToOption codec.decodeFailure failure
    pure (.failed failure)
  | .backoff backoff => pure (.backoff backoff)

def decodeChildWorkflowResult : ChildWorkflowResult P → Eff σ CodecError (ChildWorkflowResult P)
  | .cancelled failure => do
    let failure ← applyToOption codec.decodeFailure failure
    pure (.cancelled failure)
  | .completed result => do
    let result ← applyToOption (decodePayload codec) result
    pure (.completed result)
  | .failed failure => do
    let failure ← applyToOption codec.decodeFailure failure
    pure (.failed failure)

def decodeChildWorkflowStart : ChildWorkflowStart P → Eff σ CodecError (ChildWorkflowStart P)
  | .cancelled failure => do
    let failure ← applyToOption codec.decodeFailure failure
    pure (.cancelled failure)
  | status => pure status

def decodeStartWorkflow (job : StartWorkflow P) : Eff σ CodecError (StartWorkflow P) := do
  let arguments ← decodePayloads codec job.arguments
  let continuedFailure ← applyToOption codec.decodeFailure job.continuedFailure
  -- The memo branch has its own copying code; on answers of the codec's own it
  -- does what `_apply_to_payload` does.
  let memo ← applyToOption (applyToValues codec.decode) job.memo
  pure { job with arguments := arguments, continuedFailure := continuedFailure, memo := memo }

/-- The loop body of `decode_activation`. -/
def decodeJob : WorkflowActivationJob P → Eff σ CodecError (WorkflowActivationJob P)
  | .cancelWorkflow details => do
    let details ← decodePayloads codec details
    pure (.cancelWorkflow details)
  | .queryWorkflow job => do
    let arguments ← decodePayloads codec job.arguments
    pure (.queryWorkflow { job with arguments := arguments })
  | .resolveActivity seq result => do
    let result ← applyToOption (decodeActivityResolution codec) result
    pure (.resolveActivity seq result)
  | .resolveChildWorkflowExecution seq result => do
    let result ← applyToOption (decodeChildWorkflowResult codec) result
    pure (.resolveChildWorkflowExecution seq result)
  | .resolveChildWorkflowExecutionStart seq status => do
    let status ← applyToOption (decodeChildWorkflowStart codec) status
    pure (.resolveChildWorkflowExecutionStart seq status)
  | .resolveRequestCancelExternalWorkflow seq failure => do
    let failure ← applyToOption codec.decodeFailure failure
    pure (.resolveRequestCancelExternalWorkflow seq failure)
  | .resolveSignalExternalWorkflow seq failure => do
    let failure ← applyToOption codec.decodeFailure failure
    pure (.resolveSignalExternalWorkflow seq failure)
  | .signalWorkflow job => do
    let input ← decodePayloads codec job.input
    pure (.signalWorkflow { job with input := input })
  | .startWorkflow job => do
    let job ← decodeStartWorkflow codec job
    pure (.startWorkflow job)
  | .doUpdate job => do
    let input ← decodePayloads codec job.input
    pure (.doUpdate { job with input := input })
  | job => pure job

/-- `decode_activation`. -/
def decodeActivation (act : WorkflowActivation P) : Eff σ CodecError (WorkflowActivation P) := do
  let jobs ← visitEach (decodeJob codec) act.jobs
  pure { act with jobs := jobs }

/-! ### Encoding a completion -/

def encodeQueryResult : QueryResult P → Eff σ CodecError (QueryResult P)
  | .failed failure => do
    let failure ← codec.encodeFailure failure
    pure (.failed failure)
  | .succeeded response => do
    let response ← applyToOption (encodePayload codec) response
    pure (.succeeded response)

def encodeUpdateResponse : UpdateResponse P → Eff σ CodecError (UpdateResponse P)
  | .completed result => do
    let result ← encodePayload codec result
    pure (.completed result)
  | .rejected failure => do
    let failure ← codec.encodeFailure failure
    pure (.rejected failure)
  | .accepted => pure .accepted

/-- The loop body of `encode_completion`. -/
def encodeCommand : WorkflowCommand P → Eff σ CodecError (WorkflowCommand P)
  | .completeWorkflowExecution result => do
    let result ← applyToOption (encodePayload codec) result
    pure (.completeWorkflowExecution result)
  | .continueAsNewWorkflowExecution command => do
    let arguments ← encodePayloads codec command.arguments
    let memo ← applyToValues codec.encode command.memo
    pure (.continueAsNewWorkflowExecution { command with arguments := arguments, memo := memo })
  | .failWorkflowExecution failure => do
    let failure ← applyToOption codec.encodeFailure failure
    pure (.failWorkflowExecution failure)
  | .respondToQuery queryId result => do
    let result ← applyToOption (encodeQueryResult codec) result
    pure (.respondToQuery queryId result)
  | .scheduleActivity command => do
    let arguments ← encodePayloads codec command.arguments
    pure (.scheduleActivity { command with arguments := arguments })
  | .scheduleLocalActivity command => do
    let arguments ← encodePayloads codec command.arguments
    pure (.scheduleLocalActivity { command with arguments := arguments })
  | .signalExternalWorkflowExecution command => do
    let args ← encodePayloads codec command.args
    pure (.signalExternalWorkflowExecution { command with args := args })
  | .startChildWorkflowExecution command => do
    let input ← encodePayloads codec command.input
    let memo ← applyToValues codec.encode command.memo
    pure (.startChildWorkflowExecution { command with input := input, memo := memo })
  | .updateResponse protocolInstanceId response => do
    let response ← applyToOption (encodeUpdateResponse codec) response
    pure (.updateResponse protocolInstanceId response)
  | command => pure command

def encodeStatus : CompletionStatus P → Eff σ CodecError (CompletionStatus P)
  | .failed failure forceCause => do
    let failure ← applyToOption codec.encodeFailure failure
    pure (.failed failure forceCause)
  | .successful commands usedInternalFlags => do
    let commands ← visitEach (encodeCommand codec) commands
    pure (.successful commands usedInternalFlags)

/-- `encode_completion`. -/
def encodeCompletion (comp : WorkflowActivationCompletion P) :
    Eff σ CodecError (WorkflowActivationCompletion P) := do
  let status ← applyToOption (encodeStatus codec) comp.status
  pure { comp with status := status }

end TemporalSdk.Bridge
