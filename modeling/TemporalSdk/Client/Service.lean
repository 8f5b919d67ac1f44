import TemporalSdk.Converter.Composite
import TemporalSdk.Converter.FailureConverter

/-!
# Calls to the service

What a call of the client gets from the service, and what it raises in turn.
Parsing protobuf messages is a parameter.
-/
namespace TemporalSdk.Client

open Converter (Bytes CodecError ConversionError PyException)

/-- `temporalio.service.RPCStatusCode`. -/
inductive RPCStatusCode where
  | ok
  | cancelled
  | unknown
  | invalidArgument
  | deadlineExceeded
  | notFound
  | alreadyExists
  | permissionDenied
  | resourceExhausted
  | failedPrecondition
  | aborted
  | outOfRange
  | unimplemented
  | internal
  | unavailable
  | dataLoss
  | unauthenticated
  deriving DecidableEq

/-- `google.protobuf.Any`. -/
structure Any where
  typeUrl : String
  value : Bytes
  deriving DecidableEq

namespace Any

/-- `TypeName`: what follows the last slash. -/
def typeName (any : Any) : List Char := (any.typeUrl.toList.reverse.takeWhile (· ≠ '/')).reverse

/-- `Is`: the detail is a message of the type with this full name. -/
def Is (any : Any) (fullName : String) : Prop :=
  '/' ∈ any.typeUrl.toList ∧ any.typeName = fullName.toList

instance (any : Any) (fullName : String) : Decidable (any.Is fullName) :=
  inferInstanceAs (Decidable (_ ∧ _))

end Any

/-- `temporalio.service.RPCError`. -/
structure RPCError where
  message : String
  status : RPCStatusCode
  rawGrpcStatus : Bytes
  deriving DecidableEq

/-- `ParseFromString` for the messages that are read here. `none` is a `DecodeError`. -/
structure Protobuf where
  /-- The `details` of a `GrpcStatus`. -/
  grpcStatusDetails : Bytes → Option (List Any)
  /-- The `run_id` of a `WorkflowExecutionAlreadyStartedFailure`. -/
  alreadyStartedRunId : Bytes → Option String

/-- `WorkflowExecutionAlreadyStartedFailure.DESCRIPTOR.full_name`. -/
def workflowExecutionAlreadyStartedFailure : String :=
  "temporal.api.errordetails.v1.WorkflowExecutionAlreadyStartedFailure"

/-- What awaiting a call to the service ends with. `R` is the type of responses. -/
inductive Answer (R : Type) where
  | response (resp : R)
  | rpcError (err : RPCError)
  /-- `asyncio.CancelledError`. -/
  | cancelledError

/-- What a call of the client raises. -/
inductive ClientError (P : Type) where
  | rpcError (err : RPCError)
  | cancelledError
  | workflowAlreadyStartedError (workflowId workflowType runId : String)
  | scheduleAlreadyRunningError
  | workflowQueryFailedError (message : String)
  | workflowQueryRejectedError (status : Option Int32)
  | workflowUpdateRPCTimeoutOrCancelledError
  | workflowUpdateFailedError (cause : PyException P)
  | assertionError
  | unboundLocalError (name : String)
  /-- `google.protobuf.message.DecodeError`. -/
  | decodeError
  | codecError (error : CodecError)
  | conversionError (error : ConversionError)

end TemporalSdk.Client
