import TemporalSdk.Client.Service
import TemporalSdk.Converter.DataConverter

/-!
# Handles of workflow updates

`WorkflowUpdateHandle`: polling for the outcome of an update, which the handle then
knows, and reading it. A call is a function of the answers it has got from the
service so far, and `none` while it waits for the next.
-/
namespace TemporalSdk.Client

open Converter

variable {P T : Type}

/-- `temporalio.api.update.v1.Outcome`, a oneof. -/
inductive UpdateOutcome (P : Type) where
  | success (payloads : List P)
  | failure (failure : Failure P)
  | unset

/-- `PollWorkflowExecutionUpdateResponse`. -/
structure PollResponse (P : Type) where
  outcome : Option (UpdateOutcome P)

/-- The value `result` returns, `none` for `None`, and the warning that may come with it. -/
structure UpdateValue where
  value : Option PyObject
  warning : Option String

structure WorkflowUpdateHandle (P T : Type) where
  id : String
  workflowId : String
  workflowRunId : Option String
  resultType : Option T
  /-- `_known_outcome`. -/
  knownOutcome : Option (UpdateOutcome P)

/-- What is raised from an `RPCError` of an update call. -/
def updateRPCError (err : RPCError) : ClientError P :=
  if err.status = .deadlineExceeded ∨ err.status = .cancelled then
    .workflowUpdateRPCTimeoutOrCancelledError
  else .rpcError err

/-- What an exception of the data converter is to a caller of the client. -/
def ClientError.ofDecoding : DecodingError → ClientError P
  | .codec error => .codecError error
  | .conversion error => .conversionError error

namespace WorkflowUpdateHandle

variable (self : WorkflowUpdateHandle P T)

/-- The loop of `_poll_until_outcome`. -/
def poll : List (Answer (PollResponse P)) →
    Option (Except (ClientError P) (WorkflowUpdateHandle P T))
  | [] => none
  | .response ⟨some outcome⟩ :: _ => some (.ok { self with knownOutcome := some outcome })
  -- Continue polling as long as we have no outcome
  | .response ⟨none⟩ :: answers => poll answers
  | .rpcError err :: _ => some (.error (updateRPCError err))
  | .cancelledError :: _ => some (.error .workflowUpdateRPCTimeoutOrCancelledError)

/-- `_poll_until_outcome`: the handle once its outcome is known. -/
def pollUntilOutcome (answers : List (Answer (PollResponse P))) :
    Option (Except (ClientError P) (WorkflowUpdateHandle P T)) :=
  if self.knownOutcome.isSome then some (.ok self) else self.poll answers

/-- `if not results: ... elif len(results) > 1: ...`. -/
def firstResult : List PyObject → UpdateValue
  | [] => ⟨none, none⟩
  | [result] => ⟨some result, none⟩
  | result :: others =>
    ⟨some result, some s!"Expected single update result, got {(result :: others).length}"⟩

/-- "Convert outcome to failure or value", with what that leaves of the outcome. -/
def convertOutcome (converter : Converter.DataConverter P T) (resultType : Option T) :
    UpdateOutcome P → Except (ClientError P) UpdateValue × UpdateOutcome P
  | .failure failure =>
    match converter.decodeFailure failure with
    | (.ok cause, failure) => (.error (.workflowUpdateFailedError cause), .failure failure)
    | (.error e, failure) => (.error (.ofDecoding e), .failure failure)
  | .success payloads =>
    if payloads.isEmpty then (.ok ⟨none, none⟩, .success payloads)
    else
      match converter.decode payloads (resultType.map fun hint => [hint]) with
      | .ok results => (.ok (firstResult results), .success payloads)
      | .error e => (.error (.ofDecoding e), .success payloads)
  | .unset => (.ok ⟨none, none⟩, .unset)

/-- `result`, with the handle as it leaves it. -/
def result (converter : Converter.DataConverter P T) (answers : List (Answer (PollResponse P))) :
    Option (Except (ClientError P) UpdateValue × WorkflowUpdateHandle P T) :=
  (self.pollUntilOutcome answers).map fun polled =>
    match polled with
    | .error e => (.error e, self)
    | .ok handle =>
      match handle.knownOutcome with
      | some outcome =>
        ((convertOutcome converter handle.resultType outcome).1,
          { handle with
            knownOutcome := some (convertOutcome converter handle.resultType outcome).2 })
      -- `assert self._known_outcome`
      | none => (.error .assertionError, handle)

/-- What successive calls of `result` end with, if none is left waiting. Each call
    has its own answers from the service. -/
def results (converter : Converter.DataConverter P T) :
    WorkflowUpdateHandle P T → List (List (Answer (PollResponse P))) →
      Option (List (Except (ClientError P) UpdateValue))
  | _, [] => some []
  | self, answers :: calls =>
    (self.result converter answers).bind fun ended =>
      (results converter ended.2 calls).map fun rest => ended.1 :: rest

end WorkflowUpdateHandle

end TemporalSdk.Client
