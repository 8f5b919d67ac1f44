import TemporalSdk.Client.Calls

/-!
# The errors of calls

Five calls turn some `RPCError`s into errors of their own. Is every `RPCError` that the
service raises, in whichever state the call is waiting for it, raised again or turned
into the error that is documented for it?

## Main result

`errors_mapped_iff`: it is, apart from `ALREADY_EXISTS` in `start_workflow` with a first
detail that is not a `WorkflowExecutionAlreadyStartedFailure`, or is a malformed one, and
from `ALREADY_EXISTS` with a malformed status in `start_workflow` and `create_schedule`.
`unexpected_detail_unbound` is a first detail of another type: the handler ends without
raising, and the response is read that there is not.

## Proof strategy

One lemma for each call. The two loops of an update are followed along the answers they
have got: a loop that is still waiting has met responses only, and the next answer is its
outcome.
-/
namespace TemporalSdk.Client

open Converter

variable {P T : Type}

/-! ### Calls that wait -/

/-- A call that waits for the service, after the answers it has got. -/
inductive Waiting (P T : Type) where
  /-- Plain or signal-with-start. -/
  | startWorkflow (input : StartWorkflowInput T)
  | createSchedule (id : String)
  | queryWorkflow (converter : Converter.DataConverter P T) (retType : Option T)
  /-- For an answer to an update request, or once these have ended to a poll. -/
  | startWorkflowUpdate (input : StartWorkflowUpdateInput T)
      (answers : List (Answer (UpdateResponse P))) (polls : List (Answer (PollResponse P)))
      (waits : startWorkflowUpdate input answers polls = none)
  | result (converter : Converter.DataConverter P T) (handle : WorkflowUpdateHandle P T)
      (polls : List (Answer (PollResponse P))) (waits : handle.result converter polls = none)

/-- A call as its caller sees it: it still waits, returns or raises. -/
abbrev Ending (P : Type) : Type := Option (Except (ClientError P) Unit)

def endingOf {A : Type} (ended : Option (Except (ClientError P) A)) : Ending P :=
  ended.map fun returned => returned.map fun _ => ()

namespace Waiting

variable (protobuf : Protobuf)

/-- How the call goes on when the service raises. -/
def raised (err : RPCError) : Waiting P T → Ending P
  | startWorkflow input => endingOf (some (Client.startWorkflow protobuf input (.rpcError err)))
  | createSchedule id => endingOf (some (Client.createSchedule protobuf id (.rpcError err)))
  | queryWorkflow converter retType =>
    endingOf (some (Client.queryWorkflow converter retType (.rpcError err)))
  | startWorkflowUpdate input answers polls _ =>
    match invokeUpdate input.waitForStage answers with
    | none => endingOf (Client.startWorkflowUpdate input (answers ++ [.rpcError err]) polls)
    | some _ => endingOf (Client.startWorkflowUpdate input answers (polls ++ [.rpcError err]))
  | result converter handle polls _ =>
    endingOf ((handle.result converter (polls ++ [.rpcError err])).map Prod.fst)

/-- The error that is documented for an `RPCError` of the call. -/
def Documented (err : RPCError) (raised : ClientError P) : Waiting P T → Prop
  | startWorkflow input =>
    err.status = .alreadyExists ∧ ∃ detail others runId,
      protobuf.grpcStatusDetails err.rawGrpcStatus = some (detail :: others) ∧
      detail.Is workflowExecutionAlreadyStartedFailure ∧
      protobuf.alreadyStartedRunId detail.value = some runId ∧
      raised = .workflowAlreadyStartedError input.id input.workflow runId
  | createSchedule _ =>
    err.status = .alreadyExists ∧ ∃ detail others,
      protobuf.grpcStatusDetails err.rawGrpcStatus = some (detail :: others) ∧
      detail.Is workflowExecutionAlreadyStartedFailure ∧ raised = .scheduleAlreadyRunningError
  | queryWorkflow _ _ =>
    err.status = .invalidArgument ∧ raised = .workflowQueryFailedError err.message
  | startWorkflowUpdate _ _ _ _ | result _ _ _ _ =>
    (err.status = .deadlineExceeded ∨ err.status = .cancelled) ∧
      raised = .workflowUpdateRPCTimeoutOrCancelledError

/-- The call raises the same `RPCError`, or the error documented for it. -/
def Maps (err : RPCError) (call : Waiting P T) : Prop :=
  ∃ raised, call.raised protobuf err = some (.error raised) ∧
    (raised = .rpcError err ∨ call.Documented protobuf err raised)

/-- `ALREADY_EXISTS` with a status that cannot be parsed, or in `start_workflow` with a
    first detail that is not what it is unpacked as. -/
def Missed (err : RPCError) : Waiting P T → Prop
  | startWorkflow _ =>
    err.status = .alreadyExists ∧
      (protobuf.grpcStatusDetails err.rawGrpcStatus = none ∨
        ∃ detail others, protobuf.grpcStatusDetails err.rawGrpcStatus = some (detail :: others) ∧
          (detail.Is workflowExecutionAlreadyStartedFailure →
            protobuf.alreadyStartedRunId detail.value = none))
  | createSchedule _ =>
    err.status = .alreadyExists ∧ protobuf.grpcStatusDetails err.rawGrpcStatus = none
  | queryWorkflow _ _ | startWorkflowUpdate _ _ _ _ | result _ _ _ _ => False

end Waiting

/-! ### Calls with one request -/

variable {protobuf : Protobuf} {err : RPCError}

theorem maps_iff_of_raised {call : Waiting P T} {e : ClientError P}
    (raised : call.raised protobuf err = some (.error e)) :
    call.Maps protobuf err ↔ e = .rpcError err ∨ call.Documented protobuf err e := by
  constructor
  · rintro ⟨e', raised', mapped⟩
    rw [raised] at raised'
    cases raised'
    exact mapped
  · intro mapped
    exact ⟨e, raised, mapped⟩

theorem startWorkflow_maps_iff (input : StartWorkflowInput T) :
    (Waiting.startWorkflow (P := P) input).Maps protobuf err ↔
      ¬ (Waiting.startWorkflow (P := P) input).Missed protobuf err := by
  by_cases status : err.status = .alreadyExists
  · cases details : protobuf.grpcStatusDetails err.rawGrpcStatus with
    | none =>
      rw [maps_iff_of_raised (e := .decodeError) (by
        simp [Waiting.raised, startWorkflow, status, details, endingOf, Except.map])]
      simp [Waiting.Documented, Waiting.Missed, status, details]
    | some details' =>
      cases details' with
      | nil =>
        -- Without details the error is raised as it is.
        rw [maps_iff_of_raised (e := .rpcError err) (by
          simp [Waiting.raised, startWorkflow, status, details, endingOf, Except.map])]
        simp [Waiting.Missed, details]
      | cons detail others =>
        by_cases type : detail.Is workflowExecutionAlreadyStartedFailure
        · cases value : protobuf.alreadyStartedRunId detail.value with
          | none =>
            rw [maps_iff_of_raised (e := .decodeError) (by
              simp [Waiting.raised, startWorkflow, status, details, type, value, endingOf,
                Except.map])]
            simp [Waiting.Documented, Waiting.Missed, status, details, value]
          | some runId =>
            rw [maps_iff_of_raised
              (e := .workflowAlreadyStartedError input.id input.workflow runId) (by
                simp [Waiting.raised, startWorkflow, status, details, type, value, endingOf,
                  Except.map])]
            simp [Waiting.Documented, Waiting.Missed, status, details, type, value]
        · -- Of another type: the handler ends without raising.
          rw [maps_iff_of_raised (e := .unboundLocalError "resp") (by
            simp [Waiting.raised, startWorkflow, status, details, type, endingOf, Except.map])]
          simp [Waiting.Documented, Waiting.Missed, status, details, type]
  · rw [maps_iff_of_raised (e := .rpcError err) (by
      simp [Waiting.raised, startWorkflow, status, endingOf, Except.map])]
    simp [Waiting.Missed, status]

theorem createSchedule_maps_iff (id : String) :
    (Waiting.createSchedule (P := P) (T := T) id).Maps protobuf err ↔
      ¬ (Waiting.createSchedule (P := P) (T := T) id).Missed protobuf err := by
  by_cases status : err.status = .alreadyExists
  · cases details : protobuf.grpcStatusDetails err.rawGrpcStatus with
    | none =>
      rw [maps_iff_of_raised (e := .decodeError) (by
        simp [Waiting.raised, createSchedule, status, details, endingOf, Except.map])]
      simp [Waiting.Documented, Waiting.Missed, status, details]
    | some details' =>
      cases details' with
      | nil =>
        rw [maps_iff_of_raised (e := .rpcError err) (by
          simp [Waiting.raised, createSchedule, status, details, endingOf, Except.map])]
        simp [Waiting.Missed, details]
      | cons detail others =>
        by_cases type : detail.Is workflowExecutionAlreadyStartedFailure
        · rw [maps_iff_of_raised (e := .scheduleAlreadyRunningError) (by
            simp [Waiting.raised, createSchedule, status, details, type, endingOf, Except.map])]
          simp [Waiting.Documented, Waiting.Missed, status, details, type]
        · -- Here the error is raised whatever the type.
          rw [maps_iff_of_raised (e := .rpcError err) (by
            simp [Waiting.raised, createSchedule, status, details, type, endingOf, Except.map])]
          simp [Waiting.Missed, details]
  · rw [maps_iff_of_raised (e := .rpcError err) (by
      simp [Waiting.raised, createSchedule, status, endingOf, Except.map])]
    simp [Waiting.Missed, status]

theorem queryWorkflow_maps (converter : Converter.DataConverter P T) (retType : Option T) :
    (Waiting.queryWorkflow converter retType).Maps protobuf err := by
  by_cases status : err.status = .invalidArgument
  · rw [maps_iff_of_raised (e := .workflowQueryFailedError err.message) (by
      simp [Waiting.raised, queryWorkflow, status, endingOf, Except.map])]
    exact Or.inr ⟨status, rfl⟩
  · rw [maps_iff_of_raised (e := .rpcError err) (by
      simp [Waiting.raised, queryWorkflow, status, endingOf, Except.map])]
    exact Or.inl rfl

/-! ### Updates -/

/-- Both handlers of an update. -/
theorem updateRPCError_maps {call : Waiting P T}
    (documents : ∀ e, call.Documented protobuf err e ↔
      (err.status = .deadlineExceeded ∨ err.status = .cancelled) ∧
        e = .workflowUpdateRPCTimeoutOrCancelledError)
    (raised : call.raised protobuf err = some (.error (updateRPCError err))) :
    call.Maps protobuf err := by
  refine ⟨_, raised, ?_⟩
  by_cases status : err.status = .deadlineExceeded ∨ err.status = .cancelled
  · apply Or.inr
    rw [documents, updateRPCError, if_pos status]
    exact ⟨status, rfl⟩
  · apply Or.inl
    rw [updateRPCError, if_neg status]

/-- A poll that still waits ends with the next answer, if that is an error. -/
theorem poll_raises (handle : WorkflowUpdateHandle P T) (polls : List (Answer (PollResponse P)))
    (waits : handle.poll polls = none) :
    handle.poll (polls ++ [.rpcError err]) = some (.error (updateRPCError err)) := by
  -- Along the answers; those before the error have no outcome.
  fun_induction WorkflowUpdateHandle.poll handle polls with
  | case1 => rfl
  | case2 outcome answers => cases waits
  | case3 answers ih => exact ih waits
  | case4 err' answers => cases waits
  | case5 answers => cases waits

theorem pollUntilOutcome_raises (handle : WorkflowUpdateHandle P T)
    (polls : List (Answer (PollResponse P))) (waits : handle.pollUntilOutcome polls = none) :
    handle.pollUntilOutcome (polls ++ [.rpcError err]) = some (.error (updateRPCError err)) := by
  rw [WorkflowUpdateHandle.pollUntilOutcome] at waits ⊢
  split at waits
  · cases waits
  · rename_i unknown
    rw [if_neg unknown]
    exact poll_raises handle polls waits

theorem invokeUpdate_raises (stage : WorkflowUpdateStage)
    (answers : List (Answer (UpdateResponse P))) (waits : invokeUpdate stage answers = none) :
    invokeUpdate stage (answers ++ [.rpcError err]) = some (.error (updateRPCError err)) := by
  fun_induction invokeUpdate stage answers with
  | case1 => rfl
  | case2 resp answers reached => cases waits
  | case3 resp answers below ih =>
    rw [List.cons_append, invokeUpdate, if_neg below]
    exact ih waits
  | case4 err' answers => cases waits
  | case5 answers => cases waits

theorem startWorkflowUpdate_raised (input : StartWorkflowUpdateInput T)
    (answers : List (Answer (UpdateResponse P))) (polls : List (Answer (PollResponse P)))
    (waits : startWorkflowUpdate input answers polls = none) :
    (Waiting.startWorkflowUpdate input answers polls waits).raised protobuf err =
      some (.error (updateRPCError err)) := by
  -- It waits for the stage, or has reached it and polls for the outcome.
  rw [Waiting.raised]
  cases started : invokeUpdate input.waitForStage answers with
  | none =>
    have raises := @invokeUpdate_raises _ err input.waitForStage answers started
    simp only [startWorkflowUpdate, raises]
    rfl
  | some ended =>
    cases ended with
    | error e =>
      simp only [startWorkflowUpdate, started] at waits
      cases waits
    | ok resp =>
      simp only [startWorkflowUpdate, started] at waits ⊢
      by_cases completed : input.waitForStage = .completed
      · rw [if_pos completed] at waits ⊢
        rw [pollUntilOutcome_raises _ _ waits]
        rfl
      · -- With the stage reached, nothing is left to wait for.
        rw [if_neg completed] at waits
        cases waits

theorem result_raised (converter : Converter.DataConverter P T) (handle : WorkflowUpdateHandle P T)
    (polls : List (Answer (PollResponse P))) (waits : handle.result converter polls = none) :
    (Waiting.result converter handle polls waits).raised protobuf err =
      some (.error (updateRPCError err)) := by
  have polling : handle.pollUntilOutcome polls = none := Option.map_eq_none_iff.mp waits
  rw [Waiting.raised, WorkflowUpdateHandle.result, pollUntilOutcome_raises _ _ polling]
  rfl

/-! ### Every call -/

/-- Whatever `RPCError` the service raises, in any call and after any answers before:
    the call raises the same error, or the one documented for it, exactly if it is not
    one that `start_workflow` or `create_schedule` miss. -/
theorem errors_mapped_iff (protobuf : Protobuf) (call : Waiting P T) (err : RPCError) :
    call.Maps protobuf err ↔ ¬ call.Missed protobuf err := by
  cases call with
  | startWorkflow input => exact startWorkflow_maps_iff input
  | createSchedule id => exact createSchedule_maps_iff id
  | queryWorkflow converter retType =>
    exact iff_of_true (queryWorkflow_maps converter retType) id
  | startWorkflowUpdate input answers polls waits =>
    apply iff_of_true _ id
    apply updateRPCError_maps (fun _ => Iff.rfl)
    exact startWorkflowUpdate_raised input answers polls waits
  | result converter handle polls waits =>
    apply iff_of_true _ id
    apply updateRPCError_maps (fun _ => Iff.rfl)
    exact result_raised converter handle polls waits

/-- A library that finds one detail in any status. -/
def sampleProtobuf : Protobuf where
  grpcStatusDetails _ := some [⟨"type.googleapis.com/google.rpc.DebugInfo", []⟩]
  alreadyStartedRunId _ := some "run-id"

/-- `start_workflow` when the service raises `ALREADY_EXISTS` with debugging information
    as its only detail. -/
theorem unexpected_detail_unbound :
    startWorkflow (P := Nat) sampleProtobuf
        { workflow := "MyWorkflow", id := "workflow-id", startSignal := none,
          retType := (none : Option Unit) }
        (.rpcError ⟨"already exists", .alreadyExists, [8, 6]⟩) =
      .error (.unboundLocalError "resp") ∧
    ¬ (Waiting.startWorkflow (P := Nat)
        { workflow := "MyWorkflow", id := "workflow-id", startSignal := none,
          retType := (none : Option Unit) }).Maps sampleProtobuf
      ⟨"already exists", .alreadyExists, [8, 6]⟩ := by
  constructor
  · rfl
  · rintro ⟨raised, ran, same | ⟨-, detail, others, runId, -, -, -, same⟩⟩
    · subst same
      cases ran
    · subst same
      cases ran

end TemporalSdk.Client
