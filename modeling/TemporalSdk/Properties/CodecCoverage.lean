import Mathlib.Data.List.Flatten
import Mathlib.Data.List.Perm.Basic
import TemporalSdk.Bridge.Payloads
import TemporalSdk.Properties.FailureCodec

/-!
# Codec coverage of the workflow boundary

Three pieces of code have to agree on the payload fields of some thirty message
variants: `decode_activation`, `encode_completion`, and the workflow instance,
which converts payloads of jobs and puts payloads on commands.

## Main result

`codec_coverage`: `decode_activation` passes to `codec.decode`, once each, all
payloads the instance converts from a job, and `encode_completion` passes to
`codec.encode`, once each, all user payloads of a command. The answers take the
places of what was passed, and nothing else changes. With
`decode(encode(ps)) = ps`, visiting an encoded completion with `decode` gives the
completion back.

## Proof strategy

What the visitors pass is written down once as `collections`, what they leave
alone as `untouched`; each variant is then one `Carries` lemma over its fields.
That the instance's payloads are among the collections, and that collections and
untouched payloads together are all payloads of the message, are facts about
these lists alone.
-/
namespace TemporalSdk.Bridge

open Converter Visitor

variable {P σ : Type} {r : Prop}

/-! ### One field -/

section Fields

variable {forth back : List P → Eff (Journal P × σ) CodecError (List P)}

/-- A repeated field: an empty one is not passed, and a non-empty one is
    answered by a non-empty one, so that both directions agree on it. -/
theorem payloads_carries (callee : Callee r forth back) (payloads : List P) :
    Carries r Stored (applyToPayloads forth) (applyToPayloads back) listCollections (fun _ => ())
      payloads := by
  cases payloads with
  | nil => exact Carries.none rfl rfl rfl
  | cons p ps =>
    apply Passes.mono (callee (p :: ps))
    rintro qs calls ⟨rfl, some, inverse⟩
    obtain ⟨q, qs, rfl⟩ := List.exists_cons_of_ne_nil (some (List.cons_ne_nil p ps))
    exact ⟨rfl, stored_whole (p :: ps) (q :: qs), rfl, fun reversible => (inverse reversible).2⟩

theorem payload_carries (callee : Callee r forth back) (payload : P) :
    Carries r Stored (applyToPayload forth) (applyToPayload back) (fun p => [[p]]) (fun _ => ())
      payload := by
  apply Passes.bind (callee [payload])
  rintro qs calls ⟨rfl, some, inverse⟩
  obtain ⟨q, qs, rfl⟩ := List.exists_cons_of_ne_nil (some (List.cons_ne_nil payload []))
  apply Passes.pure
  refine ⟨rfl, stored_first payload q qs, rfl, fun reversible => ?_⟩
  obtain ⟨fits, back⟩ := inverse reversible
  cases fits.singleton
  apply Passes.bind back
  rintro ps calls' ⟨rfl, given⟩
  apply Passes.pure
  rw [List.append_nil]
  exact ⟨rfl, given⟩

theorem values_carries (callee : Callee r forth back) (entries : List (String × P)) :
    Carries r Stored (applyToValues forth) (applyToValues back) valueCollections (List.map Prod.fst)
      entries := by
  apply Carries.each
  rintro ⟨key, value⟩ -
  apply Carries.map (fun value => (key, value)) (payload_carries callee value) rfl
  · intro _
    rfl
  · intro _
    rfl
  · intro _ _
    rfl

end Fields

section Messages

variable {codec : PayloadCodec P (Journal P × σ)}

variable (codec) in
theorem result_carries (callee : Callee r codec.encode codec.decode) (result : Option P) :
    Carries r Stored (applyToOption (encodePayload codec)) (applyToOption (encodePayload codec.swap))
      payloadCollections (Option.map fun _ => ()) result :=
  option_carries fun payload _ => payload_carries callee payload

variable (codec) in
theorem failureField_carries (callee : Callee r codec.encode codec.decode)
    (failure : Option (Failure P)) :
    Carries r Stored (applyToOption codec.encodeFailure) (applyToOption codec.decodeFailure)
      failureCollections (Option.map Failure.blank) failure :=
  option_carries fun failure _ => failure_carries callee failure

/-! ### Activations -/

theorem activityResolution_carries (callee : Callee r codec.decode codec.encode)
    (status : ActivityResolution P) :
    Carries r Stored (decodeActivityResolution codec) (decodeActivityResolution codec.swap)
      ActivityResolution.collections ActivityResolution.blank status := by
  cases status with
  | completed result =>
    apply Carries.map ActivityResolution.completed (result_carries codec.swap callee result)
      rfl (fun _ => rfl) (fun _ => rfl)
    intro result' same
    simp only [ActivityResolution.blank, same]
  | failed failure =>
    apply Carries.map ActivityResolution.failed
      (failureField_carries codec.swap callee failure) rfl (fun _ => rfl) (fun _ => rfl)
    intro failure' same
    simp only [ActivityResolution.blank, same]
  | cancelled failure =>
    apply Carries.map ActivityResolution.cancelled
      (failureField_carries codec.swap callee failure) rfl (fun _ => rfl) (fun _ => rfl)
    intro failure' same
    simp only [ActivityResolution.blank, same]
  | backoff value => exact Carries.none rfl rfl rfl

theorem childWorkflowResult_carries (callee : Callee r codec.decode codec.encode)
    (status : ChildWorkflowResult P) :
    Carries r Stored (decodeChildWorkflowResult codec) (decodeChildWorkflowResult codec.swap)
      ChildWorkflowResult.collections ChildWorkflowResult.blank status := by
  cases status with
  | completed result =>
    apply Carries.map ChildWorkflowResult.completed
      (result_carries codec.swap callee result) rfl (fun _ => rfl) (fun _ => rfl)
    intro result' same
    simp only [ChildWorkflowResult.blank, same]
  | failed failure =>
    apply Carries.map ChildWorkflowResult.failed
      (failureField_carries codec.swap callee failure) rfl (fun _ => rfl) (fun _ => rfl)
    intro failure' same
    simp only [ChildWorkflowResult.blank, same]
  | cancelled failure =>
    apply Carries.map ChildWorkflowResult.cancelled
      (failureField_carries codec.swap callee failure) rfl (fun _ => rfl) (fun _ => rfl)
    intro failure' same
    simp only [ChildWorkflowResult.blank, same]

theorem childWorkflowStart_carries (callee : Callee r codec.decode codec.encode)
    (status : ChildWorkflowStart P) :
    Carries r Stored (decodeChildWorkflowStart codec) (decodeChildWorkflowStart codec.swap)
      ChildWorkflowStart.collections ChildWorkflowStart.blank status := by
  cases status with
  | succeeded runId => exact Carries.none rfl rfl rfl
  | failed workflowId workflowType cause => exact Carries.none rfl rfl rfl
  | cancelled failure =>
    apply Carries.map ChildWorkflowStart.cancelled
      (failureField_carries codec.swap callee failure) rfl (fun _ => rfl) (fun _ => rfl)
    intro failure' same
    simp only [ChildWorkflowStart.blank, same]

/-- A start job: arguments, continued failure and memo, in this order. -/
theorem startWorkflow_carries (callee : Callee r codec.decode codec.encode)
    (job : StartWorkflow P) :
    Carries r Stored (decodeStartWorkflow codec) (decodeStartWorkflow codec.swap)
      StartWorkflow.collections (fun job => (WorkflowActivationJob.startWorkflow job).blank)
      job := by
  -- three fields are visited one after the other: the last two are put together first
  have failureAndMemo : Carries r Stored
      (fun pair : Option (Failure P) × Option (List (String × P)) =>
        applyToOption codec.decodeFailure pair.1 >>= fun failure =>
          applyToOption (applyToValues codec.decode) pair.2 >>= fun memo => pure (failure, memo))
      (fun pair => applyToOption codec.encodeFailure pair.1 >>= fun failure =>
          applyToOption (applyToValues codec.encode) pair.2 >>= fun memo => pure (failure, memo))
      (fun pair => failureCollections pair.1 ++ (pair.2.map valueCollections).getD [])
      (fun pair => (pair.1.map Failure.blank, pair.2.map (List.map Prod.fst)))
      (job.continuedFailure, job.memo) := by
    apply Carries.map₂ Prod.mk
      (failureField_carries codec.swap callee job.continuedFailure)
      (option_carries fun memo _ => values_carries callee memo) rfl (fun _ _ => rfl) (fun _ _ => rfl)
    intro failure' memo' sameFailure sameMemo
    simp only [sameFailure, sameMemo]
  apply Carries.map₂ (fun arguments (pair : Option (Failure P) × Option (List (String × P))) =>
      ({ job with arguments := arguments, continuedFailure := pair.1, memo := pair.2 } :
        StartWorkflow P))
    (payloads_carries callee job.arguments) failureAndMemo
  · simp only [Eff.bind_assoc]
    rfl
  · intro arguments' pair'
    simp only [Eff.bind_assoc]
    rfl
  · intro _ _
    rfl
  · rintro arguments' ⟨failure', memo'⟩ - same
    simp only [Prod.mk.injEq] at same
    simp only [WorkflowActivationJob.blank, same.1, same.2]

theorem job_carries (callee : Callee r codec.decode codec.encode) (job : WorkflowActivationJob P) :
    Carries r Stored (decodeJob codec) (decodeJob codec.swap) WorkflowActivationJob.collections
      WorkflowActivationJob.blank job := by
  cases job with
  | startWorkflow job =>
    apply Carries.map WorkflowActivationJob.startWorkflow (startWorkflow_carries callee job) rfl
      (fun _ => rfl) (fun _ => rfl)
    intro job' same
    exact same
  | queryWorkflow job =>
    apply Carries.map
      (fun arguments => WorkflowActivationJob.queryWorkflow { job with arguments := arguments })
      (payloads_carries callee job.arguments) rfl (fun _ => rfl) (fun _ => rfl)
    intro _ _
    rfl
  | cancelWorkflow details =>
    apply Carries.map WorkflowActivationJob.cancelWorkflow (payloads_carries callee details) rfl
      (fun _ => rfl) (fun _ => rfl)
    intro _ _
    rfl
  | signalWorkflow job =>
    apply Carries.map (fun input => WorkflowActivationJob.signalWorkflow { job with input := input })
      (payloads_carries callee job.input) rfl (fun _ => rfl) (fun _ => rfl)
    intro _ _
    rfl
  | doUpdate job =>
    apply Carries.map (fun input => WorkflowActivationJob.doUpdate { job with input := input })
      (payloads_carries callee job.input) rfl (fun _ => rfl) (fun _ => rfl)
    intro _ _
    rfl
  | resolveActivity seq result =>
    apply Carries.map (WorkflowActivationJob.resolveActivity seq)
      (option_carries fun status _ => activityResolution_carries callee status) rfl
      (fun _ => rfl) (fun _ => rfl)
    intro result' same
    simp only [WorkflowActivationJob.blank, same]
  | resolveChildWorkflowExecution seq result =>
    apply Carries.map (WorkflowActivationJob.resolveChildWorkflowExecution seq)
      (option_carries fun status _ => childWorkflowResult_carries callee status) rfl
      (fun _ => rfl) (fun _ => rfl)
    intro result' same
    simp only [WorkflowActivationJob.blank, same]
  | resolveChildWorkflowExecutionStart seq status =>
    apply Carries.map (WorkflowActivationJob.resolveChildWorkflowExecutionStart seq)
      (option_carries fun status _ => childWorkflowStart_carries callee status) rfl
      (fun _ => rfl) (fun _ => rfl)
    intro status' same
    simp only [WorkflowActivationJob.blank, same]
  | resolveSignalExternalWorkflow seq failure =>
    apply Carries.map (WorkflowActivationJob.resolveSignalExternalWorkflow seq)
      (failureField_carries codec.swap callee failure) rfl (fun _ => rfl) (fun _ => rfl)
    intro failure' same
    simp only [WorkflowActivationJob.blank, same]
  | resolveRequestCancelExternalWorkflow seq failure =>
    apply Carries.map (WorkflowActivationJob.resolveRequestCancelExternalWorkflow seq)
      (failureField_carries codec.swap callee failure) rfl (fun _ => rfl) (fun _ => rfl)
    intro failure' same
    simp only [WorkflowActivationJob.blank, same]
  | _ => exact Carries.none rfl rfl rfl

variable (codec) in
theorem activation_carries (callee : Callee r codec.decode codec.encode)
    (act : WorkflowActivation P) :
    Carries r Stored (decodeActivation codec) (decodeActivation codec.swap)
      WorkflowActivation.collections WorkflowActivation.blank act := by
  apply Carries.map (fun jobs => ({ act with jobs := jobs } : WorkflowActivation P))
    (Carries.each fun job _ => job_carries callee job) rfl (fun _ => rfl) (fun _ => rfl)
  intro jobs' same
  simp only [WorkflowActivation.blank, same]

/-! ### Completions -/

theorem queryResult_carries (callee : Callee r codec.encode codec.decode)
    (result : QueryResult P) :
    Carries r Stored (encodeQueryResult codec) (encodeQueryResult codec.swap) QueryResult.collections
      QueryResult.blank result := by
  cases result with
  | succeeded response =>
    apply Carries.map QueryResult.succeeded (result_carries codec callee response) rfl
      (fun _ => rfl) (fun _ => rfl)
    intro response' same
    simp only [QueryResult.blank, same]
  | failed failure =>
    apply Carries.map QueryResult.failed (failure_carries callee failure) rfl
      (fun _ => rfl) (fun _ => rfl)
    intro failure' same
    simp only [QueryResult.blank, same]

theorem updateResponse_carries (callee : Callee r codec.encode codec.decode)
    (response : UpdateResponse P) :
    Carries r Stored (encodeUpdateResponse codec) (encodeUpdateResponse codec.swap)
      UpdateResponse.collections UpdateResponse.blank response := by
  cases response with
  | accepted => exact Carries.none rfl rfl rfl
  | rejected failure =>
    apply Carries.map UpdateResponse.rejected (failure_carries callee failure) rfl
      (fun _ => rfl) (fun _ => rfl)
    intro failure' same
    simp only [UpdateResponse.blank, same]
  | completed result =>
    apply Carries.map UpdateResponse.completed (payload_carries callee result) rfl
      (fun _ => rfl) (fun _ => rfl)
    intro _ _
    rfl

theorem command_carries (callee : Callee r codec.encode codec.decode)
    (command : WorkflowCommand P) :
    Carries r Stored (encodeCommand codec) (encodeCommand codec.swap) WorkflowCommand.collections
      WorkflowCommand.blank command := by
  cases command with
  | scheduleActivity command =>
    apply Carries.map
      (fun arguments => WorkflowCommand.scheduleActivity { command with arguments := arguments })
      (payloads_carries callee command.arguments) rfl (fun _ => rfl) (fun _ => rfl)
    intro _ _
    rfl
  | scheduleLocalActivity command =>
    apply Carries.map
      (fun arguments => WorkflowCommand.scheduleLocalActivity { command with arguments := arguments })
      (payloads_carries callee command.arguments) rfl (fun _ => rfl) (fun _ => rfl)
    intro _ _
    rfl
  | signalExternalWorkflowExecution command =>
    apply Carries.map
      (fun args => WorkflowCommand.signalExternalWorkflowExecution { command with args := args })
      (payloads_carries callee command.args) rfl (fun _ => rfl) (fun _ => rfl)
    intro _ _
    rfl
  | respondToQuery queryId result =>
    apply Carries.map (WorkflowCommand.respondToQuery queryId)
      (option_carries fun result _ => queryResult_carries callee result) rfl
      (fun _ => rfl) (fun _ => rfl)
    intro result' same
    simp only [WorkflowCommand.blank, same]
  | completeWorkflowExecution result =>
    apply Carries.map WorkflowCommand.completeWorkflowExecution (result_carries codec callee result) rfl
      (fun _ => rfl) (fun _ => rfl)
    intro result' same
    simp only [WorkflowCommand.blank, same]
  | failWorkflowExecution failure =>
    apply Carries.map WorkflowCommand.failWorkflowExecution (failureField_carries codec callee failure) rfl
      (fun _ => rfl) (fun _ => rfl)
    intro failure' same
    simp only [WorkflowCommand.blank, same]
  | continueAsNewWorkflowExecution command =>
    apply Carries.map₂ (fun arguments memo => WorkflowCommand.continueAsNewWorkflowExecution
        { command with arguments := arguments, memo := memo })
      (payloads_carries callee command.arguments) (values_carries callee command.memo) rfl
      (fun _ _ => rfl) (fun _ _ => rfl)
    intro arguments' memo' _ same
    simp only [WorkflowCommand.blank, same]
  | startChildWorkflowExecution command =>
    apply Carries.map₂ (fun input memo => WorkflowCommand.startChildWorkflowExecution
        { command with input := input, memo := memo })
      (payloads_carries callee command.input) (values_carries callee command.memo) rfl
      (fun _ _ => rfl) (fun _ _ => rfl)
    intro input' memo' _ same
    simp only [WorkflowCommand.blank, same]
  | updateResponse protocolInstanceId response =>
    apply Carries.map (WorkflowCommand.updateResponse protocolInstanceId)
      (option_carries fun response _ => updateResponse_carries callee response) rfl
      (fun _ => rfl) (fun _ => rfl)
    intro response' same
    simp only [WorkflowCommand.blank, same]
  | _ => exact Carries.none rfl rfl rfl

theorem status_carries (callee : Callee r codec.encode codec.decode)
    (status : CompletionStatus P) :
    Carries r Stored (encodeStatus codec) (encodeStatus codec.swap) CompletionStatus.collections
      CompletionStatus.blank status := by
  cases status with
  | successful commands flags =>
    apply Carries.map (fun commands => CompletionStatus.successful commands flags)
      (Carries.each fun command _ => command_carries callee command) rfl
      (fun _ => rfl) (fun _ => rfl)
    intro commands' same
    simp only [CompletionStatus.blank, same]
  | failed failure forceCause =>
    apply Carries.map (fun failure => CompletionStatus.failed failure forceCause)
      (failureField_carries codec callee failure) rfl (fun _ => rfl) (fun _ => rfl)
    intro failure' same
    simp only [CompletionStatus.blank, same]

variable (codec) in
theorem completion_carries (callee : Callee r codec.encode codec.decode)
    (comp : WorkflowActivationCompletion P) :
    Carries r Stored (encodeCompletion codec) (encodeCompletion codec.swap)
      WorkflowActivationCompletion.collections WorkflowActivationCompletion.blank comp := by
  apply Carries.map
    (fun status => ({ comp with status := status } : WorkflowActivationCompletion P))
    (option_carries (a := comp.status) fun status _ => status_carries callee status) rfl
    (fun _ => rfl) (fun _ => rfl)
  intro status' same
  simp only [WorkflowActivationCompletion.blank, same]

end Messages

/-! ### The payloads of the instance are passed -/

theorem flatten_flatMap {α : Type} (l : List α) (f : α → List (List P)) :
    (l.flatMap f).flatten = l.flatMap fun a => (f a).flatten := by
  induction l with
  | nil => rfl
  | cons a rest ih => rw [List.flatMap_cons, List.flatMap_cons, List.flatten_append, ih]

theorem flatten_listCollections (payloads : List P) :
    (listCollections payloads).flatten = payloads := by
  cases payloads <;> simp [listCollections]

theorem flatten_valueCollections (entries : List (String × P)) :
    (valueCollections entries).flatten = entries.map Prod.snd := by
  rw [valueCollections, flatten_flatMap]
  exact List.map_eq_flatMap.symm

theorem flatten_payloadCollections (payload : Option P) :
    (payloadCollections payload).flatten = payload.toList := by
  cases payload <;> rfl

theorem flatten_detailsPayloads (details : Option (Payloads P)) :
    (detailsPayloads details).flatten = (details.map Payloads.payloads).getD [] := by
  cases details with
  | none => rfl
  | some details => exact List.append_nil _

theorem flatten_failureCollections (failure : Option (Failure P)) :
    (failureCollections failure).flatten = payloadsOfFailure failure := by
  cases failure <;> rfl

/-- What `from_failure` converts is among the collections; only the heartbeat
    details of a reset are passed and not converted. -/
theorem convertedOfFailure_sublist (failure : Option (Failure P)) :
    (convertedOfFailure failure).Sublist (payloadsOfFailure failure) := by
  cases failure with
  | none => exact List.Sublist.refl _
  | some failure =>
    change (failure.chain.flatMap convertedOfNode).Sublist failure.collections.flatten
    rw [Failure.collections, flatten_flatMap]
    apply List.Sublist.flatMap_right
    rintro node -
    rw [convertedOfNode, FailureNode.collections, List.flatten_append]
    apply List.Sublist.append
    · cases node.encodedAttributes <;> exact List.Sublist.refl _
    · cases node.failureInfo with
      | none => exact List.Sublist.refl _
      | some info =>
        rw [Option.map_some, Option.getD_some, flatten_detailsPayloads]
        cases info with
        | applicationFailureInfo info => exact List.Sublist.refl _
        | timeoutFailureInfo info => exact List.Sublist.refl _
        | canceledFailureInfo info => exact List.Sublist.refl _
        | _ => exact List.nil_sublist _

theorem flatten_collections_startWorkflow (job : StartWorkflow P) :
    job.collections.flatten = job.arguments ++ (payloadsOfFailure job.continuedFailure ++
      (job.memo.map (List.map Prod.snd)).getD []) := by
  rw [StartWorkflow.collections, List.flatten_append, List.flatten_append,
    flatten_listCollections, flatten_failureCollections]
  cases job.memo with
  | none => rfl
  | some memo => rw [Option.map_some, Option.getD_some, flatten_valueCollections]; rfl

theorem job_converted_sublist (job : WorkflowActivationJob P) :
    job.converted.Sublist job.collections.flatten := by
  cases job with
  | startWorkflow job =>
    change (job.arguments ++ _).Sublist job.collections.flatten
    rw [flatten_collections_startWorkflow]
    exact (List.Sublist.refl _).append (List.sublist_append_right _ _)
  | queryWorkflow job => exact (flatten_listCollections job.arguments).symm ▸ List.Sublist.refl _
  | signalWorkflow job => exact (flatten_listCollections job.input).symm ▸ List.Sublist.refl _
  | doUpdate job => exact (flatten_listCollections job.input).symm ▸ List.Sublist.refl _
  | resolveActivity seq result =>
    rcases result with _ | result | failure | failure | backoff
    · exact List.nil_sublist _
    · exact (flatten_payloadCollections result).symm ▸ List.Sublist.refl _
    · exact (flatten_failureCollections failure).symm ▸ convertedOfFailure_sublist failure
    · exact (flatten_failureCollections failure).symm ▸ convertedOfFailure_sublist failure
    · exact List.nil_sublist _
  | resolveChildWorkflowExecution seq result =>
    rcases result with _ | result | failure | failure
    · exact List.nil_sublist _
    · exact (flatten_payloadCollections result).symm ▸ List.Sublist.refl _
    · exact (flatten_failureCollections failure).symm ▸ convertedOfFailure_sublist failure
    · exact (flatten_failureCollections failure).symm ▸ convertedOfFailure_sublist failure
  | resolveChildWorkflowExecutionStart seq status =>
    rcases status with _ | runId | ⟨workflowId, workflowType, cause⟩ | failure
    · exact List.nil_sublist _
    · exact List.nil_sublist _
    · exact List.nil_sublist _
    · exact (flatten_failureCollections failure).symm ▸ convertedOfFailure_sublist failure
  | resolveSignalExternalWorkflow seq failure =>
    exact (flatten_failureCollections failure).symm ▸ convertedOfFailure_sublist failure
  | resolveRequestCancelExternalWorkflow seq failure =>
    exact (flatten_failureCollections failure).symm ▸ convertedOfFailure_sublist failure
  | _ => exact List.nil_sublist _

/-- Passed and untouched payloads are all payloads of a job. -/
theorem job_payloads_perm (job : WorkflowActivationJob P) :
    (job.collections.flatten ++ job.untouched).Perm job.payloads := by
  classical
  cases job with
  | startWorkflow job =>
    change (job.collections.flatten ++ _).Perm _
    rw [flatten_collections_startWorkflow, List.perm_iff_count]
    intro p
    simp only [WorkflowActivationJob.untouched, WorkflowActivationJob.payloads, List.count_append]
    omega
  | queryWorkflow job =>
    rw [WorkflowActivationJob.collections, flatten_listCollections]
    exact List.Perm.refl _
  | cancelWorkflow details =>
    rw [WorkflowActivationJob.collections, flatten_listCollections]
    exact List.append_nil _ ▸ List.Perm.refl _
  | signalWorkflow job =>
    rw [WorkflowActivationJob.collections, flatten_listCollections]
    exact List.Perm.refl _
  | doUpdate job =>
    rw [WorkflowActivationJob.collections, flatten_listCollections]
    exact List.Perm.refl _
  | resolveActivity seq result =>
    rcases result with _ | result | failure | failure | backoff <;>
      simp [WorkflowActivationJob.collections, WorkflowActivationJob.untouched,
        WorkflowActivationJob.payloads, ActivityResolution.collections,
        flatten_payloadCollections, flatten_failureCollections]
  | resolveChildWorkflowExecution seq result =>
    rcases result with _ | result | failure | failure <;>
      simp [WorkflowActivationJob.collections, WorkflowActivationJob.untouched,
        WorkflowActivationJob.payloads, ChildWorkflowResult.collections,
        flatten_payloadCollections, flatten_failureCollections]
  | resolveChildWorkflowExecutionStart seq status =>
    rcases status with _ | runId | ⟨workflowId, workflowType, cause⟩ | failure <;>
      simp [WorkflowActivationJob.collections, WorkflowActivationJob.untouched,
        WorkflowActivationJob.payloads, ChildWorkflowStart.collections, flatten_failureCollections]
  | resolveSignalExternalWorkflow seq failure =>
    simp [WorkflowActivationJob.collections, WorkflowActivationJob.untouched,
      WorkflowActivationJob.payloads, flatten_failureCollections]
  | resolveRequestCancelExternalWorkflow seq failure =>
    simp [WorkflowActivationJob.collections, WorkflowActivationJob.untouched,
      WorkflowActivationJob.payloads, flatten_failureCollections]
  | _ => exact List.Perm.refl _

theorem flatten_failure (failure : Failure P) :
    failure.collections.flatten = payloadsOfFailure (some failure) := rfl

/-- The user payloads of a command are exactly the payloads that are passed. -/
theorem command_userPayloads (command : WorkflowCommand P) :
    command.collections.flatten = command.userPayloads := by
  cases command with
  | respondToQuery queryId result =>
    rcases result with _ | response | failure <;>
      simp [WorkflowCommand.collections, WorkflowCommand.userPayloads, QueryResult.collections,
        flatten_payloadCollections, flatten_failure]
  | updateResponse protocolInstanceId response =>
    rcases response with _ | _ | failure | result <;>
      simp [WorkflowCommand.collections, WorkflowCommand.userPayloads, UpdateResponse.collections,
        flatten_failure]
  | _ =>
    simp [WorkflowCommand.collections, WorkflowCommand.userPayloads, flatten_payloadCollections,
      flatten_failureCollections, flatten_listCollections, flatten_valueCollections]

/-- Passed and untouched payloads are all payloads of a command. -/
theorem command_payloads_perm (command : WorkflowCommand P) :
    (command.collections.flatten ++ command.untouched).Perm command.payloads := by
  classical
  rw [command_userPayloads]
  cases command with
  | scheduleActivity command => exact List.perm_append_comm
  | scheduleLocalActivity command => exact List.perm_append_comm
  | startChildWorkflowExecution command =>
    rw [List.perm_iff_count]
    intro p
    simp only [WorkflowCommand.userPayloads, WorkflowCommand.untouched, WorkflowCommand.payloads,
      List.count_append]
    omega
  | respondToQuery queryId result =>
    rcases result with _ | response | failure <;>
      simp [WorkflowCommand.userPayloads, WorkflowCommand.untouched, WorkflowCommand.payloads]
  | updateResponse protocolInstanceId response =>
    rcases response with _ | _ | failure | result <;>
      simp [WorkflowCommand.userPayloads, WorkflowCommand.untouched, WorkflowCommand.payloads]
  | _ => simp [WorkflowCommand.userPayloads, WorkflowCommand.untouched, WorkflowCommand.payloads]

theorem activation_converted_sublist (act : WorkflowActivation P) :
    act.converted.Sublist act.collections.flatten := by
  rw [WorkflowActivation.converted, WorkflowActivation.collections, flatten_flatMap]
  exact List.Sublist.flatMap_right _ fun job _ => job_converted_sublist job

theorem activation_payloads_perm (act : WorkflowActivation P) :
    (act.collections.flatten ++ act.untouched).Perm act.payloads := by
  rw [WorkflowActivation.collections, flatten_flatMap]
  exact (List.flatMap_append_perm _ _ _).trans
    (List.Perm.flatMap_left _ fun job _ => job_payloads_perm job)

theorem completion_userPayloads (comp : WorkflowActivationCompletion P) :
    comp.collections.flatten = comp.userPayloads := by
  unfold WorkflowActivationCompletion.collections WorkflowActivationCompletion.userPayloads
  rcases comp.status with _ | ⟨commands, flags⟩ | ⟨failure, forceCause⟩
  · rfl
  · change (commands.flatMap WorkflowCommand.collections).flatten = _
    rw [flatten_flatMap]
    simp only [command_userPayloads]
    rfl
  · exact flatten_failureCollections failure

theorem completion_payloads_perm (comp : WorkflowActivationCompletion P) :
    (comp.collections.flatten ++ comp.untouched).Perm comp.payloads := by
  unfold WorkflowActivationCompletion.collections WorkflowActivationCompletion.untouched
    WorkflowActivationCompletion.payloads
  rcases comp.status with _ | ⟨commands, flags⟩ | ⟨failure, forceCause⟩
  · exact List.Perm.refl _
  · change ((commands.flatMap WorkflowCommand.collections).flatten ++ _).Perm _
    rw [flatten_flatMap]
    exact (List.flatMap_append_perm _ _ _).trans
      (List.Perm.flatMap_left _ fun command _ => command_payloads_perm command)
  · change ((failureCollections failure).flatten ++ []).Perm _
    rw [flatten_failureCollections, List.append_nil]
    exact List.Perm.refl _

/-! ### Both directions -/

/-- Codec coverage, for every codec that answers with payloads of its own, at
    least one for a non-empty list. Decoding an activation passes its collections to
    `decode`, once each and answered in place: the payloads the instance converts
    are among them, headers, search attributes and the last completion result are
    not, and everything but the passed payloads stays. Encoding a completion
    passes exactly its user payloads to `encode`, in the same way; when
    `decode(encode(ps)) = ps`, the same visitor with `decode` gives it back. -/
theorem codec_coverage (codec : PayloadCodec P σ) (decodes : codec.swap.Encodes)
    (encodes : codec.Encodes) :
    (∀ (act : WorkflowActivation P) (s : σ), ∃ act' calls s',
      decodeActivation codec.journaled act ([], s) = (.ok act', (calls, s')) ∧
        act.converted.Sublist (calls.map Prod.fst).flatten ∧
        ((calls.map Prod.fst).flatten ++ act.untouched).Perm act.payloads ∧
        calls.map Prod.fst = act.collections ∧
        List.Forall₂ Stored calls act'.collections ∧ act'.blank = act.blank) ∧
    (∀ (comp : WorkflowActivationCompletion P) (s : σ), ∃ comp' calls s',
      encodeCompletion codec.journaled comp ([], s) = (.ok comp', (calls, s')) ∧
        (calls.map Prod.fst).flatten = comp.userPayloads ∧
        ((calls.map Prod.fst).flatten ++ comp.untouched).Perm comp.payloads ∧
        calls.map Prod.fst = comp.collections ∧
        List.Forall₂ Stored calls comp'.collections ∧ comp'.blank = comp.blank ∧
        (codec.RoundTrips → ∀ t, ∃ calls' t',
          encodeCompletion codec.swap.journaled comp' ([], t) = (.ok comp, (calls', t')))) := by
  constructor
  · intro act s
    obtain ⟨act', calls, s', ran, given, answered, same, -⟩ :=
      activation_carries codec.journaled decodes.callee act [] s
    refine ⟨act', calls, s', ran, ?_, ?_, given, answered, same⟩
    -- what the calls were given are the collections of the message, in their order
    · rw [given]
      exact activation_converted_sublist act
    · rw [given]
      exact activation_payloads_perm act
  · intro comp s
    obtain ⟨comp', calls, s', ran, given, answered, same, inverse⟩ :=
      completion_carries codec.journaled encodes.callee comp [] s
    refine ⟨comp', calls, s', ran, ?_, ?_, given, answered, same, fun trips t => ?_⟩
    · rw [given]
      exact completion_userPayloads comp
    · rw [given]
      exact completion_payloads_perm comp
    · obtain ⟨comp'', calls', t', ran', rfl, -⟩ := inverse trips [] t
      exact ⟨calls', t', ran'⟩

theorem packing_decodes : packing.swap.Encodes := by
  intro ps s
  have pure : ∀ qs : List Packed, packing.decode ps s = (.ok qs, s) → qs ≠ [] →
      ∃ qs s', packing.swap.encode ps s = (.ok qs, s') ∧ (ps ≠ [] → qs ≠ []) :=
    fun qs ran some => ⟨qs, s, ran, fun _ => some⟩
  match ps with
  | [] => exact ⟨[], s, rfl, fun given => absurd rfl given⟩
  | [.pack (p :: ps)] => exact pure (p :: ps) rfl (List.cons_ne_nil p ps)
  | [.pack []] => exact pure [.pack []] rfl (List.cons_ne_nil _ _)
  | [.data bytes] => exact pure [.data bytes] rfl (List.cons_ne_nil _ _)
  | p :: q :: ps =>
    refine pure (p :: q :: ps) ?_ (List.cons_ne_nil _ _)
    rcases p with bytes | _ | ⟨p, rest⟩
    · rfl
    · rfl
    · rfl

/-- A workflow that schedules an activity with two arguments, and completes. -/
def scheduledAndCompleted : WorkflowActivationCompletion Packed where
  runId := "r1"
  status := some (.successful
    [.scheduleActivity
      { seq := 1, activityId := "1", activityType := "charge", taskQueue := "queue",
        headers := [("trace", .data [9])], arguments := [.data [1], .data [2]],
        scheduleToCloseTimeout := none, scheduleToStartTimeout := none,
        startToCloseTimeout := none, heartbeatTimeout := none, retryPolicy := none,
        cancellationType := 0, doNotEagerlyExecute := false, versioningIntent := 0 },
      .completeWorkflowExecution (some (.data [3]))] [])

theorem codec_coverage_packing :
    packing.swap.Encodes ∧ packing.Encodes ∧ packing.RoundTrips ∧
      ∃ comp' calls s',
        encodeCompletion packing.journaled scheduledAndCompleted ([], ()) =
            (.ok comp', (calls, s')) ∧
          calls.map Prod.fst = [[.data [1], .data [2]], [.data [3]]] ∧
          ∀ t, ∃ calls' t', encodeCompletion packing.swap.journaled comp' ([], t) =
            (.ok scheduledAndCompleted, (calls', t')) := by
  obtain ⟨comp', calls, s', ran, -, -, given, -, -, inverse⟩ :=
    (codec_coverage packing packing_decodes packing_roundTrips.encodes).2 scheduledAndCompleted ()
  exact ⟨packing_decodes, packing_roundTrips.encodes, packing_roundTrips, comp', calls, s', ran,
    given, inverse packing_roundTrips⟩

end TemporalSdk.Bridge
