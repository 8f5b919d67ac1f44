import TemporalSdk.Bridge.Visitors

/-!
# The payloads of activations and completions

Where payloads are in the messages: those the workflow instance converts from a
job or puts on a command, those the visitors pass to the codec, those they leave
alone, and a message with everything but its passed payloads.
-/
namespace TemporalSdk.Bridge

open Converter

variable {P : Type}

/-! ### What the instance converts and what it emits -/

/-- The payloads `from_failure` converts on one node. -/
def convertedOfNode (node : FailureNode P) : List P :=
  node.encodedAttributes.toList ++
    match node.failureInfo with
    | some (.applicationFailureInfo info) => (info.details.map Payloads.payloads).getD []
    | some (.timeoutFailureInfo info) => (info.lastHeartbeatDetails.map Payloads.payloads).getD []
    | some (.canceledFailureInfo info) => (info.details.map Payloads.payloads).getD []
    | _ => []

/-- The payloads `from_failure` converts, at every cause depth. -/
def convertedOfFailure (failure : Option (Failure P)) : List P :=
  (failure.map fun failure => failure.chain.flatMap convertedOfNode).getD []

/-- The payloads `_WorkflowInstanceImpl` converts from a job. -/
def WorkflowActivationJob.converted : WorkflowActivationJob P → List P
  | startWorkflow job => job.arguments ++ ((job.memo.map (List.map Prod.snd)).getD [])
  | queryWorkflow job => job.arguments
  | signalWorkflow job => job.input
  | doUpdate job => job.input
  | resolveActivity _ (some (.completed result)) => result.toList
  | resolveActivity _ (some (.failed failure)) => convertedOfFailure failure
  | resolveActivity _ (some (.cancelled failure)) => convertedOfFailure failure
  | resolveChildWorkflowExecution _ (some (.completed result)) => result.toList
  | resolveChildWorkflowExecution _ (some (.failed failure)) => convertedOfFailure failure
  | resolveChildWorkflowExecution _ (some (.cancelled failure)) => convertedOfFailure failure
  | resolveChildWorkflowExecutionStart _ (some (.cancelled failure)) => convertedOfFailure failure
  | resolveRequestCancelExternalWorkflow _ failure => convertedOfFailure failure
  | resolveSignalExternalWorkflow _ failure => convertedOfFailure failure
  | _ => []

/-- All payloads of a failure. -/
def payloadsOfFailure (failure : Option (Failure P)) : List P :=
  (failure.map fun failure => failure.collections.flatten).getD []

/-- The user payloads `_WorkflowInstanceImpl` puts on a command: arguments,
    results, memo, responses and failures. It has no code that adds
    `modify_workflow_properties`. -/
def WorkflowCommand.userPayloads : WorkflowCommand P → List P
  | completeWorkflowExecution result => result.toList
  | continueAsNewWorkflowExecution command => command.arguments ++ command.memo.map Prod.snd
  | failWorkflowExecution failure => payloadsOfFailure failure
  | respondToQuery _ (some (.succeeded response)) => response.toList
  | respondToQuery _ (some (.failed failure)) => payloadsOfFailure (some failure)
  | scheduleActivity command => command.arguments
  | scheduleLocalActivity command => command.arguments
  | signalExternalWorkflowExecution command => command.args
  | startChildWorkflowExecution command => command.input ++ command.memo.map Prod.snd
  | updateResponse _ (some (.completed result)) => [result]
  | updateResponse _ (some (.rejected failure)) => payloadsOfFailure (some failure)
  | _ => []

/-! ### What the visitors pass and what they leave alone -/

/-- A repeated field is one collection, unless it is empty. -/
def listCollections (payloads : List P) : List (List P) :=
  if payloads.length = 0 then [] else [payloads]

/-- Each value of a map field is a collection of one. -/
def valueCollections (entries : List (String × P)) : List (List P) :=
  entries.flatMap fun entry => [[entry.2]]

def payloadCollections (payload : Option P) : List (List P) :=
  (payload.map fun p => [[p]]).getD []

def failureCollections (failure : Option (Failure P)) : List (List P) :=
  (failure.map Failure.collections).getD []

def ActivityResolution.collections : ActivityResolution P → List (List P)
  | completed result => payloadCollections result
  | failed failure => failureCollections failure
  | cancelled failure => failureCollections failure
  | backoff _ => []

def ChildWorkflowResult.collections : ChildWorkflowResult P → List (List P)
  | completed result => payloadCollections result
  | failed failure => failureCollections failure
  | cancelled failure => failureCollections failure

def ChildWorkflowStart.collections : ChildWorkflowStart P → List (List P)
  | succeeded _ => []
  | failed _ _ _ => []
  | cancelled failure => failureCollections failure

def StartWorkflow.collections (job : StartWorkflow P) : List (List P) :=
  listCollections job.arguments ++
    (failureCollections job.continuedFailure ++ (job.memo.map valueCollections).getD [])

/-- The payload collections `decode_activation` passes for a job. -/
def WorkflowActivationJob.collections : WorkflowActivationJob P → List (List P)
  | startWorkflow job => job.collections
  | queryWorkflow job => listCollections job.arguments
  | cancelWorkflow details => listCollections details
  | signalWorkflow job => listCollections job.input
  | resolveActivity _ result => (result.map ActivityResolution.collections).getD []
  | resolveChildWorkflowExecutionStart _ status =>
    (status.map ChildWorkflowStart.collections).getD []
  | resolveChildWorkflowExecution _ result => (result.map ChildWorkflowResult.collections).getD []
  | resolveSignalExternalWorkflow _ failure => failureCollections failure
  | resolveRequestCancelExternalWorkflow _ failure => failureCollections failure
  | doUpdate job => listCollections job.input
  | _ => []

/-- The payloads of a job that are not user payloads of the workflow: headers,
    search attributes and the last completion result. -/
def WorkflowActivationJob.untouched : WorkflowActivationJob P → List P
  | startWorkflow job => job.headers.map Prod.snd ++
      ((job.lastCompletionResult.map Payloads.payloads).getD [] ++
        ((job.searchAttributes.map (List.map Prod.snd)).getD []))
  | queryWorkflow job => job.headers.map Prod.snd
  | signalWorkflow job => job.headers.map Prod.snd
  | doUpdate job => job.headers.map Prod.snd
  | _ => []

/-- All payloads of a job, in the order of its fields. -/
def WorkflowActivationJob.payloads : WorkflowActivationJob P → List P
  | startWorkflow job => job.arguments ++ (job.headers.map Prod.snd ++
      (payloadsOfFailure job.continuedFailure ++
        ((job.lastCompletionResult.map Payloads.payloads).getD [] ++
          ((job.memo.map (List.map Prod.snd)).getD [] ++
            ((job.searchAttributes.map (List.map Prod.snd)).getD [])))))
  | queryWorkflow job => job.arguments ++ job.headers.map Prod.snd
  | cancelWorkflow details => details
  | signalWorkflow job => job.input ++ job.headers.map Prod.snd
  | resolveActivity _ (some (.completed result)) => result.toList
  | resolveActivity _ (some (.failed failure)) => payloadsOfFailure failure
  | resolveActivity _ (some (.cancelled failure)) => payloadsOfFailure failure
  | resolveChildWorkflowExecutionStart _ (some (.cancelled failure)) => payloadsOfFailure failure
  | resolveChildWorkflowExecution _ (some (.completed result)) => result.toList
  | resolveChildWorkflowExecution _ (some (.failed failure)) => payloadsOfFailure failure
  | resolveChildWorkflowExecution _ (some (.cancelled failure)) => payloadsOfFailure failure
  | resolveSignalExternalWorkflow _ failure => payloadsOfFailure failure
  | resolveRequestCancelExternalWorkflow _ failure => payloadsOfFailure failure
  | doUpdate job => job.input ++ job.headers.map Prod.snd
  | _ => []

def QueryResult.collections : QueryResult P → List (List P)
  | succeeded response => payloadCollections response
  | failed failure => failure.collections

def UpdateResponse.collections : UpdateResponse P → List (List P)
  | accepted => []
  | rejected failure => failure.collections
  | completed result => [[result]]

/-- The payload collections `encode_completion` passes for a command. -/
def WorkflowCommand.collections : WorkflowCommand P → List (List P)
  | scheduleActivity command => listCollections command.arguments
  | respondToQuery _ result => (result.map QueryResult.collections).getD []
  | completeWorkflowExecution result => payloadCollections result
  | failWorkflowExecution failure => failureCollections failure
  | continueAsNewWorkflowExecution command =>
    listCollections command.arguments ++ valueCollections command.memo
  | startChildWorkflowExecution command =>
    listCollections command.input ++ valueCollections command.memo
  | signalExternalWorkflowExecution command => listCollections command.args
  | scheduleLocalActivity command => listCollections command.arguments
  | updateResponse _ response => (response.map UpdateResponse.collections).getD []
  | _ => []

/-- The payloads of a command that are left as they are: headers, search
    attributes, and the memo of the command the instance never adds. -/
def WorkflowCommand.untouched : WorkflowCommand P → List P
  | scheduleActivity command => command.headers.map Prod.snd
  | scheduleLocalActivity command => command.headers.map Prod.snd
  | continueAsNewWorkflowExecution command =>
    command.headers.map Prod.snd ++ command.searchAttributes.map Prod.snd
  | startChildWorkflowExecution command =>
    command.headers.map Prod.snd ++ command.searchAttributes.map Prod.snd
  | signalExternalWorkflowExecution command => command.headers.map Prod.snd
  | upsertWorkflowSearchAttributes attributes => attributes.map Prod.snd
  | modifyWorkflowProperties memo => (memo.map (List.map Prod.snd)).getD []
  | _ => []

/-- All payloads of a command, in the order of its fields. -/
def WorkflowCommand.payloads : WorkflowCommand P → List P
  | scheduleActivity command => command.headers.map Prod.snd ++ command.arguments
  | respondToQuery _ (some (.succeeded response)) => response.toList
  | respondToQuery _ (some (.failed failure)) => payloadsOfFailure (some failure)
  | completeWorkflowExecution result => result.toList
  | failWorkflowExecution failure => payloadsOfFailure failure
  | continueAsNewWorkflowExecution command => command.arguments ++ (command.memo.map Prod.snd ++
      (command.headers.map Prod.snd ++ command.searchAttributes.map Prod.snd))
  | startChildWorkflowExecution command => command.input ++ (command.headers.map Prod.snd ++
      (command.memo.map Prod.snd ++ command.searchAttributes.map Prod.snd))
  | signalExternalWorkflowExecution command => command.args ++ command.headers.map Prod.snd
  | scheduleLocalActivity command => command.headers.map Prod.snd ++ command.arguments
  | upsertWorkflowSearchAttributes attributes => attributes.map Prod.snd
  | modifyWorkflowProperties memo => (memo.map (List.map Prod.snd)).getD []
  | updateResponse _ (some (.completed result)) => [result]
  | updateResponse _ (some (.rejected failure)) => payloadsOfFailure (some failure)
  | _ => []

/-! ### Messages without the payloads that are passed -/

/-- What a visited field has besides its payloads. -/
inductive FieldShape where
  | payload (present : Option Unit)
  | values (keys : Option (List String))
  | failure (nodes : Option (List (FailureNode Unit)))
  deriving DecidableEq

def ActivityResolution.blank : ActivityResolution P → ActivityResolution P × List FieldShape
  | completed result => (completed none, [.payload (result.map fun _ => ())])
  | failed failure => (failed none, [.failure (failure.map Failure.blank)])
  | cancelled failure => (cancelled none, [.failure (failure.map Failure.blank)])
  | backoff value => (backoff value, [])

def ChildWorkflowResult.blank : ChildWorkflowResult P → ChildWorkflowResult P × List FieldShape
  | completed result => (completed none, [.payload (result.map fun _ => ())])
  | failed failure => (failed none, [.failure (failure.map Failure.blank)])
  | cancelled failure => (cancelled none, [.failure (failure.map Failure.blank)])

def ChildWorkflowStart.blank : ChildWorkflowStart P → ChildWorkflowStart P × List FieldShape
  | cancelled failure => (cancelled none, [.failure (failure.map Failure.blank)])
  | status => (status, [])

/-- A job without the payloads that are passed to the codec, and what else the
    fields had that held them. Headers and all other fields are kept. -/
def WorkflowActivationJob.blank :
    WorkflowActivationJob P → WorkflowActivationJob P × List FieldShape
  | startWorkflow job =>
    (startWorkflow { job with arguments := [], continuedFailure := none, memo := none },
      [.failure (job.continuedFailure.map Failure.blank),
        .values (job.memo.map (List.map Prod.fst))])
  | queryWorkflow job => (queryWorkflow { job with arguments := [] }, [])
  | cancelWorkflow _ => (cancelWorkflow [], [])
  | signalWorkflow job => (signalWorkflow { job with input := [] }, [])
  | doUpdate job => (doUpdate { job with input := [] }, [])
  | resolveActivity seq result =>
    (resolveActivity seq ((result.map ActivityResolution.blank).map Prod.fst),
      ((result.map ActivityResolution.blank).map Prod.snd).getD [])
  | resolveChildWorkflowExecution seq result =>
    (resolveChildWorkflowExecution seq ((result.map ChildWorkflowResult.blank).map Prod.fst),
      ((result.map ChildWorkflowResult.blank).map Prod.snd).getD [])
  | resolveChildWorkflowExecutionStart seq status =>
    (resolveChildWorkflowExecutionStart seq ((status.map ChildWorkflowStart.blank).map Prod.fst),
      ((status.map ChildWorkflowStart.blank).map Prod.snd).getD [])
  | resolveSignalExternalWorkflow seq failure =>
    (resolveSignalExternalWorkflow seq none, [.failure (failure.map Failure.blank)])
  | resolveRequestCancelExternalWorkflow seq failure =>
    (resolveRequestCancelExternalWorkflow seq none, [.failure (failure.map Failure.blank)])
  | job => (job, [])

def QueryResult.blank : QueryResult P → FieldShape
  | succeeded response => .payload (response.map fun _ => ())
  | failed failure => .failure (some failure.blank)

def UpdateResponse.blank : UpdateResponse P → Option FieldShape
  | accepted => none
  | rejected failure => some (.failure (some failure.blank))
  | completed _ => some (.payload (some ()))

/-- A command without the payloads that are passed to the codec. -/
def WorkflowCommand.blank : WorkflowCommand P → WorkflowCommand P × List (Option FieldShape)
  | scheduleActivity command => (scheduleActivity { command with arguments := [] }, [])
  | scheduleLocalActivity command => (scheduleLocalActivity { command with arguments := [] }, [])
  | respondToQuery queryId result =>
    (respondToQuery queryId none, [result.map QueryResult.blank])
  | completeWorkflowExecution result =>
    (completeWorkflowExecution none, [some (.payload (result.map fun _ => ()))])
  | failWorkflowExecution failure =>
    (failWorkflowExecution none, [some (.failure (failure.map Failure.blank))])
  | continueAsNewWorkflowExecution command =>
    (continueAsNewWorkflowExecution { command with arguments := [], memo := [] },
      [some (.values (some (command.memo.map Prod.fst)))])
  | startChildWorkflowExecution command =>
    (startChildWorkflowExecution { command with input := [], memo := [] },
      [some (.values (some (command.memo.map Prod.fst)))])
  | signalExternalWorkflowExecution command =>
    (signalExternalWorkflowExecution { command with args := [] }, [])
  | updateResponse protocolInstanceId response =>
    (updateResponse protocolInstanceId none, (response.map UpdateResponse.blank).toList)
  | command => (command, [])

/-! ### Whole messages -/

namespace WorkflowActivation

def converted (act : WorkflowActivation P) : List P :=
  act.jobs.flatMap WorkflowActivationJob.converted

def collections (act : WorkflowActivation P) : List (List P) :=
  act.jobs.flatMap WorkflowActivationJob.collections

def untouched (act : WorkflowActivation P) : List P :=
  act.jobs.flatMap WorkflowActivationJob.untouched

def payloads (act : WorkflowActivation P) : List P :=
  act.jobs.flatMap WorkflowActivationJob.payloads

def blank (act : WorkflowActivation P) :
    WorkflowActivation P × List (WorkflowActivationJob P × List FieldShape) :=
  ({ act with jobs := [] }, act.jobs.map WorkflowActivationJob.blank)

end WorkflowActivation

namespace CompletionStatus

def userPayloads : CompletionStatus P → List P
  | successful commands _ => commands.flatMap WorkflowCommand.userPayloads
  | failed failure _ => payloadsOfFailure failure

def collections : CompletionStatus P → List (List P)
  | successful commands _ => commands.flatMap WorkflowCommand.collections
  | failed failure _ => failureCollections failure

def untouched : CompletionStatus P → List P
  | successful commands _ => commands.flatMap WorkflowCommand.untouched
  | failed _ _ => []

def payloads : CompletionStatus P → List P
  | successful commands _ => commands.flatMap WorkflowCommand.payloads
  | failed failure _ => payloadsOfFailure failure

def blank : CompletionStatus P →
    CompletionStatus P × List (WorkflowCommand P × List (Option FieldShape)) × List FieldShape
  | successful commands flags =>
    (successful [] flags, commands.map WorkflowCommand.blank, [])
  | failed failure forceCause =>
    (failed none forceCause, [], [.failure (failure.map Failure.blank)])

end CompletionStatus

namespace WorkflowActivationCompletion

def userPayloads (comp : WorkflowActivationCompletion P) : List P :=
  (comp.status.map CompletionStatus.userPayloads).getD []

def collections (comp : WorkflowActivationCompletion P) : List (List P) :=
  (comp.status.map CompletionStatus.collections).getD []

def untouched (comp : WorkflowActivationCompletion P) : List P :=
  (comp.status.map CompletionStatus.untouched).getD []

def payloads (comp : WorkflowActivationCompletion P) : List P :=
  (comp.status.map CompletionStatus.payloads).getD []

def blank (comp : WorkflowActivationCompletion P) : String × Option (CompletionStatus P ×
    List (WorkflowCommand P × List (Option FieldShape)) × List FieldShape) :=
  (comp.runId, comp.status.map CompletionStatus.blank)

end WorkflowActivationCompletion

end TemporalSdk.Bridge
