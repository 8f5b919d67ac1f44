import Mathlib.Logic.Function.Iterate
import TemporalSdk.Converter.Composite

/-!
# The result of a workflow

`WorkflowHandle.result`: a loop over runs around a loop over the events of a run,
which an iterator fetches page by page. The server is a function of the number of
requests before and of the request, so that it may answer differently each time.

Payloads, failures, type hints and what they are decoded to are arbitrary types.
-/
namespace TemporalSdk.Client

open Converter (Bytes)

/-! ### Events -/

/-- `P` is the type of payloads, `F` of failures. -/
inductive HistoryEvent (P F : Type) where
  | workflowExecutionCompleted (result : List P) (newExecutionRunId : String)
  | workflowExecutionFailed (failure : F) (newExecutionRunId : String)
  | workflowExecutionCanceled (details : List P)
  | workflowExecutionTerminated (reason : String) (details : List P)
  | workflowExecutionTimedOut (newExecutionRunId : String)
  | workflowExecutionContinuedAsNew (newExecutionRunId : String)
  /-- Any other event. -/
  | other

namespace HistoryEvent

variable {P F : Type}

def isClose : HistoryEvent P F → Bool
  | other => false
  | _ => true

/-- `new_execution_run_id`, which is empty if it is not set. -/
def newExecutionRunId : HistoryEvent P F → String
  | workflowExecutionCompleted _ id | workflowExecutionFailed _ id
  | workflowExecutionTimedOut id | workflowExecutionContinuedAsNew id => id
  | workflowExecutionCanceled _ | workflowExecutionTerminated _ _ | other => ""

end HistoryEvent

/-! ### Outcomes -/

/-- The causes of a `WorkflowFailureError`: `V` is the type of values, `E` of what a
    failure is decoded to. -/
inductive FailureCause (V E : Type) where
  | decoded (error : E)
  | cancelled (message : String) (details : List V)
  | terminated (message : String) (details : List V)
  /-- Of type `START_TO_CLOSE`. -/
  | startToCloseTimeout (message : String) (lastHeartbeatDetails : List V)

/-- What `result` raises. `X` is the type of other exceptions: those of calls to the
    server and of the converter. -/
inductive ResultError (V E X : Type) where
  | workflowFailure (cause : FailureCause V E)
  | workflowContinuedAsNew (newExecutionRunId : String)
  | runtimeError (message : String)
  | assertionError
  | other (error : X)

/-- `None` is `none`; a warning may come with the value. -/
inductive Outcome (V E X : Type) where
  | returned (value : Option V) (warning : Option String)
  | raised (error : ResultError V E X)

/-- The data converter of the client. `T` is the type of type hints. -/
structure DataConverter (P F T V E X : Type) where
  decode : List P → Option T → Except X (List V)
  decodeFailure : F → Except X E

section Body

variable {P F T V E X : Type} (converter : DataConverter P F T V E X)

/-- `decode_wrapper`. -/
def DataConverter.decodeWrapper (payloads : List P) (typeHints : Option T) :
    Except X (List V) :=
  if payloads.isEmpty then .ok [] else converter.decode payloads typeHints

/-- What the body of the loop over events does. -/
inductive Control (V E X : Type) where
  | next
  /-- `hist_run_id = ...; break`. -/
  | follow (histRunId : String)
  | leave (outcome : Outcome V E X)

/-- `raise` with a cause that is decoded first. -/
def raiseWith {A : Type} (decoded : Except X A) (cause : A → FailureCause V E) : Control V E X :=
  match decoded with
  | .ok a => .leave (.raised (.workflowFailure (cause a)))
  | .error error => .leave (.raised (.other error))

/-- "Ignoring anything after the first response like TypeScript". -/
def firstResult : Except X (List V) → Control V E X
  | .error error => .leave (.raised (.other error))
  | .ok [] => .leave (.returned none none)
  | .ok [result] => .leave (.returned (some result) none)
  | .ok (result :: others) =>
    .leave (.returned (some result)
      (some s!"Expected single result, got {(result :: others).length}"))

/-- The body of `async for event in ...`. -/
def handleEvent (resultType : Option T) (followRuns : Bool) : HistoryEvent P F → Control V E X
  | .workflowExecutionCompleted result newExecutionRunId =>
    -- Follow execution
    if followRuns ∧ newExecutionRunId ≠ "" then .follow newExecutionRunId
    else firstResult (converter.decodeWrapper result resultType)
  | .workflowExecutionFailed failure newExecutionRunId =>
    if followRuns ∧ newExecutionRunId ≠ "" then .follow newExecutionRunId
    else raiseWith (converter.decodeFailure failure) FailureCause.decoded
  | .workflowExecutionCanceled details =>
    raiseWith (converter.decodeWrapper details none) (FailureCause.cancelled "Workflow cancelled")
  | .workflowExecutionTerminated reason details =>
    raiseWith (converter.decodeWrapper details none)
      (FailureCause.terminated (if reason = "" then "Workflow terminated" else reason))
  | .workflowExecutionTimedOut newExecutionRunId =>
    if followRuns ∧ newExecutionRunId ≠ "" then .follow newExecutionRunId
    else .leave (.raised (.workflowFailure (.startToCloseTimeout "Workflow timed out" [])))
  | .workflowExecutionContinuedAsNew newExecutionRunId =>
    if newExecutionRunId = "" then
      .leave (.raised (.runtimeError "Unexpectedly missing new run ID from continue as new"))
    else if followRuns then .follow newExecutionRunId
    else .leave (.raised (.workflowContinuedAsNew newExecutionRunId))
  | .other => .next

end Body

/-! ### The iterator -/

/-- A `GetWorkflowExecutionHistoryRequest`: the fields that differ between those of one
    call of `result`. The others ask for the close event, and to wait for it. -/
structure Request where
  runId : String
  nextPageToken : Bytes
  deriving DecidableEq

/-- A `GetWorkflowExecutionHistoryResponse`. -/
structure Response (P F : Type) where
  events : List (HistoryEvent P F)
  nextPageToken : Bytes
  /-- The length of `raw_history`, which is not supported. -/
  rawHistory : Nat

structure WorkflowHistoryEventAsyncIterator (P F : Type) where
  runId : Option String
  nextPageToken : Option Bytes
  currentPage : Option (List (HistoryEvent P F))
  currentPageIndex : Nat

namespace WorkflowHistoryEventAsyncIterator

variable {P F : Type} (it : WorkflowHistoryEventAsyncIterator P F)

/-- `_fetch_history_events_for_run`. -/
def init (runId : Option String) : WorkflowHistoryEventAsyncIterator P F where
  runId := runId
  nextPageToken := none
  currentPage := none
  currentPageIndex := 0

def request : Request where
  runId := it.runId.getD ""
  nextPageToken := it.nextPageToken.getD []

/-- `resp.next_page_token or None`. -/
def tokenOf (token : Bytes) : Option Bytes := if token.isEmpty then none else some token

/-- `fetch_next_page` once there is a response. -/
def fetched (resp : Response P F) : WorkflowHistoryEventAsyncIterator P F :=
  { it with
    currentPage := some resp.events
    currentPageIndex := 0
    nextPageToken := tokenOf resp.nextPageToken }

/-- What comes next in `__anext__`. -/
inductive Round (P F : Type) where
  | fetchNextPage
  | stopAsyncIteration
  | event (event : HistoryEvent P F) (it : WorkflowHistoryEventAsyncIterator P F)

/-- A round of the loop of `__anext__`. -/
def round : Round P F :=
  match it.currentPage with
  -- No page? fetch and continue
  | none => .fetchNextPage
  | some page =>
    match page[it.currentPageIndex]? with
    -- No more left in page
    | none => if it.nextPageToken.isSome then .fetchNextPage else .stopAsyncIteration
    -- Increment page index and return
    | some event => .event event { it with currentPageIndex := it.currentPageIndex + 1 }

end WorkflowHistoryEventAsyncIterator

/-! ### The call -/

/-- What the server answers to a request, after so many others. -/
def Server (P F X : Type) : Type := Nat → Request → Except X (Response P F)

/-- The local variables of `result`, the requests that have been made, and the outcome
    once there is one. -/
structure ResultCall (P F V E X : Type) where
  histRunId : Option String
  events : WorkflowHistoryEventAsyncIterator P F
  requests : List Request
  outcome : Option (Outcome V E X)

namespace ResultCall

variable {P F T V E X : Type} (converter : DataConverter P F T V E X) (server : Server P F X)
  (resultType : Option T) (followRuns : Bool)

/-- The outer loop starts to read a run. -/
def read (histRunId : Option String) (requests : List Request) : ResultCall P F V E X where
  histRunId := histRunId
  events := .init histRunId
  requests := requests
  outcome := none

/-- The call of a handle with this `result_run_id`. -/
def start (resultRunId : Option String) : ResultCall P F V E X := read resultRunId []

/-- A round of the innermost loop, with what follows it up to the next. -/
def step (s : ResultCall P F V E X) : ResultCall P F V E X :=
  if s.outcome.isSome then s
  else
    match s.events.round with
    | .fetchNextPage =>
      let requests := s.requests ++ [s.events.request]
      match server s.requests.length s.events.request with
      | .error error => { s with requests := requests, outcome := some (.raised (.other error)) }
      | .ok resp =>
        -- We don't support raw history
        if resp.rawHistory ≠ 0 then
          { s with requests := requests, outcome := some (.raised .assertionError) }
        else { s with requests := requests, events := s.events.fetched resp }
    | .event event it =>
      match handleEvent converter resultType followRuns event with
      | .next => { s with events := it }
      | .follow histRunId => read (some histRunId) s.requests
      | .leave outcome => { s with outcome := some outcome }
    | .stopAsyncIteration =>
      -- "If there's not, it's an error because no event was given (should never happen)"
      match s.histRunId with
      | none => { s with outcome := some (.raised (.runtimeError "No completion event found")) }
      | some _ => read s.histRunId s.requests

end ResultCall

end TemporalSdk.Client
