import TemporalSdk.Client.WorkflowResult

/-!
# Iterators over pages

`WorkflowExecutionAsyncIterator`, `WorkflowHistoryEventAsyncIterator` and
`ScheduleAsyncIterator`, which all have the same loop over a page, an index and a
token. They differ in what they request and in what they read of a response
(`PagedCall`). The server is a function of the number of requests before and of the
request, so that it may answer differently each time.

Executions, schedules and what they are converted to are arbitrary types.
-/
namespace TemporalSdk.Client.Pages

open Converter (Bytes)
open WorkflowHistoryEventAsyncIterator (tokenOf)

variable {Q R I X : Type}

/-! ### The loop -/

/-- What is raised: an error of the call or of converting an item, or the assertion. -/
inductive PageError (X : Type) where
  | raised (error : X)
  | assertionError

/-- What an iterator asks for: `Q` is the type of requests, `R` of responses, `I` of
    items. -/
structure PagedCall (Q R I X : Type) where
  /-- The request with the page size that is passed to `fetch_next_page`, and the token. -/
  request : Option Nat → Bytes → Q
  /-- The page of a response. -/
  page : R → Except (PageError X) (List I)
  nextPageToken : R → Bytes

/-- `_next_page_token`, `_current_page` and `_current_page_index`. -/
structure AsyncIterator (I : Type) where
  nextPageToken : Option Bytes
  currentPage : Option (List I)
  currentPageIndex : Nat

/-- `__init__`, with the token of the input. -/
def AsyncIterator.init (nextPageToken : Option Bytes) : AsyncIterator I where
  nextPageToken := nextPageToken
  currentPage := none
  currentPageIndex := 0

/-- An iterator and the requests that have been made. -/
structure State (Q I : Type) where
  it : AsyncIterator I
  requests : List Q

/-- What the server answers to a request, after so many others. -/
abbrev Server (Q R X : Type) := Nat → Q → Except X R

variable (call : PagedCall Q R I X) (server : Server Q R X)

/-- `fetch_next_page`. What raises leaves the page and the token as they were. -/
def fetchNextPage (pageSize : Option Nat) (s : State Q I) :
    State Q I × Option (PageError X) :=
  let request := call.request pageSize (s.it.nextPageToken.getD [])
  let requested := { s with requests := s.requests ++ [request] }
  match server s.requests.length request with
  | .error error => (requested, some (.raised error))
  | .ok resp =>
    match call.page resp with
    | .error error => (requested, some error)
    | .ok page => ({ requested with it :=
        { nextPageToken := tokenOf (call.nextPageToken resp)
          currentPage := some page
          currentPageIndex := 0 } }, none)

/-- What `__anext__` ends with. -/
inductive Next (I X : Type) where
  | item (item : I)
  | stopAsyncIteration
  | raised (error : PageError X)

/-- What comes next in `__anext__`. -/
inductive Round (I : Type) where
  | fetch
  | stop
  | item (item : I) (it : AsyncIterator I)

/-- A round of the loop of `__anext__`. -/
def round (it : AsyncIterator I) : Round I :=
  match it.currentPage with
  -- "No page? fetch and continue"
  | none => .fetch
  | some page =>
    match page[it.currentPageIndex]? with
    -- "No more left in page?"
    | none => if it.nextPageToken.isSome then .fetch else .stop
    -- "Get current, increment page index, and return"
    | some item => .item item { it with currentPageIndex := it.currentPageIndex + 1 }

/-- `__anext__`, with at most so many rounds of its loop. -/
def anext : Nat → State Q I → Option (Next I X × State Q I)
  | 0, _ => none
  | rounds + 1, s =>
    match round s.it with
    | .item item it => some (.item item, { s with it := it })
    | .stop => some (.stopAsyncIteration, s)
    | .fetch =>
      match fetchNextPage call server none s with
      | (s, some error) => some (.raised error, s)
      | (s, none) => anext rounds s

/-- So many calls of `__anext__`, one after the other. -/
def anexts (rounds : Nat) : Nat → State Q I → Option (List (Next I X) × State Q I)
  | 0, s => some ([], s)
  | calls + 1, s => do
    let (next, s) ← anext call server rounds s
    let (nexts, s) ← anexts rounds calls s
    return (next :: nexts, s)

/-! ### The three iterators -/

/-- `ListWorkflowsInput` without what is passed along with every call. -/
structure ListWorkflowsInput where
  query : Option String
  pageSize : Nat
  nextPageToken : Option Bytes

structure ListWorkflowExecutionsRequest where
  «namespace» : String
  pageSize : Nat
  nextPageToken : Bytes
  query : String

structure ListWorkflowExecutionsResponse (A : Type) where
  executions : List A
  nextPageToken : Bytes

/-- `page_size or self._input.page_size`. -/
def sizeOr (pageSize : Option Nat) (inputPageSize : Nat) : Nat :=
  match pageSize with
  | none | some 0 => inputPageSize
  | some pageSize => pageSize

/-- `WorkflowExecutionAsyncIterator`, with `WorkflowExecution._from_raw_info`. -/
def workflowExecutionAsyncIterator {A : Type} (namesp : String) (input : ListWorkflowsInput)
    (fromRawInfo : A → Except X I) :
    PagedCall ListWorkflowExecutionsRequest (ListWorkflowExecutionsResponse A) I X where
  request pageSize token :=
    { «namespace» := namesp
      pageSize := sizeOr pageSize input.pageSize
      nextPageToken := token
      query := input.query.getD "" }
  page resp := (resp.executions.mapM fromRawInfo).mapError .raised
  nextPageToken resp := resp.nextPageToken

/-- `FetchWorkflowHistoryEventsInput` without what is passed along with every call. -/
structure FetchWorkflowHistoryEventsInput where
  id : String
  runId : Option String
  pageSize : Option Nat
  nextPageToken : Option Bytes
  waitNewEvent : Bool
  eventFilterType : Int32
  skipArchival : Bool

structure GetWorkflowExecutionHistoryRequest where
  «namespace» : String
  workflowId : String
  runId : String
  maximumPageSize : Nat
  nextPageToken : Bytes
  waitNewEvent : Bool
  historyEventFilterType : Int32
  skipArchival : Bool

/-- `WorkflowHistoryEventAsyncIterator`. The page size that is passed to `fetch_next_page`
    is not used. -/
def workflowHistoryEventAsyncIterator {P F : Type} (namesp : String)
    (input : FetchWorkflowHistoryEventsInput) :
    PagedCall GetWorkflowExecutionHistoryRequest (Response P F) (HistoryEvent P F) X where
  request _ token :=
    { «namespace» := namesp
      workflowId := input.id
      runId := input.runId.getD ""
      maximumPageSize := input.pageSize.getD 0
      nextPageToken := token
      waitNewEvent := input.waitNewEvent
      historyEventFilterType := input.eventFilterType
      skipArchival := input.skipArchival }
  -- "We don't support raw history"
  page resp := if resp.rawHistory = 0 then .ok resp.events else .error .assertionError
  nextPageToken resp := resp.nextPageToken

/-- `ListSchedulesInput` without what is passed along with every call. -/
structure ListSchedulesInput where
  pageSize : Nat
  nextPageToken : Option Bytes
  query : Option String

structure ListSchedulesRequest where
  «namespace» : String
  maximumPageSize : Nat
  nextPageToken : Bytes
  query : String

structure ListSchedulesResponse (A : Type) where
  schedules : List A
  nextPageToken : Bytes

/-- `ScheduleAsyncIterator`, with `ScheduleListDescription._from_proto`. -/
def scheduleAsyncIterator {A : Type} (namesp : String) (input : ListSchedulesInput)
    (fromProto : A → Except X I) :
    PagedCall ListSchedulesRequest (ListSchedulesResponse A) I X where
  request pageSize token :=
    { «namespace» := namesp
      maximumPageSize := sizeOr pageSize input.pageSize
      nextPageToken := token
      query := input.query.getD "" }
  page resp := (resp.schedules.mapM fromProto).mapError .raised
  nextPageToken resp := resp.nextPageToken

end TemporalSdk.Client.Pages
