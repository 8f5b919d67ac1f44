import TemporalSdk.Converter.Codec

/-!
# The default failure converter

Python exceptions as the failure converter sees them, the `FailureError` classes
of `temporalio.exceptions`, and `DefaultFailureConverter`: `to_failure` with
`_error_to_failure`, and `from_failure`. The payload converter is a parameter.
-/
namespace TemporalSdk.Converter

variable {P : Type}

/-- A Python value handed to or received from a payload converter. Only the
    encoded attributes are looked into, and they are a dict of strings. -/
inductive PyObject where
  | str (s : String)
  | dict (entries : List (String × PyObject))
  | other (id : Nat)

/-- What a conversion raises. -/
inductive ConversionError where
  | indexError
  | valueError (message : String)
  /-- Raised by the payload converter, or by `__str__` of an exception. -/
  | raised (tag : Nat)
  deriving DecidableEq

/-- `temporalio.exceptions.TimeoutType`. -/
inductive TimeoutType where
  | startToClose
  | scheduleToStart
  | scheduleToClose
  | heartbeat
  deriving DecidableEq

namespace TimeoutType

def toInt : TimeoutType → Int32
  | startToClose => 1
  | scheduleToStart => 2
  | scheduleToClose => 3
  | heartbeat => 4

/-- `TimeoutType(int(value))`. -/
def ofInt (value : Int32) : Except ConversionError TimeoutType :=
  if value = 1 then .ok startToClose
  else if value = 2 then .ok scheduleToStart
  else if value = 3 then .ok scheduleToClose
  else if value = 4 then .ok heartbeat
  else .error (.valueError s!"{value.toInt} is not a valid TimeoutType")

end TimeoutType

/-- `temporalio.exceptions.RetryState`. -/
inductive RetryState where
  | inProgress
  | nonRetryableFailure
  | timeout
  | maximumAttemptsReached
  | retryPolicyNotSet
  | internalServerError
  | cancelRequested
  deriving DecidableEq

namespace RetryState

def toInt : RetryState → Int32
  | inProgress => 1
  | nonRetryableFailure => 2
  | timeout => 3
  | maximumAttemptsReached => 4
  | retryPolicyNotSet => 5
  | internalServerError => 6
  | cancelRequested => 7

/-- `RetryState(int(value))`. -/
def ofInt (value : Int32) : Except ConversionError RetryState :=
  if value = 1 then .ok inProgress
  else if value = 2 then .ok nonRetryableFailure
  else if value = 3 then .ok timeout
  else if value = 4 then .ok maximumAttemptsReached
  else if value = 5 then .ok retryPolicyNotSet
  else if value = 6 then .ok internalServerError
  else if value = 7 then .ok cancelRequested
  else .error (.valueError s!"{value.toInt} is not a valid RetryState")

end RetryState

/-- The subclasses of `FailureError` with their own attributes. -/
inductive ErrorInfo where
  | applicationError (details : List PyObject) (type : Option String) (nonRetryable : Bool)
  | timeoutError (type : Option TimeoutType) (lastHeartbeatDetails : List PyObject)
  | cancelledError (details : List PyObject)
  | terminatedError (details : List PyObject)
  | serverError (nonRetryable : Bool)
  | activityError (scheduledEventId startedEventId : Int64)
      (identity activityType activityId : String) (retryState : Option RetryState)
  | childWorkflowError («namespace» workflowId runId workflowType : String)
      (initiatedEventId startedEventId : Int64) (retryState : Option RetryState)
  | workflowAlreadyStartedError (workflowId workflowType : String) (runId : Option String)
  /-- `FailureError` itself. -/
  | failureError

/-- What an exception object carries besides its links to other exceptions. -/
inductive ExceptionData (P : Type) where
  /-- A `FailureError`; `failure` is its underlying proto. -/
  | failureError (message : String) (info : ErrorInfo) (failure : Option (Failure P))
  /-- Any other exception: `__class__.__name__` and what `str(exception)` returns
      or raises. -/
  | ordinary (className : String) (text : Except ConversionError String)

/-- A Python exception. The class of an exception may define `__bool__` or
    `__len__`, so an exception may be falsy. The traceback is given by the
    entries `traceback.format_tb` makes of it. -/
inductive PyException (P : Type) where
  | mk (data : ExceptionData P) (traceback : Option (List String)) (truthy : Bool)
      (cause context : Option (PyException P)) (suppressContext : Bool)

namespace PyException

def data : PyException P → ExceptionData P
  | ⟨data, _, _, _, _, _⟩ => data

/-- `__traceback__`. -/
def traceback : PyException P → Option (List String)
  | ⟨_, traceback, _, _, _, _⟩ => traceback

/-- `bool(exception)`. -/
def truthy : PyException P → Bool
  | ⟨_, _, truthy, _, _, _⟩ => truthy

/-- `__cause__`. -/
def cause : PyException P → Option (PyException P)
  | ⟨_, _, _, cause, _, _⟩ => cause

/-- `__context__`. -/
def context : PyException P → Option (PyException P)
  | ⟨_, _, _, _, context, _⟩ => context

/-- `__suppress_context__`. -/
def suppressContext : PyException P → Bool
  | ⟨_, _, _, _, _, suppressContext⟩ => suppressContext

end PyException

/-- `temporalio.converter.PayloadConverter`. -/
structure PayloadConverter (P : Type) where
  toPayloads : List PyObject → Except ConversionError (List P)
  fromPayloads : List P → Except ConversionError (List PyObject)

namespace PayloadConverter

variable (conv : PayloadConverter P)

def toPayloadsWrapper (values : List PyObject) : Except ConversionError (Payloads P) :=
  conv.toPayloads values >>= fun payloads => .ok ⟨payloads⟩

def fromPayloadsWrapper : Option (Payloads P) → Except ConversionError (List PyObject)
  | some ⟨p :: payloads⟩ => conv.fromPayloads (p :: payloads)
  | _ => .ok []

end PayloadConverter

/-! ### From exceptions to failures -/

section ToFailure

variable (conv : PayloadConverter P)

/-- Details are written only when there are any (`if error.details`). -/
def detailsToPayloads (details : List PyObject) :
    Except ConversionError (Option (Payloads P)) :=
  match details with
  | [] => .ok none
  | details => conv.toPayloadsWrapper details >>= fun payloads => .ok (some payloads)

/-- The subclass values `_error_to_failure` sets. -/
def ErrorInfo.toFailureInfo : ErrorInfo → Except ConversionError (Option (FailureInfo P))
  | applicationError details type nonRetryable => do
    let details ← detailsToPayloads conv details
    .ok (some (.applicationFailureInfo
      { type := type.getD "", nonRetryable := nonRetryable, details := details }))
  | timeoutError type lastHeartbeatDetails => do
    let details ← detailsToPayloads conv lastHeartbeatDetails
    .ok (some (.timeoutFailureInfo
      { timeoutType := (type.map TimeoutType.toInt).getD 0, lastHeartbeatDetails := details }))
  | cancelledError details => do
    let details ← detailsToPayloads conv details
    .ok (some (.canceledFailureInfo { details := details }))
  | terminatedError _ => .ok (some .terminatedFailureInfo)
  | serverError nonRetryable => .ok (some (.serverFailureInfo { nonRetryable := nonRetryable }))
  | activityError scheduledEventId startedEventId identity activityType activityId retryState =>
    .ok (some (.activityFailureInfo
      { scheduledEventId := scheduledEventId
        startedEventId := startedEventId
        identity := identity
        activityType := some activityType
        activityId := activityId
        retryState := (retryState.map RetryState.toInt).getD 0 }))
  | childWorkflowError «namespace» workflowId runId workflowType initiatedEventId
      startedEventId retryState =>
    .ok (some (.childWorkflowExecutionFailureInfo
      { «namespace» := «namespace»
        workflowExecution := some { workflowId := workflowId, runId := runId }
        workflowType := some workflowType
        initiatedEventId := initiatedEventId
        startedEventId := startedEventId
        retryState := (retryState.map RetryState.toInt).getD 0 }))
  | workflowAlreadyStartedError _ _ _ => .ok none
  | failureError => .ok none

/-- `"\n".join(traceback.format_tb(error.__traceback__))`, when there is a traceback. -/
def formatTraceback (traceback : Option (List String)) : String :=
  (traceback.map (String.intercalate "\n")).getD ""

/-- The node `_error_to_failure` writes for an error without a proto. -/
def errorToNode (message : String) (traceback : Option (List String)) (info : ErrorInfo) :
    Except ConversionError (FailureNode P) := do
  let failureInfo ← info.toFailureInfo conv
  .ok { message := message, stackTrace := formatTraceback traceback, failureInfo := failureInfo }

/-- `_error_to_failure`; `cause` is the conversion of the cause or the context. -/
def errorToFailure (message : String) (traceback : Option (List String)) (info : ErrorInfo)
    (failure : Option (Failure P)) (cause : Option (Except ConversionError (Failure P))) :
    Except ConversionError (Failure P) :=
  match failure with
  -- If there is an underlying proto already, just use that.
  | some failure => .ok failure
  | none =>
    match cause with
    | some cause => do
      let cause ← cause
      let node ← errorToNode conv message traceback info
      .ok ⟨node, some cause⟩
    | none => do
      let node ← errorToNode conv message traceback info
      .ok ⟨node, none⟩

/-- `{"message": ..., "stack_trace": ...}`. -/
def commonAttributes (message stackTrace : String) : PyObject :=
  .dict [("message", .str message), ("stack_trace", .str stackTrace)]

/-- `DefaultFailureConverter`. -/
structure DefaultFailureConverter where
  encodeCommonAttributes : Bool

namespace DefaultFailureConverter

variable (self : DefaultFailureConverter)

/-- The end of `to_failure`: moves message and stack trace to the encoded
    attributes, if requested. -/
def encodeAttributes : Failure P → Except ConversionError (Failure P)
  | ⟨node, cause⟩ =>
    if self.encodeCommonAttributes then do
      match ← conv.toPayloads [commonAttributes node.message node.stackTrace] with
      | first :: _ =>
        .ok ⟨{ node with
          encodedAttributes := some first, message := "Encoded failure", stackTrace := "" }, cause⟩
      | [] => .error .indexError
    else .ok ⟨node, cause⟩

/-- `to_failure`. -/
def toFailure : PyException P → Except ConversionError (Failure P)
  | ⟨data, traceback, _, cause, context, suppressContext⟩ =>
    -- `if error.__cause__:` and `elif ... error.__context__:` test the truth of the objects.
    let viaCause :=
      match cause with
      | some cause => if cause.truthy then some (toFailure cause) else none
      | none => none
    let viaContext :=
      match context with
      | some context => if context.truthy then some (toFailure context) else none
      | none => none
    (match data with
      | .failureError message info failure =>
        errorToFailure conv message traceback info failure
          (viaCause.or (if suppressContext then none else viaContext))
      | .ordinary className text => do
        let text ← text
        -- Rebuilt as an `ApplicationError`. Assigning its `__cause__` also sets
        -- `__suppress_context__`, and its `__context__` is not assigned.
        errorToFailure conv text traceback (.applicationError [] (some className) false) none
          viaCause) >>= self.encodeAttributes conv

end DefaultFailureConverter

end ToFailure

/-! ### From failures to exceptions -/

section FromFailure

variable (conv : PayloadConverter P)

/-- The entry of a dict, if the value is a dict and the entry a string. -/
def stringEntry (key : String) : PyObject → Option String
  | .dict entries =>
    match entries.lookup key with
    | some (.str s) => some s
    | _ => none
  | _ => none

/-- The start of `from_failure`: the node with message and stack trace restored
    from the encoded attributes. Anything that goes wrong there is ignored. -/
def decodeAttributes (node : FailureNode P) : FailureNode P :=
  match node.encodedAttributes with
  | none => node
  | some attributes =>
    match conv.fromPayloads [attributes] with
    | .ok (value :: _) =>
      { node with
        message := (stringEntry "message" value).getD node.message
        stackTrace := (stringEntry "stack_trace" value).getD node.stackTrace }
    | _ => node

/-- `failure.message or default`. -/
def orDefault (message default : String) : String := if message = "" then default else message

/-- `TimeoutType(int(value)) if value else None`, and the same for `RetryState`. -/
def optionalEnum {α : Type} (ofInt : Int32 → Except ConversionError α) (value : Int32) :
    Except ConversionError (Option α) :=
  if value = 0 then .ok none else ofInt value >>= fun a => .ok (some a)

/-- The if/elif chain of `from_failure`: message and class of the error. -/
def nodeToError (node : FailureNode P) : Except ConversionError (String × ErrorInfo) :=
  match node.failureInfo with
  | some (.applicationFailureInfo info) => do
    let details ← conv.fromPayloadsWrapper info.details
    .ok (orDefault node.message "Application error",
      .applicationError details (if info.type = "" then none else some info.type)
        info.nonRetryable)
  | some (.timeoutFailureInfo info) => do
    let type ← optionalEnum TimeoutType.ofInt info.timeoutType
    let details ← conv.fromPayloadsWrapper info.lastHeartbeatDetails
    .ok (orDefault node.message "Timeout", .timeoutError type details)
  | some (.canceledFailureInfo info) => do
    let details ← conv.fromPayloadsWrapper info.details
    .ok (orDefault node.message "Cancelled", .cancelledError details)
  | some .terminatedFailureInfo => .ok (orDefault node.message "Terminated", .terminatedError [])
  | some (.serverFailureInfo info) =>
    .ok (orDefault node.message "Server error", .serverError info.nonRetryable)
  | some (.activityFailureInfo info) => do
    let retryState ← optionalEnum RetryState.ofInt info.retryState
    .ok (orDefault node.message "Activity error",
      .activityError info.scheduledEventId info.startedEventId info.identity
        (info.activityType.getD "") info.activityId retryState)
  | some (.childWorkflowExecutionFailureInfo info) => do
    let retryState ← optionalEnum RetryState.ofInt info.retryState
    let execution := info.workflowExecution.getD {}
    .ok (orDefault node.message "Child workflow error",
      .childWorkflowError info.namespace execution.workflowId execution.runId
        (info.workflowType.getD "") info.initiatedEventId info.startedEventId retryState)
  | _ => .ok (orDefault node.message "Failure error", .failureError)

/-- `from_failure`. The error keeps the failure, with message and stack trace
    restored on its outermost node only, as its proto. -/
def fromFailure : Failure P → Except ConversionError (PyException P)
  | ⟨node, some cause⟩ => do
    let node := decodeAttributes conv node
    let (message, info) ← nodeToError conv node
    let causedBy ← fromFailure cause
    .ok ⟨.failureError message info (some ⟨node, some cause⟩), none, true, some causedBy, none, true⟩
  | ⟨node, none⟩ => do
    let node := decodeAttributes conv node
    let (message, info) ← nodeToError conv node
    .ok ⟨.failureError message info (some ⟨node, none⟩), none, true, none, none, false⟩

end FromFailure

end TemporalSdk.Converter
