import TemporalSdk.Dict
import Mathlib.Data.Rat.Defs

/-!
# Data of the workflow instance

The values `_WorkflowInstanceImpl` exchanges with core and with workflow code:
exceptions, the jobs of an activation, the commands of a completion, handler
definitions and the inputs of outbound calls. Payloads, failures, types and
Python objects are opaque here; the converters that give them meaning are
parameters of the instance (`Details`).
-/
namespace TemporalSdk.Workflow

/-- A reference to a Python object, by identity. -/
abbrev Obj := Nat

abbrev Payload := Nat

/-- The protobuf `Failure` message. -/
abbrev Failure := Nat

/-- `activity_result.DoBackoff`. -/
structure DoBackoff where
  attempt : Nat
  originalScheduleTime : Nat
  backoffDuration : Int
  deriving DecidableEq

/-- `temporalio.common.RetryPolicy`; intervals in microseconds. -/
structure RetryPolicy where
  initialInterval : Int
  backoffCoefficient : Rat
  maximumInterval : Option Int
  maximumAttempts : Int
  deriving DecidableEq

/-- `ContinueAsNewInput`: what its command is built from. -/
structure ContinueAsNewInput where
  args : List Obj
  memo : List Obj
  retryPolicy : Option RetryPolicy
  searchAttributes : Option Obj
  deriving DecidableEq

/-- Instances of `temporalio.exceptions.FailureError`. -/
inductive FailureError where
  | cancelledError
  | workflowAlreadyStarted (workflowId : String)
  /-- Any other failure; `cancelledCause` marks an activity or child workflow
      error whose cause is a `CancelledError`. -/
  | other (tag : Nat) (cancelledCause : Bool)
  deriving DecidableEq

/-- Instances of `Exception`: what `except Exception` catches. -/
inductive Error where
  | readOnlyContext (action : String)
  | invalidState
  | runtimeError (message : String)
  | valueError (message : String)
  | overflowError
  | assertionError
  | failureError (f : FailureError)
  /-- An exception of workflow code. Its class may define `__bool__` or
      `__len__`, so the object may be falsy. -/
  | user (cls : Nat) (truthy : Bool)
  deriving DecidableEq

/-- Anything a Python `raise` can carry. -/
inductive Exc where
  | error (e : Error)
  /-- `asyncio.CancelledError`, which is not an `Exception`. -/
  | cancelled
  | activityDoBackoff (backoff : DoBackoff)
  | continueAsNew (input : ContinueAsNewInput)
  | workflowBeingEvicted
  /-- `SystemExit` and `KeyboardInterrupt`, which asyncio does not keep on the loop -/
  | exit (tag : Nat)
  /-- any other `BaseException` -/
  | base (tag : Nat)
  deriving DecidableEq

/-- What neither a task nor a handle of asyncio keeps to itself. -/
def Exc.exits : Exc → Bool
  | .exit _ => true
  | _ => false

namespace Error

/-- The truth value of the exception object, as `if err:` sees it. -/
def truthy : Error → Bool
  | .user _ truthy => truthy
  | _ => true

/-- `temporalio.exceptions.is_cancelled_exception`. -/
def isCancelled : Error → Bool
  | .failureError .cancelledError => true
  | .failureError (.other _ cancelledCause) => cancelledCause
  | _ => false

def isFailureError : Error → Bool
  | .failureError _ => true
  | _ => false

end Error

/-! ### Handler definitions -/

/-- Type hints. Only `temporalio.common.RawValue` is looked at. -/
inductive PyType where
  | rawValue
  | other (tag : Nat)
  deriving DecidableEq

/-- `_SignalDefinition`, `_QueryDefinition` and `_UpdateDefinition`: what the
instance reads of them. `name` is `none` for a dynamic handler, `validator` is
used by updates only. -/
structure HandlerDefn where
  name : Option String
  fn : Obj
  isMethod : Bool
  argTypes : Option (List PyType)
  dynamicVararg : Bool
  validator : Option Obj
  deriving DecidableEq

/-- A handler name is tested by truth value, so an empty name counts as none. -/
def noName : Option String → Bool
  | none => true
  | some name => name.isEmpty

/-- A callable given to `set_signal_handler` and its siblings. `dynamicForm`
says whether its signature is that of a dynamic handler, and then whether it is
the old form with a vararg. -/
structure HandlerFn where
  fn : Obj
  argTypes : Option (List PyType)
  dynamicForm : Option Bool
  deriving DecidableEq

/-- `__post_init__` of a signal or query definition. -/
def HandlerFn.define (h : HandlerFn) (name : Option String) : Except Error HandlerDefn :=
  if noName name then
    match h.dynamicForm with
    | some vararg => .ok ⟨name, h.fn, false, h.argTypes, vararg, none⟩
    | none => .error (.runtimeError
        "Dynamic handler must have 3 arguments: self, str, and Sequence[temporalio.common.RawValue]")
  else
    .ok ⟨name, h.fn, false, h.argTypes, false, none⟩

/-- `__post_init__` of an update definition, which disallows dynamic varargs. -/
def HandlerFn.defineUpdate (h : HandlerFn) (name : Option String) (validator : Option Obj) :
    Except Error HandlerDefn := do
  let defn ← h.define name
  if defn.dynamicVararg then
    .error (.runtimeError
      "Dynamic updates do not support a vararg third param, use Sequence[RawValue]")
  else
    .ok { defn with validator := validator }

/-- `self._signals`, `self._queries`, `self._updates`: `none` is the key of the
dynamic handler. -/
abbrev HandlerTable := Dict (Option String) HandlerDefn

/-- `table.get(name) or table.get(None)`. -/
def HandlerTable.resolve (table : HandlerTable) (name : String) : Option HandlerDefn :=
  match table.get? (some name) with
  | some defn => some defn
  | none => table.get? none

/-- `' '.join(sorted([k for k in table.keys() if k]))`. -/
def HandlerTable.known (table : HandlerTable) : String :=
  String.intercalate " "
    (((table.keys.filterMap id).filter fun k => !k.isEmpty).mergeSort fun a b => !decide (b < a))

/-! ### Jobs -/

structure SignalWorkflow where
  signalName : String
  input : List Payload
  deriving DecidableEq

structure DoUpdate where
  id : String
  protocolInstanceId : String
  name : String
  input : List Payload
  runValidator : Bool
  deriving DecidableEq

structure QueryWorkflow where
  queryId : String
  queryType : String
  arguments : List Payload
  deriving DecidableEq

/-- `ResolveActivity.result`; `unset` is a message with no variant. -/
inductive ActivityResolution where
  | completed (result : Option Payload)
  | failed (failure : Failure)
  | cancelled (failure : Failure)
  | backoff (backoff : DoBackoff)
  | unset
  deriving DecidableEq

inductive ChildWorkflowResult where
  | completed (result : Option Payload)
  | failed (failure : Failure)
  | cancelled (failure : Failure)
  | unset
  deriving DecidableEq

inductive ChildWorkflowStart where
  | succeeded (runId : String)
  | failed (alreadyExists : Bool) (workflowId : String)
  | cancelled (failure : Failure)
  | unset
  deriving DecidableEq

/-- `WorkflowActivationJob`, one constructor for each variant `_apply` knows. -/
inductive Job where
  | cancelWorkflow
  | doUpdate (job : DoUpdate)
  | fireTimer (seq : Nat)
  | queryWorkflow (job : QueryWorkflow)
  | notifyHasPatch (patchId : String)
  | removeFromCache
  | resolveActivity (seq : Nat) (result : ActivityResolution)
  | resolveChildWorkflowExecution (seq : Nat) (result : ChildWorkflowResult)
  | resolveChildWorkflowExecutionStart (seq : Nat) (status : ChildWorkflowStart)
  | resolveRequestCancelExternalWorkflow (seq : Nat) (failure : Option Failure)
  | resolveSignalExternalWorkflow (seq : Nat) (failure : Option Failure)
  | signalWorkflow (job : SignalWorkflow)
  | startWorkflow (arguments : List Payload)
  | updateRandomSeed (seed : Nat)
  | unrecognized
  deriving DecidableEq

/-! ### Commands -/

/-- `update_response`; `unset` is a message whose oneof holds nothing yet. -/
inductive UpdateResponse where
  | unset
  | accepted
  | rejected (failure : Option Failure)
  | completed (payload : Payload)
  deriving DecidableEq

inductive QueryResponse where
  | succeeded (payload : Payload)
  | failed (failure : Option Failure)
  deriving DecidableEq

inductive Command where
  | scheduleActivity (seq : Nat)
  | scheduleLocalActivity (seq : Nat) (backoff : Option DoBackoff)
  | requestCancelActivity (seq : Nat)
  | requestCancelLocalActivity (seq : Nat)
  | startTimer (seq : Nat) (delay : Int)
  | cancelTimer (seq : Nat)
  | startChildWorkflowExecution (seq : Nat)
  | cancelChildWorkflowExecution (childWorkflowSeq : Nat)
  | signalExternalWorkflowExecution (seq : Nat)
  | cancelSignalWorkflow (seq : Nat)
  | requestCancelExternalWorkflowExecution (seq : Nat)
  | updateResponse (protocolInstanceId : String) (response : UpdateResponse)
  | respondToQuery (queryId : String) (response : QueryResponse)
  | setPatchMarker (patchId : String) (deprecated : Bool)
  | upsertWorkflowSearchAttributes
  | completeWorkflowExecution (result : Payload)
  | failWorkflowExecution (failure : Option Failure)
  | cancelWorkflowExecution
  | continueAsNewWorkflowExecution (arguments : List Payload)
  deriving DecidableEq

/-- `WorkflowActivationCompletion`: the oneof of `successful` and `failed`. -/
inductive Completion where
  | successful (commands : List Command)
  | failed (failure : Option Failure)
  deriving DecidableEq

/-! ### Inputs of outbound calls -/

/-- `RetryPolicy._validate`. -/
def RetryPolicy.validate (p : RetryPolicy) : Except Error Unit :=
  -- Ignore other validation if disabling retries
  if p.maximumAttempts = 1 then .ok ()
  else if p.initialInterval < 0 then .error (.valueError "Initial interval cannot be negative")
  else if p.backoffCoefficient < 1 then
    .error (.valueError "Backoff coefficient cannot be less than 1")
  else
    -- a zero timedelta is falsy, so `if self.maximum_interval` skips it
    match p.maximumInterval.filter (· ≠ 0) with
    | some m =>
      if m < 0 then .error (.valueError "Maximum interval cannot be negative")
      else if m < p.initialInterval then
        .error (.valueError "Maximum interval cannot be less than initial interval")
      else if p.maximumAttempts < 0 then
        .error (.valueError "Maximum attempts cannot be negative")
      else .ok ()
    | none =>
      if p.maximumAttempts < 0 then .error (.valueError "Maximum attempts cannot be negative")
      else .ok ()

/-- The microseconds that a `timedelta` can hold: at most 999999999 days either way. -/
def timedeltaHolds (microseconds : Int) : Bool :=
  -999999999 * 86400000000 ≤ microseconds && microseconds < 1000000000 * 86400000000

/-- What `RetryPolicy.apply_to_proto` raises: the default of the maximum interval
is a `timedelta`, and the maximum number of attempts an `int32`. -/
def RetryPolicy.applyToProto (p : RetryPolicy) : Except Error Unit := do
  -- Do validation before converting
  p.validate
  -- `self.maximum_interval or self.initial_interval * 100`
  if (p.maximumInterval.filter (· ≠ 0)).isNone && !timedeltaHolds (p.initialInterval * 100) then
    .error .overflowError
  else if p.maximumAttempts < -2147483648 || 2147483648 ≤ p.maximumAttempts then
    .error (.valueError ("Value out of range: " ++ toString p.maximumAttempts))
  else
    .ok ()

/-- `StartActivityInput` and `StartLocalActivityInput`. -/
structure StartActivityInput where
  isLocal : Bool
  args : List Obj
  retType : Option PyType
  /-- whether `start_to_close_timeout` or `schedule_to_close_timeout` is given -/
  hasTimeout : Bool
  retryPolicy : Option RetryPolicy
  deriving DecidableEq

/-- `StartChildWorkflowInput`. -/
structure StartChildWorkflowInput where
  id : String
  args : List Obj
  retType : Option PyType
  retryPolicy : Option RetryPolicy
  memo : List Obj
  searchAttributes : Option Obj
  deriving DecidableEq

/-- `WorkflowInstanceDetails`: the pluggable converters and the workflow
definition. Converters raise instances of `Exception` only. `σ` is the state of
the objects of workflow code. -/
structure Details (σ : Type) where
  toPayloads : List Obj → Except Error (List Payload)
  fromPayloads : List Payload → Option (List PyType) → Except Error (List Obj)
  toFailure : Error → Except Error Failure
  fromFailure : Failure → Except Error Error
  encodeSearchAttributes : Obj → Except Error Unit
  /-- the error is an instance of one of `failure_exception_types` of the
      workflow or of the worker -/
  failureExceptionTypes : Error → Bool
  /-- the workflow is dynamic: `not self._defn.name` -/
  dynamicWorkflow : Bool
  argTypes : Option (List PyType)
  signals : HandlerTable
  queries : HandlerTable
  updates : HandlerTable
  /-- the truth value of the workflow object, which its class may define -/
  objectTruthy : σ → Bool

/-- `_is_workflow_failure_exception`. -/
def Details.isWorkflowFailureException {σ : Type} (det : Details σ) (e : Error) : Bool :=
  e.isFailureError || det.failureExceptionTypes e

end TemporalSdk.Workflow
