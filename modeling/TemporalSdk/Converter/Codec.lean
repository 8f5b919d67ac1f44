import TemporalSdk.Visitor

/-!
# Failures and payload codecs

The protobuf `Failure` message and `temporalio.converter.PayloadCodec`: the
wrappers over `encode` and `decode`, and the visitor that applies them to the
payloads of a failure and of its causes.

Messages are generic in the type of payloads. A codec is a pair of programs
over a state of its own, so that a codec may draw nonces, count or fail. The
source rewrites messages in place; here the rewritten message is returned.
That is the same as long as a codec answers with payloads of its own.
-/
namespace TemporalSdk.Converter

variable {P σ : Type}

/-- What the code around a codec raises, and what a codec raises itself. -/
inductive CodecError where
  | indexError
  | raised (tag : Nat)
  deriving DecidableEq

/-- `temporalio.api.common.v1.Payloads`. -/
structure Payloads (P : Type) where
  payloads : List P
  deriving DecidableEq

/-- `google.protobuf.Duration`. -/
structure Duration where
  seconds : Int64
  nanos : Int32
  deriving DecidableEq

structure ApplicationFailureInfo (P : Type) where
  type : String := ""
  nonRetryable : Bool := false
  details : Option (Payloads P) := none
  nextRetryDelay : Option Duration := none
  deriving DecidableEq

structure TimeoutFailureInfo (P : Type) where
  /-- An open enumeration: any 32-bit number can arrive. -/
  timeoutType : Int32 := 0
  lastHeartbeatDetails : Option (Payloads P) := none
  deriving DecidableEq

structure CanceledFailureInfo (P : Type) where
  details : Option (Payloads P) := none
  deriving DecidableEq

structure ServerFailureInfo where
  nonRetryable : Bool := false
  deriving DecidableEq

structure ResetWorkflowFailureInfo (P : Type) where
  lastHeartbeatDetails : Option (Payloads P) := none
  deriving DecidableEq

structure ActivityFailureInfo where
  scheduledEventId : Int64 := 0
  startedEventId : Int64 := 0
  identity : String := ""
  /-- `ActivityType`, a message with a name. -/
  activityType : Option String := none
  activityId : String := ""
  retryState : Int32 := 0
  deriving DecidableEq

/-- `temporalio.api.common.v1.WorkflowExecution`. -/
structure WorkflowExecution where
  workflowId : String := ""
  runId : String := ""
  deriving DecidableEq

structure ChildWorkflowExecutionFailureInfo where
  «namespace» : String := ""
  workflowExecution : Option WorkflowExecution := none
  /-- `WorkflowType`, a message with a name. -/
  workflowType : Option String := none
  initiatedEventId : Int64 := 0
  startedEventId : Int64 := 0
  retryState : Int32 := 0
  deriving DecidableEq

structure NexusOperationFailureInfo where
  scheduledEventId : Int64 := 0
  endpoint : String := ""
  service : String := ""
  operation : String := ""
  operationId : String := ""
  deriving DecidableEq

/-- The `failure_info` oneof of `Failure`. -/
inductive FailureInfo (P : Type) where
  | applicationFailureInfo (info : ApplicationFailureInfo P)
  | timeoutFailureInfo (info : TimeoutFailureInfo P)
  | canceledFailureInfo (info : CanceledFailureInfo P)
  | terminatedFailureInfo
  | serverFailureInfo (info : ServerFailureInfo)
  | resetWorkflowFailureInfo (info : ResetWorkflowFailureInfo P)
  | activityFailureInfo (info : ActivityFailureInfo)
  | childWorkflowExecutionFailureInfo (info : ChildWorkflowExecutionFailureInfo)
  | nexusOperationExecutionFailureInfo (info : NexusOperationFailureInfo)
  deriving DecidableEq

/-- A `Failure` message without its cause. -/
structure FailureNode (P : Type) where
  message : String := ""
  source : String := ""
  stackTrace : String := ""
  encodedAttributes : Option P := none
  failureInfo : Option (FailureInfo P) := none
  deriving DecidableEq

/-- `temporalio.api.failure.v1.Failure`. -/
inductive Failure (P : Type) where
  | mk (node : FailureNode P) (cause : Option (Failure P))

namespace Failure

def node : Failure P → FailureNode P
  | ⟨node, _⟩ => node

def cause : Failure P → Option (Failure P)
  | ⟨_, cause⟩ => cause

/-- The nodes of a failure: its own and those of its causes, outermost first. -/
def chain : Failure P → List (FailureNode P)
  | ⟨node, some cause⟩ => node :: chain cause
  | ⟨node, none⟩ => [node]

end Failure

/-- `PayloadCodec`. -/
structure PayloadCodec (P σ : Type) where
  encode : List P → Eff σ CodecError (List P)
  decode : List P → Eff σ CodecError (List P)

namespace PayloadCodec

def encodeWrapper (codec : PayloadCodec P σ) (payloads : Payloads P) :
    Eff σ CodecError (Payloads P) := do
  let newPayloads ← codec.encode payloads.payloads
  pure { payloads with payloads := newPayloads }

def decodeWrapper (codec : PayloadCodec P σ) (payloads : Payloads P) :
    Eff σ CodecError (Payloads P) := do
  let newPayloads ← codec.decode payloads.payloads
  pure { payloads with payloads := newPayloads }

end PayloadCodec

section Visit

variable (cb : Payloads P → Eff σ CodecError (Payloads P))

/-- The wrap-and-copy-back path of `_apply_to_failure_payloads`. -/
def applyToEncodedAttributes : Option P → Eff σ CodecError (Option P)
  | some attributes => do
    let payloads ← cb ⟨[attributes]⟩
    match payloads.payloads with
    | first :: _ => pure (some first)
    | [] => Eff.raise .indexError
  | none => pure none

/-- A `Payloads` field that may be absent (`HasField`). -/
def applyToDetails : Option (Payloads P) → Eff σ CodecError (Option (Payloads P))
  | some details => do
    let details ← cb details
    pure (some details)
  | none => pure none

/-- The if/elif chain of `_apply_to_failure_payloads` over the info variants.
    At most one variant is set, so the order of the tests does not show. -/
def applyToFailureInfo : FailureInfo P → Eff σ CodecError (FailureInfo P)
  | .applicationFailureInfo info => do
    let details ← applyToDetails cb info.details
    pure (.applicationFailureInfo { info with details := details })
  | .timeoutFailureInfo info => do
    let details ← applyToDetails cb info.lastHeartbeatDetails
    pure (.timeoutFailureInfo { info with lastHeartbeatDetails := details })
  | .canceledFailureInfo info => do
    let details ← applyToDetails cb info.details
    pure (.canceledFailureInfo { info with details := details })
  | .resetWorkflowFailureInfo info => do
    let details ← applyToDetails cb info.lastHeartbeatDetails
    pure (.resetWorkflowFailureInfo { info with lastHeartbeatDetails := details })
  | info => pure info

/-- A sub-message that may be absent. -/
def applyToOption {α : Type} (visit : α → Eff σ CodecError α) :
    Option α → Eff σ CodecError (Option α)
  | some a => do
    let a ← visit a
    pure (some a)
  | none => pure none

def applyToFailureNode (node : FailureNode P) : Eff σ CodecError (FailureNode P) := do
  let attributes ← applyToEncodedAttributes cb node.encodedAttributes
  let info ← applyToOption (applyToFailureInfo cb) node.failureInfo
  pure { node with encodedAttributes := attributes, failureInfo := info }

/-- `_apply_to_failure_payloads`. -/
def applyToFailurePayloads : Failure P → Eff σ CodecError (Failure P)
  | ⟨node, some cause⟩ => do
    let node ← applyToFailureNode cb node
    let cause ← applyToFailurePayloads cause
    pure ⟨node, some cause⟩
  | ⟨node, none⟩ => do
    let node ← applyToFailureNode cb node
    pure ⟨node, none⟩

end Visit

namespace PayloadCodec

def encodeFailure (codec : PayloadCodec P σ) (failure : Failure P) :
    Eff σ CodecError (Failure P) :=
  applyToFailurePayloads codec.encodeWrapper failure

def decodeFailure (codec : PayloadCodec P σ) (failure : Failure P) :
    Eff σ CodecError (Failure P) :=
  applyToFailurePayloads codec.decodeWrapper failure

/-- The codec with the two directions exchanged. -/
def swap (codec : PayloadCodec P σ) : PayloadCodec P σ where
  encode := codec.decode
  decode := codec.encode

/-- The codec with a journal of its calls: what was passed to `encode` or
    `decode` and what came back. -/
def journaled (codec : PayloadCodec P σ) :
    PayloadCodec P (List (List P × Option (List P)) × σ) where
  encode := Visitor.record codec.encode
  decode := Visitor.record codec.decode

/-- `encode` returns, and answers a non-empty list with at least one payload. -/
def Encodes (codec : PayloadCodec P σ) : Prop :=
  ∀ ps s, ∃ qs s', codec.encode ps s = (.ok qs, s') ∧ (ps ≠ [] → qs ≠ [])

/-- An answer within the documented contract: for a non-empty list at least one
    payload and at most as many as given. -/
def Fits (given answered : List P) : Prop :=
  given ≠ [] → answered ≠ [] ∧ answered.length ≤ given.length

/-- `encode` returns, within the documented contract, and `decode` returns what
    was encoded: `decode(encode(ps)) = ps`, whatever the codec's state. -/
def RoundTrips (codec : PayloadCodec P σ) : Prop :=
  ∀ ps s, ∃ qs s', codec.encode ps s = (.ok qs, s') ∧ Fits ps qs ∧
    ∀ t, ∃ t', codec.decode qs t = (.ok ps, t')

end PayloadCodec

/-! ### The payload collections of a failure -/

section Collections

def detailsPayloads (details : Option (Payloads P)) : List (List P) :=
  (details.map Payloads.payloads).toList

/-- The payload collection of an info variant, if it has one. -/
def FailureInfo.details : FailureInfo P → Option (Payloads P)
  | .applicationFailureInfo info => info.details
  | .timeoutFailureInfo info => info.lastHeartbeatDetails
  | .canceledFailureInfo info => info.details
  | .resetWorkflowFailureInfo info => info.lastHeartbeatDetails
  | _ => none

/-- The payload collections of one node; the encoded attributes are a
    collection of one. -/
def FailureNode.collections (node : FailureNode P) : List (List P) :=
  (node.encodedAttributes.map fun p => [p]).toList ++
    (node.failureInfo.map fun info => detailsPayloads info.details).getD []

def Failure.collections (failure : Failure P) : List (List P) :=
  failure.chain.flatMap FailureNode.collections

/-- An info variant with its payloads forgotten, but not whether it had any. -/
def FailureInfo.blank : FailureInfo P → FailureInfo Unit
  | .applicationFailureInfo info =>
    .applicationFailureInfo
      { type := info.type
        nonRetryable := info.nonRetryable
        details := info.details.map fun _ => ⟨[]⟩
        nextRetryDelay := info.nextRetryDelay }
  | .timeoutFailureInfo info =>
    .timeoutFailureInfo
      { timeoutType := info.timeoutType
        lastHeartbeatDetails := info.lastHeartbeatDetails.map fun _ => ⟨[]⟩ }
  | .canceledFailureInfo info => .canceledFailureInfo ⟨info.details.map fun _ => ⟨[]⟩⟩
  | .terminatedFailureInfo => .terminatedFailureInfo
  | .serverFailureInfo info => .serverFailureInfo info
  | .resetWorkflowFailureInfo info =>
    .resetWorkflowFailureInfo ⟨info.lastHeartbeatDetails.map fun _ => ⟨[]⟩⟩
  | .activityFailureInfo info => .activityFailureInfo info
  | .childWorkflowExecutionFailureInfo info => .childWorkflowExecutionFailureInfo info
  | .nexusOperationExecutionFailureInfo info => .nexusOperationExecutionFailureInfo info

def FailureNode.blank (node : FailureNode P) : FailureNode Unit where
  message := node.message
  source := node.source
  stackTrace := node.stackTrace
  encodedAttributes := node.encodedAttributes.map fun _ => ()
  failureInfo := node.failureInfo.map FailureInfo.blank

/-- Everything of a failure but its payloads, node by node. -/
def Failure.blank (failure : Failure P) : List (FailureNode Unit) :=
  failure.chain.map FailureNode.blank

end Collections

end TemporalSdk.Converter
