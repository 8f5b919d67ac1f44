import TemporalSdk.Converter.FailureConverter
import TemporalSdk.Rewrite

/-!
# The data converter

`temporalio.converter.DataConverter`, as far as it decodes. `decode` makes values of
payloads and leaves these alone. `decode_failure` first lets the codec rewrite the
failure it is given, in place: here it returns the failure as it leaves it, also when
it raises. The codec's `decode` is a function of what it is given, and may return the
very container it is given, which `decode_wrapper` has emptied by then.
-/
namespace TemporalSdk.Converter

variable {P T : Type}

/-! ### Decoding a failure in place -/

/-- `failure_info` with another payload collection, for the variants that have one. -/
def FailureInfo.withDetails (info : FailureInfo P) (details : Option (Payloads P)) :
    FailureInfo P :=
  match info with
  | .applicationFailureInfo info => .applicationFailureInfo { info with details := details }
  | .timeoutFailureInfo info =>
    .timeoutFailureInfo { info with lastHeartbeatDetails := details }
  | .canceledFailureInfo info => .canceledFailureInfo { info with details := details }
  | .resetWorkflowFailureInfo info =>
    .resetWorkflowFailureInfo { info with lastHeartbeatDetails := details }
  | info => info

namespace FailureNode

/-- The payload collection of the info variant that is set. -/
def details (node : FailureNode P) : Option (Payloads P) :=
  node.failureInfo.bind FailureInfo.details

/-- The parts of a node that the codec is applied to, in this order. -/
def parts (node : FailureNode P) : Option P × Option (Payloads P) :=
  (node.encodedAttributes, node.details)

def withParts (node : FailureNode P) (parts : Option P × Option (Payloads P)) : FailureNode P :=
  { node with
    encodedAttributes := parts.1
    failureInfo := node.failureInfo.map fun info => info.withDetails parts.2 }

end FailureNode

namespace PayloadCodec

variable (codec : PayloadCodec P Unit)

/-- `decode_wrapper`: replaces the payloads within. -/
def decodeDetailsInPlace : Rewrite CodecError (Payloads P) := fun payloads =>
  match (codec.decode payloads.payloads ()).1 with
  | .ok newPayloads => (.ok (), ⟨newPayloads⟩)
  | .error e => (.error e, payloads)

/-- Wraps the encoded attributes in payloads and merges back. -/
def decodeAttributesInPlace : Rewrite CodecError P := fun attributes =>
  match (codec.decode [attributes] ()).1 with
  | .ok (first :: _) => (.ok (), first)
  | .ok [] => (.error .indexError, attributes)
  | .error e => (.error e, attributes)

def decodeNodeInPlace : Rewrite CodecError (FailureNode P) :=
  .within FailureNode.parts FailureNode.withParts
    (.pair (.onSome codec.decodeAttributesInPlace) (.onSome codec.decodeDetailsInPlace))

/-- `PayloadCodec.decode_failure`. -/
def decodeFailureInPlace : Rewrite CodecError (Failure P)
  | ⟨node, none⟩ => ((codec.decodeNodeInPlace node).1, ⟨(codec.decodeNodeInPlace node).2, none⟩)
  | ⟨node, some cause⟩ =>
    match codec.decodeNodeInPlace node with
    | (.ok (), node) =>
      ((decodeFailureInPlace cause).1, ⟨node, some (decodeFailureInPlace cause).2⟩)
    | (.error e, node) => (.error e, ⟨node, some cause⟩)

end PayloadCodec

/-- A payload codec with what `decode` returns beside the payloads: whether they are in
    the very container it was given. -/
structure ContainerCodec (P : Type) extends PayloadCodec P Unit where
  answersContainer : List P → Bool
  decode_container : ∀ payloads, answersContainer payloads = true →
    (decode payloads ()).1 = .ok payloads

/-- The codec as `decode_wrapper` sees it: `del payloads.payloads[:]` comes before the
    answer is read. -/
def ContainerCodec.emptying (codec : ContainerCodec P) : PayloadCodec P Unit :=
  { codec.toPayloadCodec with
    decode := fun payloads =>
      if codec.answersContainer payloads then pure [] else codec.decode payloads }

/-! ### The converter -/

structure DataConverter (P T : Type) where
  /-- The payload converter, with or without a type hint for each value. -/
  payloadConverter : Option (List T) → PayloadConverter P
  payloadCodec : Option (ContainerCodec P)

/-- What the data converter raises. -/
inductive DecodingError where
  | codec (error : CodecError)
  | conversion (error : ConversionError)

namespace DataConverter

variable (self : DataConverter P T)

/-- `from_payloads` of the payload converter. -/
def fromPayloads (payloads : List P) (typeHints : Option (List T)) :
    Except DecodingError (List PyObject) :=
  ((self.payloadConverter typeHints).fromPayloads payloads).mapError .conversion

/-- `decode`. -/
def decode (payloads : List P) (typeHints : Option (List T)) :
    Except DecodingError (List PyObject) :=
  match self.payloadCodec with
  | none => self.fromPayloads payloads typeHints
  | some codec =>
    match (codec.decode payloads ()).1 with
    | .ok payloads => self.fromPayloads payloads typeHints
    | .error e => .error (.codec e)

/-- `from_failure` of the failure converter. It copies the failure before it changes
    anything in it. -/
def fromFailure (failure : Failure P) : Except DecodingError (PyException P) :=
  (Converter.fromFailure (self.payloadConverter none) failure).mapError .conversion

/-- `decode_failure`, with what it leaves of the failure. -/
def decodeFailure (failure : Failure P) :
    Except DecodingError (PyException P) × Failure P :=
  match self.payloadCodec with
  | none => (self.fromFailure failure, failure)
  | some codec =>
    match codec.emptying.decodeFailureInPlace failure with
    | (.ok (), failure) => (self.fromFailure failure, failure)
    | (.error e, failure) => (.error (.codec e), failure)

end DataConverter

end TemporalSdk.Converter
