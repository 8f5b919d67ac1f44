import TemporalSdk.Converter.InPlace
import TemporalSdk.Converter.Json

/-!
# Payload converters

`CompositePayloadConverter` and the converters of the default list. A value is
encoded by the first converter that does not answer `None`; a payload is decoded
by the converter that its encoding is registered for.

Values `V`, type hints `H` and, in the default list, messages `M` are arbitrary
types. JSON text and the two formats of protobuf messages are the work of
libraries and are parameters.
-/
namespace TemporalSdk.Converter

open InPlace (Payload)

/-! ### Text and bytes -/

abbrev Bytes := List UInt8

/-- `text.encode()`. -/
def encode (text : String) : Bytes := text.toUTF8.data.toList

/-- What a converter raises. -/
inductive ConverterError where
  | runtimeError (message : String)
  /-- `raise RuntimeError(message) from cause`. -/
  | runtimeErrorFrom (message : String) (cause : ConverterError)
  | keyError (message : String)
  | typeError (message : String)
  | unicodeDecodeError
  /-- What `value_to_type` raises. -/
  | valueToType (error : TypedJson.TypeError)
  /-- Any exception that is not a `RuntimeError`. -/
  | other (message : String)

def ConverterError.isRuntimeError : ConverterError → Bool
  | .runtimeError _ | .runtimeErrorFrom _ _ => true
  | _ => false

/-- `bytes.decode()`. -/
def decode (bytes : Bytes) : Except ConverterError String :=
  match String.fromUTF8? ⟨bytes.toArray⟩ with
  | some text => .ok text
  | none => .error .unicodeDecodeError

/-! ### Converters -/

/-- `EncodingPayloadConverter`. -/
structure EncodingPayloadConverter (V H : Type) where
  encoding : String
  toPayload : V → Except ConverterError (Option Payload)
  fromPayload : Payload → Option H → Except ConverterError V

/-- A value for `to_payloads`: a `RawValue` or any other one. -/
inductive Argument (V : Type) where
  | raw (payload : Payload)
  | value (v : V)

inductive TypeHint (H : Type) where
  | rawValue
  | type (hint : H)

structure CompositePayloadConverter (V H : Type) where
  converters : Dict Bytes (EncodingPayloadConverter V H)

/-- `payload.metadata.get("encoding", b"<unknown>")`. -/
def encodingOf (payload : Payload) : Bytes :=
  (payload.metadata.get? "encoding").getD (encode "<unknown>")

namespace CompositePayloadConverter

variable {V H : Type}

/-- `CompositePayloadConverter.__init__`. -/
def init (converters : List (EncodingPayloadConverter V H)) : CompositePayloadConverter V H where
  converters := converters.foldl (fun d c => d.set (encode c.encoding) c) Dict.empty

/-- The loop over the converters. -/
def tryConverters (v : V) :
    List (EncodingPayloadConverter V H) → Except ConverterError (Option Payload)
  | [] => .ok none
  | converter :: rest => do
    match ← converter.toPayload v with
    | some payload => return some payload
    | none => tryConverters v rest

variable (self : CompositePayloadConverter V H) (typeName : V → String)

def toPayload (index : Nat) : Argument V → Except ConverterError Payload
  -- RawValue should just pass through
  | .raw payload => .ok payload
  | .value v => do
    match ← tryConverters v self.converters.values with
    | some payload => return payload
    | none => .error (.runtimeError
        s!"Value at index {index} of type {typeName v} has no known converter")

def toPayloadsFrom (index : Nat) : List (Argument V) → Except ConverterError (List Payload)
  | [] => .ok []
  | value :: rest => do
    let payload ← self.toPayload typeName index value
    let payloads ← toPayloadsFrom (index + 1) rest
    return payload :: payloads

def toPayloads (values : List (Argument V)) : Except ConverterError (List Payload) :=
  self.toPayloadsFrom typeName 0 values

/-- The converter that decodes the payload. -/
def converterFor (payload : Payload) : Option (EncodingPayloadConverter V H) :=
  self.converters.get? (encodingOf payload)

def fromPayload (index : Nat) (payload : Payload) :
    Option (TypeHint H) → Except ConverterError (Argument V)
  -- Raw value should just wrap
  | some .rawValue => .ok (.raw payload)
  | hint =>
    match self.converterFor payload with
    | none => do
      let encoding ← decode (encodingOf payload)
      .error (.keyError s!"Unknown payload encoding {encoding}")
    | some converter =>
      let hint := match hint with
        | some (.type hint) => some hint
        | _ => none
      match converter.fromPayload payload hint with
      | .ok v => .ok (.value v)
      | .error error =>
        if error.isRuntimeError then do
          let encoding ← decode (encodingOf payload)
          .error (.runtimeErrorFrom
            s!"Payload at index {index} with encoding {encoding} could not be converted" error)
        else .error error

/-- The hint for the payload at an index. There may be fewer hints than payloads. -/
def typeHint (typeHints : List (Option (TypeHint H))) (index : Nat) : Option (TypeHint H) :=
  typeHints[index]?.join

def fromPayloadsFrom (typeHints : List (Option (TypeHint H))) (index : Nat) :
    List Payload → Except ConverterError (List (Argument V))
  | [] => .ok []
  | payload :: rest => do
    let value ← self.fromPayload index payload (typeHint typeHints index)
    let values ← fromPayloadsFrom typeHints (index + 1) rest
    return value :: values

/-- Without hints the list of hints is empty. -/
def fromPayloads (payloads : List Payload) (typeHints : List (Option (TypeHint H))) :
    Except ConverterError (List (Argument V)) :=
  self.fromPayloadsFrom typeHints 0 payloads

end CompositePayloadConverter

/-! ### The default list -/

/-- The values of the default list: protobuf messages, and other values. -/
inductive PyValue (M : Type) where
  | message (m : M)
  | plain (v : TypedJson.Value)

/-- What the default converters ask of the `json` and `google.protobuf` packages.
    `C` are the classes of messages. -/
structure Libraries (M C : Type) where
  /-- `DESCRIPTOR.full_name`, if there is a descriptor. -/
  fullName : M → Option String
  /-- `__class__.__name__`. -/
  className : M → String
  /-- `json.dumps` with compact separators and sorted keys, encoded. -/
  dumps : TypedJson.Json → Except ConverterError Bytes
  /-- `json.loads`, unless it raises a `JSONDecodeError`. -/
  loads : Bytes → Option TypedJson.Json
  types : TypedJson.Env
  getSymbol : String → Option C
  /-- `MessageToDict`, as JSON text. -/
  messageToJson : M → Except ConverterError Bytes
  /-- `json_format.Parse`, unless it raises a `ParseError`. -/
  parse : C → Bytes → Option M
  serializeToString : M → Except ConverterError Bytes
  /-- `ParseFromString`, unless it raises a `DecodeError`. -/
  parseFromString : C → Bytes → Option M

/-- `Payload(metadata={...}, data=data)`. -/
def makePayload (metadata : List (String × Bytes)) (data : Bytes) : Payload where
  metadata := metadata.foldl (fun d entry => d.set entry.1 entry.2) Dict.empty
  data := data

section Default

variable {M C : Type} (lib : Libraries M C)

def BinaryNullPayloadConverter : EncodingPayloadConverter (PyValue M) TypedJson.Hint where
  encoding := "binary/null"
  toPayload
    | .plain .none => .ok (some (makePayload [("encoding", encode "binary/null")] []))
    | _ => .ok none
  fromPayload payload _ :=
    if 0 < payload.data.length then
      .error (.runtimeError "Expected empty data set for binary/null")
    else .ok (.plain .none)

def BinaryPlainPayloadConverter : EncodingPayloadConverter (PyValue M) TypedJson.Hint where
  encoding := "binary/plain"
  toPayload
    | .plain (.bytes data) => .ok (some (makePayload [("encoding", encode "binary/plain")] data))
    | _ => .ok none
  fromPayload payload _ := .ok (.plain (.bytes payload.data))

/-- What the two converters of messages share: messages of a known name are
    written by `write` and read by `read`. -/
def protoConverter (encoding : String) (write : M → Except ConverterError Bytes)
    (read : C → Bytes → Option M) : EncodingPayloadConverter (PyValue M) TypedJson.Hint where
  encoding := encoding
  toPayload
    | .message m =>
      match lib.fullName m with
      | some fullName => do
        let data ← write m
        return some (makePayload
          [("encoding", encode encoding), ("messageType", encode fullName)] data)
      | none => .ok none
    | _ => .ok none
  fromPayload payload _ := do
    let messageType ← decode ((payload.metadata.get? "messageType").getD (encode "<unknown>"))
    match lib.getSymbol messageType with
    | none => .error (.runtimeErrorFrom s!"Unknown Protobuf type {messageType}"
        (.keyError messageType))
    | some cls =>
      match read cls payload.data with
      | some m => return .message m
      | none => .error (.runtimeError "Failed parsing")

def JSONProtoPayloadConverter : EncodingPayloadConverter (PyValue M) TypedJson.Hint :=
  protoConverter lib "json/protobuf" lib.messageToJson lib.parse

def BinaryProtoPayloadConverter : EncodingPayloadConverter (PyValue M) TypedJson.Hint :=
  protoConverter lib "binary/protobuf" lib.serializeToString lib.parseFromString

/-- `json.dumps(value, cls=AdvancedJSONEncoder)`. -/
def dumpsValue : PyValue M → Except ConverterError Bytes
  | .plain v => lib.dumps v.toJson
  | .message m => .error (.typeError s!"Object of type {lib.className m} is not JSON serializable")

def JSONPlainPayloadConverter : EncodingPayloadConverter (PyValue M) TypedJson.Hint where
  encoding := "json/plain"
  toPayload v := do
    let data ← dumpsValue lib v
    return some (makePayload [("encoding", encode "json/plain")] data)
  fromPayload payload typeHint :=
    match lib.loads payload.data with
    | none => .error (.runtimeError "Failed parsing")
    | some obj =>
      match typeHint with
      | none => .ok (.plain obj.toValue)
      | some hint =>
        match TypedJson.valueToType lib.types hint obj with
        | .ok v => .ok (.plain v)
        | .error error => .error (.valueToType error)

def default_encoding_payload_converters :
    List (EncodingPayloadConverter (PyValue M) TypedJson.Hint) :=
  [BinaryNullPayloadConverter, BinaryPlainPayloadConverter, JSONProtoPayloadConverter lib,
    BinaryProtoPayloadConverter lib, JSONPlainPayloadConverter lib]

def DefaultPayloadConverter : CompositePayloadConverter (PyValue M) TypedJson.Hint :=
  .init (default_encoding_payload_converters lib)

end Default

end TemporalSdk.Converter
