import TemporalSdk.Converter.Composite
import TemporalSdk.Properties.TypedJson

/-!
# Payload converters round trip

## Main result

`payloads_round_trip`: for converters of distinct encodings that stamp their
encoding and decode what they encode, `from_payloads` returns the list that
`to_payloads` was given, each payload being decoded by the converter that encoded
it. The second part is the default list: which of its converters encodes a value
depends on the kind of the value only.

A converter may raise. The loop does not go on then, so the converters before the
first that accepts a value have to answer `None`: `raising_converter`.

## Proof strategy

With distinct encodings the dict holds the converters in their order, under the
bytes of their encodings. That gives both directions for one value; the loops are
two inductions over the list of values.
-/

namespace TemporalSdk.Converter

open InPlace (Payload)

/-! ### Text and bytes -/

theorem encode_inj {s t : String} (same : encode s = encode t) : s = t := by
  have bytes : s.toUTF8 = t.toUTF8 := ByteArray.ext (Array.toList_inj.mp same)
  rw [String.toUTF8_eq_toByteArray, String.toUTF8_eq_toByteArray] at bytes
  exact String.toByteArray_inj.mp bytes

@[simp] theorem decode_encode (s : String) : decode (encode s) = .ok s := by
  have valid : ByteArray.IsValidUTF8 ⟨(encode s).toArray⟩ := s.isValidUTF8
  unfold decode String.fromUTF8?
  rw [dif_pos valid]
  rfl

/-! ### The dict of converters -/

namespace CompositePayloadConverter

variable {V H : Type}

theorem init_entries {converters : List (EncodingPayloadConverter V H)}
    (distinct : (converters.map (·.encoding)).Nodup) :
    (init converters).converters.entries = converters.map fun c => (encode c.encoding, c) := by
  have distinctBytes : (converters.map fun c => encode c.encoding).Nodup := by
    have bytes := distinct.map (f := encode) fun _ _ => encode_inj
    rwa [List.map_map] at bytes
  exact Dict.foldl_set_entries (fun c => encode c.encoding) id converters Dict.empty distinctBytes
    fun _ _ member => by cases member

/-- The converters in their order. -/
theorem init_values {converters : List (EncodingPayloadConverter V H)}
    (distinct : (converters.map (·.encoding)).Nodup) :
    (init converters).converters.values = converters := by
  unfold Dict.values
  rw [init_entries distinct, List.map_map]
  exact List.map_id converters

/-- Each under its own encoding. -/
theorem init_get {converters : List (EncodingPayloadConverter V H)}
    (distinct : (converters.map (·.encoding)).Nodup) {c : EncodingPayloadConverter V H}
    (member : c ∈ converters) :
    (init converters).converters.get? (encode c.encoding) = some c := by
  refine Dict.lookup_of_mem (init converters).converters.distinct ?_
  rw [init_entries distinct]
  exact List.mem_map_of_mem member

/-! ### One value -/

/-- The converter is the first that does not answer `None` for the value. -/
def FirstAccepting (converters : List (EncodingPayloadConverter V H)) (v : V)
    (c : EncodingPayloadConverter V H) (payload : Payload) : Prop :=
  ∃ before after, converters = before ++ c :: after ∧
    (∀ d ∈ before, d.toPayload v = .ok none) ∧ c.toPayload v = .ok (some payload)

theorem FirstAccepting.member {converters : List (EncodingPayloadConverter V H)} {v : V}
    {c : EncodingPayloadConverter V H} {payload : Payload}
    (first : FirstAccepting converters v c payload) : c ∈ converters := by
  obtain ⟨before, after, rfl, -, -⟩ := first
  simp

theorem tryConverters_first {converters : List (EncodingPayloadConverter V H)} {v : V}
    {c : EncodingPayloadConverter V H} {payload : Payload}
    (first : FirstAccepting converters v c payload) :
    tryConverters v converters = .ok (some payload) := by
  obtain ⟨before, after, rfl, decline, accepts⟩ := first
  induction before with
  | nil => simp [tryConverters, accepts, bind, Except.bind, pure, Except.pure]
  | cons d rest ih =>
    obtain ⟨declines, others⟩ := List.forall_mem_cons.mp decline
    simp [tryConverters, declines, bind, Except.bind, ih others]

theorem first_of_tryConverters {converters : List (EncodingPayloadConverter V H)} {v : V}
    {payload : Payload} (tried : tryConverters v converters = .ok (some payload)) :
    ∃ c, FirstAccepting converters v c payload := by
  induction converters with
  | nil => cases tried
  | cons d rest ih =>
    cases answer : d.toPayload v with
    | error error => simp [tryConverters, answer, bind, Except.bind] at tried
    | ok answered =>
      cases answered with
      | some payload' =>
        simp only [tryConverters, answer, bind, Except.bind, pure, Except.pure, Except.ok.injEq,
          Option.some.injEq] at tried
        exact ⟨d, [], rest, rfl, by simp, tried ▸ answer⟩
      | none =>
        simp only [tryConverters, answer, bind, Except.bind] at tried
        obtain ⟨c, before, after, rfl, decline, accepts⟩ := ih tried
        exact ⟨c, d :: before, after, rfl, List.forall_mem_cons.mpr ⟨answer, decline⟩, accepts⟩

/-- The payload of an argument, and for values that the converter that made it
    is the one that decodes it. -/
def Encodes (converters : List (EncodingPayloadConverter V H)) : Argument V → Payload → Prop
  | .raw raw, payload => payload = raw
  | .value v, payload => ∃ c, FirstAccepting converters v c payload ∧
      (init converters).converterFor payload = some c

/-- Whether the hint goes with the argument: that of a raw value is `RawValue`. -/
def MatchesHint (goesWith : V → Option H → Prop) : Argument V → Option (TypeHint H) → Prop
  | .raw _, hint => hint = some .rawValue
  | .value v, none => goesWith v none
  | .value v, some (.type hint) => goesWith v (some hint)
  | .value _, some .rawValue => False

/-- The hints go with the arguments, index by index; there may be fewer hints. -/
def MatchesHints (goesWith : V → Option H → Prop) (values : List (Argument V))
    (typeHints : List (Option (TypeHint H))) : Prop :=
  ∀ (i : Nat) (arg : Argument V), values[i]? = some arg →
    MatchesHint goesWith arg (typeHint typeHints i)

section OneValue

variable {converters : List (EncodingPayloadConverter V H)}
  (distinct : (converters.map (·.encoding)).Nodup)
  (stamps : ∀ c ∈ converters, ∀ v payload, c.toPayload v = .ok (some payload) →
    payload.metadata.get? "encoding" = some (encode c.encoding))

include distinct stamps in
/-- What a converter has stamped is decoded by it. -/
theorem converterFor_stamped {c : EncodingPayloadConverter V H} (member : c ∈ converters) {v : V}
    {payload : Payload} (made : c.toPayload v = .ok (some payload)) :
    (init converters).converterFor payload = some c := by
  unfold converterFor encodingOf
  rw [stamps c member v payload made]
  exact init_get distinct member

include distinct stamps in
theorem toPayload_encodes (typeName : V → String) {arg : Argument V}
    (accepted : ∀ v, arg = .value v → ∃ c payload, FirstAccepting converters v c payload)
    (index : Nat) :
    ∃ payload, (init converters).toPayload typeName index arg = .ok payload ∧
      Encodes converters arg payload := by
  cases arg with
  | raw payload => exact ⟨payload, rfl, rfl⟩
  | value v =>
    obtain ⟨c, payload, first⟩ := accepted v rfl
    have decodes : (init converters).converterFor payload = some c := by
      obtain ⟨-, -, -, -, made⟩ := id first
      exact converterFor_stamped distinct stamps first.member made
    refine ⟨payload, ?_, c, first, decodes⟩
    simp only [toPayload, init_values distinct, tryConverters_first first]
    rfl

theorem fromPayload_encodes {goesWith : V → Option H → Prop}
    (decodes : ∀ v c payload hint, FirstAccepting converters v c payload → goesWith v hint →
      c.fromPayload payload hint = .ok v)
    {arg : Argument V} {payload : Payload} (encodes : Encodes converters arg payload)
    {hint : Option (TypeHint H)} (matching : MatchesHint goesWith arg hint) (index : Nat) :
    (init converters).fromPayload index payload hint = .ok arg := by
  cases arg with
  | raw raw =>
    cases matching
    cases encodes
    rfl
  | value v =>
    obtain ⟨c, first, finds⟩ := encodes
    match hint, matching with
    | none, goes => simp only [fromPayload, finds, decodes v c payload none first goes]
    | some (.type hint), goes =>
      simp only [fromPayload, finds, decodes v c payload (some hint) first goes]

end OneValue

/-! ### Lists of values -/

section Lists

variable {converters : List (EncodingPayloadConverter V H)}

theorem toPayloads_encodes (distinct : (converters.map (·.encoding)).Nodup)
    (stamps : ∀ c ∈ converters, ∀ v payload, c.toPayload v = .ok (some payload) →
      payload.metadata.get? "encoding" = some (encode c.encoding))
    (typeName : V → String) {values : List (Argument V)}
    (accepted : ∀ v, .value v ∈ values → ∃ c payload, FirstAccepting converters v c payload)
    (index : Nat) :
    ∃ payloads, (init converters).toPayloadsFrom typeName index values = .ok payloads ∧
      List.Forall₂ (Encodes converters) values payloads := by
  induction values generalizing index with
  | nil => exact ⟨[], rfl, .nil⟩
  | cons arg rest ih =>
    obtain ⟨payload, made, encodes⟩ := toPayload_encodes distinct stamps typeName
      (fun v is => accepted v (is ▸ List.mem_cons_self)) index
    obtain ⟨payloads, others, all⟩ :=
      ih (fun v member => accepted v (List.mem_cons_of_mem _ member)) (index + 1)
    refine ⟨payload :: payloads, ?_, .cons encodes all⟩
    simp only [toPayloadsFrom, made, others]
    rfl

theorem fromPayloads_encodes {goesWith : V → Option H → Prop}
    (decodes : ∀ v c payload hint, FirstAccepting converters v c payload → goesWith v hint →
      c.fromPayload payload hint = .ok v)
    {values : List (Argument V)} {payloads : List Payload}
    (encodes : List.Forall₂ (Encodes converters) values payloads)
    (typeHints : List (Option (TypeHint H))) (index : Nat)
    (matching : ∀ (i : Nat) (arg : Argument V), values[i]? = some arg →
      MatchesHint goesWith arg (typeHint typeHints (index + i))) :
    (init converters).fromPayloadsFrom typeHints index payloads = .ok values := by
  induction encodes generalizing index with
  | nil => rfl
  | @cons arg payload rest payloads first others ih =>
    have here := fromPayload_encodes decodes first (matching 0 arg rfl) index
    have later := ih (index + 1) fun i arg found => by
      have next : index + 1 + i = index + (i + 1) := by omega
      rw [next]
      exact matching (i + 1) arg found
    simp only [Nat.add_zero] at here
    simp only [fromPayloadsFrom, here, later]
    rfl

end Lists

/-- Both directions, for converters that decode what they are the first to encode. -/
theorem round_trip {converters : List (EncodingPayloadConverter V H)}
    (distinct : (converters.map (·.encoding)).Nodup)
    (stamps : ∀ c ∈ converters, ∀ v payload, c.toPayload v = .ok (some payload) →
      payload.metadata.get? "encoding" = some (encode c.encoding))
    {goesWith : V → Option H → Prop}
    (decodes : ∀ v c payload hint, FirstAccepting converters v c payload → goesWith v hint →
      c.fromPayload payload hint = .ok v)
    (typeName : V → String) {values : List (Argument V)}
    {typeHints : List (Option (TypeHint H))}
    (accepted : ∀ v, .value v ∈ values → ∃ c payload, FirstAccepting converters v c payload)
    (matching : MatchesHints goesWith values typeHints) :
    ∃ payloads, (init converters).toPayloads typeName values = .ok payloads ∧
      List.Forall₂ (Encodes converters) values payloads ∧
      (init converters).fromPayloads payloads typeHints = .ok values := by
  obtain ⟨payloads, made, encodes⟩ := toPayloads_encodes distinct stamps typeName accepted 0
  refine ⟨payloads, made, encodes, ?_⟩
  refine fromPayloads_encodes decodes encodes typeHints 0 fun i arg found => ?_
  rw [Nat.zero_add]
  exact matching i arg found

/-! ### The default list -/

theorem firstAccepting_cons {d : EncodingPayloadConverter V H}
    {rest : List (EncodingPayloadConverter V H)} {v : V} {c : EncodingPayloadConverter V H}
    {payload : Payload} :
    FirstAccepting (d :: rest) v c payload ↔
      (c = d ∧ d.toPayload v = .ok (some payload)) ∨
        (d.toPayload v = .ok none ∧ FirstAccepting rest v c payload) := by
  constructor
  · rintro ⟨before, after, same, decline, accepts⟩
    cases before with
    | nil =>
      cases same
      exact Or.inl ⟨rfl, accepts⟩
    | cons d' before =>
      cases same
      obtain ⟨declines, others⟩ := List.forall_mem_cons.mp decline
      exact Or.inr ⟨declines, before, after, rfl, others, accepts⟩
  · rintro (⟨rfl, accepts⟩ | ⟨declines, before, after, rfl, others, accepts⟩)
    · exact ⟨[], rest, rfl, by simp, accepts⟩
    · exact ⟨d :: before, after, rfl, List.forall_mem_cons.mpr ⟨declines, others⟩, accepts⟩

end CompositePayloadConverter

section Default

open CompositePayloadConverter

variable {M C : Type} (lib : Libraries M C)

/-- The converter of the default list for a value: it depends on the kind only. -/
def encoder : PyValue M → EncodingPayloadConverter (PyValue M) TypedJson.Hint
  | .plain .none => BinaryNullPayloadConverter
  | .plain (.bytes _) => BinaryPlainPayloadConverter
  | .plain _ => JSONPlainPayloadConverter lib
  | .message m =>
    match lib.fullName m with
    | some _ => JSONProtoPayloadConverter lib
    | none => JSONPlainPayloadConverter lib

theorem protoConverter_accepts {m : M} {fullName : String} (known : lib.fullName m = some fullName)
    (encoding : String) (write : M → Except ConverterError Bytes) (read : C → Bytes → Option M)
    {answer : Option Payload}
    (answers : (protoConverter lib encoding write read).toPayload (.message m) = .ok answer) :
    ∃ data, write m = .ok data ∧ answer = some (makePayload
      [("encoding", encode encoding), ("messageType", encode fullName)] data) := by
  simp only [protoConverter, known] at answers
  cases written : write m with
  | error error =>
    rw [written] at answers
    cases answers
  | ok data =>
    rw [written] at answers
    cases answers
    exact ⟨data, rfl, rfl⟩

theorem JSONPlain_accepts {v : PyValue M} {answer : Option Payload}
    (answers : (JSONPlainPayloadConverter lib).toPayload v = .ok answer) :
    ∃ data, dumpsValue lib v = .ok data ∧
      answer = some (makePayload [("encoding", encode "json/plain")] data) := by
  simp only [JSONPlainPayloadConverter] at answers
  cases dumped : dumpsValue lib v with
  | error error =>
    rw [dumped] at answers
    cases answers
  | ok data =>
    rw [dumped] at answers
    cases answers
    exact ⟨data, rfl, rfl⟩

/-- The converters of messages decline a message without descriptor. -/
theorem protoConverter_declines {m : M} (unknown : lib.fullName m = none) (encoding : String)
    (write : M → Except ConverterError Bytes) (read : C → Bytes → Option M) :
    (protoConverter lib encoding write read).toPayload (.message m) = .ok none := by
  simp only [protoConverter, unknown]

theorem default_first_iff (v : PyValue M) (c : EncodingPayloadConverter (PyValue M) TypedJson.Hint)
    (payload : Payload) :
    FirstAccepting (default_encoding_payload_converters lib) v c payload ↔
      c = encoder lib v ∧ (encoder lib v).toPayload v = .ok (some payload) := by
  have last (v : PyValue M) : FirstAccepting [JSONPlainPayloadConverter lib] v c payload ↔
      c = JSONPlainPayloadConverter lib ∧
        (JSONPlainPayloadConverter lib).toPayload v = .ok (some payload) := by
    rw [firstAccepting_cons]
    refine ⟨?_, Or.inl⟩
    rintro (accepts | ⟨-, before, after, none, -⟩)
    · exact accepts
    · simp at none
  -- a converter that declines the value is passed over
  have pass (v : PyValue M) {d : EncodingPayloadConverter (PyValue M) TypedJson.Hint}
      {rest : List (EncodingPayloadConverter (PyValue M) TypedJson.Hint)}
      (declines : d.toPayload v = .ok none) :
      FirstAccepting (d :: rest) v c payload ↔ FirstAccepting rest v c payload := by
    rw [firstAccepting_cons, declines]
    simp
  -- and one that never answers `None` is the last that is tried
  have stop (v : PyValue M) {d : EncodingPayloadConverter (PyValue M) TypedJson.Hint}
      {rest : List (EncodingPayloadConverter (PyValue M) TypedJson.Hint)}
      (answers : d.toPayload v ≠ .ok none) :
      FirstAccepting (d :: rest) v c payload ↔ c = d ∧ d.toPayload v = .ok (some payload) := by
    rw [firstAccepting_cons]
    simp [answers]
  unfold default_encoding_payload_converters
  match v with
  | .plain v =>
    cases v with
    | none => exact stop _ (by simp [BinaryNullPayloadConverter])
    | bytes data =>
      rw [pass _ rfl]
      exact stop _ (by simp [BinaryPlainPayloadConverter])
    | _ =>
      rw [pass _ rfl, pass _ rfl, pass _ rfl, pass _ rfl]
      exact last _
  | .message m =>
    rw [pass _ rfl, pass _ rfl]
    cases known : lib.fullName m with
    | none =>
      rw [pass _ (d := JSONProtoPayloadConverter lib) (protoConverter_declines lib known _ _ _),
        pass _ (d := BinaryProtoPayloadConverter lib) (protoConverter_declines lib known _ _ _), last]
      simp only [encoder, known]
    | some fullName =>
      have answers : (JSONProtoPayloadConverter lib).toPayload (.message m) ≠ .ok none := by
        intro answers
        obtain ⟨data, -, some⟩ := protoConverter_accepts lib known _ _ _ answers
        cases some
      rw [stop _ answers]
      simp only [encoder, known]

/-- Every converter of the list stamps its encoding. -/
theorem default_stamps : ∀ c ∈ default_encoding_payload_converters lib, ∀ v payload,
    c.toPayload v = .ok (some payload) →
    payload.metadata.get? "encoding" = some (encode c.encoding) := by
  -- both converters of messages write the entry that they are named by
  have proto (encoding : String) (write : M → Except ConverterError Bytes)
      (read : C → Bytes → Option M) (v : PyValue M) (payload : Payload)
      (made : (protoConverter lib encoding write read).toPayload v = .ok (some payload)) :
      payload.metadata.get? "encoding" = some (encode encoding) := by
    cases v with
    | plain v => cases made
    | message m =>
      cases known : lib.fullName m with
      | none =>
        rw [protoConverter_declines lib known] at made
        cases made
      | some fullName =>
        obtain ⟨data, -, same⟩ := protoConverter_accepts lib known _ _ _ made
        cases same
        simp [makePayload]
  intro c member v payload made
  simp only [default_encoding_payload_converters, List.mem_cons, List.not_mem_nil, or_false]
    at member
  rcases member with rfl | rfl | rfl | rfl | rfl
  · simp only [BinaryNullPayloadConverter] at made ⊢
    split at made
    · cases made
      simp [makePayload]
    · cases made
  · simp only [BinaryPlainPayloadConverter] at made ⊢
    split at made
    · cases made
      simp [makePayload]
    · cases made
  · exact proto _ _ _ v payload made
  · exact proto _ _ _ v payload made
  · obtain ⟨data, -, same⟩ := JSONPlain_accepts lib made
    cases same
    simp [makePayload, JSONPlainPayloadConverter]

theorem default_distinct :
    ((default_encoding_payload_converters lib).map (·.encoding)).Nodup := by
  simp [default_encoding_payload_converters, BinaryNullPayloadConverter,
    BinaryPlainPayloadConverter, JSONProtoPayloadConverter, BinaryProtoPayloadConverter,
    JSONPlainPayloadConverter, protoConverter]

/-- The hint, or none, goes with the value: the libraries read back the JSON text
    of a message, and of a value that is not `None` or `bytes` the one that
    `value_to_type` makes the value of again. -/
def GoesWith : PyValue M → Option TypedJson.Hint → Prop
  | .plain .none, _ | .plain (.bytes _), _ => True
  | .plain v, hint => ∀ data, lib.dumps v.toJson = .ok data → ∃ obj, lib.loads data = some obj ∧
      match hint with
      | none => obj.toValue = v
      | some hint => TypedJson.valueToType lib.types hint obj = .ok v
  | .message m, _ => ∀ fullName data, lib.fullName m = some fullName →
      lib.messageToJson m = .ok data →
      ∃ cls, lib.getSymbol fullName = some cls ∧ lib.parse cls data = some m

/-- JSON text of a value that is read back as the value. -/
theorem JSONPlain_decodes {v : TypedJson.Value} {payload : Payload} {hint : Option TypedJson.Hint}
    (made : (JSONPlainPayloadConverter lib).toPayload (.plain v) = .ok (some payload))
    (reads : ∀ data, lib.dumps v.toJson = .ok data → ∃ obj, lib.loads data = some obj ∧
      match hint with
      | none => obj.toValue = v
      | some hint => TypedJson.valueToType lib.types hint obj = .ok v) :
    (JSONPlainPayloadConverter lib).fromPayload payload hint = .ok (.plain v) := by
  obtain ⟨data, dumped, same⟩ := JSONPlain_accepts lib made
  cases same
  obtain ⟨obj, loaded, rebuilt⟩ := reads data dumped
  simp only [JSONPlainPayloadConverter, makePayload, loaded]
  cases hint with
  | none => exact congrArg (Except.ok ∘ PyValue.plain) rebuilt
  | some hint =>
    simp only at rebuilt
    simp only [rebuilt]

theorem JSONProto_decodes {m : M} {fullName : String} (known : lib.fullName m = some fullName)
    {payload : Payload} {hint : Option TypedJson.Hint}
    (made : (JSONProtoPayloadConverter lib).toPayload (.message m) = .ok (some payload))
    (reads : ∀ data, lib.messageToJson m = .ok data →
      ∃ cls, lib.getSymbol fullName = some cls ∧ lib.parse cls data = some m) :
    (JSONProtoPayloadConverter lib).fromPayload payload hint = .ok (.message m) := by
  obtain ⟨data, written, same⟩ := protoConverter_accepts lib known _ _ _ made
  cases same
  obtain ⟨cls, symbol, parsed⟩ := reads data written
  simp [JSONProtoPayloadConverter, protoConverter, makePayload, symbol, parsed, bind, Except.bind,
    pure, Except.pure]

theorem default_decodes (v : PyValue M) (c : EncodingPayloadConverter (PyValue M) TypedJson.Hint)
    (payload : Payload) (hint : Option TypedJson.Hint)
    (first : FirstAccepting (default_encoding_payload_converters lib) v c payload)
    (goes : GoesWith lib v hint) : c.fromPayload payload hint = .ok v := by
  obtain ⟨rfl, made⟩ := (default_first_iff lib v c payload).mp first
  match v with
  | .plain v =>
    cases v with
    | none =>
      cases made
      rfl
    | bytes data =>
      cases made
      rfl
    | _ => exact JSONPlain_decodes lib made goes
  | .message m =>
    cases known : lib.fullName m with
    | some fullName =>
      simp only [encoder, known] at made ⊢
      exact JSONProto_decodes lib known made fun data written => goes fullName data known written
    | none =>
      simp only [encoder, known] at made
      obtain ⟨data, dumped, -⟩ := JSONPlain_accepts lib made
      cases dumped

/-- What the default list does with a list of values that it can encode. -/
theorem default_round_trip (typeName : PyValue M → String) (values : List (Argument (PyValue M)))
    (typeHints : List (Option (TypeHint TypedJson.Hint)))
    (accepted : ∀ v, .value v ∈ values → ∃ payload, (encoder lib v).toPayload v = .ok (some payload))
    (matching : MatchesHints (GoesWith lib) values typeHints) :
    ∃ payloads, (DefaultPayloadConverter lib).toPayloads typeName values = .ok payloads ∧
      (∀ (i : Nat) (v : PyValue M) (payload : Payload), values[i]? = some (.value v) →
        payloads[i]? = some payload → (encoder lib v).toPayload v = .ok (some payload) ∧
          (DefaultPayloadConverter lib).converterFor payload = some (encoder lib v)) ∧
      (DefaultPayloadConverter lib).fromPayloads payloads typeHints = .ok values := by
  have found : ∀ v, .value v ∈ values →
      ∃ c payload, FirstAccepting (default_encoding_payload_converters lib) v c payload := by
    intro v member
    obtain ⟨payload, accepts⟩ := accepted v member
    exact ⟨_, payload, (default_first_iff lib v _ payload).mpr ⟨rfl, accepts⟩⟩
  obtain ⟨payloads, made, encodes, back⟩ := round_trip (default_distinct lib) (default_stamps lib)
    (default_decodes lib) typeName found matching
  refine ⟨payloads, made, fun i v payload atValues atPayloads => ?_, back⟩
  obtain ⟨insideV, isV⟩ := List.getElem?_eq_some_iff.mp atValues
  obtain ⟨insideP, isP⟩ := List.getElem?_eq_some_iff.mp atPayloads
  have one := List.Forall₂.get encodes insideV insideP
  rw [List.get_eq_getElem, List.get_eq_getElem, isV, isP] at one
  obtain ⟨c, first, finds⟩ := one
  obtain ⟨rfl, accepts⟩ := (default_first_iff lib v c payload).mp first
  exact ⟨accepts, finds⟩

end Default

/-! ### Main result -/

open CompositePayloadConverter in
/-- For every list of converters with distinct encodings that stamp their encoding
    and decode what they encode, and values accepted by some converter with those
    before it answering `None`: one payload per value, from the first converter
    that accepts it (or the raw one), is decoded by that converter, and the hints
    that go with the values give the list back. In the default list the converter
    is the one for the kind of the value. -/
theorem payloads_round_trip :
    (∀ {V H : Type} (converters : List (EncodingPayloadConverter V H))
      (goesWith : V → Option H → Prop) (typeName : V → String) (values : List (Argument V))
      (typeHints : List (Option (TypeHint H))),
      (converters.map (·.encoding)).Nodup →
      (∀ c ∈ converters, ∀ v payload, c.toPayload v = .ok (some payload) →
        payload.metadata.get? "encoding" = some (encode c.encoding)) →
      (∀ c ∈ converters, ∀ v payload hint, c.toPayload v = .ok (some payload) → goesWith v hint →
        c.fromPayload payload hint = .ok v) →
      (∀ v, .value v ∈ values → ∃ c payload, FirstAccepting converters v c payload) →
      MatchesHints goesWith values typeHints →
      ∃ payloads, (init converters).toPayloads typeName values = .ok payloads ∧
        List.Forall₂ (Encodes converters) values payloads ∧
        (init converters).fromPayloads payloads typeHints = .ok values) ∧
    ∀ {M C : Type} (lib : Libraries M C) (typeName : PyValue M → String)
      (values : List (Argument (PyValue M))) (typeHints : List (Option (TypeHint TypedJson.Hint))),
      (∀ v, .value v ∈ values → ∃ payload, (encoder lib v).toPayload v = .ok (some payload)) →
      MatchesHints (GoesWith lib) values typeHints →
      ∃ payloads, (DefaultPayloadConverter lib).toPayloads typeName values = .ok payloads ∧
        (∀ (i : Nat) (v : PyValue M) (payload : Payload), values[i]? = some (.value v) →
          payloads[i]? = some payload → (encoder lib v).toPayload v = .ok (some payload) ∧
            (DefaultPayloadConverter lib).converterFor payload = some (encoder lib v)) ∧
        (DefaultPayloadConverter lib).fromPayloads payloads typeHints = .ok values := by
  constructor
  · intro V H converters goesWith typeName values typeHints distinct stamps decodes accepted matching
    refine round_trip distinct stamps (fun v c payload hint first goes => ?_) typeName accepted
      matching
    obtain ⟨-, -, -, -, made⟩ := id first
    exact decodes c first.member v payload hint made goes
  · intro M C lib typeName values typeHints accepted matching
    exact default_round_trip lib typeName values typeHints accepted matching

/-! ### Examples -/

/-- The JSON text of `WorkflowExecution(workflow_id="id1", run_id="id2")`. -/
def workflowExecutionJson : Bytes :=
  encode "\x7b\"runId\":\"id2\",\"workflowId\":\"id1\"\x7d"

/-- Libraries with that one message. JSON text is given for `None` and booleans. -/
def sampleLibraries : Libraries Unit Unit where
  fullName _ := some "temporal.api.common.v1.WorkflowExecution"
  className _ := "WorkflowExecution"
  dumps
    | .null => .ok (encode "null")
    | .bool b => .ok (encode (if b then "true" else "false"))
    | _ => .error (.other "not given")
  loads data :=
    if data = encode "null" then some .null
    else if data = encode "true" then some (.bool true)
    else if data = encode "false" then some (.bool false)
    else none
  types := TypedJson.nested
  getSymbol name := if name = "temporal.api.common.v1.WorkflowExecution" then some () else none
  messageToJson _ := .ok workflowExecutionJson
  parse _ data := if data = workflowExecutionJson then some () else none
  serializeToString _ := .ok (encode "\n\x03id1\x12\x03id2")
  parseFromString _ data := if data = encode "\n\x03id1\x12\x03id2" then some () else none

theorem sample_goesWith (b : Bool) : GoesWith sampleLibraries (.plain (.bool b)) none := by
  intro data dumped
  cases dumped
  cases b with
  | false => exact ⟨.bool false, rfl, rfl⟩
  | true => exact ⟨.bool true, rfl, rfl⟩

theorem sample_message_goesWith (hint : Option TypedJson.Hint) :
    GoesWith sampleLibraries (.message ()) hint := by
  intro fullName data known written
  cases known
  cases written
  exact ⟨(), rfl, rfl⟩

/-- `RawValue(Payload(metadata={"encoding": b"my-encoding"}, data=b"blah blah"))`. -/
def rawPayload : Payload := makePayload [("encoding", encode "my-encoding")] (encode "blah blah")

def sampleValues : List (Argument (PyValue Unit)) :=
  [.value (.plain .none), .value (.plain (.bytes (encode "some binary"))), .raw rawPayload,
    .value (.message ()), .value (.plain (.bool true))]

/-- No hint for the last value. -/
def sampleHints : List (Option (TypeHint TypedJson.Hint)) :=
  [none, some (.type .bytes), some .rawValue, none]

def binaryConverters : List (EncodingPayloadConverter (PyValue Unit) TypedJson.Hint) :=
  [BinaryNullPayloadConverter, BinaryPlainPayloadConverter]

open CompositePayloadConverter in
/-- The default list, and a list of two converters. -/
theorem payloads_round_trip_sample :
    (∃ payloads, (DefaultPayloadConverter sampleLibraries).toPayloads (fun _ => "") sampleValues =
        .ok payloads ∧ payloads.length = 5 ∧
      (DefaultPayloadConverter sampleLibraries).fromPayloads payloads sampleHints =
        .ok sampleValues) ∧
    ∃ payloads, (init binaryConverters).toPayloads (fun _ => "") (sampleValues.take 3) =
        .ok payloads ∧
      (init binaryConverters).fromPayloads payloads sampleHints = .ok (sampleValues.take 3) := by
  constructor
  · have accepted : ∀ v, .value v ∈ sampleValues →
        ∃ payload, (encoder sampleLibraries v).toPayload v = .ok (some payload) := by
      intro v member
      simp only [sampleValues, List.mem_cons, Argument.value.injEq, reduceCtorEq, List.not_mem_nil,
        or_false, false_or] at member
      rcases member with rfl | rfl | rfl | rfl
      · exact ⟨_, rfl⟩
      · exact ⟨_, rfl⟩
      · exact ⟨_, rfl⟩
      · exact ⟨_, rfl⟩
    have matching : MatchesHints (GoesWith sampleLibraries) sampleValues sampleHints := by
      intro i arg found
      match i, found with
      | 0, rfl => exact trivial
      | 1, rfl => exact trivial
      | 2, rfl => exact rfl
      | 3, rfl => exact sample_message_goesWith none
      | 4, rfl => exact sample_goesWith true
    obtain ⟨payloads, made, -, back⟩ := payloads_round_trip.2 sampleLibraries (fun _ => "")
      sampleValues sampleHints accepted matching
    refine ⟨payloads, made, ?_, back⟩
    cases made
    rfl
  · have decodes : ∀ c ∈ binaryConverters, ∀ v payload (hint : Option TypedJson.Hint),
        c.toPayload v = .ok (some payload) → True → c.fromPayload payload hint = .ok v := by
      intro c member v payload hint made _
      rcases List.mem_cons.mp member with rfl | member
      · cases v with
        | message m => cases made
        | plain v => cases v <;> cases made; rfl
      · obtain rfl := List.mem_singleton.mp member
        cases v with
        | message m => cases made
        | plain v => cases v <;> cases made; rfl
    have accepted : ∀ v, .value v ∈ sampleValues.take 3 →
        ∃ c payload, FirstAccepting binaryConverters v c payload := by
      intro v member
      simp only [sampleValues, List.take_succ_cons, List.take_zero, List.mem_cons,
        Argument.value.injEq, reduceCtorEq, List.not_mem_nil, or_false] at member
      rcases member with rfl | rfl
      · exact ⟨_, _, [], _, rfl, by simp, rfl⟩
      · exact ⟨_, _, [_], _, rfl, List.forall_mem_singleton.mpr rfl, rfl⟩
    have matching : MatchesHints (fun _ _ => True) (sampleValues.take 3) sampleHints := by
      intro i arg found
      match i, found with
      | 0, rfl => exact trivial
      | 1, rfl => exact trivial
      | 2, rfl => exact rfl
    have stamps : ∀ c ∈ binaryConverters, ∀ v payload, c.toPayload v = .ok (some payload) →
        payload.metadata.get? "encoding" = some (encode c.encoding) :=
      fun c member => default_stamps sampleLibraries c (List.mem_append_left
        [JSONProtoPayloadConverter sampleLibraries, BinaryProtoPayloadConverter sampleLibraries,
          JSONPlainPayloadConverter sampleLibraries] member)
    obtain ⟨payloads, made, -, back⟩ := payloads_round_trip.1 binaryConverters
      (fun _ _ => True) (fun _ => "") (sampleValues.take 3) sampleHints
      (by simp [binaryConverters, BinaryNullPayloadConverter, BinaryPlainPayloadConverter])
      stamps decodes accepted matching
    exact ⟨payloads, made, back⟩

/-- The JSON converter before the one for messages. -/
def jsonFirst : List (EncodingPayloadConverter (PyValue Unit) TypedJson.Hint) :=
  [JSONPlainPayloadConverter sampleLibraries, JSONProtoPayloadConverter sampleLibraries]

open CompositePayloadConverter in
/-- The JSON converter raises for the message that the converter after it accepts. -/
theorem raising_converter :
    (jsonFirst.map (·.encoding)).Nodup ∧
    (∀ c ∈ jsonFirst, ∀ v payload, c.toPayload v = .ok (some payload) →
      payload.metadata.get? "encoding" = some (encode c.encoding)) ∧
    (∀ c ∈ jsonFirst, ∀ v payload (hint : Option TypedJson.Hint),
      c.toPayload v = .ok (some payload) → v = .message () → c.fromPayload payload hint = .ok v) ∧
    (∃ c ∈ jsonFirst, ∃ payload, c.toPayload (.message ()) = .ok (some payload)) ∧
    (init jsonFirst).toPayloads (fun _ => "") [.value (.message ())] =
      .error (.typeError "Object of type WorkflowExecution is not JSON serializable") := by
  refine ⟨?_, ?_, ?_, ⟨JSONProtoPayloadConverter sampleLibraries, ?_, _, rfl⟩, rfl⟩
  · simp [jsonFirst, JSONPlainPayloadConverter, JSONProtoPayloadConverter, protoConverter]
  · intro c member
    refine default_stamps sampleLibraries c ?_
    rcases List.mem_cons.mp member with rfl | member
    · simp [default_encoding_payload_converters]
    · rw [List.mem_singleton.mp member]
      simp [default_encoding_payload_converters]
  · rintro c member v payload hint made rfl
    rcases List.mem_cons.mp member with rfl | member
    · obtain ⟨data, dumped, -⟩ := JSONPlain_accepts sampleLibraries made
      cases dumped
    · obtain rfl := List.mem_singleton.mp member
      refine JSONProto_decodes sampleLibraries rfl made fun data written => ?_
      cases written
      exact ⟨(), rfl, rfl⟩
  · exact List.mem_cons_of_mem _ List.mem_cons_self

end TemporalSdk.Converter
