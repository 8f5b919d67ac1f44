import TemporalSdk.Properties.FailureChains
import TemporalSdk.Properties.PayloadRoundTrip
import TemporalSdk.Transition
import TemporalSdk.Workflow.SearchAttributes

/-!
# Search attributes here and on the server

## Main result

`attributes_agree`: in every run of typed upserts, of values that workflow code does
not change afterwards, the typed attributes in `workflow.info()` are those of the
server, as long as no call that raises does so at a name that has an attribute and
that the call has not written before.

The entry of a name is created in the command before its payload is made. If that
raises, and workflow code goes on, the command says that the attribute is an empty
payload while the attribute in the info is what it was: `failed_call_diverges`.

## Proof strategy

The payload that an update writes is decoded to the pair that the update puts in.
Within a call the views are compared with the server as the command would leave
it; every update that succeeds keeps them equal, name by name.
-/

namespace TemporalSdk.SearchAttributes

open Converter (Bytes ConverterError Libraries encode)
open Converter.InPlace (Payload)
open Converter.TypedJson (Value)

variable {M C D : Type} {env : Env M C D}

/-! ### Payloads of values -/

/-- The values whose JSON text is needed: scalars and lists of scalars. -/
def IsScalar : Value → Prop
  | .bool _ | .int _ | .float _ | .str _ => True
  | _ => False

theorem default_values : (Converter.DefaultPayloadConverter env.libraries).converters.values =
    Converter.default_encoding_payload_converters env.libraries :=
  Converter.CompositePayloadConverter.init_values (Converter.default_distinct env.libraries)

/-- The payload of a value that has JSON text. -/
theorem toPayload_plain {value : Value} {data : Bytes}
    (dumped : env.libraries.dumps value.toJson = .ok data)
    (json : Converter.encoder env.libraries (.plain value) =
      Converter.JSONPlainPayloadConverter env.libraries) :
    toPayload env value =
      .ok (Converter.makePayload [("encoding", encode "json/plain")] data) := by
  have made : (Converter.JSONPlainPayloadConverter env.libraries).toPayload (.plain value) =
      .ok (some (Converter.makePayload [("encoding", encode "json/plain")] data)) := by
    simp only [Converter.JSONPlainPayloadConverter, Converter.dumpsValue, dumped]
    rfl
  have first := (Converter.default_first_iff env.libraries (.plain value) _ _).mpr
    ⟨json.symm, json ▸ made⟩
  have tried := Converter.CompositePayloadConverter.tryConverters_first first
  simp only [toPayload, Converter.CompositePayloadConverter.toPayloads,
    Converter.CompositePayloadConverter.toPayloadsFrom,
    Converter.CompositePayloadConverter.toPayload, default_values, tried]
  rfl

/-- Only such a value has a payload. -/
theorem dumps_of_toPayload {value : Value} {payload : Payload}
    (made : toPayload env value = .ok payload)
    (json : Converter.encoder env.libraries (.plain value) =
      Converter.JSONPlainPayloadConverter env.libraries) :
    ∃ data, env.libraries.dumps value.toJson = .ok data ∧
      payload = Converter.makePayload [("encoding", encode "json/plain")] data := by
  have tried : Converter.CompositePayloadConverter.tryConverters (Converter.PyValue.plain value)
      (Converter.default_encoding_payload_converters env.libraries) = .ok (some payload) := by
    simp only [toPayload, Converter.CompositePayloadConverter.toPayloads,
      Converter.CompositePayloadConverter.toPayloadsFrom,
      Converter.CompositePayloadConverter.toPayload, default_values] at made
    revert made
    cases Converter.CompositePayloadConverter.tryConverters (Converter.PyValue.plain value)
      (Converter.default_encoding_payload_converters env.libraries) with
    | error error => exact fun made => by cases made
    | ok answer =>
      cases answer with
      | none => exact fun made => by cases made
      | some payload' =>
        intro made
        cases made
        rfl
  obtain ⟨c, first⟩ := Converter.CompositePayloadConverter.first_of_tryConverters tried
  obtain ⟨-, accepts⟩ := (Converter.default_first_iff env.libraries _ _ _).mp first
  rw [json] at accepts
  obtain ⟨data, dumped, same⟩ := Converter.JSONPlain_accepts env.libraries accepts
  exact ⟨data, dumped, by cases same; rfl⟩

theorem toPayload_none : toPayload env Value.none =
    .ok (Converter.makePayload [("encoding", encode "binary/null")] []) := by
  simp only [toPayload, Converter.CompositePayloadConverter.toPayloads,
    Converter.CompositePayloadConverter.toPayloadsFrom,
    Converter.CompositePayloadConverter.toPayload, default_values]
  rfl

theorem fromPayload_json (payload : Payload) {obj : Converter.TypedJson.Json}
    (encoding : payload.metadata.get? "encoding" = some (encode "json/plain"))
    (loaded : env.libraries.loads payload.data = some obj) :
    fromPayload env payload = .ok (.ofValue obj.toValue) := by
  have finds : (Converter.DefaultPayloadConverter env.libraries).converterFor payload =
      some (Converter.JSONPlainPayloadConverter env.libraries) := by
    unfold Converter.CompositePayloadConverter.converterFor Converter.encodingOf
    rw [encoding]
    exact Converter.CompositePayloadConverter.init_get (Converter.default_distinct env.libraries)
      (c := Converter.JSONPlainPayloadConverter env.libraries)
      (by simp [Converter.default_encoding_payload_converters])
  simp only [fromPayload, Converter.CompositePayloadConverter.fromPayloads,
    Converter.CompositePayloadConverter.fromPayloadsFrom,
    Converter.CompositePayloadConverter.typeHint, List.getElem?_nil, Option.join_none,
    Converter.CompositePayloadConverter.fromPayload, finds]
  simp only [Converter.JSONPlainPayloadConverter, loaded]
  rfl

/-! ### The payload of an update -/

theorem strings_map (texts : List String) :
    strings (texts.map (AttributeValue.str (D := D))) = some texts := by
  induction texts with
  | nil => rfl
  | cons text rest ih => simp [strings, ih]

theorem strings_eq_some {items : List (AttributeValue D)} {texts : List String}
    (strs : strings items = some texts) : items = texts.map .str := by
  induction items generalizing texts with
  | nil =>
    cases strs
    rfl
  | cons item rest ih =>
    cases item with
    | str s =>
      obtain ⟨others, found, rfl⟩ := Option.map_eq_some_iff.mp strs
      rw [ih found]
      rfl
    | none | bool | int | float | datetime | list | other => cases strs

theorem ofValues_strs (texts : List String) :
    AttributeValue.ofValues (texts.map Value.str) = texts.map (AttributeValue.str (D := D)) := by
  induction texts with
  | nil => rfl
  | cons text rest ih => simp [AttributeValue.ofValues, AttributeValue.ofValue, ih]

/-- JSON and ISO text is read back, as far as search attributes use it. -/
structure ReadsBack (env : Env M C D) : Prop where
  scalar : ∀ v data, IsScalar v → env.libraries.dumps v.toJson = .ok data →
    ∃ obj, env.libraries.loads data = some obj ∧ obj.toValue = v
  strings : ∀ (texts : List String) (data : Bytes),
    env.libraries.dumps (Value.list (texts.map .str)).toJson = .ok data →
    ∃ obj, env.libraries.loads data = some obj ∧ obj.toValue = .list (texts.map .str)
  date : ∀ d, env.parse (env.isoformat d) = some d

/-- The same of the text of one value. -/
structure ReadsValue (env : Env M C D) (value : AttributeValue D) : Prop where
  text : ∀ plain data, plainValue env value = .ok plain → plain ≠ .none →
    env.libraries.dumps plain.toJson = .ok data →
    ∃ obj, env.libraries.loads data = some obj ∧ obj.toValue = plain
  date : ∀ d, value = .datetime d → env.parse (env.isoformat d) = some d

theorem ReadsBack.value (reads : ReadsBack env) (value : AttributeValue D) :
    ReadsValue env value where
  text := by
    intro plain data same isValue
    cases value with
    | none | other =>
      cases same
      exact absurd rfl isValue
    | bool | int | float | str | datetime =>
      cases same
      exact reads.scalar _ data trivial
    | list items =>
      simp only [plainValue] at same
      split at same
      next texts strs =>
        cases same
        exact reads.strings texts data
      next => cases same
  date d _ := reads.date d

/-- A keyword list is given as a list, or unset. -/
def GivenAsList (key : SearchAttributeKey) (value : AttributeValue D) : Prop :=
  key.indexedValueType = .keywordList → value = .none ∨ ∃ items, value = .list items

theorem metadataType_read (key : SearchAttributeKey) :
    (encode key.metadataType).isEmpty = false ∧
      SearchAttributeKey.fromMetadataType key.name key.metadataType = some key := by
  obtain ⟨name, type⟩ := key
  cases type with
  | text | keyword | int | double | bool | datetime | keywordList => exact ⟨rfl, rfl⟩

/-- Whether the payload makes the server delete a name. -/
def isNull (payload : Payload) : Bool :=
  payload.metadata.get? "encoding" = some (encode "binary/null")

/-- What is read from the payload of a value that JSON text stands for. -/
theorem typedPayload_read {key : SearchAttributeKey} {plain : Value} {payload : Payload}
    (made : toTypedPayload env key plain = .ok payload)
    (json : Converter.encoder env.libraries (.plain plain) =
      Converter.JSONPlainPayloadConverter env.libraries)
    (reads : ∀ data, env.libraries.dumps plain.toJson = .ok data →
      ∃ obj, env.libraries.loads data = some obj ∧ obj.toValue = plain) :
    fromPayload env payload = .ok (.ofValue plain) ∧
      payload.metadata.get? "type" = some (encode key.metadataType) ∧ isNull payload = false := by
  cases base : toPayload env plain with
  | error error =>
    simp only [toTypedPayload, base] at made
    cases made
  | ok base' =>
    simp only [toTypedPayload, base] at made
    cases made
    obtain ⟨data, dumped, rfl⟩ := dumps_of_toPayload base json
    obtain ⟨obj, loaded, rfl⟩ := reads data dumped
    refine ⟨fromPayload_json _ (by simp [Converter.makePayload]) loaded, by simp, ?_⟩
    simp [isNull, Converter.makePayload]
    decide

/-- The payload of the value `plain` is decoded to `value` if `plain` stands for it. -/
theorem typedPayload_decodes {key : SearchAttributeKey} {plain : Value} {payload : Payload}
    (val : AttributeValue D) {value : AttributeValue D}
    (made : toTypedPayload env key plain = .ok payload)
    (json : Converter.encoder env.libraries (.plain plain) =
      Converter.JSONPlainPayloadConverter env.libraries)
    (reads : ∀ data, env.libraries.dumps plain.toJson = .ok data →
      ∃ obj, env.libraries.loads data = some obj ∧ obj.toValue = plain)
    (pulled : pullOut key.indexedValueType (AttributeValue.ofValue plain) = some val)
    (parsed : (if key.indexedValueType = .datetime then parseDate env val else .ok val) = .ok value)
    (suits : isInstance value key.indexedValueType = true) :
    decodeTyped env key.name payload = .ok (some ⟨key, value⟩) ∧ isNull payload = false := by
  obtain ⟨read, type, notNull⟩ := typedPayload_read (D := D) made json reads
  obtain ⟨nonempty, known⟩ := metadataType_read key
  refine ⟨?_, notNull⟩
  simp only [decodeTyped, type, Option.getD_some, nonempty]
  simp only [Bool.false_eq_true, if_false, Converter.decode_encode, bind, Except.bind, known]
  simp only [read, pulled]
  by_cases date : key.indexedValueType = .datetime
  · rw [if_pos date] at parsed ⊢
    simp only [parsed, suits, if_true]
    rfl
  · rw [if_neg date] at parsed ⊢
    cases parsed
    rw [if_pos suits]
    rfl

/-- A value that is encoded suits its key. -/
theorem encoded_isInstance {key : SearchAttributeKey} {value : AttributeValue D} {payload : Payload}
    (isValue : value ≠ .none)
    (encoded : encodeTypedSearchAttributeValue env key value = .ok payload) :
    isInstance value key.indexedValueType = true ∧
      ∃ plain, plainValue env value = .ok plain ∧ toTypedPayload env key plain = .ok payload := by
  obtain ⟨error, unfolded⟩ : ∃ error, encodeTypedSearchAttributeValue env key value =
      if isInstance value key.indexedValueType then do
        let plain ← plainValue env value
        toTypedPayload env key plain
      else .error error := by
    cases value with
    | none => exact absurd rfl isValue
    | bool | int | float | str | datetime | list | other => exact ⟨_, rfl⟩
  rw [unfolded] at encoded
  split at encoded
  next suits =>
    cases converted : plainValue env value with
    | error error =>
      rw [converted] at encoded
      cases encoded
    | ok plain =>
      rw [converted] at encoded
      exact ⟨suits, plain, rfl, encoded⟩
  next => cases encoded

/-- What the untyped view holds for a pair. -/
def untypedView (value : AttributeValue D) : List (AttributeValue D) :=
  match value with
  | .list items => items
  | value => [value]

/-- The value as JSON has it. -/
def onWire (env : Env M C D) : AttributeValue D → AttributeValue D
  | .datetime d => .str (env.isoformat d)
  | value => value

/-- The payload of a value is that of what is read back as the value on the wire. -/
theorem encoded_plain {key : SearchAttributeKey} {value : AttributeValue D}
    (reads : ReadsValue env value) {payload : Payload} (isValue : value ≠ .none)
    (encoded : encodeTypedSearchAttributeValue env key value = .ok payload) :
    ∃ plain, toTypedPayload env key plain = .ok payload ∧
      Converter.encoder env.libraries (.plain plain) =
        Converter.JSONPlainPayloadConverter env.libraries ∧
      (∀ data, env.libraries.dumps plain.toJson = .ok data →
        ∃ obj, env.libraries.loads data = some obj ∧ obj.toValue = plain) ∧
      AttributeValue.ofValue plain = onWire env value := by
  obtain ⟨suits, plain, same, made⟩ := encoded_isInstance isValue encoded
  cases value with
  | none => exact absurd rfl isValue
  -- no type of a key takes a value of another class
  | other =>
    revert suits
    cases key.indexedValueType <;> exact fun suits => by cases suits
  | bool | int | float | str | datetime =>
    have text := reads.text plain
    cases same
    exact ⟨_, made, rfl, fun data => text data rfl (by simp), rfl⟩
  | list items =>
    have text := reads.text plain
    simp only [plainValue] at same text
    -- a list passes only if all of its items are strings
    split at same
    next texts strs =>
      cases same
      rw [strs] at text
      obtain rfl := strings_eq_some strs
      refine ⟨_, made, rfl, fun data => text data rfl (by simp), ?_⟩
      simp [AttributeValue.ofValue, ofValues_strs, onWire]
    next => cases same

/-- It is not null, and is decoded to the pair. -/
theorem encoded_decodes {key : SearchAttributeKey} {value : AttributeValue D}
    (reads : ReadsValue env value) {payload : Payload} (isValue : value ≠ .none)
    (encoded : encodeTypedSearchAttributeValue env key value = .ok payload) :
    decodeTyped env key.name payload = .ok (some ⟨key, value⟩) ∧ isNull payload = false := by
  obtain ⟨suits, -, -, -⟩ := encoded_isInstance isValue encoded
  obtain ⟨plain, made, json, readBack, wire⟩ := encoded_plain reads isValue encoded
  obtain ⟨name, type⟩ := key
  refine typedPayload_decodes (onWire env value) made json readBack ?_ ?_ suits
  · -- only a value of a keyword list is a list
    rw [wire]
    cases type <;> cases value <;> first | rfl | cases suits
  · by_cases date : type = .datetime
    · subst date
      cases value with
      | datetime d => simp [onWire, parseDate, reads.date d rfl]
      | none | bool | int | float | str | list | other => cases suits
    · cases value with
      | datetime d => cases type <;> first | exact absurd rfl date | cases suits
      | none | bool | int | float | str | list | other => exact if_neg date

/-- The untyped view of the payload. -/
theorem encoded_untyped {key : SearchAttributeKey} {value : AttributeValue D}
    (reads : ReadsValue env value) {payload : Payload} (isValue : value ≠ .none)
    (encoded : encodeTypedSearchAttributeValue env key value = .ok payload) :
    decodeUntyped env payload = .ok (untypedView value) := by
  obtain ⟨suits, -, -, -⟩ := encoded_isInstance isValue encoded
  obtain ⟨plain, made, json, readBack, wire⟩ := encoded_plain reads isValue encoded
  obtain ⟨read, typed, -⟩ := typedPayload_read (D := D) made json readBack
  have date : (payload.metadata.get? "type" = some (encode "Datetime")) ↔
      key.indexedValueType = .datetime := by
    rw [typed]
    obtain ⟨name, type⟩ := key
    cases type <;> simp [SearchAttributeKey.metadataType] <;> decide
  rw [wire] at read
  simp only [decodeUntyped, read, bind, Except.bind]
  by_cases isDate : key.indexedValueType = .datetime
  · rw [if_pos (date.mpr isDate)]
    rw [isDate] at suits
    cases value with
    | datetime d =>
      simp [onWire, parseDate, reads.date d rfl, untypedView, bind, Except.bind, pure, Except.pure]
    | none | bool | int | float | str | list | other => cases suits
  · rw [if_neg (fun isText => isDate (date.mp isText))]
    cases value with
    | datetime d =>
      revert suits isDate
      cases key.indexedValueType <;> simp [isInstance]
    | none | bool | int | float | str | list | other => rfl

theorem null_encoded {key : SearchAttributeKey} {payload : Payload}
    (encoded : encodeTypedSearchAttributeValue env key .none = .ok payload) :
    isNull payload = true := by
  have made : toPayload env .none = .ok payload := encoded
  rw [toPayload_none] at made
  cases made
  decide

/-! ### The server -/

/-- The server applies a command: a null payload deletes the name. -/
def applyCommand (server command : Dict String Payload) : Dict String Payload :=
  command.entries.foldl (fun server entry =>
    if isNull entry.2 then server.erase entry.1 else server.set entry.1 entry.2) server

theorem applyCommand_get (server command : Dict String Payload) (name : String) :
    (applyCommand server command).get? name =
      match command.get? name with
      | none => server.get? name
      | some payload => if isNull payload then none else some payload := by
  obtain ⟨entries, distinct⟩ := command
  unfold applyCommand Dict.get?
  dsimp only
  -- the names are distinct, so only the entry of the name itself decides
  induction entries generalizing server with
  | nil => rfl
  | cons entry rest ih =>
    obtain ⟨key, payload⟩ := entry
    obtain ⟨absent, distinct⟩ := List.nodup_cons.mp distinct
    rw [List.foldl_cons]
    refine (ih _ distinct).trans ?_
    rw [Dict.lookup]
    by_cases here : key = name
    · subst here
      rw [Dict.lookup_eq_none absent, if_pos rfl]
      dsimp only
      split
      · exact (Dict.get?_erase server key key).trans (if_pos rfl)
      · exact (Dict.get?_set server key key payload).trans (if_pos rfl)
    · rw [if_neg here]
      have other : (if isNull payload then server.erase key else server.set key payload).get? name =
          server.get? name := by
        split
        · rw [Dict.get?_erase, if_neg (Ne.symm here)]
        · rw [Dict.get?_set, if_neg (Ne.symm here)]
      cases Dict.lookup rest name with
      | none => exact other
      | some payload' => rfl

/-- The typed attribute of a name on the server. -/
def serverPair (env : Env M C D) (server : Dict String Payload) (name : String) :
    Except ConverterError (Option (SearchAttributePair D)) :=
  match server.get? name with
  | none => .ok none
  | some payload => decodeTyped env name payload

/-! ### Decoding what the server holds -/

/-- A decoded pair has the name of its entry. -/
theorem decodeTyped_name {name : String} {payload : Payload} {pair : SearchAttributePair D}
    (decoded : decodeTyped env name payload = .ok (some pair)) : pair.key.name = name := by
  have known {text : String} {key : SearchAttributeKey}
      (found : SearchAttributeKey.fromMetadataType name text = some key) : key.name = name := by
    unfold SearchAttributeKey.fromMetadataType at found
    repeat' split at found
    all_goals cases found
    all_goals rfl
  unfold decodeTyped at decoded
  dsimp only at decoded
  split at decoded
  · cases decoded
  · obtain ⟨text, -, decoded⟩ := Converter.bind_eq_ok.mp decoded
    split at decoded
    · cases decoded
    next key found =>
      obtain ⟨val, -, decoded⟩ := Converter.bind_eq_ok.mp decoded
      split at decoded
      · cases decoded
      next item pulled =>
        split at decoded
        all_goals obtain ⟨value, -, decoded⟩ := Converter.bind_eq_ok.mp decoded
        all_goals split at decoded
        all_goals cases decoded
        all_goals exact known found

theorem mem_decodePairs {entries : List (String × Payload)} {pairs : List (SearchAttributePair D)}
    (decoded : decodePairs env entries = .ok pairs) (pair : SearchAttributePair D) :
    pair ∈ pairs ↔ ∃ entry ∈ entries, decodeTyped env entry.1 entry.2 = .ok (some pair) := by
  induction entries generalizing pairs with
  | nil =>
    cases decoded
    simp
  | cons entry rest ih =>
    obtain ⟨first, here, decoded⟩ := Converter.bind_eq_ok.mp decoded
    obtain ⟨others, later, decoded⟩ := Converter.bind_eq_ok.mp decoded
    cases decoded
    rw [List.mem_append, ih later]
    simp [here, eq_comm]

theorem decodePairs_names {entries : List (String × Payload)}
    {pairs : List (SearchAttributePair D)} (decoded : decodePairs env entries = .ok pairs) :
    (names pairs).Sublist (entries.map Prod.fst) := by
  induction entries generalizing pairs with
  | nil =>
    cases decoded
    exact List.Sublist.refl _
  | cons entry rest ih =>
    obtain ⟨first, here, decoded⟩ := Converter.bind_eq_ok.mp decoded
    obtain ⟨others, later, decoded⟩ := Converter.bind_eq_ok.mp decoded
    cases decoded
    cases first with
    | none => exact (ih later).cons _
    | some pair =>
      have name := decodeTyped_name here
      simp only [Option.toList_some, List.singleton_append, names, List.map_cons, name]
      exact (ih later).cons_cons _

theorem decodePairs_ok {entries : List (String × Payload)}
    (each : ∀ entry ∈ entries, ∃ pair, decodeTyped env entry.1 entry.2 = .ok pair) :
    ∃ pairs, decodePairs env entries = .ok pairs := by
  induction entries with
  | nil => exact ⟨[], rfl⟩
  | cons entry rest ih =>
    obtain ⟨⟨pair, here⟩, others⟩ := List.forall_mem_cons.mp each
    obtain ⟨pairs, later⟩ := ih others
    exact ⟨pair.toList ++ pairs, by simp only [decodePairs, here, later]; rfl⟩

theorem duplicate_none {pairs : List (SearchAttributePair D)} (distinct : (names pairs).Nodup) :
    duplicate? pairs = none := by
  induction pairs with
  | nil => rfl
  | cons a rest ih =>
    obtain ⟨absent, distinct⟩ := List.nodup_cons.mp distinct
    cases rest with
    | nil => rfl
    | cons b rest =>
      have differs : a.key.name ≠ b.key.name := by
        intro same
        exact absent (List.mem_cons.mpr (Or.inl same))
      rw [duplicate?, if_neg differs]
      exact ih distinct

theorem mem_sortedByName (pairs : List (SearchAttributePair D)) (pair : SearchAttributePair D) :
    pair ∈ sortedByName pairs ↔ pair ∈ pairs :=
  (List.mergeSort_perm pairs _).mem_iff

theorem nodup_sortedByName {pairs : List (SearchAttributePair D)}
    (distinct : (names pairs).Nodup) : (names (sortedByName pairs)).Nodup :=
  ((List.mergeSort_perm pairs _).map _).nodup_iff.mpr distinct

/-- If each payload is decoded, so is the map: its pairs are those of its entries. -/
theorem decodeTypedSearchAttributes_spec (server : Dict String Payload)
    (each : ∀ name, ∃ pair, serverPair env server name = .ok pair) :
    ∃ pairs, decodeTypedSearchAttributes env server = .ok pairs ∧ (names pairs).Nodup ∧
      ∀ pair, pair ∈ pairs ↔ serverPair env server pair.key.name = .ok (some pair) := by
  -- the entries are distinct, so each is what the server has under its name
  have entryPair (entry : String × Payload) (member : entry ∈ server.entries) :
      serverPair env server entry.1 = decodeTyped env entry.1 entry.2 := by
    have found : server.get? entry.1 = some entry.2 :=
      Dict.lookup_of_mem server.distinct member
    unfold serverPair
    rw [found]
  obtain ⟨pairs, decoded⟩ : ∃ pairs, decodePairs env server.entries = .ok pairs :=
    decodePairs_ok fun entry member => entryPair entry member ▸ each entry.1
  have distinct : (names pairs).Nodup := server.distinct.sublist (decodePairs_names decoded)
  refine ⟨sortedByName pairs, ?_, nodup_sortedByName distinct, fun pair => ?_⟩
  · simp only [decodeTypedSearchAttributes, decoded, bind, Except.bind,
      duplicate_none (nodup_sortedByName distinct)]
    rfl
  · rw [mem_sortedByName, mem_decodePairs decoded]
    constructor
    · rintro ⟨entry, member, isPair⟩
      rw [decodeTyped_name isPair, entryPair entry member]
      exact isPair
    · intro isPair
      cases found : server.get? pair.key.name with
      | none =>
        unfold serverPair at isPair
        rw [found] at isPair
        cases isPair
      | some payload =>
        unfold serverPair at isPair
        rw [found] at isPair
        exact ⟨(pair.key.name, payload), Dict.mem_of_lookup found, isPair⟩

/-! ### Agreement -/

/-- Name by name, the typed view is what the server holds, and the untyped view
    goes with it. -/
structure Agrees (env : Env M C D) (server : Dict String Payload) (info : Info D) : Prop where
  distinct : (names info.typedSearchAttributes).Nodup
  same : ∀ name, serverPair env server name = .ok (find info.typedSearchAttributes name)
  untyped : ∀ pair ∈ info.typedSearchAttributes,
    info.searchAttributes.get? pair.key.name = some (untypedView pair.value)

/-- The typed attributes are those that the server map is decoded to, as a finite
    map from names to keys and values, and the untyped view holds their values. -/
def Synced (env : Env M C D) (server : Dict String Payload) (info : Info D) : Prop :=
  (∃ pairs, decodeTypedSearchAttributes env server = .ok pairs ∧
    ∀ pair, pair ∈ info.typedSearchAttributes ↔ pair ∈ pairs) ∧
  (names info.typedSearchAttributes).Nodup ∧
  ∀ pair ∈ info.typedSearchAttributes,
    info.searchAttributes.get? pair.key.name = some (untypedView pair.value)

theorem find_eq_some {pairs : List (SearchAttributePair D)} (distinct : (names pairs).Nodup)
    {name : String} {pair : SearchAttributePair D} :
    find pairs name = some pair ↔ pair ∈ pairs ∧ pair.key.name = name := by
  induction pairs with
  | nil => simp [find]
  | cons a rest ih =>
    obtain ⟨absent, distinct⟩ := List.nodup_cons.mp distinct
    rw [find_cons]
    by_cases here : a.key.name = name
    · rw [if_pos here]
      constructor
      · intro same
        cases same
        exact ⟨List.mem_cons_self, here⟩
      · rintro ⟨member, named⟩
        rcases List.mem_cons.mp member with rfl | later
        · rfl
        · have inside : pair.key.name ∈ names rest := List.mem_map_of_mem later
          rw [named, ← here] at inside
          exact absurd inside absent
    · rw [if_neg here, ih distinct, List.mem_cons]
      constructor
      · rintro ⟨member, named⟩
        exact ⟨Or.inr member, named⟩
      · rintro ⟨rfl | member, named⟩
        · exact absurd named here
        · exact ⟨member, named⟩

theorem Agrees.synced {server : Dict String Payload} {info : Info D}
    (agrees : Agrees env server info) : Synced env server info := by
  obtain ⟨pairs, decoded, -, members⟩ :=
    decodeTypedSearchAttributes_spec server fun name => ⟨_, agrees.same name⟩
  refine ⟨⟨pairs, decoded, fun pair => ?_⟩, agrees.distinct, agrees.untyped⟩
  rw [members, agrees.same, Except.ok.injEq, find_eq_some agrees.distinct]
  simp

/-- A name whose server payload is decoded to nothing while the info has a pair. -/
theorem not_synced {server : Dict String Payload} {info : Info D} (name : String)
    (pair : SearchAttributePair D) (lost : serverPair env server name = .ok none)
    (found : find info.typedSearchAttributes name = some pair) : ¬Synced env server info := by
  rintro ⟨⟨pairs, decoded, members⟩, distinct, -⟩
  obtain ⟨member, named⟩ := (find_eq_some distinct).mp found
  obtain ⟨listed, listedOk, decoded⟩ := Converter.bind_eq_ok.mp decoded
  have sorted : pairs = sortedByName listed := by
    dsimp only at decoded
    split at decoded
    · cases decoded
    · cases decoded
      rfl
  have isListed := (members pair).mp member
  rw [sorted, mem_sortedByName, mem_decodePairs listedOk] at isListed
  obtain ⟨entry, inside, isPair⟩ := isListed
  have key : entry.1 = name := (decodeTyped_name isPair).symm.trans named
  have atName : server.get? name = some entry.2 :=
    key ▸ Dict.lookup_of_mem server.distinct inside
  unfold serverPair at lost
  rw [atName] at lost
  rw [key] at isPair
  exact absurd (lost.symm.trans isPair) (by simp)

/-! ### A call -/

/-- The server after the command of the call as it is now. -/
def AgreesSoFar (env : Env M C D) (server : Dict String Payload) (s : Upsert D) : Prop :=
  Agrees env (applyCommand server s.command) s.info

/-- The loop has gone through updates that are encoded. -/
inductive Writes (env : Env M C D) : Upsert D → List (SearchAttributeUpdate D) → Upsert D → Prop
  | nil (s : Upsert D) : Writes env s [] s
  | cons {s s' : Upsert D} {update : SearchAttributeUpdate D}
      {rest : List (SearchAttributeUpdate D)} {payload : Payload}
      (encoded : encodeTypedSearchAttributeValue env update.key update.value = .ok payload)
      (others : Writes env ((s.copyFrom update.key.name (.ok payload)).1.applyUpdate update) rest s') :
      Writes env s (update :: rest) s'

variable (env) in
/-- A call succeeds, or its loop ends at the first update that is not encoded. -/
theorem typedLoop_cases (s : Upsert D) (updates : List (SearchAttributeUpdate D)) :
    (∃ s', Writes env s updates s' ∧ Upsert.typedLoop env s updates = (s', none)) ∨
      ∃ before update after error s', updates = before ++ update :: after ∧
        Writes env s before s' ∧
        encodeTypedSearchAttributeValue env update.key update.value = .error error ∧
        Upsert.typedLoop env s updates = (s'.touch update.key.name, some error) := by
  induction updates generalizing s with
  | nil => exact Or.inl ⟨s, .nil s, rfl⟩
  | cons update rest ih =>
    cases encoded : encodeTypedSearchAttributeValue env update.key update.value with
    | error error =>
      refine Or.inr ⟨[], update, rest, error, s, rfl, .nil s, encoded, ?_⟩
      simp only [Upsert.typedLoop, encoded, Upsert.copyFrom]
    | ok payload =>
      have next : Upsert.typedLoop env s (update :: rest) = Upsert.typedLoop env
          ((s.copyFrom update.key.name (.ok payload)).1.applyUpdate update) rest := by
        simp only [Upsert.typedLoop, encoded, Upsert.copyFrom]
      rcases ih ((s.copyFrom update.key.name (.ok payload)).1.applyUpdate update) with
        ⟨s', writes, ends⟩ | ⟨before, failing, after, error, s', rfl, writes, fails, ends⟩
      · exact Or.inl ⟨s', .cons encoded writes, next.trans ends⟩
      · exact Or.inr ⟨update :: before, failing, after, error, s', rfl, .cons encoded writes, fails,
          next.trans ends⟩

/-! ### What an update keeps -/

theorem touch_get (s : Upsert D) (name other : String) :
    (s.touch name).command.get? other =
      if other = name ∧ s.command.get? name = none then some ⟨Dict.empty, []⟩
      else s.command.get? other := by
  unfold Upsert.touch
  cases found : s.command.get? name with
  | some payload => simp
  | none => simp

theorem copyFrom_get (s : Upsert D) (name : String) (payload : Payload) (other : String) :
    (s.copyFrom name (.ok payload)).1.command.get? other =
      if other = name then some payload else s.command.get? other := by
  unfold Upsert.copyFrom
  dsimp only
  rw [Dict.get?_set, touch_get]
  by_cases same : other = name
  · simp [same]
  · simp [same]

theorem copyFrom_info (s : Upsert D) (name : String) (payload : Except ConverterError Payload) :
    (s.copyFrom name payload).1.info = s.info := by
  unfold Upsert.copyFrom Upsert.touch Upsert.info
  cases payload with
  | ok payload =>
    dsimp only
    split <;> rfl
  | error error =>
    dsimp only
    split <;> rfl

theorem applyUpdate_command (s : Upsert D) (update : SearchAttributeUpdate D) :
    (s.applyUpdate update).command = s.command := by
  unfold Upsert.applyUpdate
  split
  · rfl
  · rfl

/-- The views after an update: those of its name are new, others are kept. -/
theorem applyUpdate_views (s : Upsert D) {update : SearchAttributeUpdate D}
    (distinct : (names s.typedSearchAttributes).Nodup)
    (given : GivenAsList update.key update.value)
    (suits : update.value ≠ .none → isInstance update.value update.key.indexedValueType = true) :
    (names (s.applyUpdate update).typedSearchAttributes).Nodup ∧
    (∀ name, find (s.applyUpdate update).typedSearchAttributes name =
      if name = update.key.name then
        match update.value with
        | .none => none
        | value => some ⟨update.key, value⟩
      else find s.typedSearchAttributes name) ∧
    ∀ name, (s.applyUpdate update).searchAttributes.get? name =
      if name = update.key.name then
        match update.value with
        | .none => some []
        | value => some (untypedView value)
      else s.searchAttributes.get? name := by
  obtain ⟨⟨name, type⟩, value⟩ := update
  -- `iterate` is the identity on the lists that a keyword list holds
  have replaced (isValue : value ≠ .none) :
      (if type = .keywordList then Upsert.iterate value else [value]) = untypedView value := by
    split
    next list =>
      rcases given list with unset | ⟨items, rfl⟩
      · exact absurd unset isValue
      · rfl
    next noList =>
      cases value with
      | list items =>
        refine absurd (suits isValue) ?_
        cases type <;> first | exact absurd rfl noList | simp [isInstance]
      | none | bool | int | float | str | datetime | other => rfl
  have put (isValue : value ≠ .none) (applied : s.applyUpdate ⟨⟨name, type⟩, value⟩ = { s with
      typedSearchAttributes := putPair s.typedSearchAttributes ⟨⟨name, type⟩, value⟩
      searchAttributes := s.searchAttributes.set name
        (if type = .keywordList then Upsert.iterate value else [value]) }) :
      (names (s.applyUpdate ⟨⟨name, type⟩, value⟩).typedSearchAttributes).Nodup ∧
      (∀ other, find (s.applyUpdate ⟨⟨name, type⟩, value⟩).typedSearchAttributes other =
        if other = name then some ⟨⟨name, type⟩, value⟩
        else find s.typedSearchAttributes other) ∧
      ∀ other, (s.applyUpdate ⟨⟨name, type⟩, value⟩).searchAttributes.get? other =
        if other = name then some (untypedView value) else s.searchAttributes.get? other := by
    rw [applied, replaced isValue]
    exact ⟨nodup_putPair _ distinct _, fun other => find_putPair _ _ other,
      fun other => Dict.get?_set _ _ _ _⟩
  cases value with
  | none =>
    refine ⟨nodup_removePair _ distinct name, fun other => ?_, fun other => Dict.get?_set _ _ _ _⟩
    by_cases same : other = name
    · subst same
      rw [if_pos rfl]
      exact find_removePair_self _ distinct other
    · rw [if_neg same]
      exact find_removePair_of_ne _ same
  | bool | int | float | str | datetime | list | other => exact put (by simp) rfl

/-- An update that is encoded keeps the views and the server the same. -/
theorem update_agrees (reads : ReadsBack env) {server : Dict String Payload} {s : Upsert D}
    (agrees : AgreesSoFar env server s) {update : SearchAttributeUpdate D} {payload : Payload}
    (given : GivenAsList update.key update.value)
    (encoded : encodeTypedSearchAttributeValue env update.key update.value = .ok payload) :
    AgreesSoFar env server
      ((s.copyFrom update.key.name (.ok payload)).1.applyUpdate update) := by
  have info := copyFrom_info s update.key.name (.ok payload)
  have typed : (s.copyFrom update.key.name (.ok payload)).1.typedSearchAttributes =
      s.typedSearchAttributes := congrArg Info.typedSearchAttributes info
  have untyped : (s.copyFrom update.key.name (.ok payload)).1.searchAttributes =
      s.searchAttributes := congrArg Info.searchAttributes info
  have distinct : (names s.typedSearchAttributes).Nodup := agrees.distinct
  obtain ⟨distinct, found, lists⟩ := applyUpdate_views
    (s.copyFrom update.key.name (.ok payload)).1 (by rwa [typed]) given
    fun isValue => (encoded_isInstance isValue encoded).1
  rw [typed] at found
  rw [untyped] at lists
  refine ⟨distinct, fun name => ?_, fun pair member => ?_⟩
  · refine Eq.trans ?_ (congrArg Except.ok (found name).symm)
    have server := applyCommand_get server
      ((s.copyFrom update.key.name (.ok payload)).1.applyUpdate update).command name
    rw [applyUpdate_command, copyFrom_get] at server
    unfold serverPair
    rw [applyUpdate_command, server]
    by_cases same : name = update.key.name
    -- the name of the update: the payload that was copied decodes to the new value
    · rw [if_pos same, if_pos same]
      dsimp only
      cases value : update.value with
      | none =>
        rw [value] at encoded
        rw [null_encoded encoded]
        rfl
      | bool | int | float | str | datetime | list | other =>
        have decodes := encoded_decodes (reads.value _) (by rw [value]; simp) encoded
        rw [decodes.2, same]
        rw [value] at decodes
        exact decodes.1
    · rw [if_neg same, if_neg same]
      -- another name: both sides are as they were
      have before := agrees.same name
      unfold serverPair at before
      rwa [applyCommand_get] at before
  · have atName := (find_eq_some distinct).mpr ⟨member, rfl⟩
    rw [found] at atName
    refine (lists pair.key.name).trans ?_
    by_cases same : pair.key.name = update.key.name
    · rw [if_pos same] at atName ⊢
      cases value : update.value with
      | none =>
        rw [value] at atName
        cases atName
      | bool | int | float | str | datetime | list | other =>
        rw [value] at atName
        cases atName
        rfl
    · rw [if_neg same] at atName ⊢
      exact agrees.untyped pair ((find_eq_some agrees.distinct).mp atName).1

theorem writes_agrees (reads : ReadsBack env) {server : Dict String Payload} {s s' : Upsert D}
    {updates : List (SearchAttributeUpdate D)} (writes : Writes env s updates s')
    (given : ∀ update ∈ updates, GivenAsList update.key update.value)
    (agrees : AgreesSoFar env server s) : AgreesSoFar env server s' := by
  induction writes with
  | nil => exact agrees
  | cons encoded _ ih =>
    obtain ⟨first, others⟩ := List.forall_mem_cons.mp given
    exact ih others (update_agrees reads agrees first encoded)

/-- The command has the names that have been written. -/
theorem writes_command {s s' : Upsert D} {updates : List (SearchAttributeUpdate D)}
    (writes : Writes env s updates s') (name : String) :
    (s'.command.get? name = none ↔
      s.command.get? name = none ∧ ∀ update ∈ updates, update.key.name ≠ name) := by
  induction writes with
  | nil => simp
  | @cons s s' update rest payload encoded _ ih =>
    rw [ih, applyUpdate_command, copyFrom_get, List.forall_mem_cons]
    by_cases same : name = update.key.name
    · simp [same]
    · simp [same, Ne.symm same]

/-- Other names keep their typed attributes. -/
theorem writes_find {s s' : Upsert D} {updates : List (SearchAttributeUpdate D)}
    (writes : Writes env s updates s') {name : String}
    (others : ∀ update ∈ updates, update.key.name ≠ name) :
    find s'.typedSearchAttributes name = find s.typedSearchAttributes name := by
  induction writes with
  | nil => rfl
  | @cons s s' update rest payload encoded _ ih =>
    obtain ⟨first, others⟩ := List.forall_mem_cons.mp others
    refine (ih others).trans ?_
    have info := congrArg Info.typedSearchAttributes
      (copyFrom_info s update.key.name (.ok payload))
    unfold Upsert.applyUpdate
    split
    · exact (find_removePair_of_ne _ (Ne.symm first)).trans (congrArg (find · name) info)
    · exact ((find_putPair _ _ name).trans (if_neg (Ne.symm first))).trans
        (congrArg (find · name) info)

/-- An entry that is only created: the server has an empty payload for the name. -/
theorem serverPair_touch {server : Dict String Payload} {s : Upsert D} {name : String}
    (fresh : s.command.get? name = none) (other : String) :
    serverPair env (applyCommand server (s.touch name).command) other =
      if other = name then .ok none else serverPair env (applyCommand server s.command) other := by
  unfold serverPair
  rw [applyCommand_get, touch_get]
  by_cases same : other = name
  · rw [if_pos ⟨same, fresh⟩, if_pos same]
    have notNull : isNull ⟨Dict.empty, []⟩ = false := rfl
    simp only [notNull]
    rfl
  · rw [if_neg (fun both => same both.1), if_neg same, ← applyCommand_get]

theorem touch_info (s : Upsert D) (name : String) : (s.touch name).info = s.info := by
  unfold Upsert.touch Upsert.info
  split <;> rfl

/-! ### Runs of calls -/

/-- The attributes in the info, and those of the server. -/
structure Replica (D : Type) where
  info : Info D
  server : Dict String Payload

/-- A typed call; what it raises is caught. -/
def Replica.upsert (env : Env M C D) (s : Replica D) (updates : List (SearchAttributeUpdate D)) :
    Option (Replica D) :=
  let call := (upsertSearchAttributes env s.info (.typed updates)).1
  some ⟨call.info, applyCommand s.server call.command⟩

def encodes (env : Env M C D) (update : SearchAttributeUpdate D) : Bool :=
  match encodeTypedSearchAttributeValue env update.key update.value with
  | .ok _ => true
  | .error _ => false

/-- If the call raises, it is at a name that it has written before, or that has no
    typed attribute. -/
def FailsSafely (env : Env M C D) (info : Info D) (updates : List (SearchAttributeUpdate D)) :
    Prop :=
  ∀ update, updates.find? (fun update => !encodes env update) = some update →
    (∃ written ∈ updates.takeWhile (encodes env), written.key.name = update.key.name) ∨
      find info.typedSearchAttributes update.key.name = none

def GivenAsLists (updates : List (SearchAttributeUpdate D)) : Prop :=
  ∀ update ∈ updates, GivenAsList update.key update.value

theorem writes_encodes {s s' : Upsert D} {updates : List (SearchAttributeUpdate D)}
    (writes : Writes env s updates s') : ∀ update ∈ updates, encodes env update = true := by
  induction writes with
  | nil => simp
  | cons encoded _ ih =>
    refine List.forall_mem_cons.mpr ⟨?_, ih⟩
    unfold encodes
    rw [encoded]

/-- After a call the views and the server agree exactly if it fails safely, if at all. -/
theorem call_agrees (reads : ReadsBack env) {s : Replica D} (agrees : Agrees env s.server s.info)
    {updates : List (SearchAttributeUpdate D)} (given : GivenAsLists updates) {s' : Replica D}
    (called : s.upsert env updates = some s') :
    (FailsSafely env s.info updates → Agrees env s'.server s'.info) ∧
      (Synced env s'.server s'.info → FailsSafely env s.info updates) := by
  let start : Upsert D := ⟨Dict.empty, s.info.searchAttributes, s.info.typedSearchAttributes⟩
  have started : AgreesSoFar env s.server start := agrees
  have ends : s' = ⟨(Upsert.typedLoop env start updates).1.info,
      applyCommand s.server (Upsert.typedLoop env start updates).1.command⟩ := by
    cases called
    rfl
  rcases typedLoop_cases env start updates with
    ⟨t, writes, result⟩ | ⟨before, update, after, error, t, rfl, writes, fails, result⟩
  -- all values can be encoded
  · have safely : FailsSafely env s.info updates := by
      intro update found
      have encoded := writes_encodes writes update (List.mem_of_find?_eq_some found)
      have failed := List.find?_some found
      rw [encoded] at failed
      cases failed
    have after := writes_agrees reads writes given started
    rw [ends, result]
    exact ⟨fun _ => after, fun _ => safely⟩
  · have encoded := writes_encodes writes
    -- an update fails: its entry has been touched, and those behind it are not reached
    have failing : encodes env update = false := by
      unfold encodes
      rw [fails]
    have found : (before ++ update :: after).find? (fun update => !encodes env update) =
        some update := by
      rw [List.find?_append, List.find?_eq_none.mpr fun w member => by simp [encoded w member],
        Option.none_or, List.find?_cons, failing]
      rfl
    have taken : (before ++ update :: after).takeWhile (encodes env) = before := by
      rw [List.takeWhile_append_of_pos encoded, List.takeWhile_cons, failing]
      simp
    have soFar := writes_agrees reads writes
      (fun w member => given w (List.mem_append_left _ member)) started
    have safely : FailsSafely env s.info (before ++ update :: after) ↔
        (∃ written ∈ before, written.key.name = update.key.name) ∨
          find s.info.typedSearchAttributes update.key.name = none := by
      constructor
      · intro safely
        have := safely update found
        rwa [taken] at this
      · intro safe other foundOther
        rw [found] at foundOther
        cases foundOther
        rwa [taken]
    rw [ends, result, safely]
    dsimp only
    by_cases fresh : t.command.get? update.key.name = none
    -- nothing was written under the name, so the server deletes what the workflow still shows
    · have others := ((writes_command writes update.key.name).mp fresh).2
      have kept := writes_find writes others
      have touched : ∀ other, serverPair env
          (applyCommand s.server (t.touch update.key.name).command) other =
            if other = update.key.name then .ok none
            else serverPair env (applyCommand s.server t.command) other := serverPair_touch fresh
      constructor
      · rintro (⟨written, member, same⟩ | absent)
        · exact absurd same (others written member)
        · rw [touch_info]
          refine ⟨soFar.distinct, fun name => ?_, soFar.untyped⟩
          rw [touched]
          by_cases same : name = update.key.name
          · rw [if_pos same, same]
            exact congrArg Except.ok (kept.trans absent).symm
          · rw [if_neg same]
            exact soFar.same name
      · intro synced
        right
        cases present : find s.info.typedSearchAttributes update.key.name with
        | none => rfl
        | some pair =>
          refine absurd synced (not_synced update.key.name pair ?_ ?_)
          · rw [touched, if_pos rfl]
          · rw [touch_info]
            exact kept.trans present
    -- an earlier update of the same call wrote the name, and touching it keeps the payload
    · have same : t.touch update.key.name = t := by
        unfold Upsert.touch
        split
        · rfl
        next absent => exact absurd absent fresh
      have written : ∃ written ∈ before, written.key.name = update.key.name := by
        by_contra none
        refine fresh ((writes_command writes update.key.name).mpr ⟨rfl, fun w member same => ?_⟩)
        exact none ⟨w, member, same⟩
      rw [same]
      exact ⟨fun _ => soFar, fun _ => Or.inl written⟩

/-! ### The first state -/

/-- Every payload of the server has been written with a typed attribute. -/
def WrittenTyped (env : Env M C D) (server : Dict String Payload) : Prop :=
  ∀ name payload, server.get? name = some payload → ∃ type value, value ≠ .none ∧
    GivenAsList ⟨name, type⟩ value ∧
    encodeTypedSearchAttributeValue env ⟨name, type⟩ value = .ok payload

/-- The info of a workflow that starts. -/
def Replica.start (env : Env M C D) (server : Dict String Payload) :
    Except ConverterError (Replica D) := do
  let untyped ← decodeSearchAttributes env server
  let typed ← decodeTypedSearchAttributes env server
  return ⟨⟨untyped, typed⟩, server⟩

theorem start_agrees (reads : ReadsBack env) {server : Dict String Payload}
    (written : WrittenTyped env server) :
    ∃ s, Replica.start env server = .ok s ∧ Agrees env s.server s.info := by
  have each (name : String) : ∃ pair, serverPair env server name = .ok pair := by
    unfold serverPair
    cases found : server.get? name with
    | none => exact ⟨none, rfl⟩
    | some payload =>
      obtain ⟨type, value, isValue, -, encoded⟩ := written name payload found
      exact ⟨_, (encoded_decodes (reads.value _) isValue encoded).1⟩
  obtain ⟨pairs, typed, distinct, members⟩ := decodeTypedSearchAttributes_spec server each
  obtain ⟨lists, untyped⟩ := @convertEntries_exists _ _ _ (decodeUntyped env) server
    fun name payload found => by
      obtain ⟨type, value, isValue, -, encoded⟩ := written name payload found
      exact ⟨_, encoded_untyped (reads.value _) isValue encoded⟩
  obtain ⟨found, -⟩ := convertEntries_ok untyped
  refine ⟨⟨⟨lists, pairs⟩, server⟩, ?_, distinct, fun name => ?_, fun pair member => ?_⟩
  · have untyped : decodeSearchAttributes env server = .ok lists := untyped
    simp only [Replica.start, untyped, typed, bind, Except.bind]
    rfl
  · obtain ⟨pair?, atName⟩ := each name
    refine atName.trans (congrArg Except.ok ?_)
    cases pair? with
    | none =>
      refine ((find_eq_none pairs).mpr fun member => ?_).symm
      obtain ⟨pair, inside, named⟩ := List.mem_map.mp member
      have isPair := (members pair).mp inside
      rw [named, atName] at isPair
      cases isPair
    | some pair =>
      -- a pair is found by its own name, under which it was decoded
      have named : pair.key.name = name := by
        unfold serverPair at atName
        split at atName
        · cases atName
        · exact decodeTyped_name atName
      refine ((find_eq_some distinct).mpr ⟨(members pair).mpr ?_, named⟩).symm
      rw [named]
      exact atName
  · have isPair := (members pair).mp member
    unfold serverPair at isPair
    cases atName : server.get? pair.key.name with
    | none =>
      rw [atName] at isPair
      cases isPair
    | some payload =>
      rw [atName] at isPair
      obtain ⟨type, value, isValue, -, encoded⟩ := written pair.key.name payload atName
      have same := (encoded_decodes (reads.value _) isValue encoded).1
      obtain ⟨vals, decoded, held⟩ := found pair.key.name payload atName
      rw [encoded_untyped (reads.value _) isValue encoded] at decoded
      cases decoded
      have value' : pair.value = value := by
        have equal := isPair.symm.trans same
        simp only [Except.ok.injEq, Option.some.injEq] at equal
        exact congrArg SearchAttributePair.value equal
      rw [value']
      exact held

/-- **Local and server search attributes agree**: in every run of typed calls from a
    server map of typed attributes, as long as the calls that raise do so safely,
    the views are in step with the server; and a call leaves them in step exactly
    if it raises safely, if at all. -/
theorem attributes_agree (env : Env M C D) (reads : ReadsBack env) {server : Dict String Payload}
    (written : WrittenTyped env server) :
    ∃ start, Replica.start env server = .ok start ∧ ∀ s,
      Reaches (Replica.upsert env)
        (fun s updates => GivenAsLists updates ∧ FailsSafely env s.info updates) start s →
      Synced env s.server s.info ∧ ∀ updates s', GivenAsLists updates →
        s.upsert env updates = some s' →
        (Synced env s'.server s'.info ↔ FailsSafely env s.info updates) := by
  obtain ⟨start, started, agrees⟩ := start_agrees reads written
  refine ⟨start, started, fun s run => ?_⟩
  have agrees : Agrees env s.server s.info := by
    refine run.invariant (fun s => Agrees env s.server s.info) agrees ?_
    exact fun agrees meets called => (call_agrees reads agrees meets.1 called).1 meets.2
  refine ⟨agrees.synced, fun updates s' given called => ?_⟩
  obtain ⟨safely, synced⟩ := call_agrees reads agrees given called
  exact ⟨synced, fun safe => (safely safe).synced⟩

/-! ### Examples -/

/-- The bits of 0.5. -/
def half : Converter.TypedJson.PyFloat := 0x3fe0000000000000

/-- JSON text is given for two values, and dates by their ISO text. -/
def sampleEnv : Env Empty Empty String where
  libraries := {
    fullName := fun m => m.elim
    className := fun m => m.elim
    dumps := fun
      | .float f => if f = half then .ok (encode "0.5") else .error (.other "not given")
      | .str s =>
        if s = "keyword1" then .ok (encode "\"keyword1\"") else .error (.other "not given")
      | _ => .error (.other "not given")
    loads := fun data =>
      if data = encode "0.5" then some (.float half)
      else if data = encode "\"keyword1\"" then some (.str "keyword1")
      else none
    types := Converter.TypedJson.nested
    getSymbol := fun _ => none
    messageToJson := fun m => m.elim
    parse := fun cls => cls.elim
    serializeToString := fun m => m.elim
    parseFromString := fun cls => cls.elim }
  isoformat := id
  parse := some
  hasTimezone := fun text => text.endsWith "+00:00"
  text := fun _ => ""
  typeName := fun _ => ""

theorem sampleEnv_readsBack : ReadsBack sampleEnv where
  scalar := by
    intro v data scalar dumped
    cases v with
    | float f =>
      simp only [sampleEnv, Converter.TypedJson.Value.toJson] at dumped
      split at dumped
      next same =>
        cases dumped
        exact ⟨.float half, rfl, by rw [same]; rfl⟩
      next => cases dumped
    | str s =>
      simp only [sampleEnv, Converter.TypedJson.Value.toJson] at dumped
      split at dumped
      next same =>
        cases dumped
        exact ⟨.str "keyword1", rfl, by rw [same]; rfl⟩
      next => cases dumped
    | bool | int => cases dumped
    | none | bytes | list | tuple | set | deque | dict | dataclass | intEnum | strEnum | uuid =>
      exact scalar.elim
  strings := by
    intro texts data dumped
    cases dumped
  date := fun _ => rfl

/-- A server with one attribute of type Double. -/
def sampleServer : Dict String Payload :=
  ⟨[("double", {
    metadata := Dict.set (Dict.set Dict.empty "encoding" (encode "json/plain")) "type"
      (encode "Double")
    data := encode "0.5" })], by simp⟩

/-- The attributes of a workflow that starts there. -/
def sampleStart : Replica String where
  info := ⟨⟨[("double", [.float half])], by simp⟩, [⟨⟨"double", .double⟩, .float half⟩]⟩
  server := sampleServer

theorem sampleServer_start : Replica.start sampleEnv sampleServer = .ok sampleStart := by
  have pairs : decodePairs sampleEnv sampleServer.entries =
      .ok [⟨⟨"double", .double⟩, .float half⟩] := rfl
  have typed : decodeTypedSearchAttributes sampleEnv sampleServer =
      .ok [⟨⟨"double", .double⟩, .float half⟩] := by
    simp only [decodeTypedSearchAttributes, pairs, bind, Except.bind, sortedByName,
      List.mergeSort_singleton]
    rfl
  have untyped : decodeSearchAttributes sampleEnv sampleServer =
      .ok sampleStart.info.searchAttributes := rfl
  simp only [Replica.start, untyped, typed]
  rfl

theorem sampleServer_written : WrittenTyped sampleEnv sampleServer := by
  intro name payload found
  have named := Dict.mem_of_lookup found
  simp only [sampleServer, List.mem_singleton, Prod.mk.injEq] at named
  obtain ⟨rfl, rfl⟩ := named
  exact ⟨.double, .float half, by simp, (fun isList => by cases isList), rfl⟩

/-- A call that succeeds. -/
def keywordUpdate : SearchAttributeUpdate String := ⟨⟨"keyword", .keyword⟩, .str "keyword1"⟩

theorem attributes_agree_sample :
    ∃ start s, Replica.start sampleEnv sampleServer = .ok start ∧
      start.upsert sampleEnv [keywordUpdate] = some s ∧
      s.info.typedSearchAttributes =
        [⟨⟨"double", .double⟩, .float half⟩, ⟨⟨"keyword", .keyword⟩, .str "keyword1"⟩] ∧
      Synced sampleEnv s.server s.info := by
  obtain ⟨start, started, synced⟩ :=
    attributes_agree sampleEnv sampleEnv_readsBack sampleServer_written
  rw [sampleServer_start] at started
  cases started
  have given : GivenAsLists [keywordUpdate] :=
    List.forall_mem_singleton.mpr fun isList => by cases isList
  have safely : FailsSafely sampleEnv sampleStart.info [keywordUpdate] := by
    intro update found
    cases found
  refine ⟨sampleStart, _, sampleServer_start, rfl, rfl, ?_⟩
  exact ((synced sampleStart .init).2 [keywordUpdate] _ given rfl).mpr safely

/-- An integer does not suit a key of type Double: the call raises, and after the
    next call the attribute is in the info and not on the server. -/
theorem failed_call_diverges :
    ∃ start s s', Replica.start sampleEnv sampleServer = .ok start ∧
      start.upsert sampleEnv [⟨⟨"double", .double⟩, .int 1⟩] = some s ∧
      s.upsert sampleEnv [keywordUpdate] = some s' ∧
      (upsertSearchAttributes sampleEnv s.info (.typed [keywordUpdate])).2 = none ∧
      find s'.info.typedSearchAttributes "double" = some ⟨⟨"double", .double⟩, .float half⟩ ∧
      ¬Synced sampleEnv s'.server s'.info := by
  refine ⟨sampleStart, _, _, sampleServer_start, rfl, rfl, rfl, rfl, ?_⟩
  exact not_synced "double" _ rfl rfl

end TemporalSdk.SearchAttributes
