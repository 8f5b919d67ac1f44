import TemporalSdk.Properties.UntypedUpserts
import TemporalSdk.Workflow.TypedSearchAttributes

/-!
# Attributes and their payloads

## Main results

- `membership_agrees_iff`: `key in attrs` agrees with `attrs[key]` and `attrs.get(key)`
  exactly if the value stored under the key, if there is one, is true for Python:
  `zero_not_contained`.
- `collection_round_trip`: a collection is read back from its message, and so are
  the untyped lists of its values.
- `encode_values_iff`: an untyped list is accepted as it should be, unless it mixes
  dates with elements of one other type. A date is converted before the check and
  is left out of it: `date_and_text_accepted`.

## Proof strategy

Names are distinct, so a lookup by key finds the pair that is there. The payload
under a name is decoded alone, and sorting makes the order in which a message
iterates irrelevant. The loop over a list is followed from the first element that
is no date.
-/

namespace TemporalSdk.SearchAttributes

open Converter (Bytes ConverterError encode)
open Converter.InPlace (Payload)
open Converter.TypedJson (PyFloat Value)

variable {M C D : Type}

/-! ### Lookup -/

namespace TypedSearchAttributes

variable (attrs : TypedSearchAttributes D) (key : SearchAttributeKey)

/-- The accessors agree: a key is in the collection exactly if `attrs[key]` does not
    raise, and then its value is what is stored. -/
def MembershipAgrees : Prop :=
  (attrs.contains key = true ↔ ∃ value, attrs.getitem key = .ok value) ∧
  ∀ pair ∈ attrs.searchAttributes, pair.key = key → pair.value ≠ .none →
    attrs.contains key = true ∧ attrs.getitem key = .ok pair.value ∧
      ∀ default, attrs.get key default = pair.value

/-- The constructor accepts pairs of different names, and sorts them. -/
theorem init_eq_ok {pairs : List (SearchAttributePair D)} {attrs : TypedSearchAttributes D} :
    init pairs = .ok attrs ↔ (names pairs).Nodup ∧ attrs.searchAttributes = sortedByName pairs := by
  obtain ⟨listed, distinct⟩ := attrs
  have same : (names (sortedByName pairs)).Nodup ↔ (names pairs).Nodup :=
    ((List.mergeSort_perm pairs _).map _).nodup_iff
  unfold init
  split
  next name again =>
    constructor
    · intro accepted
      cases accepted
    · rintro ⟨distinct, -⟩
      rw [duplicate_none (nodup_sortedByName distinct)] at again
      cases again
  next none =>
    constructor
    · intro accepted
      cases accepted
      exact ⟨same.mp distinct, rfl⟩
    · rintro ⟨-, sorted⟩
      dsimp only at sorted
      subst sorted
      rfl

variable {attrs key}

/-- No other pair has the key. -/
theorem stored_of_mem {pair : SearchAttributePair D} (member : pair ∈ attrs.searchAttributes)
    (same : pair.key = key) : attrs.stored key = some pair.value := by
  unfold stored
  cases found : attrs.searchAttributes.find? fun pair => pair.key = key with
  | none =>
    have absent := List.find?_eq_none.mp found pair member
    simp [same] at absent
  | some first =>
    have isKey : first.key = key := by simpa using List.find?_some found
    have names : first.key.name = pair.key.name := by rw [isKey, same]
    have equal := List.inj_on_of_nodup_map attrs.distinct (List.mem_of_find?_eq_some found)
      member names
    rw [equal]
    rfl

theorem getitem_of_mem {pair : SearchAttributePair D} (member : pair ∈ attrs.searchAttributes)
    (same : pair.key = key) (isValue : pair.value ≠ .none) :
    attrs.getitem key = .ok pair.value := by
  unfold getitem
  rw [stored_of_mem member same]
  cases value : pair.value with
  | none => exact absurd value isValue
  | bool | int | float | str | datetime | list | other => rfl

/-- What `attrs[key]` returns is stored, and is not `None`. -/
theorem mem_of_getitem {value : AttributeValue D} (found : attrs.getitem key = .ok value) :
    ∃ pair ∈ attrs.searchAttributes, pair.key = key ∧ pair.value = value ∧ value ≠ .none := by
  unfold getitem at found
  split at found
  next => cases found
  next => cases found
  next ret isValue stored =>
    cases found
    obtain ⟨pair, first, rfl⟩ := Option.map_eq_some_iff.mp stored
    exact ⟨pair, List.mem_of_find?_eq_some first, by simpa using List.find?_some first, rfl, isValue⟩

theorem contains_iff : attrs.contains key = true ↔
    ∃ pair ∈ attrs.searchAttributes, pair.key = key ∧ isTrue pair.value = true := by
  simp [contains]

theorem isValue_of_isTrue {value : AttributeValue D} (true : isTrue value = true) :
    value ≠ .none := by
  rintro rfl
  cases true

/-- The membership test asks for the truth of the value that is stored. -/
theorem membership_agrees_iff (attrs : TypedSearchAttributes D) (key : SearchAttributeKey) :
    attrs.MembershipAgrees key ↔ ∀ pair ∈ attrs.searchAttributes, pair.key = key →
      pair.value ≠ .none → isTrue pair.value = true := by
  constructor
  · rintro ⟨-, values⟩ pair member same isValue
    obtain ⟨contained, -, -⟩ := values pair member same isValue
    obtain ⟨other, inside, same', true⟩ := contains_iff.mp contained
    -- the pair that makes it true is the only one of the key
    have equal := (stored_of_mem inside same').symm.trans (stored_of_mem member same)
    rwa [Option.some.inj equal] at true
  · intro values
    have present {pair : SearchAttributePair D} (member : pair ∈ attrs.searchAttributes)
        (same : pair.key = key) (isValue : pair.value ≠ .none) : attrs.contains key = true :=
      contains_iff.mpr ⟨pair, member, same, values pair member same isValue⟩
    refine ⟨⟨fun contained => ?_, fun found => ?_⟩, fun pair member same isValue => ?_⟩
    · obtain ⟨pair, member, same, true⟩ := contains_iff.mp contained
      exact ⟨pair.value, getitem_of_mem member same (isValue_of_isTrue true)⟩
    · obtain ⟨value, found⟩ := found
      obtain ⟨pair, member, same, rfl, isValue⟩ := mem_of_getitem found
      exact present member same isValue
    · have found := getitem_of_mem member same isValue
      refine ⟨present member same isValue, found, fun default => ?_⟩
      unfold get
      rw [found]

/-- The integer 0 under the name "int". -/
def zero : TypedSearchAttributes String := ⟨[⟨⟨"int", .int⟩, .int 0⟩], by decide⟩

/-- It is found, but said not to be there. -/
theorem zero_not_contained :
    TypedSearchAttributes.init zero.searchAttributes = .ok zero ∧
    zero.contains ⟨"int", .int⟩ = false ∧ zero.getitem ⟨"int", .int⟩ = .ok (.int 0) ∧
    ¬zero.MembershipAgrees ⟨"int", .int⟩ := by
  refine ⟨?_, rfl, rfl, fun agrees => ?_⟩
  · exact init_eq_ok.mpr ⟨by decide, (List.mergeSort_singleton _).symm⟩
  · have contained := agrees.1.mpr ⟨.int 0, rfl⟩
    cases contained

end TypedSearchAttributes

/-! ### Round trip of a collection -/

/-- The value suits its key, and a keyword list has strings only. -/
def Matches (pair : GivenPair D) : Prop :=
  isInstance pair.asList.value pair.asList.key.indexedValueType = true ∧
  ∀ items, pair.asList.value = .list items → ∃ texts : List String, items = texts.map .str

variable {env : Env M C D}

/-- JSON and ISO text of the value round-trip. -/
structure TextRoundTrips (env : Env M C D) (value : AttributeValue D) : Prop extends
    ReadsValue env value where
  writes : ∀ plain, plainValue env value = .ok plain →
    ∃ data, env.libraries.dumps plain.toJson = .ok data

/-- A value that suits its key has a payload. -/
theorem suitable_encodes {key : SearchAttributeKey} {value : AttributeValue D}
    (trips : TextRoundTrips env value) (suits : isInstance value key.indexedValueType = true)
    (strs : ∀ items, value = .list items → ∃ texts : List String, items = texts.map .str) :
    ∃ payload, encodeTypedSearchAttributeValue env key value = .ok payload := by
  cases value with
  | none | other =>
    -- no type has them as values
    revert suits
    cases key.indexedValueType <;> exact fun suits => by cases suits
  | bool | int | float | str | datetime =>
    obtain ⟨data, dumped⟩ := trips.writes _ rfl
    exact value_encodes (by simp) suits rfl dumped rfl
  | list items =>
    obtain ⟨texts, rfl⟩ := strs items rfl
    have plain : plainValue env (.list (texts.map .str)) = .ok (.list (texts.map .str)) := by
      simp only [plainValue, strings_map]
    obtain ⟨data, dumped⟩ := trips.writes _ plain
    exact value_encodes (by simp) suits plain dumped rfl

/-- JSON has no tuples: a pair has the payload that its value has as a list. -/
theorem given_encodes {pair : GivenPair D} (trips : TextRoundTrips env pair.asList.value)
    (suits : Matches pair) :
    ∃ payload, encodeGivenPair env pair = .ok payload ∧
      encodeTypedSearchAttributeValue env pair.asList.key pair.asList.value = .ok payload := by
  obtain ⟨payload, encoded⟩ := suitable_encodes trips suits.1 suits.2
  refine ⟨payload, ?_, encoded⟩
  cases pair with
  | plain pair => exact encoded
  | keywordTuple name items =>
    obtain ⟨texts, rfl⟩ := suits.2 items rfl
    have plain : plainValue env (.list (texts.map .str)) = .ok (.list (texts.map .str)) := by
      simp only [plainValue, strings_map]
    obtain ⟨data, dumped⟩ := trips.writes _ plain
    have list : toPayload env (.list (texts.map .str)) = _ := toPayload_plain dumped rfl
    have tuple : toPayload env (.tuple (texts.map .str)) = _ := toPayload_plain dumped rfl
    obtain ⟨-, plain', same, made⟩ := encoded_isInstance (by simp [GivenPair.asList]) encoded
    cases plain.symm.trans same
    rw [encodeGivenPair, strings_map]
    dsimp only
    rw [← made]
    simp only [toTypedPayload, list, tuple]
    rfl

/-- The message has the payload of each pair under its name, and nothing else. -/
theorem encodeSearchAttributes_spec {given : List (GivenPair D)}
    (distinct : (names (given.map GivenPair.asList)).Nodup)
    (encodes : ∀ pair ∈ given, ∃ payload, encodeGivenPair env pair = .ok payload)
    (start : Dict String Payload) :
    ∃ api, encodeSearchAttributes env given start = .ok api ∧
      (∀ name, name ∉ names (given.map GivenPair.asList) → api.get? name = start.get? name) ∧
      ∀ pair ∈ given, ∀ payload, encodeGivenPair env pair = .ok payload →
        api.get? pair.asList.key.name = some payload := by
  induction given generalizing start with
  | nil => exact ⟨start, rfl, fun _ _ => rfl, by simp⟩
  | cons pair rest ih =>
    obtain ⟨absent, distinct⟩ := List.nodup_cons.mp distinct
    obtain ⟨⟨payload, here⟩, others⟩ := List.forall_mem_cons.mp encodes
    obtain ⟨api, encoded, kept, put⟩ := ih distinct others (start.set pair.asList.key.name payload)
    refine ⟨api, ?_, fun name outside => ?_, ?_⟩
    · simp only [encodeSearchAttributes, here, bind, Except.bind, encoded]
    · obtain ⟨other, outside⟩ := not_or.mp (List.mem_cons.not.mp outside)
      rw [kept name outside, Dict.get?_set, if_neg other]
    · refine List.forall_mem_cons.mpr ⟨fun payload' here' => ?_, put⟩
      -- no later pair has the name
      rw [kept _ absent, Dict.get?_set, if_pos rfl, ← Except.ok.inj (here.symm.trans here')]

/-- The untyped map has the values of each entry that is decoded. -/
theorem decodeSearchAttributes_spec (api : Dict String Payload)
    (view : String → List (AttributeValue D))
    (each : ∀ name payload, api.get? name = some payload →
      decodeUntyped env payload = .ok (view name)) :
    ∃ ret, decodeSearchAttributes env api = .ok ret ∧
      ∀ name, ret.get? name = (api.get? name).map fun _ => view name := by
  obtain ⟨ret, decoded⟩ := @convertEntries_exists _ _ _ (decodeUntyped env) api
    fun name payload present => ⟨_, each name payload present⟩
  obtain ⟨found, missing⟩ := convertEntries_ok decoded
  refine ⟨ret, decoded, fun name => ?_⟩
  cases present : api.get? name with
  | none => exact missing name present
  | some payload =>
    obtain ⟨vals, isVals, held⟩ := found name payload present
    rw [each name payload present] at isVals
    cases isVals
    exact held

/-- A decoded collection is sorted by name. -/
theorem decoded_sorted {api : Dict String Payload} {pairs : List (SearchAttributePair D)}
    (decoded : decodeTypedSearchAttributes env api = .ok pairs) :
    pairs.Pairwise fun a b => a.key.name ≤ b.key.name := by
  obtain ⟨listed, -, decoded⟩ := Converter.bind_eq_ok.mp decoded
  dsimp only at decoded
  split at decoded
  next => cases decoded
  next =>
    cases decoded
    exact sortedByName_sorted listed

/-- Two sorted lists of the same pairs are the same, if names are distinct. -/
theorem eq_of_sorted {l₁ l₂ : List (SearchAttributePair D)} (distinct₁ : (names l₁).Nodup)
    (distinct₂ : (names l₂).Nodup) (sorted₁ : l₁.Pairwise fun a b => a.key.name ≤ b.key.name)
    (sorted₂ : l₂.Pairwise fun a b => a.key.name ≤ b.key.name)
    (members : ∀ pair, pair ∈ l₁ ↔ pair ∈ l₂) : l₁ = l₂ := by
  have perm : l₁.Perm l₂ :=
    (List.perm_ext_iff_of_nodup distinct₁.of_map distinct₂.of_map).mpr members
  refine List.Perm.eq_of_pairwise (fun a b inside₁ inside₂ below above => ?_) sorted₁ sorted₂ perm
  exact List.inj_on_of_nodup_map distinct₂ ((members a).mp inside₁) inside₂
    (le_antisymm below above)

/-- The attributes of a collection are read back from its message, whatever the
    order in which the message iterates, and so are their untyped lists. -/
theorem collection_round_trip (env : Env M C D) (pairs : List (SearchAttributePair D))
    (attrs : TypedSearchAttributes D) (made : TypedSearchAttributes.init pairs = .ok attrs)
    (given : List (GivenPair D)) (same : given.map GivenPair.asList = attrs.searchAttributes)
    (suits : ∀ pair ∈ given, Matches pair)
    (trips : ∀ pair ∈ attrs.searchAttributes, TextRoundTrips env pair.value) :
    ∃ indexedFields, encodeSearchAttributes env given Dict.empty = .ok indexedFields ∧
      ∀ api : Dict String Payload, api.entries.Perm indexedFields.entries →
        decodeTypedSearchAttributes env api = .ok attrs.searchAttributes ∧
        ∃ ret, decodeSearchAttributes env api = .ok ret ∧
          ∀ name, ret.get? name =
            (find attrs.searchAttributes name).map fun pair => untypedView pair.value := by
  have distinct : (names (given.map GivenPair.asList)).Nodup := same ▸ attrs.distinct
  have encodes (pair : GivenPair D) (member : pair ∈ given) :=
    given_encodes (trips pair.asList (same ▸ List.mem_map_of_mem member)) (suits pair member)
  obtain ⟨indexedFields, encoded, kept, put⟩ := encodeSearchAttributes_spec distinct
    (fun pair member => (encodes pair member).imp fun _ both => both.1) Dict.empty
  refine ⟨indexedFields, encoded, fun api perm => ?_⟩
  have sorted : attrs.searchAttributes.Pairwise fun a b => a.key.name ≤ b.key.name := by
    rw [(TypedSearchAttributes.init_eq_ok.mp made).2]
    exact sortedByName_sorted pairs
  -- under each name there is the payload of its pair, or nothing
  have fields (name : String) : (find attrs.searchAttributes name = none ∧ api.get? name = none) ∨
      ∃ pair payload, find attrs.searchAttributes name = some pair ∧ pair.key.name = name ∧
        pair.value ≠ .none ∧ ReadsValue env pair.value ∧
        encodeTypedSearchAttributeValue env pair.key pair.value = .ok payload ∧
        api.get? name = some payload := by
    rw [Dict.get?_of_perm perm]
    cases found : find attrs.searchAttributes name with
    | none =>
      have outside := (find_eq_none _).mp found
      rw [← same] at outside
      exact Or.inl ⟨rfl, kept name outside⟩
    | some pair =>
      obtain ⟨member, named⟩ := (find_eq_some attrs.distinct).mp found
      have reads := (trips pair member).toReadsValue
      rw [← same] at member
      obtain ⟨source, inside, rfl⟩ := List.mem_map.mp member
      obtain ⟨payload, here, typed⟩ := encodes source inside
      have present := named ▸ put source inside payload here
      refine Or.inr ⟨_, payload, rfl, named, ?_, reads, typed, present⟩
      -- what suits its key is not `None`
      intro unset
      have suits := (suits source inside).1
      rw [unset] at suits
      cases type : source.asList.key.indexedValueType <;> rw [type] at suits <;> cases suits
  constructor
  · -- the pairs read back are those of the collection, in the one order by name
    have typed (name : String) :
        serverPair env api name = .ok (find attrs.searchAttributes name) := by
      unfold serverPair
      rcases fields name with ⟨absent, missing⟩ |
        ⟨pair, payload, found, rfl, isValue, reads, encoded, present⟩
      · rw [missing, absent]
      · rw [present, found]
        exact (encoded_decodes reads isValue encoded).1
    obtain ⟨decoded, isDecoded, names, members⟩ :=
      decodeTypedSearchAttributes_spec api fun name => ⟨_, typed name⟩
    have equal : decoded = attrs.searchAttributes := by
      refine eq_of_sorted names attrs.distinct (decoded_sorted isDecoded) sorted fun pair => ?_
      rw [members, typed, Except.ok.injEq, find_eq_some attrs.distinct]
      simp
    rw [isDecoded, equal]
  · obtain ⟨ret, decoded, found⟩ := decodeSearchAttributes_spec api
      (fun name => ((find attrs.searchAttributes name).map
        fun pair => untypedView pair.value).getD [])
      fun name here present => by
        rcases fields name with ⟨-, missing⟩ |
          ⟨pair, payload, found, -, isValue, reads, encoded, here'⟩
        · cases missing.symm.trans present
        · cases here'.symm.trans present
          rw [found]
          exact encoded_untyped reads isValue encoded
    refine ⟨ret, decoded, fun name => ?_⟩
    rw [found]
    rcases fields name with ⟨absent, missing⟩ | ⟨pair, payload, found, -, -, -, -, present⟩
    · rw [missing, absent]
      rfl
    · rw [present, found]
      rfl

/-- A date, and keywords as a tuple. -/
def sampleGiven : List (GivenPair String) :=
  [.plain ⟨⟨"date", .datetime⟩, .datetime "2020-01-01T00:00:00+00:00"⟩,
    .keywordTuple "keywords" [.str "a", .str "b"]]

/-- `json.loads` of the texts of its values. -/
def readingEnv : Env Empty Empty String :=
  { isoDates with
    hasTimezone := fun text => text = "2020-01-01T00:00:00+00:00"
    libraries := { isoDates.libraries with
      loads := fun data =>
        if data = encode "\"2020-01-01T00:00:00+00:00\"" then
          some (.str "2020-01-01T00:00:00+00:00")
        else if data = encode "[\"a\",\"b\"]" then some (.array [.str "a", .str "b"])
        else none } }

theorem collection_round_trip_sample :
    ∃ attrs indexedFields,
      TypedSearchAttributes.init (sampleGiven.map GivenPair.asList) = .ok attrs ∧
      encodeSearchAttributes readingEnv sampleGiven Dict.empty = .ok indexedFields ∧
      decodeTypedSearchAttributes readingEnv indexedFields = .ok
        [⟨⟨"date", .datetime⟩, .datetime "2020-01-01T00:00:00+00:00"⟩,
          ⟨⟨"keywords", .keywordList⟩, .list [.str "a", .str "b"]⟩] := by
  have sorted : sortedByName (sampleGiven.map GivenPair.asList) =
      sampleGiven.map GivenPair.asList := by
    apply List.mergeSort_of_pairwise
    decide
  have made : TypedSearchAttributes.init (sampleGiven.map GivenPair.asList) =
      .ok ⟨sampleGiven.map GivenPair.asList, by decide⟩ :=
    TypedSearchAttributes.init_eq_ok.mpr ⟨by decide, sorted.symm⟩
  obtain ⟨indexedFields, encoded, read⟩ := collection_round_trip readingEnv _ _ made sampleGiven rfl
    (by
      intro pair member
      simp only [sampleGiven, List.mem_cons, List.not_mem_nil, or_false] at member
      rcases member with rfl | rfl
      · exact ⟨rfl, fun items same => by cases same⟩
      · exact ⟨rfl, fun items same => ⟨["a", "b"], by cases same; rfl⟩⟩)
    (by
      intro pair member
      simp only [sampleGiven, List.map_cons, List.map_nil, List.mem_cons, List.not_mem_nil,
        or_false] at member
      rcases member with rfl | rfl
      · exact {
          text := by
            rintro plain data same - dumped
            cases same
            cases dumped
            exact ⟨.str "2020-01-01T00:00:00+00:00", rfl, rfl⟩
          date := by
            rintro d same
            cases same
            rfl
          writes := by
            rintro plain same
            exact ⟨_, rfl⟩ }
      · exact {
          text := by
            rintro plain data same - dumped
            cases same
            cases dumped
            exact ⟨.array [.str "a", .str "b"], rfl, rfl⟩
          date := by
            rintro d same
            cases same
          writes := by
            rintro plain same
            exact ⟨_, rfl⟩ })
  exact ⟨_, indexedFields, made, encoded, (read indexedFields (List.Perm.refl _)).1⟩

/-! ### Untyped lists -/

variable (env) in
/-- The type of an element that a list may have: a date needs a timezone. -/
def elementType : AttributeValue D → Option SearchAttributeIndexedValueType
  | .str _ => some .keyword
  | .int _ => some .int
  | .float _ => some .double
  | .bool _ => some .bool
  | .datetime d => if env.hasTimezone d then some .datetime else none
  | .none | .list _ | .other => none

variable (env) in
/-- What JSON has for an element. -/
def jsonValue : AttributeValue D → Value
  | .str s => .str s
  | .int i => .int i
  | .float f => .float f
  | .bool b => .bool b
  | .datetime d => .str (env.isoformat d)
  | .none | .list _ | .other => .none

/-- All elements are of one of the five types. -/
def OneType (env : Env M C D) (vals : List (AttributeValue D)) : Prop :=
  ∃ type, ∀ v ∈ vals, elementType env v = some type

/-- The check lets these pass: elements of one type other than dates, and dates. -/
def Passes (env : Env M C D) (vals : List (AttributeValue D)) : Prop :=
  ∃ type, type ≠ .datetime ∧
    ∀ v ∈ vals, elementType env v = some .datetime ∨ elementType env v = some type

/-- Dates with a timezone next to elements of one other type. -/
def MixesDates (env : Env M C D) (vals : List (AttributeValue D)) : Prop :=
  Passes env vals ∧ (∃ v ∈ vals, elementType env v = some .datetime) ∧
    ∃ v ∈ vals, elementType env v ≠ some .datetime

inductive IsTypeOrValueError : ConverterError → Prop
  | typeError (message : String) : IsTypeOrValueError (.typeError message)
  | valueError : IsTypeOrValueError
      (.other "Timezone must be present on all search attribute dates")

/-- A round of the loop: a date leaves the type as it is. -/
theorem safeValue_cases (before : Option SearchAttributeIndexedValueType) (v : AttributeValue D) :
    (elementType env v = some .datetime ∧ safeValue env before v = .ok (jsonValue env v, before)) ∨
    (∃ type, type ≠ .datetime ∧ elementType env v = some type ∧
      safeValue env before v = sameType before type (jsonValue env v)) ∨
    (elementType env v = none ∧
      ∃ error, IsTypeOrValueError error ∧ safeValue env before v = .error error) := by
  cases v with
  | str s => exact Or.inr (Or.inl ⟨.keyword, by decide, rfl, rfl⟩)
  | int i => exact Or.inr (Or.inl ⟨.int, by decide, rfl, rfl⟩)
  | float f => exact Or.inr (Or.inl ⟨.double, by decide, rfl, rfl⟩)
  | bool b => exact Or.inr (Or.inl ⟨.bool, by decide, rfl, rfl⟩)
  | datetime d =>
    simp only [elementType, safeValue]
    cases env.hasTimezone d with
    | true => exact Or.inl ⟨rfl, rfl⟩
    | false => exact Or.inr (Or.inr ⟨rfl, _, .valueError, rfl⟩)
  | none | list | other => exact Or.inr (Or.inr ⟨rfl, _, .typeError _, rfl⟩)

theorem sameType_ok {before : Option SearchAttributeIndexedValueType}
    {type : SearchAttributeIndexedValueType} (v : Value)
    (same : ∀ b, before = some b → b = type) : sameType before type v = .ok (v, some type) := by
  cases before with
  | none => rfl
  | some b => simp [sameType, same b rfl]

theorem sameType_error {before type : SearchAttributeIndexedValueType} (v : Value)
    (differs : before ≠ type) : sameType (some before) type v =
      .error (.typeError "Search attribute values must have the same type for the same key") := by
  simp [sameType, differs]

/-- From a type on, the elements that follow are dates or of that type. -/
theorem safeValues_typed (before : SearchAttributeIndexedValueType)
    (vals : List (AttributeValue D)) :
    ((∀ v ∈ vals, elementType env v = some .datetime ∨ elementType env v = some before) ∧
      safeValues env (some before) vals = .ok (vals.map (jsonValue env))) ∨
    ((∃ v ∈ vals, elementType env v ≠ some .datetime ∧ elementType env v ≠ some before) ∧
      ∃ error, IsTypeOrValueError error ∧ safeValues env (some before) vals = .error error) := by
  induction vals with
  | nil => exact Or.inl ⟨by simp, rfl⟩
  | cons v rest ih =>
    rw [safeValues]
    rcases @safeValue_cases _ _ _ env (some before) v with
      ⟨date, passes⟩ | ⟨type, typed, here, checked⟩ | ⟨outside, error, known, raises⟩
    -- a date is turned into a string and settles no type
    · rw [passes]
      rcases ih with ⟨all, done⟩ | ⟨⟨w, member, wrong⟩, error, known, raises⟩
      · refine Or.inl ⟨List.forall_mem_cons.mpr ⟨Or.inl date, all⟩, ?_⟩
        simp [bind, Except.bind, done, pure, Except.pure]
      · refine Or.inr ⟨⟨w, List.mem_cons_of_mem _ member, wrong⟩, error, known, ?_⟩
        simp [bind, Except.bind, raises]
    · -- an element with a type of its own: the type so far must be it
      by_cases same : before = type
      · subst same
        rw [checked, sameType_ok _ fun b equal => (Option.some.inj equal).symm]
        rcases ih with ⟨all, done⟩ | ⟨⟨w, member, wrong⟩, error, known, raises⟩
        · refine Or.inl ⟨List.forall_mem_cons.mpr ⟨Or.inr here, all⟩, ?_⟩
          simp [bind, Except.bind, done, pure, Except.pure]
        · refine Or.inr ⟨⟨w, List.mem_cons_of_mem _ member, wrong⟩, error, known, ?_⟩
          simp [bind, Except.bind, raises]
      · rw [checked, sameType_error _ same]
        refine Or.inr ⟨⟨v, List.mem_cons_self, ?_⟩, _, .typeError _, rfl⟩
        rw [here]
        exact ⟨fun equal => typed (Option.some.inj equal),
          fun equal => same (Option.some.inj equal).symm⟩
    -- an element of no type of its own ends the loop here
    · rw [raises]
      refine Or.inr ⟨⟨v, List.mem_cons_self, ?_⟩, error, known, rfl⟩
      simp [outside]

variable (env) in
/-- The check as a whole. -/
theorem safeValues_cases (vals : List (AttributeValue D)) :
    (Passes env vals ∧ safeValues env none vals = .ok (vals.map (jsonValue env))) ∨
    (¬Passes env vals ∧
      ∃ error, IsTypeOrValueError error ∧ safeValues env none vals = .error error) := by
  induction vals with
  | nil => exact Or.inl ⟨⟨.int, by decide, by simp⟩, rfl⟩
  | cons v rest ih =>
    rw [safeValues]
    rcases @safeValue_cases _ _ _ env none v with
      ⟨date, passes⟩ | ⟨type, typed, here, checked⟩ | ⟨outside, error, known, raises⟩
    · -- dates at the head fix no type
      rw [passes]
      have same : Passes env (v :: rest) ↔ Passes env rest := by
        unfold Passes
        simp [date]
      rw [same]
      rcases ih with ⟨all, done⟩ | ⟨wrong, error, known, raises⟩
      · exact Or.inl ⟨all, by simp [bind, Except.bind, done, pure, Except.pure]⟩
      · exact Or.inr ⟨wrong, error, known, by simp [bind, Except.bind, raises]⟩
    · rw [checked, sameType_ok _ fun b equal => by cases equal]
      rcases @safeValues_typed _ _ _ env type rest with
        ⟨all, done⟩ | ⟨⟨w, member, noDate, other⟩, error, known, raises⟩
      · refine Or.inl ⟨⟨type, typed, List.forall_mem_cons.mpr ⟨Or.inr here, all⟩⟩, ?_⟩
        simp [bind, Except.bind, done, pure, Except.pure]
      · refine Or.inr ⟨?_, error, known, by simp [bind, Except.bind, raises]⟩
        rintro ⟨type', -, all⟩
        -- the type is that of the first element that is no date
        have first : type = type' := by
          rcases all v List.mem_cons_self with date | same
          · exact absurd (Option.some.inj (here.symm.trans date)) typed
          · exact Option.some.inj (here.symm.trans same)
        rcases all w (List.mem_cons_of_mem _ member) with date | same
        · exact noDate date
        · exact other (first ▸ same)
    · rw [raises]
      refine Or.inr ⟨?_, error, known, rfl⟩
      rintro ⟨type, -, all⟩
      have first := all v List.mem_cons_self
      simp [outside] at first

/-- What passes is of one type, unless it mixes dates with other values. -/
theorem oneType_iff {vals : List (AttributeValue D)} (passes : Passes env vals) :
    OneType env vals ↔ ¬MixesDates env vals := by
  constructor
  · rintro ⟨type, all⟩ ⟨-, ⟨v, member, date⟩, w, member', noDate⟩
    cases Option.some.inj ((all v member).symm.trans date)
    exact noDate (all w member')
  · intro unmixed
    obtain ⟨type, typed, all⟩ := passes
    by_cases date : ∃ v ∈ vals, elementType env v = some .datetime
    · refine ⟨.datetime, fun w member => ?_⟩
      by_contra noDate
      exact unmixed ⟨⟨type, typed, all⟩, date, w, member, noDate⟩
    · refine ⟨type, fun v member => ?_⟩
      rcases all v member with isDate | same
      · exact absurd ⟨v, member, isDate⟩ date
      · exact same

theorem OneType.passes {vals : List (AttributeValue D)} (one : OneType env vals) :
    Passes env vals := by
  obtain ⟨type, all⟩ := one
  by_cases date : type = .datetime
  · subst date
    exact ⟨.int, by decide, fun v member => Or.inl (all v member)⟩
  · exact ⟨type, date, fun v member => Or.inr (all v member)⟩

/-- JSON text of the converted list round-trips. -/
def ListText (env : Env M C D) (vals : List (AttributeValue D)) : Prop :=
  ∃ data, env.libraries.dumps (Value.list (vals.map (jsonValue env))).toJson = .ok data ∧
    ∃ obj, env.libraries.loads data = some obj ∧ obj.toValue = .list (vals.map (jsonValue env))

/-- Lists of one type, and no others, are accepted; what is raised for others; and
    what the payload of a list is read as. -/
structure ListKept (env : Env M C D) (vals : List (AttributeValue D)) : Prop where
  accepts : (∃ payload, encodeSearchAttributeValues env vals = .ok payload) ↔ OneType env vals
  raises : ∀ error, encodeSearchAttributeValues env vals = .error error → IsTypeOrValueError error
  reads : ∀ payload, encodeSearchAttributeValues env vals = .ok payload →
    fromPayload env payload = .ok (.list (vals.map (onWire env)))

theorem ofValues_json {vals : List (AttributeValue D)} (passes : Passes env vals) :
    AttributeValue.ofValues (vals.map (jsonValue env)) = vals.map (onWire env) := by
  obtain ⟨type, -, all⟩ := passes
  induction vals with
  | nil => rfl
  | cons v rest ih =>
    obtain ⟨here, all⟩ := List.forall_mem_cons.mp all
    rw [List.map_cons, List.map_cons, AttributeValue.ofValues, ih all]
    cases v with
    | none | list | other => simp [elementType] at here
    | bool | int | float | str | datetime => rfl

/-- A list is kept by the encoder exactly if it does not mix dates with elements of
    one other type. -/
theorem encode_values_iff (env : Env M C D) (vals : List (AttributeValue D))
    (text : ListText env vals) : ListKept env vals ↔ ¬MixesDates env vals := by
  rcases safeValues_cases env vals with ⟨passes, converted⟩ | ⟨stopped, error, known, converted⟩
  · obtain ⟨data, dumped, obj, loaded, same⟩ := text
    have encoded : encodeSearchAttributeValues env vals =
        .ok (Converter.makePayload [("encoding", encode "json/plain")] data) := by
      unfold encodeSearchAttributeValues
      rw [converted]
      exact toPayload_plain dumped rfl
    rw [← oneType_iff passes]
    constructor
    · intro kept
      exact kept.accepts.mp ⟨_, encoded⟩
    · intro one
      refine ⟨⟨fun _ => one, fun _ => ⟨_, encoded⟩⟩, fun error raises => ?_, fun payload made => ?_⟩
      · cases encoded.symm.trans raises
      · cases encoded.symm.trans made
        rw [fromPayload_json _ (by simp [Converter.makePayload]) loaded, same,
          AttributeValue.ofValue, ofValues_json passes]
  -- stopped: nothing is encoded, and nothing was to be kept
  · have encoded : encodeSearchAttributeValues env vals = .error error := by
      unfold encodeSearchAttributeValues
      rw [converted]
      rfl
    constructor
    · intro _ mixed
      exact stopped mixed.1
    · intro _
      refine ⟨⟨?_, fun one => absurd one.passes stopped⟩, fun error' raises => ?_,
        fun payload made => ?_⟩
      · rintro ⟨payload, made⟩
        cases encoded.symm.trans made
      · cases encoded.symm.trans raises
        exact known
      · cases encoded.symm.trans made

theorem encode_values_keywords : ListKept readingEnv [.str "a", .str "b"] := by
  apply (encode_values_iff readingEnv [.str "a", .str "b"] ?_).mpr
  · rintro ⟨-, ⟨v, member, date⟩, -⟩
    simp only [List.mem_cons, List.not_mem_nil, or_false] at member
    rcases member with rfl | rfl <;> cases date
  · exact ⟨_, rfl, .array [.str "a", .str "b"], rfl, rfl⟩

/-- `[datetime(2020, 1, 1, tzinfo=timezone.utc), "foo"]` is accepted. -/
theorem date_and_text_accepted :
    (∃ payload, encodeSearchAttributeValues readingEnv
      [.datetime "2020-01-01T00:00:00+00:00", .str "foo"] = .ok payload) ∧
    ¬ListKept readingEnv [.datetime "2020-01-01T00:00:00+00:00", .str "foo"] := by
  have accepted : ∃ payload, encodeSearchAttributeValues readingEnv
      [.datetime "2020-01-01T00:00:00+00:00", .str "foo"] = .ok payload := ⟨_, rfl⟩
  refine ⟨accepted, fun kept => ?_⟩
  obtain ⟨type, all⟩ := kept.accepts.mp accepted
  have date := all _ List.mem_cons_self
  have text := all _ (List.mem_cons_of_mem _ List.mem_cons_self)
  cases text
  cases date

end TemporalSdk.SearchAttributes
