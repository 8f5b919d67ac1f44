import TemporalSdk.Client.Schedules
import TemporalSdk.Properties.AttributeValues

/-!
# Search attributes of a schedule, read and converted again

## Main results

`IsRead.settled_of_encoded` and `IsRead.encoded_of_settled`: what is read from the
message of typed and untyped attributes can be converted again exactly if they are
`Settled`, and then every name has the same payload (`IsRead.same_payloads`).

## Proof strategy

`Held` says what a message holds under a name, `Listed` what its untyped list is read
as. The lemmas compare the two for each name.
-/

namespace TemporalSdk.Schedules

open Converter (ConverterError bind_eq_ok)
open Converter.InPlace (Payload)
open SearchAttributes (AttributeValue Env GivenPair)

variable {M C D : Type} {env : Env M C D}

/-! ### Maps of payloads -/

/-- The same map, whatever the order of its entries. -/
def SameMap : Option (Dict String Payload) → Option (Dict String Payload) → Prop
  | none, none => True
  | some a, some b => ∀ k, a.get? k = b.get? k
  | _, _ => False

theorem SameMap.getD {a b : Option (Dict String Payload)} (same : SameMap a b) (k : String) :
    (a.getD .empty).get? k = (b.getD .empty).get? k := by
  cases a <;> cases b
  · rfl
  · exact same.elim
  · exact same.elim
  · exact same k

theorem isEmpty_iff {α : Type} {d : Dict String α} :
    d.entries.isEmpty = true ↔ ∀ k, d.get? k = none := by
  constructor
  · intro empty k
    rw [Dict.get?, List.isEmpty_iff.mp empty]
    rfl
  · intro nothing
    by_contra filled
    obtain ⟨entry, member⟩ := List.exists_mem_of_ne_nil d.entries (by simpa using filled)
    cases (nothing entry.1).symm.trans (Dict.lookup_of_mem d.distinct member)

theorem isEmpty_congr {α β : Type} {a : Dict String α} {b : Dict String β}
    (same : ∀ k, a.get? k = none ↔ b.get? k = none) : a.entries.isEmpty = b.entries.isEmpty := by
  rw [Bool.eq_iff_iff, isEmpty_iff, isEmpty_iff]
  exact forall_congr' same

/-! ### Search attributes -/

namespace Attributes

open SearchAttributes

/-- JSON text of the converted list round-trips, if there is any. -/
def ReadsList (env : Env M C D) (vals : List (AttributeValue D)) : Prop :=
  ∀ data, env.libraries.dumps
      (Converter.TypedJson.Value.list (vals.map (jsonValue env))).toJson = .ok data →
    ∃ obj, env.libraries.loads data = some obj ∧ obj.toValue = .list (vals.map (jsonValue env))

/-- Dates next to values that are neither dates nor text. -/
def DatesAmongOthers (vals : List (AttributeValue D)) : Prop :=
  (∃ d, AttributeValue.datetime d ∈ vals) ∧
    ∃ v ∈ vals, (∀ d, v ≠ .datetime d) ∧ ∀ s, v ≠ .str s

theorem jsonValue_onWire (v : AttributeValue D) :
    jsonValue env (onWire env v) = jsonValue env v := by
  cases v <;> rfl

/-- Dates that have come back as text are of one type with text only. -/
theorem passes_onWire {vals : List (AttributeValue D)} (passes : Passes env vals) :
    Passes env (vals.map (onWire env)) ↔ ¬DatesAmongOthers vals := by
  constructor
  -- a date that has become text makes the type of the list `KEYWORD`
  · rintro ⟨type, other, all⟩ ⟨⟨d, isDate⟩, v, member, noDate, noText⟩
    have date := all _ (List.mem_map_of_mem isDate)
    have text : type = .keyword := by
      simpa [onWire, elementType, eq_comm] using date
    subst text
    have typed := all _ (List.mem_map_of_mem member)
    -- so a value that was let pass next to it has to be text as well
    cases v with
    | datetime d => exact noDate d rfl
    | str s => exact noText s rfl
    | none | bool | int | float | list | other => simp [onWire, elementType] at typed
  · intro apart
    obtain ⟨type, other, all⟩ := passes
    by_cases dates : ∃ d, AttributeValue.datetime d ∈ vals
    · refine ⟨.keyword, by decide, fun w inside => Or.inr ?_⟩
      obtain ⟨v, member, rfl⟩ := List.mem_map.mp inside
      cases v with
      | datetime d => rfl
      | str s => rfl
      | none | bool | int | float | list | other =>
        exact absurd ⟨dates, _, member, by simp, by simp⟩ apart
    -- without dates nothing has become text
    · have kept : vals.map (onWire env) = vals := by
        refine (List.map_congr_left fun v member => ?_).trans (List.map_id vals)
        cases v with
        | datetime d => exact absurd ⟨d, member⟩ dates
        | none | bool | int | float | str | list | other => rfl
      rw [kept]
      exact ⟨type, other, all⟩

/-- The encoder gives a list that it lets pass the payload of its converted values. -/
theorem encode_of_passes {vals : List (AttributeValue D)} (passes : Passes env vals) :
    encodeSearchAttributeValues env vals =
      toPayload env (.list (vals.map (jsonValue env))) := by
  rcases safeValues_cases env vals with ⟨-, converted⟩ | ⟨stopped, -⟩
  · unfold encodeSearchAttributeValues
    rw [converted]
    rfl
  · exact absurd passes stopped

theorem passes_of_encode {vals : List (AttributeValue D)} {payload : Payload}
    (encoded : encodeSearchAttributeValues env vals = .ok payload) : Passes env vals := by
  rcases safeValues_cases env vals with ⟨passes, -⟩ | ⟨-, error, -, converted⟩
  · exact passes
  · unfold encodeSearchAttributeValues at encoded
    rw [converted] at encoded
    cases encoded

/-- A payload without a type is no typed attribute. -/
theorem decodeTyped_untyped {payload : Payload} (name : String)
    (untyped : payload.metadata.get? "type" = none) :
    decodeTyped env name payload = .ok none := by
  unfold decodeTyped
  rw [untyped]
  rfl

/-- The payload of an untyped list, read in both ways and converted again. -/
theorem untyped_payload {vals : List (AttributeValue D)} {payload : Payload}
    (reads : ReadsList env vals)
    (encoded : encodeSearchAttributeValues env vals = .ok payload) (name : String) :
    decodeTyped env name payload = .ok none ∧
      decodeUntyped env payload = .ok (vals.map (onWire env)) ∧
      ∀ payload', encodeSearchAttributeValues env (vals.map (onWire env)) = .ok payload' ↔
        payload' = payload ∧ ¬DatesAmongOthers vals := by
  have passes := passes_of_encode encoded
  have made := (encode_of_passes passes).symm.trans encoded
  obtain ⟨data, dumped, rfl⟩ := dumps_of_toPayload made rfl
  obtain ⟨obj, loaded, same⟩ := reads data dumped
  refine ⟨decodeTyped_untyped name rfl, ?_, fun payload' => ?_⟩
  · have read : fromPayload env
        (Converter.makePayload [("encoding", Converter.encode "json/plain")] data) =
        .ok (.list (vals.map (onWire env))) := by
      rw [fromPayload_json _ rfl loaded, same, AttributeValue.ofValue, ofValues_json passes]
    unfold decodeUntyped
    rw [read]
    rfl
  · rw [← passes_onWire passes]
    have texts : (vals.map (onWire env)).map (jsonValue env) = vals.map (jsonValue env) := by
      rw [List.map_map]
      exact List.map_congr_left fun v _ => jsonValue_onWire v
    -- what was read is encoded to the same text, unless a date stands where none may
    constructor
    · intro again
      have passesAgain := passes_of_encode again
      rw [encode_of_passes passesAgain, texts, made] at again
      exact ⟨(Except.ok.inj again).symm, passesAgain⟩
    · rintro ⟨rfl, passesAgain⟩
      rw [encode_of_passes passesAgain, texts, made]

/-- The payload of a typed `None` is read as a list of it, which cannot be converted. -/
theorem null_payload {payload : Payload} (encoded : toPayload env .none = .ok payload)
    (name : String) :
    decodeTyped env name payload = .ok none ∧ decodeUntyped env payload = .ok [.none] ∧
      ∀ payload', encodeSearchAttributeValues env [.none] ≠ .ok payload' := by
  cases toPayload_none.symm.trans encoded
  refine ⟨decodeTyped_untyped name rfl, rfl, fun payload' again => ?_⟩
  cases again

/-- A pair has the payload that its value has as a list. -/
theorem encodeGivenPair_ok {pair : GivenPair D} {payload : Payload}
    (encoded : encodeGivenPair env pair = .ok payload) :
    encodeTypedSearchAttributeValue env pair.asList.key pair.asList.value = .ok payload := by
  cases pair with
  | plain pair => exact encoded
  | keywordTuple name items =>
    rw [encodeGivenPair] at encoded
    split at encoded
    next texts strs =>
      -- a tuple of texts is checked as a list, and converted as one
      obtain ⟨plain, made, encoded⟩ := bind_eq_ok.mp encoded
      obtain ⟨data, dumped, rfl⟩ := dumps_of_toPayload made rfl
      have list : toPayload env (.list (texts.map .str)) = _ := toPayload_plain dumped rfl
      simp only [GivenPair.asList, encodeTypedSearchAttributeValue, plainValue, strs, isInstance,
        if_true, bind, Except.bind, toTypedPayload, list]
      exact encoded
    next => cases encoded

theorem encodeSearchAttributes_each {given : List (GivenPair D)} {start api : Dict String Payload}
    (encoded : encodeSearchAttributes env given start = .ok api) :
    ∀ pair ∈ given, ∃ payload, encodeGivenPair env pair = .ok payload := by
  induction given generalizing start with
  | nil => simp
  | cons pair rest ih =>
    obtain ⟨payload, here, encoded⟩ := bind_eq_ok.mp encoded
    exact List.forall_mem_cons.mpr ⟨⟨payload, here⟩, ih encoded⟩

/-- What a message holds under a name: the payload of the typed pair, or else that of the
    untyped list. -/
inductive Held (env : Env M C D) (typed : List (GivenPair D))
    (untyped : Dict String (List (AttributeValue D))) (name : String) : Option Payload → Prop where
  | typed (pair : GivenPair D) (member : pair ∈ typed) (named : pair.asList.key.name = name)
      (payload : Payload)
      (encoded : encodeTypedSearchAttributeValue env pair.asList.key pair.asList.value =
        .ok payload) : Held env typed untyped name (some payload)
  | untyped (absent : name ∉ names (typed.map GivenPair.asList)) (vals : List (AttributeValue D))
      (listed : untyped.get? name = some vals) (payload : Payload)
      (encoded : encodeSearchAttributeValues env vals = .ok payload) :
      Held env typed untyped name (some payload)
  | nothing (absent : name ∉ names (typed.map GivenPair.asList))
      (unlisted : untyped.get? name = none) : Held env typed untyped name none

/-- Attributes that can be converted: the message holds them. -/
theorem held_of_encoded {typed : List (GivenPair D)}
    (distinct : (names (typed.map GivenPair.asList)).Nodup)
    {untyped : Dict String (List (AttributeValue D))} {indexedFields api : Dict String Payload}
    (lists : convertEntries (encodeSearchAttributeValues env) untyped = .ok indexedFields)
    (pairs : encodeSearchAttributes env typed indexedFields = .ok api) (name : String) :
    Held env typed untyped name (api.get? name) := by
  have each := encodeSearchAttributes_each pairs
  obtain ⟨api', encoded, kept, put⟩ := encodeSearchAttributes_spec distinct each indexedFields
  cases pairs.symm.trans encoded
  obtain ⟨found, missing⟩ := convertEntries_ok lists
  by_cases named : name ∈ names (typed.map GivenPair.asList)
  -- typed pairs are put last, in place of lists of their names
  · obtain ⟨listed, inside, rfl⟩ := List.mem_map.mp named
    obtain ⟨pair, member, rfl⟩ := List.mem_map.mp inside
    obtain ⟨payload, isPayload⟩ := each pair member
    rw [put pair member payload isPayload]
    exact .typed pair member rfl payload (encodeGivenPair_ok isPayload)
  · rw [kept name named]
    cases there : untyped.get? name with
    | none =>
      rw [missing name there]
      exact .nothing named there
    | some vals =>
      obtain ⟨payload, encoded, held⟩ := found name vals there
      rw [held]
      exact .untyped named vals there payload encoded

/-- Attributes that a message can be made of. -/
theorem encoded_of_held {typed : List (GivenPair D)}
    (distinct : (names (typed.map GivenPair.asList)).Nodup)
    {untyped : Dict String (List (AttributeValue D))}
    (lists : ∀ name vals, untyped.get? name = some vals →
      ∃ payload, encodeSearchAttributeValues env vals = .ok payload)
    (pairs : ∀ pair ∈ typed, ∃ payload, encodeGivenPair env pair = .ok payload) :
    ∃ indexedFields api,
      convertEntries (encodeSearchAttributeValues env) untyped = .ok indexedFields ∧
      encodeSearchAttributes env typed indexedFields = .ok api := by
  obtain ⟨indexedFields, converted⟩ := convertEntries_exists lists
  obtain ⟨api, encoded, -⟩ := encodeSearchAttributes_spec distinct pairs indexedFields
  exact ⟨indexedFields, api, converted, encoded⟩

/-- Attributes whose text round-trips. -/
structure Text (env : Env M C D) (typed : List (GivenPair D))
    (untyped : Dict String (List (AttributeValue D))) : Prop where
  values : ∀ pair ∈ typed, ReadsValue env pair.asList.value
  lists : ∀ name vals, untyped.get? name = some vals → ReadsList env vals

section Read

variable {typed : List (GivenPair D)} {untyped : Dict String (List (AttributeValue D))}
  {attributes : Dict String Payload}

/-- Only one pair has a name. -/
theorem pair_unique (distinct : (names (typed.map GivenPair.asList)).Nodup) {a b : GivenPair D}
    (memberA : a ∈ typed) (memberB : b ∈ typed) (same : a.asList.key.name = b.asList.key.name) :
    a.asList = b.asList :=
  List.inj_on_of_nodup_map distinct (List.mem_map_of_mem memberA) (List.mem_map_of_mem memberB) same

/-- The typed attributes that are read: all that are not `None`. -/
theorem read_typed (distinct : (names (typed.map GivenPair.asList)).Nodup)
    (text : Text env typed untyped)
    (held : ∀ name, Held env typed untyped name (attributes.get? name)) :
    ∃ pairs, decodeTypedSearchAttributes env attributes = .ok pairs ∧ (names pairs).Nodup ∧
      ∀ pair, pair ∈ pairs ↔ pair ∈ typed.map GivenPair.asList ∧ pair.value ≠ .none := by
  have each (name : String) : ∃ pair, serverPair env attributes name = .ok pair ∧
      ∀ found : SearchAttributePair D, found.key.name = name →
        (pair = some found ↔ found ∈ typed.map GivenPair.asList ∧ found.value ≠ .none) := by
    have here := held name
    unfold serverPair
    generalize attributes.get? name = payload at here
    cases here with
    | typed pair member named payload encoded =>
      subst named
      -- the payload of `None` has no type and is not read as typed
      by_cases isNone : pair.asList.value = .none
      · rw [isNone] at encoded
        refine ⟨none, (null_payload encoded _).1, fun found named => ?_⟩
        refine iff_of_false (by simp) ?_
        rintro ⟨inside, isValue⟩
        obtain ⟨pair', member', rfl⟩ := List.mem_map.mp inside
        rw [pair_unique distinct member' member named] at isValue
        exact isValue isNone
      · refine ⟨some pair.asList, (encoded_decodes (text.values pair member) isNone encoded).1,
          fun found named => ?_⟩
        rw [Option.some.injEq]
        constructor
        · rintro rfl
          exact ⟨List.mem_map_of_mem member, isNone⟩
        · rintro ⟨inside, -⟩
          obtain ⟨pair', member', rfl⟩ := List.mem_map.mp inside
          exact pair_unique distinct member member' named.symm
    | untyped absent vals listed payload encoded =>
      refine ⟨none, (untyped_payload (text.lists name vals listed) encoded name).1,
        fun found named => iff_of_false (by simp) fun inside => absent ?_⟩
      exact named ▸ List.mem_map_of_mem inside.1
    | nothing absent unlisted =>
      refine ⟨none, rfl, fun found named => iff_of_false (by simp) fun inside => absent ?_⟩
      exact named ▸ List.mem_map_of_mem inside.1
  -- name by name, so the pairs that are read are those of the names
  obtain ⟨pairs, decoded, distinct, members⟩ :=
    decodeTypedSearchAttributes_spec attributes fun name => (each name).imp fun _ both => both.1
  refine ⟨pairs, decoded, distinct, fun pair => ?_⟩
  obtain ⟨found, isFound, same⟩ := each pair.key.name
  rw [members, isFound, Except.ok.injEq]
  exact same pair rfl

/-- What the untyped list of a name is read as. -/
inductive Listed (env : Env M C D) (typed : List (GivenPair D))
    (untyped : Dict String (List (AttributeValue D))) (name : String) :
    Option (List (AttributeValue D)) → Prop where
  | typed (pair : GivenPair D) (member : pair ∈ typed) (named : pair.asList.key.name = name)
      (isValue : pair.asList.value ≠ .none) :
      Listed env typed untyped name (some (untypedView pair.asList.value))
  | unset (pair : GivenPair D) (member : pair ∈ typed) (named : pair.asList.key.name = name)
      (isNone : pair.asList.value = .none) : Listed env typed untyped name (some [.none])
  | untyped (absent : name ∉ names (typed.map GivenPair.asList)) (vals : List (AttributeValue D))
      (listed : untyped.get? name = some vals) :
      Listed env typed untyped name (some (vals.map (onWire env)))
  | nothing (absent : name ∉ names (typed.map GivenPair.asList))
      (unlisted : untyped.get? name = none) : Listed env typed untyped name none

theorem read_untyped (text : Text env typed untyped)
    (held : ∀ name, Held env typed untyped name (attributes.get? name)) :
    ∃ ret, decodeSearchAttributes env attributes = .ok ret ∧
      ∀ name, Listed env typed untyped name (ret.get? name) := by
  have each (name : String) (payload : Payload) (present : attributes.get? name = some payload) :
      ∃ vals, decodeUntyped env payload = .ok vals ∧
        Listed env typed untyped name (some vals) := by
    have here := held name
    rw [present] at here
    cases here with
    | typed pair member named payload encoded =>
      by_cases isNone : pair.asList.value = .none
      · rw [isNone] at encoded
        exact ⟨_, (null_payload encoded name).2.1, .unset pair member named isNone⟩
      · exact ⟨_, encoded_untyped (text.values pair member) isNone encoded,
          .typed pair member named isNone⟩
    | untyped absent vals listed payload encoded =>
      exact ⟨_, (untyped_payload (text.lists name vals listed) encoded name).2.1,
        .untyped absent vals listed⟩
  -- every payload can be read, so the whole map can
  obtain ⟨ret, decoded⟩ := @convertEntries_exists _ _ _ (decodeUntyped env) attributes
    fun name payload present => (each name payload present).imp fun _ both => both.1
  obtain ⟨found, missing⟩ := convertEntries_ok decoded
  refine ⟨ret, decoded, fun name => ?_⟩
  cases present : attributes.get? name with
  | none =>
    rw [missing name present]
    have here := held name
    rw [present] at here
    cases here with
    | nothing absent unlisted => exact .nothing absent unlisted
  | some payload =>
    obtain ⟨vals, isVals, listed⟩ := each name payload present
    obtain ⟨vals', isVals', held⟩ := found name payload present
    cases isVals.symm.trans isVals'
    rw [held]
    exact listed

end Read

/-! #### Converted again -/

/-- No typed attribute is `None`, and no list in use has dates among values that are neither
    dates nor text. -/
def Settled (typed : List (GivenPair D)) (untyped : Dict String (List (AttributeValue D))) : Prop :=
  (∀ pair ∈ typed, pair.asList.value ≠ .none) ∧
    ∀ name vals, untyped.get? name = some vals → name ∉ names (typed.map GivenPair.asList) →
      ¬DatesAmongOthers vals

/-- The attributes of a message, as an action has them. -/
structure IsRead (env : Env M C D) (typed : List (GivenPair D))
    (untyped : Dict String (List (AttributeValue D))) (pairs : List (SearchAttributePair D))
    (untyped' : Dict String (List (AttributeValue D))) : Prop where
  distinct : (names pairs).Nodup
  members : ∀ pair, pair ∈ pairs ↔ pair ∈ typed.map GivenPair.asList ∧ pair.value ≠ .none
  removed : ∀ name, name ∈ names pairs → untyped'.get? name = none
  listed : ∀ name, name ∉ names pairs → Listed env typed untyped name (untyped'.get? name)

namespace IsRead

variable {typed : List (GivenPair D)} {untyped untyped' : Dict String (List (AttributeValue D))}
  {pairs : List (SearchAttributePair D)} {indexedFields api api' : Dict String Payload}

theorem names_subset (read : IsRead env typed untyped pairs untyped') {name : String}
    (named : name ∈ names pairs) : name ∈ names (typed.map GivenPair.asList) := by
  obtain ⟨pair, member, rfl⟩ := List.mem_map.mp named
  exact List.mem_map_of_mem ((read.members pair).mp member).1

theorem plain_asList (pairs : List (SearchAttributePair D)) :
    (pairs.map GivenPair.plain).map GivenPair.asList = pairs := by
  rw [List.map_map]
  exact List.map_id pairs

/-- Lists that can be converted again have been settled. -/
theorem settled_of_encoded (read : IsRead env typed untyped pairs untyped')
    (distinct : (names (typed.map GivenPair.asList)).Nodup) (text : Text env typed untyped)
    (held : ∀ name, Held env typed untyped name (api.get? name))
    (lists : convertEntries (encodeSearchAttributeValues env) untyped' = .ok indexedFields) :
    Settled typed untyped := by
  obtain ⟨found, -⟩ := convertEntries_ok lists
  constructor
  · intro pair member isNone
    -- a pair of `None` is read as a list of it, which is refused
    have unread : pair.asList.key.name ∉ names pairs := by
      intro named
      obtain ⟨pair', member', same⟩ := List.mem_map.mp named
      obtain ⟨inside, isValue⟩ := (read.members pair').mp member'
      obtain ⟨given, memberGiven, rfl⟩ := List.mem_map.mp inside
      rw [pair_unique distinct memberGiven member same] at isValue
      exact isValue isNone
    have listed := read.listed _ unread
    generalize there : untyped'.get? pair.asList.key.name = vals at listed
    cases listed with
    | typed pair' member' named isValue =>
      rw [pair_unique distinct member' member named] at isValue
      exact isValue isNone
    | unset pair' member' named isNone' =>
      obtain ⟨payload, encoded, -⟩ := found _ _ there
      cases encoded
    | untyped absent | nothing absent =>
      exact absent (List.mem_map_of_mem (List.mem_map_of_mem member))
  · intro name vals present absent
    have listed := read.listed name fun named => absent (read.names_subset named)
    generalize there : untyped'.get? name = vals' at listed
    cases listed with
    | typed pair member named | unset pair member named =>
      exact absurd (named ▸ List.mem_map_of_mem (List.mem_map_of_mem member)) absent
    | untyped absent vals' present' =>
      -- a list in use is what it was, but for its dates
      cases present.symm.trans present'
      obtain ⟨payload', encoded', -⟩ := found _ _ there
      have here := held name
      generalize api.get? name = payload at here
      cases here with
      | typed pair member named =>
        exact absurd (named ▸ List.mem_map_of_mem (List.mem_map_of_mem member)) absent
      | untyped absent vals'' present'' payload encoded =>
        cases present.symm.trans present''
        exact (((untyped_payload (text.lists name vals present) encoded name).2.2 _).mp encoded').2
      | nothing absent unlisted => cases present.symm.trans unlisted
    | nothing absent unlisted => cases present.symm.trans unlisted

/-- Settled attributes can be converted again. -/
theorem encoded_of_settled (read : IsRead env typed untyped pairs untyped')
    (text : Text env typed untyped)
    (held : ∀ name, Held env typed untyped name (api.get? name))
    (distinct : (names (typed.map GivenPair.asList)).Nodup) (settled : Settled typed untyped) :
    ∃ indexedFields api',
      convertEntries (encodeSearchAttributeValues env) untyped' = .ok indexedFields ∧
      encodeSearchAttributes env (pairs.map GivenPair.plain) indexedFields = .ok api' := by
  refine encoded_of_held ((plain_asList pairs).symm ▸ read.distinct) ?_ ?_
  · intro name vals present
    -- lists under the names of typed pairs have been removed
    have unread : name ∉ names pairs := by
      intro named
      cases (read.removed name named).symm.trans present
    have listed := read.listed name unread
    rw [present] at listed
    cases listed with
    | typed pair member named isValue =>
      have inside := (read.members _).mpr ⟨List.mem_map_of_mem member, isValue⟩
      exact absurd (named ▸ List.mem_map_of_mem inside) unread
    | unset pair member named isNone => exact absurd isNone (settled.1 pair member)
    | untyped absent vals source =>
      have here := held name
      generalize api.get? name = payload at here
      cases here with
      | typed pair member named =>
        exact absurd (named ▸ List.mem_map_of_mem (List.mem_map_of_mem member)) absent
      | untyped absent vals' source' payload encoded =>
        cases source.symm.trans source'
        exact ⟨payload, ((untyped_payload (text.lists name vals source) encoded name).2.2 _).mpr
          ⟨rfl, settled.2 name vals source absent⟩⟩
      | nothing absent unlisted => cases source.symm.trans unlisted
  · intro pair member
    obtain ⟨pair, inside, rfl⟩ := List.mem_map.mp member
    obtain ⟨isGiven, -⟩ := (read.members pair).mp inside
    obtain ⟨given, memberGiven, rfl⟩ := List.mem_map.mp isGiven
    have here := held given.asList.key.name
    generalize api.get? given.asList.key.name = payload at here
    cases here with
    | typed given' member' named payload encoded =>
      rw [pair_unique distinct member' memberGiven named] at encoded
      exact ⟨payload, encoded⟩
    | untyped absent | nothing absent =>
      exact absurd (List.mem_map_of_mem (List.mem_map_of_mem memberGiven)) absent

/-- They are converted to the same payloads. -/
theorem same_payloads (read : IsRead env typed untyped pairs untyped')
    (distinct : (names (typed.map GivenPair.asList)).Nodup) (text : Text env typed untyped)
    (held : ∀ name, Held env typed untyped name (api.get? name)) (settled : Settled typed untyped)
    (held' : ∀ name, Held env (pairs.map GivenPair.plain) untyped' name (api'.get? name))
    (name : String) : api.get? name = api'.get? name := by
  have before := held name
  have after := held' name
  generalize api.get? name = payload at before
  generalize there' : api'.get? name = payload' at after
  -- a pair that was read is one that was given
  have typedAfter {pair' : GivenPair D} (member' : pair' ∈ pairs.map GivenPair.plain) :
      ∃ given ∈ typed, given.asList = pair'.asList := by
    obtain ⟨pair, inside, rfl⟩ := List.mem_map.mp member'
    obtain ⟨isGiven, -⟩ := (read.members pair).mp inside
    exact List.mem_map.mp isGiven
  -- for each name: who put its payload there, before and after
  cases before with
  | typed pair member named payload encoded =>
    have inside := (read.members _).mpr ⟨List.mem_map_of_mem member, settled.1 pair member⟩
    cases after with
    | typed pair' member' named' payload' encoded' =>
      obtain ⟨given, memberGiven, same⟩ := typedAfter member'
      rw [← same] at named' encoded'
      rw [pair_unique distinct memberGiven member (named'.trans named.symm)] at encoded'
      rw [Except.ok.inj (encoded.symm.trans encoded')]
    | untyped absent | nothing absent =>
      rw [plain_asList] at absent
      exact absurd (named ▸ List.mem_map_of_mem inside) absent
  | untyped absent vals present payload encoded =>
    have unread : name ∉ names pairs := fun named => absent (read.names_subset named)
    have listed := read.listed name unread
    cases after with
    | typed pair' member' named' =>
      obtain ⟨given, memberGiven, same⟩ := typedAfter member'
      rw [← same] at named'
      exact absurd (named' ▸ List.mem_map_of_mem (List.mem_map_of_mem memberGiven)) absent
    | untyped absent' vals' present' payload' encoded' =>
      rw [present'] at listed
      cases listed with
      | typed pair member named | unset pair member named =>
        exact absurd (named ▸ List.mem_map_of_mem (List.mem_map_of_mem member)) absent
      | untyped _ vals'' present'' =>
        cases present.symm.trans present''
        rw [(((untyped_payload (text.lists name vals present) encoded name).2.2 _).mp encoded').1]
    | nothing absent' unlisted' =>
      rw [unlisted'] at listed
      cases listed with
      | nothing _ unlisted => cases present.symm.trans unlisted
  | nothing absent unlisted =>
    have unread : name ∉ names pairs := fun named => absent (read.names_subset named)
    have listed := read.listed name unread
    cases after with
    | typed pair' member' named' =>
      obtain ⟨given, memberGiven, same⟩ := typedAfter member'
      rw [← same] at named'
      exact absurd (named' ▸ List.mem_map_of_mem (List.mem_map_of_mem memberGiven)) absent
    | untyped absent' vals' present' =>
      rw [present'] at listed
      cases listed with
      | typed pair member named | unset pair member named =>
        exact absurd (named ▸ List.mem_map_of_mem (List.mem_map_of_mem member)) absent
      | untyped _ vals'' present'' => cases unlisted.symm.trans present''
    | nothing => rfl

end IsRead

end Attributes

end TemporalSdk.Schedules
