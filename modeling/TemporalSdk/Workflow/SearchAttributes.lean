import TemporalSdk.Converter.Composite

/-!
# Search attributes

`upsert_search_attributes`: the attributes are written to a command and to the
two views in `workflow.info()`, the typed pairs and the untyped lists. The server
holds a payload for each name.

A call that raises leaves what it has done so far: workflow code may catch the
exception, and the command is sent with the others. Dates `D`, messages `M` and
their classes `C` are arbitrary types. Tuples and other sequences than lists and
strings are left out, and so are untyped attributes whose values are no lists. A
list is a value: what was passed is not changed later, while in Python the pairs
in the info would share the list with the workflow.
-/
namespace TemporalSdk.SearchAttributes

open Converter (Bytes ConverterError Libraries DefaultPayloadConverter encode)
open Converter.InPlace (Payload)
open Converter.TypedJson (PyFloat Value)

/-! ### Values and keys -/

inductive SearchAttributeIndexedValueType where
  | text
  | keyword
  | int
  | double
  | bool
  | datetime
  | keywordList
  deriving DecidableEq

/-- The number of the `IntEnum`. -/
def SearchAttributeIndexedValueType.number : SearchAttributeIndexedValueType → Nat
  | .text => 1
  | .keyword => 2
  | .int => 3
  | .double => 4
  | .bool => 5
  | .datetime => 6
  | .keywordList => 7

/-- Python values as search attributes see them. -/
inductive AttributeValue (D : Type) where
  | none
  | bool (b : Bool)
  | int (i : Int)
  | float (f : PyFloat)
  | str (s : String)
  | datetime (d : D)
  | list (items : List (AttributeValue D))
  /-- A value of a type that no key is for. -/
  | other

structure SearchAttributeKey where
  name : String
  indexedValueType : SearchAttributeIndexedValueType
  deriving DecidableEq

structure SearchAttributePair (D : Type) where
  key : SearchAttributeKey
  value : AttributeValue D

/-- To unset the value is `none`. -/
structure SearchAttributeUpdate (D : Type) where
  key : SearchAttributeKey
  value : AttributeValue D

/-- What conversion asks of Python itself. -/
structure Env (M C D : Type) where
  libraries : Libraries M C
  isoformat : D → String
  /-- `datetime.fromisoformat`, unless it raises. -/
  parse : String → Option D
  /-- Whether there is a `tzinfo`. -/
  hasTimezone : D → Bool
  /-- `str(value)`. -/
  text : AttributeValue D → String
  typeName : Converter.PyValue M → String

section

variable {M C D : Type} (env : Env M C D)

/-- `isinstance(value, key.origin_value_type)`: booleans are integers, and strings
    are sequences. -/
def isInstance : AttributeValue D → SearchAttributeIndexedValueType → Bool
  | .str _, .text | .str _, .keyword | .str _, .keywordList => true
  | .int _, .int | .bool _, .int => true
  | .float _, .double => true
  | .bool _, .bool => true
  | .datetime _, .datetime => true
  | .list _, .keywordList => true
  | _, _ => false

namespace SearchAttributeKey

/-- `_metadata_type`. -/
def metadataType (key : SearchAttributeKey) : String :=
  match key.indexedValueType with
  | .text => "Text"
  | .keyword => "Keyword"
  | .int => "Int"
  | .double => "Double"
  | .bool => "Bool"
  | .datetime => "Datetime"
  | .keywordList => "KeywordList"

/-- `_from_metadata_type`. -/
def fromMetadataType (name metadataType : String) : Option SearchAttributeKey :=
  if metadataType = "Text" then some ⟨name, .text⟩
  else if metadataType = "Keyword" then some ⟨name, .keyword⟩
  else if metadataType = "Int" then some ⟨name, .int⟩
  else if metadataType = "Double" then some ⟨name, .double⟩
  else if metadataType = "Bool" then some ⟨name, .bool⟩
  else if metadataType = "Datetime" then some ⟨name, .datetime⟩
  else if metadataType = "KeywordList" then some ⟨name, .keywordList⟩
  else none

/-- `_guess_from_untyped_values`: the tests are made in this order. -/
def guessFromUntypedValues (name : String) : List (AttributeValue D) → Option SearchAttributeKey
  | [] => none
  | [v] =>
    if isInstance v .keyword then some ⟨name, .keyword⟩
    else if isInstance v .int then some ⟨name, .int⟩
    else if isInstance v .double then some ⟨name, .double⟩
    else if isInstance v .bool then some ⟨name, .bool⟩
    else if isInstance v .datetime then some ⟨name, .datetime⟩
    else none
  | v :: _ :: _ => if isInstance v .keyword then some ⟨name, .keywordList⟩ else none

end SearchAttributeKey

/-! ### Payloads -/

/-- `default().payload_converter.to_payload(value)`. -/
def toPayload (value : Value) : Except ConverterError Payload := do
  match ← (DefaultPayloadConverter env.libraries).toPayloads env.typeName
    [.value (.plain value)] with
  | payload :: _ => return payload
  | [] => .error (.other "list index out of range")

mutual

def AttributeValue.ofValue : Value → AttributeValue D
  | .none => .none
  | .bool b => .bool b
  | .int i => .int i
  | .float f => .float f
  | .str s => .str s
  | .list items => .list (AttributeValue.ofValues items)
  | _ => .other

def AttributeValue.ofValues : List Value → List (AttributeValue D)
  | [] => []
  | v :: rest => AttributeValue.ofValue v :: AttributeValue.ofValues rest

end

/-- `default().payload_converter.from_payload(payload)`. -/
def fromPayload (payload : Payload) : Except ConverterError (AttributeValue D) := do
  match ← (DefaultPayloadConverter env.libraries).fromPayloads [payload] [] with
  | .value (.plain value) :: _ => return .ofValue value
  | _ => return .other

/-- The items of a list, if they are strings. -/
def strings : List (AttributeValue D) → Option (List String)
  | [] => some []
  | .str s :: rest => (strings rest).map (s :: ·)
  | _ :: _ => none

/-- The value that is converted: dates in ISO format, keyword lists checked. -/
def plainValue : AttributeValue D → Except ConverterError Value
  | .bool b => .ok (.bool b)
  | .int i => .ok (.int i)
  | .float f => .ok (.float f)
  | .str s => .ok (.str s)
  | .datetime d => .ok (.str (env.isoformat d))
  | .list items =>
    match strings items with
    | some texts => .ok (.list (texts.map .str))
    | none => .error (.typeError "All values of a keyword list must be strings")
  | .none | .other => .ok .none

/-- "Convert value" and "Set metadata type". -/
def toTypedPayload (key : SearchAttributeKey) (plain : Value) : Except ConverterError Payload := do
  let payload ← toPayload env plain
  return { payload with metadata := payload.metadata.set "type" (encode key.metadataType) }

/-- `encode_typed_search_attribute_value`. -/
def encodeTypedSearchAttributeValue (key : SearchAttributeKey) (value : AttributeValue D) :
    Except ConverterError Payload :=
  match value with
  -- we cannot set the metadata type when we set null
  | .none => toPayload env .none
  | value =>
    if isInstance value key.indexedValueType then do
      let plain ← plainValue env value
      toTypedPayload env key plain
    else
      .error (.typeError (s!"Value of type {env.text value} not suitable for indexed value type " ++
        s!"{key.indexedValueType.number}"))

/-- A value that is no date must be of the type of those before it. -/
def sameType (valType : Option SearchAttributeIndexedValueType)
    (type : SearchAttributeIndexedValueType) (v : Value) :
    Except ConverterError (Value × Option SearchAttributeIndexedValueType) :=
  if valType.any fun before => before ≠ type then
    .error (.typeError "Search attribute values must have the same type for the same key")
  else .ok (v, some type)

/-- A round of the loop of `encode_search_attribute_values`: the converted value, and
    the type of values from then on. -/
def safeValue (valType : Option SearchAttributeIndexedValueType) :
    AttributeValue D → Except ConverterError (Value × Option SearchAttributeIndexedValueType)
  | .datetime d =>
    -- a date neither sets the type of the list nor is compared with it
    if env.hasTimezone d then .ok (.str (env.isoformat d), valType)
    else .error (.other "Timezone must be present on all search attribute dates")
  | .str s => sameType valType .keyword (.str s)
  | .int i => sameType valType .int (.int i)
  | .float f => sameType valType .double (.float f)
  | .bool b => sameType valType .bool (.bool b)
  | v => .error (.typeError (s!"Search attribute value of type {env.text v} not one of " ++
      "str, int, float, bool, or datetime"))

def safeValues (valType : Option SearchAttributeIndexedValueType) :
    List (AttributeValue D) → Except ConverterError (List Value)
  | [] => .ok []
  | v :: rest => do
    let (value, valType) ← safeValue env valType v
    let values ← safeValues valType rest
    return value :: values

/-- `encode_search_attribute_values`. -/
def encodeSearchAttributeValues (vals : List (AttributeValue D)) :
    Except ConverterError Payload := do
  let values ← safeValues env none vals
  toPayload env (.list values)

/-- `parser(value)`: text that is no date, and what is not text, raises. -/
def parseDate : AttributeValue D → Except ConverterError (AttributeValue D)
  | .str s =>
    match env.parse s with
    | some d => .ok (.datetime d)
    | none => .error (.other s!"Invalid isoformat string: {s}")
  | _ => .error (.typeError "fromisoformat: argument must be str")

/-- The body of the loop of `decode_search_attributes`. -/
def decodeUntyped (payload : Payload) : Except ConverterError (List (AttributeValue D)) := do
  let vals := match ← fromPayload env payload with
    | .list items => items
    -- a single-item list
    | val => [val]
  if payload.metadata.get? "type" = some (encode "Datetime") then vals.mapM (parseDate env)
  else return vals

def decodeSearchAttributes (api : Dict String Payload) :
    Except ConverterError (Dict String (List (AttributeValue D))) :=
  api.entries.foldlM (fun ret entry => do
    let vals ← decodeUntyped env entry.2
    return ret.set entry.1 vals) Dict.empty

/-- The single item of a list, for the types that are not lists. -/
def pullOut (type : SearchAttributeIndexedValueType) (val : AttributeValue D) :
    Option (AttributeValue D) :=
  if type = .keywordList then some val
  else
    match val with
    | .list [item] => some item
    | .list _ => none
    | val => some val

/-- The body of the loop of `decode_typed_search_attributes`: what cannot be a value
    of its type is ignored. -/
def decodeTyped (name : String) (payload : Payload) :
    Except ConverterError (Option (SearchAttributePair D)) := do
  let metadataType := (payload.metadata.get? "type").getD []
  if metadataType.isEmpty then return none
  let metadataType ← Converter.decode metadataType
  match SearchAttributeKey.fromMetadataType name metadataType with
  | none => return none
  | some key =>
    let val ← fromPayload env payload
    match pullOut key.indexedValueType val with
    | none => return none
    | some val => do
      -- We will let this throw
      let val ← if key.indexedValueType = .datetime then parseDate env val else .ok val
      return if isInstance val key.indexedValueType then some ⟨key, val⟩ else none

/-- `TypedSearchAttributes.__post_init__`. -/
def sortedByName (pairs : List (SearchAttributePair D)) : List (SearchAttributePair D) :=
  pairs.mergeSort fun a b => a.key.name ≤ b.key.name

def duplicate? : List (SearchAttributePair D) → Option String
  | a :: b :: rest => if a.key.name = b.key.name then some b.key.name else duplicate? (b :: rest)
  | _ => none

def decodePairs : List (String × Payload) → Except ConverterError (List (SearchAttributePair D))
  | [] => .ok []
  | (name, payload) :: rest => do
    let pair ← decodeTyped env name payload
    let pairs ← decodePairs rest
    return pair.toList ++ pairs

def decodeTypedSearchAttributes (api : Dict String Payload) :
    Except ConverterError (List (SearchAttributePair D)) := do
  let pairs := sortedByName (← decodePairs env api.entries)
  match duplicate? pairs with
  | some name =>
    .error (.other s!"Duplicate search attribute entries found for key {name}")
  | none => return pairs

end

/-! ### Upserts -/

/-- The command of a call and the attributes in `workflow.info()`. -/
structure Upsert (D : Type) where
  /-- `upsert_workflow_search_attributes.search_attributes`. -/
  command : Dict String Payload
  searchAttributes : Dict String (List (AttributeValue D))
  typedSearchAttributes : List (SearchAttributePair D)

/-- The index of the first pair of a name. -/
def index {D : Type} (pairs : List (SearchAttributePair D)) (name : String) : Option Nat :=
  pairs.findIdx? fun a => a.key.name = name

def removePair {D : Type} (pairs : List (SearchAttributePair D)) (name : String) :
    List (SearchAttributePair D) :=
  match index pairs name with
  | some i => pairs.eraseIdx i
  | none => pairs

def putPair {D : Type} (pairs : List (SearchAttributePair D)) (pair : SearchAttributePair D) :
    List (SearchAttributePair D) :=
  match index pairs pair.key.name with
  | some i => pairs.set i pair
  | none => pairs ++ [pair]

/-! #### Looking up a name -/

section Pairs

variable {D : Type} (pairs : List (SearchAttributePair D))

/-- The first pair of a name. -/
def find (name : String) : Option (SearchAttributePair D) :=
  pairs.find? fun a => a.key.name = name

def names : List String := pairs.map fun a => a.key.name

theorem index_cons (a : SearchAttributePair D) (name : String) :
    index (a :: pairs) name =
      if a.key.name = name then some 0 else (index pairs name).map (· + 1) := by
  simp [index, List.findIdx?_cons]

theorem find_cons (a : SearchAttributePair D) (name : String) :
    find (a :: pairs) name = if a.key.name = name then some a else find pairs name := by
  simp only [find, List.find?_cons]
  split <;> simp_all

theorem putPair_cons (a pair : SearchAttributePair D) :
    putPair (a :: pairs) pair =
      if a.key.name = pair.key.name then pair :: pairs else a :: putPair pairs pair := by
  unfold putPair
  rw [index_cons]
  by_cases here : a.key.name = pair.key.name
  · simp only [here, if_true, List.set_cons_zero]
  · simp only [here, if_false]
    cases index pairs pair.key.name with
    | none => rfl
    | some i => rfl

theorem removePair_cons (a : SearchAttributePair D) (name : String) :
    removePair (a :: pairs) name =
      if a.key.name = name then pairs else a :: removePair pairs name := by
  unfold removePair
  rw [index_cons]
  by_cases here : a.key.name = name
  · simp only [here, if_true, List.eraseIdx_cons_zero]
  · simp only [here, if_false]
    cases index pairs name with
    | none => rfl
    | some i => rfl

@[simp] theorem find_putPair (pair : SearchAttributePair D) (name : String) :
    find (putPair pairs pair) name = if name = pair.key.name then some pair else find pairs name := by
  induction pairs with
  | nil =>
    change find [pair] name = _
    rw [find_cons]
    simp only [eq_comm]
  | cons a rest ih =>
    rw [putPair_cons]
    by_cases here : a.key.name = pair.key.name
    · rw [if_pos here, find_cons, find_cons, here]
      by_cases same : pair.key.name = name
      · simp [same]
      · simp [same, Ne.symm same]
    · rw [if_neg here, find_cons, find_cons, ih]
      by_cases same : a.key.name = name
      · have other : name ≠ pair.key.name := fun equal => here (same.trans equal)
        simp [same, other]
      · simp [same]

theorem find_removePair_of_ne {name name' : String} (other : name' ≠ name) :
    find (removePair pairs name) name' = find pairs name' := by
  induction pairs with
  | nil => rfl
  | cons a rest ih =>
    rw [removePair_cons, find_cons]
    by_cases here : a.key.name = name
    · have passed : ¬a.key.name = name' := fun equal => other (equal.symm.trans here)
      rw [if_pos here, if_neg passed]
    · rw [if_neg here, find_cons, ih]

theorem find_eq_none {name : String} : find pairs name = none ↔ name ∉ names pairs := by
  simp [find, names]

theorem names_putPair (pair : SearchAttributePair D) :
    names (putPair pairs pair) =
      if pair.key.name ∈ names pairs then names pairs else names pairs ++ [pair.key.name] := by
  induction pairs with
  | nil => rfl
  | cons a rest ih =>
    rw [putPair_cons]
    by_cases here : a.key.name = pair.key.name
    · rw [if_pos here]
      simp [names, here]
    · rw [if_neg here]
      change a.key.name :: names (putPair rest pair) =
        if pair.key.name ∈ a.key.name :: names rest then a.key.name :: names rest
        else a.key.name :: names rest ++ [pair.key.name]
      rw [ih]
      by_cases member : pair.key.name ∈ names rest
      · simp [member]
      · simp [member, Ne.symm here]

theorem names_removePair_sublist (name : String) :
    (names (removePair pairs name)).Sublist (names pairs) := by
  unfold removePair
  split
  · exact (List.eraseIdx_sublist pairs _).map _
  · exact List.Sublist.refl _

theorem nodup_putPair (distinct : (names pairs).Nodup) (pair : SearchAttributePair D) :
    (names (putPair pairs pair)).Nodup := by
  rw [names_putPair]
  split
  · exact distinct
  next absent =>
    refine List.nodup_append.mpr ⟨distinct, List.nodup_singleton _, ?_⟩
    intro name member name' here same
    rw [List.mem_singleton.mp here] at same
    exact absent (same ▸ member)

theorem nodup_removePair (distinct : (names pairs).Nodup) (name : String) :
    (names (removePair pairs name)).Nodup :=
  distinct.sublist (names_removePair_sublist pairs name)

theorem find_removePair_self (distinct : (names pairs).Nodup) (name : String) :
    find (removePair pairs name) name = none := by
  induction pairs with
  | nil => rfl
  | cons a rest ih =>
    obtain ⟨absent, distinct⟩ := List.nodup_cons.mp distinct
    rw [removePair_cons]
    by_cases here : a.key.name = name
    · rw [if_pos here]
      exact (find_eq_none rest).mpr (here ▸ absent)
    · rw [if_neg here, find_cons, if_neg here]
      exact ih distinct

end Pairs

namespace Upsert

variable {M C D : Type} (env : Env M C D) (s : Upsert D)

/-- Looking up a name in a map of messages creates its entry. -/
def touch (name : String) : Upsert D :=
  match s.command.get? name with
  | some _ => s
  | none => { s with command := s.command.set name ⟨Dict.empty, []⟩ }

/-- `v.search_attributes[name].CopyFrom(...)`: the payload is made after the lookup. -/
def copyFrom (name : String) (payload : Except ConverterError Payload) :
    Upsert D × Option ConverterError :=
  let s := s.touch name
  match payload with
  | .ok payload => ({ s with command := s.command.set name payload }, none)
  | .error error => (s, some error)

def iterate : AttributeValue D → List (AttributeValue D)
  | .list items => items
  | .str s => s.toList.map fun c => .str (String.singleton c)
  | _ => []

/-- The views after a typed update. -/
def applyUpdate (update : SearchAttributeUpdate D) : Upsert D :=
  match update.value with
  | .none =>
    { s with
      typedSearchAttributes := removePair s.typedSearchAttributes update.key.name
      searchAttributes := s.searchAttributes.set update.key.name [] }
  | value =>
    { s with
      typedSearchAttributes := putPair s.typedSearchAttributes ⟨update.key, value⟩
      searchAttributes := s.searchAttributes.set update.key.name
        (if update.key.indexedValueType = .keywordList then iterate value else [value]) }

/-- The loop over typed updates, which ends with the first exception. -/
def typedLoop (s : Upsert D) : List (SearchAttributeUpdate D) → Upsert D × Option ConverterError
  | [] => (s, none)
  | update :: rest =>
    match s.copyFrom update.key.name
      (encodeTypedSearchAttributeValue env update.key update.value) with
    | (s, some error) => (s, some error)
    | (s, none) => typedLoop (s.applyUpdate update) rest

/-- The typed view after the untyped values of a name. -/
def applyUntyped (name : String) (vals : List (AttributeValue D)) : Upsert D :=
  if vals.isEmpty then
    { s with typedSearchAttributes := removePair s.typedSearchAttributes name }
  else
    match SearchAttributeKey.guessFromUntypedValues name vals with
    | none => s
    | some key =>
      if key.indexedValueType = .keywordList then
        { s with typedSearchAttributes := putPair s.typedSearchAttributes ⟨key, .list vals⟩ }
      else
        match vals with
        | [val] => { s with typedSearchAttributes := putPair s.typedSearchAttributes ⟨key, val⟩ }
        | _ => s

/-- The loop over the entries of a dictionary. -/
def untypedLoop (s : Upsert D) :
    List (String × List (AttributeValue D)) → Upsert D × Option ConverterError
  | [] => (s, none)
  | (name, vals) :: rest =>
    match s.copyFrom name (encodeSearchAttributeValues env vals) with
    | (s, some error) => (s, some error)
    | (s, none) => untypedLoop (s.applyUntyped name vals) rest

end Upsert

/-- The attributes in `workflow.info()`. -/
structure Info (D : Type) where
  searchAttributes : Dict String (List (AttributeValue D))
  typedSearchAttributes : List (SearchAttributePair D)

/-- The attributes of a call: a dictionary (deprecated), or typed updates. -/
inductive Attributes (D : Type) where
  | untyped (attributes : Dict String (List (AttributeValue D)))
  | typed (updates : List (SearchAttributeUpdate D))

/-- `workflow_upsert_search_attributes`: the command, the attributes in the info
    and what is raised. -/
def upsertSearchAttributes {M C D : Type} (env : Env M C D) (info : Info D) :
    Attributes D → Upsert D × Option ConverterError
  | .untyped attributes =>
    let mutAttrs := attributes.entries.foldl (fun d entry => d.set entry.1 entry.2)
      info.searchAttributes
    Upsert.untypedLoop env ⟨Dict.empty, mutAttrs, info.typedSearchAttributes⟩ attributes.entries
  | .typed updates =>
    Upsert.typedLoop env ⟨Dict.empty, info.searchAttributes, info.typedSearchAttributes⟩ updates

def Upsert.info {D : Type} (s : Upsert D) : Info D := ⟨s.searchAttributes, s.typedSearchAttributes⟩

end TemporalSdk.SearchAttributes
