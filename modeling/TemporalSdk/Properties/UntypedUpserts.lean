import TemporalSdk.Properties.SearchAttributes

/-!
# Deprecated upserts

## Main result

`untyped_agree_iff`: sequences of calls with dictionaries and with the
corresponding typed updates leave the same typed attributes after each call
exactly if no dictionary has a list of a single boolean.

`_guess_from_untyped_values` asks whether a value is an integer before it asks
whether it is a boolean, and booleans are integers: `bool_is_guessed_int`.

## Proof strategy

On these values nothing raises, so both loops are folds over the typed pairs, one
step for each entry. The steps of an entry are the same but for a single boolean;
as the names of a dictionary are distinct, what its step puts in stays.
-/

namespace TemporalSdk.SearchAttributes

open Converter (Bytes ConverterError Libraries encode)
open Converter.InPlace (Payload)
open Converter.TypedJson (Value)

variable {M C D : Type}

/-! ### Values of one kind -/

/-- `json.dumps` writes scalars and lists of scalars. -/
def WritesScalars (env : Env M C D) : Prop :=
  (∀ v, IsScalar v → ∃ data, env.libraries.dumps v.toJson = .ok data) ∧
  ∀ items : List Value, (∀ v ∈ items, IsScalar v) →
    ∃ data, env.libraries.dumps (Value.list items).toJson = .ok data

/-- The lists of an untyped call: empty, a single value, or several strings. -/
inductive OneKind (env : Env M C D) : List (AttributeValue D) → Prop
  | empty : OneKind env []
  | str (s : String) : OneKind env [.str s]
  | int (i : Int) : OneKind env [.int i]
  | float (f : Converter.TypedJson.PyFloat) : OneKind env [.float f]
  | bool (b : Bool) : OneKind env [.bool b]
  | datetime (d : D) (aware : env.hasTimezone d = true) : OneKind env [.datetime d]
  | strs (s t : String) (rest : List String) :
      OneKind env (.str s :: .str t :: rest.map .str)

/-- The typed update for the values of a name. Which type the key has when the
    value is unset makes no difference. -/
def correspondingUpdate (unset : SearchAttributeIndexedValueType) (name : String) :
    List (AttributeValue D) → SearchAttributeUpdate D
  | [] => ⟨⟨name, unset⟩, .none⟩
  | [.str s] => ⟨⟨name, .keyword⟩, .str s⟩
  | [.int i] => ⟨⟨name, .int⟩, .int i⟩
  | [.float f] => ⟨⟨name, .double⟩, .float f⟩
  | [.bool b] => ⟨⟨name, .bool⟩, .bool b⟩
  | [.datetime d] => ⟨⟨name, .datetime⟩, .datetime d⟩
  | vals => ⟨⟨name, .keywordList⟩, .list vals⟩

/-! ### Nothing raises -/

variable {env : Env M C D}

theorem isScalar_of_strings {texts : List String} {v : Value} (member : v ∈ texts.map Value.str) :
    IsScalar v := by
  obtain ⟨text, -, rfl⟩ := List.mem_map.mp member
  exact trivial

/-- A value that suits its key and has JSON text is encoded. -/
theorem value_encodes {key : SearchAttributeKey} {value : AttributeValue D} {plain : Value}
    {data : Bytes} (isValue : value ≠ .none)
    (suits : isInstance value key.indexedValueType = true)
    (converted : plainValue env value = .ok plain)
    (dumped : env.libraries.dumps plain.toJson = .ok data)
    (json : Converter.encoder env.libraries (.plain plain) =
      Converter.JSONPlainPayloadConverter env.libraries) :
    ∃ payload, encodeTypedSearchAttributeValue env key value = .ok payload := by
  have made := toPayload_plain dumped json
  have typed : ∃ payload, toTypedPayload env key plain = .ok payload := by
    simp only [toTypedPayload, made]
    exact ⟨_, rfl⟩
  obtain ⟨payload, typed⟩ := typed
  refine ⟨payload, ?_⟩
  -- Only `None` has a branch of its own.
  rw [encodeTypedSearchAttributeValue.eq_def]
  split
  · exact absurd rfl isValue
  · rw [if_pos suits]
    simp only [converted]
    exact typed

/-- The corresponding update is encoded. -/
theorem typed_encodes (writes : WritesScalars env) {vals : List (AttributeValue D)}
    (oneKind : OneKind env vals) (unset : SearchAttributeIndexedValueType) (name : String) :
    ∃ payload, encodeTypedSearchAttributeValue env (correspondingUpdate unset name vals).key
      (correspondingUpdate unset name vals).value = .ok payload := by
  cases oneKind with
  | empty => exact ⟨_, toPayload_none⟩
  | str s =>
    obtain ⟨data, dumped⟩ := writes.1 (.str s) trivial
    exact value_encodes (by simp [correspondingUpdate]) rfl rfl dumped rfl
  | int i =>
    obtain ⟨data, dumped⟩ := writes.1 (.int i) trivial
    exact value_encodes (by simp [correspondingUpdate]) rfl rfl dumped rfl
  | float f =>
    obtain ⟨data, dumped⟩ := writes.1 (.float f) trivial
    exact value_encodes (by simp [correspondingUpdate]) rfl rfl dumped rfl
  | bool b =>
    obtain ⟨data, dumped⟩ := writes.1 (.bool b) trivial
    exact value_encodes (by simp [correspondingUpdate]) rfl rfl dumped rfl
  | datetime d aware =>
    obtain ⟨data, dumped⟩ := writes.1 (.str (env.isoformat d)) trivial
    exact value_encodes (by simp [correspondingUpdate]) rfl rfl dumped rfl
  | strs s t rest =>
    obtain ⟨data, dumped⟩ := writes.2 ((s :: t :: rest).map .str) fun v => isScalar_of_strings
    refine value_encodes (by simp [correspondingUpdate]) rfl ?_ dumped rfl
    have texts : strings (AttributeValue.str s :: .str t :: rest.map (.str (D := D))) =
        some (s :: t :: rest) := strings_map (s :: t :: rest)
    simp only [correspondingUpdate, plainValue, texts]

theorem safeValues_strs (env : Env M C D) (texts : List String) :
    safeValues env (some .keyword) (texts.map .str) = .ok (texts.map .str) := by
  induction texts with
  | nil => rfl
  | cons text rest ih =>
    simp [safeValues, safeValue, sameType, ih, bind, Except.bind, pure, Except.pure]

/-- So are the values themselves. -/
theorem untyped_encodes (writes : WritesScalars env) {vals : List (AttributeValue D)}
    (oneKind : OneKind env vals) :
    ∃ payload, encodeSearchAttributeValues env vals = .ok payload := by
  have safe : ∃ values, safeValues env none vals = .ok values ∧ ∀ v ∈ values, IsScalar v := by
    cases oneKind with
    | empty => exact ⟨[], rfl, by simp⟩
    | str s => exact ⟨[.str s], rfl, List.forall_mem_singleton.mpr trivial⟩
    | int i => exact ⟨[.int i], rfl, List.forall_mem_singleton.mpr trivial⟩
    | float f => exact ⟨[.float f], rfl, List.forall_mem_singleton.mpr trivial⟩
    | bool b => exact ⟨[.bool b], rfl, List.forall_mem_singleton.mpr trivial⟩
    | datetime d aware =>
      refine ⟨[.str (env.isoformat d)], ?_, List.forall_mem_singleton.mpr trivial⟩
      simp only [safeValues, safeValue, aware, if_true]
      rfl
    | strs s t rest =>
      refine ⟨(s :: t :: rest).map .str, ?_, fun v => isScalar_of_strings⟩
      have others := safeValues_strs env rest
      simp [safeValues, safeValue, sameType, others, bind, Except.bind, pure, Except.pure]
  obtain ⟨values, safe, scalars⟩ := safe
  obtain ⟨data, dumped⟩ := writes.2 values scalars
  refine ⟨Converter.makePayload [("encoding", encode "json/plain")] data, ?_⟩
  unfold encodeSearchAttributeValues
  rw [safe]
  exact toPayload_plain dumped rfl

/-! ### Both loops as folds -/

/-- What an untyped entry does to the typed pairs. -/
def untypedStep (pairs : List (SearchAttributePair D)) (name : String)
    (vals : List (AttributeValue D)) : List (SearchAttributePair D) :=
  ((⟨Dict.empty, Dict.empty, pairs⟩ : Upsert D).applyUntyped name vals).typedSearchAttributes

/-- What a typed update does to them. -/
def typedStep (pairs : List (SearchAttributePair D)) (update : SearchAttributeUpdate D) :
    List (SearchAttributePair D) :=
  ((⟨Dict.empty, Dict.empty, pairs⟩ : Upsert D).applyUpdate update).typedSearchAttributes

theorem applyUntyped_typed (s : Upsert D) (name : String) (vals : List (AttributeValue D)) :
    (s.applyUntyped name vals).typedSearchAttributes =
      untypedStep s.typedSearchAttributes name vals := by
  unfold untypedStep Upsert.applyUntyped
  split
  · rfl
  · split
    · rfl
    · split
      · rfl
      · split <;> rfl

theorem applyUpdate_typed (s : Upsert D) (update : SearchAttributeUpdate D) :
    (s.applyUpdate update).typedSearchAttributes =
      typedStep s.typedSearchAttributes update := by
  unfold typedStep Upsert.applyUpdate
  split
  · rfl
  · rfl

theorem copyFrom_ok (s : Upsert D) (name : String) (payload : Payload) :
    ∃ s', s.copyFrom name (.ok payload) = (s', none) ∧
      s'.typedSearchAttributes = s.typedSearchAttributes := by
  refine ⟨_, rfl, ?_⟩
  unfold Upsert.touch
  split <;> rfl

theorem untypedLoop_typed (writes : WritesScalars env)
    (entries : List (String × List (AttributeValue D)))
    (valid : ∀ entry ∈ entries, OneKind env entry.2) (s : Upsert D) :
    (Upsert.untypedLoop env s entries).1.typedSearchAttributes =
      entries.foldl (fun pairs entry => untypedStep pairs entry.1 entry.2)
        s.typedSearchAttributes := by
  induction entries generalizing s with
  | nil => rfl
  | cons entry rest ih =>
    obtain ⟨first, others⟩ := List.forall_mem_cons.mp valid
    obtain ⟨payload, encoded⟩ := untyped_encodes writes first
    obtain ⟨s', copied, same⟩ := copyFrom_ok s entry.1 payload
    simp only [Upsert.untypedLoop, encoded, copied, ih others, applyUntyped_typed, same,
      List.foldl_cons]

theorem typedLoop_typed (writes : WritesScalars env) (unset : SearchAttributeIndexedValueType)
    (entries : List (String × List (AttributeValue D)))
    (valid : ∀ entry ∈ entries, OneKind env entry.2) (s : Upsert D) :
    (Upsert.typedLoop env s (entries.map fun entry =>
        correspondingUpdate unset entry.1 entry.2)).1.typedSearchAttributes =
      entries.foldl (fun pairs entry => typedStep pairs (correspondingUpdate unset entry.1 entry.2))
        s.typedSearchAttributes := by
  induction entries generalizing s with
  | nil => rfl
  | cons entry rest ih =>
    obtain ⟨first, others⟩ := List.forall_mem_cons.mp valid
    obtain ⟨payload, encoded⟩ := typed_encodes writes first unset entry.1
    obtain ⟨s', copied, same⟩ :=
      copyFrom_ok s (correspondingUpdate unset entry.1 entry.2).key.name payload
    simp only [List.map_cons, Upsert.typedLoop, encoded, copied, ih others, applyUpdate_typed, same,
      List.foldl_cons]

/-! ### The steps of an entry -/

/-- The guess is the type of the corresponding update, except for a boolean. -/
theorem untypedStep_eq {vals : List (AttributeValue D)} (oneKind : OneKind env vals)
    (noBool : ∀ b, vals ≠ [.bool b]) (unset : SearchAttributeIndexedValueType)
    (pairs : List (SearchAttributePair D)) (name : String) :
    untypedStep pairs name vals = typedStep pairs (correspondingUpdate unset name vals) := by
  cases oneKind with
  | bool b => exact absurd rfl (noBool b)
  | empty | str | int | float | datetime | strs => rfl

theorem bool_is_guessed_int (unset : SearchAttributeIndexedValueType)
    (pairs : List (SearchAttributePair D)) (name : String) (b : Bool) :
    untypedStep pairs name [.bool b] = putPair pairs ⟨⟨name, .int⟩, .bool b⟩ ∧
      typedStep pairs (correspondingUpdate unset name [.bool b]) =
        putPair pairs ⟨⟨name, .bool⟩, .bool b⟩ :=
  ⟨rfl, rfl⟩

/-- Other names are left alone. -/
theorem typedStep_find {update : SearchAttributeUpdate D} {name : String}
    (other : name ≠ update.key.name) (pairs : List (SearchAttributePair D)) :
    find (typedStep pairs update) name = find pairs name := by
  unfold typedStep Upsert.applyUpdate
  split
  · exact find_removePair_of_ne pairs other
  · exact (find_putPair pairs _ name).trans (if_neg other)

theorem correspondingUpdate_name {vals : List (AttributeValue D)} (oneKind : OneKind env vals)
    (unset : SearchAttributeIndexedValueType) (name : String) :
    (correspondingUpdate unset name vals).key.name = name := by
  cases oneKind with
  | empty | str | int | float | bool | datetime | strs => rfl

theorem untypedStep_find {vals : List (AttributeValue D)} (oneKind : OneKind env vals)
    {name name' : String} (other : name' ≠ name) (pairs : List (SearchAttributePair D)) :
    find (untypedStep pairs name vals) name' = find pairs name' := by
  by_cases bool : ∃ b, vals = [.bool b]
  · obtain ⟨b, rfl⟩ := bool
    exact (find_putPair pairs _ name').trans (if_neg other)
  · rw [untypedStep_eq oneKind (fun b same => bool ⟨b, same⟩) .keyword]
    refine typedStep_find ?_ pairs
    rw [correspondingUpdate_name oneKind]
    exact other

/-- What the step of an entry puts in stays if no later entry has its name. -/
theorem foldl_find {entries : List (String × List (AttributeValue D))} (name : String)
    (vals : List (AttributeValue D))
    (step : List (SearchAttributePair D) → String × List (AttributeValue D) →
      List (SearchAttributePair D))
    (others : ∀ entry ∈ entries, entry.1 ≠ name →
      ∀ pairs, find (step pairs entry) name = find pairs name)
    {pair : SearchAttributePair D}
    (puts : ∀ pairs, find (step pairs (name, vals)) name = some pair)
    (distinct : (entries.map Prod.fst).Nodup) (member : (name, vals) ∈ entries)
    (pairs : List (SearchAttributePair D)) :
    find (entries.foldl step pairs) name = some pair := by
  obtain ⟨before, after, rfl⟩ := List.append_of_mem member
  have later : name ∉ after.map Prod.fst := by
    rw [List.map_append, List.map_cons] at distinct
    exact (List.nodup_cons.mp (List.nodup_append.mp distinct).2.1).1
  have kept (rest : List (String × List (AttributeValue D))) (absent : name ∉ rest.map Prod.fst)
      (inside : ∀ entry ∈ rest, entry ∈ before ++ (name, vals) :: after)
      (pairs : List (SearchAttributePair D)) :
      find (rest.foldl step pairs) name = find pairs name := by
    induction rest generalizing pairs with
    | nil => rfl
    | cons entry rest ih =>
      simp only [List.map_cons, List.mem_cons, not_or] at absent
      rw [List.foldl_cons, ih absent.2 fun entry member => inside entry (List.mem_cons_of_mem _ member)]
      exact others entry (inside entry List.mem_cons_self) (Ne.symm absent.1) pairs
  rw [List.foldl_append, List.foldl_cons, kept after later ?_ _]
  · exact puts _
  · intro entry member
    exact List.mem_append_right before (List.mem_cons_of_mem _ member)

/-! ### Sequences of calls -/

/-- The info after a deprecated call. -/
def afterUntyped (env : Env M C D) (info : Info D) (call : Dict String (List (AttributeValue D))) :
    Info D :=
  (upsertSearchAttributes env info (.untyped call)).1.info

/-- The info after the corresponding typed call. -/
def afterTyped (env : Env M C D) (unset : SearchAttributeIndexedValueType) (info : Info D)
    (call : Dict String (List (AttributeValue D))) : Info D :=
  (upsertSearchAttributes env info (.typed
    (call.entries.map fun entry => correspondingUpdate unset entry.1 entry.2))).1.info

/-- No value of the call is a single boolean. -/
def NoBool (call : Dict String (List (AttributeValue D))) : Prop :=
  ∀ entry ∈ call.entries, ∀ b, entry.2 ≠ [.bool b]

/-- One call from infos with the same typed attributes. -/
theorem call_agrees_iff (writes : WritesScalars env) (unset : SearchAttributeIndexedValueType)
    (call : Dict String (List (AttributeValue D)))
    (valid : ∀ entry ∈ call.entries, OneKind env entry.2) {info info' : Info D}
    (same : info.typedSearchAttributes = info'.typedSearchAttributes) :
    (afterUntyped env info call).typedSearchAttributes =
      (afterTyped env unset info' call).typedSearchAttributes ↔ NoBool call := by
  have untyped := untypedLoop_typed writes call.entries valid
    ⟨Dict.empty, call.entries.foldl (fun d entry => d.set entry.1 entry.2) info.searchAttributes,
      info.typedSearchAttributes⟩
  have typed := typedLoop_typed writes unset call.entries valid
    ⟨Dict.empty, info'.searchAttributes, info'.typedSearchAttributes⟩
  rw [show (afterUntyped env info call).typedSearchAttributes = _ from untyped,
    show (afterTyped env unset info' call).typedSearchAttributes = _ from typed]
  dsimp only
  rw [same]
  constructor
  · rintro agree ⟨name, vals⟩ member b rfl
    -- the name has a key of type Int on one side and of type Bool on the other
    have int : find _ name = some ⟨⟨name, .int⟩, .bool b⟩ :=
      foldl_find name [.bool b] (fun pairs entry => untypedStep pairs entry.1 entry.2)
        (fun entry inside other => untypedStep_find (valid entry inside) (Ne.symm other))
        (fun pairs => (find_putPair pairs ⟨⟨name, .int⟩, .bool b⟩ name).trans (if_pos rfl))
        call.distinct member info'.typedSearchAttributes
    have bool : find _ name = some ⟨⟨name, .bool⟩, .bool b⟩ :=
      foldl_find name [.bool b]
        (fun pairs entry => typedStep pairs (correspondingUpdate unset entry.1 entry.2))
        (fun entry inside other => typedStep_find (by
          rw [correspondingUpdate_name (valid entry inside)]
          exact Ne.symm other))
        (fun pairs => (find_putPair pairs ⟨⟨name, .bool⟩, .bool b⟩ name).trans (if_pos rfl))
        call.distinct member info'.typedSearchAttributes
    rw [agree, bool] at int
    simp at int
  · intro noBool
    have steps : ∀ entries : List (String × List (AttributeValue D)),
        (∀ entry ∈ entries, entry ∈ call.entries) → ∀ pairs,
        entries.foldl (fun pairs entry => untypedStep pairs entry.1 entry.2) pairs =
          entries.foldl (fun pairs entry =>
            typedStep pairs (correspondingUpdate unset entry.1 entry.2)) pairs := by
      intro entries inside
      induction entries with
      | nil => exact fun pairs => rfl
      | cons entry rest ih =>
        intro pairs
        obtain ⟨here, others⟩ := List.forall_mem_cons.mp inside
        rw [List.foldl_cons, List.foldl_cons,
          untypedStep_eq (valid entry here) (noBool entry here) unset]
        exact ih others _
    exact steps call.entries (fun _ member => member) _

/-- **Deprecated and typed upserts agree** after each call of every sequence exactly
    if no call has a single boolean. -/
theorem untyped_agree_iff (env : Env M C D) (writes : WritesScalars env)
    (unset : SearchAttributeIndexedValueType)
    (calls : List (Dict String (List (AttributeValue D))))
    (valid : ∀ call ∈ calls, ∀ entry ∈ call.entries, OneKind env entry.2) (start : Info D) :
    (∀ n, ((calls.take n).foldl (afterUntyped env) start).typedSearchAttributes =
        ((calls.take n).foldl (afterTyped env unset) start).typedSearchAttributes) ↔
      ∀ call ∈ calls, NoBool call := by
  -- both runs, from infos that have the same typed attributes
  suffices both : ∀ info info' : Info D,
      info.typedSearchAttributes = info'.typedSearchAttributes →
      ((∀ n, ((calls.take n).foldl (afterUntyped env) info).typedSearchAttributes =
        ((calls.take n).foldl (afterTyped env unset) info').typedSearchAttributes) ↔
      ∀ call ∈ calls, NoBool call) from both start start rfl
  induction calls with
  | nil => exact fun info info' same => iff_of_true (fun n => by simpa using same) (by simp)
  | cons call rest ih =>
    intro info info' same
    obtain ⟨first, others⟩ := List.forall_mem_cons.mp valid
    have one := call_agrees_iff writes unset call first same
    rw [List.forall_mem_cons]
    constructor
    · intro agree
      have noBool : NoBool call := one.mp (agree 1)
      exact ⟨noBool, (ih others _ _ (one.mpr noBool)).mp fun n => agree (n + 1)⟩
    · rintro ⟨noBool, later⟩ n
      cases n with
      | zero => exact same
      | succ n => exact (ih others _ _ (one.mpr noBool)).mpr later n

/-! ### Examples -/

/-- JSON text of scalars, of strings without characters to escape. -/
def scalarText : Converter.TypedJson.Json → String
  | .null => "null"
  | .bool b => if b then "true" else "false"
  | .int i => toString i
  | .str s => s!"\"{s}\""
  | _ => ""

def jsonText : Converter.TypedJson.Json → String
  | .array items => "[" ++ ",".intercalate (items.map scalarText) ++ "]"
  | j => scalarText j

/-- Dates are given by their ISO text; there are no messages. -/
def isoDates : Env Empty Empty String where
  libraries := {
    fullName := fun m => m.elim
    className := fun m => m.elim
    dumps := fun j => .ok (encode (jsonText j))
    loads := fun _ => none
    types := Converter.TypedJson.nested
    getSymbol := fun _ => none
    messageToJson := fun m => m.elim
    parse := fun cls => cls.elim
    serializeToString := fun m => m.elim
    parseFromString := fun cls => cls.elim }
  isoformat := id
  parse := some
  hasTimezone := fun text => text.endsWith "+00:00"
  text := fun _ => ""
  typeName := fun _ => ""

theorem isoDates_writes : WritesScalars isoDates :=
  ⟨fun _ _ => ⟨_, rfl⟩, fun _ _ => ⟨_, rfl⟩⟩

/-- A keyword, a keyword list and an integer, which is removed again. -/
def upserts : List (Dict String (List (AttributeValue String))) :=
  [⟨[("keyword", [.str "keyword1"]), ("keyword_list", [.str "a", .str "b"]), ("int", [.int 123])],
      by decide⟩,
    ⟨[("int", [])], by decide⟩]

theorem upserts_agree :
    (((upserts.take 2).foldl (afterUntyped isoDates) ⟨Dict.empty, []⟩).typedSearchAttributes =
      ((upserts.take 2).foldl (afterTyped isoDates .int) ⟨Dict.empty, []⟩).typedSearchAttributes) ∧
    ((upserts.take 2).foldl (afterUntyped isoDates) ⟨Dict.empty, []⟩).typedSearchAttributes =
      [⟨⟨"keyword", .keyword⟩, .str "keyword1"⟩,
        ⟨⟨"keyword_list", .keywordList⟩, .list [.str "a", .str "b"]⟩] := by
  have valid : ∀ call ∈ upserts, ∀ entry ∈ call.entries, OneKind isoDates entry.2 := by
    intro call member entry inside
    simp only [upserts, List.mem_cons, List.not_mem_nil, or_false] at member
    rcases member with rfl | rfl
    · simp only [List.mem_cons, List.not_mem_nil, or_false] at inside
      rcases inside with rfl | rfl | rfl
      · exact .str _
      · exact .strs _ _ []
      · exact .int _
    · rw [List.mem_singleton.mp inside]
      exact .empty
  have noBool : ∀ call ∈ upserts, NoBool call := by
    intro call member entry inside b same
    simp only [upserts, List.mem_cons, List.not_mem_nil, or_false] at member
    rcases member with rfl | rfl
    · simp only [List.mem_cons, List.not_mem_nil, or_false] at inside
      rcases inside with rfl | rfl | rfl <;> cases same
    · rw [List.mem_singleton.mp inside] at same
      cases same
  exact ⟨(untyped_agree_iff isoDates isoDates_writes .int upserts valid ⟨Dict.empty, []⟩).mpr noBool 2,
    rfl⟩

/-- `{"bool": [False]}`. -/
def boolUpsert : Dict String (List (AttributeValue String)) := ⟨[("bool", [.bool false])], by decide⟩

/-- The key of the boolean is one of type Int. -/
theorem bool_upsert_differs :
    OneKind isoDates (D := String) [.bool false] ∧
    (afterUntyped isoDates ⟨Dict.empty, []⟩ boolUpsert).typedSearchAttributes =
      [⟨⟨"bool", .int⟩, .bool false⟩] ∧
    (afterTyped isoDates .int ⟨Dict.empty, []⟩ boolUpsert).typedSearchAttributes =
      [⟨⟨"bool", .bool⟩, .bool false⟩] ∧
    (afterUntyped isoDates ⟨Dict.empty, []⟩ boolUpsert).typedSearchAttributes ≠
      (afterTyped isoDates .int ⟨Dict.empty, []⟩ boolUpsert).typedSearchAttributes := by
  refine ⟨.bool false, rfl, rfl, fun same => ?_⟩
  have keys : SearchAttributeIndexedValueType.int = .bool :=
    congrArg (fun pairs => ((pairs.map fun pair => pair.key.indexedValueType).head?).getD .text) same
  cases keys

end TemporalSdk.SearchAttributes
