import Mathlib.Data.List.Forall2
import Mathlib.Data.List.TakeWhile
import TemporalSdk.Converter.Json

/-!
# Round trip of typed values through JSON

The encoder does not know types: tuples, sets, deques and bytes become arrays,
enums and UUIDs numbers and strings, dataclasses objects. The hint is what
`value_to_type` has to tell them apart.

## Main result

`typed_json_round_trip`: a value that inhabits a hint is rebuilt from its JSON
value, at any nesting, through recursive dataclasses and optional members, when
the values of `Sequence` and `Iterable` hints are lists, those of `Mapping` hints
dicts, and a dataclass gives its fields back when it is called with them. Other
sequences come back as lists, and a dataclass is called once more:
`values_come_back_changed`.

## Proof strategy

By induction on `Inhabits`. Each loop of `value_to_type` has one lemma that says
what it returns when every part is rebuilt; an optional member rests on `null`
being the JSON value of `None` only and being read as nothing else.
-/

namespace TemporalSdk.Converter.TypedJson

/-! ### UUIDs -/

namespace Uuid

theorem hexValue_hexDigit (digit : Fin 16) : hexValue (hexDigit digit) = some digit := by
  revert digit
  decide

theorem remove_absent {first : Char} {others text : List Char} (absent : first ∉ text) :
    remove (first :: others) text = text := by
  induction text with
  | nil => rw [remove]
  | cons c rest ih =>
    obtain ⟨differs, absent⟩ := not_or.mp (List.mem_cons.not.mp absent)
    have notHere : (first :: others).isPrefixOf (c :: rest) = false := by
      simp [List.isPrefixOf, differs]
    rw [remove, if_neg (by rw [notHere]; decide), ih absent]

theorem dropWhile_absent {p : Char → Bool} {text : List Char} (absent : ∀ c ∈ text, p c = false) :
    text.dropWhile p = text := by
  rw [List.dropWhile_eq_self_iff]
  intro nonempty holds
  rw [absent _ (List.getElem_mem nonempty)] at holds
  cases holds

/-- Stripping leaves a text alone that has none of the characters to strip. -/
theorem strip_absent {p : Char → Bool} {text : List Char} (absent : ∀ c ∈ text, p c = false) :
    ((text.dropWhile p).reverse.dropWhile p).reverse = text := by
  rw [dropWhile_absent absent, dropWhile_absent, List.reverse_reverse]
  intro c member
  exact absent c (List.mem_reverse.mp member)

theorem hexDigits_map (digits : List (Fin 16)) (between : Bool)
    (allowed : between = true ∨ digits ≠ []) :
    hexDigits between (digits.map hexDigit) = some digits := by
  induction digits generalizing between with
  | nil =>
    rcases allowed with rfl | nonempty
    · rfl
    · exact (nonempty rfl).elim
  | cons digit rest ih =>
    have : hexDigit digit ≠ '_' := by
      clear allowed
      revert digit
      decide
    rw [List.map_cons, hexDigits, if_neg this, hexValue_hexDigit, ih true (Or.inl rfl)]
    rfl

theorem unsignedHex_of_absent {text : List Char} (lower : 'x' ∉ text) (upper : 'X' ∉ text) :
    unsignedHex text = hexDigits false text := by
  fun_cases unsignedHex text with
  | case1 => simp at lower
  | case2 => simp at lower
  | case3 => simp at upper
  | case4 => simp at upper
  | case5 => rfl

theorem mem_digits {digits : List (Fin 16)} {c : Char} (member : c ∈ digits.map hexDigit) :
    isBlank c = false ∧ c ≠ 'x' ∧ c ≠ 'X' ∧ c ≠ '+' ∧ c ≠ '-' ∧ c ≠ 'u' ∧ c ≠ '\x7b' ∧
      c ≠ '\x7d' := by
  obtain ⟨digit, -, rfl⟩ := List.mem_map.mp member
  clear member
  revert digit
  decide

theorem intOfHex_map {digits : List (Fin 16)} (nonempty : digits ≠ []) :
    intOfHex (digits.map hexDigit) = some digits := by
  have text : unsignedHex (digits.map hexDigit) = some digits := by
    rw [unsignedHex_of_absent, hexDigits_map digits false (Or.inr nonempty)]
    · intro member
      exact (mem_digits member).2.1 rfl
    · intro member
      exact (mem_digits member).2.2.1 rfl
  rw [intOfHex, strip_absent fun c member => (mem_digits member).1]
  split
  · rename_i rest signed
    have member : '+' ∈ digits.map hexDigit := by
      rw [signed]
      exact List.mem_cons_self
    exact ((mem_digits member).2.2.2.1 rfl).elim
  · exact text

/-- The groups and the hyphens between them. -/
theorem chars_eq (id : Uuid) :
    id.chars.filter (fun c => c ≠ '-') = id.digits.map hexDigit ∧
      ∀ c ∈ id.chars, c ∈ id.digits.map hexDigit ∨ c = '-' := by
  constructor
  · have keeps : (id.digits.map hexDigit).filter (fun c => c ≠ '-') = id.digits.map hexDigit := by
      rw [List.filter_eq_self]
      intro c member
      exact decide_eq_true (mem_digits member).2.2.2.2.1
    have groups : id.digits.map hexDigit = (id.digits.map hexDigit).take 8 ++
        (((id.digits.map hexDigit).drop 8).take 4 ++ (((id.digits.map hexDigit).drop 12).take 4 ++
          (((id.digits.map hexDigit).drop 16).take 4 ++ (id.digits.map hexDigit).drop 20))) := by
      have rejoin : ∀ n, (id.digits.map hexDigit).drop n =
          ((id.digits.map hexDigit).drop n).take 4 ++ (id.digits.map hexDigit).drop (n + 4) := by
        intro n
        rw [← List.drop_drop, List.take_append_drop]
      conv_lhs =>
        rw [← List.take_append_drop 8 (id.digits.map hexDigit), rejoin 8, rejoin 12, rejoin 16]
    conv_rhs => rw [← keeps, groups]
    simp only [chars, List.filter_append, List.filter_cons]
    rfl
  · intro c member
    simp only [chars, List.mem_append, List.mem_cons] at member
    rcases member with h | rfl | h | rfl | h | rfl | h | rfl | h
    · exact Or.inl (List.mem_of_mem_take h)
    · exact Or.inr rfl
    · exact Or.inl (List.mem_of_mem_drop (List.mem_of_mem_take h))
    · exact Or.inr rfl
    · exact Or.inl (List.mem_of_mem_drop (List.mem_of_mem_take h))
    · exact Or.inr rfl
    · exact Or.inl (List.mem_of_mem_drop (List.mem_of_mem_take h))
    · exact Or.inr rfl
    · exact Or.inl (List.mem_of_mem_drop h)

theorem ofString_toString (id : Uuid) : ofString id.toString = some id := by
  obtain ⟨hex, only⟩ := id.chars_eq
  have absent : 'u' ∉ id.chars := by
    intro member
    rcases only _ member with digit | hyphen
    · exact (mem_digits digit).2.2.2.2.2.1 rfl
    · exact absurd hyphen (by decide)
  have noBraces : stripBraces id.chars = id.chars := by
    apply strip_absent
    intro c member
    apply decide_eq_false
    rcases only c member with digit | rfl
    · exact not_or.mpr (mem_digits digit).2.2.2.2.2.2
    · decide
  have nonempty : id.digits ≠ [] := by
    intro empty
    have := id.length_eq
    rw [empty] at this
    cases this
  simp only [ofString, toString, String.toList_ofList, remove_absent absent, noBraces, hex,
    List.length_map, id.length_eq, if_true, intOfHex_map nonempty, Option.bind_some]
  simp [id.length_eq]

end Uuid

/-! ### JSON values -/

mutual

theorem toJson_toValue : ∀ value : Json, value.toValue.toJson = value
  | .null | .bool _ | .int _ | .float _ | .str _ => rfl
  | .array items => congrArg Json.array (toJsons_toValues items)
  | .object entries => congrArg Json.object (toJsonEntries_toEntries entries)

theorem toJsons_toValues : ∀ items : List Json, Value.toJsons (Json.toValues items) = items
  | [] => rfl
  | item :: rest => congrArg₂ List.cons (toJson_toValue item) (toJsons_toValues rest)

theorem toJsonEntries_toEntries :
    ∀ entries : List (String × Json), Value.toJsonEntries (Json.toEntries entries) = entries
  | [] => rfl
  | (key, value) :: rest => by
    rw [Json.toEntries, Value.toJsonEntries, toJson_toValue value, toJsonEntries_toEntries rest]

end

mutual

/-- The encoder meets a dataclass only after `asdict` has turned what is inside
    it into dicts: the JSON value is the same. -/
theorem toJson_asdict : ∀ value : Value, value.asdict.toJson = value.toJson
  | .list items => congrArg Json.array (toJsons_asdicts items)
  | .tuple items => congrArg Json.array (toJsons_asdicts items)
  | .dict entries => congrArg Json.object (toJsonEntries_asdictEntries entries)
  | .dataclass _ fields => congrArg Json.object (toJsonEntries_asdictEntries fields)
  | .none | .bool _ | .int _ | .float _ | .str _ | .bytes _ | .set _ | .deque _ => rfl
  | .intEnum _ _ | .strEnum _ _ | .uuid _ => rfl

theorem toJsons_asdicts :
    ∀ items : List Value, Value.toJsons (Value.asdicts items) = Value.toJsons items
  | [] => rfl
  | item :: rest => congrArg₂ List.cons (toJson_asdict item) (toJsons_asdicts rest)

theorem toJsonEntries_asdictEntries : ∀ entries : List (String × Value),
    Value.toJsonEntries (Value.asdictEntries entries) = Value.toJsonEntries entries
  | [] => rfl
  | (key, value) :: rest => by
    rw [Value.asdictEntries, Value.toJsonEntries, Value.toJsonEntries, toJson_asdict value,
      toJsonEntries_asdictEntries rest]

end

theorem toJson_eq_null {v : Value} (null : v.toJson = .null) : v = .none := by
  cases v with
  | none => rfl
  | _ => cases null

theorem toJsons_eq_map (items : List Value) : Value.toJsons items = items.map Value.toJson := by
  induction items with
  | nil => rfl
  | cons v rest ih => rw [Value.toJsons, ih, List.map_cons]

theorem toJsonEntries_eq_map (entries : List (String × Value)) :
    Value.toJsonEntries entries = entries.map fun p => (p.1, p.2.toJson) := by
  induction entries with
  | nil => rfl
  | cons p rest ih => rw [Value.toJsonEntries, ih, List.map_cons]

theorem lookup_toJsonEntries (entries : List (String × Value)) (key : String) :
    (Value.toJsonEntries entries).lookup key = (entries.lookup key).map Value.toJson := by
  induction entries with
  | nil => rfl
  | cons entry rest ih =>
    obtain ⟨key', v⟩ := entry
    rw [Value.toJsonEntries, List.lookup_cons, List.lookup_cons]
    split
    · rfl
    · exact ih

theorem lookup_of_mem {entries : List (String × Value)} (distinct : (entries.map Prod.fst).Nodup)
    {p : String × Value} (member : p ∈ entries) : entries.lookup p.1 = some p.2 := by
  induction entries with
  | nil => cases member
  | cons entry rest ih =>
    obtain ⟨fresh, distinct⟩ := List.nodup_cons.mp distinct
    rcases List.mem_cons.mp member with rfl | later
    · exact List.lookup_cons_self
    · have differs : (p.1 == entry.1) = false := by
        apply beq_false_of_ne
        intro same
        exact fresh (same ▸ List.mem_map_of_mem later)
      rw [List.lookup_cons, differs]
      exact ih distinct later

/-! ### Values of a hint -/

/-- `v` is a value of the hint. A set has no two equal elements, and they have a
    hash; a dataclass has its fields in the order of their definition. In the wide
    sense tuples count as values of `Sequence` and `Iterable`, which Python's
    abstract classes do include, and a dataclass need not give its fields back when
    it is called with them. -/
inductive Inhabits (env : Env) (wide : Bool) : Hint → Value → Prop
  | any (value : Json) : Inhabits env wide .any value.toValue
  | int (i : Int) : Inhabits env wide .int (.int i)
  | float (f : PyFloat) : Inhabits env wide .float (.float f)
  | bool (b : Bool) : Inhabits env wide .bool (.bool b)
  | str (s : String) : Inhabits env wide .str (.str s)
  | bytes (data : List UInt8) : Inhabits env wide .bytes (.bytes data)
  | none : Inhabits env wide .none .none
  | literal {args : List Json} {arg : Json} (member : arg ∈ args) (scalar : arg.isLiteral) :
      Inhabits env wide (.literal args) arg.toValue
  | newType {name : String} {supertype : Hint} {v : Value}
      (inhabits : Inhabits env wide supertype v) :
      Inhabits env wide (.newType name supertype) v
  | optional {args : List Hint} {arg : Hint} {v : Value}
      (optional : args = [arg, .none] ∨ args = [.none, arg])
      (inhabits : Inhabits env wide arg v) : Inhabits env wide (.union args) v
  | optionalNone {args : List Hint} {arg : Hint}
      (optional : args = [arg, .none] ∨ args = [.none, arg]) :
      Inhabits env wide (.union args) .none
  | list {arg : Hint} {items : List Value} (each : ∀ v ∈ items, Inhabits env wide arg v) :
      Inhabits env wide (.list arg) (.list items)
  | sequence {arg : Hint} {items : List Value} (each : ∀ v ∈ items, Inhabits env wide arg v) :
      Inhabits env wide (.sequence arg) (.list items)
  | iterable {arg : Hint} {items : List Value} (each : ∀ v ∈ items, Inhabits env wide arg v) :
      Inhabits env wide (.iterable arg) (.list items)
  | sequenceTuple {arg : Hint} {items : List Value} (isWide : wide = true)
      (each : ∀ v ∈ items, Inhabits env wide arg v) :
      Inhabits env wide (.sequence arg) (.tuple items)
  | iterableTuple {arg : Hint} {items : List Value} (isWide : wide = true)
      (each : ∀ v ∈ items, Inhabits env wide arg v) :
      Inhabits env wide (.iterable arg) (.tuple items)
  | set {arg : Hint} {items : List Value} (each : ∀ v ∈ items, Inhabits env wide arg v)
      (hashable : ∀ v ∈ items, v.hashable env = true)
      (distinct : items.Pairwise fun v w => env.eq w v = false) :
      Inhabits env wide (.set arg) (.set items)
  | deque {arg : Hint} {items : List Value} (each : ∀ v ∈ items, Inhabits env wide arg v) :
      Inhabits env wide (.deque arg) (.deque items)
  | tuple {args : List Hint} {items : List Value} (size : items.length = args.length)
      (each : ∀ p ∈ args.zip items, Inhabits env wide p.1 p.2) :
      Inhabits env wide (.tuple args) (.tuple items)
  | variadicTuple {arg : Hint} {items : List Value}
      (each : ∀ v ∈ items, Inhabits env wide arg v) :
      Inhabits env wide (.variadicTuple arg) (.tuple items)
  | dict {arg : Hint} {entries : List (String × Value)}
      (each : ∀ p ∈ entries, Inhabits env wide arg p.2) :
      Inhabits env wide (.dict arg) (.dict entries)
  | mapping {arg : Hint} {entries : List (String × Value)}
      (each : ∀ p ∈ entries, Inhabits env wide arg p.2) :
      Inhabits env wide (.mapping arg) (.dict entries)
  | typedDict {cls : String} {d : TypedDictDef} {entries : List (String × Value)}
      (defined : env.typedDicts cls = some d)
      (required : ∀ p ∈ d.required, p.1 ∈ entries.map Prod.fst)
      (hintOf : String → Hint) (declared : ∀ p ∈ entries, d.hint p.1 = some (hintOf p.1))
      (each : ∀ p ∈ entries, Inhabits env wide (hintOf p.1) p.2) :
      Inhabits env wide (.typedDict cls) (.dict entries)
  | dataclass {cls : String} {d : DataclassDef} {fields : List (String × Value)}
      (defined : env.dataclasses cls = some d)
      (named : fields.map Prod.fst = d.fields.map FieldDef.name)
      (distinct : (fields.map Prod.fst).Nodup)
      (called : wide = true ∨ d.init fields = some fields)
      (each : ∀ p ∈ d.fields.zip fields, Inhabits env wide p.1.hint p.2.2) :
      Inhabits env wide (.dataclass cls) (.dataclass cls fields)
  | intEnum {cls : String} {value : Int} (member : value ∈ env.intEnums cls) :
      Inhabits env wide (.intEnum cls) (.intEnum cls value)
  | strEnum {cls : String} {value : String} (member : value ∈ env.strEnums cls) :
      Inhabits env wide (.strEnum cls) (.strEnum cls value)
  | uuid (id : Uuid) : Inhabits env wide .uuid (.uuid id)

/-! ### Loops -/

section Loops

variable {env : Env}

/-- A round of a loop: the part is converted, then the others are. -/
theorem round_eq_ok {α : Type} {error : TypeError} {first : Except TypeError Value}
    {others : Except TypeError (List α)} {make : Value → α} {all : List α} :
    (reraise error first >>= fun v => others >>= fun vs => Except.ok (make v :: vs)) = .ok all ↔
      ∃ v vs, first = .ok v ∧ others = .ok vs ∧ all = make v :: vs := by
  cases first with
  | error e => simp [reraise, bind, Except.bind]
  | ok v =>
    cases others with
    | error e => simp [reraise, bind, Except.bind]
    | ok vs => simp [reraise, bind, Except.bind, eq_comm]

/-- The loop over the items of an iterable converts each item. -/
theorem convertItems_iff {arg : Hint} {items : List Json} {vs : List Value} (i : Nat) :
    convertItems env arg i items = .ok vs ↔
      List.Forall₂ (fun item v => valueToType env arg item = .ok v) items vs := by
  induction items generalizing i vs with
  | nil =>
    rw [convertItems, List.forall₂_nil_left_iff, Except.ok.injEq, eq_comm]
  | cons item rest ih =>
    rw [convertItems, round_eq_ok, List.forall₂_cons_left_iff]
    simp only [ih (i + 1)]

/-- The loop over the items of a fixed tuple fails if there are more items than
    types, not if there are fewer. -/
theorem convertTuple_iff {args : List Hint} {items : List Json} {vs : List Value} (i : Nat) :
    convertTuple env args i items = .ok vs ↔ items.length ≤ args.length ∧
      List.Forall₂ (fun p v => valueToType env p.1 p.2 = .ok v) (args.zip items) vs := by
  induction items generalizing args i vs with
  | nil =>
    rw [convertTuple, List.zip_nil_right, List.forall₂_nil_left_iff, Except.ok.injEq, eq_comm]
    simp
  | cons item rest ih =>
    cases args with
    | nil =>
      rw [convertTuple]
      simp
    | cons arg args =>
      rw [convertTuple, round_eq_ok, List.zip_cons_cons, List.forall₂_cons_left_iff,
        List.length_cons, List.length_cons, Nat.add_le_add_iff_right]
      simp only [ih (i + 1)]
      constructor
      · rintro ⟨v, others, here, ⟨size, later⟩, rfl⟩
        exact ⟨size, v, others, here, later, rfl⟩
      · rintro ⟨size, v, others, here, later, rfl⟩
        exact ⟨v, others, here, ⟨size, later⟩, rfl⟩

/-- The loop over the entries of a mapping keeps the keys. -/
theorem convertEntries_iff {hintOf : String → Hint} {entries : List (String × Json)}
    {vs : List (String × Value)} :
    convertEntries env hintOf entries = .ok vs ↔
      List.Forall₂ (fun e p => valueToType env (hintOf e.1) e.2 = .ok p.2 ∧ p.1 = e.1) entries vs := by
  induction entries generalizing vs with
  | nil =>
    rw [convertEntries, List.forall₂_nil_left_iff, Except.ok.injEq, eq_comm]
  | cons entry rest ih =>
    obtain ⟨key, value⟩ := entry
    rw [convertEntries, @round_eq_ok _ _ _ _ (fun v => (key, v)), List.forall₂_cons_left_iff]
    simp only [ih]
    constructor
    · rintro ⟨v, others, here, later, rfl⟩
      exact ⟨(key, v), others, ⟨here, rfl⟩, later, rfl⟩
    · rintro ⟨⟨_, v⟩, others, ⟨here, rfl⟩, later, rfl⟩
      exact ⟨v, others, here, later, rfl⟩

/-- So does the loop over the fields of a dataclass, if all of them are given. -/
theorem convertFields_iff {cls : String} {defs : List FieldDef} {entries : List (String × Json)}
    {vs : List (String × Value)}
    (given : ∀ field ∈ defs, ∃ value, entries.lookup field.name = some value) :
    convertFields env cls defs entries = .ok vs ↔
      List.Forall₂ (fun field p => (∃ value, entries.lookup field.name = some value ∧
        valueToType env field.hint value = .ok p.2) ∧ p.1 = field.name) defs vs := by
  induction defs generalizing vs with
  | nil =>
    rw [convertFields, List.forall₂_nil_left_iff, Except.ok.injEq, eq_comm]
  | cons field rest ih =>
    obtain ⟨⟨value, found⟩, given⟩ := List.forall_mem_cons.mp given
    rw [convertFields, List.forall₂_cons_left_iff]
    split
    next value' found' =>
      cases found.symm.trans found'
      rw [@round_eq_ok _ _ _ _ (fun v => (field.name, v))]
      simp only [ih given]
      constructor
      · rintro ⟨v, others, here, later, rfl⟩
        exact ⟨(field.name, v), others, ⟨⟨value, found, here⟩, rfl⟩, later, rfl⟩
      · rintro ⟨⟨_, v⟩, others, ⟨⟨value', found', here⟩, rfl⟩, later, rfl⟩
        cases found.symm.trans found'
        exact ⟨v, others, here, later, rfl⟩
    next missing => cases found.symm.trans missing

/-- A list of values is rebuilt exactly if each of them is. -/
theorem convertItems_self {arg : Hint} {items : List Value} (i : Nat) :
    convertItems env arg i (Value.toJsons items) = .ok items ↔
      ∀ v ∈ items, valueToType env arg v.toJson = .ok v := by
  rw [convertItems_iff, toJsons_eq_map, List.forall₂_map_left_iff]
  exact List.forall₂_same

theorem convertItems_rebuilt {arg : Hint} {items : List Value}
    (each : ∀ v ∈ items, valueToType env arg v.toJson = .ok v) (i : Nat) :
    convertItems env arg i (Value.toJsons items) = .ok items := (convertItems_self i).mpr each

theorem convertTuple_rebuilt {args : List Hint} {items : List Value}
    (size : items.length = args.length)
    (each : ∀ p ∈ args.zip items, valueToType env p.1 p.2.toJson = .ok p.2) (i : Nat) :
    convertTuple env args i (Value.toJsons items) = .ok items := by
  have values : items = (args.zip items).map Prod.snd := (List.map_snd_zip size.le).symm
  apply (convertTuple_iff i).mpr
  rw [toJsons_eq_map, List.length_map]
  refine ⟨size.le, ?_⟩
  rw [List.zip_map_right, List.forall₂_map_left_iff]
  nth_rewrite 2 [values]
  rw [List.forall₂_map_right_iff]
  exact List.forall₂_same.mpr each

theorem convertEntries_self {hintOf : String → Hint} {entries : List (String × Value)} :
    convertEntries env hintOf (Value.toJsonEntries entries) = .ok entries ↔
      ∀ p ∈ entries, valueToType env (hintOf p.1) p.2.toJson = .ok p.2 := by
  rw [convertEntries_iff, toJsonEntries_eq_map, List.forall₂_map_left_iff, List.forall₂_same]
  simp only [and_true]

theorem convertEntries_rebuilt {hintOf : String → Hint} {entries : List (String × Value)}
    (each : ∀ p ∈ entries, valueToType env (hintOf p.1) p.2.toJson = .ok p.2) :
    convertEntries env hintOf (Value.toJsonEntries entries) = .ok entries :=
  convertEntries_self.mpr each

/-- The loop over the fields looks each one up in the whole object, so the
    induction is on the fields still to come and keeps the object. -/
theorem convertFields_rebuilt {cls : String} {defs : List FieldDef}
    {all fields : List (String × Value)} (named : fields.map Prod.fst = defs.map FieldDef.name)
    (present : ∀ p ∈ fields, all.lookup p.1 = some p.2)
    (each : ∀ p ∈ defs.zip fields, valueToType env p.1.hint p.2.2.toJson = .ok p.2.2) :
    convertFields env cls defs (Value.toJsonEntries all) = .ok fields := by
  induction fields generalizing defs with
  | nil =>
    cases defs with
    | nil => rw [convertFields]
    | cons field rest => cases named
  | cons entry rest ih =>
    cases defs with
    | nil => cases named
    | cons field defs =>
      obtain ⟨key, v⟩ := entry
      obtain ⟨rfl, others⟩ := List.cons.inj named
      obtain ⟨here, present⟩ := List.forall_mem_cons.mp present
      rw [List.zip_cons_cons] at each
      obtain ⟨first, each⟩ := List.forall_mem_cons.mp each
      have found : (Value.toJsonEntries all).lookup field.name = some v.toJson := by
        rw [lookup_toJsonEntries, here]
        rfl
      rw [convertFields]
      split
      · rename_i value found'
        cases found.symm.trans found'
        rw [first, ih others present each]
        rfl
      · rename_i missing
        cases found.symm.trans missing

/-- The generated `__init__` gives the fields back: a call with all of them uses no
    default. -/
theorem generatedInit_given {defs : List FieldDef} {fields : List (String × Value)}
    (named : fields.map Prod.fst = defs.map FieldDef.name)
    (distinct : (fields.map Prod.fst).Nodup) : generatedInit defs fields = some fields := by
  have given : ∀ (defs : List FieldDef) (part : List (String × Value)),
      part.map Prod.fst = defs.map FieldDef.name → (∀ p ∈ part, fields.lookup p.1 = some p.2) →
      (defs.mapM fun field =>
        ((fields.lookup field.name).or field.default).map fun v => (field.name, v)) =
          some part := by
    intro defs
    induction defs with
    | nil =>
      intro part named _
      rw [List.map_eq_nil_iff.mp named]
      rfl
    | cons field defs ih =>
      intro part named present
      cases part with
      | nil => cases named
      | cons entry part =>
        obtain ⟨key, v⟩ := entry
        obtain ⟨rfl, others⟩ := List.cons.inj named
        obtain ⟨here, present⟩ := List.forall_mem_cons.mp present
        rw [List.mapM_cons, here, ih part others present]
        rfl
  apply given defs fields named
  intro p member
  exact lookup_of_mem distinct member

theorem mapM_makeByte (data : List UInt8) :
    (data.map fun byte => Json.int byte.toNat).mapM makeByte = some data := by
  induction data with
  | nil => rfl
  | cons byte rest ih =>
    have : makeByte (.int byte.toNat) = some byte := by
      have small := byte.toNat_lt
      simp only [makeByte]
      rw [if_pos (by omega), Int.toNat_natCast, UInt8.ofNat_toNat]
    rw [List.map_cons, List.mapM_cons, this, ih]
    rfl

theorem foldl_distinct (kept items : List Value)
    (distinct : (kept ++ items).Pairwise fun v w => env.eq w v = false) :
    items.foldl (fun kept v => if kept.any (env.eq v) then kept else kept ++ [v]) kept =
      kept ++ items := by
  induction items generalizing kept with
  | nil => simp
  | cons v rest ih =>
    have new : kept.any (env.eq v) = false := by
      rw [List.any_eq_false]
      intro w member
      rw [(List.pairwise_append.mp distinct).2.2 w member v List.mem_cons_self]
      decide
    rw [List.foldl_cons, new, if_neg (by decide), ih (kept ++ [v])]
    · simp
    · simpa using distinct

theorem makeSet_distinct {items : List Value} (hashable : ∀ v ∈ items, v.hashable env = true)
    (distinct : items.Pairwise fun v w => env.eq w v = false) :
    makeSet env items = some items := by
  rw [makeSet, if_pos (List.all_eq_true.mpr hashable), foldl_distinct [] items distinct]
  rfl

mutual

/-- Nothing but `None` is made of `null`. -/
theorem valueToType_null : ∀ (hint : Hint) {v : Value},
    valueToType env hint .null = .ok v → v = .none
  | .newType _ supertype, v, converted => by
    rw [valueToType] at converted
    exact valueToType_null supertype converted
  | .union args, v, converted => by
    rw [valueToType] at converted
    cases inner : convertUnion env args .null with
    | error e =>
      rw [inner] at converted
      cases converted
    | ok w =>
      rw [inner] at converted
      cases converted
      exact convertUnion_null args inner
  | .literal args, v, converted => by
    rw [valueToType] at converted
    split at converted
    · cases converted
      rfl
    · cases converted
  | .any, v, converted | .none, v, converted => by
    rw [valueToType] at converted
    cases converted
    rfl
  | .int, v, converted | .float, v, converted | .bool, v, converted | .str, v, converted
  | .bytes, v, converted | .dict _, v, converted | .mapping _, v, converted
  | .typedDict _, v, converted | .dataclass _, v, converted | .intEnum _, v, converted
  | .strEnum _, v, converted | .uuid, v, converted => by
    rw [valueToType.eq_def] at converted
    cases converted
  | .list _, v, converted | .sequence _, v, converted | .iterable _, v, converted
  | .set _, v, converted | .deque _, v, converted | .variadicTuple _, v, converted
  | .tuple _, v, converted => by
    rw [valueToType.eq_def] at converted
    cases converted

theorem convertUnion_null : ∀ (args : List Hint) {v : Value},
    convertUnion env args .null = .ok v → v = .none
  | [], v, converted => by
    rw [convertUnion] at converted
    cases converted
  | arg :: rest, v, converted => by
    rw [convertUnion] at converted
    split at converted
    · rename_i w first
      cases converted
      exact valueToType_null arg first
    · exact convertUnion_null rest converted

end

/-- An optional member: whichever comes first, `None` is made of `null` alone. -/
theorem convertUnion_optional {args : List Hint} {arg : Hint} {v : Value}
    (optional : args = [arg, .none] ∨ args = [.none, arg])
    (rebuilt : v = .none ∨ valueToType env arg v.toJson = .ok v) :
    convertUnion env args v.toJson = .ok v := by
  have ofNull : valueToType env .none .null = .ok .none := by rw [valueToType]
  rcases optional with rfl | rfl
  · rw [convertUnion]
    split
    · rename_i w first
      rcases rebuilt with rfl | whole
      · rw [valueToType_null arg first]
      · exact first.symm.trans whole
    · rename_i e failed
      rcases rebuilt with rfl | whole
      · rw [Value.toJson, convertUnion, ofNull]
      · cases whole.symm.trans failed
  · rw [convertUnion]
    split
    · rename_i w first
      -- `None` accepts `null` only, which is the JSON value of nothing else.
      have isNull : v.toJson = .null ∧ w = .none := by
        rw [valueToType.eq_def] at first
        cases null : v.toJson with
        | null =>
          rw [null] at first
          cases first
          exact ⟨rfl, rfl⟩
        | _ =>
          rw [null] at first
          cases first
      rw [toJson_eq_null isNull.1, isNull.2]
    · rename_i e failed
      rcases rebuilt with rfl | whole
      · cases ofNull.symm.trans failed
      · rw [convertUnion, whole]

end Loops

/-! ### The round trip -/

/-- `value_to_type(T, j) = v` for the JSON value `j` of a value `v` of `T`. -/
theorem typed_json_round_trip (env : Env) (hint : Hint) (v : Value)
    (inhabits : Inhabits env false hint v) : valueToType env hint v.toJson = .ok v := by
  induction inhabits with
  | any value => rw [valueToType, toJson_toValue]
  | int i => rw [Value.toJson, valueToType]
  | float f => rw [Value.toJson, valueToType]
  | bool b => rw [Value.toJson, valueToType]
  | str s => rw [Value.toJson, valueToType]
  | bytes data =>
    rw [Value.toJson, valueToType, mapM_makeByte]
    rfl
  | none => rw [Value.toJson, valueToType]
  | @literal args arg member scalar =>
    have found : (args.any fun other => env.eq other.toValue arg.toValue) = true :=
      List.any_eq_true.mpr ⟨arg, member, env.eq_self arg scalar⟩
    rw [toJson_toValue, valueToType, if_pos found]
  | newType _ ih => rw [valueToType, ih]
  | optional optional _ ih =>
    rw [valueToType, convertUnion_optional optional (Or.inr ih)]
    rfl
  | optionalNone optional =>
    rw [valueToType, convertUnion_optional optional (Or.inl rfl)]
    rfl
  | list _ each =>
    rw [Value.toJson, valueToType.eq_def]
    simp only [Json.iter?, convertItems_rebuilt each 0]
    rfl
  | sequence _ each =>
    rw [Value.toJson, valueToType.eq_def]
    simp only [Json.iter?, convertItems_rebuilt each 0]
    rfl
  | iterable _ each =>
    rw [Value.toJson, valueToType.eq_def]
    simp only [Json.iter?, convertItems_rebuilt each 0]
    rfl
  | sequenceTuple isWide => cases isWide
  | iterableTuple isWide => cases isWide
  | set _ hashable distinct each =>
    rw [Value.toJson, valueToType.eq_def]
    simp only [Json.iter?, convertItems_rebuilt each 0]
    change (makeSet env _).elim _ _ = _
    rw [makeSet_distinct hashable distinct]
    rfl
  | deque _ each =>
    rw [Value.toJson, valueToType.eq_def]
    simp only [Json.iter?, convertItems_rebuilt each 0]
    rfl
  | @tuple args items size _ each =>
    rw [Value.toJson, valueToType.eq_def]
    cases args with
    | nil =>
      rw [List.length_eq_zero_iff.mp size]
      rfl
    | cons arg args =>
      simp only [Json.iter?, convertTuple_rebuilt size each 0]
      rfl
  | variadicTuple _ each =>
    rw [Value.toJson, valueToType.eq_def]
    simp only [Json.iter?, convertItems_rebuilt each 0]
    rfl
  | dict _ each =>
    rw [Value.toJson, valueToType, convertEntries_rebuilt each]
    rfl
  | mapping _ each =>
    rw [Value.toJson, valueToType, convertEntries_rebuilt each]
    rfl
  | typedDict defined required hintOf declared _ each =>
    rw [Value.toJson, valueToType, convertEntries_rebuilt]
    · rfl
    · intro p member
      rw [defined, Option.bind_some, declared p member]
      exact each p member
  | dataclass defined named distinct called _ each =>
    have present := fun p member => lookup_of_mem distinct (p := p) member
    have called := called.resolve_left (by simp)
    rw [Value.toJson, valueToType]
    simp only [defined, convertFields_rebuilt named present each]
    change (DataclassDef.construct _ _ _).elim _ _ = _
    rw [DataclassDef.construct, called]
    rfl
  | intEnum member => rw [Value.toJson, valueToType, if_pos member]
  | strEnum member => rw [Value.toJson, valueToType, if_pos member]
  | uuid id =>
    rw [Value.toJson, valueToType, Uuid.ofString_toString]
    rfl

/-- `==` of `None`, booleans, strings and numbers of one kind; `True` is equal to `1`. -/
def scalarEq : Value → Value → Bool
  | .none, .none => true
  | .str s, .str t => s = t
  -- the zeros are equal whatever their signs
  | .float f, .float g => !isNan f && (f = g || (f <<< 1 = 0 && g <<< 1 = 0))
  | .bool a, .bool b => a = b
  | .int i, .int j => i = j
  | .bool a, .int i | .int i, .bool a => i = if a then 1 else 0
  | _, _ => false

/-- A module with one dataclass, which has lists and optional members of itself. -/
def nested : Env where
  dataclasses name :=
    if name = "NestedDataClass" then some {
      fields := [⟨"foo", .str, none⟩,
        ⟨"bar", .list (.dataclass "NestedDataClass"), some (.list [])⟩,
        ⟨"baz", .union [.dataclass "NestedDataClass", .none], some .none⟩,
        ⟨"qux", .union [.uuid, .none], some .none⟩]
      hashable := false }
    else none
  typedDicts _ := none
  intEnums _ := []
  strEnums _ := []
  eq := scalarEq
  eq_self value scalar := by
    cases value with
    | null => rfl
    | bool b => exact decide_eq_true rfl
    | int i => exact decide_eq_true rfl
    | str s => exact decide_eq_true rfl
    | float f =>
      have number : isNan f = false := by simpa [Json.isLiteral] using scalar
      simp [Json.toValue, scalarEq, number]
    | array items => cases scalar
    | object entries => cases scalar
  floatOfInt _ := none
  intOfFloat _ := none

/-- An instance with no members of its own class. -/
def NestedDataClass (foo : String) : Value :=
  .dataclass "NestedDataClass" [("foo", .str foo), ("bar", .list []), ("baz", .none), ("qux", .none)]

theorem nested_inhabits (foo : String) {bar : List Value} {baz : Value}
    (members : ∀ v ∈ bar, Inhabits nested false (.dataclass "NestedDataClass") v)
    (member : Inhabits nested false (.union [.dataclass "NestedDataClass", .none]) baz) :
    Inhabits nested false (.dataclass "NestedDataClass") (.dataclass "NestedDataClass"
      [("foo", .str foo), ("bar", .list bar), ("baz", baz), ("qux", .none)]) := by
  have distinct : ["foo", "bar", "baz", "qux"].Nodup := by decide
  apply Inhabits.dataclass rfl rfl
  · exact distinct
  · exact .inr (generatedInit_given rfl distinct)
  · intro p field
    simp only [List.zip_cons_cons, List.zip_nil_right, List.mem_cons, List.not_mem_nil,
      or_false] at field
    rcases field with rfl | rfl | rfl | rfl
    · exact Inhabits.str foo
    · exact Inhabits.list members
    · exact member
    · exact Inhabits.optionalNone (Or.inl rfl)

theorem typed_json_round_trip_nested :
    valueToType nested (.dataclass "NestedDataClass") (Value.dataclass "NestedDataClass"
      [("foo", .str "foo"), ("bar", .list [NestedDataClass "bar"]),
        ("baz", NestedDataClass "baz"), ("qux", .none)]).toJson =
      .ok (.dataclass "NestedDataClass" [("foo", .str "foo"), ("bar", .list [NestedDataClass "bar"]),
        ("baz", NestedDataClass "baz"), ("qux", .none)]) := by
  have leaf : ∀ foo, Inhabits nested false (.dataclass "NestedDataClass") (NestedDataClass foo) := by
    intro foo
    apply nested_inhabits foo
    · intro v member
      cases member
    · exact Inhabits.optionalNone (Or.inl rfl)
  apply typed_json_round_trip
  apply nested_inhabits "foo"
  · intro v member
    rw [List.mem_singleton.mp member]
    exact leaf "bar"
  · exact Inhabits.optional (Or.inl rfl) (leaf "baz")

/-- A dataclass with one field, which its `__post_init__` increments. -/
def counting : Env := { nested with
  dataclasses := fun name =>
    if name = "Counter" then some {
      fields := [⟨"count", .int, none⟩]
      hashable := false
      init := fun given =>
        match generatedInit [⟨"count", .int, none⟩] given with
        | some [("count", .int n)] => some [("count", .int (n + 1))]
        | _ => none }
    else none }

/-- Tuples are values of `Sequence` too, but what comes back is a list; and what
    comes back of a dataclass has been through its `__post_init__` once more. -/
theorem values_come_back_changed :
    (Inhabits nested true (.sequence .int) (.tuple [.int 1, .int 2]) ∧
      valueToType nested (.sequence .int) (Value.tuple [.int 1, .int 2]).toJson =
        .ok (.list [.int 1, .int 2])) ∧
    (Inhabits counting true (.dataclass "Counter") (.dataclass "Counter" [("count", .int 2)]) ∧
      valueToType counting (.dataclass "Counter")
        (Value.dataclass "Counter" [("count", .int 2)]).toJson =
          .ok (.dataclass "Counter" [("count", .int 3)])) ∧
    ¬∀ (env : Env) (hint : Hint) (v : Value), Inhabits env true hint v →
      valueToType env hint v.toJson = .ok v := by
  have tuple : Inhabits nested true (.sequence .int) (.tuple [.int 1, .int 2]) :=
    .sequenceTuple rfl (by simp [Inhabits.int])
  have list : valueToType nested (.sequence .int) (Value.tuple [.int 1, .int 2]).toJson =
      .ok (.list [.int 1, .int 2]) := by
    rw [Value.toJson, valueToType.eq_def]
    simp only [Json.iter?]
    rw [convertItems_rebuilt]
    · rfl
    · intro v member
      simp only [List.mem_cons, List.not_mem_nil, or_false] at member
      rcases member with rfl | rfl <;> rw [Value.toJson, valueToType]
  refine ⟨⟨tuple, list⟩, ⟨?_, ?_⟩, fun trips => ?_⟩
  · refine .dataclass rfl rfl (by simp) (.inl rfl) fun p field => ?_
    rw [List.mem_singleton.mp field]
    exact .int 2
  · rw [Value.toJson, valueToType]
    simp only [counting, if_true]
    rw [@convertFields_rebuilt _ _ _ _ [("count", .int 2)] rfl]
    · rfl
    · intro p member
      rw [List.mem_singleton.mp member]
      rfl
    · intro p member
      rw [List.mem_singleton.mp member, Value.toJson, valueToType]
  · cases (trips nested _ _ tuple).symm.trans list

end TemporalSdk.Converter.TypedJson
