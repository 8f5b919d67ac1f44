import Mathlib.Data.List.Basic

/-!
# JSON values and type hints

Python values as the JSON payload converter sees them, the JSON values
`AdvancedJSONEncoder` makes of them, and `value_to_type`, which rebuilds a value
from a JSON value and a type hint. JSON text is not modelled: a JSON value is
what `json.loads` returns for what `json.dumps` wrote.

Hints are the ones built from scalars, `Literal`, `NewType`, unions, the
collection types with type arguments, `TypedDict`, dataclasses, enums and `UUID`.
Custom type converters and classes with `parse_obj` are left out.
-/
namespace TemporalSdk.Converter.TypedJson

/-- A `float`, by its bits. -/
abbrev PyFloat := UInt64

/-- `math.isnan(f)`. -/
def isNan (f : PyFloat) : Bool := f &&& 0x7fffffffffffffff > 0x7ff0000000000000

/-- A UUID: the 32 hexadecimal digits of its number. -/
structure Uuid where
  digits : List (Fin 16)
  length_eq : digits.length = 32
  deriving DecidableEq

/-- What `json.loads` returns: `None`, numbers, strings, lists and dicts. -/
inductive Json where
  | null
  | bool (b : Bool)
  | int (i : Int)
  | float (f : PyFloat)
  | str (s : String)
  | array (items : List Json)
  | object (entries : List (String × Json))

/-- Python values. Classes are given by their names; a set is given by its
    elements in the order in which it iterates. -/
inductive Value where
  | none
  | bool (b : Bool)
  | int (i : Int)
  | float (f : PyFloat)
  | str (s : String)
  | bytes (data : List UInt8)
  | list (items : List Value)
  | tuple (items : List Value)
  | set (items : List Value)
  | deque (items : List Value)
  | dict (entries : List (String × Value))
  | dataclass (cls : String) (fields : List (String × Value))
  | intEnum (cls : String) (value : Int)
  | strEnum (cls : String) (value : String)
  | uuid (id : Uuid)

mutual

/-- The value `json.loads` returns is a Python value. -/
def Json.toValue : Json → Value
  | .null => .none
  | .bool b => .bool b
  | .int i => .int i
  | .float f => .float f
  | .str s => .str s
  | .array items => .list (Json.toValues items)
  | .object entries => .dict (Json.toEntries entries)

def Json.toValues : List Json → List Value
  | [] => []
  | item :: rest => Json.toValue item :: Json.toValues rest

def Json.toEntries : List (String × Json) → List (String × Value)
  | [] => []
  | (key, value) :: rest => (key, Json.toValue value) :: Json.toEntries rest

end

/-- The JSON scalars; NaN is none. -/
def Json.isLiteral : Json → Bool
  | .null | .bool _ | .int _ | .str _ => true
  | .float f => !isNan f
  | .array _ | .object _ => false

inductive Hint where
  | any
  | int
  | float
  | bool
  | str
  | bytes
  | none
  /-- `Literal`, of scalars. -/
  | literal (args : List Json)
  | newType (name : String) (supertype : Hint)
  /-- `Union`; `Optional[T]` is `Union[T, None]`. -/
  | union (args : List Hint)
  | list (arg : Hint)
  | sequence (arg : Hint)
  | iterable (arg : Hint)
  | set (arg : Hint)
  | deque (arg : Hint)
  | tuple (args : List Hint)
  /-- `Tuple[T, ...]`. -/
  | variadicTuple (arg : Hint)
  /-- `Dict[str, T]`. -/
  | dict (arg : Hint)
  /-- `Mapping[str, T]`. -/
  | mapping (arg : Hint)
  | typedDict (cls : String)
  | dataclass (cls : String)
  | intEnum (cls : String)
  | strEnum (cls : String)
  | uuid

/-- A field of a dataclass, passed to its constructor by name. -/
structure FieldDef where
  name : String
  hint : Hint
  default : Option Value

/-- What the generated `__init__` makes of keyword arguments: the fields of the
    instance, if those without a default are given. -/
def generatedInit (fields : List FieldDef) (given : List (String × Value)) :
    Option (List (String × Value)) :=
  fields.mapM fun field => ((given.lookup field.name).or field.default).map fun v => (field.name, v)

structure DataclassDef where
  fields : List FieldDef
  /-- Whether instances have a `__hash__`. -/
  hashable : Bool
  /-- What calling the class with keyword arguments makes of them, if it does not
      raise. A `__post_init__` or an `__init__` of the class itself may change them. -/
  init : List (String × Value) → Option (List (String × Value)) := generatedInit fields

structure TypedDictDef where
  required : List (String × Hint)
  optional : List (String × Hint)

/-- The classes hints refer to, and what conversions ask of Python itself. -/
structure Env where
  dataclasses : String → Option DataclassDef
  typedDicts : String → Option TypedDictDef
  /-- The values of the members of an enum. -/
  intEnums : String → List Int
  strEnums : String → List String
  /-- `a == b`. A JSON scalar is equal to itself, which NaN is not. -/
  eq : Value → Value → Bool
  eq_self : ∀ value : Json, value.isLiteral → eq value.toValue value.toValue = true
  /-- `float(i)`, which may overflow, and `int(f)`, which has no value for
      infinities and NaN. -/
  floatOfInt : Int → Option PyFloat
  intOfFloat : PyFloat → Option Int

/-- What `value_to_type` raises. -/
inductive TypeError where
  /-- The value is not of a kind the hint accepts. -/
  | unexpected (hint : Hint) (value : Json)
  | notInLiteral (value : Json) (args : List Json)
  | failedUnion (args : List Hint) (value : Json)
  | failedKeyValue (key : String)
  | failedField (name cls : String)
  | failedIndex (i : Nat)
  | tooManyValues (expected got : Nat)
  /-- Raised by a constructor: of a class, `bytes`, `set`, `int`, `float`, an
      enum or `UUID`. -/
  | construction (hint : Hint)

/-! ### UUIDs as strings -/

namespace Uuid

def hexDigit (digit : Fin 16) : Char :=
  ['0', '1', '2', '3', '4', '5', '6', '7', '8', '9', 'a', 'b', 'c', 'd', 'e', 'f'].get digit

/-- A digit of `int(text, 16)`. -/
def hexValue : Char → Option (Fin 16)
  | '0' => some 0 | '1' => some 1 | '2' => some 2 | '3' => some 3
  | '4' => some 4 | '5' => some 5 | '6' => some 6 | '7' => some 7
  | '8' => some 8 | '9' => some 9
  | 'a' => some 10 | 'b' => some 11 | 'c' => some 12
  | 'd' => some 13 | 'e' => some 14 | 'f' => some 15
  | 'A' => some 10 | 'B' => some 11 | 'C' => some 12
  | 'D' => some 13 | 'E' => some 14 | 'F' => some 15
  | _ => none

/-- `str(uuid)`: groups of 8, 4, 4, 4 and 12 digits. -/
def chars (id : Uuid) : List Char :=
  let text := id.digits.map hexDigit
  text.take 8 ++ '-' :: ((text.drop 8).take 4 ++ '-' :: ((text.drop 12).take 4 ++
    '-' :: ((text.drop 16).take 4 ++ '-' :: text.drop 20)))

def toString (id : Uuid) : String := String.ofList id.chars

/-- `text.replace(sub, "")` for a non-empty `sub`. -/
def remove (sub : List Char) : List Char → List Char
  | [] => []
  | c :: rest =>
    if sub.isPrefixOf (c :: rest) then remove sub (rest.drop (sub.length - 1))
    else c :: remove sub rest
termination_by text => text.length
decreasing_by
  all_goals simp only [List.length_drop, List.length_cons]
  all_goals omega

/-- `text.strip("{}")`. -/
def stripBraces (text : List Char) : List Char :=
  let brace := fun c => c = '\x7b' ∨ c = '\x7d'
  ((text.dropWhile brace).reverse.dropWhile brace).reverse

/-- Hexadecimal digits with single underscores between them; `between` says
    whether an underscore may come next. -/
def hexDigits (between : Bool) : List Char → Option (List (Fin 16))
  | [] => if between then some [] else none
  | c :: rest =>
    if c = '_' then if between then hexDigits false rest else none
    else do
      let digit ← hexValue c
      let digits ← hexDigits true rest
      some (digit :: digits)

/-- Digits after an optional `0x`. -/
def unsignedHex : List Char → Option (List (Fin 16))
  | '0' :: 'x' :: rest | '0' :: 'X' :: rest =>
    if rest.isEmpty then none else hexDigits true rest
  | text => hexDigits false text

/-- What `str.strip` drops. -/
def isBlank (c : Char) : Bool :=
  (9 ≤ c.toNat ∧ c.toNat ≤ 13) ∨ (28 ≤ c.toNat ∧ c.toNat ≤ 32) ∨ c.toNat = 0x85 ∨
  c.toNat = 0xa0 ∨ c.toNat = 0x1680 ∨ (0x2000 ≤ c.toNat ∧ c.toNat ≤ 0x200a) ∨
  c.toNat = 0x2028 ∨ c.toNat = 0x2029 ∨ c.toNat = 0x202f ∨ c.toNat = 0x205f ∨ c.toNat = 0x3000

/-- `int(text, 16)` of a text without hyphens: blanks around the number are
    dropped, a sign may come first. (Decimal digits other than ASCII are left out.) -/
def intOfHex (text : List Char) : Option (List (Fin 16)) :=
  match ((text.dropWhile isBlank).reverse.dropWhile isBlank).reverse with
  | '+' :: rest => unsignedHex rest
  | text => unsignedHex text

/-- `UUID(text)`: a URN prefix, braces and hyphens are optional; 32 characters
    remain, and they are a number. -/
def ofString (text : String) : Option Uuid :=
  let name := remove ['u', 'u', 'i', 'd', ':'] (remove ['u', 'r', 'n', ':'] text.toList)
  let hex := (stripBraces name).filter fun c => c ≠ '-'
  if hex.length = 32 then
    (intOfHex hex).bind fun digits =>
      let digits := List.replicate (32 - digits.length) 0 ++ digits
      if size : digits.length = 32 then some ⟨digits, size⟩ else none
  else none

end Uuid

/-! ### Values as JSON -/

mutual

/-- What is inside a dataclass after `dataclasses.asdict`: dataclasses become
    dicts, through lists, tuples and dicts but not through other collections. -/
def Value.asdict : Value → Value
  | .list items => .list (Value.asdicts items)
  | .tuple items => .tuple (Value.asdicts items)
  | .dict entries => .dict (Value.asdictEntries entries)
  | .dataclass _ fields => .dict (Value.asdictEntries fields)
  | value => value

def Value.asdicts : List Value → List Value
  | [] => []
  | item :: rest => Value.asdict item :: Value.asdicts rest

def Value.asdictEntries : List (String × Value) → List (String × Value)
  | [] => []
  | (key, value) :: rest => (key, Value.asdict value) :: Value.asdictEntries rest

end

mutual

/-- The JSON value of a Python value. Lists, tuples, dicts, numbers, strings and
    their enums are JSON for `json`; the rest is up to `AdvancedJSONEncoder.default`:
    a dataclass becomes a dict, other iterables become lists, a UUID a string.
    (`asdict` reaches into the dataclass before the encoder does; that makes no
    difference to the JSON value.) -/
def Value.toJson : Value → Json
  | .none => .null
  | .bool b => .bool b
  | .int i => .int i
  | .float f => .float f
  | .str s => .str s
  | .bytes data => .array (data.map fun byte => .int byte.toNat)
  | .list items => .array (Value.toJsons items)
  | .tuple items => .array (Value.toJsons items)
  | .set items => .array (Value.toJsons items)
  | .deque items => .array (Value.toJsons items)
  | .dict entries => .object (Value.toJsonEntries entries)
  | .dataclass _ fields => .object (Value.toJsonEntries fields)
  | .intEnum _ value => .int value
  | .strEnum _ value => .str value
  | .uuid id => .str id.toString

def Value.toJsons : List Value → List Json
  | [] => []
  | item :: rest => Value.toJson item :: Value.toJsons rest

def Value.toJsonEntries : List (String × Value) → List (String × Json)
  | [] => []
  | (key, value) :: rest => (key, Value.toJson value) :: Value.toJsonEntries rest

end

/-! ### Rebuilding values -/

section ValueToType

variable (env : Env)

mutual

/-- `hash(value)` does not raise. -/
def Value.hashable : Value → Bool
  | .none | .bool _ | .int _ | .float _ | .str _ | .bytes _ => true
  | .intEnum _ _ | .strEnum _ _ | .uuid _ => true
  | .tuple items => Value.allHashable items
  | .dataclass cls fields =>
    (env.dataclasses cls).any (·.hashable) && Value.entriesHashable fields
  | .list _ | .set _ | .deque _ | .dict _ => false

def Value.allHashable : List Value → Bool
  | [] => true
  | item :: rest => Value.hashable item && Value.allHashable rest

def Value.entriesHashable : List (String × Value) → Bool
  | [] => true
  | (_, value) :: rest => Value.hashable value && Value.entriesHashable rest

end

/-- `set(items)`: the first of equal elements stays. -/
def makeSet (items : List Value) : Option (List Value) :=
  if items.all (Value.hashable env) then
    some (items.foldl (fun kept v => if kept.any (env.eq v) then kept else kept ++ [v]) [])
  else none

/-- One element of `bytes(items)`: an integer from 0 to 255, which a `bool` is too. -/
def makeByte : Json → Option UInt8
  | .int i => if 0 ≤ i ∧ i < 256 then some (UInt8.ofNat i.toNat) else none
  | .bool b => some (if b then 1 else 0)
  | _ => none

/-- The call of a dataclass with its fields by name. -/
def DataclassDef.construct (cls : String) (d : DataclassDef) (given : List (String × Value)) :
    Option Value :=
  (d.init given).map (Value.dataclass cls)

/-- The hint of a key of a `TypedDict`. -/
def TypedDictDef.hint (d : TypedDictDef) (key : String) : Option Hint :=
  (d.required ++ d.optional).lookup key

/-- `raise ... from err`: the error that replaces the one of a part. -/
def reraise {α : Type} (error : TypeError) : Except TypeError α → Except TypeError α
  | .ok a => .ok a
  | .error _ => .error error

/-- Iterating over a value: a string has its characters, a dict its keys. -/
def Json.iter? : Json → Option (List Json)
  | .array items => some items
  | .str s => some (s.toList.map fun c => .str (String.singleton c))
  | .object entries => some (entries.map fun entry => .str entry.1)
  | _ => none

mutual

/-- How deep a value is nested. -/
def Json.depth : Json → Nat
  | .array items => Json.maxDepth items + 1
  | .object entries => Json.maxDepthEntries entries + 2
  | _ => 0

def Json.maxDepth : List Json → Nat
  | [] => 0
  | item :: rest => max (Json.depth item) (Json.maxDepth rest)

def Json.maxDepthEntries : List (String × Json) → Nat
  | [] => 0
  | (_, value) :: rest => max (Json.depth value) (Json.maxDepthEntries rest)

end

theorem Json.maxDepth_strings (texts : List String) :
    Json.maxDepth (texts.map Json.str) = 0 := by
  induction texts with
  | nil => rfl
  | cons text rest ih => simp [Json.maxDepth, Json.depth, ih]

theorem Json.maxDepth_iter {value : Json} {items : List Json} (iterates : value.iter? = some items) :
    Json.maxDepth items ≤ value.depth := by
  cases value with
  | array items' =>
    cases iterates
    simp [Json.depth]
  | str s =>
    cases iterates
    have := Json.maxDepth_strings (s.toList.map String.singleton)
    rw [List.map_map] at this
    exact Nat.le_of_eq (this.trans rfl)
  | object entries =>
    cases iterates
    have := Json.maxDepth_strings (entries.map Prod.fst)
    rw [List.map_map] at this
    change Json.maxDepth (entries.map fun entry => Json.str entry.1) = 0 at this
    omega
  | _ => cases iterates

theorem Json.depth_lookup {entries : List (String × Json)} {key : String} {value : Json}
    (found : entries.lookup key = some value) : value.depth ≤ Json.maxDepthEntries entries := by
  induction entries with
  | nil => cases found
  | cons entry rest ih =>
    obtain ⟨key', value'⟩ := entry
    rw [List.lookup_cons] at found
    simp only [Json.maxDepthEntries]
    split at found
    · cases found
      omega
    · have := ih found
      omega

mutual

/-- `value_to_type`, without custom converters. -/
def valueToType (hint : Hint) (value : Json) : Except TypeError Value :=
  match hint with
  -- Any or primitives
  | .any => .ok value.toValue
  | .int =>
    match value with
    | .int i => .ok (.int i)
    | .bool b => .ok (.int (if b then 1 else 0))
    | .float f => (env.intOfFloat f).elim (.error (.construction .int)) fun i => .ok (.int i)
    | value => .error (.unexpected .int value)
  | .float =>
    match value with
    | .float f => .ok (.float f)
    | .int i => (env.floatOfInt i).elim (.error (.construction .float)) fun f => .ok (.float f)
    | .bool b => (env.floatOfInt (if b then 1 else 0)).elim (.error (.construction .float))
        fun f => .ok (.float f)
    | value => .error (.unexpected .float value)
  | .bool =>
    match value with
    | .bool b => .ok (.bool b)
    | value => .error (.unexpected .bool value)
  | .str =>
    match value with
    | .str s => .ok (.str s)
    | value => .error (.unexpected .str value)
  | .bytes =>
    match value with
    | .array items =>
      (items.mapM makeByte).elim (.error (.construction .bytes)) fun data => .ok (.bytes data)
    -- `bytes` of a string needs an encoding
    | .str _ => .error (.construction .bytes)
    | value => .error (.unexpected .bytes value)
  | .none =>
    match value with
    | .null => .ok .none
    | value => .error (.unexpected .none value)
  -- NewType
  | .newType _ supertype => valueToType supertype value
  -- Literal
  | .literal args =>
    if args.any fun arg => env.eq arg.toValue value.toValue then .ok value.toValue
    else .error (.notInLiteral value args)
  -- Union
  | .union args => reraise (.failedUnion args value) (convertUnion args value)
  -- Mapping
  | .dict arg =>
    match value with
    | .object entries => convertEntries (fun _ => arg) entries >>= fun entries => .ok (.dict entries)
    | value => .error (.unexpected (.dict arg) value)
  | .mapping arg =>
    match value with
    | .object entries => convertEntries (fun _ => arg) entries >>= fun entries => .ok (.dict entries)
    | value => .error (.unexpected (.mapping arg) value)
  | .typedDict cls =>
    match value with
    | .object entries =>
      -- A key without a type of its own keeps its value.
      convertEntries (fun key => ((env.typedDicts cls).bind (·.hint key)).getD .any) entries
        >>= fun entries => .ok (.dict entries)
    | value => .error (.unexpected (.typedDict cls) value)
  -- Dataclass
  | .dataclass cls =>
    match value with
    | .object entries =>
      match env.dataclasses cls with
      | some d => convertFields cls d.fields entries >>= fun fields =>
          (d.construct cls fields).elim (.error (.construction (.dataclass cls))) .ok
      | none => .error (.construction (.dataclass cls))
    | value => .error (.unexpected (.dataclass cls) value)
  -- IntEnum, with `bool` being an `int`
  | .intEnum cls =>
    match value with
    | .int i =>
      if i ∈ env.intEnums cls then .ok (.intEnum cls i) else .error (.construction (.intEnum cls))
    | .bool b =>
      if (if b then 1 else 0) ∈ env.intEnums cls then .ok (.intEnum cls (if b then 1 else 0))
      else .error (.construction (.intEnum cls))
    | value => .error (.unexpected (.intEnum cls) value)
  -- StrEnum
  | .strEnum cls =>
    match value with
    | .str s =>
      if s ∈ env.strEnums cls then .ok (.strEnum cls s) else .error (.construction (.strEnum cls))
    | value => .error (.unexpected (.strEnum cls) value)
  -- UUID
  | .uuid =>
    match value with
    | .str s => (Uuid.ofString s).elim (.error (.construction .uuid)) fun id => .ok (.uuid id)
    | _ => .error (.construction .uuid)
  -- Iterable
  | .list arg =>
    match _iterates : value.iter? with
    | some items => convertItems arg 0 items >>= fun vs => .ok (.list vs)
    | none => .error (.unexpected (.list arg) value)
  | .sequence arg =>
    match _iterates : value.iter? with
    | some items => convertItems arg 0 items >>= fun vs => .ok (.list vs)
    | none => .error (.unexpected (.sequence arg) value)
  | .iterable arg =>
    match _iterates : value.iter? with
    | some items => convertItems arg 0 items >>= fun vs => .ok (.list vs)
    | none => .error (.unexpected (.iterable arg) value)
  | .set arg =>
    match _iterates : value.iter? with
    | some items => convertItems arg 0 items >>= fun vs =>
        (makeSet env vs).elim (.error (.construction (.set arg))) fun vs => .ok (.set vs)
    | none => .error (.unexpected (.set arg) value)
  | .deque arg =>
    match _iterates : value.iter? with
    | some items => convertItems arg 0 items >>= fun vs => .ok (.deque vs)
    | none => .error (.unexpected (.deque arg) value)
  | .variadicTuple arg =>
    match _iterates : value.iter? with
    | some items => convertItems arg 0 items >>= fun vs => .ok (.tuple vs)
    | none => .error (.unexpected (.variadicTuple arg) value)
  | .tuple args =>
    match _iterates : value.iter? with
    | some items =>
      -- Without type arguments the items stay as they are.
      if args.isEmpty then .ok (.tuple (Json.toValues items))
      else convertTuple args 0 items >>= fun vs => .ok (.tuple vs)
    | none => .error (.unexpected (.tuple args) value)
termination_by (value.depth, 2 * sizeOf hint, 0)
decreasing_by
  all_goals try have deeper := Json.maxDepth_iter _iterates
  all_goals simp only [Prod.lex_def, true_and, Json.depth, Hint.newType.sizeOf_spec,
    Hint.union.sizeOf_spec, Hint.list.sizeOf_spec, Hint.sequence.sizeOf_spec, Hint.iterable.sizeOf_spec,
    Hint.set.sizeOf_spec, Hint.deque.sizeOf_spec, Hint.variadicTuple.sizeOf_spec,
    Hint.tuple.sizeOf_spec]
  all_goals omega

/-- The members of a union are tried in order. -/
def convertUnion (args : List Hint) (value : Json) : Except TypeError Value :=
  match args with
  | [] => .error (.failedUnion [] value)
  | arg :: rest =>
    match valueToType arg value with
    | .ok v => .ok v
    | .error _ => convertUnion rest value
termination_by (value.depth, 2 * sizeOf args + 1, 0)
decreasing_by
  all_goals simp only [Prod.lex_def, true_and, List.cons.sizeOf_spec]
  all_goals omega

/-- The loop over the entries of a mapping. -/
def convertEntries (hintOf : String → Hint) (entries : List (String × Json)) :
    Except TypeError (List (String × Value)) :=
  match entries with
  | [] => .ok []
  | (key, value) :: rest => do
    let v ← reraise (.failedKeyValue key) (valueToType (hintOf key) value)
    let vs ← convertEntries hintOf rest
    .ok ((key, v) :: vs)
termination_by (Json.maxDepthEntries entries + 1, 0, entries.length)
decreasing_by
  all_goals simp only [Prod.lex_def, true_and, Json.maxDepthEntries, List.length_cons]
  all_goals omega

/-- The loop over the fields of a dataclass: a field that is not given is left
    to the constructor. -/
def convertFields (cls : String) (fields : List FieldDef) (entries : List (String × Json)) :
    Except TypeError (List (String × Value)) :=
  match fields with
  | [] => .ok []
  | field :: rest =>
    match _found : entries.lookup field.name with
    | some value => do
      let v ← reraise (.failedField field.name cls) (valueToType field.hint value)
      let vs ← convertFields cls rest entries
      .ok ((field.name, v) :: vs)
    | none => convertFields cls rest entries
termination_by (Json.maxDepthEntries entries + 1, 0, fields.length)
decreasing_by
  all_goals try have shallower := Json.depth_lookup _found
  all_goals simp only [Prod.lex_def, true_and, List.length_cons]
  all_goals omega

/-- The loop over the items of an iterable with one type argument. -/
def convertItems (arg : Hint) (i : Nat) (items : List Json) : Except TypeError (List Value) :=
  match items with
  | [] => .ok []
  | item :: rest => do
    let v ← reraise (.failedIndex i) (valueToType arg item)
    let vs ← convertItems arg (i + 1) rest
    .ok (v :: vs)
termination_by (Json.maxDepth items, 2 * sizeOf arg + 1, items.length)
decreasing_by
  all_goals simp only [Prod.lex_def, true_and, Json.maxDepth, List.length_cons]
  all_goals omega

/-- The loop over the items of a fixed tuple; `args` are the type arguments from
    index `i` on. -/
def convertTuple (args : List Hint) (i : Nat) (items : List Json) :
    Except TypeError (List Value) :=
  match items, args with
  | [], _ => .ok []
  | item :: rest, arg :: args => do
    let v ← reraise (.failedIndex i) (valueToType arg item)
    let vs ← convertTuple args (i + 1) rest
    .ok (v :: vs)
  | _ :: _, [] => .error (.tooManyValues i (i + 1))
termination_by (Json.maxDepth items, 2 * sizeOf args + 1, items.length)
decreasing_by
  all_goals simp only [Prod.lex_def, Json.maxDepth, List.length_cons, List.cons.sizeOf_spec]
  all_goals omega

end

end ValueToType

end TemporalSdk.Converter.TypedJson
