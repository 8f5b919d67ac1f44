import TemporalSdk.Properties.TypedJson

/-!
# What unions and tuples make of JSON values

## Main results

`tuple_arity_iff`: a fixed tuple hint accepts a list, as it should, exactly if the
lengths agree and each element converts, unless the list is too short and what is
there converts. The arity is only checked when an element has no type left.

`union_keeps_iff`: a value that has the exact type of a member of a union of
scalars is rebuilt, at any nesting, exactly if no member before its own makes
another number of it. Members are tried in order, and `int` and `float` accept
each other's numbers and booleans: `union_truncates`.

## Proof strategy

Each loop of `value_to_type` succeeds exactly with pointwise results. A union of
scalars is settled at the first member that accepts the value; above it, the
conversion of a value gives the value back exactly if that of each part does.
-/

namespace TemporalSdk.Converter.TypedJson

variable {env : Env}

/-! ### Tuples -/

/-- A fixed tuple hint accepts the lists of its arity whose elements convert, and
    makes the tuple of the converted elements. -/
def ArityKept (env : Env) (args : List Hint) (items : List Json) : Prop :=
  ∀ v, valueToType env (.tuple args) (.array items) = .ok v ↔
    items.length = args.length ∧ ∃ vs, v = .tuple vs ∧
      List.Forall₂ (fun p v => valueToType env p.1 p.2 = .ok v) (args.zip items) vs

/-- The list is too short and what is there converts, or there is something though
    the hint has no types. -/
def ArityMissed (env : Env) (args : List Hint) (items : List Json) : Prop :=
  (items.length < args.length ∧ ∀ p ∈ args.zip items, ∃ v, valueToType env p.1 p.2 = .ok v) ∨
    (args = [] ∧ items ≠ [])

/-- What a fixed tuple hint accepts. -/
theorem tuple_eq_ok {args : List Hint} (types : args ≠ []) {items : List Json} {v : Value} :
    valueToType env (.tuple args) (.array items) = .ok v ↔
      items.length ≤ args.length ∧ ∃ vs, v = .tuple vs ∧
        List.Forall₂ (fun p v => valueToType env p.1 p.2 = .ok v) (args.zip items) vs := by
  have nonempty : args.isEmpty = false := List.isEmpty_eq_false_iff.mpr types
  rw [valueToType.eq_def]
  simp only [Json.iter?, nonempty, Bool.false_eq_true, if_false]
  constructor
  · intro converted
    cases loop : convertTuple env args 0 items with
    | error e =>
      rw [loop] at converted
      cases converted
    | ok vs =>
      rw [loop] at converted
      cases converted
      obtain ⟨size, each⟩ := (convertTuple_iff 0).mp loop
      exact ⟨size, vs, rfl, each⟩
  · rintro ⟨size, vs, rfl, each⟩
    rw [(convertTuple_iff 0).mpr ⟨size, each⟩]
    rfl

theorem tuple_without_types (items : List Json) :
    valueToType env (.tuple []) (.array items) = .ok (.tuple (Json.toValues items)) := by
  rw [valueToType.eq_def]
  rfl

theorem variadicTuple_eq_ok {arg : Hint} {items : List Json} {v : Value} :
    valueToType env (.variadicTuple arg) (.array items) = .ok v ↔
      ∃ vs, v = .tuple vs ∧
        List.Forall₂ (fun item v => valueToType env arg item = .ok v) items vs := by
  rw [valueToType.eq_def]
  simp only [Json.iter?]
  constructor
  · intro converted
    cases loop : convertItems env arg 0 items with
    | error e =>
      rw [loop] at converted
      cases converted
    | ok vs =>
      rw [loop] at converted
      cases converted
      exact ⟨vs, rfl, (convertItems_iff 0).mp loop⟩
  · rintro ⟨vs, rfl, each⟩
    rw [(convertItems_iff 0).mpr each]
    rfl

/-- Where each element converts there are converted elements. -/
theorem exists_converted {parts : List (Hint × Json)}
    (each : ∀ p ∈ parts, ∃ v, valueToType env p.1 p.2 = .ok v) :
    ∃ vs, List.Forall₂ (fun p v => valueToType env p.1 p.2 = .ok v) parts vs := by
  induction parts with
  | nil => exact ⟨[], .nil⟩
  | cons p rest ih =>
    obtain ⟨⟨v, here⟩, others⟩ := List.forall_mem_cons.mp each
    obtain ⟨vs, later⟩ := ih others
    exact ⟨v :: vs, .cons here later⟩

theorem converted_of_forall₂ {parts : List (Hint × Json)} {vs : List Value}
    (each : List.Forall₂ (fun p v => valueToType env p.1 p.2 = .ok v) parts vs) :
    ∀ p ∈ parts, ∃ v, valueToType env p.1 p.2 = .ok v := by
  induction each with
  | nil => simp
  | cons here _ ih => exact List.forall_mem_cons.mpr ⟨⟨_, here⟩, ih⟩

/-- The arity of a fixed tuple is kept but for lists that are too short, and for
    hints without types; `Tuple[T, ...]` accepts every length. -/
theorem tuple_arity_iff (env : Env) (args : List Hint) (arg : Hint) (items : List Json) :
    (ArityKept env args items ↔ ¬ArityMissed env args items) ∧
    ∀ v, valueToType env (.variadicTuple arg) (.array items) = .ok v ↔
      ∃ vs, v = .tuple vs ∧
        List.Forall₂ (fun item v => valueToType env arg item = .ok v) items vs := by
  refine ⟨?_, fun v => variadicTuple_eq_ok⟩
  by_cases types : args = []
  · subst types
    constructor
    · -- without types the elements are not counted, and none is converted
      rintro kept (⟨short, -⟩ | ⟨-, nonempty⟩)
      · cases short
      · have accepted := (kept _).mp (tuple_without_types items)
        exact nonempty (List.length_eq_zero_iff.mp accepted.1)
    · intro unmissed v
      have empty : items = [] := by
        by_contra nonempty
        exact unmissed (Or.inr ⟨rfl, nonempty⟩)
      subst empty
      rw [tuple_without_types]
      constructor
      · intro same
        cases same
        exact ⟨rfl, [], rfl, .nil⟩
      · rintro ⟨-, vs, rfl, each⟩
        rw [List.zip_nil_left] at each
        cases each
        rfl
  · constructor
    · rintro kept (⟨short, each⟩ | ⟨empty, -⟩)
      · -- what is there converts, so the list is accepted
        obtain ⟨vs, converted⟩ := exists_converted each
        have accepted := (tuple_eq_ok types).mpr
          ⟨Nat.le_of_lt short, vs, rfl, converted⟩
        have size := ((kept _).mp accepted).1
        omega
      · exact types empty
    · intro unmissed v
      rw [tuple_eq_ok types]
      constructor
      · rintro ⟨size, vs, rfl, each⟩
        refine ⟨?_, vs, rfl, each⟩
        by_contra differs
        have short : items.length < args.length := by omega
        exact unmissed (Or.inl ⟨short, converted_of_forall₂ each⟩)
      · rintro ⟨size, vs, rfl, each⟩
        exact ⟨Nat.le_of_eq size, vs, rfl, each⟩

/-- `value_to_type(Tuple[str, int], ["foo"])` is `("foo",)`. -/
theorem short_tuple_accepted :
    valueToType nested (.tuple [.str, .int]) (.array [.str "foo"]) = .ok (.tuple [.str "foo"]) ∧
      ¬ArityKept nested [.str, .int] [.str "foo"] := by
  have accepted : valueToType nested (.tuple [.str, .int]) (.array [.str "foo"]) =
      .ok (.tuple [.str "foo"]) := by
    apply (tuple_eq_ok (by simp)).mpr
    refine ⟨by decide, _, rfl, .cons ?_ .nil⟩
    rw [valueToType]
  refine ⟨accepted, fun kept => ?_⟩
  have size := ((kept _).mp accepted).1
  cases size

/-! ### Unions of scalars -/

/-- The types of JSON scalars. -/
inductive ScalarType where
  | int
  | float
  | bool
  | str
  | none
  deriving DecidableEq

def ScalarType.hint : ScalarType → Hint
  | .int => .int
  | .float => .float
  | .bool => .bool
  | .str => .str
  | .none => .none

/-- `type(v)`, if it is one of them. -/
def Value.exactType : Value → Option ScalarType
  | .int _ => some .int
  | .float _ => some .float
  | .bool _ => some .bool
  | .str _ => some .str
  | .none => some .none
  | _ => Option.none

/-- The value has the exact type of a member. -/
def IsMember (types : List ScalarType) (v : Value) : Prop := ∃ τ ∈ types, v.exactType = some τ

/-- The type makes a number of its own of a value of another type: `int` of
    booleans and of what is finite, `float` of booleans and of what does not overflow. -/
def takes (env : Env) : ScalarType → Value → Bool
  | .int, .bool _ => true
  | .int, .float f => (env.intOfFloat f).isSome
  | .float, .bool b => (env.floatOfInt (if b then 1 else 0)).isSome
  | .float, .int i => (env.floatOfInt i).isSome
  | _, _ => false

/-- No member before that of the type of the value takes it. -/
def LeftAlone (env : Env) (types : List ScalarType) (v : Value) : Prop :=
  ∀ τ ∈ types.takeWhile fun τ => v.exactType ≠ some τ, takes env τ v = false

theorem own_type {τ : ScalarType} {v : Value} (own : v.exactType = some τ) :
    valueToType env τ.hint v.toJson = .ok v := by
  cases v with
  | none | bool | int | float | str =>
    cases own
    rw [ScalarType.hint, Value.toJson, valueToType]
  | bytes | list | tuple | set | deque | dict | dataclass | intEnum | strEnum | uuid => cases own

/-- A member of another type makes a value of its own type of it, or raises. -/
theorem other_type {τ own : ScalarType} {v : Value} (scalar : v.exactType = some own)
    (other : own ≠ τ) :
    (takes env τ v = true ∧ ∃ w, valueToType env τ.hint v.toJson = .ok w ∧
      w.exactType = some τ) ∨
    (takes env τ v = false ∧ ∃ e, valueToType env τ.hint v.toJson = .error e) := by
  have rejected (untaken : takes env τ v = false)
      (raises : valueToType env τ.hint v.toJson = .error (.unexpected τ.hint v.toJson)) :
      (takes env τ v = true ∧ ∃ w, valueToType env τ.hint v.toJson = .ok w ∧
        w.exactType = some τ) ∨
      (takes env τ v = false ∧ ∃ e, valueToType env τ.hint v.toJson = .error e) :=
    Or.inr ⟨untaken, _, raises⟩
  cases v with
  | none =>
    cases τ with
    | none => cases scalar; exact absurd rfl other
    | int | float | bool | str => exact rejected rfl (by rw [valueToType.eq_def]; rfl)
  | str =>
    cases τ with
    | str => cases scalar; exact absurd rfl other
    | int | float | bool | none => exact rejected rfl (by rw [valueToType.eq_def]; rfl)
  -- a boolean is an instance of `int`, and a number of `float`
  | bool b =>
    cases τ with
    | bool => cases scalar; exact absurd rfl other
    | int => exact Or.inl ⟨rfl, _, by rw [ScalarType.hint, Value.toJson, valueToType], rfl⟩
    | float =>
      simp only [takes, ScalarType.hint, Value.toJson, valueToType]
      cases env.floatOfInt (if b then 1 else 0) with
      | none => exact Or.inr ⟨rfl, _, rfl⟩
      | some f => exact Or.inl ⟨rfl, .float f, rfl, rfl⟩
    | str | none => exact rejected rfl (by rw [valueToType.eq_def]; rfl)
  | int i =>
    cases τ with
    | int => cases scalar; exact absurd rfl other
    | float =>
      simp only [takes, ScalarType.hint, Value.toJson, valueToType]
      cases env.floatOfInt i with
      | none => exact Or.inr ⟨rfl, _, rfl⟩
      | some f => exact Or.inl ⟨rfl, .float f, rfl, rfl⟩
    | bool | str | none => exact rejected rfl (by rw [valueToType.eq_def]; rfl)
  -- `int(value)` truncates the number
  | float f =>
    cases τ with
    | float => cases scalar; exact absurd rfl other
    | int =>
      simp only [takes, ScalarType.hint, Value.toJson, valueToType]
      cases env.intOfFloat f with
      | none => exact Or.inr ⟨rfl, _, rfl⟩
      | some i => exact Or.inl ⟨rfl, .int i, rfl, rfl⟩
    | bool | str | none => exact rejected rfl (by rw [valueToType.eq_def]; rfl)
  | bytes | list | tuple | set | deque | dict | dataclass | intEnum | strEnum | uuid => cases scalar

/-- Members are tried in order until one accepts the value. -/
theorem convertUnion_keeps {types : List ScalarType} {v : Value} (member : IsMember types v) :
    convertUnion env (types.map ScalarType.hint) v.toJson = .ok v ↔ LeftAlone env types v := by
  obtain ⟨own, listed, scalar⟩ := member
  unfold LeftAlone
  induction types with
  | nil => cases listed
  | cons τ rest ih =>
    rw [List.map_cons, convertUnion]
    by_cases first : own = τ
    · subst first
      rw [own_type scalar, List.takeWhile_cons_of_neg (by simp [scalar])]
      simp
    · have differs : v.exactType ≠ some τ := by
        rw [scalar]
        exact fun same => first (Option.some.inj same)
      rw [List.takeWhile_cons_of_pos (by simpa using differs), List.forall_mem_cons]
      rcases @other_type env _ _ _ scalar first with
        ⟨taken, w, converted, type⟩ | ⟨untaken, e, failed⟩
      · -- the member takes the value: it has another type then
        rw [converted, taken]
        constructor
        · intro same
          cases same
          exact absurd type differs
        · rintro ⟨untaken, -⟩
          cases untaken
      · -- it raises, and the members after it decide
        have later : own ∈ rest := by
          rcases List.mem_cons.mp listed with here | later
          · exact absurd here first
          · exact later
        rw [failed]
        dsimp only
        rw [ih later]
        simp [untaken]

theorem union_keeps {types : List ScalarType} {v : Value} (member : IsMember types v) :
    valueToType env (.union (types.map ScalarType.hint)) v.toJson = .ok v ↔
      LeftAlone env types v := by
  rw [valueToType, ← convertUnion_keeps member]
  cases convertUnion env (types.map ScalarType.hint) v.toJson with
  | ok w => rfl
  | error e => simp [reraise]

/-! ### Nested unions -/

/-- Calling the class with all of its fields gives them back, as the generated
    `__init__` does. -/
def DataclassDef.KeepsFields (d : DataclassDef) : Prop :=
  ∀ given : List (String × Value), given.map Prod.fst = d.fields.map FieldDef.name →
    d.init given = some given

theorem DataclassDef.keepsFields {d : DataclassDef} (generated : d.init = generatedInit d.fields)
    (distinct : (d.fields.map FieldDef.name).Nodup) : d.KeepsFields := by
  intro given named
  rw [generated]
  exact generatedInit_given named (named ▸ distinct)

/-- `v` is a value of a hint in which unions of scalars are nested in lists, dicts,
    optional members and dataclasses, next to hints whose values come back. `Leaf`
    is what holds of each union and the value it is for. -/
inductive Nests (env : Env) (Leaf : List ScalarType → Value → Prop) : Hint → Value → Prop
  | union {types : List ScalarType} {v : Value} (leaf : Leaf types v) :
      Nests env Leaf (.union (types.map ScalarType.hint)) v
  | other {hint : Hint} {v : Value} (inhabits : Inhabits env false hint v) :
      Nests env Leaf hint v
  | optional {args : List Hint} {arg : Hint} {v : Value}
      (optional : args = [arg, .none] ∨ args = [.none, arg])
      (nests : Nests env Leaf arg v) : Nests env Leaf (.union args) v
  | list {arg : Hint} {items : List Value} (each : ∀ v ∈ items, Nests env Leaf arg v) :
      Nests env Leaf (.list arg) (.list items)
  | dict {arg : Hint} {entries : List (String × Value)}
      (each : ∀ p ∈ entries, Nests env Leaf arg p.2) :
      Nests env Leaf (.dict arg) (.dict entries)
  | dataclass {cls : String} {d : DataclassDef} {fields : List (String × Value)}
      (defined : env.dataclasses cls = some d)
      (named : fields.map Prod.fst = d.fields.map FieldDef.name)
      (distinct : (fields.map Prod.fst).Nodup) (keeps : d.KeepsFields)
      (each : ∀ p ∈ d.fields.zip fields, Nests env Leaf p.1.hint p.2.2) :
      Nests env Leaf (.dataclass cls) (.dataclass cls fields)

/-- If every union leaves its value alone, the whole value comes back. -/
theorem Nests.rebuilt {hint : Hint} {v : Value}
    (nests : Nests env (fun types v => IsMember types v ∧ LeftAlone env types v) hint v) :
    valueToType env hint v.toJson = .ok v := by
  induction nests with
  | union leaf => exact (union_keeps leaf.1).mpr leaf.2
  | other inhabits => exact typed_json_round_trip env _ _ inhabits
  | optional optional _ ih =>
    rw [valueToType, convertUnion_optional optional (Or.inr ih)]
    rfl
  | list _ each =>
    rw [Value.toJson, valueToType.eq_def]
    simp only [Json.iter?, convertItems_rebuilt each 0]
    rfl
  | dict _ each =>
    rw [Value.toJson, valueToType, convertEntries_rebuilt each]
    rfl
  | dataclass defined named distinct keeps _ each =>
    have present := fun p member => lookup_of_mem distinct (p := p) member
    rw [Value.toJson, valueToType]
    simp only [defined, convertFields_rebuilt named present each]
    change (DataclassDef.construct _ _ _).elim _ _ = _
    rw [DataclassDef.construct, keeps _ named]
    rfl

theorem none_of_null {v w : Value} (converted : valueToType env .none v.toJson = .ok w) :
    v = .none := by
  rw [valueToType.eq_def] at converted
  cases null : v.toJson with
  | null => exact toJson_eq_null null
  | _ =>
    rw [null] at converted
    cases converted

/-- An optional member that is there is converted by its own hint. -/
theorem optional_converted {args : List Hint} {arg : Hint} {v : Value}
    (optional : args = [arg, .none] ∨ args = [.none, arg]) (there : v ≠ .none)
    (rebuilt : valueToType env (.union args) v.toJson = .ok v) :
    valueToType env arg v.toJson = .ok v := by
  have converted : convertUnion env args v.toJson = .ok v := by
    rw [valueToType] at rebuilt
    cases members : convertUnion env args v.toJson with
    | ok w =>
      rw [members] at rebuilt
      exact rebuilt
    | error e =>
      rw [members] at rebuilt
      cases rebuilt
  rcases optional with rfl | rfl
  · rw [convertUnion] at converted
    split at converted
    next w first => exact first.trans converted
    next e failed =>
      rw [convertUnion] at converted
      split at converted
      next w null => exact absurd (none_of_null null) there
      next =>
        rw [convertUnion] at converted
        cases converted
  · rw [convertUnion] at converted
    split at converted
    next w null => exact absurd (none_of_null null) there
    next e failed =>
      rw [convertUnion] at converted
      split at converted
      next w first => exact first.trans converted
      next =>
        rw [convertUnion] at converted
        cases converted

/-- The items of a list that comes back come back. -/
theorem list_converted {arg : Hint} {items : List Value}
    (rebuilt : valueToType env (.list arg) (Value.list items).toJson = .ok (.list items)) :
    ∀ v ∈ items, valueToType env arg v.toJson = .ok v := by
  rw [Value.toJson, valueToType.eq_def] at rebuilt
  simp only [Json.iter?] at rebuilt
  cases loop : convertItems env arg 0 (Value.toJsons items) with
  | error e =>
    rw [loop] at rebuilt
    cases rebuilt
  | ok vs =>
    rw [loop] at rebuilt
    cases rebuilt
    exact (convertItems_self 0).mp loop

theorem dict_converted {arg : Hint} {entries : List (String × Value)}
    (rebuilt : valueToType env (.dict arg) (Value.dict entries).toJson = .ok (.dict entries)) :
    ∀ p ∈ entries, valueToType env arg p.2.toJson = .ok p.2 := by
  rw [Value.toJson, valueToType] at rebuilt
  cases loop : convertEntries env (fun _ => arg) (Value.toJsonEntries entries) with
  | error e =>
    rw [loop] at rebuilt
    cases rebuilt
  | ok vs =>
    rw [loop] at rebuilt
    cases rebuilt
    exact convertEntries_self.mp loop

theorem converted_names {defs : List FieldDef} {vs : List (String × Value)}
    {Converted : FieldDef → String × Value → Prop}
    (each : List.Forall₂ (fun field p => Converted field p ∧ p.1 = field.name) defs vs) :
    vs.map Prod.fst = defs.map FieldDef.name := by
  induction each with
  | nil => rfl
  | cons here _ ih => rw [List.map_cons, List.map_cons, here.2, ih]

theorem dataclass_converted {cls : String} {d : DataclassDef} {fields : List (String × Value)}
    (defined : env.dataclasses cls = some d)
    (named : fields.map Prod.fst = d.fields.map FieldDef.name)
    (distinct : (fields.map Prod.fst).Nodup) (keeps : d.KeepsFields)
    (rebuilt : valueToType env (.dataclass cls) (Value.dataclass cls fields).toJson =
      .ok (.dataclass cls fields)) :
    ∀ p ∈ d.fields.zip fields, valueToType env p.1.hint p.2.2.toJson = .ok p.2.2 := by
  -- the object has an entry for each field, so no default is filled in
  have present : ∀ p ∈ fields, (Value.toJsonEntries fields).lookup p.1 = some p.2.toJson := by
    intro p member
    rw [lookup_toJsonEntries, lookup_of_mem distinct member]
    rfl
  have given : ∀ field ∈ d.fields,
      ∃ value, (Value.toJsonEntries fields).lookup field.name = some value := by
    intro field member
    have name : field.name ∈ fields.map Prod.fst := named ▸ List.mem_map_of_mem member
    obtain ⟨p, inside, same⟩ := List.mem_map.mp name
    exact ⟨p.2.toJson, same ▸ present p inside⟩
  rw [Value.toJson, valueToType] at rebuilt
  simp only [defined] at rebuilt
  cases loop : convertFields env cls d.fields (Value.toJsonEntries fields) with
  | error e =>
    rw [loop] at rebuilt
    cases rebuilt
  | ok vs =>
    rw [loop] at rebuilt
    change (DataclassDef.construct _ _ _).elim _ _ = _ at rebuilt
    have each := (convertFields_iff given).mp loop
    have names := converted_names each
    rw [DataclassDef.construct, keeps _ names] at rebuilt
    cases rebuilt
    intro p member
    obtain ⟨⟨value, found, converted⟩, name⟩ := (List.forall₂_iff_zip.mp each).2 member
    have inside : p.2 ∈ fields := (List.of_mem_zip member).2
    have same : value = p.2.2.toJson := by
      have found' := present p.2 inside
      rw [name, found] at found'
      exact Option.some.inj found'
    exact same ▸ converted

/-- If the whole value comes back, every union leaves its value alone. -/
theorem Nests.leftAlone {hint : Hint} {v : Value} (nests : Nests env IsMember hint v)
    (rebuilt : valueToType env hint v.toJson = .ok v) :
    Nests env (fun types v => IsMember types v ∧ LeftAlone env types v) hint v := by
  -- a whole that comes back has parts that come back, down to the unions
  induction nests with
  | union leaf => exact .union ⟨leaf, (union_keeps leaf).mp rebuilt⟩
  | other inhabits => exact .other inhabits
  | @optional args arg v optional _ ih =>
    by_cases there : v = .none
    · subst there
      exact .other (.optionalNone optional)
    · exact .optional optional (ih (optional_converted optional there rebuilt))
  | list _ each =>
    have items := list_converted rebuilt
    exact .list fun v member => each v member (items v member)
  | dict _ each =>
    have entries := dict_converted rebuilt
    exact .dict fun p member => each p member (entries p member)
  | dataclass defined named distinct keeps _ each =>
    have fields := dataclass_converted defined named distinct keeps rebuilt
    exact .dataclass defined named distinct keeps fun p member =>
      each p member (fields p member)

/-- A value with unions of scalars in it comes back exactly if each of them leaves
    its value alone. -/
theorem union_keeps_iff (env : Env) (hint : Hint) (v : Value) (nests : Nests env IsMember hint v) :
    valueToType env hint v.toJson = .ok v ↔
      Nests env (fun types v => IsMember types v ∧ LeftAlone env types v) hint v :=
  ⟨nests.leftAlone, Nests.rebuilt⟩

/-- `Dict[str, List[Union[float, str]]]` and a value of it. -/
theorem union_keeps_iff_nested :
    valueToType nested (.dict (.list (.union [.float, .str])))
      (Value.dict [("a", .list [.float 0, .str "foo"])]).toJson =
        .ok (.dict [("a", .list [.float 0, .str "foo"])]) := by
  have leaves (Leaf : List ScalarType → Value → Prop) (float : Leaf [.float, .str] (.float 0))
      (str : Leaf [.float, .str] (.str "foo")) : Nests nested Leaf
        (.dict (.list (.union [.float, .str]))) (.dict [("a", .list [.float 0, .str "foo"])]) := by
    apply Nests.dict
    intro p member
    rw [List.mem_singleton.mp member]
    apply Nests.list
    intro v member
    rcases List.mem_cons.mp member with rfl | member
    · exact @Nests.union _ _ [.float, .str] _ float
    · rw [List.mem_singleton.mp member]
      exact @Nests.union _ _ [.float, .str] _ str
  have float : IsMember [.float, .str] (.float 0) := ⟨.float, by decide, rfl⟩
  have str : IsMember [.float, .str] (.str "foo") := ⟨.str, by decide, rfl⟩
  apply (union_keeps_iff nested _ _ (leaves IsMember float str)).mpr
  apply leaves
  · exact ⟨float, by unfold LeftAlone; decide⟩
  · exact ⟨str, by unfold LeftAlone; decide⟩

/-- `int` of the number 1.5. -/
def truncating : Env := { nested with
  intOfFloat := fun f => if f = 0x3ff8000000000000 then some 1 else none }

/-- `value_to_type(Union[int, float], 1.5)` is 1. -/
theorem union_truncates :
    IsMember [.int, .float] (.float 0x3ff8000000000000) ∧
    valueToType truncating (.union [.int, .float]) (Value.float 0x3ff8000000000000).toJson =
      .ok (.int 1) ∧
    ¬∀ (env : Env) (hint : Hint) (v : Value), Nests env IsMember hint v →
      valueToType env hint v.toJson = .ok v := by
  have member : IsMember [.int, .float] (.float 0x3ff8000000000000) := ⟨.float, by decide, rfl⟩
  have truncated : valueToType truncating (.union [.int, .float])
      (Value.float 0x3ff8000000000000).toJson = .ok (.int 1) := by
    rw [valueToType, convertUnion, Value.toJson, valueToType]
    rfl
  refine ⟨member, truncated, fun keeps => ?_⟩
  have kept := keeps truncating _ _ (@Nests.union _ _ [.int, .float] _ member)
  cases truncated.symm.trans kept

end TemporalSdk.Converter.TypedJson
