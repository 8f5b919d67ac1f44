import TemporalSdk.Workflow.Signatures

/-!
# Parameters without annotations

## Main result

`all_or_nothing_iff`: the types of the parameters are all there or not given at all,
exactly if some parameter is not positional or each has an annotation. A parameter that
has none is missing in what `get_type_hints` returns, which is not what is tested for:
its type is `None`, next to those of the others (`none_among_types`).

## Proof strategy

The loop returns early exactly if it meets a parameter that it stops at, and otherwise
looks each of them up.
-/

namespace TemporalSdk.Signatures

variable {E A H : Type} {typing : Typing E A H} {func : Func A} {hints : Dict String H}

/-- The parameters that are not ignored. -/
def counted (typing : Typing E A H) (func : Func A) : List Parameter :=
  match func.parameters with
  | [] => []
  | value :: rest => if ignored typing func 0 value then rest else value :: rest

/-- What the loop stops at. -/
def stopsAt (typing : Typing E A H) (hints : Dict String H) (value : Parameter) : Bool :=
  !isPositional value || (hints.get? value.name).any typing.isEmpty

/-- Only the first parameter may be ignored. -/
theorem loop_later (index : Nat) (params : List Parameter) (args : List (Option H)) :
    loop typing func hints (index + 1) params args =
      if params.any (stopsAt typing hints) then none
      else some (args ++ params.map fun value => hints.get? value.name) := by
  induction params generalizing index args with
  | nil => simp [loop]
  | cons value rest ih =>
    have kept : ignored typing func (index + 1) value = false := by simp [ignored]
    rw [loop, kept]
    cases positional : isPositional value with
    | false => simp [stopsAt, positional]
    | true =>
      cases empty : (hints.get? value.name).any typing.isEmpty with
      | true => simp [stopsAt, empty]
      | false => simp [ih, stopsAt, positional, empty]

theorem loop_counted : loop typing func hints 0 func.parameters [] =
    if (counted typing func).any (stopsAt typing hints) then none
    else some ((counted typing func).map fun value => hints.get? value.name) := by
  unfold counted
  cases func.parameters with
  | nil => rfl
  | cons value rest =>
    cases skipped : ignored typing func 0 value with
    | true => simp [loop, skipped, loop_later]
    | false =>
      cases positional : isPositional value with
      | false => simp [loop, skipped, stopsAt, positional]
      | true =>
        cases empty : (hints.get? value.name).any typing.isEmpty with
        | true => simp [loop, skipped, stopsAt, positional, empty]
        | false => simp [loop, skipped, loop_later, stopsAt, positional, empty]

/-! ### All or nothing -/

/-- The hint that the annotation of a parameter is resolved to. -/
def HasHint (typing : Typing E A H) (func : Func A) (value : Parameter) (hint : H) : Prop :=
  ∃ annotation, func.annotations.get? value.name = some annotation ∧
    typing.resolve annotation = .ok hint

/-- An annotation that means `inspect.Parameter.empty` is none. -/
def Annotated (typing : Typing E A H) (func : Func A) (value : Parameter) : Prop :=
  ∃ hint, HasHint typing func value hint ∧ typing.isEmpty hint = false

/-- The types are those of all parameters, or none are given because one is not positional
    or has no annotation. -/
structure AllOrNothing (typing : Typing E A H) (func : Func A)
    (types : Option (List (Option H))) : Prop where
  nothing : types = none ↔ ∃ value ∈ counted typing func,
    isPositional value = false ∨ ¬Annotated typing func value
  all : ∀ args, types = some args →
    List.Forall₂ (fun value arg => ∃ hint, HasHint typing func value hint ∧ arg = some hint)
      (counted typing func) args

/-- What the dictionary of hints has for a parameter. -/
theorem hints_get? (resolved : convertEntries typing.resolve func.annotations = .ok hints)
    (value : Parameter) :
    (func.annotations.get? value.name = none ∧ hints.get? value.name = none) ∨
      ∃ hint, HasHint typing func value hint ∧ hints.get? value.name = some hint := by
  obtain ⟨found, missing⟩ := convertEntries_ok resolved
  cases there : func.annotations.get? value.name with
  | none => exact Or.inl ⟨rfl, missing _ there⟩
  | some ann =>
    obtain ⟨hint, isHint, held⟩ := found _ ann there
    exact Or.inr ⟨hint, ⟨ann, there, isHint⟩, held⟩

theorem HasHint.unique {value : Parameter} {a b : H} (first : HasHint typing func value a)
    (second : HasHint typing func value b) : a = b := by
  obtain ⟨ann, there, isA⟩ := first
  obtain ⟨ann', there', isB⟩ := second
  cases there.symm.trans there'
  exact Except.ok.inj (isA.symm.trans isB)

/-- What the loop stops at, said of the annotation. -/
theorem stopsAt_iff (resolved : convertEntries typing.resolve func.annotations = .ok hints)
    (value : Parameter) :
    stopsAt typing hints value = true ↔
      isPositional value = false ∨ ∃ hint, HasHint typing func value hint ∧
        typing.isEmpty hint = true := by
  unfold stopsAt
  rcases hints_get? resolved value with ⟨absent, missing⟩ | ⟨hint, isHint, held⟩
  · have none (hint : H) : ¬HasHint typing func value hint := by
      rintro ⟨ann, there, -⟩
      cases absent.symm.trans there
    simp [missing, none]
  · rw [held]
    constructor
    · intro stops
      rcases Bool.or_eq_true_iff.mp stops with other | empty
      · exact Or.inl (by simpa using other)
      · exact Or.inr ⟨hint, isHint, empty⟩
    · rintro (other | ⟨hint', isHint', empty⟩)
      · simp [other]
      · cases isHint.unique isHint'
        simp [empty]

/-- The types are all there or not given exactly if a parameter is not positional (or its
    annotation means that there is none), or all have annotations. -/
theorem all_or_nothing_iff (typing : Typing E A H) (func : Func A)
    (types : Option (List (Option H))) (ret : Option H)
    (returned : typeHintsFromFunc typing func = .ok (types, ret)) :
    AllOrNothing typing func types ↔
      (∃ value ∈ counted typing func, isPositional value = false ∨
        ∃ hint, HasHint typing func value hint ∧ typing.isEmpty hint = true) ∨
      ∀ value ∈ counted typing func, func.annotations.get? value.name ≠ none := by
  obtain ⟨hints, resolved, returned⟩ := Converter.bind_eq_ok.mp returned
  cases returned
  rw [loop_counted]
  by_cases stops : (counted typing func).any (stopsAt typing hints) = true
  · -- none are given, and there is a parameter to account for it
    rw [if_pos stops]
    obtain ⟨value, member, stopped⟩ := List.any_eq_true.mp stops
    have cause := (stopsAt_iff resolved value).mp stopped
    refine iff_of_true ⟨iff_of_true rfl ⟨value, member, ?_⟩, by simp⟩
      (Or.inl ⟨value, member, cause⟩)
    rcases cause with other | ⟨hint, isHint, empty⟩
    · exact Or.inl other
    · refine Or.inr ?_
      rintro ⟨hint', isHint', given⟩
      cases isHint.unique isHint'
      rw [empty] at given
      cases given
  -- the loop goes through all parameters: then all must be annotated
  · rw [if_neg stops]
    have passes (value : Parameter) (member : value ∈ counted typing func) :
        ¬(isPositional value = false ∨ ∃ hint, HasHint typing func value hint ∧
          typing.isEmpty hint = true) := by
      rw [← stopsAt_iff resolved]
      exact fun stopped => stops (List.any_eq_true.mpr ⟨value, member, stopped⟩)
    constructor
    · rintro ⟨-, all⟩
      refine Or.inr fun value member absent => ?_
      have each := List.forall₂_iff_get.mp (all _ rfl)
      obtain ⟨i, inside, same⟩ := List.getElem_of_mem member
      obtain ⟨hint, ⟨ann, there, -⟩, -⟩ := each.2 i inside (by simpa using inside)
      simp only [List.get_eq_getElem, same] at there
      cases absent.symm.trans there
    · rintro (⟨value, member, stopped⟩ | annotated)
      · exact absurd stopped (passes value member)
      · constructor
        · refine iff_of_false (by simp) ?_
          rintro ⟨value, member, other | unannotated⟩
          · exact passes value member (Or.inl other)
          · rcases hints_get? resolved value with ⟨absent, -⟩ | ⟨hint, isHint, -⟩
            · exact annotated value member absent
            · refine unannotated ⟨hint, isHint, ?_⟩
              by_contra empty
              exact passes value member (Or.inr ⟨hint, isHint, by simpa using empty⟩)
        · intro args given
          cases given
          rw [List.forall₂_map_right_iff]
          refine List.forall₂_same.mpr fun value member => ?_
          rcases hints_get? resolved value with ⟨absent, -⟩ | ⟨hint, isHint, held⟩
          · exact absurd absent (annotated value member)
          · exact ⟨hint, isHint, held⟩

/-- Classes by name: annotations are the classes. -/
def classes : Typing Empty String String where
  resolve := .ok
  text := fun name => s!"<class '" ++ name ++ "'>"
  isEmptyAnnotation := fun name => name = "inspect._empty"
  isEmpty := fun name => name = "inspect._empty"

/-- `def run(self, foo: str)`. -/
def annotatedRun : Func String where
  parameters := [⟨"self", .positionalOrKeyword⟩, ⟨"foo", .positionalOrKeyword⟩]
  distinct := by decide
  annotations := ⟨[("foo", "str")], by decide⟩
  keyword := by decide

/-- `def run(self, foo: str, bar)`. -/
def partlyAnnotatedRun : Func String where
  parameters := [⟨"self", .positionalOrKeyword⟩, ⟨"foo", .positionalOrKeyword⟩,
    ⟨"bar", .positionalOrKeyword⟩]
  distinct := by decide
  annotations := ⟨[("foo", "str")], by decide⟩
  keyword := by decide

theorem all_or_nothing_iff_annotated :
    typeHintsFromFunc classes annotatedRun = .ok (some [some "str"], none) ∧
    (AllOrNothing classes annotatedRun (some [some "str"]) ↔
      (∃ value ∈ counted classes annotatedRun, isPositional value = false ∨
        ∃ hint, HasHint classes annotatedRun value hint ∧ classes.isEmpty hint = true) ∨
      ∀ value ∈ counted classes annotatedRun,
        annotatedRun.annotations.get? value.name ≠ none) :=
  ⟨rfl, all_or_nothing_iff classes annotatedRun _ none rfl⟩

/-- The type of `bar` is `None`, next to that of `foo`. -/
theorem none_among_types :
    typeHintsFromFunc classes partlyAnnotatedRun = .ok (some [some "str", none], none) ∧
    ¬AllOrNothing classes partlyAnnotatedRun (some [some "str", none]) := by
  refine ⟨rfl, fun kept => ?_⟩
  have nothing := kept.nothing.mpr ⟨⟨"bar", .positionalOrKeyword⟩, by decide, Or.inr ?_⟩
  · cases nothing
  · rintro ⟨hint, ⟨ann, there, -⟩, -⟩
    cases there

end TemporalSdk.Signatures
