import TemporalSdk.Conversion

/-!
# Type hints of functions

`_type_hints_from_func`, from where the function to inspect has been chosen: the names
and kinds of its parameters come from `inspect.signature`, the types from
`typing.get_type_hints`, which resolves the annotations of the function. An annotation
`A` is an object or, if hinting is deferred, its text; what it is resolved to is a hint
`H`. Resolving may raise.
-/
namespace TemporalSdk.Signatures

/-- `inspect.Parameter.kind`. -/
inductive ParameterKind where
  | positionalOnly
  | positionalOrKeyword
  | varPositional
  | keywordOnly
  | varKeyword
  deriving DecidableEq

structure Parameter where
  name : String
  kind : ParameterKind
  deriving DecidableEq

/-- A function: its parameters and `__annotations__`, with that of what it returns under
    "return", which is no name. -/
structure Func (A : Type) where
  parameters : List Parameter
  distinct : (parameters.map (·.name)).Nodup
  annotations : Dict String A
  keyword : "return" ∉ parameters.map (·.name)

/-- What is asked of annotations and hints. -/
structure Typing (E A H : Type) where
  /-- As `get_type_hints` evaluates an annotation. -/
  resolve : A → Except E H
  /-- `str(annotation)`. -/
  text : A → String
  /-- `annotation is inspect.Parameter.empty`, of an annotation that is there. -/
  isEmptyAnnotation : A → Bool
  /-- `hint is inspect.Parameter.empty`, which is `inspect.Signature.empty` as well. -/
  isEmpty : H → Bool

variable {E A H : Type} (typing : Typing E A H)

/-- "Ignore self on methods". -/
def ignored (func : Func A) (index : Nat) (value : Parameter) : Bool :=
  index = 0 && value.name = "self" &&
    (func.annotations.get? value.name).all fun annotation =>
      typing.isEmptyAnnotation annotation || typing.text annotation = "typing.Self"

def isPositional (value : Parameter) : Bool :=
  value.kind = .positionalOnly || value.kind = .positionalOrKeyword

/-- The loop over the parameters, with the hints so far: `none` is an early return. A
    parameter that `hints` does not have gets `None` for a hint. -/
def loop (func : Func A) (hints : Dict String H) :
    Nat → List Parameter → List (Option H) → Option (List (Option H))
  | _, [], args => some args
  | index, value :: rest, args =>
    if ignored typing func index value then loop func hints (index + 1) rest args
    -- "Stop if non-positional or not a class"
    else if !isPositional value then none
    -- "All params must have annotations or we consider none to have them"
    else if (hints.get? value.name).any typing.isEmpty then none
    else loop func hints (index + 1) rest (args ++ [hints.get? value.name])

/-- `_type_hints_from_func`: the types of the parameters and of what is returned. -/
def typeHintsFromFunc (func : Func A) :
    Except E (Option (List (Option H)) × Option H) := do
  let hints ← convertEntries typing.resolve func.annotations
  let ret := (hints.get? "return").filter fun hint => !typing.isEmpty hint
  return (loop typing func hints 0 func.parameters [], ret)

end TemporalSdk.Signatures
