import Mathlib.Data.List.Basic

/-!
# Sandbox restrictions

`SandboxMatcher`: a tree that says which members of a module may not be accessed
inside a workflow. A check of a fully qualified path (`accessMatcher`) walks the
tree from its root; a proxy holds the matcher of its own object and asks for the
matcher of one member at a time (`childMatcher`).
-/
namespace TemporalSdk.Sandbox

/-- A set of names is the list of its members, a mapping the list of its items.
    A warning is the name of its class. -/
structure SandboxMatcher where
  access : List String := []
  use : List String := []
  children : List (String × SandboxMatcher) := []
  matchSelf : Bool := false
  onlyRuntime : Bool := false
  leafMessage : Option String := none
  leafWarning : Option String := none
  /-- `__post_init__`: a message or a warning needs `match_self`. An empty message is falsy. -/
  leaf : (leafMessage.any (· ≠ "") || leafWarning.isSome) = true → matchSelf = true := by decide

structure RestrictionContext where
  isRuntime : Bool := false

namespace SandboxMatcher

def all : SandboxMatcher where
  matchSelf := true

def allRuntime : SandboxMatcher where
  matchSelf := true
  onlyRuntime := true

def none : SandboxMatcher := {}

def get (children : List (String × SandboxMatcher)) (name : String) : Option SandboxMatcher :=
  (children.find? (·.1 = name)).map (·.2)

/-- `matcher.children.get(v) or matcher.children.get("*")`: a matcher is always truthy. -/
def child (matcher : SandboxMatcher) (v : String) : Option SandboxMatcher :=
  (get matcher.children v).or (get matcher.children "*")

def matchesAccess (matcher : SandboxMatcher) (v : String) : Bool :=
  matcher.matchSelf || matcher.access.contains v || matcher.access.contains "*"

def matchesUse (matcher : SandboxMatcher) (v : String) : Bool :=
  matcher.use.contains v || matcher.use.contains "*"

/-- `access_matcher`. -/
def accessMatcher (matcher : SandboxMatcher) (context : RestrictionContext) (includeUse : Bool) :
    List String → Option SandboxMatcher
  | [] =>
    if !context.isRuntime && matcher.onlyRuntime then Option.none
    else if !matcher.matchSelf then Option.none
    else some matcher
  | v :: rest =>
    if !context.isRuntime && matcher.onlyRuntime then Option.none
    else if matcher.matchesAccess v then some matcher
    else if includeUse && matcher.matchesUse v then some matcher
    else match matcher.child v with
      | Option.none => Option.none
      | some childMatcher => accessMatcher childMatcher context includeUse rest

/-- `match_access`. -/
def matchAccess (matcher : SandboxMatcher) (context : RestrictionContext)
    (childPath : List String) (includeUse : Bool := false) : Bool :=
  (matcher.accessMatcher context includeUse childPath).isSome

/-- The loop of `child_matcher`: `matcher` and `only_runtime` are its variables. -/
def childMatcherLoop (matcher : SandboxMatcher) (onlyRuntime : Bool) :
    List String → Option SandboxMatcher
  | [] => some matcher
  | v :: rest =>
    if matcher.matchesAccess v || matcher.matchesUse v then
      if onlyRuntime then some allRuntime else some all
    else match matcher.child v with
      | Option.none => Option.none
      | some childMatcher =>
        -- "If this matcher is runtime only, then we ensure all children are"
        childMatcherLoop childMatcher (onlyRuntime || childMatcher.onlyRuntime) rest

/-- `child_matcher`. -/
def childMatcher (matcher : SandboxMatcher) (childPath : List String) : Option SandboxMatcher :=
  childMatcherLoop matcher matcher.onlyRuntime childPath

end SandboxMatcher

/-! ### Proxies -/

structure RestrictedWorkflowAccessError where
  message : String
  qualifiedName : String
  deriving DecidableEq

def RestrictedWorkflowAccessError.defaultMessage (qualifiedName : String) : String :=
  "Cannot access " ++ qualifiedName ++ " from inside a workflow. " ++
  "If this is code from a module not used in a workflow or known to " ++
  "only be used deterministically from a workflow, mark the import " ++ "as pass through."

/-- `override_message or default_message(qualified_name)`. -/
def RestrictedWorkflowAccessError.text (qualifiedName : String) : Option String → String
  | some message => if message = "" then defaultMessage qualifiedName else message
  | none => defaultMessage qualifiedName

/-- `_RestrictionState`, which a proxy carries. -/
structure RestrictionState (O : Type) where
  name : String
  obj : O
  context : RestrictionContext
  matcher : SandboxMatcher

/-- What an expression evaluates to: a proxy, or an object as it is. -/
inductive Value (O : Type) where
  | proxied (state : RestrictionState O)
  | plain (obj : O)

/-- `assert_child_not_restricted`: an error, or the warning that is issued. -/
def RestrictionState.assertChildNotRestricted {O : Type} (state : RestrictionState O)
    (unrestricted : Bool) (name : String) :
    Except RestrictedWorkflowAccessError (Option (String × String)) :=
  if unrestricted then .ok none
  else match state.matcher.accessMatcher state.context false [name] with
    | none => .ok none
    | some matcher =>
      let qualifiedName := state.name ++ "." ++ name
      let message := RestrictedWorkflowAccessError.text qualifiedName matcher.leafMessage
      match matcher.leafWarning with
      | some warning => .ok (some (message, warning))
      | none => .error ⟨message, qualifiedName⟩

/-- The objects behind the proxies: `getattr`, which may raise `AttributeError`, and
    `_is_restrictable`, which holds of all but `None`, numbers and texts. -/
structure Objects (O : Type) where
  getattr : O → String → Option O
  isRestrictable : O → Bool

inductive GetattrError where
  | restricted (error : RestrictedWorkflowAccessError)
  | attributeError (name : String)
  deriving DecidableEq

variable {O : Type}

/-- `_RestrictedProxy.__getattribute__`, with the warning that it issues. -/
def RestrictionState.getattribute (objects : Objects O) (unrestricted : Bool)
    (state : RestrictionState O) (name : String) :
    Except GetattrError (Option (String × String) × Value O) :=
  match state.assertChildNotRestricted unrestricted name with
  | .error error => .error (.restricted error)
  | .ok warning => match objects.getattr state.obj name with
    | none => .error (.attributeError name)
    | some ret =>
      -- "Since Python 3.11, the importer references __spec__ on module"
      if name = "__spec__" then .ok (warning, .plain ret)
      else match state.matcher.childMatcher [name] with
        | none => .ok (warning, .plain ret)
        | some childMatcher =>
          if objects.isRestrictable ret then
            .ok (warning, .proxied ⟨state.name ++ "." ++ name, ret, state.context, childMatcher⟩)
          else .ok (warning, .plain ret)

/-- An expression `value.name1.name2`, with the warnings on the way. -/
def getattrs (objects : Objects O) (unrestricted : Bool) :
    Value O → List String → Except GetattrError (List (String × String) × Value O)
  | value, [] => .ok ([], value)
  | .plain obj, name :: rest => match objects.getattr obj name with
    | none => .error (.attributeError name)
    | some ret => getattrs objects unrestricted (.plain ret) rest
  | .proxied state, name :: rest => do
    let (warning, value) ← state.getattribute objects unrestricted name
    let (warnings, result) ← getattrs objects unrestricted value rest
    return (warning.toList ++ warnings, result)

end TemporalSdk.Sandbox
