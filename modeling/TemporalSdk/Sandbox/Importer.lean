import TemporalSdk.Segments

/-!
# The importer of the sandbox

`Importer._maybe_passthrough_module`: a module that passes through is imported from
the host, with the overrides of the thread unapplied, and is not loaded again in the
sandbox.

`V` is the type of what an override holds, `W` of everything else that an import may
change, `M` of modules, `X` of exceptions. An index of a string counts code points.
-/
namespace TemporalSdk.Sandbox

open Segments (indexFrom)

/-! ### Strings -/

/-- `s.find(c, start)`. -/
def find (s : String) (c : Char) (start : Int) : Int :=
  let start := if start < 0 then start + s.length else start
  match indexFrom c start.toNat s.toList with
  | some i => i
  | none => -1

/-- `s[:end]`. -/
def slice (s : String) (stop : Int) : String :=
  let stop := if stop < 0 then stop + s.length else stop
  String.ofList (s.toList.take stop.toNat)

/-! ### Restrictions -/

/-- A set is the list of its members. -/
structure SandboxRestrictions where
  passthroughModules : List String

namespace SandboxRestrictions

/-- `with_passthrough_modules`. -/
def withPassthroughModules (self : SandboxRestrictions) (modules : List String) :
    SandboxRestrictions where
  passthroughModules := self.passthroughModules ∪ modules

def passthroughModulesMinimum : List String :=
  ["grpc", "pathlib", "importlib", "importlib_metadata", "platform", "zipfile",
    "google.protobuf", "temporalio.api", "temporalio.bridge.proto",
    "temporalio.bridge.temporal_sdk_bridge"]

def passthroughModulesWithTemporal : List String :=
  passthroughModulesMinimum ∪ ["asyncio", "abc", "temporalio", "pkg_resources", "pydantic"]

end SandboxRestrictions

/-! ### The state of the thread -/

/-- What an importer overrides: each is a `_ThreadLocalOverride`. -/
inductive Overridden where
  | sysModules
  | importFunc
  | builtin (name : String)
  deriving DecidableEq

structure ImportState (V W : Type) where
  /-- `maybe_current` of each override. -/
  maybeCurrent : Overridden → Option V
  /-- `_imports_passed_through.value`, if it is set. -/
  importsPassedThrough : Option Bool
  world : W

variable {V W M X R : Type}

/-- Code that returns or raises an `R`. -/
abbrev Body (V W R : Type) := ImportState V W → R × ImportState V W

def ImportState.setCurrent (s : ImportState V W) (o : Overridden) (current : Option V) :
    ImportState V W :=
  { s with maybeCurrent := Function.update s.maybeCurrent o current }

/-- `_ThreadLocalOverride.unapplied` around a body. -/
def unapplied (o : Overridden) (body : Body V W R) : Body V W R := fun s =>
  let origCurrent := s.maybeCurrent o
  let (r, s) := body (if origCurrent.isSome then s.setCurrent o none else s)
  (r, if origCurrent.isSome then s.setCurrent o origCurrent else s)

/-- `is_imports_passed_through`. -/
def ImportState.isImportsPassedThrough (s : ImportState V W) : Bool :=
  s.importsPassedThrough.getD false

/-- `imports_passed_through` around a body. -/
def importsPassedThrough (body : Body V W R) : Body V W R := fun s =>
  -- "Nested calls just continue passed through."
  if s.isImportsPassedThrough then body s
  else
    let (r, s) := body { s with importsPassedThrough := some true }
    (r, { s with importsPassedThrough := some false })

/-! ### The importer -/

structure Importer where
  restrictions : SandboxRestrictions
  /-- The names of `restricted_builtins`. -/
  restrictedBuiltins : List String

namespace Importer

/-- What a round of the search ends with. -/
inductive Round where
  | returnNone
  | passThrough
  | search (endDot : Int)

/-- A round of the search of `_maybe_passthrough_module`. -/
def round (passthroughModules : List String) (name : String) (endDot : Int) : Round :=
  let endDot := find name '.' (endDot + 1)
  if endDot = -1 then .returnNone
  else if slice name endDot ∈ passthroughModules then .passThrough
  else .search endDot

/-- The search, with at most so many rounds: whether it ends with the `break`. -/
def search (passthroughModules : List String) (name : String) : Nat → Int → Option Bool
  | 0, _ => none
  | rounds + 1, endDot =>
    match round passthroughModules name endDot with
    | .returnNone => some false
    | .passThrough => some true
    | .search endDot => search passthroughModules name rounds endDot

variable (self : Importer)

/-- `_builtins_unrestricted`, which enters the context managers one after the other. -/
def builtinsUnrestricted (body : Body V W R) : Body V W R :=
  self.restrictedBuiltins.foldr (fun name body => Sandbox.unapplied (.builtin name) body) body

/-- `_unapplied`. -/
def unapplied (body : Body V W R) : Body V W R :=
  Sandbox.unapplied .sysModules (Sandbox.unapplied .importFunc (self.builtinsUnrestricted body))

/-- Whether `_maybe_passthrough_module` passes the module through. -/
def passesThrough (rounds : Nat) (name : String) (s : ImportState V W) : Option Bool :=
  -- "If imports not passed through and name not in passthrough modules, check parents"
  if !s.isImportsPassedThrough && !self.restrictions.passthroughModules.contains name then
    search self.restrictions.passthroughModules name rounds (-1)
  else some true

/-- The import outside of the sandbox. -/
def importFromHost (importModule : String → Body V W (Except X M)) (name : String) :
    Body V W (Except X (Option M)) := fun s =>
  let (r, s) := self.unapplied (importModule name) s
  (r.map some, s)

/-- `_maybe_passthrough_module`, with at most so many rounds of its search. -/
def maybePassthroughModule (importModule : String → Body V W (Except X M)) (rounds : Nat)
    (name : String) (s : ImportState V W) :
    Option (Except X (Option M) × ImportState V W) :=
  (self.passesThrough rounds name s).map fun passes =>
    if passes then self.importFromHost importModule name s
    else (.ok none, s)

end Importer

end TemporalSdk.Sandbox
