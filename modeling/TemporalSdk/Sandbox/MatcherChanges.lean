import TemporalSdk.Dict
import TemporalSdk.Heap
import TemporalSdk.Sandbox.Restrictions

/-!
# Changing sandbox matchers

`SandboxMatcher.__or__` combines two matchers, `with_child_unrestricted` removes a
member from one. Matchers are immutable, so both make new ones; the second is
given a second time over the objects it copies and writes to.
-/
namespace TemporalSdk.Sandbox.SandboxMatcher

structure ValueError where
  message : String

/-! ### Combining -/

mutual

/-- `__or__`. -/
def or (self : SandboxMatcher) : SandboxMatcher → Except ValueError SandboxMatcher
  | ⟨access, use, children, matchSelf, onlyRuntime, leafMessage, leafWarning, _⟩ =>
    if self.onlyRuntime ≠ onlyRuntime then
      .error ⟨"Cannot combine only-runtime and non-only-runtime"⟩
    else if self.leafMessage ≠ leafMessage then .error ⟨"Cannot combine different messages"⟩
    else if self.leafWarning ≠ leafWarning then
      .error ⟨"Cannot combine different warning values"⟩
    else if matched : (self.matchSelf || matchSelf) = true then .ok all
    else match orChildren self.children children with
      | .error error => .error error
      | .ok newChildren => .ok
        { access := self.access ∪ access
          use := self.use ∪ use
          children := newChildren
          onlyRuntime := self.onlyRuntime
          leafMessage := self.leafMessage
          leafWarning := self.leafWarning
          leaf := fun set => absurd (Bool.or_eq_true_iff.mpr (Or.inl (self.leaf set))) matched }

/-- The loop over `other.children.items()`. -/
def orChildren (newChildren : List (String × SandboxMatcher)) :
    List (String × SandboxMatcher) → Except ValueError (List (String × SandboxMatcher))
  | [] => .ok newChildren
  | (otherK, otherV) :: rest =>
    match get newChildren otherK with
    | some v => match or v otherV with
      | .error error => .error error
      | .ok both => orChildren (Dict.insert newChildren otherK both) rest
    | Option.none => orChildren (Dict.insert newChildren otherK otherV) rest

end

/-! ### Removing a member -/

/-- The names or items that are left. -/
def without (names : List String) (v : String) : List String := names.filter (· ≠ v)

def withoutItem {α : Type} (items : List (String × α)) (v : String) : List (String × α) :=
  items.filter (·.1 ≠ v)

/-- `with_child_unrestricted`, which asserts that there is a path. -/
def withChildUnrestricted (self : SandboxMatcher) : List String → Option SandboxMatcher
  | [] => Option.none
  | [v] => some
    { self with
      access := without self.access v
      use := without self.use v
      children := withoutItem self.children v }
  | v :: rest =>
    match get self.children v with
    | Option.none => some self
    | some child => (child.withChildUnrestricted rest).map fun child =>
      { self with children := Dict.insert self.children v child }

/-! #### Over objects -/

/-- A matcher as an object: its sets and its mapping are objects as well. -/
structure Fields where
  access : Ref
  use : Ref
  children : Ref
  matchSelf : Bool
  onlyRuntime : Bool
  leafMessage : Option String
  leafWarning : Option String

inductive Obj where
  | set (names : List String)
  | dict (items : List (String × Ref))
  | matcher (fields : Fields)

namespace Obj

def set? (h : Heap Obj) (r : Ref) : Option (List String) :=
  (h.read r).bind fun o => match o with
    | .set names => some names
    | _ => Option.none

def dict? (h : Heap Obj) (r : Ref) : Option (List (String × Ref)) :=
  (h.read r).bind fun o => match o with
    | .dict items => some items
    | _ => Option.none

def matcher? (h : Heap Obj) (r : Ref) : Option Fields :=
  (h.read r).bind fun o => match o with
    | .matcher fields => some fields
    | _ => Option.none

end Obj

/-- `to_replace["access"] = set(self.access)` and `to_replace["access"].remove(v)`, if the
    name is there; the same for `use`. -/
def removeFromSet (h : Heap Obj) (r : Ref) (v : String) : Option (Heap Obj × Option Ref) := do
  let names ← Obj.set? h r
  if v ∈ names then
    let (h, copy) := h.alloc (.set names)
    let h := h.write copy (.set (without names v))
    return (h, some copy)
  else return (h, Option.none)

/-- `to_replace["children"] = dict(self.children)` and `del to_replace["children"][v]`. -/
def removeFromDict (h : Heap Obj) (r : Ref) (v : String) : Option (Heap Obj × Option Ref) := do
  let items ← Obj.dict? h r
  if v ∈ items.map Prod.fst then
    let (h, copy) := h.alloc (.dict items)
    let h := h.write copy (.dict (withoutItem items v))
    return (h, some copy)
  else return (h, Option.none)

/-- `dataclasses.replace(self, **to_replace)`, if there is something to replace. -/
def replace (h : Heap Obj) (self : Ref) (fields : Fields) (access use children : Option Ref) :
    Heap Obj × Ref :=
  if access.isNone && use.isNone && children.isNone then (h, self)
  else h.alloc (.matcher
    { fields with
      access := access.getD fields.access
      use := use.getD fields.use
      children := children.getD fields.children })

/-- `with_child_unrestricted`, of the matcher object `self`. -/
def withChildUnrestrictedAt (h : Heap Obj) (self : Ref) : List String → Option (Heap Obj × Ref)
  | [] => Option.none
  | [v] => do
    let fields ← Obj.matcher? h self
    let (h, access) ← removeFromSet h fields.access v
    let (h, use) ← removeFromSet h fields.use v
    let (h, children) ← removeFromDict h fields.children v
    return replace h self fields access use children
  | v :: rest => do
    let fields ← Obj.matcher? h self
    let items ← Obj.dict? h fields.children
    match Dict.lookup items v with
    | Option.none => return (h, self)
    | some child =>
      let (h, copy) := h.alloc (.dict items)
      let (h, child) ← withChildUnrestrictedAt h child rest
      let h := h.write copy (.dict (Dict.insert items v child))
      return replace h self fields Option.none Option.none (some copy)

end TemporalSdk.Sandbox.SandboxMatcher
