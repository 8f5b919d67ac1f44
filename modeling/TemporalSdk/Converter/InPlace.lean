import Mathlib.Logic.Function.Basic
import TemporalSdk.Dict

/-!
# Rewriting payloads in place

`encode_wrapper`, `decode_wrapper`, `_apply_to_payloads`, `_apply_to_payload` and
the memo branch of `decode_activation` overwrite payloads of a message with a
codec's answer. A codec may answer with payloads of its own, with payload
objects it was given, or with the very container it was given, so payloads are
objects in a memory here, and messages and answers hold references.
-/
namespace TemporalSdk.Converter.InPlace

/-- `temporalio.api.common.v1.Payload`. -/
structure Payload where
  metadata : Dict String (List UInt8)
  data : List UInt8

/-- A reference to a payload object. -/
abbrev Ref := Nat

/-- The payload objects and the repeated field of the message being rewritten.
    References from `next` on are not in use. -/
structure Memory where
  objects : Ref → Payload
  next : Ref
  field : List Ref
  inUse : ∀ r ∈ field, r < next

namespace Memory

/-- The payloads the message holds. -/
def contents (m : Memory) : List Payload := m.field.map m.objects

/-- `del payloads[:]`: the message lets go of its payloads, the objects stay as
    long as they are referenced. -/
def delAll (m : Memory) : Memory where
  objects := m.objects
  next := m.next
  field := []
  inUse := fun _ member => absurd member List.not_mem_nil

/-- One round of `extend`: a copy of the payload is added to the message. -/
def addCopy (m : Memory) (r : Ref) : Memory where
  objects := Function.update m.objects m.next (m.objects r)
  next := m.next + 1
  field := m.field ++ [m.next]
  inUse := by
    intro r' member
    rcases List.mem_append.mp member with old | new
    · exact Nat.lt_succ_of_lt (m.inUse r' old)
    · rw [List.mem_singleton.mp new]
      exact Nat.lt_succ_self m.next

/-- `payloads.extend(refs)`. -/
def extend (m : Memory) (refs : List Ref) : Memory := refs.foldl addCopy m

/-- Overwrites one payload object. -/
def write (m : Memory) (r : Ref) (payload : Payload) : Memory :=
  { m with objects := Function.update m.objects r payload }

/-- `payload.CopyFrom(other)`, which does nothing when both are one object. -/
def copyFrom (m : Memory) (payload other : Ref) : Memory :=
  if other = payload then m else m.write payload (m.objects other)

end Memory

/-- What a codec returned for the container it was given. -/
inductive Answer where
  /-- The very container. -/
  | container
  /-- A list of payload objects, its own or those it was given. -/
  | list (refs : List Ref)
  deriving DecidableEq

namespace Answer

/-- The payload objects one gets when iterating over the answer: those the
    container holds at that time. -/
def refs (m : Memory) : Answer → List Ref
  | container => m.field
  | list refs => refs

/-- The answer refers to payload objects in use. -/
def InUse (m : Memory) (answer : Answer) : Prop := ∀ r ∈ answer.refs m, r < m.next

/-- The payloads the codec returned. -/
def returned (m : Memory) (answer : Answer) : List Payload := (answer.refs m).map m.objects

end Answer

/-- `del payloads[:]` and `payloads.extend(new_payloads)`. -/
def replaceAll (m : Memory) (newPayloads : Answer) : Memory :=
  let m := m.delAll
  m.extend (newPayloads.refs m)

/-- `PayloadCodec.encode_wrapper` once the codec has answered. -/
def encodeWrapper (m : Memory) (newPayloads : Answer) : Memory := replaceAll m newPayloads

/-- `PayloadCodec.decode_wrapper` once the codec has answered. -/
def decodeWrapper (m : Memory) (newPayloads : Answer) : Memory := replaceAll m newPayloads

/-- `_apply_to_payloads`: an empty container is not passed to the codec, and the
    container itself is accepted as an answer. -/
def applyToPayloads (m : Memory) (newPayloads : Answer) : Memory :=
  if m.field = [] then m
  else if newPayloads = .container then m
  else replaceAll m newPayloads

/-- `_apply_to_payload`: `newPayloads` is the codec's answer to `[payload]`, its
    first payload is copied. The lookup fails on an empty answer. -/
def applyToPayload (m : Memory) (payload : Ref) (newPayloads : List Ref) : Option Memory :=
  newPayloads.head?.map fun newPayload => m.copyFrom payload newPayload

/-- `metadata.update(other)`. -/
def updateMetadata (metadata other : Dict String (List UInt8)) : Dict String (List UInt8) :=
  other.entries.foldl (fun d entry => d.set entry.1 entry.2) metadata

/-- One round of the memo branch of `decode_activation`. Each line reads the
    objects as the line before left them. -/
def decodeMemoValue (m : Memory) (val newPayload : Ref) : Memory :=
  -- val.metadata.clear()
  let m := m.write val { m.objects val with metadata := Dict.empty }
  -- val.metadata.update(new_payload.metadata)
  let m := m.write val { m.objects val with
    metadata := updateMetadata (m.objects val).metadata (m.objects newPayload).metadata }
  -- val.data = new_payload.data
  m.write val { m.objects val with data := (m.objects newPayload).data }

/-- The memo branch: the payload the codec returned for each value. -/
def decodeMemo (m : Memory) (answer : Ref → Ref) (values : List Ref) : Memory :=
  values.foldl (fun m val => decodeMemoValue m val (answer val)) m

end TemporalSdk.Converter.InPlace
