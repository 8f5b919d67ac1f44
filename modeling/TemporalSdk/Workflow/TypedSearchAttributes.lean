import Mathlib.Data.String.Basic
import TemporalSdk.Heap
import TemporalSdk.Workflow.SearchAttributes

/-!
# Collections of typed search attributes

`TypedSearchAttributes`: pairs in the order of their names, no name twice, the
lookups in them and `updated`; `encode_search_attributes` of a collection, and the
call of an upsert as a workflow instance makes it.
-/
namespace TemporalSdk.SearchAttributes

open Converter (ConverterError)
open Converter.InPlace (Payload)

variable {M C D : Type}

/-! ### Collections -/

structure TypedSearchAttributes (D : Type) where
  searchAttributes : List (SearchAttributePair D)
  distinct : (names searchAttributes).Nodup

/-- Neighbours in a sorted list have different names only if all have. -/
theorem nodup_of_duplicate_none {pairs : List (SearchAttributePair D)}
    (sorted : pairs.Pairwise fun a b => a.key.name ≤ b.key.name)
    (none : duplicate? pairs = none) : (names pairs).Nodup := by
  induction pairs with
  | nil => exact List.nodup_nil
  | cons a rest ih =>
    obtain ⟨least, sorted⟩ := List.pairwise_cons.mp sorted
    cases rest with
    | nil => exact List.nodup_singleton _
    | cons b rest =>
      rw [duplicate?] at none
      split at none
      next => cases none
      next differs =>
        refine List.nodup_cons.mpr ⟨fun again => ?_, ih sorted none⟩
        obtain ⟨c, member, same⟩ := List.mem_map.mp again
        -- `b` is between `a` and `c`, which have one name
        have below : b.key.name ≤ c.key.name := by
          rcases List.mem_cons.mp member with rfl | later
          · exact le_refl _
          · exact (List.pairwise_cons.mp sorted).1 c later
        have above := least b List.mem_cons_self
        exact differs (le_antisymm above (le_of_le_of_eq below same))

theorem sortedByName_sorted (pairs : List (SearchAttributePair D)) :
    (sortedByName pairs).Pairwise fun a b => a.key.name ≤ b.key.name := by
  have sorted := @List.pairwise_mergeSort _ (fun a b => decide (a.key.name ≤ b.key.name))
    (fun a b c ab bc => by simpa using le_trans (by simpa using ab) (by simpa using bc))
    (fun a b => by simpa using le_total a.key.name b.key.name) pairs
  exact sorted.imp fun le => by simpa using le

namespace TypedSearchAttributes

/-- The constructor, with `__post_init__`. -/
def init (pairs : List (SearchAttributePair D)) :
    Except ConverterError (TypedSearchAttributes D) :=
  match none : duplicate? (sortedByName pairs) with
  | some name => .error (.other s!"Duplicate search attribute entries found for key {name}")
  | none => .ok ⟨sortedByName pairs, nodup_of_duplicate_none (sortedByName_sorted pairs) none⟩

variable (attrs : TypedSearchAttributes D) (key : SearchAttributeKey)

/-- `next((v for k, v in self if k == key), None)`. -/
def stored : Option (AttributeValue D) :=
  (attrs.searchAttributes.find? fun pair => pair.key = key).map (·.value)

/-- `__getitem__`. -/
def getitem : Except ConverterError (AttributeValue D) :=
  match attrs.stored key with
  | none | some .none => .error (.keyError "")
  | some ret => .ok ret

/-- `bool(value)`. An object is true unless its class has a say in it. -/
def isTrue : AttributeValue D → Bool
  | .none => false
  | .bool b => b
  | .int i => i ≠ 0
  -- both zeros
  | .float f => f ≠ 0 ∧ f ≠ 0x8000000000000000
  | .str s => s ≠ ""
  | .list items => !items.isEmpty
  | .datetime _ | .other => true

/-- `__contains__`: `any(v for k, v in self if k == key)`. -/
def contains : Bool :=
  attrs.searchAttributes.any fun pair => pair.key = key ∧ isTrue pair.value

/-- `get`. -/
def get (default : AttributeValue D) : AttributeValue D :=
  match attrs.getitem key with
  | .ok value => value
  | .error _ => default

/-! #### Lists as objects

`updated` writes to a list of its own, so the list of a collection is an object here. -/

/-- `TypedSearchAttributes(given)`: `sorted` makes a list of its own. -/
def construct (h : Heap (List (SearchAttributePair D))) (given : Ref) :
    Option (Heap (List (SearchAttributePair D)) × Except ConverterError Ref) := do
  let pairs ← h.read given
  match init pairs with
  | .error error => return (h, .error error)
  | .ok attrs =>
    let (h, sorted) := h.alloc attrs.searchAttributes
    return (h, .ok sorted)

/-- A round of the loop in `updated`: `attrs[existing_index] = attr`, or `attrs.append(attr)`. -/
def updateRound (attrs : Ref) (h : Heap (List (SearchAttributePair D)))
    (attr : SearchAttributePair D) : Option (Heap (List (SearchAttributePair D))) := do
  let listed ← h.read attrs
  return h.write attrs (putPair listed attr)

/-- `updated`, of the collection whose list is `self`. -/
def updated (h : Heap (List (SearchAttributePair D))) (self : Ref)
    (searchAttributes : List (SearchAttributePair D)) :
    Option (Heap (List (SearchAttributePair D)) × Except ConverterError Ref) := do
  let (h, attrs) := h.alloc (← h.read self)
  let h ← searchAttributes.foldlM (updateRound attrs) h
  construct h attrs

end TypedSearchAttributes

/-! ### Encoding a collection -/

/-- A pair as it is given to the constructor: keyword lists may be tuples. -/
inductive GivenPair (D : Type) where
  | plain (pair : SearchAttributePair D)
  | keywordTuple (name : String) (items : List (AttributeValue D))

/-- The pair, with a list for a tuple. -/
def GivenPair.asList : GivenPair D → SearchAttributePair D
  | .plain pair => pair
  | .keywordTuple name items => ⟨⟨name, .keywordList⟩, .list items⟩

variable (env : Env M C D)

/-- `encode_typed_search_attribute_value` of a pair. A tuple is a sequence as well. -/
def encodeGivenPair : GivenPair D → Except ConverterError Payload
  | .plain pair => encodeTypedSearchAttributeValue env pair.key pair.value
  | .keywordTuple name items =>
    match strings items with
    | some texts => toTypedPayload env ⟨name, .keywordList⟩ (.tuple (texts.map .str))
    | none => .error (.typeError "All values of a keyword list must be strings")

/-- `encode_search_attributes` of a typed collection: the fields of the message. -/
def encodeSearchAttributes :
    List (GivenPair D) → Dict String Payload → Except ConverterError (Dict String Payload)
  | [], indexedFields => .ok indexedFields
  | pair :: rest, indexedFields => do
    let payload ← encodeGivenPair env pair
    encodeSearchAttributes rest (indexedFields.set pair.asList.key.name payload)

/-! ### The call in a workflow -/

/-- The commands of a completion: upserts, and others of any kind. -/
inductive Command (K : Type) where
  | upsertWorkflowSearchAttributes (searchAttributes : Dict String Payload)
  | other (command : K)

/-- What the call reads and changes of a workflow instance. -/
structure Instance (K D : Type) where
  deleting : Bool
  readOnly : Bool
  /-- `_current_completion.successful.commands`. -/
  commands : List (Command K)
  info : Info D

inductive UpsertError where
  | workflowBeingEvicted (message : String)
  | readOnlyContext (message : String)
  | converter (error : ConverterError)

/-- `_assert_not_read_only("add command")`. -/
def assertNotReadOnly {K : Type} (w : Instance K D) : Except UpsertError Unit :=
  if w.deleting then
    .error (.workflowBeingEvicted
      "Ignoring add command while evicting workflow. This is not an error.")
  else if w.readOnly then
    .error (.readOnlyContext "While in read-only function, action attempted: add command")
  else .ok ()

/-- `workflow_upsert_search_attributes`: the command is added first, and filled
    as far as the loop gets. -/
def workflowUpsertSearchAttributes {K : Type} (w : Instance K D) (attributes : Attributes D) :
    Instance K D × Option UpsertError :=
  match assertNotReadOnly w with
  | .error error => (w, some error)
  | .ok () =>
    let (v, error) := upsertSearchAttributes env w.info attributes
    ({ w with
        commands := w.commands ++ [Command.upsertWorkflowSearchAttributes v.command]
        info := v.info }, error.map UpsertError.converter)

end TemporalSdk.SearchAttributes
