import TemporalSdk.Properties.SearchAttributes
import TemporalSdk.Workflow.TypedSearchAttributes

/-!
# What a failed upsert leaves behind

## Main result

`upsert_atomic_iff`: a call that raises leaves the commands and the info as they
were exactly if no command can be added at all, or if every entry of its argument
has a payload, so that nothing raises. In between, the command has been added, and
the entries before the one that fails are in it and in the views:
`failed_upsert_adds_command`. Untyped values are lists here: other values, tuples
among them, are outside the type of the argument.

## Proof strategy

Whether a loop raises depends on the entries alone. The list of commands is longer
than before as soon as the command is added.
-/

namespace TemporalSdk.SearchAttributes

open Converter (ConverterError)
open Converter.InPlace (Payload)

variable {M C D K : Type} {env : Env M C D}

/-- If the call raises, it has changed nothing. -/
def Atomic (env : Env M C D) (w : Instance K D) (attributes : Attributes D) : Prop :=
  ∀ error, (workflowUpsertSearchAttributes env w attributes).2 = some error →
    (workflowUpsertSearchAttributes env w attributes).1.commands = w.commands ∧
    (workflowUpsertSearchAttributes env w attributes).1.info = w.info

/-- Every entry of the argument has a payload. -/
def HasPayloads (env : Env M C D) : Attributes D → Prop
  | .untyped attributes => ∀ entry ∈ attributes.entries,
      ∃ payload, encodeSearchAttributeValues env entry.2 = .ok payload
  | .typed updates => ∀ update ∈ updates,
      ∃ payload, encodeTypedSearchAttributeValue env update.key update.value = .ok payload

theorem copyFrom_error (s : Upsert D) (name : String) {payload : Except ConverterError Payload} :
    (s.copyFrom name payload).2 = none ↔ ∃ made, payload = .ok made := by
  cases payload with
  | ok made => simp [Upsert.copyFrom]
  | error error => simp [Upsert.copyFrom]

/-- The loop over the entries of a dictionary raises at the first without a payload. -/
theorem untypedLoop_error (s : Upsert D) (entries : List (String × List (AttributeValue D))) :
    (Upsert.untypedLoop env s entries).2 = none ↔
      ∀ entry ∈ entries, ∃ payload, encodeSearchAttributeValues env entry.2 = .ok payload := by
  induction entries generalizing s with
  | nil => simp [Upsert.untypedLoop]
  | cons entry rest ih =>
    obtain ⟨name, vals⟩ := entry
    have here := @copyFrom_error _ s name (encodeSearchAttributeValues env vals)
    rw [Upsert.untypedLoop, List.forall_mem_cons, ← here]
    split
    next s' error copied => simp [copied]
    next s' copied => simp [copied, ih]

/-- So does the loop over typed updates. -/
theorem typedLoop_error (s : Upsert D) (updates : List (SearchAttributeUpdate D)) :
    (Upsert.typedLoop env s updates).2 = none ↔ ∀ update ∈ updates,
      ∃ payload, encodeTypedSearchAttributeValue env update.key update.value = .ok payload := by
  induction updates generalizing s with
  | nil => simp [Upsert.typedLoop]
  | cons update rest ih =>
    have here := @copyFrom_error _ s update.key.name
      (encodeTypedSearchAttributeValue env update.key update.value)
    rw [Upsert.typedLoop, List.forall_mem_cons, ← here]
    split
    next s' error copied => simp [copied]
    next s' copied => simp [copied, ih]

theorem upsert_error (info : Info D) (attributes : Attributes D) :
    (upsertSearchAttributes env info attributes).2 = none ↔ HasPayloads env attributes := by
  cases attributes with
  | untyped attributes => exact untypedLoop_error _ _
  | typed updates => exact typedLoop_error _ _

/-- Where commands may not be added the call raises, and that is all. -/
theorem call_refused {w : Instance K D} (attributes : Attributes D)
    (refused : w.deleting = true ∨ w.readOnly = true) :
    (workflowUpsertSearchAttributes env w attributes).1 = w := by
  have raises : ∃ error, assertNotReadOnly w = .error error := by
    unfold assertNotReadOnly
    split
    next => exact ⟨_, rfl⟩
    next kept =>
      rcases refused with deleting | readOnly
      · exact absurd deleting kept
      · exact ⟨_, if_pos readOnly⟩
  obtain ⟨error, raises⟩ := raises
  simp only [workflowUpsertSearchAttributes, raises]

/-- Otherwise the command is added, whatever is raised. -/
theorem call_allowed {w : Instance K D} (attributes : Attributes D) (kept : w.deleting = false)
    (writable : w.readOnly = false) :
    (workflowUpsertSearchAttributes env w attributes).2 =
      (upsertSearchAttributes env w.info attributes).2.map UpsertError.converter ∧
    (workflowUpsertSearchAttributes env w attributes).1.commands = w.commands ++
      [Command.upsertWorkflowSearchAttributes
        (upsertSearchAttributes env w.info attributes).1.command] := by
  have allowed : assertNotReadOnly w = .ok () := by
    simp [assertNotReadOnly, kept, writable]
  simp [workflowUpsertSearchAttributes, allowed]

/-- A call is atomic exactly if it is refused at once or no entry fails. -/
theorem upsert_atomic_iff (env : Env M C D) (w : Instance K D) (attributes : Attributes D) :
    Atomic env w attributes ↔
      w.deleting = true ∨ w.readOnly = true ∨ HasPayloads env attributes := by
  by_cases refused : w.deleting = true ∨ w.readOnly = true
  · -- refused before the command is added
    constructor
    · intro _
      exact refused.imp_right Or.inl
    · intro _ error _
      rw [call_refused attributes refused]
      exact ⟨rfl, rfl⟩
  · obtain ⟨kept, writable⟩ := not_or.mp refused
    obtain ⟨raises, commands⟩ := @call_allowed _ _ _ _ env w attributes
      (Bool.eq_false_of_not_eq_true kept) (Bool.eq_false_of_not_eq_true writable)
    -- from here on the call raises exactly if the loop does
    rw [← upsert_error w.info attributes]
    constructor
    · intro atomic
      refine Or.inr (Or.inr ?_)
      cases error : (upsertSearchAttributes env w.info attributes).2 with
      | none => rfl
      | some error' =>
        -- it raises with the command added
        rw [error] at raises
        have unchanged := (atomic _ raises).1
        rw [commands] at unchanged
        have longer := congrArg List.length unchanged
        simp at longer
    · rintro (deleting | readOnly | none) error raised
      · exact absurd deleting kept
      · exact absurd readOnly writable
      · rw [raises, none] at raised
        cases raised

/-- The keyword is written, and "int" has an empty payload. -/
theorem failed_upsert_adds_command :
    (workflowUpsertSearchAttributes sampleEnv
      (⟨false, false, [], ⟨Dict.empty, []⟩⟩ : Instance Empty String)
      (.typed [keywordUpdate, ⟨⟨"int", .int⟩, .str "foo"⟩])).2 =
        some (.converter (.typeError
          "Value of type  not suitable for indexed value type 3")) ∧
    (workflowUpsertSearchAttributes sampleEnv
      (⟨false, false, [], ⟨Dict.empty, []⟩⟩ : Instance Empty String)
      (.typed [keywordUpdate, ⟨⟨"int", .int⟩, .str "foo"⟩])).1.info.typedSearchAttributes =
        [⟨⟨"keyword", .keyword⟩, .str "keyword1"⟩] ∧
    ¬∀ (w : Instance Empty String) (attributes : Attributes String),
      Atomic sampleEnv w attributes := by
  refine ⟨rfl, rfl, fun atomic => ?_⟩
  have unchanged := (atomic ⟨false, false, [], ⟨Dict.empty, []⟩⟩
    (.typed [keywordUpdate, ⟨⟨"int", .int⟩, .str "foo"⟩]) _ rfl).1
  cases unchanged

end TemporalSdk.SearchAttributes
