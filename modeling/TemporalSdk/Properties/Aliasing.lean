import TemporalSdk.Converter.InPlace

/-!
# Codecs that answer with what they were given

After the five places that rewrite payloads in place, does the message hold the
payloads the codec returned?

## Main result

`in_place_iff`: `_apply_to_payloads` and `_apply_to_payload` always do. The
wrappers do unless the codec returns the very container it was given, and the
memo branch unless it returns the very payload it was given, as
`passing_through_loses_payloads` shows.

## Proof strategy

`extend` reads payload objects that deleting them from the message has left
alone, so the copies are what the references meant when the codec returned
them; only the container itself is read after it was emptied. In the memo
branch a round writes one object, and reads the answer's metadata after it has
cleared that object's.
-/
namespace TemporalSdk.Converter.InPlace

open Function

/-! ### Repeated fields -/

theorem Memory.contents_addCopy (m : Memory) (r : Ref) :
    (m.addCopy r).contents = m.contents ++ [m.objects r] := by
  have kept : m.field.map (update m.objects m.next (m.objects r)) = m.field.map m.objects := by
    apply List.map_congr_left
    intro r' member
    have := m.inUse r' member
    exact update_of_ne (Nat.ne_of_lt this) _ _
  simp only [contents, addCopy, List.map_append, kept, List.map_cons, List.map_nil, update_self]

/-- `extend` adds copies of what the references mean before it. -/
theorem Memory.contents_extend (m : Memory) (refs : List Ref) (inUse : ∀ r ∈ refs, r < m.next) :
    (m.extend refs).contents = m.contents ++ refs.map m.objects := by
  induction refs generalizing m with
  | nil => exact (List.append_nil _).symm
  | cons r refs ih =>
    have rest : ∀ r' ∈ refs, r' < (m.addCopy r).next := by
      intro r' member
      have := inUse r' (List.mem_cons_of_mem r member)
      exact Nat.lt_succ_of_lt this
    -- A copy is a new object: the references still to come mean what they meant.
    have kept : refs.map (m.addCopy r).objects = refs.map m.objects := by
      apply List.map_congr_left
      intro r' member
      have := inUse r' (List.mem_cons_of_mem r member)
      exact update_of_ne (Nat.ne_of_lt this) _ _
    calc (m.extend (r :: refs)).contents
        = ((m.addCopy r).extend refs).contents := rfl
      _ = (m.addCopy r).contents ++ refs.map (m.addCopy r).objects := ih _ rest
      _ = m.contents ++ (r :: refs).map m.objects := by
        rw [contents_addCopy, kept, List.append_assoc]
        rfl

/-- Emptying and refilling the container. -/
theorem replaceAll_iff {m : Memory} {answer : Answer} (inUse : answer.InUse m) :
    (replaceAll m answer).contents = answer.returned m ↔
      (answer = .container → m.field = []) := by
  cases answer with
  | container =>
    -- The answer is read after it has been emptied.
    have emptied : (replaceAll m .container).contents = [] := rfl
    rw [emptied, Answer.returned, Answer.refs, eq_comm, List.map_eq_nil_iff]
    simp
  | list refs =>
    have filled : (replaceAll m (.list refs)).contents = refs.map m.objects :=
      Memory.contents_extend m.delAll refs inUse
    simp [filled, Answer.returned, Answer.refs]

/-- The guard of `_apply_to_payloads` takes the container out of the way. -/
theorem applyToPayloads_contents {m : Memory} {answer : Answer} (inUse : answer.InUse m)
    (given : m.field ≠ []) : (applyToPayloads m answer).contents = answer.returned m := by
  rw [applyToPayloads, if_neg given]
  split
  next same =>
    rw [same]
    rfl
  next other => exact (replaceAll_iff inUse).mpr fun same => absurd same other

/-! ### Single payloads -/

theorem Memory.copyFrom_objects (m : Memory) (payload other : Ref) :
    (m.copyFrom payload other).objects payload = m.objects other := by
  rw [copyFrom]
  split
  next same => rw [same]
  next => exact update_self _ _ _

/-! ### Memo values -/

theorem updateMetadata_empty (other : Dict String (List UInt8)) :
    updateMetadata Dict.empty other = other := by
  have entries := Dict.foldl_set_entries Prod.fst Prod.snd other.entries Dict.empty other.distinct
    fun _ _ member => by cases member
  rw [List.map_id'] at entries
  rw [updateMetadata]
  generalize other.entries.foldl (fun d entry => d.set entry.1 entry.2) Dict.empty = updated
    at entries ⊢
  obtain ⟨_, _⟩ := updated
  obtain ⟨_, _⟩ := other
  cases entries
  rfl

/-- One round writes one object: the codec's payload, or, when the codec
    returned the value itself, the value without its metadata. -/
theorem decodeMemoValue_objects (m : Memory) (val newPayload : Ref) :
    (decodeMemoValue m val newPayload).objects = update m.objects val
      (if newPayload = val then { m.objects val with metadata := Dict.empty }
        else m.objects newPayload) := by
  by_cases same : newPayload = val
  · subst same
    simp only [decodeMemoValue, Memory.write, update_self, update_idem, if_true, updateMetadata_empty]
  · simp only [decodeMemoValue, Memory.write, update_self, update_of_ne same, update_idem,
      updateMetadata_empty, if_neg same]

/-- What the memo branch leaves: each value was written in its own round. -/
theorem decodeMemo_objects (m : Memory) (answer : Ref → Ref) (values : List Ref)
    (distinct : values.Nodup) (fresh : ∀ v ∈ values, answer v = v ∨ answer v ∉ values) (r : Ref) :
    (decodeMemo m answer values).objects r =
      if r ∈ values then
        (if answer r = r then { m.objects r with metadata := Dict.empty } else m.objects (answer r))
      else m.objects r := by
  induction values generalizing m with
  | nil => rfl
  | cons val rest ih =>
    obtain ⟨notAgain, restDistinct⟩ := List.nodup_cons.mp distinct
    have restFresh : ∀ v ∈ rest, answer v = v ∨ answer v ∉ rest := by
      intro v member
      rcases fresh v (List.mem_cons_of_mem val member) with own | other
      · exact Or.inl own
      · exact Or.inr fun inRest => other (List.mem_cons_of_mem val inRest)
    have step : (decodeMemo m answer (val :: rest)).objects r =
        (decodeMemo (decodeMemoValue m val (answer val)) answer rest).objects r := rfl
    rw [step, ih _ restDistinct restFresh, decodeMemoValue_objects]
    by_cases inRest : r ∈ rest
    · -- A later round: neither the value nor its answer was written in this one.
      have notVal : r ≠ val := fun same => notAgain (same ▸ inRest)
      rw [if_pos inRest, if_pos (List.mem_cons_of_mem val inRest), update_of_ne notVal]
      rcases fresh r (List.mem_cons_of_mem val inRest) with own | other
      · rw [if_pos own, if_pos own]
      · have notVal' : answer r ≠ val := fun same => other (same ▸ List.mem_cons_self)
        rw [update_of_ne notVal']
    · rw [if_neg inRest]
      by_cases this : r = val
      · subst this
        rw [update_self, if_pos List.mem_cons_self]
      · rw [update_of_ne this, if_neg]
        intro member
        rcases List.mem_cons.mp member with same | member
        · exact this same
        · exact inRest member

/-- The values of the memo are what the codec returned for them. -/
theorem decodeMemo_iff (m : Memory) (answer : Ref → Ref) (values : List Ref)
    (distinct : values.Nodup) (fresh : ∀ v ∈ values, answer v = v ∨ answer v ∉ values) :
    (∀ v ∈ values, (decodeMemo m answer values).objects v = m.objects (answer v)) ↔
      ∀ v ∈ values, answer v = v → (m.objects v).metadata = Dict.empty := by
  apply forall_congr'
  intro v
  apply imp_congr_right
  intro member
  rw [decodeMemo_objects m answer values distinct fresh v, if_pos member]
  by_cases own : answer v = v
  · rw [if_pos own, own]
    constructor
    · intro same _
      rw [← same]
    · intro empty
      rw [← empty rfl]
  · simp [own]

/-- The five places that rewrite payloads in place. A repeated field holds what
    the codec returned, except that the wrappers empty it when the codec returned
    the container itself and it was not empty; a single payload always does; a
    memo value does unless the codec returned that very payload and it has
    metadata. -/
theorem in_place_iff (m : Memory) :
    (∀ answer : Answer, answer.InUse m →
      ((encodeWrapper m answer).contents = answer.returned m ↔
        (answer = .container → m.field = []))) ∧
    (∀ answer : Answer, answer.InUse m →
      ((decodeWrapper m answer).contents = answer.returned m ↔
        (answer = .container → m.field = []))) ∧
    (∀ answer : Answer, answer.InUse m → m.field ≠ [] →
      (applyToPayloads m answer).contents = answer.returned m) ∧
    (∀ payload newPayload : Ref, ∃ m',
      applyToPayload m payload [newPayload] = some m' ∧
        m'.objects payload = m.objects newPayload) ∧
    (∀ (answer : Ref → Ref) (values : List Ref), values.Nodup →
      (∀ v ∈ values, answer v = v ∨ answer v ∉ values) →
      ((∀ v ∈ values, (decodeMemo m answer values).objects v = m.objects (answer v)) ↔
        ∀ v ∈ values, answer v = v → (m.objects v).metadata = Dict.empty)) := by
  refine ⟨?_, ?_, ?_, ?_, ?_⟩
  · intro answer inUse
    exact replaceAll_iff inUse
  · intro answer inUse
    exact replaceAll_iff inUse
  · intro answer inUse given
    exact applyToPayloads_contents inUse given
  · intro payload newPayload
    exact ⟨_, rfl, m.copyFrom_objects payload newPayload⟩
  · intro answer values distinct fresh
    exact decodeMemo_iff m answer values distinct fresh

/-- A message with one payload, `encoding: json/plain`. -/
def onePayload : Memory where
  objects _ := ⟨Dict.empty.set "encoding" [106, 115, 111, 110], [49]⟩
  next := 1
  field := [0]
  inUse := by simp

theorem in_place_iff_onePayload :
    Answer.InUse onePayload (.list [0]) ∧
      (encodeWrapper onePayload (.list [0])).contents = [onePayload.objects 0] := by
  have inUse : Answer.InUse onePayload (.list [0]) := by
    simp [Answer.InUse, Answer.refs, onePayload]
  refine ⟨inUse, ((in_place_iff onePayload).1 (.list [0]) inUse).mpr ?_⟩
  intro same
  cases same

/-- A codec that returns the container it is given loses the payloads in
    `encode_wrapper` and `decode_wrapper`; one that returns the payload it is
    given loses the metadata of a memo value. -/
theorem passing_through_loses_payloads :
    (Answer.container.returned onePayload).length = 1 ∧
      (encodeWrapper onePayload .container).contents = [] ∧
      (decodeWrapper onePayload .container).contents = [] ∧
      (decodeMemo onePayload id [0]).objects 0 ≠ onePayload.objects 0 := by
  refine ⟨rfl, rfl, rfl, ?_⟩
  intro same
  have keys := congrArg (fun p : Payload => p.metadata.keys.length) same
  revert keys
  decide

end TemporalSdk.Converter.InPlace
