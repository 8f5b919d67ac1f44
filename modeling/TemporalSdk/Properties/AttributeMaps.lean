import TemporalSdk.Properties.AttributeValues

/-!
# Collections of typed search attributes are sorted finite maps

## Main result

`sorted_finite_map`: the constructor rejects exactly the lists in which two pairs
share a name, and sorts the others; `updated` never raises, and finds under each
name the last pair of its arguments, or else what the collection had, which it
leaves as it was.

## Proof strategy

Each round of the loop in `updated` puts one pair into the list it has copied, so
names stay distinct in it and the constructor at the end only sorts.
-/

namespace TemporalSdk.SearchAttributes.TypedSearchAttributes

open Converter (ConverterError)

variable {D : Type}

/-- Pairs at two places of the list share a name. -/
def SharesName (pairs : List (SearchAttributePair D)) : Prop :=
  ∃ (i j : Nat) (a b : SearchAttributePair D),
    i < j ∧ pairs[i]? = some a ∧ pairs[j]? = some b ∧ a.key.name = b.key.name

def Sorted (pairs : List (SearchAttributePair D)) : Prop :=
  pairs.Pairwise fun a b => a.key.name ≤ b.key.name

theorem sharesName_iff {pairs : List (SearchAttributePair D)} :
    SharesName pairs ↔ ¬(names pairs).Nodup := by
  unfold names
  rw [List.nodup_iff_getElem?_ne_getElem?]
  constructor
  · rintro ⟨i, j, a, b, before, atI, atJ, same⟩ distinct
    have inside : j < (pairs.map fun a => a.key.name).length := by
      rw [List.length_map]
      exact (List.getElem?_eq_some_iff.mp atJ).1
    apply distinct i j before inside
    rw [List.getElem?_map, List.getElem?_map, atI, atJ, Option.map_some, Option.map_some, same]
  · intro shared
    push Not at shared
    obtain ⟨i, j, before, inside, same⟩ := shared
    rw [List.length_map] at inside
    have atJ := List.getElem?_eq_getElem inside
    have atI := List.getElem?_eq_getElem (before.trans inside)
    rw [List.getElem?_map, List.getElem?_map, atI, atJ] at same
    exact ⟨i, j, _, _, before, atI, atJ, Option.some.inj same⟩

/-- The constructor raises only one error. -/
theorem init_eq_error {pairs : List (SearchAttributePair D)} {error : ConverterError}
    (raised : init pairs = .error error) : ∃ name : String,
      error = .other s!"Duplicate search attribute entries found for key {name}" := by
  unfold init at raised
  split at raised
  next name _ =>
    cases raised
    exact ⟨name, rfl⟩
  next => cases raised

theorem init_raises_iff {pairs : List (SearchAttributePair D)} :
    (∃ error, init pairs = .error error) ↔ SharesName pairs := by
  rw [sharesName_iff]
  cases made : init pairs with
  | error error =>
    simp only [Except.error.injEq, exists_eq', true_iff]
    intro distinct
    have accepted : init pairs = .ok ⟨sortedByName pairs, nodup_sortedByName distinct⟩ :=
      init_eq_ok.mpr ⟨distinct, rfl⟩
    rw [made] at accepted
    cases accepted
  | ok attrs =>
    have distinct := (init_eq_ok.mp made).1
    simp [distinct]

/-! ### Updating -/

/-- What the list under construction has to do with the arguments that were put in it. -/
structure Updates (old us new : List (SearchAttributePair D)) : Prop where
  distinct : (names new).Nodup
  finds : ∀ name, find new name = (find us.reverse name).or (find old name)

theorem Updates.start {old : List (SearchAttributePair D)} (distinct : (names old).Nodup) :
    Updates old [] old := ⟨distinct, fun _ => rfl⟩

/-- One more argument: it replaces the pair of its name, or is added. -/
theorem Updates.put {old us new : List (SearchAttributePair D)} (updates : Updates old us new)
    (attr : SearchAttributePair D) : Updates old (us ++ [attr]) (putPair new attr) where
  distinct := nodup_putPair new updates.distinct attr
  finds := by
    intro name
    rw [find_putPair, updates.finds, List.reverse_append, List.reverse_singleton,
      List.singleton_append, find_cons]
    by_cases here : name = attr.key.name
    · simp [here]
    · simp [here, Ne.symm here]

theorem sortedByName_perm (pairs : List (SearchAttributePair D)) :
    (sortedByName pairs).Perm pairs := List.mergeSort_perm pairs _

theorem find_of_perm {l₁ l₂ : List (SearchAttributePair D)} (distinct : (names l₁).Nodup)
    (perm : l₂.Perm l₁) (name : String) : find l₂ name = find l₁ name := by
  have distinct₂ : (names l₂).Nodup := ((perm.map _).nodup_iff).mpr distinct
  ext pair
  rw [find_eq_some distinct₂, find_eq_some distinct, perm.mem_iff]

/-- The loop of `updated` writes to the list `attrs` only. -/
theorem updateLoop {old us : List (SearchAttributePair D)}
    {h₀ h : Heap (List (SearchAttributePair D))} {attrs : Ref} (kept : h₀.Keeps h)
    (fresh : h₀.read attrs = none) {done new : List (SearchAttributePair D)}
    (listed : h.read attrs = some new) (updates : Updates old done new) :
    ∃ h' new', us.foldlM (updateRound attrs) h = some h' ∧ h₀.Keeps h' ∧
      h'.read attrs = some new' ∧ Updates old (done ++ us) new' := by
  induction us generalizing h done new with
  | nil =>
    refine ⟨h, new, rfl, kept, listed, ?_⟩
    rw [List.append_nil]
    exact updates
  | cons attr us ih =>
    -- one round writes the list with one more argument to the copy
    have round : updateRound attrs h attr = some (h.write attrs (putPair new attr)) := by
      simp [updateRound, listed]
    obtain ⟨h', new', ran, kept', listed', updates'⟩ := ih (kept.write fresh (putPair new attr))
      (Heap.read_write listed (putPair new attr)) (updates.put attr)
    refine ⟨h', new', ?_, kept', listed', ?_⟩
    · rw [List.foldlM_cons, round]
      exact ran
    · rw [List.append_assoc, List.singleton_append] at updates'
      exact updates'

/-- The constructor at the end sorts a list without duplicates. -/
theorem construct_of_distinct {h : Heap (List (SearchAttributePair D))} {given : Ref}
    {pairs : List (SearchAttributePair D)} (listed : h.read given = some pairs)
    (distinct : (names pairs).Nodup) :
    ∃ h' ref, construct h given = some (h', .ok ref) ∧ h.Keeps h' ∧
      h'.read ref = some (sortedByName pairs) := by
  have made : init pairs = .ok ⟨sortedByName pairs, nodup_sortedByName distinct⟩ :=
    init_eq_ok.mpr ⟨distinct, rfl⟩
  refine ⟨_, _, ?_, Heap.keeps_alloc h _, Heap.read_alloc h _⟩
  simp [construct, listed, made]

theorem updated_spec {h : Heap (List (SearchAttributePair D))} {self : Ref}
    (a : TypedSearchAttributes D) (us : List (SearchAttributePair D))
    (held : h.read self = some a.searchAttributes) :
    ∃ h' ref new, updated h self us = some (h', .ok ref) ∧ h'.read ref = some new ∧
      Sorted new ∧ Updates a.searchAttributes us new ∧ h.Keeps h' := by
  obtain ⟨h₁, list, ran, kept, listed, updates⟩ := @updateLoop _ _ us _ _ _
    (Heap.keeps_alloc h a.searchAttributes) (Heap.read_fresh h _)
    _ _ (Heap.read_alloc h a.searchAttributes) (Updates.start a.distinct)
  obtain ⟨h', ref, made, kept', sorted⟩ := construct_of_distinct listed updates.distinct
  refine ⟨h', ref, sortedByName list, ?_, sorted, sortedByName_sorted list, ?_, kept.trans kept'⟩
  · simp [updated, held, ran, made]
  · refine ⟨nodup_sortedByName updates.distinct, fun name => ?_⟩
    have same := find_of_perm updates.distinct (sortedByName_perm list) name
    exact same.trans (updates.finds name)

/-- The constructor and `updated`, on any list of pairs, with a name in it as often as
    one likes; the collection, and every other list, is as before. -/
theorem sorted_finite_map :
    (∀ pairs : List (SearchAttributePair D),
      ((∃ error, init pairs = .error error) ↔ SharesName pairs) ∧
      (∀ error, init pairs = .error error → ∃ name : String,
        error = .other s!"Duplicate search attribute entries found for key {name}") ∧
      ∀ attrs, init pairs = .ok attrs →
        Sorted attrs.searchAttributes ∧ attrs.searchAttributes.Perm pairs) ∧
    ∀ (h : Heap (List (SearchAttributePair D))) (self : Ref) (a : TypedSearchAttributes D)
      (us : List (SearchAttributePair D)), h.read self = some a.searchAttributes →
      ∃ h' ref new, updated h self us = some (h', .ok ref) ∧ h'.read ref = some new ∧
        Sorted new ∧ Updates a.searchAttributes us new ∧ h.Keeps h' := by
  refine ⟨fun pairs => ⟨init_raises_iff, fun _ => init_eq_error, fun attrs made => ?_⟩, ?_⟩
  · rw [(init_eq_ok.mp made).2]
    exact ⟨sortedByName_sorted pairs, sortedByName_perm pairs⟩
  · intro h self a us held
    exact updated_spec a us held

/-- The integer is replaced twice, and a keyword added. -/
theorem sorted_finite_map_zero :
    ∃ h' ref new, updated ⟨[zero.searchAttributes]⟩ 0
        [⟨⟨"int", .int⟩, .int 1⟩, ⟨⟨"a", .keyword⟩, .str "foo"⟩, ⟨⟨"int", .int⟩, .int 2⟩] =
          some (h', .ok ref) ∧
      h'.read ref = some new ∧ find new "int" = some ⟨⟨"int", .int⟩, .int 2⟩ ∧
      h'.read 0 = some zero.searchAttributes := by
  obtain ⟨h', ref, new, ran, read, -, updates, kept⟩ := sorted_finite_map.2
    ⟨[zero.searchAttributes]⟩ 0 zero
    [⟨⟨"int", .int⟩, .int 1⟩, ⟨⟨"a", .keyword⟩, .str "foo"⟩, ⟨⟨"int", .int⟩, .int 2⟩] rfl
  exact ⟨h', ref, new, ran, read, updates.finds "int", kept 0 _ rfl⟩

end TemporalSdk.SearchAttributes.TypedSearchAttributes
