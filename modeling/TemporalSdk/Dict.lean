import Mathlib.Data.List.Induction
import Mathlib.Data.List.Nodup

/-!
# Insertion-ordered dictionaries

A `Dict` is a finite map that remembers the order in which its keys were first
inserted: replacing the value of a key keeps its place, a removed key that
comes back goes to the end. The entries carry the proof that no key occurs
twice, so a lookup never has a choice to make.
-/
namespace TemporalSdk

structure Dict (κ ν : Type) where
  entries : List (κ × ν)
  distinct : (entries.map Prod.fst).Nodup

namespace Dict

variable {κ ν : Type} [DecidableEq κ]

def empty : Dict κ ν := ⟨[], List.nodup_nil⟩

instance : Inhabited (Dict κ ν) := ⟨empty⟩

def keys (d : Dict κ ν) : List κ := d.entries.map Prod.fst

def values (d : Dict κ ν) : List ν := d.entries.map Prod.snd

def lookup : List (κ × ν) → κ → Option ν
  | [], _ => none
  | (k, v) :: rest, key => if k = key then some v else lookup rest key

def get? (d : Dict κ ν) (key : κ) : Option ν := lookup d.entries key

/-- Replace in place, or append. -/
def insert : List (κ × ν) → κ → ν → List (κ × ν)
  | [], key, v => [(key, v)]
  | (k, w) :: rest, key, v => if k = key then (k, v) :: rest else (k, w) :: insert rest key v

theorem mem_keys_insert (l : List (κ × ν)) (key : κ) (v : ν) (k : κ) :
    k ∈ (insert l key v).map Prod.fst ↔ k = key ∨ k ∈ l.map Prod.fst := by
  induction l with
  | nil => simp [insert]
  | cons p rest ih =>
    obtain ⟨k', w⟩ := p
    simp only [insert]
    split
    next equal =>
      subst equal
      simp
    next =>
      simp only [List.map_cons, List.mem_cons, ih]
      tauto

theorem nodup_insert (l : List (κ × ν)) (key : κ) (v : ν) (h : (l.map Prod.fst).Nodup) :
    ((insert l key v).map Prod.fst).Nodup := by
  induction l with
  | nil => simp [insert]
  | cons p rest ih =>
    obtain ⟨k', w⟩ := p
    simp only [List.map_cons, List.nodup_cons] at h
    simp only [insert]
    split
    · simpa using h
    next different =>
      simp only [List.map_cons, List.nodup_cons, mem_keys_insert, not_or]
      exact ⟨⟨different, h.1⟩, ih h.2⟩

def set (d : Dict κ ν) (key : κ) (v : ν) : Dict κ ν :=
  ⟨insert d.entries key v, nodup_insert _ _ _ d.distinct⟩

def erase (d : Dict κ ν) (key : κ) : Dict κ ν where
  entries := d.entries.filter fun p => decide (p.1 ≠ key)
  distinct := d.distinct.sublist (List.filter_sublist.map Prod.fst)

/-- The same keys with other values. -/
def mapValues {μ : Type} (f : ν → μ) (d : Dict κ ν) : Dict κ μ where
  entries := d.entries.map fun p => (p.1, f p.2)
  distinct := by
    rw [List.map_map]
    exact d.distinct

theorem lookup_insert (l : List (κ × ν)) (key k : κ) (v : ν) :
    lookup (insert l key v) k = if k = key then some v else lookup l k := by
  induction l with
  | nil => simp [insert, lookup, eq_comm]
  | cons p rest ih =>
    obtain ⟨k', w⟩ := p
    by_cases hk : k' = key <;> by_cases hk' : k' = k <;> simp_all [insert, lookup]
    intro equal
    exact absurd equal.symm hk'

theorem insert_insert (l : List (κ × ν)) (key : κ) (v w : ν) :
    insert (insert l key v) key w = insert l key w := by
  induction l with
  | nil => simp [insert]
  | cons p rest ih =>
    obtain ⟨k, u⟩ := p
    by_cases same : k = key
    · simp [insert, same]
    · simp [insert, same, ih]

theorem lookup_filter (l : List (κ × ν)) (key k : κ) :
    lookup (l.filter fun p => decide (p.1 ≠ key)) k = if k = key then none else lookup l k := by
  induction l with
  | nil => simp [lookup]
  | cons p rest ih =>
    obtain ⟨k', w⟩ := p
    by_cases hk : k' = key <;> by_cases hk' : k' = k <;> simp_all [lookup]

@[simp] theorem get?_empty (k : κ) : (empty : Dict κ ν).get? k = none := rfl

theorem get?_mapValues {μ : Type} (d : Dict κ ν) (f : ν → μ) (k : κ) :
    (d.mapValues f).get? k = (d.get? k).map f := by
  obtain ⟨entries, distinct⟩ := d
  simp only [get?, mapValues]
  clear distinct
  induction entries with
  | nil => rfl
  | cons entry rest ih =>
    rw [List.map_cons, lookup, lookup, ih]
    split <;> rfl

@[simp] theorem get?_set (d : Dict κ ν) (key k : κ) (v : ν) :
    (d.set key v).get? k = if k = key then some v else d.get? k :=
  lookup_insert _ _ _ _

@[simp] theorem get?_erase (d : Dict κ ν) (key k : κ) :
    (d.erase key).get? k = if k = key then none else d.get? k :=
  lookup_filter _ _ _

theorem lookup_of_mem {l : List (κ × ν)} {key : κ} {v : ν} (distinct : (l.map Prod.fst).Nodup)
    (member : (key, v) ∈ l) : lookup l key = some v := by
  induction l with
  | nil => simp at member
  | cons p rest ih =>
    obtain ⟨k, w⟩ := p
    simp only [List.map_cons, List.nodup_cons] at distinct
    rcases List.mem_cons.mp member with here | later
    · simp only [Prod.mk.injEq] at here
      simp [lookup, here]
    · have different : k ≠ key := by
        rintro rfl
        exact distinct.1 (List.mem_map_of_mem later)
      simp [lookup, different, ih distinct.2 later]

theorem lookup_eq_none {l : List (κ × ν)} {key : κ} (absent : key ∉ l.map Prod.fst) :
    lookup l key = none := by
  induction l with
  | nil => rfl
  | cons p rest ih =>
    obtain ⟨k, w⟩ := p
    simp only [List.map_cons, List.mem_cons, not_or] at absent
    simp [lookup, Ne.symm absent.1, ih absent.2]

theorem mem_of_lookup {l : List (κ × ν)} {key : κ} {v : ν} (found : lookup l key = some v) :
    (key, v) ∈ l := by
  induction l with
  | nil => cases found
  | cons p rest ih =>
    obtain ⟨k, w⟩ := p
    rw [lookup] at found
    split at found
    next same =>
      cases found
      rw [same]
      exact List.mem_cons_self
    next => exact List.mem_cons_of_mem _ (ih found)

theorem insert_of_absent (l : List (κ × ν)) {key : κ} (absent : key ∉ l.map Prod.fst) (v : ν) :
    insert l key v = l ++ [(key, v)] := by
  induction l with
  | nil => rfl
  | cons p rest ih =>
    obtain ⟨k, w⟩ := p
    simp only [List.map_cons, List.mem_cons, not_or] at absent
    simp [insert, Ne.symm absent.1, ih absent.2]

/-- Setting distinct keys that are not in the dict appends them. -/
theorem foldl_set_entries {β : Type} (key : β → κ) (value : β → ν) (l : List β) (d : Dict κ ν)
    (distinct : (l.map key).Nodup) (fresh : ∀ b ∈ l, key b ∉ d.entries.map Prod.fst) :
    (l.foldl (fun d b => d.set (key b) (value b)) d).entries =
      d.entries ++ l.map fun b => (key b, value b) := by
  induction l generalizing d with
  | nil => simp
  | cons b rest ih =>
    obtain ⟨absent, distinct⟩ := List.nodup_cons.mp distinct
    have added : (d.set (key b) (value b)).entries = d.entries ++ [(key b, value b)] :=
      insert_of_absent d.entries (fresh b List.mem_cons_self) (value b)
    rw [List.foldl_cons, ih (d.set (key b) (value b)) distinct, added]
    · simp
    · -- The keys still to come are neither in the dict nor the one just set.
      intro c member
      rw [added]
      simp only [List.map_append, List.map_cons, List.map_nil, List.mem_append,
        List.mem_singleton, not_or]
      refine ⟨fresh c (List.mem_cons_of_mem _ member), fun same => absent ?_⟩
      exact same ▸ List.mem_map_of_mem member

/-- Lookups do not depend on the order of the entries. -/
theorem get?_of_perm {d d' : Dict κ ν} (perm : d.entries.Perm d'.entries) (key : κ) :
    d.get? key = d'.get? key := by
  have keys : ∀ k, k ∈ d.entries.map Prod.fst ↔ k ∈ d'.entries.map Prod.fst :=
    fun k => (perm.map Prod.fst).mem_iff
  unfold get?
  by_cases listed : key ∈ d.entries.map Prod.fst
  · obtain ⟨⟨k, v⟩, member, rfl⟩ := List.mem_map.mp listed
    rw [lookup_of_mem d.distinct member, lookup_of_mem d'.distinct (perm.mem_iff.mp member)]
  · rw [lookup_eq_none listed, lookup_eq_none (mt (keys key).mpr listed)]

/-- A dictionary of lists whose members know their key: what is in it under a
key is what is in it at all, sifted by the key. -/
theorem filter_values_flatten {β : Type} (d : Dict κ (List β)) (keyOf : β → κ)
    (keyed : ∀ k v, d.get? k = some v → ∀ b ∈ v, keyOf b = k) (key : κ) :
    d.values.flatten.filter (fun b => keyOf b = key) = (d.get? key).getD [] := by
  obtain ⟨l, distinct⟩ := d
  have keyed (k : κ) (v : List β) (member : (k, v) ∈ l) : ∀ b ∈ v, keyOf b = k :=
    keyed k v (lookup_of_mem distinct member)
  show (l.map Prod.snd).flatten.filter _ = (lookup l key).getD []
  clear * - distinct keyed
  induction l with
  | nil => rfl
  | cons p rest ih =>
    obtain ⟨k, v⟩ := p
    simp only [List.map_cons, List.nodup_cons] at distinct
    rw [List.map_cons, List.flatten_cons, List.filter_append,
      ih distinct.2 fun k v member => keyed k v (List.mem_cons_of_mem _ member)]
    by_cases same : k = key
    · subst same
      have all : v.filter (fun b => keyOf b = k) = v :=
        List.filter_eq_self.mpr fun b member => by simpa using keyed k v List.mem_cons_self b member
      simp [lookup, all, lookup_eq_none distinct.1]
    · have none : v.filter (fun b => keyOf b = key) = [] := by
        refine List.filter_eq_nil_iff.mpr fun b member => ?_
        simpa [keyed k v List.mem_cons_self b member] using same
      simp [lookup, same, none]

/-! ### Grouping

A list collected under the keys of its members, one by one: the groups stand in
the order in which their keys were first met. Flattening the groups is the list
sorted by that order, and stable. -/

theorem keys_insert (l : List (κ × ν)) (key : κ) (v : ν) :
    (insert l key v).map Prod.fst =
      if key ∈ l.map Prod.fst then l.map Prod.fst else l.map Prod.fst ++ [key] := by
  induction l with
  | nil => simp [insert]
  | cons p rest ih =>
    obtain ⟨k, w⟩ := p
    by_cases same : k = key
    · simp [insert, same]
    · by_cases member : key ∈ rest.map Prod.fst
      · rw [if_pos member] at ih
        simp [insert, same, ih, List.mem_cons_of_mem _ member]
      · rw [if_neg member] at ih
        simp [insert, same, ih, Ne.symm same, member]

section Group

variable {β : Type} (keyOf : β → κ)

def collect (d : Dict κ (List β)) (b : β) : Dict κ (List β) :=
  d.set (keyOf b) ((d.get? (keyOf b)).getD [] ++ [b])

def group (l : List β) : Dict κ (List β) := l.foldl (collect keyOf) empty

theorem group_append_singleton (l : List β) (b : β) :
    group keyOf (l ++ [b]) = collect keyOf (group keyOf l) b := by
  simp [group, List.foldl_append]

theorem getD_group (l : List β) (key : κ) :
    ((group keyOf l).get? key).getD [] = l.filter fun b => keyOf b = key := by
  induction l using List.reverseRecOn with
  | nil => rfl
  | append_singleton l b ih =>
    rw [group_append_singleton, collect, get?_set, List.filter_append]
    by_cases same : key = keyOf b
    · subst same
      simp [ih]
    · simp [same, Ne.symm same, ih]

theorem filter_group_flatten (l : List β) (key : κ) :
    (group keyOf l).values.flatten.filter (fun b => keyOf b = key) =
      l.filter fun b => keyOf b = key := by
  rw [filter_values_flatten _ keyOf, getD_group]
  intro k v found b member
  have all := getD_group keyOf l k
  rw [found, Option.getD_some] at all
  rw [all] at member
  simpa using (List.mem_filter.mp member).2

/-- The keys of the groups are those of the list, in the order of their first
occurrence. -/
theorem group_keys (l : List β) :
    (∀ k, k ∈ (group keyOf l).keys ↔ k ∈ l.map keyOf) ∧
      (group keyOf l).keys.Pairwise fun a b =>
        (l.map keyOf).idxOf a < (l.map keyOf).idxOf b := by
  induction l using List.reverseRecOn with
  | nil => simp [group, keys, empty]
  | append_singleton l b ih =>
    obtain ⟨members, sorted⟩ := ih
    have keys_eq : (group keyOf (l ++ [b])).keys =
        if keyOf b ∈ (group keyOf l).keys then (group keyOf l).keys
        else (group keyOf l).keys ++ [keyOf b] := by
      rw [group_append_singleton]
      exact keys_insert _ _ _
    -- keys met before keep their place
    have old (a : κ) (member : a ∈ (group keyOf l).keys) :
        ((l ++ [b]).map keyOf).idxOf a = (l.map keyOf).idxOf a := by
      rw [List.map_append, List.idxOf_append_of_mem ((members a).mp member)]
    have sorted' : (group keyOf l).keys.Pairwise fun a a' =>
        ((l ++ [b]).map keyOf).idxOf a < ((l ++ [b]).map keyOf).idxOf a' := by
      refine sorted.imp_of_mem fun {a a'} first second less => ?_
      rw [old a first, old a' second]
      exact less
    rw [keys_eq]
    by_cases met : keyOf b ∈ (group keyOf l).keys
    · rw [if_pos met]
      refine ⟨fun k => ?_, sorted'⟩
      rw [members, List.map_append, List.mem_append]
      constructor
      · exact .inl
      · rintro (member | member)
        · exact member
        · rw [List.map_singleton, List.mem_singleton] at member
          rw [member]
          exact (members _).mp met
    · rw [if_neg met]
      refine ⟨fun k => by simp [members], List.pairwise_append.mpr ⟨sorted', by simp, ?_⟩⟩
      intro a first a' second
      rw [List.mem_singleton] at second
      subst second
      have notOld : keyOf b ∉ l.map keyOf := fun member => met ((members _).mpr member)
      rw [old a first, List.map_append, List.idxOf_append_of_notMem notOld]
      exact Nat.lt_add_right _ (List.idxOf_lt_length_iff.mpr ((members a).mp first))

theorem group_flatten_sorted (l : List β) :
    (group keyOf l).values.flatten.Pairwise fun a b =>
      (l.map keyOf).idxOf (keyOf a) ≤ (l.map keyOf).idxOf (keyOf b) := by
  have keyed (p : κ × List β) (member : p ∈ (group keyOf l).entries) (b : β) (inside : b ∈ p.2) :
      keyOf b = p.1 := by
    have all := getD_group keyOf l p.1
    rw [get?, lookup_of_mem (group keyOf l).distinct member, Option.getD_some] at all
    rw [all] at inside
    simpa using (List.mem_filter.mp inside).2
  have order := List.pairwise_map.mp (group_keys keyOf l).2
  refine List.pairwise_flatten.mpr ⟨?_, List.pairwise_map.mpr (order.imp_of_mem ?_)⟩
  · intro v member
    obtain ⟨p, inside, rfl⟩ := List.mem_map.mp member
    refine List.pairwise_of_forall_mem_list fun a first b second => ?_
    exact Nat.le_of_eq (by rw [keyed p inside a first, keyed p inside b second])
  · intro p q first second less a inP b inQ
    rw [keyed p first a inP, keyed q second b inQ]
    exact Nat.le_of_lt less

theorem mem_of_filter_eq {l₁ l₂ : List β}
    (same : ∀ k, l₁.filter (fun b => keyOf b = k) = l₂.filter fun b => keyOf b = k) {b : β}
    (member : b ∈ l₁) : b ∈ l₂ := by
  have inside : b ∈ l₁.filter fun b' => keyOf b' = keyOf b := by simp [member]
  rw [same] at inside
  exact (List.mem_filter.mp inside).1

/-- Two lists in the order of a rank of their keys that agree under each key are
the same. -/
theorem eq_of_sorted (rank : κ → Nat) {l₁ l₂ : List β}
    (injective : ∀ a ∈ l₁, ∀ b ∈ l₂, rank (keyOf a) = rank (keyOf b) → keyOf a = keyOf b)
    (sorted₁ : l₁.Pairwise fun a b => rank (keyOf a) ≤ rank (keyOf b))
    (sorted₂ : l₂.Pairwise fun a b => rank (keyOf a) ≤ rank (keyOf b))
    (same : ∀ k, l₁.filter (fun b => keyOf b = k) = l₂.filter fun b => keyOf b = k) : l₁ = l₂ := by
  induction l₁ generalizing l₂ with
  | nil =>
    cases l₂ with
    | nil => rfl
    | cons b l₂ =>
      have member := mem_of_filter_eq keyOf (fun k => (same k).symm) (List.mem_cons_self (a := b))
      cases member
  | cons a l₁ ih =>
    cases l₂ with
    | nil => cases mem_of_filter_eq keyOf same (List.mem_cons_self (a := a))
    | cons b l₂ =>
      rw [List.pairwise_cons] at sorted₁ sorted₂
      -- each head is first in its list and occurs in the other
      have ab : rank (keyOf a) ≤ rank (keyOf b) := by
        rcases List.mem_cons.mp (mem_of_filter_eq keyOf (fun k => (same k).symm)
          (List.mem_cons_self (a := b))) with equal | later
        · exact Nat.le_of_eq (by rw [equal])
        · exact sorted₁.1 b later
      have ba : rank (keyOf b) ≤ rank (keyOf a) := by
        rcases List.mem_cons.mp (mem_of_filter_eq keyOf same (List.mem_cons_self (a := a)))
          with equal | later
        · exact Nat.le_of_eq (by rw [equal])
        · exact sorted₂.1 a later
      have sameKey := injective a List.mem_cons_self b List.mem_cons_self (Nat.le_antisymm ab ba)
      have heads := same (keyOf a)
      simp only [List.filter_cons, sameKey, decide_true, if_true, List.cons.injEq] at heads
      obtain ⟨rfl, -⟩ := heads
      have tails (k : κ) : l₁.filter (fun b => keyOf b = k) = l₂.filter fun b => keyOf b = k := by
        have under := same k
        by_cases here : keyOf a = k
        · simpa [here] using under
        · simpa [here] using under
      rw [ih (fun x first y second => injective x (List.mem_cons_of_mem _ first) y
        (List.mem_cons_of_mem _ second)) sorted₁.2 sorted₂.2 tails]

/-- Flattening the groups keeps the order of the members in `p` exactly when
their keys come in the order in which the keys were first met. -/
theorem filter_group_eq_iff (l : List β) (p : β → Bool) :
    (group keyOf l).values.flatten.filter p = l.filter p ↔
      (l.filter p).Pairwise fun a b =>
        (l.map keyOf).idxOf (keyOf a) ≤ (l.map keyOf).idxOf (keyOf b) := by
  have sorted := (group_flatten_sorted keyOf l).filter p
  constructor
  · intro equal
    rw [equal] at sorted
    exact sorted
  · intro sorted'
    refine eq_of_sorted keyOf (fun k => (l.map keyOf).idxOf k) (fun a _ b second equal => ?_)
      sorted sorted' fun k => ?_
    · have met : keyOf b ∈ l.map keyOf := List.mem_map_of_mem (List.mem_filter.mp second).1
      exact ((List.idxOf_inj met).mp equal.symm).symm
    · have both (l' : List β) : (l'.filter p).filter (fun b => keyOf b = k) =
          (l'.filter fun b => keyOf b = k).filter p := by
        simp only [List.filter_filter, Bool.and_comm]
      rw [both, both, filter_group_flatten]

end Group

end Dict

end TemporalSdk
