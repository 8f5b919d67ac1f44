import Mathlib.Data.List.Basic

/-!
# Lists with separators

A list over any type, read as segments between separators. Induction goes from
one segment to the next. A prefix is whole if it ends where a segment ends: its
segments are then the first segments of the list.
-/
namespace TemporalSdk.Segments

variable {α : Type} {sep : α} {before p q seg rest xs : List α}

/-- `p` is a prefix of `xs` that ends where a segment ends. -/
def WholePrefix (sep : α) (p xs : List α) : Prop := p = xs ∨ p ++ [sep] <+: xs

/-! ### Prefixes that a separator follows -/

theorem not_prefix_last (mem : sep ∉ seg) : ¬ p ++ [sep] <+: seg := by
  intro isPrefix
  apply mem
  exact isPrefix.subset (List.mem_append_right p List.mem_cons_self)

/-- Such a prefix is the first segment or goes on behind it. -/
theorem prefix_more_iff (mem : sep ∉ seg) :
    p ++ [sep] <+: seg ++ sep :: rest ↔
      p = seg ∨ ∃ q, p = seg ++ sep :: q ∧ q ++ [sep] <+: rest := by
  constructor
  · rintro ⟨t, same⟩
    rw [List.append_assoc, List.singleton_append, List.append_eq_append_iff] at same
    rcases same with ⟨q, rfl, tail⟩ | ⟨q, rfl, tail⟩
    · cases q with
      | nil => exact .inl (List.append_nil p).symm
      | cons c q =>
        -- the separator behind `p` would be inside the first segment
        obtain ⟨rfl, -⟩ := List.cons.inj tail
        exact absurd (List.mem_append_right p List.mem_cons_self) mem
    · cases q with
      | nil => exact .inl (List.append_nil seg)
      | cons c q =>
        obtain ⟨rfl, rfl⟩ := List.cons.inj tail
        exact .inr ⟨q, rfl, t, by simp⟩
  · rintro (rfl | ⟨q, rfl, t, rfl⟩)
    · exact ⟨rest, by simp⟩
    · exact ⟨t, by simp⟩

theorem exists_prefix_more (mem : sep ∉ seg) {P : List α → Prop} :
    (∃ p, p ++ [sep] <+: seg ++ sep :: rest ∧ P p) ↔
      P seg ∨ ∃ q, q ++ [sep] <+: rest ∧ P (seg ++ sep :: q) := by
  constructor
  · rintro ⟨p, isPrefix, holds⟩
    rcases (prefix_more_iff mem).mp isPrefix with rfl | ⟨q, rfl, goesOn⟩
    · exact .inl holds
    · exact .inr ⟨q, goesOn, holds⟩
  · rintro (holds | ⟨q, goesOn, holds⟩)
    · exact ⟨seg, (prefix_more_iff mem).mpr (.inl rfl), holds⟩
    · exact ⟨seg ++ sep :: q, (prefix_more_iff mem).mpr (.inr ⟨q, rfl, goesOn⟩), holds⟩

/-- What merely has the same beginning: the next element is no separator. -/
theorem not_wholePrefix {c : α} (other : c ≠ sep) : ¬ WholePrefix sep p (p ++ c :: rest) := by
  rintro (same | ⟨t, same⟩)
  · simp at same
  · rw [List.append_assoc, List.singleton_append] at same
    exact other (List.cons.inj (List.append_cancel_left same)).1.symm

theorem intercalate_append {segs later : List (List α)} (some : segs ≠ []) (others : later ≠ []) :
    [sep].intercalate (segs ++ later) =
      [sep].intercalate segs ++ sep :: [sep].intercalate later := by
  induction segs with
  | nil => exact absurd rfl some
  | cons seg segs ih =>
    cases segs with
    | nil =>
      rw [List.singleton_append, List.intercalate_cons_of_ne_nil others, List.intercalate_singleton]
      simp
    | cons next segs =>
      rw [List.cons_append, List.intercalate_cons_of_ne_nil (by simp), ih (by simp),
        List.intercalate_cons_of_ne_nil (List.cons_ne_nil next segs)]
      simp

/-! ### From segment to segment -/

variable [DecidableEq α]

/-- Induction on the segments: the last one, and one with others behind it. -/
theorem segments_induction (sep : α) {motive : List α → Prop}
    (last : ∀ seg, sep ∉ seg → motive seg)
    (more : ∀ seg rest, sep ∉ seg → motive rest → motive (seg ++ sep :: rest)) (xs : List α) :
    motive xs := by
  induction length : xs.length using Nat.strongRecOn generalizing xs with
  | _ n ih =>
    by_cases mem : sep ∈ xs
    · obtain ⟨seg, rest, rfl, first⟩ := List.eq_append_cons_of_mem mem
      have shorter : rest.length < n := by
        rw [← length, List.length_append, List.length_cons]
        omega
      exact more seg rest first (ih rest.length shorter rest rfl)
    · exact last xs mem

/-- The first place of `a` in `xs`, at `start` or after it. -/
def indexFrom (a : α) (start : Nat) (xs : List α) : Option Nat :=
  ((xs.drop start).idxOf? a).map (start + ·)

theorem indexFrom_last (mem : sep ∉ seg) : indexFrom sep before.length (before ++ seg) = none := by
  rw [indexFrom, List.drop_left, List.idxOf?_eq_none_iff.mpr mem]
  rfl

theorem indexFrom_more (mem : sep ∉ seg) :
    indexFrom sep before.length (before ++ (seg ++ sep :: rest)) =
      some (before.length + seg.length) := by
  have first : (seg ++ sep :: rest).idxOf? sep = some seg.length := by
    rw [List.idxOf?_eq_some_iff]
    refine ⟨by simp, by simp, fun j inside same => mem ?_⟩
    rw [List.getElem_append_left inside] at same
    exact same ▸ List.getElem_mem inside
  rw [indexFrom, List.drop_left, first]
  rfl

/-! ### Segments of a prefix -/

theorem length_splitOn_more (mem : sep ∉ seg) :
    ((seg ++ sep :: rest).splitOn sep).length = (rest.splitOn sep).length + 1 := by
  rw [List.splitOn_append_cons_self_of_not_mem mem, List.length_cons]

/-- A prefix is whole if and only if its segments are the first segments. -/
theorem wholePrefix_iff_splitOn :
    WholePrefix sep p xs ↔ p.splitOn sep <+: xs.splitOn sep := by
  constructor
  · rintro (rfl | ⟨t, rfl⟩)
    · exact List.prefix_rfl
    · rw [List.append_assoc, List.singleton_append, List.splitOn_append_cons_self]
      exact List.prefix_append _ _
  · rintro ⟨segs, split⟩
    have joined : [sep].intercalate (p.splitOn sep ++ segs) = xs := by
      rw [split, List.intercalate_splitOn]
    cases segs with
    | nil =>
      rw [List.append_nil, List.intercalate_splitOn] at joined
      exact .inl joined
    | cons seg segs =>
      rw [intercalate_append (List.splitOn_ne_nil sep p) (List.cons_ne_nil seg segs),
        List.intercalate_splitOn] at joined
      exact .inr ⟨[sep].intercalate (seg :: segs), by rw [← joined]; simp⟩

theorem WholePrefix.trans (inner : WholePrefix sep p q) (outer : WholePrefix sep q xs) :
    WholePrefix sep p xs := by
  rw [wholePrefix_iff_splitOn] at inner outer ⊢
  exact inner.trans outer

end TemporalSdk.Segments
