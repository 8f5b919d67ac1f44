import Mathlib.Data.List.Perm.Lattice
import Mathlib.Logic.Function.Basic

/-!
# Tickets

One party issues tickets, each of them once, and the other party answers each of
them at most once. `Tickets issued ended held` says that the issuer's books are
in order: what it holds is what has been issued and not been answered yet.
-/
namespace TemporalSdk

variable {α : Type}

structure Tickets (issued ended : List α) (held : α → Bool) : Prop where
  issuedOnce : issued.Nodup
  endedOnce : ended.Nodup
  known : ended ⊆ issued
  held : ∀ a, held a = true ↔ a ∈ issued ∧ a ∉ ended

namespace Tickets

variable {issued ended : List α} {held held' : α → Bool}

theorem empty : Tickets ([] : List α) [] fun _ => false where
  issuedOnce := List.nodup_nil
  endedOnce := List.nodup_nil
  known := List.Subset.refl _
  held := by simp

theorem congr (books : Tickets issued ended held) (same : ∀ a, held' a = held a) :
    Tickets issued ended held' :=
  { books with held := fun a => by rw [same, books.held] }

/-- A ticket that is held has been issued. -/
theorem held_issued (books : Tickets issued ended held) {a : α} (isHeld : held a = true) :
    a ∈ issued :=
  ((books.held a).mp isHeld).1

theorem held_open (books : Tickets issued ended held) {a : α} (isHeld : held a = true) :
    a ∉ ended :=
  ((books.held a).mp isHeld).2

theorem issue (books : Tickets issued ended held) {a : α} (fresh : a ∉ issued)
    (now : ∀ b, held' b = true ↔ held b = true ∨ b = a) : Tickets (issued ++ [a]) ended held' where
  issuedOnce := by
    rw [List.nodup_append]
    refine ⟨books.issuedOnce, by simp, ?_⟩
    rintro b old c new rfl
    rw [List.mem_singleton.mp new] at old
    exact fresh old
  endedOnce := books.endedOnce
  known := fun b member => List.mem_append_left _ (books.known member)
  held := by
    intro b
    rw [now, books.held]
    constructor
    · rintro (⟨old, notEnded⟩ | rfl)
      · exact ⟨List.mem_append_left _ old, notEnded⟩
      · exact ⟨by simp, fun member => fresh (books.known member)⟩
    · rintro ⟨member, notEnded⟩
      rcases List.mem_append.mp member with old | new
      · exact .inl ⟨old, notEnded⟩
      · exact .inr (List.mem_singleton.mp new)

/-- The same for several tickets at once. -/
theorem issueAll (books : Tickets issued ended held) {new : List α} (distinct : new.Nodup)
    (fresh : ∀ a ∈ new, a ∉ issued) (now : ∀ b, held' b = true ↔ held b = true ∨ b ∈ new) :
    Tickets (issued ++ new) ended held' where
  issuedOnce := by
    rw [List.nodup_append]
    refine ⟨books.issuedOnce, distinct, ?_⟩
    rintro b old c member rfl
    exact fresh b member old
  endedOnce := books.endedOnce
  known := fun b member => List.mem_append_left _ (books.known member)
  held := by
    intro b
    rw [now, books.held, List.mem_append]
    constructor
    · rintro (⟨old, notEnded⟩ | member)
      · exact ⟨.inl old, notEnded⟩
      · exact ⟨.inr member, fun ended => fresh b member (books.known ended)⟩
    · rintro ⟨old | member, notEnded⟩
      · exact .inl ⟨old, notEnded⟩
      · exact .inr member

theorem finish (books : Tickets issued ended held) {a : α} (isHeld : held a = true)
    (now : ∀ b, held' b = true ↔ held b = true ∧ b ≠ a) :
    Tickets issued (ended ++ [a]) held' where
  issuedOnce := books.issuedOnce
  endedOnce := by
    rw [List.nodup_append]
    refine ⟨books.endedOnce, by simp, ?_⟩
    rintro b old c new rfl
    rw [List.mem_singleton.mp new] at old
    exact books.held_open isHeld old
  known := by
    intro b member
    rcases List.mem_append.mp member with old | new
    · exact books.known old
    · rw [List.mem_singleton.mp new]
      exact books.held_issued isHeld
  held := by
    intro b
    rw [now, books.held]
    simp only [List.mem_append, List.mem_singleton, not_or]
    exact and_assoc

end Tickets

end TemporalSdk
