import Mathlib.Data.List.Basic

/-!
# Objects by reference

A heap of objects of one kind: allocation appends, so a reference is never used
twice, and a write replaces the object at a reference. `Keeps` says that what
could be read before is read again: a program that only writes to objects it has
allocated itself changes nothing for those who hold older references.
-/
namespace TemporalSdk

/-- A reference to an object. -/
abbrev Ref := Nat

structure Heap (α : Type) where
  objects : List α

namespace Heap

variable {α : Type} {h h₀ h₁ h₂ : Heap α} {r : Ref} {o : α}

def read (h : Heap α) (r : Ref) : Option α := h.objects[r]?

def alloc (h : Heap α) (o : α) : Heap α × Ref := (⟨h.objects ++ [o]⟩, h.objects.length)

def write (h : Heap α) (r : Ref) (o : α) : Heap α := ⟨h.objects.set r o⟩

/-- Every object of the first heap is unchanged in the second. -/
def Keeps (h h' : Heap α) : Prop := ∀ r o, h.read r = some o → h'.read r = some o

theorem Keeps.refl (h : Heap α) : h.Keeps h := fun _ _ found => found

theorem Keeps.trans (first : h₀.Keeps h₁) (second : h₁.Keeps h₂) : h₀.Keeps h₂ :=
  fun r o found => second r o (first r o found)

@[simp] theorem read_alloc (h : Heap α) (o : α) : (h.alloc o).1.read (h.alloc o).2 = some o := by
  simp [read, alloc]

theorem keeps_alloc (h : Heap α) (o : α) : h.Keeps (h.alloc o).1 := by
  intro r o' found
  obtain ⟨inside, -⟩ := List.getElem?_eq_some_iff.mp found
  rw [read, alloc, List.getElem?_append_left inside]
  exact found

/-- No object is ever given back. -/
theorem Keeps.length_le (kept : h₀.Keeps h) : h₀.objects.length ≤ h.objects.length := by
  by_contra shorter
  have inside : h.objects.length < h₀.objects.length := Nat.lt_of_not_le shorter
  have found := kept _ _ (List.getElem?_eq_getElem inside)
  have bound := (List.getElem?_eq_some_iff.mp found).1
  exact Nat.lt_irrefl _ bound

/-- A reference that has just been allocated was not in use. -/
theorem read_fresh (h : Heap α) (o : α) : h.read (h.alloc o).2 = none := by
  simp [read, alloc]

theorem read_write (found : h.read r = some o) (o' : α) : (h.write r o').read r = some o' := by
  obtain ⟨inside, -⟩ := List.getElem?_eq_some_iff.mp found
  exact List.getElem?_set_self inside

theorem read_write_ne {r' : Ref} (other : r' ≠ r) (h : Heap α) (o : α) :
    (h.write r o).read r' = h.read r' :=
  List.getElem?_set_ne other.symm

/-- Writing to an object that is not in the first heap. -/
theorem Keeps.write (kept : h₀.Keeps h) (fresh : h₀.read r = none) (o : α) :
    h₀.Keeps (h.write r o) := by
  intro r' o' found
  have other : r' ≠ r := by
    rintro rfl
    rw [fresh] at found
    cases found
  rw [read_write_ne other]
  exact kept r' o' found

end Heap

end TemporalSdk
