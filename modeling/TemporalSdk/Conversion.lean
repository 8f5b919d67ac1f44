import TemporalSdk.Dict

/-!
# Conversions there and back

A value is written as a message, and read back. What is read need not be the value
that was written, since writing may fill in defaults: a value is `Stable` if what is
read is written as the same message again. Stable parts make a stable whole. A
dictionary is converted entry by entry.
-/
namespace TemporalSdk

theorem Converter.bind_eq_ok {ε α β : Type} {x : Except ε α} {f : α → Except ε β} {b : β} :
    (x >>= f) = .ok b ↔ ∃ a, x = .ok a ∧ f a = .ok b := by
  cases x with
  | error e =>
    constructor
    · intro h
      cases h
    · rintro ⟨a, h, -⟩
      cases h
  | ok a =>
    constructor
    · intro h
      exact ⟨a, rfl, h⟩
    · rintro ⟨a', h, h'⟩
      cases h
      exact h'

variable {α β ε : Type}

/-- What is written of the value is written again after it has been read. -/
def Stable (write : α → Except ε β) (read : β → α) (a : α) : Prop :=
  ∀ b, write a = .ok b → write (read b) = .ok b

namespace Stable

variable {write : α → Except ε β} {read : β → α}

theorem mapM_cons_ok {a : α} {as : List α} {bs : List β} :
    (a :: as).mapM write = .ok bs ↔
      ∃ b rest, write a = .ok b ∧ as.mapM write = .ok rest ∧ bs = b :: rest := by
  rw [List.mapM_cons]
  cases write a with
  | error error => simp [bind, Except.bind]
  | ok b =>
    cases as.mapM write with
    | error error => simp [bind, Except.bind]
    | ok rest => simp [bind, Except.bind, pure, Except.pure, eq_comm]

/-- A list whose items are stable. -/
theorem list {as : List α} (each : ∀ a ∈ as, Stable write read a) :
    Stable (List.mapM write) (List.map read) as := by
  induction as with
  | nil =>
    intro bs written
    cases written
    rfl
  | cons a as ih =>
    intro bs written
    obtain ⟨here, others⟩ := List.forall_mem_cons.mp each
    obtain ⟨b, rest, first, later, rfl⟩ := mapM_cons_ok.mp written
    exact mapM_cons_ok.mpr ⟨b, rest, here b first, ih others rest later, rfl⟩

/-- A value that may be absent. -/
theorem option {o : Option α} (each : ∀ a, o = some a → Stable write read a) :
    Stable (Option.mapM write) (Option.map read) o := by
  intro written isWritten
  cases o with
  | none =>
    cases isWritten
    rfl
  | some a =>
    rw [Option.mapM_some] at isWritten
    cases made : write a with
    | error error =>
      rw [made] at isWritten
      cases isWritten
    | ok b =>
      rw [made] at isWritten
      cases isWritten
      rw [Option.map_some, Option.mapM_some, each a rfl b made]
      rfl

end Stable

/-! ### Dictionaries -/

section Entries

open Converter (bind_eq_ok)

/-- A new dictionary with a converted value for each entry. -/
def convertEntries (convert : α → Except ε β) (d : Dict String α) :
    Except ε (Dict String β) :=
  d.entries.foldlM (fun ret entry => do
    let b ← convert entry.2
    return ret.set entry.1 b) Dict.empty

variable {convert : α → Except ε β}

/-- The loop puts what each value is converted to under its key. -/
theorem foldlM_convert_ok {l : List (String × α)} (distinct : (l.map Prod.fst).Nodup)
    {start ret : Dict String β}
    (converted : l.foldlM (fun ret entry => do
      let b ← convert entry.2
      return ret.set entry.1 b) start = .ok ret) :
    (∀ entry ∈ l, ∃ b, convert entry.2 = .ok b ∧ ret.get? entry.1 = some b) ∧
      ∀ k, k ∉ l.map Prod.fst → ret.get? k = start.get? k := by
  induction l generalizing start with
  | nil =>
    cases converted
    exact ⟨by simp, fun _ _ => rfl⟩
  | cons entry rest ih =>
    obtain ⟨absent, distinct⟩ := List.nodup_cons.mp distinct
    rw [List.foldlM_cons] at converted
    obtain ⟨next, here, converted⟩ := bind_eq_ok.mp converted
    obtain ⟨b, isB, here⟩ := bind_eq_ok.mp here
    cases here
    obtain ⟨found, kept⟩ := ih distinct converted
    constructor
    · refine List.forall_mem_cons.mpr ⟨⟨b, isB, ?_⟩, found⟩
      -- later rounds are about other keys
      rw [kept _ absent]
      simp
    · intro k outside
      obtain ⟨other, outside⟩ := not_or.mp (List.mem_cons.not.mp outside)
      rw [kept k outside]
      simp [other]

theorem foldlM_convert_exists {l : List (String × α)}
    (each : ∀ entry ∈ l, ∃ b, convert entry.2 = .ok b) (start : Dict String β) :
    ∃ ret, l.foldlM (fun ret entry => do
      let b ← convert entry.2
      return ret.set entry.1 b) start = Except.ok ret := by
  induction l generalizing start with
  | nil => exact ⟨start, rfl⟩
  | cons entry rest ih =>
    obtain ⟨⟨b, isB⟩, others⟩ := List.forall_mem_cons.mp each
    obtain ⟨ret, converted⟩ := ih others (start.set entry.1 b)
    refine ⟨ret, ?_⟩
    rw [List.foldlM_cons, isB]
    exact converted

/-- A converted dictionary has the converted values under the same keys. -/
theorem convertEntries_ok {d : Dict String α} {ret : Dict String β}
    (converted : convertEntries convert d = .ok ret) :
    (∀ k a, d.get? k = some a → ∃ b, convert a = .ok b ∧ ret.get? k = some b) ∧
      ∀ k, d.get? k = none → ret.get? k = none := by
  obtain ⟨found, kept⟩ := foldlM_convert_ok d.distinct converted
  constructor
  · intro k a present
    exact found (k, a) (Dict.mem_of_lookup present)
  · intro k absent
    refine (kept k fun member => ?_).trans rfl
    obtain ⟨entry, inside, rfl⟩ := List.mem_map.mp member
    cases absent.symm.trans (Dict.lookup_of_mem d.distinct inside)

theorem convertEntries_exists {d : Dict String α}
    (each : ∀ k a, d.get? k = some a → ∃ b, convert a = .ok b) :
    ∃ ret, convertEntries convert d = .ok ret :=
  foldlM_convert_exists (fun entry member =>
    each entry.1 entry.2 (Dict.lookup_of_mem d.distinct member)) _

end Entries

end TemporalSdk
