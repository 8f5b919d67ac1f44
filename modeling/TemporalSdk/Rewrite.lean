import TemporalSdk.Effect

/-!
# Rewriting messages in place

A program whose state is the message it rewrites. An exception leaves the message with
what has been rewritten before it.

`Repeatable x a` says that rewriting `a` once more, from what the first time left,
ends in the same way and changes nothing more. The rewriting of a message with several
parts is repeatable if that of each part is. The converse holds when no part raises:
after an exception the later parts have not been visited.
-/
namespace TemporalSdk

variable {ε α β γ : Type}

abbrev Rewrite (ε α : Type) : Type := Eff α ε Unit

namespace Rewrite

/-- A part that may be absent. -/
def onSome (x : Rewrite ε α) : Rewrite ε (Option α)
  | none => (.ok (), none)
  | some a => ((x a).1, some (x a).2)

/-- One part after the other. -/
def pair (x : Rewrite ε α) (y : Rewrite ε β) : Rewrite ε (α × β) := fun m =>
  match x m.1 with
  | (.ok (), a) => ((y m.2).1, (a, (y m.2).2))
  | (.error e, a) => (.error e, (a, m.2))

/-- What `get` reads of a message and `put` writes into it. -/
def within (get : γ → α) (put : γ → α → γ) (x : Rewrite ε α) : Rewrite ε γ := fun m =>
  ((x (get m)).1, put m (x (get m)).2)

/-- No part of the message raises. -/
def Returns (x : Rewrite ε α) (a : α) : Prop := (x a).1 = .ok ()

def Repeatable (x : Rewrite ε α) (a : α) : Prop := x (x a).2 = x a

variable {x : Rewrite ε α} {y : Rewrite ε β}

theorem Repeatable.left {a : α} (repeatable : Repeatable x a) : (x (x a).2).2 = (x a).2 :=
  congrArg Prod.snd repeatable

theorem Repeatable.ends {a : α} (repeatable : Repeatable x a) : (x (x a).2).1 = (x a).1 :=
  congrArg Prod.fst repeatable

/-! ### Optional parts -/

theorem repeatable_onSome {a : Option α} :
    Repeatable (onSome x) a ↔ ∀ b, a = some b → Repeatable x b := by
  cases a with
  | none => simp [Repeatable, onSome]
  | some b => simp [Repeatable, onSome, Prod.ext_iff]

/-! ### Two parts -/

theorem pair_of_returns {m : α × β} (first : Returns x m.1) :
    pair x y m = ((y m.2).1, ((x m.1).2, (y m.2).2)) := by
  unfold Returns at first
  rw [pair]
  rcases ran : x m.1 with ⟨r, a⟩
  rw [ran] at first
  cases first
  rfl

theorem pair_of_raises {m : α × β} {e : ε} (first : (x m.1).1 = .error e) :
    pair x y m = (.error e, ((x m.1).2, m.2)) := by
  rw [pair]
  rcases ran : x m.1 with ⟨r, a⟩
  rw [ran] at first
  cases first
  rfl

theorem returns_pair {m : α × β} : Returns (pair x y) m ↔ Returns x m.1 ∧ Returns y m.2 := by
  cases first : (x m.1).1 with
  | ok u =>
    rw [Returns, pair_of_returns first]
    exact ⟨fun second => ⟨first, second⟩, And.right⟩
  | error e =>
    rw [Returns, pair_of_raises first]
    refine ⟨nofun, fun both => ?_⟩
    rw [Returns, first] at both
    cases both.1

theorem Repeatable.pair {m : α × β} (first : Repeatable x m.1) (second : Repeatable y m.2) :
    Repeatable (Rewrite.pair x y) m := by
  rw [Repeatable]
  cases ends : (x m.1).1 with
  | ok u =>
    have again : Returns x (x m.1).2 := first.ends.trans ends
    rw [pair_of_returns ends, pair_of_returns again, first.left, second.left, second.ends]
  | error e =>
    -- The second part is not visited, neither time.
    have again : (x (x m.1).2).1 = .error e := first.ends.trans ends
    rw [pair_of_raises ends, pair_of_raises again, first.left]

theorem repeatable_pair {m : α × β} (returns : Returns (Rewrite.pair x y) m) :
    Repeatable (Rewrite.pair x y) m ↔ Repeatable x m.1 ∧ Repeatable y m.2 := by
  refine ⟨fun both => ?_, fun both => both.1.pair both.2⟩
  have ends := returns_pair.mp returns
  have again : Returns (Rewrite.pair x y) (Rewrite.pair x y m).2 := both.ends.trans returns
  rw [Repeatable, pair_of_returns (returns_pair.mp again).1, pair_of_returns ends.1] at both
  rw [pair_of_returns ends.1] at again
  have endsAgain := returns_pair.mp again
  simp only [Prod.mk.injEq] at both
  constructor
  · exact Prod.ext (endsAgain.1.trans ends.1.symm) both.2.1
  · exact Prod.ext both.1 both.2.2

/-! ### Parts of a message -/

/-- Reading gives what was written, and writing twice is writing once. -/
theorem repeatable_within {get : γ → α} {put : γ → α → γ}
    (reads : ∀ m, get (put m (x (get m)).2) = (x (get m)).2)
    (writes : ∀ m a a', put (put m a) a' = put m a') {m : γ} :
    Repeatable (within get put x) m ↔ Repeatable x (get m) := by
  simp only [Repeatable, within, Prod.ext_iff]
  rw [reads m, writes]
  refine and_congr_right fun _ => ⟨fun same => ?_, fun same => by rw [same]⟩
  -- What was written the second time is read from the same message.
  have second := reads (put m (x (get m)).2)
  rw [reads m, writes] at second
  rw [← second, same]
  exact reads m

theorem returns_within {get : γ → α} {put : γ → α → γ} {m : γ} :
    Returns (within get put x) m ↔ Returns x (get m) := Iff.rfl

end Rewrite

end TemporalSdk
