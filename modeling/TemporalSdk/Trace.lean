import Mathlib.Order.WellFounded
import TemporalSdk.Transition

/-!
# Infinite runs

A trace is an infinite run of a step function, with moments in which nothing
happens. Two rules for what must happen some time: a place that is kept until a
certain action is still there when the action comes, and a rank that no step
raises and a certain kind of action lowers runs out.
-/
namespace TemporalSdk

variable {σ α : Type} {step : σ → α → Option σ} {allowed : σ → α → Prop} {init : σ}

/-- An infinite run. -/
structure Trace (step : σ → α → Option σ) (init : σ) where
  state : Nat → σ
  action : Nat → Option α
  starts : state 0 = init
  rests : ∀ n, action n = none → state (n + 1) = state n
  moves : ∀ n a, action n = some a → step (state n) a = some (state (n + 1))

namespace Trace

variable (t : Trace step init)

/-- An action of the given kind is taken at time `n`. -/
def Takes (kind : α → Prop) (n : Nat) : Prop := ∃ a, t.action n = some a ∧ kind a

theorem reaches (meets : ∀ n a, t.action n = some a → allowed (t.state n) a) (n : Nat) :
    Reaches step allowed init (t.state n) := by
  induction n with
  | zero =>
    rw [t.starts]
    exact .init
  | succ n ih =>
    cases acts : t.action n with
    | none =>
      rw [t.rests n acts]
      exact ih
    | some a => exact ih.step a (meets n a acts) (t.moves n a acts)

/-- What every step keeps holds from then on. -/
theorem holds_from {P : σ → Prop} {n : Nat} (here : P (t.state n))
    (kept : ∀ m, n ≤ m → ∀ a, t.action m = some a → P (t.state m) → P (t.state (m + 1)))
    {m : Nat} (later : n ≤ m) : P (t.state m) := by
  induction m, later using Nat.le_induction with
  | base => exact here
  | succ m later ih =>
    cases acts : t.action m with
    | none =>
      rw [t.rests m acts]
      exact ih
    | some a => exact kept m later a acts ih

/-- What every other step keeps is still there when an action of the kind is taken. -/
theorem kept_until {P : σ → Prop} {kind : α → Prop} {n m : Nat} (here : P (t.state n))
    (kept : ∀ k, n ≤ k → ∀ a, t.action k = some a → ¬ kind a → P (t.state k) →
      P (t.state (k + 1)))
    (later : n ≤ m) (taken : t.Takes kind m) :
    ∃ k, n ≤ k ∧ t.Takes kind k ∧ P (t.state k) := by
  by_contra never
  have holds : P (t.state m) := by
    refine t.holds_from here (fun k after a acts holds => ?_) later
    refine kept k after a acts (fun isKind => ?_) holds
    exact never ⟨k, after, ⟨a, acts, isKind⟩, holds⟩
  exact never ⟨m, later, taken, holds⟩

/-- A rank that no step raises and a helpful one lowers, until the goal is reached. -/
theorem eventually_of_rank {ω : Type} [Preorder ω] [WellFoundedLT ω] {rank : σ → ω → Prop}
    {goal : σ → Prop} {helpful : α → Prop} {n : Nat}
    (ranked : ∀ m, n ≤ m → ∀ a w, t.action m = some a → rank (t.state m) w →
      goal (t.state (m + 1)) ∨
        ∃ w', rank (t.state (m + 1)) w' ∧ w' ≤ w ∧ (helpful a → w' < w))
    (fair : ∀ m, n ≤ m → ∃ k, m ≤ k ∧ t.Takes helpful k) {w : ω} (here : rank (t.state n) w) :
    ∃ m, n ≤ m ∧ goal (t.state m) := by
  by_contra never
  have unreached : ∀ m, n ≤ m → ¬ goal (t.state m) := fun m later reached =>
    never ⟨m, later, reached⟩
  -- no rank is the rank of a state: by induction on it, from any time on
  have none_has : ∀ w m, n ≤ m → ¬ rank (t.state m) w := by
    intro w
    induction w using WellFoundedLT.induction with
    | ind w ih =>
      intro m later isRank
      obtain ⟨k, after, a, acts, helps⟩ := fair m later
      have still : ∃ w', w' ≤ w ∧ rank (t.state k) w' := by
        refine t.holds_from (P := fun s => ∃ w', w' ≤ w ∧ rank s w') ⟨w, le_refl w, isRank⟩
          (fun j past b acts holds => ?_) after
        obtain ⟨w', below, isRank'⟩ := holds
        rcases ranked j (by omega) b w' acts isRank' with reached | ⟨w'', isRank'', lower, -⟩
        · exact absurd reached (unreached (j + 1) (by omega))
        · exact ⟨w'', lower.trans below, isRank''⟩
      obtain ⟨w', below, isRank'⟩ := still
      rcases ranked k (by omega) a w' acts isRank' with reached | ⟨w'', isRank'', -, lower⟩
      · exact unreached (k + 1) (by omega) reached
      · exact ih w'' ((lower helps).trans_le below) (k + 1) (by omega) isRank''
  exact none_has w n (le_refl n) here

section OfActions

variable {actions : List α} {s : σ}

/-- A prefix of a run is a run, and its next action leads on. -/
theorem runActions_take_succ (ran : runActions step init actions = some s) {n : Nat} {a : α}
    (acts : actions[n]? = some a) : ∃ s₁ s₂, runActions step init (actions.take n) = some s₁ ∧
      step s₁ a = some s₂ ∧ runActions step init (actions.take (n + 1)) = some s₂ := by
  have split : actions = actions.take n ++ a :: actions.drop (n + 1) := by
    obtain ⟨inside, rfl⟩ := List.getElem?_eq_some_iff.mp acts
    rw [← List.drop_eq_getElem_cons inside, List.take_append_drop]
  rw [split, runActions_append] at ran
  obtain ⟨s₁, first, later⟩ := Option.bind_eq_some_iff.mp ran
  obtain ⟨s₂, stepped, -⟩ := Option.bind_eq_some_iff.mp later
  refine ⟨s₁, s₂, first, stepped, ?_⟩
  rw [List.take_add_one, acts, runActions_append, first]
  simp [runActions, stepped]

/-- A finite run, and then nothing happens. -/
def ofActions [Inhabited σ] (ran : runActions step init actions = some s) : Trace step init where
  state n := (runActions step init (actions.take n)).getD default
  action n := actions[n]?
  starts := by simp [runActions]
  rests n past := by
    rw [List.take_add_one, past]
    simp
  moves n a acts := by
    obtain ⟨s₁, s₂, first, stepped, next⟩ := runActions_take_succ ran acts
    rw [first, next]
    exact stepped

theorem ofActions_state_late [Inhabited σ] (ran : runActions step init actions = some s) {n : Nat}
    (late : actions.length ≤ n) : (ofActions ran).state n = s := by
  simp [ofActions, List.take_of_length_le late, ran]

end OfActions

end Trace

end TemporalSdk
