import Mathlib.Algebra.GroupWithZero.Nat

/-!
# Runs of a step function

A system is a partial step function: `step s a` is the state after action `a`,
if the action is possible in `s`. A run takes steps whose actions satisfy a
condition on the state they are taken in.
-/
namespace TemporalSdk

variable {σ α : Type} {step : σ → α → Option σ} {allowed : σ → α → Prop} {init s : σ}

/-- The states that a run from `init` can be in. -/
inductive Reaches (step : σ → α → Option σ) (allowed : σ → α → Prop) (init : σ) : σ → Prop
  | init : Reaches step allowed init init
  | step {s s' : σ} (run : Reaches step allowed init s) (a : α) (meets : allowed s a)
      (stepped : step s a = some s') : Reaches step allowed init s'

/-- What holds at the start and is kept by every step holds throughout. -/
theorem Reaches.invariant (inv : σ → Prop) (starts : inv init)
    (kept : ∀ {s s' a}, inv s → allowed s a → step s a = some s' → inv s')
    (run : Reaches step allowed init s) : inv s := by
  induction run with
  | init => exact starts
  | step _ _ meets stepped ih => exact kept ih meets stepped

/-- The state after the given actions. -/
def runActions (step : σ → α → Option σ) : σ → List α → Option σ
  | s, [] => some s
  | s, a :: rest => (step s a).bind fun s' => runActions step s' rest

theorem runActions_append (s : σ) (first later : List α) :
    runActions step s (first ++ later) =
      (runActions step s first).bind fun s' => runActions step s' later := by
  induction first generalizing s with
  | nil => rfl
  | cons a rest ih =>
    simp only [List.cons_append, runActions, Option.bind_assoc]
    congr 1
    funext s'
    exact ih s'

theorem Reaches.of_runActions {actions : List α} {s' : σ} (run : Reaches step allowed init s)
    (meets : ∀ a ∈ actions, ∀ s, allowed s a) (ran : runActions step s actions = some s') :
    Reaches step allowed init s' := by
  induction actions generalizing s with
  | nil =>
    cases ran
    exact run
  | cons a rest ih =>
    obtain ⟨s₁, stepped, ran⟩ := Option.bind_eq_some_iff.mp ran
    obtain ⟨first, others⟩ := List.forall_mem_cons.mp meets
    exact ih (run.step a (first s) stepped) others ran

/-- The state after the given actions, if each of them passes a check where it is
taken. -/
def runChecked (step : σ → α → Option σ) (check : σ → α → Bool) : σ → List α → Option σ
  | s, [] => some s
  | s, a :: rest =>
    if check s a then (step s a).bind fun s' => runChecked step check s' rest else none

theorem Reaches.of_runChecked {check : σ → α → Bool} {actions : List α} {s' : σ}
    (run : Reaches step (fun s a => check s a = true) init s)
    (ran : runChecked step check s actions = some s') :
    Reaches step (fun s a => check s a = true) init s' := by
  induction actions generalizing s with
  | nil =>
    cases ran
    exact run
  | cons a rest ih =>
    rw [runChecked] at ran
    split at ran
    next passed =>
      obtain ⟨s₁, stepped, ran⟩ := Option.bind_eq_some_iff.mp ran
      exact ih (run.step a passed stepped) ran
    next => cases ran

/-- Where a system is a list of parties and a step replaces one of them: the
others stand as they did. -/
theorem getElem?_set_cases {β : Type} {parties : List β} {i j : Nat} {b new : β}
    (there : (parties.set i new)[j]? = some b) :
    (j = i ∧ b = new) ∨ (j ≠ i ∧ parties[j]? = some b) := by
  by_cases at_i : j = i
  · subst at_i
    obtain ⟨inside, rfl⟩ := List.getElem?_eq_some_iff.mp there
    exact Or.inl ⟨rfl, List.getElem_set_self inside⟩
  · rw [List.getElem?_set_ne (Ne.symm at_i)] at there
    exact Or.inr ⟨at_i, there⟩

/-- What one party contributes to a sum over all of them. -/
theorem sum_map_set {β : Type} (f : β → Nat) {parties : List β} {i : Nat} {b : β}
    (there : parties[i]? = some b) (new : β) :
    ((parties.set i new).map f).sum + f b = (parties.map f).sum + f new := by
  induction parties generalizing i with
  | nil => cases there
  | cons first rest ih =>
    cases i with
    | zero =>
      cases there
      simp only [List.set_cons_zero, List.map_cons, List.sum_cons]
      omega
    | succ i =>
      have later := ih there
      simp only [List.set_cons_succ, List.map_cons, List.sum_cons]
      omega

end TemporalSdk
