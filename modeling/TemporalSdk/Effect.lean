import Mathlib.Order.Defs.Unbundled
import Mathlib.Tactic.Common

/-!
# Programs with state and exceptions

`Eff σ ε α` is a program over a state `σ` that returns an `α` or raises an `ε`.
The state survives an exception, as it does in the host language, so an
invariant has to hold on every way out of a program and not only on a normal
return. `Steady R` says that every way out is related by `R` to the state the
program started in; for a preorder `R` it composes over `do` blocks. With
`fun s s' => I s → I s'` for `R` it says that the program keeps `I`.
-/
namespace TemporalSdk

/-- A stateful program that may raise. -/
def Eff (σ ε α : Type) : Type := σ → Except ε α × σ

namespace Eff

variable {σ ε α β : Type}

instance : Monad (Eff σ ε) where
  pure a := fun s => (.ok a, s)
  bind x f := fun s =>
    match x s with
    | (.ok a, s') => f a s'
    | (.error e, s') => (.error e, s')

def state : Eff σ ε σ := fun s => (.ok s, s)

def update (f : σ → σ) : Eff σ ε Unit := fun s => (.ok (), f s)

def raise (e : ε) : Eff σ ε α := fun s => (.error e, s)

/-- Run a program and hand its outcome, normal or exceptional, to the caller. -/
def attempt (x : Eff σ ε α) : Eff σ ε (Except ε α) := fun s => (.ok (x s).1, (x s).2)

/-- Raise the outcome of a pure computation that failed. -/
def ofExcept (x : Except ε α) : Eff σ ε α := fun s => (x, s)

@[simp] theorem pure_run (a : α) (s : σ) : (pure a : Eff σ ε α) s = (.ok a, s) := rfl

@[simp] theorem state_run (s : σ) : (state : Eff σ ε σ) s = (.ok s, s) := rfl

@[simp] theorem update_run (f : σ → σ) (s : σ) : (update f : Eff σ ε Unit) s = (.ok (), f s) := rfl

@[simp] theorem raise_run (e : ε) (s : σ) : (raise e : Eff σ ε α) s = (.error e, s) := rfl

@[simp] theorem attempt_run (x : Eff σ ε α) (s : σ) :
    attempt x s = (.ok (x s).1, (x s).2) := rfl

@[simp] theorem ofExcept_run (x : Except ε α) (s : σ) : (ofExcept x : Eff σ ε α) s = (x, s) := rfl

theorem bind_run (x : Eff σ ε α) (f : α → Eff σ ε β) (s : σ) :
    (x >>= f) s = match x s with
      | (.ok a, s') => f a s'
      | (.error e, s') => (.error e, s') := rfl

@[simp] theorem state_bind_run (f : σ → Eff σ ε β) (s : σ) : (state >>= f) s = f s s := rfl

@[simp] theorem update_bind_run (g : σ → σ) (f : Unit → Eff σ ε β) (s : σ) :
    (update g >>= f) s = f () (g s) := rfl

@[simp] theorem pure_bind_run (a : α) (f : α → Eff σ ε β) (s : σ) :
    ((pure a : Eff σ ε α) >>= f) s = f a s := rfl

@[simp] theorem raise_bind_run (e : ε) (f : α → Eff σ ε β) (s : σ) :
    ((raise e : Eff σ ε α) >>= f) s = (.error e, s) := rfl

theorem bind_ok {x : Eff σ ε α} {f : α → Eff σ ε β} {s s' : σ} {a : α}
    (h : x s = (.ok a, s')) : (x >>= f) s = f a s' := by
  rw [bind_run, h]

theorem bind_error {x : Eff σ ε α} {f : α → Eff σ ε β} {s s' : σ} {e : ε}
    (h : x s = (.error e, s')) : (x >>= f) s = (.error e, s') := by
  rw [bind_run, h]

theorem bind_assoc {γ : Type} (x : Eff σ ε α) (f : α → Eff σ ε β) (g : β → Eff σ ε γ) :
    (x >>= f) >>= g = x >>= fun a => f a >>= g := by
  funext s
  simp only [bind_run]
  cases x s with
  | mk result s' => cases result <;> rfl

/-- What comes after the last effect leaves the state alone. -/
theorem bind_pure_state (x : Eff σ ε α) (f : α → β) (s : σ) :
    ((x >>= fun a => Pure.pure (f a)) s).2 = (x s).2 := by
  rw [bind_run]
  cases run : x s with
  | mk r s' => cases r <;> rfl

/-! ### Relating the states before and after -/

def Steady (R : σ → σ → Prop) (x : Eff σ ε α) : Prop := ∀ s, R s (x s).2

variable {R : σ → σ → Prop}

/-- The rule for `>>=` at one state: what follows may use what came before. -/
theorem bind_steady_at [IsTrans σ R] {x : Eff σ ε α} {f : α → Eff σ ε β} {s : σ}
    (first : R s (x s).2) (second : ∀ a s', x s = (.ok a, s') → R s' (f a s').2) :
    R s ((x >>= f) s).2 := by
  rw [bind_run]
  cases run : x s with
  | mk r s' =>
    rw [run] at first
    cases r with
    | error e => exact first
    | ok a => exact IsTrans.trans _ _ _ first (second a s' run)

theorem Steady.bind [IsTrans σ R] {x : Eff σ ε α} {f : α → Eff σ ε β} (first : Steady R x)
    (second : ∀ a, Steady R (f a)) : Steady R (x >>= f) :=
  fun s => bind_steady_at (first s) fun a s' _ => second a s'

theorem Steady.read {f : σ → Eff σ ε β} (rest : ∀ s, Steady R (f s)) :
    Steady R (state >>= f) :=
  fun s => rest s s

theorem Steady.update {f : σ → σ} (h : ∀ s, R s (f s)) :
    Steady R (Eff.update f : Eff σ ε Unit) := h

theorem Steady.pure [Std.Refl R] (a : α) : Steady R (Pure.pure a : Eff σ ε α) :=
  fun s => Std.Refl.refl s

theorem Steady.raise [Std.Refl R] (e : ε) : Steady R (Eff.raise e : Eff σ ε α) :=
  fun s => Std.Refl.refl s

theorem Steady.ofExcept [Std.Refl R] (x : Except ε α) : Steady R (Eff.ofExcept x) :=
  fun s => Std.Refl.refl s

theorem Steady.attempt {x : Eff σ ε α} (h : Steady R x) : Steady R (Eff.attempt x) := h

theorem Steady.forM [IsPreorder σ R] {f : α → Eff σ ε PUnit} (h : ∀ a, Steady R (f a))
    (l : List α) : Steady R (l.forM f) := by
  induction l with
  | nil => exact Steady.pure _
  | cons a l ih => exact (h a).bind fun _ => ih

/-! ### What a program returns -/

def Returns (P : α → σ → Prop) (x : Eff σ ε α) : Prop := ∀ s a s', x s = (.ok a, s') → P a s'

variable {P : β → σ → Prop}

theorem Returns.bind {x : Eff σ ε α} {f : α → Eff σ ε β} (h : ∀ a, Returns P (f a)) :
    Returns P (x >>= f) := by
  intro s b s' run
  rw [bind_run] at run
  cases first : x s with
  | mk r s₁ =>
    rw [first] at run
    cases r with
    | error e => simp at run
    | ok a => exact h a s₁ b s' run

theorem Returns.pure {b : β} (h : ∀ s, P b s) : Returns P (Pure.pure b : Eff σ ε β) := by
  intro s b' s' run
  simp only [pure_run, Prod.mk.injEq, Except.ok.injEq] at run
  rw [← run.1]
  exact h s'

theorem Returns.raise (e : ε) : Returns P (Eff.raise e : Eff σ ε β) := by
  intro s b s' run
  simp at run

theorem Returns.read {f : σ → Eff σ ε β} (h : ∀ s, Returns P (f s)) :
    Returns P (state >>= f) :=
  .bind h

theorem Returns.mono {Q : β → σ → Prop} {x : Eff σ ε β} (h : Returns P x)
    (weaker : ∀ b s, P b s → Q b s) : Returns Q x :=
  fun s b s' run => weaker b s' (h s b s' run)

/-! ### Programs that do not raise -/

def Total (x : Eff σ ε α) : Prop := ∀ s, ∃ a s', x s = (.ok a, s')

theorem Total.pure (a : α) : Total (Pure.pure a : Eff σ ε α) := fun s => ⟨a, s, rfl⟩

theorem Total.update (f : σ → σ) : Total (Eff.update f : Eff σ ε Unit) := fun s => ⟨(), f s, rfl⟩

theorem Total.attempt (x : Eff σ ε α) : Total (Eff.attempt x) :=
  fun s => ⟨(x s).1, (x s).2, rfl⟩

theorem Total.read {f : σ → Eff σ ε β} (h : ∀ s, Total (f s)) : Total (state >>= f) :=
  fun s => h s s

theorem Total.bind {x : Eff σ ε α} {f : α → Eff σ ε β} (first : Total x)
    (second : ∀ a, Total (f a)) : Total (x >>= f) := by
  intro s
  obtain ⟨a, s₁, run⟩ := first s
  obtain ⟨b, s₂, run'⟩ := second a s₁
  exact ⟨b, s₂, by rw [bind_ok run, run']⟩

/-! ### What a program raises -/

def Throws (P : ε → Prop) (x : Eff σ ε α) : Prop := ∀ s e s', x s = (.error e, s') → P e

section Throws

variable {P : ε → Prop}

theorem Throws.of_total {x : Eff σ ε α} (total : Total x) : Throws P x := by
  intro s e s' run
  obtain ⟨a, s₁, returns⟩ := total s
  rw [returns] at run
  cases run

theorem Throws.pure (a : α) : Throws P (Pure.pure a : Eff σ ε α) := .of_total (.pure a)

theorem Throws.update (f : σ → σ) : Throws P (Eff.update f : Eff σ ε Unit) := .of_total (.update f)

theorem Throws.attempt (x : Eff σ ε α) : Throws P (Eff.attempt x) := .of_total (.attempt x)

theorem Throws.ofExcept {x : Except ε α} (h : ∀ e, x = .error e → P e) :
    Throws P (Eff.ofExcept x : Eff σ ε α) := by
  intro s e s' run
  exact h e (Prod.mk.inj run).1

theorem Throws.raise {e : ε} (h : P e) : Throws P (Eff.raise e : Eff σ ε α) := by
  intro s e' s' run
  rw [← Except.error.inj (Prod.mk.inj run).1]
  exact h

theorem Throws.bind {x : Eff σ ε α} {f : α → Eff σ ε β} (first : Throws P x)
    (second : ∀ a, Throws P (f a)) : Throws P (x >>= f) := by
  intro s e s' run
  rw [bind_run] at run
  cases ran : x s with
  | mk r s₁ =>
    rw [ran] at run
    cases r with
    | ok a => exact second a s₁ e s' run
    | error e₁ =>
      rw [← Except.error.inj (Prod.mk.inj run).1]
      exact first s e₁ s₁ ran

theorem Throws.read {f : σ → Eff σ ε β} (h : ∀ s, Throws P (f s)) : Throws P (state >>= f) :=
  .bind (.of_total fun s => ⟨s, s, rfl⟩) h

/-- What is caught may be raised again. -/
theorem Throws.attempt_bind {x : Eff σ ε α} {f : Except ε α → Eff σ ε β} (first : Throws P x)
    (second : ∀ r, (∀ e, r = .error e → P e) → Throws P (f r)) :
    Throws P (Eff.attempt x >>= f) := by
  intro s e s' run
  rw [bind_run, attempt_run] at run
  refine second (x s).1 (fun e raised => ?_) _ e s' run
  exact first s e (x s).2 (Prod.ext raised rfl)

theorem Throws.forM {f : α → Eff σ ε PUnit} (h : ∀ a, Throws P (f a)) (l : List α) :
    Throws P (l.forM f) := by
  induction l with
  | nil => exact .pure _
  | cons a l ih => exact (h a).bind fun _ => ih

theorem Throws.foldlM {f : β → α → Eff σ ε β} (h : ∀ b a, Throws P (f b a)) (l : List α) (b : β) :
    Throws P (l.foldlM f b) := by
  induction l generalizing b with
  | nil => exact .pure b
  | cons a l ih => exact (h b a).bind ih

end Throws

/-! ### Postconditions -/

/-- The outcome of a run, normal or exceptional, is as promised. -/
def Post (Q : α → σ → Prop) (E : ε → σ → Prop) : Except ε α × σ → Prop
  | (.ok a, s) => Q a s
  | (.error e, s) => E e s

section Post

variable {Q Q' : α → σ → Prop} {R : β → σ → Prop} {E E' : ε → σ → Prop}

theorem Post.mono {r : Except ε α × σ} (h : Post Q E r) (normal : ∀ a s, Q a s → Q' a s)
    (exceptional : ∀ e s, E e s → E' e s) : Post Q' E' r := by
  obtain ⟨r, s⟩ := r
  cases r with
  | ok a => exact normal a s h
  | error e => exact exceptional e s h

/-- The rule for `>>=` at one state: what follows may use what came before. -/
theorem Post.bind {x : Eff σ ε α} {f : α → Eff σ ε β} {s : σ} (first : Post Q E (x s))
    (second : ∀ a s', x s = (.ok a, s') → Q a s' → Post R E (f a s')) : Post R E ((x >>= f) s) := by
  rw [bind_run]
  cases run : x s with
  | mk r s' =>
    rw [run] at first
    cases r with
    | ok a => exact second a s' run first
    | error e => exact first

end Post

end Eff

end TemporalSdk
