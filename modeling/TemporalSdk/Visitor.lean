import Mathlib.Data.List.Forall2
import TemporalSdk.Effect

/-!
# Visitors over messages

A visitor walks a message, hands every collection of parts it meets to a
callee, and puts the callee's answer in the place of what it handed over. The
callee is stateful and may fail. To say which collections it was handed, and
how often, the callee is run with a journal of its calls.

## Main definitions

- `record`: a callee that journals what it was given and what it answered.
- `Passes`: a program returns from every state, and what it returns and the
  calls it made satisfy a postcondition.
- `Carries`: visiting a message hands over each of its collections once, leaves
  the answers in their places and changes nothing else; where the callee has
  an inverse, visiting with the inverse gives the message back.

Products and lists inherit `Carries` from their components, so that a visitor
over a large message is checked one field at a time.
-/
namespace TemporalSdk.Visitor

variable {σ ε κ π α β γ : Type}

/-- `f`, keeping a journal of its calls. -/
def record (f : π → Eff σ ε β) (p : π) : Eff (List (π × Option β) × σ) ε β := fun s =>
  match f p s.2 with
  | (.ok b, s') => (.ok b, (s.1 ++ [(p, some b)], s'))
  | (.error e, s') => (.error e, (s.1 ++ [(p, none)], s'))

/-- `x` returns from every state; its value and the calls it adds to the
    journal satisfy `Q`. -/
def Passes (x : Eff (List κ × σ) ε α) (Q : α → List κ → Prop) : Prop :=
  ∀ journal s, ∃ a calls s', x (journal, s) = (.ok a, (journal ++ calls, s')) ∧ Q a calls

theorem Passes.pure {a : α} {Q : α → List κ → Prop} (holds : Q a []) :
    Passes (Pure.pure a : Eff (List κ × σ) ε α) Q := by
  intro journal s
  exact ⟨a, [], s, by rw [List.append_nil, Eff.pure_run], holds⟩

theorem Passes.bind {x : Eff (List κ × σ) ε α} {f : α → Eff (List κ × σ) ε β}
    {P : α → List κ → Prop} {Q : β → List κ → Prop} (first : Passes x P)
    (rest : ∀ a calls, P a calls → Passes (f a) fun b more => Q b (calls ++ more)) :
    Passes (x >>= f) Q := by
  intro journal s
  obtain ⟨a, calls, s', ran, holds⟩ := first journal s
  obtain ⟨b, more, s'', ran', holds'⟩ := rest a calls holds (journal ++ calls) s'
  refine ⟨b, calls ++ more, s'', ?_, holds'⟩
  rw [Eff.bind_ok ran, ran', List.append_assoc]

theorem Passes.mono {x : Eff (List κ × σ) ε α} {P Q : α → List κ → Prop} (passes : Passes x P)
    (weaker : ∀ a calls, P a calls → Q a calls) : Passes x Q := by
  intro journal s
  obtain ⟨a, calls, s', ran, holds⟩ := passes journal s
  exact ⟨a, calls, s', ran, weaker a calls holds⟩

/-- A callee that returns from every state, run with a journal. -/
theorem Passes.record {f : π → Eff σ ε β} {p : π} {R : β → Prop}
    (returns : ∀ s, ∃ b s', f p s = (.ok b, s') ∧ R b) :
    Passes (record f p) fun b calls => calls = [(p, some b)] ∧ R b := by
  intro journal s
  obtain ⟨b, s', ran, holds⟩ := returns s
  refine ⟨b, [(p, some b)], s', ?_, rfl, holds⟩
  simp only [Visitor.record, ran]

/-- Visiting `a` by `forth` hands over the collections `parts a`, each once and
    in order, and stores the answers as the parts of a message that is otherwise
    the same (`blank` forgets the parts). When `r` holds, `back` then returns
    `a`, handing over each of the new parts once. -/
def Carries (r : Prop) (stored : π × Option π → π → Prop)
    (forth back : α → Eff (List (π × Option π) × σ) ε α)
    (parts : α → List π) (blank : α → γ) (a : α) : Prop :=
  Passes (forth a) fun b calls =>
    calls.map Prod.fst = parts a ∧ List.Forall₂ stored calls (parts b) ∧ blank b = blank a ∧
      (r → Passes (back b) fun a' calls' => a' = a ∧ calls'.map Prod.fst = parts b)

section Components

variable {r : Prop} {stored : π × Option π → π → Prop} {ξ η γξ γη : Type}
  {forth back : α → Eff (List (π × Option π) × σ) ε α} {parts : α → List π} {blank : α → γ}
  {forthX backX : ξ → Eff (List (π × Option π) × σ) ε ξ} {partsX : ξ → List π} {blankX : ξ → γξ}
  {forthY backY : η → Eff (List (π × Option π) × σ) ε η} {partsY : η → List π} {blankY : η → γη}

/-- A message without parts. -/
theorem Carries.none {a : α} (forth_eq : forth a = Pure.pure a) (back_eq : back a = Pure.pure a)
    (parts_eq : parts a = []) : Carries r stored forth back parts blank a := by
  rw [Carries, forth_eq]
  apply Passes.pure
  refine ⟨parts_eq.symm, ?_, rfl, fun _ => ?_⟩
  · rw [parts_eq]
    exact .nil
  · rw [back_eq]
    exact Passes.pure ⟨rfl, parts_eq.symm⟩

/-- A message whose parts are those of one component. -/
theorem Carries.map (mk : ξ → α) {x : ξ} (component : Carries r stored forthX backX partsX blankX x)
    (forth_eq : forth (mk x) = forthX x >>= fun x' => Pure.pure (mk x'))
    (back_eq : ∀ x', back (mk x') = backX x' >>= fun x'' => Pure.pure (mk x''))
    (parts_eq : ∀ x', parts (mk x') = partsX x')
    (blank_eq : ∀ x', blankX x' = blankX x → blank (mk x') = blank (mk x)) :
    Carries r stored forth back parts blank (mk x) := by
  rw [Carries, forth_eq]
  apply Passes.bind component
  rintro x' calls ⟨given, answered, same, inverse⟩
  apply Passes.pure
  rw [List.append_nil, parts_eq, parts_eq]
  refine ⟨given, answered, blank_eq x' same, fun reversible => ?_⟩
  rw [back_eq]
  apply Passes.bind (inverse reversible)
  rintro x'' calls' ⟨rfl, given'⟩
  apply Passes.pure
  rw [List.append_nil]
  exact ⟨rfl, given'⟩

/-- A message whose parts are those of two components, visited in this order. -/
theorem Carries.map₂ (mk : ξ → η → α) {x : ξ} {y : η}
    (first : Carries r stored forthX backX partsX blankX x)
    (second : Carries r stored forthY backY partsY blankY y)
    (forth_eq : forth (mk x y) =
      forthX x >>= fun x' => forthY y >>= fun y' => Pure.pure (mk x' y'))
    (back_eq : ∀ x' y', back (mk x' y') =
      backX x' >>= fun x'' => backY y' >>= fun y'' => Pure.pure (mk x'' y''))
    (parts_eq : ∀ x' y', parts (mk x' y') = partsX x' ++ partsY y')
    (blank_eq : ∀ x' y', blankX x' = blankX x → blankY y' = blankY y →
      blank (mk x' y') = blank (mk x y)) :
    Carries r stored forth back parts blank (mk x y) := by
  rw [Carries, forth_eq]
  apply Passes.bind first
  rintro x' callsX ⟨givenX, answeredX, sameX, inverseX⟩
  apply Passes.bind second
  rintro y' callsY ⟨givenY, answeredY, sameY, inverseY⟩
  apply Passes.pure
  rw [List.append_nil, parts_eq, parts_eq]
  refine ⟨?_, ?_, blank_eq x' y' sameX sameY, fun reversible => ?_⟩
  · rw [List.map_append, givenX, givenY]
  · exact List.rel_append answeredX answeredY
  -- Backwards the components are visited in the same order, not reversed.
  · rw [back_eq]
    apply Passes.bind (inverseX reversible)
    rintro x'' callsX' ⟨rfl, givenX'⟩
    apply Passes.bind (inverseY reversible)
    rintro y'' callsY' ⟨rfl, givenY'⟩
    apply Passes.pure
    rw [List.append_nil, List.map_append, givenX', givenY']
    exact ⟨rfl, rfl⟩

end Components

/-- The loop over the elements of a repeated field. -/
def visitEach (visit : α → Eff σ ε α) : List α → Eff σ ε (List α)
  | [] => pure []
  | a :: rest => visit a >>= fun a' => visitEach visit rest >>= fun rest' => pure (a' :: rest')

/-- A repeated field carries what its elements carry. -/
theorem Carries.each {r : Prop} {stored : π × Option π → π → Prop}
    {forth back : α → Eff (List (π × Option π) × σ) ε α}
    {parts : α → List π} {blank : α → γ} {l : List α}
    (elements : ∀ a ∈ l, Carries r stored forth back parts blank a) :
    Carries r stored (visitEach forth) (visitEach back) (fun l => l.flatMap parts)
      (fun l => l.map blank) l := by
  induction l with
  | nil => exact Carries.none rfl rfl rfl
  | cons a rest ih =>
    have head := elements a List.mem_cons_self
    have tail := ih fun b member => elements b (List.mem_cons_of_mem a member)
    apply Carries.map₂ (fun a rest => a :: rest) head tail rfl
    · intro a' rest'
      rfl
    · intro a' rest'
      exact List.flatMap_cons
    · intro a' rest' sameHead sameTail
      rw [List.map_cons, List.map_cons, sameHead, sameTail]

end TemporalSdk.Visitor
