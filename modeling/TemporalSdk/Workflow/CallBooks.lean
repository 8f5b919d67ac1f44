import TemporalSdk.Workflow.ActivityCoroutine

/-!
# The books of outbound calls

Each table of pending calls is tied to the numbers that commands have carried
(`made`) and to the futures its entries lead to: an entry is under a number that
has been made, and its future is open, so that a resolution can complete it.
`Books` puts the four tables together, and `Extended` says of a change of the
instance that every call it makes is new, has a command, and has an entry.
-/
namespace TemporalSdk.Workflow

open Eff

variable {σ : Type} {s s' : Inst σ}

/-- Child workflows; `begun` are those that core has reported as started. -/
structure ChildBooks (made begun : Nat → Prop) (s : Inst σ) : Prop where
  bound : ∀ seq, made seq → seq ≤ s.currSeqs .childWorkflow
  table : ∀ seq c, s.pendingChildWorkflows seq = some c → s.ofRoot c .child ∧
    (s.children c).seq = seq ∧ (s.promises (s.children c).resultFut).state = none
  unbegun : ∀ seq c, s.pendingChildWorkflows seq = some c → ¬begun seq →
    (s.promises (s.children c).startFut).state = none

structure SignalBooks (made : Nat → Prop) (s : Inst σ) : Prop where
  bound : ∀ seq, made seq → seq ≤ s.currSeqs .externalSignal
  table : ∀ seq p, s.pendingExternalSignals seq = some p → (s.promises p).state = none

/-- A request to cancel an external workflow is awaited without a shield, so the
task that made it can cancel its future. -/
structure CancelBooks (made : Nat → Prop) (s : Inst σ) : Prop where
  bound : ∀ seq, made seq → seq ≤ s.currSeqs .externalCancel
  table : ∀ seq f, s.pendingExternalCancels seq = some f →
    (s.futs f).state = .pending ∨ (s.futs f).state = .cancelled

structure Books (made : Call → Prop) (begun : Nat → Prop) (s : Inst σ) : Prop extends Sound s where
  activities : ActivityBooks (fun seq => made (.activity, seq)) s
  children : ChildBooks (fun seq => made (.childWorkflow, seq)) begun s
  signals : SignalBooks (fun seq => made (.externalSignal, seq)) s
  cancels : CancelBooks (fun seq => made (.externalCancel, seq)) s

variable {made made' : Call → Prop} {begun : Nat → Prop}

/-! ### What leaves the books in order -/

theorem ChildBooks.same {made begun : Nat → Prop} (books : ChildBooks made begun s)
    (calls : SameCalls s s') : ChildBooks made begun s' where
  bound := fun seq isMade => by
    rw [calls.seqs .childWorkflow (by simp)]
    exact books.bound seq isMade
  table := fun seq c entry => by
    rw [calls.childWorkflows] at entry
    rw [calls.roots c _ (.inr rfl), calls.children, calls.states]
    exact books.table seq c entry
  unbegun := fun seq c entry => by
    rw [calls.childWorkflows] at entry
    rw [calls.children, calls.states]
    exact books.unbegun seq c entry

theorem SignalBooks.same {made : Nat → Prop} (books : SignalBooks made s)
    (calls : SameCalls s s') : SignalBooks made s' where
  bound := fun seq isMade => by
    rw [calls.seqs .externalSignal (by simp)]
    exact books.bound seq isMade
  table := fun seq p entry => by
    rw [calls.signals] at entry
    rw [calls.states]
    exact books.table seq p entry

/-- The future of an external cancel is completed by its resolution or cancelled. -/
def KeepsCancels (s s' : Inst σ) : Prop :=
  ∀ seq f, s.pendingExternalCancels seq = some f →
    (s'.futs f).state = (s.futs f).state ∨ (s'.futs f).state = .cancelled

theorem KeepsCancels.of_eq (futs : s'.futs = s.futs) : KeepsCancels s s' :=
  fun _ _ _ => .inl (by rw [futs])

theorem KeepsCancels.allocated (wf : s.WellFormed) {fut : Fut}
    (futs : s'.futs = Function.update s.futs s.nextFut fut) : KeepsCancels s s' := by
  intro seq f entry
  rw [futs, Function.update_of_ne (Nat.ne_of_lt (wf.externalCancel seq f entry).1)]
  exact .inl rfl

theorem KeepsCancels.setFut {f : FutId} {fut : Fut} (futs : s'.futs = Function.update s.futs f fut)
    (settles : (s.futs f).role = .externalCancel →
      fut.state = (s.futs f).state ∨ fut.state = .cancelled) (wf : s.WellFormed) :
    KeepsCancels s s' := by
  intro seq f' entry
  rw [futs]
  by_cases here : f' = f
  · subst here
    rw [Function.update_self]
    exact settles (wf.externalCancel seq f' entry).2
  · rw [Function.update_of_ne here]
    exact .inl rfl

theorem Atom.keepsCancels {k : Kind} (h : Atom k s s') (wf : s.WellFormed)
    (noResolve : k ≠ .resolve) : KeepsCancels s s' := by
  cases h with
  | newFut | createUser | strayUser | bareUser | newActivity | strayActivity | newChild | strayChild
  | cancelExternal => exact .allocated wf rfl
  | addCallback | addWakeup => exact .setFut rfl (fun _ => .inl rfl) wf
  | settle _ _ _ _ ofUser =>
    refine .setFut rfl (fun role => .inr ?_) wf
    rcases ofUser with cancelled | ofUser
    · exact cancelled
    · rw [role] at ofUser
      cases ofUser
  | resolveCancel => exact absurd rfl noResolve
  | _ => exact .of_eq rfl

theorem Move.keepsCancels {k : Kind} (h : Move k s s') (wf : s.WellFormed) : KeepsCancels s s' := by
  cases h with
  | signalTask | straySignal | condition | spawn | strayJob => exact .allocated wf rfl
  | @met _ fn f member =>
    refine .setFut rfl (fun role => ?_) wf
    rw [(wf.condition fn f member).2] at role
    cases role
  | @finish _ t _ isTask =>
    refine .setFut rfl (fun role => ?_) wf
    rw [(wf.task t _ isTask).2] at role
    cases role
  | _ => exact .of_eq rfl

theorem CancelBooks.same {made : Nat → Prop} (books : CancelBooks made s)
    (seqs : s'.currSeqs .externalCancel = s.currSeqs .externalCancel)
    (table : ∀ seq f, s'.pendingExternalCancels seq = some f →
      s.pendingExternalCancels seq = some f) (keeps : KeepsCancels s s') :
    CancelBooks made s' where
  bound := fun seq isMade => seqs ▸ books.bound seq isMade
  table := fun seq f entry => by
    rcases keeps seq f (table seq f entry) with same | cancelled
    · rw [same]
      exact books.table seq f (table seq f entry)
    · exact .inr cancelled

theorem CancelBooks.requested {made : Nat → Prop} (books : CancelBooks made s)
    (wf : s.WellFormed) : CancelBooks made s.cancelRequestSent where
  bound := fun seq isMade => by
    simp only [Inst.cancelRequestSent, Function.update_self]
    exact (books.bound seq isMade).trans (Nat.le_succ _)
  table := fun seq f entry => by
    change Function.update _ _ _ seq = _ at entry
    change (Function.update s.futs s.nextFut _ f).state = _ ∨
      (Function.update s.futs s.nextFut _ f).state = _
    by_cases here : seq = s.currSeqs .externalCancel + 1
    · rw [here, Function.update_self, Option.some.injEq] at entry
      rw [← entry, Function.update_self]
      exact .inl rfl
    · rw [Function.update_of_ne here] at entry
      rw [Function.update_of_ne (Nat.ne_of_lt (wf.externalCancel seq f entry).1)]
      exact books.table seq f entry

theorem CancelBooks.moves {made : Nat → Prop} {K : List Kind} (books : CancelBooks made s)
    (h : Moves K s s') (wf : s.WellFormed) (noResolve : Kind.resolve ∉ K) :
    CancelBooks made s' := by
  refine (h.keeps (I := CancelBooks made) wf books ?_).1
  intro a b wfa allowed books
  rcases allowed with ⟨k, member, atom⟩ | ⟨k, member, move⟩
  · have notResolve : k ≠ .resolve := by
      rintro rfl
      rcases List.mem_cons.mp member with same | member
      · cases same
      · exact noResolve member
    have keeps := atom.keepsCancels wfa notResolve
    cases atom with
    | cancelExternal => exact books.requested wfa
    | popCancel => exact absurd rfl notResolve
    | _ => exact books.same rfl (fun _ _ => id) keeps
  · have keeps := move.keepsCancels wfa
    cases move with
    | _ => exact books.same rfl (fun _ _ => id) keeps

/-- What neither makes nor resolves a call and runs no activity. -/
theorem Books.foreign {K : List Kind} (books : Books made begun s) (h : Moves K s s')
    (foreign : ∀ k ∈ K, k.foreign = true) (spares : ∀ k ∈ K, k.spares s) :
    Books made begun s' := by
  have calls := h.sameCalls books.wf foreign
  have noResolve : Kind.resolve ∉ K := fun member => by cases foreign _ member
  exact ⟨books.toSound.moves h spares, books.activities.foreign (h.foreign books.wf foreign spares),
    books.children.same calls, books.signals.same calls, books.cancels.moves h books.wf noResolve⟩

/-! ### Making calls -/

/-- The calls made on the way from one state to the other: each of them is new,
has a command, and has an entry. -/
structure Extended (made : Call → Prop) (begun : Nat → Prop) (s : Inst σ) (new : List Call)
    (s' : Inst σ) : Prop where
  books : Books (fun call => made call ∨ call ∈ new) begun s'
  commands : calls s'.commands = calls s.commands ++ new
  awaits : ∀ call, s'.awaits call = true ↔ s.awaits call = true ∨ call ∈ new
  distinct : new.Nodup
  fresh : ∀ call ∈ new, ¬made call

theorem Books.congr (books : Books made begun s) (same : ∀ call, made' call ↔ made call) :
    Books made' begun s := by
  have equal : made' = made := funext fun call => propext (same call)
  exact equal ▸ books

theorem Extended.refl (books : Books made begun s) : Extended made begun s [] s where
  books := books.congr (by simp)
  commands := by simp
  awaits := by simp
  distinct := List.nodup_nil
  fresh := by simp

theorem Extended.foreign {K : List Kind} {new : List Call} {s₁ : Inst σ}
    (h : Extended made begun s new s₁) (moves : Moves K s₁ s')
    (foreign : ∀ k ∈ K, k.foreign = true) (spares : ∀ k ∈ K, k.spares s₁) :
    Extended made begun s new s' := by
  have calls := moves.sameCalls h.books.wf foreign
  exact { h with
    books := h.books.foreign moves foreign spares
    commands := calls.commands.trans h.commands
    awaits := fun call => by rw [calls.awaits, h.awaits] }

theorem Extended.of_foreign {K : List Kind} (books : Books made begun s) (moves : Moves K s s')
    (foreign : ∀ k ∈ K, k.foreign = true) (spares : ∀ k ∈ K, k.spares s) :
    Extended made begun s [] s' :=
  (Extended.refl books).foreign moves foreign spares

/-! ### A turn of an activity -/

theorem isSome_update {α : Type} (table : Nat → Option α) (seq : Nat) (a : α) (seq' : Nat) :
    (Function.update table seq (some a) seq').isSome = true ↔
      (table seq').isSome = true ∨ seq' = seq := by
  by_cases here : seq' = seq
  · simp [here]
  · simp [here]

theorem Inst.awaits_scheduled (s : Inst σ) (t : FutId) (backoff : Option DoBackoff) (call : Call) :
    (s.scheduled t backoff).awaits call = true ↔
      s.awaits call = true ∨ call = (.activity, (s.activities t).seq) := by
  obtain ⟨kind, seq⟩ := call
  cases kind with
  | activity =>
    simp only [Prod.mk.injEq, true_and]
    exact isSome_update ..
  | _ => simp [Inst.awaits, Inst.scheduled]

theorem Books.consistent (books : Books made begun s) :
    Consistent (fun seq => made (.activity, seq)) s s where
  toSound := books.toSound
  books := books.activities
  calls := .refl s

/-- The calls that a turn makes. -/
theorem Extended.of_turn {K : List Kind} {t : FutId} (books : Books made begun s)
    (moves : Moves K s s') (noResolve : Kind.resolve ∉ K) {made' : Nat → Prop} {r' : Inst σ}
    (reissued : Reissued (fun seq => made (.activity, seq)) s t made' r')
    (consistent : Consistent made' r' s') : ∃ new, Extended made begun s new s' := by
  have built {new : List Call} (activities : ActivityBooks
      (fun seq => made (.activity, seq) ∨ (.activity, seq) ∈ new) s')
      (children : ChildBooks (fun seq => made (.childWorkflow, seq) ∨ (.childWorkflow, seq) ∈ new)
        begun s')
      (signals : SignalBooks
        (fun seq => made (.externalSignal, seq) ∨ (.externalSignal, seq) ∈ new) s')
      (none : ∀ seq, (.externalCancel, seq) ∉ new) :
      Books (fun call => made call ∨ call ∈ new) begun s' := {
    toSound := consistent.toSound
    activities := activities
    children := children
    signals := signals
    cancels := by simpa [none] using books.cancels.moves moves books.wf noResolve }
  cases reissued with
  | same =>
    have calls := consistent.calls
    refine ⟨[], built ?_ ?_ ?_ (by simp), ?_, ?_, List.nodup_nil, by simp⟩
    · simpa using consistent.books
    · simpa using books.children.same calls
    · simpa using books.signals.same calls
    · simpa using calls.commands
    · simp [calls.awaits]
  | @again s₁ calls₁ isActivity fresh backoff =>
    have calls := consistent.calls
    have seq : (s₁.activities t).seq = (s.activities t).seq := (calls₁.handles t).1
    rw [seq] at consistent fresh
    have children : ChildBooks (fun seq => made (.childWorkflow, seq)) begun (s.scheduled t backoff) :=
      ⟨books.children.bound, books.children.table, books.children.unbegun⟩
    have signals : SignalBooks (fun seq => made (.externalSignal, seq)) (s.scheduled t backoff) :=
      ⟨books.signals.bound, books.signals.table⟩
    refine ⟨[(.activity, (s.activities t).seq)], built ?_ ?_ ?_ (by simp), ?_, ?_, by simp, ?_⟩
    · simpa using consistent.books
    · simpa using children.same calls
    · simpa using signals.same calls
    · rw [calls.commands]
      change Workflow.calls (s.commands ++ [_]) = _
      rw [calls_append]
      simp [Workflow.calls, scheduleCommand_call]
    · intro call
      rw [calls.awaits, Inst.awaits_scheduled]
      simp
    · rintro call member
      rw [List.mem_singleton.mp member]
      exact fresh

end TemporalSdk.Workflow
