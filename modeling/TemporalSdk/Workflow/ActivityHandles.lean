import TemporalSdk.Workflow.Wakers

/-!
# Handles of activities

An activity is scheduled under one sequence number after another: each backoff
gives its handle a new number and a new result future, and the coroutine of the
handle schedules it again when it has slept. `ActivityBooks` ties the numbers
that have been used (`made`) to where the handle stands: a coroutine that is
going to schedule has a number that is not used yet, and an entry of the table
leads to a handle whose result is still open.
-/
namespace TemporalSdk.Workflow

open Eff

variable {σ : Type}

/-- The `asyncio.sleep` of a backoff. -/
def Point.sleeps : Point → Bool
  | .activitySleep _ _ _ | .activitySleepZero _ => true
  | _ => false

/-- An outer future is going to hand a backoff to its owner. -/
def Inst.owes (s : Inst σ) (o : OuterId) : Prop :=
  ∃ b, (s.outers o).state = .done (.backoff b) ∧ .outerWakeup o ∈ s.ready ∨
    (s.outers o).state = .pending ∧
      ∃ p, (s.outers o).source = some p ∧ (s.promises p).state = some (.backoff b)

/-- The books of the activities. A retry policy that does not validate leaves a
command without an entry, so there is none. -/
structure ActivityBooks (made : Nat → Prop) (s : Inst σ) : Prop where
  valid : ∀ t, s.ofRoot t .activity →
    validRetryPolicy (s.activities t).input.retryPolicy = true
  bound : ∀ seq, made seq → seq ≤ s.currSeqs .activity
  table : ∀ seq t, s.pendingActivities seq = some t → s.ofRoot t .activity ∧
    (s.activities t).seq = seq ∧ (s.promises (s.activities t).resultFut).state = none
  unmade : ∀ t, s.ofRoot t .activity → ¬made (s.activities t).seq →
    (s.promises (s.activities t).resultFut).state = none
  noBackoff : ∀ t b, s.ofRoot t .activity →
    (s.promises (s.activities t).resultFut).state ≠ some (.backoff b)
  asleep : ∀ t task, s.tasks t = some task → task.root = .activity → task.point.sleeps = true →
    ¬made (s.activities t).seq
  waiting : ∀ o < s.nextOuter, s.ofRoot (s.outers o).owner .activity → s.owes o →
    ¬made (s.activities (s.outers o).owner).seq
  sources : ∀ o < s.nextOuter, ∀ p, s.ofRoot (s.outers o).owner .activity →
    (s.outers o).state = .pending → (s.outers o).source = some p →
    p < s.nextPromise ∧ ∀ x, s.Holds x p → x = .activity (s.outers o).owner

/-! ### What others do -/

/-- Outer futures take over what their promises have, and nobody allocates one
for an activity. -/
structure OutersFollow (s s' : Inst σ) : Prop where
  nextOuter : s.nextOuter ≤ s'.nextOuter
  owner : ∀ o < s.nextOuter, (s'.outers o).owner = (s.outers o).owner
  source : ∀ o < s.nextOuter, (s'.outers o).source = (s.outers o).source
  state : ∀ o < s.nextOuter, (s'.outers o).state = (s.outers o).state ∨
    (s.outers o).state = .pending ∧ (s'.outers o).state ≠ .pending ∧
      ∀ b, (s'.outers o).state = .done (.backoff b) →
        ∃ p, (s.outers o).source = some p ∧ (s.promises p).state = some (.backoff b)
  wakeup : ∀ o < s.nextOuter, .outerWakeup o ∈ s'.ready →
    .outerWakeup o ∈ s.ready ∨ (s.outers o).state = .pending
  new : ∀ o, s.nextOuter ≤ o → o < s'.nextOuter → s'.coded (s'.outers o).owner

/-- A change that no activity and no outbound call has a part in. -/
structure Foreign (s s' : Inst σ) : Prop where
  calls : SameCalls s s'
  outers : OutersFollow s s'
  keeps : KeepsActivities s s'

theorem OutersFollow.same {s s' : Inst σ} (nextOuter : s'.nextOuter = s.nextOuter)
    (outers : s'.outers = s.outers) (ready : ∀ o, .outerWakeup o ∈ s'.ready → .outerWakeup o ∈ s.ready) :
    OutersFollow s s' where
  nextOuter := Nat.le_of_eq nextOuter.symm
  owner := fun o _ => by rw [outers]
  source := fun o _ => by rw [outers]
  state := fun o _ => .inl (by rw [outers])
  wakeup := fun o _ member => .inl (ready o member)
  new := fun o lower upper => absurd upper (by rw [nextOuter]; exact Nat.not_lt.mpr lower)

theorem Foreign.refl (s : Inst σ) : Foreign s s :=
  ⟨.refl s, .same rfl rfl fun _ => id, .of_eq rfl⟩

theorem Foreign.trans {s₁ s₂ s₃ : Inst σ} (h : Foreign s₁ s₂) (h' : Foreign s₂ s₃) :
    Foreign s₁ s₃ where
  calls := h.calls.trans h'.calls
  keeps := fun t task isTask => by
    obtain ⟨task₂, isTask₂, root₂, point₂⟩ := h.keeps t task isTask
    obtain ⟨task₃, isTask₃, root₃, point₃⟩ := h'.keeps t task₂ isTask₂
    exact ⟨task₃, isTask₃, root₃.trans root₂, fun isActivity =>
      (point₃ (root₂.trans isActivity)).trans (point₂ isActivity)⟩
  outers := by
    have later {o : OuterId} (bound : o < s₁.nextOuter) : o < s₂.nextOuter :=
      bound.trans_le h.outers.nextOuter
    constructor
    · exact h.outers.nextOuter.trans h'.outers.nextOuter
    · exact fun o bound => (h'.outers.owner o (later bound)).trans (h.outers.owner o bound)
    · exact fun o bound => (h'.outers.source o (later bound)).trans (h.outers.source o bound)
    · intro o bound
      rcases h.outers.state o bound with same | ⟨pending, done, backoff⟩
      · rcases h'.outers.state o (later bound) with same' | ⟨pending', done', backoff'⟩
        · exact .inl (same'.trans same)
        · refine .inr ⟨same ▸ pending', done', fun b isBackoff => ?_⟩
          obtain ⟨p, source, state⟩ := backoff' b isBackoff
          rw [h.outers.source o bound] at source
          rw [h.calls.states] at state
          exact ⟨p, source, state⟩
      · rcases h'.outers.state o (later bound) with same' | ⟨pending', -, -⟩
        · exact .inr ⟨pending, same' ▸ done, fun b isBackoff => backoff b (same' ▸ isBackoff)⟩
        · exact absurd pending' done
    · intro o bound member
      rcases h'.outers.wakeup o (later bound) member with member | pending
      · exact h.outers.wakeup o bound member
      · rcases h.outers.state o bound with same | ⟨pending, -⟩
        · exact .inr (same ▸ pending)
        · exact .inr pending
    · intro o lower upper
      by_cases here : o < s₂.nextOuter
      · rw [h'.outers.owner o here]
        exact h'.keeps.coded (h.outers.new o lower here)
      · exact h'.outers.new o (Nat.le_of_not_lt here) upper

/-- An outer future that was pending is completed. -/
theorem OutersFollow.outerSettled {s : Inst σ} {o : OuterId} {new : OuterState}
    (pending : (s.outers o).state = .pending) (done : new ≠ .pending)
    (backoff : ∀ b, new = .done (.backoff b) →
      ∃ p, (s.outers o).source = some p ∧ (s.promises p).state = some (.backoff b)) :
    OutersFollow s (s.outerSettled o new) where
  nextOuter := Nat.le_refl _
  owner := fun o' _ => (s.outerSettled_outers o new o').1
  source := fun o' _ => (s.outerSettled_outers o new o').2
  state := fun o' _ => by
    by_cases here : o' = o
    · subst here
      have state : ((s.outerSettled o' new).outers o').state = new := by
        simp [Inst.outerSettled, Inst.pushAll, Inst.setOuter]
      rw [state]
      exact .inr ⟨pending, done, backoff⟩
    · exact .inl (by simp [Inst.outerSettled, Inst.pushAll, Inst.setOuter, here])
  wakeup := fun o' _ member => by
    by_cases here : o' = o
    · exact .inr (here ▸ pending)
    · rcases List.mem_append.mp member with old | new
      · exact .inl old
      · split at new
        · cases new
        · split at new <;> simp [here] at new
  new := fun o' lower upper => absurd upper (Nat.not_lt.mpr lower)

theorem OutersFollow.allocated {s s' : Inst σ} {outer : Outer} (ready : s'.ready = s.ready)
    (nextOuter : s'.nextOuter = s.nextOuter + 1)
    (outers : s'.outers = Function.update s.outers s.nextOuter outer)
    (coded : s'.coded outer.owner) : OutersFollow s s' := by
  have old {o : OuterId} (bound : o < s.nextOuter) : s'.outers o = s.outers o := by
    rw [outers, Function.update_of_ne (Nat.ne_of_lt bound)]
  refine ⟨by rw [nextOuter]; exact Nat.le_succ _, fun o bound => by rw [old bound],
    fun o bound => by rw [old bound], fun o bound => .inl (by rw [old bound]), ?_, ?_⟩
  · intro o bound member
    rw [ready] at member
    exact .inl member
  · intro o lower upper
    rw [nextOuter] at upper
    have same : o = s.nextOuter := Nat.le_antisymm (Nat.le_of_lt_succ upper) lower
    rw [same, outers, Function.update_self]
    exact coded

theorem OutersFollow.pushed {s s' : Inst σ} {l : List Handle} (nextOuter : s'.nextOuter = s.nextOuter)
    (outers : s'.outers = s.outers) (ready : s'.ready = s.ready ++ l)
    (others : ∀ o, .outerWakeup o ∉ l) : OutersFollow s s' := by
  refine .same nextOuter outers fun o member => ?_
  rw [ready] at member
  exact (List.mem_append.mp member).resolve_right (others o)

theorem settled_noWakeup (s : Inst σ) (f : FutId) (o : OuterId) : .outerWakeup o ∉
    (if s.readOnly then [] else (s.futs f).callbacks.map fun cb => Handle.callback cb f) := by
  split <;> simp

theorem Atom.outersFollow {k : Kind} {s s' : Inst σ} (h : Atom k s s') (foreign : k.foreign = true)
    (spares : k.spares s) : OutersFollow s s' := by
  cases h with
  | newActivity | strayActivity | schedule | scheduleBroken | returned | childSeq | newChild
  | strayChild | startChild | startChildBroken | signal | cancelExternal | fulfill | popActivity
  | popChild | popSignal | popCancel | backoffSeq | backoff | childRunId | resolveCancel | fire =>
    cases foreign
  | @push _ _ h plain =>
    refine .pushed (l := [h]) rfl rfl rfl fun o member => ?_
    rw [← List.mem_singleton.mp member] at plain
    cases plain
  | callSoon | wakeup | yield | createUser | strayUser | bareUser =>
    exact .pushed (l := [_]) rfl rfl rfl (by simp)
  | settle => exact .pushed rfl rfl rfl (settled_noWakeup s _)
  | cancelOuter _ pending => exact .outerSettled pending (by simp) (by simp)
  | @deliver _ o p outcome pending source fulfilled =>
    refine .outerSettled pending (by simp) fun b isBackoff => ⟨p, source, ?_⟩
    rw [OuterState.done.injEq] at isBackoff
    rw [fulfilled, isBackoff]
  | slept _ pending => exact .outerSettled pending (by simp) (by simp)
  | shield _ t | sleepOuter _ t => exact .allocated rfl rfl rfl (spares t (.inl rfl))
  | _ => exact .same rfl rfl fun _ => id

theorem Move.outersFollow {k : Kind} {s s' : Inst σ} (h : Move k s s') : OutersFollow s s' := by
  have popped {s' : Inst σ} {h : Handle} (outers : s'.outers = s.outers)
      (nextOuter : s'.nextOuter = s.nextOuter) (ready : s.ready = h :: s'.ready) :
      OutersFollow s s' :=
    .same nextOuter outers fun o member => by
      rw [ready]
      exact List.mem_cons_of_mem _ member
  cases h with
  | met | finish => exact .pushed rfl rfl rfl (settled_noWakeup s _)
  | pop _ ready | tasksRemove _ ready | signalDone _ ready => exact popped rfl rfl ready
  | signalTask | straySignal | spawn | strayJob => exact .pushed (l := [_]) rfl rfl rfl (by simp)
  | _ => exact .same rfl rfl fun _ => id

theorem KeepsActivities.of_spares {s : Inst σ} {t : FutId} {task new : Task}
    (isTask : s.tasks t = some task) (coded : s.coded t) (root : new.root = task.root) :
    KeepsActivities s (s.setTask t new) := by
  refine .setTask isTask root fun isActivity => ?_
  obtain ⟨task', isTask', other⟩ := coded
  rw [isTask, Option.some.injEq] at isTask'
  rw [isTask'] at isActivity
  exact absurd isActivity other

theorem Atom.keepsActivities {k : Kind} {s s' : Inst σ} (h : Atom k s s') (wf : s.WellFormed)
    (spares : k.spares s) : KeepsActivities s s' := by
  cases h with
  | createUser | strayUser | bareUser | newActivity | strayActivity | newChild | strayChild =>
    exact .made wf rfl
  | request _ isTask | mustCancel _ isTask | clearCancel _ isTask =>
    exact .setTask isTask rfl fun _ => rfl
  | @setPoint _ t _ isTask => exact .of_spares isTask (spares t (.inl rfl)) rfl
  | _ => exact .of_eq rfl

theorem Move.keepsActivities {k : Kind} {s s' : Inst σ} (h : Move k s s') (wf : s.WellFormed)
    (spares : k.spares s) : KeepsActivities s s' := by
  cases h with
  | signalTask | straySignal | spawn | strayJob => exact .made wf rfl
  | @wake _ t _ isTask => exact .of_spares isTask (spares t (.inr (.inl rfl))) rfl
  | _ => exact .of_eq rfl

theorem Moves.foreign {K : List Kind} {s s' : Inst σ} (h : Moves K s s') (wf : s.WellFormed)
    (foreign : ∀ k ∈ K, k.foreign = true) (spares : ∀ k ∈ K, k.spares s) : Foreign s s' := by
  have kept : (Foreign s s' ∧ ∀ k ∈ K, k.spares s') ∧ s'.WellFormed := by
    refine h.keeps wf (I := fun s' => Foreign s s' ∧ ∀ k ∈ K, k.spares s') ⟨.refl s, spares⟩ ?_
    intro a b wfa allowed ⟨before, spares⟩
    have moves : Moves K a b := fun _ => .single allowed
    refine ⟨before.trans ?_, fun k member t own => moves.coded wfa (spares k member t own)⟩
    rcases allowed with ⟨k, member, atom⟩ | ⟨k, member, move⟩
    · have harmless : k.foreign = true ∧ k.spares a := by
        rcases List.mem_cons.mp member with rfl | member
        · exact ⟨rfl, fun t own => by rcases own with own | own | own <;> cases own⟩
        · exact ⟨foreign k member, spares k member⟩
      exact ⟨atom.sameCalls wfa harmless.1, atom.outersFollow harmless.1 harmless.2,
        atom.keepsActivities wfa harmless.2⟩
    · exact ⟨move.sameCalls wfa (foreign k member), move.outersFollow,
        move.keepsActivities wfa (spares k member)⟩
  exact kept.1.1

theorem Foreign.activity {s s' : Inst σ} (h : Foreign s s') {t : FutId} :
    s'.ofRoot t .activity ↔ s.ofRoot t .activity :=
  h.calls.roots t _ (.inl rfl)

theorem Foreign.point {s s' : Inst σ} (h : Foreign s s') {t : FutId} {task : Task}
    (isTask : s'.tasks t = some task) (isActivity : task.root = .activity) :
    ∃ old, s.tasks t = some old ∧ old.root = .activity ∧ old.point = task.point := by
  obtain ⟨old, isOld, root⟩ := h.activity.mp ⟨task, isTask, isActivity⟩
  obtain ⟨task', isTask', -, point⟩ := h.keeps t old isOld
  rw [isTask, Option.some.injEq] at isTask'
  exact ⟨old, isOld, root, by rw [isTask', point root]⟩

theorem Foreign.holds {s s' : Inst σ} (h : Foreign s s') (x : Slot) (p : PromiseId) :
    s'.Holds x p ↔ s.Holds x p := by
  cases x with
  | activity t => simp only [Inst.Holds, h.activity, (h.calls.handles t).2.1]
  | childStart t => simp only [Inst.Holds, h.calls.roots t _ (.inr rfl), h.calls.children]
  | childResult t => simp only [Inst.Holds, h.calls.roots t _ (.inr rfl), h.calls.children]
  | signal seq => simp only [Inst.Holds, h.calls.signals]

/-- A coroutine that is no activity owns the outer futures that others allocate. -/
theorem OutersFollow.old {s s' : Inst σ} (h : OutersFollow s s') {o : OuterId}
    (bound : o < s'.nextOuter) (isActivity : s'.ofRoot (s'.outers o).owner .activity) :
    o < s.nextOuter := by
  by_contra fresh
  obtain ⟨task, isTask, other⟩ := h.new o (Nat.le_of_not_lt fresh) bound
  obtain ⟨task', isTask', root⟩ := isActivity
  rw [isTask, Option.some.injEq] at isTask'
  exact other (isTask' ▸ root)

theorem ActivityBooks.foreign {made : Nat → Prop} {s s' : Inst σ} (books : ActivityBooks made s)
    (h : Foreign s s') : ActivityBooks made s' := by
  have seq (t : FutId) : (s'.activities t).seq = (s.activities t).seq := (h.calls.handles t).1
  have result (t : FutId) : (s'.promises (s'.activities t).resultFut).state =
      (s.promises (s.activities t).resultFut).state := by
    rw [(h.calls.handles t).2.1, h.calls.states]
  constructor
  · intro t isActivity
    rw [(h.calls.handles t).2.2]
    exact books.valid t (h.activity.mp isActivity)
  · intro n isMade
    rw [h.calls.seqs .activity (by simp)]
    exact books.bound n isMade
  · intro n t entry
    rw [h.calls.activities] at entry
    rw [h.activity, seq, result]
    exact books.table n t entry
  · intro t isActivity unmade
    rw [seq] at unmade
    rw [result]
    exact books.unmade t (h.activity.mp isActivity) unmade
  · intro t b isActivity
    rw [result]
    exact books.noBackoff t b (h.activity.mp isActivity)
  · intro t task isTask isActivity sleeps
    obtain ⟨old, isOld, root, point⟩ := h.point isTask isActivity
    rw [seq]
    exact books.asleep t old isOld root (by rw [point]; exact sleeps)
  · intro o bound isActivity owes
    have inside := h.outers.old bound isActivity
    rw [h.outers.owner o inside] at isActivity ⊢
    rw [seq]
    refine books.waiting o inside (h.activity.mp isActivity) ?_
    obtain ⟨b, owes⟩ := owes
    refine ⟨b, ?_⟩
    rcases h.outers.state o inside with same | ⟨pending, done, backoff⟩
    · rw [same, h.outers.source o inside] at owes
      simp only [h.calls.states] at owes
      refine owes.imp_left fun ⟨isDone, member⟩ => ⟨isDone, ?_⟩
      -- a future that is done has its wake-up in the queue already
      refine (h.outers.wakeup o inside member).resolve_right fun pending => ?_
      rw [isDone] at pending
      cases pending
    · rcases owes with ⟨isDone, -⟩ | ⟨isPending, -⟩
      · exact .inr ⟨pending, backoff b isDone⟩
      · exact absurd isPending done
  · intro o bound p isActivity pending source
    have inside := h.outers.old bound isActivity
    rw [h.outers.owner o inside] at isActivity ⊢
    rw [h.outers.source o inside] at source
    rw [h.calls.nextPromise]
    have isPending : (s.outers o).state = .pending := by
      rcases h.outers.state o inside with same | ⟨isPending, -⟩
      · rw [← same]
        exact pending
      · exact isPending
    obtain ⟨lt, only⟩ := books.sources o inside p (h.activity.mp isActivity) isPending source
    exact ⟨lt, fun x holds => only x ((h.holds x p).mp holds)⟩

end TemporalSdk.Workflow
