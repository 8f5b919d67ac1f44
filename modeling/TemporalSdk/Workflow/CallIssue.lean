import TemporalSdk.Workflow.CallBooks

/-!
# Making outbound calls

What workflow code does to the books when it starts an activity or a child
workflow, signals an external workflow or asks for the cancellation of one. The
input has passed the conversions that come after the command; those before it
may fail and then nothing has happened.
-/
namespace TemporalSdk.Workflow

open Eff

variable {σ : Type} {s s' : Inst σ} {made : Call → Prop} {begun : Nat → Prop}

/-! ### Promises come into being and are completed -/

/-- Promises are made, and others completed with outcomes that are no backoff: those
of activities only when they have been made and have lost their entry. -/
theorem ActivityBooks.mono {made : Nat → Prop} (books : ActivityBooks made s) (owned : Owned s)
    (roots : ∀ t, s'.ofRoot t .activity ↔ s.ofRoot t .activity)
    (points : ∀ t task, s'.tasks t = some task → task.root = .activity →
      ∃ old, s.tasks t = some old ∧ old.root = .activity ∧ old.point = task.point)
    (activities : s'.activities = s.activities)
    (seqs : s.currSeqs .activity ≤ s'.currSeqs .activity)
    (table : ∀ seq t, s'.pendingActivities seq = some t → s.pendingActivities seq = some t)
    (outers : s'.outers = s.outers) (nextOuter : s'.nextOuter = s.nextOuter)
    (wakeups : ∀ o, .outerWakeup o ∈ s'.ready → .outerWakeup o ∈ s.ready)
    (nextPromise : s.nextPromise ≤ s'.nextPromise)
    (holds : ∀ x p, p < s.nextPromise → s'.Holds x p → s.Holds x p)
    (states : ∀ p < s.nextPromise, (s'.promises p).state = (s.promises p).state ∨
      (∀ b, (s'.promises p).state ≠ some (.backoff b)) ∧
        ∀ t, s.Holds (.activity t) p → made (s.activities t).seq ∧
          ∀ seq, s'.pendingActivities seq ≠ some t) :
    ActivityBooks made s' := by
  have bounded {t : FutId} (isActivity : s.ofRoot t .activity) :
      (s.activities t).resultFut < s.nextPromise := owned.bound (.activity t) _ ⟨isActivity, rfl⟩
  constructor
  · intro t isActivity
    rw [activities]
    exact books.valid t ((roots t).mp isActivity)
  · exact fun seq isMade => (books.bound seq isMade).trans seqs
  · intro seq t entry
    obtain ⟨isActivity, isSeq, pending⟩ := books.table seq t (table seq t entry)
    rw [roots, activities]
    refine ⟨isActivity, isSeq, ?_⟩
    rcases states _ (bounded isActivity) with same | ⟨-, settled⟩
    · rw [same]
      exact pending
    · exact absurd entry ((settled t ⟨isActivity, rfl⟩).2 seq)
  · intro t isActivity unmade
    rw [roots] at isActivity
    rw [activities] at unmade ⊢
    rcases states _ (bounded isActivity) with same | ⟨-, settled⟩
    · rw [same]
      exact books.unmade t isActivity unmade
    · exact absurd (settled t ⟨isActivity, rfl⟩).1 unmade
  · intro t b isActivity
    rw [roots] at isActivity
    rw [activities]
    rcases states _ (bounded isActivity) with same | ⟨noBackoff, -⟩
    · rw [same]
      exact books.noBackoff t b isActivity
    · exact noBackoff b
  · intro t task isTask root sleeps
    obtain ⟨old, isOld, oldRoot, point⟩ := points t task isTask root
    rw [activities]
    exact books.asleep t old isOld oldRoot (point ▸ sleeps)
  · intro o bound isActivity owes
    rw [nextOuter] at bound
    rw [outers, roots] at isActivity
    rw [outers, activities]
    refine books.waiting o bound isActivity ?_
    obtain ⟨b, ⟨done, member⟩ | ⟨pending, p, source, state⟩⟩ := owes
    · rw [outers] at done
      exact ⟨b, .inl ⟨done, wakeups o member⟩⟩
    · rw [outers] at pending source
      obtain ⟨lt, -⟩ := books.sources o bound p isActivity pending source
      rcases states p lt with same | ⟨noBackoff, -⟩
      · exact ⟨b, .inr ⟨pending, p, source, same ▸ state⟩⟩
      · exact absurd state (noBackoff b)
  · intro o bound p isActivity pending source
    rw [nextOuter] at bound
    rw [outers] at isActivity pending source ⊢
    obtain ⟨lt, only⟩ := books.sources o bound p ((roots _).mp isActivity) pending source
    exact ⟨lt.trans_le nextPromise, fun x h => only x (holds x p lt h)⟩

/-- The handle of an activity comes into being. -/
theorem ActivityBooks.activityMade {made : Nat → Prop} (books : ActivityBooks made s)
    (wf : s.WellFormed) (owned : Owned s) (woken : Woken s) {input : StartActivityInput}
    (valid : validRetryPolicy input.retryPolicy = true) (callbacks : List Callback)
    (registered : List FutId) : ActivityBooks made (s.activityMade input callbacks registered) := by
  have roots (t : FutId) : (s.activityMade input callbacks registered).ofRoot t .activity ↔
      t = s.nextFut ∨ t ≠ s.nextFut ∧ s.ofRoot t .activity := by
    rw [Inst.ofRoot_update (s := s) rfl]
    simp
  have new : (s.activityMade input callbacks registered).activities s.nextFut =
      ⟨s.currSeqs .activity + 1, input, s.nextPromise, false⟩ := Function.update_self _ _ _
  have old {t : FutId} (other : t ≠ s.nextFut) :
      (s.activityMade input callbacks registered).activities t = s.activities t :=
    Function.update_of_ne other _ _
  have isOld {t : FutId} {root : Root} (h : s.ofRoot t root) : t ≠ s.nextFut := by
    obtain ⟨task, isTask, -⟩ := h
    exact Nat.ne_of_lt (wf.task t task isTask).1
  have fresh : ((s.activityMade input callbacks registered).promises s.nextPromise).state = none := by
    simp [Inst.activityMade]
  have kept {p : PromiseId} (bound : p < s.nextPromise) :
      (s.activityMade input callbacks registered).promises p = s.promises p :=
    Function.update_of_ne (Nat.ne_of_lt bound) _ _
  have bounded {t : FutId} (isActivity : s.ofRoot t .activity) :
      (s.activities t).resultFut < s.nextPromise := owned.bound (.activity t) _ ⟨isActivity, rfl⟩
  have owner {o : OuterId} (bound : o < s.nextOuter) : (s.outers o).owner ≠ s.nextFut := by
    obtain ⟨task, isTask, -⟩ := woken.outer o bound
    exact Nat.ne_of_lt (wf.task _ task isTask).1
  constructor
  · intro t isActivity
    rcases (roots t).mp isActivity with rfl | ⟨other, isActivity⟩
    · rw [new]
      exact valid
    · rw [old other]
      exact books.valid t isActivity
  · intro seq isMade
    simp only [Inst.activityMade, Function.update_self]
    exact (books.bound seq isMade).trans (Nat.le_succ _)
  · intro seq t entry
    obtain ⟨isActivity, isSeq, pending⟩ := books.table seq t entry
    rw [roots, old (isOld isActivity), kept (bounded isActivity)]
    exact ⟨.inr ⟨isOld isActivity, isActivity⟩, isSeq, pending⟩
  · intro t isActivity unmade
    rcases (roots t).mp isActivity with rfl | ⟨other, isActivity⟩
    · rw [new]
      exact fresh
    · rw [old other] at unmade ⊢
      rw [kept (bounded isActivity)]
      exact books.unmade t isActivity unmade
  · intro t b isActivity
    rcases (roots t).mp isActivity with rfl | ⟨other, isActivity⟩
    · rw [new, fresh]
      simp
    · rw [old other, kept (bounded isActivity)]
      exact books.noBackoff t b isActivity
  · intro t task isTask root sleeps
    change Function.update s.tasks s.nextFut _ t = _ at isTask
    by_cases here : t = s.nextFut
    · rw [here, Function.update_self, Option.some.injEq] at isTask
      rw [← isTask] at sleeps
      cases sleeps
    · rw [Function.update_of_ne here] at isTask
      rw [old here]
      exact books.asleep t task isTask root sleeps
  · intro o bound isActivity owes
    change o < s.nextOuter at bound
    change ¬made ((s.activityMade input callbacks registered).activities (s.outers o).owner).seq
    have isActivity := ((roots _).mp isActivity).resolve_left (owner bound)
    rw [old (owner bound)]
    refine books.waiting o bound isActivity.2 ?_
    obtain ⟨b, ⟨done, member⟩ | ⟨pending, p, source, state⟩⟩ := owes
    · refine ⟨b, .inl ⟨done, ?_⟩⟩
      exact (List.mem_append.mp member).resolve_right (by simp)
    · obtain ⟨lt, -⟩ := books.sources o bound p isActivity.2 pending source
      rw [kept lt] at state
      exact ⟨b, .inr ⟨pending, p, source, state⟩⟩
  · intro o bound p isActivity pending source
    change o < s.nextOuter at bound
    have isActivity := ((roots _).mp isActivity).resolve_left (owner bound)
    obtain ⟨lt, only⟩ := books.sources o bound p isActivity.2 pending source
    refine ⟨lt.trans (Nat.lt_succ_self _), fun x h => ?_⟩
    cases x with
    | activity t =>
      rcases (roots t).mp h.1 with rfl | ⟨other, isActivity⟩
      · have same := h.2
        rw [new] at same
        exact absurd same (Nat.ne_of_gt lt)
      · exact only (.activity t) ⟨isActivity, old other ▸ h.2⟩
    | childStart t => exact only (.childStart t) ⟨(Inst.ofRoot_made wf rfl (by simp)).mp h.1, h.2⟩
    | childResult t => exact only (.childResult t) ⟨(Inst.ofRoot_made wf rfl (by simp)).mp h.1, h.2⟩
    | signal seq => exact only (.signal seq) h

theorem ChildBooks.mono {made begun begun' : Nat → Prop} (books : ChildBooks made begun s)
    (roots : ∀ c, s.ofRoot c .child → s'.ofRoot c .child)
    (children : ∀ c, s.ofRoot c .child → (s'.children c).seq = (s.children c).seq ∧
      (s'.children c).startFut = (s.children c).startFut ∧
      (s'.children c).resultFut = (s.children c).resultFut)
    (seqs : s.currSeqs .childWorkflow ≤ s'.currSeqs .childWorkflow)
    (table : ∀ seq c, s'.pendingChildWorkflows seq = some c → s.pendingChildWorkflows seq = some c)
    (result : ∀ seq c, s'.pendingChildWorkflows seq = some c →
      (s'.promises (s.children c).resultFut).state = (s.promises (s.children c).resultFut).state)
    (start : ∀ seq c, s'.pendingChildWorkflows seq = some c → ¬begun' seq → ¬begun seq ∧
      (s'.promises (s.children c).startFut).state = (s.promises (s.children c).startFut).state) :
    ChildBooks made begun' s' where
  bound := fun seq isMade => (books.bound seq isMade).trans seqs
  table := fun seq c entry => by
    obtain ⟨isChild, isSeq, pending⟩ := books.table seq c (table seq c entry)
    obtain ⟨sameSeq, -, sameResult⟩ := children c isChild
    rw [sameSeq, sameResult, result seq c entry]
    exact ⟨roots c isChild, isSeq, pending⟩
  unbegun := fun seq c entry notBegun => by
    obtain ⟨isChild, -⟩ := books.table seq c (table seq c entry)
    obtain ⟨before, same⟩ := start seq c entry notBegun
    rw [(children c isChild).2.1, same]
    exact books.unbegun seq c (table seq c entry) before

theorem SignalBooks.mono {made : Nat → Prop} (books : SignalBooks made s)
    (seqs : s.currSeqs .externalSignal ≤ s'.currSeqs .externalSignal)
    (table : ∀ seq p, s'.pendingExternalSignals seq = some p →
      s.pendingExternalSignals seq = some p)
    (states : ∀ seq p, s'.pendingExternalSignals seq = some p →
      (s'.promises p).state = (s.promises p).state) : SignalBooks made s' where
  bound := fun seq isMade => (books.bound seq isMade).trans seqs
  table := fun seq p entry => by
    rw [states seq p entry]
    exact books.table seq p (table seq p entry)

/-- The promises there are stay as they are. -/
structure PromisesGrow (s s' : Inst σ) : Prop where
  nextPromise : s.nextPromise ≤ s'.nextPromise
  states : ∀ p < s.nextPromise, (s'.promises p).state = (s.promises p).state

theorem ActivityBooks.grown {made : Nat → Prop} (books : ActivityBooks made s) (owned : Owned s)
    (grow : PromisesGrow s s') (roots : ∀ t, s'.ofRoot t .activity ↔ s.ofRoot t .activity)
    (keeps : ∀ t task, s'.tasks t = some task → task.root = .activity → s.tasks t = some task)
    (activities : s'.activities = s.activities)
    (seqs : s'.currSeqs .activity = s.currSeqs .activity)
    (table : s'.pendingActivities = s.pendingActivities) (outers : s'.outers = s.outers)
    (nextOuter : s'.nextOuter = s.nextOuter)
    (wakeups : ∀ o, .outerWakeup o ∈ s'.ready → .outerWakeup o ∈ s.ready)
    (holds : ∀ x p, p < s.nextPromise → s'.Holds x p → s.Holds x p) : ActivityBooks made s' :=
  books.mono owned roots (fun t task isTask root => ⟨task, keeps t task isTask root, root, rfl⟩)
    activities (Nat.le_of_eq seqs.symm) (fun _ _ => table ▸ id) outers nextOuter wakeups
    grow.nextPromise holds fun p bound => .inl (grow.states p bound)

theorem ChildBooks.grown {made : Nat → Prop} {begun : Nat → Prop}
    (books : ChildBooks made begun s) (owned : Owned s) (grow : PromisesGrow s s')
    (roots : ∀ c, s.ofRoot c .child → s'.ofRoot c .child)
    (children : ∀ c, s.ofRoot c .child → s'.children c = s.children c)
    (seqs : s.currSeqs .childWorkflow ≤ s'.currSeqs .childWorkflow)
    (table : s'.pendingChildWorkflows = s.pendingChildWorkflows) : ChildBooks made begun s' := by
  have isChild {seq : Nat} {c : FutId} (entry : s'.pendingChildWorkflows seq = some c) :
      s.ofRoot c .child := (books.table seq c (table ▸ entry)).1
  refine books.mono roots (fun c isChild => by rw [children c isChild]; exact ⟨rfl, rfl, rfl⟩) seqs
    (fun seq c entry => table ▸ entry) (fun seq c entry => ?_) fun seq c entry notBegun => ?_
  · exact grow.states _ (owned.bound (.childResult c) _ ⟨isChild entry, rfl⟩)
  · exact ⟨notBegun, grow.states _ (owned.bound (.childStart c) _ ⟨isChild entry, rfl⟩)⟩

theorem SignalBooks.grown {made : Nat → Prop} (books : SignalBooks made s) (owned : Owned s)
    (grow : PromisesGrow s s') (seqs : s'.currSeqs .externalSignal = s.currSeqs .externalSignal)
    (table : s'.pendingExternalSignals = s.pendingExternalSignals) : SignalBooks made s' :=
  have old {seq : Nat} {p : PromiseId} (entry : s'.pendingExternalSignals seq = some p) :
      s.pendingExternalSignals seq = some p := table ▸ entry
  books.mono (Nat.le_of_eq seqs.symm) (fun _ _ => old) fun seq p entry =>
    grow.states p (owned.bound (.signal seq) p (old entry))

/-! ### Activities -/

theorem Books.activityMade (books : Books made begun s) {input : StartActivityInput}
    (valid : validRetryPolicy input.retryPolicy = true) {callbacks : List Callback}
    {registered : List FutId}
    (atom : Atom .issue s (s.activityMade input callbacks registered)) :
    Books made begun (s.activityMade input callbacks registered) := by
  have moves : Moves [.issue] s (s.activityMade input callbacks registered) :=
    .of_atom (by simp) atom
  have grow : PromisesGrow s (s.activityMade input callbacks registered) :=
    ⟨Nat.le_succ _, fun p bound => by simp [Inst.activityMade, Nat.ne_of_lt bound]⟩
  exact {
    toSound := books.toSound.moves moves (by simp [Kind.spares])
    activities :=
      books.activities.activityMade books.wf books.owned books.woken valid callbacks registered
    children := books.children.grown books.owned grow
      (fun c => (Inst.ofRoot_made books.wf rfl (by simp)).mpr) (fun _ _ => rfl) (Nat.le_refl _) rfl
    signals := books.signals.grown books.owned grow rfl rfl
    cancels := books.cancels.moves moves books.wf (by simp) }

theorem Extended.scheduled (books : Books made begun s) {t : FutId} (isOpen : s.open = true)
    (isActivity : s.ofRoot t .activity) (fresh : ¬made (.activity, (s.activities t).seq))
    (awake : ∀ task, s.tasks t = some task → task.point.sleeps = false)
    (paid : ∀ o < s.nextOuter, (s.outers o).owner = t → ¬s.owes o) (backoff : Option DoBackoff) :
    Extended made begun s [(.activity, (s.activities t).seq)] (s.scheduled t backoff) := by
  have moves : Moves [.issue] s (s.scheduled t backoff) := .of_atom (by simp)
    (.schedule s t backoff isOpen (books.activities.valid t isActivity))
  exact {
    books := {
      toSound := books.toSound.moves moves (by simp [Kind.spares])
      activities := by
        simpa using books.activities.scheduled books.owned isActivity fresh awake paid backoff
      children := by
        simpa using ⟨books.children.bound, books.children.table, books.children.unbegun⟩
      signals := by simpa using ⟨books.signals.bound, books.signals.table⟩
      cancels := by simpa using books.cancels.moves moves books.wf (by simp) }
    commands := by
      change Workflow.calls (s.commands ++ [_]) = _
      rw [calls_append]
      simp [Workflow.calls, scheduleCommand_call]
    awaits := fun call => by
      rw [Inst.awaits_scheduled]
      simp
    distinct := by simp
    fresh := fun call member => by
      rw [List.mem_singleton.mp member]
      exact fresh }

/-- A handle that has just been made has a number that no command carries. -/
theorem Extended.newActivity (books : Books made begun s) (isOpen : s.open = true)
    {input : StartActivityInput} (valid : validRetryPolicy input.retryPolicy = true)
    (backoff : Option DoBackoff) :
    Books made begun (s.activityCreated input) ∧
      ∃ new, Extended made begun s new ((s.activityCreated input).scheduled s.nextFut backoff) := by
  have created : Books made begun (s.activityCreated input) :=
    books.activityMade valid (.newActivity s input isOpen)
  refine ⟨created, ?_⟩
  have handle : (s.activityCreated input).activities s.nextFut =
      ⟨s.currSeqs .activity + 1, input, s.nextPromise, false⟩ := Function.update_self _ _ _
  have isTask : (s.activityCreated input).tasks s.nextFut = some ⟨.activity, .start, false, 0⟩ :=
    Function.update_self _ _ _
  have scheduled := Extended.scheduled (t := s.nextFut) created isOpen
    ⟨_, isTask, rfl⟩ (fun isMade => ?_) (fun task isTask' => ?_) (fun o bound owner owes => ?_) backoff
  · exact ⟨_, { scheduled with }⟩
  · rw [handle] at isMade
    exact absurd (books.activities.bound _ isMade) (Nat.not_succ_le_self _)
  · rw [isTask, Option.some.injEq] at isTask'
    rw [← isTask']
    rfl
  · obtain ⟨task, isTask', stands⟩ := created.woken.outer o bound
    rw [owner, isTask, Option.some.injEq] at isTask'
    subst isTask'
    cases (stands rfl).2.2 owes.live

/-- The books are in order and no call has been made. -/
theorem Extended.of_books (books : Books made begun s') (commands : calls s'.commands = calls s.commands)
    (awaits : s'.awaits = s.awaits) : Extended made begun s [] s' where
  books := books.congr (by simp)
  commands := by simpa using commands
  awaits := fun call => by simp [awaits]
  distinct := List.nodup_nil
  fresh := by simp

/-- `outbound_start_activity` returns the handle. -/
theorem Extended.returned {new : List Call} (h : Extended made begun s new s') (t : FutId) :
    Extended made begun s new (s'.log (.activityHandle t)) := by
  have moves : Moves [.issue] s' (s'.log (.activityHandle t)) := .of_atom (by simp) (.returned s' t)
  have calls : SameCalls s' (s'.log (.activityHandle t)) :=
    .loose (fun _ _ _ => .rfl) rfl rfl rfl rfl rfl rfl rfl rfl rfl rfl
  have books := h.books
  exact { h with
    books := {
      toSound := books.toSound.moves moves (by simp [Kind.spares])
      activities := books.activities.foreign ⟨calls, .same rfl rfl fun _ => id, .of_eq rfl⟩
      children := books.children.same calls
      signals := books.signals.same calls
      cancels := books.cancels.moves moves books.wf (by simp) }
    awaits := fun call => by rw [calls.awaits, h.awaits] }

theorem Extended.startActivity (books : Books made begun s) (det : Details σ)
    {input : StartActivityInput} (valid : validRetryPolicy input.retryPolicy = true) :
    ∃ new, Extended made begun s new (workflowStartActivity det input s).2 := by
  have refused : ∃ new, Extended made begun s new s := ⟨[], .refl books⟩
  have guarded : ∃ r, startActivityGuard input s = (r, s) := by
    unfold startActivityGuard
    split
    · exact ⟨_, rfl⟩
    · exact ⟨_, assertNotReadOnly_run ..⟩
  obtain ⟨r, guarded⟩ := guarded
  cases r with
  | error e =>
    rw [workflowStartActivity, bind_error guarded]
    exact refused
  | ok u =>
    rw [workflowStartActivity, bind_ok guarded]
    unfold outboundScheduleActivity
    split
    · exact refused
    · have run := newActivityHandle_run input s
      cases readOnly : s.readOnly with
      | true =>
        rw [if_pos readOnly] at run
        rw [bind_error (bind_error run)]
        exact refused
      | false =>
        cases deleting : s.deleting with
        | true =>
          rw [if_neg (by simp [readOnly]), if_pos deleting] at run
          rw [bind_error (bind_error run)]
          exact ⟨[], .of_books (books.activityMade valid
            (.strayActivity s input deleting readOnly)) rfl rfl⟩
        | false =>
          rw [if_neg (by simp [readOnly]), if_neg (by simp [deleting])] at run
          have isOpen : s.open = true := by simp [Inst.open, deleting, readOnly]
          obtain ⟨created, new, scheduled⟩ := Extended.newActivity books isOpen valid none
          have isActivity : (s.activityCreated input).ofRoot s.nextFut .activity :=
            ⟨_, Function.update_self .., rfl⟩
          rw [bind_assoc, bind_ok run, bind_assoc, state_bind_run, bind_assoc]
          rcases applyScheduleCommand_cases det none
            (created.activities.valid s.nextFut isActivity) (s.activityCreated input) with
            ⟨e, refused⟩ | ⟨-, added⟩
          · rw [bind_error refused]
            exact ⟨[], .of_books created rfl rfl⟩
          · rw [bind_ok added]
            exact ⟨new, scheduled.returned s.nextFut⟩

/-! ### Child workflows -/

theorem Books.childSeqTaken (books : Books made begun s) : Books made begun s.childSeqTaken := by
  have moves : Moves [.issue] s s.childSeqTaken := .of_atom (by simp) (.childSeq s)
  have grow : PromisesGrow s s.childSeqTaken := ⟨Nat.le_refl _, fun _ _ => rfl⟩
  exact {
    toSound := books.toSound.moves moves (by simp [Kind.spares])
    activities := books.activities.grown books.owned grow (fun _ => .rfl) (fun _ _ isTask _ => isTask)
      rfl rfl rfl rfl rfl (fun _ => id) fun x p _ h => by cases x <;> exact h
    children := books.children.grown books.owned grow (fun _ => id) (fun _ _ => rfl)
      (by simp [Inst.childSeqTaken]) rfl
    signals := books.signals.grown books.owned grow rfl rfl
    cancels := books.cancels.moves moves books.wf (by simp) }

theorem Books.childMade (books : Books made begun s) {input : StartChildWorkflowInput}
    {callbacks : List Callback} {registered : List FutId}
    (atom : Atom .issue s (s.childMade input callbacks registered)) :
    Books made begun (s.childMade input callbacks registered) := by
  have moves : Moves [.issue] s (s.childMade input callbacks registered) := .of_atom (by simp) atom
  have grow : PromisesGrow s (s.childMade input callbacks registered) := by
    refine ⟨Nat.le_add_right _ 2, fun p bound => ?_⟩
    simp [Inst.childMade, Nat.ne_of_lt bound, Nat.ne_of_lt (bound.trans (Nat.lt_succ_self _))]
  have isOld {t : FutId} {root : Root} (h : s.ofRoot t root) : t ≠ s.nextFut := by
    obtain ⟨task, isTask, -⟩ := h
    exact Nat.ne_of_lt (books.wf.task t task isTask).1
  have isChild (c : FutId) : (s.childMade input callbacks registered).ofRoot c .child ↔
      c = s.nextFut ∨ c ≠ s.nextFut ∧ s.ofRoot c .child := by
    rw [Inst.ofRoot_update (s := s) rfl]
    simp
  have new : (s.childMade input callbacks registered).children s.nextFut =
      ⟨s.currSeqs .childWorkflow, input, s.nextPromise, s.nextPromise + 1, "<unknown>"⟩ :=
    Function.update_self _ _ _
  have old {c : FutId} (other : c ≠ s.nextFut) :
      (s.childMade input callbacks registered).children c = s.children c :=
    Function.update_of_ne other _ _
  exact {
    toSound := books.toSound.moves moves (by simp [Kind.spares])
    activities := by
      refine books.activities.grown books.owned grow (fun t => Inst.ofRoot_made books.wf rfl (by simp))
        (fun t task isTask root => ?_) rfl rfl rfl rfl rfl
        (fun o member => (List.mem_append.mp member).resolve_right (by simp)) fun x p bound h => ?_
      · change Function.update s.tasks s.nextFut _ t = _ at isTask
        by_cases here : t = s.nextFut
        · rw [here, Function.update_self, Option.some.injEq] at isTask
          rw [← isTask] at root
          cases root
        · rwa [Function.update_of_ne here] at isTask
      · cases x with
        | activity t => exact ⟨(Inst.ofRoot_made books.wf rfl (by simp)).mp h.1, h.2⟩
        | childStart c =>
          obtain ⟨handle, isHeld⟩ := h
          rcases (isChild c).mp handle with rfl | ⟨other, handle⟩
          · rw [new] at isHeld
            exact absurd isHeld (Nat.ne_of_gt bound)
          · exact ⟨handle, old other ▸ isHeld⟩
        | childResult c =>
          obtain ⟨handle, isHeld⟩ := h
          rcases (isChild c).mp handle with rfl | ⟨other, handle⟩
          · rw [new] at isHeld
            exact absurd isHeld (Nat.ne_of_gt (bound.trans (Nat.lt_succ_self _)))
          · exact ⟨handle, old other ▸ isHeld⟩
        | signal seq => exact h
    children := books.children.grown books.owned grow
      (fun c handle => (isChild c).mpr (.inr ⟨isOld handle, handle⟩))
      (fun c handle => old (isOld handle)) (Nat.le_refl _) rfl
    signals := books.signals.grown books.owned grow rfl rfl
    cancels := books.cancels.moves moves books.wf (by simp) }

theorem Inst.awaits_childStarted (s : Inst σ) (c : FutId) (call : Call) :
    (s.childStarted c).awaits call = true ↔
      s.awaits call = true ∨ call = (.childWorkflow, (s.children c).seq) := by
  obtain ⟨kind, seq⟩ := call
  cases kind with
  | childWorkflow =>
    simp only [Prod.mk.injEq, true_and]
    exact isSome_update ..
  | _ => simp [Inst.awaits, Inst.childStarted]

theorem Extended.childStarted (books : Books made begun s) {c : FutId} (isOpen : s.open = true)
    (isChild : s.ofRoot c .child) (fresh : ¬made (.childWorkflow, (s.children c).seq))
    (start : (s.promises (s.children c).startFut).state = none)
    (result : (s.promises (s.children c).resultFut).state = none) :
    Extended made begun s [(.childWorkflow, (s.children c).seq)] (s.childStarted c) := by
  have moves : Moves [.issue] s (s.childStarted c) := .of_atom (by simp) (.startChild s c isOpen)
  have grow : PromisesGrow s (s.childStarted c) := ⟨Nat.le_refl _, fun _ _ => rfl⟩
  have entry {seq : Nat} {c' : FutId} (h : (s.childStarted c).pendingChildWorkflows seq = some c') :
      seq = (s.children c).seq ∧ c' = c ∨ s.pendingChildWorkflows seq = some c' := by
    change Function.update _ _ _ seq = _ at h
    by_cases here : seq = (s.children c).seq
    · rw [here, Function.update_self, Option.some.injEq] at h
      exact .inl ⟨here, h.symm⟩
    · rw [Function.update_of_ne here] at h
      exact .inr h
  have children : ChildBooks
      (fun seq => made (.childWorkflow, seq) ∨ seq = (s.children c).seq) begun
      (s.childStarted c) := by
    constructor
    · rintro seq (isMade | rfl)
      · exact books.children.bound seq isMade
      · exact books.owned.childBound c
    · intro seq c' h
      rcases entry h with ⟨rfl, rfl⟩ | old
      · exact ⟨isChild, rfl, result⟩
      · exact books.children.table seq c' old
    · intro seq c' h notBegun
      rcases entry h with ⟨rfl, rfl⟩ | old
      · exact start
      · exact books.children.unbegun seq c' old notBegun
  exact {
    books := {
      toSound := books.toSound.moves moves (by simp [Kind.spares])
      activities := by
        simpa using books.activities.grown books.owned grow (fun _ => .rfl)
          (fun _ _ isTask _ => isTask) rfl rfl rfl rfl rfl (fun _ => id)
          fun x p _ h => by cases x <;> exact h
      children := by simpa using children
      signals := by simpa using books.signals.grown books.owned grow rfl rfl
      cancels := by simpa using books.cancels.moves moves books.wf (by simp) }
    commands := by
      change Workflow.calls (s.commands ++ [_]) = _
      rw [calls_append]
      rfl
    awaits := fun call => by
      rw [Inst.awaits_childStarted]
      simp
    distinct := by simp
    fresh := fun call member => by
      rw [List.mem_singleton.mp member]
      exact fresh }

/-- A start command is added, unless nothing is changed at all. -/
theorem applyStartCommand_cases (det : Details σ) {h : ChildWorkflowHandle}
    (valid : h.input.valid det = true) (s : Inst σ) :
    (∃ e, applyStartCommand det h s = (.error e, s)) ∨ s.open = true ∧
      applyStartCommand det h s = (.ok (), s.pushCommand (.startChildWorkflowExecution h.seq)) := by
  rw [applyStartCommand_eq]
  cases converted : convertArgs det h.input.args s with
  | mk result s₁ =>
    have same := convertArgs_steady (R := Eq) det h.input.args s
    rw [converted] at same
    subst same
    cases result with
    | error e => exact .inl ⟨e, bind_error converted⟩
    | ok payloads =>
      rw [bind_ok converted]
      cases isOpen : s.open with
      | false =>
        obtain ⟨e, refused⟩ := addCommand_closed (c := .startChildWorkflowExecution h.seq) isOpen
        exact .inl ⟨e, bind_error refused⟩
      | true =>
        obtain ⟨result, applied, isValid⟩ := convertRest_run det h.input
          (s.pushCommand (.startChildWorkflowExecution h.seq))
        rw [isValid valid] at applied
        exact .inr ⟨rfl, (bind_ok (addCommand_open isOpen)).trans applied⟩

/-- The coroutine of a task that is no activity goes on to wait. -/
theorem Extended.awaits_own {new : List Call} {s₁ : Inst σ} {t : FutId}
    (h : Extended made begun s new s₁) (coded : s₁.coded t) (moves : Moves [.own t] s₁ s') :
    Extended made begun s new s' := by
  refine h.foreign moves (by simp [Kind.foreign]) ?_
  rintro k member t' own
  rw [List.mem_singleton.mp member] at own
  rcases own with own | own | own <;> cases own
  exact coded

/-- A handle that has just been made has a number that no command carries. -/
theorem Extended.newChild (books : Books made begun s) (isOpen : s.open = true)
    (input : StartChildWorkflowInput) :
    Books made begun (s.childSeqTaken.childCreated input) ∧
      ∃ new, Extended made begun s new ((s.childSeqTaken.childCreated input).childStarted s.nextFut) := by
  have created : Books made begun (s.childSeqTaken.childCreated input) :=
    books.childSeqTaken.childMade (.newChild s.childSeqTaken input isOpen)
  refine ⟨created, ?_⟩
  have handle : (s.childSeqTaken.childCreated input).children s.nextFut =
      ⟨s.currSeqs .childWorkflow + 1, input, s.nextPromise, s.nextPromise + 1, "<unknown>"⟩ := by
    simp [Inst.childCreated, Inst.childMade, Inst.childSeqTaken]
  have started := Extended.childStarted (c := s.nextFut) created isOpen
    ⟨_, Function.update_self .., rfl⟩ (fun isMade => ?_) ?_ ?_
  · exact ⟨_, { started with }⟩
  · rw [handle] at isMade
    exact absurd (books.children.bound _ isMade) (Nat.not_succ_le_self _)
  · rw [handle]
    simp [Inst.childCreated, Inst.childMade, Inst.childSeqTaken]
  · rw [handle]
    simp [Inst.childCreated, Inst.childMade, Inst.childSeqTaken]

theorem Extended.startChild (books : Books made begun s) (det : Details σ) {t : FutId}
    (coded : s.coded t) {input : StartChildWorkflowInput} (valid : input.valid det = true) :
    ∃ new, Extended made begun s new (outboundStartChildWorkflow det t input s).2 := by
  have run := newChildWorkflowHandle_run input s
  unfold outboundStartChildWorkflow
  cases readOnly : s.readOnly with
  | true =>
    rw [if_pos readOnly] at run
    rw [bind_error run]
    exact ⟨[], .of_books books.childSeqTaken rfl rfl⟩
  | false =>
    cases deleting : s.deleting with
    | true =>
      rw [if_neg (by simp [readOnly]), if_pos deleting] at run
      rw [bind_error run]
      exact ⟨[], .of_books (books.childSeqTaken.childMade
        (.strayChild s.childSeqTaken input deleting readOnly)) rfl rfl⟩
    | false =>
      rw [if_neg (by simp [readOnly]), if_neg (by simp [deleting])] at run
      have isOpen : s.open = true := by simp [Inst.open, deleting, readOnly]
      obtain ⟨created, new, started⟩ := Extended.newChild books isOpen input
      have moves : Moves [.issue] s ((s.childSeqTaken.childCreated input).childStarted s.nextFut) := by
        have seq : Moves [.issue] s s.childSeqTaken := .of_atom (by simp) (.childSeq s)
        have child : Moves [.issue] s.childSeqTaken (s.childSeqTaken.childCreated input) :=
          .of_atom (by simp) (.newChild s.childSeqTaken input isOpen)
        have start : Moves [.issue] (s.childSeqTaken.childCreated input) _ :=
          .of_atom (by simp) (.startChild _ s.nextFut isOpen)
        exact seq.trans (child.trans start)
      have given : ((s.childSeqTaken.childCreated input).children s.nextFut).input.valid det = true := by
        simpa [Inst.childCreated, Inst.childMade, Inst.childSeqTaken] using valid
      rw [bind_ok run, state_bind_run]
      rcases applyStartCommand_cases det given (s.childSeqTaken.childCreated input) with
        ⟨e, refused⟩ | ⟨-, added⟩
      · rw [bind_error refused]
        exact ⟨[], .of_books created rfl rfl⟩
      · rw [bind_ok added]
        exact ⟨new, started.awaits_own (moves.coded books.wf coded)
          (startChildLoop_moves (by simp) s.nextFut _)⟩

/-! ### External workflows -/

/-- A guard either lets the rest run or leaves the state alone. -/
theorem guarded {α : Type} {action : String} {x : Unit → Wf σ α} {P : Inst σ → Prop} (closed : P s)
    (rest : s.open = true → P (x () s).2) : P ((assertNotReadOnly action false >>= x) s).2 := by
  cases isOpen : s.open with
  | false =>
    obtain ⟨e, refused⟩ := guard_closed action isOpen
    rw [bind_error refused]
    exact closed
  | true =>
    rw [bind_ok (guard_run isOpen)]
    exact rest isOpen

theorem Extended.signalled (books : Books made begun s) (isOpen : s.open = true) :
    Extended made begun s [(.externalSignal, s.currSeqs .externalSignal + 1)] s.signalled := by
  have moves : Moves [.issue] s s.signalled := .of_atom (by simp) (.signal s isOpen)
  have grow : PromisesGrow s s.signalled :=
    ⟨Nat.le_succ _, fun p bound => by simp [Inst.signalled, Nat.ne_of_lt bound]⟩
  have signals : SignalBooks
      (fun seq => made (.externalSignal, seq) ∨ seq = s.currSeqs .externalSignal + 1)
      s.signalled := by
    constructor
    · rintro seq (isMade | rfl)
      · simp only [Inst.signalled, Function.update_self]
        exact (books.signals.bound seq isMade).trans (Nat.le_succ _)
      · simp [Inst.signalled]
    · intro seq p entry
      change Function.update _ _ _ seq = _ at entry
      by_cases here : seq = s.currSeqs .externalSignal + 1
      · rw [here, Function.update_self, Option.some.injEq] at entry
        simp [Inst.signalled, ← entry]
      · rw [Function.update_of_ne here] at entry
        rw [grow.states p (books.owned.bound (.signal seq) p entry)]
        exact books.signals.table seq p entry
  exact {
    books := {
      toSound := books.toSound.moves moves (by simp [Kind.spares])
      activities := by
        have grown := books.activities.grown books.owned grow (fun _ => .rfl)
          (fun _ _ isTask _ => isTask) rfl rfl rfl rfl rfl (fun _ => id) fun x p bound h => ?_
        · simpa using grown
        · cases x with
          | signal seq =>
            change Function.update _ _ _ seq = _ at h
            by_cases here : seq = s.currSeqs .externalSignal + 1
            · rw [here, Function.update_self, Option.some.injEq] at h
              exact absurd h (Nat.ne_of_gt bound)
            · rw [Function.update_of_ne here] at h
              exact h
          | _ => exact h
      children := by
        simpa using books.children.grown books.owned grow (fun _ => id) (fun _ _ => rfl)
          (by simp [Inst.signalled]) rfl
      signals := by simpa using signals
      cancels := by simpa using books.cancels.moves moves books.wf (by simp) }
    commands := by
      change Workflow.calls (s.commands ++ [_]) = _
      rw [calls_append]
      rfl
    awaits := fun call => by
      obtain ⟨kind, seq⟩ := call
      cases kind with
      | externalSignal =>
        simp only [List.mem_singleton, Prod.mk.injEq, true_and]
        exact isSome_update ..
      | _ => simp [Inst.awaits, Inst.signalled]
    distinct := by simp
    fresh := fun call member isMade => by
      rw [List.mem_singleton.mp member] at isMade
      exact absurd (books.signals.bound _ isMade) (Nat.not_succ_le_self _) }

theorem Extended.signalExternal (books : Books made begun s) (det : Details σ) {t : FutId}
    (coded : s.coded t) (ofChild : Bool) (args : List Obj) :
    ∃ new, Extended made begun s new (signalExternalWorkflow det t ofChild args s).2 := by
  refine guarded (P := fun s' => ∃ new, Extended made begun s new s') ⟨[], .refl books⟩ fun isOpen => ?_
  cases converted : convertArgs det args s with
  | mk result s₁ =>
    have same := convertArgs_steady (R := Eq) det args s
    rw [converted] at same
    subst same
    cases result with
    | error e =>
      rw [bind_error converted]
      exact ⟨[], .refl books⟩
    | ok payloads =>
      rw [bind_ok converted, state_bind_run, bind_ok (addCommand_open isOpen), bind_ok (by rfl),
        bind_ok (by rfl), update_bind_run]
      exact ⟨_, (Extended.signalled books isOpen).awaits_own coded
        (awaitShield_moves (by simp) _ (by simp) (fun _ => rfl) _)⟩

theorem Extended.cancelRequestSent (books : Books made begun s) (isOpen : s.open = true) :
    Extended made begun s [(.externalCancel, s.currSeqs .externalCancel + 1)]
      s.cancelRequestSent := by
  have moves : Moves [.issue] s s.cancelRequestSent := .of_atom (by simp) (.cancelExternal s isOpen)
  have grow : PromisesGrow s s.cancelRequestSent := ⟨Nat.le_refl _, fun _ _ => rfl⟩
  have cancels : CancelBooks
      (fun seq => made (.externalCancel, seq) ∨ seq = s.currSeqs .externalCancel + 1)
      s.cancelRequestSent := by
    have requested := books.cancels.requested books.wf
    refine ⟨?_, requested.table⟩
    rintro seq (isMade | rfl)
    · exact requested.bound seq isMade
    · simp [Inst.cancelRequestSent]
  exact {
    books := {
      toSound := books.toSound.moves moves (by simp [Kind.spares])
      activities := by
        simpa using books.activities.grown books.owned grow (fun _ => .rfl)
          (fun _ _ isTask _ => isTask) rfl rfl rfl rfl rfl (fun _ => id)
          fun x p _ h => by cases x <;> exact h
      children := by
        simpa using books.children.grown books.owned grow (fun _ => id) (fun _ _ => rfl)
          (by simp [Inst.cancelRequestSent]) rfl
      signals := by simpa using books.signals.grown books.owned grow rfl rfl
      cancels := by simpa using cancels }
    commands := by
      change Workflow.calls (s.commands ++ [_]) = _
      rw [calls_append]
      rfl
    awaits := fun call => by
      obtain ⟨kind, seq⟩ := call
      cases kind with
      | externalCancel =>
        simp only [List.mem_singleton, Prod.mk.injEq, true_and]
        exact isSome_update ..
      | _ => simp [Inst.awaits, Inst.cancelRequestSent]
    distinct := by simp
    fresh := fun call member isMade => by
      rw [List.mem_singleton.mp member] at isMade
      exact absurd (books.cancels.bound _ isMade) (Nat.not_succ_le_self _) }

theorem Extended.cancelExternal (books : Books made begun s) {t : FutId} (coded : s.coded t) :
    ∃ new, Extended made begun s new (cancelExternalWorkflow t s).2 := by
  refine guarded (P := fun s' => ∃ new, Extended made begun s new s') ⟨[], .refl books⟩ fun isOpen => ?_
  rw [state_bind_run, bind_ok (addCommand_open isOpen), bind_ok (by rfl), bind_ok (by rfl),
    update_bind_run]
  exact ⟨_, (Extended.cancelRequestSent books isOpen).awaits_own coded
    (Steady.bind (suspendOn_moves (by simp) (by simp) (by simp [Point.waiter]) _)
      (fun _ => .pure _) _)⟩

end TemporalSdk.Workflow
