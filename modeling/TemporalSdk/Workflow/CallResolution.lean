import TemporalSdk.Workflow.CallIssue

/-!
# Resolving outbound calls

The jobs with which core answers the calls. Each takes its entry from the table
and completes the future that the entry led to; a backoff leaves the handle of
the activity with a number and a result future that nothing else has seen.
-/
namespace TemporalSdk.Workflow

open Eff

variable {σ : Type} {s s' : Inst σ} {made : Call → Prop} {begun begun' : Nat → Prop}

/-! ### Entries are removed -/

theorem entry_of_popped {α : Type} {table : Nat → Option α} {seq seq' : Nat} {a : α}
    (h : Function.update table seq none seq' = some a) : seq' ≠ seq ∧ table seq' = some a := by
  by_cases here : seq' = seq
  · rw [here, Function.update_self] at h
    cases h
  · rw [Function.update_of_ne here] at h
    exact ⟨here, h⟩

def Inst.activityPopped (s : Inst σ) (seq : Nat) : Inst σ :=
  { s with pendingActivities := Function.update s.pendingActivities seq none }

def Inst.childPopped (s : Inst σ) (seq : Nat) : Inst σ :=
  { s with pendingChildWorkflows := Function.update s.pendingChildWorkflows seq none }

def Inst.signalPopped (s : Inst σ) (seq : Nat) : Inst σ :=
  { s with pendingExternalSignals := Function.update s.pendingExternalSignals seq none }

def Inst.cancelPopped (s : Inst σ) (seq : Nat) : Inst σ :=
  { s with pendingExternalCancels := Function.update s.pendingExternalCancels seq none }

/-- Entries go and nothing else changes. -/
theorem Books.shrunk (books : Books made begun s) (moves : Moves [.resolve] s s')
    (activities : ∀ seq t, s'.pendingActivities seq = some t → s.pendingActivities seq = some t)
    (childWorkflows : ∀ seq c, s'.pendingChildWorkflows seq = some c →
      s.pendingChildWorkflows seq = some c)
    (signals : ∀ seq p, s'.pendingExternalSignals seq = some p →
      s.pendingExternalSignals seq = some p)
    (cancels : ∀ seq f, s'.pendingExternalCancels seq = some f →
      s.pendingExternalCancels seq = some f)
    (tasks : s'.tasks = s.tasks) (handles : s'.activities = s.activities)
    (children : s'.children = s.children) (seqs : s'.currSeqs = s.currSeqs)
    (promises : s'.promises = s.promises) (nextPromise : s'.nextPromise = s.nextPromise)
    (outers : s'.outers = s.outers) (nextOuter : s'.nextOuter = s.nextOuter)
    (ready : s'.ready = s.ready) (futs : s'.futs = s.futs) : Books made begun s' := by
  have roots (t : FutId) (root : Root) : s'.ofRoot t root ↔ s.ofRoot t root := by
    simp only [Inst.ofRoot, tasks]
  have counted (kind : SeqKind) : s.currSeqs kind ≤ s'.currSeqs kind := by rw [seqs]
  refine ⟨books.toSound.moves moves (by simp [Kind.spares]), ?_, ?_, ?_, ?_⟩
  · refine books.activities.mono books.owned (fun t => roots t _)
      (fun t task isTask root => ⟨task, tasks ▸ isTask, root, rfl⟩) handles (counted _) activities
      outers nextOuter (fun o => ready ▸ id) (Nat.le_of_eq nextPromise.symm) (fun x p _ h => ?_)
      fun p _ => .inl (by rw [promises])
    cases x with
    | activity t => exact ⟨(roots t _).mp h.1, handles ▸ h.2⟩
    | childStart t => exact ⟨(roots t _).mp h.1, children ▸ h.2⟩
    | childResult t => exact ⟨(roots t _).mp h.1, children ▸ h.2⟩
    | signal seq => exact signals seq p h
  · exact books.children.mono (fun c => (roots c _).mpr)
      (fun c _ => by rw [children]; exact ⟨rfl, rfl, rfl⟩) (counted _) childWorkflows
      (fun _ _ _ => by rw [promises]) fun _ _ _ notBegun => ⟨notBegun, by rw [promises]⟩
  · exact books.signals.mono (counted _) signals fun _ _ _ => by rw [promises]
  · exact books.cancels.same (by rw [seqs]) cancels (.of_eq futs)

theorem Books.activityPopped (books : Books made begun s) (seq : Nat) :
    Books made begun (s.activityPopped seq) :=
  books.shrunk (.of_atom (by simp) (.popActivity s seq)) (fun _ _ h => (entry_of_popped h).2)
    (fun _ _ => id) (fun _ _ => id) (fun _ _ => id) rfl rfl rfl rfl rfl rfl rfl rfl rfl rfl

theorem Books.childPopped (books : Books made begun s) (seq : Nat) :
    Books made begun (s.childPopped seq) :=
  books.shrunk (.of_atom (by simp) (.popChild s seq)) (fun _ _ => id)
    (fun _ _ h => (entry_of_popped h).2) (fun _ _ => id) (fun _ _ => id) rfl rfl rfl rfl rfl rfl rfl
    rfl rfl rfl

theorem Books.signalPopped (books : Books made begun s) (seq : Nat) :
    Books made begun (s.signalPopped seq) :=
  books.shrunk (.of_atom (by simp) (.popSignal s seq)) (fun _ _ => id) (fun _ _ => id)
    (fun _ _ h => (entry_of_popped h).2) (fun _ _ => id) rfl rfl rfl rfl rfl rfl rfl rfl rfl rfl

theorem Books.cancelPopped (books : Books made begun s) (seq : Nat) :
    Books made begun (s.cancelPopped seq) :=
  books.shrunk (.of_atom (by simp) (.popCancel s seq)) (fun _ _ => id) (fun _ _ => id)
    (fun _ _ => id) (fun _ _ h => (entry_of_popped h).2) rfl rfl rfl rfl rfl rfl rfl rfl rfl rfl

/-! ### Promises are completed -/

theorem Inst.fulfilled_states (s : Inst σ) (p : PromiseId) (outcome : PromiseOutcome) :
    ((s.fulfilled p outcome).promises p).state = some outcome ∧
      ∀ p', p' ≠ p → (s.fulfilled p outcome).promises p' = s.promises p' := by
  constructor
  · simp [Inst.fulfilled, Inst.setPromise, Inst.pushAll]
  · intro p' other
    simp [Inst.fulfilled, Inst.setPromise, Inst.pushAll, other]

theorem Inst.fulfilled_wakeups {s : Inst σ} {p : PromiseId} {outcome : PromiseOutcome} {o : OuterId}
    (member : .outerWakeup o ∈ (s.fulfilled p outcome).ready) : .outerWakeup o ∈ s.ready := by
  refine (List.mem_append.mp member).resolve_right ?_
  split <;> simp

/-- A promise is completed that no entry leads to any more, and no child workflow
counts on as its start. -/
theorem Books.fulfilled (books : Books made begun s) {p : PromiseId} {outcome : PromiseOutcome}
    (pending : (s.promises p).state = none) (plain : ∀ b, outcome ≠ .backoff b)
    (activity : ∀ t, s.Holds (.activity t) p → made (.activity, (s.activities t).seq) ∧
      ∀ seq, s.pendingActivities seq ≠ some t)
    (result : ∀ seq c, s.pendingChildWorkflows seq = some c → (s.children c).resultFut ≠ p)
    (start : ∀ seq c, s.pendingChildWorkflows seq = some c → ¬begun' seq →
      ¬begun seq ∧ (s.children c).startFut ≠ p)
    (signal : ∀ seq, s.pendingExternalSignals seq ≠ some p) :
    Books made begun' (s.fulfilled p outcome) := by
  have moves : Moves [.resolve] s (s.fulfilled p outcome) :=
    .of_atom (by simp) (.fulfill s pending outcome)
  obtain ⟨isOutcome, others⟩ := s.fulfilled_states p outcome
  refine ⟨books.toSound.moves moves (by simp [Kind.spares]), ?_, ?_, ?_, ?_⟩
  · refine books.activities.mono books.owned (fun _ => .rfl)
      (fun t task isTask root => ⟨task, isTask, root, rfl⟩) rfl (Nat.le_refl _) (fun _ _ => id) rfl rfl
      (fun _ => Inst.fulfilled_wakeups) (Nat.le_refl _)
      (fun x _ _ h => by cases x <;> exact h) fun p' _ => ?_
    by_cases here : p' = p
    · subst here
      refine .inr ⟨fun b => ?_, activity⟩
      rw [isOutcome, ne_eq, Option.some.injEq]
      exact plain b
    · exact .inl (by rw [others p' here])
  · exact books.children.mono (fun _ => id) (fun _ _ => ⟨rfl, rfl, rfl⟩) (Nat.le_refl _)
      (fun _ _ => id) (fun seq c entry => by rw [others _ (result seq c entry)])
      fun seq c entry notBegun => ⟨(start seq c entry notBegun).1,
        by rw [others _ (start seq c entry notBegun).2]⟩
  · refine books.signals.mono (Nat.le_refl _) (fun _ _ => id) fun seq p' entry => ?_
    rw [others p' fun same => signal seq (same ▸ entry)]
  · exact books.cancels.same rfl (fun _ _ => id) (.of_eq rfl)

theorem setPromiseOutcome_ok {p : PromiseId} {outcome : PromiseOutcome} {u : Unit}
    (run : setPromiseOutcome p outcome s = (.ok u, s')) :
    (s.promises p).state = none ∧ s' = s.fulfilled p outcome := by
  rw [setPromiseOutcome_run] at run
  split at run
  · cases run
  next pending =>
    rw [Prod.mk.injEq] at run
    exact ⟨by simpa using pending, run.2.symm⟩

theorem resolvedValue_ok {det : Details σ} {result : Option Payload} {ty : Option PyType} {v : Obj}
    (run : resolvedValue det result ty s = (.ok v, s')) : s' = s := by
  have same := resolvedValue_steady (R := Eq) det result ty s
  rw [run] at same
  exact same.symm

theorem resolvedThen_ok {det : Details σ} {result : Option Payload} {ty : Option PyType}
    {p : PromiseId} {u : Unit} (run : (do
      let v ← resolvedValue det result ty
      setPromiseOutcome p (.result v)) s = (.ok u, s')) :
    ∃ v, setPromiseOutcome p (.result v) s = (.ok u, s') := by
  rw [bind_run] at run
  cases value : resolvedValue det result ty s with
  | mk r s₁ =>
    rw [value] at run
    cases r with
    | error e => cases run
    | ok v =>
      obtain rfl := resolvedValue_ok value
      exact ⟨v, run⟩

/-- What is converted before the rest runs has converted. -/
theorem convertedThen_ok {α β : Type} {x : Except Error α} {f : α → Wf σ β} {b : β}
    (run : (raiseError x >>= f) s = (.ok b, s')) : ∃ a, f a s = (.ok b, s') := by
  cases x with
  | ok a => exact ⟨a, run⟩
  | error e => cases run

/-! ### Answers -/

/-- The child workflow that a job reports as started. -/
def Job.begins? : Job → Option Nat
  | .resolveChildWorkflowExecutionStart seq (.succeeded _) => some seq
  | _ => none

/-- A job that ends a call found its entry and took it away. -/
structure Answered (made : Call → Prop) (begun : Nat → Prop) (s : Inst σ) (job : Job)
    (s' : Inst σ) : Prop where
  books : Books made (fun seq => begun seq ∨ job.begins? = some seq) s'
  commands : calls s'.commands = calls s.commands
  held : ∀ call, job.ends? = some call → s.awaits call = true
  awaits : ∀ call, s'.awaits call = true ↔ s.awaits call = true ∧ job.ends? ≠ some call

/-! ### Activities -/

theorem isSome_update_none {α : Type} (table : Nat → Option α) (seq seq' : Nat) :
    (Function.update table seq none seq').isSome = true ↔
      (table seq').isSome = true ∧ seq' ≠ seq := by
  by_cases here : seq' = seq <;> simp [here]

theorem Inst.awaits_activityPopped (s : Inst σ) (seq : Nat) (call : Call) :
    (s.activityPopped seq).awaits call = true ↔
      s.awaits call = true ∧ some (CallKind.activity, seq) ≠ some call := by
  obtain ⟨kind, seq'⟩ := call
  cases kind with
  | activity =>
    have other : some (CallKind.activity, seq) ≠ some (CallKind.activity, seq') ↔ seq' ≠ seq := by
      simp [eq_comm]
    rw [other]
    exact isSome_update_none ..
  | _ => simp [Inst.awaits, Inst.activityPopped]

/-- The result future of an activity that has lost its entry is completed. -/
theorem Books.activityAnswered (books : Books made begun s) {t : FutId}
    (isActivity : s.ofRoot t .activity) (isMade : made (.activity, (s.activities t).seq))
    (gone : ∀ seq, s.pendingActivities seq ≠ some t) {outcome : PromiseOutcome}
    (pending : (s.promises (s.activities t).resultFut).state = none)
    (plain : ∀ b, outcome ≠ .backoff b) :
    Books made begun (s.fulfilled (s.activities t).resultFut outcome) := by
  have mine : s.Holds (.activity t) (s.activities t).resultFut := ⟨isActivity, rfl⟩
  refine books.fulfilled pending plain (fun t' held => ?_) (fun seq c entry same => ?_)
    (fun seq c entry notBegun => ⟨notBegun, fun same => ?_⟩) fun seq entry => ?_
  · have same : t' = t := by simpa using books.owned.only _ _ _ held mine
    exact same ▸ ⟨isMade, gone⟩
  · cases books.owned.only (.childResult c) _ _ ⟨(books.children.table seq c entry).1, same⟩ mine
  · cases books.owned.only (.childStart c) _ _ ⟨(books.children.table seq c entry).1, same⟩ mine
  · cases books.owned.only (.signal seq) _ _ entry mine

/-- The state after `_resolve_backoff`. -/
def Inst.activityBackedOff (s : Inst σ) (t : FutId) (b : DoBackoff) : Inst σ :=
  { s with
    currSeqs := Function.update s.currSeqs .activity (s.currSeqs .activity + 1)
    promises := Function.update
      (Function.update s.promises (s.activities t).resultFut ⟨some (.backoff b), []⟩) s.nextPromise
      ⟨none, []⟩
    nextPromise := s.nextPromise + 1
    ready := s.ready ++
      if s.readOnly then [] else (s.promises (s.activities t).resultFut).shields.map .shieldInner
    activities := Function.update s.activities t
      { s.activities t with
        seq := s.currSeqs .activity + 1, resultFut := s.nextPromise, started := false } }

theorem Inst.activityBackedOff_eq (s : Inst σ) (t : FutId) (b : DoBackoff) :
    ((s.reseqed t).fulfilled (s.activities t).resultFut (.backoff b)).backedOff t =
      s.activityBackedOff t b := by
  simp [Inst.activityBackedOff, Inst.backedOff, Inst.fulfilled, Inst.reseqed, Inst.setPromise,
    Inst.pushAll]
  rfl

section BackedOff

variable {t : FutId} {b : DoBackoff}

theorem Inst.activityBackedOff_mine : (s.activityBackedOff t b).activities t =
    { s.activities t with
      seq := s.currSeqs .activity + 1, resultFut := s.nextPromise, started := false } := by
  simp [Inst.activityBackedOff]

theorem Inst.activityBackedOff_others {t' : FutId} (other : t' ≠ t) :
    (s.activityBackedOff t b).activities t' = s.activities t' := by
  simp [Inst.activityBackedOff, other]

theorem Inst.activityBackedOff_fresh :
    ((s.activityBackedOff t b).promises s.nextPromise).state = none := by
  simp [Inst.activityBackedOff]

theorem Inst.activityBackedOff_promises {p : PromiseId} (bound : p < s.nextPromise)
    (other : p ≠ (s.activities t).resultFut) :
    (s.activityBackedOff t b).promises p = s.promises p := by
  simp [Inst.activityBackedOff, Nat.ne_of_lt bound, other]

theorem Inst.activityBackedOff_seqs (kind : SeqKind) :
    s.currSeqs kind ≤ (s.activityBackedOff t b).currSeqs kind ∧
      (kind ≠ .activity → (s.activityBackedOff t b).currSeqs kind = s.currSeqs kind) := by
  by_cases here : kind = .activity
  · subst here
    simp [Inst.activityBackedOff]
  · simp [Inst.activityBackedOff, here]

theorem Inst.activityBackedOff_outers : (s.activityBackedOff t b).outers = s.outers ∧
    (s.activityBackedOff t b).nextOuter = s.nextOuter := ⟨rfl, rfl⟩

theorem Inst.activityBackedOff_roots {t' : FutId} {root : Root} :
    (s.activityBackedOff t b).ofRoot t' root ↔ s.ofRoot t' root := .rfl

theorem Inst.activityBackedOff_holds {x : Slot} {p : PromiseId} (bound : p < s.nextPromise)
    (held : (s.activityBackedOff t b).Holds x p) : s.Holds x p := by
  have children : (s.activityBackedOff t b).children = s.children := rfl
  have signals : (s.activityBackedOff t b).pendingExternalSignals = s.pendingExternalSignals := rfl
  cases x with
  | activity t' =>
    simp only [Inst.Holds, Inst.activityBackedOff_roots] at held ⊢
    by_cases here : t' = t
    · rw [here, Inst.activityBackedOff_mine] at held
      exact absurd held.2 (Nat.ne_of_gt bound)
    · rwa [Inst.activityBackedOff_others here] at held
  | childStart c => simpa only [Inst.Holds, Inst.activityBackedOff_roots, children] using held
  | childResult c => simpa only [Inst.Holds, Inst.activityBackedOff_roots, children] using held
  | signal seq => simpa only [Inst.Holds, signals] using held

theorem Inst.activityBackedOff_wakeups {o : OuterId}
    (member : .outerWakeup o ∈ (s.activityBackedOff t b).ready) : .outerWakeup o ∈ s.ready := by
  refine (List.mem_append.mp member).resolve_right ?_
  split <;> simp

/-- The new number and the new promise are nobody's yet. -/
theorem ActivityBooks.backedOff {made : Nat → Prop} (books : ActivityBooks made s) (owned : Owned s)
    (isActivity : s.ofRoot t .activity) (gone : ∀ seq, s.pendingActivities seq ≠ some t) :
    ActivityBooks made (s.activityBackedOff t b) := by
  have mine : s.Holds (.activity t) (s.activities t).resultFut := ⟨isActivity, rfl⟩
  have unused : ¬made (s.currSeqs .activity + 1) := fun isMade =>
    absurd (books.bound _ isMade) (Nat.not_succ_le_self _)
  obtain ⟨outers, nextOuter⟩ := Inst.activityBackedOff_outers (s := s) (t := t) (b := b)
  -- the promise belongs to this handle and to nobody else
  have others {t' : FutId} (isActivity' : s.ofRoot t' .activity) (other : t' ≠ t) :
      (s.activityBackedOff t b).promises (s.activities t').resultFut =
        s.promises (s.activities t').resultFut := by
    refine Inst.activityBackedOff_promises (owned.bound (.activity t') _ ⟨isActivity', rfl⟩)
      fun same => other ?_
    simpa using owned.only (.activity t') _ _ ⟨isActivity', same⟩ mine
  constructor
  · intro t' isActivity'
    by_cases here : t' = t
    · rw [here, Inst.activityBackedOff_mine]
      exact books.valid t isActivity
    · rw [Inst.activityBackedOff_others here]
      exact books.valid t' isActivity'
  · exact fun seq isMade => (books.bound seq isMade).trans (Inst.activityBackedOff_seqs _).1
  · intro seq t' entry
    obtain ⟨isActivity', isSeq, pending⟩ := books.table seq t' entry
    have other : t' ≠ t := fun same => gone seq (same ▸ entry)
    rw [Inst.activityBackedOff_others other, others isActivity' other]
    exact ⟨isActivity', isSeq, pending⟩
  · intro t' isActivity' unmade
    by_cases here : t' = t
    · rw [here, Inst.activityBackedOff_mine]
      exact Inst.activityBackedOff_fresh
    · rw [Inst.activityBackedOff_others here] at unmade ⊢
      rw [others isActivity' here]
      exact books.unmade t' isActivity' unmade
  · intro t' b' isActivity'
    by_cases here : t' = t
    · rw [here, Inst.activityBackedOff_mine, Inst.activityBackedOff_fresh]
      simp
    · rw [Inst.activityBackedOff_others here, others isActivity' here]
      exact books.noBackoff t' b' isActivity'
  · intro t' task isTask root sleeps
    by_cases here : t' = t
    · rw [here, Inst.activityBackedOff_mine]
      exact unused
    · rw [Inst.activityBackedOff_others here]
      exact books.asleep t' task isTask root sleeps
  · intro o bound isActivity' owes
    rw [outers, Inst.activityBackedOff_roots] at isActivity'
    rw [nextOuter] at bound
    simp only [Inst.owes, outers] at owes
    rw [outers]
    by_cases here : (s.outers o).owner = t
    · rw [here, Inst.activityBackedOff_mine]
      exact unused
    · rw [Inst.activityBackedOff_others here]
      refine books.waiting o bound isActivity' ?_
      obtain ⟨b', ⟨done, member⟩ | ⟨pending, p, source, state⟩⟩ := owes
      · exact ⟨b', .inl ⟨done, Inst.activityBackedOff_wakeups member⟩⟩
      · obtain ⟨lt, only⟩ := books.sources o bound p isActivity' pending source
        have notMine : p ≠ (s.activities t).resultFut := fun same => by
          have same := only (.activity t) (same ▸ mine)
          exact here (by simpa using same.symm)
        rw [Inst.activityBackedOff_promises lt notMine] at state
        exact ⟨b', .inr ⟨pending, p, source, state⟩⟩
  · intro o bound p isActivity' pending source
    rw [outers] at isActivity' pending source ⊢
    rw [Inst.activityBackedOff_roots] at isActivity'
    rw [nextOuter] at bound
    obtain ⟨lt, only⟩ := books.sources o bound p isActivity' pending source
    exact ⟨lt.trans (Nat.lt_succ_self _), fun x held =>
      only x (Inst.activityBackedOff_holds lt held)⟩

theorem Books.activityBackedOff (books : Books made begun s) (isActivity : s.ofRoot t .activity)
    (gone : ∀ seq, s.pendingActivities seq ≠ some t)
    (pending : (s.promises (s.activities t).resultFut).state = none) :
    Books made begun (s.activityBackedOff t b) := by
  have moves : Moves [.resolve] s (s.activityBackedOff t b) := by
    have reseqed : Moves [.resolve] s (s.reseqed t) := .of_atom (by simp) (.backoffSeq s t)
    have fulfilled : Moves [.resolve] (s.reseqed t) _ :=
      .of_atom (by simp) (.fulfill (s.reseqed t) pending (.backoff b))
    rw [← Inst.activityBackedOff_eq]
    exact reseqed.trans (fulfilled.trans (.of_atom (by simp) (.backoff _ t)))
  have mine : s.Holds (.activity t) (s.activities t).resultFut := ⟨isActivity, rfl⟩
  have apart {x : Slot} {p : PromiseId} (held : s.Holds x p) (other : x ≠ .activity t) :
      (s.activityBackedOff t b).promises p = s.promises p :=
    Inst.activityBackedOff_promises (books.owned.bound x p held) fun same =>
      other (books.owned.only _ _ _ (same ▸ held) mine)
  refine ⟨books.toSound.moves moves (by simp [Kind.spares]),
    books.activities.backedOff books.owned isActivity gone, ?_, ?_, ?_⟩
  · refine books.children.mono (fun _ => id) (fun _ _ => ⟨rfl, rfl, rfl⟩)
      (Inst.activityBackedOff_seqs _).1 (fun _ _ => id) (fun seq c entry => ?_)
      fun seq c entry notBegun => ⟨notBegun, ?_⟩
    · rw [apart (x := .childResult c) ⟨(books.children.table seq c entry).1, rfl⟩ (by simp)]
    · rw [apart (x := .childStart c) ⟨(books.children.table seq c entry).1, rfl⟩ (by simp)]
  · refine books.signals.mono (Inst.activityBackedOff_seqs _).1 (fun _ _ => id) fun seq p entry => ?_
    rw [apart (x := .signal seq) entry (by simp)]
  · exact books.cancels.same ((Inst.activityBackedOff_seqs _).2 (by simp)) (fun _ _ => id) (.of_eq rfl)

end BackedOff

/-- The answer to an activity is in the books. -/
theorem Answered.of_activity {job : Job} {seq : Nat} (ends : job.ends? = some (.activity, seq))
    (begins : job.begins? = none) (held : s.awaits (.activity, seq) = true)
    (books : Books made begun s') (commands : s'.commands = s.commands)
    (awaits : s'.awaits = (s.activityPopped seq).awaits) : Answered made begun s job s' where
  books := by simpa [begins] using books
  commands := by rw [commands]
  held := fun call isEnd => by
    rw [ends, Option.some.injEq] at isEnd
    exact isEnd ▸ held
  awaits := fun call => by rw [awaits, ends, Inst.awaits_activityPopped]

theorem activityResolveBackoff_ok {t : FutId} {b : DoBackoff} {u : Unit}
    (run : activityResolveBackoff t b s = (.ok u, s')) :
    (s.promises (s.activities t).resultFut).state = none ∧ s' = s.activityBackedOff t b := by
  rw [activityResolveBackoff, bind_ok (by rfl), state_bind_run, update_bind_run] at run
  change (setPromiseOutcome (s.activities t).resultFut (.backoff b) >>= fun _ => _) (s.reseqed t) = _
    at run
  rw [bind_run] at run
  cases settled : setPromiseOutcome (s.activities t).resultFut (.backoff b) (s.reseqed t) with
  | mk r s₁ =>
    rw [settled] at run
    cases r with
    | error e => cases run
    | ok u' =>
      obtain ⟨pending, rfl⟩ := setPromiseOutcome_ok settled
      rw [← Inst.activityBackedOff_eq]
      cases run
      exact ⟨pending, rfl⟩

theorem Answered.activity (books : Books made begun s)
    (issued : ∀ call, s.awaits call = true → made call) (det : Details σ) (seq : Nat)
    (result : ActivityResolution) (run : applyResolveActivity det seq result s = (.ok (), s')) :
    Answered made begun s (.resolveActivity seq result) s' := by
  simp only [applyResolveActivity, state_bind_run] at run
  cases entry : s.pendingActivities seq with
  | none =>
    rw [entry] at run
    cases run
  | some t =>
    rw [entry] at run
    change activityResolve det t (s.activities t) result (s.activityPopped seq) = _ at run
    have held : s.awaits (.activity, seq) = true := by simp [Inst.awaits, entry]
    obtain ⟨isActivity, isSeq, pending⟩ := books.activities.table seq t entry
    have isMade : made (.activity, (s.activities t).seq) := isSeq ▸ issued _ held
    have popped := books.activityPopped seq
    have gone (seq' : Nat) : (s.activityPopped seq).pendingActivities seq' ≠ some t := by
      intro h
      obtain ⟨other, entry'⟩ := entry_of_popped h
      exact other ((books.activities.table seq' t entry').2.1.symm.trans isSeq)
    have settled {outcome : PromiseOutcome} (plain : ∀ b, outcome ≠ .backoff b)
        (run : setPromiseOutcome (s.activities t).resultFut outcome (s.activityPopped seq) =
          (.ok (), s')) : Answered made begun s (.resolveActivity seq result) s' := by
      obtain ⟨-, rfl⟩ := setPromiseOutcome_ok run
      exact .of_activity rfl rfl held
        (popped.activityAnswered isActivity isMade gone pending plain) rfl rfl
    have failed {failure : Failure} (run : (raiseError (det.fromFailure failure) >>=
        (s.activities t).resolveFailure) (s.activityPopped seq) = (.ok (), s')) :
        Answered made begun s (.resolveActivity seq result) s' := by
      obtain ⟨e, run⟩ := convertedThen_ok run
      unfold ActivityHandle.resolveFailure at run
      split at run
      · exact settled (by simp) run
      · cases run
        exact .of_activity rfl rfl held popped rfl rfl
    cases result with
    | completed payload =>
      obtain ⟨v, run⟩ := resolvedThen_ok run
      exact settled (by simp) run
    | failed failure => exact failed run
    | cancelled failure => exact failed run
    | backoff b =>
      obtain ⟨-, rfl⟩ := activityResolveBackoff_ok run
      exact .of_activity rfl rfl held (popped.activityBackedOff isActivity gone pending) rfl rfl
    | unset => cases run

/-! ### Child workflows -/

theorem Inst.awaits_childPopped (s : Inst σ) (seq : Nat) (call : Call) :
    (s.childPopped seq).awaits call = true ↔
      s.awaits call = true ∧ some (CallKind.childWorkflow, seq) ≠ some call := by
  obtain ⟨kind, seq'⟩ := call
  cases kind with
  | childWorkflow =>
    have other : some (CallKind.childWorkflow, seq) ≠ some (CallKind.childWorkflow, seq') ↔
        seq' ≠ seq := by
      simp [eq_comm]
    rw [other]
    exact isSome_update_none ..
  | _ => simp [Inst.awaits, Inst.childPopped]

/-- The result future of a child workflow that has lost its entry is completed. -/
theorem Books.childResultSet (books : Books made begun s) {c : FutId} (isChild : s.ofRoot c .child)
    (gone : ∀ seq, s.pendingChildWorkflows seq ≠ some c) {outcome : PromiseOutcome}
    (pending : (s.promises (s.children c).resultFut).state = none)
    (plain : ∀ b, outcome ≠ .backoff b) :
    Books made begun (s.fulfilled (s.children c).resultFut outcome) := by
  have mine : s.Holds (.childResult c) (s.children c).resultFut := ⟨isChild, rfl⟩
  refine books.fulfilled pending plain (fun t held => ?_) (fun seq c' entry same => ?_)
    (fun seq c' entry notBegun => ⟨notBegun, fun same => ?_⟩) fun seq entry => ?_
  · cases books.owned.only _ _ _ held mine
  · have here : c' = c := by
      simpa using books.owned.only (.childResult c') _ _
        ⟨(books.children.table seq c' entry).1, same⟩ mine
    exact gone seq (here ▸ entry)
  · cases books.owned.only (.childStart c') _ _ ⟨(books.children.table seq c' entry).1, same⟩ mine
  · cases books.owned.only (.signal seq) _ _ entry mine

/-- The start future of a child workflow is completed, which has lost its entry or is
known to have started from now on. -/
theorem Books.childStartSet (books : Books made begun s) {c : FutId} (isChild : s.ofRoot c .child)
    (known : ∀ seq, s.pendingChildWorkflows seq = some c → begun' seq)
    (more : ∀ seq, begun seq → begun' seq) {outcome : PromiseOutcome}
    (pending : (s.promises (s.children c).startFut).state = none)
    (plain : ∀ b, outcome ≠ .backoff b) :
    Books made begun' (s.fulfilled (s.children c).startFut outcome) := by
  have mine : s.Holds (.childStart c) (s.children c).startFut := ⟨isChild, rfl⟩
  refine books.fulfilled pending plain (fun t held => ?_) (fun seq c' entry same => ?_)
    (fun seq c' entry notBegun => ⟨fun isBegun => notBegun (more seq isBegun), fun same => ?_⟩)
    fun seq entry => ?_
  · cases books.owned.only _ _ _ held mine
  · cases books.owned.only (.childResult c') _ _ ⟨(books.children.table seq c' entry).1, same⟩ mine
  · have here : c' = c := by
      simpa using books.owned.only (.childStart c') _ _
        ⟨(books.children.table seq c' entry).1, same⟩ mine
    exact notBegun (known seq (here ▸ entry))
  · cases books.owned.only (.signal seq) _ _ entry mine

/-- The handle of a child workflow learns its run id. -/
theorem Books.childRunId (books : Books made begun s) (c : FutId) (runId : String) :
    Books made begun (s.setChild c { s.children c with firstExecutionRunId := runId }) := by
  have moves : Moves [.resolve] s (s.setChild c { s.children c with firstExecutionRunId := runId }) :=
    .of_atom (by simp) (.childRunId s c runId)
  have grow : PromisesGrow s (s.setChild c { s.children c with firstExecutionRunId := runId }) :=
    ⟨Nat.le_refl _, fun _ _ => rfl⟩
  have handle (c' : FutId) :
      ((s.setChild c { s.children c with firstExecutionRunId := runId }).children c').seq =
          (s.children c').seq ∧
        ((s.setChild c { s.children c with firstExecutionRunId := runId }).children c').startFut =
          (s.children c').startFut ∧
        ((s.setChild c { s.children c with firstExecutionRunId := runId }).children c').resultFut =
          (s.children c').resultFut := by
    by_cases here : c' = c <;> simp [Inst.setChild, here]
  refine ⟨books.toSound.moves moves (by simp [Kind.spares]), ?_, ?_, ?_, ?_⟩
  · refine books.activities.grown books.owned grow (fun _ => .rfl) (fun _ _ isTask _ => isTask) rfl rfl
      rfl rfl rfl (fun _ => id) fun x p _ held => ?_
    cases x with
    | childStart c' => exact ⟨held.1, (handle c').2.1 ▸ held.2⟩
    | childResult c' => exact ⟨held.1, (handle c').2.2 ▸ held.2⟩
    | _ => exact held
  · exact books.children.mono (fun _ => id) (fun c' _ => handle c') (Nat.le_refl _) (fun _ _ => id)
      (fun _ _ _ => rfl) fun _ _ _ notBegun => ⟨notBegun, rfl⟩
  · exact books.signals.grown books.owned grow rfl rfl
  · exact books.cancels.same rfl (fun _ _ => id) (.of_eq rfl)

/-- `_resolve_failure` completes one future or both. -/
theorem Books.childFailed (books : Books made begun s) {c : FutId} (isChild : s.ofRoot c .child)
    (gone : ∀ seq, s.pendingChildWorkflows seq ≠ some c) {e : Error} {u : Unit}
    (run : (s.children c).resolveFailure e s = (.ok u, s')) :
    Books made begun s' ∧ s'.commands = s.commands ∧ s'.awaits = s.awaits := by
  simp only [ChildWorkflowHandle.resolveFailure, state_bind_run] at run
  split at run
  · obtain ⟨pending, rfl⟩ := setPromiseOutcome_ok run
    exact ⟨books.childResultSet isChild gone pending (by simp), rfl, rfl⟩
  · rw [bind_run] at run
    cases first : setPromiseOutcome (s.children c).startFut (.exception e) s with
    | mk r s₁ =>
      rw [first] at run
      cases r with
      | error e => cases run
      | ok u' =>
        obtain ⟨pending, rfl⟩ := setPromiseOutcome_ok first
        have started : Books made begun (s.fulfilled (s.children c).startFut (.exception e)) :=
          books.childStartSet isChild (fun seq entry => absurd entry (gone seq)) (fun _ => id)
            pending (by simp)
        obtain ⟨pending', rfl⟩ := setPromiseOutcome_ok run
        exact ⟨started.childResultSet isChild gone pending' (by simp), rfl, rfl⟩

theorem Answered.of_child {job : Job} {seq : Nat} (ends : job.ends? = some (.childWorkflow, seq))
    (begins : job.begins? = none) (held : s.awaits (.childWorkflow, seq) = true)
    (books : Books made begun s') (commands : s'.commands = s.commands)
    (awaits : s'.awaits = (s.childPopped seq).awaits) : Answered made begun s job s' where
  books := by simpa [begins] using books
  commands := by rw [commands]
  held := fun call isEnd => by
    rw [ends, Option.some.injEq] at isEnd
    exact isEnd ▸ held
  awaits := fun call => by rw [awaits, ends, Inst.awaits_childPopped]

theorem Books.childGone (books : Books made begun s) {seq : Nat} {c : FutId}
    (entry : s.pendingChildWorkflows seq = some c) (seq' : Nat) :
    (s.childPopped seq).pendingChildWorkflows seq' ≠ some c := by
  intro h
  obtain ⟨other, entry'⟩ := entry_of_popped h
  exact other ((books.children.table seq' c entry').2.1.symm.trans
    (books.children.table seq c entry).2.1)

theorem Answered.child (books : Books made begun s) (det : Details σ) (seq : Nat)
    (result : ChildWorkflowResult)
    (run : applyResolveChildWorkflowExecution det seq result s = (.ok (), s')) :
    Answered made begun s (.resolveChildWorkflowExecution seq result) s' := by
  simp only [applyResolveChildWorkflowExecution, state_bind_run] at run
  cases entry : s.pendingChildWorkflows seq with
  | none =>
    rw [entry] at run
    cases run
  | some c =>
    rw [entry] at run
    have held : s.awaits (.childWorkflow, seq) = true := by simp [Inst.awaits, entry]
    have isChild : (s.childPopped seq).ofRoot c .child := (books.children.table seq c entry).1
    have popped := books.childPopped seq
    have gone := books.childGone entry
    have failed {failure : Failure} (run : (raiseError (det.fromFailure failure) >>=
        (s.children c).resolveFailure) (s.childPopped seq) = (.ok (), s')) :
        Answered made begun s (.resolveChildWorkflowExecution seq result) s' := by
      obtain ⟨e, run⟩ := convertedThen_ok run
      obtain ⟨books', commands, awaits⟩ := popped.childFailed isChild gone run
      exact .of_child rfl rfl held books' commands awaits
    cases result with
    | completed value =>
      obtain ⟨v, run⟩ := resolvedThen_ok run
      obtain ⟨pending, rfl⟩ := setPromiseOutcome_ok run
      exact .of_child rfl rfl held (popped.childResultSet isChild gone pending (by simp)) rfl rfl
    | failed failure => exact failed run
    | cancelled failure => exact failed run
    | unset => cases run

theorem Answered.childStart (books : Books made begun s) (det : Details σ) (seq : Nat)
    (status : ChildWorkflowStart)
    (run : applyResolveChildWorkflowExecutionStart det seq status s = (.ok (), s')) :
    Answered made begun s (.resolveChildWorkflowExecutionStart seq status) s' := by
  simp only [applyResolveChildWorkflowExecutionStart, state_bind_run] at run
  cases entry : s.pendingChildWorkflows seq with
  | none =>
    rw [entry] at run
    cases run
  | some c =>
    rw [entry] at run
    have held : s.awaits (.childWorkflow, seq) = true := by simp [Inst.awaits, entry]
    have isChild : (s.childPopped seq).ofRoot c .child := (books.children.table seq c entry).1
    have popped := books.childPopped seq
    have gone := books.childGone entry
    cases status with
    | succeeded runId =>
      have known := books.childRunId c runId
      have startFut : ((s.setChild c { s.children c with
          firstExecutionRunId := runId }).children c).startFut = (s.children c).startFut := by
        simp [Inst.setChild]
      obtain ⟨pending, rfl⟩ := setPromiseOutcome_ok run
      rw [← startFut] at pending ⊢
      refine ⟨known.childStartSet (c := c) isChild (fun seq' entry' => .inr ?_) (fun _ => .inl)
        pending (by simp), rfl, fun call isEnd => (by cases isEnd),
        fun call => (and_iff_left fun isEnd => by cases isEnd).symm⟩
      change some seq = some seq'
      rw [Option.some.injEq, ← (books.children.table seq c entry).2.1]
      exact (books.children.table seq' c entry').2.1
    | failed alreadyExists workflowId =>
      obtain ⟨books', commands, awaits⟩ := popped.childFailed isChild gone run
      exact .of_child rfl rfl held books' commands awaits
    | cancelled failure =>
      simp only [update_bind_run] at run
      obtain ⟨e, run⟩ := convertedThen_ok run
      obtain ⟨books', commands, awaits⟩ := popped.childFailed isChild gone run
      exact .of_child rfl rfl held books' commands awaits
    | unset => cases run

/-! ### External workflows -/

theorem Answered.signal (books : Books made begun s) (det : Details σ) (seq : Nat)
    (failure : Option Failure)
    (run : applyResolveSignalExternalWorkflow det seq failure s = (.ok (), s')) :
    Answered made begun s (.resolveSignalExternalWorkflow seq failure) s' := by
  simp only [applyResolveSignalExternalWorkflow, state_bind_run] at run
  cases entry : s.pendingExternalSignals seq with
  | none =>
    rw [entry] at run
    cases run
  | some p =>
    rw [entry] at run
    have held : s.Holds (.signal seq) p := entry
    have popped := books.signalPopped seq
    have settled {outcome : PromiseOutcome} (plain : ∀ b, outcome ≠ .backoff b)
        (run : setPromiseOutcome p outcome (s.signalPopped seq) = (.ok (), s')) :
        Answered made begun s (.resolveSignalExternalWorkflow seq failure) s' := by
      obtain ⟨pending, rfl⟩ := setPromiseOutcome_ok run
      have set : Books made begun ((s.signalPopped seq).fulfilled p outcome) := by
        refine popped.fulfilled pending plain (fun t held' => ?_) (fun seq' c entry' same => ?_)
          (fun seq' c entry' notBegun => ⟨notBegun, fun same => ?_⟩) fun seq' entry' => ?_
        · cases books.owned.only (.activity t) _ _ held' held
        · cases books.owned.only (.childResult c) _ _
            ⟨(books.children.table seq' c entry').1, same⟩ held
        · cases books.owned.only (.childStart c) _ _
            ⟨(books.children.table seq' c entry').1, same⟩ held
        · obtain ⟨other, entry'⟩ := entry_of_popped entry'
          have here := books.owned.only (.signal seq') _ _ entry' held
          exact other (by simpa using here)
      refine ⟨by simpa [Job.begins?] using set, rfl, fun call isEnd => ?_, fun call => ?_⟩
      · cases isEnd
        simp [Inst.awaits, entry]
      · obtain ⟨kind, seq'⟩ := call
        cases kind with
        | externalSignal =>
          have other : Job.ends? (.resolveSignalExternalWorkflow seq failure) ≠
              some (.externalSignal, seq') ↔ seq' ≠ seq := by
            simp [Job.ends?, eq_comm]
          rw [other]
          exact isSome_update_none ..
        | _ => simp [Inst.awaits, Inst.signalPopped, Job.ends?, Inst.fulfilled, Inst.setPromise,
            Inst.pushAll]
    cases failure with
    | some failure =>
      simp only [update_bind_run] at run
      obtain ⟨e, run⟩ := convertedThen_ok run
      exact settled (by simp) run
    | none => exact settled (by simp) run

/-- The future of an external cancel is completed. -/
theorem Books.cancelSettled (books : Books made begun s) {f : FutId} {new : FutState}
    (gone : ∀ seq, s.pendingExternalCancels seq ≠ some f)
    (atom : Atom .resolve s (s.settled f new)) : Books made begun (s.settled f new) := by
  have moves : Moves [.resolve] s (s.settled f new) := .of_atom (by simp) atom
  have grow : PromisesGrow s (s.settled f new) := ⟨Nat.le_refl _, fun _ _ => rfl⟩
  refine ⟨books.toSound.moves moves (by simp [Kind.spares]), ?_, ?_, ?_, ?_⟩
  · exact books.activities.grown books.owned grow (fun _ => .rfl) (fun _ _ isTask _ => isTask) rfl rfl
      rfl rfl rfl (fun o member => (List.mem_append.mp member).resolve_right (settled_noWakeup s f o))
      fun x p _ held => by cases x <;> exact held
  · exact books.children.grown books.owned grow (fun _ => id) (fun _ _ => rfl) (Nat.le_refl _) rfl
  · exact books.signals.grown books.owned grow rfl rfl
  · refine ⟨books.cancels.bound, fun seq f' entry => ?_⟩
    have other : f' ≠ f := fun same => gone seq (same ▸ entry)
    have same : (s.settled f new).futs f' = s.futs f' := by
      simp [Inst.settled, Inst.setFut, Inst.pushAll, other]
    rw [same]
    exact books.cancels.table seq f' entry

theorem setOutcome_ok {f : FutId} {new : FutState} {u : Unit}
    (run : setOutcome f new s = (.ok u, s')) : s.isDone f = false ∧ s' = s.settled f new := by
  simp only [setOutcome, state_bind_run] at run
  split at run
  · cases run
  next alive =>
    have settled := settle_state f new s
    rw [run] at settled
    exact ⟨by simpa using alive, settled⟩

theorem Answered.cancel (books : Books made begun s) (det : Details σ) (seq : Nat)
    (failure : Option Failure)
    (run : applyResolveRequestCancelExternalWorkflow det seq failure s = (.ok (), s')) :
    Answered made begun s (.resolveRequestCancelExternalWorkflow seq failure) s' := by
  simp only [applyResolveRequestCancelExternalWorkflow, state_bind_run] at run
  cases entry : s.pendingExternalCancels seq with
  | none =>
    rw [entry] at run
    cases run
  | some f =>
    rw [entry] at run
    have popped := books.cancelPopped seq
    have settled {new : FutState} (done : new.done = true)
        (run : setOutcome f new (s.cancelPopped seq) = (.ok (), s')) :
        Answered made begun s (.resolveRequestCancelExternalWorkflow seq failure) s' := by
      obtain ⟨pending, rfl⟩ := setOutcome_ok run
      have role := (books.wf.externalCancel seq f entry).2
      have notTask : s.tasks f = none := by
        cases isTask : s.tasks f with
        | none => rfl
        | some task =>
          rw [(books.wf.task f task isTask).2] at role
          cases role
      have gone (seq' : Nat) : (s.cancelPopped seq).pendingExternalCancels seq' ≠ some f := by
        intro h
        obtain ⟨other, entry'⟩ := entry_of_popped h
        exact other (books.owned.cancels seq' seq f entry' entry)
      have set := popped.cancelSettled gone (.resolveCancel _ done pending role notTask)
      refine ⟨by simpa [Job.begins?] using set, rfl, fun call isEnd => ?_, fun call => ?_⟩
      · cases isEnd
        simp [Inst.awaits, entry]
      · obtain ⟨kind, seq'⟩ := call
        cases kind with
        | externalCancel =>
          have other : Job.ends? (.resolveRequestCancelExternalWorkflow seq failure) ≠
              some (.externalCancel, seq') ↔ seq' ≠ seq := by
            simp [Job.ends?, eq_comm]
          rw [other]
          exact isSome_update_none ..
        | _ => simp [Inst.awaits, Inst.cancelPopped, Job.ends?, Inst.settled, Inst.setFut,
            Inst.pushAll]
    cases failure with
    | some failure =>
      simp only [update_bind_run] at run
      obtain ⟨e, run⟩ := convertedThen_ok run
      exact settled rfl run
    | none => exact settled rfl run

/-! ### All jobs -/

theorem Answered.of_calls {job : Job} (ends : job.ends? = none) (begins : job.begins? = none)
    (books : Books made begun s') (calls : SameCalls s s') : Answered made begun s job s' where
  books := by simpa [begins] using books
  commands := calls.commands
  held := fun call isEnd => by
    rw [ends] at isEnd
    cases isEnd
  awaits := fun call => by simp [calls.awaits, ends]

theorem Books.fired (books : Books made begun s) {seq : Nat} (pending : s.pendingTimers seq = true) :
    Answered made begun s (.fireTimer seq) { s.pushReady (.timer seq) with
      pendingTimers := Function.update s.pendingTimers seq false
      trace := s.trace ++ [.timerFired seq] } := by
  have moves : Moves [.resolve] s { s.pushReady (.timer seq) with
      pendingTimers := Function.update s.pendingTimers seq false
      trace := s.trace ++ [.timerFired seq] } := .of_atom (by simp) (.fire s pending)
  have calls : SameCalls s { s.pushReady (.timer seq) with
      pendingTimers := Function.update s.pendingTimers seq false
      trace := s.trace ++ [.timerFired seq] } :=
    .loose (fun _ _ _ => .rfl) rfl rfl rfl rfl rfl rfl rfl rfl rfl rfl
  refine .of_calls rfl rfl ⟨books.toSound.moves moves (by simp [Kind.spares]), ?_,
    books.children.same calls, books.signals.same calls, ?_⟩ calls
  · exact books.activities.foreign ⟨calls, .pushed (l := [_]) rfl rfl rfl (by simp), .of_eq rfl⟩
  · exact books.cancels.same rfl (fun _ _ => id) (.of_eq rfl)

/-- A job that is applied ends the calls it is meant to end and no other. -/
theorem Answered.job (books : Books made begun s)
    (issued : ∀ call, s.awaits call = true → made call) (det : Details σ) (job : Job)
    (run : applyJob det job s = (.ok (), s')) : Answered made begun s job s' := by
  have moves := applyJob_moves det job s
  rw [run] at moves
  have foreign (ends : job.ends? = none) (begins : job.begins? = none)
      (others : ∀ k ∈ job.kinds, k.foreign = true) (spares : ∀ k ∈ job.kinds, k.spares s) :
      Answered made begun s job s' :=
    .of_calls ends begins (books.foreign moves others spares) (moves.sameCalls books.wf others)
  cases job with
  | resolveActivity seq result => exact .activity books issued det seq result run
  | resolveChildWorkflowExecution seq result => exact .child books det seq result run
  | resolveChildWorkflowExecutionStart seq status => exact .childStart books det seq status run
  | resolveSignalExternalWorkflow seq failure => exact .signal books det seq failure run
  | resolveRequestCancelExternalWorkflow seq failure => exact .cancel books det seq failure run
  | fireTimer seq =>
    simp only [applyJob, applyFireTimer, state_bind_run] at run
    split at run
    next pending =>
      cases run
      exact books.fired pending
    · cases run
      exact .of_calls rfl rfl books (.refl s)
  | _ =>
    exact foreign rfl rfl (by simp [Job.kinds, Kind.foreign]) (by simp [Job.kinds, Kind.spares])

end TemporalSdk.Workflow
