import TemporalSdk.Workflow.Emitted
import TemporalSdk.Workflow.Stands

/-!
# Outbound calls

Activities, child workflows, external signals and external cancels go one way: a
command with a sequence number, an entry in a table of the instance, and a job
of core that removes the entry and completes a future. This module says which
commands and jobs these are, and what holds of the tables whatever happens:
every future that an entry leads to is the future of one call only.
-/
namespace TemporalSdk.Workflow

open Eff

variable {σ : Type}

/-- The calls that core answers with a resolution. -/
inductive CallKind where
  | activity
  | childWorkflow
  | externalSignal
  | externalCancel
  deriving DecidableEq

/-- A call, by its kind and its sequence number. -/
abbrev Call := CallKind × Nat

/-- The call that a command makes. -/
def Command.call? : Command → Option Call
  | .scheduleActivity seq => some (.activity, seq)
  | .scheduleLocalActivity seq _ => some (.activity, seq)
  | .startChildWorkflowExecution seq => some (.childWorkflow, seq)
  | .signalExternalWorkflowExecution seq => some (.externalSignal, seq)
  | .requestCancelExternalWorkflowExecution seq => some (.externalCancel, seq)
  | _ => none

def calls (commands : List Command) : List Call := commands.filterMap Command.call?

theorem calls_append (cs cs' : List Command) : calls (cs ++ cs') = calls cs ++ calls cs' :=
  List.filterMap_append

/-- The call whose entry a job removes. A successful start of a child workflow
is not the end of it. -/
def Job.ends? : Job → Option Call
  | .resolveActivity seq _ => some (.activity, seq)
  | .resolveChildWorkflowExecution seq _ => some (.childWorkflow, seq)
  | .resolveChildWorkflowExecutionStart seq (.failed _ _) => some (.childWorkflow, seq)
  | .resolveChildWorkflowExecutionStart seq (.cancelled _) => some (.childWorkflow, seq)
  | .resolveSignalExternalWorkflow seq _ => some (.externalSignal, seq)
  | .resolveRequestCancelExternalWorkflow seq _ => some (.externalCancel, seq)
  | _ => none

def Entry.ends? : Entry → Option Call
  | .applied job => job.ends?
  | _ => none

/-- The calls that the jobs applied so far have ended. -/
def resolved (journal : List Entry) : List Call := journal.filterMap Entry.ends?

theorem resolved_append (es es' : List Entry) : resolved (es ++ es') = resolved es ++ resolved es' :=
  List.filterMap_append

/-- Whether a call has an entry in the table of its kind. -/
def Inst.awaits (s : Inst σ) : Call → Bool
  | (.activity, seq) => (s.pendingActivities seq).isSome
  | (.childWorkflow, seq) => (s.pendingChildWorkflows seq).isSome
  | (.externalSignal, seq) => (s.pendingExternalSignals seq).isSome
  | (.externalCancel, seq) => (s.pendingExternalCancels seq).isSome

/-! ### Whose promise it is -/

/-- Task `t` runs a coroutine of this kind. -/
def Inst.ofRoot (s : Inst σ) (t : FutId) (root : Root) : Prop :=
  ∃ task, s.tasks t = some task ∧ task.root = root

/-- The attributes and entries that hold a promise. -/
inductive Slot where
  | activity (t : FutId)
  | childStart (t : FutId)
  | childResult (t : FutId)
  | signal (seq : Nat)

def Inst.Holds (s : Inst σ) : Slot → PromiseId → Prop
  | .activity t, p => s.ofRoot t .activity ∧ (s.activities t).resultFut = p
  | .childStart t, p => s.ofRoot t .child ∧ (s.children t).startFut = p
  | .childResult t, p => s.ofRoot t .child ∧ (s.children t).resultFut = p
  | .signal seq, p => s.pendingExternalSignals seq = some p

/-- No promise is held twice, and no two entries lead to one future. -/
structure Owned (s : Inst σ) : Prop where
  bound : ∀ x p, s.Holds x p → p < s.nextPromise
  only : ∀ x y p, s.Holds x p → s.Holds y p → x = y
  cancels : ∀ seq seq' f, s.pendingExternalCancels seq = some f →
    s.pendingExternalCancels seq' = some f → seq = seq'
  seqBound : ∀ t, (s.activities t).seq ≤ s.currSeqs .activity
  seqOnly : ∀ t t', s.ofRoot t .activity → s.ofRoot t' .activity →
    (s.activities t).seq = (s.activities t').seq → t = t'
  childBound : ∀ t, (s.children t).seq ≤ s.currSeqs .childWorkflow

theorem Inst.ofRoot_update {s s' : Inst σ} {t t' : FutId} {new : Task} {root : Root}
    (tasks : s'.tasks = Function.update s.tasks t' (some new)) :
    s'.ofRoot t root ↔ t = t' ∧ new.root = root ∨ t ≠ t' ∧ s.ofRoot t root := by
  unfold Inst.ofRoot
  rw [tasks]
  by_cases same : t = t'
  · subst same
    simp
  · simp [same]

/-- A task that is no handle comes into being. -/
theorem Inst.ofRoot_made {s s' : Inst σ} (wf : s.WellFormed) {t : FutId} {new : Task} {root : Root}
    (tasks : s'.tasks = Function.update s.tasks s.nextFut (some new)) (other : new.root ≠ root) :
    s'.ofRoot t root ↔ s.ofRoot t root := by
  rw [Inst.ofRoot_update tasks]
  constructor
  · rintro (⟨-, same⟩ | ⟨-, old⟩)
    · exact absurd same other
    · exact old
  · rintro ⟨task, isTask, isRoot⟩
    exact .inr ⟨Nat.ne_of_lt (wf.task t task isTask).1, task, isTask, isRoot⟩

theorem Inst.ofRoot_of_setTask {s : Inst σ} {t t' : FutId} {task new : Task} {root : Root}
    (isTask : s.tasks t' = some task) (h : (s.setTask t' new).ofRoot t root)
    (same : new.root = task.root) : s.ofRoot t root := by
  rcases (Inst.ofRoot_update (s := s) rfl).mp h with ⟨rfl, isRoot⟩ | ⟨-, old⟩
  · exact ⟨task, isTask, same ▸ isRoot⟩
  · exact old

/-- What a change has to leave alone for no promise to change hands. -/
theorem Owned.mono {s s' : Inst σ} (owned : Owned s)
    (roots : ∀ t root, root = .activity ∨ root = .child → s'.ofRoot t root → s.ofRoot t root)
    (activities : ∀ t, (s'.activities t).seq = (s.activities t).seq ∧
      (s'.activities t).resultFut = (s.activities t).resultFut)
    (children : ∀ t, (s'.children t).seq = (s.children t).seq ∧
      (s'.children t).startFut = (s.children t).startFut ∧
      (s'.children t).resultFut = (s.children t).resultFut)
    (signals : ∀ seq p, s'.pendingExternalSignals seq = some p →
      s.pendingExternalSignals seq = some p)
    (cancels : ∀ seq f, s'.pendingExternalCancels seq = some f →
      s.pendingExternalCancels seq = some f)
    (nextPromise : s.nextPromise = s'.nextPromise)
    (seqs : ∀ kind, s.currSeqs kind ≤ s'.currSeqs kind) : Owned s' := by
  have holds (x : Slot) (p : PromiseId) (h : s'.Holds x p) : s.Holds x p := by
    cases x with
    | activity t => exact ⟨roots t _ (.inl rfl) h.1, (activities t).2 ▸ h.2⟩
    | childStart t => exact ⟨roots t _ (.inr rfl) h.1, (children t).2.1 ▸ h.2⟩
    | childResult t => exact ⟨roots t _ (.inr rfl) h.1, (children t).2.2 ▸ h.2⟩
    | signal seq => exact signals seq p h
  constructor
  · intro x p h
    rw [← nextPromise]
    exact owned.bound x p (holds x p h)
  · exact fun x y p h h' => owned.only x y p (holds x p h) (holds y p h')
  · exact fun seq seq' f h h' => owned.cancels seq seq' f (cancels seq f h) (cancels seq' f h')
  · intro t
    rw [(activities t).1]
    exact (owned.seqBound t).trans (seqs _)
  · intro t t' h h' same
    rw [(activities t).1, (activities t').1] at same
    exact owned.seqOnly t t' (roots t _ (.inl rfl) h) (roots t' _ (.inl rfl) h') same
  · intro t
    rw [(children t).1]
    exact (owned.childBound t).trans (seqs _)

/-- A change of tasks, none of which becomes a handle. -/
theorem Owned.congr {s s' : Inst σ} (owned : Owned s)
    (roots : ∀ t root, root = .activity ∨ root = .child → s'.ofRoot t root → s.ofRoot t root)
    (activities : s'.activities = s.activities) (children : s'.children = s.children)
    (signals : s'.pendingExternalSignals = s.pendingExternalSignals)
    (cancels : s'.pendingExternalCancels = s.pendingExternalCancels)
    (nextPromise : s'.nextPromise = s.nextPromise)
    (seqs : ∀ kind, s.currSeqs kind ≤ s'.currSeqs kind) : Owned s' := by
  refine owned.mono roots (fun t => ?_) (fun t => ?_) (fun seq p => ?_) (fun seq f => ?_)
    nextPromise.symm seqs
  · rw [activities]
    exact ⟨rfl, rfl⟩
  · rw [children]
    exact ⟨rfl, rfl, rfl⟩
  · rw [signals]
    exact id
  · rw [cancels]
    exact id

/-- What holds nothing new keeps the futures of the others apart. -/
theorem Owned.grow {s s' : Inst σ} (owned : Owned s) (nextPromise : s.nextPromise ≤ s'.nextPromise)
    (holds : ∀ x p, s'.Holds x p → s.Holds x p ∨ s.nextPromise ≤ p ∧ p < s'.nextPromise)
    (fresh : ∀ x y p, s.nextPromise ≤ p → s'.Holds x p → s'.Holds y p → x = y)
    (cancels : s'.pendingExternalCancels = s.pendingExternalCancels)
    (seqBound : ∀ t, (s'.activities t).seq ≤ s'.currSeqs .activity)
    (seqOnly : ∀ t t', s'.ofRoot t .activity → s'.ofRoot t' .activity →
      (s'.activities t).seq = (s'.activities t').seq → t = t')
    (childBound : ∀ t, (s'.children t).seq ≤ s'.currSeqs .childWorkflow) : Owned s' := by
  refine ⟨?_, ?_, ?_, seqBound, seqOnly, childBound⟩
  · intro x p h
    rcases holds x p h with old | ⟨-, bound⟩
    · exact (owned.bound x p old).trans_le nextPromise
    · exact bound
  · intro x y p h h'
    rcases holds x p h with old | ⟨lower, -⟩
    · rcases holds y p h' with old' | ⟨lower, -⟩
      · exact owned.only x y p old old'
      · exact fresh x y p lower h h'
    · exact fresh x y p lower h h'
  · rw [cancels]
    exact owned.cancels

/-- The handle of an activity comes into being, with the next promise and the
next sequence number. -/
theorem Owned.activityMade {s : Inst σ} (owned : Owned s) (wf : s.WellFormed)
    (input : StartActivityInput) (callbacks : List Callback) (registered : List FutId) :
    Owned (s.activityMade input callbacks registered) := by
  have activity (t : FutId) : (s.activityMade input callbacks registered).ofRoot t .activity ↔
      t = s.nextFut ∨ t ≠ s.nextFut ∧ s.ofRoot t .activity := by
    rw [Inst.ofRoot_update (s := s) rfl]
    simp
  have child (t : FutId) : (s.activityMade input callbacks registered).ofRoot t .child ↔
      s.ofRoot t .child := Inst.ofRoot_made wf rfl (by simp)
  have new : (s.activityMade input callbacks registered).activities s.nextFut =
      ⟨s.currSeqs .activity + 1, input, s.nextPromise, false⟩ := Function.update_self _ _ _
  have old {t : FutId} (other : t ≠ s.nextFut) :
      (s.activityMade input callbacks registered).activities t = s.activities t :=
    Function.update_of_ne other _ _
  have holds (x : Slot) (p : PromiseId) (h : (s.activityMade input callbacks registered).Holds x p) :
      s.Holds x p ∨ x = .activity s.nextFut ∧ p = s.nextPromise := by
    cases x with
    | activity t =>
      obtain ⟨isActivity, isHeld⟩ := h
      rcases (activity t).mp isActivity with rfl | ⟨other, isActivity⟩
      · rw [new] at isHeld
        exact .inr ⟨rfl, isHeld.symm⟩
      · rw [old other] at isHeld
        exact .inl ⟨isActivity, isHeld⟩
    | childStart t => exact .inl ⟨(child t).mp h.1, h.2⟩
    | childResult t => exact .inl ⟨(child t).mp h.1, h.2⟩
    | signal seq => exact .inl h
  refine owned.grow (Nat.le_succ _) ?_ ?_ rfl ?_ ?_ owned.childBound
  · intro x p h
    rcases holds x p h with old | ⟨-, rfl⟩
    · exact .inl old
    · exact .inr ⟨Nat.le_refl _, Nat.lt_succ_self _⟩
  · intro x y p lower h h'
    rcases holds x p h with old | ⟨rfl, -⟩
    · exact absurd (owned.bound x p old) (Nat.not_lt.mpr lower)
    · rcases holds y p h' with old | ⟨rfl, -⟩
      · exact absurd (owned.bound y p old) (Nat.not_lt.mpr lower)
      · rfl
  · intro t
    change _ ≤ Function.update s.currSeqs .activity (s.currSeqs .activity + 1) .activity
    rw [Function.update_self]
    by_cases here : t = s.nextFut
    · rw [here, new]
    · rw [old here]
      exact (owned.seqBound t).trans (Nat.le_succ _)
  · intro t t' h h' same
    rcases (activity t).mp h with rfl | ⟨other, isActivity⟩
    · rcases (activity t').mp h' with rfl | ⟨other', isActivity'⟩
      · rfl
      · rw [new, old other'] at same
        exact absurd (owned.seqBound t') (by simp only at same; omega)
    · rcases (activity t').mp h' with rfl | ⟨other', isActivity'⟩
      · rw [new, old other] at same
        exact absurd (owned.seqBound t) (by simp only at same; omega)
      · rw [old other, old other'] at same
        exact owned.seqOnly t t' isActivity isActivity' same

/-- The handle of a child workflow comes into being, with the next two promises. -/
theorem Owned.childMade {s : Inst σ} (owned : Owned s) (wf : s.WellFormed)
    (input : StartChildWorkflowInput) (callbacks : List Callback) (registered : List FutId) :
    Owned (s.childMade input callbacks registered) := by
  have activity (t : FutId) : (s.childMade input callbacks registered).ofRoot t .activity ↔
      s.ofRoot t .activity := Inst.ofRoot_made wf rfl (by simp)
  have child (t : FutId) : (s.childMade input callbacks registered).ofRoot t .child ↔
      t = s.nextFut ∨ t ≠ s.nextFut ∧ s.ofRoot t .child := by
    rw [Inst.ofRoot_update (s := s) rfl]
    simp
  have new : (s.childMade input callbacks registered).children s.nextFut =
      ⟨s.currSeqs .childWorkflow, input, s.nextPromise, s.nextPromise + 1, "<unknown>"⟩ :=
    Function.update_self _ _ _
  have old {t : FutId} (other : t ≠ s.nextFut) :
      (s.childMade input callbacks registered).children t = s.children t :=
    Function.update_of_ne other _ _
  have holds (x : Slot) (p : PromiseId) (h : (s.childMade input callbacks registered).Holds x p) :
      s.Holds x p ∨ x = .childStart s.nextFut ∧ p = s.nextPromise ∨
        x = .childResult s.nextFut ∧ p = s.nextPromise + 1 := by
    cases x with
    | activity t => exact .inl ⟨(activity t).mp h.1, h.2⟩
    | childStart t =>
      obtain ⟨isChild, isHeld⟩ := h
      rcases (child t).mp isChild with rfl | ⟨other, isChild⟩
      · rw [new] at isHeld
        exact .inr (.inl ⟨rfl, isHeld.symm⟩)
      · rw [old other] at isHeld
        exact .inl ⟨isChild, isHeld⟩
    | childResult t =>
      obtain ⟨isChild, isHeld⟩ := h
      rcases (child t).mp isChild with rfl | ⟨other, isChild⟩
      · rw [new] at isHeld
        exact .inr (.inr ⟨rfl, isHeld.symm⟩)
      · rw [old other] at isHeld
        exact .inl ⟨isChild, isHeld⟩
    | signal seq => exact .inl h
  refine owned.grow (Nat.le_add_right _ 2) ?_ ?_ rfl owned.seqBound ?_ ?_
  · intro x p h
    rcases holds x p h with old | ⟨-, rfl⟩ | ⟨-, rfl⟩
    · exact .inl old
    · exact .inr ⟨Nat.le_refl _, Nat.lt_add_of_pos_right Nat.zero_lt_two⟩
    · exact .inr ⟨Nat.le_succ _, Nat.lt_succ_self _⟩
  · intro x y p lower h h'
    have notOld (z : Slot) (isOld : s.Holds z p) : False :=
      absurd (owned.bound z p isOld) (Nat.not_lt.mpr lower)
    have apart (first : p = s.nextPromise) (second : p = s.nextPromise + 1) : False :=
      Nat.succ_ne_self s.nextPromise (second.symm.trans first)
    rcases holds x p h with old | ⟨rfl, here⟩ | ⟨rfl, here⟩
    · exact (notOld x old).elim
    · rcases holds y p h' with old | ⟨rfl, there⟩ | ⟨rfl, there⟩
      · exact (notOld y old).elim
      · rfl
      · exact (apart here there).elim
    · rcases holds y p h' with old | ⟨rfl, there⟩ | ⟨rfl, there⟩
      · exact (notOld y old).elim
      · exact (apart there here).elim
      · rfl
  · intro t t' h h' same
    exact owned.seqOnly t t' ((activity t).mp h) ((activity t').mp h') same
  · intro t
    change _ ≤ s.currSeqs .childWorkflow
    by_cases here : t = s.nextFut
    · rw [here, new]
    · rw [old here]
      exact owned.childBound t

/-- An external signal takes the next promise. -/
theorem Owned.signalled {s : Inst σ} (owned : Owned s) : Owned s.signalled := by
  have holds (x : Slot) (p : PromiseId) (h : s.signalled.Holds x p) :
      s.Holds x p ∨ x = .signal (s.currSeqs .externalSignal + 1) ∧ p = s.nextPromise := by
    cases x with
    | activity t => exact .inl h
    | childStart t => exact .inl h
    | childResult t => exact .inl h
    | signal seq =>
      change Function.update _ _ _ _ = _ at h
      by_cases here : seq = s.currSeqs .externalSignal + 1
      · subst here
        rw [Function.update_self, Option.some.injEq] at h
        exact .inr ⟨rfl, h.symm⟩
      · rw [Function.update_of_ne here] at h
        exact .inl h
  refine owned.grow (Nat.le_succ _) ?_ ?_ rfl owned.seqBound owned.seqOnly owned.childBound
  · intro x p h
    rcases holds x p h with old | ⟨-, rfl⟩
    · exact .inl old
    · exact .inr ⟨Nat.le_refl _, Nat.lt_succ_self _⟩
  · intro x y p lower h h'
    rcases holds x p h with old | ⟨rfl, -⟩
    · exact absurd (owned.bound x p old) (Nat.not_lt.mpr lower)
    · rcases holds y p h' with old | ⟨rfl, -⟩
      · exact absurd (owned.bound y p old) (Nat.not_lt.mpr lower)
      · rfl

/-- A backoff gives the handle of an activity another promise. -/
theorem Owned.backedOff {s : Inst σ} (owned : Owned s) (t : FutId) : Owned (s.backedOff t) := by
  have seqs (t' : FutId) : ((s.backedOff t).activities t').seq = (s.activities t').seq := by
    by_cases here : t' = t <;> simp [Inst.backedOff, here]
  have holds (x : Slot) (p : PromiseId) (h : (s.backedOff t).Holds x p) :
      s.Holds x p ∨ x = .activity t ∧ p = s.nextPromise := by
    cases x with
    | activity t' =>
      obtain ⟨isActivity, isHeld⟩ := h
      by_cases here : t' = t
      · subst here
        exact .inr ⟨rfl, by simpa [Inst.backedOff] using isHeld.symm⟩
      · exact .inl ⟨isActivity, by simpa [Inst.backedOff, here] using isHeld⟩
    | childStart t => exact .inl h
    | childResult t => exact .inl h
    | signal seq => exact .inl h
  refine owned.grow (Nat.le_succ _) ?_ ?_ rfl ?_ ?_ owned.childBound
  · intro x p h
    rcases holds x p h with old | ⟨-, rfl⟩
    · exact .inl old
    · exact .inr ⟨Nat.le_refl _, Nat.lt_succ_self _⟩
  · intro x y p lower h h'
    rcases holds x p h with old | ⟨rfl, -⟩
    · exact absurd (owned.bound x p old) (Nat.not_lt.mpr lower)
    · rcases holds y p h' with old | ⟨rfl, -⟩
      · exact absurd (owned.bound y p old) (Nat.not_lt.mpr lower)
      · rfl
  · intro t'
    rw [seqs]
    exact owned.seqBound t'
  · intro t₁ t₂ h h' same
    rw [seqs, seqs] at same
    exact owned.seqOnly t₁ t₂ h h' same

/-- A backoff gives the handle of an activity the next sequence number. -/
theorem Owned.reseqed {s : Inst σ} (owned : Owned s) (t : FutId) : Owned (s.reseqed t) := by
  have here : ((s.reseqed t).activities t).seq = s.currSeqs .activity + 1 := by
    simp [Inst.reseqed]
  have there {t' : FutId} (other : t' ≠ t) : (s.reseqed t).activities t' = s.activities t' := by
    simp [Inst.reseqed, other]
  have futs (t' : FutId) : ((s.reseqed t).activities t').resultFut = (s.activities t').resultFut := by
    by_cases same : t' = t <;> simp [Inst.reseqed, same]
  have holds (x : Slot) (p : PromiseId) (h : (s.reseqed t).Holds x p) : s.Holds x p := by
    cases x with
    | activity t' => exact ⟨h.1, futs t' ▸ h.2⟩
    | childStart t => exact h
    | childResult t => exact h
    | signal seq => exact h
  refine ⟨fun x p h => owned.bound x p (holds x p h),
    fun x y p h h' => owned.only x y p (holds x p h) (holds y p h'), owned.cancels, ?_, ?_,
    owned.childBound⟩
  · intro t'
    change _ ≤ Function.update s.currSeqs .activity (s.currSeqs .activity + 1) .activity
    rw [Function.update_self]
    by_cases same : t' = t
    · rw [same, here]
    · rw [there same]
      exact (owned.seqBound t').trans (Nat.le_succ _)
  · intro t₁ t₂ h h' same
    by_cases first : t₁ = t <;> by_cases second : t₂ = t
    · rw [first, second]
    · rw [first, here, there second] at same
      exact absurd (owned.seqBound t₂) (by omega)
    · rw [second, here, there first] at same
      exact absurd (owned.seqBound t₁) (by omega)
    · rw [there first, there second] at same
      exact owned.seqOnly t₁ t₂ h h' same

/-- No atom lets a promise or an entry change hands. -/
theorem Atom.owned {k : Kind} {s s' : Inst σ} (h : Atom k s s') (wf : s.WellFormed)
    (owned : Owned s) : Owned s' := by
  have grown (kind : SeqKind) (kind' : SeqKind) :
      s.currSeqs kind' ≤ Function.update s.currSeqs kind (s.currSeqs kind + 1) kind' := by
    by_cases same : kind' = kind
    · subst same
      rw [Function.update_self]
      exact Nat.le_succ _
    · rw [Function.update_of_ne same]
  have counted {s' : Inst σ} (kind : SeqKind) (tasks : s'.tasks = s.tasks)
      (activities : s'.activities = s.activities) (children : s'.children = s.children)
      (signals : s'.pendingExternalSignals = s.pendingExternalSignals)
      (cancels : s'.pendingExternalCancels = s.pendingExternalCancels)
      (nextPromise : s'.nextPromise = s.nextPromise)
      (seqs : s'.currSeqs = Function.update s.currSeqs kind (s.currSeqs kind + 1)) : Owned s' := by
    refine owned.congr (fun t root _ => ?_) activities children signals cancels nextPromise
      fun kind' => ?_
    · rw [Inst.ofRoot, tasks]
      exact id
    · rw [seqs]
      exact grown kind kind'
  have same (kind : SeqKind) : s.currSeqs kind ≤ s.currSeqs kind := Nat.le_refl _
  have dropped {α : Type} {table : Nat → Option α} {seq seq' : Nat} {a : α}
      (h : Function.update table seq none seq' = some a) : table seq' = some a := by
    by_cases here : seq' = seq
    · rw [here, Function.update_self] at h
      cases h
    · rwa [Function.update_of_ne here] at h
  cases h with
  | newActivity | strayActivity => exact owned.activityMade wf _ _ _
  | newChild | strayChild => exact owned.childMade wf _ _ _
  | signal => exact owned.signalled
  | backoff => exact owned.backedOff _
  | backoffSeq => exact owned.reseqed _
  | timer | refusedTimer | sleepTimer => exact counted .timer rfl rfl rfl rfl rfl rfl rfl
  | childSeq => exact counted .childWorkflow rfl rfl rfl rfl rfl rfl rfl
  | createUser | strayUser | bareUser =>
    refine owned.congr (fun t root handle h => ?_) rfl rfl rfl rfl rfl same
    refine (Inst.ofRoot_made wf rfl ?_).mp h
    rcases handle with rfl | rfl <;> simp
  | request _ isTask | mustCancel _ isTask | setPoint _ isTask | clearCancel _ isTask =>
    exact owned.congr (fun t root _ h => Inst.ofRoot_of_setTask isTask h rfl) rfl rfl rfl rfl rfl same
  | started _ t =>
    refine owned.mono (fun _ _ _ => id) (fun t' => ?_) (fun _ => ⟨rfl, rfl, rfl⟩) (fun _ _ => id)
      (fun _ _ => id) rfl fun _ => Nat.le_refl _
    by_cases here : t' = t <;> simp [Inst.setActivity, here]
  | childRunId _ c =>
    refine owned.mono (fun _ _ _ => id) (fun _ => ⟨rfl, rfl⟩) (fun t' => ?_) (fun _ _ => id)
      (fun _ _ => id) rfl fun _ => Nat.le_refl _
    by_cases here : t' = c <;> simp [Inst.setChild, here]
  | popSignal =>
    exact owned.mono (fun _ _ _ => id) (fun _ => ⟨rfl, rfl⟩) (fun _ => ⟨rfl, rfl, rfl⟩)
      (fun _ _ => dropped) (fun _ _ => id) rfl fun _ => Nat.le_refl _
  | popCancel =>
    exact owned.mono (fun _ _ _ => id) (fun _ => ⟨rfl, rfl⟩) (fun _ => ⟨rfl, rfl, rfl⟩)
      (fun _ _ => id) (fun _ _ => dropped) rfl fun _ => Nat.le_refl _
  | cancelExternal =>
    have held : Owned { s.cancelRequestSent with
        pendingExternalCancels := s.pendingExternalCancels } :=
      counted .externalCancel rfl rfl rfl rfl rfl rfl rfl
    have entry {seq : Nat} {f : FutId}
        (h : s.cancelRequestSent.pendingExternalCancels seq = some f) :
        seq = s.currSeqs .externalCancel + 1 ∧ f = s.nextFut ∨
          s.pendingExternalCancels seq = some f := by
      change Function.update _ _ _ _ = _ at h
      by_cases here : seq = s.currSeqs .externalCancel + 1
      · subst here
        rw [Function.update_self, Option.some.injEq] at h
        exact .inl ⟨rfl, h.symm⟩
      · rw [Function.update_of_ne here] at h
        exact .inr h
    refine ⟨held.bound, held.only, fun seq seq' f h h' => ?_, held.seqBound, held.seqOnly,
      held.childBound⟩
    rcases entry h with ⟨rfl, rfl⟩ | old
    · rcases entry h' with ⟨rfl, -⟩ | old'
      · rfl
      · exact absurd (wf.externalCancel seq' _ old').1 (Nat.lt_irrefl _)
    · rcases entry h' with ⟨rfl, rfl⟩ | old'
      · exact absurd (wf.externalCancel seq _ old).1 (Nat.lt_irrefl _)
      · exact owned.cancels seq seq' f old old'
  | _ => exact owned.congr (fun _ _ _ => id) rfl rfl rfl rfl rfl same

theorem Move.owned {k : Kind} {s s' : Inst σ} (h : Move k s s') (wf : s.WellFormed)
    (owned : Owned s) : Owned s' := by
  have same (kind : SeqKind) : s.currSeqs kind ≤ s.currSeqs kind := Nat.le_refl _
  have made {s' : Inst σ} {new : Task} (coded : new.root.outbound = false)
      (tasks : s'.tasks = Function.update s.tasks s.nextFut (some new)) (t : FutId) (root : Root)
      (handle : root = .activity ∨ root = .child) (h : s'.ofRoot t root) : s.ofRoot t root := by
    refine (Inst.ofRoot_made wf tasks ?_).mp h
    rintro rfl
    rcases handle with same | same <;> rw [same] at coded <;> cases coded
  cases h with
  | signalTask | straySignal => exact owned.congr (made rfl rfl) rfl rfl rfl rfl rfl same
  | spawn _ _ ofJob | strayJob _ _ _ ofJob =>
    exact owned.congr (made ofJob rfl) rfl rfl rfl rfl rfl same
  | wake _ isTask =>
    exact owned.congr (fun t root _ h => Inst.ofRoot_of_setTask isTask h rfl) rfl rfl rfl rfl rfl same
  | _ => exact owned.congr (fun _ _ _ => id) rfl rfl rfl rfl rfl same

theorem Moves.owned {K : List Kind} {s s' : Inst σ} (h : Moves K s s') (wf : s.WellFormed)
    (owned : Owned s) : Owned s' := by
  refine (h.keeps wf owned ?_).1
  intro a b wfa allowed owned
  rcases allowed with ⟨k, -, atom⟩ | ⟨k, -, move⟩
  · exact atom.owned wfa owned
  · exact move.owned wfa owned

/-! ### What leaves the calls alone -/

/-- Moves that neither make a call nor resolve one. -/
def Kind.foreign : Kind → Bool
  | .issue | .broken | .resolve | .turn => false
  | _ => true

/-- The commands, tables and handles of outbound calls are the same. -/
structure SameCalls (s s' : Inst σ) : Prop where
  commands : calls s'.commands = calls s.commands
  activities : s'.pendingActivities = s.pendingActivities
  childWorkflows : s'.pendingChildWorkflows = s.pendingChildWorkflows
  signals : s'.pendingExternalSignals = s.pendingExternalSignals
  cancels : s'.pendingExternalCancels = s.pendingExternalCancels
  seqs : ∀ kind, kind ≠ .timer → s'.currSeqs kind = s.currSeqs kind
  handles : ∀ t, (s'.activities t).seq = (s.activities t).seq ∧
    (s'.activities t).resultFut = (s.activities t).resultFut ∧
    (s'.activities t).input = (s.activities t).input
  children : s'.children = s.children
  states : ∀ p, (s'.promises p).state = (s.promises p).state
  nextPromise : s'.nextPromise = s.nextPromise
  roots : ∀ t root, root = .activity ∨ root = .child → (s'.ofRoot t root ↔ s.ofRoot t root)

theorem SameCalls.refl (s : Inst σ) : SameCalls s s where
  commands := rfl
  activities := rfl
  childWorkflows := rfl
  signals := rfl
  cancels := rfl
  seqs := fun _ _ => rfl
  handles := fun _ => ⟨rfl, rfl, rfl⟩
  children := rfl
  states := fun _ => rfl
  nextPromise := rfl
  roots := fun _ _ _ => .rfl

theorem SameCalls.trans {s₁ s₂ s₃ : Inst σ} (h : SameCalls s₁ s₂) (h' : SameCalls s₂ s₃) :
    SameCalls s₁ s₃ where
  commands := h'.commands.trans h.commands
  activities := h'.activities.trans h.activities
  childWorkflows := h'.childWorkflows.trans h.childWorkflows
  signals := h'.signals.trans h.signals
  cancels := h'.cancels.trans h.cancels
  seqs := fun kind other => (h'.seqs kind other).trans (h.seqs kind other)
  handles := fun t => ⟨(h'.handles t).1.trans (h.handles t).1,
    (h'.handles t).2.1.trans (h.handles t).2.1, (h'.handles t).2.2.trans (h.handles t).2.2⟩
  children := h'.children.trans h.children
  states := fun p => (h'.states p).trans (h.states p)
  nextPromise := h'.nextPromise.trans h.nextPromise
  roots := fun t root handle => (h'.roots t root handle).trans (h.roots t root handle)

theorem SameCalls.awaits {s s' : Inst σ} (h : SameCalls s s') (call : Call) :
    s'.awaits call = s.awaits call := by
  obtain ⟨kind, seq⟩ := call
  cases kind with
  | activity => simp only [Inst.awaits, h.activities]
  | childWorkflow => simp only [Inst.awaits, h.childWorkflows]
  | externalSignal => simp only [Inst.awaits, h.signals]
  | externalCancel => simp only [Inst.awaits, h.cancels]

/-- A change of nothing but tasks, none of which becomes a handle, and of commands
that make no call. -/
theorem SameCalls.loose {s s' : Inst σ}
    (roots : ∀ t root, root = .activity ∨ root = .child → (s'.ofRoot t root ↔ s.ofRoot t root))
    (commands : calls s'.commands = calls s.commands)
    (activities : s'.pendingActivities = s.pendingActivities)
    (childWorkflows : s'.pendingChildWorkflows = s.pendingChildWorkflows)
    (signals : s'.pendingExternalSignals = s.pendingExternalSignals)
    (cancels : s'.pendingExternalCancels = s.pendingExternalCancels)
    (seqs : s'.currSeqs = s.currSeqs) (handles : s'.activities = s.activities)
    (children : s'.children = s.children) (promises : s'.promises = s.promises)
    (nextPromise : s'.nextPromise = s.nextPromise) : SameCalls s s' where
  commands := commands
  activities := activities
  childWorkflows := childWorkflows
  signals := signals
  cancels := cancels
  seqs := fun _ _ => by rw [seqs]
  handles := fun t => by rw [handles]; exact ⟨rfl, rfl, rfl⟩
  children := children
  states := fun p => by rw [promises]
  nextPromise := nextPromise
  roots := roots

theorem Inst.ofRoot_setTask {s : Inst σ} {t t' : FutId} {task new : Task} {root : Root}
    (isTask : s.tasks t' = some task) (same : new.root = task.root) :
    (s.setTask t' new).ofRoot t root ↔ s.ofRoot t root := by
  constructor
  · exact fun h => Inst.ofRoot_of_setTask isTask h same
  · intro old
    by_cases here : t = t'
    · subst here
      obtain ⟨task', isTask', isRoot⟩ := old
      rw [isTask, Option.some.injEq] at isTask'
      subst isTask'
      exact (Inst.ofRoot_update (s := s) rfl).mpr (.inl ⟨rfl, same.trans isRoot⟩)
    · exact (Inst.ofRoot_update (s := s) rfl).mpr (.inr ⟨here, old⟩)

theorem cancelCommand_call (h : ActivityHandle) : h.cancelCommand.call? = none := by
  unfold ActivityHandle.cancelCommand
  split <;> rfl

theorem Atom.sameCalls {k : Kind} {s s' : Inst σ} (h : Atom k s s') (wf : s.WellFormed)
    (foreign : k.foreign = true) : SameCalls s s' := by
  have added {c : Command} (other : c.call? = none) :
      calls (s.commands ++ [c]) = calls s.commands := by
    simp [calls, other]
  have same (t : FutId) (root : Root) (_ : root = .activity ∨ root = .child) :
      s.ofRoot t root ↔ s.ofRoot t root := .rfl
  have pushed {c : Command} (other : c.call? = none) : SameCalls s (s.pushCommand c) :=
    .loose same (added other) rfl rfl rfl rfl rfl rfl rfl rfl rfl
  have timed (kind : SeqKind) (other : kind ≠ .timer) :
      Function.update s.currSeqs .timer (s.currSeqs .timer + 1) kind = s.currSeqs kind :=
    Function.update_of_ne other _ _
  have shields {p : PromiseId} {promise : Promise} (unchanged : promise.state = (s.promises p).state)
      (p' : PromiseId) : (Function.update s.promises p promise p').state = (s.promises p').state := by
    by_cases here : p' = p
    · rw [here, Function.update_self, unchanged]
    · rw [Function.update_of_ne here]
  cases h with
  | newActivity | strayActivity | schedule | scheduleBroken | returned | childSeq | newChild
  | strayChild | startChild | startChildBroken | signal | cancelExternal | fulfill | popActivity
  | popChild | popSignal | popCancel | backoffSeq | backoff | childRunId | resolveCancel | fire =>
    cases foreign
  | cancelActivity | cancelOwn => exact pushed (cancelCommand_call _)
  | cancelChild | cancelSignal => exact pushed rfl
  | timer | sleepTimer | refusedTimer =>
    have commands (delay : Int) :
        calls (s.commands ++ [.startTimer (s.currSeqs .timer + 1) delay]) = calls s.commands :=
      added rfl
    exact { SameCalls.refl s with commands := commands _, seqs := timed }
  | cancelTimer =>
    exact .loose same (added rfl) rfl rfl rfl rfl rfl rfl rfl rfl rfl
  | createUser | strayUser | bareUser =>
    refine .loose (fun t root handle => Inst.ofRoot_made wf rfl ?_) rfl rfl rfl rfl rfl rfl rfl
      rfl rfl rfl
    rcases handle with rfl | rfl <;> simp
  | request _ isTask | mustCancel _ isTask | setPoint _ isTask | clearCancel _ isTask =>
    refine .loose (fun t root handle => ?_) rfl rfl rfl rfl rfl rfl rfl rfl rfl rfl
    exact Inst.ofRoot_setTask isTask rfl
  | started _ t =>
    refine { SameCalls.refl s with handles := fun t' => ?_ }
    by_cases here : t' = t <;> simp [Inst.setActivity, here]
  | shield _ t => exact { SameCalls.refl s with states := shields rfl }
  | unshield => exact { SameCalls.refl s with states := shields rfl }
  | _ => exact .loose same rfl rfl rfl rfl rfl rfl rfl rfl rfl rfl

theorem Move.sameCalls {k : Kind} {s s' : Inst σ} (h : Move k s s') (wf : s.WellFormed)
    (foreign : k.foreign = true) : SameCalls s s' := by
  have added {c : Command} (other : c.call? = none) :
      calls (s.commands ++ [c]) = calls s.commands := by
    simp [calls, other]
  have same (t : FutId) (root : Root) (_ : root = .activity ∨ root = .child) :
      s.ofRoot t root ↔ s.ofRoot t root := .rfl
  have made {s' : Inst σ} {new : Task} (coded : new.root.outbound = false)
      (tasks : s'.tasks = Function.update s.tasks s.nextFut (some new)) (t : FutId) (root : Root)
      (handle : root = .activity ∨ root = .child) : s'.ofRoot t root ↔ s.ofRoot t root := by
    refine Inst.ofRoot_made wf tasks ?_
    rintro rfl
    rcases handle with same | same <;> rw [same] at coded <;> cases coded
  cases h with
  | turn => cases foreign
  | command _ _ plain =>
    refine .loose same (added ?_) rfl rfl rfl rfl rfl rfl rfl rfl rfl
    revert plain
    cases ‹Command› <;> simp [Command.plain, Command.call?]
  | updateResponse => exact .loose same (added rfl) rfl rfl rfl rfl rfl rfl rfl rfl rfl
  | memoize =>
    refine .loose same ?_ rfl rfl rfl rfl rfl rfl rfl rfl rfl
    unfold Inst.memoized
    dsimp only
    split
    · exact added rfl
    · rw [List.append_nil]
  | answer _ _ _ _ at_i | updateAnswer _ _ _ _ at_i =>
    exact .loose same (filterMap_set_of_none at_i rfl rfl) rfl rfl rfl rfl rfl rfl rfl rfl rfl
  | signalTask | straySignal =>
    exact .loose (made rfl rfl) rfl rfl rfl rfl rfl rfl rfl rfl rfl rfl
  | spawn _ _ ofJob | strayJob _ _ _ ofJob =>
    exact .loose (made ofJob rfl) rfl rfl rfl rfl rfl rfl rfl rfl rfl rfl
  | wake _ isTask =>
    refine .loose (fun t root handle => ?_) rfl rfl rfl rfl rfl rfl rfl rfl rfl rfl
    exact Inst.ofRoot_setTask isTask rfl
  | _ => exact .loose same rfl rfl rfl rfl rfl rfl rfl rfl rfl rfl

theorem Moves.sameCalls {K : List Kind} {s s' : Inst σ} (h : Moves K s s') (wf : s.WellFormed)
    (foreign : ∀ k ∈ K, k.foreign = true) : SameCalls s s' := by
  refine (h.keeps (I := SameCalls s) wf (.refl s) ?_).1
  intro a b wfa allowed frame
  rcases allowed with ⟨k, member, atom⟩ | ⟨k, member, move⟩
  · rcases List.mem_cons.mp member with rfl | member
    · exact frame.trans (atom.sameCalls wfa rfl)
    · exact frame.trans (atom.sameCalls wfa (foreign k member))
  · exact frame.trans (move.sameCalls wfa (foreign k member))

end TemporalSdk.Workflow
