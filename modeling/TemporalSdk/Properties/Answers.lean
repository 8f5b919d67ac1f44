import TemporalSdk.Transition
import TemporalSdk.Properties.Activation
import TemporalSdk.Properties.Calls

/-!
# Core and the instance

Core answers the calls whose commands have been handed over to it. This module
puts the two parties together: core keeps its own books of what it has answered,
and hands over activations whose answers say what the outcome is and are for
outstanding calls only. A call that raises after its command was added would be
outstanding for core alone, so there is none of these.

## Main results

* `answers_apply`: whatever the two have done so far, such an answer finds its
  entry and an open future, so that only a result or a failure that does not
  decode, a read-only context that a query handler has left behind, or a cancelled
  request to cancel an external workflow makes the instance refuse it.
* `parties_agree`: between activations the instance has an entry for exactly the
  calls that are outstanding for core.

## Proof strategy

`Books` holds by the lemmas on calls, and gives the first result for every
answer to a call that has an entry. Core's books and those of the instance are
`Tickets` over the same calls, and differ by the jobs that are still to be
applied.
-/
namespace TemporalSdk.Workflow

open Eff

variable {σ : Type} {s s' : Inst σ} {det : Details σ}

/-! ### Answers that are refused -/

/-- The result that a job carries. -/
def Job.value? : Job → Option Payload
  | .resolveActivity _ (.completed value) | .resolveChildWorkflowExecution _ (.completed value) => value
  | _ => none

/-- The failure that a job carries. -/
def Job.failure? : Job → Option Failure
  | .resolveActivity _ (.failed failure) | .resolveActivity _ (.cancelled failure)
  | .resolveChildWorkflowExecution _ (.failed failure)
  | .resolveChildWorkflowExecution _ (.cancelled failure)
  | .resolveChildWorkflowExecutionStart _ (.cancelled failure) => some failure
  | .resolveSignalExternalWorkflow _ failure
  | .resolveRequestCancelExternalWorkflow _ failure => failure
  | _ => none

/-- The job says what the outcome of a call is. -/
def Job.complete : Job → Bool
  | .resolveActivity _ .unset | .resolveChildWorkflowExecution _ .unset
  | .resolveChildWorkflowExecutionStart _ .unset => false
  | _ => true

/-- The job is about a call. -/
def Job.answers (job : Job) : Bool :=
  job.ends?.isSome || job.begins?.isSome || !job.complete

/-- Why the answer to a call that has an entry is refused. -/
inductive Refusal (det : Details σ) (s : Inst σ) (job : Job) (e : Exc) : Prop
  | unreadable {payload : Payload} {ty : Option PyType} {s' : Inst σ}
      (value : job.value? = some payload)
      (fails : resolvedValue det (some payload) ty s' = (.error e, s'))
  | unreadableFailure {failure : Failure} {err : Error} (failed : job.failure? = some failure)
      (fails : det.fromFailure failure = .error err) (same : e = .error err)
  | readOnly (mode : s.readOnly = true)
  | cancelled {seq : Nat} {failure : Option Failure} {f : FutId}
      (isCancel : job = .resolveRequestCancelExternalWorkflow seq failure)
      (entry : s.pendingExternalCancels seq = some f) (state : (s.futs f).state = .cancelled)

theorem setPromiseOutcome_error {p : PromiseId} {outcome : PromiseOutcome} {e : Exc}
    (pending : (s.promises p).state = none)
    (run : setPromiseOutcome p outcome s = (.error e, s')) : s.readOnly = true := by
  rw [setPromiseOutcome_run] at run
  simp only [pending, Option.isSome_none, Bool.false_eq_true, if_false, Prod.mk.injEq] at run
  obtain ⟨raised, -⟩ := run
  split at raised
  next mode =>
    simp only [Bool.and_eq_true] at mode
    exact mode.1
  · cases raised

theorem resolvedValue_state (det : Details σ) (value : Option Payload) (ty : Option PyType)
    (s : Inst σ) : (resolvedValue det value ty s).2 = s :=
  (resolvedValue_steady (R := Eq) det value ty s).symm

/-- A result is decoded, and the promise that waits for it completed. -/
theorem Refusal.of_value {job : Job} {value : Option Payload} {ty : Option PyType} {p : PromiseId}
    {e : Exc} (u : Inst σ) (isValue : job.value? = value) (mode : u.readOnly = s.readOnly)
    (pending : (u.promises p).state = none)
    (run : (do
      let v ← resolvedValue det value ty
      setPromiseOutcome p (.result v)) u = (.error e, s')) : Refusal det s job e := by
  rw [bind_run] at run
  have same := resolvedValue_state det value ty u
  cases decoded : resolvedValue det value ty u with
  | mk r s₂ =>
    rw [decoded] at run same
    subst same
    cases r with
    | ok v => exact .readOnly (mode ▸ setPromiseOutcome_error pending run)
    | error e' =>
      cases run
      cases value with
      | none => cases decoded
      | some payload => exact .unreadable isValue decoded

/-- A failure is decoded before it is used. -/
theorem Refusal.of_failure {β : Type} {job : Job} {failure : Failure} {f : Error → Wf σ β} {u : Inst σ}
    {e : Exc} (failed : job.failure? = some failure)
    (used : ∀ err, f err u = (.error e, s') → Refusal det s job e)
    (run : (raiseError (det.fromFailure failure) >>= f) u = (.error e, s')) :
    Refusal det s job e := by
  cases decoded : det.fromFailure failure with
  | ok err =>
    rw [decoded] at run
    exact used err run
  | error err =>
    rw [decoded] at run
    cases run
    exact .unreadableFailure failed decoded rfl

variable {made : Call → Prop} {begun : Nat → Prop}

theorem activityResolveBackoff_error {t : FutId} {b : DoBackoff} {e : Exc}
    (pending : (s.promises (s.activities t).resultFut).state = none)
    (run : activityResolveBackoff t b s = (.error e, s')) : s.readOnly = true := by
  rw [activityResolveBackoff, bind_ok (by rfl), state_bind_run, update_bind_run] at run
  change (setPromiseOutcome (s.activities t).resultFut (.backoff b) >>= fun _ => _) (s.reseqed t) = _
    at run
  rw [bind_run] at run
  cases settled : setPromiseOutcome (s.activities t).resultFut (.backoff b) (s.reseqed t) with
  | mk r s₁ =>
    rw [settled] at run
    cases r with
    | error e' => exact setPromiseOutcome_error (s := s.reseqed t) pending settled
    | ok u => cases run

theorem Refusal.activity (books : Books made begun s) {seq : Nat} {result : ActivityResolution}
    (complete : (Job.resolveActivity seq result).complete = true)
    (held : s.awaits (.activity, seq) = true) {e : Exc}
    (run : applyResolveActivity det seq result s = (.error e, s')) :
    Refusal det s (.resolveActivity seq result) e := by
  obtain ⟨t, entry⟩ := Option.isSome_iff_exists.mp held
  obtain ⟨-, -, pending⟩ := books.activities.table seq t entry
  simp only [applyResolveActivity, state_bind_run, entry] at run
  change activityResolve det t (s.activities t) result (s.activityPopped seq) = _ at run
  have failed (err : Error)
      (run : (s.activities t).resolveFailure err (s.activityPopped seq) = (.error e, s')) :
      Refusal det s (.resolveActivity seq result) e := by
    unfold ActivityHandle.resolveFailure at run
    split at run
    · exact .readOnly (setPromiseOutcome_error (s := s.activityPopped seq) pending run)
    · cases run
  cases result with
  | completed value =>
    exact .of_value (s.activityPopped seq) rfl rfl pending run
  | failed failure => exact .of_failure rfl failed run
  | cancelled failure => exact .of_failure rfl failed run
  | backoff b => exact .readOnly (activityResolveBackoff_error (s := s.activityPopped seq) pending run)
  | unset => cases complete

/-- The two futures of a child workflow are not the same. -/
theorem Books.childFutures (books : Books made begun s) {c : FutId} (isChild : s.ofRoot c .child) :
    (s.children c).startFut ≠ (s.children c).resultFut := by
  intro same
  cases books.owned.only (.childStart c) (.childResult c) _ ⟨isChild, same⟩ ⟨isChild, rfl⟩

/-- `_resolve_failure` finds the result open, and the start too unless it is known. -/
theorem childFailed_error {h : ChildWorkflowHandle} {e' : Error} {e : Exc}
    (result : (s.promises h.resultFut).state = none) (apart : h.startFut ≠ h.resultFut)
    (run : h.resolveFailure e' s = (.error e, s')) : s.readOnly = true := by
  simp only [ChildWorkflowHandle.resolveFailure, state_bind_run] at run
  split at run
  · exact setPromiseOutcome_error result run
  next open_ =>
    rw [bind_run] at run
    cases first : setPromiseOutcome h.startFut (.exception e') s with
    | mk r s₁ =>
      have start : (s.promises h.startFut).state = none := by simpa using open_
      rw [first] at run
      cases r with
      | error e₁ => exact setPromiseOutcome_error start first
      | ok u =>
        obtain ⟨-, rfl⟩ := setPromiseOutcome_ok first
        have others := (s.fulfilled_states h.startFut (.exception e')).2 _ apart.symm
        exact setPromiseOutcome_error (s := s.fulfilled h.startFut (.exception e'))
          (others ▸ result) run

theorem Refusal.child (books : Books made begun s) {seq : Nat} {result : ChildWorkflowResult}
    (complete : (Job.resolveChildWorkflowExecution seq result).complete = true)
    (held : s.awaits (.childWorkflow, seq) = true) {e : Exc}
    (run : applyResolveChildWorkflowExecution det seq result s = (.error e, s')) :
    Refusal det s (.resolveChildWorkflowExecution seq result) e := by
  obtain ⟨c, entry⟩ := Option.isSome_iff_exists.mp held
  obtain ⟨isChild, -, pending⟩ := books.children.table seq c entry
  have apart := books.childFutures isChild
  have failed (err : Error)
      (run : (s.children c).resolveFailure err (s.childPopped seq) = (.error e, s')) :
      Refusal det s (.resolveChildWorkflowExecution seq result) e :=
    .readOnly (childFailed_error (s := s.childPopped seq) pending apart run)
  simp only [applyResolveChildWorkflowExecution, state_bind_run, entry] at run
  cases result with
  | completed value => exact .of_value (s.childPopped seq) rfl rfl pending run
  | failed failure => exact .of_failure rfl failed run
  | cancelled failure => exact .of_failure rfl failed run
  | unset => cases complete

theorem Refusal.childStart (books : Books made begun s) {seq : Nat} {status : ChildWorkflowStart}
    (complete : (Job.resolveChildWorkflowExecutionStart seq status).complete = true)
    (held : s.awaits (.childWorkflow, seq) = true)
    (fresh : (Job.resolveChildWorkflowExecutionStart seq status).begins? = some seq → ¬begun seq)
    {e : Exc} (run : applyResolveChildWorkflowExecutionStart det seq status s = (.error e, s')) :
    Refusal det s (.resolveChildWorkflowExecutionStart seq status) e := by
  obtain ⟨c, entry⟩ := Option.isSome_iff_exists.mp held
  obtain ⟨isChild, -, pending⟩ := books.children.table seq c entry
  have apart := books.childFutures isChild
  simp only [applyResolveChildWorkflowExecutionStart, state_bind_run, entry] at run
  cases status with
  | succeeded runId =>
    have start := books.children.unbegun seq c entry (fresh rfl)
    exact .readOnly (setPromiseOutcome_error
      (s := s.setChild c { s.children c with firstExecutionRunId := runId }) start run)
  | failed alreadyExists workflowId =>
    exact .readOnly (childFailed_error (s := s.childPopped seq) pending apart run)
  | cancelled failure =>
    refine .of_failure rfl (fun err run => ?_) run
    exact .readOnly (childFailed_error (s := s.childPopped seq) pending apart run)
  | unset => cases complete

theorem Refusal.signal (books : Books made begun s) {seq : Nat} {failure : Option Failure}
    (held : s.awaits (.externalSignal, seq) = true) {e : Exc}
    (run : applyResolveSignalExternalWorkflow det seq failure s = (.error e, s')) :
    Refusal det s (.resolveSignalExternalWorkflow seq failure) e := by
  obtain ⟨p, entry⟩ := Option.isSome_iff_exists.mp held
  have pending := books.signals.table seq p entry
  simp only [applyResolveSignalExternalWorkflow, state_bind_run, entry] at run
  cases failure with
  | some failure =>
    refine .of_failure rfl (fun err run => ?_) run
    exact .readOnly (setPromiseOutcome_error (s := s.signalPopped seq) pending run)
  | none => exact .readOnly (setPromiseOutcome_error (s := s.signalPopped seq) pending run)

theorem Refusal.cancel (books : Books made begun s) {seq : Nat} {failure : Option Failure}
    (held : s.awaits (.externalCancel, seq) = true) {e : Exc}
    (run : applyResolveRequestCancelExternalWorkflow det seq failure s = (.error e, s')) :
    Refusal det s (.resolveRequestCancelExternalWorkflow seq failure) e := by
  obtain ⟨f, entry⟩ := Option.isSome_iff_exists.mp held
  simp only [applyResolveRequestCancelExternalWorkflow, state_bind_run, entry] at run
  have settled {new : FutState} (run : setOutcome f new (s.cancelPopped seq) = (.error e, s')) :
      Refusal det s (.resolveRequestCancelExternalWorkflow seq failure) e := by
    rcases books.cancels.table seq f entry with pending | cancelled
    · have alive : (s.cancelPopped seq).isDone f = false := by
        change (s.futs f).state.done = false
        rw [pending]
        rfl
      rw [setOutcome_pending alive, Prod.mk.injEq] at run
      obtain ⟨raised, -⟩ := run
      split at raised
      next mode =>
        simp only [Bool.and_eq_true] at mode
        exact .readOnly mode.1
      · cases raised
    · exact .cancelled rfl entry cancelled
  cases failure with
  | some failure => exact .of_failure rfl (fun err run => settled run) run
  | none => exact settled run

/-- A job that answers a call with an entry is refused for these reasons only. -/
theorem Refusal.job (books : Books made begun s) {job : Job} (complete : job.complete = true)
    (held : ∀ call, job.ends? = some call → s.awaits call = true)
    (begins : ∀ seq, job.begins? = some seq → s.awaits (.childWorkflow, seq) = true ∧ ¬begun seq)
    (answers : job.answers = true) {e : Exc} (run : applyJob det job s = (.error e, s')) :
    Refusal det s job e := by
  cases job with
  | resolveActivity seq result => exact .activity books complete (held _ rfl) run
  | resolveChildWorkflowExecution seq result => exact .child books complete (held _ rfl) run
  | resolveChildWorkflowExecutionStart seq status =>
    have entry : s.awaits (.childWorkflow, seq) = true := by
      cases status with
      | succeeded => exact (begins seq rfl).1
      | failed | cancelled => exact held _ rfl
      | unset => cases complete
    exact .childStart books complete entry (fun isBegun => (begins seq isBegun).2) run
  | resolveSignalExternalWorkflow seq failure => exact .signal books (held _ rfl) run
  | resolveRequestCancelExternalWorkflow seq failure => exact .cancel books (held _ rfl) run
  | _ => cases answers

/-! ### Core's books -/

/-- What core has answered so far. -/
structure Core where
  ended : List Call
  begun : List Nat
  deriving DecidableEq

namespace Core

/-- The calls that core has been asked for and has not answered. -/
def outstanding (issued : List Call) (core : Core) (call : Call) : Bool :=
  issued.contains call && !core.ended.contains call

def answer (core : Core) (job : Job) : Core :=
  ⟨core.ended ++ job.ends?.toList, core.begun ++ job.begins?.toList⟩

def answerAll (core : Core) (jobs : List Job) : Core := jobs.foldl answer core

/-- Answers are for outstanding calls, and the start of a child workflow is
reported once. -/
def may (issued : List Call) (core : Core) (job : Job) : Bool :=
  job.complete && job.ends?.all (core.outstanding issued) &&
    job.begins?.all fun seq =>
      core.outstanding issued (.childWorkflow, seq) && !core.begun.contains seq

def mayAll (issued : List Call) : Core → List Job → Bool
  | _, [] => true
  | core, job :: rest => core.may issued job && mayAll issued (core.answer job) rest

variable {issued : List Call} {core : Core}

theorem answerAll_append (jobs jobs' : List Job) :
    core.answerAll (jobs ++ jobs') = (core.answerAll jobs).answerAll jobs' :=
  List.foldl_append

theorem mayAll_append (jobs jobs' : List Job) :
    mayAll issued core (jobs ++ jobs') =
      (mayAll issued core jobs && mayAll issued (core.answerAll jobs) jobs') := by
  induction jobs generalizing core with
  | nil => rfl
  | cons job jobs ih => simp only [List.cons_append, mayAll, ih, Bool.and_assoc]; rfl

theorem outstanding_mono {issued' : List Call} (more : issued ⊆ issued') {call : Call}
    (h : core.outstanding issued call = true) : core.outstanding issued' call = true := by
  simp only [outstanding, Bool.and_eq_true, List.contains_iff_mem] at h ⊢
  exact ⟨more h.1, h.2⟩

theorem mayAll_mono {issued' : List Call} (more : issued ⊆ issued') {jobs : List Job}
    (may : mayAll issued core jobs = true) : mayAll issued' core jobs = true := by
  induction jobs generalizing core with
  | nil => rfl
  | cons job jobs ih =>
    simp only [mayAll, Core.may, Bool.and_eq_true] at may ⊢
    obtain ⟨⟨⟨complete, ends⟩, begins⟩, others⟩ := may
    refine ⟨⟨⟨complete, ?_⟩, ?_⟩, ih others⟩
    · cases isEnd : job.ends? with
      | none => rfl
      | some call =>
        rw [isEnd] at ends
        exact outstanding_mono more ends
    · cases isBegin : job.begins? with
      | none => rfl
      | some seq =>
        rw [isBegin] at begins
        simp only [Option.all_some, Bool.and_eq_true] at begins ⊢
        exact ⟨outstanding_mono more begins.1, begins.2⟩

theorem ended_answerAll (jobs : List Job) :
    (core.answerAll jobs).ended = core.ended ++ jobs.filterMap Job.ends? := by
  induction jobs generalizing core with
  | nil => simp [answerAll]
  | cons job jobs ih =>
    change ((core.answer job).answerAll jobs).ended = _
    rw [ih, answer, List.append_assoc]
    cases ends : job.ends? <;> simp [ends]

/-- The answers to come are for calls that are outstanding. -/
theorem outstanding_of_mayAll {jobs : List Job} (may : mayAll issued core jobs = true) {call : Call}
    (answered : call ∈ jobs.filterMap Job.ends?) : core.outstanding issued call = true := by
  induction jobs generalizing core with
  | nil => cases answered
  | cons job jobs ih =>
    simp only [mayAll, Core.may, Bool.and_eq_true] at may
    obtain ⟨⟨⟨-, ends⟩, -⟩, others⟩ := may
    have later (member : call ∈ jobs.filterMap Job.ends?) : core.outstanding issued call = true := by
      have after := ih others member
      simp only [outstanding, answer, Bool.and_eq_true, Bool.not_eq_true', Bool.eq_false_iff, ne_eq,
        List.contains_iff_mem, List.mem_append, not_or] at after ⊢
      exact ⟨after.1, after.2.1⟩
    cases isEnd : job.ends? with
    | none =>
      rw [List.filterMap_cons_none isEnd] at answered
      exact later answered
    | some first =>
      rw [List.filterMap_cons_some isEnd] at answered
      rcases List.mem_cons.mp answered with rfl | member
      · rw [isEnd] at ends
        exact ends
      · exact later member

theorem answer_other {job : Job} (other : job.answers = false) : core.answer job = core := by
  simp only [Job.answers, Bool.or_eq_false_iff, Option.isSome_eq_false_iff,
    Option.isNone_iff_eq_none] at other
  simp [answer, other.1.1, other.1.2]

theorem may_other {job : Job} (other : job.answers = false) : core.may issued job = true := by
  simp only [Job.answers, Bool.or_eq_false_iff, Option.isSome_eq_false_iff,
    Option.isNone_iff_eq_none, Bool.not_eq_false'] at other
  simp [may, other.1.1, other.1.2, other.2]

/-- Jobs that answer no call are of no account. -/
theorem answerAll_filter (jobs : List Job) :
    core.answerAll (jobs.filter Job.answers) = core.answerAll jobs := by
  induction jobs generalizing core with
  | nil => rfl
  | cons job jobs ih =>
    cases answers : job.answers with
    | true =>
      rw [List.filter_cons_of_pos answers]
      exact ih
    | false =>
      rw [List.filter_cons_of_neg (by simp [answers]), ih]
      change _ = (core.answer job).answerAll jobs
      rw [answer_other answers]

theorem mayAll_filter (jobs : List Job) :
    mayAll issued core (jobs.filter Job.answers) = mayAll issued core jobs := by
  induction jobs generalizing core with
  | nil => rfl
  | cons job jobs ih =>
    cases answers : job.answers with
    | true =>
      rw [List.filter_cons_of_pos answers]
      simp only [mayAll, ih]
    | false =>
      rw [List.filter_cons_of_neg (by simp [answers]), ih, mayAll, answer_other answers,
        may_other answers, Bool.true_and]

end Core

/-- The answers are all in one job set, in the order they came. -/
theorem filter_jobSets (jobs : List Job) :
    (jobSets jobs).flatten.filter Job.answers = jobs.filter Job.answers := by
  have set (job : Job) (answers : job.answers = true) : jobSet job = 2 := by
    cases job <;> first | rfl | cases answers
  have others (index : Nat) (other : index ≠ 2) : (jobsOf index jobs).filter Job.answers = [] := by
    rw [List.filter_eq_nil_iff]
    intro job member answers
    have isSet := (List.mem_filter.mp member).2
    rw [set job answers] at isSet
    rw [beq_iff_eq] at isSet
    exact other isSet.symm
  rw [jobSets_eq]
  simp only [List.flatten_cons, List.flatten_nil, List.filter_append, List.append_nil,
    others 0 (by simp), others 1 (by simp), others 3 (by simp), List.nil_append]
  rw [jobsOf, List.filter_filter]
  refine List.filter_congr fun job _ => ?_
  cases answers : job.answers with
  | true => simp [set job answers]
  | false => rfl

/-! ### What is still to be applied -/

/-- The jobs of the activation that have not been applied. -/
def Control.todo : Control → List Job
  | .idle => []
  | .jobs rest frame => rest ++ frame.later.flatten
  | .sets frame | .enter frame | .outer frame | .inner frame | .code _ frame => frame.later.flatten

def Entry.job? : Entry → Option Job
  | .applied job => some job
  | _ => none

theorem Processed.jobs {index : Nat} {sets : List (List Job)} {entries : List Entry}
    (h : Processed index sets entries) : entries.filterMap Entry.job? = sets.flatten := by
  have set (index : Nat) (jobs : List Job) (checks : Nat) :
      (setEntries index jobs checks).filterMap Entry.job? = jobs := by
    unfold setEntries
    split
    next empty => simp [List.isEmpty_iff.mp empty]
    · have applied : (jobs.map Entry.applied).filterMap Entry.job? = jobs := by
        rw [List.filterMap_map]
        exact List.filterMap_some
      have checked : (List.replicate checks (Entry.checked index)).filterMap Entry.job? = [] :=
        List.filterMap_replicate_of_none rfl
      rw [List.filterMap_append, List.filterMap_append, applied, checked]
      simp [Entry.job?]
  induction sets generalizing index entries with
  | nil =>
    cases h
    rfl
  | cons jobs later ih =>
    obtain ⟨checks, rest, -, rfl, processed⟩ := h
    rw [List.filterMap_append, set, ih processed, List.flatten_cons]

/-- The jobs that have been applied, and then those that are still to be
applied, are the jobs of the activation. -/
theorem Progress.todo {start : List Entry} {sets : List (List Job)} {m : Machine σ}
    (progress : Progress start sets m) (quiet : ∀ e ∈ m.journal, e.refused = false) :
    ∃ entries, m.journal = start ++ entries ∧
      entries.filterMap Entry.job? ++ m.control.todo = sets.flatten := by
  have inSet {frame : Frame} {rest : List Job} {entries : List Entry}
      (h : InSet sets frame rest entries) :
      entries.filterMap Entry.job? ++ (rest ++ frame.later.flatten) = sets.flatten := by
    obtain ⟨past, before, applied, checks, rfl, -, -, processed, -, rfl⟩ := h
    have jobs : (applied.map Entry.applied).filterMap Entry.job? = applied := by
      rw [List.filterMap_map]
      exact List.filterMap_some
    have checked : (List.replicate checks (Entry.checked frame.index)).filterMap Entry.job? = [] :=
      List.filterMap_replicate_of_none rfl
    rw [List.filterMap_append, List.filterMap_append, processed.jobs, jobs, checked]
    simp
  unfold Progress at progress
  cases control : m.control with
  | idle =>
    simp only [control] at progress
    rcases progress with ⟨entries, processed, journal⟩ | ⟨e, -, frame, rest, entries, -, journal⟩
    · exact ⟨entries, journal, by rw [processed.jobs]; exact List.append_nil _⟩
    · cases quiet (.raised e) (by simp [journal])
  | sets frame =>
    simp only [control] at progress
    obtain ⟨past, entries, rfl, -, processed, journal⟩ := progress
    exact ⟨entries, journal, by rw [processed.jobs, Control.todo, List.flatten_append]⟩
  | jobs rest frame =>
    simp only [control] at progress
    obtain ⟨entries, h, journal⟩ := progress
    exact ⟨entries, journal, inSet h⟩
  | enter frame | outer frame | inner frame | code ctx frame =>
    simp only [control] at progress
    obtain ⟨entries, h, journal⟩ := progress
    exact ⟨entries, journal, inSet h⟩

/-- What the instance has heard from core. -/
def heard (journal : List Entry) : Core := ⟨resolved journal, reported journal⟩

theorem heard_append (journal entries : List Entry) :
    heard (journal ++ entries) = (heard journal).answerAll (entries.filterMap Entry.job?) := by
  induction entries generalizing journal with
  | nil => simp [Core.answerAll]
  | cons e entries ih =>
    rw [List.append_cons, ih]
    cases isJob : e.job? with
    | some job =>
      have one : heard (journal ++ [e]) = (heard journal).answer job := by
        simp only [heard, Core.answer, resolved_append, reported, List.filterMap_append]
        cases e with
        | applied job' =>
          cases isJob
          cases ends : job.ends? <;> cases begins : job.begins? <;>
            simp [resolved, Entry.ends?, ends, begins]
        | _ => cases isJob
      rw [one, List.filterMap_cons_some isJob]
      rfl
    | none =>
      have same : heard (journal ++ [e]) = heard journal := by
        simp only [heard, resolved_append, reported, List.filterMap_append]
        cases e with
        | applied => cases isJob
        | _ => exact congrArg₂ Core.mk (List.append_nil _) (List.append_nil _)
      rw [same, List.filterMap_cons_none isJob]

/-! ### The two parties -/

structure Session (σ : Type) where
  worker : Machine σ
  core : Core

/-- The jobs that core sends with a step. -/
def Label.jobs : Label σ → List Job
  | .activate jobs _ => jobs
  | _ => []

namespace Session

def init (det : Details σ) (mem : σ) : Session σ := ⟨Machine.init det mem, ⟨[], []⟩⟩

def step (det : Details σ) (c : Session σ) (l : Label σ) : Option (Session σ) :=
  (Workflow.step det c.worker l).map fun worker => ⟨worker, c.core.answerAll l.jobs⟩

/-- Core answers what the instance has handed over to it, and no call raises
after its command was added. -/
def allows (det : Details σ) (c : Session σ) (l : Label σ) : Bool :=
  Core.mayAll (calls c.worker.sent) c.core l.jobs && l.sound det

/-- The two parties' books are about the same calls. -/
structure Agreed (c : Session σ) : Prop where
  kept : CallsKept c.worker
  answered : c.core.ended ⊆ calls c.worker.sent
  activation : ∃ start jobs, Progress start (jobSets jobs) c.worker ∧
    c.core = (heard start).answerAll jobs ∧
    Core.mayAll (calls c.worker.sent) (heard start) jobs = true

/-- What core is ahead of the instance by. -/
theorem Agreed.ahead {c : Session σ} (agreed : c.Agreed) (clean : c.worker.clean = true) :
    c.core = (heard c.worker.journal).answerAll c.worker.control.todo ∧
      Core.mayAll (calls c.worker.sent) (heard c.worker.journal) c.worker.control.todo = true := by
  obtain ⟨start, jobs, progress, core, may⟩ := agreed.activation
  obtain ⟨entries, journal, split⟩ := progress.todo (clean_iff.mp clean).2
  -- only the order of the answers counts, and it is the same
  have answerAll : c.core = (heard start).answerAll (jobSets jobs).flatten := by
    rw [core, ← Core.answerAll_filter, ← filter_jobSets, Core.answerAll_filter]
  have mayAll : Core.mayAll (calls c.worker.sent) (heard start) (jobSets jobs).flatten = true := by
    rw [← Core.mayAll_filter, filter_jobSets, Core.mayAll_filter, may]
  rw [← split] at answerAll mayAll
  rw [Core.answerAll_append, ← heard_append, ← journal] at answerAll
  rw [Core.mayAll_append, ← heard_append, ← journal, Bool.and_eq_true] at mayAll
  exact ⟨answerAll, mayAll.2⟩

/-- What is outstanding for core as far as the instance has heard has an entry. -/
theorem Agreed.awaits_of_outstanding {c : Session σ} (agreed : c.Agreed) {call : Call}
    (outstanding : (heard c.worker.journal).outstanding (calls c.worker.sent) call = true) :
    c.worker.inst.awaits call = true := by
  simp only [Core.outstanding, heard, Bool.and_eq_true, List.contains_iff_mem, Bool.not_eq_true',
    Bool.eq_false_iff, ne_eq] at outstanding
  refine (agreed.kept.tickets.held call).mpr ⟨?_, outstanding.2⟩
  rw [Machine.emitted, calls_append]
  exact List.mem_append_left _ outstanding.1

theorem init_agreed (det : Details σ) (mem : σ) : (init det mem).Agreed where
  kept := callsKept_init det mem
  answered := List.nil_subset _
  activation := by
    refine ⟨[], [], .inl ⟨[], ?_, rfl⟩, rfl, rfl⟩
    rw [jobSets_eq]
    simp [Processed, jobsOf, setEntries]

theorem step_sent {m m' : Machine σ} {l : Label σ} (wf : m.WellFormed)
    (h : Workflow.step det m l = some m') : calls m.sent ⊆ calls m'.sent := by
  obtain ⟨s, -, settles⟩ := step_settles det wf h
  cases settles with
  | goesOn _ sent | loses _ _ sent => exact sent ▸ List.Subset.refl _
  | begins => exact List.Subset.refl _
  | sends _ _ sent =>
    rw [sent, calls_append]
    exact List.subset_append_left _ _

theorem Agreed.step {c c' : Session σ} {l : Label σ} (agreed : c.Agreed)
    (wf : c.worker.WellFormed) (clean : c.worker.clean = true) (clean' : c'.worker.clean = true)
    (allowed : c.allows det l = true) (h : c.step det l = some c') : c'.Agreed := by
  simp only [allows, Bool.and_eq_true] at allowed
  obtain ⟨may, sound⟩ := allowed
  obtain ⟨m, stepped, rfl⟩ := Option.map_eq_some_iff.mp h
  have known : (c.core.answerAll l.jobs).ended ⊆ calls m.sent := by
    rw [Core.ended_answerAll]
    refine List.append_subset.mpr ⟨List.Subset.trans agreed.answered (step_sent wf stepped), fun call isEnd => ?_⟩
    have outstanding := Core.outstanding_of_mayAll may isEnd
    simp only [Core.outstanding, Bool.and_eq_true, List.contains_iff_mem] at outstanding
    exact step_sent wf stepped outstanding.1
  refine ⟨agreed.kept.step wf stepped (step_callStep agreed.kept wf sound stepped) clean', known, ?_⟩
  cases l with
  | activate jobs isReplaying =>
    simp only [Workflow.step] at stepped
    split at stepped
    next idle =>
      cases stepped
      have ahead := (agreed.ahead clean).1
      rw [idle] at ahead
      rw [ahead] at may ⊢
      exact ⟨c.worker.journal, jobs, activate_progress c.worker jobs isReplaying, rfl, may⟩
    · cases stepped
  | tick | act a =>
    obtain ⟨start, jobs, progress, core, mayAll⟩ := agreed.activation
    refine ⟨start, jobs, step_progress det progress rfl stepped, core, ?_⟩
    exact Core.mayAll_mono (step_sent wf stepped) mayAll

theorem agreed_of_reaches {mem : σ} {c : Session σ}
    (reach : Reaches (Session.step det) (fun c l => c.allows det l = true) (init det mem) c)
    (clean : c.worker.clean = true) : c.Agreed := by
  have invariant : c.worker.WellFormed ∧ (c.worker.clean = true → c.Agreed) := by
    refine reach.invariant (fun c => c.worker.WellFormed ∧ (c.worker.clean = true → c.Agreed))
      ⟨init_wellFormed det mem, fun _ => init_agreed det mem⟩ ?_
    rintro c c' l ⟨wf, agreed⟩ allowed h
    obtain ⟨m, stepped, rfl⟩ := Option.map_eq_some_iff.mp h
    refine ⟨step_wellFormed det wf stepped, fun clean' => ?_⟩
    have clean := step_clean wf stepped clean'
    exact (agreed clean).step wf clean clean' allowed h
  exact invariant.2 clean

/-- Whatever the two parties have done so far, if no call has raised after its
command was added, an answer to an outstanding call is taken, or refused for one
of the reasons in `Refusal`. -/
theorem answers_apply (det : Details σ) (mem : σ) {c : Session σ}
    (reach : Reaches (Session.step det) (fun c l => c.allows det l = true) (init det mem) c)
    (clean : c.worker.clean = true) {job : Job} {rest : List Job} {frame : Frame}
    (next : c.worker.control = .jobs (job :: rest) frame) (answers : job.answers = true) {e : Exc}
    {s : Inst σ} (raises : applyJob det job c.worker.inst = (.error e, s)) :
    Refusal det c.worker.inst job e := by
  have agreed := agreed_of_reaches reach clean
  obtain ⟨-, may⟩ := agreed.ahead clean
  rw [next] at may
  simp only [Control.todo, List.cons_append, Core.mayAll, Core.may, Bool.and_eq_true] at may
  obtain ⟨⟨⟨complete, ends⟩, begins⟩, -⟩ := may
  refine .job agreed.kept.books complete (fun call isEnd => ?_) (fun seq isBegin => ?_) answers raises
  · rw [isEnd] at ends
    exact agreed.awaits_of_outstanding ends
  · rw [isBegin] at begins
    simp only [Option.all_some, Bool.and_eq_true] at begins
    refine ⟨agreed.awaits_of_outstanding begins.1, ?_⟩
    simpa [heard] using begins.2

theorem answers_apply_to_cancelled : ∃ c,
    runChecked (step Details.plain) (allows Details.plain) (init Details.plain 0)
      (scheduledAgain ++ Label.activate [.resolveRequestCancelExternalWorkflow 1 none] false ::
        List.replicate 3 Label.tick) = some c ∧
    Refusal Details.plain c.worker.inst (.resolveRequestCancelExternalWorkflow 1 none)
      (.error .invalidState) := by
  have evaluated : (runChecked (step Details.plain) (allows Details.plain) (init Details.plain 0)
      (scheduledAgain ++ Label.activate [.resolveRequestCancelExternalWorkflow 1 none] false ::
        List.replicate 3 Label.tick)).map (fun c =>
        c.worker.clean && decide (c.worker.control =
          .jobs [.resolveRequestCancelExternalWorkflow 1 none] ⟨2, [[]]⟩) &&
        decide ((applyJob Details.plain (.resolveRequestCancelExternalWorkflow 1 none)
          c.worker.inst).1 = .error (.error .invalidState))) = some true := by
    decide +kernel
  obtain ⟨c, ran, checked⟩ := Option.map_eq_some_iff.mp evaluated
  simp only [Bool.and_eq_true, decide_eq_true_eq] at checked
  exact ⟨c, ran, answers_apply Details.plain 0 (Reaches.of_runChecked .init ran) checked.1.1
    checked.1.2 rfl (Prod.ext checked.2 rfl)⟩

/-- If no call has raised after its command was added, the calls with an entry are
those whose commands have not been handed over yet, those that are outstanding
for core, and those whose answers are among the jobs still to be applied. -/
theorem parties_agree (det : Details σ) (mem : σ) {c : Session σ}
    (reach : Reaches (Session.step det) (fun c l => c.allows det l = true) (init det mem) c)
    (clean : c.worker.clean = true) (call : Call) :
    c.worker.inst.awaits call = true ↔ call ∈ calls c.worker.inst.commands ∨
      c.core.outstanding (calls c.worker.sent) call = true ∨
      ∃ job ∈ c.worker.control.todo, job.ends? = some call := by
  have agreed := agreed_of_reaches reach clean
  obtain ⟨core, may⟩ := agreed.ahead clean
  have apart : (calls c.worker.sent ++ calls c.worker.inst.commands).Nodup := by
    rw [← calls_append]
    exact agreed.kept.tickets.issuedOnce
  have ended : c.core.ended =
      resolved c.worker.journal ++ c.worker.control.todo.filterMap Job.ends? := by
    rw [core, Core.ended_answerAll]
    rfl
  have isTodo : (∃ job ∈ c.worker.control.todo, job.ends? = some call) ↔
      call ∈ c.worker.control.todo.filterMap Job.ends? := List.mem_filterMap.symm
  have isOutstanding : c.core.outstanding (calls c.worker.sent) call = true ↔
      call ∈ calls c.worker.sent ∧ call ∉ resolved c.worker.journal ∧
        call ∉ c.worker.control.todo.filterMap Job.ends? := by
    simp [Core.outstanding, ended]
  rw [isTodo, isOutstanding]
  constructor
  · intro isHeld
    have issued := agreed.kept.tickets.held_issued isHeld
    have notEnded := agreed.kept.tickets.held_open isHeld
    rw [Machine.emitted, calls_append, List.mem_append] at issued
    by_cases todo : call ∈ c.worker.control.todo.filterMap Job.ends?
    · exact .inr (.inr todo)
    · exact issued.symm.imp_right fun sent => .inl ⟨sent, notEnded, todo⟩
  · rintro (command | ⟨sent, notEnded, -⟩ | todo)
    · refine (agreed.kept.tickets.held call).mpr ⟨?_, fun isEnd => ?_⟩
      · rw [Machine.emitted, calls_append]
        exact List.mem_append_right _ command
      · have sent := agreed.answered (ended ▸ List.mem_append_left _ isEnd)
        exact (List.nodup_append.mp apart).2.2 call sent call command rfl
    · refine (agreed.kept.tickets.held call).mpr ⟨?_, notEnded⟩
      rw [Machine.emitted, calls_append]
      exact List.mem_append_left _ sent
    · exact agreed.awaits_of_outstanding (Core.outstanding_of_mayAll may todo)

theorem parties_agree_again : ∃ c,
    runChecked (step Details.plain) (allows Details.plain) (init Details.plain 0) scheduledAgain =
      some c ∧
    c.core.outstanding (calls c.worker.sent) (.activity, 3) = true ∧
    ∀ call, c.worker.inst.awaits call = true ↔ call ∈ calls c.worker.inst.commands ∨
      c.core.outstanding (calls c.worker.sent) call = true ∨
      ∃ job ∈ c.worker.control.todo, job.ends? = some call := by
  have evaluated : (runChecked (step Details.plain) (allows Details.plain) (init Details.plain 0)
      scheduledAgain).map (fun c => c.worker.clean &&
        c.core.outstanding (calls c.worker.sent) (.activity, 3)) = some true := by
    decide +kernel
  obtain ⟨c, ran, checked⟩ := Option.map_eq_some_iff.mp evaluated
  rw [Bool.and_eq_true] at checked
  exact ⟨c, ran, checked.2, parties_agree Details.plain 0 (Reaches.of_runChecked .init ran) checked.1⟩

end Session

end TemporalSdk.Workflow
