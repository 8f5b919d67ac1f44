import TemporalSdk.Workflow.Tasks

/-!
# Activations

`activate` splits the jobs into four sets, applies the jobs of each set and runs
the loop after each set that is not empty. An exception ends the activation.

## Main result

* `activation_processes_job_sets`: the journal of an activation without an
  exception, and when an error is reported the way `activate` means to.

## Proof strategy

`Progress` ties the journal to where `activate` stands; every step keeps it.
What an exception turns into is computed once, for `Machine.raised`.
-/
namespace TemporalSdk.Workflow

open Eff

variable {σ : Type}

/-! ### Job sets -/

/-- The jobs that `activate` puts into set `index`, in the order they came. -/
def jobsOf (index : Nat) (jobs : List Job) : List Job := jobs.filter fun job => jobSet job == index

/-- `job_sets` is the stable partition of the jobs. -/
theorem jobSets_eq (jobs : List Job) :
    jobSets jobs = [jobsOf 0 jobs, jobsOf 1 jobs, jobsOf 2 jobs, jobsOf 3 jobs] := by
  have step (a b c d : List Job) (job : Job) :
      [a, b, c, d].modify (jobSet job) (· ++ [job]) =
        [a ++ jobsOf 0 [job], b ++ jobsOf 1 [job], c ++ jobsOf 2 [job], d ++ jobsOf 3 [job]] := by
    have one (index : Nat) : jobsOf index [job] = if jobSet job = index then [job] else [] := by
      simp [jobsOf, List.filter_cons]
    have set : jobSet job = 0 ∨ jobSet job = 1 ∨ jobSet job = 2 ∨ jobSet job = 3 := by
      cases job <;> simp only [jobSet] <;> decide
    rcases set with set | set | set | set <;> simp [one, set, List.modify_cons]
  have fold (jobs : List Job) (a b c d : List Job) :
      jobs.foldl (fun sets job => sets.modify (jobSet job) (· ++ [job])) [a, b, c, d] =
        [a ++ jobsOf 0 jobs, b ++ jobsOf 1 jobs, c ++ jobsOf 2 jobs, d ++ jobsOf 3 jobs] := by
    induction jobs generalizing a b c d with
    | nil => simp [jobsOf]
    | cons job jobs ih =>
      have split (index : Nat) : jobsOf index (job :: jobs) = jobsOf index [job] ++ jobsOf index jobs :=
        List.filter_append [job] jobs
      rw [List.foldl_cons, step, ih]
      simp only [split, List.append_assoc]
  rw [jobSets, fold]
  simp only [List.nil_append]

/-! ### The journal of the sets processed so far -/

/-- What is noted for a set that is processed without an exception: nothing for
an empty one, else every job, the checks of the wait conditions, and the end of
`_run_once` with an empty ready queue. -/
def setEntries (index : Nat) (jobs : List Job) (checks : Nat) : List Entry :=
  if jobs.isEmpty then []
  else jobs.map Entry.applied ++ List.replicate checks (Entry.checked index) ++ [Entry.ran index []]

/-- The sets, the first of which has this index, are processed with these entries. -/
def Processed : Nat → List (List Job) → List Entry → Prop
  | _, [], entries => entries = []
  | index, set :: later, entries => ∃ checks rest, (checks ≠ 0 → index = 1 ∨ index = 2) ∧
      entries = setEntries index set checks ++ rest ∧ Processed (index + 1) later rest

theorem Processed.snoc {index : Nat} {sets : List (List Job)} {entries : List Entry}
    (h : Processed index sets entries) (set : List Job) (checks : Nat)
    (allowed : checks ≠ 0 → index + sets.length = 1 ∨ index + sets.length = 2) :
    Processed index (sets ++ [set])
      (entries ++ setEntries (index + sets.length) set checks) := by
  induction sets generalizing index entries with
  | nil =>
    cases h
    exact ⟨checks, [], allowed, by simp, rfl⟩
  | cons first later ih =>
    obtain ⟨checks', rest, allowed', rfl, processed⟩ := h
    have shift : index + (first :: later).length = index + 1 + later.length := by
      simp only [List.length_cons]
      omega
    rw [shift] at allowed ⊢
    exact ⟨checks', _, allowed', by rw [List.append_assoc], ih processed allowed⟩

/-- The entries while the jobs `rest` of the current set are still to be applied:
the sets before it are processed, those after it are not looked at. -/
def InSet (sets : List (List Job)) (frame : Frame) (rest : List Job) (entries : List Entry) :
    Prop :=
  ∃ past before applied checks, sets = past ++ (applied ++ rest) :: frame.later ∧
    past.length = frame.index ∧ applied ++ rest ≠ [] ∧ Processed 0 past before ∧
    (checks ≠ 0 → rest = [] ∧ frame.checks = true) ∧
    entries = before ++ applied.map .applied ++ List.replicate checks (.checked frame.index)

/-- An exception has ended the activation. -/
def Stopped (start : List Entry) (sets : List (List Job)) (m : Machine σ) (e : Exc) : Prop :=
  m.control = .idle ∧
    ∃ frame rest entries, InSet sets frame rest entries ∧ m.journal = start ++ entries ++ [.raised e]

/-- How far an activation has come that began with the journal `start`. -/
def Progress (start : List Entry) (sets : List (List Job)) (m : Machine σ) : Prop :=
  match m.control with
  | .idle => (∃ entries, Processed 0 sets entries ∧ m.journal = start ++ entries) ∨
      ∃ e, Stopped start sets m e
  | .sets frame => ∃ past entries, sets = past ++ frame.later ∧ past.length = frame.index ∧
      Processed 0 past entries ∧ m.journal = start ++ entries
  | .jobs rest frame => ∃ entries, InSet sets frame rest entries ∧ m.journal = start ++ entries
  | .enter frame | .outer frame | .inner frame | .code _ frame =>
    ∃ entries, InSet sets frame [] entries ∧ m.journal = start ++ entries

theorem activate_progress (m : Machine σ) (jobs : List Job) (isReplaying : Bool) :
    Progress m.journal (jobSets jobs) (m.activate jobs isReplaying) :=
  ⟨[], [], rfl, rfl, rfl, by simp [Machine.activate]⟩

theorem InSet.apply {sets : List (List Job)} {frame : Frame} {job : Job} {rest : List Job}
    {entries : List Entry} (h : InSet sets frame (job :: rest) entries) :
    InSet sets frame rest (entries ++ [Entry.applied job]) := by
  obtain ⟨past, before, applied, checks, split, index, nonempty, processed, checked, rfl⟩ := h
  have none : checks = 0 := by
    by_contra some
    cases (checked some).1
  subst none
  exact ⟨past, before, applied ++ [job], 0, by simpa using split, index, by simp, processed,
    by simp, by simp⟩

theorem InSet.check {sets : List (List Job)} {frame : Frame} {entries : List Entry}
    (h : InSet sets frame [] entries) (checks : frame.checks = true) :
    InSet sets frame [] (entries ++ [Entry.checked frame.index]) := by
  obtain ⟨past, before, applied, n, split, index, nonempty, processed, checked, rfl⟩ := h
  exact ⟨past, before, applied, n + 1, split, index, nonempty, processed, fun _ => ⟨rfl, checks⟩,
    by rw [List.replicate_succ', List.append_assoc]⟩

theorem InSet.ran {sets : List (List Job)} {frame : Frame} {entries : List Entry}
    (h : InSet sets frame [] entries) : ∃ past, sets = past ++ frame.later ∧
      past.length = frame.index + 1 ∧ Processed 0 past (entries ++ [Entry.ran frame.index []]) := by
  obtain ⟨past, before, applied, n, split, index, nonempty, processed, checked, rfl⟩ := h
  have notEmpty : applied.isEmpty = false := by simpa using nonempty
  have next := processed.snoc applied n (by
    intro some
    have := (checked some).2
    simpa [Frame.checks, index] using this)
  refine ⟨past ++ [applied], by simpa using split, by simp [index], ?_⟩
  rw [Nat.zero_add, index] at next
  simpa [setEntries, notEmpty] using next

/-- An exception that leaves a set ends the activation there. -/
theorem raised_stopped (det : Details σ) {m : Machine σ} {start : List Entry}
    {sets : List (List Job)} {frame : Frame} {rest : List Job} {entries : List Entry} (e : Exc)
    (inSet : InSet sets frame rest entries) (journal : m.journal = start ++ entries) :
    Stopped start sets (m.raised det e) e :=
  ⟨raised_control det m e, frame, rest, entries, inSet, by rw [raised_journal, journal]⟩

/-- What `handle._run()` leaves: the activation goes on in the same set, or an
exception has ended it. -/
theorem handleDone_progress (det : Details σ) {m : Machine σ} {start : List Entry}
    {sets : List (List Job)} {frame : Frame} {entries : List Entry} (s : Inst σ)
    (inSet : InSet sets frame [] entries) (journal : m.journal = start ++ entries) :
    Progress start sets (m.handleDone det s frame) := by
  unfold Machine.handleDone
  split
  · split
    next e _ _ =>
      have stopped := raised_stopped det (m := m.goto s (.inner frame)) (.error e) inSet journal
      unfold Progress
      rw [stopped.1]
      exact .inr ⟨_, stopped⟩
    · exact ⟨entries, inSet, journal⟩
  · exact ⟨entries, inSet, journal⟩

theorem handleRaised_progress (det : Details σ) {m : Machine σ} {start : List Entry}
    {sets : List (List Job)} {frame : Frame} {entries : List Entry} (s : Inst σ) (e : Exc)
    (inSet : InSet sets frame [] entries) (journal : m.journal = start ++ entries) :
    Progress start sets (m.handleRaised det s frame e) := by
  rcases handleRaised_cases det m s frame e with ⟨-, out⟩ | reported
  · have stopped := raised_stopped det (m := m.goto s (.inner frame)) e inSet journal
    rw [out]
    unfold Progress
    rw [stopped.1]
    exact .inr ⟨_, stopped⟩
  · rw [reported]
    exact handleDone_progress det _ inSet journal

theorem handleNext_progress (det : Details σ) {m : Machine σ} {start : List Entry}
    {sets : List (List Job)} {frame : Frame} {entries : List Entry}
    (r : Except Exc (Option Ctx) × Inst σ) (inSet : InSet sets frame [] entries)
    (journal : m.journal = start ++ entries) :
    Progress start sets (m.handleNext det frame r) := by
  unfold Machine.handleNext
  split
  · exact ⟨entries, inSet, journal⟩
  · exact handleDone_progress det _ inSet journal
  · exact handleRaised_progress det _ _ inSet journal

theorem raised_progress (det : Details σ) {m : Machine σ} {start : List Entry}
    {sets : List (List Job)} {frame : Frame} {rest : List Job} {entries : List Entry} (e : Exc)
    (inSet : InSet sets frame rest entries) (journal : m.journal = start ++ entries) :
    Progress start sets (m.raised det e) := by
  have stopped := raised_stopped det e inSet journal
  unfold Progress
  rw [stopped.1]
  exact .inr ⟨e, stopped⟩

theorem tick_progress (det : Details σ) {m m' : Machine σ} {start : List Entry}
    {sets : List (List Job)} (progress : Progress start sets m) (h : tick det m = some m') :
    Progress start sets m' := by
  unfold Progress at progress
  cases tick_cases det h with
  -- the end of `activate`: no set is left
  | complete control =>
    rw [control] at progress
    obtain ⟨past, entries, split, -, processed, journal⟩ := progress
    unfold Progress
    rw [complete_control]
    rw [List.append_nil] at split
    exact .inl ⟨entries, by rw [split]; exact processed, by rw [complete_journal]; exact journal⟩
  -- an empty set has no jobs, no loop and no check of conditions
  | skipSet control =>
    rw [control] at progress
    obtain ⟨past, entries, split, index, processed, journal⟩ := progress
    refine ⟨past ++ [[]], entries, by simpa using split, by simp [index], ?_, journal⟩
    simpa [setEntries] using processed.snoc [] 0 (by simp)
  | openSet control =>
    rw [control] at progress
    obtain ⟨past, entries, split, index, processed, journal⟩ := progress
    exact ⟨entries, ⟨past, entries, [], 0, split, index, by simp, processed, by simp, by simp⟩,
      journal⟩
  | applied control run =>
    rw [control] at progress
    obtain ⟨entries, inSet, journal⟩ := progress
    exact ⟨_, inSet.apply, by simp [Machine.note, Machine.goto, journal]⟩
  | applyRaised control run =>
    rw [control] at progress
    obtain ⟨entries, inSet, journal⟩ := progress
    exact raised_progress det _ inSet journal
  -- `_run_once` has come to its end: the set is processed
  | ran control ready =>
    rw [control] at progress
    obtain ⟨entries, inSet, journal⟩ := progress
    obtain ⟨past, split, index, processed⟩ := inSet.ran
    exact ⟨past, _, split, index, processed, by simp [Machine.note, journal, ready]⟩
  | handle control ready =>
    rw [control] at progress
    obtain ⟨entries, inSet, journal⟩ := progress
    exact handleNext_progress det _ inSet journal
  -- one more round of the loop for the conditions that were met
  | checked control ready checks run =>
    rw [control] at progress
    obtain ⟨entries, inSet, journal⟩ := progress
    exact ⟨_, inSet.check checks, by simp [Machine.note, Machine.goto, journal]⟩
  | checkRaised control ready checks run =>
    rw [control] at progress
    obtain ⟨entries, inSet, journal⟩ := progress
    exact raised_progress det _ inSet journal
  | closeSet control | enter control | init control | loop control | unchecked control =>
    rw [control] at progress
    exact progress

theorem perform_progress (det : Details σ) {m m' : Machine σ} {a : Act σ} {start : List Entry}
    {sets : List (List Job)} (progress : Progress start sets m) (h : perform det m a = some m') :
    Progress start sets m' := by
  have inSet {ctx : Ctx} {frame : Frame} (control : m.control = .code ctx frame) :
      ∃ entries, InSet sets frame [] entries ∧ m.journal = start ++ entries := by
    unfold Progress at progress
    rw [control] at progress
    exact progress
  -- workflow code that ends goes back to the loop, or raises out of `activate` from `__init__`
  have finishes {ctx : Ctx} {frame : Frame} (control : m.control = .code ctx frame)
      (r : Except Exc Obj) : Progress start sets (finishContext det m ctx frame r) := by
    obtain ⟨entries, inside, journal⟩ := inSet control
    cases ctx with
    | init =>
      cases r with
      | ok v => exact ⟨entries, inside, journal⟩
      | error e => exact raised_progress det e inside journal
    | callback =>
      cases r with
      | ok v => exact handleDone_progress det _ inside journal
      | error e => exact handleRaised_progress det _ e inside journal
    | validator t job defn i prev => exact handleNext_progress det _ inside journal
    | task t =>
      unfold finishContext
      dsimp only
      split
      · exact handleNext_progress det _ inside journal
      · exact progress
  cases perform_cases det h with
  | ret control v => exact finishes control _
  | raise control e => exact finishes control _
  | call control | await control =>
    obtain ⟨entries, inside, journal⟩ := inSet control
    unfold Progress
    dsimp only
    rw [control]
    exact ⟨entries, inside, journal⟩
  | suspend control =>
    obtain ⟨entries, inside, journal⟩ := inSet control
    exact handleNext_progress det _ inside journal

/-- The steps of an activation that is under way. -/
def Label.inActivation : Label σ → Bool
  | .activate _ _ => false
  | _ => true

theorem step_progress (det : Details σ) {m m' : Machine σ} {l : Label σ} {start : List Entry}
    {sets : List (List Job)} (progress : Progress start sets m) (inside : l.inActivation = true)
    (h : step det m l = some m') : Progress start sets m' := by
  cases l with
  | activate jobs isReplaying => cases inside
  | tick => exact tick_progress det progress h
  | act a => exact perform_progress det progress h

/-! ### What an exception turns into -/

/-- The completion that an error calls for: `successful` with the failure of the
workflow as its last command if the error is a workflow failure that can be
converted, else `failed`, which holds no commands. -/
def CompletesWith (det : Details σ) (err : Error) : Completion → Prop
  | .successful commands => det.isWorkflowFailureException err = true ∧ ∃ f,
      det.toFailure err = .ok f ∧ commands.getLast? = some (.failWorkflowExecution (some f))
  | .failed _ => ¬(det.isWorkflowFailureException err = true ∧ ∃ f, det.toFailure err = .ok f)

/-- What keeps `activate` from losing the error: the truth value of an error that
is not a workflow failure, and for a workflow failure that commands can be added. -/
def Reports (det : Details σ) (readOnly : Bool) (err : Error) : Prop :=
  if det.isWorkflowFailureException err = true then
    (∃ f, det.toFailure err = .ok f) → readOnly = false
  else err.truthy = true

theorem complete_failed (det : Details σ) {m : Machine σ} (alive : m.inst.deleting = false)
    {e : Error} (truthy : e.truthy = true) :
    (m.complete det (some e)).outcome = some (.returned (.failed (det.toFailure e).toOption)) := by
  simp [Machine.complete, Machine.leave, alive, Option.filter, truthy]

theorem complete_successful (det : Details σ) {m : Machine σ} (alive : m.inst.deleting = false)
    {err : Option Error} (falsy : err.filter Error.truthy = none) :
    (m.complete det err).outcome = some (.returned (.successful m.inst.commands)) := by
  simp [Machine.complete, Machine.leave, alive, falsy]

theorem setWorkflowFailure_open (det : Details σ) (err : Error) {s : Inst σ}
    (isOpen : s.open = true) :
    setWorkflowFailure det err s = match det.toFailure err with
      | .ok f => (.ok (), s.pushCommand (.failWorkflowExecution (some f)))
      | .error _ => (.error (.error (.valueError "Failed converting workflow exception")),
          s.pushCommand (.failWorkflowExecution none)) := by
  unfold setWorkflowFailure
  cases det.toFailure err with
  | ok f => exact bind_ok (addCommand_open isOpen)
  | error e => exact bind_ok (addCommand_open isOpen)

theorem setWorkflowFailure_readOnly (det : Details σ) (err : Error) {s : Inst σ}
    (alive : s.deleting = false) (readOnly : s.readOnly = true) :
    setWorkflowFailure det err s = (.error (.error (.readOnlyContext "add command")), s) := by
  have refused (c : Command) :
      addCommand c s = (.error (.error (.readOnlyContext "add command")), s) := by
    simp [addCommand_run, Inst.open, assertNotReadOnly_run, alive, readOnly, Except.map]
  unfold setWorkflowFailure
  cases det.toFailure err with
  | ok f => exact bind_error (refused _)
  | error e => exact bind_error (refused _)

theorem raised_completes (det : Details σ) {m : Machine σ} (alive : m.inst.deleting = false)
    (err : Error) :
    (∃ completion, (m.raised det (.error err)).outcome = some (.returned completion) ∧
      CompletesWith det err completion) ↔ Reports det m.inst.readOnly err := by
  cases failure : det.isWorkflowFailureException err with
  | false =>
    simp only [Machine.raised, Machine.note, Reports, failure, Bool.false_eq_true, if_false, alive]
    -- `if activation_err`: a falsy error is taken for none
    cases truthy : err.truthy with
    | true =>
      rw [complete_failed det (by exact alive) truthy]
      simp [CompletesWith, failure]
    | false =>
      rw [complete_successful det (by exact alive) (by simp [Option.filter, truthy])]
      simp [CompletesWith, failure]
  | true =>
    simp only [Machine.raised, Machine.note, Reports, failure, if_true]
    -- adding the fail command raises in read-only mode, and the error of that is reported
    cases readOnly : m.inst.readOnly with
    | true =>
      rw [setWorkflowFailure_readOnly det err alive readOnly]
      simp only [alive, Bool.false_eq_true, if_false]
      rw [complete_failed det (by exact alive) rfl]
      simp [CompletesWith, failure]
    | false =>
      rw [setWorkflowFailure_open det err (by simp [Inst.open, alive, readOnly])]
      -- the command is there already when its failure is converted
      cases converted : det.toFailure err with
      | ok f =>
        dsimp only
        rw [complete_successful det (by exact alive) rfl]
        simp [CompletesWith, failure, converted, Inst.pushCommand]
      | error e =>
        have alive' : (m.inst.pushCommand (.failWorkflowExecution none)).deleting = false := alive
        simp only [alive', Bool.false_eq_true, if_false]
        rw [complete_failed det (by exact alive) rfl]
        simp [CompletesWith, failure, converted]

/-! ### Recorded errors

A coroutine that records an error then returns, so `_run_once` sees the error
before any other code runs, and no exception is raised on the way. -/

/-- The recorded error stays as it is. -/
def SameError (s s' : Inst σ) : Prop := s'.activationError = s.activationError

instance : IsPreorder (Inst σ) SameError where
  refl _ := rfl
  trans _ _ _ first second := Eq.trans second first

/-- A program that raises has recorded nothing. -/
def RaisesAlone {α : Type} (x : Wf σ α) : Prop :=
  ∀ s e s', x s = (.error e, s') → SameError s s'

theorem RaisesAlone.of_steady {α : Type} {x : Wf σ α} (steady : Steady SameError x) :
    RaisesAlone x := by
  intro s e s' run
  have same := steady s
  rwa [run] at same

theorem addCommand_sameError (c : Command) : Steady SameError (addCommand c : Wf σ Nat) := by
  intro s
  rw [addCommand_run]
  split <;> rfl

theorem setWorkflowFailure_sameError (det : Details σ) (e : Error) :
    Steady SameError (setWorkflowFailure det e) := by
  intro s
  obtain ⟨cs, same⟩ := setWorkflowFailure_inst det e s
  rw [SameError, same]

theorem applyContinueAsNew_sameError (det : Details σ) (input : ContinueAsNewInput) :
    Steady SameError (applyContinueAsNew det input) := by
  unfold applyContinueAsNew
  refine .bind (convertArgs_steady det _) fun payloads => ?_
  refine .bind (.forM (fun _ => .bind (raiseError_steady _) fun _ => .pure _) _) fun _ => ?_
  refine .bind (addCommand_sameError _) fun _ => .bind (applyRetryPolicy_steady _) fun _ => ?_
  split
  · exact raiseError_steady _
  · exact .pure _

theorem topLevelExcept_raisesAlone (det : Details σ) (e : Error) :
    RaisesAlone (topLevelExcept det e) := by
  intro s e' s' run
  simp only [topLevelExcept, state_bind_run] at run
  split at run
  · simp at run
  · split at run
    · exact RaisesAlone.of_steady (.bind (addCommand_sameError _) fun _ => .pure _) _ _ _ run
    · split at run
      · exact RaisesAlone.of_steady (setWorkflowFailure_sameError det e) _ _ _ run
      · simp at run

theorem runTopLevelWorkflowFunction_raisesAlone (det : Details σ) (r : Except Exc Unit) :
    RaisesAlone (runTopLevelWorkflowFunction det r) := by
  cases r with
  | ok u => exact .of_steady (.pure _)
  | error e =>
    cases e with
    | error e => exact topLevelExcept_raisesAlone det e
    | cancelled => exact topLevelExcept_raisesAlone det _
    | continueAsNew input => exact .of_steady (applyContinueAsNew_sameError det input)
    | _ => exact .of_steady (.raise _)

theorem finishWorkflow_raisesAlone (det : Details σ) (r : Except Exc Obj) :
    RaisesAlone (finishWorkflow det r) := by
  have body : Steady SameError (do
      let v ← ofExcept r
      let p ← raiseError (singlePayload det v)
      let _ ← addCommand (.completeWorkflowExecution p)
      pure () : Wf σ Unit) :=
    .bind (.ofExcept _) fun _ => .bind (raiseError_steady _) fun _ =>
      .bind (addCommand_sameError _) fun _ => .pure _
  intro s e s' run
  have same := body s
  rw [finishWorkflow, bind_run, attempt_run] at run
  refine IsTrans.trans _ _ _ same ?_
  generalize ((do
      let v ← ofExcept r
      let p ← raiseError (singlePayload det v)
      let _ ← addCommand (.completeWorkflowExecution p)
      pure () : Wf σ Unit) s) = ran at run ⊢
  obtain ⟨r₁, s₁⟩ := ran
  simp only [state_bind_run] at run
  have others := runTopLevelWorkflowFunction_raisesAlone det r₁ s₁ e s'
  cases r₁ with
  | ok u => exact others run
  | error e₁ =>
    cases e₁ with
    | error err =>
      simp only at run
      split at run
      · simp at run
      · exact others run
    | _ => exact others run

theorem setCommand_sameError (i : Nat) (c : Command) :
    Steady SameError (setCommand i c : Wf σ Unit) :=
  .update fun _ => rfl

theorem updateExcept_raisesAlone (det : Details σ) (job : DoUpdate) (command : Option Nat)
    (pastValidation : Bool) (e : Error) :
    RaisesAlone (updateExcept det job command pastValidation e) := by
  have records (e : Error) : RaisesAlone (recordUpdateError job e : Wf σ Unit) := by
    intro s e' s' run
    simp [recordUpdateError] at run
  have reject (e : Error) (i : Nat) : Steady SameError (do
      setCommand i (.updateResponse job.protocolInstanceId (.rejected none))
      let f ← raiseError (det.toFailure e)
      setCommand i (.updateResponse job.protocolInstanceId (.rejected (some f))) : Wf σ Unit) :=
    .bind (setCommand_sameError _ _) fun _ =>
      .bind (raiseError_steady _) fun _ => setCommand_sameError _ _
  unfold updateExcept
  split
  · exact records _
  · split
    · cases command with
      | some i => exact .of_steady (reject _ i)
      | none => exact .of_steady (.bind (addCommand_sameError _) (reject _))
    · exact records _

theorem updateEnd_raisesAlone (det : Details σ) (job : DoUpdate) (command : Option Nat)
    (pastValidation : Bool) (r : Except Exc Unit) :
    RaisesAlone (updateEnd det job command pastValidation r) := by
  -- what the body raises is raised again after the entry is gone
  have body {x : Wf σ Unit} (alone : RaisesAlone x) : RaisesAlone (do
      let r ← attempt x
      update fun s => { s with inProgressUpdates := s.inProgressUpdates.erase job.id }
      ofExcept r) := by
    intro s e s' run
    cases raised : x s with
    | mk r s₁ =>
      simp only [bind_run, attempt_run, raised, update_run, ofExcept_run, Prod.mk.injEq] at run
      obtain ⟨rfl, rfl⟩ := run
      have same := alone s e s₁ raised
      exact same
  cases r with
  | ok u => exact body (.of_steady (.pure _))
  | error e =>
    cases e with
    | error e => exact body (updateExcept_raisesAlone det job command pastValidation e)
    | cancelled => exact body (updateExcept_raisesAlone det job command pastValidation _)
    | _ =>
      refine body (.of_steady (.read fun s => ?_))
      split
      · exact .pure _
      · exact .raise _

theorem finishUpdate_raisesAlone (det : Details σ) (job : DoUpdate) (r : Except Exc Obj) :
    RaisesAlone (finishUpdate det job r) := by
  have body : Steady SameError (do
      let v ← ofExcept r
      let p ← raiseError (singlePayload det v)
      let _ ← addCommand (.updateResponse job.protocolInstanceId (.completed p))
      pure () : Wf σ Unit) :=
    .bind (.ofExcept _) fun _ => .bind (raiseError_steady _) fun _ =>
      .bind (addCommand_sameError _) fun _ => .pure _
  intro s e s' run
  have same := body s
  rw [finishUpdate, bind_run, attempt_run] at run
  exact IsTrans.trans _ _ _ same (updateEnd_raisesAlone det job none true _ _ _ _ run)

/-- A coroutine that has not returned has recorded nothing. -/
def Silent (x : Wf σ Next) : Prop :=
  ∀ s r s', s.WellFormed → x s = (r, s') → (∀ v, r ≠ .ok (.done (.ok (some v)))) → SameError s s'

theorem Silent.of_moves {K : List Kind} {x : Wf σ Next} (moves : Steady (Moves K) x)
    (notError : Kind.error ∉ K) (notTurn : Kind.turn ∉ K) : Silent x := by
  intro s r s' wf run _
  have moved := moves s
  rw [run] at moved
  exact moved.activationError wf notError notTurn

theorem ended_silent {x : Wf σ Unit} (alone : RaisesAlone x) : Silent (ended x) := by
  intro s r s' _ run running
  rw [ended, bind_run, attempt_run] at run
  simp only [pure_run, Prod.mk.injEq] at run
  obtain ⟨rfl, rfl⟩ := run
  cases body : x s with
  | mk r s₁ =>
    cases r with
    | error e => exact alone s e s₁ body
    | ok u =>
      rw [body] at running
      exact absurd rfl (running 0)

theorem acceptUpdate_silent (det : Details σ) (t : FutId) (job : DoUpdate) (command : Nat) :
    Silent (acceptUpdate det t job command) := by
  intro s r s' wf run running
  simp only [acceptUpdate, setCommand, update_bind_run, state_bind_run] at run
  cases found : s.updates.resolve job.name with
  | none =>
    simp only [found] at run
    have same := ended_silent (updateEnd_raisesAlone det job none true _) _ _ _
      (by exact wf.congr rfl rfl rfl (List.Sublist.refl _) rfl) run running
    exact same
  | some defn =>
    simp only [found, logCall, update_bind_run, pure_run, Prod.mk.injEq] at run
    rw [← run.2]
    unfold SameError
    split <;> rfl

theorem startUpdate_silent (det : Details σ) (t : FutId) (job : DoUpdate) :
    Silent (startUpdate det t job) := by
  intro s r s' wf run running
  rw [startUpdate, bind_run] at run
  cases added : addCommand (.updateResponse job.protocolInstanceId .unset) s with
  | mk r₁ s₁ =>
    have same := addCommand_sameError (.updateResponse job.protocolInstanceId .unset) s
    have member : Kind.update job.protocolInstanceId ∈ [Kind.update job.protocolInstanceId] :=
      List.mem_singleton_self _
    have wf₁ := (addUpdateResponse_moves member .unset s).wellFormed wf
    rw [added] at run same wf₁
    refine IsTrans.trans _ _ _ same ?_
    clear same added
    cases r₁ with
    | error e =>
      simp only [Prod.mk.injEq] at run
      rw [← run.2]
      rfl
    | ok i =>
      have rejected (past : Bool) (e : Except Exc Unit) {s : Inst σ} (wf : s.WellFormed)
          (run : ended (updateEnd det job (some i) past e) s = (r, s')) : SameError s s' :=
        ended_silent (updateEnd_raisesAlone det job (some i) past e) _ _ _ wf run running
      simp only [state_bind_run] at run
      cases found : s₁.updates.resolve job.name with
      | none =>
        rw [found] at run
        exact rejected _ _ wf₁ run
      | some defn =>
        rw [found] at run
        simp only [update_bind_run] at run
        have wf₂ : Inst.WellFormed { s₁ with
            inProgressUpdates := s₁.inProgressUpdates.set job.id job.name } :=
          wf₁.congr rfl rfl rfl (List.Sublist.refl _) rfl
        cases args : det.processHandlerArgs job.name job.input defn with
        | error e =>
          rw [args] at run
          have same := rejected _ _ wf₂ run
          exact same
        | ok args' =>
          rw [args] at run
          simp only at run
          split at run
          · simp only [logCall, update_bind_run, pure_run, Prod.mk.injEq] at run
            rw [← run.2]
            unfold SameError
            dsimp only
            split <;> rfl
          · have same := acceptUpdate_silent det t job _ _ _ _ wf₂ run running
            exact same

theorem startCode_silent (det : Details σ) (t : FutId) (root : Root) :
    Silent (startCode det t root) := by
  cases root with
  | signal job args =>
    intro s r s' wf run running
    rw [startCode, bind_run, attempt_run] at run
    cases found : s.signals.resolve job.signalName with
    | none =>
      simp only [handleSignal, state_bind_run, found, update_bind_run, raise_run] at run
      have same := ended_silent (runTopLevelWorkflowFunction_raisesAlone det _) _ _ _
        (by exact wf.congr rfl rfl rfl (List.Sublist.refl _) rfl) run running
      exact same
    | some defn =>
      simp only [handleSignal, state_bind_run, found, logCall, update_bind_run, pure_run,
        Prod.mk.injEq] at run
      rw [← run.2]
      unfold SameError
      simp only [Inst.log]
      split <;> rfl
  | update job =>
    intro s r s' wf run running
    rw [startCode, bind_run, attempt_run] at run
    cases started : startUpdate det t job s with
    | mk r₁ s₁ =>
      rw [started] at run
      cases r₁ with
      | error e =>
        simp only [pure_run, Prod.mk.injEq] at run
        obtain ⟨rfl, rfl⟩ := run
        exact startUpdate_silent det t job _ _ _ wf started (by simp)
      | ok next =>
        simp only [pure_run, Prod.mk.injEq] at run
        obtain ⟨rfl, rfl⟩ := run
        exact startUpdate_silent det t job _ _ _ wf started running
  | workflow args => exact .of_moves (startCode_moves det t _) (by simp [Root.kinds]) (by simp [Root.kinds])
  | query job => exact .of_moves (startCode_moves det t _) (by simp [Root.kinds]) (by simp [Root.kinds])
  | activity => exact .of_moves (startCode_moves det t _) (by simp [Root.kinds]) (by simp [Root.kinds])
  | child => exact .of_moves (startCode_moves det t _) (by simp [Root.kinds]) (by simp [Root.kinds])
  | user => exact .of_moves (startCode_moves det t _) (by simp [Root.kinds]) (by simp [Root.kinds])

theorem finishCode_silent (det : Details σ) (t : FutId) (root : Root) (r : Except Exc Obj) :
    Silent (finishCode det t root r) := by
  cases root with
  | workflow args => exact ended_silent (finishWorkflow_raisesAlone det r)
  | signal job args => exact ended_silent (runTopLevelWorkflowFunction_raisesAlone det _)
  | update job => exact ended_silent (finishUpdate_raisesAlone det job r)
  | query job | activity | child | user =>
    exact .of_moves (finishCode_moves det t _ r) (by simp [Root.endKinds]) (by simp [Root.endKinds])

theorem finishValidator_silent (det : Details σ) (t : FutId) (job : DoUpdate) (defn : HandlerDefn)
    (i : Nat) (prev : Bool) (r : Except Exc Obj) :
    Silent (finishValidator det t job defn i prev r) := by
  intro s r' s' wf run running
  simp only [finishValidator, update_bind_run] at run
  have wf₁ : Inst.WellFormed { s with readOnly := prev } :=
    wf.congr rfl rfl rfl (List.Sublist.refl _) rfl
  have rejected (e : Except Exc Unit)
      (run : ended (updateEnd det job (some i) false e) { s with readOnly := prev } = (r', s')) :
      SameError s s' := by
    have same := ended_silent (updateEnd_raisesAlone det job (some i) false e) _ _ _ wf₁ run running
    exact same
  cases r with
  | error e => exact rejected _ run
  | ok v =>
    simp only at run
    cases args : det.processHandlerArgs job.name job.input defn with
    | error e =>
      rw [args] at run
      exact rejected _ run
    | ok args' =>
      rw [args] at run
      have same := acceptUpdate_silent det t job i _ _ _ wf₁ run running
      exact same

theorem resume_silent (det : Details σ) (t : FutId) (task : Task) (input : Except Exc Obj) :
    Silent (resume det t task.root task.point input) := by
  by_cases start : task.point = .start
  · rw [start]
    cases input with
    | ok v => exact startCode_silent det t task.root
    | error e =>
      intro s r s' _ run _
      simp only [resume, pure_run, Prod.mk.injEq] at run
      rw [← run.2]
      rfl
  · -- a coroutine that goes on runs into workflow code before it can end
    refine .of_moves (resume_moves det t task input) ?_ ?_ <;>
    · rw [Task.kinds, if_neg start]
      split <;> simp

/-- If the end of a step raises what asyncio lets through, its coroutine had
raised it. -/
theorem stepNext_exits {t : FutId} {next : Next} {s s' : Inst σ} {e : Exc} (exits : e.exits = true)
    (run : stepNext t next s = (.error e, s')) (v : Obj) : next ≠ .done (.ok (some v)) := by
  have kept {new : FutState} {s : Inst σ} (run : settle t new s = (.error e, s')) : False := by
    rw [settle_run, Prod.mk.injEq] at run
    obtain ⟨raised, -⟩ := run
    split at raised
    · rw [← Except.error.inj raised] at exits
      cases exits
    · cases raised
  rintro rfl
  simp only [stepNext, stepEnd, bind_run] at run
  split at run
  · simp at run
  next e' s₁ ended =>
    simp only [Prod.mk.injEq, Except.error.injEq] at run
    obtain ⟨rfl, rfl⟩ := run
    simp only [finishTask, state_bind_run] at ended
    cases isTask : s.tasks t with
    | none => simp [isTask] at ended
    | some task =>
      simp only [isTask] at ended
      split at ended
      · exact kept ended
      · exact kept ended

theorem stepNext_sameError {s : Inst σ} {t : FutId} {task : Task} (wf : s.WellFormed)
    (isTask : s.tasks t = some task) (pending : s.isDone t = false) (next : Next) :
    SameError s (stepNext t next s).2 :=
  (stepNext_moves isTask pending next).activationError wf (by simp) (by simp)

/-- A handle has stopped in workflow code, or lets an exception out of the loop. -/
def Leaves (r : Except Exc (Option Ctx)) : Prop :=
  (∃ ctx, r = .ok (some ctx)) ∨ ∃ e, r = .error e ∧ e.exits = true

/-- What a step of a coroutine has recorded, it has recorded to the end: nothing
has called workflow code, and no exception leaves the loop. -/
theorem stepBody_silent {K : List Kind} {s s' : Inst σ} {t : FutId} (notFinish : Kind.finish t ∉ K)
    {task : Task} (wf : s.WellFormed) (isTask : s.tasks t = some task)
    (pending : s.isDone t = false) {x : Wf σ Next} (moves : Moves K s (x s).2) (silent : Silent x)
    {r : Except Exc (Option Ctx)} (run : (x >>= stepNext t) s = (r, s'))
    (leaves : Leaves r) :
    SameError s s' := by
  rw [bind_run] at run
  cases body : x s with
  | mk r₁ s₁ =>
    rw [body] at run moves
    cases r₁ with
    | error e =>
      simp only [Prod.mk.injEq] at run
      rw [← run.2]
      exact silent s _ s₁ wf body (by simp)
    | ok next =>
      simp only at run
      obtain ⟨⟨task', isTask', -⟩, done⟩ := moves.alive wf notFinish isTask
      have ended := stepNext_sameError (moves.wellFormed wf) isTask' (done.trans pending) next
      rw [run] at ended
      refine IsTrans.trans _ _ _ (silent s _ s₁ wf body fun v => ?_) ended
      rcases leaves with ⟨ctx, rfl⟩ | ⟨e, rfl, exits⟩
      · rw [(stepNext_code run).1]
        simp
      · have kept := stepNext_exits exits run v
        simpa using kept

theorem stepTask_silent (det : Details σ) {t : FutId} {input : Except Exc Obj} {s s' : Inst σ}
    {r : Except Exc (Option Ctx)} (wf : s.WellFormed) (run : stepTask det t input s = (r, s'))
    (leaves : Leaves r) :
    SameError s s' := by
  by_cases idle : ∀ task, s.tasks t = some task → s.isDone t = true
  · have same := (stepTask_idle det input idle).2
    rw [run] at same
    rw [show s' = s from same]
    rfl
  · push Not at idle
    obtain ⟨task, isTask, alive⟩ := idle
    have pending : s.isDone t = false := by simpa using alive
    rw [stepTask_run det input isTask pending] at run
    have woken := Inst.woken_moves isTask pending
    have isTask₁ : (s.woken t task).tasks t =
        some { task with mustCancel := false, point := .running } := by
      simp [Inst.woken, Inst.setTask]
    have notFinish : Kind.finish t ∉ task.kinds t := fun member => by
      cases task.kinds_ofTask t _ member
    have same := stepBody_silent notFinish (woken.wellFormed wf) isTask₁ pending
      (resume_moves det t task _ _) (resume_silent det t task _) run leaves
    exact same

theorem handleCallback_silent (det : Details σ) {h : Handle} {s s' : Inst σ}
    {r : Except Exc (Option Ctx)} (wf : s.WellFormed) (run : handleCallback det h s = (r, s'))
    (leaves : Leaves r) :
    SameError s s' := by
  by_cases steps : ∃ t, s.steps h t
  · obtain ⟨t, steps⟩ := steps
    obtain ⟨input, same⟩ := handleRun_steps det steps
    rw [same] at run
    exact stepTask_silent det wf run leaves
  · cases removes : h.removes with
    | true =>
      -- handles that remove an entry touch nothing else
      cases h with
      | callback cb f =>
        cases cb with
        | tasksRemove | signalDone =>
          simp only [handleCallback, state_bind_run, update_bind_run, pure_run,
            Prod.mk.injEq] at run
          rw [← run.2]
          rfl
        | wakeup | user => cases removes
      | _ => cases removes
    | false =>
      have moves := handleCallback_moves det removes s
      rw [run] at moves
      cases h with
      | taskStep t => exact absurd ⟨t, .inl rfl⟩ steps
      | outerWakeup o => exact absurd ⟨_, .inr (.inr ⟨o, rfl, rfl⟩)⟩ steps
      | callback cb f =>
        cases cb with
        | wakeup t => exact absurd ⟨t, .inr (.inl ⟨f, rfl⟩)⟩ steps
        | _ => exact moves.activationError wf (by simp [Inst.handleKinds]) (by simp [Inst.handleKinds])
      | _ => exact moves.activationError wf (by simp [Inst.handleKinds]) (by simp [Inst.handleKinds])

theorem handleRun_silent (det : Details σ) {h : Handle} {s s' : Inst σ}
    {r : Except Exc (Option Ctx)} (wf : s.WellFormed) (run : handleRun det h s = (r, s'))
    (leaves : Leaves r) :
    SameError s s' := by
  cases called : handleCallback det h s with
  | mk r₁ s₁ =>
    cases r₁ with
    | ok ctx =>
      rw [handleRun_ok called, Prod.mk.injEq] at run
      obtain ⟨rfl, rfl⟩ := run
      exact handleCallback_silent det wf called leaves
    | error e =>
      rw [handleRun_error called] at run
      split at run
      next exits =>
        simp only [Prod.mk.injEq] at run
        rw [← run.2]
        exact handleCallback_silent det wf called (.inr ⟨e, rfl, exits⟩)
      · simp only [Prod.mk.injEq] at run
        rw [← run.1] at leaves
        rcases leaves with ⟨ctx, isCode⟩ | ⟨_, raised, -⟩
        · simp at isCode
        · simp at raised

/-! ### Errors of a step -/

/-- An exception leaves a job application or `_run_once` in the step. -/
def Raises (m m' : Machine σ) (e : Exc) : Prop := m'.journal = m.journal ++ [.raised e]

/-- A handle sets `_current_activation_error` in the step. -/
def Records (m m' : Machine σ) (err : Error) : Prop :=
  m'.inst.activationError = some err ∧ m.inst.activationError ≠ some err

def ErrorOccurs (m m' : Machine σ) (e : Exc) : Prop :=
  Raises m m' e ∨ ∃ err, e = .error err ∧ Records m m' err

/-- The step ends the activation with an exception, which is the recorded error
if there is one, or it raises nothing and records at most a falsy error. -/
inductive Faults (det : Details σ) (m m' : Machine σ) : Prop
  | raised (m₁ : Machine σ) (e : Exc) (same : m' = m₁.raised det e)
      (journal : m₁.journal = m.journal)
      (records : ∀ err, Records m m' err → e = .error err ∧ err.truthy = true)
  | goesOn (journal : ∀ e, ¬Raises m m' e)
      (records : ∀ err, Records m m' err → m'.inst.deleting = false →
        err.truthy = false ∧ m'.control ≠ .idle)

theorem Faults.none {det : Details σ} {m m' : Machine σ} (journal : ∀ e, ¬Raises m m' e)
    (same : m'.inst.activationError = m.inst.activationError) : Faults det m m' :=
  .goesOn journal fun _ ⟨recorded, new⟩ => absurd (same ▸ recorded) new

theorem Faults.raises {det : Details σ} {m : Machine σ} {s : Inst σ} (e : Exc)
    (same : s.activationError = m.inst.activationError) :
    Faults det m (Machine.raised det { m with inst := s } e) := by
  refine .raised _ e rfl rfl fun err ⟨recorded, new⟩ => ?_
  rw [raised_inst] at recorded
  exact absurd (same ▸ recorded) new

theorem not_raises_of_journal {m m' : Machine σ} (same : m'.journal = m.journal) (e : Exc) :
    ¬Raises m m' e := by
  simp [Raises, same]

theorem handleDone_faults (det : Details σ) (m : Machine σ) (s : Inst σ) (frame : Frame) :
    Faults det m (m.handleDone det s frame) := by
  unfold Machine.handleDone
  cases recorded : s.activationError with
  | none =>
    refine .goesOn (not_raises_of_journal rfl) fun err ⟨set, _⟩ => ?_
    have : s.activationError = some err := set
    rw [recorded] at this
    cases this
  | some e =>
    dsimp only
    split
    next thrown =>
      refine .raised _ (.error e) rfl rfl fun err ⟨set, _⟩ => ?_
      rw [raised_inst] at set
      have same : s.activationError = some err := set
      rw [recorded, Option.some.injEq] at same
      subst same
      simp only [Bool.and_eq_true] at thrown
      exact ⟨rfl, thrown.1⟩
    next ignored =>
      refine .goesOn (not_raises_of_journal rfl) fun err ⟨set, _⟩ alive => ?_
      have same : s.activationError = some err := set
      rw [recorded, Option.some.injEq] at same
      subst same
      have alive' : s.deleting = false := alive
      exact ⟨by simpa [alive'] using ignored, by simp [Machine.goto]⟩

theorem handleRaised_faults (det : Details σ) (m : Machine σ) (s : Inst σ) (frame : Frame)
    {e : Exc} (silent : e.exits = true → SameError m.inst s) :
    Faults det m (m.handleRaised det s frame e) := by
  rcases handleRaised_cases det m s frame e with ⟨exits, out⟩ | reported
  · rw [out]
    refine .raised _ e rfl rfl fun err ⟨recorded, new⟩ => ?_
    rw [raised_inst] at recorded
    exact absurd ((silent exits).symm.trans recorded) new
  · rw [reported]
    exact handleDone_faults det m _ frame

theorem handleNext_faults (det : Details σ) (m : Machine σ) (frame : Frame)
    {r : Except Exc (Option Ctx) × Inst σ}
    (silent : ∀ r' s, r = (r', s) → Leaves r' → SameError m.inst s) :
    Faults det m (m.handleNext det frame r) := by
  unfold Machine.handleNext
  split
  next ctx s => exact .none (not_raises_of_journal rfl) (silent _ _ rfl (.inl ⟨ctx, rfl⟩))
  · exact handleDone_faults det m _ frame
  next e s =>
    exact handleRaised_faults det m s frame fun exits => silent _ _ rfl (.inr ⟨e, rfl, exits⟩)

theorem tick_faults (det : Details σ) {m m' : Machine σ} (wf : m.WellFormed)
    (h : tick det m = some m') : Faults det m m' := by
  cases tick_cases det h with
  | complete =>
    exact .none (not_raises_of_journal (complete_journal det m _)) (by rw [complete_inst])
  | @applied job _ _ s _ run =>
    have moves := applyJob_moves det job m.inst
    rw [run] at moves
    exact .none (by simp [Raises, Machine.note, Machine.goto])
      (moves.activationError wf.inst (by cases job <;> simp [Job.kinds])
        (by cases job <;> simp [Job.kinds]))
  | @applyRaised job _ _ s e _ run =>
    have moves := applyJob_moves det job m.inst
    rw [run] at moves
    exact .raises e (moves.activationError wf.inst (by cases job <;> simp [Job.kinds])
      (by cases job <;> simp [Job.kinds]))
  | ran => exact .none (by simp [Raises, Machine.note]) rfl
  | @handle frame handle rest =>
    have popped : (m.inst.setReady rest).WellFormed :=
      wf.inst.congr rfl rfl rfl (List.Sublist.refl _) rfl
    refine handleNext_faults det m frame fun r s run leaves => ?_
    have same := handleRun_silent det popped run leaves
    exact same
  | checked _ _ _ run =>
    have moves := checkConditions_moves m.inst
    rw [run] at moves
    exact .none (by simp [Raises, Machine.note, Machine.goto])
      (moves.activationError wf.inst (by simp) (by simp))
  | checkRaised _ _ _ run =>
    have moves := checkConditions_moves m.inst
    rw [run] at moves
    exact .raises _ (moves.activationError wf.inst (by simp) (by simp))
  | skipSet | openSet | closeSet | enter | init | loop | unchecked =>
    exact .none (not_raises_of_journal rfl) rfl

theorem finishContext_faults (det : Details σ) (m : Machine σ) (ctx : Ctx) (frame : Frame)
    (r : Except Exc Obj) (wf : m.inst.WellFormed) (ready : ctx.Ready m.inst) :
    Faults det m (finishContext det m ctx frame r) := by
  cases ctx with
  | init =>
    cases r with
    | ok v => exact .none (not_raises_of_journal rfl) rfl
    | error e => exact .raises (s := m.inst) e rfl
  | callback =>
    cases r with
    | ok v => exact handleDone_faults det m _ frame
    | error e => exact handleRaised_faults det m _ frame fun _ => rfl
  -- the rest of `run_update` runs in the same step
  | validator t job defn i prev =>
    obtain ⟨⟨task, isTask, -⟩, pending, responds⟩ := ready
    refine handleNext_faults det m frame fun r' s run leaves => ?_
    exact stepBody_silent (K := [.update job.protocolInstanceId, .error, .progress, .book, .mode])
      (by simp) wf isTask pending (finishValidator_moves det t job defn i prev r responds)
      (finishValidator_silent det t job defn i prev r) run leaves
  | task t =>
    obtain ⟨task, isTask, pending, -⟩ := ready
    simp only [finishContext, isTask]
    refine handleNext_faults det m frame fun r' s run leaves => ?_
    exact stepBody_silent (task.root.finish_not_mem_endKinds t) wf isTask pending
      (finishCode_moves det t task.root r m.inst) (finishCode_silent det t task.root r) run leaves

theorem perform_faults (det : Details σ) {m m' : Machine σ} {a : Act σ} (wf : m.WellFormed)
    (h : perform det m a = some m') : Faults det m m' := by
  cases perform_cases det h with
  | ret control v => exact finishContext_faults det m _ _ _ wf.inst (wf.code _ _ control)
  | raise control e => exact finishContext_faults det m _ _ _ wf.inst (wf.code _ _ control)
  | call control enabled =>
    have moves := performCall_moves det 0 a enabled
    exact .none (not_raises_of_journal rfl) (moves.activationError wf.inst
      (fun member => by simpa using a.kinds_subset det 0 member)
      (fun member => by simpa using a.kinds_subset det 0 member))
  | @await t frame _ call r s control enabled await run =>
    have moves := performAwait_moves det t await m.inst
    rw [run] at moves
    exact .none (not_raises_of_journal rfl) (moves.activationError wf.inst
      (fun member => by simpa using a.kinds_subset det t member)
      (fun member => by simpa using a.kinds_subset det t member))
  | @suspend t frame _ call s control enabled await suspended =>
    have moves := performAwait_moves det t await m.inst
    rw [suspended] at moves
    have same : SameError m.inst s := moves.activationError wf.inst
      (fun member => by simpa using a.kinds_subset det t member)
      (fun member => by simpa using a.kinds_subset det t member)
    have after : Moves [.own t] s (stepNext t (.done (.ok none)) s).2 :=
      Steady.bind (afterSuspend_moves (by simp)) (fun _ => .pure _) s
    have ended := after.activationError (moves.wellFormed wf.inst) (by simp) (by simp)
    refine handleNext_faults det m _ fun r' s' run _ => ?_
    have stepped : (stepNext t (.done (.ok none)) s).2 = s' := by rw [run]
    rw [← stepped]
    exact Eq.trans ended same

theorem step_faults (det : Details σ) {m m' : Machine σ} {l : Label σ} (wf : m.WellFormed)
    (inside : l.inActivation = true) (h : step det m l = some m') : Faults det m m' := by
  cases l with
  | activate jobs isReplaying => cases inside
  | tick => exact tick_faults det wf h
  | act a => exact perform_faults det wf h

/-! ### Errors that are reported -/

/-- The error is reported as `activate` means to: no job of a later set is
applied, and the completion is the one that the error calls for. -/
structure Reported (det : Details σ) (start : List Entry) (sets : List (List Job))
    (m : Machine σ) (e : Exc) : Prop where
  stopped : Stopped start sets m e
  completion : ∃ err completion, e = .error err ∧ m.outcome = some (.returned completion) ∧
    CompletesWith det err completion

/-- The error is an `Exception`, one that a handle records has a true truth
value, and `Reports` holds where it is caught. -/
def Reportable (det : Details σ) (m m' : Machine σ) (e : Exc) : Prop :=
  ∃ err, e = .error err ∧ (Records m m' err → err.truthy = true) ∧
    Reports det m'.inst.readOnly err

theorem setEntries_not_raised (index : Nat) (jobs : List Job) (checks : Nat) (e : Exc) :
    .raised e ∉ setEntries index jobs checks := by
  unfold setEntries
  split <;> simp

theorem Processed.not_raised {index : Nat} {sets : List (List Job)} {entries : List Entry}
    (h : Processed index sets entries) (e : Exc) : .raised e ∉ entries := by
  induction sets generalizing index entries with
  | nil =>
    cases h
    simp
  | cons set later ih =>
    obtain ⟨checks, rest, -, rfl, processed⟩ := h
    simp [setEntries_not_raised, ih processed]

/-- The exception that ended an activation is the one in the journal. -/
theorem Progress.stopped {start : List Entry} {sets : List (List Job)} {m : Machine σ} {e : Exc}
    {before : List Entry} (progress : Progress start sets m) (idle : m.control = .idle)
    (grown : start <+: before) (journal : m.journal = before ++ [Entry.raised e]) :
    Stopped start sets m e := by
  unfold Progress at progress
  rw [idle] at progress
  rcases progress with ⟨entries, processed, complete⟩ | ⟨e', stopped⟩
  · obtain ⟨more, rfl⟩ := grown
    rw [journal, List.append_assoc, List.append_cancel_left_eq] at complete
    exact absurd (by simp [← complete]) (processed.not_raised e)
  · obtain ⟨-, frame, rest, entries, -, journal'⟩ := id stopped
    rw [journal] at journal'
    have last := congrArg List.getLast? journal'
    simp only [List.getLast?_concat, Option.some.injEq, Entry.raised.injEq] at last
    rw [last]
    exact stopped

theorem Progress.grown {start : List Entry} {sets : List (List Job)} {m : Machine σ}
    (progress : Progress start sets m) : start <+: m.journal := by
  unfold Progress at progress
  split at progress
  · rcases progress with ⟨entries, -, journal⟩ | ⟨e, -, frame, rest, entries, -, journal⟩
    · exact ⟨entries, journal.symm⟩
    · exact ⟨entries ++ [Entry.raised e], by rw [journal, List.append_assoc]⟩
  · obtain ⟨past, entries, -, -, -, journal⟩ := progress
    exact ⟨entries, journal.symm⟩
  all_goals
    obtain ⟨entries, -, journal⟩ := progress
    exact ⟨entries, journal.symm⟩

theorem error_reported_iff (det : Details σ) {m m' : Machine σ} {l : Label σ}
    {start : List Entry} {sets : List (List Job)} (wf : m.WellFormed)
    (progress : Progress start sets m) (inside : l.inActivation = true)
    (h : step det m l = some m') {e : Exc} (occurs : ErrorOccurs m m' e)
    (alive : m'.inst.deleting = false) :
    Reported det start sets m' e ↔ Reportable det m m' e := by
  have progress' := step_progress det progress inside h
  cases step_faults det wf inside h with
  | goesOn journal records =>
    -- only a falsy error gets here, and the activation goes on
    rcases occurs with raises | ⟨err, rfl, recorded⟩
    · exact absurd raises (journal e)
    · obtain ⟨falsy, running⟩ := records err recorded alive
      refine ⟨fun reported => absurd reported.stopped.1 running, fun ⟨err', same, truthy, _⟩ => ?_⟩
      cases same
      rw [truthy recorded] at falsy
      cases falsy
  | raised m₁ e₀ same journal records =>
    have raises : m'.journal = m.journal ++ [Entry.raised e₀] := by rw [same, raised_journal, journal]
    have isIt : e = e₀ := by
      rcases occurs with raised | ⟨err, rfl, recorded⟩
      · rw [Raises, raises] at raised
        simpa using raised.symm
      · exact (records err recorded).1.symm
    subst isIt
    have stopped := progress'.stopped (by rw [same, raised_control]) progress.grown raises
    have caught : m'.inst = { m₁.inst with commands := [] } := by rw [same, raised_inst]
    have alive₁ : m₁.inst.deleting = false := by
      rw [caught] at alive
      exact alive
    have readOnly : m'.inst.readOnly = m₁.inst.readOnly := by rw [caught]
    cases e with
    | error err =>
      have completes := raised_completes det alive₁ err
      rw [← same, ← readOnly] at completes
      constructor
      · rintro ⟨-, err', completion, isErr, outcome, calledFor⟩
        cases isErr
        exact ⟨err, rfl, fun recorded => (records err recorded).2,
          completes.mp ⟨completion, outcome, calledFor⟩⟩
      · rintro ⟨err', isErr, -, reports⟩
        cases isErr
        obtain ⟨completion, outcome, calledFor⟩ := completes.mpr reports
        exact ⟨stopped, err, completion, rfl, outcome, calledFor⟩
    | _ =>
      constructor
      · rintro ⟨-, err', completion, isErr, -⟩
        cases isErr
      · rintro ⟨err', isErr, -⟩
        cases isErr

/-- An activation that has not ended can go on. -/
theorem activation_proceeds (det : Details σ) {m : Machine σ} (running : m.control ≠ .idle) :
    ∃ l m', l.inActivation = true ∧ step det m l = some m' := by
  cases control : m.control with
  | idle => exact absurd control running
  -- workflow code in control can always return
  | code ctx frame =>
    exact ⟨.act (.ret 0), finishContext det m ctx frame (.ok 0), rfl,
      by simp [step, perform, control, Act.enabled]⟩
  -- every other place has its tick
  | sets frame =>
    obtain ⟨index, later⟩ := frame
    rcases later with _ | ⟨_ | ⟨job, jobs⟩, later⟩ <;>
      exact ⟨.tick, _, rfl, by simp only [step, tick, control]; rfl⟩
  | jobs rest frame =>
    refine ⟨.tick, ?_⟩
    cases rest with
    | nil => exact ⟨_, rfl, by simp only [step, tick, control]; rfl⟩
    | cons job rest =>
      cases run : applyJob det job m.inst with
      | mk r s => cases r <;> exact ⟨_, rfl, by simp only [step, tick, control, run]; rfl⟩
  | enter frame =>
    cases object : m.inst.object.isSome && det.objectTruthy m.inst.mem <;>
      exact ⟨.tick, _, rfl, by simp only [step, tick, control, object]; rfl⟩
  | outer frame =>
    cases ready : m.inst.ready.isEmpty <;>
      exact ⟨.tick, _, rfl, by simp only [step, tick, control, ready]; rfl⟩
  | inner frame =>
    refine ⟨.tick, ?_⟩
    cases ready : m.inst.ready with
    | cons h rest => exact ⟨_, rfl, by simp only [step, tick, control, ready]; rfl⟩
    | nil =>
      cases checks : frame.checks with
      | false =>
        exact ⟨{ m with control := .outer frame }, rfl,
          by simp [step, tick, control, ready, checks]⟩
      | true =>
        cases run : checkConditions m.inst with
        | mk r s => cases r <;> exact ⟨_, rfl, by simp only [step, tick, control, ready, checks, run]; rfl⟩

/-! ### Main result -/

/-- An activation of jobs in any order, from any idle state of any run:

* when it has ended, then every job was applied once, in the order of the stable
  partition into patch notifications, signals and updates, other jobs and queries,
  with the loop run to an empty ready queue after each set that is not empty and
  the wait conditions checked in the second and third only, exactly if no
  exception has left a job application or the loop;
* as long as it has not ended it can go on;
* an error that occurs while the instance is not being evicted is reported as
  meant exactly if it is reportable. -/
theorem activation_processes_job_sets (det : Details σ) (mem : σ) {m₀ m : Machine σ}
    {jobs : List Job} {isReplaying : Bool}
    (reachable : Reach det (fun _ _ => True) (Machine.init det mem) m₀)
    (idle : m₀.control = .idle)
    (activation : Reach det (fun _ l => l.inActivation = true) (m₀.activate jobs isReplaying) m) :
    (m.control = .idle → ((∃ checks₁ checks₂, m.journal = m₀.journal ++
        (setEntries 0 (jobsOf 0 jobs) 0 ++ setEntries 1 (jobsOf 1 jobs) checks₁ ++
          setEntries 2 (jobsOf 2 jobs) checks₂ ++ setEntries 3 (jobsOf 3 jobs) 0)) ↔
      ∀ e, .raised e ∉ m.journal.drop m₀.journal.length)) ∧
    (m.control ≠ .idle → ∃ l m', l.inActivation = true ∧ step det m l = some m') ∧
    ∀ l m' e, l.inActivation = true → step det m l = some m' → ErrorOccurs m m' e →
      m'.inst.deleting = false →
      (Reported det m₀.journal (jobSets jobs) m' e ↔ Reportable det m m' e) := by
  have wf₀ := reachable.wellFormed (init_wellFormed det mem)
  have begin : (m₀.activate jobs isReplaying).WellFormed :=
    step_wellFormed det (l := .activate jobs isReplaying) wf₀ (by simp [step, idle])
  obtain ⟨progress, wf⟩ := activation.invariant (I := Progress m₀.journal (jobSets jobs)) begin
    (activate_progress m₀ jobs isReplaying) fun _ _ _ _ progress inside h =>
      step_progress det progress inside h
  refine ⟨fun ended => ⟨?_, fun clean => ?_⟩, fun running => activation_proceeds det running,
    fun l m' e inside h occurs alive => error_reported_iff det wf progress inside h occurs alive⟩
  · rintro ⟨checks₁, checks₂, journal⟩ e
    rw [journal, List.drop_left]
    simp [setEntries_not_raised]
  unfold Progress at progress
  rw [ended] at progress
  rcases progress with ⟨entries, processed, journal⟩ | ⟨e, -, frame, rest, entries, -, journal⟩
  · rw [jobSets_eq] at processed
    obtain ⟨n₀, _, only₀, rfl, n₁, _, -, rfl, n₂, _, -, rfl, n₃, _, only₃, rfl, rfl⟩ := processed
    have zero₀ : n₀ = 0 := by
      by_contra some
      simpa using only₀ some
    have zero₃ : n₃ = 0 := by
      by_contra some
      simpa using only₃ some
    subst zero₀ zero₃
    exact ⟨n₁, n₂, by rw [journal]; simp only [List.append_assoc, List.append_nil]⟩
  · refine absurd ?_ (clean e)
    rw [journal, List.append_assoc, List.drop_left]
    simp

/-- The jobs of a run that starts a workflow, with a query in front. -/
def startAndQuery : List Job :=
  [.queryWorkflow ⟨"q", "state", []⟩, .startWorkflow [], .notifyHasPatch "p"]

/-- The steps up to the first step of the run method. -/
def untilRunMethod : List (Label Nat) :=
  List.replicate 4 Label.tick ++ [Label.act (.ret 0)] ++ List.replicate 8 Label.tick

theorem activation_processes_job_sets_started :
    (∃ m checks₁ checks₂, run Details.plain ((Machine.init Details.plain 0).activate startAndQuery false)
        (untilRunMethod ++ .act (.ret 3) :: List.replicate 13 .tick) = some m ∧
      m.journal = (Machine.init Details.plain 0).journal ++ (setEntries 0 (jobsOf 0 startAndQuery) 0 ++
        setEntries 1 (jobsOf 1 startAndQuery) checks₁ ++
        setEntries 2 (jobsOf 2 startAndQuery) checks₂ ++ setEntries 3 (jobsOf 3 startAndQuery) 0)) ∧
    ∃ m m', run Details.plain ((Machine.init Details.plain 0).activate startAndQuery false)
        untilRunMethod = some m ∧
      step Details.plain m (.act (.raise (.error (.user 1 true)))) = some m' ∧
      Reported Details.plain [] (jobSets startAndQuery) m' (.error (.user 1 true)) := by
  constructor
  · have evaluated : (run Details.plain
        ((Machine.init Details.plain 0).activate startAndQuery false)
        (untilRunMethod ++ .act (.ret 3) :: List.replicate 13 .tick)).map (fun m =>
          decide (m.control = .idle) && m.journal.all fun
            | .raised _ => false
            | _ => true) = some true := by decide +kernel
    obtain ⟨m, ran, checked⟩ := Option.map_eq_some_iff.mp evaluated
    simp only [Bool.and_eq_true, decide_eq_true_eq, List.all_eq_true] at checked
    have start : Reach Details.plain (fun _ _ => True) (Machine.init Details.plain 0)
        (Machine.init Details.plain 0) := .refl
    have main := activation_processes_job_sets Details.plain 0 start rfl (.of_run ran fun l member _ => by
        have all : (untilRunMethod ++ Label.act (.ret 3) :: List.replicate 13 .tick).all
            Label.inActivation = true := by decide
        exact List.all_eq_true.mp all l member)
    obtain ⟨checks₁, checks₂, journal⟩ := (main.1 checked.1).mpr fun e member => by
      simpa using checked.2 _ (List.mem_of_mem_drop member)
    exact ⟨m, checks₁, checks₂, ran, journal⟩
  · have evaluated : ((run Details.plain
        ((Machine.init Details.plain 0).activate startAndQuery false) untilRunMethod).bind fun m =>
          (step Details.plain m (.act (.raise (.error (.user 1 true))))).map fun m' =>
            decide (m'.journal = m.journal ++ [.raised (.error (.user 1 true))]) &&
              decide (m'.inst.deleting = false)) = some true := by decide +kernel
    obtain ⟨m, ran, stepped⟩ := Option.bind_eq_some_iff.mp evaluated
    obtain ⟨m', raised, checked⟩ := Option.map_eq_some_iff.mp stepped
    simp only [Bool.and_eq_true, decide_eq_true_eq] at checked
    have start : Reach Details.plain (fun _ _ => True) (Machine.init Details.plain 0)
        (Machine.init Details.plain 0) := .refl
    have main := activation_processes_job_sets Details.plain 0 start rfl (.of_run ran fun l member _ => by
        have all : untilRunMethod.all Label.inActivation = true := by decide
        exact List.all_eq_true.mp all l member)
    exact ⟨m, m', ran, raised, (main.2.2 _ m' _ rfl raised (.inl checked.1) checked.2).mpr
      ⟨_, rfl, fun _ => rfl, rfl⟩⟩

/-- An exception object may be falsy. If the run method raises one that is not a
workflow failure, it is recorded and then not seen: the query after it is
applied and the completion is `successful`, without a trace of the error. -/
theorem falsy_error_is_lost : ∃ m m' m'',
    run Details.plain ((Machine.init Details.plain 0).activate startAndQuery false)
      untilRunMethod = some m ∧
    step Details.plain m (.act (.raise (.error (.user 1 false)))) = some m' ∧
    ErrorOccurs m m' (.error (.user 1 false)) ∧ m'.inst.deleting = false ∧
    Details.plain.isWorkflowFailureException (.user 1 false) = false ∧
    run Details.plain m' (List.replicate 13 .tick) = some m'' ∧ m''.control = .idle ∧
    .applied (.queryWorkflow ⟨"q", "state", []⟩) ∈ m''.journal ∧
    m''.outcome = some (.returned (.successful [.respondToQuery "q" (.failed (some 0))])) := by
  have evaluated : ((run Details.plain
      ((Machine.init Details.plain 0).activate startAndQuery false) untilRunMethod).bind fun m =>
        (step Details.plain m (.act (.raise (.error (.user 1 false))))).bind fun m' =>
          (run Details.plain m' (List.replicate 13 .tick)).map fun m'' =>
            decide (m'.inst.activationError = some (.user 1 false)) &&
              decide (m.inst.activationError ≠ some (.user 1 false)) &&
              decide (m'.inst.deleting = false) && decide (m''.control = .idle) &&
              decide (.applied (.queryWorkflow ⟨"q", "state", []⟩) ∈ m''.journal) &&
              decide (m''.outcome =
                some (.returned (.successful [.respondToQuery "q" (.failed (some 0))])))) =
      some true := by decide +kernel
  obtain ⟨m, ran, stepped⟩ := Option.bind_eq_some_iff.mp evaluated
  obtain ⟨m', raised, rest⟩ := Option.bind_eq_some_iff.mp stepped
  obtain ⟨m'', ended, checked⟩ := Option.map_eq_some_iff.mp rest
  simp only [Bool.and_eq_true, decide_eq_true_eq] at checked
  obtain ⟨⟨⟨⟨⟨recorded, new⟩, alive⟩, idle⟩, applied⟩, outcome⟩ := checked
  exact ⟨m, m', m'', ran, raised, .inr ⟨_, rfl, recorded, new⟩, alive, rfl, ended, idle, applied,
    outcome⟩

end TemporalSdk.Workflow
