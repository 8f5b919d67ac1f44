import TemporalSdk.Worker.WorkflowWorker

/-!
# Completions and the cache of the workflow worker

## Main result

`completion_discipline`: in every run in which decoding, instance creation,
`activate`, failure conversion and encoding raise nothing but `Exception`s (and
printable ones where their text is used), each activation has at most one
`complete_workflow_activation` call, with its own run id; a task that has ended
made exactly one, unless it was an eviction whose processing raised, which made
none and was counted; and a run has an instance in `_running_workflows` exactly
if one was created for it and no eviction has succeeded since. Activations of one
run may even overlap.

Other exceptions pass the handlers by: `evicted_error_is_not_counted`.

## Proof strategy

`Move` says what a stretch of a task between two awaits can do. One lemma per
part of `_handle_activation` shows that it makes such a move; `Disciplined` is
kept by each move.
-/

namespace TemporalSdk.Worker

variable {R W C : Type}

/-! ### Histories of the cache -/

/-- An instance was created for the run and it has not been evicted since. -/
def Standing (run : R) (history : List (CacheEvent R)) : Prop :=
  ∃ before after, history = before ++ .created run :: after ∧ .evicted run ∉ after

theorem standing_append {run : R} {history : List (CacheEvent R)} {event : CacheEvent R} :
    Standing run (history ++ [event]) ↔
      event = .created run ∨ (event ≠ .evicted run ∧ Standing run history) := by
  constructor
  · rintro ⟨before, after, split, quiet⟩
    rcases List.eq_nil_or_concat after with rfl | ⟨later, last, rfl⟩
    · obtain ⟨-, same⟩ := List.append_inj' split rfl
      exact Or.inl (List.cons.inj same).1
    · right
      have regroup : before ++ .created run :: (later ++ [last]) =
          (before ++ .created run :: later) ++ [last] := by simp
      rw [List.concat_eq_append, regroup] at split
      obtain ⟨rfl, same⟩ := List.append_inj' split rfl
      obtain rfl := (List.cons.inj same).1
      rw [List.concat_eq_append, List.mem_append, not_or] at quiet
      refine ⟨fun evicted => quiet.2 ?_, before, later, rfl, quiet.1⟩
      rw [evicted]
      exact List.mem_singleton_self _
  · rintro (rfl | ⟨other, before, after, rfl, quiet⟩)
    · exact ⟨history, [], rfl, List.not_mem_nil⟩
    · refine ⟨before, after ++ [event], by simp, ?_⟩
      rw [List.mem_append, not_or]
      exact ⟨quiet, fun last => other (List.mem_singleton.mp last).symm⟩

/-! ### Tasks -/

/-- The calls of `complete_workflow_activation` that a task has made. -/
def State.callsOf (s : State R W C) (i : Nat) : List (Completion R C) :=
  (s.completeCalls.filter fun call => call.1 = i).map Prod.snd

/-- An eviction whose processing raised. -/
def HandleTask.couldNotEvict (t : HandleTask R C) : Bool :=
  t.act.cacheRemoveJob.isSome && t.raised.isSome

/-- What a task has done by the time it is in its phase. -/
def HandleTask.Fits (t : HandleTask R C) (calls : List (Completion R C)) : Prop :=
  match t.phase with
  | .scheduled | .decoding | .activating => calls = [] ∧ t.raised = none
  | .encoding completion =>
    calls = [] ∧ completion.runId = some t.act.runId ∧ t.act.cacheRemoveJob = none
  | .completing =>
    (∃ completion, calls = [completion] ∧ completion.runId = some t.act.runId) ∧
      t.couldNotEvict = false
  | .finished _ =>
    if t.couldNotEvict then calls = []
    else ∃ completion, calls = [completion] ∧ completion.runId = some t.act.runId

/-- The task has not come to the end of the `try`. -/
def Phase.trying : Phase R C → Bool
  | .scheduled | .decoding | .activating => true
  | _ => false

/-- The steps a phase is away from the end, at most. -/
def Phase.remaining : Phase R C → Nat
  | .scheduled => 5
  | .decoding => 4
  | .activating => 3
  | .encoding _ => 2
  | .completing => 1
  | .finished _ => 0

section Moves

variable [DecidableEq R] (cfg : Config) (answers : Answers R W C) (s : State R W C) (i : Nat)
  (t : HandleTask R C)

/-- What a task does between two awaits, when nothing but `Exception`s is raised
    before the completion is sent. -/
inductive Move : State R W C → Prop
  | waits (phase : Phase R C) (before : t.phase.trying) (after : phase.trying)
      (later : phase.remaining < t.phase.remaining) : Move (s.setTask i { t with phase := phase })
  | creates (w : W) (before : t.phase = .scheduled ∨ t.phase = .decoding)
      (starts : t.act.cacheRemoveJob = none) :
      Move ((s.cache t.act.runId w).setTask i { t with phase := .activating })
  | encodes (completion : Completion R C) (raised : Option PyError) (before : t.phase.trying)
      (own : completion.runId = some t.act.runId) (keeps : t.act.cacheRemoveJob = none) :
      Move (s.setTask i { t with phase := .encoding completion, raised := raised })
  | sends (completion : Completion R C) (raised : Option PyError)
      (before : t.phase.trying ∨ ∃ unencoded, t.phase = .encoding unencoded)
      (own : completion.runId = some t.act.runId) (keeps : t.act.cacheRemoveJob = none) :
      Move (s.sendOff i { t with raised := raised } completion)
  | evicts (completion : Completion R C) (before : t.phase.trying)
      (own : completion.runId = some t.act.runId) (removes : t.act.cacheRemoveJob.isSome) :
      Move ((s.evict t.act.runId).sendOff i t completion)
  | givesUp (error : PyError) (before : t.phase.trying) (removes : t.act.cacheRemoveJob.isSome) :
      Move ({ s with couldNotEvictCount := s.couldNotEvictCount + 1 }.setTask i
        { t with phase := .finished none, raised := some error })
  | ends (error thrown : Option PyError) (shutdown : Bool) (before : t.phase = .completing) :
      Move ({ s with throwAfterActivation := thrown, shutdownInitiated := shutdown }.setTask i
        { t with phase := .finished error })

/-- Nothing but `Exception`s is raised by what runs before the completion is
    sent, and those whose text goes into a failure have one. -/
structure Answers.Ordinary : Prop where
  decode : ∀ e, answers.decodeActivation = .error e → e.isException
  create : ∀ e, answers.createInstance = .error e → e.isException
  activate : ∀ e, answers.activate = .raised e → e.isException
  convert : ∀ e, answers.toFailure = .error e → e.isException ∧ e.text.isSome
  encode : ∀ e, answers.encodeCompletion = .error e → e.isException ∧ e.text.isSome

variable {cfg answers s i t}

theorem conclude_moves (completion : Completion R C) (raised : Option PyError)
    (before : t.phase.trying) (whole : t.act.cacheRemoveJob.isSome → raised = t.raised) :
    Move s i t (s.conclude cfg i { t with raised := raised } completion) := by
  simp only [State.conclude]
  cases removes : t.act.cacheRemoveJob with
  | some message =>
    obtain rfl := whole (by rw [removes]; rfl)
    exact Move.evicts _ before rfl (by rw [removes]; rfl)
  | none =>
    dsimp only
    split
    · exact Move.encodes _ raised before rfl removes
    · exact Move.sends _ raised (Or.inl before) rfl removes

theorem handleError_moves (ordinary : answers.Ordinary) {error : PyError}
    (isException : error.isException) (before : t.phase.trying) :
    Move s i t (s.handleError cfg answers i t error) := by
  simp only [State.handleError, if_pos isException]
  cases removes : t.act.cacheRemoveJob with
  | some message => exact Move.givesUp error before (by rw [removes]; rfl)
  | none =>
    have keeps : t.act.cacheRemoveJob.isSome → some error = t.raised := by
      rw [removes]
      exact fun impossible => absurd impossible (by decide)
    cases converted : answers.toFailure with
    | ok result => exact conclude_moves _ (some error) before keeps
    | error inner =>
      obtain ⟨caught, printable⟩ := ordinary.convert inner converted
      obtain ⟨text, printed⟩ := Option.isSome_iff_exists.mp printable
      simp only [caught, if_true, printed]
      exact conclude_moves _ (some error) before keeps

theorem findWorkflow_moves (ordinary : answers.Ordinary)
    (before : t.phase = .scheduled ∨ t.phase = .decoding) :
    Move s i t (s.findWorkflow cfg answers i t) := by
  have trying : t.phase.trying := by
    rcases before with phase | phase <;> rw [phase] <;> rfl
  have later : (Phase.activating : Phase R C).remaining < t.phase.remaining := by
    rcases before with phase | phase <;> rw [phase] <;> simp [Phase.remaining]
  simp only [State.findWorkflow]
  split
  · exact handleError_moves ordinary rfl trying
  · rename_i workflowType _ keeps _
    split
    · exact Move.creates _ before keeps
    · rename_i error failed
      apply handleError_moves ordinary _ trying
      simp only [createWorkflowInstance] at failed
      split at failed
      · exact ordinary.create error failed
      · cases failed
        rfl
  · exact Move.waits _ trying rfl later
  · exact conclude_moves _ t.raised trying fun _ => rfl

theorem runHook_moves (before : t.phase = .completing) :
    Move s i t (s.runHook cfg answers i t) := by
  simp only [State.runHook]
  split
  · split
    · exact Move.ends none _ _ before
    · exact Move.ends _ s.throwAfterActivation s.shutdownInitiated before
  · exact Move.ends none s.throwAfterActivation s.shutdownInitiated before

variable (cfg) in
theorem resume_moves (ordinary : answers.Ordinary) {calls : List (Completion R C)}
    (fits : t.Fits calls) (unfinished : t.phase.isFinished = false) :
    Move s i t (s.resume cfg answers i t) := by
  simp only [State.resume]
  cases phase : t.phase with
  | scheduled =>
    dsimp only
    split
    · exact Move.waits _ (by rw [phase]; rfl) rfl (by rw [phase]; simp [Phase.remaining])
    · exact findWorkflow_moves ordinary (Or.inl phase)
  | decoding =>
    cases decoded : answers.decodeActivation with
    | ok result => exact findWorkflow_moves ordinary (Or.inr phase)
    | error error =>
      exact handleError_moves ordinary (ordinary.decode error decoded) (by rw [phase]; rfl)
  | activating =>
    have before : t.phase.trying := by rw [phase]; rfl
    cases activated : answers.activate with
    | returned completion => exact conclude_moves _ t.raised before fun _ => rfl
    | raised error => exact handleError_moves ordinary (ordinary.activate error activated) before
    | timedOut => exact handleError_moves ordinary rfl before
  | encoding completion =>
    simp only [HandleTask.Fits, phase] at fits
    obtain ⟨-, own, keeps⟩ := fits
    cases encoded : answers.encodeCompletion with
    | ok status => exact Move.sends _ t.raised (Or.inr ⟨_, phase⟩) own keeps
    | error error =>
      obtain ⟨caught, printable⟩ := ordinary.encode error encoded
      obtain ⟨text, printed⟩ := Option.isSome_iff_exists.mp printable
      simp only [caught, if_true, printed]
      exact Move.sends _ t.raised (Or.inr ⟨_, phase⟩) own keeps
  | completing =>
    cases answers.completeWorkflowActivation with
    | ok result => exact runHook_moves phase
    | error error =>
      dsimp only
      split
      · exact runHook_moves phase
      · exact Move.ends _ s.throwAfterActivation s.shutdownInitiated phase
  | finished error =>
    rw [phase] at unfinished
    cases unfinished

end Moves

/-! ### The invariant -/

/-- Every task has made the calls of its phase, evictions that raised are
    counted, and the cache agrees with its history. -/
structure Disciplined [DecidableEq R] (s : State R W C) : Prop where
  fits : ∀ (i : Nat) (t : HandleTask R C), s.tasks[i]? = some t → t.Fits (s.callsOf i)
  called : ∀ call ∈ s.completeCalls, call.1 < s.tasks.length
  counted : s.couldNotEvictCount = s.tasks.countP HandleTask.couldNotEvict
  cached : ∀ run, (s.runningWorkflows.get? run).isSome ↔ Standing run s.cacheHistory

theorem callsOf_append (s : State R W C) (i j : Nat) (completion : Completion R C) :
    { s with completeCalls := s.completeCalls ++ [(i, completion)] }.callsOf j =
      s.callsOf j ++ if i = j then [completion] else [] := by
  simp only [State.callsOf, List.filter_append, List.map_append, List.filter_cons, List.filter_nil]
  split <;> simp_all

theorem fits_set {tasks : List (HandleTask R C)} {calls calls' : Nat → List (Completion R C)}
    {i : Nat} {t' : HandleTask R C}
    (fits : ∀ (j : Nat) (t : HandleTask R C), tasks[j]? = some t → t.Fits (calls j))
    (same : ∀ j, j ≠ i → calls' j = calls j) (new : t'.Fits (calls' i)) :
    ∀ (j : Nat) (t : HandleTask R C), (tasks.set i t')[j]? = some t → t.Fits (calls' j) := by
  intro j t there
  rcases getElem?_set_cases there with ⟨rfl, rfl⟩ | ⟨other, old⟩
  · exact new
  · rw [same j other]
    exact fits j t old

theorem countP_set_same {p : HandleTask R C → Bool} {tasks : List (HandleTask R C)} {i : Nat}
    {t t' : HandleTask R C} (found : tasks[i]? = some t) (same : p t' = p t) :
    (tasks.set i t').countP p = tasks.countP p := by
  obtain ⟨inside, rfl⟩ := List.getElem?_eq_some_iff.mp found
  rw [List.countP_set inside, same]
  split
  · rename_i holds
    have : 0 < tasks.countP p := List.countP_pos_iff.mpr ⟨_, List.getElem_mem inside, holds⟩
    omega
  · omega

theorem not_couldNotEvict {t : HandleTask R C} (whole : t.raised = none) :
    t.couldNotEvict = false := by
  simp [HandleTask.couldNotEvict, whole]

theorem not_couldNotEvict_of_keeps {t : HandleTask R C} (keeps : t.act.cacheRemoveJob = none) :
    t.couldNotEvict = false := by
  simp [HandleTask.couldNotEvict, keeps]

theorem HandleTask.Fits.trying {t : HandleTask R C} {calls : List (Completion R C)} (fits : t.Fits calls)
    (trying : t.phase.trying) : calls = [] ∧ t.raised = none := by
  unfold HandleTask.Fits at fits
  split at fits
  · exact fits
  · exact fits
  · exact fits
  all_goals
    rename_i phase
    rw [phase] at trying
    cases trying

/-- Each move keeps the invariant. -/
theorem Move.disciplined [DecidableEq R] {s s' : State R W C} {i : Nat} {t : HandleTask R C}
    (move : Move s i t s') (found : s.tasks[i]? = some t) (before : Disciplined s) :
    Disciplined s' := by
  obtain ⟨fits, called, counted, cached⟩ := before
  have here := fits i t found
  have inside : i < s.tasks.length := (List.getElem?_eq_some_iff.mp found).1
  have stillCalled : ∀ (t' : HandleTask R C), ∀ call ∈ s.completeCalls,
      call.1 < (s.tasks.set i t').length := by
    intro t' call member
    rw [List.length_set]
    exact called call member
  have nowCalled : ∀ (completion : Completion R C) (t' : HandleTask R C),
      ∀ call ∈ s.completeCalls ++ [(i, completion)], call.1 < (s.tasks.set i t').length := by
    intro completion t' call member
    rcases List.mem_append.mp member with old | new
    · exact stillCalled t' call old
    · rw [List.mem_singleton.mp new, List.length_set]
      exact inside
  have sent : ∀ (completion : Completion R C) (t' : HandleTask R C),
      s.callsOf i = [] → t'.Fits [completion] →
      ∀ (j : Nat) (t : HandleTask R C), (s.tasks.set i t')[j]? = some t →
        t.Fits ({ s with completeCalls := s.completeCalls ++ [(i, completion)] }.callsOf j) := by
    intro completion t' none new
    apply fits_set fits
    · intro j other
      rw [callsOf_append, if_neg (Ne.symm other), List.append_nil]
    · rw [callsOf_append, if_pos rfl, none]
      exact new
  have stillCounted : ∀ t' : HandleTask R C, t'.couldNotEvict = t.couldNotEvict →
      s.couldNotEvictCount = (s.tasks.set i t').countP HandleTask.couldNotEvict := by
    intro t' same
    rw [countP_set_same found same]
    exact counted
  cases move with
  | waits phase trying after later =>
    obtain ⟨none, whole⟩ := here.trying trying
    refine ⟨fits_set fits (fun _ _ => rfl) ?_, stillCalled _, ?_, cached⟩
    · cases phase with
      | scheduled => exact ⟨none, whole⟩
      | decoding => exact ⟨none, whole⟩
      | activating => exact ⟨none, whole⟩
      | _ => cases after
    · exact stillCounted _ rfl
  | creates w early starts =>
    obtain ⟨none, whole⟩ := here.trying (by rcases early with h | h <;> rw [h] <;> rfl)
    refine ⟨fits_set fits (fun _ _ => rfl) ⟨none, whole⟩, stillCalled _, ?_, ?_⟩
    · exact stillCounted _ rfl
    · intro run
      change ((s.runningWorkflows.set t.act.runId w).get? run).isSome ↔
        Standing run (s.cacheHistory ++ [CacheEvent.created t.act.runId])
      rw [Dict.get?_set, standing_append, ← cached]
      by_cases own : run = t.act.runId
      · simp [own]
      · simp [own, Ne.symm own]
  | encodes completion raised trying own keeps =>
    obtain ⟨none, whole⟩ := here.trying trying
    refine ⟨fits_set fits (fun _ _ => rfl) ⟨none, own, keeps⟩, stillCalled _, ?_, cached⟩
    exact stillCounted _ (by simp [HandleTask.couldNotEvict, keeps])
  | sends completion raised unsent own keeps =>
    have none : s.callsOf i = [] := by
      rcases unsent with trying | ⟨unencoded, phase⟩
      · exact (here.trying trying).1
      · simp only [HandleTask.Fits, phase] at here
        exact here.1
    refine ⟨sent completion _ none ⟨⟨_, rfl, own⟩, not_couldNotEvict_of_keeps keeps⟩,
      nowCalled completion _, ?_, cached⟩
    exact stillCounted _ (by simp [HandleTask.couldNotEvict, keeps])
  | evicts completion trying own removes =>
    obtain ⟨none, whole⟩ := here.trying trying
    refine ⟨sent completion _ none ⟨⟨_, rfl, own⟩, not_couldNotEvict whole⟩,
      nowCalled completion _, stillCounted _ rfl, ?_⟩
    intro run
    change ((s.runningWorkflows.erase t.act.runId).get? run).isSome ↔
      Standing run (s.cacheHistory ++ [CacheEvent.evicted t.act.runId])
    rw [Dict.get?_erase, standing_append, ← cached]
    by_cases own : run = t.act.runId
    · simp [own]
    · simp [own, Ne.symm own]
  | givesUp error trying removes =>
    obtain ⟨none, whole⟩ := here.trying trying
    refine ⟨fits_set fits (fun _ _ => rfl) ?_, stillCalled _, ?_, cached⟩
    · change (if _ then _ else _)
      rw [if_pos (by simp [HandleTask.couldNotEvict, removes])]
      exact none
    · change s.couldNotEvictCount + 1 = (s.tasks.set i _).countP _
      obtain ⟨inside, rfl⟩ := List.getElem?_eq_some_iff.mp found
      rw [List.countP_set inside, not_couldNotEvict whole, counted]
      simp [HandleTask.couldNotEvict, removes]
  | ends error thrown shutdown phase =>
    simp only [HandleTask.Fits, phase] at here
    obtain ⟨made, evictable⟩ := here
    refine ⟨fits_set fits (fun _ _ => rfl) ?_, stillCalled _, ?_, cached⟩
    · change (if t.couldNotEvict then _ else _)
      rw [evictable]
      exact made
    · exact stillCounted _ rfl

/-- A move brings its task closer to its end. -/
theorem Move.nearer [DecidableEq R] {s s' : State R W C} {i : Nat} {t : HandleTask R C}
    (move : Move s i t s') (found : s.tasks[i]? = some t) :
    ∃ t', s'.tasks[i]? = some t' ∧ t'.act = t.act ∧ t'.phase.remaining < t.phase.remaining := by
  have inside : i < s.tasks.length := (List.getElem?_eq_some_iff.mp found).1
  have some_left : t.phase.trying → 2 < t.phase.remaining := by
    cases phase : t.phase <;> simp [Phase.trying, Phase.remaining]
  cases move with
  | waits phase trying after later => exact ⟨_, List.getElem?_set_self inside, rfl, later⟩
  | creates w early starts =>
    refine ⟨_, List.getElem?_set_self inside, rfl, ?_⟩
    rcases early with h | h <;> simp [h, Phase.remaining]
  | encodes completion raised trying own keeps =>
    exact ⟨_, List.getElem?_set_self inside, rfl, some_left trying⟩
  | sends completion raised unsent own keeps =>
    refine ⟨_, List.getElem?_set_self inside, rfl, ?_⟩
    change 1 < _
    rcases unsent with trying | ⟨unencoded, phase⟩
    · exact Nat.lt_of_succ_lt (some_left trying)
    · simp [phase, Phase.remaining]
  | evicts completion trying own removes =>
    exact ⟨_, List.getElem?_set_self inside, rfl, Nat.lt_of_succ_lt (some_left trying)⟩
  | givesUp error trying removes =>
    have := some_left trying
    exact ⟨_, List.getElem?_set_self inside, rfl, Nat.lt_of_le_of_lt (Nat.zero_le _) this⟩
  | ends error thrown shutdown phase =>
    refine ⟨_, List.getElem?_set_self inside, rfl, ?_⟩
    simp [phase, Phase.remaining]

/-! ### Runs -/

/-- The condition on a step. -/
def Action.ordinary : Action R W C → Prop
  | .resume _ answers => answers.Ordinary
  | _ => True

theorem initial_disciplined [DecidableEq R] : Disciplined (State.initial R W C) := by
  refine ⟨?_, ?_, rfl, ?_⟩
  · intro i t found
    cases found
  · intro call member
    cases member
  · intro run
    constructor
    · intro found
      cases found
    · rintro ⟨before, after, split, -⟩
      cases before <;> cases split

theorem step_disciplined [DecidableEq R] {cfg : Config} {s s' : State R W C}
    {action : Action R W C} (before : Disciplined s) (ordinary : action.ordinary)
    (stepped : s.step cfg action = some s') : Disciplined s' := by
  cases action with
  | polled act =>
    simp only [State.step] at stepped
    split at stepped
    · cases stepped
      obtain ⟨fits, called, counted, cached⟩ := before
      refine ⟨?_, ?_, ?_, cached⟩
      · intro i t found
        rcases Nat.lt_trichotomy i s.tasks.length with inside | rfl | outside
        · rw [List.getElem?_append_left inside] at found
          exact fits i t found
        · rw [List.getElem?_concat_length] at found
          cases found
          refine ⟨?_, rfl⟩
          -- No call was made under an index that was not there.
          apply List.map_eq_nil_iff.mpr
          apply List.filter_eq_nil_iff.mpr
          intro call member same
          have := called call member
          have := of_decide_eq_true same
          omega
        · rw [List.getElem?_eq_none (by simp; omega)] at found
          cases found
      · intro call member
        have := called call member
        simp only [List.length_append]
        omega
      · simp [counted, HandleTask.couldNotEvict]
    · cases stepped
  | pollShutdown =>
    simp only [State.step] at stepped
    split at stepped
    · cases stepped
      exact ⟨before.fits, before.called, before.counted, before.cached⟩
    · cases stepped
  | pollRaised error =>
    simp only [State.step] at stepped
    split at stepped
    · cases stepped
      exact ⟨before.fits, before.called, before.counted, before.cached⟩
    · cases stepped
  | resume i answers =>
    simp only [State.step] at stepped
    split at stepped
    · rename_i t found
      split at stepped
      · cases stepped
      · rename_i unfinished
        cases stepped
        have fits := before.fits i t found
        apply Move.disciplined _ found before
        exact resume_moves cfg ordinary fits (by simpa using unfinished)
    · cases stepped
  | collected =>
    simp only [State.step] at stepped
    split at stepped
    · split at stepped
      · cases stepped
        exact ⟨before.fits, before.called, before.counted, before.cached⟩
      · cases stepped
    · cases stepped

/-- The discipline of completions and of the cache, in every state of a run. -/
theorem completion_discipline [DecidableEq R] (cfg : Config) {s : State R W C}
    (run : Reaches (State.step cfg) (fun _ action => action.ordinary) (State.initial R W C) s) :
    -- At most one completion for each activation, with its own run id.
    (∀ (i : Nat) (t : HandleTask R C), s.tasks[i]? = some t →
      (∀ completion ∈ s.callsOf i, completion.runId = some t.act.runId) ∧
      (s.callsOf i).length ≤ 1 ∧
      -- A task that has ended made it, unless it is an eviction that raised.
      (t.phase.isFinished → (s.callsOf i).length = if t.couldNotEvict then 0 else 1) ∧
      -- A task that has not ended can go on, and does so only a few times.
      (t.phase.isFinished = false → ∀ answers : Answers R W C, answers.Ordinary →
        ∃ s' t', s.step cfg (.resume i answers) = some s' ∧ s'.tasks[i]? = some t' ∧
          t'.act = t.act ∧ t'.phase.remaining < t.phase.remaining)) ∧
    (∀ call ∈ s.completeCalls, call.1 < s.tasks.length) ∧
    s.couldNotEvictCount = s.tasks.countP HandleTask.couldNotEvict ∧
    ∀ id, (s.runningWorkflows.get? id).isSome ↔ Standing id s.cacheHistory := by
  have inv : Disciplined s := run.invariant Disciplined initial_disciplined step_disciplined
  refine ⟨fun i t found => ?_, inv.called, inv.counted, inv.cached⟩
  have fits := inv.fits i t found
  have counted : (s.callsOf i = [] ∨ ∃ completion, s.callsOf i = [completion] ∧
      completion.runId = some t.act.runId) ∧
      (t.phase.isFinished → (s.callsOf i).length = if t.couldNotEvict then 0 else 1) := by
    unfold HandleTask.Fits at fits
    cases phase : t.phase with
    | finished error =>
      rw [phase] at fits
      cases raised : t.couldNotEvict with
      | true =>
        simp only [raised, if_true] at fits
        exact ⟨Or.inl fits, fun _ => by rw [fits]; rfl⟩
      | false =>
        simp only [raised, Bool.false_eq_true, if_false] at fits
        refine ⟨Or.inr fits, fun _ => ?_⟩
        obtain ⟨completion, made, -⟩ := fits
        rw [made]
        rfl
    | completing =>
      rw [phase] at fits
      exact ⟨Or.inr fits.1, fun ended => by cases ended⟩
    | _ =>
      rw [phase] at fits
      exact ⟨Or.inl fits.1, fun ended => by cases ended⟩
  refine ⟨?_, ?_, counted.2, ?_⟩
  · intro completion member
    rcases counted.1 with none | ⟨made, one, own⟩
    · rw [none] at member
      cases member
    · rw [one, List.mem_singleton] at member
      rw [member]
      exact own
  · rcases counted.1 with none | ⟨made, one, own⟩
    · rw [none]
      exact Nat.zero_le 1
    · rw [one]
      exact Nat.le_refl 1
  · intro unfinished answers ordinary
    obtain ⟨t', found', same, nearer⟩ :=
      (resume_moves cfg ordinary fits unfinished).nearer found
    refine ⟨_, t', ?_, found', same, nearer⟩
    simp only [State.step, found, unfinished]
    rfl

/-- A worker without codec and hook, with one workflow. -/
def oneWorkflow : Config where
  payloadCodec := false
  disableSafeEviction := false
  workflows := ["MyWorkflow"]
  dynamicWorkflow := false
  onEvictionHook := false
  deadlockTimeoutSeconds := some 2

def noFailure : Answers String Unit Unit where
  decodeActivation := .ok ()
  createInstance := .ok ()
  activate := .returned { status := .successful [] }
  toFailure := .ok ()
  encodeCompletion := .ok (.successful [])
  completeWorkflowActivation := .ok ()
  onEvictionHook := .ok ()

/-- A workflow is started and completes its activation; the `activate` of its
    eviction then raises. -/
def evictionRaises (error : PyError) : List (Action String Unit Unit) :=
  [.polled ⟨"run", [.startWorkflow "MyWorkflow"]⟩, .resume 0 noFailure, .resume 0 noFailure,
    .resume 0 noFailure, .polled ⟨"run", [.removeFromCache "cache full"]⟩, .resume 1 noFailure,
    .resume 1 { noFailure with activate := .raised error }]

def tasksRemain : PyError := { isException := true, text := some "Eviction processed, but 1 tasks remain." }

theorem completion_discipline_tasksRemain :
    ∃ s, runActions (State.step oneWorkflow) (State.initial String Unit Unit)
        (evictionRaises tasksRemain) = some s ∧
      s.couldNotEvictCount = s.tasks.countP HandleTask.couldNotEvict ∧
      s.couldNotEvictCount = 1 ∧ Standing "run" s.cacheHistory := by
  obtain ⟨s, ran, counted, cached⟩ : ∃ s, runActions (State.step oneWorkflow)
      (State.initial String Unit Unit) (evictionRaises tasksRemain) = some s ∧
        s.couldNotEvictCount = 1 ∧ (s.runningWorkflows.get? "run").isSome := ⟨_, rfl, rfl, rfl⟩
  have fine : noFailure.Ordinary := by
    constructor <;> intro e raised <;> cases raised
  have raises : ({ noFailure with activate := .raised tasksRemain } :
      Answers String Unit Unit).Ordinary := by
    constructor <;> intro e raised <;> cases raised
    rfl
  have run : Reaches (State.step oneWorkflow) (fun _ action => action.ordinary)
      (State.initial String Unit Unit) s := by
    apply Reaches.of_runActions Reaches.init _ ran
    intro action member state
    simp only [evictionRaises, List.mem_cons, List.not_mem_nil, or_false] at member
    rcases member with rfl | rfl | rfl | rfl | rfl | rfl | rfl
    · trivial
    · exact fine
    · exact fine
    · exact fine
    · trivial
    · exact fine
    · exact raises
  obtain ⟨-, -, discipline, standing⟩ := completion_discipline oneWorkflow run
  exact ⟨s, ran, discipline, counted, (standing "run").mp cached⟩

/-- What `_add_command` raises while an instance is being evicted, for example
    when a workflow-failure exception is to fail the workflow then. -/
def beingEvicted : PyError where
  isException := false
  text := some "Ignoring add command while evicting workflow. This is not an error."

/-- An eviction that raises it neither completes nor is counted. -/
theorem evicted_error_is_not_counted :
    ¬ ∀ s : State String Unit Unit,
      Reaches (State.step oneWorkflow) (fun _ _ => True) (State.initial String Unit Unit) s →
      s.couldNotEvictCount = s.tasks.countP HandleTask.couldNotEvict := by
  intro counted
  obtain ⟨s, ran, uncounted, raised⟩ : ∃ s, runActions (State.step oneWorkflow)
      (State.initial String Unit Unit) (evictionRaises beingEvicted) = some s ∧
        s.couldNotEvictCount = 0 ∧ s.tasks.countP HandleTask.couldNotEvict = 1 :=
    ⟨_, rfl, rfl, rfl⟩
  have := counted s (Reaches.init.of_runActions (fun _ _ _ => trivial) ran)
  rw [uncounted, raised] at this
  cases this

end TemporalSdk.Worker
