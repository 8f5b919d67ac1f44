import TemporalSdk.Workflow.Runs

/-!
# Wait conditions

`_run_once` runs handles until the ready queue is empty, then checks the wait
conditions, which may fill the queue again, until a check leaves it empty.

## Main results

* `run_once_quiescent`: when it returns, what is left in `_conditions` is false
  and not done, what was removed is done, and nothing was completed twice.
* `wait_condition_was_true`: a wait condition that returns was true at the check
  that completed its future, and is still true when the first handle after that
  check runs.
-/
namespace TemporalSdk.Workflow

open Eff

variable {σ : Type}

/-! ### One check -/

/-- A wait condition cannot look at the futures of wait conditions. -/
theorem view_resolved {s : Inst σ} {f : FutId} (role : (s.futs f).role = .condition)
    (new : FutState) : ((s.log (.conditionResolved f)).settled f new).view = s.view := by
  have done (f' : FutId) : (((s.log (.conditionResolved f)).settled f new).view).done f' =
      s.view.done f' := by
    by_cases same : f' = f
    · subst same
      simp [Inst.view, Inst.settled, Inst.pushAll, Inst.setFut, Inst.log, role]
    · simp [Inst.view, Inst.settled, Inst.pushAll, Inst.setFut, Inst.log, Inst.isDone, same]
  have equal : ((s.log (.conditionResolved f)).settled f new).view =
      ⟨s.mem, s.allHandlersFinished,
        (((s.log (.conditionResolved f)).settled f new).view).done⟩ := rfl
  rw [equal, funext done]
  rfl

/-- What a pass over `conditions` does, whether it returns or not: the view of
the conditions stays the same, and the futures completed are those of conditions
that are true in it. -/
structure Passed (conditions : List (Cond σ × FutId)) (s s' : Inst σ) : Prop where
  view : s'.view = s.view
  nextFut : s'.nextFut = s.nextFut
  roles : ∀ f, (s'.futs f).role = (s.futs f).role
  futs : ∀ f, s'.futs f = s.futs f ∨ (s'.futs f).state = .result 1 ∧
    ∃ fn, (fn, f) ∈ conditions ∧ s.isDone f = false ∧ fn s.view = .ok true

theorem Passed.refl (conditions : List (Cond σ × FutId)) (s : Inst σ) : Passed conditions s s :=
  ⟨rfl, rfl, fun _ => rfl, fun _ => .inl rfl⟩

theorem Passed.cons {conditions : List (Cond σ × FutId)} {s s' : Inst σ} (entry : Cond σ × FutId)
    (h : Passed conditions s s') : Passed (entry :: conditions) s s' where
  view := h.view
  nextFut := h.nextFut
  roles := h.roles
  futs f := (h.futs f).imp_right fun ⟨state, fn, member, rest⟩ =>
    ⟨state, fn, List.mem_cons_of_mem _ member, rest⟩

/-- A condition that is true, and then the rest. -/
theorem Passed.resolved {conditions : List (Cond σ × FutId)} {s s' : Inst σ} {fn : Cond σ}
    {f : FutId} (role : (s.futs f).role = .condition) (pending : s.isDone f = false)
    (holds : fn s.view = .ok true)
    (h : Passed conditions ((s.log (.conditionResolved f)).settled f (.result 1)) s') :
    Passed ((fn, f) :: conditions) s s' := by
  have self : (((s.log (.conditionResolved f)).settled f (.result 1)).futs f).state = .result 1 := by
    simp [Inst.settled, Inst.pushAll, Inst.setFut, Inst.log]
  have other (f' : FutId) (different : f' ≠ f) :
      ((s.log (.conditionResolved f)).settled f (.result 1)).futs f' = s.futs f' := by
    simp [Inst.settled, Inst.pushAll, Inst.setFut, Inst.log, different]
  refine ⟨h.view.trans (view_resolved role _), h.nextFut, fun f' => ?_, fun f' => ?_⟩
  · rw [h.roles]
    by_cases same : f' = f
    · subst same
      simp [Inst.settled, Inst.pushAll, Inst.setFut, Inst.log]
    · rw [other f' same]
  · by_cases same : f' = f
    · subst same
      refine .inr ⟨?_, fn, List.mem_cons_self, pending, holds⟩
      rcases h.futs f' with unchanged | ⟨state, -⟩
      · rw [unchanged, self]
      · exact state
    · rcases h.futs f' with unchanged | ⟨state, fn', member, pending', holds'⟩
      · exact .inl (unchanged.trans (other f' same))
      · refine .inr ⟨state, fn', List.mem_cons_of_mem _ member, ?_, ?_⟩
        · rwa [Inst.isDone, other f' same] at pending'
        · rwa [view_resolved role] at holds'

/-- A pass over conditions with futures of their own: those kept are pending and
false, those not kept are done. -/
theorem checkConditionList_spec (conditions : List (Cond σ × FutId)) (s : Inst σ)
    (roles : ∀ fn f, (fn, f) ∈ conditions → (s.futs f).role = .condition)
    (distinct : (conditions.map Prod.snd).Nodup) :
    Passed conditions s (checkConditionList conditions s).2 ∧
      ∀ kept s', checkConditionList conditions s = (.ok kept, s') →
        (∀ fn f, (fn, f) ∈ kept → s'.isDone f = false ∧ fn s.view = .ok false) ∧
          ∀ e ∈ conditions, e ∈ kept ∨ s'.isDone e.2 = true := by
  induction conditions generalizing s with
  | nil =>
    refine ⟨.refl [] s, fun kept s' run => ⟨fun fn f member => ?_, by simp⟩⟩
    simp only [checkConditionList, pure_run, Prod.mk.injEq, Except.ok.injEq] at run
    rw [← run.1] at member
    cases member
  | cons entry rest ih =>
    obtain ⟨fn, f⟩ := entry
    simp only [List.map_cons, List.nodup_cons] at distinct
    have role : (s.futs f).role = .condition := roles fn f List.mem_cons_self
    have rolesRest (fn' : Cond σ) (f' : FutId) (member : (fn', f') ∈ rest) :
        (s.futs f').role = .condition := roles fn' f' (List.mem_cons_of_mem _ member)
    -- the rest of the pass does not touch the future of this entry
    have untouched {s₁ s₂ : Inst σ} (passed : Passed rest s₁ s₂) : s₂.futs f = s₁.futs f := by
      rcases passed.futs f with same | ⟨-, fn', member, -⟩
      · exact same
      · exact absurd (List.mem_map_of_mem member) distinct.1
    simp only [checkConditionList, state_bind_run]
    cases done : s.isDone f with
    | true =>
      obtain ⟨passed, split⟩ := ih s rolesRest distinct.2
      refine ⟨passed.cons _, fun kept s' run => ?_⟩
      simp only [if_true] at run
      obtain ⟨left, removed⟩ := split kept s' run
      rw [run] at passed
      refine ⟨left, List.forall_mem_cons.mpr ⟨.inr ?_, removed⟩⟩
      rw [Inst.isDone, untouched passed]
      exact done
    | false =>
      simp only [Bool.false_eq_true, if_false]
      cases holds : fn s.view with
      | error e => exact ⟨.refl _ s, fun _ _ run => by simp at run⟩
      | ok value =>
        cases value with
        | false =>
          obtain ⟨passed, split⟩ := ih s rolesRest distinct.2
          simp only [bind_run]
          cases run : checkConditionList rest s with
          | mk r s₁ =>
            rw [run] at passed
            cases r with
            | error e => exact ⟨passed.cons _, fun _ _ run' => by simp at run'⟩
            | ok kept =>
              obtain ⟨left, removed⟩ := split kept s₁ run
              refine ⟨passed.cons _, fun kept' s' run' => ?_⟩
              simp only [pure_run, Prod.mk.injEq, Except.ok.injEq] at run'
              obtain ⟨rfl, rfl⟩ := run'
              refine ⟨fun fn' f' member => ?_, List.forall_mem_cons.mpr ⟨.inl List.mem_cons_self,
                fun e member => (removed e member).imp_left (List.mem_cons_of_mem _)⟩⟩
              rcases List.mem_cons.mp member with here | later
              · cases here
                exact ⟨by rw [Inst.isDone, untouched passed]; exact done, holds⟩
              · exact left fn' f' later
        | true =>
          have notDone : (s.log (.conditionResolved f)).isDone f = false := done
          dsimp only
          rw [update_bind_run, bind_run, setOutcome_pending notDone]
          have rolesRest' (fn' : Cond σ) (f' : FutId) (member : (fn', f') ∈ rest) :
              (((s.log (.conditionResolved f)).settled f (.result 1)).futs f').role =
                .condition := by
            have different : f' ≠ f := by
              rintro rfl
              exact distinct.1 (List.mem_map_of_mem member)
            simpa [Inst.settled, Inst.pushAll, Inst.setFut, Inst.log, different] using
              rolesRest fn' f' member
          obtain ⟨passed, split⟩ := ih _ rolesRest' distinct.2
          split
          next _ s₁ run =>
            rw [Prod.mk.injEq] at run
            obtain ⟨-, rfl⟩ := run
            refine ⟨passed.resolved role done holds, fun kept s' run => ?_⟩
            obtain ⟨left, removed⟩ := split kept s' run
            rw [run] at passed
            rw [view_resolved role] at left
            refine ⟨left, List.forall_mem_cons.mpr ⟨.inr ?_, removed⟩⟩
            rw [Inst.isDone, untouched passed]
            simp [Inst.settled, Inst.pushAll, Inst.setFut, Inst.log, FutState.done]
          next _ s₁ run =>
            rw [Prod.mk.injEq] at run
            obtain ⟨-, rfl⟩ := run
            exact ⟨(Passed.refl rest _).resolved role done holds, fun _ _ run => by simp at run⟩

theorem checkConditions_run (s : Inst σ) :
    checkConditions s =
      match checkConditionList s.conditions s with
      | (.ok kept, s') => (.ok (), { s' with conditions := kept })
      | (.error e, s') => (.error e, s') := by
  simp only [checkConditions, state_bind_run]
  rw [bind_run]
  cases checkConditionList s.conditions s with
  | mk r s₁ => cases r <;> rfl

theorem checkConditions_passed {s : Inst σ} (wf : s.WellFormed) :
    Passed s.conditions s (checkConditions s).2 := by
  have passed := (checkConditionList_spec s.conditions s (fun fn f member =>
    (wf.condition fn f member).2) wf.distinct).1
  rw [checkConditions_run]
  cases run : checkConditionList s.conditions s with
  | mk r s₁ =>
    rw [run] at passed
    cases r with
    | error e => exact passed
    | ok kept => exact ⟨passed.view, passed.nextFut, passed.roles, passed.futs⟩

/-- Every condition left is pending and false in the state it is left in. -/
def Inst.Settled (s : Inst σ) : Prop :=
  ∀ fn f, (fn, f) ∈ s.conditions → s.isDone f = false ∧ fn s.view = .ok false

/-- A check that returns leaves the conditions settled; those it removed are
done. -/
theorem checkConditions_settled {s s' : Inst σ} (wf : s.WellFormed)
    (run : checkConditions s = (.ok (), s')) :
    s'.Settled ∧ ∀ e ∈ s.conditions, e ∈ s'.conditions ∨ s'.isDone e.2 = true := by
  obtain ⟨passed, spec⟩ := checkConditionList_spec s.conditions s (fun fn f member =>
    (wf.condition fn f member).2) wf.distinct
  rw [checkConditions_run] at run
  cases pass : checkConditionList s.conditions s with
  | mk r s₁ =>
    rw [pass] at run passed
    cases r with
    | error e => simp at run
    | ok kept =>
      simp only [Prod.mk.injEq, true_and] at run
      subst run
      obtain ⟨left, removed⟩ := spec kept s₁ pass
      refine ⟨fun fn f member => ?_, removed⟩
      show s₁.isDone f = false ∧ fn s₁.view = .ok false
      rw [passed.view]
      exact left fn f member

/-! ### Completions of conditions -/

def Event.resolved? : Event → Option FutId
  | .conditionResolved f => some f
  | _ => none

/-- The futures on which `_check_condition` has called `set_result`. -/
def Inst.resolutions (s : Inst σ) : List FutId := s.trace.filterMap Event.resolved?

/-- Since `s`, the futures of `new` have been completed by checks, each once and
while it was pending. -/
structure ResolvedSince (s s' : Inst σ) (new : List FutId) : Prop where
  resolutions : s'.resolutions = s.resolutions ++ new
  distinct : new.Nodup
  pending : ∀ f ∈ new, f < s.nextFut → s.isDone f = false
  done : ∀ f ∈ new, f < s'.nextFut ∧ s'.isDone f = true

theorem ResolvedSince.refl (s : Inst σ) : ResolvedSince s s [] :=
  ⟨by simp, List.nodup_nil, by simp, by simp⟩

theorem ResolvedSince.trans {s₁ s₂ s₃ : Inst σ} {new new' : List FutId}
    (h : ResolvedSince s₁ s₂ new) (h' : ResolvedSince s₂ s₃ new')
    (grows : s₁.nextFut ≤ s₂.nextFut ∧ s₂.nextFut ≤ s₃.nextFut)
    (first : ∀ f < s₁.nextFut, s₁.isDone f = true → s₂.isDone f = true)
    (second : ∀ f < s₂.nextFut, s₂.isDone f = true → s₃.isDone f = true) :
    ResolvedSince s₁ s₃ (new ++ new') where
  resolutions := by rw [h'.resolutions, h.resolutions, List.append_assoc]
  distinct := by
    refine List.nodup_append.mpr ⟨h.distinct, h'.distinct, ?_⟩
    rintro f early _ late rfl
    obtain ⟨bound, done⟩ := h.done f early
    have pending := h'.pending f late bound
    rw [done] at pending
    cases pending
  pending f member bound := by
    rcases List.mem_append.mp member with early | late
    · exact h.pending f early bound
    · have pending := h'.pending f late (Nat.lt_of_lt_of_le bound grows.1)
      by_contra done
      rw [first f bound (by simpa using done)] at pending
      cases pending
  done f member := by
    rcases List.mem_append.mp member with early | late
    · obtain ⟨bound, done⟩ := h.done f early
      exact ⟨Nat.lt_of_lt_of_le bound grows.2, second f bound done⟩
    · exact h'.done f late

/-- One move, and all but one add nothing. -/
theorem Allowed.resolvedSince {K : List Kind} {s s' : Inst σ} (h : Allowed K s s')
    (wf : s.WellFormed) : ∃ new, ResolvedSince s s' new := by
  have nothing (trace : s'.resolutions = s.resolutions) : ∃ new, ResolvedSince s s' new :=
    ⟨[], by simp [trace], List.nodup_nil, by simp, by simp⟩
  rcases h.calm_or_move wf with calm | ⟨k, -, move⟩
  · obtain ⟨es, trace, outbound⟩ := calm.trace
    have none : es.filterMap Event.resolved? = [] := by
      refine List.filterMap_eq_nil_iff.mpr fun e member => ?_
      have ofCall := outbound e member
      cases e <;> first | rfl | cases ofCall
    exact nothing (by rw [Inst.resolutions, trace, List.filterMap_append, none, List.append_nil]; rfl)
  · cases move with
    | @met _ fn f member pending holds =>
      refine ⟨[f], ?_, by simp, by simp [pending], ?_⟩
      · simp [Inst.resolutions, Inst.settled, Inst.pushAll, Inst.setFut, Inst.log, Event.resolved?]
      · intro f' same
        rw [List.mem_singleton] at same
        subst same
        refine ⟨(wf.condition fn f' member).1, ?_⟩
        simp [Inst.isDone, Inst.settled, Inst.pushAll, Inst.setFut, Inst.log, FutState.done]
    | signalDropped | signalHandler | signalHandlerMissing | methodCall | exceptionHandler
    | patchCall | updateError =>
      exact nothing (by simp [Inst.resolutions, Inst.log, Event.resolved?])
    | _ => exact nothing rfl

theorem Moves.resolvedSince {K : List Kind} {s s' : Inst σ} (h : Moves K s s') (wf : s.WellFormed) :
    ∃ new, ResolvedSince s s' new := by
  have chain := h wf
  clear h
  induction chain with
  | refl => exact ⟨[], .refl s⟩
  | @tail a b before last ih =>
    have moves : Moves K s a := fun _ => before
    have move : Moves K a b := fun _ => .single last
    have wfa := moves.wellFormed wf
    obtain ⟨new, early⟩ := ih
    obtain ⟨new', late⟩ := last.resolvedSince wfa
    exact ⟨new ++ new', early.trans late ⟨moves.nextFut wf, move.nextFut wfa⟩
      (fun f bound done => moves.isDone wf bound done)
      fun f bound done => move.isDone wfa bound done⟩

/-! ### The loop -/

/-- Inside `_run_once` for a set, with a step to take. -/
def InLoop (frame : Frame) (m : Machine σ) : Prop :=
  m.control = .enter frame ∨ (m.control = .outer frame ∧ m.inst.ready ≠ []) ∨
    m.control = .inner frame ∨ ∃ ctx, m.control = .code ctx frame

instance (frame : Frame) (m : Machine σ) : Decidable (InLoop frame m) :=
  match control : m.control with
  | .enter f | .inner f | .code _ f =>
    decidable_of_iff (f = frame) (by simp [InLoop, control])
  | .outer f => decidable_of_iff (f = frame ∧ m.inst.ready ≠ []) (by simp [InLoop, control])
  | .idle | .sets _ | .jobs _ _ => .isFalse (by simp [InLoop, control])

/-- A part of a call of `_run_once`. -/
def RunOnce (det : Details σ) (frame : Frame) : Machine σ → Machine σ → Prop :=
  Reach det fun m _ => InLoop frame m

/-- What holds at each point of `_run_once`: as long as nothing has been checked
there are handles to run. -/
structure LoopInvariant (frame : Frame) (m : Machine σ) : Prop where
  enter : m.control = .enter frame → m.inst.ready ≠ []
  init : m.control = .code .init frame → m.inst.ready ≠ []
  outer : m.control = .outer frame → m.inst.ready ≠ [] ∨ m.inst.Settled

/-- Steps that end `_run_once` or stay in the inner loop. -/
theorem LoopInvariant.of_control {frame : Frame} {m : Machine σ}
    (h : m.control = .idle ∨ (∃ frame', m.control = .inner frame') ∨
      ∃ ctx frame', m.control = .code ctx frame' ∧ ctx.inHandle = true) :
    LoopInvariant frame m := by
  rcases h with idle | ⟨frame', inner⟩ | ⟨ctx, frame', code, inHandle⟩
  · constructor <;> intro control <;> simp [idle] at control
  · constructor <;> intro control <;> simp [inner] at control
  · constructor <;> intro control <;> rw [code] at control
    · cases control
    · cases control
      cases inHandle
    · cases control

theorem handleNext_loop (det : Details σ) (m : Machine σ) (frame : Frame)
    {r : Except Exc (Option Ctx) × Inst σ}
    (inHandle : ∀ ctx s, r = (.ok (some ctx), s) → ctx.inHandle = true) :
    (m.handleNext det frame r).control = .idle ∨
      (∃ frame', (m.handleNext det frame r).control = .inner frame') ∨
      ∃ ctx frame', (m.handleNext det frame r).control = .code ctx frame' ∧
        ctx.inHandle = true := by
  rcases handleNext_place det m frame r with idle | inner | ⟨ctx, stopped, code⟩
  · exact .inl idle
  · exact .inr (.inl ⟨frame, inner⟩)
  · exact .inr (.inr ⟨ctx, frame, code, inHandle ctx r.2 (Prod.ext stopped rfl)⟩)

/-- Workflow code called from a handle ends in the inner loop. -/
theorem finishContext_loop (det : Details σ) (m : Machine σ) {ctx : Ctx} (frame : Frame)
    (r : Except Exc Obj) (wf : m.inst.WellFormed) (ready : ctx.Ready m.inst)
    (inHandle : ctx.inHandle = true) :
    (finishContext det m ctx frame r).control = .idle ∨
      (∃ frame', (finishContext det m ctx frame r).control = .inner frame') ∨
      ∃ ctx' frame', (finishContext det m ctx frame r).control = .code ctx' frame' ∧
        ctx'.inHandle = true := by
  cases ctx with
  | init => cases inHandle
  | callback =>
    -- a callback is no task, so its handle is done in any case
    cases r with
    | ok v =>
      rcases handleDone_control det m m.inst frame with idle | inner
      · exact .inl idle
      · exact .inr (.inl ⟨frame, by rw [finishContext, inner]; rfl⟩)
    | error e =>
      rcases handleRaised_control det m m.inst frame e with idle | inner
      · exact .inl idle
      · exact .inr (.inl ⟨frame, by rw [finishContext, inner]; rfl⟩)
  | validator t job defn i prev =>
    obtain ⟨⟨task, isTask, isUpdate⟩, pending, responds⟩ := ready
    refine handleNext_loop det m frame fun ctx s run => ?_
    exact (stepBody_ready (K := [.update job.protocolInstanceId, .error, .progress, .book, .mode])
      (by simp) wf isTask pending (finishValidator_moves det t job defn i prev r responds)
      (by rw [isUpdate]; exact finishValidator_ofTask det t job defn i prev r) run).2
  | task t =>
    obtain ⟨task, isTask, pending, -⟩ := ready
    simp only [finishContext, isTask]
    refine handleNext_loop det m frame fun ctx s run => ?_
    exact (stepBody_ready (task.root.finish_not_mem_endKinds t) wf isTask pending
      (finishCode_moves det t task.root r m.inst) (finishCode_ofTask det t task.root r) run).2

theorem perform_loopInvariant (det : Details σ) {frame : Frame} {m m' : Machine σ} {a : Act σ}
    (wf : m.WellFormed) (invariant : LoopInvariant frame m) (inside : InLoop frame m)
    (h : perform det m a = some m') : LoopInvariant frame m' := by
  have ends {ctx : Ctx} {frame' : Frame} (control : m.control = .code ctx frame')
      (r : Except Exc Obj) : LoopInvariant frame (finishContext det m ctx frame' r) := by
    cases inHandle : ctx.inHandle with
    | true =>
      exact .of_control (finishContext_loop det m frame' r wf.inst (wf.code _ _ control) inHandle)
    | false =>
      -- the code of the workflow's constructor is the only code outside of a handle
      have isInit : ctx = .init := by cases ctx <;> simp_all [Ctx.inHandle]
      subst isInit
      have same : frame' = frame := by
        rcases inside with h | ⟨h, -⟩ | h | ⟨_, h⟩ <;> rw [control] at h <;> cases h
        rfl
      subst same
      cases r with
      | error e => exact .of_control (.inl (raised_control det m e))
      | ok v =>
        refine ⟨?_, ?_, fun _ => .inl (invariant.init control)⟩ <;> intro control' <;> cases control'
  cases perform_cases det h with
  | ret control v => exact ends control _
  | raise control e => exact ends control _
  | @call ctx frame' _ control enabled =>
    -- calls only add to the ready queue
    obtain ⟨hs, ready⟩ := (performCall_moves det 0 a enabled).ready wf.inst
      fun member => by simpa using a.kinds_subset det 0 member
    constructor
    · intro control'
      rw [control] at control'
      cases control'
    · intro control'
      rw [ready]
      exact List.append_ne_nil_of_left_ne_nil (invariant.init control') _
    · intro control'
      rw [control] at control'
      cases control'
  | await control => exact .of_control (.inr (.inr ⟨_, _, control, rfl⟩))
  | suspend control _ _ run =>
    refine .of_control (handleNext_loop det m _ fun ctx s stopped => ?_)
    cases (stepNext_code stopped).1

theorem step_loopInvariant (det : Details σ) {frame : Frame} {m m' : Machine σ} {l : Label σ}
    (checks : frame.checks = true) (wf : m.WellFormed) (invariant : LoopInvariant frame m)
    (inside : InLoop frame m) (h : step det m l = some m') : LoopInvariant frame m' := by
  have sameFrame {frame' : Frame} (control : m.control = .inner frame') : frame' = frame := by
    rcases inside with h | ⟨h, -⟩ | h | ⟨_, h⟩ <;> rw [control] at h <;> cases h
    rfl
  cases l with
  | activate jobs isReplaying =>
    rcases inside with control | ⟨control, -⟩ | control | ⟨_, control⟩ <;>
      simp [step, control] at h
  | act a => exact perform_loopInvariant det wf invariant inside h
  | tick =>
    cases tick_cases det h with
    | complete control | skipSet control | openSet control | closeSet control | applied control
    | applyRaised control =>
      rcases inside with h | ⟨h, -⟩ | h | ⟨_, h⟩ <;> rw [control] at h <;> cases h
    | @enter frame' control =>
      have same : frame' = frame := by
        rcases inside with h | ⟨h, -⟩ | h | ⟨_, h⟩ <;> rw [control] at h <;> cases h
        rfl
      subst same
      refine ⟨?_, ?_, fun _ => .inl (invariant.enter control)⟩ <;> intro control' <;> cases control'
    | @init frame' control =>
      have same : frame' = frame := by
        rcases inside with h | ⟨h, -⟩ | h | ⟨_, h⟩ <;> rw [control] at h <;> cases h
        rfl
      subst same
      refine ⟨?_, fun _ => invariant.enter control, ?_⟩ <;> intro control' <;> cases control'
    | ran => constructor <;> intro control' <;> cases control'
    | loop => exact .of_control (.inr (.inl ⟨_, rfl⟩))
    | @handle _ handle rest control ready =>
      -- the handle that is run may add others, and the loop looks again afterwards
      have popped : (m.inst.setReady rest).WellFormed :=
        wf.inst.congr rfl rfl rfl (List.Sublist.refl _) rfl
      exact .of_control (handleNext_loop det m _ fun ctx s run =>
        (handleRun_ready det popped run).2)
    | checked control ready checks' run =>
      refine ⟨?_, ?_, fun _ => .inr (checkConditions_settled wf.inst run).1⟩ <;>
        intro control' <;> cases control'
    | checkRaised => exact .of_control (.inl (raised_control det _ _))
    | unchecked control _ checks' =>
      rw [sameFrame control, checks] at checks'
      cases checks'

/-! ### Removed conditions -/

theorem Moves.conditions {K : List Kind} {s s' : Inst σ} (h : Moves K s s') (wf : s.WellFormed)
    (notCheck : Kind.check ∉ K) : s.conditions ⊆ s'.conditions := by
  refine (h.keeps (I := fun s₁ => s.conditions ⊆ s₁.conditions) wf (List.Subset.refl _) ?_).1
  intro a b wfa allowed sub
  rcases allowed.calm_or_move wfa with calm | ⟨k, member, move⟩
  · rw [calm.books.conditions]
    exact sub
  · cases move with
    | met | kept => exact absurd member notCheck
    | condition => exact List.Subset.trans sub (List.subset_append_left _ _)
    | _ => exact sub

/-- Conditions are checked when the ready queue is empty, and nowhere else. -/
theorem check_step {det : Details σ} {m : Machine σ} {l : Label σ}
    (h : Kind.check ∈ m.stepKinds det l) :
    l = .tick ∧ ∃ frame, m.control = .inner frame ∧ m.inst.ready = [] := by
  cases stepKinds_makes h with
  | always _ other => simp at other
  | @job job _ _ _ member => cases job <;> simp [Job.kinds] at member
  | handle _ _ member => cases m.inst.handleKinds_ofHandle _ _ member
  | check control ready => exact ⟨rfl, _, control, ready⟩
  | ends _ _ member => rcases m.inst.endKinds_cases _ _ member with other | other <;> cases other
  | call _ member => simpa using Act.kinds_subset _ det _ member
  | await _ _ own => cases own

/-- A condition is removed only when its future is done. -/
theorem step_conditions (det : Details σ) {m m' : Machine σ} {l : Label σ} (wf : m.WellFormed)
    (h : step det m l = some m') :
    ∀ e ∈ m.inst.conditions, e ∈ m'.inst.conditions ∨ m'.inst.isDone e.2 = true := by
  by_cases checks : Kind.check ∈ m.stepKinds det l
  · obtain ⟨rfl, frame, control, ready⟩ := check_step checks
    cases tick_cases det h with
    | checked _ _ _ run => exact (checkConditions_settled wf.inst run).2
    | @checkRaised _ s e _ _ _ run =>
      -- the list is assigned only when the whole pass has returned
      intro entry member
      refine .inl ((raised_moves det { m with inst := s } e).conditions ?_ (by simp) ?_)
      · have moves := checkConditions_moves m.inst
        rw [run] at moves
        exact moves.wellFormed wf.inst
      · have same := (checkConditionList_moves m.inst.conditions m.inst (List.Subset.refl _)).2.1
        rw [checkConditions_run] at run
        cases pass : checkConditionList m.inst.conditions m.inst with
        | mk r s₁ =>
          rw [pass] at run same
          cases r with
          | ok kept => simp at run
          | error e' =>
            simp only [Prod.mk.injEq] at run
            rw [← run.2]
            show entry ∈ s₁.conditions
            rw [same]
            exact member
    | _ => simp_all
  · exact fun e member => .inl ((step_moves det wf h).conditions wf.inst checks member)

theorem RunOnce.conditions {det : Details σ} {frame : Frame} {m last : Machine σ} (wf : m.WellFormed)
    (run : RunOnce det frame m last) :
    ∀ e ∈ m.inst.conditions, e ∈ last.inst.conditions ∨ last.inst.isDone e.2 = true := by
  intro e member
  have bound : e.2 < m.inst.nextFut := (wf.inst.condition e.1 e.2 member).1
  refine (Reach.invariant run (I := fun m₁ => e.2 < m₁.inst.nextFut ∧
    (e ∈ m₁.inst.conditions ∨ m₁.inst.isDone e.2 = true)) wf ⟨bound, .inl member⟩ ?_).1.2
  rintro m₁ l m₂ wf₁ ⟨bound, here⟩ _ step
  have moves := step_moves det wf₁ step
  refine ⟨Nat.lt_of_lt_of_le bound (moves.nextFut wf₁.inst), ?_⟩
  rcases here with inside | done
  · exact step_conditions det wf₁ step e inside
  · exact .inr (moves.isDone wf₁.inst bound done)

theorem RunOnce.resolvedSince {det : Details σ} {frame : Frame} {m last : Machine σ}
    (wf : m.WellFormed) (run : RunOnce det frame m last) :
    ∃ new, ResolvedSince m.inst last.inst new := by
  refine (Reach.invariant run (I := fun m₁ => m.inst.nextFut ≤ m₁.inst.nextFut ∧
    (∀ f < m.inst.nextFut, m.inst.isDone f = true → m₁.inst.isDone f = true) ∧
    ∃ new, ResolvedSince m.inst m₁.inst new) wf
    ⟨Nat.le_refl _, fun _ _ => id, [], .refl _⟩ ?_).1.2.2
  rintro m₁ l m₂ wf₁ ⟨grows, keep, new, since⟩ _ step
  have moves := step_moves det wf₁ step
  have grows' := moves.nextFut wf₁.inst
  obtain ⟨new', late⟩ := moves.resolvedSince wf₁.inst
  have keep' (f : FutId) (bound : f < m₁.inst.nextFut) (done : m₁.inst.isDone f = true) :
      m₂.inst.isDone f = true := moves.isDone wf₁.inst bound done
  exact ⟨grows.trans grows',
    fun f bound done => keep' f (Nat.lt_of_lt_of_le bound grows) (keep f bound done),
    new ++ new', since.trans late ⟨grows, grows'⟩ keep keep'⟩

/-! ### Quiescence -/

/-- What holds when `_run_once` returns from `last`, having started in `m`. -/
structure Quiescent (det : Details σ) (frame : Frame) (m last : Machine σ) : Prop where
  ready : last.inst.ready = []
  /-- every entry left is pending, and its predicate is false in the final state -/
  kept : ∀ fn f, (fn, f) ∈ last.inst.conditions →
    last.inst.isDone f = false ∧ fn last.inst.view = .ok false
  /-- every entry that was there at some point of the call is there or done -/
  removed : ∀ mid, RunOnce det frame m mid → RunOnce det frame mid last →
    ∀ e ∈ mid.inst.conditions, e ∈ last.inst.conditions ∨ last.inst.isDone e.2 = true
  /-- `set_result` was called at most once on a future, and never on a done one -/
  once : ∃ new, last.inst.resolutions = m.inst.resolutions ++ new ∧ new.Nodup ∧
    ∀ f ∈ new, (f < m.inst.nextFut → m.inst.isDone f = false) ∧ last.inst.isDone f = true

/-- If `_run_once(check_conditions=True)` starts with a non-empty ready queue and
returns, whatever the handles do in between, the instance is quiescent. -/
theorem run_once_quiescent (det : Details σ) (frame : Frame) (m last m' : Machine σ)
    (wf : m.WellFormed) (checks : frame.checks = true) (starts : m.control = .enter frame)
    (ready : m.inst.ready ≠ []) (run : RunOnce det frame m last)
    (top : last.control = .outer frame) (returns : tick det last = some m')
    (returned : m'.control = .sets (frame.next frame.later)) : Quiescent det frame m last := by
  have start : LoopInvariant frame m := by
    refine ⟨fun _ => ready, ?_, ?_⟩ <;> intro control <;> rw [starts] at control <;> cases control
  obtain ⟨invariant, wf'⟩ := Reach.invariant run (I := LoopInvariant frame) wf start
    fun m₁ l m₂ wf₁ invariant inside step =>
      step_loopInvariant det checks wf₁ invariant inside step
  have empty : last.inst.ready = [] := by
    cases tick_cases det returns with
    | ran _ ready => exact ready
    | loop => cases returned
    | _ => simp_all
  have settled : last.inst.Settled := (invariant.outer top).resolve_left (fun some => some empty)
  refine ⟨empty, settled, fun mid before after => ?_, ?_⟩
  · exact RunOnce.conditions (Reach.wellFormed before wf) after
  · obtain ⟨new, since⟩ := RunOnce.resolvedSince wf run
    exact ⟨new, since.resolutions, since.distinct,
      fun f member => ⟨since.pending f member, (since.done f member).2⟩⟩

/-- A workflow that has started, before its first step. -/
def started : List (Label Nat) :=
  [.activate [.startWorkflow []] false, .tick, .tick, .tick, .tick, .tick]

/-- It waits for a condition that is true, which the next check finds out. -/
def waitsOnce (fn : Cond Nat) : List (Label Nat) :=
  [.tick, .act (.ret 0), .tick, .tick, .act (.waitCondition fn), .tick, .tick, .tick, .act (.ret 0),
    .tick, .tick]

theorem run_once_quiescent_waits : ∃ m last m',
    run Details.plain (Machine.init Details.plain 0) started = some m ∧
      runWhile Details.plain (fun m _ => InLoop ⟨2, [[]]⟩ m) m
        (waitsOnce fun view => .ok (view.mem = 0)) = some last ∧
      tick Details.plain last = some m' ∧ last.inst.resolutions = [1] ∧
      Quiescent Details.plain ⟨2, [[]]⟩ m last := by
  have evaluated : ((run Details.plain (Machine.init Details.plain 0) started).bind fun m =>
      (runWhile Details.plain (fun m _ => InLoop ⟨2, [[]]⟩ m) m
        (waitsOnce fun view => .ok (view.mem = 0))).bind fun last =>
          (tick Details.plain last).map fun m' => decide (m.control = .enter ⟨2, [[]]⟩ ∧
            m.inst.ready ≠ [] ∧ last.control = .outer ⟨2, [[]]⟩ ∧ m'.control = .sets ⟨3, [[]]⟩ ∧
            last.inst.resolutions = [1])) = some true := by
    decide +kernel
  obtain ⟨m, ran, rest⟩ := Option.bind_eq_some_iff.mp evaluated
  obtain ⟨last, loop, rest⟩ := Option.bind_eq_some_iff.mp rest
  obtain ⟨m', returns, facts⟩ := Option.map_eq_some_iff.mp rest
  obtain ⟨starts, ready, top, returned, resolved⟩ := of_decide_eq_true facts
  have reach : Reach Details.plain (fun _ _ => True) (Machine.init Details.plain 0) m :=
    .of_run ran fun _ _ _ => trivial
  have wf := reach.wellFormed
    (init_wellFormed Details.plain 0)
  exact ⟨m, last, m', ran, loop, returns, resolved, run_once_quiescent Details.plain ⟨2, [[]]⟩ m
    last m' wf rfl starts ready (.of_runWhile loop) top returns returned⟩

/-! ### What a condition that returns was -/

/-- Without a check no condition gets a result. -/
theorem Moves.conditionResult {K : List Kind} {s s' : Inst σ} (h : Moves K s s') (wf : s.WellFormed)
    (notCheck : Kind.check ∉ K) {f : FutId} {v : Obj} (bound : f < s'.nextFut)
    (role : (s'.futs f).role = .condition) (result : (s'.futs f).state = .result v) :
    f < s.nextFut ∧ (s.futs f).role = .condition ∧ (s.futs f).state = .result v := by
  have back := (h.keeps (I := fun s₁ => f < s₁.nextFut → (s₁.futs f).role = .condition →
    (s₁.futs f).state = .result v → f < s.nextFut ∧ (s.futs f).role = .condition ∧
      (s.futs f).state = .result v) wf (fun bound role result => ⟨bound, role, result⟩) ?_).1
  · exact back bound role result
  intro a b wfa allowed ih bound role result
  rcases allowed.calm_or_move wfa with calm | ⟨k, member, move⟩
  · by_cases old : f < a.nextFut
    · rw [calm.role f old] at role
      -- calm steps cancel conditions at most, and none has a result then
      refine ih old role ?_
      rcases calm.condition f old role with same | cancelled
      · rw [← same, result]
      · rw [cancelled] at result
        cases result
    · exact absurd role (calm.fresh f (Nat.not_lt.mp old) bound)
  -- the future of a new task is no condition
  · have spawned {callbacks : List Callback} (bound : f < a.nextFut + 1)
        (futs : b.futs = Function.update a.futs a.nextFut ⟨.task, .pending, callbacks⟩) :
        f < s.nextFut ∧ (s.futs f).role = .condition ∧ (s.futs f).state = .result v := by
      have different : f ≠ a.nextFut := by
        rintro rfl
        simp [futs] at role
      rw [futs, Function.update_of_ne different] at role result
      exact ih (Nat.lt_of_le_of_ne (Nat.le_of_lt_succ bound) different) role result
    cases move with
    | met | kept => exact absurd member notCheck
    | signalTask | straySignal | spawn | strayJob => exact spawned bound rfl
    | condition =>
      have different : f ≠ a.nextFut := by
        rintro rfl
        simp [Inst.setFut] at result
      simp only [Inst.setFut, Function.update_of_ne different] at role result
      exact ih (Nat.lt_of_le_of_ne (Nat.le_of_lt_succ bound) different) role result
    | @finish _ t task isTask pending new =>
      have different : f ≠ t := by
        rintro rfl
        simp [Inst.settled, Inst.pushAll, Inst.setFut, (wfa.task f task isTask).2] at role
      have same : (a.settled t new).futs f = a.futs f := by
        simp [Inst.settled, Inst.pushAll, Inst.setFut, different]
      rw [same] at role result
      exact ih bound role result
    | _ => exact ih bound role result

/-- At `m₀` the ready queue is empty and the wait conditions are checked, which
leads to `m₁`; `fn` is registered with `f` and true. -/
structure FoundTrue (det : Details σ) (fn : Cond σ) (f : FutId) (m₀ m₁ : Machine σ) : Prop where
  inner : ∃ frame, m₀.control = .inner frame
  ready : m₀.inst.ready = []
  registered : (fn, f) ∈ m₀.inst.conditions
  holds : fn m₀.inst.view = .ok true
  checked : tick det m₀ = some m₁

/-- A check does not change what conditions can see, and the conditions that get
a result are those it found true. -/
structure CheckStep (det : Details σ) (m m' : Machine σ) : Prop where
  view : m'.inst.view = m.inst.view
  nextFut : m'.inst.nextFut = m.inst.nextFut
  control : m'.control = .idle ∨ ∃ frame, m'.control = .outer frame
  found : ∀ f v, (m'.inst.futs f).role = .condition → (m'.inst.futs f).state = .result v →
    (m.inst.futs f).role = .condition ∧
      ((m.inst.futs f).state = .result v ∨ ∃ fn, FoundTrue det fn f m m')

theorem check_spec (det : Details σ) {m m' : Machine σ} {frame : Frame} (wf : m.WellFormed)
    (control : m.control = .inner frame) (ready : m.inst.ready = []) (h : tick det m = some m') :
    CheckStep det m m' := by
  have passes {s : Inst σ} (passed : Passed m.inst.conditions m.inst s) (f : FutId) (v : Obj)
      (role : (s.futs f).role = .condition) (result : (s.futs f).state = .result v) :
      (m.inst.futs f).role = .condition ∧
        ((m.inst.futs f).state = .result v ∨ ∃ fn, FoundTrue det fn f m m') := by
    refine ⟨passed.roles f ▸ role, ?_⟩
    rcases passed.futs f with same | ⟨-, fn, registered, -, holds⟩
    · rw [same] at result
      exact .inl result
    · exact .inr ⟨fn, ⟨frame, control⟩, ready, registered, holds, h⟩
  have passed := checkConditions_passed wf.inst
  cases tick_cases det h with
  | checked _ _ _ run =>
    rw [run] at passed
    exact ⟨passed.view, passed.nextFut, .inr ⟨_, rfl⟩, passes passed⟩
  | @checkRaised _ s e _ _ _ run =>
    rw [run] at passed
    have inst := raised_inst det { m with inst := s } e
    refine ⟨?_, ?_, .inl (raised_control det _ e), ?_⟩ <;> rw [inst]
    · exact passed.view
    · exact passed.nextFut
    · exact fun f v role result => passes passed f v role result
  | unchecked => exact ⟨rfl, rfl, .inr ⟨_, rfl⟩, fun f v role result => ⟨role, .inl result⟩⟩
  | _ => simp_all

/-- Every condition with a result was found true at a check. -/
theorem Reach.foundTrue {det : Details σ} {mem : σ} {m : Machine σ}
    (reach : Reach det (fun _ _ => True) (Machine.init det mem) m) {f : FutId} {v : Obj}
    (exist : f < m.inst.nextFut) (role : (m.inst.futs f).role = .condition)
    (result : (m.inst.futs f).state = .result v) :
    ∃ fn m₀ m₁, Reach det (fun _ _ => True) (Machine.init det mem) m₀ ∧
      FoundTrue det fn f m₀ m₁ ∧ Reach det (fun _ _ => True) m₁ m := by
  induction reach with
  | refl => cases role
  | @step m m' l before allowed step ih =>
    have wf := before.wellFormed (init_wellFormed det mem)
    by_cases checks : Kind.check ∈ m.stepKinds det l
    · obtain ⟨rfl, frame, control, ready⟩ := check_step checks
      have spec := check_spec det wf control ready step
      obtain ⟨role', result' | ⟨fn, found⟩⟩ := spec.found f v role result
      · obtain ⟨fn, m₀, m₁, reach₀, found, reach₁⟩ := ih (spec.nextFut ▸ exist) role' result'
        exact ⟨fn, m₀, m₁, reach₀, found, .step reach₁ trivial step⟩
      · exact ⟨fn, m, m', before, found, .refl⟩
    · obtain ⟨exist', role', result'⟩ :=
        (step_moves det wf step).conditionResult wf.inst checks exist role result
      obtain ⟨fn, m₀, m₁, reach₀, found, reach₁⟩ := ih exist' role' result'
      exact ⟨fn, m₀, m₁, reach₀, found, .step reach₁ trivial step⟩

/-- The step does not make the condition false. -/
def KeepsTrue (det : Details σ) (fn : Cond σ) (m : Machine σ) (l : Label σ) : Prop :=
  ∀ m', step det m l = some m' → fn m.inst.view = .ok true → fn m'.inst.view = .ok true

theorem Reach.keepsTrue {det : Details σ} {fn : Cond σ} {m₁ m : Machine σ}
    (keeps : Reach det (KeepsTrue det fn) m₁ m) (holds : fn m₁.inst.view = .ok true) :
    fn m.inst.view = .ok true := by
  induction keeps with
  | refl => exact holds
  | step _ allowed step ih => exact allowed _ step ih

/-- In every state in which the future of a wait condition has a result, so also
when its task resumes with it, the condition was true at the check, with nothing
ready to run, that completed the future. It is still true when the first handle
after that check runs, and from then on as long as no step makes it false. -/
theorem wait_condition_was_true (det : Details σ) (mem : σ) {m : Machine σ} {f : FutId} {v : Obj}
    (reach : Reach det (fun _ _ => True) (Machine.init det mem) m)
    (exist : f < m.inst.nextFut) (role : (m.inst.futs f).role = .condition)
    (result : (m.inst.futs f).state = .result v) :
    ∃ fn m₀ m₁, Reach det (fun _ _ => True) (Machine.init det mem) m₀ ∧ FoundTrue det fn f m₀ m₁ ∧
      Reach det (fun _ _ => True) m₁ m ∧
      (∀ m₂, tick det m₁ = some m₂ → fn m₂.inst.view = .ok true) ∧
      (Reach det (KeepsTrue det fn) m₁ m → fn m.inst.view = .ok true) := by
  obtain ⟨fn, m₀, m₁, reach₀, found, reach₁⟩ := reach.foundTrue exist role result
  obtain ⟨frame₀, control₀⟩ := found.inner
  have spec := check_spec det (reach₀.wellFormed (init_wellFormed det mem)) control₀ found.ready
    found.checked
  have holds : fn m₁.inst.view = .ok true := by
    rw [spec.view]
    exact found.holds
  refine ⟨fn, m₀, m₁, reach₀, found, reach₁, fun m₂ next => ?_, fun keeps => keeps.keepsTrue holds⟩
  -- the loop goes back to its top without touching the instance
  rcases spec.control with idle | ⟨frame₁, outer⟩
  · simp [tick, idle] at next
  · cases tick_cases det next with
    | ran | loop => exact holds
    | _ => simp_all

/-- The guard is free. -/
def guardFree : Cond Nat := fun view => .ok (view.mem = 0)

/-- Two tasks wait for a guard; a check finds it free. -/
def guardedTwice : List (Label Nat) :=
  started ++ [Label.tick, Label.act (.ret 0), Label.tick, Label.tick, Label.act .createTask,
    Label.act (.waitCondition guardFree), Label.tick, Label.act (.waitCondition guardFree),
    Label.tick, Label.tick]

theorem wait_condition_was_true_guard : ∃ m fn m₀ m₁,
    run Details.plain (Machine.init Details.plain 0) guardedTwice = some m ∧
      m.inst.ready = [.callback (.wakeup 0) 2, .callback (.wakeup 1) 3] ∧
      FoundTrue Details.plain fn 2 m₀ m₁ := by
  have evaluated : (run Details.plain (Machine.init Details.plain 0) guardedTwice).map (fun m =>
      decide (m.inst.ready = [.callback (.wakeup 0) 2, .callback (.wakeup 1) 3] ∧
        2 < m.inst.nextFut ∧ (m.inst.futs 2).role = .condition ∧
        (m.inst.futs 2).state = .result 1)) = some true := by decide +kernel
  obtain ⟨m, ran, facts⟩ := Option.map_eq_some_iff.mp evaluated
  obtain ⟨ready, exist, role, result⟩ := of_decide_eq_true facts
  obtain ⟨fn, m₀, m₁, -, found, -⟩ := wait_condition_was_true Details.plain 0
    (.of_run ran fun _ _ _ => trivial) exist role result
  exact ⟨m, fn, m₀, m₁, ran, ready, found⟩

/-- The task that resumes first takes the guard. The other one resumes next, with
the result of the same check, and finds the guard taken. -/
theorem wait_condition_falsified : ∃ m,
    run Details.plain (Machine.init Details.plain 0)
      (guardedTwice ++ [.tick, .act (.write fun _ => 1), .act .bareYield]) = some m ∧
      m.inst.ready = [.callback (.wakeup 1) 3, .taskStep 0] ∧
      (m.inst.tasks 1).map Task.point = some (.suspended (some 3)) ∧
      (m.inst.futs 3).state = .result 1 ∧ guardFree m.inst.view = .ok false := by
  have evaluated : (run Details.plain (Machine.init Details.plain 0)
      (guardedTwice ++ [.tick, .act (.write fun _ => 1), .act .bareYield])).map (fun m =>
        decide (m.inst.ready = [.callback (.wakeup 1) 3, .taskStep 0] ∧
          (m.inst.tasks 1).map Task.point = some (.suspended (some 3)) ∧
          (m.inst.futs 3).state = .result 1 ∧ m.inst.mem = 1)) = some true := by decide +kernel
  obtain ⟨m, ran, facts⟩ := Option.map_eq_some_iff.mp evaluated
  obtain ⟨ready, waits, result, taken⟩ := of_decide_eq_true facts
  exact ⟨m, ran, ready, waits, result, by simp [guardFree, Inst.view, taken]⟩

end TemporalSdk.Workflow
