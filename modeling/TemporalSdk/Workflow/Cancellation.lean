import TemporalSdk.Workflow.LoopEffects

/-!
# How far a cancellation goes

`Task.cancel` hands the request on to what the task waits for, and the future of
a `gather` hands it to its children. `Passes s f t` says that a cancellation of
`f` in the state `s` can get to `t`. What it cannot get to stays as it is, and
no task is completed on the way.
-/
namespace TemporalSdk.Workflow

open Eff

variable {σ : Type}

/-- A cancellation of the first future can get to the second. -/
inductive Passes (s : Inst σ) : FutId → FutId → Prop
  | here (f : FutId) : Passes s f f
  | child {f child t : FutId} {children : List FutId} (gather : (s.futs f).role = .gather children)
      (member : child ∈ children) (rest : Passes s child t) : Passes s f t
  | waiter {f next t : FutId} {task : Task} (isTask : s.tasks f = some task)
      (waits : task.point.waiter = .fut next) (rest : Passes s next t) : Passes s f t

/-- What a cancellation leaves alone that does not get to the futures in `P`. -/
structure Spares (P : FutId → Prop) (s s' : Inst σ) : Prop where
  role : ∀ f, (s'.futs f).role = (s.futs f).role
  point : ∀ f, (s'.tasks f).map Task.point = (s.tasks f).map Task.point
  task : ∀ t, P t → s'.tasks t = s.tasks t
  fut : ∀ t, P t → s'.futs t = s.futs t
  taskFut : ∀ t, (s.tasks t).isSome → s'.futs t = s.futs t

variable {P : FutId → Prop}

theorem Spares.isSome {s s' : Inst σ} (h : Spares P s s') (f : FutId) :
    (s'.tasks f).isSome = (s.tasks f).isSome := by
  rw [← Option.isSome_map, h.point f, Option.isSome_map]

instance : IsPreorder (Inst σ) (Spares P) where
  refl _ := ⟨fun _ => rfl, fun _ => rfl, fun _ _ => rfl, fun _ _ => rfl, fun _ _ => rfl⟩
  trans _ _ _ h h' := {
    role := fun f => (h'.role f).trans (h.role f)
    point := fun f => (h'.point f).trans (h.point f)
    task := fun t spared => (h'.task t spared).trans (h.task t spared)
    fut := fun t spared => (h'.fut t spared).trans (h.fut t spared)
    taskFut := fun t isTask =>
      (h'.taskFut t ((h.isSome t).trans isTask)).trans (h.taskFut t isTask) }

/-- The chain of waiters is not changed by what a cancellation does along it. -/
theorem Passes.of_spares {s s' : Inst σ} (h : Spares P s s') {f t : FutId} (passes : Passes s' f t) :
    Passes s f t := by
  induction passes with
  | here f => exact .here f
  | @child f _ _ _ gather member _ ih => exact .child ((h.role f).symm.trans gather) member ih
  | @waiter f _ _ task isTask waits _ ih =>
    have same := h.point f
    rw [isTask, Option.map_some] at same
    obtain ⟨old, isOld, point⟩ := Option.map_eq_some_iff.mp same.symm
    exact .waiter isOld (by rw [point]; exact waits) ih

/-! ### The steps of a cancellation -/

theorem Spares.of_eq {s s' : Inst σ} (tasks : s'.tasks = s.tasks) (futs : s'.futs = s.futs) :
    Spares P s s' where
  role f := by rw [futs]
  point f := by rw [tasks]
  task t _ := by rw [tasks]
  fut t _ := by rw [futs]
  taskFut t _ := by rw [futs]

theorem Spares.settled {s : Inst σ} {f : FutId} (reached : ¬P f) (notTask : s.tasks f = none)
    (new : FutState) : Spares P s (s.settled f new) where
  role f' := by
    by_cases same : f' = f <;> simp [Inst.settled, Inst.pushAll, Inst.setFut, same]
  point _ := rfl
  task _ _ := rfl
  fut t spared := by
    have other : t ≠ f := fun same => reached (same ▸ spared)
    simp [Inst.settled, Inst.pushAll, Inst.setFut, other]
  taskFut t isTask := by
    have other : t ≠ f := by
      rintro rfl
      rw [notTask] at isTask
      cases isTask
    simp [Inst.settled, Inst.pushAll, Inst.setFut, other]

theorem Spares.mapTask {s : Inst σ} {f : FutId} (reached : ¬P f) {g : Task → Task}
    (point : ∀ task, (g task).point = task.point) : Spares P s (s.mapTask f g) := by
  rw [Inst.mapTask]
  cases isTask : s.tasks f with
  | none => exact Std.Refl.refl s
  | some task =>
    refine ⟨fun _ => rfl, fun f' => ?_, fun t spared => ?_, fun _ _ => rfl, fun _ _ => rfl⟩
    · by_cases same : f' = f
      · subst same
        simp [Inst.setTask, isTask, point]
      · simp [Inst.setTask, same]
    · have other : t ≠ f := fun same => reached (same ▸ spared)
      simp [Inst.setTask, other]

theorem cancelOuter_spares (o : OuterId) (s : Inst σ) : Spares P s (cancelOuter o s).2 := by
  rw [cancelOuter_run]
  split
  · exact .of_eq rfl rfl
  · exact Std.Refl.refl s

theorem cancelChildren_spares {cancelChild : FutId → Wf σ Bool} {s₀ : Inst σ}
    {children : List FutId}
    (h : ∀ child ∈ children, ∀ s, Spares P s₀ s → Spares P s (cancelChild child s).2)
    (requested : Bool) {s : Inst σ} (since : Spares P s₀ s) :
    Spares P s ((children.foldlM (fun requested child => do
      let r ← cancelChild child
      pure (requested || r)) requested) s).2 := by
  induction children generalizing requested s with
  | nil => exact Std.Refl.refl s
  | cons child children ih =>
    have first : Spares P s ((do
        let r ← cancelChild child
        pure (requested || r)) s).2 :=
      bind_steady_at (h child (List.mem_cons_self ..) s since) fun _ s₁ _ => Steady.pure _ s₁
    refine bind_steady_at first fun r s₁ run => ?_
    have run : (do
        let r ← cancelChild child
        pure (requested || r)) s = (.ok r, s₁) := run
    rw [run] at first
    exact ih (fun c member => h c (List.mem_cons_of_mem _ member)) _
      (IsTrans.trans _ _ _ since first)

/-- A cancellation does nothing to what it does not get to. -/
theorem cancel_spares (fuel : Nat) (f : FutId) (s : Inst σ)
    (reached : ∀ t, Passes s f t → ¬P t) : Spares P s (cancel fuel f s).2 := by
  induction fuel generalizing f s with
  | zero => exact Std.Refl.refl s
  | succ fuel ih =>
    simp only [cancel, state_bind_run]
    cases isTask : s.tasks f with
    | none =>
      cases done : s.isDone f with
      | true => exact Std.Refl.refl s
      | false =>
        have settles : Spares P s ((settle f .cancelled >>= fun _ => pure true) s).2 := by
          refine bind_steady_at ?_ fun _ s₁ _ => Steady.pure _ s₁
          rw [settle_state]
          exact .settled (reached f (.here f)) isTask _
        simp only [Bool.false_eq_true, if_false, futureCancel]
        cases gather : (s.futs f).role with
        | gather children =>
          refine cancelChildren_spares (fun child member s₁ since => ?_) false (Std.Refl.refl s)
          exact ih child s₁ fun t passes => reached t (.child gather member (passes.of_spares since))
        | _ => exact settles
    | some task =>
      have overridden : Spares P s (overriddenCancel f task.root s).2 := by
        cases run : overriddenCancel f task.root s with
        | mk r s₁ =>
          obtain ⟨tasks, futs⟩ := overriddenCancel_keeps run
          exact .of_eq tasks futs
      refine bind_steady_at overridden fun _ s₁ run => ?_
      rw [run] at overridden
      cases done : s.isDone f with
      | true => exact Std.Refl.refl s₁
      | false =>
        have requested : Spares P s₁ (s₁.mapTask f fun task =>
            { task with cancelling := task.cancelling + 1 }) :=
          .mapTask (reached f (.here f)) fun _ => rfl
        simp only [Bool.false_eq_true, if_false, taskCancel, update_bind_run]
        refine IsTrans.trans _ _ _ requested (bind_steady_at ?_ fun passedOn s₂ _ => ?_)
        · cases waits : task.point.waiter with
          | none => exact Steady.pure _ _
          | outer o => exact cancelOuter_spares o _
          | fut next =>
            refine ih next _ fun t passes => reached t (.waiter isTask waits ?_)
            exact passes.of_spares (IsTrans.trans _ _ _ overridden requested)
        · cases passedOn with
          | true => exact Steady.pure _ s₂
          | false =>
            refine bind_steady_at ?_ fun _ s₃ _ => Steady.pure _ s₃
            exact .mapTask (reached f (.here f)) fun _ => rfl

theorem cancelFut_spares {f : FutId} {s : Inst σ} (reached : ∀ t, Passes s f t → ¬P t) :
    Spares P s (cancelFut f s).2 :=
  cancel_spares _ f s reached

end TemporalSdk.Workflow
