import TemporalSdk.Trace
import TemporalSdk.Workflow.AsCompleted

/-!
# What `as_completed` delivers

`Inv` counts: until the timeout runs, `todo` are the futures whose completion is still to
be handled, and what has been put are the others in the order of their arrival; when it
runs, dummies make up for the rest. A rank that every handle lowers and nothing raises
bounds what the loop has to run.
-/
namespace TemporalSdk.AsCompleted

variable {F R : Type}

/-- The futures whose completion is on the ready queue. -/
def State.completed (s : State F R) : List F :=
  s.ready.filterMap fun
    | .onCompletion f => some f
    | _ => none

/-- Whoever is scheduled by the queue is on the ready queue. -/
def State.Wakes (s : State F R) : Prop :=
  ∀ i, s.done.Scheduled i → .wakeup i ∈ s.ready

/-! ### Putting -/

/-- What the handles and the awaitables may still do; `n` is the number of futures. -/
def Handle.cost (n : Nat) : Handle F → Nat
  | .onCompletion _ => 2
  | .onTimeout => n + 1
  | .wakeup _ => 1

def State.load (s : State F R) (n : Nat) : Nat :=
  s.done.work + (s.ready.map (Handle.cost n)).sum

/-- `s'` is `s` after so many items have been put, up to callbacks. -/
structure Put (s s' : State F R) (items : List (Option F)) : Prop where
  done : s'.done.Inv
  size : s'.done.consumers.length = s.done.consumers.length
  puts : s'.done.puts = s.done.puts ++ items
  wakes : s.Wakes → s'.Wakes
  completed : s'.completed = s.completed
  ready : ∀ handle ∈ s.ready, handle ∈ s'.ready
  load : ∀ n, s'.load n ≤ s.load n + items.length
  fresh : ∀ i : Nat, s'.done.consumers[i]? = some .created → s.done.consumers[i]? = some .created
  struck : ∀ i, s'.done.Struck i → s.done.Struck i
  outcomes : s'.outcomes = s.outcomes
  todo : s'.todo = s.todo
  timeoutHandle : s'.timeoutHandle = s.timeoutHandle
  completions : s'.completions = s.completions

variable {s s' : State F R}

theorem completed_append (s : State F R) (handles : List (Handle F)) :
    State.completed { s with ready := s.ready ++ handles } = s.completed ++
      handles.filterMap fun | .onCompletion f => some f | _ => none :=
  List.filterMap_append

theorem schedule_none (s : State F R) : s.schedule none = s := by
  rw [State.schedule, Option.toList_none, List.map_nil, List.append_nil]

theorem schedule_completed (s : State F R) (woken : Option Nat) :
    (s.schedule woken).completed = s.completed := by
  cases woken with
  | none => rw [schedule_none]
  | some i => exact (completed_append s [.wakeup i]).trans (List.append_nil _)

theorem schedule_load (s : State F R) (woken : Option Nat) (n : Nat) :
    (s.schedule woken).load n = s.load n + woken.toList.length := by
  rw [State.load, State.schedule, List.map_append, List.sum_append, State.load, Nat.add_assoc]
  cases woken <;> rfl

/-- The operations of the queue schedule whom they wake. -/
theorem State.Wakes.schedule {done : AsyncQueue (Option F)} {woken : Option Nat} (wakes : s.Wakes)
    (scheduled : ∀ j, done.Scheduled j → s.done.Scheduled j ∨ woken = some j) :
    (State.schedule { s with done := done } woken).Wakes := by
  intro j is
  rcases scheduled j is with old | new
  · exact List.mem_append_left _ (wakes j old)
  · subst new
    exact List.mem_append_right _ List.mem_cons_self

theorem putNowait_put (inv : s.done.Inv) (item : Option F) : Put s (s.putNowait item) [item] where
  done := inv.putNowait item
  size := AsyncQueue.putNowait_size _ _
  puts := AsyncQueue.putNowait_puts _ _
  wakes wakes := wakes.schedule fun _ => AsyncQueue.putNowait_scheduled inv item
  completed := schedule_completed _ _
  ready _ mem := List.mem_append_left _ mem
  load n := by
    rw [State.putNowait, schedule_load, State.load, AsyncQueue.putNowait_work inv item]
    exact Nat.add_le_add_left Option.length_toList_le _
  fresh _ := AsyncQueue.putNowait_fresh inv item
  struck _ := AsyncQueue.putNowait_struck inv item
  outcomes := rfl
  todo := rfl
  timeoutHandle := rfl
  completions := rfl

theorem Put.trans {s₁ s₂ s₃ : State F R} {items more : List (Option F)} (first : Put s₁ s₂ items)
    (second : Put s₂ s₃ more) : Put s₁ s₃ (items ++ more) where
  done := second.done
  size := second.size.trans first.size
  puts := by rw [second.puts, first.puts, List.append_assoc]
  wakes wakes := second.wakes (first.wakes wakes)
  completed := second.completed.trans first.completed
  ready handle mem := second.ready handle (first.ready handle mem)
  load n := by
    rw [List.length_append, ← Nat.add_assoc]
    exact (second.load n).trans (Nat.add_le_add_right (first.load n) _)
  fresh i created := first.fresh i (second.fresh i created)
  struck i is := first.struck i (second.struck i is)
  outcomes := second.outcomes.trans first.outcomes
  todo := second.todo.trans first.todo
  timeoutHandle := second.timeoutHandle.trans first.timeoutHandle
  completions := second.completions.trans first.completions

/-! ### The head of the ready queue -/

/-- The state in which the handle at the head of the ready queue is run. -/
def State.popped (s : State F R) (rest : List (Handle F)) : State F R :=
  { s with ready := rest }

/-- What is on the ready queue besides the handle at its head. -/
theorem mem_rest {handle other : Handle F} {rest : List (Handle F)}
    (ready : s.ready = handle :: rest) (different : other ≠ handle) (mem : other ∈ s.ready) :
    other ∈ rest := by
  rw [ready] at mem
  exact (List.mem_cons.mp mem).resolve_left different

theorem State.Wakes.popped {handle : Handle F} {rest : List (Handle F)} (wakes : s.Wakes)
    (ready : s.ready = handle :: rest) (other : ∀ i, handle ≠ .wakeup i) :
    (s.popped rest).Wakes :=
  fun i is => mem_rest ready (fun same => other i same.symm) (wakes i is)

theorem completed_popped {f : F} {rest : List (Handle F)}
    (ready : s.ready = .onCompletion f :: rest) : s.completed = f :: (s.popped rest).completed := by
  rw [State.completed, ready]
  rfl

theorem completed_popped_other {handle : Handle F} {rest : List (Handle F)}
    (ready : s.ready = handle :: rest) (other : ∀ f, handle ≠ .onCompletion f) :
    s.completed = (s.popped rest).completed := by
  rw [State.completed, ready]
  cases handle with
  | onCompletion f => exact absurd rfl (other f)
  | _ => rfl

/-! ### A bound on what is left -/

/-- A timer that is pending may still put a handle on the ready queue. -/
def timerCost (n : Nat) : Option Timer → Nat
  | some .pending => n + 1
  | _ => 0

/-- Bounds how many handles are run from here. -/
def State.rank (s : State F R) (n : Nat) : Nat :=
  s.load n + 2 * s.callbacks.length + timerCost n s.timeoutHandle

theorem rank_popped {handle : Handle F} {rest : List (Handle F)}
    (ready : s.ready = handle :: rest) (n : Nat) :
    s.rank n = (s.popped rest).rank n + handle.cost n := by
  have load : s.load n = (s.popped rest).load n + handle.cost n := by
    rw [State.load, ready, List.map_cons, List.sum_cons, Nat.add_comm (handle.cost n),
      ← Nat.add_assoc]
    rfl
  rw [State.rank, load]
  change _ = (s.popped rest).load n + 2 * s.callbacks.length + timerCost n s.timeoutHandle + _
  omega

theorem ready_load (s : State F R) (handles : List (Handle F)) (n : Nat) :
    State.load { s with ready := s.ready ++ handles } n =
      s.load n + (handles.map (Handle.cost n)).sum := by
  rw [State.load, State.load, List.map_append, List.sum_append, Nat.add_assoc]

theorem onCompletion_costs (l : List F) (n : Nat) :
    (l.map (Handle.cost n ∘ Handle.onCompletion)).sum = 2 * l.length := by
  induction l with
  | nil => rfl
  | cons f rest ih =>
    rw [List.map_cons, List.sum_cons, ih, List.length_cons]
    exact Nat.add_comm _ _

theorem goes_rank {done : AsyncQueue (Option F)} {woken : Option Nat}
    (goes : s.done.Goes done woken) (n : Nat) :
    (State.schedule { s with done := done } woken).rank n ≤ s.rank n := by
  have paid := goes.work
  have load : (State.schedule { s with done := done } woken).load n ≤ s.load n := by
    rw [schedule_load]
    change done.work + (s.ready.map (Handle.cost n)).sum + _ ≤
      s.done.work + (s.ready.map (Handle.cost n)).sum
    omega
  exact Nat.add_le_add_right (Nat.add_le_add_right load _) _

theorem addDoneCallback_all (s : State F R) (l : List F) :
    l.foldl State.addDoneCallback s = { s with
      ready := s.ready ++ (l.filter fun f => (s.outcomes f).isSome).map .onCompletion
      callbacks := s.callbacks ++ l.filter fun f => !(s.outcomes f).isSome } := by
  induction l generalizing s with
  | nil => simp
  | cons f rest ih =>
    rw [List.foldl_cons, ih, State.addDoneCallback]
    cases outcome : s.outcomes f <;> simp [outcome]

variable [DecidableEq F]

/-- The loop of `_on_timeout`. -/
theorem dummies_put (inv : s.done.Inv) (l : List F) :
    Put s (l.foldl (fun s f => (s.removeDoneCallback f).putNowait none) s)
        (List.replicate l.length none) ∧
      (l.foldl (fun s f => (s.removeDoneCallback f).putNowait none) s).callbacks =
        s.callbacks.filter fun f => f ∉ l := by
  induction l generalizing s with
  | nil =>
    refine ⟨⟨inv, rfl, (List.append_nil _).symm, id, rfl, fun _ => id, fun _ => Nat.le_refl _,
      fun _ => id, fun _ => id, rfl, rfl, rfl, rfl⟩, ?_⟩
    simp
  | cons f rest ih =>
    -- a future that has no callback is removed all the same
    have first : Put s ((s.removeDoneCallback f).putNowait none) [none] :=
      { putNowait_put (s := s.removeDoneCallback f) inv none with }
    obtain ⟨later, callbacks⟩ := ih first.done
    refine ⟨first.trans later, ?_⟩
    rw [List.foldl_cons, callbacks]
    change (s.callbacks.filter fun g => g ≠ f).filter _ = _
    rw [List.filter_filter]
    refine List.filter_congr fun g _ => ?_
    simp [List.mem_cons, not_or, Bool.and_comm]

theorem onTimeout_put (inv : s.done.Inv) : ∃ s', s.onTimeout = { s' with todo := [] } ∧
    Put s s' (List.replicate s.todo.length none) ∧
    s'.callbacks = s.callbacks.filter fun f => f ∉ s.todo :=
  ⟨_, rfl, dummies_put inv s.todo⟩

/-! ### The invariant -/

/-- The futures in the order in which they arrive: those done at the start come first, as
    they are listed, and the others as they complete. -/
def State.arrivals (s : State F R) (fs : List F) (before : List (F × R)) : List F :=
  (fs.filter fun f => f ∈ before.map Prod.fst) ++
    (s.completions.drop before.length).filter fun f => f ∈ fs

/-- Before the timeout runs. -/
structure Counting (fs : List F) (before : List (F × R)) (s : State F R)
    (finished : List F) : Prop where
  puts : s.done.puts = finished.map some
  arrivals : s.arrivals fs before = finished ++ s.completed
  todo : s.todo.Perm (s.completed ++ s.callbacks)
  all : fs.Perm (finished ++ s.todo)

/-- After it has run. -/
structure TimedOut (fs : List F) (before : List (F × R)) (s : State F R)
    (finished : List F) : Prop where
  puts : s.done.puts = finished.map some ++ List.replicate (fs.length - finished.length) none
  arrivals : finished <+: s.arrivals fs before
  todo : s.todo = []
  callbacks : s.callbacks = []
  within : finished.Subperm fs

structure Inv (fs : List F) (before : List (F × R)) (s : State F R) : Prop where
  done : s.done.Inv
  size : s.done.consumers.length = fs.length
  wakes : s.Wakes
  fired : s.timeoutHandle = some .fired → .onTimeout ∈ s.ready
  outcomes : ∀ f, f ∈ s.completions ↔ (s.outcomes f).isSome
  pending : ∀ f ∈ s.callbacks, s.outcomes f = none
  earlier : before.map Prod.fst <+: s.completions
  phase : ∃ finished, (s.timeoutHandle ≠ some .ran ∧ Counting fs before s finished) ∨
    (s.timeoutHandle = some .ran ∧ TimedOut fs before s finished)

variable {fs : List F} {before : List (F × R)}

/-- Putting and waking change nothing that counts. -/
theorem arrivals_eq (same : s'.completions = s.completions) :
    s'.arrivals fs before = s.arrivals fs before := by
  rw [State.arrivals, State.arrivals, same]

theorem isSome_of_arrived (inv : Inv fs before s) {f : F} (arrived : f ∈ s.arrivals fs before) :
    (s.outcomes f).isSome := by
  rw [← inv.outcomes]
  rcases List.mem_append.mp arrived with early | late
  · exact inv.earlier.subset (of_decide_eq_true (List.mem_filter.mp early).2)
  · exact List.mem_of_mem_drop (List.mem_filter.mp late).1

theorem arrivals_complete (inv : Inv fs before s) (f : F) (s' : State F R)
    (completes : s'.completions = s.completions ++ [f]) :
    s'.arrivals fs before = s.arrivals fs before ++ if f ∈ fs then [f] else [] := by
  have enough : before.length ≤ s.completions.length := by
    have fits := inv.earlier.length_le
    rwa [List.length_map] at fits
  rw [State.arrivals, completes, List.drop_append_of_le_length enough, List.filter_append,
    ← List.append_assoc, State.arrivals]
  congr 1
  by_cases mem : f ∈ fs <;> simp [mem]

theorem onCompletion_eq {f : F} (mem : f ∈ s.todo) :
    ∃ t, (t = s.timeoutHandle ∨ t = some .cancelled ∧ s.todo.erase f = []) ∧
      s.onCompletion f =
        { State.putNowait { s with todo := s.todo.erase f } (some f) with timeoutHandle := t } := by
  rw [State.onCompletion, if_neg (List.ne_nil_of_mem mem), if_pos mem]
  dsimp only
  split
  -- the last one: the timer is cancelled, if there is one
  next last =>
    refine ⟨_, ?_, rfl⟩
    change s.timeoutHandle.map _ = _ ∨ s.timeoutHandle.map _ = _ ∧ _
    cases s.timeoutHandle with
    | none => exact .inl rfl
    | some timer => exact .inr ⟨rfl, last⟩
  · exact ⟨s.timeoutHandle, .inl rfl, rfl⟩

theorem Counting.put {finished : List F} {f : F} {rest : List (Handle F)}
    (counting : Counting fs before s finished) (ready : s.ready = .onCompletion f :: rest)
    (put : Put { s.popped rest with todo := s.todo.erase f } s' [some f])
    (callbacks : s'.callbacks = s.callbacks) : Counting fs before s' (finished ++ [f]) where
  puts := by
    rw [put.puts, List.map_append]
    exact congrArg (· ++ [some f]) counting.puts
  arrivals := by
    rw [arrivals_eq put.completions, put.completed, List.append_assoc]
    exact counting.arrivals.trans (congrArg _ (completed_popped ready))
  todo := by
    -- the future leaves `todo` as its handle leaves the ready queue
    rw [put.todo, put.completed, callbacks]
    have all := counting.todo
    rw [completed_popped ready] at all
    have less := all.erase f
    rwa [List.cons_append, List.erase_cons_head] at less
  all := by
    have mem : f ∈ s.todo := by
      rw [counting.todo.mem_iff, completed_popped ready]
      exact List.mem_cons_self
    rw [put.todo, List.append_assoc]
    exact counting.all.trans ((List.perm_cons_erase mem).append_left _)

/-- After the timeout, a handle that is not a task's has no effect. -/
theorem Inv.popped_ran {handle : Handle F} {rest : List (Handle F)} (inv : Inv fs before s)
    (ready : s.ready = handle :: rest) (other : ∀ i, handle ≠ .wakeup i)
    (ran : s.timeoutHandle = some .ran) : Inv fs before (s.popped rest) := by
  obtain ⟨finished, ⟨notRan, -⟩ | ⟨-, timedOut⟩⟩ := inv.phase
  · exact absurd ran notRan
  · exact { inv with
      wakes := inv.wakes.popped ready other
      fired := fun fired => by cases ran.symm.trans fired
      phase := ⟨finished, .inr ⟨ran, { timedOut with }⟩⟩ }

theorem onCompletion_inv {f : F} {rest : List (Handle F)} (inv : Inv fs before s)
    (ready : s.ready = .onCompletion f :: rest) :
    Inv fs before ((s.popped rest).onCompletion f) := by
  obtain ⟨finished, ⟨notRan, counting⟩ | ⟨ran, timedOut⟩⟩ := inv.phase
  -- before the timeout, whoever is handled is in `todo`
  · have mem : f ∈ (s.popped rest).todo := by
      rw [State.popped, counting.todo.mem_iff, completed_popped ready]
      exact List.mem_cons_self
    obtain ⟨t, kept, is⟩ := onCompletion_eq mem
    have put := putNowait_put (s := { s.popped rest with todo := s.todo.erase f }) inv.done (some f)
    have counts := counting.put ready put rfl
    rw [is]
    refine ⟨put.done, put.size.trans inv.size, put.wakes (inv.wakes.popped ready (by simp)),
      fun fired => ?_, inv.outcomes, inv.pending, inv.earlier, finished ++ [f],
      .inl ⟨?_, { counts with }⟩⟩
    · rcases kept with rfl | ⟨rfl, -⟩
      · exact put.ready _ (mem_rest ready (by simp) (inv.fired fired))
      · cases fired
    · rcases kept with rfl | ⟨rfl, -⟩
      · exact notRan
      · simp
  -- after it `todo` is empty, and a callback that was scheduled before does nothing
  · have nothing : (s.popped rest).onCompletion f = s.popped rest := if_pos timedOut.todo
    rw [nothing]
    exact inv.popped_ran ready (by simp) ran

theorem Counting.timedOut {finished : List F} (counting : Counting fs before s finished)
    (puts : s'.done.puts = s.done.puts ++ List.replicate s.todo.length none)
    (completions : s'.completions = s.completions) (todo : s'.todo = [])
    (callbacks : s'.callbacks = s.callbacks.filter fun f => f ∉ s.todo) :
    TimedOut fs before s' finished where
  puts := by
    have count := counting.all.length_eq
    rw [List.length_append] at count
    rw [puts, counting.puts, count, Nat.add_sub_cancel_left]
  arrivals := by
    rw [arrivals_eq completions, counting.arrivals]
    exact List.prefix_append _ _
  todo := todo
  callbacks := by
    rw [callbacks]
    refine List.filter_eq_nil_iff.mpr fun f mem => ?_
    -- all callbacks are of futures in `todo`, so none is left
    have todo : f ∈ s.todo := counting.todo.mem_iff.mpr (List.mem_append_right _ mem)
    simp [todo]
  within := (List.sublist_append_left finished s.todo).subperm.trans counting.all.symm.subperm

theorem onTimeout_inv {rest : List (Handle F)} (inv : Inv fs before s)
    (ready : s.ready = .onTimeout :: rest) :
    Inv fs before ((s.popped rest).runHandle .onTimeout) := by
  rw [State.runHandle]
  obtain ⟨finished, ⟨notRan, counting⟩ | ⟨ran, timedOut⟩⟩ := inv.phase
  · have wakes := inv.wakes.popped ready (by simp)
    split
    -- the timer was pending when it fired, and nobody has cancelled it since
    next fired =>
      obtain ⟨s', is, put, callbacks⟩ := onTimeout_put
        (s := { s.popped rest with timeoutHandle := some .ran }) inv.done
      have out : TimedOut fs before { s' with todo := [] } finished :=
        counting.timedOut put.puts put.completions rfl callbacks
      rw [is]
      refine ⟨put.done, put.size.trans inv.size, put.wakes wakes, fun fired => ?_, ?_, ?_, ?_,
        finished, .inr ⟨put.timeoutHandle, out⟩⟩
      · cases put.timeoutHandle.symm.trans fired
      · rw [put.completions, put.outcomes]
        exact inv.outcomes
      · rw [out.callbacks]
        exact fun _ mem => (List.not_mem_nil mem).elim
      · rw [put.completions]
        exact inv.earlier
    next notFired =>
      -- cancelled by the last completion, after its handle had been scheduled
      have same := completed_popped_other ready (by simp)
      exact { inv with
        wakes := wakes
        fired := fun fired => absurd fired notFired
        phase := ⟨finished, .inl ⟨notRan, counting.puts, counting.arrivals.trans (by rw [same]),
          counting.todo.trans (by rw [same]; rfl), counting.all⟩⟩ }
  · rw [if_neg fun fired => by cases ran.symm.trans fired]
    exact inv.popped_ran ready (by simp) ran

/-- The operations of the queue that do not put keep what is counted, also when a step of a
    task has been taken from the ready queue before. -/
theorem Inv.goes {done : AsyncQueue (Option F)} {woken : Option Nat} {ready : List (Handle F)}
    (inv : Inv fs before s) (goes : s.done.Goes done woken)
    (completed : (s.popped ready).completed = s.completed)
    (fired : .onTimeout ∈ s.ready → .onTimeout ∈ ready)
    (wakes : State.Wakes (State.schedule { s.popped ready with done := done } woken)) :
    Inv fs before (State.schedule { s.popped ready with done := done } woken) := by
  have same : (State.schedule { s.popped ready with done := done } woken).completed =
      s.completed := (schedule_completed _ _).trans completed
  obtain ⟨finished, ⟨notRan, counting⟩ | ⟨ran, timedOut⟩⟩ := inv.phase
  · exact ⟨goes.inv, goes.size.trans inv.size, wakes,
      fun isFired => List.mem_append_left _ (fired (inv.fired isFired)), inv.outcomes, inv.pending,
      inv.earlier, finished, .inl ⟨notRan, goes.puts.trans counting.puts,
        counting.arrivals.trans (by rw [same]), counting.todo.trans (by rw [same]; rfl),
        counting.all⟩⟩
  · exact ⟨goes.inv, goes.size.trans inv.size, wakes,
      fun isFired => List.mem_append_left _ (fired (inv.fired isFired)), inv.outcomes, inv.pending,
      inv.earlier, finished, .inr ⟨ran, goes.puts.trans timedOut.puts, timedOut.arrivals,
        timedOut.todo, timedOut.callbacks, timedOut.within⟩⟩

theorem wakeup_inv {i : Nat} {rest : List (Handle F)} (inv : Inv fs before s)
    (ready : s.ready = .wakeup i :: rest) :
    Inv fs before ((s.popped rest).runHandle (.wakeup i)) := by
  have goes := inv.done.resume i
  refine inv.goes goes (completed_popped_other ready (by simp)).symm
    (mem_rest ready (by simp)) fun j scheduled => ?_
  rcases goes.scheduled j scheduled with old | new
  · by_cases same : j = i
    · subst same
      -- its own handle has been taken from the queue, so it must have been scheduled again
      have again : (s.done.resume j).2 = some j := inv.done.resume_idle j scheduled
      exact List.mem_append_right _ (by simp [State.popped, again])
    · exact List.mem_append_left _ (mem_rest ready (by simp [same]) (inv.wakes j old))
  · exact List.mem_append_right _ (by simp [State.popped, new])

/-- A future that has the callback is one of those iterated over, and has it once. -/
theorem Counting.callbacks_nodup {finished : List F} (counting : Counting fs before s finished)
    (distinct : fs.Nodup) : s.callbacks.Nodup := by
  have all := counting.all.nodup_iff.mp distinct
  have todo := counting.todo.nodup_iff.mp (List.nodup_append.mp all).2.1
  exact (List.nodup_append.mp todo).2.1

theorem Counting.complete {finished : List F} {f : F} (inv : Inv fs before s)
    (counting : Counting fs before s finished) (distinct : fs.Nodup) (fresh : s.outcomes f = none)
    (puts : s'.done.puts = s.done.puts) (todo : s'.todo = s.todo)
    (callbacks : s'.callbacks = s.callbacks.filter fun g => g ≠ f)
    (completed : s'.completed = s.completed ++ s.callbacks.filter fun g => g = f)
    (completions : s'.completions = s.completions ++ [f]) :
    Counting fs before s' finished where
  puts := puts.trans counting.puts
  arrivals := by
    rw [arrivals_complete inv f s' completions, counting.arrivals, completed, List.append_assoc]
    congr 2
    by_cases mem : f ∈ s.callbacks
    -- one of them: it has its callback once, which is scheduled now
    · have inside : f ∈ fs := counting.all.mem_iff.mpr (List.mem_append_right _
        (counting.todo.mem_iff.mpr (List.mem_append_right _ mem)))
      rw [if_pos inside, List.filter_eq, List.count_eq_one_of_mem
        (counting.callbacks_nodup distinct) mem]
      rfl
    -- another: one without a callback that is not done is not iterated over
    · have outside : f ∉ fs := by
        intro inside
        have arrived : f ∉ finished ++ s.completed := by
          rw [← counting.arrivals]
          intro arrived
          have some := isSome_of_arrived inv arrived
          rw [fresh] at some
          cases some
        rw [counting.all.mem_iff, List.mem_append, counting.todo.mem_iff, List.mem_append] at inside
        rw [List.mem_append] at arrived
        tauto
      rw [if_neg outside, List.filter_eq, List.count_eq_zero_of_not_mem mem]
      rfl
  todo := by
    rw [todo, completed, callbacks, List.append_assoc]
    have split := (List.filter_append_perm (fun g => decide (g = f)) s.callbacks).symm
    simp only [← decide_not] at split
    exact counting.todo.trans (split.append_left _)
  all := by
    rw [todo]
    exact counting.all

theorem complete_inv {f : F} {outcome : R} (inv : Inv fs before s) (distinct : fs.Nodup)
    (stepped : step s (.complete f outcome) = some s') : Inv fs before s' := by
  rw [step] at stepped
  split at stepped
  next => cases stepped
  next fresh =>
    cases stepped
    have arrive := completed_append s
      ((s.callbacks.filter fun g => g = f).map Handle.onCompletion)
    rw [List.filterMap_map] at arrive
    have completed := arrive.trans (congrArg _ List.filterMap_some)
    have outcomes (g : F) : g ∈ s.completions ++ [f] ↔
        (if g = f then some outcome else s.outcomes g).isSome := by
      rw [List.mem_append, List.mem_singleton, inv.outcomes]
      by_cases same : g = f <;> simp [same]
    have pending (g : F) (mem : g ∈ s.callbacks.filter fun g => g ≠ f) :
        (if g = f then some outcome else s.outcomes g) = none := by
      obtain ⟨mem, other⟩ := List.mem_filter.mp mem
      rw [if_neg (of_decide_eq_true other)]
      exact inv.pending g mem
    refine ⟨inv.done, inv.size, fun i is => List.mem_append_left _ (inv.wakes i is),
      fun fired => List.mem_append_left _ (inv.fired fired), outcomes, pending,
      inv.earlier.trans (List.prefix_append _ _), ?_⟩
    obtain ⟨finished, ⟨notRan, counting⟩ | ⟨ran, timedOut⟩⟩ := inv.phase
    · exact ⟨finished, .inl ⟨notRan,
        counting.complete inv distinct fresh rfl rfl rfl completed rfl⟩⟩
    -- after the timeout nobody has a callback any more
    · have none : s.callbacks.filter (fun g => g ≠ f) = [] := by
        rw [timedOut.callbacks]
        rfl
      refine ⟨finished, .inr ⟨ran, timedOut.puts, ?_, timedOut.todo, none, timedOut.within⟩⟩
      rw [arrivals_complete inv f _ rfl]
      exact timedOut.arrivals.trans (List.prefix_append _ _)

theorem step_inv {a : Action F R} (distinct : fs.Nodup) (inv : Inv fs before s)
    (stepped : step s a = some s') : Inv fs before s' := by
  cases a with
  | complete f outcome => exact complete_inv inv distinct stepped
  | fireTimer =>
    rw [step] at stepped
    split at stepped
    next pending =>
      cases stepped
      have completed := (completed_append s [.onTimeout]).trans (List.append_nil _)
      obtain ⟨finished, ⟨-, counting⟩ | ⟨ran, -⟩⟩ := inv.phase
      -- the timer has not run: it is still pending, and its handle is new
      · exact { inv with
          wakes := fun i is => List.mem_append_left _ (inv.wakes i is)
          fired := fun _ => List.mem_append_right _ List.mem_cons_self
          phase := ⟨finished, .inl ⟨by simp, counting.puts,
            counting.arrivals.trans (congrArg _ completed.symm),
            counting.todo.trans (by rw [← completed]; rfl), counting.all⟩⟩ }
      -- a timer that has run does not fire again
      · cases ran.symm.trans pending
    next => cases stepped
  | await i =>
    obtain ⟨done, gets, rfl⟩ := Option.map_eq_some_iff.mp stepped
    have goes := inv.done.get? gets
    rw [← schedule_none { s with done := done }]
    exact inv.goes goes rfl id (inv.wakes.schedule goes.scheduled)
  | cancelAwait i =>
    obtain ⟨⟨done, woken⟩, cancels, rfl⟩ := Option.map_eq_some_iff.mp stepped
    have goes := inv.done.cancel? cancels
    exact inv.goes goes rfl id (inv.wakes.schedule goes.scheduled)
  | tick =>
    rw [step] at stepped
    split at stepped
    next => cases stepped
    next handle rest ready =>
      cases stepped
      cases handle with
      | onCompletion f => exact onCompletion_inv inv ready
      | onTimeout => exact onTimeout_inv inv ready
      | wakeup i => exact wakeup_inv inv ready

theorem start_eq (fs : List F) (timeout : Bool) (before : List (F × R)) :
    start fs timeout before = {
      outcomes := outcomesOf before
      callbacks := fs.filter fun f => !(outcomesOf before f).isSome
      ready := (fs.filter fun f => (outcomesOf before f).isSome).map .onCompletion
      todo := fs
      timeoutHandle := if fs ≠ [] ∧ timeout then some .pending else none
      done := .empty fs.length
      completions := before.map Prod.fst } := by
  rw [start, addDoneCallback_all]
  rfl

theorem isSome_outcomesOf (before : List (F × R)) (f : F) :
    (outcomesOf before f).isSome ↔ f ∈ before.map Prod.fst := by
  rw [outcomesOf, Option.isSome_map, List.find?_isSome]
  simp

theorem start_inv (fs : List F) (timeout : Bool) (before : List (F × R)) :
    Inv fs before (start fs timeout before) := by
  have completed : (start fs timeout before).completed =
      fs.filter fun f => (outcomesOf before f).isSome := by
    rw [start_eq, State.completed, List.filterMap_map]
    exact List.filterMap_some
  have notRan : (start fs timeout before).timeoutHandle ≠ some .ran ∧
      (start fs timeout before).timeoutHandle ≠ some .fired := by
    rw [start_eq]
    dsimp only
    split <;> simp
  -- those that are done by then are scheduled as they are listed
  have arrivals : (start fs timeout before).arrivals fs before =
      fs.filter fun f => (outcomesOf before f).isSome := by
    rw [start_eq, State.arrivals, List.drop_of_length_le (by simp), List.filter_nil,
      List.append_nil]
    refine List.filter_congr fun f _ => ?_
    rw [Bool.eq_iff_iff, decide_eq_true_iff, isSome_outcomesOf]
  have todo := List.filter_append_perm (fun f => (outcomesOf before f).isSome) fs
  have counting : Counting fs before (start fs timeout before) [] := by
    refine ⟨?_, arrivals.trans completed.symm, ?_, ?_⟩
    · rw [start_eq]
      rfl
    · rw [completed, start_eq]
      exact todo.symm
    · rw [start_eq]
      exact .refl _
  refine ⟨?_, ?_, ?_, fun fired => absurd fired notRan.2, ?_, ?_, ?_, [],
    .inl ⟨notRan.1, counting⟩⟩
  · rw [start_eq]
    exact AsyncQueue.inv_empty _
  · rw [start_eq]
    exact List.length_replicate
  · rw [start_eq]
    rintro i ⟨consumer, there, scheduled⟩
    rw [List.eq_of_mem_replicate (List.mem_of_getElem? there)] at scheduled
    exact scheduled.elim
  · rw [start_eq]
    exact fun f => (isSome_outcomesOf before f).symm
  · rw [start_eq]
    intro f mem
    have fresh := (List.mem_filter.mp mem).2
    simpa using fresh
  · have same : (start fs timeout before).completions = before.map Prod.fst := by rw [start_eq]
    exact same ▸ List.prefix_rfl

theorem reaches_inv {timeout : Bool} (distinct : fs.Nodup)
    (run : Reaches step (fun _ _ => True) (start fs timeout before) s) : Inv fs before s :=
  run.invariant (Inv fs before) (start_inv fs timeout before) fun inv _ => step_inv distinct inv

/-! ### What the loop still has to run -/

theorem Inv.todo_le (inv : Inv fs before s) : s.todo.length ≤ fs.length := by
  obtain ⟨finished, ⟨-, counting⟩ | ⟨-, timedOut⟩⟩ := inv.phase
  · rw [counting.all.length_eq, List.length_append]
    exact Nat.le_add_left _ _
  · rw [timedOut.todo]
    exact Nat.zero_le _

theorem onCompletion_rank (inv : s.done.Inv) (f : F) (n : Nat) :
    (s.onCompletion f).rank n ≤ s.rank n + 1 := by
  by_cases mem : f ∈ s.todo
  · obtain ⟨t, kept, is⟩ := onCompletion_eq mem
    have put := putNowait_put (s := { s with todo := s.todo.erase f }) inv (some f)
    have once : (State.putNowait { s with todo := s.todo.erase f } (some f)).load n ≤
        s.load n + 1 := put.load n
    -- cancelling the timer only lowers the rank
    have timer : timerCost n t ≤ timerCost n s.timeoutHandle := by
      rcases kept with rfl | ⟨rfl, -⟩
      · exact Nat.le_refl _
      · exact Nat.zero_le _
    rw [is]
    change State.load (State.putNowait _ _) n + 2 * s.callbacks.length + timerCost n t ≤
      s.load n + 2 * s.callbacks.length + timerCost n s.timeoutHandle + 1
    omega
  · have idle : s.onCompletion f = s := by
      rw [State.onCompletion, if_neg mem]
      exact ite_self _
    rw [idle]
    exact Nat.le_succ _

theorem onTimeout_rank (inv : s.done.Inv) (n : Nat) :
    s.onTimeout.rank n ≤ s.rank n + s.todo.length := by
  obtain ⟨s', is, put, callbacks⟩ := onTimeout_put inv
  have load := put.load n
  have fewer : s'.callbacks.length ≤ s.callbacks.length := by
    rw [callbacks]
    exact List.length_filter_le _ _
  rw [List.length_replicate] at load
  rw [is]
  change s'.load n + 2 * s'.callbacks.length + timerCost n s'.timeoutHandle ≤ _
  rw [put.timeoutHandle, State.rank]
  omega

theorem runHandle_rank {handle : Handle F} {rest : List (Handle F)} (inv : Inv fs before s)
    (ready : s.ready = handle :: rest) :
    ((s.popped rest).runHandle handle).rank fs.length < s.rank fs.length := by
  rw [rank_popped ready]
  cases handle with
  | onCompletion f =>
    exact Nat.lt_succ_of_le (onCompletion_rank (s := s.popped rest) inv.done f _)
  | onTimeout =>
    rw [State.runHandle]
    split
    next fired =>
      -- the handle has cost enough for a dummy for each future that is still to do
      have puts := onTimeout_rank (s := { s.popped rest with timeoutHandle := some .ran })
        inv.done fs.length
      have timer : State.rank { s.popped rest with timeoutHandle := some .ran } fs.length ≤
          (s.popped rest).rank fs.length :=
        Nat.add_le_add_left (Nat.zero_le _) _
      refine Nat.lt_succ_of_le (puts.trans (Nat.add_le_add timer inv.todo_le))
    next => exact Nat.lt_add_of_pos_right (Nat.succ_pos _)
  | wakeup i =>
    exact Nat.lt_succ_of_le (goes_rank (s := s.popped rest) (inv.done.resume i) _)

theorem step_rank {a : Action F R} (inv : Inv fs before s) (stepped : step s a = some s') :
    s'.rank fs.length ≤ s.rank fs.length ∧ (a = .tick → s'.rank fs.length < s.rank fs.length) := by
  cases a with
  | complete f outcome =>
    rw [step] at stepped
    split at stepped
    next => cases stepped
    next fresh =>
      cases stepped
      -- a callback becomes a handle, which costs what the callback did
      have split : (s.callbacks.filter fun g => g = f).length +
          (s.callbacks.filter fun g => g ≠ f).length = s.callbacks.length := by
        have all := (List.filter_append_perm (fun g => decide (g = f)) s.callbacks).length_eq
        simp only [List.length_append, ← decide_not] at all
        exact all
      have load := ready_load s ((s.callbacks.filter fun g => g = f).map .onCompletion) fs.length
      rw [List.map_map, onCompletion_costs] at load
      refine ⟨Nat.le_of_eq ?_, by simp⟩
      rw [State.rank, State.rank, ← split]
      change State.load { s with ready := _ } _ + _ + timerCost _ s.timeoutHandle = _
      rw [load]
      dsimp only
      omega
  | fireTimer =>
    rw [step] at stepped
    split at stepped
    next pending =>
      cases stepped
      have load : State.load { s with ready := s.ready ++ [.onTimeout] } fs.length =
          s.load fs.length + (fs.length + 1) := ready_load s [.onTimeout] fs.length
      refine ⟨Nat.le_of_eq ?_, by simp⟩
      rw [State.rank, State.rank, pending]
      change State.load { s with ready := _ } _ + 2 * s.callbacks.length + 0 =
        s.load fs.length + 2 * s.callbacks.length + (fs.length + 1)
      rw [load]
      omega
    next => cases stepped
  | await i =>
    obtain ⟨done, gets, rfl⟩ := Option.map_eq_some_iff.mp stepped
    refine ⟨?_, by simp⟩
    rw [← schedule_none { s with done := done }]
    exact goes_rank (inv.done.get? gets) _
  | cancelAwait i =>
    obtain ⟨⟨done, woken⟩, cancels, rfl⟩ := Option.map_eq_some_iff.mp stepped
    exact ⟨goes_rank (inv.done.cancel? cancels) _, by simp⟩
  | tick =>
    rw [step] at stepped
    split at stepped
    next => cases stepped
    next handle rest ready =>
      cases stepped
      have lower := runHandle_rank inv ready
      exact ⟨lower.le, fun _ => lower⟩

/-! ### Nobody waits forever -/

/-- All futures are done, or the timeout has fired. -/
def State.Settled (s : State F R) (fs : List F) : Prop :=
  (∀ f ∈ fs, (s.outcomes f).isSome) ∨ s.timeoutHandle = some .fired ∨
    s.timeoutHandle = some .ran

/-- The awaitable is awaited, and has neither been resolved nor cancelled. -/
def State.Awaited (s : State F R) (i : Nat) : Prop :=
  s.done.consumers[i]? = some .waiting ∨ s.done.Scheduled i

/-- `Settled`, also if the timer was cancelled at last. -/
def State.Over (s : State F R) (fs : List F) : Prop :=
  s.Settled fs ∨ s.todo = []

theorem Inv.puts_length (inv : Inv fs before s) :
    s.done.puts.length + s.todo.length = fs.length := by
  obtain ⟨finished, ⟨-, counting⟩ | ⟨-, timedOut⟩⟩ := inv.phase
  · rw [counting.puts, counting.all.length_eq, List.length_map, List.length_append]
  · have fits := timedOut.within.length_le
    rw [timedOut.puts, timedOut.todo, List.length_append, List.length_map, List.length_replicate]
    exact Nat.add_sub_of_le fits

theorem Inv.todo_nil (inv : Inv fs before s) (ended : s.Over fs) (idle : s.ready = []) :
    s.todo = [] := by
  obtain ⟨finished, ⟨notRan, counting⟩ | ⟨-, timedOut⟩⟩ := inv.phase
  · have completed : s.completed = [] := by
      rw [State.completed, idle]
      rfl
    rcases ended with (all | fired | ran) | nil
    -- all are done: none is left to complete, and none to be handled
    · have callbacks : s.callbacks = [] := by
        refine List.eq_nil_iff_forall_not_mem.mpr fun f mem => ?_
        have inside : f ∈ fs := counting.all.mem_iff.mpr (List.mem_append_right _
          (counting.todo.mem_iff.mpr (List.mem_append_right _ mem)))
        have some := all f inside
        rw [inv.pending f mem] at some
        cases some
      have todo := counting.todo
      rw [completed, callbacks] at todo
      exact todo.eq_nil
    -- a timer that has fired is on the ready queue until it runs
    · have mem := inv.fired fired
      rw [idle] at mem
      cases mem
    · exact absurd ran notRan
    · exact nil
  · exact timedOut.todo

theorem Inv.nobody_awaited (inv : Inv fs before s) (ended : s.Over fs) (idle : s.ready = [])
    (i : Nat) : ¬ s.Awaited i := by
  have unscheduled : ∀ j, ¬ s.done.Scheduled j := fun j scheduled => by
    have mem := inv.wakes j scheduled
    rw [idle] at mem
    cases mem
  have count := inv.puts_length
  rw [inv.todo_nil ended idle] at count
  rintro (waits | scheduled)
  · exact inv.done.nobody_waits unscheduled (inv.size.trans count.symm).le ⟨i, waits⟩
  · exact unscheduled i scheduled

theorem onTimeout_ran (inv : s.done.Inv) : s.onTimeout.timeoutHandle = s.timeoutHandle := by
  obtain ⟨s', is, put, -⟩ := onTimeout_put inv
  rw [is]
  exact put.timeoutHandle

theorem onCompletion_over {f : F} (ended : s.Over fs) : (s.onCompletion f).Over fs := by
  by_cases mem : f ∈ s.todo
  · obtain ⟨t, kept, is⟩ := onCompletion_eq mem
    rw [is]
    rcases kept with rfl | ⟨rfl, nil⟩
    · rcases ended with settled | nil
      · exact .inl settled
      · rw [nil] at mem
        cases mem
    · exact .inr nil
  · have idle : s.onCompletion f = s := by
      rw [State.onCompletion, if_neg mem]
      exact ite_self _
    rwa [idle]

theorem step_over {a : Action F R} (inv : Inv fs before s) (ended : s.Over fs)
    (stepped : step s a = some s') : s'.Over fs := by
  cases a with
  | complete f outcome =>
    rw [step] at stepped
    split at stepped
    next => cases stepped
    next fresh =>
      cases stepped
      -- a future that completes is one more that is done
      rcases ended with (all | timer) | nil
      · refine .inl (.inl fun g mem => ?_)
        dsimp only
        split
        · rfl
        · exact all g mem
      · exact .inl (.inr timer)
      · exact .inr nil
  | fireTimer =>
    rw [step] at stepped
    split at stepped
    · cases stepped
      exact .inl (.inr (.inl rfl))
    · cases stepped
  | await i =>
    obtain ⟨done, -, rfl⟩ := Option.map_eq_some_iff.mp stepped
    exact ended
  | cancelAwait i =>
    obtain ⟨⟨done, woken⟩, -, rfl⟩ := Option.map_eq_some_iff.mp stepped
    exact ended
  | tick =>
    rw [step] at stepped
    split at stepped
    next => cases stepped
    next handle rest ready =>
      cases stepped
      cases handle with
      | onCompletion f => exact onCompletion_over (s := s.popped rest) ended
      | onTimeout =>
        rw [State.runHandle]
        split
        · have ran := onTimeout_ran
            (s := { s.popped rest with timeoutHandle := some .ran }) inv.done
          exact .inl (.inr (.inr ran))
        · exact ended
      | wakeup i => exact ended

/-- An awaitable that is awaited stays so, is resolved or is cancelled; and it is cancelled
    by an action. -/
structure Awaits (a : Action F R) (s s' : State F R) : Prop where
  fresh : ∀ i : Nat, s'.done.consumers[i]? = some .created → s.done.consumers[i]? = some .created
  struck : ∀ i, s'.done.Struck i → s.done.Struck i ∨ a = .cancelAwait i

theorem runHandle_awaits {handle : Handle F} (inv : s.done.Inv) :
    Awaits .tick s (s.runHandle handle) := by
  have same : Awaits .tick s s := ⟨fun _ => id, fun _ => .inl⟩
  cases handle with
  | onCompletion f =>
    rw [State.runHandle]
    by_cases mem : f ∈ s.todo
    · obtain ⟨t, -, is⟩ := onCompletion_eq mem
      have put := putNowait_put (s := { s with todo := s.todo.erase f }) inv (some f)
      rw [is]
      exact ⟨put.fresh, fun i struck => .inl (put.struck i struck)⟩
    · rw [State.onCompletion, if_neg mem, ite_self]
      exact same
  | onTimeout =>
    rw [State.runHandle]
    split
    · obtain ⟨s', is, put, -⟩ := onTimeout_put
        (s := { s with timeoutHandle := some .ran }) inv
      rw [is]
      exact ⟨put.fresh, fun i struck => .inl (put.struck i struck)⟩
    · exact same
  | wakeup i => exact ⟨(inv.resume i).fresh, fun j struck => .inl (inv.resume_struck struck)⟩

theorem step_awaits {a : Action F R} (inv : Inv fs before s) (stepped : step s a = some s') :
    Awaits a s s' := by
  cases a with
  | complete f outcome =>
    rw [step] at stepped
    split at stepped
    · cases stepped
    · cases stepped
      exact ⟨fun _ => id, fun _ => .inl⟩
  | fireTimer =>
    rw [step] at stepped
    split at stepped
    · cases stepped
      exact ⟨fun _ => id, fun _ => .inl⟩
    · cases stepped
  | await i =>
    obtain ⟨done, gets, rfl⟩ := Option.map_eq_some_iff.mp stepped
    exact ⟨(inv.done.get? gets).fresh, fun j struck => .inl (AsyncQueue.get?_struck gets struck)⟩
  | cancelAwait i =>
    obtain ⟨⟨done, woken⟩, cancels, rfl⟩ := Option.map_eq_some_iff.mp stepped
    refine ⟨(inv.done.cancel? cancels).fresh, fun j struck => ?_⟩
    -- only the consumer that is cancelled is struck
    rcases AsyncQueue.cancel?_struck cancels struck with rfl | old
    · exact .inr rfl
    · exact .inl old
  | tick =>
    rw [step] at stepped
    split at stepped
    next => cases stepped
    next handle rest ready =>
      cases stepped
      have ran : Awaits .tick (s.popped rest) ((s.popped rest).runHandle handle) :=
        runHandle_awaits inv.done
      exact ⟨ran.fresh, ran.struck⟩

/-- What has been put: outcomes of futures in the order of their arrival, and then dummies,
    if the timeout has run. -/
structure Delivered (s : State F R) (fs : List F) (before : List (F × R))
    (finished : List F) : Prop where
  puts : s.done.puts =
    finished.map some ++ List.replicate (s.done.puts.length - finished.length) none
  distinct : finished.Nodup
  arrivals : finished <+: s.arrivals fs before
  timeout : finished.length < s.done.puts.length → s.timeoutHandle = some .ran

theorem Inv.delivered (inv : Inv fs before s) (distinct : fs.Nodup) :
    ∃ finished, Delivered s fs before finished := by
  obtain ⟨finished, ⟨notRan, counting⟩ | ⟨ran, timedOut⟩⟩ := inv.phase
  · have length : s.done.puts.length = finished.length := by
      rw [counting.puts, List.length_map]
    refine ⟨finished, ?_, ?_, ?_, fun more => absurd more (by omega)⟩
    · rw [length, Nat.sub_self, counting.puts]
      exact (List.append_nil _).symm
    · exact (List.nodup_append.mp (counting.all.nodup_iff.mp distinct)).1
    · rw [counting.arrivals]
      exact List.prefix_append _ _
  · have length := inv.puts_length
    rw [timedOut.todo, List.length_nil, Nat.add_zero] at length
    refine ⟨finished, ?_, ?_, timedOut.arrivals, fun _ => ran⟩
    · rw [length]
      exact timedOut.puts
    · obtain ⟨l, perm, within⟩ := timedOut.within
      exact perm.nodup_iff.mp (distinct.sublist within)

/-- An item that was taken is the outcome of a future, or the timeout has run. -/
theorem Inv.resolved (inv : Inv fs before s) (distinct : fs.Nodup) {i : Nat} {item : Option F}
    (got : s.done.consumers[i]? = some (.got item)) :
    match item with
    | some f => ∃ r, s.outcomes f = some r ∧ s.resolution i = some (.outcome r)
    | none => s.timeoutHandle = some .ran ∧ s.resolution i = some .timeoutError := by
  obtain ⟨finished, delivered⟩ := inv.delivered distinct
  have put : item ∈ s.done.puts := by
    rw [inv.done.books.logged]
    have taken := (inv.done.books.takers i item).mp got
    exact List.mem_append_left _ (List.mem_map.mpr ⟨_, taken, rfl⟩)
  rw [delivered.puts, List.mem_append] at put
  cases item with
  | some f =>
    rcases put with put | put
    -- an outcome: the future has arrived, so it is done
    · obtain ⟨g, mem, same⟩ := List.mem_map.mp put
      cases same
      obtain ⟨r, outcome⟩ := Option.isSome_iff_exists.mp
        (isSome_of_arrived inv (delivered.arrivals.subset mem))
      exact ⟨r, outcome, by simp [State.resolution, got, outcome]⟩
    · cases List.eq_of_mem_replicate put
  | none =>
    rcases put with put | put
    · simp at put
    -- a dummy: more has been put than outcomes
    · refine ⟨delivered.timeout ?_, by rw [State.resolution, got]⟩
      have some : s.done.puts.length - finished.length ≠ 0 := fun zero => by
        rw [zero] at put
        cases put
      omega

section Fair

variable {timeout : Bool} {t : Trace step (start fs timeout before)}

/-- The loop goes on running handles while there are any. -/
def Fair (t : Trace step (start fs timeout before)) : Prop :=
  ∀ n, (t.state n).ready ≠ [] → ∃ m, n ≤ m ∧ t.action m = some .tick

theorem inv_at (t : Trace step (start fs timeout before)) (distinct : fs.Nodup) (n : Nat) :
    Inv fs before (t.state n) :=
  reaches_inv distinct (t.reaches (fun _ _ _ => trivial) n)

/-- Only an action cancels. -/
theorem struck_by (distinct : fs.Nodup) {n i : Nat} (struck : (t.state n).done.Struck i) :
    ∃ k, k < n ∧ t.action k = some (.cancelAwait i) := by
  induction n with
  | zero =>
    rw [t.starts, start_eq] at struck
    obtain ⟨consumer, there, is⟩ := struck
    rw [List.eq_of_mem_replicate (List.mem_of_getElem? there)] at is
    exact is.elim
  | succ n ih =>
    have earlier (old : (t.state n).done.Struck i) :
        ∃ k, k < n + 1 ∧ t.action k = some (.cancelAwait i) := by
      obtain ⟨k, before, acts⟩ := ih old
      exact ⟨k, Nat.lt_succ_of_lt before, acts⟩
    cases acts : t.action n with
    | none =>
      rw [t.rests n acts] at struck
      exact earlier struck
    | some a =>
      rcases (step_awaits (inv_at t distinct n) (t.moves n a acts)).struck i struck with old | rfl
      · exact earlier old
      · exact ⟨n, Nat.lt_succ_self n, acts⟩

/-- An awaitable that is awaited when all futures are done, or the timeout has fired, does not
    stay so. -/
theorem not_awaited_forever (distinct : fs.Nodup) (fair : Fair t) {n i : Nat}
    (ended : (t.state n).Over fs) : ∃ m, n ≤ m ∧ ¬ (t.state m).Awaited i := by
  by_contra never
  have awaited : ∀ m, n ≤ m → (t.state m).Awaited i := fun m later =>
    not_not.mp fun out => never ⟨m, later, out⟩
  have overs : ∀ m, n ≤ m → (t.state m).Over fs := fun m later =>
    t.holds_from (P := fun s => s.Over fs) ended (fun k _ a acts ended =>
      step_over (inv_at t distinct k) ended (t.moves k a acts)) later
  -- as long as it is awaited something is ready, so the loop runs again and again
  have ticks : ∀ m, n ≤ m → ∃ k, m ≤ k ∧ t.Takes (· = .tick) k := fun m later => by
    have busy : (t.state m).ready ≠ [] := fun idle =>
      (inv_at t distinct m).nobody_awaited (overs m later) idle i (awaited m later)
    obtain ⟨k, after, acts⟩ := fair m busy
    exact ⟨k, after, _, acts, rfl⟩
  -- but no step raises the rank, and every tick lowers it
  have ranked : ∀ m, n ≤ m → ∀ a w, t.action m = some a → (t.state m).rank fs.length = w →
      False ∨ ∃ w', (t.state (m + 1)).rank fs.length = w' ∧ w' ≤ w ∧ (a = .tick → w' < w) := by
    intro m later a w acts is
    obtain ⟨lower, strictly⟩ := step_rank (inv_at t distinct m) (t.moves m a acts)
    subst is
    exact .inr ⟨_, rfl, lower, strictly⟩
  obtain ⟨_, _, impossible⟩ := @Trace.eventually_of_rank _ _ _ _ t Nat _ _
    (fun s w => s.rank fs.length = w) (fun _ => False) (· = .tick) n ranked ticks _ rfl
  exact impossible

/-- It is resolved, or it has been cancelled. -/
theorem awaited_resolves (distinct : fs.Nodup) (fair : Fair t) {n i : Nat}
    (settled : (t.state n).Settled fs) (awaited : (t.state n).Awaited i) :
    ∃ m, n ≤ m ∧ (((t.state m).resolution i).isSome ∨
      ∃ k, k < m ∧ t.action k = some (.cancelAwait i)) := by
  obtain ⟨m, later, out⟩ := not_awaited_forever (i := i) distinct fair (.inl settled)
  refine ⟨m, later, ?_⟩
  have inv := inv_at t distinct m
  -- it has been awaited, and what has been awaited stays so
  have started : (t.state m).done.consumers[i]? ≠ some .created := by
    refine t.holds_from (P := fun s => s.done.consumers[i]? ≠ some .created) (fun created => ?_)
      (fun k _ a acts old new => ?_) later
    · rcases awaited with waits | ⟨consumer, there, scheduled⟩
      · rw [created] at waits
        cases waits
      · rw [created] at there
        cases there
        exact scheduled
    · exact old ((step_awaits (inv_at t distinct k) (t.moves k a acts)).fresh i new)
  have inside : i < (t.state m).done.consumers.length := by
    rw [inv.size, ← (inv_at t distinct n).size]
    rcases awaited with waits | ⟨consumer, there, -⟩
    · exact (List.getElem?_eq_some_iff.mp waits).1
    · exact (List.getElem?_eq_some_iff.mp there).1
  have there : (t.state m).done.consumers[i]? = some (t.state m).done.consumers[i] :=
    List.getElem?_eq_getElem inside
  cases consumer : (t.state m).done.consumers[i] with
  | created => exact absurd (there.trans (congrArg _ consumer)) started
  | waiting => exact absurd (.inl (there.trans (congrArg _ consumer))) out
  | woken mustCancel =>
    exact absurd (.inr ⟨_, there.trans (congrArg _ consumer), trivial⟩) out
  | cancelling => exact absurd (.inr ⟨_, there.trans (congrArg _ consumer), trivial⟩) out
  | got item =>
    have resolved := inv.resolved distinct (there.trans (congrArg _ consumer))
    left
    cases item with
    | some f =>
      obtain ⟨r, -, is⟩ := resolved
      rw [is]
      rfl
    | none =>
      rw [resolved.2]
      rfl
  | cancelled =>
    exact .inr (struck_by distinct ⟨_, there.trans (congrArg _ consumer), trivial⟩)

end Fair

/-- What `as_completed` promises in a state: what has been put and what is still to do add up;
    the outcomes come in the order of arrival, and then `TimeoutError`; every item is taken
    by one awaitable, in this order, which resolves to it. -/
structure Promises (s : State F R) (fs : List F) (before : List (F × R)) : Prop where
  counts : s.done.puts.length + s.todo.length = fs.length
  delivered : ∃ finished, Delivered s fs before finished
  inOrder : s.done.takes.map Prod.snd <+: s.done.puts
  once : (s.done.takes.map Prod.fst).Nodup
  takers : ∀ i item, s.done.consumers[i]? = some (.got item) ↔ (i, item) ∈ s.done.takes
  outcome : ∀ i f, s.done.consumers[i]? = some (.got (some f)) →
    ∃ r, s.outcomes f = some r ∧ s.resolution i = some (.outcome r)
  timeout : ∀ i, s.done.consumers[i]? = some (.got none) →
    s.timeoutHandle = some .ran ∧ s.resolution i = some .timeoutError

theorem Inv.promises (inv : Inv fs before s) (distinct : fs.Nodup) : Promises s fs before where
  counts := inv.puts_length
  delivered := inv.delivered distinct
  inOrder := by
    rw [inv.done.books.logged]
    exact List.prefix_append _ _
  once := inv.done.books.once
  takers := inv.done.books.takers
  outcome _ _ got := inv.resolved distinct got
  timeout _ got := inv.resolved distinct got

/-- In every run of an iteration over distinct futures, the outcomes that are delivered and
    the futures still to do add up to all, each awaitable that gets one resolves to the
    outcome of another future, in the order of arrival, or after the timeout to
    `TimeoutError`; and where the loop runs what is ready, an awaitable that is awaited is
    resolved once all futures are done or the timeout has fired, unless it is cancelled. -/
theorem each_delivered_once (distinct : fs.Nodup) {timeout : Bool} :
    (∀ s, Reaches step (fun _ _ => True) (start fs timeout before) s → Promises s fs before) ∧
      ∀ t : Trace step (start fs timeout before), Fair t →
        ∀ n i, (t.state n).Settled fs → (t.state n).Awaited i →
          ∃ m, n ≤ m ∧ (((t.state m).resolution i).isSome ∨
            ∃ k, k < m ∧ t.action k = some (.cancelAwait i)) :=
  ⟨fun _ run => (reaches_inv distinct run).promises distinct,
    fun _ fair _ _ => awaited_resolves distinct fair⟩

/-- The first of two futures completes, then the timeout fires. -/
theorem each_delivered_once_timeout :
    ∃ s, Reaches step (fun _ _ => True) (start [0, 1] true ([] : List (Nat × String))) s ∧
      Promises s [0, 1] ([] : List (Nat × String)) ∧
      s.resolution 0 = some (.outcome "a") ∧ s.resolution 1 = some .timeoutError := by
  have ran : runActions step (start [0, 1] true ([] : List (Nat × String)))
      [.await 0, .complete 0 "a", .fireTimer, .tick, .tick, .tick, .await 1] = some _ := rfl
  have run := Reaches.init.of_runActions (fun _ _ _ => trivial) ran
  have all := @each_delivered_once Nat String _ [0, 1] [] (by decide) true
  exact ⟨_, run, all.1 _ run, rfl, rfl⟩

/-- Futures that are done when the iteration starts are delivered as they are listed,
    whichever completed first. -/
theorem listed_before_completed : ¬ ∀ (fs : List Nat) (before : List (Nat × String)) s,
    fs.Nodup → (before.map Prod.fst).Nodup →
      Reaches step (fun _ _ => True) (start fs false before) s →
      ∃ finished, s.done.puts = finished.map some ++
          List.replicate (s.done.puts.length - finished.length) none ∧
        finished <+: s.completions.filter fun f => f ∈ fs := by
  intro claimed
  have ran : runActions step (start [0, 1] false [(1, "b"), (0, "a")]) [.tick, .tick] = some _ := rfl
  obtain ⟨finished, puts, inOrder⟩ := claimed [0, 1] [(1, "b"), (0, "a")] _ (by decide) (by decide)
    (Reaches.init.of_runActions (fun _ _ _ => trivial) ran)
  change [some 0, some 1] = finished.map some ++ List.replicate (2 - finished.length) none at puts
  change finished <+: [1, 0] at inOrder
  cases finished with
  | nil => simp at puts
  | cons f rest =>
    have first : some 0 = some f := (List.cons.inj puts).1
    have second : f = 1 := (List.cons_prefix_cons.mp inOrder).1
    rw [second] at first
    cases first

end TemporalSdk.AsCompleted
